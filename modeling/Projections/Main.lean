import Projections.Command.Output

/-! The program: reads what a command line asks for, and prints what comes of it. -/

namespace Projections.Command

def usage : String :=
  "usage: resolve EXPRESSION | render NAME [switches] | run NAME [switches]"

def readError : IO.Error → ReadError
  | .noFileOrDirectory _ _ _ => .missing
  | .permissionDenied _ _ _ => .denied
  | .inappropriateType _ _ _ => .directory
  | error => .other (toString error)

def decoded (bytes : ByteArray) : Except ReadError String :=
  match String.fromUTF8? bytes with
  | some text => .ok text
  | none => .error .encoding

partial def readToEnd (stream : IO.FS.Stream) (front : ByteArray) : IO ByteArray := do
  let bytes ← stream.read 65536
  if bytes.isEmpty then return front else readToEnd stream (front ++ bytes)

def attempt (bytes : IO ByteArray) : IO (Except ReadError String) := do
  try return decoded (← bytes) catch error => return .error (readError error)

def readInput : IO (Option (Except ReadError String)) := do
  let stream ← IO.getStdin
  if ← stream.isTty then return none else return some (← attempt (readToEnd stream .empty))

/-- Reads only what the invocation needs. -/
def surroundings (invocation : Invocation) : IO Surroundings := do
  let input ← if invocation.wantsInput then readInput else pure none
  match invocation.file? with
  | none => return ⟨none, input⟩
  | some path => return ⟨some (← attempt (IO.FS.readBinFile path)), input⟩

end Projections.Command

open Projections.Command in
def main (words : List String) : IO UInt32 := do
  match Invocation.read? words with
  | none =>
    IO.eprintln usage
    return 2
  | some invocation =>
    match invocation.output (← surroundings invocation) with
    | .ok text =>
      IO.print text
      return 0
    | .error error =>
      IO.eprintln ("Error: " ++ error.message)
      return 1
