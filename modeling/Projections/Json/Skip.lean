import Projections.Json.Reader

/-! Passing over documents. What is passed over has to be well formed, but it may nest
to any depth, and its numbers and escapes need not stand for anything. -/

namespace Projections.Json.Reader

/-- Passes a string whose opening quote has been read. -/
def skipString? : Reader Unit
  | '"' :: rest => some ((), rest)
  | '\\' :: 'u' :: a :: b :: c :: d :: rest =>
    if [a, b, c, d].all fun digit => (hexValue? digit).isSome then skipString? rest else none
  | '\\' :: mark :: rest => if (shortEscape? mark).isSome then skipString? rest else none
  | c :: rest => if c = '\\' ∨ c.toNat < 32 then none else skipString? rest
  | [] => none

/-- Passes a document inside which `depth` more levels may nest. -/
def skip? (depth : Nat) : Reader Unit := fun cs =>
  match skipSpace cs with
  | '"' :: rest => skipString? rest
  | '[' :: rest =>
    match depth with
    | 0 => none
    | depth + 1 => (array? (skip? depth) rest).map fun (_, rest) => ((), rest)
  | '{' :: rest =>
    match depth with
    | 0 => none
    | depth + 1 =>
      (object? skipString? (fun _ => skip? depth) rest).map fun (_, rest) => ((), rest)
  | 'n' :: rest => (after? ['u', 'l', 'l'] rest).map fun rest => ((), rest)
  | 't' :: rest => (after? ['r', 'u', 'e'] rest).map fun rest => ((), rest)
  | 'f' :: rest => (after? ['a', 'l', 's', 'e'] rest).map fun rest => ((), rest)
  | cs => (numberText? cs).map fun (_, rest) => ((), rest)

/-- Passes a document of any depth; each level takes a character at least. -/
def skipAny? : Reader Unit := fun cs => skip? cs.length cs

end Projections.Json.Reader
