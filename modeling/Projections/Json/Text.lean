import Projections.Json.Basic
import Projections.Number.Text

/-! Writing documents: on one line without blanks, or indented by two. -/

namespace Projections.Json

/-! ### Strings -/

def escape (c : Char) : List Char :=
  if c = '"' then ['\\', '"']
  else if c = '\\' then ['\\', '\\']
  else if c.toNat = 8 then ['\\', 'b']
  else if c.toNat = 12 then ['\\', 'f']
  else if c = '\n' then ['\\', 'n']
  else if c = '\r' then ['\\', 'r']
  else if c = '\t' then ['\\', 't']
  else if c.toNat < 32 then
    ['\\', 'u', '0', '0', Nat.digitChar (c.toNat / 16), Nat.digitChar (c.toNat % 16)]
  else [c]

def quoted (text : String) : String :=
  String.ofList ('"' :: text.toList.flatMap escape ++ ['"'])

/-! ### One line -/

mutual

def text : Json → String
  | .null => "null"
  | .boolean b => toString b
  | .integer n _ _ => toString n
  | .float x _ => x.text .json
  | .string s => quoted s
  | .array items => "[" ++ String.intercalate "," (texts items) ++ "]"
  | .object fields => "\x7b" ++ String.intercalate "," (fieldTexts fields) ++ "\x7d"

def texts : List Json → List String
  | [] => []
  | item :: items => item.text :: texts items

def fieldTexts : List (String × Json) → List String
  | [] => []
  | (key, item) :: fields => (quoted key ++ ":" ++ item.text) :: fieldTexts fields

end

/-! ### Indented -/

def newline (depth : Nat) : String := "\n" ++ String.ofList (List.replicate (2 * depth) ' ')

/-- Parts on lines of their own between brackets; empty brackets stay together. -/
def block (opening closing : String) (depth : Nat) (parts : List String) : String :=
  if parts.isEmpty then opening ++ closing
  else
    opening ++ String.intercalate "," (parts.map (newline (depth + 1) ++ ·)) ++ newline depth ++
      closing

mutual

def pretty (depth : Nat) : Json → String
  | .array items => block "[" "]" depth (prettyItems (depth + 1) items)
  | .object fields => block "\x7b" "\x7d" depth (prettyFields (depth + 1) fields)
  | .null => "null"
  | .boolean b => toString b
  | .integer n _ _ => toString n
  | .float x _ => x.text .json
  | .string s => quoted s

def prettyItems (depth : Nat) : List Json → List String
  | [] => []
  | item :: items => item.pretty depth :: prettyItems depth items

def prettyFields (depth : Nat) : List (String × Json) → List String
  | [] => []
  | (key, item) :: fields => (quoted key ++ ": " ++ item.pretty depth) :: prettyFields depth fields

end

end Projections.Json
