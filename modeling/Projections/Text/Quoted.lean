import Projections.Text.Letter

/-! Texts between double quotes. The source form escapes what the lexer would
misread; the report form, used in messages, also spells out characters that do
not print. -/

namespace Projections.Text

/-! ### Source form -/

def sourceEscape : Char → List Char
  | '"' => ['\\', '"']
  | '\\' => ['\\', '\\']
  | '\n' => ['\\', 'n']
  | '\r' => ['\\', 'r']
  | '\t' => ['\\', 't']
  | c => [c]

def sourceQuoted (cs : List Char) : List Char :=
  '"' :: cs.flatMap sourceEscape ++ ['"']

/-! ### Report form -/

/-- A code point in lower-case hexadecimal between braces. -/
def codeEscape (c : Char) : List Char :=
  ['\\', 'u', '\x7b'] ++ Nat.toDigits 16 c.toNat ++ ['\x7d']

def reportEscape (c : Char) : List Char :=
  if c = Char.ofNat 0 then ['\\', '0']
  else if c = '"' ∨ c = '\\' ∨ c = '\n' ∨ c = '\r' ∨ c = '\t' then sourceEscape c
  else if isExtending c || !isPrintable c then codeEscape c
  else [c]

def reportQuoted (cs : List Char) : List Char :=
  '"' :: cs.flatMap reportEscape ++ ['"']

end Projections.Text
