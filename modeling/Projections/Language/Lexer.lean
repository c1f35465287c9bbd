import Projections.Language.Token
import Projections.Number.Reading
import Projections.Number.Checked

/-! Source text as tokens. The longest token wins: identifiers and numbers run as
far as they can, and two-character signs go before their first character alone.
A dot belongs to a number only if a digit follows it. -/

namespace Projections

inductive LexError where
  | unexpectedCharacter (c : Char) (position : Nat)
  | incompleteOperator (c : Char) (position : Nat) (hint : String)
  | unterminatedString (position : Nat)
  | invalidEscape (c : Char) (position : Nat)
  | invalidNumber (text : String) (position : Nat)
deriving DecidableEq

def LexError.message : LexError → String
  | .unexpectedCharacter c position =>
    "unexpected character '" ++ c.toString ++ "' at position " ++ toString position
  | .incompleteOperator c position hint =>
    "unexpected '" ++ c.toString ++ "' at position " ++ toString position ++
      " (did you mean '" ++ hint ++ "'?)"
  | .unterminatedString position =>
    "unterminated string starting at position " ++ toString position
  | .invalidEscape c position =>
    "invalid escape sequence '\\" ++ c.toString ++ "' at position " ++ toString position
  | .invalidNumber text position =>
    "invalid number '" ++ text ++ "' at position " ++ toString position

namespace Lexer

/-! ### Classes of characters -/

def startsName (c : Char) : Bool := Text.isAlphabetic c || c == '_'

def continuesName (c : Char) : Bool := Text.isAlphanumeric c || c == '_'

/-- Words that are not identifiers. -/
def keyword? : String → Option Token
  | "and" => some .and
  | "or" => some .or
  | "true" => some (.boolean true)
  | "false" => some (.boolean false)
  | "null" => some .null
  | _ => none

def word (cs : List Char) : Token :=
  let name := String.ofList cs
  (keyword? name).getD (.identifier name)

/-! ### Strings -/

def unescape? : Char → Option Char
  | 'n' => some '\n'
  | 't' => some '\t'
  | 'r' => some '\r'
  | '"' => some '"'
  | '\'' => some '\''
  | '\\' => some '\\'
  | _ => none

/-- The decoded text up to the closing quote and the width of its source, that
quote included. The string starts at `start`; what is left begins at `position`. -/
def scanString (quote : Char) (start : Nat) :
    (position : Nat) → List Char → Except LexError (List Char × Nat)
  | _, [] => .error (.unterminatedString start)
  | position, c :: rest =>
    if c = quote then .ok ([], 1)
    else if c = '\\' then
      match rest with
      | [] => .error (.unterminatedString start)
      | mark :: rest =>
        match unescape? mark with
        | none => .error (.invalidEscape mark (position + 1))
        | some decoded =>
          match scanString quote start (position + 2) rest with
          | .ok (text, width) => .ok (decoded :: text, width + 2)
          | .error e => .error e
    else
      match scanString quote start (position + 1) rest with
      | .ok (text, width) => .ok (c :: text, width + 1)
      | .error e => .error e

/-! ### Numbers -/

/-- Digits, and a fraction if a point with a digit follows. -/
def scanNumber (position : Nat) (cs : List Char) : Except LexError (Token × Nat) :=
  let whole := cs.takeWhile Char.isDigit
  let integer : Except LexError (Token × Nat) :=
    match checkedInt64 (readDigits whole) with
    | some n => .ok (.integer n, whole.length)
    | none => .error (.invalidNumber (String.ofList whole) position)
  match cs.dropWhile Char.isDigit with
  | '.' :: rest =>
    let fraction := rest.takeWhile Char.isDigit
    if fraction.isEmpty then integer
    else .ok (.float (.ofPoint whole fraction), whole.length + 1 + fraction.length)
  | _ => integer

/-! ### One token -/

/-- A sign that is two characters when `next` follows, else an error. -/
def pair (position : Nat) (c : Char) (next : Char) (token : Token) (rest : List Char) :
    Except LexError (Token × Nat) :=
  if rest.head? = some next then .ok (token, 2)
  else .error (.incompleteOperator c position (String.ofList [c, next]))

/-- A sign that is longer when `=` follows. -/
def withEqual (single double : Token) (rest : List Char) : Token × Nat :=
  if rest.head? = some '=' then (double, 2) else (single, 1)

/-- The token that starts with `c`, and its width. -/
def scan (position : Nat) (c : Char) (rest : List Char) : Except LexError (Token × Nat) :=
  match c with
  | '.' => .ok (.dot, 1)
  | ',' => .ok (.comma, 1)
  | ':' => .ok (.colon, 1)
  | '+' => .ok (.plus, 1)
  | '-' => .ok (.minus, 1)
  | '*' => .ok (.star, 1)
  | '/' => .ok (.slash, 1)
  | '%' => .ok (.percent, 1)
  | '(' => .ok (.openParen, 1)
  | ')' => .ok (.closeParen, 1)
  | '[' => .ok (.openBracket, 1)
  | ']' => .ok (.closeBracket, 1)
  | '{' => .ok (.openBrace, 1)
  | '}' => .ok (.closeBrace, 1)
  | '=' =>
    match rest.head? with
    | some '>' => .ok (.arrow, 2)
    | some '=' => .ok (.equal, 2)
    | _ => .error (.incompleteOperator c position "==' or '=>")
  | '!' => .ok (withEqual .bang .notEqual rest)
  | '<' => .ok (withEqual .less .lessEqual rest)
  | '>' => .ok (withEqual .greater .greaterEqual rest)
  | '&' => pair position c '&' .and rest
  | '|' => pair position c '|' .or rest
  | '?' => pair position c '?' .coalesce rest
  | '"' | '\'' =>
    match scanString c position (position + 1) rest with
    | .ok (text, width) => .ok (.string (String.ofList text), width + 1)
    | .error e => .error e
  | _ =>
    if startsName c then
      let name := c :: rest.takeWhile continuesName
      .ok (word name, name.length)
    else if c.isDigit then scanNumber position (c :: rest)
    else .error (.unexpectedCharacter c position)

/-! ### All tokens -/

/-- A place in the source: how many characters are behind, and those ahead. -/
structure Cursor where
  position : Nat
  rest : List Char

namespace Cursor

def start (source : List Char) : Cursor := ⟨0, source⟩

def advance (width : Nat) (cursor : Cursor) : Cursor :=
  ⟨cursor.position + width, cursor.rest.drop width⟩

def skipBlanks (cursor : Cursor) : Cursor :=
  cursor.advance (cursor.rest.takeWhile Text.isBlank).length

/-- The next token, if there is one, and the place after it. -/
def next (cursor : Cursor) : Except LexError (Option Token × Cursor) :=
  let cursor := cursor.skipBlanks
  match cursor.rest with
  | [] => .ok (none, cursor)
  | c :: rest =>
    match scan cursor.position c rest with
    | .ok (token, width) => .ok (some token, cursor.advance width)
    | .error e => .error e

end Cursor

/-- Where the tokens of a source stop: at its end, or at an error. -/
inductive Ending where
  | finished (position : Nat)
  | failed (error : LexError)
deriving DecidableEq

end Lexer

/-- The tokens of a source up to its end or its first error. -/
structure Lexed where
  lexemes : List Lexeme
  ending : Lexer.Ending
deriving DecidableEq

namespace Lexed

def tokens (lexed : Lexed) : List Token := lexed.lexemes.map (·.token)

/-- Every token takes a character, so as many turns suffice as there are characters. -/
def collect : Nat → Lexer.Cursor → Lexed
  | 0, cursor => ⟨[], .finished cursor.position⟩
  | turns + 1, cursor =>
    match cursor.next with
    | .error e => ⟨[], .failed e⟩
    | .ok (none, after) => ⟨[], .finished after.position⟩
    | .ok (some token, after) =>
      let lexed := collect turns after
      ⟨⟨token, after.position⟩ :: lexed.lexemes, lexed.ending⟩

def ofChars (source : List Char) : Lexed := collect source.length (.start source)

end Lexed

/-- All tokens of a source. -/
def lex (source : String) : Lexed := .ofChars source.toList

end Projections
