import Projections.Json.Basic
import Projections.Number.Reading

/-! Reading documents. Of repeated names the last counts. Nesting is limited, and
the limit is what bounds the recursion. -/

namespace Projections.Json

/-- What reads something from the start of a text, and gives the rest of it. -/
abbrev Reader (α : Type) := List Char → Option (α × List Char)

/-- How many arrays and objects may enclose one another. -/
def nestingLimit : Nat := 127

namespace Reader

def isSpace (c : Char) : Bool := c = ' ' || c = '\n' || c = '\t' || c = '\r'

def skipSpace (cs : List Char) : List Char := cs.dropWhile isSpace

/-- What follows a given run of characters. -/
def after? : (expected : List Char) → List Char → Option (List Char)
  | [], cs => some cs
  | e :: expected, c :: cs => if c = e then after? expected cs else none
  | _ :: _, [] => none

/-! ### Strings -/

def hexValue? (c : Char) : Option Nat :=
  if c.isDigit then some (c.toNat - '0'.toNat)
  else if 'a' ≤ c ∧ c ≤ 'f' then some (c.toNat - 'a'.toNat + 10)
  else if 'A' ≤ c ∧ c ≤ 'F' then some (c.toNat - 'A'.toNat + 10)
  else none

/-- Four hexadecimal digits. -/
def unit? : Reader Nat
  | a :: b :: c :: d :: rest => do
    let a ← hexValue? a
    let b ← hexValue? b
    let c ← hexValue? c
    let d ← hexValue? d
    some (((a * 16 + b) * 16 + c) * 16 + d, rest)
  | _ => none

/-- The character of a numeric escape: one unit, or a high and a low surrogate. -/
def codeEscape? : Reader Char := fun cs => do
  let (first, rest) ← unit? cs
  if first < 0xD800 ∨ 0xE000 ≤ first then some (Char.ofNat first, rest)
  else if 0xDC00 ≤ first then none
  else
    let (second, rest) ← unit? (← after? ['\\', 'u'] rest)
    if 0xDC00 ≤ second ∧ second < 0xE000 then
      some (Char.ofNat (0x10000 + (first - 0xD800) * 0x400 + (second - 0xDC00)), rest)
    else none

def shortEscape? : Char → Option Char
  | '"' => some '"'
  | '\\' => some '\\'
  | '/' => some '/'
  | 'b' => some (Char.ofNat 8)
  | 'f' => some (Char.ofNat 12)
  | 'n' => some '\n'
  | 'r' => some '\r'
  | 't' => some '\t'
  | _ => none

/-- The characters up to the closing quote. Each takes at least one of the source. -/
def characters : Nat → Reader (List Char)
  | 0, _ => none
  | _ + 1, [] => none
  | _ + 1, '"' :: rest => some ([], rest)
  | turns + 1, '\\' :: 'u' :: rest => do
    let (c, rest) ← codeEscape? rest
    let (cs, rest) ← characters turns rest
    some (c :: cs, rest)
  | turns + 1, '\\' :: mark :: rest => do
    let c ← shortEscape? mark
    let (cs, rest) ← characters turns rest
    some (c :: cs, rest)
  | turns + 1, c :: rest => do
    if c = '\\' ∨ c.toNat < 32 then none
    else
      let (cs, rest) ← characters turns rest
      some (c :: cs, rest)

/-- A string whose opening quote has been read. -/
def string? : Reader String := fun cs =>
  (characters cs.length cs).map fun (text, rest) => (String.ofList text, rest)

/-! ### Numbers -/

/-- A number as written. -/
structure NumberText where
  negative : Bool
  whole : List Char
  fraction : Option (List Char)
  exponent : Option Int

def digits (cs : List Char) : List Char × List Char :=
  (cs.takeWhile Char.isDigit, cs.dropWhile Char.isDigit)

def whole? : Reader (List Char) := fun cs =>
  match digits cs with
  | ([], _) => none
  | ('0' :: _ :: _, _) => none
  | (whole, rest) => some (whole, rest)

def fraction? : Reader (Option (List Char))
  | '.' :: rest =>
    match digits rest with
    | ([], _) => none
    | (fraction, rest) => some (some fraction, rest)
  | rest => some (none, rest)

def exponent? : Reader (Option Int)
  | mark :: rest =>
    if mark = 'e' ∨ mark = 'E' then
      let (negative, rest) := match rest with
        | '-' :: rest => (true, rest)
        | '+' :: rest => (false, rest)
        | rest => (false, rest)
      match digits rest with
      | ([], _) => none
      | (ds, rest) =>
        let size : Int := readDigits ds
        some (some (if negative then -size else size), rest)
    else some (none, mark :: rest)
  | [] => some (none, [])

def numberText? : Reader NumberText := fun cs => do
  let (negative, cs) := match cs with
    | '-' :: rest => (true, rest)
    | _ => (false, cs)
  let (whole, rest) ← whole? cs
  let (fraction, rest) ← fraction? rest
  let (exponent, rest) ← exponent? rest
  some (⟨negative, whole, fraction, exponent⟩, rest)

/-- Reads digits into a significand for as long as it fits 64 bits; the digits
that are left over. -/
def accumulate (significand : Nat) : List Char → Nat × List Char
  | [] => (significand, [])
  | c :: cs =>
    let next := 10 * significand + digitValue c
    if next < 0x10000000000000000 then accumulate next cs else (significand, c :: cs)

/-- A significand times a power of ten, both rounded. Powers beyond the table of
exact exponents up to 308 are divided out in steps. -/
def scale : (turns : Nat) → Binary64 → Int → Option Binary64
  | 0, x, _ => some x
  | turns + 1, x, exponent =>
    let power (n : Nat) := Binary64.ofNat (tenTo n)
    if exponent.natAbs ≤ 308 then
      if 0 ≤ exponent then
        let scaled := x.mul (power exponent.toNat)
        if scaled.isFinite then some scaled else none
      else some (x.div (power exponent.natAbs))
    else if x.isZero then some x
    else if 0 ≤ exponent then none
    else scale turns (x.div (power 308)) (exponent + 308)

/-- The float a number text stands for. Digits that do not fit the significand
count as zeros before the point and as nothing after it. -/
def floatOf (number : NumberText) : Option Json := do
  let (significand, extra) := accumulate 0 number.whole
  let fraction := number.fraction.getD []
  let (significand, unused) := accumulate significand fraction
  let shift : Int := (extra.length : Int) - (fraction.length - unused.length : Nat)
  let x ← scale 4 (Binary64.ofNat significand) (shift + number.exponent.getD 0)
  some (Json.ofBinary64 (if number.negative then x.neg else x))

def numberOf (number : NumberText) : Option Json :=
  match number.fraction, number.exponent with
  | none, none =>
    let size : Int := readDigits number.whole
    let value := if number.negative then -size else size
    if h : (-0x8000000000000000 ≤ value ∧ value < 0x10000000000000000) ∧
        ¬(number.negative ∧ size = 0) then
      some (.integer value h.1.1 h.1.2)
    else floatOf number
  | _, _ => floatOf number

def number? : Reader Json := fun cs => do
  let (number, rest) ← numberText? cs
  let value ← numberOf number
  some (value, rest)

/-! ### Documents -/

section Brackets

variable {κ α : Type}

/-- Items after an opening bracket, at least one. -/
def elements (item : Reader α) : Nat → Reader (List α)
  | 0, _ => none
  | turns + 1, cs => do
    let (first, rest) ← item cs
    match skipSpace rest with
    | ']' :: rest => some ([first], rest)
    | ',' :: rest => do
      let (items, rest) ← elements item turns rest
      some (first :: items, rest)
    | _ => none

/-- A key in quotes, a colon and an item, which may depend on the key. -/
def member (key : Reader κ) (item : κ → Reader α) : Reader (κ × α) := fun cs =>
  match skipSpace cs with
  | '"' :: rest => do
    let (key, rest) ← key rest
    match skipSpace rest with
    | ':' :: rest => do
      let (item, rest) ← item key rest
      some ((key, item), rest)
    | _ => none
  | _ => none

/-- Members after an opening brace, at least one. -/
def members (entry : Reader α) : Nat → Reader (List α)
  | 0, _ => none
  | turns + 1, cs => do
    let (first, rest) ← entry cs
    match skipSpace rest with
    | '}' :: rest => some ([first], rest)
    | ',' :: rest => do
      let (entries, rest) ← members entry turns rest
      some (first :: entries, rest)
    | _ => none

/-- The items of an array whose opening bracket has been read. -/
def array? (item : Reader α) : Reader (List α) := fun cs =>
  match skipSpace cs with
  | ']' :: rest => some ([], rest)
  | cs => elements item cs.length cs

/-- The members of an object whose opening brace has been read. -/
def object? (key : Reader κ) (item : κ → Reader α) : Reader (List (κ × α)) := fun cs =>
  match skipSpace cs with
  | '}' :: rest => some ([], rest)
  | cs => members (member key item) cs.length cs

end Brackets

/-- A document inside which `depth` more levels may nest. -/
def value? (depth : Nat) : Reader Json := fun cs =>
  match skipSpace cs with
  | '"' :: rest => (string? rest).map fun (text, rest) => (.string text, rest)
  | '[' :: rest =>
    match depth with
    | 0 => none
    | depth + 1 => (array? (value? depth) rest).map fun (items, rest) => (.array items, rest)
  | '{' :: rest =>
    match depth with
    | 0 => none
    | depth + 1 =>
      (object? string? (fun _ => value? depth) rest).map fun (entries, rest) =>
        (.object (Fields.ofList entries), rest)
  | 'n' :: rest => (after? ['u', 'l', 'l'] rest).map fun rest => (.null, rest)
  | 't' :: rest => (after? ['r', 'u', 'e'] rest).map fun rest => (.boolean true, rest)
  | 'f' :: rest => (after? ['a', 'l', 's', 'e'] rest).map fun rest => (.boolean false, rest)
  | cs => number? cs

end Reader

/-- What a reader makes of a whole text, blanks at its end aside. -/
def readWith {α : Type} (item : Reader α) (text : String) : Option α :=
  match item text.toList with
  | some (value, rest) => if (Reader.skipSpace rest).isEmpty then some value else none
  | none => none

/-- The document a text holds. -/
def read? (text : String) : Option Json := readWith (Reader.value? nestingLimit) text

end Projections.Json
