import Projections.Number.Binary64

/-! Decimal texts as floating-point values, correctly rounded. -/

namespace Projections

/-! ### Digits -/

def digitValue (c : Char) : Nat := c.toNat - '0'.toNat

/-- The number a run of decimal digits stands for. -/
def readDigits (cs : List Char) : Nat :=
  cs.foldl (fun n c => 10 * n + digitValue c) 0

/-- A signed run of at least one digit. -/
def readInt? : List Char → Option Int
  | '-' :: cs => if cs.isEmpty || !cs.all Char.isDigit then none else some (-(readDigits cs : Int))
  | '+' :: cs => if cs.isEmpty || !cs.all Char.isDigit then none else some (readDigits cs)
  | cs => if cs.isEmpty || !cs.all Char.isDigit then none else some (readDigits cs)

namespace Binary64

/-- The nearest value to `digits * 10 ^ exponent`. Magnitudes far beyond the
finite range are settled by the number of digits. -/
def ofDecimal (negative : Bool) (digits : Nat) (exponent : Int) : Binary64 :=
  let size : Int := exponent + (digits.log2 * 30103 / 100000 : Nat)
  if digits = 0 || size < -400 then zero negative
  else if 400 < size then infinity negative
  else ofRatio negative (digits * tenTo exponent.toNat) (tenTo (-exponent).toNat)

/-- Digits, a point and digits, as the lexer delimits them. -/
def ofPoint (whole fraction : List Char) : Binary64 :=
  ofDecimal false (readDigits (whole ++ fraction)) (-fraction.length)

/-- An unsigned decimal: digits with at most one point and an optional exponent. -/
def readUnsigned? (negative : Bool) (cs : List Char) : Option Binary64 :=
  let whole := cs.takeWhile Char.isDigit
  let rest := cs.dropWhile Char.isDigit
  let (fraction, rest) := match rest with
    | '.' :: more => (more.takeWhile Char.isDigit, more.dropWhile Char.isDigit)
    | _ => ([], rest)
  let number (exponent : Int) :=
    ofDecimal negative (readDigits (whole ++ fraction)) (exponent - fraction.length)
  if whole.isEmpty && fraction.isEmpty then none
  else match rest with
    | [] => some (number 0)
    | mark :: exponent =>
      if mark = 'e' ∨ mark = 'E' then (readInt? exponent).map number else none

/-- A decimal text with an optional sign, or the name of infinity or a non-number. -/
def read? (cs : List Char) : Option Binary64 :=
  let (negative, size) := match cs with
    | '-' :: rest => (true, rest)
    | '+' :: rest => (false, rest)
    | _ => (false, cs)
  match String.ofList (size.map Char.toLower) with
  | "inf" | "infinity" => some (infinity negative)
  | "nan" => some (if negative then nan.neg else nan)
  | _ => readUnsigned? negative size

end Binary64

end Projections
