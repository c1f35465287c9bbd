import Projections.Number.Shortest

/-! Texts of floating-point values. A style says where positional notation is
used, whether integral values keep `.0`, and how exponents and ties are written. -/

namespace Projections

structure NumberStyle where
  /-- Integral values in positional notation end in `.0`. -/
  pointZero : Bool
  /-- Leading exponents written positionally: from the first, below the second. -/
  positional : Option (Int × Int)
  /-- A sign before positive exponents. -/
  plusSign : Bool
  tie : Tie

namespace NumberStyle

/-- Positional from `1e-4` below `1e16`, scientific beyond. -/
def concise : NumberStyle := ⟨true, some (-4, 16), false, .up⟩

/-- Always positional, without `.0`. -/
def plain : NumberStyle := ⟨false, none, false, .up⟩

/-- Numbers in JSON text. -/
def json : NumberStyle := ⟨true, some (-5, 16), true, .even⟩

end NumberStyle

namespace Numeral

def digitChars (n : Numeral) : List Char := Nat.toDigits 10 n.digits

/-- Digits before the point; not positive for numbers below one tenth. -/
def point (n : Numeral) : Int := n.digitChars.length + n.exponent

def positional (n : Numeral) (pointZero : Bool) : List Char :=
  let digits := n.digitChars
  if 0 ≤ n.exponent then
    digits ++ List.replicate n.exponent.toNat '0' ++ if pointZero then ['.', '0'] else []
  else if 0 < n.point then
    digits.take n.point.toNat ++ '.' :: digits.drop n.point.toNat
  else
    '0' :: '.' :: List.replicate (-n.point).toNat '0' ++ digits

def scientific (n : Numeral) (plusSign : Bool) : List Char :=
  let exponent := n.point - 1
  let mantissa := match n.digitChars with
    | first :: [] => [first]
    | first :: rest => first :: '.' :: rest
    | [] => []
  let sign := if exponent < 0 then ['-'] else if plusSign then ['+'] else []
  mantissa ++ 'e' :: sign ++ Nat.toDigits 10 exponent.natAbs

def text (n : Numeral) (style : NumberStyle) : List Char :=
  let leading := n.point - 1
  match style.positional with
  | some (low, high) =>
    if n.digits = 0 || (low ≤ leading && leading < high) then n.positional style.pointZero
    else n.scientific style.plusSign
  | none => n.positional style.pointZero

end Numeral

namespace Binary64

def signed (x : Binary64) (size : List Char) : String :=
  String.ofList (if x.negative then '-' :: size else size)

def text (x : Binary64) (style : NumberStyle) : String :=
  if x.isNaN then "NaN"
  else if x.isInfinite then x.signed ['i', 'n', 'f']
  else x.signed ((x.shortest style.tie).text style)

/-- The text in expressions: integral values with all their digits and `.0`,
others with the fewest digits, never scientific. -/
def sourceText (x : Binary64) : String :=
  if x.isIntegral then x.signed (Nat.toDigits 10 x.whole ++ ['.', '0'])
  else x.text .plain

end Binary64

end Projections
