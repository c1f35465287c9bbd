import Projections.Number.Binary64

/-! Decimals with a mantissa of 96 bits and at most 28 places. Sums, products
and quotients are exact and then rounded, half to even, to the most places that
fit; a whole part that does not fit is no decimal. -/

namespace Projections

/-- Mantissas have 96 bits. -/
def mantissaBound : Nat := 0x1000000000000000000000000

structure Decimal where
  negative : Bool
  mantissa : Nat
  scale : Nat
  mantissa_lt : mantissa < mantissaBound
  scale_le : scale ≤ 28

namespace Decimal

/-! ### Building -/

def zero : Decimal := ⟨false, 0, 0, by decide, by decide⟩

def ofParts? (negative : Bool) (mantissa scale : Nat) : Option Decimal :=
  if h : mantissa < mantissaBound ∧ scale ≤ 28 then some ⟨negative, mantissa, scale, h.1, h.2⟩
  else none

/-- Drops as few final places as needed, rounding half to even. -/
def fit (negative : Bool) (mantissa scale : Nat) : Option Decimal :=
  (List.range (scale + 1)).findSome? fun places =>
    ofParts? negative (roundDiv mantissa (tenTo places)) (scale - places)

/-- Final zeros are dropped while there are places. -/
def strip (mantissa : Nat) : (scale : Nat) → Nat × Nat
  | 0 => (mantissa, 0)
  | scale + 1 => if mantissa % 10 = 0 then strip (mantissa / 10) scale else (mantissa, scale + 1)

/-- The signed mantissa. -/
def signed (d : Decimal) : Int := if d.negative then -d.mantissa else d.mantissa

/-- The mantissa at a scale not below its own. -/
def atScale (d : Decimal) (scale : Nat) : Nat := d.mantissa * tenTo (scale - d.scale)

/-! ### Conversion from floating point -/

/-- Takes `steps` factors of two out of the mantissa, each by halving an even
mantissa or by multiplying by five at the cost of a place; a mantissa that
leaves no room for that is cut. -/
def halve : (steps : Nat) → (mantissa scale : Nat) → Nat × Nat
  | 0, mantissa, scale => (mantissa, scale)
  | steps + 1, mantissa, scale =>
    if mantissa % 2 = 0 then halve steps (mantissa / 2) scale
    else if 5 * mantissa < mantissaBound then halve steps (5 * mantissa) (scale + 1)
    else halve steps (mantissa / 2) scale

/-- Puts `steps` factors of two into the mantissa. One for which there is no room is a
factor of ten and a fifth of the mantissa, which is cut. The tens are counted. -/
def double : (steps : Nat) → (mantissa tens : Nat) → Nat × Nat
  | 0, mantissa, tens => (mantissa, tens)
  | steps + 1, mantissa, tens =>
    if 2 * mantissa < mantissaBound then double steps (2 * mantissa) tens
    else double steps (mantissa / 5) (tens + 1)

/-- One place less, rounding half up. -/
def dropPlace (mantissa : Nat) : Nat := (mantissa + 5) / 10

/-- Places beyond 28 are dropped; what would leave nothing is zero. -/
def dropExcess (mantissa : Nat) : (scale : Nat) → Nat × Nat
  | 0 => (mantissa, 0)
  | scale + 1 =>
    if scale + 1 ≤ 28 then (mantissa, scale + 1)
    else if mantissa < 10 then (0, 0)
    else dropExcess (dropPlace mantissa) scale

/-- Places are dropped until the mantissa has at most 52 bits. -/
def dropNoise (mantissa : Nat) : (scale : Nat) → Nat × Nat
  | 0 => (mantissa, 0)
  | scale + 1 =>
    if mantissa < Binary64.leadingBit then (mantissa, scale + 1)
    else dropNoise (dropPlace mantissa) scale

/-- The decimal taken for a finite value, if its whole part fits. -/
def ofBinary64 (x : Binary64) : Option Decimal :=
  if !x.isFinite then none
  else if 0 ≤ x.exponent then
    let (mantissa, tens) := double x.exponent.toNat x.significand 0
    ofParts? x.negative (mantissa * tenTo tens) 0
  else
    let (mantissa, scale) := halve (-x.exponent).toNat x.significand 0
    let (mantissa, scale) := dropExcess mantissa scale
    let (mantissa, scale) := dropNoise mantissa scale
    let (mantissa, scale) := strip mantissa scale
    ofParts? x.negative mantissa scale

def ofInt (n : Int) : Option Decimal := ofParts? (n < 0) n.natAbs 0

/-! ### Arithmetic -/

def add (a b : Decimal) : Option Decimal :=
  let scale := max a.scale b.scale
  let part (d : Decimal) : Int := d.signed * tenTo (scale - d.scale)
  let sum := part a + part b
  fit (sum < 0) sum.natAbs scale

def neg (a : Decimal) : Decimal := { a with negative := !a.negative }

def sub (a b : Decimal) : Option Decimal := a.add b.neg

/-- Zero in a product leaves no places. -/
def mul (a b : Decimal) : Option Decimal :=
  if a.mantissa = 0 ∨ b.mantissa = 0 then some zero
  else fit (a.negative != b.negative) (a.mantissa * b.mantissa) (a.scale + b.scale)

/-- Drops that many final zeros at once, if there are as many, and places for them. -/
def dropZeros (zeros : Nat) (mantissa scale : Nat) : Nat × Nat :=
  if zeros ≤ scale ∧ mantissa % tenTo zeros = 0 then (mantissa / tenTo zeros, scale - zeros)
  else (mantissa, scale)

/-- Drops eight final zeros at a time while the low 32 bits of the mantissa are zero. -/
def dropEights (mantissa : Nat) : (scale : Nat) → Nat × Nat
  | scale + 8 =>
    if mantissa % 0x100000000 = 0 ∧ mantissa % tenTo 8 = 0 then
      dropEights (mantissa / tenTo 8) scale
    else (mantissa, scale + 8)
  | scale => (mantissa, scale)

/-- Drops final zeros of a quotient by eight and then by four, two and one, each once.
Zeros may stay; they are places, and `toBinary64` rounds to the places of a decimal. -/
def shorten (mantissa scale : Nat) : Nat × Nat :=
  let (mantissa, scale) := dropEights mantissa scale
  let (mantissa, scale) := dropZeros 4 mantissa scale
  let (mantissa, scale) := dropZeros 2 mantissa scale
  dropZeros 1 mantissa scale

/-- How many digits are appended to a quotient, in groups of nine, until it comes out
even. Decimals have no room for more groups than six. -/
def digitsToEven? (dividend divisor : Nat) : Option Nat :=
  ((List.range 7).map (9 * ·)).find? fun digits => dividend * tenTo digits % divisor = 0

/-- A quotient rounded to the most places that fit, or to the places at which its last
group of digits ends, if it comes out even there. -/
def longQuotient (negative : Bool) (a b : Decimal) : Option Decimal := do
  let rounded (scale : Nat) := roundDiv (a.mantissa * tenTo (scale + b.scale - a.scale)) b.mantissa
  let scales := (List.range (29 - (a.scale - b.scale))).map (28 - ·)
  let most ← scales.find? (rounded · < mantissaBound)
  let scale := match digitsToEven? a.mantissa b.mantissa with
    | some digits => min (digits + a.scale - b.scale) most
    | none => most
  let (mantissa, scale) := shorten (rounded scale) scale
  ofParts? negative mantissa scale

/-- A quotient of mantissas that comes out even keeps its places. -/
def div (a b : Decimal) : Option Decimal :=
  let negative := a.negative != b.negative
  if b.mantissa = 0 then none
  else if a.mantissa = 0 then some zero
  else if a.mantissa % b.mantissa = 0 then
    ofParts? negative (a.mantissa / b.mantissa * tenTo (b.scale - a.scale)) (a.scale - b.scale)
  else longQuotient negative a b

/-- The remainder of the quotient cut toward zero; it has the dividend's sign. -/
def rem (a b : Decimal) : Option Decimal :=
  let scale := max a.scale b.scale
  if b.mantissa = 0 then none
  else if a.mantissa = 0 ∨ a.atScale scale = b.atScale scale then some zero
  else if a.atScale scale < b.atScale scale then some a
  else ofParts? a.negative (a.atScale scale % b.atScale scale) scale

/-! ### Leaving decimals -/

/-- The value, if it is whole. -/
def toInt? (d : Decimal) : Option Int :=
  if d.mantissa % tenTo d.scale = 0 then
    let size : Int := (d.mantissa / tenTo d.scale : Nat)
    some (if d.negative then -size else size)
  else none

/-- Whole and fractional part are converted apart; their sum is rounded to the
decimal's places. -/
def toBinary64 (d : Decimal) : Binary64 :=
  let unit := tenTo d.scale
  let whole := Binary64.ofNat (d.mantissa / unit)
  let size :=
    if d.mantissa % unit = 0 then whole
    else
      let value := whole.add ((Binary64.ofNat (d.mantissa % unit)).div (Binary64.ofNat unit))
      let places := (Binary64.ofNat 10).pow d.scale
      (value.mul places).round.div places
  if d.negative ∧ d.mantissa ≠ 0 then size.neg else size

end Decimal

end Projections
