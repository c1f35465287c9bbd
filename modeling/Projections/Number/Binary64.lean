/-! Floating point with 53 significant bits, as sign and magnitude. The magnitude
counts the representable values from zero upwards, so its order is the numeric
order; infinity comes after the finite values and the non-numbers after it.
Every operation takes the exact result and rounds it once, to the nearest value,
ties to the even one. -/

namespace Projections

/-- The quotient rounded to nearest, ties to even. -/
def roundDiv (num den : Nat) : Nat :=
  let quotient := num / den
  let twice := 2 * (num % den)
  if twice < den then quotient
  else if den < twice then quotient + 1
  else quotient + quotient % 2

def tenTo (power : Nat) : Nat := Nat.pow 10 power

structure Binary64 where
  negative : Bool
  magnitude : Fin 0x8000000000000000
deriving DecidableEq, Repr

namespace Binary64

/-! ### Classes -/

/-- The highest of 53 bits, which is not kept in the magnitude. -/
def leadingBit : Nat := 0x10000000000000

def infinityMagnitude : Nat := 0x7FF0000000000000

def isNaN (x : Binary64) : Bool := infinityMagnitude < x.magnitude.val

def isInfinite (x : Binary64) : Bool := x.magnitude.val == infinityMagnitude

def isFinite (x : Binary64) : Bool := x.magnitude.val < infinityMagnitude

def isZero (x : Binary64) : Bool := x.magnitude.val == 0

def zero (negative : Bool) : Binary64 := ⟨negative, 0⟩

def infinity (negative : Bool) : Binary64 := ⟨negative, ⟨infinityMagnitude, by decide⟩⟩

def nan : Binary64 := ⟨false, ⟨0x7FF8000000000000, by decide⟩⟩

/-! ### The exact value

A finite value is its significand times two to its exponent. -/

def exponentField (x : Binary64) : Nat := x.magnitude.val / leadingBit

def significand (x : Binary64) : Nat :=
  if x.exponentField = 0 then x.magnitude.val else leadingBit + x.magnitude.val % leadingBit

def exponent (x : Binary64) : Int := (max x.exponentField 1 : Nat) - 1075

/-- The value in units of `2 ^ place`, for a place not above the exponent. -/
def units (x : Binary64) (place : Int) : Int :=
  let size : Int := (x.significand <<< (x.exponent - place).toNat : Nat)
  if x.negative then -size else size

/-! ### Rounding -/

/-- The binary place of the last of 53 bits of `num / den`, not below the least. -/
def lastPlace (num den : Nat) : Int :=
  let guess : Int := (num.log2 : Int) - den.log2 - 53
  let top := guess + 53
  let reached := den <<< top.toNat ≤ num <<< (-top).toNat
  max (if reached then guess + 1 else guess) (-1074)

/-- The nearest value to `num / den`. -/
def ofRatio (negative : Bool) (num den : Nat) : Binary64 :=
  if num = 0 then zero negative
  else
    let place := lastPlace num den
    let bits := roundDiv (num <<< (-place).toNat) (den <<< place.toNat)
    let magnitude := (place + 1074).toNat * leadingBit + bits
    ⟨negative, ⟨min magnitude infinityMagnitude, by
      have : infinityMagnitude < 0x8000000000000000 := by decide
      omega⟩⟩

/-- The nearest value to `size * 2 ^ place`. -/
def ofScaled (negative : Bool) (size : Nat) (place : Int) : Binary64 :=
  ofRatio negative (size <<< place.toNat) (1 <<< (-place).toNat)

def ofInt (n : Int) : Binary64 := ofRatio (n < 0) n.natAbs 1

def ofNat (n : Nat) : Binary64 := ofRatio false n 1

/-! ### Order -/

/-- The signed magnitude: equal for the two zeros, else ordered as the values. -/
def key (x : Binary64) : Int := if x.negative then -x.magnitude.val else x.magnitude.val

/-- The numeric order; a non-number compares with nothing. -/
def compare? (x y : Binary64) : Option Ordering :=
  if x.isNaN || y.isNaN then none else some (compare x.key y.key)

/-- Numeric equality: the zeros agree, a non-number agrees with nothing. -/
def agrees (x y : Binary64) : Bool :=
  !x.isNaN && !y.isNaN && x.key == y.key

/-! ### Arithmetic -/

def neg (x : Binary64) : Binary64 := ⟨!x.negative, x.magnitude⟩

def add (x y : Binary64) : Binary64 :=
  if x.isNaN || y.isNaN then nan
  else if x.isInfinite then
    if y.isInfinite && x.negative != y.negative then nan else x
  else if y.isInfinite then y
  else
    let place := min x.exponent y.exponent
    let sum := x.units place + y.units place
    if sum = 0 then zero (x.negative && y.negative)
    else ofScaled (sum < 0) sum.natAbs place

def sub (x y : Binary64) : Binary64 := x.add y.neg

def mul (x y : Binary64) : Binary64 :=
  let negative := x.negative != y.negative
  if x.isNaN || y.isNaN then nan
  else if x.isInfinite || y.isInfinite then
    if x.isZero || y.isZero then nan else infinity negative
  else ofScaled negative (x.significand * y.significand) (x.exponent + y.exponent)

def div (x y : Binary64) : Binary64 :=
  let negative := x.negative != y.negative
  if x.isNaN || y.isNaN then nan
  else if x.isInfinite then
    if y.isInfinite then nan else infinity negative
  else if y.isInfinite then zero negative
  else if y.isZero then
    if x.isZero then nan else infinity negative
  else
    let gap := x.exponent - y.exponent
    ofRatio negative (x.significand <<< gap.toNat) (y.significand <<< (-gap).toNat)

/-- The remainder of the quotient cut toward zero; it has the dividend's sign. -/
def rem (x y : Binary64) : Binary64 :=
  if x.isNaN || y.isNaN || x.isInfinite || y.isZero then nan
  else if y.isInfinite then x
  else
    let place := min x.exponent y.exponent
    ofScaled x.negative ((x.units place).natAbs % (y.units place).natAbs) place

/-! ### Integers -/

/-- The size of a finite value in halves, cut toward zero. -/
def halves (x : Binary64) : Nat :=
  let place := x.exponent + 1
  (x.significand <<< place.toNat) >>> (-place).toNat

def isIntegral (x : Binary64) : Bool :=
  x.isFinite && x.significand % (1 <<< (-x.exponent).toNat) == 0

/-- The size of a finite value, cut toward zero. -/
def whole (x : Binary64) : Nat := x.halves / 2

/-- The nearest integer, halves away from zero. -/
def round (x : Binary64) : Binary64 :=
  if x.isFinite then ofRatio x.negative ((x.halves + 1) / 2) 1 else x

/-- A positive power by repeated squaring, rounding at every product. -/
def powFrom (result base : Binary64) : Nat → Nat → Binary64
  | 0, _ => result
  | fuel + 1, n =>
    let result := if n % 2 = 1 then result.mul base else result
    if n / 2 = 0 then result else powFrom result (base.mul base) fuel (n / 2)

def pow (base : Binary64) (n : Nat) : Binary64 :=
  powFrom (ofNat 1) base (n + 1) n

end Binary64

end Projections
