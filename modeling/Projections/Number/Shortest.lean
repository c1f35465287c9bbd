import Projections.Number.Binary64

/-! The shortest decimal numeral that reads back as a given floating-point value.
A value stands for the interval of numbers that round to it. Grids of one, two,
… seventeen significant digits are tried in turn; on the first grid with a point
in the interval, the nearer of the value's two neighbours is taken. -/

namespace Projections

/-- `digits` times ten to the `exponent`. -/
structure Numeral where
  digits : Nat
  exponent : Int
deriving DecidableEq, Repr

/-- Which neighbour is taken when both are equally near. -/
inductive Tie where
  | up
  | even
deriving DecidableEq

namespace Numeral

/-- Final zeros move into the exponent, at most `fuel` of them. -/
def strip : Nat → Numeral → Numeral
  | 0, n => n
  | fuel + 1, n =>
    if n.digits ≠ 0 ∧ n.digits % 10 = 0 then strip fuel ⟨n.digits / 10, n.exponent + 1⟩ else n

end Numeral

/-- A positive number `value / unit` with the ends of the interval it stands for. -/
structure Interval where
  unit : Nat
  value : Nat
  lower : Nat
  upper : Nat
  /-- Whether the ends themselves read back. -/
  closed : Bool

namespace Interval

/-- Ends lie halfway to the neighbours, counted in quarters of the last place.
Below a power of two the neighbour is half as far away. -/
def ofBinary64 (x : Binary64) : Interval :=
  let quarters := 4 * x.significand
  let narrow := x.significand == Binary64.leadingBit && x.exponentField > 1
  let place := x.exponent - 2
  { unit := 1 <<< (-place).toNat
    value := quarters <<< place.toNat
    lower := (quarters - if narrow then 1 else 2) <<< place.toNat
    upper := (quarters + 2) <<< place.toNat
    closed := x.significand % 2 == 0 }

/-- Whether `n / den` lies in the interval of `i`. -/
def contains (i : Interval) (n den : Nat) : Bool :=
  let low := i.lower * den
  let high := i.upper * den
  let point := n * i.unit
  if i.closed then low ≤ point && point ≤ high else low < point && point < high

/-- The least power of ten above the value, searched upwards from an estimate. -/
def leading (i : Interval) : Int :=
  let estimate := (((i.value.log2 : Int) - i.unit.log2 - 1) * 30103) / 100000
  let above (k : Int) : Bool := i.value * tenTo (-k).toNat < i.unit * tenTo k.toNat
  ([0, 1, 2].find? fun n : Nat => above (estimate + n)).elim (estimate + 3) (estimate + ·)

/-- The numeral on the grid of `10 ^ place` that lies in the interval, if any. -/
def onGrid? (i : Interval) (tie : Tie) (place : Int) : Option Numeral :=
  let up := tenTo place.toNat
  let down := tenTo (-place).toNat
  let below := i.value * down / (i.unit * up)
  let fits (n : Nat) : Bool := i.contains (n * up) down
  let nearer : Nat :=
    match compare (2 * i.value * down) ((2 * below + 1) * i.unit * up) with
    | .lt => below
    | .gt => below + 1
    | .eq => match tie with
      | .up => below + 1
      | .even => below + below % 2
  match fits below, fits (below + 1) with
  | true, true => some ⟨nearer, place⟩
  | true, false => some ⟨below, place⟩
  | false, true => some ⟨below + 1, place⟩
  | false, false => none

def shortest? (i : Interval) (tie : Tie) : Option Numeral :=
  let leading := i.leading
  (List.range 17).findSome? fun n : Nat => (i.onGrid? tie (leading - n - 1)).map (Numeral.strip 20)

end Interval

namespace Binary64

/-- The exact decimal expansion of a finite value's size. -/
def expansion (x : Binary64) : Numeral :=
  if 0 ≤ x.exponent then ⟨x.significand <<< x.exponent.toNat, 0⟩
  else ⟨x.significand * Nat.pow 5 (-x.exponent).toNat, x.exponent⟩

/-- The shortest numeral for the size of a finite value. -/
def shortest (x : Binary64) (tie : Tie) : Numeral :=
  if x.isZero then ⟨0, 0⟩
  else ((Interval.ofBinary64 x).shortest? tie).getD x.expansion

end Binary64

end Projections
