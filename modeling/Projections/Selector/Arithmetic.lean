import Projections.Number.Decimal
import Projections.Selector.Error

/-! Arithmetic on row values. Two integers give the exact integer or an error,
except that an inexact quotient is a float. An integer and a float meet as
decimals, so that `100 * 1.1` is `110`. -/

namespace Projections

/-- An integer if the decimal is one and fits, else the nearest float. -/
def Value.ofDecimal (d : Decimal) : Value :=
  match d.toInt?.bind checkedInt64 with
  | some n => .integer n
  | none => .float d.toBinary64

namespace BinaryOp

/-- The result of a float operation, for the signs that name one. -/
def onFloats? : BinaryOp → Option (Binary64 → Binary64 → Binary64)
  | .add => some Binary64.add
  | .subtract => some Binary64.sub
  | .multiply => some Binary64.mul
  | .divide => some Binary64.div
  | .modulo => some Binary64.rem
  | _ => none

def onDecimals? : BinaryOp → Option (Decimal → Decimal → Option Decimal)
  | .add => some Decimal.add
  | .subtract => some Decimal.sub
  | .multiply => some Decimal.mul
  | .divide => some Decimal.div
  | .modulo => some Decimal.rem
  | _ => none

/-- The exact result, which has to fit. A remainder needs a quotient that fits; a
quotient that is no integer in range is taken as a float. -/
def onIntegers (op : BinaryOp) (a b : Int64) : Except BindError Value :=
  let exact (result : Option Int64) : Except BindError Value :=
    match result with
    | some n => .ok (.integer n)
    | none => .error (.type (.overflow op a b))
  let quotient := checkedInt64 (a.toInt.tdiv b.toInt)
  let remainder := a.toInt.tmod b.toInt
  match op with
  | .add => exact (checkedInt64 (a.toInt + b.toInt))
  | .subtract => exact (checkedInt64 (a.toInt - b.toInt))
  | .multiply => exact (checkedInt64 (a.toInt * b.toInt))
  | .modulo => exact (quotient.bind fun _ => checkedInt64 remainder)
  | .divide =>
    if remainder = 0 ∧ quotient.isSome then exact quotient
    else .ok (.float ((Binary64.ofInt a.toInt).div (.ofInt b.toInt)))
  | _ => .error (.type (.operands op "integer" "integer"))

/-- The result through decimals, unless an operand or the result is none. -/
def throughDecimals? (op : BinaryOp) (a b : Option Decimal) : Option Value := do
  let apply ← op.onDecimals?
  let result ← apply (← a) (← b)
  return .ofDecimal result

def arithmetic (op : BinaryOp) (left right : Value) : Except BindError Value :=
  let mismatch := BindError.type (.operands op left.typeName right.typeName)
  let floats (a b : Binary64) : Except BindError Value :=
    match op.onFloats? with
    | some apply => .ok (.float (apply a b))
    | none => .error mismatch
  let mixed (a b : Option Decimal) (x y : Binary64) : Except BindError Value :=
    match op.throughDecimals? a b with
    | some result => .ok result
    | none => floats x y
  match left, right with
  | .integer a, .integer b => op.onIntegers a b
  | .float x, .float y => floats x y
  | .integer a, .float y =>
    mixed (Decimal.ofInt a.toInt) (Decimal.ofBinary64 y) (.ofInt a.toInt) y
  | .float x, .integer b =>
    mixed (Decimal.ofBinary64 x) (Decimal.ofInt b.toInt) x (.ofInt b.toInt)
  | _, _ => .error mismatch

end BinaryOp

end Projections
