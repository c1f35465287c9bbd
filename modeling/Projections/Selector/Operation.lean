import Projections.Selector.Arithmetic

/-! Order and equality of row values, and what each binary operator makes of two
of them. -/

namespace Projections

namespace Value

/-- Integers, texts and truth values are ordered among themselves, and numbers as
floats. Other pairs, and those with a non-number, have no order. -/
def order? : Value → Value → Option Ordering
  | .integer a, .integer b => some (compare a.toInt b.toInt)
  | .string a, .string b => some (compare a b)
  | .boolean a, .boolean b => some (compare a b)
  | a, b => do (← a.asFloat?).compare? (← b.asFloat?)

/-- An integer and a float are equal as floats, other values as values of one type. -/
def looselyEqual : Value → Value → Bool
  | .integer a, .float y => (Binary64.ofInt a.toInt).agrees y
  | .float x, .integer b => x.agrees (.ofInt b.toInt)
  | a, b => a.agrees b

end Value

namespace BinaryOp

/-- The value of an operation that its left operand settles alone. -/
def settled? : BinaryOp → Value → Option Value
  | .coalesce, left => if left.isNull then none else some left
  | .and, left => if left.truthy then none else some (.boolean false)
  | .or, left => if left.truthy then some (.boolean true) else none
  | _, _ => none

/-- A text absorbs the other operand; other sums are arithmetic. -/
def sum : Value → Value → Except BindError Value
  | .string a, b => .ok (.string (a ++ b.text))
  | a, .string b => .ok (.string (a.text ++ b))
  | a, b => arithmetic .add a b

def comparison (op : BinaryOp) (holds : Ordering → Bool) (left right : Value) :
    Except BindError Value :=
  match left.order? right with
  | some ordering => .ok (.boolean (holds ordering))
  | none => .error (.type (.comparison op left.typeName right.typeName))

/-- Division wants a divisor other than zero. -/
def division (op : BinaryOp) (left right : Value) : Except BindError Value :=
  match right.asFloat? with
  | some x => if x.isZero then .error .divisionByZero else op.arithmetic left right
  | none => op.arithmetic left right

/-- The result of an operation that needs both operands. -/
def apply (op : BinaryOp) (left right : Value) : Except BindError Value :=
  match op with
  | .add => sum left right
  | .subtract | .multiply => op.arithmetic left right
  | .divide | .modulo => op.division left right
  | .equal => .ok (.boolean (left.looselyEqual right))
  | .notEqual => .ok (.boolean !(left.looselyEqual right))
  | .less => op.comparison Ordering.isLT left right
  | .greater => op.comparison Ordering.isGT left right
  | .lessEqual => op.comparison Ordering.isLE left right
  | .greaterEqual => op.comparison Ordering.isGE left right
  | .coalesce => .ok (if left.isNull then right else left)
  | .and => .ok (.boolean (left.truthy && right.truthy))
  | .or => .ok (.boolean (left.truthy || right.truthy))

end BinaryOp

end Projections
