import Projections.Selector.Basic
import Projections.Selector.Method

/-! Evaluation of expressions in a scope, and of selectors on rows. -/

namespace Projections

/-- The names in force, innermost first. -/
abbrev Scope := List (String × Value)

namespace Value

/-- Reads a member. Null has every member, and all are null. -/
def member (field : String) : Value → Except BindError Value
  | .null => .ok .null
  | .object fields => .ok ((field? field fields).getD .null)
  | .array items =>
    if field = "Count" ∨ field = "Length" then .ok (.integer (Int64.ofNat items.length))
    else .error (.type (.member field "array"))
  | .string text =>
    if field = "Length" then .ok (.integer (Int64.ofNat text.length))
    else .error (.type (.member field "string"))
  | other => .error (.type (.member field other.typeName))

/-- A position below zero counts from the end. -/
def itemAt? (items : List Value) (position : Int) : Option Value :=
  if 0 ≤ position then items[position.toNat]?
  else if position.natAbs ≤ items.length then items[items.length - position.natAbs]?
  else none

/-- Reads an element by its position, or a field by its name. -/
def item : (base position : Value) → Except BindError Value
  | .null, _ => .ok .null
  | .array items, .integer n => .ok ((itemAt? items n.toInt).getD .null)
  | .object fields, .string key => .ok ((field? key fields).getD .null)
  | base, position => .error (.type (.index base.typeName position.typeName))

/-- Calls a method by its name. -/
def invoke (receiver : Value) (name : String) (arguments : List Argument) :
    Except BindError Value :=
  match Method.ofName? name with
  | some method => method.call receiver arguments
  | none => .error (.unknownMethod name)

end Value

namespace Expr

mutual

def eval : Expr → Scope → Except BindError Value
  | .float x, _ => .ok (.float x)
  | .integer n, _ => .ok (.integer n)
  | .string s, _ => .ok (.string s)
  | .boolean b, _ => .ok (.boolean b)
  | .null, _ => .ok .null
  | .name n, scope =>
    match scope.lookup n with
    | some value => .ok value
    | none => .error (.unbound n)
  | .member base field, scope => do (← base.eval scope).member field
  | .index base position, scope => do
    let value ← base.eval scope
    value.item (← position.eval scope)
  | .call base method arguments, scope => do
    (← base.eval scope).invoke method (prepare arguments method scope)
  | .lambda parameters body, _ => .error (.type (.strayLambda ⟨parameters, body⟩))
  | .not operand, scope => do return .boolean !(← operand.eval scope).truthy
  | .binary op left right, scope => do
    let value ← left.eval scope
    match op.settled? value with
    | some result => return result
    | none => op.apply value (← right.eval scope)
  | .object entries, scope => do return .object (Fields.ofList (← evalEntries entries scope))
  | .array items, scope => do return .array (← evalItems items scope)

def evalItems : List Expr → Scope → Except BindError (List Value)
  | [], _ => .ok []
  | e :: es, scope => do
    let value ← e.eval scope
    return value :: (← evalItems es scope)

def evalEntries : List (String × Expr) → Scope → Except BindError (List (String × Value))
  | [], _ => .ok []
  | (key, e) :: es, scope => do
    let value ← e.eval scope
    return (key, value) :: (← evalEntries es scope)

/-- Runs an argument of a method on one element: it has to be a function literal of
one parameter, which hides an outer one of the same name. -/
def applied : Expr → String → Scope → Value → Except BindError Value
  | .lambda [parameter] body, _, scope, item => body.eval ((parameter, item) :: scope)
  | .lambda parameters _, _, _, _ => .error (.parameterCount parameters.length)
  | other, method, _, _ => .error (.type (.notALambda method other))

def prepare : List Expr → String → Scope → List Argument
  | [], _, _ => []
  | e :: es, method, scope =>
    ⟨e.eval scope, e.applied method scope⟩ :: prepare es method scope

end

end Expr

/-- What a selector makes of a row. -/
def Selector.bind (s : Selector) (row : Value) : Except BindError Value :=
  s.body.eval [(s.parameter, row)]

/-- Applies a function to a row; it has to be a selector. -/
def Lambda.bind (f : Lambda) (row : Value) : Except BindError Value :=
  match f.selector? with
  | some s => s.bind row
  | none => .error (.parameterCount f.parameters.length)

end Projections
