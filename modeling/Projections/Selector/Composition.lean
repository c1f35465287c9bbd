import Projections.Selector.Basic

/-! One selector after another, as a single selector. The parameter of the first
gets a name that occurs in neither, so that no function in the second captures
it; then the body of the first stands wherever the second reads its parameter. -/

namespace Projections

namespace Expr

mutual

/-- Every name that occurs, also as a parameter. -/
def names : Expr → List String
  | .name n => [n]
  | .member base _ => base.names
  | .index base position => base.names ++ position.names
  | .call base _ arguments => base.names ++ namesOfAll arguments
  | .lambda parameters body => parameters ++ body.names
  | .not operand => operand.names
  | .binary _ left right => left.names ++ right.names
  | .object entries => namesOfEntries entries
  | .array items => namesOfAll items
  | .float _ | .integer _ | .string _ | .boolean _ | .null => []

def namesOfAll : List Expr → List String
  | [] => []
  | e :: es => e.names ++ namesOfAll es

def namesOfEntries : List (String × Expr) → List String
  | [] => []
  | (_, e) :: es => e.names ++ namesOfEntries es

end

mutual

/-- Puts an expression in the place of a name, except where a function hides the name. -/
def substitute (name : String) (replacement : Expr) : Expr → Expr
  | .name n => if n = name then replacement else .name n
  | .member base field => .member (substitute name replacement base) field
  | .index base position =>
    .index (substitute name replacement base) (substitute name replacement position)
  | .call base method arguments =>
    .call (substitute name replacement base) method (substituteAll name replacement arguments)
  | .lambda parameters body =>
    if parameters.contains name then .lambda parameters body
    else .lambda parameters (substitute name replacement body)
  | .not operand => .not (substitute name replacement operand)
  | .binary op left right =>
    .binary op (substitute name replacement left) (substitute name replacement right)
  | .object entries => .object (substituteEntries name replacement entries)
  | .array items => .array (substituteAll name replacement items)
  | .float x => .float x
  | .integer n => .integer n
  | .string s => .string s
  | .boolean b => .boolean b
  | .null => .null

def substituteAll (name : String) (replacement : Expr) : List Expr → List Expr
  | [] => []
  | e :: es => substitute name replacement e :: substituteAll name replacement es

def substituteEntries (name : String) (replacement : Expr) :
    List (String × Expr) → List (String × Expr)
  | [] => []
  | (key, e) :: es => (key, substitute name replacement e) :: substituteEntries name replacement es

end

end Expr

/-- Lengthens a name until it is not taken. Each turn passes one of the taken names,
so their number bounds the turns. -/
def lengthened (taken : List String) : (turns : Nat) → String → String
  | 0, name => name
  | turns + 1, name =>
    if taken.contains name then lengthened taken turns (name.push '_') else name

namespace Selector

/-- The names the parameter of a composition must differ from. -/
def taken (first second : Selector) : List String :=
  second.parameter :: (first.body.names ++ second.body.names)

/-- The parameter of a composition. -/
def fresh (first second : Selector) : String :=
  let taken := taken first second
  lengthened taken taken.length (first.parameter.push '_')

/-- Applies the first selector and then the second. -/
def compose (first second : Selector) : Selector :=
  let parameter := fresh first second
  let inner := Expr.substitute first.parameter (.name parameter) first.body
  ⟨parameter, Expr.substitute second.parameter inner second.body⟩

end Selector

end Projections
