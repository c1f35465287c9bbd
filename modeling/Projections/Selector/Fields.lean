import Projections.Selector.Basic

/-! The fields that a selector reads. A chain is a path of member names from the
row; elements of an array stand where the array stands. -/

namespace Projections

abbrev Chain := List String

/-- The chains that names in force stand for, innermost first. -/
abbrev Roots := List (String × Chain)

namespace Expr

/-- The chain of an expression that only names, reads members and takes elements. -/
def chain? (roots : Roots) : Expr → Option Chain
  | .name n => roots.lookup n
  | .member base field => (base.chain? roots).map (· ++ [field])
  | .index base _ => base.chain? roots
  | _ => none

mutual

/-- The chains read in an expression, in source order. A function that is called on
a chain reads from the elements there. -/
def reads : Roots → Expr → List Chain
  | roots, .name n => (roots.lookup n).toList
  | roots, .member base field =>
    match chain? roots (.member base field) with
    | some chain => [chain]
    | none => reads roots base
  | roots, .index base position => reads roots base ++ reads roots position
  | roots, .call base _ arguments =>
    match chain? roots base with
    | some chain => chain :: readsOfArguments roots (some chain) arguments
    | none => reads roots base ++ readsOfArguments roots none arguments
  | roots, .lambda _ body => reads roots body
  | roots, .not operand => reads roots operand
  | roots, .binary _ left right => reads roots left ++ reads roots right
  | roots, .object entries => readsOfEntries roots entries
  | roots, .array items => readsOfAll roots items
  | _, .float _ | _, .integer _ | _, .string _ | _, .boolean _ | _, .null => []

def readsOfAll : Roots → List Expr → List Chain
  | _, [] => []
  | roots, e :: es => reads roots e ++ readsOfAll roots es

def readsOfEntries : Roots → List (String × Expr) → List Chain
  | _, [] => []
  | roots, (_, e) :: es => reads roots e ++ readsOfEntries roots es

def readsOfArguments : Roots → Option Chain → List Expr → List Chain
  | _, _, [] => []
  | roots, chain, e :: es =>
    (match e, chain with
      | .lambda [parameter] body, some chain => reads ((parameter, chain) :: roots) body
      | e, _ => reads roots e) ++ readsOfArguments roots chain es

end

end Expr

/-- The chains a selector reads from its row; the row itself is none. -/
def Selector.fields (s : Selector) : List Chain :=
  (Expr.reads [(s.parameter, [])] s.body).filter (!·.isEmpty)

/-- Only a function of one parameter reads fields. -/
def Lambda.fields (f : Lambda) : List Chain :=
  match f.selector? with
  | some s => s.fields
  | none => []

end Projections
