/-! Include operators: methods that ask the source of the rows for a part of a
nested collection. A registry lists the operators that may occur in an include,
each with the names of its parameters. -/

namespace Projections

/-- The method that leads from a collection to its elements; no operator has its name. -/
def projectionName : String := "Select"

structure Operator where
  name : String
  parameters : List String
deriving DecidableEq, Repr

inductive RegistryError where
  | reserved (name : String)
  | duplicate (name : String)
deriving DecidableEq, Repr

def RegistryError.message : RegistryError → String
  | .reserved name => "`" ++ name ++ "` is reserved for nested-collection projection"
  | .duplicate name => "operator `" ++ name ++ "` is already registered"

/-- Operators in the order of their registration. -/
structure Registry where
  operators : List Operator
deriving DecidableEq, Repr

namespace Registry

def empty : Registry := ⟨[]⟩

def standard : Registry :=
  ⟨[⟨"Take", ["count"]⟩, ⟨"Skip", ["count"]⟩, ⟨"First", ["count"]⟩, ⟨"Where", ["filter"]⟩,
    ⟨"OrderBy", ["field"]⟩, ⟨"OrderByDescending", ["field"]⟩]⟩

def get? (registry : Registry) (name : String) : Option Operator :=
  registry.operators.find? (·.name == name)

def contains (registry : Registry) (name : String) : Bool := (registry.get? name).isSome

/-- Adds an operator at the end, unless its name is reserved or there already. -/
def register (registry : Registry) (operator : Operator) : Except RegistryError Registry :=
  if operator.name = projectionName then .error (.reserved operator.name)
  else if registry.contains operator.name then .error (.duplicate operator.name)
  else .ok ⟨registry.operators ++ [operator]⟩

/-- An attempt to add an operator: the registry after it, and why it was refused, if it was.
What is refused changes nothing. -/
def attempt (registry : Registry) (operator : Operator) : Registry × Option RegistryError :=
  match registry.register operator with
  | .ok larger => (larger, none)
  | .error cause => (registry, some cause)

/-- The registry after attempts, one after the other. -/
def attempts (registry : Registry) (operators : List Operator) : Registry :=
  operators.foldl (fun registry operator => (registry.attempt operator).1) registry

/-- Adds operators one after the other; the first refusal ends it. -/
def registerAll (registry : Registry) (operators : List Operator) :
    Except RegistryError Registry :=
  operators.foldlM register registry

end Registry

end Projections
