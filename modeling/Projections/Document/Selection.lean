import Projections.Language.Canonical

/-! Selection sets: trees of fields, in which siblings differ in name or arguments.
A chain of fields shares its beginning with a chain inserted earlier. -/

namespace Projections

/-- An argument as it is written: its name and the text of its value. -/
abbrev FieldArgument := String × String

/-- What tells siblings apart. -/
structure FieldHead where
  name : String
  arguments : List FieldArgument
deriving DecidableEq, Repr

inductive Field where
  | mk (head : FieldHead) (children : List Field)

abbrev Selection := List Field

namespace Field

def head : Field → FieldHead
  | mk head _ => head

def children : Field → Selection
  | mk _ children => children

end Field

namespace FieldHead

def leaf (name : String) : FieldHead := ⟨name, []⟩

def withArgument (head : FieldHead) (argument : FieldArgument) : FieldHead :=
  { head with arguments := head.arguments ++ [argument] }

def text (head : FieldHead) : String :=
  if head.arguments.isEmpty then head.name
  else head.name ++ "(" ++ separated (head.arguments.map fun (name, value) =>
    name ++ ": " ++ value) ++ ")"

end FieldHead

namespace Selection

/-- Changes what is below a head; a head that is not there is added at the end. -/
def update (head : FieldHead) (change : Selection → Selection) : Selection → Selection
  | [] => [.mk head (change [])]
  | field :: fields =>
    if field.head = head then .mk head (change field.children) :: fields
    else field :: update head change fields

/-- Inserts a chain from the top. -/
def insert : List FieldHead → Selection → Selection
  | [], fields => fields
  | head :: chain, fields => update head (insert chain) fields

/-- The selection of several chains, inserted in order. -/
def ofChains (chains : List (List FieldHead)) : Selection :=
  chains.foldl (fun fields chain => insert chain fields) []

/-! ### Written form

One line for each field, indented by its depth; braces enclose what is below. -/

def margin (indent depth : Nat) : String :=
  String.ofList (List.replicate (depth * indent) ' ')

mutual

def fieldText (indent depth : Nat) : Field → String
  | .mk head children =>
    let margin := margin indent depth
    if children.isEmpty then margin ++ head.text ++ "\n"
    else margin ++ head.text ++ " \x7b\n" ++ text indent (depth + 1) children ++
      margin ++ "\x7d\n"

def text (indent depth : Nat) : List Field → String
  | [] => ""
  | field :: fields => fieldText indent depth field ++ text indent depth fields

end

end Selection

end Projections
