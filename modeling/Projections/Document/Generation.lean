import Projections.Document.Naming
import Projections.Document.Selection
import Projections.Document.Variable
import Projections.Include.Path
import Projections.Selector.Fields

/-! Generation of query documents. Arguments become typed variables of the root
field, include paths and the chains a selector reads become one tree of fields,
and an operator becomes an argument of the field it follows. -/

namespace Projections

/-- Bound arguments, in the order of their names. -/
abbrev Arguments := List (String × Json)

structure Document where
  text : String
  /-- what the text's variables stand for -/
  values : Arguments

/-- What a document is generated for. -/
structure Request where
  name : String
  arguments : Arguments
  includes : List Path
  selector : Option Selector

/-- How documents are written. -/
structure DocumentStyle where
  naming : Naming
  operationName : Option String
  indent : Nat

namespace Application

/-- The value of the argument an operator becomes: the only literal, the literals by
their parameters, or a bare `true`. -/
def valueText (a : Application) : String :=
  match a.arguments with
  | [] => "true"
  | [(_, literal)] => literal.text
  | arguments => "\x7b" ++ separated (arguments.map fun (name, literal) =>
      name ++ ": " ++ literal.text) ++ "\x7d"

def fieldArgument (a : Application) : FieldArgument := (lowerCamel a.operator, a.valueText)

end Application

namespace Path

/-- Segments with the applications they name, from the start. -/
def steps (path : Path) : List (String × Option Application) :=
  path.segments.zipIdx.map fun (segment, i) => (segment, path.operatorAt? i)

/-- A chain being built, latest field first, and the arguments of the root field. -/
structure Growth where
  fields : List FieldHead
  rootArguments : List FieldArgument

/-- A member starts a field. An operator goes to the field before it; without one it
goes to the root, which takes equal arguments once. -/
def grow (naming : Naming) (growth : Growth) : String × Option Application → Growth
  | (segment, none) => { growth with fields := .leaf (naming.apply segment) :: growth.fields }
  | (_, some application) =>
    let argument := application.fieldArgument
    match growth.fields with
    | field :: fields => { growth with fields := field.withArgument argument :: fields }
    | [] =>
      if growth.rootArguments.contains argument then growth
      else { growth with rootArguments := growth.rootArguments ++ [argument] }

/-- The chain of a path and what becomes of the root's arguments. -/
def chain (naming : Naming) (path : Path) (rootArguments : List FieldArgument) :
    List FieldHead × List FieldArgument :=
  let growth := path.steps.foldl (grow naming) ⟨[], rootArguments⟩
  (growth.fields.reverse, growth.rootArguments)

/-- The chains of several paths and what becomes of the root's arguments. -/
def chains (naming : Naming) : List Path → List FieldArgument →
    List (List FieldHead) × List FieldArgument
  | [], rootArguments => ([], rootArguments)
  | path :: paths, rootArguments =>
    let (chain, rootArguments) := path.chain naming rootArguments
    let (chains, rootArguments) := chains naming paths rootArguments
    (chain :: chains, rootArguments)

end Path

namespace DocumentStyle

def selectorChains (style : DocumentStyle) (selector : Option Selector) :
    List (List FieldHead) :=
  match selector with
  | none => []
  | some s => s.fields.map fun chain => chain.map fun name => .leaf (style.naming.apply name)

/-- The root field with everything below it. -/
def root (style : DocumentStyle) (request : Request) : Field :=
  let given := request.arguments.map fun (name, _) => (name, "$" ++ name)
  let (chains, arguments) := Path.chains style.naming request.includes given
  .mk ⟨request.name, arguments⟩
    (Selection.ofChains (chains ++ style.selectorChains request.selector))

def declarations (arguments : Arguments) : String :=
  if arguments.isEmpty then ""
  else "(" ++ separated (arguments.map fun (name, value) =>
    "$" ++ name ++ ": " ++ (VariableType.ofJson value).text) ++ ")"

def generate (style : DocumentStyle) (request : Request) : Document where
  text :=
    let operation := match style.operationName with
      | none => ""
      | some name => " " ++ name
    "query" ++ operation ++ declarations request.arguments ++ " \x7b\n" ++
      Selection.text style.indent 1 [style.root request] ++ "\x7d\n"
  values := request.arguments

end DocumentStyle

end Projections
