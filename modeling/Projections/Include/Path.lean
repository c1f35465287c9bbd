import Projections.Json.Text
import Projections.Language.Canonical
import Projections.Row.Fields

/-! Include paths: member and operator names joined by dots, and the operators
applied along them. Operators are kept in a list of their own, without repetition
where two paths were joined; placements say at which segment each one stands. -/

namespace Projections

/-- A literal as a document. -/
def Literal.toJson : Literal → Json
  | .null => .null
  | .boolean b => .boolean b
  | .integer n => .ofInt64 n
  | .float x => .ofBinary64 x
  | .string s => .string s

/-- An operator with its arguments by parameter, in the order of the parameters' names. -/
structure Application where
  operator : String
  arguments : List (String × Literal)
deriving DecidableEq

namespace Application

/-- Equality up to that of the literals. -/
def agrees (a b : Application) : Bool :=
  a.operator == b.operator && a.arguments.length == b.arguments.length &&
    (a.arguments.zip b.arguments).all fun (x, y) => x.1 == y.1 && x.2.agrees y.2

/-- The operator and then its arguments by parameter. -/
def toJson (a : Application) : Json :=
  .object [("operator", .string a.operator),
    ("arguments", .object (a.arguments.map fun (parameter, literal) =>
      (parameter, literal.toJson)))]

end Application

structure Path where
  text : Option String
  applications : List Application
  /-- pairs of a segment and the application there, both by their numbers -/
  placements : List (Nat × Nat)
deriving DecidableEq

/-- The parts between dots; without a dot there is one part. -/
def splitAtDots : List Char → List (List Char)
  | [] => [[]]
  | c :: rest =>
    match splitAtDots rest with
    | [] => [[c]]
    | part :: parts => if c = '.' then [] :: part :: parts else (c :: part) :: parts

namespace Path

def root : Path := ⟨none, [], []⟩

def segments (path : Path) : List String :=
  match path.text with
  | none => []
  | some text => (splitAtDots text.toList).map String.ofList

/-- The application that a segment names, if it is not a member. -/
def operatorAt? (path : Path) (segment : Nat) : Option Application :=
  match path.placements.find? (·.1 == segment) with
  | some (_, index) => path.applications[index]?
  | none => none

/-- The text with one name more. -/
def extended (path : Path) (name : String) : String :=
  match path.text with
  | none => name
  | some text => text ++ "." ++ name

def member (path : Path) (name : String) : Path := { path with text := some (path.extended name) }

/-- Applies an operator at the end. It comes first in the list of applications. -/
def apply (path : Path) (application : Application) : Path where
  text := some (path.extended application.operator)
  applications := application :: path.applications
  placements := path.placements.map (fun (segment, index) => (segment, index + 1)) ++
    [(path.segments.length, 0)]

/-- Finds an application in a list or else adds it; gives the list and its number there. -/
def place (applications : List Application) (application : Application) :
    List Application × Nat :=
  match applications.findIdx? (·.agrees application) with
  | some index => (applications, index)
  | none => (applications ++ [application], applications.length)

/-- Places applications one after the other; gives the list and the number of each. -/
def merge (applications : List Application) : List Application → List Application × List Nat
  | [] => (applications, [])
  | a :: rest =>
    let (applications, index) := place applications a
    let (applications, indices) := merge applications rest
    (applications, index :: indices)

/-- Continues a path with one that starts at the elements it leads to; both have to
lead somewhere. -/
def join? (path element : Path) : Option Path :=
  match path.text, element.text with
  | some front, some back =>
    let offset := path.segments.length
    let (applications, indices) := merge path.applications element.applications
    let moved := element.placements.filterMap fun (segment, index) =>
      (indices[index]?).map fun index => (offset + segment, index)
    some ⟨some (front ++ "." ++ back), applications, path.placements ++ moved⟩
  | _, _ => none

/-- The path and its applications as a document, the path first. -/
def toJson (path : Path) : Json :=
  .object [("path", path.text.elim .null .string),
    ("methods", .array (path.applications.map Application.toJson))]

end Path

end Projections
