import Projections.Document.Generation
import Projections.Json.Reader

/-! Execution of documents. An executor sends a document to where the rows are, and
streams what comes back: raw rows and failures, in order. -/

namespace Projections

/-- Whether a query is for one row or for all. -/
inductive Kind where
  | item
  | collection
deriving DecidableEq, Repr

inductive ExecutionError where
  | notConfigured
  | transport (reason : String)
  | backend (reason : String)
  | malformed (reason : String)
deriving DecidableEq, Repr

def ExecutionError.message : ExecutionError → String
  | .notConfigured => "no executor configured for this context"
  | .transport reason => "transport error: " ++ reason
  | .backend reason => "backend reported errors: " ++ reason
  | .malformed reason => "malformed response: " ++ reason

abbrev RowStream := List (Except ExecutionError Json)

abbrev Executor := Document → Kind → Except ExecutionError RowStream

namespace Executor

def unconfigured : Executor := fun _ _ => .error .notConfigured

/-- Serves the same rows whatever the document; for one row the first of them. -/
def ofRows (rows : List Json) : Executor := fun _ kind =>
  match kind with
  | .item => .ok ((rows.take 1).map .ok)
  | .collection => .ok (rows.map .ok)

end Executor

/-- The rows of a document: the items of an array, and anything else is a row itself. -/
def Json.rows : Json → List Json
  | .array items => items
  | row => [row]

/-- The rows in a text. -/
def readRows? (text : String) : Option (List Json) := (Json.read? text).map Json.rows

end Projections
