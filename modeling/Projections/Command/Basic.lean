import Projections.Command.Error
import Projections.Query.Config
import Projections.Query.Rows
import Projections.Text.Letter

/-! Commands: resolving an include, rendering the document of a query, and running a
query on rows that are at hand. -/

namespace Projections

/-- A query in texts, as a command is given it. -/
structure QueryText where
  name : String
  item : Bool
  arguments : List String
  includes : List String
  select : Option String

/-- Reads `NAME=VALUE`. What is no document is a text. -/
def readArgument (given : String) : Except CommandError (String × Json) :=
  match given.toList.span (· ≠ '=') with
  | (_, []) => .error (.invalidArgument given)
  | (name, _ :: value) =>
    let value := String.ofList value
    match Text.trim name with
    | [] => .error (.invalidArgument given)
    | name => .ok (String.ofList name, (Json.read? value).getD (.string value))

def readArguments : List String → Except CommandError (List (String × Json))
  | [] => .ok []
  | given :: rest => do
    let argument ← readArgument given
    return argument :: (← readArguments rest)

namespace QueryText

def kind (text : QueryText) : Kind := if text.item then .item else .collection

/-- The query with its paths, in order, and its selector. -/
def build (text : QueryText) (arguments : List (String × Json)) : Except QueryError Query := do
  let query ← text.includes.foldlM
    (fun query path => query.withInclude .standard (.source path))
    (Query.ofName text.name text.kind arguments)
  match text.select with
  | some selector => query.withSelector (.source selector)
  | none => return query

def query (text : QueryText) : Except CommandError Query := do
  let arguments ← readArguments text.arguments
  match text.build arguments with
  | .ok query => return query
  | .error cause => throw (.query cause)

end QueryText

namespace Command

/-- The path of one include, with the standard operators. -/
def resolve (expression : String) : Except CommandError Path :=
  match parse expression with
  | .error cause => .error (.parse cause)
  | .ok e =>
    match Registry.standard.resolveInclude e with
    | .ok path => .ok path
    | .error cause => .error (.resolve cause)

def render (config : Config) (text : QueryText) : Except CommandError Document := do
  return config.toDocumentStyle.generate (← text.query).toRequest

/-- The results of a query as one document: a row alone, or all rows in an array. -/
def gathered (query : Query) (results : List (Except QueryError Json)) :
    Except QueryError Json :=
  match query.kind with
  | .item => firstOf query.name results
  | .collection => do return .array (← allOf results)

/-- Sends a query to an executor and gathers what comes back. -/
def materialized (config : Config) (executor : Executor) (query : Query) :
    Except QueryError Json :=
  match executor (config.toDocumentStyle.generate query.toRequest) query.kind with
  | .error cause => .error (.execution cause)
  | .ok stream => gathered query (stream.results query.selector some)

/-- Runs a query on the rows of a text. -/
def run (config : Config) (text : QueryText) (rows : Option String) :
    Except CommandError Json := do
  let some rows := rows | throw .noInput
  let some rows := readRows? rows | throw .json
  match materialized config (.ofRows rows) (← text.query) with
  | .ok json => return json
  | .error cause => throw (.query cause)

end Command

end Projections
