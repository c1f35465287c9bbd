import Projections.Include.Resolution
import Projections.Language.Parser
import Projections.Query.Execution
import Projections.Selector.Composition
import Projections.Selector.Error

/-! Queries. A query is a value: including a path or selecting gives another query,
and whatever was made from the first stays as it was. -/

namespace Projections

/-- What is asked for, and whether for one row or for all. -/
structure Query extends Request where
  kind : Kind

/-- Why an expression is no selector. -/
inductive SelectFault where
  | parameterCount
  | notALambda
deriving DecidableEq, Repr

def SelectFault.message : SelectFault → String
  | .parameterCount => "a selector takes exactly one parameter"
  | .notALambda => "expected a function literal such as `x => x.Field`"

inductive QueryError where
  | invalidInclude (expression : Expr) (cause : ResolveError)
  | invalidSelect (expression : Expr) (fault : SelectFault)
  | parse (cause : ParseError)
  | execution (cause : ExecutionError)
  /-- a selector that failed on a row -/
  | binding (row : Nat) (cause : BindError)
  /-- a result that is not of the type asked for; why it is not, in the words of the JSON library,
  is not kept, and the message ends before it -/
  | decoding (row : Nat)
  | emptyResult (query : String)

def QueryError.message : QueryError → String
  | .invalidInclude e cause => "invalid include expression `" ++ e.text ++ "`: " ++ cause.message
  | .invalidSelect e fault => "invalid select expression `" ++ e.text ++ "`: " ++ fault.message
  | .parse cause => "could not parse projection: " ++ cause.message
  | .execution cause => "query execution failed: " ++ cause.message
  | .binding row cause =>
    "could not apply selector to row " ++ toString row ++ ": " ++ cause.message
  | .decoding row => "could not deserialize row " ++ toString row
  | .emptyResult query => "query `" ++ query ++ "` returned no rows"

/-- A projection as it is given: a source text, or an expression. -/
inductive Projection where
  | source (text : String)
  | tree (e : Expr)

def Projection.expr : Projection → Except QueryError Expr
  | .source text =>
    match parse text with
    | .ok e => .ok e
    | .error cause => .error (.parse cause)
  | .tree e => .ok e

/-- The selector that an expression is. -/
def Expr.selector : Expr → Except SelectFault Selector
  | .lambda [parameter] body => .ok ⟨parameter, body⟩
  | .lambda _ _ => .error .parameterCount
  | _ => .error .notALambda

namespace Query

/-- A query of a root field. Of several arguments of one name the last counts. -/
def ofName (name : String) (kind : Kind) (arguments : List (String × Json)) : Query :=
  ⟨⟨name, Fields.ofList arguments, [], none⟩, kind⟩

/-- Asks for a nested path as well. -/
def withInclude (query : Query) (registry : Registry) (projection : Projection) :
    Except QueryError Query := do
  let e ← projection.expr
  match registry.resolveInclude e with
  | .ok path => return { query with includes := query.includes ++ [path] }
  | .error cause => throw (.invalidInclude e cause)

/-- A selector after those that the query has. -/
def composed (query : Query) (next : Selector) : Selector :=
  match query.selector with
  | some previous => previous.compose next
  | none => next

/-- Applies a selector to the rows, after those selected before. -/
def withSelector (query : Query) (projection : Projection) : Except QueryError Query := do
  let e ← projection.expr
  match e.selector with
  | .ok next => return { query with selector := some (query.composed next) }
  | .error fault => throw (.invalidSelect e fault)

end Query

end Projections
