import Projections.Query.Basic
import Projections.Selector.Evaluation

/-! From raw rows to results. A row passes through the selector, if there is one, and
is then read as a value of the type asked for. Failures stand among the results in
their place, and only raw rows are numbered. -/

namespace Projections

variable {α : Type}

/-- What a selector makes of a raw row; without one the row is left as it is. -/
def selected (selector : Option Selector) (raw : Json) : Except BindError Json :=
  match selector with
  | none => .ok raw
  | some s => do return (← s.bind (.ofJson raw)).toJson

/-- The result for the raw row of a number. -/
def materialize (selector : Option Selector) (decode : Json → Option α) (row : Nat)
    (raw : Json) : Except QueryError α :=
  match selected selector raw with
  | .error cause => .error (.binding row cause)
  | .ok value =>
    match decode value with
    | some result => .ok result
    | none => .error (.decoding row)

namespace RowStream

/-- The results for a stream, the next raw row of which has the number `row`. -/
def resultsFrom (selector : Option Selector) (decode : Json → Option α) :
    (row : Nat) → RowStream → List (Except QueryError α)
  | _, [] => []
  | row, .error cause :: rest => .error (.execution cause) :: resultsFrom selector decode row rest
  | row, .ok raw :: rest =>
    materialize selector decode row raw :: resultsFrom selector decode (row + 1) rest

def results (stream : RowStream) (selector : Option Selector) (decode : Json → Option α) :
    List (Except QueryError α) :=
  resultsFrom selector decode 0 stream

end RowStream

/-- All results, or the first failure among them. -/
def allOf : List (Except QueryError α) → Except QueryError (List α)
  | [] => .ok []
  | .error e :: _ => .error e
  | .ok x :: rest => do return x :: (← allOf rest)

/-- The first result. -/
def firstOf (query : String) : List (Except QueryError α) → Except QueryError α
  | [] => .error (.emptyResult query)
  | result :: _ => result

end Projections
