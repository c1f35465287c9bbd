import Projections.Language.Canonical
import Projections.Row.Value

/-! What can go wrong when a selector meets a row. -/

namespace Projections

/-- How many arguments a method takes, where it minds. -/
inductive Arity where
  | exactlyOne
  | atMostOne
deriving DecidableEq, Repr

def Arity.text : Arity → String
  | .exactlyOne => "exactly one"
  | .atMostOne => "at most one"

/-- Mismatches of a value and its use. Types are given by their names. -/
inductive TypeFault where
  /-- a function where a value is wanted -/
  | strayLambda (function : Lambda)
  /-- an expression where a function is wanted -/
  | notALambda (method : String) (given : Expr)
  | arity (method : String) (allowed : Arity) (size : Nat)
  /-- a method of arrays or of strings on another value -/
  | receiver (method wanted found : String)
  | argument (method found : String)
  | search (base found : String)
  | count (method found : String)
  /-- a text that is no pattern; what is wrong with it, in the words of the pattern library, is
  not kept, and the message ends before it -/
  | pattern
  | member (field base : String)
  | index (base position : String)
  | comparison (op : BinaryOp) (left right : String)
  | operands (op : BinaryOp) (left right : String)
  | overflow (op : BinaryOp) (left right : Int64)

def TypeFault.message : TypeFault → String
  | .strayLambda f => "`" ++ f.text ++ "` can only be used as a method argument"
  | .notALambda method given =>
    "." ++ method ++ "() expects a lambda argument, got `" ++ given.text ++ "`"
  | .arity method allowed size =>
    "." ++ method ++ "() takes " ++ allowed.text ++ " argument(s), got " ++ toString size
  | .receiver method wanted found => "." ++ method ++ "() requires " ++ wanted ++ ", got " ++ found
  | .argument method found => "." ++ method ++ "() argument must be string, got " ++ found
  | .search base found => ".Contains() cannot search " ++ base ++ " for " ++ found
  | .count method found => "." ++ method ++ "() requires a non-negative integer, got " ++ found
  | .pattern => "invalid regex"
  | .member field base => "cannot read member `" ++ field ++ "` of " ++ base
  | .index base position => "cannot index " ++ base ++ " with " ++ position
  | .comparison op left right => "cannot compare " ++ left ++ " " ++ op.symbol ++ " " ++ right
  | .operands op left right => "cannot apply " ++ op.symbol ++ " to " ++ left ++ " and " ++ right
  | .overflow op left right =>
    "integer overflow in " ++ toString left ++ " " ++ op.symbol ++ " " ++ toString right

inductive BindError where
  | type (fault : TypeFault)
  | unknownMethod (name : String)
  /-- a name that no enclosing function binds -/
  | unbound (name : String)
  | divisionByZero
  /-- a function of a row or an element that takes another number of parameters than one -/
  | parameterCount (count : Nat)

def BindError.message : BindError → String
  | .type fault => "type error: " ++ fault.message
  | .unknownMethod name => "unknown method `" ++ name ++ "`"
  | .unbound name => "`" ++ name ++ "` is not bound in this projection"
  | .divisionByZero => "division by zero"
  | .parameterCount count => "selector must take exactly one parameter, got " ++ toString count

end Projections
