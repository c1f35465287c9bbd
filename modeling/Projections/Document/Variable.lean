import Projections.Json.Basic

/-! The types that variables are declared with. -/

namespace Projections

inductive VariableType where
  | boolean
  | int
  | float
  | string
  | json
  | list (element : VariableType)
deriving DecidableEq, Repr

namespace VariableType

def text : VariableType → String
  | .boolean => "Boolean"
  | .int => "Int"
  | .float => "Float"
  | .string => "String"
  | .json => "JSON"
  | .list element => "[" ++ element.text ++ "]"

/-- The type for a value. An array has the type of its first element. -/
def ofJson : Json → VariableType
  | .null => .string
  | .boolean _ => .boolean
  | .integer _ _ _ => .int
  | .float _ _ => .float
  | .string _ => .string
  | .array [] => .list .string
  | .array (item :: _) => .list (ofJson item)
  | .object _ => .json

end VariableType

end Projections
