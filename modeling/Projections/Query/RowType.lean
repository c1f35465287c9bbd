import Projections.Json.Basic

/-! The types that rows are read as. No value is converted. -/

namespace Projections

inductive RowType where
  /-- any document -/
  | json
  | string
  /-- an integer of 64 bits with a sign -/
  | int
  | bool
  /-- an array of texts -/
  | strings
deriving DecidableEq, Repr

namespace Json

def isString : Json → Bool
  | .string _ => true
  | _ => false

end Json

namespace RowType

def admits : RowType → Json → Bool
  | .json, _ => true
  | .string, j => j.isString
  | .int, .integer n _ _ => n < 0x8000000000000000
  | .bool, .boolean _ => true
  | .strings, .array items => items.all Json.isString
  | _, _ => false

/-- A document as a value of the type. -/
def decode (type : RowType) (j : Json) : Option Json := if type.admits j then some j else none

end RowType

end Projections
