import Projections.Number.Binary64
import Projections.Row.Fields

/-! Documents of the data format: integers of 64 bits of either kind, finite
floats, texts, arrays and objects. -/

namespace Projections

inductive Json where
  | null
  | boolean (flag : Bool)
  | integer (value : Int) (low : -0x8000000000000000 ≤ value)
    (high : value < 0x10000000000000000)
  | float (value : Binary64) (finite : value.isFinite = true)
  | string (text : String)
  | array (items : List Json)
  | object (fields : List (String × Json))

namespace Json

/-- A number, or null for what no number stands for. -/
def ofBinary64 (x : Binary64) : Json :=
  if h : x.isFinite = true then .float x h else .null

theorem toInt_low (n : Int64) : -0x8000000000000000 ≤ n.toInt := Int64.le_toInt n

theorem toInt_high (n : Int64) : n.toInt < 0x10000000000000000 :=
  Int.lt_trans (Int64.toInt_lt n) (by decide)

def ofInt64 (n : Int64) : Json := .integer n.toInt (toInt_low n) (toInt_high n)

end Json

end Projections
