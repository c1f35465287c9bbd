import Projections.Json.Text
import Projections.Number.Checked

/-! Row values: documents in which integers have 64 bits with a sign and floats
may be any. A selector reads fields of objects, by their exact name or else
without regard to the case of ASCII letters. -/

namespace Projections

inductive Value where
  | null
  | boolean (flag : Bool)
  | float (value : Binary64)
  | integer (value : Int64)
  | string (text : String)
  | array (items : List Value)
  | object (fields : List (String × Value))

namespace Value

def typeName : Value → String
  | .null => "null"
  | .boolean _ => "boolean"
  | .float _ => "float"
  | .integer _ => "integer"
  | .string _ => "string"
  | .array _ => "array"
  | .object _ => "object"

def isNull : Value → Bool
  | .null => true
  | _ => false

/-- Null, false, zero and what is empty do not hold. -/
def truthy : Value → Bool
  | .null => false
  | .boolean b => b
  | .integer n => n != 0
  | .float x => !x.isZero
  | .string s => !s.isEmpty
  | .array items => !items.isEmpty
  | .object fields => !fields.isEmpty

def asFloat? : Value → Option Binary64
  | .integer n => some (.ofInt n.toInt)
  | .float x => some x
  | _ => none

/-! ### Documents -/

mutual

/-- Integers beyond the signed range become floats. -/
def ofJson : Json → Value
  | .null => .null
  | .boolean b => .boolean b
  | .integer n _ _ => if n < 0x8000000000000000 then .integer (Int64.ofInt n) else .float (.ofInt n)
  | .float x _ => .float x
  | .string s => .string s
  | .array items => .array (ofJsonItems items)
  | .object fields => .object (ofJsonFields fields)

def ofJsonItems : List Json → List Value
  | [] => []
  | item :: items => ofJson item :: ofJsonItems items

def ofJsonFields : List (String × Json) → List (String × Value)
  | [] => []
  | (key, item) :: fields => (key, ofJson item) :: ofJsonFields fields

end

mutual

/-- Floats that are no numbers become null. -/
def toJson : Value → Json
  | .null => .null
  | .boolean b => .boolean b
  | .integer n => .ofInt64 n
  | .float x => .ofBinary64 x
  | .string s => .string s
  | .array items => .array (toJsonItems items)
  | .object fields => .object (toJsonFields fields)

def toJsonItems : List Value → List Json
  | [] => []
  | item :: items => item.toJson :: toJsonItems items

def toJsonFields : List (String × Value) → List (String × Json)
  | [] => []
  | (key, item) :: fields => (key, item.toJson) :: toJsonFields fields

end

/-! ### Text and fields -/

/-- The form in which a value joins a text. -/
def text : Value → String
  | .string s => s
  | .null => "null"
  | .boolean b => toString b
  | .integer n => toString n
  | .float x => x.text .plain
  | value => value.toJson.text

/-- Equality up to the case of ASCII letters. -/
def sameName (a b : String) : Bool := a.toList.map Char.toLower == b.toList.map Char.toLower

theorem sameName_refl (a : String) : sameName a a = true := beq_self_eq_true _

theorem sameName_comm (a b : String) : sameName a b = sameName b a := Bool.beq_comm ..

def field? (name : String) (fields : List (String × Value)) : Option Value :=
  match Fields.get? name fields with
  | some value => some value
  | none => (fields.find? fun entry => sameName entry.1 name).map (·.2)

def get? : Value → String → Option Value
  | .object fields, name => field? name fields
  | _, _ => none

/-! ### Equality

Values of one type are compared; floats agree as numbers. -/

mutual

def agrees : Value → Value → Bool
  | .null, .null => true
  | .boolean a, .boolean b => a == b
  | .float a, .float b => a.agrees b
  | .integer a, .integer b => a == b
  | .string a, .string b => a == b
  | .array xs, .array ys => agreeItems xs ys
  | .object xs, .object ys => agreeFields xs ys
  | _, _ => false

def agreeItems : List Value → List Value → Bool
  | [], [] => true
  | x :: xs, y :: ys => x.agrees y && agreeItems xs ys
  | _, _ => false

def agreeFields : List (String × Value) → List (String × Value) → Bool
  | [], [] => true
  | (k, x) :: xs, (l, y) :: ys => k == l && x.agrees y && agreeFields xs ys
  | _, _ => false

end

end Value

end Projections
