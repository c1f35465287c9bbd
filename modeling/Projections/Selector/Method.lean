import Projections.Pattern.Reader
import Projections.Selector.Operation
import Projections.Text.Casing

/-! The methods of row values. A method sees its arguments as `Argument`s, so that
it decides itself whether, when and on what an argument runs. -/

namespace Projections

/-- An argument of a call, in the scope of the call. -/
structure Argument where
  /-- what it is by itself -/
  value : Except BindError Value
  /-- what it makes of an element -/
  apply : Value → Except BindError Value

inductive Method where
  | select | filter | any | all
  | orderBy | orderByDescending
  | take | skip
  | first | last | count
  | sum | min | max
  | toUpper | toLower | trim
  | contains | startsWith | endsWith | occurrence
deriving DecidableEq, Repr

namespace Method

def name : Method → String
  | .select => "Select"
  | .filter => "Where"
  | .any => "Any"
  | .all => "All"
  | .orderBy => "OrderBy"
  | .orderByDescending => "OrderByDescending"
  | .take => "Take"
  | .skip => "Skip"
  | .first => "First"
  | .last => "Last"
  | .count => "Count"
  | .sum => "Sum"
  | .min => "Min"
  | .max => "Max"
  | .toUpper => "ToUpper"
  | .toLower => "ToLower"
  | .trim => "Trim"
  | .contains => "Contains"
  | .startsWith => "StartsWith"
  | .endsWith => "EndsWith"
  | .occurrence => "Matches"

def every : List Method :=
  [.select, .filter, .any, .all, .orderBy, .orderByDescending, .take, .skip, .first, .last,
   .count, .sum, .min, .max, .toUpper, .toLower, .trim, .contains, .startsWith, .endsWith,
   .occurrence]

def ofName? (name : String) : Option Method := every.find? (·.name == name)

/-! ### Receivers and arguments -/

/-- The elements of an array; null has none. -/
def elements (m : Method) : Value → Except BindError (List Value)
  | .array items => .ok items
  | .null => .ok []
  | other => .error (.type (.receiver m.name "array" other.typeName))

def characters (m : Method) : Value → Except BindError (List Char)
  | .string text => .ok text.toList
  | other => .error (.type (.receiver m.name "string" other.typeName))

def one (m : Method) : List Argument → Except BindError Argument
  | [argument] => .ok argument
  | arguments => .error (.type (.arity m.name .exactlyOne arguments.length))

def optional (m : Method) : List Argument → Except BindError (Option Argument)
  | [] => .ok none
  | [argument] => .ok (some argument)
  | arguments => .error (.type (.arity m.name .atMostOne arguments.length))

/-- How many elements to take or to skip. -/
def size (m : Method) (arguments : List Argument) : Except BindError Nat := do
  let argument ← m.one arguments
  match ← argument.value with
  | .integer n => if 0 ≤ n then return n.toInt.toNat else throw (.type (.count m.name "integer"))
  | other => throw (.type (.count m.name other.typeName))

/-- The text a text is searched for. -/
def needle (m : Method) (arguments : List Argument) : Except BindError (List Char) := do
  let argument ← m.one arguments
  match ← argument.value with
  | .string text => return text.toList
  | other => throw (.type (.argument m.name other.typeName))

/-! ### Elements -/

/-- The elements for which the test holds. -/
def keep (test : Value → Except BindError Value) : List Value → Except BindError (List Value)
  | [] => .ok []
  | item :: items => do
    let verdict ← test item
    let kept ← keep test items
    return if verdict.truthy then item :: kept else kept

/-- Whether the test holds for some element; later ones are not tested. -/
def someHolds (test : Value → Except BindError Value) : List Value → Except BindError Bool
  | [] => .ok false
  | item :: items => do
    if (← test item).truthy then return true else someHolds test items

/-- Whether the test holds for every element; the first failure ends it. -/
def everyHolds (test : Value → Except BindError Value) : List Value → Except BindError Bool
  | [] => .ok true
  | item :: items => do
    if (← test item).truthy then everyHolds test items else return false

/-- The elements an optional test keeps. -/
def selection (m : Method) (arguments : List Argument) (items : List Value) :
    Except BindError (List Value) := do
  match ← m.optional arguments with
  | none => return items
  | some test => keep test.apply items

/-- Orders elements by their keys; elements with equal keys stay in order. Keys that have no
consistent order leave it open: null goes with 2 and with 1, so that 2, null and 1 may come out in
more than one way, and another sort that keeps equals in order need not give what merging gives
here. -/
def ordered (keyed : List (Value × Value)) : List Value :=
  (keyed.mergeSort fun a b => a.1.order? b.1 != some .gt).map (·.2)

def withKeys (key : Value → Except BindError Value) (items : List Value) :
    Except BindError (List (Value × Value)) :=
  items.mapM fun item => do return (← key item, item)

/-- What an element contributes to a total: itself, or what the argument makes of it. -/
def contribution (m : Method) (arguments : List Argument) (item : Value) :
    Except BindError Value := do
  match ← m.optional arguments with
  | none => return item
  | some argument => argument.apply item

/-- Null adds nothing. -/
def increase (total value : Value) : Except BindError Value :=
  if value.isNull then .ok total else BinaryOp.arithmetic .add total value

/-- The first of the values that no later one precedes in the wanted direction. -/
def better (wanted : Ordering) (best : Option Value) (value : Value) : Option Value :=
  match best with
  | none => some value
  | some current => if value.order? current = some wanted then some value else some current

def total (contribute : Value → Except BindError Value) (items : List Value) :
    Except BindError Value :=
  items.foldlM (fun sum item => do increase sum (← contribute item)) (.integer 0)

def extreme (wanted : Ordering) (contribute : Value → Except BindError Value)
    (items : List Value) : Except BindError Value := do
  let best ← items.foldlM (fun best item => do return better wanted best (← contribute item)) none
  return best.getD .null

def length (items : List Value) : Value := .integer (Int64.ofNat items.length)

/-! ### Texts -/

/-- Whether a text stands somewhere in another. -/
def occursIn (needle : List Char) : List Char → Bool
  | [] => needle.isEmpty
  | c :: rest => needle.isPrefixOf (c :: rest) || occursIn needle rest

/-- A text holds its parts and an array the values equal to its elements; null holds nothing. -/
def holds : (base needle : Value) → Except BindError Bool
  | .string text, .string part => .ok (occursIn part.toList text.toList)
  | .array items, value => .ok (items.any (·.looselyEqual value))
  | .null, _ => .ok false
  | base, value => .error (.type (.search base.typeName value.typeName))

/-! ### Calls -/

/-- The result of a method on its receiver. -/
def call (m : Method) (receiver : Value) (arguments : List Argument) : Except BindError Value := do
  match m with
  | .select =>
    let f ← m.one arguments
    let items ← m.elements receiver
    return .array (← items.mapM f.apply)
  | .filter =>
    let test ← m.one arguments
    let items ← m.elements receiver
    return .array (← keep test.apply items)
  | .any =>
    let items ← m.elements receiver
    match ← m.optional arguments with
    | none => return .boolean !items.isEmpty
    | some test => return .boolean (← someHolds test.apply items)
  | .all =>
    let test ← m.one arguments
    let items ← m.elements receiver
    return .boolean (← everyHolds test.apply items)
  | .orderBy =>
    let key ← m.one arguments
    let items ← m.elements receiver
    return .array (ordered (← withKeys key.apply items))
  | .orderByDescending =>
    let key ← m.one arguments
    let items ← m.elements receiver
    return .array (ordered (← withKeys key.apply items)).reverse
  | .take =>
    let n ← m.size arguments
    return .array ((← m.elements receiver).take n)
  | .skip =>
    let n ← m.size arguments
    return .array ((← m.elements receiver).drop n)
  | .first =>
    let items ← m.elements receiver
    return (← m.selection arguments items).head?.getD .null
  | .last =>
    let items ← m.elements receiver
    return (← m.selection arguments items).getLast?.getD .null
  | .count =>
    let items ← m.elements receiver
    return length (← m.selection arguments items)
  | .sum => total (m.contribution arguments) (← m.elements receiver)
  | .min => extreme .lt (m.contribution arguments) (← m.elements receiver)
  | .max => extreme .gt (m.contribution arguments) (← m.elements receiver)
  | .toUpper => return .string (String.ofList (Text.toUpper (← m.characters receiver)))
  | .toLower => return .string (String.ofList (Text.toLower (← m.characters receiver)))
  | .trim => return .string (String.ofList (Text.trim (← m.characters receiver)))
  | .contains =>
    let argument ← m.one arguments
    return .boolean (← holds receiver (← argument.value))
  | .startsWith =>
    let affix ← m.needle arguments
    return .boolean (affix.isPrefixOf (← m.characters receiver))
  | .endsWith =>
    let affix ← m.needle arguments
    return .boolean (affix.isSuffixOf (← m.characters receiver))
  | .occurrence =>
    let source ← m.needle arguments
    match Pattern.read? source with
    | none => throw (.type .pattern)
    | some pattern =>
      match receiver with
      | .string text => return .boolean (pattern.occursIn text.toList)
      | _ => return .boolean false

end Method

end Projections
