import Projections.Document.Generation
import Projections.Json.Skip

/-! The configuration of queries and its text. Settings are given by name, in any order
and without repetition, or by position. A setting that is not given keeps its default. -/

namespace Projections

namespace Naming

def name : Naming → String
  | .asIs => "as_is"
  | .camelCase => "camel_case"

def ofName? (text : String) : Option Naming := [asIs, camelCase].find? (·.name == text)

end Naming

/-- How documents are written, and where the source of the rows is. -/
structure Config extends DocumentStyle where
  endpoint : Option String
  indent_lt : indent < 0x10000000000000000

namespace Config

def default : Config := ⟨⟨.asIs, none, 2⟩, none, by decide⟩

/-- The settings by their names, in order of position. -/
def toJson (config : Config) : Json :=
  .object [("endpoint", config.endpoint.elim .null .string),
    ("operation_name", config.operationName.elim .null .string),
    ("field_naming", .string config.naming.name),
    ("indent", .integer config.indent (by omega) (by have := config.indent_lt; omega))]

inductive Setting where
  | endpoint (address : Option String)
  | operationName (name : Option String)
  | naming (naming : Naming)
  | indent (size : UInt64)

def set (config : Config) : Setting → Config
  | .endpoint address => { config with endpoint := address }
  | .operationName name => { config with operationName := name }
  | .naming naming => { config with naming := naming }
  | .indent size => { config with indent := size.toNat, indent_lt := size.toNat_lt }

/-! ### Reading -/

open Json (Reader)
open Json.Reader

def null? : Reader Unit := fun cs =>
  (after? ['n', 'u', 'l', 'l'] (skipSpace cs)).map fun rest => ((), rest)

/-- A text or null. -/
def optionalText? : Reader (Option String) := fun cs =>
  match skipSpace cs with
  | '"' :: rest => (string? rest).map fun (text, rest) => (some text, rest)
  | cs => (null? cs).map fun (_, rest) => (none, rest)

/-- The name of a naming, or an object that holds null under that name. -/
def naming? : Reader Naming := fun cs => do
  let (name, rest) ← match skipSpace cs with
    | '"' :: rest => string? rest
    | '{' :: rest => do
      let ((name, _), rest) ← member string? (fun _ => null?) rest
      match skipSpace rest with
      | '}' :: rest => some (name, rest)
      | _ => none
    | _ => none
  some (← Naming.ofName? name, rest)

/-- An integer from zero on. -/
def size? : Reader UInt64 := fun cs => do
  match ← number? (skipSpace cs) with
  | (.integer n _ _, rest) => if 0 ≤ n then some (UInt64.ofNat n.toNat, rest) else none
  | _ => none

/-- The settings by name, in order of position. -/
def settings : List (String × Reader Setting) :=
  [("endpoint", fun cs => (optionalText? cs).map fun (x, rest) => (.endpoint x, rest)),
    ("operation_name", fun cs => (optionalText? cs).map fun (x, rest) => (.operationName x, rest)),
    ("field_naming", fun cs => (naming? cs).map fun (x, rest) => (.naming x, rest)),
    ("indent", fun cs => (size? cs).map fun (x, rest) => (.indent x, rest))]

/-- The setting of a name; what has another name is passed over. -/
def settingNamed? (name : String) : Reader (Option Setting) := fun cs =>
  match settings.lookup name with
  | some setting => (setting cs).map fun (x, rest) => (some x, rest)
  | none => (skipAny? cs).map fun (_, rest) => (none, rest)

def named? : Reader (List Setting) := fun cs => do
  let (entries, rest) ← object? string? settingNamed? cs
  let known := entries.filterMap fun (name, setting) => setting.map fun x => (name, x)
  if (known.map (·.1)).Nodup then some (known.map (·.2), rest) else none

/-- What follows an item of an array: the end, or a comma and more items. -/
def continued? : List (Reader Setting) → Reader (List Setting)
  | items, cs =>
    match items, skipSpace cs with
    | _, ']' :: rest => some ([], rest)
    | item :: items, ',' :: rest => do
      let (first, rest) ← item rest
      let (others, rest) ← continued? items rest
      some (first :: others, rest)
    | _, _ => none

def positional? : List (Reader Setting) → Reader (List Setting)
  | items, cs =>
    match items, skipSpace cs with
    | _, ']' :: rest => some ([], rest)
    | item :: items, cs => do
      let (first, rest) ← item cs
      let (others, rest) ← continued? items rest
      some (first :: others, rest)
    | [], _ => none

def given? : Reader (List Setting) := fun cs =>
  match skipSpace cs with
  | '{' :: rest => named? rest
  | '[' :: rest => positional? (settings.map (·.2)) rest
  | _ => none

def read? (text : String) : Option Config :=
  (Json.readWith given? text).map fun given => given.foldl set default

end Config

end Projections
