import Projections.Pattern.Age
import Projections.Pattern.Script
import Projections.Pattern.Segmentation

/-! The sets that a pattern asks for by the name of a property, or by the name of
a property and a value. Names are compared without regard to case, spaces,
hyphens, underscores and a leading `is`. -/

namespace Projections.CharSet

/-- The form in which names of properties are compared. -/
def loose (name : List Char) : String :=
  let strip (cs : List Char) : List Char :=
    (cs.filter fun c => c.toNat < 128 && c != ' ' && c != '_' && c != '-').map Char.toLower
  match name with
  | i :: s :: rest =>
    if i.toLower == 'i' && s.toLower == 's' then
      let short := strip rest
      -- the short name of a property that no set goes by
      String.ofList (if short == ['c'] then ['i', 's', 'c'] else short)
    else String.ofList (strip name)
  | name => String.ofList (strip name)

/-- The set of one name: a property, a general category or a script. -/
def named? (name : List Char) : Option CharSet :=
  let name := loose name
  (property? name).orElse fun _ => (generalCategory? name).orElse fun _ =>
    (script? name).map ofScript

def classed? (classes : List (List String × CharSet)) (name : String) : Option CharSet :=
  (classes.find? (·.1.contains name)).map (·.2)

/-- The set of a property that has values, at one of them. -/
def valued? (property value : List Char) : Option CharSet :=
  let value := loose value
  match loose property with
  | "gc" | "generalcategory" => generalCategory? value
  | "sc" | "script" => (script? value).map ofScript
  | "scx" | "scriptextensions" => (script? value).map ofScriptExtensions
  | "age" => ofAge? value
  | "gcb" | "graphemeclusterbreak" => classed? clusterClasses value
  | "wb" | "wordbreak" => classed? wordClasses value
  | "sb" | "sentencebreak" => classed? sentenceClasses value
  | _ => none

end Projections.CharSet
