import Projections.Text.Casing

/-! How documents spell the names of fields. -/

namespace Projections

inductive Naming where
  | asIs
  | camelCase
deriving DecidableEq, Repr

/-- How many of the leading capitals get small: all of them where nothing follows,
else those before the one that starts the next word, and a single one always. -/
def loweredCount (name : List Char) : Nat :=
  let capitals := (name.takeWhile Text.isUpper).length
  if capitals = name.length ∨ capitals ≤ 1 then capitals else capitals - 1

/-- `Author` becomes `author`, `ID` becomes `id` and `URLPath` becomes `urlPath`. -/
def lowerCamel (name : String) : String :=
  let cs := name.toList
  let lowered := loweredCount cs
  String.ofList ((cs.take lowered).flatMap Text.lowerForm ++ cs.drop lowered)

def Naming.apply : Naming → String → String
  | .asIs, name => name
  | .camelCase, name => lowerCamel name

end Projections
