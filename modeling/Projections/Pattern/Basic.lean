import Projections.Pattern.CharSet

/-! Patterns and where they occur in a text. A set of places between the
characters of a text is a number, one bit for each place from the start; a
pattern takes the set of places where it may begin to those where it may end. -/

namespace Projections

/-- What an assertion asks of the place it stands at. -/
inductive Assertion where
  | textStart
  | textEnd
  | lineStart
  | lineEnd
  /-- lines that end in `\n`, `\r` or both -/
  | looseLineStart
  | looseLineEnd
  | boundary (word : CharSet)
  | noBoundary (word : CharSet)
  | wordStart (word : CharSet)
  | wordEnd (word : CharSet)
  /-- no word character before -/
  | wordStartHalf (word : CharSet)
  /-- no word character after -/
  | wordEndHalf (word : CharSet)
deriving DecidableEq

/-- Whether an assertion holds between two characters, or at an end of the text. -/
def Assertion.holds (before after : Option Char) : Assertion → Bool
  | .textStart => before.isNone
  | .textEnd => after.isNone
  | .lineStart => before.all (· == '\n')
  | .lineEnd => after.all (· == '\n')
  | .looseLineStart => before.all fun c => c == '\n' || c == '\r' && after != some '\n'
  | .looseLineEnd => after.all fun c => c == '\r' || c == '\n' && before != some '\r'
  | .boundary word => before.any word.contains != after.any word.contains
  | .noBoundary word => before.any word.contains == after.any word.contains
  | .wordStart word => !before.any word.contains && after.any word.contains
  | .wordEnd word => before.any word.contains && !after.any word.contains
  | .wordStartHalf word => !before.any word.contains
  | .wordEndHalf word => !after.any word.contains

inductive Pattern where
  | nothing
  | assert (assertion : Assertion)
  /-- a character of a set, written with brackets that nest so deep -/
  | one (set : CharSet) (nesting : Nat)
  | sequence (parts : List Pattern)
  | choice (parts : List Pattern)
  | repeated (least : Nat) (most : Option Nat) (body : Pattern)
  | group (captures : Bool) (body : Pattern)

namespace Pattern

/-- How deep patterns are nested: single characters and assertions are flat. -/
def depth : Pattern → Nat
  | .nothing | .assert _ => 0
  | .one _ nesting => nesting
  | .sequence parts | .choice parts => 1 + depths parts
  | .repeated _ _ body | .group _ body => 1 + body.depth
where
  depths : List Pattern → Nat
    | [] => 0
    | p :: ps => max p.depth (depths ps)

/-! ### Places -/

abbrev Places := Nat

def Places.ofTests (tests : List Bool) : Places :=
  tests.foldr (fun test places => 2 * places + test.toNat) 0

/-- The places before the characters of a set. -/
def before (set : CharSet) (text : List Char) : Places := .ofTests (text.map set.contains)

/-- The places at which an assertion holds. -/
def holding (assertion : Assertion) (text : List Char) : Places :=
  let ends := text.map some
  .ofTests (List.zipWith assertion.holds (none :: ends) (ends ++ [none]))

def everywhere (text : List Char) : Places := (1 <<< (text.length + 1)) - 1

/-- The places after a number of turns, fewer if a turn changes nothing. -/
def after (turn : Places → Places) : Nat → Places → Places
  | 0, places => places
  | n + 1, places =>
    let next := turn places
    if next = places then places else after turn n next

/-- The places after that many turns or fewer. Only those that the last turn
found are turned on from. -/
def within (turn : Places → Places) : Nat → (latest found : Places) → Places
  | 0, _, found => found
  | n + 1, latest, found =>
    let new := (turn latest ||| found) - found
    if new = 0 then found else within turn n new (found ||| new)

/-! ### Occurrence

On one text, a pattern is a track: its sets and assertions are the places where
they hold. -/

inductive Track where
  /-- stays, at some of the places -/
  | rest (places : Places)
  /-- takes the character after each of some places -/
  | step (places : Places)
  | sequence (parts : List Track)
  | choice (parts : List Track)
  | turns (least extra : Nat) (body : Track)

mutual

/-- A pattern on a text. It never steps back, so a longer series of turns than there
are places stands still at one of them and can be cut to their number. -/
def track (text : List Char) : Pattern → Track
  | .nothing => .rest (everywhere text)
  | .assert assertion => .rest (holding assertion text)
  | .one set _ => .step (before set text)
  | .sequence parts => .sequence (tracks text parts)
  | .choice parts => .choice (tracks text parts)
  | .repeated least most body =>
    let turns := text.length + 1
    let extra := match most with
      | some most => min (most - least) turns
      | none => turns
    .turns (min least turns) extra (track text body)
  | .group _ body => track text body

def tracks (text : List Char) : List Pattern → List Track
  | [] => []
  | p :: ps => track text p :: tracks text ps

end

namespace Track

mutual

/-- Where a track may end that begins at some of the places. -/
def ends : Track → Places → Places
  | .rest held, places => places &&& held
  | .step held, places => (places &&& held) <<< 1
  | .sequence parts, places => endsOfAll parts places
  | .choice parts, places => endsOfAny parts places
  | .turns least extra body, places =>
    let first := after (ends body) least places
    within (ends body) extra first first

def endsOfAll : List Track → Places → Places
  | [], places => places
  | t :: ts, places => endsOfAll ts (ends t places)

def endsOfAny : List Track → Places → Places
  | [], _ => 0
  | t :: ts, places => ends t places ||| endsOfAny ts places

end

end Track

/-- Whether the pattern occurs anywhere in the text. -/
def occursIn (pattern : Pattern) (text : List Char) : Bool :=
  (pattern.track text).ends (everywhere text) != 0

end Pattern

end Projections
