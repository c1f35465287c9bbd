import Projections.Pattern.Form
import Std.Data.HashSet

/-! The memory that a pattern takes as an automaton over bytes. Patterns that take
too much are refused. An automaton is a row of states; some of them list transitions,
each for a range of bytes, or branches to other states. It is built twice, to read
texts forwards and backwards. -/

namespace Projections

/-! ### Characters as bytes -/

abbrev ByteRange := Nat × Nat

/-- The sequences of byte ranges for the numbers between two, both included, in
digits of six bits after the first. -/
def digitRanges : Nat → (base low high : Nat) → List (List ByteRange)
  | 0, base, low, high => [[(base + low, base + high)]]
  | digits + 1, base, low, high =>
    let unit := 1 <<< (6 * (digits + 1))
    let under (first low high : Nat) : List (List ByteRange) :=
      (digitRanges digits 128 low high).map ((base + first, base + first) :: ·)
    if low / unit = high / unit then under (low / unit) (low % unit) (high % unit)
    else
      let firstFull := if low % unit = 0 then low / unit else low / unit + 1
      let endFull := if high % unit = unit - 1 then high / unit + 1 else high / unit
      (if low % unit = 0 then [] else under (low / unit) (low % unit) (unit - 1)) ++
      (if firstFull < endFull then
        [(base + firstFull, base + (endFull - 1)) :: List.replicate (digits + 1) (128, 191)]
      else []) ++
      (if high % unit = unit - 1 then [] else under (high / unit) 0 (high % unit))

/-- The part of a range of code points that has a length in bytes, as sequences. -/
def ofLength (digits base first last : Nat) (range : Nat × Nat) : List (List ByteRange) :=
  let low := max range.1 first
  let high := min range.2 last
  if low ≤ high then digitRanges digits base low high else []

/-- The sequences of byte ranges for a range of code points. -/
def byteSequences (range : Nat × Nat) : List (List ByteRange) :=
  ofLength 0 0 0 0x7F range ++ ofLength 1 0xC0 0x80 0x7FF range ++
    ofLength 2 0xE0 0x800 0xFFFF range ++ ofLength 3 0xF0 0x10000 0x10FFFF range

def charBytes (c : Char) : List Nat :=
  (byteSequences (c.toNat, c.toNat)).flatten.map (·.1)

/-! ### States -/

def stateBytes : Nat := 32

def transitionBytes : Nat := 8

def branchBytes : Nat := 4

/-- A state with transitions. -/
def rowBytes (transitions : Nat) : Nat := stateBytes + transitionBytes * transitions

/-- A state with branches. -/
def forkBytes (branches : Nat) : Nat := stateBytes + branchBytes * branches

/-! ### Sets of characters

Forwards, a tree of sequences is built in which equal subtrees are one; backwards,
one in which equal beginnings are. -/

/-- The sequences that begin alike, together. -/
def alike (sequences : List (List ByteRange)) : List (List (List ByteRange)) :=
  sequences.splitBy fun s t => s.head? == t.head?

/-- The subtrees of a tree, itself first, each by its sequences. -/
def subtrees : Nat → List (List ByteRange) → List (List (List ByteRange))
  | 0, _ => []
  | depth + 1, sequences =>
    sequences :: (alike sequences).flatMap fun group =>
      let rests := group.map (·.drop 1)
      if rests.all (·.isEmpty) then [] else subtrees depth rests

/-- Equal trees are one. -/
def distinct (trees : List (List (List ByteRange))) : List (List (List ByteRange)) :=
  (trees.foldl (fun (seen, kept) tree =>
    if seen.contains tree then (seen, kept) else (seen.insert tree, tree :: kept))
    ((∅ : Std.HashSet (List (List ByteRange))), [])).2

def sharedLength : List ByteRange → List ByteRange → Nat
  | r :: rs, s :: ss => if r == s then sharedLength rs ss + 1 else 0
  | _, _ => 0

/-- The ranges that each sequence has beyond the start it shares with the last one. -/
def freshRanges : List ByteRange → List (List ByteRange) → Nat
  | _, [] => 0
  | last, sequence :: rest =>
    sequence.length - sharedLength last sequence + freshRanges sequence rest

def setFootprint (backward : Bool) (set : CharSet) : Nat :=
  if set.isAscii then stateBytes + rowBytes set.ranges.length
  else
    let sequences := set.ranges.flatMap byteSequences
    if backward then
      stateBytes + forkBytes sequences.length + stateBytes * freshRanges [] sequences
    else
      (distinct (subtrees 4 sequences)).foldl
        (fun bytes tree => bytes + rowBytes (alike tree).length) stateBytes

/-- No set takes more: a range is at most sixteen sequences of four ranges. -/
def roughSetFootprint (_ : Bool) (set : CharSet) : Nat :=
  2 * stateBytes + 16 * (branchBytes + 4 * stateBytes) * set.ranges.length

/-! ### Literals as alternatives

They form a tree. A literal that ends inside the tree ends a row of transitions there,
and what comes later begins another row. -/

/-- The rows of transitions at the root of a tree, latest first, each with the
first byte and the rest of its literals, latest first. -/
def rowsOf (literals : List (List Nat)) : List (List (Nat × List Nat)) :=
  literals.foldl (fun rows literal =>
    match literal, rows with
    | byte :: rest, row :: rows => ((byte, rest) :: row) :: rows
    | byte :: rest, [] => [[(byte, rest)]]
    | [], rows => if rows.length ≥ 2 && rows.all (·.isEmpty) then rows else [] :: rows) [[]]

def literalsFootprint : Nat → List (List Nat) → Nat
  | 0, _ => 0
  | depth + 1, literals =>
    let rows := rowsOf literals
    let footprints := rows.map fun row =>
      let bytes := (row.map (·.1)).eraseDups
      let below := bytes.map fun byte =>
        let rests := row.reverse.filterMap fun r => if r.1 == byte then some r.2 else none
        if rests.all (·.isEmpty) then 0 else literalsFootprint depth rests
      match bytes.length with
      | 0 => 0
      | 1 => stateBytes + below.sum
      | n => rowBytes n + below.sum
    forkBytes ((rows.filter (!·.isEmpty)).length + (rows.length - 1)) + footprints.sum

/-! ### Forms -/

namespace Form

def literal? : Form → Option (List Nat)
  | .literal text => some (text.flatMap charBytes)
  | _ => none

mutual

/-- The memory of a form, given that of sets. Backwards, captures take none. -/
def footprint (ofSet : Bool → CharSet → Nat) (backward : Bool) : Form → Nat
  | .empty | .assertion _ => stateBytes
  | .literal text => stateBytes * (text.flatMap charBytes).length
  | .set members => ofSet backward members
  | .capture body => (if backward then 0 else 2 * stateBytes) + footprint ofSet backward body
  | .repeated least most body =>
    let once := footprint ofSet backward body
    match least, most with
    | 0, some 1 => forkBytes 2 + stateBytes + once
    | 0, none =>
      if body.takesCharacter then forkBytes 2 + once else 2 * forkBytes 2 + stateBytes + once
    | least, none => least * once + forkBytes 2
    | least, some most =>
      if least = most then least * once
      else
        (if least = 0 then stateBytes else least * once) + stateBytes +
          (most - least) * (forkBytes 2 + once)
  | .sequence parts => footprints ofSet backward parts
  | .choice parts =>
    match parts.mapM literal? with
    | some literals =>
      let literals := if backward then literals.map List.reverse else literals
      let depth := literals.foldl (fun depth literal => max depth literal.length) 0
      stateBytes + literalsFootprint (depth + 1) literals
    | none => stateBytes + forkBytes parts.length + footprints ofSet backward parts

def footprints (ofSet : Bool → CharSet → Nat) (backward : Bool) : List Form → Nat
  | [] => 0
  | p :: ps => footprint ofSet backward p + footprints ofSet backward ps

end

mutual

/-- Whether all occurrences stand where an assertion holds: at their start, or read
backwards at their end. -/
def isBoundTo (anchor : Assertion) (backward : Bool) : Form → Bool
  | .assertion asked => asked == anchor
  | .capture body => isBoundTo anchor backward body
  | .repeated least _ body => 0 < least && isBoundTo anchor backward body
  | .sequence parts =>
    let bounds := boundParts anchor backward parts
    let bounds := if backward then bounds.reverse else bounds
    ((bounds.takeWhile (·.2)).any (·.1)) || ((bounds.dropWhile (·.2)).head?.any (·.1))
  | .choice parts => (boundParts anchor backward parts).all (·.1)
  | _ => false

/-- For every part whether it is bound and whether it is empty. -/
def boundParts (anchor : Assertion) (backward : Bool) : List Form → List (Bool × Bool)
  | [] => []
  | p :: ps => (isBoundTo anchor backward p, p.isBlank) :: boundParts anchor backward ps

end

/-- The memory of the automaton of a form. Unless it is bound to an end of the text,
it may skip bytes first. Forwards, the whole occurrence is a capture, too. -/
def automatonBytes (ofSet : Bool → CharSet → Nat) (backward : Bool) (form : Form) : Nat :=
  let anchor := if backward then Assertion.textEnd else .textStart
  (if form.isBoundTo anchor backward then stateBytes
    else forkBytes 2 + stateBytes + rowBytes 1) +
  footprint ofSet backward (.capture form) + stateBytes

end Form

namespace Pattern

/-- An automaton takes this many bytes. -/
def footprintLimit : Nat := 10 * 1024 * 1024

def fits (ofSet : Bool → CharSet → Nat) (form : Form) : Bool :=
  form.automatonBytes ofSet false ≤ footprintLimit &&
    form.automatonBytes ofSet true ≤ footprintLimit

/-- Whether both automata of a pattern are small enough. Sets are weighed with care
only where a rough bound does not do. -/
def isBuildable (pattern : Pattern) : Bool :=
  let form := pattern.form
  fits roughSetFootprint form || fits setFootprint form

end Pattern

end Projections
