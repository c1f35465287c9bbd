/-! Sets of characters in patterns: ascending closed ranges of code points, none
touching the next. Tables of ranges are written as texts in hexadecimal. -/

namespace Projections

structure CharSet where
  ranges : List (Nat × Nat)
deriving DecidableEq, Repr

namespace CharSet

/-- A range that reaches beyond a code point says nothing of those before it. -/
def holds : List (Nat × Nat) → Nat → Bool
  | [], _ => false
  | (low, high) :: rest, code => low ≤ code && (code ≤ high || holds rest code)

def contains (set : CharSet) (c : Char) : Bool := holds set.ranges c.toNat

def empty : CharSet := ⟨[]⟩

def isEmpty (set : CharSet) : Bool := set.ranges.isEmpty

def single (c : Char) : CharSet := ⟨[(c.toNat, c.toNat)]⟩

/-- The only member. -/
def only? (set : CharSet) : Option Char :=
  match set.ranges with
  | [(low, high)] => if low = high then some (Char.ofNat low) else none
  | _ => none

def isAscii (set : CharSet) : Bool := set.ranges.all fun r => r.2 < 128

/-! ### Operations -/

/-- Two ascending lists of ranges as one, in the order of their starts. -/
def merge : List (Nat × Nat) → List (Nat × Nat) → List (Nat × Nat)
  | [], bs => bs
  | a :: as, bs =>
    bs.takeWhile (·.1 < a.1) ++ a :: merge as (bs.dropWhile (·.1 < a.1))

/-- Joins ranges that meet or touch to the one before them. -/
def coalesceFrom (current : Nat × Nat) : List (Nat × Nat) → List (Nat × Nat)
  | [] => [current]
  | r :: rest =>
    if r.1 ≤ current.2 + 1 then coalesceFrom (current.1, max current.2 r.2) rest
    else current :: coalesceFrom r rest

def coalesce : List (Nat × Nat) → List (Nat × Nat)
  | [] => []
  | r :: rest => coalesceFrom r rest

def union (a b : CharSet) : CharSet := ⟨coalesce (merge a.ranges b.ranges)⟩

def unions (sets : List CharSet) : CharSet := sets.foldr union empty

/-- What ranges leave free from a code point on. -/
def gaps (next : Nat) : List (Nat × Nat) → List (Nat × Nat)
  | [] => if next ≤ 0x10FFFF then [(next, 0x10FFFF)] else []
  | (low, high) :: rest =>
    if next < low then (next, low - 1) :: gaps (high + 1) rest else gaps (high + 1) rest

/-- Code points that are no characters. -/
def surrogates : CharSet := ⟨[(0xD800, 0xDFFF)]⟩

def complement (set : CharSet) : CharSet := ⟨gaps 0 (set.union surrogates).ranges⟩

def inter (a b : CharSet) : CharSet := (a.complement.union b.complement).complement

def diff (a b : CharSet) : CharSet := a.inter b.complement

def symmDiff (a b : CharSet) : CharSet := (a.diff b).union (b.diff a)

def negatedIf (negated : Bool) (set : CharSet) : CharSet :=
  if negated then set.complement else set

def all : CharSet := empty.complement

/-- The characters between two code points, both included. -/
def range (low high : Nat) : CharSet :=
  if low ≤ high then (CharSet.mk [(low, high)]).complement.complement else empty

/-! ### Tables

A table is a text of numbers and ranges in hexadecimal, ascending and divided by
blanks: `41-5A AA 100-12E/2` are the capitals of ASCII, one more letter and every
second code point from 100 to 12E. -/

def hexValue (digits : List Char) : Nat :=
  digits.foldl (fun n c => 16 * n + (if c.isDigit then c.toNat - 48 else c.toNat - 55)) 0

/-- The ranges of one word of a table. -/
def wordRanges (word : List Char) : List (Nat × Nat) :=
  let (first, rest) := word.span (· != '-')
  let (last, step) := (rest.drop 1).span (· != '/')
  let low := hexValue first
  if rest.isEmpty then [(low, low)]
  else if step.isEmpty then [(low, hexValue last)]
  else
    let step := hexValue (step.drop 1)
    (List.range ((hexValue last - low) / step + 1)).map fun i =>
      (low + step * i, low + step * i)

/-- The words of a text, the last one first. -/
def wordsOf (text : List Char) : List (List Char) :=
  let (words, current) := text.foldl (fun (words, current) c =>
    if c == ' ' || c == '\n' then
      (if current.isEmpty then words else current.reverse :: words, [])
    else (words, c :: current)) (([] : List (List Char)), ([] : List Char))
  if current.isEmpty then words else current.reverse :: words

/-- The set of a table. -/
def ofTable (table : String) : CharSet :=
  ⟨coalesce ((wordsOf table.toList).foldl (fun ranges word => wordRanges word ++ ranges) [])⟩

/-! ### ASCII -/

def ascii : CharSet := ⟨[(0, 127)]⟩

def asciiDigit : CharSet := ⟨[(48, 57)]⟩

def asciiSpace : CharSet := ⟨[(9, 13), (32, 32)]⟩

def asciiWord : CharSet := ⟨[(48, 57), (65, 90), (95, 95), (97, 122)]⟩

/-- The ASCII classes that have names. -/
def asciiNamed? : String → Option CharSet
  | "alnum" => some ⟨[(48, 57), (65, 90), (97, 122)]⟩
  | "alpha" => some ⟨[(65, 90), (97, 122)]⟩
  | "ascii" => some ascii
  | "blank" => some ⟨[(9, 9), (32, 32)]⟩
  | "cntrl" => some ⟨[(0, 31), (127, 127)]⟩
  | "digit" => some asciiDigit
  | "graph" => some ⟨[(33, 126)]⟩
  | "lower" => some ⟨[(97, 122)]⟩
  | "print" => some ⟨[(32, 126)]⟩
  | "punct" => some ⟨[(33, 47), (58, 64), (91, 96), (123, 126)]⟩
  | "space" => some asciiSpace
  | "upper" => some ⟨[(65, 90)]⟩
  | "word" => some asciiWord
  | "xdigit" => some ⟨[(48, 57), (65, 70), (97, 102)]⟩
  | _ => none

end CharSet

end Projections
