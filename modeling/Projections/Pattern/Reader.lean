import Projections.Pattern.Bracket
import Projections.Pattern.Folding
import Projections.Pattern.Footprint
import Projections.Pattern.PropertyName
import Projections.Text.Letter

/-! Reading patterns. Sequences, alternatives, repetitions, groups, bracketed
classes with set operations, and escapes are understood; look-around and
references back are not, and a pattern that is not understood is no pattern. -/

namespace Projections.Pattern

/-- The flags in force at some point of a pattern. -/
structure Mode where
  caseless : Bool := false
  multiline : Bool := false
  dotAll : Bool := false
  /-- `\r` ends lines, too -/
  looseLines : Bool := false
  /-- blanks and comments are skipped -/
  extended : Bool := false
  /-- classes reach beyond ASCII -/
  unicode : Bool := true

namespace Mode

def fold (mode : Mode) (set : CharSet) : CharSet :=
  if !mode.caseless then set
  else if mode.unicode then set.caseless
  else set.caselessAscii

/-- A complement holds non-ASCII characters, so it needs the flag for these. -/
def allows (mode : Mode) (negated : Bool) : Bool := !negated || mode.unicode

/-- The complement where it is asked for. -/
def negate? (mode : Mode) (negated : Bool) (set : CharSet) : Option CharSet :=
  if mode.allows negated then some (set.negatedIf negated) else none

def word (mode : Mode) : CharSet := if mode.unicode then .word else .asciiWord

def any? (mode : Mode) : Option CharSet :=
  if !mode.unicode then none
  else if mode.dotAll then some .all
  else if mode.looseLines then some ((CharSet.single '\n').union (.single '\r')).complement
  else some (CharSet.single '\n').complement

def start (mode : Mode) : Assertion :=
  if !mode.multiline then .textStart
  else if mode.looseLines then .looseLineStart
  else .lineStart

def stop (mode : Mode) : Assertion :=
  if !mode.multiline then .textEnd
  else if mode.looseLines then .looseLineEnd
  else .lineEnd

/-- Sets or clears the flag of a letter. Greed does not bear on occurrence. -/
def set? (mode : Mode) (on : Bool) : Char → Option Mode
  | 'i' => some { mode with caseless := on }
  | 'm' => some { mode with multiline := on }
  | 's' => some { mode with dotAll := on }
  | 'R' => some { mode with looseLines := on }
  | 'x' => some { mode with extended := on }
  | 'u' => some { mode with unicode := on }
  | 'U' => some mode
  | _ => none

end Mode

/-! ### Blanks and numbers -/

/-- Skips blanks and comments, which end with their line. -/
def skipBlanks (inComment : Bool) : List Char → List Char
  | [] => []
  | c :: rest =>
    if inComment then skipBlanks (c != '\n') rest
    else if Text.isBlank c then skipBlanks false rest
    else if c == '#' then skipBlanks true rest
    else c :: rest

def skip (mode : Mode) (cs : List Char) : List Char :=
  if mode.extended then skipBlanks false cs else cs

/-- The characters of a class from the start, with blanks skipped after each. -/
def spanSkipping (mode : Mode) (test : Char → Bool) : Nat → List Char → List Char × List Char
  | 0, cs => ([], cs)
  | n + 1, cs =>
    match cs with
    | c :: rest =>
      if test c then
        let (taken, rest) := spanSkipping mode test n (skip mode rest)
        (c :: taken, rest)
      else ([], c :: rest)
    | [] => ([], [])

/-- A count of 32 bits, with blanks around it. -/
def count? (mode : Mode) (cs : List Char) : Option Nat × List Char :=
  let cs := cs.dropWhile Text.isBlank
  let (digits, rest) := spanSkipping mode Char.isDigit cs.length cs
  let value := digits.foldl (fun n c => 10 * n + (c.toNat - 48)) 0
  (if digits.isEmpty || 0x100000000 ≤ value then none else some value, rest.dropWhile Text.isBlank)

def isHex (c : Char) : Bool :=
  c.isDigit || ('a' ≤ c && c ≤ 'f') || ('A' ≤ c && c ≤ 'F')

def hexDigit (c : Char) : Nat :=
  if c.isDigit then c.toNat - 48 else c.toLower.toNat - 87

/-- The character of a code point in hexadecimal. -/
def ofHex? (digits : List Char) : Option Char :=
  let code := digits.foldl (fun n c => 16 * n + hexDigit c) 0
  if digits.isEmpty || !code.isValidChar then none else some (Char.ofNat code)

/-- After `\x`, `\u` or `\U`: that many digits, or any number of them in braces. -/
def hex? (mode : Mode) (size : Nat) (cs : List Char) : Option (Char × List Char) :=
  match skip mode cs with
  | '\x7b' :: rest => do
    let rest := skip mode rest
    let (digits, rest) := spanSkipping mode isHex rest.length rest
    match rest with
    | '\x7d' :: rest => return (← ofHex? digits, rest)
    | _ => none
  | cs => do
    let (digits, rest) := spanSkipping mode isHex size cs
    if digits.length = size then
      let c ← ofHex? digits
      -- two digits without braces are one byte where classes are ASCII
      if size = 2 && !mode.unicode && 128 ≤ c.toNat then none else return (c, rest)
    else none

/-! ### Escapes -/

/-- What stands for one place in a sequence. -/
inductive Primitive where
  | literal (c : Char)
  | set (set : CharSet)
  | assertion (assertion : Assertion)

/-- Splits at the first occurrence of a mark. -/
def splitAt? (mark : List Char) : List Char → Option (List Char × List Char)
  | [] => none
  | c :: rest =>
    if mark.isPrefixOf (c :: rest) then some ([], (c :: rest).drop mark.length)
    else (splitAt? mark rest).map fun (front, back) => (c :: front, back)

/-- The property named between braces. A value stands after a colon or an equals
sign, or after `!=`, which divides the two and denies nothing. -/
def bracedProperty? (name : List Char) : Option CharSet :=
  let divided := (splitAt? ['!', '='] name).orElse fun _ =>
    (splitAt? [':'] name).orElse fun _ => splitAt? ['='] name
  match divided with
  | some (property, value) => CharSet.valued? property value
  | none => CharSet.named? name

/-- After `\p` or `\P`. -/
def property? (mode : Mode) (negated : Bool) (cs : List Char) : Option (Primitive × List Char) :=
  let finish (set : CharSet) : Option Primitive :=
    if mode.unicode then some (.set ((mode.fold set).negatedIf negated)) else none
  match skip mode cs with
  | '\x7b' :: rest => do
    let rest := skip mode rest
    let (name, rest) := spanSkipping mode (· != '\x7d') rest.length rest
    let set ← bracedProperty? name
    match rest with
    | _ :: rest => return (← finish set, rest)
    | [] => none
  | '\\' :: _ => none
  | c :: rest => do return (← finish (← CharSet.named? [c]), skip mode rest)
  | [] => none

/-- The set of a letter such as `d`; its capital stands for the complement. -/
def perlClass? (mode : Mode) (c : Char) : Option CharSet :=
  match c.toLower with
  | 'd' => mode.negate? c.isUpper (if mode.unicode then .digit else .asciiDigit)
  | 's' => mode.negate? c.isUpper (if mode.unicode then .whiteSpace else .asciiSpace)
  | 'w' => mode.negate? c.isUpper mode.word
  | _ => none

/-- After `\b`: a word assertion of another kind between braces, a failure, or
neither, when what follows is read by itself. -/
def wordAssertion? (mode : Mode) (cs : List Char) : Option (Assertion × List Char) :=
  let plain := some (.boundary mode.word, cs)
  let isNameChar (c : Char) : Bool := c.isAlpha || c == '-'
  match cs with
  | '\x7b' :: rest =>
    let rest := skip mode rest
    match spanSkipping mode isNameChar rest.length rest with
    | ([], []) => none
    | ([], _) => plain
    | (name, '\x7d' :: rest) =>
      match String.ofList name with
      | "start" => some (.wordStart mode.word, rest)
      | "end" => some (.wordEnd mode.word, rest)
      | "start-half" => some (.wordStartHalf mode.word, rest)
      | "end-half" => some (.wordEndHalf mode.word, rest)
      | _ => none
    | _ => none
  | _ => plain

def controlEscape? : Char → Option Char
  | 'a' => some '\x07'
  | 'f' => some '\x0c'
  | 't' => some '\t'
  | 'n' => some '\n'
  | 'r' => some '\r'
  | 'v' => some '\x0b'
  | _ => none

/-- After a backslash. -/
def escape? (mode : Mode) : List Char → Option (Primitive × List Char)
  | [] => none
  | c :: rest =>
    match c with
    | 'x' => (hex? mode 2 rest).map fun (c, rest) => (.literal c, rest)
    | 'u' => (hex? mode 4 rest).map fun (c, rest) => (.literal c, rest)
    | 'U' => (hex? mode 8 rest).map fun (c, rest) => (.literal c, rest)
    | 'p' => property? mode false rest
    | 'P' => property? mode true rest
    | 'd' | 's' | 'w' | 'D' | 'S' | 'W' => (perlClass? mode c).map fun set => (.set set, rest)
    | 'A' => some (.assertion .textStart, rest)
    | 'z' => some (.assertion .textEnd, rest)
    | 'b' => (wordAssertion? mode rest).map fun (a, rest) => (.assertion a, rest)
    | 'B' => some (.assertion (.noBoundary mode.word), rest)
    | '<' => some (.assertion (.wordStart mode.word), rest)
    | '>' => some (.assertion (.wordEnd mode.word), rest)
    | c =>
      match controlEscape? c with
      | some control => some (.literal control, rest)
      | none => if c.toNat < 128 && !c.isAlphanum then some (.literal c, rest) else none

/-! ### Bracketed classes -/

/-- A named class such as `[:alpha:]`, after its opening bracket. -/
def namedClass? (mode : Mode) (cs : List Char) : Option (Option CharSet × List Char) :=
  match cs with
  | ':' :: rest => do
    let (negated, rest) := match rest with
      | '^' :: rest => (true, rest)
      | rest => (false, rest)
    let (name, rest) ← splitAt? [':'] rest
    let set ← CharSet.asciiNamed? (String.ofList name)
    match rest with
    | ']' :: rest => return (mode.negate? negated (mode.fold set), rest)
    | _ => none
  | _ => none

/-- One member of a class, or one end of a range. -/
def classItem? (mode : Mode) : List Char → Option (Primitive × List Char)
  | [] => none
  | '\\' :: rest => escape? mode rest
  | c :: rest => some (.literal c, rest)

/-- A character a class may list. -/
def listed? (mode : Mode) (c : Char) : Option Char :=
  if !mode.unicode && 128 ≤ c.toNat then none else some c

/-- The first character that is neither blank nor, for the first time, the mark
of a comment. -/
def firstSolid? (marked : Bool) : List Char → Option Char
  | [] => none
  | c :: rest =>
    if Text.isBlank c then firstSolid? marked rest
    else if c == '#' && !marked then firstSolid? true rest
    else some c

/-- A hyphen after a member starts a range unless it ends the class or is doubled.
Where blanks are skipped, what follows the mark of a comment decides, too. -/
def startsRange (mode : Mode) : List Char → Bool
  | '-' :: rest =>
    let next := if mode.extended then (firstSolid? false rest).or rest.head? else rest.head?
    next != some ']' && next != some '-'
  | _ => false

/-- A range or a single member. -/
def classRange? (mode : Mode) (cs : List Char) : Option (CharSet × List Char) := do
  let (first, rest) ← classItem? mode cs
  let rest := skip mode rest
  if startsRange mode rest then
    let (last, rest) ← classItem? mode (skip mode (rest.drop 1))
    match first, last with
    | .literal low, .literal high =>
      let low ← listed? mode low
      let high ← listed? mode high
      if low ≤ high then return (.range low.toNat high.toNat, rest) else none
    | _, _ => none
  else
    match first with
    | .literal c => return (.single (← listed? mode c), rest)
    | .set set => return (set, rest)
    | .assertion _ => none

/-- What was read of a class: the members since the last operator, latest first,
and the operator with what stands before it. -/
structure BracketProgress where
  parts : List Bracket := []
  left : Option (SetOperator × Bracket) := none

namespace BracketProgress

def add (progress : BracketProgress) (part : Bracket) : BracketProgress :=
  { progress with parts := part :: progress.parts }

def value (progress : BracketProgress) : Bracket :=
  let right := Bracket.ofParts progress.parts.reverse
  match progress.left with
  | none => right
  | some (operator, left) => .combined operator left right

def operator (progress : BracketProgress) (operator : SetOperator) : BracketProgress :=
  ⟨[], some (operator, progress.value)⟩

end BracketProgress

/-- After an opening bracket: whether the class is negated, and the members that
may only stand first, hyphens and else a closing bracket. -/
def classHead (mode : Mode) (cs : List Char) : Bool × BracketProgress × List Char :=
  let cs := skip mode cs
  let (negated, cs) := match cs with
    | '^' :: rest => (true, skip mode rest)
    | cs => (false, cs)
  match spanSkipping mode (· == '-') cs.length cs with
  | ([], ']' :: rest) => (negated, ⟨[.members (.single ']')], none⟩, skip mode rest)
  | (hyphens, rest) => (negated, ⟨hyphens.map (.members <| .single ·), none⟩, rest)

/-- The rest of a class whose head was read. Every turn takes a character. -/
def classRest (mode : Mode) : Nat → Bool → BracketProgress → List Char →
    Option (Bracket × List Char)
  | 0, _, _, _ => none
  | turns + 1, negated, progress, cs =>
    match skip mode cs with
    | [] => none
    | ']' :: rest =>
      if mode.allows negated then some (.bracketed negated progress.value, rest) else none
    | '[' :: rest =>
      match namedClass? mode rest with
      | some (set, rest) => do
        classRest mode turns negated (progress.add (.members (← set))) rest
      | none => do
        let (innerNegated, inner, rest) := classHead mode rest
        let (part, rest) ← classRest mode turns innerNegated inner rest
        classRest mode turns negated (progress.add part) rest
    | '&' :: '&' :: rest => classRest mode turns negated (progress.operator .intersection) rest
    | '-' :: '-' :: rest => classRest mode turns negated (progress.operator .difference) rest
    | '~' :: '~' :: rest =>
      classRest mode turns negated (progress.operator .symmetricDifference) rest
    | cs => do
      let (set, rest) ← classRange? mode cs
      classRest mode turns negated (progress.add (.members set)) rest

/-- A bracketed class, after its opening bracket. -/
def class? (mode : Mode) (cs : List Char) : Option (Bracket × List Char) :=
  let (negated, progress, rest) := classHead mode cs
  classRest mode rest.length negated progress rest

/-! ### Repetitions -/

/-- A lazy repetition occurs where the greedy one does. -/
def skipLazy : List Char → List Char
  | '?' :: rest => rest
  | rest => rest

/-- After an opening brace: the least and the greatest number of turns. -/
def counts? (mode : Mode) (cs : List Char) : Option ((Nat × Option Nat) × List Char) :=
  match count? mode (skip mode cs) with
  | (some least, '\x7d' :: rest) => some ((least, some least), skipLazy (skip mode rest))
  | (some least, ',' :: rest) =>
    match skip mode rest with
    | '\x7d' :: rest => some ((least, none), skipLazy (skip mode rest))
    | rest =>
      match count? mode rest with
      | (some most, '\x7d' :: rest) =>
        if least ≤ most then some ((least, some most), skipLazy (skip mode rest)) else none
      | _ => none
  | _ => none

/-! ### Groups -/

/-- What an opening parenthesis begins. -/
inductive Opening where
  | group (mode : Mode) (captures : Bool) (name : Option String)
  /-- flags for the rest of the group around -/
  | flags (mode : Mode)

/-- Flags up to a colon or a closing parenthesis; each letter and the hyphen at most once. -/
def flags? : Mode → (on : Bool) → (seen : List Char) → List Char → Option (Opening × List Char)
  | _, _, _, [] => none
  | mode, on, seen, c :: rest =>
    if c == ':' || c == ')' then
      if seen.head? == some '-' then none
      else if c == ':' then some (.group mode false none, rest)
      else if seen.isEmpty then none
      else some (.flags mode, rest)
    else if seen.contains c then none
    else if c == '-' then flags? mode false (c :: seen) rest
    else do flags? (← mode.set? on c) on (c :: seen) rest

def isNameChar (first : Bool) (c : Char) : Bool :=
  if first then c == '_' || Text.isAlphabetic c
  else c == '_' || c == '.' || c == '[' || c == ']' || Text.isAlphanumeric c

/-- A group's name up to the closing angle. -/
def groupName? (mode : Mode) (cs : List Char) : Option (Opening × List Char) := do
  let (name, rest) ← splitAt? ['>'] cs
  match name with
  | [] => none
  | first :: more =>
    if isNameChar true first && more.all (isNameChar false) then
      return (.group mode true (some (String.ofList name)), rest)
    else none

/-- After an opening parenthesis. -/
def opening? (mode : Mode) (cs : List Char) : Option (Opening × List Char) :=
  match skip mode cs with
  | '?' :: '=' :: _ | '?' :: '!' :: _ | '?' :: '<' :: '=' :: _ | '?' :: '<' :: '!' :: _ => none
  | '?' :: 'P' :: '<' :: rest => groupName? mode rest
  | '?' :: '<' :: rest => groupName? mode rest
  | '?' :: rest => flags? mode true [] rest
  | rest => some (.group mode true none, rest)

/-! ### Patterns -/

/-- What was read of a group: its finished alternatives and the parts of the
current one, both latest first. Flags are parts that cannot be repeated. -/
structure Progress where
  finished : List Pattern := []
  parts : List (Option Pattern) := []

namespace Progress

def add (progress : Progress) (part : Option Pattern) : Progress :=
  { progress with parts := part :: progress.parts }

def current (progress : Progress) : Pattern :=
  match progress.parts with
  | [] => .nothing
  | [part] => part.getD .nothing
  | parts => .sequence (parts.reverse.map (·.getD .nothing))

def alternative (progress : Progress) : Progress :=
  ⟨progress.current :: progress.finished, []⟩

def value (progress : Progress) : Pattern :=
  match progress.finished with
  | [] => progress.current
  | finished => .choice (progress.current :: finished).reverse

def repeat? (progress : Progress) (least : Nat) (most : Option Nat) : Option Progress :=
  match progress.parts with
  | some part :: parts => some ⟨progress.finished, some (.repeated least most part) :: parts⟩
  | _ => none

end Progress

def ofPrimitive (mode : Mode) : Primitive → Pattern
  | .literal c => .one (mode.fold (.single c)) 0
  | .set set => .one set 0
  | .assertion assertion => .assert assertion

/-- Reads to the end of the text or of the group around. The names of groups are
carried along, as each may be given once. Every turn takes a character. -/
def body : Nat → Mode → (inGroup : Bool) → (names : List String) → Progress → List Char →
    Option (Pattern × List String × List Char)
  | 0, _, _, _, _, _ => none
  | turns + 1, mode, inGroup, names, progress, cs =>
    let continuing (part : Pattern) (rest : List Char) :=
      body turns mode inGroup names (progress.add part) rest
    let repeating (least : Nat) (most : Option Nat) (rest : List Char) := do
      body turns mode inGroup names (← progress.repeat? least most) rest
    match skip mode cs with
    | [] => if inGroup then none else some (progress.value, names, [])
    | ')' :: rest => if inGroup then some (progress.value, names, rest) else none
    | '|' :: rest => body turns mode inGroup names progress.alternative rest
    | '(' :: rest => do
      match ← opening? mode rest with
      | (.flags mode, rest) => body turns mode inGroup names (progress.add none) rest
      | (.group inner captures name, rest) =>
        if name.any names.contains then none
        else
          let (part, names, rest) ← body turns inner true (name.toList ++ names) {} rest
          body turns mode inGroup names (progress.add (some (.group captures part))) rest
    | '[' :: rest => do
      let (bracket, rest) ← class? mode rest
      continuing (.one (bracket.set mode.fold) bracket.depth) rest
    | '?' :: rest => repeating 0 (some 1) (skipLazy rest)
    | '*' :: rest => repeating 0 none (skipLazy rest)
    | '+' :: rest => repeating 1 none (skipLazy rest)
    | '\x7b' :: rest => do
      let ((least, most), rest) ← counts? mode rest
      repeating least most rest
    | '\\' :: rest => do
      let (primitive, rest) ← escape? mode rest
      continuing (ofPrimitive mode primitive) rest
    | '.' :: rest => do continuing (.one (← mode.any?) 0) rest
    | '^' :: rest => continuing (.assert mode.start) rest
    | '$' :: rest => continuing (.assert mode.stop) rest
    | c :: rest => continuing (ofPrimitive mode (.literal c)) rest

/-- Patterns nest this deep. -/
def nestingLimit : Nat := 250

/-- The pattern written in a text. -/
def read? (text : List Char) : Option Pattern := do
  let (pattern, _, _) ← body (text.length + 1) {} false [] {} text
  if pattern.depth ≤ nestingLimit && pattern.isBuildable then return pattern else none

end Projections.Pattern
