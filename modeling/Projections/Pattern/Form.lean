import Projections.Pattern.Basic

/-! Simple forms of patterns, which do with fewer parts: neighbouring characters
are one literal, alternatives that are characters are one set, and what all
alternatives begin with stands before them. -/

namespace Projections

inductive Form where
  | empty
  | literal (text : List Char)
  | set (members : CharSet)
  | assertion (assertion : Assertion)
  | capture (body : Form)
  | repeated (least : Nat) (most : Option Nat) (body : Form)
  | sequence (parts : List Form)
  | choice (parts : List Form)

namespace Form

/-! ### Comparison -/

mutual

/-- Captures are each one of a kind. -/
def same : Form → Form → Bool
  | .empty, .empty => true
  | .literal s, .literal t => s == t
  | .set s, .set t => s == t
  | .assertion a, .assertion b => a == b
  | .repeated m n a, .repeated k l b => m == k && n == l && same a b
  | .sequence ps, .sequence qs => sameAll ps qs
  | .choice ps, .choice qs => sameAll ps qs
  | _, _ => false

def sameAll : List Form → List Form → Bool
  | [], [] => true
  | p :: ps, q :: qs => same p q && sameAll ps qs
  | _, _ => false

end

mutual

/-- The number of parts, itself one of them. -/
def size : Form → Nat
  | .capture body | .repeated _ _ body => size body + 1
  | .sequence parts | .choice parts => sizes parts + 1
  | _ => 1

def sizes : List Form → Nat
  | [] => 0
  | p :: ps => size p + sizes ps

end

/-! ### Lengths of occurrences -/

mutual

/-- Whether all occurrences are empty. -/
def isBlank : Form → Bool
  | .empty | .assertion _ => true
  | .literal _ | .set _ => false
  | .capture body => isBlank body
  | .repeated _ most body => most.isSome && isBlank body
  | .sequence parts | .choice parts => areBlank parts

def areBlank : List Form → Bool
  | [] => true
  | p :: ps => isBlank p && areBlank ps

end

mutual

/-- The fewest characters of an occurrence. A form that may need a character of
the empty set has no such number. -/
def shortest? : Form → Option Nat
  | .empty | .assertion _ => some 0
  | .literal text => some text.length
  | .set members => if members.isEmpty then none else some 1
  | .capture body => shortest? body
  | .repeated least _ body => (shortest? body).map (least * ·)
  | .sequence parts => shortestOfAll? parts
  | .choice parts => shortestOfAny? parts

def shortestOfAll? : List Form → Option Nat
  | [] => some 0
  | p :: ps => do return (← shortest? p) + (← shortestOfAll? ps)

def shortestOfAny? : List Form → Option Nat
  | [] => none
  | [p] => shortest? p
  | p :: ps => do return min (← shortest? p) (← shortestOfAny? ps)

end

/-- Whether every occurrence takes a character. -/
def takesCharacter (form : Form) : Bool := form.shortest?.any (0 < ·)

/-! ### Building -/

def ofSet (members : CharSet) : Form :=
  match members.only? with
  | some c => .literal [c]
  | none => .set members

/-- A form as the parts of a sequence. -/
def parts : Form → List Form
  | .empty => []
  | .sequence parts => parts
  | form => [form]

def beforeParts (form : Form) (rest : List Form) : List Form :=
  match form, rest with
  | .literal s, .literal t :: rest => .literal (s ++ t) :: rest
  | form, rest => form :: rest

/-- One form after another. -/
def join (forms : List Form) : Form :=
  match (forms.flatMap parts).foldr beforeParts [] with
  | [] => .empty
  | [form] => form
  | forms => .sequence forms

/-- That many turns. What is always empty takes one turn at most. -/
def times (least : Nat) (most : Option Nat) (body : Form) : Form :=
  let (least, most) :=
    if body.isBlank then (min least 1, some (min (most.getD 1) 1)) else (least, most)
  if most = some 0 then .empty
  else if least = 1 && most = some 1 then body
  else .repeated least most body

/-- A form as alternatives. -/
def alternatives : Form → List Form
  | .choice parts => parts
  | form => [form]

def letter? : Form → Option CharSet
  | .literal [c] => some (.single c)
  | _ => none

def set? : Form → Option CharSet
  | .set members => some members
  | _ => none

def sequence? : Form → Option (List Form)
  | .sequence parts => some parts
  | _ => none

/-- What two lists of parts begin with. -/
def commonStart : List Form → List Form → List Form
  | p :: ps, q :: qs => if same p q then p :: commonStart ps qs else []
  | _, _ => []

/-- What all sequences of a list begin with. -/
def commonStarts : List (List Form) → List Form
  | [] => []
  | parts :: rest => rest.foldl commonStart parts

/-- One form or another. Every turn takes a common start from all of them. -/
def either : Nat → List Form → Form
  | turns, forms =>
    let forms := forms.flatMap alternatives
    match forms with
    | [] => .set .empty
    | [form] => form
    | forms =>
      match (forms.mapM letter?).orElse fun _ => forms.mapM set? with
      | some sets => ofSet (CharSet.unions sets)
      | none =>
        match turns, forms.mapM sequence? with
        | turns + 1, some sequences =>
          let start := commonStarts sequences
          if start.isEmpty then .choice forms
          else
            let rests := sequences.map fun parts => join (parts.drop start.length)
            join (start ++ [either turns rests])
        | _, _ => .choice forms

end Form

namespace Pattern

mutual

/-- The simple form of a pattern. -/
def form : Pattern → Form
  | .nothing => .empty
  | .assert assertion => .assertion assertion
  | .one set _ => .ofSet set
  | .sequence parts => .join (forms parts)
  | .choice parts =>
    let forms := forms parts
    .either (Form.sizes forms) forms
  | .repeated least most body => .times least most body.form
  | .group captures body => if captures then .capture body.form else body.form

def forms : List Pattern → List Form
  | [] => []
  | p :: ps => p.form :: forms ps

end

end Pattern

end Projections
