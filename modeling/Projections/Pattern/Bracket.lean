import Projections.Pattern.CharSet

/-! What stands between brackets: members one after another, brackets in brackets,
and set operations. -/

namespace Projections

inductive SetOperator where
  | intersection
  | difference
  | symmetricDifference

def SetOperator.apply : SetOperator → CharSet → CharSet → CharSet
  | .intersection => .inter
  | .difference => .diff
  | .symmetricDifference => .symmDiff

inductive Bracket where
  /-- a character, a range, an escape or a named class -/
  | members (set : CharSet)
  | union (parts : List Bracket)
  | bracketed (negated : Bool) (body : Bracket)
  | combined (operator : SetOperator) (left right : Bracket)

namespace Bracket

/-- A single part stands for itself. -/
def ofParts : List Bracket → Bracket
  | [part] => part
  | parts => .union parts

mutual

/-- The set, given what is done to sets in brackets and to operands. -/
def set (fold : CharSet → CharSet) : Bracket → CharSet
  | .members set => set
  | .union parts => sets fold parts
  | .bracketed negated body => (fold (set fold body)).negatedIf negated
  | .combined operator left right =>
    operator.apply (fold (set fold left)) (fold (set fold right))

def sets (fold : CharSet → CharSet) : List Bracket → CharSet
  | [] => .empty
  | part :: parts => (set fold part).union (sets fold parts)

end

/-- How deep brackets are nested. Every operator is a level, and so are members
one after another. -/
def depth : Bracket → Nat
  | .members _ => 0
  | .union [] => 0
  | .union parts => 1 + depths parts
  | .bracketed _ body => 1 + body.depth
  | .combined _ left right => 1 + max left.depth right.depth
where
  depths : List Bracket → Nat
    | [] => 0
    | part :: parts => max part.depth (depths parts)

end Bracket

end Projections
