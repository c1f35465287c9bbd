import Projections.Language.Canonical

/-! Selectors: functions of one row. -/

namespace Projections

/-- A function of one parameter, by the parameter and the body. -/
structure Selector where
  parameter : String
  body : Expr

namespace Selector

def toLambda (s : Selector) : Lambda := ⟨[s.parameter], s.body⟩

def text (s : Selector) : String := s.toLambda.text

end Selector

def Lambda.selector? (f : Lambda) : Option Selector :=
  match f.parameters with
  | [parameter] => some ⟨parameter, f.body⟩
  | _ => none

end Projections
