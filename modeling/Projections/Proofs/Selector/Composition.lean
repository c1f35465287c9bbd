import Mathlib.Data.List.Basic
import Projections.Proofs.Selector.Substitution
import Projections.Query.Basic

/-! A query with several selectors keeps one, and that one does what they do in stages:
its parameter is a name neither body knows, so putting one body into the other captures
nothing, whatever functions stand around. -/

namespace Projections

/-! ### Fresh names -/

theorem countP_push_lt {taken : List String} {name : String} (h : name ∈ taken) :
    taken.countP (fun t => (name.push '_').length ≤ t.length) <
      taken.countP (fun t => name.length ≤ t.length) := by
  induction taken with
  | nil => cases h
  | cons t rest ih =>
    have hle : rest.countP (fun t => (name.push '_').length ≤ t.length) ≤
        rest.countP (fun t => name.length ≤ t.length) :=
      List.countP_mono_left fun t _ ht => by
        simp only [String.length_push, decide_eq_true_eq] at ht ⊢
        omega
    rw [List.countP_cons, List.countP_cons]
    rcases List.mem_cons.1 h with rfl | hm
    · simp only [String.length_push, decide_eq_true_eq] at hle ⊢
      split_ifs <;> omega
    · have := ih hm
      simp only [String.length_push, decide_eq_true_eq] at this ⊢
      split_ifs <;> omega

/-- Taken names that are not shorter than a name can still stop its lengthening. -/
theorem lengthened_not_mem {taken : List String} {turns : Nat} {name : String}
    (h : taken.countP (fun t => name.length ≤ t.length) ≤ turns) :
    lengthened taken turns name ∉ taken := by
  induction turns generalizing name with
  | zero =>
    intro hm
    have hzero := List.countP_eq_zero.1 (Nat.le_zero.1 h) name hm
    exact hzero (by simp)
  | succ turns ih =>
    rw [lengthened]
    split_ifs with hm
    · refine ih (Nat.le_of_lt_succ (Nat.lt_of_lt_of_le ?_ h))
      exact countP_push_lt (List.contains_iff_mem.1 hm)
    · simpa using hm

namespace Selector

variable {first second : Selector}

theorem fresh_not_mem (first second : Selector) :
    fresh first second ∉ first.body.names ∧ fresh first second ∉ second.body.names := by
  have h : fresh first second ∉ taken first second := lengthened_not_mem List.countP_le_length
  simp only [taken, List.mem_cons, List.mem_append, not_or] at h
  exact h.2

/-- The body of the first selector with its new parameter makes of a row there what the
selector makes of it. -/
theorem gives_renamed {parameter : String} {row v : Value} (hp : parameter ∉ first.body.names)
    (hv : first.bind row = .ok v) :
    Expr.Gives (.substitute first.parameter (.name parameter) first.body) parameter row v := by
  intro scope hs
  have hname := Expr.gives_name parameter row
  have hscope : Expr.Stands first.parameter parameter row row first.body.names
      [(parameter, row)] [(first.parameter, row)] := .alone hp row row
  have hrow := (Expr.eval_substitute hname first.body hscope).eq_ok hv
  -- a larger scope does not disturb an evaluation that succeeds
  refine Expr.eval_congr Keeps.congruence _ (fun n _ => ?_) v hrow
  intro w hw
  rw [Expr.eval_name_cons] at hw
  split_ifs at hw with hn
  · rw [hn, hname scope hs, hw]
  · rw [Expr.eval_name] at hw
    cases hw

/-- Composition is application in stages. -/
theorem bind_compose {row v : Value} (hv : first.bind row = .ok v) :
    SameOutcome ((first.compose second).bind row) (second.bind v) := by
  obtain ⟨hfirst, hsecond⟩ := fresh_not_mem first second
  exact Expr.eval_substitute (gives_renamed hfirst hv) second.body (.alone hsecond row v)

end Selector

/-! ### Several selectors -/

namespace Query

/-- What the selector of a query makes of a row. -/
def stage (query : Query) (row : Value) : Except BindError Value :=
  query.selector.elim (.ok row) (·.bind row)

theorem bind_composed {query : Query} {row v : Value} (hv : query.stage row = .ok v)
    (next : Selector) : SameOutcome ((query.composed next).bind row) (next.bind v) := by
  unfold stage at hv
  unfold composed
  split
  · next previous h =>
    rw [h, Option.elim_some] at hv
    exact Selector.bind_compose hv
  · next h =>
    rw [h, Option.elim_none] at hv
    cases hv
    exact SameOutcome.congruence.refl _

/-- Selectors given one after the other. -/
def withSelectors (query : Query) (selectors : List Selector) : Except QueryError Query :=
  selectors.foldlM (fun query s => query.withSelector (.tree s.toLambda.toExpr)) query

theorem withSelectors_cons (query : Query) (s : Selector) (rest : List Selector) :
    query.withSelectors (s :: rest) =
      withSelectors { query with selector := some (query.composed s) } rest := rfl

theorem bind_withSelectors (query : Query) (before : List Selector) (last : Selector) :
    ∃ result g, query.withSelectors (before ++ [last]) = .ok result ∧
      result.selector = some g ∧
      ∀ row u v, query.stage row = .ok u →
        before.foldlM (fun value s => s.toLambda.bind value) u = .ok v →
        SameOutcome (g.bind row) (last.bind v) := by
  induction before generalizing query with
  | nil =>
    refine ⟨{ query with selector := some (query.composed last) }, _, rfl, rfl, ?_⟩
    rintro row u v hu ⟨⟩
    exact bind_composed hu last
  | cons s rest ih =>
    obtain ⟨result, g, hresult, hg, h⟩ := ih { query with selector := some (query.composed s) }
    rw [List.cons_append, withSelectors_cons]
    refine ⟨result, g, hresult, hg, fun row u v hu hv => ?_⟩
    rw [List.foldlM_cons] at hv
    obtain ⟨w, hw, hv⟩ := Result.bind_eq_ok_iff.1 hv
    exact h row w v ((bind_composed hu s).eq_ok hw) hv

/-- Selectors given to a query without one: the selector that is kept and the last of them
on the result of the stages before agree, on the result or on the kind of failure. -/
theorem bind_of_selections (query : Query) (hq : query.selector = none)
    (before : List Selector) (last : Selector) :
    ∃ result g, query.withSelectors (before ++ [last]) = .ok result ∧
      result.selector = some g ∧
      ∀ row v, before.foldlM (fun value s => s.toLambda.bind value) row = .ok v →
        SameOutcome (g.toLambda.bind row) (last.toLambda.bind v) := by
  obtain ⟨result, g, hresult, hg, h⟩ := query.bind_withSelectors before last
  refine ⟨result, g, hresult, hg, fun row v hv => h row row v ?_ hv⟩
  rw [stage, hq, Option.elim_none]

/-- A function in the second selector has the parameter that the first would get: another
one is taken, and the row is not captured. -/
theorem bind_of_two_selections :
    let first : Selector := ⟨"x", .member (.name "x") "a"⟩
    let last : Selector := ⟨"y", .call (.array [.integer 1]) "Select" [.lambda ["x_"] (.name "y")]⟩
    let row : Value := .object [("a", .integer 7)]
    ∃ result g, (ofName "rows" .collection []).withSelectors [first, last] = .ok result ∧
      result.selector = some g ∧ first.toLambda.bind row = .ok (.integer 7) ∧
      SameOutcome (g.toLambda.bind row) (last.toLambda.bind (.integer 7)) := by
  intro first last row
  obtain ⟨result, g, hresult, hg, h⟩ :=
    bind_of_selections (ofName "rows" .collection []) rfl [first] last
  exact ⟨result, g, hresult, hg, rfl, h row (.integer 7) rfl⟩

end Query

end Projections
