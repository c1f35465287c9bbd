import Mathlib.Data.Finset.Card
import Projections.Proofs.Selector.Composition

/-! Names in compositions. The parameter of a composition is found in as many turns as there are
taken names at most, and it stands nowhere in the two selectors; no name is free in a composition
that is free in neither of them. -/

namespace Projections

namespace Expr

/-! ### Names in expressions -/

/-- The expressions an expression is made of. -/
def operands : Expr → List Expr
  | .member base _ => [base]
  | .index base position => [base, position]
  | .call base _ arguments => base :: arguments
  | .lambda _ body => [body]
  | .not operand => [operand]
  | .binary _ left right => [left, right]
  | .object entries => entries.map (·.2)
  | .array items => items
  | .float _ | .integer _ | .string _ | .boolean _ | .null | .name _ => []

/-- The names a function binds. -/
def binders : Expr → List String
  | .lambda parameters _ => parameters
  | _ => []

/-- `Inside part bound e`: the part stands in the expression at any depth, in functions that bind
the names `bound`. -/
inductive Inside (part : Expr) : List String → Expr → Prop
  | self : Inside part [] part
  | operand {bound : List String} {operand e : Expr} (ho : operand ∈ e.operands)
      (h : Inside part bound operand) : Inside part (e.binders ++ bound) e

/-- A name stands in an expression, by itself or as a parameter. -/
def Occurs (n : String) (e : Expr) : Prop :=
  ∃ part bound, Inside part bound e ∧ (part = .name n ∨ n ∈ part.binders)

/-- A name stands in an expression by itself, where no function binds it. -/
def Free (n : String) (e : Expr) : Prop := ∃ bound, Inside (.name n) bound e ∧ n ∉ bound

theorem namesOfAll_eq (es : List Expr) : namesOfAll es = es.flatMap names := by
  induction es with
  | nil => rfl
  | cons e es ih => rw [namesOfAll, ih, List.flatMap_cons]

theorem namesOfEntries_eq (entries : List (String × Expr)) :
    namesOfEntries entries = (entries.map (·.2)).flatMap names := by
  induction entries with
  | nil => rfl
  | cons entry entries ih => rw [namesOfEntries, ih, List.map_cons, List.flatMap_cons]

/-- Names are those of the form itself and those of what it is made of. -/
theorem mem_names_iff {n : String} {e : Expr} :
    n ∈ e.names ↔ (e = .name n ∨ n ∈ e.binders) ∨ ∃ operand ∈ e.operands, n ∈ operand.names := by
  cases e <;>
    simp [names, binders, operands, namesOfAll_eq, namesOfEntries_eq, eq_comm]

/-- No name that stands in an expression is overlooked. -/
theorem mem_names_of_occurs {n : String} {e : Expr} (h : Occurs n e) : n ∈ e.names := by
  obtain ⟨part, bound, h, hn⟩ := h
  induction h with
  | self => exact mem_names_iff.2 (.inl hn)
  | operand ho _ ih => exact mem_names_iff.2 (.inr ⟨_, ho, ih⟩)

/-! ### Free names -/

section Substitution

variable {n x : String} {u e : Expr}

theorem free_lambda_iff {parameters : List String} {body : Expr} :
    Free n (.lambda parameters body) ↔ n ∉ parameters ∧ Free n body := by
  constructor
  · rintro ⟨_, h, hn⟩
    cases h with
    | @operand bound operand _ ho h =>
      obtain rfl : operand = body := List.mem_singleton.1 ho
      obtain ⟨hparameters, hn⟩ := not_or.1 (mt List.mem_append.2 hn)
      exact ⟨hparameters, bound, h, hn⟩
  · rintro ⟨hparameters, bound, h, hn⟩
    have hbody : body ∈ (Expr.lambda parameters body).operands := List.mem_singleton_self body
    exact ⟨_, .operand hbody h, fun hmem => (List.mem_append.1 hmem).elim hparameters hn⟩

theorem substituteAll_eq (x : String) (u : Expr) (es : List Expr) :
    substituteAll x u es = es.map (substitute x u) := by
  induction es with
  | nil => rfl
  | cons e es ih => rw [substituteAll, ih, List.map_cons]

theorem map_substituteEntries (x : String) (u : Expr) (entries : List (String × Expr)) :
    (substituteEntries x u entries).map (·.2) = (entries.map (·.2)).map (substitute x u) := by
  induction entries with
  | nil => rfl
  | cons entry entries ih =>
    rw [substituteEntries, List.map_cons, ih]
    rfl

/-- What substitution does with a form: the name itself is replaced, a function that hides the
name is left alone, and everything else keeps its form over what it is made of. -/
theorem substitute_cases (x : String) (u e : Expr) :
    (e = .name x ∧ substitute x u e = u) ∨ (x ∈ e.binders ∧ substitute x u e = e) ∨
      (substitute x u e).operands = e.operands.map (substitute x u) ∧
        (substitute x u e).binders = e.binders ∧
        ∀ n, substitute x u e = .name n → e = .name n ∧ n ≠ x := by
  cases e with
  | name m =>
    by_cases hm : m = x
    · exact .inl ⟨congrArg _ hm, by rw [substitute, if_pos hm]⟩
    · refine .inr (.inr ?_)
      rw [substitute, if_neg hm]
      exact ⟨rfl, rfl, fun n hn => ⟨hn, by cases hn; exact hm⟩⟩
  | lambda parameters body =>
    by_cases hx : x ∈ parameters
    · exact .inr (.inl ⟨hx, by rw [substitute, if_pos (List.contains_iff_mem.2 hx)]⟩)
    · refine .inr (.inr ?_)
      rw [substitute, if_neg (by simpa using hx)]
      exact ⟨rfl, rfl, nofun⟩
  | call base method arguments =>
    exact .inr (.inr ⟨by simp [substitute, operands, substituteAll_eq], rfl, nofun⟩)
  | object entries =>
    exact .inr (.inr ⟨map_substituteEntries x u entries, rfl, nofun⟩)
  | array items => exact .inr (.inr ⟨substituteAll_eq x u items, rfl, nofun⟩)
  | member _ _ | index _ _ | not _ | binary _ _ _ | float _ | integer _ | string _ | boolean _
  | null => exact .inr (.inr ⟨rfl, rfl, nofun⟩)

/-- What is free after a substitution was free before, and not replaced, or is free in what came
in its place. -/
theorem free_of_substitute (h : Free n (substitute x u e)) : Free n e ∧ n ≠ x ∨ Free n u := by
  obtain ⟨bound, h, hn⟩ := h
  generalize hs : substitute x u e = e' at h
  induction h generalizing e with
  | self =>
    rcases substitute_cases x u e with ⟨-, hu⟩ | ⟨hx, he⟩ | ⟨-, -, hname⟩
    · exact .inr ⟨[], hu ▸ hs ▸ .self, hn⟩
    · rw [hs] at he
      subst he
      cases hx
    · obtain ⟨rfl, hne⟩ := hname n hs
      exact .inl ⟨⟨[], .self, hn⟩, hne⟩
  | @operand bound operand e' ho h ih =>
    have hboth := not_or.1 (mt List.mem_append.2 hn)
    rcases substitute_cases x u e with ⟨-, hu⟩ | ⟨hx, he⟩ | ⟨hoperands, hbinders, -⟩
    · rw [hs] at hu
      subst hu
      exact .inr ⟨_, .operand ho h, hn⟩
    · rw [hs] at he
      subst he
      exact .inl ⟨⟨_, .operand ho h, hn⟩, fun hne => hboth.1 (hne ▸ hx)⟩
    · rw [hs] at hoperands hbinders
      rw [hoperands] at ho
      obtain ⟨old, hold, hnew⟩ := List.mem_map.1 ho
      refine (ih hboth.2 hnew).imp_left ?_
      rintro ⟨⟨bound', h', hn'⟩, hne⟩
      refine ⟨⟨e.binders ++ bound', .operand hold h', ?_⟩, hne⟩
      rw [hbinders] at hboth
      exact fun hmem => (List.mem_append.1 hmem).elim hboth.1 hn'

end Substitution

end Expr

/-! ### Turns of the search -/

/-- `Lengthens taken name turns result`: a name that is lengthened while it is taken is the result
after so many turns. -/
inductive Lengthens (taken : List String) : String → ℕ → String → Prop
  | stop {name : String} (h : name ∉ taken) : Lengthens taken name 0 name
  | turn {name result : String} {turns : ℕ} (h : name ∈ taken)
      (hrest : Lengthens taken (name.push '_') turns result) :
      Lengthens taken name (turns + 1) result

namespace Lengthens

variable {taken : List String} {name result : String} {turns : ℕ}

theorem not_mem (h : Lengthens taken name turns result) : result ∉ taken := by
  induction h with
  | stop h => exact h
  | turn _ _ ih => exact ih

theorem length_eq (h : Lengthens taken name turns result) :
    result.length = name.length + turns := by
  induction h with
  | stop _ => rfl
  | turn _ _ ih =>
    rw [ih, String.length_push]
    omega

/-- Every turn passes one of the taken names that are long enough. -/
theorem le_countP (h : Lengthens taken name turns result) :
    turns ≤ taken.dedup.countP (fun t => name.length ≤ t.length) := by
  induction h with
  | stop _ => exact Nat.zero_le _
  | turn h _ ih => exact Nat.lt_of_le_of_lt ih (countP_push_lt (List.mem_dedup.2 h))

theorem le_card (h : Lengthens taken name turns result) : turns ≤ taken.toFinset.card := by
  rw [List.card_toFinset]
  exact h.le_countP.trans List.countP_le_length

end Lengthens

/-- A search that ends at a name that is not taken ends there by itself. -/
theorem exists_lengthens {taken : List String} {turns : ℕ} {name : String}
    (h : lengthened taken turns name ∉ taken) :
    ∃ used, Lengthens taken name used (lengthened taken turns name) := by
  induction turns generalizing name with
  | zero => exact ⟨0, .stop h⟩
  | succ turns ih =>
    rw [lengthened] at h ⊢
    split_ifs at h ⊢ with hmem
    · obtain ⟨used, hused⟩ := ih h
      exact ⟨used + 1, .turn (List.contains_iff_mem.1 hmem) hused⟩
    · exact ⟨0, .stop h⟩

/-! ### Compositions -/

namespace Selector

open Projections.Expr

theorem exists_lengthens_fresh (first second : Selector) :
    ∃ turns, Lengthens (taken first second) (first.parameter.push '_') turns
      (fresh first second) :=
  exists_lengthens (lengthened_not_mem List.countP_le_length)

/-- What is free in a composition is free in one of its selectors. -/
theorem free_of_compose {first second : Selector} {n : String}
    (h : Free n (first.compose second).toLambda.toExpr) :
    Free n first.toLambda.toExpr ∨ Free n second.toLambda.toExpr := by
  obtain ⟨hfresh, hbody⟩ := free_lambda_iff.1 h
  have hlambda : ∀ {s : Selector}, Free n s.body → n ≠ s.parameter → Free n s.toLambda.toExpr :=
    fun hfree hne => free_lambda_iff.2 ⟨mt List.mem_singleton.1 hne, hfree⟩
  rcases free_of_substitute hbody with ⟨hsecond, hne⟩ | hinner
  · exact .inr (hlambda hsecond hne)
  · rcases free_of_substitute hinner with ⟨hfirst, hne⟩ | ⟨bound, hname, -⟩
    · exact .inl (hlambda hfirst hne)
    · -- the new parameter is bound by the composition
      cases hname with
      | self => exact absurd (List.mem_singleton_self _) hfresh
      | operand ho _ => cases ho

/-- The parameter of a composition is the first name in a row of ever longer ones that is not
taken, reached in as many turns as there are taken names at most. It stands nowhere in either
selector, and no name is free in the composition that is free in neither. -/
theorem compose_hygienic (first second : Selector) :
    let composed := first.compose second
    (∃ turns, Lengthens (taken first second) (first.parameter.push '_') turns composed.parameter ∧
        turns ≤ (taken first second).toFinset.card) ∧
      ¬ Occurs composed.parameter first.body ∧ ¬ Occurs composed.parameter second.body ∧
      composed.parameter ≠ first.parameter ∧ composed.parameter ≠ second.parameter ∧
      ∀ n, Free n composed.toLambda.toExpr →
        Free n first.toLambda.toExpr ∨ Free n second.toLambda.toExpr := by
  intro composed
  obtain ⟨turns, hturns⟩ := exists_lengthens_fresh first second
  obtain ⟨hfirst, hsecond⟩ := fresh_not_mem first second
  refine ⟨⟨turns, hturns, hturns.le_card⟩, mt mem_names_of_occurs hfirst,
    mt mem_names_of_occurs hsecond, fun heq => ?longer, fun heq => ?other,
    fun n => free_of_compose⟩
  case longer =>
    have hlength := hturns.length_eq
    change fresh first second = first.parameter at heq
    rw [heq, String.length_push] at hlength
    omega
  case other => exact hturns.not_mem (List.mem_cons.2 (.inl heq))

/-- A parameter in the depth of a selector is taken too. -/
example :
    let titles := Expr.call (.member (.name "p") "Books") "Select" [.lambda ["p_"] (.name "p_")]
    ((⟨"p", titles⟩ : Selector).compose ⟨"a", .name "a"⟩).parameter = "p__" := by
  decide +kernel

end Selector

end Projections
