import Projections.Proofs.Selector.Outcome
import Projections.Selector.Composition

/-! Evaluation depends on the scope only through the names that occur, and putting an
expression for a name evaluates like giving the name the value of the expression. -/

namespace Projections

namespace Expr

/-- What evaluation makes of a name. -/
theorem eval_name (n : String) (scope : Scope) :
    (Expr.name n).eval scope = (scope.lookup n).elim (.error (.unbound n)) .ok := by
  rw [eval]
  cases scope.lookup n <;> rfl

/-! ### Scopes -/

section Scopes

variable {R : Relation}

/-- Scopes whose readings of some names are related. -/
def Agree (R : Relation) (names : List String) (left right : Scope) : Prop :=
  ∀ n ∈ names, R ((Expr.name n).eval left) ((Expr.name n).eval right)

variable {left right : Scope} {names more : List String}

theorem Agree.of_append (h : Agree R (names ++ more) left right) :
    Agree R names left right ∧ Agree R more left right :=
  ⟨fun n hn => h n (List.mem_append_left _ hn), fun n hn => h n (List.mem_append_right _ hn)⟩

theorem eval_name_cons (n parameter : String) (item : Value) (scope : Scope) :
    (Expr.name n).eval ((parameter, item) :: scope) =
      if n = parameter then .ok item else (Expr.name n).eval scope := by
  rw [eval_name, eval_name, List.lookup_cons]
  by_cases h : n = parameter
  · simp [h]
  · have hb : (n == parameter) = false := beq_false_of_ne h
    simp [h, hb]

/-- Agreement is kept when both scopes bind one name alike. -/
theorem Agree.bound (hR : Congruence R) {parameter : String} (item : Value)
    (h : ∀ n ∈ names, n ≠ parameter → R ((Expr.name n).eval left) ((Expr.name n).eval right)) :
    Agree R names ((parameter, item) :: left) ((parameter, item) :: right) := by
  intro n hn
  rw [eval_name_cons, eval_name_cons]
  split_ifs with hp
  · exact hR.refl _
  · exact h n hn hp

mutual

theorem eval_congr (hR : Congruence R) :
    ∀ (e : Expr) {left right : Scope}, Agree R e.names left right →
      R (e.eval left) (e.eval right)
  | .name n, _, _, h => h n (List.mem_singleton.2 rfl)
  | .member base field, _, _, h => hR.map (eval_congr hR base h) _
  | .index base position, _, _, h => by
    obtain ⟨hbase, hposition⟩ := h.of_append
    exact hR.bind (eval_congr hR base hbase) fun _ => hR.map (eval_congr hR position hposition) _
  | .call base method arguments, _, _, h => by
    obtain ⟨hbase, harguments⟩ := h.of_append
    refine hR.bind (eval_congr hR base hbase) fun receiver => ?_
    exact hR.invoke (prepare_congr hR arguments method harguments) receiver method
  | .lambda _ _, _, _, _ => hR.refl _
  | .not operand, _, _, h => hR.map (eval_congr hR operand h) _
  | .binary op left right, _, _, h => by
    obtain ⟨hleft, hright⟩ := h.of_append
    refine hR.bind (eval_congr hR left hleft) fun value => ?_
    cases op.settled? value with
    | some result => exact hR.refl _
    | none => exact hR.map (eval_congr hR right hright) _
  | .object entries, _, _, h => hR.map (evalEntries_congr hR entries h) _
  | .array items, _, _, h => hR.map (evalItems_congr hR items h) _
  | .float _, _, _, _ | .integer _, _, _, _ | .string _, _, _, _ | .boolean _, _, _, _
  | .null, _, _, _ => hR.refl _

theorem evalItems_congr (hR : Congruence R) :
    ∀ (es : List Expr) {left right : Scope}, Agree R (namesOfAll es) left right →
      R (evalItems es left) (evalItems es right)
  | [], _, _, _ => hR.refl _
  | e :: es, _, _, h => by
    obtain ⟨he, hes⟩ := h.of_append
    exact hR.bind (eval_congr hR e he) fun _ => hR.map (evalItems_congr hR es hes) _

theorem evalEntries_congr (hR : Congruence R) :
    ∀ (entries : List (String × Expr)) {left right : Scope},
      Agree R (namesOfEntries entries) left right →
      R (evalEntries entries left) (evalEntries entries right)
  | [], _, _, _ => hR.refl _
  | (_, e) :: es, _, _, h => by
    obtain ⟨he, hes⟩ := h.of_append
    exact hR.bind (eval_congr hR e he) fun _ => hR.map (evalEntries_congr hR es hes) _

theorem applied_congr (hR : Congruence R) :
    ∀ (e : Expr) (method : String) {left right : Scope}, Agree R e.names left right →
      ∀ item, R (e.applied method left item) (e.applied method right item)
  | .lambda [_] body, _, _, _, h, item =>
    eval_congr hR body (.bound hR item fun n hn _ => h n (List.mem_append_right _ hn))
  | .lambda [] _, _, _, _, _, _ | .lambda (_ :: _ :: _) _, _, _, _, _, _ => hR.refl _
  | .name _, _, _, _, _, _ | .member _ _, _, _, _, _, _ | .index _ _, _, _, _, _, _
  | .call _ _ _, _, _, _, _, _ | .not _, _, _, _, _, _ | .binary _ _ _, _, _, _, _, _
  | .object _, _, _, _, _, _ | .array _, _, _, _, _, _ | .float _, _, _, _, _, _
  | .integer _, _, _, _, _, _ | .string _, _, _, _, _, _ | .boolean _, _, _, _, _, _
  | .null, _, _, _, _, _ => hR.refl _

theorem prepare_congr (hR : Congruence R) :
    ∀ (es : List Expr) (method : String) {left right : Scope}, Agree R (namesOfAll es) left right →
      List.Forall₂ (Argument.Related R) (prepare es method left) (prepare es method right)
  | [], _, _, _, _ => .nil
  | e :: es, method, _, _, h => by
    obtain ⟨he, hes⟩ := h.of_append
    exact .cons ⟨eval_congr hR e he, applied_congr hR e method he⟩ (prepare_congr hR es method hes)

end

end Scopes

/-! ### Substitution -/

/-- An expression that makes `v` of `r`, wherever `z` holds `r`. -/
def Gives (u : Expr) (z : String) (r v : Value) : Prop :=
  ∀ scope : Scope, scope.lookup z = some r → u.eval scope = .ok v

theorem gives_name (z : String) (r : Value) : Gives (.name z) z r r := by
  intro scope hs
  rw [eval_name, hs, Option.elim_some]

/-- Scopes for an expression in which something that reads `z` is to stand for the name `x`:
the value of `x` and what `z` has to hold are there, and other names read alike. -/
structure Stands (x z : String) (v r : Value) (names : List String) (new old : Scope) : Prop where
  fresh : z ∉ names
  held : new.lookup z = some r
  named : old.lookup x = some v
  others : ∀ n ∈ names, n ≠ x → (Expr.name n).eval new = (Expr.name n).eval old

namespace Stands

variable {x z : String} {v r : Value} {names more : List String} {new old : Scope}

theorem of_append (h : Stands x z v r (names ++ more) new old) :
    Stands x z v r names new old ∧ Stands x z v r more new old := by
  have hfresh := not_or.1 (List.mem_append.not.1 h.fresh)
  constructor
  · exact ⟨hfresh.1, h.held, h.named, fun n hn => h.others n (List.mem_append_left _ hn)⟩
  · exact ⟨hfresh.2, h.held, h.named, fun n hn => h.others n (List.mem_append_right _ hn)⟩

/-- A function whose parameter is another name leaves both where they are. -/
theorem bound {parameter : String} (item : Value) (hx : parameter ≠ x)
    (h : Stands x z v r (parameter :: names) new old) :
    Stands x z v r names ((parameter, item) :: new) ((parameter, item) :: old) where
  fresh hz := h.fresh (List.mem_cons_of_mem _ hz)
  held := by
    have hz : z ≠ parameter := fun hz => h.fresh (hz ▸ List.mem_cons_self ..)
    rw [List.lookup_cons, beq_false_of_ne hz]
    exact h.held
  named := by
    rw [List.lookup_cons, beq_false_of_ne hx.symm]
    exact h.named
  others n hn hne := by
    rw [eval_name_cons, eval_name_cons, h.others n (List.mem_cons_of_mem _ hn) hne]

/-- Nothing else is in scope. -/
theorem alone (hz : z ∉ names) (r v : Value) : Stands x z v r names [(z, r)] [(x, v)] where
  fresh := hz
  held := List.lookup_cons_self
  named := List.lookup_cons_self
  others n hn hx := by
    rw [eval_name_cons, eval_name_cons, if_neg hx, if_neg fun h : n = z => hz (h ▸ hn)]

end Stands

section Substitution

variable {x z : String} {u : Expr} {v r : Value}

mutual

theorem eval_substitute (hu : Gives u z r v) :
    ∀ (e : Expr) {new old : Scope}, Stands x z v r e.names new old →
      SameOutcome ((substitute x u e).eval new) (e.eval old)
  | .name n, new, old, h => by
    rw [substitute]
    split_ifs with hn
    · subst hn
      rw [hu new h.held, eval_name, h.named]
      rfl
    · rw [h.others n (List.mem_singleton.2 rfl) hn]
      exact SameOutcome.congruence.refl _
  | .member base field, _, _, h => SameOutcome.congruence.map (eval_substitute hu base h) _
  | .index base position, _, _, h => by
    obtain ⟨hbase, hposition⟩ := h.of_append
    refine SameOutcome.congruence.bind (eval_substitute hu base hbase) fun _ => ?_
    exact SameOutcome.congruence.map (eval_substitute hu position hposition) _
  | .call base method arguments, _, _, h => by
    obtain ⟨hbase, harguments⟩ := h.of_append
    refine SameOutcome.congruence.bind (eval_substitute hu base hbase) fun receiver => ?_
    exact SameOutcome.congruence.invoke (prepare_substitute hu arguments method harguments)
      receiver method
  | .lambda parameters body, _, _, _ => by
    rw [substitute]
    split_ifs <;> rfl
  | .not operand, _, _, h => SameOutcome.congruence.map (eval_substitute hu operand h) _
  | .binary op left right, _, _, h => by
    obtain ⟨hleft, hright⟩ := h.of_append
    refine SameOutcome.congruence.bind (eval_substitute hu left hleft) fun value => ?_
    cases op.settled? value with
    | some result => exact SameOutcome.congruence.refl _
    | none => exact SameOutcome.congruence.map (eval_substitute hu right hright) _
  | .object entries, _, _, h =>
    SameOutcome.congruence.map (evalEntries_substitute hu entries h) _
  | .array items, _, _, h => SameOutcome.congruence.map (evalItems_substitute hu items h) _
  | .float _, _, _, _ | .integer _, _, _, _ | .string _, _, _, _ | .boolean _, _, _, _
  | .null, _, _, _ => SameOutcome.congruence.refl _

theorem evalItems_substitute (hu : Gives u z r v) :
    ∀ (es : List Expr) {new old : Scope}, Stands x z v r (namesOfAll es) new old →
      SameOutcome (evalItems (substituteAll x u es) new) (evalItems es old)
  | [], _, _, _ => SameOutcome.congruence.refl _
  | e :: es, _, _, h => by
    obtain ⟨he, hes⟩ := h.of_append
    refine SameOutcome.congruence.bind (eval_substitute hu e he) fun _ => ?_
    exact SameOutcome.congruence.map (evalItems_substitute hu es hes) _

theorem evalEntries_substitute (hu : Gives u z r v) :
    ∀ (entries : List (String × Expr)) {new old : Scope},
      Stands x z v r (namesOfEntries entries) new old →
      SameOutcome (evalEntries (substituteEntries x u entries) new) (evalEntries entries old)
  | [], _, _, _ => SameOutcome.congruence.refl _
  | (_, e) :: es, _, _, h => by
    obtain ⟨he, hes⟩ := h.of_append
    refine SameOutcome.congruence.bind (eval_substitute hu e he) fun _ => ?_
    exact SameOutcome.congruence.map (evalEntries_substitute hu es hes) _

theorem applied_substitute (hu : Gives u z r v) :
    ∀ (e : Expr) (method : String) {new old : Scope}, Stands x z v r e.names new old → ∀ item,
      SameOutcome ((substitute x u e).applied method new item) (e.applied method old item)
  | .name n, method, new, old, h, item => by
    rw [substitute]
    split_ifs with hn
    · cases u with
      | lambda parameters body => cases hu new h.held
      | _ => rfl
    · rfl
  | .lambda [parameter] body, _, new, old, h, item => by
    rw [substitute]
    by_cases hx : parameter = x
    · -- the parameter hides the name, so nothing was put for it
      subst hx
      rw [if_pos (by simp)]
      refine eval_congr SameOutcome.congruence body (.bound SameOutcome.congruence item ?_)
      intro n hn hne
      rw [h.others n (List.mem_append_right _ hn) hne]
      exact SameOutcome.congruence.refl _
    · rw [if_neg (by simpa using Ne.symm hx)]
      exact eval_substitute hu body (h.bound item hx)
  | .lambda [] _, _, _, _, _, _ | .lambda (_ :: _ :: _) _, _, _, _, _, _ => by
    rw [substitute]
    split_ifs <;> rfl
  | .member _ _, _, _, _, _, _ | .index _ _, _, _, _, _, _
  | .call _ _ _, _, _, _, _, _ | .not _, _, _, _, _, _ | .binary _ _ _, _, _, _, _, _
  | .object _, _, _, _, _, _ | .array _, _, _, _, _, _ | .float _, _, _, _, _, _
  | .integer _, _, _, _, _, _ | .string _, _, _, _, _, _ | .boolean _, _, _, _, _, _
  | .null, _, _, _, _, _ => rfl

theorem prepare_substitute (hu : Gives u z r v) :
    ∀ (es : List Expr) (method : String) {new old : Scope},
      Stands x z v r (namesOfAll es) new old →
      List.Forall₂ (Argument.Related SameOutcome) (prepare (substituteAll x u es) method new)
        (prepare es method old)
  | [], _, _, _, _ => .nil
  | e :: es, method, _, _, h => by
    obtain ⟨he, hes⟩ := h.of_append
    exact .cons ⟨eval_substitute hu e he, applied_substitute hu e method he⟩
      (prepare_substitute hu es method hes)

end

end Substitution

end Expr

end Projections
