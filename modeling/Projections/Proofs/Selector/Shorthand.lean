import Projections.Proofs.Selector.Outcome

/-! Calls with a function as shorthands. A pick, a count or a total of what a function
makes of the elements is that of the elements kept or projected by a call of its own; a
test of some or of all elements is that of the elements kept, or of the negation. The
loops differ in the order of their evaluations, so failures may differ where results do
not. -/

namespace Projections

open Result (bind_eq_ok_iff)

/-! ### Results -/

/-- The same results; the failures may differ. -/
def SameResults : Relation := fun first second => ∀ v, first = .ok v ↔ second = .ok v

namespace SameResults

theorem congruence : Congruence SameResults where
  refl _ _ := Iff.rfl
  bind h hf w := by
    rw [bind_eq_ok_iff, bind_eq_ok_iff]
    exact exists_congr fun v => and_congr (h v) (hf v w)

variable {α : Type} {first second third : Except BindError α}

theorem of_eq (h : first = second) : SameResults first second := fun _ => by rw [h]

theorem trans (h : SameResults first second) (h' : SameResults second third) :
    SameResults first third := fun v => (h v).trans (h' v)

/-- Methods mind receivers alike, each under its own name. -/
theorem elements (m n : Method) (receiver : Value) :
    SameResults (m.elements receiver) (n.elements receiver) := by
  cases receiver with
  | array items => exact fun _ => Iff.rfl
  | null => exact fun _ => Iff.rfl
  | boolean _ | float _ | integer _ | string _ | object _ => exact fun _ => ⟨nofun, nofun⟩

end SameResults

/-! ### Loops -/

/-- A loop that applies a function and folds gives what the fold gives of the projected
elements. -/
theorem sameResults_foldlM {α : Type} (f : Value → Except BindError Value)
    (step : α → Value → Except BindError α) (items : List Value) (start : α) :
    SameResults (items.foldlM (fun acc item => do step acc (← f item)) start)
      (do (← items.mapM f).foldlM step start) := by
  induction items generalizing start with
  | nil => exact fun _ => Iff.rfl
  | cons item rest ih =>
    intro result
    -- the loop alternates, the fold comes after all projections: the two meet in the values
    have hrest : ∀ acc, (∃ values, rest.mapM f = .ok values ∧
        values.foldlM step acc = .ok result) ↔
          rest.foldlM (fun acc item => do step acc (← f item)) acc = .ok result :=
      fun acc => bind_eq_ok_iff.symm.trans (ih acc result).symm
    simp only [List.foldlM_cons, List.mapM_cons, bind_eq_ok_iff]
    constructor
    · rintro ⟨acc, ⟨value, hvalue, hacc⟩, hfold⟩
      obtain ⟨values, hvalues, hfold⟩ := (hrest acc).2 hfold
      refine ⟨value :: values, ⟨value, hvalue, values, hvalues, rfl⟩, ?_⟩
      rw [List.foldlM_cons]
      exact bind_eq_ok_iff.2 ⟨acc, hacc, hfold⟩
    · rintro ⟨_, ⟨value, hvalue, values, hvalues, ⟨⟩⟩, hfold⟩
      rw [List.foldlM_cons] at hfold
      obtain ⟨acc, hacc, hfold⟩ := bind_eq_ok_iff.1 hfold
      exact ⟨acc, ⟨value, hvalue, hacc⟩, (hrest acc).1 ⟨values, hvalues, hfold⟩⟩

/-- Where every test succeeds, some element passes if one is kept. -/
theorem someHolds_of_keep {test : Value → Except BindError Value} {items kept : List Value}
    (h : Method.keep test items = .ok kept) :
    Method.someHolds test items = .ok !kept.isEmpty := by
  induction items generalizing kept with
  | nil =>
    cases h
    rfl
  | cons item rest ih =>
    obtain ⟨verdict, hverdict, h⟩ := bind_eq_ok_iff.1 h
    obtain ⟨others, hothers, h⟩ := bind_eq_ok_iff.1 h
    cases h
    rw [Method.someHolds, hverdict, Result.ok_bind]
    -- the test ends where the first is kept, whatever comes of the others
    cases verdict.truthy with
    | true => rfl
    | false => exact ih hothers

theorem Value.truthy_boolean (flag : Bool) : (Value.boolean flag).truthy = flag := rfl

/-- Every element passes if none passes the negated test; both end at the same element. -/
theorem everyHolds_eq_not_someHolds {test negated : Value → Except BindError Value}
    (h : ∀ item, negated item = do return .boolean !(← test item).truthy) (items : List Value) :
    Method.everyHolds test items = do return !(← Method.someHolds negated items) := by
  induction items with
  | nil => rfl
  | cons item rest ih =>
    rw [Method.everyHolds, Method.someHolds, h, ih]
    cases test item with
    | error e => rfl
    | ok verdict =>
      simp only [Result.ok_bind, pure_bind, Value.truthy_boolean]
      cases verdict.truthy <;> rfl

/-! ### Methods -/

namespace Method

variable {m : Method} {a b : Argument} {α : Type}

theorem call_filter (receiver : Value) (a : Argument) : filter.call receiver [a] = do
    let items ← filter.elements receiver
    return .array (← keep a.apply items) := rfl

theorem call_select (receiver : Value) (a : Argument) : select.call receiver [a] = do
    let items ← select.elements receiver
    return .array (← items.mapM a.apply) := rfl

theorem call_any (receiver : Value) (a : Argument) : any.call receiver [a] = do
    let items ← any.elements receiver
    return .boolean (← someHolds a.apply items) := rfl

/-- What is made of the elements an argument selects is made of those that are kept. -/
theorem sameResults_selection {finish : List Value → Value}
    (hcall : ∀ receiver arguments, m.call receiver arguments = do
      let items ← m.elements receiver
      return finish (← m.selection arguments items))
    (h : ∀ item, SameResults (a.apply item) (b.apply item)) (receiver : Value) :
    SameResults (m.call receiver [a]) (do m.call (← filter.call receiver [b]) []) := by
  have hkept : ∀ kept, m.call (.array kept) [] = .ok (finish kept) := fun _ => hcall _ _
  rw [hcall, call_filter]
  simp only [bind_assoc, pure_bind, hkept]
  exact SameResults.congruence.bind (.elements m filter receiver) fun items =>
    SameResults.congruence.map (SameResults.congruence.keep h items) _

/-- What a loop accumulates of the argument's results is accumulated of the projected
elements. -/
theorem sameResults_contribution {step : α → Value → Except BindError α} {start : α}
    {finish : α → Value}
    (hcall : ∀ receiver arguments, m.call receiver arguments = do
      let items ← m.elements receiver
      return finish (← items.foldlM
        (fun acc item => do step acc (← m.contribution arguments item)) start))
    (h : ∀ item, SameResults (a.apply item) (b.apply item)) (receiver : Value) :
    SameResults (m.call receiver [a]) (do m.call (← select.call receiver [b]) []) := by
  have hvalues : ∀ values, m.call (.array values) [] = do
      return finish (← values.foldlM step start) := fun _ => hcall _ _
  rw [hcall, call_select]
  simp only [bind_assoc, pure_bind, hvalues]
  refine SameResults.congruence.bind (.elements m select receiver) fun items => ?_
  have hloop := sameResults_foldlM b.apply step items start
  have hsteps : SameResults
      (items.foldlM (fun acc item => do step acc (← m.contribution [a] item)) start)
      (items.foldlM (fun acc item => do step acc (← b.apply item)) start) :=
    SameResults.congruence.foldlM (fun _ item => SameResults.congruence.map (h item) _) items start
  have := SameResults.congruence.map (hsteps.trans hloop) fun acc => pure (finish acc)
  simpa only [bind_assoc] using this

/-- `Any` succeeds wherever the elements that pass can be kept, and says whether there are any. -/
theorem call_any_of_filter (h : ∀ item, SameResults (a.apply item) (b.apply item))
    {receiver value : Value} (hfilter : filter.call receiver [b] = .ok value) :
    ∃ flag, any.call receiver [a] = .ok flag ∧ any.call value [] = .ok flag := by
  rw [call_filter] at hfilter
  obtain ⟨items, hitems, hkeep⟩ := bind_eq_ok_iff.1 hfilter
  obtain ⟨kept, hkept, hvalue⟩ := bind_eq_ok_iff.1 hkeep
  cases hvalue
  have hsome := someHolds_of_keep ((SameResults.congruence.keep h items kept).2 hkept)
  refine ⟨.boolean !kept.isEmpty, ?_, rfl⟩
  rw [call_any]
  exact bind_eq_ok_iff.2 ⟨items, (SameResults.elements any filter receiver items).2 hitems,
    bind_eq_ok_iff.2 ⟨!kept.isEmpty, hsome, rfl⟩⟩

/-- `All` holds where `Any` of the negated test does not. -/
theorem sameResults_all (h : ∀ item, b.apply item = do return .boolean !(← a.apply item).truthy)
    (receiver : Value) :
    SameResults (all.call receiver [a]) (do return .boolean !(← any.call receiver [b]).truthy) := by
  have hall : all.call receiver [a] = do
      let items ← all.elements receiver
      return .boolean (← everyHolds a.apply items) := rfl
  rw [hall, call_any]
  simp only [bind_assoc, pure_bind, Value.truthy_boolean]
  refine SameResults.congruence.bind (.elements all any receiver) fun items => .of_eq ?_
  rw [everyHolds_eq_not_someHolds h, bind_assoc]
  rfl

theorem ofName?_name (m : Method) : ofName? m.name = some m := by
  cases m <;> decide

end Method

/-! ### Expressions -/

namespace Expr

variable (base f : Expr) (scope : Scope)

theorem eval_call (m : Method) (arguments : List Expr) :
    (Expr.call base m.name arguments).eval scope =
      (do m.call (← base.eval scope) (prepare arguments m.name scope)) := by
  rw [eval]
  simp only [Value.invoke, Method.ofName?_name]

/-- A function argument makes the same of an element under every method. -/
theorem sameResults_applied (m n : Method) (item : Value) :
    SameResults (f.applied m.name scope item) (f.applied n.name scope item) := by
  match f with
  | .lambda [_] _ => exact fun _ => Iff.rfl
  | .lambda [] _ | .lambda (_ :: _ :: _) _ => exact fun _ => Iff.rfl
  | .name _ | .member _ _ | .index _ _ | .call _ _ _ | .not _ | .binary _ _ _ | .object _
  | .array _ | .float _ | .integer _ | .string _ | .boolean _ | .null =>
    exact fun _ => ⟨nofun, nofun⟩

/-- A method on the result of another. -/
theorem eval_call_call (m n : Method) :
    (Expr.call (.call base m.name [f]) n.name []).eval scope = (do
      n.call (← m.call (← base.eval scope) [⟨f.eval scope, f.applied m.name scope⟩]) []) := by
  rw [eval_call, eval_call, bind_assoc]
  rfl

theorem sameResults_of_selection (m : Method) (finish : List Value → Value)
    (hcall : ∀ receiver arguments, m.call receiver arguments = do
      let items ← m.elements receiver
      return finish (← m.selection arguments items)) :
    SameResults ((Expr.call base m.name [f]).eval scope)
      ((Expr.call (.call base Method.filter.name [f]) m.name []).eval scope) := by
  rw [eval_call, eval_call_call]
  exact SameResults.congruence.bind (SameResults.congruence.refl _) fun receiver =>
    Method.sameResults_selection hcall (sameResults_applied f scope m .filter) receiver

theorem sameResults_of_contribution {α : Type} (m : Method)
    (step : α → Value → Except BindError α) (start : α) (finish : α → Value)
    (hcall : ∀ receiver arguments, m.call receiver arguments = do
      let items ← m.elements receiver
      return finish (← items.foldlM
        (fun acc item => do step acc (← m.contribution arguments item)) start)) :
    SameResults ((Expr.call base m.name [f]).eval scope)
      ((Expr.call (.call base Method.select.name [f]) m.name []).eval scope) := by
  rw [eval_call, eval_call_call]
  exact SameResults.congruence.bind (SameResults.congruence.refl _) fun receiver =>
    Method.sameResults_contribution hcall (sameResults_applied f scope m .select) receiver

/-- Wherever the elements that pass can be kept, `Any` says whether there are any. -/
theorem eval_any_of_filter {kept : Value}
    (h : (Expr.call base Method.filter.name [f]).eval scope = .ok kept) :
    ∃ flag, (Expr.call base Method.any.name [f]).eval scope = .ok flag ∧
      (Expr.call (.call base Method.filter.name [f]) Method.any.name []).eval scope =
        .ok flag := by
  rw [eval_call] at h
  obtain ⟨receiver, hreceiver, hkept⟩ := bind_eq_ok_iff.1 h
  have happly := sameResults_applied f scope .any .filter
  obtain ⟨flag, hany, hflag⟩ := Method.call_any_of_filter
    (a := ⟨f.eval scope, f.applied Method.any.name scope⟩) happly hkept
  refine ⟨flag, ?_, ?_⟩
  · rw [eval_call]
    exact bind_eq_ok_iff.2 ⟨receiver, hreceiver, hany⟩
  · rw [eval_call, eval_call, bind_assoc]
    exact bind_eq_ok_iff.2 ⟨receiver, hreceiver, bind_eq_ok_iff.2 ⟨kept, hkept, hflag⟩⟩

theorem sameResults_all_not_any (parameter : String) (body : Expr) :
    SameResults ((Expr.call base Method.all.name [.lambda [parameter] body]).eval scope)
      ((Expr.not (.call base Method.any.name [.lambda [parameter] (.not body)])).eval scope) := by
  rw [eval_call, eval, eval_call, bind_assoc]
  exact SameResults.congruence.bind (SameResults.congruence.refl _) fun receiver =>
    Method.sameResults_all (fun item => rfl) receiver

/-- Methods with a function do in one call what they do without it after a call of `Where`
or `Select`. `Any` does so where `Where` succeeds, and `All` is the negation of `Any` of the
negated function. -/
theorem eval_shorthand :
    (∀ name ∈ ["First", "Last", "Count"],
      SameResults ((Expr.call base name [f]).eval scope)
        ((Expr.call (.call base "Where" [f]) name []).eval scope)) ∧
    (∀ name ∈ ["Sum", "Min", "Max"],
      SameResults ((Expr.call base name [f]).eval scope)
        ((Expr.call (.call base "Select" [f]) name []).eval scope)) ∧
    (∀ kept, (Expr.call base "Where" [f]).eval scope = .ok kept →
      ∃ flag, (Expr.call base "Any" [f]).eval scope = .ok flag ∧
        (Expr.call (.call base "Where" [f]) "Any" []).eval scope = .ok flag) ∧
    ∀ parameter body,
      SameResults ((Expr.call base "All" [.lambda [parameter] body]).eval scope)
        ((Expr.not (.call base "Any" [.lambda [parameter] (.not body)])).eval scope) := by
  refine ⟨?picks, ?totals, fun kept => eval_any_of_filter base f scope,
    sameResults_all_not_any base scope⟩
  case picks =>
    have hfirst := sameResults_of_selection base f scope .first (·.head?.getD .null) fun _ _ => rfl
    have hlast := sameResults_of_selection base f scope .last (·.getLast?.getD .null)
      fun _ _ => rfl
    have hcount := sameResults_of_selection base f scope .count Method.length fun _ _ => rfl
    exact List.forall_mem_cons.2 ⟨hfirst, List.forall_mem_cons.2
      ⟨hlast, List.forall_mem_singleton.2 hcount⟩⟩
  case totals =>
    have hsum := sameResults_of_contribution base f scope .sum Method.increase (.integer 0) id
      fun _ _ => by simp [Method.call, Method.total]
    have hmin := sameResults_of_contribution base f scope .min
      (fun best value => pure (Method.better .lt best value)) none (·.getD .null) fun _ _ => rfl
    have hmax := sameResults_of_contribution base f scope .max
      (fun best value => pure (Method.better .gt best value)) none (·.getD .null) fun _ _ => rfl
    exact List.forall_mem_cons.2 ⟨hsum, List.forall_mem_cons.2
      ⟨hmin, List.forall_mem_singleton.2 hmax⟩⟩

/-- Of zero and three, three is the last positive one. There are some, but not all are, and the
answers of the test have no sum. -/
theorem eval_shorthand_of_numbers :
    let numbers := Expr.array [.integer 0, .integer 3]
    let positive := Expr.lambda ["n"] (.binary .less (.integer 0) (.name "n"))
    "Last" ∈ ["First", "Last", "Count"] ∧ "Sum" ∈ ["Sum", "Min", "Max"] ∧
      (Expr.call numbers "Where" [positive]).eval [] = .ok (.array [.integer 3]) ∧
      (Expr.call numbers "Last" [positive]).eval [] = .ok (.integer 3) ∧
      (∀ total, (Expr.call numbers "Sum" [positive]).eval [] ≠ .ok total) ∧
      (∃ flag, (Expr.call numbers "Any" [positive]).eval [] = .ok flag ∧
        (Expr.call (.call numbers "Where" [positive]) "Any" []).eval [] = .ok flag) ∧
      (Expr.call numbers "All" [positive]).eval [] = .ok (.boolean false) := by
  intro numbers positive
  obtain ⟨hpicks, htotals, hany, hall⟩ := eval_shorthand numbers positive []
  have hlast : "Last" ∈ ["First", "Last", "Count"] := by decide
  have hsum : "Sum" ∈ ["Sum", "Min", "Max"] := by decide
  have hkept : (Expr.call numbers "Where" [positive]).eval [] = .ok (.array [.integer 3]) := rfl
  refine ⟨hlast, hsum, hkept, (hpicks "Last" hlast _).2 rfl, fun total h => ?_,
    hany _ hkept, (hall _ _ _).2 rfl⟩
  exact absurd ((htotals "Sum" hsum total).1 h) nofun

end Expr

end Projections
