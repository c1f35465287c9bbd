import Mathlib.Data.List.Forall2
import Projections.Proofs.Result
import Projections.Selector.Evaluation

/-! Relations between the outcomes of two evaluations. One that holds of equal
outcomes and passes through sequencing passes through every loop of a method and so
through every method. -/

namespace Projections

/-- What kind of failure an error is, without its details. -/
inductive BindError.Variant where
  | type | unknownMethod | unbound | divisionByZero | parameterCount
deriving DecidableEq, Repr

def BindError.variant : BindError → Variant
  | .type _ => .type
  | .unknownMethod _ => .unknownMethod
  | .unbound _ => .unbound
  | .divisionByZero => .divisionByZero
  | .parameterCount _ => .parameterCount

/-- A relation between outcomes of evaluation, for every type of results. -/
abbrev Relation := {α : Type} → Except BindError α → Except BindError α → Prop

/-- The same result, or failures of one kind. -/
def SameOutcome : Relation
  | _, .ok v, .ok w => v = w
  | _, .error e, .error f => e.variant = f.variant
  | _, _, _ => False

/-- A result of the first evaluation is one of the second. -/
def Keeps : Relation := fun first second => ∀ v, first = .ok v → second = .ok v

/-- A relation that passes through programs: it holds of equal outcomes, and of two
sequences when it holds of their first parts and, on every result, of what follows. -/
structure Congruence (R : Relation) : Prop where
  refl : ∀ {α : Type} (outcome : Except BindError α), R outcome outcome
  bind : ∀ {α β : Type} {first second : Except BindError α} {f g : α → Except BindError β},
    R first second → (∀ v, R (f v) (g v)) → R (first >>= f) (second >>= g)

theorem Congruence.eq : Congruence fun {_} first second => first = second where
  refl _ := rfl
  bind h hf := by
    subst h
    exact congrArg _ (funext hf)

theorem SameOutcome.congruence : Congruence SameOutcome where
  refl outcome := by cases outcome <;> rfl
  bind {_ _ first second f g} h hf := by
    cases first with
    | ok v =>
      cases second with
      | ok w => cases h; exact hf v
      | error e => exact h.elim
    | error e =>
      cases second with
      | ok w => exact h.elim
      | error e' => exact h

theorem SameOutcome.eq_ok {α : Type} {first second : Except BindError α} {v : α}
    (h : SameOutcome first second) (hv : second = .ok v) : first = .ok v := by
  subst hv
  cases first with
  | ok w => exact congrArg Except.ok h
  | error e => exact h.elim

theorem Keeps.congruence : Congruence Keeps where
  refl _ _ h := h
  bind {_ _ first second f g} h hf w hw := by
    obtain ⟨v, hv, hw⟩ := Result.bind_eq_ok_iff.1 hw
    rw [h v hv]
    exact hf v w hw

namespace Congruence

variable {R : Relation} (hR : Congruence R)

include hR

/-- What is done to a result. -/
theorem map {α β : Type} {first second : Except BindError α} (h : R first second)
    (f : α → Except BindError β) : R (first >>= f) (second >>= f) :=
  hR.bind h fun _ => hR.refl _

theorem mapM {α : Type} {f g : Value → Except BindError α} (h : ∀ v, R (f v) (g v))
    (items : List Value) : R (items.mapM f) (items.mapM g) := by
  induction items with
  | nil => exact hR.refl _
  | cons item rest ih =>
    rw [List.mapM_cons, List.mapM_cons]
    exact hR.bind (h item) fun _ => hR.map ih _

theorem foldlM {α : Type} {f g : α → Value → Except BindError α}
    (h : ∀ acc v, R (f acc v) (g acc v)) (items : List Value) (start : α) :
    R (items.foldlM f start) (items.foldlM g start) := by
  induction items generalizing start with
  | nil => exact hR.refl _
  | cons item rest ih =>
    rw [List.foldlM_cons, List.foldlM_cons]
    exact hR.bind (h start item) ih

section Loops

variable {f g : Value → Except BindError Value} (h : ∀ v, R (f v) (g v))

include h

theorem keep (items : List Value) : R (Method.keep f items) (Method.keep g items) := by
  induction items with
  | nil => exact hR.refl _
  | cons item rest ih => exact hR.bind (h item) fun _ => hR.map ih _

theorem someHolds (items : List Value) :
    R (Method.someHolds f items) (Method.someHolds g items) := by
  induction items with
  | nil => exact hR.refl _
  | cons item rest ih =>
    refine hR.bind (h item) fun verdict => ?_
    split_ifs
    · exact hR.refl _
    · exact ih

theorem everyHolds (items : List Value) :
    R (Method.everyHolds f items) (Method.everyHolds g items) := by
  induction items with
  | nil => exact hR.refl _
  | cons item rest ih =>
    refine hR.bind (h item) fun verdict => ?_
    split_ifs
    · exact ih
    · exact hR.refl _

theorem withKeys (items : List Value) : R (Method.withKeys f items) (Method.withKeys g items) :=
  hR.mapM (fun v => hR.map (h v) _) items

theorem total (items : List Value) : R (Method.total f items) (Method.total g items) :=
  hR.foldlM (fun _ v => hR.map (h v) _) items _

theorem extreme (wanted : Ordering) (items : List Value) :
    R (Method.extreme wanted f items) (Method.extreme wanted g items) :=
  hR.map (hR.foldlM (fun _ v => hR.map (h v) _) items _) _

end Loops

end Congruence

/-! ### Methods -/

/-- Arguments that are related by themselves and on every element. -/
structure Argument.Related (R : Relation) (a b : Argument) : Prop where
  value : R a.value b.value
  apply : ∀ item, R (a.apply item) (b.apply item)

namespace Congruence

variable {R : Relation} (hR : Congruence R)

include hR

section Arguments

variable {as bs : List Argument} (h : List.Forall₂ (Argument.Related R) as bs)

include h

theorem one (m : Method) {β : Type} {f g : Argument → Except BindError β}
    (hf : ∀ a b, Argument.Related R a b → R (f a) (g b)) :
    R (m.one as >>= f) (m.one bs >>= g) := by
  rcases h with _ | ⟨hab, _ | ⟨hcd, hrest⟩⟩
  · exact hR.refl _
  · exact hf _ _ hab
  · simp only [Method.one, List.length_cons, hrest.length_eq]
    exact hR.refl _

theorem optional (m : Method) {β : Type} {f g : Option Argument → Except BindError β}
    (hnone : R (f none) (g none))
    (hf : ∀ a b, Argument.Related R a b → R (f (some a)) (g (some b))) :
    R (m.optional as >>= f) (m.optional bs >>= g) := by
  rcases h with _ | ⟨hab, _ | ⟨hcd, hrest⟩⟩
  · exact hnone
  · exact hf _ _ hab
  · simp only [Method.optional, List.length_cons, hrest.length_eq]
    exact hR.refl _

theorem size (m : Method) : R (m.size as) (m.size bs) :=
  hR.one h m fun _ _ hab => hR.map hab.value _

theorem needle (m : Method) : R (m.needle as) (m.needle bs) :=
  hR.one h m fun _ _ hab => hR.map hab.value _

theorem selection (m : Method) (items : List Value) :
    R (m.selection as items) (m.selection bs items) :=
  hR.optional h m (hR.refl _) fun _ _ hab => hR.keep hab.apply items

theorem contribution (m : Method) (item : Value) :
    R (m.contribution as item) (m.contribution bs item) :=
  hR.optional h m (hR.refl _) fun _ _ hab => hab.apply item

theorem call (m : Method) (receiver : Value) : R (m.call receiver as) (m.call receiver bs) := by
  cases m with
  | select =>
    refine hR.one h _ fun _ _ hab => hR.bind (hR.refl _) fun items => ?_
    exact hR.map (hR.mapM hab.apply items) _
  | filter =>
    refine hR.one h _ fun _ _ hab => hR.bind (hR.refl _) fun items => ?_
    exact hR.map (hR.keep hab.apply items) _
  | any =>
    refine hR.bind (hR.refl _) fun items => hR.optional h _ (hR.refl _) fun _ _ hab => ?_
    exact hR.map (hR.someHolds hab.apply items) _
  | all =>
    refine hR.one h _ fun _ _ hab => hR.bind (hR.refl _) fun items => ?_
    exact hR.map (hR.everyHolds hab.apply items) _
  | orderBy | orderByDescending =>
    refine hR.one h _ fun _ _ hab => hR.bind (hR.refl _) fun items => ?_
    exact hR.map (hR.withKeys hab.apply items) _
  | take | skip => exact hR.map (hR.size h _) _
  | first | last | count =>
    exact hR.bind (hR.refl _) fun items => hR.map (hR.selection h _ items) _
  | sum => exact hR.bind (hR.refl _) fun items => hR.total (hR.contribution h _) items
  | min | max => exact hR.bind (hR.refl _) fun items => hR.extreme (hR.contribution h _) _ items
  | toUpper | toLower | trim => exact hR.refl _
  | contains => exact hR.one h _ fun _ _ hab => hR.map hab.value _
  | startsWith | endsWith | occurrence => exact hR.map (hR.needle h _) _

theorem invoke (receiver : Value) (name : String) :
    R (receiver.invoke name as) (receiver.invoke name bs) := by
  unfold Value.invoke
  split
  · exact hR.call h _ receiver
  · exact hR.refl _

end Arguments

end Congruence

end Projections
