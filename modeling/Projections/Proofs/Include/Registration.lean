import Mathlib.Data.List.Nodup
import Projections.Proofs.Include.Resolution

/-! Registration of operators. Whatever is attempted, names stay distinct and the name of
projections stays free; the operators there keep their places, so an include that resolves
goes on resolving to the same path. -/

namespace Projections

open Result (bind_eq_ok_iff)

namespace Registry

/-! ### Attempts -/

/-- The operators that get in. -/
def accepted (registry : Registry) : List Operator → List Operator
  | [] => []
  | operator :: rest =>
    match registry.attempt operator with
    | (larger, none) => operator :: larger.accepted rest
    | (same, some _) => same.accepted rest

/-- An attempt adds an operator at the end if its name is neither reserved nor there. Else it is
refused and changes nothing. -/
theorem attempt_cases (registry : Registry) (operator : Operator) :
    (operator.name ≠ projectionName ∧ registry.get? operator.name = none ∧
      registry.attempt operator = (⟨registry.operators ++ [operator]⟩, none)) ∨
    ((operator.name = projectionName ∨ registry.contains operator.name = true) ∧
      ∃ cause, registry.attempt operator = (registry, some cause)) := by
  unfold attempt register
  by_cases hreserved : operator.name = projectionName
  · rw [if_pos hreserved]
    exact .inr ⟨.inl hreserved, _, rfl⟩
  rw [if_neg hreserved]
  cases hthere : registry.contains operator.name with
  | true => exact .inr ⟨.inr rfl, _, rfl⟩
  | false => exact .inl ⟨hreserved, by simpa [contains] using hthere, rfl⟩

theorem attempt_refused_iff (registry : Registry) (operator : Operator) :
    (registry.attempt operator).2.isSome = true ↔
      operator.name = projectionName ∨ registry.contains operator.name = true := by
  rcases registry.attempt_cases operator with ⟨hreserved, hnew, ha⟩ | ⟨hrefused, _, ha⟩
  · simp [ha, hreserved, contains, hnew]
  · simp [ha, hrefused]

theorem attempt_of_refused {registry : Registry} {operator : Operator}
    (h : (registry.attempt operator).2.isSome = true) :
    (registry.attempt operator).1 = registry := by
  rcases registry.attempt_cases operator with ⟨-, -, ha⟩ | ⟨-, _, ha⟩
  · rw [ha] at h
    cases h
  · rw [ha]

@[simp] theorem attempts_nil (registry : Registry) : registry.attempts [] = registry := rfl

@[simp] theorem attempts_cons (registry : Registry) (operator : Operator) (rest : List Operator) :
    registry.attempts (operator :: rest) = (registry.attempt operator).1.attempts rest := rfl

/-- What gets in follows what was there, in the order of the attempts. -/
theorem operators_attempts (registry : Registry) (operators : List Operator) :
    (registry.attempts operators).operators =
      registry.operators ++ registry.accepted operators := by
  induction operators generalizing registry with
  | nil => simp [accepted]
  | cons operator rest ih =>
    rw [attempts_cons, accepted, ih]
    rcases registry.attempt_cases operator with ⟨-, -, ha⟩ | ⟨-, _, ha⟩
    · rw [ha]
      exact List.append_assoc ..
    · rw [ha]

theorem accepted_sublist (registry : Registry) (operators : List Operator) :
    (registry.accepted operators).Sublist operators := by
  induction operators generalizing registry with
  | nil => exact .slnil
  | cons operator rest ih =>
    rw [accepted]
    rcases registry.attempt_cases operator with ⟨-, -, ha⟩ | ⟨-, _, ha⟩
    · rw [ha]
      exact (ih _).cons_cons _
    · rw [ha]
      exact (ih _).cons _

/-! ### Names -/

/-- Names are distinct, and that of projections is not among them. -/
structure Proper (registry : Registry) : Prop where
  nodup : (registry.operators.map Operator.name).Nodup
  unreserved : projectionName ∉ registry.operators.map Operator.name

theorem proper_empty : Proper .empty := ⟨by decide, by decide⟩

theorem proper_standard : Proper .standard := ⟨by decide, by decide⟩

theorem not_mem_names {registry : Registry} {name : String} (h : registry.get? name = none) :
    name ∉ registry.operators.map Operator.name := by
  intro hmem
  obtain ⟨operator, ho, rfl⟩ := List.mem_map.1 hmem
  exact List.find?_eq_none.1 h operator ho (beq_self_eq_true _)

theorem Proper.attempt {registry : Registry} (h : registry.Proper) (operator : Operator) :
    (registry.attempt operator).1.Proper := by
  rcases registry.attempt_cases operator with ⟨hreserved, hnew, ha⟩ | ⟨-, _, ha⟩
  · rw [ha]
    constructor
    · rw [List.map_append, List.map_singleton, ← List.concat_eq_append]
      exact h.nodup.concat (not_mem_names hnew)
    · rw [List.map_append, List.mem_append]
      rintro (hmem | hmem)
      · exact h.unreserved hmem
      · exact hreserved (List.mem_singleton.1 hmem).symm
  · rw [ha]
    exact h

theorem Proper.attempts {registry : Registry} (h : registry.Proper) (operators : List Operator) :
    (registry.attempts operators).Proper := by
  induction operators generalizing registry with
  | nil => exact h
  | cons operator rest ih => exact ih (h.attempt operator)

/-! ### Resolution in a larger registry -/

/-- Every operator of one registry is found under its name in the other. -/
def Within (small large : Registry) : Prop :=
  ∀ name operator, small.get? name = some operator → large.get? name = some operator

theorem within_attempts (registry : Registry) (operators : List Operator) :
    registry.Within (registry.attempts operators) := by
  intro name operator h
  rw [get?, operators_attempts, List.find?_append]
  rw [get?] at h
  rw [h, Option.some_or]

/-- What succeeds, succeeds again with the same path. -/
def Lasts (before after : Except ResolveError Path) : Prop :=
  ∀ path, before = .ok path → after = .ok path

theorem Lasts.projected {source source' element element' : Except ResolveError Path}
    (hs : Lasts source source') (he : Lasts element element') :
    Lasts (projected source element) (projected source' element') := by
  intro path h
  obtain ⟨front, back, hfront, hback, hj⟩ := projected_eq_ok_iff.1 h
  exact projected_eq_ok_iff.2 ⟨front, back, hs front hfront, he back hback, hj⟩

variable {small large : Registry}

theorem Lasts.called (hw : small.Within large) {base : Expr} {method : String}
    {arguments : List Expr} {source source' : Except ResolveError Path}
    (hs : Lasts source source') :
    Lasts (small.called base method arguments source)
      (large.called base method arguments source') := by
  intro path h
  obtain ⟨operator, front, a, hm, hfront, ha, hpath⟩ := called_eq_ok_iff.1 h
  exact called_eq_ok_iff.2
    ⟨operator, front, a, hw method operator hm, hs front hfront, ha, hpath⟩

theorem resolveFrom_within (hw : small.Within large) (parameter : String) (e : Expr) :
    Lasts (small.resolveFrom parameter e) (large.resolveFrom parameter e) := by
  induction parameter, e using Registry.resolveFrom.induct small with
  | case1 n =>
    intro path h
    rwa [Registry.resolveFrom] at h ⊢
  | case2 parameter n hne =>
    intro path h
    rwa [Registry.resolveFrom] at h ⊢
  | case3 parameter base field ih =>
    intro path h
    rw [Registry.resolveFrom] at h ⊢
    obtain ⟨front, hfront, h⟩ := bind_eq_ok_iff.1 h
    rw [ih front hfront]
    exact h
  | case4 parameter base parameters body ih ihBody =>
    simp only [Registry.resolveFrom, if_true]
    refine Lasts.projected ih ?_
    rcases parameters with _ | ⟨inner, _ | ⟨second, others⟩⟩
    · exact fun _ h => h
    · exact ihBody inner
    · exact fun _ h => h
  | case5 parameter base method parameters body hne ih =>
    simp only [Registry.resolveFrom, if_neg hne]
    exact Lasts.called hw ih
  | case6 parameter base method arguments hne ih =>
    rw [Registry.resolveFrom, Registry.resolveFrom]
    · exact Lasts.called hw ih
    all_goals exact hne
  | case7 parameter other hname hmember hcall =>
    intro path h
    rw [Registry.resolveFrom] at h
    · cases h
    all_goals assumption

theorem resolveInclude_within (hw : small.Within large) (e : Expr) :
    Lasts (small.resolveInclude e) (large.resolveInclude e) := by
  intro path h
  obtain ⟨p, body, he, hfrom, htext⟩ := resolveInclude_eq_ok_iff.1 h
  exact resolveInclude_eq_ok_iff.2
    ⟨p, body, he, resolveFrom_within hw p body path hfrom, htext⟩

/-- Whatever is attempted on an empty or a standard registry, its names are distinct and not that
of projections. Attempts at such names, and no others, are refused and change nothing; what gets
in stays in order. Includes that resolve keep their paths whatever is attempted afterwards. -/
theorem resolveInclude_after_attempts (base : Registry) (hbase : base = .empty ∨ base = .standard)
    (earlier : List Operator) :
    let registry := base.attempts earlier
    (registry.operators.map Operator.name).Nodup ∧
      projectionName ∉ registry.operators.map Operator.name ∧
      (∀ operator, ((registry.attempt operator).2.isSome = true ↔
          operator.name = projectionName ∨ registry.contains operator.name = true) ∧
        ((registry.attempt operator).2.isSome = true →
          (registry.attempt operator).1 = registry)) ∧
      registry.operators = base.operators ++ base.accepted earlier ∧
      (base.accepted earlier).Sublist earlier ∧
      ∀ later e path, registry.resolveInclude e = .ok path →
        (registry.attempts later).resolveInclude e = .ok path := by
  intro registry
  have hproper : base.Proper := by
    rcases hbase with rfl | rfl
    · exact proper_empty
    · exact proper_standard
  obtain ⟨hnodup, hunreserved⟩ := hproper.attempts earlier
  refine ⟨hnodup, hunreserved,
    fun operator => ⟨attempt_refused_iff registry operator, attempt_of_refused⟩,
    operators_attempts base earlier, accepted_sublist base earlier, fun later e path => ?_⟩
  exact resolveInclude_within (within_attempts registry later) e path

/-- Of three attempts one succeeds; its name cannot be had again, and an include that uses it
inside and outside of a projection keeps its path. -/
theorem resolveInclude_after_nearest :
    let earlier : List Operator := [⟨"Take", ["n"]⟩, ⟨"Nearest", ["count"]⟩, ⟨"Select", []⟩]
    let later : List Operator := [⟨"Nearest", []⟩, ⟨"Last", ["count"]⟩]
    let registry := Registry.standard.attempts earlier
    let e := Expr.lambda ["x"] (.call (.call (.member (.name "x") "Posts") "Nearest" [.integer 3])
      "Select" [.lambda ["p"] (.call (.member (.name "p") "Tags") "Nearest" [.integer 3])])
    let path : Path := ⟨some "Posts.Nearest.Tags.Nearest", [⟨"Nearest", [("count", .integer 3)]⟩],
      [(1, 0), (3, 0)]⟩
    (Registry.standard = .empty ∨ Registry.standard = .standard) ∧
      Registry.standard.accepted earlier = [⟨"Nearest", ["count"]⟩] ∧
      (registry.attempt ⟨"Nearest", []⟩).2.isSome = true ∧
      (registry.attempt ⟨"Nearest", []⟩).1 = registry ∧
      registry.resolveInclude e = .ok path ∧
      (registry.attempts later).resolveInclude e = .ok path := by
  intro earlier later registry e path
  have hbase : Registry.standard = .empty ∨ Registry.standard = .standard := .inr rfl
  have h : registry.resolveInclude e = .ok path := rfl
  have hrefused : (registry.attempt ⟨"Nearest", []⟩).2.isSome = true := by decide
  obtain ⟨-, -, hattempt, -, -, hlasts⟩ := resolveInclude_after_attempts .standard hbase earlier
  exact ⟨hbase, by decide, hrefused, (hattempt _).2 hrefused, h, hlasts later e path h⟩

end Registry

end Projections
