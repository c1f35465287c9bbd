import Projections.Proofs.Include.Path
import Projections.Proofs.Include.Resolution

/-! Includes as sequences of steps. The steps of an include body are read off the
expression in source order; a resolved path has one segment for each of them, and at
the segments of operators finds the operators of those very calls. -/

namespace Projections

open Result (bind_eq_ok_iff)

namespace Include

/-! ### Steps -/

/-- A step of an include: to a member, or through an operator with its arguments. -/
inductive Step where
  | member (name : String)
  | operator (method : String) (arguments : List Expr)

namespace Step

def name : Step → String
  | .member name => name
  | .operator method _ => method

/-- What a call is given. -/
def arguments : Step → List Expr
  | .member _ => []
  | .operator _ arguments => arguments

/-- The text of a path shows the step: no dot is in its name, and what it is given equals
itself. -/
def Clear (registry : Registry) : Step → Prop
  | .member name => '.' ∉ name.toList
  | .operator method arguments =>
    (registry.contains method = true → '.' ∉ method.toList) ∧
      ∀ x, .float x ∈ arguments → x.isNaN = false

end Step

/-- A literal that some call is given. -/
def Given (steps : List Step) (literal : Literal) : Prop :=
  ∃ step ∈ steps, literal.toExpr ∈ step.arguments

theorem Given.left {steps more : List Step} {literal : Literal} (h : Given steps literal) :
    Given (steps ++ more) literal := by
  obtain ⟨step, hs, hl⟩ := h
  exact ⟨step, List.mem_append_left _ hs, hl⟩

theorem Given.right {steps more : List Step} {literal : Literal} (h : Given more literal) :
    Given (steps ++ more) literal := by
  obtain ⟨step, hs, hl⟩ := h
  exact ⟨step, List.mem_append_right _ hs, hl⟩

/-- Steps and then more of them, where there are both. -/
def followed (steps more : Option (List Step)) : Option (List Step) := do
  return (← steps) ++ (← more)

/-- The steps of a chain that starts at a parameter, in source order. A projection goes on
with the steps of its function's body. -/
def steps? : (parameter : String) → Expr → Option (List Step)
  | parameter, .name n => if n = parameter then some [] else none
  | parameter, .member base field => followed (steps? parameter base) (some [.member field])
  | parameter, .call base method arguments =>
    let steps := steps? parameter base
    match arguments with
    | [.lambda parameters body] =>
      if method = projectionName then
        followed steps (match parameters with
          | [inner] => steps? inner body
          | _ => none)
      else followed steps (some [.operator method arguments])
    | arguments => followed steps (some [.operator method arguments])
  | _, _ => none

/-- No member name on the chain contains a dot, and no argument is a non-number. -/
def Plain : Expr → Prop
  | .member base field => Plain base ∧ '.' ∉ field.toList
  | .call base _ arguments =>
    Plain base ∧ match arguments with
      | [.lambda _ body] => Plain body
      | arguments => ∀ x, .float x ∈ arguments → x.isNaN = false
  | _ => True

/-- What a call of an operator applies: its name, and the literals it is called with by the
parameters, each parameter once and with its last literal. -/
structure IsApplication (operator : Operator) (arguments : List Expr) (a : Application) : Prop where
  named : a.operator = operator.name
  ordered : Fields.Ordered a.arguments
  bound : ∃ literals : List Literal, arguments = literals.map Literal.toExpr ∧
    literals.length = operator.parameters.length ∧
    ∀ parameter, Fields.get? parameter a.arguments =
      (operator.parameters.zip literals).reverse.lookup parameter

/-- What a path finds at a step: at an operator the application of that call, up to the
equality of literals, and else nothing. -/
def Finds (registry : Registry) (found : Option Application) : Option Step → Prop
  | some (.operator method arguments) => ∃ operator a b, registry.get? method = some operator ∧
      IsApplication operator arguments a ∧ found = some b ∧ b.agrees a = true
  | _ => found = none

theorem name_of_get? {registry : Registry} {name : String} {operator : Operator}
    (h : registry.get? name = some operator) : operator.name = name := by
  have := List.find?_some h
  exact eq_of_beq this

/-- What is found again, up to the equality of literals, is what was called for. -/
theorem Finds.of_agrees {registry : Registry} {found again : Option Application}
    {step : Option Step} (h : Finds registry found step) (hnone : found = none → again = none)
    (hsome : ∀ a, found = some a → ∃ b, again = some b ∧ b.agrees a = true) :
    Finds registry again step := by
  match step, h with
  | some (.operator method arguments), ⟨operator, a, b, hm, ha, hb, hagrees⟩ =>
    obtain ⟨c, hc, hcb⟩ := hsome b hb
    exact ⟨operator, a, c, hm, ha, hc, Application.agrees_trans hcb hagrees⟩
  | some (.member _), h => exact hnone h
  | none, h => exact hnone h

/-! ### What a path knows of its steps -/

/-- The invariant of resolution: one segment a step, no literal that no step is given,
placements inside the path, and at every segment what its step calls for. -/
structure Follows (registry : Registry) (path : Path) (steps : List Step) : Prop where
  segments : path.segments = steps.map Step.name
  proper : ∀ a ∈ path.applications, a.Proper
  given : ∀ a ∈ path.applications, ∀ entry ∈ a.arguments, Given steps entry.2
  segment_lt : ∀ p ∈ path.placements, p.1 < steps.length
  index_lt : ∀ p ∈ path.placements, p.2 < path.applications.length
  finds : ∀ i, Finds registry (path.operatorAt? i) steps[i]?

namespace Follows

variable {registry : Registry} {path : Path} {steps : List Step}

theorem length_segments (h : Follows registry path steps) :
    path.segments.length = steps.length := by
  rw [h.segments, List.length_map]

theorem root : Follows registry .root [] where
  segments := rfl
  proper := by simp [Path.root]
  given := by simp [Path.root]
  segment_lt := by simp [Path.root]
  index_lt := by simp [Path.root]
  finds _ := rfl

/-- What is found past the last step. -/
theorem finds_last (h : Follows registry path steps) :
    path.operatorAt? steps.length = none := by
  have hf := h.finds steps.length
  rwa [List.getElem?_eq_none (Nat.le_refl _)] at hf

theorem member (h : Follows registry path steps) {name : String} (hn : '.' ∉ name.toList) :
    Follows registry (path.member name) (steps ++ [.member name]) where
  segments := by rw [Path.segments_of_extended hn rfl, h.segments, List.map_append]; rfl
  proper := h.proper
  given a ha entry he := (h.given a ha entry he).left
  segment_lt p hp := by
    rw [List.length_append]
    exact Nat.lt_add_right _ (h.segment_lt p hp)
  index_lt := h.index_lt
  finds i := by
    change Finds registry (path.operatorAt? i) _
    rcases Nat.lt_trichotomy i steps.length with hlt | rfl | hgt
    · rw [List.getElem?_append_left hlt]
      exact h.finds i
    · rw [List.getElem?_concat_length]
      exact h.finds_last
    · have hf := h.finds i
      rw [List.getElem?_eq_none (by omega)] at hf
      rwa [List.getElem?_eq_none (by simp; omega)]

theorem apply (h : Follows registry path steps) {operator : Operator} {method : String}
    {arguments : List Expr} {a : Application} (hm : registry.get? method = some operator)
    (hn : '.' ∉ operator.name.toList) (ha : IsApplication operator arguments a)
    (hp : a.Proper) (hl : ∀ entry ∈ a.arguments, entry.2.toExpr ∈ arguments) :
    Follows registry (path.apply a) (steps ++ [.operator method arguments]) where
  segments := by
    have hname : a.operator = method := ha.named.trans (name_of_get? hm)
    rw [Path.segments_of_extended (ha.named ▸ hn) rfl, h.segments, List.map_append, hname]
    rfl
  proper b hb := by
    rcases List.mem_cons.1 hb with rfl | hb
    · exact hp
    · exact h.proper b hb
  given b hb entry he := by
    rcases List.mem_cons.1 hb with rfl | hb
    · exact .right ⟨_, List.mem_singleton_self _, hl entry he⟩
    · exact (h.given b hb entry he).left
  segment_lt p hp := by
    rw [List.length_append, List.length_singleton]
    rcases List.mem_append.1 hp with hp | hp
    · obtain ⟨q, hq, rfl⟩ := List.mem_map.1 hp
      exact Nat.lt_succ_of_lt (h.segment_lt q hq)
    · rw [List.mem_singleton.1 hp, h.length_segments]
      exact Nat.lt_succ_self _
  index_lt p hp := by
    rcases List.mem_append.1 hp with hp | hp
    · obtain ⟨q, hq, rfl⟩ := List.mem_map.1 hp
      exact Nat.succ_lt_succ (h.index_lt q hq)
    · rw [List.mem_singleton.1 hp]
      exact Nat.zero_lt_succ _
  finds i := by
    rw [Path.operatorAt?_apply a (by rw [h.length_segments]; exact h.segment_lt),
      h.length_segments]
    split_ifs with hi
    · subst hi
      rw [List.getElem?_concat_length]
      exact ⟨operator, a, a, hm, ha, rfl, Application.agrees_self hp⟩
    · have hf := h.finds i
      rcases Nat.lt_or_gt_of_ne hi with hlt | hgt
      · rwa [List.getElem?_append_left hlt]
      · rw [List.getElem?_eq_none (by omega)] at hf
        rwa [List.getElem?_eq_none (by simp; omega)]

theorem join {element next : Path} {more : List Step} (h : Follows registry path steps)
    (he : Follows registry element more) (hj : path.join? element = some next) :
    Follows registry next (steps ++ more) := by
  obtain ⟨front, back, hfront, hback, htext, happ, hpl⟩ := Path.join?_eq_some hj
  obtain ⟨⟨added, hadded⟩, hmerge⟩ := Path.merge_spec he.proper path.applications
  have hlt : ∀ p ∈ path.placements, p.1 < path.segments.length := by
    rw [h.length_segments]
    exact h.segment_lt
  refine ⟨?segments, ?proper, ?given, ?segment_lt, ?index_lt, fun i => ?finds⟩
  case segments =>
    rw [Path.segments_of_joined hfront hback htext, h.segments, he.segments, List.map_append]
  case proper =>
    intro a ha
    rw [happ] at ha
    exact (Path.mem_merge ha).elim (h.proper a) (he.proper a)
  case given =>
    intro a ha entry hentry
    rw [happ] at ha
    rcases Path.mem_merge ha with ha | ha
    · exact (h.given a ha entry hentry).left
    · exact (he.given a ha entry hentry).right
  case segment_lt =>
    intro p hp
    rw [hpl, List.mem_append] at hp
    rw [List.length_append]
    rcases hp with hp | hp
    · exact Nat.lt_add_right _ (h.segment_lt p hp)
    · obtain ⟨q, hq, hpq, -⟩ := Path.mem_moved hp
      rw [hpq, h.length_segments]
      exact Nat.add_lt_add_left (he.segment_lt q hq) _
  case index_lt =>
    intro p hp
    rw [hpl, List.mem_append] at hp
    rw [happ]
    rcases hp with hp | hp
    · rw [hadded, List.length_append]
      exact Nat.lt_add_right _ (h.index_lt p hp)
    · obtain ⟨q, hq, -, hindex⟩ := Path.mem_moved hp
      obtain ⟨index, b, hindex', hb, -⟩ :=
        hmerge q.2 _ (List.getElem?_eq_getElem (he.index_lt q hq))
      obtain rfl : p.2 = index := Option.some.inj (hindex.symm.trans hindex')
      exact (List.getElem?_eq_some_iff.1 hb).1
  case finds =>
    rcases Nat.lt_or_ge i steps.length with hi | hi
    · rw [List.getElem?_append_left hi, Path.operatorAt?_join_left hj h.index_lt he.proper
        (by rwa [h.length_segments])]
      exact h.finds i
    · obtain ⟨k, rfl⟩ := Nat.exists_eq_add_of_le hi
      obtain ⟨hnone, hsome⟩ := Path.operatorAt?_join_right hj hlt he.index_lt he.proper k
      rw [h.length_segments] at hnone hsome
      rw [List.getElem?_append_right hi, Nat.add_sub_cancel_left]
      exact (he.finds k).of_agrees hnone hsome

end Follows

/-! ### Calls of operators -/

theorem toExpr_of_literal? {e : Expr} {literal : Literal} (h : e.literal? = some literal) :
    e = literal.toExpr := by
  cases e <;> cases h <;> rfl

/-- Arguments are bound when all are literals, each to its parameter. -/
theorem bindArguments_eq_ok {operator : Operator} {parameters : List String}
    {arguments : List Expr} {bound : List (String × Literal)}
    (hl : arguments.length = parameters.length)
    (h : operator.bindArguments (parameters.zip arguments) = .ok bound) :
    ∃ literals : List Literal, arguments = literals.map Literal.toExpr ∧
      literals.length = parameters.length ∧ bound = parameters.zip literals := by
  induction arguments generalizing parameters bound with
  | nil =>
    obtain rfl := List.length_eq_zero_iff.1 hl.symm
    cases h
    exact ⟨[], rfl, rfl, rfl⟩
  | cons e rest ih =>
    obtain ⟨parameter, parameters, rfl⟩ := List.exists_cons_of_length_eq_add_one hl.symm
    rw [List.zip_cons_cons, Operator.bindArguments] at h
    split at h
    · next literal he =>
      simp only [bind_eq_ok_iff] at h
      obtain ⟨more, hmore, h⟩ := h
      cases h
      obtain ⟨literals, rfl, hlen, rfl⟩ := ih (Nat.succ.inj hl) hmore
      exact ⟨literal :: literals, by rw [toExpr_of_literal? he, List.map_cons],
        congrArg Nat.succ hlen, rfl⟩
    · cases h

theorem applyTo_eq_ok {operator : Operator} {arguments : List Expr} {a : Application}
    (h : operator.applyTo arguments = .ok a) : IsApplication operator arguments a := by
  unfold Operator.applyTo at h
  split_ifs at h with hl
  simp only [bind_eq_ok_iff] at h
  obtain ⟨bound, hbound, h⟩ := h
  cases h
  obtain ⟨literals, harguments, hlen, rfl⟩ := bindArguments_eq_ok hl hbound
  exact ⟨rfl, Fields.ordered_ofList _, literals, harguments, hlen,
    fun parameter => Fields.get?_ofList parameter _⟩

/-- The literals of an application are among those of its call. -/
theorem mem_of_applyTo {operator : Operator} {arguments : List Expr} {a : Application}
    (h : operator.applyTo arguments = .ok a) {entry : String × Literal}
    (he : entry ∈ a.arguments) : entry.2.toExpr ∈ arguments := by
  unfold Operator.applyTo at h
  split_ifs at h with hl
  simp only [bind_eq_ok_iff] at h
  obtain ⟨bound, hbound, h⟩ := h
  cases h
  obtain ⟨literals, rfl, -, rfl⟩ := bindArguments_eq_ok hl hbound
  exact List.mem_map_of_mem (List.of_mem_zip (Fields.mem_of_mem_ofList he)).2

theorem proper_of_applyTo {operator : Operator} {arguments : List Expr} {a : Application}
    (h : operator.applyTo arguments = .ok a)
    (hn : ∀ x, .float x ∈ arguments → x.isNaN = false) : a.Proper := by
  intro entry he
  have hm := mem_of_applyTo h he
  cases hx : entry.2 with
  | float x => exact hn x (by rwa [hx] at hm)
  | _ => trivial

/-! ### Resolution -/

section Resolution

variable {registry : Registry}

/-- A resolution that succeeds does so for a chain of steps, and its path follows them if
they are clear. -/
def Leads (registry : Registry) (path : Except ResolveError Path)
    (steps : Option (List Step)) : Prop :=
  ∀ p, path = .ok p →
    ∃ s, steps = some s ∧ ((∀ step ∈ s, step.Clear registry) → Follows registry p s)

theorem leads_called {base : Expr} {method : String} {arguments : List Expr}
    {source : Except ResolveError Path} {steps : Option (List Step)}
    (hs : Leads registry source steps) :
    Leads registry (registry.called base method arguments source)
      (followed steps (some [.operator method arguments])) := by
  intro path h
  obtain ⟨operator, front, a, hm, hfront, ha, rfl⟩ := Registry.called_eq_ok_iff.1 h
  obtain ⟨s, rfl, hf⟩ := hs front hfront
  refine ⟨_, rfl, fun hclear => ?_⟩
  obtain ⟨hdots, hn⟩ := hclear (.operator method arguments)
    (List.mem_append_right _ (List.mem_singleton_self _))
  have hnamed : '.' ∉ operator.name.toList := by
    rw [name_of_get? hm]
    exact hdots (by rw [Registry.contains, hm, Option.isSome_some])
  exact (hf fun step hstep => hclear step (List.mem_append_left _ hstep)).apply hm hnamed
    (applyTo_eq_ok ha) (proper_of_applyTo ha hn) fun _ => mem_of_applyTo ha

theorem leads_projected {source element : Except ResolveError Path}
    {steps more : Option (List Step)} (hs : Leads registry source steps)
    (he : Leads registry element more) :
    Leads registry (projected source element) (followed steps more) := by
  intro path h
  obtain ⟨front, back, hfront, hback, hj⟩ := projected_eq_ok_iff.1 h
  obtain ⟨s, rfl, hf⟩ := hs front hfront
  obtain ⟨t, rfl, hb⟩ := he back hback
  refine ⟨_, rfl, fun hclear => ?_⟩
  exact (hf fun step hstep => hclear step (List.mem_append_left _ hstep)).join
    (hb fun step hstep => hclear step (List.mem_append_right _ hstep)) hj

/-- What resolution finds is a chain of steps. -/
theorem leads_steps (registry : Registry) (parameter : String) (e : Expr) :
    Leads registry (registry.resolveFrom parameter e) (steps? parameter e) := by
  induction parameter, e using Registry.resolveFrom.induct registry with
  | case1 n =>
    rw [Registry.resolveFrom, if_pos rfl, steps?, if_pos rfl]
    rintro path ⟨⟩
    exact ⟨[], rfl, fun _ => .root⟩
  | case2 parameter n hne =>
    rw [Registry.resolveFrom, if_neg hne]
    rintro path ⟨⟩
  | case3 parameter base field ih =>
    intro path h
    simp only [Registry.resolveFrom, bind_eq_ok_iff] at h
    obtain ⟨front, hfront, h⟩ := h
    cases h
    obtain ⟨steps, hsteps, hf⟩ := ih front hfront
    refine ⟨steps ++ [.member field], by rw [steps?, hsteps]; rfl, fun hclear => ?_⟩
    have hn := hclear (.member field) (List.mem_append_right _ (List.mem_singleton_self _))
    exact (hf fun step hstep => hclear step (List.mem_append_left _ hstep)).member hn
  | case4 parameter base parameters body ih ihBody =>
    simp only [Registry.resolveFrom, steps?, if_true]
    refine leads_projected ih ?_
    rcases parameters with _ | ⟨inner, _ | ⟨second, others⟩⟩
    · rintro path ⟨⟩
    · exact ihBody inner
    · rintro path ⟨⟩
  | case5 parameter base method parameters body hne ih =>
    simp only [Registry.resolveFrom, steps?, if_neg hne]
    exact leads_called ih
  | case6 parameter base method arguments hne ih =>
    rw [Registry.resolveFrom, steps?]
    · exact leads_called ih
    all_goals exact hne
  | case7 parameter other hname hmember hcall =>
    cases other with
    | name n => exact absurd rfl (hname n)
    | member base field => exact absurd rfl (hmember base field)
    | call base method arguments => exact absurd rfl (hcall base method arguments)
    | _ => rintro path ⟨⟩

theorem followed_eq_some {steps more : Option (List Step)} {all : List Step}
    (h : followed steps more = some all) :
    ∃ front back, steps = some front ∧ more = some back ∧ all = front ++ back := by
  cases steps <;> cases more <;> cases h
  exact ⟨_, _, rfl, rfl, rfl⟩

/-- The steps of a plain chain are clear, if no operator has a dot in its name. -/
theorem clear_of_plain
    (hdots : ∀ operator ∈ registry.operators, '.' ∉ operator.name.toList) {parameter : String}
    {e : Expr} {steps : List Step} (hs : steps? parameter e = some steps) (hp : Plain e) :
    ∀ step ∈ steps, step.Clear registry := by
  have hoperator : ∀ {method : String}, registry.contains method = true → '.' ∉ method.toList := by
    intro method hm
    obtain ⟨operator, ho⟩ := Option.isSome_iff_exists.1 hm
    rw [← name_of_get? ho]
    exact hdots operator (List.mem_of_find?_eq_some ho)
  induction parameter, e using Registry.resolveFrom.induct registry generalizing steps with
  | case1 n =>
    rw [steps?, if_pos rfl] at hs
    cases hs
    simp
  | case2 parameter n hne =>
    rw [steps?, if_neg hne] at hs
    cases hs
  | case3 parameter base field ih =>
    rw [steps?] at hs
    obtain ⟨front, back, hfront, hback, rfl⟩ := followed_eq_some hs
    cases hback
    exact List.forall_mem_append.2 ⟨ih hfront hp.1, List.forall_mem_singleton.2 hp.2⟩
  | case4 parameter base parameters body ih ihBody =>
    simp only [steps?, if_true] at hs
    obtain ⟨front, back, hfront, hback, rfl⟩ := followed_eq_some hs
    refine List.forall_mem_append.2 ⟨ih hfront hp.1, ?_⟩
    rcases parameters with _ | ⟨inner, _ | ⟨second, others⟩⟩
    · cases hback
    · exact ihBody inner hback hp.2
    · cases hback
  | case5 parameter base method parameters body hne ih =>
    simp only [steps?, if_neg hne] at hs
    obtain ⟨front, back, hfront, hback, rfl⟩ := followed_eq_some hs
    cases hback
    exact List.forall_mem_append.2 ⟨ih hfront hp.1,
      List.forall_mem_singleton.2 ⟨hoperator, by simp⟩⟩
  | case6 parameter base method arguments hne ih =>
    rw [steps?] at hs
    · obtain ⟨front, back, hfront, hback, rfl⟩ := followed_eq_some hs
      cases hback
      rw [Plain] at hp
      · exact List.forall_mem_append.2 ⟨ih hfront hp.1,
          List.forall_mem_singleton.2 ⟨hoperator, hp.2⟩⟩
      · exact hne
    · exact hne
  | case7 _ _ hname hmember hcall =>
    rw [steps?] at hs
    · cases hs
    · exact hname
    · exact hmember
    · exact hcall

/-- The path of a plain chain follows its steps. -/
theorem leads_resolveFrom
    (hdots : ∀ operator ∈ registry.operators, '.' ∉ operator.name.toList)
    (parameter : String) (e : Expr) (hp : Plain e) (path : Path)
    (h : registry.resolveFrom parameter e = .ok path) :
    ∃ steps, steps? parameter e = some steps ∧ Follows registry path steps := by
  obtain ⟨steps, hs, hf⟩ := leads_steps registry parameter e path h
  exact ⟨steps, hs, hf (clear_of_plain hdots hs hp)⟩

/-- A function that resolves is a chain of steps from its one parameter: the path has a
segment for each, and finds at each what was called for there. -/
theorem segments_and_operators_of_resolve (registry : Registry) (f : Lambda)
    (hdots : ∀ operator ∈ registry.operators, '.' ∉ operator.name.toList)
    (hp : Plain f.body) {path : Path} (h : registry.resolve f = .ok path) :
    ∃ parameter steps, f.parameters = [parameter] ∧ steps? parameter f.body = some steps ∧
      path.segments = steps.map Step.name ∧
      ∀ i, Finds registry (path.operatorAt? i) steps[i]? := by
  obtain ⟨parameters, body⟩ := f
  unfold Registry.resolve at h
  rcases parameters with _ | ⟨parameter, _ | ⟨second, others⟩⟩
  · cases h
  · obtain ⟨steps, hsteps, hf⟩ := leads_resolveFrom hdots parameter body hp path h
    exact ⟨parameter, steps, rfl, hsteps, hf.segments, hf.finds⟩
  · cases h

/-- One operator with one argument at two depths: joining keeps it once. -/
theorem segments_and_operators_of_takes :
    let e := Expr.call (.call (.member (.name "x") "Posts") "Take" [.integer 5]) "Select"
      [.lambda ["p"] (.call (.member (.name "p") "Tags") "Take" [.integer 5])]
    let path : Path := ⟨some "Posts.Take.Tags.Take", [⟨"Take", [("count", .integer 5)]⟩],
      [(1, 0), (3, 0)]⟩
    Registry.standard.resolve ⟨["x"], e⟩ = .ok path ∧
      ∃ parameter steps, ["x"] = [parameter] ∧ steps? parameter e = some steps ∧
        path.segments = steps.map Step.name ∧
        ∀ i, Finds .standard (path.operatorAt? i) steps[i]? := by
  intro e path
  have h : Registry.standard.resolve ⟨["x"], e⟩ = .ok path := rfl
  refine ⟨h, segments_and_operators_of_resolve .standard ⟨["x"], e⟩ ?_ ?_ h⟩
  · decide
  · simp [e, Plain]

end Resolution

end Include

end Projections
