import Projections.Document.Generation
import Projections.Proofs.Include.Steps

/-! The fields that a document has for an include. Every member step is one field, in order;
the calls after a member are its field's arguments, and the calls before the first member
become arguments of the root field, unless they are there already. -/

namespace Projections

/-! ### Applications that agree -/

namespace Application

variable {a b : Application}

/-- What the text of an argument's value is made of. -/
def spelled (a : Application) : List (String × String) :=
  a.arguments.map fun entry => (entry.1, entry.2.text)

theorem valueText_congr (h : a.spelled = b.spelled) : a.valueText = b.valueText := by
  have hspelled : ∀ {c : Application} {x y : String × Literal} {rest : List (String × Literal)},
      c.arguments = x :: y :: rest → c.valueText =
        "\x7b" ++ separated (c.spelled.map fun entry => entry.1 ++ ": " ++ entry.2) ++ "\x7d" := by
    intro c x y rest hc
    rw [valueText, spelled, List.map_map, hc]
    rfl
  rcases ha : a.arguments with _ | ⟨x, _ | ⟨y, xs⟩⟩ <;>
    rcases hb : b.arguments with _ | ⟨z, _ | ⟨w, zs⟩⟩
  case cons.cons.cons.cons => rw [hspelled ha, hspelled hb, h]
  all_goals
    rw [spelled, spelled, ha, hb] at h
    simp_all [valueText]

/-- Applications that agree become one argument, if their literals have one text. -/
theorem fieldArgument_congr (h : a.agrees b = true)
    (ht : ∀ x ∈ a.arguments, ∀ y ∈ b.arguments, x.2.agrees y.2 = true → x.2.text = y.2.text) :
    a.fieldArgument = b.fieldArgument := by
  obtain ⟨ho, harguments⟩ := agrees_iff.1 h
  have hs : a.spelled = b.spelled := by
    unfold spelled
    generalize a.arguments = xs at harguments ht
    generalize b.arguments = ys at harguments ht
    induction harguments with
    | nil => rfl
    | cons hxy _ ih =>
      have htext := ht _ (List.mem_cons_self ..) _ (List.mem_cons_self ..) hxy.2
      rw [List.map_cons, List.map_cons, hxy.1, htext,
        ih fun x hx y hy => ht x (List.mem_cons_of_mem _ hx) y (List.mem_cons_of_mem _ hy)]
  rw [fieldArgument, fieldArgument, ho, valueText_congr hs]

end Application

namespace Include

/-! ### Members and their calls -/

def Step.isOperator : Step → Bool
  | .member _ => false
  | .operator _ _ => true

/-- The calls before the first member. -/
def leading (steps : List Step) : List Step := steps.takeWhile Step.isOperator

/-- The members, each with the calls after it and before the next one. -/
def members : List Step → List (String × List Step)
  | [] => []
  | .member name :: rest => (name, leading rest) :: members rest
  | .operator _ _ :: rest => members rest

/-- Every step is in one place, and the places are in order. -/
theorem leading_append_members (steps : List Step) :
    leading steps ++ (members steps).flatMap (fun m => .member m.1 :: m.2) = steps := by
  induction steps with
  | nil => rfl
  | cons step rest ih =>
    cases step with
    | member name =>
      rw [members, List.flatMap_cons, List.cons_append, ih]
      rfl
    | operator method arguments =>
      exact congrArg (.operator method arguments :: ·) ih

/-- The argument that a call becomes. -/
def Yields (registry : Registry) : Step → FieldArgument → Prop
  | .member _, _ => False
  | .operator method arguments, argument => ∃ operator a, registry.get? method = some operator ∧
      IsApplication operator arguments a ∧ argument = a.fieldArgument

/-- The field of a member: its name in the spelling of the document, and an argument for
every call. -/
structure IsField (registry : Registry) (naming : Naming) (member : String × List Step)
    (field : FieldHead) : Prop where
  name : field.name = naming.apply member.1
  arguments : List.Forall₂ (Yields registry) member.2 field.arguments

/-- What the texts of a path and of its arguments show: no name has a dot, every literal
equals itself, and literals that are equal are printed alike. -/
structure Legible (steps : List Step) : Prop where
  dotless : ∀ step ∈ steps, '.' ∉ step.name.toList
  proper : ∀ literal, Given steps literal → literal.Proper
  printed : ∀ a b, Given steps a → Given steps b → a.agrees b = true → a.text = b.text

theorem Legible.clear {registry : Registry} {steps : List Step} (h : Legible steps) :
    ∀ step ∈ steps, step.Clear registry := by
  intro step hs
  cases step with
  | member name => exact h.dotless _ hs
  | operator method given =>
    exact ⟨fun _ => h.dotless _ hs, fun x hx => h.proper (.float x) ⟨_, hs, hx⟩⟩

/-! ### Growth -/

section Growth

variable {registry : Registry} {naming : Naming}

/-- A segment and what is found there show a step. -/
def Shows (registry : Registry) : String × Option Application → Step → Prop
  | entry, .member name => entry = (name, none)
  | entry, .operator method arguments => ∃ a, entry = (method, some a) ∧
      Yields registry (.operator method arguments) a.fieldArgument

/-- Once there is a field, calls go to the latest one. -/
theorem foldl_grow_field {entries : List (String × Option Application)} {steps : List Step}
    (h : List.Forall₂ (Shows registry) entries steps) (field : FieldHead)
    (fields : List FieldHead) (arguments : List FieldArgument) :
    ∃ heads added,
      entries.foldl (Path.grow naming) ⟨field :: fields, arguments⟩ =
        ⟨heads.reverse ++ ⟨field.name, field.arguments ++ added⟩ :: fields, arguments⟩ ∧
      List.Forall₂ (IsField registry naming) (members steps) heads ∧
      List.Forall₂ (Yields registry) (leading steps) added := by
  induction h generalizing field fields with
  | nil => exact ⟨[], [], by simp, .nil, .nil⟩
  | @cons entry step entries steps hstep _ ih =>
    cases step with
    | member name =>
      obtain rfl : entry = (name, none) := hstep
      obtain ⟨heads, added, hfold, hheads, hadded⟩ := ih (.leaf (naming.apply name))
        (field :: fields)
      refine ⟨⟨naming.apply name, added⟩ :: heads, [], ?_, .cons ⟨rfl, hadded⟩ hheads, .nil⟩
      rw [List.foldl_cons, Path.grow, hfold]
      simp [FieldHead.leaf]
    | operator method given =>
      obtain ⟨a, rfl, hy⟩ := hstep
      obtain ⟨heads, added, hfold, hheads, hadded⟩ := ih (field.withArgument a.fieldArgument) fields
      refine ⟨heads, a.fieldArgument :: added, ?_, hheads, .cons hy hadded⟩
      rw [List.foldl_cons]
      simp only [Path.grow]
      rw [hfold]
      simp [FieldHead.withArgument]

/-- Arguments that are not there yet, each once. -/
def unknown (known added : List FieldArgument) : List FieldArgument :=
  (added.filter fun argument => !known.contains argument).eraseDups

theorem unknown_cons_of_mem {known : List FieldArgument} {argument : FieldArgument}
    (h : known.contains argument = true) (added : List FieldArgument) :
    unknown known (argument :: added) = unknown known added := by
  rw [unknown, List.filter_cons_of_neg (by simpa using h), unknown]

theorem unknown_cons {known : List FieldArgument} {argument : FieldArgument}
    (h : known.contains argument = false) (added : List FieldArgument) :
    unknown known (argument :: added) =
      argument :: unknown (known ++ [argument]) added := by
  rw [unknown, List.filter_cons_of_pos (by rw [h]; rfl), List.eraseDups_cons, unknown,
    List.filter_filter]
  congr 3
  funext other
  by_cases ho : other = argument <;> simp [ho]

/-- Before there is a field, calls go to the root, which takes equal arguments once. -/
theorem foldl_grow_root {entries : List (String × Option Application)} {steps : List Step}
    (h : List.Forall₂ (Shows registry) entries steps) (arguments : List FieldArgument) :
    ∃ heads added,
      entries.foldl (Path.grow naming) ⟨[], arguments⟩ =
        ⟨heads.reverse, arguments ++ unknown arguments added⟩ ∧
      List.Forall₂ (IsField registry naming) (members steps) heads ∧
      List.Forall₂ (Yields registry) (leading steps) added := by
  induction h generalizing arguments with
  | nil => exact ⟨[], [], by simp [unknown], .nil, .nil⟩
  | @cons entry step entries steps hstep hrest ih =>
    cases step with
    | member name =>
      obtain rfl : entry = (name, none) := hstep
      obtain ⟨heads, added, hfold, hheads, hadded⟩ :=
        foldl_grow_field hrest (.leaf (naming.apply name)) [] arguments
      refine ⟨⟨naming.apply name, added⟩ :: heads, [], ?_, .cons ⟨rfl, hadded⟩ hheads, .nil⟩
      rw [List.foldl_cons, Path.grow, hfold]
      simp [FieldHead.leaf, unknown]
    | operator method given =>
      obtain ⟨a, rfl, hy⟩ := hstep
      rw [List.foldl_cons]
      simp only [Path.grow]
      cases hknown : arguments.contains a.fieldArgument with
      | true =>
        obtain ⟨heads, added, hfold, hheads, hadded⟩ := ih arguments
        refine ⟨heads, a.fieldArgument :: added, ?_, hheads, .cons hy hadded⟩
        rw [if_pos rfl, hfold, unknown_cons_of_mem hknown]
      | false =>
        obtain ⟨heads, added, hfold, hheads, hadded⟩ := ih (arguments ++ [a.fieldArgument])
        refine ⟨heads, a.fieldArgument :: added, ?_, hheads, .cons hy hadded⟩
        rw [if_neg Bool.false_ne_true, hfold, unknown_cons hknown, List.append_assoc]
        rfl

/-! ### Steps of a path -/

/-- The literals of an application are among those of its call. -/
theorem IsApplication.mem_arguments {operator : Operator} {given : List Expr} {a : Application}
    (h : IsApplication operator given a) {entry : String × Literal}
    (he : entry ∈ a.arguments) : entry.2.toExpr ∈ given := by
  obtain ⟨literals, rfl, -, hget⟩ := h.bound
  have hlookup := hget entry.1
  rw [Fields.get?_of_mem h.ordered he] at hlookup
  have hmem := List.mem_reverse.1 (Fields.mem_of_get? hlookup.symm)
  exact List.mem_map_of_mem (List.of_mem_zip hmem).2

theorem shows_of_follows {path : Path} {steps : List Step} (h : Follows registry path steps)
    (hl : Legible steps) : List.Forall₂ (Shows registry) path.steps steps := by
  have hlength : path.steps.length = steps.length := by
    rw [Path.steps, List.length_map, List.length_zipIdx, h.length_segments]
  refine List.forall₂_iff_get.2 ⟨hlength, fun i hi hi' => ?_⟩
  have hentry : path.steps.get ⟨i, hi⟩ = (steps[i].name, path.operatorAt? i) := by
    simp [Path.steps, h.segments]
  have hfinds := h.finds i
  rw [List.getElem?_eq_getElem hi'] at hfinds
  rw [hentry, List.get_eq_getElem]
  have hmem : steps[i] ∈ steps := List.getElem_mem hi'
  cases hstep : steps[i] with
  | member name =>
    rw [hstep] at hfinds
    rw [hfinds]
    rfl
  | operator method given =>
    rw [hstep] at hfinds hmem
    obtain ⟨operator, a, b, ho, ha, hb, hagrees⟩ := hfinds
    have hbmem : b ∈ path.applications := Path.mem_of_operatorAt? hb
    refine ⟨b, by rw [hb]; rfl, operator, a, ho, ha, ?_⟩
    refine Application.fieldArgument_congr hagrees fun x hx y hy => hl.printed _ _ ?_ ?_
    · exact h.given b hbmem x hx
    · exact ⟨_, hmem, ha.mem_arguments hy⟩

end Growth

/-- A function that resolves is a chain of steps, and the chain of its path has a field for
every member. The calls before the first member are new arguments of the root field. -/
theorem chain_of_resolve (registry : Registry) (f : Lambda) {path : Path}
    (h : registry.resolve f = .ok path) :
    ∃ parameter steps, f.parameters = [parameter] ∧ steps? parameter f.body = some steps ∧
      (Legible steps → ∀ (naming : Naming) (arguments : List FieldArgument), ∃ fields added,
        path.chain naming arguments = (fields, arguments ++ unknown arguments added) ∧
        List.Forall₂ (IsField registry naming) (members steps) fields ∧
        List.Forall₂ (Yields registry) (leading steps) added ∧
        leading steps ++ (members steps).flatMap (fun m => .member m.1 :: m.2) = steps) := by
  obtain ⟨parameters, body⟩ := f
  unfold Registry.resolve at h
  rcases parameters with _ | ⟨parameter, _ | ⟨second, others⟩⟩
  · cases h
  · obtain ⟨steps, hsteps, hf⟩ := leads_steps registry parameter body path h
    refine ⟨parameter, steps, rfl, hsteps, fun hl naming arguments => ?_⟩
    have hshows := shows_of_follows (hf hl.clear) hl
    obtain ⟨heads, added, hfold, hheads, hadded⟩ := foldl_grow_root hshows arguments
    refine ⟨heads, added, ?_, hheads, hadded, leading_append_members steps⟩
    rw [Path.chain, hfold, List.reverse_reverse]
  · cases h

/-- Calls on the root, on both sides of a projection and after it. -/
theorem chain_of_takes :
    let posts := Expr.call (.member (.call (.name "x") "Take" [.integer 3]) "Posts") "Take"
      [.integer 2]
    let comments := Expr.call (.member (.name "p") "Comments") "Take" [.integer 2]
    let e := Expr.call (.call posts "Select" [.lambda ["p"] comments]) "Take" [.integer 3]
    let take (n : Int64) : Application := ⟨"Take", [("count", .integer n)]⟩
    let path : Path := ⟨some "Take.Posts.Take.Comments.Take.Take", [take 3, take 2, take 3],
      [(0, 2), (2, 1), (4, 1), (5, 0)]⟩
    let call (n : Int64) : Step := .operator "Take" [.integer n]
    let steps := [call 3, .member "Posts", call 2, .member "Comments", call 2, call 3]
    Registry.standard.resolve ⟨["x"], e⟩ = .ok path ∧ steps? "x" e = some steps ∧
      Legible steps ∧ ∀ (naming : Naming) (arguments : List FieldArgument), ∃ fields added,
        path.chain naming arguments = (fields, arguments ++ unknown arguments added) ∧
        List.Forall₂ (IsField .standard naming) (members steps) fields ∧
        List.Forall₂ (Yields .standard) (leading steps) added ∧
        leading steps ++ (members steps).flatMap (fun m => .member m.1 :: m.2) = steps := by
  intro posts comments e take path call steps
  have h : Registry.standard.resolve ⟨["x"], e⟩ = .ok path := rfl
  have hsteps : steps? "x" e = some steps := rfl
  have hgiven : ∀ literal, Given steps literal → literal = .integer 3 ∨ literal = .integer 2 := by
    rintro literal ⟨step, hstep, hmem⟩
    have harguments : step.arguments ⊆ [.integer 3, .integer 2] := by
      simp only [steps, call, List.mem_cons, List.not_mem_nil, or_false] at hstep
      rcases hstep with rfl | rfl | rfl | rfl | rfl | rfl <;> simp [Step.arguments]
    cases literal <;> simpa [Literal.toExpr] using harguments hmem
  have hl : Legible steps := by
    refine ⟨by decide, fun literal hg => ?_, fun a b ha hb hagrees => ?_⟩
    · rcases hgiven literal hg with rfl | rfl <;> trivial
    · rcases hgiven a ha with rfl | rfl <;> rcases hgiven b hb with rfl | rfl <;>
        first | rfl | cases hagrees
  obtain ⟨parameter, steps', hp, hs, hchain⟩ := chain_of_resolve .standard ⟨["x"], e⟩ h
  cases hp
  obtain rfl : steps = steps' := Option.some.inj (hsteps.symm.trans hs)
  exact ⟨h, hsteps, hl, hchain hl⟩

end Include

end Projections
