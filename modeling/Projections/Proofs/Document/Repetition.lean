import Projections.Document.Generation
import Projections.Proofs.Document.Selection
import Projections.Proofs.Include.Fields

/-! Repeated includes. An include that was taken before leads to fields that are in the tree
and to root arguments that are there, so a document is the same without its repetitions. -/

namespace Projections

/-! ### Steps that settle something -/

section Settling

variable {α β : Type} {f : β → α → β} {Settled : α → β → Prop}

/-- What is settled may be left out of the steps that follow. -/
theorem foldl_filter_of_settled [BEq α] [LawfulBEq α]
    (kept : ∀ b a other, Settled a b → Settled a (f b other))
    (idle : ∀ b a, Settled a b → f b a = b) {a : α} (xs : List α) {b : β} (h : Settled a b) :
    (xs.filter fun x => !x == a).foldl f b = xs.foldl f b := by
  induction xs generalizing b with
  | nil => rfl
  | cons x xs ih =>
    cases hx : x == a with
    | true =>
      obtain rfl := eq_of_beq hx
      rw [List.filter_cons_of_neg (by simp), List.foldl_cons, idle b x h, ih h]
    | false =>
      rw [List.filter_cons_of_pos (by simp [hx]), List.foldl_cons, List.foldl_cons,
        ih (kept b a x h)]

/-- If a step settles what it takes, nothing unsettles it and a settled step is idle, then
repeated steps may be left out. -/
theorem foldl_eraseDups [BEq α] [LawfulBEq α] (after : ∀ b a, Settled a (f b a))
    (kept : ∀ b a other, Settled a b → Settled a (f b other))
    (idle : ∀ b a, Settled a b → f b a = b) (xs : List α) (b : β) :
    xs.eraseDups.foldl f b = xs.foldl f b := by
  -- What `eraseDups` goes on with is filtered and no tail, but it is shorter.
  induction hn : xs.length using Nat.strong_induction_on generalizing xs b with
  | _ n ih =>
    cases xs with
    | nil => rfl
    | cons a xs =>
      have hlt : (xs.filter fun x => !x == a).length < n := by
        rw [← hn]
        exact Nat.lt_succ_of_le (List.length_filter_le _ _)
      rw [List.eraseDups_cons, List.foldl_cons, ih _ hlt _ _ rfl,
        foldl_filter_of_settled kept idle xs (after b a), List.foldl_cons]

end Settling

/-! ### Arguments of the root -/

namespace Include

theorem mem_append_unknown {argument : FieldArgument} {added : List FieldArgument}
    (h : argument ∈ added) (known : List FieldArgument) :
    argument ∈ known ++ unknown known added := by
  by_cases hk : argument ∈ known
  · exact List.mem_append_left _ hk
  · refine List.mem_append_right _ ?_
    simp [unknown, h, hk]

theorem unknown_eq_nil {known added : List FieldArgument} (h : added ⊆ known) :
    unknown known added = [] := by
  have hnone : (added.filter fun argument => !known.contains argument) = [] :=
    List.filter_eq_nil_iff.2 fun argument ha => by simpa using h ha
  rw [unknown, hnone]
  rfl

end Include

namespace Path

variable {naming : Naming}

/-- The arguments that calls before the first member become. -/
def leadingArguments : List (String × Option Application) → List FieldArgument
  | (_, some a) :: rest => a.fieldArgument :: leadingArguments rest
  | _ => []

/-- Which fields there are does not depend on the arguments of the root. -/
theorem fields_foldl_grow (entries : List (String × Option Application)) {s t : Growth}
    (h : s.fields = t.fields) :
    (entries.foldl (grow naming) s).fields = (entries.foldl (grow naming) t).fields := by
  induction entries generalizing s t with
  | nil => exact h
  | cons entry entries ih =>
    refine ih ?_
    obtain ⟨fields, _⟩ := s
    obtain ⟨_, _⟩ := t
    obtain rfl := h
    obtain ⟨segment, _ | a⟩ := entry
    · rfl
    · cases fields with
      | nil =>
        simp only [grow]
        split_ifs <;> rfl
      | cons field fields => rfl

/-- Once there is a field, the root gets no more arguments. -/
theorem rootArguments_foldl_grow_field (entries : List (String × Option Application))
    {s : Growth} (h : s.fields ≠ []) :
    (entries.foldl (grow naming) s).rootArguments = s.rootArguments := by
  induction entries generalizing s with
  | nil => rfl
  | cons entry entries ih =>
    obtain ⟨field, fields, hs⟩ := List.exists_cons_of_ne_nil h
    obtain ⟨segment, _ | a⟩ := entry
    · rw [List.foldl_cons, ih] <;> simp [grow]
    · rw [List.foldl_cons, ih] <;> simp [grow, hs]

theorem rootArguments_foldl_grow (entries : List (String × Option Application))
    (arguments : List FieldArgument) :
    (entries.foldl (grow naming) ⟨[], arguments⟩).rootArguments =
      arguments ++ Include.unknown arguments (leadingArguments entries) := by
  induction entries generalizing arguments with
  | nil => simp [leadingArguments, Include.unknown]
  | cons entry entries ih =>
    obtain ⟨segment, _ | a⟩ := entry
    · rw [List.foldl_cons, rootArguments_foldl_grow_field entries (by simp [grow])]
      simp [grow, leadingArguments, Include.unknown]
    · rw [List.foldl_cons, leadingArguments]
      simp only [grow]
      cases hknown : arguments.contains a.fieldArgument with
      | true => rw [if_pos rfl, ih, Include.unknown_cons_of_mem hknown]
      | false =>
        rw [if_neg Bool.false_ne_true, ih, Include.unknown_cons hknown, List.append_assoc]
        rfl

theorem chain_fst (path : Path) (arguments : List FieldArgument) :
    (path.chain naming arguments).1 = (path.chain naming []).1 :=
  congrArg List.reverse (fields_foldl_grow path.steps rfl)

theorem chain_snd (path : Path) (arguments : List FieldArgument) :
    (path.chain naming arguments).2 =
      arguments ++ Include.unknown arguments (leadingArguments path.steps) :=
  rootArguments_foldl_grow path.steps arguments

end Path

/-! ### Includes taken in one after the other -/

namespace DocumentStyle

/-- Selection trees with the arguments of the root above them. -/
abbrev Growing := Selection × List FieldArgument

/-- Puts the chain of one include into the tree, and its leading calls among the arguments. -/
def absorb (naming : Naming) (growing : Growing) (path : Path) : Growing :=
  (Selection.insert (path.chain naming growing.2).1 growing.1, (path.chain naming growing.2).2)

/-- The include adds nothing. -/
def Absorbed (naming : Naming) (path : Path) (growing : Growing) : Prop :=
  Selection.Holds (path.chain naming []).1 growing.1 ∧
    Path.leadingArguments path.steps ⊆ growing.2

variable {naming : Naming} {path : Path} {growing : Growing}

theorem absorb_eq (naming : Naming) (path : Path) (growing : Growing) :
    absorb naming growing path = (Selection.insert (path.chain naming []).1 growing.1,
      growing.2 ++ Include.unknown growing.2 (Path.leadingArguments path.steps)) := by
  rw [absorb, Path.chain_fst, Path.chain_snd]

theorem absorbed_absorb (naming : Naming) (growing : Growing) (path : Path) :
    Absorbed naming path (absorb naming growing path) := by
  rw [absorb_eq]
  exact ⟨Selection.holds_insert _ _, fun _ ha => Include.mem_append_unknown ha _⟩

theorem Absorbed.absorb (h : Absorbed naming path growing) (other : Path) :
    Absorbed naming path (absorb naming growing other) := by
  rw [absorb_eq]
  exact ⟨h.1.insert _, fun _ ha => List.mem_append_left _ (h.2 ha)⟩

theorem absorb_of_absorbed (h : Absorbed naming path growing) :
    absorb naming growing path = growing := by
  rw [absorb_eq, Selection.insert_of_holds h.1, Include.unknown_eq_nil h.2, List.append_nil]

/-- Collecting all chains first comes to taking in one include after the other. -/
theorem chains_eq_foldl (naming : Naming) (paths : List Path) (fields : Selection)
    (arguments : List FieldArgument) :
    ((Path.chains naming paths arguments).1.foldl
        (fun fields chain => Selection.insert chain fields) fields,
      (Path.chains naming paths arguments).2) =
      paths.foldl (absorb naming) (fields, arguments) := by
  induction paths generalizing fields arguments with
  | nil => rfl
  | cons path paths ih => exact ih _ _

/-- Neither the tree nor the arguments change when repetitions are left out. -/
theorem chains_eraseDups (naming : Naming) (paths : List Path) (fields : Selection)
    (arguments : List FieldArgument) :
    (Path.chains naming paths.eraseDups arguments).1.foldl
        (fun fields chain => Selection.insert chain fields) fields =
        (Path.chains naming paths arguments).1.foldl
          (fun fields chain => Selection.insert chain fields) fields ∧
      (Path.chains naming paths.eraseDups arguments).2 =
        (Path.chains naming paths arguments).2 := by
  have habsorbed : paths.eraseDups.foldl (absorb naming) (fields, arguments) =
      paths.foldl (absorb naming) (fields, arguments) :=
    foldl_eraseDups (absorbed_absorb naming) (fun _ _ other h => h.absorb other)
      (fun _ _ h => absorb_of_absorbed h) paths (fields, arguments)
  rw [← chains_eq_foldl, ← chains_eq_foldl] at habsorbed
  exact Prod.mk.inj habsorbed

/-- A document is that of its includes without repetitions. -/
theorem generate_eraseDups (style : DocumentStyle) (request : Request) :
    style.generate { request with includes := request.includes.eraseDups } =
      style.generate request := by
  have hchains := chains_eraseDups style.naming request.includes []
  have hroot : style.root { request with includes := request.includes.eraseDups } =
      style.root request := by
    simp only [root, Selection.ofChains, List.foldl_append]
    rw [(hchains _).1, (hchains _).2]
  simp only [generate, hroot]

end DocumentStyle

end Projections
