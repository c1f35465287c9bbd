import Projections.Proofs.Include.Path
import Projections.Proofs.Include.Resolution

/-! The applications of a projection: those of its source as they are, and then those of its
element that differ from them and from one another. What the source repeats stays repeated. -/

namespace Projections

namespace Application

/-- One is not the other, up to the equality of literals. -/
def Differs (a b : Application) : Prop := a.agrees b = false

instance (a b : Application) : Decidable (Differs a b) :=
  inferInstanceAs (Decidable (a.agrees b = false))

/-- Those that differ from every given one and from every one before them, in their order. -/
def added (given applications : List Application) : List Application :=
  (applications.filter fun a => !given.any (·.agrees a)).eraseDupsBy fun later a => a.agrees later

end Application

open Application (Differs added)

namespace Path

variable {given elements : List Application} {a : Application}

/-! ### One application -/

theorem place_fst (given : List Application) (a : Application) :
    (place given a).1 = if given.any (·.agrees a) then given else given ++ [a] := by
  unfold place
  split
  · next index h =>
    have hany : given.any (·.agrees a) = true := by
      rw [← List.findIdx?_isSome, h, Option.isSome_some]
    rw [if_pos hany]
  · next h =>
    have hany : given.any (·.agrees a) = false := by
      rw [← List.findIdx?_isSome, h, Option.isSome_none]
    rw [hany, if_neg Bool.false_ne_true]

theorem pairwise_place (h : given.Pairwise Differs) (a : Application) :
    (place given a).1.Pairwise Differs := by
  rw [place_fst]
  split_ifs with hany
  · exact h
  · refine List.pairwise_append.2 ⟨h, List.pairwise_singleton .., fun b hb c hc => ?_⟩
    obtain rfl := List.mem_singleton.1 hc
    have hnone : ¬ ∃ b ∈ given, b.agrees c = true := by rwa [List.any_eq_true] at hany
    exact Bool.eq_false_iff.2 fun hagrees => hnone ⟨b, hb, hagrees⟩

/-- What is placed is there, itself or another that agrees with it. -/
theorem exists_mem_place (given : List Application) (a : Application) :
    ∃ b ∈ (place given a).1, b = a ∨ b.agrees a = true := by
  rw [place_fst]
  split_ifs with hany
  · obtain ⟨b, hb, hagrees⟩ := List.any_eq_true.1 hany
    exact ⟨b, hb, .inr hagrees⟩
  · exact ⟨a, List.mem_append_right _ (List.mem_singleton_self a), .inl rfl⟩

/-! ### All of them -/

/-- What is joined to the given applications is what they do not have yet. -/
theorem merge_fst (given elements : List Application) :
    (merge given elements).1 = given ++ added given elements := by
  induction elements generalizing given with
  | nil => exact (List.append_nil given).symm
  | cons a rest ih =>
    rw [merge, ih, place_fst, added, added, List.filter_cons]
    cases hany : given.any (·.agrees a) with
    | true => rfl
    | false =>
      -- the first one is new, and excludes the later ones that agree with it
      have hlater : rest.filter (fun b => !(given ++ [a]).any (·.agrees b)) =
          (rest.filter fun b => !given.any (·.agrees b)).filter fun b => a.agrees b = false := by
        rw [List.filter_filter]
        refine List.filter_congr fun b _ => ?_
        simp [Bool.and_comm]
      simp only [Bool.not_false, if_true, Bool.false_eq_true, if_false, List.eraseDupsBy_cons,
        List.append_assoc, List.singleton_append, hlater]

theorem subset_merge (given elements : List Application) : given ⊆ (merge given elements).1 := by
  rw [merge_fst]
  exact List.subset_append_left ..

theorem exists_mem_merge (given : List Application) (ha : a ∈ elements) :
    ∃ b ∈ (merge given elements).1, b = a ∨ b.agrees a = true := by
  induction elements generalizing given with
  | nil => cases ha
  | cons first rest ih =>
    rw [merge]
    rcases List.mem_cons.1 ha with rfl | ha
    · obtain ⟨b, hb, heq⟩ := exists_mem_place given a
      exact ⟨b, subset_merge _ rest hb, heq⟩
    · exact ih (place given first).1 ha

/-- Joining repeats nothing that was not repeated before. -/
theorem pairwise_merge (h : given.Pairwise Differs) (elements : List Application) :
    (merge given elements).1.Pairwise Differs := by
  induction elements generalizing given with
  | nil => exact h
  | cons first rest ih => exact ih (pairwise_place h first)

theorem pairwise_merge_iff (given elements : List Application) :
    (merge given elements).1.Pairwise Differs ↔ given.Pairwise Differs := by
  refine ⟨fun h => ?_, fun h => pairwise_merge h elements⟩
  rw [merge_fst] at h
  exact (List.pairwise_append.1 h).1

end Path

namespace Include

/-- A projection that resolves applies what its source applies, in that order, and then what
its element applies besides, at its first occurrences. No two of all these are equal exactly if
no two of the source's are. -/
theorem applications_of_projection (registry : Registry) {parameter inner : String}
    {source body : Expr} {path : Path}
    (h : registry.resolveFrom parameter (.call source projectionName [.lambda [inner] body]) =
      .ok path) :
    ∃ front back, registry.resolveFrom parameter source = .ok front ∧
      registry.resolveFrom inner body = .ok back ∧
      path.applications = front.applications ++ added front.applications back.applications ∧
      (∀ a ∈ path.applications, a ∈ front.applications ∨ a ∈ back.applications) ∧
      (∀ a, a ∈ front.applications ∨ a ∈ back.applications →
        ∃ b ∈ path.applications, b = a ∨ b.agrees a = true) ∧
      (path.applications.Pairwise Differs ↔ front.applications.Pairwise Differs) := by
  simp only [Registry.resolveFrom, if_true] at h
  obtain ⟨front, back, hfront, hback, hjoin⟩ := projected_eq_ok_iff.1 h
  obtain ⟨_, _, -, -, -, happ, -⟩ := Path.join?_eq_some hjoin
  refine ⟨front, back, hfront, hback, ?_, ?_, ?_, ?_⟩
  · rw [happ, Path.merge_fst]
  · rw [happ]
    exact fun a => Path.mem_merge
  · rw [happ]
    rintro a (ha | ha)
    · exact ⟨a, Path.subset_merge _ _ ha, .inl rfl⟩
    · exact Path.exists_mem_merge _ ha
  · rw [happ]
    exact Path.pairwise_merge_iff ..

/-- Of the element's three operators one is the source's, and one is repeated. -/
theorem applications_of_tags :
    let source := Expr.call (.member (.name "x") "Posts") "Take" [.integer 5]
    let body := Expr.call (.call (.call (.member (.name "p") "Tags") "Skip" [.integer 1])
      "Take" [.integer 5]) "Skip" [.integer 1]
    let path : Path := ⟨some "Posts.Take.Tags.Skip.Take.Skip",
      [⟨"Take", [("count", .integer 5)]⟩, ⟨"Skip", [("count", .integer 1)]⟩],
      [(1, 0), (3, 1), (4, 0), (5, 1)]⟩
    Registry.standard.resolveFrom "x" (.call source projectionName [.lambda ["p"] body]) =
        .ok path ∧
      ∃ front back, Registry.standard.resolveFrom "x" source = .ok front ∧
        Registry.standard.resolveFrom "p" body = .ok back ∧
        path.applications = front.applications ++ added front.applications back.applications := by
  intro source body path
  have h : Registry.standard.resolveFrom "x" (.call source projectionName [.lambda ["p"] body]) =
      .ok path := rfl
  obtain ⟨front, back, hfront, hback, happ, -⟩ := applications_of_projection .standard h
  exact ⟨h, front, back, hfront, hback, happ⟩

/-- An operator that the source applies twice is listed twice after the projection. -/
theorem repeated_operator_stays :
    let take : Application := ⟨"Take", [("count", .integer 5)]⟩
    let source := Expr.call (.call (.member (.name "x") "Posts") "Take" [.integer 5]) "Take"
      [.integer 5]
    let body := Expr.member (.name "p") "Tags"
    ∃ path, Registry.standard.resolveFrom "x" (.call source projectionName [.lambda ["p"] body]) =
        .ok path ∧
      path.applications = [take, take] ∧ ¬ path.applications.Pairwise Differs := by
  intro take source body
  exact ⟨⟨some "Posts.Take.Take.Tags", [take, take], [(1, 1), (2, 0)]⟩, rfl, rfl, by decide⟩

end Include

end Projections
