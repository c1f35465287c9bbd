import Projections.Include.Resolution
import Projections.Proofs.Result

/-! What a resolution that succeeds consists of, at each of its constructs. -/

namespace Projections

open Result (bind_eq_ok_iff)

/-- A projection joins two paths. -/
theorem projected_eq_ok_iff {source element : Except ResolveError Path} {path : Path} :
    projected source element = .ok path ↔
      ∃ front back, source = .ok front ∧ element = .ok back ∧ front.join? back = some path := by
  unfold projected
  simp only [bind_eq_ok_iff]
  constructor
  · rintro ⟨front, hfront, back, hback, h⟩
    split at h
    · next hj =>
      cases h
      exact ⟨front, back, hfront, hback, hj⟩
    · cases h
  · rintro ⟨front, back, hfront, hback, hj⟩
    exact ⟨front, hfront, back, hback, by rw [hj]; rfl⟩

namespace Registry

variable {registry : Registry} {path : Path}

/-- A call is of an operator that is there, with arguments that it takes. -/
theorem called_eq_ok_iff {base : Expr} {method : String} {arguments : List Expr}
    {source : Except ResolveError Path} :
    registry.called base method arguments source = .ok path ↔
      ∃ operator front a, registry.get? method = some operator ∧ source = .ok front ∧
        operator.applyTo arguments = .ok a ∧ path = front.apply a := by
  unfold called
  cases registry.get? method with
  | none => simp
  | some operator =>
    simp only [bind_eq_ok_iff]
    constructor
    · rintro ⟨front, hfront, a, ha, ⟨⟩⟩
      exact ⟨operator, front, a, rfl, hfront, ha, rfl⟩
    · rintro ⟨_, front, a, ⟨⟩, hfront, ha, rfl⟩
      exact ⟨front, hfront, a, ha, rfl⟩

theorem resolve_eq_ok_iff {f : Lambda} :
    registry.resolve f = .ok path ↔
      ∃ p body, f = ⟨[p], body⟩ ∧ registry.resolveFrom p body = .ok path := by
  obtain ⟨parameters, body⟩ := f
  unfold resolve
  constructor
  · intro h
    rcases parameters with _ | ⟨p, _ | ⟨second, others⟩⟩
    · cases h
    · exact ⟨p, body, rfl, h⟩
    · cases h
  · rintro ⟨p, body, ⟨⟩, h⟩
    exact h

theorem resolveInclude_eq_ok_iff {e : Expr} :
    registry.resolveInclude e = .ok path ↔
      ∃ p body, e = .lambda [p] body ∧ registry.resolveFrom p body = .ok path ∧
        path.text ≠ none := by
  unfold resolveInclude
  constructor
  · intro h
    split at h
    · cases h
    · next f hf =>
      obtain ⟨found, hfound, hpath⟩ := bind_eq_ok_iff.1 h
      obtain ⟨p, body, rfl, hfrom⟩ := resolve_eq_ok_iff.1 hfound
      split at hpath
      · cases hpath
      · next htext =>
        cases hpath
        cases e <;> cases hf
        exact ⟨p, body, rfl, hfrom, by simpa using htext⟩
  · rintro ⟨p, body, rfl, h, htext⟩
    refine bind_eq_ok_iff.2 ⟨path, resolve_eq_ok_iff.2 ⟨p, body, rfl, h⟩, ?_⟩
    rw [if_neg (by simpa using htext)]
    rfl

end Registry

end Projections
