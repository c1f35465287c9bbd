import Mathlib
import Projections.Document.Naming
import Projections.Proofs.Language.RoundTrip
import Projections.Proofs.Row.Fields
import Projections.Selector.Evaluation

/-! The spelling of fields in documents against the reading of members from rows. A row has
its fields under the names of the document; reading a member finds its field if every capital
that was made small is an ASCII letter, and else there is null without an error. -/

namespace Projections

/-! ### Small forms -/

namespace Text

theorem isUpper_bounds {c : Char} (h : c.isUpper = true) : 65 ≤ c.toNat ∧ c.toNat ≤ 90 := by
  simpa [Char.isUpper, UInt32.le_iff_toNat_le] using h

theorem toLower_of_not_ascii {c : Char} (h : ¬ c.toNat < 128) : c.toLower = c :=
  Char.toLower_eq_of_not_isUpper fun hu => h (by have := isUpper_bounds hu; omega)

theorem toLower_ascii {c : Char} (h : c.toNat < 128) : c.toLower.toNat < 128 := by
  by_cases hu : c.isUpper = true
  · have hbounds := isUpper_bounds hu
    rw [Char.toLower_eq_of_isUpper hu, Char.toNat_ofNat]
    split_ifs <;> omega
  · rwa [Char.toLower_eq_of_not_isUpper hu]

/-- A character that differs from its small form in the case of an ASCII letter at most. -/
def Plain (c : Char) : Prop := c.toNat < 128 ∨ lowerForm c = [c]

instance (c : Char) : Decidable (Plain c) :=
  inferInstanceAs (Decidable (c.toNat < 128 ∨ lowerForm c = [c]))

theorem map_toLower_lowerForm (c : Char) :
    (lowerForm c).map Char.toLower = [c.toLower] ↔ Plain c := by
  unfold Plain lowerForm
  by_cases hdotted : c.toNat = 0x130
  · simp [hdotted]
  rw [if_neg hdotted, List.map_singleton, List.singleton_inj, List.singleton_inj]
  by_cases hc : c.toNat < 128
  · simp [lowerChar, hc]
  -- Beyond ASCII only `c` itself is read as `c`.
  rw [toLower_of_not_ascii hc, or_iff_right hc]
  by_cases hl : (lowerChar c).toNat < 128
  · refine iff_of_false (fun h => hc ?_) fun h => hc (h ▸ hl)
    rw [← h]
    exact toLower_ascii hl
  · rw [toLower_of_not_ascii hl]

theorem lowerForm_eq_cons (c : Char) : ∃ d more, lowerForm c = d :: more := by
  unfold lowerForm
  split_ifs
  · exact ⟨_, _, rfl⟩
  · exact ⟨_, _, rfl⟩

theorem length_le_flatMap_lowerForm (cs : List Char) :
    cs.length ≤ (cs.flatMap lowerForm).length := by
  induction cs with
  | nil => exact Nat.le_refl _
  | cons c rest ih =>
    obtain ⟨d, more, hd⟩ := lowerForm_eq_cons c
    simp only [List.flatMap_cons, hd, List.length_append, List.length_cons]
    omega

/-- The small form of a text is read as that text exactly if this is so for every character. -/
theorem map_toLower_flatMap_lowerForm (cs : List Char) :
    (cs.flatMap lowerForm).map Char.toLower = cs.map Char.toLower ↔ ∀ c ∈ cs, Plain c := by
  induction cs with
  | nil => simp
  | cons c rest ih =>
    rw [List.forall_mem_cons, ← ih, ← map_toLower_lowerForm, List.flatMap_cons, List.map_append,
      List.map_cons]
    constructor
    · intro h
      obtain ⟨d, more, hd⟩ := lowerForm_eq_cons c
      -- A longer form leaves too few places for the rest, in which nothing gets shorter.
      have hmore : more = [] := by
        have hlength := congrArg List.length h
        have hrest := length_le_flatMap_lowerForm rest
        simp only [hd, List.length_append, List.length_map, List.length_cons] at hlength
        exact List.eq_nil_of_length_eq_zero (by omega)
      rw [hd, hmore] at h ⊢
      obtain ⟨hhead, htail⟩ := List.cons.inj h
      exact ⟨congrArg (fun x => [x]) hhead, htail⟩
    · rintro ⟨hhead, htail⟩
      rw [hhead, htail]
      rfl

end Text

/-! ### Spelling and reading -/

namespace Naming

/-- The capitals that a naming makes small. -/
def lowered : Naming → String → List Char
  | .asIs, _ => []
  | .camelCase, name => name.toList.take (loweredCount name.toList)

/-- Reading sees through the spelling: every capital that gets small is an ASCII letter, or has
no small form of its own. -/
def Readable (naming : Naming) (name : String) : Prop := ∀ c ∈ naming.lowered name, Text.Plain c

instance (naming : Naming) (name : String) : Decidable (naming.Readable name) :=
  inferInstanceAs (Decidable (∀ c ∈ naming.lowered name, Text.Plain c))

theorem sameName_apply (naming : Naming) (name : String) :
    Value.sameName (naming.apply name) name = true ↔ naming.Readable name := by
  rw [Value.sameName, beq_iff_eq]
  cases naming with
  | asIs => simp [apply, Readable, lowered]
  | camelCase =>
    rw [apply, lowerCamel, String.toList_ofList, Readable, lowered,
      ← Text.map_toLower_flatMap_lowerForm]
    generalize loweredCount name.toList = count
    conv_lhs => rhs; rw [← List.take_append_drop count name.toList]
    rw [List.map_append, List.map_append, List.append_left_inj]

/-- What is read under a name from the field that has the name's spelling. -/
theorem field?_apply (naming : Naming) (name : String) (value : Value) :
    Value.field? name [(naming.apply name, value)] =
      if naming.Readable name then some value else none := by
  rw [Value.field?, Fields.get?_cons]
  by_cases hname : name = naming.apply name
  · have hr : naming.Readable name := by
      rw [← sameName_apply, ← hname]
      exact Value.sameName_refl name
    rw [if_pos hname, if_pos hr]
  · rw [if_neg hname]
    simp only [← sameName_apply]
    cases h : Value.sameName (naming.apply name) name <;> simp [Fields.get?, h]

/-- A member that is read from the one field in its spelling is the value there if the name is
readable, and else it is missing and null. -/
theorem read_of_spelling (naming : Naming) (name parameter : String) (value : Value) :
    let row := Value.object [(naming.apply name, value)]
    let selector : Selector := ⟨parameter, .member (.name parameter) name⟩
    row.get? name = (if naming.Readable name then some value else none) ∧
      selector.bind row = .ok (if naming.Readable name then value else .null) := by
  intro row selector
  have hbind : selector.bind row = row.member name := by
    simp [selector, Selector.bind, Expr.eval]
  refine ⟨field?_apply naming name value, ?_⟩
  rw [hbind, Value.member, field?_apply]
  split_ifs <;> rfl

/-- `É` is made small, and not found again. -/
theorem accented_capital_not_read :
    let row := Value.object [(camelCase.apply "Écran", .integer 1)]
    let selector : Selector := ⟨"p", .member (.name "p") "Écran"⟩
    IsIdentifier "Écran" ∧ camelCase.apply "Écran" = "écran" ∧ row.get? "Écran" = none ∧
      selector.bind row = .ok .null := by
  intro row selector
  have hlowered : camelCase.lowered "Écran" = ['É'] := by decide +kernel
  have hplain : ¬ Text.Plain 'É' := by decide +kernel
  have hr : ¬ camelCase.Readable "Écran" := fun h =>
    hplain (h 'É' (by rw [hlowered]; exact List.mem_singleton_self _))
  have hfield : Value.field? "Écran" [(camelCase.apply "Écran", Value.integer 1)] = none := by
    rw [field?_apply, if_neg hr]
  have hmember : row.member "Écran" = .ok .null := by
    rw [Value.member, hfield]
    rfl
  refine ⟨⟨by decide +kernel, by decide +kernel⟩, by decide +kernel, hfield, ?_⟩
  simpa [selector, Selector.bind, Expr.eval] using hmember

end Naming

end Projections
