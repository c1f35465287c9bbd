import Mathlib.Data.List.Find
import Projections.Document.Selection

/-! Laws of selection trees. A chain that was inserted stays where it is whatever is inserted
after it, and inserting it again changes nothing. -/

namespace Projections.Selection

/-- What is below a head, if a field with that head is there. -/
def below? (head : FieldHead) (fields : Selection) : Option Selection :=
  (fields.find? (·.head = head)).map Field.children

/-- A chain of fields leads down from the top. -/
def Holds : List FieldHead → Selection → Prop
  | [], _ => True
  | head :: chain, fields => ∃ children, below? head fields = some children ∧ Holds chain children

theorem below?_cons (head first : FieldHead) (children fields : Selection) :
    below? head (.mk first children :: fields) =
      if first = head then some children else below? head fields := by
  by_cases h : first = head <;> simp [below?, Field.head, Field.children, h]

theorem update_cons (head first : FieldHead) (change : Selection → Selection)
    (children fields : Selection) :
    update head change (.mk first children :: fields) =
      if first = head then .mk head (change children) :: fields
      else .mk first children :: update head change fields := rfl

/-- A change below one head shows there and nowhere else. -/
theorem below?_update (head other : FieldHead) (change : Selection → Selection)
    (fields : Selection) :
    below? other (update head change fields) =
      if head = other then some (change ((below? head fields).getD []))
      else below? other fields := by
  induction fields with
  | nil => exact below?_cons other head (change []) []
  | cons field fields ih =>
    obtain ⟨first, children⟩ := field
    rw [update_cons, below?_cons, below?_cons]
    by_cases hfirst : first = head
    · subst hfirst
      rw [if_pos rfl, if_pos rfl, below?_cons]
      split_ifs <;> rfl
    · rw [if_neg hfirst, if_neg hfirst, below?_cons, ih]
      split_ifs with hother hhead
      · exact absurd (hother.trans hhead.symm) hfirst
      all_goals rfl

theorem update_eq_self {head : FieldHead} {change : Selection → Selection} {fields : Selection}
    {children : Selection} (h : below? head fields = some children)
    (hc : change children = children) : update head change fields = fields := by
  induction fields with
  | nil => cases h
  | cons field fields ih =>
    obtain ⟨first, below⟩ := field
    rw [below?_cons] at h
    rw [update_cons]
    split_ifs at h ⊢ with hfirst
    · cases h
      rw [hc, hfirst]
    · rw [ih h]

variable {chain : List FieldHead} {fields : Selection}

theorem holds_insert (chain : List FieldHead) (fields : Selection) :
    Holds chain (insert chain fields) := by
  induction chain generalizing fields with
  | nil => trivial
  | cons head chain ih =>
    rw [insert, Holds]
    exact ⟨_, by rw [below?_update, if_pos rfl], ih _⟩

theorem Holds.insert (h : Holds chain fields) (other : List FieldHead) :
    Holds chain (insert other fields) := by
  induction chain generalizing other fields with
  | nil => trivial
  | cons head chain ih =>
    cases other with
    | nil => exact h
    | cons first rest =>
      obtain ⟨children, hbelow, hchildren⟩ := h
      rw [Selection.insert, Holds, below?_update]
      split_ifs with hfirst
      · rw [hfirst, hbelow]
        exact ⟨_, rfl, ih hchildren rest⟩
      · exact ⟨children, hbelow, hchildren⟩

theorem insert_of_holds (h : Holds chain fields) : insert chain fields = fields := by
  induction chain generalizing fields with
  | nil => rfl
  | cons head chain ih =>
    obtain ⟨children, hbelow, hchildren⟩ := h
    exact update_eq_self hbelow (ih hchildren)

end Projections.Selection
