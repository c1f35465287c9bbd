import Mathlib.Data.String.Basic
import Projections.Row.Fields

/-! Laws of ordered fields: what is put under a name is found there, nothing else
moves, and names keep ascending. A list of entries becomes the fields in which every
name has its last entry. -/

namespace Projections.Fields

variable {α : Type}

theorem get?_cons (name key : String) (value : α) (rest : List (String × α)) :
    get? name ((key, value) :: rest) = if name = key then some value else get? name rest := by
  by_cases h : name = key
  · simp [get?, h]
  · have hb : (name == key) = false := beq_false_of_ne h
    simp [get?, List.lookup_cons, h, hb]

theorem mem_of_get? {name : String} {fields : List (String × α)} {value : α}
    (h : get? name fields = some value) : (name, value) ∈ fields := by
  induction fields with
  | nil => cases h
  | cons entry rest ih =>
    obtain ⟨key, v⟩ := entry
    rw [get?_cons] at h
    split_ifs at h with hname
    · cases h
      rw [hname]
      exact List.mem_cons_self ..
    · exact List.mem_cons_of_mem _ (ih h)

/-- Ordered fields have one value a name. -/
theorem get?_of_mem {fields : List (String × α)} (h : Ordered fields) {entry : String × α}
    (he : entry ∈ fields) : get? entry.1 fields = some entry.2 := by
  induction fields with
  | nil => cases he
  | cons first rest ih =>
    obtain ⟨hfirst, hrest⟩ := List.pairwise_cons.1 h
    rw [get?_cons]
    rcases List.mem_cons.1 he with rfl | hm
    · rw [if_pos rfl]
    · rw [if_neg (hfirst entry hm).ne', ih hrest hm]

/-! ### Insertion -/

theorem get?_insert (key name : String) (value : α) (fields : List (String × α)) :
    get? name (insert key value fields) = if name = key then some value else get? name fields := by
  induction fields with
  | nil => rw [insert, get?_cons]
  | cons entry rest ih =>
    obtain ⟨k, v⟩ := entry
    rcases lt_trichotomy key k with hlt | rfl | hlt
    · rw [insert, if_pos hlt, get?_cons]
    · rw [insert, if_neg (lt_irrefl _), if_pos rfl, get?_cons, get?_cons]
      split_ifs <;> rfl
    · rw [insert, if_neg hlt.not_gt, if_neg hlt.ne', get?_cons, get?_cons, ih]
      split_ifs with hk hname
      · exact absurd (hname.symm.trans hk) hlt.ne'
      all_goals rfl

theorem mem_insert {key : String} {value : α} {fields : List (String × α)} {entry : String × α}
    (h : entry ∈ insert key value fields) : entry = (key, value) ∨ entry ∈ fields := by
  induction fields with
  | nil => simpa [insert] using h
  | cons first rest ih =>
    obtain ⟨k, v⟩ := first
    rw [insert] at h
    split_ifs at h with hlt heq
    · simpa using h
    · rcases List.mem_cons.1 h with rfl | hm
      · exact .inl rfl
      · exact .inr (List.mem_cons_of_mem _ hm)
    · rcases List.mem_cons.1 h with rfl | hm
      · exact .inr (List.mem_cons_self ..)
      · exact (ih hm).imp_right (List.mem_cons_of_mem _)

theorem ordered_insert (key : String) (value : α) {fields : List (String × α)}
    (h : Ordered fields) : Ordered (insert key value fields) := by
  induction fields with
  | nil => exact List.pairwise_singleton _ _
  | cons first rest ih =>
    obtain ⟨k, v⟩ := first
    obtain ⟨hk, hrest⟩ := List.pairwise_cons.1 h
    rw [insert]
    split_ifs with hlt heq
    · refine List.pairwise_cons.2 ⟨?_, h⟩
      intro entry he
      rcases List.mem_cons.1 he with rfl | hm
      · exact hlt
      · exact hlt.trans (hk entry hm)
    · exact List.pairwise_cons.2 ⟨fun entry he => heq ▸ hk entry he, hrest⟩
    · refine List.pairwise_cons.2 ⟨?_, ih hrest⟩
      intro entry he
      rcases mem_insert he with rfl | hm
      · exact lt_of_le_of_ne (not_lt.1 hlt) (Ne.symm heq)
      · exact hk entry hm

/-! ### Lists of entries -/

theorem ordered_ofList (entries : List (String × α)) : Ordered (ofList entries) := by
  suffices h : ∀ fields, Ordered fields →
      Ordered (entries.foldl (fun fields entry => insert entry.1 entry.2 fields) fields) from
    h [] .nil
  induction entries with
  | nil => exact fun _ h => h
  | cons entry rest ih => exact fun fields h => ih _ (ordered_insert _ _ h)

theorem mem_of_mem_ofList {entries : List (String × α)} {entry : String × α}
    (h : entry ∈ ofList entries) : entry ∈ entries := by
  suffices hs : ∀ fields,
      entry ∈ entries.foldl (fun fields entry => insert entry.1 entry.2 fields) fields →
        entry ∈ entries ∨ entry ∈ fields from (hs [] h).resolve_right List.not_mem_nil
  clear h
  induction entries with
  | nil => exact fun _ h => .inr h
  | cons first rest ih =>
    intro fields h
    rcases ih _ h with hm | hm
    · exact .inl (List.mem_cons_of_mem _ hm)
    · rcases mem_insert hm with rfl | hf
      · exact .inl (List.mem_cons_self ..)
      · exact .inr hf

/-- Of several entries of one name the last is found. -/
theorem get?_ofList (name : String) (entries : List (String × α)) :
    get? name (ofList entries) = entries.reverse.lookup name := by
  suffices h : ∀ fields,
      get? name (entries.foldl (fun fields entry => insert entry.1 entry.2 fields) fields) =
        (entries.reverse.lookup name).or (get? name fields) by
    rw [ofList, h, get?, List.lookup_nil, Option.or_none]
  induction entries with
  | nil => exact fun _ => rfl
  | cons entry rest ih =>
    intro fields
    obtain ⟨key, value⟩ := entry
    rw [List.foldl_cons, ih, get?_insert, List.reverse_cons, List.lookup_append, Option.or_assoc]
    congr 1
    change _ = (get? name [(key, value)]).or _
    rw [get?_cons]
    split_ifs <;> rfl

end Projections.Fields
