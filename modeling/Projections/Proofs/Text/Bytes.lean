import Mathlib.Data.String.Basic

/-! The order of texts by code points is that of their encoded bytes. The bytes of two
characters differ at a place that both have, and there as the characters do. -/

namespace Projections.Text

open String (utf8EncodeChar)

/-- The bytes that encode a text. -/
def bytes (s : String) : List UInt8 := s.toUTF8.data.toList

theorem bytes_eq (s : String) : bytes s = s.toList.flatMap utf8EncodeChar := by
  obtain ⟨cs, rfl⟩ := s.exists_eq_ofList
  simp only [bytes, String.toUTF8, String.toByteArray_ofList, List.utf8Encode,
    List.toList_data_toByteArray, String.toList_ofList]

/-- The lists differ at a place that both have, where the first list has the smaller byte. -/
def Departs : List UInt8 → List UInt8 → Prop
  | x :: xs, y :: ys => x < y ∨ x = y ∧ Departs xs ys
  | _, _ => False

theorem lt_of_departs {xs ys : List UInt8} (h : Departs xs ys) (us vs : List UInt8) :
    xs ++ us < ys ++ vs := by
  induction xs generalizing ys with
  | nil => exact h.elim
  | cons x xs ih =>
    cases ys with
    | nil => exact h.elim
    | cons y ys => exact List.cons_lt_cons_iff.2 (h.imp_right fun h => ⟨h.1, ih h.2⟩)

theorem ofNat_lt_ofNat_iff {m n : ℕ} (hm : m < 256) (hn : n < 256) :
    UInt8.ofNat m < UInt8.ofNat n ↔ m < n := by
  rw [UInt8.lt_iff_toNat_lt, UInt8.toNat_ofNat_of_lt' hm, UInt8.toNat_ofNat_of_lt' hn]

theorem ofNat_eq_ofNat_iff {m n : ℕ} (hm : m < 256) (hn : n < 256) :
    UInt8.ofNat m = UInt8.ofNat n ↔ m = n := by
  rw [← UInt8.toNat_inj, UInt8.toNat_ofNat_of_lt' hm, UInt8.toNat_ofNat_of_lt' hn]

theorem lt_iff_by_digits (m n : ℕ) :
    m < n ↔ m / 64 < n / 64 ∨ m / 64 = n / 64 ∧ m % 64 < n % 64 := by omega

/-- The first byte gives the number of bytes, and more bytes are for greater characters. -/
theorem departs_utf8EncodeChar {c d : Char} (h : c < d) :
    Departs (utf8EncodeChar c) (utf8EncodeChar d) := by
  have hlt : c.val.toNat < d.val.toNat := h
  have hvalid : d.val.toNat < 0x110000 := by
    have hd := d.valid
    simp only [UInt32.isValidChar, Nat.isValidChar] at hd
    omega
  unfold utf8EncodeChar
  generalize c.val.toNat = m at *
  generalize d.val.toNat = n at *
  have hm : m / 4096 = m / 64 / 64 ∧ m / 262144 % 8 = m / 64 / 64 / 64 := by omega
  have hn : n / 4096 = n / 64 / 64 ∧ n / 262144 % 8 = n / 64 / 64 / 64 := by omega
  -- but for the mark on each byte, the bytes are digits to the base 64
  have hdigits := (lt_iff_by_digits m n).1 hlt
  rw [lt_iff_by_digits (m / 64), lt_iff_by_digits (m / 64 / 64)] at hdigits
  dsimp only
  split_ifs <;>
    simp (disch := omega) only [Departs, ofNat_lt_ofNat_iff, ofNat_eq_ofNat_iff, hm, hn] <;> omega

theorem append_lt_append_iff (us : List UInt8) {xs ys : List UInt8} :
    us ++ xs < us ++ ys ↔ xs < ys := by
  induction us with
  | nil => rfl
  | cons u us ih => exact List.cons_lt_cons_self.trans ih

/-- At the first characters that differ the bytes decide. -/
theorem flatMap_utf8EncodeChar_lt_iff (cs ds : List Char) :
    cs.flatMap utf8EncodeChar < ds.flatMap utf8EncodeChar ↔ cs < ds := by
  induction cs generalizing ds with
  | nil =>
    cases ds with
    | nil => exact iff_of_false (List.not_lt_nil _) (List.not_lt_nil _)
    | cons d ds =>
      obtain ⟨x, xs, hx⟩ := List.exists_cons_of_ne_nil (String.utf8EncodeChar_ne_nil (c := d))
      rw [List.flatMap_cons, hx]
      exact iff_of_true (List.nil_lt_cons ..) (List.nil_lt_cons ..)
  | cons c cs ih =>
    cases ds with
    | nil => exact iff_of_false (List.not_lt_nil _) (List.not_lt_nil _)
    | cons d ds =>
      rw [List.flatMap_cons, List.flatMap_cons, List.cons_lt_cons_iff]
      rcases lt_trichotomy c d with h | rfl | h
      · exact iff_of_true (lt_of_departs (departs_utf8EncodeChar h) ..) (.inl h)
      · rw [append_lt_append_iff, ih]
        simp
      · have hgt := lt_of_departs (departs_utf8EncodeChar h) (ds.flatMap utf8EncodeChar)
          (cs.flatMap utf8EncodeChar)
        refine iff_of_false (List.lt_asymm hgt) ?_
        rintro (hlt | ⟨rfl, -⟩)
        · exact lt_asymm h hlt
        · exact lt_irrefl _ h

theorem bytes_lt_iff {a b : String} : bytes a < bytes b ↔ a < b := by
  rw [bytes_eq, bytes_eq, flatMap_utf8EncodeChar_lt_iff, String.lt_iff_toList_lt]

theorem bytes_le_iff {a b : String} : bytes a ≤ bytes b ↔ a ≤ b := by
  rw [← List.not_lt, bytes_lt_iff, not_lt]

end Projections.Text
