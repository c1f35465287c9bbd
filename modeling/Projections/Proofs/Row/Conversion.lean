import Projections.Proofs.Number.Rounding
import Projections.Query.Rows

/-! Documents as row values and back. Of a document only the integers beyond the signed range
change on the way: they become floats. Of a row value only the floats that are no numbers change:
they become null. So a selector that gives its row back gives back most documents as they are. -/

namespace Projections

/-! ### Floats of large integers -/

namespace Binary64

theorem roundDiv_le (num den : ℕ) : roundDiv num den ≤ num / den + 1 := by
  unfold roundDiv
  dsimp only
  split_ifs <;> omega

theorem lastPlace_of_large {n : ℕ} (hlow : 0x8000000000000000 ≤ n)
    (hhigh : n < 0x10000000000000000) : lastPlace n 1 = 11 := by
  have hlog : Int.log 2 ((n : ℚ) / (1 : ℕ)) = 63 := by
    refine log_two_eq ?_ ?_ <;> rw [Nat.cast_one, div_one]
    · exact_mod_cast hlow
    · exact_mod_cast hhigh
  rw [lastPlace_eq (by omega) Nat.one_pos, hlog]
  decide

/-- Integers of 64 bits are far below infinity. -/
theorem isFinite_ofInt {n : ℤ} (hlow : 0x8000000000000000 ≤ n) (hhigh : n < 0x10000000000000000) :
    (ofInt n).isFinite = true := by
  have hplace : lastPlace n.natAbs 1 = 11 := lastPlace_of_large (by omega) (by omega)
  have hbits : roundDiv n.natAbs 0x800 ≤ n.natAbs / 0x800 + 1 := roundDiv_le _ _
  have hmagnitude : (ofInt n).magnitude.val =
      min (1085 * leadingBit + roundDiv n.natAbs 0x800) infinityMagnitude := by
    unfold ofInt ofRatio
    rw [if_neg (by omega)]
    simp only [hplace]
    rfl
  rw [isFinite, hmagnitude, decide_eq_true_iff]
  unfold leadingBit infinityMagnitude
  omega

end Binary64

/-! ### From a document to a value and back -/

namespace Json

/-- What stands somewhere in a document, the whole of it included. -/
inductive Part (part : Json) : Json → Prop
  | whole : Part part part
  | item {items : List Json} {item : Json} :
      item ∈ items → Part part item → Part part (.array items)
  | field {fields : List (String × Json)} {entry : String × Json} :
      entry ∈ fields → Part part entry.2 → Part part (.object fields)

/-- No integer at any depth is beyond the signed range. -/
def Signed (j : Json) : Prop :=
  ∀ n low high, Part (.integer n low high) j → n ≤ 0x7FFFFFFFFFFFFFFF

theorem signed_array {items : List Json} : Signed (.array items) ↔ ∀ item ∈ items, Signed item := by
  constructor
  · intro h item hitem n low high hpart
    exact h n low high (.item hitem hpart)
  · intro h n low high hpart
    cases hpart with
    | item hitem hpart => exact h _ hitem n low high hpart

theorem signed_object {fields : List (String × Json)} :
    Signed (.object fields) ↔ ∀ entry ∈ fields, Signed entry.2 := by
  constructor
  · intro h entry hentry n low high hpart
    exact h n low high (.field hentry hpart)
  · intro h n low high hpart
    cases hpart with
    | field hentry hpart => exact h _ hentry n low high hpart

mutual

/-- The document with floats for the integers beyond the signed range. -/
def rounded : Json → Json
  | .null => .null
  | .boolean b => .boolean b
  | .integer n low high =>
    if h : 0x8000000000000000 ≤ n then .float (.ofInt n) (Binary64.isFinite_ofInt h high)
    else .integer n low high
  | .float x finite => .float x finite
  | .string s => .string s
  | .array items => .array (roundedItems items)
  | .object fields => .object (roundedFields fields)

def roundedItems : List Json → List Json
  | [] => []
  | item :: items => item.rounded :: roundedItems items

def roundedFields : List (String × Json) → List (String × Json)
  | [] => []
  | (key, item) :: fields => (key, item.rounded) :: roundedFields fields

end

mutual

/-- What is within the signed range at every depth is left as it is, and nothing else is. -/
theorem rounded_eq_self_iff : (j : Json) → (j.rounded = j ↔ j.Signed)
  | .integer n low high => by
    have hsigned : Signed (.integer n low high) ↔ n ≤ 0x7FFFFFFFFFFFFFFF := by
      refine ⟨fun h => h n low high .whole, ?_⟩
      rintro h _ _ _ ⟨⟩
      exact h
    rw [hsigned, rounded]
    split_ifs with h
    · exact iff_of_false (by simp) (by omega)
    · exact iff_of_true rfl (by omega)
  | .array items => by
    rw [signed_array, rounded, Json.array.injEq]
    exact roundedItems_eq_self_iff items
  | .object fields => by
    rw [signed_object, rounded, Json.object.injEq]
    exact roundedFields_eq_self_iff fields
  | .null | .boolean _ | .float _ _ | .string _ => iff_of_true rfl (by rintro _ _ _ ⟨⟩)

theorem roundedItems_eq_self_iff :
    (items : List Json) → (roundedItems items = items ↔ ∀ item ∈ items, Signed item)
  | [] => by simp [roundedItems]
  | item :: items => by
    rw [roundedItems, List.cons.injEq, List.forall_mem_cons, rounded_eq_self_iff item,
      roundedItems_eq_self_iff items]

theorem roundedFields_eq_self_iff : (fields : List (String × Json)) →
    (roundedFields fields = fields ↔ ∀ entry ∈ fields, Signed entry.2)
  | [] => by simp [roundedFields]
  | (key, item) :: fields => by
    rw [roundedFields, List.cons.injEq, Prod.mk.injEq, List.forall_mem_cons,
      rounded_eq_self_iff item, roundedFields_eq_self_iff fields, and_iff_right rfl]

end

theorem ofInt64_eq {m : Int64} {n : ℤ} (h : m.toInt = n) (low : -0x8000000000000000 ≤ n)
    (high : n < 0x10000000000000000) : ofInt64 m = .integer n low high := by
  subst h
  rfl

mutual

theorem toJson_ofJson : (j : Json) → (Value.ofJson j).toJson = j.rounded
  | .integer n low high => by
    rw [Value.ofJson, rounded]
    by_cases h : 0x8000000000000000 ≤ n
    · rw [if_neg (by omega), dif_pos h]
      exact dif_pos (Binary64.isFinite_ofInt h high)
    · rw [if_pos (by omega), dif_neg h]
      exact ofInt64_eq (Int64.toInt_ofInt_of_le low (by omega)) low high
  | .float _ finite => dif_pos finite
  | .array items => congrArg Json.array (toJsonItems_ofJsonItems items)
  | .object fields => congrArg Json.object (toJsonFields_ofJsonFields fields)
  | .null | .boolean _ | .string _ => rfl

theorem toJsonItems_ofJsonItems : (items : List Json) →
    Value.toJsonItems (Value.ofJsonItems items) = roundedItems items
  | [] => rfl
  | item :: items => by
    rw [Value.ofJsonItems, Value.toJsonItems, roundedItems, toJson_ofJson item,
      toJsonItems_ofJsonItems items]

theorem toJsonFields_ofJsonFields : (fields : List (String × Json)) →
    Value.toJsonFields (Value.ofJsonFields fields) = roundedFields fields
  | [] => rfl
  | (key, item) :: fields => by
    rw [Value.ofJsonFields, Value.toJsonFields, roundedFields, toJson_ofJson item,
      toJsonFields_ofJsonFields fields]

end

end Json

/-! ### From a value to a document and back -/

namespace Value

mutual

/-- The value with null for the floats that are no numbers. -/
def finite : Value → Value
  | .null => .null
  | .boolean b => .boolean b
  | .float x => if x.isFinite then .float x else .null
  | .integer n => .integer n
  | .string s => .string s
  | .array items => .array (finiteItems items)
  | .object fields => .object (finiteFields fields)

def finiteItems : List Value → List Value
  | [] => []
  | item :: items => item.finite :: finiteItems items

def finiteFields : List (String × Value) → List (String × Value)
  | [] => []
  | (key, item) :: fields => (key, item.finite) :: finiteFields fields

end

mutual

theorem ofJson_toJson : (v : Value) → ofJson v.toJson = v.finite
  | .float x => by
    rw [toJson, finite, Json.ofBinary64]
    split_ifs <;> rfl
  | .integer n => by
    have hlt : n.toInt < 0x8000000000000000 := Int64.toInt_lt n
    rw [toJson, finite, Json.ofInt64, ofJson, if_pos hlt, Int64.ofInt_toInt]
  | .array items => congrArg Value.array (ofJsonItems_toJsonItems items)
  | .object fields => congrArg Value.object (ofJsonFields_toJsonFields fields)
  | .null | .boolean _ | .string _ => rfl

theorem ofJsonItems_toJsonItems : (items : List Value) →
    ofJsonItems (toJsonItems items) = finiteItems items
  | [] => rfl
  | item :: items => by
    rw [toJsonItems, ofJsonItems, finiteItems, ofJson_toJson item, ofJsonItems_toJsonItems items]

theorem ofJsonFields_toJsonFields : (fields : List (String × Value)) →
    ofJsonFields (toJsonFields fields) = finiteFields fields
  | [] => rfl
  | (key, item) :: fields => by
    rw [toJsonFields, ofJsonFields, finiteFields, ofJson_toJson item,
      ofJsonFields_toJsonFields fields]

end

end Value

/-- The selector of the whole row gives a document with floats for the integers beyond the signed
range, which is the document itself exactly if there are none. A value that is written and read
again has null for the floats that are no numbers, and is otherwise the same. -/
theorem selected_whole_row :
    (∀ (parameter : String) (row : Json),
      let whole : Selector := ⟨parameter, .name parameter⟩
      selected (some whole) row = .ok row.rounded ∧
        (selected (some whole) row = .ok row ↔ row.Signed)) ∧
    ∀ v : Value, Value.ofJson v.toJson = v.finite := by
  refine ⟨fun parameter row => ?_, Value.ofJson_toJson⟩
  intro whole
  have hbind : whole.bind (.ofJson row) = .ok (.ofJson row) := by
    simp [whole, Selector.bind, Expr.eval]
  have hselected : selected (some whole) row = .ok row.rounded := by
    rw [selected, hbind, ← Json.toJson_ofJson]
    rfl
  refine ⟨hselected, ?_⟩
  rw [hselected, Except.ok.injEq]
  exact row.rounded_eq_self_iff

end Projections
