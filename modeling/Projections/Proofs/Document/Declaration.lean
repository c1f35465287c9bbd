import Mathlib.Logic.Function.Iterate
import Projections.Document.Variable

/-! The declared types of variables and the values they admit. The type for a value is that of
what stands first in it, inside as many lists as there are arrays around that. It admits the
value exactly if nothing but arrays and nulls stands around, and what stands as deep as the
first suits the first. -/

namespace Projections

namespace VariableType

/-- The values of a type. Null is of every type, and an integer is a float as well. -/
inductive Admits : VariableType → Json → Prop
  | null (type : VariableType) : Admits type .null
  | boolean (flag : Bool) : Admits .boolean (.boolean flag)
  | int (value : Int) (low : -0x8000000000000000 ≤ value) (high : value < 0x10000000000000000) :
      Admits .int (.integer value low high)
  | whole (value : Int) (low : -0x8000000000000000 ≤ value) (high : value < 0x10000000000000000) :
      Admits .float (.integer value low high)
  | float (value : Binary64) (finite : value.isFinite = true) :
      Admits .float (.float value finite)
  | string (text : String) : Admits .string (.string text)
  | json (value : Json) : Admits .json value
  | list {element : VariableType} {items : List Json} (h : ∀ item ∈ items, Admits element item) :
      Admits (.list element) (.array items)

theorem admits_list_iff {element : VariableType} {items : List Json} :
    (list element).Admits (.array items) ↔ ∀ item ∈ items, element.Admits item := by
  constructor
  · rintro ⟨⟩
    assumption
  · exact .list

end VariableType

/-! ### Levels of a value -/

namespace Json

/-- How many arrays stand around what is first in a value. -/
def depth : Json → Nat
  | .array [] => 1
  | .array (item :: _) => item.depth + 1
  | _ => 0

/-- What is first in a value, below all arrays. In an empty array null stands for it. -/
def leader : Json → Json
  | .array [] => .null
  | .array (item :: _) => item.leader
  | value => value

/-- What stands below so many arrays. -/
def level : Nat → Json → List Json
  | 0, value => [value]
  | n + 1, .array items => items.flatMap (level n)
  | _ + 1, _ => []

/-- Every value above the given level is an array or null. -/
def OpenAbove (n : Nat) (value : Json) : Prop :=
  ∀ k < n, ∀ part ∈ value.level k, part = .null ∨ ∃ items, part = .array items

/-- `first.Suits part`: the part may stand where the first does. Null may stand anywhere, a value
of the same kind may, an integer may stand for a float, and anything for an object. Of null it is
only known that a text may. -/
inductive Suits : Json → Json → Prop
  | null (first : Json) : Suits first .null
  | boolean (flag other : Bool) : Suits (.boolean flag) (.boolean other)
  | integer (m : Int) (lowM : -0x8000000000000000 ≤ m) (highM : m < 0x10000000000000000)
      (n : Int) (lowN : -0x8000000000000000 ≤ n) (highN : n < 0x10000000000000000) :
      Suits (.integer m lowM highM) (.integer n lowN highN)
  | whole (x : Binary64) (finite : x.isFinite = true)
      (n : Int) (low : -0x8000000000000000 ≤ n) (high : n < 0x10000000000000000) :
      Suits (.float x finite) (.integer n low high)
  | float (x : Binary64) (finite : x.isFinite = true)
      (y : Binary64) (other : y.isFinite = true) : Suits (.float x finite) (.float y other)
  | string (text other : String) : Suits (.string text) (.string other)
  | text (other : String) : Suits .null (.string other)
  | object (fields : List (String × Json)) (part : Json) : Suits (.object fields) part

theorem suits_self {value : Json} (h : ∀ items, value ≠ .array items) : value.Suits value := by
  cases value with
  | array items => exact absurd rfl (h items)
  | null | boolean _ | integer _ _ _ | float _ _ | string _ | object _ => constructor

/-- What is first below all arrays is no array. -/
theorem leader_ne_array : ∀ (value : Json) (items : List Json), value.leader ≠ .array items
  | .array (item :: _), items => by
    rw [leader]
    exact leader_ne_array item items
  | .array [], _ | .null, _ | .boolean _, _ | .integer _ _ _, _ | .float _ _, _ | .string _, _
  | .object _, _ => nofun

theorem openAbove_succ_array {n : Nat} {items : List Json} :
    (Json.array items).OpenAbove (n + 1) ↔ ∀ item ∈ items, item.OpenAbove n := by
  constructor
  · intro h item hitem k hk part hpart
    exact h (k + 1) (Nat.succ_lt_succ hk) part (List.mem_flatMap.2 ⟨item, hitem, hpart⟩)
  · rintro h (_ | k) hk part hpart
    · exact .inr ⟨items, List.mem_singleton.1 hpart⟩
    · obtain ⟨item, hitem, hpart⟩ := List.mem_flatMap.1 hpart
      exact h item hitem k (Nat.lt_of_succ_lt_succ hk) part hpart

end Json

namespace VariableType

/-- A type inside lists admits what is an array or null down to a level, and of the type there. -/
theorem admits_lists_iff (n : Nat) (type : VariableType) (value : Json) :
    (list^[n] type).Admits value ↔
      value.OpenAbove n ∧ ∀ part ∈ value.level n, type.Admits part := by
  induction n generalizing value with
  | zero => simp [Json.OpenAbove, Json.level]
  | succ n ih =>
    rw [Function.iterate_succ_apply']
    cases value with
    | array items =>
      simp only [admits_list_iff, ih, Json.openAbove_succ_array, forall_and, Json.level,
        List.mem_flatMap]
      refine and_congr_right' ⟨?_, ?_⟩
      · rintro h part ⟨item, hitem, hpart⟩
        exact h item hitem part hpart
      · exact fun h item hitem part hpart => h part ⟨item, hitem, hpart⟩
    | null =>
      refine iff_of_true (.null _) ⟨?_, nofun⟩
      rintro (_ | k) - part hpart
      · exact .inl (List.mem_singleton.1 hpart)
      · cases hpart
    | boolean _ | integer _ _ _ | float _ _ | string _ | object _ =>
      -- no list admits it, and it stands above the level itself
      refine iff_of_false nofun fun h => ?_
      rcases h.1 0 (Nat.zero_lt_succ n) _ (List.mem_singleton_self _) with hnull | ⟨items, harray⟩
      · cases hnull
      · cases harray

/-- The type for a value is that of what is first in it, inside lists. -/
theorem ofJson_eq : ∀ value : Json, ofJson value = list^[value.depth] (ofJson value.leader)
  | .array (item :: _) => by
    rw [ofJson, Json.depth, Json.leader, Function.iterate_succ_apply', ← ofJson_eq item]
  | .array [] | .null | .boolean _ | .integer _ _ _ | .float _ _ | .string _ | .object _ => rfl

/-- The type for a value that is no array admits exactly what suits the value. -/
theorem ofJson_admits_single {value part : Json} (h : ∀ items, value ≠ .array items) :
    (ofJson value).Admits part ↔ value.Suits part := by
  constructor
  · intro hadmits
    cases value with
    | array items => exact absurd rfl (h items)
    | null | boolean _ | integer _ _ _ | float _ _ | string _ | object _ =>
      cases hadmits <;> constructor
  · intro hsuits
    cases hsuits <;> constructor

/-- The type for a value admits it exactly if all values above what is first in it are arrays or
null, and all values as deep as that suit it. So it admits every value that is no array. -/
theorem ofJson_admits_iff (value : Json) :
    ((ofJson value).Admits value ↔ value.OpenAbove value.depth ∧
      ∀ part ∈ value.level value.depth, value.leader.Suits part) ∧
    ((∀ items, value ≠ .array items) → (ofJson value).Admits value) := by
  refine ⟨?_, fun h => (ofJson_admits_single h).2 (Json.suits_self h)⟩
  rw [ofJson_eq, admits_lists_iff]
  exact and_congr_right' (forall₂_congr fun part _ => ofJson_admits_single value.leader_ne_array)

/-- One and two and a half are admitted if the half comes first, and not if one does; nor is one
after null. -/
theorem order_of_elements_matters :
    let one : Json := .integer 1 (by decide) (by decide)
    let half : Json := .float ⟨false, ⟨0x4004000000000000, by decide⟩⟩ (by decide)
    (ofJson (.array [half, one])).Admits (.array [half, one]) ∧
      ¬ (ofJson (.array [one, half])).Admits (.array [one, half]) ∧
      ¬ (ofJson (.array [.null, one])).Admits (.array [.null, one]) := by
  intro one half
  refine ⟨.list ?_, fun h => ?_, fun h => ?_⟩
  · exact List.forall_mem_cons.2 ⟨.float .., List.forall_mem_singleton.2 (.whole ..)⟩
  · have hhalf : int.Admits (.float _ _) := admits_list_iff.1 h half (by simp)
    cases hhalf
  · have hone : string.Admits (.integer _ _ _) := admits_list_iff.1 h one (by simp)
    cases hone

end VariableType

end Projections
