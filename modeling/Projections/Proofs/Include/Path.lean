import Mathlib.Data.List.Find
import Mathlib.Data.List.Forall2
import Projections.Include.Path
import Projections.Proofs.Row.Fields

/-! Laws of include paths: the text splits into the names it was joined from, joining
loses no operator, and a segment that names one finds one that agrees with it. -/

namespace Projections

/-! ### Agreement -/

theorem Binary64.agrees_self {x : Binary64} (h : x.isNaN = false) : x.agrees x = true := by
  simp [Binary64.agrees, h]

theorem Binary64.agrees_trans {x y z : Binary64} (hxy : x.agrees y = true)
    (hyz : y.agrees z = true) : x.agrees z = true := by
  simp only [Binary64.agrees, Bool.and_eq_true, beq_iff_eq] at *
  exact ⟨⟨hxy.1.1, hyz.1.2⟩, hxy.2.trans hyz.2⟩

namespace Literal

/-- A literal that is no non-number. -/
def Proper : Literal → Prop
  | .float x => x.isNaN = false
  | _ => True

theorem agrees_self {a : Literal} (h : a.Proper) : a.agrees a = true := by
  cases a with
  | float x => exact Binary64.agrees_self h
  | _ => simp [agrees]

theorem agrees_trans {a b c : Literal} (hab : a.agrees b = true) (hbc : b.agrees c = true) :
    a.agrees c = true := by
  cases a with
  | float x =>
    cases b with
    | float y =>
      cases c with
      | float z => exact Binary64.agrees_trans hab hbc
      | _ => cases hbc
    | _ => cases hab
  | null => cases b <;> first | exact hbc | cases hab
  | boolean p => cases b <;> first | cases hab | (obtain rfl := eq_of_beq hab; exact hbc)
  | integer m => cases b <;> first | cases hab | (obtain rfl := eq_of_beq hab; exact hbc)
  | string s => cases b <;> first | cases hab | (obtain rfl := eq_of_beq hab; exact hbc)

end Literal

namespace Application

/-- Every argument agrees with itself. -/
def Proper (a : Application) : Prop := ∀ entry ∈ a.arguments, entry.2.Proper

/-- Arguments of one parameter with agreeing literals. -/
def SameArgument (x y : String × Literal) : Prop := x.1 = y.1 ∧ x.2.agrees y.2 = true

theorem agrees_iff {a b : Application} :
    a.agrees b = true ↔
      a.operator = b.operator ∧ List.Forall₂ SameArgument a.arguments b.arguments := by
  simp only [agrees, Bool.and_eq_true, beq_iff_eq, List.all_eq_true, List.forall₂_iff_zip,
    and_assoc]
  constructor
  · rintro ⟨ho, hl, hz⟩
    exact ⟨ho, hl, fun hm => hz _ hm⟩
  · rintro ⟨ho, hl, hz⟩
    exact ⟨ho, hl, fun _ hm => hz hm⟩

theorem agrees_self {a : Application} (h : a.Proper) : a.agrees a = true :=
  agrees_iff.2 ⟨rfl, List.forall₂_same.2 fun _ he => ⟨rfl, Literal.agrees_self (h _ he)⟩⟩

theorem sameArguments_trans {xs ys zs : List (String × Literal)}
    (hxy : List.Forall₂ SameArgument xs ys) (hyz : List.Forall₂ SameArgument ys zs) :
    List.Forall₂ SameArgument xs zs := by
  induction hxy generalizing zs with
  | nil => exact hyz
  | cons h _ ih =>
    cases hyz with
    | cons h' hrest => exact .cons ⟨h.1.trans h'.1, Literal.agrees_trans h.2 h'.2⟩ (ih hrest)

theorem agrees_trans {a b c : Application} (hab : a.agrees b = true) (hbc : b.agrees c = true) :
    a.agrees c = true := by
  obtain ⟨hab, hxy⟩ := agrees_iff.1 hab
  obtain ⟨hbc, hyz⟩ := agrees_iff.1 hbc
  exact agrees_iff.2 ⟨hab.trans hbc, sameArguments_trans hxy hyz⟩

end Application

/-! ### Text -/

theorem splitAtDots_ne_nil (cs : List Char) : splitAtDots cs ≠ [] := by
  cases cs with
  | nil => simp [splitAtDots]
  | cons c rest =>
    rw [splitAtDots]
    split
    · simp
    · split_ifs <;> simp

theorem splitAtDots_cons_dot (rest : List Char) :
    splitAtDots ('.' :: rest) = [] :: splitAtDots rest := by
  rw [splitAtDots]
  split
  · next h => exact absurd h (splitAtDots_ne_nil rest)
  · next part parts h => rw [if_pos rfl, h]

/-- Parts before a dot and parts after it. -/
theorem splitAtDots_append_dot (front back : List Char) :
    splitAtDots (front ++ '.' :: back) = splitAtDots front ++ splitAtDots back := by
  induction front with
  | nil => exact splitAtDots_cons_dot back
  | cons c rest ih =>
    by_cases hc : c = '.'
    · subst hc
      rw [List.cons_append, splitAtDots_cons_dot, splitAtDots_cons_dot, ih, List.cons_append]
    · obtain ⟨part, parts, hp⟩ := List.exists_cons_of_ne_nil (splitAtDots_ne_nil rest)
      simp [splitAtDots, ih, hp, hc]

theorem splitAtDots_of_not_mem {cs : List Char} (h : '.' ∉ cs) : splitAtDots cs = [cs] := by
  induction cs with
  | nil => rfl
  | cons c rest ih =>
    simp only [List.mem_cons, not_or] at h
    simp [splitAtDots, ih h.2, Ne.symm h.1]

namespace Path

theorem segments_of_extended {path next : Path} {name : String} (hn : '.' ∉ name.toList)
    (h : next.text = some (path.extended name)) : next.segments = path.segments ++ [name] := by
  simp only [segments, h, extended]
  cases path.text with
  | none => simp [splitAtDots_of_not_mem hn]
  | some text => simp [splitAtDots_append_dot, splitAtDots_of_not_mem hn]

theorem segments_of_joined {path element next : Path} {front back : String}
    (hf : path.text = some front) (hb : element.text = some back)
    (h : next.text = some (front ++ "." ++ back)) :
    next.segments = path.segments ++ element.segments := by
  simp [segments, hf, hb, h, splitAtDots_append_dot]

/-! ### Joined lists of applications -/

theorem place_spec (applications : List Application) {a : Application} (ha : a.Proper) :
    (∃ more, (place applications a).1 = applications ++ more) ∧
      ∃ b, (place applications a).1[(place applications a).2]? = some b ∧ b.agrees a = true := by
  unfold place
  split
  · next index h =>
    obtain ⟨hlt, hb, -⟩ := List.findIdx?_eq_some_iff_getElem.1 h
    exact ⟨⟨[], by simp⟩, applications[index], List.getElem?_eq_getElem hlt, hb⟩
  · exact ⟨⟨[a], rfl⟩, a, by simp, Application.agrees_self ha⟩

/-- Joining keeps what is there in its place, and finds or adds every application. -/
theorem merge_spec {elements : List Application} (he : ∀ a ∈ elements, a.Proper)
    (applications : List Application) :
    (∃ more, (merge applications elements).1 = applications ++ more) ∧
      ∀ (k : Nat) (a : Application), elements[k]? = some a →
        ∃ index b, (merge applications elements).2[k]? = some index ∧
          (merge applications elements).1[index]? = some b ∧ b.agrees a = true := by
  induction elements generalizing applications with
  | nil => exact ⟨⟨[], by simp [merge]⟩, by simp⟩
  | cons first rest ih =>
    obtain ⟨⟨more, hm⟩, b, hb, hagrees⟩ :=
      place_spec applications (he first (List.mem_cons_self ..))
    obtain ⟨⟨more', hm'⟩, hrest⟩ :=
      ih (fun a ha => he a (List.mem_cons_of_mem _ ha)) (place applications first).1
    refine ⟨⟨more ++ more', by rw [merge, hm', hm, List.append_assoc]⟩, ?_⟩
    rintro (_ | k) a ha
    · cases ha
      refine ⟨(place applications first).2, b, rfl, ?_, hagrees⟩
      rw [merge, hm', List.getElem?_append_left (List.getElem?_eq_some_iff.1 hb).1, hb]
    · exact hrest k a ha

theorem mem_place {applications : List Application} {a b : Application}
    (h : b ∈ (place applications a).1) : b ∈ applications ∨ b = a := by
  unfold place at h
  split at h
  · exact .inl h
  · simpa using h

theorem mem_merge {applications elements : List Application} {a : Application}
    (h : a ∈ (merge applications elements).1) : a ∈ applications ∨ a ∈ elements := by
  induction elements generalizing applications with
  | nil => exact .inl h
  | cons first rest ih =>
    rcases ih h with h | h
    · exact (mem_place h).imp_right fun ha => by rw [ha]; exact List.mem_cons_self ..
    · exact .inr (List.mem_cons_of_mem _ h)

/-! ### Operators at segments -/

theorem operatorAt?_eq (path : Path) (i : Nat) :
    path.operatorAt? i =
      (path.placements.find? (·.1 == i)).bind fun p => path.applications[p.2]? := by
  unfold operatorAt?
  split
  · next h => rw [h, Option.bind_some]
  · next h => rw [h, Option.bind_none]

theorem mem_of_operatorAt? {path : Path} {i : Nat} {a : Application}
    (h : path.operatorAt? i = some a) : a ∈ path.applications := by
  rw [operatorAt?_eq, Option.bind_eq_some_iff] at h
  obtain ⟨p, -, ha⟩ := h
  exact List.mem_of_getElem? ha

theorem find?_of_lt {placements : List (Nat × Nat)} {bound i : Nat}
    (h : ∀ p ∈ placements, p.1 < bound) (hi : bound ≤ i) :
    placements.find? (·.1 == i) = none := by
  refine List.find?_eq_none.2 fun p hp => ?_
  have := h p hp
  simp only [beq_iff_eq]
  omega

/-- An operator applied stands at the new segment; those before it are where they were. -/
theorem operatorAt?_apply {path : Path} (a : Application)
    (h : ∀ p ∈ path.placements, p.1 < path.segments.length) (i : Nat) :
    (path.apply a).operatorAt? i =
      if i = path.segments.length then some a else path.operatorAt? i := by
  have hshift : ((fun p : Nat × Nat => p.1 == i) ∘ fun p => (p.1, p.2 + 1)) =
      fun p : Nat × Nat => p.1 == i := rfl
  rw [operatorAt?_eq, operatorAt?_eq, apply, List.find?_append, List.find?_map, hshift]
  split_ifs with hi
  · rw [find?_of_lt h (Nat.le_of_eq hi.symm)]
    simp [hi]
  · have hb : (path.segments.length == i) = false := beq_false_of_ne (Ne.symm hi)
    cases path.placements.find? (·.1 == i) <;> simp [hb]

section Join

variable {path element next : Path}

/-- Where the operators of the second path stand after joining. -/
def moved (path element : Path) : List (Nat × Nat) :=
  element.placements.filterMap fun (segment, index) =>
    ((merge path.applications element.applications).2[index]?).map fun index =>
      (path.segments.length + segment, index)

theorem join?_eq_some (h : path.join? element = some next) :
    ∃ front back, path.text = some front ∧ element.text = some back ∧
      next.text = some (front ++ "." ++ back) ∧
      next.applications = (merge path.applications element.applications).1 ∧
      next.placements = path.placements ++ moved path element := by
  unfold join? at h
  split at h
  · next front back hf hb =>
    cases h
    exact ⟨front, back, hf, hb, rfl, rfl, rfl⟩
  · cases h

theorem mem_moved {p : Nat × Nat} (h : p ∈ moved path element) :
    ∃ q ∈ element.placements, p.1 = path.segments.length + q.1 ∧
      (merge path.applications element.applications).2[q.2]? = some p.2 := by
  obtain ⟨q, hq, hp⟩ := List.mem_filterMap.1 h
  obtain ⟨index, hindex, rfl⟩ := Option.map_eq_some_iff.1 hp
  exact ⟨q, hq, rfl, hindex⟩

theorem le_of_mem_moved {p : Nat × Nat} (h : p ∈ moved path element) :
    path.segments.length ≤ p.1 := by
  obtain ⟨q, -, hq, -⟩ := mem_moved h
  exact hq ▸ Nat.le_add_right _ _

/-- Segments of the first path find what they found. -/
theorem operatorAt?_join_left (h : path.join? element = some next)
    (hp : ∀ p ∈ path.placements, p.2 < path.applications.length)
    (he : ∀ a ∈ element.applications, a.Proper) {i : Nat} (hi : i < path.segments.length) :
    next.operatorAt? i = path.operatorAt? i := by
  obtain ⟨_, _, -, -, -, happ, hpl⟩ := join?_eq_some h
  obtain ⟨⟨more, hm⟩, -⟩ := merge_spec he path.applications
  have hnone : (moved path element).find? (·.1 == i) = none := by
    refine List.find?_eq_none.2 fun p hm => ?_
    have := le_of_mem_moved hm
    simp only [beq_iff_eq]
    omega
  rw [operatorAt?_eq, operatorAt?_eq, happ, hpl, hm, List.find?_append, hnone, Option.or_none]
  cases hf : path.placements.find? (·.1 == i) with
  | none => rfl
  | some p => exact List.getElem?_append_left (hp p (List.mem_of_find?_eq_some hf))

/-- Segments of the second path find, after those of the first, what agrees with what they
found. -/
theorem operatorAt?_join_right (h : path.join? element = some next)
    (hp : ∀ p ∈ path.placements, p.1 < path.segments.length)
    (hq : ∀ p ∈ element.placements, p.2 < element.applications.length)
    (he : ∀ a ∈ element.applications, a.Proper) (i : Nat) :
    (element.operatorAt? i = none → next.operatorAt? (path.segments.length + i) = none) ∧
      ∀ a, element.operatorAt? i = some a →
        ∃ b, next.operatorAt? (path.segments.length + i) = some b ∧ b.agrees a = true := by
  obtain ⟨_, _, -, -, -, happ, hpl⟩ := join?_eq_some h
  obtain ⟨-, hfind⟩ := merge_spec he path.applications
  have hmoved : (moved path element).find? (·.1 == path.segments.length + i) =
      (element.placements.find? (·.1 == i)).bind fun p =>
        ((merge path.applications element.applications).2[p.2]?).map fun index =>
          (path.segments.length + p.1, index) := by
    rw [moved, List.find?_filterMap]
    congr 1
    refine List.find?_congr fun p hm => ?_
    obtain ⟨index, b, hindex, -, -⟩ := hfind p.2 _ (List.getElem?_eq_getElem (hq p hm))
    simp [hindex]
  rw [operatorAt?_eq, operatorAt?_eq, happ, hpl, List.find?_append,
    find?_of_lt hp (Nat.le_add_right _ _), Option.none_or, hmoved]
  cases hf : element.placements.find? (·.1 == i) with
  | none => simp
  | some p =>
    have ha := List.getElem?_eq_getElem (hq p (List.mem_of_find?_eq_some hf))
    obtain ⟨index, b, hindex, hb, hagrees⟩ := hfind p.2 _ ha
    simp only [Option.bind_some, ha, hindex, Option.map_some, hb]
    refine ⟨fun hn => absurd hn (by simp), fun a he => ⟨b, rfl, ?_⟩⟩
    cases he
    exact hagrees

end Join

end Path

end Projections
