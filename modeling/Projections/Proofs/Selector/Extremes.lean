import Projections.Proofs.Selector.Shorthand

/-! Least and greatest elements of arrays in which integers may be missing. Nothing is ordered
before or after null, so a null that stands first is never replaced; after an integer nulls are
passed over, and the outermost integer is found. -/

namespace Projections

/-- The integer that no other one precedes in a direction, or null where there is no integer. -/
inductive Outermost (le : Int64 → Int64 → Prop) (items : List Value) : Value → Prop
  | integer {n : Int64} (hmem : .integer n ∈ items) (h : ∀ k, .integer k ∈ items → le n k) :
      Outermost le items (.integer n)
  | null (h : ∀ n, .integer n ∉ items) : Outermost le items .null

/-- What a search in a direction finds: nothing but null where null stands first, and else the
outermost integer. -/
structure Found (le : Int64 → Int64 → Prop) (items : List Value) (v : Value) : Prop where
  null_first : items.head? = some .null → v = .null
  outermost : items.head? ≠ some .null → Outermost le items v

/-- Every element is an integer or missing. -/
def Countable (items : List Value) : Prop := ∀ v ∈ items, v = .null ∨ ∃ n, v = .integer n

namespace Method

/-- What comparison finds in a direction comes before in it. -/
structure Directed (wanted : Ordering) (le : Int64 → Int64 → Prop) : Prop where
  refl : ∀ n, le n n
  antisymm : ∀ n k, le n k → le k n → n = k
  trans : ∀ n k l, le n k → le k l → le n l
  before : ∀ n k : Int64, compare k.toInt n.toInt = wanted → le k n
  stays : ∀ n k : Int64, compare k.toInt n.toInt ≠ wanted → le n k

theorem directed_lt : Directed .lt (· ≤ ·) where
  refl := Int64.le_refl
  antisymm _ _ := Int64.le_antisymm
  trans _ _ _ := Int64.le_trans
  before _ _ h := Int64.le_iff_toInt_le.2 (Int.le_of_lt (Int.compare_eq_lt.1 h))
  stays _ _ h := Int64.le_iff_toInt_le.2 (Int.not_lt.1 (mt Int.compare_eq_lt.2 h))

theorem directed_gt : Directed .gt (· ≥ ·) where
  refl := Int64.le_refl
  antisymm _ _ h h' := Int64.le_antisymm h' h
  trans _ _ _ h h' := Int64.le_trans h' h
  before _ _ h := Int64.le_iff_toInt_le.2 (Int.le_of_lt (Int.compare_eq_gt.1 h))
  stays _ _ h := Int64.le_iff_toInt_le.2 (Int.not_lt.1 (mt Int.compare_eq_gt.2 h))

/-- Nothing has an order with null. -/
theorem order?_null (v : Value) : v.order? .null = none ∧ Value.null.order? v = none := by
  cases v <;> exact ⟨rfl, rfl⟩

/-- A null that stands first stays. -/
theorem foldl_better_null (wanted : Ordering) (items : List Value) :
    items.foldl (better wanted) (some .null) = some .null := by
  induction items with
  | nil => rfl
  | cons v rest ih =>
    rw [List.foldl_cons, better, (order?_null v).1, if_neg (Option.some_ne_none _).symm, ih]

section Directions

variable {wanted : Ordering} {le : Int64 → Int64 → Prop} (hdir : Directed wanted le)
  {items : List Value}

include hdir

/-- One element more: the best integer so far is kept or replaced by one before it. -/
theorem better_integer (n : Int64) {v : Value} (hv : v = .null ∨ ∃ k, v = .integer k) :
    ∃ m, better wanted (some (.integer n)) v = some (.integer m) ∧
      .integer m ∈ [.integer n, v] ∧ ∀ k, .integer k ∈ [.integer n, v] → le m k := by
  rcases hv with rfl | ⟨k, rfl⟩
  · refine ⟨n, ?_, by simp, fun k hk => ?_⟩
    · rw [better, (order?_null _).2, if_neg (Option.some_ne_none _).symm]
    · obtain rfl : k = n := by simpa using hk
      exact hdir.refl k
  · have horder : (Value.integer k).order? (.integer n) = some (compare k.toInt n.toInt) := rfl
    rw [better, horder]
    by_cases h : compare k.toInt n.toInt = wanted
    · refine ⟨k, if_pos (congrArg some h), by simp, ?_⟩
      simpa using ⟨hdir.before n k h, hdir.refl k⟩
    · refine ⟨n, if_neg fun hsome => h (Option.some.inj hsome), by simp, ?_⟩
      simpa using ⟨hdir.refl n, hdir.stays n k h⟩

/-- After an integer, the outermost of it and the rest is found. -/
theorem foldl_better_integer (n : Int64) (h : Countable items) :
    ∃ m, items.foldl (better wanted) (some (.integer n)) = some (.integer m) ∧
      .integer m ∈ .integer n :: items ∧ ∀ k, .integer k ∈ .integer n :: items → le m k := by
  induction items generalizing n with
  | nil => exact ⟨n, rfl, by simp, by simpa using hdir.refl n⟩
  | cons v rest ih =>
    obtain ⟨hv, hrest⟩ := List.forall_mem_cons.1 h
    obtain ⟨m, hbetter, hm, hmle⟩ := better_integer hdir n hv
    obtain ⟨l, hfold, hl, hlle⟩ := ih m hrest
    have hlm : le l m := hlle m (List.mem_cons_self ..)
    have hsplit : Value.integer n :: v :: rest = [.integer n, v] ++ rest := rfl
    rw [List.foldl_cons, hbetter, hsplit]
    refine ⟨l, hfold, List.mem_append.2 ?_, fun k hk => ?_⟩
    · rcases List.mem_cons.1 hl with heq | hin
      · exact .inl (heq ▸ hm)
      · exact .inr hin
    · rcases List.mem_append.1 hk with hk | hk
      · exact hdir.trans l m k hlm (hmle k hk)
      · exact hlle k (List.mem_cons_of_mem _ hk)

/-- The elements themselves are compared where there is no argument. -/
theorem extreme_found (m : Method) (h : Countable items) :
    ∃ v, extreme wanted (m.contribution []) items = .ok v ∧ Found le items v := by
  have hfold : extreme wanted (m.contribution []) items =
      .ok ((items.foldl (better wanted) none).getD .null) := by
    change (items.foldlM (fun best item => pure (better wanted best item)) none >>= _) = _
    rw [List.foldlM_pure]
    rfl
  refine ⟨_, hfold, ?_⟩
  cases items with
  | nil => exact ⟨nofun, fun _ => .null fun n => List.not_mem_nil⟩
  | cons first rest =>
    obtain ⟨hfirst, hrest⟩ := List.forall_mem_cons.1 h
    rw [List.foldl_cons, better]
    rcases hfirst with rfl | ⟨n, rfl⟩
    · rw [foldl_better_null]
      exact ⟨fun _ => rfl, fun hne => absurd rfl hne⟩
    · obtain ⟨m, hm, hmem, hle⟩ := foldl_better_integer hdir n hrest
      rw [hm]
      exact ⟨nofun, fun _ => .integer hmem hle⟩

/-- What is found depends on the elements and on whether null stands first. -/
theorem found_unique {items' : List Value} {v v' : Value} (h : Found le items v)
    (h' : Found le items' v') (hperm : items'.Perm items)
    (hhead : items'.head? = some .null ↔ items.head? = some .null) : v' = v := by
  by_cases hnull : items.head? = some .null
  · rw [h.null_first hnull, h'.null_first (hhead.2 hnull)]
  · cases h.outermost hnull with
    | null hnone =>
      cases h'.outermost (mt hhead.1 hnull) with
      | null _ => rfl
      | integer hmem _ => exact absurd (hperm.mem_iff.1 hmem) (hnone _)
    | integer hmem hle =>
      cases h'.outermost (mt hhead.1 hnull) with
      | null hnone => exact absurd (hperm.mem_iff.2 hmem) (hnone _)
      | integer hmem' hle' =>
        have hfirst := hle' _ (hperm.mem_iff.2 hmem)
        have hlast := hle _ (hperm.mem_iff.1 hmem')
        exact congrArg _ (hdir.antisymm _ _ hfirst hlast)

end Directions

end Method

/-! ### Expressions -/

namespace Expr

open Method (extreme_found found_unique directed_lt directed_gt)

variable {base : Expr} {scope : Scope} {items : List Value}

theorem eval_extreme_found (hbase : base.eval scope = .ok (.array items)) (h : Countable items) :
    ∃ least greatest, (Expr.call base "Min" []).eval scope = .ok least ∧
      (Expr.call base "Max" []).eval scope = .ok greatest ∧
      Found (· ≤ ·) items least ∧ Found (· ≥ ·) items greatest := by
  obtain ⟨least, hleast, hmin⟩ := extreme_found directed_lt .min h
  obtain ⟨greatest, hgreatest, hmax⟩ := extreme_found directed_gt .max h
  refine ⟨least, greatest, (eval_call base scope .min []).trans ?_,
    (eval_call base scope .max []).trans ?_, hmin, hmax⟩
  · rw [hbase]
    exact hleast
  · rw [hbase]
    exact hgreatest

/-- Of integers, some of which may be missing, `Min` is the least and `Max` the greatest, if the
first is not missing; in any other order of the elements that does not start with a missing one
they are the same. If the first is missing, they are null. -/
theorem eval_extremes (hbase : base.eval scope = .ok (.array items)) (h : Countable items) :
    ∃ least greatest, (Expr.call base "Min" []).eval scope = .ok least ∧
      (Expr.call base "Max" []).eval scope = .ok greatest ∧
      Found (· ≤ ·) items least ∧ Found (· ≥ ·) items greatest ∧
      ∀ (base' : Expr) (scope' : Scope) (items' : List Value),
        base'.eval scope' = .ok (.array items') → items'.Perm items →
        (items'.head? = some .null ↔ items.head? = some .null) →
        (Expr.call base' "Min" []).eval scope' = .ok least ∧
          (Expr.call base' "Max" []).eval scope' = .ok greatest := by
  obtain ⟨least, greatest, hleast, hgreatest, hmin, hmax⟩ := eval_extreme_found hbase h
  refine ⟨least, greatest, hleast, hgreatest, hmin, hmax, ?_⟩
  intro base' scope' items' hbase' hperm hhead
  have h' : Countable items' := fun v hv => h v (hperm.mem_iff.1 hv)
  obtain ⟨least', greatest', hleast', hgreatest', hmin', hmax'⟩ := eval_extreme_found hbase' h'
  rw [hleast', hgreatest', found_unique directed_lt hmin hmin' hperm hhead,
    found_unique directed_gt hmax hmax' hperm hhead]
  exact ⟨rfl, rfl⟩

/-- A vote that is missing in the middle does not count, also in another order. -/
theorem eval_extremes_of_votes :
    let items : List Value := [.integer 2, .null, .integer (-3)]
    let other : List Value := [.integer (-3), .integer 2, .null]
    let scope (votes : List Value) : Scope := [("votes", .array votes)]
    (Expr.name "votes").eval (scope items) = .ok (.array items) ∧ Countable items ∧
      (Expr.call (.name "votes") "Min" []).eval (scope items) = .ok (.integer (-3)) ∧
      (Expr.call (.name "votes") "Max" []).eval (scope items) = .ok (.integer 2) ∧
      Found (· ≤ ·) items (.integer (-3)) ∧ Found (· ≥ ·) items (.integer 2) ∧
      other.Perm items ∧
      (Expr.call (.name "votes") "Min" []).eval (scope other) = .ok (.integer (-3)) ∧
      (Expr.call (.name "votes") "Max" []).eval (scope other) = .ok (.integer 2) := by
  intro items other scope
  have hbase : (Expr.name "votes").eval (scope items) = .ok (.array items) := rfl
  have hcount : Countable items := by simp [items, Countable]
  have hperm : other.Perm items :=
    (List.Perm.swap _ _ _).trans (.cons _ (List.Perm.swap _ _ _))
  obtain ⟨least, greatest, hleast, hgreatest, hmin, hmax, hother⟩ := eval_extremes hbase hcount
  obtain ⟨hleast', hgreatest'⟩ :=
    hother (.name "votes") (scope other) other rfl hperm (by simp [items, other])
  cases hleast
  cases hgreatest
  exact ⟨hbase, hcount, rfl, rfl, hmin, hmax, hperm, hleast', hgreatest'⟩

/-- One element is missing and one is an integer, which is the least. `Min` gives it in one order
of the two and null in the other, and the sum is the integer in both. -/
theorem least_hidden_by_null :
    let outcome (items : List Value) (method : String) :=
      (Expr.call (.name "votes") method []).eval [("votes", .array items)]
    Outermost (· ≤ ·) [.null, .integer 1] (.integer 1) ∧
      outcome [.null, .integer 1] "Min" = .ok .null ∧
      outcome [.integer 1, .null] "Min" = .ok (.integer 1) ∧
      outcome [.null, .integer 1] "Sum" = .ok (.integer 1) ∧
      outcome [.integer 1, .null] "Sum" = .ok (.integer 1) := by
  refine ⟨.integer (by simp) (by simp), rfl, rfl, rfl, rfl⟩

end Expr

end Projections
