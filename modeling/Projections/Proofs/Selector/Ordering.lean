import Mathlib
import Projections.Proofs.Selector.Shorthand
import Projections.Proofs.Text.Bytes

/-! Elements in the order of their keys. Where all keys are integers, all are texts or all are
truth values, the elements of an array are rearranged so that their keys ascend, and those that
share a key stay in order. Descending order is the reverse of that. -/

namespace Projections

/-! ### Sorting -/

/-- Sorting does not rearrange elements that are all alike for the order. -/
theorem filter_mergeSort {α : Type} {le : α → α → Bool}
    (trans : ∀ a b c, le a b → le b c → le a c) (total : ∀ a b, le a b || le b a)
    {l : List α} {p : α → Bool} (h : ∀ a ∈ l, ∀ b ∈ l, p a → p b → le a b) :
    (l.mergeSort le).filter p = l.filter p := by
  have hperm : ((l.mergeSort le).filter p).Perm (l.filter p) := (List.mergeSort_perm l le).filter p
  have halike : (l.filter p).Pairwise fun a b => le a b = true := by
    refine List.pairwise_of_forall_mem_list fun a ha b hb => ?_
    rw [List.mem_filter] at ha hb
    exact h a ha.1 b hb.1 ha.2 hb.2
  have hsub := (List.sublist_mergeSort trans total halike List.filter_sublist).filter p
  rw [List.filter_filter] at hsub
  simp only [Bool.and_self] at hsub
  exact (hsub.eq_of_length hperm.length_eq.symm).symm

/-! ### Keys -/

namespace Value

/-- The order of keys: integers by value, texts by their encoded bytes, and false before true. -/
inductive KeyLE : Value → Value → Prop
  | integer {a b : Int64} (h : a.toInt ≤ b.toInt) : KeyLE (.integer a) (.integer b)
  | string {a b : String} (h : Text.bytes a ≤ Text.bytes b) : KeyLE (.string a) (.string b)
  | boolean {a b : Bool} (h : a = true → b = true) : KeyLE (.boolean a) (.boolean b)

end Value

/-- Every element has a key, and the keys are all integers, all texts or all truth values. -/
def OneKind (key : Value → Except BindError Value) (items : List Value) : Prop :=
  (∀ item ∈ items, ∃ n, key item = .ok (.integer n)) ∨
    (∀ item ∈ items, ∃ s, key item = .ok (.string s)) ∨
    ∀ item ∈ items, ∃ b, key item = .ok (.boolean b)

/-- A list has the elements of another, by ascending keys, and any that share a key in the order
in which the other has them. -/
structure Arranged (key : Value → Except BindError Value) (items arranged : List Value) :
    Prop where
  perm : arranged.Perm items
  ascends : arranged.Pairwise fun a b => ∃ k l, key a = .ok k ∧ key b = .ok l ∧ k.KeyLE l
  stable : ∀ share : Value → Bool,
    (∀ a ∈ items, ∀ b ∈ items, share a → share b → key a = key b) →
    arranged.filter share = items.filter share

namespace Method

section Keyed

variable {κ ρ : Type} [LinearOrder ρ] (wrap : κ → Value) (rank : κ → ρ)
  {key : Value → Except BindError Value} {items : List Value}

/-- Elements with keys of one kind, each beside its key. -/
theorem exists_keyed (h : ∀ item ∈ items, ∃ k, key item = .ok (wrap k)) :
    ∃ keyed : List (κ × Value), keyed.map (·.2) = items ∧
      (∀ pair ∈ keyed, key pair.2 = .ok (wrap pair.1)) ∧
      withKeys key items = .ok (keyed.map fun pair => (wrap pair.1, pair.2)) := by
  induction items with
  | nil => exact ⟨[], rfl, by simp, rfl⟩
  | cons item items ih =>
    obtain ⟨⟨k, hk⟩, hitems⟩ := List.forall_mem_cons.1 h
    obtain ⟨keyed, rfl, hkeys, hwith⟩ := ih hitems
    refine ⟨(k, item) :: keyed, rfl, List.forall_mem_cons.2 ⟨hk, hkeys⟩, ?_⟩
    unfold withKeys at hwith ⊢
    rw [List.mapM_cons, hk, hwith]
    rfl

/-- Keys that are ordered by a rank arrange the elements. -/
theorem exists_arranged
    (horder : ∀ k l, ((wrap k).order? (wrap l) != some .gt) = decide (rank k ≤ rank l))
    (hle : ∀ k l, rank k ≤ rank l → (wrap k).KeyLE (wrap l))
    (h : ∀ item ∈ items, ∃ k, key item = .ok (wrap k)) :
    ∃ keyed, withKeys key items = .ok keyed ∧ Arranged key items (ordered keyed) := by
  obtain ⟨keyed, rfl, hkeys, hwith⟩ := exists_keyed wrap h
  let le (a b : κ × Value) : Bool := decide (rank a.1 ≤ rank b.1)
  have hordered : ordered (keyed.map fun pair => (wrap pair.1, pair.2)) =
      (keyed.mergeSort le).map (·.2) := by
    unfold ordered
    rw [← List.map_mergeSort (r := le) fun a _ b _ => (horder a.1 b.1).symm, List.map_map]
    rfl
  have hperm := List.mergeSort_perm keyed le
  have trans : ∀ a b c, le a b → le b c → le a c := by
    simp only [le, decide_eq_true_eq]
    exact fun a b c => le_trans
  have total : ∀ a b, le a b || le b a := by
    simp only [le, Bool.or_eq_true, decide_eq_true_eq]
    exact fun a b => le_total ..
  refine ⟨_, hwith, ?_⟩
  rw [hordered]
  refine ⟨hperm.map _, ?_, fun share hshare => ?_⟩
  · rw [List.pairwise_map]
    refine (List.pairwise_mergeSort trans total keyed).imp_of_mem fun {a b} ha hb hab => ?_
    exact ⟨_, _, hkeys a (hperm.mem_iff.1 ha), hkeys b (hperm.mem_iff.1 hb),
      hle _ _ (of_decide_eq_true hab)⟩
  · -- who shares a key compares as with itself
    rw [List.filter_map, List.filter_map]
    refine congrArg _ (filter_mergeSort trans total fun a ha b hb hsa hsb => ?_)
    have hsame : wrap a.1 = wrap b.1 := by
      have hkey := hshare a.2 (List.mem_map_of_mem ha) b.2 (List.mem_map_of_mem hb) hsa hsb
      rw [hkeys a ha, hkeys b hb] at hkey
      exact Except.ok.inj hkey
    have hself := horder a.1 a.1
    simp only [le]
    rw [← horder, ← hsame, hself]
    exact decide_eq_true le_rfl

end Keyed

theorem compare_bne_gt {ρ : Type} [LinearOrder ρ] (a b : ρ) :
    (some (compare a b) != some .gt) = decide (a ≤ b) := by
  rw [Bool.eq_iff_iff, bne_iff_ne, decide_eq_true_iff, Ne, Option.some_inj, compare_gt_iff_gt,
    not_lt]

/-- Keys of one kind are ordered by value, by bytes or with false first. -/
theorem exists_arranged_of_oneKind {key : Value → Except BindError Value} {items : List Value}
    (h : OneKind key items) :
    ∃ keyed, withKeys key items = .ok keyed ∧ Arranged key items (ordered keyed) := by
  rcases h with h | h | h
  · exact exists_arranged .integer Int64.toInt (fun _ _ => compare_bne_gt ..)
      (fun _ _ => .integer) h
  · exact exists_arranged .string id (fun a b => compare_bne_gt a b)
      (fun _ _ hle => .string (Text.bytes_le_iff.2 hle)) h
  · exact exists_arranged .boolean id (fun a b => compare_bne_gt a b)
      (fun _ _ hle => .boolean hle) h

theorem call_orderBy (receiver : Value) (a : Argument) : orderBy.call receiver [a] = do
    let items ← orderBy.elements receiver
    return .array (ordered (← withKeys a.apply items)) := rfl

theorem call_orderByDescending (receiver : Value) (a : Argument) :
    orderByDescending.call receiver [a] = do
      let items ← orderByDescending.elements receiver
      return .array (ordered (← withKeys a.apply items)).reverse := rfl

end Method

/-! ### Expressions -/

namespace Expr

/-- The elements of an array in the order of their keys, and in the reverse of that order. -/
theorem eval_ordered {base : Expr} {scope : Scope} {items : List Value} {parameter : String}
    {body : Expr} (hbase : base.eval scope = .ok (.array items))
    (hkeys : OneKind (fun item => body.eval ((parameter, item) :: scope)) items) :
    ∃ arranged, Arranged (fun item => body.eval ((parameter, item) :: scope)) items arranged ∧
      (Expr.call base "OrderBy" [.lambda [parameter] body]).eval scope = .ok (.array arranged) ∧
      (Expr.call base "OrderByDescending" [.lambda [parameter] body]).eval scope =
        .ok (.array arranged.reverse) := by
  obtain ⟨keyed, hwith, harranged⟩ := Method.exists_arranged_of_oneKind hkeys
  have hup := eval_call base scope .orderBy [.lambda [parameter] body]
  have hdown := eval_call base scope .orderByDescending [.lambda [parameter] body]
  refine ⟨_, harranged, hup.trans ?_, hdown.trans ?_⟩
  · rw [hbase, Result.ok_bind, prepare, prepare, Method.call_orderBy, Method.elements,
      Result.ok_bind]
    simp only [applied, hwith, Result.ok_bind]
    rfl
  · rw [hbase, Result.ok_bind, prepare, prepare, Method.call_orderByDescending, Method.elements,
      Result.ok_bind]
    simp only [applied, hwith, Result.ok_bind]
    rfl

/-- Of four rows with two keys, those with one key stay in order. In the reverse order they are
reversed as well. -/
theorem eval_ordered_of_votes :
    let row (votes : Int64) (body : String) : Value :=
      .object [("Body", .string body), ("Votes", .integer votes)]
    let rows := [row 2 "a", row 1 "b", row 2 "c", row 1 "d"]
    let votes := Expr.member (.name "c") "Votes"
    let key (item : Value) := votes.eval [("c", item), ("rows", .array rows)]
    let scope : Scope := [("rows", .array rows)]
    (Expr.name "rows").eval scope = .ok (.array rows) ∧ OneKind key rows ∧
      ∃ arranged, Arranged key rows arranged ∧
        (Expr.call (.name "rows") "OrderBy" [.lambda ["c"] votes]).eval scope =
          .ok (.array arranged) ∧
        (Expr.call (.name "rows") "OrderByDescending" [.lambda ["c"] votes]).eval scope =
          .ok (.array arranged.reverse) ∧
        arranged = [row 1 "b", row 1 "d", row 2 "a", row 2 "c"] := by
  intro row rows votes key scope
  have hkeys : OneKind key rows := by
    refine .inl ?_
    simp only [rows, List.forall_mem_cons]
    exact ⟨⟨_, rfl⟩, ⟨_, rfl⟩, ⟨_, rfl⟩, ⟨_, rfl⟩, by simp⟩
  have hbase : (Expr.name "rows").eval scope = .ok (.array rows) := rfl
  obtain ⟨arranged, harranged, hup, hdown⟩ := eval_ordered hbase hkeys
  have heval : (Expr.call (.name "rows") "OrderBy" [.lambda ["c"] votes]).eval scope =
      .ok (.array [row 1 "b", row 1 "d", row 2 "a", row 2 "c"]) := by
    cbv
  refine ⟨hbase, hkeys, arranged, harranged, hup, hdown, ?_⟩
  rw [heval] at hup
  injection hup with hup
  injection hup with hup
  exact hup.symm

end Expr

end Projections
