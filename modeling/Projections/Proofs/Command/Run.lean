import Mathlib
import Projections.Proofs.Command.Request
import Projections.Proofs.Query.Enumeration

/-! Runs for one row and for all. A request that cannot be read fails for both alike. If it can
be read, all rows come out in order up to the first that fails, and one row comes out as it would
if there were no other. -/

namespace Projections

/-! ### Rows -/

/-- The rows that a document has: the items of an array, or itself. -/
inductive Json.HasRows : Json → List Json → Prop
  | items (rows : List Json) : HasRows (.array rows) rows
  | itself {j : Json} (h : ∀ items, j ≠ .array items) : HasRows j [j]

theorem Json.HasRows.rows_eq {j : Json} {rows : List Json} (h : j.HasRows rows) :
    j.rows = rows := by
  cases h with
  | items rows => rfl
  | itself h =>
    cases j with
    | array items => exact absurd rfl (h items)
    | _ => rfl

theorem readRows?_eq_some {given : String} {j : Json} (h : Json.read? given = some j) :
    readRows? given = some j.rows := by
  rw [readRows?, h, Option.map_some]

variable {selector : Option Selector}

/-- A row comes out as it was selected, or fails with its number. -/
theorem materialize_some (row : ℕ) (raw : Json) :
    materialize selector some row raw = (selected selector raw).mapError (.binding row) := by
  rw [materialize]
  cases selected selector raw <;> rfl

/-- The results for rows that are at hand. -/
theorem resultsFrom_rows_cons (row : ℕ) (raw : Json) (rows : List Json) :
    RowStream.resultsFrom selector some row ((raw :: rows).map .ok) =
      (selected selector raw).mapError (.binding row) ::
        RowStream.resultsFrom selector some (row + 1) (rows.map .ok) := by
  rw [← materialize_some]
  rfl

theorem allOf_rows_eq_ok_iff (row : ℕ) {rows values : List Json} :
    allOf (RowStream.resultsFrom selector some row (rows.map .ok)) = .ok values ↔
      List.Forall₂ (fun raw value => selected selector raw = .ok value) rows values := by
  induction rows generalizing row values with
  | nil => cases values <;> simp [RowStream.resultsFrom, allOf]
  | cons raw rows ih =>
    rw [resultsFrom_rows_cons, List.forall₂_cons_left_iff]
    cases selected selector raw with
    | error cause => simp [Except.mapError, allOf]
    | ok value =>
      rw [Except.mapError, allOf, Result.bind_eq_ok_iff]
      simp [ih, pure, Except.pure, eq_comm]

theorem allOf_rows_eq_error_iff (row : ℕ) {rows : List Json} {e : QueryError} :
    allOf (RowStream.resultsFrom selector some row (rows.map .ok)) = .error e ↔
      ∃ before raw after cause, rows = before ++ raw :: after ∧
        (∀ earlier ∈ before, ∃ value, selected selector earlier = .ok value) ∧
        selected selector raw = .error cause ∧ e = .binding (row + before.length) cause := by
  induction rows generalizing row with
  | nil => simp [RowStream.resultsFrom, allOf]
  | cons raw rows ih =>
    rw [resultsFrom_rows_cons]
    cases hraw : selected selector raw with
    | error cause =>
      constructor
      · rintro ⟨⟩
        exact ⟨[], raw, rows, cause, rfl, by simp, hraw, rfl⟩
      · rintro ⟨before, other, after, cause', heq, hbefore, hother, rfl⟩
        cases before with
        | nil =>
          obtain ⟨rfl, -⟩ := List.cons.inj heq
          cases hraw.symm.trans hother
          rfl
        | cons b before =>
          obtain ⟨rfl, -⟩ := List.cons.inj heq
          obtain ⟨value, hvalue⟩ := hbefore raw List.mem_cons_self
          cases hraw.symm.trans hvalue
    | ok value =>
      rw [Except.mapError, allOf_ok_cons_eq_error_iff, ih]
      constructor
      · rintro ⟨before, other, after, cause, rfl, hbefore, hother, rfl⟩
        refine ⟨raw :: before, other, after, cause, rfl,
          List.forall_mem_cons.2 ⟨⟨value, hraw⟩, hbefore⟩, hother, ?_⟩
        rw [List.length_cons, Nat.add_assoc, Nat.add_comm 1]
      · rintro ⟨before, other, after, cause, heq, hbefore, hother, rfl⟩
        cases before with
        | nil =>
          obtain ⟨rfl, -⟩ := List.cons.inj heq
          cases hraw.symm.trans hother
        | cons b before =>
          obtain ⟨rfl, rfl⟩ := List.cons.inj heq
          refine ⟨before, other, after, cause, rfl, (List.forall_mem_cons.1 hbefore).2, hother, ?_⟩
          rw [List.length_cons, Nat.add_assoc, Nat.add_comm 1]

/-! ### Runs -/

namespace Command

variable {config : Config} {text : QueryText} {query : Query} {given : String} {j : Json}

/-- A run on rows that can be read is what is gathered from them. -/
theorem run_some (hread : Json.read? given = some j) (hquery : text.query = .ok query) :
    run config text (some given) =
      (materialized config (.ofRows j.rows) query).mapError .query := by
  rw [run]
  simp only [readRows?_eq_some hread, hquery, Result.ok_bind]
  cases materialized config (.ofRows j.rows) query <;> rfl

theorem materialized_collection (rows : List Json) (hkind : query.kind = .collection) :
    materialized config (.ofRows rows) query =
      (allOf (RowStream.resultsFrom query.selector some 0 (rows.map .ok))).map .array := by
  rw [materialized, hkind]
  dsimp only [Executor.ofRows]
  rw [gathered, hkind, RowStream.results]
  cases allOf (RowStream.resultsFrom query.selector some 0 (rows.map .ok)) <;> rfl

theorem materialized_item (rows : List Json) (hkind : query.kind = .item) :
    materialized config (.ofRows rows) query =
      firstOf query.name (RowStream.resultsFrom query.selector some 0 (rows.map .ok)) := by
  rw [materialized, hkind]
  dsimp only [Executor.ofRows]
  rw [gathered, hkind]
  cases rows <;> rfl

/-- A request that cannot be read fails for one row as for all. -/
theorem run_of_unreadable (config : Config) {given : Option String}
    (h : given.bind Json.read? = none ∨ ∀ selector, ¬ text.Valid selector) :
    ∃ e, ∀ item, run config (text.ofItem item) given = .error e := by
  cases given with
  | none => exact ⟨.noInput, fun item => rfl⟩
  | some given =>
    rw [Option.bind_some] at h
    cases hread : Json.read? given with
    | none =>
      have hrows : readRows? given = none := by rw [readRows?, hread, Option.map_none]
      refine ⟨.json, fun item => ?_⟩
      rw [run]
      simp only [hrows]
      rfl
    | some j =>
      have hinvalid : ∀ selector, ¬ text.Valid selector := by
        rcases h with h | h
        · cases hread.symm.trans h
        · exact h
      cases hquery : text.query with
      | ok query => exact absurd (QueryText.valid_of_query hquery).1 (hinvalid _)
      | error e =>
        refine ⟨e, fun item => ?_⟩
        rw [run]
        simp only [readRows?_eq_some hread, QueryText.query_ofItem, hquery]
        rfl

/-- What comes of all rows: their values in an array, or the failure of the first that fails. -/
structure AllRows (selector : Option Selector) (rows : List Json)
    (outcome : Except CommandError Json) : Prop where
  values : ∀ j, outcome = .ok j ↔ ∃ values,
    List.Forall₂ (fun raw value => selected selector raw = .ok value) rows values ∧
      j = .array values
  failure : ∀ e, outcome = .error e ↔ ∃ before raw after cause, rows = before ++ raw :: after ∧
    (∀ earlier ∈ before, ∃ value, selected selector earlier = .ok value) ∧
    selected selector raw = .error cause ∧ e = .query (.binding before.length cause)

/-- What comes of one row: the value of the first row or its failure, if there is a row. -/
structure FirstRow (query : String) (selector : Option Selector) (rows : List Json)
    (outcome : Except CommandError Json) : Prop where
  missing : ∀ name, outcome = .error (.query (.emptyResult name)) ↔ rows = [] ∧ name = query
  first : ∀ raw rest, rows = raw :: rest →
    outcome = (selected selector raw).mapError fun cause => .query (.binding 0 cause)

section Readable

variable {selector : Option Selector}

theorem exists_query_ofItem (h : text.Valid selector) (item : Bool) :
    ∃ query, (text.ofItem item).query = .ok query ∧ query.selector = selector ∧
      query.name = text.name ∧ query.kind = (text.ofItem item).kind := by
  obtain ⟨query, hquery, hselector⟩ := QueryText.exists_query h
  refine ⟨query.ofKind (text.ofItem item).kind, ?_, hselector,
    (QueryText.valid_of_query hquery).2, rfl⟩
  rw [QueryText.query_ofItem, hquery]
  rfl

theorem run_all (hread : Json.read? given = some j) (h : text.Valid selector) :
    run config (text.ofItem false) (some given) =
      ((allOf (RowStream.resultsFrom selector some 0 (j.rows.map .ok))).map .array).mapError
        .query := by
  obtain ⟨query, hquery, rfl, -, hkind⟩ := exists_query_ofItem h false
  rw [run_some hread hquery, materialized_collection _ hkind]

theorem run_one (hread : Json.read? given = some j) (h : text.Valid selector) :
    run config (text.ofItem true) (some given) =
      (firstOf text.name (RowStream.resultsFrom selector some 0 (j.rows.map .ok))).mapError
        .query := by
  obtain ⟨query, hquery, rfl, hname, hkind⟩ := exists_query_ofItem h true
  rw [run_some hread hquery, materialized_item _ hkind, hname]

theorem allRows_run (config : Config) (hread : Json.read? given = some j)
    (h : text.Valid selector) :
    AllRows selector j.rows (run config (text.ofItem false) (some given)) := by
  rw [run_all hread h]
  constructor
  · intro j'
    simp only [← allOf_rows_eq_ok_iff 0]
    cases allOf (RowStream.resultsFrom selector some 0 (j.rows.map .ok)) <;>
      simp [Except.map, Except.mapError, eq_comm]
  · intro e
    rw [Result.mapError_map_eq_error_iff]
    simp only [allOf_rows_eq_error_iff, Nat.zero_add]
    constructor
    · rintro ⟨_, ⟨before, raw, after, cause, hrows, hbefore, hraw, rfl⟩, rfl⟩
      exact ⟨before, raw, after, cause, hrows, hbefore, hraw, rfl⟩
    · rintro ⟨before, raw, after, cause, hrows, hbefore, hraw, rfl⟩
      exact ⟨_, ⟨before, raw, after, cause, hrows, hbefore, hraw, rfl⟩, rfl⟩

theorem firstRow_run (config : Config) (hread : Json.read? given = some j)
    (h : text.Valid selector) :
    FirstRow text.name selector j.rows (run config (text.ofItem true) (some given)) := by
  rw [run_one hread h]
  generalize j.rows = rows
  constructor
  · intro name
    cases rows with
    | nil => simp [RowStream.resultsFrom, firstOf, Except.mapError, eq_comm]
    | cons raw rows =>
      rw [resultsFrom_rows_cons, firstOf]
      cases selected selector raw <;> simp [Except.mapError]
  · rintro raw rest rfl
    rw [resultsFrom_rows_cons, firstOf]
    cases selected selector raw <;> rfl

end Readable

/-- A request that cannot be read fails for one row as for all, with one error. If it can be read,
all rows come out in order or the first failure does. One row comes out as it does where it is
alone, or there is none. Without a selector all rows come out as they are given. -/
theorem run_one_and_all (config : Config) (text : QueryText) (given : Option String) :
    let one := run config (text.ofItem true) given
    let all := run config (text.ofItem false) given
    ((given.bind Json.read? = none ∨ ∀ selector, ¬ text.Valid selector) →
        ∃ e, one = .error e ∧ all = .error e) ∧
      ∀ j rows selector, given.bind Json.read? = some j → j.HasRows rows → text.Valid selector →
        AllRows selector rows all ∧ FirstRow text.name selector rows one ∧
        (∀ raw rest alone i, rows = raw :: rest → Json.read? alone = some i → i.HasRows [raw] →
          run config (text.ofItem false) (some alone) = one.map fun value => .array [value]) ∧
        (text.select = none → all = .ok (.array rows)) := by
  refine ⟨fun h => ?_, fun j rows selector hj hrows hvalid => ?_⟩
  · obtain ⟨e, he⟩ := run_of_unreadable config h
    exact ⟨e, he true, he false⟩
  · obtain ⟨given, rfl, hread⟩ := Option.bind_eq_some_iff.1 hj
    obtain rfl := hrows.rows_eq
    have hall := allRows_run config hread hvalid
    have hone := firstRow_run config hread hvalid
    refine ⟨hall, hone, fun raw rest alone i hcons halone hi => ?_, fun hselect => ?_⟩
    · rw [hone.first raw rest hcons, run_all halone hvalid, hi.rows_eq, resultsFrom_rows_cons]
      cases selected selector raw <;> rfl
    · have hs := hvalid.select
      rw [hselect] at hs
      cases hs
      exact (hall.values _).2 ⟨_, List.forall₂_same.2 fun _ _ => rfl, rfl⟩

/-- A row that is no array fails among all rows, and one row does not come that far. -/
theorem run_one_and_all_of_arrays :
    let text : QueryText := ⟨"rows", false, ["first = 2"], ["r => r.Tags"], some "r => r[0]"⟩
    let s : Selector := ⟨"r", .index (.name "r") (.integer 0)⟩
    let given := "[[3, 4], 5]"
    text.Valid (some s) ∧
      run .default (text.ofItem true) (some given) = .ok (.ofInt64 3) ∧
      run .default (text.ofItem false) (some given) =
        .error (.query (.binding 1 (.type (.index "integer" "integer")))) := by
  intro text s given
  have hvalid : text.Valid (some s) := by
    refine ⟨?_, ?_, ?_⟩
    · simp only [text, List.forall_mem_cons]
      refine ⟨⟨("first", .ofInt64 2), ?_⟩, by simp⟩
      cbv
    · simp only [text, List.forall_mem_cons]
      refine ⟨⟨.lambda ["r"] (.member (.name "r") "Tags"), _, ?_, rfl⟩, by simp⟩
      cbv
    · refine .selector (e := .lambda ["r"] (.index (.name "r") (.integer 0))) ?_ rfl
      cbv
  obtain ⟨-, hread⟩ := run_one_and_all .default text (some given)
  let first : Json := .array [.ofInt64 3, .ofInt64 4]
  have hrows : (some given).bind Json.read? = some (.array [first, .ofInt64 5]) := by
    cbv
  obtain ⟨hall, hone, -, -⟩ := hread _ _ _ hrows (.items _) hvalid
  refine ⟨hvalid, ?_, ?_⟩
  · rw [hone.first _ _ rfl]
    rfl
  · refine (hall.failure _).2 ⟨[first], .ofInt64 5, [], _, rfl, ?_, rfl, rfl⟩
    simp only [List.forall_mem_cons]
    exact ⟨⟨_, rfl⟩, by simp⟩

end Command

end Projections
