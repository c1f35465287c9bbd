import Mathlib
import Projections.Proofs.Result
import Projections.Query.Session

/-! Enumerations of the rows of a query. Each item of a stream gives one result, in its place, and
a failure ends nothing. Raw rows are numbered by the raw rows before them, whatever those gave.
The results are the same however they are asked for: all are the values up to the first failure,
and the first is that of the first item. -/

namespace Projections

variable {α : Type} {selector : Option Selector} {decode : Json → Option α}

/-! ### One item -/

/-- The document for a raw row: the row itself, or what the selector makes of it. -/
inductive Picks (raw : Json) : Option Selector → Except BindError Json → Prop
  | row : Picks raw none (.ok raw)
  | value {s : Selector} {v : Value} (h : s.bind (.ofJson raw) = .ok v) :
      Picks raw (some s) (.ok v.toJson)
  | failure {s : Selector} {cause : BindError} (h : s.bind (.ofJson raw) = .error cause) :
      Picks raw (some s) (.error cause)

theorem picks_selected (raw : Json) : Picks raw selector (selected selector raw) := by
  cases selector with
  | none => exact .row
  | some s =>
    rw [selected]
    cases h : s.bind (.ofJson raw) with
    | error cause => exact .failure h
    | ok v => exact .value h

/-- The result for an item of a stream, with the number of the raw row if it is one. -/
inductive Gives (selector : Option Selector) (decode : Json → Option α) (row : ℕ) :
    Except ExecutionError Json → Except QueryError α → Prop
  | execution (cause : ExecutionError) :
      Gives selector decode row (.error cause) (.error (.execution cause))
  | binding {raw : Json} {cause : BindError} (h : Picks raw selector (.error cause)) :
      Gives selector decode row (.ok raw) (.error (.binding row cause))
  | decoding {raw picked : Json} (h : Picks raw selector (.ok picked))
      (hpicked : decode picked = none) :
      Gives selector decode row (.ok raw) (.error (.decoding row))
  | value {raw picked : Json} {x : α} (h : Picks raw selector (.ok picked))
      (hpicked : decode picked = some x) : Gives selector decode row (.ok raw) (.ok x)

theorem gives_materialize (row : ℕ) (raw : Json) :
    Gives selector decode row (.ok raw) (materialize selector decode row raw) := by
  have hpicks : Picks raw selector (selected selector raw) := picks_selected raw
  rw [materialize]
  cases hselected : selected selector raw with
  | error cause => exact .binding (hselected ▸ hpicks)
  | ok picked =>
    dsimp only
    cases hpicked : decode picked with
    | none => exact .decoding (hselected ▸ hpicks) hpicked
    | some x => exact .value (hselected ▸ hpicks) hpicked

/-- No item by itself gives what an empty stream does. -/
theorem Gives.ne_emptyResult {row : ℕ} {item : Except ExecutionError Json}
    {result : Except QueryError α} (h : Gives selector decode row item result) (query : String) :
    result ≠ .error (.emptyResult query) := by
  cases h <;> simp

/-! ### Streams -/

namespace RowStream

/-- How many items are raw rows. -/
def rawRows (stream : RowStream) : ℕ := stream.countP Except.isOk

@[simp] theorem rawRows_nil : rawRows [] = 0 := rfl

@[simp] theorem rawRows_error_cons (cause : ExecutionError) (stream : RowStream) :
    rawRows (.error cause :: stream) = stream.rawRows := rfl

@[simp] theorem rawRows_ok_cons (raw : Json) (stream : RowStream) :
    rawRows (.ok raw :: stream) = stream.rawRows + 1 := List.countP_cons_of_pos rfl

/-- A result for each item in its place, when so many raw rows came before the stream. -/
structure Enumerated (selector : Option Selector) (decode : Json → Option α) (row : ℕ)
    (stream : RowStream) (results : List (Except QueryError α)) : Prop where
  length : results.length = stream.length
  gives : ∀ i item result, stream[i]? = some item → results[i]? = some result →
    Gives selector decode (row + rawRows (stream.take i)) item result

theorem Enumerated.cons {row later : ℕ} {stream : RowStream} {results : List (Except QueryError α)}
    {item : Except ExecutionError Json} {result : Except QueryError α}
    (hlater : later = row + rawRows [item])
    (hitem : Gives selector decode row item result)
    (h : Enumerated selector decode later stream results) :
    Enumerated selector decode row (item :: stream) (result :: results) where
  length := by rw [List.length_cons, List.length_cons, h.length]
  gives i other given hother hgiven := by
    cases i with
    | zero =>
      cases hother
      cases hgiven
      exact hitem
    | succ i =>
      have hcount : row + rawRows ((item :: stream).take (i + 1)) =
          later + rawRows (stream.take i) := by
        rw [hlater, List.take_succ_cons]
        cases item <;> simp [Nat.add_assoc, Nat.add_comm 1]
      rw [hcount]
      exact h.gives i other given hother hgiven

theorem enumerated_resultsFrom (row : ℕ) (stream : RowStream) :
    Enumerated selector decode row stream (resultsFrom selector decode row stream) := by
  induction stream generalizing row with
  | nil => exact ⟨rfl, fun i item result hitem => by cases hitem⟩
  | cons item stream ih =>
    cases item with
    | error cause => exact .cons (by simp) (.execution cause) (ih row)
    | ok raw => exact .cons (by simp) (gives_materialize row raw) (ih (row + 1))

/-- The first results are those of the first items. -/
theorem resultsFrom_take (count row : ℕ) (stream : RowStream) :
    resultsFrom selector decode row (stream.take count) =
      (resultsFrom selector decode row stream).take count := by
  induction stream generalizing count row with
  | nil => rw [List.take_nil, resultsFrom, List.take_nil]
  | cons item stream ih =>
    cases count with
    | zero => rfl
    | succ count => cases item <;> simp [resultsFrom, ih]

end RowStream

/-! ### All results and the first -/

theorem allOf_eq_ok_iff {results : List (Except QueryError α)} {values : List α} :
    allOf results = .ok values ↔ results = values.map .ok := by
  induction results generalizing values with
  | nil => cases values <;> simp [allOf]
  | cons result results ih =>
    cases result with
    | error e => cases values <;> simp [allOf]
    | ok x =>
      rw [allOf, Result.bind_eq_ok_iff]
      cases values with
      | nil => simp [pure, Except.pure]
      | cons y values => simp [pure, Except.pure, ih, and_comm]

theorem allOf_ok_cons_eq_error_iff {x : α} {results : List (Except QueryError α)}
    {e : QueryError} : allOf (.ok x :: results) = .error e ↔ allOf results = .error e := by
  rw [allOf]
  cases allOf results <;> simp [pure, Except.pure]

theorem allOf_eq_error_iff {results : List (Except QueryError α)} {e : QueryError} :
    allOf results = .error e ↔
      ∃ (values : List α) (rest : List (Except QueryError α)),
        results = values.map .ok ++ .error e :: rest := by
  induction results with
  | nil => simp [allOf]
  | cons result results ih =>
    cases result with
    | error e' =>
      constructor
      · rintro ⟨⟩
        exact ⟨[], results, rfl⟩
      · rintro ⟨values, rest, heq⟩
        cases values <;> cases heq
        rfl
    | ok x =>
      rw [allOf_ok_cons_eq_error_iff, ih]
      constructor
      · rintro ⟨values, rest, rfl⟩
        exact ⟨x :: values, rest, rfl⟩
      · rintro ⟨values, rest, heq⟩
        cases values with
        | nil => cases heq
        | cons y values => exact ⟨values, rest, (List.cons.inj heq).2⟩

theorem firstOf_of_head {query : String} {results : List (Except QueryError α)}
    {result : Except QueryError α} (h : results.head? = some result) :
    firstOf query results = result := by
  cases results <;> cases h
  rfl

theorem firstOf_eq_ok_iff {query : String} {results : List (Except QueryError α)} {x : α} :
    firstOf query results = .ok x ↔ results.head? = some (.ok x) := by
  cases results <;> simp [firstOf]

theorem firstOf_eq_error_iff {query : String} {results : List (Except QueryError α)}
    {e : QueryError} : firstOf query results = .error e ↔
      results.head? = some (.error e) ∨ results = [] ∧ e = .emptyResult query := by
  cases results <;> simp [firstOf, eq_comm]

theorem RowStream.results_eq_nil_iff {stream : RowStream} :
    stream.results selector decode = [] ↔ stream = [] := by
  have henumerated : RowStream.Enumerated selector decode 0 stream (stream.results _ _) :=
    RowStream.enumerated_resultsFrom 0 stream
  rw [← List.length_eq_zero_iff, henumerated.length, List.length_eq_zero_iff]

theorem RowStream.head?_results_ne_emptyResult (stream : RowStream) (name : String) :
    (stream.results selector decode).head? ≠ some (.error (.emptyResult name)) := by
  intro hhead
  rw [List.head?_eq_getElem?] at hhead
  cases stream with
  | nil => cases hhead
  | cons item rest =>
    have hgives := (enumerated_resultsFrom 0 (item :: rest)).gives 0 item _ rfl hhead
    exact hgives.ne_emptyResult name rfl

/-- There is no first result exactly if the stream is empty. -/
theorem firstOf_eq_emptyResult_iff {query name : String} {stream : RowStream} :
    firstOf query (stream.results selector decode) = .error (.emptyResult name) ↔
      stream = [] ∧ name = query := by
  rw [firstOf_eq_error_iff, RowStream.results_eq_nil_iff, QueryError.emptyResult.injEq]
  exact or_iff_right (stream.head?_results_ne_emptyResult name)

/-! ### Answers -/

/-- What a query with a stream of rows answers, if these are the results for the stream. A
collection gives its results one by one, or all rows, or the first failure. An item gives the
first result, and has none exactly if the stream has no item. -/
structure Answered (query : Query) (stream : RowStream) (results : List (Except QueryError Json))
    (answer : Demand → Outcome) : Prop where
  each : query.kind = .collection → answer (.each none) = .results results
  each_limited : query.kind = .collection → ∀ count,
    answer (.each (some count)) = .results (results.take count)
  all_rows : query.kind = .collection → ∀ rows,
    answer .all = .rows rows ↔ results = rows.map .ok
  all_refused : query.kind = .collection → ∀ e, answer .all = .refused e ↔
    ∃ (rows : List Json) (rest : List (Except QueryError Json)),
      results = rows.map .ok ++ .error e :: rest
  first_row : query.kind = .item → ∀ row,
    answer .first = .row row ↔ results.head? = some (.ok row)
  first_refused : query.kind = .item → ∀ e, answer .first = .refused e ↔
    results.head? = some (.error e) ∨ stream = [] ∧ e = .emptyResult query.name
  first_empty : query.kind = .item → ∀ name,
    answer .first = .refused (.emptyResult name) ↔ stream = [] ∧ name = query.name

namespace Demand

variable {query : String} {results : List (Except QueryError Json)} {e : QueryError}

theorem answer_all_eq_rows_iff {rows : List Json} :
    all.answer query results = .rows rows ↔ allOf results = .ok rows := by
  rw [answer]
  cases allOf results <;> simp

theorem answer_all_eq_refused_iff :
    all.answer query results = .refused e ↔ allOf results = .error e := by
  rw [answer]
  cases allOf results <;> simp

theorem answer_first_eq_row_iff {row : Json} :
    first.answer query results = .row row ↔ firstOf query results = .ok row := by
  rw [answer]
  cases firstOf query results <;> simp

theorem answer_first_eq_refused_iff :
    first.answer query results = .refused e ↔ firstOf query results = .error e := by
  rw [answer]
  cases firstOf query results <;> simp

end Demand

namespace Session

variable {context : Context} {session : Session} {node : Nat} {base : Node} {stream : RowStream}

/-- The executor runs the document of a node, kept or new. -/
theorem execute_snd (context : Context) (session : Session) (node : Nat) (base : Node) :
    (session.execute context node base).2 =
      context.executor (base.document.getD (context.generator base.query)) base.query.kind := by
  rw [execute, documentOf]
  cases base.document <;> rfl

/-- What is asked of a query is answered with the results for the stream that it gets. -/
theorem materialize_of_stream {demand : Demand} (type : RowType)
    (hnode : session.nodes[node]? = some base) (hkind : demand.kind = base.query.kind)
    (hstream : context.executor (base.document.getD (context.generator base.query))
      base.query.kind = .ok stream) :
    (session.materialize context node type demand).2 =
      demand.answer base.query.name (stream.results base.query.selector type.decode) := by
  rw [← execute_snd context session node] at hstream
  rw [materialize, hnode]
  dsimp only
  rw [if_pos hkind]
  generalize session.execute context node base = executed at hstream
  obtain ⟨_, _⟩ := executed
  cases hstream
  rfl

theorem answered_of_stream (type : RowType) (hnode : session.nodes[node]? = some base)
    (hstream : context.executor (base.document.getD (context.generator base.query))
      base.query.kind = .ok stream) :
    Answered base.query stream (stream.results base.query.selector type.decode)
      fun demand => (session.materialize context node type demand).2 := by
  have hanswer : ∀ demand : Demand, demand.kind = base.query.kind →
      (session.materialize context node type demand).2 =
        demand.answer base.query.name (stream.results base.query.selector type.decode) :=
    fun demand hkind => materialize_of_stream type hnode hkind hstream
  constructor <;> intro hkind
  case each => exact hanswer (.each none) hkind.symm
  case each_limited => exact fun count => hanswer (.each (some count)) hkind.symm
  case all_rows =>
    intro rows
    rw [hanswer .all hkind.symm, Demand.answer_all_eq_rows_iff, allOf_eq_ok_iff]
  case all_refused =>
    intro e
    rw [hanswer .all hkind.symm, Demand.answer_all_eq_refused_iff, allOf_eq_error_iff]
  case first_row =>
    intro row
    rw [hanswer .first hkind.symm, Demand.answer_first_eq_row_iff, firstOf_eq_ok_iff]
  case first_refused =>
    intro e
    rw [hanswer .first hkind.symm, Demand.answer_first_eq_refused_iff, firstOf_eq_error_iff,
      RowStream.results_eq_nil_iff]
  case first_empty =>
    intro name
    rw [hanswer .first hkind.symm, Demand.answer_first_eq_refused_iff,
      firstOf_eq_emptyResult_iff]

end Session

/-- A stream gives one result for each item, numbered by the raw rows before it, and the first
items give the first results. All results are the values if none failed and else the first
failure, and the first result is missing exactly if there is no item. With these results every
query of a session answers whose executor yields the stream. -/
theorem RowStream.enumerated_results (stream : RowStream) (selector : Option Selector)
    (decode : Json → Option α) (query : String) :
    let results := stream.results selector decode
    Enumerated selector decode 0 stream results ∧
      (∀ count, RowStream.results (stream.take count) selector decode = results.take count) ∧
      (∀ values : List α, allOf results = .ok values ↔ results = values.map .ok) ∧
      (∀ e : QueryError, allOf results = .error e ↔
        ∃ (values : List α) (rest : List (Except QueryError α)),
          results = values.map .ok ++ .error e :: rest) ∧
      (∀ result ∈ results.head?, firstOf query results = result) ∧
      (∀ name, firstOf query results = .error (.emptyResult name) ↔ stream = [] ∧ name = query) ∧
      ∀ (context : Context) (session : Session) (node : Nat) (base : Node) (type : RowType),
        session.nodes[node]? = some base →
        context.executor (base.document.getD (context.generator base.query)) base.query.kind =
          .ok stream →
        Answered base.query stream (stream.results base.query.selector type.decode)
          fun demand => (session.materialize context node type demand).2 :=
  ⟨enumerated_resultsFrom 0 stream, fun count => resultsFrom_take count 0 stream,
    fun _ => allOf_eq_ok_iff, fun _ => allOf_eq_error_iff, fun _ => firstOf_of_head,
    fun _ => firstOf_eq_emptyResult_iff,
    fun _ _ _ _ type hnode => Session.answered_of_stream type hnode⟩

/-- A row without the field is row one, though it is the third item, and the rows after it are
still delivered one by one. Asked for all, the query tells of the item that was lost, and where
none is it gives the rows; asked for one, it gives the first, and without items there is none. -/
theorem RowStream.enumerated_results_of_posts :
    let post (n : Int64) : Json := .object [("Id", .ofInt64 n)]
    let stream : RowStream := [.ok (post 7), .error (.transport "lost"), .ok (.object []),
      .ok (.string "post"), .ok (post 8)]
    let selector : Selector := ⟨"p", .member (.name "p") "Id"⟩
    let query (kind : Kind) : Query := ⟨⟨"posts", [], [], some selector⟩, kind⟩
    let session (kind : Kind) := (Session.empty.add (query kind)).1
    let context (rows : RowStream) : Context :=
      { Context.ofConfig .default with executor := fun _ _ => .ok rows }
    let answer (kind : Kind) (rows : RowStream) (demand : Demand) :=
      ((session kind).materialize (context rows) 0 .int demand).2
    (∀ kind, (session kind).nodes[0]? = some (.ofQuery (query kind))) ∧
      (∀ rows document kind, (context rows).executor document kind = .ok rows) ∧
      answer .collection stream (.each none) = .results
        [.ok (.ofInt64 7), .error (.execution (.transport "lost")), .error (.decoding 1),
          .error (.binding 2 (.type (.member "Id" "string"))), .ok (.ofInt64 8)] ∧
      answer .collection stream .all = .refused (.execution (.transport "lost")) ∧
      answer .collection [.ok (post 7), .ok (post 8)] .all =
        .rows [.ofInt64 7, .ofInt64 8] ∧
      answer .item stream .first = .row (.ofInt64 7) ∧
      answer .item [.error (.transport "lost"), .ok (post 7)] .first =
        .refused (.execution (.transport "lost")) ∧
      answer .item [] .first = .refused (.emptyResult "posts") := by
  intro post stream selector query session context answer
  have hnode : ∀ kind, (session kind).nodes[0]? = some (.ofQuery (query kind)) := fun _ => rfl
  have hanswered : ∀ kind rows, Answered (query kind) rows
      (rows.results (some selector) RowType.int.decode) (answer kind rows) := by
    intro kind rows
    obtain ⟨-, -, -, -, -, -, hsession⟩ :=
      RowStream.enumerated_results rows (some selector) RowType.int.decode "posts"
    exact hsession (context rows) (session kind) 0 (.ofQuery (query kind)) .int (hnode kind) rfl
  have hresults : stream.results (some selector) RowType.int.decode =
      [.ok (.ofInt64 7), .error (.execution (.transport "lost")), .error (.decoding 1),
        .error (.binding 2 (.type (.member "Id" "string"))), .ok (.ofInt64 8)] := by
    cbv
  refine ⟨hnode, fun _ _ _ => rfl, ?_, ?_, ?_, ?_, ?_, ?_⟩
  · rw [(hanswered .collection stream).each rfl, hresults]
  · rw [(hanswered .collection stream).all_refused rfl, hresults]
    exact ⟨[.ofInt64 7], _, rfl⟩
  · rw [(hanswered .collection _).all_rows rfl]
    cbv
  · rw [(hanswered .item stream).first_row rfl, hresults]
    rfl
  · rw [(hanswered .item _).first_refused rfl]
    exact .inl (by cbv)
  · rw [(hanswered .item []).first_empty rfl]
    exact ⟨rfl, rfl⟩

end Projections
