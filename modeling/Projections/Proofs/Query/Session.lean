import Mathlib.Data.List.Basic
import Projections.Query.Session

/-! Sessions against what their steps say. Queries are never changed once they are made, and
keeping documents shows in no answer: every step is answered as the queries alone would have
it. The record has one generation for each node that was consulted, and one run for each
materialization. -/

namespace Projections

/-! ### Steps without kept documents -/

/-- What materializing a query gives. -/
def Query.answer (query : Query) (context : Context) (type : RowType) (demand : Demand) : Outcome :=
  match context.executor (context.generator query) query.kind with
  | .error cause => .refused (.execution cause)
  | .ok stream => demand.answer query.name (stream.results query.selector type.decode)

namespace Step

/-- What a step makes of the queries there are, if it is one that makes queries and the node it
starts from is there. -/
def make? (context : Context) (queries : List Query) : Step → Option (Except QueryError Query)
  | .create name kind arguments => some (.ok (.ofName name kind arguments))
  | .withInclude node projection => queries[node]?.map (·.withInclude context.registry projection)
  | .withSelector node projection => queries[node]?.map (·.withSelector projection)
  | .clone node => queries[node]?.map .ok
  | .document _ => none
  | .materialize _ _ _ => none

/-- The query that a step adds. -/
def made (context : Context) (queries : List Query) (s : Step) : List Query :=
  match s.make? context queries with
  | some (.ok query) => [query]
  | _ => []

/-- The steps that make queries. -/
def makes : Step → Bool
  | .document _ => false
  | .materialize _ _ _ => false
  | _ => true

/-- The answer to a step that makes a query, when there are so many before it. -/
def answerToMake (count : Nat) : Option (Except QueryError Query) → Outcome
  | some (.ok _) => .created count
  | some (.error e) => .refused e
  | none => .missing

/-- The outcome of a step, from the queries there are. -/
def outcome (context : Context) (queries : List Query) (s : Step) : Outcome :=
  match s with
  | .document node =>
    match queries[node]? with
    | some query => .document (context.generator query)
    | none => .missing
  | .materialize node type demand =>
    match queries[node]? with
    | some query =>
      if demand.kind = query.kind then query.answer context type demand else .wrongKind query.kind
    | none => .missing
  | s => answerToMake queries.length (s.make? context queries)

end Step

/-- Whether there was a node that could take the step. -/
def Outcome.served : Outcome → Bool
  | .missing => false
  | .wrongKind _ => false
  | _ => true

/-! ### What steps ask for -/

namespace Step

/-- The node whose document a step needed. -/
def consulted? (s : Step) (outcome : Outcome) : Option Nat :=
  match s with
  | .document node => if outcome.served then some node else none
  | .materialize node _ _ => if outcome.served then some node else none
  | _ => none

/-- The node whose rows a step asked for. -/
def materialized? (s : Step) (outcome : Outcome) : Option Nat :=
  match s with
  | .materialize node _ _ => if outcome.served then some node else none
  | _ => none

section Makes

variable {context : Context} {queries : List Query} {s : Step}

theorem makes_of_make? {made : Except QueryError Query}
    (h : s.make? context queries = some made) : s.makes = true := by
  cases s with
  | document node => cases h
  | materialize node type demand => cases h
  | _ => rfl

theorem outcome_of_makes (context : Context) (queries : List Query) (hs : s.makes = true) :
    s.outcome context queries = answerToMake queries.length (s.make? context queries) := by
  cases s with
  | document node => cases hs
  | materialize node type demand => cases hs
  | _ => rfl

/-- Making a query needs no document and no rows. -/
theorem unread_of_makes (hs : s.makes = true) (outcome : Outcome) :
    s.consulted? outcome = none ∧ s.materialized? outcome = none := by
  cases s with
  | document node => cases hs
  | materialize node type demand => cases hs
  | _ => exact ⟨rfl, rfl⟩

end Makes

end Step

/-- Steps with their outcomes. -/
abbrev History := List (Step × Outcome)

/-- The nodes whose documents, texts or rows were requested, request by request. -/
def History.consulted (history : History) : List Nat :=
  history.filterMap fun (s, outcome) => s.consulted? outcome

/-- The nodes that were materialized, one by one. -/
def History.materialized (history : History) : List Nat :=
  history.filterMap fun (s, outcome) => s.materialized? outcome

namespace Session

def queries (session : Session) : List Query := session.nodes.map (·.query)

theorem getElem?_queries (session : Session) (i : Nat) :
    session.queries[i]? = session.nodes[i]?.map (·.query) := List.getElem?_map ..

/-! ### Documents that are kept -/

/-- A node has a document, that of its own query, from when it was first consulted. One
document was generated for each node consulted, and none for another. -/
structure Keeps (context : Context) (consulted : List Nat) (session : Session) : Prop where
  documents : ∀ i node, session.nodes[i]? = some node →
    node.document = if i ∈ consulted then some (context.generator node.query) else none
  generated : ∀ i, session.generations.count i = if i ∈ consulted then 1 else 0
  there : ∀ i ∈ consulted, i < session.nodes.length

variable {context : Context} {session : Session} {consulted : List Nat}

theorem keeps_empty (context : Context) : Keeps context [] .empty where
  documents i node h := by simp [empty] at h
  generated i := by simp [empty]
  there i h := by simp at h

/-- A new node starts without a document. -/
theorem Keeps.add (h : Keeps context consulted session) (query : Query) :
    Keeps context consulted (session.add query).1 where
  documents i node hnode := by
    change (session.nodes ++ [Node.ofQuery query])[i]? = some node at hnode
    rcases Nat.lt_or_ge i session.nodes.length with hi | hi
    · rw [List.getElem?_append_left hi] at hnode
      exact h.documents i node hnode
    · have hnew : i ∉ consulted := fun hmem => absurd (h.there i hmem) (Nat.not_lt.2 hi)
      rw [if_neg hnew]
      rw [List.getElem?_append_right hi, List.getElem?_singleton] at hnode
      split_ifs at hnode
      cases hnode
      rfl
  generated := h.generated
  there i hi := by
    change i < (session.nodes ++ [Node.ofQuery query]).length
    rw [List.length_append]
    exact Nat.lt_add_right _ (h.there i hi)

section Consult

variable {node : Nat} {base : Node}

/-- Whether the document is generated or was there, it is that of the node's query. -/
theorem Keeps.document (h : Keeps context consulted session)
    (hb : session.nodes[node]? = some base) :
    (session.documentOf context node base).2 = context.generator base.query := by
  have hd := h.documents node base hb
  unfold documentOf
  split
  · next document heq =>
    rw [heq] at hd
    split_ifs at hd
    exact Option.some.inj hd
  · rfl

/-- Asking for a document changes no query. -/
theorem queries_documentOf (context : Context) (hb : session.nodes[node]? = some base) :
    (session.documentOf context node base).1.queries = session.queries := by
  unfold documentOf
  split
  · rfl
  · obtain ⟨hlt, rfl⟩ := List.getElem?_eq_some_iff.1 hb
    refine List.ext_getElem? fun i => ?_
    simp only [getElem?_queries, List.getElem?_set]
    split_ifs with hi
    · subst hi
      simp [hlt]
    · rfl

theorem runs_documentOf (context : Context) (session : Session) (node : Nat) (base : Node) :
    (session.documentOf context node base).1.runs = session.runs := by
  unfold documentOf
  split <;> rfl

/-- The first request for a document generates it, and later ones do not. -/
theorem Keeps.documentOf (h : Keeps context consulted session)
    (hb : session.nodes[node]? = some base) :
    Keeps context (consulted ++ [node]) (session.documentOf context node base).1 := by
  have hlt : node < session.nodes.length := (List.getElem?_eq_some_iff.1 hb).1
  have hd := h.documents node base hb
  unfold Session.documentOf
  split
  · next document heq =>
    -- A document is there only if the node was consulted before: nothing new is consulted.
    have hmem : node ∈ consulted := by
      by_contra hn
      rw [heq, if_neg hn] at hd
      cases hd
    have hiff : ∀ i, i ∈ consulted ++ [node] ↔ i ∈ consulted := fun i => by
      simp only [List.mem_append, List.mem_singleton, or_iff_left_iff_imp]
      rintro rfl
      exact hmem
    refine ⟨fun i other ho => ?_, fun i => ?_, fun i hi => h.there i ((hiff i).1 hi)⟩
    · simp only [hiff]
      exact h.documents i other ho
    · simp only [hiff]
      exact h.generated i
  · next heq =>
    have hnew : node ∉ consulted := fun hmem => by
      rw [heq, if_pos hmem] at hd
      cases hd
    refine ⟨fun i other ho => ?_, fun i => ?_, fun i hi => ?_⟩
    · rw [List.getElem?_set] at ho
      split_ifs at ho with hi
      · cases ho
        simp [hi]
      · simpa [Ne.symm hi] using h.documents i other ho
    · rw [List.count_append, h.generated i, List.count_singleton]
      by_cases hi : i = node
      · simp [hi, hnew]
      · simp [hi, Ne.symm hi]
    · rw [List.length_set]
      rcases List.mem_append.1 hi with hi | hi
      · exact h.there i hi
      · rwa [List.mem_singleton.1 hi]

end Consult

/-! ### One step -/

/-- What becomes of a session when a query is made, or fails to be made, or has no node to be
made from. -/
def enter (session : Session) : Option (Except QueryError Query) → Session × Outcome
  | some (.ok query) => session.add query
  | some (.error e) => (session, .refused e)
  | none => (session, .missing)

theorem derive_eq_enter (session : Session) (node : Nat)
    (make : Query → Except QueryError Query) :
    session.derive node make = session.enter (session.queries[node]?.map make) := by
  rw [getElem?_queries, derive]
  cases session.nodes[node]? with
  | none => rfl
  | some base =>
    rw [Option.map_some, Option.map_some]
    dsimp only
    cases make base.query <;> rfl

/-- What comes after a step: the outcome and the added query are those that the queries before it
give, and if the step reads, it is on record. -/
structure Effect (context : Context) (consulted : List Nat) (session : Session) (s : Step)
    (after : Session × Outcome) : Prop where
  outcome : after.2 = s.outcome context session.queries
  queries : after.1.queries = session.queries ++ s.made context session.queries
  keeps : Keeps context (consulted ++ (s.consulted? after.2).toList) after.1
  runs : after.1.runs = session.runs ++ (s.materialized? after.2).toList

section Effect

variable {s : Step} {result : Outcome}

theorem Keeps.effect_nothing (h : Keeps context consulted session)
    (hresult : s.outcome context session.queries = result)
    (hmade : s.made context session.queries = [])
    (hunread : s.consulted? result = none ∧ s.materialized? result = none) :
    Effect context consulted session s (session, result) where
  outcome := hresult.symm
  queries := by rw [hmade, List.append_nil]
  keeps := by rwa [hunread.1, Option.toList_none, List.append_nil]
  runs := by rw [hunread.2, Option.toList_none, List.append_nil]

/-- Steps that make queries add one or change nothing. -/
theorem Keeps.effect_enter (h : Keeps context consulted session) (hs : s.makes = true) :
    Effect context consulted session s (session.enter (s.make? context session.queries)) := by
  have hresult := Step.outcome_of_makes context session.queries hs
  have hunread := Step.unread_of_makes hs
  cases hmake : s.make? context session.queries with
  | none =>
    rw [hmake] at hresult
    exact h.effect_nothing hresult (by rw [Step.made, hmake]) (hunread _)
  | some made =>
    rw [hmake] at hresult
    cases made with
    | error e => exact h.effect_nothing hresult (by rw [Step.made, hmake]) (hunread _)
    | ok query =>
      refine ⟨?_, ?_, ?_, ?_⟩
      · rw [hresult, Step.answerToMake, queries, List.length_map]
        rfl
      · rw [Step.made, hmake]
        exact List.map_append
      · rw [(hunread _).1, Option.toList_none, List.append_nil]
        exact h.add query
      · rw [(hunread _).2, Option.toList_none, List.append_nil]
        rfl

theorem served_answer (demand : Demand) (query : String)
    (results : List (Except QueryError Json)) : (demand.answer query results).served = true := by
  cases demand with
  | all =>
    rw [Demand.answer]
    cases allOf results <;> rfl
  | each limit => rfl
  | first =>
    rw [Demand.answer]
    cases firstOf query results <;> rfl

theorem served_query_answer (query : Query) (context : Context) (type : RowType)
    (demand : Demand) : (query.answer context type demand).served = true := by
  unfold Query.answer
  split
  · rfl
  · exact served_answer ..

theorem Keeps.effect_document (h : Keeps context consulted session) (node : Nat) :
    Effect context consulted session (.document node) (step context session (.document node)) := by
  have hq := session.getElem?_queries node
  rw [step]
  cases hb : session.nodes[node]? with
  | none =>
    rw [hb] at hq
    exact h.effect_nothing (by rw [Step.outcome, hq]; rfl) rfl ⟨rfl, rfl⟩
  | some base =>
    rw [hb] at hq
    refine ⟨?_, ?_, h.documentOf hb, ?_⟩
    · rw [Step.outcome, hq]
      exact congrArg Outcome.document (h.document hb)
    · exact (queries_documentOf context hb).trans (List.append_nil _).symm
    · exact (runs_documentOf ..).trans (List.append_nil _).symm

theorem Keeps.execute_eq (h : Keeps context consulted session) {node : Nat} {base : Node}
    (hb : session.nodes[node]? = some base) :
    session.execute context node base =
      ({ (session.documentOf context node base).1 with runs := session.runs ++ [node] },
        context.executor (context.generator base.query) base.query.kind) := by
  rw [← h.document hb, ← runs_documentOf context session node base]
  rfl

theorem Keeps.materialize_eq (h : Keeps context consulted session) {node : Nat} {base : Node}
    (hb : session.nodes[node]? = some base) (type : RowType) {demand : Demand}
    (hkind : demand.kind = base.query.kind) :
    session.materialize context node type demand =
      ({ (session.documentOf context node base).1 with runs := session.runs ++ [node] },
        base.query.answer context type demand) := by
  rw [materialize, hb]
  dsimp only
  rw [if_pos hkind, h.execute_eq hb, Query.answer]
  cases context.executor (context.generator base.query) base.query.kind <;> rfl

theorem Keeps.effect_materialize (h : Keeps context consulted session) (node : Nat)
    (type : RowType) (demand : Demand) :
    Effect context consulted session (.materialize node type demand)
      (session.materialize context node type demand) := by
  have hq := session.getElem?_queries node
  cases hb : session.nodes[node]? with
  | none =>
    rw [hb] at hq
    rw [materialize, hb]
    exact h.effect_nothing (by rw [Step.outcome, hq]; rfl) rfl ⟨rfl, rfl⟩
  | some base =>
    rw [hb, Option.map_some] at hq
    by_cases hkind : demand.kind = base.query.kind
    · have houtcome : (Step.materialize node type demand).outcome context session.queries =
          base.query.answer context type demand := by
        rw [Step.outcome, hq]
        exact if_pos hkind
      have hserved : (base.query.answer context type demand).served = true :=
        served_query_answer ..
      have hkeeps := h.documentOf hb
      rw [h.materialize_eq hb type hkind]
      refine ⟨houtcome.symm, (queries_documentOf context hb).trans (List.append_nil _).symm,
        ?_, ?_⟩
      · simp only [Step.consulted?, hserved, if_true, Option.toList_some]
        exact ⟨hkeeps.documents, hkeeps.generated, hkeeps.there⟩
      · simp only [Step.materialized?, hserved, if_true, Option.toList_some]
    · have hwrong : session.materialize context node type demand =
          (session, .wrongKind base.query.kind) := by
        rw [materialize, hb]
        exact if_neg hkind
      rw [hwrong]
      refine h.effect_nothing ?_ rfl ⟨rfl, rfl⟩
      rw [Step.outcome, hq]
      exact if_neg hkind

end Effect

theorem step_of_makes (context : Context) (session : Session) {s : Step} (hs : s.makes = true) :
    step context session s = session.enter (s.make? context session.queries) := by
  cases s with
  | create name kind arguments => rfl
  | withInclude node projection => rw [step, derive_eq_enter, Step.make?]
  | withSelector node projection => rw [step, derive_eq_enter, Step.make?]
  | clone node => rw [step, derive_eq_enter, Step.make?]
  | document node => cases hs
  | materialize node type demand => cases hs

theorem step_of_make? {s : Step} {made : Except QueryError Query}
    (h : s.make? context session.queries = some made) :
    step context session s = session.enter (some made) := by
  rw [step_of_makes context session (Step.makes_of_make? h), h]

theorem Keeps.effect (h : Keeps context consulted session) (s : Step) :
    Effect context consulted session s (step context session s) := by
  cases hs : s.makes with
  | true =>
    rw [step_of_makes context session hs]
    exact h.effect_enter hs
  | false =>
    cases s with
    | document node => exact h.effect_document node
    | materialize node type demand => exact h.effect_materialize node type demand
    | _ => cases hs

/-! ### Runs -/

theorem consulted_cons (s : Step) (outcome : Outcome) (history : History) :
    History.consulted ((s, outcome) :: history) =
      (s.consulted? outcome).toList ++ history.consulted := by
  cases hc : s.consulted? outcome <;> simp [History.consulted, hc]

theorem materialized_cons (s : Step) (outcome : Outcome) (history : History) :
    History.materialized ((s, outcome) :: history) =
      (s.materialized? outcome).toList ++ history.materialized := by
  cases hm : s.materialized? outcome <;> simp [History.materialized, hm]

/-- What a session keeps, and what it has on record, follows its history. -/
theorem Keeps.run (h : Keeps context consulted session) (steps : List Step) :
    let after := Session.run context session steps
    let history : History := steps.zip after.2
    Keeps context (consulted ++ history.consulted) after.1 ∧
      after.1.runs = session.runs ++ history.materialized ∧
      session.queries <+: after.1.queries := by
  intro after history
  -- What was consulted before the steps is in front of what they consult.
  induction steps generalizing consulted session with
  | nil =>
    refine ⟨?_, (List.append_nil _).symm, List.prefix_refl _⟩
    rw [← List.append_nil consulted] at h
    exact h
  | cons s steps ih =>
    have heffect := h.effect s
    obtain ⟨hkeeps, hruns, hqueries⟩ := ih heffect.keeps
    have hhistory : history = (s, (step context session s).2) ::
      steps.zip (Session.run context (step context session s).1 steps).2 := rfl
    have hafter : after = ((Session.run context (step context session s).1 steps).1,
      (step context session s).2 :: (Session.run context (step context session s).1 steps).2) := rfl
    rw [hhistory, hafter, consulted_cons, materialized_cons]
    refine ⟨?_, ?_, ?_⟩
    · rwa [← List.append_assoc]
    · rw [hruns, heffect.runs, List.append_assoc]
    · rw [heffect.queries] at hqueries
      exact (List.prefix_append ..).trans hqueries

/-- Whatever was done in a session, its documents are those of their queries and were generated
once for each node consulted, and the executor was called once for each materialization. The
next step is answered as the queries alone would have it; if it makes a query, that is added
without a document, and if it fails to, nothing changes. Queries stay as they are whatever is
done later. -/
theorem records_of_run (context : Context) (steps : List Step) (next : Step)
    (later : List Step) :
    let session := (run context .empty steps).1
    let history : History := steps.zip (run context .empty steps).2
    let after := step context session next
    Keeps context history.consulted session ∧ session.runs = history.materialized ∧
      after.2 = next.outcome context session.queries ∧
      after.1.queries = session.queries ++ next.made context session.queries ∧
      (∀ query, next.make? context session.queries = some (.ok query) →
        after.1 = { session with nodes := session.nodes ++ [⟨query, none⟩] }) ∧
      (∀ e, next.make? context session.queries = some (.error e) → after.1 = session) ∧
      session.queries <+: (run context session later).1.queries := by
  intro session history after
  obtain ⟨hkeeps, hruns, -⟩ := (keeps_empty context).run steps
  have heffect := hkeeps.effect next
  exact ⟨hkeeps, hruns, heffect.outcome, heffect.queries,
    fun _ hmake => congrArg Prod.fst (step_of_make? hmake),
    fun _ hmake => congrArg Prod.fst (step_of_make? hmake), (hkeeps.run later).2.2⟩

/-- A path that is asked for and one that is refused, a document read twice, rows of a clone
that nobody asked the document of, and one more clone. -/
theorem records_of_posts :
    let context := { Context.ofConfig .default with executor := .ofRows [.boolean true] }
    let author := Projection.tree (.lambda ["x"] (.member (.name "x") "Author"))
    let steps : List Step := [.create "posts" .collection [], .withInclude 0 author, .document 1,
      .document 1, .clone 1, .materialize 2 .json .all]
    let whole := Step.withInclude 2 (.tree (.name "x"))
    let refusal := QueryError.invalidInclude (.name "x") .notALambda
    let posts := Query.ofName "posts" .collection []
    let session := (run context .empty steps).1
    session.generations = [1, 2] ∧ session.runs = [2] ∧
      whole.make? context session.queries = some (.error refusal) ∧
      (step context session whole).1 = session ∧
      (Step.clone 0).make? context session.queries = some (.ok posts) ∧
      (step context session (.clone 0)).1 =
        { session with nodes := session.nodes ++ [⟨posts, none⟩] } := by
  intro context author steps whole refusal posts session
  have hfails : whole.make? context session.queries = some (.error refusal) := rfl
  have hmakes : (Step.clone 0).make? context session.queries = some (.ok posts) := rfl
  obtain ⟨-, -, -, -, -, hfailed, -⟩ := records_of_run context steps whole []
  obtain ⟨-, -, -, -, hmade, -, -⟩ := records_of_run context steps (.clone 0) []
  exact ⟨rfl, rfl, hfails, hfailed _ hfails, hmakes, hmade _ hmakes⟩

end Session

end Projections
