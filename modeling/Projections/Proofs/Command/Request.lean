import Projections.Command.Basic
import Projections.Proofs.Result

/-! Requests in texts. A request can be read exactly if each of its arguments and paths can be
and its selector is one, and then the query selects by that alone. Whether it is for one row or
for all plays no part in that, nor in why it cannot be read. -/

namespace Projections

theorem Projection.expr_source_eq_ok_iff {source : String} {e : Expr} :
    (Projection.source source).expr = .ok e ↔ parse source = .ok e := by
  rw [expr]
  cases parse source <;> simp

namespace Query

/-- The same query for one row, or for all. -/
def ofKind (query : Query) (kind : Kind) : Query := { query with kind := kind }

variable {query result : Query} {registry : Registry} {source : String}

theorem withInclude_ofKind (kind : Kind) (projection : Projection) :
    (query.ofKind kind).withInclude registry projection =
      (query.withInclude registry projection).map (·.ofKind kind) := by
  unfold withInclude
  cases projection.expr with
  | error cause => rfl
  | ok e =>
    rw [Result.ok_bind, Result.ok_bind]
    cases registry.resolveInclude e <;> rfl

theorem withSelector_ofKind (kind : Kind) (projection : Projection) :
    (query.ofKind kind).withSelector projection =
      (query.withSelector projection).map (·.ofKind kind) := by
  unfold withSelector
  cases projection.expr with
  | error cause => rfl
  | ok e =>
    rw [Result.ok_bind, Result.ok_bind]
    cases e.selector <;> rfl

theorem withInclude_eq_ok_iff : query.withInclude registry (.source source) = .ok result ↔
    ∃ e path, parse source = .ok e ∧ registry.resolveInclude e = .ok path ∧
      result = { query with includes := query.includes ++ [path] } := by
  rw [withInclude, Result.bind_eq_ok_iff]
  refine exists_congr fun e => ?_
  rw [Projection.expr_source_eq_ok_iff]
  cases registry.resolveInclude e <;> simp [pure, Except.pure, eq_comm]

theorem withSelector_eq_ok_iff : query.withSelector (.source source) = .ok result ↔
    ∃ e s, parse source = .ok e ∧ e.selector = .ok s ∧
      result = { query with selector := some (query.composed s) } := by
  rw [withSelector, Result.bind_eq_ok_iff]
  refine exists_congr fun e => ?_
  rw [Projection.expr_source_eq_ok_iff]
  cases e.selector <;> simp [pure, Except.pure, eq_comm]

/-- Asks for the paths of texts, one after the other. -/
def withIncludes (query : Query) (sources : List String) : Except QueryError Query :=
  sources.foldlM (fun query path => query.withInclude .standard (.source path)) query

theorem withIncludes_cons (query : Query) (source : String) (sources : List String) :
    query.withIncludes (source :: sources) =
      query.withInclude .standard (.source source) >>= (·.withIncludes sources) := rfl

theorem withIncludes_ofKind (kind : Kind) (sources : List String) :
    (query.ofKind kind).withIncludes sources =
      (query.withIncludes sources).map (·.ofKind kind) := by
  induction sources generalizing query with
  | nil => rfl
  | cons source sources ih =>
    rw [withIncludes_cons, withIncludes_cons, withInclude_ofKind]
    cases query.withInclude .standard (.source source) with
    | error e => rfl
    | ok next => exact ih

end Query

/-- A text of an include that can be resolved. -/
def IsPath (source : String) : Prop :=
  ∃ e path, parse source = .ok e ∧ Registry.standard.resolveInclude e = .ok path

theorem exists_withIncludes_iff {query : Query} {sources : List String} :
    (∃ result, query.withIncludes sources = .ok result) ↔ ∀ source ∈ sources, IsPath source := by
  induction sources generalizing query with
  | nil => simp [Query.withIncludes, pure, Except.pure]
  | cons source sources ih =>
    simp only [Query.withIncludes_cons, Result.bind_eq_ok_iff, List.forall_mem_cons]
    constructor
    · rintro ⟨result, next, hnext, hresult⟩
      obtain ⟨e, path, hparse, hresolve, -⟩ := Query.withInclude_eq_ok_iff.1 hnext
      exact ⟨⟨e, path, hparse, hresolve⟩, ih.1 ⟨result, hresult⟩⟩
    · rintro ⟨⟨e, path, hparse, hresolve⟩, hsources⟩
      obtain ⟨result, hresult⟩ := ih.2 hsources
      exact ⟨result, _, Query.withInclude_eq_ok_iff.2 ⟨e, path, hparse, hresolve, rfl⟩, hresult⟩

/-- Includes change no name and no selector. -/
theorem withIncludes_unchanged {query result : Query} {sources : List String}
    (h : query.withIncludes sources = .ok result) :
    result.name = query.name ∧ result.selector = query.selector := by
  induction sources generalizing query with
  | nil =>
    cases h
    exact ⟨rfl, rfl⟩
  | cons source sources ih =>
    rw [Query.withIncludes_cons, Result.bind_eq_ok_iff] at h
    obtain ⟨next, hnext, h⟩ := h
    obtain ⟨e, path, -, -, rfl⟩ := Query.withInclude_eq_ok_iff.1 hnext
    have hresult := ih h
    exact hresult

theorem exists_readArguments_iff {given : List String} :
    (∃ arguments, readArguments given = .ok arguments) ↔
      ∀ g ∈ given, ∃ argument, readArgument g = .ok argument := by
  induction given with
  | nil => simp [readArguments]
  | cons g given ih =>
    rw [List.forall_mem_cons, ← ih, readArguments]
    cases readArgument g with
    | error e => simp
    | ok argument => cases readArguments given <;> simp [pure, Except.pure]

namespace QueryText

/-- The selector of a text, where there is one. -/
inductive Selects : Option String → Option Selector → Prop
  | nothing : Selects none none
  | selector {source : String} {e : Expr} {s : Selector} (hparse : parse source = .ok e)
      (hselector : e.selector = .ok s) : Selects (some source) (some s)

/-- The arguments, the paths and the selector can be read. -/
structure Valid (text : QueryText) (selector : Option Selector) : Prop where
  arguments : ∀ given ∈ text.arguments, ∃ argument, readArgument given = .ok argument
  includes : ∀ source ∈ text.includes, IsPath source
  select : Selects text.select selector

variable {text : QueryText} {selector : Option Selector} {query : Query}

theorem Selects.unique {select : Option String} {s t : Option Selector} (hs : Selects select s)
    (ht : Selects select t) : s = t := by
  cases hs with
  | nothing =>
    cases ht
    rfl
  | selector hparse hselector =>
    cases ht with
    | selector hparse' hselector' =>
      cases hparse.symm.trans hparse'
      cases hselector.symm.trans hselector'
      rfl

theorem Selects.exists_withSelector {select : Option String} {s : Option Selector}
    (h : Selects select s) (query : Query) :
    ∃ result, (match select with
      | some source => query.withSelector (.source source)
      | none => .ok query) = .ok result := by
  cases h with
  | nothing => exact ⟨query, rfl⟩
  | selector hparse hselector =>
    exact ⟨_, Query.withSelector_eq_ok_iff.2 ⟨_, _, hparse, hselector, rfl⟩⟩

/-- The same text for one row, or for all. -/
def ofItem (text : QueryText) (item : Bool) : QueryText := { text with item := item }

theorem build_eq (text : QueryText) (arguments : List (String × Json)) : text.build arguments =
    (Query.ofName text.name text.kind arguments).withIncludes text.includes >>= fun query =>
      match text.select with
      | some selector => query.withSelector (.source selector)
      | none => .ok query := rfl

theorem build_ofItem (item : Bool) (arguments : List (String × Json)) :
    (text.ofItem item).build arguments =
      (text.build arguments).map (·.ofKind (text.ofItem item).kind) := by
  have hfresh : Query.ofName (text.ofItem item).name (text.ofItem item).kind arguments =
    (Query.ofName text.name text.kind arguments).ofKind (text.ofItem item).kind := rfl
  have htexts : (text.ofItem item).includes = text.includes ∧
    (text.ofItem item).select = text.select := ⟨rfl, rfl⟩
  rw [build_eq, build_eq, hfresh, htexts.1, htexts.2, Query.withIncludes_ofKind]
  cases (Query.ofName text.name text.kind arguments).withIncludes text.includes with
  | error e => rfl
  | ok query =>
    cases text.select with
    | none => rfl
    | some selector => exact Query.withSelector_ofKind ..

/-- Whether a text can be read does not depend on its kind, and no more does why it cannot. -/
theorem query_ofItem (text : QueryText) (item : Bool) :
    (text.ofItem item).query = text.query.map (·.ofKind (text.ofItem item).kind) := by
  have harguments : (text.ofItem item).arguments = text.arguments := rfl
  rw [query, query, harguments]
  cases readArguments text.arguments with
  | error e => rfl
  | ok arguments =>
    rw [Result.ok_bind, Result.ok_bind, build_ofItem]
    cases text.build arguments <;> rfl

theorem query_eq_ok_iff : text.query = .ok query ↔
    ∃ arguments, readArguments text.arguments = .ok arguments ∧
      text.build arguments = .ok query := by
  rw [QueryText.query, Result.bind_eq_ok_iff]
  refine exists_congr fun arguments => and_congr_right fun _ => ?_
  cases text.build arguments <;> simp [pure, Except.pure]

theorem valid_of_query (h : text.query = .ok query) :
    text.Valid query.selector ∧ query.name = text.name := by
  obtain ⟨arguments, harguments, hbuild⟩ := query_eq_ok_iff.1 h
  rw [build_eq, Result.bind_eq_ok_iff] at hbuild
  obtain ⟨included, hincluded, hselect⟩ := hbuild
  obtain ⟨hname, hselector⟩ := withIncludes_unchanged hincluded
  have hread := exists_readArguments_iff.1 ⟨arguments, harguments⟩
  have hpaths := exists_withIncludes_iff.1 ⟨included, hincluded⟩
  cases hs : text.select with
  | none =>
    rw [hs] at hselect
    cases hselect
    exact ⟨⟨hread, hpaths, by rw [hs, hselector]; exact .nothing⟩, hname⟩
  | some source =>
    rw [hs] at hselect
    obtain ⟨e, s, hparse, hes, rfl⟩ := Query.withSelector_eq_ok_iff.1 hselect
    have hcomposed : included.composed s = s := by
      rw [Query.composed, hselector]
      rfl
    refine ⟨⟨hread, hpaths, ?_⟩, hname⟩
    rw [hs, hcomposed]
    exact .selector hparse hes

theorem exists_query (h : text.Valid selector) :
    ∃ query, text.query = .ok query ∧ query.selector = selector := by
  obtain ⟨arguments, harguments⟩ := exists_readArguments_iff.2 h.arguments
  obtain ⟨included, hincluded⟩ := exists_withIncludes_iff.2 h.includes
  obtain ⟨query, hquery⟩ := h.select.exists_withSelector included
  have hread : text.query = .ok query := by
    refine query_eq_ok_iff.2 ⟨arguments, harguments, ?_⟩
    rw [build_eq, Result.bind_eq_ok_iff]
    exact ⟨included, hincluded, hquery⟩
  exact ⟨query, hread, (valid_of_query hread).1.select.unique h.select⟩

end QueryText

end Projections
