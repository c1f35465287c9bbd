import Projections.Query.Config
import Projections.Query.RowType
import Projections.Query.Rows

/-! Sessions: queries in use, made one from another. The document of a query is
generated when it is first asked for, and kept; a query made from it starts without
one. It is on record for which nodes documents were generated, and which were executed. -/

namespace Projections

/-- What queries are made and run with. -/
structure Context where
  registry : Registry
  generator : Query → Document
  executor : Executor

/-- The standard operators, documents as configured, and no source of rows. -/
def Context.ofConfig (config : Config) : Context :=
  ⟨.standard, fun query => config.toDocumentStyle.generate query.toRequest, .unconfigured⟩

/-- A query and its document, once that has been asked for. -/
structure Node where
  query : Query
  document : Option Document

def Node.ofQuery (query : Query) : Node := ⟨query, none⟩

structure Session where
  nodes : List Node
  /-- the nodes for which the generator was called, call by call -/
  generations : List Nat
  /-- the nodes for which the executor was called, call by call -/
  runs : List Nat

/-- How results are asked for: all or the first failure, each by itself, or only one. -/
inductive Demand where
  | all
  | each (limit : Option Nat)
  | first
deriving DecidableEq, Repr

/-- The queries that can answer a demand. -/
def Demand.kind : Demand → Kind
  | .all => .collection
  | .each _ => .collection
  | .first => .item

/-- A request to a session. Nodes are given by their numbers, in order of creation. -/
inductive Step where
  | create (name : String) (kind : Kind) (arguments : List (String × Json))
  | withInclude (node : Nat) (projection : Projection)
  | withSelector (node : Nat) (projection : Projection)
  | clone (node : Nat)
  | document (node : Nat)
  | materialize (node : Nat) (type : RowType) (demand : Demand)

inductive Outcome where
  | created (node : Nat)
  | document (document : Document)
  | rows (rows : List Json)
  | row (row : Json)
  | results (results : List (Except QueryError Json))
  | refused (error : QueryError)
  | missing
  /-- a demand that queries of the node's kind do not answer -/
  | wrongKind (kind : Kind)

namespace Demand

def answer (query : String) (results : List (Except QueryError Json)) : Demand → Outcome
  | .all =>
    match allOf results with
    | .ok rows => .rows rows
    | .error e => .refused e
  | .each limit => .results (limit.elim results results.take)
  | .first =>
    match firstOf query results with
    | .ok row => .row row
    | .error e => .refused e

end Demand

namespace Session

def empty : Session := ⟨[], [], []⟩

def generated (session : Session) : Nat := session.generations.length

def executions (session : Session) : Nat := session.runs.length

def add (session : Session) (query : Query) : Session × Outcome :=
  ({ session with nodes := session.nodes ++ [.ofQuery query] }, .created session.nodes.length)

/-- Adds what is made of a query, or else changes nothing. -/
def derive (session : Session) (node : Nat) (make : Query → Except QueryError Query) :
    Session × Outcome :=
  match session.nodes[node]? with
  | none => (session, .missing)
  | some base =>
    match make base.query with
    | .ok query => session.add query
    | .error e => (session, .refused e)

/-- The document of a node, generated unless it is there. -/
def documentOf (session : Session) (context : Context) (node : Nat) (base : Node) :
    Session × Document :=
  match base.document with
  | some document => (session, document)
  | none =>
    let document := context.generator base.query
    ({ session with
        nodes := session.nodes.set node { base with document := some document }
        generations := session.generations ++ [node] }, document)

/-- Runs the query of a node. -/
def execute (session : Session) (context : Context) (node : Nat) (base : Node) :
    Session × Except ExecutionError RowStream :=
  let (session, document) := session.documentOf context node base
  ({ session with runs := session.runs ++ [node] },
    context.executor document base.query.kind)

def materialize (session : Session) (context : Context) (node : Nat) (type : RowType)
    (demand : Demand) : Session × Outcome :=
  match session.nodes[node]? with
  | none => (session, .missing)
  | some base =>
    if demand.kind = base.query.kind then
      let (session, stream) := session.execute context node base
      match stream with
      | .error cause => (session, .refused (.execution cause))
      | .ok stream =>
        (session, demand.answer base.query.name (stream.results base.query.selector type.decode))
    else (session, .wrongKind base.query.kind)

def step (context : Context) (session : Session) : Step → Session × Outcome
  | .create name kind arguments => session.add (.ofName name kind arguments)
  | .withInclude node projection =>
    session.derive node fun query => query.withInclude context.registry projection
  | .withSelector node projection => session.derive node fun query => query.withSelector projection
  | .clone node => session.derive node .ok
  | .document node =>
    match session.nodes[node]? with
    | none => (session, .missing)
    | some base =>
      let (session, document) := session.documentOf context node base
      (session, .document document)
  | .materialize node type demand => session.materialize context node type demand

/-- Takes steps one after the other; gives the outcome of each. -/
def run (context : Context) (session : Session) : List Step → Session × List Outcome
  | [] => (session, [])
  | s :: steps =>
    let (session, outcome) := step context session s
    let (session, outcomes) := run context session steps
    (session, outcome :: outcomes)

end Session

end Projections
