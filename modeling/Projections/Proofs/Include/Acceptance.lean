import Projections.Proofs.Include.Resolution
import Projections.Proofs.Include.Steps

/-! Which includes resolve. A function of one parameter resolves exactly if its body is a chain
from that parameter, and it is an include if it goes on from the bare parameter. -/

namespace Projections

open Result (bind_eq_ok_iff)
open Registry (called_eq_ok_iff resolve_eq_ok_iff resolveInclude_eq_ok_iff)

namespace Include

/-- Chains from a parameter. Any chain goes on with a member, and with an operator that is
registered for as many parameters as it is given literals. A projection goes on with a chain from
the parameter of its function, which alone is in scope there; both chains have to lead away from
their parameters. -/
inductive ChainFrom (registry : Registry) : (parameter : String) → Expr → Prop
  | parameter {p : String} : ChainFrom registry p (.name p)
  | member {p : String} {base : Expr} {field : String} :
      ChainFrom registry p base → ChainFrom registry p (.member base field)
  | operator {p : String} {base : Expr} {method : String} {operator : Operator}
      {literals : List Literal} :
      ChainFrom registry p base → registry.get? method = some operator →
      literals.length = operator.parameters.length →
      ChainFrom registry p (.call base method (literals.map Literal.toExpr))
  | projection {p inner : String} {base body : Expr} :
      ChainFrom registry p base → base ≠ .name p →
      ChainFrom registry inner body → body ≠ .name inner →
      ChainFrom registry p (.call base projectionName [.lambda [inner] body])

/-! ### Literals are bound -/

theorem literal?_toExpr (literal : Literal) : literal.toExpr.literal? = some literal := by
  cases literal <;> rfl

theorem bindArguments_literals (operator : Operator) (parameters : List String)
    (literals : List Literal) :
    operator.bindArguments (parameters.zip (literals.map Literal.toExpr)) =
      .ok (parameters.zip literals) := by
  induction parameters generalizing literals with
  | nil => rfl
  | cons parameter parameters ih =>
    cases literals with
    | nil => rfl
    | cons literal literals =>
      rw [List.map_cons, List.zip_cons_cons, Operator.bindArguments, literal?_toExpr]
      dsimp only
      rw [ih]
      rfl

theorem exists_applyTo {operator : Operator} {literals : List Literal}
    (h : literals.length = operator.parameters.length) :
    ∃ a, operator.applyTo (literals.map Literal.toExpr) = .ok a := by
  refine ⟨⟨operator.name, Fields.ofList (operator.parameters.zip literals)⟩, ?_⟩
  unfold Operator.applyTo
  rw [if_pos (by rw [List.length_map, h]), bindArguments_literals]
  rfl

theorem literals_ne_function (literals : List Literal) (parameters : List String) (body : Expr) :
    literals.map Literal.toExpr ≠ [.lambda parameters body] := by
  intro h
  obtain ⟨literal, -, hl⟩ := List.mem_map.1 (h ▸ List.mem_singleton_self _)
  cases literal <;> cases hl

/-! ### What calls need -/

variable {registry : Registry} {parameter : String} {e : Expr} {path : Path}

theorem exists_join? {front back : Path} (hf : front.text ≠ none) (hb : back.text ≠ none) :
    ∃ path, front.join? back = some path := by
  obtain ⟨first, hfirst⟩ := Option.ne_none_iff_exists'.1 hf
  obtain ⟨second, hsecond⟩ := Option.ne_none_iff_exists'.1 hb
  unfold Path.join?
  rw [hfirst, hsecond]
  exact ⟨_, rfl⟩

/-! ### Resolution -/

/-- The path of a call never leads nowhere. -/
theorem chainFrom_of_called {base : Expr} {method : String} {arguments : List Expr}
    {source : Except ResolveError Path}
    (hbase : ∀ {front}, source = .ok front → ChainFrom registry parameter base)
    (h : registry.called base method arguments source = .ok path) :
    ChainFrom registry parameter (.call base method arguments) ∧
      (path.text = none ↔ Expr.call base method arguments = .name parameter) := by
  obtain ⟨operator, front, a, hm, hfront, ha, rfl⟩ := called_eq_ok_iff.1 h
  obtain ⟨literals, rfl, hlength, -⟩ := (applyTo_eq_ok ha).bound
  exact ⟨.operator (hbase hfront) hm hlength, iff_of_false (Option.some_ne_none _) (by simp)⟩

/-- What resolves is a chain, and its path leads nowhere only if it is the bare parameter. -/
theorem chainFrom_of_resolveFrom (h : registry.resolveFrom parameter e = .ok path) :
    ChainFrom registry parameter e ∧ (path.text = none ↔ e = .name parameter) := by
  induction parameter, e using Registry.resolveFrom.induct registry generalizing path with
  | case1 n =>
    rw [Registry.resolveFrom, if_pos rfl] at h
    cases h
    exact ⟨.parameter, iff_of_true rfl rfl⟩
  | case2 parameter n hne =>
    rw [Registry.resolveFrom, if_neg hne] at h
    cases h
  | case3 parameter base field ih =>
    simp only [Registry.resolveFrom, bind_eq_ok_iff] at h
    obtain ⟨front, hfront, h⟩ := h
    cases h
    exact ⟨.member (ih hfront).1, iff_of_false (Option.some_ne_none _) (by simp)⟩
  | case4 parameter base parameters body ih ihBody =>
    simp only [Registry.resolveFrom, if_true] at h
    obtain ⟨front, back, hfront, hback, hj⟩ := projected_eq_ok_iff.1 h
    obtain ⟨_, _, hfirst, hsecond, htext, -⟩ := Path.join?_eq_some hj
    rcases parameters with _ | ⟨inner, _ | ⟨second, others⟩⟩
    · cases hback
    · obtain ⟨hbase, hbare⟩ := ih hfront
      obtain ⟨hbody, hinner⟩ := ihBody inner hback
      refine ⟨.projection hbase (fun hn => ?_) hbody fun hn => ?_, ?_⟩
      · rw [hbare.2 hn] at hfirst
        cases hfirst
      · rw [hinner.2 hn] at hsecond
        cases hsecond
      · rw [htext]
        exact iff_of_false (Option.some_ne_none _) (by simp)
    · cases hback
  | case5 parameter base method parameters body hne ih =>
    simp only [Registry.resolveFrom, if_neg hne] at h
    exact chainFrom_of_called (fun hfront => (ih hfront).1) h
  | case6 parameter base method arguments hne ih =>
    rw [Registry.resolveFrom] at h
    · exact chainFrom_of_called (fun hfront => (ih hfront).1) h
    · exact hne
  | case7 parameter other hname hmember hcall =>
    rw [Registry.resolveFrom] at h
    · cases h
    all_goals assumption

theorem exists_resolveFrom (h : ChainFrom registry parameter e) :
    ∃ path, registry.resolveFrom parameter e = .ok path := by
  induction h with
  | parameter => exact ⟨.root, by rw [Registry.resolveFrom, if_pos rfl]⟩
  | member _ ih =>
    obtain ⟨front, hfront⟩ := ih
    exact ⟨_, by rw [Registry.resolveFrom, hfront]; rfl⟩
  | operator _ hm hlength ih =>
    obtain ⟨front, hfront⟩ := ih
    obtain ⟨a, ha⟩ := exists_applyTo hlength
    refine ⟨front.apply a, ?_⟩
    rw [Registry.resolveFrom]
    · exact called_eq_ok_iff.2 ⟨_, front, a, hm, hfront, ha, rfl⟩
    · exact literals_ne_function _
  | projection _ hbase _ hbody ih ihBody =>
    obtain ⟨front, hfront⟩ := ih
    obtain ⟨back, hback⟩ := ihBody
    obtain ⟨path, hj⟩ := exists_join?
      (mt (chainFrom_of_resolveFrom hfront).2.1 hbase)
      (mt (chainFrom_of_resolveFrom hback).2.1 hbody)
    refine ⟨path, ?_⟩
    simp only [Registry.resolveFrom, if_true]
    exact projected_eq_ok_iff.2 ⟨front, back, hfront, hback, hj⟩

/-- A function resolves if it is a chain from its one parameter, and is an include if it is not
the bare parameter, which has the path without text and operators. -/
theorem resolve_iff_chainFrom (registry : Registry) :
    (∀ e : Expr, (∃ path, registry.resolveInclude e = .ok path) ↔
      ∃ parameter body, e = .lambda [parameter] body ∧ ChainFrom registry parameter body ∧
        body ≠ .name parameter) ∧
    (∀ f : Lambda, (∃ path, registry.resolve f = .ok path) ↔
      (∃ path, registry.resolveInclude f.toExpr = .ok path) ∨
        ∃ parameter, f = ⟨[parameter], .name parameter⟩) ∧
    ∀ parameter, registry.resolve ⟨[parameter], .name parameter⟩ = .ok ⟨none, [], []⟩ := by
  have hbare : ∀ parameter, registry.resolve ⟨[parameter], .name parameter⟩ = .ok .root := by
    intro parameter
    refine resolve_eq_ok_iff.2 ⟨parameter, _, rfl, ?_⟩
    rw [Registry.resolveFrom, if_pos rfl]
  refine ⟨fun e => ⟨?_, ?_⟩, fun f => ⟨?_, ?_⟩, hbare⟩
  · rintro ⟨path, h⟩
    obtain ⟨p, body, rfl, hfrom, htext⟩ := resolveInclude_eq_ok_iff.1 h
    obtain ⟨hchain, hnone⟩ := chainFrom_of_resolveFrom hfrom
    exact ⟨p, body, rfl, hchain, mt hnone.2 htext⟩
  · rintro ⟨p, body, rfl, hchain, hne⟩
    obtain ⟨path, hfrom⟩ := exists_resolveFrom hchain
    have htext := mt (chainFrom_of_resolveFrom hfrom).2.1 hne
    exact ⟨path, resolveInclude_eq_ok_iff.2 ⟨p, body, rfl, hfrom, htext⟩⟩
  · rintro ⟨path, h⟩
    obtain ⟨p, body, rfl, hfrom⟩ := resolve_eq_ok_iff.1 h
    by_cases htext : path.text = none
    · rw [(chainFrom_of_resolveFrom hfrom).2.1 htext]
      exact .inr ⟨p, rfl⟩
    · exact .inl ⟨path, resolveInclude_eq_ok_iff.2 ⟨p, body, rfl, hfrom, htext⟩⟩
  · rintro (⟨path, h⟩ | ⟨parameter, rfl⟩)
    · obtain ⟨p, body, he, hfrom, -⟩ := resolveInclude_eq_ok_iff.1 h
      obtain ⟨parameters, body'⟩ := f
      cases he
      exact ⟨path, resolve_eq_ok_iff.2 ⟨_, _, rfl, hfrom⟩⟩
    · exact ⟨_, hbare parameter⟩

end Include

end Projections
