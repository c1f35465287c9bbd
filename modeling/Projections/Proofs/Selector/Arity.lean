import Projections.Proofs.Selector.Shorthand

/-! Calls with a wrong number of arguments. Such a call fails on every receiver, with one
exception: totals and extremes look at their arguments anew with each element, so that on a
receiver without elements nothing looks at them. -/

namespace Projections

/-- Numbers of arguments that are right. -/
def Arity.Admits : Arity → ℕ → Prop
  | .exactlyOne, size => size = 1
  | .atMostOne, size => size ≤ 1

/-- A receiver of elements that has none. -/
def Value.isBare : Value → Bool
  | .null | .array [] => true
  | _ => false

namespace Method

/-- How many arguments a method takes, if it minds. -/
def arity? : Method → Option Arity
  | .select | .filter | .all | .orderBy | .orderByDescending | .take | .skip => some .exactlyOne
  | .contains | .startsWith | .endsWith | .occurrence => some .exactlyOne
  | .any | .first | .last | .count | .sum | .min | .max => some .atMostOne
  | .toUpper | .toLower | .trim => none

/-- Methods that look at their arguments anew with each element. -/
def perElement : Method → Bool
  | .sum | .min | .max => true
  | _ => false

/-- What such a method makes of no elements. -/
def ofNothing (m : Method) : Value := if m = .sum then .integer 0 else .null

/-- Why a call with a wrong number of arguments fails. A method that may do without an argument
looks at its receiver first. -/
def misuse (m : Method) (allowed : Arity) (receiver : Value) (size : ℕ) : TypeFault :=
  match allowed, receiver with
  | .exactlyOne, _ | .atMostOne, .null | .atMostOne, .array _ => .arity m.name allowed size
  | .atMostOne, other => .receiver m.name "array" other.typeName

section Calls

variable {m : Method} {arguments : List Argument}

theorem one_of_wrong_arity (m : Method) (h : ¬ Arity.exactlyOne.Admits arguments.length) :
    m.one arguments = .error (.type (.arity m.name .exactlyOne arguments.length)) := by
  match arguments with
  | [_] => exact absurd rfl h
  | [] | _ :: _ :: _ => rfl

theorem optional_of_wrong_arity (m : Method) (h : ¬ Arity.atMostOne.Admits arguments.length) :
    m.optional arguments = .error (.type (.arity m.name .atMostOne arguments.length)) := by
  match arguments with
  | [] => exact absurd (Nat.zero_le 1) h
  | [_] => exact absurd (Nat.le_refl 1) h
  | _ :: _ :: _ => rfl

/-- The one argument is looked at before the receiver is. -/
theorem call_of_not_one (hm : m.arity? = some .exactlyOne)
    (h : ¬ Arity.exactlyOne.Admits arguments.length) (receiver : Value) :
    m.call receiver arguments = .error (.type (.arity m.name .exactlyOne arguments.length)) := by
  cases m with
  | select | filter | all | orderBy | orderByDescending | contains =>
    rw [call, one_of_wrong_arity _ h]
    rfl
  | take | skip =>
    rw [call, size, one_of_wrong_arity _ h]
    rfl
  | startsWith | endsWith | occurrence =>
    rw [call, needle, one_of_wrong_arity _ h]
    rfl
  | any | first | last | count | sum | min | max | toUpper | toLower | trim => cases hm

/-- Where an argument is optional, a receiver that has no elements is what fails first. -/
theorem call_of_no_elements (hm : m.arity? = some .atMostOne) {receiver : Value} {e : BindError}
    (h : m.elements receiver = .error e) : m.call receiver arguments = .error e := by
  cases m with
  | any | first | last | count | sum | min | max =>
    rw [call, h]
    rfl
  | select | filter | all | orderBy | orderByDescending | take | skip | toUpper | toLower | trim
  | contains | startsWith | endsWith | occurrence => cases hm

/-- Elements are not looked at before the optional argument, except by the methods that look at
the argument anew with each. -/
theorem call_of_not_optional (hm : m.arity? = some .atMostOne)
    (h : ¬ Arity.atMostOne.Admits arguments.length) {receiver : Value} {items : List Value}
    (hitems : m.elements receiver = .ok items) :
    m.call receiver arguments =
      if m.perElement && items.isEmpty then .ok m.ofNothing
      else .error (.type (.arity m.name .atMostOne arguments.length)) := by
  have hnone := optional_of_wrong_arity m h
  cases m with
  | any =>
    rw [call, hitems, Result.ok_bind, hnone]
    rfl
  | first | last | count =>
    rw [call, hitems, Result.ok_bind, selection, hnone]
    rfl
  | sum | min | max =>
    rw [call, hitems, Result.ok_bind]
    cases items with
    | nil => rfl
    | cons item rest =>
      simp only [total, extreme, List.foldlM_cons, contribution, hnone]
      rfl
  | select | filter | all | orderBy | orderByDescending | take | skip | toUpper | toLower | trim
  | contains | startsWith | endsWith | occurrence => cases hm

/-- The outcome of a call with a wrong number of arguments. -/
theorem call_of_wrong_arity {allowed : Arity} (hm : m.arity? = some allowed)
    (h : ¬ allowed.Admits arguments.length) (receiver : Value) :
    m.call receiver arguments =
      if m.perElement && receiver.isBare then .ok m.ofNothing
      else .error (.type (m.misuse allowed receiver arguments.length)) := by
  cases allowed with
  | exactlyOne =>
    have hlooks : m.perElement = false := by
      cases m <;> first | rfl | cases hm
    rw [hlooks, Bool.false_and]
    exact call_of_not_one hm h receiver
  | atMostOne =>
    cases receiver with
    | null =>
      have hitems : m.elements .null = .ok [] := rfl
      exact call_of_not_optional hm h hitems
    | array items =>
      have hbare : (Value.array items).isBare = items.isEmpty := by cases items <;> rfl
      rw [hbare]
      exact call_of_not_optional hm h rfl
    | boolean _ | float _ | integer _ | string _ | object _ =>
      simp only [Value.isBare, Bool.and_false]
      exact call_of_no_elements hm rfl

end Calls

end Method

namespace Expr

theorem length_prepare (es : List Expr) (method : String) (scope : Scope) :
    (prepare es method scope).length = es.length := by
  induction es with
  | nil => rfl
  | cons e es ih => rw [prepare, List.length_cons, ih, List.length_cons]

/-- A call with a wrong number of arguments fails whatever the receiver is, unless the method
looks at its arguments with each element and there is none. -/
theorem eval_call_of_wrong_arity {base : Expr} {scope : Scope} {receiver : Value}
    (hbase : base.eval scope = .ok receiver) {m : Method} {allowed : Arity}
    (hm : m.arity? = some allowed) {arguments : List Expr}
    (h : ¬ allowed.Admits arguments.length) :
    (Expr.call base m.name arguments).eval scope =
      if m.perElement && receiver.isBare then .ok m.ofNothing
      else .error (.type (m.misuse allowed receiver arguments.length)) := by
  rw [← length_prepare arguments m.name scope] at h ⊢
  rw [eval_call, hbase, Result.ok_bind]
  exact Method.call_of_wrong_arity hm h receiver

/-- Two functions are too many for `Last`, but of a text what fails is the text. -/
theorem eval_last_of_two_functions :
    let title := Expr.lambda ["c"] (.member (.name "c") "Title")
    let scope : Scope := [("p", .string "a")]
    (Expr.name "p").eval scope = .ok (.string "a") ∧
      Method.last.arity? = some .atMostOne ∧
      ¬ Arity.atMostOne.Admits [title, title].length ∧
      (Expr.call (.name "p") "Last" [title, title]).eval scope =
        .error (.type (.receiver "Last" "array" "string")) := by
  intro title scope
  have hbase : (Expr.name "p").eval scope = .ok (.string "a") := rfl
  have hlast : Method.last.arity? = some .atMostOne := rfl
  have hsize : ¬ Arity.atMostOne.Admits [title, title].length := Nat.not_succ_le_self 1
  exact ⟨hbase, hlast, hsize, eval_call_of_wrong_arity hbase hlast hsize⟩

/-- Two functions are too many for a total and for a count, but without elements only the count
says so. -/
theorem total_of_two_functions :
    let votes := Expr.lambda ["c"] (.member (.name "c") "Votes")
    let outcome (items : List Expr) (method : String) :=
      (Expr.call (.array items) method [votes, votes]).eval []
    outcome [] "Sum" = .ok (.integer 0) ∧
      outcome [.null] "Sum" = .error (.type (.arity "Sum" .atMostOne 2)) ∧
      outcome [] "Count" = .error (.type (.arity "Count" .atMostOne 2)) :=
  ⟨rfl, rfl, rfl⟩

end Expr

end Projections
