import Projections.Language.Operator
import Projections.Number.Binary64

/-! Expressions of the projection language and the literals among them. -/

namespace Projections

inductive Expr where
  | float (value : Binary64)
  | integer (value : Int64)
  | string (text : String)
  | boolean (flag : Bool)
  | null
  /-- a parameter in scope, or a free name -/
  | name (identifier : String)
  | member (base : Expr) (field : String)
  | index (base position : Expr)
  | call (base : Expr) (method : String) (arguments : List Expr)
  | lambda (parameters : List String) (body : Expr)
  | not (operand : Expr)
  | binary (op : BinaryOp) (left right : Expr)
  | object (entries : List (String × Expr))
  | array (items : List Expr)

/-- A function literal. -/
structure Lambda where
  parameters : List String
  body : Expr

/-- A constant, the only thing an include operator takes as argument. -/
inductive Literal where
  | null
  | boolean (flag : Bool)
  | integer (value : Int64)
  | float (value : Binary64)
  | string (text : String)
deriving DecidableEq

namespace Literal

/-- Equality of constants: floats agree as numbers. -/
def agrees : Literal → Literal → Bool
  | .null, .null => true
  | .boolean a, .boolean b => a == b
  | .integer a, .integer b => a == b
  | .float a, .float b => a.agrees b
  | .string a, .string b => a == b
  | _, _ => false

def toExpr : Literal → Expr
  | .null => .null
  | .boolean b => .boolean b
  | .integer n => .integer n
  | .float x => .float x
  | .string s => .string s

end Literal

namespace Expr

def literal? : Expr → Option Literal
  | .null => some .null
  | .boolean b => some (.boolean b)
  | .integer n => some (.integer n)
  | .float x => some (.float x)
  | .string s => some (.string s)
  | _ => none

def lambda? : Expr → Option Lambda
  | .lambda parameters body => some ⟨parameters, body⟩
  | _ => none

/-- How strongly the outermost form binds, on the scale of operators; names,
calls and the like bind tightest. Negative numbers bind like negations. -/
def precedence : Expr → Nat
  | .lambda _ _ => 0
  | .binary op _ _ => op.precedence
  | .not _ => 7
  | .integer n => if n < 0 then 7 else 8
  | .float x => if x.negative then 7 else 8
  | _ => 8

/-! ### Equality

Floats agree as numbers, so an expression that holds a non-number agrees with
none. -/

mutual

def agrees : Expr → Expr → Bool
  | .float a, .float b => a.agrees b
  | .integer a, .integer b => a == b
  | .string a, .string b => a == b
  | .boolean a, .boolean b => a == b
  | .null, .null => true
  | .name a, .name b => a == b
  | .member a f, .member b g => a.agrees b && f == g
  | .index a i, .index b j => a.agrees b && i.agrees j
  | .call a m xs, .call b n ys => a.agrees b && m == n && agreeAll xs ys
  | .lambda ps a, .lambda qs b => ps == qs && a.agrees b
  | .not a, .not b => a.agrees b
  | .binary o a b, .binary p c d => o == p && a.agrees c && b.agrees d
  | .object xs, .object ys => agreeEntries xs ys
  | .array xs, .array ys => agreeAll xs ys
  | _, _ => false

def agreeAll : List Expr → List Expr → Bool
  | [], [] => true
  | x :: xs, y :: ys => x.agrees y && agreeAll xs ys
  | _, _ => false

def agreeEntries : List (String × Expr) → List (String × Expr) → Bool
  | [], [] => true
  | (k, x) :: xs, (l, y) :: ys => k == l && x.agrees y && agreeEntries xs ys
  | _, _ => false

end

end Expr

def Lambda.toExpr (f : Lambda) : Expr := .lambda f.parameters f.body

end Projections
