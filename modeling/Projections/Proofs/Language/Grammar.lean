import Projections.Language.Expr
import Projections.Language.Token

/-! The grammar of expressions, as derivations of trees from token sequences. One
rule stands for each form of the language, and nothing is said about how a
derivation is found. Levels lean on the next tighter one; chains lean left. -/

namespace Projections.Grammar

/-! ### Levels -/

/-- Levels of the grammar, loosest first. -/
inductive Level where
  | expression
  | coalescing
  | disjunction
  | conjunction
  | comparison
  | sum
  | product
  | unary
  | suffixed
  | primary
deriving DecidableEq, Repr

namespace Level

def next? : Level → Option Level
  | .expression => some .coalescing
  | .coalescing => some .disjunction
  | .disjunction => some .conjunction
  | .conjunction => some .comparison
  | .comparison => some .sum
  | .sum => some .product
  | .product => some .unary
  | .unary => some .suffixed
  | .suffixed => some .primary
  | .primary => none

/-- How tightly a level binds, on the scale of operators. -/
def rank : Level → Nat
  | .expression => 0
  | .coalescing => 1
  | .disjunction => 2
  | .conjunction => 3
  | .comparison => 4
  | .sum => 5
  | .product => 6
  | .unary => 7
  | .suffixed => 8
  | .primary => 9

/-- The operators that any number of operands of a level are chained with. -/
def chained : Level → List (Token × BinaryOp)
  | .coalescing => [(.coalesce, .coalesce)]
  | .disjunction => [(.or, .or)]
  | .conjunction => [(.and, .and)]
  | .sum => [(.plus, .add), (.minus, .subtract)]
  | .product => [(.star, .multiply), (.slash, .divide), (.percent, .modulo)]
  | _ => []

theorem rank_next {level next : Level} (h : level.next? = some next) :
    next.rank = level.rank + 1 := by
  cases level <;> cases h <;> rfl

theorem rank_injective : Function.Injective rank := by
  intro a b h
  cases a <;> cases b <;> first | rfl | cases h

theorem next_ne_expression {level next : Level} (h : level.next? = some next) :
    next ≠ .expression := by
  intro he
  have := rank_next h
  simp [he, rank] at this

theorem exists_next_of_rank_lt (level : Level) (h : level.rank < 9) :
    ∃ next, level.next? = some next := by
  cases level <;> first | exact ⟨_, rfl⟩ | exact absurd h (by decide)

end Level

/-- Comparison operators, of which at most one joins two sums. -/
def comparisons : List (Token × BinaryOp) :=
  [(.equal, .equal), (.notEqual, .notEqual), (.less, .less), (.greater, .greater),
   (.lessEqual, .lessEqual), (.greaterEqual, .greaterEqual)]

/-! ### Rules -/

def Numeric (t : Token) : Prop := (∃ n, t = .integer n) ∨ ∃ x, t = .float x

/-- A token that names an entry of an object. -/
def IsKey (t : Token) (key : String) : Prop := t = .string key ∨ t = .identifier key

/-- Parameter names, separated by commas; a comma may end them. -/
inductive Names : List Token → List String → Prop
  | nil : Names [] []
  | last (name : String) : Names [.identifier name] [name]
  | cons (name : String) {ts : List Token} {names : List String} :
      Names ts names → Names (.identifier name :: .comma :: ts) (name :: names)

mutual

/-- `Derives level ts e`: the tokens `ts` are an expression of that level, with tree `e`. -/
inductive Derives : Level → List Token → Expr → Prop
  | tighter {level next : Level} {ts : List Token} {e : Expr} :
      level.next? = some next → Derives next ts e → Derives level ts e
  | arrow (name : String) {ts : List Token} {body : Expr} :
      Derives .expression ts body →
      Derives .expression (.identifier name :: .arrow :: ts) (.lambda [name] body)
  | header {ns ts : List Token} {names : List String} {body : Expr} :
      Names ns names → Derives .expression ts body →
      Derives .expression (.openParen :: (ns ++ .closeParen :: .arrow :: ts)) (.lambda names body)
  | chain {level next : Level} {sign : Token} {op : BinaryOp} {ls rs : List Token}
      {left right : Expr} :
      level.next? = some next → (sign, op) ∈ level.chained →
      Derives level ls left → Derives next rs right →
      Derives level (ls ++ sign :: rs) (.binary op left right)
  | comparison {sign : Token} {op : BinaryOp} {ls rs : List Token} {left right : Expr} :
      (sign, op) ∈ comparisons → Derives .sum ls left → Derives .sum rs right →
      Derives .comparison (ls ++ sign :: rs) (.binary op left right)
  /-- A minus and a number are one literal, which takes no suffix. -/
  | negativeInteger (n : Int64) : Derives .unary [.minus, .integer n] (.integer (-n))
  | negativeFloat (x : Binary64) : Derives .unary [.minus, .float x] (.float x.neg)
  | negation {ts : List Token} {operand : Expr} :
      (∀ t ∈ ts.head?, ¬ Numeric t) → Derives .unary ts operand →
      Derives .unary (.minus :: ts) (.binary .subtract (.integer 0) operand)
  | not {ts : List Token} {operand : Expr} :
      Derives .unary ts operand → Derives .unary (.bang :: ts) (.not operand)
  | member {ts : List Token} {base : Expr} (field : String) :
      Derives .suffixed ts base →
      Derives .suffixed (ts ++ [.dot, .identifier field]) (.member base field)
  | call {ts us : List Token} {base : Expr} {arguments : List Expr} (method : String) :
      Derives .suffixed ts base → Items us arguments →
      Derives .suffixed (ts ++ .dot :: .identifier method :: .openParen :: (us ++ [.closeParen]))
        (.call base method arguments)
  | index {ts us : List Token} {base position : Expr} :
      Derives .suffixed ts base → Derives .expression us position →
      Derives .suffixed (ts ++ .openBracket :: (us ++ [.closeBracket])) (.index base position)
  | float (x : Binary64) : Derives .primary [.float x] (.float x)
  | integer (n : Int64) : Derives .primary [.integer n] (.integer n)
  | string (s : String) : Derives .primary [.string s] (.string s)
  | boolean (b : Bool) : Derives .primary [.boolean b] (.boolean b)
  | null : Derives .primary [.null] .null
  | name (n : String) : Derives .primary [.identifier n] (.name n)
  | group {ts : List Token} {e : Expr} :
      Derives .expression ts e → Derives .primary (.openParen :: (ts ++ [.closeParen])) e
  | object {ts : List Token} {entries : List (String × Expr)} :
      Entries ts entries → Derives .primary (.openBrace :: (ts ++ [.closeBrace])) (.object entries)
  | array {ts : List Token} {items : List Expr} :
      Items ts items → Derives .primary (.openBracket :: (ts ++ [.closeBracket])) (.array items)

/-- Expressions, separated by commas; a comma may end them. -/
inductive Items : List Token → List Expr → Prop
  | nil : Items [] []
  | last {ts : List Token} {e : Expr} : Derives .expression ts e → Items ts [e]
  | cons {ts us : List Token} {e : Expr} {es : List Expr} :
      Derives .expression ts e → Items us es → Items (ts ++ .comma :: us) (e :: es)

/-- Entries of an object, separated by commas; a comma may end them. -/
inductive Entries : List Token → List (String × Expr) → Prop
  | nil : Entries [] []
  | last {t : Token} {key : String} {ts : List Token} {e : Expr} :
      IsKey t key → Derives .expression ts e → Entries (t :: .colon :: ts) [(key, e)]
  | cons {t : Token} {key : String} {ts us : List Token} {e : Expr}
      {es : List (String × Expr)} :
      IsKey t key → Derives .expression ts e → Entries us es →
      Entries (t :: .colon :: (ts ++ .comma :: us)) ((key, e) :: es)

end

/-! ### Looser levels -/

namespace Derives

/-- What a tighter level derives, a looser one derives. -/
theorem loosen {level tight : Level} {ts : List Token} {e : Expr} (h : Derives tight ts e)
    (hr : level.rank ≤ tight.rank) : Derives level ts e := by
  obtain ⟨steps, hs⟩ : ∃ steps, tight.rank = level.rank + steps :=
    ⟨tight.rank - level.rank, by omega⟩
  induction steps generalizing level with
  | zero =>
    have : tight = level := Level.rank_injective (by omega)
    rwa [← this]
  | succ steps ih =>
    have hle : tight.rank ≤ 9 := by cases tight <;> decide
    obtain ⟨next, hn⟩ := Level.exists_next_of_rank_lt level (by omega)
    have hnext := Level.rank_next hn
    exact .tighter hn (ih (by omega) (by omega))

end Derives

end Projections.Grammar
