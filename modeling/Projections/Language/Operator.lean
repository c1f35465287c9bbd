/-! Binary operators and how strongly they bind. -/

namespace Projections

inductive BinaryOp where
  | equal
  | notEqual
  | less
  | greater
  | lessEqual
  | greaterEqual
  /-- addition and concatenation -/
  | add
  | subtract
  | multiply
  | divide
  | modulo
  | and
  | or
  /-- the right operand in place of a null left one -/
  | coalesce
deriving DecidableEq, Repr

namespace BinaryOp

/-- Higher binds tighter. -/
def precedence : BinaryOp → Nat
  | .coalesce => 1
  | .or => 2
  | .and => 3
  | .equal | .notEqual | .less | .greater | .lessEqual | .greaterEqual => 4
  | .add | .subtract => 5
  | .multiply | .divide | .modulo => 6

def symbol : BinaryOp → String
  | .equal => "=="
  | .notEqual => "!="
  | .less => "<"
  | .greater => ">"
  | .lessEqual => "<="
  | .greaterEqual => ">="
  | .add => "+"
  | .subtract => "-"
  | .multiply => "*"
  | .divide => "/"
  | .modulo => "%"
  | .and => "&&"
  | .or => "||"
  | .coalesce => "??"

def all : List BinaryOp :=
  [.equal, .notEqual, .less, .greater, .lessEqual, .greaterEqual, .add, .subtract, .multiply,
   .divide, .modulo, .and, .or, .coalesce]

def ofSymbol? (symbol : String) : Option BinaryOp := all.find? (·.symbol == symbol)

end BinaryOp

end Projections
