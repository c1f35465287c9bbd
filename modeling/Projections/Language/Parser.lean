import Projections.Language.Canonical

/-! Tokens as expressions. Each level of the grammar is a parser built from the
next tighter one; only a whole expression refers back to the loosest. A lambda
is recognized by looking ahead to its arrow. -/

namespace Projections

inductive ParseError where
  | lex (error : LexError)
  /-- `none` for a token is the end of the source -/
  | expected (description : String) (found : Option Token) (position : Nat)
  | unexpectedToken (found : Option Token) (position : Nat)
  | notALambda (found : String)
deriving DecidableEq

namespace ParseError

def reportFound : Option Token → String
  | some token => token.report
  | none => "Eof"

def message : ParseError → String
  | .lex error => error.message
  | .expected description found position =>
    "expected " ++ description ++ " at position " ++ toString position ++ ", got " ++
      reportFound found
  | .unexpectedToken found position =>
    "unexpected token " ++ reportFound found ++ " at position " ++ toString position
  | .notALambda found =>
    "expected a lambda expression such as `x => x.Field`, got `" ++ found ++ "`"

end ParseError

namespace Parser

/-- Why and before which tokens parsing stopped. -/
structure Failure where
  expected : Option String
  rest : List Token

end Parser

/-- Reads a value off the front of a token list. -/
abbrev Parser (α : Type) := List Token → Except Parser.Failure (α × List Token)

namespace Parser

/-! ### Failures and single tokens -/

def unexpected {α : Type} : Parser α := fun rest => .error ⟨none, rest⟩

def missing {α : Type} (description : String) : Parser α := fun rest =>
  .error ⟨some description, rest⟩

/-- The tokens after a given one. -/
def expect (token : Token) (description : String) (rest : List Token) :
    Except Failure (List Token) :=
  match rest with
  | found :: after => if found = token then .ok after else .error ⟨some description, rest⟩
  | [] => .error ⟨some description, rest⟩

/-! ### Lists -/

/-- Items up to the closing token, separated by commas; a comma may end the list. -/
def items {α : Type} (item : Parser α) (close : Token) (separator : String) :
    Nat → Parser (List α)
  | 0, rest => unexpected rest
  | turns + 1, rest =>
    if rest.head? = some close then .ok ([], rest.tail)
    else do
      let (x, rest) ← item rest
      if rest.head? = some close then .ok ([x], rest.tail)
      else
        let rest ← expect .comma separator rest
        let (xs, rest) ← items item close separator turns rest
        .ok (x :: xs, rest)

/-- A list whose opening token has been read. -/
def listOf {α : Type} (item : Parser α) (close : Token) (separator : String) : Parser (List α) :=
  fun rest => items item close separator (rest.length + 1) rest

/-! ### Lambda headers -/

/-- Parameter names up to the closing parenthesis; a comma may end the list. -/
def names? : List Token → Option (List String × List Token)
  | .closeParen :: rest => some ([], rest)
  | .identifier name :: .closeParen :: rest => some ([name], rest)
  | .identifier name :: .comma :: rest =>
    (names? rest).map fun (names, rest) => (name :: names, rest)
  | _ => none

/-- The parameters and what follows the arrow, where a lambda begins. -/
def header? : List Token → Option (List String × List Token)
  | .identifier name :: .arrow :: rest => some ([name], rest)
  | .openParen :: rest =>
    match names? rest with
    | some (names, .arrow :: rest) => some (names, rest)
    | _ => none
  | _ => none

/-! ### Levels, tightest first -/

section Levels

variable (expression : Parser Expr)

def entry : Parser (String × Expr)
  | .string key :: rest | .identifier key :: rest => do
    let rest ← expect .colon "':' after object key" rest
    let (value, rest) ← expression rest
    .ok ((key, value), rest)
  | rest => missing "string or identifier as object key" rest

def primary : Parser Expr
  | .float x :: rest => .ok (.float x, rest)
  | .integer n :: rest => .ok (.integer n, rest)
  | .string s :: rest => .ok (.string s, rest)
  | .boolean b :: rest => .ok (.boolean b, rest)
  | .null :: rest => .ok (.null, rest)
  | .identifier name :: rest => .ok (.name name, rest)
  | .openParen :: rest => do
    let (inner, rest) ← expression rest
    let rest ← expect .closeParen "')'" rest
    .ok (inner, rest)
  | .openBrace :: rest => do
    let (entries, rest) ←
      listOf (entry expression) .closeBrace "',' between object entries" rest
    .ok (.object entries, rest)
  | .openBracket :: rest => do
    let (elements, rest) ← listOf expression .closeBracket "',' between array elements" rest
    .ok (.array elements, rest)
  | rest => unexpected rest

/-- Members, calls and indexing after an expression. Each takes a token, so the
number of tokens bounds the turns. -/
def suffixes : Nat → Expr → Parser Expr
  | 0, base, rest => .ok (base, rest)
  | turns + 1, base, .dot :: rest =>
    match rest with
    | .identifier method :: .openParen :: rest => do
      let (arguments, rest) ← listOf expression .closeParen "',' between arguments" rest
      suffixes turns (.call base method arguments) rest
    | .identifier field :: rest => suffixes turns (.member base field) rest
    | rest => missing "member name after '.'" rest
  | turns + 1, base, .openBracket :: rest => do
    let (position, rest) ← expression rest
    let rest ← expect .closeBracket "']'" rest
    suffixes turns (.index base position) rest
  | _ + 1, base, rest => .ok (base, rest)

def suffixed : Parser Expr := fun tokens => do
  let (base, rest) ← primary expression tokens
  suffixes expression rest.length base rest

/-- A minus before a number is part of the number; before anything else it
subtracts from zero. -/
def unary : Parser Expr
  | .minus :: .integer n :: rest => .ok (.integer (-n), rest)
  | .minus :: .float x :: rest => .ok (.float x.neg, rest)
  | .minus :: rest => do
    let (operand, rest) ← unary rest
    .ok (.binary .subtract (.integer 0) operand, rest)
  | .bang :: rest => do
    let (operand, rest) ← unary rest
    .ok (.not operand, rest)
  | rest => suffixed expression rest

end Levels

/-- Operators of one level, each with its right operand, leaning left. Each takes
a token, so the number of tokens bounds the turns. -/
def extend (sign : Token → Option BinaryOp) (operand : Parser Expr) : Nat → Expr → Parser Expr
  | 0, left, rest => .ok (left, rest)
  | _ + 1, left, [] => .ok (left, [])
  | turns + 1, left, token :: rest =>
    match sign token with
    | none => .ok (left, token :: rest)
    | some op => do
      let (right, rest) ← operand rest
      extend sign operand turns (.binary op left right) rest

def chain (sign : Token → Option BinaryOp) (operand : Parser Expr) : Parser Expr := fun tokens => do
  let (left, rest) ← operand tokens
  extend sign operand rest.length left rest

/-- At most one operator of the level. -/
def once (sign : Token → Option BinaryOp) (operand : Parser Expr) : Parser Expr := fun tokens => do
  let (left, rest) ← operand tokens
  match rest with
  | [] => .ok (left, rest)
  | token :: after =>
    match sign token with
    | none => .ok (left, rest)
    | some op => do
      let (right, rest) ← operand after
      .ok (.binary op left right, rest)

def productSign : Token → Option BinaryOp
  | .star => some .multiply
  | .slash => some .divide
  | .percent => some .modulo
  | _ => none

def sumSign : Token → Option BinaryOp
  | .plus => some .add
  | .minus => some .subtract
  | _ => none

def comparisonSign : Token → Option BinaryOp
  | .equal => some .equal
  | .notEqual => some .notEqual
  | .less => some .less
  | .greater => some .greater
  | .lessEqual => some .lessEqual
  | .greaterEqual => some .greaterEqual
  | _ => none

def andSign : Token → Option BinaryOp
  | .and => some .and
  | _ => none

def orSign : Token → Option BinaryOp
  | .or => some .or
  | _ => none

def coalesceSign : Token → Option BinaryOp
  | .coalesce => some .coalesce
  | _ => none

section Levels

variable (expression : Parser Expr)

def product : Parser Expr := chain productSign (unary expression)

def sum : Parser Expr := chain sumSign (product expression)

def comparison : Parser Expr := once comparisonSign (sum expression)

def conjunction : Parser Expr := chain andSign (comparison expression)

def disjunction : Parser Expr := chain orSign (conjunction expression)

def coalescing : Parser Expr := chain coalesceSign (disjunction expression)

end Levels

/-- A whole expression. Whatever encloses another expression takes a token, so
the number of tokens bounds the depth; without tokens there is no expression. -/
def expression : Nat → Parser Expr
  | 0, tokens => unexpected tokens
  | depth + 1, tokens =>
    match header? tokens with
    | some (parameters, rest) => do
      let (body, rest) ← expression depth rest
      .ok (.lambda parameters body, rest)
    | none => coalescing (expression depth) tokens

end Parser

/-! ### Sources -/

namespace Lexed

/-- A failure with the token and the position it stands for. Past the last token
it is the end of the source, or the error there. -/
def locate (lexed : Lexed) (failure : Parser.Failure) : ParseError :=
  let blame (found : Option Token) (position : Nat) : ParseError :=
    match failure.expected with
    | some description => .expected description found position
    | none => .unexpectedToken found position
  match lexed.lexemes[lexed.lexemes.length - failure.rest.length]? with
  | some lexeme => blame (some lexeme.token) lexeme.stop
  | none =>
    match lexed.ending with
    | .finished position => blame none position
    | .failed error => .lex error

/-- The one expression that takes all tokens. -/
def parse (lexed : Lexed) : Except ParseError Expr :=
  match Parser.expression lexed.tokens.length lexed.tokens with
  | .error failure => .error (lexed.locate failure)
  | .ok (e, []) =>
    match lexed.ending with
    | .finished _ => .ok e
    | .failed error => .error (.lex error)
  | .ok (_, rest) => .error (lexed.locate ⟨none, rest⟩)

end Lexed

def parse (source : String) : Except ParseError Expr := (lex source).parse

/-- A source that must be a lambda. -/
def parseLambda (source : String) : Except ParseError Lambda :=
  match parse source with
  | .error e => .error e
  | .ok e =>
    match e.lambda? with
    | some f => .ok f
    | none => .error (.notALambda e.text)

end Projections
