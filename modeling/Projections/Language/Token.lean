import Projections.Number.Text
import Projections.Text.Quoted

/-! Tokens of the projection language. The words `and` and `or` are the same
tokens as `&&` and `||`. -/

namespace Projections

inductive Token where
  | float (value : Binary64)
  | integer (value : Int64)
  | string (text : String)
  | boolean (flag : Bool)
  | null
  | identifier (name : String)
  /-- `=>` between parameters and body -/
  | arrow
  | equal
  | notEqual
  | less
  | greater
  | lessEqual
  | greaterEqual
  | plus
  | minus
  | star
  | slash
  | percent
  | and
  | or
  | bang
  | coalesce
  | openBracket
  | closeBracket
  | openParen
  | closeParen
  | openBrace
  | closeBrace
  | dot
  | comma
  | colon
deriving DecidableEq

namespace Token

/-- The name of the kind of a token, as messages give it. -/
def kind : Token → String
  | .float _ => "Float"
  | .integer _ => "Integer"
  | .string _ => "String"
  | .boolean _ => "Boolean"
  | .null => "Null"
  | .identifier _ => "Identifier"
  | .arrow => "Arrow"
  | .equal => "EqEq"
  | .notEqual => "NotEq"
  | .less => "Lt"
  | .greater => "Gt"
  | .lessEqual => "LtEq"
  | .greaterEqual => "GtEq"
  | .plus => "Plus"
  | .minus => "Minus"
  | .star => "Star"
  | .slash => "Slash"
  | .percent => "Percent"
  | .and => "And"
  | .or => "Or"
  | .bang => "Bang"
  | .coalesce => "QuestionQuestion"
  | .openBracket => "LBracket"
  | .closeBracket => "RBracket"
  | .openParen => "LParen"
  | .closeParen => "RParen"
  | .openBrace => "LBrace"
  | .closeBrace => "RBrace"
  | .dot => "Dot"
  | .comma => "Comma"
  | .colon => "Colon"

/-- What a token carries, as messages give it. -/
def payload? : Token → Option String
  | .float x => some (x.text .concise)
  | .integer n => some (toString n)
  | .string s | .identifier s => some (String.ofList (Text.reportQuoted s.toList))
  | .boolean b => some (toString b)
  | _ => none

def report (token : Token) : String :=
  match token.payload? with
  | some text => token.kind ++ "(" ++ text ++ ")"
  | none => token.kind

end Token

/-- A token and the position after it, in characters. -/
structure Lexeme where
  token : Token
  stop : Nat
deriving DecidableEq

end Projections
