import Projections.Language.Expr
import Projections.Language.Lexer

/-! The canonical text of expressions: one space around operators, and brackets
only where the grammar needs them. -/

namespace Projections

/-- A text the lexer reads as one word. -/
def isWord (cs : List Char) : Bool :=
  match cs with
  | c :: rest => Lexer.startsName c && rest.all Lexer.continuesName
  | [] => false

def quoted (text : String) : String := String.ofList (Text.sourceQuoted text.toList)

def bracketed (needed : Bool) (text : String) : String :=
  if needed then "(" ++ text ++ ")" else text

def separated (texts : List String) : String := String.intercalate ", " texts

def Literal.text : Literal → String
  | .null => "null"
  | .boolean b => toString b
  | .integer n => toString n
  | .float x => x.sourceText
  | .string s => quoted s

namespace Expr

def keyText (key : String) : String := if isWord key.toList then key else quoted key

def lambdaText (parameters : List String) (body : String) : String :=
  match parameters with
  | [parameter] => parameter ++ " => " ++ body
  | parameters => "(" ++ separated parameters ++ ") => " ++ body

mutual

def text : Expr → String
  | .float x => x.sourceText
  | .integer n => toString n
  | .string s => quoted s
  | .boolean b => toString b
  | .null => "null"
  | .name n => n
  | .member base field =>
    bracketed (base.precedence < 8) base.text ++ "." ++ field
  | .index base position =>
    bracketed (base.precedence < 8) base.text ++ "[" ++ position.text ++ "]"
  | .call base method arguments =>
    bracketed (base.precedence < 8) base.text ++ "." ++ method ++
      "(" ++ separated (texts arguments) ++ ")"
  | .lambda parameters body => lambdaText parameters body.text
  | .not operand => "!" ++ bracketed (operand.precedence < 7) operand.text
  | .binary op left right =>
    bracketed (left.precedence < op.precedence) left.text ++ " " ++ op.symbol ++ " " ++
      bracketed (right.precedence < op.precedence + 1) right.text
  | .object entries =>
    if entries.isEmpty then "\x7b\x7d"
    else "\x7b " ++ separated (entryTexts entries) ++ " \x7d"
  | .array items => "[" ++ separated (texts items) ++ "]"

def texts : List Expr → List String
  | [] => []
  | e :: es => e.text :: texts es

def entryTexts : List (String × Expr) → List String
  | [] => []
  | (key, e) :: es => (keyText key ++ ": " ++ e.text) :: entryTexts es

end

end Expr

def Lambda.text (f : Lambda) : String := f.toExpr.text

end Projections
