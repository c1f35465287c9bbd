import Projections.Include.Path
import Projections.Include.Registry
import Projections.Selector.Basic

/-! Resolution of include expressions. A chain starts at the parameter and goes on
by members, by operators with literal arguments, and by projections to elements;
nothing is evaluated. -/

namespace Projections

inductive ResolveError where
  | unsupported (expression : Expr)
  | unresolvedRoot
  | nonLiteralArgument (operator parameter : String) (argument : Expr)
  | argumentCount (operator : String) (expected found : Nat)
  | notALambda
  | parameterCount (count : Nat)

def ResolveError.message : ResolveError → String
  | .unsupported e =>
    "`" ++ e.text ++ "` is not a field access, projection, or registered include operator"
  | .unresolvedRoot => "the expression never reaches a field"
  | .nonLiteralArgument operator parameter e =>
    "argument `" ++ parameter ++ "` of `" ++ operator ++ "` must be a literal, got `" ++
      e.text ++ "`"
  | .argumentCount operator expected found =>
    "`" ++ operator ++ "` takes " ++ toString expected ++ " argument(s), got " ++ toString found
  | .notALambda => "expected a lambda expression"
  | .parameterCount count =>
    "expected a lambda with exactly one parameter, got " ++ toString count

namespace Operator

/-- Binds arguments to parameters, first to last; each has to be a literal. -/
def bindArguments (operator : Operator) :
    List (String × Expr) → Except ResolveError (List (String × Literal))
  | [] => .ok []
  | (parameter, e) :: rest =>
    match e.literal? with
    | some literal => do return (parameter, literal) :: (← operator.bindArguments rest)
    | none => .error (.nonLiteralArgument operator.name parameter e)

/-- The application of an operator to as many literals as it has parameters. Of two
parameters of one name the last counts. -/
def applyTo (operator : Operator) (arguments : List Expr) : Except ResolveError Application := do
  if arguments.length = operator.parameters.length then
    let bound ← operator.bindArguments (operator.parameters.zip arguments)
    return ⟨operator.name, Fields.ofList bound⟩
  else throw (.argumentCount operator.name operator.parameters.length arguments.length)

end Operator

/-- A path continued by the path of a projection. -/
def projected (source element : Except ResolveError Path) : Except ResolveError Path := do
  let path ← source
  let element ← element
  match path.join? element with
  | some path => return path
  | none => throw .unresolvedRoot

namespace Registry

/-- A path continued by a call of an operator. -/
def called (registry : Registry) (base : Expr) (method : String) (arguments : List Expr)
    (source : Except ResolveError Path) : Except ResolveError Path :=
  match registry.get? method with
  | none => .error (.unsupported (.call base method arguments))
  | some operator => do
    let path ← source
    return path.apply (← operator.applyTo arguments)

/-- The path of a chain that starts at a parameter. -/
def resolveFrom (registry : Registry) : (parameter : String) → Expr → Except ResolveError Path
  | parameter, .name n => if n = parameter then .ok .root else .error (.unsupported (.name n))
  | parameter, .member base field => do return (← resolveFrom registry parameter base).member field
  | parameter, .call base method arguments =>
    let source := resolveFrom registry parameter base
    match arguments with
    | [.lambda parameters body] =>
      if method = projectionName then
        projected source (match parameters with
          | [inner] => resolveFrom registry inner body
          | parameters => .error (.parameterCount parameters.length))
      else registry.called base method arguments source
    | arguments => registry.called base method arguments source
  | _, other => .error (.unsupported other)

/-- The path of a function's body; the bare parameter has the empty path. -/
def resolve (registry : Registry) (f : Lambda) : Except ResolveError Path :=
  match f.selector? with
  | some s => registry.resolveFrom s.parameter s.body
  | none => .error (.parameterCount f.parameters.length)

/-- The path of an include, which has to lead somewhere. -/
def resolveInclude (registry : Registry) (e : Expr) : Except ResolveError Path :=
  match e.lambda? with
  | none => .error .notALambda
  | some f => do
    let path ← registry.resolve f
    if path.text.isNone then throw .unresolvedRoot else return path

end Registry

end Projections
