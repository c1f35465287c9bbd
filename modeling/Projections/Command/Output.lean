import Projections.Command.Line
import Projections.Json.Text

/-! What an invocation prints, given the texts it reads from outside. -/

namespace Projections.Command

/-- Texts from outside: the configuration file, if one is named, and the standard input,
unless that is a terminal. -/
structure Surroundings where
  file : Option (Except ReadError String)
  input : Option (Except ReadError String)

def readText (text : Except ReadError String) : Except CommandError String :=
  match text with
  | .ok text => .ok text
  | .error cause => .error (.io cause)

/-- The configuration of a choice. Camel case may be asked for over what the file says. -/
def ConfigChoice.load (choice : ConfigChoice) (file : Option (Except ReadError String)) :
    Except CommandError Config := do
  let config ← match file with
    | none => pure Config.default
    | some text =>
      match Config.read? (← readText text) with
      | some config => pure config
      | none => throw .json
  return if choice.camelCase then config.set (.naming .camelCase) else config

namespace Invocation

/-- The name of the configuration file. -/
def file? : Invocation → Option String
  | .resolve _ => none
  | .render _ choice _ => choice.file
  | .run _ choice _ _ => choice.file

/-- Rows that are not given come from the standard input. -/
def wantsInput : Invocation → Bool
  | .run _ _ none _ => true
  | _ => false

def rows (given : Option String) (input : Option (Except ReadError String)) :
    Except CommandError (Option String) :=
  match given, input with
  | some rows, _ => .ok (some rows)
  | none, none => .ok none
  | none, some text => do return some (← readText text)

def output (surroundings : Surroundings) : Invocation → Except CommandError String
  | .resolve expression => do return (← Command.resolve expression).toJson.pretty 0 ++ "\n"
  | .render query choice values => do
    let config ← choice.load surroundings.file
    let document ← Command.render config query
    return document.text ++
      if values then (Json.object document.values).pretty 0 ++ "\n" else ""
  | .run query choice given pretty => do
    let rows ← rows given surroundings.input
    let config ← choice.load surroundings.file
    let result ← Command.run config query rows
    return (if pretty then result.pretty 0 else result.text) ++ "\n"

end Invocation

end Projections.Command
