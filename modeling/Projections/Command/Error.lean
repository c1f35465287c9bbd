import Projections.Query.Basic

/-! What makes a command fail. -/

namespace Projections

/-- Why a text could not be read from outside. -/
inductive ReadError where
  | missing
  | denied
  | directory
  | encoding
  | other (reason : String)
deriving DecidableEq, Repr

def ReadError.message : ReadError → String
  | .missing => "No such file or directory (os error 2)"
  | .denied => "Permission denied (os error 13)"
  | .directory => "Is a directory (os error 21)"
  | .encoding => "stream did not contain valid UTF-8"
  | .other reason => reason

inductive CommandError where
  | query (cause : QueryError)
  | parse (cause : ParseError)
  | resolve (cause : ResolveError)
  /-- text that is no JSON; what is wrong with it, in the words of the JSON library, is not kept,
  and the message says no more than this -/
  | json
  | io (cause : ReadError)
  | invalidArgument (given : String)
  | noInput

def CommandError.message : CommandError → String
  | .query cause => cause.message
  | .parse cause => "parse error: " ++ cause.message
  | .resolve cause => "invalid include expression: " ++ cause.message
  | .json => "invalid JSON"
  | .io cause => "IO error: " ++ cause.message
  | .invalidArgument given => "invalid argument `" ++ given ++ "`; expected NAME=VALUE"
  | .noInput => "no rows provided. Use --rows or pipe JSON to stdin."

end Projections
