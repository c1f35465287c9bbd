import Projections.Command.Basic

/-! Command lines. A command has switches, each spelled by a name after two dashes and
some by a letter after one, and operands. A value stands behind an equals sign, behind
its letter, or in the next word, unless that begins with a dash. -/

namespace Projections

namespace Command

inductive Name where
  | resolve
  | render
  | run
deriving DecidableEq, Repr

inductive Switch where
  | logLevel
  | item
  | argument
  | includes
  | select
  | config
  | camelCase
  | values
  | rows
  | pretty
deriving DecidableEq, Repr

def Name.ofText? : String → Option Name
  | "resolve" => some .resolve
  | "render" => some .render
  | "run" => some .run
  | _ => none

namespace Switch

def long : Switch → String
  | .logLevel => "log-level"
  | .item => "item"
  | .argument => "arg"
  | .includes => "include"
  | .select => "select"
  | .config => "config"
  | .camelCase => "camel-case"
  | .values => "variables"
  | .rows => "rows"
  | .pretty => "pretty"

def short? : Switch → Option Char
  | .argument => some 'a'
  | .includes => some 'i'
  | .select => some 's'
  | .config => some 'c'
  | .rows => some 'r'
  | .pretty => some 'p'
  | _ => none

def takesValue : Switch → Bool
  | .item | .camelCase | .values | .pretty => false
  | _ => true

def repeats : Switch → Bool
  | .argument | .includes => true
  | _ => false

/-- Every command has these. -/
def common : List Switch := [logLevel]

def ofQuery : List Switch := [item, argument, includes, select, config, camelCase]

end Switch

def Name.switches : Name → List Switch
  | .resolve => Switch.common
  | .render => Switch.common ++ Switch.ofQuery ++ [.values]
  | .run => Switch.common ++ Switch.ofQuery ++ [.rows, .pretty]

/-! ### Words -/

/-- A switch with its value, which is empty if it takes none. -/
abbrev Given := Switch × String

/-- How a word reads. The last of several switches may wait for its value. -/
inductive Word where
  | operand
  /-- two dashes, after which all words are operands -/
  | dashes
  | switches (given : List Given) (waiting : Option Switch)

/-- Letters in one word. The first that takes a value takes the rest of the word. -/
def letters? (known : List Switch) : List Char → Option (List Given × Option Switch)
  | [] => some ([], none)
  | c :: cs => do
    let switch ← known.find? (·.short? == some c)
    if switch.takesValue then
      match cs with
      | [] => some ([], some switch)
      | '=' :: value => some ([(switch, String.ofList value)], none)
      | value => some ([(switch, String.ofList value)], none)
    else
      let (given, waiting) ← letters? known cs
      some ((switch, "") :: given, waiting)

def name? (known : List Switch) (cs : List Char) : Option (List Given × Option Switch) := do
  let (name, rest) := cs.span (· ≠ '=')
  let switch ← known.find? (·.long.toList == name)
  match rest, switch.takesValue with
  | [], true => some ([], some switch)
  | [], false => some ([(switch, "")], none)
  | _ :: value, true => some ([(switch, String.ofList value)], none)
  | _ :: _, false => none

/-- A dash alone is an operand. -/
def word? (known : List Switch) (text : String) : Option Word :=
  match text.toList with
  | ['-', '-'] => some .dashes
  | '-' :: '-' :: cs => (name? known cs).map fun (given, waiting) => .switches given waiting
  | '-' :: c :: cs => (letters? known (c :: cs)).map fun (given, waiting) => .switches given waiting
  | _ => some .operand

/-- The value of a switch may be any word that reads as an operand. -/
def isValue (text : String) : Bool :=
  match text.toList with
  | '-' :: _ :: _ => false
  | _ => true

/-! ### Lines -/

structure Line where
  given : List Given
  operands : List String

namespace Line

def withGiven (given : List Given) (line : Line) : Line :=
  { line with given := given ++ line.given }

def withOperand (text : String) (line : Line) : Line :=
  { line with operands := text :: line.operands }

/-- Reads words, while a switch may be waiting for its value. -/
def read? (known : List Switch) : (waiting : Option Switch) → List String → Option Line
  | none, [] => some ⟨[], []⟩
  | some _, [] => none
  | some switch, text :: rest =>
    if isValue text then (read? known none rest).map (withGiven [(switch, text)]) else none
  | none, text :: rest =>
    match word? known text with
    | none => none
    | some .operand => (read? known none rest).map (withOperand text)
    | some .dashes => some ⟨[], rest⟩
    | some (.switches given waiting) => (read? known waiting rest).map (withGiven given)

/-- Reads the switches in front of a command: they, and the words from the command on. -/
def front? (known : List Switch) : (waiting : Option Switch) → List String →
    Option (List Given × List String)
  | _, [] => none
  | some switch, text :: rest => do
    if isValue text then
      let (given, words) ← front? known none rest
      some ((switch, text) :: given, words)
    else none
  | none, text :: rest => do
    match ← word? known text with
    | .operand => some ([], text :: rest)
    | .dashes => none
    | .switches given waiting =>
      let (others, words) ← front? known waiting rest
      some (given ++ others, words)

/-- Only some switches may be given more than once. -/
def distinct (given : List Given) : Bool := ((given.map (·.1)).filter (!·.repeats)).Nodup

def values (line : Line) (switch : Switch) : List String :=
  (line.given.filter (·.1 = switch)).map (·.2)

def value? (line : Line) (switch : Switch) : Option String := (line.values switch).head?

def has (line : Line) (switch : Switch) : Bool := (line.value? switch).isSome

end Line

/-- Where the configuration comes from. A file has a name. -/
structure ConfigChoice where
  file : Option String
  camelCase : Bool

/-- What a command line asks for. -/
inductive Invocation where
  | resolve (expression : String)
  | render (query : QueryText) (config : ConfigChoice) (values : Bool)
  | run (query : QueryText) (config : ConfigChoice) (rows : Option String) (pretty : Bool)

namespace Line

def query (line : Line) (name : String) : QueryText where
  name := name
  item := line.has .item
  arguments := line.values .argument
  includes := line.values .includes
  select := line.value? .select

def configChoice (line : Line) : ConfigChoice := ⟨line.value? .config, line.has .camelCase⟩

/-- Every command takes one operand. -/
def invocation? (line : Line) (name : Name) : Option Invocation :=
  match line.operands, name with
  | [operand], .resolve => some (.resolve operand)
  | [operand], .render =>
    some (.render (line.query operand) line.configChoice (line.has .values))
  | [operand], .run =>
    some (.run (line.query operand) line.configChoice (line.value? .rows) (line.has .pretty))
  | _, _ => none

end Line

/-- What the words of a command line ask for, if they are well formed. -/
def Invocation.read? (words : List String) : Option Invocation := do
  match ← Line.front? Switch.common none words with
  | (_, []) => none
  | (front, command :: words) =>
    let name ← Name.ofText? command
    let line ← Line.read? name.switches none words
    if Line.distinct front && Line.distinct line.given && line.value? .config != some "" then
      line.invocation? name
    else none

end Command

end Projections
