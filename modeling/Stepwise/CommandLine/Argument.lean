/-!
# Arguments

`Argument.scan` turns the arguments of a command line into a list of what they say, given the
options that exist. An argument that starts with a hyphen is never the value of an option, except
for the lone hyphen; after `--` everything is plain. What cannot be understood ends the list.
-/

namespace Stepwise

/-- An option: its long name, its letter, and whether it takes a value. -/
structure OptionSpec where
  name : String
  letter : Option Char
  takesValue : Bool
deriving DecidableEq, Repr

/-- What an argument says. -/
inductive Argument where
  | flag (name : String)
  | option (name value : String)
  | plain (text : String)
  /-- The name of a command, and the arguments that belong to it. -/
  | command (name : String) (rest : List String)
  /-- No option has the name, a value is missing, or there is one too many. -/
  | unknown
deriving DecidableEq, Repr

namespace Argument

/-- How an argument looks. -/
inductive Shape where
  | escape
  | long (name : String) (value : Option String)
  | letters (cs : List Char)
  | plain
deriving DecidableEq, Repr

/-- Splits a long option at the first equals sign. -/
def splitValue (cs : List Char) : String × Option String :=
  match cs.dropWhile (· != '=') with
  | _ :: value => (String.ofList (cs.takeWhile (· != '=')), some (String.ofList value))
  | [] => (String.ofList cs, none)

/-- The shape of an argument. -/
def shape (argument : String) : Shape :=
  match argument.toList with
  | ['-', '-'] => .escape
  | '-' :: '-' :: rest =>
    match splitValue rest with
    | (name, value) => .long name value
  | '-' :: c :: rest => .letters (c :: rest)
  | _ => .plain

/-- What a row of letters says, and the option that still needs a value. A letter whose option
takes one takes the rest of the row, where an equals sign may stand in between. -/
def ofLetters (specs : List OptionSpec) : List Char → List Argument × Option String
  | [] => ([], none)
  | c :: rest =>
    match specs.find? fun spec => spec.letter == some c with
    | none => ([unknown], none)
    | some spec =>
      if spec.takesValue then
        match rest with
        | [] => ([], some spec.name)
        | '=' :: value => ([option spec.name (String.ofList value)], none)
        | value => ([option spec.name (String.ofList value)], none)
      else
        let (later, pending) := ofLetters specs rest
        (flag spec.name :: later, pending)

/-- What arguments say. `pending` is an option that still needs a value. With `commands`, the first
plain argument names a command, to which all arguments after it belong. -/
def scan (specs : List OptionSpec) (commands : Bool) :
    (pending : Option String) → List String → List Argument
  | none, [] => []
  | some _, [] => [unknown]
  | some name, argument :: rest =>
    match shape argument with
    | .plain => option name argument :: scan specs commands none rest
    | _ => [unknown]
  | none, argument :: rest =>
    match shape argument with
    | .escape => if commands then (if rest.isEmpty then [] else [unknown]) else rest.map plain
    | .long name value =>
      match specs.find? fun spec => spec.name == name with
      | none => [unknown]
      | some spec =>
        if spec.takesValue then
          match value with
          | some value => option name value :: scan specs commands none rest
          | none => scan specs commands (some name) rest
        else if value.isSome then [unknown]
        else flag name :: scan specs commands none rest
    | .letters cs =>
      let (said, pending) := ofLetters specs cs
      said ++ scan specs commands pending rest
    | .plain =>
      if commands then [command argument rest]
      else plain argument :: scan specs commands none rest

end Argument

end Stepwise
