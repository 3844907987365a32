import Stepwise.CommandLine.Argument
import Stepwise.Id
import Stepwise.Text.Number

/-!
# The command line

```text
[-c FILE | --config FILE] [--max-operations N] [--print-config] [-v...] [COMMAND]
COMMAND := validate EXPRESSION
         | decompose EXPRESSION [--calculation-id ID] [--verify] [--compact]
```

`Invocation.ofArguments` understands a command line, or says why not: it asks for help or for the
version, or it is misused. Options that take a value and switches may be given once.
-/

namespace Stepwise

/-- What is to be done with an expression. -/
inductive Command where
  | validate (expression : String)
  | decompose (expression : String) (calculation : Option Id) (verify compact : Bool)
deriving DecidableEq, Repr

/-- A command line that was understood. -/
structure Invocation where
  configPath : Option String
  maxOperations : Option Int
  printConfig : Bool
  verbosity : Nat
  command : Option Command
deriving DecidableEq, Repr

/-- Why a command line asks for nothing that can be carried out. -/
inductive Refusal where
  | misused
  | helpAsked
  | versionAsked
deriving DecidableEq, Repr

namespace Invocation

/-- The command line without arguments. -/
def empty : Invocation := ⟨none, none, false, 0, none⟩

/-- The options ahead of the command. -/
def options : List OptionSpec :=
  [⟨"config", some 'c', true⟩, ⟨"max-operations", none, true⟩, ⟨"print-config", none, false⟩,
    ⟨"verbose", some 'v', false⟩, ⟨"help", some 'h', false⟩, ⟨"version", some 'V', false⟩]

/-- The options of the command `validate`. -/
def validateOptions : List OptionSpec := [⟨"help", some 'h', false⟩]

/-- The options of the command `decompose`. -/
def decomposeOptions : List OptionSpec :=
  [⟨"calculation-id", none, true⟩, ⟨"verify", none, false⟩, ⟨"compact", none, false⟩,
    ⟨"help", some 'h', false⟩]

/-- What the arguments of a command have said so far. -/
structure CommandDraft where
  expression : Option String
  calculation : Option Id
  verify : Bool
  compact : Bool
deriving DecidableEq, Repr

/-- Adds what one argument of a command says. -/
def CommandDraft.add (draft : CommandDraft) : Argument → Except Refusal CommandDraft
  | .plain text =>
    if draft.expression.isSome then .error .misused
    else .ok { draft with expression := some text }
  | .option "calculation-id" value =>
    match draft.calculation, Id.ofText? value with
    | none, some id => .ok { draft with calculation := some id }
    | _, _ => .error .misused
  | .flag "verify" => if draft.verify then .error .misused else .ok { draft with verify := true }
  | .flag "compact" => if draft.compact then .error .misused else .ok { draft with compact := true }
  | .flag "help" => .error .helpAsked
  | _ => .error .misused

/-- Understands the arguments of a command; the expression has to be among them. -/
def commandOf (specs : List OptionSpec) (arguments : List String)
    (build : String → CommandDraft → Command) : Except Refusal Command := do
  let draft ← (Argument.scan specs false none arguments).foldlM CommandDraft.add
    ⟨none, none, false, false⟩
  match draft.expression with
  | some expression => return build expression draft
  | none => .error .misused

/-- The commands by name. -/
def commandNames : List String := ["validate", "decompose", "help"]

/-- Understands a command and its arguments. -/
def commandNamed (name : String) (arguments : List String) : Except Refusal Command :=
  match name with
  | "validate" => commandOf validateOptions arguments fun expression _ => .validate expression
  | "decompose" => commandOf decomposeOptions arguments fun expression draft =>
      .decompose expression draft.calculation draft.verify draft.compact
  | "help" =>
    match arguments with
    | [] => .error .helpAsked
    | [about] => if about ∈ commandNames then .error .helpAsked else .error .misused
    | _ => .error .misused
  | _ => .error .misused

/-- Adds what one argument says. -/
def add (invocation : Invocation) : Argument → Except Refusal Invocation
  | .option "config" path =>
    if invocation.configPath.isSome || path.isEmpty then .error .misused
    else .ok { invocation with configPath := some path }
  | .option "max-operations" text =>
    match invocation.maxOperations, Text.int64? text.toList with
    | none, some n => .ok { invocation with maxOperations := some n }
    | _, _ => .error .misused
  | .flag "print-config" =>
    if invocation.printConfig then .error .misused
    else .ok { invocation with printConfig := true }
  | .flag "verbose" => .ok { invocation with verbosity := invocation.verbosity + 1 }
  | .flag "help" => .error .helpAsked
  | .flag "version" => .error .versionAsked
  | .command name rest => do
    let command ← commandNamed name rest
    return { invocation with command := some command }
  | _ => .error .misused

/-- Understands a command line. -/
def ofArguments (arguments : List String) : Except Refusal Invocation :=
  (Argument.scan options true none arguments).foldlM add empty

end Invocation

end Stepwise
