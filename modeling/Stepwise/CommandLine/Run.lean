import Stepwise.Client
import Stepwise.CommandLine
import Stepwise.Interchange
import Stepwise.Json.Writer
import Stepwise.OperationOrder
import Stepwise.Settings.Load

/-!
# Running a command line

The settings are loaded and overridden first, then printed if that is asked for; only then is the
configuration of the module read, and only then does it matter which command is given.
-/

namespace Stepwise

/-- What a command line works on: the environment, the files, and a supply of identifiers. -/
structure World where
  environment : List (String × String)
  file? : String → Option String
  supply : Supply

/-- What a command line comes to. -/
inductive Outcome where
  | refused (refusal : Refusal)
  | failed (message : String)
  /-- The program ends where it stands. -/
  | aborted
  | printed (text : String)
  | settings (shown : Settings)

namespace Outcome

/-- The exit code of a program that ends so. -/
def exitCode : Outcome → Nat
  | refused .misused => 2
  | refused _ => 0
  | failed _ => 1
  | aborted => 101
  | printed _ => 0
  | Outcome.settings _ => 0

/-- What a program that ends so writes to its standard output, help and version apart. -/
def output : Outcome → String
  | printed text => text ++ "\n"
  | Outcome.settings shown => shown.toJson.pretty ++ "\n"
  | _ => ""

/-- What a program that ends so reports as its error. -/
def message? : Outcome → Option String
  | failed message => some message
  | _ => none

end Outcome

namespace Command

/-- The text of a decomposition. -/
def rendered (compact : Bool) (decomposition : Decomposition) : String :=
  if compact then decomposition.toJson.compact else decomposition.toJson.pretty

/-- The decomposition with all operations bound, if there is a calculation. -/
def bound (calculation : Option Id) (decomposition : Decomposition) : Decomposition :=
  match calculation with
  | some calculation => decomposition.bind calculation
  | none => decomposition

/-- The error of operations that cannot be executed from front to back. -/
def disordered : String := "emitted operations are not topologically ordered"

/-- Carries out a command. -/
def run (limit : Limit) (supply : Supply) : Command → Outcome
  | validate expression =>
    match Client.validate expression with
    | .ok () => .printed "valid"
    | .error e => .failed e.message
  | decompose expression calculation verify compact =>
    match Client.decompose limit supply expression with
    | .error e => .failed e.message
    | .ok decomposition =>
      let decomposition := bound calculation decomposition
      if verify then
        match checkOrder decomposition.operations with
        | .ok () => .printed (rendered compact decomposition)
        | .error _ => .failed disordered
      else .printed (rendered compact decomposition)

end Command

namespace Invocation

/-- The settings with the limit of the command line, if it gives one. -/
def overridden (maxOperations : Option Int) (settings : Settings) : Settings :=
  match maxOperations with
  | some n => settings.override n
  | none => settings

/-- Carries out a command line with the given settings. -/
def runWith (invocation : Invocation) (supply : Supply) (settings : Settings) : Outcome :=
  if invocation.printConfig then .settings settings
  else
    match settings.limit with
    | .error e => .failed e.message
    | .ok limit =>
      match invocation.command with
      | none => .failed "no command given, see --help"
      | some command => command.run limit supply

/-- What a command line comes to when its settings cannot be loaded. -/
def unloaded : Settings.LoadError → Outcome
  | .missingFile path => .failed s!"config file does not exist: {path}"
  | .unreadable => .failed "failed to load configuration"
  | .brokenVariable => .aborted

/-- Carries out a command line. -/
def run (invocation : Invocation) (world : World) : Outcome :=
  match Settings.load world.file? world.environment invocation.configPath with
  | .error e => unloaded e
  | .ok settings =>
    invocation.runWith world.supply (overridden invocation.maxOperations settings)

end Invocation

/-- Understands and carries out a command line. -/
def runCommandLine (world : World) (arguments : List String) : Outcome :=
  match Invocation.ofArguments arguments with
  | .error refusal => .refused refusal
  | .ok invocation => invocation.run world

end Stepwise
