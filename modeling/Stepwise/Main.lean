import Stepwise.CommandLine.Run

/-!
# The program

The outer layer: it gathers the arguments, the environment and the settings file, draws random
bits for identifiers, and passes on what `runCommandLine` comes to.
-/

namespace Stepwise

/-- What `--help` prints. -/
def usage : String :=
  "\n".intercalate
    ["Compiles arithmetic expressions into dependency-ordered operations", "",
      "Usage: calculation-cli [OPTIONS] [COMMAND]", "",
      "Commands:",
      "  validate   Check that an expression is well-formed",
      "  decompose  Decompose an expression and print the operations as JSON", "",
      "Options:",
      "  -c, --config <CONFIG>",
      "      --max-operations <MAX_OPERATIONS>",
      "      --print-config",
      "  -v, --verbose...",
      "  -h, --help",
      "  -V, --version"]

/-- What `--version` prints. -/
def versionLine : String := "calculation-cli 0.1.0"

/-- The character at the start of bytes in UTF-8, if they start with one. -/
def charAt? (bytes : List UInt8) : Option Char :=
  (bytes.take 4).toByteArray.utf8DecodeChar? 0

/-- The number of bytes that are lost together where no character starts: one, or as many as could
be the start of a character. -/
def brokenLength (bytes : List UInt8) : Nat :=
  let starts (count missing : Nat) :=
    (charAt? (bytes.take count ++ List.replicate missing 0x80)).isSome
  if starts 3 1 then 3 else if starts 2 1 || starts 2 2 then 2 else 1

/-- The text of bytes in UTF-8, with `broken` for those that are none. -/
def decoded (broken : Char) : List UInt8 → List Char
  | [] => []
  | byte :: rest =>
    match charAt? (byte :: rest) with
    | some c => c :: decoded broken (rest.drop (c.utf8Size - 1))
    | none => broken :: decoded broken (rest.drop (brokenLength (byte :: rest) - 1))
termination_by bytes => bytes.length
decreasing_by
  all_goals
    simp only [List.length_drop, List.length_cons]
    omega

/-- The variables in the form in which the system keeps them: a name, an equals sign and a value,
each variable followed by a zero byte. -/
def variablesOf (block : String) : List (String × String) :=
  (block.splitOn "\x00").filterMap fun entry =>
    match entry.splitOn "=" with
    | name :: value => if name.isEmpty then none else some (name, "=".intercalate value)
    | [] => none

/-- The variables of the process in its own order. Bytes that are no text become replacement
characters, so that a variable that has some leaves the others alone. -/
def processVariables : IO (List (String × String)) := do
  try
    let block ← IO.FS.readBinFile "/proc/self/environ"
    return variablesOf (String.ofList (decoded '\ufffd' block.toList))
  catch _ => return []

/-- The content of a file, if there is one. Bytes that are no text become a character that occurs
in no settings, and so does all of a file that may not be read. -/
def fileContent? (path : String) : IO (Option String) := do
  try
    return some (String.ofList (decoded '\uffff' (← IO.FS.readBinFile path).toList))
  catch
    | .permissionDenied .. => return some "\uffff"
    | _ => return none

/-- A random identifier of version 4. -/
def randomId : IO Id := do
  let bytes ← IO.getRandomBytes 16
  let random := bytes.toList.foldl (fun value byte => value * 256 + byte.toNat) 0
  return ⟨BitVec.ofNat 128 random &&& 0xFFFFFFFFFFFF0FFF3FFFFFFFFFFFFFFF |||
    0x40008000000000000000⟩

/-- The world of a command line, with the one file that it names. -/
def gather (arguments : List String) : IO World := do
  let path := match Invocation.ofArguments arguments with
    | .ok invocation => invocation.configPath
    | .error _ => none
  let content ← match path with
    | some path => fileContent? path
    | none => pure none
  return ⟨← processVariables, fun asked => if some asked = path then content else none,
    .counting (← randomId)⟩

end Stepwise

open Stepwise in
/-- Runs a command line. Errors go to the standard error output. -/
def main (arguments : List String) : IO UInt32 := do
  let outcome := runCommandLine (← gather arguments) arguments
  match outcome with
  | .refused .helpAsked => IO.println usage
  | .refused .versionAsked => IO.println versionLine
  | .refused .misused => IO.eprintln usage
  | .failed message => IO.eprintln s!"Error: {message}"
  | _ => IO.print outcome.output
  return .ofNat outcome.exitCode
