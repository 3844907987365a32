import Stepwise.Json.Decode
import Stepwise.Limit

/-!
# Settings

The host's settings hold the level of its log and one section for each module, kept as a document
of any shape. The limit on operations stands in the section of the module `calculation`, under
`config`. A section that is no object, or has nothing under `config`, leaves the default in force;
one that has something else there is an error.
-/

namespace Stepwise

/-- The settings of a host: the level of its log, and the sections of its modules by name. -/
structure Settings where
  level : String
  modules : List (String × Json)
deriving Repr

namespace Settings

/-- The settings that hold where nothing is configured. -/
def standard : Settings := ⟨"warn", []⟩

instance : Inhabited Settings := ⟨standard⟩

/-- The document of settings. -/
def toJson (settings : Settings) : Json :=
  .object [("logging", .object [("level", .string settings.level)]),
    ("modules", .object settings.modules)]

/-- Reads the settings of the log. What is missing takes its default. -/
def levelOfJson : Decode.Decoder String
  | .object members => do
    let level ← Decode.member? members "level" Decode.string
    return level.getD standard.level
  | .array items => do
    let level ← Decode.item? items 0 Decode.string
    Decode.noMore items 1
    return level.getD standard.level
  | found => .error (.wrongType found "struct LoggingConfig")

/-- Reads settings. What is missing takes its default. -/
def ofJson : Decode.Decoder Settings
  | .object members => do
    let level ← Decode.member? members "logging" levelOfJson
    let modules ← Decode.member? members "modules" Decode.dictionary
    return ⟨level.getD standard.level, modules.getD []⟩
  | .array items => do
    let level ← Decode.item? items 0 levelOfJson
    let modules ← Decode.item? items 1 Decode.dictionary
    Decode.noMore items 2
    return ⟨level.getD standard.level, modules.getD []⟩
  | found => .error (.wrongType found "struct AppConfig")

/-- The name of the module that takes expressions apart. -/
def moduleName : String := "calculation"

/-- The key under which a section keeps its configuration. -/
def configKey : String := "config"

/-- The key of the configured limit. -/
def limitKey : String := "max_operations_per_expression"

/-- Reads the members of a configuration one by one, after the value `configured` so far. -/
def configuredOfMembers (configured : Int) : List (String × Json) → Except DecodeFault Int
  | [] => .ok configured
  | (key, found) :: rest =>
    if key = limitKey then
      match Decode.int64 found with
      | .ok n => configuredOfMembers n rest
      | .error fault => .error fault
    else .error (.unknownField key limitKey)

/-- The number of operations in a configuration. No other member is allowed. -/
def configuredOfJson : Decode.Decoder Int
  | .object members => configuredOfMembers Limit.defaultMaximum (Json.ascending members)
  | .array items => do
    let configured ← Decode.item? items 0 Decode.int64
    Decode.noMore items 1
    return configured.getD Limit.defaultMaximum
  | found => .error (.wrongType found "struct CalculationConfig")

/-- A configuration that is there but cannot be decoded. -/
structure ConfigError where
  moduleName : String
  fault : DecodeFault
deriving Repr

/-- The wording of an error. -/
def ConfigError.message (e : ConfigError) : String :=
  s!"invalid config for module '{e.moduleName}': {e.fault.message}"

/-- The configuration of a module, if its section has one. -/
def config? (settings : Settings) (name : String) : Option Json :=
  (Json.lookup? settings.modules name).bind fun entry => entry.member? configKey

/-- The configured number of operations in the section of a module. -/
def configured (settings : Settings) (name : String) : Except ConfigError Int :=
  match settings.config? name with
  | none => .ok Limit.defaultMaximum
  | some found => (configuredOfJson found).mapError fun fault => ⟨name, fault⟩

/-- The limit that the settings put on expressions. -/
def limit (settings : Settings) : Except ConfigError Limit :=
  (settings.configured moduleName).map Limit.ofInt

/-- The members of an object, and none for anything else. -/
def membersOrNone (document : Option Json) : List (String × Json) :=
  (document.bind Json.members?).getD []

/-- Sets the configured number of operations. Whatever stands in its way is replaced by an object;
all else stays. -/
def override (n : Int) (settings : Settings) : Settings :=
  let entry := membersOrNone (Json.lookup? settings.modules moduleName)
  let config := membersOrNone (Json.lookup? entry configKey)
  let config := Json.object (Json.setMember config limitKey (.int n))
  let entry := Json.object (Json.setMember entry configKey config)
  { settings with modules := Json.setMember settings.modules moduleName entry }

end Settings

/-!
## Overriding in place

`Settings.override` builds new sections around the limit. `Settings.overrideInPlace?` changes the
sections that are there, by writing to places inside of them: first it repairs what is no object on
the way to the limit, then it writes the limit. A place inside a document that is neither an object
nor null does not exist, so each write can fail.
-/

namespace Json

/-- The document is an object. -/
def isObject (document : Json) : Bool := document.members?.isSome

/-- The document under a key, and null where there is none. -/
def under (document : Json) (key : String) : Json := (document.member? key).getD .null

/-- Writes a value to the place at the end of a path. Null counts as an object without members. -/
def write? (value : Json) : (path : List String) → (document : Json) → Option Json
  | [], _ => some value
  | key :: path, .null => (write? value path .null).map fun inner => .object [(key, inner)]
  | key :: path, .object members =>
    (write? value path ((object members).under key)).map fun inner =>
      .object (setMember members key inner)
  | _ :: _, _ => none

/-- An object in place of a document that is none. -/
def repair (document : Json) : Json :=
  if document.isObject then document else .object []

/-- An object in place of what stands under a key, if that is none. -/
def repairUnder? (key : String) (document : Json) : Option Json :=
  if (document.under key).isObject then some document else write? (.object []) [key] document

end Json

namespace Settings

/-- Sets the configured number of operations in place, level by level. -/
def overrideInPlace? (n : Int) (settings : Settings) : Option Settings := do
  let entry := (Json.lookup? settings.modules moduleName).getD (.object [])
  let entry ← entry.repair.repairUnder? configKey
  let entry ← Json.write? (.int n) [configKey, limitKey] entry
  return { settings with modules := Json.setMember settings.modules moduleName entry }

/-- Sets the configured number of operations several times, one after another. -/
def overrideAll? (values : List Int) (settings : Settings) : Option Settings :=
  values.foldlM (fun settings n => settings.overrideInPlace? n) settings

end Settings

end Stepwise
