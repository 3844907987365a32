import Stepwise.Json
import Stepwise.Settings
import Stepwise.Settings.File
import Stepwise.Settings.Inline

/-!
# Loading settings

Settings come in layers: the defaults, then a file if one is given, then the environment, and the
limit of the command line over all of them.
-/

namespace Stepwise.Settings

/-!
## Layers of settings

Settings come in layers, each a document. A later layer wins over an earlier one, but only where
it says something: objects are merged member by member. The document that comes out is decoded at
the end.
-/

mutual

/-- The document of two layers, the second over the first. -/
def merge (base : Json) : Json → Json
  | .object members => .object (mergeMembers ((Json.members? base).getD []) members)
  | layer => layer

/-- The members of two layers. -/
def mergeMembers (base : List (String × Json)) : List (String × Json) → List (String × Json)
  | [] => base
  | (key, value) :: rest =>
    let merged := match Json.lookup? base key with
      | some under => merge under value
      | none => value
    mergeMembers (Json.setMember base key merged) rest

end

mutual

/-- Every integer in a document has a form of 64 bits. -/
def hasSmallIntegers : Json → Bool
  | .int n => Text.isAnyInt64 n
  | .array items => itemsSmall items
  | .object members => membersSmall members
  | _ => true

/-- Every integer in the items has a form of 64 bits. -/
def itemsSmall : List Json → Bool
  | [] => true
  | item :: rest => hasSmallIntegers item && itemsSmall rest

/-- Every integer in the members has a form of 64 bits. -/
def membersSmall : List (String × Json) → Bool
  | [] => true
  | (_, value) :: rest => hasSmallIntegers value && membersSmall rest

end

/-- A member of the settings where a record that is written as a list has no surplus items. -/
def withoutSurplus (member : String × Json) : String × Json :=
  match member with
  | ("logging", .array items) => ("logging", .array (items.take 1))
  | _ => member

/-- Reads the document that several layers come to. Surplus items of a record are passed over, and
sections of modules cannot hold integers of more than 64 bits. -/
def ofDocument (document : Json) : Option Settings :=
  match document with
  | .object members =>
    (ofJson (.object (members.map withoutSurplus))).toOption.filter fun settings =>
      membersSmall settings.modules
  | _ => none

/-- The settings of several layers over the defaults. -/
def ofLayers (layers : List Json) : Option Settings :=
  ofDocument (layers.foldl merge standard.toJson)

/-!
## Settings in the environment

A variable whose name starts with `CALCULATION__` sets one value. The rest of its name, in lower
case, is the path of the value, with `__` between the keys. Blanks at the ends of the name and of
the path do not count. The value is written on one line.
-/

/-- What the names of the variables start with, in either case. -/
def variableStart : List Char := "calculation__".toList

/-- The keys of a path, which are separated by `__` or by a point. `done` are the characters of the
current key, latest first. -/
def splitPath (done : List Char) : List Char → List (List Char)
  | [] => [done.reverse]
  | '_' :: '_' :: rest => done.reverse :: splitPath [] rest
  | '.' :: rest => done.reverse :: splitPath [] rest
  | c :: rest => splitPath (c :: done) rest

/-- The path that a variable sets, if it is one of ours and no key is missing. -/
def pathOf (name : String) : Option (List String) :=
  let lower := (Inline.trim name.toList).map Char.toLower
  if variableStart.isPrefixOf lower then
    let keys := splitPath [] (Inline.trim (lower.drop variableStart.length))
    if keys.any List.isEmpty then none else some (keys.map String.ofList)
  else none

/-- The document with a single value at a path. -/
def atPath (value : Json) : List String → Json
  | [] => value
  | key :: path => .object [(key, atPath value path)]

/-- The layer of one variable, at the path that it sets. -/
def layerOfVariable (setting : List String × String) : Option Json :=
  (Inline.read setting.2).map fun value => atPath value setting.1

/-- The paths and the texts of the variables that set something, in the order of the
environment. -/
def settingVariables (environment : List (String × String)) : List (List String × String) :=
  environment.filterMap fun (name, text) =>
    (pathOf name).map fun path => (path, text)

/-- The layer of the environment. There is none when a variable that sets something has no value. -/
def layerOfEnvironment (environment : List (String × String)) : Option Json :=
  match (settingVariables environment).mapM layerOfVariable with
  | some layers => some (layers.foldl merge (.object []))
  | none => none

/-!
## The layers in order

First the defaults, then a file if one is given, then the environment.
-/

/-- The reason why settings cannot be loaded. -/
inductive LoadError where
  | missingFile (path : String)
  | unreadable
  /-- A variable has no value. This is no fault of the settings but the end of the program. -/
  | brokenVariable
deriving DecidableEq, Repr

/-- The layer of the file at a path, if the file holds a document. Without a path the layer is
empty. -/
def layerOfFile (file? : String → Option String) (path : Option String) :
    Except LoadError (Option Json) :=
  match path with
  | none => .ok (some (.object []))
  | some path =>
    match file? path with
    | some text => .ok (File.read text)
    | none => .error (.missingFile path)

/-- Loads settings. `file?` is the content of a file, if there is a file at the path. -/
def load (file? : String → Option String) (environment : List (String × String))
    (path : Option String) : Except LoadError Settings :=
  match layerOfFile file? path, layerOfEnvironment environment with
  | .error e, _ => .error e
  | .ok _, none => .error .brokenVariable
  | .ok none, some _ => .error .unreadable
  | .ok (some file), some environmentLayer =>
    match ofLayers [file, environmentLayer] with
    | some settings => .ok settings
    | none => .error .unreadable

/-!
## Where the limit comes from

The limit may be given on the command line, by a variable, and in a file, or not at all.
`Settings.chosenLimit` is the one that counts.
-/

/-- The path of the configuration of the module that takes expressions apart. -/
def configPath : List String := ["modules", moduleName, configKey]

/-- The path of the limit. -/
def limitPath : List String := configPath ++ [limitKey]

/-- A path leads neither to something on the way to the limit nor to something below it. -/
def IsApart (path : List String) : Prop :=
  path <+: limitPath ∨ limitPath <+: path → path = limitPath

instance (path : List String) : Decidable (IsApart path) :=
  inferInstanceAs (Decidable (_ → _))

/-- The value that variables set at a path. Of several variables with the path the last one
counts. -/
def valueOfVariables? (path : List String) : List (List String × String) → Option Json
  | [] => none
  | (set, text) :: rest =>
    (valueOfVariables? path rest).or (if set = path then Inline.read text else none)

/-- The limit that a file gives. Its configuration may be a list with the limit as its only item. -/
def valueOfFile? (file : Json) : Option Json :=
  match file.at? configPath with
  | some (.array [item]) => some item
  | _ => file.at? limitPath

/-- The limit that counts: that of the command line, or else that of the environment, or else that
of the file, or else the default. -/
def chosenLimit (maxOperations : Option Int) (environment : List (String × String))
    (file : Json) : Json :=
  (((maxOperations.map Json.int).or
    (valueOfVariables? limitPath (settingVariables environment))).or (valueOfFile? file)).getD
      (.int Limit.defaultMaximum)

end Stepwise.Settings
