import Stepwise.Json
import Stepwise.Operand
import Stepwise.Text.Character
import Stepwise.Text.Number

/-!
# Decoding documents

A record is decoded from an object, whose members come in any order and of which unknown ones are
passed over, or from an array of its members in the order of declaration. Members of an object are
visited in ascending order of their keys and the first bad one is reported; what is missing is
reported only when all members are good.
-/

namespace Stepwise

/-- The reason why a document is not what it should be. -/
inductive DecodeFault where
  | wrongType (found : Json) (expected : String)
  | outOfRange (n : Int) (expected : String)
  | wrongLength (length : Nat) (expected : String)
  | missingField (name : String)
  | unknownField (name : String) (expected : String)
  | unknownVariant (name : String) (expected : List String)
  | severalVariants
  | malformedId
  | malformedOperand (e : OperandError)
deriving Repr

/-- How a fault names a document. -/
def Json.describe : Json → String
  | .null => "null"
  | .bool b => s!"boolean `{b}`"
  | .int n => s!"integer `{n}`"
  | .float x => s!"floating point `{x.text}`"
  | .string s => "string " ++ Text.quoted s
  | .array _ => "sequence"
  | .object _ => "map"

/-- The wording of a fault. -/
def DecodeFault.message : DecodeFault → String
  | wrongType found expected => s!"invalid type: {found.describe}, expected {expected}"
  | outOfRange n expected => s!"invalid value: integer `{n}`, expected {expected}"
  | wrongLength length expected => s!"invalid length {length}, expected {expected}"
  | missingField name => s!"missing field `{name}`"
  | unknownField name expected => s!"unknown field `{name}`, expected `{expected}`"
  | unknownVariant name expected =>
    s!"unknown variant `{name}`, expected one of " ++
      ", ".intercalate (expected.map fun name => s!"`{name}`")
  | severalVariants => "invalid value: map, expected map with a single key"
  | malformedId => "UUID parsing failed"
  | malformedOperand e => e.message

namespace Decode

/-- A decoder of documents. -/
abbrev Decoder (α : Type) := Json → Except DecodeFault α

/-- A string. -/
def string : Decoder String
  | .string s => .ok s
  | found => .error (.wrongType found "a string")

/-- An integer in the range of signed 64-bit integers. -/
def int64 : Decoder Int
  | .int n => if Text.isInt64 n then .ok n else .error (.outOfRange n "i64")
  | found => .error (.wrongType found "i64")

/-- An identifier. -/
def id : Decoder Id
  | .string s =>
    match Id.ofText? s with
    | some id => .ok id
    | none => .error .malformedId
  | found => .error (.wrongType found "a formatted UUID string")

/-- Nothing, or what another decoder accepts. -/
def nullable {α : Type} (decoder : Decoder α) : Decoder (Option α)
  | .null => .ok none
  | found => (decoder found).map some

/-- An operand. -/
def operand : Decoder Operand
  | .string s => (Operand.ofText s).mapError .malformedOperand
  | found => .error (.wrongType found "a string")

/-- Items that another decoder accepts. -/
def list {α : Type} (decoder : Decoder α) : Decoder (List α)
  | .array items => items.mapM decoder
  | found => .error (.wrongType found "a sequence")

/-- Members with any keys and any values, in ascending order of their keys. -/
def dictionary : Decoder (List (String × Json))
  | .object members => .ok (Json.ascending members)
  | found => .error (.wrongType found "a map")

/-- One of several named values. -/
def named {α : Type} (name : α → String) (all : List α) (given : String) :
    Except DecodeFault α :=
  match all.find? fun value => name value == given with
  | some value => .ok value
  | none => .error (.unknownVariant given (all.map name))

/-- One of several named values: its name, or an object with the name as its only key and nothing
under it. -/
def variant {α : Type} (name : α → String) (all : List α) : Decoder α
  | .string given => named name all given
  | .object members =>
    match Json.ascending members with
    | [(given, payload)] =>
      match named name all given, payload with
      | .ok value, .null => .ok value
      | .ok _, found => .error (.wrongType found "unit")
      | .error fault, _ => .error fault
    | _ => .error .severalVariants
  | found => .error (.wrongType found "string or map")

/-- The member under a key, if there is one. -/
def member? {α : Type} (members : List (String × Json)) (key : String) (decoder : Decoder α) :
    Except DecodeFault (Option α) :=
  match Json.lookup? members key with
  | some found => (decoder found).map some
  | none => .ok none

/-- A member that has to be there. -/
def required {α : Type} (key : String) : Option α → Except DecodeFault α
  | some value => .ok value
  | none => .error (.missingField key)

/-- The item at a place of an array that stands for a record. -/
def item? {α : Type} (items : List Json) (index : Nat) (decoder : Decoder α) :
    Except DecodeFault (Option α) :=
  match items[index]? with
  | some found => (decoder found).map some
  | none => .ok none

/-- An item that has to be there; `whole` names the record. -/
def item {α : Type} (whole : String) (items : List Json) (index : Nat) (decoder : Decoder α) :
    Except DecodeFault α :=
  match items[index]? with
  | some found => decoder found
  | none => .error (.wrongLength index whole)

/-- No items are left after the first `count`. -/
def noMore (items : List Json) (count : Nat) : Except DecodeFault Unit :=
  if items.length ≤ count then .ok ()
  else .error (.wrongLength items.length "fewer elements in array")

end Decode

end Stepwise
