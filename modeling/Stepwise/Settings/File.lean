import Stepwise.Yaml.Document
import Stepwise.Yaml.Scalar

/-!
# Settings in a file

A file holds one mapping, whose members make up its layer. Of several members with one key the last
counts.

Two keys have a meaning of their own in any mapping below the top. A mapping with a content is an
envelope and stands for that content, which is a mapping again; its other members are passed over.
A mapping with nothing but a number is no envelope, and the number is not a member of it. Whatever
is passed over has to be sound.
-/

namespace Stepwise.Settings.File

open Yaml (Node)

/-- The key of the number of an envelope. -/
def numberKey : String := "___figment_value_id"

/-- The key of the content of an envelope. -/
def contentKey : String := "___figment_value_value"

/-- The node is a number: an integer of 64 bits without quotes and without a minus sign. -/
def isNumber : Node → Bool
  | .scalar text true =>
    text.toList.head? != some '-' &&
      match Yaml.Scalar.value text with
      | .int n => Text.isAnyInt64 n
      | _ => false
  | _ => false

/-- The value of a member, when the value of its node is `value`. A number is no other scalar, and a
content is a mapping. -/
def memberValue? (key : String) (node : Node) (value : Json) : Option Json :=
  if key = numberKey then if isNumber node then some value else none
  else if key = contentKey then
    match node with
    | .missing => some (.object [])
    | .mapping _ => some value
    | _ => none
  else some value

/-- The value of a mapping with these members: its content if it has one, else the mapping of its
members without the number. -/
def opened (members : List (String × Json)) : Json :=
  match Json.lookup? members contentKey with
  | some content => content
  | none => .object (Json.ascending (members.filter fun member => member.1 != numberKey))

mutual

/-- The value of a node. -/
def value? : Node → Option Json
  | .missing => some .null
  | .scalar text plain => some (if plain then Yaml.Scalar.value text else .string text)
  | .list items => (values? items).map .array
  | .mapping members => (memberValues? members).map opened

/-- The values of the items of a list. -/
def values? : List Node → Option (List Json)
  | [] => some []
  | node :: rest =>
    match value? node, values? rest with
    | some value, some values => some (value :: values)
    | _, _ => none

/-- The members of a mapping with their values. -/
def memberValues? : List (String × Node) → Option (List (String × Json))
  | [] => some []
  | (key, node) :: rest =>
    match (value? node).bind (memberValue? key node), memberValues? rest with
    | some value, some values => some ((key, value) :: values)
    | _, _ => none

end

/-- The members at the top of a file with their values. No key has a meaning of its own here. -/
def topValues? (members : List (String × Node)) : Option (List (String × Json)) :=
  members.mapM fun member => (value? member.2).map fun value => (member.1, value)

/-- The layer that a text holds. -/
def read (text : String) : Option Json :=
  ((Yaml.read text).bind topValues?).map fun members => .object (Json.ascending members)

end Stepwise.Settings.File
