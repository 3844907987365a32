import Stepwise.Json
import Stepwise.Json.Reader
import Stepwise.Text.Number

/-!
# Writing documents

A document is written either without any white space (`compact`) or over several lines with two
spaces for each level of nesting (`pretty`). Both write members in their own order, and both write
an empty array or object without anything between its brackets.
-/

namespace Stepwise.Json

/-- The digits of a control character in an escape. -/
def controlEscape (c : Char) : List Char :=
  '\\' :: 'u' :: Text.hexChars 4 c.toNat

/-- The characters that stand for one character of a string. -/
def escaped (c : Char) : List Char :=
  if c = '"' then ['\\', '"']
  else if c = '\\' then ['\\', '\\']
  else if c = '\x08' then ['\\', 'b']
  else if c = '\x0c' then ['\\', 'f']
  else if c = '\n' then ['\\', 'n']
  else if c = '\r' then ['\\', 'r']
  else if c = '\t' then ['\\', 't']
  else if c < ' ' then controlEscape c
  else [c]

/-- The characters of a string in quotes, followed by `rest`. -/
def quotedThen (s : String) (rest : List Char) : List Char :=
  '"' :: (s.toList.flatMap escaped ++ '"' :: rest)

/-- The characters of a value that holds no other values, followed by `rest`. -/
def scalarThen (text : String) (rest : List Char) : List Char := text.toList ++ rest

mutual

/-- The characters of a document without white space, followed by `rest`. -/
def compactThen : Json → List Char → List Char
  | null, rest => scalarThen "null" rest
  | bool b, rest => scalarThen (if b then "true" else "false") rest
  | int n, rest => scalarThen (toString n) rest
  | float x, rest => scalarThen x.text rest
  | string s, rest => quotedThen s rest
  | array items, rest => '[' :: compactItemsThen items (']' :: rest)
  | object members, rest => '{' :: compactMembersThen members ('}' :: rest)

/-- The characters of items with commas between them, followed by `rest`. -/
def compactItemsThen : List Json → List Char → List Char
  | [], rest => rest
  | [item], rest => compactThen item rest
  | item :: items, rest => compactThen item (',' :: compactItemsThen items rest)

/-- The characters of members with commas between them, followed by `rest`. -/
def compactMembersThen : List (String × Json) → List Char → List Char
  | [], rest => rest
  | [(key, value)], rest => quotedThen key (':' :: compactThen value rest)
  | (key, value) :: members, rest =>
    quotedThen key (':' :: compactThen value (',' :: compactMembersThen members rest))

end

/-- The text of a document without white space. -/
def compact (document : Json) : String := String.ofList (document.compactThen [])

/-- A new line at a level of nesting, followed by `rest`. -/
def lineThen (level : Nat) (rest : List Char) : List Char :=
  '\n' :: (List.replicate (2 * level) ' ' ++ rest)

mutual

/-- The characters of a document over several lines, followed by `rest`. Its first line is already
indented; the following ones are nested in `level` levels. -/
def prettyThen (level : Nat) : Json → List Char → List Char
  | null, rest => scalarThen "null" rest
  | bool b, rest => scalarThen (if b then "true" else "false") rest
  | int n, rest => scalarThen (toString n) rest
  | float x, rest => scalarThen x.text rest
  | string s, rest => quotedThen s rest
  | array [], rest => '[' :: ']' :: rest
  | array items, rest => '[' :: prettyItemsThen (level + 1) items (lineThen level (']' :: rest))
  | object [], rest => '{' :: '}' :: rest
  | object members, rest =>
    '{' :: prettyMembersThen (level + 1) members (lineThen level ('}' :: rest))

/-- The characters of items, each on lines of its own, followed by `rest`. -/
def prettyItemsThen (level : Nat) : List Json → List Char → List Char
  | [], rest => rest
  | [item], rest => lineThen level (prettyThen level item rest)
  | item :: items, rest =>
    lineThen level (prettyThen level item (',' :: prettyItemsThen level items rest))

/-- The characters of members, each on lines of its own, followed by `rest`. -/
def prettyMembersThen (level : Nat) : List (String × Json) → List Char → List Char
  | [], rest => rest
  | [(key, value)], rest =>
    lineThen level (quotedThen key (':' :: ' ' :: prettyThen level value rest))
  | (key, value) :: members, rest =>
    lineThen level (quotedThen key (':' :: ' ' :: prettyThen level value
      (',' :: prettyMembersThen level members rest)))

end

/-- The text of a document over several lines. -/
def pretty (document : Json) : String := String.ofList (document.prettyThen 0 [])

/-!
## How documents may be spelt

`Json.Spells` says which texts stand for a document: white space is free between the symbols, and
strings are escaped in the way in which they are written. Numbers are left out, so the documents
meant are those without them (`Json.isNumberless`).
-/

mutual

/-- No number occurs in a document. -/
def isNumberless : Json → Bool
  | int _ | float _ => false
  | array items => itemsNumberless items
  | object members => membersNumberless members
  | _ => true

/-- No number occurs in the items. -/
def itemsNumberless : List Json → Bool
  | [] => true
  | item :: rest => item.isNumberless && itemsNumberless rest

/-- No number occurs in the members. -/
def membersNumberless : List (String × Json) → Bool
  | [] => true
  | (_, value) :: rest => value.isNumberless && membersNumberless rest

end

/-- What a part of a text stands for: a document, or what is between the brackets of an array or the
braces of an object. -/
inductive Part where
  | document (value : Json)
  | items (values : List Json)
  | members (values : List (String × Json))

/-- The first text spells the part, and the second text is what follows it. White space may stand
before each symbol. -/
inductive Spells : Part → List Char → List Char → Prop where
  | null {cs rest : List Char} : skipSpace cs = scalarThen "null" rest →
      Spells (.document .null) cs rest
  | bool {b : Bool} {cs rest : List Char} :
      skipSpace cs = scalarThen (if b then "true" else "false") rest →
      Spells (.document (.bool b)) cs rest
  | string {s : String} {cs rest : List Char} : skipSpace cs = quotedThen s rest →
      Spells (.document (.string s)) cs rest
  | emptyArray {cs inner rest : List Char} : skipSpace cs = '[' :: inner →
      skipSpace inner = ']' :: rest → Spells (.document (.array [])) cs rest
  | array {items : List Json} {cs inner tail rest : List Char} : skipSpace cs = '[' :: inner →
      Spells (.items items) inner tail → skipSpace tail = ']' :: rest →
      Spells (.document (.array items)) cs rest
  | emptyObject {cs inner rest : List Char} : skipSpace cs = '{' :: inner →
      skipSpace inner = '}' :: rest → Spells (.document (.object [])) cs rest
  | object {members : List (String × Json)} {cs inner tail rest : List Char} :
      skipSpace cs = '{' :: inner → Spells (.members members) inner tail →
      skipSpace tail = '}' :: rest → Spells (.document (.object members)) cs rest
  | lastItem {item : Json} {cs rest : List Char} : Spells (.document item) cs rest →
      Spells (.items [item]) cs rest
  | item {item : Json} {items : List Json} {cs tail middle rest : List Char} :
      Spells (.document item) cs tail → skipSpace tail = ',' :: middle →
      Spells (.items items) middle rest → Spells (.items (item :: items)) cs rest
  | lastMember {key : String} {value : Json} {cs tail inner rest : List Char} :
      skipSpace cs = quotedThen key tail → skipSpace tail = ':' :: inner →
      Spells (.document value) inner rest → Spells (.members [(key, value)]) cs rest
  | member {key : String} {value : Json} {members : List (String × Json)}
      {cs tail inner after middle rest : List Char} :
      skipSpace cs = quotedThen key tail → skipSpace tail = ':' :: inner →
      Spells (.document value) inner after → skipSpace after = ',' :: middle →
      Spells (.members members) middle rest → Spells (.members ((key, value) :: members)) cs rest

end Stepwise.Json
