import Stepwise.Yaml.Scanner

/-!
# Documents in YAML

`Yaml.read` reads a text that holds at most one document, whose top level is a mapping. Keys are
scalars, and stand for their texts. Lists and mappings are nested at most 128 deep.
-/

namespace Stepwise.Yaml

/-!
## Nodes of YAML

A node is what a document holds, before its scalars are given a meaning. Members of a mapping are
kept in the order in which they are written, also several with one key.
-/

/-- A node. -/
inductive Node where
  /-- Nothing is written where a value may stand. -/
  | missing
  /-- A scalar: its text, and whether it is written without quotes. -/
  | scalar (text : String) (plain : Bool)
  | list (items : List Node)
  | mapping (members : List (String × Node))
deriving Repr, Inhabited

/-- The members of a mapping. Nothing is an empty mapping. -/
def Node.members? : Node → Option (List (String × Node))
  | .missing => some []
  | .mapping members => some members
  | _ => none

/-! ## Reading nodes -/

/-- Where a value stands. A list block in a mapping need not be indented, and within brackets or
braces there are no blocks. -/
inductive Place where
  | item
  | member
  | flow
deriving DecidableEq, Repr

/-- The symbols end or go on with one of `ends`: nothing is written for the value here. -/
def isMissing (ends : List Symbol) (symbols : List Symbol) : Bool :=
  symbols.head?.all ends.contains

/-- The text of a key, and the symbols after it. -/
def key? (ends : List Symbol) (symbols : List Symbol) : Option (String × List Symbol) :=
  if isMissing ends symbols then some ("", symbols)
  else
    match symbols with
    | .scalar text _ :: rest => some (text, rest)
    | _ => none

/-- The symbols that end a key or a value of a mapping block. -/
def blockEnds : List Symbol := [.key, .value, .blockEnd]

/-- The symbols that end a key in braces. -/
def flowKeyEnds : List Symbol := [.value, .comma, .mappingClosing]

/-- A mapping of members, latest first. -/
def mapping (done : List (String × Node)) : Node := .mapping done.reverse

mutual

/-- A value, and the symbols after it; `depth` is how deep lists and mappings may be nested in
it. -/
def value? : (fuel depth : Nat) → Place → List Symbol → Option (Node × List Symbol)
  | 0, _, _, _ => none
  | fuel + 1, depth, place, symbols =>
    match symbols, depth with
    | .scalar text plain :: rest, _ => some (.scalar text plain, rest)
    | .listBlock :: rest, depth + 1 => if place = .flow then none else items? fuel depth [] rest
    | .item :: _, depth + 1 =>
      if place = .member then looseItems? fuel depth [] symbols else none
    | .mappingBlock :: rest, depth + 1 =>
      if place = .flow then none else members? fuel depth [] rest
    | .listOpening :: rest, depth + 1 => flowItems? fuel depth [] rest
    | .mappingOpening :: rest, depth + 1 => flowMembers? fuel depth [] rest
    | _, _ => none

/-- The remaining items of a list block, after the items `done`, latest first. -/
def items? : (fuel depth : Nat) → (done : List Node) → List Symbol → Option (Node × List Symbol)
  | 0, _, _, _ => none
  | fuel + 1, depth, done, symbols =>
    match symbols with
    | .blockEnd :: rest => some (.list done.reverse, rest)
    | .item :: rest =>
      if isMissing [.item, .blockEnd] rest then items? fuel depth (.missing :: done) rest
      else
        match value? fuel depth .item rest with
        | some (value, rest) => items? fuel depth (value :: done) rest
        | none => none
    | _ => none

/-- The remaining items of a list block that is not indented. -/
def looseItems? : (fuel depth : Nat) → (done : List Node) → List Symbol →
    Option (Node × List Symbol)
  | 0, _, _, _ => none
  | fuel + 1, depth, done, symbols =>
    match symbols with
    | .item :: rest =>
      if isMissing (.item :: blockEnds) rest then looseItems? fuel depth (.missing :: done) rest
      else
        match value? fuel depth .item rest with
        | some (value, rest) => looseItems? fuel depth (value :: done) rest
        | none => none
    | _ => some (.list done.reverse, symbols)

/-- The remaining members of a mapping block, after the members `done`, latest first. -/
def members? : (fuel depth : Nat) → (done : List (String × Node)) → List Symbol →
    Option (Node × List Symbol)
  | 0, _, _, _ => none
  | fuel + 1, depth, done, symbols =>
    match symbols with
    | .blockEnd :: rest => some (mapping done, rest)
    | .key :: rest =>
      match key? blockEnds rest with
      | none => none
      | some (key, .value :: rest) =>
        if isMissing blockEnds rest then members? fuel depth ((key, .missing) :: done) rest
        else
          match value? fuel depth .member rest with
          | some (value, rest) => members? fuel depth ((key, value) :: done) rest
          | none => none
      | some (key, rest) => members? fuel depth ((key, .missing) :: done) rest
    | _ => none

/-- The remaining items in brackets. A comma may stand before the closing bracket. An item with a
key is a mapping of one member. -/
def flowItems? : (fuel depth : Nat) → (done : List Node) → List Symbol →
    Option (Node × List Symbol)
  | 0, _, _, _ => none
  | fuel + 1, depth, done, symbols =>
    match symbols with
    | .listClosing :: rest => some (.list done.reverse, rest)
    | .key :: rest =>
      match pair? fuel depth rest with
      | some (value, .comma :: rest) => flowItems? fuel depth (value :: done) rest
      | some (value, .listClosing :: rest) => some (.list (value :: done).reverse, rest)
      | _ => none
    | _ =>
      match value? fuel depth .flow symbols with
      | some (value, .comma :: rest) => flowItems? fuel depth (value :: done) rest
      | some (value, .listClosing :: rest) => some (.list (value :: done).reverse, rest)
      | _ => none

/-- The mapping of one member that an item in brackets is. -/
def pair? : (fuel depth : Nat) → List Symbol → Option (Node × List Symbol)
  | 0, _, _ => none
  | _, 0, _ => none
  | fuel + 1, depth + 1, symbols =>
    match symbols with
    | .scalar key _ :: .value :: rest =>
      if isMissing [.comma, .listClosing] rest then some (.mapping [(key, .missing)], rest)
      else
        match value? fuel depth .flow rest with
        | some (value, rest) => some (.mapping [(key, value)], rest)
        | none => none
    | .scalar key _ :: rest => some (.mapping [(key, .missing)], rest)
    | _ => none

/-- The remaining members in braces. A comma may stand before the closing brace, and a key may
stand alone. -/
def flowMembers? : (fuel depth : Nat) → (done : List (String × Node)) → List Symbol →
    Option (Node × List Symbol)
  | 0, _, _, _ => none
  | fuel + 1, depth, done, symbols =>
    match symbols with
    | .mappingClosing :: rest => some (mapping done, rest)
    | .scalar key _ :: rest => flowMembersAfter? fuel depth ((key, .missing) :: done) rest
    | .key :: rest =>
      match key? flowKeyEnds rest with
      | none => none
      | some (key, .value :: rest) =>
        if isMissing [.comma, .mappingClosing] rest then
          flowMembersAfter? fuel depth ((key, .missing) :: done) rest
        else
          match value? fuel depth .flow rest with
          | some (value, rest) => flowMembersAfter? fuel depth ((key, value) :: done) rest
          | none => none
      | some (key, rest) => flowMembersAfter? fuel depth ((key, .missing) :: done) rest
    | _ => none

/-- What follows a member in braces. -/
def flowMembersAfter? : (fuel depth : Nat) → (done : List (String × Node)) → List Symbol →
    Option (Node × List Symbol)
  | 0, _, _, _ => none
  | fuel + 1, depth, done, symbols =>
    match symbols with
    | .comma :: rest => flowMembers? fuel depth done rest
    | .mappingClosing :: rest => some (mapping done, rest)
    | _ => none

end

/-- How deep lists and mappings may be nested. -/
def maxDepth : Nat := 128

/-- The value of a document whose symbols these are, and the symbols after it. Nothing needs to
follow the mark at the start of a document. -/
def content? (symbols : List Symbol) : Option (Node × List Symbol) :=
  match symbols with
  | [] => some (.missing, [])
  | .documentStart :: rest =>
    if isMissing [.documentStart, .documentEnd] rest then some (.missing, rest)
    else value? (3 * rest.length + 3) maxDepth .item rest
  | _ => value? (3 * symbols.length + 3) maxDepth .item symbols

/-- The members of the mapping that the symbols of a text denote, when nothing but marks of its end
follow it. -/
def topMembers? (symbols : List Symbol) : Option (List (String × Node)) :=
  match content? symbols with
  | some (node, rest) => if rest.all (· == .documentEnd) then node.members? else none
  | none => none

/-- The members of the mapping that a text holds. -/
def read (text : String) : Option (List (String × Node)) :=
  (Scanner.scan text.toList).bind topMembers?

end Stepwise.Yaml
