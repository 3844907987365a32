import Stepwise.Yaml.Folding

/-!
# Splitting a YAML text into symbols

That a scalar is a key shows only at the colon after it. So the scanner remembers where a key may
have started, and at a colon puts the symbol for the key in there. A key ends on the line on which
it starts and has at most 1024 bytes. Blocks start where the indentation grows and end where it
shrinks; brackets and braces suspend indentation.
-/

namespace Stepwise.Yaml

/-!
## Symbols of YAML

A text is a row of scalars and of symbols that give them structure. Blocks are structured by
indentation, so their starts and ends are symbols although nothing is written for them.
-/

/-- An element of a text. -/
inductive Symbol where
  /-- The marks around a document. -/
  | documentStart
  | documentEnd
  /-- The start of a block, and the end of any block. -/
  | listBlock
  | mappingBlock
  | blockEnd
  /-- Brackets and braces, and the comma between their items. -/
  | listOpening
  | listClosing
  | mappingOpening
  | mappingClosing
  | comma
  /-- What stands before an item of a list block, a key, and a value of a mapping. -/
  | item
  | key
  | value
  /-- A scalar: its text, and whether it is written without quotes. -/
  | scalar (text : String) (plain : Bool)
deriving DecidableEq, Repr

/-! ## The scanner -/

/-- A place where a key may have started: the number of symbols before it, and the place itself.
At the indentation of a mapping a key has to follow. -/
structure PendingKey where
  number : Nat
  place : Cursor
  required : Bool
deriving Repr

/-- A scanner between two symbols. Symbols are kept latest first, indentations and the pending keys
of brackets and braces innermost first. -/
structure Scanner where
  cursor : Cursor
  symbols : List Symbol
  count : Nat
  indents : List Nat
  blockKey : Option PendingKey
  flowKeys : List (Option PendingKey)
  keyAllowed : Bool
deriving Repr

namespace Scanner

/-- The scanner before the first symbol. -/
def start (cs : List Char) : Scanner := ⟨.start cs, [], 0, [], none, [], true⟩

/-- The scanner is within brackets or braces. -/
def inFlow (s : Scanner) : Bool := !s.flowKeys.isEmpty

/-- Adds a symbol. -/
def push (symbol : Symbol) (s : Scanner) : Scanner :=
  { s with symbols := symbol :: s.symbols, count := s.count + 1 }

/-- Puts a symbol in after the first `number` symbols. -/
def insert (number : Nat) (symbol : Symbol) (s : Scanner) : Scanner :=
  { s with
    symbols := s.symbols.take (s.count - number) ++ symbol :: s.symbols.drop (s.count - number)
    count := s.count + 1 }

/-- Moves on by one character. -/
def skip (s : Scanner) : Scanner := { s with cursor := s.cursor.skip }

/-! ### Indentation -/

/-- The scanner is outside brackets and braces, and `column` is further to the right than the
innermost block. -/
def growsTo (column : Nat) (s : Scanner) : Bool :=
  !s.inFlow && s.indents.head?.all fun indent => indent < column

/-- Starts a block at a column, if that is further to the right than the innermost one. The symbol
for its start goes in after `number` symbols. -/
def openBlock (column number : Nat) (symbol : Symbol) (s : Scanner) : Scanner :=
  if s.growsTo column then { s.insert number symbol with indents := column :: s.indents } else s

/-- Ends the blocks that are further to the right than `column`; with `none`, all blocks. -/
def closeBlocks (column : Option Nat) (s : Scanner) : Scanner :=
  if s.inFlow then s
  else
    let ends (indent : Nat) : Bool := column.all fun column => column < indent
    let closed := (s.indents.takeWhile ends).length
    { s with
      symbols := List.replicate closed .blockEnd ++ s.symbols
      count := s.count + closed
      indents := s.indents.drop closed }

/-! ### Pending keys -/

/-- The pending key of the innermost brackets or braces, or of the block. -/
def pendingKey (s : Scanner) : Option PendingKey :=
  match s.flowKeys with
  | [] => s.blockKey
  | key :: _ => key

/-- Replaces the pending key. -/
def withKey (key : Option PendingKey) (s : Scanner) : Scanner :=
  match s.flowKeys with
  | [] => { s with blockKey := key }
  | _ :: keys => { s with flowKeys := key :: keys }

/-- Gives up the pending key, which must not be required. -/
def dropKey (s : Scanner) : Option Scanner :=
  if s.pendingKey.any PendingKey.required then none else some (s.withKey none)

/-- The pending key, if it can still be one at a place. -/
def keyAt? (cursor : Cursor) (key : PendingKey) : Option PendingKey :=
  if key.place.line < cursor.line ∨ key.place.offset + 1024 < cursor.offset then none
  else some key

/-- Gives up the pending keys that are too far away. A required one is missing then. -/
def expireKeys (s : Scanner) : Option Scanner :=
  let keys := s.blockKey :: s.flowKeys
  if keys.any fun key => key.any fun key => key.required && (keyAt? s.cursor key).isNone then none
  else some { s with
    blockKey := s.blockKey.bind (keyAt? s.cursor)
    flowKeys := s.flowKeys.map fun key => key.bind (keyAt? s.cursor) }

/-- Remembers that a key may start here. -/
def saveKey (s : Scanner) : Option Scanner :=
  if s.keyAllowed then
    s.dropKey.map fun s => s.withKey (some
      ⟨s.count, s.cursor, !s.inFlow && s.indents.head? == some s.cursor.column⟩)
  else some s

/-! ### Symbols -/

/-- A mark of a document ends all blocks. -/
def mark (symbol : Symbol) (s : Scanner) : Option Scanner :=
  (s.closeBlocks none).dropKey.map fun s =>
    ({ s with keyAllowed := false }.push symbol).skip.skip.skip

/-- An opening bracket or brace, which may be part of a key. -/
def openFlow (symbol : Symbol) (s : Scanner) : Option Scanner :=
  s.saveKey.map fun s =>
    ({ s with flowKeys := none :: s.flowKeys, keyAllowed := true }.push symbol).skip

/-- A closing bracket or brace. -/
def closeFlow (symbol : Symbol) (s : Scanner) : Option Scanner :=
  s.dropKey.map fun s =>
    ({ s with flowKeys := s.flowKeys.drop 1, keyAllowed := false }.push symbol).skip

/-- A comma. -/
def comma (s : Scanner) : Option Scanner :=
  s.dropKey.map fun s => ({ s with keyAllowed := true }.push .comma).skip

/-- A dash, which may start a list block. -/
def item (s : Scanner) : Option Scanner :=
  if s.inFlow || s.keyAllowed then
    (s.openBlock s.cursor.column s.count .listBlock).dropKey.map fun s =>
      ({ s with keyAllowed := true }.push .item).skip
  else none

/-- A question mark before a key, which may start a mapping block. -/
def explicitKey (s : Scanner) : Option Scanner :=
  if s.inFlow || s.keyAllowed then
    (s.openBlock s.cursor.column s.count .mappingBlock).dropKey.map fun s =>
      ({ s with keyAllowed := !s.inFlow }.push .key).skip
  else none

/-- A colon before a value. Where a key is pending, the mapping starts at that key. -/
def value (s : Scanner) : Option Scanner :=
  match s.pendingKey with
  | some key =>
    let s := (s.insert key.number .key).openBlock key.place.column key.number .mappingBlock
    some ({ s.withKey none with keyAllowed := false }.push .value).skip
  | none =>
    if s.inFlow || s.keyAllowed then
      let s := s.openBlock s.cursor.column s.count .mappingBlock
      some ({ s with keyAllowed := !s.inFlow }.push .value).skip
    else none

/-- A scalar without quotes. It has to be indented further than the block that it stands in. -/
def plain (s : Scanner) : Option Scanner :=
  s.saveKey.bind fun s =>
    let least := match s.indents with
      | [] => 0
      | indent :: _ => indent + 1
    (plainFrom least s.inFlow .empty [] s.cursor).map fun (text, gap, cursor) =>
      { s with cursor := cursor, keyAllowed := gap.isBroken }.push
        (.scalar (String.ofList text) true)

/-- A scalar in quotes. -/
def quoted (quote : Char) (s : Scanner) : Option Scanner :=
  s.saveKey.bind fun s =>
    (quotedFrom quote .empty [] 0 s.cursor.skip).map fun (text, cursor) =>
      { s with cursor := cursor, keyAllowed := false }.push (.scalar (String.ofList text) false)

/-- A character that starts no scalar without quotes, at least not here. -/
def isIndicator (c : Char) : Bool :=
  isFlowIndicator c || isBlank c || c == '#' || c == '&' || c == '*' || c == '!' || c == '|' ||
    c == '>' || c == '%' || c == '@' || c == '\x60'

/-- Takes the symbol that starts with `c`, which `after` follows. -/
def take (c : Char) (after : List Char) (s : Scanner) : Option Scanner :=
  if s.cursor.isAtMark '-' then s.mark .documentStart
  else if s.cursor.isAtMark '.' then s.mark .documentEnd
  else
    match c with
    | '[' => s.openFlow .listOpening
    | '\x7b' => s.openFlow .mappingOpening
    | ']' => s.closeFlow .listClosing
    | '\x7d' => s.closeFlow .mappingClosing
    | ',' => s.comma
    | '-' => if Cursor.isGapAt after then s.item else s.plain
    | '?' => if s.inFlow || Cursor.isGapAt after then s.explicitKey else s.plain
    | ':' => if s.inFlow || Cursor.isGapAt after then s.value else s.plain
    | '"' => s.quoted '"'
    | '\'' => s.quoted '\''
    | _ => if isIndicator c then none else s.plain

/-- The place of the next symbol, after blanks, comments and line breaks. Tabs may not stand where a
key may start. A byte order mark at the start of a line is passed over, but takes up its column.
Yields whether a key may start at the place. -/
def nextPlace (inFlow keyAllowed inComment : Bool) (cursor : Cursor) : Cursor × Bool :=
  match _ : cursor.next? with
  | none => (cursor, keyAllowed)
  | some (c, next) =>
    if isBreak c then nextPlace inFlow (keyAllowed || !inFlow) false next
    else if inComment then nextPlace inFlow keyAllowed true next
    else if c = '#' then nextPlace inFlow keyAllowed true next
    else if c = ' ' ∨ (c = '\t' ∧ (inFlow ∨ keyAllowed = false)) ∨
        (c = '\ufeff' ∧ cursor.column = 0) then
      nextPlace inFlow keyAllowed false next
    else (cursor, keyAllowed)
termination_by cursor.rest.length
decreasing_by all_goals exact Cursor.length_lt_of_next? ‹cursor.next? = some _›

/-- Moves on to the next symbol, and ends the blocks that end before it. -/
def approach (s : Scanner) : Option Scanner :=
  let (cursor, keyAllowed) := nextPlace s.inFlow s.keyAllowed false s.cursor
  (expireKeys { s with cursor := cursor, keyAllowed := keyAllowed }).map fun s =>
    s.closeBlocks (some s.cursor.column)

/-- All symbols from the current place on. Each symbol takes at least one character. -/
def scanFrom : (fuel : Nat) → Scanner → Option (List Symbol)
  | 0, _ => none
  | fuel + 1, s =>
    match s.approach with
    | none => none
    | some s =>
      match s.cursor.rest with
      | [] => s.dropKey.map fun s => (s.closeBlocks none).symbols.reverse
      | c :: after =>
        match s.take c after with
        | some s => scanFrom fuel s
        | none => none

/-- The symbols of a text. -/
def scan (cs : List Char) : Option (List Symbol) :=
  if cs.all isAllowed then scanFrom (cs.length + 1) (.start cs) else none

end Scanner

end Stepwise.Yaml
