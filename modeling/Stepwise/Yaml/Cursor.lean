/-!
# Places in a YAML text

A cursor is a place in a text: what is left of the text, and the line and the column of the place.
Offsets count bytes of the UTF-8 form, columns count characters. All forms of a line break count as
one character. Main statement here: `next?` leaves less of the text.
-/

namespace Stepwise.Yaml

/-- A space or a tab. -/
def isBlank (c : Char) : Bool := c == ' ' || c == '\t'

/-- A character that ends a line. -/
def isBreak (c : Char) : Bool :=
  c == '\n' || c == '\r' || c == '\x85' || c == '\u2028' || c == '\u2029'

/-- The character may occur in a text: no control character apart from tabs and line breaks. -/
def isAllowed (c : Char) : Bool :=
  c == '\t' || c == '\n' || c == '\r' || c == '\x85' || (' ' ≤ c && c ≤ '~') ||
    ('\xa0' ≤ c && c != '\ufffe' && c != '\uffff')

/-- A place in a text. -/
structure Cursor where
  rest : List Char
  offset : Nat
  line : Nat
  column : Nat
deriving Repr

namespace Cursor

/-- The start of a text. -/
def start (cs : List Char) : Cursor := ⟨cs, 0, 0, 0⟩

/-- The character at a place, and the place after it. Line breaks are read as a line feed, except
the line and paragraph separators, which stay as they are. -/
def next? (cursor : Cursor) : Option (Char × Cursor) :=
  match cursor.rest with
  | [] => none
  | '\r' :: '\n' :: rest => some ('\n', ⟨rest, cursor.offset + 2, cursor.line + 1, 0⟩)
  | c :: rest =>
    if isBreak c then
      some (if c = '\u2028' ∨ c = '\u2029' then c else '\n',
        ⟨rest, cursor.offset + c.utf8Size, cursor.line + 1, 0⟩)
    else some (c, ⟨rest, cursor.offset + c.utf8Size, cursor.line, cursor.column + 1⟩)

@[grind →] theorem length_lt_of_next? {cursor next : Cursor} {c : Char}
    (h : cursor.next? = some (c, next)) : next.rest.length < cursor.rest.length := by
  unfold next? at h
  split at h
  · cases h
  · next eq =>
    cases h
    simp only [eq, List.length_cons]
    omega
  · next eq =>
    split at h
    all_goals
      cases h
      simp only [eq, List.length_cons]
      omega

/-- The place after the character at a place. -/
def skip (cursor : Cursor) : Cursor :=
  match cursor.next? with
  | some (_, next) => next
  | none => cursor

/-- A blank, a line break or the end of the text. -/
def isGapAt : List Char → Bool
  | [] => true
  | c :: _ => isBlank c || isBreak c

/-- The three characters that mark the start or the end of a document stand here, at the start of
a line and followed by a gap. -/
def isAtMark (mark : Char) (cursor : Cursor) : Bool :=
  match cursor.rest with
  | a :: b :: c :: rest =>
    cursor.column == 0 && a == mark && b == mark && c == mark && isGapAt rest
  | _ => false

/-- A mark of a document stands here. -/
def isAtAnyMark (cursor : Cursor) : Bool := cursor.isAtMark '-' || cursor.isAtMark '.'

end Cursor

end Stepwise.Yaml
