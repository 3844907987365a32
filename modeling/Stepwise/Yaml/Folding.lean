import Stepwise.Text.Number
import Stepwise.Yaml.Cursor

/-!
# Texts that span lines

A scalar may go on over several lines. Blanks around a line break do not count; one line break is
read as a space, and of several all but the first are kept. A scalar without quotes ends at a
colon before a gap, at a comment, or where the indentation ends.
-/

namespace Stepwise.Yaml

/-- What stands between two characters of a scalar, latest first: blanks, or line breaks with their
blanks left out. A line break that is escaped does not count as the first. -/
inductive Gap where
  | blanks (cs : List Char)
  | breaks (first : Option Char) (others : List Char)
deriving Repr

namespace Gap

/-- Nothing. -/
def empty : Gap := .blanks []

/-- One more blank. -/
def addBlank (c : Char) : Gap → Gap
  | blanks cs => blanks (c :: cs)
  | gap => gap

/-- One more line break. -/
def addBreak (c : Char) : Gap → Gap
  | blanks _ => breaks (some c) []
  | breaks first others => breaks first (c :: others)

/-- There is a line break in the gap. -/
def isBroken : Gap → Bool
  | blanks _ => false
  | breaks _ _ => true

/-- There is nothing in the gap. -/
def isEmpty : Gap → Bool
  | blanks cs => cs.isEmpty
  | breaks _ _ => false

/-- What the gap is read as, latest first. -/
def folded : Gap → List Char
  | blanks cs => cs
  | breaks (some '\n') [] => [' ']
  | breaks (some '\n') others => others
  | breaks (some first) others => others ++ [first]
  | breaks none others => others

end Gap

/-- The characters that end a scalar without quotes within brackets or braces. -/
def isFlowIndicator (c : Char) : Bool :=
  c == ',' || c == '[' || c == ']' || c == '\x7b' || c == '\x7d'

/-- A scalar without quotes ends before a character, given the text after the character. -/
def endsPlain (inFlow : Bool) (c : Char) (rest : List Char) : Bool :=
  (c == ':' && Cursor.isGapAt rest) || (inFlow && isFlowIndicator c)

/-- Within brackets or braces, a colon right before an indicator is an error. -/
def isMisplacedColon (inFlow : Bool) (c : Char) (rest : List Char) : Bool :=
  inFlow && c == ':' && rest.head?.any fun next => isFlowIndicator next || next == '?'

/-- After a gap, a scalar without quotes goes on only if it is indented far enough, and neither a
comment nor a mark of a document follows. -/
def endsAfterGap (least : Nat) (inFlow : Bool) (c : Char) (cursor : Cursor) : Bool :=
  (!inFlow && cursor.column < least) || c == '#' || cursor.isAtAnyMark

/-- The rest of a scalar without quotes, whose characters so far are `done`, latest first. Lines
after the first have at least the column `least`. Yields the whole text, the gap after it, and the
place after the gap. -/
def plainFrom (least : Nat) (inFlow : Bool) (gap : Gap) (done : List Char) (cursor : Cursor) :
    Option (List Char × Gap × Cursor) :=
  match _ : cursor.next? with
  | none => some (done.reverse, gap, cursor)
  | some (c, next) =>
    if isBlank c then
      if gap.isBroken ∧ cursor.column < least ∧ c = '\t' then none
      else plainFrom least inFlow (gap.addBlank c) done next
    else if isBreak c then plainFrom least inFlow (gap.addBreak c) done next
    else if !gap.isEmpty && endsAfterGap least inFlow c cursor then
      some (done.reverse, gap, cursor)
    else if isMisplacedColon inFlow c next.rest then none
    else if endsPlain inFlow c next.rest then some (done.reverse, gap, cursor)
    else plainFrom least inFlow .empty (c :: (gap.folded ++ done)) next
termination_by cursor.rest.length
decreasing_by all_goals exact Cursor.length_lt_of_next? ‹cursor.next? = some _›

/-- The character that a backslash makes of the character after it. -/
def unescaped? : Char → Option Char
  | '0' => some '\x00'
  | 'a' => some '\x07'
  | 'b' => some '\x08'
  | 't' => some '\t'
  | '\t' => some '\t'
  | 'n' => some '\n'
  | 'v' => some '\x0b'
  | 'f' => some '\x0c'
  | 'r' => some '\r'
  | 'e' => some '\x1b'
  | ' ' => some ' '
  | '"' => some '"'
  | '/' => some '/'
  | '\\' => some '\\'
  | 'N' => some '\x85'
  | '_' => some '\xa0'
  | 'L' => some '\u2028'
  | 'P' => some '\u2029'
  | _ => none

/-- The number of hexadecimal digits after a letter that is escaped. -/
def escapeLength? : Char → Option Nat
  | 'x' => some 2
  | 'u' => some 4
  | 'U' => some 8
  | _ => none

/-- The rest of a text in quotes after its opening quote. `skipped` characters are part of an
escape that is already read. In single quotes a quote is written twice. -/
def quotedFrom (quote : Char) (gap : Gap) (done : List Char) (skipped : Nat) (cursor : Cursor) :
    Option (List Char × Cursor) :=
  match _ : cursor.next? with
  | none => none
  | some (c, next) =>
    let text := gap.folded ++ done
    if 0 < skipped then quotedFrom quote gap done (skipped - 1) next
    else if cursor.isAtAnyMark then none
    else if isBlank c then quotedFrom quote (gap.addBlank c) done 0 next
    else if isBreak c then quotedFrom quote (gap.addBreak c) done 0 next
    else if c = quote then
      if c = '\'' ∧ next.rest.head? = some '\'' then quotedFrom quote .empty ('\'' :: text) 1 next
      else some (text.reverse, next)
    else if c = '\\' ∧ quote = '"' then
      match next.rest with
      | [] => none
      | letter :: rest =>
        if isBreak letter then quotedFrom quote (.breaks none []) text 1 next
        else
          match escapeLength? letter, unescaped? letter with
          | some length, _ =>
            if rest.length < length then none
            else
              match Text.codePoint? (rest.take length) with
              | some point => quotedFrom quote .empty (point :: text) (length + 1) next
              | none => none
          | none, some plain => quotedFrom quote .empty (plain :: text) 1 next
          | none, none => none
    else quotedFrom quote .empty (c :: text) 0 next
termination_by cursor.rest.length
decreasing_by all_goals exact Cursor.length_lt_of_next? ‹cursor.next? = some _›

end Stepwise.Yaml
