import Stepwise.Json
import Stepwise.Text.Character
import Stepwise.Text.Number

/-!
# Values on one line

A setting outside a file is written on one line: `true`, `false`, a number, a text in double
quotes, a single character in single quotes, a list in brackets, a mapping in braces, or else plain
text. A line that is none of these as a whole is plain text as it stands, blanks included.

Where a text in quotes has a backslash, what stands before the first one is kept by its number of
characters, counted off in bytes: all of it if it is ASCII, and else a shorter part. A count that
ends within a character is a fault that not even plain text makes up for.
-/

namespace Stepwise.Settings.Inline

open Text (codePoint? isBlank isLayout)

/-- The text without blanks at its ends. -/
def trim (cs : List Char) : List Char :=
  ((cs.dropWhile isBlank).reverse.dropWhile isBlank).reverse

/-- The text after layout. -/
def skipLayout (cs : List Char) : List Char := cs.dropWhile isLayout

/-- The character that a backslash makes of the character after it. -/
def unescaped? : Char → Option Char
  | '"' => some '"'
  | '\\' => some '\\'
  | 'b' => some '\x08'
  | 'f' => some '\x0c'
  | 'n' => some '\n'
  | 'r' => some '\r'
  | 't' => some '\t'
  | _ => none

/-- The character may stand in a quotation as it is. -/
def isQuotable (c : Char) : Bool := c == '\t' || (' ' ≤ c && c != '\x7f')

/-- The reason why a text is no value. -/
inductive Fault where
  | malformed
  /-- The part of a text that is kept ends within a character. -/
  | splitCharacter
deriving DecidableEq, Repr

/-- A value at the start of a text, and the text after it. -/
abbrev Reading (α : Type) := Except Fault (α × List Char)

/-- A quotation after its opening quote, as it is written, and the text after its closing quote. -/
def quotation? (done : List Char) : List Char → Option (List Char × List Char)
  | [] => none
  | '"' :: rest => some (done.reverse, rest)
  | '\\' :: c :: rest => quotation? (c :: '\\' :: done) rest
  | c :: rest => quotation? (c :: done) rest

/-- The characters that a quotation stands for. -/
def unescape? (done : List Char) : List Char → Option (List Char)
  | [] => some done.reverse
  | '\\' :: 'u' :: a :: b :: c :: d :: rest =>
    match codePoint? [a, b, c, d] with
    | some point => unescape? (point :: done) rest
    | none => none
  | '\\' :: 'U' :: a :: b :: c :: d :: e :: f :: g :: h :: rest =>
    match codePoint? [a, b, c, d, e, f, g, h] with
    | some point => unescape? (point :: done) rest
    | none => none
  | '\\' :: c :: rest =>
    match unescaped? c with
    | some plain => unescape? (plain :: done) rest
    | none => none
  | c :: rest => if isQuotable c then unescape? (c :: done) rest else none

/-- The characters that make up the first `count` bytes of a text, if they end with a character. -/
def firstBytes? : (count : Nat) → List Char → Option (List Char)
  | 0, _ => some []
  | _, [] => none
  | count, c :: rest =>
    if c.utf8Size ≤ count then (firstBytes? (count - c.utf8Size) rest).map (c :: ·) else none

/-- The text that a quotation stands for. -/
def quotedText (written : List Char) : Except Fault String :=
  let plain := written.takeWhile (· != '\\')
  let rest := written.dropWhile (· != '\\')
  if plain.all isQuotable = false then .error .malformed
  else if rest.isEmpty then .ok (String.ofList plain)
  else
    match firstBytes? plain.length plain with
    | none => .error .splitCharacter
    | some kept =>
      match unescape? [] rest with
      | some more => .ok (String.ofList (kept ++ more))
      | none => .error .malformed

/-- The text of a quotation after its opening quote, and the text after its closing quote. -/
def quotedRest (cs : List Char) : Reading String :=
  match quotation? [] cs with
  | some (written, rest) => (quotedText written).map fun text => (text, rest)
  | none => .error .malformed

/-- The character separates items of lists and mappings, or starts or ends them. -/
def isSeparator (c : Char) : Bool :=
  c == ',' || c == '\x7b' || c == '\x7d' || c == '[' || c == ']'

/-- A number with a point. One that is too large for a finite number is nothing. -/
def float? (cs : List Char) : Option Json :=
  if cs.contains '.' then
    (Decimal.ofChars? cs).map fun (negative, d) =>
      match Binary64.nearest? negative d with
      | some x => .float x
      | none => .null
  else none

/-- The value of plain text. -/
def plainValue (cs : List Char) : Json :=
  match float? (trim cs) with
  | some value => value
  | none =>
    match Text.anyInt64? (trim cs) with
    | some n => .int n
    | none => .string (String.ofList (trim cs))

/-- The character may stand in a key that has no quotes. -/
def isKeyChar (c : Char) : Bool := c.isAlphanum || c == '_' || c == '-'

/-- A key, and the text after it. -/
def key (cs : List Char) : Reading String :=
  match cs with
  | '"' :: rest => quotedRest rest
  | _ =>
    if (cs.takeWhile isKeyChar).isEmpty then .error .malformed
    else .ok (String.ofList (cs.takeWhile isKeyChar), cs.dropWhile isKeyChar)

/-- The value that starts a text without layout before it, and the text after it. A value in
brackets or braces is read by `items` or `members` from the text after its opening character. -/
def valueWith (items members : List Char → Reading Json) (cs : List Char) : Reading Json :=
  match cs with
  | 't' :: 'r' :: 'u' :: 'e' :: rest => .ok (.bool true, rest)
  | 'f' :: 'a' :: 'l' :: 's' :: 'e' :: rest => .ok (.bool false, rest)
  | '"' :: rest => (quotedRest rest).map fun (text, rest) => (.string text, rest)
  | '\'' :: rest =>
    match rest with
    | c :: '\'' :: rest => .ok (.string (String.singleton c), rest)
    | _ => .error .malformed
  | '[' :: rest => items rest
  | '\x7b' :: rest => members rest
  | _ =>
    .ok (plainValue (cs.takeWhile fun c => !isSeparator c), cs.dropWhile fun c => !isSeparator c)

mutual

/-- A value with layout around it, and the text after it. -/
def value : (fuel : Nat) → List Char → Reading Json
  | 0, _ => .error .malformed
  | fuel + 1, cs =>
    (valueWith (items fuel []) (members fuel []) (skipLayout cs)).map fun (value, rest) =>
      (value, skipLayout rest)

/-- The remaining items of a list, after the items `done`, latest first. A comma may stand before
the closing bracket. -/
def items : (fuel : Nat) → (done : List Json) → List Char → Reading Json
  | 0, _, _ => .error .malformed
  | fuel + 1, done, cs =>
    match cs with
    | ']' :: rest => .ok (.array done.reverse, rest)
    | _ =>
      match value fuel cs with
      | .ok (item, ',' :: rest) => items fuel (item :: done) rest
      | .ok (item, ']' :: rest) => .ok (.array (item :: done).reverse, rest)
      | .ok _ => .error .malformed
      | .error fault => .error fault

/-- The remaining members of a mapping, after the members `done`, latest first. -/
def members : (fuel : Nat) → (done : List (String × Json)) → List Char → Reading Json
  | 0, _, _ => .error .malformed
  | fuel + 1, done, cs =>
    match cs with
    | '\x7d' :: rest => .ok (.object (Json.ascending done.reverse), rest)
    | _ =>
      match (key (skipLayout cs)).map fun (key, rest) => (key, skipLayout rest) with
      | .ok (key, '=' :: rest) =>
        match value fuel rest with
        | .ok (item, ',' :: rest) => members fuel ((key, item) :: done) rest
        | .ok (item, '\x7d' :: rest) =>
          .ok (.object (Json.ascending ((key, item) :: done).reverse), rest)
        | .ok _ => .error .malformed
        | .error fault => .error fault
      | .ok _ => .error .malformed
      | .error fault => .error fault

end

/-- The value of a line. There is none when a part of it that is kept ends within a character. -/
def read (text : String) : Option Json :=
  let cs := text.toList
  match value (2 * cs.length + 2) cs with
  | .ok (value, []) => some value
  | .error .splitCharacter => none
  | _ => some (.string text)

end Stepwise.Settings.Inline
