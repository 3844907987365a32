import Stepwise.Json
import Stepwise.Text.Number

/-!
# Reading documents

`Json.read` reads the text of one document. A number without fraction and exponent is an integer
when it lies in the range of signed or unsigned 64-bit integers; every other number is a
floating-point number. Nesting is bounded by a count that the length of the text always covers.
-/

namespace Stepwise.Json

/-- The white space that may stand around values. -/
def isSpace (c : Char) : Bool := c == ' ' || c == '\t' || c == '\n' || c == '\r'

/-- The text after white space. -/
def skipSpace (cs : List Char) : List Char := cs.dropWhile isSpace

/-- The character that a backslash makes of the character after it. -/
def unescaped? : Char → Option Char
  | '"' => some '"'
  | '\\' => some '\\'
  | '/' => some '/'
  | 'b' => some '\x08'
  | 'f' => some '\x0c'
  | 'n' => some '\n'
  | 'r' => some '\r'
  | 't' => some '\t'
  | _ => none

/-- The characters of a string after its opening quote, and the text after its closing quote.
Characters outside the basic plane are written as pairs of code units. -/
def stringRest (done : List Char) : List Char → Option (String × List Char)
  | [] => none
  | '"' :: rest => some (String.ofList done.reverse, rest)
  | '\\' :: 'u' :: a :: b :: c :: d :: rest =>
    match Text.hexValue? [a, b, c, d] with
    | none => none
    | some unit =>
      if 0xD800 ≤ unit ∧ unit < 0xDC00 then
        match rest with
        | '\\' :: 'u' :: a :: b :: c :: d :: rest =>
          match Text.hexValue? [a, b, c, d] with
          | none => none
          | some low =>
            if 0xDC00 ≤ low ∧ low < 0xE000 then
              stringRest
                (Char.ofNat (0x10000 + (unit - 0xD800) * 0x400 + (low - 0xDC00)) :: done) rest
            else none
        | _ => none
      else if 0xDC00 ≤ unit ∧ unit < 0xE000 then none
      else stringRest (Char.ofNat unit :: done) rest
  | '\\' :: c :: rest =>
    match unescaped? c with
    | some plain => stringRest (plain :: done) rest
    | none => none
  | c :: rest => if c < ' ' then none else stringRest (c :: done) rest

/-- The value of a digit. -/
def digitValue (c : Char) : Nat := c.toNat - '0'.toNat

/-- Appends digits to a significand for as long as it stays below `2 ^ 64`. Yields the significand
and the digits that were left out. -/
def absorb : (significand : Nat) → List Char → Nat × List Char
  | significand, [] => (significand, [])
  | significand, c :: rest =>
    let next := significand * 10 + digitValue c
    if next < 0x10000000000000000 then absorb next rest else (significand, c :: rest)

/-- An exponent of a number, after the letter, and the text after it. -/
def exponent? (cs : List Char) : Option (Int × List Char) :=
  let (negative, cs) := match cs with
    | '+' :: rest => (false, rest)
    | '-' :: rest => (true, rest)
    | _ => (false, cs)
  let digits := cs.takeWhile Char.isDigit
  if digits.isEmpty then none
  else
    let size : Int := digits.foldl (fun value c => value * 10 + digitValue c) 0
    some (if negative then -size else size, cs.dropWhile Char.isDigit)

/-- The value of a number that is written with a whole part, a fraction and an exponent. -/
def floatOf (negative : Bool) (whole fraction : List Char) (exponent : Int) : Option Json :=
  let (significand, dropped) := absorb 0 whole
  let (significand, unused) := absorb significand fraction
  (Binary64.ofScaled? negative significand
    (exponent + dropped.length - (fraction.length - unused.length : Nat))).map float

/-- The value of a number that is written with digits only. -/
def integerOf (negative : Bool) (whole : List Char) : Option Json :=
  let size := whole.foldl (fun value c => value * 10 + digitValue c) 0
  if negative then
    if 0 < size ∧ size ≤ 0x8000000000000000 then some (int (-size)) else floatOf true whole [] 0
  else if size < 0x10000000000000000 then some (int size)
  else floatOf false whole [] 0

/-- A number after its sign, and the text after it. -/
def magnitude? (negative : Bool) (cs : List Char) : Option (Json × List Char) := do
  let whole := cs.takeWhile Char.isDigit
  let rest := cs.dropWhile Char.isDigit
  guard (!whole.isEmpty && (whole.length == 1 || whole.head? != some '0'))
  let (fraction, rest) ← match rest with
    | '.' :: rest =>
      if (rest.takeWhile Char.isDigit).isEmpty then none
      else some (some (rest.takeWhile Char.isDigit), rest.dropWhile Char.isDigit)
    | _ => some (none, rest)
  let (exponent, rest) ← match rest with
    | 'e' :: rest | 'E' :: rest => (exponent? rest).map fun (e, rest) => (some e, rest)
    | _ => some (none, rest)
  let value ← match fraction, exponent with
    | none, none => integerOf negative whole
    | _, _ => floatOf negative whole (fraction.getD []) (exponent.getD 0)
  return (value, rest)

/-- A number, and the text after it. -/
def number? (cs : List Char) : Option (Json × List Char) :=
  match cs with
  | '-' :: rest => magnitude? true rest
  | _ => magnitude? false cs

mutual

/-- A value, with white space before it, and the text after it. -/
def value? : (fuel : Nat) → List Char → Option (Json × List Char)
  | 0, _ => none
  | fuel + 1, cs =>
    match skipSpace cs with
    | '{' :: rest =>
      match skipSpace rest with
      | '}' :: rest => some (object [], rest)
      | rest => members fuel [] rest
    | '[' :: rest =>
      match skipSpace rest with
      | ']' :: rest => some (array [], rest)
      | rest => items fuel [] rest
    | '"' :: rest => (stringRest [] rest).map fun (s, rest) => (string s, rest)
    | 't' :: 'r' :: 'u' :: 'e' :: rest => some (bool true, rest)
    | 'f' :: 'a' :: 'l' :: 's' :: 'e' :: rest => some (bool false, rest)
    | 'n' :: 'u' :: 'l' :: 'l' :: rest => some (null, rest)
    | rest => number? rest

/-- The remaining items of an array, after the items `done`, latest first. -/
def items : (fuel : Nat) → (done : List Json) → List Char → Option (Json × List Char)
  | 0, _, _ => none
  | fuel + 1, done, cs =>
    match value? fuel cs with
    | none => none
    | some (item, rest) =>
      match skipSpace rest with
      | ',' :: rest => items fuel (item :: done) rest
      | ']' :: rest => some (array (item :: done).reverse, rest)
      | _ => none

/-- The remaining members of an object, after the members `done`, latest first. -/
def members : (fuel : Nat) → (done : List (String × Json)) → List Char → Option (Json × List Char)
  | 0, _, _ => none
  | fuel + 1, done, cs =>
    match skipSpace cs with
    | '"' :: rest =>
      match stringRest [] rest with
      | none => none
      | some (key, rest) =>
        match skipSpace rest with
        | ':' :: rest =>
          match value? fuel rest with
          | none => none
          | some (item, rest) =>
            match skipSpace rest with
            | ',' :: rest => members fuel ((key, item) :: done) rest
            | '}' :: rest => some (object ((key, item) :: done).reverse, rest)
            | _ => none
        | _ => none
    | _ => none

end

/-- The document that a text denotes. -/
def read (text : String) : Option Json :=
  let cs := text.toList
  match value? (cs.length + 1) cs with
  | some (document, rest) => if (skipSpace rest).isEmpty then some document else none
  | none => none

end Stepwise.Json
