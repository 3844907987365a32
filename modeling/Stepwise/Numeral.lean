import Stepwise.Text.Number

/-!
# Numerals

A numeral is the text of a decimal number: an optional minus sign, digits, and optionally a point
with more digits. Texts are kept exactly as written, so `007` and `7` are different numerals of
the same number. `isNumeral` recognises them and `negate` flips the sign on the text alone.
-/

namespace Stepwise.Numeral

/-- At least one ASCII digit, and nothing else. -/
def isDigits (cs : List Char) : Bool :=
  !cs.isEmpty && cs.all Char.isDigit

/-- Digits, optionally followed by a point and digits. -/
def isMagnitude (cs : List Char) : Bool :=
  match cs.dropWhile (· != '.') with
  | [] => isDigits cs
  | _ :: fraction => isDigits (cs.takeWhile (· != '.')) && isDigits fraction

/-- The text without one leading minus sign. -/
def unsigned (cs : List Char) : List Char :=
  match cs with
  | '-' :: rest => rest
  | _ => cs

/-- The text is a numeral. -/
def isNumeral (text : String) : Bool :=
  isMagnitude (unsigned text.toList)

/-- The characters of a numeral that stands for zero. -/
def isZeroText (cs : List Char) : Bool :=
  cs.all fun c => c == '0' || c == '.'

/-- The numeral of the opposite number. Zero keeps no sign. -/
def negate (text : String) : String :=
  match text.toList with
  | '-' :: magnitude => String.ofList magnitude
  | cs => if isZeroText cs then text else String.ofList ('-' :: cs)

/-!
## The numbers that numerals stand for

Values are exact rationals, so no digit after the point is lost.
-/

open Text (digitsValue)

/-- The number that digits, and a point with more digits, stand for. -/
def magnitudeValue (cs : List Char) : Rat :=
  match cs.dropWhile (· != '.') with
  | [] => (digitsValue cs : Rat)
  | _ :: fraction =>
    (digitsValue (cs.takeWhile (· != '.')) : Rat) +
      (digitsValue fraction : Rat) / (Nat.pow 10 fraction.length : Rat)

/-- The number that a numeral stands for. -/
def value (text : String) : Rat :=
  match text.toList with
  | '-' :: magnitude => -magnitudeValue magnitude
  | cs => magnitudeValue cs

/-- A zero with a minus sign before it, such as `-0` or `-0.00`. -/
def IsSignedZero (text : String) : Prop :=
  (∃ zero, text = "-" ++ zero) ∧ value text = 0

end Stepwise.Numeral
