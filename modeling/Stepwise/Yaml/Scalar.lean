import Stepwise.Json
import Stepwise.Text.Number

/-!
# Scalars without quotes

A scalar without quotes is nothing, a truth value, an integer, a floating-point number, or else a
text. Integers are written in decimal or with the prefix `0x`, `0o` or `0b`, and have at most 128
bits. Decimal digits after a needless zero make a text.
-/

namespace Stepwise.Yaml.Scalar

open Text (digitsValue hexDigit? isAnyInt128 signed splitSign)

/-- The value of a row of digits below a base. -/
def digitsIn? (base : Nat) (cs : List Char) : Option Nat :=
  if cs.isEmpty then none
  else cs.foldlM (fun value c =>
    ((hexDigit? c).filter fun digit => digit < base).map (base * value + ·)) 0

/-- The magnitude of an integer. -/
def magnitude? (cs : List Char) : Option Nat :=
  match cs with
  | '0' :: 'x' :: digits => digitsIn? 16 digits
  | '0' :: 'o' :: digits => digitsIn? 8 digits
  | '0' :: 'b' :: digits => digitsIn? 2 digits
  | _ => digitsIn? 10 cs

/-- Several decimal digits of which the first is zero, after an optional sign. -/
def hasNeedlessZero (cs : List Char) : Bool :=
  match (splitSign cs).2 with
  | '0' :: c :: rest => (c :: rest).all Char.isDigit
  | _ => false

/-- An integer. -/
def integer? (cs : List Char) : Option Int :=
  if hasNeedlessZero cs then none
  else
    let (negative, rest) := splitSign cs
    ((magnitude? rest).map (signed negative)).filter isAnyInt128

/-- The words for numbers that are not finite. -/
def notFinite : List String :=
  [".inf", ".Inf", ".INF", "+.inf", "+.Inf", "+.INF", "-.inf", "-.Inf", "-.INF", ".nan", ".NaN",
    ".NAN"]

/-- A finite floating-point number. -/
def float? (cs : List Char) : Option Binary64 :=
  if hasNeedlessZero cs then none
  else (Decimal.ofChars? cs).bind fun (negative, d) => Binary64.nearest? negative d

/-- The value of a scalar without quotes. Numbers that are not finite have no document and are
nothing. -/
def value (text : String) : Json :=
  if text ∈ ["", "~", "null", "Null", "NULL"] ∨ text ∈ notFinite then .null
  else if text ∈ ["true", "True", "TRUE"] then .bool true
  else if text ∈ ["false", "False", "FALSE"] then .bool false
  else
    match integer? text.toList with
    | some n => .int n
    | none =>
      match float? text.toList with
      | some x => .float x
      | none => .string text

end Stepwise.Yaml.Scalar
