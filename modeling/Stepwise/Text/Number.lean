/-!
# Numbers in text

Integers in decimal digits, rows of hexadecimal digits, and decimals with a point and an exponent.
-/

namespace Stepwise

namespace Text

/-! ## Integers in text -/

/-- The number that a row of decimal digits stands for. -/
def digitsValue (cs : List Char) : Nat :=
  cs.foldl (fun value c => value * 10 + (c.toNat - '0'.toNat)) 0

/-- An optional sign, and the text after it. -/
def splitSign (cs : List Char) : Bool × List Char :=
  match cs with
  | '-' :: rest => (true, rest)
  | '+' :: rest => (false, rest)
  | _ => (false, cs)

/-- The integer of a sign and a magnitude. -/
def signed (negative : Bool) (magnitude : Nat) : Int :=
  if negative then -(magnitude : Int) else magnitude

/-- An integer: an optional sign and at least one decimal digit. -/
def integer? (cs : List Char) : Option Int :=
  let (negative, digits) := splitSign cs
  if digits.isEmpty || !digits.all Char.isDigit then none
  else some (signed negative (digitsValue digits))

/-- The integer has a signed form of 64 bits. -/
def isInt64 (n : Int) : Bool :=
  decide (-0x8000000000000000 ≤ n) && decide (n < 0x8000000000000000)

/-- The integer has a signed or an unsigned form of 64 bits. -/
def isAnyInt64 (n : Int) : Bool :=
  decide (-0x8000000000000000 ≤ n) && decide (n < 0x10000000000000000)

/-- The integer has a signed or an unsigned form of 128 bits. -/
def isAnyInt128 (n : Int) : Bool :=
  decide (-0x80000000000000000000000000000000 ≤ n) &&
    decide (n < 0x100000000000000000000000000000000)

/-- An integer that has a signed form of 64 bits. -/
def int64? (cs : List Char) : Option Int := (integer? cs).filter isInt64

/-- An integer that has a signed or an unsigned form of 64 bits. -/
def anyInt64? (cs : List Char) : Option Int := (integer? cs).filter isAnyInt64

/-! ## Hexadecimal digits -/

/-- The value of a hexadecimal digit, in either case. -/
def hexDigit? (c : Char) : Option Nat :=
  if '0' ≤ c ∧ c ≤ '9' then some (c.toNat - '0'.toNat)
  else if 'a' ≤ c ∧ c ≤ 'f' then some (c.toNat - 'a'.toNat + 10)
  else if 'A' ≤ c ∧ c ≤ 'F' then some (c.toNat - 'A'.toNat + 10)
  else none

/-- The value of a row of hexadecimal digits, most significant first. -/
def hexValue? (cs : List Char) : Option Nat :=
  cs.foldlM (fun value c => (hexDigit? c).map (16 * value + ·)) 0

/-- The character whose code point is written in hexadecimal digits. Surrogates are none. -/
def codePoint? (digits : List Char) : Option Char :=
  (hexValue? digits).bind fun point =>
    if point < 0xD800 ∨ (0xE000 ≤ point ∧ point < 0x110000) then some (Char.ofNat point) else none

/-- The lower-case hexadecimal digit of a value below 16. -/
def hexChar (value : Nat) : Char :=
  if value < 10 then Char.ofNat (value + '0'.toNat) else Char.ofNat (value - 10 + 'a'.toNat)

/-- The lowest `count` hexadecimal digits of `value`, most significant first. -/
def hexChars : (count : Nat) → (value : Nat) → List Char
  | 0, _ => []
  | count + 1, value => hexChars count (value / 16) ++ [hexChar (value % 16)]

@[simp] theorem length_hexChars (count value : Nat) : (hexChars count value).length = count := by
  induction count generalizing value with
  | zero => rfl
  | succ count ih => simp [hexChars, ih]

end Text

/-!
## Decimals

A decimal is written with an optional sign, digits with a point anywhere before, between or after
them, and an optional exponent. At least one digit stands before the exponent, and at least one
follows its letter.
-/

/-- The number `digits * 10 ^ exponent`. -/
structure Decimal where
  digits : Nat
  exponent : Int
deriving DecidableEq, Repr

namespace Decimal

open Text (digitsValue signed splitSign)

/-- The exponent at the end of a decimal; zero where there is none. -/
def exponent? (cs : List Char) : Option Int :=
  match cs with
  | [] => some 0
  | letter :: rest =>
    let (negative, digits) := splitSign rest
    if (letter = 'e' ∨ letter = 'E') ∧ digits ≠ [] ∧ digits.all Char.isDigit = true then
      some (signed negative (digitsValue digits))
    else none

/-- The sign of a decimal, which is true for a minus, and its magnitude. -/
def ofChars? (cs : List Char) : Option (Bool × Decimal) :=
  let (negative, cs) := splitSign cs
  let whole := cs.takeWhile Char.isDigit
  let (fraction, rest) := match cs.dropWhile Char.isDigit with
    | '.' :: rest => (rest.takeWhile Char.isDigit, rest.dropWhile Char.isDigit)
    | rest => ([], rest)
  if whole.isEmpty && fraction.isEmpty then none
  else (exponent? rest).map fun exponent =>
    (negative, ⟨digitsValue (whole ++ fraction), exponent - fraction.length⟩)

end Decimal

end Stepwise
