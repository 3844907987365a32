import Stepwise.Text.Number

/-!
# Floating-point numbers of documents

A number of a document that is written with a fraction or an exponent is a 64-bit binary
floating-point number. `Binary64` holds its bits. `shortest` is the decimal with the fewest digits
that lies closer to the number than to any other, in exact integer arithmetic, and `text` writes
that decimal out.
-/

namespace Stepwise

/-- A 64-bit floating-point number: one sign bit, 11 bits of exponent, 52 bits of fraction. -/
structure Binary64 where
  bits : UInt64
deriving DecidableEq, Repr

namespace Binary64

/-- The sign bit is set. -/
def isNegative (x : Binary64) : Bool := x.bits >>> 63 == 1

/-- The bits of the exponent. -/
def exponentField (x : Binary64) : Nat := (x.bits >>> 52 &&& 0x7FF).toNat

/-- The bits of the fraction. -/
def fractionField (x : Binary64) : Nat := (x.bits &&& 0xFFFFFFFFFFFFF).toNat

/-- The magnitude is `x.significand * 2 ^ x.scale`. -/
def significand (x : Binary64) : Nat :=
  if x.exponentField = 0 then x.fractionField
  else 0x10000000000000 + x.fractionField

/-- The power of two of the magnitude. -/
def scale (x : Binary64) : Int :=
  if x.exponentField = 0 then -1074 else (x.exponentField : Int) - 1075

/-- `n * base ^ e` as a quotient of natural numbers. -/
def scaled (n base : Nat) (e : Int) : Nat × Nat :=
  if 0 ≤ e then (n * Nat.pow base e.toNat, 1) else (n, Nat.pow base (-e).toNat)

/-- The numbers `a * 10 ^ e` and `b * 2 ^ s`, in that order, on a common scale. -/
def onCommonScale (a : Nat) (e : Int) (b : Nat) (s : Int) : Nat × Nat :=
  let p := scaled a 10 e
  let q := scaled b 2 s
  (p.1 * q.2, q.1 * p.2)

/-- The least `k` with `num < den * 10 ^ k`, searched upwards from `k` through `fuel` values. -/
def magnitudeFrom (num den : Nat) : (fuel : Nat) → (k : Int) → Int
  | 0, k => k
  | fuel + 1, k =>
    let p := scaled 1 10 k
    if num * p.2 < den * p.1 then k else magnitudeFrom num den fuel (k + 1)

/-- The ends of the interval of numbers that round to `x`, in quarters of its last place. The lower
end is closer where the significand is the least of its exponent. -/
def interval (x : Binary64) : Nat × Nat :=
  let m := x.significand
  (if x.fractionField = 0 ∧ 1 < x.exponentField then 4 * m - 1 else 4 * m - 2, 4 * m + 2)

/-- The decimal `d * 10 ^ e` rounds to `x`. The ends of the interval do so when the significand is
even. -/
def roundsTo (x : Binary64) (d : Nat) (e : Int) : Bool :=
  let lower := onCommonScale d e x.interval.1 (x.scale - 2)
  let upper := onCommonScale d e x.interval.2 (x.scale - 2)
  if x.significand % 2 = 0 then decide (lower.2 ≤ lower.1) && decide (upper.1 ≤ upper.2)
  else decide (lower.2 < lower.1) && decide (upper.1 < upper.2)

/-- Of the two multiples of `10 ^ e` around `x`, those that round to `x`, the nearer one first. -/
def neighbours (x : Binary64) (e : Int) : List Nat :=
  let v := scaled x.significand 2 x.scale
  let step := scaled 1 10 e
  let num := v.1 * step.2
  let den := v.2 * step.1
  let below := num / den
  let gap := num % den
  let pair := if 2 * gap < den ∨ (2 * gap = den ∧ below % 2 = 0) then [below, below + 1]
    else [below + 1, below]
  pair.filter fun d => decide (0 < d) && x.roundsTo d e

/-- Tries grids of one digit more each time, through `fuel` grids. -/
def shortestFrom (x : Binary64) (magnitude : Int) : (fuel : Nat) → (count : Nat) → Decimal
  | 0, _ => ⟨0, 0⟩
  | fuel + 1, count =>
    match x.neighbours (magnitude - count) with
    | d :: _ => ⟨d, magnitude - count⟩
    | [] => shortestFrom x magnitude fuel (count + 1)

/-- The decimal with the fewest digits that rounds to the magnitude of `x`, which is not zero; of
two with equally many digits the nearer one. Seventeen digits always suffice. -/
def shortest (x : Binary64) : Decimal :=
  let v := scaled x.significand 2 x.scale
  shortestFrom x (magnitudeFrom v.1 v.2 640 (-325)) 17 1

/-- The digits without final zeros, which count for the exponent instead. -/
def trimmed : (fuel : Nat) → Decimal → Decimal
  | 0, d => d
  | fuel + 1, d =>
    if d.digits ≠ 0 ∧ d.digits % 10 = 0 then trimmed fuel ⟨d.digits / 10, d.exponent + 1⟩ else d

/-- Writes a decimal: without exponent between `1e-5` and `1e16`, always with a point there, and
otherwise with a signed exponent and a point only after the first of several digits. -/
def decimalText (d : Decimal) : String :=
  let ds := Nat.toDigits 10 d.digits
  let point : Int := ds.length + d.exponent
  if 0 ≤ d.exponent ∧ point ≤ 16 then
    String.ofList (ds ++ List.replicate d.exponent.toNat '0' ++ ['.', '0'])
  else if 0 < point ∧ point ≤ 16 then
    String.ofList (ds.take point.toNat ++ '.' :: ds.drop point.toNat)
  else if -5 < point ∧ point ≤ 0 then
    String.ofList ('0' :: '.' :: (List.replicate (-point).toNat '0' ++ ds))
  else
    let rest := ds.drop 1
    String.ofList (ds.take 1 ++ (if rest.isEmpty then [] else '.' :: rest)) ++ "e" ++
      (if 0 < point then "+" else "") ++ toString (point - 1)

/-- The text of a number. -/
def text (x : Binary64) : String :=
  let magnitude := if x.significand = 0 then "0.0" else decimalText (trimmed 20 x.shortest)
  if x.isNegative then "-" ++ magnitude else magnitude

/-- `value * 10 ^ exponent`, computed with one multiplication or division for each power of ten that
is itself a finite number. Nothing when the result is too large. -/
def scaleFloat : (fuel : Nat) → (value : Float) → (exponent : Int) → Option Float
  | 0, value, _ => some value
  | fuel + 1, value, exponent =>
    if exponent.natAbs ≤ 308 then
      let power := Float.ofScientific 1 false exponent.natAbs
      if 0 ≤ exponent then
        let product := value * power
        if product.isInf then none else some product
      else some (value / power)
    else if value == 0.0 then some value
    else if 0 ≤ exponent then none
    else scaleFloat fuel (value / Float.ofScientific 1 false 308) (exponent + 308)

/-- The number `± significand * 10 ^ exponent`, for a significand below `2 ^ 64`. -/
def ofScaled? (negative : Bool) (significand : Nat) (exponent : Int) : Option Binary64 :=
  (scaleFloat 4 (UInt64.ofNat significand).toFloat exponent).map fun magnitude =>
    ⟨(if negative then -magnitude else magnitude).toBits⟩

/-- The quotient rounded to the nearest integer; a tie goes to the even one. -/
def roundedQuotient (num den : Nat) : Nat :=
  let below := num / den
  let rest := num % den
  if den < 2 * rest ∨ (2 * rest = den ∧ below % 2 = 1) then below + 1 else below

/-- The bits of the magnitude nearest to the positive quotient `num / den`; a tie goes to the even
significand. Nothing where the magnitude is too large. A significand that is rounded up to the next
power of two carries into the exponent, as it should. -/
def nearestBits? (num den : Nat) : Option Nat :=
  let guess : Int := max (-1074) ((num.log2 : Int) - den.log2 - 53)
  let onGrid (e : Int) : Nat × Nat :=
    let step := scaled 1 2 e
    (num * step.2, den * step.1)
  let e := if (onGrid guess).2 * 0x20000000000000 ≤ (onGrid guess).1 then guess + 1 else guess
  let bits := (e + 1074).toNat * 0x10000000000000 + roundedQuotient (onGrid e).1 (onGrid e).2
  if bits < 0x7FF0000000000000 then some bits else none

/-- The number nearest to `± d`, if that is finite. Decimals far beyond all finite numbers, and far
below the least of them, are not computed. -/
def nearest? (negative : Bool) (d : Decimal) : Option Binary64 :=
  let point := ((Nat.toDigits 10 d.digits).length : Int) + d.exponent
  let bits :=
    if d.digits = 0 ∨ point < -400 then some 0
    else if 400 < point then none
    else
      let quotient := scaled d.digits 10 d.exponent
      nearestBits? quotient.1 quotient.2
  bits.map fun bits => ⟨UInt64.ofNat (if negative then 0x8000000000000000 + bits else bits)⟩

end Binary64

end Stepwise
