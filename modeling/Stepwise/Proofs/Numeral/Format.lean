import Mathlib.Algebra.Order.Field.Basic
import Stepwise.Proofs.Numeral
import Stepwise.Proofs.Token.Layout
import Stepwise.Token.Layout

/-!
# What the text of a numeral tells

The tests for magnitudes and numerals decide their formats (`Numeral.isMagnitude_iff_mem`,
`Numeral.isNumeral_iff_mem`), and the test on the text that decides whether a numeral gets a sign
decides whether its number is zero (`Numeral.magnitudeValue_eq_zero_iff`).
-/

namespace Stepwise.Numeral

/-!
## Numerals are recognised by their format

Splitting at the point and testing both sides decides `digit+ ('.' digit+)?`
(`isMagnitude_iff_mem`), and taking off a sign first decides the format of numerals
(`isNumeral_iff_mem`).
-/

open Computability

theorem isDigit_of_mem_kstar {cs : List Char} (h : cs ∈ digit∗) :
    ∀ c ∈ cs, c.isDigit = true := by
  obtain ⟨parts, rfl, all⟩ := Language.mem_kstar.1 h
  intro c mem
  obtain ⟨part, within, mem⟩ := List.mem_flatten.1 mem
  obtain ⟨d, isDigit, rfl⟩ := all part within
  rwa [List.mem_singleton.1 mem]

theorem mem_kstar_of_isDigit {cs : List Char} (h : ∀ c ∈ cs, c.isDigit = true) :
    cs ∈ digit∗ := by
  refine Language.mem_kstar.2 ⟨cs.map fun c => [c], ?_, ?_⟩
  · rw [← List.flatMap_def, List.flatMap_singleton']
  · intro part mem
    obtain ⟨c, within, rfl⟩ := List.mem_map.1 mem
    exact ⟨c, h c within, rfl⟩

theorem isDigits_iff_mem {cs : List Char} : isDigits cs = true ↔ cs ∈ digitRows := by
  rw [isDigits_iff, digitRows, Language.mem_mul]
  constructor
  · rintro ⟨nonempty, all⟩
    obtain ⟨c, rest, rfl⟩ := List.exists_cons_of_ne_nil nonempty
    obtain ⟨first, others⟩ := List.forall_mem_cons.1 all
    exact ⟨[c], ⟨c, first, rfl⟩, rest, mem_kstar_of_isDigit others, rfl⟩
  · rintro ⟨_, ⟨c, first, rfl⟩, rest, mem, rfl⟩
    exact ⟨nofun, List.forall_mem_cons.2 ⟨first, isDigit_of_mem_kstar mem⟩⟩

/-- The test for magnitudes decides their format. -/
theorem isMagnitude_iff_mem {cs : List Char} : isMagnitude cs = true ↔ cs ∈ magnitudes := by
  simp only [isMagnitude_iff, isDigits_iff_mem, magnitudes, Language.mem_mul, Language.mem_add,
    Language.mem_one]
  constructor
  · rintro (digits | ⟨whole, fraction, rfl, left, right⟩)
    · exact ⟨cs, digits, [], .inl rfl, List.append_nil cs⟩
    · exact ⟨whole, left, '.' :: fraction, .inr ⟨['.'], rfl, fraction, right, rfl⟩, rfl⟩
  · rintro ⟨whole, left, rest, rfl | ⟨_, rfl, fraction, right, rfl⟩, rfl⟩
    · exact .inl (by rwa [List.append_nil])
    · exact .inr ⟨whole, fraction, rfl, left, right⟩

/-- The test for numerals decides their format. -/
theorem isNumeral_iff_mem {text : String} : isNumeral text = true ↔ text.toList ∈ numerals := by
  simp only [isNumeral_iff, isMagnitude_iff_mem, numerals, Language.mem_mul, Language.mem_add,
    Language.mem_one]
  constructor
  · rintro (plain | ⟨magnitude, eq, plain⟩)
    · exact ⟨[], .inl rfl, text.toList, plain, rfl⟩
    · exact ⟨['-'], .inr rfl, magnitude, plain, eq.symm⟩
  · rintro ⟨_, rfl | rfl, magnitude, plain, eq⟩
    · exact .inl (eq ▸ plain)
    · exact .inr ⟨magnitude, eq.symm, plain⟩

/-!
## Numerals that stand for zero

A magnitude is zero exactly if all its digits are `0` (`magnitudeValue_eq_zero_iff`). So the test on
the text that decides whether a numeral gets a sign decides whether its number is zero. A zero that
has a sign is the only numeral that is not what it becomes when it is negated twice
(`negate_negate_iff`).
-/

open Text (digitsValue)

@[simp] theorem digitsValue_concat (cs : List Char) (c : Char) :
    digitsValue (cs ++ [c]) = digitsValue cs * 10 + (c.toNat - '0'.toNat) := by
  simp [digitsValue]

/-- Digits of no value are zeros. -/
theorem isZeroText_of_digitsValue {cs : List Char} (digits : ∀ c ∈ cs, c.isDigit = true)
    (zero : digitsValue cs = 0) : isZeroText cs = true := by
  induction cs using List.reverseRecOn with
  | nil => rfl
  | append_singleton cs c ih =>
    rw [digitsValue_concat] at zero
    obtain ⟨others, last⟩ := List.forall_mem_append.1 digits
    have least : 48 ≤ c.toNat := (Text.toNat_of_isDigit (last c List.mem_cons_self)).1
    have point : c.toNat - 48 = 0 := by
      have : '0'.toNat = 48 := rfl
      omega
    have isZero : c = '0' := Char.toNat_inj.1 (by change c.toNat = 48; omega)
    have before := ih others (by omega)
    rw [isZeroText, List.all_append, ← isZeroText, before, isZero]
    rfl

theorem isZeroText_of_magnitudeValue {cs : List Char} (h : isMagnitude cs = true)
    (zero : magnitudeValue cs = 0) : isZeroText cs = true := by
  have zeros {ds : List Char} (digits : isDigits ds = true) (none : (digitsValue ds : Rat) = 0) :
      isZeroText ds = true :=
    isZeroText_of_digitsValue (isDigits_iff.1 digits).2 (by exact_mod_cast none)
  rcases isMagnitude_iff.1 h with digits | ⟨whole, fraction, rfl, left, right⟩
  · simp only [magnitudeValue, dropWhile_of_isDigits digits] at zero
    exact zeros digits zero
  · obtain ⟨before, after⟩ := split_of_isDigits left fraction
    simp only [magnitudeValue, after, before] at zero
    have scale : (Nat.pow 10 fraction.length : Rat) ≠ 0 := by
      exact_mod_cast (Nat.pow_pos (by decide)).ne'
    obtain ⟨wholeZero, fractionZero⟩ :=
      (add_eq_zero_iff_of_nonneg (Nat.cast_nonneg _)
        (div_nonneg (Nat.cast_nonneg _) (Nat.cast_nonneg _))).1 zero
    have inWhole := zeros left wholeZero
    have inFraction := zeros right ((div_eq_zero_iff.1 fractionZero).resolve_right scale)
    rw [isZeroText] at inWhole inFraction ⊢
    rw [List.all_append, List.all_cons, inWhole, inFraction]
    rfl

/-- The text of a magnitude tells whether it is zero. -/
theorem magnitudeValue_eq_zero_iff {cs : List Char} (h : isMagnitude cs = true) :
    magnitudeValue cs = 0 ↔ isZeroText cs = true :=
  ⟨isZeroText_of_magnitudeValue h, magnitudeValue_of_isZeroText⟩

@[simp] theorem toList_minus (text : String) : ("-" ++ text).toList = '-' :: text.toList :=
  String.toList_append

theorem eq_minus_of_toList {text : String} {rest : List Char} (h : text.toList = '-' :: rest) :
    text = "-" ++ String.ofList rest := by
  apply String.toList_injective
  rw [toList_minus, String.toList_ofList, h]

/-- The numerals in which zero has no sign are those that are no zero with a sign. -/
theorem isCanonical_iff {text : String} :
    IsCanonical text ↔ isNumeral text = true ∧ ¬ IsSignedZero text := by
  constructor
  · intro canonical
    refine ⟨isNumeral_of_isCanonical canonical, ?_⟩
    rintro ⟨⟨rest, rfl⟩, zero⟩
    rw [value_of_signed (toList_minus rest), neg_eq_zero] at zero
    rcases canonical with plain | ⟨magnitude, signed, plain, nonzero⟩
    · rw [toList_minus] at plain
      exact not_isMagnitude_minus rest.toList plain
    · rw [toList_minus] at signed
      obtain ⟨-, rfl⟩ := List.cons.inj signed
      rw [isZeroText_of_magnitudeValue plain zero] at nonzero
      cases nonzero
  · rintro ⟨numeral, noSignedZero⟩
    rcases isNumeral_iff.1 numeral with plain | ⟨magnitude, signed, plain⟩
    · exact .inl plain
    · have nonzero : isZeroText magnitude = false := by
        refine Bool.eq_false_iff.2 fun zero => noSignedZero ⟨⟨_, eq_minus_of_toList signed⟩, ?_⟩
        rw [value_of_signed signed, magnitudeValue_of_isZeroText zero, neg_zero]
      exact .inr ⟨magnitude, signed, plain, nonzero⟩

/-- Negating a numeral twice gives it back, unless it is a zero with a sign. -/
theorem negate_negate_iff {text : String} (h : isNumeral text = true) :
    negate (negate text) = text ↔ ¬ IsSignedZero text := by
  constructor
  · intro twice
    have canonical := isCanonical_negate_of_isNumeral (isNumeral_negate h)
    rw [twice] at canonical
    exact (isCanonical_iff.1 canonical).2
  · intro noSignedZero
    exact negate_negate (isCanonical_iff.2 ⟨h, noSignedZero⟩)

end Stepwise.Numeral
