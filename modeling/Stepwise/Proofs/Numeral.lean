import Mathlib.Algebra.Order.Field.Rat
import Mathlib.Data.List.TakeWhile
import Stepwise.Numeral

/-!
# Numerals and their signs

A magnitude is a row of digits, or two such rows with a point between them, and a numeral is a
magnitude with or without a minus sign. Main statements here: negating a numeral gives a numeral
(`isNumeral_negate`) of the opposite number (`value_negate`), and where zero has no sign, negating
twice gives the text back (`negate_negate`).
-/

namespace Stepwise.Numeral

open Text (digitsValue)

theorem isDigits_iff {cs : List Char} :
    isDigits cs = true ↔ cs ≠ [] ∧ ∀ c ∈ cs, c.isDigit = true := by
  simp [isDigits]

theorem isDigit_ne_point {c : Char} (h : c.isDigit = true) : c ≠ '.' := by
  rintro rfl
  exact absurd h (by decide)

theorem bne_point_of_isDigits {cs : List Char} (h : isDigits cs = true) :
    ∀ c ∈ cs, (c != '.') = true := by
  intro c mem
  have digit := (isDigits_iff.1 h).2 c mem
  simpa using isDigit_ne_point digit

theorem dropWhile_of_isDigits {cs : List Char} (h : isDigits cs = true) :
    cs.dropWhile (· != '.') = [] :=
  List.dropWhile_eq_nil_iff.2 (bne_point_of_isDigits h)

/-- Behind digits the text is split at the first point. -/
theorem split_of_isDigits {whole : List Char} (h : isDigits whole = true) (fraction : List Char) :
    (whole ++ '.' :: fraction).takeWhile (· != '.') = whole ∧
      (whole ++ '.' :: fraction).dropWhile (· != '.') = '.' :: fraction := by
  have before := bne_point_of_isDigits h
  rw [List.takeWhile_append_of_pos before, List.dropWhile_append_of_pos before]
  simp

/-- A magnitude is digits alone, or digits on both sides of a point. -/
theorem isMagnitude_iff {cs : List Char} :
    isMagnitude cs = true ↔ isDigits cs = true ∨ ∃ whole fraction,
      cs = whole ++ '.' :: fraction ∧ isDigits whole = true ∧ isDigits fraction = true := by
  constructor
  · intro h
    unfold isMagnitude at h
    split at h
    next => exact .inl h
    next point fraction eq =>
      have isPoint : point = '.' := by
        have stops := List.head?_dropWhile_not (· != '.') cs
        rw [eq] at stops
        simpa using stops
      subst isPoint
      rw [Bool.and_eq_true] at h
      refine .inr ⟨cs.takeWhile (· != '.'), fraction, ?_, h.1, h.2⟩
      rw [← eq, List.takeWhile_append_dropWhile]
  · rintro (digits | ⟨whole, fraction, rfl, left, right⟩)
    · simp only [isMagnitude, dropWhile_of_isDigits digits, digits]
    · obtain ⟨before, after⟩ := split_of_isDigits left fraction
      simp only [isMagnitude, after, before, left, right, Bool.and_self]

/-- A magnitude starts with a digit. -/
theorem isDigit_head_of_isMagnitude {cs : List Char} (h : isMagnitude cs = true) :
    ∃ c rest, cs = c :: rest ∧ c.isDigit = true := by
  have starts {ds : List Char} (digits : isDigits ds = true) :
      ∃ c rest, ds = c :: rest ∧ c.isDigit = true := by
    obtain ⟨nonempty, all⟩ := isDigits_iff.1 digits
    obtain ⟨c, rest, rfl⟩ := List.exists_cons_of_ne_nil nonempty
    exact ⟨c, rest, rfl, all c List.mem_cons_self⟩
  rcases isMagnitude_iff.1 h with digits | ⟨whole, fraction, rfl, left, -⟩
  · exact starts digits
  · obtain ⟨c, rest, rfl, digit⟩ := starts left
    exact ⟨c, rest ++ '.' :: fraction, rfl, digit⟩

theorem not_isMagnitude_minus (cs : List Char) : isMagnitude ('-' :: cs) ≠ true := by
  intro h
  obtain ⟨c, rest, eq, digit⟩ := isDigit_head_of_isMagnitude h
  obtain ⟨rfl, -⟩ := List.cons.inj eq
  exact absurd digit (by decide)

theorem unsigned_of_isMagnitude {cs : List Char} (h : isMagnitude cs = true) :
    unsigned cs = cs := by
  unfold unsigned
  split
  · exact absurd h (not_isMagnitude_minus _)
  · rfl

/-- A numeral is a magnitude, or one after a minus sign. -/
theorem isNumeral_iff {text : String} :
    isNumeral text = true ↔ isMagnitude text.toList = true ∨
      ∃ magnitude, text.toList = '-' :: magnitude ∧ isMagnitude magnitude = true := by
  unfold isNumeral
  constructor
  · intro h
    unfold unsigned at h
    split at h
    next magnitude eq => exact .inr ⟨magnitude, eq, h⟩
    next => exact .inl h
  · rintro (h | ⟨magnitude, eq, h⟩)
    · rw [unsigned_of_isMagnitude h]; exact h
    · rw [eq]; exact h

theorem negate_of_isMagnitude {text : String} (h : isMagnitude text.toList = true) :
    negate text = if isZeroText text.toList then text else String.ofList ('-' :: text.toList) := by
  unfold negate
  split
  next magnitude eq => exact absurd (eq ▸ h) (not_isMagnitude_minus magnitude)
  next => rfl

theorem negate_of_signed {text : String} {magnitude : List Char}
    (h : text.toList = '-' :: magnitude) : negate text = String.ofList magnitude := by
  simp only [negate, h]

theorem value_of_isMagnitude {text : String} (h : isMagnitude text.toList = true) :
    value text = magnitudeValue text.toList := by
  unfold value
  split
  next magnitude eq => exact absurd (eq ▸ h) (not_isMagnitude_minus magnitude)
  next => rfl

theorem value_of_signed {text : String} {magnitude : List Char}
    (h : text.toList = '-' :: magnitude) : value text = -magnitudeValue magnitude := by
  simp only [value, h]

/-- Negating a numeral gives a numeral. -/
theorem isNumeral_negate {text : String} (h : isNumeral text = true) :
    isNumeral (negate text) = true := by
  rcases isNumeral_iff.1 h with plain | ⟨magnitude, eq, plain⟩
  · rw [negate_of_isMagnitude plain]
    split
    · exact h
    · exact isNumeral_iff.2 (.inr ⟨_, String.toList_ofList, plain⟩)
  · rw [negate_of_signed eq]
    exact isNumeral_iff.2 (.inl (by rwa [String.toList_ofList]))

/-- Zeros and points have no value as digits. -/
theorem digitsValue_of_isZeroText {cs : List Char} (h : isZeroText cs = true) :
    digitsValue cs = 0 := by
  unfold digitsValue
  induction cs with
  | nil => rfl
  | cons c cs ih =>
    simp only [isZeroText, List.all_cons, Bool.and_eq_true, Bool.or_eq_true, beq_iff_eq] at h ih
    rcases h.1 with rfl | rfl <;> exact ih h.2

theorem magnitudeValue_of_isZeroText {cs : List Char} (h : isZeroText cs = true) :
    magnitudeValue cs = 0 := by
  have within {ds : List Char} (sub : ∀ c ∈ ds, c ∈ cs) : isZeroText ds = true :=
    List.all_eq_true.2 fun c mem => List.all_eq_true.1 h c (sub c mem)
  unfold magnitudeValue
  split
  next => simp [digitsValue_of_isZeroText h]
  next point fraction eq =>
    have inside : ∀ c ∈ fraction, c ∈ cs := fun c mem =>
      (List.dropWhile_sublist (· != '.')).subset (eq ▸ List.mem_cons_of_mem point mem)
    have before : ∀ c ∈ cs.takeWhile (· != '.'), c ∈ cs := fun c mem =>
      (List.takeWhile_sublist (· != '.')).subset mem
    simp [digitsValue_of_isZeroText (within before), digitsValue_of_isZeroText (within inside)]

/-- Negating a numeral gives the opposite number. -/
theorem value_negate {text : String} (h : isNumeral text = true) :
    value (negate text) = -value text := by
  rcases isNumeral_iff.1 h with plain | ⟨magnitude, eq, plain⟩
  · rw [negate_of_isMagnitude plain]
    split
    next zero => simp [value_of_isMagnitude plain, magnitudeValue_of_isZeroText zero]
    next => rw [value_of_signed String.toList_ofList, value_of_isMagnitude plain]
  · have unsigned : isMagnitude (String.ofList magnitude).toList = true := by
      rwa [String.toList_ofList]
    rw [negate_of_signed eq, value_of_isMagnitude unsigned, value_of_signed eq, neg_neg,
      String.toList_ofList]

/-- A numeral that does not write a zero with a sign. -/
def IsCanonical (text : String) : Prop :=
  isMagnitude text.toList = true ∨ ∃ magnitude, text.toList = '-' :: magnitude ∧
    isMagnitude magnitude = true ∧ isZeroText magnitude = false

theorem isNumeral_of_isCanonical {text : String} (h : IsCanonical text) :
    isNumeral text = true := by
  rcases h with plain | ⟨magnitude, signed, plain, -⟩
  · exact isNumeral_iff.2 (.inl plain)
  · exact isNumeral_iff.2 (.inr ⟨magnitude, signed, plain⟩)

/-- Negating gives zero no sign, and takes one off that is there. -/
theorem isCanonical_negate_of_isNumeral {text : String} (h : isNumeral text = true) :
    IsCanonical (negate text) := by
  rcases isNumeral_iff.1 h with plain | ⟨magnitude, eq, plain⟩
  · rw [negate_of_isMagnitude plain]
    by_cases zero : isZeroText text.toList = true
    · rw [if_pos zero]
      exact .inl plain
    · rw [if_neg zero]
      exact .inr ⟨text.toList, String.toList_ofList, plain, by simpa using zero⟩
  · rw [negate_of_signed eq]
    exact .inl (by rwa [String.toList_ofList])

theorem isCanonical_negate {text : String} (h : IsCanonical text) : IsCanonical (negate text) :=
  isCanonical_negate_of_isNumeral (isNumeral_of_isCanonical h)

/-- Where zero has no sign, negating twice changes nothing. -/
theorem negate_negate {text : String} (h : IsCanonical text) : negate (negate text) = text := by
  rcases h with plain | ⟨magnitude, eq, plain, nonzero⟩
  · rw [negate_of_isMagnitude plain]
    by_cases zero : isZeroText text.toList = true
    · rw [if_pos zero, negate_of_isMagnitude plain, if_pos zero]
    · rw [if_neg zero, negate_of_signed String.toList_ofList, String.ofList_toList]
  · have unsigned : isMagnitude (String.ofList magnitude).toList = true := by
      rwa [String.toList_ofList]
    rw [negate_of_signed eq, negate_of_isMagnitude unsigned, String.toList_ofList,
      if_neg (by simp [nonzero]), ← eq, String.ofList_toList]

/-- A numeral is the opposite of `0` only when it is `0`. -/
theorem negate_eq_zero_iff {text : String} (h : IsCanonical text) :
    negate text = "0" ↔ text = "0" := by
  have zero : negate "0" = "0" := by decide
  constructor
  · intro eq
    rw [← negate_negate h, eq, zero]
  · intro eq
    rw [eq, zero]

end Stepwise.Numeral
