import Mathlib.Data.List.Induction
import Stepwise.Id

/-!
# Identifiers read back from their text

Digits are written from the least significant one up and read from the most significant one down,
so that each digit that is written ends the text of the digits before it
(`Text.hexValue?_hexChars`). The hyphens stand where a reader looks for them, and what is between
them are the 32 digits. Main statement here: the text of an identifier is read as that identifier
(`Id.ofText?_text`).
-/

namespace Stepwise

namespace Text

theorem hexDigit?_hexChar {value : Nat} (h : value < 16) :
    hexDigit? (hexChar value) = some value := by
  have all : ∀ value < 16, hexDigit? (hexChar value) = some value := by decide
  exact all value h

@[simp] theorem hexValue?_concat (cs : List Char) (c : Char) :
    hexValue? (cs ++ [c]) =
      (hexValue? cs).bind fun value => (hexDigit? c).map (16 * value + ·) := by
  rw [hexValue?, List.foldlM_append]
  cases h : List.foldlM (fun value c => (hexDigit? c).map (16 * value + ·)) 0 cs <;>
    simp [hexValue?, h]

/-- Digits that were written are read as the value that fits into them. -/
theorem hexValue?_hexChars (count value : Nat) :
    hexValue? (hexChars count value) = some (value % Nat.pow 16 count) := by
  induction count generalizing value with
  | zero => simp [hexChars, hexValue?, Nat.mod_one]
  | succ count ih =>
    have last : hexDigit? (hexChar (value % 16)) = some (value % 16) :=
      hexDigit?_hexChar (Nat.mod_lt _ (by decide))
    have split : value % Nat.pow 16 (count + 1) =
        16 * (value / 16 % Nat.pow 16 count) + value % 16 := by
      rw [show Nat.pow 16 (count + 1) = 16 * Nat.pow 16 count from Nat.mul_comm _ _, Nat.mod_mul,
        Nat.add_comm]
    rw [hexChars, hexValue?_concat, ih, last, split]
    rfl

end Text

namespace Id

theorem ofDigits?_digits (id : Id) : ofDigits? id.digits = some id := by
  have fits : id.bits.toNat % Nat.pow 16 32 = id.bits.toNat := Nat.mod_eq_of_lt id.bits.isLt
  rw [ofDigits?, digits, Text.length_hexChars, if_pos rfl, Text.hexValue?_hexChars, fits]
  simp

/-- Five groups joined by hyphens are read as their digits. -/
theorem ofHyphenated?_groups {a b c d e : List Char} (ha : a.length = 8) (hb : b.length = 4)
    (hc : c.length = 4) (hd : d.length = 4) (he : e.length = 12) :
    ofHyphenated? (a ++ '-' :: b ++ '-' :: c ++ '-' :: d ++ '-' :: e) =
      ofDigits? (a ++ b ++ c ++ d ++ e) := by
  simp [ofHyphenated?, List.drop_append, List.drop_of_length_le, ha, hb, hc, hd, he]

/-- The five groups of a row of digits. -/
theorem groups_append (ds : List Char) :
    ds.take 8 ++ (ds.drop 8).take 4 ++ (ds.drop 12).take 4 ++ (ds.drop 16).take 4 ++ ds.drop 20 =
      ds := by
  have next (count : Nat) : (ds.drop count).take 4 ++ ds.drop (count + 4) = ds.drop count := by
    rw [← List.drop_drop, List.take_append_drop]
  rw [List.append_assoc, next 16, List.append_assoc, next 12, List.append_assoc, next 8,
    List.take_append_drop]

@[simp] theorem length_digits (id : Id) : id.digits.length = 32 := Text.length_hexChars 32 _

@[simp] theorem length_chars (id : Id) : id.chars.length = 36 := by
  simp [chars]

theorem ofHyphenated?_chars (id : Id) : ofHyphenated? id.chars = some id := by
  have length := id.length_digits
  have read : ofHyphenated? id.chars = ofDigits? _ :=
    ofHyphenated?_groups (by simp [length]) (by simp [length]) (by simp [length])
      (by simp [length]) (by simp [length])
  rw [read, groups_append, ofDigits?_digits]

/-- The characters of an identifier are read as the identifier. -/
theorem ofChars?_chars (id : Id) : ofChars? id.chars = some id := by
  rw [ofChars?, if_neg (by simp), if_pos id.length_chars, ofHyphenated?_chars]

theorem ofText?_text (id : Id) : ofText? id.text = some id := by
  rw [ofText?, text, String.toList_ofList, ofChars?_chars]

end Id

/-!
## Reading accepts exactly the spellings of identifiers

The digits of a value are read from any text that has them in either case, and from no other
(`Id.ofDigits?_eq_some_iff`); the same holds of digits in groups, and so of all four spellings
(`Id.ofChars?_eq_some_iff`).
-/

namespace Text

theorem toLower_of_not_ascii {c : Char} (h : 128 ≤ c.toNat) : c.toLower = c := by
  refine dif_neg ?_
  rintro ⟨-, most⟩
  have bound : c.toNat ≤ 90 := UInt32.le_iff_toNat_le.1 most
  omega

/-- What holds of the ASCII characters and of all others holds of every character. -/
theorem forall_char {P : Char → Prop} (ascii : ∀ point < 128, P (Char.ofNat point))
    (other : ∀ c : Char, 128 ≤ c.toNat → P c) (c : Char) : P c := by
  rcases Nat.lt_or_ge c.toNat 128 with below | above
  · rw [← Char.ofNat_toNat c]
    exact ascii c.toNat below
  · exact other c above

theorem hexDigit?_of_not_ascii {c : Char} (h : 128 ≤ c.toNat) : hexDigit? c = none := by
  have beyond (least most : Char) (small : most.toNat < 128) : ¬ (least ≤ c ∧ c ≤ most) := by
    rintro ⟨-, le⟩
    have bound : c.toNat ≤ most.toNat := UInt32.le_iff_toNat_le.1 (Char.le_def.1 le)
    omega
  rw [hexDigit?, if_neg (beyond '0' '9' (by decide)), if_neg (beyond 'a' 'f' (by decide)),
    if_neg (beyond 'A' 'F' (by decide))]

theorem hexDigit?_toLower (c : Char) : hexDigit? c.toLower = hexDigit? c := by
  induction c using forall_char with
  | ascii point below =>
    have all : ∀ point < 128,
        hexDigit? (Char.ofNat point).toLower = hexDigit? (Char.ofNat point) := by
      decide
    exact all point below
  | other c above => rw [toLower_of_not_ascii above]

/-- In lower case, a digit is the one that is written for its value. -/
theorem toLower_of_hexDigit? {c : Char} {value : Nat} (h : hexDigit? c = some value) :
    value < 16 ∧ c.toLower = hexChar value := by
  induction c using forall_char with
  | ascii point below =>
    have all : ∀ point < 128, ∀ value ∈ hexDigit? (Char.ofNat point),
        value < 16 ∧ (Char.ofNat point).toLower = hexChar value := by
      decide
    exact all point below value h
  | other c above =>
    rw [hexDigit?_of_not_ascii above] at h
    cases h

theorem toLower_eq_hyphen_iff {c : Char} : c.toLower = '-' ↔ c = '-' := by
  induction c using forall_char with
  | ascii point below =>
    have all : ∀ point < 128, (Char.ofNat point).toLower = '-' ↔ Char.ofNat point = '-' := by decide
    exact all point below
  | other c above => rw [toLower_of_not_ascii above]

theorem hexValue?_map_toLower (cs : List Char) :
    hexValue? (cs.map Char.toLower) = hexValue? cs := by
  simp only [hexValue?, List.foldlM_map, hexDigit?_toLower]

/-- Digits are, in lower case, those that are written for their value. -/
theorem hexChars_of_hexValue? {cs : List Char} {value : Nat} (h : hexValue? cs = some value) :
    hexChars cs.length value = cs.map Char.toLower ∧ value < Nat.pow 16 cs.length := by
  induction cs using List.reverseRecOn generalizing value with
  | nil =>
    cases h
    exact ⟨rfl, Nat.one_pos⟩
  | append_singleton cs c ih =>
    rw [hexValue?_concat] at h
    obtain ⟨high, front, more⟩ := Option.bind_eq_some_iff.1 h
    obtain ⟨low, last, rfl⟩ := Option.map_eq_some_iff.1 more
    obtain ⟨digits, small⟩ := ih front
    obtain ⟨below, lower⟩ := toLower_of_hexDigit? last
    have whole : (16 * high + low) / 16 = high := by omega
    have rest : (16 * high + low) % 16 = low := by omega
    rw [List.length_append, List.length_singleton, hexChars, whole, rest, digits, List.map_append,
      List.map_singleton, lower]
    have power : Nat.pow 16 (cs.length + 1) = Nat.pow 16 cs.length * 16 := rfl
    exact ⟨rfl, by omega⟩

end Text

namespace Id

open Text (toLower_eq_hyphen_iff)

theorem ofDigits?_map_toLower (cs : List Char) :
    ofDigits? (cs.map Char.toLower) = ofDigits? cs := by
  rw [ofDigits?, ofDigits?, List.length_map, Text.hexValue?_map_toLower]

/-- The digits of an identifier are read in either case, and nothing else is. -/
theorem ofDigits?_eq_some_iff {cs : List Char} {id : Id} :
    ofDigits? cs = some id ↔ cs.map Char.toLower = id.digits := by
  constructor
  · intro h
    rw [ofDigits?] at h
    split at h
    next length =>
      obtain ⟨value, read, rfl⟩ := Option.map_eq_some_iff.1 h
      obtain ⟨lower, small⟩ := Text.hexChars_of_hexValue? read
      rw [length] at lower small
      have fits : (BitVec.ofNat 128 value).toNat = value := Nat.mod_eq_of_lt small
      rw [digits, fits, lower]
    next => cases h
  · intro h
    rw [← ofDigits?_map_toLower, h, ofDigits?_digits]

theorem ofHyphenated?_map_toLower (cs : List Char) :
    ofHyphenated? (cs.map Char.toLower) = ofHyphenated? cs := by
  have hyphen (place : Nat) : (cs.map Char.toLower)[place]? = some '-' ↔ cs[place]? = some '-' := by
    rw [List.getElem?_map, Option.map_eq_some_iff]
    simp [toLower_eq_hyphen_iff]
  simp only [ofHyphenated?, List.length_map, hyphen, ← List.map_take, ← List.map_drop,
    ← List.map_append, ofDigits?_map_toLower]

/-- A text with hyphens at their places is five groups joined by them. -/
theorem exists_groups {cs : List Char} (length : cs.length = 36) (first : cs[8]? = some '-')
    (second : cs[13]? = some '-') (third : cs[18]? = some '-') (fourth : cs[23]? = some '-') :
    ∃ a b c d e : List Char, cs = a ++ '-' :: b ++ '-' :: c ++ '-' :: d ++ '-' :: e ∧
      a.length = 8 ∧ b.length = 4 ∧ c.length = 4 ∧ d.length = 4 ∧ e.length = 12 := by
  have group (start count : Nat) (hyphen : cs[start + count]? = some '-') :
      cs.drop start = (cs.drop start).take count ++ '-' :: cs.drop (start + count + 1) := by
    obtain ⟨bound, found⟩ := List.getElem?_eq_some_iff.1 hyphen
    rw [← found, List.getElem_cons_drop, ← List.drop_drop, List.take_append_drop]
  have whole := group 0 8 first
  rw [group 9 4 second, group 14 4 third, group 19 4 fourth] at whole
  exact ⟨cs.take 8, (cs.drop 9).take 4, (cs.drop 14).take 4, (cs.drop 19).take 4, cs.drop 24,
    by simpa using whole, by simp [length], by simp [length], by simp [length], by simp [length],
    by simp [length]⟩

/-- The groups of an identifier are read in either case, and nothing else is. -/
theorem ofHyphenated?_eq_some_iff {cs : List Char} {id : Id} :
    ofHyphenated? cs = some id ↔ cs.map Char.toLower = id.chars := by
  constructor
  · intro h
    have spelt := h
    rw [ofHyphenated?] at spelt
    split at spelt
    next places =>
      obtain ⟨length, first, second, third, fourth⟩ := places
      obtain ⟨a, b, c, d, e, rfl, ha, hb, hc, hd, he⟩ :=
        exists_groups length first second third fourth
      rw [ofHyphenated?_groups ha hb hc hd he, ofDigits?_eq_some_iff] at h
      simp [chars, ← h, List.drop_append, List.drop_of_length_le, ha, hb, hc, hd]
    next => cases spelt
  · intro h
    rw [← ofHyphenated?_map_toLower, h, ofHyphenated?_chars]

/-- What stands in braces. -/
theorem exists_braced {cs : List Char} (length : cs.length = 38) (opens : cs.head? = some '{')
    (closes : cs.getLast? = some '}') : ∃ body, cs = '{' :: body ++ ['}'] := by
  obtain ⟨rest, rfl⟩ := List.head?_eq_some_iff.1 opens
  cases rest with
  | nil => cases length
  | cons c rest =>
    rw [List.getLast?_cons_cons] at closes
    obtain ⟨body, eq⟩ := List.getLast?_eq_some_iff.1 closes
    exact ⟨body, by rw [eq]; rfl⟩

/-- The spellings of an identifier are read as the identifier, and nothing else is. -/
theorem ofChars?_eq_some_iff {cs : List Char} {id : Id} : ofChars? cs = some id ↔ id.Spells cs := by
  constructor
  · intro h
    unfold ofChars? at h
    split at h
    next => exact .bare (ofDigits?_eq_some_iff.1 h)
    split at h
    next => exact .hyphenated (ofHyphenated?_eq_some_iff.1 h)
    split at h
    next braces =>
      obtain ⟨length, opens, closes⟩ := braces
      obtain ⟨body, rfl⟩ := exists_braced length opens closes
      have inner : (('{' :: body ++ ['}']).drop 1).dropLast = body := by simp
      rw [inner] at h
      exact .braced (ofHyphenated?_eq_some_iff.1 h)
    split at h
    next named =>
      refine .resource ?_
      rw [← ofHyphenated?_eq_some_iff.1 h, ← named.2, ← List.map_append, List.take_append_drop]
    next => cases h
  · intro h
    have sameLength {ds es : List Char} (lower : ds.map Char.toLower = es) :
        ds.length = es.length := by
      rw [← lower, List.length_map]
    cases h with
    | bare lower =>
      have length := (sameLength lower).trans id.length_digits
      rw [ofChars?, if_pos length, ofDigits?_eq_some_iff.2 lower]
    | hyphenated lower =>
      have length := (sameLength lower).trans id.length_chars
      rw [ofChars?, if_neg (by omega), if_pos length, ofHyphenated?_eq_some_iff.2 lower]
    | @braced body lower =>
      have length : ('{' :: body ++ ['}']).length = 38 := by
        simp [(sameLength lower).trans id.length_chars]
      have inner : (('{' :: body ++ ['}']).drop 1).dropLast = body := by simp
      rw [ofChars?, if_neg (by omega), if_neg (by omega),
        if_pos ⟨length, rfl, List.getLast?_concat⟩, inner, ofHyphenated?_eq_some_iff.2 lower]
    | resource lower =>
      have nine : resourcePrefix.length = 9 := by decide
      have length : cs.length = 45 := by
        rw [sameLength lower, List.length_append, id.length_chars, nine]
      have front : (cs.take 9).map Char.toLower = resourcePrefix := by
        rw [List.map_take, lower, List.take_left' nine]
      have back : (cs.drop 9).map Char.toLower = id.chars := by
        rw [List.map_drop, lower, List.drop_left' nine]
      rw [ofChars?, if_neg (by omega), if_neg (by omega), if_neg (by omega), if_pos ⟨length, front⟩,
        ofHyphenated?_eq_some_iff.2 back]

end Id

end Stepwise
