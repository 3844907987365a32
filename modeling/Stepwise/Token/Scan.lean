import Stepwise.ExpressionError
import Stepwise.Text.Character

/-!
# Splitting a text into tokens

`Token.scan` goes through a text from left to right, skips layout, and takes the longest number or
the single character that comes next. Offsets count bytes of the UTF-8 form; all characters that a
scan passes are ASCII, so each moves the offset by one. Main statement here: what `splitNumber`
splits off is a prefix of the text that is not empty, so no character is lost and a scan ends.
-/

namespace Stepwise.Token

open Text (isLayout)

/-- Splits digits, and a point with digits where a point follows, off the front of a text.
A point that no digit follows makes the number malformed. -/
def splitNumber (cs : List Char) : Option (List Char × List Char) :=
  match cs.dropWhile Char.isDigit with
  | '.' :: rest =>
    if (rest.takeWhile Char.isDigit).isEmpty then none
    else some (cs.takeWhile Char.isDigit ++ '.' :: rest.takeWhile Char.isDigit,
      rest.dropWhile Char.isDigit)
  | rest => some (cs.takeWhile Char.isDigit, rest)

theorem append_of_splitNumber {cs text rest : List Char}
    (h : splitNumber cs = some (text, rest)) : text ++ rest = cs := by
  unfold splitNumber at h
  split at h
  next more eq =>
    split at h
    · simp at h
    · simp only [Option.some.injEq, Prod.mk.injEq] at h
      obtain ⟨rfl, rfl⟩ := h
      rw [List.append_assoc, List.cons_append, List.takeWhile_append_dropWhile, ← eq,
        List.takeWhile_append_dropWhile]
  next =>
    simp only [Option.some.injEq, Prod.mk.injEq] at h
    obtain ⟨rfl, rfl⟩ := h
    exact List.takeWhile_append_dropWhile

theorem ne_nil_of_splitNumber {c : Char} {cs text rest : List Char} (digit : c.isDigit = true)
    (h : splitNumber (c :: cs) = some (text, rest)) : text ≠ [] := by
  unfold splitNumber at h
  split at h
  · split at h
    · simp at h
    · simp only [Option.some.injEq, Prod.mk.injEq] at h
      simp [← h.1]
  · simp only [Option.some.injEq, Prod.mk.injEq] at h
    simp [← h.1, digit]

theorem length_lt_of_splitNumber {c : Char} {cs text rest : List Char}
    (digit : c.isDigit = true) (h : splitNumber (c :: cs) = some (text, rest)) :
    rest.length < (c :: cs).length := by
  rw [← append_of_splitNumber h, List.length_append]
  have := List.length_pos_iff.2 (ne_nil_of_splitNumber digit h)
  omega

/-- The tokens of `cs`, whose first character has offset `position`, after the tokens `done`
(latest first) that stand before it. -/
def scanFrom (position : Nat) (cs : List Char) (done : List Token) :
    Except SyntaxFault TokenList :=
  match cs with
  | [] => .ok ⟨done.reverse, position⟩
  | c :: rest =>
    if isLayout c then scanFrom (position + 1) rest done
    else if _ : c.isDigit then
      match _ : splitNumber (c :: rest) with
      | none => .error (.malformedNumber position)
      | some (text, after) =>
        scanFrom (position + text.length) after (⟨.number (String.ofList text), position⟩ :: done)
    else
      match Lexeme.ofChar? c with
      | some lexeme => scanFrom (position + 1) rest (⟨lexeme, position⟩ :: done)
      | none => .error (.unexpectedCharacter c position)
termination_by cs.length
decreasing_by
  · simp
  · exact length_lt_of_splitNumber ‹c.isDigit = true› ‹splitNumber (c :: rest) = some _›
  · simp

/-- The tokens of a text. -/
def scan (text : String) : Except SyntaxFault TokenList :=
  scanFrom 0 text.toList []

end Stepwise.Token
