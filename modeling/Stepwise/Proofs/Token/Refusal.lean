import Stepwise.Proofs.Expr.Reader
import Stepwise.Proofs.Outcome
import Stepwise.Proofs.Token.Cover

/-!
# Texts without tokens

A text that cannot be scanned is refused where its first part that can be scanned ends, whatever
this part is otherwise (`Expr.read_of_unscanned`). The part is a text of its own, so its length in
bytes is the boundary of a character.
-/

namespace Stepwise

open Text (isBlank isLayout)

theorem Lexeme.ofChar?_eq_none_iff {c : Char} :
    ofChar? c = none ↔ c ∉ ['+', '-', '*', '/', '%', '(', ')'] := by
  grind [ofChar?, isOperatorChar]

theorem Lexeme.ofChar?_of_isBlank {c : Char} (blank : isBlank c = true) : ofChar? c = none := by
  cases known : ofChar? c with
  | none => rfl
  | some lexeme =>
    rw [(symbol_of_ofChar? known).1] at blank
    cases blank

namespace Token

/-- The error of a text that is scanned up to a byte offset, at which these characters stand. -/
inductive Refusal (offset : Nat) : List Char → ExpressionError → Prop where
  | malformed {digits rest : List Char} : digits ∈ Numeral.digitRows →
      (∀ c ∈ rest.head?, c.isDigit = false) →
      Refusal offset (digits ++ '.' :: rest) (.invalid s!"malformed number at position {offset}")
  | unexpected {c : Char} {rest : List Char} : c.isDigit = false →
      c ∉ ['+', '-', '*', '/', '%', '(', ')'] → c ∉ [' ', '\t', '\n', '\x0c', '\r'] →
      Refusal offset (c :: rest) (.invalid s!"unexpected character '{c}' at position {offset}")

theorem refusal_of_ends {tokens : List Token} {stop : Nat} {rest : List Char} {fault : SyntaxFault}
    (ends : Ends tokens stop rest (.error fault)) : Refusal stop rest fault.toError := by
  cases ends with
  | malformed digits stops => exact .malformed (Numeral.isDigits_iff_mem.1 digits) stops
  | unexpected notDigit notGap unknown =>
    refine .unexpected notDigit (Lexeme.ofChar?_eq_none_iff.1 unknown) ?_
    intro mem
    simp only [List.mem_cons, List.not_mem_nil, or_false] at mem
    rw [Text.isLayout_iff.2 mem] at notGap
    cases notGap

/-- A scan fails behind a part of the text that is scanned on its own. -/
theorem exists_refusal {text : String} {fault : SyntaxFault} (h : scan text = .error fault) :
    ∃ before after, text = before ++ after ∧ (∃ list, scan before = .ok list) ∧
      Refusal before.utf8ByteSize after.toList fault.toError := by
  obtain ⟨before, after, tokens, stop, split, laid, ends⟩ := exists_ends 0 text.toList []
  have whole : text = String.ofList before ++ String.ofList after :=
    String.toList_injective (by simpa using split)
  have scanned : LaidOut 0 (String.ofList before).toList ⟨tokens, stop⟩ := by
    rwa [String.toList_ofList]
  have size : (String.ofList before).utf8ByteSize = stop := scanned.covers.stop_eq.symm
  rw [← scan, h] at ends
  refine ⟨_, _, whole, ⟨_, scan_eq_ok_iff.2 scanned⟩, ?_⟩
  rw [size, String.toList_ofList]
  exact refusal_of_ends ends

/-- A blank character that is no layout is found out behind anything that is scanned. -/
theorem scan_of_blank {text before after : String} {c : Char} {list : TokenList}
    (split : text = before ++ String.singleton c ++ after) (scanned : scan before = .ok list)
    (blank : isBlank c = true) (notGap : isLayout c = false) :
    scan text = .error (.unexpectedCharacter c before.utf8ByteSize) := by
  have laid := scan_eq_ok_iff.1 scanned
  have notDigit : c.isDigit = false := by
    cases digit : c.isDigit with
    | false => rfl
    | true => rw [← blank, Text.not_isBlank_of_isDigit digit]
  have stops : ∀ d ∈ (c :: after.toList).head?, d.isDigit = false ∧ d ≠ '.' := by
    rintro d ⟨rfl⟩
    refine ⟨notDigit, ?_⟩
    rintro rfl
    cases blank
  have chars : text.toList = before.toList ++ c :: after.toList := by
    simp [split]
  rw [scan, chars, scanFrom_append laid stops, laid.covers.stop_eq, scanFrom,
    if_neg (by simp [notGap]), dif_neg (by simp [notDigit]), Lexeme.ofChar?_of_isBlank blank]

end Token

namespace Expr

theorem read_of_blank {text : String} (blank : ∀ c ∈ text.toList, isBlank c = true) :
    read text = .error .empty := by
  rw [read, if_pos (List.all_eq_true.2 blank)]

theorem all_isBlank_eq_false {text : String} (visible : ∃ c ∈ text.toList, isBlank c = false) :
    text.toList.all isBlank = false := by
  simpa using visible

/-- A fault of the scan is reported, whatever the tokens before it are. -/
theorem read_of_scan_eq_error {text : String} {fault : SyntaxFault}
    (visible : ∃ c ∈ text.toList, isBlank c = false) (h : Token.scan text = .error fault) :
    read text = .error fault.toError := by
  rw [read_of_visible (all_isBlank_eq_false visible), ofVisibleText, h]
  rfl

/-- A text is refused as empty exactly if all its characters are blank. Any other text that has no
tokens is refused where its first part that has tokens ends: for digits and a point without a digit
after it, or for a character that starts no token. Such is a blank character that is no layout. -/
theorem read_of_unscanned (text : String) :
    (read text = .error .empty ↔ ∀ c ∈ text.toList, isBlank c = true) ∧
    ((∃ c ∈ text.toList, isBlank c = false) → (∀ list, Token.scan text ≠ .ok list) →
      ∃ before after error, text = before ++ after ∧ (∃ list, Token.scan before = .ok list) ∧
        Token.Refusal before.utf8ByteSize after.toList error ∧ read text = .error error) ∧
    (∀ before c after, text = before ++ String.singleton c ++ after →
      (∃ c ∈ text.toList, isBlank c = false) → (∃ list, Token.scan before = .ok list) →
      isBlank c = true → isLayout c = false →
      read text = .error
        (.invalid s!"unexpected character '{c}' at position {before.utf8ByteSize}")) := by
  refine ⟨⟨fun empty => ?_, read_of_blank⟩, ?_, ?_⟩
  · by_contra visible
    simp only [not_forall, Bool.not_eq_true] at visible
    obtain ⟨c, mem, visible⟩ := visible
    rw [read_of_visible (all_isBlank_eq_false ⟨c, mem, visible⟩)] at empty
    -- A text that is not blank is refused for a fault of its syntax only.
    obtain ⟨fault, -, eq⟩ := mapError_eq_error_iff.1 empty
    have syntactic := fault.isSyntaxError_toError
    rw [eq] at syntactic
    cases syntactic
  · intro visible unscanned
    cases scanned : Token.scan text with
    | ok list => exact absurd scanned (unscanned list)
    | error fault =>
      obtain ⟨before, after, split, hasTokens, refusal⟩ := Token.exists_refusal scanned
      exact ⟨before, after, _, split, hasTokens, refusal, read_of_scan_eq_error visible scanned⟩
  · rintro before c after split visible ⟨list, scanned⟩ blank notGap
    exact read_of_scan_eq_error visible (Token.scan_of_blank split scanned blank notGap)

/-- A character that starts no token comes before the group that lacks an operand, and a blank that
is no layout does not stand between tokens. -/
theorem read_of_unscanned_group :
    (∃ c ∈ "(1+)*é".toList, isBlank c = false) ∧ (∀ list, Token.scan "(1+)*é" ≠ .ok list) ∧
    (∃ before after, "(1+)*é" = before ++ after ∧ (∃ list, Token.scan before = .ok list) ∧
      Token.Refusal before.utf8ByteSize after.toList
        (.invalid "unexpected character 'é' at position 5")) ∧
    isBlank '\u00a0' = true ∧ isLayout '\u00a0' = false ∧
    (∃ list, Token.scan "1 +" = .ok list) ∧
    read "1 +\u00a02" = .error (.invalid "unexpected character '\u00a0' at position 3") := by
  have visible : ∃ c ∈ "(1+)*é".toList, isBlank c = false := ⟨'(', by decide, by decide⟩
  have unscanned : ∀ list, Token.scan "(1+)*é" ≠ .ok list := by
    have refused : Token.scan "(1+)*é" = .error (.unexpectedCharacter 'é' 5) := by decide +kernel
    rw [refused]
    exact nofun
  have reported : read "(1+)*é" = .error (.invalid "unexpected character 'é' at position 5") := by
    decide +kernel
  have scanned : Token.scan "1 +" = .ok ⟨[⟨.number "1", 0⟩, ⟨.operator '+', 2⟩], 3⟩ := by
    decide +kernel
  obtain ⟨-, atRest, -⟩ := read_of_unscanned "(1+)*é"
  obtain ⟨before, after, error, split, hasTokens, refusal, eq⟩ := atRest visible unscanned
  obtain rfl := Except.error.inj (reported.symm.trans eq)
  obtain ⟨-, -, atBlank⟩ := read_of_unscanned "1 +\u00a02"
  exact ⟨visible, unscanned, ⟨before, after, split, hasTokens, refusal⟩, by decide, by decide,
    ⟨_, scanned⟩, atBlank "1 +" '\u00a0' "2" (by decide) ⟨'1', by decide, by decide⟩ ⟨_, scanned⟩
      (by decide) (by decide)⟩

end Expr

end Stepwise
