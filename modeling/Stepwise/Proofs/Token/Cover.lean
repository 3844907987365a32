import Stepwise.Proofs.Numeral.Format
import Stepwise.Proofs.Token.Layout
import Stepwise.Token.Layout

/-!
# A scan loses nothing

The tokens of a scan cover its text, and a row of lexemes is scanned as its lexemes, whatever its
gaps are (`Token.scan_covers`). All characters of a text that is laid out are ASCII, so that offsets
count bytes (`LaidOut.byteSize_eq`).
-/

namespace Stepwise

open Text (isLayout)

/-- Where each character takes one byte, bytes are counted by characters. -/
theorem Text.utf8ByteSize_of_narrow {text : String} (narrow : ∀ c ∈ text.toList, c.utf8Size = 1) :
    text.utf8ByteSize = text.toList.length := by
  have count (cs : List Char) (narrow : ∀ c ∈ cs, c.utf8Size = 1) :
      (String.ofList cs).utf8ByteSize = cs.length := by
    induction cs with
    | nil => rfl
    | cons c cs ih =>
      obtain ⟨first, others⟩ := List.forall_mem_cons.1 narrow
      rw [String.ofList_cons, String.utf8ByteSize_append, String.utf8ByteSize_singleton, first,
        ih others, List.length_cons, Nat.add_comm]
  rw [← count text.toList narrow, String.ofList_toList]

theorem Text.utf8Size_of_isDigit {c : Char} (h : c.isDigit = true) : c.utf8Size = 1 := by
  rw [Char.utf8Size, if_pos]
  exact UInt32.le_iff_toNat_le.2 (Nat.le_trans (toNat_of_isDigit h).2 (by decide))

theorem Text.utf8Size_of_isLayout {c : Char} (h : isLayout c = true) : c.utf8Size = 1 := by
  rcases isLayout_iff.1 h with rfl | rfl | rfl | rfl | rfl <;> rfl

theorem Numeral.utf8Size_of_isMagnitude {cs : List Char} (h : isMagnitude cs = true) :
    ∀ c ∈ cs, c.utf8Size = 1 := by
  have narrow {ds : List Char} (digits : isDigits ds = true) : ∀ c ∈ ds, c.utf8Size = 1 :=
    fun c mem => Text.utf8Size_of_isDigit ((isDigits_iff.1 digits).2 c mem)
  rcases isMagnitude_iff.1 h with digits | ⟨whole, fraction, rfl, left, right⟩
  · exact narrow digits
  · exact List.forall_mem_append.2 ⟨narrow left, List.forall_mem_cons.2 ⟨rfl, narrow right⟩⟩

namespace Lexeme

theorem hasForm_iff {lexeme : Lexeme} : lexeme.HasForm ↔ lexeme.isWellSpelt = true := by
  cases lexeme with
  | number text => exact Numeral.isMagnitude_iff_mem.symm
  | operator op => simp [HasForm, isWellSpelt, isOperatorChar, or_assoc]
  | opening | closing => simp [HasForm, isWellSpelt]

instance (lexeme : Lexeme) : Decidable lexeme.HasForm := decidable_of_iff _ hasForm_iff.symm

theorem utf8Size_of_isWellSpelt {lexeme : Lexeme} (spelt : lexeme.isWellSpelt = true) :
    ∀ c ∈ lexeme.chars, c.utf8Size = 1 := by
  rcases spelt_cases spelt with ⟨text, rfl, plain⟩ | ⟨c, chars, known, -⟩
  · exact Numeral.utf8Size_of_isMagnitude plain
  · rw [chars]
    exact List.forall_mem_singleton.2 (symbol_of_ofChar? known).2.2

@[simp] theorem toList_text (lexeme : Lexeme) : lexeme.text.toList = lexeme.chars :=
  String.toList_ofList

theorem byteSize_text {lexeme : Lexeme} (spelt : lexeme.isWellSpelt = true) :
    lexeme.text.utf8ByteSize = lexeme.chars.length := by
  rw [Text.utf8ByteSize_of_narrow, toList_text]
  rw [toList_text]
  exact utf8Size_of_isWellSpelt spelt

end Lexeme

namespace LaidOut

variable {position : Nat} {cs : List Char} {list : TokenList}

theorem utf8Size_eq (h : LaidOut position cs list) : ∀ c ∈ cs, c.utf8Size = 1 := by
  induction h with
  | done => exact nofun
  | gap layout _ ih => exact List.forall_mem_cons.2 ⟨Text.utf8Size_of_isLayout layout, ih⟩
  | token spelt _ _ ih =>
    exact List.forall_mem_append.2 ⟨Lexeme.utf8Size_of_isWellSpelt spelt, ih⟩

/-- The bytes before a place of a text that is laid out are as many as the characters. -/
theorem byteSize_eq {text before after : String} (h : LaidOut position text.toList list)
    (split : text = before ++ after) : before.utf8ByteSize = before.toList.length := by
  refine Text.utf8ByteSize_of_narrow fun c mem => h.utf8Size_eq c ?_
  rw [split, String.toList_append]
  exact List.mem_append_left _ mem

/-- Each token stands where its offset says, and a number ends where it cannot go on. -/
theorem exists_split (h : LaidOut position cs list) : ∀ token ∈ list.tokens, ∃ before after,
    cs = before ++ token.lexeme.chars ++ after ∧ token.offset = position + before.length ∧
      (token.lexeme.isNumber = true → ∀ c ∈ after.head?, c.isDigit = false ∧ c ≠ '.') := by
  induction h with
  | done => exact nofun
  | @gap _ c _ _ _ _ ih =>
    intro token mem
    obtain ⟨before, after, rfl, offset, ends⟩ := ih token mem
    refine ⟨c :: before, after, rfl, ?_, ends⟩
    rw [offset, List.length_cons]
    omega
  | @token _ lexeme rest _ _ _ apart tail ih =>
    rintro token (_ | ⟨_, mem⟩)
    · refine ⟨[], rest, rfl, rfl, fun number c next => ⟨?_, ?_⟩⟩
      · exact Token.not_isDigit_after_number tail (apart number) c next
      · rintro rfl
        exact tail.head?_ne_point next
    · obtain ⟨before, after, rfl, offset, ends⟩ := ih token mem
      refine ⟨lexeme.chars ++ before, after, by simp, ?_, ends⟩
      rw [offset, List.length_append]
      omega

theorem inOrder (h : LaidOut position cs list) : list.tokens.Pairwise fun token later =>
    token.offset + token.lexeme.chars.length ≤ later.offset := by
  induction h with
  | done => exact .nil
  | gap _ _ ih => exact ih
  | token _ _ tail ih =>
    refine List.pairwise_cons.2 ⟨fun later mem => ?_, ih⟩
    obtain ⟨before, -, -, offset, -⟩ := tail.exists_split later mem
    rw [offset]
    exact Nat.le_add_right _ _

/-- A character that is no layout is part of a token. -/
theorem isLayout_or_inside (h : LaidOut position cs list) {place : Nat} {c : Char}
    (found : cs[place]? = some c) : isLayout c = true ∨ ∃ token ∈ list.tokens,
      token.offset ≤ position + place ∧
        position + place < token.offset + token.lexeme.chars.length := by
  induction h generalizing place with
  | done => cases found
  | gap layout _ ih =>
    cases place with
    | zero =>
      cases found
      exact .inl layout
    | succ place =>
      rcases ih found with inGap | ⟨token, mem, start, stop⟩
      · exact .inl inGap
      · exact .inr ⟨token, mem, by omega, by omega⟩
  | @token _ lexeme _ _ _ _ _ _ ih =>
    rcases Nat.lt_or_ge place lexeme.chars.length with inside | beyond
    · exact .inr ⟨_, List.mem_cons_self, Nat.le_add_right _ _, Nat.add_lt_add_left inside _⟩
    · rw [List.getElem?_append_right beyond] at found
      rcases ih found with inGap | ⟨token, mem, start, stop⟩
      · exact .inl inGap
      · exact .inr ⟨token, List.mem_cons_of_mem _ mem, by omega, by omega⟩

/-- The tokens of a text that is laid out cover it. -/
theorem covers {text : String} (h : LaidOut 0 text.toList list) : list.Covers text := by
  have stop_eq {token : Token} (mem : token ∈ list.tokens) :
      token.stop = token.offset + token.lexeme.chars.length := by
    rw [Token.stop, Lexeme.byteSize_text (h.isWellSpelt token mem)]
  refine ⟨?_, fun token mem => Lexeme.hasForm_iff.2 (h.isWellSpelt token mem), ?_, ?_, ?_⟩
  · rw [h.stop_eq, h.byteSize_eq String.append_empty.symm, Nat.zero_add]
  · intro token mem
    obtain ⟨before, after, split, offset, ends⟩ := h.exists_split token mem
    have whole : text = String.ofList before ++ token.lexeme.text ++ String.ofList after :=
      String.toList_injective (by simpa using split)
    refine ⟨String.ofList before, String.ofList after, whole, ?_, by simpa using ends⟩
    rw [String.append_assoc] at whole
    rw [h.byteSize_eq whole, String.toList_ofList, offset, Nat.zero_add]
  · refine h.inOrder.imp_of_mem fun mem _ ordered => ?_
    rwa [stop_eq mem]
  · intro before c after split
    have found : text.toList[before.toList.length]? = some c := by
      simp [split]
    rw [String.append_assoc] at split
    rw [h.byteSize_eq split]
    rcases h.isLayout_or_inside found with inGap | ⟨token, mem, start, stop⟩
    · exact .inl inGap
    · rw [Nat.zero_add] at start stop
      exact .inr ⟨token, mem, start, by rwa [stop_eq mem]⟩

theorem gaps {gap rest : List Char} (layout : ∀ c ∈ gap, isLayout c = true)
    (h : LaidOut (position + gap.length) rest list) : LaidOut position (gap ++ rest) list := by
  induction gap generalizing position with
  | nil => exact h
  | cons c gap ih =>
    obtain ⟨first, others⟩ := List.forall_mem_cons.1 layout
    rw [List.length_cons, Nat.add_comm gap.length, ← Nat.add_assoc] at h
    exact .gap first (ih others h)

end LaidOut

namespace SpacedRow

variable {lead : String} {item : SpacedLexeme} {items : List SpacedLexeme}

theorem text_cons :
    text ⟨lead, item :: items⟩ = lead ++ item.lexeme.text ++ text ⟨item.gap, items⟩ := by
  simp [text, SpacedLexeme.text, String.append_assoc]

theorem before_zero (row : SpacedRow) : (row.before 0).text = row.lead := by
  simp [before, text]

theorem before_succ (place : Nat) : (before ⟨lead, item :: items⟩ (place + 1)).text =
    lead ++ item.lexeme.text ++ (before ⟨item.gap, items⟩ place).text :=
  text_cons

theorem IsSpaced.tail (h : IsSpaced ⟨lead, item :: items⟩) : IsSpaced ⟨item.gap, items⟩ where
  lead := h.gap item List.mem_cons_self
  hasForm := (List.forall_mem_cons.1 h.hasForm).2
  gap := (List.forall_mem_cons.1 h.gap).2
  apart := h.apart.of_cons

/-- Behind a number the next number is announced by a gap. -/
theorem IsSpaced.head_gap (h : IsSpaced ⟨lead, item :: items⟩)
    (number : item.lexeme.isNumber = true) {offset : Nat → SpacedLexeme → Nat}
    (next : startsWithNumber
      (items.mapIdx fun place item => ⟨item.lexeme, offset place item⟩) = true) :
    ∃ c ∈ (text ⟨item.gap, items⟩).toList.head?, isLayout c = true := by
  cases items with
  | nil => cases next
  | cons following items =>
    have gap : item.gap ≠ "" := by
      refine (List.isChain_cons_cons.1 h.apart).1 number ?_
      simpa [startsWithNumber, List.mapIdx_cons] using next
    obtain ⟨c, cs, chars⟩ := List.exists_cons_of_ne_nil (mt String.toList_eq_nil_iff.1 gap)
    refine ⟨c, by simp [text, chars], h.gap item List.mem_cons_self c ?_⟩
    rw [chars]
    exact List.mem_cons_self

/-- A row is laid out from any position on. -/
theorem IsSpaced.laidOut_from {row : SpacedRow} (h : row.IsSpaced) (position : Nat) :
    LaidOut position row.text.toList
      ⟨row.items.mapIdx fun place item =>
        ⟨item.lexeme, position + (row.before place).text.utf8ByteSize⟩,
      position + row.text.utf8ByteSize⟩ := by
  obtain ⟨lead, items⟩ := row
  have leadSize {lead : String} (layout : ∀ c ∈ lead.toList, isLayout c = true) :
      lead.utf8ByteSize = lead.toList.length :=
    Text.utf8ByteSize_of_narrow fun c mem => Text.utf8Size_of_isLayout (layout c mem)
  induction items generalizing lead position with
  | nil =>
    have laid := LaidOut.gaps h.lead (.done (position + lead.toList.length))
    simpa [text, leadSize h.lead] using laid
  | cons item items ih =>
    have spelt := Lexeme.hasForm_iff.1 (h.hasForm item List.mem_cons_self)
    have tail := ih (position + lead.toList.length + item.lexeme.chars.length) item.gap h.tail
    have laid := LaidOut.gaps h.lead (.token spelt (fun number => h.head_gap number) tail)
    simpa [text_cons, before_zero, before_succ, List.mapIdx_cons, leadSize h.lead,
      Lexeme.byteSize_text spelt, Nat.add_assoc] using laid

end SpacedRow

namespace Token

/-- A scan loses nothing: its tokens cover the text. Lexemes are scanned as what they are, at the
byte offsets at which they stand, whatever the gaps around them. -/
theorem scan_covers :
    (∀ text list, scan text = .ok list → list.Covers text) ∧
    (∀ row : SpacedRow, row.IsSpaced → scan row.text = .ok row.tokenList) := by
  constructor
  · intro text list scanned
    exact (scan_eq_ok_iff.1 scanned).covers
  · intro row spaced
    have laid := spaced.laidOut_from 0
    simp only [Nat.zero_add] at laid
    exact scan_eq_ok_iff.2 laid

/-- Two numbers need their gap, and all other lexemes may touch. -/
theorem scan_covers_numbers :
    let row : SpacedRow := ⟨" ", [⟨.number "12.50", "\t\n"⟩, ⟨.number "7", ""⟩, ⟨.operator '-', ""⟩,
      ⟨.opening, "\x0c"⟩, ⟨.closing, ""⟩]⟩
    let list : TokenList := ⟨[⟨.number "12.50", 1⟩, ⟨.number "7", 8⟩, ⟨.operator '-', 9⟩,
      ⟨.opening, 10⟩, ⟨.closing, 12⟩], 13⟩
    row.IsSpaced ∧ row.text = " 12.50\t\n7-(\x0c)" ∧ row.tokenList = list ∧
      scan " 12.50\t\n7-(\x0c)" = .ok list ∧ list.Covers " 12.50\t\n7-(\x0c)" := by
  intro row list
  have spaced : row.IsSpaced := by
    refine ⟨List.all_eq_true.1 (by decide), by decide, ?_, by decide⟩
    simp [row, Text.isLayout]
  have spelt : row.text = " 12.50\t\n7-(\x0c)" := by decide
  have located : row.tokenList = list := by decide
  have scanned : scan " 12.50\t\n7-(\x0c)" = .ok list := by
    rw [← spelt, ← located]
    exact scan_covers.2 row spaced
  exact ⟨spaced, spelt, located, scanned, scan_covers.1 _ _ scanned⟩

end Token

end Stepwise
