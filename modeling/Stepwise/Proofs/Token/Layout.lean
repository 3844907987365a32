import Stepwise.Proofs.Numeral
import Stepwise.Token.Layout
import Stepwise.Token.Scan

/-!
# Scanning reads exactly what is laid out

A scan succeeds with a list of tokens exactly when the text is these tokens, laid out with gaps
(`Token.scan_eq_ok_iff`). What a token is followed by decides whether it is whole: a number ends
before a character that is neither a digit nor a point, and no text that is laid out starts with
a point.
-/

namespace Stepwise

open Text (isLayout)

theorem Text.toNat_of_isDigit {c : Char} (h : c.isDigit = true) : 48 ≤ c.toNat ∧ c.toNat ≤ 57 := by
  simpa [Char.isDigit, UInt32.le_iff_toNat_le] using h

theorem Text.not_isBlank_of_isDigit {c : Char} (h : c.isDigit = true) : isBlank c = false := by
  obtain ⟨least, most⟩ := toNat_of_isDigit h
  simp [isBlank, inRanges, blankRanges]
  omega

theorem Text.not_isDigit_of_isLayout {c : Char} (h : isLayout c = true) : c.isDigit = false := by
  cases digit : c.isDigit with
  | false => rfl
  | true => rw [← not_isBlank_of_isDigit digit, isBlank_of_isLayout h]

/-- A symbol is neither blank nor a digit, and takes one byte. -/
theorem Lexeme.symbol_of_ofChar? {c : Char} {lexeme : Lexeme} (h : ofChar? c = some lexeme) :
    Text.isBlank c = false ∧ c.isDigit = false ∧ c.utf8Size = 1 := by
  rcases ofChar?_eq_some_iff.1 h with ⟨op, -⟩ | ⟨rfl, -⟩ | ⟨rfl, -⟩
  · simp only [isOperatorChar, Bool.or_eq_true, beq_iff_eq] at op
    rcases op with (((rfl | rfl) | rfl) | rfl) | rfl <;> decide
  · decide
  · decide

theorem Lexeme.not_isDigit_of_ofChar? {c : Char} {lexeme : Lexeme} (h : ofChar? c = some lexeme) :
    c.isDigit = false ∧ isLayout c = false := by
  obtain ⟨visible, notDigit, -⟩ := symbol_of_ofChar? h
  refine ⟨notDigit, ?_⟩
  cases layout : isLayout c with
  | false => rfl
  | true => rw [← visible, Text.isBlank_of_isLayout layout]

namespace Token

section Number

open Numeral (isDigits isDigits_iff isMagnitude isMagnitude_iff isDigit_ne_point)

theorem isDigits_takeWhile {cs : List Char} (h : cs.takeWhile Char.isDigit ≠ []) :
    isDigits (cs.takeWhile Char.isDigit) = true :=
  isDigits_iff.2 ⟨h, fun _ mem => List.mem_takeWhile_imp mem⟩

/-- What is split off before more text is a magnitude. -/
theorem isMagnitude_of_splitNumber {c : Char} {cs text rest : List Char}
    (digit : c.isDigit = true) (h : splitNumber (c :: cs) = some (text, rest)) :
    isMagnitude text = true := by
  have whole : isDigits ((c :: cs).takeWhile Char.isDigit) = true :=
    isDigits_takeWhile (by simp [digit])
  unfold splitNumber at h
  split at h
  next fraction _ =>
    split at h
    next => cases h
    next nonempty =>
      cases h
      have digits : isDigits (fraction.takeWhile Char.isDigit) = true :=
        isDigits_takeWhile (by simpa using nonempty)
      exact isMagnitude_iff.2 (.inr ⟨_, _, rfl, whole, digits⟩)
  next =>
    cases h
    exact isMagnitude_iff.2 (.inl whole)

/-- A number is split off as long as it is. -/
theorem not_isDigit_of_splitNumber {cs text rest : List Char}
    (h : splitNumber cs = some (text, rest)) : ∀ c ∈ rest.head?, c.isDigit = false := by
  have stops (ds : List Char) : ∀ c ∈ (ds.dropWhile Char.isDigit).head?, c.isDigit = false := by
    intro c mem
    have stop := List.head?_dropWhile_not Char.isDigit ds
    rw [mem] at stop
    simpa using stop
  unfold splitNumber at h
  split at h
  next fraction _ =>
    split at h
    next => cases h
    next => cases h; exact stops fraction
  next => cases h; exact stops cs

theorem dropWhile_append_eq {ds rest : List Char} (digits : ∀ c ∈ ds, c.isDigit = true)
    (stops : ∀ c ∈ rest.head?, c.isDigit = false) : (ds ++ rest).dropWhile Char.isDigit = rest := by
  rw [List.dropWhile_append_of_pos digits]
  cases rest with
  | nil => rfl
  | cons c cs => simp [stops c rfl]

theorem takeWhile_append_eq {ds rest : List Char} (digits : ∀ c ∈ ds, c.isDigit = true)
    (stops : ∀ c ∈ rest.head?, c.isDigit = false) : (ds ++ rest).takeWhile Char.isDigit = ds := by
  rw [List.takeWhile_append_of_pos digits]
  cases rest with
  | nil => simp
  | cons c cs => simp [stops c rfl]

/-- A magnitude is split off whole where neither a digit nor a point follows it. -/
theorem splitNumber_append {text rest : List Char} (h : isMagnitude text = true)
    (stops : ∀ c ∈ rest.head?, c.isDigit = false) (noPoint : rest.head? ≠ some '.') :
    splitNumber (text ++ rest) = some (text, rest) := by
  rcases isMagnitude_iff.1 h with digits | ⟨whole, fraction, rfl, left, right⟩
  · have all := (isDigits_iff.1 digits).2
    rw [splitNumber, dropWhile_append_eq all stops, takeWhile_append_eq all stops]
    split
    next => exact absurd rfl noPoint
    next => rfl
  · obtain ⟨-, allLeft⟩ := isDigits_iff.1 left
    obtain ⟨nonempty, allRight⟩ := isDigits_iff.1 right
    have point : ∀ c ∈ ('.' :: (fraction ++ rest)).head?, c.isDigit = false := by
      rintro c ⟨rfl⟩
      decide
    rw [List.append_assoc, List.cons_append, splitNumber, dropWhile_append_eq allLeft point,
      takeWhile_append_eq allLeft point]
    simp only [takeWhile_append_eq allRight stops, dropWhile_append_eq allRight stops]
    exact if_neg (by simpa using nonempty)

end Number

/-! One token or gap at the front of a text. -/

theorem scanFrom_gap {c : Char} (gap : isLayout c = true) (position : Nat) (rest : List Char)
    (done : List Token) :
    scanFrom position (c :: rest) done = scanFrom (position + 1) rest done := by
  rw [scanFrom, if_pos gap]

theorem scanFrom_symbol {c : Char} {lexeme : Lexeme} (known : Lexeme.ofChar? c = some lexeme)
    (position : Nat) (rest : List Char) (done : List Token) :
    scanFrom position (c :: rest) done =
      scanFrom (position + 1) rest (⟨lexeme, position⟩ :: done) := by
  obtain ⟨notDigit, notGap⟩ := Lexeme.not_isDigit_of_ofChar? known
  rw [scanFrom, if_neg (by simp [notGap]), dif_neg (by simp [notDigit]), known]

theorem scanFrom_number {c : Char} {cs text rest : List Char} (digit : c.isDigit = true)
    (number : splitNumber (c :: cs) = some (text, rest)) (position : Nat) (done : List Token) :
    scanFrom position (c :: cs) done =
      scanFrom (position + text.length) rest
        (⟨.number (String.ofList text), position⟩ :: done) := by
  have notGap : isLayout c ≠ true := fun gap => by
    rw [Text.not_isDigit_of_isLayout gap] at digit
    cases digit
  rw [scanFrom, if_neg notGap, dif_pos digit]
  split
  next none => rw [number] at none; cases none
  next eq => rw [number] at eq; cases eq; rfl

end Token

/-- A lexeme that is well spelt is a number or a single character. -/
theorem Lexeme.spelt_cases {lexeme : Lexeme} (spelt : lexeme.isWellSpelt = true) :
    (∃ text, lexeme = number text ∧ Numeral.isMagnitude text.toList = true) ∨
      ∃ c, lexeme.chars = [c] ∧ ofChar? c = some lexeme ∧ lexeme.isNumber = false := by
  cases lexeme with
  | number text => exact .inl ⟨text, rfl, spelt⟩
  | operator op => exact .inr ⟨op, rfl, ofChar?_eq_some_iff.2 (.inl ⟨spelt, rfl⟩), rfl⟩
  | opening => exact .inr ⟨'(', rfl, rfl, rfl⟩
  | closing => exact .inr ⟨')', rfl, rfl, rfl⟩

theorem Lexeme.isWellSpelt_of_ofChar? {c : Char} {lexeme : Lexeme} (h : ofChar? c = some lexeme) :
    lexeme.isWellSpelt = true ∧ lexeme.isNumber = false := by
  rcases ofChar?_eq_some_iff.1 h with ⟨op, rfl⟩ | ⟨-, rfl⟩ | ⟨-, rfl⟩
  · exact ⟨op, rfl⟩
  · exact ⟨rfl, rfl⟩
  · exact ⟨rfl, rfl⟩

/-- A lexeme is visible. -/
theorem Lexeme.exists_not_isBlank {lexeme : Lexeme} (spelt : lexeme.isWellSpelt = true) :
    ∃ c ∈ lexeme.chars, Text.isBlank c = false := by
  rcases spelt_cases spelt with ⟨text, rfl, plain⟩ | ⟨c, chars, known, -⟩
  · obtain ⟨d, ds, chars, digit⟩ := Numeral.isDigit_head_of_isMagnitude plain
    exact ⟨d, by simp [Lexeme.chars, chars], Text.not_isBlank_of_isDigit digit⟩
  · exact ⟨c, by simp [chars], (symbol_of_ofChar? known).1⟩

namespace LaidOut

theorem isWellSpelt {position : Nat} {cs : List Char} {list : TokenList}
    (h : LaidOut position cs list) : ∀ token ∈ list.tokens, token.lexeme.isWellSpelt = true := by
  induction h with
  | done => exact nofun
  | gap _ _ ih => exact ih
  | token spelt _ _ ih =>
    rintro token (_ | ⟨_, mem⟩)
    · exact spelt
    · exact ih token mem

/-- Where a token is laid out, something is visible. -/
theorem exists_not_isBlank {position : Nat} {cs : List Char} {list : TokenList}
    (h : LaidOut position cs list) (nonempty : list.tokens ≠ []) :
    ∃ c ∈ cs, Text.isBlank c = false := by
  induction h with
  | done => exact absurd rfl nonempty
  | gap _ _ ih =>
    obtain ⟨c, mem, visible⟩ := ih nonempty
    exact ⟨c, List.mem_cons_of_mem _ mem, visible⟩
  | token spelt _ _ _ =>
    obtain ⟨c, mem, visible⟩ := Lexeme.exists_not_isBlank spelt
    exact ⟨c, List.mem_append_left _ mem, visible⟩

/-- A text that is laid out starts with a gap, with a number, or with a symbol. -/
theorem head_cases {position : Nat} {c : Char} {cs : List Char} {list : TokenList}
    (h : LaidOut position (c :: cs) list) :
    isLayout c = true ∨ (c.isDigit = true ∧ startsWithNumber list.tokens = true) ∨
      ((∃ lexeme, Lexeme.ofChar? c = some lexeme) ∧ startsWithNumber list.tokens = false) := by
  generalize eq : c :: cs = text at h
  cases h with
  | done => cases eq
  | gap layout _ =>
    cases eq
    exact .inl layout
  | @token _ lexeme rest tokens stop spelt _ _ =>
    rcases Lexeme.spelt_cases spelt with ⟨text, rfl, plain⟩ | ⟨d, chars, known, symbol⟩
    · obtain ⟨d, ds, head, digit⟩ := Numeral.isDigit_head_of_isMagnitude plain
      rw [Lexeme.chars, head] at eq
      obtain ⟨rfl, -⟩ := List.cons.inj eq
      exact .inr (.inl ⟨digit, rfl⟩)
    · rw [chars] at eq
      obtain ⟨rfl, -⟩ := List.cons.inj eq
      refine .inr (.inr ⟨⟨lexeme, known⟩, ?_⟩)
      simpa [startsWithNumber] using symbol

/-- No text that is laid out starts with a point. -/
theorem head?_ne_point {position : Nat} {cs : List Char} {list : TokenList}
    (h : LaidOut position cs list) : cs.head? ≠ some '.' := by
  intro point
  cases cs with
  | nil => cases point
  | cons c cs =>
    cases point
    rcases h.head_cases with layout | ⟨digit, -⟩ | ⟨⟨lexeme, known⟩, -⟩
    · cases layout
    · cases digit
    · cases known

end LaidOut

namespace Token

/-- The character after a number is no digit: a digit would start another number, and numbers
stand apart. -/
theorem not_isDigit_after_number {position : Nat} {rest : List Char} {list : TokenList}
    (h : LaidOut position rest list)
    (apart : startsWithNumber list.tokens = true → ∃ c ∈ rest.head?, isLayout c = true) :
    ∀ c ∈ rest.head?, c.isDigit = false := by
  intro c mem
  cases rest with
  | nil => cases mem
  | cons d ds =>
    cases mem
    rcases h.head_cases with layout | ⟨-, number⟩ | ⟨⟨lexeme, known⟩, -⟩
    · exact Text.not_isDigit_of_isLayout layout
    · obtain ⟨e, head, layout⟩ := apart number
      cases head
      exact Text.not_isDigit_of_isLayout layout
    · exact (Lexeme.not_isDigit_of_ofChar? known).1

/-- A lexeme at the front is taken whole, where what follows a number ends it. -/
theorem scanFrom_token {lexeme : Lexeme} {rest : List Char}
    (spelt : lexeme.isWellSpelt = true)
    (stops : lexeme.isNumber = true → ∀ c ∈ rest.head?, c.isDigit = false)
    (noPoint : rest.head? ≠ some '.') (position : Nat) (done : List Token) :
    scanFrom position (lexeme.chars ++ rest) done =
      scanFrom (position + lexeme.chars.length) rest (⟨lexeme, position⟩ :: done) := by
  rcases Lexeme.spelt_cases spelt with ⟨text, rfl, plain⟩ | ⟨c, chars, known, -⟩
  · obtain ⟨d, ds, chars, digit⟩ := Numeral.isDigit_head_of_isMagnitude plain
    have number := splitNumber_append plain (stops rfl) noPoint
    rw [chars, List.cons_append] at number
    rw [Lexeme.chars, chars, List.cons_append, scanFrom_number digit number, ← chars,
      String.ofList_toList]
  · rw [chars]
    exact scanFrom_symbol known position rest done

/-- A laid-out text is scanned into its tokens, whatever was scanned before it, where what follows
cannot go on with its last number. -/
theorem scanFrom_append {position : Nat} {cs rest : List Char} {list : TokenList}
    (h : LaidOut position cs list) (stops : ∀ c ∈ rest.head?, c.isDigit = false ∧ c ≠ '.')
    (done : List Token) :
    scanFrom position (cs ++ rest) done =
      scanFrom list.stop rest (list.tokens.reverse ++ done) := by
  induction h generalizing done with
  | done position => rfl
  | gap layout _ ih => rw [List.cons_append, scanFrom_gap layout, ih]
  | @token position lexeme between tokens stop spelt apart tail ih =>
    have next : ∀ c ∈ (between ++ rest).head?,
        (lexeme.isNumber = true → c.isDigit = false) ∧ c ≠ '.' := by
      intro c mem
      cases between with
      | nil => exact ⟨fun _ => (stops c mem).1, (stops c mem).2⟩
      | cons d between =>
        refine ⟨fun number => not_isDigit_after_number tail (apart number) c mem, ?_⟩
        rintro rfl
        exact tail.head?_ne_point mem
    have noPoint : (between ++ rest).head? ≠ some '.' := fun point => (next '.' point).2 rfl
    rw [List.append_assoc,
      scanFrom_token spelt (fun number c mem => (next c mem).1 number) noPoint, ih,
      List.reverse_cons, List.append_assoc, List.singleton_append]

/-- A laid-out text is scanned into its tokens, whatever was scanned before it. -/
theorem scanFrom_eq_ok {position : Nat} {cs : List Char} {list : TokenList}
    (h : LaidOut position cs list) (done : List Token) :
    scanFrom position cs done = .ok ⟨done.reverse ++ list.tokens, list.stop⟩ := by
  have atEnd : ∀ c ∈ ([] : List Char).head?, c.isDigit = false ∧ c ≠ '.' := nofun
  have scanned := scanFrom_append h atEnd done
  rw [List.append_nil] at scanned
  rw [scanned, scanFrom, List.reverse_append, List.reverse_reverse]

end Token

namespace LaidOut

variable {position stop : Nat} {tokens : List Token} {c : Char} {cs : List Char}

/-- A symbol may stand before anything that is laid out. -/
theorem symbol {lexeme : Lexeme} (known : Lexeme.ofChar? c = some lexeme)
    (laid : LaidOut (position + 1) cs ⟨tokens, stop⟩) :
    LaidOut position (c :: cs) ⟨⟨lexeme, position⟩ :: tokens, stop⟩ := by
  obtain ⟨spelt, symbol⟩ := Lexeme.isWellSpelt_of_ofChar? known
  have chars := Lexeme.chars_of_ofChar? known
  have tail : LaidOut (position + lexeme.chars.length) cs ⟨tokens, stop⟩ := by
    rw [chars]
    exact laid
  have token := tail.token spelt (by rw [symbol]; exact nofun)
  rwa [chars] at token

/-- A number that was split off may stand before any part of the text after it. -/
theorem number {text after before : List Char} (digit : c.isDigit = true)
    (split : Token.splitNumber (c :: cs) = some (text, after)) (part : before <+: after)
    (laid : LaidOut (position + text.length) before ⟨tokens, stop⟩) :
    LaidOut position (text ++ before)
      ⟨⟨.number (String.ofList text), position⟩ :: tokens, stop⟩ := by
  -- A number that follows without a gap would have been split off with this one.
  have apart : startsWithNumber tokens = true → ∃ d ∈ before.head?, isLayout d = true := by
    intro starts
    cases before with
    | nil =>
      obtain ⟨d, mem, -⟩ := laid.exists_not_isBlank (by rintro rfl; cases starts)
      cases mem
    | cons d ds =>
      obtain ⟨others, rfl⟩ := part
      rcases laid.head_cases with layout | ⟨more, -⟩ | ⟨-, symbol⟩
      · exact ⟨d, rfl, layout⟩
      · rw [Token.not_isDigit_of_splitNumber split d rfl] at more
        cases more
      · rw [symbol] at starts
        cases starts
  have spelt : (Lexeme.number (String.ofList text)).isWellSpelt = true := by
    simpa [Lexeme.isWellSpelt] using Token.isMagnitude_of_splitNumber digit split
  have tail : LaidOut (position + (Lexeme.number (String.ofList text)).chars.length) before
      ⟨tokens, stop⟩ := by
    simpa [Lexeme.chars] using laid
  have token := tail.token spelt fun _ => apart
  simpa [Lexeme.chars] using token

end LaidOut

namespace Token

/-- How a scan ends after some tokens: with its text, at digits and a point without a digit after
it, or at a character that starts no token. -/
inductive Ends (tokens : List Token) (stop : Nat) :
    List Char → Except SyntaxFault TokenList → Prop where
  | done : Ends tokens stop [] (.ok ⟨tokens, stop⟩)
  | malformed {digits rest : List Char} : Numeral.isDigits digits = true →
      (∀ c ∈ rest.head?, c.isDigit = false) →
      Ends tokens stop (digits ++ '.' :: rest) (.error (.malformedNumber stop))
  | unexpected {c : Char} {rest : List Char} : c.isDigit = false → isLayout c = false →
      Lexeme.ofChar? c = none →
      Ends tokens stop (c :: rest) (.error (.unexpectedCharacter c stop))

/-- What no number can be split off from is digits and a point without a digit after it. -/
theorem exists_malformed {c : Char} {cs : List Char} (digit : c.isDigit = true)
    (h : splitNumber (c :: cs) = none) : ∃ digits rest, c :: cs = digits ++ '.' :: rest ∧
      Numeral.isDigits digits = true ∧ ∀ d ∈ rest.head?, d.isDigit = false := by
  unfold splitNumber at h
  split at h
  next rest point =>
    split at h
    next empty =>
      refine ⟨(c :: cs).takeWhile Char.isDigit, rest, ?_, isDigits_takeWhile (by simp [digit]), ?_⟩
      · rw [← point, List.takeWhile_append_dropWhile]
      · cases rest with
        | nil => exact nofun
        | cons d ds => simpa using empty
    next => cases h
  next => cases h

/-- A scan goes through a part of the text that is laid out, and ends where it cannot go on. -/
theorem exists_ends (position : Nat) (cs : List Char) (done : List Token) :
    ∃ before after tokens stop, cs = before ++ after ∧ LaidOut position before ⟨tokens, stop⟩ ∧
      Ends (done.reverse ++ tokens) stop after (scanFrom position cs done) := by
  fun_induction scanFrom position cs done with
  | case1 position done =>
    refine ⟨[], [], [], position, rfl, .done position, ?_⟩
    rw [List.append_nil]
    exact .done
  | case2 position done c rest layout ih =>
    obtain ⟨before, after, tokens, stop, rfl, laid, ends⟩ := ih
    exact ⟨c :: before, after, tokens, stop, rfl, .gap layout laid, ends⟩
  | case3 position done c rest _ digit malformed =>
    obtain ⟨digits, more, split, isDigits, stops⟩ := exists_malformed digit malformed
    refine ⟨[], c :: rest, [], position, rfl, .done position, ?_⟩
    rw [split]
    exact .malformed isDigits stops
  | case4 position done c rest _ digit text after number ih =>
    obtain ⟨before, others, tokens, stop, rfl, laid, ends⟩ := ih
    refine ⟨text ++ before, others, _, stop, ?_,
      .number digit number (List.prefix_append before others) laid, by simpa using ends⟩
    rw [List.append_assoc, append_of_splitNumber number]
  | case5 position done c rest _ _ lexeme known ih =>
    obtain ⟨before, after, tokens, stop, rfl, laid, ends⟩ := ih
    exact ⟨c :: before, after, _, stop, rfl, .symbol known laid, by simpa using ends⟩
  | case6 position done c rest notGap notDigit unknown =>
    exact ⟨[], c :: rest, [], position, rfl, .done position,
      .unexpected (by simpa using notDigit) (by simpa using notGap) unknown⟩

/-- What is scanned is laid out. -/
theorem laidOut_of_scanFrom {position : Nat} {cs : List Char} {done : List Token}
    {list : TokenList} (h : scanFrom position cs done = .ok list) :
    ∃ tokens, list.tokens = done.reverse ++ tokens ∧
      LaidOut position cs ⟨tokens, list.stop⟩ := by
  obtain ⟨before, after, tokens, stop, rfl, laid, ends⟩ := exists_ends position cs done
  rw [h] at ends
  cases ends
  exact ⟨tokens, rfl, by rwa [List.append_nil]⟩

/-- A scan reads exactly what is laid out. -/
theorem scan_eq_ok_iff {text : String} {list : TokenList} :
    scan text = .ok list ↔ LaidOut 0 text.toList list := by
  constructor
  · intro h
    obtain ⟨tokens, eq, laid⟩ := laidOut_of_scanFrom h
    obtain rfl : list.tokens = tokens := eq
    exact laid
  · exact fun h => scanFrom_eq_ok h []

end Token

end Stepwise
