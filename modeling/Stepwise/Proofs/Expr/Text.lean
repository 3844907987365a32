import Stepwise.Proofs.Expr.Reader

/-!
# The text of a tree is read as the tree

The text of a tree has parentheses around each operation, so it can be read without any precedence.
What it is read as is the tree with these parentheses in it (`Expr.read_text`). The sign of a
literal is read as an operator, whatever stands before it.
-/

namespace Stepwise

open Lexeme (isSumOperator isOperatorChar isOperatorChar_iff)

namespace Expr

/-- The tree as which a numeral is read. -/
def ofNumeral (text : String) : Expr :=
  match text.toList with
  | '-' :: magnitude => unary '-' (literal (String.ofList magnitude))
  | _ => literal text

/-- The tree with a group around each operation, and with the signs of literals as operators. -/
def grouped : Expr → Expr
  | literal text => ofNumeral text
  | paren inner => inner.grouped
  | unary op operand => paren (unary op operand.grouped)
  | binary op left right => paren (binary op left.grouped right.grouped)

/-- The literals are numerals, and the operators are those of the grammar. -/
def isReadable : Expr → Bool
  | literal text => Numeral.isNumeral text
  | paren inner => inner.isReadable
  | unary op operand => isSumOperator op && operand.isReadable
  | binary op left right => isOperatorChar op && left.isReadable && right.isReadable

theorem ofNumeral_of_isMagnitude {text : String} (h : Numeral.isMagnitude text.toList = true) :
    ofNumeral text = literal text := by
  unfold ofNumeral
  split
  next magnitude eq => exact absurd (eq ▸ h) (Numeral.not_isMagnitude_minus magnitude)
  next => rfl

theorem ofNumeral_of_signed {text : String} {magnitude : List Char}
    (h : text.toList = '-' :: magnitude) :
    ofNumeral text = unary '-' (literal (String.ofList magnitude)) := by
  simp only [ofNumeral, h]

/-- With a group around each operation, a tree is derived as tightly as can be. -/
theorem derives_grouped {e : Expr} (readable : e.isReadable = true) : Derives .unary e.grouped := by
  induction e with
  | literal text =>
    rcases Numeral.isNumeral_iff.1 readable with plain | ⟨magnitude, signed, plain⟩
    · rw [grouped, ofNumeral_of_isMagnitude plain]
      exact .number plain
    · rw [grouped, ofNumeral_of_signed signed]
      exact .sign rfl (.number (by rwa [String.toList_ofList]))
  | paren inner ih => exact ih readable
  | unary op operand ih =>
    obtain ⟨isSum, inner⟩ := Bool.and_eq_true_iff.1 readable
    exact .group (.loose (.tight (.sign isSum (ih inner))))
  | binary op left right ihl ihr =>
    rw [isReadable, Bool.and_eq_true, Bool.and_eq_true] at readable
    obtain ⟨⟨known, left⟩, right⟩ := readable
    rcases isOperatorChar_iff.1 known with isSum | isProduct
    · exact .group (.sum isSum (ihl left).toSum (.tight (ihr right)))
    · exact .group (.loose (.product isProduct (.tight (ihl left)) (ihr right)))

end Expr

/-- Before a text that is laid out and does not start with a number, the characters are laid out
with these lexemes. -/
def Spells (cs : List Char) (lexemes : List Lexeme) : Prop :=
  ∀ (position : Nat) (rest : List Char) (list : TokenList),
    LaidOut (position + cs.length) rest list → startsWithNumber list.tokens = false →
    ∃ tokens, tokens.map Token.lexeme = lexemes ∧
      LaidOut position (cs ++ rest) ⟨tokens ++ list.tokens, list.stop⟩

namespace Spells

variable {cs : List Char} {lexemes : List Lexeme}

theorem nil : Spells [] [] := fun _ _ _ after _ => ⟨[], rfl, after⟩

theorem number {text : String} (plain : Numeral.isMagnitude text.toList = true) :
    Spells text.toList [.number text] := by
  intro position rest list after symbol
  have apart : startsWithNumber list.tokens = true → ∃ c ∈ rest.head?, Text.isLayout c = true := by
    rw [symbol]
    exact nofun
  have laid : LaidOut position ((Lexeme.number text).chars ++ rest)
      ⟨⟨.number text, position⟩ :: list.tokens, list.stop⟩ := .token plain (fun _ => apart) after
  exact ⟨[⟨.number text, position⟩], rfl, laid⟩

/-- A symbol may stand before anything. -/
theorem symbol (lexeme : Lexeme) (spelt : lexeme.isWellSpelt = true)
    (notNumber : lexeme.isNumber = false) (spells : Spells cs lexemes) :
    Spells (lexeme.chars ++ cs) (lexeme :: lexemes) := by
  intro position rest list after symbol
  rw [List.length_append, ← Nat.add_assoc] at after
  obtain ⟨tokens, order, laid⟩ := spells _ _ _ after symbol
  refine ⟨⟨lexeme, position⟩ :: tokens, by rw [List.map_cons, order], ?_⟩
  rw [List.append_assoc]
  exact .token spelt (by rw [notNumber]; exact nofun) laid

theorem gap (c : Char) (layout : Text.isLayout c = true) (spells : Spells cs lexemes) :
    Spells (c :: cs) lexemes := by
  intro position rest list after symbol
  rw [List.length_cons, Nat.add_comm cs.length, ← Nat.add_assoc] at after
  obtain ⟨tokens, order, laid⟩ := spells _ _ _ after symbol
  exact ⟨tokens, order, .gap layout laid⟩

/-- One text after another, where the second one starts with a symbol. -/
theorem append {more : List Char} {first : Lexeme} {others : List Lexeme}
    (spells : Spells cs lexemes) (follows : Spells more (first :: others))
    (notNumber : first.isNumber = false) :
    Spells (cs ++ more) (lexemes ++ first :: others) := by
  intro position rest list after symbol
  rw [List.length_append, ← Nat.add_assoc] at after
  obtain ⟨later, laterOrder, laterLaid⟩ := follows _ _ _ after symbol
  -- The first token of what follows is no number, as the text before it asks for.
  obtain ⟨token, tail, rfl, isFirst, -⟩ := List.map_eq_cons_iff.1 laterOrder
  obtain ⟨tokens, order, laid⟩ :=
    spells _ _ _ laterLaid (by simp [startsWithNumber, isFirst, notNumber])
  refine ⟨tokens ++ token :: tail, by rw [List.map_append, order, laterOrder], ?_⟩
  rw [List.append_assoc, List.append_assoc]
  exact laid

/-- A text that is spelt is laid out on its own. -/
theorem exists_laidOut (spells : Spells cs lexemes) :
    ∃ list, LaidOut 0 cs list ∧ list.tokens.map Token.lexeme = lexemes := by
  obtain ⟨tokens, order, laid⟩ := spells 0 [] _ (.done (0 + cs.length)) rfl
  rw [List.append_nil] at laid
  exact ⟨_, laid, by rw [List.append_nil, order]⟩

end Spells

namespace Expr

/-- The characters of a tree spell the lexemes of the tree with its groups. -/
theorem spells_chars {e : Expr} (readable : e.isReadable = true) :
    Spells e.chars e.grouped.lexemes := by
  have closing : Spells [')'] [.closing] := .symbol .closing rfl rfl .nil
  induction e with
  | literal text =>
    rw [chars_literal]
    rcases Numeral.isNumeral_iff.1 readable with plain | ⟨magnitude, signed, plain⟩
    · rw [grouped, ofNumeral_of_isMagnitude plain]
      exact .number plain
    · have digits : Spells magnitude [.number (String.ofList magnitude)] := by
        rw [← String.toList_ofList (l := magnitude)] at plain
        simpa using Spells.number plain
      rw [grouped, ofNumeral_of_signed signed, signed]
      exact .symbol (.operator '-') rfl rfl digits
  | paren inner ih => exact ih readable
  | unary op operand ih =>
    obtain ⟨isSum, inner⟩ := Bool.and_eq_true_iff.1 readable
    have known := isOperatorChar_iff.2 (.inl isSum)
    have signed := ((ih inner).append closing rfl).symbol (.operator op) known rfl
    rw [chars_unary, grouped, lexemes, lexemes]
    exact .symbol .opening rfl rfl signed
  | binary op left right ihl ihr =>
    rw [isReadable, Bool.and_eq_true, Bool.and_eq_true] at readable
    obtain ⟨⟨known, left⟩, right⟩ := readable
    have second := ((ihr right).append closing rfl).gap ' ' rfl
    have operator := (second.symbol (.operator op) known rfl).gap ' ' rfl
    have both := (ihl left).append operator rfl
    rw [chars_binary, grouped, lexemes, lexemes, List.cons_append, List.append_assoc]
    exact .symbol .opening rfl rfl both

/-- The text of a tree is read as the tree with a group around each operation. -/
theorem read_text {e : Expr} (readable : e.isReadable = true) : read e.text = .ok e.grouped := by
  rw [read_eq_ok_iff, text, String.toList_ofList]
  exact ⟨(derives_grouped readable).toSum, (spells_chars readable).exists_laidOut⟩

end Expr

end Stepwise
