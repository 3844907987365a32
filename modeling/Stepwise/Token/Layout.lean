import Mathlib.Computability.Language
import Stepwise.Numeral
import Stepwise.Text.Character
import Stepwise.Token

/-!
# Texts that spell tokens

The format of numbers, what it means that tokens are laid out in a text with gaps between them, and
what it means that they cover it.
-/

namespace Stepwise

namespace Numeral

/-!
## The format of numerals

`digit+ ('.' digit+)?` with or without a minus sign in front, as languages of characters. Only the
ten ASCII digits are digits.
-/

open Computability

/-- The texts of one digit. -/
def digit : Language Char := {cs | ∃ c : Char, c.isDigit = true ∧ cs = [c]}

/-- One digit or more: `digit+`. -/
def digitRows : Language Char := digit * digit∗

/-- Digits, and optionally a point and more digits: `digit+ ('.' digit+)?`. -/
def magnitudes : Language Char := digitRows * (1 + {['.']} * digitRows)

/-- A magnitude with or without a minus sign: `-? digit+ ('.' digit+)?`. -/
def numerals : Language Char := (1 + {['-']}) * magnitudes

end Numeral

/-!
## Texts that spell tokens

`LaidOut position cs list` says that `cs`, whose first character has offset `position`, is made up
of the tokens in `list` at their offsets, with gaps of layout between and around them. The gap
between two numbers must not be empty; all others may be.
-/

namespace Lexeme

/-- The lexeme is spelt as the grammar demands: a number is an unsigned numeral, and an operator
is one of the five characters. -/
def isWellSpelt : Lexeme → Bool
  | number text => Numeral.isMagnitude text.toList
  | operator op => isOperatorChar op
  | _ => true

/-- The lexeme is a number. -/
def isNumber : Lexeme → Bool
  | number _ => true
  | _ => false

end Lexeme

/-- The first of the tokens is a number. -/
def startsWithNumber (tokens : List Token) : Bool :=
  tokens.head?.any fun token => token.lexeme.isNumber

/-- The characters from `position` on are the tokens, laid out with gaps. -/
inductive LaidOut : Nat → List Char → TokenList → Prop where
  | done (position : Nat) : LaidOut position [] ⟨[], position⟩
  | gap {position : Nat} {c : Char} {rest : List Char} {list : TokenList} :
      Text.isLayout c = true → LaidOut (position + 1) rest list →
      LaidOut position (c :: rest) list
  | token {position : Nat} {lexeme : Lexeme} {rest : List Char} {tokens : List Token}
      {stop : Nat} : lexeme.isWellSpelt = true →
      (lexeme.isNumber = true → startsWithNumber tokens = true →
        ∃ c ∈ rest.head?, Text.isLayout c = true) →
      LaidOut (position + lexeme.chars.length) rest ⟨tokens, stop⟩ →
      LaidOut position (lexeme.chars ++ rest) ⟨⟨lexeme, position⟩ :: tokens, stop⟩

/-- The end of the input stands after the last character. -/
theorem LaidOut.stop_eq {position : Nat} {cs : List Char} {list : TokenList}
    (h : LaidOut position cs list) : list.stop = position + cs.length := by
  induction h with
  | done => rfl
  | gap _ _ ih => simp only [ih, List.length_cons]; omega
  | token _ _ _ ih => simp only [List.length_append] at ih ⊢; omega

/-!
## Tokens that cover a text

`list.Covers text` says by byte offsets what it means that nothing of a text is lost in its tokens:
each stands in the text where it says, they do not overlap, and all else is layout. The other way
round, a `SpacedRow` is a choice of lexemes and of gaps around them. It has a text, and its lexemes
have their offsets in it.
-/

namespace Lexeme

/-- The text of a lexeme. -/
def text (lexeme : Lexeme) : String := String.ofList lexeme.chars

/-- A number is `digit+ ('.' digit+)?`, and an operator is one of five characters. -/
def HasForm : Lexeme → Prop
  | number text => text.toList ∈ Numeral.magnitudes
  | operator op => op ∈ ['+', '-', '*', '/', '%']
  | opening | closing => True

end Lexeme

namespace Token

/-- The byte offset at which a token ends. -/
def stop (token : Token) : Nat := token.offset + token.lexeme.text.utf8ByteSize

/-- The token stands in the text at its offset. After a number there is neither a digit nor a
point. -/
def StandsIn (token : Token) (text : String) : Prop :=
  ∃ before after, text = before ++ token.lexeme.text ++ after ∧
    before.utf8ByteSize = token.offset ∧
    (token.lexeme.isNumber = true → ∀ c ∈ after.toList.head?, c.isDigit = false ∧ c ≠ '.')

end Token

/-- The tokens stand in the text in order, the end of the input is the end of the text, and each
character of the text that is part of no token is layout. -/
structure TokenList.Covers (list : TokenList) (text : String) : Prop where
  stop_eq : list.stop = text.utf8ByteSize
  hasForm : ∀ token ∈ list.tokens, token.lexeme.HasForm
  standsIn : ∀ token ∈ list.tokens, token.StandsIn text
  inOrder : list.tokens.Pairwise fun token later => token.stop ≤ later.offset
  layout : ∀ before c after, text = before ++ String.singleton c ++ after →
    Text.isLayout c = true ∨
      ∃ token ∈ list.tokens, token.offset ≤ before.utf8ByteSize ∧ before.utf8ByteSize < token.stop

/-- A lexeme and the gap that follows it. -/
structure SpacedLexeme where
  lexeme : Lexeme
  gap : String
deriving DecidableEq, Repr

/-- The text of a lexeme and of the gap that follows it. -/
def SpacedLexeme.text (item : SpacedLexeme) : String := item.lexeme.text ++ item.gap

/-- Lexemes with gaps around them; `lead` is the gap before the first one. -/
structure SpacedRow where
  lead : String
  items : List SpacedLexeme
deriving DecidableEq, Repr

namespace SpacedRow

/-- The text of a row. -/
def text (row : SpacedRow) : String :=
  row.lead ++ String.join (row.items.map SpacedLexeme.text)

/-- The part of a row before a lexeme, given by its place. -/
def before (row : SpacedRow) (place : Nat) : SpacedRow :=
  { row with items := row.items.take place }

/-- The lexemes of a row as tokens. Each starts where the text before it ends. -/
def tokenList (row : SpacedRow) : TokenList where
  tokens := row.items.mapIdx fun place item => ⟨item.lexeme, (row.before place).text.utf8ByteSize⟩
  stop := row.text.utf8ByteSize

/-- The lexemes have their form, the gaps are layout, and between two numbers there is a gap that
is not empty. -/
structure IsSpaced (row : SpacedRow) : Prop where
  lead : ∀ c ∈ row.lead.toList, Text.isLayout c = true
  hasForm : ∀ item ∈ row.items, item.lexeme.HasForm
  gap : ∀ item ∈ row.items, ∀ c ∈ item.gap.toList, Text.isLayout c = true
  apart : row.items.IsChain fun item next =>
    item.lexeme.isNumber = true → next.lexeme.isNumber = true → item.gap ≠ ""

end SpacedRow

end Stepwise
