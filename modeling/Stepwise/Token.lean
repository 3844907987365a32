/-!
# Tokens

A token is a lexeme together with the byte offset at which it starts in the UTF-8 form of the
text. Faults name the token that was found, or the end of the input where no token is left.
-/

namespace Stepwise

/-- What a token is made of. Operators are the characters `+ - * / %`. -/
inductive Lexeme where
  | number (text : String)
  | operator (op : Char)
  | opening
  | closing
deriving DecidableEq, Repr

namespace Lexeme

/-- The characters that are operators. -/
def isOperatorChar (c : Char) : Bool :=
  c == '+' || c == '-' || c == '*' || c == '/' || c == '%'

/-- The lexeme that a single character makes up, if it makes up one. -/
def ofChar? (c : Char) : Option Lexeme :=
  if isOperatorChar c then some (operator c)
  else if c = '(' then some opening
  else if c = ')' then some closing
  else none

/-- The characters of a lexeme in the text. -/
def chars : Lexeme → List Char
  | number text => text.toList
  | operator op => [op]
  | opening => ['(']
  | closing => [')']

/-- How a fault names what was found: a lexeme, or nothing but the end of the input. -/
def describe : Option Lexeme → String
  | some (number text) => s!"number '{text}'"
  | some (operator op) => s!"operator '{op}'"
  | some opening => "'('"
  | some closing => "')'"
  | none => "end of input"

theorem ofChar?_eq_some_iff {c : Char} {lexeme : Lexeme} :
    ofChar? c = some lexeme ↔
      (isOperatorChar c = true ∧ lexeme = operator c) ∨ (c = '(' ∧ lexeme = opening) ∨
        (c = ')' ∧ lexeme = closing) := by
  unfold ofChar?
  constructor
  · intro h
    split at h
    next op => exact .inl ⟨op, (Option.some.inj h).symm⟩
    split at h
    next isOpen => exact .inr (.inl ⟨isOpen, (Option.some.inj h).symm⟩)
    split at h
    next isClose => exact .inr (.inr ⟨isClose, (Option.some.inj h).symm⟩)
    next => cases h
  · rintro (⟨op, rfl⟩ | ⟨rfl, rfl⟩ | ⟨rfl, rfl⟩)
    · rw [if_pos op]
    · rfl
    · rfl

theorem chars_of_ofChar? {c : Char} {lexeme : Lexeme} (h : ofChar? c = some lexeme) :
    lexeme.chars = [c] := by
  rcases ofChar?_eq_some_iff.1 h with ⟨_, rfl⟩ | ⟨rfl, rfl⟩ | ⟨rfl, rfl⟩ <;> rfl

end Lexeme

/-- A lexeme and the byte offset where it starts. -/
structure Token where
  lexeme : Lexeme
  offset : Nat
deriving DecidableEq, Repr

/-- The tokens of a text in order, and the byte offset of the end of the input. -/
structure TokenList where
  tokens : List Token
  stop : Nat
deriving DecidableEq, Repr

end Stepwise
