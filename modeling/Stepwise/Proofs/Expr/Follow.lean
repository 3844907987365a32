import Stepwise.Expr.Grammar
import Stepwise.Proofs.Expr.Frame

/-!
# What may follow the beginning of an expression

Whether a token may come next hangs on two things only: whether an operand is due, and whether a
group is open. `Token.Follow` says that each of several tokens may come after those before it. The
tokens of a derivation do, wherever an operand is due, and they leave the open groups as they were
(`Token.completes_of_derives`). So an expression begins with no token that may not follow, and ends
in no place where more is due (`Token.follow_of_isViable`, `Token.closed_of_isComplete`).
-/

namespace Stepwise

namespace Token

/-- The lexeme may come after the tokens: a number, an opening parenthesis or a sign where an
operand is due, and an operator or the end of an open group where it is not. -/
def mayFollow (before : List Token) (lexeme : Lexeme) : Bool :=
  match lexeme with
  | .number _ => awaitsOperand before
  | .operator op => !awaitsOperand before || Lexeme.isSumOperator op
  | .opening => awaitsOperand before
  | .closing => !awaitsOperand before && !(openGroups before).isEmpty

/-- Each of the tokens may come after `before` and those of them that stand before it. -/
def Follow : (before tokens : List Token) → Prop
  | _, [] => True
  | before, token :: rest =>
    mayFollow before token.lexeme = true ∧ Follow (before ++ [token]) rest

theorem follow_append {before tokens more : List Token} :
    Follow before (tokens ++ more) ↔ Follow before tokens ∧ Follow (before ++ tokens) more := by
  induction tokens generalizing before with
  | nil => simp [Follow]
  | cons token rest ih => simp [Follow, ih, and_assoc]

@[simp] theorem awaitsOperand_nil : awaitsOperand [] = true := rfl

@[simp] theorem awaitsOperand_concat (before : List Token) (token : Token) :
    awaitsOperand (before ++ [token]) = !token.lexeme.endsOperand := by
  simp [awaitsOperand]

@[simp] theorem openGroups_concat (before : List Token) (token : Token) :
    openGroups (before ++ [token]) = groupsAfter (openGroups before) token := by
  simp [openGroups]

@[simp] theorem pendingOperator?_concat (before : List Token) (token : Token) :
    pendingOperator? (before ++ [token]) =
      match token.lexeme with
      | .operator op => if awaitsOperand before then none else some (op, token.offset)
      | _ => none := by
  obtain ⟨lexeme, offset⟩ := token
  cases lexeme <;> simp [pendingOperator?]

@[simp] theorem lastOpening?_concat (before : List Token) (token : Token) :
    lastOpening? (before ++ [token]) =
      if token.lexeme = .opening then some token.offset else none := by
  obtain ⟨lexeme, offset⟩ := token
  cases lexeme <;> simp [lastOpening?]

/-! ### A derivation follows where an operand is due -/

/-- The tokens make up an operand: they may follow, an operator is due after them, and the same
groups are open. -/
structure Completes (before tokens : List Token) : Prop where
  follow : Follow before tokens
  operator : awaitsOperand (before ++ tokens) = false
  groups : openGroups (before ++ tokens) = openGroups before

namespace Completes

variable {before tokens : List Token}

theorem number (awaits : awaitsOperand before = true) (text : String) (offset : Nat) :
    Completes before [⟨.number text, offset⟩] := by
  refine ⟨⟨awaits, trivial⟩, ?_, ?_⟩
  · simp [Lexeme.endsOperand]
  · simp [groupsAfter]

theorem group {start stop : Nat} (awaits : awaitsOperand before = true)
    (inner : Completes (before ++ [⟨.opening, start⟩]) tokens) :
    Completes before (⟨.opening, start⟩ :: tokens ++ [⟨.closing, stop⟩]) := by
  have shift : before ++ (⟨.opening, start⟩ :: tokens) =
      before ++ [⟨.opening, start⟩] ++ tokens := by simp
  have opened : openGroups (before ++ [⟨.opening, start⟩] ++ tokens) =
      start :: openGroups before := by
    rw [inner.groups, openGroups_concat]
    rfl
  refine ⟨?_, ?_, ?_⟩
  · rw [follow_append, shift]
    refine ⟨⟨awaits, inner.follow⟩, ?_, trivial⟩
    simp only [mayFollow, inner.operator, opened]
    rfl
  · rw [← List.append_assoc, awaitsOperand_concat]
    rfl
  · rw [← List.append_assoc, shift, openGroups_concat, opened]
    rfl

theorem sign {op : Char} {offset : Nat} (isSum : Lexeme.isSumOperator op = true)
    (operand : Completes (before ++ [⟨.operator op, offset⟩]) tokens) :
    Completes before (⟨.operator op, offset⟩ :: tokens) := by
  have shift : before ++ (⟨.operator op, offset⟩ :: tokens) =
      before ++ [⟨.operator op, offset⟩] ++ tokens := by simp
  refine ⟨⟨?_, operand.follow⟩, ?_, ?_⟩
  · simp [mayFollow, isSum]
  · rw [shift]
    exact operand.operator
  · rw [shift, operand.groups, openGroups_concat]
    rfl

theorem binary {op : Char} {offset : Nat} {after : List Token} (first : Completes before tokens)
    (second : Completes (before ++ tokens ++ [⟨.operator op, offset⟩]) after) :
    Completes before (tokens ++ ⟨.operator op, offset⟩ :: after) := by
  have shift : before ++ (tokens ++ ⟨.operator op, offset⟩ :: after) =
      before ++ tokens ++ [⟨.operator op, offset⟩] ++ after := by simp
  refine ⟨?_, ?_, ?_⟩
  · rw [follow_append]
    refine ⟨first.follow, ?_, second.follow⟩
    simp [mayFollow, first.operator]
  · rw [shift]
    exact second.operator
  · rw [shift, second.groups, openGroups_concat, first.groups]
    rfl

end Completes

/-- The tokens of a derivation make up an operand wherever one is due. -/
theorem completes_of_derives {level : Level} {e : Expr} (derives : Derives level e)
    {tokens : List Token} (spelt : tokens.map Token.lexeme = e.lexemes) {before : List Token}
    (awaits : awaitsOperand before = true) : Completes before tokens := by
  -- After an operator an operand is due again.
  have dueAfter (before : List Token) (op : Char) (offset : Nat) :
      awaitsOperand (before ++ [⟨.operator op, offset⟩]) = true := by
    rw [awaitsOperand_concat]
    rfl
  induction derives generalizing tokens before with
  | @number text _ =>
    obtain ⟨⟨lexeme, offset⟩, rfl, rfl⟩ := List.map_eq_singleton_iff.1 spelt
    exact .number awaits text offset
  | group _ ih =>
    obtain ⟨opened, closed, rfl, openedSpelt, closedSpelt⟩ := List.map_eq_append_iff.1 spelt
    obtain ⟨⟨_, start⟩, middle, rfl, rfl, middleSpelt⟩ := List.map_eq_cons_iff.1 openedSpelt
    obtain ⟨⟨_, stop⟩, rfl, rfl⟩ := List.map_eq_singleton_iff.1 closedSpelt
    exact .group awaits (ih middleSpelt (by simp [Lexeme.endsOperand]))
  | sign isSum _ ih =>
    obtain ⟨⟨_, offset⟩, tail, rfl, rfl, tailSpelt⟩ := List.map_eq_cons_iff.1 spelt
    exact .sign isSum (ih tailSpelt (dueAfter _ _ _))
  | tight _ ih => exact ih spelt awaits
  | loose _ ih => exact ih spelt awaits
  | product _ _ _ ihl ihr | sum _ _ _ ihl ihr =>
    obtain ⟨first, later, rfl, firstSpelt, laterSpelt⟩ := List.map_eq_append_iff.1 spelt
    obtain ⟨⟨_, offset⟩, second, rfl, rfl, secondSpelt⟩ := List.map_eq_cons_iff.1 laterSpelt
    exact .binary (ihl firstSpelt awaits) (ihr secondSpelt (dueAfter _ _ _))

/-! ### Viable tokens -/

theorem IsViable.of_append {tokens more : List Token} (h : IsViable (tokens ++ more)) :
    IsViable tokens := by
  obtain ⟨rest, complete⟩ := h
  rw [List.append_assoc] at complete
  exact ⟨more ++ rest, complete⟩

/-- At the end of an expression an operator is due and no group is open. -/
theorem closed_of_isComplete {tokens : List Token} (h : IsComplete tokens) :
    awaitsOperand tokens = false ∧ openGroups tokens = [] := by
  obtain ⟨e, derives, spelt⟩ := h
  have completes := completes_of_derives derives spelt awaitsOperand_nil
  exact ⟨completes.operator, completes.groups⟩

/-- An expression begins with tokens that may follow only. -/
theorem follow_of_isViable {tokens : List Token} (h : IsViable tokens) : Follow [] tokens := by
  obtain ⟨more, e, derives, spelt⟩ := h
  exact (follow_append.1 (completes_of_derives derives spelt awaitsOperand_nil).follow).1

/-- No expression goes on with a token that may not follow. -/
theorem not_isViable_concat {before : List Token} {token : Token}
    (h : mayFollow before token.lexeme = false) : ¬IsViable (before ++ [token]) := by
  intro viable
  obtain ⟨-, follows, -⟩ := follow_append.1 (follow_of_isViable viable)
  rw [List.nil_append, h] at follows
  cases follows

/-- There is one misfit at most. -/
theorem IsMisfit.unique {before rest before' rest' : List Token} (first : IsMisfit before rest)
    (second : IsMisfit before' rest') (same : before ++ rest = before' ++ rest') :
    before = before' ∧ rest = rest' := by
  -- If one beginning were longer, the misfit after the other would be a part of it.
  have noLonger {done left more : List Token} (misfit : IsMisfit done (more ++ left))
      (viable : IsViable (done ++ more)) : more = [] := by
    cases more with
    | nil => rfl
    | cons token more =>
      rw [List.append_cons] at viable
      exact absurd viable.of_append misfit.2
  rcases List.append_eq_append_iff.1 same with ⟨more, rfl, rfl⟩ | ⟨more, rfl, rfl⟩
  · obtain rfl := noLonger first second.1
    simp
  · obtain rfl := noLonger second first.1
    simp

end Token

end Stepwise
