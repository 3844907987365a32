import Stepwise.Lowering.Outcome
import Stepwise.Proofs.Lowering.Literals
import Stepwise.Proofs.Lowering.Offence
import Stepwise.Proofs.Numeral.Format

/-!
# Literals stay what they are in the text

What the recursion finds for a tree and the operations that it adds are accounted for by the numbers
of the text, if all literals of the tree are such numbers (`Lowers.isAccounted`). Main statement:
every literal of a decomposition is a number of the text, written as there, with a minus sign or
without, and zero has no sign; the only exception is the `0` from which a sign subtracts
(`decompose_accounts`).
-/

namespace Stepwise

variable {limit : Limit} {supply : Supply}

namespace Numeral

/-- Negation gives a number its sign or takes it off, but gives none to zero. -/
theorem Signs.negate {number text : String} (plain : isMagnitude number.toList = true)
    (signs : Signs number text) : Signs number (negate text) := by
  cases signs with
  | plain =>
    rw [negate_of_isMagnitude plain]
    split
    next => exact .plain
    next nonzero =>
      rw [String.ofList_cons, String.ofList_toList]
      refine .minus fun zero => nonzero ?_
      rw [value_of_isMagnitude plain] at zero
      exact (magnitudeValue_eq_zero_iff plain).1 zero
  | minus =>
    rw [negate_of_signed (toList_minus number), String.ofList_toList]
    exact .plain

end Numeral

/-- The texts are numbers among the tokens. -/
def TokenList.Contains (list : TokenList) (texts : List String) : Prop :=
  ∀ text ∈ texts, text ∈ list.numbers ∧ Numeral.isMagnitude text.toList = true

namespace TokenList

variable {list : TokenList}

theorem backs_reference (id : Id) : list.Backs (.reference id) := nofun

theorem backs_number {text : String} (written : list.Contains [text]) :
    list.Backs (.literal text) := by
  rintro _ ⟨rfl⟩
  obtain ⟨mem, plain⟩ := written text List.mem_cons_self
  exact ⟨text, mem, Numeral.isMagnitude_iff_mem.1 plain, .plain⟩

theorem Backs.negate {text : String} (backs : list.Backs (.literal text)) :
    list.Backs (.literal (Numeral.negate text)) := by
  rintro _ ⟨rfl⟩
  obtain ⟨number, mem, plain, signs⟩ := backs text rfl
  exact ⟨number, mem, plain, signs.negate (Numeral.isMagnitude_iff_mem.2 plain)⟩

@[simp] theorem contains_append {first second : List String} :
    list.Contains (first ++ second) ↔ list.Contains first ∧ list.Contains second :=
  List.forall_mem_append

end TokenList

/-- The literals of a tree are the numbers among its lexemes. -/
theorem Expr.literals_eq_filterMap (e : Expr) :
    e.literals = e.lexemes.filterMap Lexeme.number? := by
  induction e with
  | literal text => rfl
  | paren inner ih =>
    rw [literals, ih, lexemes, List.filterMap_append, List.filterMap_cons_none rfl,
      List.filterMap_cons_none rfl, List.filterMap_nil, List.append_nil]
  | unary op operand ih => rw [literals, ih, lexemes, List.filterMap_cons_none rfl]
  | binary op left right ihl ihr =>
    rw [literals, ihl, ihr, lexemes, List.filterMap_append, List.filterMap_cons_none rfl]

/-- The literals of a text that is read are numbers of the text. -/
theorem Expr.contains_of_read {text : String} {e : Expr} (h : read text = .ok e) :
    ∃ list, Token.scan text = .ok list ∧ list.Contains e.literals := by
  obtain ⟨-, list, laid, order⟩ := read_eq_ok_iff.1 h
  refine ⟨list, Token.scan_eq_ok_iff.2 laid, fun number mem => ?_⟩
  rw [literals_eq_filterMap, ← order, List.filterMap_map] at mem
  refine ⟨mem, ?_⟩
  obtain ⟨⟨lexeme, offset⟩, within, isNumber⟩ := List.mem_filterMap.1 mem
  cases lexeme with
  | number written =>
    cases isNumber
    exact laid.isWellSpelt _ within
  | operator | opening | closing => cases isNumber

/-- From one tally to the next operations were kept that account for the nodes of the tree, and the
operand is backed. -/
structure Expr.IsAccounted (list : TokenList) (e : Expr) (tally : Tally) (operand : Operand)
    (next : Tally) : Prop where
  operand : list.Backs operand
  kept : ∃ added, next.kept = tally.kept ++ added ∧ List.Forall₂ list.Accounts added e.operators

theorem Tally.ask_of_room {tally : Tally} (room : tally.asked < limit.maxOperations)
    (kind : Arithmetic) (left right : Operand) :
    tally.ask limit supply kind left right =
      (.reference (supply tally.kept.length),
        ⟨tally.kept ++ [.new (supply tally.kept.length) kind left right], tally.asked + 1⟩) :=
  if_pos room

/-- Within the limit, what the recursion finds for a tree is accounted for by the numbers of the
text. -/
theorem Lowers.isAccounted {list : TokenList} {e : Expr} {tally next : Tally} {operand : Operand}
    (h : Lowers limit supply e tally operand next) (within : next.asked ≤ limit.maxOperations)
    (written : list.Contains e.literals) : e.IsAccounted list tally operand next := by
  induction h with
  | literal => exact ⟨list.backs_number written, [], (List.append_nil _).symm, .nil⟩
  | paren _ ih =>
    obtain ⟨backs, kept⟩ := ih within written
    exact ⟨backs, kept⟩
  | @fold inner tally next text lowers ih =>
    obtain ⟨backs, added, kept, accounts⟩ := ih within written
    -- a tree whose value is a literal has no binary operator, so the sign needs no operation
    have plain : inner.hasBinary = false := lowers.isNone_literal?.symm
    refine ⟨backs.negate, added, kept, ?_⟩
    simpa [Expr.operators, plain] using accounts
  | @negate inner tally next id lowers ih =>
    have room : next.asked < limit.maxOperations := by simpa [Nat.add_one_le_iff] using within
    obtain ⟨-, added, kept, accounts⟩ := ih (Nat.le_of_lt room) written
    have signed : inner.hasBinary = true := lowers.isNone_literal?.symm
    rw [Tally.ask_of_room room]
    refine ⟨list.backs_reference _, _, (congrArg (· ++ _) kept).trans (List.append_assoc ..), ?_⟩
    rw [Expr.operators, if_pos signed]
    exact List.rel_append accounts (.cons (.sign rfl rfl rfl) .nil)
  | @step op kind left right tally middle next first second known _ _ lowersRight ihl ihr =>
    have room : next.asked < limit.maxOperations := by simpa [Nat.add_one_le_iff] using within
    have less := lowersRight.asked_le
    obtain ⟨inLeft, inRight⟩ := TokenList.contains_append.1 written
    obtain ⟨backsLeft, addedLeft, keptLeft, accountsLeft⟩ := ihl (by omega) inLeft
    obtain ⟨backsRight, addedRight, keptRight, accountsRight⟩ := ihr (by omega) inRight
    have kept : next.kept = tally.kept ++ (addedLeft ++ addedRight) := by
      rw [keptRight, keptLeft, List.append_assoc]
    rw [Tally.ask_of_room room]
    refine ⟨list.backs_reference _, _, (congrArg (· ++ _) kept).trans (List.append_assoc ..), ?_⟩
    have root : list.Accounts (.new (supply next.kept.length) kind first second)
        (.binary op left right) :=
      .operator (Arithmetic.symbol_of_ofSymbol? known) backsLeft backsRight
    exact List.rel_append (List.rel_append accountsLeft accountsRight) (.cons root .nil)

/-- Every literal of a decomposition is a number of the text, as it is written there, or a minus
sign and such a number that is not zero. The only exception is the `0` from which the operation of
a sign subtracts: there is one operation for each binary operator and for each minus sign before a
tree with a binary operator, and those of the signs alone have it. -/
theorem decompose_accounts {text : String} {decomposition : Decomposition}
    (h : decompose limit supply text = .ok decomposition) :
    ∃ list e, Token.scan text = .ok list ∧ Expr.read text = .ok e ∧
      list.Backs decomposition.result ∧
      List.Forall₂ list.Accounts decomposition.operations e.operators := by
  obtain ⟨e, read, lowered⟩ := lower_of_decompose h
  obtain ⟨list, scanned, written⟩ := Expr.contains_of_read read
  obtain ⟨tally, lowers, within, operations⟩ := Expr.lowers_of_lower lowered
  obtain ⟨backs, added, kept, accounts⟩ := lowers.isAccounted within written
  refine ⟨list, e, scanned, read, backs, ?_⟩
  rw [operations, kept]
  exact accounts

/-- Signs go into the literals behind them, but not before zero, and the first operand of the
subtraction is no number of the text. -/
theorem decompose_accounts_signs :
    ∃ (list : TokenList) (e : Expr), Token.scan "-(1+-007)*-(-0.0)" = .ok list ∧
      list.numbers = ["1", "007", "0.0"] ∧
      decompose .standard (.counting ⟨10⟩) "-(1+-007)*-(-0.0)" =
        .ok ⟨[.new ⟨10⟩ .addition (.literal "1") (.literal "-007"),
          .new ⟨11⟩ .subtraction (.literal "0") (.reference ⟨10⟩),
          .new ⟨12⟩ .multiplication (.reference ⟨11⟩) (.literal "0.0")], .reference ⟨12⟩⟩ ∧
      List.Forall₂ list.Accounts
        [.new ⟨10⟩ .addition (.literal "1") (.literal "-007"),
          .new ⟨11⟩ .subtraction (.literal "0") (.reference ⟨10⟩),
          .new ⟨12⟩ .multiplication (.reference ⟨11⟩) (.literal "0.0")] e.operators := by
  have decomposed : decompose .standard (.counting ⟨10⟩) "-(1+-007)*-(-0.0)" =
      .ok ⟨[.new ⟨10⟩ .addition (.literal "1") (.literal "-007"),
        .new ⟨11⟩ .subtraction (.literal "0") (.reference ⟨10⟩),
        .new ⟨12⟩ .multiplication (.reference ⟨11⟩) (.literal "0.0")], .reference ⟨12⟩⟩ := by
    decide +kernel
  have numbered : (Token.scan "-(1+-007)*-(-0.0)").map TokenList.numbers =
      .ok ["1", "007", "0.0"] := by
    decide +kernel
  obtain ⟨list, e, scanned, -, -, accounts⟩ := decompose_accounts decomposed
  rw [scanned] at numbered
  exact ⟨list, e, scanned, Except.ok.inj numbered, decomposed, accounts⟩

end Stepwise
