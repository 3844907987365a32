import Stepwise.Proofs.Expr.Follow
import Stepwise.Proofs.Expr.Reader

/-!
# Faults are raised at the first token that does not fit

A reader knows of the tokens that it has taken all that a fault hangs on: whether an operand is due,
which groups are open, and whether an operator lacks its right operand (`Reader.HasTaken`). It takes
a token exactly if that may follow, so expressions begin with all tokens of which each may follow
(`Token.isViable_iff_follow`). Main statement: a text that is no expression is refused at the first
token that no expression goes on with, with the fault that the tokens before it demand
(`Expr.read_eq_error_at_misfit`). A group that ends at once is refused where it starts, although the
misfit is its end; the fault is the same.
-/

namespace Stepwise

open Token

/-- Where a group ends at once its end is the misfit, and the fault names where the group starts. -/
theorem Token.misfit_of_emptyGroup {before rest : List Token} {token : Token} {stop : Nat}
    (viable : IsViable (before ++ [token])) (isOpening : token.lexeme = .opening)
    (closes : rest.head?.map Token.lexeme = some .closing) :
    IsMisfit (before ++ [token]) rest ∧
      faultAfter (before ++ [token]) (rest.head?.map Token.lexeme) (offsetOf stop rest) =
        .emptyParens token.offset := by
  have due : awaitsOperand (before ++ [token]) = true := by
    rw [awaitsOperand_concat, isOpening]
    rfl
  refine ⟨⟨viable, ?_⟩, ?_⟩
  · cases rest with
    | nil => cases closes
    | cons closing left =>
      refine not_isViable_concat ?_
      simp only [Option.some.inj closes, mayFollow, due]
      rfl
  · simp [closes, faultAfter, due, isOpening]

namespace Reader

/-- The reader has taken the tokens: its operand and frames are derived and made up of them, and
tell what a fault after them names. -/
structure HasTaken (reader : Reader) (before : List Token) : Prop where
  derived : reader.IsDerived
  lexemes : reader.taken = before.map Token.lexeme
  awaits : reader.awaiting = .operand ↔ awaitsOperand before = true
  groups : Frame.groups reader.frames = openGroups before
  pending : reader.awaiting = .operand →
    Frame.pending? reader.frames = pendingOperator? before

theorem hasTaken_start : start.HasTaken [] where
  derived := isDerived_start
  lexemes := rfl
  awaits := ⟨fun _ => rfl, fun _ => rfl⟩
  groups := rfl
  pending := fun _ => rfl

namespace Takes

variable {reader after : Reader} {token : Token} {before : List Token}

/-- An operand is due after a token that ends none. -/
theorem awaiting_iff (takes : Takes reader token after) :
    after.awaiting = .operand ↔ token.lexeme.endsOperand = false := by
  cases takes <;> simp [Lexeme.endsOperand]

/-- Only parentheses open and close groups. -/
theorem groups_eq (takes : Takes reader token after) :
    Frame.groups after.frames = groupsAfter (Frame.groups reader.frames) token := by
  cases takes with
  | number => rfl
  | sign => rfl
  | opening => rfl
  | @operator operand left frames kept op _ whole =>
    have same := Frame.groups_reduce (precedence op) operand frames
    rw [whole] at same
    exact same
  | @closing operand inner frames outer start _ whole =>
    have same := Frame.groups_reduce 0 operand frames
    rw [whole] at same
    simp [groupsAfter, ← same, Frame.groups]

/-- An operator lacks its right operand if it was taken after an operand. -/
theorem pending?_eq (takes : Takes reader token after) (due : after.awaiting = .operand) :
    Frame.pending? after.frames =
      match token.lexeme with
      | .operator op => if reader.awaiting = .operand then none else some (op, token.offset)
      | _ => none := by
  cases takes with
  | number => cases due
  | sign => rfl
  | opening => rfl
  | operator => rfl
  | closing => cases due

/-- One token keeps track of the tokens that were taken. -/
theorem hasTaken (takes : Takes reader token after) (spelt : token.lexeme.isWellSpelt = true)
    (has : reader.HasTaken before) : after.HasTaken (before ++ [token]) := by
  obtain ⟨derived, order⟩ := takes.isDerived spelt has.derived
  refine ⟨derived, ?_, ?_, ?_, fun due => ?_⟩
  · rw [order, has.lexemes, List.map_append, List.map_singleton]
  · rw [takes.awaiting_iff, awaitsOperand_concat, Bool.not_eq_true']
  · rw [takes.groups_eq, has.groups, openGroups_concat]
  · rw [takes.pending?_eq due, pendingOperator?_concat]
    cases token.lexeme <;> simp [has.awaits]

end Takes

namespace HasTaken

variable {reader : Reader} {before : List Token}

theorem not_awaits {operand : Expr} {frames : List Frame}
    (has : HasTaken ⟨.operator operand, frames⟩ before) : awaitsOperand before = false := by
  rw [← Bool.not_eq_true, ← has.awaits]
  exact nofun

/-- What a reader has taken begins an expression. -/
theorem isViable (has : reader.HasTaken before) : IsViable before := by
  -- Where an operand is due, a number is one.
  obtain ⟨operand, derives, begun⟩ : ∃ operand, Derives .unary operand ∧
      ∃ more, Frame.yield reader.frames ++ operand.lexemes = before.map Token.lexeme ++ more := by
    rw [← has.lexemes]
    cases waits : reader.awaiting with
    | operand =>
      exact ⟨.literal "0", .number rfl, [.number "0"], by simp [taken, waits, Expr.lexemes]⟩
    | operator operand =>
      exact ⟨operand, has.derived.operand operand waits, [], by simp [taken, waits]⟩
  obtain ⟨more, begun⟩ := begun
  obtain ⟨e, rest, whole, order⟩ := has.derived.frames.exists_derives derives
  refine ⟨(more ++ rest).map fun lexeme => ⟨lexeme, 0⟩, e, whole, ?_⟩
  simp [order, begun, Function.comp_def]

/-- A reader takes what may follow. -/
theorem exists_takes (has : reader.HasTaken before) {token : Token}
    (follows : mayFollow before token.lexeme = true) : ∃ after, Takes reader token after := by
  obtain ⟨awaiting, frames⟩ := reader
  obtain ⟨lexeme, offset⟩ := token
  cases awaiting with
  | operand =>
    have due : awaitsOperand before = true := has.awaits.1 rfl
    cases lexeme with
    | number text => exact ⟨_, .number⟩
    | operator op =>
      have isSum : Lexeme.isSumOperator op = true := by simpa [mayFollow, due] using follows
      exact ⟨_, .sign isSum⟩
    | opening => exact ⟨_, .opening⟩
    | closing => simp [mayFollow, due] at follows
  | operator operand =>
    have notDue : awaitsOperand before = false := has.not_awaits
    cases lexeme with
    | number text => simp [mayFollow, notDue] at follows
    | operator op => exact ⟨_, .operator rfl⟩
    | opening => simp [mayFollow, notDue] at follows
    | closing =>
      rcases Frame.reduce_zero_cases operand frames with
        ⟨e, whole, closed⟩ | ⟨inner, start, outer, whole, -⟩
      · have none : openGroups before = [] := has.groups.symm.trans closed
        simp [mayFollow, none] at follows
      · exact ⟨_, .closing whole⟩

theorem exists_hasTaken (has : reader.HasTaken before) {tokens : List Token}
    (spelt : ∀ token ∈ tokens, token.lexeme.isWellSpelt = true) (follow : Follow before tokens) :
    ∃ after : Reader, after.HasTaken (before ++ tokens) := by
  induction tokens generalizing reader before with
  | nil => exact ⟨reader, by rwa [List.append_nil]⟩
  | cons token rest ih =>
    obtain ⟨next, takes⟩ := has.exists_takes follow.1
    have nextHas := takes.hasTaken (spelt token List.mem_cons_self) has
    obtain ⟨after, afterHas⟩ :=
      ih nextHas (fun token mem => spelt token (List.mem_cons_of_mem _ mem)) follow.2
    exact ⟨after, by rwa [List.append_cons]⟩

/-- Where an operator is due and no group is open, what a reader has taken is an expression. -/
theorem isComplete (has : reader.HasTaken before) (notDue : awaitsOperand before = false)
    (closed : openGroups before = []) : IsComplete before := by
  obtain ⟨awaiting, frames⟩ := reader
  cases awaiting with
  | operand =>
    rw [has.awaits.1 rfl] at notDue
    cases notDue
  | operator operand =>
    rcases Frame.reduce_zero_cases operand frames with
      ⟨e, whole, -⟩ | ⟨inner, start, outer, -, isOpen⟩
    · have finished : finish ⟨.operator operand, frames⟩ 0 = .ok e := by
        simp only [finish, whole]
      obtain ⟨derives, order⟩ := derives_of_finish has.derived finished
      exact ⟨e, derives, has.lexemes.symm.trans order.symm⟩
    · have groups : Frame.groups frames = openGroups before := has.groups
      rw [groups, closed] at isOpen
      cases isOpen

/-- The fault of a missing operand is the one that the tokens demand. -/
theorem missingOperand_eq {frames : List Frame} (has : HasTaken ⟨.operand, frames⟩ before)
    {found : Option Lexeme} (notEmpty : found = some .closing → lastOpening? before = none)
    (position : Nat) :
    missingOperand frames found position = faultAfter before found position := by
  have due : awaitsOperand before = true := has.awaits.1 rfl
  have pending : Frame.pending? frames = pendingOperator? before := has.pending rfl
  unfold missingOperand faultAfter
  rw [if_pos due, ← pending]
  split
  next => rfl
  next notBinary =>
    rw [Frame.pending?_of_not_binary notBinary, notEmpty rfl]
  next notBinary notClosing =>
    rw [Frame.pending?_of_not_binary notBinary]
    split
    next => contradiction
    next => exact (notClosing rfl).elim
    next => exact (notClosing rfl).elim
    next => rfl

/-- A token that can follow no operand is a fault that the tokens demand. -/
theorem misplaced_eq {operand : Expr} {frames : List Frame}
    (has : HasTaken ⟨.operator operand, frames⟩ before) {token : Token}
    (notClosing : token.lexeme ≠ .closing) :
    misplaced frames token = faultAfter before (some token.lexeme) token.offset := by
  have groups : Frame.groups frames = openGroups before := has.groups
  simp only [misplaced, faultAfter, has.not_awaits, Frame.any_isGroup, groups]
  cases lexeme : token.lexeme with
  | closing => exact absurd lexeme notClosing
  | number | operator | opening => cases openGroups before <;> rfl

/-- Where an operand is due, a token that a reader refuses may not follow, and the fault is the one
that the tokens demand. A group that ends at once is refused one token earlier. -/
theorem fault_of_takeOperand {frames : List Frame} (has : HasTaken ⟨.operand, frames⟩ before)
    {token : Token} {next : Option Lexeme} {fault : SyntaxFault}
    (notEmpty : token.lexeme = .closing → lastOpening? before = none)
    (h : takeOperand frames token next = .error fault) :
    (mayFollow before token.lexeme = false ∧
      fault = faultAfter before (some token.lexeme) token.offset) ∨
    (token.lexeme = .opening ∧ next = some .closing ∧ fault = .emptyParens token.offset) := by
  have due : awaitsOperand before = true := has.awaits.1 rfl
  obtain ⟨lexeme, offset⟩ := token
  cases lexeme with
  | number text => cases h
  | operator op =>
    simp only [takeOperand] at h
    split at h
    next => cases h
    next notSign =>
      cases h
      have notClosing : some (Lexeme.operator op) = some .closing → lastOpening? before = none := by
        simp
      refine .inl ⟨?_, has.missingOperand_eq notClosing offset⟩
      simpa [mayFollow, due, Lexeme.isSumOperator, and_comm] using notSign
  | opening =>
    simp only [takeOperand] at h
    split at h
    next isEmpty =>
      cases h
      exact .inr ⟨rfl, isEmpty, rfl⟩
    next => cases h
  | closing =>
    cases h
    refine .inl ⟨?_, has.missingOperand_eq (fun _ => notEmpty rfl) offset⟩
    simp [mayFollow, due]

/-- Where an operator is due, a token that a reader refuses may not follow, and the fault is the one
that the tokens demand. -/
theorem fault_of_takeOperator {operand : Expr} {frames : List Frame}
    (has : HasTaken ⟨.operator operand, frames⟩ before) {token : Token} {fault : SyntaxFault}
    (h : takeOperator operand frames token = .error fault) :
    mayFollow before token.lexeme = false ∧
      fault = faultAfter before (some token.lexeme) token.offset := by
  have notDue : awaitsOperand before = false := has.not_awaits
  obtain ⟨lexeme, offset⟩ := token
  cases lexeme with
  | number text =>
    cases h
    exact ⟨notDue, has.misplaced_eq nofun⟩
  | operator op => cases h
  | opening =>
    cases h
    exact ⟨notDue, has.misplaced_eq nofun⟩
  | closing =>
    simp only [takeOperator] at h
    rcases Frame.reduce_zero_cases operand frames with ⟨e, whole, none⟩ | ⟨_, _, _, whole, -⟩
    · rw [whole] at h
      cases h
      have closed : openGroups before = [] := has.groups.symm.trans none
      exact ⟨by simp [mayFollow, closed], by simp [faultAfter, notDue]⟩
    · rw [whole] at h
      cases h

/-- A token that a reader refuses is the misfit, or it opens a group that ends at once. Either way
the fault is the one that the tokens before the misfit demand. -/
theorem misfit_of_step (has : reader.HasTaken before) {token : Token} {rest : List Token}
    {fault : SyntaxFault} (spelt : token.lexeme.isWellSpelt = true)
    (notEmpty : token.lexeme = .closing → lastOpening? before = none)
    (h : reader.step token (rest.head?.map Token.lexeme) = .error fault) (stop : Nat) :
    ∃ done left, before ++ token :: rest = done ++ left ∧ IsMisfit done left ∧
      fault = faultAfter done (left.head?.map Token.lexeme) (offsetOf stop left) := by
  have here (refused : mayFollow before token.lexeme = false) : IsMisfit before (token :: rest) :=
    ⟨has.isViable, not_isViable_concat refused⟩
  obtain ⟨awaiting, frames⟩ := reader
  cases awaiting with
  | operand =>
    rcases has.fault_of_takeOperand notEmpty h with ⟨refused, named⟩ | ⟨isOpening, closes, named⟩
    · exact ⟨before, token :: rest, rfl, here refused, named⟩
    · -- The misfit is the end of the empty group, one token later.
      obtain ⟨after, takes⟩ : ∃ after, Takes ⟨.operand, frames⟩ token after :=
        has.exists_takes (by rw [isOpening]; exact has.awaits.1 rfl)
      have viable : IsViable (before ++ [token]) := (takes.hasTaken spelt has).isViable
      obtain ⟨misfit, demanded⟩ := misfit_of_emptyGroup viable isOpening closes
      exact ⟨before ++ [token], rest, List.append_cons .., misfit, named.trans demanded.symm⟩
  | operator operand =>
    obtain ⟨refused, named⟩ := has.fault_of_takeOperator h
    exact ⟨before, token :: rest, rfl, here refused, named⟩

/-- The end of the input is a fault where no expression ends, and the one that the tokens demand. -/
theorem fault_of_finish (has : reader.HasTaken before) {stop : Nat} {fault : SyntaxFault}
    (h : reader.finish stop = .error fault) :
    ¬IsComplete before ∧ fault = faultAfter before none stop := by
  obtain ⟨awaiting, frames⟩ := reader
  cases awaiting with
  | operand =>
    cases h
    have due : awaitsOperand before = true := has.awaits.1 rfl
    have notClosing : none = some Lexeme.closing → lastOpening? before = none := nofun
    refine ⟨fun complete => ?_, has.missingOperand_eq notClosing stop⟩
    rw [(closed_of_isComplete complete).1] at due
    cases due
  | operator operand =>
    have groups : Frame.groups frames = openGroups before := has.groups
    simp only [finish] at h
    rcases Frame.reduce_zero_cases operand frames with
      ⟨e, whole, -⟩ | ⟨inner, start, outer, whole, isOpen⟩
    · rw [whole] at h
      cases h
    · rw [whole] at h
      cases h
      rw [groups] at isOpen
      refine ⟨fun complete => ?_, by simp [faultAfter, has.not_awaits, isOpen]⟩
      rw [(closed_of_isComplete complete).2] at isOpen
      cases isOpen

/-- A run that fails does so at the misfit, with the fault that the tokens before it demand. -/
theorem misfit_of_run {stop : Nat} {rest : List Token} {fault : SyntaxFault}
    (has : reader.HasTaken before)
    (spelt : ∀ token ∈ rest, token.lexeme.isWellSpelt = true)
    (notEmpty : rest.head?.map Token.lexeme = some .closing → lastOpening? before = none)
    (h : run stop reader rest = .error fault) :
    ∃ done left, before ++ rest = done ++ left ∧ IsMisfit done left ∧
      fault = faultAfter done (left.head?.map Token.lexeme) (offsetOf stop left) := by
  induction rest generalizing reader before with
  | nil =>
    obtain ⟨incomplete, named⟩ := has.fault_of_finish h
    exact ⟨before, [], rfl, ⟨has.isViable, incomplete⟩, named⟩
  | cons token rest ih =>
    have tokenSpelt := spelt token List.mem_cons_self
    rw [run] at h
    split at h
    next after taken =>
      obtain ⟨takes, opens⟩ := step_eq_ok_iff.1 taken
      have notEmptyAfter : rest.head?.map Token.lexeme = some .closing →
          lastOpening? (before ++ [token]) = none := by
        intro closes
        rw [lastOpening?_concat, if_neg fun isOpening => opens isOpening closes]
      obtain ⟨done, left, split, misfit⟩ :=
        ih (takes.hasTaken tokenSpelt has)
          (fun token mem => spelt token (List.mem_cons_of_mem _ mem)) notEmptyAfter h
      exact ⟨done, left, by rw [← split, List.append_cons], misfit⟩
    next refused failed =>
      cases h
      have notEmptyHere : token.lexeme = .closing → lastOpening? before = none :=
        fun closes => notEmpty (congrArg some closes)
      exact has.misfit_of_step tokenSpelt notEmptyHere failed stop

end HasTaken

end Reader

namespace Token

variable {before rest tokens : List Token}

/-- An expression begins with tokens exactly when each of them may follow. -/
theorem isViable_iff_follow (spelt : ∀ token ∈ tokens, token.lexeme.isWellSpelt = true) :
    IsViable tokens ↔ Follow [] tokens := by
  refine ⟨follow_of_isViable, fun follow => ?_⟩
  obtain ⟨reader, has⟩ := Reader.hasTaken_start.exists_hasTaken spelt follow
  exact has.isViable

/-- Tokens that begin an expression are one where an operator is due and no group is open. -/
theorem isComplete_iff (spelt : ∀ token ∈ tokens, token.lexeme.isWellSpelt = true) :
    IsComplete tokens ↔
      Follow [] tokens ∧ awaitsOperand tokens = false ∧ openGroups tokens = [] := by
  constructor
  · intro complete
    refine ⟨follow_of_isViable ⟨[], ?_⟩, closed_of_isComplete complete⟩
    rwa [List.append_nil]
  · rintro ⟨follow, notDue, closed⟩
    obtain ⟨reader, has⟩ := Reader.hasTaken_start.exists_hasTaken spelt follow
    exact has.isComplete notDue closed

/-- A misfit is a token that may not follow. -/
theorem IsMisfit.mayFollow_eq_false {token : Token} (misfit : IsMisfit before (token :: rest))
    (spelt : ∀ other ∈ before ++ token :: rest, other.lexeme.isWellSpelt = true) :
    mayFollow before token.lexeme = false := by
  rw [List.append_cons] at spelt
  rw [← Bool.not_eq_true]
  intro follows
  refine misfit.2 ((isViable_iff_follow fun other mem => spelt other ?_).2 ?_)
  · exact List.mem_append_left rest mem
  · exact follow_append.2 ⟨follow_of_isViable misfit.1, follows, trivial⟩

/-- Where an operator is due, the end of a group is a misfit only outside all groups, and the end of
the input only within one. -/
theorem IsMisfit.openGroups_eq (misfit : IsMisfit before rest)
    (spelt : ∀ token ∈ before ++ rest, token.lexeme.isWellSpelt = true)
    (notDue : awaitsOperand before = false) :
    (rest.head?.map Token.lexeme = some .closing → openGroups before = []) ∧
      (rest = [] → openGroups before ≠ []) := by
  constructor
  · intro closes
    cases rest with
    | nil => cases closes
    | cons token left =>
      have refused := misfit.mayFollow_eq_false spelt
      rw [Option.some.inj closes] at refused
      simpa [mayFollow, notDue] using refused
  · rintro rfl closed
    rw [List.append_nil] at spelt
    exact misfit.2 ((isComplete_iff spelt).2 ⟨follow_of_isViable misfit.1, notDue, closed⟩)

end Token

namespace Expr

/-- A visible text of whole tokens that is no expression has exactly one misfit. The text is refused
with the fault that the tokens before the misfit, the misfit and its place make. Where an operator
was due, the end of a group is a misfit only outside all groups, and the end of the input only
within one. -/
theorem read_eq_error_at_misfit {text : String} {list : TokenList}
    (visible : text.toList.all Text.isBlank = false) (scanned : Token.scan text = .ok list)
    (unread : ∀ e, read text ≠ .ok e) :
    ∃ before rest, list.tokens = before ++ rest ∧ IsMisfit before rest ∧
      (∀ before' rest', list.tokens = before' ++ rest' → IsMisfit before' rest' →
        before' = before ∧ rest' = rest) ∧
      read text = .error
        (faultAfter before (rest.head?.map Token.lexeme) (offsetOf list.stop rest)).toError ∧
      (awaitsOperand before = false →
        (rest.head?.map Token.lexeme = some .closing → openGroups before = []) ∧
        (rest = [] → openGroups before ≠ [])) := by
  have whole : read text = (ofTokens list).mapError SyntaxFault.toError := by
    rw [read_of_visible visible, ofVisibleText, scanned]
  cases ran : ofTokens list with
  | ok e =>
    rw [whole, ran] at unread
    exact absurd rfl (unread e)
  | error fault =>
    have spelt := (Token.scan_eq_ok_iff.1 scanned).isWellSpelt
    obtain ⟨before, rest, split, misfit, rfl⟩ :=
      Reader.hasTaken_start.misfit_of_run spelt (fun _ => rfl) ran
    rw [List.nil_append] at split
    refine ⟨before, rest, split, misfit, fun before' rest' split' misfit' => ?_, ?_, ?_⟩
    · exact misfit'.unique misfit (split'.symm.trans split)
    · rw [whole, ran]
      rfl
    · rw [split] at spelt
      exact misfit.openGroups_eq spelt

/-- An operator lacks its right operand where its group ends. -/
theorem read_eq_error_at_misfit_group :
    "(1+)*2".toList.all Text.isBlank = false ∧
    (∀ e, read "(1+)*2" ≠ .ok e) ∧
    ∃ list, Token.scan "(1+)*2" = .ok list ∧
      ∃ before rest, list.tokens = before ++ rest ∧ IsMisfit before rest ∧
        (faultAfter before (rest.head?.map Token.lexeme) (offsetOf list.stop rest)).toError =
          .invalidBinary "operator '+' at position 2 is missing its right operand, found ')'" := by
  have refused : read "(1+)*2" = .error
      (.invalidBinary "operator '+' at position 2 is missing its right operand, found ')'") := by
    decide +kernel
  have scanned : Token.scan "(1+)*2" = .ok ⟨[⟨.opening, 0⟩, ⟨.number "1", 1⟩, ⟨.operator '+', 2⟩,
      ⟨.closing, 3⟩, ⟨.operator '*', 4⟩, ⟨.number "2", 5⟩], 6⟩ := by
    decide +kernel
  have visible : "(1+)*2".toList.all Text.isBlank = false := by decide +kernel
  have unread (e : Expr) : read "(1+)*2" ≠ .ok e := by
    rw [refused]
    exact nofun
  obtain ⟨before, rest, split, misfit, -, reported, -⟩ :=
    read_eq_error_at_misfit visible scanned unread
  rw [refused] at reported
  exact ⟨visible, unread, _, scanned, before, rest, split, misfit, (Except.error.inj reported).symm⟩

end Expr

end Stepwise
