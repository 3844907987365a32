import Stepwise.Expr.Reader
import Stepwise.Proofs.Expr.Misfit

/-!
# Pending constructs between two tokens

An operator is put on frames that it left as they are, and every token keeps it so
(`Frame.IsStacked`). Hence between two groups pending operators bind tighter and tighter, and what
stays when an operator comes binds less tightly than this one. Main statement: after each token the
open groups are the parentheses that the tokens leave open, the pending operators are ordered, and
no construct is lost, not even at the end (`Reader.frames_ordered`).
-/

namespace Stepwise

namespace Token

/-- The tokens close the innermost of the groups before them and add their own. -/
theorem foldl_groupsAfter (tokens : List Token) (groups : List Nat) :
    tokens.foldl groupsAfter groups =
      (unmatched tokens).reverse ++ groups.drop (surplus tokens) := by
  induction tokens generalizing groups with
  | nil => rfl
  | cons token rest ih =>
    obtain ⟨lexeme, offset⟩ := token
    rw [List.foldl_cons, ih]
    cases lexeme with
    | number | operator => simp [groupsAfter, unmatched, surplus]
    | opening =>
      cases closed : surplus rest with
      | zero => simp [groupsAfter, unmatched, surplus, closed]
      | succ more => simp [groupsAfter, unmatched, surplus, closed]
    | closing => simp [groupsAfter, unmatched, surplus]

/-- The open groups are the opening parentheses that nothing closes. -/
@[simp] theorem reverse_openGroups (tokens : List Token) :
    (openGroups tokens).reverse = unmatched tokens := by
  rw [openGroups, foldl_groupsAfter, List.drop_nil, List.append_nil, List.reverse_reverse]

end Token

namespace Frame

variable {least : Nat} {frames : List Frame}

/-- Each pending binary operator lies on frames that it left as they are. -/
inductive IsStacked : List Frame → Prop where
  | start : IsStacked []
  | sign {op : Char} {frames : List Frame} : IsStacked frames → IsStacked (.sign op :: frames)
  | binary {op : Char} {offset : Nat} {left : Expr} {frames : List Frame} :
    isKept (precedence op) frames = true → IsStacked frames →
    IsStacked (.binary op offset left :: frames)
  | group {offset : Nat} {frames : List Frame} : IsStacked frames →
    IsStacked (.group offset :: frames)

/-- Completing frames leaves frames that stay. -/
theorem isKept_reduce (least : Nat) (operand : Expr) (frames : List Frame) :
    isKept least (reduce least operand frames).2 = true := by
  fun_induction reduce least operand frames with
  | case1 => rfl
  | case2 operand op frames ih => exact ih
  | case3 operand op offset left frames _ ih => exact ih
  | case4 operand op offset left frames looser => exact decide_eq_true (by omega)
  | case5 => rfl

theorem IsStacked.reduce (stacked : IsStacked frames) (least : Nat) (operand : Expr) :
    IsStacked (reduce least operand frames).2 := by
  induction stacked generalizing operand with
  | start => exact .start
  | sign _ ih => exact ih _
  | binary kept stacked ih =>
    rw [Frame.reduce]
    split
    next => exact ih _
    next => exact .binary kept stacked
  | group stacked => exact .group stacked

/-- Within the innermost group, frames that stay when an operator comes are operators that bind less
tightly. -/
theorem IsStacked.looser_of_isKept (stacked : IsStacked frames)
    (kept : isKept least frames = true) :
    ∀ frame ∈ innermost frames,
      ∃ op offset left, frame = .binary op offset left ∧ precedence op < least := by
  induction stacked generalizing least with
  | start => simp [innermost]
  | sign => cases kept
  | @binary op offset left frames below _ ih =>
    have looser : precedence op < least := by simpa [isKept] using kept
    intro frame mem
    rcases List.mem_cons.1 mem with rfl | mem
    · exact ⟨op, offset, left, rfl, looser⟩
    · exact ih (isKept_mono below (by omega)) frame mem
  | group => simp [innermost, isGroup]

/-- The part up to the innermost group is the first one. -/
theorem splitOnP_eq_innermost_cons (frames : List Frame) :
    ∃ outer, frames.splitOnP isGroup = innermost frames :: outer := by
  induction frames with
  | nil => exact ⟨[], rfl⟩
  | cons frame frames ih =>
    obtain ⟨outer, split⟩ := ih
    rw [List.splitOnP_cons_eq_if_modifyHead, split]
    cases frame with
    | sign | binary => exact ⟨outer, rfl⟩
    | group => exact ⟨innermost frames :: outer, rfl⟩

theorem IsAscending.innermost (ascending : IsAscending frames) :
    ((innermost frames).filterMap precedence?).Pairwise (· > ·) := by
  obtain ⟨outer, split⟩ := splitOnP_eq_innermost_cons frames
  refine ascending _ ?_
  rw [split]
  exact List.mem_cons_self

/-- One more frame that is no group lies within the innermost group. -/
theorem IsAscending.cons {frame : Frame} (ascending : IsAscending frames)
    (notGroup : frame.isGroup = false)
    (above : ((frame :: Frame.innermost frames).filterMap precedence?).Pairwise (· > ·)) :
    IsAscending (frame :: frames) := by
  obtain ⟨outer, split⟩ := splitOnP_eq_innermost_cons frames
  rw [IsAscending, split, List.forall_mem_cons] at ascending
  rw [IsAscending, List.splitOnP_cons_eq_if_modifyHead, split, if_neg (by simp [notGroup])]
  exact List.forall_mem_cons.2 ⟨above, ascending.2⟩

theorem IsStacked.isAscending (stacked : IsStacked frames) : IsAscending frames := by
  induction stacked with
  | start => simp [IsAscending]
  | sign _ ih => exact ih.cons rfl ih.innermost
  | binary kept stacked ih =>
    refine ih.cons rfl (List.pairwise_cons.2 ⟨fun below mem => ?_, ih.innermost⟩)
    obtain ⟨frame, within, known⟩ := List.mem_filterMap.1 mem
    obtain ⟨_, _, _, rfl, looser⟩ := stacked.looser_of_isKept kept frame within
    cases known
    exact looser
  | group _ ih =>
    rw [IsAscending, List.splitOnP_cons_eq_if_modifyHead]
    exact List.forall_mem_cons.2 ⟨.nil, ih⟩

end Frame

namespace Reader

variable {reader after : Reader} {token : Token} {before rest : List Token}

/-- One token puts operators only on frames that they left. -/
theorem Takes.isStacked (takes : Takes reader token after)
    (stacked : Frame.IsStacked reader.frames) : Frame.IsStacked after.frames := by
  cases takes with
  | number => exact stacked
  | sign => exact .sign stacked
  | opening => exact .group stacked
  | @operator operand left frames kept op offset whole =>
    have below := Frame.isKept_reduce (precedence op) operand frames
    have stays := stacked.reduce (precedence op) operand
    rw [whole] at below stays
    exact .binary below stays
  | @closing operand inner frames outer start offset whole =>
    have stays := stacked.reduce 0 operand
    rw [whole] at stays
    cases stays with
    | group below => exact below

namespace Reaches

/-! What a reader that came from the start knows of the tokens holds however these are spelt. -/

theorem isStacked (reaches : Reaches before rest reader) : Frame.IsStacked reader.frames := by
  induction reaches with
  | start => exact .start
  | step _ took ih => exact (step_eq_ok_iff.1 took).1.isStacked ih

theorem groups_eq (reaches : Reaches before rest reader) :
    Frame.groups reader.frames = Token.openGroups before := by
  induction reaches with
  | start => rfl
  | step _ took ih => rw [(step_eq_ok_iff.1 took).1.groups_eq, ih, Token.openGroups_concat]

theorem taken_eq (reaches : Reaches before rest reader) :
    reader.taken = before.map Token.lexeme := by
  induction reaches with
  | start => rfl
  | step _ took ih =>
    rw [(step_eq_ok_iff.1 took).1.taken_eq, ih, List.map_append, List.map_singleton]

end Reaches

/-- The end of the input is taken if then nothing is pending. -/
theorem finish_eq_ok_iff {stop : Nat} {e : Expr} :
    reader.finish stop = .ok e ↔
      ∃ operand, reader.awaiting = .operator operand ∧
        Frame.reduce 0 operand reader.frames = (e, []) := by
  obtain ⟨awaiting, frames⟩ := reader
  cases awaiting with
  | operand => simp [finish]
  | operator operand =>
    rcases Frame.reduce_zero_cases operand frames with
      ⟨whole, reduced, -⟩ | ⟨inner, start, outer, reduced, -⟩
    · simp [finish, reduced]
    · simp [finish, reduced]

/-- A run that yields a tree comes to the end of the tokens. -/
theorem reaches_of_run {stop : Nat} {e : Expr} (reaches : Reaches before rest reader)
    (h : run stop reader rest = .ok e) :
    ∃ last, Reaches (before ++ rest) [] last ∧ last.finish stop = .ok e := by
  induction rest generalizing before reader with
  | nil => exact ⟨reader, by rwa [List.append_nil], h⟩
  | cons token rest ih =>
    rw [run] at h
    split at h
    next after took =>
      rw [List.append_cons]
      exact ih (reaches.step took) h
    next => cases h

/-- After each token that a reader takes, the open groups are the opening parentheses that the
tokens leave open, from the outside inwards; between two of them the pending operators bind tighter
and tighter; and what is pending, with the operand at hand, spells the tokens. Completing what an
operator of some precedence completes leaves, within the innermost group, only operators that bind
less tightly than this one, and no sign. So at the end of a group or of the input either nothing is
left or a group is innermost, and a tree that is read is everything that was pending. -/
theorem frames_ordered :
    (∀ before rest reader, Reaches before rest reader →
      (Frame.groups reader.frames).reverse = Token.unmatched before ∧
      Frame.IsAscending reader.frames ∧
      reader.taken = before.map Token.lexeme ∧
      ∀ operand, reader.awaiting = .operator operand →
        (∀ least, ∀ frame ∈ Frame.innermost (Frame.reduce least operand reader.frames).2,
          ∃ op offset left, frame = .binary op offset left ∧ precedence op < least) ∧
        ((Frame.reduce 0 operand reader.frames).2 = [] ∨
          ∃ start outer, (Frame.reduce 0 operand reader.frames).2 = .group start :: outer)) ∧
    ∀ list e, Expr.ofTokens list = .ok e →
      ∃ operand frames, Reaches list.tokens [] ⟨.operator operand, frames⟩ ∧
        Frame.reduce 0 operand frames = (e, []) ∧
        e.lexemes = list.tokens.map Token.lexeme := by
  refine ⟨fun before rest reader reaches => ⟨?_, ?_, reaches.taken_eq, fun operand _ => ?_⟩,
    fun list e h => ?_⟩
  · rw [reaches.groups_eq, Token.reverse_openGroups]
  · exact reaches.isStacked.isAscending
  · refine ⟨fun least => ?_, ?_⟩
    · have stays := reaches.isStacked.reduce least operand
      exact stays.looser_of_isKept (Frame.isKept_reduce least operand reader.frames)
    · rcases Frame.reduce_zero_cases operand reader.frames with
        ⟨e, whole, -⟩ | ⟨inner, start, outer, whole, -⟩
      · exact .inl (congrArg Prod.snd whole)
      · exact .inr ⟨start, outer, congrArg Prod.snd whole⟩
  · obtain ⟨last, reaches, finished⟩ := reaches_of_run (.start list.tokens) h
    obtain ⟨operand, waits, whole⟩ := finish_eq_ok_iff.1 finished
    obtain ⟨awaiting, frames⟩ := last
    cases waits
    refine ⟨operand, frames, reaches, whole, ?_⟩
    have order := Frame.lexemes_reduce 0 operand frames
    rw [whole] at order
    exact order.trans reaches.taken_eq

/-- In a group, a product waits for its right operand on top of a sum. -/
theorem frames_ordered_product :
    let tokens : List Token := [⟨.opening, 0⟩, ⟨.number "1", 1⟩, ⟨.operator '+', 2⟩,
      ⟨.number "2", 3⟩, ⟨.operator '*', 4⟩, ⟨.number "3", 5⟩]
    let frames : List Frame :=
      [.binary '*' 4 (.literal "2"), .binary '+' 2 (.literal "1"), .group 0]
    let list : TokenList := ⟨tokens ++ [⟨.closing, 6⟩], 7⟩
    Reaches tokens [⟨.closing, 6⟩] ⟨.operator (.literal "3"), frames⟩ ∧
      (Frame.groups frames).reverse = Token.unmatched tokens ∧ Frame.IsAscending frames ∧
      ∃ e, Expr.ofTokens list = .ok e ∧ e.lexemes = list.tokens.map Token.lexeme := by
  intro tokens frames list
  have reaches : Reaches tokens [⟨.closing, 6⟩] ⟨.operator (.literal "3"), frames⟩ :=
    ((((((Reaches.start _).step rfl).step rfl).step rfl).step rfl).step rfl).step rfl
  have read : Expr.ofTokens list = .ok (.paren
      (.binary '+' (.literal "1") (.binary '*' (.literal "2") (.literal "3")))) := rfl
  obtain ⟨groups, ascending, -⟩ := frames_ordered.1 _ _ _ reaches
  obtain ⟨-, -, -, -, order⟩ := frames_ordered.2 _ _ read
  exact ⟨reaches, groups, ascending, _, read, order⟩

end Reader

end Stepwise
