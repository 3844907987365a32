import Stepwise.Expr.Reader
import Stepwise.Proofs.Expr.Frame
import Stepwise.Proofs.Token.Layout

/-!
# Reading yields the one derivation of a text

A text is read as a tree exactly when the tree is a derivation of the grammar and the text spells
its lexemes (`Expr.read_eq_ok_iff`). What a reader has taken is the yield of its frames and its
operand, and these are derived at every step. Conversely, the lexemes of a derivation take a
reader to where each operator that may follow completes this derivation. So the grammar is
unambiguous (`Expr.eq_of_lexemes_eq`).
-/

namespace Stepwise

/-- An expression does not start with a closing parenthesis. -/
theorem Expr.head?_lexemes_append_ne_closing (e : Expr) (rest : List Lexeme) :
    (e.lexemes ++ rest).head? ≠ some .closing := by
  induction e generalizing rest with
  | literal | paren | unary => exact nofun
  | binary op left right ihl _ =>
    rw [lexemes, List.append_assoc]
    exact ihl _

namespace Reader

/-- What a token makes of a reader that has a use for it. -/
inductive Takes : Reader → Token → Reader → Prop where
  | number {frames : List Frame} {text : String} {offset : Nat} :
    Takes ⟨.operand, frames⟩ ⟨.number text, offset⟩ ⟨.operator (.literal text), frames⟩
  | sign {frames : List Frame} {op : Char} {offset : Nat} : Lexeme.isSumOperator op = true →
    Takes ⟨.operand, frames⟩ ⟨.operator op, offset⟩ ⟨.operand, .sign op :: frames⟩
  | opening {frames : List Frame} {offset : Nat} :
    Takes ⟨.operand, frames⟩ ⟨.opening, offset⟩ ⟨.operand, .group offset :: frames⟩
  | operator {operand left : Expr} {frames kept : List Frame} {op : Char} {offset : Nat} :
    Frame.reduce (precedence op) operand frames = (left, kept) →
    Takes ⟨.operator operand, frames⟩ ⟨.operator op, offset⟩
      ⟨.operand, .binary op offset left :: kept⟩
  | closing {operand inner : Expr} {frames outer : List Frame} {start offset : Nat} :
    Frame.reduce 0 operand frames = (inner, .group start :: outer) →
    Takes ⟨.operator operand, frames⟩ ⟨.closing, offset⟩ ⟨.operator (.paren inner), outer⟩

/-- A step takes a token, unless the token opens a group that ends at once. -/
theorem step_eq_ok_iff {reader after : Reader} {token : Token} {next : Option Lexeme} :
    reader.step token next = .ok after ↔
      Takes reader token after ∧ (token.lexeme = .opening → next ≠ some .closing) := by
  constructor
  · intro h
    obtain ⟨awaiting, frames⟩ := reader
    obtain ⟨lexeme, offset⟩ := token
    cases awaiting with
    | operand =>
      cases lexeme with
      | number text =>
        cases h
        exact ⟨.number, nofun⟩
      | operator op =>
        simp only [step, takeOperand] at h
        split at h
        next sign =>
          cases h
          refine ⟨.sign ?_, nofun⟩
          rcases sign with rfl | rfl <;> rfl
        next => cases h
      | opening =>
        simp only [step, takeOperand] at h
        split at h
        next => cases h
        next notEmpty =>
          cases h
          exact ⟨.opening, fun _ => notEmpty⟩
      | closing => cases h
    | operator operand =>
      cases lexeme with
      | number text => cases h
      | operator op =>
        cases h
        exact ⟨.operator rfl, nofun⟩
      | opening => cases h
      | closing =>
        simp only [step, takeOperator] at h
        split at h
        next inner start outer whole =>
          cases h
          exact ⟨.closing whole, nofun⟩
        next => cases h
  · rintro ⟨takes, notEmpty⟩
    cases takes with
    | number => rfl
    | @sign frames op offset isSum =>
      have sign : op = '-' ∨ op = '+' := by simpa [Lexeme.isSumOperator, or_comm] using isSum
      exact if_pos sign
    | opening => exact if_neg (notEmpty rfl)
    | operator whole => simp only [step, takeOperator, whole]
    | closing whole => simp only [step, takeOperator, whole]

/-- The lexemes that a reader has taken. -/
def taken (reader : Reader) : List Lexeme :=
  match reader.awaiting with
  | .operand => Frame.yield reader.frames
  | .operator operand => Frame.yield reader.frames ++ operand.lexemes

theorem taken_operand (frames : List Frame) : taken ⟨.operand, frames⟩ = Frame.yield frames := rfl

theorem taken_operator (operand : Expr) (frames : List Frame) :
    taken ⟨.operator operand, frames⟩ = Frame.yield frames ++ operand.lexemes := rfl

/-- The operand at hand is derived, and its like can complete the frames. -/
structure IsDerived (reader : Reader) : Prop where
  frames : Frame.Fits .unary reader.frames
  operand : ∀ e, reader.awaiting = .operator e → Derives .unary e

theorem isDerived_start : start.IsDerived :=
  ⟨.start, nofun⟩

/-! ### What a reader takes is derived -/

/-- One token adds its lexeme to what was taken. -/
theorem Takes.taken_eq {reader after : Reader} {token : Token} (takes : Takes reader token after) :
    after.taken = reader.taken ++ [token.lexeme] := by
  cases takes with
  | number => rfl
  | sign => exact Frame.yield_cons _ _
  | opening => exact Frame.yield_cons _ _
  | @operator operand left frames kept op offset whole =>
    have order := Frame.lexemes_reduce (precedence op) operand frames
    rw [whole] at order
    rw [taken_operand, taken_operator, ← order, Frame.yield_cons, Frame.lexemes,
      List.append_assoc]
  | @closing operand inner frames outer start offset whole =>
    have order := Frame.lexemes_reduce 0 operand frames
    rw [whole] at order
    rw [taken_operator, taken_operator, ← order, Frame.yield_cons]
    simp [Frame.lexemes, Expr.lexemes]

/-- One token keeps the reader derived and adds its lexeme to what was taken. -/
theorem Takes.isDerived {reader after : Reader} {token : Token} (takes : Takes reader token after)
    (spelt : token.lexeme.isWellSpelt = true) (derived : reader.IsDerived) :
    after.IsDerived ∧ after.taken = reader.taken ++ [token.lexeme] := by
  obtain ⟨fits, operandDerives⟩ := derived
  refine ⟨?_, takes.taken_eq⟩
  cases takes with
  | number =>
    refine ⟨fits, ?_⟩
    rintro e ⟨rfl⟩
    exact .number spelt
  | sign isSum => exact ⟨.sign isSum fits, nofun⟩
  | opening => exact ⟨.group fits, nofun⟩
  | @operator operand left frames kept op offset whole =>
    have derives := operandDerives operand rfl
    have loose := derives.tight.leftOf (precedence op)
    have completed (bound : precedence op ≤ 2) := Frame.fits_reduce bound fits derives loose
    rw [whole] at completed
    refine ⟨?_, nofun⟩
    rcases Lexeme.isOperatorChar_iff.1 spelt with isSum | isProduct
    · rw [precedence_of_isSumOperator isSum] at completed
      obtain ⟨rest, tree⟩ := completed (by omega)
      exact .sum nofun isSum tree rest
    · rw [precedence_of_isProductOperator isProduct] at completed
      obtain ⟨rest, tree⟩ := completed (by omega)
      exact .product isProduct tree rest
  | @closing operand inner frames outer start offset whole =>
    have derives := operandDerives operand rfl
    obtain ⟨rest, tree⟩ := Frame.fits_reduce (by omega) fits derives (derives.tight.leftOf 0)
    rw [whole] at rest tree
    cases rest with
    | group outerFits =>
      refine ⟨outerFits, ?_⟩
      rintro e ⟨rfl⟩
      exact .group tree

theorem derives_of_finish {reader : Reader} {stop : Nat} {e : Expr} (derived : reader.IsDerived)
    (h : reader.finish stop = .ok e) : Derives .sum e ∧ e.lexemes = reader.taken := by
  obtain ⟨awaiting, frames⟩ := reader
  cases awaiting with
  | operand => cases h
  | operator operand =>
    have derives := derived.operand operand rfl
    have order := Frame.lexemes_reduce 0 operand frames
    obtain ⟨rest, whole⟩ :=
      Frame.fits_reduce (by omega) derived.frames derives (derives.tight.leftOf 0)
    simp only [finish] at h
    split at h
    next => cases h
    next whole outer notGroup eq =>
      cases h
      rw [eq] at order rest whole
      cases rest with
      | start => exact ⟨whole, order⟩
      | group => exact absurd rfl (notGroup _ _)
      | sum notSum => exact absurd rfl notSum

/-- What a run yields is derived, and its lexemes are all that were taken. -/
theorem derives_of_run {stop : Nat} {reader : Reader} {tokens : List Token} {e : Expr}
    (spelt : ∀ token ∈ tokens, token.lexeme.isWellSpelt = true) (derived : reader.IsDerived)
    (h : run stop reader tokens = .ok e) :
    Derives .sum e ∧ e.lexemes = reader.taken ++ tokens.map Token.lexeme := by
  induction tokens generalizing reader with
  | nil => simpa using derives_of_finish derived h
  | cons token rest ih =>
    rw [run] at h
    split at h
    next after step =>
      obtain ⟨afterDerived, afterTaken⟩ :=
        (step_eq_ok_iff.1 step).1.isDerived (spelt token List.mem_cons_self) derived
      obtain ⟨derives, order⟩ :=
        ih (fun token mem => spelt token (List.mem_cons_of_mem _ mem)) afterDerived h
      rw [afterTaken] at order
      exact ⟨derives, by simpa using order⟩
    next => cases h

/-! ### A derivation is read -/

variable {stop : Nat} {frames : List Frame} {rest : List Token}

theorem run_of_takes {reader after : Reader} {token : Token} (takes : Takes reader token after)
    (notEmpty : token.lexeme = .opening → rest.head?.map Token.lexeme ≠ some .closing) :
    run stop reader (token :: rest) = run stop after rest := by
  rw [run, step_eq_ok_iff.2 ⟨takes, notEmpty⟩]

/-- The tokens take a reader that waits for an operand of the frames to where every operator of
precedence at most `most` completes the tree on these frames. -/
def Reads (stop : Nat) (tokens : List Token) (frames : List Frame) (most : Nat) (e : Expr) : Prop :=
  ∀ rest, ∃ operand pending,
    run stop ⟨.operand, frames⟩ (tokens ++ rest) = run stop ⟨.operator operand, pending⟩ rest ∧
    ∀ least ≤ most, Frame.reduce least operand pending = Frame.reduce least e frames

namespace Reads

variable {tokens : List Token} {most more : Nat} {e inner left right : Expr} {op : Char}
  {offset : Nat}

theorem mono (reads : Reads stop tokens frames more e) (le : most ≤ more) :
    Reads stop tokens frames most e := by
  intro rest
  obtain ⟨operand, pending, ran, completed⟩ := reads rest
  exact ⟨operand, pending, ran, fun least bound => completed least (by omega)⟩

theorem number (text : String) : Reads stop [⟨.number text, offset⟩] frames most (.literal text) :=
  fun _ => ⟨.literal text, frames, rfl, fun _ _ => rfl⟩

theorem group {close : Nat} (reads : Reads stop tokens (.group offset :: frames) more inner)
    (notEmpty : ∀ rest, ((tokens ++ rest).map Token.lexeme).head? ≠ some .closing) :
    Reads stop (⟨.opening, offset⟩ :: tokens ++ [⟨.closing, close⟩]) frames most
      (.paren inner) := by
  intro rest
  obtain ⟨operand, pending, ran, completed⟩ := reads (⟨.closing, close⟩ :: rest)
  refine ⟨.paren inner, frames, ?_, fun _ _ => rfl⟩
  have whole := completed 0 (by omega)
  have opens := notEmpty (⟨.closing, close⟩ :: rest)
  rw [List.head?_map] at opens
  rw [List.append_assoc, List.cons_append, List.singleton_append,
    run_of_takes .opening fun _ => opens, ran, run_of_takes (.closing whole) nofun]

theorem sign (isSum : Lexeme.isSumOperator op = true)
    (reads : Reads stop tokens (.sign op :: frames) most e) :
    Reads stop (⟨.operator op, offset⟩ :: tokens) frames most (.unary op e) := by
  intro rest
  obtain ⟨operand, pending, ran, completed⟩ := reads rest
  refine ⟨operand, pending, ?_, completed⟩
  rw [List.cons_append, run_of_takes (.sign isSum) nofun, ran]

theorem binary {after : List Token} (binds : precedence op = most)
    (first : Reads stop tokens frames most left) (kept : Frame.isKept most frames = true)
    (second : Reads stop after (.binary op offset left :: frames) most right) :
    Reads stop (tokens ++ ⟨.operator op, offset⟩ :: after) frames most (.binary op left right) := by
  intro rest
  obtain ⟨operand, pending, ran, completed⟩ := first (⟨.operator op, offset⟩ :: after ++ rest)
  -- The operator itself completes its left operand, and nothing else.
  have whole : Frame.reduce (precedence op) operand pending = (left, frames) := by
    rw [binds, completed most (Nat.le_refl most), Frame.reduce_of_isKept kept]
  obtain ⟨last, deeper, ranOn, completedOn⟩ := second rest
  refine ⟨last, deeper, ?_, fun least bound => ?_⟩
  · rw [List.append_assoc, ran, List.cons_append, run_of_takes (.operator whole) nofun, ranOn]
  · rw [completedOn least bound, Frame.reduce, if_pos (by omega)]

end Reads

/-- The tokens of a derivation are read as it, between frames that bind no tighter. -/
theorem reads_of_derives {level : Level} {e : Expr} (derives : Derives level e)
    {tokens : List Token} (spelt : tokens.map Token.lexeme = e.lexemes) (frames : List Frame)
    (kept : level ≠ .unary → Frame.isKept level.precedence frames = true) :
    Reads stop tokens frames level.precedence e := by
  induction derives generalizing tokens frames with
  | @number text _ =>
    obtain ⟨⟨lexeme, offset⟩, rfl, rfl⟩ := List.map_eq_singleton_iff.1 spelt
    exact .number text
  | @group inner _ ih =>
    obtain ⟨opened, closed, rfl, openedSpelt, closedSpelt⟩ := List.map_eq_append_iff.1 spelt
    obtain ⟨⟨_, start⟩, middle, rfl, rfl, middleSpelt⟩ := List.map_eq_cons_iff.1 openedSpelt
    obtain ⟨⟨_, close⟩, rfl, rfl⟩ := List.map_eq_singleton_iff.1 closedSpelt
    refine (ih middleSpelt (.group start :: frames) fun _ => rfl).group fun rest => ?_
    rw [List.map_append, middleSpelt]
    exact inner.head?_lexemes_append_ne_closing _
  | @sign op operand isSum _ ih =>
    obtain ⟨⟨_, offset⟩, tail, rfl, rfl, tailSpelt⟩ := List.map_eq_cons_iff.1 spelt
    exact (ih tailSpelt (.sign op :: frames) fun h => absurd rfl h).sign isSum
  | tight _ ih => exact ih spelt frames fun h => absurd rfl h
  | @product op left right isProduct _ _ ihl ihr =>
    obtain ⟨before, later, rfl, beforeSpelt, laterSpelt⟩ := List.map_eq_append_iff.1 spelt
    obtain ⟨⟨_, offset⟩, after, rfl, rfl, afterSpelt⟩ := List.map_eq_cons_iff.1 laterSpelt
    have first := ihl beforeSpelt frames kept
    have second := ihr afterSpelt (.binary op offset left :: frames) fun h => absurd rfl h
    exact .binary (precedence_of_isProductOperator isProduct) first (kept nofun) second
  | loose _ ih =>
    have looser := kept nofun
    exact (ih spelt frames fun _ => Frame.isKept_mono looser (by decide)).mono (by decide)
  | @sum op left right isSum _ _ ihl ihr =>
    obtain ⟨before, later, rfl, beforeSpelt, laterSpelt⟩ := List.map_eq_append_iff.1 spelt
    obtain ⟨⟨_, offset⟩, after, rfl, rfl, afterSpelt⟩ := List.map_eq_cons_iff.1 laterSpelt
    have binds := precedence_of_isSumOperator isSum
    have first := ihl beforeSpelt frames kept
    have second := ihr afterSpelt (.binary op offset left :: frames) fun _ => by
      simp [Frame.isKept, Level.precedence, binds]
    exact .binary binds first (kept nofun) (second.mono (by decide))

end Reader

namespace Expr

theorem ofTokens_of_derives {list : TokenList} {e : Expr} (derives : Derives .sum e)
    (order : list.tokens.map Token.lexeme = e.lexemes) : ofTokens list = .ok e := by
  obtain ⟨operand, pending, ran, completed⟩ :=
    Reader.reads_of_derives derives order [] (fun _ => rfl) []
  rw [List.append_nil] at ran
  have whole : Frame.reduce 0 operand pending = (e, []) := completed 0 (by omega)
  rw [ofTokens, Reader.start, ran]
  simp only [Reader.run, Reader.finish, whole]

/-- The grammar is unambiguous: no two derivations have the same lexemes. -/
theorem eq_of_lexemes_eq {e other : Expr} (derives : Derives .sum e)
    (otherDerives : Derives .sum other) (same : e.lexemes = other.lexemes) : e = other := by
  -- Both are what the same tokens are read as.
  let list : TokenList := ⟨e.lexemes.map fun lexeme => ⟨lexeme, 0⟩, 0⟩
  have spelt : list.tokens.map Token.lexeme = e.lexemes := by
    simp [list, Function.comp_def]
  have first : ofTokens list = .ok e := ofTokens_of_derives derives spelt
  have second : ofTokens list = .ok other := ofTokens_of_derives otherDerives (spelt.trans same)
  rw [first] at second
  exact Except.ok.inj second

/-- Tokens are read as the derivation whose lexemes they are. -/
theorem ofTokens_eq_ok_iff {list : TokenList} {e : Expr}
    (spelt : ∀ token ∈ list.tokens, token.lexeme.isWellSpelt = true) :
    ofTokens list = .ok e ↔ Derives .sum e ∧ list.tokens.map Token.lexeme = e.lexemes := by
  constructor
  · intro h
    obtain ⟨derives, order⟩ := Reader.derives_of_run spelt Reader.isDerived_start h
    exact ⟨derives, order.symm⟩
  · rintro ⟨derives, order⟩
    exact ofTokens_of_derives derives order

theorem ofVisibleText_eq_ok_iff {text : String} {e : Expr} :
    ofVisibleText text = .ok e ↔ Derives .sum e ∧
      ∃ list, LaidOut 0 text.toList list ∧ list.tokens.map Token.lexeme = e.lexemes := by
  constructor
  · intro h
    cases scanned : Token.scan text with
    | error fault =>
      rw [ofVisibleText, scanned] at h
      cases h
    | ok list =>
      rw [ofVisibleText, scanned] at h
      have laid := Token.scan_eq_ok_iff.1 scanned
      obtain ⟨derives, order⟩ := (ofTokens_eq_ok_iff laid.isWellSpelt).1 h
      exact ⟨derives, list, laid, order⟩
  · rintro ⟨derives, list, laid, order⟩
    rw [ofVisibleText, Token.scan_eq_ok_iff.2 laid]
    exact (ofTokens_eq_ok_iff laid.isWellSpelt).2 ⟨derives, order⟩

/-- A text with something visible in it is read through its tokens. -/
theorem read_of_visible {text : String} (visible : text.toList.all Text.isBlank = false) :
    read text = (ofVisibleText text).mapError SyntaxFault.toError := by
  rw [read, if_neg (by simp [visible])]
  cases ofVisibleText text <;> rfl

/-- What a text is read as is derived. -/
theorem derives_of_read {text : String} {e : Expr} (h : read text = .ok e) : Derives .sum e := by
  unfold read at h
  split at h
  next => cases h
  next =>
    split at h
    next tree found =>
      cases h
      exact (ofVisibleText_eq_ok_iff.1 found).1
    next => cases h

/-- A text is read as a tree exactly when the tree is a derivation of the grammar and the text is
its lexemes, laid out with gaps. -/
theorem read_eq_ok_iff {text : String} {e : Expr} :
    read text = .ok e ↔ Derives .sum e ∧
      ∃ list, LaidOut 0 text.toList list ∧ list.tokens.map Token.lexeme = e.lexemes := by
  rw [← ofVisibleText_eq_ok_iff]
  constructor
  · intro h
    unfold read at h
    split at h
    next => cases h
    next =>
      cases found : ofVisibleText text with
      | error fault => rw [found] at h; cases h
      | ok tree => rw [found] at h; cases h; rfl
  · intro h
    obtain ⟨-, list, laid, order⟩ := ofVisibleText_eq_ok_iff.1 h
    -- A derivation has a lexeme, so the text is not blank.
    have nonempty : list.tokens ≠ [] := by
      intro none
      rw [none] at order
      exact e.lexemes_ne_nil order.symm
    obtain ⟨c, mem, visible⟩ := laid.exists_not_isBlank nonempty
    have notBlank : ¬ text.toList.all Text.isBlank = true := by
      intro blank
      rw [List.all_eq_true.1 blank c mem] at visible
      cases visible
    rw [read, if_neg notBlank, h]

end Expr

end Stepwise
