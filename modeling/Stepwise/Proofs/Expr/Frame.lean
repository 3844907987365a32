import Stepwise.Expr.Grammar
import Stepwise.Expr.Reader

/-!
# What pending constructs derive

`Frame.Fits level frames` says that an operand derived at `level` can complete the innermost of the
frames, and the results can complete the others. Main statements: completing frames neither
loses nor moves a lexeme (`Frame.lexemes_reduce`), and it takes derivations to derivations
(`Frame.fits_reduce`). In the other direction, `Frame.isKept` tells which frames stay as they are
before an operator of some precedence. The frames also tell what fault reports name:
`Frame.groups` the groups that are open, `Frame.pending?` the operator that lacks its right operand.
-/

namespace Stepwise

theorem precedence_of_isSumOperator {op : Char} (h : Lexeme.isSumOperator op = true) :
    precedence op = 1 := by
  have sign : op = '+' ∨ op = '-' := by simpa [Lexeme.isSumOperator] using h
  exact if_pos sign

theorem precedence_of_isProductOperator {op : Char} (h : Lexeme.isProductOperator op = true) :
    precedence op = 2 := by
  have factor : (op = '*' ∨ op = '/') ∨ op = '%' := by simpa [Lexeme.isProductOperator] using h
  rcases factor with (rfl | rfl) | rfl <;> rfl

namespace Level

/-- The level of what an operator of the precedence takes on its left. -/
def leftOf (least : Nat) : Level :=
  if least ≤ 1 then .sum else .product

/-- The tightest operator that may stand right after an expression of the level. -/
def precedence : Level → Nat
  | .sum => 1
  | .product => 2
  | .unary => 2

end Level

theorem Derives.leftOf {e : Expr} (h : Derives .product e) (least : Nat) :
    Derives (.leftOf least) e := by
  unfold Level.leftOf
  split
  next => exact .loose h
  next => exact h

theorem Derives.toProduct {level : Level} {e : Expr} (h : Derives level e)
    (notSum : level ≠ .sum) : Derives .product e :=
  match level, h with
  | .sum, _ => absurd rfl notSum
  | .product, h => h
  | .unary, h => .tight h

namespace Frame

/-- The lexemes that a frame stands for. -/
def lexemes : Frame → List Lexeme
  | sign op => [.operator op]
  | binary op _ left => left.lexemes ++ [.operator op]
  | group _ => [.opening]

/-- The lexemes that frames stand for, those of the outermost frame first. -/
def yield (frames : List Frame) : List Lexeme :=
  frames.reverse.flatMap lexemes

@[simp] theorem yield_cons (frame : Frame) (frames : List Frame) :
    yield (frame :: frames) = yield frames ++ frame.lexemes := by
  simp [yield]

/-- Completing frames keeps all lexemes in their order. -/
@[simp] theorem lexemes_reduce (least : Nat) (operand : Expr) (frames : List Frame) :
    yield (reduce least operand frames).2 ++ (reduce least operand frames).1.lexemes =
      yield frames ++ operand.lexemes := by
  fun_induction reduce least operand frames with
  | case1 => rfl
  | case2 operand op frames ih => simp [ih, lexemes, Expr.lexemes]
  | case3 operand op offset left frames _ ih => simp [ih, lexemes, Expr.lexemes]
  | case4 => rfl
  | case5 => rfl

/-- An operand derived at the level can complete the innermost frame, and so on outwards. -/
inductive Fits : Level → List Frame → Prop where
  | start {level : Level} : Fits level []
  | group {level : Level} {offset : Nat} {frames : List Frame} : Fits .unary frames →
      Fits level (.group offset :: frames)
  | sign {op : Char} {frames : List Frame} : Lexeme.isSumOperator op = true →
      Fits .unary frames → Fits .unary (.sign op :: frames)
  | product {op : Char} {offset : Nat} {left : Expr} {frames : List Frame} :
      Lexeme.isProductOperator op = true → Derives .product left → Fits .product frames →
      Fits .unary (.binary op offset left :: frames)
  | sum {level : Level} {op : Char} {offset : Nat} {left : Expr} {frames : List Frame} :
      level ≠ .sum → Lexeme.isSumOperator op = true → Derives .sum left → Fits .sum frames →
      Fits level (.binary op offset left :: frames)

/-- Some expression begins with what the frames and the operand stand for. -/
theorem Fits.exists_derives {level : Level} {frames : List Frame} (fits : Fits level frames)
    {operand : Expr} (derives : Derives level operand) :
    ∃ e more, Derives .sum e ∧ e.lexemes = yield frames ++ operand.lexemes ++ more := by
  induction fits generalizing operand with
  | start => exact ⟨operand, [], derives.toSum, by simp [yield]⟩
  | group _ ih =>
    obtain ⟨e, more, whole, order⟩ := ih (.group derives.toSum)
    exact ⟨e, .closing :: more, whole, by simp [order, lexemes, Expr.lexemes]⟩
  | sign isSum _ ih =>
    obtain ⟨e, more, whole, order⟩ := ih (.sign isSum derives)
    exact ⟨e, more, whole, by simp [order, lexemes, Expr.lexemes]⟩
  | product isProduct left _ ih =>
    obtain ⟨e, more, whole, order⟩ := ih (.product isProduct left derives)
    exact ⟨e, more, whole, by simp [order, lexemes, Expr.lexemes]⟩
  | sum notSum isSum left _ ih =>
    obtain ⟨e, more, whole, order⟩ := ih (.sum isSum left (derives.toProduct notSum))
    exact ⟨e, more, whole, by simp [order, lexemes, Expr.lexemes]⟩

/-- Completing frames makes derivations of derivations, as loose as the next operator takes them
on its left, and leaves frames that such a derivation can complete. -/
theorem fits_reduce {least : Nat} {level : Level} {operand : Expr} {frames : List Frame}
    (bound : least ≤ 2) (fits : Fits level frames) (derives : Derives level operand)
    (tight : Derives (.leftOf least) operand) :
    Fits (.leftOf least) (reduce least operand frames).2 ∧
      Derives (.leftOf least) (reduce least operand frames).1 := by
  induction fits generalizing operand with
  | start => exact ⟨.start, tight⟩
  | group fits _ => exact ⟨.group fits, tight⟩
  | sign isSum _ ih =>
    have whole := Derives.sign isSum derives
    exact ih whole (whole.tight.leftOf least)
  | product isProduct left _ ih =>
    have whole := Derives.product isProduct left derives
    rw [reduce, precedence_of_isProductOperator isProduct, if_pos bound]
    exact ih whole (whole.leftOf least)
  | sum notSum isSum left fits ih =>
    have whole := Derives.sum isSum left (derives.toProduct notSum)
    rw [reduce, precedence_of_isSumOperator isSum]
    split
    next loose =>
      have isSumLevel : Level.leftOf least = .sum := if_pos loose
      rw [isSumLevel] at ih ⊢
      exact ih whole whole
    next tighter =>
      have notSumLevel : Level.leftOf least ≠ .sum := by
        rw [Level.leftOf, if_neg tighter]
        exact nofun
      exact ⟨.sum notSumLevel isSum left fits, tight⟩

/-- Frames that an operator of precedence `least` leaves as they are. -/
def isKept (least : Nat) : List Frame → Bool
  | [] => true
  | group _ :: _ => true
  | sign _ :: _ => false
  | binary op _ _ :: _ => precedence op < least

theorem reduce_of_isKept {least : Nat} {frames : List Frame} (kept : isKept least frames = true)
    (operand : Expr) : reduce least operand frames = (operand, frames) := by
  fun_cases isKept least frames with
  | case1 => rfl
  | case2 => rfl
  | case3 => cases kept
  | case4 op offset left frames =>
    have looser : precedence op < least := by simpa [isKept] using kept
    rw [reduce, if_neg (by omega)]

theorem isKept_mono {least more : Nat} {frames : List Frame} (kept : isKept least frames = true)
    (le : least ≤ more) : isKept more frames = true := by
  fun_cases isKept least frames with
  | case1 => rfl
  | case2 => rfl
  | case3 => cases kept
  | case4 op offset left frames =>
    have looser : precedence op < least := by simpa [isKept] using kept
    exact decide_eq_true (by omega)

/-! ### What faults name -/

/-- The offsets of the open groups, the innermost first. -/
def groups : List Frame → List Nat
  | [] => []
  | sign _ :: frames => groups frames
  | binary _ _ _ :: frames => groups frames
  | group offset :: frames => offset :: groups frames

/-- The operator that lacks its right operand and its offset, if the innermost frame is one. -/
def pending? : List Frame → Option (Char × Nat)
  | binary op offset _ :: _ => some (op, offset)
  | _ => none

theorem pending?_of_not_binary {frames : List Frame}
    (notBinary : ∀ op offset left outer, frames ≠ binary op offset left :: outer) :
    pending? frames = none := by
  fun_cases pending? frames with
  | case1 op offset left outer => exact absurd rfl (notBinary op offset left outer)
  | case2 => rfl

/-- Completing frames closes no group. -/
@[simp] theorem groups_reduce (least : Nat) (operand : Expr) (frames : List Frame) :
    groups (reduce least operand frames).2 = groups frames := by
  fun_induction reduce least operand frames with
  | case1 => rfl
  | case2 operand op frames ih => exact ih
  | case3 operand op offset left frames _ ih => exact ih
  | case4 => rfl
  | case5 => rfl

theorem any_isGroup (frames : List Frame) : frames.any isGroup = !(groups frames).isEmpty := by
  fun_induction groups frames with
  | case1 => rfl
  | case2 op frames ih => exact ih
  | case3 op offset left frames ih => exact ih
  | case4 => rfl

/-- At the end of an expression the innermost open group is the innermost frame. -/
theorem reduce_zero_cases (operand : Expr) (frames : List Frame) :
    (∃ e, reduce 0 operand frames = (e, []) ∧ groups frames = []) ∨
      ∃ inner start outer, reduce 0 operand frames = (inner, group start :: outer) ∧
        groups frames = start :: groups outer := by
  fun_induction reduce 0 operand frames with
  | case1 operand => exact .inl ⟨operand, rfl, rfl⟩
  | case2 operand op frames ih => exact ih
  | case3 operand op offset left frames _ ih => exact ih
  | case4 operand op offset left frames looser => exact absurd (Nat.zero_le _) looser
  | case5 operand offset frames => exact .inr ⟨operand, offset, frames, rfl, rfl⟩

end Frame

end Stepwise
