import Stepwise.Proofs.Decomposer

/-!
# What the limit decides

Beyond the limit a walk goes on with operands that refer to nothing. Nothing that it still does can
tell them from others: a sign looks at literals only, a divisor is compared with the literal `0`,
and the count goes on. So two runs under different limits meet the same fault or ask for the same
number of operations, and they are equal as long as the lower limit is not exceeded
(`Expr.agree_plainValue`). Main statement: raising the limit changes no outcome but that of an
expression that needs too many operations (`sameUpToLimit`).
-/

namespace Stepwise

/-- The fault is that of too many operations. -/
def LoweringFault.isTooMany : LoweringFault → Bool
  | tooMany _ _ => true
  | _ => false

/-- The error is that of too many operations. -/
def ExpressionError.isTooComplex : ExpressionError → Bool
  | tooComplex _ => true
  | _ => false

/-- The fault of that many operations under a limit. -/
def Limit.excess (limit : Limit) (count : Nat) : LoweringFault :=
  .tooMany count limit.maxOperations

/-- Two outcomes for the same input, under a lower and a higher limit, differ only where the input
needs too many operations for the lower one. `isExcess` tells the errors that report so, and
`excess` is the one that reports so many operations under a limit. -/
structure SameUpToLimit {ε α : Type} (isExcess : ε → Bool) (excess : Limit → Nat → ε)
    (low high : Limit) (atLow atHigh : Except ε α) : Prop where
  error : ∀ e, isExcess e = false → (atLow = .error e ↔ atHigh = .error e)
  result : ∀ r, atLow = .ok r → atHigh = .ok r
  tooMany : ∀ e, isExcess e = true → atHigh = .error e →
    ∃ count, e = excess high count ∧ atLow = .error (excess low count)

/-- Two runs have asked for the same number of operations, and within the limit for the same
ones. -/
structure Tally.Agree (low : Limit) (first second : Tally) : Prop where
  asked : first.asked = second.asked
  same : first.asked ≤ low.maxOperations → first = second

/-- Two runs have found values that are the same literal or both references, and within the limit
the same reference. -/
structure AgreeOnValue (low : Limit) (first second : Operand × Tally) : Prop where
  tally : Tally.Agree low first.2 second.2
  literal : first.1.literal? = second.1.literal?
  same : first.2.asked ≤ low.maxOperations → first.1 = second.1

/-- Two runs have met the same fault, or they agree on a value. -/
inductive AgreeOnOutcome (low : Limit) :
    Except LoweringFault (Operand × Tally) → Except LoweringFault (Operand × Tally) → Prop where
  | fault {fault : LoweringFault} : fault.isTooMany = false →
      AgreeOnOutcome low (.error fault) (.error fault)
  | value {first second : Operand × Tally} : AgreeOnValue low first second →
      AgreeOnOutcome low (.ok first) (.ok second)

variable {low high : Limit} {supply : Supply}

theorem Tally.Agree.refl (tally : Tally) : Tally.Agree low tally tally :=
  ⟨rfl, fun _ => rfl⟩

theorem AgreeOnOutcome.bind {x y : Except LoweringFault (Operand × Tally)}
    {f g : Operand × Tally → Except LoweringFault (Operand × Tally)} (h : AgreeOnOutcome low x y)
    (next : ∀ first second, x = .ok first → AgreeOnValue low first second →
      AgreeOnOutcome low (f first) (g second)) :
    AgreeOnOutcome low (x.bind f) (y.bind g) := by
  cases h with
  | fault other => exact .fault other
  | value agree => exact next _ _ rfl agree

/-- Asking for one more operation, with operands that are the same within the limit. -/
theorem Tally.Agree.agreeOnValue_ask (le : low.maxOperations ≤ high.maxOperations)
    {first second : Tally} (agree : Tally.Agree low first second) (kind : Arithmetic)
    {left left' right right' : Operand}
    (sameLeft : first.asked ≤ low.maxOperations → left = left')
    (sameRight : first.asked ≤ low.maxOperations → right = right') :
    AgreeOnValue low (first.ask low supply kind left right)
      (second.ask high supply kind left' right') := by
  have asked : (first.ask low supply kind left right).2.asked =
      (second.ask high supply kind left' right').2.asked := by
    simp [agree.asked]
  have same : (first.ask low supply kind left right).2.asked ≤ low.maxOperations →
      first.ask low supply kind left right = second.ask high supply kind left' right' := by
    intro within
    rw [asked_ask] at within
    have before : first.asked ≤ low.maxOperations := by omega
    obtain rfl := agree.same before
    obtain rfl := sameLeft before
    obtain rfl := sameRight before
    have room : first.asked < low.maxOperations := by omega
    have moreRoom : first.asked < high.maxOperations := by omega
    unfold ask
    rw [if_pos room, if_pos moreRoom]
  obtain ⟨id, eq⟩ := ask_fst low supply kind left right first
  obtain ⟨id', eq'⟩ := ask_fst high supply kind left' right' second
  constructor
  · exact ⟨asked, fun within => congrArg Prod.snd (same within)⟩
  · rw [eq, eq']
    rfl
  · intro within
    exact congrArg Prod.fst (same within)

/-- A sign sees of its operand only whether it is a literal, and which one. -/
theorem AgreeOnValue.sign (le : low.maxOperations ≤ high.maxOperations)
    {first second : Operand × Tally} (agree : AgreeOnValue low first second) (op : Char) :
    AgreeOnOutcome low (Tally.sign low supply op first) (Tally.sign high supply op second) := by
  obtain ⟨operand, tally⟩ := first
  obtain ⟨operand', tally'⟩ := second
  dsimp only [Tally.sign]
  by_cases minus : op = '-'
  · rw [if_neg (not_not_intro minus), if_neg (not_not_intro minus)]
    have literal := agree.literal
    cases operand with
    | literal text =>
      cases operand' with
      | literal text' =>
        obtain rfl : text = text' := Option.some.inj literal
        exact .value ⟨agree.tally, rfl, fun _ => rfl⟩
      | reference id' => cases literal
    | reference id =>
      cases operand' with
      | literal text' => cases literal
      | reference id' =>
        exact .value (agree.tally.agreeOnValue_ask le .subtraction (fun _ => rfl) agree.same)
  · rw [if_pos minus, if_pos minus]
    exact .fault rfl

/-- An operator sees of its divisor only whether it is the literal `0`. -/
theorem AgreeOnValue.combine (le : low.maxOperations ≤ high.maxOperations)
    {first second : Operand × Tally} (agree : AgreeOnValue low first second) (op : Char)
    {left left' : Operand} (sameLeft : first.2.asked ≤ low.maxOperations → left = left') :
    AgreeOnOutcome low (Tally.combine low supply op left first)
      (Tally.combine high supply op left' second) := by
  obtain ⟨right, tally⟩ := first
  obtain ⟨right', tally'⟩ := second
  have zero : right = .literal "0" ↔ right' = .literal "0" := by
    rw [← Operand.isZeroLiteral_iff, ← Operand.isZeroLiteral_iff, Operand.isZeroLiteral,
      Operand.isZeroLiteral, agree.literal]
  dsimp only [Tally.combine]
  cases Arithmetic.ofSymbol? op with
  | none => exact .fault rfl
  | some kind =>
    simp only [zero]
    by_cases divides : op = '/' ∧ right' = .literal "0"
    · rw [if_pos divides, if_pos divides]
      exact .fault rfl
    · rw [if_neg divides, if_neg divides]
      exact .value (agree.tally.agreeOnValue_ask le kind sameLeft agree.same)

namespace Expr

/-- Runs of the recursion under two limits agree from tallies that agree. -/
theorem agree_plainValue (le : low.maxOperations ≤ high.maxOperations) (e : Expr)
    {first second : Tally} (agree : Tally.Agree low first second) :
    AgreeOnOutcome low (e.plainValue low supply first) (e.plainValue high supply second) := by
  induction e generalizing first second with
  | literal text =>
    unfold plainValue
    split
    · exact .value ⟨agree, rfl, fun _ => rfl⟩
    · exact .fault rfl
  | paren inner ih => exact ih agree
  | unary op operand ih => exact (ih agree).bind fun _ _ _ found => found.sign le op
  | binary op left right ihl ihr =>
    refine (ihl agree).bind fun first second _ foundLeft => ?_
    refine (ihr foundLeft.tally).bind fun _ _ ran foundRight => ?_
    refine foundRight.combine le op fun within => foundLeft.same ?_
    -- what was asked for on the right comes on top of what was asked for on the left
    have more := (lowers_of_plainValue ran).asked_le
    omega

/-- A tree is taken apart by finding its value and then judging the count. -/
theorem lower_eq_ite (limit : Limit) (e : Expr) :
    e.lower limit supply = (e.plainValue limit supply .empty).bind fun result =>
      if result.2.asked ≤ limit.maxOperations then .ok ⟨result.2.kept, result.1⟩
      else .error (limit.excess result.2.asked) := by
  rw [lower_eq_bind]
  simp only [Lowering.finish_emitter]
  rfl

theorem sameUpToLimit_lower (le : low.maxOperations ≤ high.maxOperations) (supply : Supply)
    (e : Expr) : SameUpToLimit LoweringFault.isTooMany Limit.excess low high
      (e.lower low supply) (e.lower high supply) := by
  rw [lower_eq_ite, lower_eq_ite]
  generalize atLow : e.plainValue low supply .empty = first
  generalize atHigh : e.plainValue high supply .empty = second
  have agree : AgreeOnOutcome low first second := by
    rw [← atLow, ← atHigh]
    exact e.agree_plainValue le (.refl _)
  cases agree with
  | @fault fault static =>
    refine ⟨fun _ _ => Iff.rfl, nofun, ?_⟩
    intro error excess eq
    obtain rfl : fault = error := Except.error.inj eq
    rw [static] at excess
    cases excess
  | @value first second agree =>
    dsimp only [Except.bind]
    have asked := agree.tally.asked
    by_cases within : first.2.asked ≤ low.maxOperations
    · have alsoWithin : second.2.asked ≤ high.maxOperations := by omega
      have equal : first = second := Prod.ext (agree.same within) (agree.tally.same within)
      rw [if_pos within, if_pos alsoWithin, equal]
      exact ⟨fun _ _ => Iff.rfl, fun _ => id, nofun⟩
    · rw [if_neg within]
      refine ⟨?_, nofun, ?_⟩
      · intro error other
        constructor
        · intro eq
          obtain rfl := Except.error.inj eq
          cases other
        · intro eq
          split at eq
          · cases eq
          · obtain rfl := Except.error.inj eq
            cases other
      · intro error _ eq
        split at eq
        · cases eq
        · obtain rfl := Except.error.inj eq
          exact ⟨second.2.asked, rfl, by rw [asked]⟩

end Expr

/-- Outcomes stay the same up to the limit when their errors are reported by class. -/
theorem SameUpToLimit.mapError {ε δ α : Type} {isExcess : ε → Bool} {excess : Limit → Nat → ε}
    {atLow atHigh : Except ε α} (same : SameUpToLimit isExcess excess low high atLow atHigh)
    {isExcess' : δ → Bool} (report : ε → δ) (keeps : ∀ e, isExcess' (report e) = isExcess e) :
    SameUpToLimit isExcess' (fun limit count => report (excess limit count)) low high
      (atLow.mapError report) (atHigh.mapError report) := by
  constructor
  case error =>
    intro reported other
    simp only [mapError_eq_error_iff]
    constructor
    · rintro ⟨e, eq, rfl⟩
      rw [keeps] at other
      exact ⟨e, (same.error e other).1 eq, rfl⟩
    · rintro ⟨e, eq, rfl⟩
      rw [keeps] at other
      exact ⟨e, (same.error e other).2 eq, rfl⟩
  case result =>
    intro r eq
    exact mapError_eq_ok_iff.2 (same.result r (mapError_eq_ok_iff.1 eq))
  case tooMany =>
    intro reported isExcess refused
    obtain ⟨e, eq, rfl⟩ := mapError_eq_error_iff.1 refused
    rw [keeps] at isExcess
    obtain ⟨count, rfl, atLow⟩ := same.tooMany e isExcess eq
    exact ⟨count, rfl, mapError_eq_error_iff.2 ⟨_, atLow, rfl⟩⟩

theorem LoweringFault.isTooComplex_toError (fault : LoweringFault) :
    fault.toError.isTooComplex = fault.isTooMany := by
  cases fault <;> rfl

/-- What reading reports is no excess of operations. -/
theorem Expr.isTooComplex_of_read {text : String} {error : ExpressionError}
    (h : read text = .error error) : error.isTooComplex = false := by
  rcases eq_empty_or_isSyntaxError_of_read h with rfl | syntactic
  · rfl
  · cases error <;> first | rfl | cases syntactic

/-- Raising the limit changes nothing but what becomes of a tree, or of a text, that needs too many
operations: every other error is met under both limits or under neither, what is taken apart under
the lower limit is taken apart into the very same operations under the higher one, and a refusal
for the number of operations counts the same number under both. -/
theorem sameUpToLimit (le : low.maxOperations ≤ high.maxOperations) (supply : Supply) :
    (∀ e : Expr, SameUpToLimit LoweringFault.isTooMany Limit.excess low high
      (e.lower low supply) (e.lower high supply)) ∧
    (∀ text, SameUpToLimit ExpressionError.isTooComplex
      (fun limit count => (limit.excess count).toError) low high
      (decompose low supply text) (decompose high supply text)) := by
  refine ⟨Expr.sameUpToLimit_lower le supply, ?_⟩
  intro text
  cases read : Expr.read text with
  | ok e =>
    rw [decompose_of_read read, decompose_of_read read]
    exact (Expr.sameUpToLimit_lower le supply e).mapError LoweringFault.toError
      LoweringFault.isTooComplex_toError
  | error error =>
    rw [decompose_of_unread read, decompose_of_unread read]
    have other := Expr.isTooComplex_of_read read
    refine ⟨fun _ _ => Iff.rfl, nofun, ?_⟩
    intro reported excess eq
    obtain rfl := Except.error.inj eq
    rw [other] at excess
    cases excess

/-- A sum that needs two operations, under limits of one and of two, and a divisor that is found
after the lower limit is exceeded. -/
theorem sameUpToLimit_sums :
    (⟨1⟩ : Limit).maxOperations ≤ (⟨2⟩ : Limit).maxOperations ∧
    decompose ⟨1⟩ (.counting .nil) "1+2+3" =
      .error (.tooComplex "2 operations exceed maximum of 1") ∧
    decompose ⟨1⟩ (.counting .nil) "(1+2+3)/0" = .error .divisionByZero ∧
    decompose ⟨2⟩ (.counting .nil) "(1+2+3)/0" = .error .divisionByZero ∧
    SameUpToLimit ExpressionError.isTooComplex (fun limit count => (limit.excess count).toError)
      ⟨1⟩ ⟨2⟩ (decompose ⟨1⟩ (.counting .nil) "1+2+3")
      (decompose ⟨2⟩ (.counting .nil) "1+2+3") := by
  have le : (⟨1⟩ : Limit).maxOperations ≤ (⟨2⟩ : Limit).maxOperations := by decide
  have refused : decompose ⟨1⟩ (.counting .nil) "(1+2+3)/0" = .error .divisionByZero := by
    decide +kernel
  have refusedToo : decompose ⟨2⟩ (.counting .nil) "(1+2+3)/0" = .error .divisionByZero :=
    (((sameUpToLimit le (.counting .nil)).2 "(1+2+3)/0").error .divisionByZero rfl).1 refused
  exact ⟨le, by decide +kernel, refused, refusedToo, (sameUpToLimit le _).2 _⟩

end Stepwise
