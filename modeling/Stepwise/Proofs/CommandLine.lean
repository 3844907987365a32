import Stepwise.CommandLine.Run
import Stepwise.Proofs.Interchange
import Stepwise.Proofs.Json.Spelling
import Stepwise.Proofs.Lowering.Offence
import Stepwise.Proofs.Worklist

/-!
# Decomposing from the command line

With the switch `--verify` the operations are checked once more before they are printed. As long as
the supply does not repeat an identifier, the check finds nothing, so the switch changes nothing
(`Invocation.run_decomposing_agrees`): the operations of an expression are in order, and binding
them to a calculation keeps the order. What is printed, in either layout, is read as the document of
the decomposition.
-/

namespace Stepwise

/-- The decomposition with one calculation, or none, for all operations. -/
def Decomposition.assigned (calculation : Option Id) (decomposition : Decomposition) :
    Decomposition :=
  { decomposition with
    operations := decomposition.operations.map fun operation =>
      { operation with calculation := calculation } }

namespace Invocation

/-- The command line with the command `decompose`. -/
def decomposing (invocation : Invocation) (expression : String) (calculation : Option Id)
    (verify compact : Bool) : Invocation :=
  { invocation with command := some (.decompose expression calculation verify compact) }

/-- The limit under which the command is carried out, or what the command line comes to before
that. -/
def limitOf (invocation : Invocation) (world : World) : Except Outcome Limit :=
  match Settings.load world.file? world.environment invocation.configPath with
  | .error e => .error (unloaded e)
  | .ok settings =>
    let settings := overridden invocation.maxOperations settings
    if invocation.printConfig then .error (.settings settings)
    else settings.limit.mapError fun e => .failed e.message

end Invocation

/-! ### Documents of decompositions -/

theorem Operation.isNumberless_toJson (operation : Operation) :
    operation.toJson.isNumberless = true := by
  rcases operation with ⟨id, _ | calculation, kind, left, right, status⟩ <;> rfl

theorem Decomposition.isNumberless_toJson (decomposition : Decomposition) :
    decomposition.toJson.isNumberless = true := by
  have items (operations : List Operation) :
      Json.itemsNumberless (operations.map Operation.toJson) = true := by
    induction operations with
    | nil => rfl
    | cons operation rest ih =>
      exact Bool.and_eq_true_iff.2 ⟨operation.isNumberless_toJson, ih⟩
  rw [toJson, Json.isNumberless, Json.membersNumberless, Json.isNumberless, items]
  rfl

theorem Decomposition.isWellSpelt_assigned (calculation : Option Id)
    (decomposition : Decomposition) :
    (decomposition.assigned calculation).isWellSpelt = decomposition.isWellSpelt := by
  simp only [isWellSpelt, assigned, List.all_map]
  rfl

/-! ### The operations of an expression -/

variable {limit : Limit} {supply : Supply} {expression : String} {decomposition : Decomposition}

/-- An expression comes to as many operations as its tree costs. -/
theorem length_of_decompose
    (decomposed : decompose limit supply expression = .ok decomposition) :
    ∃ e, Expr.read expression = .ok e ∧ decomposition.operations.length = e.cost := by
  obtain ⟨e, read, lowered⟩ := lower_of_decompose decomposed
  obtain ⟨tally, lowers, within, operations⟩ := Expr.lowers_of_lower lowered
  obtain ⟨tree, -, isKept⟩ := lowers.stepTree rfl within
  refine ⟨e, read, ?_⟩
  rw [operations, ← isKept.full, lowers.asked_eq]
  exact Nat.zero_add _

/-- Binding sets the calculation of operations that have none yet. -/
theorem bound_eq_assigned (calculation : Option Id)
    (decomposed : decompose limit supply expression = .ok decomposition) :
    Command.bound calculation decomposition = decomposition.assigned calculation := by
  cases calculation with
  | some calculation => rfl
  | none =>
    obtain ⟨tree, rfl⟩ := stepTree_of_decompose decomposed
    have unbound : (tree.operations supply 0).map (fun operation : Operation =>
        { operation with calculation := none }) = tree.operations supply 0 := by
      refine (List.map_congr_left fun operation mem => ?_).trans (List.map_id _)
      have fresh := (StepTree.fresh_operations mem).2
      cases operation
      exact congrArg (Operation.mk _ · _ _ _ _) fresh.symm
    exact congrArg (Decomposition.mk · _) unbound.symm

/-- The operations of an expression are in order, whatever their calculation. -/
theorem checkOrder_assigned (calculation : Option Id)
    (decomposed : decompose limit supply expression = .ok decomposition)
    (distinct : supply.IsDistinct decomposition.operations.length) :
    checkOrder (decomposition.assigned calculation).operations = .ok () := by
  have unused : ([] ++ supply.draws 0 decomposition.operations.length).Nodup := distinct
  obtain ⟨-, ready⟩ := Edit.isReady_of_decompose decomposed unused
  refine OperationOrder.checkOrder_eq_ok_iff.2 ((OperationOrder.isReady_congr ?_).2 ready)
  rw [Decomposition.assigned, List.map_map]
  rfl

/-! ### Outcomes -/

/-- The command prints the decomposition or reports why there is none. The check adds nothing. -/
theorem Command.run_decompose (limit : Limit) (calculation : Option Id) (verify compact : Bool)
    (distinct : ∀ e, Expr.read expression = .ok e → supply.IsDistinct e.cost) :
    (decompose expression calculation verify compact).run limit supply =
      match Client.decompose limit supply expression with
      | .ok decomposition => .printed (rendered compact (decomposition.assigned calculation))
      | .error e => .failed e.message := by
  rw [run]
  cases outcome : Client.decompose limit supply expression with
  | error e => rfl
  | ok decomposition =>
    have decomposed := mapError_eq_ok_iff.1 outcome
    have ordered : checkOrder (decomposition.assigned calculation).operations = .ok () := by
      obtain ⟨e, read, length⟩ := length_of_decompose decomposed
      exact checkOrder_assigned calculation decomposed (length ▸ distinct e read)
    dsimp only
    rw [bound_eq_assigned calculation decomposed, ordered]
    exact ite_self _

theorem Text.head?_append {start rest : String} {c : Char} (h : start.toList.head? = some c) :
    (start ++ rest).toList.head? = some c := by
  rw [String.toList_append, List.head?_append, h]
  rfl

theorem Command.ne_disordered {text : String} {c : Char} (h : text.toList.head? = some c)
    (other : c ≠ 'e') : text ≠ disordered := by
  rintro rfl
  exact other (Option.some.inj h).symm

theorem ClientError.message_ne_disordered (error : ClientError) :
    error.message ≠ Command.disordered := by
  cases error with
  | divisionByZero => decide
  | _ => exact Command.ne_disordered (Text.head?_append rfl) (by decide)

theorem Settings.ConfigError.message_ne_disordered (error : ConfigError) :
    error.message ≠ Command.disordered := by
  refine Command.ne_disordered (c := 'i') ?_ (by decide)
  unfold message
  exact Text.head?_append (Text.head?_append (Text.head?_append rfl))

namespace Invocation

variable {invocation : Invocation} {world : World}

theorem message?_unloaded_ne (error : Settings.LoadError) :
    (unloaded error).message? ≠ some Command.disordered := by
  cases error with
  | missingFile path =>
    exact mt Option.some.inj (Command.ne_disordered (Text.head?_append rfl) (by decide))
  | unreadable => decide
  | brokenVariable => exact nofun

/-- The command only matters once there is a limit. -/
theorem run_command (invocation : Invocation) (world : World) (command : Command) :
    run { invocation with command := some command } world =
      match invocation.limitOf world with
      | .ok limit => command.run limit world.supply
      | .error outcome => outcome := by
  unfold run limitOf runWith
  dsimp only
  cases Settings.load world.file? world.environment invocation.configPath with
  | error e => rfl
  | ok settings =>
    dsimp only
    split
    · rfl
    · cases (overridden invocation.maxOperations settings).limit <;> rfl

/-- Without a limit a command line fails, or prints its settings. -/
theorem limitOf_eq_error {outcome : Outcome} (h : invocation.limitOf world = .error outcome) :
    (∃ settings, invocation.printConfig = true ∧ outcome = .settings settings) ∨
      outcome.exitCode ≠ 0 ∧ outcome.message? ≠ some Command.disordered := by
  unfold limitOf at h
  cases loaded : Settings.load world.file? world.environment invocation.configPath with
  | error e =>
    rw [loaded] at h
    cases h
    exact .inr ⟨by cases e <;> exact nofun, message?_unloaded_ne e⟩
  | ok settings =>
    rw [loaded] at h
    dsimp only at h
    split at h
    next asked => cases h; exact .inl ⟨_, asked, rfl⟩
    next =>
      obtain ⟨e, -, rfl⟩ := mapError_eq_error_iff.1 h
      exact .inr ⟨nofun, mt Option.some.inj e.message_ne_disordered⟩

/-- What a command line that decomposes comes to does not depend on the check. -/
theorem run_decomposing (expression : String) (calculation : Option Id) (verify compact : Bool)
    (distinct : ∀ e, Expr.read expression = .ok e → world.supply.IsDistinct e.cost) :
    (invocation.decomposing expression calculation verify compact).run world =
      match invocation.limitOf world with
      | .ok limit =>
        match Client.decompose limit world.supply expression with
        | .ok decomposition =>
          .printed (Command.rendered compact (decomposition.assigned calculation))
        | .error e => .failed e.message
      | .error outcome => outcome := by
  rw [decomposing, run_command]
  simp only [Command.run_decompose _ calculation verify compact distinct]

/-- Either way to print a decomposition is read as its document. -/
theorem read_output_rendered (compact : Bool) (decomposition : Decomposition) :
    Json.read (Outcome.printed (Command.rendered compact decomposition)).output =
      some decomposition.toJson := by
  have written := Json.read_written decomposition.isNumberless_toJson
  cases compact with
  | true => exact written.1
  | false => exact written.2

/-- With distinct identifiers for all operations that the expression asks for, checking the
operations before they are printed changes nothing, however the command line is configured, and
never finds them in disorder. A command line that decomposes and succeeds does so in all modes,
unless it only prints its settings: it writes the decomposition with the given calculation, or none,
for all operations, and what it writes can be read back. If the decomposition fails, its error is
reported and nothing is written. -/
theorem run_decomposing_agrees (world : World) (invocation : Invocation) (expression : String)
    (calculation : Option Id)
    (distinct : ∀ e, Expr.read expression = .ok e → world.supply.IsDistinct e.cost) :
    let outcome (verify compact : Bool) :=
      (invocation.decomposing expression calculation verify compact).run world
    (∀ compact, outcome true compact = outcome false compact) ∧
    (∀ verify compact, (outcome verify compact).message? ≠ some Command.disordered) ∧
    (∀ verify compact, invocation.printConfig = false → (outcome verify compact).exitCode = 0 →
      ∃ limit decomposition, invocation.limitOf world = .ok limit ∧
        Client.decompose limit world.supply expression = .ok decomposition ∧
        Decomposition.ofJson (decomposition.assigned calculation).toJson =
          .ok (decomposition.assigned calculation) ∧
        ∀ verify compact, (outcome verify compact).exitCode = 0 ∧
          Json.read (outcome verify compact).output =
            some (decomposition.assigned calculation).toJson) ∧
    (∀ verify compact limit error, invocation.limitOf world = .ok limit →
      Client.decompose limit world.supply expression = .error error →
      outcome verify compact = .failed error.message ∧ (outcome verify compact).output = "") := by
  intro outcome
  have outcome_eq (verify compact : Bool) : outcome verify compact = _ :=
    run_decomposing expression calculation verify compact distinct
  refine ⟨fun compact => ?_, fun verify compact => ?_, fun verify compact command success => ?_,
    fun verify compact limit error prepared failed => ?_⟩
  · rw [outcome_eq true, outcome_eq false]
  · rw [outcome_eq]
    split
    next =>
      split
      next => exact nofun
      next error _ => exact mt Option.some.inj error.message_ne_disordered
    next early prepared =>
      rcases limitOf_eq_error prepared with ⟨settings, -, rfl⟩ | ⟨-, other⟩
      · exact nofun
      · exact other
  · rw [outcome_eq] at success
    split at success
    next limit prepared =>
      split at success
      next decomposition decomposed =>
        have printed (verify compact : Bool) : outcome verify compact =
            .printed (Command.rendered compact (decomposition.assigned calculation)) := by
          simp only [outcome_eq, prepared, decomposed]
        have spelt : (decomposition.assigned calculation).isWellSpelt = true := by
          rw [Decomposition.isWellSpelt_assigned]
          exact Decomposition.isWellSpelt_of_decompose (mapError_eq_ok_iff.1 decomposed)
        refine ⟨limit, decomposition, prepared, decomposed, Decomposition.ofJson_toJson spelt,
          fun verify compact => ?_⟩
        rw [printed]
        exact ⟨rfl, read_output_rendered compact _⟩
      next => cases success
    next early prepared =>
      rcases limitOf_eq_error prepared with ⟨_, asked, -⟩ | ⟨fails, -⟩
      · rw [command] at asked
        cases asked
      · exact absurd success fails
  · have reported : outcome verify compact = .failed error.message := by
      simp only [outcome_eq, prepared, failed]
    exact ⟨reported, by rw [reported]; rfl⟩

/-- A quotient of a sum and a negated difference, bound to a calculation, under a limit of four. -/
theorem run_decomposing_agrees_quotient :
    let world : World := ⟨[], fun _ => none, .counting ⟨1⟩⟩
    let invocation : Invocation := { empty with maxOperations := some 4 }
    let outcome (verify compact : Bool) :=
      (invocation.decomposing "(1+2)/-(3-4)" (some ⟨9⟩) verify compact).run world
    (∀ e, Expr.read "(1+2)/-(3-4)" = .ok e → world.supply.IsDistinct e.cost) ∧
    (∀ compact, outcome true compact = outcome false compact) ∧
    (invocation.printConfig = false ∧ (outcome false true).exitCode = 0) ∧
    ∃ limit decomposition, invocation.limitOf world = .ok limit ∧
      Client.decompose limit world.supply "(1+2)/-(3-4)" = .ok decomposition ∧
      Decomposition.ofJson (decomposition.assigned (some ⟨9⟩)).toJson =
        .ok (decomposition.assigned (some ⟨9⟩)) ∧
      ∀ verify compact, (outcome verify compact).exitCode = 0 ∧
        Json.read (outcome verify compact).output =
          some (decomposition.assigned (some ⟨9⟩)).toJson := by
  intro world invocation outcome
  have distinct (e : Expr) (read : Expr.read "(1+2)/-(3-4)" = .ok e) :
      world.supply.IsDistinct e.cost := by
    have tree : Expr.read "(1+2)/-(3-4)" = .ok (.binary '/'
        (.paren (.binary '+' (.literal "1") (.literal "2")))
        (.unary '-' (.paren (.binary '-' (.literal "3") (.literal "4"))))) := by
      decide +kernel
    cases tree.symm.trans read
    decide +kernel
  have success : (outcome false true).exitCode = 0 := by decide +kernel
  obtain ⟨same, -, agrees, -⟩ :=
    run_decomposing_agrees world invocation "(1+2)/-(3-4)" (some ⟨9⟩) distinct
  exact ⟨distinct, same, ⟨rfl, success⟩, agrees false true rfl success⟩

end Invocation

end Stepwise
