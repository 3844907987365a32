import Stepwise.Proofs.Json.Members
import Stepwise.Settings

/-!
# Overriding the limit

The limit can be set whatever the settings hold, and setting it touches nothing else
(`Settings.override_last`). Done in place, no write lacks its place, because every level that is no
object is repaired before it is written to. The settings can be loaded afterwards unless their
configuration has a key that no configuration may have: such a key was there before and stays.
-/

namespace Stepwise.Settings

open Json (lookup? setMember ascending lookup?_setMember_self lookup?_setMember_of_ne
  setMember_setMember mem_ascending_iff isAscending_ascending)

/-- The document under a key in the section of a module. -/
def sectionMember? (settings : Settings) (name key : String) : Option Json :=
  (lookup? settings.modules name).bind fun entry => entry.member? key

/-- The document under a key in the configuration of the module that takes expressions apart. -/
def configMember? (settings : Settings) (key : String) : Option Json :=
  (settings.config? moduleName).bind fun config => config.member? key

/-- The configuration has a key that is not the key of the limit. -/
def HasForeignKey (settings : Settings) (key : String) : Prop :=
  key ≠ limitKey ∧ (settings.configMember? key).isSome = true

/-- The limit was set to `n`, and all else is as it was. -/
structure IsOverridden (n : Int) (before after : Settings) : Prop where
  limit : after.configMember? limitKey = some (.int n)
  level : after.level = before.level
  modules : ∀ name, name ≠ moduleName → lookup? after.modules name = lookup? before.modules name
  members : ∀ key, key ≠ configKey →
    after.sectionMember? moduleName key = before.sectionMember? moduleName key
  config : ∀ key, key ≠ limitKey → after.configMember? key = before.configMember? key

/-- What loading comes to after the limit was set to `n`: the limit is read back, unless there is a
foreign key, of which the first one is refused. -/
structure LoadsOverridden (n : Int) (before after : Settings) : Prop where
  loads : (∃ configured, after.configured moduleName = .ok configured) ↔
    ∀ key, ¬before.HasForeignKey key
  accepted : (∀ key, ¬before.HasForeignKey key) → after.configured moduleName = .ok n ∧
    ∃ limit, after.limit = .ok limit ∧
      (limit.maxOperations : Int) = if 0 < n then n else Limit.defaultMaximum
  refused : (∃ key, before.HasForeignKey key) → ∃ key, before.HasForeignKey key ∧
    (∀ other, before.HasForeignKey other → key ≤ other) ∧
      after.configured moduleName = .error ⟨moduleName, .unknownField key limitKey⟩

variable {settings : Settings} {n : Int}

/-! ### The limit and what stands beside it -/

/-- A document that is no object has no members. -/
theorem lookup?_membersOrNone (document : Option Json) (key : String) :
    lookup? (membersOrNone document) key = document.bind fun found => found.member? key := by
  cases document with
  | none => rfl
  | some found => cases found <;> rfl

/-- The configuration with the limit set to `n`. -/
def overriddenConfig (n : Int) (settings : Settings) : List (String × Json) :=
  setMember (membersOrNone (settings.config? moduleName)) limitKey (.int n)

theorem override_eq (n : Int) (settings : Settings) :
    settings.override n = { settings with
      modules := setMember settings.modules moduleName (.object (setMember
        (membersOrNone (lookup? settings.modules moduleName)) configKey
        (.object (settings.overriddenConfig n)))) } := by
  rw [overriddenConfig, config?, ← lookup?_membersOrNone]
  rfl

@[simp] theorem lookup?_override (n : Int) (settings : Settings) :
    lookup? (settings.override n).modules moduleName =
      some (.object (setMember (membersOrNone (lookup? settings.modules moduleName)) configKey
        (.object (settings.overriddenConfig n)))) := by
  simp [override_eq]

@[simp] theorem config?_override (n : Int) (settings : Settings) :
    (settings.override n).config? moduleName = some (.object (settings.overriddenConfig n)) := by
  simp [config?]

@[simp] theorem configMember?_override (n : Int) (settings : Settings) (key : String) :
    (settings.override n).configMember? key = lookup? (settings.overriddenConfig n) key := by
  simp [configMember?]

theorem isOverridden_override (n : Int) (settings : Settings) :
    IsOverridden n settings (settings.override n) where
  limit := by simp [overriddenConfig]
  level := rfl
  modules _ differs := lookup?_setMember_of_ne _ _ differs
  members key differs := by
    rw [sectionMember?, lookup?_override]
    exact (lookup?_setMember_of_ne _ _ differs).trans (lookup?_membersOrNone _ _)
  config key differs := by
    rw [configMember?_override]
    exact (lookup?_setMember_of_ne _ _ differs).trans (lookup?_membersOrNone _ _)

/-- Of two limits that are set one after the other, the second one stays. -/
@[simp] theorem override_override (first n : Int) (settings : Settings) :
    (settings.override first).override n = settings.override n := by
  have config : (settings.override first).overriddenConfig n = settings.overriddenConfig n := by
    rw [overriddenConfig, config?_override]
    exact setMember_setMember _ _ _ _
  have entry : setMember (membersOrNone (lookup? (settings.override first).modules moduleName))
      configKey (.object (settings.overriddenConfig n)) =
        setMember (membersOrNone (lookup? settings.modules moduleName)) configKey
          (.object (settings.overriddenConfig n)) := by
    rw [lookup?_override]
    exact setMember_setMember _ _ _ _
  rw [override_eq, config, entry, override_eq n settings, override_eq first settings]
  exact congrArg _ (setMember_setMember _ _ _ _)

/-! ### In place -/

/-- What is no object on the way to the limit is replaced by an object without members. -/
theorem repair_eq (found : Option Json) :
    (found.getD (.object [])).repair = .object (membersOrNone found) := by
  cases found with
  | none => rfl
  | some document => cases document <;> rfl

/-- A value can be written two levels deep if there is an object on the first level. -/
theorem write?_of_under {members config : List (String × Json)} {key : String}
    (there : (Json.object members).under key = .object config) (inner : String) (value : Json) :
    Json.write? value [key, inner] (.object members) =
      some (.object (setMember members key (.object (setMember config inner value)))) := by
  rw [Json.write?, there]
  rfl

/-- What stands under a key is an object, or it has no members to keep. -/
theorem isObject_cases (found : Option Json) :
    (∃ members, found = some (.object members)) ∨
      (found.getD .null).isObject = false ∧ membersOrNone found = [] := by
  match found with
  | none => exact .inr ⟨rfl, rfl⟩
  | some document =>
    cases document with
    | object members => exact .inl ⟨members, rfl⟩
    | _ => exact .inr ⟨rfl, rfl⟩

/-- What stands under a key is repaired in the same way, and nothing else changes. -/
theorem exists_repairUnder? (members : List (String × Json)) (key : String) :
    ∃ repaired, (Json.object members).repairUnder? key = some (.object repaired) ∧
      (Json.object repaired).under key = .object (membersOrNone (lookup? members key)) ∧
      ∀ value, setMember repaired key value = setMember members key value := by
  have under : ∀ members, (Json.object members).under key = (lookup? members key).getD .null :=
    fun _ => rfl
  rw [Json.repairUnder?, under]
  rcases isObject_cases (lookup? members key) with ⟨config, found⟩ | ⟨noObject, noMembers⟩
  · refine ⟨members, ?_, ?_, fun _ => rfl⟩
    · rw [found]
      rfl
    · rw [under, found]
      rfl
  · -- The empty object is written over as soon as a value is set, so it leaves no trace.
    refine ⟨setMember members key (.object []), ?_, ?_, fun _ => setMember_setMember _ _ _ _⟩
    · rw [noObject]
      rfl
    · simp [under, noMembers]

/-- No write in place lacks its place. -/
theorem overrideInPlace?_eq (n : Int) (settings : Settings) :
    settings.overrideInPlace? n = some (settings.override n) := by
  obtain ⟨entry, repaired, there, same⟩ :=
    exists_repairUnder? (membersOrNone (lookup? settings.modules moduleName)) configKey
  rw [overrideInPlace?, repair_eq]
  simp only [repaired, Option.bind_eq_bind, Option.bind_some, write?_of_under there, same]
  rfl

/-- Of several limits that are set one after another, the last one stays. -/
theorem overrideAll?_concat (earlier : List Int) (n : Int) (settings : Settings) :
    settings.overrideAll? (earlier ++ [n]) = some (settings.override n) := by
  induction earlier generalizing settings with
  | nil => simp [overrideAll?, overrideInPlace?_eq]
  | cons first rest ih =>
    have tail := ih (settings.override first)
    rw [override_override] at tail
    simpa [overrideAll?, overrideInPlace?_eq] using tail

/-! ### Loading the limit -/

/-- Members that all say the same limit are read to that limit. -/
theorem configuredOfMembers_append (range : Text.isInt64 n = true) (configured : Int)
    {before : List (String × Json)} (all : ∀ member ∈ before, member = (limitKey, .int n))
    (rest : List (String × Json)) :
    configuredOfMembers configured (before ++ rest) =
      configuredOfMembers (if before.isEmpty then configured else n) rest := by
  induction before generalizing configured with
  | nil => rfl
  | cons member before ih =>
    obtain ⟨rfl, allBefore⟩ := List.forall_mem_cons.1 all
    have decoded : Decode.int64 (.int n) = .ok n := if_pos range
    rw [List.cons_append, configuredOfMembers, if_pos rfl, decoded]
    simp [ih n allBefore]

/-- The configuration with the limit set has the limit and the foreign keys that were there. -/
theorem mem_ascending_overriddenConfig {member : String × Json} :
    member ∈ ascending (settings.overriddenConfig n) ↔
      member = (limitKey, .int n) ∨
        (member.1 ≠ limitKey ∧ settings.configMember? member.1 = some member.2) := by
  obtain ⟨key, value⟩ := member
  rw [mem_ascending_iff, ← configMember?_override]
  by_cases here : key = limitKey
  · subst here
    rw [(isOverridden_override n settings).limit]
    simp [eq_comm]
  · rw [(isOverridden_override n settings).config key here]
    simp [here]

theorem configured_override (n : Int) (settings : Settings) :
    (settings.override n).configured moduleName =
      (configuredOfMembers Limit.defaultMaximum (ascending (settings.overriddenConfig n))).mapError
        fun fault => ⟨moduleName, fault⟩ := by
  rw [configured, config?_override]
  rfl

/-- Without a foreign key the limit is read back. -/
theorem configured_of_noForeignKey (range : Text.isInt64 n = true)
    (noForeignKey : ∀ key, ¬settings.HasForeignKey key) :
    (settings.override n).configured moduleName = .ok n := by
  have all : ∀ member ∈ ascending (settings.overriddenConfig n), member = (limitKey, .int n) := by
    intro member mem
    rcases mem_ascending_overriddenConfig.1 mem with same | ⟨differs, found⟩
    · exact same
    · exact absurd ⟨differs, by rw [found]; rfl⟩ (noForeignKey member.1)
  have nonempty : (ascending (settings.overriddenConfig n)).isEmpty = false :=
    List.isEmpty_eq_false_iff.2 (List.ne_nil_of_mem (mem_ascending_overriddenConfig.2 (.inl rfl)))
  have read := configuredOfMembers_append range Limit.defaultMaximum all []
  rw [List.append_nil, nonempty] at read
  rw [configured_override, read]
  rfl

theorem hasForeignKey_iff {key : String} : settings.HasForeignKey key ↔
    key ≠ limitKey ∧ ∃ value, (key, value) ∈ ascending (settings.overriddenConfig n) := by
  rw [HasForeignKey, Option.isSome_iff_exists]
  refine and_congr_right fun differs => exists_congr fun value => ?_
  simp [mem_ascending_overriddenConfig, differs]

/-- The first foreign key is refused. -/
theorem configured_of_foreignKey (range : Text.isInt64 n = true)
    (foreign : ∃ key, settings.HasForeignKey key) :
    ∃ key, settings.HasForeignKey key ∧ (∀ other, settings.HasForeignKey other → key ≤ other) ∧
      (settings.override n).configured moduleName =
        .error ⟨moduleName, .unknownField key limitKey⟩ := by
  have holds : ∃ member ∈ ascending (settings.overriddenConfig n), member.1 ≠ limitKey := by
    obtain ⟨key, hasKey⟩ := foreign
    obtain ⟨differs, value, mem⟩ := (hasForeignKey_iff (n := n)).1 hasKey
    exact ⟨_, mem, differs⟩
  obtain ⟨before, ⟨key, value⟩, rest, parts, noneBefore, differs, least⟩ :=
    (isAscending_ascending _).exists_first (p := (· ≠ limitKey)) holds
  -- Reading goes on over the members before the first foreign key, which all say the limit.
  have all : ∀ member ∈ before, member = (limitKey, .int n) := by
    intro member inBefore
    have mem : member ∈ ascending (settings.overriddenConfig n) := by
      rw [parts]
      exact List.mem_append_left _ inBefore
    exact (mem_ascending_overriddenConfig.1 mem).resolve_right fun found =>
      noneBefore member inBefore found.1
  have mem : (key, value) ∈ ascending (settings.overriddenConfig n) := by
    rw [parts]
    exact List.mem_append_right _ List.mem_cons_self
  refine ⟨key, hasForeignKey_iff.2 ⟨differs, value, mem⟩, ?_, ?_⟩
  · intro other hasOther
    obtain ⟨otherDiffers, otherValue, mem⟩ := hasForeignKey_iff.1 hasOther
    exact least _ mem otherDiffers
  · rw [configured_override, parts, configuredOfMembers_append range _ all, configuredOfMembers,
      if_neg differs]
    rfl

theorem loadsOverridden_override (range : Text.isInt64 n = true) (settings : Settings) :
    LoadsOverridden n settings (settings.override n) where
  loads := by
    refine ⟨?_, fun noForeignKey => ⟨n, configured_of_noForeignKey range noForeignKey⟩⟩
    rintro ⟨configured, good⟩ key hasKey
    obtain ⟨_, -, -, refused⟩ := configured_of_foreignKey range ⟨key, hasKey⟩
    rw [refused] at good
    contradiction
  accepted noForeignKey := by
    have read := configured_of_noForeignKey range noForeignKey
    refine ⟨read, .ofInt n, ?_, Limit.maxOperations_ofInt n⟩
    rw [limit, read]
    rfl
  refused := configured_of_foreignKey range

/-- Setting the limit several times is setting it to the last value: it never fails, it changes
nothing but the limit, and the settings can be loaded afterwards unless there is a foreign key. -/
theorem override_last (settings : Settings) (earlier : List Int) {n : Int}
    (range : Text.isInt64 n = true) :
    settings.overrideAll? (earlier ++ [n]) = some (settings.override n) ∧
      settings.overrideInPlace? n = some (settings.override n) ∧
        IsOverridden n settings (settings.override n) ∧
          LoadsOverridden n settings (settings.override n) :=
  ⟨overrideAll?_concat earlier n settings, overrideInPlace?_eq n settings,
    isOverridden_override n settings, loadsOverridden_override range settings⟩

/-- A configuration that is a string gives way to an object, and the limit of the last call is the
one that is loaded. -/
theorem override_last_malformed :
    let before : Settings := ⟨"warn", [("other", .null),
      (moduleName, .object [("note", .bool true), (configKey, .string "none")])]⟩
    let after : Settings := ⟨"warn", [("other", .null),
      (moduleName, .object [("note", .bool true), (configKey, .object [(limitKey, .int 3)])])]⟩
    Text.isInt64 3 = true ∧ before.overrideAll? ([7, -1] ++ [3]) = some after ∧
      before.overrideInPlace? 3 = some after ∧ IsOverridden 3 before after ∧
        LoadsOverridden 3 before after :=
  ⟨by decide, override_last _ [7, -1] (by decide)⟩

end Stepwise.Settings
