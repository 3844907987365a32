import Stepwise.CommandLine.Run
import Stepwise.Proofs.Json.Members
import Stepwise.Proofs.Settings.Origin
import Stepwise.Proofs.Settings.Override

/-!
# Which limit counts

The limit of the command line counts before that of the environment, which counts before that of
the file, and where there is none the default holds (`Settings.chosenLimit_of_load`).
-/

namespace Stepwise.Settings

open Json (lookup? ascending IsAscending)

/-! ### Decoding -/

theorem eq_int_of_int64 {document : Json} {n : Int} (h : Decode.int64 document = .ok n) :
    document = .int n := by
  cases document with
  | int m =>
    rw [Decode.int64] at h
    split at h
    next => rw [Except.ok.inj h]
    next => cases h
  | _ => cases h

/-- Members that are accepted are at most one, and that one is the limit. -/
theorem configuredOfMembers_eq_ok {configured n : Int} {members : List (String × Json)}
    (ascends : IsAscending members) (h : configuredOfMembers configured members = .ok n) :
    (members = [] ∧ n = configured) ∨ members = [(limitKey, .int n)] := by
  have head {configured : Int} {key : String} {value : Json} {rest : List (String × Json)}
      (h : configuredOfMembers configured ((key, value) :: rest) = .ok n) :
      key = limitKey ∧ ∃ m, value = .int m ∧ configuredOfMembers m rest = .ok n := by
    rw [configuredOfMembers] at h
    split at h
    next here =>
      cases decoded : Decode.int64 value with
      | ok m =>
        rw [decoded] at h
        exact ⟨here, m, eq_int_of_int64 decoded, h⟩
      | error fault =>
        rw [decoded] at h
        cases h
    next => cases h
  cases members with
  | nil => exact .inl ⟨rfl, (Except.ok.inj h).symm⟩
  | cons first rest =>
    obtain ⟨key, value⟩ := first
    obtain ⟨rfl, m, rfl, later⟩ := head h
    cases rest with
    | nil =>
      obtain rfl := Except.ok.inj later
      exact .inr rfl
    | cons second rest =>
      have less := (List.pairwise_cons.1 ascends).1 second List.mem_cons_self
      rw [(head later).1] at less
      exact absurd less (String.lt_irrefl _)

/-- What a configuration that is accepted looks like. -/
theorem configuredOfJson_eq_ok {config : Json} {n : Int} (h : configuredOfJson config = .ok n) :
    (∃ members, config = .object members ∧
      (∀ key, (lookup? members key).isSome → key = limitKey) ∧
      (lookup? members limitKey).getD (.int Limit.defaultMaximum) = .int n) ∨
    (config = .array [] ∧ n = Limit.defaultMaximum) ∨ config = .array [.int n] := by
  cases config with
  | object members =>
    refine .inl ⟨members, rfl, ?_⟩
    simp only [← Json.lookup?_ascending members]
    rcases configuredOfMembers_eq_ok (Json.isAscending_ascending members) h with ⟨none, rfl⟩ | one
    · rw [none]
      exact ⟨nofun, rfl⟩
    · simp only [one, lookup?_singleton]
      refine ⟨fun key found => ?_, by simp⟩
      by_cases here : limitKey = key
      · exact here.symm
      · simp [here] at found
  | array items =>
    obtain ⟨configured, first, rest⟩ := bind_eq_ok_iff.1 h
    obtain ⟨⟨⟩, done, eq⟩ := bind_eq_ok_iff.1 rest
    have few := Decode.noMore_eq_ok_iff.1 done
    obtain rfl := Except.ok.inj eq
    match items with
    | [] =>
      obtain rfl := Except.ok.inj first
      exact .inr (.inl ⟨rfl, rfl⟩)
    | [item] =>
      obtain ⟨m, decoded, rfl⟩ := map_eq_ok_iff.1 first
      rw [eq_int_of_int64 decoded]
      exact .inr (.inr rfl)
    | _ :: _ :: _ =>
      simp at few
  | _ => cases h

/-! ### The document -/

theorem lookup?_withoutSurplus (members : List (String × Json)) {key : String}
    (other : key ≠ "logging") :
    lookup? (members.map withoutSurplus) key = lookup? members key := by
  have same (member : String × Json) :
      (if (withoutSurplus member).1 = key then some (withoutSurplus member).2 else none) =
        if member.1 = key then some member.2 else none := by
    unfold withoutSurplus
    split
    next => rw [if_neg other.symm, if_neg other.symm]
    next => rfl
  induction members with
  | nil => rfl
  | cons member rest ih =>
    rw [List.map_cons, Json.lookup?_cons, Json.lookup?_cons, ih, same]

/-- The sections of the modules are what stands in the document. -/
theorem lookup?_modules_of_ofMembers {members : List (String × Json)} {settings : Settings}
    (h : ofJson (.object members) = .ok settings) (name : String) :
    lookup? settings.modules name =
      (lookup? members "modules").bind fun modules => modules.member? name := by
  obtain ⟨level, -, rest⟩ := bind_eq_ok_iff.1 h
  obtain ⟨modules, decoded, eq⟩ := bind_eq_ok_iff.1 rest
  obtain rfl := Except.ok.inj eq
  unfold Decode.member? at decoded
  cases found : lookup? members "modules" with
  | none =>
    rw [found] at decoded
    obtain rfl := Except.ok.inj decoded
    rfl
  | some document =>
    rw [found] at decoded
    obtain ⟨sections, accepted, rfl⟩ := map_eq_ok_iff.1 decoded
    cases document with
    | object inner =>
      obtain rfl := Except.ok.inj accepted
      exact Json.lookup?_ascending inner name
    | _ => cases accepted

/-- The configuration of the module stands in the document that the layers come to. -/
theorem config?_of_ofDocument {document : Json} {settings : Settings}
    (h : ofDocument document = some settings) :
    settings.config? moduleName = document.at? configPath := by
  unfold ofDocument at h
  split at h
  next members =>
    obtain ⟨read, -⟩ := Option.filter_eq_some_iff.1 h
    have decoded := toOption_eq_some_iff.1 read
    rw [config?, lookup?_modules_of_ofMembers decoded, lookup?_withoutSurplus _ (by decide),
      configPath, Json.at?_object, Option.bind_assoc]
    simp only [Json.at?, Option.bind_fun_some]
  next => cases h

/-! ### Loading -/

theorem load_eq_ok {file? : String → Option String} {environment : List (String × String)}
    {source : Option String} {settings : Settings}
    (h : load file? environment source = .ok settings) :
    ∃ file layer, layerOfFile file? source = .ok (some file) ∧
      layerOfEnvironment environment = some layer ∧
      ofLayers [file, layer] = some settings := by
  unfold load at h
  split at h
  next => cases h
  next => cases h
  next => cases h
  next file layer isFile isLayer =>
    split at h
    next settings layers =>
      cases h
      exact ⟨file, layer, isFile, isLayer, layers⟩
    next => cases h

variable {file layer : Json} {settings : Settings} {n : Int}

theorem configured_eq_ok (accepted : settings.configured moduleName = .ok n) :
    (settings.config? moduleName = none ∧ n = Limit.defaultMaximum) ∨
      ∃ config, settings.config? moduleName = some config ∧ configuredOfJson config = .ok n := by
  unfold configured at accepted
  split at accepted
  next absent => exact .inl ⟨absent, (Except.ok.inj accepted).symm⟩
  next config found => exact .inr ⟨config, found, mapError_eq_ok_iff.1 accepted⟩

/-- A configuration that is accepted has no member but the limit. -/
theorem configMember?_of_configured (accepted : settings.configured moduleName = .ok n)
    {key : String} {value : Json} (found : settings.configMember? key = some value) :
    key = limitKey ∧ value = .int n := by
  obtain ⟨config, isConfig, isMember⟩ := Option.bind_eq_some_iff.1 found
  rcases configured_eq_ok accepted with ⟨absent, -⟩ | ⟨config', isConfig', decoded⟩
  · rw [absent] at isConfig
    cases isConfig
  · obtain rfl := Option.some.inj (isConfig.symm.trans isConfig')
    rcases configuredOfJson_eq_ok decoded with ⟨members, rfl, only, limit⟩ | ⟨rfl, -⟩ | rfl
    · change lookup? members key = some value at isMember
      obtain rfl := only key (by rw [isMember]; rfl)
      rw [isMember] at limit
      exact ⟨rfl, limit⟩
    · cases isMember
    · cases isMember

/-- The limit stands in the document that the layers come to. -/
theorem configMember?_of_ofDocument {document : Json} (h : ofDocument document = some settings) :
    settings.configMember? limitKey = document.at? limitPath := by
  simp [configMember?, config?_of_ofDocument h, limitPath]

/-- What the command line says is read back. -/
theorem eq_of_configured_override {given : Int}
    (accepted : (settings.override given).configured moduleName = .ok n) : n = given :=
  have limit := (isOverridden_override given settings).limit
  (Json.int.inj (configMember?_of_configured accepted limit).2).symm

/-- What a variable says is read back. -/
theorem eq_of_variable {value : Json} (holds : Holds layer (some value))
    (layers : ofLayers [file, layer] = some settings)
    (accepted : settings.configured moduleName = .ok n) : value = .int n := by
  obtain ⟨found, isFound, only⟩ := holds.present value rfl
  have merged : settings.configMember? limitKey = some (laidOver _ found) :=
    (configMember?_of_ofDocument layers).trans
      (at?_merge_of_found holds.opens.isTidy isFound)
  exact only n (eq_int_of_laidOver (configMember?_of_configured accepted merged).2)

/-- Variables that do not set the limit leave the configuration alone: they would add a member that
no configuration may have. -/
theorem at?_configPath_of_holds (holds : Holds layer none)
    (layers : ofLayers [file, layer] = some settings)
    (accepted : settings.configured moduleName = .ok n) : layer.at? configPath = none := by
  cases found : layer.at? configPath with
  | none => rfl
  | some config =>
    obtain ⟨key, isMember⟩ := holds.filled config found
    obtain ⟨inner, member⟩ := Option.isSome_iff_exists.1 isMember
    obtain ⟨members, rfl, present⟩ := Json.member?_eq_some_iff.1 member
    obtain ⟨distinct, -⟩ := holds.opens.inside found
    have merged : settings.config? moduleName = some (laidOver _ (.object members)) :=
      (config?_of_ofDocument layers).trans
        (at?_merge_of_found holds.opens.of_append.isTidy found)
    have kept := isSome_member?_laidOver ((merge standard.toJson file).at? configPath) distinct
      (Option.isSome_iff_exists.2 ⟨inner, present⟩)
    obtain ⟨value, isValue⟩ := Option.isSome_iff_exists.1 kept
    have foreign : settings.configMember? key = some value :=
      Option.bind_eq_some_iff.2 ⟨_, merged, isValue⟩
    obtain ⟨rfl, -⟩ := configMember?_of_configured accepted foreign
    have absent := holds.absent rfl
    rw [limitPath, Json.at?_append, found, Option.bind_some, Json.at?_singleton, member] at absent
    cases absent

/-- Without a variable the file decides. -/
theorem eq_of_file (tidy : ∀ path, file.IsTidy path) (holds : Holds layer none)
    (layers : ofLayers [file, layer] = some settings)
    (accepted : settings.configured moduleName = .ok n) :
    (valueOfFile? file).getD (.int Limit.defaultMaximum) = .int n := by
  have untouched := at?_configPath_of_holds holds layers accepted
  have isConfig : settings.config? moduleName = file.at? configPath := by
    rw [config?_of_ofDocument layers]
    exact (at?_merge_of_open holds.opens.of_append untouched).trans
      (at?_merge_of_absent (tidy _) rfl)
  have inFile : file.at? limitPath =
      (file.at? configPath).bind fun config => config.member? limitKey := by
    simp [limitPath]
  unfold valueOfFile?
  rcases configured_eq_ok accepted with ⟨absent, rfl⟩ | ⟨config, found, decoded⟩
  · rw [inFile, ← isConfig, absent]
    rfl
  · rw [inFile, ← isConfig, found]
    rcases configuredOfJson_eq_ok decoded with ⟨members, rfl, -, limit⟩ | ⟨rfl, rfl⟩ | rfl
    · exact limit
    · rfl
    · rfl

/-- The limit that is configured is that of the command line, or else that of the environment, or
else that of the file, or else the default, as long as no variable sets something on the way to
the limit or below it. Nothing else in any layer counts. A limit that is not positive stands for
the default. -/
theorem chosenLimit_of_load {file? : String → Option String}
    {environment : List (String × String)} {source : Option String} {settings : Settings}
    {maxOperations : Option Int} {n : Int}
    (apart : ∀ setting ∈ settingVariables environment, IsApart setting.1)
    (loaded : load file? environment source = .ok settings)
    (accepted : (Invocation.overridden maxOperations settings).configured moduleName = .ok n) :
    ∃ file, layerOfFile file? source = .ok (some file) ∧
      chosenLimit maxOperations environment file = .int n ∧
      ∃ limit, (Invocation.overridden maxOperations settings).limit = .ok limit ∧
        (limit.maxOperations : Int) = if 0 < n then n else Limit.defaultMaximum := by
  obtain ⟨file, layer, isFile, isLayer, layers⟩ := load_eq_ok loaded
  have holds := holds_layerOfEnvironment apart isLayer
  refine ⟨file, isFile, ?_, .ofInt n, ?_, Limit.maxOperations_ofInt n⟩
  · cases maxOperations with
    | some given =>
      obtain rfl := eq_of_configured_override accepted
      rfl
    | none =>
      rw [chosenLimit, Option.map_none, Option.none_or]
      cases value : valueOfVariables? limitPath (settingVariables environment) with
      | some value =>
        rw [value] at holds
        exact eq_of_variable holds layers accepted
      | none =>
        rw [value] at holds
        exact eq_of_file (isTidy_layerOfFile isFile) holds layers accepted
  · rw [limit, accepted]
    rfl

/-- A file with a list for its configuration, and a variable in lower case for a limit that is not
positive. -/
theorem chosenLimit_of_load_list :
    let file? : String → Option String :=
      fun _ => some "modules:\n  calculation:\n    config:\n      - 7\n"
    let environment := [("CALCULATION__LOGGING__LEVEL", "trace"),
      ("calculation__modules__calculation__config__max_operations_per_expression", "-9")]
    (∀ setting ∈ settingVariables environment, IsApart setting.1) ∧
    ∃ settings, load file? environment (some "settings.yaml") = .ok settings ∧
      (Invocation.overridden none settings).configured moduleName = .ok (-9) ∧
      ∃ file, layerOfFile file? (some "settings.yaml") = .ok (some file) ∧
        chosenLimit none environment file = .int (-9) ∧
        ∃ limit, (Invocation.overridden none settings).limit = .ok limit ∧
          (limit.maxOperations : Int) =
            if (0 : Int) < -9 then (-9 : Int) else Limit.defaultMaximum := by
  intro file? environment
  have apart : ∀ setting ∈ settingVariables environment, IsApart setting.1 := by decide +kernel
  have found : ((load file? environment (some "settings.yaml")).toOption.bind fun settings =>
      (settings.configured moduleName).toOption) = some (-9) := by
    decide +kernel
  obtain ⟨settings, isLoaded, isConfigured⟩ := Option.bind_eq_some_iff.1 found
  have loaded := toOption_eq_some_iff.1 isLoaded
  have accepted : (Invocation.overridden none settings).configured moduleName = .ok (-9) :=
    toOption_eq_some_iff.1 isConfigured
  exact ⟨apart, settings, loaded, accepted, chosenLimit_of_load apart loaded accepted⟩

end Stepwise.Settings
