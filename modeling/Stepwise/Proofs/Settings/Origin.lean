import Stepwise.Proofs.Settings.Layer
import Stepwise.Settings.Load

/-!
# What one source says about the limit

The layer of the environment has a value for the limit exactly if a variable sets it, and no other
variable gets in its way, as long as none is set on the way to the limit or below it
(`Settings.holds_layerOfEnvironment`). The layer of a file can be merged, because a mapping keeps
one member for each key (`Settings.File.isTidy_read`).
-/

namespace Stepwise.Settings

open Json (lookup? HasDistinctKeys)

/-! ### One variable -/

section

variable {set path : List String}

@[simp] theorem lookup?_singleton (key : String) (value : Json) (other : String) :
    lookup? [(key, value)] other = if key = other then some value else none := rfl

/-- A single value stands in the way of no path but those through it. -/
theorem isOpen_atPath (value : Json) (apart : set <+: path → set = path) :
    (atPath value set).IsOpen path := by
  induction path generalizing set with
  | nil => trivial
  | cons key path ih =>
    cases set with
    | nil => cases apart List.nil_prefix
    | cons k set =>
      refine ⟨List.pairwise_singleton _ _, fun inner found => ?_⟩
      rw [lookup?_singleton, Option.ite_none_right_eq_some] at found
      obtain ⟨rfl, eq⟩ := found
      obtain rfl := Option.some.inj eq
      exact ih fun before => List.tail_eq_of_cons_eq (apart (List.cons_prefix_cons.2 ⟨rfl, before⟩))

theorem at?_atPath_append (value : Json) (path more : List String) :
    (atPath value (path ++ more)).at? path = some (atPath value more) := by
  induction path with
  | nil => rfl
  | cons key path ih =>
    simpa [atPath] using ih

theorem at?_atPath_of_apart (value : Json) (notBefore : ¬set <+: path) (notAfter : ¬path <+: set) :
    (atPath value set).at? path = none := by
  induction path generalizing set with
  | nil => exact absurd List.nil_prefix notAfter
  | cons key path ih =>
    cases set with
    | nil => exact absurd List.nil_prefix notBefore
    | cons k set =>
      rw [atPath, Json.at?_object, lookup?_singleton]
      by_cases here : k = key
      · subst here
        rw [if_pos rfl]
        refine ih (fun before => notBefore ?_) (fun after => notAfter ?_)
        · exact List.cons_prefix_cons.2 ⟨rfl, before⟩
        · exact List.cons_prefix_cons.2 ⟨rfl, after⟩
      · rw [if_neg here]
        rfl

end

/-! ### All variables -/

/-- A configuration that is there has a member. -/
def IsFilled (layer : Json) : Prop :=
  ∀ config, layer.at? configPath = some config → ∃ key, (config.member? key).isSome

/-- What variables come to, when the last one that sets the limit sets it to `value`. An integer
that is found is the one that was set; anything else may have been merged with earlier values. -/
structure Holds (layer : Json) (value : Option Json) : Prop where
  opens : layer.IsOpen limitPath
  filled : IsFilled layer
  absent : value = none → layer.at? limitPath = none
  present : ∀ last, value = some last →
    ∃ found, layer.at? limitPath = some found ∧ ∀ n, found = .int n → last = .int n

theorem holds_empty : Holds (.object []) none where
  opens := ⟨List.Pairwise.nil, nofun⟩
  filled := nofun
  absent _ := rfl
  present := nofun

/-- What lies over something keeps its members. -/
theorem isSome_member?_laidOver (under : Option Json) {members : List (String × Json)}
    {key : String} (distinct : HasDistinctKeys members) (found : (lookup? members key).isSome) :
    ((laidOver under (.object members)).member? key).isSome := by
  cases under with
  | none => exact found
  | some under =>
    obtain ⟨value, eq⟩ := Option.isSome_iff_exists.1 found
    rw [laidOver, member?_merge under distinct, eq]
    rfl

/-- A variable that sets something in the configuration leaves it with a member, and no variable
sets the configuration itself. -/
theorem IsFilled.merge {base : Json} (filled : IsFilled base) {set : List String}
    (apart : IsApart set) (value : Json) : IsFilled (merge base (atPath value set)) := by
  intro config found
  have opens : (atPath value set).IsOpen configPath :=
    (isOpen_atPath value fun before => apart (.inl before)).of_append
  by_cases within : configPath <+: set
  · obtain ⟨more, rfl⟩ := within
    cases more with
    | nil =>
      have before : configPath ++ [] <+: limitPath := by
        rw [List.append_nil]
        exact List.prefix_append _ _
      cases apart (.inl before)
    | cons key more =>
      rw [at?_merge_of_found opens.isTidy (at?_atPath_append value configPath _)] at found
      obtain rfl := Option.some.inj found
      refine ⟨key, isSome_member?_laidOver _ (List.pairwise_singleton _ _) ?_⟩
      simp
  · have notBefore : ¬set <+: configPath := by
      intro before
      have onTheWay : set <+: limitPath := before.trans (List.prefix_append _ _)
      rw [apart (.inl onTheWay)] at within
      exact within (List.prefix_append _ _)
    rw [at?_merge_of_open opens (at?_atPath_of_apart value notBefore within)] at found
    exact filled config found

/-- One more variable. -/
theorem Holds.merge {base : Json} {last : Option Json} (holds : Holds base last)
    {set : List String} (apart : IsApart set) (value : Json) :
    Holds (merge base (atPath value set))
      ((if set = limitPath then some value else none).or last) := by
  have opens : (atPath value set).IsOpen limitPath :=
    isOpen_atPath value fun before => apart (.inl before)
  have opensBoth := isOpen_merge holds.opens opens
  have filled := holds.filled.merge apart value
  by_cases here : set = limitPath
  · subst here
    have itself : (atPath value (limitPath ++ [])).at? limitPath = some value :=
      at?_atPath_append value limitPath []
    rw [List.append_nil] at itself
    rw [if_pos rfl]
    refine ⟨opensBoth, filled, nofun, fun last eq => ?_⟩
    obtain rfl := Option.some.inj eq
    exact ⟨_, at?_merge_of_found opens.isTidy itself, fun n => eq_int_of_laidOver⟩
  · have absent : (atPath value set).at? limitPath = none :=
      at?_atPath_of_apart value (fun before => here (apart (.inl before)))
        fun after => here (apart (.inr after))
    rw [if_neg here, Option.none_or]
    refine ⟨opensBoth, filled, ?_, ?_⟩
    · rw [at?_merge_of_open opens absent]
      exact holds.absent
    · rw [at?_merge_of_open opens absent]
      exact holds.present

theorem holds_foldl {settings : List (List String × String)} {layers : List Json}
    (apart : ∀ setting ∈ settings, IsApart setting.1)
    (read : settings.mapM layerOfVariable = some layers) {base : Json} {last : Option Json}
    (holds : Holds base last) :
    Holds (layers.foldl merge base) ((valueOfVariables? limitPath settings).or last) := by
  induction settings generalizing layers base last with
  | nil =>
    cases read
    exact holds
  | cons first rest ih =>
    obtain ⟨set, text⟩ := first
    rw [List.mapM_cons] at read
    obtain ⟨layer, isLayer, read⟩ := Option.bind_eq_some_iff.1 read
    obtain ⟨later, isLater, eq⟩ := Option.bind_eq_some_iff.1 read
    obtain rfl := Option.some.inj eq
    obtain ⟨value, isValue, rfl⟩ := Option.map_eq_some_iff.1 isLayer
    obtain ⟨apartFirst, apartRest⟩ := List.forall_mem_cons.1 apart
    rw [valueOfVariables?, isValue, Option.or_assoc]
    exact ih apartRest isLater (holds.merge apartFirst value)

/-- The layer of the environment says about the limit what the last variable for it says. -/
theorem holds_layerOfEnvironment {environment : List (String × String)} {layer : Json}
    (apart : ∀ setting ∈ settingVariables environment, IsApart setting.1)
    (read : layerOfEnvironment environment = some layer) :
    Holds layer (valueOfVariables? limitPath (settingVariables environment)) := by
  unfold layerOfEnvironment at read
  split at read
  next layers isLayers =>
    cases read
    have holds := holds_foldl apart isLayers holds_empty
    rwa [Option.or_none] at holds
  next => cases read

/-! ### A file -/

namespace File

open Yaml (Node)

theorem isTidy_of_members? {document : Json} (noObject : document.members? = none)
    (path : List String) : document.IsTidy path := by
  cases path with
  | nil => trivial
  | cons key path =>
    cases document with
    | object members => cases noObject
    | _ => trivial

/-- Putting members into ascending order leaves one member for each key. -/
theorem isTidy_ascending {members : List (String × Json)}
    (inside : ∀ member ∈ members, ∀ path, member.2.IsTidy path) (path : List String) :
    (Json.object (Json.ascending members)).IsTidy path := by
  cases path with
  | nil => trivial
  | cons key path =>
    refine ⟨(Json.isAscending_ascending members).hasDistinctKeys, fun inner found => ?_⟩
    rw [Json.lookup?_ascending] at found
    exact inside _ (Json.mem_of_lookup? found) path

theorem isTidy_noMembers (path : List String) : (Json.object []).IsTidy path := by
  cases path with
  | nil => trivial
  | cons key path => exact ⟨List.Pairwise.nil, nofun⟩

theorem members?_scalarValue (text : String) : (Yaml.Scalar.value text).members? = none := by
  unfold Yaml.Scalar.value
  repeat' split
  all_goals rfl

theorem isTidy_memberValue? {key : String} {node : Node} {value found : Json}
    (tidy : ∀ path, value.IsTidy path) (h : memberValue? key node value = some found)
    (path : List String) : found.IsTidy path := by
  unfold memberValue? at h
  split at h
  · rw [Option.ite_none_right_eq_some] at h
    cases h.2
    exact tidy path
  · split at h
    · split at h
      next => cases h; exact isTidy_noMembers path
      next => cases h; exact tidy path
      next => cases h
    · cases h
      exact tidy path

theorem isTidy_opened {members : List (String × Json)}
    (inside : ∀ member ∈ members, ∀ path, member.2.IsTidy path) (path : List String) :
    (opened members).IsTidy path := by
  unfold opened
  split
  next content found => exact inside _ (Json.mem_of_lookup? found) path
  next => exact isTidy_ascending (fun member mem => inside member (List.mem_filter.1 mem).1) path

mutual

theorem isTidy_value? :
    ∀ (node : Node) (value : Json), value? node = some value → ∀ path, value.IsTidy path
  | .missing, _, h, path => by
    cases h
    exact isTidy_of_members? rfl path
  | .scalar text plain, _, h, path => by
    cases h
    refine isTidy_of_members? ?_ path
    cases plain with
    | true => exact members?_scalarValue text
    | false => rfl
  | .list items, _, h, path => by
    obtain ⟨values, -, rfl⟩ := Option.map_eq_some_iff.1 h
    exact isTidy_of_members? rfl path
  | .mapping members, _, h, path => by
    obtain ⟨values, read, rfl⟩ := Option.map_eq_some_iff.1 h
    exact isTidy_opened (isTidy_memberValues? members values read) path

theorem isTidy_memberValues? :
    ∀ (members : List (String × Node)) (values : List (String × Json)),
      memberValues? members = some values → ∀ member ∈ values, ∀ path, member.2.IsTidy path
  | [], _, h => by
    cases h
    exact List.forall_mem_nil _
  | (key, node) :: rest, _, h => by
    unfold memberValues? at h
    split at h
    next value values isValue isRest =>
      cases h
      obtain ⟨own, isOwn, isMember⟩ := Option.bind_eq_some_iff.1 isValue
      exact List.forall_mem_cons.2
        ⟨isTidy_memberValue? (isTidy_value? node own isOwn) isMember,
          isTidy_memberValues? rest values isRest⟩
    next => cases h

end

theorem isTidy_topValues? {members : List (String × Node)} {values : List (String × Json)}
    (h : topValues? members = some values) : ∀ member ∈ values, ∀ path, member.2.IsTidy path := by
  induction members generalizing values with
  | nil =>
    cases h
    exact List.forall_mem_nil _
  | cons member rest ih =>
    rw [topValues?, List.mapM_cons] at h
    obtain ⟨first, isFirst, more⟩ := Option.bind_eq_some_iff.1 h
    obtain ⟨later, isLater, eq⟩ := Option.bind_eq_some_iff.1 more
    obtain rfl := Option.some.inj eq
    obtain ⟨value, isValue, rfl⟩ := Option.map_eq_some_iff.1 isFirst
    exact List.forall_mem_cons.2 ⟨isTidy_value? member.2 value isValue, ih isLater⟩

/-- The document of a file can be merged along any path. -/
theorem isTidy_read {text : String} {file : Json} (h : read text = some file)
    (path : List String) : file.IsTidy path := by
  obtain ⟨values, found, rfl⟩ := Option.map_eq_some_iff.1 h
  obtain ⟨members, -, isTop⟩ := Option.bind_eq_some_iff.1 found
  exact isTidy_ascending (isTidy_topValues? isTop) path

end File

/-- Without a file there is an empty document. -/
theorem isTidy_layerOfFile {file? : String → Option String} {source : Option String} {file : Json}
    (h : layerOfFile file? source = .ok (some file)) (path : List String) : file.IsTidy path := by
  cases source with
  | none =>
    cases h
    exact File.isTidy_noMembers path
  | some source =>
    unfold layerOfFile at h
    dsimp only at h
    split at h
    next text _ => exact File.isTidy_read (Except.ok.inj h) path
    next => cases h

end Stepwise.Settings
