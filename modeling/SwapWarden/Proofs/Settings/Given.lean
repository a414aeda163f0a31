import SwapWarden.Settings.Environment

/-!
# What an environment gives

The last variable of a setting's name tells the setting, whatever the order in
which the settings are put together, unless other variables name parts of it.
Such a part makes the setting a list or a group.  A setting that holds a text
is refused then, so where settings load, it was told by its own variable.
-/

namespace SwapWarden

namespace SettingPath

theorem name?_append {text rest : List Char} {name : String}
    (read : name? text = some (name, rest)) : text = name.toList ++ rest := by
  unfold name? at read
  dsimp only at read
  split at read
  · cases read
  · obtain ⟨rfl, rfl⟩ := Prod.mk.inj (Option.some.inj read)
    rw [String.toList_ofList]
    exact (List.takeWhile_append_dropWhile).symm

theorem eq_nil_of_stepsWithin {fuel : Nat} {text : List Char}
    (none : stepsWithin fuel text = some []) : text = [] := by
  cases text with
  | nil => rfl
  | cons char rest =>
      cases fuel with
      | zero => cases none
      | succ fuel =>
          obtain ⟨_, _, none⟩ := Option.bind_eq_some_iff.mp none
          obtain ⟨_, _, none⟩ := Option.bind_eq_some_iff.mp none
          cases none

theorem setting_ofName {name : String} (whole : (ofName name).steps = []) :
    (ofName name).setting = name := by
  unfold ofName at whole ⊢
  cases parsed : parse? name.toList with
  | none => rfl
  | some path =>
      rw [parsed] at whole
      obtain ⟨⟨setting, rest⟩, read, parsed⟩ := Option.bind_eq_some_iff.mp parsed
      obtain ⟨steps, taken, parsed⟩ := Option.bind_eq_some_iff.mp parsed
      obtain rfl := Option.some.inj parsed
      obtain rfl : steps = [] := whole
      obtain rfl := eq_nil_of_stepsWithin taken
      have same := name?_append read
      rw [List.append_nil] at same
      exact (String.toList_inj.mp same).symm

end SettingPath

theorem SettingValue.text?_withPart {part : SettingValue}
    {steps : List PathStep} (deeper : steps ≠ [])
    (value : Option SettingValue) : (part.withPart steps value).text? = none := by
  cases steps with
  | nil => exact absurd rfl deeper
  | cons step steps =>
      cases step with
      | element index => rfl
      | member name => rfl

namespace Environment

variable {environment : Environment} {setting name text : String}

/-- A variable goes by the name of a setting, in any case. -/
def Names (setting spelling : String) : Prop :=
  spelling.toList.map foldChar = settingHead ++ setting.toList

instance : DecidableRel Names :=
  fun _ _ => inferInstanceAs (Decidable (_ = _))

/-- The last variable of a setting's name holds a text. -/
def Gives (environment : Environment) (setting text : String) : Prop :=
  ∃ before spelling after, environment = before ++ (spelling, text) :: after ∧
    Names setting spelling ∧ ∀ entry ∈ after, ¬ Names setting entry.1

/-- Some variable names a part of a setting. -/
def GivesPart (environment : Environment) (setting : String) : Prop :=
  ∃ entry ∈ environment, ∃ name, Names name entry.1 ∧ name ≠ setting ∧
    (SettingPath.ofName name).setting = setting

/-! ## Names and values that are given -/

theorem given?_eq_some_iff {entry : String × String} {value : SettingValue} :
    given? entry = some (name, value) ↔
      Names name entry.1 ∧
        value = .ofText (name == listSetting) entry.2 := by
  unfold given? Names
  rw [Option.bind_eq_bind, Option.bind_eq_some_iff]
  constructor
  · rintro ⟨rest, found, given⟩
    obtain ⟨rfl, rfl⟩ := Prod.mk.inj (Option.some.inj given)
    rw [String.toList_ofList]
    exact ⟨Text.afterPrefix?_eq_some_iff.mp found, rfl⟩
  · rintro ⟨named, rfl⟩
    refine ⟨name.toList, Text.afterPrefix?_eq_some_iff.mpr named, ?_⟩
    simp only [String.ofList_toList]

/-- Of several variables of a setting the last one counts. -/
theorem get?_given (given : environment.Gives setting text) :
    (Table.ofList (environment.filterMap given?)).get? setting =
      some (.ofText (setting == listSetting) text) := by
  obtain ⟨before, spelling, after, rfl, named, last⟩ := given
  have here : given? (spelling, text) =
      some (setting, .ofText (setting == listSetting) text) :=
    given?_eq_some_iff.mpr ⟨named, rfl⟩
  have none : Table.getIn setting (after.filterMap given?).reverse = none := by
    cases found : Table.getIn setting (after.filterMap given?).reverse with
    | none => rfl
    | some value =>
        have member := List.mem_reverse.mp (Table.mem_of_getIn found)
        obtain ⟨entry, later, given⟩ := List.mem_filterMap.mp member
        exact absurd (given?_eq_some_iff.mp given).1 (last entry later)
  rw [Table.get?_ofList, List.filterMap_append, List.filterMap_cons, here]
  simp [Table.getIn_append, Table.getIn, none]

theorem exists_named {value : SettingValue}
    (member : (name, value) ∈
      (Table.ofList (environment.filterMap given?)).entries) :
    ∃ entry ∈ environment, Names name entry.1 := by
  have found := Table.getIn_of_mem (Table.nodup_ofList _) member
  change (Table.ofList _).get? name = some value at found
  rw [Table.get?_ofList] at found
  have given := List.mem_reverse.mp (Table.mem_of_getIn found)
  obtain ⟨entry, held, given⟩ := List.mem_filterMap.mp given
  exact ⟨entry, held, (given?_eq_some_iff.mp given).1⟩

/-! ## Settings put together -/

theorem get?_place (settings : Table String SettingValue)
    (entry : String × SettingValue) (setting : String) :
    (place settings entry).get? setting =
      if (SettingPath.ofName entry.1).setting = setting then
        some (entry.2.withPart (SettingPath.ofName entry.1).steps
          (settings.get? (SettingPath.ofName entry.1).setting))
      else settings.get? setting :=
  Table.get?_put _ _ _ _

/-- What was put under a setting stays, or a part was put into it. -/
theorem get?_foldl_place {entries : List (String × SettingValue)}
    {settings : Table String SettingValue} {value : SettingValue}
    (fresh : ∀ entry ∈ entries, entry.1 ≠ setting)
    (held : settings.get? setting = some value) :
    ∃ final, (entries.foldl place settings).get? setting = some final ∧
      (final = value ∨ final.text? = none ∧
        ∃ entry ∈ entries, (SettingPath.ofName entry.1).setting = setting) := by
  induction entries generalizing settings value with
  | nil => exact ⟨value, held, .inl rfl⟩
  | cons entry rest induction =>
      have others : ∀ other ∈ rest, other.1 ≠ setting :=
        fun other member => fresh other (List.mem_cons_of_mem _ member)
      have placed := get?_place settings entry setting
      by_cases part : (SettingPath.ofName entry.1).setting = setting
      · have deeper : (SettingPath.ofName entry.1).steps ≠ [] := by
          intro whole
          have same := (SettingPath.setting_ofName whole).symm.trans part
          exact fresh entry List.mem_cons_self same
        rw [if_pos part] at placed
        obtain ⟨final, found, same | ⟨compound, _⟩⟩ := induction others placed
        · refine ⟨final, found, .inr ⟨?_, entry, List.mem_cons_self, part⟩⟩
          rw [same]
          exact SettingValue.text?_withPart deeper _
        · exact ⟨final, found,
            .inr ⟨compound, entry, List.mem_cons_self, part⟩⟩
      · rw [if_neg part, held] at placed
        obtain ⟨final, found, same | ⟨compound, other, member, parted⟩⟩ :=
          induction others placed
        · exact ⟨final, found, .inl same⟩
        · exact ⟨final, found,
            .inr ⟨compound, other, List.mem_cons_of_mem _ member, parted⟩⟩

/-- A setting is what its own variable holds, or a part of it was given. -/
theorem get?_settings (given : environment.Gives setting text)
    (plain : SettingPath.ofName setting = { setting }) :
    ∃ value, environment.settings.get? setting = some value ∧
      (value = .ofText (setting == listSetting) text ∨
        value.text? = none ∧ environment.GivesPart setting) := by
  have distinct := Table.nodup_ofList (environment.filterMap given?)
  have member := Table.mem_of_getIn (get?_given given)
  obtain ⟨earlier, later, parts⟩ := List.append_of_mem member
  have fresh : ∀ entry ∈ later, entry.1 ≠ setting := by
    intro entry after same
    rw [parts, List.map_append, List.map_cons] at distinct
    have unseen := (List.nodup_cons.mp (List.nodup_append.mp distinct).2.1).1
    exact unseen (List.mem_map.mpr ⟨entry, after, same⟩)
  have placed := get?_place (earlier.foldl place Table.empty)
    (setting, .ofText (setting == listSetting) text) setting
  rw [plain, if_pos rfl] at placed
  have assembled : environment.settings =
      later.foldl place (place (earlier.foldl place Table.empty)
        (setting, .ofText (setting == listSetting) text)) := by
    rw [settings, parts, List.foldl_append, List.foldl_cons]
  rw [assembled]
  obtain ⟨final, found, same | ⟨compound, entry, after, part⟩⟩ :=
    get?_foldl_place fresh placed
  · exact ⟨final, found, .inl same⟩
  · have inside : entry ∈
        (Table.ofList (environment.filterMap given?)).entries := by
      rw [parts]
      exact List.mem_append_right _ (List.mem_cons_of_mem _ after)
    obtain ⟨named, held, names⟩ := exists_named inside
    exact ⟨final, found, .inr ⟨compound, named, held, entry.1, names,
      fresh entry after, part⟩⟩

end Environment

namespace AgentSettings

/-- The settings that hold a text, by their names. -/
def textSettings : List (String × (AgentSettings → String)) :=
  [("node_name", nodeName), ("namespace", ownNamespace),
    ("eviction_taint_key", taintKey), ("metrics_source", usageSource),
    ("host_proc_path", procRoot), ("cgroup_root", cgroupRoot),
    ("cri_socket", runtimeSocket)]

/-- The settings that hold a count, by their names. -/
def countSettings : List (String × (AgentSettings → UInt64)) :=
  [("average_window_size_seconds", windowSeconds),
    ("min_sample_interval_seconds", minIntervalSeconds),
    ("sample_interval_secs", samplingSeconds),
    ("eviction_resync_secs", evictionSeconds),
    ("swap_resync_secs", ceilingSeconds), ("swap_workers", workers),
    ("cache_sync_timeout_secs", syncSeconds)]

/-- The settings that hold a double, by their names. -/
def realSettings : List (String × (AgentSettings → Float)) :=
  [("max_average_swap_in_pages_per_second", maxSwapIn),
    ("max_average_swap_out_pages_per_second", maxSwapOut),
    ("swap_utilization_threshold_factor", swapFactor)]

/-- Every setting is read from what is given under its name. -/
structure IsRead (environment : Environment) (settings : AgentSettings) :
    Prop where
  text : ∀ entry ∈ textSettings,
    settingOr? environment.settings SettingValue.text? entry.1
      (entry.2 environment.defaults) = some (entry.2 settings)
  count : ∀ entry ∈ countSettings,
    settingOr? environment.settings SettingValue.count? entry.1
      (entry.2 environment.defaults) = some (entry.2 settings)
  real : ∀ entry ∈ realSettings,
    settingOr? environment.settings SettingValue.real? entry.1
      (entry.2 environment.defaults) = some (entry.2 settings)
  port : settingOr? environment.settings SettingValue.port? "api_port"
    environment.defaults.port = some settings.port
  prefixes : settingOr? environment.settings SettingValue.list?
    Environment.listSetting environment.defaults.excludedPrefixes =
      some settings.excludedPrefixes

variable {environment : Environment} {settings : AgentSettings}

theorem isRead_of_ofEnvironment?
    (read : ofEnvironment? environment = some settings) :
    IsRead environment settings := by
  unfold ofEnvironment? at read
  obtain ⟨_, readNode, read⟩ := Option.bind_eq_some_iff.mp read
  obtain ⟨_, readOwn, read⟩ := Option.bind_eq_some_iff.mp read
  obtain ⟨_, readPort, read⟩ := Option.bind_eq_some_iff.mp read
  obtain ⟨_, readSwapIn, read⟩ := Option.bind_eq_some_iff.mp read
  obtain ⟨_, readSwapOut, read⟩ := Option.bind_eq_some_iff.mp read
  obtain ⟨_, readFactor, read⟩ := Option.bind_eq_some_iff.mp read
  obtain ⟨_, readWindow, read⟩ := Option.bind_eq_some_iff.mp read
  obtain ⟨_, readInterval, read⟩ := Option.bind_eq_some_iff.mp read
  obtain ⟨_, readSampling, read⟩ := Option.bind_eq_some_iff.mp read
  obtain ⟨_, readEviction, read⟩ := Option.bind_eq_some_iff.mp read
  obtain ⟨_, readCeiling, read⟩ := Option.bind_eq_some_iff.mp read
  obtain ⟨_, readWorkers, read⟩ := Option.bind_eq_some_iff.mp read
  obtain ⟨_, readPrefixes, read⟩ := Option.bind_eq_some_iff.mp read
  obtain ⟨_, readKey, read⟩ := Option.bind_eq_some_iff.mp read
  obtain ⟨_, readSource, read⟩ := Option.bind_eq_some_iff.mp read
  obtain ⟨_, readProc, read⟩ := Option.bind_eq_some_iff.mp read
  obtain ⟨_, readCgroup, read⟩ := Option.bind_eq_some_iff.mp read
  obtain ⟨_, readSocket, read⟩ := Option.bind_eq_some_iff.mp read
  obtain ⟨_, readSync, read⟩ := Option.bind_eq_some_iff.mp read
  obtain rfl := Option.some.inj read
  constructor
  · simp only [textSettings, List.forall_mem_cons]
    exact ⟨readNode, readOwn, readKey, readSource, readProc, readCgroup,
      readSocket, List.forall_mem_nil _⟩
  · simp only [countSettings, List.forall_mem_cons]
    exact ⟨readWindow, readInterval, readSampling, readEviction, readCeiling,
      readWorkers, readSync, List.forall_mem_nil _⟩
  · simp only [realSettings, List.forall_mem_cons]
    exact ⟨readSwapIn, readSwapOut, readFactor, List.forall_mem_nil _⟩
  · exact readPort
  · exact readPrefixes

theorem isRead_of_load (loaded : load environment = .ok settings) :
    IsRead environment settings ∧ settings.validate = .ok () := by
  unfold load at loaded
  cases read : ofEnvironment? environment with
  | none =>
      rw [read] at loaded
      cases loaded
  | some found =>
      rw [read] at loaded
      cases accepted : found.validate with
      | error fault =>
          simp only [bind, Except.bind, accepted] at loaded
          cases loaded
      | ok _ =>
          simp only [bind, Except.bind, accepted] at loaded
          obtain rfl : found = settings := Except.ok.inj loaded
          exact ⟨isRead_of_ofEnvironment? read, accepted⟩

theorem exists_load (accepted : (load environment).toBool = true) :
    ∃ settings, load environment = .ok settings := by
  cases loaded : load environment with
  | ok settings => exact ⟨settings, rfl⟩
  | error fault =>
      rw [loaded] at accepted
      cases accepted

theorem text?_of_load (loaded : load environment = .ok settings)
    {entry : String × (AgentSettings → String)} {text : String}
    (member : entry ∈ textSettings)
    (given : environment.Gives entry.1 text) :
    (SettingValue.ofText false text).text? = some (entry.2 settings) := by
  have read := (isRead_of_load loaded).1.text entry member
  have plain : ∀ other ∈ textSettings.map Prod.fst,
      SettingPath.ofName other = { setting := other } ∧
        (other == Environment.listSetting) = false := by decide +kernel
  obtain ⟨path, unlisted⟩ := plain entry.1 (List.mem_map_of_mem member)
  obtain ⟨value, found, same | ⟨compound, _⟩⟩ :=
    Environment.get?_settings given path
  · rw [settingOr?, found, same, unlisted] at read
    exact read
  · rw [settingOr?, found] at read
    exact absurd (compound.symm.trans read) (by simp)

end AgentSettings

end SwapWarden
