import SwapWarden.Proofs.FileTree.Overwrite
import SwapWarden.Proofs.Settings.Given

/-!
# Excluded namespaces as they are listed

The list of excluded namespaces is given as one text with commas.  Its items
are the prefixes, empty ones among them, and every name starts with the empty
one.  So a list with a comma too many excludes every namespace: no pod is
evicted then and no container swaps.
-/

namespace SwapWarden

namespace Text

variable {cut : Char → Bool} {text piece : List Char}

/-- What stands between two cuts of a text, or between a cut and an end. -/
structure IsPiece (cut : Char → Bool) (text piece before after : List Char) :
    Prop where
  parts : text = before ++ (piece ++ after)
  uncut : ∀ char ∈ piece, cut char = false
  starts : ∀ char ∈ before.getLast?, cut char = true
  ends : ∀ char ∈ after.head?, cut char = true

theorem uncut_or_cut (cut : Char → Bool) (text : List Char) :
    (∀ char ∈ text, cut char = false) ∨
      ∃ front char rest, text = front ++ char :: rest ∧ cut char = true ∧
        ∀ other ∈ front, cut other = false := by
  induction text with
  | nil => exact .inl (by simp)
  | cons first text induction =>
      by_cases here : cut first = true
      · exact .inr ⟨[], first, text, rfl, here, by simp⟩
      · have uncut : cut first = false := by simpa using here
        rcases induction with none | ⟨front, char, rest, rfl, cuts, none⟩
        · exact .inl (List.forall_mem_cons.mpr ⟨uncut, none⟩)
        · exact .inr ⟨first :: front, char, rest, rfl, cuts,
            List.forall_mem_cons.mpr ⟨uncut, none⟩⟩

theorem IsPiece.mem_splitAt {before after : List Char}
    (isPiece : IsPiece cut text piece before after) :
    piece ∈ splitAt cut text := by
  have tail : piece ∈ splitAt cut (piece ++ after) := by
    cases after with
    | nil =>
        rw [List.append_nil, splitAt_uncut isPiece.uncut]
        exact List.mem_singleton_self piece
    | cons char rest =>
        rw [splitAt_cut (isPiece.ends char rfl), splitAt_uncut isPiece.uncut]
        exact List.mem_append_left _ (List.mem_singleton_self piece)
  rw [isPiece.parts]
  rcases List.eq_nil_or_concat before with rfl | ⟨front, char, rfl⟩
  · exact tail
  · have cuts : cut char = true := isPiece.starts char (by simp)
    rw [List.concat_eq_append, List.append_assoc, List.singleton_append,
      splitAt_cut cuts]
    exact List.mem_append_right _ tail

/-- Splitting gives what stands between cuts, and all of it. -/
theorem mem_splitAt_iff :
    piece ∈ splitAt cut text ↔
      ∃ before after, IsPiece cut text piece before after := by
  refine ⟨fun member => ?_, fun ⟨_, _, isPiece⟩ => isPiece.mem_splitAt⟩
  induction length : text.length using Nat.strongRecOn generalizing text with
  | ind size induction =>
      rcases uncut_or_cut cut text with uncut | ⟨front, char, rest, rfl, cuts,
        uncut⟩
      · rw [splitAt_uncut uncut] at member
        obtain rfl := List.mem_singleton.mp member
        exact ⟨[], [], by simp, uncut, by simp, by simp⟩
      · rw [splitAt_cut cuts, splitAt_uncut uncut] at member
        rcases List.mem_append.mp member with first | later
        · obtain rfl := List.mem_singleton.mp first
          exact ⟨[], char :: rest, rfl, uncut, by simp, by simpa using cuts⟩
        · have shorter : rest.length < size := by
            rw [← length, List.length_append, List.length_cons]
            omega
          obtain ⟨before, after, parts, whole, starts, ends⟩ :=
            induction rest.length shorter later rfl
          refine ⟨front ++ char :: before, after, by simp [parts], whole, ?_,
            ends⟩
          intro other last
          rcases List.eq_nil_or_concat before with rfl | ⟨_, _, rfl⟩
          · obtain rfl : char = other := by simpa using last
            exact cuts
          · exact starts other (by simpa [List.getLast?_cons] using last)

end Text

namespace SettingValue

variable {value item : String}

/-- An item of a text with commas. -/
def IsItem (value item : String) : Prop :=
  ∃ before after,
    Text.IsPiece (· == ',') value.toList item.toList before after

/-- A text that is empty, starts or ends with a comma, or doubles one. -/
def HasSpareComma (value : String) : Prop :=
  value = "" ∨ [','] <+: value.toList ∨ [','] <:+ value.toList ∨
    [',', ','] <:+: value.toList

theorem mem_itemsOf_iff : item ∈ itemsOf value ↔ IsItem value item := by
  unfold itemsOf IsItem
  rw [← Text.mem_splitAt_iff, List.mem_map]
  constructor
  · rintro ⟨piece, member, rfl⟩
    rwa [String.toList_ofList]
  · intro member
    exact ⟨item.toList, member, String.ofList_toList⟩

theorem isItem_empty_iff : IsItem value "" ↔ HasSpareComma value := by
  constructor
  · rintro ⟨before, after, parts, _, starts, ends⟩
    rw [String.toList_empty, List.nil_append] at parts
    rcases List.eq_nil_or_concat before with rfl | ⟨front, first, rfl⟩
    · cases after with
      | nil => exact .inl (String.toList_eq_nil_iff.mp parts)
      | cons last rest =>
          obtain rfl : last = ',' := by simpa using ends last rfl
          exact .inr (.inl ⟨rest, parts.symm⟩)
    · obtain rfl : first = ',' := by simpa using starts first (by simp)
      cases after with
      | nil => exact .inr (.inr (.inl ⟨front, by simp [parts]⟩))
      | cons last rest =>
          obtain rfl : last = ',' := by simpa using ends last rfl
          exact .inr (.inr (.inr ⟨front, rest, by simp [parts]⟩))
  · rintro (rfl | ⟨rest, parts⟩ | ⟨front, parts⟩ | ⟨front, rest, parts⟩)
    · exact ⟨[], [], rfl, by simp, by simp, by simp⟩
    · exact ⟨[], ',' :: rest, parts.symm, by simp, by simp, by simp⟩
    · exact ⟨front ++ [','], [], by simp [parts], by simp, by simp, by simp⟩
    · exact ⟨front ++ [','], ',' :: rest, by simp [← parts], by simp, by simp,
        by simp⟩

/-! ## Lists of texts -/

theorem getIn_zipIdx (texts : List String) (start place : Nat) :
    Table.getIn (start + place)
        ((texts.zipIdx start).map fun entry => (entry.2, text entry.1)) =
      texts[place]?.map text := by
  induction texts generalizing start place with
  | nil => rfl
  | cons first texts induction =>
      cases place with
      | zero => simp [Table.getIn]
      | succ place =>
          have different : start ≠ start + (place + 1) := by omega
          have next : start + (place + 1) = start + 1 + place := by omega
          rw [List.zipIdx_cons, List.map_cons, Table.getIn, if_neg different,
            next, induction]
          rfl

theorem mapM_range_getElem? (texts : List String) :
    (List.range texts.length).mapM (texts[·]?) = some texts := by
  induction texts with
  | nil => rfl
  | cons first texts induction =>
      rw [List.length_cons, List.range_succ_eq_map, List.mapM_cons,
        List.mapM_map]
      simp only [List.getElem?_cons_zero, Function.comp_def,
        List.getElem?_cons_succ, induction]
      rfl

theorem list?_ofTexts (texts : List String) :
    (ofTexts texts).list? = some texts := by
  have held (place : Nat) : (Table.get?
      ⟨texts.zipIdx.map fun entry => (entry.2, text entry.1)⟩ place).bind
        text? = texts[place]? := by
    have found := getIn_zipIdx texts 0 place
    rw [Nat.zero_add] at found
    rw [Table.get?, found]
    cases texts[place]? with
    | none => rfl
    | some _ => rfl
  have complete : ¬ (Table.size
      (⟨texts.zipIdx.map fun entry => (entry.2, text entry.1)⟩ :
        Table Nat SettingValue)) < texts.length := by
    simp [Table.size]
  unfold ofTexts list?
  simp only [if_neg complete, held]
  exact mapM_range_getElem? texts

/-- Only a text that spells neither a truth value nor a number is a list. -/
theorem list?_ofText {texts : List String}
    (read : (ofText true value).list? = some texts) :
    texts = itemsOf value := by
  unfold ofText at read
  cases word : flag? value with
  | some _ =>
      rw [word] at read
      cases read
  | none =>
      rw [word] at read
      cases number : Text.signed? 64 value.toList with
      | some _ =>
          rw [number] at read
          cases read
      | none =>
          rw [number] at read
          cases double : Text.float? value.toList with
          | some _ =>
              rw [double] at read
              cases read
          | none =>
              rw [double] at read
              exact Option.some.inj (read.symm.trans (list?_ofTexts _))

end SettingValue

theorem hasExcludedPrefix_iff {namespaceName : String}
    {prefixes : List String} :
    hasExcludedPrefix namespaceName prefixes = true ↔
      ∃ item ∈ prefixes, item.toList <+: namespaceName.toList := by
  unfold hasExcludedPrefix
  rw [List.any_eq_true]
  simp only [List.isPrefixOf_iff_prefix]

/-- An empty prefix is one of every name, and only an empty prefix is one of
the empty name. -/
theorem forall_hasExcludedPrefix_iff {prefixes : List String} :
    (∀ namespaceName, hasExcludedPrefix namespaceName prefixes = true) ↔
      "" ∈ prefixes := by
  constructor
  · intro excluded
    obtain ⟨item, member, start⟩ := hasExcludedPrefix_iff.mp (excluded "")
    have empty : item.toList = [] := by simpa using start
    rwa [← String.toList_eq_nil_iff.mp empty]
  · intro member namespaceName
    exact hasExcludedPrefix_iff.mpr ⟨"", member, List.nil_prefix⟩

namespace Environment

theorem Names.unique {first second spelling : String}
    (named : Names first spelling) (again : Names second spelling) :
    first = second := by
  unfold Names at named again
  exact String.toList_inj.mp
    (List.append_cancel_left (named.symm.trans again))

theorem not_givesPart_singleton {setting spelling text : String}
    (named : Names setting spelling) :
    ¬ GivesPart [(spelling, text)] setting := by
  rintro ⟨entry, member, name, names, different, _⟩
  obtain rfl := List.mem_singleton.mp member
  exact different (names.unique named)

end Environment

namespace AgentSettings

variable {environment : Environment} {settings : AgentSettings}
  {value : String}

/-- A list that was given without parts of it beside is what its items are. -/
theorem prefixes_of_load (loaded : load environment = .ok settings)
    (given : environment.Gives Environment.listSetting value)
    (whole : ¬ environment.GivesPart Environment.listSetting) :
    settings.excludedPrefixes = SettingValue.itemsOf value := by
  have read := (isRead_of_load loaded).1.prefixes
  have plain : SettingPath.ofName Environment.listSetting =
      { setting := Environment.listSetting } := by decide +kernel
  obtain ⟨found, held, same | ⟨_, part⟩⟩ :=
    Environment.get?_settings given plain
  · rw [settingOr?, held, same, beq_self_eq_true] at read
    exact SettingValue.list?_ofText read
  · exact absurd part whole

theorem candidates_of_excluded (settings : AgentSettings)
    (excluded : ∀ namespaceName,
      hasExcludedPrefix namespaceName settings.excludedPrefixes = true)
    (pods : List Pod) : settings.eviction.filter.candidates pods = [] := by
  unfold EvictionFilter.candidates
  rw [List.filter_eq_nil_iff]
  intro pod _
  simp [EvictionFilter.isCandidate, eviction, excluded]

theorem ceilingFor_of_excluded (settings : AgentSettings)
    (excluded : ∀ namespaceName,
      hasExcludedPrefix namespaceName settings.excludedPrefixes = true)
    (capacity : NodeCapacity) (pod : Pod) (container : Container) :
    capacity.ceilingFor container (pod.goesWithoutSwap
      (settings.ceilings capacity).excludedPrefixes) = 0 := by
  have without : pod.goesWithoutSwap
      (settings.ceilings capacity).excludedPrefixes = true := by
    simp [Pod.goesWithoutSwap, ceilings, excluded]
  simp [NodeCapacity.ceilingFor, without]

/-- A namespace is excluded exactly when it starts with an item of the list.
Where no comma is to spare these are the items that are not empty; where one
is, all namespaces are excluded, nothing is evicted and nothing swaps. -/
theorem excluded_iff_item (loaded : load environment = .ok settings)
    (given : environment.Gives Environment.listSetting value)
    (whole : ¬ environment.GivesPart Environment.listSetting) :
    (∀ namespaceName,
        hasExcludedPrefix namespaceName settings.excludedPrefixes = true ↔
          ∃ item, SettingValue.IsItem value item ∧
            item.toList <+: namespaceName.toList) ∧
      (¬ SettingValue.HasSpareComma value → ∀ namespaceName,
        hasExcludedPrefix namespaceName settings.excludedPrefixes = true ↔
          ∃ item, SettingValue.IsItem value item ∧ item ≠ "" ∧
            item.toList <+: namespaceName.toList) ∧
      (SettingValue.HasSpareComma value ↔ ∀ namespaceName,
        hasExcludedPrefix namespaceName settings.excludedPrefixes = true) ∧
      (SettingValue.HasSpareComma value →
        (∀ pods, settings.eviction.filter.candidates pods = []) ∧
        ∀ (capacity : NodeCapacity) (pod : Pod) (container : Container),
          capacity.ceilingFor container (pod.goesWithoutSwap
            (settings.ceilings capacity).excludedPrefixes) = 0) := by
  have items := prefixes_of_load loaded given whole
  have listed (namespaceName : String) :
      hasExcludedPrefix namespaceName settings.excludedPrefixes = true ↔
        ∃ item, SettingValue.IsItem value item ∧
          item.toList <+: namespaceName.toList := by
    simp only [hasExcludedPrefix_iff, items, SettingValue.mem_itemsOf_iff]
  have spare : SettingValue.HasSpareComma value ↔ ∀ namespaceName,
      hasExcludedPrefix namespaceName settings.excludedPrefixes = true := by
    rw [forall_hasExcludedPrefix_iff, items, SettingValue.mem_itemsOf_iff,
      SettingValue.isItem_empty_iff]
  refine ⟨listed, ?_, spare, ?_⟩
  · intro none namespaceName
    rw [listed]
    constructor
    · rintro ⟨item, isItem, start⟩
      refine ⟨item, isItem, ?_, start⟩
      rintro rfl
      exact none (SettingValue.isItem_empty_iff.mp isItem)
    · rintro ⟨item, isItem, _, start⟩
      exact ⟨item, isItem, start⟩
  · intro some
    have excluded := spare.mp some
    exact ⟨candidates_of_excluded settings excluded,
      ceilingFor_of_excluded settings excluded⟩

/-- Two prefixes, of which one starts a namespace and neither starts another.
-/
theorem excluded_iff_item_two :
    let environment : Environment :=
      [("SWAPGUARD_EXCLUDED_NAMESPACE_PREFIXES", "kube-,infra")]
    ∃ settings, load environment = .ok settings ∧
      environment.Gives Environment.listSetting "kube-,infra" ∧
      ¬ environment.GivesPart Environment.listSetting ∧
      hasExcludedPrefix "infra-dns" settings.excludedPrefixes = true ∧
      hasExcludedPrefix "kube" settings.excludedPrefixes = false := by
  intro environment
  obtain ⟨settings, loaded⟩ : ∃ settings, load environment = .ok settings :=
    exists_load (by decide +kernel)
  have given : environment.Gives Environment.listSetting "kube-,infra" :=
    ⟨[], _, _, rfl, by decide, by decide⟩
  have whole : ¬ environment.GivesPart Environment.listSetting :=
    Environment.not_givesPart_singleton (by decide)
  obtain ⟨listed, _⟩ := excluded_iff_item loaded given whole
  refine ⟨settings, loaded, given, whole, ?_, ?_⟩
  · refine (listed "infra-dns").mpr ⟨"infra", ?_, by decide⟩
    exact SettingValue.mem_itemsOf_iff.mp (by decide)
  · rw [← Bool.not_eq_true, listed]
    rintro ⟨item, isItem, start⟩
    have none : ∀ item ∈ SettingValue.itemsOf "kube-,infra",
        ¬ item.toList <+: "kube".toList := by decide
    exact none item (SettingValue.mem_itemsOf_iff.mpr isItem) start

/-- A comma at the end excludes a namespace that starts with no item but the
empty one. -/
theorem excluded_by_spare_comma :
    let environment : Environment :=
      [("SWAPGUARD_EXCLUDED_NAMESPACE_PREFIXES", "kube-system,")]
    ∃ settings, load environment = .ok settings ∧
      environment.Gives Environment.listSetting "kube-system," ∧
      hasExcludedPrefix "default" settings.excludedPrefixes = true ∧
      ¬ ∃ item, SettingValue.IsItem "kube-system," item ∧ item ≠ "" ∧
        item.toList <+: "default".toList := by
  intro environment
  obtain ⟨settings, loaded⟩ : ∃ settings, load environment = .ok settings :=
    exists_load (by decide +kernel)
  have given : environment.Gives Environment.listSetting "kube-system," :=
    ⟨[], _, _, rfl, by decide, by decide⟩
  have items := prefixes_of_load loaded given
    (Environment.not_givesPart_singleton (by decide))
  refine ⟨settings, loaded, given, ?_, ?_⟩
  · rw [items]
    decide
  · rintro ⟨item, isItem, filled, start⟩
    have none : ∀ item ∈ SettingValue.itemsOf "kube-system,",
        item = "" ∨ ¬ item.toList <+: "default".toList := by decide
    rcases none item (SettingValue.mem_itemsOf_iff.mpr isItem) with empty | foreign
    · exact filled empty
    · exact foreign start

end AgentSettings

end SwapWarden
