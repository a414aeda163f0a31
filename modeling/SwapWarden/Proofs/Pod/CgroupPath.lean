import SwapWarden.Pod.CgroupPath

/-!
# Cgroup paths tell pods and containers apart

A path is a head that tells the class or the runtime, and the uid or id.  No
head is the start of another one, a uid without `_` can be read back, and an id
without `/` stands in the last name of its path.  So different pods and
containers have different paths, and the endings keep pods from containers.
-/

namespace SwapWarden

namespace Text

variable {before after name other first second rest more : List Char}

/-- Heads are told from what follows if none is the start of another one. -/
theorem append_inj_of_free (free : first <+: second → first = second)
    (freeToo : second <+: first → first = second)
    (same : first ++ rest = second ++ more) :
    first = second ∧ rest = more := by
  have begins : first <+: second ++ more := same ▸ List.prefix_append _ _
  have heads : first = second := by
    rcases List.prefix_or_prefix_of_prefix begins
      (List.prefix_append second more) with start | start
    · exact free start
    · exact freeToo start
  rw [heads] at same
  exact ⟨heads, List.append_cancel_left same⟩

/-- The last name of a path is told from what is before it. -/
theorem append_slash_inj (plain : '/' ∉ name) (plainToo : '/' ∉ other)
    (same : before ++ '/' :: name = after ++ '/' :: other) :
    before = after ∧ name = other := by
  rcases List.append_eq_append_iff.mp same with
    ⟨middle, rfl, tail⟩ | ⟨middle, rfl, tail⟩
  · cases middle with
    | nil => exact ⟨(List.append_nil before).symm, (List.cons.inj tail).2⟩
    | cons _ middle =>
        obtain rfl := (List.cons.inj tail).2
        exact absurd (List.mem_append_right middle List.mem_cons_self) plain
  · cases middle with
    | nil => exact ⟨List.append_nil after, (List.cons.inj tail).2.symm⟩
    | cons _ middle =>
        obtain rfl := (List.cons.inj tail).2
        exact absurd (List.mem_append_right middle List.mem_cons_self) plainToo

end Text

/-! ## Pods -/

/-- A uid is read back from slice names if it has no `_` of its own. -/
theorem escapedUid_inj {first second : String} (plain : '_' ∉ first.toList)
    (plainToo : '_' ∉ second.toList)
    (same : escapedUid first = escapedUid second) : first = second := by
  have restored {uid : String} (plain : '_' ∉ uid.toList) :
      (escapedUid uid).toList.map
        (fun char => if char = '_' then '-' else char) = uid.toList := by
    unfold escapedUid
    rw [String.toList_ofList, List.map_map]
    refine (List.map_congr_left ?_).trans (List.map_id _)
    intro char member
    have different : char ≠ '_' := by
      rintro rfl
      exact plain member
    by_cases level : char = '-'
    · simp [level]
    · simp [level, different]
  rw [← String.toList_inj, ← restored plain, same, restored plainToo]

namespace QosClass

/-- The path of a slice up to where the uid starts. -/
def podHead (qos : QosClass) : List Char := qos.sliceHead.toList ++ "pod".toList

theorem podHead_free {first second : QosClass}
    (start : first.podHead <+: second.podHead) : first = second := by
  revert start
  cases first
  all_goals cases second
  all_goals simp [podHead, sliceHead]

end QosClass

theorem toList_slicePath (uid : String) (qos : QosClass) :
    (slicePath uid qos).toList =
      qos.podHead ++ ((escapedUid uid).toList ++ ".slice".toList) := by
  simp [slicePath, QosClass.podHead, String.toList_append]

theorem slicePath_inj {uid other : String} {qos known : QosClass}
    (plain : '_' ∉ uid.toList) (plainToo : '_' ∉ other.toList)
    (same : slicePath uid qos = slicePath other known) :
    uid = other ∧ qos = known := by
  rw [← String.toList_inj, toList_slicePath, toList_slicePath] at same
  obtain ⟨heads, rest⟩ := Text.append_inj_of_free
    (fun start => by rw [QosClass.podHead_free start])
    (fun start => by rw [QosClass.podHead_free start]) same
  have uids := List.append_cancel_right rest
  constructor
  · exact escapedUid_inj plain plainToo (String.toList_inj.mp uids)
  · exact QosClass.podHead_free (heads ▸ List.prefix_refl _)

/-! ## Containers -/

namespace ContainerId

/-- An id as runtimes write it.  Quotes at its ends do not count, and the first
`://` stands between the scheme and the id proper, which is not empty. -/
structure IsWritten (container : ContainerId) (raw : String) : Prop where
  parts : Text.trimEnds (· == '"') raw.toList =
    container.scheme.toList ++ "://".toList ++ container.id.toList
  first : ∀ front back : List Char, Text.trimEnds (· == '"') raw.toList =
      front ++ "://".toList ++ back →
    container.scheme.toList.length ≤ front.length
  named : container.id ≠ ""

theorem parse?_eq_some_iff {container : ContainerId} {raw : String} :
    parse? raw = some container ↔ container.IsWritten raw := by
  have cuts (scheme id : List Char) :=
    @Text.splitOnce?_eq_some_iff "://".toList
      (Text.trimEnds (· == '"') raw.toList) scheme id
  unfold parse?
  constructor
  · intro read
    split at read
    next scheme id cut =>
      split at read
      next => cases read
      next filled =>
        cases read
        obtain ⟨parts, first⟩ := (cuts scheme id).mp cut
        have held (text : List Char) : (String.ofList text).toList = text :=
          String.toList_ofList
        constructor
        · rwa [held scheme, held id]
        · rwa [held scheme]
        · intro empty
          rw [← String.toList_inj, held id] at empty
          exact filled (List.isEmpty_iff.mpr empty)
    next => cases read
  · rintro ⟨parts, first, named⟩
    have filled : ¬ container.id.toList.isEmpty = true := by
      intro empty
      exact named (String.toList_inj.mp (List.isEmpty_iff.mp empty))
    rw [(cuts _ _).mpr ⟨parts, first⟩]
    dsimp only
    rw [if_neg filled, String.ofList_toList, String.ofList_toList]

/-- The head of a scope name, up to where the id starts. -/
def scopeStart (head : String) : List Char := head.toList ++ ['-']

/-- The runtimes whose scopes are known. -/
def scopeHeads : List (String × String) :=
  [("cri-o", "crio"), ("containerd", "cri-containerd"), ("docker", "docker")]

theorem mem_scopeHeads_iff {scheme head : String} :
    (scheme, head) ∈ scopeHeads ↔ scopeHead? scheme = some head := by
  constructor
  · intro known
    simp only [scopeHeads, List.mem_cons, Prod.mk.injEq, List.not_mem_nil,
      or_false] at known
    rcases known with ⟨rfl, rfl⟩ | ⟨rfl, rfl⟩ | ⟨rfl, rfl⟩
    · rfl
    · rfl
    · rfl
  · intro known
    unfold scopeHead? at known
    split at known
    all_goals cases known
    all_goals decide

theorem scopeStart_free {scheme other head start : String}
    (known : scopeHead? scheme = some head)
    (knownToo : scopeHead? other = some start)
    (begins : scopeStart head <+: scopeStart start) :
    scheme = other ∧ head = start := by
  have free : ∀ runtime ∈ scopeHeads, ∀ other ∈ scopeHeads,
      scopeStart runtime.2 <+: scopeStart other.2 → runtime = other := by
    decide +kernel
  have same := free _ (mem_scopeHeads_iff.mpr known) _
    (mem_scopeHeads_iff.mpr knownToo) begins
  exact ⟨congrArg Prod.fst same, congrArg Prod.snd same⟩

/-- The name of a scope, the last one of its path. -/
def scopeName (head id : String) : List Char :=
  scopeStart head ++ (id.toList ++ ".scope".toList)

theorem slash_not_mem_scopeName {scheme head id : String}
    (known : scopeHead? scheme = some head) (plain : '/' ∉ id.toList) :
    '/' ∉ scopeName head id := by
  have heads : ∀ runtime ∈ scopeHeads, '/' ∉ scopeStart runtime.2 := by
    decide +kernel
  have ending : '/' ∉ ".scope".toList := by decide
  have start := heads (scheme, head) (mem_scopeHeads_iff.mpr known)
  simp only [scopeName, List.mem_append, not_or]
  exact ⟨start, plain, ending⟩

theorem scopeName_inj {scheme other head start id raw : String}
    (known : scopeHead? scheme = some head)
    (knownToo : scopeHead? other = some start)
    (same : scopeName head id = scopeName start raw) :
    scheme = other ∧ id = raw := by
  obtain ⟨heads, rest⟩ := Text.append_inj_of_free
    (fun begins => by rw [(scopeStart_free known knownToo begins).2])
    (fun begins => by rw [(scopeStart_free knownToo known begins).2]) same
  have ids := List.append_cancel_right rest
  constructor
  · exact (scopeStart_free known knownToo (heads ▸ List.prefix_refl _)).1
  · exact String.toList_inj.mp ids

end ContainerId

open ContainerId

variable {podPath raw path : String}

theorem exists_scopeName
    (located : containerCgroupPath podPath raw = .ok path) :
    ∃ id head, parse? raw = some id ∧ scopeHead? id.scheme = some head ∧
      path.toList = podPath.toList ++ '/' :: scopeName head id.id := by
  unfold containerCgroupPath at located
  cases read : parse? raw with
  | none =>
      rw [read] at located
      cases located
  | some id =>
      cases known : scopeHead? id.scheme with
      | none =>
          simp only [read, known] at located
          cases located
      | some head =>
          simp only [read, known] at located
          obtain rfl := Except.ok.inj located
          refine ⟨id, head, rfl, known, ?_⟩
          simp [scopeName, scopeStart, String.toList_append]

theorem containerCgroupPath_inj {otherPath otherRaw : String}
    {id other : ContainerId} (read : parse? raw = some id)
    (readToo : parse? otherRaw = some other) (plain : '/' ∉ id.id.toList)
    (plainToo : '/' ∉ other.id.toList)
    (located : containerCgroupPath podPath raw = .ok path)
    (locatedToo : containerCgroupPath otherPath otherRaw = .ok path) :
    podPath = otherPath ∧ id = other := by
  obtain ⟨_, head, same, known, ends⟩ := exists_scopeName located
  obtain rfl := Option.some.inj (read.symm.trans same)
  obtain ⟨_, start, same, knownToo, endsToo⟩ := exists_scopeName locatedToo
  obtain rfl := Option.some.inj (readToo.symm.trans same)
  obtain ⟨paths, names⟩ := Text.append_slash_inj
    (slash_not_mem_scopeName known plain)
    (slash_not_mem_scopeName knownToo plainToo) (ends.symm.trans endsToo)
  obtain ⟨schemes, ids⟩ := scopeName_inj known knownToo names
  constructor
  · exact String.toList_inj.mp paths
  · cases id
    cases other
    obtain rfl := schemes
    obtain rfl := ids
    rfl

theorem containerCgroupPath_ne_slicePath
    (located : containerCgroupPath podPath raw = .ok path) (uid : String)
    (qos : QosClass) : path ≠ slicePath uid qos := by
  rintro rfl
  obtain ⟨id, head, _, _, ends⟩ := exists_scopeName located
  rw [toList_slicePath, scopeName] at ends
  simp only [← List.append_assoc, ← List.cons_append] at ends
  have length : ".slice".toList.length = ".scope".toList.length := by decide
  have endings := List.append_inj_right' ends length
  exact absurd endings (by decide)

namespace Pod

/-- The pod has a uid, without a `_`. -/
def HasPlainUid (pod : Pod) (uid : String) : Prop :=
  pod.metadata.uid = some uid ∧ uid ≠ "" ∧ '_' ∉ uid.toList

theorem cgroupPath_of_hasPlainUid {pod : Pod} {uid : String}
    (named : pod.HasPlainUid uid) :
    pod.cgroupPath = .ok (slicePath uid pod.qosClass) := by
  obtain ⟨identified, filled, _⟩ := named
  have nonempty : uid.isEmpty = false := by simpa using filled
  unfold cgroupPath
  rw [identified]
  simp [nonempty]

/-- Pods with uids have paths, and what shares a path is the same: pods of one
uid and class, containers of one pod path, runtime and id.  No path is of a pod
and of a container. -/
theorem cgroupPath_apart {first second : Pod} {firstUid secondUid : String}
    (named : first.HasPlainUid firstUid)
    (namedToo : second.HasPlainUid secondUid) :
    ∃ firstPath secondPath, first.cgroupPath = .ok firstPath ∧
      second.cgroupPath = .ok secondPath ∧
      (firstPath = secondPath →
        firstUid = secondUid ∧ first.qosClass = second.qosClass) ∧
      (∀ raw otherRaw id other path, parse? raw = some id →
        parse? otherRaw = some other → '/' ∉ id.id.toList →
        '/' ∉ other.id.toList →
        containerCgroupPath firstPath raw = .ok path →
        containerCgroupPath secondPath otherRaw = .ok path →
          firstPath = secondPath ∧ id = other) ∧
      ∀ raw path, containerCgroupPath firstPath raw = .ok path →
        path ≠ secondPath := by
  refine ⟨_, _, cgroupPath_of_hasPlainUid named,
    cgroupPath_of_hasPlainUid namedToo, ?_, ?_, ?_⟩
  · exact slicePath_inj named.2.2 namedToo.2.2
  · intro raw otherRaw id other path read readToo plain plainToo
    exact containerCgroupPath_inj read readToo plain plainToo
  · intro raw path located
    exact containerCgroupPath_ne_slicePath located _ _

/-- Two pods of one path, and one container id with and without quotes. -/
theorem cgroupPath_apart_quoted :
    ∃ (web copy : Pod) (id other : ContainerId) (path scope : String),
      web.HasPlainUid "1234-abcd" ∧ copy.HasPlainUid "1234-abcd" ∧
        web.cgroupPath = .ok path ∧ copy.cgroupPath = .ok path ∧
        web.qosClass = copy.qosClass ∧
        parse? "cri-o://f0" = some id ∧
        parse? "\"cri-o://f0\"" = some other ∧
        '/' ∉ id.id.toList ∧ '/' ∉ other.id.toList ∧
        containerCgroupPath path "cri-o://f0" = .ok scope ∧
        containerCgroupPath path "\"cri-o://f0\"" = .ok scope ∧
        id = other ∧ scope ≠ path := by
  let web : Pod :=
    { metadata := { uid := some "1234-abcd" }
      status := some { qosClass := some "Burstable" } }
  let copy : Pod := { web with spec := some {} }
  let id : ContainerId := ⟨"cri-o", "f0"⟩
  let slice := slicePath "1234-abcd" .burstable
  let scope := slice ++ "/crio-f0.scope"
  have named : web.HasPlainUid "1234-abcd" := ⟨rfl, by decide, by decide⟩
  have namedToo : copy.HasPlainUid "1234-abcd" := ⟨rfl, by decide, by decide⟩
  have located : web.cgroupPath = .ok slice := rfl
  have locatedToo : copy.cgroupPath = .ok slice := rfl
  have read : parse? "cri-o://f0" = some id := by decide +kernel
  have readToo : parse? "\"cri-o://f0\"" = some id := by decide +kernel
  have plain : '/' ∉ id.id.toList := by decide
  have found : containerCgroupPath slice "cri-o://f0" = .ok scope := by rfl
  have foundToo : containerCgroupPath slice "\"cri-o://f0\"" = .ok scope := by
    rfl
  obtain ⟨first, second, same, sameToo, pods, containers, apart⟩ :=
    cgroupPath_apart named namedToo
  obtain rfl := Except.ok.inj (located.symm.trans same)
  obtain rfl := Except.ok.inj (locatedToo.symm.trans sameToo)
  exact ⟨web, copy, id, id, slice, scope, named, namedToo, located, locatedToo,
    (pods rfl).2, read, readToo, plain, plain, found, foundToo,
    (containers _ _ id id scope read readToo plain plain found foundToo).2,
    apart _ scope found⟩

end Pod

end SwapWarden
