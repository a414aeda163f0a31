import Mathlib.Data.List.Nodup
import SwapWarden.Proofs.Usage.Cgroup

/-!
# Containers that were measured

A container was measured if its status runs and names it to a runtime whose
scopes are known, and if its cgroup tells its memory.  As long as no two
statuses of a pod share a name, the usage of the pod holds exactly what was
measured of its containers.
-/

namespace SwapWarden

namespace Pod

/-- A status that is reported for a name, be it of an app container or of an
init container. -/
def Reports (pod : Pod) (name : String) (status : ContainerStatus) : Prop :=
  ∃ reported statuses, pod.status = some reported ∧
    (reported.containerStatuses = some statuses ∨
      reported.initContainerStatuses = some statuses) ∧
    status ∈ statuses ∧ status.name = name

/-- The container of a name runs. -/
def Runs (pod : Pod) (name : String) : Prop :=
  ∃ status, pod.Reports name status ∧ status.isRunning = true

/-- The container of a name has terminated. -/
def HasTerminated (pod : Pod) (name : String) : Prop :=
  ∃ status, pod.Reports name status ∧ status.isTerminated = true

/-- No two statuses are reported for one name. -/
def DistinctStatuses (pod : Pod) : Prop :=
  (pod.allStatuses.map ContainerStatus.name).Nodup

variable {pod : Pod} {name : String} {status other : ContainerStatus}

theorem mem_getD_iff {α : Type} {entry : α} {given : Option (List α)} :
    entry ∈ given.getD [] ↔ ∃ entries, given = some entries ∧
      entry ∈ entries := by
  cases given with
  | none => simp
  | some entries => simp

theorem reports_iff : pod.Reports name status ↔
    status ∈ pod.allStatuses ∧ status.name = name := by
  unfold Reports allStatuses
  cases pod.status with
  | none => simp
  | some reported =>
      rw [List.mem_append, mem_getD_iff, mem_getD_iff]
      constructor
      · rintro ⟨_, statuses, ⟨⟩, listed, member, named⟩
        cases listed with
        | inl apps => exact ⟨.inl ⟨statuses, apps, member⟩, named⟩
        | inr inits => exact ⟨.inr ⟨statuses, inits, member⟩, named⟩
      · rintro ⟨listed, named⟩
        cases listed with
        | inl apps =>
            obtain ⟨statuses, listed, member⟩ := apps
            exact ⟨reported, statuses, rfl, .inl listed, member, named⟩
        | inr inits =>
            obtain ⟨statuses, listed, member⟩ := inits
            exact ⟨reported, statuses, rfl, .inr listed, member, named⟩

theorem reports_of_containerStatus?
    (found : pod.containerStatus? name = some status) :
    pod.Reports name status := by
  refine reports_iff.mpr ⟨List.mem_of_find?_eq_some found, ?_⟩
  simpa using List.find?_some found

theorem not_reports_of_containerStatus?
    (missing : pod.containerStatus? name = none) :
    ¬ pod.Reports name status := by
  intro reported
  obtain ⟨member, named⟩ := reports_iff.mp reported
  simpa [named] using List.find?_eq_none.mp missing status member

theorem Reports.unique (distinct : pod.DistinctStatuses)
    (first : pod.Reports name status) (second : pod.Reports name other) :
    status = other := by
  obtain ⟨member, named⟩ := reports_iff.mp first
  obtain ⟨memberToo, namedToo⟩ := reports_iff.mp second
  exact List.inj_on_of_nodup_map distinct member memberToo
    (named.trans namedToo.symm)

theorem Reports.exists_iff {property : ContainerStatus → Prop}
    (distinct : pod.DistinctStatuses) (reported : pod.Reports name status) :
    (∃ other, pod.Reports name other ∧ property other) ↔ property status := by
  constructor
  · rintro ⟨other, otherwise, holds⟩
    exact reported.unique distinct otherwise ▸ holds
  · intro holds
    exact ⟨status, reported, holds⟩

end Pod

namespace ContainerStatus

/-- The scope that a status tells: its id is of a runtime whose scopes are
known, and stands in the name. -/
inductive IsIn (status : ContainerStatus) : String → Prop where
  | intro {raw head : String} {container : ContainerId}
      (told : status.containerId = some raw)
      (written : container.IsWritten raw)
      (known : (container.scheme, head) ∈ ContainerId.scopeHeads) :
      IsIn status (head ++ "-" ++ container.id ++ ".scope")

/-- The scope of a container by the id that its status tells. -/
def scope? (status : ContainerStatus) : Option String :=
  (status.containerId.bind ContainerId.parse?).bind fun container =>
    (ContainerId.scopeHead? container.scheme).map fun head =>
      head ++ "-" ++ container.id ++ ".scope"

theorem scope?_eq_some_iff {status : ContainerStatus} {scope : String} :
    status.scope? = some scope ↔ status.IsIn scope := by
  unfold scope?
  rw [Option.bind_eq_some_iff]
  constructor
  · rintro ⟨container, read, named⟩
    obtain ⟨raw, told, parsed⟩ := Option.bind_eq_some_iff.mp read
    obtain ⟨head, known, rfl⟩ := Option.map_eq_some_iff.mp named
    exact .intro told (ContainerId.parse?_eq_some_iff.mp parsed)
      (ContainerId.mem_scopeHeads_iff.mpr known)
  · intro inScope
    cases inScope with
    | @intro raw head container told written known =>
        refine ⟨container, ?_, ?_⟩
        · rw [told]
          exact ContainerId.parse?_eq_some_iff.mpr written
        · rw [ContainerId.mem_scopeHeads_iff.mp known]
          rfl

theorem scope?_eq_none_iff {status : ContainerStatus} :
    status.scope? = none ↔ ∀ scope, ¬status.IsIn scope := by
  rw [Option.eq_none_iff_forall_ne_some]
  exact forall_congr' fun _ => not_congr scope?_eq_some_iff

end ContainerStatus

namespace CgroupUsage

/-- The directory of a scope in the slice of a pod. -/
def scopeDirectory (cgroupRoot podPath scope : String) : String :=
  FileTree.joinPath cgroupRoot (podPath ++ "/" ++ scope)

/-- The container of a name was measured, with the bytes that it uses. -/
inductive Measured (tree : FileTree) (cgroupRoot : String) (pod : Pod)
    (name : String) : Nat → Prop where
  | intro {status : ContainerStatus} {podPath scope : String} {bytes : Nat}
      (reported : pod.Reports name status) (runs : status.isRunning = true)
      (located : pod.cgroupPath = .ok podPath) (inScope : status.IsIn scope)
      (uses : Uses tree (scopeDirectory cgroupRoot podPath scope) bytes) :
      Measured tree cgroupRoot pod name bytes

/-- The container of a name was not measured: it does not run, has no scope, or
its cgroup does not tell its memory. -/
inductive Unmeasured (tree : FileTree) (cgroupRoot : String) (pod : Pod)
    (name : String) : Prop where
  | idle (rests : ¬ pod.Runs name)
  | unscoped {status : ContainerStatus} (reported : pod.Reports name status)
      (runs : status.isRunning = true)
      (unscoped : ∀ scope, ¬status.IsIn scope)
  | untold {status : ContainerStatus} {podPath scope : String}
      (reported : pod.Reports name status) (runs : status.isRunning = true)
      (located : pod.cgroupPath = .ok podPath) (inScope : status.IsIn scope)
      (untold : ∀ count, ¬Counts tree
        (FileTree.joinPath (scopeDirectory cgroupRoot podPath scope)
          "memory.current") count)

variable {tree : FileTree} {cgroupRoot podPath name : String} {pod : Pod}
  {status : ContainerStatus} {usage : PodUsage} {bytes : Nat}

/-! ## Reading the cgroups of a pod -/

theorem directory_of_cgroupPath (located : pod.cgroupPath = .ok podPath)
    (scope : String) :
    directory cgroupRoot (podPath ++ "/" ++ scope) =
      scopeDirectory cgroupRoot podPath scope := by
  obtain ⟨uid, rfl⟩ : ∃ uid, podPath = slicePath uid pod.qosClass := by
    unfold Pod.cgroupPath at located
    split at located
    next uid told =>
      split at located
      next => cases located
      next => exact ⟨uid, (Except.ok.inj located).symm⟩
    next => cases located
  have start : Text.trimStart (· == '/')
      (slicePath uid pod.qosClass ++ "/" ++ scope).toList =
        (slicePath uid pod.qosClass ++ "/" ++ scope).toList := by
    rw [String.toList_append, String.toList_append, toList_slicePath]
    cases pod.qosClass with
    | _ => rfl
  rw [directory, start, String.ofList_toList]
  rfl

theorem ofStatus?_eq (tree : FileTree) (cgroupRoot podPath : String)
    (status : ContainerStatus) :
    ofStatus? tree cgroupRoot podPath status =
      if status.isRunning then
        status.scope?.bind fun scope =>
          (read tree (directory cgroupRoot
              (podPath ++ "/" ++ scope))).toOption.map
            fun usage => (status.name, usage)
      else none := by
  unfold ofStatus? ContainerStatus.scope?
  cases status.containerId with
  | none => simp
  | some raw =>
      simp only [Option.bind_some, containerCgroupPath]
      split
      · cases ContainerId.parse? raw with
        | none => rfl
        | some container =>
            cases found : ContainerId.scopeHead? container.scheme with
            | none => simp [found]
            | some head =>
                simp only [found, Option.bind_some, Option.map_some,
                  String.append_assoc]
                split
                · simp [*, Except.toOption]
                · simp [*, Except.toOption]
      · rfl

theorem ofStatus?_eq_some_iff (located : pod.cgroupPath = .ok podPath)
    {use : ContainerUsage} :
    ofStatus? tree cgroupRoot podPath status = some (name, use) ↔
      status.name = name ∧ status.isRunning = true ∧
        ∃ scope, status.IsIn scope ∧
          read tree (scopeDirectory cgroupRoot podPath scope) = .ok use := by
  rw [ofStatus?_eq, Option.ite_none_right_eq_some]
  simp only [directory_of_cgroupPath located, Option.bind_eq_some_iff,
    Option.map_eq_some_iff, ContainerStatus.scope?_eq_some_iff,
    toOption_eq_some_iff, Prod.mk.injEq]
  constructor
  · rintro ⟨runs, scope, inScope, found, told, named, rfl⟩
    exact ⟨named, runs, scope, inScope, told⟩
  · rintro ⟨named, runs, scope, inScope, told⟩
    exact ⟨runs, scope, inScope, use, told, named, rfl⟩

/-- The measured containers of a pod. -/
def measuredOf (tree : FileTree) (cgroupRoot podPath : String) (pod : Pod) :
    Table String ContainerUsage :=
  Table.ofList (pod.allStatuses.filterMap
    (ofStatus? tree cgroupRoot podPath))

theorem containers_of_ofPod
    (measured : ofPod tree cgroupRoot pod = .ok usage) :
    ∃ podPath, pod.cgroupPath = .ok podPath ∧
      usage.containers = measuredOf tree cgroupRoot podPath pod := by
  unfold ofPod at measured
  cases located : pod.cgroupPath with
  | error fault =>
      rw [located] at measured
      cases measured
  | ok podPath =>
      rw [located] at measured
      refine ⟨podPath, rfl, ?_⟩
      cases used : read tree (directory cgroupRoot podPath) with
      | error fault =>
          simp only [bind, Except.bind, used] at measured
          cases measured
      | ok whole =>
          simp only [bind, Except.bind, used] at measured
          split at measured
          · cases measured
          · cases measured
            rfl

theorem get?_measuredOf (distinct : pod.DistinctStatuses)
    (located : pod.cgroupPath = .ok podPath) {use : ContainerUsage} :
    (measuredOf tree cgroupRoot podPath pod).get? name = some use ↔
      ∃ status, pod.Reports name status ∧
        ofStatus? tree cgroupRoot podPath status = some (name, use) := by
  have keys : ((pod.allStatuses.filterMap
      (ofStatus? tree cgroupRoot podPath)).map Prod.fst).Nodup := by
    refine List.pairwise_map.mpr (List.pairwise_filterMap.mpr ?_)
    refine (List.pairwise_map.mp distinct).imp ?_
    rintro first second apart ⟨firstName, firstUse⟩ one
      ⟨secondName, secondUse⟩ two
    rw [← ((ofStatus?_eq_some_iff located).mp one).1,
      ← ((ofStatus?_eq_some_iff located).mp two).1]
    exact apart
  rw [measuredOf, Table.get?_ofList_eq_some_iff keys, List.mem_filterMap]
  constructor
  · rintro ⟨status, member, told⟩
    have named := ((ofStatus?_eq_some_iff located).mp told).1
    exact ⟨status, Pod.reports_iff.mpr ⟨member, named⟩, told⟩
  · rintro ⟨status, reported, told⟩
    exact ⟨status, (Pod.reports_iff.mp reported).1, told⟩

theorem measured_iff (distinct : pod.DistinctStatuses)
    (located : pod.cgroupPath = .ok podPath) :
    Measured tree cgroupRoot pod name bytes ↔
      ∃ use, (measuredOf tree cgroupRoot podPath pod).get? name = some use ∧
        use.total.toNat = bytes := by
  constructor
  · rintro ⟨reported, runs, located', inScope, uses⟩
    obtain rfl := Except.ok.inj (located.symm.trans located')
    obtain ⟨use, known, total⟩ := uses_iff.mp uses
    refine ⟨use, (get?_measuredOf distinct located).mpr ⟨_, reported, ?_⟩,
      total⟩
    exact (ofStatus?_eq_some_iff located).mpr
      ⟨(Pod.reports_iff.mp reported).2, runs, _, inScope, known⟩
  · rintro ⟨use, found, rfl⟩
    obtain ⟨status, reported, told⟩ :=
      (get?_measuredOf distinct located).mp found
    obtain ⟨_, runs, scope, inScope, known⟩ :=
      (ofStatus?_eq_some_iff located).mp told
    exact .intro reported runs located inScope (uses_iff.mpr ⟨use, known, rfl⟩)

theorem unmeasured_iff (distinct : pod.DistinctStatuses)
    (located : pod.cgroupPath = .ok podPath) :
    Unmeasured tree cgroupRoot pod name ↔
      (measuredOf tree cgroupRoot podPath pod).get? name = none := by
  rw [Option.eq_none_iff_forall_ne_some]
  constructor
  · intro unmeasured use found
    obtain ⟨status, reported, told⟩ :=
      (get?_measuredOf distinct located).mp found
    obtain ⟨_, runs, scope, inScope, known⟩ :=
      (ofStatus?_eq_some_iff located).mp told
    cases unmeasured with
    | idle rests => exact rests ⟨status, reported, runs⟩
    | unscoped other _ unscoped =>
        obtain rfl := reported.unique distinct other
        exact unscoped scope inScope
    | untold other _ located' inScope' untold =>
        obtain rfl := reported.unique distinct other
        obtain rfl := Except.ok.inj (located.symm.trans located')
        rw [← ContainerStatus.scope?_eq_some_iff] at inScope inScope'
        obtain rfl := Option.some.inj (inScope.symm.trans inScope')
        obtain ⟨fault, failed⟩ := read_eq_error_iff.mpr untold
        rw [known] at failed
        cases failed
  · intro missing
    by_cases active : pod.Runs name
    · obtain ⟨status, reported, runs⟩ := active
      cases inScope : status.scope? with
      | none =>
          exact .unscoped reported runs
            (ContainerStatus.scope?_eq_none_iff.mp inScope)
      | some scope =>
          replace inScope := ContainerStatus.scope?_eq_some_iff.mp inScope
          cases known : read tree
              (scopeDirectory cgroupRoot podPath scope) with
          | error fault =>
              exact .untold reported runs located inScope
                (read_eq_error_iff.mp ⟨fault, known⟩)
          | ok use =>
              have told := (ofStatus?_eq_some_iff located).mpr
                ⟨(Pod.reports_iff.mp reported).2, runs, scope, inScope, known⟩
              exact absurd ((get?_measuredOf distinct located).mpr
                ⟨status, reported, told⟩) (missing use)
    · exact .idle active

end CgroupUsage

end SwapWarden
