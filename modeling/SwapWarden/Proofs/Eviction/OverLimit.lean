import SwapWarden.Eviction.Order
import SwapWarden.Proofs.Usage.Measured

/-!
# Pods over their limits

The order of eviction and the source of usage decide apart from each other
which containers count: one by what is declared and reported, the other by what
is reported and found in the cgroup tree.  They agree on what puts a pod over
its limits: a container that should be using memory now and either uses more
than it may or could not be measured.
-/

namespace SwapWarden

namespace Pod

variable {pod : Pod} {container : Container}

/-- A container that is declared to make up the pod. -/
def DeclaresApp (pod : Pod) (container : Container) : Prop :=
  ∃ spec, pod.spec = some spec ∧ container ∈ spec.containers

/-- A container that is declared to run first. -/
def DeclaresInit (pod : Pod) (container : Container) : Prop :=
  ∃ spec containers, pod.spec = some spec ∧
    spec.initContainers = some containers ∧ container ∈ containers

/-- An app container that has not terminated, or an init container that runs.
-/
inductive IsLive (pod : Pod) (container : Container) : Prop where
  | app (declared : pod.DeclaresApp container)
      (lasts : ¬ pod.HasTerminated container.name)
  | init (declared : pod.DeclaresInit container)
      (runs : pod.Runs container.name)

theorem mem_appContainers_iff :
    container ∈ pod.appContainers ↔ pod.DeclaresApp container := by
  unfold appContainers DeclaresApp
  cases pod.spec with
  | none => simp
  | some spec => simp

theorem mem_initContainers_iff :
    container ∈ pod.initContainers ↔ pod.DeclaresInit container := by
  unfold initContainers DeclaresInit
  cases pod.spec with
  | none => simp
  | some spec => simp [mem_getD_iff]

theorem isLiveApp_iff (distinct : pod.DistinctStatuses) :
    pod.isLiveApp container = true ↔ ¬ pod.HasTerminated container.name := by
  unfold isLiveApp containerState?
  cases found : pod.containerStatus? container.name with
  | none =>
      refine iff_of_true rfl ?_
      rintro ⟨status, reported, _⟩
      exact not_reports_of_containerStatus? found reported
  | some status =>
      have reported := reports_of_containerStatus? found
      rw [HasTerminated, reported.exists_iff distinct]
      cases told : status.state with
      | none => simp [ContainerStatus.isTerminated, told]
      | some state => simp [ContainerStatus.isTerminated, told]

theorem isLiveInit_iff (distinct : pod.DistinctStatuses) :
    pod.isLiveInit container = true ↔ pod.Runs container.name := by
  unfold isLiveInit containerState?
  cases found : pod.containerStatus? container.name with
  | none =>
      refine iff_of_false nofun ?_
      rintro ⟨status, reported, _⟩
      exact not_reports_of_containerStatus? found reported
  | some status =>
      have reported := reports_of_containerStatus? found
      rw [Runs, reported.exists_iff distinct]
      cases told : status.state with
      | none => simp [ContainerStatus.isRunning, told]
      | some state => simp [ContainerStatus.isRunning, told]

theorem mem_liveContainers_iff (distinct : pod.DistinctStatuses) :
    container ∈ pod.liveContainers ↔ pod.IsLive container := by
  rw [liveContainers, List.mem_append, List.mem_filter, List.mem_filter,
    mem_appContainers_iff, mem_initContainers_iff, isLiveApp_iff distinct,
    isLiveInit_iff distinct]
  constructor
  · rintro (⟨declared, lasts⟩ | ⟨declared, runs⟩)
    · exact .app declared lasts
    · exact .init declared runs
  · rintro (⟨declared, lasts⟩ | ⟨declared, runs⟩)
    · exact .inl ⟨declared, lasts⟩
    · exact .inr ⟨declared, runs⟩

end Pod

namespace Container

/-- A limit on the memory of a container is declared and can be read. -/
def IsLimitedTo (container : Container) (limit : UInt64) : Prop :=
  ∃ resources limits raw, container.resources = some resources ∧
    resources.limits = some limits ∧ limits.get? "memory" = some raw ∧
    Quantity.bytes raw = .ok limit

theorem memoryLimit?_eq_some_iff {container : Container} {limit : UInt64} :
    container.memoryLimit? = some limit ↔ container.IsLimitedTo limit := by
  have read (declared : Option String) : declaredBytes? declared =
      declared.bind fun raw => (Quantity.bytes raw).toOption := by
    cases declared with
    | none => rfl
    | some raw => simp only [declaredBytes?, Option.bind_some]
  rw [memoryLimit?, read, limit?]
  simp only [Option.bind_eq_bind, Option.bind_eq_some_iff,
    CgroupUsage.toOption_eq_some_iff]
  constructor
  · rintro ⟨raw, ⟨resources, held, limits, limited, named⟩, known⟩
    exact ⟨resources, limits, raw, held, limited, named, known⟩
  · rintro ⟨resources, limits, raw, held, limited, named, known⟩
    exact ⟨raw, ⟨resources, held, limits, limited, named⟩, known⟩

end Container

namespace EvictionOrder

open CgroupUsage

variable {tree : FileTree} {cgroupRoot : String} {pod : Pod}
  {usage : PodUsage}

/-- A container with a limit that it exceeds, or that could not be measured. -/
inductive Exceeds (tree : FileTree) (cgroupRoot : String) (pod : Pod)
    (container : Container) : Prop where
  | unmeasured {limit : UInt64} (limited : container.IsLimitedTo limit)
      (unmeasured : Unmeasured tree cgroupRoot pod container.name)
  | measured {limit : UInt64} {bytes : Nat}
      (limited : container.IsLimitedTo limit)
      (measured : Measured tree cgroupRoot pod container.name bytes)
      (exceeded : limit.toNat < bytes)

theorem Exceeds.isLimitedTo {container : Container}
    (exceeds : Exceeds tree cgroupRoot pod container) :
    ∃ limit, container.IsLimitedTo limit := by
  cases exceeds with
  | unmeasured limited _ => exact ⟨_, limited⟩
  | measured limited _ _ => exact ⟨_, limited⟩

theorem isOverLimit_iff {container : Container}
    (distinct : pod.DistinctStatuses)
    (known : CgroupUsage.ofPod tree cgroupRoot pod = .ok usage) :
    isOverLimit usage container = true ↔
      Exceeds tree cgroupRoot pod container := by
  obtain ⟨podPath, located, held⟩ := containers_of_ofPod known
  unfold isOverLimit
  rw [held]
  cases limited : container.memoryLimit? with
  | none =>
      refine iff_of_false nofun ?_
      intro exceeds
      obtain ⟨limit, declared⟩ := exceeds.isLimitedTo
      rw [Container.memoryLimit?_eq_some_iff.mpr declared] at limited
      cases limited
  | some limit =>
      have declared := Container.memoryLimit?_eq_some_iff.mp limited
      cases found : (measuredOf tree cgroupRoot podPath pod).get?
          container.name with
      | none =>
          refine iff_of_true rfl (.unmeasured declared ?_)
          exact (unmeasured_iff distinct located).mpr found
      | some use =>
          have measured : Measured tree cgroupRoot pod container.name
              use.total.toNat :=
            (measured_iff distinct located).mpr ⟨use, found, rfl⟩
          rw [decide_eq_true_iff]
          constructor
          · intro exceeded
            apply Exceeds.measured declared measured
            exact UInt64.lt_iff_toNat_lt.mp exceeded
          · rintro (⟨_, unmeasured⟩ | ⟨declared', measured', exceeded⟩)
            · have missing := (unmeasured_iff distinct located).mp unmeasured
              rw [found] at missing
              cases missing
            · rw [Container.memoryLimit?_eq_some_iff.mpr declared'] at limited
              obtain rfl := Option.some.inj limited
              obtain ⟨use', found', rfl⟩ :=
                (measured_iff distinct located).mp measured'
              obtain rfl := Option.some.inj (found.symm.trans found')
              exact UInt64.lt_iff_toNat_lt.mpr exceeded

/-- A pod with usage is over its limits because of a container that should be
using memory now and exceeds its limit or could not be measured.  Containers
that are done with, whatever they left in the cgroup tree, never put it there.
-/
theorem exceedsLimits_iff (distinct : pod.DistinctStatuses)
    (known : CgroupUsage.ofPod tree cgroupRoot pod = .ok usage) :
    (exceedsLimits pod usage = true ↔
        ∃ container, pod.IsLive container ∧
          Exceeds tree cgroupRoot pod container) ∧
      ((∀ container limit, pod.DeclaresApp container →
          container.IsLimitedTo limit → pod.HasTerminated container.name) →
        (∀ container limit, pod.DeclaresInit container →
          container.IsLimitedTo limit → ¬ pod.Runs container.name) →
        exceedsLimits pod usage = false) := by
  have responsible : exceedsLimits pod usage = true ↔
      ∃ container, pod.IsLive container ∧
        Exceeds tree cgroupRoot pod container := by
    unfold exceedsLimits
    rw [List.any_eq_true]
    simp only [Pod.mem_liveContainers_iff distinct,
      isOverLimit_iff distinct known]
  refine ⟨responsible, ?_⟩
  intro appsEnded initsRest
  rw [← Bool.not_eq_true, responsible]
  rintro ⟨container, live, exceeds⟩
  obtain ⟨limit, limited⟩ := exceeds.isLimitedTo
  cases live with
  | app declared lasts =>
      exact lasts (appsEnded container limit declared limited)
  | init declared runs => exact initsRest container limit declared limited runs

/-- An app container that uses 4 bytes and an init container that uses 9 run:
either one puts a pod over its limits when its own limit is one byte too low,
and none does when both limits are just met.  Beside them stand an app container
and an init container that have terminated; their limits are lower than what
their cgroups still tell. -/
theorem exceedsLimits_iff_leftover :
    ∃ (tree : FileTree) (roomy tight starting : Pod) (usage : PodUsage),
      (∀ pod ∈ [roomy, tight, starting], pod.DistinctStatuses ∧
        CgroupUsage.ofPod tree "/sys" pod = .ok usage) ∧
        tree.holds "/sys/kubepods.slice/kubepods-podu.slice/crio-b.scope" =
          true ∧
        (¬∃ container, roomy.IsLive container ∧
          Exceeds tree "/sys" roomy container) ∧
        (∃ container, tight.IsLive container ∧
          Exceeds tree "/sys" tight container) ∧
        ∃ container, starting.IsLive container ∧
          Exceeds tree "/sys" starting container := by
  let slice : Location := ["sys", "kubepods.slice", "kubepods-podu.slice"]
  let tree : FileTree :=
    { entries :=
        ⟨[(slice.take 1, .directory), (slice.take 2, .directory),
          (slice, .directory),
          (slice ++ ["memory.current"], .text "9"),
          (slice ++ ["crio-a.scope"], .directory),
          (slice ++ ["crio-a.scope", "memory.current"], .text "6\n"),
          (slice ++ ["crio-a.scope", "memory.stat"],
            .text "inactive_file 9\ninactive_file 3\ninactive_file x\nfile 8\n"),
          (slice ++ ["crio-a.scope", "memory.swap.current"], .text "1"),
          (slice ++ ["crio-b.scope"], .directory),
          (slice ++ ["crio-b.scope", "memory.current"], .text "9"),
          (slice ++ ["crio-c.scope"], .directory),
          (slice ++ ["crio-c.scope", "memory.current"], .text "9"),
          (slice ++ ["crio-d.scope"], .directory),
          (slice ++ ["crio-d.scope", "memory.current"], .text "9")]⟩ }
  let limited (name raw : String) : Container :=
    { name
      resources := some { limits := some ⟨[("memory", raw)]⟩ } }
  let status (name id : String) (state : ReportedState) : ContainerStatus :=
    { name, containerId := some id, state := some state }
  let pod (app init : String) : Pod :=
    { metadata := { uid := some "u" }
      spec := some
        { containers := [limited "web" app, limited "job" "1"]
          initContainers := some [limited "seed" "1", limited "setup" init] }
      status := some
        { qosClass := some "Guaranteed"
          containerStatuses := some
            [status "web" "cri-o://a" { running := true },
              status "job" "cri-o://b" { terminated := some 0 }]
          initContainerStatuses := some
            [status "seed" "cri-o://c" { terminated := some 0 },
              status "setup" "cri-o://d" { running := true }] } }
  let uses : List (String × ContainerUsage) :=
    [("web", { workingSet := 3, swap := 1 }), ("setup", { workingSet := 9 })]
  have distinct (app init : String) : (pod app init).DistinctStatuses := by
    change ["web", "job", "seed", "setup"].Nodup
    decide
  have left : tree.holds
      "/sys/kubepods.slice/kubepods-podu.slice/crio-b.scope" = true := by
    unfold FileTree.holds FileTree.resolve
    simp only [String.contains_char_eq]
    decide +kernel
  have told : (CgroupUsage.ofPod tree "/sys" (pod "4" "9")).toOption.map
      (·.containers.entries) = some uses := by
    unfold CgroupUsage.ofPod CgroupUsage.ofStatus? CgroupUsage.read readCount
      inactiveFile FileTree.readOrFault FileTree.readText FileTree.resolve
    simp only [String.contains_char_eq]
    decide +kernel
  obtain ⟨usage, read, held⟩ := Option.map_eq_some_iff.mp told
  have known (app init : String) :
      CgroupUsage.ofPod tree "/sys" (pod app init) = .ok usage :=
    toOption_eq_some_iff.mp read
  have verdict (app init : String) : exceedsLimits (pod app init) usage =
      exceedsLimits (pod app init) { containers := ⟨uses⟩ } := by
    unfold exceedsLimits isOverLimit Table.get?
    rw [held]
  have judged (app init : String) :=
    (exceedsLimits_iff (distinct app init) (known app init)).1
  have roomy : exceedsLimits (pod "4" "9") usage = false :=
    (verdict "4" "9").trans (by decide +kernel)
  have tight : exceedsLimits (pod "3" "9") usage = true :=
    (verdict "3" "9").trans (by decide +kernel)
  have starting : exceedsLimits (pod "4" "8") usage = true :=
    (verdict "4" "8").trans (by decide +kernel)
  refine ⟨tree, pod "4" "9", pod "3" "9", pod "4" "8", usage, ?_, left, ?_,
    (judged "3" "9").mp tight, (judged "4" "8").mp starting⟩
  · rw [List.forall_mem_cons, List.forall_mem_cons, List.forall_mem_singleton]
    exact ⟨⟨distinct "4" "9", known "4" "9"⟩,
      ⟨distinct "3" "9", known "3" "9"⟩, ⟨distinct "4" "8", known "4" "8"⟩⟩
  · rw [← judged "4" "9", roomy]
    exact Bool.false_ne_true

end EvictionOrder

end SwapWarden
