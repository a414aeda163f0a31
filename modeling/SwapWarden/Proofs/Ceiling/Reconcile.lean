import SwapWarden.Proofs.Ceiling.Attempt

/-!
# Reconciling meets its policy

The loop over the containers of a pod attempts each container as if it were the
only one.  Afterwards every ceiling that can be written is the one of the last
container attempted there, no other file is another one than before, and the
first failure is reported before any container that is waited for.
-/

namespace SwapWarden

namespace CeilingSettings

variable {settings : CeilingSettings} {processes : ProcessLookup}
  {tree : FileTree} {pod : Pod} {container : Container} {id : String}

/-- The last container among some attempts whose ceiling is at a place. -/
def lastAt (settings : CeilingSettings) (processes : ProcessLookup)
    (tree : FileTree) (attempts : List (Container × String))
    (place : Location) : Option Container :=
  (attempts.reverse.find? fun attempt =>
    settings.writesAt processes tree place attempt.2).map Prod.fst

/-- How far the loop is, with the containers that it dealt with. -/
structure Progress (settings : CeilingSettings) (processes : ProcessLookup)
    (tree : FileTree) (pod : Pod) (dealt : List Container)
    (report : Reconciliation) : Prop where
  only : OnlyCeilings tree report.tree
  attempts_eq : report.attempts = (pod.attemptsOn dealt).map
    fun (container, id) => ⟨container.name, id,
      (settings.attemptOn processes tree pod container id).1⟩
  waits_eq : report.waits = dealt.any pod.isAwaited
  lookup?_eq : ∀ place, report.tree.lookup? place =
    match settings.lastAt processes tree (pod.attemptsOn dealt) place with
    | some container => some (.text (settings.ceilingText pod container))
    | none => tree.lookup? place

theorem lastAt_concat (attempts : List (Container × String))
    (container : Container) (id : String) (place : Location) :
    settings.lastAt processes tree (attempts ++ [(container, id)]) place =
      if settings.writesAt processes tree place id then some container
      else settings.lastAt processes tree attempts place := by
  unfold lastAt
  rw [List.reverse_append, List.reverse_singleton, List.singleton_append,
    List.find?_cons]
  cases settings.writesAt processes tree place id with
  | true => rfl
  | false => rfl

variable {dealt : List Container} {report : Reconciliation}

theorem Progress.pass
    (progress : Progress settings processes tree pod dealt report)
    (unattempted : pod.attemptId? container = none) :
    Progress settings processes tree pod (dealt ++ [container])
      { report with waits := report.waits || pod.isAwaited container } := by
  have same : pod.attemptsOn (dealt ++ [container]) = pod.attemptsOn dealt := by
    rw [pod.attemptsOn_concat, unattempted]
    exact List.append_nil _
  constructor
  · exact progress.only
  · rw [same]
    exact progress.attempts_eq
  · simp [progress.waits_eq]
  · rw [same]
    exact progress.lookup?_eq

theorem Progress.attempt
    (progress : Progress settings processes tree pod dealt report)
    (attempted : pod.attemptId? container = some id) :
    Progress settings processes tree pod (dealt ++ [container])
      { report with
        tree := (settings.attemptOn processes report.tree pod container id).2
        attempts := report.attempts ++ [⟨container.name, id,
          (settings.attemptOn processes report.tree pod container id).1⟩] } := by
  have oneMore : pod.attemptsOn (dealt ++ [container]) =
      pod.attemptsOn dealt ++ [(container, id)] := by
    rw [pod.attemptsOn_concat, attempted]
    rfl
  constructor
  · exact progress.only.after_attempt
  · rw [oneMore, progress.only.attemptOn, progress.attempts_eq]
    simp
  · simp [progress.waits_eq, Pod.not_isAwaited attempted]
  · intro place
    rw [oneMore, lastAt_concat]
    refine (progress.only.lookup?_attemptOn place).trans ?_
    cases settings.writesAt processes tree place id with
    | true => rfl
    | false => exact progress.lookup?_eq place

theorem Progress.visit
    (progress : Progress settings processes tree pod dealt report)
    (container : Container) :
    Progress settings processes tree pod (dealt ++ [container])
      (settings.visit processes pod report container) := by
  unfold CeilingSettings.visit
  rw [pod.containerStep_eq]
  cases attempted : pod.attemptId? container with
  | none =>
      have passed := progress.pass attempted
      cases awaited : pod.isAwaited container with
      | true => simpa [awaited] using passed
      | false => simpa [awaited] using passed
  | some id => exact progress.attempt attempted

theorem Progress.foldl
    (progress : Progress settings processes tree pod dealt report)
    (containers : List Container) :
    Progress settings processes tree pod (dealt ++ containers)
      (containers.foldl (settings.visit processes pod) report) := by
  induction containers generalizing dealt report with
  | nil =>
      rw [List.append_nil]
      exact progress
  | cons container rest induction =>
      rw [List.append_cons]
      exact induction (progress.visit container)

theorem progress_reconcilePod (settings : CeilingSettings)
    (processes : ProcessLookup) (tree : FileTree) (pod : Pod) :
    Progress settings processes tree pod pod.allContainers
      (settings.reconcilePod processes tree pod) := by
  have begun : Progress settings processes tree pod [] { tree } :=
    ⟨.refl tree, rfl, rfl, fun _ => rfl⟩
  exact begun.foldl pod.allContainers

/-! ## The policy -/

/-- Why an attempt under an id fails, if it does. -/
def failure? (settings : CeilingSettings) (processes : ProcessLookup)
    (tree : FileTree) (id : String) : Option Fault :=
  match settings.ceilingPlace processes tree id with
  | .ok _ => none
  | .error fault => some fault

theorem fault?_attemptOn :
    (settings.attemptOn processes tree pod container id).1.fault? =
      settings.failure? processes tree id := by
  unfold failure?
  cases aim : settings.ceilingPlace processes tree id with
  | error fault => exact (attemptOn_of_fault aim).1
  | ok place =>
      rw [attemptOn_of_place aim]
      rfl

theorem faults_of_progress
    (progress : Progress settings processes tree pod dealt report) :
    report.faults = (pod.attemptsOn dealt).filterMap fun attempt =>
      settings.failure? processes tree attempt.2 := by
  unfold Reconciliation.faults
  rw [progress.attempts_eq, List.filterMap_map]
  congr 1
  funext attempt
  exact fault?_attemptOn

theorem result_of_failure {fault : Fault} {others : List Fault}
    (faults : report.faults = fault :: others) :
    report.result = .error fault := by
  unfold Reconciliation.result
  rw [faults]

theorem result_of_no_failure (faults : report.faults = []) :
    report.result = .ok (if report.waits then .backOff else .forget) := by
  unfold Reconciliation.result
  rw [faults]

theorem lastAt_of_none {attempts : List (Container × String)}
    {place : Location}
    (unaimed : ∀ attempt ∈ attempts,
      settings.ceilingPlace processes tree attempt.2 ≠ .ok place) :
    settings.lastAt processes tree attempts place = none := by
  apply Option.map_eq_none_iff.mpr
  apply List.find?_eq_none.mpr
  intro attempt member writes
  exact unaimed attempt (List.mem_reverse.mp member) (writesAt_iff.mp writes)

/-- An attempt whose ceiling no later one overwrites. -/
theorem lastAt_of_last {earlier later : List (Container × String)}
    {place : Location}
    (leads : settings.ceilingPlace processes tree id = .ok place)
    (kept : ∀ other ∈ later,
      settings.ceilingPlace processes tree other.2 ≠ .ok place) :
    settings.lastAt processes tree (earlier ++ (container, id) :: later) place =
      some container := by
  have unaimed : settings.lastAt processes tree later place = none :=
    lastAt_of_none kept
  have passed := Option.map_eq_none_iff.mp unaimed
  have writes : settings.writesAt processes tree place id = true :=
    writesAt_iff.mpr leads
  unfold lastAt
  rw [List.reverse_append, List.reverse_cons, List.append_assoc,
    List.find?_append, passed]
  simp [writes]

theorem OnlyCeilings.readText {place : Location} {directory content : String}
    (only : OnlyCeilings tree later)
    (leads : settings.ceilingPlace processes tree id = .ok place)
    (found : settings.directoryOf processes tree id = .ok directory)
    (stands : later.lookup? place = some (.text content)) :
    later.readText (FileTree.joinPath directory ceilingFile) = .ok content := by
  apply FileTree.readText_of_filePlace plain_ceilingFile _ stands
  rw [only.alike.filePlace]
  unfold CeilingSettings.ceilingPlace at leads
  simp only [found] at leads
  split at leads
  · rename_i there file
    cases leads
    exact file
  · cases leads

/-- What reconciling a pod on a tree comes to.  Each attempt goes as it would
alone, the last one on a ceiling that can be written stays, and nothing else is
changed: no place is made, and none becomes a directory or a file. -/
structure MeetsPolicy (settings : CeilingSettings) (processes : ProcessLookup)
    (tree : FileTree) (pod : Pod) (report : Reconciliation) : Prop where
  attempts_eq : report.attempts = pod.attempted.map
    fun (container, id) => ⟨container.name, id,
      (settings.attemptOn processes tree pod container id).1⟩
  written : ∀ earlier container id later place,
    pod.attempted = earlier ++ (container, id) :: later →
    settings.ceilingPlace processes tree id = .ok place →
    (∀ other ∈ later,
      settings.ceilingPlace processes tree other.2 ≠ .ok place) →
    report.tree.lookup? place =
        some (.text (settings.ceilingText pod container)) ∧
      ∀ directory, settings.directoryOf processes tree id = .ok directory →
        report.tree.readText (FileTree.joinPath directory ceilingFile) =
          .ok (settings.ceilingText pod container)
  untouched : ∀ place,
    (∀ attempt ∈ pod.attempted,
      settings.ceilingPlace processes tree attempt.2 ≠ .ok place) →
    report.tree.lookup? place = tree.lookup? place
  alike : FileTree.Alike tree report.tree
  failed : ∀ earlier container id later fault,
    pod.attempted = earlier ++ (container, id) :: later →
    (∀ other ∈ earlier, settings.failure? processes tree other.2 = none) →
    settings.failure? processes tree id = some fault →
    report.result = .error fault
  unfailed :
    (∀ attempt ∈ pod.attempted,
      settings.failure? processes tree attempt.2 = none) →
    report.result =
      .ok (if pod.allContainers.any pod.isAwaited then .backOff else .forget)

theorem Progress.meetsPolicy
    (progress :
      Progress settings processes tree pod pod.allContainers report) :
    MeetsPolicy settings processes tree pod report := by
  constructor
  · exact progress.attempts_eq
  · intro earlier container id later place parts leads kept
    rw [Pod.attempted] at parts
    have stands : report.tree.lookup? place =
        some (.text (settings.ceilingText pod container)) := by
      rw [progress.lookup?_eq, parts, lastAt_of_last leads kept]
    refine ⟨stands, ?_⟩
    intro directory found
    exact progress.only.readText leads found stands
  · intro place unaimed
    rw [Pod.attempted] at unaimed
    rw [progress.lookup?_eq, lastAt_of_none unaimed]
  · exact progress.only.alike
  · intro earlier container id later fault parts unfailed fails
    rw [Pod.attempted] at parts
    have before : earlier.filterMap (fun attempt =>
        settings.failure? processes tree attempt.2) = [] :=
      List.filterMap_eq_nil_iff.mpr unfailed
    have faults := faults_of_progress progress
    rw [parts, List.filterMap_append, before, List.nil_append,
      List.filterMap_cons_some] at faults
    · exact result_of_failure faults
    · exact fails
  · intro unfailed
    have faults := (faults_of_progress progress).trans
      (List.filterMap_eq_nil_iff.mpr unfailed)
    rw [result_of_no_failure faults, progress.waits_eq]

theorem OnlyCeilings.failure? (only : OnlyCeilings tree later) (id : String) :
    settings.failure? processes later id =
      settings.failure? processes tree id := by
  unfold CeilingSettings.failure?
  rw [only.ceilingPlace]

theorem OnlyCeilings.lastAt (only : OnlyCeilings tree later)
    (attempts : List (Container × String)) (place : Location) :
    settings.lastAt processes later attempts place =
      settings.lastAt processes tree attempts place := by
  unfold CeilingSettings.lastAt writesAt
  simp only [only.ceilingPlace]

/-- A second look at a pod that comes to the same and changes no file. -/
structure Repeats (report second : Reconciliation) : Prop where
  attempts_eq : second.attempts = report.attempts
  result_eq : second.result = report.result
  lookup?_eq : ∀ place, second.tree.lookup? place = report.tree.lookup? place

theorem Progress.again {second : Reconciliation}
    (progress : Progress settings processes tree pod dealt report)
    (repeated : Progress settings processes report.tree pod dealt second) :
    Repeats report second := by
  constructor
  · rw [repeated.attempts_eq, progress.attempts_eq]
    simp only [progress.only.attemptOn]
  · have faults : second.faults = report.faults := by
      rw [faults_of_progress repeated, faults_of_progress progress]
      simp only [progress.only.failure?]
    unfold Reconciliation.result
    rw [faults, repeated.waits_eq, progress.waits_eq]
  · intro place
    have repeatedly := repeated.lookup?_eq place
    rw [progress.only.lastAt] at repeatedly
    cases last : settings.lastAt processes tree (pod.attemptsOn dealt) place with
    | none => simpa only [last] using repeatedly
    | some container =>
        have once := progress.lookup?_eq place
        rw [last] at once repeatedly
        exact repeatedly.trans once.symm

/-- Reconciling a cached pod meets the policy, whatever the runtime answers and
whatever the tree holds, and reconciling it again repeats that; for a pod that
is not cached there is nothing to do. -/
theorem reconcile_meets_policy (settings : CeilingSettings)
    (processes : ProcessLookup) (tree : FileTree) :
    (∀ pod,
      MeetsPolicy settings processes tree pod
          (settings.reconcile processes tree (some pod)) ∧
        Repeats (settings.reconcile processes tree (some pod))
          (settings.reconcile processes
            (settings.reconcile processes tree (some pod)).tree
            (some pod))) ∧
      settings.reconcile processes tree none = { tree } ∧
      (settings.reconcile processes tree none).result = .ok .forget := by
  refine ⟨?_, rfl, rfl⟩
  intro pod
  have first := progress_reconcilePod settings processes tree pod
  have second := progress_reconcilePod settings processes
    (settings.reconcilePod processes tree pod).tree pod
  exact ⟨first.meetsPolicy, first.again second⟩

end CeilingSettings

end SwapWarden
