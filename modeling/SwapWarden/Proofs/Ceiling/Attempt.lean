import SwapWarden.Ceiling.Reconcile
import SwapWarden.Proofs.FileTree.Overwrite

/-!
# Attempts on containers

Which containers of a pod are attempted is told by their statuses alone, and
what becomes of an attempt by the runtime's answer and the tree.  Writing the
ceiling of one container changes no listing of a process and leaves every path
leading where it led, so it has no bearing on the attempts that follow.
-/

namespace SwapWarden

theorem plain_ceilingFile : FileTree.PlainName ceilingFile := by
  constructor
  all_goals decide

theorem plain_cgroup : FileTree.PlainName "cgroup" := by
  constructor
  all_goals decide

namespace Pod

/-! ## Which containers are attempted -/

/-- The id of a container that runs and has not terminated. -/
def attemptId? (pod : Pod) (container : Container) : Option String :=
  match pod.containerStatus? container.name with
  | some status =>
      if status.isRunning && !status.isTerminated then
        (status.containerId.bind ContainerId.parse?).map ContainerId.id
      else none
  | none => none

/-- Whether a container has no status, or has not terminated and does not run
or has no usable id. -/
def isAwaited (pod : Pod) (container : Container) : Bool :=
  match pod.containerStatus? container.name with
  | some status =>
      !status.isTerminated && (!status.isRunning ||
        (status.containerId.bind ContainerId.parse?).isNone)
  | none => true

/-- The attempts on some containers, in order. -/
def attemptsOn (pod : Pod) (containers : List Container) :
    List (Container × String) :=
  containers.filterMap fun container =>
    (pod.attemptId? container).map fun id => (container, id)

/-- The attempts on the containers of a pod, in order. -/
def attempted (pod : Pod) : List (Container × String) :=
  pod.attemptsOn pod.allContainers

theorem containerStep_eq (pod : Pod) (container : Container) :
    pod.containerStep container =
      match pod.attemptId? container with
      | some id => .apply id
      | none => if pod.isAwaited container then .wait else .skip := by
  unfold containerStep attemptId? isAwaited
  cases pod.containerStatus? container.name with
  | none => rfl
  | some status =>
      cases ended : status.isTerminated with
      | true => simp [ended]
      | false =>
          cases runs : status.isRunning with
          | false => simp [ended, runs]
          | true =>
              cases usable : status.containerId.bind ContainerId.parse? with
              | none => simp [ended, runs, usable]
              | some parsed => simp [ended, runs, usable]

theorem not_isAwaited {pod : Pod} {container : Container} {id : String}
    (attempted : pod.attemptId? container = some id) :
    pod.isAwaited container = false := by
  unfold attemptId? at attempted
  unfold isAwaited
  split at attempted
  · split at attempted
    · rename_i status found here
      obtain ⟨runs, lasts⟩ : status.isRunning = true ∧
          status.isTerminated = false := by simpa using here
      obtain ⟨parsed, usable, _⟩ := Option.map_eq_some_iff.mp attempted
      simp [runs, lasts, usable]
    · cases attempted
  · cases attempted

theorem attemptsOn_concat (pod : Pod) (containers : List Container)
    (container : Container) :
    pod.attemptsOn (containers ++ [container]) =
      pod.attemptsOn containers ++
        ((pod.attemptId? container).map fun id => (container, id)).toList := by
  unfold attemptsOn
  rw [List.filterMap_append]
  cases attempted : pod.attemptId? container with
  | none => simp [attempted]
  | some id => simp [attempted]

end Pod

namespace CeilingSettings

/-! ## What one attempt does -/

/-- The place of a container's ceiling, or why it cannot be written. -/
def ceilingPlace (settings : CeilingSettings) (processes : ProcessLookup)
    (tree : FileTree) (id : String) : Except Fault Location :=
  match settings.directoryOf processes tree id with
  | .error fault => .error fault
  | .ok directory =>
      let path := FileTree.joinPath directory ceilingFile
      match tree.filePlace path with
      | .ok place => .ok place
      | .error cause => .error (.file path cause)

/-- A tree that differs from another one in the texts of ceilings only. -/
structure OnlyCeilings (tree later : FileTree) : Prop where
  alike : FileTree.Alike tree later
  others : ∀ place, place.getLast? ≠ some ceilingFile →
    later.lookup? place = tree.lookup? place

theorem OnlyCeilings.refl (tree : FileTree) : OnlyCeilings tree tree :=
  ⟨.refl tree, fun _ _ => rfl⟩

variable {settings : CeilingSettings} {processes : ProcessLookup}
  {tree later : FileTree}

theorem OnlyCeilings.directoryOf (only : OnlyCeilings tree later)
    (id : String) :
    settings.directoryOf processes later id =
      settings.directoryOf processes tree id := by
  have listed (pid : Nat) :
      later.readOrFault (cgroupListing settings.procRoot pid) =
        tree.readOrFault (cgroupListing settings.procRoot pid) := by
    unfold cgroupListing FileTree.readOrFault FileTree.readText
    rw [only.alike.resolve_joinPath plain_cgroup]
    intro place named
    apply only.others
    rw [named]
    decide
  unfold CeilingSettings.directoryOf cgroupDirectory
  simp only [listed]

theorem OnlyCeilings.ceilingPlace (only : OnlyCeilings tree later)
    (id : String) :
    settings.ceilingPlace processes later id =
      settings.ceilingPlace processes tree id := by
  unfold CeilingSettings.ceilingPlace
  simp only [only.directoryOf, only.alike.filePlace]

/-- The ceiling of a container of a pod, in bytes. -/
def ceilingOf (settings : CeilingSettings) (pod : Pod)
    (container : Container) : UInt64 :=
  settings.capacity.ceilingFor container
    (pod.goesWithoutSwap settings.excludedPrefixes)

/-- The decimal of the ceiling of a container of a pod. -/
def ceilingText (settings : CeilingSettings) (pod : Pod)
    (container : Container) : String :=
  toString (settings.ceilingOf pod container).toNat

/-- An attempt on a container of a pod, on some tree. -/
def attemptOn (settings : CeilingSettings) (processes : ProcessLookup)
    (tree : FileTree) (pod : Pod) (container : Container) (id : String) :
    AttemptResult × FileTree :=
  settings.attempt processes (pod.goesWithoutSwap settings.excludedPrefixes)
    tree container id

variable {pod : Pod} {container : Container} {id : String}

theorem attemptOn_of_place {place : Location}
    (leads : settings.ceilingPlace processes tree id = .ok place) :
    settings.attemptOn processes tree pod container id =
      (.wrote (settings.ceilingOf pod container),
        tree.withText place (settings.ceilingText pod container)) := by
  unfold ceilingPlace at leads
  unfold attemptOn attempt writeCeiling
  cases found : settings.directoryOf processes tree id with
  | error fault =>
      rw [found] at leads
      cases leads
  | ok directory =>
      cases file : tree.filePlace (FileTree.joinPath directory ceilingFile) with
      | error cause =>
          simp only [found, file] at leads
          cases leads
      | ok there =>
          simp only [found, file] at leads
          cases leads
          simp only [FileTree.overwrite_eq, file]
          rfl

theorem attemptOn_of_fault {fault : Fault}
    (fails : settings.ceilingPlace processes tree id = .error fault) :
    (settings.attemptOn processes tree pod container id).1.fault? =
        some fault ∧
      (settings.attemptOn processes tree pod container id).2 = tree := by
  unfold ceilingPlace at fails
  unfold attemptOn attempt writeCeiling
  cases found : settings.directoryOf processes tree id with
  | error cause =>
      simp only [found] at fails
      cases fails
      exact ⟨rfl, rfl⟩
  | ok directory =>
      cases file : tree.filePlace (FileTree.joinPath directory ceilingFile) with
      | error cause =>
          simp only [found, file] at fails
          cases fails
          simp only [FileTree.overwrite_eq, file]
          exact ⟨rfl, rfl⟩
      | ok there =>
          simp only [found, file] at fails
          cases fails

theorem OnlyCeilings.attemptOn (only : OnlyCeilings tree later) :
    (settings.attemptOn processes later pod container id).1 =
      (settings.attemptOn processes tree pod container id).1 := by
  unfold CeilingSettings.attemptOn attempt writeCeiling
  rw [only.directoryOf]
  cases settings.directoryOf processes tree id with
  | error fault => rfl
  | ok directory =>
      simp only [FileTree.overwrite_eq, only.alike.filePlace]
      cases tree.filePlace (FileTree.joinPath directory ceilingFile) with
      | error cause => rfl
      | ok place => rfl

theorem ceilingPlace_found {place : Location}
    (leads : settings.ceilingPlace processes tree id = .ok place) :
    place.getLast? = some ceilingFile ∧ place ≠ [] ∧
      (tree.lookup? place).map FileEntry.isDirectory = some false := by
  unfold ceilingPlace at leads
  split at leads
  · cases leads
  · dsimp only at leads
    split at leads
    · rename_i there file
      cases leads
      obtain ⟨entry, _, named, stands, isFile⟩ :=
        FileTree.resolve_of_filePlace plain_ceilingFile file
      refine ⟨named, ?_, by rw [stands, Option.map_some, isFile]⟩
      rintro rfl
      cases named
    · cases leads

/-- Whether an attempt under an id writes the ceiling at a place. -/
def writesAt (settings : CeilingSettings) (processes : ProcessLookup)
    (tree : FileTree) (place : Location) (id : String) : Bool :=
  match settings.ceilingPlace processes tree id with
  | .ok found => found == place
  | .error _ => false

theorem writesAt_iff {place : Location} :
    settings.writesAt processes tree place id = true ↔
      settings.ceilingPlace processes tree id = .ok place := by
  unfold writesAt
  cases settings.ceilingPlace processes tree id with
  | error fault => simp
  | ok found => simp

/-- An attempt changes what stands at the place of the ceiling, if there is
one, and nothing else. -/
theorem OnlyCeilings.lookup?_attemptOn (only : OnlyCeilings tree later)
    (place : Location) :
    (settings.attemptOn processes later pod container id).2.lookup? place =
      if settings.writesAt processes tree place id then
        some (.text (settings.ceilingText pod container))
      else later.lookup? place := by
  have sameAim : settings.ceilingPlace processes later id =
      settings.ceilingPlace processes tree id := only.ceilingPlace id
  unfold writesAt
  cases aim : settings.ceilingPlace processes tree id with
  | error fault =>
      rw [aim] at sameAim
      rw [(attemptOn_of_fault sameAim).2]
      rfl
  | ok found =>
      rw [aim] at sameAim
      have below : found ≠ [] := (ceilingPlace_found aim).2.1
      rw [attemptOn_of_place sameAim, FileTree.lookup?_withText below]
      simp

theorem OnlyCeilings.after_attempt (only : OnlyCeilings tree later) :
    OnlyCeilings tree
      (settings.attemptOn processes later pod container id).2 := by
  have sameAim : settings.ceilingPlace processes later id =
      settings.ceilingPlace processes tree id := only.ceilingPlace id
  cases aim : settings.ceilingPlace processes tree id with
  | error fault =>
      rw [aim] at sameAim
      rw [(attemptOn_of_fault sameAim).2]
      exact only
  | ok place =>
      rw [aim] at sameAim
      obtain ⟨named, below, isFile⟩ := ceilingPlace_found aim
      rw [attemptOn_of_place sameAim]
      constructor
      · apply only.alike.trans
        exact FileTree.alike_withText below
          ((only.alike.sameKinds place).trans isFile) _
      · intro other different
        rw [FileTree.lookup?_withText below, if_neg]
        · exact only.others other different
        · rintro rfl
          exact different named

end CeilingSettings

end SwapWarden
