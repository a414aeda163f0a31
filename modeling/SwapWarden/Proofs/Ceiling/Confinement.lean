import SwapWarden.Proofs.Ceiling.Reconcile
import SwapWarden.Proofs.FileTree.Lexical

/-!
# Where ceilings are written

The directory of a process is where the path that it lists leads from the root
of the cgroups, and a ceiling is written in such a directory or nowhere.  The
path is taken as it stands, so the directory lies below the root exactly when
the path comes back to it whenever it climbs above it.
-/

namespace SwapWarden

/-- The path that a process lists for its unified cgroup. -/
def listedPath? (tree : FileTree) (procRoot : String) (pid : Nat) :
    Option String :=
  match tree.readOrFault (cgroupListing procRoot pid) with
  | .ok text => unifiedPath? text
  | .error _ => none

/-- A path leads to a place below where another one leads, or to the same. -/
def IsBelow (root path : String) : Prop :=
  FileTree.lexicalPlace root <+: FileTree.lexicalPlace path

instance (root path : String) : Decidable (IsBelow root path) :=
  inferInstanceAs (Decidable (_ <+: _))

variable {tree : FileTree} {procRoot cgroupRoot directory : String} {pid : Nat}

theorem head?_trimStart_ne (text : List Char) :
    (String.ofList (Text.trimStart (· == '/') text)).toList.head? ≠
      some '/' := by
  intro cut
  have stop := List.head?_dropWhile_not (· == '/') text
  rw [String.toList_ofList, Text.trimStart] at cut
  rw [cut] at stop
  cases stop

theorem cgroupDirectory_eq_ok_iff :
    cgroupDirectory tree procRoot cgroupRoot pid = .ok directory ↔
      ∃ path, listedPath? tree procRoot pid = some path ∧
        FileTree.joinPath cgroupRoot (String.ofList
          (Text.trimStart (· == '/') path.toList)) = directory := by
  unfold cgroupDirectory listedPath?
  dsimp only
  cases tree.readOrFault (cgroupListing procRoot pid) with
  | error fault => simp [bind, Except.bind]
  | ok text =>
      cases listed : unifiedPath? text with
      | none => simp [bind, Except.bind, listed]
      | some path => simp [bind, Except.bind, listed]

theorem exists_listedPath
    (found : cgroupDirectory tree procRoot cgroupRoot pid = .ok directory) :
    ∃ path, listedPath? tree procRoot pid = some path ∧
      FileTree.lexicalPlace directory =
        FileTree.lexical (FileTree.lexicalPlace cgroupRoot)
          (FileTree.pathNames path) := by
  obtain ⟨path, listed, rfl⟩ := cgroupDirectory_eq_ok_iff.mp found
  refine ⟨path, listed, ?_⟩
  rw [FileTree.lexicalPlace_joinPath _ (head?_trimStart_ne _),
    FileTree.lexical_trimStart, String.ofList_toList]

theorem isBelow_iff_returns {path : String}
    (leads : FileTree.lexicalPlace directory =
      FileTree.lexical (FileTree.lexicalPlace cgroupRoot)
        (FileTree.pathNames path)) :
    IsBelow cgroupRoot directory ↔
      FileTree.Returns (FileTree.lexicalPlace cgroupRoot)
        (FileTree.pathNames path) := by
  unfold IsBelow
  rw [leads]
  exact FileTree.isPrefix_lexical_iff _ _

theorem lexicalPlace_ceiling (directory : String) :
    FileTree.lexicalPlace (FileTree.joinPath directory ceilingFile) =
      FileTree.lexicalPlace directory ++ [ceilingFile] := by
  rw [FileTree.lexicalPlace_joinPath _ plain_ceilingFile.head?]
  rfl

namespace CeilingSettings

variable {settings : CeilingSettings} {processes : ProcessLookup}
  {pod : Pod} {id : String} {place : Location}

theorem exists_directory_of_ceilingPlace
    (leads : settings.ceilingPlace processes tree id = .ok place) :
    ∃ pid directory, processes id = .ok pid ∧
      cgroupDirectory tree settings.procRoot settings.cgroupRoot pid =
        .ok directory ∧
      place = FileTree.lexicalPlace directory ++ [ceilingFile] := by
  unfold ceilingPlace directoryOf at leads
  cases process : processes id with
  | error fault =>
      rw [process] at leads
      cases leads
  | ok pid =>
      simp only [process, bind, Except.bind] at leads
      split at leads
      · cases leads
      · rename_i directory found
        refine ⟨pid, directory, rfl, found, ?_⟩
        split at leads
        · rename_i there file
          cases leads
          rw [← lexicalPlace_ceiling]
          exact FileTree.lexicalPlace_of_filePlace file
        · cases leads

/-- What reconciling a pod changes is the ceiling of an attempt. -/
theorem exists_attempt_of_changed
    (changed : (settings.reconcilePod processes tree pod).tree.lookup? place ≠
      tree.lookup? place) :
    ∃ attempt ∈ pod.attempted,
      settings.ceilingPlace processes tree attempt.2 = .ok place := by
  apply Classical.byContradiction
  intro unaimed
  apply changed
  have progress := progress_reconcilePod settings processes tree pod
  rw [progress.lookup?_eq, lastAt_of_none]
  intro attempt member leads
  exact unaimed ⟨attempt, member, leads⟩

/-- The directory of a process lies below the root of the cgroups exactly when
the path that it lists comes back to the root, as it does if it never climbs
above its start.  Whenever a ceiling is opened, it is right in its directory,
and nothing is changed but ceilings in the directories of the containers
attempted. -/
theorem ceilings_below_root (settings : CeilingSettings)
    (processes : ProcessLookup) (tree : FileTree) :
    (∀ pid directory,
      cgroupDirectory tree settings.procRoot settings.cgroupRoot pid =
        .ok directory →
      ∃ path, listedPath? tree settings.procRoot pid = some path ∧
        (IsBelow settings.cgroupRoot directory ↔
          FileTree.Returns (FileTree.lexicalPlace settings.cgroupRoot)
            (FileTree.pathNames path)) ∧
        (FileTree.climb (FileTree.pathNames path) = 0 →
          IsBelow settings.cgroupRoot directory)) ∧
    (∀ (later : FileTree) directory place entry,
      later.resolve (FileTree.joinPath directory ceilingFile) =
        .ok (place, entry) →
      place = FileTree.lexicalPlace directory ++ [ceilingFile] ∧
        (IsBelow settings.cgroupRoot directory →
          FileTree.lexicalPlace settings.cgroupRoot <+: place)) ∧
    ∀ cached place,
      (settings.reconcile processes tree cached).tree.lookup? place ≠
        tree.lookup? place →
      ∃ pod ∈ cached, ∃ attempt ∈ pod.attempted, ∃ pid directory,
        processes attempt.2 = .ok pid ∧
        cgroupDirectory tree settings.procRoot settings.cgroupRoot pid =
          .ok directory ∧
        place = FileTree.lexicalPlace directory ++ [ceilingFile] := by
  refine ⟨?_, ?_, ?_⟩
  · intro pid directory found
    obtain ⟨path, listed, leads⟩ := exists_listedPath found
    have below := isBelow_iff_returns leads
    refine ⟨path, listed, below, ?_⟩
    intro stays
    exact below.mpr (FileTree.returns_of_climb_eq_zero stays)
  · intro later directory place entry opened
    obtain rfl := FileTree.lexicalPlace_of_resolve opened
    rw [lexicalPlace_ceiling]
    exact ⟨rfl, fun below => below.trans (List.prefix_append _ _)⟩
  · intro cached place changed
    cases cached with
    | none => exact absurd rfl changed
    | some pod =>
        obtain ⟨attempt, member, aim⟩ := exists_attempt_of_changed changed
        obtain ⟨pid, directory, process, found, there⟩ :=
          exists_directory_of_ceilingPlace aim
        exact ⟨pod, rfl, attempt, member, pid, directory, process, found, there⟩

/-- A process with a listing, and two directories that it may be taken to. -/
def listingTree (listing : String) : FileTree where
  entries := Table.ofList [
    (["proc"], .directory), (["proc", "7"], .directory),
    (["proc", "7", "cgroup"], .text listing),
    (["cgroup"], .directory), (["cgroup", "a"], .directory),
    (["cgroup", "a", "memory.swap.max"], .text "max"),
    (["a"], .directory), (["a", "memory.swap.max"], .text "max")]

def listingSettings : CeilingSettings where
  procRoot := "/proc"
  cgroupRoot := "/cgroup"

/-- A listed path without climbing leads below the root. -/
theorem ceilings_below_root_listed :
    cgroupDirectory (listingTree "0::/a\n") "/proc" "/cgroup" 7 =
        .ok "/cgroup/a" ∧ IsBelow "/cgroup" "/cgroup/a" := by
  have path : listedPath? (listingTree "0::/a\n") "/proc" 7 = some "/a" := by
    unfold listedPath? FileTree.readOrFault FileTree.readText FileTree.resolve
    simp only [String.contains_char_eq]
    decide +kernel
  have found : cgroupDirectory (listingTree "0::/a\n") "/proc" "/cgroup" 7 =
      .ok "/cgroup/a" :=
    cgroupDirectory_eq_ok_iff.mpr ⟨"/a", path, by decide +kernel⟩
  refine ⟨found, ?_⟩
  obtain ⟨other, listed, _, stays⟩ := (ceilings_below_root listingSettings
    (fun _ => .ok 7) (listingTree "0::/a\n")).1 7 "/cgroup/a" found
  obtain rfl : "/a" = other := Option.some.inj (path.symm.trans listed)
  exact stays (by decide)

def listingPod : Pod where
  spec := some { containers := [{ name := "app" }] }
  status := some {
    containerStatuses := some [{
      name := "app"
      containerId := some "cri-o://id"
      state := some { running := true } }] }

theorem directory_climbing :
    cgroupDirectory (listingTree "0::/../a\n") "/proc" "/cgroup" 7 =
      .ok "/cgroup/../a" := by
  refine cgroupDirectory_eq_ok_iff.mpr ⟨"/../a", ?_, by decide +kernel⟩
  unfold listedPath? FileTree.readOrFault FileTree.readText FileTree.resolve
  simp only [String.contains_char_eq]
  decide +kernel

theorem ceilingPlace_climbing :
    listingSettings.ceilingPlace (fun _ => .ok 7)
      (listingTree "0::/../a\n") "id" = .ok ["a", "memory.swap.max"] := by
  have joined : FileTree.joinPath "/cgroup/../a" ceilingFile =
      "/cgroup/../a/memory.swap.max" := by decide +kernel
  have text : "/cgroup/../a/memory.swap.max".contains '\x00' = false := by
    simp [String.contains_char_eq]
  have file : (listingTree "0::/../a\n").filePlace
      "/cgroup/../a/memory.swap.max" = .ok ["a", "memory.swap.max"] := by
    rw [FileTree.filePlace, FileTree.resolve, text]
    rfl
  simp only [ceilingPlace, directoryOf, bind, Except.bind]
  rw [listingSettings, directory_climbing]
  simp only [joined, file]

/-- A listed path that climbs leads outside of the root, and a ceiling is
written there. -/
theorem ceiling_outside_root :
    cgroupDirectory (listingTree "0::/../a\n") "/proc" "/cgroup" 7 =
        .ok "/cgroup/../a" ∧
      ¬ IsBelow "/cgroup" "/cgroup/../a" ∧
      (listingSettings.reconcile (fun _ => .ok 7) (listingTree "0::/../a\n")
          (some listingPod)).tree.lookup? ["a", "memory.swap.max"] =
        some (.text "0") := by
  refine ⟨directory_climbing, by decide, ?_⟩
  have attempted : listingPod.attempted =
      [] ++ ({ name := "app" }, "id") :: [] := rfl
  have policy := (progress_reconcilePod listingSettings (fun _ => .ok 7)
    (listingTree "0::/../a\n") listingPod).meetsPolicy
  have nothing : listingSettings.ceilingText listingPod { name := "app" } =
      "0" := rfl
  rw [← nothing]
  exact (policy.written [] _ "id" [] _ attempted ceilingPlace_climbing
    (by simp)).1

end CeilingSettings

end SwapWarden
