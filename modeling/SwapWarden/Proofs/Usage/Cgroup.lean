import SwapWarden.Proofs.Memory.Listing
import SwapWarden.Proofs.Pod.CgroupPath
import SwapWarden.Usage.Cgroup

/-!
# What a cgroup tells

The files of a cgroup tell what it uses: its memory and its swap by a number
with nothing beside it, and the page cache that can be dropped by the last line
on it in a listing.  Swap and page cache that are not told count as nothing; a
cgroup that does not tell its memory is not measured.
-/

namespace SwapWarden.CgroupUsage

open FileTree (joinPath)
open Listing (LastTells NoneTells Reads)

/-- A file holds a number, with nothing but blanks around it. -/
def Counts (tree : FileTree) (path : String) (count : UInt64) : Prop :=
  ∃ text, tree.readText path = .ok text ∧
    Text.word64? (Text.trim text.toList) = some count

/-- A line tells a number under a name: they are its first two words. -/
def Tells (name : String) (line : List Char) (number : UInt64) : Prop :=
  ∃ word others, Text.words line = name.toList :: word :: others ∧
    Text.word64? word = some number

/-- The page cache of a cgroup that can be dropped is what the last line on it
tells, and nothing if no line does or there is no listing. -/
inductive Droppable (tree : FileTree) (directory : String) : UInt64 → Prop where
  | told {text : String} {bytes : UInt64}
      (listed : tree.readText (joinPath directory "memory.stat") = .ok text)
      (last : LastTells (Tells "inactive_file") (Text.lines text.toList)
        bytes) :
      Droppable tree directory bytes
  | untold {text : String}
      (listed : tree.readText (joinPath directory "memory.stat") = .ok text)
      (silent : NoneTells (Tells "inactive_file") (Text.lines text.toList)) :
      Droppable tree directory 0
  | unlisted {fault : FileFault}
      (unlisted : tree.readText (joinPath directory "memory.stat") =
        .error fault) :
      Droppable tree directory 0

/-- The swap of a cgroup is what its file holds, and nothing if that is no
number. -/
inductive Swapped (tree : FileTree) (directory : String) : UInt64 → Prop where
  | told {bytes : UInt64}
      (counts : Counts tree (joinPath directory "memory.swap.current") bytes) :
      Swapped tree directory bytes
  | untold
      (untold : ∀ bytes,
        ¬Counts tree (joinPath directory "memory.swap.current") bytes) :
      Swapped tree directory 0

/-- The bytes that a cgroup uses: its memory without the page cache that can be
dropped, and its swap, up to the largest word. -/
inductive Uses (tree : FileTree) (directory : String) : Nat → Prop where
  | intro {current cache swap : UInt64}
      (told : Counts tree (joinPath directory "memory.current") current)
      (droppable : Droppable tree directory cache)
      (swapped : Swapped tree directory swap) :
      Uses tree directory
        (min (current.toNat - cache.toNat + swap.toNat) (UInt64.size - 1))

variable {tree : FileTree} {directory path : String} {count bytes : UInt64}
  {usage : ContainerUsage}

theorem toOption_eq_some_iff {α : Type} {result : Except Fault α} {value : α} :
    result.toOption = some value ↔ result = .ok value := by
  cases result with
  | error fault => simp [Except.toOption]
  | ok found => simp [Except.toOption]

theorem readCount_eq_ok_iff :
    readCount tree path = .ok count ↔ Counts tree path count := by
  unfold readCount FileTree.readOrFault Counts
  cases tree.readText path with
  | error fault => simp [bind, Except.bind]
  | ok text =>
      cases read : Text.word64? (Text.trim text.toList) with
      | none => simp [bind, Except.bind, read]
      | some number => simp [bind, Except.bind, read]

theorem not_counts_iff :
    (∀ count, ¬Counts tree path count) ↔
      ∃ fault, readCount tree path = .error fault := by
  cases read : readCount tree path with
  | error fault =>
      refine iff_of_true ?_ ⟨fault, rfl⟩
      intro count counts
      rw [readCount_eq_ok_iff.mpr counts] at read
      cases read
  | ok count =>
      refine iff_of_false ?_ nofun
      intro untold
      exact untold count (readCount_eq_ok_iff.mp read)

/-! ## The page cache -/

/-- The number that a line holds under a name. -/
def valueUnder? (name : String) (line : List Char) : Option UInt64 := do
  let entry ← memoryStatEntry? line
  if entry.1 = name then some entry.2 else none

theorem get?_memoryStat (text name : String) :
    (memoryStat text).get? name =
      ((Text.lines text.toList).filterMap (valueUnder? name)).getLast? := by
  rw [memoryStat, Table.get?_ofList_eq_getLast?, List.filterMap_filterMap]
  rfl

theorem reads_valueUnder? (name : String) :
    Reads (valueUnder? name) (Tells name) id := by
  intro line result
  unfold valueUnder? memoryStatEntry?
  rw [Option.bind_eq_bind, Option.bind_eq_some_iff]
  constructor
  · rintro ⟨entry, held, same⟩
    split at held
    next first word others words =>
      obtain ⟨number, read, rfl⟩ := Option.map_eq_some_iff.mp held
      obtain ⟨rfl, told⟩ := Option.ite_none_right_eq_some.mp same
      exact ⟨number, ⟨word, others, by simpa using words, read⟩,
        Option.some.inj told⟩
    next => cases held
  · rintro ⟨number, ⟨word, others, words, read⟩, rfl⟩
    refine ⟨(name, number), ?_, if_pos rfl⟩
    simp only [words, read, Option.map_some, String.ofList_toList]

theorem droppable_iff :
    Droppable tree directory bytes ↔ inactiveFile tree directory = bytes := by
  have reads := reads_valueUnder? "inactive_file"
  unfold inactiveFile
  cases listed : tree.readText (joinPath directory "memory.stat") with
  | error fault =>
      constructor
      · intro droppable
        cases droppable with
        | told listed' _ =>
            rw [listed] at listed'
            cases listed'
        | untold listed' _ => rfl
        | unlisted _ => rfl
      · rintro rfl
        exact .unlisted listed
  | ok text =>
      dsimp only
      rw [get?_memoryStat]
      constructor
      · intro droppable
        cases droppable with
        | told listed' last =>
            obtain rfl := Except.ok.inj (listed.symm.trans listed')
            rw [reads.getLast?_eq_some_iff.mpr ⟨bytes, last, rfl⟩]
            rfl
        | untold listed' silent =>
            obtain rfl := Except.ok.inj (listed.symm.trans listed')
            rw [reads.getLast?_eq_none_iff.mpr silent]
            rfl
        | unlisted unlisted =>
            rw [listed] at unlisted
            cases unlisted
      · rintro rfl
        cases last : ((Text.lines text.toList).filterMap
            (valueUnder? "inactive_file")).getLast? with
        | none =>
            exact .untold listed (reads.getLast?_eq_none_iff.mp last)
        | some bytes =>
            obtain ⟨told, lastTells, rfl⟩ :=
              reads.getLast?_eq_some_iff.mp last
            exact .told listed lastTells

/-! ## The usage -/

/-- The swap that is read of a cgroup. -/
def swapOf (tree : FileTree) (directory : String) : UInt64 :=
  match readCount tree (joinPath directory "memory.swap.current") with
  | .ok swap => swap
  | .error _ => 0

theorem swapped_iff :
    Swapped tree directory bytes ↔ swapOf tree directory = bytes := by
  unfold swapOf
  cases read : readCount tree (joinPath directory "memory.swap.current") with
  | error fault =>
      have untold := not_counts_iff.mpr ⟨fault, read⟩
      constructor
      · intro swapped
        cases swapped with
        | told counts => exact absurd counts (untold bytes)
        | untold _ => rfl
      · rintro rfl
        exact .untold untold
  | ok swap =>
      have counts := readCount_eq_ok_iff.mp read
      constructor
      · intro swapped
        cases swapped with
        | told other =>
            rw [readCount_eq_ok_iff.mpr other] at read
            exact (Except.ok.inj read).symm
        | untold untold => exact absurd counts (untold swap)
      · rintro rfl
        exact .told counts

/-- The usage of a cgroup with some memory. -/
def usageWith (tree : FileTree) (directory : String) (current : UInt64) :
    ContainerUsage where
  workingSet := Word64.subFloored current (inactiveFile tree directory)
  swap := swapOf tree directory

theorem read_eq (tree : FileTree) (directory : String) :
    read tree directory =
      (readCount tree (joinPath directory "memory.current")).map
        (usageWith tree directory) := by
  unfold read
  cases readCount tree (joinPath directory "memory.current") with
  | error fault => rfl
  | ok current => rfl

theorem toNat_total_usageWith (tree : FileTree) (directory : String)
    (current : UInt64) :
    (usageWith tree directory current).total.toNat =
      min (current.toNat - (inactiveFile tree directory).toNat +
        (swapOf tree directory).toNat) (UInt64.size - 1) := by
  rw [ContainerUsage.total, Word64.toNat_addCapped, usageWith,
    Word64.toNat_subFloored]
  rfl

theorem read_eq_error_iff :
    (∃ fault, read tree directory = .error fault) ↔
      ∀ count,
        ¬Counts tree (joinPath directory "memory.current") count := by
  rw [not_counts_iff, read_eq]
  cases readCount tree (joinPath directory "memory.current") with
  | error fault => simp [Except.map]
  | ok current => simp [Except.map]

theorem uses_iff {amount : Nat} :
    Uses tree directory amount ↔
      ∃ usage, read tree directory = .ok usage ∧
        usage.total.toNat = amount := by
  rw [read_eq]
  constructor
  · rintro ⟨told, droppable, swapped⟩
    obtain rfl := droppable_iff.mp droppable
    obtain rfl := swapped_iff.mp swapped
    rw [readCount_eq_ok_iff.mpr told]
    exact ⟨_, rfl, toNat_total_usageWith tree directory _⟩
  · rintro ⟨usage, known, rfl⟩
    cases told : readCount tree (joinPath directory "memory.current") with
    | error fault =>
        rw [told] at known
        cases known
    | ok current =>
        rw [told] at known
        cases known
        rw [toNat_total_usageWith]
        exact .intro (readCount_eq_ok_iff.mp told) (droppable_iff.mpr rfl)
          (swapped_iff.mpr rfl)

end SwapWarden.CgroupUsage
