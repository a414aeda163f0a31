import SwapWarden.FileTree.Basic

/-!
# What overwriting a file changes

Overwriting changes the text of one file and nothing else.  No place comes or
goes and none becomes a directory or ceases to be one, so every path leads
where it led before.
-/

namespace SwapWarden

namespace Text

variable {cut : Char → Bool}

theorem splitAt_ne_nil (text : List Char) : splitAt cut text ≠ [] := by
  cases text with
  | nil => simp [splitAt]
  | cons char rest =>
      unfold splitAt
      split
      · simp
      · split
        · simp
        · simp

theorem splitAt_cut {char : Char} (cuts : cut char = true)
    (front rest : List Char) :
    splitAt cut (front ++ char :: rest) =
      splitAt cut front ++ splitAt cut rest := by
  induction front with
  | nil => simp [splitAt, cuts]
  | cons first front induction =>
      by_cases here : cut first = true
      · simp [splitAt, here, induction]
      · simp only [List.cons_append, splitAt, here, induction]
        cases pieces : splitAt cut front with
        | nil => exact absurd pieces (splitAt_ne_nil front)
        | cons piece pieces => rfl

theorem splitAt_uncut {text : List Char}
    (uncut : ∀ char ∈ text, cut char = false) : splitAt cut text = [text] := by
  induction text with
  | nil => rfl
  | cons char rest induction =>
      have head := uncut char List.mem_cons_self
      have tail := induction fun other member =>
        uncut other (List.mem_cons_of_mem _ member)
      simp [splitAt, head, tail]

end Text

namespace FileTree

/-! ## The last name of a path -/

/-- A name that leads to something of that name. -/
structure PlainName (name : String) : Prop where
  uncut : '/' ∉ name.toList
  notEmpty : name ≠ ""
  notHere : name ≠ "."
  notUp : name ≠ ".."

theorem PlainName.splitAt {name : String} (plain : PlainName name) :
    Text.splitAt (· == '/') name.toList = [name.toList] := by
  apply Text.splitAt_uncut
  intro char member
  have different : char ≠ '/' := by
    rintro rfl
    exact plain.uncut member
  simpa using different

theorem not_startsWith_of_head? {path : String}
    (relative : path.toList.head? ≠ some '/') :
    ¬ path.startsWith "/" = true := by
  intro starts
  have heads := String.Slice.startsWith_string_iff.mp starts
  obtain ⟨rest, inside⟩ : ['/'] <+: path.toList := by simpa using heads
  rw [← inside] at relative
  exact relative rfl

theorem pathNames_joinPath_relative (base : String) {path : String}
    (relative : path.toList.head? ≠ some '/') :
    ∃ before, pathNames (joinPath base path) = before ++ pathNames path ∧
      (pathNames base = before ∨ pathNames base = before ++ [""]) := by
  unfold joinPath
  rw [if_neg (not_startsWith_of_head? relative)]
  split
  · rename_i bare
    rcases Bool.or_eq_true_iff.mp bare with empty | closed
    · have nothing : base = "" := by simpa using empty
      subst nothing
      exact ⟨[], by rw [String.empty_append, List.nil_append], .inr rfl⟩
    · have tails := String.Slice.endsWith_string_iff.mp closed
      obtain ⟨front, ends⟩ : ['/'] <:+ base.toList := by simpa using tails
      refine ⟨(Text.splitAt (· == '/') front).map String.ofList, ?_, .inr ?_⟩
      · rw [pathNames, String.toList_append, ← ends, List.append_assoc,
          List.singleton_append, Text.splitAt_cut rfl, List.map_append]
        rfl
      · rw [pathNames, ← ends, Text.splitAt_cut rfl, List.map_append]
        rfl
  · refine ⟨pathNames base, ?_, .inl rfl⟩
    rw [pathNames, String.toList_append, String.toList_append,
      List.append_assoc]
    change (Text.splitAt _ (base.toList ++ '/' :: path.toList)).map _ = _
    rw [Text.splitAt_cut rfl, List.map_append]
    rfl

theorem PlainName.head? {name : String} (plain : PlainName name) :
    name.toList.head? ≠ some '/' := by
  intro starts
  exact plain.uncut (List.mem_of_head? starts)

theorem pathNames_joinPath (base : String) {name : String}
    (plain : PlainName name) :
    ∃ before, pathNames (joinPath base name) = before ++ [name] := by
  obtain ⟨before, names, _⟩ := pathNames_joinPath_relative base plain.head?
  refine ⟨before, ?_⟩
  rw [names, pathNames, plain.splitAt]
  simp

theorem of_walk_plain {tree : FileTree} {here : Location} {entry : FileEntry}
    {name : String} {rest : List String} {found : Location × FileEntry}
    (plain : PlainName name)
    (leads : tree.walk here entry (name :: rest) = .ok found) :
    ∃ below, tree.lookup? (here ++ [name]) = some below ∧
      tree.walk (here ++ [name]) below rest = .ok found := by
  unfold walk at leads
  split at leads
  · split at leads
    · rename_i stays
      simp [plain.notEmpty, plain.notHere] at stays
    · split at leads
      · rename_i rises
        simp [plain.notUp] at rises
      · split at leads
        · cases leads
        · split at leads
          · rename_i below stands
            exact ⟨below, stands, leads⟩
          · cases leads
  · cases leads

theorem walk_last {tree : FileTree} {here place : Location}
    {entry found : FileEntry} {before : List String} {name : String}
    (plain : PlainName name)
    (leads : tree.walk here entry (before ++ [name]) = .ok (place, found)) :
    place.getLast? = some name ∧ tree.lookup? place = some found := by
  induction before generalizing here entry with
  | nil =>
      obtain ⟨below, stands, leads⟩ := of_walk_plain plain leads
      cases leads
      exact ⟨List.getLast?_concat, stands⟩
  | cons first before induction =>
      rw [List.cons_append, walk] at leads
      split at leads
      · split at leads
        · exact induction leads
        · split at leads
          · exact induction leads
          · split at leads
            · cases leads
            · split at leads
              · exact induction leads
              · cases leads
      · cases leads

theorem resolve_joinPath {tree : FileTree} {base name : String}
    {place : Location} {found : FileEntry} (plain : PlainName name)
    (leads : tree.resolve (joinPath base name) = .ok (place, found)) :
    place.getLast? = some name ∧ tree.lookup? place = some found := by
  obtain ⟨before, names⟩ := pathNames_joinPath base plain
  unfold resolve at leads
  rw [names] at leads
  split at leads
  · cases leads
  · split at leads
    · cases leads
    · exact walk_last plain leads

/-! ## Trees with the same places -/

end FileTree

def FileEntry.isDirectory : FileEntry → Bool
  | .directory => true
  | _ => false

theorem FileEntry.isDirectory_iff (entry : FileEntry) :
    entry.isDirectory = true ↔ entry = .directory := by
  cases entry with
  | directory => simp [isDirectory]
  | text content => simp [isDirectory]
  | binary => simp [isDirectory]

namespace FileTree

/-- Trees with the same places, and the same directories among them. -/
structure Alike (tree other : FileTree) : Prop where
  sameLimit : other.longestPath = tree.longestPath
  sameKinds : ∀ place, (other.lookup? place).map FileEntry.isDirectory =
    (tree.lookup? place).map FileEntry.isDirectory

theorem Alike.refl (tree : FileTree) : Alike tree tree := ⟨rfl, fun _ => rfl⟩

theorem Alike.trans {first second third : FileTree}
    (before : Alike first second) (after : Alike second third) :
    Alike first third := by
  constructor
  · exact after.sameLimit.trans before.sameLimit
  · intro place
    exact (after.sameKinds place).trans (before.sameKinds place)

/-- Where a path leads, and whether a directory is there. -/
def kindAt (found : Location × FileEntry) : Location × Bool :=
  (found.1, found.2.isDirectory)

theorem Alike.walk {tree other : FileTree} (alike : Alike tree other)
    (names : List String) {here : Location} {entry changed : FileEntry}
    (sameKind : changed.isDirectory = entry.isDirectory) :
    (other.walk here changed names).map kindAt =
      (tree.walk here entry names).map kindAt := by
  induction names generalizing here entry changed with
  | nil => simp [FileTree.walk, Except.map, kindAt, sameKind]
  | cons name rest induction =>
      unfold FileTree.walk
      by_cases opens : entry = .directory
      · have opensToo : changed = .directory := by
          rw [← FileEntry.isDirectory_iff, sameKind,
            FileEntry.isDirectory_iff]
          exact opens
        rw [if_pos opens, if_pos opensToo]
        split
        · exact induction sameKind
        · split
          · exact induction rfl
          · split
            · rfl
            · have kinds := alike.sameKinds (here ++ [name])
              cases stands : tree.lookup? (here ++ [name]) with
              | none =>
                  have missing : other.lookup? (here ++ [name]) = none := by
                    simpa [stands] using kinds
                  rw [missing]
              | some below =>
                  obtain ⟨found, standsToo, same⟩ :
                      ∃ found, other.lookup? (here ++ [name]) = some found ∧
                        found.isDirectory = below.isDirectory := by
                    simpa [stands] using kinds
                  rw [standsToo]
                  exact induction same
      · have closedToo : changed ≠ .directory := by
          intro opensToo
          rw [← FileEntry.isDirectory_iff, sameKind,
            FileEntry.isDirectory_iff] at opensToo
          exact opens opensToo
        rw [if_neg opens, if_neg closedToo]

theorem Alike.resolve {tree other : FileTree} (alike : Alike tree other)
    (path : String) :
    (other.resolve path).map kindAt = (tree.resolve path).map kindAt := by
  unfold FileTree.resolve
  rw [alike.sameLimit]
  split
  · rfl
  · split
    · rfl
    · exact alike.walk (pathNames path) rfl

/-- The place of the file at a path. -/
def filePlace (tree : FileTree) (path : String) : Except FileFault Location :=
  match tree.resolve path with
  | .ok (place, entry) =>
      if entry.isDirectory then .error .isADirectory else .ok place
  | .error fault => .error fault

/-- A tree with another text at a place. -/
def withText (tree : FileTree) (place : Location) (content : String) :
    FileTree :=
  { tree with entries := tree.entries.put place (.text content) }

theorem overwrite_eq (tree : FileTree) (path content : String) :
    tree.overwrite path content =
      (tree.filePlace path).map fun place => tree.withText place content := by
  unfold overwrite filePlace
  cases tree.resolve path with
  | error fault => rfl
  | ok found =>
      obtain ⟨place, entry⟩ := found
      cases entry with
      | directory => rfl
      | text old => rfl
      | binary => rfl

theorem filePlace_eq (tree : FileTree) (path : String) :
    tree.filePlace path =
      match (tree.resolve path).map kindAt with
      | .ok (place, isDirectory) =>
          if isDirectory then .error .isADirectory else .ok place
      | .error fault => .error fault := by
  unfold filePlace
  cases tree.resolve path with
  | error fault => rfl
  | ok found => rfl

theorem Alike.filePlace {tree other : FileTree} (alike : Alike tree other)
    (path : String) : other.filePlace path = tree.filePlace path := by
  rw [filePlace_eq, filePlace_eq, alike.resolve]

theorem resolve_of_filePlace {tree : FileTree} {base name : String}
    {place : Location} (plain : PlainName name)
    (leads : tree.filePlace (joinPath base name) = .ok place) :
    ∃ entry, tree.resolve (joinPath base name) = .ok (place, entry) ∧
      place.getLast? = some name ∧ tree.lookup? place = some entry ∧
      entry.isDirectory = false := by
  unfold FileTree.filePlace at leads
  split at leads
  · rename_i there entry found
    split at leads
    · cases leads
    · rename_i isFile
      cases leads
      obtain ⟨named, stands⟩ := resolve_joinPath plain found
      exact ⟨entry, found, named, stands, by simpa using isFile⟩
  · cases leads

theorem lookup?_withText {place : Location} (below : place ≠ [])
    (tree : FileTree) (content : String) (other : Location) :
    (tree.withText place content).lookup? other =
      if place = other then some (.text content) else tree.lookup? other := by
  unfold lookup? withText
  split
  · rename_i top
    have different : place ≠ other := by
      rintro rfl
      exact below (by simpa using top)
    rw [if_neg different]
  · exact Table.get?_put ..

theorem alike_withText {tree : FileTree} {place : Location}
    (below : place ≠ [])
    (isFile : (tree.lookup? place).map FileEntry.isDirectory = some false)
    (content : String) : Alike tree (tree.withText place content) := by
  constructor
  · rfl
  · intro other
    rw [lookup?_withText below]
    split
    · rename_i same
      rw [← same, isFile]
      rfl
    · rfl

/-- Paths that end with a plain name lead to the same in trees that agree at
all places of that name. -/
theorem Alike.resolve_joinPath {tree other : FileTree}
    (alike : Alike tree other) {base name : String} (plain : PlainName name)
    (agree : ∀ place, place.getLast? = some name →
      other.lookup? place = tree.lookup? place) :
    other.resolve (joinPath base name) = tree.resolve (joinPath base name) := by
  have same := alike.resolve (joinPath base name)
  cases leads : tree.resolve (joinPath base name) with
  | error fault =>
      rw [leads] at same
      cases leadsToo : other.resolve (joinPath base name) with
      | error otherFault =>
          rw [leadsToo] at same
          simpa [Except.map] using same
      | ok found =>
          rw [leadsToo] at same
          cases same
  | ok found =>
      rw [leads] at same
      cases leadsToo : other.resolve (joinPath base name) with
      | error otherFault =>
          rw [leadsToo] at same
          cases same
      | ok otherFound =>
          obtain ⟨place, entry⟩ := found
          obtain ⟨otherPlace, otherEntry⟩ := otherFound
          obtain ⟨named, stands⟩ := FileTree.resolve_joinPath plain leads
          obtain ⟨_, standsToo⟩ := FileTree.resolve_joinPath plain leadsToo
          rw [leadsToo] at same
          obtain ⟨rfl, _⟩ : otherPlace = place ∧
              otherEntry.isDirectory = entry.isDirectory := by
            simpa [Except.map, kindAt] using same
          rw [agree otherPlace named, stands] at standsToo
          cases standsToo
          rfl

theorem readText_of_filePlace {tree : FileTree} {base name content : String}
    {place : Location} (plain : PlainName name)
    (leads : tree.filePlace (joinPath base name) = .ok place)
    (stands : tree.lookup? place = some (.text content)) :
    tree.readText (joinPath base name) = .ok content := by
  obtain ⟨entry, found, _, standsThere, _⟩ := resolve_of_filePlace plain leads
  rw [stands] at standsThere
  cases standsThere
  unfold FileTree.readText
  rw [found]

end FileTree

end SwapWarden
