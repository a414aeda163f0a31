import SwapWarden.Fault
import SwapWarden.Table
import SwapWarden.Text.Blank

/-!
# File trees

A tree of directories and files, addressed by paths with `/` between their
names.  A path is walked one name at a time from the top: `.` and an empty
name stay, `..` goes up, and each name but the last must lead to a directory.
Above the top there is the top again.  No name is longer than 255 bytes, no path
is longer than the tree allows, whatever it leads to, and none holds a NUL.
-/

namespace SwapWarden

/-- What stands at a place of a tree.  The bytes of a binary file are no text.
-/
inductive FileEntry where
  | directory
  | text (content : String)
  | binary
  deriving DecidableEq, Repr, Inhabited

/-- A place below the top of a tree: the names on the way to it. -/
abbrev Location := List String

/-- Directories and files by their places, and the most bytes that a path may
have. -/
structure FileTree where
  entries : Table Location FileEntry := Table.empty
  longestPath : Nat := 4095
  deriving Inhabited

namespace FileTree

/-- A path with another one appended. -/
def joinPath (base relative : String) : String :=
  if relative.startsWith "/" then relative
  else if base.isEmpty || base.endsWith "/" then base ++ relative
  else base ++ "/" ++ relative

/-- The names of a path. -/
def pathNames (path : String) : List String :=
  (Text.splitAt (· == '/') path.toList).map String.ofList

/-- What stands at a place. -/
def lookup? (tree : FileTree) (place : Location) : Option FileEntry :=
  if place.isEmpty then some .directory else tree.entries.get? place

/-- The most bytes that a name may have. -/
def longestName : Nat := 255

/-- The place that the names lead to from a place at which `entry` stands. -/
def walk (tree : FileTree) (here : Location) (entry : FileEntry) :
    List String → Except FileFault (Location × FileEntry)
  | [] => .ok (here, entry)
  | name :: rest =>
      if entry = .directory then
        if name == "" || name == "." then
          walk tree here entry rest
        else if name == ".." then
          walk tree here.dropLast .directory rest
        else if longestName < name.utf8ByteSize then
          .error .nameTooLong
        else
          match tree.lookup? (here ++ [name]) with
          | some below => walk tree (here ++ [name]) below rest
          | none => .error .notFound
      else
        .error .notADirectory

/-- The place that a path leads to. -/
def resolve (tree : FileTree) (path : String) :
    Except FileFault (Location × FileEntry) :=
  if path.contains '\x00' then .error .nulInPath
  else if tree.longestPath < path.utf8ByteSize then .error .nameTooLong
  else tree.walk [] .directory (pathNames path)

/-- Whether anything stands at a path. -/
def holds (tree : FileTree) (path : String) : Bool :=
  match tree.resolve path with
  | .ok _ => true
  | .error _ => false

/-- The text of the file at a path. -/
def readText (tree : FileTree) (path : String) : Except FileFault String :=
  match tree.resolve path with
  | .ok (_, .text content) => .ok content
  | .ok (_, .binary) => .error .notText
  | .ok (_, .directory) => .error .isADirectory
  | .error fault => .error fault

/-- Replaces the content of the file at a path; a missing file is not made. -/
def overwrite (tree : FileTree) (path content : String) :
    Except FileFault FileTree :=
  match tree.resolve path with
  | .ok (_, .directory) => .error .isADirectory
  | .ok (place, _) =>
      .ok { tree with entries := tree.entries.put place (.text content) }
  | .error fault => .error fault

/-- The directories on the way to a place. -/
def parents (place : Location) : List Location :=
  (List.range place.length).filterMap (fun count =>
    if count = 0 then none else some (place.take count))

/-- Puts something at a place and makes the directories on the way to it. -/
def put (tree : FileTree) (place : Location) (entry : FileEntry) : FileTree :=
  let withParents := (parents place).foldl (fun entries parent =>
    match entries.get? parent with
    | some _ => entries
    | none => entries.put parent .directory) tree.entries
  { tree with
    entries :=
      if place.isEmpty then withParents else withParents.put place entry }

/-- Removes what stands at a place and everything below it. -/
def remove (tree : FileTree) (place : Location) : FileTree :=
  { tree with
    entries := ⟨tree.entries.entries.filter
      (fun entry => !place.isPrefixOf entry.1)⟩ }

/-- The texts of the files of one name below a place, by the rest of the path
to their directories. -/
def textsNamed (tree : FileTree) (top : Location) (name : String) :
    List (String × String) :=
  tree.entries.entries.filterMap (fun entry =>
    if top.isPrefixOf entry.1 && entry.1.length > top.length &&
        entry.1.getLast? == some name then
      match entry.2 with
      | .text content =>
          some (String.intercalate "/"
            (entry.1.dropLast.drop top.length), content)
      | _ => none
    else
      none)

end FileTree

end SwapWarden
