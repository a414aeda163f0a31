import SwapWarden.FileTree.Basic
import SwapWarden.Text.Hex
import SwapWarden.Text.Json.Access

/-!
# File trees as documents

A tree is handed over as an object with a member for each path: the text of a
file, an object with its bytes in hexadecimal, or `null` for a directory.
-/

namespace SwapWarden

open Text (Json)

namespace FileEntry

/-- The file with the given bytes. -/
def ofBytes (bytes : List UInt8) : FileEntry :=
  match String.fromUTF8? (ByteArray.mk bytes.toArray) with
  | some content => .text content
  | none => .binary

def ofDocument : Json → FileEntry
  | .null => .directory
  | .string (some content) => .text content
  | value => .ofBytes (Text.bytesOfHex (value.textAt "hex"))

end FileEntry

namespace FileTree

/-- The place of a path below a place. -/
def placeBelow (top : Location) (path : String) : Location :=
  top ++ (pathNames path).filter (fun name => name != "" && name != ".")

/-- Puts an entry at a path below a place. -/
def putBelow (tree : FileTree) (top : Location) (path : String)
    (value : Json) : FileTree :=
  tree.put (placeBelow top path) (.ofDocument value)

/-- Puts all entries of a document below a place, which becomes a directory.
-/
def mount (tree : FileTree) (top : Location) (value : Json) : FileTree :=
  value.entries.foldl (fun tree entry => tree.putBelow top entry.1 entry.2)
    (tree.put top .directory)

end FileTree

end SwapWarden
