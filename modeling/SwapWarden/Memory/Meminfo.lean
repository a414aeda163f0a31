import SwapWarden.Fault
import SwapWarden.Table
import SwapWarden.Text.Blank
import SwapWarden.Text.Numeral
import SwapWarden.Word64

/-!
# Memory totals of a node

The kernel lists them one to a line: a key, a colon and a number of kibibytes.
Lines of another form do not count, and of several lines with one key the last
counts.
-/

namespace SwapWarden

/-- Memory and swap of a node, in bytes. -/
structure Meminfo where
  memTotal : UInt64 := 0
  memFree : UInt64 := 0
  memAvailable : UInt64 := 0
  inactiveFile : UInt64 := 0
  swapTotal : UInt64 := 0
  swapFree : UInt64 := 0
  deriving DecidableEq, Repr, Inhabited

namespace Meminfo

def swapUsed (info : Meminfo) : UInt64 :=
  Word64.subFloored info.swapTotal info.swapFree

/-- Memory in use without the page cache that can be dropped. -/
def workingSet (info : Meminfo) : UInt64 :=
  Word64.subFloored (Word64.subFloored info.memTotal info.memFree)
    info.inactiveFile

/-- The key of a line and its bytes. -/
def lineEntry? (line : List Char) : Option (List Char × UInt64) :=
  match Text.splitOnce? [':'] line with
  | some (key, rest) =>
      match Text.words rest with
      | word :: _ =>
          (Text.word64? word).map (fun value => (Text.trim key, value * 1024))
      | [] => none
  | none => none

/-- The bytes by key. -/
def table (text : String) : Table (List Char) UInt64 :=
  Table.ofList ((Text.lines text.toList).filterMap lineEntry?)

/-- The bytes under a key that must be there. -/
def required (table : Table (List Char) UInt64) (key : String) :
    Except Fault UInt64 :=
  match table.get? key.toList with
  | some value => .ok value
  | none => .error (.noMeminfoField key)

/-- Reads the listing. -/
def parse (text : String) : Except Fault Meminfo := do
  let table := table text
  let memTotal ← required table "MemTotal"
  let memFree ← required table "MemFree"
  let memAvailable ← required table "MemAvailable"
  let swapTotal ← required table "SwapTotal"
  let swapFree ← required table "SwapFree"
  .ok {
    memTotal, memFree, memAvailable, swapTotal, swapFree
    inactiveFile := (table.get? "Inactive(file)".toList).getD 0 }

end Meminfo

end SwapWarden
