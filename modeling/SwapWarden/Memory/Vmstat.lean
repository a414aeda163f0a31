import SwapWarden.Fault
import SwapWarden.Text.Blank
import SwapWarden.Text.Numeral

/-!
# Swap counters of a node

The kernel counts the pages swapped in and out since it started, one counter
to a line: a name and a number.  Of several lines with one name the last
counts, also when its number cannot be read.
-/

namespace SwapWarden

/-- Pages swapped since the node started. -/
structure SwapCounters where
  swapIn : UInt64 := 0
  swapOut : UInt64 := 0
  deriving DecidableEq, Repr, Inhabited

namespace SwapCounters

/-- The value of a line with at least two words that starts with `name`. -/
def lineValue? (name : String) (line : List Char) :
    Option (Option UInt64) :=
  match Text.words line with
  | first :: second :: _ =>
      if first == name.toList then some (Text.word64? second) else none
  | _ => none

/-- The value of the last line with the given name. -/
def lastValue? (name : String) (lines : List (List Char)) : Option UInt64 :=
  (lines.filterMap (lineValue? name)).getLast?.join

/-- Reads the listing. -/
def parse (text : String) : Except Fault SwapCounters :=
  let lines := Text.lines text.toList
  match lastValue? "pswpin" lines, lastValue? "pswpout" lines with
  | some swapIn, some swapOut => .ok { swapIn, swapOut }
  | _, _ => .error .noSwapCounters

end SwapCounters

end SwapWarden
