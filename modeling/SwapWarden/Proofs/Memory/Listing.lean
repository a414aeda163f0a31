import Mathlib.Data.List.Induction
import Mathlib.Logic.Relation
import SwapWarden.Memory.Stats

/-!
# Only the last telling lines count

The kernel's listings hold many more lines than are read.  What is read off a
listing is told by the last line on each field, wherever it stands and
whatever the other lines say.
-/

namespace SwapWarden

namespace Text

theorem splitOnce?_singleton_eq_some_iff {cut : Char}
    {text before after : List Char} :
    splitOnce? [cut] text = some (before, after) ↔
      text = before ++ cut :: after ∧ cut ∉ before := by
  rw [splitOnce?_eq_some_iff]
  constructor
  · rintro ⟨rfl, first⟩
    refine ⟨by simp, ?_⟩
    intro inside
    obtain ⟨front, back, rfl⟩ := List.append_of_mem inside
    have shorter := first front (back ++ [cut] ++ after) (by simp)
    rw [List.length_append, List.length_cons] at shorter
    omega
  · rintro ⟨rfl, absent⟩
    refine ⟨by simp, ?_⟩
    intro front back again
    by_contra shorter
    have within : front ++ [cut] <+: before := by
      apply List.prefix_of_prefix_length_le ⟨back, again.symm⟩
        (List.prefix_append before _)
      simp
      omega
    exact absent (within.subset (by simp))

end Text

/-! ## The last line of a kind -/

namespace Listing

variable {α β : Type} {tells : List Char → α → Prop}
  {lines : List (List Char)}

/-- What the last line tells that tells anything. -/
def LastTells (tells : List Char → α → Prop) (lines : List (List Char))
    (told : α) : Prop :=
  ∃ earlier line later, lines = earlier ++ line :: later ∧ tells line told ∧
    ∀ other ∈ later, ∀ another, ¬tells other another

/-- No line tells anything. -/
def NoneTells (tells : List Char → α → Prop) (lines : List (List Char)) :
    Prop :=
  ∀ line ∈ lines, ∀ told, ¬tells line told

/-- A reader of lines that reads what they tell. -/
def Reads (read : List Char → Option β) (tells : List Char → α → Prop)
    (value : α → β) : Prop :=
  ∀ line result, read line = some result ↔
    ∃ told, tells line told ∧ value told = result

variable {read : List Char → Option β} {value : α → β}

theorem Reads.eq_none_iff (reads : Reads read tells value)
    (line : List Char) : read line = none ↔ ∀ told, ¬tells line told := by
  rw [Option.eq_none_iff_forall_ne_some]
  constructor
  · intro unread told tell
    exact unread _ ((reads line _).mpr ⟨told, tell, rfl⟩)
  · intro silent result found
    obtain ⟨told, tell, -⟩ := (reads line result).mp found
    exact silent told tell

theorem Reads.getLast?_eq_none_iff (reads : Reads read tells value) :
    (lines.filterMap read).getLast? = none ↔ NoneTells tells lines := by
  rw [List.getLast?_eq_none_iff, List.filterMap_eq_nil_iff]
  exact forall₂_congr (fun line _ => reads.eq_none_iff line)

theorem lastTells_concat_iff {line : List Char} {told : α} :
    LastTells tells (lines ++ [line]) told ↔
      tells line told ∨
        LastTells tells lines told ∧ ∀ another, ¬tells line another := by
  constructor
  · rintro ⟨earlier, middle, later, parts, tell, silent⟩
    rcases List.eq_nil_or_concat later with rfl | ⟨front, last, rfl⟩
    · obtain ⟨-, same⟩ := List.append_inj' parts rfl
      cases same
      exact .inl tell
    · rw [List.concat_eq_append, ← List.cons_append,
        ← List.append_assoc] at parts
      obtain ⟨rfl, same⟩ := List.append_inj' parts rfl
      cases same
      rw [List.concat_eq_append] at silent
      refine .inr ⟨⟨earlier, middle, front, rfl, tell, ?_⟩, ?_⟩
      · intro other member
        exact silent other (List.mem_append_left _ member)
      · exact silent line (List.mem_append_right _ List.mem_cons_self)
  · rintro (tell | ⟨⟨earlier, middle, later, rfl, tell, silent⟩, dumb⟩)
    · exact ⟨lines, line, [], rfl, tell, List.forall_mem_nil _⟩
    · refine ⟨earlier, middle, later ++ [line], by simp, tell, ?_⟩
      intro other member
      rcases List.mem_append.mp member with inside | last
      · exact silent other inside
      · obtain rfl := List.mem_singleton.mp last
        exact dumb

/-- The last thing read is what the last telling line tells. -/
theorem Reads.getLast?_eq_some_iff (reads : Reads read tells value)
    {result : β} :
    (lines.filterMap read).getLast? = some result ↔
      ∃ told, LastTells tells lines told ∧ value told = result := by
  induction lines using List.reverseRecOn with
  | nil =>
      constructor
      · nofun
      · rintro ⟨told, ⟨earlier, line, later, parts, -⟩, -⟩
        cases (List.append_eq_nil_iff.mp parts.symm).2
  | append_singleton lines line induction =>
      simp only [lastTells_concat_iff]
      rw [List.filterMap_append, List.getLast?_append]
      cases found : read line with
      | none =>
          have silent := (reads.eq_none_iff line).mp found
          have nothing : [line].filterMap read = [] :=
            List.filterMap_cons_none found
          rw [nothing]
          change (lines.filterMap read).getLast? = _ ↔ _
          rw [induction]
          constructor
          · rintro ⟨told, last, same⟩
            exact ⟨told, .inr ⟨last, silent⟩, same⟩
          · rintro ⟨told, tell | ⟨last, -⟩, same⟩
            · exact absurd tell (silent told)
            · exact ⟨told, last, same⟩
      | some new =>
          obtain ⟨told, tell, rfl⟩ := (reads line new).mp found
          have one : [line].filterMap read = [value told] :=
            List.filterMap_cons_some found
          rw [one]
          change some (value told) = some result ↔ _
          constructor
          · intro same
            exact ⟨told, .inl tell, Option.some.inj same⟩
          · rintro ⟨other, tellToo | ⟨-, silent⟩, same⟩
            · rw [← found]
              exact (reads line result).mpr ⟨other, tellToo, same⟩
            · exact absurd tell (silent told)

end Listing

/-! ## Memory totals -/

namespace Meminfo

open Listing (LastTells NoneTells Reads)

/-- A line that tells the number of a field: the key is before the first colon,
and the number is the first word behind it. -/
def Tells (key : String) (line : List Char) (number : UInt64) : Prop :=
  ∃ before after word others, line = before ++ ':' :: after ∧
    ':' ∉ before ∧ Text.trim before = key.toList ∧
    Text.words after = word :: others ∧ Text.word64? word = some number

theorem Tells.key {key : String} {line : List Char} {number : UInt64}
    (tell : Tells key line number) :
    (Text.splitOnce? [':'] line).map (fun sides => Text.trim sides.1) =
      some key.toList := by
  obtain ⟨before, after, word, others, parts, absent, named, -⟩ := tell
  rw [Text.splitOnce?_singleton_eq_some_iff.mpr ⟨parts, absent⟩]
  exact congrArg some named

/-- The number of a line, whatever its key. -/
def lineNumber? (line : List Char) : Option UInt64 :=
  (Text.splitOnce? [':'] line).bind (fun sides =>
    (Text.words sides.2).head?.bind Text.word64?)

theorem Tells.number {key : String} {line : List Char} {number : UInt64}
    (tell : Tells key line number) : lineNumber? line = some number := by
  obtain ⟨before, after, word, others, parts, absent, -, words, read⟩ := tell
  unfold lineNumber?
  rw [Text.splitOnce?_singleton_eq_some_iff.mpr ⟨parts, absent⟩]
  simp only [Option.bind_some, words, List.head?_cons, read]

/-- The bytes that a line holds under a key. -/
def bytesUnder? (key : String) (line : List Char) : Option UInt64 := do
  let entry ← lineEntry? line
  if entry.1 = key.toList then some entry.2 else none

theorem reads_bytesUnder? (key : String) :
    Reads (bytesUnder? key) (Tells key) (· * 1024) := by
  intro line result
  unfold bytesUnder?
  rw [Option.bind_eq_bind, Option.bind_eq_some_iff]
  constructor
  · rintro ⟨entry, held, same⟩
    unfold lineEntry? at held
    split at held
    next before after cut =>
      split at held
      next word others words =>
        obtain ⟨number, read, rfl⟩ := Option.map_eq_some_iff.mp held
        obtain ⟨named, told⟩ := Option.ite_none_right_eq_some.mp same
        obtain ⟨parts, absent⟩ := Text.splitOnce?_singleton_eq_some_iff.mp cut
        exact ⟨number, ⟨before, after, word, others, parts, absent, named,
          words, read⟩, Option.some.inj told⟩
      next => cases held
    next => cases held
  · rintro ⟨number, ⟨before, after, word, others, parts, absent, named,
      words, read⟩, rfl⟩
    have cut := Text.splitOnce?_singleton_eq_some_iff.mpr ⟨parts, absent⟩
    refine ⟨(Text.trim before, number * 1024), ?_, if_pos named⟩
    unfold lineEntry?
    simp only [cut, words, read, Option.map_some]

theorem get?_table (text key : String) :
    (table text).get? key.toList =
      ((Text.lines text.toList).filterMap (bytesUnder? key)).getLast? := by
  rw [table, Table.get?_ofList_eq_getLast?, List.filterMap_filterMap]
  rfl

/-! ## What is read and what is missing -/

/-- The fields that must be told, in the order they are asked for. -/
def requiredKeys : List String :=
  ["MemTotal", "MemFree", "MemAvailable", "SwapTotal", "SwapFree"]

/-- Bytes are 1024 times what the last line on a field tells. -/
def IsTold (lines : List (List Char)) (key : String) (bytes : UInt64) : Prop :=
  ∃ number, LastTells (Tells key) lines number ∧
    bytes.toNat = 1024 * number.toNat

/-- What is read off some lines. -/
inductive ReadOff (lines : List (List Char)) : Except Fault Meminfo → Prop where
  | all {info : Meminfo} :
      IsTold lines "MemTotal" info.memTotal →
      IsTold lines "MemFree" info.memFree →
      IsTold lines "MemAvailable" info.memAvailable →
      IsTold lines "SwapTotal" info.swapTotal →
      IsTold lines "SwapFree" info.swapFree →
      (IsTold lines "Inactive(file)" info.inactiveFile ∨
        NoneTells (Tells "Inactive(file)") lines ∧ info.inactiveFile = 0) →
      ReadOff lines (.ok info)
  | missing {present others : List String} {key : String} :
      requiredKeys = present ++ key :: others →
      (∀ other ∈ present, ¬NoneTells (Tells other) lines) →
      NoneTells (Tells key) lines →
      ReadOff lines (.error (.noMeminfoField key))

/-- No number on any field is too large when counted in bytes. -/
def Fits (lines : List (List Char)) : Prop :=
  ∀ line ∈ lines, ∀ key number, Tells key line number →
    1024 * number.toNat < UInt64.size

variable {text key : String}

theorem isTold_of_get? (fits : Fits (Text.lines text.toList)) {bytes : UInt64}
    (found : (table text).get? key.toList = some bytes) :
    IsTold (Text.lines text.toList) key bytes := by
  rw [get?_table, (reads_bytesUnder? key).getLast?_eq_some_iff] at found
  obtain ⟨number, last, rfl⟩ := found
  refine ⟨number, last, ?_⟩
  obtain ⟨earlier, line, later, parts, tell, -⟩ := last
  have small := fits line (by simp [parts]) key number tell
  rw [UInt64.toNat_mul, Nat.mul_comm]
  exact Nat.mod_eq_of_lt small

theorem get?_eq_none_iff :
    (table text).get? key.toList = none ↔
      NoneTells (Tells key) (Text.lines text.toList) := by
  rw [get?_table]
  exact (reads_bytesUnder? key).getLast?_eq_none_iff

theorem required_cases (table : Table (List Char) UInt64) (key : String) :
    (table.get? key.toList = none ∧
      required table key = .error (.noMeminfoField key)) ∨
    ∃ bytes, table.get? key.toList = some bytes ∧
      required table key = .ok bytes := by
  unfold required
  cases found : table.get? key.toList with
  | none => exact .inl ⟨rfl, rfl⟩
  | some bytes => exact .inr ⟨bytes, rfl, rfl⟩

/-- Every one of some fields is told. -/
def AllTold (text : String) (keys : List String) : Prop :=
  ∀ key ∈ keys, ¬NoneTells (Tells key) (Text.lines text.toList)

theorem AllTold.concat {keys : List String} {bytes : UInt64}
    (allTold : AllTold text keys)
    (found : (table text).get? key.toList = some bytes) :
    AllTold text (keys ++ [key]) := by
  intro other member
  rcases List.mem_append.mp member with before | last
  · exact allTold other before
  · obtain rfl := List.mem_singleton.mp last
    rw [← get?_eq_none_iff, found]
    nofun

/-- A field that is not told is named when all before it are told. -/
theorem readOff_of_missing {present others : List String}
    (allTold : AllTold text present)
    (missing : (table text).get? key.toList = none)
    (keys : requiredKeys = present ++ key :: others)
    (result : parse text = .error (.noMeminfoField key)) :
    ReadOff (Text.lines text.toList) (parse text) := by
  rw [result]
  exact .missing keys allTold (get?_eq_none_iff.mp missing)

theorem readOff_parse (fits : Fits (Text.lines text.toList)) :
    ReadOff (Text.lines text.toList) (parse text) := by
  have none : AllTold text [] := List.forall_mem_nil _
  rcases required_cases (table text) "MemTotal" with ⟨missing, failed⟩ |
    ⟨memTotal, total, readTotal⟩
  · apply readOff_of_missing none missing rfl
    simp only [parse, failed]
    rfl
  have one := none.concat total
  rcases required_cases (table text) "MemFree" with ⟨missing, failed⟩ |
    ⟨memFree, free, readFree⟩
  · apply readOff_of_missing one missing rfl
    simp only [parse, readTotal, failed]
    rfl
  have two := one.concat free
  rcases required_cases (table text) "MemAvailable" with ⟨missing, failed⟩ |
    ⟨memAvailable, available, readAvailable⟩
  · apply readOff_of_missing two missing rfl
    simp only [parse, readTotal, readFree, failed]
    rfl
  have three := two.concat available
  rcases required_cases (table text) "SwapTotal" with ⟨missing, failed⟩ |
    ⟨swapTotal, swap, readSwap⟩
  · apply readOff_of_missing three missing rfl
    simp only [parse, readTotal, readFree, readAvailable, failed]
    rfl
  rcases required_cases (table text) "SwapFree" with ⟨missing, failed⟩ |
    ⟨swapFree, unused, readUnused⟩
  · apply readOff_of_missing (three.concat swap) missing rfl
    simp only [parse, readTotal, readFree, readAvailable, readSwap, failed]
    rfl
  have result : parse text = .ok {
      memTotal, memFree, memAvailable, swapTotal, swapFree
      inactiveFile :=
        ((table text).get? "Inactive(file)".toList).getD 0 } := by
    simp only [parse, readTotal, readFree, readAvailable, readSwap, readUnused]
    rfl
  rw [result]
  refine .all (isTold_of_get? fits total) (isTold_of_get? fits free)
    (isTold_of_get? fits available) (isTold_of_get? fits swap)
    (isTold_of_get? fits unused) ?_
  cases inactive : (table text).get? "Inactive(file)".toList with
  | none => exact .inr ⟨get?_eq_none_iff.mp inactive, rfl⟩
  | some bytes => exact .inl (isTold_of_get? fits inactive)

/-! ## Lines that do not matter -/

/-- The fields that are read. -/
def readKeys : List String := requiredKeys ++ ["Inactive(file)"]

/-- Changes that keep what the lines on each field tell: a line that tells
nothing is put somewhere, or two neighbours that do not tell the same field
change places. -/
inductive Edited : List (List Char) → List (List Char) → Prop where
  | insert {front back : List (List Char)} {line : List Char} :
      (∀ key ∈ readKeys, ∀ number, ¬Tells key line number) →
      Edited (front ++ back) (front ++ line :: back)
  | swap {front back : List (List Char)} {first second : List Char} :
      (∀ key number other, Tells key first number →
        ¬Tells key second other) →
      Edited (front ++ first :: second :: back)
        (front ++ second :: first :: back)

theorem Edited.filterMap_eq {lines others : List (List Char)}
    (edited : Edited lines others) (member : key ∈ readKeys) :
    others.filterMap (bytesUnder? key) =
      lines.filterMap (bytesUnder? key) := by
  have silent := (reads_bytesUnder? key).eq_none_iff
  cases edited with
  | @insert front back line mute =>
      have unread := (silent line).mpr (mute key member)
      rw [List.filterMap_append, List.filterMap_append,
        List.filterMap_cons_none unread]
  | @swap front back first second apart =>
      rw [List.filterMap_append, List.filterMap_append]
      congr 1
      cases found : bytesUnder? key first with
      | none => simp only [List.filterMap_cons, found]
      | some bytes =>
          obtain ⟨number, tell, -⟩ :=
            (reads_bytesUnder? key first bytes).mp found
          have unread := (silent second).mpr
            (fun other => apart key number other tell)
          simp only [List.filterMap_cons, unread]

theorem parse_congr {other : String}
    (same : ∀ key ∈ readKeys, (table other).get? key.toList =
      (table text).get? key.toList) : parse other = parse text := by
  have required_congr (key : String) (member : key ∈ readKeys) :
      required (table other) key = required (table text) key := by
    unfold required
    rw [same key member]
  unfold parse
  dsimp only
  rw [required_congr "MemTotal" (by decide),
    required_congr "MemFree" (by decide),
    required_congr "MemAvailable" (by decide),
    required_congr "SwapTotal" (by decide),
    required_congr "SwapFree" (by decide),
    same "Inactive(file)" (by decide)]

theorem filterMap_eq_of_edits {lines others : List (List Char)}
    (edits : Relation.ReflTransGen Edited lines others)
    (member : key ∈ readKeys) :
    others.filterMap (bytesUnder? key) =
      lines.filterMap (bytesUnder? key) := by
  induction edits with
  | refl => rfl
  | tail _ edited induction => rw [edited.filterMap_eq member, induction]

theorem parse_edited {other : String}
    (edits : Relation.ReflTransGen Edited (Text.lines text.toList)
      (Text.lines other.toList)) : parse other = parse text := by
  apply parse_congr
  intro key member
  rw [get?_table, get?_table, filterMap_eq_of_edits edits member]

/-! ## Derived totals -/

theorem toNat_swapUsed (info : Meminfo) :
    info.swapUsed.toNat = info.swapTotal.toNat - info.swapFree.toNat :=
  Word64.toNat_subFloored info.swapTotal info.swapFree

theorem toNat_workingSet (info : Meminfo) :
    info.workingSet.toNat =
      info.memTotal.toNat - info.memFree.toNat - info.inactiveFile.toNat := by
  unfold workingSet
  rw [Word64.toNat_subFloored, Word64.toNat_subFloored]

theorem swapUsed_le (info : Meminfo) : info.swapUsed ≤ info.swapTotal := by
  rw [UInt64.le_iff_toNat_le, toNat_swapUsed]
  exact Nat.sub_le _ _

theorem workingSet_le (info : Meminfo) :
    info.workingSet ≤ info.memTotal := by
  rw [UInt64.le_iff_toNat_le, toNat_workingSet]
  exact Nat.le_trans (Nat.sub_le _ _) (Nat.sub_le _ _)

end Meminfo

/-! ## Swap counters -/

namespace SwapCounters

open Listing (LastTells Reads)

/-- A line of at least two words, the first of them a name. -/
def Tells (name : String) (line word : List Char) : Prop :=
  ∃ others, Text.words line = name.toList :: word :: others

theorem reads_lineValue? (name : String) :
    Reads (lineValue? name) (Tells name) Text.word64? := by
  intro line result
  unfold lineValue? Tells
  split
  next first second others words =>
    rw [words]
    constructor
    · intro found
      obtain ⟨named, told⟩ := Option.ite_none_right_eq_some.mp found
      rw [beq_iff_eq.mp named]
      exact ⟨second, ⟨others, rfl⟩, Option.some.inj told⟩
    · rintro ⟨word, ⟨rest, parts⟩, rfl⟩
      cases parts
      exact if_pos (beq_self_eq_true _)
  next few =>
    constructor
    · nofun
    · rintro ⟨word, ⟨rest, parts⟩, -⟩
      exact absurd parts (few _ _ _)

theorem lastValue?_eq_some_iff {name : String} {lines : List (List Char)}
    {value : UInt64} :
    lastValue? name lines = some value ↔
      ∃ word, LastTells (Tells name) lines word ∧
        Text.word64? word = some value := by
  unfold lastValue?
  rw [Option.join_eq_some_iff]
  exact (reads_lineValue? name).getLast?_eq_some_iff

/-- Both counters are read off the last lines that name them. -/
theorem parse_eq_ok_iff {text : String} {counters : SwapCounters} :
    parse text = .ok counters ↔
      (∃ word, LastTells (Tells "pswpin") (Text.lines text.toList) word ∧
        Text.word64? word = some counters.swapIn) ∧
      ∃ word, LastTells (Tells "pswpout") (Text.lines text.toList) word ∧
        Text.word64? word = some counters.swapOut := by
  rw [← lastValue?_eq_some_iff, ← lastValue?_eq_some_iff]
  unfold parse
  dsimp only
  cases lastValue? "pswpin" (Text.lines text.toList) with
  | none => simp
  | some swapIn =>
      cases lastValue? "pswpout" (Text.lines text.toList) with
      | none => simp
      | some swapOut =>
          obtain ⟨isIn, isOut⟩ := counters
          simp

theorem fault_of_parse {text : String} {fault : Fault}
    (failed : parse text = .error fault) : fault = .noSwapCounters := by
  unfold parse at failed
  dsimp only at failed
  split at failed
  next => cases failed
  next =>
    cases failed
    rfl

end SwapCounters

/-- Listings are read off the last lines on their fields, other lines do not
matter, and what is derived from the totals stays within them. -/
theorem NodeStats.read_off_last_lines {text : String}
    (fits : Meminfo.Fits (Text.lines text.toList)) :
    Meminfo.ReadOff (Text.lines text.toList) (Meminfo.parse text) ∧
    (∀ other : String,
      Relation.ReflTransGen Meminfo.Edited (Text.lines text.toList)
        (Text.lines other.toList) →
      Meminfo.parse other = Meminfo.parse text) ∧
    (∀ (listing : String) (counters : SwapCounters),
      SwapCounters.parse listing = .ok counters ↔
        (∃ word, Listing.LastTells (SwapCounters.Tells "pswpin")
            (Text.lines listing.toList) word ∧
          Text.word64? word = some counters.swapIn) ∧
        ∃ word, Listing.LastTells (SwapCounters.Tells "pswpout")
            (Text.lines listing.toList) word ∧
          Text.word64? word = some counters.swapOut) ∧
    (∀ (listing : String) (fault : Fault),
      SwapCounters.parse listing = .error fault → fault = .noSwapCounters) ∧
    ∀ info : Meminfo,
      info.swapUsed.toNat = info.swapTotal.toNat - info.swapFree.toNat ∧
      info.workingSet.toNat = info.memTotal.toNat - info.memFree.toNat -
        info.inactiveFile.toNat ∧
      info.swapUsed ≤ info.swapTotal ∧ info.workingSet ≤ info.memTotal :=
  ⟨Meminfo.readOff_parse fits, fun _ => Meminfo.parse_edited,
    fun _ _ => SwapCounters.parse_eq_ok_iff,
    fun _ _ => SwapCounters.fault_of_parse,
    fun info => ⟨info.toNat_swapUsed, info.toNat_workingSet,
      info.swapUsed_le, info.workingSet_le⟩⟩

/-- Two lines change places, and one without a number comes between them. -/
theorem NodeStats.read_off_last_lines_swapped :
    Meminfo.parse
        "MemTotal: 9\nMemFree: 4\nMemAvailable: 5\nSwapTotal: 2\nSwapFree: 1" =
      .ok { memTotal := 9216, memFree := 4096, memAvailable := 5120,
            swapTotal := 2048, swapFree := 1024 } ∧
    Meminfo.parse
        "MemFree: 4\nCached: ?\nMemTotal: 9\nMemAvailable: 5\nSwapTotal: 2\nSwapFree: 1" =
      Meminfo.parse
        "MemTotal: 9\nMemFree: 4\nMemAvailable: 5\nSwapTotal: 2\nSwapFree: 1" := by
  have swapped (back : List (List Char)) : Meminfo.Edited
      ("MemTotal: 9".toList :: "MemFree: 4".toList :: back)
      ("MemFree: 4".toList :: "MemTotal: 9".toList :: back) := by
    apply @Meminfo.Edited.swap []
    intro key number other tell tellToo
    exact absurd (tell.key.trans tellToo.key.symm) (by decide)
  have inserted (back : List (List Char)) : Meminfo.Edited
      ("MemFree: 4".toList :: back)
      ("MemFree: 4".toList :: "Cached: ?".toList :: back) := by
    apply @Meminfo.Edited.insert ["MemFree: 4".toList]
    intro key _ number tell
    exact absurd tell.number nofun
  have numbers : ∀ line ∈ Text.lines
      "MemTotal: 9\nMemFree: 4\nMemAvailable: 5\nSwapTotal: 2\nSwapFree: 1".toList,
      (Meminfo.lineNumber? line).all (1024 * ·.toNat < UInt64.size) = true := by
    decide +kernel
  obtain ⟨-, kept, -⟩ := NodeStats.read_off_last_lines
    (fun line member key number tell => by
      have small := numbers line member
      rw [tell.number] at small
      exact of_decide_eq_true small)
  exact ⟨rfl, kept _ ((Relation.ReflTransGen.single (swapped _)).tail
    (inserted _))⟩

end SwapWarden
