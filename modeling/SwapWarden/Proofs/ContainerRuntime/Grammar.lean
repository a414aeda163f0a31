import SwapWarden.ContainerRuntime.Wire

/-!
# The grammar of runtime messages

What the bytes of a message may be, said without a reader: numbers, keys,
payloads and rows of fields.  The reader accepts just these bytes and reads
them as the grammar says, so a message can be taken apart and put together
again at the borders of its fields.
-/

namespace SwapWarden.Wire

/-- The bytes of a number when at most `room` more follow the first.  Only the
last byte is below 128, and the tenth has room for one bit. -/
inductive Digits : Nat → Bytes → Nat → Prop where
  | last {room : Nat} {byte : UInt8} :
      byte < 0x80 → (room = 0 → byte < 2) → Digits room [byte] byte.toNat
  | more {room : Nat} {byte : UInt8} {rest : Bytes} {value : Nat} :
      0x80 ≤ byte → Digits room rest value →
      Digits (room + 1) (byte :: rest) (byte.toNat - 0x80 + value * 0x80)

/-- A number of 64 bits. -/
def Varint (bytes : Bytes) (value : Nat) : Prop := Digits 9 bytes value

theorem varintFrom?_of_digits {room position value : Nat} {written : Bytes}
    (digits : Digits room written value) (places : room + position = 9)
    (rest : Bytes) :
    varintFrom? (room + 1) position (written ++ rest) =
      some (value * Nat.pow 2 (7 * position), rest) := by
  induction digits generalizing position with
  | @last room byte ends fits =>
      have small : ¬(position = 9 ∧ byte ≥ 2) := by
        rintro ⟨atLast, large⟩
        have lost := UInt8.lt_iff_toNat_lt.mp (fits (by omega))
        have kept := UInt8.le_iff_toNat_le.mp large
        omega
      change varintFrom? (room + 1) position (byte :: rest) = _
      rw [varintFrom?, if_pos ends, if_neg small]
  | @more room byte written value goes digits induction =>
      have further : ¬byte < 0x80 := UInt8.not_lt.mpr goes
      change varintFrom? (room + 1 + 1) position (byte :: (written ++ rest)) = _
      rw [varintFrom?, if_neg further, induction (by omega)]
      have power : Nat.pow 2 (7 * (position + 1)) =
          0x80 * Nat.pow 2 (7 * position) := by
        change 2 ^ (7 * position + 7) = 0x80 * 2 ^ (7 * position)
        rw [Nat.pow_add, Nat.mul_comm]
      rw [Option.map_some, power, Nat.add_mul, Nat.mul_assoc]

theorem exists_digits_of_varintFrom? {room position value : Nat}
    {bytes rest : Bytes} (places : room + position = 9)
    (read : varintFrom? (room + 1) position bytes = some (value, rest)) :
    ∃ written plain, bytes = written ++ rest ∧ Digits room written plain := by
  induction room generalizing position bytes value with
  | zero =>
      cases bytes with
      | nil => cases read
      | cons byte bytes =>
          rw [varintFrom?] at read
          split at read
          next ends =>
            split at read
            next large => cases read
            next small =>
              cases read
              refine ⟨[byte], byte.toNat, rfl, .last ends ?_⟩
              intro _
              exact UInt8.not_le.mp (fun large => small ⟨by omega, large⟩)
          next further => cases read
  | succ room induction =>
      cases bytes with
      | nil => cases read
      | cons byte bytes =>
          rw [varintFrom?] at read
          split at read
          next ends =>
            rw [if_neg (by omega)] at read
            cases read
            exact ⟨[byte], byte.toNat, rfl, .last ends nofun⟩
          next further =>
            obtain ⟨⟨higher, behind⟩, inner, told⟩ :=
              Option.map_eq_some_iff.mp read
            cases told
            obtain ⟨written, plain, rfl, digits⟩ :=
              induction (by omega) inner
            exact ⟨byte :: written, _, rfl,
              .more (UInt8.not_lt.mp further) digits⟩

/-! ## Numbers, keys and runs of bytes

Each reader comes with two facts: it reads what is written, with anything
behind it, and it reads nothing else. -/

theorem Varint.reads {written : Bytes} {value : Nat}
    (varint : Varint written value) (rest : Bytes) :
    varint? (written ++ rest) = some (value, rest) := by
  have read := varintFrom?_of_digits varint (Nat.add_zero 9) rest
  rwa [Nat.mul_zero, Nat.pow_eq, Nat.pow_zero, Nat.mul_one] at read

theorem exists_varint {bytes rest : Bytes} {value : Nat}
    (read : varint? bytes = some (value, rest)) :
    ∃ written, bytes = written ++ rest ∧ Varint written value := by
  obtain ⟨written, plain, rfl, digits⟩ :=
    exists_digits_of_varintFrom? (Nat.add_zero 9) read
  rw [Varint.reads digits rest] at read
  cases read
  exact ⟨written, rfl, digits⟩

theorem Varint.ne_nil {value : Nat} : ¬Varint [] value := nofun

/-- The key of a field; numbers of fields begin with one. -/
structure Key (bytes : Bytes) (number kind : Nat) : Prop where
  written : Varint bytes (number * 8 + kind)
  positive : 1 ≤ number
  small : number * 8 + kind < UInt32.size
  known : kind ≤ 5

theorem Key.reads {written : Bytes} {number kind : Nat}
    (key : Key written number kind) (rest : Bytes) :
    key? (written ++ rest) = some ((number, kind), rest) := by
  obtain ⟨varint, positive, small, known⟩ := key
  have quotient : (number * 8 + kind) / 8 = number := by omega
  have remainder : (number * 8 + kind) % 8 = kind := by omega
  unfold key?
  rw [varint.reads rest]
  change (if _ then _ else _) = _
  rw [if_pos ⟨small, by omega, by omega⟩, quotient, remainder]

theorem exists_key {bytes rest : Bytes} {number kind : Nat}
    (read : key? bytes = some ((number, kind), rest)) :
    ∃ written, bytes = written ++ rest ∧ Key written number kind := by
  unfold key? at read
  split at read
  next key behind digits =>
    obtain ⟨written, rfl, varint⟩ := exists_varint digits
    obtain ⟨⟨small, positive, known⟩, told⟩ :=
      Option.ite_none_right_eq_some.mp read
    cases told
    have whole : key / 8 * 8 + key % 8 = key := by omega
    refine ⟨written, rfl, ?_, by omega, ?_, known⟩
    · rwa [whole]
    · rwa [whole]
  next => cases read

theorem Key.length_pos {bytes : Bytes} {number kind : Nat}
    (key : Key bytes number kind) : 1 ≤ bytes.length := by
  cases bytes with
  | nil => exact absurd key.written Varint.ne_nil
  | cons byte bytes => exact Nat.le_add_left 1 _

theorem skip?_append {count : Nat} {passed : Bytes}
    (full : passed.length = count) (rest : Bytes) :
    skip? count (passed ++ rest) = some rest := by
  obtain rfl := full
  unfold skip?
  rw [if_pos (List.length_append ▸ Nat.le_add_right _ _), List.drop_left]

theorem exists_skipped {count : Nat} {bytes rest : Bytes}
    (read : skip? count bytes = some rest) :
    ∃ passed, bytes = passed ++ rest ∧ passed.length = count := by
  obtain ⟨enough, told⟩ := Option.ite_none_right_eq_some.mp read
  cases told
  exact ⟨bytes.take count, (List.take_append_drop count bytes).symm,
    List.length_take_of_le enough⟩

theorem delimited?_append {length content : Bytes}
    (varint : Varint length content.length) (rest : Bytes) :
    delimited? (length ++ content ++ rest) = some (content, rest) := by
  unfold delimited?
  rw [List.append_assoc, varint.reads]
  change (if _ then _ else _) = _
  rw [if_pos (List.length_append ▸ Nat.le_add_right _ _), List.take_left,
    List.drop_left]

theorem exists_delimited {bytes content rest : Bytes}
    (read : delimited? bytes = some (content, rest)) :
    ∃ length, bytes = length ++ content ++ rest ∧
      Varint length content.length := by
  unfold delimited? at read
  split at read
  next count behind digits =>
    obtain ⟨length, rfl, varint⟩ := exists_varint digits
    obtain ⟨enough, told⟩ := Option.ite_none_right_eq_some.mp read
    cases told
    refine ⟨length, ?_, ?_⟩
    · rw [List.append_assoc, List.take_append_drop]
    · rwa [List.length_take_of_le enough]
  next => cases read

/-! ## Payloads -/

/-- The bytes of a payload of a kind.  A group ends with a key of its own
number; what stands before it are payloads with their keys. -/
inductive Written : (depth number kind : Nat) → Bytes → Payload → Prop where
  | varint {depth number value : Nat} {bytes : Bytes} :
      Varint bytes value → Written depth number 0 bytes (.varint value)
  | fixed64 {depth number : Nat} {bytes : Bytes} :
      bytes.length = 8 → Written depth number 1 bytes .fixed64
  | bytes {depth number : Nat} {length content : Bytes} :
      Varint length content.length →
      Written depth number 2 (length ++ content) (.bytes content)
  | groupEnd {depth number : Nat} {bytes : Bytes} :
      Key bytes number 4 → Written depth number 3 bytes .group
  | group {depth number inner kind : Nat} {key first rest : Bytes}
      {payload : Payload} :
      Key key inner kind → Written depth inner kind first payload →
      Written (depth + 1) number 3 rest .group →
      Written (depth + 1) number 3 (key ++ first ++ rest) .group
  | fixed32 {depth number : Nat} {bytes : Bytes} :
      bytes.length = 4 → Written depth number 5 bytes .fixed32

/-- What is behind a payload of a kind. -/
def behind? (depth number fuel kind : Nat) (bytes : Bytes) : Option Bytes :=
  match kind with
  | 0 => (varint? bytes).map (·.2)
  | 1 => skip? 8 bytes
  | 2 => (delimited? bytes).map (·.2)
  | 3 => skipGroup? number depth fuel bytes
  | 5 => skip? 4 bytes
  | _ => none

theorem skipGroup?_end {number depth fuel : Nat} {bytes rest : Bytes}
    (read : key? bytes = some ((number, 4), rest)) :
    skipGroup? number depth (fuel + 1) bytes = some rest := by
  rw [skipGroup?, read]
  exact (if_pos rfl).trans (if_pos rfl)

theorem skipGroup?_field {number depth fuel inner kind : Nat}
    {bytes rest : Bytes} (read : key? bytes = some ((inner, kind), rest))
    (goes : kind ≠ 4) :
    skipGroup? number (depth + 1) (fuel + 1) bytes =
      (behind? depth inner fuel kind rest).bind
        (skipGroup? number (depth + 1) fuel) := by
  rw [skipGroup?, read]
  change (if kind = 4 then _ else match behind? depth inner fuel kind rest with
    | some rest => skipGroup? number (depth + 1) fuel rest
    | none => none) = _
  rw [if_neg goes]
  cases behind? depth inner fuel kind rest with
  | none => rfl
  | some rest => rfl

theorem Written.behind {depth number kind fuel : Nat} {bytes : Bytes}
    {payload : Payload} (written : Written depth number kind bytes payload)
    (enough : bytes.length ≤ fuel) (rest : Bytes) :
    behind? depth number fuel kind (bytes ++ rest) = some rest := by
  induction written generalizing fuel rest with
  | varint varint =>
      change (varint? _).map _ = _
      rw [varint.reads]
      rfl
  | fixed64 full => exact skip?_append full rest
  | bytes varint =>
      change (delimited? _).map _ = _
      rw [delimited?_append varint]
      rfl
  | groupEnd key =>
      change skipGroup? _ _ _ _ = _
      have positive := key.length_pos
      obtain ⟨fuel, rfl⟩ := Nat.exists_eq_add_of_le' (show 1 ≤ fuel by omega)
      exact skipGroup?_end (key.reads rest)
  | @group depth number inner kind key first others payload opening within
      further inside after =>
      change skipGroup? _ _ _ _ = _
      have positive := opening.length_pos
      rw [List.length_append, List.length_append] at enough
      obtain ⟨fuel, rfl⟩ := Nat.exists_eq_add_of_le' (show 1 ≤ fuel by omega)
      have goes : kind ≠ 4 := by
        rintro rfl
        cases within
      rw [List.append_assoc, List.append_assoc,
        skipGroup?_field (opening.reads _) goes, inside (by omega)]
      exact after (by omega) rest
  | fixed32 full => exact skip?_append full rest

theorem exists_behind {depth number fuel kind : Nat} {bytes rest : Bytes}
    (groups : skipGroup? number depth fuel bytes = some rest →
      ∃ passed, bytes = passed ++ rest ∧ Written depth number 3 passed .group)
    (read : behind? depth number fuel kind bytes = some rest) :
    ∃ passed payload, bytes = passed ++ rest ∧
      Written depth number kind passed payload := by
  unfold behind? at read
  split at read
  next =>
    obtain ⟨⟨value, after⟩, number, told⟩ := Option.map_eq_some_iff.mp read
    cases told
    obtain ⟨written, rfl, varint⟩ := exists_varint number
    exact ⟨written, .varint value, rfl, .varint varint⟩
  next =>
    obtain ⟨passed, rfl, full⟩ := exists_skipped read
    exact ⟨passed, .fixed64, rfl, .fixed64 full⟩
  next =>
    obtain ⟨⟨content, after⟩, run, told⟩ := Option.map_eq_some_iff.mp read
    cases told
    obtain ⟨length, rfl, varint⟩ := exists_delimited run
    exact ⟨length ++ content, .bytes content, rfl, .bytes varint⟩
  next =>
    obtain ⟨passed, rfl, written⟩ := groups read
    exact ⟨passed, .group, rfl, written⟩
  next =>
    obtain ⟨passed, rfl, full⟩ := exists_skipped read
    exact ⟨passed, .fixed32, rfl, .fixed32 full⟩
  next => cases read

theorem exists_group {number depth fuel : Nat} {bytes rest : Bytes}
    (read : skipGroup? number depth fuel bytes = some rest) :
    ∃ passed, bytes = passed ++ rest ∧ Written depth number 3 passed .group := by
  induction fuel generalizing number depth bytes rest with
  | zero => cases read
  | succ fuel induction =>
      cases opened : key? bytes with
      | none =>
          rw [skipGroup?, opened] at read
          cases read
      | some key =>
          obtain ⟨⟨inner, kind⟩, behind⟩ := key
          obtain ⟨key, rfl, opening⟩ := exists_key opened
          by_cases ends : kind = 4
          · obtain rfl := ends
            rw [skipGroup?, opened] at read
            obtain ⟨same, told⟩ := Option.ite_none_right_eq_some.mp
              ((if_pos rfl).symm.trans read)
            cases told
            obtain rfl := same
            exact ⟨key, rfl, .groupEnd opening⟩
          · cases depth with
            | zero =>
                rw [skipGroup?, opened] at read
                cases (if_neg ends).symm.trans read
            | succ depth =>
                rw [skipGroup?_field opened ends] at read
                obtain ⟨after, passed, further⟩ :=
                  Option.bind_eq_some_iff.mp read
                obtain ⟨first, payload, rfl, inside⟩ :=
                  exists_behind induction passed
                obtain ⟨others, rfl, written⟩ := induction further
                refine ⟨key ++ first ++ others, ?_, .group opening inside written⟩
                simp only [List.append_assoc]

theorem Written.reads {depth number kind : Nat} {bytes : Bytes}
    {payload : Payload} (written : Written depth number kind bytes payload)
    (rest : Bytes) :
    payload? depth number kind (bytes ++ rest) = some (payload, rest) := by
  have length : bytes.length ≤ (bytes ++ rest).length :=
    List.length_append ▸ Nat.le_add_right _ _
  have behind := written.behind length rest
  cases written with
  | varint varint =>
      change (varint? _).map _ = _
      rw [varint.reads]
      rfl
  | fixed64 full =>
      change (skip? 8 _).map _ = _
      rw [skip?_append full]
      rfl
  | bytes varint =>
      change (delimited? _).map _ = _
      rw [delimited?_append varint]
      rfl
  | groupEnd key =>
      change (behind? _ _ _ 3 _).map _ = _
      rw [behind]
      rfl
  | group opening within further =>
      change (behind? _ _ _ 3 _).map _ = _
      rw [behind]
      rfl
  | fixed32 full =>
      change (skip? 4 _).map _ = _
      rw [skip?_append full]
      rfl

theorem behind?_length (depth number kind : Nat) (bytes : Bytes) :
    behind? depth number bytes.length kind bytes =
      (payload? depth number kind bytes).map (·.2) := by
  unfold behind? payload?
  split
  all_goals simp [Function.comp_def]

theorem exists_written {depth number kind : Nat} {bytes rest : Bytes}
    {payload : Payload}
    (read : payload? depth number kind bytes = some (payload, rest)) :
    ∃ passed, bytes = passed ++ rest ∧
      Written depth number kind passed payload := by
  have behind := behind?_length depth number kind bytes
  rw [read] at behind
  obtain ⟨passed, other, rfl, written⟩ := exists_behind exists_group behind
  rw [written.reads rest] at read
  cases read
  exact ⟨passed, rfl, written⟩

/-! ## Fields and messages -/

/-- The bytes of one field; the entries of a map are runs of bytes whatever
their keys say. -/
inductive IsField (maps : List Nat) (depth : Nat) : Bytes → Field → Prop where
  | intro {number kind : Nat} {key content : Bytes} {payload : Payload} :
      Key key number kind →
      Written depth number (if number ∈ maps then 2 else kind) content payload →
      IsField maps depth (key ++ content) ⟨number, payload⟩

/-- The bytes of a row of fields. -/
inductive IsMessage (maps : List Nat) (depth : Nat) :
    Bytes → List Field → Prop where
  | nil : IsMessage maps depth [] []
  | cons {chunk rest : Bytes} {field : Field} {fields : List Field} :
      IsField maps depth chunk field → IsMessage maps depth rest fields →
      IsMessage maps depth (chunk ++ rest) (field :: fields)

variable {maps : List Nat} {depth : Nat}

theorem fieldsFrom?_of_key {fuel number kind : Nat} {bytes rest : Bytes}
    (read : key? bytes = some ((number, kind), rest)) :
    fieldsFrom? maps depth (fuel + 1) bytes =
      (payload? depth number (if number ∈ maps then 2 else kind) rest).bind
        (fun payload => (fieldsFrom? maps depth fuel payload.2).map
          (⟨number, payload.1⟩ :: ·)) := by
  cases bytes with
  | nil => cases read
  | cons byte bytes =>
      rw [fieldsFrom?, read]
      · dsimp only
        cases payload? depth number (if number ∈ maps then 2 else kind)
            rest with
        | none => rfl
        | some payload => rfl
      · exact List.cons_ne_nil byte bytes

theorem IsMessage.reads {bytes : Bytes} {fields : List Field} {fuel : Nat}
    (message : IsMessage maps depth bytes fields)
    (enough : bytes.length ≤ fuel) :
    fieldsFrom? maps depth fuel bytes = some fields := by
  induction message generalizing fuel with
  | nil =>
      cases fuel with
      | zero => rfl
      | succ fuel => rfl
  | @cons chunk rest field fields isField others induction =>
      obtain ⟨opening, written⟩ := isField
      have positive := opening.length_pos
      rw [List.length_append, List.length_append] at enough
      obtain ⟨fuel, rfl⟩ := Nat.exists_eq_add_of_le' (show 1 ≤ fuel by omega)
      rw [List.append_assoc, fieldsFrom?_of_key (opening.reads _),
        written.reads]
      change (fieldsFrom? maps depth fuel rest).map _ = _
      rw [induction (by omega)]
      rfl

theorem isMessage_of_fieldsFrom? {fuel : Nat} {bytes : Bytes}
    {fields : List Field}
    (read : fieldsFrom? maps depth fuel bytes = some fields) :
    IsMessage maps depth bytes fields := by
  induction fuel generalizing bytes fields with
  | zero =>
      cases bytes with
      | nil =>
          cases read
          exact .nil
      | cons byte bytes => cases read
  | succ fuel induction =>
      cases bytes with
      | nil =>
          cases read
          exact .nil
      | cons byte bytes =>
          cases opened : key? (byte :: bytes) with
          | none =>
              unfold fieldsFrom? at read
              rw [opened] at read
              cases read
          | some key =>
              obtain ⟨⟨number, kind⟩, rest⟩ := key
              rw [fieldsFrom?_of_key opened] at read
              obtain ⟨⟨payload, rest⟩, found, told⟩ :=
                Option.bind_eq_some_iff.mp read
              obtain ⟨fields, others, rfl⟩ := Option.map_eq_some_iff.mp told
              obtain ⟨key, whole, opening⟩ := exists_key opened
              obtain ⟨content, rfl, written⟩ := exists_written found
              rw [whole, ← List.append_assoc]
              exact .cons (.intro opening written) (induction others)

/-- The reader accepts just the messages of the grammar. -/
theorem fields?_eq_some_iff {level : Nat} {bytes : Bytes}
    {fields : List Field} :
    fields? maps level bytes = some fields ↔
      IsMessage maps (groupDepth - level) bytes fields :=
  ⟨isMessage_of_fieldsFrom?, fun message => message.reads (Nat.le_refl _)⟩

/-! ## Taking messages apart -/

theorem IsMessage.append {front back : Bytes} {before after : List Field}
    (first : IsMessage maps depth front before)
    (second : IsMessage maps depth back after) :
    IsMessage maps depth (front ++ back) (before ++ after) := by
  induction first with
  | nil => exact second
  | cons field _ induction =>
      rw [List.append_assoc]
      exact .cons field induction

theorem IsMessage.single {chunk : Bytes} {field : Field}
    (isField : IsField maps depth chunk field) :
    IsMessage maps depth chunk [field] := by
  have message := IsMessage.cons isField .nil
  rwa [List.append_nil] at message

theorem isField_of_fields? {chunk : Bytes} {field : Field} (level : Nat)
    (read : fields? maps level chunk = some [field]) :
    IsField maps (groupDepth - level) chunk field := by
  cases fields?_eq_some_iff.mp read with
  | cons isField others =>
      cases others
      rwa [List.append_nil]

theorem IsField.unique {chunk other rest after : Bytes}
    {field another : Field} (first : IsField maps depth chunk field)
    (second : IsField maps depth other another)
    (same : chunk ++ rest = other ++ after) :
    field = another ∧ rest = after := by
  cases first with
  | @intro number kind key content payload opening written =>
  cases second with
  | @intro numberToo kindToo keyToo contentToo payloadToo openingToo
      writtenToo =>
  rw [List.append_assoc, List.append_assoc] at same
  have keys := opening.reads (content ++ rest)
  rw [same, openingToo.reads (contentToo ++ after)] at keys
  obtain ⟨⟨rfl, rfl⟩, behind⟩ := by
    simpa only [Option.some.injEq, Prod.mk.injEq] using keys
  have payloads := written.reads rest
  rw [← behind, writtenToo.reads after] at payloads
  obtain ⟨rfl, rfl⟩ := by
    simpa only [Option.some.injEq, Prod.mk.injEq] using payloads
  exact ⟨rfl, rfl⟩

theorem IsMessage.unique {bytes : Bytes} {fields others : List Field}
    (first : IsMessage maps depth bytes fields)
    (second : IsMessage maps depth bytes others) : fields = others := by
  have read := first.reads (Nat.le_refl bytes.length)
  rw [second.reads (Nat.le_refl bytes.length)] at read
  exact (Option.some.inj read).symm

theorem IsMessage.behind {front back : Bytes} {before fields : List Field}
    (first : IsMessage maps depth front before)
    (whole : IsMessage maps depth (front ++ back) fields) :
    ∃ after, fields = before ++ after ∧ IsMessage maps depth back after := by
  induction first generalizing fields with
  | nil => exact ⟨fields, rfl, whole⟩
  | @cons chunk rest field before isField others induction =>
      generalize same : chunk ++ rest ++ back = bytes at whole
      cases whole with
      | nil =>
          obtain ⟨opening, written⟩ := isField
          have positive := opening.length_pos
          have empty := congrArg List.length same
          simp only [List.length_append, List.length_nil] at empty
          omega
      | cons another further =>
          rw [List.append_assoc] at same
          obtain ⟨rfl, rfl⟩ := isField.unique another same
          obtain ⟨after, rfl, message⟩ := induction further
          exact ⟨after, rfl, message⟩

end SwapWarden.Wire
