import Mathlib.Data.List.Nodup
import Mathlib.Logic.Relation
import SwapWarden.Proofs.ContainerRuntime.Grammar
import SwapWarden.Proofs.ContainerRuntime.Pid

/-!
# What a runtime may say besides

A runtime sends more than the agent declares, in an order of its own.  An
answer to which undeclared fields are added, whose status comes in pieces or
whose information is reordered names the same process as before.
-/

namespace SwapWarden

open Text (Json)
open Wire (Bytes Field IsField IsMessage)

/-! ## Undeclared fields -/

namespace Wire

/-- One field of a number that is not declared; old groups are left out. -/
def IsForeign (declared : List Nat) (chunk : Bytes) : Prop :=
  ∃ field, IsField [] 0 chunk field ∧ field.number ∉ declared ∧
    field.payload ≠ .group

theorem Written.at_depth {depth number kind : Nat} {bytes : Bytes}
    {payload : Payload} (written : Written 0 number kind bytes payload)
    (plain : payload ≠ .group) : Written depth number kind bytes payload := by
  cases written with
  | varint varint => exact .varint varint
  | fixed64 full => exact .fixed64 full
  | bytes varint => exact .bytes varint
  | groupEnd _ => exact absurd rfl plain
  | fixed32 full => exact .fixed32 full

theorem IsField.at_depth {maps : List Nat} {depth : Nat} {chunk : Bytes}
    {field : Field} (isField : IsField [] 0 chunk field)
    (unmapped : field.number ∉ maps) (plain : field.payload ≠ .group) :
    IsField maps depth chunk field := by
  obtain ⟨opening, written⟩ := isField
  apply IsField.intro opening
  rw [if_neg unmapped]
  rw [if_neg List.not_mem_nil] at written
  exact written.at_depth plain

end Wire

namespace RuntimeStatus

/-- The numbers of the id and the state. -/
def declared : List Nat := [1, 3]

/-- The fields of a status, which lies one message deep. -/
abbrev IsStatus : Bytes → List Field → Prop :=
  IsMessage [] (Wire.groupDepth - 1)

theorem merge_foreign {field : Field} (foreign : field.number ∉ declared)
    (status : RuntimeStatus) : status.merge field = some status := by
  simp only [declared, List.mem_cons, List.not_mem_nil, or_false, not_or]
    at foreign
  unfold merge
  split
  next same _ => exact absurd same foreign.1
  next same _ => exact absurd same foreign.1
  next same _ => exact absurd same foreign.2
  next same _ => exact absurd same foreign.2
  next => rfl

/-- The status after one more occurrence of it. -/
def after? (status : Option RuntimeStatus) (content : Bytes) :
    Option RuntimeStatus := do
  let fields ← Wire.fields? [] 1 content
  fields.foldlM merge (status.getD {})

variable {status : Option RuntimeStatus} {result : RuntimeStatus}
  {inner outer chunk content : Bytes} {fields : List Field}

theorem after?_eq_some_iff :
    after? status content = some result ↔
      ∃ fields, IsStatus content fields ∧
        fields.foldlM merge (status.getD {}) = some result := by
  unfold after?
  rw [Option.bind_eq_bind, Option.bind_eq_some_iff]
  simp only [Wire.fields?_eq_some_iff]

theorem after?_insert (border : IsStatus inner fields)
    (foreign : Wire.IsForeign declared chunk)
    (read : after? status (inner ++ outer) = some result) :
    after? status (inner ++ chunk ++ outer) = some result := by
  obtain ⟨field, isField, undeclared, plain⟩ := foreign
  obtain ⟨all, message, merged⟩ := after?_eq_some_iff.mp read
  obtain ⟨others, rfl, further⟩ := border.behind message
  have added : IsField [] (Wire.groupDepth - 1) chunk field :=
    isField.at_depth List.not_mem_nil plain
  apply after?_eq_some_iff.mpr
  refine ⟨fields ++ [field] ++ others,
    (border.append (.single added)).append further, ?_⟩
  rw [List.foldlM_append] at merged
  rw [List.append_assoc, List.foldlM_append]
  simpa only [List.cons_append, List.nil_append, List.foldlM_cons,
    merge_foreign undeclared, Option.bind_eq_bind, Option.bind_some]
    using merged

theorem after?_split (border : IsStatus inner fields)
    (read : after? status (inner ++ outer) = some result) :
    ∃ middle, after? status inner = some middle ∧
      after? (some middle) outer = some result := by
  obtain ⟨all, message, merged⟩ := after?_eq_some_iff.mp read
  obtain ⟨others, rfl, further⟩ := border.behind message
  rw [List.foldlM_append] at merged
  obtain ⟨middle, first, second⟩ := Option.bind_eq_some_iff.mp merged
  exact ⟨middle, after?_eq_some_iff.mpr ⟨fields, border, first⟩,
    after?_eq_some_iff.mpr ⟨others, further, second⟩⟩

end RuntimeStatus

/-! ## Answers field by field -/

namespace StatusResponse

/-- The numbers of the status and the information. -/
def declared : List Nat := [1, 2]

/-- The fields of an answer, whose information is a map. -/
abbrev IsAnswer : Bytes → List Field → Prop := IsMessage [2] Wire.groupDepth

/-- One field of an answer. -/
abbrev Writes : Bytes → Field → Prop := IsField [2] Wire.groupDepth

/-- The entry of the information that a field holds. -/
def entryIn? (field : Field) : Option (String × String) :=
  match field.number, field.payload with
  | 2, .bytes content => do
      (← Wire.fields? [] 1 content).foldlM Wire.mergeEntry ("", "")
  | _, _ => none

/-- The status after one more field. -/
def statusAfter? (status : Option RuntimeStatus) (field : Field) :
    Option (Option RuntimeStatus) :=
  match field.number, field.payload with
  | 1, .bytes content => (RuntimeStatus.after? status content).map some
  | 1, _ => none
  | _, _ => some status

/-- The information with some entries put one after another. -/
def putAll (info : Table String String) (entries : List (String × String)) :
    Table String String :=
  entries.foldl (fun info entry => info.put entry.1 entry.2) info

variable {response result : StatusResponse} {field : Field}
  {fields others : List Field}

theorem merge_status (response : StatusResponse) (content : Bytes) :
    response.merge ⟨1, .bytes content⟩ =
      (RuntimeStatus.after? response.status content).map (fun status =>
        { response with status := some status }) := by
  change ((Wire.fields? [] 1 content).bind _) =
    ((Wire.fields? [] 1 content).bind _).map _
  cases Wire.fields? [] 1 content with
  | none => rfl
  | some fields => exact Option.map_eq_bind.symm

theorem merge_entry (response : StatusResponse) (content : Bytes) :
    response.merge ⟨2, .bytes content⟩ =
      (entryIn? ⟨2, .bytes content⟩).map (fun entry =>
        { response with info := response.info.put entry.1 entry.2 }) := by
  change ((Wire.fields? [] 1 content).bind _) =
    ((Wire.fields? [] 1 content).bind _).map _
  cases Wire.fields? [] 1 content with
  | none => rfl
  | some fields => exact Option.map_eq_bind.symm

/-- A field changes the status or the information, and not both. -/
theorem merge_eq_some_iff :
    response.merge field = some result ↔
      statusAfter? response.status field = some result.status ∧
      (field.number = 2 → (entryIn? field).isSome) ∧
      result.info = putAll response.info (entryIn? field).toList := by
  obtain ⟨number, payload⟩ := field
  obtain ⟨status, info⟩ := result
  by_cases isStatus : number = 1
  · obtain rfl := isStatus
    cases payload with
    | bytes content =>
        rw [merge_status]
        change _ ↔ (RuntimeStatus.after? response.status content).map some =
          some status ∧ _ ∧ info = response.info
        cases RuntimeStatus.after? response.status content with
        | none => simp
        | some merged =>
            simp only [Option.map_some, Option.some.injEq,
              StatusResponse.mk.injEq]
            constructor
            · rintro ⟨rfl, rfl⟩
              exact ⟨rfl, nofun, rfl⟩
            · rintro ⟨rfl, -, rfl⟩
              exact ⟨rfl, rfl⟩
    | _ => simp [merge, statusAfter?]
  · by_cases isEntry : number = 2
    · obtain rfl := isEntry
      cases payload with
      | bytes content =>
          rw [merge_entry]
          change _ ↔ some response.status = some status ∧ _
          cases entryIn? ⟨2, .bytes content⟩ with
          | none => simp
          | some entry => simp [putAll, eq_comm]
      | _ => simp [merge, entryIn?]
    · obtain ⟨was, held⟩ := response
      simp [merge, statusAfter?, entryIn?, putAll, isStatus, isEntry, eq_comm]

/-- Fields change the status and the information independently. -/
theorem foldlM_merge_eq_some_iff :
    fields.foldlM merge response = some result ↔
      fields.foldlM statusAfter? response.status = some result.status ∧
      (∀ field ∈ fields, field.number = 2 → (entryIn? field).isSome) ∧
      result.info = putAll response.info (fields.filterMap entryIn?) := by
  induction fields generalizing response with
  | nil =>
      obtain ⟨status, info⟩ := result
      constructor
      · intro same
        cases same
        exact ⟨rfl, nofun, rfl⟩
      · rintro ⟨same, -, told⟩
        cases same
        cases told
        rfl
  | cons field fields induction =>
      rw [List.foldlM_cons, List.foldlM_cons, Option.bind_eq_bind,
        Option.bind_eq_bind, Option.bind_eq_some_iff, List.forall_mem_cons]
      have entries : (field :: fields).filterMap entryIn? =
          (entryIn? field).toList ++ fields.filterMap entryIn? := by
        cases held : entryIn? field with
        | none => exact List.filterMap_cons_none held
        | some entry => exact List.filterMap_cons_some held
      rw [entries]
      constructor
      · rintro ⟨middle, first, rest⟩
        obtain ⟨status, readable, put⟩ := merge_eq_some_iff.mp first
        obtain ⟨merged, others, told⟩ := induction.mp rest
        refine ⟨Option.bind_eq_some_iff.mpr ⟨_, status, merged⟩,
          ⟨readable, others⟩, ?_⟩
        rw [told, put]
        exact (List.foldl_append ..).symm
      · rintro ⟨merged, ⟨readable, others⟩, told⟩
        obtain ⟨status, first, rest⟩ := Option.bind_eq_some_iff.mp merged
        refine ⟨⟨status, putAll response.info (entryIn? field).toList⟩,
          merge_eq_some_iff.mpr ⟨first, readable, rfl⟩,
          induction.mpr ⟨rest, others, ?_⟩⟩
        rw [told]
        exact List.foldl_append ..

theorem decode?_eq_some_iff {bytes : Bytes} :
    decode? bytes = some response ↔
      ∃ fields, IsAnswer bytes fields ∧
        fields.foldlM merge {} = some response := by
  unfold decode?
  rw [Option.bind_eq_bind, Option.bind_eq_some_iff]
  simp only [Wire.fields?_eq_some_iff, Nat.sub_zero]

/-! ## Information in another order -/

/-- The key under which a field puts information. -/
def entryKey? (field : Field) : Option String := (entryIn? field).map (·.1)

/-- The entries of a key, or all that is no entry. -/
def ofKey (key : Option String) (fields : List Field) : List Field :=
  fields.filter (fun field => decide (entryKey? field = key))

theorem ofKey_cons_self {key : Option String} (own : entryKey? field = key)
    (fields : List Field) :
    ofKey key (field :: fields) = field :: ofKey key fields :=
  List.filter_cons_of_pos (decide_eq_true own)

theorem ofKey_cons_other {key : Option String} (other : entryKey? field ≠ key)
    (fields : List Field) : ofKey key (field :: fields) = ofKey key fields := by
  apply List.filter_cons_of_neg
  rw [decide_eq_true_iff]
  exact other

/-- Fields in an order that keeps the order of the entries of each key and of
everything that is no entry. -/
def Reordered (fields others : List Field) : Prop :=
  ∀ key, ofKey key others = ofKey key fields

theorem length_ofKey_le_one (distinct : (fields.filterMap entryKey?).Nodup)
    (key : String) : (ofKey (some key) fields).length ≤ 1 := by
  have once := List.nodup_iff_count_le_one.mp distinct key
  rw [List.count_filterMap, List.countP_eq_length_filter] at once
  simpa only [ofKey, beq_eq_decide] using once

/-- Entries with different keys may stand in any order. -/
theorem reordered_of_perm (moved : others.Perm fields)
    (kept : ofKey none others = ofKey none fields)
    (distinct : (fields.filterMap entryKey?).Nodup) :
    Reordered fields others := by
  intro key
  cases key with
  | none => exact kept
  | some key =>
      have once := length_ofKey_le_one distinct key
      have same : (ofKey (some key) others).Perm (ofKey (some key) fields) :=
        moved.filter _
      generalize ofKey (some key) fields = entries at once same
      match entries, once with
      | [], _ => exact List.perm_nil.mp same
      | [field], _ => exact List.perm_singleton.mp same

theorem Reordered.mem_iff (reordered : Reordered fields others) :
    field ∈ others ↔ field ∈ fields := by
  have kept := reordered (entryKey? field)
  have member (list : List Field) :
      field ∈ ofKey (entryKey? field) list ↔ field ∈ list := by
    rw [ofKey, List.mem_filter, decide_eq_true_iff]
    exact and_iff_left rfl
  rw [← member others, kept, member fields]

theorem statusAfter?_of_entry {key : String}
    (isEntry : entryKey? field = some key) (status : Option RuntimeStatus) :
    statusAfter? status field = some status := by
  obtain ⟨entry, held, -⟩ := Option.map_eq_some_iff.mp isEntry
  unfold entryIn? at held
  unfold statusAfter?
  split at held
  next second _ => simp [second]
  next => cases held

theorem foldlM_statusAfter?_ofKey (fields : List Field)
    (status : Option RuntimeStatus) :
    (ofKey none fields).foldlM statusAfter? status =
      fields.foldlM statusAfter? status := by
  induction fields generalizing status with
  | nil => rfl
  | cons field fields induction =>
      cases held : entryKey? field with
      | none =>
          rw [ofKey_cons_self held, List.foldlM_cons, List.foldlM_cons]
          simp only [induction]
      | some key =>
          rw [ofKey_cons_other (held ▸ nofun), List.foldlM_cons,
            statusAfter?_of_entry held, induction]
          rfl

/-- Entries of other keys change both tables in different ways, but not what
they hold under the key. -/
theorem get?_putAll_ofKey {info infoToo : Table String String}
    {key : String} (same : info.get? key = infoToo.get? key)
    (fields : List Field) :
    (putAll info (fields.filterMap entryIn?)).get? key =
      (putAll infoToo ((ofKey (some key) fields).filterMap entryIn?)).get?
        key := by
  induction fields generalizing info infoToo with
  | nil => exact same
  | cons field fields induction =>
      cases held : entryIn? field with
      | none =>
          have unkeyed : entryKey? field ≠ some key := by
            rw [entryKey?, held]
            nofun
          rw [ofKey_cons_other unkeyed, List.filterMap_cons_none held]
          exact induction same
      | some entry =>
          have keyed : entryKey? field = some entry.1 :=
            congrArg (Option.map Prod.fst) held
          rw [List.filterMap_cons_some held]
          by_cases equal : entry.1 = key
          · rw [ofKey_cons_self (equal ▸ keyed),
              List.filterMap_cons_some held]
            apply induction
            rw [Table.get?_put, Table.get?_put, same]
          · have different : entryKey? field ≠ some key := by
              rw [keyed]
              exact fun same => equal (Option.some.inj same)
            rw [ofKey_cons_other different]
            apply induction
            rw [Table.get?_put, if_neg equal]
            exact same

/-- The same status, and the same information under every key. -/
structure Alike (response other : StatusResponse) : Prop where
  status : other.status = response.status
  info : ∀ key, other.info.get? key = response.info.get? key

theorem Reordered.foldlM_merge (reordered : Reordered fields others)
    (merged : fields.foldlM merge response = some result) :
    ∃ other, others.foldlM merge response = some other ∧
      Alike result other := by
  obtain ⟨status, readable, told⟩ := foldlM_merge_eq_some_iff.mp merged
  refine ⟨⟨result.status, putAll response.info (others.filterMap entryIn?)⟩,
    foldlM_merge_eq_some_iff.mpr ⟨?_, ?_, rfl⟩, rfl, ?_⟩
  · rw [← foldlM_statusAfter?_ofKey, reordered none,
      foldlM_statusAfter?_ofKey]
    exact status
  · intro field member
    exact readable field (reordered.mem_iff.mp member)
  · intro key
    rw [told, get?_putAll_ofKey rfl others, get?_putAll_ofKey rfl fields,
      reordered (some key)]

/-! ## Alterations of an answer -/

/-- Ways to say more than is declared, or to say it otherwise: an undeclared
field between two fields of the answer or of its status, a status cut in two
between its fields, and the information in another order. -/
inductive Altered : Bytes → Bytes → Prop where
  | insert {front chunk back : Bytes} {before : List Field} :
      IsAnswer front before → Wire.IsForeign declared chunk →
      Altered (front ++ back) (front ++ chunk ++ back)
  | insertWithin {front back whole longer inner chunk outer : Bytes}
      {before fields : List Field} :
      IsAnswer front before →
      Writes whole ⟨1, .bytes (inner ++ outer)⟩ →
      RuntimeStatus.IsStatus inner fields →
      Wire.IsForeign RuntimeStatus.declared chunk →
      Writes longer ⟨1, .bytes (inner ++ chunk ++ outer)⟩ →
      Altered (front ++ whole ++ back) (front ++ longer ++ back)
  | split {front back whole first second inner outer : Bytes}
      {before fields : List Field} :
      IsAnswer front before →
      Writes whole ⟨1, .bytes (inner ++ outer)⟩ →
      RuntimeStatus.IsStatus inner fields →
      Writes first ⟨1, .bytes inner⟩ → Writes second ⟨1, .bytes outer⟩ →
      Altered (front ++ whole ++ back) (front ++ (first ++ second) ++ back)
  | reorder {bytes moved : Bytes} {fields others : List Field} :
      IsAnswer bytes fields → IsAnswer moved others →
      Reordered fields others → Altered bytes moved

variable {bytes altered front back old new : Bytes}
  {before oldFields newFields : List Field}

theorem decode?_replace (border : IsAnswer front before)
    (oldMessage : IsAnswer old oldFields) (newMessage : IsAnswer new newFields)
    (same : ∀ response result : StatusResponse,
      oldFields.foldlM merge response = some result →
      newFields.foldlM merge response = some result)
    (decodes : decode? (front ++ old ++ back) = some response) :
    decode? (front ++ new ++ back) = some response := by
  obtain ⟨fields, message, merged⟩ := decode?_eq_some_iff.mp decodes
  obtain ⟨after, rfl, further⟩ := (border.append oldMessage).behind message
  rw [List.foldlM_append, List.foldlM_append, Option.bind_eq_bind,
    Option.bind_eq_some_iff] at merged
  obtain ⟨second, most, last⟩ := merged
  obtain ⟨first, start, middle⟩ := Option.bind_eq_some_iff.mp most
  apply decode?_eq_some_iff.mpr
  refine ⟨before ++ newFields ++ after,
    (border.append newMessage).append further, ?_⟩
  rw [List.foldlM_append, List.foldlM_append, start, Option.bind_eq_bind,
    Option.bind_some, same first second middle]
  exact last

theorem merge_foreign (foreign : field.number ∉ declared)
    (response : StatusResponse) : response.merge field = some response := by
  simp only [declared, List.mem_cons, List.not_mem_nil, or_false, not_or]
    at foreign
  apply merge_eq_some_iff.mpr
  simp [statusAfter?, entryIn?, putAll, foreign.1, foreign.2]

theorem foldlM_merge_status {content : Bytes} :
    [Wire.Field.mk 1 (.bytes content)].foldlM merge response = some result ↔
      ∃ status, RuntimeStatus.after? response.status content = some status ∧
        { response with status := some status } = result := by
  rw [List.foldlM_cons, merge_status]
  simp

/-- An altered answer is read as one that says the same. -/
theorem Altered.decodes (alteration : Altered bytes altered)
    (decodes : decode? bytes = some response) :
    ∃ other, decode? altered = some other ∧ Alike response other := by
  have same : Alike response response := ⟨rfl, fun _ => rfl⟩
  cases alteration with
  | @insert front chunk back before border foreign =>
      obtain ⟨field, isField, undeclared, plain⟩ := foreign
      have unmapped : field.number ∉ [2] := fun member =>
        undeclared (List.mem_cons_of_mem 1 member)
      have added : Writes chunk field := isField.at_depth unmapped plain
      refine ⟨response, ?_, same⟩
      apply decode?_replace border .nil (.single added)
      · intro first result merged
        rw [List.foldlM_cons, merge_foreign undeclared]
        exact merged
      · rwa [List.append_nil]
  | @insertWithin front back whole longer inner chunk outer before fields
      border isStatus inside foreign isLonger =>
      refine ⟨response, ?_, same⟩
      apply decode?_replace border (.single isStatus) (.single isLonger) _
        decodes
      intro first result merged
      obtain ⟨status, read, told⟩ := foldlM_merge_status.mp merged
      exact foldlM_merge_status.mpr
        ⟨status, RuntimeStatus.after?_insert inside foreign read, told⟩
  | @split front back whole first second inner outer before fields border
      isStatus inside isFirst isSecond =>
      refine ⟨response, ?_, same⟩
      apply decode?_replace border (.single isStatus)
        ((IsMessage.single isFirst).append (.single isSecond)) _ decodes
      intro start result merged
      obtain ⟨status, read, told⟩ := foldlM_merge_status.mp merged
      obtain ⟨middle, readFirst, readSecond⟩ :=
        RuntimeStatus.after?_split inside read
      rw [List.foldlM_append, foldlM_merge_status.mpr ⟨middle, readFirst, rfl⟩]
      exact foldlM_merge_status.mpr ⟨status, readSecond, told⟩
  | reorder message moved reordered =>
      obtain ⟨fields, read, merged⟩ := decode?_eq_some_iff.mp decodes
      obtain rfl := message.unique read
      obtain ⟨other, mergedToo, alike⟩ := reordered.foldlM_merge merged
      exact ⟨other, decode?_eq_some_iff.mpr ⟨_, moved, mergedToo⟩, alike⟩

theorem Alike.runningPid {other : StatusResponse}
    (alike : Alike response other) :
    other.runningPid = response.runningPid := by
  unfold StatusResponse.runningPid infoPid
  rw [alike.status, alike.info "info"]

theorem Alike.trans {second third : StatusResponse}
    (first : Alike response second) (further : Alike second third) :
    Alike response third where
  status := further.status.trans first.status
  info := fun key => (further.info key).trans (first.info key)

theorem decodes_of_altered
    (alterations : Relation.ReflTransGen Altered bytes altered)
    (decodes : decode? bytes = some response) :
    ∃ other, decode? altered = some other ∧ Alike response other := by
  induction alterations with
  | refl => exact ⟨response, decodes, rfl, fun _ => rfl⟩
  | tail _ alteration induction =>
      obtain ⟨second, read, alike⟩ := induction
      obtain ⟨third, readToo, further⟩ := alteration.decodes read
      exact ⟨third, readToo, alike.trans further⟩

/-- Nothing that is said besides changes the process, and the process is what a
running container's information names. -/
theorem runningPid_altered
    (alterations : Relation.ReflTransGen Altered bytes altered)
    (decodes : decode? bytes = some response) :
    (∃ other, decode? altered = some other ∧
      other.runningPid = response.runningPid) ∧
    ∀ pid, response.runningPid = .ok pid → response.RunsAs pid := by
  obtain ⟨other, read, alike⟩ := decodes_of_altered alterations decodes
  exact ⟨⟨other, read, alike.runningPid⟩, fun _ => runsAs_of_runningPid⟩

/-- A status gets a field more, and the information that names process 7 comes
before other information instead of behind it. -/
theorem runningPid_altered_seven :
    ∃ response other : StatusResponse,
      decode? [0x0A, 0x02, 0x18, 0x01, 0x12, 0x03, 0x0A, 0x01, 0x61,
        0x12, 0x0B, 0x0A, 0x04, 0x69, 0x6E, 0x66, 0x6F,
        0x12, 0x03, 0x5B, 0x37, 0x5D] = some response ∧
      decode? [0x0A, 0x04, 0x18, 0x01, 0x20, 0x05,
        0x12, 0x0B, 0x0A, 0x04, 0x69, 0x6E, 0x66, 0x6F,
        0x12, 0x03, 0x5B, 0x37, 0x5D, 0x12, 0x03, 0x0A, 0x01, 0x61] =
          some other ∧
      other.runningPid = response.runningPid ∧ response.RunsAs 7 := by
  have longer (back : Bytes) : Altered
      ([0x0A, 0x02, 0x18, 0x01] ++ back)
      ([0x0A, 0x04, 0x18, 0x01, 0x20, 0x05] ++ back) := by
    apply @Altered.insertWithin [] back _ _ [0x18, 0x01] [0x20, 0x05] [] []
      [⟨3, .varint 1⟩]
    · exact .nil
    · exact Wire.isField_of_fields? 0 rfl
    · exact Wire.fields?_eq_some_iff.mp rfl
    · exact ⟨⟨4, .varint 5⟩, Wire.isField_of_fields? 99 rfl,
        by decide, by decide⟩
    · exact Wire.isField_of_fields? 0 rfl
  have moved : Altered
      [0x0A, 0x04, 0x18, 0x01, 0x20, 0x05, 0x12, 0x03, 0x0A, 0x01, 0x61,
        0x12, 0x0B, 0x0A, 0x04, 0x69, 0x6E, 0x66, 0x6F,
        0x12, 0x03, 0x5B, 0x37, 0x5D]
      [0x0A, 0x04, 0x18, 0x01, 0x20, 0x05,
        0x12, 0x0B, 0x0A, 0x04, 0x69, 0x6E, 0x66, 0x6F,
        0x12, 0x03, 0x5B, 0x37, 0x5D, 0x12, 0x03, 0x0A, 0x01, 0x61] := by
    apply @Altered.reorder _ _
      [⟨1, .bytes [0x18, 0x01, 0x20, 0x05]⟩, ⟨2, .bytes [0x0A, 0x01, 0x61]⟩,
        ⟨2, .bytes [0x0A, 0x04, 0x69, 0x6E, 0x66, 0x6F,
          0x12, 0x03, 0x5B, 0x37, 0x5D]⟩]
    · exact Wire.fields?_eq_some_iff.mp (show Wire.fields? [2] 0 _ = _ from rfl)
    · exact Wire.fields?_eq_some_iff.mp (show Wire.fields? [2] 0 _ = _ from rfl)
    · apply reordered_of_perm
      · exact .cons _ (.swap _ _ _)
      · decide +kernel
      · decide +kernel
  have alterations := (Relation.ReflTransGen.single (longer _)).tail moved
  have resolves : ((decode? [0x0A, 0x02, 0x18, 0x01, 0x12, 0x03, 0x0A, 0x01, 0x61,
        0x12, 0x0B, 0x0A, 0x04, 0x69, 0x6E, 0x66, 0x6F,
        0x12, 0x03, 0x5B, 0x37, 0x5D]).map (·.runningPid.toOption)) =
          some (some 7) := by
    decide +kernel
  obtain ⟨response, decodes, seven⟩ := Option.map_eq_some_iff.mp resolves
  obtain ⟨⟨changed, read, same⟩, runs⟩ :=
    runningPid_altered alterations decodes
  refine ⟨response, changed, decodes, read, same, runs 7 ?_⟩
  cases resolved : response.runningPid with
  | error fault =>
      rw [resolved] at seven
      cases seven
  | ok pid =>
      rw [resolved] at seven
      exact congrArg Except.ok (Option.some.inj seven)

end StatusResponse

end SwapWarden
