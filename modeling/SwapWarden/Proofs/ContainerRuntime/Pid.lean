import SwapWarden.ContainerRuntime.Pid

/-!
# The process that is named

A process is taken from an answer only if its container runs, and only from the
outermost level of the document among its information.
-/

namespace SwapWarden

open Text (Json)

namespace Text.Json

variable {document : Json} {fields : List (String × Json)} {name : String}

theorem eq_record_of_fields? (read : document.fields? = some fields) :
    document = record fields := by
  cases document with
  | object members =>
      change members.mapM _ = some fields at read
      unfold record
      congr 1
      induction members generalizing fields with
      | nil =>
          cases read
          rfl
      | cons member members induction =>
          rw [List.mapM_cons, Option.bind_eq_bind,
            Option.bind_eq_some_iff] at read
          obtain ⟨field, first, read⟩ := read
          obtain ⟨others, rest, told⟩ := Option.bind_eq_some_iff.mp read
          cases told
          obtain ⟨text, named, rfl⟩ := Option.map_eq_some_iff.mp first
          rw [List.map_cons, ← induction rest, ← named]
  | _ => cases read

theorem members_record (fields : List (String × Json)) (name : String) :
    (record fields).members name =
      (fields.filter (fun field => field.1 == name)).map (·.2) := by
  change ((fields.map _).filter _).map _ = _
  rw [List.filter_map, List.map_map]
  rfl

theorem members_of_uniqueField? {value : Json}
    (read : document.fields? = some fields)
    (unique : uniqueField? fields name = some (some value)) :
    document.members name = [value] := by
  rw [eq_record_of_fields? read, members_record]
  unfold uniqueField? at unique
  split at unique
  next => cases unique
  next field found =>
    cases unique
    rw [found]
    rfl
  next => cases unique

theorem eq_integer_of_naturalUpTo? {bound value : Nat}
    (read : naturalUpTo? bound document = some value) :
    document = .integer value ∧ value ≤ bound := by
  cases document with
  | integer number =>
      obtain ⟨⟨positive, small⟩, told⟩ :=
        Option.ite_none_right_eq_some.mp read
      cases told
      exact ⟨congrArg Json.integer (Int.toNat_of_nonneg positive).symm,
        Int.toNat_le.mpr small⟩
  | _ => cases read

end Text.Json

/-- The process a document names on its outermost level: by its only member of
that name, or as the only item of an array. -/
def NamesProcess (document : Json) (pid : Nat) : Prop :=
  (∃ members, document = .object members ∧
    document.members "pid" = [.integer pid]) ∨
  document = .array [.integer pid]

theorem cases_of_documentPid? {document : Json} {pid : Nat}
    (read : documentPid? document = some pid) :
    ∃ value, Json.readOr? 0 (Json.naturalUpTo? (UInt32.size - 1)) value =
        some pid ∧
      ((∃ items, document = .array items ∧ items.length ≤ 1 ∧
          value = items[0]?) ∨
        ∃ fields, document.fields? = some fields ∧
          Json.uniqueField? fields "pid" = some value) := by
  obtain ⟨values, found, taken⟩ := Option.bind_eq_some_iff.mp read
  by_cases listed : ∃ items, document = .array items
  · obtain ⟨items, rfl⟩ := listed
    obtain ⟨short, told⟩ := Option.ite_none_right_eq_some.mp found
    cases told
    exact ⟨items[0]?, taken, .inl ⟨items, rfl, short, rfl⟩⟩
  · unfold Json.record? at found
    split at found
    next items => exact absurd ⟨items, rfl⟩ listed
    next =>
      obtain ⟨fields, named, unique⟩ := Option.bind_eq_some_iff.mp found
      rw [List.mapM_cons, Option.bind_eq_bind,
        Option.bind_eq_some_iff] at unique
      obtain ⟨value, first, rest⟩ := unique
      cases rest
      exact ⟨value, taken, .inr ⟨fields, named, first⟩⟩

theorem namesProcess_of_documentPid? {document : Json} {pid : Nat}
    (read : documentPid? document = some pid) (positive : pid ≠ 0) :
    NamesProcess document pid ∧ pid < UInt32.size := by
  obtain ⟨value, taken, origin⟩ := cases_of_documentPid? read
  cases value with
  | none =>
      cases taken
      exact absurd rfl positive
  | some value =>
      obtain ⟨rfl, small⟩ := Json.eq_integer_of_naturalUpTo? taken
      refine ⟨?_, Nat.lt_of_le_pred (by decide) small⟩
      rcases origin with ⟨items, rfl, short, only⟩ | ⟨fields, named, unique⟩
      · right
        match items, short with
        | [], _ => cases only
        | [item], _ =>
            cases only
            rfl
      · left
        exact ⟨_, Json.eq_record_of_fields? named,
          Json.members_of_uniqueField? named unique⟩

theorem ContainerState.eq_one_of_running {number : Int}
    (running : ofNumber number = .running) : number = 1 := by
  unfold ofNumber at running
  split at running
  next => rfl
  next => cases running
  next => cases running
  next => cases running

namespace StatusResponse

/-- A container runs, and its information names the process. -/
structure RunsAs (response : StatusResponse) (pid : Nat) : Prop where
  running : ∃ status, response.status = some status ∧ status.state = 1
  named : ∃ text document, response.info.get? "info" = some text ∧
    Json.ofText? text = some document ∧ NamesProcess document pid
  positive : 0 < pid
  small : pid < UInt32.size

theorem exists_document_of_infoPid {info : Table String String} {pid : Nat}
    (resolved : infoPid info = .ok pid) :
    ∃ text document, info.get? "info" = some text ∧
      Json.ofText? text = some document ∧
      documentPid? document = some pid ∧ pid ≠ 0 := by
  unfold infoPid at resolved
  split at resolved
  next => cases resolved
  next text found =>
    split at resolved
    next => cases resolved
    next number read =>
      split at resolved
      next => cases resolved
      next positive =>
        cases resolved
        obtain ⟨document, parsed, named⟩ := Option.bind_eq_some_iff.mp read
        exact ⟨text, document, found, parsed, named, positive⟩

theorem runsAs_of_runningPid {response : StatusResponse} {pid : Nat}
    (resolved : response.runningPid = .ok pid) : response.RunsAs pid := by
  unfold runningPid at resolved
  split at resolved
  next => cases resolved
  next status held =>
    split at resolved
    next running =>
      obtain ⟨text, document, found, read, named, positive⟩ :=
        exists_document_of_infoPid resolved
      obtain ⟨names, small⟩ := namesProcess_of_documentPid? named positive
      exact {
        running := ⟨status, held, ContainerState.eq_one_of_running running⟩
        named := ⟨text, document, found, read, names⟩
        positive := Nat.pos_of_ne_zero positive
        small := small }
    next => cases resolved

end StatusResponse

end SwapWarden
