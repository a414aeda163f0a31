import SwapWarden.Node.EvictionTaint
import SwapWarden.Node.Manifest
import SwapWarden.Proofs.Text.Timestamp

/-!
# Taints read back

A taint that was read from a manifest is read again from the manifest it is
written to, with all that it says.  Only the time at which it was added could
get lost on the way, and a time that was read once is not.
-/

namespace SwapWarden

open Text (Json)

namespace Text.Json

variable {α : Type} {read : Json → Option α}

theorem fields?_record (fields : List (String × Json)) :
    (record fields).fields? = some fields := by
  induction fields with
  | nil => rfl
  | cons field fields induction =>
      simp only [record, fields?, List.map_cons, List.mapM_cons] at induction ⊢
      rw [induction]
      rfl

theorem nullable?_record (fields : List (String × Json)) :
    nullable? read (record fields) = (read (record fields)).map some := rfl

theorem exists_of_mem_mapM {β γ : Type} {readOne : β → Option γ}
    {documents : List β} {values : List γ}
    (all : documents.mapM readOne = some values) {value : γ}
    (member : value ∈ values) :
    ∃ document ∈ documents, readOne document = some value := by
  induction documents generalizing values with
  | nil =>
      obtain rfl : [] = values := by simpa using all
      cases member
  | cons document documents induction =>
      simp only [List.mapM_cons, Option.bind_eq_bind,
        Option.bind_eq_some_iff, Option.pure_def, Option.some.injEq] at all
      obtain ⟨first, found, others, later, rfl⟩ := all
      rcases List.mem_cons.mp member with rfl | among
      · exact ⟨document, List.mem_cons_self, found⟩
      · obtain ⟨other, inside, foundThere⟩ := induction later among
        exact ⟨other, List.mem_cons_of_mem _ inside, foundThere⟩

theorem exists_of_field? {fields : List (String × Json)} {name : String}
    {value : α} (found : field? read fields name = some (some value)) :
    ∃ document, read document = some value := by
  obtain ⟨readings, all, last⟩ := Option.map_eq_some_iff.mp found
  have member : some value ∈ readings :=
    List.mem_of_getLast? (Option.join_eq_some_iff.mp last)
  obtain ⟨field, _, taken⟩ := exists_of_mem_mapM all member
  refine ⟨field.2, ?_⟩
  unfold nullable? at taken
  split at taken
  · cases taken
  · simpa using taken

end Text.Json

namespace Taint

/-- Whether a taint can be written so that it is read again. -/
def Readable (taint : Taint) : Prop :=
  ∀ time, taint.timeAdded = some time → time.Readable

theorem readable_of_ofManifest? {document : Json} {taint : Taint}
    (read : ofManifest? document = some taint) : taint.Readable := by
  simp only [ofManifest?, Option.bind_eq_bind, Option.bind_eq_some_iff,
    Option.some.injEq] at read
  obtain ⟨fields, _, key, _, effect, _, value, _, added, found, rfl⟩ := read
  intro time present
  dsimp only at present
  rw [present] at found
  obtain ⟨_, told⟩ := Json.exists_of_field? found
  obtain ⟨written, _, parsed⟩ := Option.bind_eq_some_iff.mp told
  exact Text.Timestamp.readable_of_parse? parsed

theorem readable_of_untimed {taint : Taint} (untimed : taint.timeAdded = none) :
    taint.Readable := by
  intro time present
  cases untimed.symm.trans present

theorem ofManifest?_toManifest {taint : Taint} (readable : taint.Readable) :
    ofManifest? taint.toManifest = some taint := by
  obtain ⟨key, effect, value, added⟩ := taint
  rw [ofManifest?, toManifest, Json.fields?_record]
  cases added with
  | none =>
      cases value with
      | none => rfl
      | some value => rfl
  | some time =>
      have back := (readable time rfl).parse?_text
      cases value with
      | none =>
          simp [Json.field?, Json.readings?, Manifest.optional, Json.nullable?,
            Json.asText?, Json.text, back]
      | some value =>
          simp [Json.field?, Json.readings?, Manifest.optional, Json.nullable?,
            Json.asText?, Json.text, back]

theorem mapM_toManifest {taints : List Taint}
    (readable : ∀ taint ∈ taints, taint.Readable) :
    (taints.map toManifest).mapM ofManifest? = some taints := by
  induction taints with
  | nil => rfl
  | cons taint taints induction =>
      have first := ofManifest?_toManifest (readable taint List.mem_cons_self)
      have others := induction fun other member =>
        readable other (List.mem_cons_of_mem _ member)
      rw [List.map_cons, List.mapM_cons, first, others]
      rfl

end Taint

end SwapWarden
