import SwapWarden.Proofs.Cluster.ServedNode
import SwapWarden.Proofs.Conversation

/-!
# Evicting a pod that may be gone

An eviction makes at most two calls, both to the address of the pod: one that
clears its finalizers, if it has any, and one that deletes it.  A pod that is
gone by the time of the second call counts as evicted.  One that is gone by the
time of the first call does not, since a refusal to clear finalizers ends the
eviction whatever its cause.
-/

namespace SwapWarden.Exchange

open Text (Json)

/-- A call with the reply to it. -/
abbrev Said : Type := Program.Exchange ClusterCall fun _ => Reply

/-- What a call of an eviction comes to by the reply alone. -/
def Said.outcome (said : Said) : Except Fault Unit :=
  if said.request.method = "DELETE" then said.answer.read deletion?
  else said.answer.read fun value => (Pod.ofManifest? value).map fun _ => ()

/-- The reply says that what the call is about is gone. -/
def Said.FindsNothing (said : Said) : Prop :=
  ∃ fault, said.outcome = .error fault ∧ fault.isNotFound = true

/-- How an eviction of a pod may go, by the calls that were made. -/
structure EvictionEnds (pod : Pod) (calls : List Said)
    (result : Except Fault Unit) : Prop where
  addressed : ∀ said ∈ calls,
    ClusterCall.target? (podAddress pod.key ++ "?") = some said.request.target
  methods : calls.map (fun said => said.request.method) <+:
    if pod.finalizers = [] then ["DELETE"] else ["PUT", "DELETE"]
  ok_iff : result = .ok () ↔ calls ≠ [] ∧ ∀ said ∈ calls,
    said.outcome = .ok () ∨
      said.request.method = "DELETE" ∧ said.FindsNothing
  uncleared : ∀ said ∈ calls, said.request.method = "PUT" →
    ∀ fault, said.outcome = .error fault →
      calls = [said] ∧ result = .error fault

variable {pod : Pod} {key : PodKey} {calls : List Said}
  {answers : ClusterCall → Reply}

/-! ## The calls of an eviction -/

theorem conversation_call {α : Type} (made : Except Fault ClusterCall)
    (ofJson? : Json → Option α) :
    (call made ofJson?).conversation answers =
      match made with
      | .error fault => ([], .error fault)
      | .ok call => ([⟨call, answers call⟩], (answers call).read ofJson?) := by
  cases made with
  | error fault => rfl
  | ok call => rfl

theorem build_cases (address : String) :
    (∃ fault : Fault, fault.isNotFound = false ∧
      ∀ method contentType body,
        ClusterCall.build method address contentType body = .error fault) ∨
      ∃ target, ClusterCall.target? address = some target ∧
        ∀ method contentType body,
          ClusterCall.build method address contentType body =
            .ok { method, target, contentType, body } := by
  by_cases long : ClusterCall.longestAddress < address.utf8ByteSize
  · refine .inl ⟨.cluster .longAddress, rfl, ?_⟩
    intro method contentType body
    rw [ClusterCall.build, if_pos long]
  · cases found : ClusterCall.target? address with
    | none =>
        refine .inl ⟨.cluster .badAddress, rfl, ?_⟩
        intro method contentType body
        rw [ClusterCall.build, if_neg long, found]
    | some target =>
        refine .inr ⟨target, rfl, ?_⟩
        intro method contentType body
        exact ServedNode.build_of_target (Nat.not_lt.mp long) found

theorem forgiveMissing_eq_ok_iff {result : Except Fault Unit} :
    forgiveMissing result = .ok () ↔ result = .ok () ∨
      ∃ fault, result = .error fault ∧ fault.isNotFound = true := by
  cases result with
  | ok value => simp [forgiveMissing]
  | error fault => simp [forgiveMissing]

theorem conversation_deletePod {call : ClusterCall}
    (built : deletionCall key = .ok call) :
    (deletePod key).conversation answers =
      ([⟨call, answers call⟩],
        forgiveMissing ((answers call).read deletion?)) := by
  rw [deletePod, Program.conversation_bind, conversation_call, built]
  rfl

theorem conversation_deletePod_of_error {fault : Fault}
    (unbuilt : deletionCall key = .error fault)
    (other : fault.isNotFound = false) :
    (deletePod key).conversation answers = ([], .error fault) := by
  rw [deletePod, Program.conversation_bind, conversation_call, unbuilt]
  simp [Program.conversation, forgiveMissing, other]

theorem evict_of_no_finalizers (bare : pod.finalizers = []) :
    evict pod = deletePod pod.key := by
  simp [evict, evictWith, bare]

theorem evict_of_finalizers (held : pod.finalizers ≠ []) :
    evict pod = (clearFinalizers pod).bind fun cleared =>
      match cleared with
      | .error fault => .done (.error fault)
      | .ok _ => deletePod pod.key := by
  simp only [evict, evictWith, List.isEmpty_iff, held, if_false]
  rfl

/-! ## How an eviction ends -/

namespace EvictionEnds

variable {fault : Fault} (clearing deletion : Said)

theorem unaddressed : EvictionEnds pod [] (.error fault) := by
  constructor
  · simp
  · exact List.nil_prefix
  · simp
  · simp

theorem deleted (bare : pod.finalizers = [])
    (deletes : deletion.request.method = "DELETE")
    (addressed : ClusterCall.target? (podAddress pod.key ++ "?") =
      some deletion.request.target) :
    EvictionEnds pod [deletion] (forgiveMissing deletion.outcome) := by
  constructor
  · simpa using addressed
  · simp [bare, deletes]
  · rw [forgiveMissing_eq_ok_iff]
    simp [deletes, Said.FindsNothing]
  · simp [deletes]

theorem refused (held : pod.finalizers ≠ [])
    (clears : clearing.request.method = "PUT")
    (addressed : ClusterCall.target? (podAddress pod.key ++ "?") =
      some clearing.request.target)
    (failed : clearing.outcome = .error fault) :
    EvictionEnds pod [clearing] (.error fault) := by
  constructor
  · simpa using addressed
  · simp [held, clears]
  · simp [clears, failed]
  · simp [failed]

theorem cleared (held : pod.finalizers ≠ [])
    (clears : clearing.request.method = "PUT")
    (deletes : deletion.request.method = "DELETE")
    (addressed : ∀ said ∈ [clearing, deletion],
      ClusterCall.target? (podAddress pod.key ++ "?") =
        some said.request.target)
    (succeeded : clearing.outcome = .ok ()) :
    EvictionEnds pod [clearing, deletion] (forgiveMissing deletion.outcome) := by
  constructor
  · exact addressed
  · simp [held, clears, deletes]
  · rw [forgiveMissing_eq_ok_iff]
    simp [deletes, succeeded, Said.FindsNothing]
  · simp [deletes, succeeded]

end EvictionEnds

/-- Whatever the cluster replies, an eviction is a success exactly when its
calls were made and each of them succeeded, where a deletion may also find the
pod gone.  A clearing that fails, be it that the pod is gone, is the end. -/
theorem evict_ends (pod : Pod) (answers : ClusterCall → Reply) :
    EvictionEnds pod ((evict pod).conversation answers).1
      ((evict pod).conversation answers).2 := by
  by_cases bare : pod.finalizers = []
  · rw [evict_of_no_finalizers bare]
    rcases build_cases (podAddress pod.key ++ "?") with
      ⟨fault, other, unbuilt⟩ | ⟨target, found, built⟩
    · rw [conversation_deletePod_of_error (unbuilt _ _ _) other]
      exact .unaddressed
    · rw [conversation_deletePod (built _ _ _)]
      exact .deleted ⟨_, _⟩ bare rfl found
  · rw [evict_of_finalizers bare, Program.conversation_bind, clearFinalizers,
      conversation_call]
    rcases build_cases (podAddress pod.key ++ "?") with
      ⟨fault, other, unbuilt⟩ | ⟨target, found, built⟩
    · rw [unbuilt]
      exact .unaddressed
    · rw [built]
      dsimp only
      cases read : (answers _).read fun value =>
          (Pod.ofManifest? value).map fun _ => () with
      | error fault => exact .refused ⟨_, _⟩ bare rfl found read
      | ok value =>
          rw [conversation_deletePod (built _ _ _)]
          refine .cleared ⟨_, _⟩ ⟨_, _⟩ bare rfl rfl ?_ read
          simp [found]

def heldPod : Pod where
  metadata := {
    namespaceName := some "default"
    name := some "web"
    finalizers := some ["example.com/protect"] }

/-- The reply to a call about a pod that is gone. -/
def goneReply : Reply where
  status := 404
  body := "\x7b\"kind\":\"Status\",\"status\":\"Failure\"," ++
    "\"reason\":\"NotFound\",\"code\":404\x7d"

theorem isNotFound_goneReply :
    (Fault.cluster (.refused goneReply.refusal)).isNotFound = true := by
  decide +kernel

/-- A pod that is gone before its finalizers are cleared is not evicted, though
without finalizers it would be. -/
theorem gone_pod_not_evicted :
    (∃ clearing : Said,
      (evict heldPod).conversation (fun _ => goneReply) =
          ([clearing], .error (.cluster (.refused goneReply.refusal))) ∧
        clearing.request.method = "PUT" ∧ clearing.FindsNothing) ∧
      ((evict heldPod.withoutFinalizers).conversation fun _ => goneReply).2 =
        .ok () := by
  have refused : goneReply.isRefusal = true := rfl
  have short : (podAddress heldPod.key ++ "?").utf8ByteSize ≤
      ClusterCall.longestAddress := by decide
  have found : ClusterCall.target? (podAddress heldPod.key ++ "?") =
      some "/api/v1/namespaces/default/pods/web?" := by decide
  constructor
  · let clearing : ClusterCall := {
      method := "PUT"
      target := "/api/v1/namespaces/default/pods/web?"
      contentType := some "application/json"
      body := some heldPod.withoutFinalizers.toManifest }
    refine ⟨⟨clearing, goneReply⟩, ?_, rfl, _, ?_, isNotFound_goneReply⟩
    · rw [evict_of_finalizers (by decide), Program.conversation_bind,
        clearFinalizers, conversation_call,
        ServedNode.build_of_target short found]
      rfl
    · rw [Said.outcome, if_neg (by decide)]
      exact ServedNode.error_of_refusal refused _
  · have same : heldPod.withoutFinalizers.key = heldPod.key := rfl
    rw [evict_of_no_finalizers (by decide), same,
      conversation_deletePod (ServedNode.build_of_target short found),
      forgiveMissing_eq_ok_iff]
    exact .inr ⟨_, ServedNode.error_of_refusal refused _, isNotFound_goneReply⟩

end SwapWarden.Exchange
