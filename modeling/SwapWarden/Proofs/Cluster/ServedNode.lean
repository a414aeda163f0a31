import SwapWarden.Cluster.Client
import SwapWarden.Proofs.Node.EvictionTaint
import SwapWarden.Proofs.Node.Manifest

/-!
# A node behind the cluster's interface

The cluster keeps a node and a version of it, and serves both.  Every update of
the node gives it a version that it never had before.  A patch that names a
version is refused unless the node still has it; one that names none is taken
in any case.  A reply may get lost after a patch was taken, so an error does
not tell that the node is as it was.
-/

namespace SwapWarden

open Text (Json)

/-- What the cluster keeps of a node: its taints, its version and the versions
that it had before. -/
structure ServedNode where
  version : String
  past : List String := []
  taints : List Taint := []

/-- A node of which only the taints are known. -/
def Node.ofTaints (taints : List Taint) : Node := { taintList := some taints }

/-- A document of a patch, read as what it wants of a node. -/
def Node.ofPatch? (document : Json) : Option Node := do
  let fields ← document.fields?
  some {
    metadata :=
      (← Json.field? Metadata.ofManifest? fields "metadata").getD {}
    taintList := (← Json.field? Node.taintList? fields "spec").join }

namespace ServedNode

/-- The node after an update of its taints. -/
def updated (server : ServedNode) (version : String) (taints : List Taint) :
    ServedNode :=
  { version, past := server.version :: server.past, taints }

/-- Whether a node is shown as it is kept. -/
structure Shows (name : String) (server : ServedNode) (node : Node) : Prop where
  name : node.metadata.displayName = name
  version : node.metadata.resourceVersion = some server.version
  taints : node.taints = server.taints

/-- Whether a call is to get the node. -/
def IsGet (name : String) (call : ClusterCall) : Prop :=
  call.method = "GET" ∧
    ClusterCall.target? (Exchange.nodeAddress name) = some call.target

/-- Whether a call is to patch the node. -/
def IsPatch (name : String) (call : ClusterCall) : Prop :=
  call.method = "PATCH" ∧
    ClusterCall.target? (Exchange.nodeAddress name ++ "?") = some call.target

/-- How the cluster replies to a call, and what it keeps of the node then.  A
call may be refused for any reason, and calls about other things may be
answered in any way. -/
inductive Serves (name : String) (server : ServedNode) (call : ClusterCall)
    (reply : Reply) : ServedNode → Prop where
  | shows (get : IsGet name call)
      (carries : ∀ node, reply.read Node.ofManifest? = .ok node →
        Shows name server node) : Serves name server call reply server
  | applies {document : Json} {patch : Node} {taints : List Taint}
      {version : String} (isPatch : IsPatch name call)
      (body : call.body = some document)
      (wants : Node.ofPatch? document = some patch)
      (replaces : patch.taintList = some taints)
      (current : ∀ named, patch.metadata.resourceVersion = some named →
        named = server.version)
      (fresh : version ∉ server.version :: server.past) :
      Serves name server call reply (server.updated version taints)
  | refuses (isPatch : IsPatch name call) (refused : reply.isRefusal = true) :
      Serves name server call reply server
  | elsewhere (other : ¬ IsGet name call ∧ ¬ IsPatch name call) :
      Serves name server call reply server

/-- An exchange of calls and replies about the node, and what it comes to. -/
inductive Conducts (name : String) {α : Type} :
    ServedNode → Exchange α → Except Fault α → ServedNode → Prop where
  | done (server : ServedNode) (result : Except Fault α) :
      Conducts name server (.done result) result server
  | ask {server middle last : ServedNode} {call : ClusterCall} {reply : Reply}
      {next : Reply → Exchange α} {result : Except Fault α}
      (serves : Serves name server call reply middle)
      (rest : Conducts name middle (next reply) result last) :
      Conducts name server (.ask call next) result last

variable {name : String} {server next : ServedNode} {node : Node}

/-- A node whose version is new and whose taints can be written. -/
structure Orderly (server : ServedNode) : Prop where
  fresh : server.version ∉ server.past
  readable : ∀ taint ∈ server.taints, taint.Readable

/-- At most one update of a node. -/
def Advances (server next : ServedNode) : Prop :=
  next = server ∨ ∃ version taints,
    version ∉ server.version :: server.past ∧
      next = server.updated version taints

theorem Orderly.updated {version : String} {taints : List Taint}
    (fresh : version ∉ server.version :: server.past)
    (readable : ∀ taint ∈ taints, taint.Readable) :
    (server.updated version taints).Orderly :=
  ⟨fresh, readable⟩

theorem Advances.past_subset (advances : Advances server next) :
    server.past ⊆ next.past := by
  rcases advances with rfl | ⟨_, _, _, rfl⟩
  · exact List.Subset.refl _
  · exact List.subset_cons_self _ _

theorem Advances.versions_subset (advances : Advances server next) :
    server.version :: server.past ⊆ next.version :: next.past := by
  rcases advances with rfl | ⟨_, _, _, rfl⟩
  · exact List.Subset.refl _
  · exact List.subset_cons_self _ _

theorem of_build {method address : String} {contentType : Option String}
    {body : Option Json} {call : ClusterCall}
    (built : ClusterCall.build method address contentType body = .ok call) :
    ClusterCall.target? address = some call.target ∧ call.method = method ∧
      call.body = body := by
  unfold ClusterCall.build at built
  split at built
  case isTrue => cases built
  case isFalse =>
      split at built
      case h_1 target found =>
          cases built
          exact ⟨found, rfl, rfl⟩
      case h_2 => cases built

theorem error_of_refusal {α : Type} {reply : Reply}
    (refused : reply.isRefusal = true) (ofJson? : Json → Option α) :
    reply.read ofJson? = .error (.cluster (.refused reply.refusal)) := by
  rw [Reply.read, if_pos refused]

/-- A call that could not be made changes nothing, and one that was made was
replied to. -/
theorem Conducts.of_call {α : Type} {made : Except Fault ClusterCall}
    {ofJson? : Json → Option α} {answer : Except Fault α}
    (conducts : Conducts name server (Exchange.call made ofJson?) answer next) :
    (∃ fault, made = .error fault ∧ answer = .error fault ∧ next = server) ∨
      ∃ call reply, made = .ok call ∧ answer = reply.read ofJson? ∧
        Serves name server call reply next := by
  cases made with
  | error fault =>
      cases conducts with
      | done => exact .inl ⟨fault, rfl, rfl, rfl⟩
  | ok call =>
      cases conducts with
      | ask serves rest =>
          cases rest with
          | done => exact .inr ⟨call, _, rfl, rfl, serves⟩

theorem Serves.advances {call : ClusterCall} {reply : Reply}
    (serves : Serves name server call reply next) : Advances server next := by
  cases serves with
  | applies _ _ _ _ _ fresh => exact .inr ⟨_, _, fresh, rfl⟩
  | _ => exact .inl rfl

theorem Conducts.advances {α : Type} {made : Except Fault ClusterCall}
    {ofJson? : Json → Option α} {answer : Except Fault α}
    (conducts : Conducts name server (Exchange.call made ofJson?) answer next) :
    Advances server next := by
  rcases conducts.of_call with ⟨_, _, _, same⟩ | ⟨_, _, _, _, serves⟩
  · exact .inl same
  · exact serves.advances

theorem Conducts.getNode {asked : String} {answer : Except Fault Node}
    (conducts : Conducts name server (Exchange.getNode asked) answer next) :
    next = server := by
  rcases conducts.of_call with ⟨_, _, _, same⟩ | ⟨call, reply, built, _, serves⟩
  · exact same
  · have method := (of_build built).2.1
    cases serves with
    | shows => rfl
    | applies isPatch => exact absurd (method.symm.trans isPatch.1) (by decide)
    | refuses => rfl
    | elsewhere => rfl

theorem Conducts.shows
    (conducts : Conducts name server (Exchange.getNode name) (.ok node) next) :
    Shows name server node := by
  rcases conducts.of_call with ⟨_, _, failed, _⟩ |
    ⟨call, reply, built, told, serves⟩
  · cases failed
  · obtain ⟨target, method, _⟩ := of_build built
    cases serves with
    | shows _ carries => exact carries node told.symm
    | applies isPatch => exact absurd (method.symm.trans isPatch.1) (by decide)
    | refuses isPatch => exact absurd (method.symm.trans isPatch.1) (by decide)
    | elsewhere other => exact absurd ⟨method, target⟩ other.1

theorem ofPatch?_taintPatch (node : Node) {taints : List Taint}
    (readable : ∀ taint ∈ taints, taint.Readable) :
    Node.ofPatch? (Exchange.taintPatch node taints) = some {
      metadata := { resourceVersion := node.metadata.resourceVersion }
      taintList := some taints } := by
  have spec : Node.taintList? (.record [("taints",
      .array (taints.map Taint.toManifest))]) = some (some taints) := by
    have items := Taint.mapM_toManifest readable
    simp [Node.taintList?, Json.fields?_record, Json.field?, Json.readings?,
      Json.nullable?, Json.listOf?, items]
  cases known : node.metadata.resourceVersion with
  | none =>
      have metadata : Metadata.ofManifest?
          (.record [("resourceVersion", .null)]) = some {} := rfl
      simp [Node.ofPatch?, Exchange.taintPatch, known, Json.fields?_record,
        Json.field?, Json.readings?, Json.nullable?_record, spec, metadata]
  | some version =>
      have metadata : Metadata.ofManifest?
          (.record [("resourceVersion", .text version)]) =
            some { resourceVersion := some version } := rfl
      simp [Node.ofPatch?, Exchange.taintPatch, known, Json.fields?_record,
        Json.field?, Json.readings?, Json.nullable?_record, spec, metadata]

/-- A patch of the node's taints is refused, or it replaces exactly the taints,
and then the node still had the version that the patch names. -/
theorem Conducts.patchTaints {taints : List Taint} {answer : Except Fault Unit}
    (conducts :
      Conducts name server (Exchange.patchTaints node taints) answer next)
    (named : node.metadata.displayName = name)
    (readable : ∀ taint ∈ taints, taint.Readable) :
    (next = server ∧ ∃ fault, answer = .error fault) ∨
      ∃ version, version ∉ server.version :: server.past ∧
        next = server.updated version taints ∧
        ∀ known, node.metadata.resourceVersion = some known →
          known = server.version := by
  rcases conducts.of_call with ⟨fault, _, failed, same⟩ |
    ⟨call, reply, built, told, serves⟩
  · exact .inl ⟨same, fault, failed⟩
  · obtain ⟨target, method, body⟩ := of_build built
    rw [named] at target
    cases serves with
    | shows isGet => exact absurd (method.symm.trans isGet.1) (by decide)
    | refuses _ refused =>
        rw [error_of_refusal refused] at told
        exact .inl ⟨rfl, _, told⟩
    | elsewhere other => exact absurd ⟨method, target⟩ other.2
    | @applies document patch replaced version _ sent wants replaces current
        fresh =>
        obtain rfl : Exchange.taintPatch node taints = document :=
          Option.some.inj (body.symm.trans sent)
        obtain rfl := Option.some.inj
          ((ofPatch?_taintPatch node readable).symm.trans wants)
        obtain rfl : taints = replaced := Option.some.inj replaces
        exact .inr ⟨version, fresh, rfl, current⟩

/-! ## Replies that the cluster may give -/

/-- Whether a reply shows a node as it is kept. -/
abbrev ShownBy (name : String) (server : ServedNode) (reply : Reply) : Prop :=
  (reply.read Node.ofManifest?).toOption.map (fun node =>
    (node.metadata.displayName, node.metadata.resourceVersion, node.taints)) =
      some (name, some server.version, server.taints)

/-- A node whose name can stand in an address. -/
structure Addressed (name : String) : Prop where
  short : (Exchange.nodeAddress name).utf8ByteSize ≤ ClusterCall.longestAddress
  target : (ClusterCall.target? (Exchange.nodeAddress name)).isSome = true
  patchShort : (Exchange.nodeAddress name ++ "?").utf8ByteSize ≤
    ClusterCall.longestAddress
  patchTarget :
    (ClusterCall.target? (Exchange.nodeAddress name ++ "?")).isSome = true

theorem build_of_target {method address target : String}
    {contentType : Option String} {body : Option Json}
    (short : address.utf8ByteSize ≤ ClusterCall.longestAddress)
    (found : ClusterCall.target? address = some target) :
    ClusterCall.build method address contentType body =
      .ok { method, target, contentType, body } := by
  rw [ClusterCall.build, if_neg (Nat.not_lt.mpr short), found]

theorem read_map {α β : Type} (reply : Reply) (ofJson? : Json → Option α)
    (view : α → β) :
    reply.read (fun value => (ofJson? value).map view) =
      (reply.read ofJson?).map view := by
  have mapped : (Json.ofText? reply.body).bind (fun value =>
      (ofJson? value).map view) =
        ((Json.ofText? reply.body).bind ofJson?).map view :=
    (Option.map_bind).symm
  unfold Reply.read
  rw [mapped]
  split
  · rfl
  · cases (Json.ofText? reply.body).bind ofJson? with
    | none => rfl
    | some value => rfl

section

variable {version : String} {reply : Reply} {taints : List Taint}

theorem exists_conducts_getNode (addressed : Addressed name)
    (shownBy : ShownBy name server reply) :
    ∃ node, reply.read Node.ofManifest? = .ok node ∧ Shows name server node ∧
      Conducts name server (Exchange.getNode name) (.ok node) server := by
  obtain ⟨target, found⟩ := Option.isSome_iff_exists.mp addressed.target
  unfold ShownBy at shownBy
  cases told : reply.read Node.ofManifest? with
  | error fault =>
      rw [told] at shownBy
      cases shownBy
  | ok node =>
      rw [told] at shownBy
      have same := Option.some.inj shownBy
      have shows : Shows name server node := by
        constructor
        · exact congrArg Prod.fst same
        · exact congrArg (fun parts => parts.2.1) same
        · exact congrArg (fun parts => parts.2.2) same
      refine ⟨node, rfl, shows, ?_⟩
      rw [Exchange.getNode, build_of_target addressed.short found, ← told]
      refine .ask (.shows ⟨rfl, found⟩ fun other toldOther => ?_) (.done _ _)
      cases told.symm.trans toldOther
      exact shows

theorem conducts_patchTaints_refused (addressed : Addressed name)
    (named : node.metadata.displayName = name)
    (refused : reply.isRefusal = true) :
    Conducts name server (Exchange.patchTaints node taints)
      (.error (.cluster (.refused reply.refusal))) server := by
  obtain ⟨target, found⟩ := Option.isSome_iff_exists.mp addressed.patchTarget
  rw [Exchange.patchTaints, named,
    build_of_target addressed.patchShort found,
    ← error_of_refusal refused (fun value =>
      (Node.ofManifest? value).map fun _ => ())]
  exact .ask (.refuses ⟨rfl, found⟩ refused) (.done _ _)

theorem conducts_patchTaints (addressed : Addressed name)
    (named : node.metadata.displayName = name)
    (readable : ∀ taint ∈ taints, taint.Readable)
    (current : node.metadata.resourceVersion = some server.version)
    (fresh : version ∉ server.version :: server.past)
    {shown : Node} (read : reply.read Node.ofManifest? = .ok shown) :
    Conducts name server (Exchange.patchTaints node taints) (.ok ())
      (server.updated version taints) := by
  obtain ⟨target, found⟩ := Option.isSome_iff_exists.mp addressed.patchTarget
  have told : reply.read (fun value =>
      (Node.ofManifest? value).map fun _ => ()) = .ok () := by
    rw [read_map, read]
    rfl
  rw [Exchange.patchTaints, named,
    build_of_target addressed.patchShort found, ← told]
  refine .ask (.applies ⟨rfl, found⟩ rfl (ofPatch?_taintPatch node readable)
    rfl ?_ fresh) (.done _ _)
  intro known isNamed
  rw [current] at isNamed
  exact (Option.some.inj isNamed).symm

end

end ServedNode

end SwapWarden
