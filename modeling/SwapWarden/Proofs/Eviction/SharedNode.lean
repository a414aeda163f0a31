import SwapWarden.Proofs.Cluster.ServedNode
import SwapWarden.Proofs.Eviction.Tainting

/-!
# Cycles on a node that others update

The cycles of an agent read and patch their node through the cluster's
interface, while other clients update the node's taints at any time, also
between the two calls of one cycle.  A patch replaces the whole list of taints
by one that was computed from an earlier reading.  It names the version of
that reading, so it is taken only when nobody updated the node since.
-/

namespace SwapWarden

open Text (Json)

namespace Cycle

open Program

theorem TaintTalk.before_patch {settings : EvictionSettings}
    {front rest : List Exchange} {node : Node} {taints : List Taint}
    {answer : Except Fault Unit}
    (told : TaintTalk settings
      (front ++ ⟨.patchTaints node taints, answer⟩ :: rest)) :
    ∃ verdict, front = [⟨.judge, .ok verdict⟩,
        ⟨.getNode settings.nodeName, .ok node⟩] ∧
      taints = node.taintsFor settings.taintKey verdict.isShortage := by
  generalize parts :
    front ++ (⟨.patchTaints node taints, answer⟩ : Exchange) :: rest = talk
    at told
  rcases front with _ | ⟨first, _ | ⟨second, front⟩⟩
  · cases told with
    | _ => cases (List.cons.inj parts).1
  · cases told with
    | unjudged => cases (List.cons.inj parts).2
    | _ => cases (List.cons.inj (List.cons.inj parts).2).1
  · cases told with
    | unjudged => simp at parts
    | unfound => simp at parts
    | settled => simp at parts
    | patched verdict found answer differs =>
        obtain ⟨rfl, others⟩ := List.cons.inj parts
        obtain ⟨rfl, last⟩ := List.cons.inj others
        rcases List.append_eq_singleton_iff.mp last with
          ⟨rfl, same⟩ | ⟨_, nothing⟩
        · cases same
          exact ⟨verdict, rfl, rfl⟩
        · cases nothing

/-- Answers that refuse whatever can be refused. -/
def refusals : (request : CycleRequest) → request.Answer
  | .judge => Except.error default
  | .getNode _ => Except.error default
  | .patchTaints _ _ => Except.error default
  | .listPods _ => Except.error default
  | .listUsages => Except.error default
  | .clearFinalizers _ | .deletePod _ => Except.error default
  | .showShortage _ | .flush | .tell _ => ()

/-- A patch comes after a verdict and a reading of the node, and replaces the
taints by what the verdict wants of those that were read. -/
theorem patch_of_reaches {settings : EvictionSettings} {said : List Exchange}
    {node : Node} {taints : List Taint}
    {next : Except Fault Unit → Part (Except Fault CycleOutcome)}
    (reached : (Cycle.decide settings).Reaches said
      (.ask (.patchTaints node taints) next)) :
    ∃ verdict, ⟨.judge, .ok verdict⟩ ∈ said ∧
      ⟨.getNode settings.nodeName, .ok node⟩ ∈ said ∧
      taints = node.taintsFor settings.taintKey verdict.isShortage := by
  let patch : Exchange := ⟨.patchTaints node taints, .ok ()⟩
  obtain ⟨later, outcome, finished⟩ : ∃ later outcome,
      (next (.ok ())).Reaches later (.done outcome) :=
    ⟨_, _, reaches_conversation refusals _⟩
  have told := talk_of_reaches (reached.trans (.ask (.ok ()) finished))
  have parts : taintTalk (said ++ patch :: later) =
      taintTalk said ++ patch :: taintTalk later := by
    rw [taintTalk, List.filter_append, List.filter_cons_of_pos rfl]
    rfl
  change TaintTalk settings (taintTalk (said ++ patch :: later)) at told
  rw [parts] at told
  obtain ⟨verdict, front, replaced⟩ := told.before_patch
  have spoken {exchange : Exchange} (member : exchange ∈ taintTalk said) :
      exchange ∈ said := (List.mem_filter.mp member).1
  rw [front] at spoken
  exact ⟨verdict, spoken List.mem_cons_self,
    spoken (List.mem_cons_of_mem _ List.mem_cons_self), replaced⟩

end Cycle

/-- A node behind the cluster's interface, and the cycle that is under way
with what it said so far. -/
structure SharedNode where
  server : ServedNode
  cycle : Option (Cycle.Part (Except Fault CycleOutcome)) := none
  said : List Cycle.Exchange := []

namespace SharedNode

open ServedNode (Conducts Orderly Advances)

/-- What happens to a shared node: another client replaces the taints, or a
cycle asks for something. -/
inductive Event where
  | updated (taints : List Taint)
  | asked (exchange : Cycle.Exchange)

namespace Event

def update? : Event → Option (List Taint)
  | updated taints => some taints
  | asked _ => none

end Event

/-- How a request of a cycle may be answered, and the node after it. -/
def Answers (name : String) (held : ServedNode) :
    Cycle.Exchange → ServedNode → Prop
  | ⟨.getNode asked, answer⟩, next =>
      Conducts name held (Exchange.getNode asked) answer next
  | ⟨.patchTaints node taints, answer⟩, next =>
      Conducts name held (Exchange.patchTaints node taints) answer next
  | _, next => next = held

/-- One step of a cycle, or an update by another client, who replaces the
taints by any that can be read from documents. -/
inductive Step (settings : EvictionSettings) :
    SharedNode → Option Event → SharedNode → Prop where
  | update {held : SharedNode} {documents : List Json} {taints : List Taint}
      {version : String} (read : documents.mapM Taint.ofManifest? = some taints)
      (fresh : version ∉ held.server.version :: held.server.past) :
      Step settings held (some (.updated taints))
        { held with server := held.server.updated version taints }
  | start {held : SharedNode} (idle : held.cycle = none) :
      Step settings held none
        { held with cycle := some (Cycle.decide settings), said := [] }
  | ask {held : SharedNode} {request : CycleRequest}
      {following : request.Answer → Cycle.Part (Except Fault CycleOutcome)}
      {server : ServedNode}
      (waiting : held.cycle = some (.ask request following))
      (answer : request.Answer)
      (answers :
        Answers settings.nodeName held.server ⟨request, answer⟩ server) :
      Step settings held (some (.asked ⟨request, answer⟩))
        { server, cycle := some (following answer)
          said := held.said ++ [⟨request, answer⟩] }
  | stop {held : SharedNode} {outcome : Except Fault CycleOutcome}
      (finished : held.cycle = some (.done outcome)) :
      Step settings held none { held with cycle := none }

/-- Any number of steps. -/
abbrev Run (settings : EvictionSettings) :
    SharedNode → List Event → SharedNode → Prop :=
  SwapWarden.Run (Step settings)

variable {settings : EvictionSettings} {held next first last : SharedNode}
  {events : List Event} {node : Node}

/-! ## What the agent knows of the node -/

/-- A reading of the node is as the node was at some version. -/
structure Known (settings : EvictionSettings) (server : ServedNode)
    (node : Node) : Prop where
  name : node.metadata.displayName = settings.nodeName
  readable : ∀ taint ∈ node.taints, taint.Readable
  version : ∃ version, node.metadata.resourceVersion = some version ∧
    version ∈ server.version :: server.past
  current : node.metadata.resourceVersion = some server.version →
    node.taints = server.taints

theorem known_of_shows {server : ServedNode} (orderly : server.Orderly)
    (shows : server.Shows settings.nodeName node) :
    Known settings server node := by
  constructor
  · exact shows.name
  · rw [shows.taints]
    exact orderly.readable
  · exact ⟨_, shows.version, List.mem_cons_self⟩
  · intro _
    exact shows.taints

theorem Known.advances {server after : ServedNode}
    (known : Known settings server node) (advances : Advances server after) :
    Known settings after node := by
  rcases advances with rfl | ⟨latest, taints, fresh, rfl⟩
  · exact known
  · obtain ⟨version, named, old⟩ := known.version
    constructor
    · exact known.name
    · exact known.readable
    · exact ⟨version, named, List.mem_cons_of_mem _ old⟩
    · intro current
      rw [named] at current
      cases current
      exact absurd old fresh

/-- What holds at every moment of a run. -/
structure Sound (settings : EvictionSettings) (held : SharedNode) : Prop where
  orderly : held.server.Orderly
  known : ∀ node, ⟨.getNode settings.nodeName, .ok node⟩ ∈ held.said →
    Known settings held.server node
  reached : ∀ program, held.cycle = some program →
    (Cycle.decide settings).Reaches held.said program

theorem sound_start {server : ServedNode} (orderly : server.Orderly) :
    Sound settings { server } := by
  constructor
  · exact orderly
  · intro node found
    cases found
  · intro program running
    cases running

theorem readable_taintsFor (readable : ∀ taint ∈ node.taints, taint.Readable)
    (key : String) (shortage : Bool) :
    ∀ taint ∈ node.taintsFor key shortage, taint.Readable := by
  have others : ∀ taint ∈ node.taintsWithout key, taint.Readable := by
    intro taint member
    exact readable taint (List.mem_filter.mp member).1
  cases shortage with
  | false => exact others
  | true =>
      intro taint member
      rcases List.mem_append.mp member with other | added
      · exact others taint other
      · rw [List.mem_singleton.mp added]
        exact Taint.readable_of_untimed rfl

/-- The taints are as the verdict of the cycle wants those that the node had:
only taints of the key are taken away or replaced. -/
def Wanted (settings : EvictionSettings) (held : SharedNode)
    (server : ServedNode) : Prop :=
  ∃ verdict, ⟨.judge, .ok verdict⟩ ∈ held.said ∧ server.taints =
    (Node.ofTaints held.server.taints).taintsFor settings.taintKey
      verdict.isShortage

/-- What a patch of a cycle does to the node, and how it is answered. -/
structure PatchKept (settings : EvictionSettings) (held : SharedNode)
    (node : Node) (answer : Except Fault Unit) (server : ServedNode) :
    Prop where
  effect : server = held.server ∨ Wanted settings held server
  succeeded : answer = .ok () → Wanted settings held server
  outdated : node.metadata.resourceVersion ≠ some held.server.version →
    server = held.server ∧ ∃ fault, answer = .error fault

theorem Sound.patch (sound : Sound settings held) {taints : List Taint}
    {answer : Except Fault Unit} {server : ServedNode}
    {following : Except Fault Unit → Cycle.Part (Except Fault CycleOutcome)}
    (waiting : held.cycle = some (.ask (.patchTaints node taints) following))
    (conducts : Conducts settings.nodeName held.server
      (Exchange.patchTaints node taints) answer server) :
    PatchKept settings held node answer server ∧ server.Orderly := by
  obtain ⟨verdict, judged, found, rfl⟩ :=
    Cycle.patch_of_reaches (sound.reached _ waiting)
  have known := sound.known node found
  have readable := readable_taintsFor known.readable settings.taintKey
    verdict.isShortage
  rcases conducts.patchTaints known.name readable with
    ⟨rfl, fault, refused⟩ | ⟨version, fresh, rfl, current⟩
  · refine ⟨?_, sound.orderly⟩
    constructor
    · exact .inl rfl
    · intro succeeded
      cases refused.symm.trans succeeded
    · intro _
      exact ⟨rfl, fault, refused⟩
  · obtain ⟨named, shown, _⟩ := known.version
    have isCurrent :
        node.metadata.resourceVersion = some held.server.version := by
      rw [shown, current named shown]
    have same : node.taints = (Node.ofTaints held.server.taints).taints :=
      known.current isCurrent
    have wanted : Wanted settings held (held.server.updated version
        (node.taintsFor settings.taintKey verdict.isShortage)) :=
      ⟨verdict, judged, Node.taintsFor_congr same _ _⟩
    refine ⟨?_, .updated fresh readable⟩
    constructor
    · exact .inr wanted
    · intro _
      exact wanted
    · intro outdated
      exact absurd isCurrent outdated

theorem Answers.advances {server after : ServedNode} {exchange : Cycle.Exchange}
    (answers : Answers settings.nodeName server exchange after) :
    Advances server after := by
  obtain ⟨request, answer⟩ := exchange
  cases request with
  | getNode asked => exact Conducts.advances answers
  | patchTaints node taints => exact Conducts.advances answers
  | _ => exact .inl answers

theorem Answers.aside {server after : ServedNode} {exchange : Cycle.Exchange}
    (answers : Answers settings.nodeName server exchange after)
    (aside : exchange.patches = false) : after = server := by
  obtain ⟨request, answer⟩ := exchange
  cases request with
  | getNode asked => exact Conducts.getNode answers
  | patchTaints node taints => cases aside
  | _ => exact answers

theorem Step.advances {event : Option Event}
    (step : Step settings held event next) :
    Advances held.server next.server := by
  cases step with
  | update _ fresh => exact .inr ⟨_, _, fresh, rfl⟩
  | start => exact .inl rfl
  | ask _ _ answers => exact answers.advances
  | stop => exact .inl rfl

theorem Step.of_asked {exchange : Cycle.Exchange}
    (step : Step settings held (some (.asked exchange)) next) :
    Answers settings.nodeName held.server exchange next.server ∧
      ∃ following, held.cycle = some (.ask exchange.request following) := by
  cases step with
  | ask waiting _ answers => exact ⟨answers, _, waiting⟩

theorem Sound.orderly_after (sound : Sound settings held)
    {request : CycleRequest} {answer : request.Answer} {server : ServedNode}
    {following : request.Answer → Cycle.Part (Except Fault CycleOutcome)}
    (waiting : held.cycle = some (.ask request following))
    (answers : Answers settings.nodeName held.server ⟨request, answer⟩ server) :
    server.Orderly := by
  cases request with
  | patchTaints node taints => exact (sound.patch waiting answers).2
  | _ =>
      rw [answers.aside rfl]
      exact sound.orderly

theorem known_of_answers (orderly : held.server.Orderly) {server : ServedNode}
    (answers : Answers settings.nodeName held.server
      ⟨.getNode settings.nodeName, .ok node⟩ server) :
    Known settings server node := by
  rw [answers.aside rfl]
  exact known_of_shows orderly (Conducts.shows answers)

theorem Step.sound {event : Option Event} (sound : Sound settings held)
    (step : Step settings held event next) : Sound settings next := by
  have advances := step.advances
  cases step with
  | update read fresh =>
      constructor
      · refine .updated fresh fun taint member => ?_
        obtain ⟨document, _, told⟩ := Json.exists_of_mem_mapM read member
        exact Taint.readable_of_ofManifest? told
      · intro node found
        exact (sound.known node found).advances advances
      · exact sound.reached
  | start idle =>
      constructor
      · exact sound.orderly
      · intro node found
        cases found
      · intro program running
        cases running
        exact .refl _
  | ask waiting answer answers =>
      constructor
      · exact sound.orderly_after waiting answers
      · intro node found
        rcases List.mem_append.mp found with earlier | latest
        · exact (sound.known node earlier).advances advances
        · cases List.mem_singleton.mp latest
          exact known_of_answers sound.orderly answers
      · intro program running
        cases running
        exact (sound.reached _ waiting).tail answer
  | stop finished =>
      constructor
      · exact sound.orderly
      · exact sound.known
      · intro program running
        cases running

theorem Run.sound (run : Run settings first events last)
    (sound : Sound settings first) : Sound settings last :=
  run.invariant sound (fun known step => step.sound known)

/-! ## Updates of other clients -/

/-- The taints that the last update of another client left. -/
def lastUpdate (taints : List Taint) (events : List Event) : List Taint :=
  (events.filterMap Event.update?).getLast?.getD taints

theorem PatchKept.taintsBeside {answer : Except Fault Unit}
    {server : ServedNode} (kept : PatchKept settings held node answer server) :
    (Node.ofTaints server.taints).taintsBeside settings.taintKey =
      (Node.ofTaints held.server.taints).taintsBeside settings.taintKey := by
  rcases kept.effect with rfl | ⟨verdict, _, replaced⟩
  · rfl
  · rw [replaced]
    exact Node.taintsBeside_taintsFor _ _ _

theorem Step.taintsBeside (sound : Sound settings held) {event : Option Event}
    (step : Step settings held event next) :
    (Node.ofTaints next.server.taints).taintsBeside settings.taintKey =
      (Node.ofTaints (lastUpdate held.server.taints event.toList)).taintsBeside
        settings.taintKey := by
  cases step with
  | update => rfl
  | start => rfl
  | @ask request following server waiting answer answers =>
      cases request with
      | patchTaints node taints =>
          exact (sound.patch waiting answers).1.taintsBeside
      | _ =>
          cases answers.aside rfl
          rfl
  | stop => rfl

theorem lastUpdate_concat (taints : List Taint) (events : List Event)
    (event : Option Event) :
    lastUpdate taints (events ++ event.toList) =
      lastUpdate (lastUpdate taints events) event.toList := by
  cases event with
  | none => simp [lastUpdate]
  | some event =>
      cases event with
      | updated taints => simp [lastUpdate, Event.update?]
      | asked exchange => simp [lastUpdate, Event.update?]

theorem lastUpdate_congr {taints others : List Taint} {key : String}
    (same : (Node.ofTaints taints).taintsBeside key =
      (Node.ofTaints others).taintsBeside key) (events : List Event) :
    (Node.ofTaints (lastUpdate taints events)).taintsBeside key =
      (Node.ofTaints (lastUpdate others events)).taintsBeside key := by
  unfold lastUpdate
  cases (events.filterMap Event.update?).getLast? with
  | none => exact same
  | some latest => rfl

theorem Run.taintsBeside (sound : Sound settings first)
    (run : Run settings first events last) :
    (Node.ofTaints last.server.taints).taintsBeside settings.taintKey =
      (Node.ofTaints (lastUpdate first.server.taints events)).taintsBeside
        settings.taintKey := by
  induction run with
  | refl => rfl
  | @tail middle last events event run step induction =>
      rw [step.taintsBeside (Run.sound run sound), lastUpdate_concat]
      exact lastUpdate_congr induction _

/-- Whether the node has a version or had it. -/
def Had (version : String) (held : SharedNode) : Prop :=
  version ∈ held.server.version :: held.server.past

/-- Whether the node had a version and has another one. -/
def Left (version : String) (held : SharedNode) : Prop :=
  version ∈ held.server.past

theorem Run.had {version : String} (run : Run settings first events last)
    (had : Had version first) : Had version last :=
  run.invariant had (fun known step => step.advances.versions_subset known)

theorem Run.left {version : String} (run : Run settings first events last)
    (left : Left version first) : Left version last :=
  run.invariant left (fun known step => step.advances.past_subset known)

theorem Run.left_of_updated {version : String} {taints : List Taint}
    (run : Run settings first events last) (had : Had version first)
    (updated : .updated taints ∈ events) : Left version last := by
  obtain ⟨earlier, later, parts⟩ := List.append_of_mem updated
  obtain ⟨held, next, before, step, rest⟩ := run.cut parts
  have known : Had version held := Run.had before had
  have left : Left version next := by
    cases step with
    | update => exact known
  exact Run.left rest left

/-- An event of a run with what was before and after it. -/
structure Moment (settings : EvictionSettings) (first : SharedNode)
    (earlier : List Event) (event : Event) (later : List Event)
    (last held next : SharedNode) : Prop where
  before : Run settings first earlier held
  step : Step settings held (some event) next
  after : Run settings next later last

/-- A patch was computed from a reading of the node, and another client
updated the node between the two. -/
def Overtaken (settings : EvictionSettings) (node : Node)
    (earlier : List Event) : Prop :=
  ∃ before between others,
    earlier = before ++ .asked ⟨.getNode settings.nodeName, .ok node⟩ :: between ∧
      .updated others ∈ between

theorem Run.outdated {server : ServedNode} (orderly : server.Orderly)
    {earlier : List Event} (run : Run settings { server } earlier held)
    (overtaken : Overtaken settings node earlier) :
    node.metadata.resourceVersion ≠ some held.server.version := by
  obtain ⟨before, between, others, parts, updated⟩ := overtaken
  obtain ⟨read, after, start, step, rest⟩ := run.cut parts
  have sound := Run.sound start (sound_start orderly)
  obtain ⟨version, named, old⟩ :=
    (known_of_answers sound.orderly step.of_asked.1).version
  have left : Left version held := Run.left_of_updated rest old updated
  intro current
  rw [named] at current
  cases current
  exact (Run.sound run (sound_start orderly)).orderly.fresh left

/-- In every run in which other clients update the node at any time, the
taints of other keys are at the end as the last of these clients left them.
Only patches change the node, and one that succeeds leaves exactly the taints
that the node had at that instant, but for those of the key.  A patch that was
computed from a reading that is no longer current is refused and changes
nothing, and so is one when another client updated the node in between. -/
theorem no_update_lost {server : ServedNode} (orderly : server.Orderly)
    (run : Run settings { server } events last) :
    (Node.ofTaints last.server.taints).taintsBeside settings.taintKey =
        (Node.ofTaints (lastUpdate server.taints events)).taintsBeside
          settings.taintKey ∧
      ∀ earlier exchange later, events = earlier ++ .asked exchange :: later →
        ∃ held next, Moment settings { server } earlier (.asked exchange) later
            last held next ∧
          (exchange.patches = false → next.server = held.server) ∧
          ∀ node taints answer, exchange = ⟨.patchTaints node taints, answer⟩ →
            PatchKept settings held node answer next.server ∧
              (Overtaken settings node earlier →
                next.server = held.server ∧ ∃ fault, answer = .error fault) := by
  have sound : Sound settings { server } := sound_start orderly
  constructor
  · exact Run.taintsBeside sound run
  · intro earlier exchange later parts
    obtain ⟨held, next, before, step, after⟩ := run.cut parts
    obtain ⟨answers, following, waiting⟩ := step.of_asked
    refine ⟨held, next, ⟨before, step, after⟩, answers.aside, ?_⟩
    rintro node taints answer rfl
    have kept := ((Run.sound before sound).patch waiting answers).1
    refine ⟨kept, fun overtaken => ?_⟩
    exact kept.outdated (Run.outdated orderly before overtaken)

/-- A cycle may read the node, find that the eviction taint is to be taken
away, and be about to patch it. -/
theorem exists_run_to_removal {reply : Reply}
    (run : Run settings first events held) (idle : held.cycle = none)
    (addressed : ServedNode.Addressed settings.nodeName)
    (shownBy : held.server.ShownBy settings.nodeName reply)
    (tainted : (Node.ofTaints held.server.taints).hasEvictionTaint
      settings.taintKey = true) :
    ∃ node, reply.read Node.ofManifest? = .ok node ∧
      held.server.Shows settings.nodeName node ∧
      Run settings first
        (events ++ [.asked ⟨.judge, .ok {}⟩, .asked ⟨.showShortage false, ()⟩,
          .asked ⟨.getNode settings.nodeName, .ok node⟩])
        { server := held.server
          cycle := some (Cycle.removeTaint settings node)
          said := [⟨.judge, .ok {}⟩, ⟨.showShortage false, ()⟩,
            ⟨.getNode settings.nodeName, .ok node⟩] } := by
  obtain ⟨node, told, shows, shown⟩ :=
    ServedNode.exists_conducts_getNode addressed shownBy
  have same : node.taints = (Node.ofTaints held.server.taints).taints :=
    shows.taints
  have follows : Cycle.follow settings {} node =
      Cycle.removeTaint settings node := by
    unfold Cycle.follow
    rw [Node.hasEvictionTaint_congr same, tainted]
    rfl
  refine ⟨node, told, shows, ?_⟩
  have begun : Run settings held [] held := .refl held
  have judged := (begun.tail (.start idle)).tail
    (@Step.ask settings _ .judge _ _ rfl
      (Except.ok {} : Except Fault Verdict) rfl)
  have showed := judged.tail
    (@Step.ask settings _ (.showShortage false) _ _ rfl () rfl)
  have read := showed.tail
    (@Step.ask settings _ (.getNode settings.nodeName) _ _ rfl
      (Except.ok node : Except Fault Node) shown)
  rw [← follows]
  exact run.trans read

/-- The eviction taint is to be taken away, but another client adds a taint
before the patch arrives, which is refused.  The next cycle takes the eviction
taint away and leaves the other one. -/
theorem no_update_lost_overtaken :
    ∃ (server : ServedNode) (events : List Event) (last : SharedNode),
      server.Orderly ∧
        Run { nodeName := "n", taintKey := "evict" } { server } events last ∧
        server.taints = [evictionTaint "evict"] ∧
        last.server.taints = [⟨"gpu", "NoSchedule", none, none⟩] ∧
        (Node.ofTaints last.server.taints).taintsBeside "evict" =
          (Node.ofTaints (lastUpdate server.taints events)).taintsBeside
            "evict" := by
  let settings : EvictionSettings := { nodeName := "n", taintKey := "evict" }
  let gpu : Taint := ⟨"gpu", "NoSchedule", none, none⟩
  let server : ServedNode :=
    { version := "1", taints := [evictionTaint "evict"] }
  let shared := server.updated "2" [evictionTaint "evict", gpu]
  let firstReply : Reply := ⟨200, "\x7b\"metadata\":" ++
    "\x7b\"name\":\"n\",\"resourceVersion\":\"1\"\x7d,\"spec\":" ++
    "\x7b\"taints\":[\x7b\"key\":\"evict\",\"effect\":\"NoSchedule\"\x7d" ++
    "]\x7d\x7d"⟩
  let secondReply : Reply := ⟨200, "\x7b\"metadata\":" ++
    "\x7b\"name\":\"n\",\"resourceVersion\":\"2\"\x7d,\"spec\":" ++
    "\x7b\"taints\":[\x7b\"key\":\"evict\",\"effect\":\"NoSchedule\"\x7d," ++
    "\x7b\"key\":\"gpu\",\"effect\":\"NoSchedule\"\x7d]\x7d\x7d"⟩
  let conflict : Reply := ⟨409, ""⟩
  have addressed : ServedNode.Addressed settings.nodeName := by
    constructor
    all_goals decide +kernel
  have readable : ∀ taint ∈ [evictionTaint "evict", gpu], taint.Readable := by
    intro taint member
    simp only [List.mem_cons, List.not_mem_nil, or_false] at member
    rcases member with rfl | rfl
    · exact Taint.readable_of_untimed rfl
    · exact Taint.readable_of_untimed rfl
  have orderly : server.Orderly := by
    constructor
    · decide
    · intro taint member
      rw [List.mem_singleton.mp member]
      exact Taint.readable_of_untimed rfl
  have fresh : "2" ∉ server.version :: server.past := by decide
  have freshAgain : "3" ∉ shared.version :: shared.past := by decide
  have firstShows : ServedNode.ShownBy "n" server firstReply := by
    decide +kernel
  have secondShows : ServedNode.ShownBy "n" shared secondReply := by
    decide +kernel
  have start : Run settings { server } [] { server } := .refl _
  obtain ⟨first, _, shows, begun⟩ :=
    exists_run_to_removal start rfl addressed firstShows (by decide)
  have overtaken := begun.tail (.update (Taint.mapM_toManifest readable) fresh)
  have refused := overtaken.tail (@Step.ask settings _
    (.patchTaints first (first.taintsWithout "evict")) _ _ rfl _
    (ServedNode.conducts_patchTaints_refused addressed shows.name
      (show conflict.isRefusal = true from rfl)))
  have ended := refused.tail (.stop rfl)
  obtain ⟨second, read, showsAgain, begunAgain⟩ :=
    exists_run_to_removal ended rfl addressed secondShows
      (show (Node.ofTaints shared.taints).hasEvictionTaint "evict" = true
        by decide)
  have both : second.taints = [evictionTaint "evict", gpu] := showsAgain.taints
  have withoutEvict : second.taintsWithout "evict" = [gpu] := by
    rw [Node.taintsWithout, both]
    decide
  have readableGpu :
      ∀ taint ∈ second.taintsWithout "evict", taint.Readable := by
    rw [withoutEvict]
    intro taint member
    exact readable taint (List.mem_cons_of_mem _ member)
  have removed := begunAgain.tail (@Step.ask settings _
    (.patchTaints second (second.taintsWithout "evict")) _ _ rfl _
    (ServedNode.conducts_patchTaints addressed showsAgain.name readableGpu
      showsAgain.version freshAgain read))
  exact ⟨server, _, _, orderly, removed, rfl, withoutEvict,
    (no_update_lost orderly removed).1⟩

end SharedNode

end SwapWarden
