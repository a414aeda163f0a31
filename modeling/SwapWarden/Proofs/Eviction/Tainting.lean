import SwapWarden.Proofs.Eviction.Safety
import SwapWarden.Proofs.Node.EvictionTaint
import SwapWarden.Proofs.Run

/-!
# The taint follows the verdict

The cycles of an agent change the taints of its node, and nobody else does.
Whatever else is answered, a cycle first asks for a verdict and for the node,
and then patches the taints exactly when the node's eviction taint is not as
the verdict wants it.  So after every cycle whose calls succeeded it is, and
one whose calls failed leaves the taints as they were.
-/

namespace SwapWarden

namespace Cycle

open Program

variable {settings : EvictionSettings} {said : List Exchange}

/-! ## What a cycle asks about the taint -/

namespace Exchange

def concernsTaint : Exchange → Bool
  | ⟨.judge, _⟩ | ⟨.getNode _, _⟩ | ⟨.patchTaints _ _, _⟩ => true
  | _ => false

def patches : Exchange → Bool
  | ⟨.patchTaints _ _, _⟩ => true
  | _ => false

def findsNode : Exchange → Bool
  | ⟨.getNode _, .ok _⟩ => true
  | _ => false

/-- Whether a call about the taint was refused. -/
def refused : Exchange → Bool
  | ⟨.judge, .error _⟩ | ⟨.getNode _, .error _⟩
  | ⟨.patchTaints _ _, .error _⟩ => true
  | _ => false

end Exchange

/-- The part of a conversation that is about the taint. -/
def taintTalk (said : List Exchange) : List Exchange :=
  said.filter Exchange.concernsTaint

theorem taintTalk_append (said : List Exchange) (exchange : Exchange) :
    taintTalk (said ++ [exchange]) =
      taintTalk said ++ if exchange.concernsTaint then [exchange] else [] := by
  simp [taintTalk, List.filter_cons]

/-- Everything that a whole cycle says about the taint. -/
inductive TaintTalk (settings : EvictionSettings) : List Exchange → Prop where
  | unjudged (fault : Fault) : TaintTalk settings [⟨.judge, .error fault⟩]
  | unfound (verdict : Verdict) (fault : Fault) :
      TaintTalk settings [⟨.judge, .ok verdict⟩,
        ⟨.getNode settings.nodeName, .error fault⟩]
  | settled (verdict : Verdict) (node : Node)
      (agrees : node.hasEvictionTaint settings.taintKey = verdict.isShortage) :
      TaintTalk settings [⟨.judge, .ok verdict⟩,
        ⟨.getNode settings.nodeName, .ok node⟩]
  | patched (verdict : Verdict) (node : Node) (answer : Except Fault Unit)
      (differs :
        node.hasEvictionTaint settings.taintKey ≠ verdict.isShortage) :
      TaintTalk settings [⟨.judge, .ok verdict⟩,
        ⟨.getNode settings.nodeName, .ok node⟩,
        ⟨.patchTaints node
          (node.taintsFor settings.taintKey verdict.isShortage), answer⟩]

/-- Anything may be asked, and all of it is noted. -/
abbrev openly : Protocol CycleRequest CycleRequest.Answer (List Exchange) :=
  Protocol.recording fun _ _ => True

theorem taintTalk_aside {exchange : Exchange}
    (aside : exchange.concernsTaint = false) :
    taintTalk (said ++ [exchange]) = taintTalk said := by
  rw [taintTalk_append, aside]
  exact List.append_nil _

/-- A part of a cycle that ends without a word about the taint. -/
abbrev Silent {α : Type} (said : List Exchange) (part : Part α) : Prop :=
  openly.Keeps (fun later _ => taintTalk later = taintTalk said) part said

theorem Silent.done {α : Type} (value : α) : Silent said (.done value) := rfl

theorem Silent.ask {α : Type} {request : CycleRequest}
    {next : request.Answer → Part α}
    (aside : ∀ answer, Exchange.concernsTaint ⟨request, answer⟩ = false)
    (later : ∀ answer, Silent (said ++ [⟨request, answer⟩]) (next answer)) :
    Silent said ((Program.request request).bind next) := by
  refine Protocol.Keeps.ask trivial fun answer => ?_
  refine (later answer).mono fun final _ same => ?_
  exact same.trans (taintTalk_aside (aside answer))

theorem Silent.bind {α β : Type} {first : Part α} {next : α → Part β}
    (begins : Silent said first)
    (later : ∀ said value, Silent said (next value)) :
    Silent said (first.bind next) := by
  refine Protocol.Keeps.bind (begins.mono fun middle value same => ?_)
  refine (later middle value).mono fun final _ still => ?_
  exact still.trans same

theorem evict_silent (said : List Exchange) (pod : Pod) :
    Silent said (evict pod) := by
  by_cases free : pod.finalizers = []
  · rw [evict_of_free free]
    exact Silent.ask (fun _ => rfl) fun _ => .done _
  · rw [evict_of_bound free]
    refine Silent.ask (fun _ => rfl) fun cleared => ?_
    cases cleared with
    | error fault => exact .done _
    | ok done => exact Silent.ask (fun _ => rfl) fun _ => .done _

theorem evictFirst_silent (said : List Exchange) (candidates : List Pod) :
    Silent said (evictFirst candidates) := by
  cases candidates with
  | nil => exact .done _
  | cons pod others =>
      refine Silent.bind (evict_silent said pod) fun later attempt => ?_
      cases attempt with
      | error fault => exact Silent.ask (fun _ => rfl) fun _ => .done _
      | ok done =>
          refine Silent.ask (fun _ => rfl) fun _ => ?_
          exact Silent.ask (fun _ => rfl) fun _ => .done _

theorem relieve_silent (settings : EvictionSettings) (verdict : Verdict)
    (said : List Exchange) : Silent said (relieve settings verdict) := by
  refine Silent.ask (fun _ => rfl) fun _ => ?_
  refine Silent.ask (fun _ => rfl) fun listed => ?_
  cases listed with
  | error fault => exact .done _
  | ok pods =>
      change Silent _ (if (aliveCandidates settings pods).isEmpty then _ else _)
      by_cases deserted : (aliveCandidates settings pods).isEmpty = true
      · rw [if_pos deserted]
        exact .done _
      · rw [if_neg deserted]
        refine Silent.ask (fun _ => rfl) fun measured => ?_
        cases measured with
        | error fault => exact evictFirst_silent _ _
        | ok usages => exact evictFirst_silent _ _

section

variable {verdict : Verdict} {node : Node}

theorem Silent.talk {α : Type} {part : Part α}
    (told : TaintTalk settings (taintTalk said)) (silent : Silent said part) :
    openly.Keeps (fun later _ => TaintTalk settings (taintTalk later)) part
      said :=
  silent.mono fun _ _ same => same.symm ▸ told

theorem patched_talk
    (asked : taintTalk said = [⟨.judge, .ok verdict⟩,
      ⟨.getNode settings.nodeName, .ok node⟩])
    (differs : node.hasEvictionTaint settings.taintKey ≠ verdict.isShortage)
    (answer : Except Fault Unit) :
    TaintTalk settings (taintTalk (said ++ [⟨.patchTaints node
      (node.taintsFor settings.taintKey verdict.isShortage), answer⟩])) := by
  rw [taintTalk_append, asked]
  exact .patched verdict node answer differs

theorem removeTaint_talk
    (asked : taintTalk said = [⟨.judge, .ok verdict⟩,
      ⟨.getNode settings.nodeName, .ok node⟩])
    (tainted : node.hasEvictionTaint settings.taintKey = true)
    (calm : verdict.isShortage = false) :
    openly.Keeps (fun later _ => TaintTalk settings (taintTalk later))
      (removeTaint settings node) said := by
  have differs :
      node.hasEvictionTaint settings.taintKey ≠ verdict.isShortage := by
    rw [tainted, calm]
    decide
  refine Protocol.Keeps.ask trivial fun answer => ?_
  have patched := patched_talk asked differs answer
  rw [calm] at patched
  refine Silent.talk patched ?_
  cases answer with
  | error fault => exact .done _
  | ok done => exact Silent.ask (fun _ => rfl) fun _ => .done _

theorem addTaint_talk
    (asked : taintTalk said = [⟨.judge, .ok verdict⟩,
      ⟨.getNode settings.nodeName, .ok node⟩])
    (free : node.hasEvictionTaint settings.taintKey = false)
    (short : verdict.isShortage = true) :
    openly.Keeps (fun later _ => TaintTalk settings (taintTalk later))
      (addTaint settings node) said := by
  have differs :
      node.hasEvictionTaint settings.taintKey ≠ verdict.isShortage := by
    rw [free, short]
    decide
  refine Protocol.Keeps.ask trivial fun answer => ?_
  have patched := patched_talk asked differs answer
  rw [short] at patched
  refine Silent.talk patched ?_
  cases answer with
  | error fault => exact Silent.ask (fun _ => rfl) fun _ => .done ()
  | ok done =>
      refine Silent.ask (fun _ => rfl) fun _ => ?_
      exact Silent.ask (fun _ => rfl) fun _ => .done ()

theorem follow_talk
    (asked : taintTalk said = [⟨.judge, .ok verdict⟩,
      ⟨.getNode settings.nodeName, .ok node⟩]) :
    openly.Keeps (fun later _ => TaintTalk settings (taintTalk later))
      (follow settings verdict node) said := by
  unfold follow
  cases tainted : node.hasEvictionTaint settings.taintKey with
  | true =>
      cases shortage : verdict.isShortage with
      | true =>
          refine (relieve_silent settings verdict said).talk ?_
          rw [asked]
          exact .settled verdict node (tainted.trans shortage.symm)
      | false => exact removeTaint_talk asked tainted shortage
  | false =>
      cases shortage : verdict.isShortage with
      | true =>
          refine Protocol.Keeps.bind ?_
          refine (addTaint_talk asked tainted shortage).mono
            fun later _ told => ?_
          exact (relieve_silent settings verdict later).talk told
      | false =>
          change TaintTalk settings (taintTalk said)
          rw [asked]
          exact .settled verdict node (tainted.trans shortage.symm)

end

theorem decide_talk (settings : EvictionSettings) :
    openly.Keeps (fun said _ => TaintTalk settings (taintTalk said))
      (Cycle.decide settings) [] := by
  refine Protocol.Keeps.ask trivial fun judged => ?_
  cases judged with
  | error fault => exact .unjudged fault
  | ok verdict =>
      refine Protocol.Keeps.ask trivial fun _ =>
        Protocol.Keeps.ask trivial fun found => ?_
      cases found with
      | error fault => exact .unfound verdict fault
      | ok node => exact follow_talk rfl

theorem talk_of_reaches {outcome : Except Fault CycleOutcome}
    (reached : (Cycle.decide settings).Reaches said (.done outcome)) :
    TaintTalk settings (taintTalk said) := by
  have ends := (decide_talk settings).rest reached
  rw [Protocol.follow_recording] at ends
  exact ends

end Cycle

/-! ## Cycles on one node -/

namespace TaintLoop

open SwapWarden.Cycle (TaintTalk taintTalk)

/-- What is answered about the node that is held: whoever is given it finds
its taints. -/
def Fits (held : Node) : Cycle.Exchange → Prop
  | ⟨.getNode _, .ok node⟩ => node.taints = held.taints
  | _ => True

/-- The node that is held after a request.  A refused request changes nothing.
-/
def nodeAfter (held : Node) : Cycle.Exchange → Node
  | ⟨.patchTaints _ taints, .ok _⟩ => held.withTaints taints
  | _ => held

/-- A conversation about a node, and the node before and after it. -/
inductive Served : Node → List Cycle.Exchange → Node → Prop where
  | nil (held : Node) : Served held [] held
  | cons {held last : Node} {exchange : Cycle.Exchange} {later : List Cycle.Exchange}
      (fits : Fits held exchange)
      (rest : Served (nodeAfter held exchange) later last) :
      Served held (exchange :: later) last

/-- A decision cycle on a node, from its first request to its end. -/
inductive Step (settings : EvictionSettings) :
    Node → Option (List Cycle.Exchange) → Node → Prop where
  | cycle {held last : Node} {said : List Cycle.Exchange}
      {outcome : Except Fault CycleOutcome}
      (reached : (Cycle.decide settings).Reaches said (.done outcome))
      (served : Served held said last) : Step settings held (some said) last

/-- Any number of cycles, with what was said in each. -/
abbrev Run (settings : EvictionSettings) :
    Node → List (List Cycle.Exchange) → Node → Prop :=
  SwapWarden.Run (Step settings)

/-- What a cycle does to the taints of a node. -/
structure Follows (settings : EvictionSettings) (held : Node)
    (said : List Cycle.Exchange) (last : Node) : Prop where
  shown : ∀ verdict node, ⟨.judge, .ok verdict⟩ ∈ said →
    ⟨.getNode settings.nodeName, .ok node⟩ ∈ said →
    (∀ exchange ∈ said, exchange.patches = true → exchange.refused = false) →
    last.hasEvictionTaint settings.taintKey = verdict.isShortage
  single : ∀ verdict node taints, ⟨.judge, .ok verdict⟩ ∈ said →
    verdict.isShortage = true → ⟨.patchTaints node taints, .ok ()⟩ ∈ said →
    last.taintsUnder settings.taintKey = [evictionTaint settings.taintKey]
  beside : last.taintsBeside settings.taintKey =
    held.taintsBeside settings.taintKey
  patched_iff : ∀ verdict node, ⟨.judge, .ok verdict⟩ ∈ said →
    ⟨.getNode settings.nodeName, .ok node⟩ ∈ said →
    ((∃ exchange ∈ said, exchange.patches = true) ↔
      held.hasEvictionTaint settings.taintKey ≠ verdict.isShortage)
  refused : ∀ exchange ∈ said, exchange.refused = true → last = held

variable {settings : EvictionSettings} {held first last : Node}
  {said : List Cycle.Exchange}

theorem nodeAfter_aside {exchange : Cycle.Exchange}
    (aside : exchange.concernsTaint = false) :
    nodeAfter held exchange = held := by
  obtain ⟨request, answer⟩ := exchange
  cases request with
  | patchTaints node taints => cases aside
  | _ => rfl

theorem Served.talk (served : Served held said last) :
    Served held (taintTalk said) last := by
  induction served with
  | nil held => exact .nil held
  | @cons held last exchange later fits rest induction =>
      cases concerns : exchange.concernsTaint with
      | true =>
          rw [taintTalk, List.filter_cons_of_pos concerns]
          exact .cons fits induction
      | false =>
          rw [taintTalk, List.filter_cons_of_neg (by simp [concerns])]
          rw [nodeAfter_aside concerns] at induction
          exact induction

/-- A cycle does what the part of it that is about the taint does. -/
theorem Follows.of_talk (follows : Follows settings held (taintTalk said) last) :
    Follows settings held said last := by
  have told {exchange : Cycle.Exchange} (member : exchange ∈ said)
      (concerns : exchange.concernsTaint = true) : exchange ∈ taintTalk said :=
    List.mem_filter.mpr ⟨member, concerns⟩
  have spoken {exchange : Cycle.Exchange} (member : exchange ∈ taintTalk said) :
      exchange ∈ said := (List.mem_filter.mp member).1
  have concerns_of_patches {exchange : Cycle.Exchange}
      (patches : exchange.patches = true) : exchange.concernsTaint = true := by
    obtain ⟨request, answer⟩ := exchange
    cases request with
    | patchTaints node taints => rfl
    | _ => cases patches
  have concerns_of_refused {exchange : Cycle.Exchange}
      (refused : exchange.refused = true) : exchange.concernsTaint = true := by
    obtain ⟨request, answer⟩ := exchange
    cases request with
    | judge => rfl
    | getNode name => rfl
    | patchTaints node taints => rfl
    | _ => cases refused
  constructor
  · intro verdict node judged found accepted
    refine follows.shown verdict node (told judged rfl) (told found rfl) ?_
    intro exchange member
    exact accepted exchange (spoken member)
  · intro verdict node taints judged shortage patched
    exact follows.single verdict node taints (told judged rfl) shortage
      (told patched rfl)
  · exact follows.beside
  · intro verdict node judged found
    rw [← follows.patched_iff verdict node (told judged rfl) (told found rfl)]
    constructor
    · rintro ⟨exchange, member, patches⟩
      exact ⟨exchange, told member (concerns_of_patches patches), patches⟩
    · rintro ⟨exchange, member, patches⟩
      exact ⟨exchange, spoken member, patches⟩
  · intro exchange member refused
    exact follows.refused exchange (told member (concerns_of_refused refused))
      refused

theorem follows_of_nothing {talk : List Cycle.Exchange}
    (lost : ∀ exchange ∈ talk, exchange.findsNode = false)
    (unpatched : ∀ exchange ∈ talk, exchange.patches = false) :
    Follows settings held talk held := by
  constructor
  · intro _ _ _ found
    cases lost _ found
  · intro _ _ _ _ _ patched
    cases unpatched _ patched
  · rfl
  · intro _ _ _ found
    cases lost _ found
  · intro _ _ _
    rfl

section

variable {verdict other : Verdict} {node found : Node} {taints : List Taint}
  {rest : List Cycle.Exchange}

/-- A conversation that begins with a verdict and a node and goes on with
patches alone has no other verdict. -/
theorem verdict_eq
    (patching : ∀ exchange ∈ rest, exchange.patches = true)
    (judged : (⟨.judge, .ok other⟩ : Cycle.Exchange) ∈ ⟨.judge, .ok verdict⟩ ::
      ⟨.getNode settings.nodeName, .ok node⟩ :: rest) : other = verdict := by
  rcases List.mem_cons.mp judged with same | later
  · cases same
    rfl
  · rcases List.mem_cons.mp later with same | later
    · cases same
    · cases patching _ later

theorem mem_rest_of_patches {exchange : Cycle.Exchange}
    (member : exchange ∈ (⟨.judge, .ok verdict⟩ : Cycle.Exchange) ::
      ⟨.getNode settings.nodeName, .ok node⟩ :: rest)
    (patches : exchange.patches = true) : exchange ∈ rest := by
  rcases List.mem_cons.mp member with rfl | later
  · cases patches
  · rcases List.mem_cons.mp later with rfl | later
    · cases patches
    · exact later

theorem follows_settled (same : node.taints = held.taints)
    (agrees : node.hasEvictionTaint settings.taintKey = verdict.isShortage) :
    Follows settings held [⟨.judge, .ok verdict⟩,
      ⟨.getNode settings.nodeName, .ok node⟩] held := by
  rw [Node.hasEvictionTaint_congr same] at agrees
  constructor
  · intro other found judged _ _
    obtain rfl := verdict_eq (by simp) judged
    exact agrees
  · intro _ _ _ _ _ patched
    cases mem_rest_of_patches patched rfl
  · rfl
  · intro other found judged _
    obtain rfl := verdict_eq (by simp) judged
    constructor
    · rintro ⟨exchange, member, patches⟩
      cases mem_rest_of_patches member patches
    · intro differs
      exact absurd agrees differs
  · intro _ _ _
    rfl

theorem follows_refused (fault : Fault) (same : node.taints = held.taints)
    (differs : node.hasEvictionTaint settings.taintKey ≠ verdict.isShortage) :
    Follows settings held [⟨.judge, .ok verdict⟩,
      ⟨.getNode settings.nodeName, .ok node⟩,
      ⟨.patchTaints found taints, .error fault⟩] held := by
  rw [Node.hasEvictionTaint_congr same] at differs
  have patch : (⟨.patchTaints found taints, .error fault⟩ : Cycle.Exchange) ∈
      ([⟨.judge, .ok verdict⟩, ⟨.getNode settings.nodeName, .ok node⟩,
        ⟨.patchTaints found taints, .error fault⟩] : List Cycle.Exchange) :=
    List.mem_cons_of_mem _ (List.mem_cons_of_mem _ List.mem_cons_self)
  constructor
  · intro _ _ _ _ accepted
    cases accepted _ patch rfl
  · intro _ _ _ _ _ patched
    cases List.mem_singleton.mp (mem_rest_of_patches patched rfl)
  · rfl
  · intro other _ judged _
    obtain rfl := verdict_eq (by simp [Cycle.Exchange.patches]) judged
    constructor
    · intro _
      exact differs
    · intro _
      exact ⟨_, patch, rfl⟩
  · intro _ _ _
    rfl

theorem follows_patched (same : node.taints = held.taints)
    (differs : node.hasEvictionTaint settings.taintKey ≠ verdict.isShortage) :
    Follows settings held [⟨.judge, .ok verdict⟩,
        ⟨.getNode settings.nodeName, .ok node⟩,
        ⟨.patchTaints node
          (node.taintsFor settings.taintKey verdict.isShortage), .ok ()⟩]
      (held.withTaints
        (node.taintsFor settings.taintKey verdict.isShortage)) := by
  rw [Node.hasEvictionTaint_congr same] at differs
  rw [Node.taintsFor_congr same]
  have accepted : ∀ exchange ∈ ([⟨.judge, .ok verdict⟩,
      ⟨.getNode settings.nodeName, .ok node⟩,
      ⟨.patchTaints node
        (held.taintsFor settings.taintKey verdict.isShortage), .ok ()⟩] :
        List Cycle.Exchange), exchange.refused = false := by
    simp [Cycle.Exchange.refused]
  constructor
  · intro other _ judged _ _
    obtain rfl := verdict_eq (by simp [Cycle.Exchange.patches]) judged
    exact held.hasEvictionTaint_taintsFor _ _
  · intro other _ _ judged shortage _
    obtain rfl := verdict_eq (by simp [Cycle.Exchange.patches]) judged
    rw [shortage]
    exact held.taintsUnder_taintsWith _
  · exact held.taintsBeside_taintsFor _ _
  · intro other _ judged _
    obtain rfl := verdict_eq (by simp [Cycle.Exchange.patches]) judged
    constructor
    · intro _
      exact differs
    · intro _
      refine ⟨_, List.mem_cons_of_mem _ (List.mem_cons_of_mem _
        List.mem_cons_self), rfl⟩
  · intro exchange member refused
    rw [accepted exchange member] at refused
    cases refused

end

/-- What a whole cycle says about the taint makes the taint follow. -/
theorem follows_of_talk {talk : List Cycle.Exchange} (told : TaintTalk settings talk)
    (served : Served held talk last) : Follows settings held talk last := by
  cases told with
  | unjudged fault =>
      cases served with
      | cons _ rest =>
          cases rest
          exact follows_of_nothing (by simp [Cycle.Exchange.findsNode])
            (by simp [Cycle.Exchange.patches])
  | unfound verdict fault =>
      cases served with
      | cons _ rest =>
          cases rest with
          | cons _ rest =>
              cases rest
              exact follows_of_nothing (by simp [Cycle.Exchange.findsNode])
                (by simp [Cycle.Exchange.patches])
  | settled verdict node agrees =>
      cases served with
      | cons _ rest =>
          cases rest with
          | cons same rest =>
              cases rest
              exact follows_settled same agrees
  | patched verdict node answer differs =>
      cases served with
      | cons _ rest =>
          cases rest with
          | cons same rest =>
              cases rest with
              | cons _ rest =>
                  cases rest
                  cases answer with
                  | error fault => exact follows_refused fault same differs
                  | ok done => exact follows_patched same differs

theorem Step.follows (step : Step settings held (some said) last) :
    Follows settings held said last := by
  cases step with
  | cycle reached served =>
      exact (follows_of_talk (Cycle.talk_of_reaches reached) served.talk).of_talk

theorem Run.taintsBeside {cycles : List (List Cycle.Exchange)}
    (run : Run settings first cycles last) :
    last.taintsBeside settings.taintKey =
      first.taintsBeside settings.taintKey := by
  induction run with
  | refl => rfl
  | tail _ step induction =>
      cases step with
      | cycle reached served =>
          exact (Step.follows (.cycle reached served)).beside.trans induction

/-- Over any number of cycles the taints of other keys stay as they are.  After
a cycle whose calls succeeded the node carries the eviction taint exactly when
the verdict was a shortage, and a patch for a shortage leaves one taint of the
key; the taints are patched exactly when they disagree with the verdict; and a
refused call leaves them as they were.  Adding the taint twice or taking it
away twice is as good as once, and what was added is taken away again. -/
theorem taint_follows {cycles : List (List Cycle.Exchange)}
    (run : Run settings first cycles last) :
    last.taintsBeside settings.taintKey =
        first.taintsBeside settings.taintKey ∧
      (∀ earlier said later, cycles = earlier ++ said :: later →
        ∃ held next, Run settings first earlier held ∧
          Follows settings held said next ∧ Run settings next later last) ∧
      ∀ (node : Node) (key : String),
        (node.withTaints (node.taintsWith key)).taintsWith key =
            node.taintsWith key ∧
          (node.withTaints (node.taintsWithout key)).taintsWithout key =
            node.taintsWithout key ∧
          ((node.withTaints (node.taintsWith key)).taintsWithout key =
              node.taints ↔
            ∀ taint ∈ node.taints, taint.key ≠ key) := by
  refine ⟨run.taintsBeside, ?_, ?_⟩
  · intro earlier said later parts
    obtain ⟨held, next, before, step, rest⟩ := run.cut parts
    exact ⟨held, next, before, step.follows, rest⟩
  · intro node key
    refine ⟨node.taintsWith_taintsWith key, node.taintsWithout_taintsWithout key,
      ?_⟩
    rw [node.taintsWithout_taintsWith key]
    exact node.taintsWithout_eq_iff key

/-- Three cycles on a node that has two other taints of the key and one of
another key: for a shortage the patch is refused at first and then accepted,
and when the shortage is over the taint is taken away. -/
theorem taint_follows_thrice :
    ∃ (first last : Node) (cycles : List (List Cycle.Exchange)),
      Run { taintKey := "evict" } first cycles last ∧
        first.taints.map Taint.key = ["evict", "gpu", "evict"] ∧
        cycles.map (·.countP Cycle.Exchange.patches) = [1, 1, 1] ∧
        last.taints.map Taint.key = ["gpu"] ∧
        last.taintsBeside "evict" = first.taintsBeside "evict" := by
  let settings : EvictionSettings := { taintKey := "evict" }
  let first : Node := { taintList := some [⟨"evict", "NoExecute", none, none⟩,
    ⟨"gpu", "NoSchedule", none, none⟩, ⟨"evict", "NoExecute", none, none⟩] }
  let tainted := first.withTaints (first.taintsWith "evict")
  let freed := tainted.withTaints (tainted.taintsWithout "evict")
  let answers (node : Node) (shortage : Bool) (patched : Except Fault Unit) :
      (request : CycleRequest) → request.Answer
    | .judge => Except.ok { highTraffic := shortage }
    | .getNode _ => Except.ok node
    | .patchTaints _ _ => patched
    | .listPods _ => Except.ok []
    | .listUsages => Except.error default
    | .clearFinalizers _ | .deletePod _ => Except.ok ()
    | .showShortage _ | .flush | .tell _ => ()
  have refused : Step settings first _ first :=
    .cycle (Program.reaches_conversation
      (answers first true (.error default)) (Cycle.decide settings))
      (.cons trivial (.cons trivial (.cons rfl (.cons trivial (.cons trivial
        (.cons trivial (.cons trivial (.nil first))))))))
  have added : Step settings first _ tainted :=
    .cycle (Program.reaches_conversation
      (answers first true (.ok ())) (Cycle.decide settings))
      (.cons trivial (.cons trivial (.cons rfl (.cons trivial (.cons trivial
        (.cons trivial (.cons trivial (.cons trivial (.nil tainted)))))))))
  have removed : Step settings tainted _ freed :=
    .cycle (Program.reaches_conversation
      (answers tainted false (.ok ())) (Cycle.decide settings))
      (.cons trivial (.cons trivial (.cons rfl (.cons trivial
        (.cons trivial (.nil freed))))))
  have run := (((Run.refl first).tail refused).tail added).tail removed
  exact ⟨first, freed, _, run, rfl, rfl, rfl, (taint_follows run).1⟩

end TaintLoop

end SwapWarden
