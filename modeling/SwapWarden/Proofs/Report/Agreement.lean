import Mathlib.Data.List.Induction
import SwapWarden.Proofs.Report.Health

/-!
# Both endpoints tell the latest reports

Health and readiness are worked out in different ways from one table that many
loops write to.  After any calls to the registry the table holds the latest
report on every component, so both endpoints answer by the same reports, and
only unhealthy components and the pod cache decide their codes.
-/

namespace SwapWarden

namespace ComponentStatus

/-- How bad a status is. -/
def severity : ComponentStatus → Nat
  | healthy => 0
  | degraded => 1
  | unhealthy => 2

theorem worse_cases (first second : ComponentStatus) :
    first.severity ≤ (first.worse second).severity ∧
      second.severity ≤ (first.worse second).severity ∧
      (first.worse second = first ∨ first.worse second = second) := by
  cases first with
  | _ =>
      cases second with
      | _ => decide

end ComponentStatus

/-- A call that changes what a registry holds. -/
inductive HealthCall where
  | registerAll
  | report (name : String) (result : Except Fault Unit)
  | setHealthy (name : String)
  | setDegraded (name message : String)
  | setUnhealthy (name message : String)
  | setSynced (synced : Bool)

namespace HealthCall

/-- What a call reports on a component. -/
def reportOn? (name : String) : HealthCall → Option ComponentHealth
  | registerAll =>
      if name ∈ Component.all then some { status := .healthy } else none
  | report other result =>
      if other = name then some (.ofResult result) else none
  | setHealthy other =>
      if other = name then some { status := .healthy } else none
  | setDegraded other message =>
      if other = name then
        some { status := .degraded, message := some message }
      else
        none
  | setUnhealthy other message =>
      if other = name then
        some { status := .unhealthy, message := some message }
      else
        none
  | setSynced _ => none

def synced? : HealthCall → Option Bool
  | setSynced synced => some synced
  | _ => none

/-- The latest report on a component. -/
def latest? (calls : List HealthCall) (name : String) :
    Option ComponentHealth :=
  (calls.filterMap (reportOn? name)).getLast?

/-- Whether the pod cache was last said to have synced. -/
def lastSynced (calls : List HealthCall) : Bool :=
  (calls.filterMap synced?).getLast?.getD false

/-- A component whose latest report is that it is unhealthy. -/
def IsLost (calls : List HealthCall) (name : String) : Prop :=
  ∃ health, latest? calls name = some health ∧ health.status = .unhealthy

/-- No component is worse, and one is as bad unless all is well. -/
structure IsWorst (calls : List HealthCall) (worst : ComponentStatus) :
    Prop where
  bounds : ∀ name health, latest? calls name = some health →
    health.status.severity ≤ worst.severity
  attained : worst = .healthy ∨
    ∃ name health, latest? calls name = some health ∧ health.status = worst

theorem latest?_concat (calls : List HealthCall) (call : HealthCall)
    (name : String) :
    latest? (calls ++ [call]) name =
      (call.reportOn? name).or (latest? calls name) := by
  unfold latest?
  rw [List.filterMap_append, List.getLast?_append]
  cases reported : call.reportOn? name with
  | none => simp [reported]
  | some health => simp [reported]

theorem lastSynced_concat (calls : List HealthCall) (call : HealthCall) :
    lastSynced (calls ++ [call]) = call.synced?.getD (lastSynced calls) := by
  unfold lastSynced
  rw [List.filterMap_append, List.getLast?_append]
  cases told : call.synced? with
  | none => simp [told]
  | some synced => simp [told]

theorem reportOn?_message {call : HealthCall} {name : String}
    {health : ComponentHealth} (reported : call.reportOn? name = some health) :
    health.message = none ↔ health.status = .healthy := by
  have told {own : Prop} [Decidable own] {report : ComponentHealth}
      (made : (if own then some report else none) = some health) :
      report = health :=
    Option.some.inj (Option.ite_none_right_eq_some.mp made).2
  cases call with
  | registerAll =>
      obtain rfl := told reported
      decide
  | report other result =>
      obtain rfl := told reported
      cases result with
      | ok _ => simp [ComponentHealth.ofResult]
      | error fault => simp [ComponentHealth.ofResult]
  | setHealthy other =>
      obtain rfl := told reported
      decide
  | setDegraded other message =>
      obtain rfl := told reported
      simp
  | setUnhealthy other message =>
      obtain rfl := told reported
      simp
  | setSynced _ => cases reported

theorem latest?_message {calls : List HealthCall} {name : String}
    {health : ComponentHealth} (latest : latest? calls name = some health) :
    health.message = none ↔ health.status = .healthy := by
  have member := List.mem_of_getLast? latest
  obtain ⟨call, -, reported⟩ := List.mem_filterMap.mp member
  exact reportOn?_message reported

end HealthCall

namespace HealthRegistry

open HealthCall (lastSynced IsLost)

variable {registry : HealthRegistry} {name : String}
  {health : ComponentHealth} {calls : List HealthCall}

/-- The registry after a call. -/
def after (registry : HealthRegistry) : HealthCall → HealthRegistry
  | .registerAll => registry.registerAll
  | .report name result => registry.report name result
  | .setHealthy name => registry.setHealthy name
  | .setDegraded name message => registry.setDegraded name message
  | .setUnhealthy name message => registry.setUnhealthy name message
  | .setSynced synced => registry.setSynced synced

/-- A new registry after some calls. -/
def afterAll (calls : List HealthCall) : HealthRegistry :=
  calls.foldl after {}

theorem afterAll_concat (calls : List HealthCall) (call : HealthCall) :
    afterAll (calls ++ [call]) = (afterAll calls).after call := by
  unfold afterAll
  rw [List.foldl_append, List.foldl_cons, List.foldl_nil]

theorem latest?_registerAll_of_foreign (foreign : name ∉ Component.all) :
    registry.registerAll.latest? name = registry.latest? name := by
  simp only [Component.all, List.mem_cons, List.not_mem_nil, or_false, not_or]
    at foreign
  obtain ⟨sampler, eviction, ceiling, cache⟩ := foreign
  simp only [registerAll, Component.all, List.foldl_cons, List.foldl_nil,
    setHealthy, latest?_set]
  rw [if_neg (Ne.symm cache), if_neg (Ne.symm ceiling),
    if_neg (Ne.symm eviction), if_neg (Ne.symm sampler)]

theorem latest?_after (registry : HealthRegistry) (call : HealthCall)
    (name : String) :
    (registry.after call).latest? name =
      (call.reportOn? name).or (registry.latest? name) := by
  have put (other : String) (health : ComponentHealth) :
      (registry.set other health).latest? name =
        (if other = name then some health else none).or
          (registry.latest? name) := by
    rw [latest?_set]
    by_cases same : other = name
    · rw [if_pos same, if_pos same]
      rfl
    · rw [if_neg same, if_neg same]
      rfl
  cases call with
  | registerAll =>
      by_cases member : name ∈ Component.all
      · rw [HealthCall.reportOn?, if_pos member]
        exact latest?_registerAll member
      · rw [HealthCall.reportOn?, if_neg member]
        exact latest?_registerAll_of_foreign member
  | report other result =>
      change (registry.report other result).latest? name = _
      rw [report_eq]
      exact put other _
  | setHealthy other => exact put other _
  | setDegraded other message => exact put other _
  | setUnhealthy other message => exact put other _
  | setSynced synced => rfl

/-- What is held of a component is the latest report on it. -/
theorem latest?_afterAll (calls : List HealthCall) (name : String) :
    (afterAll calls).latest? name = HealthCall.latest? calls name := by
  induction calls using List.reverseRecOn with
  | nil => rfl
  | append_singleton calls call induction =>
      rw [afterAll_concat, latest?_after, induction,
        HealthCall.latest?_concat]

theorem synced_after (registry : HealthRegistry) (call : HealthCall) :
    (registry.after call).synced = call.synced?.getD registry.synced := by
  cases call with
  | report name result =>
      cases result with
      | error fault => rfl
      | ok done => rfl
  | _ => rfl

theorem synced_afterAll (calls : List HealthCall) :
    (afterAll calls).synced = lastSynced calls := by
  induction calls using List.reverseRecOn with
  | nil => rfl
  | append_singleton calls call induction =>
      rw [afterAll_concat, synced_after, induction,
        HealthCall.lastSynced_concat]

/-! ## One report per component -/

/-- No component has two reports. -/
def Distinct (registry : HealthRegistry) : Prop :=
  registry.components.keys.Nodup

theorem Distinct.set (distinct : registry.Distinct)
    (health : ComponentHealth) : (registry.set name health).Distinct :=
  Table.nodup_putIn name health distinct

theorem Distinct.after (distinct : registry.Distinct) (call : HealthCall) :
    (registry.after call).Distinct := by
  cases call with
  | registerAll =>
      change (Component.all.foldl setHealthy registry).Distinct
      exact ((((distinct.set _).set _).set _).set _)
  | report name result =>
      change (registry.report name result).Distinct
      rw [report_eq]
      exact distinct.set _
  | setHealthy name => exact distinct.set _
  | setDegraded name message => exact distinct.set _
  | setUnhealthy name message => exact distinct.set _
  | setSynced synced => exact distinct

theorem distinct_afterAll (calls : List HealthCall) :
    (afterAll calls).Distinct := by
  induction calls using List.reverseRecOn with
  | nil => exact List.nodup_nil
  | append_singleton calls call induction =>
      rw [afterAll_concat]
      exact induction.after call

/-! ## Reports in the order of their names -/

theorem sortedReports_perm (registry : HealthRegistry) :
    registry.sortedReports.Perm registry.components.entries :=
  List.mergeSort_perm registry.components.entries _

theorem mem_sortedReports_iff (distinct : registry.Distinct) :
    (name, health) ∈ registry.sortedReports ↔
      registry.latest? name = some health := by
  rw [registry.sortedReports_perm.mem_iff]
  exact Table.mem_entries_iff distinct

theorem sortedReports_ascending (distinct : registry.Distinct) :
    registry.sortedReports.Pairwise (fun first second =>
      first.1 < second.1) := by
  have sorted : registry.sortedReports.Pairwise (fun first second =>
      decide (first.1 ≤ second.1) = true) := by
    apply List.pairwise_mergeSort
    · intro first second third before after
      exact decide_eq_true
        (String.le_trans (of_decide_eq_true before) (of_decide_eq_true after))
    · intro first second
      rw [Bool.or_eq_true, decide_eq_true_iff, decide_eq_true_iff]
      exact String.le_total first.1 second.1
  have apart : (registry.sortedReports.map Prod.fst).Nodup :=
    (registry.sortedReports_perm.map Prod.fst).nodup_iff.mpr distinct
  apply (sorted.and (List.pairwise_map.mp apart)).imp
  intro first second ordered
  exact Std.lt_of_le_of_ne (of_decide_eq_true ordered.1) ordered.2

theorem unhealthyNames_ascending (distinct : registry.Distinct) :
    registry.unhealthyNames.Pairwise (· < ·) := by
  apply List.pairwise_map.mpr
  apply List.Pairwise.filter
  exact sortedReports_ascending distinct

theorem mem_unhealthyNames_iff (distinct : registry.Distinct) :
    name ∈ registry.unhealthyNames ↔
      ∃ health, registry.latest? name = some health ∧
        health.status = .unhealthy := by
  unfold unhealthyNames
  rw [List.mem_map]
  constructor
  · rintro ⟨report, member, rfl⟩
    obtain ⟨present, lost⟩ := List.mem_filter.mp member
    exact ⟨report.2, (mem_sortedReports_iff distinct).mp present,
      beq_iff_eq.mp lost⟩
  · rintro ⟨health, latest, lost⟩
    have present := (mem_sortedReports_iff distinct).mpr latest
    exact ⟨(name, health),
      List.mem_filter.mpr ⟨present, beq_iff_eq.mpr lost⟩, rfl⟩

/-! ## The worst status is attained -/

theorem foldl_worse_bounds (reports : List ComponentHealth)
    (start : ComponentStatus) :
    let worst := reports.foldl (fun worst health =>
      worst.worse health.status) start
    start.severity ≤ worst.severity ∧
      (∀ health ∈ reports, health.status.severity ≤ worst.severity) ∧
      (worst = start ∨ ∃ health ∈ reports, health.status = worst) := by
  induction reports generalizing start with
  | nil => exact ⟨Nat.le_refl _, List.forall_mem_nil _, .inl rfl⟩
  | cons health reports induction =>
      obtain ⟨first, second, either⟩ :=
        ComponentStatus.worse_cases start health.status
      obtain ⟨above, bounded, attained⟩ :=
        induction (start.worse health.status)
      refine ⟨Nat.le_trans first above, ?_, ?_⟩
      · exact List.forall_mem_cons.mpr ⟨Nat.le_trans second above, bounded⟩
      · cases attained with
        | inr later =>
            obtain ⟨other, member, same⟩ := later
            exact .inr ⟨other, List.mem_cons_of_mem health member, same⟩
        | inl kept =>
            cases either with
            | inl start => exact .inl (kept.trans start)
            | inr reported =>
                exact .inr ⟨health, List.mem_cons_self,
                  (kept.trans reported).symm⟩

theorem mem_values_afterAll_iff (calls : List HealthCall) :
    health ∈ (afterAll calls).components.values ↔
      ∃ name, HealthCall.latest? calls name = some health := by
  unfold Table.values
  rw [List.mem_map]
  constructor
  · rintro ⟨entry, member, rfl⟩
    refine ⟨entry.1, ?_⟩
    rw [← latest?_afterAll]
    exact (Table.mem_entries_iff (distinct_afterAll calls)).mp member
  · rintro ⟨name, latest⟩
    rw [← latest?_afterAll] at latest
    exact ⟨(name, health),
      (Table.mem_entries_iff (distinct_afterAll calls)).mpr latest, rfl⟩

theorem status_isWorst (calls : List HealthCall) :
    HealthCall.IsWorst calls (afterAll calls).status := by
  obtain ⟨-, bounded, attained⟩ :=
    foldl_worse_bounds (afterAll calls).components.values .healthy
  constructor
  · intro name health latest
    exact bounded health ((mem_values_afterAll_iff calls).mpr ⟨name, latest⟩)
  · apply attained.imp_right
    rintro ⟨health, member, same⟩
    obtain ⟨name, latest⟩ := (mem_values_afterAll_iff calls).mp member
    exact ⟨name, health, latest, same⟩

theorem status_eq_unhealthy_iff_lost (calls : List HealthCall) :
    (afterAll calls).status = .unhealthy ↔ ∃ name, IsLost calls name := by
  rw [status_eq_unhealthy_iff]
  constructor
  · rintro ⟨health, member, lost⟩
    obtain ⟨name, latest⟩ := (mem_values_afterAll_iff calls).mp member
    exact ⟨name, health, latest, lost⟩
  · rintro ⟨name, health, latest, lost⟩
    exact ⟨health, (mem_values_afterAll_iff calls).mpr ⟨name, latest⟩, lost⟩

theorem mem_unhealthyNames_iff_lost (calls : List HealthCall) :
    name ∈ (afterAll calls).unhealthyNames ↔ IsLost calls name := by
  rw [mem_unhealthyNames_iff (distinct_afterAll calls)]
  unfold IsLost
  rw [latest?_afterAll]

theorem ready_afterAll_iff (calls : List HealthCall) :
    (afterAll calls).readiness.ready = true ↔
      lastSynced calls = true ∧ ¬∃ name, IsLost calls name := by
  rw [ready_iff, synced_afterAll, ne_eq, status_eq_unhealthy_iff_lost]

end HealthRegistry

namespace Endpoint

open HealthCall (latest? lastSynced IsLost IsWorst)
open HealthRegistry (afterAll)
open Text (Json)

/-- What the answers on health and on readiness tell after some calls.  The
worst status stands above all latest reports, each told once, and once the pod
cache has synced the reason names who is lost. -/
structure TellsLatest (calls : List HealthCall) (healthz readyz : Response) :
    Prop where
  reports : ∃ (worst : ComponentStatus)
      (entries : List (String × ComponentHealth)),
    IsWorst calls worst ∧
    entries.Pairwise (fun first second => first.1 < second.1) ∧
    (∀ name health, (name, health) ∈ entries ↔
      latest? calls name = some health) ∧
    healthz.body = .document (.record [("status", .text worst.name),
      ("components", .record (entries.map (fun entry =>
        (entry.1, componentDocument entry.2))))])
  messages : ∀ name health, latest? calls name = some health →
    (health.message = none ↔ health.status = .healthy)
  unavailable : healthz.status = 503 ↔ ∃ name, IsLost calls name
  available : healthz.status = 200 ↔ ¬∃ name, IsLost calls name
  ready : readyz.status = 200 ↔
    lastSynced calls = true ∧ ¬∃ name, IsLost calls name
  unready : readyz.status = 503 ↔
    ¬(lastSynced calls = true ∧ ¬∃ name, IsLost calls name)
  unsynced : lastSynced calls = false →
    readyz.body = .document (.record [("ready", .bool false),
      ("reason", .text "Pod cache not yet synced")])
  named : lastSynced calls = true → (∃ name, IsLost calls name) →
    ∃ names : List String, names.Pairwise (· < ·) ∧
      (∀ name, name ∈ names ↔ IsLost calls name) ∧
      readyz.body = .document (.record [("ready", .bool false),
        ("reason", .text ("Unhealthy: " ++ String.intercalate ", " names))])

variable {counters : Metrics}

theorem body_readyz_unsynced {registry : HealthRegistry}
    (unsynced : registry.synced = false) :
    (respond registry counters "GET" "/readyz").body =
      .document (.record [("ready", .bool false),
        ("reason", .text "Pod cache not yet synced")]) := by
  change (readiness registry).body = _
  unfold readiness HealthRegistry.readiness
  rw [unsynced]
  rfl

theorem body_readyz_named {registry : HealthRegistry}
    (synced : registry.synced = true) (lost : registry.unhealthyNames ≠ []) :
    (respond registry counters "GET" "/readyz").body =
      .document (.record [("ready", .bool false),
        ("reason", .text ("Unhealthy: " ++
          String.intercalate ", " registry.unhealthyNames))]) := by
  change (readiness registry).body = _
  unfold readiness HealthRegistry.readiness
  rw [synced]
  cases named : registry.unhealthyNames with
  | nil => exact absurd named lost
  | cons name names => rfl

/-! ## The codes -/

theorem status_healthz_congr {calls others : List HealthCall}
    (lost : ∀ name, IsLost others name ↔ IsLost calls name) :
    (respond (afterAll others) counters "GET" "/healthz").status =
      (respond (afterAll calls) counters "GET" "/healthz").status := by
  have unhealthy : (afterAll others).status = .unhealthy ↔
      (afterAll calls).status = .unhealthy := by
    rw [HealthRegistry.status_eq_unhealthy_iff_lost,
      HealthRegistry.status_eq_unhealthy_iff_lost]
    exact exists_congr lost
  rw [status_healthz, status_healthz]
  exact if_congr unhealthy rfl rfl

theorem status_readyz_congr {calls others : List HealthCall}
    (lost : ∀ name, IsLost others name ↔ IsLost calls name)
    (synced : lastSynced others = lastSynced calls) :
    (respond (afterAll others) counters "GET" "/readyz").status =
      (respond (afterAll calls) counters "GET" "/readyz").status := by
  have ready : (afterAll others).readiness.ready = true ↔
      (afterAll calls).readiness.ready = true := by
    rw [HealthRegistry.ready_afterAll_iff, HealthRegistry.ready_afterAll_iff,
      synced]
    exact and_congr_right' (not_congr (exists_congr lost))
  rw [status_readyz, status_readyz]
  exact if_congr ready rfl rfl

theorem tellsLatest (calls : List HealthCall) (counters : Metrics) :
    TellsLatest calls (respond (afterAll calls) counters "GET" "/healthz")
      (respond (afterAll calls) counters "GET" "/readyz") where
  reports := by
    have distinct := HealthRegistry.distinct_afterAll calls
    refine ⟨(afterAll calls).status, (afterAll calls).sortedReports,
      HealthRegistry.status_isWorst calls,
      HealthRegistry.sortedReports_ascending distinct, ?_, rfl⟩
    intro name health
    rw [HealthRegistry.mem_sortedReports_iff distinct,
      HealthRegistry.latest?_afterAll]
  messages := fun _ _ => HealthCall.latest?_message
  unavailable := by
    rw [status_healthz, ← HealthRegistry.status_eq_unhealthy_iff_lost]
    simp
  available := by
    rw [status_healthz, ← HealthRegistry.status_eq_unhealthy_iff_lost]
    simp
  ready := by
    rw [status_readyz, ← HealthRegistry.ready_afterAll_iff]
    simp
  unready := by
    rw [status_readyz, ← HealthRegistry.ready_afterAll_iff]
    simp
  unsynced := by
    intro unsynced
    rw [← HealthRegistry.synced_afterAll] at unsynced
    exact body_readyz_unsynced unsynced
  named := by
    rintro synced ⟨name, gone⟩
    rw [← HealthRegistry.synced_afterAll] at synced
    have member := (HealthRegistry.mem_unhealthyNames_iff_lost calls).mpr gone
    refine ⟨(afterAll calls).unhealthyNames,
      HealthRegistry.unhealthyNames_ascending
        (HealthRegistry.distinct_afterAll calls),
      fun name => HealthRegistry.mem_unhealthyNames_iff_lost calls, ?_⟩
    exact body_readyz_named synced (List.ne_nil_of_mem member)

/-- Both endpoints tell the latest reports and agree, and their codes depend on
nothing but who is lost and whether the pod cache has synced. -/
theorem endpoints_agree (calls : List HealthCall) (counters : Metrics) :
    TellsLatest calls (respond (afterAll calls) counters "GET" "/healthz")
        (respond (afterAll calls) counters "GET" "/readyz") ∧
      ((respond (afterAll calls) counters "GET" "/readyz").status = 200 →
        (respond (afterAll calls) counters "GET" "/healthz").status = 200) ∧
      ∀ others : List HealthCall,
        (∀ name, IsLost others name ↔ IsLost calls name) →
        lastSynced others = lastSynced calls →
        (respond (afterAll others) counters "GET" "/healthz").status =
            (respond (afterAll calls) counters "GET" "/healthz").status ∧
          (respond (afterAll others) counters "GET" "/readyz").status =
            (respond (afterAll calls) counters "GET" "/readyz").status := by
  have told := tellsLatest calls counters
  refine ⟨told, ?_, ?_⟩
  · intro ready
    exact told.available.mpr (told.ready.mp ready).2
  · intro others lost synced
    exact ⟨status_healthz_congr lost, status_readyz_congr lost synced⟩

end Endpoint

end SwapWarden
