import Mathlib.Data.List.Induction
import Mathlib.Data.List.Nodup
import Mathlib.Data.List.Perm.Subperm
import SwapWarden.Pod.Qos

/-!
# The rule of quality-of-service classes

Containers are counted entry by entry into two tables of sums, and the class is
read off the tables.  What is counted so far is told by the entries seen so far:
a table holds exactly the resources with an entry above zero, each with the sum
of these entries.  The classes then are those of the rule on containers.
-/

namespace SwapWarden

theorem Quantity.positive?_eq_some_iff {raw : String} {value : Float} :
    positive? raw = some value ↔ parse raw = .ok value ∧ 0 < value := by
  unfold positive?
  cases parse raw with
  | error fault => simp
  | ok other =>
      by_cases positive : other > 0
      · simp only [if_pos positive, Option.some.injEq, Except.ok.injEq]
        constructor
        · rintro rfl
          exact ⟨rfl, positive⟩
        · exact And.left
      · simp only [if_neg positive, Except.ok.injEq]
        constructor
        · intro impossible
          cases impossible
        · rintro ⟨rfl, above⟩
          exact absurd above positive

namespace QosClass

/-- An entry that can be read has a value above zero. -/
def HasValue (entry : Option String) (value : Float) : Prop :=
  ∃ raw, entry = some raw ∧ Quantity.parse raw = .ok value ∧ 0 < value

/-- An entry is there, can be read and is above zero. -/
def IsPositive (entry : Option String) : Prop := ∃ value, HasValue entry value

/-- The entries above zero, added one after another to a start, make a total.
-/
inductive AddsUp : Float → List (Option String) → Float → Prop where
  | nil (total : Float) : AddsUp total [] total
  | counted {start value total : Float} {entry : Option String}
      {entries : List (Option String)} (positive : HasValue entry value)
      (rest : AddsUp (start + value) entries total) :
      AddsUp start (entry :: entries) total
  | passed {start total : Float} {entry : Option String}
      {entries : List (Option String)} (idle : ¬ IsPositive entry)
      (rest : AddsUp start entries total) : AddsUp start (entry :: entries) total

variable {entry : Option String} {entries : List (Option String)}
  {start value total : Float}

theorem bind_positive?_eq_some_iff :
    entry.bind Quantity.positive? = some value ↔ HasValue entry value := by
  rw [Option.bind_eq_some_iff]
  exact exists_congr fun raw =>
    and_congr_right fun _ => Quantity.positive?_eq_some_iff

theorem isSome_bind_positive?_iff :
    (entry.bind Quantity.positive?).isSome = true ↔ IsPositive entry := by
  rw [Option.isSome_iff_exists]
  exact exists_congr fun value => bind_positive?_eq_some_iff

theorem bind_positive?_eq_none_iff :
    entry.bind Quantity.positive? = none ↔ ¬ IsPositive entry := by
  rw [← isSome_bind_positive?_iff, Bool.not_eq_true, Option.isSome_eq_false_iff,
    Option.isNone_iff_eq_none]

namespace AddsUp

theorem append_counted (sum : AddsUp start entries total)
    (positive : HasValue entry value) :
    AddsUp start (entries ++ [entry]) (total + value) := by
  induction sum with
  | nil total => exact .counted positive (.nil _)
  | counted earlier rest induction => exact .counted earlier induction
  | passed idle rest induction => exact .passed idle induction

theorem append_passed (sum : AddsUp start entries total)
    (idle : ¬ IsPositive entry) : AddsUp start (entries ++ [entry]) total := by
  induction sum with
  | nil total => exact .passed idle (.nil _)
  | counted earlier rest induction => exact .counted earlier induction
  | passed before rest induction => exact .passed before induction

theorem exists_total (start : Float) (entries : List (Option String)) :
    ∃ total, AddsUp start entries total := by
  induction entries generalizing start with
  | nil => exact ⟨start, .nil start⟩
  | cons entry entries induction =>
      cases found : entry.bind Quantity.positive? with
      | none =>
          obtain ⟨total, rest⟩ := induction start
          exact ⟨total, .passed (bind_positive?_eq_none_iff.mp found) rest⟩
      | some value =>
          obtain ⟨total, rest⟩ := induction (start + value)
          exact ⟨total, .counted (bind_positive?_eq_some_iff.mp found) rest⟩

theorem unique {other : Float} (sum : AddsUp start entries total)
    (sumToo : AddsUp start entries other) : total = other := by
  induction sum with
  | nil total =>
      cases sumToo
      rfl
  | counted positive rest induction =>
      cases sumToo with
      | counted positiveToo restToo =>
          have same := (bind_positive?_eq_some_iff.mpr positive).symm.trans
            (bind_positive?_eq_some_iff.mpr positiveToo)
          obtain rfl := Option.some.inj same
          exact induction restToo
      | passed idle _ => exact absurd ⟨_, positive⟩ idle
  | passed idle rest induction =>
      cases sumToo with
      | counted positive _ => exact absurd ⟨_, positive⟩ idle
      | passed _ restToo => exact induction restToo

end AddsUp

/-! ## Counting entries -/

section Counting

variable {read : Container → String → Option String}
  {seen : List (Container × String)} {sums : Table String Float}

/-- The entries for a resource among those seen. -/
def entriesOf (read : Container → String → Option String)
    (seen : List (Container × String)) (resource : String) :
    List (Option String) :=
  (seen.filter fun demand => demand.2 = resource).map fun demand =>
    read demand.1 resource

/-- An entry above zero was seen for a resource. -/
def Declares (read : Container → String → Option String)
    (seen : List (Container × String)) (resource : String) : Prop :=
  ∃ container, (container, resource) ∈ seen ∧
    IsPositive (read container resource)

/-- A table holds the sums of the entries seen. -/
structure Sums (read : Container → String → Option String)
    (seen : List (Container × String)) (sums : Table String Float) : Prop where
  distinct : sums.keys.Nodup
  listed : ∀ resource, resource ∈ sums.keys ↔ Declares read seen resource
  total : ∀ resource,
    AddsUp 0 (entriesOf read seen resource) ((sums.get? resource).getD 0)

theorem entriesOf_append (seen more : List (Container × String))
    (resource : String) :
    entriesOf read (seen ++ more) resource =
      entriesOf read seen resource ++ entriesOf read more resource := by
  unfold entriesOf
  rw [List.filter_append, List.map_append]

theorem entriesOf_singleton (container : Container)
    (resource other : String) :
    entriesOf read [(container, resource)] other =
      if resource = other then [read container other] else [] := by
  by_cases same : resource = other
  · simp [entriesOf, same]
  · simp [entriesOf, same]

theorem declares_append_iff {container : Container}
    {resource other : String} :
    Declares read (seen ++ [(container, resource)]) other ↔
      Declares read seen other ∨
        other = resource ∧ IsPositive (read container resource) := by
  unfold Declares
  constructor
  · rintro ⟨declaring, member, positive⟩
    rcases List.mem_append.mp member with before | last
    · exact .inl ⟨declaring, before, positive⟩
    · cases List.mem_singleton.mp last
      exact .inr ⟨rfl, positive⟩
  · rintro (⟨declaring, before, positive⟩ | ⟨rfl, positive⟩)
    · exact ⟨declaring, List.mem_append_left _ before, positive⟩
    · exact ⟨container, List.mem_append_right _ List.mem_cons_self, positive⟩

theorem sums_empty : Sums read [] {} where
  distinct := List.nodup_nil
  listed resource := by
    refine iff_of_false List.not_mem_nil ?_
    rintro ⟨container, member, _⟩
    cases member
  total resource := .nil 0

namespace Sums

theorem passed {container : Container} {resource : String}
    (held : Sums read seen sums)
    (idle : ¬ IsPositive (read container resource)) :
    Sums read (seen ++ [(container, resource)]) sums where
  distinct := held.distinct
  listed other := by
    rw [held.listed, declares_append_iff]
    constructor
    · exact Or.inl
    · rintro (before | ⟨_, positive⟩)
      · exact before
      · exact absurd positive idle
  total other := by
    rw [entriesOf_append, entriesOf_singleton]
    split
    · rename_i same
      subst same
      exact (held.total _).append_passed idle
    · rw [List.append_nil]
      exact held.total other

theorem counted {container : Container} {resource : String} {value : Float}
    (held : Sums read seen sums)
    (positive : HasValue (read container resource) value) :
    Sums read (seen ++ [(container, resource)])
      (sums.put resource ((sums.get? resource).getD 0 + value)) where
  distinct := Table.nodup_putIn _ _ held.distinct
  listed other := by
    have keys : other ∈ (sums.put resource
        ((sums.get? resource).getD 0 + value)).keys ↔
          other = resource ∨ other ∈ sums.keys := Table.mem_keys_putIn
    rw [keys, held.listed, declares_append_iff, or_comm]
    apply or_congr_right
    exact (and_iff_left ⟨value, positive⟩).symm
  total other := by
    rw [entriesOf_append, entriesOf_singleton, Table.get?_put]
    split
    · rename_i same
      subst same
      exact (held.total _).append_counted positive
    · rw [List.append_nil]
      exact held.total other

theorem add (held : Sums read seen sums) (container : Container)
    (resource : String) :
    Sums read (seen ++ [(container, resource)])
      (addPositive sums resource (read container resource)) := by
  unfold addPositive
  cases found : (read container resource).bind Quantity.positive? with
  | none => exact held.passed (bind_positive?_eq_none_iff.mp found)
  | some value => exact held.counted (bind_positive?_eq_some_iff.mp found)

theorem size_eq_zero_iff (held : Sums read seen sums) :
    sums.size = 0 ↔ ∀ resource, ¬ Declares read seen resource := by
  have size : sums.size = sums.keys.length := (List.length_map _).symm
  rw [size, List.length_eq_zero_iff, List.eq_nil_iff_forall_not_mem]
  exact forall_congr' fun resource => not_congr (held.listed resource)

/-- The sum held for a resource, if some entry was counted for it. -/
theorem get?_eq_some_iff (held : Sums read seen sums) {resource : String}
    {total : Float} :
    sums.get? resource = some total ↔
      Declares read seen resource ∧
        AddsUp 0 (entriesOf read seen resource) total := by
  rw [← held.listed, Table.mem_keys_iff]
  have sum := held.total resource
  cases found : sums.get? resource with
  | none => simp
  | some other =>
      rw [found] at sum
      constructor
      · intro same
        obtain rfl := Option.some.inj same
        exact ⟨rfl, sum⟩
      · rintro ⟨_, sumToo⟩
        exact congrArg some (sum.unique sumToo)

end Sums

end Counting

/-- A tally tells of the entries seen. -/
structure Counts (seen : List (Container × String)) (tally : Tally) :
    Prop where
  requested : Sums Container.request? seen tally.requested
  limited : Sums Container.limit? seen tally.limited
  covers : tally.coversAll = true ↔
    ∀ demand ∈ seen, IsPositive (demand.1.limit? demand.2)

namespace Counts

variable {seen : List (Container × String)} {tally : Tally}

theorem empty : Counts [] {} :=
  ⟨sums_empty, sums_empty, by simp⟩

theorem count (held : Counts seen tally) (demand : Container × String) :
    Counts (seen ++ [demand]) (tally.count demand) where
  requested := held.requested.add demand.1 demand.2
  limited := held.limited.add demand.1 demand.2
  covers := by
    unfold Tally.count
    rw [Bool.and_eq_true, held.covers, isSome_bind_positive?_iff,
      List.forall_mem_append, List.forall_mem_singleton]

theorem foldl (seen : List (Container × String)) :
    Counts seen (seen.foldl Tally.count {}) := by
  induction seen using List.reverseRecOn with
  | nil => exact empty
  | append_singleton seen demand induction =>
      rw [List.foldl_append]
      exact induction.count demand

theorem isEmpty_iff (held : Counts seen tally) :
    tally.isEmpty = true ↔
      (∀ resource, ¬ Declares Container.request? seen resource) ∧
        ∀ resource, ¬ Declares Container.limit? seen resource := by
  unfold Tally.isEmpty
  rw [Bool.and_eq_true, beq_iff_eq, beq_iff_eq,
    held.requested.size_eq_zero_iff, held.limited.size_eq_zero_iff]

theorem all_limitsTo_iff (held : Counts seen tally) :
    tally.requested.entries.all tally.limitsTo = true ↔
      ∀ resource request, tally.requested.get? resource = some request →
        ∃ limit, tally.limited.get? resource = some limit ∧
          (limit == request) = true := by
  rw [List.all_eq_true, Prod.forall]
  refine forall_congr' fun resource => forall_congr' fun request => ?_
  rw [Table.mem_entries_iff held.requested.distinct, Tally.limitsTo]
  apply imp_congr_right
  intro _
  cases tally.limited.get? resource with
  | none => simp
  | some limit => simp

/-- Of two tables of one size, if one lists all that the other one does, both
list the same. -/
theorem isBalanced_iff (held : Counts seen tally) :
    tally.isBalanced = true ↔
      (∀ resource, Declares Container.limit? seen resource →
        Declares Container.request? seen resource) ∧
      ∀ resource request, tally.requested.get? resource = some request →
        ∃ limit, tally.limited.get? resource = some limit ∧
          (limit == request) = true := by
  have size (sums : Table String Float) : sums.size = sums.keys.length :=
    (List.length_map _).symm
  unfold Tally.isBalanced
  rw [Bool.and_eq_true, beq_iff_eq, held.all_limitsTo_iff, size, size]
  refine and_congr_left fun matched => ?_
  have subset : tally.requested.keys ⊆ tally.limited.keys := by
    intro resource member
    rw [Table.mem_keys_iff] at member ⊢
    obtain ⟨request, found⟩ := Option.isSome_iff_exists.mp member
    obtain ⟨limit, limited, _⟩ := matched resource request found
    exact Option.isSome_iff_exists.mpr ⟨limit, limited⟩
  have sublist := held.requested.distinct.subperm subset
  constructor
  · intro length resource limited
    have permutation := sublist.perm_of_length_le (Nat.le_of_eq length.symm)
    rw [← held.requested.listed, permutation.mem_iff, held.limited.listed]
    exact limited
  · intro requested
    apply Nat.le_antisymm sublist.length_le
    apply (held.limited.distinct.subperm _).length_le
    intro resource member
    rw [held.requested.listed]
    exact requested resource ((held.limited.listed resource).mp member)

end Counts

/-! ## The classes of containers -/

/-- No container has a request or a limit above zero. -/
def AsksNothing (containers : List Container) : Prop :=
  ∀ container ∈ containers, ∀ resource ∈ resources,
    ¬ IsPositive (container.request? resource) ∧
      ¬ IsPositive (container.limit? resource)

/-- Every resource is limited on every container and requested somewhere, and
the limits make up exactly the requests. -/
structure LimitsRequests (containers : List Container) : Prop where
  inhabited : containers ≠ []
  limited : ∀ container ∈ containers, ∀ resource ∈ resources,
    IsPositive (container.limit? resource)
  requested : ∀ resource ∈ resources, ∃ container ∈ containers,
    IsPositive (container.request? resource)
  balanced : ∀ resource ∈ resources, ∃ request limit,
    AddsUp 0 (containers.map (·.request? resource)) request ∧
      AddsUp 0 (containers.map (·.limit? resource)) limit ∧
        (limit == request) = true

variable {containers : List Container} {container : Container}
  {resource : String} {read : Container → String → Option String}

theorem mem_demands_iff :
    (container, resource) ∈ demands containers ↔
      container ∈ containers ∧ resource ∈ resources := by
  simp [demands]

theorem declares_demands_iff :
    Declares read (demands containers) resource ↔
      resource ∈ resources ∧ ∃ container ∈ containers,
        IsPositive (read container resource) := by
  unfold Declares
  simp only [mem_demands_iff]
  constructor
  · rintro ⟨container, ⟨member, counts⟩, positive⟩
    exact ⟨counts, container, member, positive⟩
  · rintro ⟨counts, container, member, positive⟩
    exact ⟨container, ⟨member, counts⟩, positive⟩

/-- Every resource is looked at once in every container. -/
theorem entriesOf_demands (counts : resource ∈ resources) :
    entriesOf read (demands containers) resource =
      containers.map (read · resource) := by
  have distinct : resources.Nodup := by decide
  have once (container : Container) :
      entriesOf read (resources.map fun name => (container, name)) resource =
        [read container resource] := by
    unfold entriesOf
    rw [List.filter_map]
    change List.map _ (List.map _ (resources.filter (· = resource))) = _
    rw [List.filter_eq, List.count_eq_one_of_mem distinct counts]
    rfl
  induction containers with
  | nil => rfl
  | cons container containers induction =>
      change entriesOf read (_ ++ demands containers) resource = _
      rw [entriesOf_append, once, induction]
      rfl

theorem counts_demands (containers : List Container) :
    Counts (demands containers) (Tally.ofContainers containers) :=
  Counts.foldl (demands containers)

theorem forall_not_declares_demands_iff :
    (∀ resource, ¬ Declares read (demands containers) resource) ↔
      ∀ container ∈ containers, ∀ resource ∈ resources,
        ¬ IsPositive (read container resource) := by
  simp only [declares_demands_iff]
  constructor
  · intro none container member resource counts positive
    exact none resource ⟨counts, container, member, positive⟩
  · rintro none resource ⟨counts, container, member, positive⟩
    exact none container member resource counts positive

theorem isEmpty_ofContainers_iff :
    (Tally.ofContainers containers).isEmpty = true ↔
      AsksNothing containers := by
  rw [(counts_demands containers).isEmpty_iff,
    forall_not_declares_demands_iff, forall_not_declares_demands_iff]
  simp only [AsksNothing, forall_and]

theorem coversAll_ofContainers_iff :
    (Tally.ofContainers containers).coversAll = true ↔
      ∀ container ∈ containers, ∀ resource ∈ resources,
        IsPositive (container.limit? resource) := by
  rw [(counts_demands containers).covers, Prod.forall]
  simp only [mem_demands_iff, and_imp]
  exact forall_congr' fun container => forall_comm

theorem Sums.get?_demands_iff {sums : Table String Float} {total : Float}
    (held : Sums read (demands containers) sums) :
    sums.get? resource = some total ↔
      (resource ∈ resources ∧ ∃ container ∈ containers,
        IsPositive (read container resource)) ∧
      AddsUp 0 (containers.map (read · resource)) total := by
  rw [held.get?_eq_some_iff, declares_demands_iff]
  refine and_congr_right fun ⟨counts, _⟩ => ?_
  rw [entriesOf_demands counts]

theorem LimitsRequests.not_asksNothing (rule : LimitsRequests containers) :
    ¬ AsksNothing containers := by
  intro nothing
  obtain ⟨container, member⟩ :=
    List.exists_mem_of_ne_nil containers rule.inhabited
  have counts : "cpu" ∈ resources := List.mem_cons_self
  exact (nothing container member "cpu" counts).2
    (rule.limited container member "cpu" counts)

theorem limitsRequests_iff (some : ¬ AsksNothing containers) :
    ((Tally.ofContainers containers).coversAll &&
        (Tally.ofContainers containers).isBalanced) = true ↔
      LimitsRequests containers := by
  have held := counts_demands containers
  rw [Bool.and_eq_true, coversAll_ofContainers_iff, held.isBalanced_iff]
  constructor
  · rintro ⟨covers, requests, balanced⟩
    have inhabited : containers ≠ [] := by
      rintro rfl
      exact some (fun container member => nomatch member)
    obtain ⟨first, present⟩ := List.exists_mem_of_ne_nil containers inhabited
    have requested : ∀ resource ∈ resources, ∃ container ∈ containers,
        IsPositive (container.request? resource) := by
      intro resource counts
      have limited := declares_demands_iff.mpr
        ⟨counts, first, present, covers first present resource counts⟩
      exact (declares_demands_iff.mp (requests resource limited)).2
    refine ⟨inhabited, covers, requested, ?_⟩
    intro resource counts
    obtain ⟨request, sum⟩ :=
      AddsUp.exists_total 0 (containers.map (·.request? resource))
    obtain ⟨limit, found, equal⟩ := balanced resource request
      (held.requested.get?_demands_iff.mpr
        ⟨⟨counts, requested resource counts⟩, sum⟩)
    have limits := (held.limited.get?_demands_iff.mp found).2
    exact ⟨request, limit, sum, limits, equal⟩
  · intro rule
    refine ⟨rule.limited, ?_, ?_⟩
    · intro resource limited
      have counts := (declares_demands_iff.mp limited).1
      exact declares_demands_iff.mpr ⟨counts, rule.requested resource counts⟩
    · intro resource request found
      obtain ⟨⟨counts, _⟩, sum⟩ := held.requested.get?_demands_iff.mp found
      obtain ⟨other, limit, sumToo, limits, equal⟩ :=
        rule.balanced resource counts
      obtain rfl := sum.unique sumToo
      obtain ⟨first, present⟩ :=
        List.exists_mem_of_ne_nil containers rule.inhabited
      have positive := rule.limited first present resource counts
      exact ⟨limit, held.limited.get?_demands_iff.mpr
        ⟨⟨counts, first, present, positive⟩, limits⟩, equal⟩

/-- The class that the rule gives to containers. -/
inductive IsImplied (containers : List Container) : QosClass → Prop where
  | bestEffort (nothing : AsksNothing containers) :
      IsImplied containers .bestEffort
  | guaranteed (rule : LimitsRequests containers) :
      IsImplied containers .guaranteed
  | burstable (some : ¬ AsksNothing containers)
      (apart : ¬ LimitsRequests containers) : IsImplied containers .burstable

theorem IsImplied.unique {first second : QosClass}
    (implied : IsImplied containers first)
    (impliedToo : IsImplied containers second) : first = second := by
  cases implied with
  | bestEffort nothing =>
      cases impliedToo with
      | bestEffort _ => rfl
      | guaranteed rule => exact absurd nothing rule.not_asksNothing
      | burstable some _ => exact absurd nothing some
  | guaranteed rule =>
      cases impliedToo with
      | bestEffort nothing => exact absurd nothing rule.not_asksNothing
      | guaranteed _ => rfl
      | burstable _ apart => exact absurd rule apart
  | burstable some apart =>
      cases impliedToo with
      | bestEffort nothing => exact absurd nothing some
      | guaranteed rule => exact absurd rule apart
      | burstable _ _ => rfl

theorem isImplied_ofContainers (containers : List Container) :
    IsImplied containers (ofContainers containers) := by
  by_cases nothing : AsksNothing containers
  · have computed : ofContainers containers = .bestEffort :=
      if_pos (isEmpty_ofContainers_iff.mpr nothing)
    rw [computed]
    exact .bestEffort nothing
  · have computed : ofContainers containers = _ :=
      if_neg (mt isEmpty_ofContainers_iff.mp nothing)
    rw [computed]
    split
    · rename_i balanced
      exact .guaranteed ((limitsRequests_iff nothing).mp balanced)
    · rename_i unbalanced
      apply IsImplied.burstable nothing
      exact mt (limitsRequests_iff nothing).mpr unbalanced

theorem ofContainers_eq_iff {known : QosClass} :
    ofContainers containers = known ↔ IsImplied containers known := by
  constructor
  · rintro rfl
    exact isImplied_ofContainers containers
  · exact (isImplied_ofContainers containers).unique

/-- Two containers declare the same of every resource that counts. -/
def DeclareAlike (first second : Container) : Prop :=
  ∀ resource ∈ resources,
    first.request? resource = second.request? resource ∧
      first.limit? resource = second.limit? resource

theorem tally_congr {others : List Container}
    (alike : List.Forall₂ DeclareAlike containers others) (tally : Tally) :
    (demands containers).foldl Tally.count tally =
      (demands others).foldl Tally.count tally := by
  induction alike generalizing tally with
  | nil => rfl
  | @cons first second containers others same _ induction =>
      have counted : (resources.map fun name => (first, name)).foldl
          Tally.count tally =
            (resources.map fun name => (second, name)).foldl
              Tally.count tally := by
        rw [List.foldl_map, List.foldl_map]
        apply List.foldl_ext
        intro tally resource counts
        obtain ⟨request, limit⟩ := same resource counts
        simp only [Tally.count, request, limit]
      change (_ ++ demands containers).foldl _ _ =
        (_ ++ demands others).foldl _ _
      rw [List.foldl_append, List.foldl_append, counted]
      exact induction _

theorem ofName?_eq_some_iff {text : String} {known : QosClass} :
    ofName? text = some known ↔ text = known.name := by
  constructor
  · intro found
    unfold ofName? at found
    split at found
    all_goals cases found
    all_goals rfl
  · rintro rfl
    cases known
    all_goals rfl

end QosClass

namespace Pod

open QosClass

/-- The cluster reports a class for the pod. -/
def ReportsClass (pod : Pod) (known : QosClass) : Prop :=
  ∃ status, pod.status = some status ∧ status.qosClass = some known.name

theorem reportsClass_iff {pod : Pod} {known : QosClass} :
    pod.ReportsClass known ↔
      (pod.status.bind fun status => status.qosClass.bind ofName?) =
        some known := by
  unfold ReportsClass
  simp only [Option.bind_eq_some_iff, ofName?_eq_some_iff]
  constructor
  · rintro ⟨status, reported, told⟩
    exact ⟨status, reported, known.name, told, rfl⟩
  · rintro ⟨status, reported, _, told, rfl⟩
    exact ⟨status, reported, told⟩

theorem qosClass_of_reported {pod : Pod} {known : QosClass}
    (reported : pod.ReportsClass known) : pod.qosClass = known := by
  unfold qosClass
  rw [reportsClass_iff.mp reported]

theorem qosClass_of_unreported {pod : Pod}
    (unreported : ∀ known, ¬ pod.ReportsClass known) :
    pod.qosClass = ofContainers pod.allContainers := by
  have none : (pod.status.bind fun status => status.qosClass.bind ofName?) =
      none :=
    Option.eq_none_iff_forall_ne_some.mpr fun known =>
      mt reportsClass_iff.mpr (unreported known)
  unfold qosClass
  rw [none]

/-- A reported class is taken as it is, and without one the rule on containers
gives the class.  Entries of other resources than cpu and memory do not count.
-/
theorem qosClass_implied (pod : Pod) :
    (∀ known, pod.ReportsClass known → pod.qosClass = known) ∧
      ((∀ known, ¬ pod.ReportsClass known) →
        ∀ known, pod.qosClass = known ↔
          IsImplied pod.allContainers known) ∧
      ∀ other : Pod,
        (∀ known, pod.ReportsClass known ↔ other.ReportsClass known) →
        List.Forall₂ DeclareAlike pod.allContainers other.allContainers →
          pod.qosClass = other.qosClass := by
  refine ⟨fun known => qosClass_of_reported, ?_, ?_⟩
  · intro unreported known
    rw [qosClass_of_unreported unreported]
    exact ofContainers_eq_iff
  · intro other reports alike
    by_cases reported : ∃ known, pod.ReportsClass known
    · obtain ⟨known, reported⟩ := reported
      rw [qosClass_of_reported reported,
        qosClass_of_reported ((reports known).mp reported)]
    · have unreported := not_exists.mp reported
      have unreportedToo known := mt (reports known).mpr (unreported known)
      rw [qosClass_of_unreported unreported,
        qosClass_of_unreported unreportedToo]
      unfold ofContainers Tally.ofContainers
      rw [tally_congr alike]

/-- Requests on one container that make up the limits on two. -/
theorem qosClass_implied_uneven :
    ∃ pod other reported : Pod,
      (∀ known, ¬ pod.ReportsClass known) ∧
        pod.qosClass = .guaranteed ∧
        IsImplied pod.allContainers .guaranteed ∧
        List.Forall₂ DeclareAlike pod.allContainers other.allContainers ∧
        other.qosClass = .guaranteed ∧
        reported.ReportsClass .burstable ∧
        reported.allContainers = pod.allContainers ∧
        reported.qosClass = .burstable := by
  let halves : Table String String := ⟨[("cpu", "500m"), ("memory", "1Gi")]⟩
  let wholes : Table String String := ⟨[("memory", "2Gi"), ("cpu", "1.0")]⟩
  let web : Container :=
    { name := "web"
      resources := some { requests := some wholes, limits := some halves } }
  let setup : Container :=
    { name := "setup", resources := some { limits := some halves } }
  let shared : Container :=
    { setup with
      resources := some
        { requests := some ⟨[("example.com/gpu", "1")]⟩
          limits := some (halves.put "example.com/gpu" "2") } }
  let podOf (init : Container) (known : String) : Pod :=
    { spec := some { containers := [web], initContainers := some [init] }
      status := some { qosClass := some known } }
  have unreported (init : Container) :
      ∀ known, ¬ (podOf init "Unknown").ReportsClass known := by
    rintro known ⟨status, present, told⟩
    obtain rfl := Option.some.inj present
    cases known
    all_goals simp [name] at told
  have alike : List.Forall₂ DeclareAlike (podOf setup "Unknown").allContainers
      (podOf shared "Unknown").allContainers := by
    refine .cons (fun _ _ => ⟨rfl, rfl⟩) (.cons ?_ .nil)
    unfold DeclareAlike
    decide
  have reported : (podOf setup "Burstable").ReportsClass .burstable :=
    ⟨_, rfl, rfl⟩
  have computed : (podOf setup "Unknown").qosClass = .guaranteed := by
    decide +kernel
  obtain ⟨_, implied, others⟩ := qosClass_implied (podOf setup "Unknown")
  have same := others (podOf shared "Unknown") (fun known =>
    iff_of_false (unreported setup known) (unreported shared known)) alike
  exact ⟨podOf setup "Unknown", podOf shared "Unknown",
    podOf setup "Burstable", unreported setup, computed,
    (implied (unreported setup) .guaranteed).mp computed, alike,
    same.symm.trans computed, reported, rfl,
    (qosClass_implied (podOf setup "Burstable")).1 .burstable reported⟩

end Pod

end SwapWarden
