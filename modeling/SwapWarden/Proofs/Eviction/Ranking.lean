import SwapWarden.Proofs.Eviction.Order

/-!
# The ranking as a stable sort

A stable sort of pods holds the same pods in the order of their keys, and
those of one key as they were listed.  There is exactly one for every list,
and it is the ranking.  So the order in which pods are listed shows among pods
of one key only, usages of other pods do not count, and the first pod stays
first when others are left out.
-/

namespace SwapWarden.EvictionOrder

deriving instance DecidableEq for Key

/-! ## Keys -/

namespace Key

theorem order_eq_iff {first second : Key} :
    order first second = .eq ↔ first = second := by
  obtain ⟨measured, withinLimits, withinRequest, priority, excess⟩ := first
  obtain ⟨measured', withinLimits', withinRequest', priority', excess'⟩ := second
  simp only [order, byExcess, compareLex_eq_eq, compareOn,
    Std.compare_eq_iff_eq, Key.mk.injEq]
  constructor
  · rintro ⟨rfl, rfl, rfl, rfl, rfl⟩
    exact ⟨rfl, rfl, rfl, rfl, rfl⟩
  · rintro ⟨rfl, rfl, rfl, rfl, rfl⟩
    exact ⟨rfl, rfl, rfl, rfl, rfl⟩

theorem eq_of_isLE {first second : Key}
    (before : (order first second).isLE = true)
    (after : (order second first).isLE = true) : first = second :=
  order_eq_iff.mp (Std.OrientedCmp.isLE_antisymm before after)

theorem unmeasured_of_isLE {first second : Key}
    (before : (order first second).isLE = true)
    (unmeasured : second.measured = false) : first.measured = false := by
  cases measured : first.measured with
  | false => rfl
  | true =>
      have greater : order first second = .gt := by
        simp only [order, compareLex, compareOn, measured, unmeasured]
        rfl
      rw [greater] at before
      cases before

end Key

variable {usages others : Table String PodUsage} {pods ranked : List Pod}
  {pod : Pod}

theorem key_unmeasured_iff :
    (key usages pod).measured = false ↔ usageOf? usages pod = none := by
  unfold key
  cases usageOf? usages pod with
  | none => simp
  | some usage => simp

theorem goesBefore_iff_key {first second : Pod} :
    goesBefore usages first second = true ↔
      (Key.order (key usages first) (key usages second)).isLE = true := by
  rw [goesBefore_iff, comparison_eq]

/-! ## The stable sort -/

/-- The pods of a list in the order of their keys, and those of one key in the
order of the list. -/
structure IsStableSort (usages : Table String PodUsage)
    (pods ranked : List Pod) : Prop where
  perm : ranked.Perm pods
  sorted : (ranked.map (key usages)).Pairwise fun first second =>
    (Key.order first second).isLE = true
  stable : ∀ shared, ranked.filter (fun pod => key usages pod = shared) =
    pods.filter (fun pod => key usages pod = shared)

theorem filter_rankBy (usages : Table String PodUsage) (pods : List Pod)
    (shared : Key) :
    (rankBy usages pods).filter (fun pod => key usages pod = shared) =
      pods.filter (fun pod => key usages pod = shared) := by
  let kept := pods.filter (fun pod => key usages pod = shared)
  have even : kept.Pairwise fun first second =>
      goesBefore usages first second = true := by
    apply List.Pairwise.imp_of_mem
      (p := List.pairwise_of_forall (fun _ _ => trivial))
    intro first second firstKept secondKept _
    have firstKey : key usages first = shared := by
      simpa using (List.mem_filter.mp firstKept).2
    have secondKey : key usages second = shared := by
      simpa using (List.mem_filter.mp secondKept).2
    rw [goesBefore_iff_key, firstKey, secondKey]
    exact Std.ReflCmp.isLE_rfl
  have within : kept.Sublist (rankBy usages pods) :=
    List.sublist_mergeSort (goesBefore_trans usages) (goesBefore_total usages)
      even List.filter_sublist
  have filtered := within.filter (fun pod => key usages pod = shared)
  have same := (List.mergeSort_perm pods (goesBefore usages)).filter
    (fun pod => key usages pod = shared)
  rw [List.filter_filter] at filtered
  simp only [Bool.and_self] at filtered
  exact (filtered.eq_of_length same.length_eq.symm).symm

theorem isStableSort_rankBy (usages : Table String PodUsage)
    (pods : List Pod) : IsStableSort usages pods (rankBy usages pods) := by
  refine ⟨List.mergeSort_perm pods _, ?_, filter_rankBy usages pods⟩
  have sorted := List.pairwise_mergeSort (goesBefore_trans usages)
    (goesBefore_total usages) pods
  exact List.pairwise_map.mpr (sorted.imp goesBefore_iff_key.mp)

/-- Sorted lists of the same pods have the same keys in the same order. -/
theorem map_key_eq {first second : List Pod} (same : first.Perm second)
    (firstSorted : (first.map (key usages)).Pairwise fun first second =>
      (Key.order first second).isLE = true)
    (secondSorted : (second.map (key usages)).Pairwise fun first second =>
      (Key.order first second).isLE = true) :
    first.map (key usages) = second.map (key usages) := by
  refine List.Perm.eq_of_pairwise ?_ firstSorted secondSorted
    (same.map (key usages))
  intro first second _ _ before after
  exact Key.eq_of_isLE before after

/-- What keys come one after another, and what pods come under each key, tell
a list. -/
private theorem eq_of_keys {first second : List Pod}
    (sameKeys : first.map (key usages) = second.map (key usages))
    (samePods : ∀ shared,
      first.filter (fun pod => key usages pod = shared) =
        second.filter (fun pod => key usages pod = shared)) :
    first = second := by
  induction first generalizing second with
  | nil => exact (List.map_eq_nil_iff.mp sameKeys.symm).symm
  | cons pod first induction =>
      cases second with
      | nil => cases sameKeys
      | cons other second =>
          obtain ⟨sameKey, restKeys⟩ := List.cons.inj sameKeys
          have here := samePods (key usages pod)
          rw [List.filter_cons_of_pos (by simp),
            List.filter_cons_of_pos (by simp [sameKey])] at here
          obtain ⟨rfl, _⟩ := List.cons.inj here
          congr 1
          refine induction restKeys fun shared => ?_
          have there := samePods shared
          by_cases under : key usages pod = shared
          · simpa [List.filter_cons, under] using there
          · simpa [List.filter_cons, under] using there

/-- A list has one stable sort. -/
theorem IsStableSort.unique {others : List Pod}
    (first : IsStableSort usages pods ranked)
    (second : IsStableSort usages pods others) : ranked = others :=
  eq_of_keys
    (map_key_eq (first.perm.trans second.perm.symm) first.sorted second.sorted)
    (fun shared => (first.stable shared).trans (second.stable shared).symm)

theorem isStableSort_iff :
    IsStableSort usages pods ranked ↔ ranked = rankBy usages pods := by
  constructor
  · intro sorted
    exact sorted.unique (isStableSort_rankBy usages pods)
  · rintro rfl
    exact isStableSort_rankBy usages pods

theorem rankBy_congr
    (same : ∀ pod ∈ pods, usageOf? others pod = usageOf? usages pod) :
    rankBy others pods = rankBy usages pods := by
  have sameKey : ∀ pod ∈ pods, key others pod = key usages pod := by
    intro pod member
    unfold key
    rw [same pod member]
  have ranked := List.map_mergeSort (f := id) (r := goesBefore others)
    (s := goesBefore usages) (l := pods) (by
      intro first firstMember second secondMember
      unfold goesBefore
      rw [comparison_eq, comparison_eq, sameKey first firstMember,
        sameKey second secondMember]
      rfl)
  rw [List.map_id, List.map_id] at ranked
  exact ranked

/-! ## The first pod -/

namespace IsFirst

/-- A place before that of a first pod holds a pod that it precedes, so a first
pod has one place. -/
private theorem not_earlier {before after middle rest : List Pod}
    {first second : Pod}
    (weakly : ∀ other ∈ after, comparison usages first other ≠ .gt)
    (strictly : ∀ other ∈ before ++ first :: middle,
      comparison usages second other = .lt)
    (parts : after = middle ++ second :: rest) : False := by
  have preceded : comparison usages second first = .lt :=
    strictly first (by simp)
  have swapped : comparison usages first second =
      (comparison usages second first).swap := Std.OrientedCmp.eq_swap
  apply weakly second (by simp [parts])
  rw [swapped, preceded]
  rfl

theorem unique {first second : Pod} (isFirst : IsFirst usages pods first)
    (also : IsFirst usages pods second) : first = second := by
  obtain ⟨before, after, rfl, strictly, weakly⟩ := isFirst
  obtain ⟨before', after', parts, strictly', weakly'⟩ := also
  rcases List.append_eq_append_iff.mp parts with
    ⟨middle, rfl, rest⟩ | ⟨middle, rfl, rest⟩
  · cases middle with
    | nil => exact (List.cons.inj rest).1
    | cons other middle =>
        obtain ⟨rfl, since⟩ := List.cons.inj rest
        exact (not_earlier weakly strictly' since).elim
  · cases middle with
    | nil => exact (List.cons.inj rest).1.symm
    | cons other middle =>
        obtain ⟨rfl, since⟩ := List.cons.inj rest
        exact (not_earlier weakly' strictly since).elim

end IsFirst

theorem head?_rankBy_iff :
    (rankBy usages pods).head? = some pod ↔ IsFirst usages pods pod := by
  constructor
  · intro head
    obtain ⟨rest, ranked⟩ := List.head?_eq_some_iff.mp head
    exact isFirst_of_rankBy ranked
  · intro isFirst
    cases ranked : rankBy usages pods with
    | nil =>
        obtain ⟨before, after, parts, _⟩ := isFirst
        have empty := (isStableSort_rankBy usages pods).perm
        rw [ranked, parts] at empty
        simp at empty
    | cons other rest =>
        rw [isFirst.unique (isFirst_of_rankBy ranked)]
        rfl

/-- A first pod has a place, and stays first when a pod at any other place is
left out. -/
theorem IsFirst.eraseIdx (isFirst : IsFirst usages pods pod) :
    ∃ place, pods[place]? = some pod ∧
      ∀ other, other ≠ place → IsFirst usages (pods.eraseIdx other) pod := by
  obtain ⟨before, after, rfl, strictly, weakly⟩ := isFirst
  refine ⟨before.length, by simp, ?_⟩
  intro other elsewhere
  rcases Nat.lt_or_gt_of_ne elsewhere with earlier | later
  · rw [List.eraseIdx_append_of_lt_length earlier]
    refine ⟨before.eraseIdx other, after, rfl, ?_, weakly⟩
    intro listed member
    exact strictly listed (List.mem_of_mem_eraseIdx member)
  · rw [List.eraseIdx_append_of_length_le (Nat.le_of_lt later)]
    obtain ⟨beyond, reached⟩ :=
      Nat.exists_eq_succ_of_ne_zero (Nat.sub_ne_zero_of_lt later)
    rw [reached]
    refine ⟨before, after.eraseIdx beyond, rfl, strictly, ?_⟩
    intro listed member
    exact weakly listed (List.mem_of_mem_eraseIdx member)

/-! ## The ranking -/

end SwapWarden.EvictionOrder
