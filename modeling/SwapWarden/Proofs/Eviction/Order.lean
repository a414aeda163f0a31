import SwapWarden.Eviction.Order

/-!
# The order of eviction as a sorting key

Two pods are compared by keys of five components, each of which decides only
where the ones before are even.  So the comparison is a total preorder, and
the first pod of the order is the first one of the list that no other pod
precedes.
-/

namespace SwapWarden.EvictionOrder

/-- What decides the place of a pod, the weightiest component first.  The
excess counts from large to small, the others from small to large. -/
structure Key where
  measured : Bool
  withinLimits : Bool
  withinRequest : Bool
  priority : Int
  excess : Int

namespace Key

def byExcess (first second : Key) : Ordering :=
  compareOn Key.excess second first

/-- Compares keys component by component. -/
def order : Key → Key → Ordering :=
  compareLex (compareOn Key.measured)
    (compareLex (compareOn Key.withinLimits)
      (compareLex (compareOn Key.withinRequest)
        (compareLex (compareOn Key.priority) byExcess)))

instance : Std.TransCmp byExcess :=
  inferInstanceAs (Std.TransCmp fun first second =>
    compareOn Key.excess second first)

instance : Std.TransCmp order :=
  inferInstanceAs (Std.TransCmp
    (compareLex (compareOn Key.measured)
      (compareLex (compareOn Key.withinLimits)
        (compareLex (compareOn Key.withinRequest)
          (compareLex (compareOn Key.priority) byExcess)))))

end Key

/-- The key of a pod; without usage only its priority counts. -/
def key (usages : Table String PodUsage) (pod : Pod) : Key :=
  match usageOf? usages pod with
  | none => ⟨false, false, false, pod.priority, 0⟩
  | some usage =>
      ⟨true, !exceedsLimits pod usage, !exceedsRequest pod usage,
        pod.priority, excess pod usage⟩

private theorem trueFirst_eq (first second : Bool) :
    trueFirst first second = compare (!first) (!second) := by
  cases first with
  | true => cases second with
    | true => rfl
    | false => rfl
  | false => cases second with
    | true => rfl
    | false => rfl

theorem comparison_eq (usages : Table String PodUsage) (first second : Pod) :
    comparison usages first second =
      Key.order (key usages first) (key usages second) := by
  unfold comparison key Key.order Key.byExcess compareLex compareOn
  cases firstUsage : usageOf? usages first with
  | none =>
      cases secondUsage : usageOf? usages second with
      | none => rfl
      | some usage => rfl
  | some firstFound =>
      cases secondUsage : usageOf? usages second with
      | none => rfl
      | some secondFound =>
          simp only [byUsage, trueFirst_eq]
          rfl

instance (usages : Table String PodUsage) :
    Std.TransCmp (comparison usages) where
  eq_swap := by
    intro first second
    rw [comparison_eq, comparison_eq]
    exact Std.OrientedCmp.eq_swap
  isLE_trans := by
    intro first second third
    rw [comparison_eq, comparison_eq, comparison_eq]
    exact Std.TransCmp.isLE_trans

/-- Whether a pod goes no later than another. -/
def goesBefore (usages : Table String PodUsage) (first second : Pod) : Bool :=
  comparison usages first second != .gt

theorem goesBefore_iff {usages : Table String PodUsage} {first second : Pod} :
    goesBefore usages first second = true ↔
      (comparison usages first second).isLE = true := by
  unfold goesBefore
  cases comparison usages first second with
  | lt => decide
  | eq => decide
  | gt => decide

theorem goesBefore_trans (usages : Table String PodUsage)
    (first second third : Pod)
    (before : goesBefore usages first second = true)
    (after : goesBefore usages second third = true) :
    goesBefore usages first third = true :=
  goesBefore_iff.mpr (Std.TransCmp.isLE_trans (goesBefore_iff.mp before)
    (goesBefore_iff.mp after))

theorem goesBefore_total (usages : Table String PodUsage)
    (first second : Pod) :
    (goesBefore usages first second || goesBefore usages second first) = true
    := by
  have swapped : comparison usages second first =
      (comparison usages first second).swap := Std.OrientedCmp.eq_swap
  unfold goesBefore
  rw [swapped]
  cases comparison usages first second with
  | lt => rfl
  | eq => rfl
  | gt => rfl

theorem rank_eq_nil {usages : List PodUsage} {pods : List Pod}
    (ranked : rank usages pods = []) : pods = [] :=
  List.nil_perm.mp (ranked ▸ List.mergeSort_perm pods _)

/-- A pod that goes before all listed before it, and no later than all listed
after it. -/
def IsFirst (usages : Table String PodUsage) (pods : List Pod) (pod : Pod) :
    Prop :=
  ∃ before after, pods = before ++ pod :: after ∧
    (∀ other ∈ before, comparison usages pod other = .lt) ∧
    ∀ other ∈ after, comparison usages pod other ≠ .gt

/-- The first pod of the order is the first one that no other precedes. -/
theorem isFirst_of_rankBy {usages : Table String PodUsage}
    {pods rest : List Pod} {pod : Pod}
    (ranked : rankBy usages pods = pod :: rest) : IsFirst usages pods pod := by
  change pods.mergeSort (goesBefore usages) = pod :: rest at ranked
  induction pods generalizing rest with
  | nil => simp at ranked
  | cons listed pods induction =>
      have sorted := List.pairwise_mergeSort (goesBefore_trans usages)
        (goesBefore_total usages) (listed :: pods)
      obtain ⟨earlier, later, placed, others, precede⟩ :=
        List.mergeSort_cons (goesBefore_trans usages) (goesBefore_total usages)
          listed pods
      rw [ranked] at placed sorted
      cases earlier with
      | nil =>
          rw [List.nil_append] at placed others
          obtain ⟨rfl, rfl⟩ := List.cons.inj placed
          refine ⟨[], pods, rfl, by simp, ?_⟩
          intro other member
          have ordered := List.rel_of_pairwise_cons sorted
            (others ▸ List.mem_mergeSort.mpr member)
          simpa [goesBefore] using ordered
      | cons first earlier =>
          obtain ⟨rfl, _⟩ := List.cons.inj placed
          obtain ⟨before, after, parts, strictly, weakly⟩ := induction others
          refine ⟨listed :: before, after, by rw [parts]; rfl, ?_, weakly⟩
          intro other member
          rcases List.mem_cons.mp member with rfl | member
          · have reversed := precede pod List.mem_cons_self
            have greater : comparison usages other pod = .gt := by
              simpa [goesBefore] using reversed
            exact Std.OrientedCmp.lt_of_gt greater
          · exact strictly other member

theorem isFirst_of_rank {usages : List PodUsage} {pods rest : List Pod}
    {pod : Pod} (ranked : rank usages pods = pod :: rest) :
    IsFirst (usageTable usages) pods pod :=
  isFirst_of_rankBy ranked

end SwapWarden.EvictionOrder
