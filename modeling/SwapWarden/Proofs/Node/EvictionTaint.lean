import SwapWarden.Node.EvictionTaint

/-!
# Adding and taking away the eviction taint

Both ways to change a node's taints leave the taints of other keys as they
are.  Afterwards the key has exactly one taint or none, so a second time
changes nothing.
-/

namespace SwapWarden.Node

variable (node : Node) (key : String)

/-- The taints that a node should have by whether it is short of memory. -/
def taintsFor (shortage : Bool) : List Taint :=
  if shortage then node.taintsWith key else node.taintsWithout key

/-- The taints of a key, in their order. -/
def taintsUnder : List Taint :=
  node.taints.filter (fun taint => decide (taint.key = key))

/-- The taints of all other keys, in their order. -/
def taintsBeside : List Taint :=
  node.taints.filter (fun taint => decide (taint.key ≠ key))

@[simp] theorem taints_withTaints (taints : List Taint) :
    (node.withTaints taints).taints = taints := rfl

theorem taintsWithout_eq : node.taintsWithout key = node.taintsBeside key := by
  unfold taintsWithout taintsBeside
  congr 1
  funext taint
  by_cases same : taint.key = key
  · simp [same]
  · simp [same]

@[simp] theorem taintsUnder_taintsWithout :
    (node.withTaints (node.taintsWithout key)).taintsUnder key = [] := by
  rw [taintsWithout_eq]
  simp [taintsUnder, taintsBeside, List.filter_filter]

@[simp] theorem taintsUnder_taintsWith :
    (node.withTaints (node.taintsWith key)).taintsUnder key =
      [evictionTaint key] := by
  have removed := node.taintsUnder_taintsWithout key
  unfold taintsUnder at removed ⊢
  rw [taints_withTaints] at removed ⊢
  rw [taintsWith, List.filter_append, removed]
  simp [evictionTaint]

@[simp] theorem taintsBeside_taintsWithout :
    (node.withTaints (node.taintsWithout key)).taintsBeside key =
      node.taintsBeside key := by
  rw [taintsWithout_eq]
  simp [taintsBeside, List.filter_filter]

@[simp] theorem taintsBeside_taintsWith :
    (node.withTaints (node.taintsWith key)).taintsBeside key =
      node.taintsBeside key := by
  have kept := node.taintsBeside_taintsWithout key
  unfold taintsBeside at kept ⊢
  rw [taints_withTaints] at kept ⊢
  rw [taintsWith, List.filter_append, kept]
  simp [evictionTaint]

theorem taintsBeside_taintsFor (shortage : Bool) :
    (node.withTaints (node.taintsFor key shortage)).taintsBeside key =
      node.taintsBeside key := by
  cases shortage with
  | true => exact node.taintsBeside_taintsWith key
  | false => exact node.taintsBeside_taintsWithout key

theorem hasEvictionTaint_eq : node.hasEvictionTaint key =
    (node.taintsUnder key).any (fun taint => taint.effect == noSchedule) := by
  unfold hasEvictionTaint taintsUnder
  rw [List.any_filter]
  congr 1

theorem hasEvictionTaint_taintsFor (shortage : Bool) :
    (node.withTaints (node.taintsFor key shortage)).hasEvictionTaint key =
      shortage := by
  rw [hasEvictionTaint_eq]
  cases shortage with
  | true =>
      change ((node.withTaints (node.taintsWith key)).taintsUnder key).any _ =
        true
      simp [evictionTaint]
  | false =>
      change ((node.withTaints (node.taintsWithout key)).taintsUnder key).any _ =
        false
      simp

theorem taintsWithout_taintsWithout :
    (node.withTaints (node.taintsWithout key)).taintsWithout key =
      node.taintsWithout key := by
  rw [taintsWithout_eq, taintsBeside_taintsWithout, taintsWithout_eq]

theorem taintsWithout_taintsWith :
    (node.withTaints (node.taintsWith key)).taintsWithout key =
      node.taintsWithout key := by
  rw [taintsWithout_eq, taintsBeside_taintsWith, taintsWithout_eq]

theorem taintsWith_taintsWith :
    (node.withTaints (node.taintsWith key)).taintsWith key =
      node.taintsWith key := by
  calc
    (node.withTaints (node.taintsWith key)).taintsWith key =
        (node.withTaints (node.taintsWith key)).taintsWithout key ++
          [evictionTaint key] := rfl
    _ = node.taintsWithout key ++ [evictionTaint key] := by
        rw [taintsWithout_taintsWith]

theorem hasEvictionTaint_congr {node other : Node} (same : node.taints = other.taints)
    (key : String) : node.hasEvictionTaint key = other.hasEvictionTaint key := by
  unfold hasEvictionTaint
  rw [same]

theorem taintsFor_congr {node other : Node} (same : node.taints = other.taints)
    (key : String) (shortage : Bool) :
    node.taintsFor key shortage = other.taintsFor key shortage := by
  unfold taintsFor taintsWith taintsWithout
  rw [same]

theorem taintsWithout_eq_iff :
    node.taintsWithout key = node.taints ↔
      ∀ taint ∈ node.taints, taint.key ≠ key := by
  rw [taintsWithout_eq, taintsBeside, List.filter_eq_self]
  simp

end SwapWarden.Node
