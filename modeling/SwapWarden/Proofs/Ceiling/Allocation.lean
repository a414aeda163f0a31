import SwapWarden.Ceiling.Policy
import Mathlib.Algebra.Order.Floor.Semifield
import Mathlib.Data.Rat.Floor

/-!
# Shares never add up to more than there is

A share is rounded down, so shares times the memory they are reckoned by never
exceed requests times swap, and this carries over to any sum of them.  Words of
128 bits are wide enough to reckon a share in.
-/

namespace SwapWarden

namespace NodeCapacity

variable {capacity : NodeCapacity}

theorem toNat_share (memory : 0 < capacity.totalMemory) (request : UInt64) :
    (capacity.share request).toNat =
      min (request.toNat * capacity.totalSwap.toNat /
        capacity.totalMemory.toNat) Word64.largest := by
  have present : capacity.totalMemory ≠ 0 := (UInt64.ne_of_lt memory).symm
  rw [share, if_neg present]
  exact Word64.toNat_capped _

theorem toNat_share_le (memory : 0 < capacity.totalMemory) (request : UInt64) :
    (capacity.share request).toNat ≤
      request.toNat * capacity.totalSwap.toNat /
        capacity.totalMemory.toNat := by
  rw [toNat_share memory]
  exact Nat.min_le_left _ _

theorem share_le_totalSwap (memory : 0 < capacity.totalMemory)
    {request : UInt64} (fits : request ≤ capacity.totalMemory) :
    capacity.share request ≤ capacity.totalSwap := by
  have positive : 0 < capacity.totalMemory.toNat := memory
  apply UInt64.le_iff_toNat_le.mpr
  calc (capacity.share request).toNat
      ≤ request.toNat * capacity.totalSwap.toNat /
          capacity.totalMemory.toNat := toNat_share_le memory request
    _ ≤ capacity.totalMemory.toNat * capacity.totalSwap.toNat /
          capacity.totalMemory.toNat :=
        Nat.div_le_div_right (Nat.mul_le_mul_right _
          (UInt64.le_iff_toNat_le.mp fits))
    _ = capacity.totalSwap.toNat := Nat.mul_div_cancel_left _ positive

/-- More is shared out when more is asked for, when there is more swap, or when
there is less memory to reckon by. -/
theorem share_le_share {other : NodeCapacity} {request more : UInt64}
    (memory : 0 < other.totalMemory)
    (lessMemory : other.totalMemory ≤ capacity.totalMemory)
    (moreSwap : capacity.totalSwap ≤ other.totalSwap)
    (asksMore : request ≤ more) :
    capacity.share request ≤ other.share more := by
  have present : 0 < capacity.totalMemory :=
    UInt64.lt_of_lt_of_le memory lessMemory
  apply UInt64.le_iff_toNat_le.mpr
  rw [toNat_share present, toNat_share memory]
  have products : request.toNat * capacity.totalSwap.toNat ≤
      more.toNat * other.totalSwap.toNat :=
    Nat.mul_le_mul (UInt64.le_iff_toNat_le.mp asksMore)
      (UInt64.le_iff_toNat_le.mp moreSwap)
  have quotients : request.toNat * capacity.totalSwap.toNat /
        capacity.totalMemory.toNat ≤
      more.toNat * other.totalSwap.toNat / other.totalMemory.toNat :=
    Nat.div_le_div products (UInt64.le_iff_toNat_le.mp lessMemory)
      (Nat.ne_of_gt memory)
  omega

/-! ## Words of 128 bits -/

/-- A word with 128 bits. -/
def wide (word : UInt64) : BitVec 128 := word.toBitVec.setWidth 128

theorem toNat_wide (word : UInt64) : (wide word).toNat = word.toNat := by
  have small : word.toNat < 2 ^ 128 :=
    Nat.lt_of_lt_of_le word.toNat_lt (by decide)
  rw [wide, BitVec.toNat_setWidth]
  exact Nat.mod_eq_of_lt small

theorem product_lt (first second : UInt64) :
    first.toNat * second.toNat < 2 ^ 128 :=
  calc first.toNat * second.toNat
      < 2 ^ 64 * 2 ^ 64 := Nat.mul_lt_mul'' first.toNat_lt second.toNat_lt
    _ = 2 ^ 128 := by decide

theorem toNat_wide_mul (first second : UInt64) :
    (wide first * wide second).toNat = first.toNat * second.toNat := by
  rw [BitVec.toNat_mul, toNat_wide, toNat_wide]
  exact Nat.mod_eq_of_lt (product_lt first second)

/-- The share as it is reckoned in words of 128 bits, whose products wrap. -/
def wideShare (capacity : NodeCapacity) (request : UInt64) : UInt64 :=
  Word64.capped (wide request * wide capacity.totalSwap /
    wide capacity.totalMemory).toNat

theorem wideShare_eq (memory : 0 < capacity.totalMemory) (request : UInt64) :
    capacity.wideShare request = capacity.share request := by
  have present : capacity.totalMemory ≠ 0 := (UInt64.ne_of_lt memory).symm
  rw [wideShare, share, if_neg present, BitVec.toNat_udiv, toNat_wide_mul,
    toNat_wide]

/-! ## Sums of ceilings -/

/-- The memory that some containers ask for together. -/
def requested (demands : List (Container × Bool)) : Nat :=
  (demands.map fun demand => (demand.1.memoryRequest?.getD 0).toNat).sum

/-- The swap that some containers may use together, each of them with or
without a share. -/
def granted (capacity : NodeCapacity) (demands : List (Container × Bool)) :
    Nat :=
  (demands.map fun demand =>
    (capacity.ceilingFor demand.1 demand.2).toNat).sum

theorem ceilingFor_le_share (capacity : NodeCapacity)
    (container : Container) (withoutSwap : Bool) :
    (capacity.ceilingFor container withoutSwap).toNat ≤
      (capacity.share (container.memoryRequest?.getD 0)).toNat := by
  unfold ceilingFor
  dsimp only
  split
  · exact Nat.zero_le _
  · exact Nat.le_refl _

theorem granted_mul_le (memory : 0 < capacity.totalMemory)
    (demands : List (Container × Bool)) :
    capacity.granted demands * capacity.totalMemory.toNat ≤
      requested demands * capacity.totalSwap.toNat := by
  induction demands with
  | nil => simp [granted]
  | cons demand demands induction =>
      obtain ⟨container, withoutSwap⟩ := demand
      have ceiling := Nat.le_trans
        (ceilingFor_le_share capacity container withoutSwap)
        (toNat_share_le memory (container.memoryRequest?.getD 0))
      have first : (capacity.ceilingFor container withoutSwap).toNat *
            capacity.totalMemory.toNat ≤
          (container.memoryRequest?.getD 0).toNat *
            capacity.totalSwap.toNat :=
        (Nat.le_div_iff_mul_le memory).mp ceiling
      unfold granted requested at induction ⊢
      rw [List.map_cons, List.map_cons, List.sum_cons, List.sum_cons,
        Nat.add_mul, Nat.add_mul]
      exact Nat.add_le_add first induction

/-- What a share of swap amounts to. -/
structure IsShare (capacity : NodeCapacity) (request share : UInt64) :
    Prop where
  rounded_down : share.toNat =
    min ⌊(request.toNat * capacity.totalSwap.toNat : ℚ) /
      capacity.totalMemory.toNat⌋₊ (2 ^ 64 - 1)
  product_fits : request.toNat * capacity.totalSwap.toNat < 2 ^ 128
  reckoned_wide : share = capacity.wideShare request
  within : request ≤ capacity.totalMemory → share ≤ capacity.totalSwap
  asking_more : ∀ more, request ≤ more → share ≤ capacity.share more
  more_swap : ∀ swap, capacity.totalSwap ≤ swap →
    share ≤ { capacity with totalSwap := swap }.share request
  more_memory : ∀ memory, capacity.totalMemory ≤ memory →
    { capacity with totalMemory := memory }.share request ≤ share

/-- On a node with memory, containers that ask for no more than all memory are
granted no more than all swap, and a share is the exact one rounded down, at
most the largest word. -/
theorem swap_never_oversubscribed (capacity : NodeCapacity)
    (memory : 0 < capacity.totalMemory) :
    (∀ demands, requested demands ≤ capacity.totalMemory.toNat →
        capacity.granted demands ≤ capacity.totalSwap.toNat) ∧
      ∀ request, IsShare capacity request (capacity.share request) := by
  constructor
  · intro demands fits
    have positive : 0 < capacity.totalMemory.toNat := memory
    refine Nat.le_of_mul_le_mul_right ?_ positive
    calc capacity.granted demands * capacity.totalMemory.toNat
        ≤ requested demands * capacity.totalSwap.toNat :=
          granted_mul_le memory demands
      _ ≤ capacity.totalMemory.toNat * capacity.totalSwap.toNat :=
          Nat.mul_le_mul_right _ fits
      _ = capacity.totalSwap.toNat * capacity.totalMemory.toNat :=
          Nat.mul_comm _ _
  · intro request
    have same := UInt64.le_refl (a := capacity.totalMemory)
    constructor
    · rw [toNat_share memory, ← Nat.cast_mul, Nat.floor_div_eq_div]
      rfl
    · exact product_lt request capacity.totalSwap
    · exact (wideShare_eq memory request).symm
    · exact share_le_totalSwap memory
    · intro more asksMore
      exact share_le_share memory (UInt64.le_refl _) (UInt64.le_refl _)
        asksMore
    · intro swap moreSwap
      exact share_le_share memory (UInt64.le_refl _) moreSwap
        (UInt64.le_refl _)
    · intro larger moreMemory
      exact share_le_share memory moreMemory (UInt64.le_refl _)
        (UInt64.le_refl _)

/-- Products of requests and swap beyond 64 bits, and a container that goes
without swap. -/
theorem swap_never_oversubscribed_huge :
    let capacity : NodeCapacity := ⟨Word64.capped (2 ^ 64), 12345678901234567⟩
    let asking (raw : String) : Container :=
      { resources := some { requests := some ⟨[("memory", raw)]⟩ } }
    let demands :=
      [(asking "8Ei", false), (asking "7.5Ei", false), (asking "1Ki", true)]
    0 < capacity.totalMemory ∧
      requested demands ≤ capacity.totalMemory.toNat ∧
      capacity.granted demands ≤ capacity.totalSwap.toNat ∧
      IsShare capacity 9223372036854775808 6172839450617283 := by
  intro capacity asking demands
  have memory : 0 < capacity.totalMemory := by decide
  have fits : requested demands ≤ capacity.totalMemory.toNat := by
    decide +kernel
  obtain ⟨bounded, shares⟩ := swap_never_oversubscribed capacity memory
  have half : capacity.share 9223372036854775808 = 6172839450617283 := by
    decide +kernel
  exact ⟨memory, fits, bounded demands fits, half ▸ shares _⟩

end NodeCapacity

end SwapWarden
