import Mathlib.Algebra.BigOperators.Group.List.Basic
import Mathlib.Algebra.GroupWithZero.Nat
import Mathlib.Data.List.Forall2
import Mathlib.Order.MinMax
import SwapWarden.Eviction.Order
import SwapWarden.Pod.MemoryRequest

/-!
# The effective memory request

Sums that stop at the largest word step by step stop there as a whole, and a
running maximum is the maximum.  So the request of a pod has a closed form in
what its containers ask for, and order does not count, more containers and
larger requests never lower it, and no container asks for more than the pod.
-/

namespace SwapWarden

namespace Container

/-- The bytes that a container asks for; without a request, none. -/
def requestedBytes (container : Container) : Nat :=
  match container.memoryRequest? with
  | some bytes => bytes.toNat
  | none => 0

/-- A container asks for no more than another one. -/
def AsksNoMore (first second : Container) : Prop :=
  first.requestedBytes ≤ second.requestedBytes

instance : Std.Refl AsksNoMore := ⟨fun _ => Nat.le_refl _⟩

variable {container : Container} {bytes : UInt64}

theorem requestedBytes_of_some (asked : container.memoryRequest? = some bytes) :
    container.requestedBytes = bytes.toNat := by
  rw [requestedBytes, asked]

theorem requestedBytes_of_none (silent : container.memoryRequest? = none) :
    container.requestedBytes = 0 := by
  rw [requestedBytes, silent]

end Container

namespace PodSpec

open Container

/-- The bytes that app containers ask for together, as far as they can be
counted, or the largest init container if it asks for more. -/
def joinedBytes (apps inits : List Container) : Nat :=
  max (min (apps.map requestedBytes).sum Word64.largest)
    ((inits.map requestedBytes).foldr max 0)

/-- The joined bytes with the overhead, if there are any. -/
def effectiveBytes (apps inits : List Container) (overhead : Nat) : Nat :=
  if joinedBytes apps inits = 0 then 0
  else min (joinedBytes apps inits + overhead) Word64.largest

variable {apps inits moreApps moreInits containers more : List Container}
  {overhead moreOverhead : Nat} {spec : PodSpec}

/-! ## The folds -/

theorem toNat_foldl_addCapped (containers : List Container)
    (start : UInt64) :
    ((containers.filterMap memoryRequest?).foldl Word64.addCapped
        start).toNat =
      min (start.toNat + (containers.map requestedBytes).sum)
        Word64.largest := by
  induction containers generalizing start with
  | nil => exact (Nat.min_eq_left (Word64.toNat_le_largest start)).symm
  | cons container containers induction =>
      cases asked : container.memoryRequest? with
      | none =>
          have bytes := requestedBytes_of_none asked
          rw [List.filterMap_cons_none asked, induction, List.map_cons,
            List.sum_cons, bytes, Nat.zero_add]
      | some request =>
          have bytes := requestedBytes_of_some asked
          rw [List.filterMap_cons_some asked, List.foldl_cons, induction,
            Word64.toNat_addCapped, List.map_cons, List.sum_cons, bytes]
          omega

theorem toNat_foldl_max (containers : List Container) (start : UInt64) :
    ((containers.filterMap memoryRequest?).foldl max start).toNat =
      max start.toNat ((containers.map requestedBytes).foldr max 0) := by
  induction containers generalizing start with
  | nil => exact (Nat.max_eq_left (Nat.zero_le _)).symm
  | cons container containers induction =>
      cases asked : container.memoryRequest? with
      | none =>
          have bytes := requestedBytes_of_none asked
          rw [List.filterMap_cons_none asked, induction, List.map_cons,
            List.foldr_cons, bytes, Nat.zero_max]
      | some request =>
          have bytes := requestedBytes_of_some asked
          rw [List.filterMap_cons_some asked, List.foldl_cons, induction,
            UInt64.toNat_max, List.map_cons, List.foldr_cons, bytes,
            Nat.max_assoc]

theorem toNat_withInitRequests (spec : PodSpec) :
    (spec.withInitRequests spec.appRequest).toNat =
      joinedBytes spec.containers (spec.initContainers.getD []) := by
  unfold withInitRequests appRequest joinedBytes
  rw [toNat_foldl_max, toNat_foldl_addCapped, UInt64.toNat_zero,
    Nat.zero_add]

theorem toNat_memoryRequest (spec : PodSpec) :
    spec.memoryRequest.toNat =
      effectiveBytes spec.containers (spec.initContainers.getD [])
        (spec.memoryOverhead?.getD 0).toNat := by
  have joined := toNat_withInitRequests spec
  unfold memoryRequest effectiveBytes
  dsimp only
  rw [← joined]
  split
  · rename_i positive
    have counted : 0 < (spec.withInitRequests spec.appRequest).toNat :=
      UInt64.lt_iff_toNat_lt.mp positive
    rw [if_neg (Nat.ne_of_gt counted)]
    cases spec.memoryOverhead? with
    | none => exact (Nat.min_eq_left (Word64.toNat_le_largest _)).symm
    | some overhead => exact Word64.toNat_addCapped _ overhead
  · rename_i nothing
    have zero : (spec.withInitRequests spec.appRequest).toNat = 0 :=
      Nat.eq_zero_of_not_pos fun counted =>
        nothing (UInt64.lt_iff_toNat_lt.mpr counted)
    rw [if_pos zero]
    exact zero

/-! ## Order and growth -/

theorem effectiveBytes_perm (appsMoved : apps.Perm moreApps)
    (initsMoved : inits.Perm moreInits) (overhead : Nat) :
    effectiveBytes apps inits overhead =
      effectiveBytes moreApps moreInits overhead := by
  have joined : joinedBytes apps inits = joinedBytes moreApps moreInits := by
    unfold joinedBytes
    rw [(appsMoved.map requestedBytes).sum_eq,
      (initsMoved.map requestedBytes).foldr_eq 0]
  unfold effectiveBytes
  rw [joined]

theorem sum_le_sum (grown : containers.SublistForall₂ AsksNoMore more) :
    (containers.map requestedBytes).sum ≤ (more.map requestedBytes).sum := by
  induction grown with
  | nil => exact Nat.zero_le _
  | cons larger _ induction => exact Nat.add_le_add larger induction
  | cons_right _ induction => exact Nat.le_add_left_of_le induction

theorem foldr_max_le (grown : containers.SublistForall₂ AsksNoMore more) :
    (containers.map requestedBytes).foldr max 0 ≤
      (more.map requestedBytes).foldr max 0 := by
  induction grown with
  | nil => exact Nat.zero_le _
  | cons larger _ induction => exact max_le_max larger induction
  | cons_right _ induction => exact Nat.le_trans induction (Nat.le_max_right _ _)

theorem joinedBytes_mono (appsGrown : apps.SublistForall₂ AsksNoMore moreApps)
    (initsGrown : inits.SublistForall₂ AsksNoMore moreInits) :
    joinedBytes apps inits ≤ joinedBytes moreApps moreInits := by
  apply max_le_max
  · exact min_le_min_right Word64.largest (sum_le_sum appsGrown)
  · exact foldr_max_le initsGrown

theorem le_effectiveBytes {bytes : Nat}
    (joined : bytes ≤ joinedBytes apps inits)
    (fits : bytes ≤ Word64.largest) (overhead : Nat) :
    bytes ≤ effectiveBytes apps inits overhead := by
  unfold effectiveBytes
  split
  · omega
  · exact Nat.le_min.mpr ⟨Nat.le_add_right_of_le joined, fits⟩

theorem effectiveBytes_mono
    (appsGrown : apps.SublistForall₂ AsksNoMore moreApps)
    (initsGrown : inits.SublistForall₂ AsksNoMore moreInits)
    (costlier : overhead ≤ moreOverhead) :
    effectiveBytes apps inits overhead ≤
      effectiveBytes moreApps moreInits moreOverhead := by
  have joined := joinedBytes_mono appsGrown initsGrown
  unfold effectiveBytes
  split
  · exact Nat.zero_le _
  · rw [if_neg (by omega)]
    apply min_le_min_right
    exact Nat.add_le_add joined costlier

end PodSpec

namespace Pod

open Container PodSpec

variable {pod : Pod} {container : Container} {bytes : UInt64}

/-- The bytes that running a pod costs beside its containers. -/
def overheadBytes (pod : Pod) : Nat :=
  match pod.spec.bind PodSpec.memoryOverhead? with
  | some overhead => overhead.toNat
  | none => 0

theorem toNat_memoryRequest (pod : Pod) :
    pod.memoryRequest.toNat =
      effectiveBytes pod.appContainers pod.initContainers
        pod.overheadBytes := by
  unfold memoryRequest appContainers initContainers overheadBytes
  cases pod.spec with
  | none => rfl
  | some spec =>
      rw [Option.bind_some]
      dsimp only
      rw [PodSpec.toNat_memoryRequest]
      cases spec.memoryOverhead? with
      | none => rfl
      | some overhead => rfl

/-- A container asks for no more than its pod: it alone, as an app or an init
container, makes a pod of no more containers. -/
theorem bytes_le_memoryRequest (member : container ∈ pod.allContainers)
    (asked : container.memoryRequest? = some bytes) :
    bytes ≤ pod.memoryRequest := by
  have alone := requestedBytes_of_some asked
  have fits := Word64.toNat_le_largest bytes
  rw [UInt64.le_iff_toNat_le, toNat_memoryRequest]
  apply le_effectiveBytes _ fits
  rcases List.mem_append.mp member with app | init
  · have part : [container].SublistForall₂ AsksNoMore pod.appContainers :=
      (List.singleton_sublist.mpr app).sublistForall₂
    calc bytes.toNat = joinedBytes [container] [] := by
          simp [joinedBytes, alone, fits]
      _ ≤ joinedBytes pod.appContainers pod.initContainers :=
          joinedBytes_mono part .nil
  · have part : [container].SublistForall₂ AsksNoMore pod.initContainers :=
      (List.singleton_sublist.mpr init).sublistForall₂
    calc bytes.toNat = joinedBytes [] [container] := by
          simp [joinedBytes, alone]
      _ ≤ joinedBytes pod.appContainers pod.initContainers :=
          joinedBytes_mono .nil part

end Pod

end SwapWarden
