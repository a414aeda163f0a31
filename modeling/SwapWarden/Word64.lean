/-!
# 64-bit counts

Byte and page counts are 64-bit words.  Sums stop at the largest word and
differences at zero; neither wraps.
-/

namespace SwapWarden.Word64

/-- The largest word. -/
def largest : Nat := UInt64.size - 1

/-- A natural number as a word, the largest one when it does not fit. -/
def capped (value : Nat) : UInt64 :=
  UInt64.ofNat (min value largest)

/-- The sum of two words, at most the largest one. -/
def addCapped (left right : UInt64) : UInt64 :=
  capped (left.toNat + right.toNat)

/-- The difference of two words, at least zero. -/
def subFloored (left right : UInt64) : UInt64 :=
  UInt64.ofNat (left.toNat - right.toNat)

theorem toNat_capped (value : Nat) :
    (capped value).toNat = min value largest := by
  have bound : min value largest < UInt64.size := by
    unfold largest UInt64.size; omega
  simp only [capped, UInt64.toNat_ofNat']
  exact Nat.mod_eq_of_lt bound

theorem toNat_addCapped (left right : UInt64) :
    (addCapped left right).toNat =
      min (left.toNat + right.toNat) largest :=
  toNat_capped _

theorem toNat_subFloored (left right : UInt64) :
    (subFloored left right).toNat = left.toNat - right.toNat := by
  have bound := left.toNat_lt
  simp only [subFloored, UInt64.toNat_ofNat']
  exact Nat.mod_eq_of_lt (by omega)

theorem toNat_le_largest (value : UInt64) : value.toNat ≤ largest := by
  have bound := value.toNat_lt
  unfold largest UInt64.size
  omega

end SwapWarden.Word64
