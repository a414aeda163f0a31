import Mathlib.Algebra.Group.Int.Defs
import Mathlib.Data.List.Induction
import SwapWarden.Proofs.Text.Timestamp

/-!
# Whole numbers read and written anew

A whole number is a numeral with at most one sign, and is read if it fits its
width.  One that is read and written again loses its plus sign, the zeros at
its start and the sign of a minus zero, and nothing else.
-/

namespace SwapWarden.Text

/-- Digits without zeros at their start that could be left out. -/
def IsShort (digits : List Char) : Prop :=
  digits.head? = some '0' → digits = ['0']

instance (digits : List Char) : Decidable (IsShort digits) :=
  inferInstanceAs (Decidable (_ → _))

/-- A whole number as it is written: without a plus sign, without zeros that
could be left out, and without a minus before zero. -/
def IsPlainWhole : List Char → Prop
  | '+' :: _ => False
  | '-' :: digits => digits.head? ≠ some '0'
  | digits => IsShort digits

/-- A whole number with at most one sign. -/
inductive IsWhole : List Char → Int → Prop where
  | unsigned {digits : List Char} {value : Nat}
      (numeral : IsNumeral digits value) : IsWhole digits value
  | plus {digits : List Char} {value : Nat}
      (numeral : IsNumeral digits value) : IsWhole ('+' :: digits) value
  | minus {digits : List Char} {value : Nat}
      (numeral : IsNumeral digits value) : IsWhole ('-' :: digits) (-value)

variable {digits text : List Char} {value seen : Nat}

private theorem head?_append_of_ne_nil {front : List Char}
    (filled : front ≠ []) (rest : List Char) :
    (front ++ rest).head? = front.head? := by
  cases front with
  | nil => exact absurd rfl filled
  | cons char front => rfl

theorem isDigit_of_digit? {char : Char} (read : digit? char = some value) :
    char.isDigit = true ∧ char.toNat - '0'.toNat = value := by
  unfold digit? at read
  split at read
  · rename_i digit
    exact ⟨digit, Option.some.inj read⟩
  · cases read

theorem digits_of_digitsFrom? (read : digitsFrom? seen digits = some value) :
    (∀ char ∈ digits, char.isDigit = true) ∧
      Nat.ofDigitChars 10 digits seen = value := by
  induction digits generalizing seen with
  | nil => exact ⟨by simp, Option.some.inj read⟩
  | cons char rest induction =>
      rw [digitsFrom?] at read
      cases first : digit? char with
      | none =>
          rw [first] at read
          cases read
      | some digit =>
          rw [first] at read
          obtain ⟨isDigit, same⟩ := isDigit_of_digit? first
          obtain ⟨others, total⟩ := induction read
          refine ⟨?_, ?_⟩
          · intro other member
            rcases List.mem_cons.mp member with rfl | later
            · exact isDigit
            · exact others other later
          · rw [Nat.ofDigitChars_cons, same]
            exact total

theorem isNumeral_of_natural? (read : natural? text = some value) :
    IsNumeral text value := by
  unfold natural? at read
  split at read
  · cases read
  · rename_i filled
    obtain ⟨digit, total⟩ := digits_of_digitsFrom? read
    exact ⟨by simpa using filled, digit, total⟩

theorem digitChar_of_isDigit {char : Char} (digit : char.isDigit = true) :
    char.toNat - '0'.toNat < 10 ∧
      Nat.digitChar (char.toNat - '0'.toNat) = char := by
  have bounds := toNat_of_isDigit digit
  have small : char.toNat - '0'.toNat < 10 := by
    change char.toNat - 48 < 10
    omega
  refine ⟨small, Char.toNat_inj.mp ?_⟩
  rw [Nat.toNat_digitChar_of_lt_ten small]
  change 48 + (char.toNat - 48) = char.toNat
  omega

theorem isShort_toDigits (value : Nat) : IsShort (Nat.toDigits 10 value) := by
  induction value using Nat.strongRecOn with
  | ind value induction =>
      by_cases small : value < 10
      · rw [Nat.toDigits_of_lt_base small]
        intro zero
        rw [Option.some.inj zero]
      · rw [Nat.toDigits_of_base_le (by decide) (by omega)]
        intro zero
        have front : (Nat.toDigits 10 (value / 10)).head? = some '0' := by
          rw [head?_append_of_ne_nil Nat.toDigits_ne_nil] at zero
          exact zero
        have single := induction (value / 10) (by omega) front
        have nothing : value / 10 = 0 := by
          rw [← Nat.ofDigitChars_ten_toDigits (n := value / 10), single]
          rfl
        omega

namespace IsNumeral

theorem toDigits_eq (numeral : IsNumeral digits value)
    (short : IsShort digits) : Nat.toDigits 10 value = digits := by
  induction digits using List.reverseRecOn generalizing value with
  | nil => exact absurd rfl numeral.nonempty
  | append_singleton front last induction =>
      obtain ⟨small, same⟩ := digitChar_of_isDigit
        (numeral.digit last (by simp))
      have total := numeral.value
      rw [Nat.ofDigitChars_append, Nat.ofDigitChars_cons,
        Nat.ofDigitChars_nil] at total
      by_cases empty : front = []
      · subst empty
        rw [Nat.ofDigitChars_nil, Nat.mul_zero, Nat.zero_add] at total
        rw [← total, Nat.toDigits_of_lt_base small, same]
        rfl
      · have front? : IsNumeral front (Nat.ofDigitChars 10 front 0) :=
          ⟨empty, fun char member => numeral.digit char (by simp [member]), rfl⟩
        have nonzero : front.head? ≠ some '0' := by
          intro zero
          have single := short (by
            rw [head?_append_of_ne_nil empty]
            exact zero)
          have length := congrArg List.length single
          have more := List.length_pos_iff.mpr empty
          simp only [List.length_append, List.length_cons,
            List.length_nil] at length
          omega
        have written := induction front? fun zero => absurd zero nonzero
        have positive : 0 < Nat.ofDigitChars 10 front 0 := by
          refine Nat.pos_of_ne_zero fun nothing => nonzero ?_
          rw [← written, nothing]
          rfl
        rw [← total, ← Nat.toDigits_append_toDigits (by decide) positive small,
          written, Nat.toDigits_of_lt_base small, same]

theorem toDigits_eq_iff (numeral : IsNumeral digits value) :
    Nat.toDigits 10 value = digits ↔ IsShort digits := by
  constructor
  · rintro rfl
    exact isShort_toDigits value
  · exact numeral.toDigits_eq

theorem head?_eq_zero_iff (numeral : IsNumeral digits value)
    (short : IsShort digits) : digits.head? = some '0' ↔ value = 0 := by
  have written := numeral.toDigits_eq short
  constructor
  · intro zero
    have total := numeral.value
    rw [short zero] at total
    exact total.symm
  · rintro rfl
    rw [← written]
    rfl

end IsNumeral

/-! ## Signed numbers -/

theorem IsNumeral.unsigned (numeral : IsNumeral text value) {char : Char}
    {rest : List Char} (start : text = char :: rest) :
    char ≠ '+' ∧ char ≠ '-' := by
  have digit := numeral.digit char (by simp [start])
  constructor
  · rintro rfl
    exact absurd digit (by decide)
  · rintro rfl
    exact absurd digit (by decide)

theorem signed?_eq_some_iff {width : Nat} {value : Int} :
    signed? width text = some value ↔
      IsWhole text value ∧
        -(2 ^ (width - 1) : Int) ≤ value ∧ value < 2 ^ (width - 1) := by
  have bound : Int.ofNat (Nat.pow 2 (width - 1)) = 2 ^ (width - 1) :=
    Int.natCast_pow 2 (width - 1)
  unfold signed?
  simp only [bound, Option.filter_eq_some_iff, Bool.and_eq_true,
    decide_eq_true_eq]
  refine and_congr_left fun _ => ?_
  constructor
  · intro read
    split at read
    all_goals
      obtain ⟨size, found, rfl⟩ := Option.map_eq_some_iff.mp read
      have numeral := isNumeral_of_natural? found
    · exact .plus numeral
    · exact .minus numeral
    · exact .unsigned numeral
  · intro whole
    cases whole with
    | unsigned numeral =>
        split
        · exact absurd rfl (numeral.unsigned rfl).1
        · exact absurd rfl (numeral.unsigned rfl).2
        · rw [numeral.natural?_eq]
          rfl
    | plus numeral =>
        simp only [numeral.natural?_eq, Option.map_some]
        rfl
    | minus numeral =>
        simp only [numeral.natural?_eq, Option.map_some]
        rfl

theorem IsWhole.digit_or_sign {value : Int} (whole : IsWhole text value) :
    ∀ char ∈ text, char.isDigit = true ∨ char = '+' ∨ char = '-' := by
  cases whole with
  | unsigned numeral =>
      exact fun char member => .inl (numeral.digit char member)
  | plus numeral =>
      exact List.forall_mem_cons.mpr ⟨.inr (.inl rfl),
        fun char member => .inl (numeral.digit char member)⟩
  | minus numeral =>
      exact List.forall_mem_cons.mpr ⟨.inr (.inr rfl),
        fun char member => .inl (numeral.digit char member)⟩

theorem toList_toString_natCast (value : Nat) :
    (toString (value : Int)).toList = Nat.toDigits 10 value := by
  rw [← String.toList_ofList (l := Nat.toDigits 10 value),
    ← Nat.toString_eq_ofList_toDigits]
  rfl

theorem toList_toString_neg (positive : 0 < value) :
    (toString (-(value : Int))).toList = '-' :: Nat.toDigits 10 value := by
  obtain ⟨less, rfl⟩ : ∃ less, value = less + 1 := ⟨value - 1, by omega⟩
  have sign : (toString (-((less + 1 : Nat) : Int))) =
      "-" ++ toString (less + 1) := rfl
  rw [sign, String.toList_append, Nat.toString_eq_ofList_toDigits,
    String.toList_ofList, String.toList_ofList]
  rfl

/-- A number is written as it was read exactly when it was read from the plain
form of it. -/
theorem IsWhole.toString_eq_iff {value : Int} (whole : IsWhole text value) :
    (toString value).toList = text ↔ IsPlainWhole text := by
  cases whole with
  | unsigned numeral =>
      have plain : IsPlainWhole text ↔ IsShort text := by
        unfold IsPlainWhole
        split
        · exact absurd rfl (numeral.unsigned rfl).1
        · exact absurd rfl (numeral.unsigned rfl).2
        · exact Iff.rfl
      rw [toList_toString_natCast, numeral.toDigits_eq_iff, plain]
  | @plus digits size numeral =>
      refine iff_of_false ?_ id
      intro same
      rw [toList_toString_natCast] at same
      have plus : '+' ∈ Nat.toDigits 10 size := by simp [same]
      exact absurd (Nat.isDigit_of_mem_toDigits (by decide) (by decide) plus)
        (by decide)
  | @minus digits size numeral =>
      by_cases positive : 0 < size
      · rw [toList_toString_neg positive, List.cons.injEq,
          numeral.toDigits_eq_iff]
        constructor
        · rintro ⟨_, short⟩ zero
          have nothing := (numeral.head?_eq_zero_iff short).mp zero
          omega
        · intro nonzero
          exact ⟨rfl, fun zero => absurd zero nonzero⟩
      · obtain rfl : size = 0 := by omega
        refine iff_of_false ?_ ?_
        · intro same
          have zero := (toList_toString_natCast 0).symm.trans same
          rw [Nat.toDigits_zero] at zero
          cases zero
        · intro nonzero
          have short : IsShort digits := fun zero => absurd zero nonzero
          exact nonzero ((numeral.head?_eq_zero_iff short).mpr rfl)

end SwapWarden.Text
