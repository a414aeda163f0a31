import SwapWarden.Proofs.Text.Numeral
import SwapWarden.Text.Decimal

/-!
# The texts that are numbers

Each reader of numbers against the grammar of the texts it accepts.  The reader
of doubles also knows an exponent and some words, but both need a letter; among
the texts without letters it accepts a sign and a number with a point, and no
other.
-/

namespace SwapWarden.Text

variable {text digits rest : List Char}

/-- Digits with at most one point and at least one digit: the value of all the
digits, and how many of them stand after the point. -/
inductive IsFixedPoint : List Char → Nat → Nat → Prop where
  | whole {digits : List Char} {value : Nat}
      (numeral : IsNumeral digits value) : IsFixedPoint digits value 0
  | pointed {whole fraction : List Char} {value : Nat}
      (numeral : IsNumeral (whole ++ fraction) value) :
      IsFixedPoint (whole ++ '.' :: fraction) value fraction.length

/-- At most one sign. -/
def IsSign (text : List Char) : Prop :=
  text = [] ∨ text = ['+'] ∨ text = ['-']

/-- What stands before the first character out of a class is all that is taken
of that class. -/
theorem takeWhile_dropWhile_append {keep : Char → Bool} {front : List Char}
    (kept : ∀ char ∈ front, keep char = true) (rest : List Char)
    (stop : ∀ char ∈ rest.head?, keep char = false) :
    (front ++ rest).takeWhile keep = front ∧
      (front ++ rest).dropWhile keep = rest := by
  rw [List.takeWhile_append_of_pos kept, List.dropWhile_append_of_pos kept]
  cases rest with
  | nil => simp
  | cons char rest =>
      have stopped := stop char rfl
      simp [stopped]

theorem fixedPoint?_eq_some_iff {value places : Nat} :
    fixedPoint? text = some (value, places) ↔
      IsFixedPoint text value places := by
  constructor
  · intro read
    have parts := List.takeWhile_append_dropWhile
      (p := Char.isDigit) (l := text)
    unfold fixedPoint? at read
    dsimp only at read
    rw [← parts]
    split at read
    · rename_i ended
      obtain ⟨size, found, same⟩ := Option.map_eq_some_iff.mp read
      cases same
      rw [ended, List.append_nil]
      exact .whole (isNumeral_of_natural? found)
    · rename_i fraction pointed
      obtain ⟨size, found, same⟩ := Option.map_eq_some_iff.mp read
      cases same
      rw [pointed]
      exact .pointed (isNumeral_of_natural? found)
    · cases read
  · intro fixed
    cases fixed with
    | whole numeral =>
        have parts := takeWhile_dropWhile_append numeral.digit [] (by simp)
        rw [List.append_nil] at parts
        rw [fixedPoint?, parts.1, parts.2, numeral.natural?_eq]
        rfl
    | @pointed whole fraction _ numeral =>
        have digit := (List.forall_mem_append.mp numeral.digit).1
        have parts := takeWhile_dropWhile_append digit ('.' :: fraction)
          (by simp)
        simp only [fixedPoint?, parts.1, parts.2, numeral.natural?_eq,
          Option.map_some]

theorem isAlpha_of_isDigit {char : Char} (digit : char.isDigit = true) :
    char.isAlpha = false := by
  have bounds := toNat_of_isDigit digit
  have upper : 'A'.val.toNat = 65 := rfl
  have lower : 'a'.val.toNat = 97 := rfl
  change (decide ('A'.val ≤ char.val ∧ char.val ≤ 'Z'.val) ||
    (decide ('a'.val ≤ char.val) && decide (char.val ≤ 'z'.val))) = false
  simp only [Bool.or_eq_false_iff, Bool.and_eq_false_iff,
    decide_eq_false_iff_not, UInt32.le_iff_toNat_le, upper, lower,
    Char.toNat_val]
  omega

theorem toLower_eq_self {char : Char} (noLetter : char.isAlpha = false) :
    char.toLower = char := by
  unfold Char.toLower
  split
  · rename_i upper
    have letter : char.isAlpha = true :=
      Bool.or_eq_true_iff.mpr (.inl (decide_eq_true upper))
    rw [letter] at noLetter
    cases noLetter
  · rfl

theorem ofList_toLower_ne {word : String}
    (noLetter : ∀ char ∈ text, char.isAlpha = false)
    (letter : word.toList.any Char.isAlpha = true) :
    String.ofList (text.map Char.toLower) ≠ word := by
  rintro rfl
  have same : text.map Char.toLower = text := by
    conv_rhs => rw [← List.map_id text]
    exact List.map_congr_left fun char member =>
      toLower_eq_self (noLetter char member)
  rw [String.toList_ofList, same, List.any_eq_true] at letter
  obtain ⟨char, member, isLetter⟩ := letter
  rw [noLetter char member] at isLetter
  cases isLetter

theorem unsignedDecimal?_eq_of_no_letter {negative : Bool}
    (noLetter : ∀ char ∈ text, char.isAlpha = false) :
    unsignedDecimal? negative text =
      (fixedPoint? text).map fun value =>
        ⟨negative, value.1, -Int.ofNat value.2⟩ := by
  have unmarked : ∀ char ∈ text, (char != 'e' && char != 'E') = true := by
    intro char member
    have noMark := noLetter char member
    rw [Bool.and_eq_true, bne_iff_ne, bne_iff_ne]
    constructor
    · rintro rfl
      exact absurd noMark (by decide)
    · rintro rfl
      exact absurd noMark (by decide)
  have parts := takeWhile_dropWhile_append unmarked [] (by simp)
  rw [List.append_nil] at parts
  simp only [unsignedDecimal?, parts.1, parts.2]

/-- A text without letters is read as a number with a point, after its
sign. -/
theorem float?_eq_of_no_letter
    (noLetter : ∀ char ∈ text, char.isAlpha = false) :
    float? text =
      (fixedPoint? (splitSign text).2).map fun value =>
        Decimal.toFloat ⟨(splitSign text).1, value.1, -Int.ofNat value.2⟩ := by
  have unsigned : ∀ char ∈ (splitSign text).2, char.isAlpha = false := by
    unfold splitSign
    split
    · exact (List.forall_mem_cons.mp noLetter).2
    · exact (List.forall_mem_cons.mp noLetter).2
    · exact noLetter
  have noWord : ∀ word ∈ ["inf", "infinity", "nan"],
      String.ofList ((splitSign text).2.map Char.toLower) ≠ word := by
    intro word listed
    refine ofList_toLower_ne unsigned ?_
    revert word
    decide
  rw [List.forall_mem_cons, List.forall_mem_cons,
    List.forall_mem_singleton] at noWord
  obtain ⟨short, long, none⟩ := noWord
  simp only [float?, beq_iff_eq, Bool.or_eq_true, short, long, none, or_self,
    if_false, unsignedDecimal?_eq_of_no_letter unsigned, Option.map_map]
  rfl

theorem IsFixedPoint.unsigned {value places : Nat}
    (fixed : IsFixedPoint text value places) {char : Char}
    (start : text = char :: rest) : char ≠ '+' ∧ char ≠ '-' := by
  cases fixed with
  | whole numeral => exact numeral.unsigned start
  | @pointed whole fraction _ numeral =>
      cases whole with
      | nil =>
          obtain ⟨rfl, _⟩ := List.cons.inj start
          decide
      | cons first whole =>
          obtain ⟨rfl, _⟩ := List.cons.inj start
          exact numeral.unsigned rfl

theorem IsFixedPoint.digit_or_point {value places : Nat}
    (fixed : IsFixedPoint text value places) :
    ∀ char ∈ text, char.isDigit = true ∨ char = '.' := by
  cases fixed with
  | whole numeral => exact fun char member => .inl (numeral.digit char member)
  | pointed numeral =>
      intro char member
      rcases List.mem_append.mp member with before | after
      · exact .inl (numeral.digit char (List.mem_append_left _ before))
      · rcases List.mem_cons.mp after with rfl | behind
        · exact .inr rfl
        · exact .inl (numeral.digit char (List.mem_append_right _ behind))

theorem IsFixedPoint.splitSign_append {sign : List Char} {value places : Nat}
    (fixed : IsFixedPoint text value places) (atMostOne : IsSign sign) :
    (splitSign (sign ++ text)).2 = text := by
  rcases atMostOne with rfl | rfl | rfl
  · unfold splitSign
    split
    · rename_i start
      exact absurd rfl (fixed.unsigned start).2
    · rename_i start
      exact absurd rfl (fixed.unsigned start).1
    · rfl
  · rfl
  · rfl

theorem exists_sign (text : List Char) :
    ∃ sign, IsSign sign ∧ text = sign ++ (splitSign text).2 := by
  unfold splitSign
  split
  · exact ⟨['-'], .inr (.inr rfl), rfl⟩
  · exact ⟨['+'], .inr (.inl rfl), rfl⟩
  · exact ⟨[], .inl rfl, rfl⟩

end SwapWarden.Text
