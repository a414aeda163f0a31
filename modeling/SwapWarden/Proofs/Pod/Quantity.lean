import Mathlib.Data.List.TakeWhile
import SwapWarden.Pod.Quantity
import SwapWarden.Proofs.Text.Decimal

/-!
# The grammar of quantities

A quantity is a sign, a number and a suffix, with blanks around them.  The
reader cuts the text at the first character that no number has, so its halves
are the number and the suffix of the grammar: a suffix starts with a letter, and
a number has none.
-/

namespace SwapWarden

namespace Text

variable {before core after text : List Char}

theorem trim_append (blankBefore : ∀ char ∈ before, isBlank char = true)
    (visible : ∀ char ∈ core, isBlank char = false)
    (blankAfter : ∀ char ∈ after, isBlank char = true) :
    trim (before ++ (core ++ after)) = core := by
  have kept : (core.reverse).dropWhile isBlank = core.reverse :=
    (takeWhile_dropWhile_append (List.forall_mem_nil _) core.reverse (by
      intro char first
      exact visible char
        (List.mem_reverse.mp (List.mem_of_head? first)))).2
  have blankEnd : ∀ char ∈ after.reverse, isBlank char = true := by
    simpa using blankAfter
  have cut : (core ++ after).reverse.dropWhile isBlank = core.reverse := by
    rw [List.reverse_append, List.dropWhile_append_of_pos blankEnd, kept]
  unfold trim trimEnds
  rw [List.dropWhile_append_of_pos blankBefore]
  cases core with
  | nil =>
      have nothing : after.dropWhile isBlank = [] :=
        List.dropWhile_eq_nil_iff.mpr blankAfter
      simp [nothing]
  | cons char core =>
      rw [List.cons_append, List.dropWhile_cons_of_neg
        (by simp [visible char]), ← List.cons_append, cut,
        List.reverse_reverse]

theorem exists_trim_parts (text : List Char) :
    ∃ before after, text = before ++ (trim text ++ after) ∧
      (∀ char ∈ before, isBlank char = true) ∧
      ∀ char ∈ after, isBlank char = true := by
  have start := List.takeWhile_append_dropWhile (p := isBlank) (l := text)
  have finish := List.takeWhile_append_dropWhile (p := isBlank)
    (l := (text.dropWhile isBlank).reverse)
  refine ⟨text.takeWhile isBlank,
    ((text.dropWhile isBlank).reverse.takeWhile isBlank).reverse, ?_, ?_, ?_⟩
  · unfold trim trimEnds
    rw [← List.reverse_append, finish, List.reverse_reverse, start]
  · exact List.all_eq_true.mp List.all_takeWhile
  · intro char member
    exact List.all_eq_true.mp List.all_takeWhile char
      (List.mem_reverse.mp member)

end Text

namespace Quantity

variable {text suffix : List Char}

/-- The suffixes that have a name, and the empty one. -/
def suffixNames : List String :=
  ["", "m", "k", "M", "G", "T", "P", "E", "Ki", "Mi", "Gi", "Ti", "Pi", "Ei"]

/-- A named suffix, or an `e` with a decimal exponent of 32 bits. -/
inductive IsSuffix : List Char → Prop where
  | named {suffix : List Char}
      (listed : String.ofList suffix ∈ suffixNames) : IsSuffix suffix
  | power {mark : Char} {digits : List Char} {exponent : Int}
      (marked : mark = 'e' ∨ mark = 'E')
      (whole : Text.IsWhole digits exponent)
      (fits : -2 ^ 31 ≤ exponent ∧ exponent < 2 ^ 31) :
      IsSuffix (mark :: digits)

/-- A sign, a number and a suffix. -/
inductive IsQuantity : List Char → Prop where
  | parts {sign number suffix : List Char} {value places : Nat}
      (atMostOne : Text.IsSign sign)
      (fixed : Text.IsFixedPoint number value places)
      (scale : IsSuffix suffix) : IsQuantity (sign ++ number ++ suffix)

/-- A quantity with any blanks around it. -/
def IsWellFormed (raw : String) : Prop :=
  ∃ before core after, raw.toList = before ++ (core ++ after) ∧
    (∀ char ∈ before, Text.isBlank char = true) ∧
    (∀ char ∈ after, Text.isBlank char = true) ∧ IsQuantity core

theorem isSome_lookup_suffixes_iff {name : String} :
    (suffixes.lookup name).isSome ↔ name ∈ suffixNames := by
  have names : suffixes.map Prod.fst = suffixNames := rfl
  rw [List.lookup_isSome_iff, ← names, List.mem_map]
  refine exists_congr fun entry => and_congr_right fun _ => ?_
  rw [beq_iff_eq, eq_comm]

theorem isSome_factor?_iff : (factor? suffix).isSome ↔ IsSuffix suffix := by
  constructor
  · intro found
    unfold factor? at found
    split at found
    · rename_i factor listed
      exact .named (isSome_lookup_suffixes_iff.mp (by simp [listed]))
    · split at found
      · rename_i mark digits
        split at found
        · rename_i marked
          rw [Option.isSome_map] at found
          obtain ⟨exponent, read⟩ := Option.isSome_iff_exists.mp found
          obtain ⟨whole, fits⟩ := Text.signed?_eq_some_iff.mp read
          exact .power (by simpa using marked) whole fits
        · cases found
      · cases found
  · intro scale
    unfold factor?
    split
    · rfl
    · rename_i unlisted
      cases scale with
      | named listed =>
          have found := isSome_lookup_suffixes_iff.mpr listed
          rw [unlisted] at found
          cases found
      | @power mark digits exponent marked whole fits =>
          have read : Text.signed? 32 digits = some exponent :=
            Text.signed?_eq_some_iff.mpr ⟨whole, fits⟩
          simp [marked, read]

/-! ## The two halves -/

theorem isNumberChar_cases {char : Char} (number : isNumberChar char = true) :
    char.isDigit = true ∨ char = '.' ∨ char = '+' ∨ char = '-' := by
  simpa [isNumberChar, or_assoc] using number

theorem isAlpha_of_isNumberChar {char : Char}
    (number : isNumberChar char = true) : char.isAlpha = false := by
  rcases isNumberChar_cases number with digit | rfl | rfl | rfl
  · exact Text.isAlpha_of_isDigit digit
  all_goals rfl

theorem isBlank_of_isNumberChar {char : Char}
    (number : isNumberChar char = true) : Text.isBlank char = false := by
  rcases isNumberChar_cases number with digit | rfl | rfl | rfl
  · exact Text.isBlank_of_isDigit digit
  all_goals rfl

theorem isNumberChar_of_isDigit {char : Char} (digit : char.isDigit = true) :
    isNumberChar char = true := by
  simp [isNumberChar, digit]

theorem isNumberChar_of_isSign (sign : Text.IsSign text) :
    ∀ char ∈ text, isNumberChar char = true := by
  rcases sign with rfl | rfl | rfl
  · exact List.forall_mem_nil _
  · exact List.forall_mem_singleton.mpr rfl
  · exact List.forall_mem_singleton.mpr rfl

theorem isNumberChar_of_isFixedPoint {value places : Nat}
    (fixed : Text.IsFixedPoint text value places) :
    ∀ char ∈ text, isNumberChar char = true := by
  intro char member
  rcases fixed.digit_or_point char member with digit | rfl
  · exact isNumberChar_of_isDigit digit
  · rfl

theorem isNumberChar_of_isWhole {value : Int}
    (whole : Text.IsWhole text value) :
    ∀ char ∈ text, isNumberChar char = true := by
  intro char member
  rcases whole.digit_or_sign char member with digit | rfl | rfl
  · exact isNumberChar_of_isDigit digit
  · rfl
  · rfl

namespace IsSuffix

theorem head? (scale : IsSuffix suffix) :
    ∀ char ∈ suffix.head?, isNumberChar char = false := by
  cases scale with
  | named listed =>
      have all : suffixNames.all (fun name =>
          name.toList.head?.all fun char => !isNumberChar char) = true := rfl
      intro char first
      simpa [Option.mem_def.mp first] using List.all_eq_true.mp all _ listed
  | power marked whole fits =>
      intro char first
      obtain rfl := Option.some.inj first
      rcases marked with rfl | rfl
      all_goals rfl

theorem visible (scale : IsSuffix suffix) :
    ∀ char ∈ suffix, Text.isBlank char = false := by
  cases scale with
  | named listed =>
      have all : suffixNames.all (fun name =>
          name.toList.all fun char => !Text.isBlank char) = true := rfl
      simpa using List.all_eq_true.mp all _ listed
  | power marked whole fits =>
      refine List.forall_mem_cons.mpr ⟨?_, ?_⟩
      · rcases marked with rfl | rfl
        all_goals rfl
      · intro char member
        exact isBlank_of_isNumberChar
          (isNumberChar_of_isWhole whole char member)

end IsSuffix

theorem IsQuantity.visible (quantity : IsQuantity text) :
    ∀ char ∈ text, Text.isBlank char = false := by
  cases quantity with
  | parts atMostOne fixed scale =>
      refine List.forall_mem_append.mpr
        ⟨List.forall_mem_append.mpr ⟨?_, ?_⟩, scale.visible⟩
      · intro char member
        exact isBlank_of_isNumberChar
          (isNumberChar_of_isSign atMostOne char member)
      · intro char member
        exact isBlank_of_isNumberChar
          (isNumberChar_of_isFixedPoint fixed char member)

/-- Of the characters of numbers alone, a sign and a number are read. -/
theorem isSome_float?_iff
    (number : ∀ char ∈ text, isNumberChar char = true) :
    (Text.float? text).isSome ↔ ∃ sign rest value places,
      text = sign ++ rest ∧ Text.IsSign sign ∧
        Text.IsFixedPoint rest value places := by
  rw [Text.float?_eq_of_no_letter fun char member =>
    isAlpha_of_isNumberChar (number char member), Option.isSome_map]
  constructor
  · intro read
    obtain ⟨⟨value, places⟩, found⟩ := Option.isSome_iff_exists.mp read
    obtain ⟨sign, atMostOne, parts⟩ := Text.exists_sign text
    exact ⟨sign, _, value, places, parts, atMostOne,
      Text.fixedPoint?_eq_some_iff.mp found⟩
  · rintro ⟨sign, rest, value, places, rfl, atMostOne, fixed⟩
    rw [fixed.splitSign_append atMostOne,
      Text.fixedPoint?_eq_some_iff.mpr fixed]
    rfl

theorem isSome_value?_iff : (value? text).isSome ↔ IsQuantity text := by
  constructor
  · intro read
    unfold value? at read
    split at read
    · rename_i number factor numberRead factorRead
      have halves := List.takeWhile_append_dropWhile
        (p := isNumberChar) (l := text)
      have kept : ∀ char ∈ text.takeWhile isNumberChar,
          isNumberChar char = true := List.all_eq_true.mp List.all_takeWhile
      obtain ⟨sign, rest, value, places, parts, atMostOne, fixed⟩ :=
        (isSome_float?_iff kept).mp (by simp [numberRead])
      rw [parts] at halves
      rw [← halves]
      exact .parts atMostOne fixed
        (isSome_factor?_iff.mp (by simp [factorRead]))
    · cases read
  · intro quantity
    cases quantity with
    | @parts sign number suffix value places atMostOne fixed scale =>
        have kept : ∀ char ∈ sign ++ number, isNumberChar char = true :=
          List.forall_mem_append.mpr ⟨isNumberChar_of_isSign atMostOne,
            isNumberChar_of_isFixedPoint fixed⟩
        have halves := Text.takeWhile_dropWhile_append kept suffix scale.head?
        obtain ⟨double, numberRead⟩ := Option.isSome_iff_exists.mp
          ((isSome_float?_iff kept).mpr
            ⟨sign, number, value, places, rfl, atMostOne, fixed⟩)
        obtain ⟨factor, factorRead⟩ := Option.isSome_iff_exists.mp
          (isSome_factor?_iff.mpr scale)
        simp only [value?, halves, numberRead, factorRead]
        rfl

theorem isQuantity_trim_iff {raw : String} :
    IsQuantity (Text.trim raw.toList) ↔ IsWellFormed raw := by
  constructor
  · intro quantity
    obtain ⟨before, after, parts, blankBefore, blankAfter⟩ :=
      Text.exists_trim_parts raw.toList
    exact ⟨before, _, after, parts, blankBefore, blankAfter, quantity⟩
  · rintro ⟨before, core, after, parts, blankBefore, blankAfter, quantity⟩
    rw [parts, Text.trim_append blankBefore quantity.visible blankAfter]
    exact quantity

/-- The quantities of the grammar are read, and every other text is refused as
it was given. -/
theorem parse_accepts_iff (raw : String) :
    ((∃ value, parse raw = .ok value) ↔ IsWellFormed raw) ∧
      (parse raw = .error (.quantity raw) ↔ ¬ IsWellFormed raw) := by
  rw [← isQuantity_trim_iff, ← isSome_value?_iff]
  unfold parse
  cases value? (Text.trim raw.toList) with
  | some value => simp
  | none => simp

end Quantity

end SwapWarden
