import Mathlib.Algebra.Group.Nat.Defs
import SwapWarden.Proofs.Text.Calendar

/-!
# Points in time read back

A point in time that was read once is read again from its written form.  It
lies in a year that can be named, and a leap second ends a minute, since
clocks differ from universal time by whole minutes.
-/

namespace SwapWarden.Text

/-! ## Numerals -/

/-- A numeral and the number it stands for. -/
structure IsNumeral (digits : List Char) (value : Nat) : Prop where
  nonempty : digits ≠ []
  digit : ∀ char ∈ digits, char.isDigit = true
  value : Nat.ofDigitChars 10 digits 0 = value

theorem digitsFrom?_eq {digits : List Char}
    (digit : ∀ char ∈ digits, char.isDigit = true) (seen : Nat) :
    digitsFrom? seen digits = some (Nat.ofDigitChars 10 digits seen) := by
  induction digits generalizing seen with
  | nil => rfl
  | cons char digits induction =>
      have first : digit? char = some (char.toNat - '0'.toNat) :=
        if_pos (digit char List.mem_cons_self)
      rw [digitsFrom?, first, Nat.ofDigitChars_cons]
      exact induction (fun other member =>
        digit other (List.mem_cons_of_mem _ member)) _

theorem toNat_of_isDigit {char : Char} (digit : char.isDigit = true) :
    48 ≤ char.toNat ∧ char.toNat ≤ 57 := by
  simpa [Char.isDigit, UInt32.le_iff_toNat_le] using digit

theorem isBlank_of_isDigit {char : Char} (digit : char.isDigit = true) :
    isBlank char = false := by
  have bounds := toNat_of_isDigit digit
  simp only [isBlank, Bool.or_eq_false_iff, Bool.and_eq_false_iff,
    decide_eq_false_iff_not, beq_eq_false_iff_ne]
  omega

theorem trimStart_cons {char : Char} (visible : isBlank char = false)
    (rest : List Char) : trimStart isBlank (char :: rest) = char :: rest :=
  List.dropWhile_cons_of_neg (by simp [visible])

namespace IsNumeral

variable {digits : List Char} {value : Nat}

theorem natural?_eq (numeral : IsNumeral digits value) :
    natural? digits = some value := by
  have filled : digits.isEmpty = false := by
    simpa using numeral.nonempty
  rw [natural?, filled, ← numeral.value]
  exact digitsFrom?_eq numeral.digit 0

theorem of_nat (value : Nat) : IsNumeral (toString value).toList value := by
  rw [Nat.toString_eq_ofList_toDigits, String.toList_ofList]
  constructor
  · exact Nat.toDigits_ne_nil
  · intro char member
    exact Nat.isDigit_of_mem_toDigits (by decide) (by decide) member
  · exact Nat.ofDigitChars_ten_toDigits

theorem padded (numeral : IsNumeral digits value) (zeros : Nat) :
    IsNumeral (List.replicate zeros '0' ++ digits) value := by
  constructor
  · intro empty
    exact numeral.nonempty (List.append_eq_nil_iff.mp empty).2
  · intro char member
    rcases List.mem_append.mp member with zero | other
    · rw [List.eq_of_mem_replicate zero]
      rfl
    · exact numeral.digit char other
  · rw [Nat.ofDigitChars_append, Nat.ofDigitChars_replicate_zero]
    exact numeral.value

theorem trimStart_append (numeral : IsNumeral digits value)
    (rest : List Char) :
    trimStart isBlank (digits ++ rest) = digits ++ rest := by
  cases digits with
  | nil => exact absurd rfl numeral.nonempty
  | cons char digits =>
      have visible := isBlank_of_isDigit (numeral.digit char List.mem_cons_self)
      exact trimStart_cons visible _

end IsNumeral

namespace Timestamp

section

variable {digits : List Char} {value most : Nat} {mark : Char}
  {rest : List Char}

theorem numeral?_append (numeral : IsNumeral digits value)
    (fits : digits.length ≤ most) (ends : mark.isDigit = false) :
    numeral? most (digits ++ mark :: rest) = some (value, mark :: rest) := by
  have nothing : ((mark :: rest).take (most - digits.length)).takeWhile
      Char.isDigit = [] := by
    cases most - digits.length with
    | zero => rfl
    | succ more => simp [ends]
  have run : ((digits ++ mark :: rest).take most).takeWhile Char.isDigit =
      digits := by
    rw [List.take_append, List.take_of_length_le fits,
      List.takeWhile_append_of_pos numeral.digit, nothing, List.append_nil]
  simp only [numeral?, run, numeral.natural?_eq, Option.map_some,
    List.drop_left]

theorem field?_append (numeral : IsNumeral digits value)
    (fits : digits.length ≤ 2) (ends : mark.isDigit = false) :
    field? (digits ++ mark :: rest) = some (value, mark :: rest) := by
  rw [field?, numeral.trimStart_append]
  exact numeral?_append numeral fits ends

theorem after?_cons (visible : isBlank mark = false) :
    after? mark (mark :: rest) = some rest := by
  rw [after?, trimStart_cons visible]
  exact afterPrefix?_eq_some_iff.mpr rfl

theorem year?_minus (numeral : IsNumeral digits value)
    (ends : mark.isDigit = false) :
    year? ('-' :: (digits ++ mark :: rest)) =
      some (-Int.ofNat value, mark :: rest) := by
  have fits : digits.length ≤ (digits ++ mark :: rest).length := by simp
  rw [year?, trimStart_cons rfl]
  change (numeral? _ (digits ++ mark :: rest)).map _ = _
  rw [numeral?_append numeral fits ends]
  rfl

theorem year?_plus (numeral : IsNumeral digits value)
    (ends : mark.isDigit = false) :
    year? ('+' :: (digits ++ mark :: rest)) =
      some (Int.ofNat value, mark :: rest) := by
  have fits : digits.length ≤ (digits ++ mark :: rest).length := by simp
  rw [year?, trimStart_cons rfl]
  change (numeral? _ (digits ++ mark :: rest)).map _ = _
  rw [numeral?_append numeral fits ends]
  rfl

theorem year?_plain (numeral : IsNumeral digits value)
    (fits : digits.length ≤ 4) (ends : mark.isDigit = false) :
    year? (digits ++ mark :: rest) = some (Int.ofNat value, mark :: rest) := by
  have unsigned {sign : Char} {other : List Char}
      (same : digits ++ mark :: rest = sign :: other) :
      sign.isDigit = true := by
    cases digits with
    | nil => exact absurd rfl numeral.nonempty
    | cons char digits =>
        rw [← (List.cons.inj same).1]
        exact numeral.digit char List.mem_cons_self
  rw [year?, numeral.trimStart_append]
  split
  case h_1 same => cases unsigned same
  case h_2 same => cases unsigned same
  case h_3 =>
      rw [numeral?_append numeral fits ends]
      rfl

end

/-! ## The parts of a point in time -/

theorem twoDigits_isNumeral (value : Nat) :
    IsNumeral (twoDigits value).toList value := by
  have plain : toString (value : Int) = toString value := rfl
  unfold twoDigits
  rw [plain]
  split
  · rw [String.toList_append]
    exact (IsNumeral.of_nat value).padded 1
  · exact IsNumeral.of_nat value

theorem length_toString_le {value width : Nat} (positive : 0 < width)
    (small : value < 10 ^ width) : (toString value).toList.length ≤ width := by
  rw [Nat.toString_eq_ofList_toDigits, String.toList_ofList]
  exact (Nat.length_toDigits_le_iff (by decide) positive).mpr small

theorem length_twoDigits_le {value : Nat} (small : value < 100) :
    (twoDigits value).toList.length ≤ 2 := by
  have plain : toString (value : Int) = toString value := rfl
  unfold twoDigits
  rw [plain]
  split
  · have one : (toString value).toList.length ≤ 1 :=
      length_toString_le (by decide) (by omega)
    rw [String.toList_append, List.length_append]
    exact Nat.add_le_add_left one 1
  · exact length_toString_le (by decide) (by omega)

theorem field?_twoDigits {value : Nat} (small : value < 100) {mark : Char}
    (ends : mark.isDigit = false) (rest : List Char) :
    field? ((twoDigits value).toList ++ mark :: rest) =
      some (value, mark :: rest) :=
  field?_append (twoDigits_isNumeral value) (length_twoDigits_le small) ends

theorem fourDigits_isNumeral (value : Nat) :
    IsNumeral (fourDigits value).toList value := by
  unfold fourDigits
  rw [String.toList_append, String.toList_ofList]
  exact (IsNumeral.of_nat value).padded _

theorem length_fourDigits_le {value : Nat} (small : value < 10000) :
    (fourDigits value).toList.length ≤ 4 := by
  have few : (toString value).toList.length ≤ 4 :=
    length_toString_le (by decide) small
  have length : (toString value).length = (toString value).toList.length :=
    String.length_toList.symm
  unfold fourDigits
  rw [String.toList_append, String.toList_ofList, List.length_append,
    List.length_replicate]
  omega

theorem year?_yearText (year : Int) {mark : Char} (ends : mark.isDigit = false)
    (rest : List Char) :
    year? ((yearText year).toList ++ mark :: rest) =
      some (year, mark :: rest) := by
  have numeral := fourDigits_isNumeral year.natAbs
  unfold yearText
  split
  case isTrue plain =>
      have small : year.natAbs < 10000 := by omega
      have same : Int.ofNat year.natAbs = year := Int.natAbs_of_nonneg plain.1
      rw [year?_plain numeral (length_fourDigits_le small) ends, same]
  case isFalse signed =>
      split
      case isTrue negative =>
          have same : -Int.ofNat year.natAbs = year := by
            change -(year.natAbs : Int) = year
            omega
          rw [String.toList_append]
          change year? ('-' :: ((fourDigits year.natAbs).toList ++ _)) = _
          rw [year?_minus numeral ends, same]
      case isFalse positive =>
          have same : Int.ofNat year.natAbs = year := by
            change (year.natAbs : Int) = year
            omega
          rw [String.toList_append]
          change year? ('+' :: ((fourDigits year.natAbs).toList ++ _)) = _
          rw [year?_plus numeral ends, same]

theorem daysInMonth_le (year : Int) (month : Nat) :
    daysInMonth year month ≤ 31 := by
  unfold daysInMonth
  split
  case h_1 =>
      split
      · decide
      · decide
  all_goals decide

theorem CivilDate.date?_append {days year : Int} {month day : Nat}
    (civil : CivilDate days year month day)
    (first : firstYear ≤ year) (last : year ≤ lastYear) {mark : Char}
    (ends : mark.isDigit = false) (rest : List Char) :
    date? ((yearText year).toList ++ '-' :: ((twoDigits month).toList ++
        '-' :: ((twoDigits day).toList ++ mark :: rest))) =
      some (days, mark :: rest) := by
  have month_lt : month < 100 := Nat.lt_of_le_of_lt civil.month_le (by decide)
  have day_lt : day < 100 := by
    have longest := daysInMonth_le year month
    have le := civil.day_le
    omega
  have valid : firstYear ≤ year ∧ year ≤ lastYear ∧ 1 ≤ month ∧ month ≤ 12 ∧
      1 ≤ day ∧ day ≤ daysInMonth year month :=
    ⟨first, last, civil.month_pos, civil.month_le, civil.day_pos, civil.day_le⟩
  have dash : '-'.isDigit = false := rfl
  simp only [date?, year?_yearText year dash,
    after?_cons (show isBlank '-' = false from rfl),
    field?_twoDigits month_lt dash,
    field?_twoDigits day_lt ends, Option.bind_eq_bind, Option.bind_some,
    if_pos valid, civil.days]

theorem timeOfDay?_append {hour minute second : Nat} (hour_lt : hour < 24)
    (minute_lt : minute < 60) (second_le : second ≤ 60) (rest : List Char) :
    timeOfDay? ((twoDigits hour).toList ++ ':' :: ((twoDigits minute).toList ++
        ':' :: ((twoDigits second).toList ++ 'Z' :: rest))) =
      some (Int.ofNat ((hour * 60 + minute) * 60 + min second 59), second == 60,
        'Z' :: rest) := by
  have colon : ':'.isDigit = false := rfl
  have final : 'Z'.isDigit = false := rfl
  have whole : afterFraction? ('Z' :: rest) = some ('Z' :: rest) := rfl
  have valid : hour < 24 ∧ minute < 60 ∧ second ≤ 60 :=
    ⟨hour_lt, minute_lt, second_le⟩
  simp only [timeOfDay?, after?_cons (show isBlank ':' = false from rfl),
    field?_twoDigits (show hour < 100 by omega) colon,
    field?_twoDigits (show minute < 100 by omega) colon,
    field?_twoDigits (show second < 100 by omega) final,
    Option.bind_eq_bind, Option.bind_some, whole, if_pos valid]

/-! ## Points in time that were read -/

/-- A point in time that can be written. -/
structure Readable (time : Timestamp) : Prop where
  inRange : inRange time.seconds = true
  leap : time.inLeapSecond = true → time.seconds % 60 = 59

theorem timeOfDay?_leap {text rest : List Char} {second : Int} {leap : Bool}
    (read : timeOfDay? text = some (second, leap, rest))
    (isLeap : leap = true) : second % 60 = 59 := by
  simp only [timeOfDay?, Option.bind_eq_bind, Option.bind_eq_some_iff] at read
  obtain ⟨⟨hour, _⟩, _, _, _, ⟨minute, _⟩, _, _, _, ⟨shown, _⟩, _, _, _,
    told⟩ := read
  dsimp only at told
  split at told
  · have same := Option.some.inj told
    have length := congrArg Prod.fst same
    have sixty := congrArg (fun parts => parts.2.1) same
    dsimp only at length sixty
    rw [isLeap, beq_iff_eq] at sixty
    rw [← length, sixty]
    change (((hour * 60 + minute) * 60 + 59 : Nat) : Int) % 60 = 59
    omega
  · cases told

theorem offsetLength?_minutes {text rest : List Char} {offset : Int}
    (read : offsetLength? text = some (offset, rest)) : offset % 60 = 0 := by
  simp only [offsetLength?, Option.bind_eq_bind, Option.bind_eq_some_iff]
    at read
  obtain ⟨⟨hours, _⟩, _, ⟨minutes, _⟩, _, told⟩ := read
  dsimp only at told
  split at told
  · have length := congrArg Prod.fst (Option.some.inj told)
    dsimp only at length
    rw [← length]
    change (((hours * 60 + minutes) * 60 : Nat) : Int) % 60 = 0
    omega
  · cases told

theorem offset?_minutes {text rest : List Char} {offset : Int}
    (read : offset? text = some (offset, rest)) : offset % 60 = 0 := by
  unfold offset? at read
  dsimp only at read
  split at read
  case h_1 =>
      cases read
      rfl
  case h_2 =>
      split at read
      case h_1 =>
          cases read
          rfl
      case h_2 =>
          cases read
          rfl
      case h_3 => exact offsetLength?_minutes read
      case h_4 =>
          obtain ⟨⟨length, _⟩, ahead, told⟩ := Option.map_eq_some_iff.mp read
          cases told
          have whole := offsetLength?_minutes ahead
          dsimp only
          omega
      case h_5 =>
          obtain ⟨⟨length, _⟩, ahead, told⟩ := Option.map_eq_some_iff.mp read
          cases told
          have whole := offsetLength?_minutes ahead
          dsimp only
          omega
      case h_6 => cases read

/-- What follows the date of a point in time. -/
def clock? (days : Int) (text : List Char) : Option Timestamp := do
  let (time, inLeapSecond, rest) ← timeOfDay? text
  let (offset, rest) ← offset? rest
  let seconds := days * 86400 + time - offset
  if rest.all isBlank ∧ offset.natAbs < 86400 ∧ inRange seconds then
    some { seconds, inLeapSecond }
  else
    none

theorem parse?_eq (written : String) :
    parse? written = (date? written.toList).bind (fun read =>
      match read.2 with
      | 'T' :: rest | 't' :: rest | ' ' :: rest => clock? read.1 rest
      | _ => none) := by
  unfold parse?
  cases date? written.toList with
  | none => rfl
  | some read =>
      change (match read.2 with | _ => _) = _
      split
      all_goals rfl

theorem readable_of_clock? {days : Int} {text : List Char} {time : Timestamp}
    (read : clock? days text = some time) : time.Readable := by
  simp only [clock?, Option.bind_eq_bind, Option.bind_eq_some_iff] at read
  obtain ⟨⟨second, leap, _⟩, clock, ⟨offset, _⟩, zone, told⟩ := read
  dsimp only at told
  split at told
  case isTrue valid =>
      cases told
      constructor
      · exact valid.2.2
      · intro isLeap
        have minutes := offset?_minutes zone
        have final := timeOfDay?_leap clock isLeap
        dsimp only
        omega
  case isFalse => cases told

theorem readable_of_parse? {written : String} {time : Timestamp}
    (read : parse? written = some time) : time.Readable := by
  rw [parse?_eq, Option.bind_eq_some_iff] at read
  obtain ⟨date, _, told⟩ := read
  split at told
  case h_4 => cases told
  all_goals exact readable_of_clock? told

/-- A point in time by the parts that are written. -/
structure WrittenParts (time : Timestamp) (days year : Int)
    (month day hour minute second : Nat) : Prop where
  civil : CivilDate days year month day
  hour_lt : hour < 24
  minute_lt : minute < 60
  second_le : second ≤ 60
  leap : time.inLeapSecond = (second == 60)
  seconds : time.seconds =
    days * 86400 + (((hour * 60 + minute) * 60 + min second 59 : Nat) : Int)
  text : time.text.toList =
    (yearText year).toList ++ '-' :: ((twoDigits month).toList ++
      '-' :: ((twoDigits day).toList ++ 'T' :: ((twoDigits hour).toList ++
        ':' :: ((twoDigits minute).toList ++
          ':' :: ((twoDigits second).toList ++ ['Z'])))))

theorem Readable.writtenParts {time : Timestamp} (readable : time.Readable) :
    ∃ days year month day hour minute second,
      WrittenParts time days year month day hour minute second := by
  obtain ⟨days, days_eq⟩ : ∃ days : Int, days = time.seconds.fdiv 86400 :=
    ⟨_, rfl⟩
  have whole : days = time.seconds / 86400 := by
    rw [days_eq]
    exact Int.fdiv_eq_ediv_of_nonneg _ (by decide)
  obtain ⟨year, month, day, civil⟩ := exists_civilDate days
  obtain ⟨inDay, inDay_eq⟩ : ∃ inDay : Nat,
      (inDay : Int) = time.seconds - days * 86400 :=
    ⟨(time.seconds - days * 86400).toNat, Int.toNat_of_nonneg (by omega)⟩
  have leap := readable.leap
  refine ⟨days, year, month, day, inDay / 3600, inDay / 60 % 60,
    inDay % 60 + (if time.inLeapSecond then 1 else 0), ?_⟩
  constructor
  · exact civil
  · omega
  · omega
  · split
    · omega
    · omega
  · cases held : time.inLeapSecond with
    | true =>
        have final := leap held
        have last : inDay % 60 = 59 := by omega
        simp [last]
    | false =>
        have inside : inDay % 60 ≠ 60 := by omega
        simp [inside]
  · cases held : time.inLeapSecond with
    | true =>
        have final := leap held
        simp only [if_true]
        omega
    | false =>
        simp only [Bool.false_eq_true, if_false]
        omega
  · unfold text
    simp only [← days_eq, civil.date, ← inDay_eq]
    have hour : (inDay : Int) / 3600 = ((inDay / 3600 : Nat) : Int) := rfl
    have minute : (inDay : Int) / 60 % 60 =
        ((inDay / 60 % 60 : Nat) : Int) := rfl
    have second : (inDay : Int) % 60 + (if time.inLeapSecond then 1 else 0) =
        ((inDay % 60 + (if time.inLeapSecond then 1 else 0) : Nat) : Int) := by
      split
      · rfl
      · rfl
    rw [hour, minute, second]
    simp only [String.toList_append, List.append_assoc]
    rfl

theorem Readable.parse?_text {time : Timestamp} (readable : time.Readable) :
    parse? time.text = some time := by
  obtain ⟨days, year, month, day, hour, minute, second, parts⟩ :=
    readable.writtenParts
  have bounds := readable.inRange
  simp only [Timestamp.inRange, Bool.and_eq_true, decide_eq_true_eq] at bounds
  have seconds := parts.seconds
  have clock_lt : (hour * 60 + minute) * 60 + min second 59 < 86400 := by
    have hour_lt := parts.hour_lt
    have minute_lt := parts.minute_lt
    omega
  obtain ⟨first, last⟩ := parts.civil.year_bounds (by omega) (by omega)
  rw [parse?_eq, parts.text, parts.civil.date?_append first last rfl]
  change clock? days _ = _
  have zone : offset? ['Z'] = some (0, []) := rfl
  have whole : days * 86400 +
      Int.ofNat ((hour * 60 + minute) * 60 + min second 59) - 0 =
        time.seconds := by
    rw [Int.sub_zero]
    exact seconds.symm
  simp only [clock?, timeOfDay?_append parts.hour_lt parts.minute_lt
    parts.second_le, Option.bind_eq_bind, Option.bind_some, zone, whole]
  rw [if_pos ⟨rfl, by decide, readable.inRange⟩, ← parts.leap]

end Timestamp

end SwapWarden.Text
