import SwapWarden.Proofs.Settings.Given
import SwapWarden.Proofs.Text.Decimal

/-!
# Settings that hold a text

A text that spells a truth value or a number is taken for that, and printed
anew where the setting wants a text.  So a setting holds the text of its
variable exactly when that is spelled as it would be printed.  Any other text
stays as it is, one with a character that numbers do not have among them.
-/

namespace SwapWarden

namespace Text

variable {text : List Char}

/-- The characters that numbers are made of. -/
def isNumberChar (char : Char) : Bool :=
  char.isDigit || char == '+' || char == '-' || char == '.' ||
    char == 'e' || char == 'E'

/-- Words for truth, for infinity and for no number, in any case and with a
sign. -/
def IsWord (text : List Char) : Prop :=
  String.ofList ((splitSign text).2.map Char.toLower) ∈
    ["true", "false", "inf", "infinity", "nan"]

instance (text : List Char) : Decidable (IsWord text) :=
  inferInstanceAs (Decidable (_ ∈ _))

theorem isNumberChar_of_isDigit {char : Char} (digit : char.isDigit = true) :
    isNumberChar char = true := by
  simp [isNumberChar, digit]

theorem isNumberChar_of_natural? {value : Nat}
    (read : natural? text = some value) :
    ∀ char ∈ text, isNumberChar char = true := by
  intro char member
  exact isNumberChar_of_isDigit
    ((isNumeral_of_natural? read).digit char member)

theorem isNumberChar_of_signed? {value : Int}
    (read : signed? 64 text = some value) :
    ∀ char ∈ text, isNumberChar char = true := by
  intro char member
  have whole := (signed?_eq_some_iff.mp read).1
  rcases whole.digit_or_sign char member with digit | rfl | rfl
  · exact isNumberChar_of_isDigit digit
  · rfl
  · rfl

/-- Without its sign a text lacks nothing but a sign. -/
theorem isNumberChar_of_splitSign
    (unsigned : ∀ char ∈ (splitSign text).2, isNumberChar char = true) :
    ∀ char ∈ text, isNumberChar char = true := by
  unfold splitSign at unsigned
  split at unsigned
  · exact List.forall_mem_cons.mpr ⟨rfl, unsigned⟩
  · exact List.forall_mem_cons.mpr ⟨rfl, unsigned⟩
  · exact unsigned

theorem isNumberChar_of_fixedPoint? {value : Nat × Nat}
    (read : fixedPoint? text = some value) :
    ∀ char ∈ text, isNumberChar char = true := by
  intro char member
  have fixed := fixedPoint?_eq_some_iff.mp read
  rcases fixed.digit_or_point char member with digit | rfl
  · exact isNumberChar_of_isDigit digit
  · rfl

theorem isNumberChar_of_exponent? {value : Int}
    (read : exponent? text = some value) :
    ∀ char ∈ text, isNumberChar char = true := by
  unfold exponent? at read
  obtain ⟨size, found, _⟩ := Option.map_eq_some_iff.mp read
  exact isNumberChar_of_splitSign (isNumberChar_of_natural? found)

theorem isNumberChar_of_unsignedDecimal? {negative : Bool} {value : Decimal}
    (read : unsignedDecimal? negative text = some value) :
    ∀ char ∈ text, isNumberChar char = true := by
  have parts := List.takeWhile_append_dropWhile
    (p := fun char => char != 'e' && char != 'E') (l := text)
  have mark := List.head?_dropWhile_not
    (fun char : Char => char != 'e' && char != 'E') text
  unfold unsignedDecimal? at read
  dsimp only at read
  rw [← parts]
  split at read
  · rename_i whole
    obtain ⟨number, found, _⟩ := Option.map_eq_some_iff.mp read
    rw [whole, List.append_nil]
    exact isNumberChar_of_fixedPoint? found
  · rename_i first power marked
    split at read
    · rename_i number exponent found raised
      rw [marked] at mark ⊢
      have isMark : isNumberChar first = true := by
        have either : first = 'e' ∨ first = 'E' := by
          rw [Decidable.or_iff_not_imp_left]
          simpa using mark
        rcases either with rfl | rfl
        · rfl
        · rfl
      exact List.forall_mem_append.mpr
        ⟨isNumberChar_of_fixedPoint? found,
          List.forall_mem_cons.mpr ⟨isMark, isNumberChar_of_exponent? raised⟩⟩
    · cases read

theorem isNumberChar_of_float? {value : Float}
    (read : float? text = some value) :
    IsWord text ∨ ∀ char ∈ text, isNumberChar char = true := by
  unfold float? at read
  dsimp only at read
  split at read
  · rename_i infinite
    refine .inl ?_
    unfold IsWord
    simp only [Bool.or_eq_true, beq_iff_eq] at infinite
    rcases infinite with short | long
    · simp [short]
    · simp [long]
  · split at read
    · rename_i none
      refine .inl ?_
      unfold IsWord
      simp only [beq_iff_eq] at none
      simp [none]
    · obtain ⟨decimal, found, _⟩ := Option.map_eq_some_iff.mp read
      exact .inr (isNumberChar_of_splitSign
        (isNumberChar_of_unsignedDecimal? found))

end Text

namespace SettingValue

variable {text : String}

/-- A text is spelled as it is printed, once it was taken for a truth value or
a number. -/
structure IsPrinted (text : String) : Prop where
  flag : ∀ value, flag? text = some value → toString value = text
  whole : flag? text = none → ∀ value,
    Text.signed? 64 text.toList = some value → Text.IsPlainWhole text.toList
  real : flag? text = none → Text.signed? 64 text.toList = none → ∀ value,
    Text.float? text.toList = some value → Text.floatText value = text

theorem toString_of_flag? {value : Bool}
    (word : flag? text = some value) :
    String.ofList (Text.lowerAscii text.toList) = toString value := by
  unfold flag? at word
  split at word
  · rename_i spelled
    obtain rfl := Option.some.inj word
    exact spelled
  · rename_i spelled
    obtain rfl := Option.some.inj word
    exact spelled
  · cases word

theorem isPrinted_of_flag {value : Bool} (word : flag? text = some value) :
    IsPrinted text ↔ toString value = text := by
  refine ⟨fun printed => printed.flag value word, fun same => ?_⟩
  constructor
  · intro other found
    obtain rfl := Option.some.inj (word.symm.trans found)
    exact same
  · simp [word]
  · simp [word]

theorem isPrinted_of_signed? {value : Int} (unspoken : flag? text = none)
    (number : Text.signed? 64 text.toList = some value) :
    IsPrinted text ↔ toString value = text := by
  have whole := (Text.signed?_eq_some_iff.mp number).1
  rw [← String.toList_inj, whole.toString_eq_iff]
  refine ⟨fun printed => printed.whole unspoken value number, fun plain => ?_⟩
  constructor
  · simp [unspoken]
  · exact fun _ _ _ => plain
  · simp [number]

theorem isPrinted_of_float? {value : Float} (unspoken : flag? text = none)
    (fractional : Text.signed? 64 text.toList = none)
    (double : Text.float? text.toList = some value) :
    IsPrinted text ↔ Text.floatText value = text := by
  refine ⟨fun printed => printed.real unspoken fractional value double,
    fun same => ?_⟩
  constructor
  · simp [unspoken]
  · simp [fractional]
  · intro _ _ other found
    obtain rfl := Option.some.inj (double.symm.trans found)
    exact same

/-- A text becomes what it is printed as, once it was taken for something, and
that is the text itself exactly when it is spelled so. -/
theorem text?_ofText (text : String) :
    ∃ printed, (ofText false text).text? = some printed ∧
      (printed = text ↔ IsPrinted text) := by
  unfold ofText
  cases word : flag? text with
  | some value =>
      have same : (flag value).text? = some (toString value) := by
        cases value with
        | false => rfl
        | true => rfl
      exact ⟨toString value, same, (isPrinted_of_flag word).symm⟩
  | none =>
      cases number : Text.signed? 64 text.toList with
      | some value =>
          exact ⟨toString value, rfl, (isPrinted_of_signed? word number).symm⟩
      | none =>
          cases double : Text.float? text.toList with
          | some value =>
              exact ⟨Text.floatText value, rfl,
                (isPrinted_of_float? word number double).symm⟩
          | none =>
              refine ⟨text, rfl, iff_of_true rfl ?_⟩
              constructor
              · simp [word]
              · simp [number]
              · simp [double]

theorem isWord_of_flag? {value : Bool} (word : flag? text = some value) :
    Text.IsWord text.toList := by
  have spelled := toString_of_flag? word
  have lowered : text.toList.map Char.toLower = (toString value).toList := by
    rw [← spelled, String.toList_ofList]
    rfl
  have unsigned : (Text.splitSign text.toList).2 = text.toList := by
    unfold Text.splitSign
    split
    · rename_i signed
      rw [signed] at lowered
      cases value with
      | false => cases lowered
      | true => cases lowered
    · rename_i signed
      rw [signed] at lowered
      cases value with
      | false => cases lowered
      | true => cases lowered
    · rfl
  unfold Text.IsWord
  rw [unsigned, lowered, String.ofList_toList]
  cases value with
  | false => decide
  | true => decide

/-- A text that is no word and has a character foreign to numbers is taken for
nothing else. -/
theorem isPrinted_of_foreign (unspoken : ¬ Text.IsWord text.toList)
    {char : Char} (member : char ∈ text.toList)
    (foreign : Text.isNumberChar char = false) : IsPrinted text := by
  constructor
  · intro value word
    exact absurd (isWord_of_flag? word) unspoken
  · intro _ value number
    have inside := Text.isNumberChar_of_signed? number char member
    cases foreign.symm.trans inside
  · intro _ _ value double
    rcases Text.isNumberChar_of_float? double with word | inside
    · exact absurd word unspoken
    · cases foreign.symm.trans (inside char member)

end SettingValue

namespace AgentSettings

variable {environment : Environment} {settings : AgentSettings}

/-- A setting that holds a text holds the text of its variable exactly when
that is spelled as it is printed; any text that neither is a word nor consists
of the characters of numbers is. -/
theorem loaded_text_printed (loaded : load environment = .ok settings)
    {entry : String × (AgentSettings → String)} (member : entry ∈ textSettings)
    {text : String} (given : environment.Gives entry.1 text) :
    (SettingValue.ofText false text).text? = some (entry.2 settings) ∧
      (entry.2 settings = text ↔ SettingValue.IsPrinted text) ∧
      (¬ Text.IsWord text.toList →
        (∃ char ∈ text.toList, Text.isNumberChar char = false) →
          entry.2 settings = text) := by
  have held := text?_of_load loaded member given
  obtain ⟨printed, same, verbatim⟩ := SettingValue.text?_ofText text
  obtain rfl := Option.some.inj (same.symm.trans held)
  refine ⟨held, verbatim, ?_⟩
  rintro unspoken ⟨char, inside, foreign⟩
  exact verbatim.mpr
    (SettingValue.isPrinted_of_foreign unspoken inside foreign)

/-- A name given twice, in two cases, and a port that is set as well. -/
theorem loaded_text_printed_twice :
    let environment : Environment :=
      [("SWAPGUARD_NODE_NAME", "007"), ("SWAPGUARD_API_PORT", "9000"),
        ("swapguard_Node_Name", "worker-1e3"), ("PATH", "/bin")]
    ∃ settings, load environment = .ok settings ∧
      ("node_name", nodeName) ∈ textSettings ∧
      environment.Gives "node_name" "worker-1e3" ∧
      settings.nodeName = "worker-1e3" := by
  intro environment
  obtain ⟨settings, loaded⟩ : ∃ settings, load environment = .ok settings :=
    exists_load (by decide +kernel)
  have member : ("node_name", nodeName) ∈ textSettings := List.mem_cons_self
  have given : environment.Gives "node_name" "worker-1e3" :=
    ⟨[_, _], _, _, rfl, by decide, by decide⟩
  obtain ⟨_, _, verbatim⟩ := loaded_text_printed loaded member given
  exact ⟨settings, loaded, member, given,
    verbatim (by decide) ⟨'w', by decide, by decide⟩⟩

/-- Texts that are taken for a whole number, a truth value and a double, and
printed anew. -/
theorem loaded_text_respelled :
    let environment : Environment :=
      [("SWAPGUARD_NODE_NAME", "007"), ("SWAPGUARD_NAMESPACE", "True"),
        ("SWAPGUARD_EVICTION_TAINT_KEY", "1e3")]
    environment.Gives "node_name" "007" ∧
      environment.Gives "namespace" "True" ∧
      environment.Gives "eviction_taint_key" "1e3" ∧
      ∃ settings, load environment = .ok settings ∧
        settings.nodeName = "7" ∧ settings.ownNamespace = "true" ∧
        settings.taintKey = "1000" := by
  intro environment
  have node : environment.Gives "node_name" "007" :=
    ⟨[], _, _, rfl, by decide, by decide⟩
  have own : environment.Gives "namespace" "True" :=
    ⟨[_], _, _, rfl, by decide, by decide⟩
  have key : environment.Gives "eviction_taint_key" "1e3" :=
    ⟨[_, _], _, _, rfl, by decide, by decide⟩
  obtain ⟨settings, loaded⟩ : ∃ settings, load environment = .ok settings :=
    exists_load (by decide +kernel)
  have held : (load environment).toOption.map (fun settings =>
      (settings.nodeName, settings.ownNamespace, settings.taintKey)) =
        some ("7", "true", "1000") := by decide +kernel
  rw [loaded] at held
  obtain ⟨nodeSame, held⟩ := Prod.mk.inj (Option.some.inj held)
  obtain ⟨ownSame, keySame⟩ := Prod.mk.inj held
  exact ⟨node, own, key, settings, loaded, nodeSame, ownSame, keySame⟩

end AgentSettings

end SwapWarden
