/-!
# Blanks, lines and words

Texts are read as lists of characters.  A *blank* is a character with the
Unicode property White_Space; trimming and splitting into words go by that
property and not by the ASCII blanks alone.  A line ends at a line feed, and
one carriage return right before that line feed belongs to the ending.
-/

namespace SwapWarden.Text

/-- The characters with the Unicode property White_Space. -/
def isBlank (char : Char) : Bool :=
  let code := char.toNat
  (0x09 ≤ code && code ≤ 0x0d) || code == 0x20 || code == 0x85 ||
    code == 0xa0 || code == 0x1680 || (0x2000 ≤ code && code ≤ 0x200a) ||
    code == 0x2028 || code == 0x2029 || code == 0x202f || code == 0x205f ||
    code == 0x3000

/-- The text without the characters of a class at its start. -/
def trimStart (drop : Char → Bool) (text : List Char) : List Char :=
  text.dropWhile drop

/-- The text without the characters of a class at either end. -/
def trimEnds (drop : Char → Bool) (text : List Char) : List Char :=
  ((text.dropWhile drop).reverse.dropWhile drop).reverse

/-- The text without blanks at either end. -/
def trim (text : List Char) : List Char :=
  trimEnds isBlank text

/-- Cuts a text at every character of a class; the cuts themselves are lost. -/
def splitAt (cut : Char → Bool) : List Char → List (List Char)
  | [] => [[]]
  | char :: rest =>
      if cut char then
        [] :: splitAt cut rest
      else
        match splitAt cut rest with
        | [] => [[char]]
        | piece :: pieces => (char :: piece) :: pieces

/-- The maximal runs of characters that are not blank. -/
def words (text : List Char) : List (List Char) :=
  (splitAt isBlank text).filter (fun piece => !piece.isEmpty)

/-- A line without the carriage return that its line feed may follow. -/
def dropReturn (line : List Char) : List Char :=
  match line.reverse with
  | '\r' :: rest => rest.reverse
  | _ => line

/-- The lines of a text from its pieces between line feeds: every piece but the
last was ended by a line feed, and an empty last piece is no line. -/
def linesOfPieces : List (List Char) → List (List Char)
  | [] => []
  | [last] => if last.isEmpty then [] else [last]
  | line :: rest => dropReturn line :: linesOfPieces rest

/-- The lines of a text. -/
def lines (text : List Char) : List (List Char) :=
  linesOfPieces (splitAt (· == '\n') text)

/-- The rest of a text that starts with `head`. -/
def afterPrefix? : (head text : List Char) → Option (List Char)
  | [], text => some text
  | _ :: _, [] => none
  | expected :: head, char :: text =>
      if expected == char then afterPrefix? head text else none

/-- Both sides of the first occurrence of a separator. -/
def splitOnce? (separator : List Char) :
    List Char → Option (List Char × List Char)
  | [] => (afterPrefix? separator []).map (fun rest => ([], rest))
  | char :: text =>
      match afterPrefix? separator (char :: text) with
      | some rest => some ([], rest)
      | none =>
          (splitOnce? separator text).map
            (fun sides => (char :: sides.1, sides.2))

/-- Letters `A` to `Z` in lower case; every other character as it is. -/
def lowerAscii (text : List Char) : List Char :=
  text.map Char.toLower

/-- `afterPrefix?` succeeds exactly on the texts that start with the prefix. -/
theorem afterPrefix?_eq_some_iff {head text rest : List Char} :
    afterPrefix? head text = some rest ↔ text = head ++ rest := by
  induction head generalizing text with
  | nil => simp [afterPrefix?]
  | cons expected head induction =>
      cases text with
      | nil => simp [afterPrefix?]
      | cons char text =>
          by_cases same : expected = char
          · subst same
            simp [afterPrefix?, induction]
          · simp [afterPrefix?, same, Ne.symm same]

theorem splitOnce?_eq_some_iff {separator text before after : List Char} :
    splitOnce? separator text = some (before, after) ↔
      text = before ++ separator ++ after ∧
        ∀ front back, text = front ++ separator ++ back →
          before.length ≤ front.length := by
  induction text generalizing before with
  | nil =>
      simp only [splitOnce?, Option.map_eq_some_iff, afterPrefix?_eq_some_iff,
        Prod.mk.injEq]
      constructor
      · rintro ⟨rest, whole, rfl, rfl⟩
        exact ⟨whole, fun _ _ _ => Nat.zero_le _⟩
      · rintro ⟨whole, _⟩
        obtain ⟨none, rfl⟩ := List.append_eq_nil_iff.mp whole.symm
        obtain ⟨rfl, rfl⟩ := List.append_eq_nil_iff.mp none
        exact ⟨[], rfl, rfl, rfl⟩
  | cons char text induction =>
      unfold splitOnce?
      cases here : afterPrefix? separator (char :: text) with
      | some rest =>
          have whole := afterPrefix?_eq_some_iff.mp here
          constructor
          · intro found
            cases found
            exact ⟨whole, fun _ _ _ => Nat.zero_le _⟩
          · rintro ⟨parts, first⟩
            obtain rfl : before = [] :=
              List.eq_nil_of_length_eq_zero
                (Nat.le_zero.mp (first [] rest whole))
            obtain rfl : rest = after := by
              apply List.append_cancel_left
              exact whole.symm.trans parts
            rfl
      | none =>
          have absent (rest : List Char) : char :: text ≠ separator ++ rest := by
            intro whole
            rw [afterPrefix?_eq_some_iff.mpr whole] at here
            cases here
          dsimp only
          rw [Option.map_eq_some_iff]
          constructor
          · rintro ⟨⟨front, rest⟩, found, same⟩
            cases same
            obtain ⟨rfl, first⟩ := induction.mp found
            refine ⟨rfl, ?_⟩
            intro other back parts
            cases other with
            | nil => exact absurd parts (absent back)
            | cons head other =>
                exact Nat.succ_le_succ
                  (first other back (List.cons.inj parts).2)
          · rintro ⟨parts, first⟩
            cases before with
            | nil => exact absurd parts (absent after)
            | cons head before =>
                obtain ⟨rfl, whole⟩ := List.cons.inj parts
                refine ⟨(before, after), induction.mpr ⟨whole, ?_⟩, rfl⟩
                intro other back again
                exact Nat.le_of_succ_le_succ
                  (first (char :: other) back (congrArg _ again))

end SwapWarden.Text
