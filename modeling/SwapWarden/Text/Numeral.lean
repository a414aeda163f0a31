/-!
# Whole numbers in text

A numeral is a non-empty run of ASCII digits.  An unsigned number may carry a
plus sign, a signed one either sign; neither may be empty after its sign, and
a number that does not fit its width is no number.
-/

namespace SwapWarden.Text

/-- The value of an ASCII digit. -/
def digit? (char : Char) : Option Nat :=
  if char.isDigit then some (char.toNat - '0'.toNat) else none

/-- The value of a run of digits read after `seen`. -/
def digitsFrom? (seen : Nat) : List Char → Option Nat
  | [] => some seen
  | char :: rest =>
      match digit? char with
      | some value => digitsFrom? (10 * seen + value) rest
      | none => none

/-- The value of a non-empty run of digits. -/
def natural? (text : List Char) : Option Nat :=
  if text.isEmpty then none else digitsFrom? 0 text

/-- A text without its leading sign, and whether that was a minus. -/
def splitSign : List Char → Bool × List Char
  | '-' :: rest => (true, rest)
  | '+' :: rest => (false, rest)
  | text => (false, text)

/-- A number below `2 ^ width`, with an optional plus sign. -/
def unsigned? (width : Nat) (text : List Char) : Option Nat :=
  let numeral := match text with
    | '+' :: rest => natural? rest
    | _ => natural? text
  numeral.filter (· < Nat.pow 2 width)

/-- A number of two's-complement width `width`, with an optional sign. -/
def signed? (width : Nat) (text : List Char) : Option Int :=
  let number : Option Int := match text with
    | '+' :: rest => (natural? rest).map Int.ofNat
    | '-' :: rest => (natural? rest).map (fun value => -Int.ofNat value)
    | _ => (natural? text).map Int.ofNat
  let bound := Int.ofNat (Nat.pow 2 (width - 1))
  number.filter (fun value => -bound ≤ value && value < bound)

/-- A 64-bit count. -/
def word64? (text : List Char) : Option UInt64 :=
  (unsigned? 64 text).map UInt64.ofNat

end SwapWarden.Text
