import SwapWarden.Text.Numeral

/-!
# Numbers in documents

A number with a fraction or an exponent is held in short: as the leading digits
that fit a word of 64 bits, and a power of ten.  Its double is the word's double
times or divided by the power's double, so that a number with many digits may
end beside the double nearest to it, or beyond all doubles.
-/

namespace SwapWarden.Text.Json

/-- The value `significand * 10 ^ exponent`, negated when `negative`. -/
structure Number where
  negative : Bool
  significand : UInt64
  exponent : Int
  deriving DecidableEq, Repr

namespace Number

/-- Appends digits to a number as long as it fits a word of 64 bits: the number
and the digits left over. -/
def appendFitting (number : Nat) : List Char → Nat × List Char
  | [] => (number, [])
  | digit :: rest =>
      let longer := 10 * number + (digit.toNat - '0'.toNat)
      if longer < UInt64.size then appendFitting longer rest
      else (number, digit :: rest)

/-- The number of the given digits before and after the point.  A digit before
the point that is left out counts in the exponent, one after it does not. -/
def ofDigits (negative : Bool) (whole fraction : List Char)
    (exponent : Int) : Number :=
  let (leading, leftOver) := appendFitting 0 whole
  let (significand, unread) := appendFitting leading fraction
  let places : Int := fraction.length - unread.length
  ⟨negative, UInt64.ofNat significand, exponent + leftOver.length - places⟩

/-- An integer in short. -/
def ofInteger (value : Int) : Number :=
  ofDigits (decide (value < 0)) (Nat.toDigits 10 value.natAbs) [] 0

/-- The exponent of the greatest power of ten that is a double. -/
def greatestPower : Nat := 308

/-- A power of ten as a double. -/
def powerOfTen (exponent : Nat) : Float := Float.ofScientific 1 false exponent

/-- A double times a power of ten.  It is divided in several steps where the
power is too small for a double, and lost where the product is too great. -/
def scaled? (value : Float) (exponent : Int) : Option Float :=
  if exponent.natAbs ≤ greatestPower then
    if exponent < 0 then
      some (value / powerOfTen exponent.natAbs)
    else
      let product := value * powerOfTen exponent.natAbs
      if product.isFinite then some product else none
  else if value == 0 then
    some value
  else if 0 < exponent then
    none
  else
    scaled? (value / powerOfTen greatestPower) (exponent + greatestPower)
termination_by exponent.natAbs
decreasing_by
  simp only [greatestPower] at *
  omega

/-- The number as a double, unless it is beyond all doubles. -/
def toFloat? (number : Number) : Option Float :=
  (scaled? number.significand.toFloat number.exponent).map
    (fun magnitude => if number.negative then -magnitude else magnitude)

end Number

end SwapWarden.Text.Json
