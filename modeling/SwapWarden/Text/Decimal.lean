import SwapWarden.Text.Numeral

/-!
# Decimal fractions in text

A decimal is an exact value `mantissa * 10 ^ exponent` with a sign; its double
is the nearest one, ties to even.  The texts read here are an optional sign,
digits with at most one point and at least one digit, and an optional exponent;
or a sign with one of the words for infinity and for no number.
-/

namespace SwapWarden.Text

/-- The exact value `mantissa * 10 ^ exponent`, negated when `negative`. -/
structure Decimal where
  negative : Bool
  mantissa : Nat
  exponent : Int
  deriving DecidableEq, Repr

namespace Decimal

/-- Number of decimal digits of a natural number; zero has one. -/
def digitCount (value : Nat) : Nat :=
  (Nat.toDigits 10 value).length

/-- The double nearest to the value without its sign.  Beyond 400 digits on
either side of the point the result is infinity or zero, so the power of ten
is not computed there. -/
def magnitude (decimal : Decimal) : Float :=
  if decimal.mantissa == 0 then
    0
  else
    let highest : Int := digitCount decimal.mantissa + decimal.exponent
    if 400 < highest then
      1.0 / 0.0
    else if highest < -400 then
      0
    else
      Float.ofScientific decimal.mantissa (decimal.exponent < 0)
        decimal.exponent.natAbs

/-- The double nearest to the value. -/
def toFloat (decimal : Decimal) : Float :=
  if decimal.negative then -decimal.magnitude else decimal.magnitude

end Decimal

/-- Digits with at most one point and at least one digit: the value of all the
digits and how many stand after the point. -/
def fixedPoint? (text : List Char) : Option (Nat × Nat) :=
  let whole := text.takeWhile Char.isDigit
  match text.dropWhile Char.isDigit with
  | [] => (natural? whole).map (fun value => (value, 0))
  | '.' :: fraction =>
      (natural? (whole ++ fraction)).map
        (fun value => (value, fraction.length))
  | _ => none

/-- A decimal exponent: an optional sign and at least one digit. -/
def exponent? (text : List Char) : Option Int :=
  let (negative, digits) := splitSign text
  (natural? digits).map
    (fun value => if negative then -Int.ofNat value else Int.ofNat value)

/-- An unsigned decimal with an optional exponent. -/
def unsignedDecimal? (negative : Bool) (text : List Char) : Option Decimal :=
  let number := text.takeWhile (fun char => char != 'e' && char != 'E')
  match text.dropWhile (fun char => char != 'e' && char != 'E') with
  | [] =>
      (fixedPoint? number).map
        (fun value => ⟨negative, value.1, -Int.ofNat value.2⟩)
  | _ :: power =>
      match fixedPoint? number, exponent? power with
      | some value, some exponent =>
          some ⟨negative, value.1, exponent - Int.ofNat value.2⟩
      | _, _ => none

/-- A double from any of the texts above; the words go by any case. -/
def float? (text : List Char) : Option Float :=
  let (negative, unsigned) := splitSign text
  let word := String.ofList (unsigned.map Char.toLower)
  if word == "inf" || word == "infinity" then
    some (if negative then -(1.0 / 0.0) else 1.0 / 0.0)
  else if word == "nan" then
    some (0.0 / 0.0)
  else
    (unsignedDecimal? negative unsigned).map Decimal.toFloat

end SwapWarden.Text
