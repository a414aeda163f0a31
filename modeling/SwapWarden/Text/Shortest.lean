/-!
# Doubles as text

The text of a finite double has the fewest digits that read back as the same
double; of two such texts it is the one nearer to the value, and the larger one
when both are equally near.  The digits are written positionally whatever their
exponent, and a whole number has no point.

A positive finite double is `m * 2 ^ q` for whole `m` and `q`.  The reals that
round to it form an interval around it; the search below looks, for one digit,
two digits and so on, whether one of the value's two neighbours among the
decimals with that many digits lies in the interval.  All of it is exact
arithmetic on fractions of natural numbers.
-/

namespace SwapWarden.Text

/-- The digits of a decimal `digits * 10 ^ exponent`. -/
structure Digits where
  digits : Nat
  exponent : Int
  deriving DecidableEq, Repr

namespace Shortest

/-- A double `m * 2 ^ q` and the reals that round to it, as fractions with one
denominator.  The ends of the interval belong to it when `m` is even. -/
structure Interval where
  value : Nat
  low : Nat
  high : Nat
  denominator : Nat
  closed : Bool

/-- The interval of `m * 2 ^ q`.  It is narrower below a power of two, where
the doubles below lie half as far apart; in quarters of `2 ^ q` the value is
`4 * m`. -/
def interval (mantissa : Nat) (exponent : Int) (narrowBelow : Bool) :
    Interval :=
  let scale := if exponent ≥ 2 then Nat.pow 2 (exponent - 2).toNat else 1
  { value := 4 * mantissa * scale
    low := (4 * mantissa - (if narrowBelow then 1 else 2)) * scale
    high := (4 * mantissa + 2) * scale
    denominator := if exponent ≥ 2 then 1 else Nat.pow 2 (2 - exponent).toNat
    closed := mantissa % 2 == 0 }

/-- The exponent of the leading decimal digit of a positive fraction. -/
def leadingExponent (numerator denominator : Nat) : Int :=
  if numerator ≥ denominator then
    (Nat.toDigits 10 (numerator / denominator)).length - 1
  else
    -((Nat.toDigits 10 ((denominator - 1) / numerator)).length : Int)

/-- A fraction scaled by `10 ^ (-exponent)`, as numerator and denominator. -/
def scaled (numerator denominator : Nat) (exponent : Int) : Nat × Nat :=
  if exponent ≥ 0 then
    (numerator, denominator * Nat.pow 10 exponent.toNat)
  else
    (numerator * Nat.pow 10 (-exponent).toNat, denominator)

/-- Whether `digits * 10 ^ exponent` lies in the interval. -/
def Interval.holds (range : Interval) (digits : Nat) (exponent : Int) :
    Bool :=
  let (low, denominator) := scaled range.low range.denominator exponent
  let (high, _) := scaled range.high range.denominator exponent
  let candidate := digits * denominator
  if range.closed then
    low ≤ candidate && candidate ≤ high
  else
    low < candidate && candidate < high

/-- The value's neighbour on the grid of `10 ^ exponent` that lies in the
interval; when both do, the nearer one, and on a tie the upper one. -/
def Interval.onGrid? (range : Interval) (exponent : Int) : Option Digits :=
  let (value, denominator) := scaled range.value range.denominator exponent
  let below := value / denominator
  let above := below + 1
  match range.holds below exponent, range.holds above exponent with
  | true, true =>
      if value - below * denominator < above * denominator - value then
        some ⟨below, exponent⟩
      else
        some ⟨above, exponent⟩
  | true, false => some ⟨below, exponent⟩
  | false, true => some ⟨above, exponent⟩
  | false, false => none

/-- The first hit on the grids of `count`, `count + 1`, … digits; 17 digits
always suffice for a double. -/
def Interval.search (range : Interval) (leading : Int) :
    (fuel count : Nat) → Digits
  | 0, _ => ⟨0, 0⟩
  | fuel + 1, count =>
      match range.onGrid? (leading + 1 - count) with
      | some digits => digits
      | none => range.search leading fuel (count + 1)

/-- The fewest digits that read back as a positive finite double. -/
def ofBits (fraction biased : Nat) : Digits :=
  let mantissa := if biased == 0 then fraction else fraction + Nat.pow 2 52
  let exponent : Int := (if biased == 0 then 1 else biased) - 1075
  let range := interval mantissa exponent (fraction == 0 && biased > 1)
  range.search (leadingExponent range.value range.denominator) 18 1

end Shortest

/-- The fraction's digits: leading zeros up to `places` digits, then the
digits without the zeros at their end. -/
def fractionText (digits : List Char) (places : Nat) : List Char :=
  let padded := List.replicate (places - digits.length) '0' ++ digits
  (padded.reverse.dropWhile (· == '0')).reverse

/-- Digits in positional notation. -/
def Digits.text (digits : Digits) : String :=
  if digits.exponent ≥ 0 then
    toString (digits.digits * Nat.pow 10 digits.exponent.toNat)
  else
    let places := (-digits.exponent).toNat
    let whole := toString (digits.digits / Nat.pow 10 places)
    let fraction :=
      fractionText (toString (digits.digits % Nat.pow 10 places)).toList places
    if fraction.isEmpty then whole
    else whole ++ "." ++ String.ofList fraction

/-- The text of a double. -/
def floatText (value : Float) : String :=
  let bits := value.toBits.toNat
  let fraction := bits % Nat.pow 2 52
  let biased := bits / Nat.pow 2 52 % Nat.pow 2 11
  let sign := if bits ≥ Nat.pow 2 63 then "-" else ""
  if biased == 2047 then
    if fraction == 0 then sign ++ "inf" else "NaN"
  else if fraction == 0 && biased == 0 then
    sign ++ "0"
  else
    sign ++ (Shortest.ofBits fraction biased).text

end SwapWarden.Text
