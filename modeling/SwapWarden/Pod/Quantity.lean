import SwapWarden.Fault
import SwapWarden.Text.Blank
import SwapWarden.Text.Decimal
import SwapWarden.Word64

/-!
# Quantities

A quantity is a decimal number and a suffix that scales it: a letter for a
power of a thousand or, with an `i`, of 1024, an `m` for a thousandth, or `e`
and a decimal exponent.  Blanks around it do not count; a fault carries the
text with them.
-/

namespace SwapWarden.Quantity

/-- `seen * base ^ exponent` by repeated squaring, in that order of
multiplications. -/
def raise (seen base : Float) (exponent : Nat) : Float :=
  if zero : exponent = 0 then
    seen
  else
    raise (if exponent % 2 = 1 then seen * base else seen) (base * base)
      (exponent / 2)
termination_by exponent
decreasing_by omega

/-- A power of ten; one with a negative exponent is a reciprocal. -/
def powerOfTen (exponent : Int) : Float :=
  let power := raise 1 10 exponent.natAbs
  if exponent < 0 then 1 / power else power

/-- The named suffixes. -/
def suffixes : List (String × Float) :=
  [("", 1), ("m", 1e-3), ("k", 1e3), ("M", 1e6), ("G", 1e9), ("T", 1e12),
    ("P", 1e15), ("E", 1e18), ("Ki", 1024), ("Mi", 1048576),
    ("Gi", 1073741824), ("Ti", 1099511627776), ("Pi", 1125899906842624),
    ("Ei", 1152921504606846976)]

/-- The factor that a suffix stands for. -/
def factor? (suffix : List Char) : Option Float :=
  match suffixes.lookup (String.ofList suffix) with
  | some factor => some factor
  | none =>
      match suffix with
      | marker :: exponent =>
          if marker == 'e' || marker == 'E' then
            (Text.signed? 32 exponent).map powerOfTen
          else
            none
      | [] => none

/-- The characters a number may consist of. -/
def isNumberChar (char : Char) : Bool :=
  char.isDigit || char == '.' || char == '+' || char == '-'

/-- The value of a quantity without blanks around it. -/
def value? (text : List Char) : Option Float :=
  match Text.float? (text.takeWhile isNumberChar),
      factor? (text.dropWhile isNumberChar) with
  | some number, some factor => some (number * factor)
  | _, _ => none

/-- The value of a quantity. -/
def parse (raw : String) : Except Fault Float :=
  match value? (Text.trim raw.toList) with
  | some value => .ok value
  | none => .error (.quantity raw)

/-- A number rounded up, at most the largest word; what is no number counts as
zero.  A double with a fraction is far below the largest word, so every other
one is its own whole part, or more than any word. -/
def roundUp (value : Float) : UInt64 :=
  let whole := value.toUInt64
  if whole.toFloat < value then Word64.addCapped whole 1 else whole

/-- The bytes of a quantity: whole bytes, rounded up, at most the largest
word.  A negative quantity has none. -/
def bytes (raw : String) : Except Fault UInt64 :=
  match parse raw with
  | .ok value =>
      if value < 0 then .error (.quantity raw) else .ok (roundUp value)
  | .error fault => .error fault

/-- The value of a quantity, if it is above zero. -/
def positive? (raw : String) : Option Float :=
  match parse raw with
  | .ok value => if value > 0 then some value else none
  | .error _ => none

end SwapWarden.Quantity
