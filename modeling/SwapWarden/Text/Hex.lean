import SwapWarden.Text.Quoted

/-!
# Bytes and words in hexadecimal

Two lower-case digits to a byte and sixteen to a 64-bit word.
-/

namespace SwapWarden.Text

/-- The value of a hexadecimal digit. -/
def hexDigit? (char : Char) : Option Nat :=
  if char.isDigit then some (char.toNat - '0'.toNat)
  else if 'a' ≤ char && char ≤ 'f' then some (char.toNat - 'a'.toNat + 10)
  else if 'A' ≤ char && char ≤ 'F' then some (char.toNat - 'A'.toNat + 10)
  else none

/-- A number in at least `count` hexadecimal digits. -/
def paddedHex (count value : Nat) : List Char :=
  let digits := hexText value
  List.replicate (count - digits.length) '0' ++ digits

/-- Bytes in hexadecimal. -/
def hexOfBytes (bytes : List UInt8) : String :=
  String.ofList (bytes.flatMap (fun byte => paddedHex 2 byte.toNat))

/-- A word in hexadecimal. -/
def hexOfWord (word : UInt64) : String :=
  String.ofList (paddedHex 16 word.toNat)

/-- The bytes that pairs of digits stand for; a character that is no digit
counts as zero, and half a pair as nothing. -/
def bytesOfDigits : List Char → List UInt8
  | high :: low :: rest =>
      UInt8.ofNat ((hexDigit? high).getD 0 * 16 + (hexDigit? low).getD 0) ::
        bytesOfDigits rest
  | _ => []

/-- The bytes of a text in hexadecimal. -/
def bytesOfHex (text : String) : List UInt8 := bytesOfDigits text.toList

end SwapWarden.Text
