import SwapWarden.Text.Hex

/-!
# Form encoding

The encoding of values in a query: letters, digits and `*-._` stand for
themselves, a space is a plus sign, and every other byte of the text is a
percent sign and two hexadecimal digits.
-/

namespace SwapWarden.Text

/-- A byte in two upper-case hexadecimal digits after a percent sign. -/
def percentByte (byte : UInt8) : List Char :=
  '%' :: (paddedHex 2 byte.toNat).map Char.toUpper

/-- A byte as it stands in a query. -/
def formByte (byte : UInt8) : List Char :=
  let char := Char.ofNat byte.toNat
  if byte == 0x20 then ['+']
  else if byte < 0x80 && (char.isAlphanum || "*-._".toList.contains char) then
    [char]
  else
    percentByte byte

/-- A text as it stands in a query. -/
def formEncoded (text : String) : String :=
  String.ofList (text.toUTF8.toList.flatMap formByte)

end SwapWarden.Text
