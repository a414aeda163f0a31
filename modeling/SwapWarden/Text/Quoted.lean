import SwapWarden.Text.Printable

/-!
# Quoted text

A text between double quotes in which everything that does not show by itself
is escaped: NUL, tab, line feed, carriage return, the quote and the backslash
by a letter, every other character that is not printable by its code point in
hexadecimal between braces.
-/

namespace SwapWarden.Text

/-- A code point in lower-case hexadecimal without leading zeros. -/
def hexText (code : Nat) : List Char :=
  Nat.toDigits 16 code

/-- A character as it stands inside quotes. -/
def quotedChar (char : Char) : List Char :=
  match char with
  | '\x00' => ['\\', '0']
  | '\t' => ['\\', 't']
  | '\n' => ['\\', 'n']
  | '\r' => ['\\', 'r']
  | '"' => ['\\', '"']
  | '\\' => ['\\', '\\']
  | _ =>
      if isPrintable char then
        [char]
      else
        ['\\', 'u', '\x7b'] ++ hexText char.toNat ++ ['\x7d']

/-- A text between quotes. -/
def quoted (text : String) : String :=
  String.ofList ('"' :: text.toList.flatMap quotedChar ++ ['"'])

end SwapWarden.Text
