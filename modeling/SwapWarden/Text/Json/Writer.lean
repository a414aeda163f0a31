import SwapWarden.Text.Hex
import SwapWarden.Text.Json.Basic

/-!
# Writing JSON

The compact form, in ASCII: every other character is written by its UTF-16
code units.
-/

namespace SwapWarden.Text.Json

/-- A UTF-16 code unit as an escape. -/
def unitEscape (unit : Nat) : List Char :=
  ['\\', 'u'] ++ paddedHex 4 unit

/-- A character as it stands in a string. -/
def writtenChar (char : Char) : List Char :=
  let code := char.toNat
  if char == '"' || char == '\\' then
    ['\\', char]
  else if 0x20 ≤ code && code < 0x7f then
    [char]
  else if code < 0x10000 then
    unitEscape code
  else
    unitEscape (0xd800 + (code - 0x10000) / 0x400) ++
      unitEscape (0xdc00 + (code - 0x10000) % 0x400)

/-- A string with its quotes. -/
def writtenText (text : String) : String :=
  String.ofList ('"' :: text.toList.flatMap writtenChar ++ ['"'])

/-- A number in scientific form. -/
def writtenNumber (value : Number) : String :=
  (if value.negative then "-" else "") ++
    toString value.significand.toNat ++ "e" ++ toString value.exponent

mutual

/-- The compact text of a value. -/
def written : Json → String
  | .null => "null"
  | .bool true => "true"
  | .bool false => "false"
  | .integer value => toString value
  | .decimal value => writtenNumber value
  | .string (some text) => writtenText text
  | .string none => "null"
  | .array items => "[" ++ String.intercalate "," (writtenItems items) ++ "]"
  | .object members =>
      "\x7b" ++ String.intercalate "," (writtenMembers members) ++ "\x7d"

def writtenItems : List Json → List String
  | [] => []
  | item :: rest => written item :: writtenItems rest

def writtenMembers : List (Option String × Json) → List String
  | [] => []
  | (name, value) :: rest =>
      (writtenText (name.getD "") ++ ":" ++ written value) ::
        writtenMembers rest

end

end SwapWarden.Text.Json
