import SwapWarden.Text.Hex
import SwapWarden.Text.Json.Basic

/-!
# Reading JSON

The strict grammar: four blanks, no leading zeros, no control characters in
strings, no trailing text.  Nesting may have any depth.  The number of steps
is bounded by twice the length of the text.
-/

namespace SwapWarden.Text.Json

def isSpace (char : Char) : Bool :=
  char == ' ' || char == '\t' || char == '\n' || char == '\r'

def skipSpace (text : List Char) : List Char := text.dropWhile isSpace

/-- Four hexadecimal digits. -/
def hexUnit? : List Char → Option (Nat × List Char)
  | first :: second :: third :: fourth :: rest => do
      let first ← hexDigit? first
      let second ← hexDigit? second
      let third ← hexDigit? third
      let fourth ← hexDigit? fourth
      some (((first * 16 + second) * 16 + third) * 16 + fourth, rest)
  | _ => none

def isLeadingSurrogate (unit : Nat) : Bool := 0xd800 ≤ unit && unit < 0xdc00

def isTrailingSurrogate (unit : Nat) : Bool := 0xdc00 ≤ unit && unit < 0xe000

/-- The character of a surrogate pair. -/
def pairedChar (leading trailing : Nat) : Char :=
  Char.ofNat (0x10000 + (leading - 0xd800) * 0x400 + (trailing - 0xdc00))

/-- The letter escapes. -/
def letterEscape? : Char → Option Char
  | '"' => some '"'
  | '\\' => some '\\'
  | '/' => some '/'
  | 'b' => some '\x08'
  | 'f' => some '\x0c'
  | 'n' => some '\n'
  | 'r' => some '\r'
  | 't' => some '\t'
  | _ => none

/-- The rest of a string after its opening quote.  `seen` holds the characters
before, last one first, and is `none` once half a surrogate pair was met. -/
def stringBody : (fuel : Nat) → (seen : Option (List Char)) → List Char →
    Option (Option String × List Char)
  | 0, _, _ => none
  | _ + 1, _, [] => none
  | _ + 1, seen, '"' :: rest =>
      some (seen.map (fun chars => String.ofList chars.reverse), rest)
  | fuel + 1, seen, '\\' :: 'u' :: rest =>
      match hexUnit? rest with
      | none => none
      | some (unit, rest) =>
          if isTrailingSurrogate unit then
            stringBody fuel none rest
          else if isLeadingSurrogate unit then
            match rest with
            | '\\' :: 'u' :: after =>
                match hexUnit? after with
                | none => none
                | some (second, after) =>
                    if isTrailingSurrogate second then
                      stringBody fuel
                        (seen.map (pairedChar unit second :: ·)) after
                    else
                      stringBody fuel none rest
            | _ => stringBody fuel none rest
          else
            stringBody fuel (seen.map (Char.ofNat unit :: ·)) rest
  | fuel + 1, seen, '\\' :: escape :: rest =>
      match letterEscape? escape with
      | some char => stringBody fuel (seen.map (char :: ·)) rest
      | none => none
  | fuel + 1, seen, char :: rest =>
      if char.toNat < 0x20 || char == '\\' then none
      else stringBody fuel (seen.map (char :: ·)) rest

/-- The digits at the start of a text, at least one. -/
def digits? (text : List Char) : Option (List Char × List Char) :=
  let digits := text.takeWhile Char.isDigit
  if digits.isEmpty then none
  else some (digits, text.dropWhile Char.isDigit)

/-- The digits before the point: no leading zero unless it stands alone. -/
def wholePart? : List Char → Option (List Char × List Char)
  | '0' :: rest =>
      match rest with
      | char :: _ => if char.isDigit then none else some (['0'], rest)
      | [] => some (['0'], rest)
  | text => digits? text

/-- The digits after the point, if there is one. -/
def fractionPart? : List Char → Option (Option (List Char) × List Char)
  | '.' :: rest => (digits? rest).map (fun part => (some part.1, part.2))
  | text => some (none, text)

/-- The exponent, if there is one. -/
def exponentPart? : List Char → Option (Option Int × List Char)
  | marker :: rest =>
      if marker == 'e' || marker == 'E' then
        let (negative, rest) := splitSign rest
        match digits? rest with
        | none => none
        | some (digits, rest) =>
            (natural? digits).map (fun value =>
              (some (if negative then -Int.ofNat value else Int.ofNat value),
                rest))
      else
        some (none, marker :: rest)
  | [] => some (none, [])

/-- A number. -/
def number? (text : List Char) : Option (Json × List Char) := do
  let (negative, unsigned) := match text with
    | '-' :: rest => (true, rest)
    | _ => (false, text)
  let (whole, rest) ← wholePart? unsigned
  let (fraction, rest) ← fractionPart? rest
  let (exponent, rest) ← exponentPart? rest
  let magnitude ← natural? whole
  if fraction.isNone && exponent.isNone && !(negative && magnitude == 0) then
    some (.integer (if negative then -Int.ofNat magnitude
      else Int.ofNat magnitude), rest)
  else
    some (.decimal (Number.ofDigits negative whole (fraction.getD [])
      (exponent.getD 0)), rest)

mutual

/-- A value at the start of a text, and what follows it. -/
def value? : (fuel : Nat) → List Char → Option (Json × List Char)
  | 0, _ => none
  | fuel + 1, text =>
      match skipSpace text with
      | 'n' :: 'u' :: 'l' :: 'l' :: rest => some (.null, rest)
      | 't' :: 'r' :: 'u' :: 'e' :: rest => some (.bool true, rest)
      | 'f' :: 'a' :: 'l' :: 's' :: 'e' :: rest => some (.bool false, rest)
      | '"' :: rest =>
          (stringBody fuel (some []) rest).map
            (fun read => (.string read.1, read.2))
      | '[' :: rest =>
          match skipSpace rest with
          | ']' :: rest => some (.array [], rest)
          | rest => items? fuel [] rest
      | '\x7b' :: rest =>
          match skipSpace rest with
          | '\x7d' :: rest => some (.object [], rest)
          | rest => objectMembers? fuel [] rest
      | text => number? text

/-- The items of an array from the next one on; `seen` are those before, last
one first. -/
def items? : (fuel : Nat) → (seen : List Json) → List Char →
    Option (Json × List Char)
  | 0, _, _ => none
  | fuel + 1, seen, text =>
      match value? fuel text with
      | none => none
      | some (item, rest) =>
          match skipSpace rest with
          | ',' :: rest => items? fuel (item :: seen) rest
          | ']' :: rest => some (.array (item :: seen).reverse, rest)
          | _ => none

/-- The members of an object from the next one on; `seen` are those before,
last one first. -/
def objectMembers? : (fuel : Nat) → (seen : List (Option String × Json)) →
    List Char → Option (Json × List Char)
  | 0, _, _ => none
  | fuel + 1, seen, text =>
      match skipSpace text with
      | '"' :: rest =>
          match stringBody fuel (some []) rest with
          | none => none
          | some (name, rest) =>
              match skipSpace rest with
              | ':' :: rest =>
                  match value? fuel rest with
                  | none => none
                  | some (value, rest) =>
                      match skipSpace rest with
                      | ',' :: rest =>
                          objectMembers? fuel ((name, value) :: seen) rest
                      | '\x7d' :: rest =>
                          some (.object ((name, value) :: seen).reverse, rest)
                      | _ => none
              | _ => none
      | _ => none

end

/-- The value that a whole text denotes. -/
def ofChars? (text : List Char) : Option Json :=
  match value? (2 * text.length + 2) text with
  | some (value, rest) => if (skipSpace rest).isEmpty then some value else none
  | none => none

/-- The value that a whole text denotes. -/
def ofText? (text : String) : Option Json := ofChars? text.toList

end SwapWarden.Text.Json
