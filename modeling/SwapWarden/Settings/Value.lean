import SwapWarden.Table
import SwapWarden.Text.Blank
import SwapWarden.Text.Decimal
import SwapWarden.Text.Shortest

/-!
# Values of settings

A variable holds a text, and the text is taken for the first of these that it
spells: a truth value, a whole number of 64 bits, a double, a list, or else a
text.  Lists and groups also come about when their parts are given one by one.
A setting that wants another kind converts what it finds: a number asked for as
a text is printed anew, so its spelling is lost.
-/

namespace SwapWarden

/-- The value that a text was taken for.  A list has a length and the elements
that were given by their places, a group its members by their names. -/
inductive SettingValue where
  | flag (value : Bool)
  | whole (value : Int)
  | real (value : Float)
  | text (value : String)
  | list (length : Nat) (elements : Table Nat SettingValue)
  | group (members : Table String SettingValue)
  deriving Inhabited

namespace SettingValue

/-- A truth value in any case. -/
def flag? (text : String) : Option Bool :=
  match String.ofList (Text.lowerAscii text.toList) with
  | "true" => some true
  | "false" => some false
  | _ => none

/-- A list of texts. -/
def ofTexts (texts : List String) : SettingValue :=
  list texts.length ⟨texts.zipIdx.map (fun entry => (entry.2, text entry.1))⟩

/-- The items between the commas of a text; empty items stay. -/
def itemsOf (text : String) : List String :=
  (Text.splitAt (· == ',') text.toList).map String.ofList

/-- What a text is taken for, where it spells neither a truth value nor a
number. -/
def ofWords (isList : Bool) (text : String) : SettingValue :=
  if isList then ofTexts (itemsOf text) else .text text

/-- What a text is taken for. -/
def ofText (isList : Bool) (text : String) : SettingValue :=
  match flag? text with
  | some value => flag value
  | none =>
      match Text.signed? 64 text.toList with
      | some value => whole value
      | none =>
          match Text.float? text.toList with
          | some value => real value
          | none => ofWords isList text

/-- A truth value in one of the words for it, in any case. -/
def switch? (text : String) : Option Bool :=
  match String.ofList (Text.lowerAscii text.toList) with
  | "true" => some true
  | "on" => some true
  | "yes" => some true
  | "false" => some false
  | "off" => some false
  | "no" => some false
  | _ => none

/-- The value as a count of 64 bits.  A double goes to the nearest whole
number, halves away from zero, and then to the nearest count. -/
def count? : SettingValue → Option UInt64
  | flag value => some (if value then 1 else 0)
  | whole value =>
      if 0 ≤ value then some (UInt64.ofNat value.toNat) else none
  | real value => some value.round.toUInt64
  | list .. | group _ => none
  | text value =>
      match switch? value with
      | some value => some (if value then 1 else 0)
      | none => Text.word64? value.toList

/-- The value as a port. -/
def port? (value : SettingValue) : Option UInt16 := do
  let count ← value.count?
  if count.toNat < UInt16.size then some count.toUInt16 else none

/-- The value as a double. -/
def real? : SettingValue → Option Float
  | flag value => some (if value then 1 else 0)
  | whole value => some (Float.ofInt value)
  | real value => some value
  | list .. | group _ => none
  | text value =>
      match switch? value with
      | some value => some (if value then 1 else 0)
      | none => Text.float? value.toList

/-- The value as a text. -/
def text? : SettingValue → Option String
  | flag value => some (if value then "true" else "false")
  | whole value => some (toString value)
  | real value => some (Text.floatText value)
  | list .. | group _ => none
  | text value => some value

/-- The value as a list of texts.  Only a list is one, and only when all of its
elements were given as something that has a text. -/
def list? : SettingValue → Option (List String)
  | list length elements =>
      if elements.size < length then none
      else
        (List.range length).mapM
          (fun index => (elements.get? index).bind text?)
  | _ => none

end SettingValue

end SwapWarden
