import SwapWarden.Text.Json.Fields
import SwapWarden.Text.Json.Plain
import SwapWarden.Text.Timestamp

/-!
# Shapes of documents

A shape says which documents can be read as one kind of thing.  The fields of an
object may all be missing or `null`, fields of other names may hold anything,
and a field that is there several times must fit every time.
-/

namespace SwapWarden.Text.Json

/-- The shape of a document.  A map has values of one shape by names, and
anything is what can be held whole. -/
inductive Shape where
  | text
  | flag
  | int32
  | int64
  | int32OrText
  | time
  | anything
  | list (item : Shape)
  | map (value : Shape)
  | object (fields : List (String × Shape))
  deriving Inhabited

namespace Shape

/-- Fields of one shape. -/
def each (shape : Shape) (names : List String) : List (String × Shape) :=
  names.map (fun name => (name, shape))

def texts : List String → List (String × Shape) := each text

def flags : List String → List (String × Shape) := each flag

def int32s : List String → List (String × Shape) := each int32

def int64s : List String → List (String × Shape) := each int64

/-- An object whose fields are all texts. -/
def textObject (names : List String) : Shape := object (texts names)

/-- A signed 64-bit number. -/
def isInt64 : Json → Bool
  | .integer value =>
      decide (-9223372036854775808 ≤ value ∧ value ≤ 9223372036854775807)
  | _ => false

/-- Whether a value stands for a field that is not there. -/
def isMissing : Json → Bool
  | .null => true
  | _ => false

mutual

/-- Whether a document has a shape, where `room` containers inside one another
can be held whole. -/
def fits : Shape → (room : Nat) → Json → Bool
  | .text, _, value => value.asText?.isSome
  | .flag, _, value => value.asBool?.isSome
  | .int32, _, value => (int32? value).isSome
  | .int64, _, value => isInt64 value
  | .int32OrText, _, value =>
      (int32? value).isSome || value.asText?.isSome
  | .time, _, value => (value.asText?.bind Timestamp.parse?).isSome
  | .anything, room, value => value.isPlain room
  | .list item, room, value =>
      match value with
      | .array items => items.all (fun part => fits item (room - 1) part)
      | _ => false
  | .map shape, room, value =>
      match value with
      | .object members =>
          members.all (fun member =>
            member.1.isSome && fits shape (room - 1) member.2)
      | _ => false
  | .object fields, room, value =>
      match value with
      | .object members =>
          members.all (fun member =>
            match member.1 with
            | some name => fieldFits fields (room - 1) name member.2
            | none => false)
      | _ => false

/-- Whether a field of a name may have a value. -/
def fieldFits : List (String × Shape) → (room : Nat) → (name : String) →
    Json → Bool
  | [], _, _, _ => true
  | (known, shape) :: rest, room, name, value =>
      if known == name then isMissing value || fits shape room value
      else fieldFits rest room name value

end

end Shape

end SwapWarden.Text.Json
