import SwapWarden.Text.Json.Basic

/-!
# Reading the fields of an object

An object is read field by field.  Fields nobody asks for may hold anything.
A field that is there several times must be readable every time, and the last
one counts; `null` stands for a field that is not there.
-/

namespace SwapWarden.Text.Json

/-- The fields of an object whose names are all texts. -/
def fields? : Json → Option (List (String × Json))
  | .object members =>
      members.mapM (fun member =>
        member.1.map (fun name => (name, member.2)))
  | _ => none

/-- A value that may be `null`. -/
def nullable? {α : Type} (read : Json → Option α) : Json → Option (Option α)
  | .null => some none
  | value => (read value).map some

/-- Every reading of a field, in order. -/
def readings? {α : Type} (read : Json → Option α)
    (fields : List (String × Json)) (name : String) : Option (List α) :=
  (fields.filter (fun field => field.1 == name)).mapM
    (fun field => read field.2)

/-- The last reading of a field, if it is there and not `null`. -/
def field? {α : Type} (read : Json → Option α)
    (fields : List (String × Json)) (name : String) : Option (Option α) :=
  (readings? (nullable? read) fields name).map
    (fun readings => readings.getLast?.join)

/-- A list of values of one kind. -/
def listOf? {α : Type} (read : Json → Option α) : Json → Option (List α)
  | .array items => items.mapM read
  | _ => none

/-- A truth value. -/
def bool? : Json → Option Bool
  | .bool value => some value
  | _ => none

/-- A signed 32-bit number. -/
def int32? : Json → Option Int
  | .integer value =>
      if -2147483648 ≤ value ∧ value ≤ 2147483647 then some value else none
  | _ => none

/-- A number from zero to a bound. -/
def naturalUpTo? (bound : Nat) : Json → Option Nat
  | .integer value =>
      if 0 ≤ value ∧ value ≤ bound then some value.toNat else none
  | _ => none

end SwapWarden.Text.Json
