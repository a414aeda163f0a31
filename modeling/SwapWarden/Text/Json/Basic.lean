import SwapWarden.Text.Json.Number

/-!
# JSON values

Members of an object keep their order and their repetitions.  A string that
holds half of a surrogate pair stands for no text; it is kept as `none`, so
that a reader can pass over it.  A number without fraction and exponent is an
integer, except the negative zero.
-/

namespace SwapWarden.Text

/-- A JSON value. -/
inductive Json where
  | null
  | bool (value : Bool)
  | integer (value : Int)
  | decimal (value : Json.Number)
  | string (text : Option String)
  | array (items : List Json)
  | object (members : List (Option String × Json))
  deriving Inhabited

namespace Json

/-- A JSON string with a text. -/
def text (value : String) : Json := .string (some value)

/-- A JSON integer. -/
def natural (value : Nat) : Json := .integer (Int.ofNat value)

/-- An object with the given members. -/
def record (members : List (String × Json)) : Json :=
  .object (members.map (fun member => (some member.1, member.2)))

/-- The text of a string. -/
def asText? : Json → Option String
  | .string text => text
  | _ => none

/-- The items of an array. -/
def asArray? : Json → Option (List Json)
  | .array items => some items
  | _ => none

/-- The members of an object. -/
def asObject? : Json → Option (List (Option String × Json))
  | .object members => some members
  | _ => none

/-- An integer. -/
def asInteger? : Json → Option Int
  | .integer value => some value
  | _ => none

/-- A number as a double, unless it is beyond all doubles. -/
def asFloat? : Json → Option Float
  | .integer value => (Number.ofInteger value).toFloat?
  | .decimal value => value.toFloat?
  | _ => none

/-- A truth value. -/
def asBool? : Json → Option Bool
  | .bool value => some value
  | _ => none

/-- The values of all members with the given name, in order. -/
def members (name : String) : Json → List Json
  | .object members =>
      (members.filter (fun member => member.1 == some name)).map (·.2)
  | _ => []

/-- The first member with the given name. -/
def member? (name : String) (value : Json) : Option Json :=
  (value.members name).head?

end Json

end SwapWarden.Text
