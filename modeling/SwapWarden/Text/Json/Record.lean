import SwapWarden.Text.Json.Fields

/-!
# Records

A record has a fixed list of fields.  It is written as an object, in which none
of them may be there twice and others may hold anything, or as an array of its
fields in order, of which the last ones may be left out.
-/

namespace SwapWarden.Text.Json

/-- The only value of a field, if it is there; it may not be there twice. -/
def uniqueField? (fields : List (String × Json)) (name : String) :
    Option (Option Json) :=
  match fields.filter (fun field => field.1 == name) with
  | [] => some none
  | [field] => some (some field.2)
  | _ => none

/-- The values of the fields of a record, in the order of the names. -/
def record? (names : List String) (value : Json) :
    Option (List (Option Json)) :=
  match value with
  | .array items =>
      if items.length ≤ names.length then
        some (names.zipIdx.map (fun entry => items[entry.2]?))
      else
        none
  | _ => do
      let fields ← value.fields?
      names.mapM (uniqueField? fields)

/-- The reading of a field that may be left out. -/
def readOr? {α : Type} (missing : α) (read : Json → Option α) :
    Option Json → Option α
  | none => some missing
  | some value => read value

end SwapWarden.Text.Json
