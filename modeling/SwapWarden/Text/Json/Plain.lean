import SwapWarden.Text.Json.Basic

/-!
# Plain values

A value is *plain* when it can be held whole: every string is a text, every
number is a finite double, and containers are nested to a bounded depth.
-/

namespace SwapWarden.Text.Json

/-- How deep the containers of a value that is held whole may be nested. -/
def greatestDepth : Nat := 127

mutual

/-- Whether a value can be held whole with `room` containers inside one
another. -/
def isPlain : (room : Nat) → Json → Bool
  | _, .null => true
  | _, .bool _ => true
  | _, .integer value => (Number.ofInteger value).toFloat?.isSome
  | _, .decimal value => value.toFloat?.isSome
  | _, .string text => text.isSome
  | room, .array items => decide (0 < room) && arePlain (room - 1) items
  | room, .object members =>
      decide (0 < room) && havePlainValues (room - 1) members

/-- Whether all items can be held whole. -/
def arePlain : (room : Nat) → List Json → Bool
  | _, [] => true
  | room, item :: rest => isPlain room item && arePlain room rest

/-- Whether all members can be held whole. -/
def havePlainValues : (room : Nat) → List (Option String × Json) → Bool
  | _, [] => true
  | room, (name, value) :: rest =>
      name.isSome && isPlain room value && havePlainValues room rest

end

end SwapWarden.Text.Json
