import SwapWarden.Settings.Value

/-!
# Paths into settings

A setting's name may go on to say which part of the setting is meant:
`name[2]` is an element of a list, counted from zero, or from the end if below
zero, and `name.part` a member of a group, to any depth.  What does not follow
this form is a plain name.  Giving a part of a setting makes the lists and
groups on the way to it, in place of whatever else stands there, and makes a
list as long as it takes; what lies between is not given.
-/

namespace SwapWarden

/-- A step from a value to a part of it. -/
inductive PathStep where
  | element (index : Int)
  | member (name : String)
  deriving DecidableEq, Repr

/-- A setting, and the way from there to one of its parts. -/
structure SettingPath where
  setting : String
  steps : List PathStep := []
  deriving DecidableEq, Repr

namespace SettingPath

/-- The characters of names on a path. -/
def isNameChar (char : Char) : Bool :=
  char.isAlphanum || char == '_' || char == '-' || char == ' '

/-- A name at the start of a text. -/
def name? (text : List Char) : Option (String × List Char) :=
  let name := text.takeWhile isNameChar
  if name.isEmpty then none
  else some (String.ofList name, text.dropWhile isNameChar)

/-- The index in brackets whose content is given, with blanks around it. -/
def index? (content : List Char) : Option Int :=
  match Text.trimEnds (fun char => char == ' ' || char == '\t') content with
  | '+' :: _ => none
  | numeral => Text.signed? 64 numeral

/-- A step at the start of a text. -/
def step? : List Char → Option (PathStep × List Char)
  | '.' :: rest => (name? rest).map (fun read => (.member read.1, read.2))
  | '[' :: rest =>
      match rest.dropWhile (· != ']') with
      | [] => none
      | _ :: after =>
          (index? (rest.takeWhile (· != ']'))).map
            (fun index => (.element index, after))
  | _ => none

/-- The steps that a text consists of; every step takes at least one of its
characters, so `fuel` need not exceed their number. -/
def stepsWithin : (fuel : Nat) → List Char → Option (List PathStep)
  | _, [] => some []
  | 0, _ => none
  | fuel + 1, text => do
      let (step, rest) ← step? text
      let steps ← stepsWithin fuel rest
      some (step :: steps)

/-- The path that a text spells. -/
def parse? (text : List Char) : Option SettingPath := do
  let (setting, rest) ← name? text
  let steps ← stepsWithin rest.length rest
  some { setting, steps }

/-- The path that a name stands for. -/
def ofName (name : String) : SettingPath :=
  (parse? name.toList).getD { setting := name }

end SettingPath

namespace SettingValue

/-- The length of a value that is a list, and its elements. -/
def elements : Option SettingValue → Nat × Table Nat SettingValue
  | some (.list length elements) => (length, elements)
  | _ => (0, Table.empty)

/-- The members of a value, if it is a group. -/
def members : Option SettingValue → Table String SettingValue
  | some (.group members) => members
  | _ => Table.empty

/-- The place that an index means in a list of some length, and how many
places the list must gain at its start for that. -/
def placeOf (length : Nat) (index : Int) : Nat × Nat :=
  if 0 ≤ index then (index.toNat, 0)
  else (length - index.natAbs, index.natAbs - length)

/-- What stands in the place of a value, if there is one, once a part of it is
given. -/
def withPart (part : SettingValue) :
    List PathStep → Option SettingValue → SettingValue
  | [], _ => part
  | .element index :: steps, value =>
      let (length, elements) := elements value
      let (place, gained) := placeOf length index
      let elements : Table Nat SettingValue :=
        ⟨elements.entries.map (fun entry => (entry.1 + gained, entry.2))⟩
      .list (max (length + gained) (place + 1))
        (elements.put place (withPart part steps (elements.get? place)))
  | .member name :: steps, value =>
      .group ((members value).put name
        (withPart part steps ((members value).get? name)))

end SettingValue

end SwapWarden
