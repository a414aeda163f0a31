import SwapWarden.Text.Json.Writer

/-!
# Easy access to documents

Documents written for this library are taken at their word: a field that is
missing or of another form has its empty value.  Counts of 64 bits are written
as decimal texts, which no reader rounds.
-/

namespace SwapWarden.Text.Json

/-- The value of a field, `null` when it is missing. -/
def get (value : Json) (name : String) : Json :=
  (value.member? name).getD .null

def isNull : Json → Bool
  | .null => true
  | _ => false

def textAt (value : Json) (name : String) (missing : String := "") : String :=
  ((value.get name).asText?).getD missing

def items (value : Json) : List Json := (value.asArray?).getD []

def itemsAt (value : Json) (name : String) : List Json :=
  (value.get name).items

def textsAt (value : Json) (name : String) : List String :=
  (value.itemsAt name).filterMap asText?

def intAt (value : Json) (name : String) (missing : Int := 0) : Int :=
  ((value.get name).asInteger?).getD missing

def natAt (value : Json) (name : String) (missing : Nat := 0) : Nat :=
  (value.intAt name missing).toNat

def flagAt (value : Json) (name : String) : Bool :=
  ((value.get name).asBool?).getD false

def floatAt (value : Json) (name : String) (missing : Float := 0) : Float :=
  ((value.get name).asFloat?).getD missing

def countAt (value : Json) (name : String) : UInt64 :=
  UInt64.ofNat (((natural? (value.textAt name).toList)).getD 0)

/-- The named values of an object. -/
def entries (value : Json) : List (String × Json) :=
  ((value.asObject?).getD []).map (fun member =>
    (member.1.getD "", member.2))

/-- A count. -/
def count (value : UInt64) : Json := .text (toString value.toNat)

/-- A value that may be missing. -/
def optional {α : Type} (write : α → Json) : Option α → Json
  | some value => write value
  | none => .null

/-- Values in order. -/
def list {α : Type} (write : α → Json) (values : List α) : Json :=
  .array (values.map write)

/-- The members of an object in the order of their names. -/
def sortedMembers : Json → Json
  | .object members =>
      .object (members.mergeSort
        (fun first second => decide (first.1.getD "" ≤ second.1.getD "")))
  | value => value

/-- Values in the order of their texts, each once. -/
def set (values : List Json) : Json :=
  let texts := values.map (fun value =>
    let value := value.sortedMembers
    (value.written, value))
  let sorted := texts.mergeSort
    (fun first second => decide (first.1 ≤ second.1))
  .array ((sorted.eraseDupsBy (·.1 == ·.1)).map (·.2))

end SwapWarden.Text.Json
