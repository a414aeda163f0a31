/-!
# The wire format of runtime messages

A message is a row of fields, each a key with a number and a kind, and a
payload of that kind.  Numbers are written in groups of seven bits, lowest
first, in at most ten bytes.  Groups are an old kind of payload: they are
passed over, up to a hundred inside one another.
-/

namespace SwapWarden.Wire

abbrev Bytes := List UInt8

/-- What a field holds. -/
inductive Payload where
  | varint (value : Nat)
  | fixed64
  | bytes (content : Bytes)
  | group
  | fixed32
  deriving DecidableEq, Repr, Inhabited

/-- A numbered field of a message. -/
structure Field where
  number : Nat
  payload : Payload
  deriving DecidableEq, Repr, Inhabited

/-- Reads a number of which `position` groups are read already.  The tenth
byte has room for one bit. -/
def varintFrom? : (remaining position : Nat) → Bytes → Option (Nat × Bytes)
  | 0, _, _ => none
  | _ + 1, _, [] => none
  | remaining + 1, position, byte :: rest =>
      if byte < 0x80 then
        if position = 9 ∧ byte ≥ 2 then none
        else some (byte.toNat * Nat.pow 2 (7 * position), rest)
      else
        (varintFrom? remaining (position + 1) rest).map (fun read =>
          ((byte.toNat - 0x80) * Nat.pow 2 (7 * position) + read.1, read.2))

/-- A number at the start of a text of bytes, and what follows it. -/
def varint? (bytes : Bytes) : Option (Nat × Bytes) := varintFrom? 10 0 bytes

/-- A key: the number of a field and the kind of its payload. -/
def key? (bytes : Bytes) : Option ((Nat × Nat) × Bytes) :=
  match varint? bytes with
  | some (key, rest) =>
      if key < UInt32.size ∧ 8 ≤ key ∧ key % 8 ≤ 5 then
        some ((key / 8, key % 8), rest)
      else
        none
  | none => none

/-- The rest after some bytes, if there are as many. -/
def skip? (count : Nat) (bytes : Bytes) : Option Bytes :=
  if count ≤ bytes.length then some (bytes.drop count) else none

/-- A run of bytes with its length in front. -/
def delimited? (bytes : Bytes) : Option (Bytes × Bytes) :=
  match varint? bytes with
  | some (length, rest) =>
      if length ≤ rest.length then some (rest.take length, rest.drop length)
      else none
  | none => none

/-- The rest after the fields of a group and its end.  `depth` bounds the
groups inside it and `fuel` the fields. -/
def skipGroup? (number : Nat) : (depth fuel : Nat) → Bytes → Option Bytes
  | _, 0, _ => none
  | depth, fuel + 1, bytes =>
      match key? bytes with
      | none => none
      | some ((inner, kind), rest) =>
          if kind = 4 then
            if inner = number then some rest else none
          else
            match depth with
            | 0 => none
            | below + 1 =>
                let after := match kind with
                  | 0 => (varint? rest).map (·.2)
                  | 1 => skip? 8 rest
                  | 2 => (delimited? rest).map (·.2)
                  | 3 => skipGroup? inner below fuel rest
                  | 5 => skip? 4 rest
                  | _ => none
                match after with
                | some rest => skipGroup? number (below + 1) fuel rest
                | none => none

/-- The payload of a kind, and what follows it. -/
def payload? (depth number kind : Nat) (bytes : Bytes) :
    Option (Payload × Bytes) :=
  match kind with
  | 0 => (varint? bytes).map (fun read => (.varint read.1, read.2))
  | 1 => (skip? 8 bytes).map (fun rest => (.fixed64, rest))
  | 2 => (delimited? bytes).map (fun read => (.bytes read.1, read.2))
  | 3 => (skipGroup? number depth bytes.length bytes).map
      (fun rest => (.group, rest))
  | 5 => (skip? 4 bytes).map (fun rest => (.fixed32, rest))
  | _ => none

/-- The fields of a message, at most `fuel` of them.  The entries of a map are
runs of bytes whatever their keys say. -/
def fieldsFrom? (maps : List Nat) (depth : Nat) :
    (fuel : Nat) → Bytes → Option (List Field)
  | _, [] => some []
  | 0, _ :: _ => none
  | fuel + 1, bytes =>
      match key? bytes with
      | none => none
      | some ((number, kind), rest) =>
          match payload? depth number (if number ∈ maps then 2 else kind)
              rest with
          | none => none
          | some (payload, rest) =>
              (fieldsFrom? maps depth fuel rest).map (⟨number, payload⟩ :: ·)

/-- How many groups may stand inside one another in a whole message. -/
def groupDepth : Nat := 99

/-- The fields of a message that lies `level` messages deep and has the maps
of the given numbers. -/
def fields? (maps : List Nat) (level : Nat) (bytes : Bytes) :
    Option (List Field) :=
  fieldsFrom? maps (groupDepth - level) bytes.length bytes

/-- A number in groups of seven bits. -/
def writtenVarint (value : Nat) : Bytes :=
  if value < 128 then
    [UInt8.ofNat value]
  else
    UInt8.ofNat (value % 128 + 128) :: writtenVarint (value / 128)
termination_by value
decreasing_by omega

/-- A field that holds bytes. -/
def writtenBytes (number : Nat) (content : Bytes) : Bytes :=
  writtenVarint (number * 8 + 2) ++ writtenVarint content.length ++ content

/-- A field that holds a number. -/
def writtenNumber (number value : Nat) : Bytes :=
  writtenVarint (number * 8) ++ writtenVarint value

end SwapWarden.Wire
