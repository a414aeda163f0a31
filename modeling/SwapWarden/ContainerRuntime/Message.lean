import SwapWarden.ContainerRuntime.State
import SwapWarden.ContainerRuntime.Wire
import SwapWarden.Table

/-!
# Messages of a container runtime

The request for a container's status and the answer.  Of an answer only the
declared fields matter: the status with its id and state, and the map of
verbose information.  Of a number or a text given twice the last counts, and a
status given twice is merged.
-/

namespace SwapWarden

/-- Asks for the status of a container. -/
structure StatusRequest where
  container : String
  verbose : Bool
  deriving DecidableEq, Repr, Inhabited

namespace StatusRequest

/-- The bytes of a request; empty and false fields are left out. -/
def encode (request : StatusRequest) : Wire.Bytes :=
  (if request.container.isEmpty then []
    else Wire.writtenBytes 1 request.container.toUTF8.toList) ++
  (if request.verbose then Wire.writtenNumber 2 1 else [])

end StatusRequest

/-- The status of a container; the state is a number of the interface. -/
structure RuntimeStatus where
  id : String := ""
  state : Int := 0
  deriving DecidableEq, Repr, Inhabited

/-- The answer to a request for a status. -/
structure StatusResponse where
  status : Option RuntimeStatus := none
  info : Table String String := Table.empty
  deriving Inhabited

/-- The text of bytes that are one. -/
def Wire.text? (bytes : Wire.Bytes) : Option String :=
  String.fromUTF8? (ByteArray.mk bytes.toArray)

namespace RuntimeStatus

/-- The status after one more field. -/
def merge (status : RuntimeStatus) (field : Wire.Field) :
    Option RuntimeStatus :=
  match field.number, field.payload with
  | 1, .bytes content =>
      (Wire.text? content).map (fun id => { status with id })
  | 1, _ => none
  | 3, .varint value => some { status with state := Int.bmod value UInt32.size }
  | 3, _ => none
  | _, _ => some status

end RuntimeStatus

/-- The key and value of a map entry. -/
def Wire.mergeEntry (entry : String × String) (field : Wire.Field) :
    Option (String × String) :=
  match field.number, field.payload with
  | 1, .bytes content => (Wire.text? content).map (fun key => (key, entry.2))
  | 1, _ => none
  | 2, .bytes content =>
      (Wire.text? content).map (fun value => (entry.1, value))
  | 2, _ => none
  | _, _ => some entry

namespace StatusResponse

/-- The answer after one more field. -/
def merge (response : StatusResponse) (field : Wire.Field) :
    Option StatusResponse :=
  match field.number, field.payload with
  | 1, .bytes content => do
      let fields ← Wire.fields? [] 1 content
      let status ← fields.foldlM RuntimeStatus.merge
        (response.status.getD {})
      some { response with status := some status }
  | 1, _ => none
  | 2, .bytes content => do
      let fields ← Wire.fields? [] 1 content
      let entry ← fields.foldlM Wire.mergeEntry ("", "")
      some { response with info := response.info.put entry.1 entry.2 }
  | 2, _ => none
  | _, _ => some response

/-- Reads an answer. -/
def decode? (bytes : Wire.Bytes) : Option StatusResponse := do
  (← Wire.fields? [2] 0 bytes).foldlM merge {}

end StatusResponse

end SwapWarden
