import SwapWarden.ContainerRuntime.Message
import SwapWarden.Fault
import SwapWarden.Text.Json.Reader
import SwapWarden.Text.Json.Record

/-!
# The process of a container

The verbose information of a container is a JSON document that names its first
process.  The process counts only while the runtime reports the container as
running.
-/

namespace SwapWarden

open Text (Json)

/-- The process number that a document names, zero when it names none.  The
document is a record of that number. -/
def documentPid? (document : Json) : Option Nat := do
  match ← Json.record? ["pid"] document with
  | [pid] => Json.readOr? 0 (Json.naturalUpTo? (UInt32.size - 1)) pid
  | _ => none

namespace StatusResponse

/-- The process named in a map of verbose information. -/
def infoPid (info : Table String String) : Except Fault Nat :=
  match info.get? "info" with
  | none => .error (.runtime .noVerboseInfo)
  | some document =>
      match (Json.ofText? document).bind documentPid? with
      | none => .error (.runtime .malformedInfo)
      | some pid =>
          if pid = 0 then .error (.runtime .noPid) else .ok pid

/-- The process of a container that runs. -/
def runningPid (response : StatusResponse) : Except Fault Nat :=
  match response.status with
  | none => .error (.runtime .noStatus)
  | some status =>
      match ContainerState.ofNumber status.state with
      | .running => infoPid response.info
      | state => .error (.runtime (.notRunning status.id state))

end StatusResponse

end SwapWarden
