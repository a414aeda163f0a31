import SwapWarden.ContainerRuntime.State
import SwapWarden.Text.Quoted

/-!
# What can go wrong

A fault is the cause for which an operation gave no result.  No fault stops a
control loop: the loop reports it and goes on with its next turn.  Every cause
has one text, and some causes say that the thing looked for is gone.
-/

namespace SwapWarden

/-- Why a file could not be used.  A name on the way may be too long, the path
may hold the character that ends paths, the bytes may be no text, and any other
cause is reported with a text of its own. -/
inductive FileFault where
  | notFound
  | notADirectory
  | isADirectory
  | nameTooLong
  | nulInPath
  | notText
  | reported (missing : Bool) (text : String)
  deriving DecidableEq, Repr, Inhabited

/-- A refusal as the cluster's interface words it. -/
structure ErrorResponse where
  status : String
  message : String
  reason : String
  code : Nat
  deriving DecidableEq, Repr, Inhabited

/-- Why a call to the cluster gave no result.  The names in the call may make no
address or too long a one, and the answer may not be of the expected form. -/
inductive ClusterFault where
  | refused (response : ErrorResponse)
  | badAddress
  | longAddress
  | unreadableAnswer
  deriving DecidableEq, Repr, Inhabited

/-- Why no cgroup path could be told. -/
inductive CgroupPathFault where
  | noUid
  | unsupportedRuntime (scheme : String)
  | invalidContainerId (raw : String)
  | noUnifiedEntry (file : String)
  | reported (text : String)
  deriving DecidableEq, Repr, Inhabited

/-- Why the container runtime gave no process. -/
inductive RuntimeFault where
  | noVerboseInfo
  | malformedInfo
  | noPid
  | noStatus
  | notRunning (container : String) (state : ContainerState)
  | unreachable
  | refused (code : StatusCode) (message : String)
  | unreadableAnswer
  | reported (text : String)
  deriving DecidableEq, Repr, Inhabited

/-- Why an operation gave no result. -/
inductive Fault where
  | insufficientData
  | notFound (kind name : String)
  | noMetrics (pod : String)
  | cluster (cause : ClusterFault)
  | file (path : String) (cause : FileFault)
  | cgroupPath (cause : CgroupPathFault)
  | runtime (cause : RuntimeFault)
  | quantity (raw : String)
  | noSwapCounters
  | noMeminfoField (field : String)
  | noMemory
  | unreadableCount (path : String)
  | unknownSource (name : String)
  | reported (text : String)
  deriving DecidableEq, Repr, Inhabited

namespace FileFault

def message : FileFault → String
  | notFound => "No such file or directory (os error 2)"
  | notADirectory => "Not a directory (os error 20)"
  | isADirectory => "Is a directory (os error 21)"
  | nameTooLong => "File name too long (os error 36)"
  | nulInPath => "file name contained an unexpected NUL byte"
  | notText => "stream did not contain valid UTF-8"
  | reported _ text => text

/-- Whether the file is missing. -/
def isNotFound : FileFault → Bool
  | notFound => true
  | reported missing _ => missing
  | _ => false

end FileFault

namespace ErrorResponse

/-- All fields of a refusal, texts quoted. -/
def details (response : ErrorResponse) : String :=
  "ErrorResponse \x7b status: " ++ Text.quoted response.status ++
    ", message: " ++ Text.quoted response.message ++
    ", reason: " ++ Text.quoted response.reason ++
    ", code: " ++ toString response.code ++ " \x7d"

end ErrorResponse

namespace ClusterFault

def message : ClusterFault → String
  | refused response =>
      "ApiError: " ++ response.message ++ ": " ++ response.reason ++
        " (" ++ response.details ++ ")"
  | badAddress =>
      "Failed to build request: failed to build request: " ++
        "invalid uri character"
  | longAddress =>
      "Failed to build request: failed to build request: uri too long"
  | unreadableAnswer => "Error deserializing response"

/-- Whether the object is gone; the code decides, not the reason. -/
def isNotFound : ClusterFault → Bool
  | refused response => response.code == 404
  | _ => false

end ClusterFault

namespace CgroupPathFault

def message : CgroupPathFault → String
  | noUid => "pod UID is empty"
  | unsupportedRuntime scheme =>
      "unsupported container runtime " ++ Text.quoted scheme
  | invalidContainerId raw => "invalid container id " ++ Text.quoted raw
  | noUnifiedEntry file => "no unified hierarchy entry in " ++ file
  | reported text => text

end CgroupPathFault

namespace RuntimeFault

def message : RuntimeFault → String
  | noVerboseInfo => "container status has no verbose info"
  | malformedInfo => "malformed container info"
  | noPid => "pid not found in container info"
  | noStatus => "container status missing"
  | notRunning container state =>
      "container " ++ container ++ " is not running (" ++ state.name ++ ")"
  | unreachable => "transport error"
  | refused code message =>
      "status: " ++ code.name ++ ", message: " ++ Text.quoted message ++
        ", details: [], metadata: MetadataMap \x7b headers: \x7b\x7d \x7d"
  | unreadableAnswer => "status: Internal"
  | reported text => text

end RuntimeFault

namespace Fault

/-- The text of a fault. -/
def message : Fault → String
  | insufficientData => "not enough stats to detect shortage"
  | notFound kind name => kind ++ " " ++ name ++ " not found"
  | noMetrics pod => "no metrics available for pod " ++ pod
  | cluster cause => "kubernetes API error: " ++ cause.message
  | file path cause => "failed to access " ++ path ++ ": " ++ cause.message
  | cgroupPath cause => "could not resolve cgroup path: " ++ cause.message
  | runtime cause => "container runtime call failed: " ++ cause.message
  | quantity raw => "invalid quantity " ++ Text.quoted raw
  | noSwapCounters => "vmstat is missing pswpin/pswpout"
  | noMeminfoField field => "meminfo is missing " ++ field
  | noMemory => "meminfo reports zero total memory"
  | unreadableCount path => "failed to parse " ++ path
  | unknownSource name => "unknown metrics source " ++ Text.quoted name
  | reported text => text

/-- Whether the thing looked for does not exist any more. -/
def isNotFound : Fault → Bool
  | notFound _ _ => true
  | cluster cause => cause.isNotFound
  | file _ cause => cause.isNotFound
  | _ => false

end Fault

end SwapWarden
