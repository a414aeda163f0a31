/-!
# States and answers of a container runtime

The state a runtime reports for a container, and the codes with which it
refuses a call.
-/

namespace SwapWarden

/-- What a container runtime reports a container to be doing. -/
inductive ContainerState where
  | created
  | running
  | exited
  | unknown
  deriving DecidableEq, Repr, Inhabited

namespace ContainerState

/-- The state's name in the runtime's interface. -/
def name : ContainerState → String
  | created => "ContainerCreated"
  | running => "ContainerRunning"
  | exited => "ContainerExited"
  | unknown => "ContainerUnknown"

/-- The state of a wire number; numbers the interface does not name count as
the first state. -/
def ofNumber : Int → ContainerState
  | 1 => running
  | 2 => exited
  | 3 => unknown
  | _ => created

end ContainerState

/-- Why a remote call was refused. -/
inductive StatusCode where
  | ok
  | cancelled
  | unknown
  | invalidArgument
  | deadlineExceeded
  | notFound
  | alreadyExists
  | permissionDenied
  | resourceExhausted
  | failedPrecondition
  | aborted
  | outOfRange
  | unimplemented
  | internal
  | unavailable
  | dataLoss
  | unauthenticated
  deriving DecidableEq, Repr, Inhabited

namespace StatusCode

/-- The code's name. -/
def name : StatusCode → String
  | ok => "Ok"
  | cancelled => "Cancelled"
  | unknown => "Unknown"
  | invalidArgument => "InvalidArgument"
  | deadlineExceeded => "DeadlineExceeded"
  | notFound => "NotFound"
  | alreadyExists => "AlreadyExists"
  | permissionDenied => "PermissionDenied"
  | resourceExhausted => "ResourceExhausted"
  | failedPrecondition => "FailedPrecondition"
  | aborted => "Aborted"
  | outOfRange => "OutOfRange"
  | unimplemented => "Unimplemented"
  | internal => "Internal"
  | unavailable => "Unavailable"
  | dataLoss => "DataLoss"
  | unauthenticated => "Unauthenticated"

/-- The code of a wire number; numbers without a code are unknown. -/
def ofNumber : Int → StatusCode
  | 0 => ok
  | 1 => cancelled
  | 3 => invalidArgument
  | 4 => deadlineExceeded
  | 5 => notFound
  | 6 => alreadyExists
  | 7 => permissionDenied
  | 8 => resourceExhausted
  | 9 => failedPrecondition
  | 10 => aborted
  | 11 => outOfRange
  | 12 => unimplemented
  | 13 => internal
  | 14 => unavailable
  | 15 => dataLoss
  | 16 => unauthenticated
  | _ => unknown

end StatusCode

end SwapWarden
