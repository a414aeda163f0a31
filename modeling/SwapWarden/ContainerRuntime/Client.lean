import SwapWarden.ContainerRuntime.Pid

/-!
# Asking a container runtime

One call asks for the verbose status of a container.  It is answered by a
message, refused with a code, or not answered at all.
-/

namespace SwapWarden

/-- How a runtime answers a call, if anybody listens. -/
inductive RuntimeReply where
  | unreachable
  | message (content : Wire.Bytes)
  | refusal (code : StatusCode) (text : String)
  deriving Inhabited

namespace RuntimeReply

/-- The status that a reply tells.  A success without a message is a fault of
the runtime. -/
def status : RuntimeReply → Except Fault StatusResponse
  | unreachable => .error (.runtime .unreachable)
  | refusal .ok _ =>
      .error (.runtime (.refused .internal "Missing response message."))
  | refusal code text => .error (.runtime (.refused code text))
  | message content =>
      match StatusResponse.decode? content with
      | some response => .ok response
      | none => .error (.runtime .unreadableAnswer)

/-- The process that a reply tells. -/
def pid (reply : RuntimeReply) : Except Fault Nat := do
  (← reply.status).runningPid

end RuntimeReply

namespace StatusRequest

/-- Where the runtime takes requests for a status. -/
def path : String := "/runtime.v1.RuntimeService/ContainerStatus"

/-- The request that is made for a container. -/
def ofContainer (container : String) : StatusRequest := ⟨container, true⟩

end StatusRequest

end SwapWarden
