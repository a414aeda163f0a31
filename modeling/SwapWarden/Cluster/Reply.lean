import SwapWarden.Fault
import SwapWarden.Node.Manifest
import SwapWarden.Pod.Manifest
import SwapWarden.Text.Json.Plain
import SwapWarden.Text.Json.Reader
import SwapWarden.Text.Json.Record

/-!
# Replies of the cluster's interface

A reply with a status of the four or five hundreds is a refusal: its body says
why, and where it does not, the status does.  Any other reply must have a body
of the expected form.
-/

namespace SwapWarden

open Text (Json)

/-- A reply: a status and a body. -/
structure Reply where
  status : Nat
  body : String
  deriving DecidableEq, Repr, Inhabited

/-- The phrase that belongs to a status. -/
def statusPhrase : Nat → String
  | 400 => "Bad Request"
  | 401 => "Unauthorized"
  | 402 => "Payment Required"
  | 403 => "Forbidden"
  | 404 => "Not Found"
  | 405 => "Method Not Allowed"
  | 406 => "Not Acceptable"
  | 407 => "Proxy Authentication Required"
  | 408 => "Request Timeout"
  | 409 => "Conflict"
  | 410 => "Gone"
  | 411 => "Length Required"
  | 412 => "Precondition Failed"
  | 413 => "Payload Too Large"
  | 414 => "URI Too Long"
  | 415 => "Unsupported Media Type"
  | 416 => "Range Not Satisfiable"
  | 417 => "Expectation Failed"
  | 418 => "I'm a teapot"
  | 421 => "Misdirected Request"
  | 422 => "Unprocessable Entity"
  | 423 => "Locked"
  | 424 => "Failed Dependency"
  | 426 => "Upgrade Required"
  | 428 => "Precondition Required"
  | 429 => "Too Many Requests"
  | 431 => "Request Header Fields Too Large"
  | 451 => "Unavailable For Legal Reasons"
  | 500 => "Internal Server Error"
  | 501 => "Not Implemented"
  | 502 => "Bad Gateway"
  | 503 => "Service Unavailable"
  | 504 => "Gateway Timeout"
  | 505 => "HTTP Version Not Supported"
  | 506 => "Variant Also Negotiates"
  | 507 => "Insufficient Storage"
  | 508 => "Loop Detected"
  | 510 => "Not Extended"
  | 511 => "Network Authentication Required"
  | _ => "<unknown status code>"

namespace ErrorResponse

/-- A code of sixteen bits. -/
def code? : Json → Option Nat := Json.naturalUpTo? (UInt16.size - 1)

/-- Reads a refusal: a record with a status and a code at least. -/
def ofJson? (value : Json) : Option ErrorResponse := do
  match ← Json.record? ["status", "message", "reason", "code"] value with
  | [some status, message, reason, some code] =>
      some {
        status := ← status.asText?
        message := ← Json.readOr? "" Json.asText? message
        reason := ← Json.readOr? "" Json.asText? reason
        code := ← code? code }
  | _ => none

end ErrorResponse

namespace Reply

/-- Whether the reply refuses the call. -/
def isRefusal (reply : Reply) : Bool :=
  400 ≤ reply.status && reply.status < 600

/-- The refusal that a reply words, or one made of its status and body. -/
def refusal (reply : Reply) : ErrorResponse :=
  match (Json.ofText? reply.body).bind ErrorResponse.ofJson? with
  | some response => response
  | none =>
      { status := toString reply.status ++ " " ++ statusPhrase reply.status
        message := Text.quoted reply.body
        reason := "Failed to parse error data"
        code := reply.status }

/-- The document of a reply that is no refusal, as one reading of it. -/
def read {α : Type} (reply : Reply) (ofJson? : Json → Option α) :
    Except Fault α :=
  if reply.isRefusal then
    .error (.cluster (.refused reply.refusal))
  else
    match (Json.ofText? reply.body).bind ofJson? with
    | some value => .ok value
    | none => .error (.cluster .unreadableAnswer)

end Reply

/-- Reads the pods of a list: a record of what the list says of itself and of
its items, both of which must be there.  The list and the list of its items are
two containers around each pod. -/
def podList? (value : Json) : Option (List Pod) := do
  match ← Json.record? ["metadata", "items"] value with
  | [some metadata, some items] =>
      if Metadata.listShape.fits (Json.greatestDepth - 1) metadata then
        let pod? := Pod.ofManifestWithin? (Json.greatestDepth - 2)
        some ((← Json.nullable? (Json.listOf? pod?) items).getD [])
      else
        none
  | _ => none

namespace StatusDocument

/-- A word for success or failure, alone or as the name of an empty member. -/
def outcome? : Json → Option String
  | .string (some word) =>
      if word == "Success" || word == "Failure" then some word else none
  | .object [(some word, .null)] =>
      if word == "Success" || word == "Failure" then some word else none
  | _ => none

/-- Whether a value is a record of fields that may all be left out. -/
def isRecord (fields : List (String × (Json → Bool))) (value : Json) : Bool :=
  match Json.record? (fields.map Prod.fst) value with
  | some values =>
      (fields.zip values).all (fun entry => entry.2.all entry.1.2)
  | none => false

/-- Whether a value is a text. -/
def isText (value : Json) : Bool := value.asText?.isSome

/-- Whether a value is the cause of a failure. -/
def isCause : Json → Bool :=
  isRecord [("reason", isText), ("message", isText), ("field", isText)]

/-- Whether a value says more about a failure. -/
def isDetails : Json → Bool :=
  isRecord [("name", isText), ("group", isText), ("kind", isText),
    ("uid", isText),
    ("causes", fun value => (value.asArray?).any (·.all isCause)),
    ("retryAfterSeconds",
      fun value => (Json.naturalUpTo? (UInt32.size - 1) value).isSome)]

/-- Whether a value tells how a call went. -/
def isStatus : Json → Bool :=
  isRecord [
    ("status", fun value => (Json.nullable? outcome? value).isSome),
    ("code", fun value => (ErrorResponse.code? value).isSome),
    ("message", isText), ("reason", isText),
    ("details", fun value => Json.Shape.isMissing value || isDetails value)]

end StatusDocument

/-- Reads the answer to a deletion, which is held whole at first: the pod as it
was, or how the call went. -/
def deletion? (value : Json) : Option Unit :=
  if !value.isPlain Json.greatestDepth then none
  else
    match (value.members "kind").getLast? with
    | some (.string (some "Status")) =>
        if StatusDocument.isStatus value then some () else none
    | _ => (Pod.ofManifest? value).map (fun _ => ())

end SwapWarden
