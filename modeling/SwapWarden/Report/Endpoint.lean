import SwapWarden.Report.Health
import SwapWarden.Report.Metrics
import SwapWarden.Text.Blank
import SwapWarden.Text.Json.Basic

/-!
# The reporting endpoint

Three resources can be read: the health of the components, the readiness of
the agent, and the counters.  An unhealthy or unready agent answers that its
service is unavailable.  A request names its resource by a path or by a full
address.
-/

namespace SwapWarden

open Text (Json)

/-- What an answer carries. -/
inductive ResponseBody where
  | nothing
  | document (value : Json)
  | text (content : String)
  deriving Inhabited

/-- An answer of the endpoint. -/
structure Response where
  status : Nat
  contentType : Option String := none
  body : ResponseBody := .nothing
  deriving Inhabited

namespace Response

def ofDocument (status : Nat) (value : Json) : Response :=
  ⟨status, some "application/json", .document value⟩

def notFound : Response := { status := 404 }

def methodNotAllowed : Response := { status := 405 }

/-- The answer without its body. -/
def headOnly (response : Response) : Response :=
  { response with body := .nothing }

end Response

namespace Endpoint

/-- A component's report as a document. -/
def componentDocument (health : ComponentHealth) : Json :=
  .record ([("status", .text health.status.name)] ++
    match health.message with
    | some message => [("message", .text message)]
    | none => [])

/-- The health of all components. -/
def health (registry : HealthRegistry) : Response :=
  .ofDocument (if registry.status = .unhealthy then 503 else 200)
    (.record [("status", .text registry.status.name),
      ("components", .record (registry.sortedReports.map (fun report =>
        (report.1, componentDocument report.2))))])

/-- The readiness of the agent. -/
def readiness (registry : HealthRegistry) : Response :=
  let readiness := registry.readiness
  .ofDocument (if readiness.ready then 200 else 503)
    (.record ([("ready", .bool readiness.ready)] ++
      match readiness.reason with
      | some reason => [("reason", .text reason)]
      | none => []))

/-- The counters. -/
def metrics (metrics : Metrics) : Response :=
  ⟨200, some "text/plain; charset=utf-8", .text metrics.text⟩

/-- Whether a character may stand in the name of a scheme. -/
def isSchemeChar (char : Char) : Bool :=
  char.isAlphanum || char == '+' || char == '-' || char == '.'

/-- Whether a character ends a path. -/
def endsPath (char : Char) : Bool := char == '?' || char == '#'

/-- What follows the authority in a target such as `http://host/healthz`. -/
def afterAuthority? (target : List Char) : Option (List Char) :=
  (Text.afterPrefix? "://".toList (target.dropWhile isSchemeChar)).map
    (·.dropWhile (fun char => !(endsPath char || char == '/')))

/-- The characters of a target's path, without its query and fragment.  A
target with a scheme names its host before the path, and the path may be left
out there; any other target has a path only if it starts with `/`. -/
def pathChars (target : List Char) : List Char :=
  match target with
  | '/' :: _ => target.takeWhile (fun char => !endsPath char)
  | _ =>
      match afterAuthority? target with
      | some ('/' :: rest) =>
          '/' :: rest.takeWhile (fun char => !endsPath char)
      | some _ => ['/']
      | none => []

/-- The path of a target. -/
def path (target : String) : String :=
  String.ofList (pathChars target.toList)

/-- The resource at a path. -/
def resource? (registry : HealthRegistry) (counters : Metrics) :
    String → Option Response
  | "/healthz" => some (health registry)
  | "/readyz" => some (readiness registry)
  | "/metrics" => some (metrics counters)
  | _ => none

/-- Answers a request. -/
def respond (registry : HealthRegistry) (counters : Metrics)
    (method target : String) : Response :=
  match resource? registry counters (path target) with
  | none => .notFound
  | some response =>
      if method == "GET" then response
      else if method == "HEAD" then response.headOnly
      else .methodNotAllowed

end Endpoint

end SwapWarden
