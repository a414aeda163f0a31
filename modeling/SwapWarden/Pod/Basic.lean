import SwapWarden.Table

/-!
# Pods

What the agent knows of a pod: who it is, what its containers ask for, and
what the cluster last reported of them.
-/

namespace SwapWarden

/-- Who an object is. -/
structure Metadata where
  namespaceName : Option String := none
  name : Option String := none
  generateName : Option String := none
  uid : Option String := none
  resourceVersion : Option String := none
  annotations : Option (Table String String) := none
  labels : Option (Table String String) := none
  finalizers : Option (List String) := none
  deriving Inhabited

namespace Metadata

/-- The name, or the stem from which one was to be generated. -/
def displayName (metadata : Metadata) : String :=
  (metadata.name <|> metadata.generateName).getD ""

/-- The namespace; the empty one when none is given. -/
def namespaceOrEmpty (metadata : Metadata) : String :=
  metadata.namespaceName.getD ""

end Metadata

/-- What a container asks for and is limited to, by resource. -/
structure Resources where
  requests : Option (Table String String) := none
  limits : Option (Table String String) := none
  deriving Inhabited

/-- A container as declared. -/
structure Container where
  name : String := ""
  resources : Option Resources := none
  deriving Inhabited

namespace Container

/-- The declared request for a resource. -/
def request? (container : Container) (resource : String) : Option String := do
  let resources ← container.resources
  let requests ← resources.requests
  requests.get? resource

/-- The declared limit on a resource. -/
def limit? (container : Container) (resource : String) : Option String := do
  let resources ← container.resources
  let limits ← resources.limits
  limits.get? resource

end Container

/-- What a container is doing.  It may wait for a reason and have terminated
with an exit code; each part is present when it was reported. -/
structure ReportedState where
  running : Bool := false
  waiting : Option (Option String) := none
  terminated : Option Int := none
  deriving Inhabited

/-- What the cluster last reported of a container. -/
structure ContainerStatus where
  name : String := ""
  ready : Bool := false
  restartCount : Int := 0
  image : String := ""
  imageId : String := ""
  containerId : Option String := none
  state : Option ReportedState := none
  deriving Inhabited

namespace ContainerStatus

/-- Whether the container runs. -/
def isRunning (status : ContainerStatus) : Bool :=
  match status.state with
  | some state => state.running
  | none => false

/-- Whether the container has terminated. -/
def isTerminated (status : ContainerStatus) : Bool :=
  match status.state with
  | some state => state.terminated.isSome
  | none => false

end ContainerStatus

/-- What a pod is declared to be. -/
structure PodSpec where
  containers : List Container := []
  initContainers : Option (List Container) := none
  priority : Option Int := none
  overhead : Option (Table String String) := none
  nodeName : Option String := none
  deriving Inhabited

/-- What the cluster last reported of a pod. -/
structure PodStatus where
  phase : Option String := none
  qosClass : Option String := none
  containerStatuses : Option (List ContainerStatus) := none
  initContainerStatuses : Option (List ContainerStatus) := none
  deriving Inhabited

/-- A pod. -/
structure Pod where
  metadata : Metadata := {}
  spec : Option PodSpec := none
  status : Option PodStatus := none
  deriving Inhabited

namespace Pod

/-- The containers that make up the pod once it has started. -/
def appContainers (pod : Pod) : List Container :=
  match pod.spec with
  | some spec => spec.containers
  | none => []

/-- The containers that run first. -/
def initContainers (pod : Pod) : List Container :=
  match pod.spec with
  | some spec => spec.initContainers.getD []
  | none => []

/-- App containers, then init containers. -/
def allContainers (pod : Pod) : List Container :=
  pod.appContainers ++ pod.initContainers

/-- The statuses of app containers, then those of init containers. -/
def allStatuses (pod : Pod) : List ContainerStatus :=
  match pod.status with
  | some status =>
      status.containerStatuses.getD [] ++
        status.initContainerStatuses.getD []
  | none => []

/-- The first status for a container name. -/
def containerStatus? (pod : Pod) (name : String) : Option ContainerStatus :=
  pod.allStatuses.find? (fun status => status.name == name)

/-- The scheduling priority; zero when none is given. -/
def priority (pod : Pod) : Int :=
  match pod.spec with
  | some spec => spec.priority.getD 0
  | none => 0

/-- Whether the pod is bound to a node. -/
def isOnNode (pod : Pod) (node : String) : Bool :=
  match pod.spec with
  | some spec => spec.nodeName == some node
  | none => false

/-- The finalizers that hold up the pod's deletion. -/
def finalizers (pod : Pod) : List String :=
  pod.metadata.finalizers.getD []

/-- The pod without finalizers. -/
def withoutFinalizers (pod : Pod) : Pod :=
  { pod with metadata := { pod.metadata with finalizers := none } }

/-- A pod is alive unless it has finished or all its reported app containers,
at least one, have terminated. -/
def isAlive (pod : Pod) : Bool :=
  match pod.status with
  | none => true
  | some status =>
      if status.phase == some "Failed" || status.phase == some "Succeeded" then
        false
      else
        let statuses := status.containerStatuses.getD []
        statuses.isEmpty || !statuses.all ContainerStatus.isTerminated

end Pod

end SwapWarden
