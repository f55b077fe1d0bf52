import Tugtainer.Docker.Inspect

/-!
# Reading an inspected container

The small predicates and accessors of `container_util`, and the labels that the
planner reads.
-/

namespace Tugtainer

open Python

def tugtainerDependsOnLabel : String := "dev.quenary.tugtainer.depends_on"

def tugtainerProtectedLabel : String := "dev.quenary.tugtainer.protected"

def dockerComposeDependsOnLabel : String := "com.docker.compose.depends_on"

def dockerComposeServiceLabel : String := "com.docker.compose.service"

def dockerComposeProjectLabel : String := "com.docker.compose.project"

def dockerComposeConfigFilesLabel : String := "com.docker.compose.project.config_files"

/-- `container.config.labels`, and `{}` where there are none. -/
def containerLabels (container : ContainerInspectResult) : Dict String String :=
  (container.config.bind ContainerConfig.labels).getD []

/-- Whether the container is labeled with
`dev.quenary.tugtainer.protected=true`. -/
def isProtectedContainer (container : ContainerInspectResult) : Bool :=
  lower (((containerLabels container).get? tugtainerProtectedLabel).getD "false") == "true"

def isRunningContainer (container : ContainerInspectResult) : Bool :=
  container.state.bind ContainerState.status == some "running"

/-- The container's image spec, e.g. `quenary/tugtainer:latest`. -/
def getContainerImageSpec (c : ContainerInspectResult) : Option String :=
  c.config.bind ContainerConfig.image

def getServiceName (container : ContainerInspectResult) : Option String :=
  (containerLabels container).get? dockerComposeServiceLabel

def getContainerHealthStatusStr (c : ContainerInspectResult) : String :=
  match (c.state.bind ContainerState.health).bind ContainerHealth.status with
  | none => "unknown"
  | some status => if status = "" then "unknown" else status

/-- `bool(s)` of an optional string. -/
def truthy (s : Option String) : Bool :=
  s.getD "" != ""

/-- `a or b` of optional strings. -/
def orElse (a b : Option String) : Option String :=
  if truthy a then a else b

/-- `a or b` of optional lists, where both `None` and `[]` are false. -/
def orList {α : Type} (a : Option (List α)) (b : List α) : List α :=
  match a with
  | none | some [] => b
  | some l => l

end Tugtainer
