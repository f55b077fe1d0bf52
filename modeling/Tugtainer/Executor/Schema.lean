import Tugtainer.Container.Config
import Tugtainer.Plan.Build

/-!
# The data of the executor

`UpdatePlanItem` is the state that the executor keeps for one container of the
plan, and `UpdatePlanResult` what it reports in the end.
-/

namespace Tugtainer

open Python

inductive ActionStatus where
  | preparing | checking | updating | pruning | done | error
  deriving DecidableEq, Repr

def isAllowedStartCache (status : Option ActionStatus) : Bool :=
  match status with
  | none | some .done | some .error => true
  | _ => false

inductive CheckResult where
  | notAvailable | available | availableNotified | updated | rolledBack | failed
  deriving DecidableEq, Repr

/-- The state of one container of the plan. -/
structure UpdatePlanItem where
  container : ContainerInspectResult
  imageSpec : Option String
  wasRunning : Bool
  config : Option CreateContainerRequestBodySchema := none
  commands : List (List String) := []
  localImage : Option ImageInspectResult := none
  remoteImage : Option ImageInspectResult := none
  result : Option CheckResult := none
  errors : List Exn := []
  deriving DecidableEq

/-- The name of the item is that of the container it holds at the time. -/
def UpdatePlanItem.name (item : UpdatePlanItem) : String := item.container.name

/-- The state of a container when the executor starts. -/
def UpdatePlanItem.ofContainer (c : ContainerInspectResult) : UpdatePlanItem where
  container := c
  imageSpec := getContainerImageSpec c
  wasRunning := isRunningContainer c

structure ContainerActionResult where
  container : ContainerInspectResult
  result : Option CheckResult := none
  imageSpec : Option String := none
  localImage : Option ImageInspectResult := none
  remoteImage : Option ImageInspectResult := none
  localDigests : List String := []
  remoteDigests : List String := []
  deriving DecidableEq

structure UpdatePlanResult where
  hostId : Int
  hostName : String
  items : List ContainerActionResult
  deriving DecidableEq

/-- The key of a plan in the progress cache: the host's and the sorted names to
update. -/
structure PlanCacheKey where
  hostId : Int
  hostName : String
  toUpdate : List String
  deriving DecidableEq, Repr

def getPlanCacheKey (host : HostsModel) (plan : UpdatePlan) : PlanCacheKey where
  hostId := host.id
  hostName := host.name
  toUpdate := sortedList plan.toUpdate

/-- The containers of a host: Docker gives no two of them the same name. -/
structure HostContainers where
  list : List ContainerInspectResult
  nodup : (list.map ContainerInspectResult.name).Nodup

end Tugtainer
