import Tugtainer.Executor.Steps

/-!
# Executing an update plan

`executeUpdatePlan` makes three passes over the containers of a plan: it prepares
those to update, stops all of them against the order of the plan, and updates or
starts them in that order. Its state holds the item of every container by name;
the list `items` and the dictionary `items_map` of the source are one here, as
the containers of a host have distinct names.
-/

namespace Tugtainer

open Python Interaction

/-- The items of a plan by container name, in the order of the host's list. -/
abbrev Items := Dict String UpdatePlanItem

/-- What the executor reads besides its arguments: `ALLOW_HOOKS` and
`REGISTRY_REQ_DELAY`. -/
structure ExecEnv where
  allowHooks : Bool
  registryReqDelay : Int
  deriving DecidableEq, Repr

def initialItems (plan : UpdatePlan) (containers : List ContainerInspectResult) : Items :=
  (containers.filter fun c => c.name ∈ plan.toUpdate ∨ c.name ∈ plan.affected).map
    fun c => (c.name, .ofContainer c)

def onItem (name : String) (x : ItemM Unit) : AgentM Items Unit := do
  let items ← get
  match items.get? name with
  | none => pure ()
  | some item => Act.zoom (fun _ => item) (fun item' items => items.set name item') x

def loadHooksMap (env : ExecEnv) (host : HostsModel) (names : List String) :
    AgentM Items HooksMap :=
  if env.allowHooks then
    Act.performE (I := Agent) (.getHooksMap host.id names) Reply.read
  else pure []

def preparePass (env : ExecEnv) (plan : UpdatePlan) (dockerVersion : Option DockerVersion)
    (names : List String) : AgentM Items Unit :=
  (names.filter (· ∈ plan.toUpdate)).forM fun name =>
    onItem name (prepareItem dockerVersion env.registryReqDelay)

/-- Stopping containers, from most dependent to most dependable. -/
def stopPass (plan : UpdatePlan) (hooksMap : HooksMap) : AgentM Items Unit :=
  plan.order.reverse.forM fun name =>
    onItem name (stopItem name hooksMap (name ∈ plan.toUpdate))

/-- Updating and/or starting containers, from most dependable to most
dependent. -/
def updatePass (host : HostsModel) (plan : UpdatePlan) (hooksMap : HooksMap) :
    AgentM Items Unit :=
  plan.order.forM fun name =>
    onItem name (updateOrStartItem hooksMap host.containerHcTimeout
      (name ∈ plan.toUpdate) (name ∈ plan.affected))

def UpdatePlanItem.actionResult (item : UpdatePlanItem) : ContainerActionResult where
  container := item.container
  result := item.result
  localImage := item.localImage
  remoteImage := item.remoteImage

def planResult (host : HostsModel) (items : Items) : UpdatePlanResult where
  hostId := host.id
  hostName := host.name
  items := items.map fun item => item.2.actionResult

def executePasses (env : ExecEnv) (host : HostsModel) (plan : UpdatePlan)
    (dockerVersion : Option DockerVersion) (names : List String) : AgentM Items Unit := do
  let hooksMap ← loadHooksMap env host names
  preparePass env plan dockerVersion names
  Act.perform (I := Agent) (.progressUpdate (getPlanCacheKey host plan) .updating none)
  stopPass plan hooksMap
  updatePass host plan hooksMap

def finish (host : HostsModel) (plan : UpdatePlan) : AgentM Items UpdatePlanResult := do
  let items ← get
  let result := planResult host items
  Act.performE (I := Agent) (.updateContainersData result) Reply.read
  Act.perform (I := Agent) (.progressUpdate (getPlanCacheKey host plan) .done (some result))
  pure result

/-- `execute_update_plan`: nothing is done while the plan is being executed
already, nor for a plan that updates nothing. -/
def executeUpdatePlan (env : ExecEnv) (host : HostsModel) (containers : HostContainers)
    (plan : UpdatePlan) (dockerVersion : Option DockerVersion) :
    AgentM Items (Option UpdatePlanResult) := do
  let status : Option ActionStatus ←
    Act.perform (I := Agent) (.progressGet (getPlanCacheKey host plan))
  if !isAllowedStartCache status then pure none
  else if plan.toUpdate = ∅ then pure none
  else
    Act.perform (I := Agent) (.progressSet (getPlanCacheKey host plan) .preparing)
    set (initialItems plan containers.list)
    let items ← get
    executePasses env host plan dockerVersion (items.map Prod.fst)
    let result ← finish host plan
    pure (some result)

end Tugtainer
