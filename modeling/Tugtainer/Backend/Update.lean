import Tugtainer.Backend.Check

/-!
# Updating containers

`execute` is the executor of a plan as a part of the backend: its requests go to the
agent of the host, its progress to the cache, and what it reports is written to the
table by `updateContainersDataAfterExecution`. `updateHostContainers` plans and executes
the update of a host, `updateAllContainers` those of all enabled hosts and
`updateContainer` that of a single container. `patchContainerData` is how a user changes
a row.
-/

namespace Tugtainer

open Python Interaction

variable {σ : Type}

/-! ## The table after an execution -/

/-- The columns of the row of an item, where it was updated. The executor reports no
digests, so an empty list is saved. -/
def updatedData (now : Int) (item : ContainerActionResult) : ContainerData :=
  if item.result = some .updated then
    { updateAvailable := some false, updatedAt := some now,
      localDigests := some item.remoteDigests }
  else {}

/-- The changes to the loaded rows, by container name. -/
def updatedChanges (now : Int) (items : List ContainerActionResult)
    (rows : List ContainersModel) : List (String × ContainerData) :=
  let containersMap : Dict String ContainersModel :=
    rows.foldl (fun map row => map.set row.name row) []
  items.filterMap fun item =>
    (containersMap.get? item.container.name).map fun row =>
      (item.container.name, (updatedData now item).changes row)

def updateContainersDataAfterExecution (result : UpdatePlanResult) : BackendM σ Unit := do
  let items := result.items.filter fun item => item.result.isSome
  if items = [] then pure ()
  else
    let updatedAt ← now
    withSession do
      let rows : List ContainersModel ← Act.performE (I := Backend)
        (.selectContainers result.hostId (items.map fun item => item.container.name)) Reply.read
      Act.performE (I := Backend) (.commit result.hostId (updatedChanges updatedAt items rows))
        Reply.read

/-! ## The executor in the backend -/

/-- The outcome of an awaited function of the backend. -/
def replyOf {α : Type} (x : BackendM Unit α) : Prog Backend (Reply α) :=
  (x ()).bind fun
    | (.ok a, _) => .ret (.ok a)
    | (.error _, _) => .ret (.raised none)

/-- How the backend carries out the operations of the executor. -/
def carryOut (host : HostsModel) : (op : Agent.Op) → Prog Backend (Agent.Ans op)
  | .agent site request => .call (I := Backend) (.agent host.id (some site) request) .ret
  | .progressGet key =>
      .call (I := Backend) (.cacheGet (.plan key)) fun entry =>
        .ret (Option.map Progress.status entry)
  | .progressSet key status => .call (I := Backend) (.cacheSet (.plan key) status) .ret
  | .progressUpdate key status result =>
      .call (I := Backend) (.cacheUpdate (.plan key) status (result.map .plan)) .ret
  | .getHooksMap hostId names => .call (I := Backend) (.getHooksMap hostId names) .ret
  | .updateContainersData result => replyOf (updateContainersDataAfterExecution result)
  | .sleep seconds => .call (I := Backend) (.sleep seconds) .ret
  | .sleepAbout seconds => .call (I := Backend) (.sleepAbout seconds) .ret
  | .log line => .call (I := Backend) (.log (.executor line)) .ret

/-- What the backend is configured with: `ALLOW_HOOKS`, the order in which the planner
iterates sets, and a bound on the turns of its search. -/
structure BackendEnv where
  allowHooks : Bool
  ord : SetOrder PlanSite String
  planFuel : ℕ

/-- `execute_update_plan`. -/
def execute (env : BackendEnv) (host : HostsModel) (containers : HostContainers)
    (plan : UpdatePlan) (dockerVersion : Option DockerVersion) :
    BackendM σ (Option UpdatePlanResult) := do
  Act.perform (I := Backend) (.log (.plan host plan))
  let settings ← getSettings
  Act.interp (carryOut host)
    (executeUpdatePlan ⟨env.allowHooks, settings.registryReqDelay⟩ host containers plan
      dockerVersion) []

/-! ## Planning and updating -/

/-- `build_update_plan`. A search that does not end leaves the caller stuck. -/
def buildPlan (env : BackendEnv) (host : HostsModel) (containers : HostContainers)
    (manualFor : List ContainerInspectResult) : BackendM σ UpdatePlan := do
  let settings ← getSettings
  let rows ← getHostContainers host.id
  let planEnv (now : Int) : PlanEnv :=
    { updateOnlyRunning := settings.updateOnlyRunning,
      delayUpdateFor := settings.delayUpdateFor, now := now, rows := rows }
  -- the clock is read by a scheduled run only
  let now ← if manualFor.filter (isEligible (planEnv 0)) = [] then now else pure 0
  match buildUpdatePlan env.ord (planEnv now) host containers.list manualFor env.planFuel with
  | some plan => pure plan
  | none => do
      let never : Empty ← Act.perform (I := Backend) .stuck
      nomatch never

def dockerVersionOf (hostId : Int) : BackendM σ (Option DockerVersion) :=
  tryCatch
    (do
      let version : DockerVersion ← Act.performE (I := Backend) (.version hostId) Reply.read
      pure (some version))
    fun _ => pure none

/-- Prune the images of a host, where that is set; a failure is only logged. -/
def pruneImages (host : HostsModel) : BackendM HostActionResult Unit :=
  Act.whenA host.prune do
    cacheUpdate (getHostCacheKey host) .pruning
    tryCatch
      (do
        let out : String ←
          Act.performE (I := Backend) (.imagePrune host.id host.pruneAll) Reply.read
        modify fun result => { result with pruneResult := some out })
      fun _ => pure ()

def updateContainersOfHost (env : BackendEnv) (host : HostsModel) (manual : Bool) :
    BackendM HostActionResult HostActionResult := do
  cacheSet (getHostCacheKey host) .preparing
  let dockerVersion ← dockerVersionOf host.id
  let containers : HostContainers ←
    Act.performE (I := Backend) (.containerList host.id) Reply.read
  let plan ← buildPlan env host containers (if manual then containers.list else [])
  cacheUpdate (getHostCacheKey host) .updating
  let planRes ← execute env host containers plan dockerVersion
  modify fun result => { result with items := result.items ++ (planRes.map (·.items)).getD [] }
  pruneImages host
  let result ← get
  cacheUpdate (getHostCacheKey host) .done (some (.host result))
  pure result

def updateHostContainers (env : BackendEnv) (host : HostsModel) (manual : Bool) :
    BackendM σ (Option HostActionResult) := do
  let state ← cacheGet (getHostCacheKey host)
  if isAllowedStart state then
    withObjects { hostId := host.id, hostName := host.name } <|
      tryCatch
        (do
          let result ← updateContainersOfHost env host manual
          pure (some result))
        fun _ => do
          cacheUpdate (getHostCacheKey host) .error
          pure none
  else pure none

def updateAllContainers (env : BackendEnv) : BackendM σ Unit := do
  let state ← cacheGet .all
  if isAllowedStart state then
    withObjects [] (actOnAllHosts .updating fun host => updateHostContainers env host false)
  else pure ()

/-! ## Requests of users -/

def getEnabledHost (hostId : Int) : BackendM σ HostsModel := do
  let host : HostsModel ← Act.performE (I := Backend) (.selectHost hostId) Reply.read
  if host.enabled then pure host else throw (.exception "Host disabled")

def checkHost (hostId : Int) : BackendM σ Unit := do
  let host ← getEnabledHost hostId
  Act.perform (I := Backend) .schedule
  let _ ← checkHostContainers host true

def checkContainerRequest (hostId : Int) (name : String) : BackendM σ Unit := do
  let host ← getEnabledHost hostId
  let container ← request host.id (.containerInspect name)
  Act.perform (I := Backend) .schedule
  let _ ← checkOneContainer host container

def updateHost (env : BackendEnv) (hostId : Int) : BackendM σ Unit := do
  let host ← getEnabledHost hostId
  Act.perform (I := Backend) .schedule
  let _ ← updateHostContainers env host true

/-- The endpoint that updates a single container, and the task it creates. -/
def updateContainer (env : BackendEnv) (hostId : Int) (name : String) : BackendM σ Unit := do
  let host ← getEnabledHost hostId
  let present : Bool ← request host.id (.containerExists name)
  if present then
    let container ← request host.id (.containerInspect name)
    let containers : HostContainers ←
      Act.performE (I := Backend) (.containerList host.id) Reply.read
    let plan ← buildPlan env host containers [container]
    let dockerVersion ← dockerVersionOf host.id
    Act.perform (I := Backend) .schedule
    let _ ← execute env host containers plan dockerVersion
  else throw (.exception "Container not found")

/-- `ContainerPatchRequestBody`, as `model_dump(exclude_unset=True)` has it. A field that is
missing is left as it is, and of the hooks there are the lists that are given. -/
structure PatchBody where
  checkEnabled : Option (Option Bool) := none
  updateEnabled : Option (Option Bool) := none
  delayUpdateFor : Option (Option Int) := none
  hooks : Option (Option HooksDict) := none
  deriving DecidableEq, Repr

/-- The columns that a request sets. -/
def PatchBody.data (body : PatchBody) : ContainerData where
  checkEnabled := body.checkEnabled
  updateEnabled := body.updateEnabled
  delayUpdateFor := body.delayUpdateFor
  hooks := body.hooks

/-- `ContainerPatchRequestBody`: a delay is not negative. -/
def PatchBody.isValid (body : PatchBody) : Bool :=
  (body.delayUpdateFor.getD none).all (0 ≤ ·)

def patchContainerData (env : BackendEnv) (hostId : Int) (name : String) (body : PatchBody) :
    BackendM σ Unit := do
  if !body.isValid then throw .validation
  else if (body.hooks.getD none).isSome && !env.allowHooks then
    throw (.exception "Hooks are disabled.")
  else
    let dbCont ← insertOrUpdateContainer none hostId name body.data
    let host ← getEnabledHost hostId
    let _ ← request host.id (.containerInspect dbCont.name)

end Tugtainer
