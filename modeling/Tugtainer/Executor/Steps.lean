import Tugtainer.Command.Validator
import Tugtainer.Executor.Agent

/-!
# The steps of the executor

What the executor does with one container, piece by piece: `prepareItem` in the
first pass, `stopItem` in the second and `updateOrStartItem` in the third. They
act on the `UpdatePlanItem` of the container. A `try` block that only records
the exception is `attempt`, and the `continue` of the third pass is the `true`
that a piece returns.
-/

namespace Tugtainer

open Python Interaction

variable {σ : Type}

/-! ## Helpers -/

/-- `run_hooks`, one command after the other; the errors are collected. -/
def runHookCommands (site : Site) (name : String) : List String → AgentM σ (List Exn)
  | [] => pure []
  | command :: commands => do
      let error ← tryCatch
        -- the schema of the request rejects an empty command
        (if command = "" then throw .validation
          else do
            call site (.containerExec name command)
            pure [])
        fun e => pure [e]
      let errors ← runHookCommands site name commands
      pure (error ++ errors)

/-- `run_hooks`: the errors of the commands configured for the hook. -/
def runHooks (site : Site) (name : String) (hooks : Option ContainerHooks)
    (hook : HookName) : AgentM σ (List Exn) := do
  log (.hooks name hook)
  match hooks with
  | none => pure []
  | some hooks => runHookCommands site name (hooks.commands hook)

/-- `disconnect_all_networks`, by force; a failure is only logged. -/
def disconnectAllNetworks (site : Site) (container : ContainerInspectResult) :
    AgentM σ Unit :=
  (attachedNetworks container).forM fun (network, _) =>
    tryCatch (call site (.networkDisconnect network container.name true)) fun _ => pure ()

/-- The last attempt of `wait_for_container_healthy`, for which an unknown health
is also healthy. -/
def lastHealthCheck (id : String) : AgentM σ (Bool × ContainerInspectResult) := do
  let container ← call .healthWait (.containerInspect id)
  let health := getContainerHealthStatusStr container
  pure (isRunningContainer container && (health == "healthy" || health == "unknown"), container)

/-- Whether one look at the container ends the wait for it. -/
def isReady (hasHealthcheck : Bool) (container : ContainerInspectResult) : Bool :=
  if hasHealthcheck then getContainerHealthStatusStr container == "healthy"
  else isRunningContainer container

/-- The loop of `wait_for_container_healthy`, with `remaining` milliseconds until
the timeout. -/
def healthLoop (hasHealthcheck : Bool) (id : String) (remaining : ℕ) :
    ℕ → AgentM σ (Bool × ContainerInspectResult)
  | 0 => lastHealthCheck id
  | fuel + 1 =>
      if remaining = 0 then lastHealthCheck id
      else do
        let container ← call .healthWait (.containerInspect id)
        if isReady hasHealthcheck container then pure (true, container)
        else do
          let late : ℕ ← Act.perform (I := Agent) (.sleep 5)
          healthLoop hasHealthcheck id (remaining - (5000 + late)) fuel

/-- `wait_for_container_healthy`. Every turn of the loop takes five seconds at
least, so the loop cannot make more turns than there are milliseconds. -/
def waitForContainerHealthy (container : ContainerInspectResult) (timeout : Int) :
    AgentM σ (Bool × ContainerInspectResult) :=
  let hasHealthcheck := (container.state.bind ContainerState.health).isSome
  let remaining := (timeout * 1000).toNat
  if truthy container.id then
    healthLoop hasHealthcheck (container.id.getD "") remaining remaining
  else pure (false, container)

/-! ## Actions on an item -/

/-- The hooks of the containers of a plan, by name. -/
abbrev HooksMap := Dict String ContainerHooks

/-- An action on the item of one container. -/
abbrev ItemM (α : Type) := AgentM UpdatePlanItem α

/-- `item.errors.extend(errors)`. -/
def addErrors (errors : List Exn) : ItemM Unit :=
  modify fun item => { item with errors := item.errors ++ errors }

def setContainer (container : ContainerInspectResult) : ItemM Unit :=
  modify fun item => { item with container := container }

def setResult (result : CheckResult) : ItemM Unit :=
  modify fun item => { item with result := some result }

/-- `try: x`, `except Exception as e: item.errors.append(e)`. -/
def attempt (x : ItemM Unit) : ItemM Unit :=
  tryCatch x fun e => addErrors [e]

/-- `item.container = await client.container.inspect(item.name)`. -/
def inspectItem (site : Site) : ItemM Unit := do
  let item ← get
  let container ← call site (.containerInspect item.name)
  setContainer container

def runItemHooks (site : Site) (hooksMap : HooksMap) (hook : HookName) : ItemM Unit := do
  let item ← get
  let errors ← runHooks site item.name (hooksMap.get? item.name) hook
  addErrors errors

def waitItem (timeout : Int) : ItemM Bool := do
  let item ← get
  let (healthy, container) ← waitForContainerHealthy item.container timeout
  setContainer container
  log (.waited container.name healthy)
  pure healthy

def attemptStartWithHealth (timeout : Int) : ItemM Unit := do
  let item ← get
  if item.wasRunning then
    inspectItem .start
    let item ← get
    if isRunningContainer item.container then pure ()
    else
      call .start (.containerStart item.name)
      let healthy ← waitItem timeout
      let item ← get
      if healthy then pure () else throw (.exception (item.name ++ " is unhealthy!"))
  else pure ()

/-- `_run_commands`: each command is validated and then run. -/
def runCommands (site : Site) : ItemM Unit := do
  let item ← get
  item.commands.forM fun command => attempt
    (if isAllowedCommand command then call site (.commandRun command) else throw .validation)

/-! ## First pass -/

def getLocalImage : ItemM Unit := do
  let item ← get
  let specOrId := orElse item.container.image item.imageSpec
  tryCatch
    (if truthy specOrId then do
        let image ← call .prepare (.imageInspect (specOrId.getD ""))
        modify fun item => { item with localImage := some image }
      else throw (.exception "No image id or image spec specified"))
    fun e => do
      log (.failedLocalImage item.name)
      addErrors [e]

def pullNewImage : ItemM Unit := do
  let item ← get
  tryCatch
    (match item.imageSpec with
      | none => throw .validation
      | some imageSpec => do
          let image ← call .prepare (.imagePull imageSpec)
          modify fun item => { item with remoteImage := some image })
    fun e => do
      log (.failedPull item.name)
      addErrors [e]

def prepareConfig (dockerVersion : Option DockerVersion) : ItemM Unit := do
  let item ← get
  tryCatch
    (do
      let (config, commands) ← Act.ofExcept
        (getContainerConfig item.container item.localImage dockerVersion)
      modify fun item => { item with config := some config, commands := commands })
    fun e => do
      log (.failedConfig item.name)
      addErrors [e]

def prepareItem (dockerVersion : Option DockerVersion) (delay : Int) : ItemM Unit := do
  getLocalImage
  pullNewImage
  prepareConfig dockerVersion
  Act.perform (I := Agent) (.sleepAbout delay)

/-! ## Second pass -/

/-- The hooks before a stop; `pre_update` only where `pre_stop` went well. -/
def runStopHooks (name : String) (hooksMap : HooksMap) (isUpdate : Bool) :
    ItemM (List Exn) := do
  let hooks := hooksMap.get? name
  let errors ← runHooks .stop name hooks .preStop
  if errors.isEmpty && isUpdate then runHooks .stop name hooks .preUpdate else pure errors

def stopItem (name : String) (hooksMap : HooksMap) (isUpdate : Bool) : ItemM Unit := do
  let item ← get
  if item.wasRunning then
    let errors ← runStopHooks name hooksMap isUpdate
    if errors.isEmpty then
      attempt do
        call .stop (.containerStop name)
        let container ← call .stop (.containerInspect name)
        setContainer container
    else
      addErrors errors
      log (.skippingStop name)
  else pure ()

/-! ## Third pass -/

/-- What an update works with, where nothing has failed before. -/
structure UpdateInputs where
  imageSpec : String
  localImage : ImageInspectResult
  remoteImage : ImageInspectResult
  config : CreateContainerRequestBodySchema
  deriving DecidableEq

/-- `_can_update`, and the values that the update reads from the item. The image
spec of an item that can be updated is there, as `getContainerConfig` needs it. -/
def canUpdate (item : UpdatePlanItem) : Option UpdateInputs :=
  match item.localImage, item.remoteImage, item.config with
  | some localImage, some remoteImage, some config =>
      if item.errors.isEmpty then
        some { imageSpec := item.imageSpec.getD "", localImage := localImage
               remoteImage := remoteImage, config := config }
      else none
  | _, _, _ => none

/-- Take the container off its networks and remove it. -/
def removeItem (site : Site) : ItemM Unit := do
  let item ← get
  disconnectAllNetworks site item.container
  call site (.containerRemove item.name)

/-- Remove the old container. Its attachments are read again where it still
exists. -/
def removeOld : ItemM Unit := do
  let item ← get
  let present : Bool ← call .recreate (.containerExists item.name)
  Act.whenA present (inspectItem .recreate)
  removeItem .recreate

def createMerged (inputs : UpdateInputs) : ItemM Unit := do
  let mergedConfig ← Act.ofExcept
    (diffContainerConfigWithImage inputs.config inputs.remoteImage)
  let container ← call .recreate (.containerCreate mergedConfig)
  setContainer container

/-- Start the container, run its deferred commands and inspect it. -/
def startCreated (site : Site) : ItemM Unit := do
  let item ← get
  call site (.containerStart item.name)
  runCommands site
  inspectItem site

/-- The unhealthy new container is stopped and removed before the rollback. -/
def removeUnhealthy (hooksMap : HooksMap) : ItemM Unit := do
  runItemHooks .recreate hooksMap .preRollback
  let item ← get
  call .recreate (.containerStop item.name)
  inspectItem .recreate
  removeItem .recreate

def startNew (hooksMap : HooksMap) (timeout : Int) : ItemM Bool := do
  startCreated .recreate
  let healthy ← waitItem timeout
  if healthy then
    setResult .updated
    runItemHooks .recreate hooksMap .postUpdate
    pure true
  else
    removeUnhealthy hooksMap
    pure false

/-- The body of the update, which ends with a new container or with none. -/
def recreate (hooksMap : HooksMap) (timeout : Int) (inputs : UpdateInputs) :
    ItemM Bool := do
  removeOld
  createMerged inputs
  let item ← get
  if item.wasRunning then startNew hooksMap timeout
  else
    setResult .updated
    pure true

/-- `pre_rollback`, where the failed container is running. -/
def runCleanupHooks (hooksMap : HooksMap) : ItemM Unit := do
  let item ← get
  Act.whenA (isRunningContainer item.container) (runItemHooks .cleanup hooksMap .preRollback)

def cleanup (hooksMap : HooksMap) : ItemM Unit := do
  let item ← get
  let present : Bool ← call .cleanup (.containerExists item.name)
  if present then
    inspectItem .cleanup
    runCleanupHooks hooksMap
    let item ← get
    call .cleanup (.containerStop item.name)
    inspectItem .cleanup
    removeItem .cleanup
  else pure ()

def recreateOrCleanUp (hooksMap : HooksMap) (timeout : Int)
    (inputs : UpdateInputs) : ItemM Bool :=
  tryCatch (recreate hooksMap timeout inputs) fun e => do
    addErrors [e]
    attempt (cleanup hooksMap)
    pure false

def tagPrevious (inputs : UpdateInputs) : ItemM Unit := do
  let item ← get
  log (.rollingBack item.name)
  attempt (call .rollBack (.imageTag (inputs.localImage.id.getD "None") inputs.imageSpec))

/-- Create and start the container from its previous configuration. -/
def restore (hooksMap : HooksMap) (timeout : Int) (inputs : UpdateInputs) :
    ItemM Bool := do
  let container ← call .rollBack (.containerCreate inputs.config)
  setContainer container
  startCreated .rollBack
  setResult .rolledBack
  runItemHooks .rollBack hooksMap .postRollback
  waitItem timeout

def rollBack (hooksMap : HooksMap) (timeout : Int) (inputs : UpdateInputs) :
    ItemM Bool := do
  tagPrevious inputs
  tryCatch (restore hooksMap timeout inputs) fun e => do
    addErrors [e]
    setResult .failed
    pure false

def updateItem (hooksMap : HooksMap) (timeout : Int) : ItemM Bool := do
  let item ← get
  match canUpdate item with
  | none =>
      attempt (attemptStartWithHealth timeout)
      pure true
  | some inputs =>
      log (.startingUpdate item.name)
      let done ← recreateOrCleanUp hooksMap timeout inputs
      if done then pure true else rollBack hooksMap timeout inputs

def updateUpdatable (hooksMap : HooksMap) (timeout : Int) (isUpdate : Bool) : ItemM Bool :=
  if isUpdate then updateItem hooksMap timeout else pure false

def updateOrStartItem (hooksMap : HooksMap) (timeout : Int) (isUpdate isAffected : Bool) :
    ItemM Unit := do
  let done ← updateUpdatable hooksMap timeout isUpdate
  Act.whenA (!done && isAffected) (attempt (attemptStartWithHealth timeout))

end Tugtainer
