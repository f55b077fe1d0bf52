import Mathlib.Data.Int.ConditionallyCompleteOrder
import Mathlib.Data.List.Sort
import Tugtainer.Backend.Interface

/-!
# Checking containers

`checkOneContainer` compares the digests of a container's image with the one that the
registry has for its tag and saves what it found in the container's row.
`checkHostContainers` checks the containers of a host one after the other and
`checkAllContainers` those of all enabled hosts.

The conclusion of a check is computed by `checkResult` and `isUpdateAvailable`, and what
it saves by `checkData`. The row is read before the registry is asked. The session keeps
it as it was read: `insertOrUpdateContainer` writes the columns that differ from it.
-/

namespace Tugtainer

open Python Interaction

variable {σ : Type}

/-! ## The database -/

def insertOrUpdateContainer (loaded : Option ContainersModel) (hostId : Int) (name : String)
    (data : ContainerData) : BackendM σ ContainersModel := do
  let row : Option ContainersModel ←
    Act.performE (I := Backend) (.selectContainer hostId name) Reply.read
  match row with
  | some row =>
      -- the session does not read the attributes of a loaded row again
      let container := loaded.getD row
      Act.performE (I := Backend) (.commit hostId [(name, data.changes container)]) Reply.read
      Act.performE (I := Backend) (.refresh hostId name) Reply.read
  | none =>
      Act.performE (I := Backend) (.insert hostId name data) Reply.read
      Act.performE (I := Backend) (.refresh hostId name) Reply.read

def getHostContainers (hostId : Int) : BackendM σ (List ContainersModel) :=
  withSession (Act.performE (I := Backend) (.selectHostContainers hostId) Reply.read)

/-! ## The conclusion of a check -/

def isDigestMissing (localDigests remoteDigests : List String) : Bool :=
  remoteDigests.any fun rd => localDigests.all fun ld => !contains ld rd

def checkResult (row : Option ContainersModel) (localDigests remoteDigests : List String) :
    Option CheckResult :=
  if remoteDigests = [] then none
  else if isDigestMissing localDigests remoteDigests then
    if row.bind ContainersModel.remoteDigests = some remoteDigests then some .availableNotified
    else some .available
  else some .notAvailable

/-- The `update_available` of a check. A failed lookup leaves it as it is. -/
def isUpdateAvailable (row : Option ContainersModel) (localDigests remoteDigests : List String) :
    Bool :=
  if remoteDigests = [] then (row.map ContainersModel.updateAvailable).getD false
  else isDigestMissing localDigests remoteDigests

/-- The digests were obtained and differ from the stored ones. -/
def areDigestsChanged (row : Option ContainersModel) (remoteDigests : List String) : Bool :=
  remoteDigests ≠ [] && row.bind ContainersModel.remoteDigests ≠ some remoteDigests

def checkData (row : Option ContainersModel) (imageId : Option String)
    (localDigests remoteDigests : List String) (checkedAt : Int) (changedAt : Option Int) :
    ContainerData where
  updateAvailable := some (isUpdateAvailable row localDigests remoteDigests)
  checkedAt := some checkedAt
  localDigests := some localDigests
  remoteDigests := some remoteDigests
  imageId := some (imageId.getD "None")
  remoteDigestsChangedAt := changedAt

/-! ## One container -/

/-- The digest that the registry has for the tag, by the first local digest for which
the lookup obtains one. -/
def getRemoteDigests (spec : String) (delay : Int) : List String → BackendM σ (List String)
  | [] => pure []
  | localDigest :: localDigests => do
      let remoteDigest : Option String ← tryCatch
        (Act.performE (I := Backend) (.remoteDigest spec localDigest) Reply.read)
        fun _ => pure none
      sleepAbout delay
      if truthy remoteDigest then pure remoteDigest.toList
      else getRemoteDigests spec delay localDigests

def pullBeforeCheck (host : HostsModel) (spec : String) (delay : Int) :
    BackendM ContainerActionResult Unit := do
  let settings ← getSettings
  Act.whenA settings.pullBeforeCheck do
    let remoteImage ← request host.id (.imagePull spec)
    modify fun result => { result with remoteImage := some remoteImage }
    sleepAbout delay

def saveCheck (host : HostsModel) (container : ContainerInspectResult)
    (row : Option ContainersModel) (localDigests remoteDigests : List String) :
    BackendM ContainerActionResult Unit := do
  let checkedAt ← now
  let changedAt ← if areDigestsChanged row remoteDigests then do
      let changedAt ← now
      pure (some changedAt)
    else pure none
  let _ ← insertOrUpdateContainer row host.id container.name
    (checkData row container.image localDigests remoteDigests checkedAt changedAt)

def checkDigests (host : HostsModel) (container : ContainerInspectResult) (spec : String)
    (delay : Int) (localDigests : List String) : BackendM ContainerActionResult Unit := do
  modify fun result => { result with localDigests := localDigests }
  let row : Option ContainersModel ←
    Act.performE (I := Backend) (.selectContainer host.id container.name) Reply.read
  cacheUpdate (getContainerCacheKey host container) .checking
  pullBeforeCheck host spec delay
  let remoteDigests ← getRemoteDigests spec delay localDigests
  modify fun result =>
    { result with
      remoteDigests := remoteDigests
      result := checkResult row localDigests remoteDigests }
  saveCheck host container row localDigests remoteDigests
  let result ← get
  cacheUpdate (getContainerCacheKey host container) .done (some (.container result))

def checkImage (host : HostsModel) (container : ContainerInspectResult) (spec : String)
    (delay : Int) : BackendM ContainerActionResult Unit := do
  modify fun result => { result with imageSpec := some spec }
  let localImage ← request host.id
    (.imageInspect ((orElse container.image (some spec)).getD ""))
  modify fun result => { result with localImage := some localImage }
  match localImage.repoDigests.getD [] with
  -- presumably a local image
  | [] => cacheUpdate (getContainerCacheKey host container) .done
  | localDigest :: localDigests =>
      checkDigests host container spec delay (localDigest :: localDigests)

/-- The body of `check_one_container` inside of its session. -/
def checkContainer (host : HostsModel) (container : ContainerInspectResult) (delay : Int) :
    BackendM ContainerActionResult ContainerActionResult := do
  tryCatch
    (do
      cacheSet (getContainerCacheKey host container) .preparing
      let spec := getContainerImageSpec container
      if truthy spec then checkImage host container (spec.getD "") delay
      else cacheUpdate (getContainerCacheKey host container) .done)
    fun _ => do
      let result ← get
      cacheUpdate (getContainerCacheKey host container) .error (some (.container result))
  get

def checkOneContainer (host : HostsModel) (container : ContainerInspectResult) :
    BackendM σ ContainerActionResult := do
  let settings ← getSettings
  let state ← cacheGet (getContainerCacheKey host container)
  if isAllowedStart state then
    withObjects { container := container }
      (withSession (checkContainer host container settings.registryReqDelay))
  else pure { container := container }

/-! ## The containers of a host -/

def filterContainersByCheckEnabled (containers : List ContainerInspectResult)
    (containersDb : Dict String ContainersModel) : List ContainerInspectResult :=
  containers.filter fun c => (containersDb.get? c.name).any ContainersModel.checkEnabled

/-- The key by which containers are sorted: unchecked ones come first. -/
def checkedAtKey (containersDb : Dict String ContainersModel) (c : ContainerInspectResult) :
    WithBot Int :=
  (containersDb.get? c.name).bind ContainersModel.checkedAt

def sortContainersByCheckedAt (containers : List ContainerInspectResult)
    (containersDb : Dict String ContainersModel) : List ContainerInspectResult :=
  containers.insertionSort fun a b => checkedAtKey containersDb a ≤ checkedAtKey containersDb b

def containersToCheck (manual : Bool) (containers : HostContainers)
    (rows : List ContainersModel) : List ContainerInspectResult :=
  let containersDb : Dict String ContainersModel :=
    rows.foldl (fun db row => db.set row.name row) []
  sortContainersByCheckedAt
    (if manual then containers.list
      else filterContainersByCheckEnabled containers.list containersDb)
    containersDb

def checkContainersOfHost (host : HostsModel) (manual : Bool) :
    BackendM HostActionResult Unit := do
  cacheSet (getHostCacheKey host) .preparing
  let containers : HostContainers ←
    Act.performE (I := Backend) (.containerList host.id) Reply.read
  let rows ← getHostContainers host.id
  cacheUpdate (getHostCacheKey host) .checking
  (containersToCheck manual containers rows).forM fun c => do
    let res ← checkOneContainer host c
    modify fun result => { result with items := result.items ++ [res] }
  let result ← get
  cacheUpdate (getHostCacheKey host) .done (some (.host result))

def checkHostContainers (host : HostsModel) (manual : Bool) :
    BackendM σ (Option HostActionResult) := do
  let state ← cacheGet (getHostCacheKey host)
  if isAllowedStart state then
    withObjects { hostId := host.id, hostName := host.name } do
      tryCatch (checkContainersOfHost host manual)
        fun _ => cacheUpdate (getHostCacheKey host) .error
      let result ← get
      pure (some result)
  else pure none

/-! ## All hosts -/

def resultsByHost (results : List HostActionResult) : Dict Int HostActionResult :=
  results.foldl (fun d item => d.set item.hostId item) []

/-- Act on the hosts one after the other and collect the results; what a host raises is
only logged. -/
def forHosts (hosts : List HostsModel)
    (action : HostsModel → BackendM (List HostActionResult) (Option HostActionResult)) :
    BackendM (List HostActionResult) Unit :=
  hosts.forM fun host => tryCatch
    (do
      let result ← action host
      modify fun results => results ++ result.toList)
    fun _ => pure ()

/-- The part that `check_all_containers` and `update_all_containers` share: what they do
with the hosts is `action`, under the status `status`. -/
def actOnAllHosts (status : ActionStatus)
    (action : HostsModel → BackendM (List HostActionResult) (Option HostActionResult)) :
    BackendM (List HostActionResult) Unit :=
  tryCatch
    (do
      cacheSet .all .preparing
      let hosts : List HostsModel ←
        withSession (Act.performE (I := Backend) .selectEnabledHosts Reply.read)
      cacheUpdate .all status
      forHosts hosts action
      let results ← get
      cacheUpdate .all .done (some (.all (resultsByHost results)))
      tryCatch (Act.performE (I := Backend) (.notify results) Reply.read) fun _ => pure ())
    fun _ => cacheUpdate .all .error

def checkAllContainers (manual : Bool) : BackendM σ Unit := do
  let state ← cacheGet .all
  if isAllowedStart state then
    withObjects [] (actOnAllHosts .checking fun host => checkHostContainers host manual)
  else pure ()

end Tugtainer
