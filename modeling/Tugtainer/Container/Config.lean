import Tugtainer.Container.MapArgs
import Tugtainer.Container.NetKwargs

/-!
# The configuration a container is recreated from

`getContainerConfig` reads an inspected container back into the arguments of
`create` and the commands to run afterwards. `diffContainerConfigWithImage`
drops the labels that a new image brings along itself. Both pass their result
through `dropEmptyKeys` and the validation of the request schema.
-/

namespace Tugtainer

open Python

/-- An exception as far as the backend tells them apart. -/
inductive Exn where
  /-- raised by an awaited call to the agent or to the database -/
  | call
  /-- a schema rejected its input -/
  | validation
  /-- `Exception(message)` -/
  | exception (message : String)
  deriving DecidableEq, Repr

/-- `CreateContainerRequestBodySchema`, with the fields that are ever set, and five
that are not although inspect data says what to put there: `addHosts`, `init`,
`interactive`, `pid` and `tty`. -/
structure CreateContainerRequestBodySchema where
  image : String
  command : Option (List String) := none
  addHosts : Option (String × String) := none
  blkioWeight : Option Int := none
  capAdd : Option (List String) := none
  capDrop : Option (List String) := none
  cgroupParent : Option String := none
  cgroupns : Option String := none
  cpuPeriod : Option Int := none
  cpuQuota : Option Int := none
  cpuRtPeriod : Option Int := none
  cpuRtRuntime : Option Int := none
  cpuShares : Option Int := none
  cpus : Option Int := none
  devices : Option (List String) := none
  deviceCgroupRules : Option (List String) := none
  dns : Option (List String) := none
  dnsOptions : Option (List String) := none
  dnsSearch : Option (List String) := none
  domainname : Option String := none
  entrypoint : Option String := none
  envs : Option (Dict String String) := none
  gpus : Option String := none
  groupsAdd : Option (List String) := none
  healthcheck : Option Bool := none
  healthCmd : Option String := none
  healthInterval : Option Int := none
  healthRetries : Option Int := none
  healthStartPeriod : Option Int := none
  healthTimeout : Option Int := none
  hostname : Option String := none
  init : Option Bool := none
  interactive : Option Bool := none
  ip : Option String := none
  ip6 : Option String := none
  ipc : Option String := none
  isolation : Option String := none
  kernelMemory : Option Int := none
  labels : Option (Dict String String) := none
  link : Option (List String) := none
  logDriver : Option String := none
  logOptions : Option (List String) := none
  macAddress : Option String := none
  memory : Option Int := none
  memoryReservation : Option Int := none
  memorySwap : Option Int := none
  memorySwappiness : Option Int := none
  mounts : Option (List (List String)) := none
  name : Option String := none
  networks : Option (List String) := none
  networkAliases : Option (List String) := none
  oomKill : Option Bool := none
  oomScoreAdj : Option Int := none
  pid : Option String := none
  pidsLimit : Option Int := none
  privileged : Option Bool := none
  publish : Option (List PortMapping) := none
  publishAll : Option Bool := none
  readOnly : Option Bool := none
  restart : Option String := none
  runtime : Option String := none
  securityOptions : Option (List String) := none
  shmSize : Option Int := none
  stopSignal : Option String := none
  stopTimeout : Option Int := none
  sysctl : Option (Dict String String) := none
  systemd : Option Bool := none
  tmpfs : Option (List String) := none
  tty : Option Bool := none
  ulimit : Option (List String) := none
  user : Option String := none
  userns : Option String := none
  uts : Option String := none
  volumeDriver : Option String := none
  volumesFrom : Option (List String) := none
  workdir : Option String := none
  deriving DecidableEq, Repr

def dropBlank (s : Option String) : Option String :=
  s.filter fun s => !isBlank s

/-- An empty list, tuple or dictionary counts as absent. -/
def dropNil {α : Type} (l : Option (List α)) : Option (List α) :=
  l.filter fun l => !l.isEmpty

@[simp] theorem dropNil_dropNil {α : Type} (l : Option (List α)) :
    dropNil (dropNil l) = dropNil l := by
  simp [dropNil, Option.filter_filter]

@[simp] theorem dropBlank_dropBlank (s : Option String) :
    dropBlank (dropBlank s) = dropBlank s := by
  simp [dropBlank, Option.filter_filter]

theorem getD_dropNil {α : Type} (l : Option (List α)) : (dropNil l).getD [] = l.getD [] := by
  cases l with
  | none => rfl
  | some l =>
      cases l with
      | nil => rfl
      | cons a l => rfl

/-- `drop_empty_keys` on the validated part of a configuration. The image is
required, so `modelValidate` looks at it. -/
def CreateContainerRequestBodySchema.dropEmptyKeys
    (cfg : CreateContainerRequestBodySchema) : CreateContainerRequestBodySchema :=
  { cfg with
    command := dropNil cfg.command
    capAdd := dropNil cfg.capAdd
    capDrop := dropNil cfg.capDrop
    cgroupParent := dropBlank cfg.cgroupParent
    cgroupns := dropBlank cfg.cgroupns
    devices := dropNil cfg.devices
    deviceCgroupRules := dropNil cfg.deviceCgroupRules
    dns := dropNil cfg.dns
    dnsOptions := dropNil cfg.dnsOptions
    dnsSearch := dropNil cfg.dnsSearch
    domainname := dropBlank cfg.domainname
    entrypoint := dropBlank cfg.entrypoint
    envs := dropNil cfg.envs
    gpus := dropBlank cfg.gpus
    groupsAdd := dropNil cfg.groupsAdd
    healthCmd := dropBlank cfg.healthCmd
    hostname := dropBlank cfg.hostname
    ip := dropBlank cfg.ip
    ip6 := dropBlank cfg.ip6
    ipc := dropBlank cfg.ipc
    isolation := dropBlank cfg.isolation
    labels := dropNil cfg.labels
    link := dropNil cfg.link
    logDriver := dropBlank cfg.logDriver
    logOptions := dropNil cfg.logOptions
    macAddress := dropBlank cfg.macAddress
    mounts := dropNil cfg.mounts
    name := dropBlank cfg.name
    networks := dropNil cfg.networks
    networkAliases := dropNil cfg.networkAliases
    pid := dropBlank cfg.pid
    publish := dropNil cfg.publish
    restart := dropBlank cfg.restart
    runtime := dropBlank cfg.runtime
    securityOptions := dropNil cfg.securityOptions
    stopSignal := dropBlank cfg.stopSignal
    sysctl := dropNil cfg.sysctl
    tmpfs := dropNil cfg.tmpfs
    ulimit := dropNil cfg.ulimit
    user := dropBlank cfg.user
    userns := dropBlank cfg.userns
    uts := dropBlank cfg.uts
    volumeDriver := dropBlank cfg.volumeDriver
    volumesFrom := dropNil cfg.volumesFrom
    workdir := dropBlank cfg.workdir }

/-- `model_validate` of a configuration whose image is still optional: the
image is required, and dropping empty keys may have dropped it. -/
def modelValidate (image : Option String)
    (cfg : String → CreateContainerRequestBodySchema) :
    Except Exn CreateContainerRequestBodySchema :=
  match dropBlank image with
  | none => .error .validation
  | some i => .ok (cfg i).dropEmptyKeys

/-- The container configuration for a new image: labels that the image brings
along are dropped. -/
def diffContainerConfigWithImage (cfg : CreateContainerRequestBodySchema)
    (remoteImage : ImageInspectResult) : Except Exn CreateContainerRequestBodySchema :=
  match remoteImage.config with
  | none => .ok cfg
  | some imageConfig =>
      let labels := subtractDict (cfg.labels.getD []) (imageConfig.labels.getD [])
      modelValidate (some cfg.image) fun _ => { cfg with labels := some labels }

/-- `_to_list`: nothing, an empty string and an empty list are `[]`. -/
def toList (val : Option StrOrList) : List String :=
  match val with
  | none => []
  | some (.str s) => if s = "" then [] else [s]
  | some (.list l) => l

/-- The entrypoint and the command to pass, from those of the container and of
its image. The CLI takes the entrypoint as one string, so its other words move
to the start of the command. -/
def entrypointAndCommand (currentEntrypoint currentCmd imageEntrypoint imageCmd : List String) :
    Option String × Option (List String) :=
  if currentEntrypoint ≠ imageEntrypoint ∨ currentCmd ≠ imageCmd then
    match currentEntrypoint with
    | entrypoint :: args => (some entrypoint, some (args ++ currentCmd))
    -- an empty entrypoint cannot be expressed, only the command is preserved
    | [] => (none, some currentCmd)
  else (none, none)

/-- Fields that inspect reports in a shape the schema has no room for: any value
other than an empty one is rejected. -/
def hasUnmappableField (hostConfig : ContainerHostConfig) : Bool :=
  (dropNil hostConfig.blkioWeightDevice).isSome
    || (dropNil hostConfig.blkioDeviceReadBps).isSome
    || (dropNil hostConfig.blkioDeviceReadIops).isSome
    || (dropNil hostConfig.blkioDeviceWriteBps).isSome
    || (dropNil hostConfig.blkioDeviceWriteIops).isSome
    || (dropBlank hostConfig.cpusetCpus).isSome
    || (dropBlank hostConfig.cpusetMems).isSome
    || (dropNil hostConfig.storageOpt).isSome

/-- The working directory, where it is not the image's own. -/
def changedWorkdir (config : ContainerConfig) (imageConfig : Option ContainerConfig) :
    Option String :=
  match imageConfig with
  | none => none
  | some i => if i.workingDir ≠ config.workingDir then normalizePath config.workingDir else none

def containerConfigDict (container : ContainerInspectResult)
    (image : Option ImageInspectResult) (dockerVersion : Option DockerVersion)
    (spec : String) : CreateContainerRequestBodySchema :=
  let config := container.config.getD {}
  let hostConfig := container.hostConfig.getD {}
  let imageConfig := image.bind ImageInspectResult.config
  let net := (getContainerNetKwargs container dockerVersion).1
  let entry := entrypointAndCommand (toList config.entrypoint) (toList config.cmd)
    (toList (imageConfig.bind ContainerConfig.entrypoint))
    (toList (imageConfig.bind ContainerConfig.cmd))
  let health := mapHealthcheckToKwargs config.healthcheck
  let log := mapLogConfigToKwargs hostConfig.logConfig
  { image := spec
    name := some container.name
    blkioWeight := hostConfig.blkioWeight
    command := entry.2
    capAdd := hostConfig.capAdd
    capDrop := hostConfig.capDrop
    cgroupParent := normalizePath hostConfig.cgroupParent
    cgroupns := hostConfig.cgroupnsMode
    cpuPeriod := hostConfig.cpuPeriod
    cpuQuota := hostConfig.cpuQuota
    cpuRtPeriod := hostConfig.cpuRealtimePeriod
    cpuRtRuntime := hostConfig.cpuRealtimeRuntime
    cpuShares := hostConfig.cpuShares
    cpus := hostConfig.cpuCount
    devices := some (mapDevicesToList hostConfig.devices)
    deviceCgroupRules := hostConfig.deviceCgroupRules
    dns := some net.dns
    dnsOptions := some net.dnsOptions
    dnsSearch := some net.dnsSearch
    hostname := net.hostname
    ip := net.ip
    ip6 := net.ip6
    link := some net.link
    macAddress := net.macAddress
    networks := some net.networks
    networkAliases := some net.networkAliases
    publish := some net.publish
    publishAll := some net.publishAll
    domainname := config.domainname
    entrypoint := entry.1
    envs := some (mapEnvToDict config.env)
    gpus := mapDeviceRequestsToGpus hostConfig.deviceRequests
    groupsAdd := hostConfig.groupAdd
    healthcheck := some health.healthcheck
    healthCmd := health.healthCmd
    healthInterval := health.healthInterval
    healthTimeout := health.healthTimeout
    healthRetries := health.healthRetries
    healthStartPeriod := health.healthStartPeriod
    ipc := hostConfig.ipcMode
    isolation := hostConfig.isolation
    kernelMemory := hostConfig.kernelMemory
    labels := some (filterCliSafeLabels (config.labels.getD [])).1
    logDriver := log.1
    logOptions := some log.2
    memory := hostConfig.memory
    memoryReservation := hostConfig.memoryReservation
    memorySwap := hostConfig.memorySwap
    memorySwappiness := hostConfig.memorySwappiness
    mounts := some (mapMountsToArg container.mounts)
    oomKill := some !(hostConfig.oomKillDisable.getD false)
    oomScoreAdj := hostConfig.oomScoreAdj
    pidsLimit := hostConfig.pidsLimit
    privileged := hostConfig.privileged
    readOnly := hostConfig.readonlyRootfs
    restart := getContainerRestartPolicyStr hostConfig.restartPolicy
    runtime := hostConfig.runtime
    securityOptions := hostConfig.securityOpt
    shmSize := hostConfig.shmSize
    stopSignal := config.stopSignal
    stopTimeout := config.stopTimeout
    sysctl := hostConfig.sysctls
    systemd := config.systemdMode
    tmpfs := some (mapTmpfsDictToList hostConfig.tmpfs)
    ulimit := some (mapUlimitsToArg hostConfig.ulimits)
    user := config.user
    userns := normalizeNsMode hostConfig.usernsMode
    uts := normalizeNsMode hostConfig.utsMode
    volumeDriver := hostConfig.volumeDriver
    volumesFrom := hostConfig.volumesFrom
    workdir := changedWorkdir config imageConfig }

/-- The configuration of a container, and the `docker` commands to be run after
it has been created. -/
def getContainerConfig (container : ContainerInspectResult)
    (image : Option ImageInspectResult) (dockerVersion : Option DockerVersion) :
    Except Exn (CreateContainerRequestBodySchema × List (List String)) :=
  if hasUnmappableField (container.hostConfig.getD {}) then .error .validation
  else
    match modelValidate (getContainerImageSpec container)
        (containerConfigDict container image dockerVersion) with
    | .error e => .error e
    | .ok cfg => .ok (cfg, (getContainerNetKwargs container dockerVersion).2)

/-! ## What the executor relies on -/

theorem dropBlank_eq_some_iff {s : Option String} {t : String} :
    dropBlank s = some t ↔ s = some t ∧ isBlank t = false := by
  simp [dropBlank, Option.filter_eq_some_iff]

theorem modelValidate_eq_ok {image : Option String}
    {cfg : String → CreateContainerRequestBodySchema}
    {body : CreateContainerRequestBodySchema} :
    modelValidate image cfg = .ok body ↔
      ∃ i, image = some i ∧ isBlank i = false ∧ body = (cfg i).dropEmptyKeys := by
  unfold modelValidate
  cases h : dropBlank image with
  | none =>
      simp only [reduceCtorEq, false_iff, not_exists]
      rintro i ⟨rfl, hi, -⟩
      rw [dropBlank_eq_some_iff.2 ⟨rfl, hi⟩] at h
      cases h
  | some i =>
      obtain ⟨rfl, hi⟩ := dropBlank_eq_some_iff.1 h
      simp only [Except.ok.injEq, Option.some.injEq]
      constructor
      · rintro rfl
        exact ⟨i, rfl, hi, rfl⟩
      · rintro ⟨_, rfl, -, rfl⟩
        rfl

/-- A configuration is built from the container and its image spec, without empty values. -/
theorem getContainerConfig_eq_ok {container : ContainerInspectResult}
    {image : Option ImageInspectResult} {dockerVersion : Option DockerVersion}
    {cfg : CreateContainerRequestBodySchema} {commands : List (List String)}
    (h : getContainerConfig container image dockerVersion = .ok (cfg, commands)) :
    ∃ spec, getContainerImageSpec container = some spec ∧ isBlank spec = false ∧
      cfg = (containerConfigDict container image dockerVersion spec).dropEmptyKeys ∧
      commands = (getContainerNetKwargs container dockerVersion).2 := by
  unfold getContainerConfig at h
  split at h
  · cases h
  · cases hv : modelValidate (getContainerImageSpec container)
        (containerConfigDict container image dockerVersion) with
    | error e => simp [hv] at h
    | ok body =>
        rw [hv] at h
        cases h
        obtain ⟨spec, hspec, hblank, rfl⟩ := modelValidate_eq_ok.1 hv
        exact ⟨spec, hspec, hblank, rfl, rfl⟩

theorem getContainerConfig_ok {container : ContainerInspectResult}
    {image : Option ImageInspectResult} {dockerVersion : Option DockerVersion}
    {cfg : CreateContainerRequestBodySchema} {commands : List (List String)}
    (h : getContainerConfig container image dockerVersion = .ok (cfg, commands)) :
    getContainerImageSpec container = some cfg.image ∧ isBlank cfg.image = false ∧
      cfg.name = some container.name ∧
      cfg.networks = dropNil (some (getContainerNetKwargs container dockerVersion).1.networks) ∧
      commands = (getContainerNetKwargs container dockerVersion).2 := by
  obtain ⟨spec, hspec, hblank, rfl, hcommands⟩ := getContainerConfig_eq_ok h
  refine ⟨hspec, hblank, ?_, rfl, hcommands⟩
  exact dropBlank_eq_some_iff.2 ⟨rfl, container.name_nonblank⟩

/-- Merging a configuration with an image leaves labels out and drops empty values. -/
theorem diffContainerConfigWithImage_eq_ok {cfg merged : CreateContainerRequestBodySchema}
    {remoteImage : ImageInspectResult}
    (h : diffContainerConfigWithImage cfg remoteImage = .ok merged) :
    merged = cfg ∧ remoteImage.config = none ∨
      ∃ imageConfig, remoteImage.config = some imageConfig ∧ merged =
        ({ cfg with
            labels := some (subtractDict (cfg.labels.getD []) (imageConfig.labels.getD [])) } :
          CreateContainerRequestBodySchema).dropEmptyKeys := by
  unfold diffContainerConfigWithImage at h
  cases hcfg : remoteImage.config with
  | none =>
      rw [hcfg] at h
      cases h
      exact .inl ⟨rfl, rfl⟩
  | some imageConfig =>
      rw [hcfg] at h
      obtain ⟨i, -, -, rfl⟩ := modelValidate_eq_ok.1 h
      exact .inr ⟨imageConfig, rfl, rfl⟩

theorem diffContainerConfigWithImage_ok {cfg merged : CreateContainerRequestBodySchema}
    {remoteImage : ImageInspectResult}
    (h : diffContainerConfigWithImage cfg remoteImage = .ok merged) :
    (∀ n, cfg.name = some n → isBlank n = false → merged.name = some n) ∧
      merged.image = cfg.image := by
  rcases diffContainerConfigWithImage_eq_ok h with ⟨rfl, -⟩ | ⟨imageConfig, -, rfl⟩
  · exact ⟨fun _ hn _ => hn, rfl⟩
  · exact ⟨fun n hn hblank => dropBlank_eq_some_iff.2 ⟨hn, hblank⟩, rfl⟩

theorem diffContainerConfigWithImage_isOk {cfg : CreateContainerRequestBodySchema}
    (h : isBlank cfg.image = false) (remoteImage : ImageInspectResult) :
    ∃ merged, diffContainerConfigWithImage cfg remoteImage = .ok merged := by
  unfold diffContainerConfigWithImage
  cases remoteImage.config with
  | none => exact ⟨cfg, rfl⟩
  | some imageConfig => exact ⟨_, modelValidate_eq_ok.2 ⟨cfg.image, rfl, h, rfl⟩⟩

end Tugtainer
