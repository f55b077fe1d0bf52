import Tugtainer.Python.Text
import Tugtainer.Python.Dict

/-!
# Inspect data

The parts of `docker inspect` of a container and of an image that the backend
reads, with the optional fields of the client library's models. A `Path` is its
`str`. A container always has a name, and never a blank one: `UpdatePlanItem.name`
relies on the first and Docker's grammar of names gives the second.
-/

namespace Tugtainer

open Python

/-- `ContainerHealth`: only the status is read. -/
structure ContainerHealth where
  status : Option String
  deriving DecidableEq, Repr

structure ContainerState where
  status : Option String
  health : Option ContainerHealth := none
  deriving DecidableEq, Repr

/-- `ContainerHealthCheck`; durations are in nanoseconds. -/
structure ContainerHealthCheck where
  test : Option (List String) := none
  interval : Option Int := none
  timeout : Option Int := none
  retries : Option Int := none
  startPeriod : Option Int := none
  deriving DecidableEq, Repr

/-- `entrypoint` and `cmd` are a list or a single string. -/
inductive StrOrList where
  | str (s : String)
  | list (l : List String)
  deriving DecidableEq, Repr

structure ContainerConfig where
  hostname : Option String := none
  domainname : Option String := none
  user : Option String := none
  env : Option (List String) := none
  cmd : Option StrOrList := none
  healthcheck : Option ContainerHealthCheck := none
  image : Option String := none
  workingDir : Option String := none
  entrypoint : Option StrOrList := none
  macAddress : Option String := none
  labels : Option (Dict String String) := none
  stopSignal : Option String := none
  stopTimeout : Option Int := none
  systemdMode : Option Bool := none
  tty : Option Bool := none
  openStdin : Option Bool := none
  deriving DecidableEq, Repr

structure ContainerDevice where
  pathOnHost : Option String := none
  pathInContainer : Option String := none
  cgroupPermissions : Option String := none
  deriving DecidableEq, Repr

/-- `ContainerDeviceRequest`; capabilities come in groups. -/
structure ContainerDeviceRequest where
  driver : Option String := none
  count : Option Int := none
  deviceIds : Option (List String) := none
  capabilities : Option (List (List String)) := none
  options : Option (Dict String String) := none
  deriving DecidableEq, Repr

structure ContainerUlimit where
  name : Option String := none
  soft : Option Int := none
  hard : Option Int := none
  deriving DecidableEq, Repr

structure ContainerLogConfig where
  type : Option String := none
  config : Option (Dict String String) := none
  deriving DecidableEq, Repr

structure ContainerRestartPolicy where
  name : Option String := none
  maximumRetryCount : Option Int := none
  deriving DecidableEq, Repr

structure PortBinding where
  hostIp : Option String := none
  hostPort : Option String := none
  deriving DecidableEq, Repr

/-- A weighted or throttled block device. -/
structure BlkioDevice where
  path : Option String := none
  value : Option Int := none
  deriving DecidableEq, Repr

structure ContainerHostConfig where
  blkioWeight : Option Int := none
  blkioWeightDevice : Option (List BlkioDevice) := none
  blkioDeviceReadBps : Option (List BlkioDevice) := none
  blkioDeviceReadIops : Option (List BlkioDevice) := none
  blkioDeviceWriteBps : Option (List BlkioDevice) := none
  blkioDeviceWriteIops : Option (List BlkioDevice) := none
  capAdd : Option (List String) := none
  capDrop : Option (List String) := none
  cgroupParent : Option String := none
  cgroupnsMode : Option String := none
  cpuCount : Option Int := none
  cpuPeriod : Option Int := none
  cpuQuota : Option Int := none
  cpuRealtimePeriod : Option Int := none
  cpuRealtimeRuntime : Option Int := none
  cpuShares : Option Int := none
  cpusetCpus : Option String := none
  cpusetMems : Option String := none
  devices : Option (List ContainerDevice) := none
  deviceCgroupRules : Option (List String) := none
  deviceRequests : Option (List ContainerDeviceRequest) := none
  dns : Option (List String) := none
  dnsOptions : Option (List String) := none
  dnsSearch : Option (List String) := none
  extraHosts : Option (List String) := none
  groupAdd : Option (List String) := none
  init : Option Bool := none
  ipcMode : Option String := none
  isolation : Option String := none
  kernelMemory : Option Int := none
  links : Option (List String) := none
  logConfig : Option ContainerLogConfig := none
  memory : Option Int := none
  memoryReservation : Option Int := none
  memorySwap : Option Int := none
  memorySwappiness : Option Int := none
  nanoCpus : Option Int := none
  networkMode : Option String := none
  oomKillDisable : Option Bool := none
  oomScoreAdj : Option Int := none
  pidMode : Option String := none
  pidsLimit : Option Int := none
  portBindings : Option (Dict String (Option (List PortBinding))) := none
  privileged : Option Bool := none
  publishAllPorts : Option Bool := none
  readonlyRootfs : Option Bool := none
  restartPolicy : Option ContainerRestartPolicy := none
  runtime : Option String := none
  securityOpt : Option (List String) := none
  shmSize : Option Int := none
  storageOpt : Option (Dict String String) := none
  sysctls : Option (Dict String String) := none
  tmpfs : Option (Dict String String) := none
  ulimits : Option (List ContainerUlimit) := none
  usernsMode : Option String := none
  utsMode : Option String := none
  volumeDriver : Option String := none
  volumesFrom : Option (List String) := none
  deriving DecidableEq, Repr

structure Mount where
  type : Option String := none
  name : Option String := none
  source : Option String := none
  destination : Option String := none
  driver : Option String := none
  mode : Option String := none
  rw : Option Bool := none
  propagation : Option String := none
  deriving DecidableEq, Repr

structure EndpointIPAMConfig where
  ipv4Address : Option String := none
  ipv6Address : Option String := none
  deriving DecidableEq, Repr

/-- The endpoint of a container in one of its networks. -/
structure NetworkInspectResult where
  aliases : Option (List String) := none
  links : Option (List String) := none
  ipamConfig : Option EndpointIPAMConfig := none
  macAddress : Option String := none
  deriving DecidableEq, Repr

/-- `NetworkSettings`: the attached networks by name. -/
structure NetworkSettings where
  networks : Option (Dict String NetworkInspectResult) := none
  deriving DecidableEq, Repr

structure ContainerInspectResult where
  id : Option String := none
  name : String
  image : Option String := none
  state : Option ContainerState := none
  config : Option ContainerConfig := none
  hostConfig : Option ContainerHostConfig := none
  mounts : Option (List Mount) := none
  networkSettings : Option NetworkSettings := none
  name_nonblank : isBlank name = false
  deriving DecidableEq

theorem isBlank_web : isBlank "web" = false := by decide

structure ImageInspectResult where
  id : Option String := none
  repoDigests : Option (List String) := none
  config : Option ContainerConfig := none
  deriving DecidableEq, Repr

/-- `DockerVersionScheme`, as far as it is read: the client's API version, or
`none` when it is missing or not a version. -/
structure DockerVersion where
  clientApiVersion : Option (ℕ × ℕ)
  deriving DecidableEq, Repr

end Tugtainer
