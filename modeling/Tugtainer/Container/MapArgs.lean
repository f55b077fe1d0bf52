import Tugtainer.Container.Util

/-!
# From inspect data to arguments of `create`

The `map_*` and `normalize_*` functions: each turns one part of the inspect data
into the shape that the client library takes.
-/

namespace Tugtainer

open Python

/-- `["K=V", ...]` as a dictionary; entries without `=` are dropped. -/
def mapEnvToDict (env : Option (List String)) : Dict String String :=
  (env.getD []).foldl (fun d e => match split1 e '=' with
    | (k, some v) => d.set k v
    | (_, none) => d) []

def mapDevicesToList (devices : Option (List ContainerDevice)) : List String :=
  (devices.getD []).filterMap fun dev =>
    if truthy dev.pathOnHost && truthy dev.pathInContainer then
      let permissions := (orElse dev.cgroupPermissions (some "rwm")).getD ""
      some (dev.pathOnHost.getD "" ++ ":" ++ dev.pathInContainer.getD "" ++ ":" ++
        permissions)
    else none

/-- The first request of the nvidia driver. -/
def nvidiaRequest (deviceRequests : Option (List ContainerDeviceRequest)) :
    Option ContainerDeviceRequest :=
  (deviceRequests.getD []).find? fun dr => truthy dr.driver &&
    lower (dr.driver.getD "") == "nvidia"

def gpusOfRequest (req : ContainerDeviceRequest) : String :=
  let device := match req.deviceIds, req.count with
    | some (i :: ids), _ => "device=" ++ join "," (i :: ids)
    | _, some n => if 0 < n then "count=" ++ toString n else "device=all"
    | _, none => "device=all"
  let caps := ((req.capabilities.getD []).flatten.filter (· ≠ "")).map lower
  -- `dict.fromkeys` keeps the first occurrence of each
  let uniqueCaps := caps.reverse.dedup.reverse
  let capPart := if uniqueCaps.isEmpty then [] else ["capabilities=" ++ join "," uniqueCaps]
  let options := (req.options.getD []).map fun (k, v) => k ++ "=" ++ v
  let optPart := if options.isEmpty then [] else ["options=" ++ join "," options]
  let res := join "," (device :: capPart ++ optPart)
  -- the source tests for a substring here, not for equality
  if contains "device=all,capabilities=gpu" res then "all" else "\"" ++ res ++ "\""

/-- The nvidia device request as the `--gpus` argument. -/
def mapDeviceRequestsToGpus (deviceRequests : Option (List ContainerDeviceRequest)) :
    Option String :=
  (nvidiaRequest deviceRequests).map gpusOfRequest

structure HealthKwargs where
  healthcheck : Bool
  healthCmd : Option String := none
  healthInterval : Option Int := none
  healthTimeout : Option Int := none
  healthRetries : Option Int := none
  healthStartPeriod : Option Int := none
  deriving DecidableEq, Repr

/-- Nanoseconds to whole seconds, rounded toward zero; `0` counts as unset. -/
def nsToSec (ns : Option Int) : Option Int :=
  match ns with
  | none => none
  | some n => if n = 0 then none else some (n.tdiv 1000000000)

/-- The health check of the container as arguments. -/
def mapHealthcheckToKwargs (cfg : Option ContainerHealthCheck) : HealthKwargs :=
  match cfg with
  | none => { healthcheck := false }
  | some cfg =>
      let healthCmd := match cfg.test with
        | some (kind :: arg :: args) =>
            if kind = "CMD" ∨ kind = "CMD-SHELL" then some (join " " (arg :: args))
            else some (join " " (kind :: arg :: args))
        | _ => none
      { healthcheck := true
        healthCmd := healthCmd
        healthInterval := nsToSec cfg.interval
        healthTimeout := nsToSec cfg.timeout
        healthRetries := cfg.retries
        healthStartPeriod := nsToSec cfg.startPeriod }

def mapLogConfigToKwargs (cfg : Option ContainerLogConfig) : Option String × List String :=
  match cfg with
  | none => (none, [])
  | some cfg => (cfg.type, (cfg.config.getD []).map fun (k, v) => k ++ "=" ++ v)

def consistencyMode (modeParts : List String) : List String :=
  match ["delegated", "cached", "consistent"].find? (modeParts.contains ·) with
  | some mode => ["consistency=" ++ mode]
  | none => []

def mountArg (mount : Mount) : List String :=
  let type := (orElse mount.type (some "volume")).getD ""
  let dst := if truthy mount.destination then ["dst=" ++ mount.destination.getD ""] else []
  let readonly := if mount.rw = some false then ["readonly"] else []
  let bind :=
    if type = "bind" then
      consistencyMode (if truthy mount.mode then split (mount.mode.getD "") ',' else [])
        ++ if truthy mount.propagation then
          ["bind-propagation=" ++ mount.propagation.getD ""] else []
    else []
  let driver := (orElse mount.driver (some "local")).getD ""
  let volume :=
    if type = "volume" ∧ driver ≠ "local" then ["volume-driver=" ++ driver] else []
  let source := if type = "volume" then orElse mount.name mount.source else mount.source
  let sourceArg := if truthy source then ["source=" ++ source.getD ""] else []
  ["type=" ++ type] ++ dst ++ readonly ++ bind ++ volume ++ sourceArg

def mapMountsToArg (mounts : Option (List Mount)) : List (List String) :=
  (mounts.getD []).map mountArg

def mapTmpfsDictToList (tmpfs : Option (Dict String String)) : List String :=
  (tmpfs.getD []).map fun (k, v) => if v = "" then k else k ++ ":" ++ v

/-- One `--ulimit` value. Podman reports names like `RLIMIT_NOFILE`, the flag
takes the short form. -/
def ulimitArg (lim : ContainerUlimit) : String :=
  let name := lim.name.getD ""
  let short :=
    if startsWith (String.ofList (name.toList.map Char.toUpper)) "RLIMIT_" then
      lower (String.ofList (name.toList.drop 7))
    else name
  short ++ "=" ++ toString (lim.soft.getD 0) ++ ":" ++ toString (lim.hard.getD 0)

def mapUlimitsToArg (ulimits : Option (List ContainerUlimit)) : List String :=
  (ulimits.getD []).map ulimitArg

/-- The restart policy, e.g. `on-failure:3`. -/
def getContainerRestartPolicyStr (policy : Option ContainerRestartPolicy) :
    Option String :=
  match policy.bind ContainerRestartPolicy.name with
  | none => none
  | some name =>
      if name = "" then none
      else
        match policy.bind ContainerRestartPolicy.maximumRetryCount with
        | none => some name
        | some n => if n = 0 then some name else some (name ++ ":" ++ toString n)

/-- `''` and Podman's `private` are the default, which the CLI takes no flag
for. -/
def normalizeNsMode (mode : Option String) : Option String :=
  if truthy mode && mode != some "private" then mode else none

/-- A path argument; `.` is the empty path. -/
def normalizePath (value : Option String) : Option String :=
  if truthy value && value != some "." then value else none

/-- A label key that the Docker CLI accepts: not empty, without blanks and
tabs. -/
def isCliSafeKey (key : String) : Bool :=
  key != "" && !key.toList.any fun c => c == ' ' || c == '\t'

def filterCliSafeLabels (labels : Dict String String) :
    Dict String String × Dict String String :=
  (labels.filterKeys isCliSafeKey, labels.filterKeys fun k => !isCliSafeKey k)

/-- The items of `d1` whose key is not in `d2`. -/
def subtractDict (d1 d2 : Dict String String) : Dict String String :=
  d1.filterKeys fun k => (d2.get? k).isNone

end Tugtainer
