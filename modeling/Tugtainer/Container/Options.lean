import Tugtainer.Container.Config

/-!
# The runtime options of a recreated container

The options a user has set on a container reach the request of its successor as
arguments of the `docker` command line, so `CarriesOptions` reads the fields of the request
back in the notation of that command line and compares them with the inspected
ones. `getContainerConfig` reads the CPU quota from another field and leaves extra
hosts, the pid mode, `init`, `tty` and the open standard input out;
`carriesOptions_getContainerConfig_iff` says exactly when nothing is lost.
-/

namespace Tugtainer

open Python

/-! ## The notation of the command line -/

/-- The permissions of a device: some of `r`, `w` and `m`, none of them twice. -/
def isDeviceMode (mode : String) : Bool :=
  mode != "" && mode.toList.all (['r', 'w', 'm'].contains ·) && mode.toList.Nodup

/-- `--device`: source, target and permissions. -/
def parseDevice (arg : String) : Option (String × String × String) :=
  match split1 arg ':' with
  | (source, none) => some (source, source, "rwm")
  | (source, some rest) =>
      match split1 rest ':' with
      | (target, none) =>
          if isDeviceMode target then some (source, source, target)
          else some (source, target, "rwm")
      | (target, some mode) =>
          if mode.toList.contains ':' then none
          else some (source, if isDeviceMode target then source else target, mode)

/-- `--ulimit`: name, soft and hard limit. -/
def parseUlimit (arg : String) : Option (String × String × String) :=
  match split1 arg '=' with
  | (_, none) => none
  | (name, some limits) =>
      match split1 limits ':' with
      | (soft, none) => some (name, soft, soft)
      | (soft, some hard) => some (name, soft, hard)

/-- `--tmpfs`: path and options. -/
def parseTmpfs (arg : String) : String × String :=
  let (path, options) := split1 arg ':'
  (path, options.getD "")

/-- `--restart`: the policy and the number of retries. -/
def parseRestart (arg : String) : String × Option String :=
  split1 arg ':'

/-- `--log-opt`: key and value. -/
def parseLogOption (arg : String) : String × Option String :=
  split1 arg '='

/-- What a list of `--env` entries says about a variable: the last entry decides,
and an entry without `=` removes the variable. -/
def envEntry (env : List String) (key : String) : Option (Option String) :=
  ((env.map (split1 · '=')).reverse.find? fun entry => entry.1 = key).map Prod.snd

/-! ## What is carried -/

def ulimitNames : List String :=
  ["core", "cpu", "data", "fsize", "locks", "memlock", "msgqueue", "nice", "nofile",
    "nproc", "rss", "rtprio", "rttime", "sigpending", "stack"]

def restartPolicyNames : List String :=
  ["", "no", "always", "unless-stopped", "on-failure"]

/-- The shapes in which Docker reports devices, limits, the restart policy and the
log driver. -/
structure ReportedByDocker (hostConfig : ContainerHostConfig) : Prop where
  devices : ∀ d ∈ hostConfig.devices.getD [], ∃ source target mode,
    d = ⟨some source, some target, some mode⟩ ∧ source ≠ "" ∧
      target.toList.head? = some '/' ∧ isDeviceMode mode = true
  ulimits : ∀ l ∈ hostConfig.ulimits.getD [], ∃ name soft hard,
    l = ⟨some name, some soft, some hard⟩ ∧ name ∈ ulimitNames
  restartPolicy : ∀ p, hostConfig.restartPolicy = some p →
    ∃ name ∈ restartPolicyNames, p.name = some name
  logDriver : ∀ c, hostConfig.logConfig = some c → ∀ t, c.type = some t → isBlank t = false

/-- Every option that is set on the container is in the request, with the same
meaning. -/
structure CarriesOptions (hostConfig : ContainerHostConfig) (config : ContainerConfig)
    (cfg : CreateContainerRequestBodySchema) : Prop where
  capAdd : cfg.capAdd.getD [] = hostConfig.capAdd.getD []
  capDrop : cfg.capDrop.getD [] = hostConfig.capDrop.getD []
  memory : cfg.memory = hostConfig.memory
  memoryReservation : cfg.memoryReservation = hostConfig.memoryReservation
  memorySwap : cfg.memorySwap = hostConfig.memorySwap
  memorySwappiness : cfg.memorySwappiness = hostConfig.memorySwappiness
  kernelMemory : cfg.kernelMemory = hostConfig.kernelMemory
  cpus : ∀ n, hostConfig.nanoCpus = some n → n ≠ 0 →
    ∃ c, cfg.cpus = some c ∧ c * 1000000000 = n
  devices : (cfg.devices.getD []).map parseDevice =
    (hostConfig.devices.getD []).map fun d =>
      some (d.pathOnHost.getD "", d.pathInContainer.getD "", d.cgroupPermissions.getD "")
  sysctls : cfg.sysctl.getD [] = hostConfig.sysctls.getD []
  ulimits : (cfg.ulimit.getD []).map parseUlimit =
    (hostConfig.ulimits.getD []).map fun l =>
      some (l.name.getD "", toString (l.soft.getD 0), toString (l.hard.getD 0))
  tmpfs : (cfg.tmpfs.getD []).map parseTmpfs = hostConfig.tmpfs.getD []
  restart : cfg.restart.map parseRestart =
    (hostConfig.restartPolicy.filter fun p => truthy p.name).map fun p =>
      (p.name.getD "", (p.maximumRetryCount.filter (· ≠ 0)).map toString)
  logDriver : cfg.logDriver = hostConfig.logConfig.bind ContainerLogConfig.type
  logOptions : (cfg.logOptions.getD []).map parseLogOption =
    ((hostConfig.logConfig.bind ContainerLogConfig.config).getD []).map fun (k, v) => (k, some v)
  privileged : cfg.privileged = hostConfig.privileged
  readOnly : cfg.readOnly = hostConfig.readonlyRootfs
  envs : ∀ key, ((cfg.envs.getD []).get? key).map some = envEntry (config.env.getD []) key
  addHosts : cfg.addHosts.toList.map (fun (host, ip) => host ++ ":" ++ ip) =
    hostConfig.extraHosts.getD []
  pid : truthy hostConfig.pidMode = true → cfg.pid = hostConfig.pidMode
  init : ∀ b, hostConfig.init = some b → cfg.init = some b
  tty : config.tty = some true → cfg.tty = some true
  interactive : config.openStdin = some true → cfg.interactive = some true

/-- None of the options that the configuration has no place for is set, and the texts of
the others can be told apart in the notation of the command line. -/
structure OptionsExpressible (hostConfig : ContainerHostConfig) (config : ContainerConfig) :
    Prop where
  nanoCpus : ∀ n, hostConfig.nanoCpus = some n → n ≠ 0 →
    ∃ c, hostConfig.cpuCount = some c ∧ c * 1000000000 = n
  devices : ∀ d ∈ hostConfig.devices.getD [],
    ':' ∉ (d.pathOnHost.getD "").toList ∧ ':' ∉ (d.pathInContainer.getD "").toList
  tmpfs : ∀ kv ∈ hostConfig.tmpfs.getD [], ':' ∉ kv.1.toList
  logOptions : ∀ kv ∈ (hostConfig.logConfig.bind ContainerLogConfig.config).getD [],
    '=' ∉ kv.1.toList
  env : ∀ key, envEntry (config.env.getD []) key ≠ some none
  extraHosts : hostConfig.extraHosts.getD [] = []
  pidMode : truthy hostConfig.pidMode = false
  init : hostConfig.init = none
  tty : config.tty ≠ some true
  openStdin : config.openStdin ≠ some true

/-! ## Each notation read back -/

theorem notMem_of_parseDevice {arg source target mode : String}
    (h : parseDevice arg = some (source, target, mode)) :
    ':' ∉ source.toList ∧ ':' ∉ target.toList := by
  have hsource := notMem_fst_split1 arg ':'
  unfold parseDevice at h
  split at h
  · rename_i source' hsplit
    rw [hsplit] at hsource
    cases h
    exact ⟨hsource, hsource⟩
  · rename_i source' rest hsplit
    have htarget := notMem_fst_split1 rest ':'
    rw [hsplit] at hsource
    split at h
    · rename_i target' hrest
      rw [hrest] at htarget
      split at h
      · cases h
        exact ⟨hsource, hsource⟩
      · cases h
        exact ⟨hsource, htarget⟩
    · rename_i target' mode' hrest
      rw [hrest] at htarget
      split at h
      · cases h
      · cases h
        refine ⟨hsource, ?_⟩
        split
        · exact hsource
        · exact htarget

theorem parseDevice_iff {source target mode : String} (htarget : target.toList.head? = some '/')
    (hmode : isDeviceMode mode = true) :
    parseDevice (source ++ ":" ++ target ++ ":" ++ mode) = some (source, target, mode) ↔
      ':' ∉ source.toList ∧ ':' ∉ target.toList := by
  have htargetMode : isDeviceMode target = false := by
    cases ht : target.toList with
    | nil => simp [ht] at htarget
    | cons c cs =>
        rw [ht] at htarget
        cases htarget
        simp [isDeviceMode, ht]
  have hnotMode : ':' ∉ mode.toList := by
    intro hc
    simp only [isDeviceMode, Bool.and_eq_true, List.all_eq_true] at hmode
    exact absurd (hmode.1.2 _ hc) (by decide)
  constructor
  · exact notMem_of_parseDevice
  · rintro ⟨hsource, htarget'⟩
    have hsplit : split1 (source ++ ":" ++ target ++ ":" ++ mode) ':' =
        (source, some (target ++ ":" ++ mode)) :=
      split1_of_toList_eq (by simp) hsource
    have hrest : split1 (target ++ ":" ++ mode) ':' = (target, some mode) :=
      split1_of_toList_eq (by simp) htarget'
    simp [parseDevice, hsplit, hrest, hnotMode, htargetMode]

theorem parseTmpfs_iff (path options : String) :
    parseTmpfs (if options = "" then path else path ++ ":" ++ options) = (path, options) ↔
      ':' ∉ path.toList := by
  constructor
  · intro h
    have hfst : path = (split1 (if options = "" then path else path ++ ":" ++ options) ':').1 :=
      (congrArg Prod.fst h).symm
    rw [hfst]
    exact notMem_fst_split1 _ _
  · intro hpath
    by_cases ho : options = ""
    · simp [ho, parseTmpfs, split1_of_notMem hpath]
    · have hsplit : split1 (path ++ ":" ++ options) ':' = (path, some options) :=
        split1_of_toList_eq (by simp) hpath
      simp [ho, parseTmpfs, hsplit]

theorem parseLogOption_iff (key value : String) :
    parseLogOption (key ++ "=" ++ value) = (key, some value) ↔ '=' ∉ key.toList := by
  constructor
  · intro h
    rw [show key = (split1 (key ++ "=" ++ value) '=').1 from (congrArg Prod.fst h).symm]
    exact notMem_fst_split1 _ _
  · exact split1_of_toList_eq (by simp)

theorem notMem_toString (n : Int) : ':' ∉ (toString n).toList := by
  have hnat : ∀ n : ℕ, ':' ∉ (toString n).toList := by
    intro n hmem
    have hdigit := Nat.isDigit_of_mem_toDigits (b := 10) (by decide) (by decide)
      (show ':' ∈ Nat.toDigits 10 n by simpa [Nat.repr] using hmem)
    exact absurd hdigit (by decide)
  cases n with
  | ofNat n => exact hnat n
  | negSucc n =>
      intro hmem
      have : ':' = '-' ∨ ':' ∈ (toString (n + 1)).toList := by
        simpa [toString, Int.repr] using hmem
      rcases this with h | h
      · cases h
      · exact hnat _ h

theorem parseUlimit_eq {name soft : String} (hname : '=' ∉ name.toList)
    (hsoft : ':' ∉ soft.toList) (hard : String) :
    parseUlimit (name ++ "=" ++ soft ++ ":" ++ hard) = some (name, soft, hard) := by
  have hsplit : split1 (name ++ "=" ++ soft ++ ":" ++ hard) '=' =
      (name, some (soft ++ ":" ++ hard)) :=
    split1_of_toList_eq (by simp) hname
  have hlimits : split1 (soft ++ ":" ++ hard) ':' = (soft, some hard) :=
    split1_of_toList_eq (by simp) hsoft
  simp [parseUlimit, hsplit, hlimits]

theorem parseUlimit_ulimitArg {name : String} (hname : name ∈ ulimitNames) (soft hard : Int) :
    parseUlimit (ulimitArg ⟨some name, some soft, some hard⟩) =
      some (name, toString soft, toString hard) := by
  have hshape : ∀ name ∈ ulimitNames,
      startsWith (String.ofList (name.toList.map Char.toUpper)) "RLIMIT_" = false ∧
        '=' ∉ name.toList := by decide
  obtain ⟨hshort, heq⟩ := hshape name hname
  have harg : ulimitArg ⟨some name, some soft, some hard⟩ =
      name ++ "=" ++ toString soft ++ ":" ++ toString hard := by
    simp only [ulimitArg, Option.getD_some, hshort]
    rfl
  rw [harg]
  exact parseUlimit_eq heq (notMem_toString soft) _

theorem parseRestart_getContainerRestartPolicyStr {p : ContainerRestartPolicy} {name : String}
    (hname : name ∈ restartPolicyNames) (hp : p.name = some name) :
    (getContainerRestartPolicyStr (some p)).map parseRestart =
      if truthy p.name then
        some (p.name.getD "", (p.maximumRetryCount.filter (· ≠ 0)).map toString)
      else none := by
  have hshape : ∀ name ∈ restartPolicyNames, ':' ∉ name.toList := by decide
  have hcolon := hshape name hname
  have hsplit : ∀ count, split1 (name ++ ":" ++ count) ':' = (name, some count) :=
    fun count => split1_of_toList_eq (by simp) hcolon
  by_cases hempty : name = ""
  · simp [getContainerRestartPolicyStr, hp, hempty, truthy]
  · have htruthy : truthy p.name = true := by simpa [truthy, hp] using hempty
    rw [if_pos htruthy]
    simp only [getContainerRestartPolicyStr, Option.bind_some, hp, hempty, if_false,
      Option.getD_some]
    cases p.maximumRetryCount with
    | none => exact congrArg some (split1_of_notMem hcolon)
    | some n =>
        by_cases hn : n = 0
        · subst hn
          exact congrArg some (split1_of_notMem hcolon)
        · have hfilter : (some n).filter (· ≠ 0) = some n := by simp [Option.filter, hn]
          rw [hfilter]
          simp only [hn, if_false]
          exact congrArg some (hsplit _)

/-- The dictionary of variables holds what the last entry of each sets, unless that
entry has no `=`. -/
theorem get?_mapEnvToDict {env : List String} {key : String} (h : envEntry env key ≠ some none) :
    ((mapEnvToDict (some env)).get? key).map some = envEntry env key := by
  induction env using List.reverseRecOn with
  | nil => rfl
  | append_singleton env e ih =>
      have hentry : envEntry (env ++ [e]) key =
          if (split1 e '=').1 = key then some (split1 e '=').2 else envEntry env key := by
        by_cases hk : (split1 e '=').1 = key <;> simp [envEntry, hk]
      have hdict : mapEnvToDict (some (env ++ [e])) =
          (split1 e '=').2.elim (mapEnvToDict (some env))
            ((mapEnvToDict (some env)).set (split1 e '=').1) := by
        rcases hsplit : split1 e '=' with ⟨k, _ | v⟩ <;> simp [mapEnvToDict, hsplit]
      rw [hentry] at h ⊢
      rw [hdict]
      cases hsplit : split1 e '=' with
      | mk k v =>
          rw [hsplit] at h
          by_cases hk : k = key
          · cases v with
            | none => simp [hk] at h
            | some v => simp [hk]
          · rw [if_neg hk] at h
            cases v with
            | none => simpa [hk] using ih h
            | some v => simpa [hk, Dict.get?_set_of_ne _ hk] using ih h

theorem map_parseDevice_iff {devices : Option (List ContainerDevice)}
    (h : ∀ d ∈ devices.getD [], ∃ source target mode,
      d = ⟨some source, some target, some mode⟩ ∧ source ≠ "" ∧
        target.toList.head? = some '/' ∧ isDeviceMode mode = true) :
    ((mapDevicesToList devices).map parseDevice = (devices.getD []).map fun d =>
        some (d.pathOnHost.getD "", d.pathInContainer.getD "", d.cgroupPermissions.getD "")) ↔
      ∀ d ∈ devices.getD [],
        ':' ∉ (d.pathOnHost.getD "").toList ∧ ':' ∉ (d.pathInContainer.getD "").toList := by
  have hmap : mapDevicesToList devices = (devices.getD []).map fun d =>
      d.pathOnHost.getD "" ++ ":" ++ d.pathInContainer.getD "" ++ ":" ++
        d.cgroupPermissions.getD "" := by
    rw [← List.filterMap_eq_map]
    refine List.filterMap_congr ?_
    intro d hd
    obtain ⟨source, target, mode, rfl, hsource, htarget, hmode⟩ := h d hd
    have htarget' : target ≠ "" := by
      rintro rfl
      cases htarget
    have hmode' : mode ≠ "" := by
      rintro rfl
      cases hmode
    simp [truthy, orElse, hsource, htarget', hmode']
  rw [hmap, List.map_map, List.map_inj_left]
  refine forall_congr' fun d => forall_congr' fun hd => ?_
  obtain ⟨source, target, mode, rfl, -, htarget, hmode⟩ := h d hd
  exact parseDevice_iff htarget hmode

theorem mapLogConfigToKwargs_eq (cfg : Option ContainerLogConfig) :
    mapLogConfigToKwargs cfg =
      (cfg.bind ContainerLogConfig.type,
        ((cfg.bind ContainerLogConfig.config).getD []).map fun (k, v) => k ++ "=" ++ v) := by
  cases cfg with
  | none => rfl
  | some cfg => rfl

theorem dropBlank_eq_self {s : Option String} (h : ∀ t, s = some t → isBlank t = false) :
    dropBlank s = s := by
  cases s with
  | none => rfl
  | some t => exact dropBlank_eq_some_iff.2 ⟨rfl, h t rfl⟩

theorem dropBlank_getContainerRestartPolicyStr {policy : Option ContainerRestartPolicy}
    (h : ∀ p, policy = some p → ∃ name ∈ restartPolicyNames, p.name = some name) :
    dropBlank (getContainerRestartPolicyStr policy) = getContainerRestartPolicyStr policy := by
  have hblank : ∀ name ∈ restartPolicyNames, name ≠ "" → isBlank name = false := by decide
  refine dropBlank_eq_self ?_
  intro t ht
  cases policy with
  | none => cases ht
  | some p =>
      obtain ⟨name, hname, hp⟩ := h p rfl
      by_cases hempty : name = ""
      · simp [getContainerRestartPolicyStr, hp, hempty] at ht
      · have hprefix : ∀ rest : String, isBlank (name ++ rest) = false := by
          intro rest
          have hb := hblank name hname hempty
          unfold isBlank at hb ⊢
          rw [String.toList_append, List.all_append, hb, Bool.false_and]
        simp only [getContainerRestartPolicyStr, Option.bind_some, hp, hempty, if_false] at ht
        split at ht
        · cases ht
          exact hblank _ hname hempty
        · split at ht
          · cases ht
            exact hblank _ hname hempty
          · cases ht
            rw [String.append_assoc]
            exact hprefix _

/-! ## What the configuration holds -/

/-- How the options of a container and the fields of the request are related by
`getContainerConfig`. -/
structure MapsOptions (hostConfig : ContainerHostConfig) (config : ContainerConfig)
    (cfg : CreateContainerRequestBodySchema) : Prop where
  capAdd : cfg.capAdd = dropNil hostConfig.capAdd
  capDrop : cfg.capDrop = dropNil hostConfig.capDrop
  memory : cfg.memory = hostConfig.memory
  memoryReservation : cfg.memoryReservation = hostConfig.memoryReservation
  memorySwap : cfg.memorySwap = hostConfig.memorySwap
  memorySwappiness : cfg.memorySwappiness = hostConfig.memorySwappiness
  kernelMemory : cfg.kernelMemory = hostConfig.kernelMemory
  cpus : cfg.cpus = hostConfig.cpuCount
  devices : cfg.devices = dropNil (some (mapDevicesToList hostConfig.devices))
  sysctl : cfg.sysctl = dropNil hostConfig.sysctls
  ulimit : cfg.ulimit = dropNil (some (mapUlimitsToArg hostConfig.ulimits))
  tmpfs : cfg.tmpfs = dropNil (some (mapTmpfsDictToList hostConfig.tmpfs))
  restart : cfg.restart = dropBlank (getContainerRestartPolicyStr hostConfig.restartPolicy)
  logDriver : cfg.logDriver = dropBlank (mapLogConfigToKwargs hostConfig.logConfig).1
  logOptions : cfg.logOptions = dropNil (some (mapLogConfigToKwargs hostConfig.logConfig).2)
  privileged : cfg.privileged = hostConfig.privileged
  readOnly : cfg.readOnly = hostConfig.readonlyRootfs
  envs : cfg.envs = dropNil (some (mapEnvToDict config.env))
  addHosts : cfg.addHosts = none
  pid : cfg.pid = none
  init : cfg.init = none
  tty : cfg.tty = none
  interactive : cfg.interactive = none

theorem mapsOptions_getContainerConfig {container : ContainerInspectResult}
    {image : Option ImageInspectResult} {dockerVersion : Option DockerVersion}
    {cfg : CreateContainerRequestBodySchema} {commands : List (List String)}
    (h : getContainerConfig container image dockerVersion = .ok (cfg, commands)) :
    MapsOptions (container.hostConfig.getD {}) (container.config.getD {}) cfg := by
  obtain ⟨spec, -, -, rfl, -⟩ := getContainerConfig_eq_ok h
  constructor <;> rfl

section

variable {hostConfig : ContainerHostConfig} {config : ContainerConfig}
  {cfg : CreateContainerRequestBodySchema}

theorem MapsOptions.getD_envs (h : MapsOptions hostConfig config cfg) :
    cfg.envs.getD [] = mapEnvToDict (some (config.env.getD [])) := by
  rw [h.envs, getD_dropNil]
  rfl

theorem MapsOptions.devices_iff (h : MapsOptions hostConfig config cfg)
    (hreport : ReportedByDocker hostConfig) :
    ((cfg.devices.getD []).map parseDevice = (hostConfig.devices.getD []).map fun d =>
        some (d.pathOnHost.getD "", d.pathInContainer.getD "", d.cgroupPermissions.getD "")) ↔
      ∀ d ∈ hostConfig.devices.getD [],
        ':' ∉ (d.pathOnHost.getD "").toList ∧ ':' ∉ (d.pathInContainer.getD "").toList := by
  rw [h.devices, getD_dropNil, Option.getD_some]
  exact map_parseDevice_iff hreport.devices

theorem MapsOptions.tmpfs_iff (h : MapsOptions hostConfig config cfg) :
    (cfg.tmpfs.getD []).map parseTmpfs = hostConfig.tmpfs.getD [] ↔
      ∀ kv ∈ hostConfig.tmpfs.getD [], ':' ∉ kv.1.toList := by
  conv_lhs => rhs; rw [← List.map_id (hostConfig.tmpfs.getD [])]
  rw [h.tmpfs, getD_dropNil, Option.getD_some, mapTmpfsDictToList, List.map_map,
    List.map_inj_left]
  exact forall_congr' fun kv => forall_congr' fun _ => parseTmpfs_iff kv.1 kv.2

theorem MapsOptions.logOptions_iff (h : MapsOptions hostConfig config cfg) :
    ((cfg.logOptions.getD []).map parseLogOption =
        ((hostConfig.logConfig.bind ContainerLogConfig.config).getD []).map
          fun (k, v) => (k, some v)) ↔
      ∀ kv ∈ (hostConfig.logConfig.bind ContainerLogConfig.config).getD [],
        '=' ∉ kv.1.toList := by
  rw [h.logOptions, getD_dropNil, Option.getD_some, mapLogConfigToKwargs_eq, List.map_map,
    List.map_inj_left]
  exact forall_congr' fun kv => forall_congr' fun _ => parseLogOption_iff kv.1 kv.2

theorem MapsOptions.ulimits_eq (h : MapsOptions hostConfig config cfg)
    (hreport : ReportedByDocker hostConfig) :
    (cfg.ulimit.getD []).map parseUlimit = (hostConfig.ulimits.getD []).map fun l =>
      some (l.name.getD "", toString (l.soft.getD 0), toString (l.hard.getD 0)) := by
  rw [h.ulimit, getD_dropNil, Option.getD_some, mapUlimitsToArg, List.map_map, List.map_inj_left]
  intro l hl
  obtain ⟨name, soft, hard, rfl, hname⟩ := hreport.ulimits l hl
  rw [Function.comp_apply, parseUlimit_ulimitArg hname]
  simp only [Option.getD_some]

theorem MapsOptions.restart_eq (h : MapsOptions hostConfig config cfg)
    (hreport : ReportedByDocker hostConfig) :
    cfg.restart.map parseRestart =
      (hostConfig.restartPolicy.filter fun p => truthy p.name).map fun p =>
        (p.name.getD "", (p.maximumRetryCount.filter (· ≠ 0)).map toString) := by
  rw [h.restart, dropBlank_getContainerRestartPolicyStr hreport.restartPolicy]
  cases hp : hostConfig.restartPolicy with
  | none => rfl
  | some p =>
      obtain ⟨name, hname, hpname⟩ := hreport.restartPolicy p hp
      rw [parseRestart_getContainerRestartPolicyStr hname hpname, Option.filter_some]
      split <;> rfl

theorem MapsOptions.logDriver_eq (h : MapsOptions hostConfig config cfg)
    (hreport : ReportedByDocker hostConfig) :
    cfg.logDriver = hostConfig.logConfig.bind ContainerLogConfig.type := by
  rw [h.logDriver, mapLogConfigToKwargs_eq]
  refine dropBlank_eq_self ?_
  intro t ht
  obtain ⟨c, hc, hct⟩ := Option.bind_eq_some_iff.1 ht
  exact hreport.logDriver c hc t hct

theorem MapsOptions.optionsExpressible (h : MapsOptions hostConfig config cfg)
    (hreport : ReportedByDocker hostConfig) (hc : CarriesOptions hostConfig config cfg) :
    OptionsExpressible hostConfig config where
  nanoCpus n hn hne := h.cpus ▸ hc.cpus n hn hne
  devices := (h.devices_iff hreport).1 hc.devices
  tmpfs := h.tmpfs_iff.1 hc.tmpfs
  logOptions := h.logOptions_iff.1 hc.logOptions
  env := by
    intro key hkey
    have henv := hc.envs key
    rw [hkey] at henv
    cases hget : Dict.get? (cfg.envs.getD []) key <;> simp [hget] at henv
  extraHosts := by
    rw [← hc.addHosts, h.addHosts]
    rfl
  pidMode := by
    cases hpid : truthy hostConfig.pidMode with
    | false => rfl
    | true =>
        have := (hc.pid hpid).symm.trans h.pid
        rw [this] at hpid
        cases hpid
  init := by
    cases hinit : hostConfig.init with
    | none => rfl
    | some b => exact absurd ((hc.init b hinit).symm.trans h.init) (by simp)
  tty htty := absurd ((hc.tty htty).symm.trans h.tty) (by simp)
  openStdin hopen := absurd ((hc.interactive hopen).symm.trans h.interactive) (by simp)

theorem MapsOptions.carriesOptions (h : MapsOptions hostConfig config cfg)
    (hreport : ReportedByDocker hostConfig) (he : OptionsExpressible hostConfig config) :
    CarriesOptions hostConfig config cfg where
  capAdd := by rw [h.capAdd, getD_dropNil]
  capDrop := by rw [h.capDrop, getD_dropNil]
  memory := h.memory
  memoryReservation := h.memoryReservation
  memorySwap := h.memorySwap
  memorySwappiness := h.memorySwappiness
  kernelMemory := h.kernelMemory
  cpus n hn hne := h.cpus ▸ he.nanoCpus n hn hne
  devices := (h.devices_iff hreport).2 he.devices
  sysctls := by rw [h.sysctl, getD_dropNil]
  ulimits := h.ulimits_eq hreport
  tmpfs := h.tmpfs_iff.2 he.tmpfs
  restart := h.restart_eq hreport
  logDriver := h.logDriver_eq hreport
  logOptions := h.logOptions_iff.2 he.logOptions
  privileged := h.privileged
  readOnly := h.readOnly
  envs key := by
    rw [h.getD_envs]
    exact get?_mapEnvToDict (he.env key)
  addHosts := by
    rw [he.extraHosts, h.addHosts]
    rfl
  pid hpid := absurd hpid (by simp [he.pidMode])
  init b hb := absurd (he.init.symm.trans hb) (by simp)
  tty htty := absurd htty he.tty
  interactive hopen := absurd hopen he.openStdin

end

/-- Where `getContainerConfig` succeeds, every option is carried if and only if all of
them are expressible. -/
theorem carriesOptions_getContainerConfig_iff {container : ContainerInspectResult}
    {image : Option ImageInspectResult} {dockerVersion : Option DockerVersion}
    {cfg : CreateContainerRequestBodySchema} {commands : List (List String)}
    (hreport : ReportedByDocker (container.hostConfig.getD {}))
    (h : getContainerConfig container image dockerVersion = .ok (cfg, commands)) :
    CarriesOptions (container.hostConfig.getD {}) (container.config.getD {}) cfg ↔
      OptionsExpressible (container.hostConfig.getD {}) (container.config.getD {}) :=
  ⟨(mapsOptions_getContainerConfig h).optionsExpressible hreport,
    (mapsOptions_getContainerConfig h).carriesOptions hreport⟩

/-- A container started with `--cpus 1.5 --init --pid host --add-host db:10.0.0.5 -it`. -/
def limitedContainer : ContainerInspectResult where
  name := "web"
  config := some
    { image := some "nginx", env := some ["MODE=a=b"], tty := some true, openStdin := some true }
  hostConfig := some
    { nanoCpus := some 1500000000, cpuCount := some 0, init := some true,
      pidMode := some "host", extraHosts := some ["db:10.0.0.5"],
      devices := some [⟨some "/dev/dri", some "/dev/dri", some "rwm"⟩],
      ulimits := some [⟨some "nofile", some 1024, some 2048⟩],
      restartPolicy := some ⟨some "on-failure", some 3⟩ }
  name_nonblank := isBlank_web

theorem reportedByDocker_limitedContainer :
    ReportedByDocker (limitedContainer.hostConfig.getD {}) where
  devices := by
    intro d hd
    cases List.mem_singleton.1 hd
    exact ⟨_, _, _, rfl, by decide, by decide, by decide⟩
  ulimits := by
    intro l hl
    cases List.mem_singleton.1 hl
    exact ⟨_, _, _, rfl, by decide⟩
  restartPolicy := by
    intro p hp
    cases hp
    exact ⟨"on-failure", by decide, rfl⟩
  logDriver := by
    intro c hc
    cases hc

/-- The CPU quota of `limitedContainer` is lost although its configuration is built. -/
theorem not_carriesOptions_limitedContainer :
    ReportedByDocker (limitedContainer.hostConfig.getD {}) ∧
      ∃ cfg commands, getContainerConfig limitedContainer none none = .ok (cfg, commands) ∧
        ¬ CarriesOptions (limitedContainer.hostConfig.getD {})
          (limitedContainer.config.getD {}) cfg := by
  refine ⟨reportedByDocker_limitedContainer, _, _, rfl, fun hc => ?_⟩
  obtain ⟨c, hcpus, hc⟩ := hc.cpus 1500000000 rfl (by decide)
  cases hcpus
  exact absurd hc (by decide)

/-- What is lost for `limitedContainer` is not expressible. -/
theorem carriesOptions_getContainerConfig_iff_limitedContainer :
    ∃ cfg commands, getContainerConfig limitedContainer none none = .ok (cfg, commands) ∧
      (CarriesOptions (limitedContainer.hostConfig.getD {})
          (limitedContainer.config.getD {}) cfg ↔
        OptionsExpressible (limitedContainer.hostConfig.getD {})
          (limitedContainer.config.getD {})) :=
  ⟨_, _, rfl, carriesOptions_getContainerConfig_iff reportedByDocker_limitedContainer rfl⟩

end Tugtainer
