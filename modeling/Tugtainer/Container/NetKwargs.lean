import Tugtainer.Container.Util

/-!
# Network arguments of a recreated container

`docker create` takes one network. `getContainerNetKwargs` passes the main one
there, with its endpoint settings, and returns one `network connect` command
for each of the others, to be run once the container has been started.
-/

namespace Tugtainer

open Python

/-- A port mapping: host side, container port, protocol. -/
abbrev PortMapping := String × String × String

def mapPortBinding (containerPort proto : String) (entry : PortBinding) :
    Option PortMapping :=
  match entry.hostPort with
  | none => none
  | some hostPort =>
      if hostPort = "" then none
      else
        match orElse entry.hostIp none with
        | none => some (hostPort, containerPort, proto)
        | some hostIp =>
            -- IPv6 addresses are wrapped in brackets
            if contains hostIp ":" then
              some ("[" ++ hostIp ++ "]:" ++ hostPort, containerPort, proto)
            else some (hostIp ++ ":" ++ hostPort, containerPort, proto)

/-- Docker's `PortBindings` as a list of port mappings. -/
def mapPortBindingsToList
    (bindings : Option (Dict String (Option (List PortBinding)))) : List PortMapping :=
  (bindings.getD []).flatMap fun (containerPortProto, entries) =>
    let (containerPort, proto) := match split1 containerPortProto '/' with
      | (port, some proto) => (port, proto)
      | (port, none) => (port, "tcp")
    (entries.getD []).filterMap (mapPortBinding containerPort proto)

/-- The keyword arguments for `create` that concern the network. -/
structure NetKwargs where
  dns : List String
  dnsOptions : List String
  dnsSearch : List String
  hostname : Option String
  ip : Option String
  ip6 : Option String
  link : List String
  macAddress : Option String
  networks : List String
  networkAliases : List String
  publish : List PortMapping
  publishAll : Bool
  deriving DecidableEq, Repr

/-- The arguments that only some network modes support are dropped for the
others: no mode that shares or lacks a network stack takes them. -/
def NetKwargs.dropUnsupported (kw : NetKwargs) : NetKwargs :=
  { kw with
    dns := [], dnsOptions := [], dnsSearch := [], hostname := none, ip := none,
    ip6 := none, macAddress := none, link := [], networkAliases := [],
    publish := [], publishAll := false }

/-- The network modes `host`, `none` and `container:<id>`. -/
def isStacklessMode (mode : String) : Bool :=
  mode == "host" || mode == "none" || startsWith mode "container:"

def repeatFlag (flag : String) (values : List String) : List String :=
  values.flatMap fun v => [flag, v]

def optionalFlag (flag : String) (value : Option String) : List String :=
  if truthy value then [flag, value.getD ""] else []

def networkConnectCommand (containerName net : String)
    (endpoint : NetworkInspectResult) : List String :=
  let ipam := endpoint.ipamConfig.getD {}
  ["network", "connect"]
    ++ repeatFlag "--alias" (endpoint.aliases.getD [])
    ++ repeatFlag "--link" (endpoint.links.getD [])
    ++ optionalFlag "--ip" ipam.ipv4Address
    ++ optionalFlag "--ip6" ipam.ipv6Address
    ++ [net, containerName]

/-- The attached networks by name, in the order Docker lists them. -/
def attachedNetworks (container : ContainerInspectResult) :
    Dict String NetworkInspectResult :=
  (container.networkSettings.bind NetworkSettings.networks).getD []

/-- The network mode of the host configuration. -/
def networkMode (container : ContainerInspectResult) : Option String :=
  container.hostConfig.bind ContainerHostConfig.networkMode

/-- The network that `create` gets: the network mode while it is attached, and
otherwise the first one. -/
def mainKey (mode : Option String) (networks : Dict String NetworkInspectResult)
    (first : String) : String :=
  match mode with
  | none => first
  | some m => if (networks.get? m).isSome then m else first

def furtherNetworks (main : String) (networks : Dict String NetworkInspectResult) :
    Dict String NetworkInspectResult :=
  networks.filterKeys (· != main)

/-- The MAC address is kept only where static addresses are used. -/
def preservedMac (configMac : Option String) (main : NetworkInspectResult)
    (further : Dict String NetworkInspectResult) : Option String :=
  let mac := if main.ipamConfig.isSome then orElse main.macAddress configMac else none
  further.foldl (fun mac (_, endpoint) =>
    if endpoint.ipamConfig.isSome then orElse mac endpoint.macAddress else mac) mac

/-- The network arguments of the container for `create`, and the `docker`
commands to run after it has been created. -/
def getContainerNetKwargs (container : ContainerInspectResult)
    (dockerVersion : Option DockerVersion) : NetKwargs × List (List String) :=
  let id := container.id.getD ""
  let config := container.config.getD {}
  let hostConfig := container.hostConfig.getD {}
  let networkMode := hostConfig.networkMode
  let base : NetKwargs :=
    { dns := hostConfig.dns.getD []
      dnsOptions := hostConfig.dnsOptions.getD []
      dnsSearch := hostConfig.dnsSearch.getD []
      hostname :=
        -- a generated hostname is not preserved
        if truthy config.hostname && contains id (config.hostname.getD "") then none
        else config.hostname
      ip := none
      ip6 := none
      link := hostConfig.links.getD []
      macAddress := none
      networks := if truthy networkMode then networkMode.toList else []
      networkAliases := []
      publish := mapPortBindingsToList hostConfig.portBindings
      publishAll := hostConfig.publishAllPorts.getD false }
  let (kwargs, commands) := match attachedNetworks container with
    | [] => (base, [])
    | (first, firstEndpoint) :: rest =>
        let networks : Dict String NetworkInspectResult := (first, firstEndpoint) :: rest
        let main := mainKey networkMode networks first
        let endpoint := (networks.get? main).getD firstEndpoint
        let further := furtherNetworks main networks
        ({ base with
            ip := endpoint.ipamConfig.bind EndpointIPAMConfig.ipv4Address
            ip6 := endpoint.ipamConfig.bind EndpointIPAMConfig.ipv6Address
            link := orList endpoint.links base.link
            macAddress := preservedMac config.macAddress endpoint further
            networks := [main]
            networkAliases := endpoint.aliases.getD [] },
          further.map fun (net, e) => networkConnectCommand container.name net e)
  let kwargs :=
    if isStacklessMode (networkMode.getD "") then kwargs.dropUnsupported else kwargs
  -- older clients do not support the option
  let kwargs := match dockerVersion.bind DockerVersion.clientApiVersion with
    | some (major, minor) =>
        if major < 1 ∨ (major = 1 ∧ minor < 44) then { kwargs with macAddress := none }
        else kwargs
    | none => kwargs
  (kwargs, commands)

/-! ## What the executor relies on -/

/-- The network that `create` gets of an attached container, and the others. -/
def splitNetworks (container : ContainerInspectResult) :
    Option (String × Dict String NetworkInspectResult) :=
  match attachedNetworks container with
  | [] => none
  | (first, firstEndpoint) :: rest =>
      let networks : Dict String NetworkInspectResult := (first, firstEndpoint) :: rest
      let main := mainKey (networkMode container) networks first
      some (main, furtherNetworks main networks)

/-- The networks of the configuration: the main network, or the network mode where
the container is attached to none. -/
def configNetworks (container : ContainerInspectResult) : List String :=
  match splitNetworks container with
  | none => if truthy (networkMode container) then (networkMode container).toList else []
  | some (main, _) => [main]

theorem networkMode_eq (container : ContainerInspectResult) :
    (container.hostConfig.getD {}).networkMode = networkMode container := by
  unfold networkMode
  cases container.hostConfig <;> rfl

theorem getContainerNetKwargs_commands (container : ContainerInspectResult)
    (dockerVersion : Option DockerVersion) :
    (getContainerNetKwargs container dockerVersion).2 =
      match splitNetworks container with
      | none => []
      | some (_, further) =>
          further.map fun (net, e) => networkConnectCommand container.name net e := by
  unfold getContainerNetKwargs splitNetworks
  simp only [networkMode_eq]
  cases attachedNetworks container <;> rfl

theorem getContainerNetKwargs_networks (container : ContainerInspectResult)
    (dockerVersion : Option DockerVersion) :
    (getContainerNetKwargs container dockerVersion).1.networks = configNetworks container := by
  unfold getContainerNetKwargs configNetworks splitNetworks
  simp only [networkMode_eq]
  have hdrop : ∀ (c : Prop) [Decidable c] (kw : NetKwargs),
      (if c then kw.dropUnsupported else kw).networks = kw.networks := by
    intro c _ kw
    split <;> rfl
  have hmac : ∀ (v : Option (ℕ × ℕ)) (kw : NetKwargs),
      (match v with
        | some (major, minor) =>
            if major < 1 ∨ (major = 1 ∧ minor < 44) then { kw with macAddress := none } else kw
        | none => kw).networks = kw.networks := by
    intro v kw
    cases v with
    | none => rfl
    | some v => dsimp only; split <;> rfl
  rw [hmac, hdrop]
  cases attachedNetworks container <;> rfl

end Tugtainer
