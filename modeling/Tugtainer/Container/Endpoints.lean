import Tugtainer.Container.NetKwargs

/-!
# The endpoints of a recreated container

`create` takes the options of one network, and one `network connect` command those of each
further one. Read back, they should be those of the endpoint in that network. The MAC address
alone is gathered over all endpoints, so that of a further network may be given to the main
one: `passesEndpoints_iff`.
-/

namespace Tugtainer

open Python

/-! ## What the options say -/

/-- What the options of `create` or of `network connect` say of a network. -/
structure Connection where
  network : String := ""
  aliases : List String := []
  links : List String := []
  ip : Option String := none
  ip6 : Option String := none
  mac : Option String := none
  deriving DecidableEq, Repr

def given (address : Option String) : Option String :=
  address.filter (· ≠ "")

/-- The options of `network connect`, and then the network and the container. -/
def readConnectArgs (read : Connection) : List String → Option (Connection × String)
  | [network, container] => some ({ read with network := network }, container)
  | "--alias" :: a :: args => readConnectArgs { read with aliases := read.aliases ++ [a] } args
  | "--link" :: link :: args => readConnectArgs { read with links := read.links ++ [link] } args
  | "--ip" :: ip :: args => readConnectArgs { read with ip := some ip } args
  | "--ip6" :: ip6 :: args => readConnectArgs { read with ip6 := some ip6 } args
  | _ => none

/-- A `network connect` command: what it says of the network, and the container. -/
def readConnect (command : List String) : Option (Connection × String) :=
  match command with
  | "network" :: "connect" :: args => readConnectArgs {} args
  | _ => none

/-- What the arguments of `create` say of each network that they name. -/
def NetKwargs.connections (kw : NetKwargs) : List Connection :=
  kw.networks.map fun network =>
    { network := network, aliases := kw.networkAliases, links := kw.link, ip := given kw.ip
      ip6 := given kw.ip6, mac := given kw.macAddress }

/-! ## What they should say -/

def NetworkInspectResult.ipv4 (endpoint : NetworkInspectResult) : Option String :=
  endpoint.ipamConfig.bind EndpointIPAMConfig.ipv4Address

def NetworkInspectResult.ipv6 (endpoint : NetworkInspectResult) : Option String :=
  endpoint.ipamConfig.bind EndpointIPAMConfig.ipv6Address

/-- What is said of a network is said of the endpoint in it, up to links and a MAC address
from elsewhere. -/
structure Connection.Belongs (connection : Connection) (endpoint : NetworkInspectResult)
    (legacyLinks : List String) (legacyMac : Option String) : Prop where
  aliases : ∀ a ∈ connection.aliases, a ∈ endpoint.aliases.getD []
  links : ∀ link ∈ connection.links, link ∈ endpoint.links.getD [] ∨ link ∈ legacyLinks
  ip : ∀ ip, connection.ip = some ip → endpoint.ipv4 = some ip
  ip6 : ∀ ip6, connection.ip6 = some ip6 → endpoint.ipv6 = some ip6
  mac : ∀ mac, connection.mac = some mac → endpoint.macAddress = some mac ∨ legacyMac = some mac

/-- Every alias, link and address of the endpoint is there. -/
structure Connection.Covers (connection : Connection) (endpoint : NetworkInspectResult) :
    Prop where
  aliases : ∀ a ∈ endpoint.aliases.getD [], a ∈ connection.aliases
  links : ∀ link ∈ endpoint.links.getD [], link ∈ connection.links
  ip : ∀ ip, given endpoint.ipv4 = some ip → connection.ip = some ip
  ip6 : ∀ ip6, given endpoint.ipv6 = some ip6 → connection.ip6 = some ip6

/-- The network is the network mode while that is attached, and otherwise the first one. -/
structure IsPrimary (container : ContainerInspectResult) (network : String) : Prop where
  mode : ∀ mode, networkMode container = some mode →
    mode ∈ (attachedNetworks container).map Prod.fst → network = mode
  first : (∀ mode, networkMode container = some mode →
      mode ∉ (attachedNetworks container).map Prod.fst) →
    ((attachedNetworks container).map Prod.fst).head? = some network

def legacyLinks (container : ContainerInspectResult) : List String :=
  (container.hostConfig.bind ContainerHostConfig.links).getD []

def legacyMac (container : ContainerInspectResult) : Option String :=
  container.config.bind ContainerConfig.macAddress

def connectsTo (network : String) (command : List String) : Bool :=
  (readConnect command).map (fun read => read.1.network) = some network

/-- `create` gets the primary network, and one command each of the others, with what belongs
to the endpoint in it. -/
structure PassesEndpoints (container : ContainerInspectResult) (kw : NetKwargs)
    (commands : List (List String)) (primary : String) : Prop where
  isPrimary : IsPrimary container primary
  created : ∃ connection endpoint, kw.connections = [connection] ∧ connection.network = primary ∧
    (attachedNetworks container).get? primary = some endpoint ∧
    connection.Belongs endpoint (legacyLinks container) (legacyMac container) ∧
    connection.Covers endpoint
  connected : ∀ network endpoint, (attachedNetworks container).get? network = some endpoint →
    network ≠ primary → ∃ command connection, commands.filter (connectsTo network) = [command] ∧
      readConnect command = some (connection, container.name) ∧
      connection.Belongs endpoint [] none ∧ connection.Covers endpoint
  others : ∀ command ∈ commands, ∃ connection,
    readConnect command = some (connection, container.name) ∧ connection.network ≠ primary ∧
      ((attachedNetworks container).get? connection.network).isSome = true

/-! ## Reading the commands -/

/-- The flag takes a value, which is added to what was read. -/
def Takes (flag : String) (add : Connection → String → Connection) : Prop :=
  ∀ read value args, args ≠ [] →
    readConnectArgs read (flag :: value :: args) = readConnectArgs (add read value) args

theorem takes_alias : Takes "--alias" fun read a => { read with aliases := read.aliases ++ [a] } :=
  fun _ _ _ hargs => readConnectArgs.eq_2 _ _ _ hargs

theorem takes_link : Takes "--link" fun read link => { read with links := read.links ++ [link] } :=
  fun _ _ _ hargs => readConnectArgs.eq_3 _ _ _ hargs

theorem takes_ip : Takes "--ip" fun read ip => { read with ip := some ip } :=
  fun _ _ _ hargs => readConnectArgs.eq_4 _ _ _ hargs

theorem takes_ip6 : Takes "--ip6" fun read ip6 => { read with ip6 := some ip6 } :=
  fun _ _ _ hargs => readConnectArgs.eq_5 _ _ _ hargs

section Read

variable {flag : String} {add : Connection → String → Connection} {args : List String}

theorem Takes.repeatFlag (h : Takes flag add) (hargs : args ≠ []) (values : List String)
    (read : Connection) :
    readConnectArgs read (repeatFlag flag values ++ args) =
      readConnectArgs (values.foldl add read) args := by
  induction values generalizing read with
  | nil => rfl
  | cons value values ih =>
      have hne : Tugtainer.repeatFlag flag values ++ args ≠ [] := by simp [hargs]
      exact (h read value _ hne).trans (ih (add read value))

theorem Takes.optionalFlag (h : Takes flag add) (hargs : args ≠ []) (value : Option String)
    (read : Connection) :
    readConnectArgs read (optionalFlag flag value ++ args) =
      readConnectArgs ((given value).elim read (add read)) args := by
  cases value with
  | none => rfl
  | some value =>
      by_cases hvalue : value = ""
      · subst hvalue
        rfl
      · have hgiven : given (some value) = some value := by simp [given, hvalue]
        have htruthy : truthy (some value) = true := by simpa [truthy] using hvalue
        rw [hgiven, Tugtainer.optionalFlag, if_pos htruthy]
        exact h read value args hargs

theorem foldl_aliases (values : List String) (read : Connection) :
    values.foldl (fun read a => { read with aliases := read.aliases ++ [a] }) read =
      { read with aliases := read.aliases ++ values } := by
  induction values generalizing read with
  | nil => simp
  | cons value values ih => simp [ih]

theorem foldl_links (values : List String) (read : Connection) :
    values.foldl (fun read link => { read with links := read.links ++ [link] }) read =
      { read with links := read.links ++ values } := by
  induction values generalizing read with
  | nil => simp
  | cons value values ih => simp [ih]

end Read

def connectionOf (network : String) (endpoint : NetworkInspectResult) : Connection where
  network := network
  aliases := endpoint.aliases.getD []
  links := endpoint.links.getD []
  ip := given endpoint.ipv4
  ip6 := given endpoint.ipv6

theorem readConnect_networkConnectCommand (name network : String)
    (endpoint : NetworkInspectResult) :
    readConnect (networkConnectCommand name network endpoint) =
      some (connectionOf network endpoint, name) := by
  have hipv4 : (endpoint.ipamConfig.getD {}).ipv4Address = endpoint.ipv4 := by
    unfold NetworkInspectResult.ipv4
    cases endpoint.ipamConfig <;> rfl
  have hipv6 : (endpoint.ipamConfig.getD {}).ipv6Address = endpoint.ipv6 := by
    unfold NetworkInspectResult.ipv6
    cases endpoint.ipamConfig <;> rfl
  have hargs : networkConnectCommand name network endpoint = "network" :: "connect" ::
      (repeatFlag "--alias" (endpoint.aliases.getD []) ++
        (repeatFlag "--link" (endpoint.links.getD []) ++
          (optionalFlag "--ip" endpoint.ipv4 ++
            (optionalFlag "--ip6" endpoint.ipv6 ++ [network, name])))) := by
    simp [networkConnectCommand, hipv4, hipv6]
  rw [hargs, readConnect, takes_alias.repeatFlag (by simp), takes_link.repeatFlag (by simp),
    takes_ip.optionalFlag (by simp), takes_ip6.optionalFlag (by simp), foldl_aliases, foldl_links]
  cases hv4 : given endpoint.ipv4 <;> cases hv6 : given endpoint.ipv6 <;>
    simp [readConnectArgs, connectionOf, hv4, hv6]

theorem connectionOf_belongs (network : String) (endpoint : NetworkInspectResult) :
    (connectionOf network endpoint).Belongs endpoint [] none where
  aliases _ h := h
  links _ h := .inl h
  ip _ h := Option.eq_some_of_filter_eq_some h
  ip6 _ h := Option.eq_some_of_filter_eq_some h
  mac _ h := by cases h

theorem connectionOf_covers (network : String) (endpoint : NetworkInspectResult) :
    (connectionOf network endpoint).Covers endpoint where
  aliases _ h := h
  links _ h := h
  ip _ h := h
  ip6 _ h := h

/-! ## The MAC address -/

def dropsMac (dockerVersion : Option DockerVersion) : Bool :=
  match dockerVersion.bind DockerVersion.clientApiVersion with
  | some (major, minor) => major < 1 || major = 1 && minor < 44
  | none => false

def staticMac (endpoint : NetworkInspectResult) : Option String :=
  if endpoint.ipamConfig.isSome then given endpoint.macAddress else none

theorem given_orElse (a b : Option String) : given (orElse a b) = (given a).or (given b) := by
  cases a with
  | none => simp [orElse, truthy, given]
  | some a => by_cases ha : a = "" <;> simp [orElse, truthy, given, Option.filter_some, ha]

/-- The address that is gathered is that of the main endpoint, or the first further one. -/
theorem given_preservedMac (configMac : Option String) (main : NetworkInspectResult)
    (further : Dict String NetworkInspectResult) :
    given (preservedMac configMac main further) =
      (if main.ipamConfig.isSome then given (orElse main.macAddress configMac) else none).or
        (further.findSome? fun item => staticMac item.2) := by
  have hfold (mac : Option String) :
      given (further.foldl (fun mac item => if item.2.ipamConfig.isSome then
          orElse mac item.2.macAddress else mac) mac) =
        (given mac).or (further.findSome? fun item => staticMac item.2) := by
    induction further generalizing mac with
    | nil => simp
    | cons item further ih =>
        rw [List.foldl_cons, ih, List.findSome?_cons, staticMac]
        split
        · rw [given_orElse, Option.or_assoc]
          cases given item.2.macAddress <;> rfl
        · rfl
  rw [preservedMac, hfold]
  split <;> rfl

/-! ## The arguments of a container -/

section

variable {container : ContainerInspectResult} {dockerVersion : Option DockerVersion}
  {main : String} {further : Dict String NetworkInspectResult} {endpoint : NetworkInspectResult}

theorem get?_mainKey (mode : Option String) (first : String) (firstEndpoint : NetworkInspectResult)
    (rest : Dict String NetworkInspectResult) :
    (Dict.get? ((first, firstEndpoint) :: rest)
      (mainKey mode ((first, firstEndpoint) :: rest) first)).isSome = true := by
  unfold mainKey
  split
  · simp [Dict.get?_cons]
  · split
    · assumption
    · simp [Dict.get?_cons]

theorem exists_splitNetworks (h : attachedNetworks container ≠ []) :
    ∃ main endpoint, splitNetworks container =
        some (main, furtherNetworks main (attachedNetworks container)) ∧
      (attachedNetworks container).get? main = some endpoint ∧ IsPrimary container main := by
  obtain ⟨⟨first, firstEndpoint⟩, rest, hnets⟩ := List.exists_cons_of_ne_nil h
  obtain ⟨endpoint, hget⟩ := Option.isSome_iff_exists.1
    (get?_mainKey (networkMode container) first firstEndpoint rest)
  refine ⟨_, endpoint, by rw [splitNetworks, hnets], by rwa [hnets], ?_, ?_⟩
  · intro mode hmode hmem
    have hsome : ((attachedNetworks container).get? mode).isSome = true := by
      rw [Option.isSome_iff_ne_none, ne_eq, Dict.get?_eq_none_iff, not_not]
      exact hmem
    rw [hnets] at hsome
    simp [mainKey, hmode, hsome]
  · intro hnone
    rw [hnets]
    cases hmode : networkMode container with
    | none => rfl
    | some mode =>
        have hget := Dict.get?_eq_none_iff.2 (hnone mode hmode)
        rw [hnets] at hget
        simp [mainKey, hget]

/-- What `create` says of the main network, with that MAC address. -/
def mainConnection (container : ContainerInspectResult) (main : String)
    (endpoint : NetworkInspectResult) (mac : Option String) : Connection where
  network := main
  aliases := endpoint.aliases.getD []
  links := orList endpoint.links (legacyLinks container)
  ip := given endpoint.ipv4
  ip6 := given endpoint.ipv6
  mac := mac

theorem getContainerNetKwargs_of_attached (dockerVersion : Option DockerVersion)
    (h : splitNetworks container = some (main, further))
    (hget : (attachedNetworks container).get? main = some endpoint)
    (hmode : isStacklessMode ((networkMode container).getD "") = false) :
    (getContainerNetKwargs container dockerVersion).1.connections =
      [mainConnection container main endpoint (if dropsMac dockerVersion then none
        else given (preservedMac (legacyMac container) endpoint further))] := by
  have hlinks : (container.hostConfig.getD {}).links.getD [] = legacyLinks container := by
    unfold legacyLinks
    cases container.hostConfig <;> rfl
  have hmac : (container.config.getD {}).macAddress = legacyMac container := by
    unfold legacyMac
    cases container.config <;> rfl
  have hold (kw : NetKwargs) : (match dockerVersion.bind DockerVersion.clientApiVersion with
      | some (major, minor) =>
          if major < 1 ∨ (major = 1 ∧ minor < 44) then { kw with macAddress := none } else kw
      | none => kw).connections =
      if dropsMac dockerVersion then ({ kw with macAddress := none } : NetKwargs).connections
      else kw.connections := by
    unfold dropsMac
    cases dockerVersion.bind DockerVersion.clientApiVersion with
    | none => rfl
    | some v =>
        simp only [Bool.or_eq_true, Bool.and_eq_true, decide_eq_true_eq]
        split <;> rfl
  unfold splitNetworks at h
  unfold getContainerNetKwargs
  cases hnets : attachedNetworks container with
  | nil =>
      rw [hnets] at h
      cases h
  | cons first rest =>
      rw [hnets] at h hget
      cases h
      simp only [networkMode_eq, hmode, hlinks, hmac, Bool.false_eq_true, if_false, hget,
        Option.getD_some]
      refine (hold _).trans ?_
      cases dropsMac dockerVersion <;> rfl

/-- The MAC address that `create` gets belongs to the main endpoint: the client takes none,
or the main endpoint has one along with static addresses, or the first further endpoint that
has one along with them has the same. -/
def OwnMac (container : ContainerInspectResult) (dockerVersion : Option DockerVersion)
    (endpoint : NetworkInspectResult) (further : Dict String NetworkInspectResult) : Prop :=
  dropsMac dockerVersion = true ∨
    endpoint.ipamConfig.isSome = true ∧
      (given endpoint.macAddress ≠ none ∨ given (legacyMac container) ≠ none) ∨
    ∀ mac, further.findSome? (fun item => staticMac item.2) = some mac →
      endpoint.macAddress = some mac ∨ legacyMac container = some mac

theorem ownMac_iff :
    OwnMac container dockerVersion endpoint further ↔
      ∀ mac, (if dropsMac dockerVersion then none
          else given (preservedMac (legacyMac container) endpoint further)) = some mac →
        endpoint.macAddress = some mac ∨ legacyMac container = some mac := by
  unfold OwnMac
  cases dropsMac dockerVersion with
  | true => simp
  | false =>
      simp only [Bool.false_eq_true, false_or, if_false, given_preservedMac, given_orElse]
      cases endpoint.ipamConfig.isSome with
      | false => simp
      | true =>
          simp only [true_and, if_true]
          cases hown : given endpoint.macAddress with
          | some mac => simpa using .inl (Option.eq_some_of_filter_eq_some hown)
          | none =>
              cases hlegacy : given (legacyMac container) with
              | some mac => simpa using .inr (Option.eq_some_of_filter_eq_some hlegacy)
              | none => simp

theorem mem_orList_of_mem {α : Type} {a : Option (List α)} {b : List α} {x : α}
    (h : x ∈ a.getD []) : x ∈ orList a b := by
  cases a with
  | none => simp at h
  | some l =>
      cases l with
      | nil => simp at h
      | cons y l => exact h

theorem mem_or_mem_of_mem_orList {α : Type} {a : Option (List α)} {b : List α} {x : α}
    (h : x ∈ orList a b) : x ∈ a.getD [] ∨ x ∈ b := by
  cases a with
  | none => exact .inr h
  | some l =>
      cases l with
      | nil => exact .inr h
      | cons y l => exact .inl h

theorem filter_connectsTo {name network : String} (hnodup : (further.map Prod.fst).Nodup)
    (hget : further.get? network = some endpoint) :
    (further.map fun (net, e) => networkConnectCommand name net e).filter (connectsTo network) =
      [networkConnectCommand name network endpoint] := by
  have hconnects : connectsTo network ∘ (fun (net, e) => networkConnectCommand name net e) =
      fun item : String × NetworkInspectResult => decide (item.1 = network) := by
    funext item
    simp [connectsTo, readConnect_networkConnectCommand, connectionOf]
  rw [List.filter_map, hconnects, Dict.filter_key_eq hnodup hget]
  rfl

theorem passesEndpoints_of_mac {kw : NetKwargs} {commands : List (List String)}
    {mac : Option String} (hprimary : IsPrimary container main)
    (hnodup : ((attachedNetworks container).map Prod.fst).Nodup)
    (hget : (attachedNetworks container).get? main = some endpoint)
    (hconnections : kw.connections = [mainConnection container main endpoint mac])
    (hcommands : commands = (furtherNetworks main (attachedNetworks container)).map
      fun (net, e) => networkConnectCommand container.name net e) :
    PassesEndpoints container kw commands main ↔
      ∀ m, mac = some m → endpoint.macAddress = some m ∨ legacyMac container = some m := by
  have hfurther : ((furtherNetworks main (attachedNetworks container)).map Prod.fst).Nodup :=
    (List.filter_sublist.map Prod.fst).nodup hnodup
  constructor
  · rintro ⟨-, ⟨connection, endpoint', hsingle, -, hget', hbelongs, -⟩, -, -⟩
    obtain rfl : endpoint = endpoint' := Option.some.inj (hget.symm.trans hget')
    obtain rfl := List.singleton_inj.1 (hconnections.symm.trans hsingle)
    exact hbelongs.mac
  · intro hmac
    refine ⟨hprimary, ⟨_, endpoint, hconnections, rfl, hget, ?_, ?_⟩, ?_, ?_⟩
    · exact
        { aliases := fun _ h => h
          links := fun _ => mem_or_mem_of_mem_orList
          ip := fun _ => Option.eq_some_of_filter_eq_some
          ip6 := fun _ => Option.eq_some_of_filter_eq_some
          mac := hmac }
    · exact
        { aliases := fun _ h => h
          links := fun _ => mem_orList_of_mem
          ip := fun _ h => h
          ip6 := fun _ h => h }
    · intro network e hnetwork hne
      have hget' : (furtherNetworks main (attachedNetworks container)).get? network = some e := by
        rw [furtherNetworks, Dict.get?_filterKeys, if_pos (by simpa using hne), hnetwork]
      refine ⟨_, _, ?_, readConnect_networkConnectCommand _ _ _, connectionOf_belongs network e,
        connectionOf_covers network e⟩
      rw [hcommands]
      exact filter_connectsTo hfurther hget'
    · intro command hmem
      rw [hcommands] at hmem
      obtain ⟨⟨network, e⟩, hitem, rfl⟩ := List.mem_map.1 hmem
      obtain ⟨hattached, hne⟩ := List.mem_filter.1 hitem
      refine ⟨_, readConnect_networkConnectCommand _ _ _, by simpa [connectionOf] using hne, ?_⟩
      rw [connectionOf, (Dict.mem_iff_get? hnodup).1 hattached]
      rfl

theorem IsPrimary.eq {network network' : String} (h : IsPrimary container network)
    (h' : IsPrimary container network') : network = network' := by
  by_cases hnone : ∀ mode, networkMode container = some mode →
      mode ∉ (attachedNetworks container).map Prod.fst
  · exact Option.some.inj ((h.first hnone).symm.trans (h'.first hnone))
  · push Not at hnone
    obtain ⟨mode, hmode, hmem⟩ := hnone
    exact (h.mode mode hmode hmem).trans (h'.mode mode hmode hmem).symm

/-- The MAC address that is gathered over all endpoints is the primary one's. -/
def MacStays (container : ContainerInspectResult) (dockerVersion : Option DockerVersion) :
    Prop :=
  ∀ primary endpoint, IsPrimary container primary →
    (attachedNetworks container).get? primary = some endpoint →
      OwnMac container dockerVersion endpoint
        (furtherNetworks primary (attachedNetworks container))

/-- Every endpoint of an attached container is passed on with what belongs to it, if and
only if the MAC address does. -/
theorem passesEndpoints_iff (hattached : attachedNetworks container ≠ [])
    (hnodup : ((attachedNetworks container).map Prod.fst).Nodup)
    (hmode : isStacklessMode ((networkMode container).getD "") = false)
    (dockerVersion : Option DockerVersion) :
    (∃ primary, PassesEndpoints container (getContainerNetKwargs container dockerVersion).1
        (getContainerNetKwargs container dockerVersion).2 primary) ↔
      MacStays container dockerVersion := by
  obtain ⟨main, endpoint, hsplit, hget, hprimary⟩ := exists_splitNetworks hattached
  have hcommands : (getContainerNetKwargs container dockerVersion).2 =
      (furtherNetworks main (attachedNetworks container)).map
        fun (net, e) => networkConnectCommand container.name net e := by
    rw [getContainerNetKwargs_commands, hsplit]
  have hpasses := passesEndpoints_of_mac hprimary hnodup hget
    (getContainerNetKwargs_of_attached dockerVersion hsplit hget hmode) hcommands
  rw [← ownMac_iff] at hpasses
  constructor
  · rintro ⟨primary, hpassed⟩ primary' endpoint' hprimary' hget'
    obtain rfl := hpassed.isPrimary.eq hprimary
    obtain rfl := hprimary'.eq hprimary
    obtain rfl : endpoint = endpoint' := Option.some.inj (hget.symm.trans hget')
    exact hpasses.1 hpassed
  · intro hstays
    exact ⟨main, hpasses.2 (hstays main endpoint hprimary hget)⟩

end

/-- A container whose second network alone has a static address. -/
def staticContainer : ContainerInspectResult where
  name := "web"
  hostConfig := some { networkMode := some "front" }
  networkSettings := some ⟨some
    [("back", { ipamConfig := some { ipv4Address := some "172.31.1.5" }
                macAddress := some "02:42:ac:1f:01:05" }),
      ("front", { aliases := some ["www"], macAddress := some "02:42:ac:1f:00:05" })]⟩
  name_nonblank := isBlank_web

theorem passesEndpoints_iff_staticContainer :
    (∃ primary, PassesEndpoints staticContainer (getContainerNetKwargs staticContainer none).1
        (getContainerNetKwargs staticContainer none).2 primary) ↔ MacStays staticContainer none :=
  passesEndpoints_iff (by decide) (by decide) (by decide) none

/-- `create` connects the container to the first network with the MAC address that it has in
the second one. -/
theorem staticContainer_mac_leaks :
    (getContainerNetKwargs staticContainer none).1.connections =
        [{ network := "front", aliases := ["www"], mac := some "02:42:ac:1f:01:05" }] ∧
      ¬ ∃ primary, PassesEndpoints staticContainer (getContainerNetKwargs staticContainer none).1
        (getContainerNetKwargs staticContainer none).2 primary := by
  have hconnections : (getContainerNetKwargs staticContainer none).1.connections =
      [{ network := "front", aliases := ["www"], mac := some "02:42:ac:1f:01:05" }] := by decide
  refine ⟨hconnections, ?_⟩
  rintro ⟨primary, -, ⟨connection, endpoint, hsingle, hnetwork, hget, hbelongs, -⟩, -, -⟩
  obtain rfl := List.singleton_inj.1 (hconnections.symm.trans hsingle)
  subst hnetwork
  obtain rfl : endpoint = { aliases := some ["www"], macAddress := some "02:42:ac:1f:00:05" } :=
    Option.some.inj (hget.symm.trans (by decide))
  exact absurd (hbelongs.mac _ rfl) (by decide)

end Tugtainer
