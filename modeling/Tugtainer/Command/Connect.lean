import Tugtainer.Command.Validator
import Tugtainer.Container.NetKwargs

/-!
# The commands that connect a recreated container

`getContainerNetKwargs` writes one `network connect` command for each further
network, and `commandValidator` decides which commands the agent runs. The two
meet here. With valid names, aliases and addresses the validator accepts every
flag that the producer writes but `--link`, so it accepts all the commands if
and only if no further endpoint has links
(`isAllowedCommand_getContainerNetKwargs_iff`).
-/

namespace Tugtainer

open Python

def networkConnectSchema : CmdSchema where
  flags := [("--alias", validateAlias), ("--ip", validateIp), ("--ip6", validateIp)]
  positional := [validateDockerName, validateDockerName]

theorem resolveCommandSchema_networkConnect (args : List String) :
    resolveCommandSchema ("network" :: "connect" :: args) =
      .ok (["network", "connect"], networkConnectSchema) := by
  have hkeys : (List.range (args.length + 2)).reverse =
      ((List.range args.length).map fun i => 2 + i).reverse ++ [1, 0] := by
    rw [Nat.add_comm, List.range_add, List.reverse_append]
    rfl
  have hlong : ∀ key ∈ (((List.range args.length).map fun i => 2 + i).reverse.map fun i =>
      ("network" :: "connect" :: args).take (i + 1)),
      (commandSchemas.get? key).map (key, ·) = none := by
    intro key hkey
    obtain ⟨i, hi, rfl⟩ := List.mem_map.1 hkey
    obtain ⟨j, hj, rfl⟩ := List.mem_map.1 (List.mem_reverse.1 hi)
    have hlen : (("network" :: "connect" :: args).take (2 + j + 1)).length ≠ 2 := by
      have := List.mem_range.1 hj
      simp only [List.length_take, List.length_cons]
      omega
    have hne : ["network", "connect"] ≠ ("network" :: "connect" :: args).take (2 + j + 1) :=
      fun h => hlen (by rw [← h]; rfl)
    have hget : commandSchemas.get? (("network" :: "connect" :: args).take (2 + j + 1)) = none :=
      if_neg hne
    rw [hget]
    rfl
  have hfind := List.findSome?_eq_none_iff.2 hlong
  simp only [resolveCommandSchema, List.length_cons, hkeys, List.map_append, List.findSome?_append,
    hfind]
  rfl

/-! ## The scan over the arguments -/

section Scan

variable {flags : Dict String Validator} {flag value : String} {validator : Validator}

theorem scanArguments_flag (hdash : startsWith flag "-" = true)
    (hflag : flags.get? flag = some validator) (hvalue : validator value = .ok ())
    (rest : List String) :
    scanArguments flags (flag :: value :: rest) [] = scanArguments flags rest [] := by
  simp [scanArguments, hdash, hflag, hvalue]

theorem scanArguments_repeatFlag (hdash : startsWith flag "-" = true)
    (hflag : flags.get? flag = some validator) {values : List String}
    (hvalues : ∀ v ∈ values, validator v = .ok ()) (rest : List String) :
    scanArguments flags (repeatFlag flag values ++ rest) [] = scanArguments flags rest [] := by
  induction values with
  | nil => rfl
  | cons v values ih =>
      rw [List.forall_mem_cons] at hvalues
      calc scanArguments flags (repeatFlag flag (v :: values) ++ rest) []
          = scanArguments flags (repeatFlag flag values ++ rest) [] :=
            scanArguments_flag hdash hflag hvalues.1 _
        _ = scanArguments flags rest [] := ih hvalues.2

theorem scanArguments_optionalFlag (hdash : startsWith flag "-" = true)
    (hflag : flags.get? flag = some validator) {value : Option String}
    (hvalue : truthy value = true → validator (value.getD "") = .ok ()) (rest : List String) :
    scanArguments flags (optionalFlag flag value ++ rest) [] = scanArguments flags rest [] := by
  unfold optionalFlag
  split
  · rename_i htruthy
    exact scanArguments_flag hdash hflag (hvalue htruthy) rest
  · rfl

theorem scanArguments_unknownFlag (hdash : startsWith flag "-" = true)
    (hflag : flags.get? flag = none) (rest : List String) :
    scanArguments flags (flag :: rest) [] = .error (.unknownFlag flag) := by
  simp [scanArguments, hdash, hflag]

end Scan

theorem startsWith_of_validateDockerName {name : String}
    (h : validateDockerName name = .ok ()) : startsWith name "-" = false := by
  change ['-'].isPrefixOf name.toList = false
  cases hl : name.toList with
  | nil => rfl
  | cons c cs =>
      have hc : isAlnum c = true := by
        by_contra hc
        simp [validateDockerName, matchesName, hl, hc] at h
      have hne : ('-' == c) = false := by
        rw [beq_eq_false_iff_ne]
        rintro rfl
        exact absurd hc (by decide)
      simp [List.isPrefixOf, hne]

theorem scanArguments_name {flags : Dict String Validator} {name : String}
    (hname : validateDockerName name = .ok ()) (rest positional : List String) :
    scanArguments flags (name :: rest) positional =
      scanArguments flags rest (positional ++ [name]) := by
  rw [scanArguments.eq_def]
  simp [startsWith_of_validateDockerName hname]

/-! ## The commands of a container -/

/-- The names and addresses of an endpoint are valid; an empty address is none. -/
structure ValidEndpoint (net : String) (endpoint : NetworkInspectResult) : Prop where
  network : validateDockerName net = .ok ()
  aliases : ∀ a ∈ endpoint.aliases.getD [], validateAlias a = .ok ()
  ipv4 : truthy (endpoint.ipamConfig.bind EndpointIPAMConfig.ipv4Address) = true →
    isIpAddress ((endpoint.ipamConfig.bind EndpointIPAMConfig.ipv4Address).getD "") = true
  ipv6 : truthy (endpoint.ipamConfig.bind EndpointIPAMConfig.ipv6Address) = true →
    isIpAddress ((endpoint.ipamConfig.bind EndpointIPAMConfig.ipv6Address).getD "") = true

theorem validateIp_eq_ok {value : String} (h : isIpAddress value = true) :
    validateIp value = .ok () := by
  simp [validateIp, h]

/-- What the scan of a `network connect` command amounts to: every flag but
`--link` is passed over. -/
theorem scanArguments_networkConnectCommand {name net : String}
    {endpoint : NetworkInspectResult} (hname : validateDockerName name = .ok ())
    (h : ValidEndpoint net endpoint) :
    scanArguments networkConnectSchema.flags ((networkConnectCommand name net endpoint).drop 2) [] =
      if endpoint.links.getD [] = [] then .ok [net, name]
      else .error (.unknownFlag "--link") := by
  have hipam : ∀ f : EndpointIPAMConfig → Option String, f {} = none →
      f (endpoint.ipamConfig.getD {}) = endpoint.ipamConfig.bind f := by
    intro f hf
    cases endpoint.ipamConfig with
    | none => exact hf
    | some ipam => rfl
  have hdrop : (networkConnectCommand name net endpoint).drop 2 =
      repeatFlag "--alias" (endpoint.aliases.getD []) ++
        (repeatFlag "--link" (endpoint.links.getD []) ++
          (optionalFlag "--ip" (endpoint.ipamConfig.bind EndpointIPAMConfig.ipv4Address) ++
            (optionalFlag "--ip6" (endpoint.ipamConfig.bind EndpointIPAMConfig.ipv6Address) ++
              [net, name]))) := by
    rw [← hipam EndpointIPAMConfig.ipv4Address rfl, ← hipam EndpointIPAMConfig.ipv6Address rfl]
    simp [networkConnectCommand]
  rw [hdrop, scanArguments_repeatFlag (by decide)
    (show networkConnectSchema.flags.get? "--alias" = some validateAlias from rfl) h.aliases]
  cases endpoint.links.getD [] with
  | cons link links =>
      exact scanArguments_unknownFlag (by decide) rfl _
  | nil =>
      calc scanArguments networkConnectSchema.flags
            (optionalFlag "--ip" (endpoint.ipamConfig.bind EndpointIPAMConfig.ipv4Address) ++
              (optionalFlag "--ip6" (endpoint.ipamConfig.bind EndpointIPAMConfig.ipv6Address) ++
                [net, name])) []
          = scanArguments networkConnectSchema.flags
              (optionalFlag "--ip6" (endpoint.ipamConfig.bind EndpointIPAMConfig.ipv6Address) ++
                [net, name]) [] :=
            scanArguments_optionalFlag (by decide) rfl (fun ht => validateIp_eq_ok (h.ipv4 ht)) _
        _ = scanArguments networkConnectSchema.flags [net, name] [] :=
            scanArguments_optionalFlag (by decide) rfl (fun ht => validateIp_eq_ok (h.ipv6 ht)) _
        _ = scanArguments networkConnectSchema.flags [] [net, name] := by
            rw [scanArguments_name h.network, scanArguments_name hname]
            rfl
        _ = .ok [net, name] := by rw [scanArguments]

/-- The agent accepts the command of an endpoint if and only if it has no links. -/
theorem isAllowedCommand_networkConnectCommand_iff {name net : String}
    {endpoint : NetworkInspectResult} (hname : validateDockerName name = .ok ())
    (h : ValidEndpoint net endpoint) :
    isAllowedCommand (networkConnectCommand name net endpoint) = true ↔
      endpoint.links.getD [] = [] := by
  have hresolve : resolveCommandSchema (networkConnectCommand name net endpoint) =
      .ok (["network", "connect"], networkConnectSchema) :=
    resolveCommandSchema_networkConnect _
  have hscan := scanArguments_networkConnectCommand hname h
  by_cases hlinks : endpoint.links.getD [] = []
  · rw [if_pos hlinks] at hscan
    have hpositional : checkPositional [net, name] networkConnectSchema.positional = .ok () := by
      simp [checkPositional, networkConnectSchema, h.network, hname]
    simp only [hlinks, iff_true]
    simp [isAllowedCommand, commandValidator, hresolve, hscan, hpositional, Except.isOk,
      Except.toBool]
    rfl
  · rw [if_neg hlinks] at hscan
    simp [isAllowedCommand, commandValidator, hresolve, hscan, hlinks, Except.isOk, Except.toBool]

/-- The names and addresses of a container's endpoints are valid. -/
structure ValidEndpoints (container : ContainerInspectResult) : Prop where
  name : validateDockerName container.name = .ok ()
  endpoint : ∀ net e, (net, e) ∈ attachedNetworks container → ValidEndpoint net e

theorem mem_attachedNetworks_of_splitNetworks {container : ContainerInspectResult} {main : String}
    {further : Dict String NetworkInspectResult}
    (h : splitNetworks container = some (main, further)) {net : String}
    {endpoint : NetworkInspectResult} (hmem : (net, endpoint) ∈ further) :
    (net, endpoint) ∈ attachedNetworks container := by
  unfold splitNetworks at h
  cases hnets : attachedNetworks container with
  | nil =>
      rw [hnets] at h
      cases h
  | cons first rest =>
      rw [hnets] at h
      cases h
      exact (List.mem_filter.1 hmem).1

/-- The agent accepts all the commands of a container if and only if none of its
networks but the main one has links. -/
theorem isAllowedCommand_getContainerNetKwargs_iff {container : ContainerInspectResult}
    (h : ValidEndpoints container) (dockerVersion : Option DockerVersion) :
    (∀ command ∈ (getContainerNetKwargs container dockerVersion).2,
        isAllowedCommand command = true) ↔
      ∀ main further, splitNetworks container = some (main, further) →
        ∀ net e, (net, e) ∈ further → e.links.getD [] = [] := by
  rw [getContainerNetKwargs_commands]
  cases hsplit : splitNetworks container with
  | none => simp
  | some split =>
      obtain ⟨main, further⟩ := split
      have hvalid : ∀ net e, (net, e) ∈ further → ValidEndpoint net e := by
        intro net e hmem
        exact h.endpoint net e (mem_attachedNetworks_of_splitNetworks hsplit hmem)
      simp only [List.mem_map, Prod.exists, forall_exists_index, and_imp, Option.some.injEq,
        Prod.mk.injEq]
      constructor
      · rintro hall _ _ rfl rfl net e hmem
        exact (isAllowedCommand_networkConnectCommand_iff h.name (hvalid net e hmem)).1
          (hall _ net e hmem rfl)
      · rintro hlinks _ net e hmem rfl
        exact (isAllowedCommand_networkConnectCommand_iff h.name (hvalid net e hmem)).2
          (hlinks main further rfl rfl net e hmem)

/-- A container in two networks whose second endpoint is linked to another
container. -/
def linkedContainer : ContainerInspectResult where
  name := "web"
  networkSettings := some ⟨some
    [("front", {}), ("back", { aliases := some ["api"], links := some ["db:db"] })]⟩
  name_nonblank := isBlank_web

theorem validEndpoints_linkedContainer : ValidEndpoints linkedContainer := by
  refine ⟨by decide, ?_⟩
  intro net e hmem
  rcases List.mem_cons.1 hmem with heq | hmem
  · cases heq
    exact ⟨by decide, by simp, by simp [truthy], by simp [truthy]⟩
  · cases List.mem_singleton.1 hmem
    refine ⟨by decide, ?_, by simp [truthy], by simp [truthy]⟩
    intro a ha
    cases List.mem_singleton.1 ha
    decide

/-- The command for the second network of `linkedContainer` is rejected. -/
theorem linkedContainer_command_rejected :
    ValidEndpoints linkedContainer ∧
      ¬ ∀ command ∈ (getContainerNetKwargs linkedContainer none).2,
        isAllowedCommand command = true := by
  refine ⟨validEndpoints_linkedContainer, ?_⟩
  decide

/-- Without the link all its commands would be accepted. -/
theorem isAllowedCommand_getContainerNetKwargs_iff_linkedContainer :
    (∀ command ∈ (getContainerNetKwargs linkedContainer none).2,
        isAllowedCommand command = true) ↔
      ∀ main further, splitNetworks linkedContainer = some (main, further) →
        ∀ net e, (net, e) ∈ further → e.links.getD [] = [] :=
  isAllowedCommand_getContainerNetKwargs_iff validEndpoints_linkedContainer none

end Tugtainer
