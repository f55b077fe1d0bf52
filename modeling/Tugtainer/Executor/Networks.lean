import Tugtainer.Executor.Outcome
import Tugtainer.Executor.Simulation

/-!
# The networks of updated and restored containers

A new container gets one network from `create` and the others from commands that
are deferred until it has been started. The commands of a container that is not
started are never run, and neither are those that the validation rejects:
`networks_kept_iff`.
-/

namespace Tugtainer

open Python Interaction

/-- The networks of the container can be restored: `create` gets one of its networks
or the network stack of another container, and the other networks have an allowed
command that is run. -/
def NetworksRestorable (c : ContainerInspectResult) : Prop :=
  match splitNetworks c with
  | none => startsWith ((networkMode c).getD "") "container:"
  | some (main, further) => ¬ startsWith main "container:" ∧
      (further = [] ∨ isRunningContainer c ∧ ∀ network ∈ further.map Prod.fst,
        ∃ endpoint, (network, endpoint) ∈ further ∧
          isAllowedCommand (networkConnectCommand c.name network endpoint))

section

variable {c : ContainerInspectResult} {image : Option ImageInspectResult}
  {dockerVersion : Option DockerVersion} {cfg : CreateContainerRequestBodySchema}
  {commands : List (List String)}

/-! ## Configurations -/

theorem splitNetworks_eq_none (h : splitNetworks c = none) : networksOf c = ∅ := by
  unfold splitNetworks at h
  cases hatt : attachedNetworks c with
  | nil => simp [networksOf, hatt]
  | cons entry rest => rw [hatt] at h; cases h

theorem mainKey_mem (mode : Option String) (first : String) (endpoint : NetworkInspectResult)
    (rest : Dict String NetworkInspectResult) :
    mainKey mode ((first, endpoint) :: rest) first ∈
      ((first, endpoint) :: rest).map Prod.fst := by
  unfold mainKey
  cases mode with
  | none => simp
  | some mode =>
      dsimp only
      split
      · rename_i hsome
        by_contra hnot
        rw [Dict.get?_eq_none_iff.2 hnot] at hsome
        cases hsome
      · simp

theorem splitNetworks_eq_some {main : String} {further : Dict String NetworkInspectResult}
    (h : splitNetworks c = some (main, further)) :
    networksOf c = insert main (further.map Prod.fst).toFinset ∧
      main ∉ (further.map Prod.fst).toFinset := by
  unfold splitNetworks at h
  cases hatt : attachedNetworks c with
  | nil => rw [hatt] at h; cases h
  | cons entry rest =>
      rw [hatt] at h
      obtain ⟨rfl, rfl⟩ := Prod.mk.inj (Option.some.inj h)
      have hmain := mainKey_mem (networkMode c) entry.1 entry.2 rest
      refine ⟨?_, by simp [furtherNetworks, Dict.filterKeys]⟩
      ext network
      rw [networksOf, hatt, List.mem_toFinset, Finset.mem_insert, List.mem_toFinset]
      constructor
      · intro hmem
        obtain ⟨entry', hentry, rfl⟩ := List.mem_map.1 hmem
        refine or_iff_not_imp_left.2 fun hne => List.mem_map.2 ⟨entry', ?_, rfl⟩
        exact List.mem_filter.2 ⟨hentry, by simpa using hne⟩
      · rintro (rfl | hmem)
        · exact hmain
        · obtain ⟨entry', hentry, rfl⟩ := List.mem_map.1 hmem
          exact List.mem_map.2 ⟨entry', (List.mem_filter.1 hentry).1, rfl⟩

theorem createdNetworks_of_networks {body : CreateContainerRequestBodySchema}
    {networks : List String} (h : body.networks = dropNil (some networks)) :
    createdNetworks body = if networks = [] then {"bridge"}
      else (networks.filter fun n => !startsWith n "container:").toFinset := by
  unfold createdNetworks
  rw [h]
  cases networks with
  | nil => rfl
  | cons network networks =>
      have hdrop : dropNil (some (network :: networks)) = some (network :: networks) := by
        simp [dropNil]
      rw [hdrop, if_neg (by simp)]

theorem networks_of_config
    (h : getContainerConfig c image dockerVersion = .ok (cfg, commands)) :
    cfg.networks = dropNil (some (configNetworks c)) := by
  obtain ⟨-, -, -, hnetworks, -⟩ := getContainerConfig_ok h
  rw [hnetworks, getContainerNetKwargs_networks]

theorem toFinset_filter_singleton (network : String) :
    ([network].filter fun n => !startsWith n "container:").toFinset =
      if startsWith network "container:" then ∅ else {network} := by
  by_cases hstart : startsWith network "container:" <;> simp [hstart]

/-- The network that `create` gets with the configuration of a container that is
attached to one at least. -/
theorem createdNetworks_of_split {main : String} {further : Dict String NetworkInspectResult}
    (h : getContainerConfig c image dockerVersion = .ok (cfg, commands))
    (hsplit : splitNetworks c = some (main, further)) :
    createdNetworks cfg = if startsWith main "container:" then ∅ else {main} := by
  have hone : configNetworks c = [main] := by simp [configNetworks, hsplit]
  rw [createdNetworks_of_networks (networks_of_config h), hone, if_neg (by simp),
    toFinset_filter_singleton]

/-- A container that is attached to no network gets one, unless it shares the network
stack of another. -/
theorem createdNetworks_of_split_none
    (h : getContainerConfig c image dockerVersion = .ok (cfg, commands))
    (hsplit : splitNetworks c = none) :
    createdNetworks cfg = ∅ ↔ startsWith ((networkMode c).getD "") "container:" := by
  rw [createdNetworks_of_networks (networks_of_config h), configNetworks, hsplit]
  cases hmode : networkMode c with
  | none => simp [truthy, show startsWith "" "container:" = false by decide]
  | some mode =>
      by_cases htruthy : truthy (some mode)
      · have hlist : (if truthy (some mode) then (some mode).toList else []) = [mode] :=
          if_pos htruthy
        simp only [hlist, toFinset_filter_singleton, List.cons_ne_nil, if_false]
        by_cases hstart : startsWith mode "container:" <;> simp [hstart]
      · have hempty : mode = "" := by simpa [truthy] using htruthy
        simp [hempty, truthy, show startsWith "" "container:" = false by decide]

theorem createdNetworks_merged {remoteImage : ImageInspectResult}
    {merged : CreateContainerRequestBodySchema}
    (h : getContainerConfig c image dockerVersion = .ok (cfg, commands))
    (hmerged : diffContainerConfigWithImage cfg remoteImage = .ok merged) :
    createdNetworks merged = createdNetworks cfg := by
  have hnetworks := networks_of_config h
  rcases diffContainerConfigWithImage_eq_ok hmerged with ⟨rfl, -⟩ | ⟨imageConfig, -, rfl⟩
  · rfl
  · rw [createdNetworks_of_networks hnetworks]
    refine createdNetworks_of_networks ?_
    change dropNil cfg.networks = _
    rw [hnetworks, dropNil_dropNil]

/-! ## The deferred commands -/

theorem connectedBy_of_split_none
    (h : getContainerConfig c image dockerVersion = .ok (cfg, commands))
    (hsplit : splitNetworks c = none) : connectedBy commands = ∅ := by
  obtain ⟨-, -, -, -, hcommands⟩ := getContainerConfig_ok h
  rw [hcommands, getContainerNetKwargs_commands, hsplit]
  rfl

section

variable {main : String} {further : Dict String NetworkInspectResult}
  (h : getContainerConfig c image dockerVersion = .ok (cfg, commands))
  (hsplit : splitNetworks c = some (main, further))

include h hsplit

theorem mem_connectedBy_of_split {network : String} :
    network ∈ connectedBy commands ↔ ∃ endpoint, (network, endpoint) ∈ further ∧
      isAllowedCommand (networkConnectCommand c.name network endpoint) := by
  obtain ⟨-, -, -, -, hcommands⟩ := getContainerConfig_ok h
  rw [hcommands, getContainerNetKwargs_commands, hsplit, mem_connectedBy]
  constructor
  · rintro ⟨command, hmem, hallowed, name, htarget⟩
    obtain ⟨⟨network', endpoint⟩, hentry, rfl⟩ := List.mem_map.1 hmem
    rw [connectTarget_networkConnectCommand] at htarget
    cases htarget
    exact ⟨endpoint, hentry, hallowed⟩
  · rintro ⟨endpoint, hentry, hallowed⟩
    exact ⟨_, List.mem_map.2 ⟨_, hentry, rfl⟩, hallowed, _,
      connectTarget_networkConnectCommand _ _ _⟩

theorem connectedBy_subset : connectedBy commands ⊆ (further.map Prod.fst).toFinset := by
  intro network hmem
  obtain ⟨endpoint, hentry, -⟩ := (mem_connectedBy_of_split h hsplit).1 hmem
  exact List.mem_toFinset.2 (List.mem_map.2 ⟨_, hentry, rfl⟩)

theorem connectedBy_eq_iff : connectedBy commands = (further.map Prod.fst).toFinset ↔
    ∀ network ∈ further.map Prod.fst, ∃ endpoint, (network, endpoint) ∈ further ∧
      isAllowedCommand (networkConnectCommand c.name network endpoint) := by
  constructor
  · intro heq network hnetwork
    rw [← mem_connectedBy_of_split h hsplit, heq]
    exact List.mem_toFinset.2 hnetwork
  · intro hall
    refine (connectedBy_subset h hsplit).antisymm fun network hmem => ?_
    exact (mem_connectedBy_of_split h hsplit).2 (hall network (List.mem_toFinset.1 hmem))

theorem connected_eq_iff :
    (if isRunningContainer c then connectedBy commands else ∅) =
        (further.map Prod.fst).toFinset ↔
      further = [] ∨ isRunningContainer c ∧ ∀ network ∈ further.map Prod.fst,
        ∃ endpoint, (network, endpoint) ∈ further ∧
          isAllowedCommand (networkConnectCommand c.name network endpoint) := by
  by_cases hrunning : isRunningContainer c
  · rw [if_pos hrunning, connectedBy_eq_iff h hsplit]
    refine ⟨fun hall => .inr ⟨hrunning, hall⟩, ?_⟩
    rintro (rfl | ⟨-, hall⟩)
    · simp
    · exact hall
  · rw [if_neg hrunning, eq_comm]
    simp [hrunning]

end

theorem singleton_union_eq_insert_iff {main : String} {connected further : Finset String}
    (hconnected : main ∉ connected) (hfurther : main ∉ further) :
    {main} ∪ connected = insert main further ↔ connected = further := by
  rw [← Finset.insert_eq]
  constructor
  · intro heq
    have herase := congrArg (Finset.erase · main) heq
    simpa [hconnected, hfurther] using herase
  · rintro rfl
    rfl

/-- The network of `create` and those of the commands are the attached networks,
exactly if the networks are restorable. -/
theorem restored_iff (h : getContainerConfig c image dockerVersion = .ok (cfg, commands)) :
    createdNetworks cfg ∪ (if isRunningContainer c then connectedBy commands else ∅) =
      networksOf c ↔ NetworksRestorable c := by
  unfold NetworksRestorable
  cases hsplit : splitNetworks c with
  | none =>
      rw [splitNetworks_eq_none hsplit, connectedBy_of_split_none h hsplit, ite_self,
        Finset.union_empty]
      exact createdNetworks_of_split_none h hsplit
  | some split =>
      obtain ⟨main, further⟩ := split
      obtain ⟨hnetworks, hmain⟩ := splitNetworks_eq_some hsplit
      have hconnected : main ∉ if isRunningContainer c then connectedBy commands else ∅ := by
        split
        · exact fun hmem => hmain (connectedBy_subset h hsplit hmem)
        · simp
      rw [hnetworks, createdNetworks_of_split h hsplit]
      by_cases hstart : startsWith main "container:"
      · -- `create` gets no network
        simp only [hstart, if_true, Finset.empty_union, not_true_eq_false, false_and, iff_false]
        intro heq
        rw [heq] at hconnected
        exact hconnected (Finset.mem_insert_self _ _)
      · simp only [hstart, Bool.false_eq_true, if_false, not_false_eq_true, true_and]
        rw [singleton_union_eq_insert_iff hconnected hmain, connected_eq_iff h hsplit]

/-! ## Runs -/

/-- Where every request succeeds, an updated or restored container has the networks of
the one it replaces, exactly if these are restorable. -/
theorem networks_kept_iff {nameOf : String → String} {env : ExecEnv} {host : HostsModel}
    {containers : HostContainers} {plan : UpdatePlan} {tr : Trace Agent}
    {result : Except Exn (Option UpdatePlanResult)} {items : Items} {item : UpdatePlanItem}
    (canonical : String → String) (d₀ : Docker)
    (run : Execution nameOf env host containers plan dockerVersion tr result items)
    (hok : AllOk tr) (hc : PlanHas plan containers c) (hget : items.get? c.name = some item)
    (hresult : item.result = some .updated ∨ item.result = some .rolledBack) :
    ((Docker.after canonical d₀ tr).containers c.name).map DockerContainer.networks =
        some (networksOf c) ↔ NetworksRestorable c := by
  obtain ⟨hready, hupdated, hrolledBack⟩ := outcome_of_execution canonical d₀ run hc hget
  have hrunning : item.wasRunning = isRunningContainer c := hready.wasRunning
  rcases hresult with hresult | hresult
  · obtain ⟨config, remoteImage, merged, hconfig, -, hmerged, ⟨dc, hdc⟩, -⟩ := hupdated hresult
    obtain ⟨hnone, -⟩ | ⟨image, cfg, hsome, hcfg⟩ := hready.config
    · exact absurd (hconfig.symm.trans hnone) (by simp)
    obtain rfl : cfg = config := Option.some.inj (hsome.symm.trans hconfig)
    rw [hdc.holds, Option.map_some, Option.some.injEq, hdc.networks hok, updatedNetworks,
      createdNetworks_merged hcfg hmerged, ← restored_iff hcfg]
    exact iff_of_eq (by rw [← hrunning]; rfl)
  · obtain ⟨config, localImage, hconfig, -, ⟨dc, hdc⟩, hfailed⟩ := hrolledBack hresult
    obtain ⟨hnone, -⟩ | ⟨image, cfg, hsome, hcfg⟩ := hready.config
    · exact absurd (hconfig.symm.trans hnone) (by simp)
    obtain rfl : cfg = config := Option.some.inj (hsome.symm.trans hconfig)
    -- the update of a stopped container does not fail where every request succeeds
    have hrun : isRunningContainer c := by
      by_contra hstopped
      exact hfailed (hrunning.trans (by simpa using hstopped)) hok
    rw [hdc.holds, Option.map_some, Option.some.injEq, hdc.networks hok, ← restored_iff hcfg,
      if_pos hrun]

end

def isOk (e : Event Agent) : Bool :=
  match e with
  | ⟨.agent _ _, reply⟩ =>
      match reply with
      | .ok _ => true
      | .raised _ => false
  | _ => true

theorem allOk_of_all {tr : Trace Agent} (h : tr.all isOk = true) : AllOk tr := by
  intro site request lost hmem
  have hok := List.all_eq_true.1 h _ hmem
  cases hok

/-- A container on two networks, running or not. -/
def dualContainer (status : String) : ContainerInspectResult where
  name := "dual"
  image := some "old"
  state := some { status := some status }
  config := some { image := some "app:latest" }
  networkSettings := some { networks := some [("front", {}), ("back", {})] }
  name_nonblank := by decide

def dualHost (status : String) : HostContainers where
  list := [dualContainer status]
  nodup := by simp

def dualPlan : UpdatePlan where
  toUpdate := {"dual"}
  affected := ∅
  order := ["dual"]
  order_nodup := by decide
  disjoint := by decide

/-- A running container is connected to both of its networks again. -/
theorem networks_kept_iff_dual :
    ((Docker.after id (.ofHost (dualHost "running")) (simulateExecution faultless exampleEnv
        exampleHost (dualHost "running") dualPlan []).1).containers "dual").map
          DockerContainer.networks = some (networksOf (dualContainer "running")) ↔
      NetworksRestorable (dualContainer "running") := by
  have hfinal : ((simulateExecution faultless exampleEnv exampleHost (dualHost "running") dualPlan
      []).2.2.get? "dual").any (·.result = some .updated) = true := by decide +kernel
  obtain ⟨item, hget, hresult⟩ := (Option.any_eq_true _ _).1 hfinal
  exact networks_kept_iff id (.ofHost (dualHost "running"))
    (simulateExecution_execution faultless _ _ _ _ [] (by decide))
    (allOk_of_all (by decide +kernel)) (c := dualContainer "running") (by decide) hget
    (.inl (of_decide_eq_true hresult))

/-- A stopped container loses the second of its networks, although every request
succeeds. -/
theorem stopped_dual_loses_network :
    ∃ tr result items item,
      Execution simNameOf exampleEnv exampleHost (dualHost "exited") dualPlan none tr result
          items ∧
        AllOk tr ∧ PlanHas dualPlan (dualHost "exited") (dualContainer "exited") ∧
        items.get? "dual" = some item ∧ item.result = some .updated ∧
        ((Docker.after id (.ofHost (dualHost "exited")) tr).containers "dual").map
          DockerContainer.networks ≠ some (networksOf (dualContainer "exited")) := by
  have hfinal : ((simulateExecution faultless exampleEnv exampleHost (dualHost "exited") dualPlan
      []).2.2.get? "dual").any (·.result = some .updated) = true := by decide +kernel
  obtain ⟨item, hget, hresult⟩ := (Option.any_eq_true _ _).1 hfinal
  exact ⟨_, _, _, item, simulateExecution_execution faultless _ _ _ _ [] (by decide),
    allOk_of_all (by decide +kernel), by decide, hget, of_decide_eq_true hresult,
    by decide +kernel⟩

end Tugtainer
