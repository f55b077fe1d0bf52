import Tugtainer.Executor.Outcome
import Tugtainer.Executor.Simulation

/-!
# The images of updated and restored containers

A result is to say which image a container runs: the pulled one where it is
`updated`, and the one from before where it is `rolled_back`. The containers are
created from an image reference, though, and what decides is where the reference
points at that moment. The rollback of another container may have moved it since
it was pulled, and the rollback itself may have failed to move it back:
`updated_iff_tagKept` and `rolledBack_iff_tagKept`.
-/

namespace Tugtainer

open Python Interaction

/-! ## Updated containers -/

/-- The container is the updated one: created from the merged configuration, on the
pulled image, and started and healthy if it was running before. -/
def RunsUpdate (item : UpdatePlanItem) (n : String) (d : Docker) (tr : Trace Agent) : Prop :=
  ∃ config remoteImage merged dc, item.config = some config ∧
    item.remoteImage = some remoteImage ∧
    diffContainerConfigWithImage config remoteImage = .ok merged ∧ d.containers n = some dc ∧
    dc.createdFrom = some merged ∧ dc.image = remoteImage.id ∧
    (item.wasRunning → dc.running ∧ LastWait n true tr)

/-- An item that ends as `updated` stands for the updated container exactly if its
image reference still pointed to the pulled image when the container was created. -/
theorem updated_iff_tagKept (canonical : String → String) (d₀ : Docker)
    {nameOf : String → String} {env : ExecEnv} {host : HostsModel} {containers : HostContainers}
    {plan : UpdatePlan} {dockerVersion : Option DockerVersion} {tr : Trace Agent}
    {result : Except Exn (Option UpdatePlanResult)} {items : Items}
    {c : ContainerInspectResult} {item : UpdatePlanItem}
    (run : Execution nameOf env host containers plan dockerVersion tr result items)
    (hc : PlanHas plan containers c) (hget : items.get? c.name = some item)
    (hresult : item.result = some .updated) :
    RunsUpdate item c.name (Docker.after canonical d₀ tr) tr ↔
      ∀ remoteImage, item.remoteImage = some remoteImage →
        TagKept canonical .recreate c.name remoteImage.id tr := by
  obtain ⟨config, remoteImage, merged, hconfig, hremote, hmerged, ⟨dc, hdc⟩, hhealthy⟩ :=
    (outcome_of_execution canonical d₀ run hc hget).2.updated hresult
  have hconfig' : item.config = some config := hconfig
  have hremote' : item.remoteImage = some remoteImage := hremote
  constructor
  · rintro ⟨_, remoteImage', _, dc', -, hremote'', -, hholds, -, himage, -⟩ _ hsome
    obtain rfl := Option.some.inj (hremote''.symm.trans hsome)
    obtain rfl : dc' = dc := Option.some.inj (hholds.symm.trans hdc.holds)
    exact (hdc.image _).1 himage
  · intro htag
    exact ⟨config, remoteImage, merged, dc, hconfig', hremote', hmerged, hdc.holds,
      hdc.createdFrom, (hdc.image _).2 (htag _ hremote'),
      fun hrun => ⟨hdc.running.trans hrun, hhealthy hrun⟩⟩

/-- Two containers that run the same old image, and the plan that updates both. -/
def web1Container : ContainerInspectResult where
  name := "web1"
  image := some "old"
  state := some { status := some "running" }
  config := some { image := some "app:latest" }
  name_nonblank := by decide

def web2Container : ContainerInspectResult where
  name := "web2"
  image := some "old"
  state := some { status := some "running" }
  config := some { image := some "app:latest" }
  name_nonblank := by decide

def websHost : HostContainers where
  list := [web1Container, web2Container]
  nodup := by decide

def websPlan : UpdatePlan where
  toUpdate := {"web1", "web2"}
  affected := ∅
  order := ["web1", "web2"]
  order_nodup := by decide
  disjoint := by decide

/-- The new container of `web1` is rejected. -/
def web1Fails : Scenario where
  registry _ := "new"
  fails site request :=
    site = .recreate && request.kind = .create && request.target = some "web1"

/-- Where nothing fails, `web2` is updated. -/
theorem updated_iff_tagKept_web2 :
    ∃ item, (simulateExecution faultless exampleEnv exampleHost websHost websPlan []).2.2.get?
        "web2" = some item ∧
      (RunsUpdate item "web2" (Docker.after id (.ofHost websHost)
          (simulateExecution faultless exampleEnv exampleHost websHost websPlan []).1)
          (simulateExecution faultless exampleEnv exampleHost websHost websPlan []).1 ↔
        ∀ remoteImage, item.remoteImage = some remoteImage →
          TagKept id .recreate "web2" remoteImage.id
            (simulateExecution faultless exampleEnv exampleHost websHost websPlan []).1) := by
  have hfinal : ((simulateExecution faultless exampleEnv exampleHost websHost websPlan []).2.2.get?
      "web2").any (·.result = some .updated) = true := by decide +kernel
  obtain ⟨item, hget, hresult⟩ := (Option.any_eq_true _ _).1 hfinal
  exact ⟨item, hget, updated_iff_tagKept id (.ofHost websHost)
    (simulateExecution_execution faultless _ _ _ _ [] (by decide)) (c := web2Container)
    (by decide) hget (of_decide_eq_true hresult)⟩

/-- The rollback of `web1` points the image spec to the old image again, and `web2` is
updated to that. -/
theorem web2_is_updated_to_old :
    ∃ tr result items item,
      Execution simNameOf exampleEnv exampleHost websHost websPlan none tr result items ∧
        PlanHas websPlan websHost web2Container ∧ items.get? "web2" = some item ∧
        item.result = some .updated ∧
        ¬ RunsUpdate item "web2" (Docker.after id (.ofHost websHost) tr) tr := by
  have hfinal : ((simulateExecution web1Fails exampleEnv exampleHost websHost websPlan []).2.2.get?
      "web2").any (fun item => item.result = some .updated ∧
        item.remoteImage.map ImageInspectResult.id = some (some "new")) = true := by decide +kernel
  obtain ⟨item, hget, hitem⟩ := (Option.any_eq_true _ _).1 hfinal
  obtain ⟨hresult, hremote⟩ := of_decide_eq_true hitem
  have hold : ((Docker.after id (.ofHost websHost)
      (simulateExecution web1Fails exampleEnv exampleHost websHost websPlan []).1).containers
      "web2").map DockerContainer.image = some (some "old") := by decide +kernel
  refine ⟨_, _, _, item, simulateExecution_execution web1Fails _ _ _ _ [] (by decide), by decide,
    hget, hresult, ?_⟩
  rintro ⟨_, remoteImage, _, dc, -, hsome, -, hholds, -, himage, -⟩
  rw [hholds, Option.map_some, himage] at hold
  rw [hsome, Option.map_some, hold] at hremote
  exact absurd hremote (by decide)

/-! ## Restored containers -/

/-- The container is the previous one: created from the configuration read before the
update, on the image from before. -/
def RunsPrevious (item : UpdatePlanItem) (n : String) (d : Docker) : Prop :=
  ∃ config localImage dc, item.config = some config ∧ item.localImage = some localImage ∧
    d.containers n = some dc ∧ dc.createdFrom = some config ∧ dc.image = localImage.id

/-- An item that ends as `rolled_back` stands for the previous container exactly if its
image reference pointed to the image from before when the container was created. -/
theorem rolledBack_iff_tagKept (canonical : String → String) (d₀ : Docker)
    {nameOf : String → String} {env : ExecEnv} {host : HostsModel} {containers : HostContainers}
    {plan : UpdatePlan} {dockerVersion : Option DockerVersion} {tr : Trace Agent}
    {result : Except Exn (Option UpdatePlanResult)} {items : Items}
    {c : ContainerInspectResult} {item : UpdatePlanItem}
    (run : Execution nameOf env host containers plan dockerVersion tr result items)
    (hc : PlanHas plan containers c) (hget : items.get? c.name = some item)
    (hresult : item.result = some .rolledBack) :
    RunsPrevious item c.name (Docker.after canonical d₀ tr) ↔
      ∀ localImage, item.localImage = some localImage →
        TagKept canonical .rollBack c.name localImage.id tr := by
  obtain ⟨config, localImage, hconfig, hlocal, ⟨dc, hdc⟩, -⟩ :=
    (outcome_of_execution canonical d₀ run hc hget).2.rolledBack hresult
  have hconfig' : item.config = some config := hconfig
  have hlocal' : item.localImage = some localImage := hlocal
  constructor
  · rintro ⟨_, localImage', dc', -, hlocal'', hholds, -, himage⟩ _ hsome
    obtain rfl := Option.some.inj (hlocal''.symm.trans hsome)
    obtain rfl : dc' = dc := Option.some.inj (hholds.symm.trans hdc.holds)
    exact (hdc.image _).1 himage
  · intro htag
    exact ⟨config, localImage, dc, hconfig', hlocal', hdc.holds, hdc.createdFrom,
      (hdc.image _).2 (htag _ hlocal')⟩

/-- The new container of `web1` is rejected, and so is the tag of its rollback. -/
def web1TagFails : Scenario where
  registry _ := "new"
  fails site request := web1Fails.fails site request ||
    (site = .rollBack && request.kind = .image)

/-- Where the tag of the rollback succeeds, `web1` is as it was. -/
theorem rolledBack_iff_tagKept_web1 :
    ∃ item, (simulateExecution web1Fails exampleEnv exampleHost websHost websPlan []).2.2.get?
        "web1" = some item ∧
      (RunsPrevious item "web1" (Docker.after id (.ofHost websHost)
          (simulateExecution web1Fails exampleEnv exampleHost websHost websPlan []).1) ↔
        ∀ localImage, item.localImage = some localImage →
          TagKept id .rollBack "web1" localImage.id
            (simulateExecution web1Fails exampleEnv exampleHost websHost websPlan []).1) := by
  have hfinal : ((simulateExecution web1Fails exampleEnv exampleHost websHost websPlan []).2.2.get?
      "web1").any (·.result = some .rolledBack) = true := by decide +kernel
  obtain ⟨item, hget, hresult⟩ := (Option.any_eq_true _ _).1 hfinal
  exact ⟨item, hget, rolledBack_iff_tagKept id (.ofHost websHost)
    (simulateExecution_execution web1Fails _ _ _ _ [] (by decide)) (c := web1Container)
    (by decide) hget (of_decide_eq_true hresult)⟩

/-- Where the tag of the rollback fails, `web1` is restored on the new image. -/
theorem web1_is_rolledBack_to_new :
    ∃ tr result items item,
      Execution simNameOf exampleEnv exampleHost websHost websPlan none tr result items ∧
        PlanHas websPlan websHost web1Container ∧ items.get? "web1" = some item ∧
        item.result = some .rolledBack ∧
        ¬ RunsPrevious item "web1" (Docker.after id (.ofHost websHost) tr) := by
  have hfinal : ((simulateExecution web1TagFails exampleEnv exampleHost websHost websPlan
      []).2.2.get? "web1").any (fun item => item.result = some .rolledBack ∧
        item.localImage.map ImageInspectResult.id = some (some "old")) = true := by decide +kernel
  obtain ⟨item, hget, hitem⟩ := (Option.any_eq_true _ _).1 hfinal
  obtain ⟨hresult, hlocal⟩ := of_decide_eq_true hitem
  have hnew : ((Docker.after id (.ofHost websHost)
      (simulateExecution web1TagFails exampleEnv exampleHost websHost websPlan []).1).containers
      "web1").map DockerContainer.image = some (some "new") := by decide +kernel
  refine ⟨_, _, _, item, simulateExecution_execution web1TagFails _ _ _ _ [] (by decide),
    by decide, hget, hresult, ?_⟩
  rintro ⟨_, localImage, dc, -, hsome, hholds, -, himage⟩
  rw [hholds, Option.map_some, himage] at hnew
  rw [hsome, Option.map_some, hnew] at hlocal
  exact absurd hlocal (by decide)

end Tugtainer
