import Tugtainer.Plan.Selection

/-!
# When the planner returns

The breadth-first search never settles a container that is selected for update,
so it runs in circles on a dependency cycle of such containers. Everything else
about the planner terminates: `buildUpdatePlan_returns_iff` says that a plan
comes out exactly when the selected containers do not depend on one another in
a cycle.
-/

namespace Tugtainer

open Python

/-- Both containers are selected for update, and the first depends on the
second. -/
def SelectedDependsOn (env : PlanEnv) (host : HostsModel)
    (containers manualFor : List ContainerInspectResult) (a b : String) : Prop :=
  Selected env host containers manualFor a ∧ Selected env host containers manualFor b ∧
    DependsOn (containers.filter (isEligible env)) a b

/-- Some containers that are selected for update depend on one another in a
cycle; a container that depends on itself is one. -/
def HasSelectedCycle (env : PlanEnv) (host : HostsModel)
    (containers manualFor : List ContainerInspectResult) : Prop :=
  ∃ a, Relation.TransGen (SelectedDependsOn env host containers manualFor) a a

/-! ## The search -/

theorem subset_graphNames {dependsOn : Dict String (Finset String)} {name : String}
    {deps : Finset String} (h : (name, deps) ∈ dependsOn) :
    name ∈ graphNames dependsOn ∧ deps ⊆ graphNames dependsOn := by
  induction dependsOn with
  | nil => simp at h
  | cons item rest ih =>
      have hcons : graphNames (item :: rest) =
          insert item.1 (item.2 ∪ graphNames rest) := rfl
      rw [hcons]
      rcases List.mem_cons.1 h with rfl | h
      · exact ⟨by simp, fun x hx => by simp [hx]⟩
      · obtain ⟨hname, hdeps⟩ := ih h
        exact ⟨by simp [hname], fun x hx => by simp [hdeps hx]⟩

theorem mem_dependables_iff (ord : SetOrder PlanSite String)
    {containers : List ContainerInspectResult} {x node : String} :
    x ∈ dependables ord (dependablesMap ord (dependsOnMap containers)) node ↔
      DependsOn containers x node := by
  unfold dependables
  rw [ord.mem_iff, mem_dependablesMap_iff, ← mem_dependsOnMap_iff]
  constructor
  · rintro ⟨deps, hmem, hd⟩
    rw [(Dict.mem_iff_get? (nodup_keys_dependsOnMap containers)).1 hmem]
    exact hd
  · intro h
    cases hget : (dependsOnMap containers).get? x with
    | none => simp [hget] at h
    | some deps => exact ⟨deps, Dict.mem_of_get? hget, by simpa [hget] using h⟩

theorem dependables_subset_graphNames (ord : SetOrder PlanSite String)
    (dependsOn : Dict String (Finset String)) {x node : String}
    (h : x ∈ dependables ord (dependablesMap ord dependsOn) node) :
    x ∈ graphNames dependsOn := by
  obtain ⟨deps, hmem, -⟩ := (mem_dependablesMap_iff ord dependsOn x node).1
    ((ord.mem_iff _ _ _).1 h)
  exact (subset_graphNames hmem).1

/-- The search ends exactly when no cycle of dependables stays inside
`toUpdate`. -/
theorem exists_searchAffected_iff (ord : SetOrder PlanSite String)
    (dependsOn : Dict String (Finset String)) (toUpdate : Finset String) :
    (∃ fuel affected, searchAffected ord dependsOn toUpdate fuel = some affected) ↔
      ¬ Worklist.HasInnerCycle (dependables ord (dependablesMap ord dependsOn)) toUpdate := by
  have hhalts : Worklist.Halts (dependables ord (dependablesMap ord dependsOn)) toUpdate
      ⟨ord.iter .queue toUpdate, ∅⟩ ↔
        ¬ Worklist.HasInnerCycle (dependables ord (dependablesMap ord dependsOn)) toUpdate :=
    Worklist.halts_iff (U := graphNames dependsOn ∪ toUpdate)
      (fun _ _ _ hy => Finset.mem_union_left _ (dependables_subset_graphNames ord dependsOn hy))
      (fun _ hx => Finset.mem_union_right _ ((ord.mem_iff _ _ _).1 hx))
      fun _ hx => (ord.mem_iff _ _ _).2 hx
  rw [← hhalts, ← Worklist.exists_run_eq_some_iff]
  refine exists_congr fun fuel => ?_
  unfold searchAffected
  split
  · rename_i h
    simp [h]
  · rename_i affected h
    exact ⟨fun _ => ⟨affected, h⟩, fun _ => ⟨_, rfl⟩⟩

/-! ## The sort -/

theorem dependencies_subset_graphNames (ord : SetOrder PlanSite String)
    (dependsOn : Dict String (Finset String)) {x node : String}
    (h : x ∈ dependencies ord dependsOn node) : x ∈ graphNames dependsOn := by
  have hx := (ord.mem_iff _ _ _).1 h
  cases hget : dependsOn.get? node with
  | none => simp [hget] at hx
  | some deps =>
      rw [hget] at hx
      exact (subset_graphNames (Dict.mem_of_get? hget)).2 hx

theorem exists_topologicalOrder (ord : SetOrder PlanSite String)
    (dependsOn : Dict String (Finset String)) (involved : Finset String) :
    ∃ order, topologicalOrder ord dependsOn involved = some order := by
  have htotal : ∃ s, PostOrder.visitAll (dependencies ord dependsOn)
      ((graphNames dependsOn ∪ involved).card + 1) (ord.iter .involved involved) = some s :=
    PostOrder.visitAll_total (U := graphNames dependsOn ∪ involved)
      (fun x _ y hy => Finset.mem_union_left _ (dependencies_subset_graphNames ord dependsOn hy))
      (Nat.lt_succ_self _)
      fun x hx => Finset.mem_union_right _ ((ord.mem_iff _ _ _).1 hx)
  obtain ⟨s, hs⟩ := htotal
  unfold topologicalOrder
  split
  · rename_i h
    rw [hs] at h
    cases h
  · exact ⟨_, rfl⟩

/-! ## The planner -/

theorem hasInnerCycle_iff (ord : SetOrder PlanSite String) (env : PlanEnv)
    (host : HostsModel) (containers manualFor : List ContainerInspectResult) :
    Worklist.HasInnerCycle
        (dependables ord (dependablesMap ord
          (dependsOnMap (containers.filter (isEligible env)))))
        (selectToUpdate env (containersDb env host) (containers.filter (isEligible env))
          (manualFor.filter (isEligible env))) ↔
      HasSelectedCycle env host containers manualFor := by
  have hinner : Worklist.Inner
      (dependables ord (dependablesMap ord (dependsOnMap (containers.filter (isEligible env)))))
      (selectToUpdate env (containersDb env host) (containers.filter (isEligible env))
        (manualFor.filter (isEligible env))) =
      Function.swap (SelectedDependsOn env host containers manualFor) := by
    ext x y
    simp only [Worklist.Inner, Function.swap, SelectedDependsOn, mem_selectToUpdate_iff,
      mem_dependables_iff]
    tauto
  unfold Worklist.HasInnerCycle HasSelectedCycle
  rw [hinner]
  exact exists_congr fun a => Relation.transGen_swap

theorem exists_plan_iff (ord : SetOrder PlanSite String) (env : PlanEnv)
    (host : HostsModel) (containers manualFor : List ContainerInspectResult) :
    (∃ fuel plan, buildUpdatePlan ord env host containers manualFor fuel = some plan) ↔
      ¬ Worklist.HasInnerCycle
        (dependables ord (dependablesMap ord
          (dependsOnMap (containers.filter (isEligible env)))))
        (selectToUpdate env (containersDb env host) (containers.filter (isEligible env))
          (manualFor.filter (isEligible env))) := by
  rw [← exists_searchAffected_iff]
  refine exists_congr fun fuel => ?_
  constructor
  · rintro ⟨plan, h⟩
    obtain ⟨affected, ha, -⟩ := buildUpdatePlan_eq_some_iff.1 h
    exact ⟨affected, ha⟩
  · rintro ⟨affected, ha⟩
    obtain ⟨order, ho⟩ := exists_topologicalOrder ord
      (dependsOnMap (containers.filter (isEligible env)))
      (affected.1 ∪ selectToUpdate env (containersDb env host)
        (containers.filter (isEligible env)) (manualFor.filter (isEligible env)))
    exact ⟨_, buildUpdatePlan_eq_some_iff.2 ⟨affected, ha, order, ho, rfl⟩⟩

/-- The planner returns a plan exactly when the containers selected for update
do not depend on one another in a cycle. -/
theorem buildUpdatePlan_returns_iff (ord : SetOrder PlanSite String) (env : PlanEnv)
    (host : HostsModel) (containers manualFor : List ContainerInspectResult) :
    (∃ fuel plan, buildUpdatePlan ord env host containers manualFor fuel = some plan) ↔
      ¬ HasSelectedCycle env host containers manualFor := by
  rw [exists_plan_iff, hasInnerCycle_iff]

/-- A running container whose label names the container itself. -/
def selfDependent : ContainerInspectResult where
  name := "worker"
  state := some { status := some "running" }
  config := some
    { image := some "worker:latest", labels := some [(tugtainerDependsOnLabel, "worker")] }
  name_nonblank := by decide

/-- One row with an available update for `selfDependent`. -/
def selfDependentEnv : PlanEnv where
  updateOnlyRunning := true
  delayUpdateFor := 0
  now := 0
  rows := [{ hostId := 1, name := "worker", updateEnabled := true, updateAvailable := true }]

/-- For a container that depends on itself and has an available update the
planner never returns. -/
theorem selfDependent_never_returns :
    ¬ ∃ fuel plan, buildUpdatePlan (.ascending PlanSite) selfDependentEnv
      { id := 1, name := "host" } [selfDependent] [] fuel = some plan := by
  rw [exists_plan_iff, hasInnerCycle_iff, not_not]
  have hsel : Selected selfDependentEnv { id := 1, name := "host" } [selfDependent] []
      "worker" := by
    unfold Selected
    decide
  have hdep : DependsOn ([selfDependent].filter (isEligible selfDependentEnv)) "worker"
      "worker" :=
    ⟨selfDependent, by decide, .inl (by decide)⟩
  exact ⟨"worker", .single ⟨hsel, hsel, hdep⟩⟩

end Tugtainer
