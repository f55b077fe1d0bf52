import Tugtainer.Plan.Build

/-!
# Which containers are selected

`Selected` reads off the inputs which containers the planner selects for update.
A manual run and a scheduled run differ in the rules, and the planner tells them
apart by whether an eligible container is left in `manual_for`. A manual request
for protected or stopped containers only is therefore treated as a scheduled
run; `toUpdate_subset_manualFor_iff` says when that makes a difference.
-/

namespace Tugtainer

open Python

/-- The container of that name is selected for update: by the manual run, where
an eligible container was asked for, and by the schedule otherwise. -/
def Selected (env : PlanEnv) (host : HostsModel)
    (containers manualFor : List ContainerInspectResult) (name : String) : Prop :=
  if ∃ c ∈ manualFor, isEligible env c then
    ∃ c ∈ manualFor, isEligible env c ∧ isManualUpdate (containersDb env host) c ∧
      c.name = name
  else
    ∃ c ∈ containers, isEligible env c ∧ isScheduledUpdate env (containersDb env host) c ∧
      c.name = name

theorem mem_selectToUpdate_iff {env : PlanEnv} {host : HostsModel}
    {containers manualFor : List ContainerInspectResult} {name : String} :
    name ∈ selectToUpdate env (containersDb env host) (containers.filter (isEligible env))
        (manualFor.filter (isEligible env)) ↔
      Selected env host containers manualFor name := by
  unfold selectToUpdate Selected
  cases h : manualFor.filter (isEligible env) with
  | nil =>
      have hnone : ¬ ∃ c ∈ manualFor, isEligible env c := by
        rintro ⟨c, hc, he⟩
        have hmem : c ∈ manualFor.filter (isEligible env) := List.mem_filter.2 ⟨hc, he⟩
        simp [h] at hmem
      rw [if_neg hnone]
      simp only [List.mem_toFinset, List.mem_map, List.mem_filter]
      exact exists_congr fun c => by tauto
  | cons c rest =>
      have hmem : ∀ x, x ∈ manualFor ∧ isEligible env x ↔ x ∈ c :: rest := fun x => by
        rw [← h, List.mem_filter]
      rw [if_pos ⟨c, (hmem c).2 (by simp)⟩]
      simp only [List.mem_toFinset, List.mem_map, List.mem_filter, ← hmem, and_assoc]

theorem selected_of_manual {env : PlanEnv} {host : HostsModel}
    {containers manualFor : List ContainerInspectResult} {name : String}
    (h : ∃ c ∈ manualFor, isEligible env c) :
    Selected env host containers manualFor name ↔
      ∃ c ∈ manualFor, isEligible env c ∧ isManualUpdate (containersDb env host) c ∧
        c.name = name := by
  unfold Selected
  rw [if_pos h]

theorem selected_of_scheduled {env : PlanEnv} {host : HostsModel}
    {containers manualFor : List ContainerInspectResult} {name : String}
    (h : ¬ ∃ c ∈ manualFor, isEligible env c) :
    Selected env host containers manualFor name ↔
      ∃ c ∈ containers, isEligible env c ∧ isScheduledUpdate env (containersDb env host) c ∧
        c.name = name := by
  unfold Selected
  rw [if_neg h]

theorem isManualUpdate_of_scheduled {env : PlanEnv} {db : Dict String ContainersModel}
    {c c' : ContainerInspectResult} (h : isScheduledUpdate env db c) (hname : c'.name = c.name) :
    isManualUpdate db c' := by
  unfold isScheduledUpdate at h
  unfold isManualUpdate
  rw [hname]
  cases hget : db.get? c.name with
  | none => simp [hget] at h
  | some row =>
      rw [hget] at h
      simp only [Bool.and_eq_true] at h
      exact h.1.1

/-! ## What a plan names -/

theorem mem_toUpdate_iff {ord : SetOrder PlanSite String} {env : PlanEnv}
    {host : HostsModel} {containers manualFor : List ContainerInspectResult} {fuel : ℕ}
    {plan : UpdatePlan}
    (h : buildUpdatePlan ord env host containers manualFor fuel = some plan) {name : String} :
    name ∈ plan.toUpdate ↔ Selected env host containers manualFor name ∧
      ∃ c ∈ containers, isEligible env c ∧ c.name = name := by
  obtain ⟨affected, -, order, -, rfl⟩ := buildUpdatePlan_eq_some_iff.1 h
  simp only [filterExisting, Finset.mem_inter, mem_selectToUpdate_iff, List.mem_toFinset,
    List.mem_map, List.mem_filter, and_assoc]

theorem eligible_of_mem_plan {ord : SetOrder PlanSite String} {env : PlanEnv}
    {host : HostsModel} {containers manualFor : List ContainerInspectResult} {fuel : ℕ}
    {plan : UpdatePlan}
    (h : buildUpdatePlan ord env host containers manualFor fuel = some plan) {name : String}
    (hname : name ∈ plan.toUpdate ∨ name ∈ plan.affected ∨ name ∈ plan.order) :
    ∃ c ∈ containers, isEligible env c ∧ c.name = name := by
  obtain ⟨affected, -, order, -, rfl⟩ := buildUpdatePlan_eq_some_iff.1 h
  simp only [filterExisting, Finset.mem_inter, List.mem_filter, List.mem_toFinset,
    List.mem_map, decide_eq_true_eq, and_assoc] at hname
  rcases hname with ⟨-, hex⟩ | ⟨-, hex⟩ | ⟨-, hex⟩
  all_goals exact hex

/-- A plan for a manual request stays inside the request exactly when the request
holds an eligible container, or when all that the schedule would update was asked
for. -/
theorem toUpdate_subset_manualFor_iff (ord : SetOrder PlanSite String) (env : PlanEnv)
    (host : HostsModel) (containers manualFor : List ContainerInspectResult) (fuel : ℕ)
    (plan : UpdatePlan)
    (h : buildUpdatePlan ord env host containers manualFor fuel = some plan) :
    (∀ name ∈ plan.toUpdate, ∃ c ∈ manualFor, c.name = name ∧
        isManualUpdate (containersDb env host) c) ↔
      (∃ c ∈ manualFor, isEligible env c) ∨
        ∀ c ∈ containers, isEligible env c →
          isScheduledUpdate env (containersDb env host) c →
            ∃ c' ∈ manualFor, c'.name = c.name := by
  by_cases hman : ∃ c ∈ manualFor, isEligible env c
  · refine iff_of_true (fun name hname => ?_) (.inl hman)
    have hsel := ((mem_toUpdate_iff h).1 hname).1
    obtain ⟨c, hc, -, hup, rfl⟩ := (selected_of_manual hman).1 hsel
    exact ⟨c, hc, rfl, hup⟩
  · constructor
    · intro hsub
      refine .inr fun c hc he hs => ?_
      have hsel : Selected env host containers manualFor c.name :=
        (selected_of_scheduled hman).2 ⟨c, hc, he, hs, rfl⟩
      obtain ⟨c', hc', hname, -⟩ := hsub c.name ((mem_toUpdate_iff h).2 ⟨hsel, c, hc, he, rfl⟩)
      exact ⟨c', hc', hname⟩
    · rintro (hman' | hsub) name hname
      · exact absurd hman' hman
      · have hsel := ((mem_toUpdate_iff h).1 hname).1
        obtain ⟨c, hc, he, hs, rfl⟩ := (selected_of_scheduled hman).1 hsel
        obtain ⟨c', hc', heq⟩ := hsub c hc he hs
        exact ⟨c', hc', heq, isManualUpdate_of_scheduled hs heq⟩

/-- A running container and a stopped one. -/
def webContainer : ContainerInspectResult where
  name := "web"
  state := some { status := some "running" }
  config := some { image := some "web:latest" }
  name_nonblank := isBlank_web

theorem nodup_web : ([webContainer].map ContainerInspectResult.name).Nodup := by decide

theorem disjoint_web : Disjoint ({"web"} : Finset String) ∅ := by decide

def batchContainer : ContainerInspectResult where
  name := "batch"
  state := some { status := some "exited" }
  config := some { image := some "batch:latest" }
  name_nonblank := by decide

/-- Both have an available update, and only running containers are updated. -/
def webBatchEnv : PlanEnv where
  updateOnlyRunning := true
  delayUpdateFor := 0
  now := 0
  rows :=
    [{ hostId := 1, name := "web", updateEnabled := true, updateAvailable := true },
      { hostId := 1, name := "batch", updateEnabled := true, updateAvailable := true }]

/-- The manual request for `web` alone. -/
theorem toUpdate_subset_manualFor_web :
    ∃ plan, buildUpdatePlan (.ascending PlanSite) webBatchEnv { id := 1, name := "host" }
        [webContainer, batchContainer] [webContainer] 5 = some plan ∧
      ∀ name ∈ plan.toUpdate, ∃ c ∈ [webContainer], c.name = name ∧
        isManualUpdate (containersDb webBatchEnv { id := 1, name := "host" }) c := by
  obtain ⟨plan, h⟩ : ∃ plan, buildUpdatePlan (.ascending PlanSite) webBatchEnv
      { id := 1, name := "host" } [webContainer, batchContainer] [webContainer] 5 =
        some plan := Option.isSome_iff_exists.1 (by decide)
  exact ⟨plan, h, (toUpdate_subset_manualFor_iff _ _ _ _ _ _ plan h).2 (.inl (by decide))⟩

/-- The manual request for the stopped container `batch` updates `web`. -/
theorem manual_batch_updates_web :
    ∃ plan, buildUpdatePlan (.ascending PlanSite) webBatchEnv { id := 1, name := "host" }
        [webContainer, batchContainer] [batchContainer] 5 = some plan ∧
      ¬ ∀ name ∈ plan.toUpdate, ∃ c ∈ [batchContainer], c.name = name ∧
        isManualUpdate (containersDb webBatchEnv { id := 1, name := "host" }) c := by
  obtain ⟨plan, h⟩ : ∃ plan, buildUpdatePlan (.ascending PlanSite) webBatchEnv
      { id := 1, name := "host" } [webContainer, batchContainer] [batchContainer] 5 =
        some plan := Option.isSome_iff_exists.1 (by decide)
  have hweb : "web" ∈ plan.toUpdate :=
    (mem_toUpdate_iff h).2 ⟨by unfold Selected; decide, by decide⟩
  exact ⟨plan, h, fun hsub => absurd (hsub "web" hweb) (by decide)⟩

end Tugtainer
