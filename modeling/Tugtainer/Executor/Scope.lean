import Tugtainer.Executor.Passes
import Tugtainer.Executor.Simulation
import Tugtainer.Plan.Selection

/-!
# Which containers a run touches

The planner works on the eligible containers of a host, the executor on all of
them. Every request that changes a container or runs something in it is made for
one that the plan has, and a container that is only affected is stopped, started
and asked to run its hooks, nothing more.
-/

namespace Tugtainer

open Python Interaction

def PlanKinds (isUpdate : Prop) (_site : Site) (kind : Kind) : Prop :=
  isUpdate ∨ kind = .exec ∨ kind = .stop ∨ kind = .start ∨ kind = .look ∨ kind = .log

/-- The operation is bookkeeping, or one for a container of the plan. -/
def InScope (nameOf : String → String) (plan : UpdatePlan) (containers : HostContainers)
    (op : Op) : Prop :=
  Bookkeeping op ∨ ∃ c, PlanHas plan containers c ∧
    Within nameOf c.name (PlanKinds (c.name ∈ plan.toUpdate)) op

section

variable {nameOf : String → String} {env : ExecEnv} {host : HostsModel}
  {containers : HostContainers} {plan : UpdatePlan} {dockerVersion : Option DockerVersion}

theorem inScope_pass {step : String → ItemM Unit} {kinds : String → Site → Kind → Prop}
    {Ok : ContainerInspectResult → UpdatePlanItem → Prop} {names : List String}
    (hkeeps : ∀ m ∈ names, Act.Keeps (Agrees nameOf) (Within nameOf m (kinds m))
      (EachOk plan containers Ok m) (fun _ => True) (step m))
    (hraise : ∀ m, (step m).NeverRaises)
    (hkinds : ∀ m ∈ names, ∀ site kind, kinds m site kind →
      PlanKinds (m ∈ plan.toUpdate) site kind)
    {E : Exn → Items → Unit → Prop} {items : Items} (w : Unit)
    (hitems : PlanItems plan containers Ok items) :
    Act.wp (.stateless (Agrees nameOf) (InScope nameOf plan containers))
      (names.forM fun m => onItem m (step m))
      (fun _ items' _ => PlanItems plan containers Ok items') E items w := by
  refine Act.wp_forM_const _ (fun items' _ => PlanItems plan containers Ok items') _
    (fun m hm items' w' h => ?_) hitems
  refine Act.wp_mono (wp_onItem_frame (hkeeps m hm) (hraise m) (fun _ => True) (fun _ _ h => h)
    ?_ (fun _ _ _ _ _ => trivial) h trivial) (fun _ _ _ h => h.1) fun _ _ _ h => h
  rintro ⟨c, hc, rfl⟩ _ op - hop
  exact .inr ⟨c, hc, hop.mono (hkinds c.name hm)⟩

theorem inScope_passProof (hgoes : ∀ c ∈ containers.list, GoesBy nameOf c) :
    PassProof (.stateless (Agrees nameOf) (InScope nameOf plan containers)) env host containers
      plan dockerVersion (fun _ => True)
      (fun items _ => PlanItems plan containers (Preparing · dockerVersion) items)
      (fun items _ => PlanItems plan containers (ItemReady nameOf · dockerVersion) items)
      (fun items _ => PlanItems plan containers (ItemReady nameOf · dockerVersion) items)
      (fun items _ => PlanItems plan containers (ItemReady nameOf · dockerVersion) items) where
  guar _ _ h := .inl h
  idle_next _ _ _ _ _ := trivial
  init _ _ := planItems_initialItems
  prepare items w h := by
    refine Act.wp_mono (inScope_pass (fun m _ => keeps_prepareItem _ m)
      (fun m => neverRaises_prepareItem _ _) (fun m hm _ _ _ => ?_) w h)
      (fun _ _ _ h => h.ready hgoes) fun _ _ _ h => h
    exact .inl (by simpa using (List.mem_filter.1 hm).2)
  prepared_next _ _ _ _ _ h := h
  stop hooksMap items w h := by
    refine inScope_pass (fun m _ => keeps_stopItem hgoes hooksMap m _)
      (fun m => neverRaises_stopItem _ _ _) (fun m _ site kind hkind => ?_) w h
    rcases hkind.2 with h | h | h | h <;> simp [PlanKinds, h]
  update hooksMap items w h := by
    refine inScope_pass (fun m _ => keeps_updateOrStartItem hooksMap _ m _ _)
      (fun m => neverRaises_updateOrStartItem _ _ _ _) (fun m _ site kind hkind => ?_) w h
    rcases hkind.2.2 with h | h | h | h
    · exact .inl (by simpa using h)
    all_goals simp [PlanKinds, h]
  finished_next _ _ _ _ _ h := h

/-- Every operation of a run is bookkeeping, or one for a container of the plan. -/
theorem inScope_of_execution {tr : Trace Agent} {result : Except Exn (Option UpdatePlanResult)}
    {items : Items}
    (run : Execution nameOf env host containers plan dockerVersion tr result items) :
    ∀ e ∈ tr, InScope nameOf plan containers e.op := by
  have P : PassProof (.stateless (Agrees nameOf) (InScope nameOf plan containers)) env host
      containers plan dockerVersion _ _ _ _ _ := inScope_passProof run.goesBy
  exact Prog.wp_stateless_guar (P.wp trivial) run.runs run.agrees

/-- Every request that acts on a container names one that the plan has, which is
not protected, and one that is only affected is stopped, started or has a hook
run in it. -/
theorem acts_within_plan (ord : SetOrder PlanSite String) (planEnv : PlanEnv)
    (manualFor : List ContainerInspectResult) (fuel : ℕ)
    (hplan : buildUpdatePlan ord planEnv host containers.list manualFor fuel = some plan)
    {tr : Trace Agent} {result : Except Exn (Option UpdatePlanResult)} {items : Items}
    (run : Execution nameOf env host containers plan dockerVersion tr result items) :
    ∀ e ∈ tr, ∀ site request, e.op = .agent site request → request.Acts →
      ∃ n, request.target = some n ∧ plan.Has n ∧
        (∀ c ∈ containers.list, c.name = n → isProtectedContainer c = false) ∧
        (n ∉ plan.toUpdate →
          request.kind = .exec ∨ request.kind = .stop ∨ request.kind = .start) := by
  intro e he site request hop hacts
  have hscope := inScope_of_execution run e he
  rw [hop] at hscope
  rcases hscope with hfalse | ⟨c, hc, hkinds, hfor⟩
  · exact hfalse.elim
  refine ⟨c.name, hfor.target hacts, hc.2, fun c' hc' hname => ?_, fun hnot => ?_⟩
  · have hin : c.name ∈ plan.toUpdate ∨ c.name ∈ plan.affected ∨ c.name ∈ plan.order := by
      rcases hc.2 with h | h
      · exact .inl h
      · exact .inr (.inl h)
    obtain ⟨c₀, hc₀, helig, hname₀⟩ := eligible_of_mem_plan hplan hin
    obtain rfl := containers.eq_of_name hc' hc₀ (hname.trans hname₀.symm)
    simp only [isEligible, Bool.and_eq_true, Bool.not_eq_true'] at helig
    exact helig.1
  · rcases hkinds with h | h | h | h | h | h
    · exact absurd h hnot
    · exact .inl h
    · exact .inr (.inl h)
    · exact .inr (.inr h)
    · exact absurd h hacts.2
    · cases request <;> cases h

end

def webBatch : HostContainers where
  list := [webContainer, batchContainer]
  nodup := by decide

/-- Updating `web` leaves `batch` alone. -/
theorem acts_within_plan_web :
    ∃ plan, buildUpdatePlan (.ascending PlanSite) webBatchEnv exampleHost webBatch.list
        [webContainer] 5 = some plan ∧
      ∀ e ∈ (simulateExecution faultless exampleEnv exampleHost webBatch plan []).1,
        ∀ site request, e.op = .agent site request → request.Acts →
          ∃ n, request.target = some n ∧ plan.Has n ∧
            (∀ c ∈ webBatch.list, c.name = n → isProtectedContainer c = false) ∧
            (n ∉ plan.toUpdate →
              request.kind = .exec ∨ request.kind = .stop ∨ request.kind = .start) := by
  obtain ⟨plan, h⟩ : ∃ plan, buildUpdatePlan (.ascending PlanSite) webBatchEnv exampleHost
      webBatch.list [webContainer] 5 = some plan := Option.isSome_iff_exists.1 (by decide)
  exact ⟨plan, h, acts_within_plan _ _ _ _ h
    (simulateExecution_execution _ _ _ _ _ _ (by decide))⟩

end Tugtainer
