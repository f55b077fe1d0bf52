import Tugtainer.Executor.Rules

/-!
# One container through a run

A property of a run is mostly one of a single container of the plan. This module
reduces it to the three steps that the executor takes with that container: an
`ItemProof` follows an assertion about the item of `c` and the trace through
them, where no assertion depends on what happens to other containers (`Stable`).
-/

namespace Tugtainer

open Python Interaction

/-- The operation is not one for the container `n` alone. -/
def Foreign (nameOf : String → String) (n : String) : Op → Prop
  | .agent _ request => ∃ m, m ≠ n ∧ request.IsFor nameOf m
  | .log line => line.name ≠ n
  | _ => True

/-- The assertion does not depend on what happens to other containers. -/
def Stable (nameOf : String → String) (n : String)
    (A : UpdatePlanItem → Trace Agent → Prop) : Prop :=
  ∀ item tr e, Foreign nameOf n e.op → Agrees nameOf e → A item tr → A item (tr ++ [e])

section

variable {nameOf : String → String} {n m : String} {kinds : Site → Kind → Prop}
  {plan : UpdatePlan} {containers : HostContainers}
  {Ok : ContainerInspectResult → UpdatePlanItem → Prop}

theorem foreign_of_within {op : Op} (h : Within nameOf m kinds op) (hmn : m ≠ n) :
    Foreign nameOf n op := by
  cases op with
  | agent site request => exact ⟨m, hmn, h.2⟩
  | log line => exact fun hn => hmn (Eq.trans (Eq.symm h.2) hn)
  | _ => trivial

theorem foreign_of_bookkeeping {op : Op} (h : Bookkeeping op) : Foreign nameOf n op := by
  cases op <;> trivial

theorem not_asks_of_foreign {asked : Set Kind}
    (hasked : ∀ kind ∈ asked, kind ≠ .image ∧ kind ≠ .look) {op : Op}
    (h : Foreign nameOf n op) : ¬ Asks asked n op := by
  rintro ⟨site, request, rfl, htarget, hkind⟩
  obtain ⟨m, hmn, hfor⟩ := h
  exact hmn (Option.some.inj ((hfor.target (hasked _ hkind)).symm.trans htarget))

theorem not_createdAt_of_foreign {site : Site} {e : Event Agent} (h : Foreign nameOf n e.op) :
    ¬ CreatedAt site n e := by
  rintro ⟨body, c, rfl, hname⟩
  obtain ⟨m, hmn, hfor⟩ := h
  exact hmn (Option.some.inj (hfor.symm.trans hname))

/-- The items are those of the plan, and the one of `n` satisfies `A`. -/
structure ItemsOk (plan : UpdatePlan) (containers : HostContainers)
    (Ok : ContainerInspectResult → UpdatePlanItem → Prop) (n : String)
    (A : UpdatePlanItem → Trace Agent → Prop) (items : Items) (tr : Trace Agent) : Prop where
  ok : PlanItems plan containers Ok items
  here : ∃ item, items.get? n = some item ∧ A item tr

theorem ItemsOk.bookkeeping {A : UpdatePlanItem → Trace Agent → Prop} {items : Items}
    {tr : Trace Agent} {e : Event Agent} (h : ItemsOk plan containers Ok n A items tr)
    (hA : Stable nameOf n A) (hb : Bookkeeping e.op) (hr : Agrees nameOf e) :
    ItemsOk plan containers Ok n A items (tr ++ [e]) := by
  obtain ⟨hok, item, hget, htr⟩ := h
  exact ⟨hok, item, hget, hA item tr e (foreign_of_bookkeeping hb) hr htr⟩

theorem wp_step_foreign {step : ItemM Unit} {A : UpdatePlanItem → Trace Agent → Prop}
    (hkeeps : Act.Keeps (Agrees nameOf) (Within nameOf m kinds) (EachOk plan containers Ok m)
      (fun _ => True) step)
    (hraise : step.NeverRaises) (hA : Stable nameOf n A) (hmn : m ≠ n)
    {E : Exn → Items → Trace Agent → Prop} {items : Items} {tr : Trace Agent}
    (hitems : ItemsOk plan containers Ok n A items tr) :
    Act.wp (runContract nameOf) (onItem m step) (fun _ => ItemsOk plan containers Ok n A) E
      items tr := by
  obtain ⟨itemN, hgetN, htr⟩ := hitems.here
  refine wp_onItem (fun _ => hitems) fun item hget => ?_
  have hframe := hkeeps.frame (C := runContract nameOf) (A itemN) (fun _ _ h => h)
    (fun _ _ _ _ => trivial)
    (fun tr e hDtr hg hr => hA itemN tr e (foreign_of_within hg hmn) hr hDtr)
    (hitems.ok.ok m item hget) htr
  refine hraise.wp (Act.wp_mono hframe (fun _ s' tr' h => ?_) fun _ _ _ h => h)
  exact ⟨hitems.ok.set h.2.1, itemN, by rw [Dict.get?_set_of_ne _ hmn, hgetN], h.2.2⟩

theorem wp_step_here {step : ItemM Unit} {B A : UpdatePlanItem → Trace Agent → Prop}
    (hkeeps : Act.Keeps (Agrees nameOf) (Within nameOf n kinds) (EachOk plan containers Ok n)
      (fun _ => True) step)
    (hraise : step.NeverRaises)
    (hstep : ∀ item tr, EachOk plan containers Ok n item → B item tr →
      Act.wp (runContract nameOf) step (fun _ => A) (fun _ _ _ => True) item tr)
    {E : Exn → Items → Trace Agent → Prop} {items : Items} {tr : Trace Agent}
    (hitems : ItemsOk plan containers Ok n B items tr) :
    Act.wp (runContract nameOf) (onItem n step) (fun _ => ItemsOk plan containers Ok n A) E
      items tr := by
  obtain ⟨item, hget, htr⟩ := hitems.here
  refine wp_onItem (fun hnone => by rw [hget] at hnone; cases hnone) fun item' hget' => ?_
  obtain rfl : item = item' := Option.some.inj (hget.symm.trans hget')
  have hok := hitems.ok.ok n item hget
  have hrun := Act.wp_and (hstep item tr hok htr)
    (hkeeps.frame (C := runContract nameOf) (fun _ => True) (fun _ _ h => h)
      (fun _ _ _ _ => trivial) (fun _ _ _ _ _ => trivial) hok trivial)
  refine hraise.wp (Act.wp_mono hrun (fun _ s' tr' h => ?_) fun _ _ _ h => h)
  exact ⟨hitems.ok.set h.2.2.1, s', Dict.get?_set_self _ _ _, h.1⟩

/-- A pass over the items takes the assertion `B` about the item of `n` to `A`, if
the step for `n` does. -/
theorem wp_pass {step : String → ItemM Unit} {kinds : String → Site → Kind → Prop}
    {B A : UpdatePlanItem → Trace Agent → Prop} {names : List String} (hnodup : names.Nodup)
    (hkeeps : ∀ m, Act.Keeps (Agrees nameOf) (Within nameOf m (kinds m))
      (EachOk plan containers Ok m) (fun _ => True) (step m))
    (hraise : ∀ m, (step m).NeverRaises)
    (hB : Stable nameOf n B) (hA : Stable nameOf n A)
    (hstep : n ∈ names → ∀ item tr, EachOk plan containers Ok n item → B item tr →
      Act.wp (runContract nameOf) (step n) (fun _ => A) (fun _ _ _ => True) item tr)
    (hskip : n ∉ names → ∀ item tr, B item tr → A item tr)
    {E : Exn → Items → Trace Agent → Prop} {items : Items} {tr : Trace Agent}
    (hitems : ItemsOk plan containers Ok n B items tr) :
    Act.wp (runContract nameOf) (names.forM fun m => onItem m (step m))
      (fun _ => ItemsOk plan containers Ok n A) E items tr := by
  induction names generalizing B items tr with
  | nil =>
      obtain ⟨item, hget, htr⟩ := hitems.here
      exact ⟨hitems.ok, item, hget, hskip (by simp) item tr htr⟩
  | cons m names ih =>
      obtain ⟨hm, hnodup⟩ := List.nodup_cons.1 hnodup
      change Act.wp _ (onItem m (step m) >>= fun _ => names.forM fun m => onItem m (step m)) _ _ _ _
      by_cases hmn : m = n
      · -- from here on `n` is done
        subst hmn
        refine Act.wp_seq _ (wp_step_here (hkeeps m) (hraise m) (hstep (by simp)) hitems)
          fun _ items' tr' h => ?_
        exact ih hnodup hA (fun hmem => absurd hmem hm) (fun _ _ _ h => h) h
      · refine Act.wp_seq _ (wp_step_foreign (hkeeps m) (hraise m) hB hmn hitems)
          fun _ items' tr' h => ?_
        refine ih hnodup hB (fun hmem => hstep (by simp [hmem])) (fun hnot => hskip ?_) h
        simp [Ne.symm hmn, hnot]

end

/-! ## The whole run -/

/-- An assertion about the item of the container `c` and the trace, at the start,
between the passes and at the end, with what each step makes of it. -/
structure ItemProof (nameOf : String → String) (env : ExecEnv) (host : HostsModel)
    (plan : UpdatePlan) (dockerVersion : Option DockerVersion) (c : ContainerInspectResult)
    (initial prepared stopped finished : UpdatePlanItem → Trace Agent → Prop) : Prop where
  stable : Stable nameOf c.name initial ∧ Stable nameOf c.name prepared ∧
    Stable nameOf c.name stopped ∧ Stable nameOf c.name finished
  init : ∀ tr, Idle tr → initial (.ofContainer c) tr
  prepare : c.name ∈ plan.toUpdate → ∀ item tr, Preparing c dockerVersion item →
    initial item tr → Act.wp (runContract nameOf)
      (prepareItem dockerVersion env.registryReqDelay) (fun _ => prepared) (fun _ _ _ => True)
      item tr
  skipPrepare : c.name ∉ plan.toUpdate → ∀ item tr, initial item tr → prepared item tr
  stop : c.name ∈ plan.order → ∀ hooksMap item tr, ItemReady nameOf c dockerVersion item →
    prepared item tr → Act.wp (runContract nameOf)
      (stopItem c.name hooksMap (c.name ∈ plan.toUpdate)) (fun _ => stopped)
      (fun _ _ _ => True) item tr
  skipStop : c.name ∉ plan.order → ∀ item tr, prepared item tr → stopped item tr
  update : c.name ∈ plan.order → ∀ hooksMap item tr, ItemReady nameOf c dockerVersion item →
    stopped item tr → Act.wp (runContract nameOf)
      (updateOrStartItem hooksMap host.containerHcTimeout (c.name ∈ plan.toUpdate)
        (c.name ∈ plan.affected)) (fun _ => finished) (fun _ _ _ => True) item tr
  skipUpdate : c.name ∉ plan.order → ∀ item tr, stopped item tr → finished item tr

section

variable {nameOf : String → String} {env : ExecEnv} {host : HostsModel}
  {containers : HostContainers} {plan : UpdatePlan} {dockerVersion : Option DockerVersion}
  {c : ContainerInspectResult}
  {initial prepared stopped finished : UpdatePlanItem → Trace Agent → Prop}

theorem ItemProof.wp_preparePass
    (P : ItemProof nameOf env host plan dockerVersion c initial prepared stopped finished)
    (hgoes : ∀ c ∈ containers.list, GoesBy nameOf c) (hc : PlanHas plan containers c)
    {items : Items} {tr : Trace Agent}
    (h : ItemsOk plan containers (Preparing · dockerVersion) c.name initial items tr) :
    Act.wp (runContract nameOf)
      (preparePass env plan dockerVersion ((initialItems plan containers.list).map Prod.fst))
      (fun _ => ItemsOk plan containers (ItemReady nameOf · dockerVersion) c.name prepared)
      (fun _ _ _ => False) items tr := by
  have hmem : c.name ∈ (initialItems plan containers.list).map Prod.fst :=
    List.mem_map.2 ⟨_, Dict.mem_of_get? ((initialItems_get? plan containers).2 ⟨c, hc, rfl, rfl⟩),
      rfl⟩
  have hpass := wp_pass (E := fun _ _ _ => False)
    ((initialItems_nodup plan containers).filter (· ∈ plan.toUpdate))
    (fun m => keeps_prepareItem env.registryReqDelay m) (fun m => neverRaises_prepareItem _ _)
    P.stable.1 P.stable.2.1
    (fun hmem item tr hok => P.prepare (by simpa using (List.mem_filter.1 hmem).2) item tr
      (hok.of_mem hc.1))
    (fun hnot => P.skipPrepare fun hup => hnot (List.mem_filter.2 ⟨hmem, by simpa using hup⟩)) h
  exact Act.wp_mono hpass (fun _ _ _ h => ⟨h.ok.ready hgoes, h.here⟩) fun _ _ _ h => h

theorem ItemProof.wp_stopPass
    (P : ItemProof nameOf env host plan dockerVersion c initial prepared stopped finished)
    (hgoes : ∀ c ∈ containers.list, GoesBy nameOf c) (hc : PlanHas plan containers c)
    (hooksMap : HooksMap) {items : Items} {tr : Trace Agent}
    (h : ItemsOk plan containers (ItemReady nameOf · dockerVersion) c.name prepared items tr) :
    Act.wp (runContract nameOf) (stopPass plan hooksMap)
      (fun _ => ItemsOk plan containers (ItemReady nameOf · dockerVersion) c.name stopped)
      (fun _ _ _ => False) items tr := by
  refine wp_pass (List.nodup_reverse.2 plan.order_nodup)
    (fun m => keeps_stopItem hgoes hooksMap m _) (fun m => neverRaises_stopItem _ _ _)
    P.stable.2.1 P.stable.2.2.1 ?_ ?_ h
  · intro hmem item tr hok
    exact P.stop (List.mem_reverse.1 hmem) hooksMap item tr (hok.of_mem hc.1)
  · exact fun hnot => P.skipStop fun hmem => hnot (List.mem_reverse.2 hmem)

theorem ItemProof.wp_updatePass
    (P : ItemProof nameOf env host plan dockerVersion c initial prepared stopped finished)
    (hc : PlanHas plan containers c) (hooksMap : HooksMap) {items : Items} {tr : Trace Agent}
    (h : ItemsOk plan containers (ItemReady nameOf · dockerVersion) c.name stopped items tr) :
    Act.wp (runContract nameOf) (updatePass host plan hooksMap)
      (fun _ => ItemsOk plan containers (ItemReady nameOf · dockerVersion) c.name finished)
      (fun _ _ _ => False) items tr := by
  refine wp_pass plan.order_nodup (fun m => keeps_updateOrStartItem hooksMap _ m _ _)
    (fun m => neverRaises_updateOrStartItem _ _ _ _) P.stable.2.2.1 P.stable.2.2.2 ?_
    P.skipUpdate h
  intro hmem item tr hok
  exact P.update hmem hooksMap item tr (hok.of_mem hc.1)

theorem ItemProof.passProof
    (P : ItemProof nameOf env host plan dockerVersion c initial prepared stopped finished)
    (hgoes : ∀ c ∈ containers.list, GoesBy nameOf c) (hc : PlanHas plan containers c) :
    PassProof (runContract nameOf) env host containers plan dockerVersion Idle
      (ItemsOk plan containers (Preparing · dockerVersion) c.name initial)
      (ItemsOk plan containers (ItemReady nameOf · dockerVersion) c.name prepared)
      (ItemsOk plan containers (ItemReady nameOf · dockerVersion) c.name stopped)
      (ItemsOk plan containers (ItemReady nameOf · dockerVersion) c.name finished) where
  guar _ _ _ := trivial
  idle_next _ _ hb _ h := h.concat hb
  init tr htr := ⟨planItems_initialItems, _,
    (initialItems_get? plan containers).2 ⟨c, hc, rfl, rfl⟩, P.init tr htr⟩
  prepare _ _ h := P.wp_preparePass hgoes hc h
  prepared_next _ _ _ hb hr h := h.bookkeeping P.stable.2.1 hb hr
  stop hooksMap _ _ h := P.wp_stopPass hgoes hc hooksMap h
  update hooksMap _ _ h := P.wp_updatePass hc hooksMap h
  finished_next _ _ _ hb hr h := h.bookkeeping P.stable.2.2.2 hb hr

/-- What a proof about one container says of every run: nothing is asked of the
agent and the item is as at the start, or the item and the trace are as they should
be. -/
theorem ItemProof.sound
    (P : ItemProof nameOf env host plan dockerVersion c initial prepared stopped finished)
    {tr : Trace Agent} {result : Except Exn (Option UpdatePlanResult)} {items : Items}
    (run : Execution nameOf env host containers plan dockerVersion tr result items)
    (hc : PlanHas plan containers c) :
    (Idle tr ∧ ∀ item, items.get? c.name = some item → item = .ofContainer c) ∨
      ∃ item, items.get? c.name = some item ∧ ItemReady nameOf c dockerVersion item ∧
        finished item tr := by
  rcases (P.passProof run.goesBy hc).sound run with ⟨hidle, hitems⟩ | ⟨hok, item, hget, htr⟩
  · refine .inl ⟨hidle, fun item hget => ?_⟩
    rcases hitems with rfl | rfl
    · cases hget
    · have hinit := (initialItems_get? plan containers).2 ⟨c, hc, rfl, rfl⟩
      exact Option.some.inj (hget.symm.trans hinit)
  · exact .inr ⟨item, hget, (hok.ok _ item hget).of_mem hc.1, htr⟩

end

end Tugtainer
