import Tugtainer.Executor.Prepare

/-!
# The passes of a run

A run either does nothing but bookkeeping, or goes through the three passes.
`PassProof` is a proof about each pass, under any contract, and `PassProof.wp`
puts the three together. The items that a pass works on are those of the plan,
each for one container of the host: `PlanItems`.
-/

namespace Tugtainer

open Python Interaction

/-- The operation is neither a request to the agent nor a line of the log. -/
def Bookkeeping : Op → Prop
  | .agent _ _ | .log _ => False
  | _ => True

/-- The container is updated or affected. -/
def UpdatePlan.Has (plan : UpdatePlan) (name : String) : Prop :=
  name ∈ plan.toUpdate ∨ name ∈ plan.affected

instance (plan : UpdatePlan) (name : String) : Decidable (plan.Has name) :=
  inferInstanceAs (Decidable (_ ∨ _))

theorem UpdatePlan.decide_toUpdate (plan : UpdatePlan) {name : String} (h : plan.Has name) :
    decide (name ∈ plan.toUpdate) = !decide (name ∈ plan.affected) := by
  rcases h with h | h
  · simp [h, Finset.disjoint_left.1 plan.disjoint h]
  · simp [h, Finset.disjoint_right.1 plan.disjoint h]

/-- The container is one of the host's that the plan has. -/
def PlanHas (plan : UpdatePlan) (containers : HostContainers)
    (c : ContainerInspectResult) : Prop :=
  c ∈ containers.list ∧ plan.Has c.name

instance (plan : UpdatePlan) (containers : HostContainers) (c : ContainerInspectResult) :
    Decidable (PlanHas plan containers c) :=
  inferInstanceAs (Decidable (_ ∧ _))

/-- The item of that name is one of a container that the plan has. -/
def EachOk (plan : UpdatePlan) (containers : HostContainers)
    (Ok : ContainerInspectResult → UpdatePlanItem → Prop) (m : String)
    (item : UpdatePlanItem) : Prop :=
  ∃ c, (PlanHas plan containers c ∧ c.name = m) ∧ Ok c item

structure PlanItems (plan : UpdatePlan) (containers : HostContainers)
    (Ok : ContainerInspectResult → UpdatePlanItem → Prop) (items : Items) : Prop where
  ok : ∀ m item, items.get? m = some item → EachOk plan containers Ok m item
  has : ∀ c, PlanHas plan containers c → ∃ item, items.get? c.name = some item

section

variable {nameOf : String → String} {env : ExecEnv} {host : HostsModel}
  {containers : HostContainers} {plan : UpdatePlan} {dockerVersion : Option DockerVersion}
  {c : ContainerInspectResult} {m : String} {W : Type} {C : Contract Agent W}

theorem HostContainers.eq_of_name (containers : HostContainers) {c c' : ContainerInspectResult}
    (hc : c ∈ containers.list) (hc' : c' ∈ containers.list) (h : c.name = c'.name) : c = c' :=
  List.inj_on_of_nodup_map containers.nodup hc hc' h

theorem EachOk.of_mem {Ok : ContainerInspectResult → UpdatePlanItem → Prop}
    {item : UpdatePlanItem} (h : EachOk plan containers Ok c.name item)
    (hc : c ∈ containers.list) : Ok c item := by
  obtain ⟨c', ⟨hc', hname⟩, hok⟩ := h
  exact containers.eq_of_name hc'.1 hc hname ▸ hok

theorem PlanItems.set {Ok : ContainerInspectResult → UpdatePlanItem → Prop} {items : Items}
    (hitems : PlanItems plan containers Ok items) {item : UpdatePlanItem}
    (hitem : EachOk plan containers Ok m item) :
    PlanItems plan containers Ok (items.set m item) := by
  refine ⟨fun m' item' hget => ?_, fun c hc => ?_⟩
  · rw [Dict.get?_set] at hget
    split at hget
    · rename_i heq
      cases hget
      exact heq ▸ hitem
    · exact hitems.ok m' item' hget
  · rw [Dict.get?_set]
    split
    · exact ⟨item, rfl⟩
    · exact hitems.has c hc

/-! ## The items at the start -/

theorem initialItems_nodup (plan : UpdatePlan) (containers : HostContainers) :
    ((initialItems plan containers.list).map Prod.fst).Nodup := by
  have hsub : List.Sublist ((initialItems plan containers.list).map Prod.fst)
      (containers.list.map ContainerInspectResult.name) := by
    rw [initialItems, List.map_map]
    exact List.filter_sublist.map _
  exact hsub.nodup containers.nodup

theorem initialItems_get? (plan : UpdatePlan) (containers : HostContainers) {m : String}
    {item : UpdatePlanItem} :
    (initialItems plan containers.list).get? m = some item ↔
      ∃ c, PlanHas plan containers c ∧ c.name = m ∧ item = .ofContainer c := by
  rw [← Dict.mem_iff_get? (initialItems_nodup plan containers), initialItems, List.mem_map]
  simp only [List.mem_filter, decide_eq_true_eq, Prod.mk.injEq]
  constructor
  · rintro ⟨c, hc, rfl, rfl⟩
    exact ⟨c, hc, rfl, rfl⟩
  · rintro ⟨c, hc, rfl, rfl⟩
    exact ⟨c, hc, rfl, rfl⟩

theorem planItems_initialItems :
    PlanItems plan containers (Preparing · dockerVersion)
      (initialItems plan containers.list) := by
  refine ⟨fun m item hget => ?_, fun c hc => ?_⟩
  · obtain ⟨c, hc, hname, rfl⟩ := (initialItems_get? plan containers).1 hget
    exact ⟨c, ⟨hc, hname⟩, preparing_ofContainer⟩
  · exact ⟨_, (initialItems_get? plan containers).2 ⟨c, hc, rfl, rfl⟩⟩

theorem PlanItems.ready (hgoes : ∀ c ∈ containers.list, GoesBy nameOf c) {items : Items}
    (hitems : PlanItems plan containers (Preparing · dockerVersion) items) :
    PlanItems plan containers (ItemReady nameOf · dockerVersion) items := by
  refine ⟨fun m item hget => ?_, hitems.has⟩
  obtain ⟨c, hc, hprep⟩ := hitems.ok m item hget
  exact ⟨c, hc, hprep.itemOk (hgoes c hc.1.1)⟩

/-! ## One step of a pass -/

theorem wp_onItem {x : ItemM Unit} {name : String}
    {items : Items} {w : W} {Q : Unit → Items → W → Prop} {E : Exn → Items → W → Prop}
    (hnone : items.get? name = none → Q () items w)
    (hsome : ∀ item, items.get? name = some item →
      Act.wp C x (fun a item' w' => Q a (items.set name item') w')
        (fun e item' w' => E e (items.set name item') w') item w) :
    Act.wp C (onItem name x) Q E items w := by
  unfold onItem
  rw [Act.wp_bind, Act.wp_get]
  cases hget : items.get? name with
  | none => exact hnone hget
  | some item => exact (Act.wp_zoom _ _ _).2 (hsome item hget)

theorem wp_onItem_frame {step : ItemM Unit} {kinds : Site → Kind → Prop}
    {Ok : ContainerInspectResult → UpdatePlanItem → Prop}
    (hkeeps : Act.Keeps (Agrees nameOf) (Within nameOf m kinds) (EachOk plan containers Ok m)
      (fun _ => True) step)
    (hraise : step.NeverRaises) (A : W → Prop) (hrely : ∀ w e, C.rely w e → Agrees nameOf e)
    (hguar : (∃ c, PlanHas plan containers c ∧ c.name = m) →
      ∀ w op, A w → Within nameOf m kinds op → C.guar w op)
    (hnext : ∀ w e, A w → Within nameOf m kinds e.op → C.rely w e → A (C.next w e))
    {E : Exn → Items → W → Prop} {items : Items} {w : W}
    (hitems : PlanItems plan containers Ok items) (hw : A w) :
    Act.wp C (onItem m step) (fun _ items' w' => PlanItems plan containers Ok items' ∧ A w') E
      items w := by
  refine wp_onItem (fun _ => ⟨hitems, hw⟩) fun item hget => ?_
  obtain ⟨c, hc, hok⟩ := hitems.ok m item hget
  refine hraise.wp (Act.wp_mono (hkeeps.frame A hrely (hguar ⟨c, hc⟩) hnext ⟨c, hc, hok⟩ hw)
    (fun _ item' w' h => ⟨hitems.set h.2.1, h.2.2⟩) fun _ _ _ h => h)

theorem keeps_prepareItem (delay : Int) (m : String) :
    Act.Keeps (Agrees nameOf) (Within nameOf m PrepareKinds)
      (EachOk plan containers (Preparing · dockerVersion) m) (fun _ => True)
      (prepareItem dockerVersion delay) := by
  refine .exists_ fun c hc => ?_
  obtain ⟨-, rfl⟩ := hc
  exact prepares_prepareItem delay

theorem keeps_stopItem (hgoes : ∀ c ∈ containers.list, GoesBy nameOf c) (hooksMap : HooksMap)
    (m : String) (isUpdate : Bool) :
    Act.Keeps (Agrees nameOf) (Within nameOf m StopKinds)
      (EachOk plan containers (ItemReady nameOf · dockerVersion) m) (fun _ => True)
      (stopItem m hooksMap isUpdate) := by
  refine .exists_ fun c hc => ?_
  obtain ⟨hc, rfl⟩ := hc
  exact staysIn_stopItem_of_goesBy (hgoes c hc.1) hooksMap isUpdate

theorem keeps_updateOrStartItem (hooksMap : HooksMap) (timeout : Int) (m : String)
    (isUpdate isAffected : Bool) :
    Act.Keeps (Agrees nameOf) (Within nameOf m (UpdateKinds isUpdate))
      (EachOk plan containers (ItemReady nameOf · dockerVersion) m) (fun _ => True)
      (updateOrStartItem hooksMap timeout isUpdate isAffected) := by
  refine .exists_ fun c hc => ?_
  obtain ⟨-, rfl⟩ := hc
  exact staysIn_updateOrStartItem hooksMap timeout isUpdate isAffected

/-! ## The whole run -/

/-- A proof about each of the passes: `idle` before them and without them,
`initial`, `prepared`, `stopped` and `finished` between them. -/
structure PassProof (C : Contract Agent W) (env : ExecEnv) (host : HostsModel)
    (containers : HostContainers) (plan : UpdatePlan) (dockerVersion : Option DockerVersion)
    (idle : W → Prop) (initial prepared stopped finished : Items → W → Prop) : Prop where
  guar : ∀ w op, Bookkeeping op → C.guar w op
  idle_next : ∀ w e, Bookkeeping e.op → C.rely w e → idle w → idle (C.next w e)
  init : ∀ w, idle w → initial (initialItems plan containers.list) w
  prepare : ∀ items w, initial items w →
    Act.wp C (preparePass env plan dockerVersion ((initialItems plan containers.list).map Prod.fst))
      (fun _ => prepared) (fun _ _ _ => False) items w
  prepared_next : ∀ items w e, Bookkeeping e.op → C.rely w e → prepared items w →
    prepared items (C.next w e)
  stop : ∀ hooksMap items w, prepared items w →
    Act.wp C (stopPass plan hooksMap) (fun _ => stopped) (fun _ _ _ => False) items w
  update : ∀ hooksMap items w, stopped items w →
    Act.wp C (updatePass host plan hooksMap) (fun _ => finished) (fun _ _ _ => False) items w
  finished_next : ∀ items w e, Bookkeeping e.op → C.rely w e → finished items w →
    finished items (C.next w e)

section

variable {idle : W → Prop} {initial prepared stopped finished : Items → W → Prop}
  (P : PassProof C env host containers plan dockerVersion idle initial prepared stopped finished)

include P

theorem PassProof.wp_loadHooksMap {items : Items} {names : List String} {w : W} (hw : idle w) :
    Act.wp C (loadHooksMap env host names) (fun _ items' w' => items' = items ∧ idle w')
      (fun _ items' w' => idle w' ∧ items' = items) items w := by
  unfold loadHooksMap
  rw [Act.wp_ite]
  split
  · refine ⟨P.guar _ _ trivial, fun r hr => ?_⟩
    have hnext := P.idle_next w ⟨.getHooksMap host.id names, r⟩ trivial hr hw
    cases r with
    | ok hooksMap => exact ⟨rfl, hnext⟩
    | raised lost => exact ⟨hnext, rfl⟩
  · exact ⟨rfl, hw⟩

theorem PassProof.wp_executePasses {w : W} (hw : idle w) :
    Act.wp C
      (executePasses env host plan dockerVersion
        ((initialItems plan containers.list).map Prod.fst))
      (fun _ => finished)
      (fun _ items w => idle w ∧ items = initialItems plan containers.list)
      (initialItems plan containers.list) w := by
  refine Act.wp_seq _ (P.wp_loadHooksMap hw) fun hooksMap items w h => ?_
  obtain ⟨rfl, hw⟩ := h
  refine Act.wp_seq _ (Act.wp_mono (P.prepare _ _ (P.init w hw)) (fun _ _ _ h => h)
    fun _ _ _ h => h.elim) fun _ items w h => ?_
  refine Act.wp_seq (fun _ => prepared) ⟨P.guar _ _ trivial, fun r hr => ?_⟩ fun _ items w h => ?_
  · exact P.prepared_next _ w ⟨.progressUpdate _ _ _, r⟩ trivial hr h
  refine Act.wp_seq _ (Act.wp_mono (P.stop hooksMap _ _ h) (fun _ _ _ h => h)
    fun _ _ _ h => h.elim) fun _ items w h => ?_
  exact Act.wp_mono (P.update hooksMap _ _ h) (fun _ _ _ h => h) fun _ _ _ h => h.elim

theorem PassProof.wp_finish {items : Items} {w : W} (hfin : finished items w) :
    Act.wp C (finish host plan) (fun _ => finished) (fun _ => finished) items w := by
  unfold finish
  rw [Act.wp_bind, Act.wp_get]
  refine Act.wp_seq (fun _ => finished) ⟨P.guar _ _ trivial, fun r hr => ?_⟩
    fun _ items w hfin => ?_
  · have hnext := P.finished_next items w ⟨.updateContainersData _, r⟩ trivial hr hfin
    cases r <;> exact hnext
  · refine ⟨P.guar _ _ trivial, fun r hr => ?_⟩
    exact P.finished_next items w ⟨.progressUpdate _ _ _, r⟩ trivial hr hfin

/-- The items before the first pass: those of the plan, unless it is not executed. -/
def Unchanged (plan : UpdatePlan) (containers : HostContainers) (items₀ items : Items) : Prop :=
  items = items₀ ∨ items = initialItems plan containers.list

theorem PassProof.wp {items₀ : Items} {w : W} (hw : idle w) :
    Act.wp C (executeUpdatePlan env host containers plan dockerVersion)
      (fun _ items w => (idle w ∧ Unchanged plan containers items₀ items) ∨ finished items w)
      (fun _ items w => (idle w ∧ Unchanged plan containers items₀ items) ∨ finished items w)
      items₀ w := by
  refine Act.wp_seq (fun _ items w => idle w ∧ items = items₀) ⟨P.guar _ _ trivial, fun r hr => ?_⟩
    fun status items w h => ?_
  · exact ⟨P.idle_next w ⟨.progressGet _, r⟩ trivial hr hw, rfl⟩
  rw [Act.wp_ite]
  split
  · exact .inl ⟨h.1, .inl h.2⟩
  rw [Act.wp_ite]
  split
  · exact .inl ⟨h.1, .inl h.2⟩
  refine Act.wp_seq (fun _ _ => idle) ⟨P.guar _ _ trivial, fun r hr => ?_⟩ fun _ _ w hw => ?_
  · exact P.idle_next w ⟨.progressSet _ _, r⟩ trivial hr h.1
  rw [Act.wp_bind, Act.wp_set, Act.wp_bind, Act.wp_get]
  refine Act.wp_seq _ (Act.wp_mono (P.wp_executePasses hw) (fun _ _ _ h => h)
    fun _ _ _ h => .inl ⟨h.1, .inr h.2⟩) fun _ items w h => ?_
  exact Act.wp_seq _ (Act.wp_mono (P.wp_finish h) (fun _ _ _ h => h) fun _ _ _ h => .inr h)
    fun _ _ _ h => .inr h

end

end

/-! ## Runs -/

/-- A run of `executeUpdatePlan` on a host whose containers go by their names
and ids. -/
structure Execution (nameOf : String → String) (env : ExecEnv) (host : HostsModel)
    (containers : HostContainers) (plan : UpdatePlan) (dockerVersion : Option DockerVersion)
    (tr : Trace Agent) (result : Except Exn (Option UpdatePlanResult)) (items : Items) : Prop where
  runs : Runs (executeUpdatePlan env host containers plan dockerVersion []) tr (result, items)
  agrees : ∀ e ∈ tr, Agrees nameOf e
  goesBy : ∀ c ∈ containers.list, GoesBy nameOf c

end Tugtainer
