import Tugtainer.Executor.Rules
import Tugtainer.Executor.Simulation
import Tugtainer.Plan.Order

/-!
# Dependents stop first and come back last

Where `a` depends on `b`, the executor stops `a` before it disturbs `b`, and has
finished with `b` before it creates or starts `a`. The stop pass goes against the
order of the plan and the update pass along it, so both come down to `b` standing
before `a` in that order.
-/

namespace Tugtainer

open Python Interaction

/-- Stopping, disconnecting, removing, creating and starting. -/
def disturbing : Set Kind := {.stop, .disconnect, .remove, .create, .start}

/-- Creating and starting. -/
def bringingUp : Set Kind := {.create, .start}

theorem acts_disturbing : ∀ kind ∈ disturbing, kind ≠ .image ∧ kind ≠ .look := by
  rintro kind (rfl | rfl | rfl | rfl | rfl) <;> decide

theorem bringingUp_subset : bringingUp ⊆ disturbing := by
  rintro kind (rfl | rfl) <;> simp [disturbing]

/-- The stop of the container, or the line that says it is skipped because one of
its hooks failed. -/
def StoppedOrSkipped (a : String) (e : Event Agent) : Prop :=
  e.op = .agent .stop (.containerStop a) ∨ e.op = .log (.skippingStop a)

/-- A request for the container, by name or by id, or a line of the log about
it. -/
def Concerns (nameOf : String → String) (b : String) : Op → Prop
  | .agent _ request => request.kind ≠ .image ∧ request.IsFor nameOf b
  | .log line => line.name = b
  | _ => False

section

variable {nameOf : String → String} {a b m : String} {kinds : Site → Kind → Prop} {op : Op}

theorem Concerns.eq_of_within (h : Concerns nameOf b op) (hop : Within nameOf m kinds op) :
    m = b := by
  cases op with
  | agent site request => exact hop.2.unique h.2 h.1
  | log line => exact hop.2.symm.trans h
  | _ => exact h.elim

theorem not_concerns_of_bookkeeping (h : Bookkeeping op) : ¬ Concerns nameOf b op := by
  cases op with
  | agent site request | log line => exact h.elim
  | _ => exact id

/-- What holds of a dependent `a` of `b` in the middle of a run: all is well so
far, `a` has been stopped if it was running, as far as `Done` says, and it has not
been brought up again, as far as `Fresh` says. -/
structure InOrder (nameOf : String → String) (a b : String) (running Done Fresh : Prop)
    (tr : Trace Agent) : Prop where
  disturbs : running →
    Always (fun pre e => Asks disturbing b e.op → Once (StoppedOrSkipped a) pre) tr
  concerns :
    Always (fun pre e => Concerns nameOf b e.op → ¬ Once (fun e' => Asks bringingUp a e'.op) pre) tr
  stopped : Done → running → Once (StoppedOrSkipped a) tr
  fresh : Fresh → ¬ Once (fun e => Asks bringingUp a e.op) tr

variable {running Done Fresh Fresh' : Prop} {tr : Trace Agent}

theorem inOrder_nil : InOrder nameOf a b running False True [] where
  disturbs _ := always_nil _
  concerns := always_nil _
  stopped h := h.elim
  fresh _ := once_nil _

theorem InOrder.concat (h : InOrder nameOf a b running Done Fresh tr) {e : Event Agent}
    (hdisturbs : Asks disturbing b e.op → Done) (hconcerns : Concerns nameOf b e.op → Fresh)
    (hfresh : Fresh → ¬ Asks bringingUp a e.op) :
    InOrder nameOf a b running Done Fresh (tr ++ [e]) where
  disturbs hrun := (always_concat _ _ _).2
    ⟨h.disturbs hrun, fun hd => h.stopped (hdisturbs hd) hrun⟩
  concerns := (always_concat _ _ _).2 ⟨h.concerns, fun hc => h.fresh (hconcerns hc)⟩
  stopped hdone hrun := (once_concat _ _ _).2 (.inl (h.stopped hdone hrun))
  fresh hf := by
    rw [once_concat]
    exact not_or.2 ⟨h.fresh hf, hfresh hf⟩

theorem InOrder.weaken (h : InOrder nameOf a b running Done Fresh tr) (himp : Fresh' → Fresh) :
    InOrder nameOf a b running Done Fresh' tr :=
  ⟨h.disturbs, h.concerns, h.stopped, fun hf => h.fresh (himp hf)⟩

theorem InOrder.done {Done' : Prop} (h : InOrder nameOf a b running Done Fresh tr)
    (hdone : Done' → running → Once (StoppedOrSkipped a) tr) :
    InOrder nameOf a b running Done' Fresh tr :=
  ⟨h.disturbs, h.concerns, hdone, h.fresh⟩

theorem InOrder.bookkeeping (h : InOrder nameOf a b running Done Fresh tr) {e : Event Agent}
    (he : Bookkeeping e.op) : InOrder nameOf a b running Done Fresh (tr ++ [e]) :=
  h.concat (fun hd => absurd hd (not_asks_of_bookkeeping he))
    (fun hc => absurd hc (not_concerns_of_bookkeeping he)) fun _ => not_asks_of_bookkeeping he

theorem Idle.inOrder (htr : Idle tr) : InOrder nameOf a b running False True tr := by
  induction tr using List.reverseRecOn with
  | nil => exact inOrder_nil
  | append_singleton tr e ih =>
      exact (ih fun e' he' => htr e' (by simp [he'])).bookkeeping (htr e (by simp))

/-- A step for `m` keeps the order: when `m` is `b` then `a` has been stopped, if
the step disturbs anything, and is not up again; when `m` is `a` then it need not
stay as it is, if the step brings anything up. -/
theorem InOrder.keptBy (hdone : m = b → (∃ site, ∃ kind ∈ disturbing, kinds site kind) → Done)
    (hfresh : m = b → Fresh)
    (hup : m = a → (∃ site, ∃ kind ∈ bringingUp, kinds site kind) → ¬ Fresh) :
    KeptBy nameOf m kinds (InOrder nameOf a b running Done Fresh) := by
  intro tr e hop _ h
  refine h.concat (fun hd => ?_) (fun hc => hfresh (hc.eq_of_within hop)) fun hf hup' => ?_
  · obtain ⟨hm, hkind⟩ := hd.of_within acts_disturbing hop
    exact hdone hm hkind
  · obtain ⟨hm, hkind⟩ := hup'.of_within
      (fun kind h => acts_disturbing kind (bringingUp_subset h)) hop
    exact hup hm hkind hf

end

/-! ## The passes -/

theorem wp_stopItem_stopped {nameOf : String → String} {name : String} {hooksMap : HooksMap}
    {isUpdate : Bool} {item : UpdatePlanItem} {tr : Trace Agent} :
    Act.wp (runContract nameOf) (stopItem name hooksMap isUpdate)
      (fun _ _ tr' => item.wasRunning → Once (StoppedOrSkipped name) tr') (fun _ _ _ => True)
      item tr := by
  have hmono : ∀ tr e, Once (StoppedOrSkipped name) tr →
      Once (StoppedOrSkipped name) (tr ++ [e]) := fun tr e h => (once_concat _ _ _).2 (.inl h)
  unfold stopItem
  rw [Act.wp_bind, Act.wp_get, Act.wp_ite]
  split
  · refine Act.wp_seq (fun _ _ _ => True) (Act.wp_mono (wp_of_monotone (fun _ _ h => h) trivial)
      (fun _ _ _ h => h) fun _ _ _ h => h) fun errors item' tr' _ => ?_
    rw [Act.wp_ite]
    split
    · refine Act.wp_mono (Q := fun _ _ => Once (StoppedOrSkipped name)) ?_
        (fun _ _ _ h _ => h) fun _ _ _ h => h
      exact wp_attempt (wp_call_recorded hmono fun _ => (once_concat _ _ _).2 (.inr (.inl rfl)))
    · refine Act.wp_seq (fun _ _ _ => True) trivial fun _ item'' tr'' _ => ?_
      exact wp_log.2 fun _ => (once_concat _ _ _).2 (.inr (.inr rfl))
  · rename_i hrun
    exact fun h => absurd h hrun

section

variable {nameOf : String → String} {env : ExecEnv} {host : HostsModel}
  {containers : HostContainers} {plan : UpdatePlan} {dockerVersion : Option DockerVersion}
  {c : ContainerInspectResult} {b : String}

/-- What the order of the plan has to say about `a` and `b`. -/
structure Before (order : List String) (b a : String) : Prop where
  ne : a ≠ b
  mem : a ∈ order
  before : ∀ pre post, order = pre ++ b :: post → a ∉ pre

theorem Before.of_dependsOn {ord : SetOrder PlanSite String} {planEnv : PlanEnv}
    {manualFor : List ContainerInspectResult} {fuel : ℕ} {a : String}
    (hplan : buildUpdatePlan ord planEnv host containers.list manualFor fuel = some plan)
    (hacyc : AcyclicDependencies planEnv containers.list) (ha : plan.Has a)
    (hab : DependsOnEligible planEnv containers.list a b) : Before plan.order b a where
  ne h := hacyc a (h ▸ hab)
  mem := mem_order_of_has hplan ha
  before pre post heq hmem := by
    obtain ⟨pre₁, pre₂, rfl⟩ := List.append_of_mem hmem
    have hb : b ∈ plan.order := by simp [heq]
    have hpre := order_of_dependsOn hplan hacyc hab hb
      (heq.trans (List.append_assoc pre₁ (a :: pre₂) (b :: post)))
    have hnodup := plan.order_nodup
    rw [heq, List.append_assoc] at hnodup
    exact (List.nodup_append.1 hnodup).2.2 b hpre b (by simp) rfl

theorem Before.mem_of_split {order done todo : List String} {a : String} (h : Before order b a)
    (heq : order = done ++ b :: todo) : a ∈ todo := by
  have hmem := h.mem
  rw [heq, List.mem_append, List.mem_cons] at hmem
  rcases hmem with hmem | hmem | hmem
  · exact absurd hmem (h.before done todo heq)
  · exact absurd hmem h.ne
  · exact hmem

theorem Before.mem_of_split_reverse {order done todo : List String} {a : String}
    (h : Before order b a) (heq : done ++ b :: todo = order.reverse) : a ∈ done := by
  have hsplit : order = todo.reverse ++ b :: done.reverse := by
    rw [← List.reverse_reverse order, ← heq]
    simp
  exact List.mem_reverse.1 (h.mem_of_split hsplit)

theorem wp_preparePass_inOrder {items : Items} {tr : Trace Agent} {names : List String}
    (hitems : PlanItems plan containers (Preparing · dockerVersion) items)
    (htr : InOrder nameOf c.name b (isRunningContainer c) False True tr) :
    Act.wp (runContract nameOf) (preparePass env plan dockerVersion names)
      (fun _ items' tr' => PlanItems plan containers (Preparing · dockerVersion) items' ∧
        InOrder nameOf c.name b (isRunningContainer c) False True tr')
      (fun _ _ _ => False) items tr := by
  refine Act.wp_forM_const _ (fun items' tr' =>
    PlanItems plan containers (Preparing · dockerVersion) items' ∧
      InOrder nameOf c.name b (isRunningContainer c) False True tr') _
    (fun m _ items' tr' h => ?_) ⟨hitems, htr⟩
  have hkinds : ∀ {asked : Set Kind}, asked ⊆ disturbing →
      ¬ ∃ site, ∃ kind ∈ asked, PrepareKinds site kind := by
    rintro asked hasked ⟨site, kind, hkind, -, rfl | rfl⟩ <;>
      exact absurd (hasked hkind) (by simp [disturbing])
  exact wp_onItem_frame (keeps_prepareItem _ m) (neverRaises_prepareItem _ _) _
    (fun _ _ h => h) (fun _ _ _ _ _ => trivial)
    (fun tr e h hop hr => InOrder.keptBy (fun _ h => absurd h (hkinds subset_rfl))
      (fun _ => trivial) (fun _ h => absurd h (hkinds bringingUp_subset))
      tr e hop hr h) h.1 h.2

theorem wp_stopItem_here (hc : PlanHas plan containers c) {hooksMap : HooksMap}
    {isUpdate : Bool} {items : Items} {tr : Trace Agent}
    {E : Exn → Items → Trace Agent → Prop}
    (hitems : PlanItems plan containers (ItemReady nameOf · dockerVersion) items) :
    Act.wp (runContract nameOf) (onItem c.name (stopItem c.name hooksMap isUpdate))
      (fun _ _ tr' => isRunningContainer c → Once (StoppedOrSkipped c.name) tr') E items tr := by
  obtain ⟨item, hget⟩ := hitems.has c hc
  refine wp_onItem (fun hnone => ?_) fun item' hget' => ?_
  · rw [hget] at hnone
    cases hnone
  · have hrun : item'.wasRunning = isRunningContainer c :=
      ((hitems.ok c.name item' hget').of_mem hc.1).fields.wasRunning
    refine (neverRaises_stopItem _ _ _).wp (Act.wp_mono wp_stopItem_stopped
      (fun _ _ _ h hr => h (hrun.trans hr)) fun _ _ _ h => h)

theorem wp_stopPass_inOrder (hgoes : ∀ c ∈ containers.list, GoesBy nameOf c)
    (hc : PlanHas plan containers c) (hbefore : Before plan.order b c.name)
    {hooksMap : HooksMap} {items : Items} {tr : Trace Agent}
    (hitems : PlanItems plan containers (ItemReady nameOf · dockerVersion) items)
    (htr : InOrder nameOf c.name b (isRunningContainer c) False True tr) :
    Act.wp (runContract nameOf) (stopPass plan hooksMap)
      (fun _ items' tr' => PlanItems plan containers (ItemReady nameOf · dockerVersion) items' ∧
        InOrder nameOf c.name b (isRunningContainer c) True True tr')
      (fun _ _ _ => False) items tr := by
  have hkinds : ¬ ∃ site, ∃ kind ∈ bringingUp, StopKinds site kind := by
    rintro ⟨site, kind, rfl | rfl, -, h⟩ <;> simp at h
  have hloop := Act.wp_forM (C := runContract nameOf) (E := fun _ _ _ => False)
    (fun name => onItem name (stopItem name hooksMap (name ∈ plan.toUpdate)))
    (fun done todo items' tr' => done ++ todo = plan.order.reverse ∧
      PlanItems plan containers (ItemReady nameOf · dockerVersion) items' ∧
      InOrder nameOf c.name b (isRunningContainer c) (c.name ∈ done) True tr')
    ?_ plan.order.reverse [] items tr ⟨rfl, hitems, by simpa using htr⟩
  · refine Act.wp_mono hloop (fun _ items' tr' h => ⟨h.2.1, ?_⟩) fun _ _ _ h => h
    simpa [hbefore.mem] using h.2.2
  rintro done m todo items' tr' ⟨hdone, hitems', htr'⟩
  have hframe := wp_onItem_frame (C := runContract nameOf) (E := fun _ _ _ => False)
    (keeps_stopItem hgoes hooksMap m (m ∈ plan.toUpdate)) (neverRaises_stopItem _ _ _)
    (InOrder nameOf c.name b (isRunningContainer c) (c.name ∈ done) True) (fun _ _ h => h)
    (fun _ _ _ _ _ => trivial) (fun tr e h hop hr => InOrder.keptBy
      (fun hm _ => hbefore.mem_of_split_reverse (hm ▸ hdone)) (fun _ => trivial)
      (fun _ h => absurd h hkinds) tr e hop hr h) hitems' htr'
  have hdone' : done ++ [m] ++ todo = plan.order.reverse := by simpa using hdone
  by_cases hm : m = c.name
  · subst hm
    refine Act.wp_mono (Act.wp_and hframe (wp_stopItem_here (E := fun _ _ _ => False) hc hitems'))
      (fun _ _ _ h => ⟨hdone', h.1.1, h.1.2.done fun _ => h.2⟩) fun _ _ _ h => h.1
  · refine Act.wp_mono hframe (fun _ _ _ h => ⟨hdone', h.1, h.2.done fun hmem => ?_⟩)
      fun _ _ _ h => h
    refine h.2.stopped ?_
    simpa [Ne.symm hm] using hmem

theorem wp_updatePass_inOrder (hbefore : Before plan.order b c.name) {hooksMap : HooksMap}
    {items : Items} {tr : Trace Agent}
    (hitems : PlanItems plan containers (ItemReady nameOf · dockerVersion) items)
    (htr : InOrder nameOf c.name b (isRunningContainer c) True True tr) :
    Act.wp (runContract nameOf) (updatePass host plan hooksMap)
      (fun _ items' tr' => PlanItems plan containers (ItemReady nameOf · dockerVersion) items' ∧
        InOrder nameOf c.name b (isRunningContainer c) True False tr')
      (fun _ _ _ => False) items tr := by
  have hloop := Act.wp_forM (C := runContract nameOf) (E := fun _ _ _ => False)
    (fun name => onItem name (updateOrStartItem hooksMap host.containerHcTimeout
      (name ∈ plan.toUpdate) (name ∈ plan.affected)))
    (fun done todo items' tr' => done ++ todo = plan.order ∧
      PlanItems plan containers (ItemReady nameOf · dockerVersion) items' ∧
      InOrder nameOf c.name b (isRunningContainer c) True (c.name ∈ todo) tr')
    ?_ plan.order [] items tr ⟨rfl, hitems, htr.weaken fun _ => trivial⟩
  · exact Act.wp_mono hloop (fun _ items' tr' h => ⟨h.2.1, h.2.2.weaken False.elim⟩)
      fun _ _ _ h => h
  rintro done m todo items' tr' ⟨hdone, hitems', htr'⟩
  have hdone' : done ++ [m] ++ todo = plan.order := by simpa using hdone
  have hnot : m ∉ todo := by
    have hnodup := plan.order_nodup
    rw [← hdone] at hnodup
    exact (List.nodup_cons.1 (List.nodup_append.1 hnodup).2.1).1
  refine Act.wp_mono (wp_onItem_frame (C := runContract nameOf) (E := fun _ _ _ => False)
    (keeps_updateOrStartItem hooksMap _ m _ _) (neverRaises_updateOrStartItem _ _ _ _)
    (InOrder nameOf c.name b (isRunningContainer c) True (c.name ∈ todo)) (fun _ _ h => h)
    (fun _ _ _ _ _ => trivial) (fun tr e h hop hr => InOrder.keptBy (fun _ _ => trivial)
      (fun hm => hbefore.mem_of_split (hm ▸ hdone.symm)) (fun hm _ hmem => hnot (by rwa [hm]))
      tr e hop hr h) hitems' (htr'.weaken fun hmem => List.mem_cons_of_mem _ hmem))
    (fun _ _ _ h => ⟨hdone', h.1, h.2⟩) fun _ _ _ h => h

theorem inOrder_passProof (hgoes : ∀ c ∈ containers.list, GoesBy nameOf c)
    (hc : PlanHas plan containers c) (hbefore : Before plan.order b c.name) :
    PassProof (runContract nameOf) env host containers plan dockerVersion Idle
      (fun items tr => PlanItems plan containers (Preparing · dockerVersion) items ∧
        InOrder nameOf c.name b (isRunningContainer c) False True tr)
      (fun items tr => PlanItems plan containers (ItemReady nameOf · dockerVersion) items ∧
        InOrder nameOf c.name b (isRunningContainer c) False True tr)
      (fun items tr => PlanItems plan containers (ItemReady nameOf · dockerVersion) items ∧
        InOrder nameOf c.name b (isRunningContainer c) True True tr)
      (fun items tr => PlanItems plan containers (ItemReady nameOf · dockerVersion) items ∧
        InOrder nameOf c.name b (isRunningContainer c) True False tr) where
  guar _ _ _ := trivial
  idle_next _ _ hb _ h := h.concat hb
  init _ h := ⟨planItems_initialItems, h.inOrder⟩
  prepare _ _ h := Act.wp_mono (wp_preparePass_inOrder h.1 h.2)
    (fun _ _ _ h => ⟨h.1.ready hgoes, h.2⟩) fun _ _ _ h => h
  prepared_next _ _ _ hb _ h := ⟨h.1, h.2.bookkeeping hb⟩
  stop _ _ _ h := wp_stopPass_inOrder hgoes hc hbefore h.1 h.2
  update _ _ _ h := wp_updatePass_inOrder hbefore h.1 h.2
  finished_next _ _ _ hb _ h := ⟨h.1, h.2.bookkeeping hb⟩

/-- Before anything is done to a container, all that depend on it have been
stopped or left alone because of their hooks, and none of them is created or
started before the last call for it. -/
theorem dependents_stop_first (ord : SetOrder PlanSite String) (planEnv : PlanEnv)
    (manualFor : List ContainerInspectResult) (fuel : ℕ)
    (hplan : buildUpdatePlan ord planEnv host containers.list manualFor fuel = some plan)
    (hacyc : AcyclicDependencies planEnv containers.list)
    {tr : Trace Agent} {result : Except Exn (Option UpdatePlanResult)} {items : Items}
    (run : Execution nameOf env host containers plan dockerVersion tr result items) :
    ∀ a ∈ containers.list, plan.Has a.name →
      ∀ b, DependsOnEligible planEnv containers.list a.name b →
        (isRunningContainer a →
          Always (fun pre e => Asks disturbing b e.op → Once (StoppedOrSkipped a.name) pre) tr) ∧
        Always (fun pre e => Concerns nameOf b e.op →
          ¬ Once (fun e' => Asks bringingUp a.name e'.op) pre) tr := by
  intro a ha hhas b hab
  have P : PassProof (runContract nameOf) env host containers plan dockerVersion _ _ _ _ _ :=
    inOrder_passProof run.goesBy ⟨ha, hhas⟩ (Before.of_dependsOn hplan hacyc hhas hab)
  rcases P.sound run with ⟨hidle, -⟩ | ⟨-, hfin⟩
  · have hfin : InOrder nameOf a.name b (isRunningContainer a) False True tr := hidle.inOrder
    exact ⟨hfin.disturbs, hfin.concerns⟩
  · exact ⟨hfin.disturbs, hfin.concerns⟩

end

/-- A database and an application that depends on it. -/
def dbContainer : ContainerInspectResult where
  name := "db"
  state := some { status := some "running" }
  config := some { image := some "db:latest" }
  name_nonblank := by decide

def appContainer : ContainerInspectResult where
  name := "app"
  state := some { status := some "running" }
  config := some
    { image := some "app:latest", labels := some [(tugtainerDependsOnLabel, "db")] }
  name_nonblank := by decide

def appDb : HostContainers where
  list := [appContainer, dbContainer]
  nodup := by decide

def appDbEnv : PlanEnv where
  updateOnlyRunning := true
  delayUpdateFor := 0
  now := 0
  rows := [{ hostId := 1, name := "db", updateEnabled := true, updateAvailable := true }]

theorem dependsOn_appDb {a b : String}
    (h : DependsOn (appDb.list.filter (isEligible appDbEnv)) a b) : a = "app" ∧ b = "db" := by
  have hmap : dependsOnMap (appDb.list.filter (isEligible appDbEnv)) =
      [("app", {"db"}), ("db", ∅)] := by decide
  rw [← mem_dependsOnMap_iff, hmap] at h
  by_cases ha : "app" = a
  · subst ha
    exact ⟨rfl, by simpa [Dict.get?] using h⟩
  · by_cases hb : "db" = a <;> simp [Dict.get?, ha, hb] at h

theorem acyclic_appDb : AcyclicDependencies appDbEnv appDb.list := by
  intro a h
  obtain ⟨b, hb, -⟩ := Relation.TransGen.head'_iff.1 h
  obtain ⟨d, -, hd⟩ := Relation.TransGen.tail'_iff.1 h
  exact absurd ((dependsOn_appDb hb).1.symm.trans (dependsOn_appDb hd).2) (by decide)

/-- The application stops before the database is updated, and starts after. -/
theorem dependents_stop_first_app :
    ∃ plan, buildUpdatePlan (.ascending PlanSite) appDbEnv exampleHost appDb.list [] 5 =
        some plan ∧
      ∃ tr, tr = (simulateExecution faultless exampleEnv exampleHost appDb plan []).1 ∧
        Always (fun pre e => Asks disturbing "db" e.op → Once (StoppedOrSkipped "app") pre) tr ∧
        Always (fun pre e => Concerns simNameOf "db" e.op →
          ¬ Once (fun e' => Asks bringingUp "app" e'.op) pre) tr := by
  let built := buildUpdatePlan (.ascending PlanSite) appDbEnv exampleHost appDb.list [] 5
  have hbuilt : built.isSome ∧ ∀ plan ∈ built, plan.Has "app" := by decide
  obtain ⟨plan, h⟩ : ∃ plan, built = some plan := Option.isSome_iff_exists.1 hbuilt.1
  have hdep : DependsOnEligible appDbEnv appDb.list "app" "db" :=
    .single (mem_dependsOnMap_iff.1 (by decide))
  have hend := dependents_stop_first _ _ _ _ h acyclic_appDb
    (simulateExecution_execution faultless exampleEnv exampleHost appDb plan [] (by decide))
    appContainer (by decide) (hbuilt.2 plan h) "db" hdep
  exact ⟨plan, h, _, rfl, hend.1 (by decide), hend.2⟩

end Tugtainer
