import Tugtainer.Executor.Simulation
import Tugtainer.Executor.StepRules
import Tugtainer.Plan.Selection

/-!
# Which containers a run starts

A container that was stopped before the run is started by a rollback, and by
nothing else: `started_iff_rolledBack`. A container that was running is stopped
by the second pass, and the third pass has to bring it back; `restarted_iff` says
where it gives up.
-/

namespace Tugtainer

open Python Interaction

/-- A start of the container is asked for. -/
abbrev StartIssued (n : String) (e : Event Agent) : Prop := Asks {.start} n e.op

def StartedByRollBack (n : String) (tr : Trace Agent) : Prop :=
  Once (StartIssued n) tr ↔ Once (CreatedAt .rollBack n) tr

section

variable {nameOf : String → String} {n m : String} {kinds : Site → Kind → Prop}
  {e : Event Agent} {c : ContainerInspectResult} {dockerVersion : Option DockerVersion}

theorem acts_start : ∀ kind ∈ ({.start} : Set Kind), kind ≠ .image ∧ kind ≠ .look := by
  rintro kind rfl
  decide

theorem StartIssued.of_within (h : StartIssued n e) (hop : Within nameOf m kinds e.op) :
    m = n ∧ ∃ site, kinds site .start := by
  obtain ⟨hm, site, kind, rfl, hkind⟩ := Asks.of_within acts_start h hop
  exact ⟨hm, site, hkind⟩

theorem StartedByRollBack.concat {tr : Trace Agent} (h : StartedByRollBack n tr)
    (hstart : ¬ StartIssued n e) (hcreate : ¬ CreatedAt .rollBack n e) :
    StartedByRollBack n (tr ++ [e]) := by
  unfold StartedByRollBack at h ⊢
  rw [once_concat, once_concat, h]
  tauto

theorem StartedByRollBack.keptBy (hstart : ∀ site, ¬ kinds site .start)
    (hcreate : ¬ kinds .rollBack .create) : KeptBy nameOf m kinds (StartedByRollBack n) := by
  intro tr e hop _ h
  refine h.concat (fun hs => ?_) fun hc => hcreate (hc.of_within hop).2
  obtain ⟨-, site, hkind⟩ := hs.of_within hop
  exact hstart site hkind

theorem StartedByRollBack.stable : Stable nameOf n fun _ => StartedByRollBack n :=
  fun _ _ _ hforeign _ h =>
    h.concat (not_asks_of_foreign acts_start hforeign) (not_createdAt_of_foreign hforeign)

/-- What an update asks for where the container was not running. -/
def StoppedKinds (site : Site) (kind : Kind) : Prop :=
  (site = .recreate ∨ site = .cleanup) ∧ kind ≠ .start

theorem staysIn_recreateOrCleanUp_stopped {hooksMap : HooksMap} {timeout : Int}
    {inputs : UpdateInputs} (hstopped : isRunningContainer c = false)
    (hinputs : InputsOk c.name inputs) :
    StaysIn nameOf c.name StoppedKinds (Ready c dockerVersion) (fun _ => True)
      (recreateOrCleanUp hooksMap timeout inputs) := by
  refine staysIn_recreateOrCleanUp hinputs ⟨?_, ?_⟩ ?_ (fun _ => Ready.commandsFor)
    Ready.ignoresResult hooksMap timeout
  · exact fun kind hkind => ⟨.inl rfl, by rintro rfl; simp at hkind⟩
  · exact fun kind hkind => ⟨.inr rfl, by rintro rfl; simp at hkind⟩
  · intro fields hfields hwas
    rw [hfields.wasRunning, hstopped] at hwas
    cases hwas

theorem wp_rollBack_starts {hooksMap : HooksMap} {timeout : Int} {inputs : UpdateInputs}
    {item : UpdatePlanItem} {tr : Trace Agent} (hinputs : InputsOk c.name inputs)
    (hitem : ItemReady nameOf c dockerVersion item) (htr : StartedByRollBack c.name tr)
    {E : Exn → UpdatePlanItem → Trace Agent → Prop} :
    Act.wp (runContract nameOf) (rollBack hooksMap timeout inputs)
      (fun _ _ => StartedByRollBack c.name) E item tr := by
  -- once both have happened, nothing can undo it
  have hboth : ∀ tr, Once (StartIssued c.name) tr ∧ Once (CreatedAt .rollBack c.name) tr →
      StartedByRollBack c.name tr := fun tr h => ⟨fun _ => h.2, fun _ => h.1⟩
  have hmono : ∀ {m kinds}, KeptBy nameOf m kinds fun tr =>
      Once (StartIssued c.name) tr ∧ Once (CreatedAt .rollBack c.name) tr := fun tr e _ _ h =>
    ⟨(once_concat _ _ _).2 (.inl h.1), (once_concat _ _ _).2 (.inl h.2)⟩
  refine Act.wp_mono (wp_rollBack (E := E) hitem hinputs htr (StartedByRollBack.keptBy ?_ ?_)
    (fun tr lost h => h.concat ?_ ?_) (fun item tr c' _ hitem => ?_) hmono hboth)
    (fun _ _ _ h => ?_) fun _ _ _ h => h
  · rintro site ⟨-, h | h⟩ <;> cases h
  · rintro ⟨-, h | h⟩ <;> cases h
  · simp [StartIssued, Request.kind]
  · rintro ⟨body, c, h, -⟩
    cases h
  · refine Act.wp_mono (wp_startCreated hitem (fun _ => Ready.commandsFor) (fun r => ?_) hmono)
      (fun _ _ _ h => h) fun _ _ _ h => hboth _ h.2
    refine ⟨(once_concat _ _ _).2 (.inr ⟨_, _, rfl, rfl, rfl⟩), ?_⟩
    rw [once_concat, once_concat]
    exact .inl (.inr ⟨_, _, rfl, hinputs.name⟩)
  · rcases h with ⟨-, h⟩ | ⟨-, h⟩
    · exact hboth _ h
    · exact h

theorem wp_updateOrStartItem_stopped (hstopped : isRunningContainer c = false)
    {hooksMap : HooksMap} {timeout : Int} {isUpdate isAffected : Bool}
    (hone : isUpdate = !isAffected) {item : UpdatePlanItem} {tr : Trace Agent}
    (hitem : ItemReady nameOf c dockerVersion item) (htr : StartedByRollBack c.name tr) :
    Act.wp (runContract nameOf) (updateOrStartItem hooksMap timeout isUpdate isAffected)
      (fun _ _ => StartedByRollBack c.name) (fun _ _ _ => True) item tr := by
  have hrun : ¬ item.wasRunning := by
    rw [show item.wasRunning = isRunningContainer c from hitem.fields.wasRunning, hstopped]
    simp
  refine wp_updateOrStartItem (G := fun _ item tr =>
    ItemReady nameOf c dockerVersion item ∧ StartedByRollBack c.name tr) hone (fun _ => ?_)
    (fun _ inputs hcan => ?_) fun inputs item' tr' hcan h =>
      wp_rollBack_starts (hitem.fields.inputsOk hcan).1 h.1 h.2
  · -- the container was not running, so it is not started
    refine wp_attempt ?_
    unfold attemptStartWithHealth
    rw [Act.wp_bind, Act.wp_get, if_neg hrun]
    exact htr
  · have hkept : KeptBy nameOf c.name StoppedKinds (StartedByRollBack c.name) :=
      StartedByRollBack.keptBy (fun _ h => h.2 rfl) fun h => by rcases h.1 with h | h <;> cases h
    have hlog : StartedByRollBack c.name (tr ++ [⟨.log (.startingUpdate item.name), ()⟩]) :=
      htr.concat not_asks_log (by rintro ⟨_, _, h, -⟩; cases h)
    refine Act.wp_mono ((staysIn_recreateOrCleanUp_stopped hstopped
      (hitem.fields.inputsOk hcan).1).wp hkept hitem hlog) (fun done _ _ h => ?_)
      fun _ _ _ _ => trivial
    cases done with
    | true => exact h.2.2
    | false => exact h.2

theorem startedByRollBack_of_idle {tr : Trace Agent} (h : Idle tr) : StartedByRollBack n tr := by
  constructor
  · rintro ⟨e, he, hs⟩
    exact absurd hs (not_asks_of_bookkeeping (h e he))
  · rintro ⟨e, he, _, _, rfl, -⟩
    exact (h _ he).elim

theorem startedByRollBack_itemProof {env : ExecEnv} {host : HostsModel} {plan : UpdatePlan}
    (hgoes : GoesBy nameOf c) (hhas : plan.Has c.name)
    (hstopped : isRunningContainer c = false) :
    ItemProof nameOf env host plan dockerVersion c (fun _ => StartedByRollBack c.name)
      (fun _ => StartedByRollBack c.name) (fun _ => StartedByRollBack c.name)
      (fun _ => StartedByRollBack c.name) where
  stable := ⟨StartedByRollBack.stable, StartedByRollBack.stable, StartedByRollBack.stable,
    StartedByRollBack.stable⟩
  init _ := startedByRollBack_of_idle
  prepare _ _ _ hitem h := Act.wp_mono (wp_prepareItem_frame (StartedByRollBack.keptBy
    (by rintro site ⟨-, h | h⟩ <;> cases h) (by rintro ⟨h, -⟩; cases h)) hitem h)
    (fun _ _ _ h => h.2) fun _ _ _ h => h
  skipPrepare _ _ _ h := h
  stop _ _ _ _ hitem h := Act.wp_mono (wp_stopItem_frame hgoes (StartedByRollBack.keptBy
    (by rintro site ⟨-, h⟩; simp at h) (by rintro ⟨h, -⟩; cases h)) hitem h)
    (fun _ _ _ h => h.2) fun _ _ _ h => h
  skipStop _ _ _ h := h
  update _ _ _ _ hitem h := wp_updateOrStartItem_stopped hstopped (plan.decide_toUpdate hhas)
    hitem h
  skipUpdate _ _ _ h := h

/-- A container that was stopped is started by a run exactly if the rollback
creates it. -/
theorem started_iff_rolledBack {env : ExecEnv} {host : HostsModel} {containers : HostContainers}
    {plan : UpdatePlan} {tr : Trace Agent} {result : Except Exn (Option UpdatePlanResult)}
    {items : Items}
    (run : Execution nameOf env host containers plan dockerVersion tr result items)
    (hc : PlanHas plan containers c) (hstopped : isRunningContainer c = false) :
    (∀ e ∈ tr, ¬ StartIssued c.name e) ↔ ∀ e ∈ tr, ¬ CreatedAt .rollBack c.name e := by
  have hiff : StartedByRollBack c.name tr := by
    rcases (startedByRollBack_itemProof (run.goesBy c hc.1) hc.2 hstopped).sound run hc with
      ⟨hidle, -⟩ | ⟨item, -, -, h⟩
    · exact startedByRollBack_of_idle hidle
    · exact h
  have hnot := not_congr hiff
  simpa [Once] using hnot

end

/-- A host whose only container is `batch`, which is not running, and the plan that
updates it. -/
def batchHost : HostContainers where
  list := [batchContainer]
  nodup := by decide

def batchPlan : UpdatePlan where
  toUpdate := {"batch"}
  affected := ∅
  order := ["batch"]
  order_nodup := by decide
  disjoint := by decide

/-- Docker rejects the container created from the new image. -/
def createFails : Scenario where
  registry := id
  fails site request := site = .recreate && request.kind = .create

/-- Where nothing fails, `batch` stays as it is. -/
theorem started_iff_rolledBack_batch :
    (∀ e ∈ (simulateExecution faultless exampleEnv exampleHost batchHost batchPlan []).1,
        ¬ StartIssued "batch" e) ↔
      ∀ e ∈ (simulateExecution faultless exampleEnv exampleHost batchHost batchPlan []).1,
        ¬ CreatedAt .rollBack "batch" e :=
  started_iff_rolledBack
    (simulateExecution_execution faultless exampleEnv exampleHost batchHost batchPlan []
      (by decide))
    (c := batchContainer) (by decide) (by decide)

/-- The rollback starts `batch`, which was not running. -/
theorem stopped_batch_is_started :
    ∃ tr result items,
      Execution simNameOf exampleEnv exampleHost batchHost batchPlan none tr result items ∧
        isRunningContainer batchContainer = false ∧ ∃ e ∈ tr, StartIssued "batch" e :=
  ⟨_, _, _, simulateExecution_execution createFails _ _ _ _ [] (by decide), by decide,
    exists_asks (by decide +kernel) rfl⟩

/-! ## Containers that were running -/

/-- A stop of the container is asked for. -/
abbrev StopIssued (n : String) (e : Event Agent) : Prop := Asks {.stop} n e.op

/-- A removal of the container succeeds. -/
def Removed (n : String) (e : Event Agent) : Prop :=
  ∃ site, e = answered site (.containerRemove n) (.ok ())

/-- The container is shown to be running, or a start of it is asked for. -/
def BackUp (n : String) (e : Event Agent) : Prop :=
  StartIssued n e ∨ ∃ site ref c, e = answered site (.containerInspect ref) (.ok c) ∧
    c.name = n ∧ isRunningContainer c

/-- The inspection before a restart raises, or so does the creation of a
rollback. -/
def GivesUp (n : String) (e : Event Agent) : Prop :=
  (∃ lost, e = answered .start (.containerInspect n) (.raised lost)) ∨
    ∃ body lost, e = answered .rollBack (.containerCreate body) (.raised lost) ∧
      body.name = some n

/-- The container has been stopped and is not known to be back up. -/
abbrev Waiting (n : String) (tr : Trace Agent) : Prop := Since (StopIssued n) (BackUp n) tr

/-- The executor gives up on the container only once it has been removed, or while
it is not waiting. -/
def NeverAbandoned (n : String) (tr : Trace Agent) : Prop :=
  Always (fun pre e => GivesUp n e → Waiting n pre → Once (Removed n) pre) tr

section

variable {nameOf : String → String} {n m : String} {kinds : Site → Kind → Prop}
  {e : Event Agent} {c : ContainerInspectResult} {dockerVersion : Option DockerVersion}
  {tr : Trace Agent}

@[simp] theorem stopIssued_answered {site : Site} {request : Request}
    {r : Reply request.Result} :
    StopIssued n (answered site request r) ↔ request.target = some n ∧ request.kind = .stop := by
  simp [StopIssued]

@[simp] theorem not_stopIssued_log {line : LogLine} : ¬ StopIssued n ⟨.log line, ()⟩ :=
  not_asks_log

theorem acts_stop : ∀ kind ∈ ({.stop} : Set Kind), kind ≠ .image ∧ kind ≠ .look := by
  rintro kind rfl
  decide

theorem GivesUp.of_within (h : GivesUp n e) (hop : Within nameOf m kinds e.op) :
    kinds .start .look ∨ kinds .rollBack .create := by
  rcases h with ⟨lost, rfl⟩ | ⟨body, lost, rfl, -⟩
  · exact .inl hop.1
  · exact .inr hop.1

theorem NeverAbandoned.keptBy (hlook : ¬ kinds .start .look)
    (hcreate : ¬ kinds .rollBack .create) : KeptBy nameOf m kinds (NeverAbandoned n) :=
  fun _ _ hop _ h => (always_concat _ _ _).2
    ⟨h, fun hup => ((hup.of_within hop).elim hlook hcreate).elim⟩

theorem not_waiting_keptBy (hstop : ∀ site, ¬ kinds site .stop) :
    KeptBy nameOf m kinds fun tr => ¬ Waiting n tr := by
  intro tr e hop _ h hwait
  rcases (since_concat _ _ _ _).1 hwait with hs | ⟨hs, -⟩
  · obtain ⟨-, site, kind, rfl, hkind⟩ := Asks.of_within acts_stop hs hop
    exact hstop site hkind
  · exact h hs

/-- What the run has to achieve for the container holds once the executor gives up
on it, if and only if it was not abandoned. -/
theorem GivesUp.restartedIff (h : GivesUp n e) (htr : NeverAbandoned n tr) :
    (Once (Removed n) (tr ++ [e]) ∨ ¬ Waiting n (tr ++ [e])) ↔ NeverAbandoned n (tr ++ [e]) := by
  have hremoved : ¬ Removed n e := by
    rintro ⟨site, rfl⟩
    rcases h with ⟨_, h⟩ | ⟨_, _, h, -⟩ <;> cases h
  have hstop : ¬ StopIssued n e := by
    rintro ⟨site, request, hop, -, hkind⟩
    rcases h with ⟨_, rfl⟩ | ⟨_, _, rfl, -⟩ <;> cases hop <;> cases hkind
  have hback : ¬ BackUp n e := by
    rintro (⟨site, request, hop, -, hkind⟩ | ⟨site, ref, c, rfl, -⟩)
    · rcases h with ⟨_, rfl⟩ | ⟨_, _, rfl, -⟩ <;> cases hop <;> cases hkind
    · rcases h with ⟨_, h⟩ | ⟨_, _, h, -⟩ <;> cases h
  unfold NeverAbandoned Waiting at *
  rw [once_concat, since_concat, always_concat]
  constructor
  · intro hend
    refine ⟨htr, fun _ hwait => ?_⟩
    tauto
  · rintro ⟨-, hend⟩
    have := hend h
    tauto

/-- What holds of a container from the time that it is back up. -/
def Back (n : String) (tr : Trace Agent) : Prop := NeverAbandoned n tr ∧ ¬ Waiting n tr

/-- The container is back up or removed exactly if it was not abandoned. -/
def RestartedIff (n : String) (tr : Trace Agent) : Prop :=
  (Once (Removed n) tr ∨ ¬ Waiting n tr) ↔ NeverAbandoned n tr

theorem Back.restartedIff (h : Back n tr) : RestartedIff n tr :=
  ⟨fun _ => h.1, fun _ => .inr h.2⟩

theorem Back.keptBy (hlook : ¬ kinds .start .look) (hcreate : ¬ kinds .rollBack .create)
    (hstop : ∀ site, ¬ kinds site .stop) : KeptBy nameOf m kinds (Back n) :=
  (NeverAbandoned.keptBy hlook hcreate).and (not_waiting_keptBy hstop)

theorem NeverAbandoned.concat (htr : NeverAbandoned n tr) (h : ¬ GivesUp n e) :
    NeverAbandoned n (tr ++ [e]) :=
  (always_concat _ _ _).2 ⟨htr, fun hup => absurd hup h⟩

theorem BackUp.back (hback : BackUp n e) (hup : ¬ GivesUp n e) (hstop : ¬ StopIssued n e)
    (htr : NeverAbandoned n tr) : Back n (tr ++ [e]) :=
  ⟨htr.concat hup, fun hwait => ((since_concat _ _ _ _).1 hwait).elim hstop fun h => h.2 hback⟩

theorem NeverAbandoned.back_start {site : Site} {r : Reply Unit} (htr : NeverAbandoned n tr) :
    Back n (tr ++ [answered site (.containerStart n) r]) := by
  refine BackUp.back (.inl ⟨_, _, rfl, rfl, rfl⟩) ?_ ?_ htr
  · rintro (⟨_, h⟩ | ⟨_, _, h, -⟩) <;> cases h
  · simp [Request.kind]

theorem wp_attemptStart_running {P : ItemFields → Prop} {timeout : Int} {item : UpdatePlanItem}
    (hitem : ItemOk nameOf n P item) (hrun : item.wasRunning) (htr : NeverAbandoned n tr)
    {E : Exn → UpdatePlanItem → Trace Agent → Prop} :
    Act.wp (runContract nameOf) (attempt (attemptStartWithHealth timeout))
      (fun _ _ => RestartedIff n) E item tr := by
  have hshown : ∀ c, ¬ GivesUp n (answered .start (.containerInspect n) (.ok c)) := by
    rintro c (⟨_, h⟩ | ⟨_, _, h, -⟩) <;> cases h
  refine wp_attemptStart hitem hrun (fun lost => ?_) (fun c hname hr => ?_)
    (fun c r => (htr.concat (hshown c)).back_start)
    (Back.keptBy (by simp [WaitingKinds]) (by simp [WaitingKinds]) (by simp [WaitingKinds]))
    fun _ => Back.restartedIff
  · exact GivesUp.restartedIff (.inl ⟨lost, rfl⟩) htr
  · refine (BackUp.back (.inr ⟨_, _, c, rfl, hname, hr⟩) (hshown c) ?_ htr).restartedIff
    simp [Request.kind]

theorem removed_concat (h : Once (Removed n) tr) : Once (Removed n) (tr ++ [e]) :=
  (once_concat _ _ _).2 (.inl h)

theorem wp_recreate_removed {P : ItemFields → Prop} {hooksMap : HooksMap} {timeout : Int}
    {inputs : UpdateInputs} {item : UpdatePlanItem} (hitem : ItemOk nameOf n P item) :
    Act.wp (runContract nameOf) (recreate hooksMap timeout inputs)
      (fun _ _ => Once (Removed n)) (fun _ _ _ => True) item tr := by
  refine Act.wp_seq (fun _ _ => Once (Removed n)) (wp_removeOld hitem (fun tr => ?_)
    fun _ _ _ => trivial) fun _ item' tr' h => ?_
  · exact (once_concat _ _ _).2 (.inr ⟨_, rfl⟩)
  · exact Act.wp_mono (wp_of_monotone (fun _ _ => removed_concat) h) (fun _ _ _ h => h)
      fun _ _ _ _ => trivial

theorem wp_recreateOrCleanUp_removed {P : ItemFields → Prop} {hooksMap : HooksMap}
    {timeout : Int} {inputs : UpdateInputs} {item : UpdatePlanItem}
    (hitem : ItemOk nameOf n P item) :
    Act.wp (runContract nameOf) (recreateOrCleanUp hooksMap timeout inputs)
      (fun done _ tr' => if done then Once (Removed n) tr' else True) (fun _ _ _ => True)
      item tr := by
  refine wp_recreateOrCleanUp (Q := fun _ => Once (Removed n)) (G := fun _ _ => True)
    (R := fun _ _ => True) (Act.wp_mono (wp_recreate_removed hitem) (fun done _ _ h => ?_)
    fun _ _ _ h => h) fun _ _ _ _ => wp_of_monotone (fun _ _ h => h) trivial
  cases done with
  | true => exact h
  | false => trivial

theorem wp_updateOrStartItem_running (hrunning : isRunningContainer c) {hooksMap : HooksMap}
    {timeout : Int} {isUpdate isAffected : Bool} (hone : isUpdate = !isAffected)
    {item : UpdatePlanItem} (hitem : ItemReady nameOf c dockerVersion item)
    (htr : NeverAbandoned c.name tr) :
    Act.wp (runContract nameOf) (updateOrStartItem hooksMap timeout isUpdate isAffected)
      (fun _ _ => RestartedIff c.name) (fun _ _ _ => True) item tr := by
  have hrun : item.wasRunning := Eq.trans hitem.fields.wasRunning hrunning
  refine wp_updateOrStartItem (G := fun _ item tr =>
    ItemReady nameOf c dockerVersion item ∧ NeverAbandoned c.name tr) hone
    (fun _ => wp_attemptStart_running hitem hrun htr) (fun _ inputs hcan => ?_)
    fun inputs item' tr' hcan h => ?_
  · have hlog : NeverAbandoned c.name (tr ++ [⟨.log (.startingUpdate item.name), ()⟩]) :=
      htr.concat (by rintro (⟨_, h⟩ | ⟨_, _, h, -⟩) <;> cases h)
    have hkept : KeptBy nameOf c.name UpdatingKinds (NeverAbandoned c.name) :=
      NeverAbandoned.keptBy (by simp [UpdatingKinds]) (by simp [UpdatingKinds])
    refine Act.wp_mono (Act.wp_and
      ((staysIn_recreateOrCleanUp_ready hitem hcan hooksMap timeout).wp hkept hitem hlog)
      (wp_recreateOrCleanUp_removed hitem)) (fun done _ _ h => ?_) fun _ _ _ _ => trivial
    cases done with
    | true => exact ⟨fun _ => h.1.2.2, fun _ => .inl h.2⟩
    | false => exact h.1.2
  · have hinputs := (hitem.fields.inputsOk hcan).1
    refine Act.wp_mono (wp_rollBack (E := fun _ _ _ => True) (B := Back c.name) h.1 hinputs h.2
      (NeverAbandoned.keptBy (by simp [TagKinds]) (by simp [TagKinds]))
      (fun tr lost h => GivesUp.restartedIff (.inr ⟨_, lost, rfl, hinputs.name⟩) h)
      (fun item tr c' h hitem => ?_)
      (Back.keptBy (by simp [RestoredKinds, WaitingKinds]) (by simp [RestoredKinds, WaitingKinds])
        (by simp [RestoredKinds, WaitingKinds])) fun _ => Back.restartedIff)
      (fun _ _ _ h => ?_) fun _ _ _ h => h
    · refine Act.wp_mono (wp_startCreated hitem (fun _ => Ready.commandsFor)
        (fun r => NeverAbandoned.back_start (h.concat ?_))
        (Back.keptBy (by simp [AfterStartKinds]) (by simp [AfterStartKinds])
          (by simp [AfterStartKinds]))) (fun _ _ _ h => h) fun _ _ _ h => h.2.restartedIff
      rintro (⟨_, h⟩ | ⟨_, _, h, -⟩) <;> cases h
    · rcases h with ⟨-, h⟩ | ⟨-, h⟩
      · exact h.restartedIff
      · exact h

/-- An event that does not matter to the container. -/
def Neutral (n : String) (e : Event Agent) : Prop :=
  ¬ GivesUp n e ∧ ¬ Removed n e ∧ ¬ StopIssued n e ∧ ¬ BackUp n e

theorem Neutral.neverAbandoned (h : Neutral n e) :
    NeverAbandoned n (tr ++ [e]) ↔ NeverAbandoned n tr :=
  (always_concat _ _ _).trans (and_iff_left fun hup => absurd hup h.1)

theorem Neutral.removed (h : Neutral n e) : Once (Removed n) (tr ++ [e]) ↔ Once (Removed n) tr :=
  (once_concat _ _ _).trans (or_iff_left h.2.1)

theorem Neutral.waiting (h : Neutral n e) : Waiting n (tr ++ [e]) ↔ Waiting n tr :=
  (since_concat _ _ _ _).trans (by simp [h.2.2.1, h.2.2.2])

theorem Neutral.restartedIff (h : Neutral n e) (htr : RestartedIff n tr) :
    RestartedIff n (tr ++ [e]) := by
  unfold RestartedIff
  rwa [h.removed, h.waiting, h.neverAbandoned]

theorem neutral_of_foreign (hn : nameOf n = n) (hforeign : Foreign nameOf n e.op)
    (hr : Agrees nameOf e) : Neutral n e := by
  refine ⟨?_, ?_, not_asks_of_foreign acts_stop hforeign, ?_⟩
  · rintro (⟨lost, rfl⟩ | ⟨body, lost, rfl, hname⟩)
    · obtain ⟨m, hmn, hfor⟩ := hforeign
      exact hmn (hfor.symm.trans hn)
    · obtain ⟨m, hmn, hfor⟩ := hforeign
      exact hmn (Option.some.inj (hfor.symm.trans hname))
  · rintro ⟨site, rfl⟩
    obtain ⟨m, hmn, hfor⟩ := hforeign
    exact hmn hfor.symm
  · rintro (hstart | ⟨site, ref, c, rfl, hname, -⟩)
    · exact not_asks_of_foreign acts_start hforeign hstart
    · obtain ⟨m, hmn, hfor⟩ := hforeign
      exact hmn (hfor.symm.trans (hr.1.symm.trans hname))

theorem neutral_of_bookkeeping (h : Bookkeeping e.op) : Neutral n e := by
  refine ⟨?_, ?_, not_asks_of_bookkeeping h, ?_⟩
  · rintro (⟨_, rfl⟩ | ⟨_, _, rfl, -⟩) <;> exact h
  · rintro ⟨_, rfl⟩
    exact h
  · rintro (hstart | ⟨_, _, _, rfl, -⟩)
    · exact not_asks_of_bookkeeping h hstart
    · exact h

theorem back_of_idle (h : Idle tr) : Back n tr := by
  induction tr using List.reverseRecOn with
  | nil => exact ⟨always_nil _, since_nil _ _⟩
  | append_singleton tr e ih =>
      have hneutral : Neutral n e := neutral_of_bookkeeping (h e (by simp))
      obtain ⟨hnever, hwait⟩ := ih fun e' he' => h e' (by simp [he'])
      exact ⟨hneutral.neverAbandoned.2 hnever, fun hw => hwait (hneutral.waiting.1 hw)⟩

/-- After the second pass the container may be waiting, if it is in the order. -/
def MayWait (plan : UpdatePlan) (n : String) (tr : Trace Agent) : Prop :=
  NeverAbandoned n tr ∧ (n ∉ plan.order → ¬ Waiting n tr)

theorem restarted_itemProof {env : ExecEnv} {host : HostsModel} {plan : UpdatePlan}
    (hgoes : GoesBy nameOf c) (hhas : plan.Has c.name) (hrunning : isRunningContainer c) :
    ItemProof nameOf env host plan dockerVersion c (fun _ => Back c.name)
      (fun _ => Back c.name) (fun _ => MayWait plan c.name) (fun _ => RestartedIff c.name) := by
  have hback : Stable nameOf c.name fun _ => Back c.name := fun _ tr e hforeign hr h => by
    have hneutral := neutral_of_foreign hgoes.1 hforeign hr
    exact ⟨hneutral.neverAbandoned.2 h.1, fun hw => h.2 (hneutral.waiting.1 hw)⟩
  refine
    { stable := ⟨hback, hback, fun _ tr e hforeign hr h => ?_, fun _ tr e hforeign hr h => ?_⟩
      init := fun _ => back_of_idle
      prepare := fun _ item tr hitem h => ?_
      skipPrepare := fun _ _ _ h => h
      stop := fun hmem hooksMap item tr hitem h => ?_
      skipStop := fun _ _ _ h => ⟨h.1, fun _ => h.2⟩
      update := fun _ hooksMap item tr hitem h =>
        wp_updateOrStartItem_running hrunning (plan.decide_toUpdate hhas) hitem h.1
      skipUpdate := fun hnot _ _ h => Back.restartedIff ⟨h.1, h.2 hnot⟩ }
  · have hneutral := neutral_of_foreign hgoes.1 hforeign hr
    exact ⟨hneutral.neverAbandoned.2 h.1, fun hnot hw => h.2 hnot (hneutral.waiting.1 hw)⟩
  · exact (neutral_of_foreign hgoes.1 hforeign hr).restartedIff h
  · exact Act.wp_mono (wp_prepareItem_frame (Back.keptBy (by simp [PrepareKinds])
      (by simp [PrepareKinds]) (by simp [PrepareKinds])) hitem h) (fun _ _ _ h => h.2)
      fun _ _ _ h => h
  · refine Act.wp_mono (wp_stopItem_frame hgoes (NeverAbandoned.keptBy (by simp [StopKinds])
      (by simp [StopKinds])) hitem h.1) (fun _ _ _ h => ⟨h.2, fun hnot => ?_⟩) fun _ _ _ h => h
    exact absurd hmem hnot

/-- A running container that is not removed comes back up after every stop, exactly
if the executor does not give up on it while it is down. -/
theorem restarted_iff {env : ExecEnv} {host : HostsModel} {containers : HostContainers}
    {plan : UpdatePlan} {result : Except Exn (Option UpdatePlanResult)} {items : Items}
    (run : Execution nameOf env host containers plan dockerVersion tr result items)
    (hc : PlanHas plan containers c) (hrunning : isRunningContainer c) :
    ((∀ e ∈ tr, ¬ Removed c.name e) → LeadsTo (StopIssued c.name) (BackUp c.name) tr) ↔
      NeverAbandoned c.name tr := by
  have hiff : RestartedIff c.name tr := by
    rcases (restarted_itemProof (run.goesBy c hc.1) hc.2 hrunning).sound run hc with
      ⟨hidle, -⟩ | ⟨item, -, -, h⟩
    · exact (back_of_idle hidle).restartedIff
    · exact h
  unfold RestartedIff at hiff
  rw [← hiff, leadsTo_iff, imp_iff_not_or]
  simp [Once]

end

/-- A host whose only container is `web`, which is running, and the plan that
updates it. -/
def webHost : HostContainers where
  list := [webContainer]
  nodup := nodup_web

def webPlan : UpdatePlan where
  toUpdate := {"web"}
  affected := ∅
  order := ["web"]
  order_nodup := List.nodup_singleton "web"
  disjoint := disjoint_web

def removeFails : Scenario where
  registry := id
  fails _ request := request.kind = .remove

/-- Where `web` cannot be removed, it comes back up exactly if it is not abandoned. -/
theorem restarted_iff_web :
    ((∀ e ∈ (simulateExecution removeFails exampleEnv exampleHost webHost webPlan []).1,
        ¬ Removed "web" e) →
      LeadsTo (StopIssued "web") (BackUp "web")
        (simulateExecution removeFails exampleEnv exampleHost webHost webPlan []).1) ↔
      NeverAbandoned "web"
        (simulateExecution removeFails exampleEnv exampleHost webHost webPlan []).1 :=
  restarted_iff (simulateExecution_execution removeFails exampleEnv exampleHost webHost webPlan []
    (by decide)) (c := webContainer) (by decide) (by decide)

/-- Whether an event is a removal of the container that succeeds. -/
def isRemoved (n : String) (e : Event Agent) : Bool :=
  match e with
  | ⟨.agent _ (.containerRemove m), .ok _⟩ => m = n
  | _ => false

/-- Whether an event shows that the container is back up. -/
def isBackUp (n : String) (e : Event Agent) : Bool :=
  match e with
  | ⟨.agent _ (.containerStart m), _⟩ => m = n
  | ⟨.agent _ (.containerInspect _), .ok c⟩ => c.name = n && isRunningContainer c
  | _ => false

theorem isBackUp_of_backUp {n : String} {e : Event Agent} (h : BackUp n e) : isBackUp n e := by
  rcases h with ⟨site, request, hop, htarget, hkind⟩ | ⟨site, ref, c, rfl, hname, hrun⟩
  · obtain ⟨op, r⟩ := e
    cases hop
    cases request <;> try cases hkind
    simpa [isBackUp, Request.target] using htarget
  · simp [isBackUp, hname, hrun]

/-- The container that cannot be removed is left stopped: the rollback finds its
name taken. -/
theorem unremovable_web_stays_stopped :
    ∃ tr result items,
      Execution simNameOf exampleEnv exampleHost webHost webPlan none tr result items ∧
        isRunningContainer webContainer ∧ (∀ e ∈ tr, ¬ Removed "web" e) ∧
        ¬ LeadsTo (StopIssued "web") (BackUp "web") tr := by
  refine ⟨_, _, _, simulateExecution_execution removeFails exampleEnv exampleHost webHost webPlan
    [] (by decide), by decide, ?_, ?_⟩
  · have hnone : (simulateExecution removeFails exampleEnv exampleHost webHost webPlan []).1.all
        (fun e => !isRemoved "web" e) = true := by decide +kernel
    rintro e he ⟨site, rfl⟩
    simpa [isRemoved] using List.all_eq_true.1 hnone _ he
  · have hsince : (simulateExecution removeFails exampleEnv exampleHost webHost webPlan []).1.foldl
        (fun since e => (e.op.asked = some (.stop, "web") : Bool) || (since && !isBackUp "web" e))
        false = true := by decide +kernel
    rw [leadsTo_iff, not_not]
    refine ((since_iff_foldl _ _ _).2 hsince).mono (fun e h => ?_) fun e h => isBackUp_of_backUp h
    exact Op.asks (by simpa using h) rfl

end Tugtainer
