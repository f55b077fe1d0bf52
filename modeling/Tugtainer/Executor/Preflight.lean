import Tugtainer.Executor.Restarts

/-!
# When the preparation of an update fails

The first pass collects what goes wrong with the images and the configuration of
a container, the second runs its hooks and stops it, and only the third asks
whether it can be updated. A failed hook therefore keeps the second pass from
stopping the container, while an error of the first pass does not:
`untouched_iff`.
-/

namespace Tugtainer

open Python Interaction

/-- The first pass says that a step of it failed for the container. -/
def PreparationFailed (n : String) (e : Event Agent) : Prop :=
  e.op = .log (.failedLocalImage n) ∨ e.op = .log (.failedPull n) ∨
    e.op = .log (.failedConfig n)

/-- The second pass says that a hook failed for the container. -/
def HookFailed (n : String) (e : Event Agent) : Prop := e.op = .log (.skippingStop n)

/-- Stopping, disconnecting, removing and creating. -/
def touching : Set Kind := {.stop, .disconnect, .remove, .create}

/-- What a trace shows of the update of a container: whether its preparation
failed, whether a hook did, and whether it was touched. -/
structure Seen where
  failed : Prop
  hookFailed : Prop
  touched : Prop

def seen (n : String) (tr : Trace Agent) : Seen where
  failed := Once (PreparationFailed n) tr
  hookFailed := Once (HookFailed n) tr
  touched := Once (fun e => Asks touching n e.op) tr

def Unrelated (n : String) (e : Event Agent) : Prop :=
  ¬ PreparationFailed n e ∧ ¬ HookFailed n e ∧ ¬ Asks touching n e.op

section

variable {nameOf : String → String} {n m : String} {kinds : Site → Kind → Prop}
  {e : Event Agent} {c : ContainerInspectResult} {dockerVersion : Option DockerVersion}
  {tr : Trace Agent}

theorem acts_touching : ∀ kind ∈ touching, kind ≠ .image ∧ kind ≠ .look := by
  rintro kind (rfl | rfl | rfl | rfl) <;> decide

theorem unrelated_answered {site : Site} {request : Request} (r : Reply request.Result)
    (hkind : request.kind ∉ touching) : Unrelated n (answered site request r) := by
  refine ⟨?_, ?_, ?_⟩
  · rintro (h | h | h) <;> cases h
  · rintro ⟨⟩
  · exact fun htouch => hkind (asks_agent.1 htouch).2

theorem seen_concat (h : Unrelated n e) : seen n (tr ++ [e]) = seen n tr := by
  simp [seen, h.1, h.2.1, h.2.2]

theorem unfailed_of_within (hop : Within nameOf m kinds e.op)
    (hprepare : ¬ kinds .prepare .log) (hstop : ¬ kinds .stop .log) :
    ¬ PreparationFailed n e ∧ ¬ HookFailed n e := by
  refine ⟨?_, fun h => ?_⟩
  · rintro (h | h | h) <;> rw [h] at hop <;> exact hprepare (hop.1 _ rfl)
  · rw [h] at hop
    exact hstop (hop.1 _ rfl)

theorem unrelated_of_within (hop : Within nameOf m kinds e.op)
    (hprepare : ¬ kinds .prepare .log) (hstop : ¬ kinds .stop .log)
    (htouch : ∀ site, ∀ kind ∈ touching, ¬ kinds site kind) : Unrelated n e := by
  obtain ⟨hfailed, hhook⟩ := unfailed_of_within (n := n) hop hprepare hstop
  refine ⟨hfailed, hhook, fun h => ?_⟩
  obtain ⟨-, site, kind, hkind, hk⟩ := Asks.of_within acts_touching h hop
  exact htouch site kind hkind hk

theorem unrelated_of_foreign (hforeign : Foreign nameOf n e.op) : Unrelated n e := by
  refine ⟨?_, fun h => ?_, not_asks_of_foreign acts_touching hforeign⟩
  · rintro (h | h | h) <;> rw [h] at hforeign <;> exact hforeign rfl
  · rw [h] at hforeign
    exact hforeign rfl

theorem keptBy_seen {A : Seen → Prop} (hprepare : ¬ kinds .prepare .log)
    (hstop : ¬ kinds .stop .log) (htouch : ∀ site, ∀ kind ∈ touching, ¬ kinds site kind) :
    KeptBy nameOf m kinds fun tr => A (seen n tr) := fun _ _ hop _ h =>
  (congrArg A (seen_concat (unrelated_of_within hop hprepare hstop htouch))).mpr h

theorem stable_seen (A : UpdatePlanItem → Seen → Prop) :
    Stable nameOf n fun item tr => A item (seen n tr) := fun item _ _ hforeign _ h =>
  (congrArg (A item) (seen_concat (unrelated_of_foreign hforeign))).mpr h

/-- After the first pass: what went wrong is among the errors of the item. -/
def Recorded (item : UpdatePlanItem) (s : Seen) : Prop :=
  (s.failed → item.errors ≠ []) ∧ ¬ s.hookFailed ∧ ¬ s.touched

/-- After the second pass: the container was touched unless a hook kept it from
being stopped. -/
def StoppedUnless (stops : Prop) (item : UpdatePlanItem) (s : Seen) : Prop :=
  (s.failed ∨ s.hookFailed → item.errors ≠ []) ∧ (s.touched ↔ stops ∧ ¬ s.hookFailed)

theorem StoppedUnless.addErrors {stops : Prop} {item : UpdatePlanItem} {s : Seen}
    (h : StoppedUnless stops item s) (e : Exn) :
    StoppedUnless stops { item with errors := item.errors ++ [e] } s :=
  ⟨fun _ => by simp, h.2⟩

/-- At the end: nothing more has been done to a container whose update failed. -/
def TouchedIff (stops : Prop) (s : Seen) : Prop :=
  s.failed ∨ s.hookFailed → (s.touched ↔ stops ∧ ¬ s.hookFailed)

/-! ## The first pass -/

theorem wp_prepareItem_recorded {delay : Int} {item : UpdatePlanItem}
    (h : Recorded item (seen n tr)) :
    Act.wp (runContract nameOf) (prepareItem dockerVersion delay)
      (fun _ item' tr' => Recorded item' (seen n tr')) (fun _ _ _ => True) item tr := by
  have hunrelated : ∀ (request : Request) (r : Reply request.Result) {item : UpdatePlanItem}
      {tr : Trace Agent}, request.kind = .image → Recorded item (seen n tr) →
      Recorded item (seen n (tr ++ [answered .prepare request r])) := by
    intro request r item tr hkind h
    rwa [seen_concat (unrelated_answered r fun htouch => (acts_touching _ htouch).1 hkind)]
  have hfailed : ∀ {item : UpdatePlanItem} {tr : Trace Agent} (line : LogLine) (e : Exn),
      line.site = some .prepare → Recorded item (seen n tr) →
      Recorded { item with errors := item.errors ++ [e] } (seen n (tr ++ [⟨.log line, ()⟩])) := by
    -- what is logged as failed is among the errors
    intro item tr line e hline hrec
    refine ⟨fun _ => by simp, fun hook => ?_, fun touched => ?_⟩
    · rcases (once_concat _ _ _).1 hook with hook | hook
      · exact hrec.2.1 hook
      · cases hook
        cases hline
    · exact hrec.2.2 (((once_concat _ _ _).1 touched).resolve_right not_asks_log)
  have hsleep : ∀ r, Unrelated n ⟨.sleepAbout delay, r⟩ := by
    refine fun r => ⟨?_, ?_, ?_⟩
    · rintro (h | h | h) <;> cases h
    · rintro ⟨⟩
    · rintro ⟨_, _, h, -⟩
      cases h
  have hpreserves : PreparePreserves delay fun item tr => Recorded item (seen n tr) :=
    { inspect := fun _ _ => hunrelated _ _ rfl
      localImage := fun _ h => h
      pulled := fun _ _ _ => hunrelated _ _ rfl
      unpulled := fun _ _ => hunrelated _ _ rfl
      config := fun _ _ h => h
      failed := hfailed
      sleep := fun {item _} r h => (congrArg (Recorded item) (seen_concat (hsleep r))).mpr h }
  exact hpreserves.wp h

/-! ## The second pass -/

theorem seen_touched (request : Request) {site : Site} (htarget : request.target = some n)
    (hkind : request.kind ∈ touching) (r : Reply request.Result) :
    seen n (tr ++ [answered site request r]) = { seen n tr with touched := True } := by
  have hfailed : ¬ PreparationFailed n (answered site request r) := by
    rintro (h | h | h) <;> cases h
  have hhook : ¬ HookFailed n (answered site request r) := by rintro ⟨⟩
  have htouched : Asks touching n (answered site request r).op := asks_agent.2 ⟨htarget, hkind⟩
  simp [seen, hfailed, hhook, htouched]

theorem seen_skipped : seen n (tr ++ [⟨.log (.skippingStop n), ()⟩]) =
    { seen n tr with hookFailed := True } := by
  have hfailed : ¬ PreparationFailed n ⟨.log (.skippingStop n), ()⟩ := by
    rintro (h | h | h) <;> cases h
  have hhook : HookFailed n ⟨.log (.skippingStop n), ()⟩ := rfl
  simp [seen, hfailed, hhook]

/-- Hooks are run in the container, and nothing else is asked for. -/
def HookKinds (_site : Site) (kind : Kind) : Prop := kind = .exec

theorem wp_runStopHooks {hooksMap : HooksMap} {isUpdate : Bool} {item : UpdatePlanItem}
    (h : Recorded item (seen n tr)) {E : Exn → UpdatePlanItem → Trace Agent → Prop} :
    Act.wp (runContract nameOf) (runStopHooks n hooksMap isUpdate)
      (fun _ item' tr' => item' = item ∧ Recorded item (seen n tr')) E item tr := by
  have hkeeps : Act.Keeps (Agrees nameOf) (Within nameOf n HookKinds) (· = item) (fun _ => True)
      (runStopHooks n hooksMap isUpdate) := by
    refine .bind (keeps_runHooks rfl _ _) fun errors _ => ?_
    exact .ite (fun _ => keeps_runHooks rfl _ _) fun _ => .pure trivial
  have hkept : KeptBy nameOf n HookKinds fun tr => Recorded item (seen n tr) := by
    refine keptBy_seen (by simp [HookKinds]) (by simp [HookKinds]) ?_
    rintro site kind (rfl | rfl | rfl | rfl) <;> simp [HookKinds]
  refine (neverRaises_runStopHooks n hooksMap isUpdate).wp (Act.wp_mono (hkeeps.frame _
    (fun _ _ h => h) (fun _ _ _ _ => trivial) (fun tr e h hop hr => hkept tr e hop hr h) rfl h)
    (fun _ _ _ h => h.2) fun _ _ _ h => h)

theorem wp_stop_touched {stops : Prop} {item : UpdatePlanItem} (hstops : stops)
    (h : Recorded item (seen n tr)) {E : Exn → UpdatePlanItem → Trace Agent → Prop} :
    Act.wp (runContract nameOf)
      (attempt do
        call .stop (.containerStop n)
        let container ← call .stop (.containerInspect n)
        setContainer container)
      (fun _ item' tr' => StoppedUnless stops item' (seen n tr')) E item tr := by
  have hstop : ∀ r, StoppedUnless stops item
      (seen n (tr ++ [answered .stop (.containerStop n) r])) := fun r => by
    rw [seen_touched _ rfl (.inl rfl)]
    exact ⟨fun hs => hs.elim h.1 fun hh => absurd hh h.2.1,
      fun _ => ⟨hstops, h.2.1⟩, fun _ => trivial⟩
  refine wp_attempt (Act.wp_seq (fun _ item' tr' => StoppedUnless stops item' (seen n tr'))
    (wp_call (fun _ _ => hstop _) fun _ => (hstop _).addErrors _) fun _ item' tr' h => ?_)
  have hlook : ∀ r, seen n (tr' ++ [answered .stop (.containerInspect n) r]) = seen n tr' :=
    fun r => seen_concat (unrelated_answered r (by simp [touching, Request.kind]))
  refine Act.wp_seq (fun _ item' tr' => StoppedUnless stops item' (seen n tr'))
    (wp_call (fun _ _ => ?_) fun _ => ?_) fun _ _ _ h => (Act.wp_modify _).2 h
  · rwa [hlook]
  · rw [hlook]
    exact h.addErrors _

theorem wp_stopItem_unless {hooksMap : HooksMap} {isUpdate : Bool} {item : UpdatePlanItem}
    (h : Recorded item (seen n tr)) :
    Act.wp (runContract nameOf) (stopItem n hooksMap isUpdate)
      (fun _ item' tr' => StoppedUnless item.wasRunning item' (seen n tr')) (fun _ _ _ => True)
      item tr := by
  unfold stopItem
  rw [Act.wp_bind, Act.wp_get, Act.wp_ite]
  split
  · rename_i hrun
    refine Act.wp_seq _ (wp_runStopHooks h) fun errors item' tr' h => ?_
    obtain ⟨rfl, hrec⟩ := h
    rw [Act.wp_ite]
    split
    · exact wp_stop_touched hrun hrec
    · -- the hooks failed
      rename_i herrors
      rw [Act.wp_bind]
      refine (Act.wp_modify _).2 (wp_log.2 ?_)
      rw [seen_skipped]
      refine ⟨fun _ hnil => herrors ?_, fun ht => absurd ht hrec.2.2, fun hs => absurd trivial hs.2⟩
      rw [(List.append_eq_nil_iff.1 hnil).2]
      rfl
  · rename_i hrun
    exact ⟨fun hs => hs.elim h.1 fun hh => absurd hh h.2.1,
      fun ht => absurd ht h.2.2, fun hs => absurd hs.1 hrun⟩

/-! ## The third pass -/

theorem canUpdate_eq_none {item : UpdatePlanItem} (h : item.errors ≠ []) :
    canUpdate item = none := by
  cases hcan : canUpdate item with
  | none => rfl
  | some inputs => exact absurd (canUpdate_eq_some hcan).1 h

/-- What is asked for where an update is not made. -/
def RestartKinds (site : Site) (kind : Kind) : Prop :=
  (site = .start ∨ site = .healthWait) ∧ (kind = .look ∨ kind = .start ∨ kind = .log)

theorem wp_updateOrStartItem_touched {hooksMap : HooksMap} {timeout : Int} {stops : Prop}
    {item : UpdatePlanItem} (hitem : ItemReady nameOf c dockerVersion item)
    (h : StoppedUnless stops item (seen c.name tr)) :
    Act.wp (runContract nameOf) (updateOrStartItem hooksMap timeout true false)
      (fun _ _ tr' => TouchedIff stops (seen c.name tr')) (fun _ _ _ => True) item tr := by
  by_cases hfailed : (seen c.name tr).failed ∨ (seen c.name tr).hookFailed
  · -- it cannot be updated, and is only started again
    have hnone := canUpdate_eq_none (h.1 hfailed)
    have hkept : KeptBy nameOf c.name RestartKinds fun tr => TouchedIff stops (seen c.name tr) := by
      refine keptBy_seen (by simp [RestartKinds]) (by simp [RestartKinds]) ?_
      rintro site kind (rfl | rfl | rfl | rfl) <;> simp [RestartKinds]
    refine wp_updateOrStartItem (F := fun _ tr => TouchedIff stops (seen c.name tr))
      (G := fun _ _ _ => True) rfl (fun _ => ?_)
      (fun _ inputs hcan => absurd (hnone.symm.trans hcan) (by simp))
      fun inputs _ _ hcan _ => absurd (hnone.symm.trans hcan) (by simp)
    have hstays : StaysIn nameOf c.name RestartKinds (Ready c dockerVersion) (fun _ => True)
        (attempt (attemptStartWithHealth timeout)) :=
      staysIn_attempt (staysIn_attemptStartWithHealth (by simp [RestartKinds])
        (by simp [RestartKinds]) (by simp [WaitKinds, RestartKinds]) timeout)
    exact Act.wp_mono (hstays.wp hkept hitem fun _ => h.2) (fun _ _ _ h => h.2.2)
      fun _ _ _ _ => trivial
  · -- nothing has failed so far, and neither pass comes back
    have hkept : KeptBy nameOf c.name (UpdateKinds true) fun tr =>
        ¬ ((seen c.name tr).failed ∨ (seen c.name tr).hookFailed) := by
      intro tr e hop _ h
      obtain ⟨hprepare, hhook⟩ := unfailed_of_within (n := c.name) hop (fun h => h.1 rfl)
        fun h => h.2.1 rfl
      simpa [seen, hprepare, hhook] using h
    exact Act.wp_mono ((staysIn_updateOrStartItem hooksMap timeout true false).wp hkept hitem
      hfailed) (fun _ _ _ h hf => absurd hf h.2.2) fun _ _ _ _ => trivial

/-- The second pass stops the container: it was running, and it is in the order. -/
def StopsInPlan (plan : UpdatePlan) (c : ContainerInspectResult) : Prop :=
  isRunningContainer c ∧ c.name ∈ plan.order

instance (plan : UpdatePlan) (c : ContainerInspectResult) : Decidable (StopsInPlan plan c) :=
  inferInstanceAs (Decidable (_ ∧ _))

theorem seen_of_idle (h : Idle tr) : ¬ (seen n tr).failed ∧ ¬ (seen n tr).hookFailed ∧
    ¬ (seen n tr).touched := by
  refine ⟨?_, ?_, ?_⟩
  · rintro ⟨e, he, hop | hop | hop⟩ <;> exact (hop ▸ h e he : Bookkeeping (.log _))
  · rintro ⟨e, he, hop⟩
    exact (Eq.subst (motive := Bookkeeping) hop (h e he) : Bookkeeping (.log _))
  · rintro ⟨e, he, hasks⟩
    exact not_asks_of_bookkeeping (h e he) hasks

theorem touched_itemProof {env : ExecEnv} {host : HostsModel} {plan : UpdatePlan}
    (hup : c.name ∈ plan.toUpdate) :
    ItemProof nameOf env host plan dockerVersion c
      (fun item tr => Recorded item (seen c.name tr))
      (fun item tr => Recorded item (seen c.name tr))
      (fun item tr => StoppedUnless (StopsInPlan plan c) item (seen c.name tr))
      (fun _ tr => TouchedIff (StopsInPlan plan c) (seen c.name tr)) where
  stable := ⟨stable_seen _, stable_seen _, stable_seen _,
    stable_seen fun _ => TouchedIff (StopsInPlan plan c)⟩
  init tr htr := ⟨fun hf => absurd hf (seen_of_idle htr).1, (seen_of_idle htr).2⟩
  prepare _ _ _ _ h := wp_prepareItem_recorded h
  skipPrepare hnot := absurd hup hnot
  stop hmem hooksMap item tr hitem h := by
    have hrun : item.wasRunning ↔ StopsInPlan plan c := by
      rw [show item.wasRunning = isRunningContainer c from hitem.fields.wasRunning]
      exact (and_iff_left hmem).symm
    refine Act.wp_mono (wp_stopItem_unless h) (fun _ _ _ h => ⟨h.1, ?_⟩) fun _ _ _ h => h
    rw [← hrun]
    exact h.2
  skipStop hnot _ _ h := ⟨fun hs => hs.elim h.1 fun hh => absurd hh h.2.1,
    fun ht => absurd ht h.2.2, fun hs => absurd hs.1.2 hnot⟩
  update _ hooksMap item tr hitem h := by
    have haff := Finset.disjoint_left.1 plan.disjoint hup
    simp only [hup, haff, decide_true, decide_false]
    exact wp_updateOrStartItem_touched hitem h
  skipUpdate hnot _ _ h := fun _ => h.2

/-- A container whose update fails before it begins is left untouched exactly if it
is not stopped anyway: because a hook failed, because it was not running, or
because it is not in the order. -/
theorem untouched_iff {env : ExecEnv} {host : HostsModel} {containers : HostContainers}
    {plan : UpdatePlan} {result : Except Exn (Option UpdatePlanResult)} {items : Items}
    (run : Execution nameOf env host containers plan dockerVersion tr result items)
    (hc : c ∈ containers.list) (hup : c.name ∈ plan.toUpdate) :
    ((∃ e ∈ tr, PreparationFailed c.name e ∨ HookFailed c.name e) →
        ∀ e ∈ tr, ¬ Asks touching c.name e.op) ↔
      (∀ e ∈ tr, ¬ PreparationFailed c.name e) ∨ (∃ e ∈ tr, HookFailed c.name e) ∨
        ¬ StopsInPlan plan c := by
  have hiff : TouchedIff (StopsInPlan plan c) (seen c.name tr) := by
    rcases (touched_itemProof hup).sound run ⟨hc, .inl hup⟩ with
      ⟨hidle, -⟩ | ⟨item, -, -, h⟩
    · exact fun hf => absurd hf (not_or.2 ⟨(seen_of_idle hidle).1, (seen_of_idle hidle).2.1⟩)
    · exact h
  have hor : (∃ e ∈ tr, PreparationFailed c.name e ∨ HookFailed c.name e) ↔
      (seen c.name tr).failed ∨ (seen c.name tr).hookFailed := by
    simp only [seen, Once, ← exists_or, and_or_left]
  have htouched : (∀ e ∈ tr, ¬ Asks touching c.name e.op) ↔ ¬ (seen c.name tr).touched := by
    simp [seen, Once]
  have hfailed : (∀ e ∈ tr, ¬ PreparationFailed c.name e) ↔ ¬ (seen c.name tr).failed := by
    simp [seen, Once]
  rw [hor, htouched, hfailed]
  change _ ↔ _ ∨ (seen c.name tr).hookFailed ∨ _
  -- the container is touched exactly if it is stopped, and no hook failed
  by_cases hf : (seen c.name tr).failed ∨ (seen c.name tr).hookFailed
  · rw [hiff hf]
    constructor
    · intro h
      by_cases hhook : (seen c.name tr).hookFailed
      · exact .inr (.inl hhook)
      · exact .inr (.inr fun hstop => h hf ⟨hstop, hhook⟩)
    · rintro (hnot | hhook | hnot) - ⟨hstop, hno⟩
      · exact hno (hf.resolve_left hnot)
      · exact hno hhook
      · exact hnot hstop
  · exact ⟨fun _ => .inl fun h => hf (.inl h), fun _ h => absurd h hf⟩

end

def pullFails : Scenario where
  registry := id
  fails site request := site = .prepare && request = .imagePull "web:latest"

/-- Where the image of `web` cannot be pulled, `web` is left alone exactly if the plan does not stop
it. -/
theorem untouched_iff_web :
    ((∃ e ∈ (simulateExecution pullFails exampleEnv exampleHost webHost webPlan []).1,
        PreparationFailed "web" e ∨ HookFailed "web" e) →
      ∀ e ∈ (simulateExecution pullFails exampleEnv exampleHost webHost webPlan []).1,
        ¬ Asks touching "web" e.op) ↔
      (∀ e ∈ (simulateExecution pullFails exampleEnv exampleHost webHost webPlan []).1,
        ¬ PreparationFailed "web" e) ∨
      (∃ e ∈ (simulateExecution pullFails exampleEnv exampleHost webHost webPlan []).1,
        HookFailed "web" e) ∨ ¬ StopsInPlan webPlan webContainer :=
  untouched_iff (simulateExecution_execution pullFails exampleEnv exampleHost webHost webPlan []
    (by decide)) (c := webContainer) (by decide) (by decide)

/-- A container whose image cannot be pulled is stopped all the same. -/
theorem unpulled_web_is_stopped :
    ∃ tr result items,
      Execution simNameOf exampleEnv exampleHost webHost webPlan none tr result items ∧
        webPlan.toUpdate = {"web"} ∧ (∃ e ∈ tr, e.op = .log (.failedPull "web")) ∧
        ∃ e ∈ tr, Asks {.stop} "web" e.op :=
  ⟨_, _, _, simulateExecution_execution pullFails exampleEnv exampleHost webHost webPlan []
    (by decide), rfl, exists_logged (by decide +kernel), exists_asks (by decide +kernel) rfl⟩

end Tugtainer
