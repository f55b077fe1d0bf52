import Tugtainer.Executor.ItemRun

/-!
# Rules for the steps that start a container

The executor starts a container after the creation of a new one, in a rollback,
and where it has stopped the container for nothing. Each rule says what has to be
shown of the requests that decide the outcome; what is asked for around them only
has to leave the assertions alone.
-/

namespace Tugtainer

open Python Interaction

/-- What is asked for after the start of a created container. -/
def AfterStartKinds (site : Site) (site' : Site) (kind : Kind) : Prop :=
  site' = site ∧ (kind = .connect ∨ kind = .look)

def WaitingKinds (site : Site) (kind : Kind) : Prop :=
  site = .healthWait ∧ (kind = .look ∨ kind = .log)

def UpdatingKinds (site : Site) (_kind : Kind) : Prop :=
  site = .recreate ∨ site = .cleanup ∨ site = .healthWait

/-- What a rollback asks for before it creates the container. -/
def TagKinds (site : Site) (kind : Kind) : Prop :=
  site = .rollBack ∧ (kind = .image ∨ kind = .log)

/-- What a rollback asks for once the container is started. -/
def RestoredKinds (site : Site) (kind : Kind) : Prop :=
  (site = .rollBack ∧ kind = .exec) ∨ WaitingKinds site kind

section

variable {nameOf : String → String} {n : String} {P : ItemFields → Prop}
  {item : UpdatePlanItem} {tr : Trace Agent}

theorem waitKinds_waiting : WaitKinds WaitingKinds := ⟨⟨rfl, .inl rfl⟩, rfl, .inr rfl⟩

theorem StaysIn.wp_item {α : Type} {V : α → Prop} {x : ItemM α}
    (hx : StaysIn nameOf n (fun _ _ => True) P V x) (hitem : ItemOk nameOf n P item) :
    Act.wp (runContract nameOf) x (fun _ item' _ => ItemOk nameOf n P item')
      (fun _ item' _ => ItemOk nameOf n P item') item tr :=
  Act.wp_mono (hx.wp (A := fun _ => True) (fun _ _ _ _ _ => trivial) hitem trivial)
    (fun _ _ _ h => h.2.1) fun _ _ _ h => h.1

theorem wp_inspectItem {site : Site} {Q : UpdatePlanItem → Trace Agent → Prop}
    {E : Exn → UpdatePlanItem → Trace Agent → Prop} (hitem : ItemOk nameOf n P item)
    (hshown : ∀ c, ItemOk nameOf n P { item with container := c } →
      Q { item with container := c } (tr ++ [answered site (.containerInspect n) (.ok c)]))
    (hraised : ∀ lost,
      E .call item (tr ++ [answered site (.containerInspect n) (.raised lost)])) :
    Act.wp (runContract nameOf) (inspectItem site) (fun _ => Q) E item tr := by
  have hname : item.name = n := hitem.name
  unfold inspectItem
  rw [Act.wp_bind, Act.wp_get, hname]
  refine Act.wp_seq (fun c item' tr' => Q { item' with container := c } tr')
    (wp_call (fun c hc => ?_) hraised) fun c item' tr' h => (Act.wp_modify _).2 h
  exact hshown c ⟨hc.1.trans hitem.nameOf_eq, hc.2, hitem.fields⟩

theorem wp_removeOld {B R : Trace Agent → Prop} (hitem : ItemOk nameOf n P item)
    (hremoved : ∀ tr, B (tr ++ [answered .recreate (.containerRemove n) (.ok ())]))
    (hraised : ∀ tr request lost, R (tr ++ [answered .recreate request (.raised lost)])) :
    Act.wp (runContract nameOf) removeOld (fun _ _ => B) (fun _ _ => R) item tr := by
  unfold removeOld
  rw [Act.wp_bind, Act.wp_get]
  refine Act.wp_seq (fun _ item' _ => ItemOk nameOf n P item')
    (wp_call (fun _ _ => hitem) fun _ => hraised _ _ _) fun present item' tr' h => ?_
  refine Act.wp_seq (fun _ item' _ => ItemOk nameOf n P item') ?_ fun _ item' tr' h => ?_
  · unfold Act.whenA
    rw [Act.wp_ite]
    split
    · exact wp_inspectItem h (fun _ h => h) fun _ => hraised _ _ _
    · exact h
  unfold removeItem
  have hname : item'.name = n := h.name
  rw [Act.wp_bind, Act.wp_get, hname]
  refine Act.wp_seq (fun _ _ _ => True) ?_ fun _ _ tr' _ =>
    wp_call (fun _ _ => hremoved tr') fun _ => hraised _ _ _
  -- failing to disconnect is not an error
  exact Act.wp_forM_const _ _ _ (fun _ _ _ _ _ => (Act.wp_tryCatch _ _).2
    (wp_call (fun _ _ => trivial) fun _ => trivial)) trivial

/-- What holds once the start is asked for, and is left alone by the commands and
by looking at the container, holds after `startCreated`. -/
theorem wp_startCreated {site : Site} {B : Trace Agent → Prop}
    (hitem : ItemOk nameOf n P item) (hP : ∀ fields, P fields → CommandsFor n fields.commands)
    (hstart : ∀ r, B (tr ++ [answered site (.containerStart n) r]))
    (hB : KeptBy nameOf n (AfterStartKinds site) B) :
    Act.wp (runContract nameOf) (startCreated site)
      (fun _ item' tr' => ItemOk nameOf n P item' ∧ B tr')
      (fun _ item' tr' => ItemOk nameOf n P item' ∧ B tr') item tr := by
  have hname : item.name = n := hitem.name
  unfold startCreated
  rw [Act.wp_bind, Act.wp_get, hname]
  refine Act.wp_seq (fun _ item' tr' => ItemOk nameOf n P item' ∧ B tr')
    (wp_call (fun _ _ => ⟨hitem, hstart _⟩) fun _ => ⟨hitem, hstart _⟩) fun _ item' tr' h => ?_
  have htail : StaysIn nameOf n (AfterStartKinds site) P (fun _ => True)
      (do runCommands site; inspectItem site) :=
    .bind (staysIn_runCommands ⟨rfl, .inl rfl⟩ hP) fun _ _ => staysIn_inspectItem ⟨rfl, .inr rfl⟩
  exact Act.wp_mono (htail.wp hB h.1 h.2) (fun _ _ _ h => h.2) fun _ _ _ h => h

def LastWait (n : String) (healthy : Bool) (tr : Trace Agent) : Prop :=
  Since (fun e : Event Agent => e.op = .log (.waited n healthy))
    (fun e : Event Agent => e.op = .log (.waited n !healthy)) tr

theorem wp_waitItem {timeout : Int} {A : Trace Agent → Prop} (hitem : ItemOk nameOf n P item)
    (hA : KeptBy nameOf n WaitingKinds A) (htr : A tr) :
    Act.wp (runContract nameOf) (waitItem timeout)
      (fun healthy item' tr' => ItemOk nameOf n P item' ∧ A tr' ∧ LastWait n healthy tr')
      (fun _ item' tr' => ItemOk nameOf n P item' ∧ A tr') item tr := by
  unfold waitItem
  rw [Act.wp_bind, Act.wp_get]
  have hwait : StaysIn nameOf n WaitingKinds P (WaitOk nameOf n)
      (waitForContainerHealthy item.container timeout) :=
    staysIn_waitForContainerHealthy ⟨rfl, .inl rfl⟩ hitem.name hitem.goesBy timeout
  refine Act.wp_seq _ (hwait.wp hA hitem htr) fun r item' tr' h => ?_
  obtain ⟨healthy, c⟩ := r
  obtain ⟨⟨hname, hgoes⟩, hitem', htr'⟩ := h
  refine (Act.wp_bind _ _).2 ((Act.wp_modify _).2 ((Act.wp_bind _ _).2 (wp_log.2 ?_)))
  refine ⟨⟨hname, hgoes, hitem'.fields⟩, hA _ _ ⟨?_, hname⟩ trivial htr', ?_⟩
  · rintro site ⟨⟩
    exact ⟨rfl, .inr rfl⟩
  · refine (since_concat _ _ _ _).2 (.inl ?_)
    exact congrArg (fun name => Op.log (.waited name healthy)) hname

/-- A container that was running is inspected, and started unless it is running
again: whatever happens, `F` holds afterwards. -/
theorem wp_attemptStart {timeout : Int} {B F : Trace Agent → Prop}
    (hitem : ItemOk nameOf n P item) (hrun : item.wasRunning)
    (hraised : ∀ lost, F (tr ++ [answered .start (.containerInspect n) (.raised lost)]))
    (hshown : ∀ c, c.name = n → isRunningContainer c →
      F (tr ++ [answered .start (.containerInspect n) (.ok c)]))
    (hstart : ∀ c r, B (tr ++ [answered .start (.containerInspect n) (.ok c)] ++
      [answered .start (.containerStart n) r]))
    (hB : KeptBy nameOf n WaitingKinds B) (himp : ∀ tr, B tr → F tr)
    {E : Exn → UpdatePlanItem → Trace Agent → Prop} :
    Act.wp (runContract nameOf) (attempt (attemptStartWithHealth timeout)) (fun _ _ => F) E
      item tr := by
  refine wp_attempt ?_
  unfold attemptStartWithHealth
  rw [Act.wp_bind, Act.wp_get, if_pos hrun]
  refine Act.wp_seq (fun _ item' tr' => ItemOk nameOf n P item' ∧
    (isRunningContainer item'.container → F tr') ∧
    ∀ r, B (tr' ++ [answered .start (.containerStart n) r])) ?_ fun _ item' tr' h => ?_
  · exact wp_inspectItem hitem (fun c hc => ⟨hc, hshown c hc.name, hstart c⟩) hraised
  · obtain ⟨hitem', hshown', hstart'⟩ := h
    have hname' : item'.name = n := hitem'.name
    rw [Act.wp_bind, Act.wp_get, Act.wp_ite, hname']
    split
    · rename_i hr
      exact hshown' hr
    · refine Act.wp_seq (fun _ item'' tr'' => ItemOk nameOf n P item'' ∧ B tr'')
        (wp_call (fun _ _ => ⟨hitem', hstart' _⟩) fun _ => himp _ (hstart' _))
        fun _ item'' tr'' h => ?_
      have htail : StaysIn nameOf n WaitingKinds P (fun _ => True) (do
          let healthy ← waitItem timeout
          let item ← get
          if healthy then pure () else throw (.exception (item.name ++ " is unhealthy!"))) :=
        .bind (staysIn_waitItem waitKinds_waiting timeout) fun _ _ => .bind .get fun _ _ =>
          .ite (fun _ => .pure trivial) fun _ => .throw
      exact Act.wp_mono (htail.wp hB h.1 h.2) (fun _ _ _ h => himp _ h.2.2) fun _ _ _ h =>
        himp _ h.2

/-- The update ends with the new container, or its cleanup ends it without one. -/
theorem wp_recreateOrCleanUp {hooksMap : HooksMap} {timeout : Int} {inputs : UpdateInputs}
    {Q G R : UpdatePlanItem → Trace Agent → Prop}
    (hrecreate : Act.wp (runContract nameOf) (recreate hooksMap timeout inputs)
      (fun done item' tr' => if done then Q item' tr' else G item' tr') (fun _ => R) item tr)
    (hcleanup : ∀ item' tr' e, R item' tr' →
      Act.wp (runContract nameOf) (attempt (cleanup hooksMap)) (fun _ => G) (fun _ _ _ => True)
        { item' with errors := item'.errors ++ [e] } tr') :
    Act.wp (runContract nameOf) (recreateOrCleanUp hooksMap timeout inputs)
      (fun done item' tr' => if done then Q item' tr' else G item' tr') (fun _ _ _ => True)
      item tr :=
  Act.wp_try (fun _ => R) hrecreate fun e item' tr' hR =>
    (Act.wp_bind _ _).2 (Act.wp_seq (fun _ => G) (hcleanup item' tr' e hR) fun _ _ _ h => h)

theorem staysIn_recreateOrCleanUp_ready {c : ContainerInspectResult}
    {dockerVersion : Option DockerVersion} {inputs : UpdateInputs}
    (hitem : ItemReady nameOf c dockerVersion item) (hcan : canUpdate item = some inputs)
    (hooksMap : HooksMap) (timeout : Int) :
    StaysIn nameOf c.name UpdatingKinds (Ready c dockerVersion) (fun _ => True)
      (recreateOrCleanUp hooksMap timeout inputs) :=
  staysIn_recreateOrCleanUp (hitem.fields.inputsOk hcan).1
    ⟨fun _ _ => .inl rfl, fun _ _ => .inr (.inl rfl)⟩
    (fun _ _ _ => ⟨fun _ => .inl rfl, .inr (.inr rfl), .inr (.inr rfl)⟩)
    (fun _ => Ready.commandsFor) Ready.ignoresResult hooksMap timeout

/-- A rollback ends as `rolled_back` where the previous container was created and
started, as `B` says, and as `failed` otherwise. -/
theorem wp_rollBack {hooksMap : HooksMap} {timeout : Int} {inputs : UpdateInputs}
    {A B F : Trace Agent → Prop} (hitem : ItemOk nameOf n P item)
    (hinputs : InputsOk n inputs) (htr : A tr) (hA : KeptBy nameOf n TagKinds A)
    (hraised : ∀ tr lost, A tr →
      F (tr ++ [answered .rollBack (.containerCreate inputs.config) (.raised lost)]))
    (hstarted : ∀ item tr c, A tr → ItemOk nameOf n P item →
      Act.wp (runContract nameOf) (startCreated .rollBack)
        (fun _ item' tr' => ItemOk nameOf n P item' ∧ B tr') (fun _ _ => F) item
        (tr ++ [answered .rollBack (.containerCreate inputs.config) (.ok c)]))
    (hB : KeptBy nameOf n RestoredKinds B) (himp : ∀ tr, B tr → F tr)
    {E : Exn → UpdatePlanItem → Trace Agent → Prop} :
    Act.wp (runContract nameOf) (rollBack hooksMap timeout inputs)
      (fun _ item' tr' => ((∃ fields, P fields ∧
          item'.fields = { fields with result := some .rolledBack }) ∧ B tr') ∨
        (item'.result = some .failed ∧ F tr')) E item tr := by
  refine Act.wp_seq (fun _ item' tr' => ItemOk nameOf n P item' ∧ A tr') ?_ fun _ item' tr' h => ?_
  · refine ((neverRaises_tagPrevious inputs).wp (Act.wp_mono
      ((staysIn_tagPrevious ⟨rfl, .inl rfl⟩ ⟨rfl, .inr rfl⟩ inputs).wp hA hitem htr)
      (fun _ _ _ h => h.2) fun _ _ _ h => h))
  refine Act.wp_try (fun _ _ => F) ?_ fun _ _ _ hF => .inr ⟨rfl, hF⟩
  refine Act.wp_seq (fun c item'' tr'' => ItemOk nameOf n P { item'' with container := c } ∧
    Act.wp (runContract nameOf) (startCreated .rollBack)
      (fun _ item' tr' => ItemOk nameOf n P item' ∧ B tr') (fun _ _ => F)
      { item'' with container := c } tr'')
    (wp_call (fun c hc => ?_) fun lost => hraised _ lost h.2) fun c item'' tr'' h => ?_
  · have hname : c.name = n := Option.some.inj (hc.1.symm.trans hinputs.name)
    have hok : ItemOk nameOf n P { item' with container := c } := ⟨hname, hc.2, h.1.fields⟩
    exact ⟨hok, hstarted _ _ c h.2 hok⟩
  refine (Act.wp_bind _ _).2 ((Act.wp_modify _).2 ?_)
  refine Act.wp_seq (fun _ item' tr' => ItemOk nameOf n P item' ∧ B tr') h.2
    fun _ item' tr' h => ?_
  rw [Act.wp_bind, setResult, Act.wp_modify]
  have htail : StaysIn nameOf n RestoredKinds
      (fun fields' => ∃ fields, P fields ∧ fields' = { fields with result := some .rolledBack })
      (fun _ => True) (do runItemHooks .rollBack hooksMap .postRollback; waitItem timeout) :=
    .bind (staysIn_runItemHooks (.inl ⟨rfl, rfl⟩) _ _) fun _ _ =>
      staysIn_waitItem ⟨.inr waitKinds_waiting.1, .inr waitKinds_waiting.2⟩ timeout
  exact Act.wp_mono (htail.wp hB ⟨h.1.name, h.1.goesBy, _, h.1.fields, rfl⟩ h.2)
    (fun _ _ _ h => .inl ⟨h.2.1.fields, h.2.2⟩) fun _ _ _ h => himp _ h.2

/-- A step of the preparation either stores what it got, or records why it got
nothing. -/
theorem wp_orRecord {line : LogLine} {x : ItemM Unit} {A : UpdatePlanItem → Trace Agent → Prop}
    (hfailed : ∀ item tr e, A item tr →
      A { item with errors := item.errors ++ [e] } (tr ++ [⟨.log line, ()⟩]))
    (h : Act.wp (runContract nameOf) x (fun _ => A) (fun _ => A) item tr)
    {E : Exn → UpdatePlanItem → Trace Agent → Prop} :
    Act.wp (runContract nameOf) (tryCatch x fun e => do log line; addErrors [e]) (fun _ => A) E
      item tr := by
  refine Act.wp_try _ h fun e item' tr' h' => ?_
  rw [Act.wp_bind, wp_log]
  exact (Act.wp_modify _).2 (hfailed item' tr' e h')

/-- An assertion that the images, the configuration and the errors of the
preparation leave alone. -/
structure PreparePreserves (delay : Int) (A : UpdatePlanItem → Trace Agent → Prop) : Prop where
  inspect : ∀ {item tr} spec r, A item tr →
    A item (tr ++ [answered .prepare (.imageInspect spec) r])
  localImage : ∀ {item tr} image, A item tr → A { item with localImage := some image } tr
  pulled : ∀ {item tr} spec image, item.imageSpec = some spec → A item tr →
    A { item with remoteImage := some image }
      (tr ++ [answered .prepare (.imagePull spec) (.ok image)])
  unpulled : ∀ {item tr} spec lost, A item tr →
    A item (tr ++ [answered .prepare (.imagePull spec) (.raised lost)])
  config : ∀ {item tr} config commands, A item tr →
    A { item with config := some config, commands := commands } tr
  failed : ∀ {item tr} line e, line.site = some .prepare → A item tr →
    A { item with errors := item.errors ++ [e] } (tr ++ [⟨.log line, ()⟩])
  sleep : ∀ {item tr} r, A item tr → A item (tr ++ [⟨.sleepAbout delay, r⟩])

section

variable {dockerVersion : Option DockerVersion} {delay : Int}
  {A : UpdatePlanItem → Trace Agent → Prop} {E : Exn → UpdatePlanItem → Trace Agent → Prop}

theorem PreparePreserves.wp_getLocalImage (hA : PreparePreserves delay A) (h : A item tr) :
    Act.wp (runContract nameOf) getLocalImage (fun _ => A) E item tr := by
  unfold getLocalImage
  rw [Act.wp_bind, Act.wp_get]
  refine wp_orRecord (fun _ _ _ h => hA.failed _ _ rfl h) ?_
  rw [Act.wp_ite]
  split
  · exact Act.wp_seq _ (wp_call (fun _ _ => hA.inspect _ _ h) fun _ => hA.inspect _ _ h)
      fun _ _ _ h => (Act.wp_modify _).2 (hA.localImage _ h)
  · exact h

theorem PreparePreserves.wp_pullNewImage (hA : PreparePreserves delay A) (h : A item tr) :
    Act.wp (runContract nameOf) pullNewImage (fun _ => A) E item tr := by
  unfold pullNewImage
  rw [Act.wp_bind, Act.wp_get]
  refine wp_orRecord (fun _ _ _ h => hA.failed _ _ rfl h) ?_
  cases hspec : item.imageSpec with
  | none => exact h
  | some spec =>
      exact Act.wp_seq (fun image item => A { item with remoteImage := some image })
        (wp_call (fun _ _ => hA.pulled _ _ hspec h) fun _ => hA.unpulled _ _ h)
        fun _ _ _ h => (Act.wp_modify _).2 h

theorem PreparePreserves.wp_prepareConfig (hA : PreparePreserves delay A) (h : A item tr) :
    Act.wp (runContract nameOf) (prepareConfig dockerVersion) (fun _ => A) E item tr := by
  unfold prepareConfig
  rw [Act.wp_bind, Act.wp_get]
  refine wp_orRecord (fun _ _ _ h => hA.failed _ _ rfl h) ?_
  rw [Act.wp_bind, Act.wp_ofExcept]
  split
  · exact hA.config _ _ h
  · exact h

theorem PreparePreserves.wp (hA : PreparePreserves delay A) (h : A item tr) :
    Act.wp (runContract nameOf) (prepareItem dockerVersion delay) (fun _ => A) E item tr := by
  unfold prepareItem
  refine Act.wp_seq (fun _ => A) (hA.wp_getLocalImage h) fun _ _ _ h => ?_
  refine Act.wp_seq (fun _ => A) (hA.wp_pullNewImage h) fun _ _ _ h => ?_
  refine Act.wp_seq (fun _ => A) (hA.wp_prepareConfig h) fun _ _ _ h => ?_
  exact ⟨trivial, fun r _ => hA.sleep r h⟩

end

theorem wp_prepareItem_frame {c : ContainerInspectResult} {dockerVersion : Option DockerVersion}
    {delay : Int} {A : Trace Agent → Prop} (hA : KeptBy nameOf c.name PrepareKinds A)
    (hitem : Preparing c dockerVersion item) (htr : A tr) :
    Act.wp (runContract nameOf) (prepareItem dockerVersion delay)
      (fun _ item' tr' => Preparing c dockerVersion item' ∧ A tr') (fun _ _ _ => True) item tr :=
  Act.wp_mono ((prepares_prepareItem delay).frame A (fun _ _ h => h) (fun _ _ _ _ => trivial)
    (fun tr e h hop hr => hA tr e hop hr h) hitem htr) (fun _ _ _ h => h.2) fun _ _ _ _ => trivial

theorem wp_stopItem_frame {c : ContainerInspectResult} {dockerVersion : Option DockerVersion}
    {hooksMap : HooksMap} {isUpdate : Bool} {A : Trace Agent → Prop} (hgoes : GoesBy nameOf c)
    (hA : KeptBy nameOf c.name StopKinds A) (hitem : ItemReady nameOf c dockerVersion item)
    (htr : A tr) :
    Act.wp (runContract nameOf) (stopItem c.name hooksMap isUpdate)
      (fun _ item' tr' => ItemReady nameOf c dockerVersion item' ∧ A tr') (fun _ _ _ => True)
      item tr :=
  Act.wp_mono ((staysIn_stopItem_of_goesBy hgoes hooksMap isUpdate).wp hA hitem htr)
    (fun _ _ _ h => h.2) fun _ _ _ _ => trivial

/-- The third pass updates a container or starts it. An update ends with the new
container, or `G` holds of what it leaves and the rollback follows. -/
theorem wp_updateOrStartItem {hooksMap : HooksMap} {timeout : Int} {isUpdate isAffected : Bool}
    {F : UpdatePlanItem → Trace Agent → Prop}
    {G : UpdateInputs → UpdatePlanItem → Trace Agent → Prop}
    (hone : isUpdate = !isAffected)
    (hstart : isAffected ∨ canUpdate item = none →
      Act.wp (runContract nameOf) (attempt (attemptStartWithHealth timeout)) (fun _ => F)
        (fun _ _ _ => True) item tr)
    (hupdate : isUpdate → ∀ inputs, canUpdate item = some inputs →
      Act.wp (runContract nameOf) (recreateOrCleanUp hooksMap timeout inputs)
        (fun done item' tr' => if done then F item' tr' else G inputs item' tr')
        (fun _ _ _ => True) item (tr ++ [⟨.log (.startingUpdate item.name), ()⟩]))
    (hrollBack : ∀ inputs item' tr', canUpdate item = some inputs → G inputs item' tr' →
      Act.wp (runContract nameOf) (rollBack hooksMap timeout inputs) (fun _ => F)
        (fun _ _ _ => True) item' tr') :
    Act.wp (runContract nameOf) (updateOrStartItem hooksMap timeout isUpdate isAffected)
      (fun _ => F) (fun _ _ _ => True) item tr := by
  unfold updateOrStartItem
  cases isAffected with
  | true =>
      obtain rfl : isUpdate = false := hone
      exact hstart (.inl rfl)
  | false =>
      obtain rfl : isUpdate = true := hone
      refine Act.wp_seq (fun _ => F) ?_ fun done item' tr' h => by cases done <;> exact h
      change Act.wp _ (updateItem hooksMap timeout) _ _ _ _
      unfold updateItem
      rw [Act.wp_bind, Act.wp_get]
      cases hcan : canUpdate item with
      | none => exact Act.wp_seq (fun _ => F) (hstart (.inr hcan)) fun _ _ _ h => h
      | some inputs =>
          rw [Act.wp_bind, wp_log]
          refine Act.wp_seq _ (hupdate rfl inputs hcan) fun done item' tr' h => ?_
          cases done with
          | true => exact h
          | false => exact hrollBack inputs item' tr' hcan h

end

end Tugtainer
