import Tugtainer.Executor.Images
import Tugtainer.Executor.Scope

/-!
# Runs that are cut off

A run may end between any two of its requests, when the process is stopped, and leaves the
host as it is after the requests so far. A container is missing from its removal until the
next one of its name is created, and it stays so where Docker refuses to create even the
previous one. `missing_of_execution` says that this is all that can be missing: until then
nothing is asked for another container, so that at no moment a second one is on its way.
-/

namespace Tugtainer

open Python Interaction

/-- Docker did not create the previous container again. -/
def RestoreRefused (n : String) (e : Event Agent) : Prop :=
  ∃ body, e = answered .rollBack (.containerCreate body) (.raised none) ∧ body.name = some n

/-- A request that acts on another container than `n`. -/
def ActsOnOther (n : String) (e : Event Agent) : Prop :=
  ∃ site request m, e.op = .agent site request ∧ request.Acts ∧ request.target = some m ∧ m ≠ n

def Present (canonical : String → String) (d₀ : Docker) (n : String) (tr : Trace Agent) : Prop :=
  (Docker.after canonical d₀ tr).containers n ≠ none

/-- The container is there, or restoring it has been refused. -/
def PresentOrRefused (canonical : String → String) (d₀ : Docker) (n : String)
    (tr : Trace Agent) : Prop :=
  Present canonical d₀ n tr ∨ Once (RestoreRefused n) tr

/-- Whenever something was asked for another container, this one was there, or restoring it
had been refused. -/
def LeftPresent (canonical : String → String) (d₀ : Docker) (n : String) : Trace Agent → Prop :=
  Always fun pre e => ActsOnOther n e → PresentOrRefused canonical d₀ n pre

section

variable {nameOf canonical : String → String} {n m : String} {d₀ : Docker} {tr : Trace Agent}
  {e : Event Agent} {kinds : Site → Kind → Prop}

/-! ## Events -/

theorem not_actsOnOther_of_within (h : Within nameOf n kinds e.op) : ¬ ActsOnOther n e := by
  rintro ⟨site, request, m, hop, hacts, htarget, hmn⟩
  rw [hop] at h
  exact hmn (Option.some.inj (htarget.symm.trans (h.2.target hacts)))

theorem Docker.containers_apply_ne_none {d : Docker} (h : d.containers n ≠ none)
    (hnot : ¬ Asks {.remove} n e.op) : (d.apply canonical e).containers n ≠ none := by
  rcases apply_cases canonical d e with hd | ⟨site, request, a, hop, hd⟩
  · rwa [hd]
  rw [hop, asks_agent] at hnot
  have hmodify (name : String) (f : DockerContainer → DockerContainer) :
      (d.modifyContainer name f).containers n ≠ none := by
    unfold modifyContainer
    dsimp only
    split
    · simpa using h
    · exact h
  rw [hd]
  cases request with
  | containerCreate body =>
      simp only [perform]
      split
      · exact Option.some_ne_none _
      · exact h
  | containerStart name | containerStop name | networkDisconnect _ name _ => exact hmodify _ _
  | containerRemove name =>
      have hne : n ≠ name := fun heq => hnot ⟨congrArg some heq.symm, rfl⟩
      simpa [perform, hne] using h
  | commandRun command =>
      simp only [perform]
      split
      · exact h
      · exact hmodify _ _
  | _ => exact h

theorem Present.concat (h : Present canonical d₀ n tr) (hnot : ¬ Asks {.remove} n e.op) :
    Present canonical d₀ n (tr ++ [e]) := by
  rw [Present, Docker.after_concat]
  exact Docker.containers_apply_ne_none h hnot

theorem PresentOrRefused.concat (h : PresentOrRefused canonical d₀ n tr)
    (hnot : ¬ Asks {.remove} n e.op) : PresentOrRefused canonical d₀ n (tr ++ [e]) :=
  h.imp (·.concat hnot) fun h => (once_concat _ _ _).2 (.inl h)

theorem LeftPresent.concat (h : LeftPresent canonical d₀ n tr) (hnot : ¬ ActsOnOther n e) :
    LeftPresent canonical d₀ n (tr ++ [e]) :=
  (always_concat _ _ _).2 ⟨h, fun hacts => absurd hacts hnot⟩

theorem LeftPresent.concat_create (h : LeftPresent canonical d₀ n tr) {site : Site}
    {body : CreateContainerRequestBodySchema} (hname : body.name = some n)
    (r : Reply ContainerInspectResult) :
    LeftPresent canonical d₀ n (tr ++ [answered site (.containerCreate body) r]) :=
  h.concat fun hacts => by
    obtain ⟨_, _, m, hop, -, htarget, hmn⟩ := hacts
    cases hop
    exact hmn (Option.some.inj (htarget.symm.trans hname))

/-- A container that is created is there, and so is one whose creation was carried out
although it raised. -/
theorem present_of_created {site : Site} {body : CreateContainerRequestBodySchema}
    {r : Reply ContainerInspectResult} (hname : body.name = some n) (hr : r.effect ≠ none) :
    Present canonical d₀ n (tr ++ [answered site (.containerCreate body) r]) := by
  obtain ⟨c, hc⟩ := Option.ne_none_iff_exists'.1 hr
  rw [Present, Docker.after_concat]
  simp [Docker.apply, Docker.perform, hc, hname]

theorem leftPresent_keptBy : KeptBy nameOf n kinds (LeftPresent canonical d₀ n) :=
  fun _ _ hop _ h => h.concat (not_actsOnOther_of_within hop)

theorem not_asks_remove_of_within (hkinds : ∀ site, ¬ kinds site .remove) {op : Op}
    (hop : Within nameOf m kinds op) : ¬ Asks {.remove} n op := by
  intro hasks
  obtain ⟨-, site, _, rfl, hkind⟩ := hasks.of_within (by simp) hop
  exact hkinds site hkind

theorem present_keptBy (hkinds : ∀ site, ¬ kinds site .remove) :
    KeptBy nameOf m kinds (Present canonical d₀ n) :=
  fun _ _ hop _ h => h.concat (not_asks_remove_of_within hkinds hop)

theorem presentOrRefused_keptBy (hkinds : ∀ site, ¬ kinds site .remove) :
    KeptBy nameOf m kinds (PresentOrRefused canonical d₀ n) :=
  fun _ _ hop _ h => h.concat (not_asks_remove_of_within hkinds hop)

/-- What holds of a container between the steps for it. -/
def Undisturbed (canonical : String → String) (d₀ : Docker) (n : String) (tr : Trace Agent) :
    Prop :=
  LeftPresent canonical d₀ n tr ∧ PresentOrRefused canonical d₀ n tr

theorem undisturbed_stable :
    Stable nameOf n fun _ tr => Undisturbed canonical d₀ n tr := by
  intro _ tr e hforeign _ h
  refine ⟨(always_concat _ _ _).2 ⟨h.1, fun _ => h.2⟩, h.2.concat ?_⟩
  exact not_asks_of_foreign (by simp) hforeign

theorem undisturbed_of_foreign (hinit : d₀.containers n ≠ none)
    (h : ∀ e ∈ tr, Foreign nameOf n e.op ∧ Agrees nameOf e) : Undisturbed canonical d₀ n tr := by
  induction tr using List.reverseRecOn with
  | nil => exact ⟨always_nil _, .inl hinit⟩
  | append_singleton tr e ih =>
      obtain ⟨hforeign, hagrees⟩ := h e (by simp)
      have htr := ih fun e he => h e (List.mem_append_left _ he)
      refine ⟨(always_concat _ _ _).2 ⟨htr.1, fun _ => htr.2⟩, htr.2.concat ?_⟩
      exact not_asks_of_foreign (by simp) hforeign

theorem agrees_of_bookkeeping (h : Bookkeeping e.op) : Agrees nameOf e := by
  obtain ⟨op, r⟩ := e
  cases op with
  | agent site request => exact h.elim
  | _ => trivial

theorem undisturbed_keptBy (hkinds : ∀ site, ¬ kinds site .remove) :
    KeptBy nameOf n kinds (Undisturbed canonical d₀ n) :=
  leftPresent_keptBy.and (presentOrRefused_keptBy hkinds)

end

/-! ## The update -/

section

variable {nameOf canonical : String → String} {n : String} {d₀ : Docker} {tr : Trace Agent}
  {P : ItemFields → Prop} {item : UpdatePlanItem} {hooksMap : HooksMap} {timeout : Int}
  {inputs : UpdateInputs}

theorem wp_createMerged_present (hitem : ItemOk nameOf n P item) (hinputs : InputsOk n inputs)
    (h : LeftPresent canonical d₀ n tr) :
    Act.wp (runContract nameOf) (createMerged inputs)
      (fun _ item' tr' => ItemOk nameOf n P item' ∧ LeftPresent canonical d₀ n tr' ∧
        Present canonical d₀ n tr')
      (fun _ item' tr' => ItemOk nameOf n P item' ∧ LeftPresent canonical d₀ n tr') item tr := by
  unfold createMerged
  rw [Act.wp_bind, Act.wp_ofExcept]
  cases hmerged : diffContainerConfigWithImage inputs.config inputs.remoteImage with
  | error e => exact ⟨hitem, h⟩
  | ok merged =>
      have hname : merged.name = some n :=
        (diffContainerConfigWithImage_ok hmerged).1 n hinputs.name hinputs.nonblank
      refine Act.wp_seq (fun c item' tr' => ItemOk nameOf n P { item' with container := c } ∧
        LeftPresent canonical d₀ n tr' ∧ Present canonical d₀ n tr')
        (wp_call (fun c hc => ?_) fun lost => ⟨hitem, h.concat_create hname _⟩)
        fun _ _ _ h => (Act.wp_modify _).2 h
      have hcname : c.name = n := Option.some.inj (hc.1.symm.trans hname)
      exact ⟨⟨hcname, hc.2, hitem.fields⟩, h.concat_create hname _,
        present_of_created hname (Option.some_ne_none c)⟩

theorem wp_startNew_present (hitem : ItemOk nameOf n P item)
    (hP : ∀ fields, P fields → CommandsFor n fields.commands) (hres : IgnoresResult P)
    (h : LeftPresent canonical d₀ n tr) (hpresent : Present canonical d₀ n tr) :
    Act.wp (runContract nameOf) (startNew hooksMap timeout)
      (fun done item' tr' => ItemOk nameOf n P item' ∧ LeftPresent canonical d₀ n tr' ∧
        (done → Present canonical d₀ n tr'))
      (fun _ item' tr' => ItemOk nameOf n P item' ∧ LeftPresent canonical d₀ n tr') item tr := by
  have hkept {kinds : Site → Kind → Prop} (hkinds : ∀ site, ¬ kinds site .remove) :
      KeptBy nameOf n kinds fun tr => LeftPresent canonical d₀ n tr ∧ Present canonical d₀ n tr :=
    leftPresent_keptBy.and (present_keptBy hkinds)
  have hstarted : StaysIn nameOf n (fun _ kind => kind ≠ .remove) P (fun _ => True)
      (startCreated .recreate) := staysIn_startCreated (by simp) (by simp) (by simp) hP
  refine Act.wp_seq _ (Act.wp_mono (hstarted.wp (hkept (by simp)) hitem ⟨h, hpresent⟩)
    (fun _ _ _ h => h.2) fun _ _ _ h => ⟨h.1, h.2.1⟩) fun _ item' tr' h => ?_
  have hwait : StaysIn nameOf n (fun _ kind => kind ≠ .remove) P (fun _ => True)
      (waitItem timeout) := staysIn_waitItem ⟨by simp, by simp⟩ timeout
  refine Act.wp_seq _ (Act.wp_mono (hwait.wp (hkept (by simp)) h.1 h.2)
    (fun _ _ _ h => h.2) fun _ _ _ h => ⟨h.1, h.2.1⟩) fun healthy item' tr' h => ?_
  rw [Act.wp_ite]
  split
  · have hhooks : StaysIn nameOf n (fun _ kind => kind ≠ .remove) P (· = true) (do
        setResult .updated
        runItemHooks .recreate hooksMap .postUpdate
        pure true) :=
      .bind (staysIn_setResult fun _ => hres _ _) fun _ _ =>
        .bind (staysIn_runItemHooks (by simp) _ _) fun _ _ => .pure rfl
    exact Act.wp_mono (hhooks.wp (hkept (by simp)) h.1 h.2)
      (fun _ _ _ h => ⟨h.2.1, h.2.2.1, fun _ => h.2.2.2⟩) fun _ _ _ h => ⟨h.1, h.2.1⟩
  · have hremove : StaysIn nameOf n (fun _ _ => True) P (· = false) (do
        removeUnhealthy hooksMap
        pure false) :=
      .bind (staysIn_removeUnhealthy trivial trivial trivial trivial trivial hooksMap)
        fun _ _ => .pure rfl
    exact Act.wp_mono (hremove.wp leftPresent_keptBy h.1 h.2.1)
      (fun _ _ _ h => ⟨h.2.1, h.2.2, fun hdone => absurd hdone (by simp [h.1])⟩)
      fun _ _ _ h => h

theorem wp_recreateOrCleanUp_present (hitem : ItemOk nameOf n P item)
    (hinputs : InputsOk n inputs) (hP : ∀ fields, P fields → CommandsFor n fields.commands)
    (hres : IgnoresResult P) (h : LeftPresent canonical d₀ n tr) :
    Act.wp (runContract nameOf) (recreateOrCleanUp hooksMap timeout inputs)
      (fun done item' tr' => if done then Undisturbed canonical d₀ n tr'
        else ItemOk nameOf n P item' ∧ LeftPresent canonical d₀ n tr')
      (fun _ _ _ => True) item tr := by
  have hcleanup : StaysIn nameOf n (fun _ _ => True) P (fun _ => True)
      (attempt (cleanup hooksMap)) :=
    staysIn_attempt (staysIn_cleanup (fun _ _ => trivial) hooksMap)
  refine wp_recreateOrCleanUp (Q := fun _ tr' => Undisturbed canonical d₀ n tr')
    (G := fun item' tr' => ItemOk nameOf n P item' ∧ LeftPresent canonical d₀ n tr')
    (R := fun item' tr' => ItemOk nameOf n P item' ∧ LeftPresent canonical d₀ n tr')
    ?_ fun item' tr' e h => ?_
  · have hremove : StaysIn nameOf n (fun _ _ => True) P (fun _ => True) removeOld :=
      staysIn_removeOld trivial trivial trivial
    unfold recreate
    refine Act.wp_seq _ (Act.wp_mono (hremove.wp leftPresent_keptBy hitem h)
      (fun _ _ _ h => h.2) fun _ _ _ h => h) fun _ item' tr' h => ?_
    refine Act.wp_seq _ (wp_createMerged_present h.1 hinputs h.2) fun _ item' tr' h => ?_
    rw [Act.wp_bind, Act.wp_get, Act.wp_ite]
    split
    · refine Act.wp_mono (wp_startNew_present h.1 hP hres h.2.1 h.2.2) (fun done _ _ h => ?_)
        fun _ _ _ h => h
      cases done with
      | true => exact ⟨h.2.1, .inl (h.2.2 rfl)⟩
      | false => exact ⟨h.1, h.2.1⟩
    · exact (Act.wp_bind _ _).2 ((Act.wp_modify _).2 ⟨h.2.1, .inl h.2.2⟩)
  · exact Act.wp_mono (hcleanup.wp leftPresent_keptBy ⟨h.1.name, h.1.goesBy, h.1.fields⟩ h.2)
      (fun _ _ _ h => h.2) fun _ _ _ _ => trivial

theorem wp_rollBack_present (hitem : ItemOk nameOf n P item) (hinputs : InputsOk n inputs)
    (hP : ∀ fields, P fields → CommandsFor n fields.commands)
    (h : LeftPresent canonical d₀ n tr) :
    Act.wp (runContract nameOf) (rollBack hooksMap timeout inputs)
      (fun _ _ tr' => Undisturbed canonical d₀ n tr') (fun _ _ _ => True) item tr := by
  refine Act.wp_mono (wp_rollBack (A := LeftPresent canonical d₀ n)
    (B := Undisturbed canonical d₀ n) (F := Undisturbed canonical d₀ n)
    (E := fun _ _ _ => True) hitem hinputs h leftPresent_keptBy (fun tr lost h => ?_)
    (fun item' tr c h hitem' => ?_) (undisturbed_keptBy ?_) fun _ h => h)
    (fun _ _ _ h => ?_) fun _ _ _ h => h
  · refine ⟨h.concat_create hinputs.name _, ?_⟩
    cases lost with
    | none => exact .inr ((once_concat _ _ _).2 (.inr ⟨_, rfl, hinputs.name⟩))
    | some c => exact .inl (present_of_created hinputs.name (Option.some_ne_none c))
  · have hpresent : Present canonical d₀ n
        (tr ++ [answered .rollBack (.containerCreate inputs.config) (.ok c)]) :=
      present_of_created hinputs.name (Option.some_ne_none c)
    have hstarted : StaysIn nameOf n (fun _ kind => kind ≠ .remove) P (fun _ => True)
        (startCreated .rollBack) := staysIn_startCreated (by simp) (by simp) (by simp) hP
    exact Act.wp_mono (hstarted.wp (undisturbed_keptBy (by simp)) hitem'
      ⟨h.concat_create hinputs.name _, .inl hpresent⟩) (fun _ _ _ h => h.2) fun _ _ _ h => h.2
  · rintro site (⟨-, hkind⟩ | ⟨-, hkind | hkind⟩) <;> cases hkind
  · rcases h with ⟨-, h⟩ | ⟨-, h⟩ <;> exact h

variable {c : ContainerInspectResult} {dockerVersion : Option DockerVersion}

theorem wp_updateOrStartItem_undisturbed {isUpdate isAffected : Bool}
    (hone : isUpdate = !isAffected) (hitem : ItemReady nameOf c dockerVersion item)
    (h : Undisturbed canonical d₀ c.name tr) :
    Act.wp (runContract nameOf) (updateOrStartItem hooksMap timeout isUpdate isAffected)
      (fun _ _ tr' => Undisturbed canonical d₀ c.name tr') (fun _ _ _ => True) item tr := by
  refine wp_updateOrStartItem (F := fun _ tr' => Undisturbed canonical d₀ c.name tr')
    (G := fun _ item' tr' => ItemReady nameOf c dockerVersion item' ∧
      LeftPresent canonical d₀ c.name tr') hone (fun _ => ?_) (fun _ inputs hcan => ?_)
    fun inputs item' tr' hcan h => ?_
  · have hstart : StaysIn nameOf c.name (fun _ kind => kind ≠ .remove) (Ready c dockerVersion)
        (fun _ => True) (attempt (attemptStartWithHealth timeout)) :=
      staysIn_attempt (staysIn_attemptStartWithHealth (by simp) (by simp) ⟨by simp, by simp⟩
        timeout)
    exact Act.wp_mono (hstart.wp (undisturbed_keptBy (by simp)) hitem h)
      (fun _ _ _ h => h.2.2) fun _ _ _ _ => trivial
  · refine wp_recreateOrCleanUp_present hitem (hitem.fields.inputsOk hcan).1
      (fun _ => Ready.commandsFor) Ready.ignoresResult (h.1.concat ?_)
    rintro ⟨_, _, _, hop, -⟩
    cases hop
  · exact wp_rollBack_present h.1 (hitem.fields.inputsOk hcan).1 (fun _ => Ready.commandsFor) h.2

theorem undisturbed_itemProof {env : ExecEnv} {host : HostsModel} {plan : UpdatePlan}
    (hgoes : GoesBy nameOf c) (hhas : plan.Has c.name) (hinit : d₀.containers c.name ≠ none) :
    ItemProof nameOf env host plan dockerVersion c
      (fun _ tr => Undisturbed canonical d₀ c.name tr)
      (fun _ tr => Undisturbed canonical d₀ c.name tr)
      (fun _ tr => Undisturbed canonical d₀ c.name tr)
      (fun _ tr => Undisturbed canonical d₀ c.name tr) where
  stable := ⟨undisturbed_stable, undisturbed_stable, undisturbed_stable, undisturbed_stable⟩
  init tr htr :=
    have hforeign : ∀ e ∈ tr, Foreign nameOf c.name e.op ∧ Agrees nameOf e := fun e he =>
      ⟨foreign_of_bookkeeping (htr e he), agrees_of_bookkeeping (htr e he)⟩
    undisturbed_of_foreign hinit hforeign
  prepare _ item tr hitem h := Act.wp_mono
    (wp_prepareItem_frame (undisturbed_keptBy (by simp [PrepareKinds])) hitem h)
    (fun _ _ _ h => h.2) fun _ _ _ h => h
  skipPrepare _ _ _ h := h
  stop _ hooksMap item tr hitem h := Act.wp_mono
    (wp_stopItem_frame hgoes (undisturbed_keptBy (by simp [StopKinds])) hitem h)
    (fun _ _ _ h => h.2) fun _ _ _ h => h
  skipStop _ _ _ h := h
  update _ _ _ _ hitem h :=
    wp_updateOrStartItem_undisturbed (plan.decide_toUpdate hhas) hitem h
  skipUpdate _ _ _ h := h

end

/-! ## Every moment of a run -/

section

variable {nameOf canonical : String → String} {env : ExecEnv} {host : HostsModel}
  {containers : HostContainers} {plan : UpdatePlan} {dockerVersion : Option DockerVersion}
  {tr pre post : Trace Agent} {result : Except Exn (Option UpdatePlanResult)} {items : Items}
  {c c' : ContainerInspectResult}

theorem Docker.ofHost_ne_none (hc : c ∈ containers.list) :
    (Docker.ofHost containers).containers c.name ≠ none := by
  simp only [ofHost, ne_eq, Option.map_eq_none_iff, List.find?_eq_none]
  exact fun h => h c hc (by simp)

/-- The containers of the host are undisturbed, whether the plan has them or not. -/
theorem undisturbed_of_execution (canonical : String → String)
    (run : Execution nameOf env host containers plan dockerVersion tr result items)
    (hc : c ∈ containers.list) : Undisturbed canonical (.ofHost containers) c.name tr := by
  have hinit := Docker.ofHost_ne_none hc
  by_cases hhas : plan.Has c.name
  · have hproof : ItemProof nameOf env host plan dockerVersion c
        (fun _ tr => Undisturbed canonical (.ofHost containers) c.name tr)
        (fun _ tr => Undisturbed canonical (.ofHost containers) c.name tr)
        (fun _ tr => Undisturbed canonical (.ofHost containers) c.name tr)
        (fun _ tr => Undisturbed canonical (.ofHost containers) c.name tr) :=
      undisturbed_itemProof (run.goesBy c hc) hhas hinit
    rcases hproof.sound run ⟨hc, hhas⟩ with ⟨hidle, -⟩ | ⟨-, -, -, h⟩
    · exact hproof.init tr hidle
    · exact h
  · have hforeign : ∀ e ∈ tr, Foreign nameOf c.name e.op ∧ Agrees nameOf e := by
      refine fun e he => ⟨?_, run.agrees e he⟩
      rcases inScope_of_execution run e he with hb | ⟨c', hc', hwithin⟩
      · exact foreign_of_bookkeeping hb
      · exact foreign_of_within hwithin fun heq => hhas (heq ▸ hc'.2)
    exact undisturbed_of_foreign hinit hforeign

/-- A container that is missing has been removed, and nothing has been asked for another one
since, unless it could not be restored. -/
theorem since_of_missing {d₀ : Docker} {n : String} (hinit : d₀.containers n ≠ none)
    (h : LeftPresent canonical d₀ n tr) (hmissing : ¬ PresentOrRefused canonical d₀ n tr) :
    Since (fun e => Asks {.remove} n e.op) (ActsOnOther n) tr := by
  induction tr using List.reverseRecOn with
  | nil => exact absurd (.inl hinit) hmissing
  | append_singleton tr e ih =>
      obtain ⟨htr, he⟩ := (always_concat _ _ _).1 h
      rw [since_concat]
      by_cases hremove : Asks {.remove} n e.op
      · exact .inl hremove
      · have hbefore : ¬ PresentOrRefused canonical d₀ n tr := fun h =>
          hmissing (h.concat hremove)
        exact .inr ⟨ih htr hbefore, fun hacts => hbefore (he hacts)⟩

theorem actsOnOther_of_removes {n m : String} (hne : n ≠ m) {e : Event Agent}
    (h : Asks {.remove} n e.op) : ActsOnOther m e ∧ ¬ Asks {.remove} m e.op := by
  obtain ⟨site, request, hop, htarget, hkind⟩ := h
  have hkind : request.kind = .remove := hkind
  refine ⟨⟨site, request, n, hop, by simp [Request.Acts, hkind], htarget, hne⟩, ?_⟩
  rw [hop, asks_agent]
  exact fun h => hne (Option.some.inj (htarget.symm.trans h.1))

theorem mem_toUpdate_of_asks
    (run : Execution nameOf env host containers plan dockerVersion tr result items)
    {e : Event Agent} (he : e ∈ tr) {n : String} (hasks : Asks {.remove, .create} n e.op) :
    n ∈ plan.toUpdate := by
  rcases inScope_of_execution run e he with hb | ⟨c, hc, hwithin⟩
  · exact absurd hasks (not_asks_of_bookkeeping hb)
  · obtain ⟨rfl, site, kind, hkind, hplan⟩ := hasks.of_within (by simp) hwithin
    rcases hplan with h | h
    · exact h
    · rcases hkind with rfl | rfl <;> simp at h

/-- Wherever a run is cut off, a container of the host is missing only if it is one to update
and Docker refused to restore it, or if the run is not over, it has been removed and nothing
has been asked for any other container since. Every other container is there then, as far as
it could be restored. -/
theorem missing_of_execution (canonical : String → String)
    (run : Execution nameOf env host containers plan dockerVersion tr result items)
    (htr : tr = pre ++ post) (hc : c ∈ containers.list)
    (hmissing : (Docker.after canonical (.ofHost containers) pre).containers c.name = none) :
    c.name ∈ plan.toUpdate ∧
      (Once (RestoreRefused c.name) pre ∨
        post ≠ [] ∧ Since (fun e => Asks {.remove} c.name e.op) (ActsOnOther c.name) pre ∧
          ∀ c' ∈ containers.list, c' ≠ c →
            PresentOrRefused canonical (.ofHost containers) c'.name pre) := by
  have hleft {c' : ContainerInspectResult} (hc' : c' ∈ containers.list) :
      LeftPresent canonical (.ofHost containers) c'.name pre :=
    Always.of_append (htr ▸ (undisturbed_of_execution canonical run hc').1)
  have hmem {e : Event Agent} (he : e ∈ pre) : e ∈ tr := htr ▸ List.mem_append_left _ he
  by_cases hrefused : Once (RestoreRefused c.name) pre
  · obtain ⟨e, he, body, rfl, hname⟩ := id hrefused
    exact ⟨mem_toUpdate_of_asks run (hmem he) (asks_agent.2 ⟨hname, .inr rfl⟩), .inl hrefused⟩
  · have hgone : ¬ PresentOrRefused canonical (.ofHost containers) c.name pre :=
      not_or.2 ⟨not_not.2 hmissing, hrefused⟩
    have hsince := since_of_missing (Docker.ofHost_ne_none hc) (hleft hc) hgone
    have hupdate : c.name ∈ plan.toUpdate := by
      obtain ⟨before, e, after, hpre, hremove, -⟩ := hsince
      refine mem_toUpdate_of_asks run (hmem (hpre ▸ by simp : e ∈ pre)) ?_
      obtain ⟨site, request, hop, htarget, hkind⟩ := hremove
      exact ⟨site, request, hop, htarget, .inl hkind⟩
    refine ⟨hupdate, .inr ⟨fun hpost => ?_, hsince, fun c' hc' hne => ?_⟩⟩
    · rw [hpost, List.append_nil] at htr
      exact hgone (htr ▸ (undisturbed_of_execution canonical run hc).2)
    by_contra hmissing'
    have hname : c'.name ≠ c.name := fun heq => hne (containers.eq_of_name hc' hc heq)
    exact (since_of_missing (Docker.ofHost_ne_none hc') (hleft hc') hmissing').not_both hsince
      (fun _ => actsOnOther_of_removes hname) fun _ h => (actsOnOther_of_removes hname.symm h).1

end

/-- What is done on the two webs until the first of them has been removed. -/
def removedWeb1 :
    { tr : Trace Agent // (Docker.after id (.ofHost websHost) tr).containers "web1" = none } :=
  ⟨(simulateExecution faultless exampleEnv exampleHost websHost websPlan []).1.take 22,
    by decide +kernel⟩

def recreatedWeb1 : Trace Agent :=
  (simulateExecution faultless exampleEnv exampleHost websHost websPlan []).1.drop 22

/-- The second one is there at that moment. -/
theorem missing_of_execution_web1 :
    "web1" ∈ websPlan.toUpdate ∧
      (Once (RestoreRefused "web1") removedWeb1.1 ∨
        recreatedWeb1 ≠ [] ∧
          Since (fun e => Asks {.remove} "web1" e.op) (ActsOnOther "web1") removedWeb1.1 ∧
          ∀ c' ∈ websHost.list, c' ≠ web1Container →
            PresentOrRefused id (.ofHost websHost) c'.name removedWeb1.1) :=
  missing_of_execution id
    (simulateExecution_execution faultless exampleEnv exampleHost websHost websPlan [] (by decide))
    (List.take_append_drop 22 _).symm (c := web1Container) (by decide) removedWeb1.2

end Tugtainer
