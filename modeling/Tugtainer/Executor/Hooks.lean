import Tugtainer.Executor.Quiet
import Tugtainer.Executor.Restarts
import Tugtainer.Executor.Scope

/-!
# How often hooks run

No hook of a container should run twice during an update. An update that finds its new
container unhealthy runs the hook before a rollback, and so does the cleanup where it finds
the container running. Where the first one raises after its hook, the second one follows:
`tidyHooks_iff`.
-/

namespace Tugtainer

open Python Interaction

/-- The phase is invoked for the container: `run_hooks` is called for it, also where the container
has no commands for it. -/
def Invoked (n : String) (hook : HookName) (e : Event Agent) : Prop :=
  e.op = .log (.hooks n hook)

/-- The wait for the container ends, and it is not healthy. -/
def WaitedUnhealthy (n : String) (e : Event Agent) : Prop :=
  e.op = .log (.waited n false)

def StoppedByCleanup (n : String) (e : Event Agent) : Prop :=
  e.op = .agent .cleanup (.containerStop n)

def FoundRunning (n : String) (e : Event Agent) : Prop :=
  ∃ c, e = answered .cleanup (.containerInspect n) (.ok c) ∧ isRunningContainer c = true

/-- Each hook runs at most once, those before a stop or an update only before the first stop
of the container, and the one after an update not along with those of a rollback. -/
structure TidyHooks (n : String) (tr : Trace Agent) : Prop where
  once : ∀ hook, Always (fun pre e => Invoked n hook e → ¬ Once (Invoked n hook) pre) tr
  before : Always (fun pre e => Invoked n .preStop e ∨ Invoked n .preUpdate e →
    ¬ Once (StopIssued n) pre) tr
  exclusive : ¬ (Once (Invoked n .postUpdate) tr ∧
    (Once (Invoked n .preRollback) tr ∨ Once (Invoked n .postRollback) tr))

/-- A container that was not healthy is not found running by the cleanup, unless it has
asked for a stop already. -/
def UnhealthyIsGone (n : String) (tr : Trace Agent) : Prop :=
  Always (fun pre e => FoundRunning n e → ¬ Once (StoppedByCleanup n) pre →
    ¬ Once (WaitedUnhealthy n) pre) tr

/-! ## What a trace shows of the hooks -/

/-- The hooks of a container that have run, what happened to it, and whether both parts of
the order of its hooks and the condition on the cleanup hold so far. -/
@[ext]
structure HookLog where
  invoked : HookName → Prop
  stopped : Prop
  unhealthy : Prop
  cleaned : Prop
  ordered : Prop
  gone : Prop

def hookLog (n : String) (tr : Trace Agent) : HookLog where
  invoked hook := Once (Invoked n hook) tr
  stopped := Once (StopIssued n) tr
  unhealthy := Once (WaitedUnhealthy n) tr
  cleaned := Once (StoppedByCleanup n) tr
  ordered := (∀ hook, Always (fun pre e => Invoked n hook e → ¬ Once (Invoked n hook) pre) tr) ∧
    Always (fun pre e => Invoked n .preStop e ∨ Invoked n .preUpdate e →
      ¬ Once (StopIssued n) pre) tr
  gone := UnhealthyIsGone n tr

namespace HookLog

def invoke (l : HookLog) (hook : HookName) : HookLog :=
  { l with
    invoked := fun hook' => l.invoked hook' ∨ hook' = hook
    ordered := l.ordered ∧ ¬ l.invoked hook ∧
      (hook = .preStop ∨ hook = .preUpdate → ¬ l.stopped) }

/-- A stop is asked for. -/
def stop (l : HookLog) (site : Site) : HookLog :=
  { l with stopped := True, cleaned := l.cleaned ∨ site = .cleanup }

/-- A wait ends without the container being healthy. -/
def fail (l : HookLog) : HookLog :=
  { l with unhealthy := True }

def find (l : HookLog) : HookLog :=
  { l with gone := l.gone ∧ (¬ l.cleaned → ¬ l.unhealthy) }

end HookLog

/-- An event that shows nothing of the hooks of the container. -/
structure Irrelevant (n : String) (e : Event Agent) : Prop where
  hook : ∀ hook, ¬ Invoked n hook e
  stop : ¬ StopIssued n e
  waited : ¬ WaitedUnhealthy n e
  found : ¬ FoundRunning n e

section

variable {nameOf : String → String} {n m : String} {e : Event Agent} {tr : Trace Agent}

theorem stopIssued_of_stoppedByCleanup (h : StoppedByCleanup n e) : StopIssued n e :=
  ⟨.cleanup, .containerStop n, h, rfl, rfl⟩

section

variable {hook : HookName} {line : LogLine} {site : Site} {request : Request}
  {r : Reply request.Result}

@[simp] theorem invoked_log : Invoked n hook ⟨.log line, ()⟩ ↔ line = .hooks n hook := by
  simp [Invoked]

@[simp] theorem waitedUnhealthy_log :
    WaitedUnhealthy n ⟨.log line, ()⟩ ↔ line = .waited n false := by
  simp [WaitedUnhealthy]

@[simp] theorem not_stoppedByCleanup_log : ¬ StoppedByCleanup n ⟨.log line, ()⟩ := by
  simp [StoppedByCleanup]

@[simp] theorem not_foundRunning_log : ¬ FoundRunning n ⟨.log line, ()⟩ := by
  rintro ⟨_, h, -⟩
  cases h

@[simp] theorem not_invoked_answered : ¬ Invoked n hook (answered site request r) := by
  simp [Invoked]

@[simp] theorem not_waitedUnhealthy_answered :
    ¬ WaitedUnhealthy n (answered site request r) := by
  simp [WaitedUnhealthy]

end

theorem hookLog_concat (h : Irrelevant n e) : hookLog n (tr ++ [e]) = hookLog n tr := by
  have hclean : ¬ StoppedByCleanup n e := mt stopIssued_of_stoppedByCleanup h.stop
  simp [hookLog, UnhealthyIsGone, h.hook, h.stop, h.waited, h.found, hclean]

theorem hookLog_hooks (hook : HookName) :
    hookLog n (tr ++ [⟨.log (.hooks n hook), ()⟩]) = (hookLog n tr).invoke hook := by
  have hinvoked (hook' : HookName) :
      Invoked n hook' ⟨.log (.hooks n hook), ()⟩ ↔ hook' = hook := by
    simp [eq_comm]
  have hordered : (hookLog n (tr ++ [⟨.log (.hooks n hook), ()⟩])).ordered ↔
      ((hookLog n tr).invoke hook).ordered := by
    simp only [hookLog, HookLog.invoke, always_concat, hinvoked, forall_and, forall_eq]
    rw [eq_comm (a := HookName.preStop), eq_comm (a := HookName.preUpdate)]
    tauto
  exact HookLog.ext (by simp [hookLog, HookLog.invoke, hinvoked])
    (by simp [hookLog, HookLog.invoke]) (by simp [hookLog, HookLog.invoke])
    (by simp [hookLog, HookLog.invoke]) (propext hordered)
    (by simp [hookLog, HookLog.invoke, UnhealthyIsGone])

theorem hookLog_stop (site : Site) (r : Reply Unit) :
    hookLog n (tr ++ [answered site (.containerStop n) r]) = (hookLog n tr).stop site := by
  have hclean : StoppedByCleanup n (answered site (.containerStop n) r) ↔ site = .cleanup := by
    simp [StoppedByCleanup]
  have hfound : ¬ FoundRunning n (answered site (.containerStop n) r) := by
    rintro ⟨_, h, -⟩
    cases h
  simp [hookLog, HookLog.stop, UnhealthyIsGone, hclean, hfound, Request.target, Request.kind]

theorem hookLog_unhealthy :
    hookLog n (tr ++ [⟨.log (.waited n false), ()⟩]) = (hookLog n tr).fail := by
  simp [hookLog, HookLog.fail, UnhealthyIsGone]

theorem hookLog_found {c : ContainerInspectResult} (hrun : isRunningContainer c = true) :
    hookLog n (tr ++ [answered .cleanup (.containerInspect n) (.ok c)]) =
      (hookLog n tr).find := by
  have hclean : ¬ StoppedByCleanup n (answered .cleanup (.containerInspect n) (.ok c)) := by
    simp [StoppedByCleanup]
  have hfound : FoundRunning n (answered .cleanup (.containerInspect n) (.ok c)) :=
    ⟨c, rfl, hrun⟩
  simp [hookLog, HookLog.find, UnhealthyIsGone, hclean, hfound, Request.kind]

theorem irrelevant_answered {site : Site} {request : Request} {r : Reply request.Result}
    (hstop : request.kind ≠ .stop) (hfound : ¬ FoundRunning n (answered site request r)) :
    Irrelevant n (answered site request r) where
  hook _ := not_invoked_answered
  stop h := hstop (stopIssued_answered.1 h).2
  waited := not_waitedUnhealthy_answered
  found := hfound

theorem not_foundRunning {site : Site} {request : Request} {r : Reply request.Result}
    (h : site = .cleanup → request.kind ≠ .look) :
    ¬ FoundRunning n (answered site request r) := by
  rintro ⟨c, heq, -⟩
  cases heq
  exact h rfl rfl

theorem irrelevant_log {line : LogLine} (hhook : line.hook = none)
    (hwaited : line ≠ .waited n false) : Irrelevant n ⟨.log line, ()⟩ where
  hook hook h := by
    obtain rfl := invoked_log.1 h
    cases hhook
  stop := not_stopIssued_log
  waited h := hwaited (waitedUnhealthy_log.1 h)
  found := not_foundRunning_log

theorem hookLog_of_idle (h : Idle tr) : hookLog n tr = hookLog n [] := by
  induction tr using List.reverseRecOn with
  | nil => rfl
  | append_singleton tr e ih =>
      have hop : Bookkeeping e.op := h e (by simp)
      have hnone : Irrelevant n e := by
        refine ⟨?_, not_asks_of_bookkeeping hop, ?_, ?_⟩
        · intro hook hinvoked
          rw [hinvoked] at hop
          exact hop
        · intro hwaited
          rw [hwaited] at hop
          exact hop
        · rintro ⟨c, rfl, -⟩
          exact hop
      rw [hookLog_concat hnone, ih fun e' he' => h e' (by simp [he'])]

theorem irrelevant_of_foreign (hn : nameOf n = n) (hforeign : Foreign nameOf n e.op) :
    Irrelevant n e := by
  refine ⟨?_, not_asks_of_foreign acts_stop hforeign, ?_, ?_⟩
  · intro hook hinvoked
    rw [hinvoked] at hforeign
    exact hforeign rfl
  · intro hwaited
    rw [hwaited] at hforeign
    exact hforeign rfl
  · rintro ⟨c, rfl, -⟩
    obtain ⟨m, hmn, hfor⟩ := hforeign
    exact hmn (hfor.symm.trans hn)

theorem stable_hookLog (hn : nameOf n = n) (A : HookLog → Prop) :
    Stable nameOf n fun _ tr => A (hookLog n tr) := fun _ _ _ hforeign _ h =>
  (congrArg A (hookLog_concat (irrelevant_of_foreign hn hforeign))).mpr h

/-! ## Steps without hooks -/

/-- No container is stopped, and the cleanup does not look at any. -/
def Passive (kinds : Site → Kind → Prop) : Prop :=
  (∀ site, ¬ kinds site .stop) ∧ ¬ kinds .cleanup .look

variable {kinds : Site → Kind → Prop} {σ α : Type} {A : HookLog → Prop}

theorem irrelevant_or_fail (tr : Trace Agent) (hkinds : Passive kinds)
    (hop : Within nameOf n kinds e.op) (hunhooked : e.op.Unhooked) :
    Irrelevant n e ∨ kinds .healthWait .log ∧ hookLog n (tr ++ [e]) = (hookLog n tr).fail := by
  obtain ⟨op, r⟩ := e
  cases op with
  | agent site request =>
      refine .inl (irrelevant_answered (fun hstop => ?_) (not_foundRunning fun hsite hlook => ?_))
      · exact hkinds.1 site (hstop ▸ hop.1)
      · subst hsite
        exact hkinds.2 (hlook ▸ hop.1)
  | log line =>
      by_cases hwaited : line = .waited n false
      · subst hwaited
        exact .inr ⟨hop.1 _ rfl, hookLog_unhealthy⟩
      · exact .inl (irrelevant_log hunhooked hwaited)
  | _ =>
      refine .inl ⟨?_, ?_, ?_, ?_⟩
      · rintro hook ⟨⟩
      · rintro ⟨_, _, h, -⟩
        cases h
      · rintro ⟨⟩
      · rintro ⟨_, h, -⟩
        cases h

theorem wp_unhooked {J : σ → Prop} {V : α → Prop} {x : AgentM σ α} {s : σ}
    (hx : Act.Keeps (Agrees nameOf) (Within nameOf n kinds) J V x)
    (hun : Act.Issues Op.Unhooked x) (hkinds : Passive kinds)
    (hA : kinds .healthWait .log → ∀ l, A l → A l.fail) (hs : J s) (htr : A (hookLog n tr)) :
    Act.wp (runContract nameOf) x (fun a s' tr' => V a ∧ J s' ∧ A (hookLog n tr'))
      (fun _ s' tr' => J s' ∧ A (hookLog n tr')) s tr := by
  refine (hx.and_issues hun).frame (fun tr => A (hookLog n tr)) (fun _ _ h => h)
    (fun _ _ _ _ => trivial) (fun tr e h hop _ => ?_) hs htr
  rcases irrelevant_or_fail tr hkinds hop.1 hop.2 with hnone | ⟨hwait, hfail⟩
  · exact (congrArg A (hookLog_concat hnone)).mpr h
  · exact hfail ▸ hA hwait _ h

/-! ## Hooks and waits -/

variable {P : ItemFields → Prop} {l : HookLog}

theorem wp_runHooks {site : Site} {hooks : Option ContainerHooks} {hook : HookName} {s : σ}
    (htr : hookLog n tr = l) {E : Exn → σ → Trace Agent → Prop} :
    Act.wp (runContract nameOf) (runHooks site n hooks hook)
      (fun _ s' tr' => s' = s ∧ hookLog n tr' = l.invoke hook) E s tr := by
  have hbegun : hookLog n (tr ++ [⟨.log (.hooks n hook), ()⟩]) = l.invoke hook := by
    rw [hookLog_hooks, htr]
  unfold runHooks
  rw [Act.wp_bind, wp_log]
  cases hooks with
  | none => exact ⟨rfl, hbegun⟩
  | some hooks =>
      have hexec : Passive fun _ kind => kind = .exec := ⟨by simp, by simp⟩
      refine (neverRaises_runHookCommands _ _ _).wp (Act.wp_mono (wp_unhooked
        (J := (· = s)) (A := (· = l.invoke hook)) (keeps_runHookCommands rfl _)
        (unhooked_runHookCommands _ _ _) hexec (by simp) rfl hbegun) (fun _ _ _ h => h.2)
        fun _ _ _ h => h)

theorem wp_runItemHooks {site : Site} {hooksMap : HooksMap} {hook : HookName}
    {item : UpdatePlanItem} (hitem : ItemOk nameOf n P item) (htr : hookLog n tr = l)
    {E : Exn → UpdatePlanItem → Trace Agent → Prop} :
    Act.wp (runContract nameOf) (runItemHooks site hooksMap hook)
      (fun _ item' tr' => ItemOk nameOf n P item' ∧ hookLog n tr' = l.invoke hook) E item tr := by
  have hname : item.name = n := hitem.name
  unfold runItemHooks
  rw [Act.wp_bind, Act.wp_get, hname]
  refine Act.wp_seq _ (wp_runHooks htr) fun errors item' tr' h => ?_
  obtain ⟨rfl, htr'⟩ := h
  exact (Act.wp_modify _).2 ⟨⟨hitem.name, hitem.goesBy, hitem.fields⟩, htr'⟩

theorem wp_waitItem_hookLog {timeout : Int} {item : UpdatePlanItem}
    (hitem : ItemOk nameOf n P item) (htr : hookLog n tr = l) :
    Act.wp (runContract nameOf) (waitItem timeout)
      (fun healthy item' tr' => ItemOk nameOf n P item' ∧
        hookLog n tr' = if healthy then l else l.fail)
      (fun _ item' tr' => ItemOk nameOf n P item' ∧ hookLog n tr' = l) item tr := by
  have hlooks : Passive fun site kind => site = .healthWait ∧ kind = .look :=
    ⟨by simp, by simp⟩
  unfold waitItem
  rw [Act.wp_bind, Act.wp_get]
  refine Act.wp_seq _ (wp_unhooked (A := (· = l)) (staysIn_waitForContainerHealthy ⟨rfl, rfl⟩
    hitem.name hitem.goesBy timeout) (unhooked_waitForContainerHealthy _ _) hlooks (by simp)
    hitem htr) fun r item' tr' h => ?_
  obtain ⟨healthy, c⟩ := r
  obtain ⟨⟨hname, hgoes⟩, hitem', htr'⟩ := h
  refine (Act.wp_bind _ _).2 ((Act.wp_modify _).2 ((Act.wp_bind _ _).2 (wp_log.2 ?_)))
  refine ⟨⟨hname, hgoes, hitem'.fields⟩, ?_⟩
  obtain rfl : c.name = n := hname
  cases healthy with
  | true => exact (hookLog_concat (irrelevant_log rfl (by simp))).trans htr'
  | false => exact hookLog_unhealthy.trans (congrArg HookLog.fail htr')

end

/-! ## The stages of an update -/

/-- No hook has run but those before the stop. -/
structure HookLog.BeforeUpdate (l : HookLog) : Prop where
  ordered : l.ordered
  gone : l.gone
  unhealthy : ¬ l.unhealthy
  cleaned : ¬ l.cleaned
  invoked : ∀ hook, l.invoked hook → hook = .preStop ∨ hook = .preUpdate

/-- The hook before a rollback has run where the new container was not healthy. -/
structure HookLog.Updating (l : HookLog) : Prop where
  ordered : l.ordered
  gone : l.gone
  cleaned : ¬ l.cleaned
  preRollback : l.invoked .preRollback ↔ l.unhealthy
  others : ¬ l.invoked .postUpdate ∧ ¬ l.invoked .postRollback

/-- The order is kept exactly if the unhealthy container is gone, and the hooks at the end
of an update or of a rollback have not run. -/
structure HookLog.CleanedUp (l : HookLog) : Prop where
  ordered : l.ordered ↔ l.gone
  others : ¬ l.invoked .postUpdate ∧ ¬ l.invoked .postRollback

/-- The hooks are tidy exactly if the unhealthy container is gone. -/
structure HookLog.Done (l : HookLog) : Prop where
  ordered : l.ordered ↔ l.gone
  exclusive : ¬ (l.invoked .postUpdate ∧ (l.invoked .preRollback ∨ l.invoked .postRollback))

namespace HookLog

variable {l : HookLog}

theorem BeforeUpdate.updating (h : l.BeforeUpdate) : l.Updating where
  ordered := h.ordered
  gone := h.gone
  cleaned := h.cleaned
  preRollback := ⟨fun hook => by simpa using h.invoked _ hook, fun hook => absurd hook h.unhealthy⟩
  others :=
    ⟨fun hook => by simpa using h.invoked _ hook, fun hook => by simpa using h.invoked _ hook⟩

theorem Updating.cleanedUp (h : l.Updating) : l.CleanedUp where
  ordered := iff_of_true h.ordered h.gone
  others := h.others

theorem CleanedUp.done (h : l.CleanedUp) : l.Done where
  ordered := h.ordered
  exclusive hook := h.others.1 hook.1

theorem Done.fail (h : l.Done) : l.fail.Done where
  ordered := h.ordered
  exclusive := h.exclusive

theorem BeforeUpdate.stop (h : l.BeforeUpdate) : (l.stop .stop).BeforeUpdate where
  ordered := h.ordered
  gone := h.gone
  unhealthy := h.unhealthy
  cleaned := by simp [HookLog.stop, h.cleaned]
  invoked := h.invoked

theorem beforeUpdate_nil (n : String) : (hookLog n []).BeforeUpdate := by
  constructor <;> simp [hookLog, UnhealthyIsGone]

theorem beforeUpdate_preStop (n : String) : ((hookLog n []).invoke .preStop).BeforeUpdate := by
  constructor <;> simp [hookLog, invoke, UnhealthyIsGone]

theorem beforeUpdate_preUpdate (n : String) :
    (((hookLog n []).invoke .preStop).invoke .preUpdate).BeforeUpdate := by
  constructor <;> simp [hookLog, invoke, UnhealthyIsGone]

theorem BeforeUpdate.invoke_postUpdate (h : l.BeforeUpdate) : (l.invoke .postUpdate).Done where
  ordered := iff_of_true ⟨h.ordered, fun hook => by simpa using h.invoked _ hook, by simp⟩ h.gone
  exclusive := by
    have hpre : ¬ l.invoked .preRollback := fun hook => by simpa using h.invoked _ hook
    have hpost : ¬ l.invoked .postRollback := fun hook => by simpa using h.invoked _ hook
    simp [invoke, hpre, hpost]

theorem BeforeUpdate.fail_invoke (h : l.BeforeUpdate) :
    (l.fail.invoke .preRollback).Updating where
  ordered := ⟨h.ordered, fun hook => by simpa using h.invoked _ hook, by simp⟩
  gone := h.gone
  cleaned := h.cleaned
  preRollback := by simp [invoke, HookLog.fail]
  others := by
    have hpost : ¬ l.invoked .postUpdate := fun hook => by simpa using h.invoked _ hook
    have hback : ¬ l.invoked .postRollback := fun hook => by simpa using h.invoked _ hook
    simp [invoke, HookLog.fail, hpost, hback]

theorem Updating.stop (h : l.Updating) : (l.stop .recreate).Updating where
  ordered := h.ordered
  gone := h.gone
  cleaned := by simp [HookLog.stop, h.cleaned]
  preRollback := h.preRollback
  others := h.others

/-- Where the cleanup finds the container running, the hook has run before exactly if the
container was not healthy. -/
theorem Updating.find_invoke (h : l.Updating) : (l.find.invoke .preRollback).CleanedUp where
  ordered := by simp [invoke, HookLog.find, h.ordered, h.gone, h.cleaned, h.preRollback]
  others := by simp [invoke, HookLog.find, h.others]

theorem CleanedUp.stop (h : l.CleanedUp) (site : Site) : (l.stop site).CleanedUp where
  ordered := h.ordered
  others := h.others

theorem CleanedUp.find (h : l.CleanedUp) (hcleaned : l.cleaned) : l.find.CleanedUp where
  ordered := by simpa [HookLog.find, hcleaned] using h.ordered
  others := h.others

theorem CleanedUp.invoke_postRollback (h : l.CleanedUp) : (l.invoke .postRollback).Done where
  ordered := by simpa [invoke, h.others.2] using h.ordered
  exclusive := by simp [invoke, h.others.1]

end HookLog

/-! ## The steps of an update -/

/-- What is asked for around the hooks, the waits and the stops. -/
def CalmKinds (site : Site) (kind : Kind) : Prop :=
  site ≠ .healthWait ∧ kind ≠ .stop ∧ (site = .cleanup → kind ≠ .look)

theorem passive_calmKinds : Passive CalmKinds :=
  ⟨fun _ h => h.2.1 rfl, fun h => h.2.2 rfl rfl⟩

/-- What is asked for where nothing but a failed wait may follow. -/
def RestKinds (site : Site) (kind : Kind) : Prop :=
  site ≠ .cleanup ∧ kind ≠ .stop

theorem passive_restKinds : Passive RestKinds :=
  ⟨fun _ h => h.2 rfl, fun h => h.1 rfl⟩

section

variable {nameOf : String → String} {n : String} {tr : Trace Agent} {P : ItemFields → Prop}
  {α : Type} {hooksMap : HooksMap} {timeout : Int} {item : UpdatePlanItem}

theorem wp_calm {x : ItemM α} {V : α → Prop} {A : HookLog → Prop}
    (hx : StaysIn nameOf n CalmKinds P V x) (hun : Act.Issues Op.Unhooked x)
    (hitem : ItemOk nameOf n P item) (htr : A (hookLog n tr)) :
    Act.wp (runContract nameOf) x
      (fun _ item' tr' => ItemOk nameOf n P item' ∧ A (hookLog n tr'))
      (fun _ item' tr' => ItemOk nameOf n P item' ∧ A (hookLog n tr')) item tr :=
  Act.wp_mono (wp_unhooked hx hun passive_calmKinds (fun h => absurd rfl h.1) hitem htr)
    (fun _ _ _ h => h.2) fun _ _ _ h => h

theorem wp_attemptStart_done (hitem : ItemOk nameOf n P item) (htr : (hookLog n tr).Done)
    {E : Exn → UpdatePlanItem → Trace Agent → Prop} :
    Act.wp (runContract nameOf) (attempt (attemptStartWithHealth timeout))
      (fun _ _ tr' => (hookLog n tr').Done) E item tr := by
  have hstart : StaysIn nameOf n RestKinds P (fun _ => True) (attemptStartWithHealth timeout) :=
    staysIn_attemptStartWithHealth (by simp [RestKinds]) (by simp [RestKinds])
      ⟨by simp [RestKinds], by simp [RestKinds]⟩ timeout
  exact wp_attempt (Act.wp_mono (wp_unhooked (A := HookLog.Done) hstart
    (unhooked_attemptStartWithHealth _) passive_restKinds (fun _ _ h => h.fail) hitem htr)
    (fun _ _ _ h => h.2.2) fun _ _ _ h => h.2)

theorem wp_removeUnhealthy_hookLog {l : HookLog} (hitem : ItemOk nameOf n P item)
    (htr : hookLog n tr = l) (hl : (l.invoke .preRollback).Updating) :
    Act.wp (runContract nameOf) (removeUnhealthy hooksMap)
      (fun _ item' tr' => ItemOk nameOf n P item' ∧ (hookLog n tr').Updating)
      (fun _ item' tr' => ItemOk nameOf n P item' ∧ (hookLog n tr').Updating) item tr := by
  unfold removeUnhealthy
  refine Act.wp_seq _ (wp_runItemHooks hitem htr) fun _ item' tr' h => ?_
  obtain ⟨hitem', htr'⟩ := h
  have hname : item'.name = n := hitem'.name
  rw [Act.wp_bind, Act.wp_get, hname]
  have hstop (r : Reply Unit) :
      (hookLog n (tr' ++ [answered .recreate (.containerStop n) r])).Updating := by
    rw [hookLog_stop, htr']
    exact hl.stop
  refine Act.wp_seq (fun _ item'' tr'' => ItemOk nameOf n P item'' ∧ (hookLog n tr'').Updating)
    (wp_call (fun _ _ => ⟨hitem', hstop _⟩) fun _ => ⟨hitem', hstop _⟩) fun _ item'' tr'' h => ?_
  refine Act.wp_seq _ (wp_calm (staysIn_inspectItem (by simp [CalmKinds]))
    (unhooked_inspectItem _) h.1 h.2) fun _ item'' tr'' h => ?_
  exact wp_calm (staysIn_removeItem (by simp [CalmKinds]) (by simp [CalmKinds]))
    (unhooked_removeItem _) h.1 h.2

/-- The new container is healthy and its hook runs, or it is removed after the hook before a
rollback. -/
theorem wp_startNew_hookLog (hP : ∀ fields, P fields → CommandsFor n fields.commands)
    (hitem : ItemOk nameOf n P item) (htr : (hookLog n tr).BeforeUpdate) :
    Act.wp (runContract nameOf) (startNew hooksMap timeout)
      (fun done item' tr' => if done then (hookLog n tr').Done
        else ItemOk nameOf n P item' ∧ (hookLog n tr').Updating)
      (fun _ item' tr' => ItemOk nameOf n P item' ∧ (hookLog n tr').Updating) item tr := by
  unfold startNew
  refine Act.wp_seq (fun _ item' tr' => ItemOk nameOf n P item' ∧ (hookLog n tr').BeforeUpdate)
    (Act.wp_mono (wp_calm (staysIn_startCreated (by simp [CalmKinds]) (by simp [CalmKinds])
      (by simp [CalmKinds]) hP) (unhooked_startCreated _) hitem htr) (fun _ _ _ h => h)
      fun _ _ _ h => ⟨h.1, h.2.updating⟩) fun _ item' tr' h => ?_
  obtain ⟨hitem', htr'⟩ := h
  refine Act.wp_seq _ (Act.wp_mono (wp_waitItem_hookLog hitem' rfl) (fun _ _ _ h => h)
    fun _ _ _ h => ⟨h.1, h.2 ▸ htr'.updating⟩) fun healthy item'' tr'' h => ?_
  obtain ⟨hitem'', hlog⟩ := h
  cases healthy with
  | true =>
      refine (Act.wp_bind _ _).2 ((Act.wp_modify _).2 ?_)
      have hnamed : ItemOk nameOf n (fun _ => True) { item'' with result := some .updated } :=
        ⟨hitem''.name, hitem''.goesBy, trivial⟩
      refine Act.wp_seq _ (wp_runItemHooks hnamed hlog) fun _ _ tr₃ h => ?_
      have hdone : (hookLog n tr₃).Done := by
        rw [h.2]
        exact htr'.invoke_postUpdate
      exact hdone
  | false =>
      exact Act.wp_seq _ (wp_removeUnhealthy_hookLog hitem'' hlog htr'.fail_invoke)
        fun _ _ _ h => h

theorem wp_recreate_hookLog {inputs : UpdateInputs} (hinputs : InputsOk n inputs)
    (hP : ∀ fields, P fields → CommandsFor n fields.commands)
    (hitem : ItemOk nameOf n P item) (htr : (hookLog n tr).BeforeUpdate) :
    Act.wp (runContract nameOf) (recreate hooksMap timeout inputs)
      (fun done item' tr' => if done then (hookLog n tr').Done
        else ItemOk nameOf n P item' ∧ (hookLog n tr').Updating)
      (fun _ item' tr' => ItemOk nameOf n P item' ∧ (hookLog n tr').Updating) item tr := by
  have hcalm {x : ItemM Unit} {item : UpdatePlanItem} {tr : Trace Agent}
      (hx : StaysIn nameOf n CalmKinds P (fun _ => True) x) (hun : Act.Issues Op.Unhooked x)
      (hitem : ItemOk nameOf n P item) (htr : (hookLog n tr).BeforeUpdate) :
      Act.wp (runContract nameOf) x
        (fun _ item' tr' => ItemOk nameOf n P item' ∧ (hookLog n tr').BeforeUpdate)
        (fun _ item' tr' => ItemOk nameOf n P item' ∧ (hookLog n tr').Updating) item tr :=
    Act.wp_mono (wp_calm hx hun hitem htr) (fun _ _ _ h => h)
      fun _ _ _ h => ⟨h.1, h.2.updating⟩
  unfold recreate
  refine Act.wp_seq _ (hcalm (staysIn_removeOld (by simp [CalmKinds]) (by simp [CalmKinds])
    (by simp [CalmKinds])) unhooked_removeOld hitem htr) fun _ item' tr' h => ?_
  refine Act.wp_seq _ (hcalm (staysIn_createMerged hinputs (by simp [CalmKinds]))
    (unhooked_createMerged _) h.1 h.2) fun _ item' tr' h => ?_
  rw [Act.wp_bind, Act.wp_get, Act.wp_ite]
  split
  · exact wp_startNew_hookLog hP h.1 h.2
  · exact (Act.wp_bind _ _).2 ((Act.wp_modify _).2 h.2.updating.cleanedUp.done)

theorem wp_inspectItem_cleanup {l : HookLog} (hitem : ItemOk nameOf n P item)
    (htr : hookLog n tr = l) :
    Act.wp (runContract nameOf) (inspectItem .cleanup)
      (fun _ item' tr' => ItemOk nameOf n P item' ∧
        hookLog n tr' = if isRunningContainer item'.container then l.find else l)
      (fun _ item' tr' => ItemOk nameOf n P item' ∧ hookLog n tr' = l) item tr := by
  refine wp_inspectItem hitem (fun c hc => ⟨hc, ?_⟩) fun lost => ⟨hitem, ?_⟩
  · split
    next hrun => rw [hookLog_found hrun, htr]
    next hrun =>
      refine (hookLog_concat (irrelevant_answered (by simp [Request.kind]) ?_)).trans htr
      rintro ⟨c', h, hrun'⟩
      cases h
      exact hrun hrun'
  · refine (hookLog_concat (irrelevant_answered (by simp [Request.kind]) ?_)).trans htr
    rintro ⟨c, h, -⟩
    cases h

/-- The cleanup looks at the container, and where that is running its hook follows. -/
theorem wp_cleanupHooks_hookLog (hooksMap : HooksMap) (hitem : ItemOk nameOf n P item)
    (htr : (hookLog n tr).Updating) :
    Act.wp (runContract nameOf) (inspectItem .cleanup >>= fun _ => runCleanupHooks hooksMap)
      (fun _ item' tr' => ItemOk nameOf n P item' ∧ (hookLog n tr').CleanedUp)
      (fun _ item' tr' => ItemOk nameOf n P item' ∧ (hookLog n tr').CleanedUp) item tr := by
  refine Act.wp_seq _ (Act.wp_mono (wp_inspectItem_cleanup hitem rfl) (fun _ _ _ h => h)
    fun _ _ _ h => ⟨h.1, h.2 ▸ htr.cleanedUp⟩) fun _ item' tr' h => ?_
  obtain ⟨hitem', hlog⟩ := h
  unfold runCleanupHooks Act.whenA
  rw [Act.wp_bind, Act.wp_get, Act.wp_ite]
  split
  next hrun =>
    rw [if_pos hrun] at hlog
    refine Act.wp_mono (wp_runItemHooks hitem' hlog) (fun _ _ tr'' h => ⟨h.1, ?_⟩)
      fun _ _ _ h => h
    rw [h.2]
    exact htr.find_invoke
  next hrun =>
    rw [if_neg hrun] at hlog
    exact ⟨hitem', hlog ▸ htr.cleanedUp⟩

theorem wp_cleanupStop_hookLog (hitem : ItemOk nameOf n P item)
    (htr : (hookLog n tr).CleanedUp) :
    Act.wp (runContract nameOf) (do
        let item ← get
        call .cleanup (.containerStop item.name)
        inspectItem .cleanup
        removeItem .cleanup)
      (fun _ item' tr' => ItemOk nameOf n P item' ∧ (hookLog n tr').CleanedUp)
      (fun _ item' tr' => ItemOk nameOf n P item' ∧ (hookLog n tr').CleanedUp) item tr := by
  have hname : item.name = n := hitem.name
  rw [Act.wp_bind, Act.wp_get, hname]
  have hstop (r : Reply Unit) :
      (hookLog n (tr ++ [answered .cleanup (.containerStop n) r])).CleanedUp ∧
        (hookLog n (tr ++ [answered .cleanup (.containerStop n) r])).cleaned := by
    rw [hookLog_stop]
    exact ⟨htr.stop _, .inr rfl⟩
  refine Act.wp_seq (fun _ item' tr' => ItemOk nameOf n P item' ∧ (hookLog n tr').CleanedUp ∧
    (hookLog n tr').cleaned) (wp_call (fun _ _ => ⟨hitem, hstop _⟩)
      fun _ => ⟨hitem, (hstop _).1⟩) fun _ item' tr' h => ?_
  obtain ⟨hitem', hlog, hcleaned⟩ := h
  refine Act.wp_seq (fun _ item'' tr'' => ItemOk nameOf n P item'' ∧ (hookLog n tr'').CleanedUp)
    (Act.wp_mono (wp_inspectItem_cleanup hitem' rfl) (fun _ _ tr'' h => ⟨h.1, ?_⟩)
      fun _ _ _ h => ⟨h.1, h.2 ▸ hlog⟩) fun _ item'' tr'' h =>
    wp_calm (staysIn_removeItem (by simp [CalmKinds]) (by simp [CalmKinds]))
      (unhooked_removeItem _) h.1 h.2
  rw [h.2]
  split
  · exact hlog.find hcleaned
  · exact hlog

theorem wp_cleanup_hookLog (hitem : ItemOk nameOf n P item) (htr : (hookLog n tr).Updating) :
    Act.wp (runContract nameOf) (cleanup hooksMap)
      (fun _ item' tr' => ItemOk nameOf n P item' ∧ (hookLog n tr').CleanedUp)
      (fun _ item' tr' => ItemOk nameOf n P item' ∧ (hookLog n tr').CleanedUp) item tr := by
  have hname : item.name = n := hitem.name
  unfold cleanup
  rw [Act.wp_bind, Act.wp_get, hname]
  have hasked (r : Reply Bool) :
      hookLog n (tr ++ [answered .cleanup (.containerExists n) r]) = hookLog n tr := by
    refine hookLog_concat (irrelevant_answered (by simp [Request.kind]) ?_)
    rintro ⟨c, h, -⟩
    cases h
  refine Act.wp_seq (fun _ item' tr' => ItemOk nameOf n P item' ∧ (hookLog n tr').Updating)
    (wp_call (fun _ _ => ⟨hitem, (hasked _).symm ▸ htr⟩)
      fun _ => ⟨hitem, (hasked _).symm ▸ htr.cleanedUp⟩) fun present item' tr' h => ?_
  obtain ⟨hitem', htr'⟩ := h
  cases present with
  | false => exact ⟨hitem', htr'.cleanedUp⟩
  | true =>
      have hhooks := (Act.wp_bind _ _).1 (wp_cleanupHooks_hookLog hooksMap hitem' htr')
      refine (Act.wp_bind _ _).2 (Act.wp_mono hhooks (fun _ item' tr' h => ?_) fun _ _ _ h => h)
      refine Act.wp_seq _ h fun _ item' tr' h => wp_cleanupStop_hookLog h.1 h.2

/-- The container is created from its old configuration, and the hook after a rollback
runs. -/
theorem wp_restore_hookLog {inputs : UpdateInputs} (hinputs : InputsOk n inputs)
    (hP : ∀ fields, P fields → CommandsFor n fields.commands)
    (hitem : ItemOk nameOf n P item) (htr : (hookLog n tr).CleanedUp) :
    Act.wp (runContract nameOf) (restore hooksMap timeout inputs)
      (fun _ _ tr' => (hookLog n tr').Done) (fun _ _ tr' => (hookLog n tr').Done) item tr := by
  have hcreated (r : Reply ContainerInspectResult) :
      (hookLog n (tr ++ [answered .rollBack (.containerCreate inputs.config) r])).CleanedUp := by
    rw [hookLog_concat (irrelevant_answered (by simp [Request.kind]) (not_foundRunning (by simp)))]
    exact htr
  unfold restore
  refine Act.wp_seq (fun c item' tr' => ItemOk nameOf n P { item' with container := c } ∧
    (hookLog n tr').CleanedUp) (wp_call (fun c hc => ?_) fun _ => (hcreated _).done)
    fun c item' tr' h => ?_
  · have hname : c.name = n := Option.some.inj (hc.1.symm.trans hinputs.name)
    exact ⟨⟨hname, hc.2, hitem.fields⟩, hcreated _⟩
  refine (Act.wp_bind _ _).2 ((Act.wp_modify _).2 ?_)
  refine Act.wp_seq (fun _ item' tr' => ItemOk nameOf n P item' ∧ (hookLog n tr').CleanedUp)
    (Act.wp_mono (wp_calm (staysIn_startCreated (by simp [CalmKinds]) (by simp [CalmKinds])
      (by simp [CalmKinds]) hP) (unhooked_startCreated _) h.1 h.2) (fun _ _ _ h => h)
      fun _ _ _ h => h.2.done) fun _ item' tr' h => ?_
  obtain ⟨hitem', hlog⟩ := h
  refine (Act.wp_bind _ _).2 ((Act.wp_modify _).2 ?_)
  have hnamed : ItemOk nameOf n (fun _ => True) { item' with result := some .rolledBack } :=
    ⟨hitem'.name, hitem'.goesBy, trivial⟩
  refine Act.wp_seq _ (wp_runItemHooks hnamed rfl) fun _ item'' tr'' h => ?_
  obtain ⟨hitem'', hlog''⟩ := h
  have hdone : (hookLog n tr'').Done := hlog''.symm ▸ hlog.invoke_postRollback
  refine Act.wp_mono (wp_waitItem_hookLog hitem'' rfl) (fun healthy _ _ h => ?_)
    fun _ _ _ h => h.2.symm ▸ hdone
  rw [h.2]
  split
  · exact hdone
  · exact hdone.fail

theorem wp_rollBack_hookLog {inputs : UpdateInputs} (hinputs : InputsOk n inputs)
    (hP : ∀ fields, P fields → CommandsFor n fields.commands)
    (hitem : ItemOk nameOf n P item) (htr : (hookLog n tr).CleanedUp)
    {E : Exn → UpdatePlanItem → Trace Agent → Prop} :
    Act.wp (runContract nameOf) (rollBack hooksMap timeout inputs)
      (fun _ _ tr' => (hookLog n tr').Done) E item tr := by
  refine Act.wp_seq (fun _ item' tr' => ItemOk nameOf n P item' ∧ (hookLog n tr').CleanedUp)
    ((neverRaises_tagPrevious inputs).wp (wp_calm (staysIn_tagPrevious (by simp [CalmKinds])
      (by simp [CalmKinds]) inputs) (unhooked_tagPrevious _) hitem htr)) fun _ item' tr' h => ?_
  exact Act.wp_try (fun _ _ tr' => (hookLog n tr').Done)
    (wp_restore_hookLog hinputs hP h.1 h.2) fun _ _ _ hdone => hdone

theorem wp_runStopHooks_hookLog {isUpdate : Bool} (htr : hookLog n tr = hookLog n [])
    {E : Exn → UpdatePlanItem → Trace Agent → Prop} :
    Act.wp (runContract nameOf) (runStopHooks n hooksMap isUpdate)
      (fun _ _ tr' => (hookLog n tr').BeforeUpdate) E item tr := by
  unfold runStopHooks
  refine Act.wp_seq _ (wp_runHooks htr) fun errors item' tr' h => ?_
  rw [Act.wp_ite]
  split
  · refine Act.wp_mono (wp_runHooks h.2) (fun _ _ _ h => ?_) fun _ _ _ h => h
    exact h.2.symm ▸ HookLog.beforeUpdate_preUpdate n
  · have hstopping : (hookLog n tr').BeforeUpdate := h.2.symm ▸ HookLog.beforeUpdate_preStop n
    exact hstopping

theorem wp_stopItem_hookLog {isUpdate : Bool} (htr : hookLog n tr = hookLog n [])
    {E : Exn → UpdatePlanItem → Trace Agent → Prop} :
    Act.wp (runContract nameOf) (stopItem n hooksMap isUpdate)
      (fun _ _ tr' => (hookLog n tr').BeforeUpdate) E item tr := by
  unfold stopItem
  rw [Act.wp_bind, Act.wp_get, Act.wp_ite]
  split
  swap
  · have hidle : (hookLog n tr).BeforeUpdate := htr.symm ▸ HookLog.beforeUpdate_nil n
    exact hidle
  refine Act.wp_seq _ (wp_runStopHooks_hookLog htr) fun errors item' tr' htr' => ?_
  rw [Act.wp_ite]
  split
  · have hstop (r : Reply Unit) :
        (hookLog n (tr' ++ [answered .stop (.containerStop n) r])).BeforeUpdate := by
      rw [hookLog_stop]
      exact htr'.stop
    have hlook (tr : Trace Agent) (r : Reply ContainerInspectResult) :
        hookLog n (tr ++ [answered .stop (.containerInspect n) r]) = hookLog n tr :=
      hookLog_concat (irrelevant_answered (by simp [Request.kind]) (not_foundRunning (by simp)))
    refine wp_attempt (Act.wp_seq (fun _ _ tr'' => (hookLog n tr'').BeforeUpdate)
      (wp_call (fun _ _ => hstop _) fun _ => hstop _) fun _ item'' tr'' h => ?_)
    exact Act.wp_seq (fun _ _ tr₃ => (hookLog n tr₃).BeforeUpdate)
      (wp_call (fun _ _ => (hlook _ _).symm ▸ h) fun _ => (hlook _ _).symm ▸ h)
      fun _ _ _ h => (Act.wp_modify _).2 h
  · refine (Act.wp_bind _ _).2 ((Act.wp_modify _).2 (wp_log.2 ?_))
    rw [hookLog_concat (irrelevant_log rfl (by simp))]
    exact htr'

/-! ## Whole runs -/

variable {c : ContainerInspectResult} {dockerVersion : Option DockerVersion}

theorem wp_updateOrStartItem_hookLog {isUpdate isAffected : Bool} (hone : isUpdate = !isAffected)
    (hitem : ItemReady nameOf c dockerVersion item) (htr : (hookLog c.name tr).BeforeUpdate) :
    Act.wp (runContract nameOf) (updateOrStartItem hooksMap timeout isUpdate isAffected)
      (fun _ _ tr' => (hookLog c.name tr').Done) (fun _ _ _ => True) item tr := by
  refine wp_updateOrStartItem (F := fun _ tr' => (hookLog c.name tr').Done)
    (G := fun _ item' tr' => ItemReady nameOf c dockerVersion item' ∧
      (hookLog c.name tr').CleanedUp) hone
    (fun _ => wp_attemptStart_done hitem htr.updating.cleanedUp.done) (fun _ inputs hcan => ?_)
    fun inputs item' tr' hcan h =>
      wp_rollBack_hookLog (hitem.fields.inputsOk hcan).1 (fun _ => Ready.commandsFor) h.1 h.2
  have hbegun : (hookLog c.name
      (tr ++ [⟨.log (.startingUpdate item.name), ()⟩])).BeforeUpdate := by
    rw [hookLog_concat (irrelevant_log rfl (by simp))]
    exact htr
  refine wp_recreateOrCleanUp (R := fun item' tr' => ItemReady nameOf c dockerVersion item' ∧
    (hookLog c.name tr').Updating) ?_ fun item' tr' e h => ?_
  · refine Act.wp_mono (wp_recreate_hookLog (hitem.fields.inputsOk hcan).1
      (fun _ => Ready.commandsFor) hitem hbegun) (fun done _ _ h => ?_) fun _ _ _ h => h
    cases done with
    | true => exact h
    | false => exact ⟨h.1, h.2.cleanedUp⟩
  · obtain ⟨hitem', hlog⟩ := h
    exact wp_attempt (Act.wp_mono (wp_cleanup_hookLog
      ⟨hitem'.name, hitem'.goesBy, hitem'.fields⟩ hlog) (fun _ _ _ h => h) fun _ _ _ h =>
        ⟨⟨h.1.name, h.1.goesBy, h.1.fields⟩, h.2⟩)

theorem hookLog_itemProof {env : ExecEnv} {host : HostsModel} {plan : UpdatePlan}
    (hgoes : GoesBy nameOf c) (hhas : plan.Has c.name) :
    ItemProof nameOf env host plan dockerVersion c
      (fun _ tr => hookLog c.name tr = hookLog c.name [])
      (fun _ tr => hookLog c.name tr = hookLog c.name [])
      (fun _ tr => (hookLog c.name tr).BeforeUpdate) (fun _ tr => (hookLog c.name tr).Done) where
  stable := ⟨stable_hookLog hgoes.1 (· = hookLog c.name []),
    stable_hookLog hgoes.1 (· = hookLog c.name []), stable_hookLog hgoes.1 HookLog.BeforeUpdate,
    stable_hookLog hgoes.1 HookLog.Done⟩
  init _ htr := hookLog_of_idle htr
  prepare _ item tr hitem htr := by
    have hkinds : Passive PrepareKinds := ⟨by simp [PrepareKinds], by simp [PrepareKinds]⟩
    exact Act.wp_mono (wp_unhooked (A := (· = hookLog c.name [])) (prepares_prepareItem _)
      (unhooked_prepareItem _ _) hkinds (by simp [PrepareKinds]) hitem htr)
      (fun _ _ _ h => h.2.2) fun _ _ _ _ => trivial
  skipPrepare _ _ _ htr := htr
  stop _ _ _ _ _ htr := wp_stopItem_hookLog htr
  skipStop _ _ _ htr := htr.symm ▸ HookLog.beforeUpdate_nil c.name
  update _ _ _ _ hitem htr :=
    wp_updateOrStartItem_hookLog (plan.decide_toUpdate hhas) hitem htr
  skipUpdate _ _ _ htr := htr.updating.cleanedUp.done

theorem HookLog.Done.tidy_iff (h : (hookLog n tr).Done) :
    TidyHooks n tr ↔ UnhealthyIsGone n tr := by
  constructor
  · exact fun htidy => h.ordered.1 ⟨htidy.once, htidy.before⟩
  · intro hgone
    obtain ⟨honce, hbefore⟩ := h.ordered.2 hgone
    exact ⟨honce, hbefore, h.exclusive⟩

theorem tidyHooks_of_not_planHas {env : ExecEnv} {host : HostsModel} {plan : UpdatePlan}
    {containers : HostContainers} {result : Except Exn (Option UpdatePlanResult)} {items : Items}
    (run : Execution nameOf env host containers plan dockerVersion tr result items)
    (hnot : ∀ c, PlanHas plan containers c → c.name ≠ n) :
    TidyHooks n tr ∧ UnhealthyIsGone n tr := by
  have hline {line : LogLine} (hline : line.name = n) : ∀ e ∈ tr, e.op ≠ .log line := by
    intro e he hop
    rcases hop ▸ inScope_of_execution run e he with h | ⟨c, hc, h⟩
    · exact h
    · exact hnot c hc (h.2.symm.trans hline)
  have hhook (hook : HookName) : ∀ e ∈ tr, ¬ Invoked n hook e := hline rfl
  have hgone : ∀ e ∈ tr, ¬ WaitedUnhealthy n e := hline rfl
  refine ⟨⟨fun hook pre e post heq h => ?_, fun pre e post heq h => ?_, ?_⟩,
    fun pre e post heq _ _ h => ?_⟩
  · exact absurd h (hhook hook e (by simp [heq]))
  · exact h.elim (fun h => absurd h (hhook _ e (by simp [heq])))
      fun h => absurd h (hhook _ e (by simp [heq]))
  · rintro ⟨⟨e, he, h⟩, -⟩
    exact hhook _ e he h
  · obtain ⟨e', he', h⟩ := h
    exact hgone e' (by simp [heq, he']) h

/-- In every run the hooks of each container are tidy exactly if the cleanup does not find
it running after a wait that has failed. -/
theorem tidyHooks_iff {env : ExecEnv} {host : HostsModel} {plan : UpdatePlan}
    {containers : HostContainers} {result : Except Exn (Option UpdatePlanResult)} {items : Items}
    (run : Execution nameOf env host containers plan dockerVersion tr result items) (n : String) :
    TidyHooks n tr ↔ UnhealthyIsGone n tr := by
  by_cases h : ∃ c, PlanHas plan containers c ∧ c.name = n
  · obtain ⟨c, hc, rfl⟩ := h
    have hdone : (hookLog c.name tr).Done := by
      rcases (hookLog_itemProof (run.goesBy c hc.1) hc.2).sound run hc with
        ⟨hidle, -⟩ | ⟨-, -, -, hdone⟩
      · rw [hookLog_of_idle hidle]
        exact (HookLog.beforeUpdate_nil c.name).updating.cleanedUp.done
      · exact hdone
    exact hdone.tidy_iff
  · have hnone := tidyHooks_of_not_planHas run fun c hc hname => h ⟨c, hc, hname⟩
    exact iff_of_true hnone.1 hnone.2

end

def hookFails : Scenario where
  registry := id
  hooks := [("web", { preUpdate := ["dump"], postRollback := ["restore"] })]
  fails _ request := request.kind = .exec

/-- Where the hook before the update fails, the hooks of `web` are tidy exactly if it is not found
running by a cleanup that follows a failed wait. -/
theorem tidyHooks_iff_web :
    TidyHooks "web" (simulateExecution hookFails exampleEnv exampleHost webHost webPlan []).1 ↔
      UnhealthyIsGone "web"
        (simulateExecution hookFails exampleEnv exampleHost webHost webPlan []).1 :=
  tidyHooks_iff (simulateExecution_execution hookFails exampleEnv exampleHost webHost webPlan []
    (by decide)) "web"

/-! ## A hook that runs twice -/

/-- The simulated host, where the container that is waited for is running and unhealthy. -/
def simulateUnhealthy (scenario : Scenario) (op : Op) (host : SimHost) :
    Agent.Ans op × SimHost :=
  match op with
  | .agent .healthWait (.containerInspect ref) =>
      match host.find ref with
      | none => (.raised none, host)
      | some c =>
          let health : ContainerHealth := { status := some "unhealthy" }
          (.ok { c with state := some { status := some "running", health := some health } }, host)
  | op => simulate scenario op host

theorem simulateUnhealthy_step (scenario : Scenario) (op : Op) {host : SimHost}
    (hwf : host.Wf) :
    (simulateUnhealthy scenario op host).2.Wf ∧
      Agrees simNameOf ⟨op, (simulateUnhealthy scenario op host).1⟩ := by
  unfold simulateUnhealthy
  split
  · rename_i ref
    cases hc : host.find ref with
    | none => exact ⟨hwf, trivial⟩
    | some c => exact ⟨hwf, (SimHost.find_some hc).2, hwf c (SimHost.find_some hc).1⟩
  · exact simulate_step scenario op hwf

/-- The update fails to stop its new container, whose hooks include one before a rollback. -/
def stopFails : Scenario where
  registry := id
  hooks := [("web", { preRollback := ["dump"] })]
  fails site request := site = .recreate && request.kind = .stop

/-- Whether an event is a run of the hook for the container. -/
def isInvoked (n : String) (hook : HookName) (e : Event Agent) : Bool :=
  match e.op with
  | .log line => line = .hooks n hook
  | _ => false

theorem invoked_eq (n : String) (hook : HookName) :
    Invoked n hook = fun e => isInvoked n hook e = true := by
  funext ⟨op, r⟩
  cases op <;> simp [isInvoked, Invoked]

/-- The hook before a rollback of `web` runs in the update and again in the cleanup. -/
theorem preRollback_runs_twice :
    ∃ tr result items,
      Execution simNameOf exampleEnv exampleHost webHost webPlan none tr result items ∧
        ¬ TidyHooks "web" tr := by
  have hgoes : ∀ c ∈ webHost.list, GoesBy simNameOf c := by decide
  let start : SimHost := { containers := webHost.list, images := [] }
  refine ⟨_, _, _, ⟨Prog.exec_runs (simulateUnhealthy stopFails) _ start, exec_agrees
    (fun op _ => simulateUnhealthy_step stopFails op) _ (show start.Wf from hgoes), hgoes⟩,
    fun htidy => ?_⟩
  have honce := htidy.once .preRollback
  rw [invoked_eq, always_not_once_iff] at honce
  exact absurd honce (by decide +kernel)

end Tugtainer
