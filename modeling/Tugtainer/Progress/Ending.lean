import Tugtainer.Executor.Prepare
import Tugtainer.Plan.Selection
import Tugtainer.Progress.Actions

/-!
# How the entries end

A function that has written its entry of the progress cache is to leave it `DONE` or
`ERROR`, whether it returns or raises. Five of the six functions do. The executor of a
plan does exactly where no call of the database raises: `entry_ended_iff`.
-/

namespace Tugtainer

open Python Interaction Act

/-- The functions that have an entry of their own. -/
inductive Action where
  | checkOneContainer (host : HostsModel) (container : ContainerInspectResult)
  | checkHostContainers (host : HostsModel) (manual : Bool)
  | checkAllContainers (manual : Bool)
  | executeUpdatePlan (host : HostsModel) (containers : HostContainers) (plan : UpdatePlan)
      (dockerVersion : Option DockerVersion)
  | updateHostContainers (host : HostsModel) (manual : Bool)
  | updateAllContainers

namespace Action

/-- The key of its entry. -/
def key : Action → CacheKey
  | .checkOneContainer host container => getContainerCacheKey host container
  | .checkHostContainers host _ | .updateHostContainers host _ => getHostCacheKey host
  | .checkAllContainers _ | .updateAllContainers => .all
  | .executeUpdatePlan host _ plan _ => .plan (getPlanCacheKey host plan)

/-- A call of the function, whatever it returns. -/
def call (env : BackendEnv) : Action → BackendM Unit Unit
  | .checkOneContainer host container => do
      let _ ← Tugtainer.checkOneContainer host container
  | .checkHostContainers host manual => do
      let _ ← Tugtainer.checkHostContainers host manual
  | .checkAllContainers manual => Tugtainer.checkAllContainers manual
  | .executeUpdatePlan host containers plan dockerVersion => do
      let _ ← execute env host containers plan dockerVersion
  | .updateHostContainers host manual => do
      let _ ← Tugtainer.updateHostContainers env host manual
  | .updateAllContainers => Tugtainer.updateAllContainers env

/-- The function is the executor of a plan. -/
def IsExecution : Action → Prop
  | .executeUpdatePlan _ _ _ _ => True
  | _ => False

end Action

/-- The status that an event writes under the key, or the one before. -/
def statusAfter (key : CacheKey) (status : Option ActionStatus) (e : Event Backend) :
    Option ActionStatus :=
  match e.op with
  | .cacheSet k status' | .cacheUpdate k status' _ => if k = key then some status' else status
  | _ => status

/-- The status that was written last under the key. -/
def lastStatus (key : CacheKey) (tr : Trace Backend) : Option ActionStatus :=
  tr.foldl (statusAfter key) none

/-- The entry was not written, or left `DONE` or `ERROR`. -/
def Ended (status : Option ActionStatus) : Prop :=
  isAllowedStartCache status = true

/-- A call of the database raises. -/
def databaseRaises : Event Backend → Bool
  | ⟨.selectHost _, .raised _⟩ | ⟨.selectEnabledHosts, .raised _⟩
  | ⟨.selectHostContainers _, .raised _⟩ | ⟨.selectContainer _ _, .raised _⟩
  | ⟨.selectContainers _ _, .raised _⟩ | ⟨.commit _ _, .raised _⟩ | ⟨.insert _ _ _, .raised _⟩
  | ⟨.refresh _ _, .raised _⟩ | ⟨.close, .raised _⟩ | ⟨.getHooksMap _ _, .raised _⟩ => true
  | _ => false

/-- What is followed of a run: the status written last, and whether a call of the database
has raised. -/
structure EntryView where
  status : Option ActionStatus := none
  failed : Bool := false

/-- The observer of an entry, who lets everything happen. -/
def entryContract (key : CacheKey) : Contract Backend EntryView where
  next v e :=
    { status := statusAfter key v.status e
      failed := v.failed || databaseRaises e }
  rely _ _ := True
  guar _ _ := True

theorem after_entryContract (key : CacheKey) (v : EntryView) (tr : Trace Backend) :
    (entryContract key).after v tr =
      { status := tr.foldl (statusAfter key) v.status
        failed := v.failed || tr.any databaseRaises } := by
  induction tr generalizing v with
  | nil => simp
  | cons e tr ih =>
      rw [Contract.after_cons, ih]
      simp [entryContract, Bool.or_assoc]

/-! ## The five functions that always end their entry -/

section

variable {σ α β : Type} {key : CacheKey} {P R : EntryView → Prop}

def EntryView.Free (v : EntryView) : Prop := Ended v.status

theorem triple_any (x : BackendM σ α) :
    Triple (entryContract key) P x (fun _ => True) fun _ => True :=
  (Triple.of_guar (fun _ _ => trivial) x).mono (fun _ _ => trivial) (fun _ h => h) fun _ h => h

theorem triple_last {x : BackendM σ α} {f : α → BackendM σ β}
    (hf : ∀ a, Triple (entryContract key) (fun _ => True) (f a) EntryView.Free fun _ => True) :
    Triple (entryContract key) P (x >>= f) EntryView.Free fun _ => True :=
  .bind (triple_any x) hf

theorem triple_end {status : ActionStatus} (result : Option ActionResult)
    (h : isAllowedStartCache (some status) = true) :
    Triple (σ := σ) (entryContract key) P (cacheUpdate key status result) EntryView.Free R :=
  .perform fun v _ => ⟨trivial, fun _ _ => by
    simpa [entryContract, EntryView.Free, Ended, statusAfter] using h⟩

theorem triple_free_quiet {x : BackendM σ α} (h : Issues BackendOp.Quiet x) :
    Triple (entryContract key) EntryView.Free x EntryView.Free EntryView.Free := by
  refine .of_issues h (fun _ _ _ _ => trivial) fun v e hv hop _ => ?_
  obtain ⟨op, r⟩ := e
  cases op with
  | cacheGet _ | cacheSet _ _ | cacheUpdate _ _ _ => exact (hop : False).elim
  | _ => exact hv

theorem triple_ask {x y : BackendM σ α} {k : CacheKey}
    (hx : Triple (entryContract key) EntryView.Free x EntryView.Free EntryView.Free)
    (hy : Triple (entryContract key) EntryView.Free y EntryView.Free EntryView.Free) :
    Triple (entryContract key) EntryView.Free
      (do
        let state ← cacheGet k
        if isAllowedStart state then x else y) EntryView.Free EntryView.Free :=
  .bind (.perform fun _ hv => ⟨trivial, fun _ _ => hv⟩) fun _ => .ite hx hy

theorem ended_checkOneContainer (host : HostsModel) (container : ContainerInspectResult) :
    Triple (entryContract (getContainerCacheKey host container)) EntryView.Free
      (checkOneContainer host container : BackendM σ ContainerActionResult) EntryView.Free
      EntryView.Free := by
  refine .bind (triple_free_quiet (issues_perform trivial)) fun settings => ?_
  refine triple_ask (triple_withObjects (triple_withSession (.bind (.tryCatch
    (R := fun _ => True) ?_ fun e => ?_) fun _ => triple_free_quiet issues_get)
      (fun v h => ⟨trivial, fun reply _ => by cases reply <;> exact h⟩)
      fun v h => ⟨trivial, fun _ _ => h⟩)) (.pure _ fun _ h => h)
  · refine triple_last fun _ => .ite ?_ (triple_end _ rfl)
    refine triple_last fun _ => triple_last fun localImage => triple_last fun _ => ?_
    split
    · exact triple_end _ rfl
    · refine triple_last fun _ => triple_last fun row => triple_last fun _ => triple_last fun _ =>
        triple_last fun remoteDigests => triple_last fun _ => triple_last fun _ =>
          triple_last fun result => triple_end _ rfl
  · exact .bind (.get fun _ h => h) fun result => triple_end _ rfl

theorem ended_checkHostContainers (host : HostsModel) (manual : Bool) :
    Triple (entryContract (getHostCacheKey host)) EntryView.Free
      (checkHostContainers host manual : BackendM σ (Option HostActionResult)) EntryView.Free
      EntryView.Free := by
  refine triple_ask (triple_withObjects (.bind (.tryCatch (R := fun _ => True) ?_ fun e =>
    triple_end _ rfl) fun _ => .bind (.get fun _ h => h) fun _ => .pure _ fun _ h => h))
      (.pure _ fun _ h => h)
  exact triple_last fun _ => triple_last fun containers => triple_last fun rows =>
    triple_last fun _ => triple_last fun _ => triple_last fun result => triple_end _ rfl

theorem ended_updateHostContainers (env : BackendEnv) (host : HostsModel) (manual : Bool) :
    Triple (entryContract (getHostCacheKey host)) EntryView.Free
      (updateHostContainers env host manual : BackendM σ (Option HostActionResult))
      EntryView.Free EntryView.Free := by
  refine triple_ask (triple_withObjects (.tryCatch (R := fun _ => True) (.bind ?_ fun result =>
    .pure _ fun _ h => h) fun e => .bind (triple_end _ rfl) fun _ => .pure _ fun _ h => h))
      (.pure _ fun _ h => h)
  exact triple_last fun _ => triple_last fun dockerVersion => triple_last fun containers =>
    triple_last fun plan => triple_last fun _ => triple_last fun planRes => triple_last fun _ =>
      triple_last fun _ => triple_last fun result => .bind (triple_end _ rfl) fun _ =>
        .pure _ fun _ h => h

theorem ended_actOnAllHosts (status : ActionStatus)
    (action : HostsModel → BackendM (List HostActionResult) (Option HostActionResult)) :
    Triple (entryContract .all) EntryView.Free (actOnAllHosts status action) EntryView.Free
      EntryView.Free := by
  refine .tryCatch (R := fun _ => True) ?_ fun e => triple_end _ rfl
  refine triple_last fun _ => triple_last fun hosts => triple_last fun _ => triple_last fun _ =>
    triple_last fun results => .bind (triple_end _ rfl) fun _ => ?_
  exact .tryCatch (triple_free_quiet (issues_performE trivial)) fun _ => .pure _ fun _ h => h

end

/-! ## The executor of a plan -/

def planEntryContract (key : PlanCacheKey) : Contract Agent EntryView where
  next v e := match e with
    | ⟨.progressSet k status, _⟩ | ⟨.progressUpdate k status _, _⟩ =>
        if k = key then { v with status := some status } else v
    | ⟨.getHooksMap _ _, .raised _⟩ | ⟨.updateContainersData _, .raised _⟩ =>
        { v with failed := true }
    | _ => v
  rely _ _ := True
  guar _ _ := True

def EntryView.Busy (failed : Bool) (v : EntryView) : Prop :=
  ¬ Ended v.status ∧ v.failed = failed

/-- The entry was not left busy, and no call of the database has raised. -/
def EntryView.Fine (v : EntryView) : Prop :=
  Ended v.status ∧ v.failed = false

section

variable {key : PlanCacheKey} {failed : Bool}

theorem triple_busy_quiet {x : AgentM Items Unit} (h : Issues Op.Quiet x)
    (hraise : x.NeverRaises) {R : EntryView → Prop} :
    Triple (planEntryContract key) (EntryView.Busy failed) x (EntryView.Busy failed) R := by
  refine fun s v hv => hraise.wp (Triple.of_issues h (fun _ _ _ _ => trivial) ?_ s v hv)
  rintro v ⟨op, r⟩ hv hop -
  cases op <;> first | exact hv | exact (hop : False).elim

theorem neverRaises_onItem (name : String) {x : ItemM Unit} (h : x.NeverRaises) :
    (onItem name x).NeverRaises := by
  refine .bind .get fun items => ?_
  cases items.get? name with
  | none => exact .pure ()
  | some item => exact .zoom h

theorem triple_plan_write {status : ActionStatus} {op : Op} {P Q R : EntryView → Prop}
    (hop : op = .progressSet key status ∨ ∃ result, op = .progressUpdate key status result)
    (h : ∀ v, P v → Q { v with status := some status }) :
    Triple (planEntryContract key) P (Act.perform (I := Agent) op : AgentM Items (Agent.Ans op))
      Q R := by
  refine .perform fun v hv => ⟨trivial, fun r _ => ?_⟩
  rcases hop with rfl | ⟨result, rfl⟩ <;> simpa [planEntryContract] using h v hv

theorem triple_busy_database {α : Type} {op : Op} {read : Agent.Ans op → Except Exn α}
    (hok : ∀ v r a, read r = .ok a → (planEntryContract key).next v ⟨op, r⟩ = v)
    (herror : ∀ v r e, read r = .error e →
      (planEntryContract key).next v ⟨op, r⟩ = { v with failed := true }) :
    Triple (planEntryContract key) (EntryView.Busy false)
      (Act.performE (I := Agent) op read : AgentM Items α) (EntryView.Busy false)
      (EntryView.Busy true) := by
  refine .performE (fun _ _ => trivial) (fun v r a hv _ hread => ?_) fun v r e hv _ hread => ?_
  · exact (hok v r a hread).symm ▸ hv
  · rw [herror v r e hread]
    exact ⟨hv.1, rfl⟩

theorem triple_busy_executePasses (env : ExecEnv) (host : HostsModel) (plan : UpdatePlan)
    (dockerVersion : Option DockerVersion) (names : List String) :
    Triple (planEntryContract (getPlanCacheKey host plan)) (EntryView.Busy false)
      (executePasses env host plan dockerVersion names) (EntryView.Busy false)
      (EntryView.Busy true) := by
  have hhooks : Triple (planEntryContract (getPlanCacheKey host plan)) (EntryView.Busy false)
      (loadHooksMap env host names) (EntryView.Busy false) (EntryView.Busy true) :=
    .ite (triple_busy_database (fun v r a h => by cases r <;> first | rfl | cases h)
      fun v r e h => by cases r <;> first | rfl | cases h) (.pure _ fun _ h => h)
  refine .bind hhooks fun hooksMap => ?_
  refine .bind (triple_busy_quiet (quiet_preparePass _ _ _ _) (.forM fun name =>
    neverRaises_onItem name (neverRaises_prepareItem _ _))) fun _ => ?_
  refine .bind (triple_plan_write (Q := EntryView.Busy false) (.inr ⟨_, rfl⟩) fun v hv =>
    ⟨by simp [Ended, isAllowedStartCache], hv.2⟩) fun _ => ?_
  exact .bind (triple_busy_quiet (quiet_stopPass _ _) (.forM fun name =>
    neverRaises_onItem name (neverRaises_stopItem _ _ _))) fun _ =>
      triple_busy_quiet (quiet_updatePass _ _ _) (.forM fun name =>
        neverRaises_onItem name (neverRaises_updateOrStartItem _ _ _ _))

theorem triple_busy_finish (host : HostsModel) (plan : UpdatePlan) :
    Triple (planEntryContract (getPlanCacheKey host plan)) (EntryView.Busy false)
      (finish host plan) EntryView.Fine (EntryView.Busy true) := by
  refine .bind (.get fun _ h => h) fun items => .bind (triple_busy_database
    (fun v r a h => by cases r <;> first | rfl | cases h)
    fun v r e h => by cases r <;> first | rfl | cases h) fun _ => ?_
  exact .bind (triple_plan_write (Q := EntryView.Fine) (.inr ⟨_, rfl⟩) fun v hv =>
    ⟨by simp [Ended, isAllowedStartCache], hv.2⟩) fun _ => .pure _ fun _ h => h

/-- The executor leaves its entry busy exactly where it raises, as a call of the database
did. -/
theorem triple_fine_executeUpdatePlan (env : ExecEnv) (host : HostsModel)
    (containers : HostContainers) (plan : UpdatePlan) (dockerVersion : Option DockerVersion) :
    Triple (planEntryContract (getPlanCacheKey host plan)) EntryView.Fine
      (executeUpdatePlan env host containers plan dockerVersion) EntryView.Fine
      (EntryView.Busy true) := by
  refine .bind (Q := EntryView.Fine) (.perform fun v hv => ⟨trivial, fun _ _ => hv⟩)
    fun status => .ite (.pure _ fun _ h => h) (.ite (.pure _ fun _ h => h) ?_)
  refine .bind (triple_plan_write (Q := EntryView.Busy false) (.inl rfl) fun v hv =>
    ⟨by simp [Ended, isAllowedStartCache], hv.2⟩) fun _ => ?_
  refine .bind (.set _ fun _ h => h) fun _ => .bind (.get fun _ h => h) fun items => ?_
  exact .bind (triple_busy_executePasses _ _ _ _ _) fun _ => .bind (triple_busy_finish _ _)
    fun _ => .pure _ fun _ h => h

end

theorem triple_database_call {α : Type} {key : CacheKey} {op : BackendOp}
    {read : op.Ans → Except Exn α} {v : EntryView}
    (hok : ∀ r a, read r = .ok a → (entryContract key).next v ⟨op, r⟩ = v)
    (herror : ∀ r e, read r = .error e →
      (entryContract key).next v ⟨op, r⟩ = { v with failed := true }) :
    Triple (entryContract key) (· = v)
      (Act.performE (I := Backend) op read : BackendM Unit α) (· = v)
      (· = { v with failed := true }) := by
  refine .performE (fun _ _ => trivial) ?_ ?_
  · rintro _ r a rfl - hread
    exact hok r a hread
  · rintro _ r e rfl - hread
    exact herror r e hread

/-- Saving the result of an execution raises where a call of the database does. -/
theorem triple_updateContainersData (key : CacheKey) (result : UpdatePlanResult) (v : EntryView) :
    Triple (entryContract key) (· = v)
      (updateContainersDataAfterExecution result : BackendM Unit Unit) (· = v)
      (· = { v with failed := true }) := by
  have hok {e : Event Backend} (hstatus : statusAfter key v.status e = v.status)
      (hraises : databaseRaises e = false) : (entryContract key).next v e = v := by
    simp [entryContract, hstatus, hraises]
  have hfail {e : Event Backend} (hstatus : statusAfter key v.status e = v.status)
      (hraises : databaseRaises e = true) :
      (entryContract key).next v e = { v with failed := true } := by
    simp [entryContract, hstatus, hraises]
  refine .ite (.pure _ fun _ h => h) (.bind (Q := (· = v)) (.perform ?_) fun now =>
    triple_withSession (.bind (triple_database_call ?_ ?_) fun rows =>
      triple_database_call ?_ ?_) ?_ ?_)
  · rintro _ rfl
    exact ⟨trivial, fun _ _ => hok rfl rfl⟩
  · rintro (_ | _) a hread
    · exact hok rfl rfl
    · cases hread
  · rintro (_ | _) e hread
    · cases hread
    · exact hfail rfl rfl
  · rintro (_ | _) a hread
    · exact hok rfl rfl
    · cases hread
  · rintro (_ | _) e hread
    · cases hread
    · exact hfail rfl rfl
  · rintro _ rfl
    refine ⟨trivial, fun reply _ => ?_⟩
    cases reply with
    | ok _ => exact hok rfl rfl
    | raised _ => exact hfail rfl rfl
  · rintro _ rfl
    refine ⟨trivial, fun reply _ => ?_⟩
    simp [entryContract, statusAfter]

/-- The backend carries out an operation of the executor as its observer sees it. -/
theorem wp_carryOut_entry (host : HostsModel) (key : PlanCacheKey) (op : Agent.Op)
    (v : EntryView) :
    (carryOut host op).wp (entryContract (.plan key))
      (fun r v' => True ∧ v' = (planEntryContract key).next v ⟨op, r⟩) v := by
  have hok {e : Event Backend} (hstatus : statusAfter (.plan key) v.status e = v.status)
      (hraises : databaseRaises e = false) : (entryContract (.plan key)).next v e = v := by
    simp [entryContract, hstatus, hraises]
  cases op with
  | agent _ _ | sleep _ | sleepAbout _ | log _ | progressGet _ =>
      exact ⟨trivial, fun r _ => ⟨trivial, hok rfl rfl⟩⟩
  | getHooksMap hostId names =>
      refine ⟨trivial, fun reply _ => ⟨trivial, ?_⟩⟩
      cases reply with
      | ok _ => exact hok rfl rfl
      | raised _ => simp [entryContract, planEntryContract, statusAfter, databaseRaises]
  | progressSet k status | progressUpdate k status result =>
      refine ⟨trivial, fun r _ => ⟨trivial, ?_⟩⟩
      by_cases hk : k = key <;>
        simp [entryContract, planEntryContract, statusAfter, databaseRaises, hk]
  | updateContainersData result =>
      refine (Prog.wp_bind _ _ _ _).2 (Prog.wp_mono
        (triple_updateContainersData (.plan key) result v () v rfl) ?_)
      rintro ⟨_ | _, _⟩ v' rfl <;> exact ⟨trivial, rfl⟩

theorem fine_execute {σ : Type} (env : BackendEnv) (host : HostsModel)
    (containers : HostContainers) (plan : UpdatePlan) (dockerVersion : Option DockerVersion) :
    Triple (entryContract (.plan (getPlanCacheKey host plan))) EntryView.Fine
      (execute env host containers plan dockerVersion : BackendM σ (Option UpdatePlanResult))
      EntryView.Fine (EntryView.Busy true) := by
  have hfine (v : EntryView) (hv : v.Fine) : EntryView.Fine ⟨v.status, v.failed || false⟩ :=
    ⟨hv.1, by simp [hv.2]⟩
  refine .bind (Q := EntryView.Fine) (.perform fun v hv => ⟨trivial, fun _ _ => hfine v hv⟩)
    fun _ => .bind (Q := EntryView.Fine) (.perform fun v hv => ⟨trivial, fun _ _ => hfine v hv⟩)
      fun settings => ?_
  intro s v hv
  refine wp_mono (wp_interp (fun v v' => v = v') (fun op v v' h _ => ?_)
    (triple_fine_executeUpdatePlan _ host containers plan dockerVersion [] v hv) rfl) ?_ ?_
  · subst h
    exact wp_carryOut_entry host _ op v
  · rintro _ _ v' ⟨-, _, _, rfl, h⟩
    exact h
  · rintro _ _ v' ⟨-, _, _, rfl, h⟩
    exact h

/-! ## All six functions -/

theorem accepts_entryContract (key : CacheKey) (v : EntryView) (tr : Trace Backend) :
    (entryContract key).Accepts v tr := by
  induction tr generalizing v with
  | nil => trivial
  | cons e tr ih => exact ⟨trivial, ih _⟩

theorem ended_of_triple {key : CacheKey} {x : BackendM Unit Unit} {tr : Trace Backend}
    {r : Except Exn Unit × Unit} (h : Triple (entryContract key) EntryView.Free x EntryView.Free
      EntryView.Free) (hrun : Runs (x ()) tr r) : Ended (lastStatus key tr) := by
  have hend := Prog.wp_sound (h () {} rfl) hrun (accepts_entryContract key {} tr)
  rw [after_entryContract] at hend
  obtain ⟨_ | _, _⟩ := r <;> exact hend

/-- Whenever a function returns or raises, its entry was left `DONE` or `ERROR`, unless it
is the executor and a call of the database has raised. -/
theorem entry_ended_iff (env : BackendEnv) (action : Action) {tr : Trace Backend}
    {r : Except Exn Unit × Unit} (h : Runs (action.call env ()) tr r) :
    Ended (lastStatus action.key tr) ↔
      ¬ (action.IsExecution ∧ tr.any databaseRaises = true) := by
  have hsimple (hnot : ¬ action.IsExecution) (hended : Triple (entryContract action.key)
      EntryView.Free (action.call env) EntryView.Free EntryView.Free) :
      Ended (lastStatus action.key tr) ↔ ¬ (action.IsExecution ∧ tr.any databaseRaises = true) :=
    iff_of_true (ended_of_triple hended h) fun h => hnot h.1
  cases action with
  | checkOneContainer host container =>
      exact hsimple (fun h => h) (.bind (ended_checkOneContainer host container) fun _ =>
        .pure _ fun _ h => h)
  | checkHostContainers host manual =>
      exact hsimple (fun h => h) (.bind (ended_checkHostContainers host manual) fun _ =>
        .pure _ fun _ h => h)
  | checkAllContainers manual =>
      exact hsimple (fun h => h) (triple_ask (triple_withObjects (ended_actOnAllHosts _ _))
        (.pure _ fun _ h => h))
  | updateHostContainers host manual =>
      exact hsimple (fun h => h) (.bind (ended_updateHostContainers env host manual) fun _ =>
        .pure _ fun _ h => h)
  | updateAllContainers =>
      exact hsimple (fun h => h) (triple_ask (triple_withObjects (ended_actOnAllHosts _ _))
        (.pure _ fun _ h => h))
  | executeUpdatePlan host containers plan dockerVersion =>
      have htriple : Triple (entryContract (.plan (getPlanCacheKey host plan))) EntryView.Fine
          ((Action.executeUpdatePlan host containers plan dockerVersion).call env) EntryView.Fine
          (EntryView.Busy true) :=
        .bind (fine_execute env host containers plan dockerVersion) fun _ => .pure _ fun _ h => h
      have hend := Prog.wp_sound (htriple () {} ⟨rfl, rfl⟩) h (accepts_entryContract _ {} tr)
      rw [after_entryContract] at hend
      obtain ⟨_ | _, _⟩ := r
      · exact iff_of_false hend.1 fun hnot => hnot ⟨trivial, by simpa using hend.2⟩
      · exact iff_of_true hend.1 fun ⟨_, hraises⟩ => by simpa [hraises] using hend.2

/-! ## An execution whose hooks cannot be loaded -/

def hookedEnv : BackendEnv := { allowHooks := true, ord := .ascending _, planFuel := 0 }

/-- The plan that updates `web` alone. -/
def hookedPlan : UpdatePlan where
  toUpdate := {"web"}
  affected := ∅
  order := ["web"]
  order_nodup := List.nodup_singleton "web"
  disjoint := disjoint_web

def hookedHost : HostContainers where
  list :=
    [{ name := "web", state := some { status := some "running" },
       config := some { image := some "web:latest" }, name_nonblank := isBlank_web }]
  nodup := by decide

def hookedAction : Action :=
  .executeUpdatePlan { id := 1, name := "host" } hookedHost hookedPlan none

def hookedTrace : Trace Backend :=
  [⟨.log (.plan { id := 1, name := "host" } hookedPlan), ()⟩,
    ⟨.settings, { registryReqDelay := 0, pullBeforeCheck := false, updateOnlyRunning := false,
                  delayUpdateFor := 0 }⟩,
    ⟨.cacheGet hookedAction.key, none⟩,
    ⟨.cacheSet hookedAction.key .preparing, ()⟩,
    ⟨.getHooksMap 1 ["web"], .raised none⟩]

theorem runs_hookedAction :
    Runs (hookedAction.call hookedEnv ()) hookedTrace (.error .call, ()) :=
  .call (.call (.call (.call (.call (.ret _)))))

theorem entry_ended_iff_hooked :
    Ended (lastStatus hookedAction.key hookedTrace) ↔
      ¬ (hookedAction.IsExecution ∧ hookedTrace.any databaseRaises = true) :=
  entry_ended_iff hookedEnv hookedAction runs_hookedAction

/-- The entry of the plan is left `PREPARING`. -/
theorem unloaded_hooks_leave_preparing :
    ¬ ∀ (env : BackendEnv) (action : Action) (tr : Trace Backend) (r : Except Exn Unit × Unit),
      Runs (action.call env ()) tr r → Ended (lastStatus action.key tr) := by
  intro hclaim
  have hended := hclaim _ _ _ _ runs_hookedAction
  exact absurd hended (by unfold Ended; decide)

end Tugtainer
