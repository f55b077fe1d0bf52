import Tugtainer.Progress.Protocol

/-!
# The actions keep to the protocol

Every function that writes an entry asks for it first, and gives it back whether it
returns or raises. Only `execute_update_plan` may leave the entry of its plan busy, where
it raises.
-/

namespace Tugtainer

open Python Interaction Act

/-! ## Executing a plan -/

/-- What an operation of the executor does with the entry of its plan. -/
def planOp : Op → LockOp
  | .progressGet _ => .ask
  | .progressSet _ status | .progressUpdate _ status _ => if isBusy status then .take else .free
  | _ => .other

def planPass : Event Agent → Bool
  | ⟨.progressGet _, status⟩ => isAllowedStartCache status
  | _ => false

/-- The executor works on the entry of its plan, which it asks for while it does not hold
it and updates while it does. -/
def Op.OnPlan (key : PlanCacheKey) (l : Lock) : Op → Prop
  | .progressGet k => k = key ∧ l ≠ .held
  | .progressSet k _ => k = key
  | .progressUpdate k _ _ => k = key ∧ l = .held
  | _ => True

def planContract (key : PlanCacheKey) : Contract Agent Lock where
  next l e := l.next (planOp e.op) (planPass e)
  rely _ _ := True
  guar l op := l.Allows (planOp op) ∧ op.OnPlan key l

section

variable {σ : Type} {key : PlanCacheKey}

theorem planOp_of_quiet {op : Op} (h : op.Quiet) : planOp op = .other := by
  cases op <;> first | rfl | cases h

theorem planGuar_of_other {l : Lock} {op : Op} (h : planOp op = .other) :
    (planContract key).guar l op := by
  refine ⟨by rw [h]; exact ⟨by simp, by simp⟩, ?_⟩
  cases op with
  | progressSet k status | progressUpdate k status result =>
      simp only [planOp] at h
      split at h <;> cases h
  | progressGet k => cases h
  | _ => trivial

theorem planNext_held {e : Event Agent} (h : planOp e.op = .other) {l : Lock} (hl : l = .held) :
    (planContract key).next l e = .held := by
  change l.next (planOp e.op) (planPass e) = .held
  rw [h, hl]
  rfl

theorem triple_quietPass {x : AgentM σ Unit} (h : Issues Op.Quiet x) :
    Triple (planContract key) (· = .held) x (· = .held) (· = .held) := by
  exact .of_issues h (fun l op _ hop => planGuar_of_other (planOp_of_quiet hop))
    fun l e hl hop _ => planNext_held (planOp_of_quiet hop) hl

theorem triple_database {α : Type} {op : Op} {read : Agent.Ans op → Except Exn α}
    (hop : planOp op = .other) :
    Triple (planContract key) (· = .held) (Act.performE (I := Agent) op read : AgentM σ α)
      (· = .held) (· = .held) :=
  .performE (fun _ _ => planGuar_of_other hop)
    (fun _ r _ hl _ _ => planNext_held (e := ⟨op, r⟩) hop hl)
    fun _ r _ hl _ _ => planNext_held (e := ⟨op, r⟩) hop hl

theorem triple_progress (status : ActionStatus) {op : Op} {P R : Lock → Prop}
    (hop : planOp op = if isBusy status then .take else .free) (hkey : ∀ l, P l → op.OnPlan key l)
    (hP : ∀ l, P l → l = .held ∨ (l = .granted ∧ isBusy status = true)) :
    Triple (planContract key) P (Act.perform (I := Agent) op : AgentM σ (Agent.Ans op))
      (· = if isBusy status then .held else .idle) R := by
  refine .perform fun l hl => ⟨⟨?_, hkey l hl⟩, fun r _ => ?_⟩
  · rw [hop]
    rcases hP l hl with rfl | ⟨rfl, hbusy⟩
    · split <;> exact ⟨by simp, by simp⟩
    · rw [if_pos hbusy]
      exact ⟨by simp, by simp⟩
  · change l.next (planOp op) _ = _
    rw [hop]
    split <;> rfl

theorem triple_executePasses (env : ExecEnv) (host : HostsModel) (plan : UpdatePlan)
    (dockerVersion : Option DockerVersion) (names : List String) :
    Triple (planContract (getPlanCacheKey host plan)) (· = .held)
      (executePasses env host plan dockerVersion names) (· = .held) (· = .held) := by
  have hhooks : Triple (planContract (getPlanCacheKey host plan)) (· = .held)
      (loadHooksMap env host names) (· = .held) (· = .held) :=
    .ite (triple_database rfl) (.pure _ fun _ h => h)
  refine .bind hhooks fun hooksMap => ?_
  refine .bind (triple_quietPass (quiet_preparePass _ _ _ _)) fun _ => ?_
  refine .bind (triple_progress .updating rfl (fun _ h => ⟨rfl, h⟩) fun _ h => .inl h) fun _ => ?_
  exact .bind (triple_quietPass (quiet_stopPass _ _)) fun _ =>
    triple_quietPass (quiet_updatePass _ _ _)

theorem triple_finish (host : HostsModel) (plan : UpdatePlan) :
    Triple (planContract (getPlanCacheKey host plan)) (· = .held) (finish host plan) (· = .idle)
      (· = .held) := by
  refine .bind (.get fun _ h => h) fun items => ?_
  refine .bind (triple_database rfl) fun _ => ?_
  exact .bind (triple_progress .done rfl (fun _ h => ⟨rfl, h⟩) fun _ h => .inl h) fun _ =>
    .pure _ fun _ h => h

theorem triple_executeUpdatePlan (env : ExecEnv) (host : HostsModel) (containers : HostContainers)
    (plan : UpdatePlan) (dockerVersion : Option DockerVersion) :
    Triple (planContract (getPlanCacheKey host plan)) (· = .idle)
      (executeUpdatePlan env host containers plan dockerVersion) (· ≠ .held) fun _ => True := by
  refine .perform_bind (fun l hl => ⟨⟨by simp [planOp], by simp [planOp]⟩, rfl, by simp [hl]⟩)
    fun status => ?_
  have hnext : ∀ l, (∃ l₀ : Lock, l₀ = .idle ∧ True ∧
      l = (planContract (getPlanCacheKey host plan)).next l₀
        ⟨.progressGet (getPlanCacheKey host plan), status⟩) →
      l = if isAllowedStartCache status then .granted else .idle := by
    rintro l ⟨l₀, rfl, -, rfl⟩
    rfl
  refine .mono ?_ hnext (fun _ h => h) fun _ h => h
  cases isAllowedStartCache status with
  | false => exact .pure _ fun l h hheld => Lock.noConfusion (h.symm.trans hheld)
  | true =>
      refine .ite (.pure _ fun l h hheld => Lock.noConfusion (h.symm.trans hheld)) (.ite
        (.pure _ fun l h hheld => Lock.noConfusion (h.symm.trans hheld)) ?_)
      refine .bind (triple_progress .preparing rfl (fun _ _ => rfl)
        fun _ h => .inr ⟨h, rfl⟩) fun _ => ?_
      refine .bind (.set _ fun _ h => h) fun _ => .bind (.get fun _ h => h) fun items => ?_
      refine .mono (R := (· = .held)) ?_ (fun _ h => h) (fun _ h => h) fun _ _ => trivial
      refine .bind (triple_executePasses _ _ _ _ _) fun _ => .bind (triple_finish _ _) fun _ => ?_
      exact .pure _ fun l h hheld => Lock.noConfusion (h.symm.trans hheld)

end

/-- The task executes the plan, with the entry of the plan as the executor has it. -/
structure Executes (byHost : Bool) (H : Set CacheKey) (host : HostsModel) (plan : UpdatePlan)
    (v : TaskView) (l : Lock) : Prop extends Holds byHost H v where
  called : v.plan = some (host, plan)
  asked : l = .granted → v.lock (.plan (getPlanCacheKey host plan)) = .granted
  taken : l = .held → v.lock (.plan (getPlanCacheKey host plan)) = .held
  executing : v.executing = if l = .held then some (host, plan) else none

section

variable {byHost : Bool} {H : Set CacheKey} {host : HostsModel} {plan : UpdatePlan}
  {v : TaskView} {l : Lock}

theorem Executes.lapse (h : Executes byHost H host plan v l) :
    Executes byHost H host plan v l.lapse := by
  refine ⟨h.toHolds, h.called, fun hl => ?_, fun hl => h.taken (Lock.lapse_eq_held.1 hl), ?_⟩
  · cases l <;> cases hl
  · rw [h.executing]
    simp

theorem Executes.quiet {e : Event Backend} (h : Executes byHost H host plan v l)
    (hop : BackendOp.Quiet e.op) :
    Executes byHost H host plan (taskContract.next v e) l.lapse where
  toHolds := h.toHolds.plain (plain_of_quiet hop)
  called := by
    refine Eq.trans ?_ h.called
    obtain ⟨op, r⟩ := e
    cases op with
    | log line =>
        cases line with
        | executor line => rfl
        | plan host plan => exact (hop : False).elim
    | _ => rfl
  asked hl := by cases l <;> cases hl
  taken hl := by
    rw [held_next_of_other (lockOp_of_plain (plain_of_quiet hop) _)]
    exact h.taken (Lock.lapse_eq_held.1 hl)
  executing := by
    have hl : (l.lapse = .held) = (l = .held) := propext Lock.lapse_eq_held
    rw [nextExecuting_of_quiet hop, h.executing]
    simp only [hl]

theorem Executes.ask (h : Executes byHost H host plan v l) (hl : l ≠ .held)
    (entry : Option Progress) :
    Executes byHost H host plan
      (taskContract.next v ⟨.cacheGet (.plan (getPlanCacheKey host plan)), entry⟩)
      (l.next .ask (isAllowedStart entry)) where
  toHolds := h.toHolds.next fun key hkey => by
    cases key <;> first | rfl | exact absurd trivial hkey
  called := h.called
  asked hgranted := by
    change Lock.next _ (lockOp _ (.cacheGet _)) (isAllowedStart entry) = .granted
    rw [lockOp, if_pos rfl, Lock.next_eq_granted]
    exact Lock.next_eq_granted.1 hgranted
  taken hheld := by
    rcases Lock.held_of_next hheld with htake | ⟨hheld, -⟩
    · cases htake
    · exact absurd hheld hl
  executing := by
    have hnext : l.next .ask (isAllowedStart entry) ≠ .held := by
      intro hheld
      rcases Lock.held_of_next hheld with htake | ⟨hheld, -⟩
      · cases htake
      · exact hl hheld
    rw [if_neg hnext]
    exact h.executing.trans (if_neg hl)

theorem Executes.write (status : ActionStatus) (op : BackendOp) {r : op.Ans}
    (h : Executes byHost H host plan v l)
    (hallows : l.Allows (if isBusy status then .take else .free))
    (hop : ∀ k, lockOp k op = if .plan (getPlanCacheKey host plan) = k then
      if isBusy status then .take else .free else .other)
    (hplan : v.nextPlan op = v.plan)
    (hexec : v.nextExecuting op = if isBusy status then some (host, plan) else none) :
    (∀ k, (v.lock k).Allows (lockOp k op)) ∧
      Executes byHost H host plan (taskContract.next v ⟨op, r⟩)
        (l.next (if isBusy status then .take else .free) false) := by
  have hlock : (taskContract.next v ⟨op, r⟩).lock (.plan (getPlanCacheKey host plan)) =
      if isBusy status then .held else .idle := by
    change Lock.next _ (lockOp _ op) _ = _
    rw [hop, if_pos rfl]
    split <;> rfl
  have hl : l.next (if isBusy status then .take else .free) false =
      if isBusy status then .held else .idle := by
    split <;> rfl
  refine ⟨allows_write (fun hbusy => ?_) (fun hfree => ?_) hop, ?_⟩
  · rw [if_pos hbusy] at hallows
    have hne := hallows.1 rfl
    cases l with
    | idle => exact absurd rfl hne
    | granted => simp [h.asked rfl]
    | held => simp [h.taken rfl]
  · rw [if_neg (by simp [hfree])] at hallows
    exact h.taken (hallows.2 rfl)
  · rw [hl]
    refine ⟨h.toHolds.next fun key hkey => ?_, hplan.trans h.called, fun hgranted => ?_,
      fun hheld => hlock.trans hheld, hexec.trans ?_⟩
    · rw [hop, if_neg (by rintro rfl; exact hkey trivial)]
    · split at hgranted <;> cases hgranted
    · cases isBusy status <;> rfl

theorem wp_carryOut (hhost : byHost = true → getHostCacheKey host ∈ H) (op : Agent.Op)
    (h : Executes byHost H host plan v l)
    (hguar : (planContract (getPlanCacheKey host plan)).guar l op) :
    (carryOut host op).wp taskContract (fun r v' => True ∧ Executes byHost H host plan v'
      ((planContract (getPlanCacheKey host plan)).next l ⟨op, r⟩)) v := by
  obtain ⟨hallows, hkey⟩ := hguar
  cases op with
  | agent _ _ | getHooksMap _ _ | sleep _ | sleepAbout _ | log _ =>
      exact ⟨guar_of_quiet trivial, fun r _ => ⟨trivial, h.quiet trivial⟩⟩
  | updateContainersData result =>
      have hquiet : (replyOf (updateContainersDataAfterExecution result)).Issues
          BackendOp.Quiet := by
        refine (quiet_updateContainersDataAfterExecution result ()).bind ?_
        rintro ⟨_ | _, _⟩ <;> trivial
      refine Prog.wp_mono (hquiet.wp (A := fun v' => Executes byHost H host plan v' l.lapse)
        (fun v' op _ hop => guar_of_quiet hop) ?_ h.lapse) fun r v' h' => ⟨trivial, h'⟩
      intro v' e h' hop _
      exact Lock.lapse_lapse l ▸ h'.quiet hop
  | progressGet key =>
      obtain ⟨rfl, hne⟩ := hkey
      refine ⟨⟨fun k => ?_, h.executing.trans (if_neg hne)⟩,
        fun entry _ => ⟨trivial, h.ask hne entry⟩⟩
      simp only [lockOp]
      split <;> exact ⟨by simp, by simp⟩
  | progressSet key status =>
      obtain rfl : key = _ := hkey
      have hheld (hbyHost : v.byHost = true) : v.lock (getHostCacheKey host) = .held :=
        (h.held _ (not_isPlan_host host)).2 (hhost (h.byHost.symm.trans hbyHost))
      obtain ⟨hlocks, hnext⟩ := h.write status (.cacheSet _ status) (r := ()) hallows
        (fun _ => rfl) rfl (congrArg (fun plan => if isBusy status then plan else none) h.called)
      exact ⟨⟨hlocks, host, plan, h.called, rfl, hheld⟩, fun _ _ => ⟨trivial, hnext⟩⟩
  | progressUpdate key status result =>
      obtain ⟨rfl, hl⟩ := hkey
      obtain ⟨hlocks, hnext⟩ := h.write status (.cacheUpdate _ status _) (r := ()) hallows
        (fun _ => rfl) rfl (congrArg (fun plan => if isBusy status then plan else none)
          (h.executing.trans (if_pos hl)))
      exact ⟨⟨hlocks, trivial⟩, fun _ _ => ⟨trivial, hnext⟩⟩

theorem triple_execute {σ : Type} (env : BackendEnv) (containers : HostContainers)
    (dockerVersion : Option DockerVersion) (hhost : byHost = true → getHostCacheKey host ∈ H) :
    Triple taskContract (Holding byHost H)
      (execute env host containers plan dockerVersion : BackendM σ (Option UpdatePlanResult))
      (Holding byHost H) (Holds byHost H) := by
  refine .bind (Q := fun v => Executes byHost H host plan v .idle) (.perform fun v h => ?_)
    fun _ => ?_
  · refine ⟨guar_of_plain trivial, fun r _ => ?_⟩
    exact ⟨h.toHolds.plain trivial, rfl, fun h => (nomatch h), fun h => (nomatch h), rfl⟩
  refine .bind (Q := fun v => Executes byHost H host plan v .idle) (.perform fun v h =>
    ⟨guar_of_quiet trivial, fun r _ => h.quiet trivial⟩) fun settings => ?_
  intro s v h
  refine wp_mono (wp_interp (fun v l => Executes byHost H host plan v l)
    (fun op v l h hguar => wp_carryOut hhost op h hguar)
    (triple_executeUpdatePlan _ host containers plan dockerVersion [] .idle rfl) h) ?_ ?_
  · rintro _ _ v' ⟨-, _, l, hl, hne⟩
    exact ⟨hl.toHolds, hl.executing.trans (if_neg hne)⟩
  · rintro _ _ v' ⟨-, _, l, hl, -⟩
    exact hl.toHolds

end

/-! ## Checks -/

section

variable {σ : Type} {byHost : Bool} {H : Set CacheKey}

variable {host : HostsModel} {container : ContainerInspectResult}

theorem triple_checkImage (hnot : getContainerCacheKey host container ∉ H) (spec : String)
    (delay : Int) :
    Triple taskContract (Holding byHost (insert (getContainerCacheKey host container) H))
      (checkImage host container spec delay) (Holding byHost H)
      (Holding byHost (insert (getContainerCacheKey host container) H)) := by
  refine .bind (triple_quiet (issues_modify _)) fun _ => ?_
  refine .bind (triple_quiet (quiet_request _ _)) fun localImage => ?_
  refine .bind (triple_quiet (issues_modify _)) fun _ => ?_
  split
  · exact triple_free (not_isPlan_container _ _) hnot rfl
  · refine .bind (triple_quiet (issues_modify _)) fun _ => ?_
    refine .bind (triple_quiet (issues_performE trivial)) fun row => ?_
    refine .bind (triple_update (not_isPlan_container _ _) (Set.mem_insert _ _) rfl) fun _ => ?_
    refine .bind (triple_quiet (quiet_pullBeforeCheck _ _ _)) fun _ => ?_
    refine .bind (triple_quiet (quiet_getRemoteDigests _ _ _)) fun remoteDigests => ?_
    refine .bind (triple_quiet (issues_modify _)) fun _ => ?_
    refine .bind (triple_quiet (quiet_saveCheck _ _ _ _ _)) fun _ => ?_
    refine .bind (triple_quiet issues_get) fun result => ?_
    exact triple_free (not_isPlan_container _ _) hnot rfl

theorem triple_checkOneContainer (hnot : getContainerCacheKey host container ∉ H) :
    Triple taskContract (Holding byHost H)
      (checkOneContainer host container : BackendM σ ContainerActionResult) (Holding byHost H)
      (Holding byHost H) := by
  refine .bind (triple_quiet (issues_perform trivial)) fun settings => ?_
  refine triple_start hnot ?_ (.pure _ fun _ h => h)
  have hclose (v : TaskView) (h : Holding byHost H v) : taskContract.guar v .close ∧
      ∀ reply : Reply Unit, True → Holding byHost H (taskContract.next v ⟨.close, reply⟩) :=
    ⟨guar_of_quiet trivial, fun reply _ => h.quiet trivial⟩
  refine triple_withObjects (triple_withSession (.bind (.tryCatch (R := Holding byHost
    (insert (getContainerCacheKey host container) H)) ?_ fun e => ?_) fun _ =>
      triple_quiet issues_get) (fun v h => ⟨(hclose v h).1, fun reply hr => by
        cases reply <;> exact (hclose v h).2 _ hr⟩) hclose)
  · refine .bind (triple_set (not_isPlan_container _ _) rfl) fun _ => ?_
    exact .ite (triple_checkImage hnot _ _) (triple_free (not_isPlan_container _ _) hnot rfl)
  · refine .bind (.get fun _ h => h) fun result => ?_
    exact triple_free (not_isPlan_container _ _) hnot rfl

theorem triple_checkHostContainers (hhost : getHostCacheKey host ∉ H)
    (hcontainer : ∀ c, getContainerCacheKey host c ∉ H) (manual : Bool) :
    Triple taskContract (Holding byHost H)
      (checkHostContainers host manual : BackendM σ (Option HostActionResult))
      (Holding byHost H) (Holding byHost H) := by
  refine triple_start hhost ?_ (.pure _ fun _ h => h)
  refine triple_withObjects (.bind
    (.tryCatch (R := Holding byHost (insert (getHostCacheKey host) H)) ?_
      fun e => triple_free (not_isPlan_host _) hhost rfl)
    fun _ => .bind (triple_quiet issues_get) fun _ => .pure _ fun _ h => h)
  refine .bind (triple_set (not_isPlan_host _) rfl) fun _ => ?_
  refine .bind (triple_quiet (issues_performE trivial)) fun containers => ?_
  refine .bind (triple_quiet (quiet_getHostContainers _)) fun rows => ?_
  refine .bind (triple_update (not_isPlan_host _) (Set.mem_insert _ _) rfl) fun _ => ?_
  refine .bind (.forM fun c => ?_) fun _ => ?_
  · refine .bind (triple_checkOneContainer ?_) fun res => triple_quiet (issues_modify _)
    rintro (h | h)
    · cases h
    · exact hcontainer c h
  · exact .bind (triple_quiet issues_get) fun result => triple_free (not_isPlan_host _) hhost rfl

/-! ## Updates -/

theorem triple_updateHostContainers (env : BackendEnv) (hhost : getHostCacheKey host ∉ H)
    (manual : Bool) :
    Triple taskContract (Holding byHost H)
      (updateHostContainers env host manual : BackendM σ (Option HostActionResult))
      (Holding byHost H) (Holding byHost H) := by
  refine triple_start hhost ?_ (.pure _ fun _ h => h)
  refine triple_withObjects (.tryCatch (R := Holds byHost (insert (getHostCacheKey host) H)) ?_
    fun e => .bind (triple_freeHost hhost rfl) fun _ => .pure _ fun _ h => h)
  refine .bind (Q := Holding byHost H) ?_ fun result => .pure _ fun _ h => h
  -- only the execution may raise with more than what is held
  have hquiet {β : Type} {x : BackendM HostActionResult β} (hx : Issues BackendOp.Quiet x) :
      Triple taskContract (Holding byHost (insert (getHostCacheKey host) H)) x
        (Holding byHost (insert (getHostCacheKey host) H))
        (Holds byHost (insert (getHostCacheKey host) H)) :=
    (triple_quiet hx).mono (fun _ h => h) (fun _ h => h) fun _ h => h.toHolds
  refine .bind (triple_set (not_isPlan_host _) rfl) fun _ => ?_
  refine .bind (hquiet (quiet_dockerVersionOf _)) fun dockerVersion => ?_
  refine .bind (hquiet (issues_performE trivial)) fun containers => ?_
  refine .bind (hquiet (quiet_buildPlan _ _ _ _)) fun plan => ?_
  refine .bind (triple_update (not_isPlan_host _) (Set.mem_insert _ _) rfl) fun _ => ?_
  refine .bind (triple_execute env containers dockerVersion fun _ => Set.mem_insert _ _)
    fun planRes => ?_
  refine .bind (hquiet (issues_modify _)) fun _ => ?_
  refine .bind (.whenA (.bind (triple_update (not_isPlan_host _) (Set.mem_insert _ _) rfl) fun _ =>
    hquiet ?_)) fun _ => ?_
  · exact issues_tryCatch (issues_bind (issues_performE trivial) fun _ => issues_modify _)
      fun _ => issues_pure _
  · exact .bind (hquiet issues_get) fun result =>
      .bind (triple_free (not_isPlan_host _) hhost rfl) fun _ => .pure _ fun _ h => h

/-! ## All hosts -/

theorem triple_actOnAllHosts {status : ActionStatus} (hbusy : isBusy status = true)
    {action : HostsModel → BackendM (List HostActionResult) (Option HostActionResult)}
    (haction : ∀ host, Triple taskContract (Holding byHost {.all}) (action host)
      (Holding byHost {.all}) (Holding byHost {.all})) :
    Triple taskContract (fun v => Holding byHost ∅ v ∧ v.lock .all = .granted)
      (actOnAllHosts status action) (Holding byHost ∅) (Holding byHost ∅) := by
  have hinsert : insert CacheKey.all ∅ = ({.all} : Set CacheKey) :=
    LawfulSingleton.insert_empty_eq _
  have hfree (status : ActionStatus) (result : Option ActionResult) (h : isBusy status = false)
      {R : TaskView → Prop} :
      Triple (σ := List HostActionResult) taskContract (Holding byHost {.all})
        (cacheUpdate .all status result) (Holding byHost ∅) R :=
    hinsert ▸ triple_free not_isPlan_all (Set.notMem_empty _) h
  refine .tryCatch (R := Holding byHost {.all}) ?_ fun e => hfree .error none rfl
  refine .bind (hinsert ▸ triple_set not_isPlan_all rfl) fun _ => ?_
  refine .bind (triple_quiet (quiet_withSession (issues_performE trivial))) fun hosts => ?_
  refine .bind (triple_update not_isPlan_all (Set.mem_singleton _) hbusy) fun _ => ?_
  refine .bind (.forM fun host => ?_) fun _ => ?_
  · exact .tryCatch (.bind (haction host) fun _ => triple_quiet (issues_modify _)) fun _ =>
      .pure _ fun _ h => h
  refine .bind (triple_quiet issues_get) fun results => ?_
  refine .bind (hfree .done _ rfl) fun _ => ?_
  exact .tryCatch (triple_quiet (issues_performE trivial)) fun _ => .pure _ fun _ h => h

theorem triple_checkAllContainers (manual : Bool) :
    Triple taskContract (Holding byHost ∅) (checkAllContainers manual : BackendM σ Unit)
      (Holding byHost ∅) (Holding byHost ∅) := by
  refine triple_start (Set.notMem_empty _) (triple_withObjects (triple_actOnAllHosts rfl
    fun host => triple_checkHostContainers ?_ (fun c => ?_) manual)) (.pure _ fun _ h => h)
  · exact fun h => nomatch h
  · exact fun h => nomatch h

theorem triple_updateAllContainers (env : BackendEnv) :
    Triple taskContract (Holding byHost ∅) (updateAllContainers env : BackendM σ Unit)
      (Holding byHost ∅) (Holding byHost ∅) := by
  refine triple_start (Set.notMem_empty _) (triple_withObjects (triple_actOnAllHosts rfl
    fun host => triple_updateHostContainers env ?_ false)) (.pure _ fun _ h => h)
  exact fun h => nomatch h

end

end Tugtainer
