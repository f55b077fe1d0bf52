import Tugtainer.Interaction.Schedule
import Tugtainer.Progress.Tasks

/-!
# Which executions exclude each other

In a cache that never loses an entry, the entry of a plan keeps a second execution with
the same `to_update` from starting, and the entry of a host a second run of
`update_host_containers`: `executions_differ`. The names that a plan affects are in
neither key, so two single updates may restart one container at the same time
(`overlapping_updates`).
-/

namespace Tugtainer

open Python Interaction

/-- A cache that keeps every entry. -/
abbrev Store := CacheKey → Option Progress

def storeContract : Contract Backend Store where
  next w e := match e.op with
    | .cacheSet key status => Function.update w key (some { status := status })
    | .cacheUpdate key status result =>
        Function.update w key (some (.update (w key) status result))
    | _ => w
  rely w e := match e with
    | ⟨.cacheGet key, entry⟩ => entry = w key
    | _ => True
  guar _ _ := True

/-- The tasks over a cache that keeps every entry. -/
def storeSystem (env : BackendEnv) : System Backend (Except Exn Unit × Unit) TaskView Store :=
  taskSystem env storeContract fun _ _ => False

/-- The pools of the tasks that share the cache. -/
abbrev StorePool := Pool Backend (Except Exn Unit × Unit) TaskView Store

def emptyPool : StorePool := ⟨[], none, fun _ => none⟩

/-- A task is executing a plan. -/
def Executing (s : StorePool) (i : ℕ) (host : HostsModel) (plan : UpdatePlan) : Prop :=
  ∃ p v, s.tasks[i]? = some (p, v) ∧ v.executing = some (host, plan)

/-- The task runs `update_host_containers`. -/
def ByHost (s : StorePool) (i : ℕ) : Prop :=
  ∃ p v, s.tasks[i]? = some (p, v) ∧ v.byHost = true

section

variable {env : BackendEnv} {s s' : StorePool} {v : TaskView}

def Store.Busy (w : Store) (key : CacheKey) : Prop :=
  ∃ entry, w key = some entry ∧ isBusy entry.status = true

def storeLock (env : BackendEnv) (key : CacheKey) : LockSystem (storeSystem env) :=
  keyLock key (fun w => Store.Busy w key) (fun _ => True)
    (by
      rintro w entry rfl ⟨entry', hentry, hbusy⟩ -
      rw [hentry]
      simpa [isBusy, isAllowedStart] using hbusy)
    (by
      rintro w ⟨op, r⟩ h
      obtain ⟨status, hbusy, rfl | ⟨result, rfl⟩⟩ := exists_of_take h <;>
        exact ⟨_, Function.update_self _ _ _, hbusy⟩)
    (by
      rintro w ⟨op, r⟩ h ⟨entry, hentry, hbusy⟩
      cases op with
      | cacheSet k status =>
          refine ⟨entry, (Function.update_of_ne ?_ _ _).trans hentry, hbusy⟩
          rintro rfl
          exact h.elim (lockOp_write_ne (.inl rfl)).2 (lockOp_write_ne (.inl rfl)).1
      | cacheUpdate k status result =>
          refine ⟨entry, (Function.update_of_ne ?_ _ _).trans hentry, hbusy⟩
          rintro rfl
          exact h.elim (lockOp_write_ne (.inr ⟨result, rfl⟩)).2
            (lockOp_write_ne (.inr ⟨result, rfl⟩)).1
      | _ => exact ⟨entry, hentry, hbusy⟩)
    fun _ _ h => h.elim

theorem exclusive_store (key : CacheKey)
    (h : (storeSystem env).Reaches (fun _ _ => True) emptyPool s) :
    (storeLock env key).Exclusive s :=
  ((storeLock env key).exclusive h (fun _ _ _ _ _ _ _ _ _ => trivial) wp_of_starts
    (fun _ _ _ _ => trivial) rfl).2

/-- A task that executes a plan holds the key of the plan, and that of the host where it
updates hosts. -/
def ExecutesHeld (v : TaskView) : Prop :=
  ∀ host plan, v.executing = some (host, plan) →
    v.lock (.plan (getPlanCacheKey host plan)) = .held ∧
      (v.byHost = true → v.lock (getHostCacheKey host) = .held)

theorem held_next {key : CacheKey} {e : Event Backend} (h : v.lock key = .held)
    (hop : lockOp key e.op = .other ∨ lockOp key e.op = .take) :
    (taskContract.next v e).lock key = .held := by
  change (v.lock key).next (lockOp key e.op) (lockPass e) = .held
  rcases hop with hop | hop <;> rw [hop]
  · exact Lock.lapse_eq_held.2 h
  · rfl

theorem ExecutesHeld.of_keeps (h : ExecutesHeld v) {e : Event Backend}
    (hexec : (taskContract.next v e).executing = v.executing)
    (hop : ∀ key, v.lock key = .held → (∃ host plan, v.executing = some (host, plan) ∧
      (key = .plan (getPlanCacheKey host plan) ∨ key = getHostCacheKey host)) →
      lockOp key e.op = .other ∨ lockOp key e.op = .take) :
    ExecutesHeld (taskContract.next v e) := by
  intro host plan hnext
  rw [hexec] at hnext
  obtain ⟨hplan, hhost⟩ := h host plan hnext
  exact ⟨held_next hplan (hop _ hplan ⟨host, plan, hnext, .inl rfl⟩), fun hby =>
    held_next (hhost hby) (hop _ (hhost hby) ⟨host, plan, hnext, .inr rfl⟩)⟩

/-- A write of a key that may end the execution, or of one that the execution does not
need. -/
theorem ExecutesHeld.write (h : ExecutesHeld v) {e : Event Backend} {key : CacheKey}
    {status : ActionStatus}
    (hop : ∀ k, lockOp k e.op = if key = k then if isBusy status then .take else .free else .other)
    (hexec : (taskContract.next v e).executing = (if isBusy status then v.executing else none) ∨
      ((taskContract.next v e).executing = v.executing ∧ ¬ key.IsPlan ∧
        ∀ host, key ≠ getHostCacheKey host)) :
    ExecutesHeld (taskContract.next v e) := by
  rcases hexec with hexec | ⟨hexec, hplan, hhost⟩
  · cases hbusy : isBusy status with
    | true =>
        rw [if_pos hbusy] at hexec
        refine h.of_keeps hexec fun k _ _ => ?_
        rw [hop, if_pos hbusy]
        split <;> simp
    | false =>
        rw [if_neg (by simp [hbusy])] at hexec
        intro host plan hnext
        rw [hexec] at hnext
        cases hnext
  · refine h.of_keeps hexec ?_
    rintro k - ⟨host, plan, -, rfl | rfl⟩
    · rw [hop, if_neg (by rintro rfl; exact hplan trivial)]
      simp
    · rw [hop, if_neg (hhost host)]
      simp

theorem ExecutesHeld.next (h : ExecutesHeld v) {e : Event Backend}
    (hguar : taskContract.guar v e.op) : ExecutesHeld (taskContract.next v e) := by
  obtain ⟨op, r⟩ := e
  cases op with
  | cacheGet key =>
      -- nothing is asked for during an execution
      have hnone : v.executing = none := hguar.2
      refine h.of_keeps rfl fun key _ hexec => ?_
      obtain ⟨host, plan, hexec, -⟩ := hexec
      simp [hnone] at hexec
  | cacheSet key status =>
      cases key with
      | plan key =>
          -- an execution begins, with the key of its plan and that of the host
          obtain ⟨host, plan, hcalled, rfl, hhost⟩ := hguar.2
          intro host' plan' hexec
          change (if isBusy status then v.plan else none) = some (host', plan') at hexec
          split at hexec
          · rename_i hbusy
            rw [hcalled] at hexec
            cases hexec
            refine ⟨?_, fun hby => held_next (hhost hby) (.inl rfl)⟩
            change Lock.next _ (lockOp _ (.cacheSet _ status)) _ = .held
            simp only [lockOp, hbusy, if_pos]
            rfl
          · cases hexec
      | host id name => exact h.write (fun _ => rfl) (.inl rfl)
      | all => exact h.write (fun _ => rfl) (.inr ⟨rfl, fun h => h, fun _ h => by cases h⟩)
      | container _ _ _ =>
          exact h.write (fun _ => rfl) (.inr ⟨rfl, fun h => h, fun _ h => by cases h⟩)
  | cacheUpdate key status result =>
      cases key with
      | plan key => exact h.write (fun _ => rfl) (.inl rfl)
      | host id name => exact h.write (fun _ => rfl) (.inl rfl)
      | all => exact h.write (fun _ => rfl) (.inr ⟨rfl, fun h => h, fun _ h => by cases h⟩)
      | container _ _ _ =>
          exact h.write (fun _ => rfl) (.inr ⟨rfl, fun h => h, fun _ h => by cases h⟩)
  | log line =>
      cases line with
      | executor line => exact h.of_keeps rfl fun key _ _ => .inl rfl
      | plan host plan =>
          intro host' plan' hexec
          cases hexec
  | _ => exact h.of_keeps rfl fun key _ _ => .inl rfl

theorem executesHeld_of_reaches (h : (storeSystem env).Reaches (fun _ _ => True) emptyPool s) :
    ∀ (i : ℕ) p v, s.tasks[i]? = some (p, v) → ExecutesHeld v := by
  refine (h.inv (P := fun s => System.TasksWp (storeSystem env) (fun _ _ => True) s ∧
    ∀ (i : ℕ) p v, s.tasks[i]? = some (p, v) → ExecutesHeld v) ?_ ?_).2
  · exact ⟨fun i p v hget => (nomatch hget), fun i p v hget => (nomatch hget)⟩
  · rintro s a s' ⟨hwp, hheld⟩ hstep -
    refine ⟨hwp.step wp_of_starts (fun _ _ _ _ => trivial) hstep, ?_⟩
    cases hstep with
    | env henv => exact henv.elim
    | start hp =>
        intro i p v hget
        rcases System.getElem?_concat_eq_some hget with hget | heq
        · exact hheld i p v hget
        · cases heq
          obtain ⟨start, -, rfl⟩ := hp
          exact fun host plan hexec => nomatch hexec
    | event hcall _ _ =>
        intro i p v hget
        rcases System.getElem?_set_eq_some hget with ⟨-, heq⟩ | ⟨-, hget⟩
        · cases heq
          exact (hheld _ _ _ hcall).next (hwp _ _ _ hcall).1
        · exact hheld i p v hget

/-- Two executions on one host that are in progress at the same time do not have the same
`to_update`, and at most one of them was started by `update_host_containers`. -/
theorem executions_differ (h : (storeSystem env).Reaches (fun _ _ => True) emptyPool s) {i j : ℕ}
    (hne : i ≠ j) {host host' : HostsModel} (hid : host.id = host'.id)
    (hname : host.name = host'.name) {plan plan' : UpdatePlan} (hi : Executing s i host plan)
    (hj : Executing s j host' plan') :
    plan.toUpdate ≠ plan'.toUpdate ∧ ¬ (ByHost s i ∧ ByHost s j) := by
  obtain ⟨p, v, hgeti, hexeci⟩ := hi
  obtain ⟨p', v', hgetj, hexecj⟩ := hj
  obtain ⟨hplani, hhosti⟩ := executesHeld_of_reaches h i p v hgeti host plan hexeci
  obtain ⟨hplanj, hhostj⟩ := executesHeld_of_reaches h j p' v' hgetj host' plan' hexecj
  constructor
  · intro hsame
    have hkey : getPlanCacheKey host' plan' = getPlanCacheKey host plan := by
      simp [getPlanCacheKey, hid, hname, hsame]
    rw [hkey] at hplanj
    exact hne ((exclusive_store _ h).unique i j ⟨p, v, hgeti, hplani⟩ ⟨p', v', hgetj, hplanj⟩)
  · rintro ⟨⟨p₁, v₁, hget₁, hby₁⟩, p₂, v₂, hget₂, hby₂⟩
    obtain ⟨rfl, rfl⟩ := Prod.mk.inj (Option.some.inj (hgeti.symm.trans hget₁))
    obtain ⟨rfl, rfl⟩ := Prod.mk.inj (Option.some.inj (hgetj.symm.trans hget₂))
    have hkey : getHostCacheKey host' = getHostCacheKey host := by
      simp [getHostCacheKey, hid, hname]
    have hheldj := hhostj hby₂
    rw [hkey] at hheldj
    exact hne ((exclusive_store _ h).unique i j ⟨p, v, hgeti, hhosti hby₁⟩
      ⟨p', v', hgetj, hheldj⟩)

end

/-! ## Two updates with a common dependent -/

/-- A database, a queue, and a service that depends on both. -/
def stackDb : ContainerInspectResult where
  name := "stack-db"
  state := some { status := some "running" }
  config := some { image := some "db:latest" }
  name_nonblank := by decide

def stackQueue : ContainerInspectResult where
  name := "stack-queue"
  state := some { status := some "running" }
  config := some { image := some "queue:latest" }
  name_nonblank := by decide

def stackApi : ContainerInspectResult where
  name := "stack-api"
  state := some { status := some "running" }
  config := some
    { image := some "api:latest",
      labels := some [(tugtainerDependsOnLabel, "stack-db,stack-queue")] }
  name_nonblank := by decide

def stackContainers : HostContainers where
  list := [stackApi, stackDb, stackQueue]
  nodup := by decide

def stackHost : HostsModel := { id := 1, name := "stack" }

def stackEnv : BackendEnv := { allowHooks := false, ord := .ascending _, planFuel := 5 }

def stackAgent : (request : Request) → Option (Reply request.Result)
  | .containerExists _ => some (.ok true)
  | .containerInspect name => (stackContainers.list.find? fun c => c.name = name).map .ok
  | _ => none

/-- The answers to two updates; both the database and the queue have a new image. -/
def stackReply (w : Store) : (op : BackendOp) → Option op.Ans
  | .cacheGet key => some (w key)
  | .cacheSet _ _ | .cacheUpdate _ _ _ | .schedule | .log _ => some ()
  | .settings => some
      { registryReqDelay := 0, pullBeforeCheck := false, updateOnlyRunning := false,
        delayUpdateFor := 0 }
  | .selectHost _ => some (.ok stackHost)
  | .containerList _ => some (.ok stackContainers)
  | .selectHostContainers _ => some (.ok
      [{ hostId := 1, name := "stack-db", updateAvailable := true },
        { hostId := 1, name := "stack-queue", updateAvailable := true }])
  | .agent _ _ request => stackAgent request
  | .version _ => some (.raised none)
  | .close => some (.ok ())
  | _ => none

theorem rely_stackReply (w : Store) (op : BackendOp) (r : op.Ans) (h : stackReply w op = some r) :
    storeContract.rely w ⟨op, r⟩ := by
  cases op with
  | cacheGet key => exact (Option.some.inj h).symm
  | _ => trivial

def stackUpdate (name : String) : Turn Backend (Except Exn Unit × Unit) TaskView Store :=
  .start ((Start.updateContainer 1 name).program stackEnv ()) { byHost := false }

/-- Both updates go on until they have set the entries of their plans. -/
def stackTurns : List (Turn Backend (Except Exn Unit × Unit) TaskView Store) :=
  stackUpdate "stack-db" :: stackUpdate "stack-queue" ::
    (List.replicate 13 (.step 0) ++ List.replicate 13 (.step 1))

def stackPool : StorePool :=
  ((storeSystem stackEnv).runTurns stackReply (fun _ => true) emptyPool stackTurns).get
    (by decide +kernel)

theorem reaches_stackPool :
    (storeSystem stackEnv).Reaches (fun _ _ => True) emptyPool stackPool := by
  refine System.reaches_of_runTurns rely_stackReply (fun _ _ _ => trivial) (fun t ht => ?_) .refl
    (Option.some_get (by decide +kernel)).symm
  simp only [stackTurns, List.mem_cons, List.mem_append, List.mem_replicate] at ht
  rcases ht with rfl | rfl | ⟨-, rfl⟩ | ⟨-, rfl⟩
  · exact ⟨.updateContainer 1 "stack-db", rfl, rfl⟩
  · exact ⟨.updateContainer 1 "stack-queue", rfl, rfl⟩
  · trivial
  · trivial

/-- The plan that a task is executing for the host. -/
def stackPlan (i : ℕ) : Option UpdatePlan :=
  (stackPool.tasks[i]?.bind fun t => t.2.executing).bind fun (host, plan) =>
    if host = stackHost then some plan else none

theorem executing_of_stackPlan {i : ℕ} {plan : UpdatePlan} (h : stackPlan i = some plan) :
    Executing stackPool i stackHost plan := by
  obtain ⟨⟨host, plan'⟩, hexec, hplan⟩ := Option.bind_eq_some_iff.1 h
  obtain ⟨⟨p, v⟩, hget, hv⟩ := Option.bind_eq_some_iff.1 hexec
  change (if host = stackHost then some plan' else none) = some plan at hplan
  split at hplan
  · rename_i hhost
    cases hplan
    exact ⟨p, v, hget, hv.trans (by rw [hhost])⟩
  · cases hplan

theorem executions_differ_stack :
    ∃ plan plan', Executing stackPool 0 stackHost plan ∧ Executing stackPool 1 stackHost plan' ∧
      plan.toUpdate ≠ plan'.toUpdate ∧ ¬ (ByHost stackPool 0 ∧ ByHost stackPool 1) := by
  obtain ⟨plan, h⟩ := Option.isSome_iff_exists.1 (by decide +kernel : (stackPlan 0).isSome)
  obtain ⟨plan', h'⟩ := Option.isSome_iff_exists.1 (by decide +kernel : (stackPlan 1).isSome)
  exact ⟨plan, plan', executing_of_stackPlan h, executing_of_stackPlan h',
    executions_differ reaches_stackPool (by decide) rfl rfl (executing_of_stackPlan h)
      (executing_of_stackPlan h')⟩

/-- The service is restarted by both updates. -/
theorem overlapping_updates :
    ¬ ∀ (env : BackendEnv) (s : StorePool) (i j : ℕ) (host host' : HostsModel)
      (plan plan' : UpdatePlan), (storeSystem env).Reaches (fun _ _ => True) emptyPool s →
        i ≠ j → host.id = host'.id → host.name = host'.name → Executing s i host plan →
        Executing s j host' plan' →
        ∀ name, ¬ (name ∈ plan.toUpdate ∪ plan.affected ∧
          name ∈ plan'.toUpdate ∪ plan'.affected) := by
  intro hclaim
  have hapi (i : ℕ) (h : (stackPlan i).any fun plan =>
      "stack-api" ∈ plan.toUpdate ∪ plan.affected) :
      ∃ plan, Executing stackPool i stackHost plan ∧
        "stack-api" ∈ plan.toUpdate ∪ plan.affected := by
    obtain ⟨plan, hplan, hmem⟩ := (Option.any_eq_true _ _).1 h
    exact ⟨plan, executing_of_stackPlan hplan, by simpa using hmem⟩
  obtain ⟨plan, hexec, hmem⟩ := hapi 0 (by decide +kernel)
  obtain ⟨plan', hexec', hmem'⟩ := hapi 1 (by decide +kernel)
  exact hclaim stackEnv stackPool 0 1 stackHost stackHost plan plan' reaches_stackPool (by decide)
    rfl rfl hexec hexec' "stack-api" ⟨hmem, hmem'⟩

end Tugtainer
