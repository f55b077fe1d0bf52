import Tugtainer.Interaction.Schedule
import Tugtainer.Progress.Tasks

/-!
# When a host is checked or updated by one run at a time

The entry of a host in the progress cache is to keep a second run from starting. It does,
as long as the cache keeps it: `secondStart_iff` says that a second call is let pass
exactly when the entry has been evicted or has expired since the running one wrote it
last. A check of ten containers is enough for that (`second_check_of_ten_containers`).
-/

namespace Tugtainer

open Python Interaction

variable {env : BackendEnv} {key : CacheKey}
  {s s' : Pool Backend (Except Exn Unit × Unit) TaskView CacheWorld} {a : Move Backend}

/-- The pools of the tasks that share the cache. -/
abbrev CachePool := Pool Backend (Except Exn Unit × Unit) TaskView CacheWorld

/-- The pool before anything was started. -/
def initialPool : CachePool := ⟨[], none, .empty⟩

/-- A task is running under the key: it has been let pass and has not written `DONE` or
`ERROR` yet. -/
def Running (key : CacheKey) (s : CachePool) (i : ℕ) : Prop :=
  ∃ p v, s.tasks[i]? = some (p, v) ∧ v.lock key = .held

/-- A call is let pass while a task is running under the same key. -/
def SecondStart (key : CacheKey) (s : CachePool) (a : Move Backend) : Prop :=
  ∃ i entry, a = .event i ⟨.cacheGet key, entry⟩ ∧ isAllowedStart entry = true ∧
    ∃ j, Running key s j

/-- The entry is still there, where a call asks for it while a task is running. -/
def EntryKept (key : CacheKey) (s : CachePool) (a : Move Backend) : Prop :=
  ∀ i entry, a = .event i ⟨.cacheGet key, entry⟩ → (∃ j, Running key s j) → s.world.Keeps key

namespace CacheWorld

open Cachetools

variable {w : CacheWorld}

theorem not_isAllowedStart_of_busy (hbusy : w.Busy key) (hkept : w.Keeps key) :
    isAllowedStart (w.get? key) = false := by
  obtain ⟨e, he, hstatus⟩ := hbusy
  rw [get?, w.reflects.get? he hkept]
  simpa [isBusy, isAllowedStart] using hstatus

theorem isAllowedStart_of_not_keeps (h : ¬ w.Keeps key) : isAllowedStart (w.get? key) = true := by
  rw [get?, w.reflects.get?_eq_none h]
  rfl

theorem busy_write_self {entry : Progress} (h : isBusy entry.status = true) :
    (w.write key entry).Busy key :=
  ⟨_, lastWrite_cons_self _ _ _ _, h⟩

theorem busy_write_of_ne {k : CacheKey} (entry : Progress) (hne : k ≠ key) (h : w.Busy key) :
    (w.write k entry).Busy key := by
  obtain ⟨e, he, hstatus⟩ := h
  exact ⟨e, (lastWrite_cons_of_ne _ hne _ _).trans he, hstatus⟩

end CacheWorld

def cacheLock (env : BackendEnv) (key : CacheKey) : LockSystem (cacheSystem env) :=
  keyLock key (fun w => w.Busy key) (fun w => w.Keeps key)
    (by
      rintro w entry rfl hbusy hkept
      exact w.not_isAllowedStart_of_busy hbusy hkept)
    (by
      rintro w ⟨op, r⟩ h
      obtain ⟨status, hbusy, rfl | ⟨result, rfl⟩⟩ := exists_of_take h <;>
        exact CacheWorld.busy_write_self hbusy)
    (by
      rintro w ⟨op, r⟩ h hbusy
      cases op with
      | cacheSet k status =>
          refine CacheWorld.busy_write_of_ne _ ?_ hbusy
          rintro rfl
          exact h.elim (lockOp_write_ne (.inl rfl)).2 (lockOp_write_ne (.inl rfl)).1
      | cacheUpdate k status result =>
          refine CacheWorld.busy_write_of_ne _ ?_ hbusy
          rintro rfl
          exact h.elim (lockOp_write_ne (.inr ⟨result, rfl⟩)).2
            (lockOp_write_ne (.inr ⟨result, rfl⟩)).1
      | _ => exact hbusy)
    (by
      rintro w w' ⟨time, rfl⟩ h
      exact h)

theorem exclusive_of_entryKept (h : (cacheSystem env).Reaches (EntryKept key) initialPool s) :
    (cacheLock env key).Exclusive s := by
  refine ((cacheLock env key).exclusive h ?_ wp_of_starts (fun _ _ _ _ => trivial) rfl).2
  rintro s a hkept i ⟨op, entry⟩ rfl hask j hj
  obtain rfl := eq_cacheGet_of_ask hask
  exact hkept i entry rfl ⟨j, hj⟩

/-- While a host is checked or updated, no second run for it is let pass, as long as its
entry is kept; and a second call is let pass where the entry is gone. -/
theorem secondStart_refused_iff {host : HostsModel}
    (h : (cacheSystem env).Reaches (EntryKept (getHostCacheKey host)) initialPool s) :
    (∀ i j, Running (getHostCacheKey host) s i → Running (getHostCacheKey host) s j → i = j) ∧
      ∀ a s', (cacheSystem env).Step s a s' →
        (¬ SecondStart (getHostCacheKey host) s a ↔ EntryKept (getHostCacheKey host) s a) := by
  refine ⟨fun i j => (exclusive_of_entryKept h).unique i j,
    fun a s' hstep => ⟨fun hnot => ?_, fun hkept => ?_⟩⟩
  · rintro i entry rfl hrunning
    by_contra hgone
    have hrely : entry = s.world.get? (getHostCacheKey host) := by
      cases hstep with
      | event _ _ hrely => exact hrely
    exact hnot ⟨i, entry, rfl, hrely ▸ CacheWorld.isAllowedStart_of_not_keeps hgone, hrunning⟩
  · rintro ⟨i, entry, rfl, hpass, j, hj⟩
    have hrely : entry = s.world.get? (getHostCacheKey host) := by
      cases hstep with
      | event _ _ hrely => exact hrely
    have hrefused := CacheWorld.not_isAllowedStart_of_busy ((exclusive_of_entryKept h).busy j hj)
      (hkept i entry rfl ⟨j, hj⟩)
    rw [hrely, hrefused] at hpass
    cases hpass

/-! ## A check of ten containers -/

/-- A container of an image that was built on the host. -/
def jobContainer (c : Char) : ContainerInspectResult where
  name := String.ofList ['j', 'o', 'b', c]
  config := some { image := some "job" }
  name_nonblank := by
    have hj : isSpace 'j' = false := by decide
    simp [isBlank, hj]

def jobHost : HostsModel := { id := 1, name := "jobs" }

def jobContainers : HostContainers where
  list := ['0', '1', '2', '3', '4', '5', '6', '7', '8', '9'].map jobContainer
  nodup := by decide

def jobEnv : BackendEnv := { allowHooks := false, ord := .ascending _, planFuel := 0 }

/-- The answers to a check of the host; its images have no digests. -/
def jobReply (w : CacheWorld) : (op : BackendOp) → Option op.Ans
  | .cacheGet key => some (w.get? key)
  | .cacheSet _ _ | .cacheUpdate _ _ _ | .schedule => some ()
  | .settings => some
      { registryReqDelay := 0, pullBeforeCheck := false, updateOnlyRunning := false,
        delayUpdateFor := 0 }
  | .selectHost _ => some (.ok jobHost)
  | .containerList _ => some (.ok jobContainers)
  | .selectHostContainers _ => some (.ok [])
  | .agent _ _ (.imageInspect _) => some (.ok {})
  | .close => some (.ok ())
  | _ => none

theorem rely_jobReply (w : CacheWorld) (op : BackendOp) (r : op.Ans) (h : jobReply w op = some r) :
    cacheContract.rely w ⟨op, r⟩ := by
  cases op with
  | cacheGet key => exact (Option.some.inj h).symm
  | _ => trivial

def jobCheck : Turn Backend (Except Exn Unit × Unit) TaskView CacheWorld :=
  .start ((Start.checkHost 1).program jobEnv ()) { byHost := false }

theorem permits_jobCheck : (cacheSystem jobEnv).Permits jobCheck :=
  ⟨.checkHost 1, rfl, rfl⟩

/-- The task asks for the entry next, and the cache lets it pass. -/
def letsPass (key : CacheKey) (s : CachePool) (i : ℕ) : Bool :=
  match s.tasks[i]? with
  | some (.call (.cacheGet k) _, _) =>
      k = key && isAllowedStart (s.world.get? key) && s.active.all (· == i)
  | _ => false

def isRunning (key : CacheKey) (s : CachePool) (i : ℕ) : Bool :=
  s.tasks[i]?.any fun t => t.2.lock key = .held

theorem running_of_isRunning {i : ℕ} (h : isRunning key s i = true) : Running key s i := by
  obtain ⟨⟨p, v⟩, hget, hheld⟩ := (Option.any_eq_true _ _).1 h
  exact ⟨p, v, hget, by simpa using hheld⟩

theorem exists_secondStart {i j : ℕ} (hi : letsPass key s i = true)
    (hj : isRunning key s j = true) :
    ∃ a s', (cacheSystem env).Step s a s' ∧ SecondStart key s a := by
  unfold letsPass at hi
  split at hi
  · rename_i k cont v hget
    simp only [Bool.and_eq_true, decide_eq_true_eq] at hi
    obtain ⟨⟨rfl, hpass⟩, hactive⟩ := hi
    refine ⟨_, _, .event hget (fun j hj => ?_) rfl, i, _, rfl, hpass, j, running_of_isRunning hj⟩
    simpa [hj] using hactive
  · cases hi

theorem reaches_jobCheck {ok : CachePool → Bool} {cond : CachePool → Move Backend → Prop}
    (hok : ∀ s a, ok s = true → cond s a) (m n : ℕ)
    (h : (cacheSystem jobEnv).runTurns jobReply ok initialPool
      (jobCheck :: List.replicate m (.step 0) ++ jobCheck :: List.replicate n (.step 1)) = some s) :
    (cacheSystem jobEnv).Reaches cond initialPool s := by
  refine System.reaches_of_runTurns rely_jobReply hok (fun t ht => ?_) .refl h
  simp only [List.mem_cons, List.mem_append, List.mem_replicate] at ht
  rcases ht with (rfl | ⟨-, rfl⟩) | rfl | ⟨-, rfl⟩
  · exact permits_jobCheck
  · trivial
  · exact permits_jobCheck
  · trivial

/-- When the tenth container is checked, the entry of the host is evicted. -/
theorem second_check_of_ten_containers :
    ¬ ∀ (env : BackendEnv) (host : HostsModel) (s s' : CachePool) (a : Move Backend),
      (cacheSystem env).Reaches (fun _ _ => True) initialPool s → (cacheSystem env).Step s a s' →
        ¬ SecondStart (getHostCacheKey host) s a := by
  intro hclaim
  have hrun : ((cacheSystem jobEnv).runTurns jobReply (fun _ => true) initialPool
      (jobCheck :: List.replicate 65 (.step 0) ++ jobCheck :: List.replicate 2 (.step 1))).any
      (fun s => letsPass (getHostCacheKey jobHost) s 1 && isRunning (getHostCacheKey jobHost) s 0) =
        true := by
    decide +kernel
  obtain ⟨s, hs, hboth⟩ := (Option.any_eq_true _ _).1 hrun
  obtain ⟨hpass, hrunning⟩ := Bool.and_eq_true_iff.1 hboth
  have hstarts : ∃ a s', (cacheSystem jobEnv).Step s a s' ∧
      SecondStart (getHostCacheKey jobHost) s a := exists_secondStart hpass hrunning
  obtain ⟨a, s', hstep, hsecond⟩ := hstarts
  exact hclaim jobEnv jobHost s s' a (reaches_jobCheck (fun _ _ _ => trivial) 65 2 hs) hstep hsecond

/-- The host is being checked, and a second request has arrived. -/
def jobPool : CachePool :=
  ((cacheSystem jobEnv).runTurns jobReply (fun s => s.world.Keeps (getHostCacheKey jobHost))
    initialPool (jobCheck :: List.replicate 4 (.step 0) ++
      jobCheck :: List.replicate 2 (.step 1))).get (by decide +kernel)

theorem secondStart_refused_iff_job :
    Running (getHostCacheKey jobHost) jobPool 0 ∧
    (∀ i j, Running (getHostCacheKey jobHost) jobPool i →
      Running (getHostCacheKey jobHost) jobPool j → i = j) ∧
    ∀ a s', (cacheSystem jobEnv).Step jobPool a s' →
      (¬ SecondStart (getHostCacheKey jobHost) jobPool a ↔
        EntryKept (getHostCacheKey jobHost) jobPool a) :=
  ⟨running_of_isRunning (by decide +kernel), secondStart_refused_iff
    (reaches_jobCheck (fun _ _ hs _ _ _ _ => of_decide_eq_true hs) 4 2 (Option.some_get _).symm)⟩

end Tugtainer
