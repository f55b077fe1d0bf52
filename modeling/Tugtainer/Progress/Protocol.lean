import Tugtainer.Backend.Quiet
import Tugtainer.Interaction.Lock
import Tugtainer.Interaction.Triple

/-!
# The protocol of the progress cache

The progress cache is also the lock of the actions: an action asks whether its entry
says busy, writes it, and writes `DONE` or `ERROR` in the end. A `TaskView` is what one
task has done with the entries, and `taskContract` is the discipline it keeps: an entry
is written only right after it was asked for or while it is held, and an execution is
begun for the plan that was announced.

`Holding` says which entries a task holds, apart from those of plans. Every function
leaves them as they were, whether it returns or raises.
-/

namespace Tugtainer

open Python Interaction Act

def isBusy (status : ActionStatus) : Bool :=
  !isAllowedStartCache (some status)

/-- What an operation does with the entry of that key. -/
def lockOp (key : CacheKey) : BackendOp → LockOp
  | .cacheGet k => if k = key then .ask else .other
  | .cacheSet k status | .cacheUpdate k status _ =>
      if k = key then if isBusy status then .take else .free else .other
  | _ => .other

theorem eq_cacheGet_of_ask {key : CacheKey} {op : BackendOp} (h : lockOp key op = .ask) :
    op = .cacheGet key := by
  cases op with
  | cacheGet k =>
      simp only [lockOp] at h
      split at h
      · rename_i hkey
        rw [hkey]
      · cases h
  | cacheSet k status | cacheUpdate k status result =>
      simp only [lockOp] at h
      split at h
      · split at h <;> cases h
      · cases h
  | _ => cases h

theorem exists_of_take {key : CacheKey} {op : BackendOp} (h : lockOp key op = .take) :
    ∃ status, isBusy status = true ∧
      (op = .cacheSet key status ∨ ∃ result, op = .cacheUpdate key status result) := by
  cases op with
  | cacheGet k =>
      simp only [lockOp] at h
      split at h <;> cases h
  | cacheSet k status | cacheUpdate k status result =>
      simp only [lockOp] at h
      split at h
      · rename_i hkey
        subst hkey
        split at h
        · rename_i hbusy
          exact ⟨status, hbusy, by simp⟩
        · cases h
      · cases h
  | _ => cases h

theorem lockOp_write_ne {key : CacheKey} {op : BackendOp} {status : ActionStatus}
    (hop : op = .cacheSet key status ∨ ∃ result, op = .cacheUpdate key status result) :
    lockOp key op ≠ .ask ∧ lockOp key op ≠ .other := by
  rcases hop with rfl | ⟨result, rfl⟩ <;>
  · simp only [lockOp, if_pos]
    split <;> simp

def lockPass : Event Backend → Bool
  | ⟨.cacheGet _, entry⟩ => isAllowedStart entry
  | _ => false

abbrev HostPlan := HostsModel × UpdatePlan

/-- What a task has done with the entries: how far it is with each, the plan it was last
called to execute, and the one it is executing. Whether it runs
`update_host_containers` does not change. -/
structure TaskView where
  byHost : Bool
  lock : CacheKey → Lock := fun _ => .idle
  plan : Option HostPlan := none
  executing : Option HostPlan := none

namespace TaskView

def nextPlan (v : TaskView) : BackendOp → Option HostPlan
  | .log (.plan host plan) => some (host, plan)
  | _ => v.plan

/-- An execution begins when the entry of the plan is set. It is over when that entry is
free again, when it was given up and the host's is, or when another one is called. -/
def nextExecuting (v : TaskView) : BackendOp → Option HostPlan
  | .cacheSet (.plan _) status => if isBusy status then v.plan else none
  | .cacheSet (.host _ _) status | .cacheUpdate (.plan _) status _
  | .cacheUpdate (.host _ _) status _ => if isBusy status then v.executing else none
  | .log (.plan _ _) => none
  | _ => v.executing

def next (v : TaskView) (e : Event Backend) : TaskView where
  byHost := v.byHost
  lock key := (v.lock key).next (lockOp key e.op) (lockPass e)
  plan := v.nextPlan e.op
  executing := v.nextExecuting e.op

def MayExecute (v : TaskView) : BackendOp → Prop
  | .cacheGet _ => v.executing = none
  | .cacheSet (.plan key) _ => ∃ host plan, v.plan = some (host, plan) ∧
      key = getPlanCacheKey host plan ∧
      (v.byHost = true → v.lock (getHostCacheKey host) = .held)
  | _ => True

end TaskView

def taskContract : Contract Backend TaskView where
  next := TaskView.next
  rely _ _ := True
  guar v op := (∀ key, (v.lock key).Allows (lockOp key op)) ∧ v.MayExecute op

def CacheKey.IsPlan : CacheKey → Prop
  | .plan _ => True
  | _ => False

theorem not_isPlan_all : ¬ CacheKey.all.IsPlan := fun h => h

theorem not_isPlan_host (host : HostsModel) : ¬ (getHostCacheKey host).IsPlan := fun h => h

theorem not_isPlan_container (host : HostsModel) (container : ContainerInspectResult) :
    ¬ (getContainerCacheKey host container).IsPlan :=
  fun h => h

/-- The entries that the task holds, apart from those of plans. -/
structure Holds (byHost : Bool) (H : Set CacheKey) (v : TaskView) : Prop where
  byHost : v.byHost = byHost
  held : ∀ key, ¬ key.IsPlan → (v.lock key = .held ↔ key ∈ H)

/-- The task holds those entries and executes no plan. -/
structure Holding (byHost : Bool) (H : Set CacheKey) (v : TaskView) : Prop
    extends Holds byHost H v where
  executing : v.executing = none

section

variable {byHost : Bool} {H : Set CacheKey} {v : TaskView} {key : CacheKey} {op : BackendOp}
  {status : ActionStatus}

/-- An operation that neither asks nor writes leaves the locks to lapse. -/
def Plain : BackendOp → Prop
  | .cacheGet _ | .cacheSet _ _ | .cacheUpdate _ _ _ => False
  | _ => True

theorem lockOp_of_plain (h : Plain op) (key : CacheKey) : lockOp key op = .other := by
  cases op <;> first | rfl | cases h

theorem guar_of_plain (h : Plain op) : taskContract.guar v op := by
  refine ⟨fun key => ?_, ?_⟩
  · rw [lockOp_of_plain h]
    exact ⟨by simp, by simp⟩
  · cases op <;> trivial

theorem held_next_of_other {e : Event Backend} (h : lockOp key e.op = .other) :
    (taskContract.next v e).lock key = .held ↔ v.lock key = .held := by
  change (v.lock key).next (lockOp key e.op) (lockPass e) = .held ↔ _
  rw [h]
  exact Lock.lapse_eq_held

/-- What does not touch the entries, but for those of plans, keeps what is held. -/
theorem Holds.next {e : Event Backend} (h : Holds byHost H v)
    (hop : ∀ key, ¬ key.IsPlan → lockOp key e.op = .other) :
    Holds byHost H (taskContract.next v e) where
  byHost := h.byHost
  held key hkey := (held_next_of_other (hop key hkey)).trans (h.held key hkey)

theorem Holds.plain {e : Event Backend} (h : Holds byHost H v) (hop : Plain e.op) :
    Holds byHost H (taskContract.next v e) :=
  h.next fun key _ => lockOp_of_plain hop key

theorem plain_of_quiet (h : op.Quiet) : Plain op := by
  cases op <;> trivial

theorem nextExecuting_of_quiet {e : Event Backend} (h : BackendOp.Quiet e.op) :
    (taskContract.next v e).executing = v.executing := by
  obtain ⟨op, r⟩ := e
  cases op with
  | cacheGet _ | cacheSet _ _ | cacheUpdate _ _ _ => exact (h : False).elim
  | log line =>
      cases line with
      | executor _ => rfl
      | plan _ _ => exact (h : False).elim
  | _ => rfl

theorem Holding.quiet {e : Event Backend} (h : Holding byHost H v) (hop : BackendOp.Quiet e.op) :
    Holding byHost H (taskContract.next v e) where
  toHolds := h.toHolds.plain (plain_of_quiet hop)
  executing := (nextExecuting_of_quiet hop).trans h.executing

theorem guar_of_quiet (h : op.Quiet) : taskContract.guar v op :=
  guar_of_plain (plain_of_quiet h)

end

/-! ## The rules for the entries -/

section

variable {σ α : Type} {byHost : Bool} {H : Set CacheKey} {key : CacheKey}
  {status : ActionStatus} {result : Option ActionResult} {Q R : TaskView → Prop}

theorem triple_quiet {x : BackendM σ α} (h : Issues BackendOp.Quiet x) :
    Triple taskContract (Holding byHost H) x (Holding byHost H) (Holding byHost H) :=
  .of_issues h (fun _ _ _ hop => guar_of_quiet hop) fun _ _ hv hop _ => hv.quiet hop

theorem Holding.ask {v : TaskView} (h : Holding byHost H v) (hnot : key ∉ H)
    (entry : Option Progress) :
    Holding byHost H (taskContract.next v ⟨.cacheGet key, entry⟩) := by
  refine ⟨⟨h.byHost, fun k hk => ?_⟩, h.executing⟩
  by_cases hsame : key = k
  · subst hsame
    change (v.lock key).next (lockOp key (.cacheGet key)) (isAllowedStart entry) = .held ↔ _
    rw [lockOp, if_pos rfl]
    refine iff_of_false (fun hheld => ?_) hnot
    rcases Lock.held_of_next hheld with htake | ⟨hheld, -⟩
    · cases htake
    · exact hnot ((h.held key hk).1 hheld)
  · exact (held_next_of_other (by simp [lockOp, hsame])).trans (h.held k hk)

theorem triple_start {x y : BackendM σ α} (hnot : key ∉ H)
    (hx : Triple taskContract (fun v => Holding byHost H v ∧ v.lock key = .granted) x Q R)
    (hy : Triple taskContract (Holding byHost H) y Q R) :
    Triple taskContract (Holding byHost H)
      (do
        let state ← cacheGet key
        if isAllowedStart state then x else y) Q R := by
  intro s v hv
  refine (wp_bind _ _).2 ⟨⟨fun k => ?_, hv.executing⟩, fun entry _ => ?_⟩
  · simp only [lockOp]
    split <;> exact ⟨by simp, by simp⟩
  change wp taskContract (if isAllowedStart entry then x else y) (fun _ _ => Q) (fun _ _ => R) s _
  have hask := hv.ask hnot entry
  split
  · rename_i hpass
    refine hx s _ ⟨hask, ?_⟩
    change (v.lock key).next (lockOp key (.cacheGet key)) (isAllowedStart entry) = .granted
    rw [lockOp, if_pos rfl, Lock.next_eq_granted]
    exact ⟨rfl, hpass⟩
  · exact hy s _ hask

theorem Holds.write {v : TaskView} {e : Event Backend} (status : ActionStatus)
    (h : Holds byHost H v)
    (hop : ∀ k, lockOp k e.op =
      if key = k then if isBusy status then .take else .free else .other) :
    Holds byHost (if isBusy status then insert key H else H \ {key}) (taskContract.next v e) where
  byHost := h.byHost
  held k hk := by
    by_cases hsame : key = k
    · subst hsame
      change (v.lock key).next (lockOp key e.op) (lockPass e) = .held ↔ _
      rw [hop, if_pos rfl]
      split <;> simp [Lock.next]
    · rw [held_next_of_other (by rw [hop, if_neg hsame]), h.held k hk]
      split <;> simp [Ne.symm hsame]

theorem allows_write {v : TaskView} (hlock : isBusy status = true → v.lock key ≠ .idle)
    (hfree : isBusy status = false → v.lock key = .held) {op : BackendOp}
    (hop : ∀ k, lockOp k op = if key = k then if isBusy status then .take else .free else .other)
    (k : CacheKey) : (v.lock k).Allows (lockOp k op) := by
  rw [hop]
  split
  · rename_i hsame
    subst hsame
    cases hbusy : isBusy status with
    | true => exact ⟨fun _ => hlock hbusy, by simp⟩
    | false => exact ⟨by simp, fun _ => hfree hbusy⟩
  · exact ⟨by simp, by simp⟩

theorem nextExecuting_of_write {v : TaskView} (result : Option ActionResult)
    (hkey : ¬ key.IsPlan) (h : v.executing = none) :
    v.nextExecuting (.cacheSet key status) = none ∧
      v.nextExecuting (.cacheUpdate key status result) = none := by
  cases key with
  | plan key => exact absurd trivial hkey
  | host id name => simp [TaskView.nextExecuting, h]
  | all => exact ⟨h, h⟩
  | container hostId hostName name => exact ⟨h, h⟩

theorem triple_set (hkey : ¬ key.IsPlan) (hbusy : isBusy status = true) :
    Triple (σ := σ) taskContract (fun v => Holding byHost H v ∧ v.lock key = .granted)
      (cacheSet key status) (Holding byHost (insert key H)) R := by
  rintro s v ⟨h, hgranted⟩
  refine ⟨⟨allows_write (by simp [hgranted]) (by simp [hbusy]) fun _ => rfl, ?_⟩, fun _ _ => ?_⟩
  · cases key <;> first | trivial | exact absurd trivial hkey
  · have hholds := h.toHolds.write (e := ⟨.cacheSet key status, ()⟩) status fun _ => rfl
    rw [if_pos hbusy] at hholds
    exact ⟨hholds, (nextExecuting_of_write none hkey h.executing).1⟩

theorem triple_update (hkey : ¬ key.IsPlan) (hheld : key ∈ H) (hbusy : isBusy status = true) :
    Triple (σ := σ) taskContract (Holding byHost H) (cacheUpdate key status result)
      (Holding byHost H) R := by
  intro s v h
  have hlock : v.lock key = .held := (h.held key hkey).2 hheld
  refine ⟨⟨allows_write (by simp [hlock]) (by simp [hbusy]) fun _ => rfl, trivial⟩, fun _ _ => ?_⟩
  have hholds := h.toHolds.write (e := ⟨.cacheUpdate key status result, ()⟩) status fun _ => rfl
  rw [if_pos hbusy, Set.insert_eq_of_mem hheld] at hholds
  exact ⟨hholds, (nextExecuting_of_write result hkey h.executing).2⟩

theorem Holds.free {v : TaskView} (result : Option ActionResult)
    (h : Holds byHost (insert key H) v) (hkey : ¬ key.IsPlan) (hnot : key ∉ H)
    (hfree : isBusy status = false) :
    taskContract.guar v (.cacheUpdate key status result) ∧
      Holds byHost H (taskContract.next v ⟨.cacheUpdate key status result, ()⟩) := by
  have hlock : v.lock key = .held := (h.held key hkey).2 (Set.mem_insert _ _)
  refine ⟨⟨allows_write (by simp [hfree]) (fun _ => hlock) fun _ => rfl, trivial⟩, ?_⟩
  have hholds := h.write (e := ⟨.cacheUpdate key status result, ()⟩) status fun _ => rfl
  rwa [if_neg (by simp [hfree]), Set.insert_sdiff_self_of_notMem hnot] at hholds

theorem triple_free (hkey : ¬ key.IsPlan) (hnot : key ∉ H) (hfree : isBusy status = false) :
    Triple (σ := σ) taskContract (Holding byHost (insert key H)) (cacheUpdate key status result)
      (Holding byHost H) R := by
  intro s v h
  obtain ⟨hguar, hholds⟩ := h.toHolds.free result hkey hnot hfree
  exact ⟨hguar, fun _ _ => ⟨hholds, (nextExecuting_of_write result hkey h.executing).2⟩⟩

theorem triple_freeHost {id : Int} {name : String} (hnot : CacheKey.host id name ∉ H)
    (hfree : isBusy status = false) :
    Triple (σ := σ) taskContract (Holds byHost (insert (.host id name) H))
      (cacheUpdate (.host id name) status result) (Holding byHost H) R := by
  intro s v h
  obtain ⟨hguar, hholds⟩ := h.free result (fun hplan => hplan) hnot hfree
  refine ⟨hguar, fun _ _ => ⟨hholds, ?_⟩⟩
  change (if isBusy status then v.executing else none) = none
  rw [if_neg (by simp [hfree])]

end

end Tugtainer
