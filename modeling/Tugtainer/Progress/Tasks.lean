import Tugtainer.Cache.Ttl
import Tugtainer.Progress.Actions

/-!
# The tasks that share the progress cache

The tasks of the backend are started by the requests of users and by the two jobs of the
scheduler. All of them keep to the protocol of the cache (`tasks_keep_protocol`), so each
key of the cache is a lock of them (`keyLock`), as far as the world keeps what is written
to it.

`CacheWorld` is the cache as it is, with its size and its time to live.
-/

namespace Tugtainer

open Python Interaction Act

/-- What starts a task: a request of a user, or a job of the scheduler. -/
inductive Start where
  | checkAll (manual : Bool)
  | checkHost (hostId : Int)
  | checkContainer (hostId : Int) (name : String)
  | updateAll
  | updateHost (hostId : Int)
  | updateContainer (hostId : Int) (name : String)
  deriving DecidableEq, Repr

namespace Start

def program (env : BackendEnv) : Start → BackendM Unit Unit
  | .checkAll manual => checkAllContainers manual
  | .checkHost hostId => Tugtainer.checkHost hostId
  | .checkContainer hostId name => checkContainerRequest hostId name
  | .updateAll => updateAllContainers env
  | .updateHost hostId => Tugtainer.updateHost env hostId
  | .updateContainer hostId name => Tugtainer.updateContainer env hostId name

def byHost : Start → Bool
  | .updateAll | .updateHost _ => true
  | _ => false

/-- Every task keeps to the protocol. One that raises may have left the entry of a plan. -/
theorem triple_program (env : BackendEnv) (start : Start) :
    Triple taskContract (Holding start.byHost ∅) (start.program env) (Holding start.byHost ∅)
      (Holds start.byHost ∅) := by
  have hnone {key : CacheKey} : key ∉ (∅ : Set CacheKey) := Set.notMem_empty _
  have hholds {σ α : Type} {byHost : Bool} {x : BackendM σ α}
      (h : Triple taskContract (Holding byHost ∅) x (Holding byHost ∅) (Holding byHost ∅)) :
      Triple taskContract (Holding byHost ∅) x (Holding byHost ∅) (Holds byHost ∅) :=
    h.mono (fun _ h => h) (fun _ h => h) fun _ h => h.toHolds
  have hquiet {byHost : Bool} {α : Type} {x : BackendM Unit α} (hx : Issues BackendOp.Quiet x) :
      Triple taskContract (Holding byHost ∅) x (Holding byHost ∅) (Holds byHost ∅) :=
    hholds (triple_quiet hx)
  cases start with
  | checkAll manual => exact hholds (triple_checkAllContainers manual)
  | updateAll => exact hholds (triple_updateAllContainers env)
  | checkHost hostId =>
      refine .bind (hquiet (quiet_getEnabledHost hostId)) fun host => ?_
      refine .bind (hquiet (issues_perform trivial)) fun _ => ?_
      exact .bind (hholds (triple_checkHostContainers hnone (fun _ => hnone) true)) fun _ =>
        .pure _ fun _ h => h
  | checkContainer hostId name =>
      refine .bind (hquiet (quiet_getEnabledHost hostId)) fun host => ?_
      refine .bind (hquiet (quiet_request _ _)) fun container => ?_
      refine .bind (hquiet (issues_perform trivial)) fun _ => ?_
      exact .bind (hholds (triple_checkOneContainer hnone)) fun _ => .pure _ fun _ h => h
  | updateHost hostId =>
      refine .bind (hquiet (quiet_getEnabledHost hostId)) fun host => ?_
      refine .bind (hquiet (issues_perform trivial)) fun _ => ?_
      exact .bind (hholds (triple_updateHostContainers env hnone true)) fun _ =>
        .pure _ fun _ h => h
  | updateContainer hostId name =>
      refine .bind (hquiet (quiet_getEnabledHost hostId)) fun host => ?_
      refine .bind (hquiet (quiet_request _ _)) fun present => .ite ?_ (hquiet (issues_throw _))
      refine .bind (hquiet (quiet_request _ _)) fun container => ?_
      refine .bind (hquiet (issues_performE trivial)) fun containers => ?_
      refine .bind (hquiet (quiet_buildPlan _ _ _ _)) fun plan => ?_
      refine .bind (hquiet (quiet_dockerVersionOf _)) fun dockerVersion => ?_
      refine .bind (hquiet (issues_perform trivial)) fun _ => ?_
      exact .bind (triple_execute env containers dockerVersion fun h => nomatch h) fun _ =>
        .pure _ fun _ h => h

end Start

/-! ## The tasks over a world -/

section

variable {W : Type} (env : BackendEnv) (world : Contract Backend W) (changes : W → W → Prop)

/-- The tasks of the backend over a world that answers them and changes by itself. -/
def taskSystem : System Backend (Except Exn Unit × Unit) TaskView W where
  awaited := BackendOp.isAwaited
  world := world
  view := taskContract
  starts p v := ∃ start : Start, p = start.program env () ∧ v = { byHost := start.byHost }
  env := changes

variable {env world changes}

theorem holding_start (byHost : Bool) : Holding byHost ∅ { byHost := byHost } where
  byHost := rfl
  held _ _ := iff_of_false (fun h => nomatch h) (Set.notMem_empty _)
  executing := rfl

theorem wp_of_starts (p : Prog Backend (Except Exn Unit × Unit)) (v : TaskView)
    (h : (taskSystem env world changes).starts p v) :
    p.wp taskContract (fun _ _ => True) v := by
  obtain ⟨start, rfl, rfl⟩ := h
  exact Prog.wp_mono (start.triple_program env () _ (holding_start _)) fun _ _ _ => trivial

/-- A key of the cache is a lock, in a world that keeps what is written to it. -/
def keyLock (key : CacheKey) (busy kept : W → Prop)
    (hrefuse : ∀ w entry, world.rely w ⟨.cacheGet key, entry⟩ → busy w → kept w →
      isAllowedStart entry = false)
    (htake : ∀ w e, lockOp key e.op = .take → busy (world.next w e))
    (hother : ∀ w e, lockOp key e.op = .other ∨ lockOp key e.op = .ask → busy w →
      busy (world.next w e))
    (henv : ∀ w w', changes w w' → busy w → busy w') :
    LockSystem (taskSystem env world changes) where
  lock v := v.lock key
  op := lockOp key
  pass := lockPass
  busy := busy
  kept := kept
  next _ _ _ _ := rfl
  guar _ _ h := h.1 key
  starts _ _ := by
    rintro ⟨start, -, rfl⟩
    rfl
  ask_awaited o h := by
    obtain rfl := eq_cacheGet_of_ask h
    rfl
  take_awaited o h := by
    obtain ⟨status, -, rfl | ⟨result, rfl⟩⟩ := exists_of_take h <;> rfl
  refuse w e hrely hask hbusy hkept := by
    obtain ⟨op, entry⟩ := e
    obtain rfl := eq_cacheGet_of_ask hask
    exact hrefuse w entry hrely hbusy hkept
  busy_take w e _ h := htake w e h
  busy_other w e _ h hbusy := hother w e h.symm hbusy
  busy_env := henv

end

/-! ## The cache as it is -/

/-- `_CACHE = TTLCache(maxsize=10, ttl=600)`, in microseconds. -/
def cacheSize : ℕ := 10

@[inherit_doc cacheSize]
def cacheTtl : ℕ := 600 * 1000000

/-- The cache, the clock, and everything that was written, the last write first. -/
structure CacheWorld where
  clock : ℕ
  log : List (Cachetools.Entry CacheKey Progress)
  cache : Cachetools.TTLCache CacheKey Progress
  reflects : Cachetools.Reflects cacheSize cacheTtl clock log cache

namespace CacheWorld

open Cachetools

def empty : CacheWorld := ⟨0, [], [], reflects_nil⟩

variable (w : CacheWorld) (key : CacheKey)

def get? : Option Progress := w.cache.get? cacheTtl w.clock key

def write (entry : Progress) : CacheWorld where
  clock := w.clock
  log := ⟨key, entry, w.clock⟩ :: w.log
  cache := w.cache.set cacheSize cacheTtl w.clock key entry
  reflects := w.reflects.set (by decide) key entry

def wait (time : ℕ) : CacheWorld where
  clock := w.clock + time
  log := w.log
  cache := w.cache
  reflects := w.reflects.mono (Nat.le_add_right _ _)

/-- What was written last says that the action is running. -/
def Busy : Prop := ∃ e, lastWrite w.log key = some e ∧ isBusy e.value.status = true

/-- The entry has neither been evicted nor expired. -/
def Keeps : Prop := Kept cacheSize cacheTtl w.clock w.log key

instance : Decidable (w.Keeps key) := inferInstanceAs (Decidable (Kept _ _ _ _ _))

end CacheWorld

/-- The cache answers and is written. Every other answer is possible. -/
def cacheContract : Contract Backend CacheWorld where
  next w e := match e.op with
    | .cacheSet key status => w.write key { status := status }
    | .cacheUpdate key status result => w.write key (.update (w.get? key) status result)
    | _ => w
  rely w e := match e with
    | ⟨.cacheGet key, entry⟩ => entry = w.get? key
    | _ => True
  guar _ _ := True

/-- The tasks over the cache as it is, while time passes. -/
def cacheSystem (env : BackendEnv) : System Backend (Except Exn Unit × Unit) TaskView CacheWorld :=
  taskSystem env cacheContract fun w w' => ∃ time, w' = w.wait time

end Tugtainer
