import Tugtainer.Executor.Execute
import Tugtainer.Interaction.Interpret

/-!
# What the backend talks to

The operations of the functions that check and update hosts: the progress cache, the
settings, the clock and the log, which answer at once, and the agents, the registries,
the database and the event loop, which are awaited (`BackendOp.isAwaited`).

The keys of the cache are strings in the source. They have four different shapes, and
as Docker's names have neither `:` nor `[`, keys of different shapes differ.
-/

namespace Tugtainer

open Python Interaction

structure HostActionResult where
  hostId : Int
  hostName : String
  items : List ContainerActionResult := []
  pruneResult : Option String := none
  deriving DecidableEq

inductive CacheKey where
  /-- `ALL_CONTAINERS_STATUS_KEY` -/
  | all
  | host (id : Int) (name : String)
  | plan (key : PlanCacheKey)
  | container (hostId : Int) (hostName name : String)
  deriving DecidableEq, Repr

def getHostCacheKey (host : HostsModel) : CacheKey :=
  .host host.id host.name

def getContainerCacheKey (host : HostsModel) (container : ContainerInspectResult) : CacheKey :=
  .container host.id host.name container.name

/-- The `result` of an entry of the cache, by the kind of action. -/
inductive ActionResult where
  | container (result : ContainerActionResult)
  | plan (result : UpdatePlanResult)
  | host (result : HostActionResult)
  | all (results : Dict Int HostActionResult)
  deriving DecidableEq

/-- An entry of the progress cache. -/
structure Progress where
  status : ActionStatus
  result : Option ActionResult := none
  deriving DecidableEq

/-- `{**current, **data}`. -/
def Progress.update (current : Option Progress) (status : ActionStatus)
    (result : Option ActionResult) : Progress where
  status := status
  result := result.or (current.bind Progress.result)

/-- The settings that checks and updates read. -/
structure Settings where
  registryReqDelay : Int
  pullBeforeCheck : Bool
  updateOnlyRunning : Bool
  delayUpdateFor : Int
  deriving DecidableEq, Repr

/-- The lines of the log that properties refer to. -/
inductive BackendLog where
  | executor (line : LogLine)
  /-- the plan that `execute_update_plan` is called for -/
  | plan (host : HostsModel) (plan : UpdatePlan)
  deriving DecidableEq

inductive BackendOp where
  | cacheGet (key : CacheKey)
  | cacheSet (key : CacheKey) (status : ActionStatus)
  | cacheUpdate (key : CacheKey) (status : ActionStatus) (result : Option ActionResult)
  | settings
  | now
  | log (line : BackendLog)
  /-- a request to the agent of a host, from a part of the executor or from elsewhere -/
  | agent (hostId : Int) (site : Option Site) (request : Request)
  | containerList (hostId : Int)
  | version (hostId : Int)
  | imagePrune (hostId : Int) (all : Bool)
  /-- `get_image_remote_digest` -/
  | remoteDigest (spec localDigest : String)
  | selectHost (hostId : Int)
  | selectEnabledHosts
  | selectHostContainers (hostId : Int)
  | selectContainer (hostId : Int) (name : String)
  | selectContainers (hostId : Int) (names : List String)
  /-- the `UPDATE` statements of a commit, by container name -/
  | commit (hostId : Int) (changes : List (String × ContainerData))
  /-- the `INSERT` statement of a commit -/
  | insert (hostId : Int) (name : String) (data : ContainerData)
  | refresh (hostId : Int) (name : String)
  /-- the end of a session -/
  | close
  | getHooksMap (hostId : Int) (names : List String)
  | sleep (seconds : ℕ)
  /-- `sleep(jitter(seconds))` -/
  | sleepAbout (seconds : Int)
  /-- `send_check_notification` -/
  | notify (results : List HostActionResult)
  /-- the event loop starts a task that was created -/
  | schedule
  /-- a computation that never ends -/
  | stuck

def BackendOp.Ans : BackendOp → Type
  | .cacheGet _ => Option Progress
  | .settings => Settings
  | .now => Int
  | .agent _ _ request => Reply request.Result
  | .containerList _ => Reply HostContainers
  | .version _ => Reply DockerVersion
  | .imagePrune _ _ => Reply String
  | .remoteDigest _ _ => Reply (Option String)
  | .selectHost _ => Reply HostsModel
  | .selectEnabledHosts => Reply (List HostsModel)
  | .selectHostContainers _ | .selectContainers _ _ => Reply (List ContainersModel)
  | .selectContainer _ _ => Reply (Option ContainersModel)
  | .refresh _ _ => Reply ContainersModel
  | .commit _ _ | .insert _ _ _ | .close | .notify _ => Reply Unit
  | .getHooksMap _ _ => Reply (Dict String ContainerHooks)
  | .sleep _ => ℕ
  | .stuck => Empty
  | .cacheSet _ _ | .cacheUpdate _ _ _ | .log _ | .sleepAbout _ | .schedule => Unit

/-- Whether the event loop may run another task before the operation is answered. -/
def BackendOp.isAwaited : BackendOp → Bool
  | .cacheGet _ | .cacheSet _ _ | .cacheUpdate _ _ _ | .settings | .now | .log _ | .stuck => false
  | _ => true

/-- The interface of the backend. -/
@[reducible] def Backend : Interface where
  Op := BackendOp
  Ans := BackendOp.Ans

/-- A function of the backend; its objects that change are the state `σ`. -/
abbrev BackendM (σ α : Type) := Act Backend Exn σ α

variable {σ : Type}

/-- `cache.get()`: the status of the entry, if there is one. -/
def cacheGet (key : CacheKey) : BackendM σ (Option Progress) :=
  Act.perform (I := Backend) (.cacheGet key)

/-- `cache.set({"status": status})`. -/
def cacheSet (key : CacheKey) (status : ActionStatus) : BackendM σ Unit :=
  Act.perform (I := Backend) (.cacheSet key status)

/-- `cache.update({"status": status, "result": result})`. -/
def cacheUpdate (key : CacheKey) (status : ActionStatus) (result : Option ActionResult := none) :
    BackendM σ Unit :=
  Act.perform (I := Backend) (.cacheUpdate key status result)

def getSettings : BackendM σ Settings :=
  Act.perform (I := Backend) .settings

/-- `now()`, in microseconds. -/
def now : BackendM σ Int :=
  Act.perform (I := Backend) .now

/-- `await asyncio.sleep(jitter(seconds))`. -/
def sleepAbout (seconds : Int) : BackendM σ Unit :=
  Act.perform (I := Backend) (.sleepAbout seconds)

/-- An awaited request of a check to the agent. -/
def request (hostId : Int) (request : Request) : BackendM σ request.Result :=
  Act.performE (I := Backend) (.agent hostId none request) Reply.read

def isAllowedStart (entry : Option Progress) : Bool :=
  isAllowedStartCache (entry.map Progress.status)

/-- `async with async_session_maker() as session: x`. -/
def withSession {α : Type} (x : BackendM σ α) : BackendM σ α := fun s =>
  (x s).bind fun r => Prog.call (I := Backend) .close fun reply =>
    match Reply.read reply with
    | .ok _ => .ret r
    | .error e => .ret (.error e, r.2)

def withObjects {τ α : Type} (s : σ) (x : BackendM σ α) : BackendM τ α :=
  Act.zoom (fun _ => s) (fun _ t => t) x

variable {W α τ : Type} {C : Contract Backend W} {Q : α → σ → W → Prop} {E : Exn → σ → W → Prop}
  {s : σ} {w : W}

@[simp] theorem wp_withSession (x : BackendM σ α) :
    Act.wp C (withSession x) Q E s w ↔
      Act.wp C x
        (fun a s' w' => C.guar w' .close ∧ ∀ reply : Reply Unit, C.rely w' ⟨.close, reply⟩ →
          match reply with
          | .ok _ => Q a s' (C.next w' ⟨.close, reply⟩)
          | .raised _ => E .call s' (C.next w' ⟨.close, reply⟩))
        (fun e s' w' => C.guar w' .close ∧ ∀ reply : Reply Unit, C.rely w' ⟨.close, reply⟩ →
          match reply with
          | .ok _ => E e s' (C.next w' ⟨.close, reply⟩)
          | .raised _ => E .call s' (C.next w' ⟨.close, reply⟩)) s w := by
  refine (Prog.wp_bind _ _ _ _).trans ?_
  constructor <;> intro h <;> refine Prog.wp_mono h ?_ <;>
    rintro ⟨_ | _, _⟩ w' ⟨hguar, h'⟩ <;> refine ⟨hguar, fun reply hrely => ?_⟩ <;>
    have := h' reply hrely <;> cases reply <;> exact this

@[simp] theorem wp_withObjects (s : σ) (x : BackendM σ α) {Q : α → τ → W → Prop}
    {E : Exn → τ → W → Prop} {t : τ} :
    Act.wp C (withObjects s x) Q E t w ↔
      Act.wp C x (fun a _ w' => Q a t w') (fun e _ w' => E e t w') s w :=
  Act.wp_zoom _ _ _

end Tugtainer
