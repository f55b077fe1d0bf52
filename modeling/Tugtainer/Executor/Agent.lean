import Tugtainer.Executor.Schema
import Tugtainer.Interaction.History

/-!
# What the executor talks to

The operations of the executor: the requests to the agent of the host, the
queries of the database, the progress cache, the clock and the log. A request
carries the part of the executor that makes it, which the agent does not see,
and of the log only those lines are kept that a property refers to.

An awaited call may raise. It may have been carried out all the same, as when
the agent answers too late, so a `Reply` that raised keeps the answer that got
lost. Replies that are only logged are units.
-/

namespace Tugtainer

open Python Interaction

/-- The parts of the executor. -/
inductive Site where
  /-- the preparation of the updatable containers -/
  | prepare
  /-- the loop that stops the containers -/
  | stop
  /-- `_attempt_start_with_health` -/
  | start
  /-- the update of a container, up to its new container being healthy -/
  | recreate
  /-- the cleanup after an update error -/
  | cleanup
  | rollBack
  /-- `wait_for_container_healthy` -/
  | healthWait
  deriving DecidableEq, Repr

inductive Request where
  | imageInspect (specOrId : String)
  | imagePull (image : String)
  | imageTag (specOrId tag : String)
  | containerExists (nameOrId : String)
  | containerInspect (nameOrId : String)
  | containerCreate (body : CreateContainerRequestBodySchema)
  | containerStart (nameOrId : String)
  | containerStop (nameOrId : String)
  | containerRemove (nameOrId : String)
  | containerExec (nameOrId command : String)
  | networkDisconnect (network container : String) (force : Bool)
  | commandRun (command : List String)
  deriving DecidableEq

@[reducible] def Request.Result : Request → Type
  | .imageInspect _ | .imagePull _ => ImageInspectResult
  | .containerExists _ => Bool
  | .containerInspect _ | .containerCreate _ => ContainerInspectResult
  | .imageTag _ _ | .containerStart _ | .containerStop _ | .containerRemove _
  | .containerExec _ _ | .networkDisconnect _ _ _ | .commandRun _ => Unit

/-- The lines of the log that properties refer to, with the container each of
them is about. `hooks` and `waited` are no lines of the source: they mark, for the
properties alone, where `run_hooks` is called and what a wait for health has found. -/
inductive LogLine where
  /-- `Failed to get local image for …` -/
  | failedLocalImage (name : String)
  /-- `Failed to pull image for …` -/
  | failedPull (name : String)
  /-- `Failed to get config for …` -/
  | failedConfig (name : String)
  /-- `run_hooks` is called, whether the hook has commands or not -/
  | hooks (name : String) (hook : HookName)
  /-- `Skipping stop of … due to pre_stop/pre_update hook failure` -/
  | skippingStop (name : String)
  /-- `Starting update of …` -/
  | startingUpdate (name : String)
  /-- whether the container was healthy when the wait for it ended -/
  | waited (name : String) (healthy : Bool)
  /-- `Tagging previous image of …` -/
  | rollingBack (name : String)
  deriving DecidableEq, Repr

/-- The operations of the executor. -/
inductive Op where
  | agent (site : Site) (request : Request)
  | progressGet (key : PlanCacheKey)
  | progressSet (key : PlanCacheKey) (status : ActionStatus)
  | progressUpdate (key : PlanCacheKey) (status : ActionStatus)
      (result : Option UpdatePlanResult)
  | getHooksMap (hostId : Int) (names : List String)
  | updateContainersData (result : UpdatePlanResult)
  /-- `sleep(seconds)` -/
  | sleep (seconds : ℕ)
  /-- `sleep(jitter(seconds))` -/
  | sleepAbout (seconds : Int)
  | log (line : LogLine)

/-- The outcome of an awaited call. -/
inductive Reply (α : Type) where
  | ok (a : α)
  | raised (lost : Option α)

def Reply.read {α : Type} : Reply α → Except Exn α
  | .ok a => .ok a
  | .raised _ => .error .call

/-- The answer of a call that was carried out, whether it arrived or not. -/
def Reply.effect {α : Type} : Reply α → Option α
  | .ok a => some a
  | .raised lost => lost

/-- What an operation is answered. After `sleep` the clock of the health wait has
advanced by the seconds given and by the milliseconds answered. -/
def Op.Ans : Op → Type
  | .agent _ request => Reply request.Result
  | .progressGet _ => Option ActionStatus
  | .getHooksMap _ _ => Reply (Dict String ContainerHooks)
  | .updateContainersData _ => Reply Unit
  | .sleep _ => ℕ
  | .progressSet _ _ | .progressUpdate _ _ _ | .sleepAbout _ | .log _ => Unit

/-- The interface of the executor. -/
@[reducible] def Agent : Interface where
  Op := Op
  Ans := Op.Ans

/-- An action on one item, or on the part of the state that `σ` stands for. -/
abbrev AgentM (σ α : Type) := Act Agent Exn σ α

variable {σ : Type}

/-- An awaited request to the agent. -/
def call (site : Site) (request : Request) : AgentM σ request.Result :=
  Act.performE (I := Agent) (.agent site request) Reply.read

/-- A line of the log. -/
def log (line : LogLine) : AgentM σ Unit :=
  Act.perform (I := Agent) (.log line)

/-- A request and its outcome. -/
abbrev answered (site : Site) (request : Request) (reply : Reply request.Result) :
    Event Agent :=
  ⟨.agent site request, reply⟩

end Tugtainer
