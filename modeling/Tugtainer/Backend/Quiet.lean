import Tugtainer.Backend.Update
import Tugtainer.Executor.Quiet
import Tugtainer.Interaction.Triple

/-!
# What leaves the progress alone

The functions of the backend that neither read nor write the progress cache, nor begin
an execution.
-/

namespace Tugtainer

open Python Interaction Act

/-- Neither an operation of the cache nor the call of an execution. -/
def BackendOp.Quiet : BackendOp → Prop
  | .cacheGet _ | .cacheSet _ _ | .cacheUpdate _ _ _ | .log (.plan _ _) => False
  | _ => True

section

variable {σ : Type}

theorem quiet_request (hostId : Int) (req : Request) :
    Issues BackendOp.Quiet (request hostId req : BackendM σ req.Result) :=
  issues_performE trivial

theorem triple_withObjects {τ α W : Type} {C : Contract Backend W} {P Q R : W → Prop} {s : σ}
    {x : BackendM σ α} (h : Triple C P x Q R) :
    Triple C P (withObjects s x : BackendM τ α) Q R :=
  .zoom h

/-- A session is closed whether its body returns or raises, and closing it may raise. -/
theorem triple_withSession {α W : Type} {C : Contract Backend W} {P Q R Q' R' : W → Prop}
    {x : BackendM σ α} (h : Triple C P x Q R)
    (hok : ∀ w, Q w → C.guar w .close ∧ ∀ reply : Reply Unit, C.rely w ⟨.close, reply⟩ →
      match reply with
      | .ok _ => Q' (C.next w ⟨.close, reply⟩)
      | .raised _ => R' (C.next w ⟨.close, reply⟩))
    (hraised : ∀ w, R w → C.guar w .close ∧ ∀ reply : Reply Unit, C.rely w ⟨.close, reply⟩ →
      R' (C.next w ⟨.close, reply⟩)) :
    Triple C P (withSession x) Q' R' := by
  intro s w hw
  refine (wp_withSession x).2 (wp_mono (h s w hw) (fun _ _ w' h' => hok w' h') fun _ _ w' h' => ?_)
  obtain ⟨hguar, hnext⟩ := hraised w' h'
  refine ⟨hguar, fun reply hrely => ?_⟩
  cases reply <;> exact hnext _ hrely

theorem issues_withSession {α : Type} {guar : BackendOp → Prop} {x : BackendM σ α}
    (hclose : guar .close) (h : Issues guar x) : Issues guar (withSession x) := by
  refine fun s => (h s).bind fun r => ⟨hclose, fun reply => ?_⟩
  cases reply <;> trivial

theorem quiet_withSession {α : Type} {x : BackendM σ α} (h : Issues BackendOp.Quiet x) :
    Issues BackendOp.Quiet (withSession x) :=
  issues_withSession trivial h

theorem quiet_insertOrUpdateContainer (loaded : Option ContainersModel) (hostId : Int)
    (name : String) (data : ContainerData) :
    Issues BackendOp.Quiet (insertOrUpdateContainer loaded hostId name data :
      BackendM σ ContainersModel) := by
  refine issues_bind (issues_performE trivial) fun row => ?_
  cases row with
  | some row =>
      exact issues_bind (issues_performE trivial) fun _ => issues_performE trivial
  | none =>
      exact issues_bind (issues_performE trivial) fun _ => issues_performE trivial

theorem quiet_getHostContainers (hostId : Int) :
    Issues BackendOp.Quiet (getHostContainers hostId : BackendM σ (List ContainersModel)) :=
  quiet_withSession (issues_performE trivial)

/-! What a check issues, by the operations of its parts. -/

theorem issues_getRemoteDigests {guar : BackendOp → Prop} {spec : String} {delay : Int}
    (hlookup : ∀ localDigest, guar (.remoteDigest spec localDigest))
    (hsleep : guar (.sleepAbout delay)) (localDigests : List String) :
    Issues guar (getRemoteDigests spec delay localDigests : BackendM σ (List String)) := by
  induction localDigests with
  | nil => exact issues_pure []
  | cons localDigest localDigests ih =>
      refine issues_bind (issues_tryCatch (issues_performE (hlookup _)) fun _ =>
        issues_pure _) fun remoteDigest => ?_
      exact issues_bind (issues_perform hsleep) fun _ => issues_ite (issues_pure _) ih

theorem issues_pullBeforeCheck {guar : BackendOp → Prop} {host : HostsModel} {spec : String}
    {delay : Int} (hsettings : guar .settings)
    (hpull : guar (.agent host.id none (.imagePull spec))) (hsleep : guar (.sleepAbout delay)) :
    Issues guar (pullBeforeCheck host spec delay) :=
  issues_bind (issues_perform hsettings) fun _ => issues_whenA
    (issues_bind (issues_performE hpull) fun _ => issues_bind (issues_modify _) fun _ =>
      issues_perform hsleep)

theorem issues_saveCheck {guar : BackendOp → Prop} {host : HostsModel}
    {container : ContainerInspectResult} {row : Option ContainersModel}
    {localDigests remoteDigests : List String} (hnow : guar .now)
    (hsave : ∀ data, Issues guar (insertOrUpdateContainer row host.id container.name data :
      BackendM ContainerActionResult ContainersModel)) :
    Issues guar (saveCheck host container row localDigests remoteDigests) := by
  have hnow : Issues guar (now : BackendM ContainerActionResult Int) := issues_perform hnow
  refine issues_bind hnow fun checkedAt => issues_ite ?_ ?_
  · exact issues_bind hnow fun changedAt => issues_bind (issues_pure _) fun _ =>
      issues_bind (hsave _) fun _ => issues_pure ()
  · exact issues_bind (issues_pure _) fun _ => issues_bind (hsave _) fun _ => issues_pure ()

theorem quiet_getRemoteDigests (spec : String) (delay : Int) (localDigests : List String) :
    Issues BackendOp.Quiet (getRemoteDigests spec delay localDigests : BackendM σ (List String)) :=
  issues_getRemoteDigests (fun _ => trivial) trivial localDigests

theorem quiet_pullBeforeCheck (host : HostsModel) (spec : String) (delay : Int) :
    Issues BackendOp.Quiet (pullBeforeCheck host spec delay) :=
  issues_pullBeforeCheck trivial trivial trivial

theorem quiet_saveCheck (host : HostsModel) (container : ContainerInspectResult)
    (row : Option ContainersModel) (localDigests remoteDigests : List String) :
    Issues BackendOp.Quiet (saveCheck host container row localDigests remoteDigests) :=
  issues_saveCheck trivial fun data => quiet_insertOrUpdateContainer _ _ _ data

theorem quiet_buildPlan (env : BackendEnv) (host : HostsModel) (containers : HostContainers)
    (manualFor : List ContainerInspectResult) :
    Issues BackendOp.Quiet (buildPlan env host containers manualFor : BackendM σ UpdatePlan) := by
  refine issues_bind (issues_perform trivial) fun settings =>
    issues_bind (quiet_getHostContainers _) fun rows => ?_
  refine issues_ite (issues_bind (issues_perform trivial) fun now => ?_)
    (issues_bind (issues_pure _) fun now => ?_)
  · dsimp only
    split
    · exact issues_pure _
    · exact issues_bind (issues_perform trivial) fun never => never.elim
  · dsimp only
    split
    · exact issues_pure _
    · exact issues_bind (issues_perform trivial) fun never => never.elim

theorem quiet_dockerVersionOf (hostId : Int) :
    Issues BackendOp.Quiet (dockerVersionOf hostId : BackendM σ (Option DockerVersion)) :=
  issues_tryCatch (issues_bind (issues_performE trivial) fun _ => issues_pure _)
    fun _ => issues_pure _

theorem quiet_getEnabledHost (hostId : Int) :
    Issues BackendOp.Quiet (getEnabledHost hostId : BackendM σ HostsModel) :=
  issues_bind (issues_performE trivial) fun _ =>
    issues_ite (issues_pure _) (issues_throw _)

theorem quiet_updateContainersDataAfterExecution (result : UpdatePlanResult) :
    Issues BackendOp.Quiet (updateContainersDataAfterExecution result : BackendM σ Unit) :=
  issues_ite (issues_pure ()) (issues_bind (issues_perform trivial) fun _ =>
    quiet_withSession (issues_bind (issues_performE trivial) fun _ =>
      issues_performE trivial))

end

end Tugtainer
