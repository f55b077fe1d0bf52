import Tugtainer.Executor.Execute
import Tugtainer.Interaction.Issues

/-!
# The passes leave the progress alone

The steps that the executor takes with the containers ask the agent, sleep and log,
whatever they are answered. So the progress of a plan is written by
`executeUpdatePlan` itself, and the database is asked before and after the passes only.
-/

namespace Tugtainer

open Python Interaction Act

/-- A request to the agent, a sleep or a line of the log. -/
def Op.Quiet : Op → Prop
  | .agent _ _ | .sleep _ | .sleepAbout _ | .log _ => True
  | _ => False

def LogLine.hook : LogLine → Option HookName
  | .hooks _ hook => some hook
  | _ => none

def Op.Unhooked : Op → Prop
  | .agent _ _ | .sleep _ | .sleepAbout _ => True
  | .log line => line.hook = none
  | _ => False

theorem Op.Unhooked.quiet {op : Op} (h : op.Unhooked) : op.Quiet := by
  cases op <;> first | exact h | trivial

section

variable {σ : Type}

theorem unhooked_call (site : Site) (request : Request) :
    Issues Op.Unhooked (call site request : AgentM σ request.Result) :=
  issues_performE trivial

theorem unhooked_log {line : LogLine} (h : line.hook = none) :
    Issues Op.Unhooked (log line : AgentM σ Unit) :=
  issues_perform h

theorem quiet_log (line : LogLine) : Issues Op.Quiet (log line : AgentM σ Unit) :=
  issues_perform trivial

theorem quiet_call (site : Site) (request : Request) :
    Issues Op.Quiet (call site request : AgentM σ request.Result) :=
  issues_performE trivial

theorem quiet_of_unhooked {α : Type} {x : AgentM σ α} (h : Issues Op.Unhooked x) :
    Issues Op.Quiet x :=
  h.mono fun _ => Op.Unhooked.quiet

theorem unhooked_runHookCommands (site : Site) (name : String) (commands : List String) :
    Issues Op.Unhooked (runHookCommands site name commands : AgentM σ (List Exn)) := by
  induction commands with
  | nil => exact issues_pure []
  | cons command commands ih =>
      refine issues_bind (issues_tryCatch (issues_ite (issues_throw _) ?_) fun _ => issues_pure _)
        fun _ => issues_bind ih fun _ => issues_pure _
      exact issues_bind (unhooked_call _ _) fun _ => issues_pure _

theorem quiet_runHooks (site : Site) (name : String) (hooks : Option ContainerHooks)
    (hook : HookName) : Issues Op.Quiet (runHooks site name hooks hook : AgentM σ (List Exn)) := by
  refine issues_bind (quiet_log _) fun _ => ?_
  cases hooks with
  | none => exact issues_pure []
  | some hooks => exact quiet_of_unhooked (unhooked_runHookCommands _ _ _)

theorem unhooked_disconnectAllNetworks (site : Site) (c : ContainerInspectResult) :
    Issues Op.Unhooked (disconnectAllNetworks site c : AgentM σ Unit) :=
  issues_forM fun _ => issues_tryCatch (unhooked_call _ _) fun _ => issues_pure ()

theorem unhooked_healthLoop (hasHealthcheck : Bool) (id : String) (remaining fuel : ℕ) :
    Issues Op.Unhooked (healthLoop hasHealthcheck id remaining fuel :
      AgentM σ (Bool × ContainerInspectResult)) := by
  have hlast : Issues Op.Unhooked (lastHealthCheck id : AgentM σ _) :=
    issues_bind (unhooked_call _ _) fun _ => issues_pure _
  induction fuel generalizing remaining with
  | zero => exact hlast
  | succ fuel ih =>
      refine issues_ite hlast (issues_bind (unhooked_call _ _) fun _ =>
        issues_ite (issues_pure _) ?_)
      exact issues_bind (issues_perform trivial) fun _ => ih _

theorem unhooked_waitForContainerHealthy (c : ContainerInspectResult) (timeout : Int) :
    Issues Op.Unhooked (waitForContainerHealthy c timeout :
      AgentM σ (Bool × ContainerInspectResult)) :=
  issues_ite (unhooked_healthLoop _ _ _ _) (issues_pure _)

end

/-! ## One item -/

section

variable (site : Site) (hooksMap : HooksMap) (timeout : Int) (inputs : UpdateInputs)

theorem issues_attempt {guar : Op → Prop} {x : ItemM Unit} (h : Issues guar x) :
    Issues guar (attempt x) :=
  issues_tryCatch h fun _ => issues_modify _

theorem unhooked_inspectItem : Issues Op.Unhooked (inspectItem site) :=
  issues_bind issues_get fun _ => issues_bind (unhooked_call _ _) fun _ => issues_modify _

theorem quiet_runItemHooks (hook : HookName) :
    Issues Op.Quiet (runItemHooks site hooksMap hook) :=
  issues_bind issues_get fun _ => issues_bind (quiet_runHooks _ _ _ _) fun _ => issues_modify _

theorem unhooked_waitItem : Issues Op.Unhooked (waitItem timeout) :=
  issues_bind issues_get fun _ => issues_bind (unhooked_waitForContainerHealthy _ _) fun _ =>
    issues_bind (issues_modify _) fun _ => issues_bind (unhooked_log rfl) fun _ => issues_pure _

theorem unhooked_attemptStartWithHealth : Issues Op.Unhooked (attemptStartWithHealth timeout) := by
  refine issues_bind issues_get fun _ => issues_ite ?_ (issues_pure ())
  refine issues_bind (unhooked_inspectItem _) fun _ => issues_bind issues_get fun _ => ?_
  refine issues_ite (issues_pure ()) (issues_bind (unhooked_call _ _) fun _ => ?_)
  exact issues_bind (unhooked_waitItem _) fun _ => issues_bind issues_get fun _ =>
    issues_ite (issues_pure ()) (issues_throw _)

theorem unhooked_runCommands : Issues Op.Unhooked (runCommands site) :=
  issues_bind issues_get fun _ => issues_forM fun _ =>
    issues_attempt (issues_ite (unhooked_call _ _) (issues_throw _))

theorem unhooked_failed {line : LogLine} (h : line.hook = none) (e : Exn) :
    Issues Op.Unhooked (do log line; addErrors [e] : ItemM Unit) :=
  issues_bind (unhooked_log h) fun _ => issues_modify _

theorem unhooked_getLocalImage : Issues Op.Unhooked getLocalImage := by
  refine issues_bind issues_get fun item => ?_
  refine issues_tryCatch (issues_ite ?_ (issues_throw _)) fun _ => unhooked_failed rfl _
  exact issues_bind (unhooked_call _ _) fun _ => issues_modify _

theorem unhooked_pullNewImage : Issues Op.Unhooked pullNewImage := by
  refine issues_bind issues_get fun item => issues_tryCatch ?_ fun _ => unhooked_failed rfl _
  cases item.imageSpec with
  | none => exact issues_throw _
  | some imageSpec => exact issues_bind (unhooked_call _ _) fun _ => issues_modify _

theorem unhooked_prepareConfig (dockerVersion : Option DockerVersion) :
    Issues Op.Unhooked (prepareConfig dockerVersion) :=
  issues_bind issues_get fun _ => issues_tryCatch
    (issues_bind (issues_ofExcept _) fun _ => issues_modify _) fun _ => unhooked_failed rfl _

theorem unhooked_prepareItem (dockerVersion : Option DockerVersion) (delay : Int) :
    Issues Op.Unhooked (prepareItem dockerVersion delay) :=
  issues_bind unhooked_getLocalImage fun _ => issues_bind unhooked_pullNewImage fun _ =>
    issues_bind (unhooked_prepareConfig _) fun _ => issues_perform trivial

theorem quiet_runStopHooks (name : String) (isUpdate : Bool) :
    Issues Op.Quiet (runStopHooks name hooksMap isUpdate) :=
  issues_bind (quiet_runHooks _ _ _ _) fun _ => issues_ite (quiet_runHooks _ _ _ _) (issues_pure _)

theorem quiet_stopItem (name : String) (isUpdate : Bool) :
    Issues Op.Quiet (stopItem name hooksMap isUpdate) := by
  refine issues_bind issues_get fun _ => issues_ite ?_ (issues_pure ())
  refine issues_bind (quiet_runStopHooks _ _ _) fun _ => issues_ite ?_ ?_
  · exact issues_attempt (issues_bind (quiet_call _ _) fun _ =>
      issues_bind (quiet_call _ _) fun _ => issues_modify _)
  · exact issues_bind (issues_modify _) fun _ => quiet_log _

theorem unhooked_removeItem : Issues Op.Unhooked (removeItem site) :=
  issues_bind issues_get fun _ => issues_bind (unhooked_disconnectAllNetworks _ _) fun _ =>
    unhooked_call _ _

theorem unhooked_removeOld : Issues Op.Unhooked removeOld :=
  issues_bind issues_get fun _ => issues_bind (unhooked_call _ _) fun _ =>
    issues_bind (issues_whenA (unhooked_inspectItem _)) fun _ => unhooked_removeItem _

theorem unhooked_createMerged : Issues Op.Unhooked (createMerged inputs) :=
  issues_bind (issues_ofExcept _) fun _ => issues_bind (unhooked_call _ _) fun _ => issues_modify _

theorem unhooked_startCreated : Issues Op.Unhooked (startCreated site) :=
  issues_bind issues_get fun _ => issues_bind (unhooked_call _ _) fun _ =>
    issues_bind (unhooked_runCommands _) fun _ => unhooked_inspectItem _

theorem quiet_removeUnhealthy : Issues Op.Quiet (removeUnhealthy hooksMap) :=
  issues_bind (quiet_runItemHooks _ _ _) fun _ => issues_bind issues_get fun _ =>
    issues_bind (quiet_call _ _) fun _ =>
      issues_bind (quiet_of_unhooked (unhooked_inspectItem _)) fun _ =>
        quiet_of_unhooked (unhooked_removeItem _)

theorem quiet_startNew : Issues Op.Quiet (startNew hooksMap timeout) := by
  refine issues_bind (quiet_of_unhooked (unhooked_startCreated _)) fun _ =>
    issues_bind (quiet_of_unhooked (unhooked_waitItem _)) fun _ => ?_
  refine issues_ite ?_ (issues_bind (quiet_removeUnhealthy _) fun _ => issues_pure _)
  exact issues_bind (issues_modify _) fun _ => issues_bind (quiet_runItemHooks _ _ _) fun _ =>
    issues_pure _

theorem quiet_recreate : Issues Op.Quiet (recreate hooksMap timeout inputs) := by
  refine issues_bind (quiet_of_unhooked unhooked_removeOld) fun _ =>
    issues_bind (quiet_of_unhooked (unhooked_createMerged _)) fun _ => ?_
  refine issues_bind issues_get fun _ => issues_ite (quiet_startNew _ _) ?_
  exact issues_bind (issues_modify _) fun _ => issues_pure _

theorem quiet_cleanup : Issues Op.Quiet (cleanup hooksMap) := by
  refine issues_bind issues_get fun _ => issues_bind (quiet_call _ _) fun _ =>
    issues_ite ?_ (issues_pure ())
  refine issues_bind (quiet_of_unhooked (unhooked_inspectItem _)) fun _ => issues_bind ?_ fun _ =>
    issues_bind issues_get fun _ => issues_bind (quiet_call _ _) fun _ =>
      issues_bind (quiet_of_unhooked (unhooked_inspectItem _)) fun _ =>
        quiet_of_unhooked (unhooked_removeItem _)
  exact issues_bind issues_get fun _ => issues_whenA (quiet_runItemHooks _ _ _)

theorem quiet_recreateOrCleanUp : Issues Op.Quiet (recreateOrCleanUp hooksMap timeout inputs) :=
  issues_tryCatch (quiet_recreate _ _ _) fun _ => issues_bind (issues_modify _) fun _ =>
    issues_bind (issues_attempt (quiet_cleanup _)) fun _ => issues_pure _

theorem quiet_restore : Issues Op.Quiet (restore hooksMap timeout inputs) :=
  issues_bind (quiet_call _ _) fun _ => issues_bind (issues_modify _) fun _ =>
    issues_bind (quiet_of_unhooked (unhooked_startCreated _)) fun _ =>
      issues_bind (issues_modify _) fun _ => issues_bind (quiet_runItemHooks _ _ _) fun _ =>
        quiet_of_unhooked (unhooked_waitItem _)

theorem unhooked_tagPrevious : Issues Op.Unhooked (tagPrevious inputs) :=
  issues_bind issues_get fun _ => issues_bind (unhooked_log rfl) fun _ =>
    issues_attempt (unhooked_call _ _)

theorem quiet_rollBack : Issues Op.Quiet (rollBack hooksMap timeout inputs) := by
  refine issues_bind (quiet_of_unhooked (unhooked_tagPrevious _)) fun _ =>
    issues_tryCatch (quiet_restore _ _ _) fun _ => ?_
  exact issues_bind (issues_modify _) fun _ => issues_bind (issues_modify _) fun _ => issues_pure _

theorem quiet_updateItem : Issues Op.Quiet (updateItem hooksMap timeout) := by
  refine issues_bind issues_get fun item => ?_
  cases canUpdate item with
  | none =>
      exact issues_bind (issues_attempt (quiet_of_unhooked (unhooked_attemptStartWithHealth _)))
        fun _ => issues_pure _
  | some inputs =>
      exact issues_bind (quiet_log _) fun _ =>
        issues_bind (quiet_recreateOrCleanUp _ _ _) fun _ =>
          issues_ite (issues_pure _) (quiet_rollBack _ _ _)

theorem quiet_updateOrStartItem (isUpdate isAffected : Bool) :
    Issues Op.Quiet (updateOrStartItem hooksMap timeout isUpdate isAffected) :=
  issues_bind (issues_ite (quiet_updateItem _ _) (issues_pure _)) fun _ =>
    issues_whenA (issues_attempt (quiet_of_unhooked (unhooked_attemptStartWithHealth _)))

end

/-! ## The passes -/

theorem quiet_onItem (name : String) {x : ItemM Unit} (h : Issues Op.Quiet x) :
    Issues Op.Quiet (onItem name x) := by
  refine issues_bind issues_get fun items => ?_
  cases items.get? name with
  | none => exact issues_pure ()
  | some item => exact issues_zoom h

theorem quiet_preparePass (env : ExecEnv) (plan : UpdatePlan)
    (dockerVersion : Option DockerVersion) (names : List String) :
    Issues Op.Quiet (preparePass env plan dockerVersion names) :=
  issues_forM fun name => quiet_onItem name (quiet_of_unhooked (unhooked_prepareItem _ _))

theorem quiet_stopPass (plan : UpdatePlan) (hooksMap : HooksMap) :
    Issues Op.Quiet (stopPass plan hooksMap) :=
  issues_forM fun name => quiet_onItem name (quiet_stopItem _ _ _)

theorem quiet_updatePass (host : HostsModel) (plan : UpdatePlan) (hooksMap : HooksMap) :
    Issues Op.Quiet (updatePass host plan hooksMap) :=
  issues_forM fun name => quiet_onItem name (quiet_updateOrStartItem _ _ _ _)

end Tugtainer
