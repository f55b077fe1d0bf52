import Tugtainer.Executor.Footprint

/-!
# What the preparation leaves in an item

After the first pass the item of a container `c` holds either no configuration,
or one that `getContainerConfig` made of `c`. Every later step leaves these
fields alone, so `Ready` is the invariant of the second and the third pass, and
it is what makes the requests of these passes name `c`.

The steps of all three passes record what they raise and never raise themselves.
-/

namespace Tugtainer

open Python Interaction

theorem connectTarget_networkConnectCommand (name net : String) (e : NetworkInspectResult) :
    connectTarget (networkConnectCommand name net e) = some (net, name) := by
  simp [connectTarget, networkConnectCommand]

/-- The fields of an item for the container `c`. -/
structure Ready (c : ContainerInspectResult) (dockerVersion : Option DockerVersion)
    (fields : ItemFields) : Prop where
  imageSpec : fields.imageSpec = getContainerImageSpec c
  wasRunning : fields.wasRunning = isRunningContainer c
  config : (fields.config = none ∧ fields.commands = []) ∨
    ∃ image cfg, fields.config = some cfg ∧
      getContainerConfig c image dockerVersion = .ok (cfg, fields.commands)

section

variable {c : ContainerInspectResult} {dockerVersion : Option DockerVersion}

theorem Ready.ignoresResult : IgnoresResult (Ready c dockerVersion) :=
  fun _ _ h => ⟨h.imageSpec, h.wasRunning, h.config⟩

theorem Ready.commandsFor {fields : ItemFields} (h : Ready c dockerVersion fields) :
    CommandsFor c.name fields.commands := by
  rcases h.config with ⟨-, hnil⟩ | ⟨image, cfg, -, hcfg⟩
  · simp [CommandsFor, hnil]
  · obtain ⟨-, -, -, -, hcommands⟩ := getContainerConfig_ok hcfg
    rw [hcommands, getContainerNetKwargs_commands]
    cases splitNetworks c with
    | none => simp [CommandsFor]
    | some split =>
        intro command hcommand
        obtain ⟨⟨net, e⟩, -, rfl⟩ := List.mem_map.1 hcommand
        rw [connectTarget_networkConnectCommand]
        rfl

theorem canUpdate_eq_some {item : UpdatePlanItem} {inputs : UpdateInputs}
    (h : canUpdate item = some inputs) :
    item.errors = [] ∧ item.localImage = some inputs.localImage ∧
      item.remoteImage = some inputs.remoteImage ∧ item.config = some inputs.config ∧
      inputs.imageSpec = item.imageSpec.getD "" := by
  unfold canUpdate at h
  split at h
  · rename_i localImage remoteImage config hl hr hc
    split at h
    · rename_i herr
      cases h
      exact ⟨by simpa using herr, hl, hr, hc, rfl⟩
    · cases h
  · cases h

theorem Ready.inputsOk {item : UpdatePlanItem} (h : Ready c dockerVersion item.fields)
    {inputs : UpdateInputs} (hcan : canUpdate item = some inputs) :
    InputsOk c.name inputs ∧ inputs.imageSpec = inputs.config.image ∧
      isBlank inputs.config.image = false ∧
      ∃ image, getContainerConfig c image dockerVersion =
        .ok (inputs.config, item.commands) := by
  obtain ⟨-, -, -, hconfig, hspec⟩ := canUpdate_eq_some hcan
  rcases h.config with ⟨hnone, -⟩ | ⟨image, cfg, hsome, hcfg⟩
  · exact absurd (hconfig.symm.trans hnone) (by simp)
  · obtain rfl : inputs.config = cfg := Option.some.inj (hconfig.symm.trans hsome)
    obtain ⟨himage, hblank, hname, -, -⟩ := getContainerConfig_ok hcfg
    refine ⟨⟨hname, c.name_nonblank⟩, ?_, hblank, image, hcfg⟩
    have hitem : item.imageSpec = some inputs.config.image := h.imageSpec.trans himage
    rw [hspec, hitem, Option.getD_some]

/-! ## The first pass -/

/-- The item of the container `c` during its preparation. -/
structure Preparing (c : ContainerInspectResult) (dockerVersion : Option DockerVersion)
    (item : UpdatePlanItem) : Prop where
  container : item.container = c
  fields : Ready c dockerVersion item.fields
  result : item.result = none

theorem preparing_ofContainer : Preparing c dockerVersion (.ofContainer c) :=
  ⟨rfl, ⟨rfl, rfl, .inl ⟨rfl, rfl⟩⟩, rfl⟩

theorem Preparing.name {item : UpdatePlanItem} (h : Preparing c dockerVersion item) :
    item.name = c.name :=
  congrArg ContainerInspectResult.name h.container

theorem Preparing.itemOk {nameOf : String → String} {item : UpdatePlanItem}
    (h : Preparing c dockerVersion item) (hgoes : GoesBy nameOf c) :
    ItemOk nameOf c.name (Ready c dockerVersion) item :=
  ⟨h.name, h.container ▸ hgoes, h.fields⟩

def PrepareKinds (site : Site) (kind : Kind) : Prop :=
  site = .prepare ∧ (kind = .image ∨ kind = .log)

/-- An action that keeps to the preparation of the container `c`. -/
abbrev Prepares (nameOf : String → String) (c : ContainerInspectResult)
    (dockerVersion : Option DockerVersion) {α : Type} (V : α → Prop) (x : ItemM α) : Prop :=
  Act.Keeps (Agrees nameOf) (Within nameOf c.name PrepareKinds) (Preparing c dockerVersion) V x

variable {nameOf : String → String}

theorem prepares_call {request : Request} (hkind : request.kind = .image) :
    Prepares nameOf c dockerVersion (fun _ => True) (call .prepare request) := by
  have hfor : request.IsFor nameOf c.name := by
    cases request <;> trivial
  exact Act.Keeps.performE ⟨⟨rfl, .inl hkind⟩, hfor⟩ fun _ _ _ _ => trivial

theorem prepares_record (line : LogLine) (hsite : line.site = some .prepare)
    (hline : line.name = c.name) (e : Exn) :
    Prepares nameOf c dockerVersion (fun _ => True) (do log line; addErrors [e]) := by
  have hlog : ∀ site ∈ line.site, PrepareKinds site .log := by
    simp [hsite, PrepareKinds]
  exact .bind (.perform (I := Agent) ⟨hlog, hline⟩) fun _ _ =>
    .modify fun _ h => ⟨h.container, h.fields, h.result⟩

theorem prepares_getLocalImage : Prepares nameOf c dockerVersion (fun _ => True) getLocalImage := by
  refine .bind .get fun item hitem => .tryCatch (.ite (fun _ => ?_) fun _ => .throw)
    fun e => prepares_record (.failedLocalImage item.name) rfl hitem.name e
  exact .bind (prepares_call rfl) fun _ _ => .modify fun _ h =>
    ⟨h.container, ⟨h.fields.imageSpec, h.fields.wasRunning, h.fields.config⟩, h.result⟩

theorem prepares_pullNewImage : Prepares nameOf c dockerVersion (fun _ => True) pullNewImage := by
  refine .bind .get fun item hitem => .tryCatch ?_
    fun e => prepares_record (.failedPull item.name) rfl hitem.name e
  cases item.imageSpec with
  | none => exact .throw
  | some imageSpec =>
      exact .bind (prepares_call rfl) fun _ _ => .modify fun _ h =>
        ⟨h.container, ⟨h.fields.imageSpec, h.fields.wasRunning, h.fields.config⟩, h.result⟩

theorem prepares_prepareConfig :
    Prepares nameOf c dockerVersion (fun _ => True) (prepareConfig dockerVersion) := by
  refine .bind .get fun item hitem => .tryCatch ?_
    fun e => prepares_record (.failedConfig item.name) rfl hitem.name e
  refine .bind (V := fun r => getContainerConfig c item.localImage dockerVersion = .ok r)
    (.ofExcept fun r h => hitem.container ▸ h) fun r hr => .modify fun _ h => ?_
  exact ⟨h.container, ⟨h.fields.imageSpec, h.fields.wasRunning, .inr ⟨_, _, rfl, hr⟩⟩, h.result⟩

theorem prepares_prepareItem (delay : Int) :
    Prepares nameOf c dockerVersion (fun _ => True) (prepareItem dockerVersion delay) :=
  .bind prepares_getLocalImage fun _ _ => .bind prepares_pullNewImage fun _ _ =>
    .bind prepares_prepareConfig fun _ _ =>
      Act.Keeps.mono (.perform (I := Agent) trivial) (fun _ _ => trivial) fun _ h => h

/-! ## The other passes -/

/-- An item of the container `c` after its preparation. -/
abbrev ItemReady (nameOf : String → String) (c : ContainerInspectResult)
    (dockerVersion : Option DockerVersion) (item : UpdatePlanItem) : Prop :=
  ItemOk nameOf c.name (Ready c dockerVersion) item

/-- What the step of the third pass may ask for: anything but what belongs to the
other passes where it updates, and to look and to start otherwise. -/
def UpdateKinds (isUpdate : Bool) (site : Site) (kind : Kind) : Prop :=
  site ≠ .prepare ∧ site ≠ .stop ∧ (isUpdate ∨ kind = .look ∨ kind = .start ∨ kind = .log)

def StopKinds (site : Site) (kind : Kind) : Prop :=
  site = .stop ∧ (kind = .exec ∨ kind = .stop ∨ kind = .look ∨ kind = .log)

theorem staysIn_stopItem_of_goesBy {P : ItemFields → Prop} (hgoes : GoesBy nameOf c)
    (hooksMap : HooksMap) (isUpdate : Bool) :
    StaysIn nameOf c.name StopKinds P (fun _ => True) (stopItem c.name hooksMap isUpdate) :=
  staysIn_stopItem ⟨rfl, by simp⟩ ⟨rfl, by simp⟩ ⟨rfl, by simp⟩ ⟨rfl, by simp⟩ hgoes.1 hooksMap
    isUpdate

theorem staysIn_updateOrStartItem (hooksMap : HooksMap) (timeout : Int)
    (isUpdate isAffected : Bool) :
    StaysIn nameOf c.name (UpdateKinds isUpdate) (Ready c dockerVersion) (fun _ => True)
      (updateOrStartItem hooksMap timeout isUpdate isAffected) := by
  refine .bind (V := fun _ => True) (.ite (fun hup => ?_) fun _ => .pure trivial) fun _ _ =>
    .whenA (staysIn_attempt (staysIn_attemptStartWithHealth ?_ ?_ ?_ timeout))
  · exact (staysIn_updateItem (fun site h kind => h) (fun _ => Ready.commandsFor)
      Ready.ignoresResult (fun _ h _ hcan => (h.inputsOk hcan).1) hooksMap timeout).mono
        fun site kind h => ⟨h.1, h.2, .inl hup⟩
  · exact ⟨by decide, by decide, by simp⟩
  · exact ⟨by decide, by decide, by simp⟩
  · exact ⟨⟨by decide, by decide, by simp⟩, by decide, by decide, by simp⟩

end

/-! ## No step raises -/

theorem neverRaises_log {σ : Type} (line : LogLine) : (log line : AgentM σ Unit).NeverRaises :=
  .perform _

theorem neverRaises_attempt (x : ItemM Unit) : (attempt x).NeverRaises :=
  .tryCatch fun _ => .modify _

theorem neverRaises_prepareItem (dockerVersion : Option DockerVersion) (delay : Int) :
    (prepareItem dockerVersion delay).NeverRaises := by
  have hrecord : ∀ (line : LogLine) (e : Exn),
      (do log line; addErrors [e] : ItemM Unit).NeverRaises := fun line e =>
    .bind (neverRaises_log line) fun _ => .modify _
  refine .bind (.bind .get fun _ => .tryCatch (hrecord _)) fun _ => ?_
  refine .bind (.bind .get fun _ => .tryCatch (hrecord _)) fun _ => ?_
  exact .bind (.bind .get fun _ => .tryCatch (hrecord _)) fun _ => .perform _

theorem neverRaises_runHookCommands {σ : Type} (site : Site) (name : String)
    (commands : List String) :
    (runHookCommands site name commands : AgentM σ (List Exn)).NeverRaises := by
  induction commands with
  | nil => exact .pure _
  | cons command commands ih =>
      exact .bind (.tryCatch fun _ => .pure _) fun _ => .bind ih fun _ => .pure _

theorem neverRaises_runHooks {σ : Type} (site : Site) (name : String)
    (hooks : Option ContainerHooks) (hook : HookName) :
    (runHooks site name hooks hook : AgentM σ (List Exn)).NeverRaises := by
  refine .bind (neverRaises_log _) fun _ => ?_
  cases hooks with
  | none => exact .pure _
  | some hooks => exact neverRaises_runHookCommands _ _ _

theorem neverRaises_runStopHooks (name : String) (hooksMap : HooksMap) (isUpdate : Bool) :
    (runStopHooks name hooksMap isUpdate).NeverRaises :=
  .bind (neverRaises_runHooks _ _ _ _) fun _ => .ite (neverRaises_runHooks _ _ _ _) (.pure _)

theorem neverRaises_stopItem (name : String) (hooksMap : HooksMap) (isUpdate : Bool) :
    (stopItem name hooksMap isUpdate).NeverRaises := by
  refine .bind .get fun _ => .ite ?_ (.pure _)
  refine .bind (neverRaises_runStopHooks _ _ _) fun _ => .ite (neverRaises_attempt _) ?_
  exact .bind (.modify _) fun _ => neverRaises_log _

theorem neverRaises_runItemHooks (site : Site) (hooksMap : HooksMap) (hook : HookName) :
    (runItemHooks site hooksMap hook).NeverRaises :=
  .bind .get fun _ => .bind (neverRaises_runHooks _ _ _ _) fun _ => .modify _

theorem neverRaises_tagPrevious (inputs : UpdateInputs) : (tagPrevious inputs).NeverRaises :=
  .bind .get fun _ => .bind (neverRaises_log _) fun _ => neverRaises_attempt _

theorem neverRaises_rollBack (hooksMap : HooksMap) (timeout : Int) (inputs : UpdateInputs) :
    (rollBack hooksMap timeout inputs).NeverRaises := by
  refine .bind (neverRaises_tagPrevious inputs) fun _ => .tryCatch fun _ => ?_
  exact .bind (.modify _) fun _ => .bind (.modify _) fun _ => .pure _

theorem neverRaises_updateItem (hooksMap : HooksMap) (timeout : Int) :
    (updateItem hooksMap timeout).NeverRaises := by
  refine .bind .get fun item => ?_
  cases canUpdate item with
  | none => exact .bind (neverRaises_attempt _) fun _ => .pure _
  | some inputs =>
      refine .bind (neverRaises_log _) fun _ => .bind (.tryCatch fun _ => ?_) fun _ =>
        .ite (.pure _) (neverRaises_rollBack _ _ _)
      exact .bind (.modify _) fun _ => .bind (neverRaises_attempt _) fun _ => .pure _

theorem neverRaises_updateOrStartItem (hooksMap : HooksMap) (timeout : Int)
    (isUpdate isAffected : Bool) :
    (updateOrStartItem hooksMap timeout isUpdate isAffected).NeverRaises :=
  .bind (.ite (neverRaises_updateItem _ _) (.pure _)) fun _ =>
    .whenA (neverRaises_attempt _)

end Tugtainer
