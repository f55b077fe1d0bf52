import Tugtainer.Executor.Docker
import Tugtainer.Interaction.Keeps

/-!
# The footprint of the steps

For every step of the executor, which requests it makes and for which container.
`Within` is a bound on operations: only requests of certain kinds, at certain
sites, for one container. `ItemOk` is what the executor relies on in turn: the
item holds the container of its name, and so do its configuration and its
commands. Each step keeps the second as long as the answers agree with the names,
and thereby stays within the first.
-/

namespace Tugtainer

open Python Interaction

/-- The kinds of requests, and `log` for the lines of the log. -/
inductive Kind where
  | image | look | create | start | stop | remove | exec | disconnect | connect | log
  deriving DecidableEq, Repr

def Request.kind : Request → Kind
  | .imageInspect _ | .imagePull _ | .imageTag _ _ => .image
  | .containerExists _ | .containerInspect _ => .look
  | .containerCreate _ => .create
  | .containerStart _ => .start
  | .containerStop _ => .stop
  | .containerRemove _ => .remove
  | .containerExec _ _ => .exec
  | .networkDisconnect _ _ _ => .disconnect
  | .commandRun _ => .connect

/-- The request is for the container `n`, or for no container. -/
def Request.IsFor (nameOf : String → String) (n : String) : Request → Prop
  | .imageInspect _ | .imagePull _ | .imageTag _ _ => True
  | .containerExists ref | .containerInspect ref => nameOf ref = n
  | .containerCreate body => body.name = some n
  | .containerStart name | .containerStop name | .containerRemove name
  | .containerExec name _ | .networkDisconnect _ name _ => name = n
  | .commandRun command => (connectTarget command).map Prod.snd = some n

/-- The request changes a container or runs something in it. -/
def Request.Acts (request : Request) : Prop :=
  request.kind ≠ .image ∧ request.kind ≠ .look

/-- The container that such a request names. -/
def Request.target : Request → Option String
  | .containerCreate body => body.name
  | .containerStart name | .containerStop name | .containerRemove name
  | .containerExec name _ | .networkDisconnect _ name _ => some name
  | .commandRun command => (connectTarget command).map Prod.snd
  | .imageInspect _ | .imagePull _ | .imageTag _ _ | .containerExists _
  | .containerInspect _ => none

theorem Request.IsFor.target {nameOf : String → String} {n : String} {request : Request}
    (h : request.IsFor nameOf n) (hacts : request.Acts) : request.target = some n := by
  cases request with
  | imageInspect _ | imagePull _ | imageTag _ _ => exact absurd rfl hacts.1
  | containerExists _ | containerInspect _ => exact absurd rfl hacts.2
  | containerCreate body => exact h
  | commandRun command => exact h
  | _ => exact congrArg some h

theorem Request.IsFor.unique {nameOf : String → String} {n m : String} {request : Request}
    (hn : request.IsFor nameOf n) (hm : request.IsFor nameOf m) (hkind : request.kind ≠ .image) :
    n = m := by
  cases request with
  | imageInspect _ | imagePull _ | imageTag _ _ => exact absurd rfl hkind
  | containerCreate body => exact Option.some.inj (hn.symm.trans hm)
  | commandRun command => exact Option.some.inj (hn.symm.trans hm)
  | _ => exact hn.symm.trans hm

/-- The container that a line of the log is about. -/
def LogLine.name : LogLine → String
  | .failedLocalImage name | .failedPull name | .failedConfig name | .hooks name _
  | .skippingStop name | .startingUpdate name | .waited name _ | .rollingBack name => name

/-- The part of the executor that writes a line; hooks run in several. -/
def LogLine.site : LogLine → Option Site
  | .failedLocalImage _ | .failedPull _ | .failedConfig _ => some .prepare
  | .hooks _ _ => none
  | .skippingStop _ => some .stop
  | .startingUpdate _ => some .recreate
  | .waited _ _ => some .healthWait
  | .rollingBack _ => some .rollBack

/-- The operation is one for the container `n`, of one of the kinds. -/
def Within (nameOf : String → String) (n : String) (kinds : Site → Kind → Prop) : Op → Prop
  | .agent site request => kinds site request.kind ∧ request.IsFor nameOf n
  | .log line => (∀ site ∈ line.site, kinds site .log) ∧ line.name = n
  | .sleep _ | .sleepAbout _ => True
  | _ => False

/-- The fields of an item that hold data for the update. -/
structure ItemFields where
  imageSpec : Option String
  wasRunning : Bool
  config : Option CreateContainerRequestBodySchema
  commands : List (List String)
  localImage : Option ImageInspectResult
  remoteImage : Option ImageInspectResult
  result : Option CheckResult

def UpdatePlanItem.fields (item : UpdatePlanItem) : ItemFields where
  imageSpec := item.imageSpec
  wasRunning := item.wasRunning
  config := item.config
  commands := item.commands
  localImage := item.localImage
  remoteImage := item.remoteImage
  result := item.result

/-- Every command connects the container `n`. -/
def CommandsFor (n : String) (commands : List (List String)) : Prop :=
  ∀ command ∈ commands, (connectTarget command).map Prod.snd = some n

/-- The item holds the container `n`, and its fields satisfy `P`. -/
structure ItemOk (nameOf : String → String) (n : String) (P : ItemFields → Prop)
    (item : UpdatePlanItem) : Prop where
  name : item.container.name = n
  goesBy : GoesBy nameOf item.container
  fields : P item.fields

/-- The step keeps to requests for the container `n` of those kinds. -/
abbrev StaysIn (nameOf : String → String) (n : String) (kinds : Site → Kind → Prop)
    (P : ItemFields → Prop) {α : Type} (V : α → Prop) (x : ItemM α) : Prop :=
  Act.Keeps (Agrees nameOf) (Within nameOf n kinds) (ItemOk nameOf n P) V x

section

variable {nameOf : String → String} {n : String} {kinds kinds' : Site → Kind → Prop}
  {P : ItemFields → Prop} {α : Type} {V : α → Prop} {site : Site}

theorem Within.mono {op : Op}
    (h : Within nameOf n kinds op) (hkinds : ∀ site kind, kinds site kind → kinds' site kind) :
    Within nameOf n kinds' op := by
  cases op with
  | agent site request => exact ⟨hkinds _ _ h.1, h.2⟩
  | log line => exact ⟨fun site hsite => hkinds _ _ (h.1 site hsite), h.2⟩
  | _ => exact h

theorem ItemOk.nameOf_eq {item : UpdatePlanItem} (h : ItemOk nameOf n P item) :
    nameOf n = n :=
  h.name ▸ h.goesBy.1

theorem ItemOk.nameOf_name {item : UpdatePlanItem} (h : ItemOk nameOf n P item) :
    nameOf item.name = n := by
  have hname : item.name = n := h.name
  rw [hname, h.nameOf_eq]

theorem StaysIn.mono {x : ItemM α} (hx : StaysIn nameOf n kinds P V x)
    (h : ∀ site kind, kinds site kind → kinds' site kind) :
    StaysIn nameOf n kinds' P V x :=
  Act.Keeps.mono hx (fun _ h => h) fun _ hop => hop.mono h

/-- What the answer of a request that returned says about names. -/
def AnswerOk (nameOf : String → String) (site : Site) (request : Request)
    (a : request.Result) : Prop :=
  Agrees nameOf (answered site request (.ok a))

theorem staysIn_call {request : Request} (hkind : kinds site request.kind)
    (hfor : request.IsFor nameOf n) :
    StaysIn nameOf n kinds P (AnswerOk nameOf site request) (call site request) := by
  refine Act.Keeps.performE ⟨hkind, hfor⟩ fun r a hr hread => ?_
  cases r with
  | ok a' =>
      cases hread
      exact hr
  | raised lost => cases hread

theorem staysIn_addErrors (errors : List Exn) :
    StaysIn nameOf n kinds P (fun _ => True) (addErrors errors) :=
  Act.Keeps.modify fun _ h => ⟨h.name, h.goesBy, h.fields⟩

theorem staysIn_setContainer {c : ContainerInspectResult} (hname : c.name = n)
    (hgoes : GoesBy nameOf c) :
    StaysIn nameOf n kinds P (fun _ => True) (setContainer c) :=
  Act.Keeps.modify fun _ h => ⟨hname, hgoes, h.fields⟩

theorem staysIn_setResult {result : CheckResult}
    (h : ∀ fields, P fields → P { fields with result := some result }) :
    StaysIn nameOf n kinds P (fun _ => True) (setResult result) :=
  Act.Keeps.modify fun _ hitem => ⟨hitem.name, hitem.goesBy, h _ hitem.fields⟩

theorem staysIn_attempt {x : ItemM Unit} (hx : StaysIn nameOf n kinds P (fun _ => True) x) :
    StaysIn nameOf n kinds P (fun _ => True) (attempt x) :=
  .tryCatch hx fun _ => staysIn_addErrors _

/-! ## Helpers -/

theorem keeps_callUnit {σ : Type} {J : σ → Prop} (request : Request)
    (hkind : kinds site request.kind) (hfor : request.IsFor nameOf n) :
    Act.Keeps (Agrees nameOf) (Within nameOf n kinds) J (fun _ => True)
      (call site request : AgentM σ request.Result) :=
  Act.Keeps.performE ⟨hkind, hfor⟩ fun _ _ _ _ => trivial

theorem keeps_log {σ : Type} {J : σ → Prop} {line : LogLine}
    (hlog : ∀ site ∈ line.site, kinds site .log) (h : line.name = n) :
    Act.Keeps (Agrees nameOf) (Within nameOf n kinds) J (fun _ => True)
      (log line : AgentM σ Unit) :=
  Act.Keeps.mono (Act.Keeps.perform (I := Agent) ⟨hlog, h⟩) (fun _ _ => trivial) fun _ h => h

theorem keeps_runHookCommands {σ : Type} {J : σ → Prop} (hexec : kinds site .exec)
    (commands : List String) :
    Act.Keeps (Agrees nameOf) (Within nameOf n kinds) J (fun _ => True)
      (runHookCommands site n commands : AgentM σ (List Exn)) := by
  induction commands with
  | nil => exact .pure trivial
  | cons command commands ih =>
      refine .bind (V := fun _ => True) ?_ fun _ _ => .bind ih fun _ _ => .pure trivial
      refine .tryCatch (.ite (fun _ => .throw) fun _ => ?_) fun _ => .pure trivial
      exact .bind (keeps_callUnit (.containerExec n command) hexec rfl) fun _ _ => .pure trivial

theorem keeps_runHooks {σ : Type} {J : σ → Prop} (hexec : kinds site .exec)
    (hooks : Option ContainerHooks) (hook : HookName) :
    Act.Keeps (Agrees nameOf) (Within nameOf n kinds) J (fun _ => True)
      (runHooks site n hooks hook : AgentM σ (List Exn)) := by
  refine .bind (keeps_log (by simp [LogLine.site]) rfl) fun _ _ => ?_
  cases hooks with
  | none => exact .pure trivial
  | some hooks => exact keeps_runHookCommands hexec _

theorem staysIn_disconnectAllNetworks (hdis : kinds site .disconnect)
    {c : ContainerInspectResult} (hname : c.name = n) :
    StaysIn nameOf n kinds P (fun _ => True) (disconnectAllNetworks site c) :=
  .forM fun _ _ => .tryCatch (keeps_callUnit _ hdis hname) fun _ => .pure trivial

def WaitOk (nameOf : String → String) (n : String) (r : Bool × ContainerInspectResult) : Prop :=
  r.2.name = n ∧ GoesBy nameOf r.2

theorem staysIn_lastHealthCheck {id : String} (hlook : kinds .healthWait .look)
    (hid : nameOf id = n) :
    StaysIn nameOf n kinds P (WaitOk nameOf n) (lastHealthCheck id) :=
  .bind (staysIn_call hlook hid) fun _ h => .pure ⟨h.1.trans hid, h.2⟩

theorem staysIn_healthLoop {id : String} (hlook : kinds .healthWait .look)
    (hid : nameOf id = n) (hasHealthcheck : Bool) (fuel : ℕ) :
    ∀ remaining, StaysIn nameOf n kinds P (WaitOk nameOf n)
      (healthLoop hasHealthcheck id remaining fuel) := by
  induction fuel with
  | zero => exact fun _ => staysIn_lastHealthCheck hlook hid
  | succ fuel ih =>
      intro remaining
      refine .ite (fun _ => staysIn_lastHealthCheck hlook hid) fun _ => ?_
      refine .bind (staysIn_call hlook hid) fun c hc => ?_
      refine .ite (fun _ => .pure ⟨hc.1.trans hid, hc.2⟩) fun _ => ?_
      exact .bind (.perform (I := Agent) trivial) fun _ _ => ih _

theorem staysIn_waitForContainerHealthy {c : ContainerInspectResult}
    (hlook : kinds .healthWait .look) (hname : c.name = n) (hgoes : GoesBy nameOf c)
    (timeout : Int) :
    StaysIn nameOf n kinds P (WaitOk nameOf n) (waitForContainerHealthy c timeout) := by
  refine .ite (fun hid => ?_) fun _ => .pure ⟨hname, hgoes⟩
  cases hc : c.id with
  | none => simp [hc, truthy] at hid
  | some id => exact staysIn_healthLoop hlook ((hgoes.2 id hc).trans hname) _ _ _

theorem staysIn_inspectItem (hlook : kinds site .look) :
    StaysIn nameOf n kinds P (fun _ => True) (inspectItem site) := by
  refine .bind .get fun item hitem => ?_
  have hname : nameOf item.name = n := hitem.nameOf_name
  exact .bind (staysIn_call hlook hname) fun c hc =>
    staysIn_setContainer (hc.1.trans hname) hc.2

theorem staysIn_runItemHooks (hexec : kinds site .exec) (hooksMap : HooksMap)
    (hook : HookName) :
    StaysIn nameOf n kinds P (fun _ => True) (runItemHooks site hooksMap hook) := by
  refine .bind .get fun item hitem => ?_
  have hname : item.name = n := hitem.name
  rw [hname]
  exact .bind (keeps_runHooks hexec _ _) fun _ _ => staysIn_addErrors _

def WaitKinds (kinds : Site → Kind → Prop) : Prop :=
  kinds .healthWait .look ∧ kinds .healthWait .log

theorem staysIn_waitItem (hwait : WaitKinds kinds) (timeout : Int) :
    StaysIn nameOf n kinds P (fun _ => True) (waitItem timeout) := by
  refine .bind .get fun item hitem => ?_
  refine .bind (staysIn_waitForContainerHealthy hwait.1 hitem.name hitem.goesBy timeout)
    fun r hr => ?_
  exact .bind (staysIn_setContainer hr.1 hr.2) fun _ _ =>
    .bind (keeps_log (by simpa [LogLine.site] using hwait.2) hr.1) fun _ _ => .pure trivial

theorem staysIn_attemptStartWithHealth (hlook : kinds .start .look)
    (hstart : kinds .start .start) (hwait : WaitKinds kinds) (timeout : Int) :
    StaysIn nameOf n kinds P (fun _ => True) (attemptStartWithHealth timeout) := by
  refine .bind .get fun _ _ => .ite (fun _ => ?_) fun _ => .pure trivial
  refine .bind (staysIn_inspectItem hlook) fun _ _ => .bind .get fun item hitem => ?_
  refine .ite (fun _ => .pure trivial) fun _ => ?_
  refine .bind (keeps_callUnit _ hstart hitem.name) fun _ _ => ?_
  refine .bind (staysIn_waitItem hwait timeout) fun _ _ => .bind .get fun _ _ => ?_
  exact .ite (fun _ => .pure trivial) fun _ => .throw

theorem staysIn_runCommands (hconnect : kinds site .connect)
    (hP : ∀ fields, P fields → CommandsFor n fields.commands) :
    StaysIn nameOf n kinds P (fun _ => True) (runCommands site) := by
  refine .bind .get fun item hitem => .forM fun command hcommand => staysIn_attempt ?_
  exact .ite (fun _ => keeps_callUnit _ hconnect (hP _ hitem.fields command hcommand))
    fun _ => .throw

/-! ## Second pass -/

theorem staysIn_stopItem (hexec : kinds .stop .exec) (hstop : kinds .stop .stop)
    (hlook : kinds .stop .look) (hlog : kinds .stop .log) (hname : nameOf n = n)
    (hooksMap : HooksMap)
    (isUpdate : Bool) :
    StaysIn nameOf n kinds P (fun _ => True) (stopItem n hooksMap isUpdate) := by
  refine .bind .get fun _ _ => .ite (fun _ => ?_) fun _ => .pure trivial
  refine .bind (V := fun _ => True) ?_ fun errors _ => .ite (fun _ => ?_) fun _ => ?_
  · refine .bind (keeps_runHooks hexec _ _) fun errors _ => ?_
    exact .ite (fun _ => keeps_runHooks hexec _ _) fun _ => .pure trivial
  · refine staysIn_attempt (.bind (keeps_callUnit _ hstop rfl) fun _ _ => ?_)
    exact .bind (staysIn_call hlook hname) fun c hc =>
      staysIn_setContainer (hc.1.trans hname) hc.2
  · exact .bind (staysIn_addErrors _) fun _ _ =>
      keeps_log (by simpa [LogLine.site] using hlog) rfl

/-! ## Third pass -/

theorem staysIn_removeItem (hdis : kinds site .disconnect) (hremove : kinds site .remove) :
    StaysIn nameOf n kinds P (fun _ => True) (removeItem site) :=
  .bind .get fun _ hitem => .bind (staysIn_disconnectAllNetworks hdis hitem.name) fun _ _ =>
    keeps_callUnit _ hremove hitem.name

theorem staysIn_removeOld (hlook : kinds .recreate .look)
    (hdis : kinds .recreate .disconnect) (hremove : kinds .recreate .remove) :
    StaysIn nameOf n kinds P (fun _ => True) removeOld := by
  refine .bind .get fun item hitem => ?_
  have hname : nameOf item.name = n := hitem.nameOf_name
  refine .bind (keeps_callUnit _ hlook hname) fun _ _ => ?_
  exact .bind (.whenA (staysIn_inspectItem hlook)) fun _ _ => staysIn_removeItem hdis hremove

/-- The configuration of the update is one for the container `n`. -/
structure InputsOk (n : String) (inputs : UpdateInputs) : Prop where
  name : inputs.config.name = some n
  nonblank : isBlank n = false

theorem staysIn_createMerged {inputs : UpdateInputs} (hinputs : InputsOk n inputs)
    (hcreate : kinds .recreate .create) :
    StaysIn nameOf n kinds P (fun _ => True) (createMerged inputs) := by
  refine .bind (V := fun merged => merged.name = some n) (.ofExcept fun merged h => ?_)
    fun merged hmerged => ?_
  · exact (diffContainerConfigWithImage_ok h).1 n hinputs.name hinputs.nonblank
  · refine .bind (staysIn_call hcreate hmerged) fun c hc => ?_
    have hname : c.name = n := Option.some.inj (hc.1.symm.trans hmerged)
    exact staysIn_setContainer hname hc.2

theorem staysIn_startCreated (hstart : kinds site .start) (hconnect : kinds site .connect)
    (hlook : kinds site .look) (hP : ∀ fields, P fields → CommandsFor n fields.commands) :
    StaysIn nameOf n kinds P (fun _ => True) (startCreated site) :=
  .bind .get fun _ hitem => .bind (keeps_callUnit _ hstart hitem.name) fun _ _ =>
    .bind (staysIn_runCommands hconnect hP) fun _ _ => staysIn_inspectItem hlook

theorem staysIn_removeUnhealthy (hexec : kinds .recreate .exec) (hstop : kinds .recreate .stop)
    (hlook : kinds .recreate .look) (hdis : kinds .recreate .disconnect)
    (hremove : kinds .recreate .remove) (hooksMap : HooksMap) :
    StaysIn nameOf n kinds P (fun _ => True) (removeUnhealthy hooksMap) :=
  .bind (staysIn_runItemHooks hexec hooksMap _) fun _ _ => .bind .get fun _ hitem =>
    .bind (keeps_callUnit _ hstop hitem.name) fun _ _ =>
      .bind (staysIn_inspectItem hlook) fun _ _ => staysIn_removeItem hdis hremove

theorem staysIn_cleanup (hkinds : ∀ kind, kind ∉ [Kind.create, .start] → kinds .cleanup kind)
    (hooksMap : HooksMap) :
    StaysIn nameOf n kinds P (fun _ => True) (cleanup hooksMap) := by
  have hlook := hkinds .look (by decide)
  refine .bind .get fun item hitem => ?_
  have hname : nameOf item.name = n := hitem.nameOf_name
  refine .bind (keeps_callUnit _ hlook hname) fun _ _ => .ite (fun _ => ?_)
    fun _ => .pure trivial
  refine .bind (staysIn_inspectItem hlook) fun _ _ => ?_
  refine .bind (.bind .get fun _ _ => .whenA (staysIn_runItemHooks (hkinds _ (by decide)) _ _))
    fun _ _ => .bind .get fun _ hitem' => ?_
  refine .bind (keeps_callUnit _ (hkinds .stop (by decide)) hitem'.name) fun _ _ => ?_
  exact .bind (staysIn_inspectItem hlook) fun _ _ =>
    staysIn_removeItem (hkinds _ (by decide)) (hkinds _ (by decide))

theorem staysIn_tagPrevious (himage : kinds .rollBack .image) (hlog : kinds .rollBack .log)
    (inputs : UpdateInputs) :
    StaysIn nameOf n kinds P (fun _ => True) (tagPrevious inputs) :=
  .bind .get fun _ hitem =>
    .bind (keeps_log (by simpa [LogLine.site] using hlog) hitem.name) fun _ _ =>
    staysIn_attempt (keeps_callUnit _ himage trivial)

/-- Setting the result keeps what is known of the other fields. -/
def IgnoresResult (P : ItemFields → Prop) : Prop :=
  ∀ fields result, P fields → P { fields with result := some result }

theorem staysIn_startNew (hkinds : ∀ kind, kinds .recreate kind)
    (hwait : WaitKinds kinds) (hP : ∀ fields, P fields → CommandsFor n fields.commands)
    (hres : IgnoresResult P) (hooksMap : HooksMap) (timeout : Int) :
    StaysIn nameOf n kinds P (fun _ => True) (startNew hooksMap timeout) := by
  refine .bind (staysIn_startCreated (hkinds _) (hkinds _) (hkinds _) hP) fun _ _ => ?_
  refine .bind (staysIn_waitItem hwait timeout) fun _ _ => .ite (fun _ => ?_) fun _ => ?_
  · exact .bind (staysIn_setResult fun _ => hres _ _) fun _ _ =>
      .bind (staysIn_runItemHooks (hkinds _) _ _) fun _ _ => .pure trivial
  · exact .bind (staysIn_removeUnhealthy (hkinds _) (hkinds _) (hkinds _) (hkinds _) (hkinds _)
      _) fun _ _ => .pure trivial

/-- What an update asks for up to the creation of the new container, and what its
cleanup asks for. -/
structure RecreateKinds (kinds : Site → Kind → Prop) : Prop where
  recreate : ∀ kind ∈ [Kind.look, .disconnect, .remove, .create], kinds .recreate kind
  cleanup : ∀ kind, kind ∉ [Kind.create, .start] → kinds .cleanup kind

/-- What an update asks for where the new container is started. -/
structure StartNewKinds (kinds : Site → Kind → Prop) : Prop where
  recreate : ∀ kind, kinds .recreate kind
  wait : WaitKinds kinds

theorem staysIn_recreate {inputs : UpdateInputs} (hinputs : InputsOk n inputs)
    (hkinds : RecreateKinds kinds)
    (hstart : ∀ fields, P fields → fields.wasRunning → StartNewKinds kinds)
    (hP : ∀ fields, P fields → CommandsFor n fields.commands) (hres : IgnoresResult P)
    (hooksMap : HooksMap) (timeout : Int) :
    StaysIn nameOf n kinds P (fun _ => True) (recreate hooksMap timeout inputs) := by
  have hrecreate := hkinds.recreate
  refine .bind (staysIn_removeOld (hrecreate _ (by decide)) (hrecreate _ (by decide))
    (hrecreate _ (by decide))) fun _ _ => ?_
  refine .bind (staysIn_createMerged hinputs (hrecreate _ (by decide))) fun _ _ => ?_
  refine .bind .get fun item hitem => .ite (fun hrun => ?_) fun _ => ?_
  · have hnew := hstart item.fields hitem.fields hrun
    exact staysIn_startNew hnew.recreate hnew.wait hP hres hooksMap timeout
  · exact .bind (staysIn_setResult fun _ => hres _ _) fun _ _ => .pure trivial

theorem staysIn_recreateOrCleanUp {inputs : UpdateInputs} (hinputs : InputsOk n inputs)
    (hkinds : RecreateKinds kinds)
    (hstart : ∀ fields, P fields → fields.wasRunning → StartNewKinds kinds)
    (hP : ∀ fields, P fields → CommandsFor n fields.commands)
    (hres : IgnoresResult P) (hooksMap : HooksMap) (timeout : Int) :
    StaysIn nameOf n kinds P (fun _ => True) (recreateOrCleanUp hooksMap timeout inputs) := by
  refine .tryCatch (staysIn_recreate hinputs hkinds hstart hP hres hooksMap timeout)
    fun _ => .bind (staysIn_addErrors _) fun _ _ => ?_
  exact .bind (staysIn_attempt (staysIn_cleanup hkinds.cleanup _)) fun _ _ => .pure trivial

theorem staysIn_restore {inputs : UpdateInputs} (hinputs : InputsOk n inputs)
    (hkinds : ∀ kind, kinds .rollBack kind) (hwait : WaitKinds kinds)
    (hP : ∀ fields, P fields → CommandsFor n fields.commands) (hres : IgnoresResult P)
    (hooksMap : HooksMap) (timeout : Int) :
    StaysIn nameOf n kinds P (fun _ => True) (restore hooksMap timeout inputs) := by
  refine .bind (staysIn_call (hkinds _) hinputs.name) fun c hc => ?_
  have hname : c.name = n := Option.some.inj (hc.1.symm.trans hinputs.name)
  refine .bind (staysIn_setContainer hname hc.2) fun _ _ => ?_
  refine .bind (staysIn_startCreated (hkinds _) (hkinds _) (hkinds _) hP) fun _ _ => ?_
  refine .bind (staysIn_setResult fun _ => hres _ _) fun _ _ => ?_
  exact .bind (staysIn_runItemHooks (hkinds _) _ _) fun _ _ => staysIn_waitItem hwait timeout

theorem staysIn_rollBack {inputs : UpdateInputs} (hinputs : InputsOk n inputs)
    (hkinds : ∀ kind, kinds .rollBack kind) (hwait : WaitKinds kinds)
    (hP : ∀ fields, P fields → CommandsFor n fields.commands) (hres : IgnoresResult P)
    (hooksMap : HooksMap) (timeout : Int) :
    StaysIn nameOf n kinds P (fun _ => True) (rollBack hooksMap timeout inputs) := by
  refine .bind (staysIn_tagPrevious (hkinds _) (hkinds _) inputs) fun _ _ => ?_
  refine .tryCatch (staysIn_restore hinputs hkinds hwait hP hres hooksMap timeout)
    fun _ => .bind (staysIn_addErrors _) fun _ _ => ?_
  exact .bind (staysIn_setResult fun _ => hres _ _) fun _ _ => .pure trivial

theorem staysIn_updateItem
    (hkinds : ∀ site, site ≠ .prepare ∧ site ≠ .stop → ∀ kind, kinds site kind)
    (hP : ∀ fields, P fields → CommandsFor n fields.commands) (hres : IgnoresResult P)
    (hinputs : ∀ item : UpdatePlanItem, P item.fields → ∀ inputs, canUpdate item = some inputs →
      InputsOk n inputs) (hooksMap : HooksMap) (timeout : Int) :
    StaysIn nameOf n kinds P (fun _ => True) (updateItem hooksMap timeout) := by
  have hwait : WaitKinds kinds := ⟨hkinds _ (by decide) _, hkinds _ (by decide) _⟩
  refine .bind .get fun item hitem => ?_
  cases hcan : canUpdate item with
  | none =>
      exact .bind (staysIn_attempt (staysIn_attemptStartWithHealth (hkinds _ (by decide) _)
        (hkinds _ (by decide) _) hwait timeout)) fun _ _ => .pure trivial
  | some inputs =>
      have hin := hinputs item hitem.fields inputs hcan
      have hlog : kinds .recreate .log := hkinds _ (by decide) _
      refine .bind (keeps_log (by simpa [LogLine.site] using hlog) hitem.name) fun _ _ => ?_
      have hrecreate : RecreateKinds kinds :=
        ⟨fun kind _ => hkinds _ (by decide) kind, fun kind _ => hkinds _ (by decide) kind⟩
      refine .bind (staysIn_recreateOrCleanUp hin hrecreate
        (fun _ _ _ => ⟨hkinds _ (by decide), hwait⟩) hP hres hooksMap timeout)
        fun _ _ => .ite (fun _ => .pure trivial) fun _ => ?_
      exact staysIn_rollBack hin (hkinds _ (by decide)) hwait hP hres hooksMap timeout

end

end Tugtainer
