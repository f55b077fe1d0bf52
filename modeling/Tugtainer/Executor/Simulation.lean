import Tugtainer.Executor.Rules

/-!
# A simulated host

An executable environment for the executor: a host whose containers start and
stop as asked, and on which chosen requests fail. `simulate_agrees` says that it
answers as Docker does, as far as names are concerned, so that what a program
does on it is a run to which the theorems about the executor apply.
-/

namespace Tugtainer

open Python Interaction

/-- What is fixed about a simulated host: the image that each reference is pulled
as, the hooks of its containers, and the requests that fail. -/
structure Scenario where
  registry : String → String
  hooks : HooksMap := []
  fails : Site → Request → Bool

/-- What changes: the containers and the images that references point to. -/
structure SimHost where
  containers : List ContainerInspectResult
  images : Dict String String

/-- The name in an id: the part before `@`. -/
def simNameOf (ref : String) : String :=
  String.ofList (ref.toList.takeWhile (· != '@'))

namespace SimHost

def find (host : SimHost) (ref : String) : Option ContainerInspectResult :=
  host.containers.find? fun c => c.name = simNameOf ref

def setStatus (host : SimHost) (ref status : String) : SimHost :=
  { host with
    containers := host.containers.map fun c =>
      if c.name = simNameOf ref then { c with state := some { status := some status } } else c }

/-- The container created from a configuration with that name. -/
def make (host : SimHost) (body : CreateContainerRequestBodySchema) (name : String)
    (h : isBlank name = false) : ContainerInspectResult where
  id := some (name ++ "@new")
  name := name
  image := host.images.get? body.image
  state := some { status := some "created" }
  config := some { image := some body.image, labels := body.labels }
  name_nonblank := h

/-- Create a container, unless its name is taken or no name at all. -/
def create (host : SimHost) (body : CreateContainerRequestBodySchema) :
    Reply ContainerInspectResult × SimHost :=
  match body.name with
  | none => (.raised none, host)
  | some name =>
      if h : isBlank name = false ∧ simNameOf name = name then
        if (host.find name).isSome then (.raised none, host)
        else
          let c := host.make body name h.1
          (.ok c, { host with containers := host.containers ++ [c] })
      else (.raised none, host)

def inspect (host : SimHost) (ref : String) : Reply ContainerInspectResult × SimHost :=
  match host.find ref with
  | none => (.raised none, host)
  | some c => (.ok c, host)

def answer (scenario : Scenario) (host : SimHost) :
    (request : Request) → Reply request.Result × SimHost
  | .imageInspect specOrId => (.ok ({ id := some specOrId } : ImageInspectResult), host)
  | .imagePull image =>
      (.ok ({ id := some (scenario.registry image) } : ImageInspectResult),
        { host with images := host.images.set image (scenario.registry image) })
  | .imageTag specOrId tag => (.ok (), { host with images := host.images.set tag specOrId })
  | .containerExists ref => (.ok (host.find ref).isSome, host)
  | .containerInspect ref => host.inspect ref
  | .containerCreate body => host.create body
  | .containerStart ref => (.ok (), host.setStatus ref "running")
  | .containerStop ref => (.ok (), host.setStatus ref "exited")
  | .containerRemove ref =>
      (.ok (), { host with containers := host.containers.filter (·.name ≠ simNameOf ref) })
  | .containerExec _ _ | .networkDisconnect _ _ _ | .commandRun _ => (.ok (), host)

/-- The answer to a request: nothing is carried out where it fails. -/
def reply (scenario : Scenario) (host : SimHost) (site : Site) (request : Request) :
    Reply request.Result × SimHost :=
  if scenario.fails site request then (.raised none, host) else host.answer scenario request

end SimHost

def simulate (scenario : Scenario) : Handler Agent SimHost
  | .agent site request, host => host.reply scenario site request
  | .progressGet _, host => (none, host)
  | .getHooksMap _ _, host => (.ok scenario.hooks, host)
  | .updateContainersData _, host => (.ok (), host)
  | .sleep _, host => ((0 : ℕ), host)
  | .progressSet _ _, host | .progressUpdate _ _ _, host | .sleepAbout _, host
  | .log _, host => ((), host)

/-! ## It answers as Docker does -/

/-- Every container of the host goes by its name and its id. -/
def SimHost.Wf (host : SimHost) : Prop :=
  ∀ c ∈ host.containers, GoesBy simNameOf c

theorem simNameOf_id {name : String} (h : simNameOf name = name) :
    simNameOf (name ++ "@new") = name := by
  have hall : ∀ c ∈ name.toList, (c != '@') = true := by
    have htake : name.toList.takeWhile (· != '@') = name.toList := by
      have hl := congrArg String.toList h
      rwa [simNameOf, String.toList_ofList] at hl
    intro c hc
    rw [← htake] at hc
    exact List.mem_takeWhile_imp (p := (· != '@')) hc
  unfold simNameOf
  rw [String.toList_append, List.takeWhile_append_of_pos hall]
  have htail : List.takeWhile (· != '@') "@new".toList = [] := by decide
  rw [htail, List.append_nil, String.ofList_toList]

theorem SimHost.find_some {host : SimHost} {ref : String} {c : ContainerInspectResult}
    (h : host.find ref = some c) : c ∈ host.containers ∧ c.name = simNameOf ref :=
  ⟨List.mem_of_find?_eq_some h, by simpa using List.find?_some h⟩

theorem SimHost.Wf.setStatus {host : SimHost} (hwf : host.Wf) (ref status : String) :
    (host.setStatus ref status).Wf := by
  intro c hc
  obtain ⟨c', hc', rfl⟩ := List.mem_map.1 hc
  have hgoes := hwf c' hc'
  split
  · exact hgoes
  · exact hgoes

theorem SimHost.inspect_agrees {host : SimHost} (hwf : host.Wf) (site : Site) (ref : String) :
    (host.inspect ref).2.Wf ∧
      Agrees simNameOf (answered site (.containerInspect ref) (host.inspect ref).1) := by
  unfold SimHost.inspect
  split
  · exact ⟨hwf, trivial⟩
  · rename_i c hc
    exact ⟨hwf, (find_some hc).2, hwf c (find_some hc).1⟩

theorem SimHost.create_agrees {host : SimHost} (hwf : host.Wf) (site : Site)
    (body : CreateContainerRequestBodySchema) :
    (host.create body).2.Wf ∧
      Agrees simNameOf (answered site (.containerCreate body) (host.create body).1) := by
  unfold SimHost.create
  split
  · exact ⟨hwf, trivial⟩
  · rename_i name hname
    split
    · rename_i h
      have hgoes : GoesBy simNameOf (host.make body name h.1) := by
        refine ⟨h.2, fun id hid => ?_⟩
        obtain rfl : name ++ "@new" = id := by simpa [SimHost.make] using hid
        exact simNameOf_id h.2
      split
      · exact ⟨hwf, trivial⟩
      · refine ⟨fun c hc => ?_, hname, hgoes⟩
        rcases List.mem_append.1 hc with hc | hc
        · exact hwf c hc
        · obtain rfl := List.mem_singleton.1 hc
          exact hgoes
    · exact ⟨hwf, trivial⟩

theorem SimHost.answer_agrees {host : SimHost} (hwf : host.Wf) (scenario : Scenario)
    (site : Site) (request : Request) :
    (host.answer scenario request).2.Wf ∧
      Agrees simNameOf (answered site request (host.answer scenario request).1) := by
  cases request with
  | containerInspect ref => exact inspect_agrees hwf site ref
  | containerCreate body => exact create_agrees hwf site body
  | containerStart ref => exact ⟨hwf.setStatus ref _, trivial⟩
  | containerStop ref => exact ⟨hwf.setStatus ref _, trivial⟩
  | containerRemove ref => exact ⟨fun c hc => hwf c (List.mem_of_mem_filter hc), trivial⟩
  | _ => exact ⟨hwf, trivial⟩

theorem SimHost.reply_agrees {host : SimHost} (hwf : host.Wf) (scenario : Scenario)
    (site : Site) (request : Request) :
    (host.reply scenario site request).2.Wf ∧
      Agrees simNameOf (answered site request (host.reply scenario site request).1) := by
  unfold SimHost.reply
  by_cases hf : scenario.fails site request
  · rw [if_pos hf]
    refine ⟨hwf, ?_⟩
    cases request <;> trivial
  · rw [if_neg hf]
    exact answer_agrees hwf scenario site request

theorem simulate_step (scenario : Scenario) (op : Op) {host : SimHost} (hwf : host.Wf) :
    (simulate scenario op host).2.Wf ∧
      Agrees simNameOf ⟨op, (simulate scenario op host).1⟩ := by
  cases op with
  | agent site request => exact SimHost.reply_agrees hwf scenario site request
  | _ => exact ⟨hwf, trivial⟩

theorem exec_agrees {h : Handler Agent SimHost}
    (hstep : ∀ op host, host.Wf → (h op host).2.Wf ∧ Agrees simNameOf ⟨op, (h op host).1⟩)
    {α : Type} (p : Prog Agent α) {host : SimHost} (hwf : host.Wf) :
    ∀ e ∈ (p.exec h host).1, Agrees simNameOf e := by
  induction p generalizing host with
  | ret a => simp [Prog.exec]
  | call op k ih =>
      intro e he
      rcases List.mem_cons.1 he with rfl | he
      · exact (hstep op host hwf).2
      · exact ih _ (hstep op host hwf).1 e he

theorem simulate_agrees {α : Type} (scenario : Scenario) (p : Prog Agent α) {host : SimHost}
    (hwf : host.Wf) : ∀ e ∈ (p.exec (simulate scenario) host).1, Agrees simNameOf e :=
  exec_agrees (fun op _ => simulate_step scenario op) p hwf

/-! ## Reading a trace -/

/-- The kind of a request and the container that it names. -/
def Op.asked : Op → Option (Kind × String)
  | .agent _ request => request.target.map fun n => (request.kind, n)
  | _ => none

theorem Op.asks {op : Op} {kind : Kind} {n : String} (h : op.asked = some (kind, n))
    {kinds : Set Kind} (hkind : kind ∈ kinds) : Asks kinds n op := by
  cases op with
  | agent site request =>
      obtain ⟨m, hm, heq⟩ := Option.map_eq_some_iff.1 h
      cases heq
      exact ⟨site, request, rfl, hm, hkind⟩
  | _ => cases h

/-- Whether a trace has a request of that kind for that container. -/
def hasAsked (kind : Kind) (n : String) (tr : Trace Agent) : Bool :=
  tr.any fun e => e.op.asked = some (kind, n)

theorem exists_asks {kind : Kind} {n : String} {tr : Trace Agent} (h : hasAsked kind n tr)
    {kinds : Set Kind} (hkind : kind ∈ kinds) : ∃ e ∈ tr, Asks kinds n e.op := by
  obtain ⟨e, he, hasked⟩ := List.any_eq_true.1 h
  exact ⟨e, he, Op.asks (by simpa using hasked) hkind⟩

def hasLogged (line : LogLine) (tr : Trace Agent) : Bool :=
  tr.any fun e => match e.op with
    | .log line' => line' = line
    | _ => false

theorem exists_logged {line : LogLine} {tr : Trace Agent} (h : hasLogged line tr) :
    ∃ e ∈ tr, e.op = .log line := by
  obtain ⟨e, he, hline⟩ := List.any_eq_true.1 h
  refine ⟨e, he, ?_⟩
  cases hop : e.op with
  | log line' =>
      rw [hop] at hline
      rw [of_decide_eq_true hline]
  | _ =>
      rw [hop] at hline
      cases hline

/-! ## Examples of hosts -/

def faultless : Scenario where
  registry := id
  fails _ _ := false

/-- A host that does not wait for healthchecks, and settings with hooks. -/
def exampleHost : HostsModel where
  id := 1
  name := "host"
  containerHcTimeout := 0

def exampleEnv : ExecEnv where
  allowHooks := true
  registryReqDelay := 0

/-- The executor on a simulated host: the trace, the outcome and the items. -/
def simulateExecution (scenario : Scenario) (env : ExecEnv) (host : HostsModel)
    (containers : HostContainers) (plan : UpdatePlan) (images : Dict String String) :
    Trace Agent × Except Exn (Option UpdatePlanResult) × Items :=
  (executeUpdatePlan env host containers plan none []).exec (simulate scenario)
    { containers := containers.list, images := images }

theorem simulateExecution_execution (scenario : Scenario) (env : ExecEnv) (host : HostsModel)
    (containers : HostContainers) (plan : UpdatePlan) (images : Dict String String)
    (hgoes : ∀ c ∈ containers.list, GoesBy simNameOf c) :
    Execution simNameOf env host containers plan none
      (simulateExecution scenario env host containers plan images).1
      (simulateExecution scenario env host containers plan images).2.1
      (simulateExecution scenario env host containers plan images).2.2 where
  runs := Prog.exec_runs _ _ _
  agrees := simulate_agrees scenario _ hgoes
  goesBy := hgoes

end Tugtainer
