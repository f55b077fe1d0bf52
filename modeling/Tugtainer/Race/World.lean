import Tugtainer.Executor.Docker
import Tugtainer.Interaction.Cooperative
import Tugtainer.Race.Row

/-!
# A check and an update at the same time

`raceSystem` has two tasks: a check that comes to the container, and the execution of a
plan. Meanwhile images are pushed to the registry. The world they share is the table, the
registry and the host, together with what the steps before have left to know: the digest of
the tag when the update pulled it and the one that the lookup obtained since, the image that the
container was created from (`RaceWorld.created`) and the digest that this image was pulled with
(`RaceWorld.base`), and whether the check has saved the row before the update read it
(`RaceWorld.early`).
-/

namespace Tugtainer

open Python Interaction

/-- The container and its tag, and what is known of references and images. -/
structure RaceEnv where
  hostId : Int
  name : String
  tag : String
  /-- the form in which references to the same tag are equal -/
  canonical : String → String
  /-- the digest is one of the image -/
  carries : String → String → Prop

/-- What the tasks share, and what has happened. -/
structure RaceWorld where
  table : Table
  keyed : table.Keyed
  /-- the digest of each tag -/
  registry : String → String
  docker : Docker
  /-- the row that a check has asked for last -/
  checking : Option (Int × String) := none
  /-- the digest of the tag when the update pulled it last -/
  pulled : Option String := none
  /-- the digest that the check's lookup has obtained since then -/
  looked : Option String := none
  /-- the digest of the reference by whose pull the tag got the image that it names on the
  host, unless it got it in another way -/
  named : Option String := none
  /-- the image that the container was created from -/
  created : Option String := none
  /-- what `named` was when the container was created from the tag -/
  base : Option String := none
  /-- the update has read the rows -/
  queried : Bool := false
  /-- the check has saved the row before that -/
  early : Bool := false

namespace RaceWorld

variable (E : RaceEnv) (w : RaceWorld)

/-- The row of the container. -/
def row : Option ContainersModel := w.table E.hostId E.name

def push (spec digest : String) : RaceWorld :=
  { w with registry := Function.update w.registry spec digest }

/-- The digest of the tag at the lookup or at the update's pull, whichever came later. -/
def seen : Option String := w.looked.or w.pulled

/-- What `named` is after a request that was carried out: a pull gives the tag the image that
the registry has, and `image.tag` any image. -/
def namedAfter : (request : Request) → request.Result → Option String
  | .imagePull spec, result =>
      if E.canonical spec = E.canonical E.tag then
        (result : ImageInspectResult).id.map fun _ => w.registry spec
      else w.named
  | .imageTag _ tag, _ => if E.canonical tag = E.canonical E.tag then none else w.named
  | _, _ => w.named

/-- What `created` is after a request that was carried out: `create` takes the image that the
reference names at that time. -/
def createdAfter : (request : Request) → request.Result → Option String
  | .containerCreate body, result =>
      if E.name = body.name.getD (result : ContainerInspectResult).name then
        w.docker.images (E.canonical body.image)
      else w.created
  | .containerRemove name, _ => if E.name = name then none else w.created
  | _, _ => w.created

/-- What `base` is after a request that was carried out. -/
def baseAfter : (request : Request) → request.Result → Option String
  | .containerCreate body, result =>
      if E.name = body.name.getD (result : ContainerInspectResult).name then
        if E.canonical body.image = E.canonical E.tag then w.named else none
      else w.base
  | .containerRemove name, _ => if E.name = name then none else w.base
  | _, _ => w.base

/-- A request to the agent of the host that was carried out. -/
def performed (site : Option Site) (request : Request) (result : request.Result) : RaceWorld :=
  let pulls : Bool := site = some .prepare ∧ request = .imagePull E.tag
  { w with
    docker := w.docker.perform E.canonical request result
    pulled := if pulls then some (w.registry E.tag) else w.pulled
    looked := if pulls then none else w.looked
    named := w.namedAfter E request result
    created := w.createdAfter E request result
    base := w.baseAfter E request result }

/-- A request to an agent, with its result where it was carried out. -/
def requested (hostId : Int) (site : Option Site) (request : Request) :
    Option request.Result → RaceWorld
  | none => w
  | some result => if hostId = E.hostId then w.performed E site request result else w

def lookedUp (spec : String) (digest : Option String) : RaceWorld :=
  if w.checking = some (E.hostId, E.name) ∧ spec = E.tag ∧ truthy digest then
    { w with looked := digest }
  else w

/-- Rows are written. Before the update has read them, only the check does so. -/
def written (table : Table) (keyed : table.Keyed) (touches : Bool) : RaceWorld :=
  { w with table := table, keyed := keyed, early := w.early || touches && !w.queried }

def next (w : RaceWorld) : Event Backend → RaceWorld
  | ⟨.selectContainer hostId name, _⟩ => { w with checking := some (hostId, name) }
  | ⟨.selectContainers _ _, .ok _⟩ => { w with queried := true }
  | ⟨.remoteDigest spec _, .ok digest⟩ => w.lookedUp E spec digest
  | ⟨.agent hostId site request, reply⟩ => w.requested E hostId site request (Reply.effect reply)
  | ⟨.commit hostId changes, reply⟩ =>
      if (Reply.effect reply).isSome then
        w.written (w.table.commit hostId changes) (w.keyed.commit hostId changes)
          (hostId = E.hostId ∧ E.name ∈ changes.map Prod.fst)
      else w
  | ⟨.insert hostId name data, reply⟩ =>
      if (Reply.effect reply).isSome then
        w.written (w.table.set hostId name (data.newRow hostId name))
          (w.keyed.insert hostId name data) (hostId = E.hostId ∧ name = E.name)
      else w
  | _ => w

/-- What an operation is answered: rows are those of the table, a lookup obtains the digest
of the tag, and a pulled image carries it. Everything may fail. -/
def Answers : Event Backend → Prop
  | ⟨.selectContainer hostId name, .ok row⟩ => row = w.table hostId name
  | ⟨.selectContainers hostId names, .ok rows⟩ => w.table.Lists hostId {n | n ∈ names} rows
  | ⟨.remoteDigest spec _, .ok (some digest)⟩ =>
      truthy (some digest) = true → digest = w.registry spec
  | ⟨.agent _ _ (.imagePull spec), reply⟩ => ∀ image ∈ Reply.effect reply,
      ∀ id ∈ (image : ImageInspectResult).id, E.carries id (w.registry spec)
  | _ => True

end RaceWorld

def raceContract (E : RaceEnv) : Contract Backend RaceWorld where
  next := RaceWorld.next E
  rely := RaceWorld.Answers E
  guar _ _ := True

/-- What the tasks of the race return: the update its result, the check nothing. -/
abbrev RaceResult := Except Exn (Option UpdatePlanResult) × Unit

/-- The two tasks are there from the start. Images may be pushed at any time. -/
def raceSystem (E : RaceEnv) :
    System Backend RaceResult (CheckPhase ⊕ UpdatePhase) RaceWorld where
  awaited := BackendOp.isAwaited
  world := raceContract E
  view := (checkContract E.hostId E.name).sum updateContract
  starts _ _ := False
  env w w' := ∃ spec digest, w' = w.push spec digest

abbrev RacePool := Pool Backend RaceResult (CheckPhase ⊕ UpdatePhase) RaceWorld

/-- A check that may come to the container. -/
inductive RaceCheck where
  | container (host : HostsModel) (container : ContainerInspectResult)
  | host (host : HostsModel) (manual : Bool)

def RaceCheck.task : RaceCheck → BackendM Unit (Option UpdatePlanResult)
  | .container h c => do
      let _ ← checkOneContainer h c
      pure none
  | .host h manual => do
      let _ ← checkHostContainers h manual
      pure none

/-- An execution of a plan. -/
structure RaceUpdate where
  env : BackendEnv
  host : HostsModel
  containers : HostContainers
  plan : UpdatePlan
  dockerVersion : Option DockerVersion

def RaceUpdate.task (u : RaceUpdate) : BackendM Unit (Option UpdatePlanResult) :=
  execute u.env u.host u.containers u.plan u.dockerVersion

/-- The pool in which both start. -/
def racePool (E : RaceEnv) (check : RaceCheck) (update : RaceUpdate) (table : Table)
    (keyed : table.Keyed) (registry : String → String) (docker : Docker) : RacePool where
  tasks := [(check.task (), .inl (.idle [])), (update.task (), .inr .before)]
  active := none
  world :=
    { table := table
      keyed := keyed
      registry := registry
      docker := docker
      created := (docker.containers E.name).bind DockerContainer.image }

end Tugtainer
