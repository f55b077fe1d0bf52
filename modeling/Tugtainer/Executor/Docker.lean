import Tugtainer.Executor.Execute

/-!
# What a run does to Docker

`Docker` is the part of a host that the executor changes: the container that
holds each name, and the image that each reference points to. `Docker.apply`
follows the requests that were carried out: `create` resolves the image of the
configuration, `pull` and `tag` move a reference. References that name the same
tag, like `nginx` and `nginx:latest`, are identified by `canonical`.

`Agrees` is what the executor relies on: a container found under a name or an id
has that name, and no container is renamed while the plan is executed.
-/

namespace Tugtainer

open Python Interaction

/-- A container as a run leaves it. What it was created from is known only of the
containers that the run created. -/
structure DockerContainer where
  createdFrom : Option CreateContainerRequestBodySchema := none
  image : Option String := none
  running : Bool := false
  networks : Finset String := ∅
  deriving DecidableEq

/-- The networks that a container is attached to. -/
def networksOf (c : ContainerInspectResult) : Finset String :=
  ((attachedNetworks c).map Prod.fst).toFinset

/-- The containers of a host by name, and the images by reference. -/
structure Docker where
  containers : String → Option DockerContainer
  images : String → Option String

/-- Docker attaches a created container to the networks given to `create`, or to
the default network where none is given. The mode `container:…` is no network:
such a container shares that of another one. -/
def createdNetworks (body : CreateContainerRequestBodySchema) : Finset String :=
  match body.networks with
  | none => {"bridge"}
  | some networks => (networks.filter fun n => !startsWith n "container:").toFinset

/-- The network and the container of a `network connect` command. -/
def connectTarget (command : List String) : Option (String × String) :=
  match command with
  | "network" :: "connect" :: args =>
      match args.reverse with
      | container :: network :: _ => some (network, container)
      | _ => none
  | _ => none

namespace Docker

def modifyContainer (d : Docker) (name : String) (f : DockerContainer → DockerContainer) :
    Docker :=
  { d with containers := fun n => if n = name then (d.containers n).map f else d.containers n }

def setImage (d : Docker) (reference : String) (image : Option String) : Docker :=
  { d with images := fun r => if r = reference then image else d.images r }

/-- What a request does that was carried out with that result. -/
def perform (canonical : String → String) (d : Docker) :
    (request : Request) → request.Result → Docker
  | .imagePull image, result => d.setImage (canonical image) (result : ImageInspectResult).id
  | .imageTag specOrId tag, _ => d.setImage (canonical tag) (some specOrId)
  | .containerCreate body, result =>
      { d with
        containers := fun n =>
          if n = body.name.getD (result : ContainerInspectResult).name then
            some
              { createdFrom := some body
                image := d.images (canonical body.image)
                networks := createdNetworks body }
          else d.containers n }
  | .containerStart name, _ => d.modifyContainer name fun c => { c with running := true }
  | .containerStop name, _ => d.modifyContainer name fun c => { c with running := false }
  | .containerRemove name, _ =>
      { d with containers := fun n => if n = name then none else d.containers n }
  | .networkDisconnect network name _, _ =>
      d.modifyContainer name fun c => { c with networks := c.networks.erase network }
  | .commandRun command, _ =>
      match connectTarget command with
      | none => d
      | some (network, name) =>
          d.modifyContainer name fun c => { c with networks := insert network c.networks }
  | _, _ => d

/-- What an event does: nothing, unless it is a request that was carried out. -/
def apply (canonical : String → String) (d : Docker) (e : Event Agent) : Docker :=
  match e with
  | ⟨.agent _ request, reply⟩ =>
      match Reply.effect reply with
      | none => d
      | some result => d.perform canonical request result
  | _ => d

/-- The host before a run, as its containers show it. -/
def ofHost (host : HostContainers) : Docker where
  containers n := (host.list.find? fun c => c.name = n).map fun c =>
    { running := isRunningContainer c, networks := networksOf c }
  images _ := none

/-- The host after a trace. -/
def after (canonical : String → String) (d : Docker) (tr : Trace Agent) : Docker :=
  tr.foldl (apply canonical) d

@[simp] theorem after_concat (canonical : String → String) (d : Docker) (tr : Trace Agent)
    (e : Event Agent) :
    after canonical d (tr ++ [e]) = (after canonical d tr).apply canonical e := by
  simp [after]

end Docker

/-! ## Names -/

/-- A container that goes by its name and by its id. -/
def GoesBy (nameOf : String → String) (c : ContainerInspectResult) : Prop :=
  nameOf c.name = c.name ∧ ∀ id ∈ c.id, nameOf id = c.name

instance (nameOf : String → String) (c : ContainerInspectResult) :
    Decidable (GoesBy nameOf c) :=
  inferInstanceAs (Decidable (_ ∧ _))

/-- An answer that shows a container shows the one that was asked for. -/
def Agrees (nameOf : String → String) (e : Event Agent) : Prop :=
  match e with
  | ⟨.agent _ (.containerInspect ref), .ok c⟩ => c.name = nameOf ref ∧ GoesBy nameOf c
  | ⟨.agent _ (.containerCreate body), .ok c⟩ => body.name = some c.name ∧ GoesBy nameOf c
  | _ => True

end Tugtainer
