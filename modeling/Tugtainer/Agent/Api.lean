import Tugtainer.Agent.Signature
import Tugtainer.Command.Validator
import Tugtainer.Interaction.Action

/-!
# The endpoints of the agent

The agent is a service with one endpoint for each thing that it does with Docker. It finds the
endpoint of a request by the method and the path, verifies the signature, reads the body, and
asks Docker. What pydantic makes of the larger bodies is a parameter.
-/

namespace Tugtainer

namespace AgentApi

open Python Interaction

/-! ## Docker -/

/-- The commands that take nothing but the name of a container. -/
inductive ContainerCommand where
  | start
  | stop
  | restart
  | kill
  | pause
  | unpause
  | remove
  deriving DecidableEq, Repr

/-- The fields of a body that are set, as arguments. -/
abbrev Fields (F : Type) := List (String × Json F)

/-- The calls of `python_on_whales` that the agent makes. -/
inductive DockerCall (F : Type) where
  | info
  | version
  | containerList (args : Fields F)
  | containerExists (nameOrId : String)
  | containerInspect (nameOrId : String)
  | containerCreate (args : Fields F)
  | containerDo (command : ContainerCommand) (nameOrId : String)
  | containerLogs (nameOrId : String) (args : Fields F)
  | containerExecute (nameOrId : String) (command : List String)
  | imageExists (specOrId : String)
  | imageInspect (specOrId : String)
  | imageList (args : Fields F)
  | imagePrune (args : Fields F)
  | imagePull (image : String)
  | imageTag (specOrId tag : String)
  | manifestInspect (specOrDigest : String)
  | networkDisconnect (network container : String) (force : Option Bool)
  /-- `run(DOCKER.config.docker_cmd + command)` -/
  | dockerCmd (command : List String)

inductive DockerExn where
  /-- `DockerException` -/
  | docker
  /-- `asyncio.TimeoutError` -/
  | timeout
  deriving DecidableEq, Repr

/-- What a docker command prints. -/
inductive CommandOutput where
  | none
  | text (stdout : String)
  | pair (stdout stderr : String)
  deriving DecidableEq, Repr

namespace DockerCall

variable {F : Type}

@[reducible] def Ans : DockerCall F → Type
  | containerExists _ | imageExists _ => Except DockerExn Bool
  | dockerCmd _ => Except DockerExn CommandOutput
  | _ => Except DockerExn (Json F)

end DockerCall

@[reducible] def Docker (F : Type) : Interface where
  Op := DockerCall F
  Ans := DockerCall.Ans

inductive AgentExn where
  | http (status : ℕ) (detail : String)
  /-- what `verify_signature` raises -/
  | signature (e : SignatureExn)
  /-- `RequestValidationError` -/
  | validation
  | docker (e : DockerExn)
  deriving DecidableEq, Repr

abbrev AgentM (F α : Type) := Act (Docker F) AgentExn Unit α

/-! ## Bodies -/

/-- What pydantic makes of the bodies with optional fields: the fields that are set, with their
values as Python objects. -/
structure Schemas (F : Type) where
  /-- `GetContainerListBodySchema` -/
  containerList : Json F → Option (Fields F)
  /-- `CreateContainerRequestBodySchema` -/
  containerCreate : Json F → Option (Fields F)
  /-- `GetContainerLogsRequestBody` -/
  containerLogs : Json F → Option (Fields F)
  /-- `GetImageListBodySchema` -/
  imageList : Json F → Option (Fields F)
  /-- `PruneImagesRequestBodySchema` -/
  imagePrune : Json F → Option (Fields F)
  /-- a value that counts as a `bool` -/
  flag : Json F → Option Bool

section

variable {F : Type}

def strField (key : String) : Json F → Option String
  | .dict items =>
      match Dict.get? items key with
      | some (.str s) => some s
      | _ => none
  | _ => none

/-- `ExecContainerRequestBodySchema`: a command that is not empty. -/
def execBody (body : Json F) : Option String :=
  (strField "command" body).filter (· ≠ "")

/-- `TagImageRequestBodySchema`. -/
def tagBody (body : Json F) : Option (String × String) := do
  let specOrId ← strField "spec_or_id" body
  let tag ← strField "tag" body
  return (specOrId, tag)

/-- The texts of a field of type `list[str]`. -/
def strItems : List (Json F) → Option (List String)
  | [] => some []
  | .str s :: items => (strItems items).map (s :: ·)
  | _ => none

/-- `RunCommandRequestBodySchema`, with `command_validator`. -/
def commandBody : Json F → Option (List String)
  | .dict items =>
      match Dict.get? items "command" with
      | some (.list command) => (strItems command).filter (isAllowedCommand ·)
      | _ => none
  | _ => none

def disconnectBody (flag : Json F → Option Bool) (body : Json F) :
    Option (String × String × Option Bool) := do
  let network ← strField "network" body
  let container ← strField "container" body
  match body with
  | .dict items =>
      match Dict.get? items "force" with
      | none => return (network, container, none)
      | some value => return (network, container, some (← flag value))
  | _ => none

/-! ## Endpoints -/

inductive Endpoint where
  | health
  | access
  | version
  | containerList
  | containerExists
  | containerInspect
  | containerCreate
  | containerDo (command : ContainerCommand)
  | containerLogs
  | containerExec
  | imageInspect
  | imageList
  | imagePrune
  | imagePull
  | imageTag
  | commandRun
  | manifestInspect
  | networkDisconnect
  deriving DecidableEq, Repr

namespace Endpoint

def method : Endpoint → String
  | health | access | version | containerExists | containerInspect | imageInspect
  | manifestInspect => "GET"
  | containerDo .remove => "DELETE"
  | _ => "POST"

/-- The path of the endpoint in the application, up to the name of the container. -/
def path : Endpoint → String
  | health => "/public/health"
  | access => "/public/access"
  | version => "/common/version"
  | containerList => "/container/list"
  | containerExists => "/container/exists/"
  | containerInspect => "/container/inspect/"
  | containerCreate => "/container/create"
  | containerDo .start => "/container/start/"
  | containerDo .stop => "/container/stop/"
  | containerDo .restart => "/container/restart/"
  | containerDo .kill => "/container/kill/"
  | containerDo .pause => "/container/pause/"
  | containerDo .unpause => "/container/unpause/"
  | containerDo .remove => "/container/remove/"
  | containerLogs => "/container/logs/"
  | containerExec => "/container/exec/"
  | imageInspect => "/image/inspect"
  | imageList => "/image/list"
  | imagePrune => "/image/prune"
  | imagePull => "/image/pull"
  | imageTag => "/image/tag"
  | commandRun => "/command/run"
  | manifestInspect => "/manifest/inspect"
  | networkDisconnect => "/network/disconnect"

/-- The path ends with `{name_or_id}`. -/
def takesName : Endpoint → Bool
  | containerExists | containerInspect | containerDo _ | containerLogs | containerExec => true
  | _ => false

def takesBody : Endpoint → Bool
  | containerList | containerCreate | containerLogs | containerExec | imageInspect | imageList
  | imagePrune | imagePull | imageTag | commandRun | networkDisconnect => true
  | _ => false

/-- In the order in which the routers are included. -/
def all : List Endpoint :=
  [health, access, containerList, containerExists, containerInspect, containerCreate,
    containerDo .start, containerDo .stop, containerDo .restart, containerDo .kill,
    containerDo .pause, containerDo .unpause, containerDo .remove, containerLogs, containerExec,
    imageInspect, imageList, imagePrune, imagePull, imageTag, commandRun, manifestInspect,
    networkDisconnect, version]

/-- A name in a path: one segment. -/
def AcceptsName (endpoint : Endpoint) (name : String) : Prop :=
  if endpoint.takesName then name ≠ "" ∧ '/' ∉ name.toList else name = ""

instance (endpoint : Endpoint) (name : String) : Decidable (endpoint.AcceptsName name) :=
  inferInstanceAs (Decidable (if endpoint.takesName then name ≠ "" ∧ '/' ∉ name.toList
    else name = ""))

def nameIn (endpoint : Endpoint) (path : String) : Option String :=
  if startsWith path endpoint.path then
    let name := String.ofList (path.toList.drop endpoint.path.length)
    if endpoint.AcceptsName name then some name else none
  else none

end Endpoint

/-- The path within the application, whose root path is `/api`. -/
def routePath (path : String) : String :=
  if startsWith path "/api/" then String.ofList (path.toList.drop 4) else path

/-- The endpoint that serves a request, and the name in its path. -/
def route (method path : String) : Option (Endpoint × String) :=
  Endpoint.all.findSome? fun endpoint =>
    if endpoint.method = method then
      (endpoint.nameIn (routePath path)).map fun name => (endpoint, name)
    else none

/-! ## Handlers -/

def askDocker (call : DockerCall F) (read : call.Ans → Except DockerExn (Json F)) :
    AgentM F (Json F) :=
  Act.performE (I := Docker F) call fun r => (read r).mapError .docker

def containerIsExists (nameOrId : String) : AgentM F Unit := do
  let found ← Act.performE (I := Docker F) (.containerExists nameOrId) (·.mapError .docker)
  if !found then throw (.http 404 "Container not found")

def imageIsExists (specOrId : String) : AgentM F Unit := do
  let found ← Act.performE (I := Docker F) (.imageExists specOrId) (·.mapError .docker)
  if !found then throw (.http 404 "Image not found")

/-- A body that is missing or not valid is refused. -/
def validated {α : Type} (value : Option α) : AgentM F α :=
  Act.ofExcept (value.elim (.error .validation) .ok)

def CommandOutput.toJson : CommandOutput → Json F
  | .none => .list [.str "", .str ""]
  | .text stdout => .list [.str stdout, .str ""]
  | .pair stdout stderr => .list [.str stdout, .str stderr]

def health : AgentM F (Json F) :=
  Act.performE (I := Docker F) .info fun
    | .ok _ => .ok (.str "OK")
    | .error .docker => .error (.http 424 "Failed to get docker cli info")
    | .error .timeout => .error (.docker .timeout)

/-- The dependency `is_exists` of an endpoint, which is resolved before the body is validated. -/
def Endpoint.dependency (endpoint : Endpoint) (name : String) : AgentM F Unit :=
  match endpoint with
  | .containerInspect | .containerDo _ | .containerLogs | .containerExec => containerIsExists name
  | _ => pure ()

/-- The function of an endpoint, with the name of the path, the query and the body. -/
def Endpoint.handle (schemas : Schemas F) (allowExec : Bool) (endpoint : Endpoint) (name : String)
    (query : Option (Dict String String)) (body : Option (Json F)) : AgentM F (Json F) :=
  match endpoint with
  | .health => AgentApi.health
  | .access => pure (.str "OK")
  | .version => askDocker .version id
  | .containerList => do
      let args ← validated (body.bind schemas.containerList)
      askDocker (.containerList args) id
  | .containerExists =>
      Act.performE (I := Docker F) (.containerExists name) fun r =>
        (r.map .bool).mapError .docker
  | .containerInspect => askDocker (.containerInspect name) id
  | .containerCreate => do
      let args ← validated (body.bind schemas.containerCreate)
      askDocker (.containerCreate args) id
  | .containerDo command => do
      let _ ← askDocker (.containerDo command name) id
      pure (.str name)
  | .containerLogs => do
      let args ← validated (body.bind schemas.containerLogs)
      askDocker (.containerLogs name args) id
  | .containerExec => do
      let command ← validated (body.bind execBody)
      if !allowExec then
        throw (.http 403 ("Command execution inside containers is disabled on this agent. " ++
          "Set ALLOW_EXEC=true to enable it."))
      askDocker (.containerExecute name ["sh", "-c", command]) id
  | .imageInspect => do
      let specOrId ← validated (body.bind (strField "spec_or_id"))
      imageIsExists specOrId
      askDocker (.imageInspect specOrId) id
  | .imageList => do
      let args ← validated (body.bind schemas.imageList)
      askDocker (.imageList args) id
  | .imagePrune => do
      let args ← validated (body.bind schemas.imagePrune)
      askDocker (.imagePrune args) id
  | .imagePull => do
      let image ← validated (body.bind (strField "image"))
      askDocker (.imagePull image) id
  | .imageTag => do
      let (specOrId, tag) ← validated (body.bind tagBody)
      imageIsExists specOrId
      askDocker (.imageTag specOrId tag) id
  | .commandRun => do
      let command ← validated (body.bind commandBody)
      Act.performE (I := Docker F) (.dockerCmd command) fun r =>
        (r.map CommandOutput.toJson).mapError .docker
  | .manifestInspect => do
      let specOrDigest ← validated (query.bind (Dict.get? · "spec_or_digest"))
      askDocker (.manifestInspect specOrDigest) id
  | .networkDisconnect => do
      let (network, container, force) ← validated (body.bind (disconnectBody schemas.flag))
      let _ ← askDocker (.networkDisconnect network container force) id
      pure .null

/-! ## The agent -/

/-- The configuration of the agent. -/
structure AgentSettings extends AgentConfig where
  allowExec : Bool

/-- The body as JSON; a text that is not JSON is refused before the signature is verified. -/
def requestBody (N : Numerals F) (endpoint : Endpoint) (req : HttpRequest) :
    Except AgentExn (Option (Json F)) :=
  if endpoint.takesBody then
    if req.body = "" then .ok none
    else (Json.loads N req.body).elim (.error .validation) fun body => .ok (some body)
  else .ok none

/-- What the agent does with a request at the time `now`. -/
def serve (N : Numerals F) (H : Hmac) (schemas : Schemas F) (settings : AgentSettings) (now : ℤ)
    (req : HttpRequest) : AgentM F (Json F) :=
  match route req.method req.scopePath with
  | none =>
      if Endpoint.all.any fun endpoint => (endpoint.nameIn (routePath req.scopePath)).isSome then
        throw (.http 405 "Method Not Allowed")
      else throw (.http 404 "Not Found")
  | some (endpoint, name) => do
      let body ← Act.ofExcept (requestBody N endpoint req)
      if endpoint ≠ .health then
        Act.ofExcept ((verifySignature N H now settings.toAgentConfig req).mapError .signature)
      endpoint.dependency name
      endpoint.handle schemas settings.allowExec name (receivedParams req) body

end

/-! ## Routing -/

namespace Endpoint

theorem mem_all (endpoint : Endpoint) : endpoint ∈ all := by
  cases endpoint with
  | containerDo command => cases command <;> decide
  | _ => decide

theorem path_prefix_free : ∀ endpoint ∈ all, ∀ endpoint' ∈ all,
    endpoint.path.toList <+: endpoint'.path.toList → endpoint = endpoint' := by
  decide +kernel

theorem head?_path : ∀ endpoint ∈ all, endpoint.path.toList.head? = some '/' := by
  decide +kernel

theorem path_append_inj {endpoint endpoint' : Endpoint} {s s' : String}
    (h : endpoint.path ++ s = endpoint'.path ++ s') : endpoint = endpoint' ∧ s = s' := by
  have hlist : endpoint.path.toList ++ s.toList = endpoint'.path.toList ++ s'.toList := by
    rw [← String.toList_append, h, String.toList_append]
  obtain rfl : endpoint = endpoint' := by
    rcases List.append_eq_append_iff.1 hlist with ⟨t, ht, -⟩ | ⟨t, ht, -⟩
    · exact path_prefix_free _ (mem_all _) _ (mem_all _) ⟨t, ht.symm⟩
    · exact (path_prefix_free _ (mem_all _) _ (mem_all _) ⟨t, ht.symm⟩).symm
  exact ⟨rfl, (String.append_right_inj _).1 h⟩

theorem nameIn_eq_some_iff {endpoint : Endpoint} {path name : String} :
    endpoint.nameIn path = some name ↔
      path = endpoint.path ++ name ∧ endpoint.AcceptsName name := by
  unfold nameIn
  constructor
  · intro h
    split at h
    · rename_i hstart
      obtain ⟨t, ht⟩ := List.isPrefixOf_iff_prefix.1 hstart
      dsimp only at h
      split at h
      · rename_i hname
        cases h
        refine ⟨?_, hname⟩
        rw [← String.toList_inj, String.toList_append, String.toList_ofList, ← ht,
          ← String.length_toList, List.drop_left]
      · cases h
    · cases h
  · rintro ⟨rfl, hname⟩
    have hstart : startsWith (endpoint.path ++ name) endpoint.path = true := by
      rw [startsWith, String.toList_append]
      exact List.isPrefixOf_iff_prefix.2 ⟨_, rfl⟩
    have hdrop : String.ofList ((endpoint.path ++ name).toList.drop endpoint.path.length) =
        name := by
      rw [String.toList_append, ← String.length_toList, List.drop_left, String.ofList_toList]
    rw [if_pos hstart]
    dsimp only
    rw [hdrop, if_pos hname]

end Endpoint

theorem routePath_api (endpoint : Endpoint) (name : String) :
    routePath ("/api" ++ endpoint.path ++ name) = endpoint.path ++ name := by
  obtain ⟨t, ht⟩ := List.head?_eq_some_iff.1
    (Endpoint.head?_path endpoint (Endpoint.mem_all endpoint))
  have hlist : ("/api" ++ endpoint.path ++ name).toList =
      "/api/".toList ++ (t ++ name.toList) := by
    rw [String.toList_append, String.toList_append, ht]
    rfl
  have hstart : startsWith ("/api" ++ endpoint.path ++ name) "/api/" = true := by
    rw [startsWith, hlist]
    exact List.isPrefixOf_iff_prefix.2 ⟨_, rfl⟩
  rw [routePath, if_pos hstart, ← String.toList_inj, String.toList_ofList, hlist,
    String.toList_append, ht]
  rfl

theorem route_eq_some {method path name : String} {endpoint : Endpoint}
    (h : route method path = some (endpoint, name)) :
    endpoint.method = method ∧ routePath path = endpoint.path ++ name ∧
      endpoint.AcceptsName name := by
  obtain ⟨endpoint', -, hfound⟩ := List.exists_of_findSome?_eq_some h
  split at hfound
  · rename_i hmethod
    obtain ⟨name', hname, heq⟩ := Option.map_eq_some_iff.1 hfound
    cases heq
    exact ⟨hmethod, Endpoint.nameIn_eq_some_iff.1 hname⟩
  · cases hfound

theorem route_path {endpoint : Endpoint} {name : String} (hname : endpoint.AcceptsName name) :
    route endpoint.method ("/api" ++ endpoint.path ++ name) = some (endpoint, name) := by
  have hin := Endpoint.nameIn_eq_some_iff.2 ⟨routePath_api endpoint name, hname⟩
  have hsome : (route endpoint.method ("/api" ++ endpoint.path ++ name)).isSome := by
    rw [route, List.findSome?_isSome_iff]
    exact ⟨endpoint, endpoint.mem_all, by simp [hin]⟩
  obtain ⟨⟨endpoint', name'⟩, hroute⟩ := Option.isSome_iff_exists.1 hsome
  obtain ⟨-, hpath, -⟩ := route_eq_some hroute
  rw [routePath_api] at hpath
  obtain ⟨rfl, rfl⟩ := Endpoint.path_append_inj hpath
  exact hroute

end AgentApi

end Tugtainer
