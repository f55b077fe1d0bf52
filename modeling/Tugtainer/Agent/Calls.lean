import Tugtainer.Agent.Api

/-!
# The calls of the client

Each method of `AgentClient` sends one request. A request that arrives as it was sent does
exactly what the method is for: `serve_request`. The signature, the path and the body are
read back on the way.
-/

namespace Tugtainer

namespace AgentApi

open Python Interaction

/-! ## Bodies of the requests -/

/-- A field that is set prints its value, or `null`. -/
def field {F α : Type} (key : String) (toJson : α → Json F) : Option (Option α) → Fields F
  | none => []
  | some none => [(key, .null)]
  | some (some a) => [(key, toJson a)]

/-- A point in time or a duration, which the default function of `json.dumps` prints. -/
structure Moment where
  truthy : Bool
  text : String
  deriving DecidableEq, Repr

structure GetContainerListBodySchema where
  all : Option (Option Bool)

/-- `CreateContainerRequestBodySchema`: the image, and the other fields that are set. -/
structure CreateContainerBody (F : Type) where
  image : String
  fields : Fields F

structure GetContainerLogsRequestBody where
  since : Option (Option Moment)
  untilMoment : Option (Option Moment)
  tail : Option (Option ℤ)
  details : Option Bool
  timestamps : Option Bool

structure GetImageListBodySchema (F : Type) where
  repositoryOrTag : Option (Option String)
  filters : Option (Option (Fields F))
  all : Option (Option Bool)

structure PruneImagesRequestBodySchema (F : Type) where
  all : Option (Option Bool)
  filters : Option (Option (Fields F))

section

variable {F : Type}

/-- `model_dump(exclude_unset=True)`. -/
def GetContainerListBodySchema.dump (body : GetContainerListBodySchema) : Fields F :=
  field "all" .bool body.all

def CreateContainerBody.dump (body : CreateContainerBody F) : Fields F :=
  ("image", .str body.image) :: body.fields

def GetContainerLogsRequestBody.dump (body : GetContainerLogsRequestBody) : Fields F :=
  field "since" (fun m => .leaf m.truthy m.text) body.since ++
    field "until" (fun m => .leaf m.truthy m.text) body.untilMoment ++
    field "tail" .int body.tail ++ field "details" .bool (body.details.map some) ++
    field "timestamps" .bool (body.timestamps.map some)

def GetImageListBodySchema.dump (body : GetImageListBodySchema F) : Fields F :=
  field "repository_or_tag" .str body.repositoryOrTag ++ field "filters" .dict body.filters ++
    field "all" .bool body.all

def PruneImagesRequestBodySchema.dump (body : PruneImagesRequestBodySchema F) : Fields F :=
  field "all" .bool body.all ++ field "filters" .dict body.filters

end

/-! ## Calls -/

/-- A call of a method of `AgentClient`. The models of a command and of a shell command cannot
be built of values that are not valid. -/
inductive AgentCall (F : Type) where
  | health
  | access
  | version
  | containerList (body : GetContainerListBodySchema)
  | containerExists (nameOrId : String)
  | containerInspect (nameOrId : String)
  | containerCreate (body : CreateContainerBody F)
  | containerDo (command : ContainerCommand) (nameOrId : String)
  | containerLogs (nameOrId : String) (body : GetContainerLogsRequestBody)
  | containerExec (nameOrId : String) (command : {command : String // command ≠ ""})
  | imageInspect (specOrId : String)
  | imageList (body : GetImageListBodySchema F)
  | imagePrune (body : PruneImagesRequestBodySchema F)
  | imagePull (image : String)
  | imageTag (specOrId tag : String)
  | commandRun (command : {command : List String // isAllowedCommand command = true})
  | manifestInspect (specOrDigest : String)
  | networkDisconnect (network container : String) (force : Option Bool)

namespace AgentCall

variable {F : Type}

def endpoint : AgentCall F → Endpoint
  | health => .health
  | access => .access
  | version => .version
  | containerList _ => .containerList
  | containerExists _ => .containerExists
  | containerInspect _ => .containerInspect
  | containerCreate _ => .containerCreate
  | containerDo command _ => .containerDo command
  | containerLogs _ _ => .containerLogs
  | containerExec _ _ => .containerExec
  | imageInspect _ => .imageInspect
  | imageList _ => .imageList
  | imagePrune _ => .imagePrune
  | imagePull _ => .imagePull
  | imageTag _ _ => .imageTag
  | commandRun _ => .commandRun
  | manifestInspect _ => .manifestInspect
  | networkDisconnect _ _ _ => .networkDisconnect

/-- The name that ends the path. -/
def name : AgentCall F → String
  | containerExists nameOrId | containerInspect nameOrId | containerDo _ nameOrId
  | containerLogs nameOrId _ | containerExec nameOrId _ => nameOrId
  | _ => ""

/-- The body, `None` where there is none. -/
def body : AgentCall F → Json F
  | containerList body => .dict body.dump
  | containerCreate body => .dict body.dump
  | containerLogs _ body => .dict body.dump
  | containerExec _ command => .dict [("command", .str command.1)]
  | imageInspect specOrId => .dict [("spec_or_id", .str specOrId)]
  | imageList body => .dict body.dump
  | imagePrune body => .dict body.dump
  | imagePull image => .dict [("image", .str image)]
  | imageTag specOrId tag => .dict [("spec_or_id", .str specOrId), ("tag", .str tag)]
  | commandRun command => .dict [("command", .list (command.1.map .str))]
  | networkDisconnect network container force =>
      .dict (("network", .str network) :: ("container", .str container) ::
        field "force" .bool (force.map some))
  | _ => .null

def params : AgentCall F → Option (Dict String String)
  | manifestInspect specOrDigest => some [("spec_or_digest", specOrDigest)]
  | _ => none

/-- The path, as it is signed. -/
def path (call : AgentCall F) : String :=
  "/api" ++ call.endpoint.path ++ call.name

/-- The name in the path arrives as it is: it is one segment, of characters that neither the URL of
the client nor that of the agent takes for something else. -/
def PlainName (call : AgentCall F) : Prop :=
  call.endpoint.takesName = true → call.name ∉ ["", ".", ".."] ∧
    ∀ c ∈ call.name.toList, c ∉ ['/', '?', '#', '%', '\t', '\r', '\n']

/-- The request of the call, sent at the time `now`. -/
def request (N : Numerals F) (H : Hmac) (now : ℤ) (secret : String) (call : AgentCall F) :
    HttpRequest :=
  agentRequest N H now (some secret) call.endpoint.method call.path call.body call.params

/-- What the call is for. -/
def perform (allowExec : Bool) : AgentCall F → AgentM F (Json F)
  | health => AgentApi.health
  | access => pure (.str "OK")
  | version => askDocker .version id
  | containerList body => askDocker (.containerList body.dump) id
  | containerExists nameOrId =>
      Act.performE (I := Docker F) (.containerExists nameOrId) fun r =>
        (r.map .bool).mapError .docker
  | containerInspect nameOrId => do
      containerIsExists nameOrId
      askDocker (.containerInspect nameOrId) id
  | containerCreate body => askDocker (.containerCreate body.dump) id
  | containerDo command nameOrId => do
      containerIsExists nameOrId
      let _ ← askDocker (.containerDo command nameOrId) id
      pure (.str nameOrId)
  | containerLogs nameOrId body => do
      containerIsExists nameOrId
      askDocker (.containerLogs nameOrId body.dump) id
  | containerExec nameOrId command => do
      containerIsExists nameOrId
      if !allowExec then
        throw (.http 403 ("Command execution inside containers is disabled on this agent. " ++
          "Set ALLOW_EXEC=true to enable it."))
      askDocker (.containerExecute nameOrId ["sh", "-c", command.1]) id
  | imageInspect specOrId => do
      imageIsExists specOrId
      askDocker (.imageInspect specOrId) id
  | imageList body => askDocker (.imageList body.dump) id
  | imagePrune body => askDocker (.imagePrune body.dump) id
  | imagePull image => askDocker (.imagePull image) id
  | imageTag specOrId tag => do
      imageIsExists specOrId
      askDocker (.imageTag specOrId tag) id
  | commandRun command =>
      Act.performE (I := Docker F) (.dockerCmd command.1) fun r =>
        (r.map CommandOutput.toJson).mapError .docker
  | manifestInspect specOrDigest => askDocker (.manifestInspect specOrDigest) id
  | networkDisconnect network container force => do
      let _ ← askDocker (.networkDisconnect network container force) id
      pure .null

/-- Pydantic reads the body of the call back from its JSON. -/
def ReadBack (schemas : Schemas F) : AgentCall F → Prop
  | containerList body => schemas.containerList (Json.erase (.dict body.dump)) = some body.dump
  | containerCreate body =>
      schemas.containerCreate (Json.erase (.dict body.dump)) = some body.dump
  | containerLogs _ body => schemas.containerLogs (Json.erase (.dict body.dump)) = some body.dump
  | imageList body => schemas.imageList (Json.erase (.dict body.dump)) = some body.dump
  | imagePrune body => schemas.imagePrune (Json.erase (.dict body.dump)) = some body.dump
  | networkDisconnect _ _ force => ∀ b ∈ force, schemas.flag (.bool b) = some b
  | _ => True

end AgentCall

/-! ## The way to the agent -/

section

variable {F : Type}

theorem ofExcept_ok_bind {α β : Type} (a : α) (f : α → AgentM F β) :
    (Act.ofExcept (.ok a) : AgentM F α) >>= f = f a := rfl

theorem serve_of_verified {N : Numerals F} {H : Hmac} {schemas : Schemas F}
    {settings : AgentSettings} {now : ℤ} {req : HttpRequest} {endpoint : Endpoint} {name : String}
    {body : Option (Json F)} (hroute : route req.method req.scopePath = some (endpoint, name))
    (hbody : requestBody N endpoint req = .ok body)
    (hverify : verifySignature N H now settings.toAgentConfig req = .ok ()) :
    serve N H schemas settings now req = (endpoint.dependency name >>= fun _ =>
      endpoint.handle schemas settings.allowExec name (receivedParams req) body) := by
  simp only [serve, hroute, hbody, hverify]
  rw [ofExcept_ok_bind]
  split
  · rfl
  · rfl

theorem strItems_erase (command : List String) :
    strItems (Json.eraseItems (command.map fun s => (.str s : Json F))) = some command := by
  induction command with
  | nil => rfl
  | cons s command ih => simp [Json.eraseItems, Json.erase, strItems, ih]

theorem commandBody_erase {command : List String} (h : isAllowedCommand command = true) :
    commandBody (Json.erase (.dict [("command", .list (command.map .str))] : Json F)) =
      some command := by
  simp only [Json.erase, Json.eraseMembers, commandBody, Dict.get?_cons, if_true,
    strItems_erase]
  simp [Option.filter, h]

theorem execBody_erase {command : String} (h : command ≠ "") :
    execBody (Json.erase (.dict [("command", .str command)] : Json F)) = some command := by
  simp [execBody, strField, Json.erase, Json.eraseMembers, Dict.get?, h]

theorem disconnectBody_erase {flag : Json F → Option Bool} {network container : String}
    {force : Option Bool} (hflag : ∀ b ∈ force, flag (.bool b) = some b) :
    disconnectBody flag (Json.erase (.dict (("network", .str network) ::
      ("container", .str container) :: field "force" .bool (force.map some)))) =
      some (network, container, force) := by
  have hkeys : "network" ≠ "container" ∧ "network" ≠ "force" ∧ "container" ≠ "force" := by decide
  cases force with
  | none =>
      simp [disconnectBody, strField, Json.erase, Json.eraseMembers, field, Dict.get?_cons, hkeys]
  | some b =>
      simp [disconnectBody, strField, Json.erase, Json.eraseMembers, field, Dict.get?_cons, hkeys,
        hflag b rfl]

namespace AgentCall

variable {N : Numerals F} {H : Hmac} {sent : ℤ} {secret : String} {call : AgentCall F}

theorem body_eq_null_or_dict (call : AgentCall F) :
    call.body = .null ∧ call.endpoint.takesBody = false ∨
      (∃ items, call.body = .dict items) ∧ call.endpoint.takesBody = true := by
  cases call with
  | health | access | version | containerExists | containerInspect | containerDo
  | manifestInspect => exact .inl ⟨rfl, rfl⟩
  | _ => exact .inr ⟨⟨_, rfl⟩, rfl⟩

theorem leafCounts_body (call : AgentCall F) : LeafCounts call.body := by
  intro truthy text h
  rcases call.body_eq_null_or_dict with ⟨hnull, -⟩ | ⟨⟨items, hdict⟩, -⟩
  · rw [hnull] at h
    cases h
  · rw [hdict] at h
    cases h

theorem name_eq_empty (call : AgentCall F) (h : call.endpoint.takesName = false) :
    call.name = "" := by
  cases call with
  | containerExists | containerInspect | containerDo | containerLogs | containerExec => cases h
  | _ => rfl

theorem PlainName.acceptsName {call : AgentCall F} (h : call.PlainName) :
    call.endpoint.AcceptsName call.name := by
  unfold Endpoint.AcceptsName
  split
  · rename_i htakes
    obtain ⟨hname, hchars⟩ := h htakes
    exact ⟨fun hempty => hname (by simp [hempty]), fun hslash => hchars '/' hslash (by simp)⟩
  · exact call.name_eq_empty (Bool.eq_false_iff.2 ‹_›)

theorem nodup_params (call : AgentCall F) : ∀ d ∈ call.params, (d.map Prod.fst).Nodup := by
  intro d hd
  cases call with
  | manifestInspect specOrDigest =>
      cases hd
      simp
  | _ => cases hd

theorem requestBody_request {p : F → Prop} (hN : Json.FloatsReadBack N p)
    (hwf : call.body.WellFormed p) :
    requestBody N call.endpoint (call.request N H sent secret) =
      .ok (if call.endpoint.takesBody then some call.body.erase else none) := by
  rcases call.body_eq_null_or_dict with ⟨-, htakes⟩ | ⟨⟨items, hdict⟩, htakes⟩
  · rw [requestBody, htakes]
    rfl
  · have htext : (call.request N H sent secret).body = call.body.dumps N := by
      simp only [request, agentRequest, hdict]
    have hne : call.body.dumps N ≠ "" := by
      rw [hdict]
      intro hempty
      have hchars := congrArg String.toList hempty
      cases items <;> simp [Json.dumps, Json.print] at hchars
    rw [requestBody, if_pos htakes, htext, if_neg hne, Json.loads_dumps N hN hwf, if_pos htakes]
    rfl

theorem receivedParams_request :
    receivedParams (call.request N H sent secret) = call.params := by
  cases call with
  | manifestInspect specOrDigest => rfl
  | _ => rfl

theorem handle_eq_perform (schemas : Schemas F) (allowExec : Bool)
    (hread : call.ReadBack schemas) :
    (call.endpoint.dependency call.name >>= fun _ =>
      call.endpoint.handle schemas allowExec call.name call.params
        (if call.endpoint.takesBody then some call.body.erase else none)) =
      call.perform allowExec := by
  cases call with
  | health | access | version | containerExists | containerInspect => rfl
  | containerDo command nameOrId => rfl
  | manifestInspect specOrDigest => rfl
  | containerExec nameOrId command =>
      have hbody : (some (body (.containerExec nameOrId command : AgentCall F)).erase).bind
          execBody = some command.1 :=
        execBody_erase command.2
      simp only [endpoint, Endpoint.handle, Endpoint.takesBody, if_true, hbody]
      rfl
  | imageInspect specOrId => rfl
  | imagePull image => rfl
  | imageTag specOrId tag => rfl
  | commandRun command =>
      have hbody : (some (body (.commandRun command : AgentCall F)).erase).bind commandBody =
          some command.1 :=
        commandBody_erase command.2
      simp only [endpoint, Endpoint.handle, Endpoint.takesBody, if_true, hbody]
      rfl
  | networkDisconnect network container force =>
      have hbody : (some (body (.networkDisconnect network container force)).erase).bind
          (disconnectBody schemas.flag) = some (network, container, force) :=
        disconnectBody_erase hread
      simp only [endpoint, Endpoint.handle, Endpoint.takesBody, if_true, hbody]
      rfl
  | containerList sentBody | containerCreate sentBody | containerLogs nameOrId sentBody
  | imageList sentBody | imagePrune sentBody =>
      simp only [ReadBack] at hread
      simp only [endpoint, Endpoint.handle, Endpoint.takesBody, if_true, body, Option.bind_some,
        hread]
      rfl

/-- A request that arrives as it was sent, while the clocks agree, does what its call is for. -/
theorem serve_request (schemas : Schemas F) (settings : AgentSettings) (hsecret : secret ≠ "")
    (hagent : settings.agentSecret = some secret) {now : ℤ}
    (hclock : (now - sent).natAbs ≤ settings.agentSignatureTtl)
    (hname : call.PlainName) (hN : Json.FloatsReadBack N fun _ => True)
    (hwf : call.body.WellFormed fun _ => True) (hread : call.ReadBack schemas) :
    serve N H schemas settings now (call.request N H sent secret) =
      call.perform settings.allowExec := by
  have hverify : verifySignature N H now settings.toAgentConfig (call.request N H sent secret) =
      .ok () :=
    verifySignature_agentRequest N H hsecret hN hwf call.leafCounts_body call.nodup_params hagent
      hclock
  rw [serve_of_verified (route_path hname.acceptsName) (requestBody_request hN hwf) hverify,
    receivedParams_request]
  exact call.handle_eq_perform schemas settings.allowExec hread

end AgentCall

end

/-! ## An example -/

def agentSettings : AgentSettings where
  agentSecret := some "agent-secret"
  allowUnauthenticatedAgent := false
  agentSignatureTtl := 5
  allowExec := false

def plainSchemas {F : Type} : Schemas F where
  containerList
    | .dict items => some items
    | _ => none
  containerCreate
    | .dict (item :: items) => some (item :: items)
    | _ => none
  containerLogs
    | .dict items => some items
    | _ => none
  imageList
    | .dict items => some items
    | _ => none
  imagePrune
    | .dict items => some items
    | _ => none
  flag
    | .bool b => some b
    | _ => none

/-- The only floating point number is `0.0`. -/
def zeroFloat : Numerals Unit where
  digit := asciiDigit
  floatOf s := if s = "0.0" then some () else none
  floatText _ := "0.0"
  isZero _ := true

theorem zeroFloat_readsBack : Json.FloatsReadBack zeroFloat fun _ => True where
  floatOf_floatText _ _ := rfl
  floatText _ _ := .inr ⟨⟨[], 0, ['.', '0'], [], .inl rfl,
    .inr ⟨['0'], by decide, by simp [isDigit], rfl⟩, .inl rfl, fun h => absurd h (by decide)⟩, rfl⟩

/-- The container `web`, without a limit on its CPUs, as an update creates it. -/
def createWeb : AgentCall Unit :=
  .containerCreate ⟨"nginx:1.29", [("name", .str "web"), ("cpus", .float ())]⟩

theorem serve_request_createWeb :
    serve zeroFloat logsHmac plainSchemas agentSettings 1767323048
        (createWeb.request zeroFloat logsHmac 1767323045 "agent-secret") =
      createWeb.perform false := by
  refine AgentCall.serve_request plainSchemas agentSettings (by decide) rfl (by decide)
    (fun h => absurd h (by decide)) zeroFloat_readsBack (.dict (by decide) ?_) rfl
  intro item hitem
  rcases List.mem_cons.1 hitem with rfl | hitem
  · exact .str _
  · rcases List.mem_pair.1 hitem with rfl | rfl
    · exact .str _
    · exact .float trivial

end AgentApi

end Tugtainer
