import Tugtainer.Python.Base64
import Tugtainer.Python.Json

/-!
# Signed requests

`AgentClient` signs the method, the path, the body, the parameters and the time of a request
before it is sent, and the agent signs what it parsed of the request again. The digest is a
parameter.
-/

namespace Tugtainer

open Python

/-! ## Signatures -/

/-- HMAC with SHA-256, of which only the size of the digest is known. -/
structure Hmac where
  digest : ByteArray → ByteArray → ByteArray
  size_digest : ∀ key msg, (digest key msg).size = 32

def X_TIMESTAMP : String := "x-tugtainer-timestamp"

def X_SIGNATURE : String := "x-tugtainer-signature"

inductive SignatureExn where
  /-- `HTTPException` with status 401 -/
  | unauthorized (detail : String)
  /-- the same, with a text that repeats the request -/
  | expired (age : ℤ)
  | invalid
  | valueError
  | typeError
  deriving DecidableEq, Repr

section

variable {F : Type} (N : Numerals F) (H : Hmac)

/-- `_get_obj_bytes`, with `custom_json_dumps`. -/
def getObjBytes (obj : Json F) : ByteArray :=
  if obj.truthy N then (obj.dumps N).toUTF8 else "".toUTF8

def getSigEncoded (secretKey : String) (sigBytes : ByteArray) : String :=
  b64encode (H.digest secretKey.toUTF8 sigBytes)

/-- The bytes that are signed. -/
def sigBytes (timestamp : ℤ) (method path : String) (body params : Json F) : ByteArray :=
  (upper method).toUTF8 ++ path.toUTF8 ++ getObjBytes N body ++ getObjBytes N params ++
    (toString timestamp).toUTF8

def objText (obj : Json F) : String :=
  if obj.truthy N then obj.dumps N else ""

def sigText (timestamp : ℤ) (method path : String) (body params : Json F) : String :=
  upper method ++ path ++ objText N body ++ objText N params ++ toString timestamp

theorem getObjBytes_eq (obj : Json F) : getObjBytes N obj = (objText N obj).toUTF8 := by
  unfold getObjBytes objText
  split
  all_goals rfl

theorem sigBytes_eq (timestamp : ℤ) (method path : String) (body params : Json F) :
    sigBytes N timestamp method path body params =
      (sigText N timestamp method path body params).toUTF8 := by
  simp only [sigBytes, sigText, getObjBytes_eq, String.toUTF8_eq_toByteArray,
    String.toByteArray_append]

theorem sigBytes_eq_iff {timestamp timestamp' : ℤ} {method method' path path' : String}
    {body body' params params' : Json F} :
    sigBytes N timestamp method path body params =
        sigBytes N timestamp' method' path' body' params' ↔
      sigText N timestamp method path body params =
        sigText N timestamp' method' path' body' params' := by
  rw [sigBytes_eq, sigBytes_eq]
  exact String.toByteArray_inj

def getReqSignature (secretKey : String) (timestamp : ℤ) (method path : String)
    (body params : Json F) : String :=
  if secretKey = "" then ""
  else getSigEncoded H secretKey (sigBytes N timestamp method path body params)

def getSignatureHeaders (now : ℤ) (secretKey : Option String) (method path : String)
    (body params : Json F) : Dict String String :=
  let headers : Dict String String := [(X_TIMESTAMP, toString now)]
  let secretKey := secretKey.getD ""
  if secretKey = "" then headers
  else headers.set X_SIGNATURE (getReqSignature N H secretKey now method path body params)

/-- `verify_signature_headers`, at the time `now`. -/
def verifySignatureHeaders (now : ℤ) (secretKey : Option String) (signatureTtl : ℤ)
    (headers : Dict String String) (method path : String) (body params : Json F) :
    Except SignatureExn Bool :=
  if secretKey.getD "" = "" then
    .error (.unauthorized "AGENT_SECRET is not set, cannot verify request signature")
  else if (headers.get? X_TIMESTAMP).getD "" = "" then
    .error (.unauthorized
      "x-tugtainer-timestamp header is missing, cannot verify request signature")
  else if (headers.get? X_SIGNATURE).getD "" = "" then
    .error (.unauthorized
      "x-tugtainer-signature header is missing, cannot verify request signature")
  else
    match intOf asciiDigit ((headers.get? X_TIMESTAMP).getD "0") with
    | none => .error .valueError
    | some timestamp =>
        let signature := (headers.get? X_SIGNATURE).getD ""
        let expected :=
          getReqSignature N H (secretKey.getD "") timestamp method path body params
        if signatureTtl < (now - timestamp).natAbs then .error (.expired (now - timestamp))
        else if ¬signature.toList.all (·.toNat < 128) then .error .typeError
        else if expected ≠ signature then .error .invalid
        else .ok true

/-! ## Requests to the agent -/

/-- What the agent gets of a request. Starlette makes `req.url` of the `Host` header and the path
of the request, and parses it: `path`, which is signed, is `req.url.path`, and `scopePath`, by which
the request is routed, is the path of the request. A `Host` header with a `/`, `?` or `#` in it, as
`x/api/container/stop/web?`, makes them differ, and so does a path with a `?` or a `#`. -/
structure HttpRequest where
  method : String
  path : String
  scopePath : String
  query : List (String × String)
  headers : Dict String String
  body : String

/-- The parameters as they are signed: `None` or a dictionary of strings. -/
def paramsObj (params : Option (Dict String String)) : Json F :=
  match params with
  | none => .null
  | some params => .dict (params.map fun (k, v) => (k, .str v))

/-- The request of `AgentClient._request`, sent at the time `now`, as it arrives where nothing on
the way reads a part of the path as something else. A body that is `None` is not sent. -/
def agentRequest (now : ℤ) (secret : Option String) (method path : String) (body : Json F)
    (params : Option (Dict String String)) : HttpRequest where
  method := method
  path := path
  scopePath := path
  query := params.getD []
  headers := getSignatureHeaders N H now secret method path body (paramsObj params)
  body :=
    match body with
    | .null => ""
    | body => body.dumps N

/-- The body as `verify_signature` gets it: the parsed JSON, or the raw text. -/
def receivedBody (req : HttpRequest) : Json F :=
  (Json.loads N req.body).getD (.str req.body)

/-- `dict(req.query_params) if req.query_params else None`. -/
def receivedParams (req : HttpRequest) : Option (Dict String String) :=
  if req.query = [] then none
  else some (req.query.foldl (fun d (item : String × String) => d.set item.1 item.2) [])

structure AgentConfig where
  agentSecret : Option String
  allowUnauthenticatedAgent : Bool
  agentSignatureTtl : ℤ

def verifySignature (now : ℤ) (config : AgentConfig) (req : HttpRequest) :
    Except SignatureExn Unit := do
  if config.allowUnauthenticatedAgent then return
  let _ ← verifySignatureHeaders N H now config.agentSecret config.agentSignatureTtl req.headers
    req.method req.path (receivedBody N req) (paramsObj (receivedParams req))

/-! ## What the agent signs -/

/-- An object that is the whole body counts as empty when the string that stands for it
does. -/
def LeafCounts (body : Json F) : Prop :=
  ∀ truthy text, body = .leaf truthy text → truthy = (text != "")

/-- The request arrives with its headers, others between them. -/
structure HttpRequest.Carries (sent received : HttpRequest) : Prop where
  method : received.method = sent.method
  path : received.path = sent.path
  query : received.query = sent.query
  body : received.body = sent.body
  headers : ∀ key ∈ sent.headers.map Prod.fst, received.headers.get? key = sent.headers.get? key

theorem getObjBytes_erase {body : Json F} (h : LeafCounts body) :
    getObjBytes N body.erase = getObjBytes N body := by
  have htruthy : body.erase.truthy N = body.truthy N := by
    cases body with
    | leaf truthy text => exact (h truthy text rfl).symm
    | list items => cases items <;> rfl
    | dict items => cases items <;> rfl
    | _ => rfl
  simp [getObjBytes, Json.dumps, htruthy, Json.print_erase]

section

variable {now : ℤ} {secret : Option String} {method path : String} {body : Json F}
  {params : Option (Dict String String)} {p : F → Prop} (hN : Json.FloatsReadBack N p)

include hN

theorem receivedBody_agentRequest (hwf : body.WellFormed p) (hbody : body ≠ .null) :
    receivedBody N (agentRequest N H now secret method path body params) = body.erase := by
  cases body with
  | null => exact absurd rfl hbody
  | _ => simp [receivedBody, agentRequest, Json.loads_dumps N hN hwf]

theorem getObjBytes_receivedBody (hwf : body.WellFormed p) (hleaf : LeafCounts body) :
    getObjBytes N (receivedBody N (agentRequest N H now secret method path body params)) =
      getObjBytes N body := by
  by_cases hbody : body = .null
  · subst hbody
    simp [receivedBody, agentRequest, getObjBytes, Json.truthy]
  · rw [receivedBody_agentRequest N H hN hwf hbody, getObjBytes_erase N hleaf]

omit hN in
theorem getObjBytes_receivedParams (hparams : ∀ d ∈ params, (d.map Prod.fst).Nodup) :
    getObjBytes N (paramsObj (receivedParams
        (agentRequest N H now secret method path body params))) =
      getObjBytes N (paramsObj params) := by
  cases params with
  | none => rfl
  | some d =>
      by_cases hd : d = []
      · subst hd
        rfl
      · have hfold : d.foldl (fun d item => Dict.set d item.1 item.2) [] = d := by
          simpa using Dict.foldl_set_eq_append (d := []) (by simpa using hparams d rfl)
        simp [receivedParams, agentRequest, hd, hfold]

theorem sigBytes_received {received : HttpRequest} (hwf : body.WellFormed p)
    (hleaf : LeafCounts body) (hparams : ∀ d ∈ params, (d.map Prod.fst).Nodup)
    (hcarries : (agentRequest N H now secret method path body params).Carries received)
    (timestamp : ℤ) :
    sigBytes N timestamp received.method received.path (receivedBody N received)
        (paramsObj (receivedParams received)) =
      sigBytes N timestamp method path body (paramsObj params) := by
  have hbody : receivedBody N received =
      receivedBody N (agentRequest N H now secret method path body params) := by
    rw [receivedBody, hcarries.body, receivedBody]
  have hquery : receivedParams received =
      receivedParams (agentRequest N H now secret method path body params) := by
    rw [receivedParams, hcarries.query, receivedParams]
  rw [hbody, hquery, hcarries.method, hcarries.path, sigBytes, sigBytes,
    getObjBytes_receivedBody N H hN hwf hleaf, getObjBytes_receivedParams N H hparams]
  rfl

end

theorem getSigEncoded_ne_empty (secretKey : String) (bytes : ByteArray) :
    getSigEncoded H secretKey bytes ≠ "" := by
  have hsize := H.size_digest secretKey.toUTF8 bytes
  have hdigest : (H.digest secretKey.toUTF8 bytes).data.toList ≠ [] := by
    intro hnil
    have hlength : (H.digest secretKey.toUTF8 bytes).size = 0 := congrArg List.length hnil
    omega
  intro hempty
  have hchars := congrArg String.toList hempty
  rw [getSigEncoded, b64encode, String.toList_ofList] at hchars
  exact base64_ne_nil hdigest hchars

theorem toNat_of_mem_getSigEncoded {secretKey : String} {bytes : ByteArray} {c : Char}
    (hc : c ∈ (getSigEncoded H secretKey bytes).toList) : c.toNat < 128 := by
  rw [getSigEncoded, b64encode, String.toList_ofList] at hc
  exact toNat_of_mem_base64 hc

theorem toString_int_ne_empty (n : ℤ) : toString n ≠ "" := by
  obtain ⟨sign, d, s, -, -, hs⟩ := exists_toString_eq_append n
  intro hempty
  rw [hempty] at hs
  simp at hs

theorem verifySignatureHeaders_of_sigBytes_eq {secret : String} (hsecret : secret ≠ "")
    {sent now ttl : ℤ} (hclock : (now - sent).natAbs ≤ ttl) {headers : Dict String String}
    {method path method' path' : String} {body params body' params' : Json F}
    (hbytes : sigBytes N sent method' path' body' params' = sigBytes N sent method path body params)
    (hheaders : ∀ key ∈ [X_TIMESTAMP, X_SIGNATURE], headers.get? key =
      (getSignatureHeaders N H sent (some secret) method path body params).get? key) :
    verifySignatureHeaders N H now (some secret) ttl headers method' path' body' params' =
      .ok true := by
  set signature := getSigEncoded H secret (sigBytes N sent method path body params) with hsignature
  have htimestamp : headers.get? X_TIMESTAMP = some (toString sent) := by
    rw [hheaders X_TIMESTAMP (by simp)]
    simp [getSignatureHeaders, hsecret, Dict.set, Dict.get?, X_TIMESTAMP, X_SIGNATURE]
  have hsent : headers.get? X_SIGNATURE = some signature := by
    rw [hheaders X_SIGNATURE (by simp)]
    simp [getSignatureHeaders, getReqSignature, hsecret, hsignature]
  have hascii : signature.toList.all (·.toNat < 128) = true :=
    List.all_eq_true.2 fun c hc => decide_eq_true (toNat_of_mem_getSigEncoded H hc)
  have hexpected : getReqSignature N H secret sent method' path' body' params' = signature := by
    rw [getReqSignature, if_neg hsecret, hbytes]
  have hsignature_ne : signature ≠ "" := getSigEncoded_ne_empty H secret _
  simp only [verifySignatureHeaders, htimestamp, hsent, Option.getD_some, if_neg hsecret,
    if_neg (toString_int_ne_empty sent), if_neg hsignature_ne, intOf_toString,
    if_neg (Int.not_lt.2 hclock), if_neg (not_not.2 hascii), hexpected, ne_eq, not_true_eq_false,
    if_false]

/-- Every request that arrives as it was sent is signed over the same bytes on both sides, and
accepted while the clocks agree. -/
theorem verifySignatureHeaders_agentRequest (secret method path : String) {body : Json F}
    (hplain : body.Plain) (hleaf : LeafCounts body) {params : Option (Dict String String)}
    (hparams : ∀ d ∈ params, (d.map Prod.fst).Nodup) (sent : ℤ) {received : HttpRequest}
    (hcarries : (agentRequest N H sent (some secret) method path body params).Carries received) :
    (∀ timestamp, sigBytes N timestamp received.method received.path (receivedBody N received)
        (paramsObj (receivedParams received)) =
      sigBytes N timestamp method path body (paramsObj params)) ∧
    (secret ≠ "" → ∀ now ttl : ℤ, (now - sent).natAbs ≤ ttl →
      verifySignatureHeaders N H now (some secret) ttl received.headers received.method
        received.path (receivedBody N received) (paramsObj (receivedParams received)) =
        .ok true) := by
  have hbytes := sigBytes_received N H (Json.floatsReadBack_none N) hplain hleaf hparams hcarries
  refine ⟨hbytes, fun hsecret now ttl hclock => ?_⟩
  refine verifySignatureHeaders_of_sigBytes_eq N H hsecret hclock (hbytes sent) fun key hkey => ?_
  refine hcarries.headers key ?_
  simpa [agentRequest, getSignatureHeaders, hsecret, Dict.set, X_TIMESTAMP, X_SIGNATURE] using hkey

theorem verifySignature_agentRequest {secret method path : String} (hsecret : secret ≠ "")
    {body : Json F} {p : F → Prop} (hN : Json.FloatsReadBack N p) (hwf : body.WellFormed p)
    (hleaf : LeafCounts body) {params : Option (Dict String String)}
    (hparams : ∀ d ∈ params, (d.map Prod.fst).Nodup)
    {config : AgentConfig} (hconfig : config.agentSecret = some secret) {sent now : ℤ}
    (hclock : (now - sent).natAbs ≤ config.agentSignatureTtl) :
    verifySignature N H now config
      (agentRequest N H sent (some secret) method path body params) = .ok () := by
  unfold verifySignature
  split
  · rfl
  · set req := agentRequest N H sent (some secret) method path body params with hreq
    have hcarries : req.Carries req := ⟨rfl, rfl, rfl, rfl, fun _ _ => rfl⟩
    have hbytes := sigBytes_received N H hN hwf hleaf hparams hcarries sent
    have hverify := verifySignatureHeaders_of_sigBytes_eq N H hsecret hclock hbytes
      fun key _ => (rfl : req.headers.get? key = req.headers.get? key)
    rw [hconfig, hverify]
    rfl

end

/-! ## Examples -/

def noFloats : Numerals Empty where
  digit := asciiDigit
  floatOf _ := none
  floatText := Empty.elim
  isZero := Empty.elim

/-- The digest of `logsBody` for the logs of `web`, under the key `agent-secret`. -/
def logsHmac : Hmac where
  digest _ _ := ⟨#[83, 252, 19, 167, 231, 19, 45, 185, 212, 108, 175, 243, 107, 245, 135, 13,
    42, 117, 165, 34, 61, 133, 93, 243, 31, 147, 57, 165, 245, 88, 131, 179]⟩
  size_digest _ _ := rfl

def logsBody : Json Empty :=
  .dict [("since", .leaf true "2026-01-02T03:04:05"), ("tail", .int 10)]

theorem verifySignatureHeaders_logs :
    let sent := agentRequest noFloats logsHmac 1767323045 (some "agent-secret") "POST"
      "/api/container/logs/web" logsBody none
    verifySignatureHeaders noFloats logsHmac 1767323048 (some "agent-secret") 5 sent.headers
      sent.method sent.path (receivedBody noFloats sent) (paramsObj (receivedParams sent)) =
      .ok true :=
  (verifySignatureHeaders_agentRequest noFloats logsHmac "agent-secret" "POST"
    "/api/container/logs/web" (.dict (by decide) (by
      intro item hitem
      rcases List.mem_pair.1 hitem with rfl | rfl
      · exact .leaf _ _
      · exact .int _)) (fun _ _ h => by cases h) (fun _ h => by cases h) 1767323045
    ⟨rfl, rfl, rfl, rfl, fun _ _ => rfl⟩).2 (by decide) 1767323048 5 (by decide)

/-- A duration of zero as the whole body: it is false, and prints as a text that is not. -/
theorem zero_duration_signed_differently :
    let sent := agentRequest noFloats logsHmac 0 (some "agent-secret") "POST" "/api/container/list"
      (.leaf false "0:00:00") none
    sigBytes noFloats 0 sent.method sent.path (receivedBody noFloats sent)
        (paramsObj (receivedParams sent)) ≠
      sigBytes noFloats 0 "POST" "/api/container/list" (.leaf false "0:00:00")
        (paramsObj none) := by
  intro sent hbytes
  have hbody : receivedBody noFloats sent = .str "0:00:00" :=
    receivedBody_agentRequest noFloats logsHmac (Json.floatsReadBack_none noFloats) (.leaf _ _)
      (by simp)
  have hquoted : objText noFloats (.str "0:00:00") = "\"0:00:00\"" := by decide
  have hempty : objText noFloats (.leaf false "0:00:00") = "" := rfl
  have hnone : objText noFloats (paramsObj none) = "" := rfl
  have htext := congrArg String.length ((sigBytes_eq_iff noFloats).1 hbytes)
  rw [hbody, sigText, sigText, hquoted, hempty] at htext
  simp only [sent, agentRequest, receivedParams, Option.getD_none, if_pos, hnone,
    String.length_append, Nat.add_right_cancel_iff, Nat.add_left_cancel_iff] at htext
  exact absurd htext (by decide)

end Tugtainer
