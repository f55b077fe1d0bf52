import Tugtainer.Auth.Provider
import Tugtainer.Interaction.Action
import Tugtainer.Python.Document

/-!
# The callback of OIDC

The provider is asked for its discovery document, for an ID token and for its keys, and may
answer with any status and any document. The token is verified by `jose`, which is a
parameter, and the session that follows is for the identity of its claims.
-/

namespace Tugtainer

open Python Interaction

/-! ## Configuration -/

/-- The environment variables of OIDC, empty where they are not set. -/
structure OidcVars where
  wellKnownUrl : String
  clientId : String
  clientSecret : String
  redirectUri : String
  allowedEmails : String
  allowedSubjects : String

structure OidcConfig where
  wellKnownUrl : String
  clientId : String
  clientSecret : String
  redirectUri : String
  allowedEmails : List String
  allowedSubjects : List String

def parseSet (value : String) : List String :=
  ((split value ',').map strip).filter (· ≠ "")

/-- `Config.load`, as far as OIDC is concerned. -/
def OidcVars.load (casefold : String → String) (vars : OidcVars) : OidcConfig where
  wellKnownUrl := vars.wellKnownUrl
  clientId := vars.clientId
  clientSecret := vars.clientSecret
  redirectUri := vars.redirectUri
  allowedEmails := (parseSet vars.allowedEmails).map casefold
  allowedSubjects := parseSet vars.allowedSubjects

def oidcAsymmetricSigningAlgorithms : List String :=
  ["RS256", "RS384", "RS512", "ES256", "ES384", "ES512"]

/-! ## Requests -/

/-- The exceptions in the `try` block of the callback, with their texts. -/
inductive OidcExn where
  /-- `HTTPException` -/
  | http (status : ℕ) (detail : String)
  /-- `aiohttp.ClientError` -/
  | client (text : String)
  | other (text : String)
  deriving DecidableEq, Repr

/-- `str(e)`. -/
def OidcExn.text : OidcExn → String
  | http status detail => toString status ++ ": " ++ detail
  | client text => text
  | other text => text

/-- An answer, with its body read as JSON and as text. -/
structure OidcReply (F : Type) where
  status : ℕ
  json : Except OidcExn (Json F)
  text : Except OidcExn String

inductive OidcOp (F : Type) where
  | get (url : String)
  /-- the URL is what the discovery document has for it -/
  | post (url : Json F) (data : List (String × String))

/-- The interface of the OIDC provider. -/
@[reducible] def OidcHttp (F : Type) : Interface where
  Op := OidcOp F
  Ans _ := Except OidcExn (OidcReply F)

abbrev OidcM (F α : Type) := Act (OidcHttp F) OidcExn Unit α

/-- What the callback uses of libraries: `jwt.get_unverified_header` and `jwt.decode` of an ID
token, with the texts of their exceptions, and what is left open of Python. -/
structure OidcEnv (F : Type) where
  unverifiedHeader : String → Except String (Dict String (Json F))
  /-- the time, the token, the key, the algorithm, the audience, the issuer and the access
  token -/
  decode : ℤ → String → Dict String (Json F) → String → String → String → Json F →
    Except String (Dict String (Json F))
  casefold : String → String
  floatEq : FloatEq F
  numerals : Numerals F

section

variable {F : Type} (env : OidcEnv F) (oidc : OidcConfig) (now : ℤ)

/-- The value of an expression that raises a text. -/
def evaluate {α : Type} (r : Except String α) : OidcM F α :=
  Act.ofExcept (r.mapError OidcExn.other)

def fetchError (what : String) : OidcExn → OidcExn
  | .client text => .http 400 ("Error fetching OIDC " ++ what ++ ": " ++ text)
  | e => e

def fetchDocument (what url : String) : OidcM F (Json F) :=
  tryCatch (do
    let response ← Act.performE (I := OidcHttp F) (.get url) id
    if response.status = 200 then Act.ofExcept response.json
    else throw (.http 400 ("Failed to fetch OIDC " ++ what ++ ": " ++ toString response.status)))
    fun e => throw (fetchError what e)

def fetchOidcDiscovery (wellKnownUrl : String) : OidcM F (Json F) :=
  fetchDocument "discovery document" wellKnownUrl

def fetchOidcJwks (jwksUri : String) : OidcM F (Json F) :=
  fetchDocument "JWKS" jwksUri

/-! ## The ID token -/

/-- The algorithm of a header, if it is an asymmetric one. A list or a dictionary cannot be
looked up in a set. -/
def signingAlgorithm : Json F → Except String String
  | .str algorithm =>
      if algorithm ∈ oidcAsymmetricSigningAlgorithms then .ok algorithm
      else .error "ID token uses an unsupported signing algorithm"
  | .list _ => .error "unhashable type: 'list'"
  | .dict _ => .error "unhashable type: 'dict'"
  | _ => .error "ID token uses an unsupported signing algorithm"

/-- The algorithm is in the list that the provider advertises, if there is a list. -/
def isAdvertised (algorithm : String) : Json F → Bool
  | .list items => items.any fun item => item.eq env.floatEq (.str algorithm)
  | _ => true

def keysList : Json F → Except String (List (Json F))
  | .list keys => .ok keys
  | _ => .error "OIDC JWKS document does not contain a keys list"

/-- The conditions of `matching_keys` on a key. -/
def matchesHeader (keyId : Json F) (algorithm : String) (key : Dict String (Json F)) : Bool :=
  let kid := (key.get? "kid").getD .null
  let use := (key.get? "use").getD (.str "sig")
  let alg := (key.get? "alg").getD (.str algorithm)
  (keyId.isNone || kid.eq env.floatEq keyId) && use.eq env.floatEq (.str "sig") &&
    alg.eq env.floatEq (.str algorithm)

def matchingKeys (keyId : Json F) (algorithm : String) (keys : List (Json F)) :
    List (Dict String (Json F)) :=
  keys.filterMap fun
    | .dict key => if matchesHeader env keyId algorithm key then some key else none
    | _ => none

def uniqueKey : List (Dict String (Json F)) → Except String (Dict String (Json F))
  | [key] => .ok key
  | _ => .error "Unable to resolve a unique OIDC signing key"

def isSeveral : Json F → Bool
  | .list items => 1 < items.length
  | _ => false

/-- The check of `azp` against the client. -/
def checkAuthorizedParty (clientId : String) (audience authorizedParty : Json F) :
    Except String Unit :=
  let isClient := authorizedParty.eq env.floatEq (.str clientId)
  if isSeveral audience then
    if isClient then .ok ()
    else .error "ID token with multiple audiences has an invalid authorized party"
  else if authorizedParty.isNone || isClient then .ok ()
  else .error "ID token has an invalid authorized party"

def verifyOidcIdToken (idToken : String) (accessToken discoveryDoc : Json F) (clientId : String) :
    OidcM F (Dict String (Json F)) := do
  let issuer ← evaluate (discoveryDoc.get "issuer")
  let jwksUri ← evaluate (discoveryDoc.get "jwks_uri")
  let issuer ← evaluate (issuer.nonEmptyStr "OIDC discovery document is missing issuer")
  let jwksUri ← evaluate (jwksUri.nonEmptyStr "OIDC discovery document is missing jwks_uri")
  let header ← evaluate (env.unverifiedHeader idToken)
  let algorithm ← evaluate (signingAlgorithm ((header.get? "alg").getD .null))
  let keyId := (header.get? "kid").getD .null
  let advertised ← evaluate (discoveryDoc.get "id_token_signing_alg_values_supported")
  if !isAdvertised env algorithm advertised then
    throw (.other "ID token signing algorithm is not advertised by the OIDC provider")
  else
    let jwks ← fetchOidcJwks jwksUri
    let keys ← evaluate (jwks.get "keys")
    let keys ← evaluate (keysList keys)
    let key ← evaluate (uniqueKey (matchingKeys env keyId algorithm keys))
    let claims ← evaluate (env.decode now idToken key algorithm clientId issuer accessToken)
    let audience ← evaluate ((Json.dict claims).item "aud")
    let authorizedParty ← evaluate ((Json.dict claims).get "azp")
    evaluate (checkAuthorizedParty env clientId audience authorizedParty)
    pure claims

/-- What `_exchange_oidc_code` returns. -/
structure OidcUserData (F : Type) where
  accessToken : Json F
  idTokenClaims : Dict String (Json F)

def tokenRequest (code : String) : List (String × String) :=
  [("grant_type", "authorization_code"), ("code", code), ("redirect_uri", oidc.redirectUri),
    ("client_id", oidc.clientId), ("client_secret", oidc.clientSecret)]

def exchangeOidcCode (code : String) (discoveryDoc : Json F) : OidcM F (OidcUserData F) :=
  tryCatch (do
    let tokenEndpoint ← evaluate (discoveryDoc.item "token_endpoint")
    let response ←
      Act.performE (I := OidcHttp F) (.post tokenEndpoint (tokenRequest oidc code)) id
    if response.status ≠ 200 then
      let errorText ← Act.ofExcept response.text
      throw (.http 400 ("Token exchange failed: " ++ errorText))
    else
      let token ← Act.ofExcept response.json
      let idToken ← evaluate (token.get "id_token")
      let idToken ←
        evaluate (idToken.nonEmptyStr "OIDC provider did not return an ID token")
      let accessToken ← evaluate (token.get "access_token")
      let claims ← verifyOidcIdToken env now idToken accessToken discoveryDoc oidc.clientId
      pure { accessToken := accessToken, idTokenClaims := claims })
    fun e => throw (.http 400 ("Error exchanging authorization code: " ++ e.text))

/-! ## The session -/

def strClaim (userClaims : Dict String (Json F)) (key : String) : Option String :=
  match userClaims.get? key with
  | some (.str s) => some s
  | _ => none

def enforceOidcIdentityAllowlist (userClaims : Dict String (Json F)) : Except OidcExn Unit :=
  if oidc.allowedEmails = [] ∧ oidc.allowedSubjects = [] then .ok ()
  else
    let emailAllowed := (strClaim userClaims "email").any fun email =>
      env.casefold email ∈ oidc.allowedEmails
    let subjectAllowed := (strClaim userClaims "sub").any fun subject =>
      subject ∈ oidc.allowedSubjects
    if !emailAllowed && !subjectAllowed then .error (.http 403 "OIDC identity is not allowed")
    else .ok ()

/-- `value or other`. -/
def orJson (v w : Json F) : Json F := if v.truthy env.numerals then v else w

def userId (userClaims : Dict String (Json F)) : Json F :=
  let claim (key : String) := (userClaims.get? key).getD .null
  orJson env (orJson env (orJson env (claim "email") (claim "sub")) (claim "preferred_username"))
    (.str "unknown_user")

def sessionData (userClaims : Dict String (Json F)) (kind : String) : TokenPayload F :=
  [("type", .str kind), ("auth_provider", .str "oidc"), ("user_id", userId env userClaims),
    ("user_info", .dict userClaims)]

/-- What `_create_oidc_user_session` returns. -/
structure OidcTokens where
  accessToken : String
  refreshToken : String

variable (codec : TokenCodec F) (config : AuthConfig)

def sessionTokens (userClaims : Dict String (Json F)) : OidcTokens where
  accessToken :=
    createToken codec now (sessionData env userClaims "access") config.accessTokenLifetimeMin
  refreshToken :=
    createToken codec now (sessionData env userClaims "refresh") config.refreshTokenLifetimeMin

def createOidcUserSession (userData : OidcUserData F) : Except OidcExn OidcTokens := do
  enforceOidcIdentityAllowlist env oidc userData.idTokenClaims
  .ok (sessionTokens env now codec config userData.idTokenClaims)

/-! ## The callback -/

structure RedirectResponse extends AuthResponse where
  url : String

/-- `response.delete_cookie(key)`. -/
def deletedCookie : SetCookie where
  value := ""
  httponly := false
  samesite := "lax"
  secure := false
  domain := none
  maxAge := 0

def sessionRedirect (tokens : OidcTokens) : RedirectResponse where
  statusCode := 302
  cookies := (setCookies config tokens.accessToken tokens.refreshToken).set "oidc_state"
    deletedCookie
  url := "/containers"

/-- The code of a request, whose state has to be the one of the cookie. -/
def callbackCode (query cookies : Dict String String) : Except AuthExn String := do
  AuthProvider.oidc.raiseOfDisabled config
  let code := (query.get? "code").getD ""
  let state := (query.get? "state").getD ""
  let error := (query.get? "error").getD ""
  if error ≠ "" then .error (.http 400 ("OIDC authentication error: " ++ error))
  else if code = "" ∨ state = "" then
    .error (.http 400 "Missing authorization code or state parameter")
  else
    let storedState := cookies.get? "oidc_state"
    if storedState.getD "" = "" ∨ storedState ≠ some state then
      .error (.http 400 ("Invalid state parameter - received: " ++ state ++ ", stored: " ++
        storedState.getD "None"))
    else .ok code

/-- The `try` block of the callback. -/
def openSession (code : String) : OidcM F RedirectResponse := do
  let discoveryDoc ← fetchOidcDiscovery oidc.wellKnownUrl
  let userData ← exchangeOidcCode env oidc now code discoveryDoc
  let tokens ← Act.ofExcept (createOidcUserSession env oidc now codec config userData)
  pure (sessionRedirect config tokens)

def callbackError (e : OidcExn) : AuthExn :=
  .http 400 ("Error processing OIDC callback: " ++ e.text)

def callback (query cookies : Dict String String) :
    Prog (OidcHttp F) (Except AuthExn RedirectResponse) :=
  match callbackCode config query cookies with
  | .error e => .ret (.error e)
  | .ok code => (openSession env oidc now codec config code ()).bind fun (r, _) =>
      .ret (r.mapError callbackError)

end

end Tugtainer
