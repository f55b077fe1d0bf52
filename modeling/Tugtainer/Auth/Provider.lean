import Tugtainer.Python.Json

/-!
# Authentication

The two providers of authentication and the tokens that they issue and verify. A token is
in the cookie of its kind and names its provider; what it decodes to is a parameter.
-/

namespace Tugtainer

open Python

/-! ## Tokens -/

abbrev TokenPayload (F : Type) := Dict String (Json F)

/-- `jwt.decode` and `jwt.encode` with the key of the configuration; `decode` is `none` where
it raises. -/
structure TokenCodec (F : Type) where
  decode : String → Option (TokenPayload F)
  encode : TokenPayload F → String

inductive AuthExn where
  /-- `HTTPException` -/
  | http (status : ℕ) (detail : String)
  | typeError
  deriving DecidableEq, Repr

/-- The fields of `Config` that have to do with authentication. `PASSWORD_FILE` and
`JWT_SECRET_KEY` are taken to stay the same over restarts: they are in the backend's file and in the
codec of the tokens. -/
structure AuthConfig where
  disableAuth : Bool
  disablePassword : Bool
  oidcEnabled : Bool
  accessTokenLifetimeMin : ℤ
  refreshTokenLifetimeMin : ℤ
  https : Bool
  domain : Option String

structure SetCookie where
  value : String
  httponly : Bool
  samesite : String
  secure : Bool
  domain : Option String
  maxAge : ℤ
  deriving DecidableEq, Repr

structure AuthResponse where
  statusCode : ℕ
  cookies : Dict String SetCookie
  deriving DecidableEq, Repr

section

variable {F : Type} (config : AuthConfig) (codec : TokenCodec F) (cookies : Dict String String)

/-- `payload.get(key) == text`. -/
def payloadHas (payload : TokenPayload F) (key text : String) : Bool :=
  match payload.get? key with
  | some (.str s) => s = text
  | _ => false

def verifyToken (token : String) : Except AuthExn (TokenPayload F) :=
  match codec.decode token with
  | some payload => .ok payload
  | none => .error (.http 401 "Token is invalid or expired")

def createToken (now : ℤ) (data : TokenPayload F) (lifetimeMin : ℤ) : String :=
  codec.encode (data.set "exp" (.int (now + lifetimeMin * 60)))

def setCookies (accessToken refreshToken : String) : Dict String SetCookie :=
  let cookie (value : String) (lifetimeMin : ℤ) : SetCookie :=
    { value := value, httponly := true, samesite := "strict", secure := config.https,
      domain := config.domain, maxAge := lifetimeMin * 60 }
  [("access_token", cookie accessToken config.accessTokenLifetimeMin),
    ("refresh_token", cookie refreshToken config.refreshTokenLifetimeMin)]

/-! ## Providers -/

/-- The payload of a cookie, where it is a token of this kind and of this provider. -/
def verifiedPayload (cookie kind provider missing mismatch : String) :
    Except AuthExn (TokenPayload F) :=
  let token := (cookies.get? cookie).getD ""
  if token = "" then .error (.http 401 missing)
  else do
    let payload ← verifyToken codec token
    if payloadHas payload "type" kind ∧ payloadHas payload "auth_provider" provider then
      .ok payload
    else .error (.http 401 mismatch)

/-- The token of the access cookie, as `is_authorized` of a provider checks it. -/
def isAuthorizedBy (provider : String) : Except AuthExn Bool := do
  let _ ← verifiedPayload codec cookies "access_token" "access" provider "Unauthorized"
    "Invalid token type or provider"
  .ok true

/-- The tokens that `refresh` of a provider issues, with `data` for each kind. -/
def refreshBy (now : ℤ) (provider : String) (data : TokenPayload F → String → TokenPayload F) :
    Except AuthExn AuthResponse := do
  let payload ← verifiedPayload codec cookies "refresh_token" "refresh" provider
    "Refresh token missing" "Invalid refresh token type or provider"
  let accessToken := createToken codec now (data payload "access") config.accessTokenLifetimeMin
  let refreshToken := createToken codec now (data payload "refresh") config.refreshTokenLifetimeMin
  .ok { statusCode := 200, cookies := setCookies config accessToken refreshToken }

inductive AuthProvider where
  | password | oidc
  deriving DecidableEq, Repr

namespace AuthProvider

/-- The key in `AUTH_PROVIDERS`. -/
def name : AuthProvider → String
  | password => "password"
  | oidc => "oidc"

def className : AuthProvider → String
  | password => "AuthPasswordProvider"
  | oidc => "AuthOidcProvider"

def isEnabled : AuthProvider → Bool
  | password => !config.disableAuth && !config.disablePassword
  | oidc => !config.disableAuth && config.oidcEnabled

def raiseOfDisabled (p : AuthProvider) : Except AuthExn Unit :=
  if p.isEnabled config then .ok ()
  else .error (.http 403
    (p.className ++ " is disabled.\nTry another auth method or verify your configuration."))

def isAuthorized : AuthProvider → Except AuthExn Bool
  | password => isAuthorizedBy codec cookies "password"
  | oidc => isAuthorizedBy codec cookies "oidc"

/-- The data of new tokens. OIDC keeps what it knows of the user. -/
def tokenData (payload : TokenPayload F) (kind : String) : AuthProvider → TokenPayload F
  | password => [("type", .str kind), ("auth_provider", .str "password")]
  | oidc =>
      [("type", .str kind), ("auth_provider", .str "oidc"),
        ("user_id", (payload.get? "user_id").getD (.str "unknown_user")),
        ("user_info", (payload.get? "user_info").getD (.dict []))]

def refresh (now : ℤ) : AuthProvider → Except AuthExn AuthResponse
  | password => do
      raiseOfDisabled config password
      refreshBy config codec cookies now "password" fun payload kind =>
        tokenData payload kind password
  | oidc => do
      raiseOfDisabled config oidc
      refreshBy config codec cookies now "oidc" fun payload kind => tokenData payload kind oidc

end AuthProvider

/-! ## The active provider -/

def authProviderByName (provider : Option (Json F)) : Except AuthExn (Option AuthProvider) :=
  match provider with
  | some (.str "password") => .ok (some .password)
  | some (.str "oidc") => .ok (some .oidc)
  | some (.list _) | some (.dict _) => .error .typeError
  | _ => .ok none

/-- One turn of the loop of `active_auth_provider`: a token is decoded while there is no
payload, or an empty one. -/
def decodeNext (data : Option (TokenPayload F)) (token : Option String) :
    Option (TokenPayload F) :=
  if token.getD "" ≠ "" ∧ data.getD [] = [] then codec.decode (token.getD "") else data

def activeAuthProvider : Except AuthExn (Option AuthProvider) :=
  let tokens := [cookies.get? "access_token", cookies.get? "refresh_token"]
  match tokens.foldl (decodeNext codec) none with
  | none | some [] => .ok none
  | some data => authProviderByName (data.get? "auth_provider")

def isAuthorized : Except AuthExn Bool :=
  if config.disableAuth then .ok true
  else do
    let provider ← activeAuthProvider codec cookies
    match provider with
    | none => .error (.http 401 "Unauthorized")
    | some provider =>
        provider.raiseOfDisabled config
        provider.isAuthorized codec cookies

/-- The endpoint `refresh`. -/
def refresh (now : ℤ) : Except AuthExn AuthResponse := do
  let provider ← activeAuthProvider codec cookies
  match provider with
  | none => .error (.http 401 "Unauthorized")
  | some provider => provider.refresh config codec cookies now

end

end Tugtainer
