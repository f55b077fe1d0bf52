import Tugtainer.Auth.SignIn
import Tugtainer.Registry.Digest

/-!
# The login of OIDC

A login generates a state, sends it to the identity provider with the browser, and leaves it
with the browser as a cookie.
-/

namespace Tugtainer

open Python Interaction

/-- What the login uses besides the configuration of the callback. -/
structure OidcLoginConfig (F : Type) extends OidcConfig where
  scopes : String
  /-- `str(value)` of a value that is no string -/
  str : Json F → String

section

variable {F : Type} (oidc : OidcLoginConfig F) (config : AuthConfig) (state : String)

/-- An f-string with a value of the discovery document. -/
def formatted : Json F → String
  | .str s => s
  | v => oidc.str v

def createOidcAuthorizationUrl (discoveryDoc : Json F) : Except OidcExn String :=
  match discoveryDoc.item "authorization_endpoint" with
  | .error e => .error (.http 400 ("Error creating authorization URL: " ++ e))
  | .ok authEndpoint =>
      let params := [("client_id", oidc.clientId), ("redirect_uri", oidc.redirectUri),
        ("scope", oidc.scopes), ("response_type", "code"), ("state", state)]
      .ok (formatted oidc authEndpoint ++ "?" ++ urlencode params)

def stateCookie : SetCookie where
  value := state
  httponly := true
  samesite := "lax"
  secure := config.https
  domain := none
  maxAge := 300

/-- The `try` block of the login. -/
def startLogin : OidcM F RedirectResponse := do
  let discoveryDoc ← fetchOidcDiscovery oidc.wellKnownUrl
  let authorizationUrl ← Act.ofExcept (createOidcAuthorizationUrl oidc state discoveryDoc)
  pure { statusCode := 302, cookies := [("oidc_state", stateCookie config state)],
         url := authorizationUrl }

def loginError (e : OidcExn) : AuthExn :=
  .http 400 ("Error initiating OIDC login: " ++ e.text)

def checkLogin : Except AuthExn Unit := do
  AuthProvider.oidc.raiseOfDisabled config
  if oidc.wellKnownUrl = "" ∨ oidc.clientId = "" ∨ oidc.redirectUri = "" then
    .error (.http 400 "OIDC configuration is incomplete")
  else .ok ()

/-- `login` of the OIDC provider, where `state` is the token that it generates. -/
def oidcLogin : Prog (OidcHttp F) (Except AuthExn RedirectResponse) :=
  match checkLogin oidc config with
  | .error e => .ret (.error e)
  | .ok () => (startLogin oidc config state ()).bind fun (r, _) =>
      .ret (r.mapError loginError)

variable {oidc config state}

/-- What a login that succeeds has read. -/
structure LoginStart (oidc : OidcLoginConfig F) (config : AuthConfig) (state : String)
    (response : RedirectResponse) : Prop where
  enabled : AuthProvider.oidc.isEnabled config = true
  complete : oidc.wellKnownUrl ≠ "" ∧ oidc.clientId ≠ "" ∧ oidc.redirectUri ≠ ""
  answer : response.toAuthResponse =
    { statusCode := 302, cookies := [("oidc_state", stateCookie config state)] }

/-- A login that succeeds leaves its state with the browser, and sets no other cookie. -/
theorem loginStart_of_runs {tr : Trace (OidcHttp F)} {response : RedirectResponse}
    (h : Runs (oidcLogin oidc config state) tr (.ok response)) :
    LoginStart oidc config state response := by
  unfold oidcLogin at h
  cases hcheck : checkLogin oidc config with
  | error e =>
      rw [hcheck] at h
      cases (runs_ret_iff.1 h).2
  | ok _ =>
      rw [hcheck] at h
      rw [checkLogin, bind_eq_ok_iff] at hcheck
      obtain ⟨⟨⟩, henabled, hcheck⟩ := hcheck
      split at hcheck
      · cases hcheck
      · rename_i hcomplete
        rw [not_or, not_or] at hcomplete
        obtain ⟨⟨r, _⟩, tr₁, tr₂, rfl, hrun, hret⟩ := runs_bind_iff.1 h
        have hr := mapError_eq_ok_iff.1 (runs_ret_iff.1 hret).2
        subst hr
        obtain ⟨discoveryDoc, ⟨⟩, tr₃, tr₄, rfl, -, hrest⟩ := Act.returns_bind_iff.1 hrun
        obtain ⟨url, -, hpure⟩ := Act.returns_ofExcept_bind_iff.1 hrest
        obtain ⟨-, rfl, -⟩ := Act.returns_pure_iff.1 hpure
        exact ⟨AuthProvider.raiseOfDisabled_eq_ok_iff.1 henabled, hcomplete, rfl⟩

end

end Tugtainer
