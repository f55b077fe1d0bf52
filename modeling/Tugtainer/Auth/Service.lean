import Tugtainer.Auth.Login
import Tugtainer.Auth.Passwords

/-!
# Who may change the password

The backend as its visitors see it: one request after the other, each with whatever cookies it
carries. A token that the backend issues descends from a sign-in (`Visit.of_issues`), possibly
over many refreshes, so whoever is let in has a token of somebody who has signed in, and whoever
changes a password that is set has one of somebody who has known it.
-/

namespace Tugtainer

open Python Interaction

variable {F : Type}

/-! ## Visits -/

/-- What the backend uses of libraries. What a token decodes to depends on the time. -/
structure AuthLibraries (F : Type) where
  oidc : OidcEnv F
  bcrypt : Bcrypt
  digit : Char → Option ℕ
  codec : ℤ → TokenCodec F

/-- The variables of the last start, and the file with the hash of the password. -/
structure AuthBackend (F : Type) where
  config : AuthConfig
  oidc : OidcLoginConfig F
  passwordFile : Option String

/-- The requests of authentication, with the random values that their handlers generate. A body
is `none` where it is no JSON. -/
inductive AuthRequest (F : Type) where
  | login (body : Option (Json F))
  | oidcLogin (state : String)
  | callback (query : Dict String String)
  | refresh
  | logout
  | setPassword (body : Option (Json F)) (salt : String)

def redirected (r : Except AuthExn RedirectResponse) : Except RequestExn AuthResponse :=
  (r.map RedirectResponse.toAuthResponse).mapError .auth

section

variable (lib : AuthLibraries F) (s : AuthBackend F) (cookies : Dict String String) (now : ℤ)

/-- `set_password`, with the validation of its body. -/
def AuthBackend.setPassword (body : Option (Json F)) (salt : String) :
    Except RequestExn (String × AuthResponse) :=
  match passwordSetRequestBody lib.digit body with
  | none => .error .invalid
  | some payload =>
      Tugtainer.setPassword lib.bcrypt (lib.codec now) cookies s.passwordFile salt payload

def AuthBackend.written : Except RequestExn (String × AuthResponse) → AuthBackend F
  | .ok (passwordHash, _) => { s with passwordFile := some passwordHash }
  | .error _ => s

/-- What the backend does with a request. The trace is what it asks the identity provider, with
the replies. -/
inductive AuthServes : AuthRequest F → Trace (OidcHttp F) → AuthBackend F →
    Except RequestExn AuthResponse → Prop
  | login (body : Option (Json F)) :
      AuthServes (.login body) [] s
        (passwordLogin lib.bcrypt s.config (lib.codec now) s.passwordFile now body)
  | oidcLogin {state : String} {tr : Trace (OidcHttp F)} {r : Except AuthExn RedirectResponse}
      (h : Runs (oidcLogin s.oidc s.config state) tr r) :
      AuthServes (.oidcLogin state) tr s (redirected r)
  | callback {query : Dict String String} {tr : Trace (OidcHttp F)}
      {r : Except AuthExn RedirectResponse}
      (h : Runs (callback lib.oidc s.oidc.toOidcConfig now (lib.codec now) s.config query cookies)
        tr r) :
      AuthServes (.callback query) tr s (redirected r)
  | refresh :
      AuthServes .refresh [] s
        ((Tugtainer.refresh s.config (lib.codec now) cookies now).mapError .auth)
  | logout :
      AuthServes .logout [] s ((Tugtainer.logout s.config (lib.codec now) cookies).mapError .auth)
  | setPassword (body : Option (Json F)) (salt : String) :
      AuthServes (.setPassword body salt) [] (s.written (s.setPassword lib cookies now body salt))
        ((s.setPassword lib cookies now body salt).map Prod.snd)

end

/-- A request that was served. -/
structure Visit (F : Type) where
  request : AuthRequest F
  cookies : Dict String String
  now : ℤ
  trace : Trace (OidcHttp F)
  before : AuthBackend F
  after : AuthBackend F
  response : Except RequestExn AuthResponse

/-- The visits between two states of the backend, the latest one last. The backend may be
started again with other variables at any time, as long as `JWT_SECRET_KEY` and `PASSWORD_FILE`
stay what they are: the codec of the tokens is the same in the whole run, and a start finds the
file that was written last. -/
inductive AuthRun (lib : AuthLibraries F) (s : AuthBackend F) :
    List (Visit F) → AuthBackend F → Prop
  | start : AuthRun lib s [] s
  | restart {visits : List (Visit F)} {s' : AuthBackend F} (config : AuthConfig)
      (oidc : OidcLoginConfig F) (hrun : AuthRun lib s visits s') :
      AuthRun lib s visits { s' with config := config, oidc := oidc }
  | visit {visits : List (Visit F)} {v : Visit F} (hrun : AuthRun lib s visits v.before)
      (hserves : AuthServes lib v.before v.cookies v.now v.request v.trace v.after v.response) :
      AuthRun lib s (visits ++ [v]) v.after

section

variable (lib : AuthLibraries F)

def tokenCookies : List String := ["access_token", "refresh_token"]

def Visit.Issues (v : Visit F) (token : String) : Prop :=
  ∃ response kv, v.response = .ok response ∧ kv ∈ response.cookies ∧ kv.1 ∈ tokenCookies ∧
    kv.2.value = token ∧ token ≠ ""

/-- A visit signs in with a provider: by a password that matches the file, or by a callback for
which the replies of the identity provider are those of a user whom the lists admit. The answer
is the one with the tokens. -/
def Visit.SignsIn (v : Visit F) (p : AuthProvider) : Prop :=
  p.isEnabled v.before.config = true ∧
    match p with
    | .password => ∃ body response, v.request = .login body ∧ v.response = .ok response ∧
        MatchesPassword lib.bcrypt v.before.passwordFile body
    | .oidc => ∃ query, v.request = .callback query ∧ ∃ c : SignIn F,
        c.Valid lib.oidc v.before.oidc.toOidcConfig v.now v.before.config query v.cookies ∧
          v.trace = c.trace v.before.oidc.toOidcConfig ∧
          v.response = .ok (sessionResponse lib.oidc v.now (lib.codec v.now) v.before.config
            c.claims).toAuthResponse

/-- After the visits a token descends from one of them: that visit was issued it, or a refresh
was, whose refresh token descends from that visit. -/
inductive DescendsFrom (u : Visit F) : List (Visit F) → String → Prop
  | issued {visits : List (Visit F)} {token : String} (hissues : u.Issues token) :
      DescendsFrom u (visits ++ [u]) token
  | refreshed {visits : List (Visit F)} {v : Visit F} {token : String}
      (hrefresh : v.request = .refresh) (hissues : v.Issues token)
      (hfrom : DescendsFrom u visits ((v.cookies.get? "refresh_token").getD "")) :
      DescendsFrom u (visits ++ [v]) token
  | later {visits : List (Visit F)} {token : String} (v : Visit F)
      (hfrom : DescendsFrom u visits token) : DescendsFrom u (visits ++ [v]) token

/-- `jwt` decodes a token to what it was made for, as far as it says whose token it is. -/
def AuthLibraries.Signs : Prop :=
  ∀ now now' payload payload', (lib.codec now').decode ((lib.codec now).encode payload) =
    some payload' → payload'.get? "type" = payload.get? "type" ∧
      payload'.get? "auth_provider" = payload.get? "auth_provider"

/-- Nobody forges tokens: a cookie that decodes is a token that one of the visits was issued. -/
def Presents (visits : List (Visit F)) (cookies : Dict String String) (now : ℤ) : Prop :=
  ∀ cookie ∈ tokenCookies, ∀ payload,
    cookiePayload (lib.codec now) cookies cookie = some payload →
      ∃ v ∈ visits, v.Issues ((cookies.get? cookie).getD "")

/-- No visit of a run has a forged token. -/
def Unforged (visits : List (Visit F)) : Prop :=
  ∀ earlier v later, visits = earlier ++ v :: later → Presents lib earlier v.cookies v.now

end

/-! ## What a visit issues -/

section

variable {lib : AuthLibraries F}

theorem AuthBackend.setPassword_eq_ok_iff {s : AuthBackend F} {cookies : Dict String String}
    {now : ℤ} {body : Option (Json F)} {salt passwordHash : String} {response : AuthResponse} :
    s.setPassword lib cookies now body salt = .ok (passwordHash, response) ↔
      ∃ payload, passwordSetRequestBody lib.digit body = some payload ∧
        (isPasswordSet s.passwordFile = true → ∃ token,
          cookiePayload (lib.codec now) cookies "access_token" = some token ∧
            IsTokenOf token "access" .password) ∧
        lib.bcrypt.hashpw payload.password salt = some passwordHash ∧
          response = { statusCode := 201, cookies := [] } := by
  unfold AuthBackend.setPassword
  cases passwordSetRequestBody lib.digit body with
  | none => simp
  | some payload => simp [Tugtainer.setPassword_eq_ok_iff]

theorem IsTokenOf.of_signs (hsigns : lib.Signs) {now now' : ℤ} {payload payload' : TokenPayload F}
    {kind : String} {p : AuthProvider} (hpayload : IsTokenOf payload kind p)
    (hdecode : (lib.codec now').decode ((lib.codec now).encode payload) = some payload') :
    IsTokenOf payload' kind p := by
  obtain ⟨htype, hprovider⟩ := hsigns _ _ _ _ hdecode
  exact ⟨htype.trans hpayload.type, hprovider.trans hpayload.provider⟩

theorem exists_of_mem_setCookies {config : AuthConfig} {access refresh token : String}
    {kv : String × SetCookie} (hmem : kv ∈ setCookies config access refresh)
    (htoken : kv.2.value = token) : token = access ∨ token = refresh := by
  subst htoken
  rcases List.mem_pair.1 hmem with rfl | rfl
  · exact .inl rfl
  · exact .inr rfl

theorem exists_of_mem_tokenResponse {config : AuthConfig} {codec : TokenCodec F} {now : ℤ}
    {data : TokenPayload F} {p : AuthProvider} {kv : String × SetCookie}
    (hmem : kv ∈ (tokenResponse config codec now (p.tokenData data "access")
      (p.tokenData data "refresh")).cookies) :
    ∃ payload kind, kv.2.value = codec.encode payload ∧ IsTokenOf payload kind p := by
  rcases exists_of_mem_setCookies hmem rfl with h | h
  · exact ⟨_, _, h, AuthProvider.isTokenOf_tokenData _ _ _ _⟩
  · exact ⟨_, _, h, AuthProvider.isTokenOf_tokenData _ _ _ _⟩

theorem isTokenOf_sessionData (env : OidcEnv F) (claims : Dict String (Json F)) (kind : String)
    (exp : Json F) : IsTokenOf ((sessionData env claims kind).set "exp" exp) kind .oidc := by
  constructor
  · rw [Dict.get?_set_of_ne _ (by decide)]
    rfl
  · rw [Dict.get?_set_of_ne _ (by decide)]
    rfl

/-- The cookies of a session, the cookie of the state apart, are tokens of OIDC. -/
theorem exists_of_mem_sessionResponse {env : OidcEnv F} {now : ℤ} {codec : TokenCodec F}
    {config : AuthConfig} {claims : Dict String (Json F)} {kv : String × SetCookie}
    (hmem : kv ∈ (sessionResponse env now codec config claims).cookies)
    (hcookie : kv.1 ∈ tokenCookies) :
    ∃ payload kind, kv.2.value = codec.encode payload ∧ IsTokenOf payload kind .oidc := by
  rcases List.mem_cons.1 hmem with rfl | hmem
  · exact ⟨_, _, rfl, isTokenOf_sessionData _ _ _ _⟩
  · rcases List.mem_pair.1 hmem with rfl | rfl
    · exact ⟨_, _, rfl, isTokenOf_sessionData _ _ _ _⟩
    · exact absurd hcookie (by decide)

theorem redirected_eq_ok_iff {r : Except AuthExn RedirectResponse} {response : AuthResponse} :
    redirected r = .ok response ↔ ∃ r', r = .ok r' ∧ r'.toAuthResponse = response := by
  unfold redirected
  cases r with
  | error e => simp [Except.map, Except.mapError]
  | ok r' => simp [Except.map, Except.mapError]

theorem exists_of_runs_callback {env : OidcEnv F} {oidc : OidcConfig} {now : ℤ}
    {codec : TokenCodec F} {config : AuthConfig} {query cookies : Dict String String}
    {tr : Trace (OidcHttp F)} {response : RedirectResponse}
    (h : Runs (callback env oidc now codec config query cookies) tr (.ok response)) :
    ∃ c : SignIn F, c.Valid env oidc now config query cookies ∧ tr = c.trace oidc ∧
      response = sessionResponse env now codec config c.claims := by
  rw [callback_eq] at h
  obtain ⟨r, tr₁, tr₂, rfl, hsign, hret⟩ := runs_bind_iff.1 h
  obtain ⟨rfl, hr⟩ := runs_ret_iff.1 hret
  cases r with
  | error e => cases hr
  | ok claims =>
      cases hr
      obtain ⟨c, hc, rfl, rfl⟩ := runs_signIn_ok_iff.1 hsign
      exact ⟨c, hc, List.append_nil _, rfl⟩

/-- A token that is issued is of a provider that the visit signs in with, or that the refresh
token is of with which the visit asks for new ones. -/
theorem Visit.of_issues {v : Visit F} {token : String}
    (hserves : AuthServes lib v.before v.cookies v.now v.request v.trace v.after v.response)
    (h : v.Issues token) :
    ∃ p payload kind, token = (lib.codec v.now).encode payload ∧ IsTokenOf payload kind p ∧
      (v.SignsIn lib p ∨ v.request = .refresh ∧ ∃ payload',
        cookiePayload (lib.codec v.now) v.cookies "refresh_token" = some payload' ∧
          IsTokenOf payload' "refresh" p) := by
  obtain ⟨request, cookies, now, tr, before, after, r⟩ := v
  obtain ⟨response, kv, hr, hmem, hcookie, rfl, hne⟩ := h
  dsimp only at hserves hr ⊢
  subst hr
  generalize hr : (Except.ok response : Except RequestExn AuthResponse) = r at hserves
  cases hserves with
  | login body =>
      obtain ⟨henabled, hmatches, rfl⟩ := passwordLogin_eq_ok_iff.1 hr.symm
      obtain ⟨payload, kind, hvalue, hpayload⟩ := exists_of_mem_tokenResponse hmem
      exact ⟨.password, payload, kind, hvalue, hpayload,
        .inl ⟨henabled, body, _, rfl, hr.symm, hmatches⟩⟩
  | @oidcLogin state tr r h =>
      obtain ⟨r', rfl, rfl⟩ := redirected_eq_ok_iff.1 hr.symm
      rw [(loginStart_of_runs h).answer] at hmem
      rw [List.mem_singleton.1 hmem] at hcookie
      exact absurd hcookie (by simp [tokenCookies])
  | @callback query tr r h =>
      obtain ⟨r', rfl, rfl⟩ := redirected_eq_ok_iff.1 hr.symm
      obtain ⟨c, hc, rfl, rfl⟩ := exists_of_runs_callback h
      obtain ⟨payload, kind, hvalue, hpayload⟩ := exists_of_mem_sessionResponse hmem hcookie
      exact ⟨.oidc, payload, kind, hvalue, hpayload,
        .inl ⟨hc.enabled, query, rfl, c, hc, rfl, hr.symm⟩⟩
  | refresh =>
      rw [refresh_eq_refreshed] at hr
      have hok := mapError_eq_ok_iff.1 hr.symm
      cases hrefreshed : refreshed before.config (lib.codec now) cookies with
      | error e =>
          rw [hrefreshed] at hok
          cases hok
      | ok found =>
          obtain ⟨p, payload'⟩ := found
          rw [hrefreshed] at hok
          cases hok
          obtain ⟨-, -, hpayload', htoken'⟩ := refreshed_eq_ok_iff.1 hrefreshed
          obtain ⟨payload, kind, hvalue, hpayload⟩ := exists_of_mem_tokenResponse hmem
          exact ⟨p, payload, kind, hvalue, hpayload, .inr ⟨rfl, payload', hpayload', htoken'⟩⟩
  | logout =>
      exact absurd (deleted_of_logout (mapError_eq_ok_iff.1 hr.symm) hmem).2.1 hne
  | setPassword body salt =>
      cases hset : before.setPassword lib cookies now body salt with
      | error e =>
          rw [hset] at hr
          cases hr
      | ok written =>
          obtain ⟨passwordHash, response'⟩ := written
          rw [hset] at hr
          cases hr
          obtain ⟨payload, -, -, -, rfl⟩ := AuthBackend.setPassword_eq_ok_iff.1 hset
          exact absurd hmem List.not_mem_nil

theorem passwordFile_of_serves {s s' : AuthBackend F} {cookies : Dict String String} {now : ℤ}
    {request : AuthRequest F} {tr : Trace (OidcHttp F)} {r : Except RequestExn AuthResponse}
    (h : AuthServes lib s cookies now request tr s' r) :
    s' = s ∨ ∃ body salt passwordHash response, request = .setPassword body salt ∧
      s.setPassword lib cookies now body salt = .ok (passwordHash, response) ∧
        r = .ok response ∧ s' = { s with passwordFile := some passwordHash } := by
  cases h with
  | login | oidcLogin | callback | refresh | logout => exact .inl rfl
  | setPassword body salt =>
      cases hset : s.setPassword lib cookies now body salt with
      | error e => exact .inl rfl
      | ok written => exact .inr ⟨body, salt, written.1, written.2, rfl, hset, rfl, rfl⟩

/-! ## Runs -/

theorem AuthRun.of_append {s s' : AuthBackend F} {earlier later : List (Visit F)} {v : Visit F}
    (hrun : AuthRun lib s (earlier ++ v :: later) s') :
    AuthRun lib s earlier v.before ∧
      AuthServes lib v.before v.cookies v.now v.request v.trace v.after v.response := by
  generalize hvisits : earlier ++ v :: later = visits at hrun
  induction hrun generalizing later with
  | start => exact absurd hvisits (by simp)
  | restart config oidc _ ih => exact ih hvisits
  | @visit visits v' hrun hserves ih =>
      rcases List.eq_nil_or_concat later with rfl | ⟨later', last, rfl⟩
      · obtain ⟨rfl, hv⟩ := List.append_inj' hvisits rfl
        cases hv
        exact ⟨hrun, hserves⟩
      · rw [List.concat_eq_append, ← List.cons_append, ← List.append_assoc] at hvisits
        exact ih (List.append_inj' hvisits rfl).1

theorem Unforged.of_append {earlier later : List (Visit F)}
    (h : Unforged lib (earlier ++ later)) : Unforged lib earlier := by
  rintro earlier' v later' rfl
  exact h earlier' v (later' ++ later) (by simp)

theorem cookiePayload_eq_some_iff {codec : TokenCodec F} {cookies : Dict String String}
    {cookie : String} {payload : TokenPayload F} :
    cookiePayload codec cookies cookie = some payload ↔
      (cookies.get? cookie).getD "" ≠ "" ∧
        codec.decode ((cookies.get? cookie).getD "") = some payload := by
  unfold cookiePayload
  by_cases hempty : (cookies.get? cookie).getD "" = ""
  · simp [hempty]
  · simp [hempty]

theorem DescendsFrom.mem {u : Visit F} {visits : List (Visit F)} {token : String}
    (h : DescendsFrom u visits token) : u ∈ visits := by
  induction h with
  | issued _ => exact List.mem_append_right _ (List.mem_singleton_self u)
  | refreshed _ _ _ ih => exact List.mem_append_left _ ih
  | later _ _ ih => exact List.mem_append_left _ ih

/-- A token that was issued in a run descends from a visit that signs in with its provider. -/
theorem descendsFrom_of_issues (hsigns : lib.Signs) {s s' : AuthBackend F}
    {visits : List (Visit F)} (hrun : AuthRun lib s visits s') (hunforged : Unforged lib visits)
    {v : Visit F} (hv : v ∈ visits) {token : String} (hissues : v.Issues token) {now : ℤ}
    {payload : TokenPayload F} {kind : String} {p : AuthProvider}
    (hdecode : (lib.codec now).decode token = some payload) (hpayload : IsTokenOf payload kind p) :
    ∃ u, u.SignsIn lib p ∧ DescendsFrom u visits token := by
  induction hrun generalizing v token now payload kind with
  | start => exact absurd hv List.not_mem_nil
  | restart config oidc _ ih => exact ih hunforged hv hissues hdecode hpayload
  | @visit visits last hrun hserves ih =>
      rcases List.mem_append.1 hv with hv | hv
      · obtain ⟨u, hsigned, hfrom⟩ := ih hunforged.of_append hv hissues hdecode hpayload
        exact ⟨u, hsigned, .later last hfrom⟩
      · obtain rfl := List.mem_singleton.1 hv
        obtain ⟨p', payload₀, kind₀, rfl, hpayload₀, hsource⟩ := Visit.of_issues hserves hissues
        obtain ⟨-, rfl⟩ := (hpayload₀.of_signs hsigns hdecode).unique hpayload
        rcases hsource with hsigned | ⟨hrefresh, payload', hcookie, hpayload'⟩
        · exact ⟨v, hsigned, .issued hissues⟩
        · -- the token that was refreshed had been issued before
          obtain ⟨u, hu, hissued⟩ := hunforged visits v [] rfl "refresh_token"
            (by simp [tokenCookies]) payload' hcookie
          obtain ⟨w, hsigned, hfrom⟩ := ih hunforged.of_append hu hissued
            (cookiePayload_eq_some_iff.1 hcookie).2 hpayload'
          exact ⟨w, hsigned, .refreshed hrefresh hissues hfrom⟩

/-- A token that is presented descends from a visit that signs in with its provider. -/
theorem descendsFrom_of_presents (hsigns : lib.Signs) {s s' : AuthBackend F}
    {visits : List (Visit F)} (hrun : AuthRun lib s visits s') (hunforged : Unforged lib visits)
    {cookies : Dict String String} {now : ℤ} (hpresents : Presents lib visits cookies now)
    {cookie kind : String} (hcookie : cookie ∈ tokenCookies) {payload : TokenPayload F}
    {p : AuthProvider} (hpayload : cookiePayload (lib.codec now) cookies cookie = some payload)
    (htoken : IsTokenOf payload kind p) :
    ∃ token, cookies.get? cookie = some token ∧
      ∃ u ∈ visits, u.SignsIn lib p ∧ DescendsFrom u visits token := by
  obtain ⟨v, hv, hissues⟩ := hpresents cookie hcookie payload hpayload
  obtain ⟨hne, hdecode⟩ := cookiePayload_eq_some_iff.1 hpayload
  obtain ⟨u, hsigned, hfrom⟩ := descendsFrom_of_issues hsigns hrun hunforged hv hissues hdecode
    htoken
  cases htext : cookies.get? cookie with
  | none =>
      rw [htext] at hne
      exact absurd rfl hne
  | some token =>
      rw [htext] at hfrom
      exact ⟨token, rfl, u, hfrom.mem, hsigned, hfrom⟩

/-- Whoever is let in has an access token that descends, over any number of refreshes, from a
sign-in with a provider that is enabled still: with the password that was set at the time, or as a
user whom the lists admitted then. -/
theorem signsIn_of_isAuthorized (hsigns : lib.Signs) {s s' : AuthBackend F}
    {visits : List (Visit F)} (hrun : AuthRun lib s visits s') (hunforged : Unforged lib visits)
    {cookies : Dict String String} {now : ℤ} (hpresents : Presents lib visits cookies now)
    (hauth : s'.config.disableAuth = false) {b : Bool}
    (h : isAuthorized s'.config (lib.codec now) cookies = .ok b) :
    ∃ p, p.isEnabled s'.config = true ∧ ∃ token, cookies.get? "access_token" = some token ∧
      ∃ u ∈ visits, u.SignsIn lib p ∧ DescendsFrom u visits token := by
  obtain ⟨p, payload, hpayload, htoken, henabled⟩ := (isAuthorized_iff hauth).1 ⟨b, h⟩
  exact ⟨p, henabled, descendsFrom_of_presents hsigns hrun hunforged hpresents
    (by simp [tokenCookies]) hpayload htoken⟩

/-- Whoever changes a password that is set has an access token that descends from a login with the
password of its time, however often the tokens were refreshed since. A session of OIDC is not
enough. -/
theorem signsIn_of_changed (hsigns : lib.Signs) {s s' : AuthBackend F}
    {earlier later : List (Visit F)} {v : Visit F}
    (hrun : AuthRun lib s (earlier ++ v :: later) s')
    (hunforged : Unforged lib (earlier ++ v :: later))
    (hset : isPasswordSet v.before.passwordFile = true)
    (hchanged : v.after.passwordFile ≠ v.before.passwordFile) :
    ∃ token, v.cookies.get? "access_token" = some token ∧
      ∃ u ∈ earlier, u.SignsIn lib .password ∧ DescendsFrom u earlier token := by
  obtain ⟨hearlier, hserves⟩ := hrun.of_append
  rcases passwordFile_of_serves hserves with hsame | ⟨body, salt, _, _, -, hsetPassword, -⟩
  · exact absurd (congrArg AuthBackend.passwordFile hsame) hchanged
  · obtain ⟨payload, -, hallowed, -⟩ := AuthBackend.setPassword_eq_ok_iff.1 hsetPassword
    obtain ⟨token, hpayload, htoken⟩ := hallowed hset
    exact descendsFrom_of_presents hsigns hearlier hunforged.of_append (hunforged _ _ _ rfl)
      (by simp [tokenCookies]) hpayload htoken

/-! ## The password that was set -/

/-- `bcrypt.checkpw` accepts the password that was hashed, and no hash is empty. -/
structure Bcrypt.Verifies (bcrypt : Bcrypt) : Prop where
  ne_empty : ∀ password salt passwordHash,
    bcrypt.hashpw password salt = some passwordHash → passwordHash ≠ ""
  checkpw : ∀ password salt passwordHash, bcrypt.hashpw password salt = some passwordHash →
    bcrypt.checkpw password passwordHash = some true

def Visit.SetsPassword (v : Visit F) : Prop :=
  ∃ body salt response, v.request = .setPassword body salt ∧ v.response = .ok response

theorem passwordFile_of_setsPassword {s s' : AuthBackend F} {cookies : Dict String String}
    {now : ℤ} {body : Option (Json F)} {salt : String} {tr : Trace (OidcHttp F)}
    {response : AuthResponse}
    (h : AuthServes lib s cookies now (.setPassword body salt) tr s' (.ok response)) :
    ∃ payload passwordHash, passwordSetRequestBody lib.digit body = some payload ∧
      lib.bcrypt.hashpw payload.password salt = some passwordHash ∧
        s'.passwordFile = some passwordHash := by
  generalize hr : (Except.ok response : Except RequestExn AuthResponse) = r at h
  cases h with
  | setPassword =>
      cases hset : s.setPassword lib cookies now body salt with
      | error e =>
          rw [hset] at hr
          cases hr
      | ok written =>
          obtain ⟨payload, hpayload, -, hhash, -⟩ := AuthBackend.setPassword_eq_ok_iff.1 hset
          exact ⟨payload, written.1, hpayload, hhash, rfl⟩

theorem AuthRun.passwordFile_eq {s s' : AuthBackend F} {visits : List (Visit F)}
    (hrun : AuthRun lib s visits s') (h : ∀ v ∈ visits, ¬ v.SetsPassword) :
    s'.passwordFile = s.passwordFile := by
  induction hrun with
  | start => rfl
  | restart config oidc _ ih => exact ih h
  | @visit visits v _ hserves ih =>
      rw [← ih fun u hu => h u (List.mem_append_left _ hu)]
      rcases passwordFile_of_serves hserves with hsame | ⟨body, salt, _, r, hreq, -, hr, -⟩
      · rw [hsame]
      · exact absurd ⟨body, salt, r, hreq, hr⟩
          (h v (List.mem_append_right _ (List.mem_singleton_self v)))

theorem AuthRun.after_append {s s' : AuthBackend F} {earlier later : List (Visit F)} {v : Visit F}
    (hrun : AuthRun lib s (earlier ++ v :: later) s') : AuthRun lib v.after later s' := by
  generalize hvisits : earlier ++ v :: later = visits at hrun
  induction hrun generalizing later with
  | start => exact absurd hvisits (by simp)
  | restart config oidc _ ih => exact .restart config oidc (ih hvisits)
  | @visit visits v' hrun hserves ih =>
      rcases List.eq_nil_or_concat later with rfl | ⟨later', last, rfl⟩
      · obtain ⟨-, hv⟩ := List.append_inj' hvisits rfl
        cases hv
        exact .start
      · rw [List.concat_eq_append] at hvisits ⊢
        rw [← List.cons_append, ← List.append_assoc] at hvisits
        obtain ⟨hinit, hlast⟩ := List.append_inj' hvisits rfl
        cases hlast
        exact .visit (ih hinit) hserves

theorem response_of_login {s s' : AuthBackend F} {cookies : Dict String String} {now : ℤ}
    {body : Option (Json F)} {tr : Trace (OidcHttp F)} {r : Except RequestExn AuthResponse}
    (h : AuthServes lib s cookies now (.login body) tr s' r) :
    (∃ response, r = .ok response) ↔ AuthProvider.password.isEnabled s.config = true ∧
      MatchesPassword lib.bcrypt s.passwordFile body := by
  cases h with
  | login =>
      simp only [passwordLogin_eq_ok_iff]
      exact ⟨fun ⟨_, henabled, hmatches, _⟩ => ⟨henabled, hmatches⟩,
        fun ⟨henabled, hmatches⟩ => ⟨_, henabled, hmatches, rfl⟩⟩

/-- After a password is set and until another one is, the backend logs in exactly those whose
password its hash verifies, as long as the provider is enabled. The password that was set is
one. -/
theorem login_iff_of_setsPassword (hverifies : lib.bcrypt.Verifies) {s s' : AuthBackend F}
    {earlier between later : List (Visit F)} {v w : Visit F}
    (hrun : AuthRun lib s (earlier ++ v :: (between ++ w :: later)) s')
    {body body' : Option (Json F)} {salt : String} {response : AuthResponse}
    (hset : v.request = .setPassword body salt ∧ v.response = .ok response)
    (hbetween : ∀ u ∈ between, ¬ u.SetsPassword) (hlogin : w.request = .login body') :
    ∃ payload passwordHash, passwordSetRequestBody lib.digit body = some payload ∧
      lib.bcrypt.hashpw payload.password salt = some passwordHash ∧
      ((∃ response', w.response = .ok response') ↔
        AuthProvider.password.isEnabled w.before.config = true ∧
          verifyPassword lib.bcrypt (loginPassword body') passwordHash = some true) ∧
      (loginPassword body' = .str payload.password →
        verifyPassword lib.bcrypt (loginPassword body') passwordHash = some true) := by
  have hv := hrun.of_append.2
  rw [hset.1, hset.2] at hv
  obtain ⟨payload, passwordHash, hpayload, hhash, hfile⟩ := passwordFile_of_setsPassword hv
  obtain ⟨hto, hw⟩ := hrun.after_append.of_append
  rw [hlogin] at hw
  have hkept : w.before.passwordFile = some passwordHash :=
    (hto.passwordFile_eq hbetween).trans hfile
  have hmatches : MatchesPassword lib.bcrypt w.before.passwordFile body' ↔
      verifyPassword lib.bcrypt (loginPassword body') passwordHash = some true := by
    rw [hkept]
    exact ⟨fun h => h.verified, fun h => ⟨hverifies.ne_empty _ _ _ hhash, h⟩⟩
  refine ⟨payload, passwordHash, hpayload, hhash, ?_, fun hsame => ?_⟩
  · rw [response_of_login hw, hmatches]
  · rw [hsame]
    exact hverifies.checkpw _ _ _ hhash

end

/-! ## An example -/

/-- The tokens of a login at 1750000000, signed with the key `secret`. -/
def loginAccessToken : String :=
  "eyJhbGciOiJIUzI1NiIsInR5cCI6IkpXVCJ9" ++ "." ++
    "eyJ0eXBlIjoiYWNjZXNzIiwiYXV0aF9wcm92aWRlciI6InBhc3N3b3JkIiwiZXhwIjoxNzUwMDAwMzAwfQ" ++
    "." ++ "IRJAXIfKEDqCATfaD6U5Sos_DOsQP-VFD_OAdXftUvU"

def loginRefreshToken : String :=
  "eyJhbGciOiJIUzI1NiIsInR5cCI6IkpXVCJ9" ++ "." ++
    "eyJ0eXBlIjoicmVmcmVzaCIsImF1dGhfcHJvdmlkZXIiOiJwYXNzd29yZCIsImV4cCI6MTc1MjU5MjAwMH0" ++
    "." ++ "RamGW_7751TiFO9w4abAoXgv2Ywzfu4WCG844SexsCs"

def bcryptSalt : String := "$2b$12$C6UzMDM.H6dfI/f/IKcEe."

def firstHash : String := "$2b$12$C6UzMDM.H6dfI/f/IKcEe.D/qGpg.pdu72X41JUBP.sH.a4lh67tm"

def secondHash : String := "$2b$12$C6UzMDM.H6dfI/f/IKcEe.tIC4eKVDXOLepgsiqzu56uN/YraXCe2"

def knownHash (password : String) : Option String :=
  if password = "Tugtainer1" then some firstHash
  else if password = "Tugtainer2" then some secondHash
  else none

def loginPayload : TokenPayload Empty :=
  [("type", .str "access"), ("auth_provider", .str "password"), ("exp", .int 1750000300)]

/-- The libraries, as far as the two passwords and the tokens of the login need them. -/
def loginLibraries : AuthLibraries Empty where
  oidc := userEnv
  bcrypt :=
    { hashpw := fun password salt => if salt = bcryptSalt then knownHash password else none
      checkpw := fun password passwordHash => some (knownHash password = some passwordHash) }
  digit := asciiDigit
  codec now :=
    { decode := fun token =>
        if token = loginAccessToken ∧ now ≤ 1750000300 then some loginPayload
        else if token = loginRefreshToken ∧ now ≤ 1752592000 then
          some [("type", .str "refresh"), ("auth_provider", .str "password"),
            ("exp", .int 1752592000)]
        else none
      encode := fun payload =>
        if payloadHas payload "auth_provider" "password" then
          if payloadHas payload "type" "access" then loginAccessToken
          else if payloadHas payload "type" "refresh" then loginRefreshToken
          else ""
        else "" }

theorem loginAccessToken_ne : loginAccessToken ≠ "" ∧ loginAccessToken ≠ loginRefreshToken := by
  decide

theorem cookiePayload_loginAccessToken {now : ℤ} (h : now ≤ 1750000300) :
    cookiePayload (loginLibraries.codec now) [("access_token", loginAccessToken)] "access_token" =
      some loginPayload := by
  refine cookiePayload_eq_some_iff.2 ⟨loginAccessToken_ne.1, ?_⟩
  simp only [loginLibraries]
  exact if_pos ⟨rfl, h⟩

theorem loginLibraries_verifies : loginLibraries.bcrypt.Verifies where
  ne_empty password salt passwordHash h := by
    have hhash : knownHash password = some passwordHash := (Option.ite_none_right_eq_some.1 h).2
    unfold knownHash at hhash
    split at hhash
    · cases hhash
      decide
    · obtain ⟨-, h⟩ := Option.ite_none_right_eq_some.1 hhash
      cases h
      decide
  checkpw password salt passwordHash h := by
    have hhash : knownHash password = some passwordHash := (Option.ite_none_right_eq_some.1 h).2
    simp [loginLibraries, hhash]

theorem loginLibraries_signs : loginLibraries.Signs := by
  intro now now' payload payload' h
  have hnone : (loginLibraries.codec now').decode "" = none := by
    simp only [loginLibraries]
    rw [if_neg fun h => absurd h.1 (by decide), if_neg fun h => absurd h.1 (by decide)]
  change (loginLibraries.codec now').decode (if payloadHas payload "auth_provider" "password" then
    if payloadHas payload "type" "access" then loginAccessToken
    else if payloadHas payload "type" "refresh" then loginRefreshToken
    else "" else "") = _ at h
  split at h
  · rename_i hprovider
    rw [payloadHas_eq_true_iff.1 hprovider]
    split at h
    · rename_i htype
      rw [payloadHas_eq_true_iff.1 htype]
      simp only [loginLibraries, loginAccessToken_ne.2, true_and, false_and, if_false] at h
      cases (Option.ite_none_right_eq_some.1 h).2
      exact ⟨rfl, rfl⟩
    · split at h
      · rename_i htype
        rw [payloadHas_eq_true_iff.1 htype]
        simp only [loginLibraries, loginAccessToken_ne.2.symm, true_and, false_and, if_false] at h
        cases (Option.ite_none_right_eq_some.1 h).2
        exact ⟨rfl, rfl⟩
      · cases hnone.symm.trans h
  · cases hnone.symm.trans h

def passwordBody (password : String) : Option (Json Empty) :=
  some (.dict [("password", .str password), ("confirm_password", .str password)])

def passwordBackend (file : Option String) : AuthBackend Empty where
  config := passwordConfig
  oidc := { userVars.load lower with scopes := "openid profile email", str := fun _ => "" }
  passwordFile := file

/-- A password is set, somebody logs in with it and sets another one. -/
def settingVisit : Visit Empty where
  request := .setPassword (passwordBody "Tugtainer1") bcryptSalt
  cookies := []
  now := 1749999000
  trace := []
  before := passwordBackend none
  after := passwordBackend (some firstHash)
  response := .ok { statusCode := 201, cookies := [] }

def loginVisit : Visit Empty where
  request := .login (passwordBody "Tugtainer1")
  cookies := []
  now := 1750000000
  trace := []
  before := passwordBackend (some firstHash)
  after := passwordBackend (some firstHash)
  response := .ok { statusCode := 200,
                    cookies := setCookies passwordConfig loginAccessToken loginRefreshToken }

def changingVisit : Visit Empty where
  request := .setPassword (passwordBody "Tugtainer2") bcryptSalt
  cookies := [("access_token", loginAccessToken)]
  now := 1750000060
  trace := []
  before := passwordBackend (some firstHash)
  after := passwordBackend (some secondHash)
  response := .ok { statusCode := 201, cookies := [] }

theorem loginVisit_issues : loginVisit.Issues loginAccessToken :=
  ⟨_, _, rfl, List.mem_cons_self, by decide, rfl, loginAccessToken_ne.1⟩

theorem presents_loginAccessToken {visits : List (Visit Empty)} (h : loginVisit ∈ visits)
    (now : ℤ) : Presents loginLibraries visits [("access_token", loginAccessToken)] now := by
  intro cookie hcookie payload hpayload
  rcases List.mem_pair.1 hcookie with rfl | rfl
  · exact ⟨loginVisit, h, loginVisit_issues⟩
  · cases hpayload

theorem authRun_login :
    AuthRun loginLibraries (passwordBackend none) [settingVisit, loginVisit, changingVisit]
      (passwordBackend (some secondHash)) := by
  have hset : AuthServes loginLibraries (passwordBackend none) [] 1749999000 settingVisit.request []
      (passwordBackend (some firstHash)) settingVisit.response :=
    .setPassword _ _
  have hlogin : AuthServes loginLibraries (passwordBackend (some firstHash)) [] 1750000000
      loginVisit.request [] (passwordBackend (some firstHash)) loginVisit.response := by
    have hmatches : MatchesPassword loginLibraries.bcrypt (some firstHash)
        (passwordBody "Tugtainer1") := ⟨by decide, by decide⟩
    have hresponse : passwordLogin loginLibraries.bcrypt passwordConfig
        (loginLibraries.codec 1750000000) (some firstHash) 1750000000
        (passwordBody "Tugtainer1") = loginVisit.response :=
      passwordLogin_eq_ok_iff.2 ⟨rfl, hmatches, rfl⟩
    exact hresponse ▸ .login _
  have hchange : AuthServes loginLibraries (passwordBackend (some firstHash))
      [("access_token", loginAccessToken)] 1750000060 changingVisit.request []
      (passwordBackend (some secondHash)) changingVisit.response := by
    obtain ⟨payload, hpayload, hpassword⟩ : ∃ payload,
        passwordSetRequestBody asciiDigit (passwordBody "Tugtainer2") = some payload ∧
          payload.password = "Tugtainer2" := ⟨_, rfl, rfl⟩
    have hwritten : (passwordBackend (some firstHash)).setPassword loginLibraries
        [("access_token", loginAccessToken)] 1750000060 (passwordBody "Tugtainer2") bcryptSalt =
          .ok (secondHash, { statusCode := 201, cookies := [] }) :=
      AuthBackend.setPassword_eq_ok_iff.2 ⟨payload, hpayload,
        fun _ => ⟨loginPayload, cookiePayload_loginAccessToken (by decide), rfl, rfl⟩,
        hpassword ▸ rfl, rfl⟩
    have h : AuthServes loginLibraries (passwordBackend (some firstHash))
        [("access_token", loginAccessToken)] 1750000060
        (.setPassword (passwordBody "Tugtainer2") bcryptSalt) [] _ _ := .setPassword _ _
    rw [hwritten] at h
    exact h
  exact .visit (v := changingVisit) (.visit (v := loginVisit) (.visit (v := settingVisit) .start
    hset) hlogin) hchange

theorem unforged_login : Unforged loginLibraries [settingVisit, loginVisit, changingVisit] := by
  have hnone (visits : List (Visit Empty)) (now : ℤ) : Presents loginLibraries visits [] now := by
    intro cookie hcookie payload hpayload
    cases hpayload
  intro earlier v later hvisits
  rcases earlier with _ | ⟨_, _ | ⟨_, _ | ⟨_, earlier⟩⟩⟩
  · cases hvisits
    exact hnone _ _
  · cases hvisits
    exact hnone _ _
  · cases hvisits
    exact presents_loginAccessToken (by simp) _
  · exact absurd (congrArg List.length hvisits) (by simp)

/-- The visitor who has logged in is let in. -/
theorem signsIn_of_isAuthorized_login :
    ∃ p, p.isEnabled passwordConfig = true ∧
      ∃ token, Dict.get? [("access_token", loginAccessToken)] "access_token" = some token ∧
        ∃ u ∈ [settingVisit, loginVisit, changingVisit], u.SignsIn loginLibraries p ∧
          DescendsFrom u [settingVisit, loginVisit, changingVisit] token := by
  have hauthorized : ∃ b, isAuthorized passwordConfig (loginLibraries.codec 1750000120)
      [("access_token", loginAccessToken)] = .ok b :=
    (isAuthorized_iff rfl).2
      ⟨.password, loginPayload, cookiePayload_loginAccessToken (by decide), ⟨rfl, rfl⟩, rfl⟩
  obtain ⟨b, hb⟩ := hauthorized
  exact signsIn_of_isAuthorized loginLibraries_signs authRun_login unforged_login
    (presents_loginAccessToken (by simp) 1750000120) rfl hb

/-- The visitor changes the password after a login. -/
theorem signsIn_of_changed_login :
    ∃ token, changingVisit.cookies.get? "access_token" = some token ∧
      ∃ u ∈ [settingVisit, loginVisit], u.SignsIn loginLibraries .password ∧
        DescendsFrom u [settingVisit, loginVisit] token := by
  have hrun : AuthRun loginLibraries (passwordBackend none)
      ([settingVisit, loginVisit] ++ changingVisit :: []) (passwordBackend (some secondHash)) :=
    authRun_login
  have hchanged : changingVisit.after.passwordFile ≠ changingVisit.before.passwordFile := by decide
  exact signsIn_of_changed loginLibraries_signs hrun unforged_login rfl hchanged

/-- The password that is set is the one of the login. -/
theorem login_iff_of_setsPassword_first :
    ∃ payload passwordHash,
      passwordSetRequestBody asciiDigit (passwordBody "Tugtainer1") = some payload ∧
      loginLibraries.bcrypt.hashpw payload.password bcryptSalt = some passwordHash ∧
      ((∃ response', loginVisit.response = .ok response') ↔
        AuthProvider.password.isEnabled passwordConfig = true ∧
          verifyPassword loginLibraries.bcrypt (loginPassword (passwordBody "Tugtainer1"))
            passwordHash = some true) ∧
      (loginPassword (passwordBody "Tugtainer1") = .str payload.password →
        verifyPassword loginLibraries.bcrypt (loginPassword (passwordBody "Tugtainer1"))
          passwordHash = some true) := by
  have hrun : AuthRun loginLibraries (passwordBackend none)
      ([] ++ settingVisit :: ([] ++ loginVisit :: [changingVisit]))
      (passwordBackend (some secondHash)) := authRun_login
  exact login_iff_of_setsPassword loginLibraries_verifies hrun ⟨rfl, rfl⟩
    (fun _ h => absurd h List.not_mem_nil) rfl

end Tugtainer
