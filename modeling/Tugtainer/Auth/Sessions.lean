import Tugtainer.Auth.SignIn

/-!
# Sessions over restarts

The service signs users in, refreshes their tokens, and is started again with other lists. A
callback asks the lists, a refresh does not: `issued_admitted_iff` says when all tokens that
were issued are for identities that the lists admitted at the time.
-/

namespace Tugtainer

open Python Interaction

variable {F : Type}

/-! ## The lists -/

/-- The variables admit an identity: both lists are empty, or its email, in any case, or its
subject is in one. -/
def OidcVars.Admits (casefold : String → String) (vars : OidcVars)
    (claims : Dict String (Json F)) : Prop :=
  (parseSet vars.allowedEmails = [] ∧ parseSet vars.allowedSubjects = []) ∨
    (∃ email, claims.get? "email" = some (.str email) ∧
      ∃ allowed ∈ parseSet vars.allowedEmails, casefold allowed = casefold email) ∨
      ∃ subject, claims.get? "sub" = some (.str subject) ∧
        subject ∈ parseSet vars.allowedSubjects

theorem OidcVars.admits_load_iff {casefold : String → String} {vars : OidcVars}
    {claims : Dict String (Json F)} :
    (vars.load casefold).Admits casefold claims ↔ vars.Admits casefold claims := by
  simp only [OidcConfig.Admits, OidcVars.Admits, OidcVars.load, List.map_eq_nil_iff,
    List.mem_map]

/-! ## Refreshing -/

section

variable (config : AuthConfig) (codec : TokenCodec F) (cookies : Dict String String) (now : ℤ)

/-- The refresh up to the payload that it goes by, with its provider. -/
def refreshed : Except AuthExn (AuthProvider × TokenPayload F) := do
  let provider ← activeAuthProvider codec cookies
  match provider with
  | none => .error (.http 401 "Unauthorized")
  | some p => do
      p.raiseOfDisabled config
      let payload ← verifiedPayload codec cookies "refresh_token" "refresh" p.name
        "Refresh token missing" "Invalid refresh token type or provider"
      .ok (p, payload)

def tokenResponse (access refresh : TokenPayload F) : AuthResponse where
  statusCode := 200
  cookies := setCookies config (createToken codec now access config.accessTokenLifetimeMin)
    (createToken codec now refresh config.refreshTokenLifetimeMin)

variable {config codec cookies now}

theorem refresh_eq_refreshed :
    refresh config codec cookies now = (refreshed config codec cookies).map fun (p, payload) =>
      tokenResponse config codec now (p.tokenData payload "access")
        (p.tokenData payload "refresh") := by
  unfold refresh refreshed
  cases activeAuthProvider codec cookies with
  | error e => rfl
  | ok provider =>
      cases provider with
      | none => rfl
      | some p =>
          simp only [AuthProvider.refresh_eq, refreshBy, bind, Except.bind]
          cases p.raiseOfDisabled config with
          | error e => rfl
          | ok _ =>
              cases verifiedPayload codec cookies "refresh_token" "refresh" p.name
                "Refresh token missing" "Invalid refresh token type or provider" with
              | error e => rfl
              | ok payload => rfl

theorem refreshed_eq_ok_iff {p : AuthProvider} {payload : TokenPayload F} :
    refreshed config codec cookies = .ok (p, payload) ↔
      activeAuthProvider codec cookies = .ok (some p) ∧ p.isEnabled config = true ∧
        cookiePayload codec cookies "refresh_token" = some payload ∧
          IsTokenOf payload "refresh" p := by
  rw [refreshed, bind_eq_ok_iff]
  constructor
  · rintro ⟨provider, hactive, h⟩
    cases provider with
    | none => cases h
    | some p' =>
        obtain ⟨⟨⟩, henabled, h⟩ := bind_eq_ok_iff.1 h
        obtain ⟨payload', hpayload, h⟩ := bind_eq_ok_iff.1 h
        cases h
        exact ⟨hactive, AuthProvider.raiseOfDisabled_eq_ok_iff.1 henabled,
          verifiedPayload_eq_ok_iff.1 hpayload⟩
  · rintro ⟨hactive, henabled, hpayload⟩
    exact ⟨some p, hactive, bind_eq_ok_iff.2 ⟨(), AuthProvider.raiseOfDisabled_eq_ok_iff.2 henabled,
      bind_eq_ok_iff.2 ⟨payload, verifiedPayload_eq_ok_iff.2 hpayload, rfl⟩⟩⟩

end

/-! ## Runs -/

/-- The data of a token that was issued, and the variables that the service had been started
with at that time. -/
structure Issue (F : Type) where
  vars : OidcVars
  data : TokenPayload F

/-- The variables of the last start, and the tokens that were issued. -/
structure SessionState (F : Type) where
  vars : OidcVars
  issued : List (Issue F)

inductive SessionEvent where
  | restart (vars : OidcVars)
  | callback (query cookies : Dict String String) (now : ℤ)
  | refresh (cookies : Dict String String) (now : ℤ)

def callbackData (env : OidcEnv F) :
    Except AuthExn (Dict String (Json F)) → List (TokenPayload F)
  | .ok claims => [sessionData env claims "access", sessionData env claims "refresh"]
  | .error _ => []

def refreshData : Except AuthExn (AuthProvider × TokenPayload F) → List (TokenPayload F)
  | .ok (p, payload) => [p.tokenData payload "access", p.tokenData payload "refresh"]
  | .error _ => []

def SessionState.issue (s : SessionState F) (data : List (TokenPayload F)) : SessionState F :=
  { s with issued := s.issued ++ data.map fun payload => ⟨s.vars, payload⟩ }

section

variable (env : OidcEnv F) (codec : ℤ → TokenCodec F) (config : AuthConfig)

/-- One step of the service, whose responses carry tokens of the data that are issued
(`callback_eq`, `refresh_eq_refreshed`). The key of the tokens is always the same, so what a token
decodes to depends on the time only. -/
inductive SessionStep : SessionState F → SessionEvent → SessionState F → Prop
  | restart {s : SessionState F} (vars : OidcVars) :
      SessionStep s (.restart vars) { s with vars := vars }
  | callback {s : SessionState F} {query cookies : Dict String String} {now : ℤ}
      {tr : Trace (OidcHttp F)} {r : Except AuthExn (Dict String (Json F))}
      (h : Runs (signIn env (s.vars.load env.casefold) now config query cookies) tr r) :
      SessionStep s (.callback query cookies now) (s.issue (callbackData env r))
  | refresh {s : SessionState F} (cookies : Dict String String) (now : ℤ) :
      SessionStep s (.refresh cookies now)
        (s.issue (refreshData (refreshed config (codec now) cookies)))

/-- The service after a list of events. -/
inductive SessionRun : SessionState F → List SessionEvent → SessionState F → Prop
  | nil (s : SessionState F) : SessionRun s [] s
  | cons {s s' s'' : SessionState F} {event : SessionEvent} {events : List SessionEvent}
      (hstep : SessionStep env codec config s event s') (hrun : SessionRun s' events s'') :
      SessionRun s (event :: events) s''

/-- The claims that a token keeps of its user. -/
def identityOf (payload : TokenPayload F) : Dict String (Json F) :=
  match payload.get? "user_info" with
  | some (.dict claims) => claims
  | _ => []

/-- A token of OIDC is for an identity that the lists admitted when it was issued. -/
def Issue.Admitted (issue : Issue F) : Prop :=
  issue.data.get? "auth_provider" = some (.str "oidc") →
    issue.vars.Admits env.casefold (identityOf issue.data)

/-- Whoever refreshes a token of OIDC is admitted by the lists of the moment. -/
def RefreshAdmitted (vars : OidcVars) (cookies : Dict String String) (now : ℤ) : Prop :=
  ∀ payload, activeAuthProvider (codec now) cookies = .ok (some .oidc) →
    AuthProvider.oidc.isEnabled config = true →
      cookiePayload (codec now) cookies "refresh_token" = some payload →
        IsTokenOf payload "refresh" .oidc → vars.Admits env.casefold (identityOf payload)

/-- Every refresh is by somebody whom the lists admit then. -/
def RefreshesAdmitted : OidcVars → List SessionEvent → Prop
  | _, [] => True
  | _, .restart vars :: events => RefreshesAdmitted vars events
  | vars, .callback _ _ _ :: events => RefreshesAdmitted vars events
  | vars, .refresh cookies now :: events =>
      RefreshAdmitted env codec config vars cookies now ∧ RefreshesAdmitted vars events

variable {env codec config}

/-! ## What is issued -/

theorem admits_of_runs_signIn {vars : OidcVars} {now : ℤ} {query cookies : Dict String String}
    {tr : Trace (OidcHttp F)} {claims : Dict String (Json F)}
    (h : Runs (signIn env (vars.load env.casefold) now config query cookies) tr (.ok claims)) :
    vars.Admits env.casefold claims := by
  obtain ⟨c, hc, rfl, -⟩ := runs_signIn_ok_iff.1 h
  exact OidcVars.admits_load_iff.1 hc.admitted

theorem forall_issue_iff {s : SessionState F} {data : List (TokenPayload F)} :
    (∀ issue ∈ (s.issue data).issued, issue.Admitted env) ↔
      (∀ issue ∈ s.issued, issue.Admitted env) ∧
        ∀ payload ∈ data, Issue.Admitted env ⟨s.vars, payload⟩ := by
  simp only [SessionState.issue, List.forall_mem_append, List.forall_mem_map]

theorem admitted_callbackData {vars : OidcVars} {r : Except AuthExn (Dict String (Json F))}
    (h : ∀ claims, r = .ok claims → vars.Admits env.casefold claims) :
    ∀ payload ∈ callbackData env r, Issue.Admitted env ⟨vars, payload⟩ := by
  cases r with
  | error e => simp [callbackData]
  | ok claims =>
      have hclaims := h claims rfl
      intro payload hmem
      rcases List.mem_pair.1 hmem with rfl | rfl
      · exact fun _ => hclaims
      · exact fun _ => hclaims

theorem identityOf_tokenData (payload : TokenPayload F) (kind : String) :
    identityOf (AuthProvider.tokenData payload kind .oidc) = identityOf payload := by
  have hinfo : Dict.get? (AuthProvider.tokenData payload kind .oidc) "user_info" =
      some ((payload.get? "user_info").getD (.dict [])) := rfl
  rw [identityOf, identityOf, hinfo]
  cases payload.get? "user_info" with
  | none => rfl
  | some v => rfl

theorem refreshAdmitted_iff {vars : OidcVars} {cookies : Dict String String} {now : ℤ} :
    RefreshAdmitted env codec config vars cookies now ↔
      ∀ payload, refreshed config (codec now) cookies = .ok (.oidc, payload) →
        vars.Admits env.casefold (identityOf payload) := by
  simp only [RefreshAdmitted, refreshed_eq_ok_iff, and_imp]

/-- The tokens of a refresh are for an admitted identity exactly when its payload is, unless they
are of another provider. -/
theorem admitted_refreshData_iff {vars : OidcVars} {cookies : Dict String String} {now : ℤ} :
    (∀ payload ∈ refreshData (refreshed config (codec now) cookies),
        Issue.Admitted env ⟨vars, payload⟩) ↔
      RefreshAdmitted env codec config vars cookies now := by
  rw [refreshAdmitted_iff]
  cases refreshed config (codec now) cookies with
  | error e => simp [refreshData]
  | ok found =>
      obtain ⟨p, payload⟩ := found
      cases p with
      | password =>
          have hprovider (kind : String) : Issue.Admitted env
              ⟨vars, AuthProvider.tokenData payload kind .password⟩ := by
            intro h
            have hne : (some (.str "password") : Option (Json F)) ≠ some (.str "oidc") := by simp
            exact absurd h hne
          simp [refreshData, hprovider]
      | oidc =>
          have hprovider (kind : String) : Issue.Admitted env
                ⟨vars, AuthProvider.tokenData payload kind .oidc⟩ ↔
              vars.Admits env.casefold (identityOf payload) := by
            rw [Issue.Admitted, identityOf_tokenData]
            exact forall_prop_of_true rfl
          simp [refreshData, hprovider]

theorem issued_step_iff {s s' : SessionState F} {event : SessionEvent} {events : List SessionEvent}
    (h : SessionStep env codec config s event s') :
    (∀ issue ∈ s'.issued, issue.Admitted env) ∧ RefreshesAdmitted env codec config s'.vars events ↔
      (∀ issue ∈ s.issued, issue.Admitted env) ∧
        RefreshesAdmitted env codec config s.vars (event :: events) := by
  cases h with
  | restart vars => exact Iff.rfl
  | @callback query cookies now tr r h =>
      have hdata : ∀ payload ∈ callbackData env r, Issue.Admitted env ⟨s.vars, payload⟩ := by
        refine admitted_callbackData fun claims hr => ?_
        subst hr
        exact admits_of_runs_signIn h
      rw [forall_issue_iff, and_iff_left hdata]
      exact Iff.rfl
  | refresh cookies now =>
      rw [forall_issue_iff, admitted_refreshData_iff, and_assoc]
      exact Iff.rfl

theorem issued_run_iff {s s' : SessionState F} {events : List SessionEvent}
    (h : SessionRun env codec config s events s') :
    (∀ issue ∈ s'.issued, issue.Admitted env) ↔
      (∀ issue ∈ s.issued, issue.Admitted env) ∧
        RefreshesAdmitted env codec config s.vars events := by
  induction h with
  | nil s => exact (and_iff_left trivial).symm
  | cons hstep _ ih => rw [ih, issued_step_iff hstep]

/-- In a run all tokens of OIDC are issued to identities that the lists admit at the time, exactly
when every refresh is by such an identity. -/
theorem issued_admitted_iff {vars : OidcVars} {s : SessionState F} {events : List SessionEvent}
    (h : SessionRun env codec config ⟨vars, []⟩ events s) :
    (∀ issue ∈ s.issued, issue.Admitted env) ↔ RefreshesAdmitted env codec config vars events := by
  rw [issued_run_iff h]
  exact and_iff_right fun _ hmem => absurd hmem List.not_mem_nil

end

/-! ## An example -/

def otherVars : OidcVars :=
  { userVars with allowedEmails := "other@example.com" }

/-- The user signs in, the service is started again with other lists, and the user refreshes the
tokens. -/
def userEvents : List SessionEvent :=
  [.callback userQuery [("oidc_state", "state-1")] 1750000000, .restart otherVars,
    .refresh [("refresh_token", userRefreshToken)] 1750003600]

def userRefreshPayload : TokenPayload Empty :=
  (sessionData userEnv userClaims "refresh").set "exp" (.int 1752592000)

theorem userRefreshToken_ne_empty : userRefreshToken ≠ "" := by
  intro h
  have hlast := (String.append_eq_empty_iff.1 h).2
  exact absurd hlast (by decide)

theorem refreshed_user :
    refreshed oidcOnlyConfig userCodec [("refresh_token", userRefreshToken)] =
      .ok (.oidc, userRefreshPayload) := by
  have hdecode : userCodec.decode userRefreshToken = some userRefreshPayload := by
    simp only [userCodec, if_true, userRefreshPayload]
  have hpayload : cookiePayload userCodec [("refresh_token", userRefreshToken)] "refresh_token" =
      some userRefreshPayload := by
    simp only [cookiePayload, Dict.get?_cons, if_true, Option.getD_some, userRefreshToken_ne_empty,
      if_false, hdecode]
  have hactive : activeAuthProvider userCodec [("refresh_token", userRefreshToken)] =
      .ok (some .oidc) := by
    have hfirst : decodeNext userCodec none none = none := rfl
    have hsecond : decodeNext userCodec none (some userRefreshToken) = some userRefreshPayload := by
      rw [decodeNext, if_pos ⟨userRefreshToken_ne_empty, rfl⟩]
      exact hdecode
    have hcookie : Dict.get? [("refresh_token", userRefreshToken)] "access_token" = none := rfl
    simp only [activeAuthProvider, List.foldl_cons, List.foldl_nil, hcookie, hfirst,
      Dict.get?_cons, if_true, hsecond]
    rfl
  exact refreshed_eq_ok_iff.2 ⟨hactive, rfl, hpayload, rfl, rfl⟩

theorem otherVars_not_admits : ¬ otherVars.Admits lower userClaims := by
  have hemails : parseSet otherVars.allowedEmails = ["other@example.com"] := by decide
  have hsubjects : parseSet otherVars.allowedSubjects = [] := by decide
  rintro (⟨hempty, -⟩ | ⟨email, hemail, allowed, hmem, heq⟩ | ⟨subject, -, hmem⟩)
  · rw [hemails] at hempty
    cases hempty
  · cases hemail
    rw [hemails] at hmem
    obtain rfl := List.mem_singleton.1 hmem
    exact absurd heq (by decide)
  · rw [hsubjects] at hmem
    cases hmem

def restartedState : SessionState Empty :=
  { (SessionState.issue ⟨userVars, []⟩ (callbackData userEnv (.ok userClaims))) with
    vars := otherVars }

def userState : SessionState Empty :=
  restartedState.issue (refreshData (.ok (.oidc, userRefreshPayload)))

theorem sessionRun_user :
    SessionRun userEnv (fun _ => userCodec) oidcOnlyConfig ⟨userVars, []⟩ userEvents userState := by
  have hrefresh : SessionStep userEnv (fun _ => userCodec) oidcOnlyConfig restartedState
      (.refresh [("refresh_token", userRefreshToken)] 1750003600) userState := by
    rw [userState, ← refreshed_user]
    exact .refresh _ _
  exact .cons (.callback (runs_signIn_ok_iff.2 ⟨userSignIn, userSignIn_valid, rfl, rfl⟩))
    (.cons (.restart otherVars) (.cons hrefresh (.nil _)))

theorem issued_admitted_iff_user :
    (∀ issue ∈ userState.issued, issue.Admitted userEnv) ↔
      RefreshesAdmitted userEnv (fun _ => userCodec) oidcOnlyConfig userVars userEvents :=
  issued_admitted_iff sessionRun_user

/-- The user gets new tokens, though the lists do not admit the user any more. -/
theorem removed_user_gets_tokens :
    SessionRun userEnv (fun _ => userCodec) oidcOnlyConfig ⟨userVars, []⟩ userEvents userState ∧
    (∃ response, refresh oidcOnlyConfig userCodec [("refresh_token", userRefreshToken)]
      1750003600 = .ok response) ∧
    ∃ issue ∈ userState.issued, issue.data.get? "auth_provider" = some (.str "oidc") ∧
      ¬ issue.vars.Admits lower (identityOf issue.data) := by
  refine ⟨sessionRun_user, ⟨_, refresh_eq_refreshed.trans (by rw [refreshed_user]; rfl)⟩,
    ⟨otherVars, AuthProvider.tokenData userRefreshPayload "access" .oidc⟩, ?_, rfl, ?_⟩
  · simp [userState, restartedState, SessionState.issue, refreshData]
  · rw [identityOf_tokenData]
    exact otherVars_not_admits

end Tugtainer
