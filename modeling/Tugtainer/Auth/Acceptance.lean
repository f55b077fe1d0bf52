import Tugtainer.Auth.Provider

/-!
# Which tokens are accepted

The active provider comes from the first cookie that decodes, and the provider then checks
the cookie that it needs. Both agree, because a provider accepts only payloads that name it.
-/

namespace Tugtainer

open Python

/-! ## Results -/

theorem bind_eq_ok_iff {ε α β : Type} {x : Except ε α} {f : α → Except ε β} {b : β} :
    (x >>= f) = .ok b ↔ ∃ a, x = .ok a ∧ f a = .ok b := by
  cases x with
  | error e => simp [bind, Except.bind]
  | ok a => simp [bind, Except.bind]

section

variable {F : Type} {config : AuthConfig} {codec : TokenCodec F} {cookies : Dict String String}

/-! ## Payloads -/

/-- What a cookie decodes to. An empty one counts as none. -/
def cookiePayload (codec : TokenCodec F) (cookies : Dict String String) (cookie : String) :
    Option (TokenPayload F) :=
  let token := (cookies.get? cookie).getD ""
  if token = "" then none else codec.decode token

/-- A payload of this kind and of this provider. -/
structure IsTokenOf (payload : TokenPayload F) (kind : String) (p : AuthProvider) : Prop where
  type : payload.get? "type" = some (.str kind)
  provider : payload.get? "auth_provider" = some (.str p.name)

theorem name_injective : Function.Injective AuthProvider.name := by
  intro p q h
  cases p <;> cases q <;> first | rfl | exact absurd h (by decide)

theorem IsTokenOf.unique {payload : TokenPayload F} {kind kind' : String} {p p' : AuthProvider}
    (h : IsTokenOf payload kind p) (h' : IsTokenOf payload kind' p') : kind = kind' ∧ p = p' := by
  have htype := h.type.symm.trans h'.type
  have hprovider := h.provider.symm.trans h'.provider
  simp only [Option.some.injEq, Json.str.injEq] at htype hprovider
  exact ⟨htype, name_injective hprovider⟩

theorem payloadHas_eq_true_iff {payload : TokenPayload F} {key text : String} :
    payloadHas payload key text = true ↔ payload.get? key = some (.str text) := by
  unfold payloadHas
  split
  · rename_i s hs
    simp [hs]
  · rename_i hne
    simpa using hne text

/-! ## One provider -/

theorem verifyToken_eq_ok_iff {token : String} {payload : TokenPayload F} :
    verifyToken codec token = .ok payload ↔ codec.decode token = some payload := by
  unfold verifyToken
  cases codec.decode token with
  | none => simp
  | some payload => simp

theorem verifiedPayload_eq_ok_iff {cookie kind missing mismatch : String} {p : AuthProvider}
    {payload : TokenPayload F} :
    verifiedPayload codec cookies cookie kind p.name missing mismatch = .ok payload ↔
      cookiePayload codec cookies cookie = some payload ∧ IsTokenOf payload kind p := by
  unfold verifiedPayload cookiePayload
  by_cases htoken : (cookies.get? cookie).getD "" = ""
  · simp [htoken]
  · simp only [if_neg htoken, bind_eq_ok_iff, verifyToken_eq_ok_iff]
    constructor
    · rintro ⟨payload', hdecode, hif⟩
      split at hif
      · rename_i hhas
        cases hif
        exact ⟨hdecode, payloadHas_eq_true_iff.1 hhas.1, payloadHas_eq_true_iff.1 hhas.2⟩
      · cases hif
    · rintro ⟨hdecode, htype, hprovider⟩
      exact ⟨payload, hdecode, if_pos
        ⟨payloadHas_eq_true_iff.2 htype, payloadHas_eq_true_iff.2 hprovider⟩⟩

namespace AuthProvider

theorem isAuthorized_eq (p : AuthProvider) :
    p.isAuthorized codec cookies = isAuthorizedBy codec cookies p.name := by
  cases p <;> rfl

theorem isAuthorized_eq_ok_iff {p : AuthProvider} {b : Bool} :
    p.isAuthorized codec cookies = .ok b ↔
      (∃ payload, cookiePayload codec cookies "access_token" = some payload ∧
        IsTokenOf payload "access" p) ∧ true = b := by
  rw [isAuthorized_eq, isAuthorizedBy, bind_eq_ok_iff]
  simp only [verifiedPayload_eq_ok_iff, Except.ok.injEq, exists_and_right]

theorem raiseOfDisabled_eq_ok_iff {p : AuthProvider} :
    p.raiseOfDisabled config = .ok () ↔ p.isEnabled config = true := by
  unfold raiseOfDisabled
  split
  · rename_i henabled
    simp [henabled]
  · rename_i hdisabled
    simp [hdisabled]

theorem refresh_eq (now : ℤ) (p : AuthProvider) :
    p.refresh config codec cookies now = (do
      p.raiseOfDisabled config
      refreshBy config codec cookies now p.name fun payload kind => tokenData payload kind p) := by
  cases p <;> rfl

theorem isTokenOf_tokenData (payload : TokenPayload F) (kind : String) (p : AuthProvider)
    (exp : Json F) : IsTokenOf ((tokenData payload kind p).set "exp" exp) kind p := by
  constructor
  · rw [Dict.get?_set_of_ne _ (by decide)]
    cases p <;> rfl
  · rw [Dict.get?_set_of_ne _ (by decide)]
    cases p <;> rfl

end AuthProvider

/-- The tokens of a response encode payloads of a provider. -/
def IssuesTokensOf (codec : TokenCodec F) (response : AuthResponse) (p : AuthProvider) : Prop :=
  ∃ access refresh : TokenPayload F,
    (response.cookies.get? "access_token").map SetCookie.value = some (codec.encode access) ∧
    (response.cookies.get? "refresh_token").map SetCookie.value = some (codec.encode refresh) ∧
    IsTokenOf access "access" p ∧ IsTokenOf refresh "refresh" p

namespace AuthProvider

/-- `refresh` of a provider accepts its own refresh tokens, and issues tokens of its own. -/
theorem of_refresh_eq_ok {now : ℤ} {p : AuthProvider} {response : AuthResponse}
    (h : p.refresh config codec cookies now = .ok response) :
    p.isEnabled config = true ∧ IssuesTokensOf codec response p ∧
      ∃ payload, cookiePayload codec cookies "refresh_token" = some payload ∧
        IsTokenOf payload "refresh" p := by
  rw [refresh_eq, bind_eq_ok_iff] at h
  obtain ⟨⟨⟩, henabled, h⟩ := h
  rw [refreshBy, bind_eq_ok_iff] at h
  obtain ⟨payload, hpayload, h⟩ := h
  cases h
  exact ⟨raiseOfDisabled_eq_ok_iff.1 henabled,
    ⟨_, _, rfl, rfl, isTokenOf_tokenData _ _ _ _, isTokenOf_tokenData _ _ _ _⟩,
    payload, verifiedPayload_eq_ok_iff.1 hpayload⟩

end AuthProvider

/-! ## The active provider -/

theorem authProviderByName_name (p : AuthProvider) :
    authProviderByName (some (.str p.name) : Option (Json F)) = .ok (some p) := by
  cases p <;> rfl

/-- An access cookie that decodes to a token names the active provider, whatever the other
cookie is. -/
theorem activeAuthProvider_of_access {payload : TokenPayload F} {kind : String} {p : AuthProvider}
    (hpayload : cookiePayload codec cookies "access_token" = some payload)
    (htoken : IsTokenOf payload kind p) : activeAuthProvider codec cookies = .ok (some p) := by
  have hne : payload ≠ [] := by
    rintro rfl
    exact absurd htoken.type (by simp)
  have hfirst : decodeNext codec none (cookies.get? "access_token") = some payload := by
    unfold cookiePayload at hpayload
    by_cases hempty : (cookies.get? "access_token").getD "" = ""
    · simp [hempty] at hpayload
    · rw [decodeNext, if_pos ⟨hempty, rfl⟩]
      simpa only [if_neg hempty] using hpayload
  have hsecond : decodeNext codec (some payload) (cookies.get? "refresh_token") = some payload :=
    if_neg fun h => hne h.2
  obtain ⟨item, items, rfl⟩ := List.exists_cons_of_ne_nil hne
  simp only [activeAuthProvider, List.foldl_cons, List.foldl_nil, hfirst, hsecond,
    htoken.provider, authProviderByName_name]

theorem isAuthorized_iff (hauth : config.disableAuth = false) :
    (∃ b, isAuthorized config codec cookies = .ok b) ↔
      ∃ p payload, cookiePayload codec cookies "access_token" = some payload ∧
        IsTokenOf payload "access" p ∧ p.isEnabled config = true := by
  have hdisabled : ¬config.disableAuth = true := by simp [hauth]
  constructor
  · rintro ⟨b, h⟩
    rw [isAuthorized, if_neg hdisabled, bind_eq_ok_iff] at h
    obtain ⟨provider, hactive, h⟩ := h
    cases provider with
    | none => cases h
    | some p =>
        obtain ⟨⟨⟩, henabled, h⟩ := bind_eq_ok_iff.1 h
        obtain ⟨⟨payload, hpayload, htoken⟩, -⟩ := AuthProvider.isAuthorized_eq_ok_iff.1 h
        exact ⟨p, payload, hpayload, htoken, AuthProvider.raiseOfDisabled_eq_ok_iff.1 henabled⟩
  · rintro ⟨p, payload, hpayload, htoken, henabled⟩
    refine ⟨true, ?_⟩
    rw [isAuthorized, if_neg hdisabled, bind_eq_ok_iff]
    refine ⟨some p, activeAuthProvider_of_access hpayload htoken, ?_⟩
    exact bind_eq_ok_iff.2 ⟨(), AuthProvider.raiseOfDisabled_eq_ok_iff.2 henabled,
      AuthProvider.isAuthorized_eq_ok_iff.2 ⟨⟨payload, hpayload, htoken⟩, rfl⟩⟩

/-- Whoever gets new tokens has a refresh token of an enabled provider, which the new tokens
name. -/
theorem of_refresh_eq_ok {now : ℤ} {response : AuthResponse}
    (h : refresh config codec cookies now = .ok response) :
    ∃ p payload, cookiePayload codec cookies "refresh_token" = some payload ∧
      IsTokenOf payload "refresh" p ∧ p.isEnabled config = true ∧
      IssuesTokensOf codec response p := by
  rw [refresh, bind_eq_ok_iff] at h
  obtain ⟨provider, hactive, h⟩ := h
  cases provider with
  | none => cases h
  | some p =>
      obtain ⟨henabled, hissues, payload, hpayload, htoken⟩ := AuthProvider.of_refresh_eq_ok h
      exact ⟨p, payload, hpayload, htoken, henabled, hissues⟩

/-- Who is authorized, and who gets new tokens. Neither kind of token and neither provider's
tokens are taken for the other's. -/
theorem accepted_tokens (hauth : config.disableAuth = false) :
    ((∃ b, isAuthorized config codec cookies = .ok b) ↔
      ∃ p payload, cookiePayload codec cookies "access_token" = some payload ∧
        IsTokenOf payload "access" p ∧ p.isEnabled config = true) ∧
    (∀ now response, refresh config codec cookies now = .ok response →
      ∃ p payload, cookiePayload codec cookies "refresh_token" = some payload ∧
        IsTokenOf payload "refresh" p ∧ p.isEnabled config = true ∧
        IssuesTokensOf codec response p) ∧
    (∀ payload kind p q b, cookiePayload codec cookies "access_token" = some payload →
      IsTokenOf payload kind p → q.isAuthorized codec cookies = .ok b →
      kind = "access" ∧ p = q) ∧
    (∀ payload kind p q now response, cookiePayload codec cookies "refresh_token" = some payload →
      IsTokenOf payload kind p → q.refresh config codec cookies now = .ok response →
      kind = "refresh" ∧ p = q) := by
  refine ⟨isAuthorized_iff hauth, fun _ _ => of_refresh_eq_ok, ?_, ?_⟩
  · intro payload kind p q b hpayload htoken h
    obtain ⟨⟨payload', hpayload', htoken'⟩, -⟩ := AuthProvider.isAuthorized_eq_ok_iff.1 h
    cases hpayload.symm.trans hpayload'
    exact htoken.unique htoken'
  · intro payload kind p q now response hpayload htoken h
    obtain ⟨-, -, payload', hpayload', htoken'⟩ := AuthProvider.of_refresh_eq_ok h
    cases hpayload.symm.trans hpayload'
    exact htoken.unique htoken'

end

/-! ## An example -/

/-- An access token of the password provider, signed with the key `secret`. -/
def passwordToken : String :=
  "eyJhbGciOiJIUzI1NiIsInR5cCI6IkpXVCJ9" ++ "." ++
    "eyJ0eXBlIjoiYWNjZXNzIiwiYXV0aF9wcm92aWRlciI6InBhc3N3b3JkIiwiZXhwIjo0MTAyNDQ0ODAwfQ" ++
    "." ++ "fYdn8TRT_Bb_rtVyvoC_pVQDHl8BCbUVPAlaXL4ghq4"

theorem passwordToken_ne_empty : passwordToken ≠ "" := by
  intro h
  have hdot := (String.append_eq_empty_iff.1 (String.append_eq_empty_iff.1 h).1).2
  exact absurd hdot (by decide)

def passwordPayload : TokenPayload Empty :=
  [("type", .str "access"), ("auth_provider", .str "password"), ("exp", .int 4102444800)]

def passwordCodec : TokenCodec Empty where
  decode token := if token = passwordToken then some passwordPayload else none
  encode _ := passwordToken

def passwordConfig : AuthConfig where
  disableAuth := false
  disablePassword := false
  oidcEnabled := false
  accessTokenLifetimeMin := 5
  refreshTokenLifetimeMin := 43200
  https := false
  domain := none

theorem isAuthorized_passwordToken :
    ∃ b, isAuthorized passwordConfig passwordCodec [("access_token", passwordToken)] = .ok b := by
  have hpayload : cookiePayload passwordCodec [("access_token", passwordToken)] "access_token" =
      some passwordPayload := by
    simp only [cookiePayload, Dict.get?_cons, if_true, Option.getD_some, passwordToken_ne_empty,
      if_false, passwordCodec]
  exact (accepted_tokens rfl).1.2 ⟨.password, passwordPayload, hpayload, ⟨rfl, rfl⟩, rfl⟩

end Tugtainer
