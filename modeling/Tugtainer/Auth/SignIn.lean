import Tugtainer.Auth.Acceptance
import Tugtainer.Auth.Oidc
import Tugtainer.Interaction.Returns

/-!
# Who is signed in

`SignIn.Valid` collects what a callback that opens a session has checked, function by function
(`returns_verifyOidcIdToken_iff`, `returns_exchangeOidcCode_iff`, `runs_callback_ok_iff`). All
else ends with an exception, which is answered without cookies.
-/

namespace Tugtainer

open Python Interaction

variable {F : Type} {env : OidcEnv F} {oidc : OidcConfig} {codec : TokenCodec F}
  {config : AuthConfig} {now : ℤ}

/-! ## Single checks -/

theorem getD_eq_iff_of_ne {α : Type} {v : Option α} {d w : α} (h : w ≠ d) :
    v.getD d = w ↔ v = some w := by
  cases v with
  | none => simp [h.symm]
  | some v => simp

theorem getD_null_eq_str_iff {v : Option (Json F)} {s : String} :
    v.getD .null = .str s ↔ v = some (.str s) :=
  getD_eq_iff_of_ne nofun

theorem getD_null_eq_list_iff {v : Option (Json F)} {items : List (Json F)} :
    v.getD .null = .list items ↔ v = some (.list items) :=
  getD_eq_iff_of_ne nofun

theorem signingAlgorithm_eq_ok_iff {v : Json F} {algorithm : String} :
    signingAlgorithm v = .ok algorithm ↔
      v = .str algorithm ∧ algorithm ∈ oidcAsymmetricSigningAlgorithms := by
  cases v with
  | str s =>
      simp only [signingAlgorithm]
      split
      · rename_i hs
        simp only [Except.ok.injEq, Json.str.injEq]
        constructor
        · rintro rfl
          exact ⟨rfl, hs⟩
        · exact fun h => h.1
      · rename_i hs
        simp only [reduceCtorEq, Json.str.injEq, false_iff, not_and]
        rintro rfl
        exact hs
  | null | bool | int | float | list | dict | leaf => simp [signingAlgorithm]

/-- The algorithm is in the list that the provider advertises, if there is a list. -/
theorem isAdvertised_iff {algorithm : String} {v : Json F} :
    isAdvertised env algorithm v = true ↔
      ∀ items, v = .list items → .str algorithm ∈ items := by
  cases v with
  | list items => simp [isAdvertised, Json.eq_str_iff]
  | null | bool | int | float | str | dict | leaf => simp [isAdvertised]

theorem keysList_eq_ok_iff {v : Json F} {keys : List (Json F)} :
    keysList v = .ok keys ↔ v = .list keys := by
  cases v with
  | list items => simp [keysList]
  | null | bool | int | float | str | dict | leaf => simp [keysList]

/-- A key fits the header of a token: its `kid` is the one of the header, which may have
none, and its `use` and its `alg`, where it has them, are for such a signature. -/
structure FitsHeader (env : OidcEnv F) (header : Dict String (Json F)) (algorithm : String)
    (key : Dict String (Json F)) : Prop where
  kid : (∀ v, header.get? "kid" = some v → v = .null) ∨
    ((key.get? "kid").getD .null).eq env.floatEq ((header.get? "kid").getD .null) = true
  use : ∀ v, key.get? "use" = some v → v = .str "sig"
  alg : ∀ v, key.get? "alg" = some v → v = .str algorithm

theorem getD_eq_iff {v : Option (Json F)} {w : Json F} :
    v.getD w = w ↔ ∀ u, v = some u → u = w := by
  cases v with
  | none => simp
  | some v => simp

theorem matchesHeader_iff {header key : Dict String (Json F)} {algorithm : String} :
    matchesHeader env ((header.get? "kid").getD .null) algorithm key = true ↔
      FitsHeader env header algorithm key := by
  simp only [matchesHeader, Bool.and_eq_true, Bool.or_eq_true, Json.isNone_iff, Json.eq_str_iff,
    getD_eq_iff]
  constructor
  · rintro ⟨⟨hkid, huse⟩, halg⟩
    exact ⟨hkid, huse, halg⟩
  · rintro ⟨hkid, huse, halg⟩
    exact ⟨⟨hkid, huse⟩, halg⟩

def OnlyKey (env : OidcEnv F) (header : Dict String (Json F)) (algorithm : String)
    (keys : List (Json F)) (key : Dict String (Json F)) : Prop :=
  ∃ before after, keys = before ++ .dict key :: after ∧ FitsHeader env header algorithm key ∧
    ∀ other, .dict other ∈ before ++ after → ¬ FitsHeader env header algorithm other

theorem uniqueKey_eq_ok_iff {keys : List (Dict String (Json F))} {key : Dict String (Json F)} :
    uniqueKey keys = .ok key ↔ keys = [key] := by
  rcases keys with _ | ⟨k, _ | ⟨k', keys⟩⟩
  · simp [uniqueKey]
  · simp [uniqueKey]
  · simp [uniqueKey]

theorem matchingKeys_eq_nil_iff {header : Dict String (Json F)} {algorithm : String}
    {keys : List (Json F)} :
    matchingKeys env ((header.get? "kid").getD .null) algorithm keys = [] ↔
      ∀ other, .dict other ∈ keys → ¬ FitsHeader env header algorithm other := by
  simp only [matchingKeys, List.filterMap_eq_nil_iff]
  constructor
  · intro h other hmem hfits
    have hnone := h _ hmem
    simp [matchesHeader_iff.2 hfits] at hnone
  · intro h v hmem
    split
    · rename_i other
      exact if_neg fun hmatches => h other hmem (matchesHeader_iff.1 hmatches)
    · rfl

theorem matchingKeys_eq_singleton_iff {header key : Dict String (Json F)} {algorithm : String}
    {keys : List (Json F)} :
    matchingKeys env ((header.get? "kid").getD .null) algorithm keys = [key] ↔
      OnlyKey env header algorithm keys key := by
  constructor
  · intro h
    obtain ⟨before, v, after, rfl, hbefore, hv, hafter⟩ := List.filterMap_eq_cons_iff.1 h
    have hbefore := matchingKeys_eq_nil_iff.1 (List.filterMap_eq_nil_iff.2 hbefore)
    have hafter := matchingKeys_eq_nil_iff.1 hafter
    split at hv
    · split at hv
      · rename_i hmatches
        cases hv
        refine ⟨before, after, rfl, matchesHeader_iff.1 hmatches, fun other hmem => ?_⟩
        exact (List.mem_append.1 hmem).elim (hbefore other) (hafter other)
      · cases hv
    · cases hv
  · rintro ⟨before, after, rfl, hfits, hothers⟩
    have hbefore := matchingKeys_eq_nil_iff.2 fun other hmem =>
      hothers other (List.mem_append_left after hmem)
    have hafter := matchingKeys_eq_nil_iff.2 fun other hmem =>
      hothers other (List.mem_append_right before hmem)
    refine List.filterMap_eq_cons_iff.2 ⟨before, .dict key, after, rfl,
      List.filterMap_eq_nil_iff.1 hbefore, if_pos (matchesHeader_iff.2 hfits), hafter⟩

/-- A token for several audiences names the client as its authorized party, and one that names
any names the client. -/
structure IsAuthorizedParty (clientId : String) (claims : Dict String (Json F)) : Prop where
  several : ∀ items, claims.get? "aud" = some (.list items) → 1 < items.length →
    claims.get? "azp" = some (.str clientId)
  named : ∀ azp, claims.get? "azp" = some azp → azp = .null ∨ azp = .str clientId

theorem isSeveral_iff {v : Json F} :
    isSeveral v = true ↔ ∃ items, v = .list items ∧ 1 < items.length := by
  cases v with
  | list items => simp [isSeveral]
  | null | bool | int | float | str | dict | leaf => simp [isSeveral]

theorem isNone_or_eq_str_iff {v : Option (Json F)} {E : FloatEq F} {s : String} :
    ((v.getD .null).isNone || (v.getD .null).eq E (.str s)) = true ↔
      ∀ w, v = some w → w = .null ∨ w = .str s := by
  rw [Bool.or_eq_true, Json.isNone_iff, Json.eq_str_iff]
  cases v with
  | none => simp
  | some w => simp

theorem checkAuthorizedParty_eq_ok_iff {clientId : String} {claims : Dict String (Json F)}
    {audience : Json F} (haud : claims.get? "aud" = some audience) :
    checkAuthorizedParty env clientId audience ((claims.get? "azp").getD .null) = .ok () ↔
      IsAuthorizedParty clientId claims := by
  have hclient : ((claims.get? "azp").getD .null).eq env.floatEq (.str clientId) = true ↔
      claims.get? "azp" = some (.str clientId) := by
    rw [Json.eq_str_iff, getD_null_eq_str_iff]
  unfold checkAuthorizedParty
  dsimp only
  split
  · rename_i hseveral
    obtain ⟨items, rfl, hlen⟩ := isSeveral_iff.1 hseveral
    split
    · rename_i hazp
      have hazp := hclient.1 hazp
      simp only [true_iff]
      exact ⟨fun _ _ _ => hazp, fun azp h => .inr (Option.some.inj (h.symm.trans hazp))⟩
    · rename_i hazp
      simp only [reduceCtorEq, false_iff]
      exact fun h => hazp (hclient.2 (h.several items haud hlen))
  · rename_i hone
    have hone : ∀ items, claims.get? "aud" = some (.list items) → ¬ 1 < items.length :=
      fun items h hlen => hone (isSeveral_iff.2 ⟨items, Option.some.inj (haud.symm.trans h), hlen⟩)
    split
    · rename_i hazp
      simp only [true_iff]
      exact ⟨fun items h hlen => absurd hlen (hone items h), isNone_or_eq_str_iff.1 hazp⟩
    · rename_i hazp
      simp only [reduceCtorEq, false_iff]
      exact fun h => hazp (isNone_or_eq_str_iff.2 h.named)

/-! ## Documents -/

theorem mapError_eq_ok_iff {ε ε' α : Type} {r : Except ε α} {f : ε → ε'} {a : α} :
    r.mapError f = .ok a ↔ r = .ok a := by
  cases r with
  | error e => simp [Except.mapError]
  | ok b => simp [Except.mapError]

theorem returns_evaluate_bind_iff {α β : Type} {r : Except String α} {f : α → OidcM F β}
    {tr : Trace (OidcHttp F)} {b : β} :
    Act.Returns (evaluate r >>= f) () tr b () ↔
      ∃ a, r = .ok a ∧ Act.Returns (f a) () tr b () := by
  simp only [evaluate, Act.returns_ofExcept_bind_iff, mapError_eq_ok_iff]

/-- An answer with the status 200, whose body is a JSON object. -/
structure OidcDocument (F : Type) where
  reply : OidcReply F
  items : Dict String (Json F)
  status_eq : reply.status = 200
  json_eq : reply.json = .ok (.dict items)

theorem returns_fetchDocument_bind_iff {β : Type} {what url : String} {f : Json F → OidcM F β}
    {tr : Trace (OidcHttp F)} {b : β} :
    Act.Returns (fetchDocument what url >>= f) () tr b () ↔
      ∃ reply v tr', tr = ⟨.get url, .ok reply⟩ :: tr' ∧ reply.status = 200 ∧
        reply.json = .ok v ∧ Act.Returns (f v) () tr' b () := by
  rw [Act.returns_bind_iff]
  simp only [fetchDocument, Act.returns_tryCatch_iff (g := fetchError what) fun _ => rfl,
    Act.returns_performE_bind_iff]
  constructor
  · rintro ⟨v, ⟨⟩, tr₁, tr₂, rfl, ⟨r, reply, tr', rfl, hr, h⟩, hf⟩
    obtain rfl : r = .ok reply := hr
    split at h
    · rename_i hstatus
      obtain ⟨rfl, hjson, -⟩ := Act.returns_ofExcept_iff.1 h
      exact ⟨reply, v, tr₂, rfl, hstatus, hjson, hf⟩
    · exact absurd h Act.not_returns_throw
  · rintro ⟨reply, v, tr', rfl, hstatus, hjson, hf⟩
    refine ⟨v, (), [⟨.get url, .ok reply⟩], tr', rfl, ⟨.ok reply, reply, [], rfl, rfl, ?_⟩, hf⟩
    rw [if_pos hstatus]
    exact Act.returns_ofExcept_iff.2 ⟨rfl, hjson, rfl⟩

/-! ## The ID token -/

structure IdTokenCheck (F : Type) where
  issuer : String
  jwksUri : String
  header : Dict String (Json F)
  algorithm : String
  jwks : OidcDocument F
  keys : List (Json F)
  key : Dict String (Json F)
  claims : Dict String (Json F)

/-- The ID token is verified. -/
structure IdTokenCheck.Valid (env : OidcEnv F) (now : ℤ) (idToken : String)
    (accessToken : Json F) (discovery : Dict String (Json F)) (clientId : String)
    (c : IdTokenCheck F) : Prop where
  issuer : discovery.get? "issuer" = some (.str c.issuer)
  issuer_ne : c.issuer ≠ ""
  jwksUri : discovery.get? "jwks_uri" = some (.str c.jwksUri)
  jwksUri_ne : c.jwksUri ≠ ""
  header : env.unverifiedHeader idToken = .ok c.header
  algorithm : c.header.get? "alg" = some (.str c.algorithm)
  asymmetric : c.algorithm ∈ oidcAsymmetricSigningAlgorithms
  advertised : ∀ items, discovery.get? "id_token_signing_alg_values_supported" =
    some (.list items) → .str c.algorithm ∈ items
  keys : c.jwks.items.get? "keys" = some (.list c.keys)
  key : OnlyKey env c.header c.algorithm c.keys c.key
  decode : env.decode now idToken c.key c.algorithm clientId c.issuer accessToken = .ok c.claims
  audience : ∃ audience, c.claims.get? "aud" = some audience
  party : IsAuthorizedParty clientId c.claims

theorem returns_verifyOidcIdToken_iff {idToken clientId : String} {accessToken : Json F}
    {discovery claims : Dict String (Json F)} {tr : Trace (OidcHttp F)} :
    Act.Returns (verifyOidcIdToken env now idToken accessToken (.dict discovery) clientId) () tr
        claims () ↔
      ∃ c : IdTokenCheck F, c.Valid env now idToken accessToken discovery clientId ∧
        c.claims = claims ∧ tr = [⟨.get c.jwksUri, .ok c.jwks.reply⟩] := by
  simp only [verifyOidcIdToken, fetchOidcJwks, returns_evaluate_bind_iff, Json.get_dict,
    Except.ok.injEq, exists_eq_left', Act.returns_ite_throw_iff, Bool.not_eq_true',
    Bool.not_eq_false, returns_fetchDocument_bind_iff, Json.get_eq_ok_iff, Json.item_eq_ok_iff,
    Json.nonEmptyStr_eq_ok_iff, signingAlgorithm_eq_ok_iff, keysList_eq_ok_iff, isAdvertised_iff,
    uniqueKey_eq_ok_iff, matchingKeys_eq_singleton_iff, getD_null_eq_str_iff,
    getD_null_eq_list_iff, Act.returns_pure_iff]
  constructor
  · rintro ⟨issuer, ⟨hissuer, hissuer'⟩, jwksUri, ⟨hjwksUri, hjwksUri'⟩, header, hheader,
      algorithm, ⟨halg, hasym⟩, hadvertised, reply, v, tr', rfl, hstatus, hjson, _,
      ⟨jwks, rfl, hkeys⟩, keys, rfl, key, hkey, claims', hdecode, audience,
      ⟨claims'', hclaims, haud⟩, ⟨⟩, hparty, rfl, rfl, -⟩
    obtain rfl := Json.dict.inj hclaims
    refine ⟨⟨issuer, jwksUri, header, algorithm, ⟨reply, jwks, hstatus, hjson⟩, keys, key,
      claims'⟩, ?_, rfl, rfl⟩
    exact ⟨hissuer, hissuer', hjwksUri, hjwksUri', hheader, halg, hasym, hadvertised,
      getD_null_eq_list_iff.1 hkeys, hkey, hdecode, ⟨audience, haud⟩,
      (checkAuthorizedParty_eq_ok_iff haud).1 hparty⟩
  · rintro ⟨c, h, rfl, rfl⟩
    obtain ⟨audience, haud⟩ := h.audience
    exact ⟨c.issuer, ⟨h.issuer, h.issuer_ne⟩, c.jwksUri, ⟨h.jwksUri, h.jwksUri_ne⟩, c.header,
      h.header, c.algorithm, ⟨h.algorithm, h.asymmetric⟩, h.advertised, c.jwks.reply,
      .dict c.jwks.items, [], rfl, c.jwks.status_eq, c.jwks.json_eq, .list c.keys,
      ⟨c.jwks.items, rfl, getD_null_eq_list_iff.2 h.keys⟩, c.keys, rfl, c.key, h.key, c.claims,
      h.decode, audience, ⟨c.claims, rfl, haud⟩, (),
      (checkAuthorizedParty_eq_ok_iff haud).2 h.party, rfl, rfl, trivial⟩

/-- What the exchange of a code has read. -/
structure Exchange (F : Type) extends IdTokenCheck F where
  tokenEndpoint : Json F
  token : OidcDocument F
  idToken : String

namespace Exchange

def accessToken (c : Exchange F) : Json F :=
  (c.token.items.get? "access_token").getD .null

/-- The code is exchanged for a verified ID token. -/
structure Valid (env : OidcEnv F) (oidc : OidcConfig) (now : ℤ)
    (discovery : Dict String (Json F)) (c : Exchange F) : Prop where
  tokenEndpoint : discovery.get? "token_endpoint" = some c.tokenEndpoint
  idToken : c.token.items.get? "id_token" = some (.str c.idToken)
  idToken_ne : c.idToken ≠ ""
  check : c.toIdTokenCheck.Valid env now c.idToken c.accessToken discovery oidc.clientId

/-- The requests of the exchange, with their answers. -/
def trace (oidc : OidcConfig) (code : String) (c : Exchange F) : Trace (OidcHttp F) :=
  [⟨.post c.tokenEndpoint (tokenRequest oidc code), .ok c.token.reply⟩,
    ⟨.get c.jwksUri, .ok c.jwks.reply⟩]

end Exchange

theorem returns_exchangeOidcCode_iff {code : String} {discoveryDoc : Json F}
    {userData : OidcUserData F} {tr : Trace (OidcHttp F)} :
    Act.Returns (exchangeOidcCode env oidc now code discoveryDoc) () tr userData () ↔
      ∃ discovery, discoveryDoc = .dict discovery ∧
        ∃ c : Exchange F, c.Valid env oidc now discovery ∧
          userData = ⟨c.accessToken, c.claims⟩ ∧ tr = c.trace oidc code := by
  rw [exchangeOidcCode, Act.returns_tryCatch_iff fun _ => rfl]
  simp only [returns_evaluate_bind_iff, Json.item_eq_ok_iff, Act.returns_performE_bind_iff, id_eq]
  constructor
  · rintro ⟨tokenEndpoint, ⟨discovery, rfl, hendpoint⟩, r, response, tr', rfl, rfl, h⟩
    split at h
    · obtain ⟨errorText, -, h⟩ := Act.returns_ofExcept_bind_iff.1 h
      exact absurd h Act.not_returns_throw
    · rename_i hstatus
      simp only [Act.returns_ofExcept_bind_iff, returns_evaluate_bind_iff, Json.get_eq_ok_iff,
        Json.nonEmptyStr_eq_ok_iff] at h
      obtain ⟨_, hjson, _, ⟨token, rfl, hid⟩, idToken, ⟨rfl, hidToken⟩, _, ⟨_, htoken, rfl⟩, h⟩ := h
      obtain rfl := Json.dict.inj htoken
      obtain ⟨claims, ⟨⟩, tr₁, tr₂, rfl, hverify, hpure⟩ := Act.returns_bind_iff.1 h
      obtain ⟨c, hc, rfl, rfl⟩ := returns_verifyOidcIdToken_iff.1 hverify
      obtain ⟨rfl, rfl, -⟩ := Act.returns_pure_iff.1 hpure
      exact ⟨discovery, rfl, ⟨c, tokenEndpoint, ⟨response, token, not_not.1 hstatus, hjson⟩,
        idToken⟩, ⟨hendpoint, getD_null_eq_str_iff.1 hid, hidToken, hc⟩, rfl, rfl⟩
  · rintro ⟨discovery, rfl, c, hc, rfl, rfl⟩
    refine ⟨c.tokenEndpoint, ⟨discovery, rfl, hc.tokenEndpoint⟩, .ok c.token.reply, c.token.reply,
      [⟨.get c.jwksUri, .ok c.jwks.reply⟩], rfl, rfl, ?_⟩
    rw [if_neg (not_not.2 c.token.status_eq)]
    simp only [Act.returns_ofExcept_bind_iff, returns_evaluate_bind_iff, Json.get_eq_ok_iff,
      Json.nonEmptyStr_eq_ok_iff]
    refine ⟨_, c.token.json_eq, _, ⟨_, rfl, getD_null_eq_str_iff.2 hc.idToken⟩, c.idToken,
      ⟨rfl, hc.idToken_ne⟩, _, ⟨_, rfl, rfl⟩, ?_⟩
    exact Act.returns_bind_iff.2 ⟨c.claims, (), _, [], (List.append_nil _).symm,
      returns_verifyOidcIdToken_iff.2 ⟨c.toIdTokenCheck, hc.check, rfl, rfl⟩,
      Act.returns_pure_iff.2 ⟨rfl, rfl, rfl⟩⟩

/-! ## The identity -/

/-- The lists admit an identity: both of them are empty, or its email or its subject is in
one. -/
def OidcConfig.Admits (casefold : String → String) (oidc : OidcConfig)
    (claims : Dict String (Json F)) : Prop :=
  (oidc.allowedEmails = [] ∧ oidc.allowedSubjects = []) ∨
    (∃ email, claims.get? "email" = some (.str email) ∧ casefold email ∈ oidc.allowedEmails) ∨
      ∃ subject, claims.get? "sub" = some (.str subject) ∧ subject ∈ oidc.allowedSubjects

theorem strClaim_eq_some_iff {claims : Dict String (Json F)} {key s : String} :
    strClaim claims key = some s ↔ claims.get? key = some (.str s) := by
  unfold strClaim
  split
  · rename_i s' hs
    simp [hs]
  · rename_i hne
    simp only [reduceCtorEq, false_iff]
    exact hne s

theorem enforceOidcIdentityAllowlist_eq_ok_iff {claims : Dict String (Json F)} :
    enforceOidcIdentityAllowlist env oidc claims = .ok () ↔ oidc.Admits env.casefold claims := by
  unfold enforceOidcIdentityAllowlist OidcConfig.Admits
  split
  · rename_i hempty
    simp [hempty]
  · rename_i hlists
    simp only [hlists, false_or, ← strClaim_eq_some_iff]
    cases strClaim claims "email" with
    | none =>
        cases strClaim claims "sub" with
        | none => simp
        | some subject => simp
    | some email =>
        cases strClaim claims "sub" with
        | none => simp
        | some subject => simp [imp_iff_or_not, or_comm]

/-! ## The callback -/

theorem eq_some_of_getD_ne {v : Option String} (h : v.getD "" ≠ "") : v = some (v.getD "") := by
  cases v with
  | none => exact absurd rfl h
  | some s => rfl

theorem callbackCode_eq_ok_iff {query cookies : Dict String String} {code : String} :
    callbackCode config query cookies = .ok code ↔
      AuthProvider.oidc.isEnabled config = true ∧ (query.get? "error").getD "" = "" ∧
        (query.get? "code" = some code ∧ code ≠ "") ∧
          ∃ state, query.get? "state" = some state ∧ state ≠ "" ∧
            cookies.get? "oidc_state" = some state := by
  rw [callbackCode, bind_eq_ok_iff]
  constructor
  · rintro ⟨⟨⟩, henabled, h⟩
    dsimp only at h
    split at h
    · cases h
    · rename_i herror
      split at h
      · cases h
      · rename_i hgiven
        obtain ⟨hcode, hstate⟩ := not_or.1 hgiven
        split at h
        · cases h
        · rename_i hstored
          cases h
          exact ⟨AuthProvider.raiseOfDisabled_eq_ok_iff.1 henabled, not_not.1 herror,
            ⟨eq_some_of_getD_ne hcode, hcode⟩, _, eq_some_of_getD_ne hstate, hstate,
            not_not.1 (not_or.1 hstored).2⟩
  · rintro ⟨henabled, herror, ⟨hcode, hcode'⟩, state, hstate, hstate', hcookie⟩
    refine ⟨(), AuthProvider.raiseOfDisabled_eq_ok_iff.2 henabled, ?_⟩
    simp [herror, hcode, hcode', hstate, hstate', hcookie]

theorem of_callbackCode_eq_error {query cookies : Dict String String} {e : AuthExn}
    (h : callbackCode config query cookies = .error e) :
    ∃ status detail, e = .http status detail := by
  unfold callbackCode AuthProvider.raiseOfDisabled at h
  split at h
  · change (if _ then _ else _) = _ at h
    split at h
    · cases h
      exact ⟨_, _, rfl⟩
    · split at h
      · cases h
        exact ⟨_, _, rfl⟩
      · dsimp only at h
        split at h
        · cases h
          exact ⟨_, _, rfl⟩
        · cases h
  · cases h
    exact ⟨_, _, rfl⟩

/-- The `try` block of the callback up to the identity that it signs in. -/
def identify (env : OidcEnv F) (oidc : OidcConfig) (now : ℤ) (code : String) :
    OidcM F (Dict String (Json F)) := do
  let discoveryDoc ← fetchOidcDiscovery oidc.wellKnownUrl
  let userData ← exchangeOidcCode env oidc now code discoveryDoc
  Act.ofExcept (enforceOidcIdentityAllowlist env oidc userData.idTokenClaims)
  pure userData.idTokenClaims

def signIn (env : OidcEnv F) (oidc : OidcConfig) (now : ℤ) (config : AuthConfig)
    (query cookies : Dict String String) :
    Prog (OidcHttp F) (Except AuthExn (Dict String (Json F))) :=
  match callbackCode config query cookies with
  | .error e => .ret (.error e)
  | .ok code => (identify env oidc now code ()).bind fun (r, _) => .ret (r.mapError callbackError)

def sessionResponse (env : OidcEnv F) (now : ℤ) (codec : TokenCodec F) (config : AuthConfig)
    (claims : Dict String (Json F)) : RedirectResponse :=
  sessionRedirect config (sessionTokens env now codec config claims)

theorem openSession_eq (code : String) :
    openSession env oidc now codec config code = (do
      let claims ← identify env oidc now code
      pure (sessionResponse env now codec config claims)) := by
  simp only [openSession, identify, Act.bind_assoc]
  refine congrArg _ (funext fun discoveryDoc => congrArg _ (funext fun userData => ?_))
  unfold createOidcUserSession
  cases enforceOidcIdentityAllowlist env oidc userData.idTokenClaims with
  | ok _ => rfl
  | error e => rfl

theorem callback_eq (query cookies : Dict String String) :
    callback env oidc now codec config query cookies =
      (signIn env oidc now config query cookies).bind fun r =>
        .ret (r.map (sessionResponse env now codec config)) := by
  unfold callback signIn
  cases callbackCode config query cookies with
  | error e => rfl
  | ok code =>
      dsimp only
      rw [openSession_eq, Prog.bind_assoc]
      refine (Prog.bind_assoc _ _ _).trans (congrArg _ (funext ?_))
      rintro ⟨_ | _, _⟩ <;> rfl

/-- What a callback that signs in has been sent and has read. -/
structure SignIn (F : Type) extends Exchange F where
  code : String
  state : String
  discovery : OidcDocument F

namespace SignIn

/-- Everything that a callback checks. -/
structure Valid (env : OidcEnv F) (oidc : OidcConfig) (now : ℤ) (config : AuthConfig)
    (query cookies : Dict String String) (c : SignIn F) : Prop where
  enabled : AuthProvider.oidc.isEnabled config = true
  error : (query.get? "error").getD "" = ""
  code : query.get? "code" = some c.code
  code_ne : c.code ≠ ""
  state : query.get? "state" = some c.state
  state_ne : c.state ≠ ""
  stored : cookies.get? "oidc_state" = some c.state
  exchange : c.toExchange.Valid env oidc now c.discovery.items
  admitted : oidc.Admits env.casefold c.claims

/-- The requests of the callback, with their answers. -/
def trace (oidc : OidcConfig) (c : SignIn F) : Trace (OidcHttp F) :=
  ⟨.get oidc.wellKnownUrl, .ok c.discovery.reply⟩ :: c.toExchange.trace oidc c.code

end SignIn

theorem returns_identify_iff {code : String} {claims : Dict String (Json F)}
    {tr : Trace (OidcHttp F)} :
    Act.Returns (identify env oidc now code) () tr claims () ↔
      ∃ (discovery : OidcDocument F) (c : Exchange F), c.Valid env oidc now discovery.items ∧
        oidc.Admits env.casefold c.claims ∧ c.claims = claims ∧
          tr = ⟨.get oidc.wellKnownUrl, .ok discovery.reply⟩ :: c.trace oidc code := by
  simp only [identify, fetchOidcDiscovery, returns_fetchDocument_bind_iff]
  constructor
  · rintro ⟨reply, v, tr', rfl, hstatus, hjson, h⟩
    obtain ⟨userData, ⟨⟩, tr₁, tr₂, rfl, hexchange, henforce⟩ := Act.returns_bind_iff.1 h
    obtain ⟨discovery, rfl, c, hc, rfl, rfl⟩ := returns_exchangeOidcCode_iff.1 hexchange
    obtain ⟨⟨⟩, hallowed, hpure⟩ := Act.returns_ofExcept_bind_iff.1 henforce
    obtain ⟨rfl, rfl, -⟩ := Act.returns_pure_iff.1 hpure
    exact ⟨⟨reply, discovery, hstatus, hjson⟩, c, hc,
      enforceOidcIdentityAllowlist_eq_ok_iff.1 hallowed, rfl, by rw [List.append_nil]⟩
  · rintro ⟨discovery, c, hc, hallowed, rfl, rfl⟩
    refine ⟨discovery.reply, .dict discovery.items, c.trace oidc code, rfl, discovery.status_eq,
      discovery.json_eq, Act.returns_bind_iff.2 ⟨⟨c.accessToken, c.claims⟩, (), _, [],
        (List.append_nil _).symm, ?_, ?_⟩⟩
    · exact returns_exchangeOidcCode_iff.2 ⟨discovery.items, rfl, c, hc, rfl, rfl⟩
    · exact Act.returns_ofExcept_bind_iff.2 ⟨(),
        enforceOidcIdentityAllowlist_eq_ok_iff.2 hallowed, Act.returns_pure_iff.2 ⟨rfl, rfl, rfl⟩⟩

theorem runs_signIn_ok_iff {query cookies : Dict String String} {claims : Dict String (Json F)}
    {tr : Trace (OidcHttp F)} :
    Runs (signIn env oidc now config query cookies) tr (.ok claims) ↔
      ∃ c : SignIn F, c.Valid env oidc now config query cookies ∧ c.claims = claims ∧
        tr = c.trace oidc := by
  constructor
  · intro h
    unfold signIn at h
    split at h
    · cases h
    · rename_i code hcode
      obtain ⟨⟨r, ⟨⟩⟩, tr₁, tr₂, rfl, hrun, hret⟩ := runs_bind_iff.1 h
      obtain ⟨rfl, hr⟩ := runs_ret_iff.1 hret
      obtain rfl := mapError_eq_ok_iff.1 hr
      obtain ⟨discovery, c, hc, hadmits, rfl, rfl⟩ := returns_identify_iff.1 hrun
      obtain ⟨henabled, herror, ⟨hcode, hcode'⟩, state, hstate, hstate', hstored⟩ :=
        callbackCode_eq_ok_iff.1 hcode
      exact ⟨⟨c, code, state, discovery⟩, ⟨henabled, herror, hcode, hcode', hstate, hstate',
        hstored, hc, hadmits⟩, rfl, List.append_nil _⟩
  · rintro ⟨c, h, rfl, rfl⟩
    have hcode := callbackCode_eq_ok_iff.2 ⟨h.enabled, h.error, ⟨h.code, h.code_ne⟩, c.state,
      h.state, h.state_ne, h.stored⟩
    have hrun : Act.Returns (identify env oidc now c.code) () (c.trace oidc) c.claims () :=
      returns_identify_iff.2 ⟨c.discovery, c.toExchange, h.exchange, h.admitted, rfl, rfl⟩
    rw [signIn, hcode]
    exact runs_bind_iff.2 ⟨(.ok c.claims, ()), c.trace oidc, [], (List.append_nil _).symm, hrun,
      runs_ret_iff.2 ⟨rfl, rfl⟩⟩

theorem of_runs_signIn_error {query cookies : Dict String String} {e : AuthExn}
    {tr : Trace (OidcHttp F)} (h : Runs (signIn env oidc now config query cookies) tr (.error e)) :
    ∃ status detail, e = .http status detail := by
  unfold signIn at h
  split at h
  · rename_i e' hcode
    obtain ⟨-, he⟩ := runs_ret_iff.1 h
    obtain rfl := Except.error.inj he
    exact of_callbackCode_eq_error hcode
  · obtain ⟨⟨r, ⟨⟩⟩, tr₁, tr₂, rfl, -, hret⟩ := runs_bind_iff.1 h
    obtain ⟨rfl, hr⟩ := runs_ret_iff.1 hret
    cases r with
    | ok claims => cases hr
    | error e' =>
        cases hr
        exact ⟨_, _, rfl⟩

/-! ## Sessions -/

/-- The cookies of the answer. An exception is answered without any. -/
def responseCookies : Except AuthExn RedirectResponse → Dict String SetCookie
  | .ok response => response.cookies
  | .error _ => []

/-- A session cookie is set. -/
def SetsSession (r : Except AuthExn RedirectResponse) : Prop :=
  ∃ name ∈ ["access_token", "refresh_token"], ((responseCookies r).get? name).isSome

/-- The claims of an ID token for a client are as required. -/
structure RequiredClaims (seconds : Json F → Option ℤ) (now : ℤ) (issuer clientId : String)
    (claims : Dict String (Json F)) : Prop where
  issuer : claims.get? "iss" = some (.str issuer)
  audience : claims.get? "aud" = some (.str clientId) ∨
    ∃ items, claims.get? "aud" = some (.list items) ∧ .str clientId ∈ items
  expiry : ∃ v t, claims.get? "exp" = some v ∧ seconds v = some t ∧ now ≤ t
  subject : ∃ s, claims.get? "sub" = some (.str s)
  issued : ∃ v t, claims.get? "iat" = some v ∧ seconds v = some t

/-- `jwt.decode` accepts a token only if its signature is verified with the key and the
algorithm, and its claims are as required. -/
structure OidcEnv.Verifies (env : OidcEnv F)
    (signed : String → Dict String (Json F) → String → Prop) (seconds : Json F → Option ℤ) :
    Prop where
  signed : ∀ now token key algorithm clientId issuer accessToken claims,
    env.decode now token key algorithm clientId issuer accessToken = .ok claims →
      signed token key algorithm
  claims : ∀ now token key algorithm clientId issuer accessToken claims,
    env.decode now token key algorithm clientId issuer accessToken = .ok claims →
      RequiredClaims seconds now issuer clientId claims

/-- The callback sets session cookies for an identity that passes all checks, or it raises and
sets none. -/
theorem callback_setsSession {signed : String → Dict String (Json F) → String → Prop}
    {seconds : Json F → Option ℤ} (hdecode : env.Verifies signed seconds)
    {query cookies : Dict String String} {tr : Trace (OidcHttp F)}
    {r : Except AuthExn RedirectResponse}
    (h : Runs (callback env oidc now codec config query cookies) tr r) :
    (SetsSession r ∧ ∃ c : SignIn F, tr = c.trace oidc ∧
      c.Valid env oidc now config query cookies ∧ signed c.idToken c.key c.algorithm ∧
        RequiredClaims seconds now c.issuer oidc.clientId c.claims) ∨
    (¬ SetsSession r ∧ ∃ status detail, r = .error (.http status detail)) := by
  rw [callback_eq] at h
  obtain ⟨r', tr₁, tr₂, rfl, hsign, hret⟩ := runs_bind_iff.1 h
  obtain ⟨rfl, rfl⟩ := runs_ret_iff.1 hret
  cases r' with
  | ok claims =>
      obtain ⟨c, hc, rfl, rfl⟩ := runs_signIn_ok_iff.1 hsign
      have hcheck := hc.exchange.check.decode
      exact .inl ⟨⟨"access_token", by simp, rfl⟩, c, List.append_nil _, hc,
        hdecode.signed _ _ _ _ _ _ _ _ hcheck, hdecode.claims _ _ _ _ _ _ _ _ hcheck⟩
  | error e =>
      obtain ⟨status, detail, rfl⟩ := of_runs_signIn_error hsign
      refine .inr ⟨?_, status, detail, rfl⟩
      rintro ⟨name, -, hname⟩
      cases hname

/-! ## An example -/

/-- An ID token of `user@example.com` for the client `tugtainer`, whose `azp` is `null`, signed
with the key `userKey`. -/
def userIdToken : String :=
  "eyJhbGciOiJSUzI1NiIsImtpZCI6InNpZ25pbmcta2V5IiwidHlwIjoiSldUIn0" ++ "." ++
    "eyJpc3MiOiJodHRwczovL2lkcC5leGFtcGxlLmNvbSIsInN1YiI6InVzZXItMTIzIiwiYXVkIjoidHVndGFpbmVy" ++
    "IiwiYXpwIjpudWxsLCJlbWFpbCI6InVzZXJAZXhhbXBsZS5jb20iLCJpYXQiOjE3NTAwMDAwMDAsImV4cCI6NDEw" ++
    "MjQ0NDgwMH0" ++ "." ++
    "mOIM9tLbwm_5J5rPySDRwD29tpL07N5I0wQU5s5tUn_p7NGj38Za_0u9F9Cxrmbj-t9Ic1WUwK4j0T91uAvgTSP1" ++
    "DHFXLOu5J-iHPNjGlzQ3JGNrL241mNYWPDo168ErdcGrFupimyHQh_MlQbyr-4jY8n-iXFgrbjU6mf1L9oc"

theorem userIdToken_ne_empty : userIdToken ≠ "" := by
  intro h
  have hlast := (String.append_eq_empty_iff.1 h).2
  exact absurd hlast (by decide)

def userModulus : String :=
  "u-n1qGp6vjx01gCWIWUeGcNqdecPGAgmN_c8HG3_rC5JGuwc2s4Ehan2zUEx8Irvb3Az014KR1sB3xEtt-7itefW" ++
    "7PjzjwgD4YmwxEXfvO5v3ddhSLj9ASJCz8sPQYxTeT9Z65z-aJN7acP404xFvdarpUvEggd9ZFfjrFWN_nc"

def userKey : Dict String (Json Empty) :=
  [("kty", .str "RSA"), ("use", .str "sig"), ("alg", .str "RS256"), ("kid", .str "signing-key"),
    ("n", .str userModulus), ("e", .str "AQAB")]

def userClaims : Dict String (Json Empty) :=
  [("iss", .str "https://idp.example.com"), ("sub", .str "user-123"), ("aud", .str "tugtainer"),
    ("azp", .null), ("email", .str "user@example.com"), ("iat", .int 1750000000),
    ("exp", .int 4102444800)]

/-- The signature of the ID token, which is the only one that is known. -/
def userSigned (token : String) (key : Dict String (Json Empty)) (algorithm : String) : Prop :=
  token = userIdToken ∧ payloadHas key "n" userModulus = true ∧ algorithm = "RS256"

def userEnv : OidcEnv Empty where
  unverifiedHeader token :=
    if token = userIdToken then
      .ok [("alg", .str "RS256"), ("kid", .str "signing-key"), ("typ", .str "JWT")]
    else .error "Error decoding token headers."
  decode now token key algorithm clientId issuer _ :=
    if token = userIdToken ∧ payloadHas key "n" userModulus = true ∧ algorithm = "RS256" ∧
        clientId = "tugtainer" ∧ issuer = "https://idp.example.com" ∧ now ≤ 4102444800 then
      .ok userClaims
    else .error "Signature verification failed."
  casefold := lower
  floatEq := { float := fun x _ => x.elim, int := fun x _ => x.elim }
  numerals :=
    { digit := asciiDigit, floatOf := fun _ => none, floatText := Empty.elim, isZero := Empty.elim }

/-- `int(value)` of the claims that are times. -/
def claimSeconds : Json Empty → Option ℤ
  | .int n => some n
  | _ => none

theorem userEnv_verifies : userEnv.Verifies userSigned claimSeconds := by
  constructor
  · intro now token key algorithm clientId issuer accessToken claims h
    dsimp only [userEnv] at h
    split at h
    · rename_i hall
      exact ⟨hall.1, hall.2.1, hall.2.2.1⟩
    · cases h
  · intro now token key algorithm clientId issuer accessToken claims h
    dsimp only [userEnv] at h
    split at h
    · rename_i hall
      obtain ⟨-, -, -, rfl, rfl, hnow⟩ := hall
      cases h
      exact ⟨rfl, .inl rfl, ⟨_, _, rfl, rfl, hnow⟩, ⟨_, rfl⟩, ⟨_, _, rfl, rfl⟩⟩
    · cases h

/-- The session tokens of the user at the time 1750000000, signed with the key `secret`. -/
def userAccessToken : String :=
  "eyJhbGciOiJIUzI1NiIsInR5cCI6IkpXVCJ9" ++ "." ++
    "eyJ0eXBlIjoiYWNjZXNzIiwiYXV0aF9wcm92aWRlciI6Im9pZGMiLCJ1c2VyX2lkIjoidXNlckBleGFtcGxlLmNvbS" ++
    "IsInVzZXJfaW5mbyI6eyJpc3MiOiJodHRwczovL2lkcC5leGFtcGxlLmNvbSIsInN1YiI6InVzZXItMTIzIiwiYXVk" ++
    "IjoidHVndGFpbmVyIiwiYXpwIjpudWxsLCJlbWFpbCI6InVzZXJAZXhhbXBsZS5jb20iLCJpYXQiOjE3NTAwMDAwMD" ++
    "AsImV4cCI6NDEwMjQ0NDgwMH0sImV4cCI6MTc1MDAwMDMwMH0" ++ "." ++
    "XLuJy-0prEzgaEOmgNby_Th3wloeOmQPEdqpifiudp0"

def userRefreshToken : String :=
  "eyJhbGciOiJIUzI1NiIsInR5cCI6IkpXVCJ9" ++ "." ++
    "eyJ0eXBlIjoicmVmcmVzaCIsImF1dGhfcHJvdmlkZXIiOiJvaWRjIiwidXNlcl9pZCI6InVzZXJAZXhhbXBsZS5jb2" ++
    "0iLCJ1c2VyX2luZm8iOnsiaXNzIjoiaHR0cHM6Ly9pZHAuZXhhbXBsZS5jb20iLCJzdWIiOiJ1c2VyLTEyMyIsImF1" ++
    "ZCI6InR1Z3RhaW5lciIsImF6cCI6bnVsbCwiZW1haWwiOiJ1c2VyQGV4YW1wbGUuY29tIiwiaWF0IjoxNzUwMDAwMD" ++
    "AwLCJleHAiOjQxMDI0NDQ4MDB9LCJleHAiOjE3NTI1OTIwMDB9" ++ "." ++
    "2ozB9a-VG5U4ggnPuquUPAkp4NoF8wh5l_nq2V35AYE"

/-- A codec that knows the session of the user. -/
def userCodec : TokenCodec Empty where
  decode token :=
    if token = userRefreshToken then
      some ((sessionData userEnv userClaims "refresh").set "exp" (.int 1752592000))
    else none
  encode payload :=
    if payloadHas payload "type" "access" then userAccessToken else userRefreshToken

/-- The email may be written in another case. -/
def userVars : OidcVars where
  wellKnownUrl := "https://idp.example.com/.well-known/openid-configuration"
  clientId := "tugtainer"
  clientSecret := "client-secret"
  redirectUri := "https://tugtainer.example.com/api/auth/oidc/callback"
  allowedEmails := "admin@example.com, User@Example.com"
  allowedSubjects := ""

def oidcOnlyConfig : AuthConfig where
  disableAuth := false
  disablePassword := true
  oidcEnabled := true
  accessTokenLifetimeMin := 5
  refreshTokenLifetimeMin := 43200
  https := true
  domain := none

def jsonReply (items : Dict String (Json Empty)) : OidcDocument Empty where
  reply := { status := 200, json := .ok (.dict items), text := .ok "" }
  items := items
  status_eq := rfl
  json_eq := rfl

def userSignIn : SignIn Empty where
  code := "auth-code"
  state := "state-1"
  discovery := jsonReply
    [("issuer", .str "https://idp.example.com"),
      ("token_endpoint", .str "https://idp.example.com/token"),
      ("jwks_uri", .str "https://idp.example.com/.well-known/jwks.json"),
      ("id_token_signing_alg_values_supported", .list [.str "RS256"])]
  tokenEndpoint := .str "https://idp.example.com/token"
  token := jsonReply [("access_token", .str "access"), ("id_token", .str userIdToken)]
  idToken := userIdToken
  issuer := "https://idp.example.com"
  jwksUri := "https://idp.example.com/.well-known/jwks.json"
  header := [("alg", .str "RS256"), ("kid", .str "signing-key"), ("typ", .str "JWT")]
  algorithm := "RS256"
  jwks := jsonReply [("keys", .list [.dict userKey])]
  keys := [.dict userKey]
  key := userKey
  claims := userClaims

/-- The query has an error that is empty. -/
def userQuery : Dict String String :=
  [("code", "auth-code"), ("state", "state-1"), ("error", "")]

theorem userSignIn_check :
    userSignIn.toIdTokenCheck.Valid userEnv 1750000000 userIdToken (.str "access")
      userSignIn.discovery.items "tugtainer" where
  issuer := rfl
  issuer_ne := by decide
  jwksUri := rfl
  jwksUri_ne := by decide
  header := by simp only [userEnv, if_true, userSignIn]
  algorithm := rfl
  asymmetric := by decide
  advertised := by
    intro items h
    cases h
    exact List.mem_singleton_self _
  keys := rfl
  key := ⟨[], [], rfl, ⟨.inr rfl, fun _ h => (Option.some.inj h).symm,
    fun _ h => (Option.some.inj h).symm⟩, fun _ h => absurd h List.not_mem_nil⟩
  decode := by
    have hkey : payloadHas userKey "n" userModulus = true := payloadHas_eq_true_iff.2 rfl
    have hnow : (1750000000 : ℤ) ≤ 4102444800 := by decide
    simp only [userEnv, userSignIn, hkey, hnow, and_true, if_true]
  audience := ⟨_, rfl⟩
  party := ⟨fun _ h => (nomatch h), fun _ h => .inl (Option.some.inj h).symm⟩

theorem userSignIn_valid :
    userSignIn.Valid userEnv (userVars.load lower) 1750000000 oidcOnlyConfig userQuery
      [("oidc_state", "state-1")] where
  enabled := rfl
  error := rfl
  code := rfl
  code_ne := by decide
  state := rfl
  state_ne := by decide
  stored := rfl
  exchange := ⟨rfl, rfl, userIdToken_ne_empty, userSignIn_check⟩
  admitted := .inr (.inl ⟨"user@example.com", rfl, by decide⟩)

theorem runs_callback_user :
    Runs (callback userEnv (userVars.load lower) 1750000000 userCodec oidcOnlyConfig userQuery
        [("oidc_state", "state-1")])
      (userSignIn.trace (userVars.load lower))
      (.ok (sessionResponse userEnv 1750000000 userCodec oidcOnlyConfig userClaims)) := by
  rw [callback_eq]
  exact runs_bind_iff.2 ⟨.ok userClaims, _, [], (List.append_nil _).symm,
    runs_signIn_ok_iff.2 ⟨userSignIn, userSignIn_valid, rfl, rfl⟩, .ret _⟩

theorem callback_setsSession_user :
    ∃ c : SignIn Empty, userSignIn.trace (userVars.load lower) = c.trace (userVars.load lower) ∧
      c.Valid userEnv (userVars.load lower) 1750000000 oidcOnlyConfig userQuery
        [("oidc_state", "state-1")] ∧
      userSigned c.idToken c.key c.algorithm ∧
        RequiredClaims claimSeconds 1750000000 c.issuer "tugtainer" c.claims := by
  rcases callback_setsSession userEnv_verifies runs_callback_user with h | h
  · exact h.2
  · exact absurd ⟨"access_token", by simp, rfl⟩ h.1

/-- An `azp` that is `null` counts as none, and so does an empty error. -/
theorem null_azp_setsSession :
    userEnv.Verifies userSigned claimSeconds ∧
    ∃ r, Runs (callback userEnv (userVars.load lower) 1750000000 userCodec oidcOnlyConfig
        userQuery [("oidc_state", "state-1")]) (userSignIn.trace (userVars.load lower)) r ∧
      SetsSession r ∧ (userQuery.get? "error").isSome ∧
      userEnv.decode 1750000000 userIdToken userKey "RS256" "tugtainer" "https://idp.example.com"
        (.str "access") = .ok userClaims ∧
      ∃ azp, userClaims.get? "azp" = some azp ∧ azp ≠ .str "tugtainer" :=
  ⟨userEnv_verifies, _, runs_callback_user, ⟨"access_token", by simp, rfl⟩, rfl,
    userSignIn_check.decode, .null, rfl, nofun⟩

end Tugtainer
