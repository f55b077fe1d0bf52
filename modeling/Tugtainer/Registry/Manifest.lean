import Tugtainer.Registry.Digest

/-!
# The digest that a lookup obtains

A registry that has a manifest for a tag confirms its digest, or names it in one of two
headers, of which one holds it in quotes; it may want credentials first. Whatever happens
on the way, `wp_getImageRemoteDigest` says what a lookup obtains.
-/

namespace Tugtainer

open Python Interaction

/-! ## Registries -/

inductive DigestHeader
  | contentDigest
  | etag
  deriving DecidableEq, Repr

structure TagManifest where
  digest : String
  header : DigestHeader
  digest_ne_empty : digest ≠ ""

/-- A digest as the value of `ETag`. -/
def quoted (digest : String) : String := "\"" ++ digest ++ "\""

namespace TagManifest

variable (m : TagManifest)

/-- The manifest is what the request has already, or the answer names it. -/
def Serves (headers : Dict String String) (resp : HeadResponse) : Prop :=
  if headers.get? "If-None-Match" = some m.digest then resp.status = 304
  else resp.status = 200 ∧
    match m.header with
    | .contentDigest => resp.contentDigest = some m.digest
    | .etag => resp.contentDigest = none ∧ resp.etag = some (quoted m.digest)

def obtained (digest : String) : String :=
  if digest = m.digest ∨ m.header = .contentDigest then m.digest else quoted m.digest

end TagManifest

/-- A request that is turned away and can be made again with credentials. -/
def Challenges (basicToken : Option String) (resp : HeadResponse) : Prop :=
  (resp.status = 401 ∨ resp.status = 403) ∧
    if contains (resp.wwwAuthenticate.getD "") "Bearer" then
      ∃ items realm, challengeItems (resp.wwwAuthenticate.getD "") = some items ∧
        items.get? "realm" = some realm
    else ∃ value, basicHeader basicToken = some value

/-- Every request is answered, those with credentials by the manifest. -/
def registryContract (m : TagManifest) (basicToken : Option String) :
    Contract RegistryHttp Unit where
  next _ _ := ()
  rely
    | _, ⟨.head _ headers _, r⟩ => ∃ resp, r = .ok resp ∧
        (m.Serves headers resp ∨
          headers.get? "Authorization" = none ∧ Challenges basicToken resp)
    | _, ⟨.get _ _ _, r⟩ => ∃ data, r = .ok data ∧ data.status < 400
  guar _ _ := True

/-! ## One lookup -/

section

variable {m : TagManifest} {basicToken : Option String} {headers : Dict String String}
  {digest url repo : String} {ssl : Bool} {resp : HeadResponse}

theorem TagManifest.Serves.status (h : m.Serves headers resp) :
    resp.status = 304 ∨ resp.status = 200 := by
  unfold TagManifest.Serves at h
  split at h
  · exact .inl h
  · exact .inr h.1

theorem onResp_of_serves (h : m.Serves headers resp)
    (hdigest : headers.get? "If-None-Match" = some digest) :
    onResp (some digest) resp = .ok (some (m.obtained digest)) := by
  unfold TagManifest.Serves at h
  unfold onResp TagManifest.obtained
  split at h
  · rename_i heq
    obtain rfl : digest = m.digest := Option.some.inj (hdigest.symm.trans heq)
    simp [h]
  · rename_i hne
    have hne : digest ≠ m.digest := fun heq => hne (heq ▸ hdigest)
    obtain ⟨hstatus, hheader⟩ := h
    cases hm : m.header with
    | contentDigest =>
        rw [hm] at hheader
        simp [hstatus, hheader, orElse, truthy, m.digest_ne_empty]
    | etag =>
        rw [hm] at hheader
        simp [hstatus, hheader.1, hheader.2, hne, orElse, truthy]

theorem wp_head {Q : HeadResponse → Unit → Unit → Prop} {E : RegistryExn → Unit → Unit → Prop}
    (h : ∀ resp, (m.Serves headers resp ∨
      headers.get? "Authorization" = none ∧ Challenges basicToken resp) → Q resp () ()) :
    Act.wp (registryContract m basicToken) (head url headers ssl) Q E () () := by
  refine ⟨trivial, ?_⟩
  rintro _ ⟨resp, rfl, hresp⟩
  exact h resp hresp

theorem wp_onResp (h : m.Serves headers resp)
    (hdigest : headers.get? "If-None-Match" = some digest) :
    Act.wp (registryContract m basicToken)
      (Act.ofExcept (onResp (some digest) resp) : RegistryM (Option String))
      (fun r _ _ => r = some (m.obtained digest)) (fun _ _ _ => False) () () := by
  rw [Act.wp_ofExcept, onResp_of_serves h hdigest]

theorem wp_head_authorized {value : String}
    (hdigest : headers.get? "If-None-Match" = some digest) :
    Act.wp (registryContract m basicToken)
      (head url (headers.set "Authorization" value) ssl >>= fun resp =>
        (Act.ofExcept (onResp (some digest) resp) : RegistryM (Option String)))
      (fun r _ _ => r = some (m.obtained digest)) (fun _ _ _ => False) () () := by
  rw [Act.wp_bind]
  refine wp_head fun resp hresp => ?_
  rcases hresp with hserves | ⟨hnone, -⟩
  · exact wp_onResp hserves ((Dict.get?_set_of_ne _ (by decide) _).trans hdigest)
  · rw [Dict.get?_set_self] at hnone
    cases hnone

theorem wp_getRegistryBearerToken {authHeader : String} {items : Dict String String}
    {realm : String} {Q : String → Unit → Unit → Prop} {E : RegistryExn → Unit → Unit → Prop}
    (hitems : challengeItems authHeader = some items) (hrealm : items.get? "realm" = some realm)
    (h : ∀ token, Q token () ()) :
    Act.wp (registryContract m basicToken)
      (getRegistryBearerToken authHeader repo basicToken ssl) Q E () () := by
  unfold getRegistryBearerToken
  simp only [hitems, hrealm]
  rw [Act.wp_bind]
  refine ⟨trivial, ?_⟩
  rintro _ ⟨data, rfl, hdata⟩
  change Act.wp _ (if 400 ≤ data.status then _ else _) Q E () ()
  rw [if_neg (Nat.not_le.2 hdata)]
  exact h _

theorem wp_doRequest (hdigest : headers.get? "If-None-Match" = some digest) :
    Act.wp (registryContract m basicToken)
      (doRequest url repo headers basicToken (some digest) ssl)
      (fun r _ _ => r = some (m.obtained digest)) (fun _ _ _ => False) () () := by
  unfold doRequest
  rw [Act.wp_bind]
  refine wp_head fun resp hresp => ?_
  rcases hresp with hserves | ⟨-, hstatus, hretry⟩
  · rw [Act.wp_ite, if_neg]
    · exact wp_onResp hserves hdigest
    · rcases hserves.status with h | h <;> simp [h]
  · rw [Act.wp_ite, if_pos hstatus]
    dsimp only
    split at hretry
    · rename_i hbearer
      obtain ⟨items, realm, hitems, hrealm⟩ := hretry
      rw [Act.wp_ite, if_pos hbearer, Act.wp_bind]
      exact wp_getRegistryBearerToken hitems hrealm fun token => wp_head_authorized hdigest
    · rename_i hbearer
      obtain ⟨value, hvalue⟩ := hretry
      rw [Act.wp_ite, if_neg hbearer, hvalue]
      exact wp_head_authorized hdigest

end

theorem get?_digestHeaders {localDigest : String} (h : localDigest ≠ "") :
    (digestHeaders (some localDigest)).get? "If-None-Match" = some (shortDigest localDigest) := by
  simp [digestHeaders, Option.filter, h, Dict.get?]

/-- A lookup obtains the digest of the manifest, in quotes if the registry names it so. -/
theorem wp_getImageRemoteDigest {m : TagManifest} {env : RegistryEnv} {spec localDigest : String}
    (h : localDigest ≠ "") :
    Act.wp (registryContract m (getBasicToken env.auths (parseImageSpec spec).registry))
      (getImageRemoteDigest env spec (some localDigest))
      (fun r _ _ => r = some (m.obtained (shortDigest localDigest))) (fun _ _ _ => False)
      () () := by
  unfold getImageRemoteDigest
  dsimp only
  rw [trySchemes, Act.wp_tryCatch]
  exact Act.wp_mono (wp_doRequest (get?_digestHeaders h)) (fun _ _ _ hr => hr)
    fun _ _ _ he => he.elim

end Tugtainer
