import Tugtainer.Registry.Digest

/-!
# Where the credentials of a registry go

The token that `getBasicToken` returns is sent to the registry of the image, or to the token
server that this registry names. So credentials stay with their registry where the lookup
settles on an entry of that registry. `credentialsStay_iff` says when it does: the search for
a part of the name may settle on an entry of another host.
-/

namespace Tugtainer

open Python Interaction

/-! ## The host that a text names -/

/-- The host and port that a text names, without a scheme before them and a path after. -/
def registryHost (s : String) : String :=
  let beforeSlash (s : List Char) : List Char := s.takeWhile (· != '/')
  let host := beforeSlash s.toList
  match s.toList.drop host.length with
  | '/' :: '/' :: rest =>
      if host.getLast? = some ':' then String.ofList (beforeSlash rest) else String.ofList host
  | _ => String.ofList host

example : registryHost "https://gcr.io/project" = "gcr.io" ∧
    registryHost "localhost:5000" = "localhost:5000" := by decide

def isDockerHub (host : String) : Bool :=
  ["docker.io", "index.docker.io", "registry-1.docker.io"].contains host

/-- The key of an entry names the registry: it names the same host, or both name Docker Hub. -/
def NamesRegistry (key registry : String) : Prop :=
  registryHost key = registryHost registry ∨
    isDockerHub (registryHost key) = true ∧ isDockerHub (registryHost registry) = true

instance (key registry : String) : Decidable (NamesRegistry key registry) :=
  inferInstanceAs (Decidable (_ ∨ _))

theorem namesRegistry_dockerHubKey {registry : String} (h : isHubName registry = true) :
    NamesRegistry dockerHubKey registry := by
  rcases Bool.or_eq_true_iff.1 h with h | h
  · cases eq_of_beq h
    decide
  · cases eq_of_beq h
    decide

/-! ## Which entry is found -/

section

variable {auths : Dict String AuthEntry} {registry key : String} {entry : AuthEntry}

theorem namesRegistry_of_exactEntry (h : exactEntry auths registry = some (key, entry)) :
    NamesRegistry key registry := by
  have hkeyed {k : String} (h : keyedEntry auths k = some (key, entry)) : k = key := by
    obtain ⟨_, -, heq⟩ := Option.map_eq_some_iff.1 h
    exact congrArg Prod.fst heq
  rcases Option.or_eq_some_iff.1 h with h | ⟨-, h⟩
  · exact .inl (congrArg registryHost (hkeyed h).symm)
  · split at h
    · rename_i hhub
      exact hkeyed h ▸ namesRegistry_dockerHubKey hhub
    · cases h

/-- Where the lookup does not find the registry itself, the first entry that matches in part
names the registry, or it has no credentials. -/
def PartialMatchNames (auths : Dict String AuthEntry) (registry : String) : Prop :=
  exactEntry auths registry = none → ∀ key entry, partialEntry auths registry = some (key, entry) →
    (entry.get? "auth").isSome = true → NamesRegistry key registry

/-- The credentials that are found are those of the registry. -/
def FindsOwn (auths : Dict String AuthEntry) (registry : String) : Prop :=
  ∀ key entry token, findEntry auths registry = some (key, entry) →
    entry.get? "auth" = some token → NamesRegistry key registry

theorem findsOwn_iff : FindsOwn auths registry ↔ PartialMatchNames auths registry := by
  constructor
  · intro h hexact key entry hpartial hauth
    obtain ⟨token, htoken⟩ := Option.isSome_iff_exists.1 hauth
    refine h key entry token ?_ htoken
    simpa [findEntry, hexact] using hpartial
  · intro h key entry token hfind htoken
    rcases Option.or_eq_some_iff.1 hfind with hexact | ⟨hexact, hpartial⟩
    · exact namesRegistry_of_exactEntry hexact
    · exact h hexact key entry hpartial (Option.isSome_iff_exists.2 ⟨token, htoken⟩)

end

/-! ## Which requests carry credentials -/

namespace RegistryOp

def authorization : RegistryOp → Option String
  | .head _ headers _ | .get _ headers _ => headers.get? "Authorization"

/-- The request goes to the registry, or to a token server that one of its challenges
names. -/
def GoesTo (registry : String) (challenges : List String) : RegistryOp → Prop
  | .head url _ _ => ∃ scheme path, url = scheme ++ "://" ++ registry ++ "/" ++ path
  | .get url _ _ => ∃ challenge ∈ challenges, ∃ items realm query,
      challengeItems challenge = some items ∧ items.get? "realm" = some realm ∧
        url = realm ++ "?" ++ query

end RegistryOp

/-- The `WWW-Authenticate` headers of the answers, the last one first. -/
def challengesAfter (challenges : List String) (e : Event RegistryHttp) : List String :=
  match e with
  | ⟨.head _ _ _, .ok resp⟩ => resp.wwwAuthenticate.toList ++ challenges
  | _ => challenges

/-- All requests go to the registry or to its token servers, and the only credentials they
carry are those that were found. -/
def credentialsContract (auths : Dict String AuthEntry) (registry : String) :
    Contract RegistryHttp (List String) where
  next := challengesAfter
  rely _ _ := True
  guar challenges op := op.GoesTo registry challenges ∧
    ∀ token, op.authorization = some ("Basic " ++ token) → getBasicToken auths registry = some token

section

variable {auths : Dict String AuthEntry} {registry repo authHeader : String} {ssl : Bool}

theorem bearer_ne_basic (bearerToken token : String) :
    "Bearer " ++ bearerToken ≠ "Basic " ++ token := by
  intro h
  have := congrArg (fun s => (s.toList.drop 1).head?) h
  simp at this

theorem eq_of_basicHeader {basicToken : Option String} {token : String}
    (h : basicHeader basicToken = some ("Basic " ++ token)) : basicToken = some token := by
  obtain ⟨token', htoken, heq⟩ := Option.map_eq_some_iff.1 h
  cases (String.append_right_inj _).1 heq
  exact (Option.filter_eq_some_iff.1 htoken).1

theorem authorization_digestHeaders (localDigest : Option String) :
    (digestHeaders localDigest).get? "Authorization" = none := by
  unfold digestHeaders
  cases localDigest.filter (· ≠ "") <;> rfl

def Challenged (resp : HeadResponse) (challenges : List String) : Prop :=
  ∀ challenge, resp.wwwAuthenticate = some challenge → challenge ∈ challenges

theorem triple_head {url : String} {headers : Dict String String}
    {f : HeadResponse → RegistryM (Option String)}
    (hurl : (RegistryOp.head url headers ssl).GoesTo registry [])
    (hauth : ∀ token, headers.get? "Authorization" = some ("Basic " ++ token) →
      getBasicToken auths registry = some token)
    (hf : ∀ resp, Act.Triple (credentialsContract auths registry) (Challenged resp) (f resp)
      (fun _ => True) fun _ => True) :
    Act.Triple (credentialsContract auths registry) (fun _ => True)
      (head url headers ssl >>= f) (fun _ => True) fun _ => True := by
  refine .bind_of_wp (Q := Challenged) (fun s challenges _ => ?_) hf
  refine ⟨⟨hurl, hauth⟩, fun reply _ => ?_⟩
  cases reply with
  | error e => trivial
  | ok resp =>
      intro challenge h
      simp [credentialsContract, challengesAfter, h]

theorem triple_onResp (digest : Option String) (resp : HeadResponse) (P : List String → Prop) :
    Act.Triple (credentialsContract auths registry) P
      (Act.ofExcept (onResp digest resp) : RegistryM (Option String)) (fun _ => True)
      fun _ => True :=
  .ofExcept _ (fun _ _ => trivial) fun _ _ => trivial

theorem triple_getRegistryBearerToken :
    Act.Triple (credentialsContract auths registry) (authHeader ∈ ·)
      (getRegistryBearerToken authHeader repo (getBasicToken auths registry) ssl)
      (fun _ => True) fun _ => True := by
  unfold getRegistryBearerToken
  cases hitems : challengeItems authHeader with
  | none => exact .throw _ fun _ _ => trivial
  | some items =>
      cases hrealm : items.get? "realm" with
      | none =>
          simp only [hrealm]
          exact .throw _ fun _ _ => trivial
      | some realm =>
          simp only [hrealm]
          refine .bind (Q := fun _ => True) (.performE (fun challenges hmem => ⟨?_, ?_⟩)
            (fun _ _ _ _ _ _ => trivial) fun _ _ _ _ _ _ => trivial) fun data =>
            .ite (.throw _ fun _ _ => trivial) (.pure _ fun _ _ => trivial)
          · exact ⟨authHeader, hmem, items, realm, _, hitems, hrealm, rfl⟩
          · intro token h
            refine eq_of_basicHeader ?_
            revert h
            cases basicHeader (getBasicToken auths registry) <;>
              simp [RegistryOp.authorization, Dict.get?]

theorem triple_authorized {url authorization : String} {headers : Dict String String}
    (digest : Option String)
    (hurl : ∀ headers, (RegistryOp.head url headers ssl).GoesTo registry [])
    (h : ∀ token, authorization = "Basic " ++ token → getBasicToken auths registry = some token) :
    Act.Triple (credentialsContract auths registry) (fun _ => True)
      (head url (headers.set "Authorization" authorization) ssl >>= fun resp =>
        Act.ofExcept (onResp digest resp)) (fun _ => True) fun _ => True := by
  refine triple_head (hurl _) (fun token htoken => h token ?_) fun resp => triple_onResp _ _ _
  rw [Dict.get?_set_self] at htoken
  exact Option.some.inj htoken

theorem triple_doRequest {url : String} {headers : Dict String String} {digest : Option String}
    (hurl : ∀ headers, (RegistryOp.head url headers ssl).GoesTo registry [])
    (hheaders : headers.get? "Authorization" = none) :
    Act.Triple (credentialsContract auths registry) (fun _ => True)
      (doRequest url repo headers (getBasicToken auths registry) digest ssl) (fun _ => True)
      fun _ => True := by
  refine triple_head (hurl _) (fun token htoken => ?_) fun resp => ?_
  · rw [hheaders] at htoken
    cases htoken
  refine .ite (.ite_of (fun hcontains => ?_) fun _ => ?_) (triple_onResp _ _ _)
  · refine .bind (Q := fun _ => True) (fun s challenges h => ?_) fun bearerToken =>
      triple_authorized digest hurl fun token h => absurd h (bearer_ne_basic _ _)
    refine triple_getRegistryBearerToken s challenges ?_
    cases hchallenge : resp.wwwAuthenticate with
    | none => simp [hchallenge, contains] at hcontains
    | some challenge => exact h challenge hchallenge
  · cases hbasic : basicHeader (getBasicToken auths registry) with
    | none => exact triple_onResp _ _ _
    | some value =>
        refine (triple_authorized digest hurl fun token h => ?_).mono (fun _ _ => trivial)
          (fun _ h => h) fun _ h => h
        exact eq_of_basicHeader (hbasic.trans (congrArg some h))

theorem triple_trySchemes {request : String → RegistryM (Option String)}
    (h : ∀ scheme, Act.Triple (credentialsContract auths registry) (fun _ => True)
      (request scheme) (fun _ => True) fun _ => True) (schemes : List String)
    (last : Option RegistryExn) :
    Act.Triple (credentialsContract auths registry) (fun _ => True)
      (trySchemes request schemes last) (fun _ => True) fun _ => True := by
  induction schemes generalizing last with
  | nil =>
      cases last with
      | none => exact .pure _ fun _ h => h
      | some e => exact .throw _ fun _ h => h
  | cons scheme schemes ih =>
      refine .tryCatch (h scheme) fun e => ?_
      cases e with
      | connection => exact ih _
      | other => exact .throw _ fun _ h => h

/-- Every request goes to the registry of the image, or to a token server that it names, and
carries no credentials but those found for the registry. -/
theorem triple_getImageRemoteDigest (env : RegistryEnv) (spec : String)
    (localDigest : Option String) :
    Act.Triple (credentialsContract env.auths (parseImageSpec spec).registry) (fun _ => True)
      (getImageRemoteDigest env spec localDigest) (fun _ => True) fun _ => True := by
  refine triple_trySchemes (fun scheme => triple_doRequest (fun headers => ?_)
    (authorization_digestHeaders _)) _ _
  refine ⟨scheme, "v2/" ++ (parseImageSpec spec).repo ++ "/manifests/" ++
    (parseImageSpec spec).tag, ?_⟩
  have hpath : "/v2/" = "/" ++ "v2/" := rfl
  rw [hpath]
  simp only [String.append_assoc]

end

/-! ## Credentials stay with their registry -/

/-- The credentials that are found for a registry are its own, and no request made for an
image of that registry carries others, or goes elsewhere. -/
def CredentialsStay (auths : Dict String AuthEntry) (registry : String) : Prop :=
  FindsOwn auths registry ∧
    ∀ env spec localDigest pre e post res, env.auths = auths →
      (parseImageSpec spec).registry = registry →
      Runs (getImageRemoteDigest env spec localDigest ()) (pre ++ e :: post) res →
      e.op.GoesTo registry (pre.foldl challengesAfter []) ∧
        ∀ token, e.op.authorization = some ("Basic " ++ token) →
          ∃ key entry, findEntry auths registry = some (key, entry) ∧
            entry.get? "auth" = some token ∧ NamesRegistry key registry

/-- Credentials stay with their registry, unless the first entry that matches in part is
one of another host. -/
theorem credentialsStay_iff (auths : Dict String AuthEntry) (registry : String) :
    CredentialsStay auths registry ↔ PartialMatchNames auths registry := by
  rw [← findsOwn_iff]
  refine ⟨And.left, fun hown => ⟨hown, ?_⟩⟩
  rintro env spec localDigest pre e post res rfl rfl hrun
  have hwp := triple_getImageRemoteDigest env spec localDigest () [] trivial
  have haccepts : ∀ (challenges : List String) (tr : Trace RegistryHttp),
      (credentialsContract env.auths (parseImageSpec spec).registry).Accepts challenges tr := by
    intro challenges tr
    induction tr generalizing challenges with
    | nil => trivial
    | cons e tr ih => exact ⟨trivial, ih _⟩
  obtain ⟨hgoes, hauth⟩ := Prog.wp_guar hwp hrun rfl (haccepts _ _)
  refine ⟨hgoes, fun token htoken => ?_⟩
  obtain ⟨⟨key, entry⟩, hfind, hentry⟩ := Option.bind_eq_some_iff.1 (hauth token htoken)
  exact ⟨key, entry, hfind, hentry, hown key entry token hfind hentry⟩

/-- The credentials of `eu.gcr.io` are found for `gcr.io`. -/
theorem not_credentialsStay_gcr :
    ¬ CredentialsStay [("https://eu.gcr.io", [("auth", "token")])] "gcr.io" := by
  intro h
  exact absurd (h.1 "https://eu.gcr.io" [("auth", "token")] "token" (by decide) (by decide))
    (by decide)

end Tugtainer
