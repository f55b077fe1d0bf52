import Tugtainer.Registry.Credentials

/-!
# Which registries are contacted without TLS

`getImageRemoteDigest` gives up the verification of certificates, and falls back to HTTP,
where the setting of insecure registries matches the registry of the image. The match is a
search for a part of the text: `insecureOnlyNamed_iff` says which settings downgrade only
registries that they name.
-/

namespace Tugtainer

open Python Interaction

/-- The request verifies certificates, and a request to the registry itself uses HTTPS. The
URL of a token server is the registry's choice. -/
def RegistryOp.Secure : RegistryOp → Prop
  | .head url _ ssl => (∃ rest, url = "https://" ++ rest) ∧ ssl = true
  | .get _ _ ssl => ssl = true

/-! ## Registries that are not insecure -/

section

variable {url repo : String} {headers : Dict String String} {digest token : Option String}

theorem issues_getRegistryBearerToken (authHeader : String) :
    Act.Issues RegistryOp.Secure (getRegistryBearerToken authHeader repo token true) := by
  unfold getRegistryBearerToken
  split
  · exact Act.issues_throw _
  · split
    · exact Act.issues_throw _
    · exact Act.issues_bind (Act.issues_performE rfl) fun data =>
        Act.issues_ite (Act.issues_throw _) (Act.issues_pure _)

theorem issues_doRequest (hurl : ∃ rest, url = "https://" ++ rest) :
    Act.Issues RegistryOp.Secure (doRequest url repo headers token digest true) := by
  have hhead (headers : Dict String String) :
      Act.Issues RegistryOp.Secure (head url headers true) :=
    Act.issues_performE ⟨hurl, rfl⟩
  have hlast (headers : Dict String String) : Act.Issues RegistryOp.Secure
      (head url headers true >>= fun resp => Act.ofExcept (onResp digest resp)) :=
    Act.issues_bind (hhead _) fun resp => Act.issues_ofExcept _
  refine Act.issues_bind (hhead _) fun resp => Act.issues_ite (Act.issues_ite ?_ ?_)
    (Act.issues_ofExcept _)
  · exact Act.issues_bind (issues_getRegistryBearerToken _) fun bearerToken => hlast _
  · split
    · exact hlast _
    · exact Act.issues_ofExcept _

theorem issues_getImageRemoteDigest (env : RegistryEnv) {spec : String}
    (h : isInsecure env.insecureRegistries (parseImageSpec spec).registry = false)
    (localDigest : Option String) :
    Act.Issues RegistryOp.Secure (getImageRemoteDigest env spec localDigest) := by
  unfold getImageRemoteDigest
  simp only [h, Bool.false_eq_true, if_false, Bool.not_false]
  refine Act.issues_tryCatch (issues_doRequest ⟨(parseImageSpec spec).registry ++ "/v2/" ++
    (parseImageSpec spec).repo ++ "/manifests/" ++ (parseImageSpec spec).tag, ?_⟩) fun e => ?_
  · have hscheme : "https" ++ "://" = "https://" := rfl
    simp only [← String.append_assoc, hscheme]
  · cases e <;> exact Act.issues_throw _

end

/-- A registry that is insecure is asked without the verification of certificates. -/
theorem exists_insecure_run (env : RegistryEnv) {spec : String}
    (h : isInsecure env.insecureRegistries (parseImageSpec spec).registry = true)
    (localDigest : Option String) :
    ∃ tr res, Runs (getImageRemoteDigest env spec localDigest ()) tr res ∧
      ∃ e ∈ tr, ¬ e.op.Secure := by
  unfold getImageRemoteDigest
  simp only [h, if_true, Bool.not_true]
  refine ⟨[⟨.head _ _ false, Except.error RegistryExn.other⟩], (.error .other, ()),
    .call (.ret _), _, List.mem_singleton_self _, ?_⟩
  exact fun hsecure => absurd hsecure.2 (by decide)

/-! ## The setting -/

/-- A line of the setting names the registry. -/
def NamesInsecure (insecureRegistries : Option String) (registry : String) : Prop :=
  ∃ line ∈ splitlines (insecureRegistries.getD ""),
    isBlank line = false ∧ registryHost line = registry

instance (insecureRegistries : Option String) (registry : String) :
    Decidable (NamesInsecure insecureRegistries registry) :=
  inferInstanceAs (Decidable (∃ line ∈ _, _))

/-- The registry of the image is contacted without TLS only if a line of the setting names
it. -/
def InsecureOnlyNamed (insecureRegistries : Option String) (spec : String) : Prop :=
  ∀ auths localDigest tr res,
    Runs (getImageRemoteDigest ⟨insecureRegistries, auths⟩ spec localDigest ()) tr res →
    (∃ e ∈ tr, ¬ e.op.Secure) → NamesInsecure insecureRegistries (parseImageSpec spec).registry

theorem secure_of_runs {α : Type} {guar : RegistryOp → Prop} {p : Prog RegistryHttp α}
    {tr : Trace RegistryHttp} {res : α} (h : Runs p tr res) (hp : p.Issues guar) :
    ∀ e ∈ tr, guar e.op := by
  induction h with
  | ret a => simp
  | call hrun ih => exact List.forall_mem_cons.2 ⟨hp.1, ih (hp.2 _)⟩

theorem InsecureOnlyNamed.named {insecureRegistries : Option String} {spec : String}
    (h : InsecureOnlyNamed insecureRegistries spec)
    (hinsecure : isInsecure insecureRegistries (parseImageSpec spec).registry = true) :
    NamesInsecure insecureRegistries (parseImageSpec spec).registry := by
  obtain ⟨tr, res, hrun, hunsafe⟩ :=
    exists_insecure_run ⟨insecureRegistries, []⟩ hinsecure none
  exact h [] none tr res hrun hunsafe

/-- A setting downgrades only what it names, unless a line contains the registry or is
contained in it without any line naming it. -/
theorem insecureOnlyNamed_iff (insecureRegistries : Option String) (spec : String) :
    InsecureOnlyNamed insecureRegistries spec ↔
      (isInsecure insecureRegistries (parseImageSpec spec).registry = true →
        NamesInsecure insecureRegistries (parseImageSpec spec).registry) := by
  refine ⟨fun h => h.named, fun h auths localDigest tr res hrun hunsafe => h ?_⟩
  by_contra hsecure
  obtain ⟨e, he, hnot⟩ := hunsafe
  exact hnot (secure_of_runs hrun (issues_getImageRemoteDigest
    ⟨insecureRegistries, auths⟩ (eq_false_of_ne_true hsecure) localDigest ())
    e he)

/-- The line `io` downgrades `gcr.io`. -/
theorem not_insecureOnlyNamed_io : ¬ InsecureOnlyNamed (some "io") "gcr.io/project/app" :=
  fun h => absurd (h.named (by decide)) (by decide)

end Tugtainer
