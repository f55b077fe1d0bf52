import Tugtainer.Check.Record
import Tugtainer.Registry.Manifest

/-!
# The verdict of a check

A check compares the digest that the lookup for its first local digest obtains with the
local ones, as texts. `updateAvailable_iff` says when the verdict is right: a digest in
quotes is in none of them, also where the digest itself is.
-/

namespace Tugtainer

open Python Interaction

/-! ## Local digests -/

/-- A digest of a local image, with the repository. -/
structure RepoDigest where
  repo : String
  digest : String
  at_digest : '@' ∉ digest.toList
  quote_repo : '"' ∉ repo.toList
  quote_digest : '"' ∉ digest.toList

namespace RepoDigest

def text (d : RepoDigest) : String := d.repo ++ "@" ++ d.digest

variable (d : RepoDigest)

theorem text_ne_empty : d.text ≠ "" := by simp [text]

theorem shortDigest_text : shortDigest d.text = d.digest := by
  have htext : d.text.toList = d.repo.toList ++ '@' :: d.digest.toList := by simp [text]
  rw [shortDigest, htext, rpartition_append_cons d.at_digest, String.ofList_toList]

theorem quote_text : '"' ∉ d.text.toList := by
  simp [text, d.quote_repo, d.quote_digest]

end RepoDigest

/-! ## Texts in texts -/

theorem contains_iff {s pat : String} : contains s pat = true ↔ pat.toList <:+: s.toList := by
  rw [contains, List.any_eq_true]
  constructor
  · rintro ⟨suffix, hsuffix, hprefix⟩
    exact List.infix_iff_prefix_suffix.2
      ⟨suffix, List.isPrefixOf_iff_prefix.1 hprefix, (List.mem_tails _ _).1 hsuffix⟩
  · intro h
    obtain ⟨suffix, hprefix, hsuffix⟩ := List.infix_iff_prefix_suffix.1 h
    exact ⟨suffix, (List.mem_tails _ _).2 hsuffix, List.isPrefixOf_iff_prefix.2 hprefix⟩

theorem contains_text (d : RepoDigest) : contains d.text d.digest = true := by
  rw [contains_iff]
  exact List.IsSuffix.isInfix ⟨(d.repo ++ "@").toList, by simp [RepoDigest.text]⟩

theorem contains_text_quoted (d : RepoDigest) (digest : String) :
    contains d.text (quoted digest) = false := by
  refine eq_false_of_ne_true fun h => d.quote_text ?_
  exact (contains_iff.1 h).subset (by simp [quoted])

/-! ## The reply to a lookup -/

/-- How the backend sees a lookup that ends in `res`. -/
def lookupReply (res : Except RegistryExn (Option String)) : Reply (Option String) :=
  match res with
  | .ok d => .ok d
  | .error _ => .raised none

/-- The reply to a lookup comes from a run against the registry. -/
def LookedUp (env : RegistryEnv) (m : TagManifest) (spec localDigest : String)
    (r : Reply (Option String)) : Prop :=
  ∃ tr res, Runs (getImageRemoteDigest env spec (some localDigest) ()) tr (res, ()) ∧
    (registryContract m (getBasicToken env.auths (parseImageSpec spec).registry)).Accepts () tr ∧
    r = lookupReply res

theorem LookedUp.eq {env : RegistryEnv} {m : TagManifest} {spec localDigest : String}
    {r : Reply (Option String)} (h : LookedUp env m spec localDigest r) (hne : localDigest ≠ "") :
    r = .ok (some (m.obtained (shortDigest localDigest))) := by
  obtain ⟨tr, res, hrun, hacc, rfl⟩ := h
  have hres := Prog.wp_sound (wp_getImageRemoteDigest hne) hrun hacc
  cases res with
  | ok d => rw [show d = _ from hres]; rfl
  | error e => exact hres.elim

theorem Obtains.eq {env : RegistryEnv} {m : TagManifest} {spec : String} {d : RepoDigest}
    {localDigests : List String} {found : Option String}
    (h : Obtains (LookedUp env m) spec (d.text :: localDigests) found) :
    found = some (m.obtained d.digest) := by
  have hobtained (digest : String) : m.obtained digest ≠ "" := by
    unfold TagManifest.obtained quoted
    split
    · exact m.digest_ne_empty
    · simp
  cases h with
  | found hok hd =>
      have hreply := hok.eq d.text_ne_empty
      rw [d.shortDigest_text] at hreply
      cases hreply
      rfl
  | skip hok hr h =>
      have hreply := hok.eq d.text_ne_empty
      have hfalse := hr _ hreply
      rw [d.shortDigest_text] at hfalse
      simp [truthy, hobtained] at hfalse

/-! ## The verdict -/

/-- The digest that the lookup for the first local digest obtains is found in the local
digests exactly if it is one of them. -/
def Comparable (m : TagManifest) : List RepoDigest → Prop
  | [] => True
  | first :: rest =>
      if first.digest = m.digest ∨ m.header = .contentDigest then
        (∃ d ∈ first :: rest, contains d.text m.digest = true) →
          ∃ d ∈ first :: rest, d.digest = m.digest
      else ∀ d ∈ first :: rest, d.digest ≠ m.digest

theorem misses_iff (m : TagManifest) (first : RepoDigest) (rest : List RepoDigest) :
    ((∀ d ∈ first :: rest, contains d.text (m.obtained first.digest) = false) ↔
        ∀ d ∈ first :: rest, d.digest ≠ m.digest) ↔
      Comparable m (first :: rest) := by
  simp only [Comparable, TagManifest.obtained]
  by_cases hfirst : first.digest = m.digest ∨ m.header = .contentDigest
  · rw [if_pos hfirst, if_pos hfirst]
    constructor
    · rintro h ⟨d, hd, hcontains⟩
      by_contra hne
      push Not at hne
      exact absurd hcontains (by simp [h.2 hne d hd])
    · intro h
      constructor
      · intro hmisses d hd heq
        have hfalse := hmisses d hd
        rw [← heq, contains_text d] at hfalse
        cases hfalse
      · intro hne d hd
        refine eq_false_of_ne_true fun hcontains => ?_
        obtain ⟨d', hd', heq⟩ := h ⟨d, hd, hcontains⟩
        exact hne d' hd' heq
  · rw [if_neg hfirst, if_neg hfirst]
    constructor
    · intro h
      exact h.1 fun d _ => contains_text_quoted d m.digest
    · intro h
      exact ⟨fun _ => h, fun _ d _ => contains_text_quoted d m.digest⟩

/-- The row says that there is an update exactly if no local digest is the one that the tag
has. -/
def VerdictRight (m : TagManifest) (digests : List RepoDigest) (row : ContainersModel) : Prop :=
  row.updateAvailable = true ↔ ∀ d ∈ digests, d.digest ≠ m.digest

section

variable {σ : Type} {host : HostsModel} {container : ContainerInspectResult} {s s' : σ}
  {tr : Trace Backend} {w : World} {env : RegistryEnv} {m : TagManifest}
  {res : ContainerActionResult} {digests : List RepoDigest}

/-- A check that reports something has saved a row, by the digest that its first lookup
obtained. -/
theorem exists_row_of_checkOneContainer
    (run : Runs (checkOneContainer host container s) tr (.ok res, s'))
    (hacc : (lookupContract (LookedUp env m)).Accepts w tr) (hres : res.result ≠ none) :
    ∃ row, ((lookupContract (LookedUp env m)).after w tr).table host.id container.name =
        some row ∧
      ∀ first rest, row.localDigests = some ((first :: rest).map RepoDigest.text) →
        (row.updateAvailable = true ↔
          ∀ d ∈ first :: rest, contains d.text (m.obtained first.digest) = false) := by
  obtain ⟨_, ⟨⟩, hend⟩ := checkOneContainer_endsBy run hacc
  generalize (lookupContract (LookedUp env m)).after w tr = w' at hend
  cases hend with
  | early h => exact absurd h hres
  | complete c _ _ hobtains _ _ _ _ =>
      refine ⟨_, Table.set_self _ _ _ _, fun first rest hlocal => ?_⟩
      have hlocal : c.localDigests = (first :: rest).map RepoDigest.text :=
        Option.some.inj hlocal
      rw [hlocal, List.map_cons] at hobtains
      rw [Check.save_updateAvailable_of_some hobtains.eq, decide_eq_true_eq, Check.Misses, hlocal]
      simp

/-- The verdict of a check is right if and only if what its lookup obtains can be compared
with the local digests. -/
theorem updateAvailable_iff
    (run : Runs (checkOneContainer host container s) tr (.ok res, s'))
    (hacc : (lookupContract (LookedUp env m)).Accepts w tr) (hres : res.result ≠ none) :
    ∃ row, ((lookupContract (LookedUp env m)).after w tr).table host.id container.name =
        some row ∧
      ∀ digests, digests ≠ [] → row.localDigests = some (digests.map RepoDigest.text) →
        (VerdictRight m digests row ↔ Comparable m digests) := by
  obtain ⟨row, hrow, hupdate⟩ := exists_row_of_checkOneContainer run hacc hres
  refine ⟨row, hrow, fun digests hne hlocal => ?_⟩
  obtain ⟨first, rest, rfl⟩ := List.exists_cons_of_ne_nil hne
  rw [VerdictRight, hupdate first rest hlocal]
  exact misses_iff m first rest

end

/-! ## A digest in quotes -/

/-- The image was pulled twice; the tag has the second digest. -/
def pulledDigests : List RepoDigest :=
  [{ repo := "app", digest := "sha256:d1"
     at_digest := by decide, quote_repo := by decide, quote_digest := by decide },
    { repo := "app", digest := "sha256:d2"
      at_digest := by decide, quote_repo := by decide, quote_digest := by decide }]

def etagManifest : TagManifest where
  digest := "sha256:d2"
  header := .etag
  digest_ne_empty := by decide

def pulledContainer : ContainerInspectResult where
  name := "web"
  image := some "sha256:image"
  config := some { image := some "app:1" }
  name_nonblank := isBlank_web

def pulledImage : ImageInspectResult where
  repoDigests := some (pulledDigests.map RepoDigest.text)

def pulledHost : HostsModel where
  id := 1
  name := "host"

def quotedCheck : Check where
  imageId := some "sha256:image"
  localDigests := pulledDigests.map RepoDigest.text
  remoteDigest := some (quoted "sha256:d2")
  checkedAt := 10
  changedAt := 10

def quotedResult : ContainerActionResult where
  container := pulledContainer
  result := some .available
  imageSpec := some "app:1"
  localImage := some pulledImage
  localDigests := pulledDigests.map RepoDigest.text
  remoteDigests := [quoted "sha256:d2"]

def quotedSettings : Settings where
  registryReqDelay := 1
  pullBeforeCheck := false
  updateOnlyRunning := false
  delayUpdateFor := 0

def quotedTrace : Trace Backend :=
  [⟨.settings, quotedSettings⟩,
    ⟨.cacheGet (getContainerCacheKey pulledHost pulledContainer), none⟩,
    ⟨.cacheSet (getContainerCacheKey pulledHost pulledContainer) .preparing, ()⟩,
    ⟨.agent 1 none (.imageInspect "sha256:image"), .ok pulledImage⟩,
    ⟨.selectContainer 1 "web", .ok none⟩,
    ⟨.cacheUpdate (getContainerCacheKey pulledHost pulledContainer) .checking none, ()⟩,
    ⟨.settings, quotedSettings⟩,
    ⟨.remoteDigest "app:1" "app@sha256:d1", .ok (some (quoted "sha256:d2"))⟩,
    ⟨.sleepAbout 1, ()⟩,
    ⟨.now, (10 : Int)⟩,
    ⟨.now, (10 : Int)⟩,
    ⟨.selectContainer 1 "web", .ok none⟩,
    ⟨.insert 1 "web" (quotedCheck.data none), .ok ()⟩,
    ⟨.refresh 1 "web", .ok (quotedCheck.save none 1 "web")⟩,
    ⟨.cacheUpdate (getContainerCacheKey pulledHost pulledContainer) .done
      (some (.container quotedResult)), ()⟩,
    ⟨.close, .ok ()⟩]

theorem runs_quoted :
    Runs (checkOneContainer pulledHost pulledContainer ()) quotedTrace (.ok quotedResult, ()) :=
  .call (.call (.call (.call (.call (.call (.call (.call (.call (.call (.call (.call (.call (.call
    (.call (.call (.ret _))))))))))))))))

theorem lookedUp_quoted :
    LookedUp ⟨none, []⟩ etagManifest "app:1" "app@sha256:d1"
      (.ok (some (quoted "sha256:d2"))) := by
  let resp : HeadResponse := { status := 200, etag := some (quoted "sha256:d2") }
  refine ⟨[⟨.head "https://registry-1.docker.io/v2/library/app/manifests/1"
    (digestHeaders (some "app@sha256:d1")) true, .ok resp⟩], .ok (some (quoted "sha256:d2")),
    .call (.ret _), ⟨⟨resp, rfl, .inl ?_⟩, trivial⟩, rfl⟩
  exact ⟨rfl, rfl, rfl⟩

/-- The world before the check. -/
def emptyWorld : World := ⟨fun _ _ => none, 0⟩

theorem accepts_quoted :
    (lookupContract (LookedUp ⟨none, []⟩ etagManifest)).Accepts emptyWorld quotedTrace := by
  have htime : (0 : Int) ≤ 10 := by decide
  refine Contract.accepts_restrict_iff.2 ⟨?_, ?_⟩
  · exact ⟨trivial, trivial, trivial, trivial, rfl, trivial, trivial, trivial, trivial, htime,
      le_refl (10 : Int), rfl, rfl, ⟨_, rfl, rfl⟩, trivial, rfl, trivial⟩
  · simp only [quotedTrace, List.forall_mem_cons, List.not_mem_nil, false_implies, implies_true,
      and_true]
    exact ⟨trivial, trivial, trivial, trivial, trivial, trivial, trivial, lookedUp_quoted,
      trivial, trivial, trivial, trivial, trivial, trivial, trivial, trivial⟩

/-- The digest in quotes cannot be compared, and the row is not right. -/
theorem updateAvailable_iff_quoted :
    quotedResult.result ≠ none ∧
      ∃ row, ((lookupContract (LookedUp ⟨none, []⟩ etagManifest)).after emptyWorld
          quotedTrace).table 1 "web" = some row ∧
        ∀ digests, digests ≠ [] → row.localDigests = some (digests.map RepoDigest.text) →
          (VerdictRight etagManifest digests row ↔ Comparable etagManifest digests) :=
  ⟨by decide, updateAvailable_iff runs_quoted accepts_quoted (by decide)⟩

/-- An update is reported although the image is the one that the tag has. -/
theorem quoted_digest_reported :
    ∃ tr res row, Runs (checkOneContainer pulledHost pulledContainer ()) tr (.ok res, ()) ∧
      (lookupContract (LookedUp ⟨none, []⟩ etagManifest)).Accepts emptyWorld tr ∧
      ((lookupContract (LookedUp ⟨none, []⟩ etagManifest)).after emptyWorld tr).table 1 "web" =
        some row ∧
      row.localDigests = some (pulledDigests.map RepoDigest.text) ∧
      row.updateAvailable = true ∧ ¬ VerdictRight etagManifest pulledDigests row := by
  refine ⟨quotedTrace, quotedResult, quotedCheck.save none 1 "web", runs_quoted, accepts_quoted,
    rfl, rfl, rfl, fun h => ?_⟩
  exact absurd (h.1 rfl) (by decide)

end Tugtainer
