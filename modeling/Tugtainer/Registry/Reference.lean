import Tugtainer.Registry.Digest

/-!
# Image references

An image reference names a registry by a host, which is one only in front of a slash and
if it looks like one, a repository by the components of its path, and a manifest by a tag
or a digest. `parseImageSpec` reads the text of a reference; `parsedAs_iff` says which
references it reads as they are meant.
-/

namespace Tugtainer

open Python

/-! ## References -/

/-- A text that can stand between the separators of a reference. -/
structure IsPart (s : String) : Prop where
  ne_empty : s ≠ ""
  slash : '/' ∉ s.toList
  colon : ':' ∉ s.toList
  at' : '@' ∉ s.toList

instance (s : String) : Decidable (IsPart s) :=
  decidable_of_iff (s ≠ "" ∧ '/' ∉ s.toList ∧ ':' ∉ s.toList ∧ '@' ∉ s.toList)
    ⟨fun ⟨h, hslash, hcolon, hat⟩ => ⟨h, hslash, hcolon, hat⟩,
      fun h => ⟨h.ne_empty, h.slash, h.colon, h.at'⟩⟩

/-- How the host of a registry is told from the first component of a path. -/
def HostLike (s : String) : Prop :=
  '.' ∈ s.toList ∨ ':' ∈ s.toList ∨ s = "localhost"

instance (s : String) : Decidable (HostLike s) := inferInstanceAs (Decidable (_ ∨ _))

/-- A reference. Without a host, the first of several components does not look like one. -/
structure ImageReference where
  host : Option String := none
  path : List String
  tag : Option String := none
  digest : Option (String × String) := none
  path_ne_nil : path ≠ []
  isPart_path : ∀ c ∈ path, IsPart c
  hostLike_host : ∀ h ∈ host, HostLike h
  slash_host : ∀ h ∈ host, '/' ∉ h.toList
  head_path : host = none → ∀ c rest, path = c :: rest → rest ≠ [] → ¬ HostLike c
  isPart_tag : ∀ t ∈ tag, IsPart t
  isPart_digest : ∀ d ∈ digest, IsPart d.1 ∧ IsPart d.2

namespace ImageReference

def parts (r : ImageReference) : List String := r.host.toList ++ r.path

def tagText (tag : Option String) : String := (tag.map (":" ++ ·)).getD ""

def digestName (digest : String × String) : String := digest.1 ++ ":" ++ digest.2

/-- The text of a reference. -/
def text (r : ImageReference) : String :=
  join "/" r.parts ++ tagText r.tag ++ (r.digest.map ("@" ++ digestName ·)).getD ""

/-- The host of the registry's API. -/
def registry (r : ImageReference) : String :=
  match r.host with
  | none => "registry-1.docker.io"
  | some host =>
      if host = "docker.io" ∨ host = "index.docker.io" then "registry-1.docker.io" else host

/-- The repository. The official ones of Docker Hub have one component. -/
def repo (r : ImageReference) : String :=
  if r.registry = "registry-1.docker.io" ∧ r.path.length = 1 then "library/" ++ join "/" r.path
  else join "/" r.path

def manifest (r : ImageReference) : String :=
  match r.digest with
  | some digest => digestName digest
  | none => r.tag.getD "latest"

/-- The spec names what the reference does. -/
structure ParsedAs (r : ImageReference) (spec : ImageSpec) : Prop where
  registry : spec.registry = r.registry
  repo : spec.repo = r.repo
  repo_ne_empty : spec.repo ≠ ""
  repo_colon : ':' ∉ spec.repo.toList
  repo_at : '@' ∉ spec.repo.toList
  manifest : spec.tag = r.manifest

/-- The whole reference is one component that looks like a host. -/
def IsBareHost (r : ImageReference) : Prop :=
  r.host = none ∧ ∃ c, r.path = [c] ∧ HostLike c

end ImageReference

/-! ## Texts with separators -/

theorem mem_join_iff {l : List String} {c : Char} (hc : c ≠ '/') :
    c ∈ (join "/" l).toList ↔ ∃ s ∈ l, c ∈ s.toList := by
  induction l with
  | nil => simp [join]
  | cons s l ih =>
      cases l with
      | nil => simp [join]
      | cons t l =>
          have hjoin : join "/" (s :: t :: l) = s ++ "/" ++ join "/" (t :: l) :=
            String.intercalate_cons_cons
          simp [hjoin, ih, hc]

theorem slash_mem_join_iff {l : List String} (h : ∀ s ∈ l, '/' ∉ s.toList) :
    '/' ∈ (join "/" l).toList ↔ 2 ≤ l.length := by
  cases l with
  | nil => simp [join]
  | cons s l =>
      cases l with
      | nil => simpa [join] using h s
      | cons t l =>
          have hjoin : join "/" (s :: t :: l) = s ++ "/" ++ join "/" (t :: l) :=
            String.intercalate_cons_cons
          simp [hjoin]

theorem join_concat {l : List String} (hne : l ≠ []) (s : String) :
    join "/" (l ++ [s]) = join "/" l ++ "/" ++ s := by
  rw [join, String.intercalate_append_of_ne_nil hne (List.cons_ne_nil s []),
    String.intercalate_singleton]
  rfl

theorem exists_last_of_mem {s : List Char} {sep : Char} (h : sep ∈ s) :
    ∃ head tail, s = head ++ sep :: tail ∧ sep ∉ tail := by
  obtain ⟨tail, head, hs, htail⟩ := List.eq_append_cons_of_mem (List.mem_reverse.2 h)
  refine ⟨head.reverse, tail.reverse, ?_, mt List.mem_reverse.1 htail⟩
  rw [← List.reverse_reverse s, hs]
  simp

/-! ## The tag -/

theorem splitTag_of_notMem {s : String} (h : ':' ∉ s.toList) : splitTag s = (s, "latest") := by
  rw [splitTag, rpartition_of_notMem h]

theorem splitTag_of_toList_eq {s : String} {head tail : List Char}
    (hs : s.toList = head ++ ':' :: tail) (htail : ':' ∉ tail) :
    splitTag s =
      if (if '/' ∈ s.toList then '/' ∉ tail else ':' ∉ head) then
        (String.ofList head, String.ofList tail)
      else (s, "latest") := by
  rw [splitTag, hs, rpartition_append_cons htail]

theorem colon_notMem_splitTag (s : String) : ':' ∉ (splitTag s).2.toList := by
  have hlatest : ':' ∉ "latest".toList := by decide
  by_cases h : ':' ∈ s.toList
  · obtain ⟨head, tail, hs, htail⟩ := exists_last_of_mem h
    rw [splitTag_of_toList_eq hs htail]
    rcases ite_eq_or_eq (if '/' ∈ s.toList then '/' ∉ tail else ':' ∉ head)
      (String.ofList head, String.ofList tail) (s, "latest") with heq | heq
    · rw [heq]
      simpa using htail
    · rw [heq]
      exact hlatest
  · rw [splitTag_of_notMem h]
    exact hlatest

theorem splitTag_join (l : List String) {last : String} (hlast : IsPart last) :
    splitTag (join "/" (l ++ [last])) = (join "/" (l ++ [last]), "latest") := by
  by_cases hl : l = []
  · subst hl
    refine splitTag_of_notMem ?_
    simpa [join] using hlast.colon
  · have hjoin := join_concat hl last
    by_cases hcolon : ':' ∈ (join "/" l).toList
    · obtain ⟨head, tail, hs, htail⟩ := exists_last_of_mem hcolon
      have hs' : (join "/" (l ++ [last])).toList = head ++ ':' :: (tail ++ '/' :: last.toList) := by
        simp [hjoin, hs]
      have htail' : ':' ∉ tail ++ '/' :: last.toList := by simp [htail, hlast.colon]
      rw [splitTag_of_toList_eq hs' htail']
      simp [hjoin]
    · refine splitTag_of_notMem ?_
      simp [hjoin, hcolon, hlast.colon]

theorem splitTag_join_tag (l : List String) {last tag : String} (hlast : IsPart last)
    (htag : IsPart tag) :
    splitTag (join "/" (l ++ [last]) ++ (":" ++ tag)) = (join "/" (l ++ [last]), tag) := by
  have hs : (join "/" (l ++ [last]) ++ (":" ++ tag)).toList =
      (join "/" (l ++ [last])).toList ++ ':' :: tag.toList := by simp
  rw [splitTag_of_toList_eq hs htag.colon, if_pos]
  · simp
  · by_cases hl : l = []
    · subst hl
      simp [join, htag.slash, hlast.colon]
    · simp [join_concat hl, htag.slash]

namespace ImageReference

theorem exists_parts_eq_concat (r : ImageReference) :
    ∃ l last, r.parts = l ++ [last] ∧ IsPart last := by
  refine ⟨r.host.toList ++ r.path.dropLast, r.path.getLast r.path_ne_nil, ?_,
    r.isPart_path _ (List.getLast_mem r.path_ne_nil)⟩
  rw [List.append_assoc, List.dropLast_append_getLast, parts]

theorem splitTag_text {r : ImageReference} (h : r.digest = none) :
    splitTag r.text = (join "/" r.parts, r.tag.getD "latest") := by
  obtain ⟨l, last, hparts, hlast⟩ := r.exists_parts_eq_concat
  have htext : r.text = join "/" r.parts ++ tagText r.tag := by simp [text, h]
  rw [htext, hparts]
  cases htag : r.tag with
  | none =>
      have hempty : tagText none = "" := rfl
      rw [hempty, String.append_empty]
      exact splitTag_join l hlast
  | some tag => exact splitTag_join_tag l hlast (r.isPart_tag tag htag)

/-! ## The registry and the repository -/

theorem slash_notMem_of_mem_parts (r : ImageReference) : ∀ s ∈ r.parts, '/' ∉ s.toList := by
  intro s hs
  rcases List.mem_append.1 hs with hs | hs
  · exact r.slash_host s (Option.mem_toList.1 hs)
  · exact (r.isPart_path s hs).slash

theorem slash_mem_join_path_iff (r : ImageReference) :
    '/' ∈ (join "/" r.path).toList ↔ r.path.length ≠ 1 := by
  rw [slash_mem_join_iff fun c hc => (r.isPart_path c hc).slash]
  have hpos := List.length_pos_iff.2 r.path_ne_nil
  omega

theorem parseImageSpec_eq {spec name tag : String} {l : List String}
    (hsplit : splitTag spec = (name, tag)) (hl : split name '/' = l) :
    parseImageSpec spec =
      let head := l.headD ""
      let registry := if HostLike head then head else "registry-1.docker.io"
      let repo := if HostLike head then join "/" l.tail else name
      let registry :=
        if registry = "docker.io" ∨ registry = "index.docker.io" then "registry-1.docker.io"
        else registry
      { registry := registry
        repo :=
          if registry = "registry-1.docker.io" ∧ '/' ∉ repo.toList then "library/" ++ repo
          else repo
        tag := tag } := by
  subst hl
  unfold parseImageSpec
  rw [hsplit]
  by_cases h : HostLike ((split name '/').headD "")
  · simp only [if_pos h]
    rw [HostLike] at h
    simp only [if_pos h]
  · simp only [if_neg h]
    rw [HostLike] at h
    simp only [if_neg h]

theorem tag_parseImageSpec (spec : String) : (parseImageSpec spec).tag = (splitTag spec).2 := by
  have hsplit : splitTag spec = ((splitTag spec).1, (splitTag spec).2) := rfl
  rw [parseImageSpec_eq hsplit rfl]

/-- Without a digest, everything is read as it is meant, unless the whole reference is
taken for a host. -/
theorem parseImageSpec_text {r : ImageReference} (hdigest : r.digest = none)
    (h : ¬ r.IsBareHost) : parseImageSpec r.text = ⟨r.registry, r.repo, r.manifest⟩ := by
  have hne : r.parts ≠ [] := by
    simp [parts, r.path_ne_nil]
  have hmanifest : r.manifest = r.tag.getD "latest" := by simp [manifest, hdigest]
  rw [parseImageSpec_eq (splitTag_text hdigest) (split_join rfl hne r.slash_notMem_of_mem_parts)]
  cases hhost : r.host with
  | some host =>
      have hlike := r.hostLike_host host hhost
      have hparts : r.parts = host :: r.path := by simp [parts, hhost]
      simp [hparts, hlike, registry, repo, hhost, hmanifest, r.slash_mem_join_path_iff]
  | none =>
      obtain ⟨c, rest, hpath⟩ := List.exists_cons_of_ne_nil r.path_ne_nil
      have hparts : r.parts = r.path := by simp [parts, hhost]
      have hlike : ¬ HostLike c := by
        intro hlike
        by_cases hrest : rest = []
        · exact h ⟨hhost, c, by rw [hpath, hrest], hlike⟩
        · exact r.head_path hhost c rest hpath hrest hlike
      have hhead : r.parts.headD "" = c := by rw [hparts, hpath, List.headD_cons]
      simp only [hhead, if_neg hlike]
      simp [hparts, registry, repo, hhost, hmanifest, r.slash_mem_join_path_iff]

theorem IsBareHost.repo_ne {r : ImageReference} (h : r.IsBareHost) (hdigest : r.digest = none) :
    (parseImageSpec r.text).repo ≠ r.repo := by
  obtain ⟨hhost, c, hpath, hlike⟩ := h
  have hparts : r.parts = [c] := by simp [parts, hhost, hpath]
  have hsplit : split (join "/" r.parts) '/' = [c] := by
    rw [split_join rfl (by simp [hparts]) r.slash_notMem_of_mem_parts, hparts]
  have hrepo : r.repo = "library/" ++ c := by simp [repo, registry, hhost, hpath, join]
  have hne : c.toList ≠ [] := by
    simpa using (r.isPart_path c (by simp [hpath])).ne_empty
  have hcases : (parseImageSpec r.text).repo = "library/" ++ "" ∨
      (parseImageSpec r.text).repo = "" := by
    have hempty : join "/" [] = "" := rfl
    rw [parseImageSpec_eq (splitTag_text hdigest) hsplit]
    simp only [List.headD_cons, if_pos hlike, List.tail_cons, hempty]
    exact ite_eq_or_eq _ _ _
  rw [hrepo]
  intro heq
  rcases hcases with hlibrary | hempty
  · exact hne (by simpa using congrArg String.toList (hlibrary.symm.trans heq))
  · simpa using congrArg String.toList (hempty.symm.trans heq)

theorem repo_ne_empty (r : ImageReference) : r.repo ≠ "" := by
  obtain ⟨c, rest, hpath⟩ := List.exists_cons_of_ne_nil r.path_ne_nil
  have hne := (r.isPart_path c (by simp [hpath])).ne_empty
  have hjoin : join "/" r.path ≠ "" := by
    cases rest with
    | nil => simpa [hpath, join] using hne
    | cons d rest => simp [hpath, join]
  unfold repo
  split
  · simp
  · exact hjoin

/-- A character that no component has, and that is no part of `library/`, is not in the
repository. -/
theorem notMem_repo {r : ImageReference} {x : Char} (hslash : x ≠ '/')
    (hlibrary : x ∉ "library/".toList) (h : ∀ c ∈ r.path, x ∉ c.toList) : x ∉ r.repo.toList := by
  have hjoin : x ∉ (join "/" r.path).toList := by
    rw [mem_join_iff hslash]
    rintro ⟨c, hc, hx⟩
    exact h c hc hx
  unfold repo
  split
  · rw [String.toList_append, List.mem_append]
    exact not_or.2 ⟨hlibrary, hjoin⟩
  · exact hjoin

/-- A reference is read as it is meant if and only if it has no digest and is not one
component that looks like a host. -/
theorem parsedAs_iff (r : ImageReference) :
    r.ParsedAs (parseImageSpec r.text) ↔ r.digest = none ∧ ¬ r.IsBareHost := by
  constructor
  · intro h
    have hdigest : r.digest = none := by
      rw [← Option.not_isSome_iff_eq_none, Option.isSome_iff_exists]
      rintro ⟨d, hd⟩
      have hmanifest : r.manifest = digestName d := by simp [manifest, hd]
      have htag : (splitTag r.text).2 = digestName d := by
        rw [← tag_parseImageSpec, h.manifest, hmanifest]
      have hcolon := colon_notMem_splitTag r.text
      rw [htag] at hcolon
      exact hcolon (by simp [digestName])
    exact ⟨hdigest, fun hbare => hbare.repo_ne hdigest h.repo⟩
  · rintro ⟨hdigest, hbare⟩
    have hparse := parseImageSpec_text hdigest hbare
    rw [hparse]
    exact
      { registry := rfl
        repo := rfl
        repo_ne_empty := r.repo_ne_empty
        repo_colon := notMem_repo (by decide) (by decide) fun c hc => (r.isPart_path c hc).colon
        repo_at := notMem_repo (by decide) (by decide) fun c hc => (r.isPart_path c hc).at'
        manifest := rfl }

/-- `hello.world:1`. -/
def dotted : ImageReference where
  path := ["hello.world"]
  tag := some "1"
  path_ne_nil := by decide
  isPart_path := by decide
  hostLike_host := by decide
  slash_host := by decide
  head_path := by simp
  isPart_tag := by decide
  isPart_digest := by decide

/-- `nginx@sha256:0123456789abcdef0123456789abcdef`. -/
def pinned : ImageReference where
  path := ["nginx"]
  digest := some ("sha256", "0123456789abcdef0123456789abcdef")
  path_ne_nil := by decide
  isPart_path := by decide
  hostLike_host := by decide
  slash_host := by decide
  head_path := by simp
  isPart_tag := by decide
  isPart_digest := by decide

/-- The first is asked of a registry `hello.world`, for the second the algorithm is part of
the repository. -/
theorem dotted_and_pinned_misread :
    parseImageSpec dotted.text = ⟨"hello.world", "", "1"⟩ ∧
      ¬ dotted.ParsedAs (parseImageSpec dotted.text) ∧
      parseImageSpec pinned.text =
        ⟨"registry-1.docker.io", "library/nginx@sha256", "0123456789abcdef0123456789abcdef"⟩ ∧
      ¬ pinned.ParsedAs (parseImageSpec pinned.text) := by
  have hdotted : parseImageSpec dotted.text = ⟨"hello.world", "", "1"⟩ := by decide
  have hpinned : parseImageSpec pinned.text =
      ⟨"registry-1.docker.io", "library/nginx@sha256", "0123456789abcdef0123456789abcdef"⟩ := by
    decide
  refine ⟨hdotted, fun h => ?_, hpinned, fun h => ?_⟩
  · exact h.repo_ne_empty (by rw [hdotted])
  · exact h.repo_at (by rw [hpinned]; decide)

end ImageReference

end Tugtainer
