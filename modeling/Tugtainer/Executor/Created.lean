import Tugtainer.Executor.ItemRun

/-!
# The container that a run creates

Once a part of the executor has created the container `n`, the trace tells what
has become of it: which configuration it was created from, on which image, and
what has been done to it since. `Created` follows it, and the requests that come
after the creation either leave it alone, start it or connect it.

The image is the one that the reference of the configuration points to when the
container is created. `TagKept` says which one that is in terms of the pulls and
the tags before, and thereby of what other containers of the run did to it.
-/

namespace Tugtainer

open Python Interaction

/-! ## The image of a reference -/

/-- The image that an event makes a reference point to, if it does. -/
def movedTo (canonical : String → String) (reference : String) (e : Event Agent) :
    Option (Option String) :=
  match e with
  | ⟨.agent _ (.imagePull image), reply⟩ =>
      if canonical image = reference then
        (Reply.effect reply : Option ImageInspectResult).map ImageInspectResult.id
      else none
  | ⟨.agent _ (.imageTag specOrId tag), reply⟩ =>
      if canonical tag = reference then
        (Reply.effect reply : Option Unit).map fun _ => some specOrId
      else none
  | _ => none

/-- The last pull or tag of the reference made it point to the image. -/
def PointsTo (canonical : String → String) (reference : String) (image : Option String)
    (tr : Trace Agent) : Prop :=
  Since (fun e => movedTo canonical reference e = some image)
    (fun e => ∃ other, movedTo canonical reference e = some other ∧ other ≠ image) tr

def Moved (canonical : String → String) (reference : String) (tr : Trace Agent) : Prop :=
  Once (fun e => (movedTo canonical reference e).isSome) tr

/-- Where that part of the executor creates the container, the image reference of
its configuration points to `image`. -/
def TagKept (canonical : String → String) (site : Site) (n : String) (image : Option String)
    (tr : Trace Agent) : Prop :=
  Always (fun pre e => ∀ body c, e = answered site (.containerCreate body) (.ok c) →
    body.name = some n → PointsTo canonical (canonical body.image) image pre) tr

section

variable {nameOf canonical : String → String} {n m : String} {reference : String}
  {image : Option String} {d : Docker} {tr : Trace Agent} {e : Event Agent} {site : Site}

theorem Docker.apply_cases (canonical : String → String) (d : Docker) (e : Event Agent) :
    d.apply canonical e = d ∨ ∃ site request a, e.op = .agent site request ∧
      d.apply canonical e = d.perform canonical request a := by
  obtain ⟨op, r⟩ := e
  cases op with
  | agent site request =>
      cases heff : Reply.effect r with
      | none => exact .inl (by simp [apply, heff])
      | some a => exact .inr ⟨site, request, a, rfl, by simp [apply, heff]⟩
  | _ => exact .inl rfl

theorem Docker.images_apply :
    (d.apply canonical e).images reference =
      (movedTo canonical reference e).getD (d.images reference) := by
  obtain ⟨op, r⟩ := e
  cases op with
  | agent site request =>
      cases request with
      | imagePull spec =>
          rcases eq_or_ne reference (canonical spec) with rfl | hspec
          · rcases r with a | (_ | a) <;>
              simp [apply, movedTo, perform, setImage, Reply.effect]
          · rcases r with a | (_ | a) <;>
              simp [apply, movedTo, perform, setImage, Reply.effect, hspec, hspec.symm]
      | imageTag specOrId tag =>
          rcases eq_or_ne reference (canonical tag) with rfl | htag
          · rcases r with a | (_ | a) <;>
              simp [apply, movedTo, perform, setImage, Reply.effect]
          · rcases r with a | (_ | a) <;>
              simp [apply, movedTo, perform, setImage, Reply.effect, htag, htag.symm]
      | commandRun command =>
          rcases r with a | (_ | a) <;> simp only [apply, movedTo, perform, Reply.effect] <;>
            cases connectTarget command <;> rfl
      | _ => rcases r with a | (_ | a) <;> rfl
  | _ => rfl

theorem Docker.images_after_iff (canonical : String → String) (d₀ : Docker)
    (image : Option String) (h : Moved canonical reference tr) :
    (after canonical d₀ tr).images reference = image ↔ PointsTo canonical reference image tr := by
  unfold PointsTo
  induction tr using List.reverseRecOn with
  | nil => exact absurd h (once_nil _)
  | append_singleton tr e ih =>
      rw [after_concat, images_apply, since_concat]
      cases hmoved : movedTo canonical reference e with
      | none =>
          have htr : Moved canonical reference tr :=
            ((once_concat _ _ _).1 h).resolve_right (by simp [hmoved])
          simpa using ih htr
      | some other => simp

/-! ## Foreign events -/

theorem Docker.modifyContainer_of_ne (d : Docker) (f : DockerContainer → DockerContainer)
    (h : n ≠ m) : (d.modifyContainer m f).containers n = d.containers n := by
  simp [modifyContainer, h]

theorem Docker.containers_of_foreign (h : Foreign nameOf n e.op) :
    (d.apply canonical e).containers n = d.containers n := by
  rcases apply_cases canonical d e with hd | ⟨site, request, a, hop, hd⟩
  · rw [hd]
  rw [hop] at h
  obtain ⟨m, hmn, hfor⟩ := h
  rw [hd]
  cases request with
  | containerCreate body =>
      have hbody : body.name = some m := hfor
      simp [perform, hbody, hmn.symm]
  | containerStart name | containerStop name | networkDisconnect _ name _ =>
      obtain rfl : name = m := hfor
      exact modifyContainer_of_ne d _ hmn.symm
  | containerRemove name =>
      obtain rfl : name = m := hfor
      simp [perform, hmn.symm]
  | commandRun command =>
      have hcommand : (connectTarget command).map Prod.snd = some m := hfor
      obtain ⟨⟨network, name⟩, htarget, rfl⟩ := Option.map_eq_some_iff.1 hcommand
      simp only [perform, htarget]
      exact modifyContainer_of_ne d _ hmn.symm
  | _ => rfl

def leaving : Set Kind := {.image, .look, .exec, .log}

theorem Docker.containers_of_leaving (h : ∀ site request, e.op = .agent site request →
    request.kind ∈ leaving) : (d.apply canonical e).containers = d.containers := by
  rcases apply_cases canonical d e with hd | ⟨site, request, a, hop, hd⟩
  · rw [hd]
  have hkind := h site request hop
  rw [hd]
  cases request <;> first | rfl | simp [leaving, Request.kind] at hkind

theorem tagKept_concat (h : ¬ CreatedAt site n e) :
    TagKept canonical site n image (tr ++ [e]) ↔ TagKept canonical site n image tr :=
  (always_concat _ _ _).trans (and_iff_left fun body c he hname => absurd ⟨body, c, he, hname⟩ h)

/-! ## The container -/

/-- Every request to the agent has succeeded. -/
def AllOk (tr : Trace Agent) : Prop :=
  ∀ site request lost, answered site request (.raised lost) ∉ tr

theorem AllOk.of_concat (h : AllOk (tr ++ [e])) : AllOk tr := fun site request lost hmem =>
  h site request lost (List.mem_append_left _ hmem)

theorem not_allOk_raised {request : Request} {lost : Option request.Result} :
    ¬ AllOk (tr ++ [answered site request (.raised lost)]) := fun h =>
  h site request lost (by simp)

/-- The container `n` is `dc`, which that part of the executor created from `body`.
The networks are known where every request has succeeded. -/
structure Created (canonical : String → String) (d₀ : Docker) (site : Site) (n : String)
    (body : CreateContainerRequestBodySchema) (running : Bool) (networks : Finset String)
    (tr : Trace Agent) (dc : DockerContainer) : Prop where
  holds : (Docker.after canonical d₀ tr).containers n = some dc
  createdFrom : dc.createdFrom = some body
  image : ∀ image, dc.image = image ↔ TagKept canonical site n image tr
  running : dc.running = running
  networks : AllOk tr → dc.networks = networks

variable {d₀ : Docker} {body : CreateContainerRequestBodySchema} {running : Bool}
  {networks : Finset String} {dc : DockerContainer}

theorem Created.concat (h : Created canonical d₀ site n body running networks tr dc)
    (hsame : ∀ d, (Docker.apply canonical d e).containers n = d.containers n)
    (hnot : ¬ CreatedAt site n e) :
    Created canonical d₀ site n body running networks (tr ++ [e]) dc where
  holds := by rw [Docker.after_concat, hsame, h.holds]
  createdFrom := h.createdFrom
  image image := (h.image image).trans (tagKept_concat hnot).symm
  running := h.running
  networks hok := h.networks hok.of_concat

theorem Created.once (h : Created canonical d₀ site n body running networks tr dc) :
    Once (CreatedAt site n) tr := by
  by_contra hnot
  have hkept : ∀ image, TagKept canonical site n image tr := by
    rintro image pre e post rfl body' c rfl hname
    exact absurd ⟨_, by simp, body', c, rfl, hname⟩ hnot
  have hnone := (h.image none).2 (hkept none)
  have hsome := (h.image (some "")).2 (hkept (some ""))
  rw [hnone] at hsome
  cases hsome

theorem created_of_answered {c : ContainerInspectResult} (hname : body.name = some n)
    (hnone : ¬ Once (CreatedAt site n) tr) (hmoved : Moved canonical (canonical body.image) tr) :
    ∃ dc, Created canonical d₀ site n body false (createdNetworks body)
      (tr ++ [answered site (.containerCreate body) (.ok c)]) dc := by
  refine ⟨{ createdFrom := some body
            image := (Docker.after canonical d₀ tr).images (canonical body.image)
            networks := createdNetworks body }, ?_, rfl, fun image => ?_, rfl, fun _ => rfl⟩
  · simp [Docker.apply, Docker.perform, Reply.effect, hname]
  · have htr : TagKept canonical site n image tr := by
      rintro pre e post rfl body' c' rfl hname'
      exact absurd ⟨_, by simp, body', c', rfl, hname'⟩ hnone
    rw [TagKept, always_concat]
    refine (Docker.images_after_iff canonical d₀ image hmoved).trans ⟨fun h => ?_, fun h => ?_⟩
    · refine ⟨htr, fun body' c' he _ => ?_⟩
      cases he
      exact h
    · exact h.2 body c rfl hname

theorem Created.start (h : Created canonical d₀ site n body running networks tr dc)
    {site' : Site} :
    ∃ dc, Created canonical d₀ site n body true networks
      (tr ++ [answered site' (.containerStart n) (.ok ())]) dc := by
  have hnot : ¬ CreatedAt site n (answered site' (.containerStart n) (.ok ())) := by
    rintro ⟨_, _, h, -⟩
    cases h
  refine ⟨{ dc with running := true }, ?_, h.createdFrom,
    fun image => (h.image image).trans (tagKept_concat hnot).symm, rfl,
    fun hok => h.networks hok.of_concat⟩
  simp [Docker.apply, Docker.perform, Docker.modifyContainer, Reply.effect, h.holds]

theorem Created.connect (h : Created canonical d₀ site n body running networks tr dc)
    {site' : Site} {command : List String} {network : String}
    (hcommand : connectTarget command = some (network, n)) (r : Reply Unit) :
    ∃ dc, Created canonical d₀ site n body running (insert network networks)
      (tr ++ [answered site' (.commandRun command) r]) dc := by
  have hnot : ¬ CreatedAt site n (answered site' (.commandRun command) r) := by
    rintro ⟨_, _, h, -⟩
    cases h
  have himage : ∀ image, dc.image = image ↔ TagKept canonical site n image
      (tr ++ [answered site' (.commandRun command) r]) := fun image =>
    (h.image image).trans (tagKept_concat hnot).symm
  cases heff : r.effect with
  | none =>
      refine ⟨dc, ?_, h.createdFrom, himage, h.running, fun hok => ?_⟩
      · simp [Docker.apply, heff, h.holds]
      · cases r with
        | ok a => cases heff
        | raised lost => exact absurd hok not_allOk_raised
  | some a =>
      refine ⟨{ dc with networks := insert network dc.networks }, ?_, h.createdFrom, himage,
        h.running, fun hok => ?_⟩
      · simp [Docker.apply, heff, Docker.perform, hcommand, Docker.modifyContainer, h.holds]
      · rw [h.networks hok.of_concat]

theorem created_keptBy {kinds : Site → Kind → Prop}
    (hkinds : ∀ site' kind, kinds site' kind → kind ∈ leaving) :
    KeptBy nameOf m kinds fun tr =>
      ∃ dc, Created canonical d₀ site n body running networks tr dc := by
  rintro tr e hop - ⟨dc, h⟩
  refine ⟨dc, h.concat (fun d => ?_) fun hcreated => ?_⟩
  · refine congrFun (Docker.containers_of_leaving fun site' request he => ?_) n
    rw [he] at hop
    exact hkinds _ _ hop.1
  · have hleaving := hkinds _ _ (hcreated.of_within hop).2
    simp [leaving] at hleaving

theorem created_of_foreign (h : ∃ dc, Created canonical d₀ site n body running networks tr dc)
    (hforeign : Foreign nameOf n e.op) :
    ∃ dc, Created canonical d₀ site n body running networks (tr ++ [e]) dc := by
  obtain ⟨dc, h⟩ := h
  exact ⟨dc, h.concat (fun _ => Docker.containers_of_foreign hforeign)
    (not_createdAt_of_foreign hforeign)⟩

/-! ## The networks of the deferred commands -/

/-- The networks that the commands connect, as far as they are allowed. -/
def connectedBy (commands : List (List String)) : Finset String :=
  (((commands.filter isAllowedCommand).filterMap connectTarget).map Prod.fst).toFinset

@[simp] theorem connectedBy_nil : connectedBy [] = ∅ := rfl

theorem connectedBy_concat_of_not_allowed {commands : List (List String)} {command : List String}
    (h : ¬ isAllowedCommand command) :
    connectedBy (commands ++ [command]) = connectedBy commands := by
  simp [connectedBy, h]

theorem connectedBy_concat_of_allowed {commands : List (List String)} {command : List String}
    {network name : String} (h : isAllowedCommand command)
    (htarget : connectTarget command = some (network, name)) :
    connectedBy (commands ++ [command]) = insert network (connectedBy commands) := by
  ext x
  simp [connectedBy, h, htarget]

theorem mem_connectedBy {commands : List (List String)} {network : String} :
    network ∈ connectedBy commands ↔ ∃ command ∈ commands, isAllowedCommand command ∧
      ∃ name, connectTarget command = some (network, name) := by
  simp only [connectedBy, List.mem_toFinset, List.mem_map, List.mem_filterMap, List.mem_filter]
  constructor
  · rintro ⟨⟨_, name⟩, ⟨command, ⟨hmem, hallowed⟩, htarget⟩, rfl⟩
    exact ⟨command, hmem, hallowed, name, htarget⟩
  · rintro ⟨command, hmem, hallowed, name, htarget⟩
    exact ⟨(network, name), ⟨command, ⟨hmem, hallowed⟩, htarget⟩, rfl⟩

end

end Tugtainer
