import Tugtainer.Container.Labels
import Tugtainer.Container.Start
import Tugtainer.Handover.Sources

/-!
# Containers through their updates

Every update creates the container again: from what inspect showed of the one before, and
from a new image. Inspect does not tell what the user has set from what the image brought
along, so each update decides anew what to hand on. `Inheritance` is what the decisions come
down to, apart from Docker: an environment and a user that are never given up, labels that
each new image overrides, and a working directory and a start command that are given up where
an image has the same ones. `inheritance_of_lineage` connects it to `getContainerConfig` and
`diffContainerConfigWithImage` over any number of updates and rollbacks, and the results
after it say what the last container has.
-/

namespace Tugtainer

open Python

/-! ## What inspect shows -/

def containerEnv (container : ContainerInspectResult) : Dict String String :=
  mapEnvToDict (container.config.getD {}).env

def imageEnv (image : ImageInspectResult) : Dict String String :=
  mapEnvToDict (image.config.bind ContainerConfig.env)

def containerUser (container : ContainerInspectResult) : Option String :=
  dropBlank (container.config.getD {}).user

def imageUser (image : ImageInspectResult) : Option String :=
  dropBlank (image.config.bind ContainerConfig.user)

def containerWorkdir (container : ContainerInspectResult) : Option String :=
  dropBlank (container.config.getD {}).workingDir

def imageWorkdir (image : ImageInspectResult) : Option String :=
  dropBlank (image.config.bind ContainerConfig.workingDir)

/-- What Docker shows of a container that it has created from the image and the
configuration: what is given takes the place of what the image has, item by item for the
environment and the labels, and a given entrypoint drops the command of the image. A working
directory is absolute, and no entrypoint starts with a blank word. -/
structure CreatedFrom (image : ImageInspectResult) (body : CreateContainerRequestBodySchema)
    (container : ContainerInspectResult) : Prop where
  imageConfig : image.config.isSome
  env : ∀ key, (containerEnv container).get? key =
    ((body.envs.getD []).get? key).or ((imageEnv image).get? key)
  label : ∀ key, (containerLabels container).get? key = effectiveLabel image body key
  user : containerUser container = (dropBlank body.user).or (imageUser image)
  workdir : containerWorkdir container = (dropBlank body.workdir).or (imageWorkdir image)
  absolute : containerWorkdir container ≠ some "."
  entrypoint : currentEntrypoint container =
    (body.entrypoint.map ([·])).getD (imageEntrypoint image)
  cmd : currentCmd container =
    (dropNil body.command).getD (if body.entrypoint.isSome then [] else imageCmd image)
  word : ∀ word ∈ (currentEntrypoint container).head?, isBlank word = false

/-! ## What is handed on -/

/-- The entrypoint and the command that are passed on, where they are not left to the
image. -/
structure Launch where
  entrypoint : Option String
  command : Option (List String)
  deriving DecidableEq

namespace Launch

def ofImage : Launch := ⟨none, none⟩

def passed (entrypoint cmd imageEntrypoint imageCmd : List String) : Launch :=
  ⟨dropBlank (entrypointAndCommand entrypoint cmd imageEntrypoint imageCmd).1,
    dropNil (entrypointAndCommand entrypoint cmd imageEntrypoint imageCmd).2⟩

/-- The entrypoint and the command of a container that is created with it. -/
def entrypointOn (image : ImageInspectResult) (launch : Launch) : List String :=
  (launch.entrypoint.map ([·])).getD (imageEntrypoint image)

def cmdOn (image : ImageInspectResult) (launch : Launch) : List String :=
  launch.command.getD (if launch.entrypoint.isSome then [] else imageCmd image)

def argv (image : ImageInspectResult) (launch : Launch) : List String :=
  dockerArgv (imageEntrypoint image) (imageCmd image) launch.entrypoint launch.command

def next (launch : Launch) (image : ImageInspectResult) : Launch :=
  passed (launch.entrypointOn image) (launch.cmdOn image) (imageEntrypoint image)
    (imageCmd image)

theorem passed_of_same {entrypoint cmd imageEntrypoint imageCmd : List String}
    (h : entrypoint = imageEntrypoint ∧ cmd = imageCmd) :
    passed entrypoint cmd imageEntrypoint imageCmd = ofImage := by
  unfold passed
  rw [entrypointAndCommand_same h]
  rfl

theorem passed_of_changed {entrypoint cmd imageEntrypoint imageCmd : List String}
    (h : ¬ (entrypoint = imageEntrypoint ∧ cmd = imageCmd)) {word : String}
    {words : List String} (hentrypoint : entrypoint = word :: words)
    (hword : isBlank word = false) :
    passed entrypoint cmd imageEntrypoint imageCmd =
      ⟨some word, dropNil (some (words ++ cmd))⟩ := by
  unfold passed
  rw [entrypointAndCommand_changed h hentrypoint, dropBlank_eq_some_iff.2 ⟨rfl, hword⟩]

theorem passed_of_command {cmd imageCmd : List String} (h : imageCmd ≠ cmd) :
    passed [] cmd [] imageCmd = ⟨none, dropNil (some cmd)⟩ := by
  unfold passed
  rw [entrypointAndCommand, if_pos (.inr h.symm)]
  rfl

theorem argv_own (image : ImageInspectResult) (word : String) (words : List String) :
    argv image ⟨some word, dropNil (some words)⟩ = word :: words :=
  (dockerArgv_dropNil _ _ _ _).trans (dockerArgv_entrypoint _ _ _ _)

theorem argv_command {image : ImageInspectResult} (himage : imageEntrypoint image = [])
    {cmd : List String} (hcmd : cmd ≠ []) : argv image ⟨none, dropNil (some cmd)⟩ = cmd := by
  rw [argv, himage]
  cases cmd with
  | nil => exact absurd rfl hcmd
  | cons word words => rfl

@[simp] theorem next_ofImage (image : ImageInspectResult) : ofImage.next image = ofImage :=
  passed_of_same ⟨rfl, rfl⟩

theorem foldl_next_ofImage (images : List ImageInspectResult) :
    images.foldl next ofImage = ofImage := by
  induction images with
  | nil => rfl
  | cons image images ih => rw [List.foldl_cons, next_ofImage, ih]

/-- An entrypoint that is passed on is given up for an image that has the same pair. -/
theorem next_own {word : String} (hword : isBlank word = false) (words : List String)
    (image : ImageInspectResult) :
    next ⟨some word, dropNil (some words)⟩ image =
      if imageEntrypoint image = [word] ∧ imageCmd image = words then ofImage
      else ⟨some word, dropNil (some words)⟩ := by
  have hcmd : cmdOn image ⟨some word, dropNil (some words)⟩ = words := getD_dropNil (some words)
  unfold next
  rw [hcmd]
  split
  · rename_i h
    exact passed_of_same ⟨h.1.symm, h.2.symm⟩
  · rename_i h
    have hown : entrypointOn image ⟨some word, dropNil (some words)⟩ = word :: [] := rfl
    exact passed_of_changed (fun hsame => h ⟨hsame.1.symm, hsame.2.symm⟩) hown hword

theorem foldl_next_own {word : String} (hword : isBlank word = false) (words : List String)
    (images : List ImageInspectResult) :
    images.foldl next ⟨some word, dropNil (some words)⟩ =
      if ∃ image ∈ images, imageEntrypoint image = [word] ∧ imageCmd image = words then ofImage
      else ⟨some word, dropNil (some words)⟩ := by
  induction images with
  | nil => simp
  | cons image images ih =>
      rw [List.foldl_cons, next_own hword]
      split
      · rename_i h
        rw [foldl_next_ofImage, if_pos ⟨image, List.mem_cons_self, h⟩]
      · rename_i h
        simp only [ih, List.exists_mem_cons_iff, h, false_or]

/-- A command alone is given up for an image that has the same one, as long as no image has
an entrypoint. -/
theorem next_command (cmd : List String) {image : ImageInspectResult}
    (himage : imageEntrypoint image = []) :
    next ⟨none, dropNil (some cmd)⟩ image =
      if imageCmd image = cmd then ofImage else ⟨none, dropNil (some cmd)⟩ := by
  have hentrypoint : entrypointOn image ⟨none, dropNil (some cmd)⟩ = [] := himage
  unfold next
  rw [hentrypoint, himage]
  cases cmd with
  | nil =>
      -- an empty command is not passed on
      have hcmd : cmdOn image ⟨none, dropNil (some [])⟩ = imageCmd image := rfl
      rw [hcmd, passed_of_same ⟨rfl, rfl⟩]
      exact (ite_self _).symm
  | cons word words =>
      split
      · rename_i h
        exact passed_of_same ⟨rfl, h.symm⟩
      · rename_i h
        exact passed_of_command h

theorem foldl_next_command (cmd : List String) {images : List ImageInspectResult}
    (himages : ∀ image ∈ images, imageEntrypoint image = []) :
    images.foldl next ⟨none, dropNil (some cmd)⟩ =
      if ∃ image ∈ images, imageCmd image = cmd then ofImage
      else ⟨none, dropNil (some cmd)⟩ := by
  induction images with
  | nil => simp
  | cons image images ih =>
      obtain ⟨himage, himages⟩ := List.forall_mem_cons.1 himages
      rw [List.foldl_cons, next_command cmd himage]
      split
      · rename_i h
        rw [foldl_next_ofImage, if_pos ⟨image, List.mem_cons_self, h⟩]
      · rename_i h
        simp only [ih himages, List.exists_mem_cons_iff, h, false_or]

end Launch

/-- What a container hands on to the next one of its name. -/
@[ext]
structure Inheritance where
  env : String → Option String
  label : String → Option String
  user : Option String
  workdir : Option String
  launch : Launch

/-- What the next one hands on, which is created from the image. -/
def Inheritance.update (inherited : Inheritance) (image : ImageInspectResult) : Inheritance where
  env key := (inherited.env key).or ((imageEnv image).get? key)
  label key :=
    (if isCliSafeKey key then (imageLabels image).get? key else none).or (inherited.label key)
  user := inherited.user.or (imageUser image)
  workdir := inherited.workdir.filter (imageWorkdir image ≠ some ·)
  launch := inherited.launch.next image

/-- A container and the image that it was created from. -/
structure Generation where
  image : ImageInspectResult
  container : ContainerInspectResult

namespace Generation

/-- The container has a value of its own wherever its image has one, as Docker shows every
container. `split` leaves out those that start the words of their image with another entrypoint
and command. -/
structure Complete (g : Generation) : Prop where
  imageConfig : g.image.config.isSome
  env : ∀ key, ((containerEnv g.container).get? key).or ((imageEnv g.image).get? key) =
    (containerEnv g.container).get? key
  label : ∀ key, ((containerLabels g.container).get? key).or ((imageLabels g.image).get? key) =
    (containerLabels g.container).get? key
  user : (containerUser g.container).or (imageUser g.image) = containerUser g.container
  workdir : (containerWorkdir g.container).or (imageWorkdir g.image) =
    containerWorkdir g.container
  absolute : containerWorkdir g.container ≠ some "."
  entrypoint : currentEntrypoint g.container = [] → imageEntrypoint g.image = []
  cmd : currentEntrypoint g.container = [] → currentCmd g.container = [] →
    imageCmd g.image = []
  word : ∀ word ∈ (currentEntrypoint g.container).head?, isBlank word = false
  split : ∀ word words, currentEntrypoint g.container = word :: words →
    imageEntrypoint g.image = [word] → imageCmd g.image = words ++ currentCmd g.container →
      words = []

/-- The words the container is started with. -/
def started (g : Generation) : List String :=
  currentEntrypoint g.container ++ currentCmd g.container

/-- What the container hands on, as its configuration is read. -/
def inheritance (g : Generation) : Inheritance where
  env key := (containerEnv g.container).get? key
  label key := if isCliSafeKey key then (containerLabels g.container).get? key else none
  user := containerUser g.container
  workdir := dropBlank (changedWorkdir (g.container.config.getD {}) g.image.config)
  launch := .passed (currentEntrypoint g.container) (currentCmd g.container)
    (imageEntrypoint g.image) (imageCmd g.image)

end Generation

/-- The containers of a name, from the first one on: each update creates one from a new
image, and each rollback one from the image before. -/
inductive Lineage (dockerVersion : Option DockerVersion) (first : Generation) :
    List ImageInspectResult → Generation → Prop where
  | first : Lineage dockerVersion first [] first
  | updated {images : List ImageInspectResult} {g : Generation}
      {cfg merged : CreateContainerRequestBodySchema} {commands : List (List String)}
      {newImage : ImageInspectResult} {container : ContainerInspectResult}
      (before : Lineage dockerVersion first images g)
      (hconfig : getContainerConfig g.container (some g.image) dockerVersion =
        .ok (cfg, commands))
      (hmerged : diffContainerConfigWithImage cfg newImage = .ok merged)
      (hcreated : CreatedFrom newImage merged container) :
      Lineage dockerVersion first (images ++ [newImage]) ⟨newImage, container⟩
  | rolledBack {images : List ImageInspectResult} {g : Generation}
      {cfg : CreateContainerRequestBodySchema} {commands : List (List String)}
      {container : ContainerInspectResult}
      (before : Lineage dockerVersion first images g)
      (hconfig : getContainerConfig g.container (some g.image) dockerVersion =
        .ok (cfg, commands))
      (hcreated : CreatedFrom g.image cfg container) :
      Lineage dockerVersion first images ⟨g.image, container⟩

/-! ## One generation -/

theorem dropBlank_normalizePath (value : Option String) :
    dropBlank (normalizePath value) = (dropBlank value).filter (· ≠ ".") := by
  ext path
  have hblank : isBlank path = false → path ≠ "" := by
    rintro h rfl
    exact absurd h (by decide)
  have hkept : normalizePath value = some path ↔ value = some path ∧ path ≠ "" ∧ path ≠ "." := by
    unfold normalizePath truthy
    split
    · rename_i h
      refine ⟨?_, And.left⟩
      rintro rfl
      simpa using h
    · rename_i h
      refine ⟨nofun, ?_⟩
      rintro ⟨rfl, hpath⟩
      simp [hpath] at h
  simp only [Option.filter_eq_some_iff, dropBlank_eq_some_iff, hkept,
    decide_eq_true_eq]
  grind

theorem dropBlank_changedWorkdir (config imageConfig : ContainerConfig) :
    dropBlank (changedWorkdir config (some imageConfig)) =
      ((dropBlank config.workingDir).filter (· ≠ ".")).filter
        (dropBlank imageConfig.workingDir ≠ some ·) := by
  unfold changedWorkdir
  dsimp only
  split
  · rename_i hne
    rw [dropBlank_normalizePath]
    refine (Handover.filter_eq_self fun path hpath => ?_).symm
    have hwd := (dropBlank_eq_some_iff.1 (Option.eq_some_of_filter_eq_some hpath)).1
    simp only [decide_eq_true_eq, ne_eq, dropBlank_eq_some_iff, not_and]
    exact fun heq => absurd (heq.trans hwd.symm) hne
  · rename_i heq
    rw [not_not.1 heq]
    refine (Option.filter_eq_none_iff.2 fun path hpath => ?_).symm
    simp [Option.eq_some_of_filter_eq_some hpath]

section

variable {g : Generation} {dockerVersion : Option DockerVersion}
  {cfg merged body : CreateContainerRequestBodySchema} {commands : List (List String)}
  {image newImage : ImageInspectResult} {container : ContainerInspectResult}

theorem Generation.inheritance_workdir (himage : g.image.config.isSome)
    (habsolute : containerWorkdir g.container ≠ some ".") :
    g.inheritance.workdir =
      (containerWorkdir g.container).filter (imageWorkdir g.image ≠ some ·) := by
  obtain ⟨imageConfig, hconfig⟩ := Option.isSome_iff_exists.1 himage
  have hself : (containerWorkdir g.container).filter (· ≠ ".") = containerWorkdir g.container :=
    Handover.filter_eq_self fun path hpath => by
      refine decide_eq_true ?_
      rintro rfl
      exact habsolute hpath
  unfold containerWorkdir at hself ⊢
  simp only [inheritance, imageWorkdir, hconfig, dropBlank_changedWorkdir, hself]
  rfl

theorem complete_of_createdFrom (h : CreatedFrom image body container) :
    Generation.Complete ⟨image, container⟩ := by
  have hentrypoint := h.entrypoint
  have hcmd := h.cmd
  refine
    { imageConfig := h.imageConfig
      env := fun key => by rw [h.env, Option.or_assoc, Option.or_self]
      label := fun key => by rw [h.label, effectiveLabel, Option.or_assoc, Option.or_self]
      user := by rw [h.user, Option.or_assoc, Option.or_self]
      workdir := by rw [h.workdir, Option.or_assoc, Option.or_self]
      absolute := h.absolute
      entrypoint := ?_
      cmd := ?_
      word := h.word
      split := ?_ }
  · intro hnil
    cases hbody : body.entrypoint with
    | none => rwa [hentrypoint, hbody] at hnil
    | some word => simp [hentrypoint, hbody] at hnil
  · intro hnil hempty
    cases hbody : body.entrypoint with
    | none =>
        simp only [hbody, Option.isSome_none, Bool.false_eq_true, if_false] at hcmd
        cases hcommand : dropNil body.command with
        | none => rwa [hcmd, hcommand] at hempty
        | some words =>
            have hwords : words = [] := by rwa [hcmd, hcommand] at hempty
            have hkept := (Option.filter_eq_some_iff.1 hcommand).2
            simp [hwords] at hkept
    | some word => simp [hentrypoint, hbody] at hnil
  · intro word words hcons himage _
    cases hbody : body.entrypoint with
    | none =>
        have hsame : word :: words = [word] := by
          rw [← himage, ← hcons, hentrypoint, hbody]
          rfl
        exact (List.cons.inj hsame).2
    | some own =>
        simp only [hentrypoint, hbody] at hcons
        exact (List.cons.inj hcons).2.symm

/-- The configuration says what is handed on. -/
structure HandsOn (g : Generation) (body : CreateContainerRequestBodySchema) : Prop where
  env : body.envs.getD [] = containerEnv g.container
  user : body.user = containerUser g.container
  workdir : body.workdir = g.inheritance.workdir
  launch : (⟨body.entrypoint, body.command⟩ : Launch) = g.inheritance.launch

theorem handsOn_of_getContainerConfig
    (h : getContainerConfig g.container (some g.image) dockerVersion = .ok (cfg, commands)) :
    HandsOn g cfg := by
  obtain ⟨hentrypoint, hcommand⟩ := entry_of_getContainerConfig h
  obtain ⟨spec, -, -, rfl, -⟩ := getContainerConfig_eq_ok h
  refine ⟨?_, rfl, rfl, by rw [hentrypoint, hcommand]; rfl⟩
  show (dropNil (some (mapEnvToDict (g.container.config.getD {}).env))).getD [] = _
  exact getD_dropNil _

theorem handsOn_of_diffContainerConfigWithImage
    (h : getContainerConfig g.container (some g.image) dockerVersion = .ok (cfg, commands))
    (hmerged : diffContainerConfigWithImage cfg newImage = .ok merged) : HandsOn g merged := by
  have hsame := eq_of_diffContainerConfigWithImage h hmerged
  have hcfg := handsOn_of_getContainerConfig h
  rw [← hsame] at hcfg
  exact ⟨hcfg.env, hcfg.user, hcfg.workdir, hcfg.launch⟩

theorem inheritance_of_handsOn (hbody : HandsOn g body)
    (hcreated : CreatedFrom image body container) :
    (⟨image, container⟩ : Generation).inheritance =
      { g.inheritance.update image with
        label := fun key => if isCliSafeKey key then effectiveLabel image body key else none } := by
  refine Inheritance.ext (funext fun key => ?_) (funext fun key => ?_) ?_ ?_ ?_
  · show (containerEnv container).get? key = _
    rw [hcreated.env, hbody.env]
    rfl
  · show (if isCliSafeKey key then (containerLabels container).get? key else none) = _
    rw [hcreated.label]
  · show containerUser container = _
    rw [hcreated.user, hbody.user, containerUser, dropBlank_dropBlank]
    rfl
  · have hworkdir : dropBlank body.workdir = g.inheritance.workdir := by
      rw [hbody.workdir]
      exact dropBlank_dropBlank _
    rw [Generation.inheritance_workdir hcreated.imageConfig hcreated.absolute]
    show (containerWorkdir container).filter (imageWorkdir image ≠ some ·) =
      g.inheritance.workdir.filter (imageWorkdir image ≠ some ·)
    rw [hcreated.workdir, hworkdir]
    cases g.inheritance.workdir with
    | none => cases imageWorkdir image <;> simp
    | some path => simp
  · have hcommand : dropNil body.command = body.command := by
      have hown : body.command = g.inheritance.launch.command :=
        congrArg Launch.command hbody.launch
      rw [hown]
      exact dropNil_dropNil _
    show Launch.passed (currentEntrypoint container) (currentCmd container) _ _ =
      g.inheritance.launch.next image
    rw [hcreated.entrypoint, hcreated.cmd, hcommand, ← hbody.launch]
    rfl

theorem Generation.launch_of_nil (hnil : currentEntrypoint g.container = [])
    (himage : imageEntrypoint g.image = []) :
    g.inheritance.launch =
      .passed [] (currentCmd g.container) [] (imageCmd g.image) := by
  show Launch.passed _ _ _ _ = _
  rw [hnil, himage]

theorem Generation.Complete.next_launch (hg : g.Complete) :
    g.inheritance.launch.next g.image = g.inheritance.launch := by
  by_cases hsame : currentEntrypoint g.container = imageEntrypoint g.image ∧
      currentCmd g.container = imageCmd g.image
  · have hlaunch : g.inheritance.launch = .ofImage := Launch.passed_of_same hsame
    rw [hlaunch, Launch.next_ofImage]
  · cases hentrypoint : currentEntrypoint g.container with
    | nil =>
        have himage := hg.entrypoint hentrypoint
        have hcmd : imageCmd g.image ≠ currentCmd g.container := fun h =>
          hsame ⟨hentrypoint.trans himage.symm, h.symm⟩
        rw [Generation.launch_of_nil hentrypoint himage, Launch.passed_of_command hcmd,
          Launch.next_command _ himage, if_neg hcmd]
    | cons word words =>
        have hword : isBlank word = false := hg.word word (by rw [hentrypoint]; rfl)
        have hlaunch : g.inheritance.launch =
            ⟨some word, dropNil (some (words ++ currentCmd g.container))⟩ :=
          Launch.passed_of_changed hsame hentrypoint hword
        rw [hlaunch, Launch.next_own hword, if_neg]
        rintro ⟨himage, hcmd⟩
        have hwords := hg.split word words hentrypoint himage hcmd
        subst hwords
        exact hsame ⟨hentrypoint.trans himage.symm, hcmd.symm⟩

theorem inheritance_of_updated
    (hconfig : getContainerConfig g.container (some g.image) dockerVersion = .ok (cfg, commands))
    (hmerged : diffContainerConfigWithImage cfg newImage = .ok merged)
    (hcreated : CreatedFrom newImage merged container) :
    (⟨newImage, container⟩ : Generation).inheritance = g.inheritance.update newImage := by
  rw [inheritance_of_handsOn (handsOn_of_diffContainerConfigWithImage hconfig hmerged) hcreated]
  refine Inheritance.ext rfl (funext fun key => ?_) rfl rfl rfl
  show (if isCliSafeKey key then _ else none) =
    (if isCliSafeKey key then _ else none).or (if isCliSafeKey key then _ else none)
  split
  · rename_i hsafe
    rw [effectiveLabel_of_merged hconfig hmerged hsafe]
  · rfl

theorem inheritance_of_rolledBack (hg : g.Complete)
    (hconfig : getContainerConfig g.container (some g.image) dockerVersion = .ok (cfg, commands))
    (hcreated : CreatedFrom g.image cfg container) :
    (⟨g.image, container⟩ : Generation).inheritance = g.inheritance := by
  rw [inheritance_of_handsOn (handsOn_of_getContainerConfig hconfig) hcreated]
  refine Inheritance.ext (funext fun key => hg.env key) (funext fun key => ?_) hg.user ?_
    hg.next_launch
  · show (if isCliSafeKey key then _ else none) = if isCliSafeKey key then _ else none
    split
    · rename_i hsafe
      rw [effectiveLabel, labels_of_getContainerConfig hconfig, if_pos hsafe, hg.label]
    · rfl
  · show g.inheritance.workdir.filter (imageWorkdir g.image ≠ some ·) = _
    rw [Generation.inheritance_workdir hg.imageConfig hg.absolute, Option.filter_filter]
    simp only [Bool.and_self]

end

/-! ## A lineage -/

section

variable {dockerVersion : Option DockerVersion} {first last : Generation}
  {images : List ImageInspectResult}

theorem inheritance_of_lineage (lineage : Lineage dockerVersion first images last)
    (hfirst : first.Complete) :
    last.Complete ∧ last.inheritance = images.foldl Inheritance.update first.inheritance := by
  induction lineage with
  | first => exact ⟨hfirst, rfl⟩
  | updated _ hconfig hmerged hcreated ih =>
      refine ⟨complete_of_createdFrom hcreated, ?_⟩
      rw [inheritance_of_updated hconfig hmerged hcreated, ih.2, List.foldl_concat]
  | rolledBack _ hconfig hcreated ih =>
      refine ⟨complete_of_createdFrom hcreated, ?_⟩
      rw [inheritance_of_rolledBack ih.1 hconfig hcreated, ih.2]

theorem image_mem_of_lineage (lineage : Lineage dockerVersion first images last) :
    last.image ∈ first.image :: images := by
  induction lineage with
  | first => exact List.mem_cons_self
  | updated => simp
  | rolledBack _ _ _ ih => exact ih

/-- What the user has set and what the images have set are one to the updates. A variable and
the user keep the value that was there first, be it that of an old image, and a label has the
value of the newest image that has it, be it one that the user has set to another value. -/
theorem values_of_lineage (lineage : Lineage dockerVersion first images last)
    (hfirst : first.Complete) :
    (∀ key, (containerEnv last.container).get? key =
      ((containerEnv first.container).get? key).or
        (images.findSome? fun image => (imageEnv image).get? key)) ∧
    (∀ key, isCliSafeKey key = true → (containerLabels last.container).get? key =
      (images.reverse.findSome? fun image => (imageLabels image).get? key).or
        ((containerLabels first.container).get? key)) ∧
    containerUser last.container =
      (containerUser first.container).or (images.findSome? imageUser) := by
  have hlast := (inheritance_of_lineage lineage hfirst).2
  refine ⟨fun key => ?_, fun key hsafe => ?_, ?_⟩
  · calc (containerEnv last.container).get? key
        = (images.foldl Inheritance.update first.inheritance).env key :=
          congrFun (congrArg Inheritance.env hlast) key
      _ = images.foldl (fun v image => v.or ((imageEnv image).get? key))
            ((containerEnv first.container).get? key) :=
          Handover.read_foldl (Inheritance.env · key) (fun _ _ => rfl) _ _
      _ = _ := Handover.foldl_or _ _ _
  · have hlabel (g : Generation) :
        g.inheritance.label key = (containerLabels g.container).get? key := if_pos hsafe
    calc (containerLabels last.container).get? key
        = (images.foldl Inheritance.update first.inheritance).label key := by
          rw [← hlabel, hlast]
      _ = images.foldl (fun v image => ((imageLabels image).get? key).or v)
            (first.inheritance.label key) := by
          refine Handover.read_foldl (Inheritance.label · key) (fun _ _ => ?_) _ _
          simp only [Inheritance.update, hsafe, if_true]
      _ = _ := by rw [Handover.foldl_or_rev, hlabel]
  · calc containerUser last.container
        = (images.foldl Inheritance.update first.inheritance).user :=
          congrArg Inheritance.user hlast
      _ = images.foldl (fun v image => v.or (imageUser image)) (containerUser first.container) :=
          Handover.read_foldl Inheritance.user (fun _ _ => rfl) _ _
      _ = _ := Handover.foldl_or _ _ _

/-- What a container starts is what is passed on of it starts from the same image. -/
theorem Generation.Complete.started_eq {g : Generation} (hg : g.Complete) :
    g.started = g.inheritance.launch.argv g.image := by
  have hargv : g.inheritance.launch.argv g.image =
      dockerArgv (imageEntrypoint g.image) (imageCmd g.image)
        (dropBlank (entrypointAndCommand (currentEntrypoint g.container)
          (currentCmd g.container) (imageEntrypoint g.image) (imageCmd g.image)).1)
        (entrypointAndCommand (currentEntrypoint g.container)
          (currentCmd g.container) (imageEntrypoint g.image) (imageCmd g.image)).2 :=
    dockerArgv_dropNil _ _ _ _
  rw [hargv]
  cases hentrypoint : currentEntrypoint g.container with
  | nil =>
      rw [Generation.started, hentrypoint, hg.entrypoint hentrypoint]
      by_cases hcmd : currentCmd g.container = []
      · rw [hcmd, hg.cmd hentrypoint hcmd]
        rfl
      · exact (dockerArgv_entrypointAndCommand_nil hcmd).symm
  | cons word words =>
      have hword : isBlank word = false := hg.word word (by rw [hentrypoint]; rfl)
      rw [dockerArgv_entrypointAndCommand rfl hword, ← hentrypoint]
      split
      · rename_i hsame
        rw [Generation.started, hsame.1, hsame.2]
      · rfl

theorem Generation.Complete.workdir_eq {g : Generation} (hg : g.Complete) :
    containerWorkdir g.container = g.inheritance.workdir.or (imageWorkdir g.image) := by
  rw [Generation.inheritance_workdir hg.imageConfig hg.absolute,
    Handover.or_filter_ne hg.workdir]

theorem workdir_of_lineage (lineage : Lineage dockerVersion first images last)
    (hfirst : first.Complete) :
    containerWorkdir last.container =
      if containerWorkdir first.container = imageWorkdir first.image ∨
          ∃ image ∈ images, imageWorkdir image = containerWorkdir first.container then
        imageWorkdir last.image
      else containerWorkdir first.container := by
  obtain ⟨hcomplete, hlast⟩ := inheritance_of_lineage lineage hfirst
  have hworkdir : last.inheritance.workdir =
      first.inheritance.workdir.filter fun path =>
        images.all fun image => imageWorkdir image ≠ some path := by
    rw [hlast, ← Handover.foldl_filter]
    exact Handover.read_foldl Inheritance.workdir (fun _ _ => rfl) _ _
  rw [hcomplete.workdir_eq, hworkdir,
    Generation.inheritance_workdir hfirst.imageConfig hfirst.absolute, Option.filter_filter]
  have hself := hfirst.workdir
  cases hown : containerWorkdir first.container with
  | none =>
      have himage : imageWorkdir first.image = none := by simpa [hown] using hself
      rw [if_pos (.inl himage.symm)]
      rfl
  | some path =>
      split
      · rename_i h
        rw [Option.filter_some_neg, Option.none_or]
        rw [Bool.and_eq_false_iff, List.all_eq_false]
        rcases h with h | ⟨image, hmem, himage⟩
        · exact .inl (by simp [← h])
        · exact .inr ⟨image, hmem, by simp [himage]⟩
      · rename_i h
        obtain ⟨hne, hnone⟩ := not_or.1 h
        rw [Option.filter_some_pos, Option.some_or]
        simp only [Bool.and_eq_true, List.all_eq_true, decide_eq_true_eq]
        exact ⟨fun himage => hne himage.symm, fun image hmem himage => hnone ⟨image, hmem, himage⟩⟩

theorem launch_of_lineage (lineage : Lineage dockerVersion first images last)
    (hfirst : first.Complete) :
    last.started = (images.foldl Launch.next first.inheritance.launch).argv last.image := by
  obtain ⟨hcomplete, hlast⟩ := inheritance_of_lineage lineage hfirst
  rw [hcomplete.started_eq, hlast]
  exact congrArg (Launch.argv last.image)
    (Handover.read_foldl Inheritance.launch (fun _ _ => rfl) _ _)

/-- A working directory and a start command that the user has set are kept until a new image
has the same ones, and from then on each image brings its own along, as if they had never
been set. An entrypoint of several words is compared as Docker's command line takes it, its
first word apart from the rest. -/
theorem started_of_lineage (lineage : Lineage dockerVersion first images last)
    (hfirst : first.Complete) :
    containerWorkdir last.container =
      (if containerWorkdir first.container = imageWorkdir first.image ∨
          ∃ image ∈ images, imageWorkdir image = containerWorkdir first.container then
        imageWorkdir last.image
      else containerWorkdir first.container) ∧
    (∀ word words, currentEntrypoint first.container = word :: words →
      last.started =
        if currentEntrypoint first.container = imageEntrypoint first.image ∧
              currentCmd first.container = imageCmd first.image ∨
            ∃ image ∈ images, imageEntrypoint image = [word] ∧
              imageCmd image = words ++ currentCmd first.container then
          imageEntrypoint last.image ++ imageCmd last.image
        else first.started) ∧
    (currentEntrypoint first.container = [] → (∀ image ∈ images, imageEntrypoint image = []) →
      last.started =
        if ∃ image ∈ first.image :: images, imageCmd image = currentCmd first.container then
          imageCmd last.image
        else first.started) := by
  refine ⟨workdir_of_lineage lineage hfirst, fun word words hcons => ?_, fun hnil himages => ?_⟩
  · have hword : isBlank word = false := hfirst.word word (by rw [hcons]; rfl)
    rw [launch_of_lineage lineage hfirst]
    by_cases hsame : currentEntrypoint first.container = imageEntrypoint first.image ∧
        currentCmd first.container = imageCmd first.image
    · have hlaunch : first.inheritance.launch = .ofImage := Launch.passed_of_same hsame
      rw [hlaunch, Launch.foldl_next_ofImage, if_pos (.inl hsame)]
      rfl
    · have hlaunch : first.inheritance.launch =
          ⟨some word, dropNil (some (words ++ currentCmd first.container))⟩ :=
        Launch.passed_of_changed hsame hcons hword
      rw [hlaunch, Launch.foldl_next_own hword]
      simp only [hsame, false_or]
      split
      · rfl
      · rw [Launch.argv_own, Generation.started, hcons, List.cons_append]
  · have hlastImage : imageEntrypoint last.image = [] := by
      rcases List.mem_cons.1 (image_mem_of_lineage lineage) with himage | hmem
      · rw [himage, hfirst.entrypoint hnil]
      · exact himages _ hmem
    rw [launch_of_lineage lineage hfirst]
    have hstarted : first.started = currentCmd first.container := by
      rw [Generation.started, hnil, List.nil_append]
    have hpassed := Generation.launch_of_nil hnil (hfirst.entrypoint hnil)
    have hofImage : Launch.ofImage.argv last.image = imageCmd last.image := by
      show imageEntrypoint last.image ++ imageCmd last.image = _
      rw [hlastImage, List.nil_append]
    simp only [List.exists_mem_cons_iff]
    by_cases hsame : imageCmd first.image = currentCmd first.container
    · rw [hpassed, Launch.passed_of_same ⟨rfl, hsame.symm⟩, Launch.foldl_next_ofImage,
        if_pos (.inl hsame), hofImage]
    · have hcmd : currentCmd first.container ≠ [] := fun h =>
        hsame ((hfirst.cmd hnil h).trans h.symm)
      rw [hpassed, Launch.passed_of_command hsame, Launch.foldl_next_command _ himages]
      simp only [hsame, false_or]
      split
      · exact hofImage
      · rw [Launch.argv_command hlastImage hcmd, hstarted]

end

def releaseImage (env cmd : String) : ImageInspectResult where
  config := some { env := some [env], cmd := some (.str cmd), workingDir := some "/app" }

def releaseContainer (env cmd : String) : ContainerInspectResult where
  name := "web"
  config := some
    { image := some "app:latest", env := some [env], cmd := some (.str cmd)
      workingDir := some "/app" }
  name_nonblank := isBlank_web

/-- A container with nothing of its own, and the one that is created when its image has another
variable and another command. -/
def firstRelease : Generation where
  image := releaseImage "VERSION=1" "serve"
  container := releaseContainer "VERSION=1" "serve"

def nextRelease : Generation where
  image := releaseImage "VERSION=2" "run"
  container := releaseContainer "VERSION=1" "run"

theorem lineage_nextRelease : Lineage none firstRelease [nextRelease.image] nextRelease := by
  show Lineage none firstRelease ([] ++ [nextRelease.image]) nextRelease
  refine .updated .first rfl rfl
    ⟨rfl, fun key => ?_, fun _ => rfl, rfl, rfl, by decide, rfl, rfl, nofun⟩
  show Dict.get? [("VERSION", "1")] key =
    (Dict.get? [("VERSION", "1")] key).or (Dict.get? [("VERSION", "2")] key)
  by_cases hkey : "VERSION" = key <;> simp [Dict.get?_cons, hkey]

theorem complete_firstRelease : firstRelease.Complete :=
  ⟨rfl, fun _ => Option.or_self, fun _ => rfl, rfl, rfl, by decide, fun _ => rfl, by decide, nofun,
    nofun⟩

/-- The variable of the old image is kept. -/
theorem values_of_lineage_nextRelease :
    (∀ key, (containerEnv nextRelease.container).get? key =
      ((containerEnv firstRelease.container).get? key).or
        ([nextRelease.image].findSome? fun image => (imageEnv image).get? key)) ∧
    (∀ key, isCliSafeKey key = true → (containerLabels nextRelease.container).get? key =
      ([nextRelease.image].reverse.findSome? fun image => (imageLabels image).get? key).or
        ((containerLabels firstRelease.container).get? key)) ∧
    containerUser nextRelease.container =
      (containerUser firstRelease.container).or ([nextRelease.image].findSome? imageUser) :=
  values_of_lineage lineage_nextRelease complete_firstRelease

/-- The new container has the working directory and the command of the new image. -/
theorem started_of_lineage_nextRelease :
    containerWorkdir nextRelease.container = imageWorkdir nextRelease.image ∧
      nextRelease.started = imageCmd nextRelease.image := by
  obtain ⟨hworkdir, -, hstarted⟩ := started_of_lineage lineage_nextRelease complete_firstRelease
  have hnone : ∀ image ∈ [nextRelease.image], imageEntrypoint image = [] := by
    simp [nextRelease, releaseImage, imageEntrypoint, toList]
  exact ⟨hworkdir.trans (if_pos (.inl rfl)),
    (hstarted rfl hnone).trans (if_pos ⟨_, List.mem_cons_self, rfl⟩)⟩

end Tugtainer
