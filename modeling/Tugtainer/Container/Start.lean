import Tugtainer.Container.Config

/-!
# What a recreated container starts

The entrypoint and the command of a configuration say what is started only together with
the defaults of the image. `getContainerConfig` compares the container's own pair with that
of its image and leaves an equal pair out, so that a new image brings its own along;
`startedArgv_of_getContainerConfig` says what both images start.
-/

namespace Tugtainer

open Python

/-! ## What Docker starts -/

/-- The words Docker starts a container with. A given entrypoint replaces that of the image
and drops its command, a given command alone replaces the command; an empty command is
not given. -/
def dockerArgv (imageEntrypoint imageCmd : List String) (entrypoint : Option String)
    (command : Option (List String)) : List String :=
  match entrypoint, dropNil command with
  | some entrypoint, command => entrypoint :: command.getD []
  | none, some command => imageEntrypoint ++ command
  | none, none => imageEntrypoint ++ imageCmd

def currentEntrypoint (container : ContainerInspectResult) : List String :=
  toList (container.config.getD {}).entrypoint

def currentCmd (container : ContainerInspectResult) : List String :=
  toList (container.config.getD {}).cmd

def imageEntrypoint (image : ImageInspectResult) : List String :=
  toList (image.config.bind ContainerConfig.entrypoint)

def imageCmd (image : ImageInspectResult) : List String :=
  toList (image.config.bind ContainerConfig.cmd)

/-- What a container starts that is created from the image and the configuration. -/
def ImageInspectResult.startedArgv (image : ImageInspectResult)
    (cfg : CreateContainerRequestBodySchema) : List String :=
  dockerArgv (imageEntrypoint image) (imageCmd image) cfg.entrypoint cfg.command

/-! ## The pair that is passed -/

@[simp] theorem dockerArgv_dropNil (imageEntrypoint imageCmd : List String)
    (entrypoint : Option String) (command : Option (List String)) :
    dockerArgv imageEntrypoint imageCmd entrypoint (dropNil command) =
      dockerArgv imageEntrypoint imageCmd entrypoint command := by
  simp [dockerArgv]

theorem dockerArgv_entrypoint (imageEntrypoint imageCmd : List String) (entrypoint : String)
    (command : List String) :
    dockerArgv imageEntrypoint imageCmd (some entrypoint) (some command) =
      entrypoint :: command := by
  cases command with
  | nil => rfl
  | cons word words => rfl

section Pair

variable {entrypoint cmd oldEntrypoint oldCmd : List String}

theorem entrypointAndCommand_same (h : entrypoint = oldEntrypoint ∧ cmd = oldCmd) :
    entrypointAndCommand entrypoint cmd oldEntrypoint oldCmd = (none, none) := by
  unfold entrypointAndCommand
  rw [if_neg]
  rintro (hne | hne)
  · exact hne h.1
  · exact hne h.2

theorem entrypointAndCommand_changed (h : ¬ (entrypoint = oldEntrypoint ∧ cmd = oldCmd))
    {word : String} {words : List String} (hentrypoint : entrypoint = word :: words) :
    entrypointAndCommand entrypoint cmd oldEntrypoint oldCmd =
      (some word, some (words ++ cmd)) := by
  subst hentrypoint
  rw [entrypointAndCommand, if_pos (not_and_or.1 h)]

/-- With an entrypoint whose first word is not blank, the pair is what any image starts,
unless it is the pair of the old image and left out. -/
theorem dockerArgv_entrypointAndCommand {word : String} {words : List String}
    (hentrypoint : entrypoint = word :: words) (hword : isBlank word = false)
    (newEntrypoint newCmd : List String) :
    dockerArgv newEntrypoint newCmd
        (dropBlank (entrypointAndCommand entrypoint cmd oldEntrypoint oldCmd).1)
        (entrypointAndCommand entrypoint cmd oldEntrypoint oldCmd).2 =
      if entrypoint = oldEntrypoint ∧ cmd = oldCmd then newEntrypoint ++ newCmd
      else entrypoint ++ cmd := by
  by_cases h : entrypoint = oldEntrypoint ∧ cmd = oldCmd
  · rw [entrypointAndCommand_same h, if_pos h]
    rfl
  · have hsome : dropBlank (some word) = some word := dropBlank_eq_some_iff.2 ⟨rfl, hword⟩
    rw [entrypointAndCommand_changed h hentrypoint, if_neg h, hsome, dockerArgv_entrypoint,
      hentrypoint, List.cons_append]

theorem dockerArgv_entrypointAndCommand_nil (hcmd : cmd ≠ []) :
    dockerArgv [] oldCmd (dropBlank (entrypointAndCommand [] cmd [] oldCmd).1)
      (entrypointAndCommand [] cmd [] oldCmd).2 = cmd := by
  by_cases h : cmd = oldCmd
  · rw [entrypointAndCommand_same ⟨rfl, h⟩, h]
    rfl
  · rw [entrypointAndCommand, if_pos (.inr h)]
    cases cmd with
    | nil => exact absurd rfl hcmd
    | cons word words => rfl

end Pair

/-! ## The configuration and the merge -/

section Config

variable {container : ContainerInspectResult} {image : ImageInspectResult}
  {dockerVersion : Option DockerVersion} {cfg : CreateContainerRequestBodySchema}
  {commands : List (List String)}

/-- The pair of the configuration is the one that is passed, without empty values. -/
theorem entry_of_getContainerConfig
    (h : getContainerConfig container (some image) dockerVersion = .ok (cfg, commands)) :
    let entry := entrypointAndCommand (currentEntrypoint container) (currentCmd container)
      (imageEntrypoint image) (imageCmd image)
    cfg.entrypoint = dropBlank entry.1 ∧ cfg.command = dropNil entry.2 := by
  obtain ⟨spec, -, -, rfl, -⟩ := getContainerConfig_eq_ok h
  exact ⟨rfl, rfl⟩

theorem entry_of_diffContainerConfigWithImage {merged : CreateContainerRequestBodySchema}
    {newImage : ImageInspectResult} (h : diffContainerConfigWithImage cfg newImage = .ok merged)
    {entrypoint : Option String} {command : Option (List String)}
    (hentrypoint : cfg.entrypoint = dropBlank entrypoint)
    (hcommand : cfg.command = dropNil command) :
    merged.entrypoint = dropBlank entrypoint ∧ merged.command = dropNil command := by
  rcases diffContainerConfigWithImage_eq_ok h with ⟨rfl, -⟩ | ⟨imageConfig, -, rfl⟩
  · exact ⟨hentrypoint, hcommand⟩
  · constructor
    · calc dropBlank cfg.entrypoint = dropBlank (dropBlank entrypoint) := by rw [hentrypoint]
        _ = dropBlank entrypoint := dropBlank_dropBlank entrypoint
    · calc dropNil cfg.command = dropNil (dropNil command) := by rw [hcommand]
        _ = dropNil command := dropNil_dropNil command

/-- The old image starts what the container was started with, and so does every new image
unless the pair was that of the old one. -/
theorem startedArgv_of_getContainerConfig
    (h : getContainerConfig container (some image) dockerVersion = .ok (cfg, commands))
    (hentry : (∃ word words, currentEntrypoint container = word :: words ∧ isBlank word = false) ∨
      currentEntrypoint container = [] ∧ imageEntrypoint image = [] ∧ currentCmd container ≠ []) :
    image.startedArgv cfg = currentEntrypoint container ++ currentCmd container ∧
      (currentEntrypoint container ≠ [] → ∀ newImage, ∃ merged,
        diffContainerConfigWithImage cfg newImage = .ok merged ∧
          newImage.startedArgv merged =
            if currentEntrypoint container = imageEntrypoint image ∧
                currentCmd container = imageCmd image then
              imageEntrypoint newImage ++ imageCmd newImage
            else currentEntrypoint container ++ currentCmd container) := by
  obtain ⟨hentrypoint, hcommand⟩ := entry_of_getContainerConfig h
  rcases hentry with ⟨word, words, hcons, hword⟩ | ⟨hnil, himage, hcmd⟩
  · constructor
    · rw [ImageInspectResult.startedArgv, hentrypoint, hcommand, dockerArgv_dropNil,
        dockerArgv_entrypointAndCommand hcons hword]
      split
      · rename_i heq
        rw [heq.1, heq.2]
      · rfl
    · intro _ newImage
      obtain ⟨merged, hmerged⟩ :=
        diffContainerConfigWithImage_isOk (getContainerConfig_ok h).2.1 newImage
      obtain ⟨hentrypoint', hcommand'⟩ :=
        entry_of_diffContainerConfigWithImage hmerged hentrypoint hcommand
      refine ⟨merged, hmerged, ?_⟩
      rw [ImageInspectResult.startedArgv, hentrypoint', hcommand', dockerArgv_dropNil]
      exact dockerArgv_entrypointAndCommand hcons hword _ _
  · refine ⟨?_, fun hne => absurd hnil hne⟩
    rw [ImageInspectResult.startedArgv, hentrypoint, hcommand, dockerArgv_dropNil, hnil, himage]
    exact dockerArgv_entrypointAndCommand_nil hcmd

end Config

def shellContainer : ContainerInspectResult where
  name := "web"
  config := some
    { image := some "shell:1"
      entrypoint := some (.list ["sh", "-c"])
      cmd := some (.str "serve") }
  name_nonblank := isBlank_web

/-- An image with the same entrypoint as `shellContainer` and a command. -/
def shellImage (cmd : String) : ImageInspectResult where
  config := some { entrypoint := some (.list ["sh", "-c"]), cmd := some (.str cmd) }

/-- `shellContainer` starts its own command from both images. -/
theorem startedArgv_shellContainer :
    ∃ cfg commands,
      getContainerConfig shellContainer (some (shellImage "help")) none = .ok (cfg, commands) ∧
      (shellImage "help").startedArgv cfg = ["sh", "-c", "serve"] ∧
      ∃ merged, diffContainerConfigWithImage cfg (shellImage "usage") = .ok merged ∧
        (shellImage "usage").startedArgv merged = ["sh", "-c", "serve"] := by
  have hcfg : getContainerConfig shellContainer (some (shellImage "help")) none = .ok (_, _) := rfl
  obtain ⟨hold, hnew⟩ :=
    startedArgv_of_getContainerConfig hcfg (.inl ⟨"sh", ["-c"], rfl, by decide⟩)
  exact ⟨_, _, rfl, hold, hnew (by decide) (shellImage "usage")⟩

end Tugtainer
