import Tugtainer.Container.Config

/-!
# The labels of a recreated container

An inspected container shows the labels of its image and its own ones in one dictionary.
`diffContainerConfigWithImage` passes on those whose keys the new image does not have, so a
label is lost where the new image has another value for its key: `keepsLabels_iff`.
-/

namespace Tugtainer

open Python

def imageLabels (image : ImageInspectResult) : Dict String String :=
  (image.config.bind ContainerConfig.labels).getD []

/-- The labels of a container that is created from the image: its own ones override those
of the image. -/
def effectiveLabel (image : ImageInspectResult) (body : CreateContainerRequestBodySchema)
    (key : String) : Option String :=
  ((body.labels.getD []).get? key).or ((imageLabels image).get? key)

/-- Every label that the command line takes and that is not one of the old image is a label
of the new container. -/
def KeepsLabels (container : ContainerInspectResult) (image newImage : ImageInspectResult)
    (body : CreateContainerRequestBodySchema) : Prop :=
  ∀ key value, (containerLabels container).get? key = some value → isCliSafeKey key = true →
    (imageLabels image).get? key ≠ some value → effectiveLabel newImage body key = some value

/-- The new image has no other value for such a label. -/
def LabelsAgree (container : ContainerInspectResult) (image newImage : ImageInspectResult) :
    Prop :=
  ∀ key value, (containerLabels container).get? key = some value → isCliSafeKey key = true →
    (imageLabels image).get? key ≠ some value →
      ∀ newValue, (imageLabels newImage).get? key = some newValue → newValue = value

section

variable {container : ContainerInspectResult} {image newImage : ImageInspectResult}
  {dockerVersion : Option DockerVersion} {cfg merged : CreateContainerRequestBodySchema}
  {commands : List (List String)}

theorem labels_of_getContainerConfig {image : Option ImageInspectResult}
    (h : getContainerConfig container image dockerVersion = .ok (cfg, commands)) (key : String) :
    (cfg.labels.getD []).get? key =
      if isCliSafeKey key then (containerLabels container).get? key else none := by
  obtain ⟨spec, -, -, rfl, -⟩ := getContainerConfig_eq_ok h
  have hlabels : (container.config.getD {}).labels.getD [] = containerLabels container := by
    unfold containerLabels
    cases container.config <;> rfl
  calc Dict.get? ((dropNil (some (filterCliSafeLabels
          ((container.config.getD {}).labels.getD [])).1)).getD []) key
      = ((containerLabels container).filterKeys isCliSafeKey).get? key := by
        rw [getD_dropNil, hlabels]
        rfl
    _ = _ := Dict.get?_filterKeys _ _ _

/-- The merged configuration has those of them whose keys the new image does not have. -/
theorem labels_of_diffContainerConfigWithImage
    (h : diffContainerConfigWithImage cfg newImage = .ok merged) (key : String) :
    (merged.labels.getD []).get? key =
      if ((imageLabels newImage).get? key).isNone then (cfg.labels.getD []).get? key
      else none := by
  rcases diffContainerConfigWithImage_eq_ok h with ⟨rfl, hnone⟩ | ⟨imageConfig, hsome, rfl⟩
  · simp [imageLabels, hnone]
  · have hlabels : imageLabels newImage = imageConfig.labels.getD [] := by
      rw [imageLabels, hsome]
      rfl
    calc Dict.get? ((dropNil (some (subtractDict (cfg.labels.getD [])
            (imageConfig.labels.getD [])))).getD []) key
        = (subtractDict (cfg.labels.getD []) (imageLabels newImage)).get? key := by
          rw [getD_dropNil, hlabels]
          rfl
      _ = _ := Dict.get?_filterKeys _ _ _

theorem eq_of_diffContainerConfigWithImage {image : Option ImageInspectResult}
    (h : getContainerConfig container image dockerVersion = .ok (cfg, commands))
    (hmerged : diffContainerConfigWithImage cfg newImage = .ok merged) :
    { merged with labels := cfg.labels } = cfg := by
  obtain ⟨spec, -, -, rfl, -⟩ := getContainerConfig_eq_ok h
  rcases diffContainerConfigWithImage_eq_ok hmerged with ⟨rfl, -⟩ | ⟨imageConfig, -, rfl⟩
  · rfl
  · simp [CreateContainerRequestBodySchema.dropEmptyKeys]

/-- A label that the command line takes is that of the new image, if it has one. -/
theorem effectiveLabel_of_merged {image : Option ImageInspectResult}
    (h : getContainerConfig container image dockerVersion = .ok (cfg, commands))
    (hmerged : diffContainerConfigWithImage cfg newImage = .ok merged) {key : String}
    (hsafe : isCliSafeKey key = true) :
    effectiveLabel newImage merged key =
      ((imageLabels newImage).get? key).or ((containerLabels container).get? key) := by
  rw [effectiveLabel, labels_of_diffContainerConfigWithImage hmerged,
    labels_of_getContainerConfig h, if_pos hsafe]
  cases (imageLabels newImage).get? key with
  | none => simp
  | some newValue => simp

/-- The recreated container keeps the labels if and only if the new image has no other value
for one of them, and the merge leaves everything else as it is. -/
theorem keepsLabels_iff
    (h : getContainerConfig container (some image) dockerVersion = .ok (cfg, commands))
    (newImage : ImageInspectResult) :
    (∃ merged, diffContainerConfigWithImage cfg newImage = .ok merged ∧
        KeepsLabels container image newImage merged ∧ { merged with labels := cfg.labels } = cfg) ↔
      LabelsAgree container image newImage := by
  obtain ⟨merged, hmerged⟩ :=
    diffContainerConfigWithImage_isOk (getContainerConfig_ok h).2.1 newImage
  have hkeeps : KeepsLabels container image newImage merged ↔
      LabelsAgree container image newImage := by
    refine forall₂_congr fun key value => forall₂_congr fun hvalue hsafe => ?_
    rw [effectiveLabel_of_merged h hmerged hsafe, hvalue]
    cases (imageLabels newImage).get? key with
    | none => simp
    | some newValue => simp
  rw [← hkeeps]
  constructor
  · rintro ⟨_, hmerged', hkept, -⟩
    cases hmerged.symm.trans hmerged'
    exact hkept
  · intro hkept
    exact ⟨merged, hmerged, hkept, eq_of_diffContainerConfigWithImage h hmerged⟩

end

/-- A container whose user has set a label that its image has, too. -/
def routedContainer : ContainerInspectResult where
  name := "web"
  config := some
    { image := some "app:latest"
      labels := some [("maintainer", "app"), ("traefik.enable", "true")] }
  name_nonblank := isBlank_web

/-- An image with the label that `routedContainer` overrides. -/
def labeledImage : ImageInspectResult where
  config := some { labels := some [("maintainer", "app"), ("traefik.enable", "false")] }

def plainImage : ImageInspectResult where
  config := some { labels := some [("maintainer", "team")] }

theorem keepsLabels_iff_routedContainer :
    ∃ cfg commands, getContainerConfig routedContainer (some labeledImage) none =
        .ok (cfg, commands) ∧
      ((∃ merged, diffContainerConfigWithImage cfg plainImage = .ok merged ∧
          KeepsLabels routedContainer labeledImage plainImage merged ∧
          { merged with labels := cfg.labels } = cfg) ↔
        LabelsAgree routedContainer labeledImage plainImage) := by
  have hcfg : getContainerConfig routedContainer (some labeledImage) none = .ok (_, _) := rfl
  exact ⟨_, _, hcfg, keepsLabels_iff hcfg plainImage⟩

/-- The label that the user has set falls back to that of the image with every update. -/
theorem overridden_label_is_lost :
    ∃ cfg commands, getContainerConfig routedContainer (some labeledImage) none =
        .ok (cfg, commands) ∧
      ¬ ∃ merged, diffContainerConfigWithImage cfg labeledImage = .ok merged ∧
        KeepsLabels routedContainer labeledImage labeledImage merged ∧
        { merged with labels := cfg.labels } = cfg := by
  refine ⟨_, _, rfl, ?_⟩
  rintro ⟨merged, hmerged, hkept, -⟩
  cases hmerged
  exact absurd (hkept "traefik.enable" "true" rfl rfl (by decide)) (by decide)

end Tugtainer
