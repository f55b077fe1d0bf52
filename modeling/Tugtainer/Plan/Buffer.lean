import Tugtainer.Executor.Outcome
import Tugtainer.Executor.Scope
import Tugtainer.Plan.Delay

/-!
# The images that scheduled runs deploy

The delay of a scheduled update counts from the last check that found a new digest, but
the update pulls by tag, and what is pulled need not be what was checked. A digest that
some check obtained before the plan was obtained early enough, as all checks since the
last change have obtained the same one: `buffered_iff` says that the buffer is kept
exactly for the images with such a digest.
-/

namespace Tugtainer

open Python Interaction

/-- The digest is one of the image. -/
def Carries (image : ImageInspectResult) (d : String) : Prop :=
  ∃ ld ∈ image.repoDigests.getD [], contains ld d = true

instance (image : ImageInspectResult) (d : String) : Decidable (Carries image d) :=
  inferInstanceAs (Decidable (∃ ld ∈ image.repoDigests.getD [], contains ld d = true))

/-- An execution of the plan ends with the container updated, and running on the image. -/
def Deploys (host : HostsModel) (containers : HostContainers) (plan : UpdatePlan) (name : String)
    (image : ImageInspectResult) : Prop :=
  ∃ nameOf env dockerVersion tr result items canonical d₀ c item dc,
    Execution nameOf env host containers plan dockerVersion tr result items ∧
      PlanHas plan containers c ∧ c.name = name ∧ items.get? name = some item ∧
      item.result = some .updated ∧
      (Docker.after canonical d₀ tr).containers name = some dc ∧ dc.image = image.id

/-- Some of the checks has obtained a digest of the image. -/
def SeenBy (cs : List Check) (image : ImageInspectResult) : Prop :=
  ∃ c ∈ cs, ∃ d, c.remoteDigest = some d ∧ Carries image d

/-- Some check has obtained a digest of the image at that time at the latest. -/
def SeenUntil (until_ : Int) (cs : List Check) (image : ImageInspectResult) : Prop :=
  ∃ c ∈ cs, c.changedAt ≤ until_ ∧ ∃ d, c.remoteDigest = some d ∧ Carries image d

section

variable {l : Ledger} {host : HostsModel} {containers : HostContainers} {t : Int}
  {plan : UpdatePlan} {name : String} {image : ImageInspectResult} {row : ContainersModel}

theorem Deploys.mem_toUpdate (h : Deploys host containers plan name image) :
    name ∈ plan.toUpdate := by
  obtain ⟨nameOf, env, dockerVersion, tr, result, items, canonical, d₀, c, item, -, run, hc, rfl,
    hget, hresult, -, -⟩ := h
  obtain ⟨_, _, merged, -, -, -, hdone⟩ :=
    (outcome_of_execution canonical d₀ run hc hget).2.updated hresult
  obtain ⟨dc, hdc⟩ := hdone.created
  obtain ⟨_, he, body, c', rfl, hname⟩ := hdc.once
  rcases inScope_of_execution run _ he with hfalse | ⟨c'', hc'', hkinds, hfor⟩
  · exact hfalse.elim
  · have hsame : c''.name = c.name := Option.some.inj ((hfor : body.name = _).symm.trans hname)
    rw [hsame] at hkinds
    rcases hkinds with h | h | h | h | h | h
    · exact h
    all_goals cases h

/-- Every digest that was obtained had been obtained by the last check that found a new
one. -/
theorem ChecksOk.exists_digest {clock : Int} {cs : List Check} {c last : Check}
    (h : ChecksOk clock cs) (hchange : LastChange cs last) (hc : c ∈ cs) :
    ∃ c' ∈ cs, c'.changedAt ≤ last.changedAt ∧ c'.remoteDigest = c.remoteDigest := by
  obtain ⟨pre, post, rfl, -, hpost⟩ := hchange
  rcases List.mem_append.1 hc with hpre | htail
  · refine ⟨c, hc, ?_, rfl⟩
    exact (List.pairwise_append.1 h.sorted).2.2 c hpre last (by simp)
  · refine ⟨last, by simp, le_rfl, ?_⟩
    rcases List.mem_cons.1 htail with rfl | hafter
    · rfl
    · exact (hpost c hafter).symm

/-- The buffer is kept for an image that a scheduled run deploys, exactly if some check
before the plan has obtained a digest of the image. -/
theorem buffered_iff (hl : l.Reachable) (hplan : Scheduled l host t plan)
    (hdeploys : Deploys host containers plan name image)
    (hrow : l.world.table host.id name = some row) (hpos : 0 < effectiveDelay l row) :
    SeenUntil (t - effectiveDelay l row * 1000000) (l.checks host.id name) image ↔
      SeenBy (l.checks host.id name) image := by
  constructor
  · rintro ⟨c, hc, -, hseen⟩
    exact ⟨c, hc, hseen⟩
  · rintro ⟨c, hc, d, hd, hcarries⟩
    obtain ⟨row', hrow', havailable, -, hdelayed⟩ := hplan.exists_row hdeploys.mem_toUpdate
    obtain rfl : row = row' := Option.some.inj (hrow.symm.trans hrow')
    have hok := hl.ok host.id name
    rw [hrow] at hok
    obtain ⟨last, changedAt, hchange, hchanged, hle⟩ := hok.exists_change havailable
    obtain ⟨c', hc', hle', hd'⟩ := (hl.checksOk host.id name).exists_digest hchange hc
    exact ⟨c', hc', hle'.trans (hle.trans (hdelayed changedAt hchanged hpos)), d, hd'.trans hd,
      hcarries⟩

end

/-! The container `web` is updated, ten seconds after its check, to what its tag points to
then. -/

def webOnly : HostContainers where
  list := [webContainer]
  nodup := nodup_web

def webOnlyPlan : UpdatePlan where
  toUpdate := {"web"}
  affected := ∅
  order := ["web"]
  order_nodup := List.nodup_singleton "web"
  disjoint := disjoint_web

theorem webOnlyPlan_scheduled : Scheduled webLedger exampleHost 10000000 webOnlyPlan :=
  ⟨by decide, .ascending PlanSite, webDelayEnv, [webContainer], 5, rfl, rfl, webLedger_lists,
    by decide +kernel⟩

theorem webOnlyPlan_deploys (digest : String) :
    Deploys exampleHost webOnly webOnlyPlan "web"
      { id := some "web:latest", repoDigests := some [digest] } := by
  have hfinal : ((simulateExecution faultless exampleEnv exampleHost webOnly webOnlyPlan
      []).2.2.get? "web").any (·.result = some .updated) = true := by decide +kernel
  obtain ⟨item, hget, hresult⟩ := (Option.any_eq_true _ _).1 hfinal
  have hdocker : ((Docker.after id (.ofHost webOnly) (simulateExecution faultless exampleEnv
      exampleHost webOnly webOnlyPlan []).1).containers "web").any
        (·.image = some "web:latest") = true := by decide +kernel
  obtain ⟨dc, hdc, himage⟩ := (Option.any_eq_true _ _).1 hdocker
  exact ⟨_, _, _, _, _, _, id, _, webContainer, item, dc,
    simulateExecution_execution faultless _ _ _ _ [] (by decide), by decide, rfl, hget,
    of_decide_eq_true hresult, hdc, of_decide_eq_true himage⟩

theorem buffered_iff_checked :
    SeenUntil (10000000 - effectiveDelay webLedger webRow * 1000000) (webLedger.checks 1 "web")
        { id := some "web:latest", repoDigests := some ["web@sha256:d2"] } ↔
      SeenBy (webLedger.checks 1 "web")
        { id := some "web:latest", repoDigests := some ["web@sha256:d2"] } :=
  buffered_iff webLedger_reachable webOnlyPlan_scheduled (webOnlyPlan_deploys _)
    ((webLedger_table _ _).trans (if_pos ⟨rfl, rfl⟩)) (by decide)

/-- An image that was pushed after the check is deployed at once. -/
theorem pushed_image_bypasses_buffer :
    ∃ l host containers plan name image row, Ledger.Reachable l ∧
      Scheduled l host 10000000 plan ∧ Deploys host containers plan name image ∧
      l.world.table host.id name = some row ∧ 0 < effectiveDelay l row ∧
      ¬ SeenUntil (10000000 - effectiveDelay l row * 1000000) (l.checks host.id name) image :=
  ⟨webLedger, exampleHost, webOnly, webOnlyPlan, "web",
    { id := some "web:latest", repoDigests := some ["web@sha256:d3"] }, webRow,
    webLedger_reachable, webOnlyPlan_scheduled, webOnlyPlan_deploys _,
    (webLedger_table _ _).trans (if_pos ⟨rfl, rfl⟩), by decide, by unfold SeenUntil; decide⟩

end Tugtainer
