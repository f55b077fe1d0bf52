import Tugtainer.Executor.Created
import Tugtainer.Executor.StepRules

/-!
# What an outcome says of the container

An item that ends as `updated` stands for a container that was created from the
merged configuration, and one that ends as `rolled_back` for a container that was
created from the previous one. This module follows the container through the third
pass: the rules for the steps say what each of them makes of `Created`, and
`outcome_of_execution` says what the result of an item means at the end of a run.
-/

namespace Tugtainer

open Python Interaction

section

variable {nameOf canonical : String → String} {n : String} {P : ItemFields → Prop}
  {d₀ : Docker} {site : Site} {body : CreateContainerRequestBodySchema} {running : Bool}
  {networks : Finset String} {item : UpdatePlanItem} {tr : Trace Agent}

/-! ## Starting the created container -/

theorem wp_runCommands {site' : Site} (hitem : ItemOk nameOf n P item)
    (hcommands : CommandsFor n item.commands)
    (h : ∃ dc, Created canonical d₀ site n body running networks tr dc)
    {E : Exn → UpdatePlanItem → Trace Agent → Prop} :
    Act.wp (runContract nameOf) (runCommands site')
      (fun _ item' tr' => ItemOk nameOf n P item' ∧ ∃ dc, Created canonical d₀ site n body
        running (networks ∪ connectedBy item.commands) tr' dc) E item tr := by
  unfold runCommands
  rw [Act.wp_bind, Act.wp_get]
  refine Act.wp_mono (Act.wp_forM _ (fun done todo item' tr' => done ++ todo = item.commands ∧
    ItemOk nameOf n P item' ∧ ∃ dc, Created canonical d₀ site n body running
      (networks ∪ connectedBy done) tr' dc) ?_ item.commands [] item tr
      ⟨rfl, hitem, by simpa using h⟩) (fun _ _ _ h => h.2) fun _ _ _ h => h
  rintro done command todo item' tr' ⟨hall, hitem', hdc⟩
  have hall' : done ++ [command] ++ todo = item.commands := by rw [← hall]; simp
  refine wp_attempt ?_
  rw [Act.wp_ite]
  split
  · rename_i hallowed
    obtain ⟨⟨network, name⟩, htarget, rfl⟩ := Option.map_eq_some_iff.1
      (hcommands command (by simp [← hall]))
    have hconnect : ∀ r, ∃ dc, Created canonical d₀ site name body running
        (networks ∪ connectedBy (done ++ [command]))
        (tr' ++ [answered site' (.commandRun command) r]) dc := by
      intro r
      obtain ⟨dc, hdc⟩ := hdc
      rw [connectedBy_concat_of_allowed hallowed htarget, Finset.union_insert]
      exact hdc.connect htarget r
    exact wp_call (fun _ _ => ⟨hall', hitem', hconnect _⟩)
      fun _ => ⟨hall', ⟨hitem'.name, hitem'.goesBy, hitem'.fields⟩, hconnect _⟩
  · rename_i hallowed
    rw [← connectedBy_concat_of_not_allowed hallowed] at hdc
    exact ⟨hall', ⟨hitem'.name, hitem'.goesBy, hitem'.fields⟩, hdc⟩

theorem wp_startCreated_created {site' : Site} (hitem : ItemOk nameOf n P item)
    (hcommands : CommandsFor n item.commands)
    (h : ∃ dc, Created canonical d₀ site n body false networks tr dc) :
    Act.wp (runContract nameOf) (startCreated site')
      (fun _ item' tr' => ItemOk nameOf n P item' ∧ ∃ dc, Created canonical d₀ site n body true
        (networks ∪ connectedBy item.commands) tr' dc)
      (fun _ item' _ => ItemOk nameOf n P item') item tr := by
  have hname : item.name = n := hitem.name
  unfold startCreated
  rw [Act.wp_bind, Act.wp_get, hname]
  refine Act.wp_seq (fun _ item' tr' => item = item' ∧
    ∃ dc, Created canonical d₀ site n body true networks tr' dc)
    (wp_call (fun _ _ => ⟨rfl, ?_⟩) fun _ => hitem) fun _ item' tr' h => ?_
  · obtain ⟨dc, hdc⟩ := h
    exact hdc.start
  obtain ⟨rfl, h⟩ := h
  refine Act.wp_seq _ (wp_runCommands hitem hcommands h) fun _ item' tr' h => ?_
  have hlook : KeptBy nameOf n (fun _ kind => kind = .look) fun tr => ∃ dc, Created canonical
      d₀ site n body true (networks ∪ connectedBy item.commands) tr dc :=
    created_keptBy fun _ _ hkind => by simp [leaving, hkind]
  exact Act.wp_mono ((staysIn_inspectItem (P := P) rfl).wp hlook h.1 h.2) (fun _ _ _ h => h.2)
    fun _ _ _ h => h.1

/-! ## The update -/

/-- What an update asks for before it creates the container. -/
def RemovingKinds (site : Site) (kind : Kind) : Prop :=
  site = .recreate ∧ (kind = .look ∨ kind = .disconnect ∨ kind = .remove)

/-- That part of the executor may create the container, on an image that this run
pulled. -/
def Creatable (canonical : String → String) (site : Site) (n reference : String)
    (tr : Trace Agent) : Prop :=
  ¬ Once (CreatedAt site n) tr ∧ Moved canonical (canonical reference) tr

theorem Creatable.concat {reference : String} {e : Event Agent}
    (h : Creatable canonical site n reference tr) (he : ¬ CreatedAt site n e) :
    Creatable canonical site n reference (tr ++ [e]) :=
  ⟨by simpa [h.1] using he, (once_concat _ _ _).2 (.inl h.2)⟩

theorem Creatable.keptBy {m reference : String} {kinds : Site → Kind → Prop}
    (hkinds : ¬ kinds site .create) :
    KeptBy nameOf m kinds (Creatable canonical site n reference) :=
  fun _ _ hop _ h => h.concat fun he => hkinds (he.of_within hop).2

/-- The update creates the container from the merged configuration, unless a request
raises. -/
theorem wp_createMerged {inputs : UpdateInputs} {merged : CreateContainerRequestBodySchema}
    (hitem : ItemOk nameOf n P item) (hname : merged.name = some n)
    (hmerged : diffContainerConfigWithImage inputs.config inputs.remoteImage = .ok merged)
    (h : Creatable canonical .recreate n merged.image tr) :
    Act.wp (runContract nameOf) (createMerged inputs)
      (fun _ item' tr' => ItemOk nameOf n P item' ∧ ∃ dc, Created canonical d₀ .recreate n merged
        false (createdNetworks merged) tr' dc)
      (fun _ item' tr' => ItemOk nameOf n P item' ∧ ¬ AllOk tr') item tr := by
  unfold createMerged
  rw [Act.wp_bind, Act.wp_ofExcept, hmerged]
  refine Act.wp_seq (fun c item' tr' => ItemOk nameOf n P { item' with container := c } ∧
    ∃ dc, Created canonical d₀ .recreate n merged false (createdNetworks merged) tr' dc)
    (wp_call (fun c hc => ?_) fun _ => ⟨hitem, not_allOk_raised⟩) fun _ _ _ h =>
      (Act.wp_modify _).2 h
  have hcname : c.name = n := Option.some.inj (hc.1.symm.trans hname)
  exact ⟨⟨hcname, hc.2, hitem.fields⟩, created_of_answered hname h.1 h.2⟩

theorem LastWait.keptBy {m : String} {kinds : Site → Kind → Prop} {healthy : Bool}
    (hlog : ¬ kinds .healthWait .log) : KeptBy nameOf m kinds (LastWait n healthy) := by
  intro tr e hop _ h
  refine (since_concat _ _ _ _).2 (.inr ⟨h, fun he => ?_⟩)
  rw [he] at hop
  exact hlog (hop.1 _ rfl)

theorem LastWait.of_foreign {healthy : Bool} {e : Event Agent} (h : LastWait n healthy tr)
    (hforeign : Foreign nameOf n e.op) : LastWait n healthy (tr ++ [e]) := by
  refine (since_concat _ _ _ _).2 (.inr ⟨h, fun he => ?_⟩)
  rw [he] at hforeign
  exact hforeign rfl

/-- The networks of the container that an update leaves. The deferred commands are
run where the container is started. -/
def updatedNetworks (merged : CreateContainerRequestBodySchema) (running : Bool)
    (commands : List (List String)) : Finset String :=
  createdNetworks merged ∪ if running then connectedBy commands else ∅

/-- The container is the one that the update created, and it is healthy if it runs. -/
structure IsUpdated (canonical : String → String) (d₀ : Docker) (n : String)
    (merged : CreateContainerRequestBodySchema) (running : Bool) (commands : List (List String))
    (tr : Trace Agent) : Prop where
  created : ∃ dc, Created canonical d₀ .recreate n merged running
    (updatedNetworks merged running commands) tr dc
  healthy : running → LastWait n true tr

variable {merged : CreateContainerRequestBodySchema} {f₀ : ItemFields}

theorem IsUpdated.keptBy {commands : List (List String)} :
    KeptBy nameOf n (fun _ kind => kind = .exec)
      (IsUpdated canonical d₀ n merged running commands) := fun tr e hop hr h =>
  ⟨created_keptBy (fun _ _ hkind => by simp [leaving, hkind]) tr e hop hr h.created,
    fun hrun => LastWait.keptBy (by simp) tr e hop hr (h.healthy hrun)⟩

theorem wp_startNew {hooksMap : HooksMap} {timeout : Int}
    (hitem : ItemOk nameOf n (· = f₀) item) (hcommands : CommandsFor n f₀.commands)
    (h : ∃ dc, Created canonical d₀ .recreate n merged false (createdNetworks merged) tr dc) :
    Act.wp (runContract nameOf) (startNew hooksMap timeout)
      (fun done item' tr' => if done then item'.fields = { f₀ with result := some .updated } ∧
          IsUpdated canonical d₀ n merged true f₀.commands tr'
        else ItemOk nameOf n (· = f₀) item')
      (fun _ item' _ => ItemOk nameOf n (· = f₀) item') item tr := by
  have hcmds : item.commands = f₀.commands := congrArg ItemFields.commands hitem.fields
  refine Act.wp_seq _ (wp_startCreated_created hitem (hcmds ▸ hcommands) h) fun _ item' tr' h => ?_
  rw [hcmds] at h
  refine Act.wp_seq _ (Act.wp_mono (wp_waitItem h.1 (created_keptBy ?_) h.2) (fun _ _ _ h => h)
    fun _ _ _ h => h.1) fun healthy item' tr' h => ?_
  · rintro site kind ⟨-, rfl | rfl⟩ <;> simp [leaving]
  obtain ⟨hitem', hcreated, hwait⟩ := h
  rw [Act.wp_ite]
  split
  · -- healthy: the result is set, and the hooks leave the container alone
    rename_i hhealthy
    subst hhealthy
    rw [Act.wp_bind, setResult, Act.wp_modify]
    have hdone : IsUpdated canonical d₀ n merged true f₀.commands tr' :=
      ⟨by simpa [updatedNetworks] using hcreated, fun _ => hwait⟩
    have hfields : ItemOk nameOf n (· = { f₀ with result := some .updated })
        { item' with result := some .updated } :=
      ⟨hitem'.name, hitem'.goesBy, by rw [← hitem'.fields]; rfl⟩
    refine Act.wp_seq _ ((neverRaises_runItemHooks _ _ _).wp (Act.wp_mono
      ((staysIn_runItemHooks rfl hooksMap .postUpdate).wp IsUpdated.keptBy hfields hdone)
      (fun _ _ _ h => h) fun _ _ _ h => h)) fun _ _ _ h => ?_
    exact ⟨h.2.1.fields, h.2.2⟩
  · -- unhealthy: the container is removed, and the item is as it was
    have hremove : StaysIn nameOf n (fun _ _ => True) (· = f₀) (fun _ => True)
        (removeUnhealthy hooksMap) :=
      staysIn_removeUnhealthy trivial trivial trivial trivial trivial hooksMap
    exact Act.wp_seq _ (hremove.wp_item hitem') fun _ _ _ h => h

/-- The update up to its rollback: it ends with the new container, or with the item as
it was. It does not fail for a stopped container unless a request raises. -/
theorem wp_recreate {hooksMap : HooksMap} {timeout : Int} {inputs : UpdateInputs}
    (hitem : ItemOk nameOf n (· = f₀) item) (hcommands : CommandsFor n f₀.commands)
    (hname : merged.name = some n)
    (hmerged : diffContainerConfigWithImage inputs.config inputs.remoteImage = .ok merged)
    (h : Creatable canonical .recreate n merged.image tr) :
    Act.wp (runContract nameOf) (recreate hooksMap timeout inputs)
      (fun done item' tr' => if done then item'.fields = { f₀ with result := some .updated } ∧
          IsUpdated canonical d₀ n merged f₀.wasRunning f₀.commands tr'
        else ItemOk nameOf n (· = f₀) item' ∧ (f₀.wasRunning = false → ¬ AllOk tr'))
      (fun _ item' tr' => ItemOk nameOf n (· = f₀) item' ∧ (f₀.wasRunning = false → ¬ AllOk tr'))
      item tr := by
  have hremove : StaysIn nameOf n RemovingKinds (· = f₀) (fun _ => True) removeOld :=
    staysIn_removeOld ⟨rfl, by simp⟩ ⟨rfl, by simp⟩ ⟨rfl, by simp⟩
  refine Act.wp_seq (fun _ item' tr' => ItemOk nameOf n (· = f₀) item' ∧
    Creatable canonical .recreate n merged.image tr') (Act.wp_mono (Act.wp_and
    (hremove.wp (Creatable.keptBy (by simp [RemovingKinds])) hitem h)
    (wp_removeOld (B := fun _ => True) hitem (fun _ => trivial) fun _ _ _ => not_allOk_raised))
    (fun _ _ _ h => h.1.2) fun _ _ _ h => ⟨h.1.1, fun _ => h.2⟩) fun _ item' tr' h => ?_
  refine Act.wp_seq (fun _ item' tr' => ItemOk nameOf n (· = f₀) item' ∧
    ∃ dc, Created canonical d₀ .recreate n merged false (createdNetworks merged) tr' dc)
    (Act.wp_mono (wp_createMerged h.1 hname hmerged h.2) (fun _ _ _ h => h)
    fun _ _ _ h => ⟨h.1, fun _ => h.2⟩) fun _ item' tr' h => ?_
  have hrunning : item'.wasRunning = f₀.wasRunning := congrArg ItemFields.wasRunning h.1.fields
  rw [Act.wp_bind, Act.wp_get, Act.wp_ite, hrunning]
  split
  · rename_i hrun
    refine Act.wp_mono (wp_startNew h.1 hcommands h.2) (fun done _ _ h => ?_)
      fun _ _ _ h => ⟨h, by simp [hrun]⟩
    cases done with
    | true => simpa [hrun] using h
    | false => exact ⟨h, by simp [hrun]⟩
  · rename_i hrun
    refine (Act.wp_bind _ _).2 ((Act.wp_modify _).2 ⟨?_, ?_, fun hr => absurd hr hrun⟩)
    · rw [← h.1.fields]
      rfl
    · simpa [updatedNetworks, hrun] using h.2

theorem failed_keptBy {m : String} {kinds : Site → Kind → Prop} {p : Prop} :
    KeptBy nameOf m kinds fun tr => p → ¬ AllOk tr :=
  fun _ _ _ _ h hp hok => h hp hok.of_concat

/-- The update either ends with the new container, or it leaves the item as it was for
the rollback, which may create a container of its own. -/
theorem wp_recreateOrCleanUp_created (d₀ : Docker) {hooksMap : HooksMap} {timeout : Int}
    {inputs : UpdateInputs}
    (hitem : ItemOk nameOf n (· = f₀) item) (hcommands : CommandsFor n f₀.commands)
    (hname : merged.name = some n)
    (hmerged : diffContainerConfigWithImage inputs.config inputs.remoteImage = .ok merged)
    (h : Creatable canonical .recreate n merged.image tr) :
    Act.wp (runContract nameOf) (recreateOrCleanUp hooksMap timeout inputs)
      (fun done item' tr' => if done then item'.fields = { f₀ with result := some .updated } ∧
          IsUpdated canonical d₀ n merged f₀.wasRunning f₀.commands tr'
        else ItemOk nameOf n (· = f₀) item' ∧ (f₀.wasRunning = false → ¬ AllOk tr'))
      (fun _ _ _ => True) item tr := by
  refine wp_recreateOrCleanUp (Q := fun item' tr' =>
      item'.fields = { f₀ with result := some .updated } ∧
        IsUpdated canonical d₀ n merged f₀.wasRunning f₀.commands tr')
    (G := fun item' tr' => ItemOk nameOf n (· = f₀) item' ∧ (f₀.wasRunning = false → ¬ AllOk tr'))
    (R := fun item' tr' => ItemOk nameOf n (· = f₀) item' ∧ (f₀.wasRunning = false → ¬ AllOk tr'))
    (wp_recreate hitem hcommands hname hmerged h) fun item' tr' e h => ?_
  have hcleanup : StaysIn nameOf n (fun _ _ => True) (· = f₀) (fun _ => True)
      (attempt (cleanup hooksMap)) :=
    staysIn_attempt (staysIn_cleanup (fun _ _ => trivial) hooksMap)
  exact Act.wp_mono (hcleanup.wp failed_keptBy ⟨h.1.name, h.1.goesBy, h.1.fields⟩ h.2)
    (fun _ _ _ h => h.2) fun _ _ _ _ => trivial

/-! ## The outcome -/

/-- What the result of an item says of the container of its name. -/
structure Outcome (canonical : String → String) (d₀ : Docker) (n : String) (fields : ItemFields)
    (tr : Trace Agent) : Prop where
  updated : fields.result = some .updated → ∃ config remote merged,
    fields.config = some config ∧ fields.remoteImage = some remote ∧
      diffContainerConfigWithImage config remote = .ok merged ∧
      IsUpdated canonical d₀ n merged fields.wasRunning fields.commands tr
  rolledBack : fields.result = some .rolledBack → ∃ config localImage,
    fields.config = some config ∧ fields.localImage = some localImage ∧
      (∃ dc, Created canonical d₀ .rollBack n config true
        (createdNetworks config ∪ connectedBy fields.commands) tr dc) ∧
      (fields.wasRunning = false → ¬ AllOk tr)

theorem outcome_of_result {fields : ItemFields}
    (h : fields.result ≠ some .updated ∧ fields.result ≠ some .rolledBack) :
    Outcome canonical d₀ n fields tr :=
  ⟨fun hres => absurd hres h.1, fun hres => absurd hres h.2⟩

theorem Outcome.of_foreign {fields : ItemFields} {e : Event Agent}
    (h : Outcome canonical d₀ n fields tr) (hforeign : Foreign nameOf n e.op) :
    Outcome canonical d₀ n fields (tr ++ [e]) := by
  refine ⟨fun hres => ?_, fun hres => ?_⟩
  · obtain ⟨config, remote, merged, hconfig, hremote, hmerged, hdone⟩ := h.updated hres
    exact ⟨config, remote, merged, hconfig, hremote, hmerged,
      created_of_foreign hdone.created hforeign, fun hr => (hdone.healthy hr).of_foreign hforeign⟩
  · obtain ⟨config, image, hconfig, himage, hcreated, hfailed⟩ := h.rolledBack hres
    exact ⟨config, image, hconfig, himage, created_of_foreign hcreated hforeign,
      fun hf hok => hfailed hf hok.of_concat⟩

/-- Before the third pass: there is no result, no container has been created, and the
image has been pulled if it is there. -/
structure Fresh (canonical : String → String) (n : String) (fields : ItemFields)
    (tr : Trace Agent) : Prop where
  result : fields.result = none
  uncreated : ∀ site, ¬ Once (CreatedAt site n) tr
  pulled : fields.remoteImage ≠ none →
    Moved canonical (canonical (fields.imageSpec.getD "")) tr

theorem Fresh.concat {fields : ItemFields} {e : Event Agent} (h : Fresh canonical n fields tr)
    (he : ∀ site, ¬ CreatedAt site n e) : Fresh canonical n fields (tr ++ [e]) :=
  ⟨h.result, fun site => by simpa [h.uncreated site] using he site,
    fun hr => (once_concat _ _ _).2 (.inl (h.pulled hr))⟩

theorem Fresh.outcome {fields : ItemFields} (h : Fresh canonical n fields tr) :
    Outcome canonical d₀ n fields tr :=
  outcome_of_result (by simp [h.result])

variable {c : ContainerInspectResult} {dockerVersion : Option DockerVersion}

theorem wp_rollBack_created {hooksMap : HooksMap} {timeout : Int} {inputs : UpdateInputs}
    (hitem : ItemOk nameOf n (· = f₀) item) (hinputs : InputsOk n inputs)
    (hcommands : CommandsFor n f₀.commands) (hconfig : f₀.config = some inputs.config)
    (himage : f₀.localImage = some inputs.localImage)
    (h : Creatable canonical .rollBack n inputs.config.image tr)
    (hfailed : f₀.wasRunning = false → ¬ AllOk tr) :
    Act.wp (runContract nameOf) (rollBack hooksMap timeout inputs)
      (fun _ item' tr' => Outcome canonical d₀ n item'.fields tr') (fun _ _ _ => True) item tr := by
  have hcreated : ∀ {kinds : Site → Kind → Prop}, (∀ site' kind, kinds site' kind →
      kind ∈ leaving) → KeptBy nameOf n kinds fun tr =>
        (∃ dc, Created canonical d₀ .rollBack n inputs.config true
          (createdNetworks inputs.config ∪ connectedBy f₀.commands) tr dc) ∧
        (f₀.wasRunning = false → ¬ AllOk tr) := fun hkinds =>
    (created_keptBy hkinds).and failed_keptBy
  refine Act.wp_mono (wp_rollBack (E := fun _ _ _ => True) (F := fun _ => True) hitem hinputs
    ⟨h, hfailed⟩ ((Creatable.keptBy (by simp [TagKinds])).and failed_keptBy)
    (fun _ _ _ => trivial) (fun item' tr' c' h hitem' => ?_) (hcreated ?_) fun _ _ => trivial)
    (fun _ item' tr' h => ?_) fun _ _ _ h => h
  · have hcmds : item'.commands = f₀.commands := congrArg ItemFields.commands hitem'.fields
    have hdc : ∃ dc, Created canonical d₀ .rollBack n inputs.config false
        (createdNetworks inputs.config)
        (tr' ++ [answered .rollBack (.containerCreate inputs.config) (.ok c')]) dc :=
      created_of_answered hinputs.name h.1.1 h.1.2
    refine Act.wp_mono (Act.wp_and (wp_startCreated_created hitem' (hcmds ▸ hcommands) hdc)
      (wp_of_monotone (A := fun tr => f₀.wasRunning = false → ¬ AllOk tr)
      (fun _ _ h hf hok => h hf hok.of_concat) fun hf hok => h.2 hf hok.of_concat))
      (fun _ item'' tr'' h => ?_) fun _ _ _ _ => trivial
    rw [← hcmds]
    exact ⟨h.1.1, h.1.2, h.2⟩
  · rintro site kind (⟨-, rfl⟩ | ⟨-, rfl | rfl⟩) <;> simp [leaving]
  · rcases h with ⟨⟨_, rfl, hfields⟩, hdone⟩ | ⟨hres, -⟩
    · rw [hfields]
      exact ⟨fun hres => absurd hres (by simp), fun _ => ⟨_, _, hconfig, himage, hdone⟩⟩
    · exact outcome_of_result (by simp [UpdatePlanItem.fields, hres])

/-- The third pass: an update ends as its result says. -/
theorem wp_updateOrStartItem_outcome {hooksMap : HooksMap} {timeout : Int}
    {isUpdate isAffected : Bool} (hone : isUpdate = !isAffected)
    (hitem : ItemReady nameOf c dockerVersion item) (h : Fresh canonical c.name item.fields tr) :
    Act.wp (runContract nameOf) (updateOrStartItem hooksMap timeout isUpdate isAffected)
      (fun _ item' tr' => Outcome canonical d₀ c.name item'.fields tr') (fun _ _ _ => True)
      item tr := by
  have hsame : ItemOk nameOf c.name (· = item.fields) item := ⟨hitem.name, hitem.goesBy, rfl⟩
  have hcommands : CommandsFor c.name item.commands := hitem.fields.commandsFor
  refine wp_updateOrStartItem (F := fun item' tr' => Outcome canonical d₀ c.name item'.fields tr')
    (G := fun inputs item' tr' => ItemOk nameOf c.name (· = item.fields) item' ∧
      (item.wasRunning = false → ¬ AllOk tr') ∧
      Creatable canonical .rollBack c.name inputs.config.image tr') hone (fun _ => ?_)
    (fun _ inputs hcan => ?_) fun inputs item' tr' hcan h => ?_
  · have hstart : StaysIn nameOf c.name (fun _ _ => True) (· = item.fields) (fun _ => True)
        (attempt (attemptStartWithHealth timeout)) :=
      staysIn_attempt (staysIn_attemptStartWithHealth trivial trivial ⟨trivial, trivial⟩ timeout)
    refine Act.wp_mono (hstart.wp_item hsame) (fun _ item' tr' h' => ?_) fun _ _ _ _ => trivial
    exact outcome_of_result (by simp [h'.fields, h.result])
  · obtain ⟨hinputs, hspec, hblank, -⟩ := hitem.fields.inputsOk hcan
    obtain ⟨-, himage, hremote, hconfig, hspec'⟩ := canUpdate_eq_some hcan
    obtain ⟨merged, hmerged⟩ := diffContainerConfigWithImage_isOk hblank inputs.remoteImage
    obtain ⟨hname, hsameImage⟩ := diffContainerConfigWithImage_ok hmerged
    have hmoved : Moved canonical (canonical inputs.config.image) tr := by
      rw [← hspec, hspec']
      exact h.pulled (by simp [UpdatePlanItem.fields, hremote])
    have hcreatable : ∀ site, Creatable canonical site c.name inputs.config.image
        (tr ++ [⟨.log (.startingUpdate item.name), ()⟩]) := fun site =>
      Creatable.concat ⟨h.uncreated site, hmoved⟩ (by rintro ⟨_, _, h, -⟩; cases h)
    refine Act.wp_mono (Act.wp_and
      (wp_recreateOrCleanUp_created d₀ hsame hcommands (hname _ hinputs.name c.name_nonblank)
        hmerged (hsameImage ▸ hcreatable .recreate))
      ((staysIn_recreateOrCleanUp_ready hitem hcan hooksMap timeout).wp
        (Creatable.keptBy (by simp [UpdatingKinds])) hitem (hcreatable .rollBack)))
      (fun done item' tr' h' => ?_) fun _ _ _ _ => trivial
    cases done with
    | true =>
        obtain ⟨⟨hfields, hdone⟩, -⟩ := h'
        rw [if_pos rfl, hfields]
        exact ⟨fun _ => ⟨_, _, merged, hconfig, hremote, hmerged, hdone⟩,
          fun hres => absurd hres (by simp)⟩
    | false => exact ⟨h'.1.1, h'.1.2, h'.2.2.2⟩
  · obtain ⟨-, himage, -, hconfig, -⟩ := canUpdate_eq_some hcan
    exact wp_rollBack_created h.1 (hitem.fields.inputsOk hcan).1 hcommands hconfig himage h.2.2
      h.2.1

theorem fresh_of_idle (h : Idle tr) : Fresh canonical c.name (UpdatePlanItem.ofContainer c).fields
    tr := by
  refine ⟨rfl, fun site => ?_, fun hr => absurd rfl hr⟩
  rintro ⟨e, he, _, _, rfl, -⟩
  exact (h _ he).elim

theorem wp_prepareItem_fresh {delay : Int} (h : Fresh canonical n item.fields tr) :
    Act.wp (runContract nameOf) (prepareItem dockerVersion delay)
      (fun _ item' tr' => Fresh canonical n item'.fields tr') (fun _ _ _ => True) item tr := by
  have hrequest : ∀ (request : Request) (r : Reply request.Result) {fields : ItemFields}
      {tr : Trace Agent}, request.kind = .image → Fresh canonical n fields tr →
      Fresh canonical n fields (tr ++ [answered .prepare request r]) := by
    refine fun request r fields tr hkind h => h.concat fun site => ?_
    rintro ⟨_, _, h, -⟩
    cases h
    cases hkind
  have hpreserves : PreparePreserves delay fun item tr => Fresh canonical n item.fields tr :=
    { inspect := fun _ _ => hrequest _ _ rfl
      localImage := fun _ h => ⟨h.result, h.uncreated, h.pulled⟩
      pulled := fun {item _} spec image hspec h => by
        have hpull := hrequest (.imagePull spec) (.ok image) rfl h
        refine ⟨hpull.result, hpull.uncreated, fun _ => (once_concat _ _ _).2 (.inr ?_)⟩
        change (movedTo canonical (canonical (item.imageSpec.getD "")) _).isSome
        simp [movedTo, hspec, Reply.effect]
      unpulled := fun _ _ => hrequest _ _ rfl
      config := fun _ _ h => ⟨h.result, h.uncreated, h.pulled⟩
      failed := fun _ _ _ h => h.concat (by rintro site ⟨_, _, h, -⟩; cases h)
      sleep := fun _ h => h.concat (by rintro site ⟨_, _, h, -⟩; cases h) }
  exact hpreserves.wp h

theorem outcome_itemProof (canonical : String → String) (d₀ : Docker) {env : ExecEnv}
    {host : HostsModel} {plan : UpdatePlan} (hgoes : GoesBy nameOf c) (hhas : plan.Has c.name) :
    ItemProof nameOf env host plan dockerVersion c
      (fun item tr => Fresh canonical c.name item.fields tr)
      (fun item tr => Fresh canonical c.name item.fields tr)
      (fun item tr => Fresh canonical c.name item.fields tr)
      (fun item tr => Outcome canonical d₀ c.name item.fields tr) := by
  have hfresh : Stable nameOf c.name fun item tr => Fresh canonical c.name item.fields tr :=
    fun _ _ _ hforeign _ h => h.concat fun _ => not_createdAt_of_foreign hforeign
  refine
    { stable := ⟨hfresh, hfresh, hfresh, fun _ _ _ hforeign _ h => h.of_foreign hforeign⟩
      init := fun _ => fresh_of_idle
      prepare := fun _ _ _ _ h => wp_prepareItem_fresh h
      skipPrepare := fun _ _ _ h => h
      stop := fun _ hooksMap item tr hitem h => ?_
      skipStop := fun _ _ _ h => h
      update := fun _ hooksMap item tr hitem h =>
        wp_updateOrStartItem_outcome (plan.decide_toUpdate hhas) hitem h
      skipUpdate := fun _ _ _ h => h.outcome }
  have hkept : KeptBy nameOf c.name StopKinds (Fresh canonical c.name item.fields) :=
    fun _ _ hop _ h => h.concat fun site hcreated => by
      have hcreate := (hcreated.of_within hop).2
      simp [StopKinds] at hcreate
  have hsame : ItemOk nameOf c.name (· = item.fields) item := ⟨hitem.name, hitem.goesBy, rfl⟩
  refine Act.wp_mono ((staysIn_stopItem_of_goesBy hgoes hooksMap _).wp hkept hsame h)
    (fun _ _ _ h => ?_) fun _ _ _ _ => trivial
  rw [h.2.1.fields]
  exact h.2.2

theorem outcome_of_execution (canonical : String → String) (d₀ : Docker) {env : ExecEnv}
    {host : HostsModel} {containers : HostContainers} {plan : UpdatePlan}
    {result : Except Exn (Option UpdatePlanResult)} {items : Items}
    (run : Execution nameOf env host containers plan dockerVersion tr result items)
    (hc : PlanHas plan containers c) (hget : items.get? c.name = some item) :
    Ready c dockerVersion item.fields ∧ Outcome canonical d₀ c.name item.fields tr := by
  rcases (outcome_itemProof canonical d₀ (run.goesBy c hc.1) hc.2).sound run hc with
    ⟨hidle, hitem⟩ | ⟨item', hget', hready, h⟩
  · rw [hitem item hget]
    exact ⟨preparing_ofContainer.fields, (fresh_of_idle hidle).outcome⟩
  · obtain rfl : item' = item := Option.some.inj (hget'.symm.trans hget)
    exact ⟨hready.fields, h⟩

end

end Tugtainer
