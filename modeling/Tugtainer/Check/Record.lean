import Tugtainer.Backend.World

/-!
# What a check makes of the row

A complete `Check` is one that has looked the digest up, whether it obtained one or not,
and has saved its row. It reports `Check.result` and leaves the row `Check.save`, which
depend on the row before it and on what it found. `wp_checkOneContainer` says that a
check by `checkOneContainer` is complete, or that it reports nothing and leaves the
table as it was.
-/

namespace Tugtainer

open Python Interaction World

/-- What a complete check has found, and when: the two readings of the clock are those
for `checked_at` and for `remote_digests_changed_at`. -/
structure Check where
  imageId : Option String
  localDigests : List String
  /-- the digest that the lookup obtained -/
  remoteDigest : Option String
  checkedAt : Int
  changedAt : Int
  deriving DecidableEq, Repr

def storedDigests (row : Option ContainersModel) : Option (List String) :=
  row.bind ContainersModel.remoteDigests

namespace Check

variable (c : Check) (row : Option ContainersModel)

def remoteDigests : List String := c.remoteDigest.toList

/-- The digest `d` is in none of the local ones. -/
def Misses (d : String) : Prop :=
  ∀ ld ∈ c.localDigests, contains ld d = false

instance (d : String) : Decidable (c.Misses d) :=
  inferInstanceAs (Decidable (∀ ld ∈ c.localDigests, contains ld d = false))

/-- What the check reports. -/
def result : Option CheckResult :=
  checkResult row c.localDigests c.remoteDigests

/-- What the check saves. -/
def data : ContainerData :=
  checkData row c.imageId c.localDigests c.remoteDigests c.checkedAt
    (if areDigestsChanged row c.remoteDigests then some c.changedAt else none)

def save (hostId : Int) (name : String) : ContainersModel :=
  (c.data row).apply (row.getD { hostId := hostId, name := name })

theorem isValid_data : (c.data row).isValid = true := by
  simp [data, checkData, ContainerData.isValid]

/-! The two kinds of lookups. -/

variable {c row} {hostId : Int} {name : String} {d : String}

theorem isDigestMissing_iff :
    isDigestMissing c.localDigests [d] = true ↔ c.Misses d := by
  simp [isDigestMissing, Misses]

theorem result_of_none (h : c.remoteDigest = none) : c.result row = none := by
  simp [result, remoteDigests, checkResult, h]

theorem result_of_some (h : c.remoteDigest = some d) :
    c.result row = some (if c.Misses d then
      if storedDigests row = some [d] then .availableNotified else .available
      else .notAvailable) := by
  unfold storedDigests
  simp only [result, remoteDigests, checkResult, h, Option.toList_some, List.cons_ne_nil,
    ↓reduceIte, isDigestMissing_iff]
  split_ifs <;> simp_all

theorem save_remoteDigests : (c.save row hostId name).remoteDigests = some c.remoteDigests := rfl

theorem save_updateAvailable_of_none (h : c.remoteDigest = none) :
    (c.save row hostId name).updateAvailable =
      (row.map ContainersModel.updateAvailable).getD false := by
  simp [save, data, checkData, ContainerData.apply, isUpdateAvailable, remoteDigests, h]

theorem save_updateAvailable_of_some (h : c.remoteDigest = some d) :
    (c.save row hostId name).updateAvailable = decide (c.Misses d) := by
  simp only [save, data, checkData, ContainerData.apply, isUpdateAvailable, remoteDigests, h,
    Option.toList_some, List.cons_ne_nil, ↓reduceIte, Option.getD_some]
  exact Bool.eq_iff_iff.2 (by simpa using isDigestMissing_iff)

theorem save_changedAt_of_none (h : c.remoteDigest = none) :
    (c.save row hostId name).remoteDigestsChangedAt =
      row.bind ContainersModel.remoteDigestsChangedAt := by
  cases row <;>
    simp [save, data, checkData, ContainerData.apply, areDigestsChanged, remoteDigests, h]

theorem save_changedAt_of_some (h : c.remoteDigest = some d) :
    (c.save row hostId name).remoteDigestsChangedAt =
      if storedDigests row = some [d] then row.bind ContainersModel.remoteDigestsChangedAt
      else some c.changedAt := by
  unfold storedDigests
  cases row with
  | none => simp [save, data, checkData, ContainerData.apply, areDigestsChanged, remoteDigests, h]
  | some row =>
      simp only [save, data, checkData, ContainerData.apply, areDigestsChanged, remoteDigests, h,
        Option.bind_some, Option.getD_some, Option.toList_some]
      split_ifs <;> simp_all

end Check

/-! ## The function -/

def AnswersLookups (ok : String → String → Reply (Option String) → Prop) : Event Backend → Prop
  | ⟨.remoteDigest spec localDigest, r⟩ => ok spec localDigest r
  | _ => True

/-- The contract of the world, with such answers. -/
def lookupContract (ok : String → String → Reply (Option String) → Prop) :
    Contract Backend World :=
  World.contract.restrict (AnswersLookups ok)

def ShowsImages (shown : String → ImageInspectResult → Prop) : Event Backend → Prop
  | ⟨.agent _ none (.imageInspect ref), .ok image⟩ => shown ref image
  | _ => True

/-- The contract of the world, with such lookups and such images. -/
def imageContract (ok : String → String → Reply (Option String) → Prop)
    (shown : String → ImageInspectResult → Prop) : Contract Backend World :=
  (lookupContract ok).restrict (ShowsImages shown)

/-- What the lookups of one local digest after the other obtain. -/
inductive Obtains (ok : String → String → Reply (Option String) → Prop) (spec : String) :
    List String → Option String → Prop
  | nil : Obtains ok spec [] none
  | found {localDigest : String} {localDigests : List String} {d : Option String}
      (hok : ok spec localDigest (.ok d)) (hd : truthy d = true) :
      Obtains ok spec (localDigest :: localDigests) d
  | skip {localDigest : String} {localDigests : List String} {r : Reply (Option String)}
      {d : Option String} (hok : ok spec localDigest r)
      (hr : ∀ d', r = .ok d' → truthy d' = false) (h : Obtains ok spec localDigests d) :
      Obtains ok spec (localDigest :: localDigests) d

section

variable {σ : Type} {host : HostsModel} {container : ContainerInspectResult} {spec : String}
  {delay : Int} {w : World} {ok : String → String → Reply (Option String) → Prop}

theorem wp_getRemoteDigests {s : σ} {Q : List String → σ → World → Prop}
    {E : Exn → σ → World → Prop} (localDigests : List String)
    (h : ∀ d : Option String, Obtains ok spec localDigests d → Q d.toList s w) :
    Act.wp (lookupContract ok) (getRemoteDigests spec delay localDigests) Q E s w := by
  induction localDigests with
  | nil => exact h none .nil
  | cons localDigest localDigests ih =>
      rw [getRemoteDigests]
      refine Act.wp_seq (fun d s' w' => s = s' ∧ w = w' ∧ (truthy d = true →
        ok spec localDigest (.ok d)) ∧ (truthy d = false → ∃ r, ok spec localDigest r ∧
          ∀ d', r = .ok d' → truthy d' = false)) ?_ ?_
      · rw [Act.wp_tryCatch]
        refine ⟨trivial, fun r hr => ?_⟩
        cases r with
        | ok d =>
            refine ⟨rfl, rfl, fun _ => hr.2, fun hd => ⟨.ok d, hr.2, ?_⟩⟩
            rintro _ ⟨⟩
            exact hd
        | raised lost =>
            refine ⟨rfl, rfl, fun hd => absurd hd (by decide), fun _ => ⟨_, hr.2, ?_⟩⟩
            rintro _ ⟨⟩
      · rintro d _ _ ⟨rfl, rfl, hfound, hskip⟩
        rw [Act.wp_bind]
        refine Act.wp_restrict (wp_sleepAbout ?_) _
        rw [Act.wp_ite]
        split
        · rename_i hd
          exact h d (.found (hfound hd) hd)
        · rename_i hd
          obtain ⟨r, hr, hnone⟩ := hskip (eq_false_of_ne_true hd)
          exact ih fun d hd => h d (.skip hr hnone hd)

theorem wp_pullBeforeCheck {s : ContainerActionResult}
    {Q : Unit → ContainerActionResult → World → Prop}
    {E : Exn → ContainerActionResult → World → Prop}
    (h : ∀ image, Q () { s with remoteImage := image } w) (hE : E .call s w) :
    Act.wp World.contract (pullBeforeCheck host spec delay) Q E s w := by
  unfold pullBeforeCheck
  rw [Act.wp_bind]
  refine wp_getSettings fun settings => ?_
  rw [Act.whenA, Act.wp_ite]
  split
  · rw [Act.wp_bind]
    refine wp_request (fun image => ?_) hE
    rw [Act.wp_bind, Act.wp_modify]
    exact wp_sleepAbout (h (some image))
  · exact h s.remoteImage

theorem Check.wp_save (c : Check) {s : σ} {hostId : Int} {name : String}
    {row : Option ContainersModel} {Q : ContainersModel → σ → World → Prop}
    {E : Exn → σ → World → Prop} (hrow : row = w.table hostId name) :
    Act.wp World.contract (insertOrUpdateContainer row hostId name (c.data row)) Q E s w ↔
      Q (c.save row hostId name) s
        { w with table := w.table.set hostId name (c.save row hostId name) } := by
  have hwritten : w.table.written hostId name (c.data row) = c.save row hostId name := by
    rw [Check.save, Table.written, hrow]
  rw [← hwritten]
  exact wp_insertOrUpdate (.inr hrow) (isValid_data c row)

theorem wp_saveCheck {s : ContainerActionResult} {row : Option ContainersModel}
    {localDigests : List String} {d : Option String}
    {Q : Unit → ContainerActionResult → World → Prop}
    {E : Exn → ContainerActionResult → World → Prop}
    (hrow : row = w.table host.id container.name)
    (h : ∀ c : Check, c.imageId = container.image → c.localDigests = localDigests →
      c.remoteDigest = d → w.clock ≤ c.checkedAt → c.checkedAt ≤ c.changedAt →
      Q () s ⟨w.table.set host.id container.name (c.save row host.id container.name),
        c.changedAt⟩) :
    Act.wp World.contract (saveCheck host container row localDigests d.toList) Q E s w := by
  unfold saveCheck
  rw [Act.wp_bind, wp_now]
  intro checkedAt hchecked
  dsimp only
  rw [Act.wp_ite]
  split
  · rename_i hchanged
    rw [Act.wp_bind, wp_now]
    intro changedAt hle
    let c : Check := ⟨container.image, localDigests, d, checkedAt, changedAt⟩
    have hdata : c.data row =
        checkData row container.image localDigests d.toList checkedAt (some changedAt) := by
      simp only [c, Check.data, Check.remoteDigests, hchanged, ↓reduceIte]
    rw [Act.wp_bind, Act.wp_pure, Act.wp_bind, ← hdata]
    exact (c.wp_save (w := ⟨w.table, changedAt⟩) hrow).2
      (h c rfl rfl rfl hchecked hle)
  · rename_i hchanged
    let c : Check := ⟨container.image, localDigests, d, checkedAt, checkedAt⟩
    have hdata : c.data row =
        checkData row container.image localDigests d.toList checkedAt none := by
      simp only [c, Check.data, Check.remoteDigests, hchanged, Bool.false_eq_true, ↓reduceIte]
    rw [Act.wp_bind, Act.wp_pure, Act.wp_bind, ← hdata]
    exact (c.wp_save (w := ⟨w.table, checkedAt⟩) hrow).2
      (h c rfl rfl rfl hchecked le_rfl)

end

/-- How a check may end, given the world it starts in and what its lookups obtain: it
reports nothing and leaves the table as it was, or it is complete. -/
inductive CheckEndsBy (obtains : List String → Option String → Prop) (host : HostsModel)
    (container : ContainerInspectResult) (w : World) : ContainerActionResult → World → Prop
  | early {res : ContainerActionResult} (h : res.result = none) :
      CheckEndsBy obtains host container w res w
  | complete {res : ContainerActionResult} (c : Check) (himage : c.imageId = container.image)
      (hlocal : c.localDigests ≠ []) (hobtains : obtains c.localDigests c.remoteDigest)
      (hclock : w.clock ≤ c.checkedAt) (htimes : c.checkedAt ≤ c.changedAt)
      (hresult : res.result = c.result (w.table host.id container.name))
      (hremote : res.remoteDigests = c.remoteDigests) :
      CheckEndsBy obtains host container w res ⟨w.table.set host.id container.name
        (c.save (w.table host.id container.name) host.id container.name), c.changedAt⟩

abbrev CheckEnds : HostsModel → ContainerInspectResult → World → ContainerActionResult → World →
    Prop :=
  CheckEndsBy fun _ _ => True

theorem CheckEndsBy.mono {obtains obtains' : List String → Option String → Prop}
    {host : HostsModel} {container : ContainerInspectResult} {w w' : World}
    {res : ContainerActionResult} (h : CheckEndsBy obtains host container w res w')
    (himp : ∀ localDigests d, obtains localDigests d → obtains' localDigests d) :
    CheckEndsBy obtains' host container w res w' := by
  cases h with
  | early h => exact .early h
  | complete c himage hlocal hobtains hclock htimes hresult hremote =>
      exact .complete c himage hlocal (himp _ _ hobtains) hclock htimes hresult hremote

/-- What a check finds: the digests of an image that the agent shows for the one of the
container, and what the lookups obtain for them. -/
def Finds (ok : String → String → Reply (Option String) → Prop)
    (shown : String → ImageInspectResult → Prop) (container : ContainerInspectResult)
    (localDigests : List String) (d : Option String) : Prop :=
  (∃ ref image, shown ref image ∧ localDigests = image.repoDigests.getD []) ∧
    Obtains ok ((getContainerImageSpec container).getD "") localDigests d

section

variable {σ : Type} {host : HostsModel} {container : ContainerInspectResult} {spec : String}
  {delay : Int} {w : World} {ok : String → String → Reply (Option String) → Prop}
  {shown : String → ImageInspectResult → Prop}

theorem wp_checkDigests {s : ContainerActionResult} {localDigests : List String}
    (hlocal : localDigests ≠ []) (hs : s.result = none) :
    Act.wp (lookupContract ok) (checkDigests host container spec delay localDigests)
      (fun _ => CheckEndsBy (fun l d => l = localDigests ∧ Obtains ok spec l d) host container w)
      (fun _ => CheckEndsBy (fun l d => l = localDigests ∧ Obtains ok spec l d) host container w)
      s w := by
  unfold checkDigests
  rw [Act.wp_bind, Act.wp_modify, Act.wp_bind]
  refine Act.wp_restrict (wp_selectContainer.2 ?_) _
  rw [Act.wp_bind]
  refine Act.wp_restrict (wp_cacheUpdate ?_) _
  rw [Act.wp_bind]
  refine Act.wp_restrict (wp_pullBeforeCheck (fun image => ?_) (.early hs)) _
  rw [Act.wp_bind]
  refine wp_getRemoteDigests localDigests fun d hobtains => ?_
  rw [Act.wp_bind, Act.wp_modify, Act.wp_bind]
  refine Act.wp_restrict (wp_saveCheck rfl fun c himage hc hd hclock htimes => ?_) _
  rw [Act.wp_bind, Act.wp_get]
  refine Act.wp_restrict (wp_cacheUpdate (.complete c himage (hc ▸ hlocal)
    ⟨hc, hc ▸ hd ▸ hobtains⟩ hclock htimes ?_ ?_)) _
  · simp only [Check.result, Check.remoteDigests, hc, hd]
  · simp only [Check.remoteDigests, hd]

theorem wp_imageContract {α : Type} {x : BackendM σ α} {Q : α → σ → World → Prop}
    {E : Exn → σ → World → Prop} {s : σ} (h : Act.wp World.contract x Q E s w) :
    Act.wp (imageContract ok shown) x Q E s w :=
  Act.wp_restrict (Act.wp_restrict h _) _

theorem wp_checkImage {s : ContainerActionResult} (hs : s.result = none) :
    Act.wp (imageContract ok shown)
      (checkImage host container ((getContainerImageSpec container).getD "") delay)
      (fun _ => CheckEndsBy (Finds ok shown container) host container w)
      (fun _ => CheckEndsBy (Finds ok shown container) host container w) s w := by
  unfold checkImage
  rw [Act.wp_bind, Act.wp_modify, Act.wp_bind]
  refine ⟨trivial, fun reply hreply => ?_⟩
  cases reply with
  | raised lost => exact .early hs
  | ok image =>
      have hshown : shown _ image := hreply.2
      refine (Act.wp_bind _ _).2 ((Act.wp_modify _).2 ?_)
      split
      · exact wp_imageContract (wp_cacheUpdate (.early hs))
      · rename_i localDigest localDigests hdigests
        refine Act.wp_restrict (Act.wp_mono (wp_checkDigests (List.cons_ne_nil _ _) ?_)
          (fun _ _ _ h => h.mono ?_) fun _ _ _ h => h.mono ?_) _
        · exact hs
        all_goals
          exact fun l d hfound => ⟨⟨_, image, hshown, hfound.1.trans hdigests.symm⟩, hfound.2⟩

theorem wp_checkContainer {s : ContainerActionResult} (hs : s.result = none) :
    Act.wp (imageContract ok shown) (checkContainer host container delay)
      (fun res _ => CheckEndsBy (Finds ok shown container) host container w res)
      (fun _ _ _ => False) s w := by
  unfold checkContainer
  refine Act.wp_seq (fun _ => CheckEndsBy (Finds ok shown container) host container w) ?_
    fun _ _ _ h => h
  refine Act.wp_try (fun _ => CheckEndsBy (Finds ok shown container) host container w) ?_ ?_
  · rw [Act.wp_bind]
    refine wp_imageContract (wp_cacheSet ?_)
    dsimp only
    rw [Act.wp_ite]
    split
    · exact wp_checkImage hs
    · exact wp_imageContract (wp_cacheUpdate (.early hs))
  · intro _ s' w' h
    rw [Act.wp_bind, Act.wp_get]
    exact wp_imageContract (wp_cacheUpdate h)

/-- While nobody else acts, a check reports nothing and leaves the table as it was, or it
is complete. -/
theorem wp_checkOneContainer {s : σ} :
    Act.wp (imageContract ok shown) (checkOneContainer host container)
      (fun res _ => CheckEndsBy (Finds ok shown container) host container w res)
      (fun _ _ _ => False) s w := by
  unfold checkOneContainer
  rw [Act.wp_bind]
  refine wp_imageContract (wp_getSettings fun settings => ?_)
  rw [Act.wp_bind]
  refine wp_imageContract (wp_cacheGet fun state => ?_)
  rw [Act.wp_ite]
  split
  · rw [wp_withObjects, wp_withSession]
    refine Act.wp_mono (wp_checkContainer rfl) (fun res s' w' h => ⟨trivial, ?_⟩)
      fun _ _ _ h => h.elim
    rintro reply ⟨⟨hreply, -⟩, -⟩
    cases hreply
    exact h
  · exact .early rfl

/-- How a run of a check ends, given what its lookups are answered and the images that it is
shown. -/
theorem checkOneContainer_finds {s s' : σ} {tr : Trace Backend}
    {result : Except Exn ContainerActionResult}
    (run : Runs (checkOneContainer host container s) tr (result, s'))
    (hacc : (imageContract ok shown).Accepts w tr) :
    ∃ res, result = .ok res ∧ CheckEndsBy (Finds ok shown container) host container w res
      ((imageContract ok shown).after w tr) := by
  have hend := Prog.wp_sound (wp_checkOneContainer (w := w)) run hacc
  cases result with
  | ok res => exact ⟨res, rfl, hend⟩
  | error e => exact hend.elim

theorem checkOneContainer_endsBy {s s' : σ} {tr : Trace Backend}
    {result : Except Exn ContainerActionResult}
    (run : Runs (checkOneContainer host container s) tr (result, s'))
    (hacc : (lookupContract ok).Accepts w tr) :
    ∃ res, result = .ok res ∧
      CheckEndsBy (Obtains ok ((getContainerImageSpec container).getD "")) host container w res
        ((lookupContract ok).after w tr) := by
  have hshows : ∀ e ∈ tr, ShowsImages (fun _ _ => True) e := by
    intro e _
    unfold ShowsImages
    split
    all_goals trivial
  obtain ⟨res, hres, hend⟩ :=
    checkOneContainer_finds run (Contract.accepts_restrict_iff.2 ⟨hacc, hshows⟩)
  exact ⟨res, hres, hend.mono fun _ _ h => h.2⟩

theorem checkOneContainer_ends {s s' : σ} {tr : Trace Backend}
    {result : Except Exn ContainerActionResult}
    (run : Runs (checkOneContainer host container s) tr (result, s'))
    (hacc : World.contract.Accepts w tr) :
    ∃ res, result = .ok res ∧ CheckEnds host container w res (World.contract.after w tr) := by
  have hlookup : ∀ e ∈ tr, AnswersLookups (fun _ _ _ => True) e := by
    rintro ⟨op, r⟩ -
    cases op <;> trivial
  obtain ⟨res, hres, hend⟩ :=
    checkOneContainer_endsBy run (Contract.accepts_restrict_iff.2 ⟨hacc, hlookup⟩)
  exact ⟨res, hres, hend.mono fun _ _ _ => trivial⟩

end

end Tugtainer
