import Tugtainer.Backend.Quiet

/-!
# How far a check has come with a row

`CheckPhase` follows a check of one container: it inspects the image, reads the row, asks
the registry, reads the row again and saves it. The columns that it writes are those that
differ from the row as it was read first: `triple_checkOneContainer_row`. The checks of
other containers leave the row alone (`elsewhere_checkOneContainer`), so what holds of one
check holds of a check of the whole host.
-/

namespace Tugtainer

open Python Interaction Act

/-- How far the check of a container has come. -/
inductive CheckPhase where
  /-- with the digests of the image that was inspected last -/
  | idle (localDigests : List String)
  /-- the row is read, and the lookup has obtained these digests -/
  | read (localDigests : List String) (row : Option ContainersModel) (found : List String)
  /-- the row is read again, to be saved -/
  | reread (localDigests : List String) (row : Option ContainersModel) (found : List String)
      (again : Option ContainersModel)
  | saved (localDigests : List String) (row : Option ContainersModel) (found : List String)

namespace CheckPhase

def inspect (localDigests : List String) : CheckPhase → CheckPhase
  | .idle _ => .idle localDigests
  | p => p

def select (row : Option ContainersModel) : CheckPhase → CheckPhase
  | .idle localDigests => .read localDigests row []
  | .read localDigests first found => .reread localDigests first found row
  | p => p

def find (digest : Option String) : CheckPhase → CheckPhase
  | .read localDigests row found =>
      .read localDigests row (if truthy digest then digest.toList else found)
  | p => p

def save : CheckPhase → CheckPhase
  | .reread localDigests row found _ => .saved localDigests row found
  | p => p

def IsIdle (p : CheckPhase) : Prop := ∃ localDigests, p = .idle localDigests

end CheckPhase

section

variable (hostId : Int) (name : String)

/-- The observer of the checks of one container. Its row is written only after it was read
twice, with what follows from the first reading. -/
def checkContract : Contract Backend CheckPhase where
  next p e := match e with
    | ⟨.agent _ _ (.imageInspect _), .ok image⟩ =>
        p.inspect ((image : ImageInspectResult).repoDigests.getD [])
    | ⟨.selectContainer h n, .ok row⟩ => if h = hostId ∧ n = name then p.select row else p
    | ⟨.remoteDigest _ _, .ok digest⟩ => p.find digest
    | ⟨.commit h changes, reply⟩ =>
        if (h = hostId ∧ name ∈ changes.map Prod.fst) ∧ (Reply.effect reply).isSome then p.save
        else p
    | ⟨.insert h n _, reply⟩ =>
        if (h = hostId ∧ n = name) ∧ (Reply.effect reply).isSome then p.save else p
    | _ => p
  rely _ _ := True
  guar p op := match op with
    | .commit h changes => h = hostId ∧ name ∈ changes.map Prod.fst →
        ∃ localDigests row found again data, p = .reread localDigests row found (some again) ∧
          changes = [(name, ContainerData.changes (row.getD again) data)] ∧
          data.updateAvailable = some (isUpdateAvailable row localDigests found)
    | .insert h n data => h = hostId ∧ n = name →
        ∃ localDigests row found, p = .reread localDigests row found none ∧
          data.updateAvailable = some (isUpdateAvailable row localDigests found)
    | .selectContainers _ _ => False
    | _ => True

def BackendOp.Elsewhere : BackendOp → Prop
  | .selectContainer h n | .insert h n _ => ¬ (h = hostId ∧ n = name)
  | .commit h changes => ¬ (h = hostId ∧ name ∈ changes.map Prod.fst)
  | .selectContainers _ _ => False
  | _ => True

/-- The operation has nothing to do with checks at all. -/
def BackendOp.Neutral : BackendOp → Prop
  | .agent _ _ (.imageInspect _) | .remoteDigest _ _ | .selectContainer _ _ | .insert _ _ _
  | .commit _ _ | .selectContainers _ _ => False
  | _ => True

end

section

variable {σ α : Type} {hostId : Int} {name : String} {host : HostsModel}
  {container : ContainerInspectResult} {P : CheckPhase → Prop}

theorem guar_of_neutral {p : CheckPhase} {op : BackendOp} (h : op.Neutral) :
    (checkContract hostId name).guar p op := by
  cases op <;> trivial

theorem next_of_neutral {p : CheckPhase} {e : Event Backend} (h : e.op.Neutral) :
    (checkContract hostId name).next p e = p := by
  obtain ⟨op, r⟩ := e
  cases op with
  | agent h site request =>
      cases request with
      | imageInspect => exact (h : False).elim
      | _ => rfl
  | remoteDigest | selectContainer | insert | commit | selectContainers => exact (h : False).elim
  | _ => rfl

theorem triple_neutral {x : BackendM σ α} (h : Issues BackendOp.Neutral x) :
    Triple (checkContract hostId name) P x P fun _ => True :=
  Triple.mono (.of_issues h (fun _ _ _ hop => guar_of_neutral hop) fun _ _ hp hop _ =>
    (next_of_neutral hop).symm ▸ hp) (fun _ hp => hp) (fun _ hp => hp) fun _ _ => trivial

theorem triple_end_neutral {x : BackendM σ α} (h : Issues BackendOp.Neutral x) :
    Triple (checkContract hostId name) P x (fun _ => True) fun _ => True :=
  (triple_neutral h).mono (fun _ hp => hp) (fun _ _ => trivial) fun _ hp => hp

theorem neutral_now : Issues BackendOp.Neutral (now : BackendM σ Int) :=
  issues_perform trivial

theorem neutral_cacheUpdate (key : CacheKey) (status : ActionStatus)
    (result : Option ActionResult) :
    Issues BackendOp.Neutral (cacheUpdate key status result : BackendM σ Unit) :=
  issues_perform trivial

theorem neutral_cacheSet (key : CacheKey) (status : ActionStatus) :
    Issues BackendOp.Neutral (cacheSet key status : BackendM σ Unit) :=
  issues_perform trivial

theorem neutral_cacheGet (key : CacheKey) :
    Issues BackendOp.Neutral (cacheGet key : BackendM σ (Option Progress)) :=
  issues_perform trivial

theorem neutral_getSettings : Issues BackendOp.Neutral (getSettings : BackendM σ Settings) :=
  issues_perform trivial

theorem neutral_pullBeforeCheck (spec : String) (delay : Int) :
    Issues BackendOp.Neutral (pullBeforeCheck host spec delay) :=
  issues_pullBeforeCheck trivial trivial trivial

/-! ## The check of the container -/

theorem wp_getRemoteDigests_row {spec : String} {delay : Int} {row : Option ContainersModel}
    {imageDigests localDigests : List String} {s : σ} {p : CheckPhase}
    (hp : p = .read imageDigests row []) :
    Act.wp (checkContract hostId name) (getRemoteDigests spec delay localDigests)
      (fun found _ p' => p' = .read imageDigests row found) (fun _ _ _ => True) s p := by
  induction localDigests generalizing s p with
  | nil => exact hp
  | cons localDigest localDigests ih =>
      rw [getRemoteDigests]
      refine Act.wp_seq (fun digest _ p' => p' = .read imageDigests row
        (if truthy digest then digest.toList else [])) ?_ fun digest s' p' hp' => ?_
      · rw [Act.wp_tryCatch]
        refine ⟨trivial, fun r _ => ?_⟩
        subst hp
        cases r <;> rfl
      · refine Act.wp_seq (fun _ _ => (· = _)) ⟨trivial, fun _ _ => hp'⟩ fun _ s'' p'' hp'' => ?_
        rw [Act.wp_ite]
        split
        · rename_i htruthy
          rwa [if_pos htruthy] at hp''
        · rename_i htruthy
          rw [if_neg htruthy] at hp''
          exact ih hp''

theorem triple_insertOrUpdate_row {localDigests found : List String}
    {row : Option ContainersModel} {data : ContainerData} (hhost : host.id = hostId)
    (hname : container.name = name)
    (hdata : data.updateAvailable = some (isUpdateAvailable row localDigests found)) :
    Triple (checkContract hostId name) (· = .read localDigests row found)
      (insertOrUpdateContainer row host.id container.name data : BackendM σ ContainersModel)
      (fun _ => True) fun _ => True := by
  refine .bind_of_wp (Q := fun again p => p = .reread localDigests row found again) ?_ ?_
  · rintro s p rfl
    refine ⟨trivial, fun r _ => ?_⟩
    cases r with
    | ok again => exact if_pos ⟨hhost, hname⟩
    | raised _ => trivial
  · intro again
    have hrefresh : Triple (checkContract hostId name) (fun _ => True)
        (Act.performE (I := Backend) (.refresh host.id container.name) Reply.read :
          BackendM σ ContainersModel) (fun _ => True) fun _ => True :=
      triple_neutral (issues_performE trivial)
    cases again with
    | some again =>
        refine .bind (.performE ?_ (fun _ _ _ _ _ _ => trivial) fun _ _ _ _ _ _ => trivial)
          fun _ => hrefresh
        rintro p rfl -
        exact ⟨localDigests, row, found, again, data, rfl, by rw [hname], hdata⟩
    | none =>
        refine .bind (.performE ?_ (fun _ _ _ _ _ _ => trivial) fun _ _ _ _ _ _ => trivial)
          fun _ => hrefresh
        rintro p rfl -
        exact ⟨localDigests, row, found, rfl, hdata⟩

theorem triple_saveCheck_row {localDigests found : List String} {row : Option ContainersModel}
    (hhost : host.id = hostId) (hname : container.name = name) :
    Triple (checkContract hostId name) (· = .read localDigests row found)
      (saveCheck host container row localDigests found) (fun _ => True) fun _ => True := by
  have hsave (checkedAt : Int) (changedAt : Option Int) :
      Triple (checkContract hostId name) (· = .read localDigests row found)
        (insertOrUpdateContainer row host.id container.name (checkData row container.image
          localDigests found checkedAt changedAt) : BackendM ContainerActionResult ContainersModel)
        (fun _ => True) fun _ => True :=
    triple_insertOrUpdate_row hhost hname rfl
  refine .bind (triple_neutral neutral_now) fun checkedAt => .ite ?_ ?_
  · exact .bind (triple_neutral neutral_now) fun changedAt => .bind (.pure _ fun _ h => h) fun _ =>
      .bind (hsave _ _) fun _ => .pure _ fun _ h => h
  · exact .bind (.pure _ fun _ h => h) fun _ => .bind (hsave _ _) fun _ => .pure _ fun _ h => h

theorem triple_checkDigests_row {spec : String} {delay : Int} {localDigests : List String}
    (hhost : host.id = hostId) (hname : container.name = name) :
    Triple (checkContract hostId name) (· = .idle localDigests)
      (checkDigests host container spec delay localDigests) (fun _ => True) fun _ => True := by
  refine .bind (.modify _ fun _ h => h) fun _ =>
    .bind_of_wp (Q := fun row p => p = .read localDigests row []) ?_ fun row => ?_
  · rintro s p rfl
    refine ⟨trivial, fun r _ => ?_⟩
    cases r with
    | ok row => exact if_pos ⟨hhost, hname⟩
    | raised _ => trivial
  · refine .bind (triple_neutral (neutral_cacheUpdate _ _ _)) fun _ => ?_
    refine .bind (triple_neutral (neutral_pullBeforeCheck _ _)) fun _ => ?_
    refine .bind_of_wp (Q := fun found p => p = .read localDigests row found)
      (fun s p hp => wp_getRemoteDigests_row hp) fun found => ?_
    refine .bind (.modify _ fun _ h => h) fun _ => ?_
    refine .bind (triple_saveCheck_row hhost hname) fun _ => ?_
    exact .bind (.get fun _ h => h) fun result =>
      triple_neutral (neutral_cacheUpdate _ _ _)

theorem triple_checkImage_row {spec : String} {delay : Int} (hhost : host.id = hostId)
    (hname : container.name = name) :
    Triple (checkContract hostId name) CheckPhase.IsIdle (checkImage host container spec delay)
      (fun _ => True) fun _ => True := by
  refine .bind (.modify _ fun _ h => h) fun _ => .bind_of_wp
    (Q := fun image p => p = .idle (image.repoDigests.getD [])) ?_ fun localImage => ?_
  · rintro s p ⟨_, rfl⟩
    refine ⟨trivial, fun r _ => ?_⟩
    cases r <;> trivial
  · refine .bind (.modify _ fun _ h => h) fun _ => ?_
    cases hdigests : localImage.repoDigests.getD [] with
    | nil =>
        exact triple_end_neutral (neutral_cacheUpdate _ _ _)
    | cons localDigest localDigests => exact triple_checkDigests_row hhost hname

theorem triple_checkOneContainer_row (hhost : host.id = hostId) (hname : container.name = name) :
    Triple (checkContract hostId name) CheckPhase.IsIdle
      (checkOneContainer host container : BackendM σ ContainerActionResult) (fun _ => True)
      fun _ => True := by
  refine .bind (triple_neutral neutral_getSettings) fun settings => ?_
  refine .bind (triple_neutral (neutral_cacheGet _)) fun state =>
    .ite ?_ (triple_end_neutral (issues_pure _))
  refine triple_withObjects (triple_withSession (Q := fun _ => True) (R := fun _ => True) ?_
    (fun _ _ => ⟨trivial, fun reply _ => by cases reply <;> trivial⟩)
    fun _ _ => ⟨trivial, fun _ _ => trivial⟩)
  refine .bind (Q := fun _ => True) (.tryCatch (R := fun _ => True) ?_ fun e => ?_) fun _ =>
    triple_end_neutral issues_get
  · refine .bind (triple_neutral (neutral_cacheSet _ _)) fun _ => .ite ?_ ?_
    · exact triple_checkImage_row hhost hname
    · exact triple_end_neutral (neutral_cacheUpdate _ _ _)
  · exact .bind (triple_end_neutral issues_get) fun result =>
      triple_end_neutral (neutral_cacheUpdate _ _ _)

end

/-! ## Checks of other containers -/

section

variable {σ α : Type} {hostId : Int} {name : String} {host : HostsModel}
  {container : ContainerInspectResult}

theorem elsewhere_of_neutral {op : BackendOp} (h : op.Neutral) : op.Elsewhere hostId name := by
  cases op <;> trivial

theorem CheckPhase.IsIdle.elsewhere {p : CheckPhase} {e : Event Backend} (hp : p.IsIdle)
    (h : e.op.Elsewhere hostId name) : ((checkContract hostId name).next p e).IsIdle := by
  obtain ⟨localDigests, rfl⟩ := hp
  obtain ⟨op, r⟩ := e
  cases op with
  | agent host site request =>
      cases request with
      | imageInspect spec =>
          change Reply ImageInspectResult at r
          cases r <;> exact ⟨_, rfl⟩
      | _ => exact ⟨_, rfl⟩
  | remoteDigest spec localDigest =>
      change Reply (Option String) at r
      cases r <;> exact ⟨_, rfl⟩
  | selectContainer host n =>
      change Reply (Option ContainersModel) at r
      cases r with
      | ok row => exact ⟨_, if_neg h⟩
      | raised _ => exact ⟨_, rfl⟩
  | commit | insert => exact ⟨_, if_neg fun hboth => h hboth.1⟩
  | _ => exact ⟨_, rfl⟩

theorem triple_elsewhere {P : CheckPhase → Prop} {x : BackendM σ α}
    (hP : ∀ p e, P p → e.op.Elsewhere hostId name → P ((checkContract hostId name).next p e))
    (h : Issues (BackendOp.Elsewhere hostId name) x) :
    Triple (checkContract hostId name) P x P fun _ => True := by
  refine Triple.mono (.of_issues h (fun p op _ hop => ?_) fun p e hp hop _ => hP p e hp hop)
    (fun _ h => h) (fun _ h => h) fun _ _ => trivial
  cases op with
  | commit | insert => exact fun h => (hop h).elim
  | selectContainers => exact hop
  | _ => trivial

theorem elsewhere_insertOrUpdateContainer (loaded : Option ContainersModel) {h : Int} {n : String}
    (data : ContainerData) (hother : ¬ (h = hostId ∧ n = name)) :
    Issues (BackendOp.Elsewhere hostId name) (insertOrUpdateContainer loaded h n data :
      BackendM σ ContainersModel) := by
  have hcommit (changes : ContainerData) :
      BackendOp.Elsewhere hostId name (.commit h [(n, changes)]) := by
    rintro ⟨hhost, hname⟩
    exact hother ⟨hhost, by simpa [eq_comm] using hname⟩
  refine issues_bind (issues_performE hother) fun row => ?_
  cases row with
  | some row =>
      exact issues_bind (issues_performE (hcommit _)) fun _ => issues_performE trivial
  | none => exact issues_bind (issues_performE hother) fun _ => issues_performE trivial

theorem elsewhere_checkDigests (spec : String) (delay : Int) (localDigests : List String)
    (hother : ¬ (host.id = hostId ∧ container.name = name)) :
    Issues (BackendOp.Elsewhere hostId name)
      (checkDigests host container spec delay localDigests) := by
  refine issues_bind (issues_modify _) fun _ => issues_bind (issues_performE hother) fun row => ?_
  refine issues_bind (issues_perform trivial) fun _ => ?_
  refine issues_bind (issues_pullBeforeCheck trivial trivial trivial) fun _ => ?_
  refine issues_bind (issues_getRemoteDigests (fun _ => trivial) trivial _) fun found => ?_
  refine issues_bind (issues_modify _) fun _ => ?_
  refine issues_bind (issues_saveCheck trivial fun data =>
    elsewhere_insertOrUpdateContainer _ _ hother) fun _ => ?_
  exact issues_bind issues_get fun result => issues_perform trivial

theorem elsewhere_checkOneContainer (hother : ¬ (host.id = hostId ∧ container.name = name)) :
    Issues (BackendOp.Elsewhere hostId name)
      (checkOneContainer host container : BackendM σ ContainerActionResult) := by
  refine issues_bind (issues_perform trivial) fun settings => ?_
  refine issues_bind (issues_perform trivial) fun state => issues_ite ?_ (issues_pure _)
  refine issues_zoom (issues_withSession trivial (issues_bind (issues_tryCatch ?_ fun e => ?_)
    fun _ => issues_get))
  · refine issues_bind (issues_perform trivial) fun _ => issues_ite ?_ (issues_perform trivial)
    refine issues_bind (issues_modify _) fun _ => issues_bind (issues_performE trivial) fun _ => ?_
    refine issues_bind (issues_modify _) fun _ => ?_
    split
    · exact issues_perform trivial
    · exact elsewhere_checkDigests _ _ _ hother
  · exact issues_bind issues_get fun result => issues_perform trivial

end

/-! ## The check of a host -/

section

variable {σ : Type} {hostId : Int} {name : String} {host : HostsModel}

theorem containersToCheck_nodup (manual : Bool) (containers : HostContainers)
    (rows : List ContainersModel) :
    ((containersToCheck manual containers rows).map ContainerInspectResult.name).Nodup := by
  unfold containersToCheck sortContainersByCheckedAt
  refine ((List.perm_insertionSort _ _).map _).nodup_iff.2 ?_
  split
  · exact containers.nodup
  · exact (List.filter_sublist.map _).nodup containers.nodup

theorem triple_checks_row {l : List ContainerInspectResult}
    (hnodup : (l.map ContainerInspectResult.name).Nodup)
    {f : ContainerInspectResult → ContainerActionResult → BackendM σ Unit}
    (hf : ∀ c res, Issues BackendOp.Neutral (f c res)) :
    Triple (checkContract hostId name) CheckPhase.IsIdle
      (l.forM fun c => do
        let res ← checkOneContainer host c
        f c res) (fun _ => True) fun _ => True := by
  have hothers {c : ContainerInspectResult} (hother : ¬ (host.id = hostId ∧ c.name = name)) :
      Issues (BackendOp.Elsewhere hostId name) (do
        let res ← checkOneContainer host c
        f c res : BackendM σ Unit) :=
    issues_bind (elsewhere_checkOneContainer hother) fun res s =>
      (hf c res s).mono fun _ => elsewhere_of_neutral
  induction l with
  | nil => exact .pure () fun _ _ => trivial
  | cons c l ih =>
      rw [List.map_cons, List.nodup_cons] at hnodup
      by_cases hc : host.id = hostId ∧ c.name = name
      · refine .bind (Q := fun _ => True) (.bind (triple_checkOneContainer_row hc.1 hc.2)
          fun res => triple_neutral (hf c res)) fun _ => ?_
        refine triple_elsewhere (fun _ _ _ _ => trivial) (issues_forM_of_mem fun c' hc' =>
          hothers fun h => hnodup.1 ?_)
        rw [hc.2, ← h.2]
        exact List.mem_map_of_mem hc'
      · exact .bind (triple_elsewhere (fun _ _ hp hop => hp.elsewhere hop) (hothers hc)) fun _ =>
          ih hnodup.2

theorem triple_checkHostContainers_row (manual : Bool) :
    Triple (checkContract hostId name) CheckPhase.IsIdle
      (checkHostContainers host manual : BackendM σ (Option HostActionResult)) (fun _ => True)
      fun _ => True := by
  refine .bind (triple_neutral (neutral_cacheGet _)) fun state =>
    .ite ?_ (triple_end_neutral (issues_pure _))
  refine triple_withObjects (.bind (Q := fun _ => True) (.tryCatch (R := fun _ => True) ?_
    fun e => triple_end_neutral (neutral_cacheUpdate _ _ _)) fun _ =>
      triple_end_neutral (issues_bind issues_get fun _ => issues_pure _))
  refine .bind (triple_neutral (neutral_cacheSet _ _)) fun _ => ?_
  refine .bind (triple_neutral (issues_performE trivial)) fun containers => ?_
  refine .bind (triple_neutral (issues_withSession trivial (issues_performE trivial)))
    fun rows => ?_
  refine .bind (triple_neutral (neutral_cacheUpdate _ _ _)) fun _ => ?_
  refine .bind (triple_checks_row (containersToCheck_nodup _ _ _) fun _ _ => issues_modify _)
    fun _ => ?_
  exact .bind (triple_end_neutral issues_get) fun result =>
    triple_end_neutral (neutral_cacheUpdate _ _ _)

end

end Tugtainer
