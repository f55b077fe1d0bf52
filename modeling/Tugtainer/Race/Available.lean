import Tugtainer.Interaction.Schedule
import Tugtainer.Plan.Selection
import Tugtainer.Race.World

/-!
# Which of the two has the last word

A container is checked and updated at the same time, while images are pushed. When both have
finished, its row says that an update is available exactly if the check had the last word
(`available_iff_hasLastWord`): it compares what the registry has with the image that it
inspected at its start, and writes that after the update has read the row. Whether the container
is outdated is a matter of the order of the lookup, the pull and the pushes
(`outdated_iff_of_base`). The two together say in which orders the row is right
(`available_iff_outdated_iff`).
-/

namespace Tugtainer

open Python Interaction Act

def RaceWorld.Inv (E : RaceEnv) (w : RaceWorld) (p : CheckPhase) (u : UpdatePhase) : Prop :=
  RowInv E.hostId E.name (w.row E) w.queried w.early p u

section

variable {E : RaceEnv} {w w' : RaceWorld} {p : CheckPhase} {u : UpdatePhase}

theorem RaceWorld.Inv.of_same (h : w.Inv E p u) (hrow : w'.row E = w.row E)
    (hqueried : w'.queried = w.queried) (hearly : w'.early = w.early) : w'.Inv E p u := by
  unfold RaceWorld.Inv
  rw [hrow, hqueried, hearly]
  exact h

theorem RaceWorld.Inv.agent (h : w.Inv E p u) {hostId : Int} {site : Option Site}
    {request : Request} (r : Reply request.Result) :
    (w.next E ⟨.agent hostId site request, r⟩).Inv E p u := by
  change (w.requested E hostId site request (Reply.effect r)).Inv E p u
  cases Reply.effect r with
  | none => exact h
  | some result =>
      unfold RaceWorld.requested
      dsimp only
      split
      · exact h.of_same rfl rfl rfl
      · exact h

theorem RaceWorld.Inv.lookedUp (h : w.Inv E p u) {spec : String} (digest : Option String) :
    (w.lookedUp E spec digest).Inv E p u := by
  unfold RaceWorld.lookedUp
  split
  · exact h.of_same rfl rfl rfl
  · exact h

/-- A check writes rows: that of the container as it has found it, or others. -/
theorem RaceWorld.Inv.check_write (h : w.Inv E p u) {effect touches : Prop} [Decidable effect]
    [Decidable touches] {table : Table} {keyed : table.Keyed}
    (htouches : touches → ∃ localDigests first found again,
      p = .reread localDigests first found again ∧ hasUpdate (table E.hostId E.name) =
        if isUpdateAvailable first localDigests found = hasUpdate first then hasUpdate (w.row E)
        else isUpdateAvailable first localDigests found)
    (hother : ¬ touches → table E.hostId E.name = w.row E) :
    (if effect then w.written table keyed (decide touches) else w).Inv E
      (if touches ∧ effect then p.save else p) u := by
  by_cases heffect : effect
  · rw [if_pos heffect]
    by_cases htouch : touches
    · obtain ⟨localDigests, first, found, again, rfl, hrow⟩ := htouches htouch
      rw [if_pos ⟨htouch, heffect⟩, decide_eq_true htouch]
      exact RowInv.save h hrow
    · rw [if_neg fun hboth => htouch hboth.1, decide_eq_false htouch]
      exact h.of_same (hother htouch) rfl (Bool.or_false _)
  · rw [if_neg heffect, if_neg fun hboth => heffect hboth.2]
    exact h

/-- A check writes its conclusion only where it differs from the row that it has read. -/
theorem Table.hasUpdate_commit_check {t : Table} {hostId : Int} {name : String}
    {first : Option ContainersModel} {again : ContainersModel} {data : ContainerData}
    {available : Bool} (hdata : data.updateAvailable = some available) (hfirst : first.isSome)
    (hrow : (t hostId name).isSome) :
    hasUpdate (t.commit hostId [(name, data.changes (first.getD again))] hostId name) =
      if available = hasUpdate first then hasUpdate (t hostId name) else available := by
  obtain ⟨row, rfl⟩ := Option.isSome_iff_exists.1 hfirst
  change hasUpdate (t.update hostId (name, data.changes row) hostId name) = _
  rw [Table.hasUpdate_update, if_pos ⟨rfl, hrow⟩]
  by_cases hsame : available = row.updateAvailable <;>
    simp [ContainerData.changes, ContainerData.changed, hdata, hasUpdate, hsame]

theorem RaceWorld.Inv.check (h : w.Inv E p u) {e : Event Backend}
    (hguar : (checkContract E.hostId E.name).guar p e.op) (hans : w.Answers E e) :
    (w.next E e).Inv E ((checkContract E.hostId E.name).next p e) u := by
  obtain ⟨op, r⟩ := e
  cases op with
  | selectContainer hostId name =>
      cases r with
      | raised _ => exact h
      | ok row =>
          obtain rfl : row = w.table hostId name := hans
          change RaceWorld.Inv E { w with checking := _ } (if _ then _ else p) u
          split
          · rename_i hsame
            obtain ⟨rfl, rfl⟩ := hsame
            exact h.select
          · exact h
  | selectContainers hostId names => exact (hguar : False).elim
  | remoteDigest spec localDigest =>
      cases r with
      | raised _ => exact h
      | ok digest => exact RowInv.find (h.lookedUp digest) digest
  | agent hostId site request =>
      have hsame : (w.next E ⟨.agent hostId site request, r⟩).Inv E p u := h.agent r
      cases request with
      | imageInspect spec =>
          cases r with
          | raised _ => exact hsame
          | ok image => exact RowInv.inspect hsame _
      | _ => exact hsame
  | commit hostId changes =>
      refine h.check_write (fun htouches => ?_) fun hnot =>
        Table.commit_of_not_mem fun hsame => hnot ⟨hsame.1.symm, hsame.2⟩
      obtain ⟨localDigests, first, found, again, data, rfl, rfl, hdata⟩ := hguar htouches
      obtain ⟨hfirst, hagain⟩ := h.fits
      refine ⟨localDigests, first, found, some again, rfl, ?_⟩
      rw [htouches.1]
      exact Table.hasUpdate_commit_check hdata (hfirst.trans hagain.symm) hagain.symm
  | insert hostId name data =>
      refine h.check_write (fun htouches => ?_) fun hnot =>
        Table.set_of_ne _ _ fun hsame => hnot ⟨hsame.1.symm, hsame.2.symm⟩
      obtain ⟨localDigests, first, found, rfl, hdata⟩ := hguar htouches
      obtain ⟨hfirst, hagain⟩ := h.fits
      have hrow : w.row E = none := by simpa using hagain.symm
      obtain rfl : first = none := by simpa [hrow] using hfirst
      refine ⟨localDigests, none, found, none, rfl, ?_⟩
      rw [htouches.1, htouches.2, Table.set_self, hrow]
      cases havailable : isUpdateAvailable none localDigests found <;>
        simp [hasUpdate, ContainerData.newRow, ContainerData.apply, hdata, havailable]
  | _ => exact h

theorem RaceWorld.Inv.update (h : w.Inv E p u) {e : Event Backend}
    (hguar : updateContract.guar u e.op) (hans : w.Answers E e) :
    (w.next E e).Inv E p (updateContract.next u e) := by
  obtain ⟨op, r⟩ := e
  cases op with
  | selectContainer hostId name => exact (hguar : False).elim
  | insert hostId name data => exact (hguar : False).elim
  | selectContainers hostId names =>
      obtain rfl : u = .before := hguar
      cases r with
      | raised _ => exact h
      | ok rows =>
          refine RowInv.updateSelect h fun hhost hname => ?_
          subst hhost
          exact rowOf_of_lists w.keyed hans hname
  | remoteDigest spec localDigest =>
      cases r with
      | raised _ => exact h
      | ok digest => exact h.lookedUp digest
  | agent hostId site request => exact h.agent r
  | commit hostId changes =>
      obtain ⟨clock, items, rows, rfl, rfl⟩ := hguar
      change RaceWorld.Inv E (if _ then _ else _) p (if _ then _ else _)
      split
      · have hclear (change : String × ContainerData)
            (hchange : change ∈ updatedChanges clock items rows) :
            change.2.updateAvailable ≠ some true :=
          (leavesDigests_updatedChanges hchange).updateAvailable
        -- the rows were read before
        have hqueried : w.queried = true := h.queried_iff.2 (by simp)
        have hearly (touches : Bool) : (w.early || touches && !w.queried) = w.early := by
          simp [hqueried]
        change RowInv _ _ _ _ (_ || _ && _) _ _
        rw [hearly]
        refine RowInv.updateSave h (fun hclears => (clears_updatedChanges.1 hclears).1)
          Table.isSome_commit fun hhost => ?_
        subst hhost
        exact Table.hasUpdate_commit hclear
      · exact h
  | _ => exact h

end

/-! ## The image of the container -/

/-- The container runs an image that has the digest. -/
def RaceWorld.Runs (E : RaceEnv) (w : RaceWorld) (digest : String) : Prop :=
  ∃ image ∈ (w.docker.containers E.name).bind DockerContainer.image, E.carries image digest

/-- The image that the container was created from has the digest. -/
def RaceWorld.CreatedWith (E : RaceEnv) (w : RaceWorld) (digest : String) : Prop :=
  ∃ image ∈ w.created, E.carries image digest

/-- The container runs the image that it was created from, and this image and the one that the
tag names have the digests that are known of them. -/
structure RaceWorld.Traced (E : RaceEnv) (w : RaceWorld) : Prop where
  named : ∀ d ∈ w.named, ∃ image ∈ w.docker.images (E.canonical E.tag), E.carries image d
  created : (w.docker.containers E.name).bind DockerContainer.image = w.created
  base : ∀ d ∈ w.base, w.CreatedWith E d

theorem RaceWorld.Traced.runs_iff {E : RaceEnv} {w : RaceWorld} (h : w.Traced E)
    (digest : String) : w.Runs E digest ↔ w.CreatedWith E digest := by
  rw [Runs, h.created, CreatedWith]

section

variable {E : RaceEnv} {w : RaceWorld} {d : Docker}

theorem Docker.image_modifyContainer {f : DockerContainer → DockerContainer}
    (hf : ∀ c, (f c).image = c.image) (name n : String) :
    ((d.modifyContainer name f).containers n).bind DockerContainer.image =
      (d.containers n).bind DockerContainer.image := by
  unfold Docker.modifyContainer
  dsimp only
  split
  · cases d.containers n with
    | none => rfl
    | some c => exact hf c
  · rfl

/-- A pulled image has the digest of the registry, and no other request gives the tag an image
of which something is known. -/
theorem RaceWorld.Traced.named_performed (h : w.Traced E) {site : Option Site} {request : Request}
    {reply : Reply request.Result} {result : request.Result}
    (hans : w.Answers E ⟨.agent E.hostId site request, reply⟩)
    (hresult : Reply.effect reply = some result) :
    ∀ digest ∈ w.namedAfter E request result,
      ∃ image ∈ (w.docker.perform E.canonical request result).images (E.canonical E.tag),
        E.carries image digest := by
  intro digest hdigest
  cases request with
  | imagePull spec =>
      simp only [namedAfter] at hdigest
      simp only [Docker.perform, Docker.setImage, eq_comm (a := E.canonical E.tag)]
      split at hdigest
      · rename_i hsame
        obtain ⟨id, hid, rfl⟩ := Option.mem_map.1 hdigest
        rw [if_pos hsame]
        exact ⟨id, hid, hans result hresult id hid⟩
      · rename_i hsame
        rw [if_neg hsame]
        exact h.named digest hdigest
  | imageTag specOrId tag =>
      simp only [namedAfter] at hdigest
      simp only [Docker.perform, Docker.setImage, eq_comm (a := E.canonical E.tag)]
      split at hdigest
      · cases hdigest
      · rename_i hsame
        rw [if_neg hsame]
        exact h.named digest hdigest
  | commandRun command =>
      have himages : (w.docker.perform E.canonical (.commandRun command) result).images =
          w.docker.images := by
        simp only [Docker.perform]
        split <;> rfl
      rw [himages]
      exact h.named digest hdigest
  | _ => exact h.named digest hdigest

/-- No request changes the image of a container that is there already. -/
theorem RaceWorld.Traced.created_performed (h : w.Traced E) {request : Request}
    {result : request.Result} :
    ((w.docker.perform E.canonical request result).containers E.name).bind
      DockerContainer.image = w.createdAfter E request result := by
  have hmodify (name : String) {f : DockerContainer → DockerContainer}
      (hf : ∀ c, (f c).image = c.image) :
      ((w.docker.modifyContainer name f).containers E.name).bind DockerContainer.image =
        w.created :=
    (Docker.image_modifyContainer hf name E.name).trans h.created
  cases request with
  | containerCreate body =>
      simp only [Docker.perform, createdAfter]
      split
      · rfl
      · exact h.created
  | containerRemove name =>
      simp only [Docker.perform, createdAfter]
      split
      · rfl
      · exact h.created
  | containerStart name | containerStop name | networkDisconnect _ name _ =>
      exact hmodify name fun _ => rfl
  | commandRun command =>
      simp only [Docker.perform]
      split
      · exact h.created
      · exact hmodify _ fun _ => rfl
  | _ => exact h.created

/-- What is known of the tag is known of a container that is created from it. -/
theorem RaceWorld.Traced.base_performed (h : w.Traced E) {request : Request}
    {result : request.Result} :
    ∀ digest ∈ w.baseAfter E request result,
      ∃ image ∈ w.createdAfter E request result, E.carries image digest := by
  intro digest hdigest
  cases request with
  | containerCreate body =>
      simp only [baseAfter] at hdigest
      simp only [createdAfter]
      split at hdigest
      · rename_i hname
        rw [if_pos hname]
        split at hdigest
        · rename_i hsame
          rw [hsame]
          exact h.named digest hdigest
        · cases hdigest
      · rename_i hname
        rw [if_neg hname]
        exact h.base digest hdigest
  | containerRemove name =>
      simp only [baseAfter] at hdigest
      simp only [createdAfter]
      split at hdigest
      · cases hdigest
      · rename_i hname
        rw [if_neg hname]
        exact h.base digest hdigest
  | _ => exact h.base digest hdigest

theorem RaceWorld.Traced.of_same {w' : RaceWorld} (h : w.Traced E) (hdocker : w'.docker = w.docker)
    (hnamed : w'.named = w.named) (hcreated : w'.created = w.created)
    (hbase : w'.base = w.base) : w'.Traced E where
  named := by
    rw [hdocker, hnamed]
    exact h.named
  created := by
    rw [hdocker, hcreated]
    exact h.created
  base := by
    unfold RaceWorld.CreatedWith
    rw [hcreated, hbase]
    exact h.base

theorem RaceWorld.Traced.next (h : w.Traced E) {e : Event Backend} (hans : w.Answers E e) :
    (w.next E e).Traced E := by
  obtain ⟨op, r⟩ := e
  cases op with
  | agent hostId site request =>
      change (w.requested E hostId site request (Reply.effect r)).Traced E
      cases hresult : Reply.effect r with
      | none => exact h
      | some result =>
          unfold RaceWorld.requested
          dsimp only
          split
          · rename_i hhost
            subst hhost
            exact ⟨h.named_performed hans hresult, h.created_performed, h.base_performed⟩
          · exact h
  | remoteDigest spec localDigest =>
      cases r with
      | raised _ => exact h
      | ok digest =>
          change (w.lookedUp E spec digest).Traced E
          unfold RaceWorld.lookedUp
          split
          · exact h.of_same rfl rfl rfl rfl
          · exact h
  | selectContainers hostId names => cases r <;> exact h.of_same rfl rfl rfl rfl
  | commit hostId changes | insert hostId name data =>
      change RaceWorld.Traced E (if _ then _ else _)
      split
      · exact h.of_same rfl rfl rfl rfl
      · exact h
  | _ => exact h.of_same rfl rfl rfl rfl

end

/-! ## The two tasks -/

/-- What the tasks have done when they end: a result of the update is in the rows. -/
def RaceEnds (r : RaceResult) : CheckPhase ⊕ UpdatePhase → Prop
  | .inl _ => True
  | .inr u => ∀ result, r.1 = .ok (some result) → u.Reports result

section

variable {E : RaceEnv} {s s' : RacePool} {check : RaceCheck} {update : RaceUpdate}
  {table : Table} {keyed : table.Keyed} {registry : String → String} {docker : Docker}

theorem RaceCheck.wp_task (check : RaceCheck) :
    (check.task ()).wp (raceSystem E).view RaceEnds (.inl (.idle [])) := by
  have htask : Triple (checkContract E.hostId E.name) CheckPhase.IsIdle check.task (fun _ => True)
      fun _ => True := by
    cases check with
    | container host container =>
        refine .bind (Q := fun _ => True) ?_ fun _ => .pure _ fun _ h => h
        by_cases hsame : host.id = E.hostId ∧ container.name = E.name
        · exact triple_checkOneContainer_row hsame.1 hsame.2
        · exact (triple_elsewhere (fun _ _ hp hop => hp.elsewhere hop)
            (elsewhere_checkOneContainer hsame)).mono (fun _ h => h) (fun _ _ => trivial)
              fun _ h => h
    | host host manual =>
        exact .bind (triple_checkHostContainers_row manual) fun _ => .pure _ fun _ h => h
  exact Prog.wp_sum_inl (Prog.wp_mono (htask () (.idle []) ⟨[], rfl⟩) fun _ _ _ => trivial)

theorem RaceUpdate.wp_task (update : RaceUpdate) :
    (update.task ()).wp (raceSystem E).view RaceEnds (.inr .before) := by
  refine Prog.wp_sum_inr (Prog.wp_mono (wp_execute_rows update.env update.host update.containers
    update.plan update.dockerVersion ()) ?_)
  rintro ⟨_ | res, _⟩ u hu result hres
  · cases hres
  · exact hu result (Except.ok.inj hres)

/-- The two tasks with how far they have come, and what is known of the row. -/
def RaceOk (E : RaceEnv) (s : RacePool) : Prop :=
  ∃ x p y u, s.tasks = [(x, .inl p), (y, .inr u)] ∧ s.world.Inv E p u

theorem RaceOk.step {a : Move Backend} (h : RaceOk E s)
    (hwp : System.TasksWp (raceSystem E) RaceEnds s) (hstep : (raceSystem E).Step s a s') :
    RaceOk E s' := by
  obtain ⟨x, p, y, u, htasks, hinv⟩ := h
  cases hstep with
  | start hstart => exact hstart.elim
  | env henv =>
      obtain ⟨spec, digest, rfl⟩ := henv
      exact ⟨x, p, y, u, htasks, hinv.of_same rfl rfl rfl⟩
  | @event i op k r v hget _ hans =>
      have hguar := (hwp i _ v hget).1
      rw [htasks] at hget
      match i with
      | 0 =>
          cases hget
          refine ⟨k r, _, y, u, by rw [htasks]; rfl, hinv.check hguar hans⟩
      | 1 =>
          cases hget
          refine ⟨x, p, k r, _, by rw [htasks]; rfl, hinv.update hguar hans⟩

theorem raceOk_of_reaches
    (h : (raceSystem E).Reaches (fun _ _ => True)
      (racePool E check update table keyed registry docker) s) :
    System.TasksWp (raceSystem E) RaceEnds s ∧ RaceOk E s := by
  refine h.inv (P := fun s => System.TasksWp (raceSystem E) RaceEnds s ∧ RaceOk E s) ⟨?_, ?_⟩ ?_
  · intro i p v hget
    match i with
    | 0 =>
        cases hget
        exact check.wp_task
    | 1 =>
        cases hget
        exact update.wp_task
  · exact ⟨_, _, _, _, rfl, RowInv.init _ _⟩
  · rintro s a s' ⟨hwp, hok⟩ hstep -
    refine ⟨hwp.step (fun _ _ (hstart : False) => hstart.elim) ?_ hstep, hok.step hwp hstep⟩
    exact fun _ v _ _ => by cases v <;> trivial

theorem traced_of_reaches
    (h : (raceSystem E).Reaches (fun _ _ => True)
      (racePool E check update table keyed registry docker) s) : s.world.Traced E := by
  refine h.inv (P := fun s => s.world.Traced E) ⟨nofun, rfl, nofun⟩ ?_
  rintro s a s' htraced hstep -
  cases hstep with
  | start hstart => exact hstart.elim
  | env henv =>
      obtain ⟨spec, digest, rfl⟩ := henv
      exact htraced.of_same rfl rfl rfl rfl
  | event _ _ hans => exact htraced.next hans

/-! ## The end -/

/-- The row says that an update is available. -/
def RaceWorld.Available (E : RaceEnv) (w : RaceWorld) : Prop :=
  hasUpdate (w.row E) = true

/-- The digest that was seen last is not one of the image that the container runs. -/
def RaceWorld.Outdated (E : RaceEnv) (w : RaceWorld) : Prop :=
  ∃ d, w.seen = some d ∧ ¬ w.Runs E d

/-- The check has saved, not before the update read the row, that a digest is missing from
those of the image that it inspected, and had read a row without an available update. -/
def CheckPhase.HasLastWord (p : CheckPhase) (w : RaceWorld) : Prop :=
  w.early = false ∧ ∃ localDigests row found, p = .saved localDigests row found ∧
    isDigestMissing localDigests found = true ∧ hasUpdate row = false

/-- Both tasks have finished, and the update says that the container was updated. -/
structure RaceOver (E : RaceEnv) (s : RacePool) (p : CheckPhase) : Prop where
  check : ∃ r, s.tasks[0]? = some (.ret r, .inl p)
  update : ∃ result u, s.tasks[1]? = some (.ret (.ok (some result), ()), .inr u) ∧
    result.hostId = E.hostId ∧
      ∃ item ∈ result.items, item.container.name = E.name ∧ item.result = some .updated

theorem CheckPhase.outcome_iff {p : CheckPhase} {w : RaceWorld} :
    p.outcome w.early = true ↔ p.HasLastWord w := by
  cases p with
  | saved localDigests row found =>
      simp only [CheckPhase.outcome, CheckPhase.HasLastWord, Bool.and_eq_true, Bool.not_eq_true',
        CheckPhase.saved.injEq, ← and_assoc]
      by_cases hfound : found = []
      · -- a failed lookup concludes what the row says already
        subst hfound
        have hsame : isUpdateAvailable row localDigests [] = hasUpdate row := if_pos rfl
        cases havailable : hasUpdate row <;> simp [hsame, havailable, isDigestMissing]
      · have hmissing : isUpdateAvailable row localDigests found =
            isDigestMissing localDigests found := if_neg hfound
        rw [hmissing]
        constructor
        · rintro ⟨⟨hmiss, hrow⟩, hearly⟩
          exact ⟨hearly, _, _, _, ⟨⟨⟨⟨rfl, rfl⟩, rfl⟩, hmiss⟩, hrow⟩⟩
        · rintro ⟨hearly, _, _, _, ⟨⟨⟨⟨rfl, rfl⟩, rfl⟩, hmiss⟩, hrow⟩⟩
          exact ⟨⟨hmiss, hrow⟩, hearly⟩
  | _ => simp [CheckPhase.outcome, CheckPhase.HasLastWord]

/-- In the end the row says that an update is available exactly if the check had the last
word. -/
theorem available_iff_hasLastWord {p : CheckPhase}
    (h : (raceSystem E).Reaches (fun _ _ => True)
      (racePool E check update table keyed registry docker) s) (hover : RaceOver E s p) :
    s.world.Available E ↔ p.HasLastWord s.world := by
  obtain ⟨hwp, x, p', y, u, htasks, hinv⟩ := raceOk_of_reaches h
  obtain ⟨r, hcheck⟩ := hover.check
  obtain ⟨result, u', hupdate, hhost, item, hitem, hname, hresult⟩ := hover.update
  have hreports := hwp 1 _ _ hupdate result rfl
  rw [htasks] at hcheck hupdate
  cases hcheck
  cases hupdate
  have hmem : item ∈ result.items.filter fun item => item.result.isSome :=
    List.mem_filter.2 ⟨hitem, by rw [hresult]; rfl⟩
  obtain ⟨clock, rows, rfl⟩ := hreports.resolve_left (List.ne_nil_of_mem hmem)
  have hasked : E.name ∈ (result.items.filter fun item => item.result.isSome).map
      fun item => item.container.name := List.mem_map.2 ⟨item, hmem, hname⟩
  rw [← CheckPhase.outcome_iff, ← hinv.settled ⟨hhost, hasked, fun havailable =>
    clears_updatedChanges.2 ⟨havailable, item, hmem, hname, hresult⟩⟩]
  exact Iff.rfl

theorem RaceWorld.Traced.outdated_iff {w : RaceWorld} (h : w.Traced E) :
    w.Outdated E ↔ ∃ d, w.seen = some d ∧ ¬ w.CreatedWith E d := by
  simp only [Outdated, h.runs_iff]

/-- A container that was created from the image of the last pull is outdated exactly if the
lookup came after the pull, and obtained a digest that was pushed in between and that the image
does not have. -/
theorem outdated_iff_of_base {w : RaceWorld} (h : w.Traced E) (hbase : w.base = w.pulled) :
    w.Outdated E ↔ ∃ d, w.looked = some d ∧ w.pulled ≠ some d ∧ ¬ w.CreatedWith E d := by
  have hcreated {d : String} (hpulled : w.pulled = some d) : w.CreatedWith E d :=
    h.base d (hbase.trans hpulled)
  rw [h.outdated_iff]
  unfold RaceWorld.seen
  cases hlooked : w.looked with
  | none =>
      refine iff_of_false ?_ nofun
      rintro ⟨d, hpulled, hnot⟩
      exact hnot (hcreated (by simpa using hpulled))
  | some d =>
      simp only [Option.some_or, Option.some.injEq, exists_eq_left']
      exact ⟨fun hnot => ⟨fun hpulled => hnot (hcreated hpulled), hnot⟩, And.right⟩

/-- The order of the lookup and the pull, the digests that they obtained, and whether the check
had the last word go together. -/
structure RaceWorld.RowRight (E : RaceEnv) (w : RaceWorld) (p : CheckPhase) : Prop where
  /-- the lookup came before the pull of the image that the container was created from -/
  pulled : w.looked = none → w.base = w.pulled → ¬ p.HasLastWord w
  /-- the lookup came after it, and nothing was pushed in between -/
  looked : ∀ d, w.looked = some d → w.base = some d → ¬ p.HasLastWord w
  /-- a digest was pushed before the lookup: it is that of another image, or the same one -/
  pushed : ∀ d, w.looked = some d → w.base ≠ some d → (p.HasLastWord w ↔ ¬ w.CreatedWith E d)
  /-- after the pull, the tag was given another image before the container was created -/
  renamed : w.looked = none → w.base ≠ w.pulled →
    (p.HasLastWord w ↔ ∃ d, w.pulled = some d ∧ ¬ w.CreatedWith E d)

/-- In the end the row is right about the digest that was seen last exactly in these orders:
where no image was pushed between the pull and the lookup, the check must not have the last
word, and where one was pushed it must have it if the container does not run that image. -/
theorem available_iff_outdated_iff {p : CheckPhase}
    (h : (raceSystem E).Reaches (fun _ _ => True)
      (racePool E check update table keyed registry docker) s) (hover : RaceOver E s p) :
    (s.world.Available E ↔ s.world.Outdated E) ↔ s.world.RowRight E p := by
  have htraced := traced_of_reaches h
  rw [available_iff_hasLastWord h hover]
  constructor
  · intro hright
    refine ⟨fun hlooked hbase hlast => ?_, fun d hlooked hbase hlast => ?_,
      fun d hlooked _ => ?_, fun hlooked _ => ?_⟩
    · obtain ⟨d, hd, -⟩ := (outdated_iff_of_base htraced hbase).1 (hright.1 hlast)
      cases hlooked.symm.trans hd
    · obtain ⟨d', hseen, hnot⟩ := hright.1 hlast
      obtain rfl : d = d' := by simpa [RaceWorld.seen, hlooked] using hseen
      exact hnot ((htraced.runs_iff d).2 (htraced.base d hbase))
    · rw [hright, htraced.outdated_iff]
      simp [RaceWorld.seen, hlooked]
    · rw [hright, htraced.outdated_iff]
      simp [RaceWorld.seen, hlooked]
  · intro hright
    cases hlooked : s.world.looked with
    | none =>
        by_cases hbase : s.world.base = s.world.pulled
        · refine iff_of_false (hright.pulled hlooked hbase) ?_
          rw [outdated_iff_of_base htraced hbase]
          simp [hlooked]
        · rw [hright.renamed hlooked hbase, htraced.outdated_iff]
          simp [RaceWorld.seen, hlooked]
    | some d =>
        have houtdated : s.world.Outdated E ↔ ¬ s.world.CreatedWith E d := by
          rw [htraced.outdated_iff]
          simp [RaceWorld.seen, hlooked]
        rw [houtdated]
        by_cases hbase : s.world.base = some d
        · exact iff_of_false (hright.looked d hlooked hbase) (not_not.2 (htraced.base d hbase))
        · exact hright.pushed d hlooked hbase

end

/-! ## A check that saves after the update -/

/-- The container `web` on the image that its tag had. Images go by the digest they carry. -/
def pushedEnv : RaceEnv where
  hostId := 1
  name := "web"
  tag := "web:latest"
  canonical := id
  carries image digest := image = digest

def pushedContainer : ContainerInspectResult where
  id := some "web@1"
  name := "web"
  image := some "sha256:d1"
  state := some { status := some "running" }
  config := some { image := some "web:latest" }
  name_nonblank := isBlank_web

def pushedHost : HostsModel := { id := 1, name := "host", containerHcTimeout := 0 }

def pushedUpdate : RaceUpdate where
  env := { allowHooks := false, ord := .ascending _, planFuel := 0 }
  host := pushedHost
  containers := { list := [pushedContainer], nodup := by decide }
  plan :=
    { toUpdate := {"web"}, affected := ∅, order := ["web"],
      order_nodup := List.nodup_singleton "web", disjoint := disjoint_web }
  dockerVersion := none

/-- The row of `web`, without an available update. -/
def pushedTable : Table := fun hostId name =>
  if hostId = 1 ∧ name = "web" then some { hostId := 1, name := "web" } else none

theorem pushedTable_keyed : pushedTable.Keyed := by
  intro hostId name row hrow
  unfold pushedTable at hrow
  split at hrow
  · rename_i hsame
    cases hrow
    exact ⟨hsame.1.symm, hsame.2.symm⟩
  · cases hrow

def pushedDocker : Docker where
  containers name :=
    if name = "web" then some { image := some "sha256:d1", running := true } else none
  images _ := some "sha256:d1"

def pushedInspect (c : DockerContainer) : ContainerInspectResult :=
  { pushedContainer with
    image := c.image
    state := some { status := some (if c.running then "running" else "exited") } }

def pushedAgent (w : RaceWorld) : (request : Request) → Option (Reply request.Result)
  | .imageInspect image => some (.ok { id := some image, repoDigests := some ["web@" ++ image] })
  | .imagePull spec =>
      some (.ok { id := some (w.registry spec), repoDigests := some ["web@" ++ w.registry spec] })
  | .containerExists name => some (.ok (w.docker.containers name).isSome)
  | .containerInspect _ => (w.docker.containers "web").map fun c => .ok (pushedInspect c)
  | .containerCreate body =>
      some (.ok (pushedInspect { image := w.docker.images (pushedEnv.canonical body.image) }))
  | .containerStart _ | .containerStop _ | .containerRemove _ => some (.ok ())
  | _ => none

/-- What the operations of both tasks are answered. -/
def pushedReply (w : RaceWorld) : (op : BackendOp) → Option op.Ans
  | .cacheGet _ => some none
  | .cacheSet _ _ | .cacheUpdate _ _ _ | .log _ | .sleepAbout _ => some ()
  | .settings => some
      { registryReqDelay := 0, pullBeforeCheck := false, updateOnlyRunning := false,
        delayUpdateFor := 0 }
  | .now => some (0 : Int)
  | .agent _ _ request => pushedAgent w request
  | .remoteDigest spec _ => some (.ok (some (w.registry spec)))
  | .selectContainer hostId name => some (.ok (w.table hostId name))
  | .selectContainers hostId [name] => some (.ok (w.table hostId name).toList)
  | .refresh hostId name => (w.table hostId name).map .ok
  | .commit _ _ | .close => some (.ok ())
  | _ => none

theorem Table.Keyed.lists_toList {t : Table} (h : t.Keyed) (hostId : Int) (name : String) :
    t.Lists hostId {n | n ∈ [name]} (t hostId name).toList where
  nodup := by cases t hostId name <;> simp
  mem_iff row := by
    simp only [Option.mem_toList, Set.mem_ofPred_eq, List.mem_singleton]
    constructor
    · intro hrow
      obtain ⟨hhost, hname⟩ := h hostId name row hrow
      exact ⟨hhost, hname, hname.symm ▸ hrow⟩
    · rintro ⟨-, rfl, hrow⟩
      exact hrow

theorem answers_pushedReply (w : RaceWorld) (op : BackendOp) (r : op.Ans)
    (h : pushedReply w op = some r) : w.Answers pushedEnv ⟨op, r⟩ := by
  cases op with
  | selectContainer hostId name =>
      obtain rfl := Option.some.inj h
      rfl
  | remoteDigest spec localDigest =>
      obtain rfl := Option.some.inj h
      exact fun _ => rfl
  | selectContainers hostId names =>
      match names with
      | [name] =>
          obtain rfl := Option.some.inj h
          exact w.keyed.lists_toList hostId name
  | agent hostId site request =>
      cases request with
      | imagePull spec =>
          obtain rfl := Option.some.inj h
          intro image himage id hid
          cases himage
          exact (Option.mem_some_iff.1 hid).symm
      | _ => trivial
  | _ => trivial

def pushedStart : RacePool :=
  racePool pushedEnv (.container pushedHost pushedContainer) pushedUpdate pushedTable
    pushedTable_keyed (fun _ => "sha256:d1") pushedDocker

/-- An image is pushed. The check looks its digest up, the update pulls it and comes to its
end, and then the check saves. -/
def pushedTurns : List (Turn Backend RaceResult (CheckPhase ⊕ UpdatePhase) RaceWorld) :=
  .env (·.push "web:latest" "sha256:d2") ::
    (List.replicate 8 (.step 0) ++ List.replicate 27 (.step 1) ++ List.replicate 8 (.step 0))

def pushedPool : RacePool :=
  ((raceSystem pushedEnv).runTurns pushedReply (fun _ => true) pushedStart pushedTurns).get
    (by decide +kernel)

theorem reaches_pushedPool :
    (raceSystem pushedEnv).Reaches (fun _ _ => True) pushedStart pushedPool := by
  refine System.reaches_of_runTurns answers_pushedReply (fun _ _ _ => trivial) (fun t ht => ?_)
    .refl (Option.some_get (by decide +kernel)).symm
  simp only [pushedTurns, List.mem_cons, List.mem_append, List.mem_replicate] at ht
  rcases ht with rfl | (⟨-, rfl⟩ | ⟨-, rfl⟩) | ⟨-, rfl⟩
  · exact fun w => ⟨_, _, rfl⟩
  · trivial
  · trivial
  · trivial

/-- The check has come to its end, and the result of the update is that `web` was updated. -/
def isOver : List (Prog Backend RaceResult × (CheckPhase ⊕ UpdatePhase)) → Bool
  | [(.ret _, .inl _), (.ret (.ok (some result), _), .inr _)] =>
      result.hostId = 1 &&
        result.items.any fun item => item.container.name = "web" && item.result = some .updated
  | _ => false

theorem raceOver_of_isOver {s : RacePool} (h : isOver s.tasks = true) :
    ∃ p, RaceOver pushedEnv s p := by
  obtain ⟨tasks, active, world⟩ := s
  change isOver tasks = true at h
  unfold isOver at h
  split at h
  · rename_i r p result _ u
    simp only [Bool.and_eq_true, List.any_eq_true, decide_eq_true_eq] at h
    exact ⟨p, ⟨r, rfl⟩, result, u, rfl, h⟩
  · cases h

theorem raceOver_pushedPool : ∃ p, RaceOver pushedEnv pushedPool p :=
  raceOver_of_isOver (by decide +kernel)

theorem available_iff_outdated_iff_pushed :
    ∃ p, RaceOver pushedEnv pushedPool p ∧
      ((pushedPool.world.Available pushedEnv ↔ pushedPool.world.Outdated pushedEnv) ↔
        pushedPool.world.RowRight pushedEnv p) :=
  raceOver_pushedPool.imp fun _ hover =>
    ⟨hover, available_iff_outdated_iff reaches_pushedPool hover⟩

/-- The row says that an update is available, though the container runs the image with the
digest that both have seen. -/
theorem check_saves_after_update :
    ¬ ∀ (E : RaceEnv) (check : RaceCheck) (update : RaceUpdate) (table : Table)
      (keyed : table.Keyed) (registry : String → String) (docker : Docker) (s : RacePool)
      (p : CheckPhase), (raceSystem E).Reaches (fun _ _ => True)
        (racePool E check update table keyed registry docker) s → RaceOver E s p →
          (s.world.Available E ↔ s.world.Outdated E) := by
  intro hclaim
  obtain ⟨p, hover⟩ := raceOver_pushedPool
  have havailable : pushedPool.world.Available pushedEnv := by
    unfold RaceWorld.Available
    decide +kernel
  obtain ⟨d, hseen, hnot⟩ := (hclaim _ _ _ _ _ _ _ _ _ reaches_pushedPool hover).1 havailable
  obtain rfl : "sha256:d2" = d := by
    have hd2 : pushedPool.world.seen = some "sha256:d2" := by decide +kernel
    exact Option.some.inj (hd2.symm.trans hseen)
  have himage : (pushedPool.world.docker.containers pushedEnv.name).bind DockerContainer.image =
      some "sha256:d2" := by decide +kernel
  exact hnot ⟨"sha256:d2", himage, rfl⟩

end Tugtainer
