import Tugtainer.Check.Record
import Tugtainer.Plan.Delay
import Tugtainer.Race.Available

/-!
# The two writers of a row

An execution writes the rows of the containers that it has updated, and a check that of the
container that it has checked. A check right after an update finds no update either, but the
executor reports no digests, so that those that the check saves are others:
`writersAgree_iff`.
-/

namespace Tugtainer

open Python Interaction World

/-! ## The digests that changes set -/

section

variable {row : ContainersModel} {changes : List (String × ContainerData)}
  {digests : List String}

theorem localDigests_foldl
    (hall : ∀ change ∈ changes, change.2.localDigests = none ∨
      change.2.localDigests = some digests)
    (hsome : row.localDigests = some digests ∨
      ∃ change ∈ changes, change.2.localDigests = some digests) :
    (changes.foldl (fun row change => change.2.apply row) row).localDigests = some digests := by
  induction changes generalizing row with
  | nil => simpa using hsome
  | cons change changes ih =>
      refine ih (fun c hc => hall c (List.mem_cons_of_mem _ hc)) ?_
      rcases hall change (by simp) with hnone | hset
      · rcases hsome with hrow | ⟨c, hc, hset⟩
        · exact .inl (by simp [ContainerData.apply, hnone, hrow])
        · rcases List.mem_cons.1 hc with rfl | hc
          · exact absurd (hnone.symm.trans hset) (by simp)
          · exact .inr ⟨c, hc, hset⟩
      · exact .inl (by simp [ContainerData.apply, hset])

end

/-! ## What an execution writes -/

/-- What the report of an execution makes of the table. -/
def Saves (t : Table) (result : UpdatePlanResult) (t' : Table) : Prop :=
  let items := result.items.filter fun item => item.result.isSome
  (items = [] ∧ t' = t) ∨ ∃ clock rows,
    t.Lists result.hostId {n | n ∈ items.map fun item => item.container.name} rows ∧
      t' = t.commit result.hostId (updatedChanges clock items rows)

/-- The container was updated, as the result of an execution says. -/
def Updates (result : UpdatePlanResult) (name : String) : Prop :=
  ∃ item ∈ result.items, item.container.name = name ∧ item.result = some .updated

section

variable {σ : Type} {s : σ} {t t' : Table} {hostId : Int} {name : String}
  {row : ContainersModel} {rows : List ContainersModel} {result : UpdatePlanResult}
  {items : List ContainerActionResult} {clock : Int}

theorem mem_updatedChanges {change : String × ContainerData}
    (h : change ∈ updatedChanges clock items rows) :
    ∃ item ∈ items, ∃ row, rowOf rows item.container.name = some row ∧
      change = (item.container.name, (updatedData clock item).changes row) := by
  obtain ⟨item, hitem, hchange⟩ := List.mem_filterMap.1 h
  obtain ⟨row, hrow, rfl⟩ := Option.map_eq_some_iff.1 hchange
  exact ⟨item, hitem, row, hrow, rfl⟩

theorem Saves.frame (h : Saves t result t') (hostId : Int) (name : String)
    (hnot : ¬ (hostId = result.hostId ∧ Updates result name)) :
    t' hostId name = t hostId name := by
  rcases h with ⟨-, rfl⟩ | ⟨clock, rows, -, rfl⟩
  · rfl
  refine Table.commit_induction
    (P := fun h' n' row => h' = hostId → n' = name → row = t hostId name)
    (fun _ _ hh hn => by rw [hh, hn]) (fun change hchange row hrow hh hn => ?_)
    hostId name rfl rfl
  obtain ⟨item, hitem, row₀, -, rfl⟩ := mem_updatedChanges hchange
  have hresult : item.result ≠ some .updated := fun hupdated =>
    hnot ⟨hh.symm, item, (List.mem_filter.1 hitem).1, hn, hupdated⟩
  have hnone : (updatedData clock item).changes row₀ = {} := by
    simp [updatedData, hresult, ContainerData.changes, ContainerData.changed]
  rw [hnone, ← hrow hh hn]
  rfl

theorem Saves.exists_of_updates (h : Saves t result t') (hkeyed : t.Keyed)
    (hupdated : Updates result name) :
    ∃ clock items rows, t' = t.commit result.hostId (updatedChanges clock items rows) ∧
      (∀ item ∈ items, item ∈ result.items) ∧ rowOf rows name = t result.hostId name ∧
        ∃ item ∈ items, item.container.name = name ∧ item.result = some .updated := by
  obtain ⟨item, hitem, rfl, hresult⟩ := hupdated
  have hmem : item ∈ result.items.filter fun item => item.result.isSome :=
    List.mem_filter.2 ⟨hitem, by simp [hresult]⟩
  rcases h with ⟨hnil, -⟩ | ⟨clock, rows, hrows, heq⟩
  · exact absurd hnil (List.ne_nil_of_mem hmem)
  have hload := rowOf_of_lists hkeyed hrows
    (List.mem_map_of_mem (f := fun item => item.container.name) hmem)
  exact ⟨clock, _, rows, heq, fun _ h => (List.mem_filter.1 h).1, hload, item, hmem, rfl,
    hresult⟩

theorem Saves.hasUpdate (h : Saves t result t') (hkeyed : t.Keyed)
    (hupdated : Updates result name) : hasUpdate (t' result.hostId name) = false := by
  obtain ⟨clock, items, rows, rfl, -, hload, item, hmem, rfl, hresult⟩ :=
    h.exists_of_updates hkeyed hupdated
  rw [Table.hasUpdate_commit fun change hchange => ?_]
  · cases havailable : Tugtainer.hasUpdate (t result.hostId item.container.name) with
    | false => rfl
    | true =>
        have hclear : clears (updatedChanges clock items rows) item.container.name = true :=
          clears_updatedChanges.2 ⟨hload ▸ havailable, item, hmem, rfl, hresult⟩
        simp [hclear]
  · obtain ⟨item', -, row, -, rfl⟩ := mem_updatedChanges hchange
    rw [ne_eq, ContainerData.changes, ContainerData.changed_eq_some_iff, updatedData]
    split
    all_goals simp

/-- The report saves the digests of a container whose row was there as an empty list. -/
theorem Saves.localDigests (h : Saves t result t') (hkeyed : t.Keyed)
    (hdigests : ∀ item ∈ result.items, item.remoteDigests = []) (hupdated : Updates result name)
    (hrow : t' result.hostId name = some row) : row.localDigests = some [] := by
  obtain ⟨clock, items, rows, rfl, hitems, hload, item, hmem, rfl, hresult⟩ :=
    h.exists_of_updates hkeyed hupdated
  rw [Table.commit_eq_foldl] at hrow
  obtain ⟨row₀, hrow₀, rfl⟩ := Option.map_eq_some_iff.1 hrow
  rw [hrow₀] at hload
  refine localDigests_foldl (fun change hchange => ?_) ?_
  · obtain ⟨item', hitem', row', -, rfl⟩ := mem_updatedChanges (List.mem_filter.1 hchange).1
    have hnil := hdigests item' (hitems item' hitem')
    unfold updatedData ContainerData.changes ContainerData.changed
    split
    all_goals
      simp only [hnil]
      split
      all_goals simp
  · by_cases hsame : row₀.localDigests = some []
    · exact .inl hsame
    · refine .inr ⟨(item.container.name, (updatedData clock item).changes row₀),
        List.mem_filter.2 ⟨List.mem_filterMap.2 ⟨item, hmem, ?_⟩, by simp⟩, ?_⟩
      · exact Option.map_eq_some_iff.2 ⟨row₀, hload, rfl⟩
      · simp [updatedData, hresult, ContainerData.changes, ContainerData.changed,
          hdigests item (hitems item hmem), Ne.symm hsame]

theorem wp_updateContainersDataAfterExecution_table {w : World} (hw : w.table = t) :
    Act.wp World.contract (updateContainersDataAfterExecution result)
      (fun _ _ w' => Saves t result w'.table) (fun _ _ _ => False) s w := by
  unfold updateContainersDataAfterExecution
  rw [Act.wp_ite]
  split
  · rename_i hnil
    exact .inl ⟨hnil, hw⟩
  · rw [Act.wp_bind, wp_now]
    intro clock _
    rw [wp_session, Act.wp_bind]
    refine wp_selectContainers fun rows hrows => (wp_commit isValid_updatedChanges).2 ?_
    exact .inr ⟨clock, rows, hw ▸ hrows, congrArg (Table.commit · _ _) hw⟩

def TableFollows (t : Table) (w : World) : Report → Prop
  | .pending => w.table = t
  | .lost => True
  | .made result => Saves t result w.table

theorem wp_carryOut_table (host : HostsModel) (op : Agent.Op) (w : World) (r : Report)
    (hw : TableFollows t w r) (hguar : reportContract.guar r op) :
    (carryOut host op).wp World.contract
      (fun ans w' => True ∧ TableFollows t w' (reportContract.next r ⟨op, ans⟩)) w := by
  cases op with
  | updateContainersData result =>
      obtain rfl : r = .pending := hguar
      refine (Prog.wp_bind _ _ _ _).2 (Prog.wp_mono
        (wp_updateContainersDataAfterExecution_table (s := ()) hw) ?_)
      rintro ⟨_ | _, _⟩ w' hw'
      · exact hw'.elim
      · exact ⟨trivial, hw'⟩
  | _ => exact ⟨trivial, fun _ _ => ⟨trivial, hw⟩⟩

theorem wp_execute_table (env : BackendEnv) (host : HostsModel) (containers : HostContainers)
    (plan : UpdatePlan) (dockerVersion : Option DockerVersion) (w : World) :
    Act.wp World.contract (execute env host containers plan dockerVersion)
      (fun res _ w' => ∀ result, res = some result →
        Saves w.table result w'.table ∧ ∃ items, result = planResult host items)
      (fun _ _ _ => True) s w := by
  refine (Act.wp_bind _ _).2 ⟨trivial, fun _ _ => (Act.wp_bind _ _).2 ⟨trivial, fun _ _ => ?_⟩⟩
  refine Act.wp_mono (Act.wp_interp (TableFollows w.table)
    (fun op w' r hw hguar => wp_carryOut_table host op w' r hw hguar)
    (wp_executeUpdatePlan_report _ host containers plan dockerVersion (r := .pending) rfl) rfl)
    ?_ fun _ _ _ _ => trivial
  rintro res _ w' ⟨-, _, r, hw', hres⟩ result heq
  obtain ⟨rfl, hresult⟩ := hres result heq
  exact ⟨hw', hresult⟩

end

/-! ## What a check finds after that -/

/-- The lookups obtain that digest. -/
def Serves (d : String) (_spec _localDigest : String) (r : Reply (Option String)) : Prop :=
  r = .ok (some d)

/-- The images that are shown have the digests of that one. -/
def Shows (image : ImageInspectResult) (_ref : String) (shown : ImageInspectResult) : Prop :=
  shown.repoDigests = image.repoDigests

/-- A run of an execution that updates a container, and then one of a successful check of
that container: its image is the new one, and the registry serves the digest of that. -/
structure CheckedAfterUpdate (σ τ : Type) (host : HostsModel) (c : ContainerInspectResult)
    (image : ImageInspectResult) (d : String) (w : World) (tr tr' : Trace Backend)
    (result : UpdatePlanResult) (res : ContainerActionResult) : Prop where
  keyed : w.table.Keyed
  executed : ∃ env containers plan dockerVersion, ∃ s s' : σ,
    Runs (execute env host containers plan dockerVersion s) tr (.ok (some result), s')
  accepts : World.contract.Accepts w tr
  updated : ∃ item ∈ result.items, item.container.name = c.name ∧
    item.result = some .updated ∧ item.remoteImage = some image
  served : ∃ ld ∈ image.repoDigests.getD [], contains ld d = true
  checked : ∃ t t' : τ, Runs (checkOneContainer host c t) tr' (.ok res, t')
  accepts_check :
    (imageContract (Serves d) (Shows image)).Accepts (World.contract.after w tr) tr'
  successful : res.result ≠ none

/-- The check finds no update, and leaves `update_available` and the digests of the row as
they are. -/
def WritersAgree (t t' : Table) (hostId : Int) (name : String) (res : ContainerActionResult) :
    Prop :=
  res.result = some .notAvailable ∧ ∀ row, t hostId name = some row →
    ∃ row', t' hostId name = some row' ∧ row'.updateAvailable = row.updateAvailable ∧
      row'.localDigests = row.localDigests

/-- `update_containers_data_after_execution` changes the rows of the updated containers of
its host and no others. -/
def ChangesOnlyUpdated : Prop :=
  ∀ (result : UpdatePlanResult) (w : World) (tr : Trace Backend) (r : Except Exn Unit × Unit),
    Runs (updateContainersDataAfterExecution result ()) tr r → World.contract.Accepts w tr →
      ∀ hostId name, ¬ (hostId = result.hostId ∧ Updates result name) →
        (World.contract.after w tr).table hostId name = w.table hostId name

theorem changesOnlyUpdated : ChangesOnlyUpdated := by
  intro result w tr r run hacc hostId name hnot
  have hend := Prog.wp_sound (wp_updateContainersDataAfterExecution_table rfl) run hacc
  obtain ⟨_ | _, _⟩ := r
  · exact hend.elim
  · exact hend.frame hostId name hnot

theorem Obtains.eq_of_serves {d spec : String} {localDigests : List String}
    {found : Option String} (h : Obtains (Serves d) spec localDigests found) :
    found = none ∨ found = some d := by
  induction h with
  | nil => exact .inl rfl
  | found hok hd => exact .inr (Reply.ok.inj hok)
  | skip hok hr h ih => exact ih

section

variable {σ τ : Type} {host : HostsModel} {c : ContainerInspectResult}
  {image : ImageInspectResult} {d : String} {w w' : World} {tr tr' : Trace Backend}
  {result : UpdatePlanResult} {res : ContainerActionResult}

theorem CheckEndsBy.notAvailable
    (h : CheckEndsBy (Finds (Serves d) (Shows image) c) host c w res w')
    (hserved : ∃ ld ∈ image.repoDigests.getD [], contains ld d = true)
    (hres : res.result ≠ none) :
    res.result = some .notAvailable ∧ ∃ row, w'.table host.id c.name = some row ∧
      row.updateAvailable = false ∧ ∃ ld lds, row.localDigests = some (ld :: lds) := by
  cases h with
  | early h => exact absurd h hres
  | complete ck _ hlocal hfinds _ _ hresult _ =>
      obtain ⟨⟨ref, shown, hshown, hdigests⟩, hobtains⟩ := hfinds
      have hfound : ck.remoteDigest = some d := by
        rcases hobtains.eq_of_serves with hnone | hsome
        · exact absurd (hresult.trans (Check.result_of_none hnone)) hres
        · exact hsome
      have hmisses : ¬ ck.Misses d := by
        obtain ⟨ld, hld, hcontains⟩ := hserved
        intro hmisses
        have hfalse := hmisses ld
          (by rw [hdigests, show shown.repoDigests = _ from hshown]; exact hld)
        rw [hcontains] at hfalse
        cases hfalse
      refine ⟨?_, _, Table.set_self _ _ _ _, ?_, ?_⟩
      · rw [hresult, Check.result_of_some hfound, if_neg hmisses]
      · rw [Check.save_updateAvailable_of_some hfound, decide_eq_false hmisses]
      · obtain ⟨ld, lds, hcons⟩ := List.exists_cons_of_ne_nil hlocal
        exact ⟨ld, lds, congrArg some hcons⟩

theorem CheckedAfterUpdate.saves
    (h : CheckedAfterUpdate σ τ host c image d w tr tr' result res) :
    Saves w.table result (World.contract.after w tr).table ∧
      ∃ items, result = planResult host items := by
  obtain ⟨env, containers, plan, dockerVersion, s, s', run⟩ := h.executed
  exact Prog.wp_sound (wp_execute_table env host containers plan dockerVersion w) run h.accepts
    result rfl

theorem CheckedAfterUpdate.ends
    (h : CheckedAfterUpdate σ τ host c image d w tr tr' result res) :
    CheckEndsBy (Finds (Serves d) (Shows image) c) host c (World.contract.after w tr) res
      ((imageContract (Serves d) (Shows image)).after (World.contract.after w tr) tr') := by
  obtain ⟨t, t', run⟩ := h.checked
  obtain ⟨_, ⟨⟩, hend⟩ := checkOneContainer_finds run h.accepts_check
  exact hend

/-- The two writers agree exactly if there is no row to agree on. -/
theorem writersAgree_iff (h : CheckedAfterUpdate σ τ host c image d w tr tr' result res) :
    (WritersAgree (World.contract.after w tr).table
        ((imageContract (Serves d) (Shows image)).after (World.contract.after w tr) tr').table
        host.id c.name res ∧ ChangesOnlyUpdated) ↔
      w.table host.id c.name = none := by
  obtain ⟨hsaves, items, hresult⟩ := h.saves
  obtain ⟨hnotAvailable, row', hrow', -, ld, lds, hlocal⟩ :=
    h.ends.notAvailable h.served h.successful
  obtain ⟨item, hitem, hname, hupdated, -⟩ := h.updated
  have hhost : result.hostId = host.id := congrArg UpdatePlanResult.hostId hresult
  have hisSome : ((World.contract.after w tr).table host.id c.name).isSome =
      (w.table host.id c.name).isSome := by
    rcases hsaves with ⟨-, heq⟩ | ⟨clock, rows, -, heq⟩
    · rw [heq]
    · rw [heq, Table.isSome_commit]
  have hempty : ∀ item ∈ result.items, item.remoteDigests = [] := by
    intro item hitem
    rw [hresult] at hitem
    obtain ⟨_, -, rfl⟩ := List.mem_map.1 hitem
    rfl
  constructor
  · rintro ⟨⟨-, hagree⟩, -⟩
    cases hrow : (World.contract.after w tr).table host.id c.name with
    | none => simpa [hrow] using hisSome
    | some row =>
        obtain ⟨row'', hrow'', -, hsame⟩ := hagree row hrow
        have hnil := hsaves.localDigests h.keyed hempty ⟨item, hitem, hname, hupdated⟩
          (hhost ▸ hrow)
        cases hrow'.symm.trans hrow''
        rw [hlocal, hnil] at hsame
        cases hsame
  · intro hnone
    refine ⟨⟨hnotAvailable, fun row hrow => ?_⟩, changesOnlyUpdated⟩
    rw [hrow, hnone] at hisSome
    cases hisSome

theorem CheckedAfterUpdate.hasUpdate
    (h : CheckedAfterUpdate σ τ host c image d w tr tr' result res) :
    Tugtainer.hasUpdate ((World.contract.after w tr).table host.id c.name) = false ∧
      Tugtainer.hasUpdate (((imageContract (Serves d) (Shows image)).after
        (World.contract.after w tr) tr').table host.id c.name) = false := by
  obtain ⟨hsaves, items, hresult⟩ := h.saves
  obtain ⟨-, row', hrow', havailable, -⟩ := h.ends.notAvailable h.served h.successful
  obtain ⟨item, hitem, hname, hupdated, -⟩ := h.updated
  have hhost : result.hostId = host.id := congrArg UpdatePlanResult.hostId hresult
  refine ⟨hhost ▸ hsaves.hasUpdate h.keyed ⟨item, hitem, hname, hupdated⟩, ?_⟩
  rw [hrow']
  exact havailable

end

/-! ## A row that is written twice -/

/-- What the operations of both are answered: the registry has the digest of the new image,
and a check is shown that image. -/
def servedReply (w : RaceWorld) : (op : BackendOp) → Option op.Ans
  | .agent _ none (.imageInspect ref) =>
      if ref = "sha256:d2" then pushedAgent w (.imageInspect ref) else none
  | .remoteDigest _ _ => some (.ok (some "sha256:d2"))
  | .commit _ changes => if changes.all fun change => change.2.isValid then some (.ok ()) else none
  | op => pushedReply w op

/-- The table of the world, at the time that is always shown. -/
def RaceWorld.view (w : RaceWorld) : World where
  table := w.table
  clock := 0

def servedImage : ImageInspectResult where
  id := some "sha256:d2"
  repoDigests := some ["web@sha256:d2"]

theorem shows_servedReply (w : RaceWorld) {hostId : Int} {site : Option Site}
    {request : Request} {r : Reply request.Result}
    (h : servedReply w (.agent hostId site request) = some r) :
    ShowsImages (Shows servedImage) ⟨.agent hostId site request, r⟩ := by
  unfold ShowsImages
  split
  · rename_i ref image heq
    cases heq
    by_cases href : ref = "sha256:d2"
    · subst href
      cases h
      rfl
    · cases (if_neg href).symm.trans h
  · trivial

theorem answers_servedReply (w : RaceWorld) (op : BackendOp) (r : op.Ans)
    (h : servedReply w op = some r) :
    (imageContract (Serves "sha256:d2") (Shows servedImage)).rely w.view ⟨op, r⟩ ∧
      World.next w.view ⟨op, r⟩ = (w.next pushedEnv ⟨op, r⟩).view := by
  cases op with
  | agent hostId site request =>
      refine ⟨⟨⟨trivial, trivial⟩, shows_servedReply w h⟩, ?_⟩
      change w.view = (w.requested pushedEnv hostId site request (Reply.effect r)).view
      unfold RaceWorld.requested
      cases Reply.effect r with
      | none => rfl
      | some result =>
          dsimp only
          split
          all_goals rfl
  | commit hostId changes =>
      change (if _ then some (Reply.ok ()) else none) = _ at h
      split at h
      · rename_i hvalid
        obtain rfl := Option.some.inj h
        exact ⟨⟨⟨(if_pos hvalid).symm, trivial⟩, trivial⟩, rfl⟩
      · cases h
  | selectContainers hostId names =>
      match names with
      | [name] =>
          obtain rfl := Option.some.inj h
          exact ⟨⟨⟨⟨_, rfl, w.keyed.lists_toList hostId name⟩, trivial⟩, trivial⟩, rfl⟩
  | selectContainer hostId name =>
      obtain rfl := Option.some.inj h
      exact ⟨⟨⟨rfl, trivial⟩, trivial⟩, rfl⟩
  | remoteDigest spec localDigest =>
      obtain rfl := Option.some.inj h
      refine ⟨⟨⟨trivial, rfl⟩, trivial⟩, ?_⟩
      change w.view = (w.lookedUp pushedEnv spec (some "sha256:d2")).view
      unfold RaceWorld.lookedUp
      split
      all_goals rfl
  | refresh hostId name =>
      obtain ⟨row, hrow, rfl⟩ := Option.map_eq_some_iff.1 h
      exact ⟨⟨⟨⟨row, rfl, hrow⟩, trivial⟩, trivial⟩, rfl⟩
  | now =>
      obtain rfl := Option.some.inj h
      exact ⟨⟨⟨le_refl (0 : Int), trivial⟩, trivial⟩, rfl⟩
  | close =>
      obtain rfl := Option.some.inj h
      exact ⟨⟨⟨rfl, trivial⟩, trivial⟩, rfl⟩
  | _ => first | exact ⟨⟨⟨trivial, trivial⟩, trivial⟩, rfl⟩ | cases h

/-- The container `web` on the old image, with a row. -/
def servedStart : RaceWorld where
  table := pushedTable
  keyed := pushedTable_keyed
  registry _ := "sha256:d2"
  docker := pushedDocker

/-- The update of `web` to its new image. -/
def servedUpdate : Trace Backend × (Except Exn (Option UpdatePlanResult) × Unit) × RaceWorld :=
  ((execute pushedUpdate.env pushedHost pushedUpdate.containers pushedUpdate.plan none ()).answer
    (RaceWorld.next pushedEnv) servedReply servedStart).get (by decide +kernel)

/-- The container `web` on its new image. -/
def servedContainer : ContainerInspectResult :=
  pushedInspect { image := some "sha256:d2", running := true }

def servedCheck : Trace Backend × (Except Exn ContainerActionResult × Unit) × RaceWorld :=
  ((checkOneContainer pushedHost servedContainer ()).answer
    (RaceWorld.next pushedEnv) servedReply servedUpdate.2.2).get (by decide +kernel)

/-- The result has the container with its new image. -/
def reportsServed : Except Exn (Option UpdatePlanResult) × Unit → Bool
  | (.ok (some result), _) => result.items.any fun item =>
      item.container.name = "web" && item.result = some .updated &&
        item.remoteImage = some servedImage
  | _ => false

theorem exists_of_reportsServed {r : Except Exn (Option UpdatePlanResult) × Unit}
    (h : reportsServed r = true) :
    ∃ result, r = (.ok (some result), ()) ∧ ∃ item ∈ result.items,
      item.container.name = "web" ∧ item.result = some .updated ∧
        item.remoteImage = some servedImage := by
  unfold reportsServed at h
  split at h
  · simp only [List.any_eq_true, Bool.and_eq_true, decide_eq_true_eq, and_assoc] at h
    exact ⟨_, rfl, h⟩
  · cases h

def concludes : Except Exn ContainerActionResult × Unit → Bool
  | (.ok res, _) => res.result.isSome
  | _ => false

theorem exists_of_concludes {r : Except Exn ContainerActionResult × Unit}
    (h : concludes r = true) : ∃ res, r = (.ok res, ()) ∧ res.result ≠ none := by
  unfold concludes at h
  split at h
  · exact ⟨_, rfl, Option.isSome_iff_ne_none.1 h⟩
  · cases h

theorem servedUpdate_sound :
    Runs (execute pushedUpdate.env pushedHost pushedUpdate.containers pushedUpdate.plan none ())
        servedUpdate.1 servedUpdate.2.1 ∧
      World.contract.Accepts servedStart.view servedUpdate.1 ∧
      World.contract.after servedStart.view servedUpdate.1 = servedUpdate.2.2.view :=
  Prog.answer_sound (fun w op r h =>
    have hanswer := answers_servedReply w op r h
    ⟨hanswer.1.1.1, hanswer.2⟩) (Option.some_get (by decide +kernel)).symm

theorem servedCheck_sound :
    Runs (checkOneContainer pushedHost servedContainer ()) servedCheck.1 servedCheck.2.1 ∧
      (imageContract (Serves "sha256:d2") (Shows servedImage)).Accepts servedUpdate.2.2.view
        servedCheck.1 ∧
      (imageContract (Serves "sha256:d2") (Shows servedImage)).after servedUpdate.2.2.view
        servedCheck.1 = servedCheck.2.2.view :=
  Prog.answer_sound answers_servedReply (Option.some_get (by decide +kernel)).symm

theorem checkedAfterUpdate_served :
    ∃ result res, CheckedAfterUpdate Unit Unit pushedHost servedContainer servedImage "sha256:d2"
      servedStart.view servedUpdate.1 servedCheck.1 result res := by
  obtain ⟨hupdate, hacc, hafter⟩ := servedUpdate_sound
  obtain ⟨hcheck, hacc', -⟩ := servedCheck_sound
  obtain ⟨result, hresult, hitem⟩ :=
    exists_of_reportsServed (r := servedUpdate.2.1) (by decide +kernel)
  obtain ⟨res, hres, hsome⟩ := exists_of_concludes (r := servedCheck.2.1) (by decide +kernel)
  refine ⟨result, res, pushedTable_keyed, ⟨_, _, _, _, (), (), hresult ▸ hupdate⟩, hacc, hitem,
    ⟨"web@sha256:d2", by decide, by decide⟩, ⟨(), (), hres ▸ hcheck⟩, ?_, hsome⟩
  rw [hafter]
  exact hacc'

/-- The row of `web` is there, and the two writers do not agree on it. -/
theorem writersAgree_iff_served :
    ∃ result res,
      CheckedAfterUpdate Unit Unit pushedHost servedContainer servedImage "sha256:d2"
          servedStart.view servedUpdate.1 servedCheck.1 result res ∧
        ((WritersAgree (World.contract.after servedStart.view servedUpdate.1).table
            ((imageContract (Serves "sha256:d2") (Shows servedImage)).after
              (World.contract.after servedStart.view servedUpdate.1) servedCheck.1).table
            pushedHost.id servedContainer.name res ∧ ChangesOnlyUpdated) ↔
          servedStart.view.table pushedHost.id servedContainer.name = none) := by
  obtain ⟨result, res, h⟩ := checkedAfterUpdate_served
  exact ⟨result, res, h, writersAgree_iff h⟩

/-- The update of `web` saves no digests, and the check right after it saves one. -/
theorem digests_are_not_saved :
    ¬ ∀ (host : HostsModel) (c : ContainerInspectResult) (image : ImageInspectResult)
      (d : String) (w : World) (tr tr' : Trace Backend) (result : UpdatePlanResult)
      (res : ContainerActionResult),
      CheckedAfterUpdate Unit Unit host c image d w tr tr' result res →
        WritersAgree (World.contract.after w tr).table
          ((imageContract (Serves d) (Shows image)).after (World.contract.after w tr) tr').table
          host.id c.name res ∧ ChangesOnlyUpdated := by
  intro hclaim
  obtain ⟨result, res, h⟩ := checkedAfterUpdate_served
  obtain ⟨-, hagree⟩ := (hclaim _ _ _ _ _ _ _ _ _ h).1
  rw [servedUpdate_sound.2.2, servedCheck_sound.2.2] at hagree
  have hbefore : (servedUpdate.2.2.table 1 "web").bind ContainersModel.localDigests = some [] := by
    decide +kernel
  have hafter : (servedCheck.2.2.table 1 "web").bind ContainersModel.localDigests =
      some ["web@sha256:d2"] := by decide +kernel
  obtain ⟨row, hrow, hempty⟩ := Option.bind_eq_some_iff.1 hbefore
  obtain ⟨row', hrow', -, hsame⟩ := hagree row hrow
  have hsaved : row'.localDigests = some ["web@sha256:d2"] := by
    simpa [RaceWorld.view] using (congrArg (Option.bind · ContainersModel.localDigests)
      hrow').symm.trans hafter
  rw [hsaved, hempty] at hsame
  exact absurd hsame (by simp)

end Tugtainer
