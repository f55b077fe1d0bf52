import Tugtainer.Plan.Ledger

/-!
# The security buffer of scheduled plans

A scheduled plan takes a container whose digests changed long enough ago, or of which no
time of a change is stored. As the ledger shows, there is no available update without
such a time, so every container that a scheduled plan updates was last found to have a
new digest at least the delay before the plan: `scheduled_after_delay`.
-/

namespace Tugtainer

open Python Interaction World

/-! ## The functions of the backend take steps of the ledger -/

section

variable {l : Ledger} {host : HostsModel} {w : World}

theorem CheckEnds.step {container : ContainerInspectResult} {res : ContainerActionResult}
    {w' : World} (h : CheckEnds host container l.world res w') :
    l.world = w' ∨ ∃ l', l.Step l' ∧ l'.world = w' := by
  cases h with
  | early _ => exact .inl rfl
  | complete c _ _ _ hclock htimes _ _ =>
      exact .inr ⟨_, .check host.id container.name c hclock htimes, rfl⟩

variable {σ : Type} {s : σ}

/-- A row is written, or nothing has happened: a null flag is not taken. -/
theorem wp_insertOrUpdate_or {hostId : Int} {name : String} {data : ContainerData} :
    Act.wp World.contract (insertOrUpdateContainer none hostId name data)
      (fun _ _ w' => w' =
        { w with table := w.table.set hostId name (w.table.written hostId name data) })
      (fun _ _ w' => w' = w) s w := by
  by_cases hvalid : data.isValid = true
  · exact (wp_insertOrUpdate (.inl rfl) hvalid).2 rfl
  · unfold insertOrUpdateContainer
    rw [Act.wp_bind, wp_selectContainer]
    cases hrow : w.table hostId name with
    | none =>
        rw [Act.wp_bind, wp_insert, wp_refresh (Table.set_self _ _ _ _),
          newRow_eq_written data hrow]
    | some row =>
        rw [Act.wp_bind]
        refine wp_commit_or ?_ rfl
        rw [Option.getD_none, Table.commit_changes hrow, wp_refresh (Table.set_self _ _ _ _)]

theorem wp_patchContainerData {env : BackendEnv} {hostId : Int} {name : String}
    {body : PatchBody} :
    Act.wp World.contract (patchContainerData env hostId name body)
      (fun _ _ w' => ∃ l', (Ledger.Step l l' ∨ l' = l) ∧ l'.world = w')
      (fun _ _ w' => ∃ l', (Ledger.Step l l' ∨ l' = l) ∧ l'.world = w') s l.world := by
  have hstay : ∃ l', (Ledger.Step l l' ∨ l' = l) ∧ l'.world = l.world := ⟨l, .inr rfl, rfl⟩
  unfold patchContainerData
  rw [Act.wp_ite]
  split
  · exact hstay
  rw [Act.wp_ite]
  split
  · exact hstay
  rw [Act.wp_bind]
  refine Act.wp_mono wp_insertOrUpdate_or ?_ fun _ _ w' hw' => hw' ▸ hstay
  rintro row s' w' rfl
  have hstep : ∃ l', (Ledger.Step l l' ∨ l' = l) ∧
      l'.world = (l.afterWrite hostId name body.data).world :=
    ⟨_, .inl (.patch hostId name body), rfl⟩
  rw [Act.wp_bind]
  refine wp_getEnabledHost (fun host => ?_) fun _ => hstep
  rw [Act.wp_bind]
  exact wp_request (fun _ => hstep) hstep

theorem isValid_updatedChanges {clock : Int} {items : List ContainerActionResult}
    {rows : List ContainersModel} :
    (updatedChanges clock items rows).all (fun change => change.2.isValid) = true := by
  rw [List.all_eq_true]
  intro change hchange
  obtain ⟨item, -, hitem⟩ := List.mem_filterMap.1 hchange
  obtain ⟨row, -, rfl⟩ := Option.map_eq_some_iff.1 hitem
  refine ContainerData.isValid_changes row ?_
  unfold updatedData
  split <;> rfl

theorem wp_updateContainersDataAfterExecution {result : UpdatePlanResult} :
    Act.wp World.contract (updateContainersDataAfterExecution result)
      (fun _ _ w' => ∃ l', (Ledger.Step l l' ∨ l' = l) ∧ l'.world = w') (fun _ _ _ => False) s
      l.world := by
  unfold updateContainersDataAfterExecution
  rw [Act.wp_ite]
  split
  · exact ⟨l, .inr rfl, rfl⟩
  · rw [Act.wp_bind, wp_now]
    intro clock hclock
    rw [wp_session, Act.wp_bind]
    refine wp_selectContainers fun rows _ => ?_
    exact (wp_commit isValid_updatedChanges).2 ⟨_, .inl (.executed _ _ rows clock hclock), rfl⟩

/-- A scheduled plan is built from the rows of the host, at a time that the clock shows. -/
theorem wp_buildPlan_scheduled {env : BackendEnv} {containers : HostContainers} :
    Act.wp World.contract (buildPlan env host containers [])
      (fun plan _ w' => ∃ planEnv : PlanEnv, w.clock ≤ planEnv.now ∧
        w.table.Lists host.id Set.univ planEnv.rows ∧ w' = { w with clock := planEnv.now } ∧
        buildUpdatePlan env.ord planEnv host containers.list [] env.planFuel = some plan)
      (fun _ _ _ => False) s w := by
  unfold buildPlan
  rw [Act.wp_bind]
  refine wp_getSettings fun settings => ?_
  rw [Act.wp_bind, getHostContainers, wp_session]
  refine wp_selectHostContainers fun rows hrows => ?_
  simp only [List.filter_nil, ↓reduceIte]
  refine (Act.wp_bind _ _).2 (wp_now.2 fun clock hclock => ?_)
  split
  · rename_i plan hplan
    exact ⟨_, hclock, hrows, rfl, hplan⟩
  · exact ⟨trivial, fun never _ => nomatch never⟩

end

/-! ## Scheduled plans -/

/-- A scheduled plan for a host that is built from a ledger at the time `t`. -/
structure Scheduled (l : Ledger) (host : HostsModel) (t : Int) (plan : UpdatePlan) : Prop where
  clock : l.world.clock ≤ t
  built : ∃ (ord : SetOrder PlanSite String) (planEnv : PlanEnv)
      (containers : List ContainerInspectResult) (fuel : ℕ),
    planEnv.now = t ∧ planEnv.delayUpdateFor = l.delayUpdateFor ∧
      l.world.table.Lists host.id Set.univ planEnv.rows ∧
      buildUpdatePlan ord planEnv host containers [] fuel = some plan

/-- The effective delay of a row, in seconds. -/
def effectiveDelay (l : Ledger) (row : ContainersModel) : Int :=
  row.delayUpdateFor.getD l.delayUpdateFor

section

variable {l l' : Ledger} {host : HostsModel} {t : Int} {plan : UpdatePlan} {name : String}

theorem table_of_containersDb {table : Table} {planEnv : PlanEnv} {row : ContainersModel}
    (hrows : table.Lists host.id Set.univ planEnv.rows)
    (h : (containersDb planEnv host).get? name = some row) : table host.id name = some row := by
  rw [containersDb, Dict.get?_foldl_set, Dict.get?_nil, Option.or_none,
    Option.map_eq_some_iff] at h
  obtain ⟨row', hfind, rfl⟩ := h
  have hmem := (List.mem_filter.1 (List.mem_reverse.1 (List.mem_of_find?_eq_some hfind))).1
  obtain rfl : row'.name = name := by simpa using List.find?_some hfind
  exact ((hrows.mem_iff row').1 hmem).2.2

theorem Scheduled.exists_row (h : Scheduled l host t plan) (hname : name ∈ plan.toUpdate) :
    ∃ row, l.world.table host.id name = some row ∧ row.updateAvailable = true ∧
      row.updateEnabled = true ∧ ∀ changedAt, row.remoteDigestsChangedAt = some changedAt →
        0 < effectiveDelay l row → changedAt ≤ t - effectiveDelay l row * 1000000 := by
  obtain ⟨ord, planEnv, containers, fuel, rfl, hdelay, hrows, hplan⟩ := h.built
  obtain ⟨c, -, -, hscheduled, rfl⟩ :=
    (selected_of_scheduled (by simp)).1 ((mem_toUpdate_iff hplan).1 hname).1
  unfold isScheduledUpdate at hscheduled
  cases hrow : (containersDb planEnv host).get? c.name with
  | none => simp [hrow] at hscheduled
  | some row =>
      simp only [hrow, Bool.and_eq_true, Bool.not_eq_true', isDelayed, hdelay] at hscheduled
      obtain ⟨⟨havailable, henabled⟩, hdelayed⟩ := hscheduled
      refine ⟨row, table_of_containersDb hrows hrow, havailable, henabled,
        fun changedAt hchanged hpos => ?_⟩
      rw [effectiveDelay] at hpos ⊢
      simp only [hchanged, hpos, decide_true, Bool.true_and, decide_eq_false_iff_not] at hdelayed
      omega

/-- A container that a scheduled plan updates despite a delay was last found to have a new
digest at least the delay before. -/
theorem scheduled_after_delay (hl : l.Reachable) (hplan : Scheduled l host t plan)
    (hname : name ∈ plan.toUpdate) :
    ∃ row, l.world.table host.id name = some row ∧ (0 < effectiveDelay l row →
      row.updateEnabled = true ∧ row.updateAvailable = true ∧
      ∃ c, c.remoteDigest.isSome ∧ LastChange (l.checks host.id name) c ∧
        c.changedAt ≤ t - effectiveDelay l row * 1000000) := by
  obtain ⟨row, hrow, havailable, henabled, hdelayed⟩ := hplan.exists_row hname
  refine ⟨row, hrow, fun hpos => ⟨henabled, havailable, ?_⟩⟩
  have hok := hl.ok host.id name
  rw [hrow] at hok
  obtain ⟨c, changedAt, hchange, hchanged, hle⟩ := hok.exists_change havailable
  exact ⟨c, (hl.checksOk host.id name).succeeded c hchange.mem, hchange,
    hle.trans (hdelayed changedAt hchanged hpos)⟩

end

/-! A container that is updated ten seconds after its check. -/

def webFound : Check where
  imageId := some "sha256:img1"
  localDigests := ["web@sha256:d1"]
  remoteDigest := some "sha256:d2"
  checkedAt := 0
  changedAt := 0

def webBuffered : PatchBody where
  updateEnabled := some (some true)
  delayUpdateFor := some (some 10)

def webLedger : Ledger :=
  ((Ledger.initial 0 0).afterCheck 1 "web" webFound).afterWrite 1 "web" webBuffered.data

def webRow : ContainersModel :=
  webLedger.world.table.written 1 "web" {}

theorem webLedger_reachable : webLedger.Reachable :=
  ⟨0, 0, (Relation.ReflTransGen.single (.check 1 "web" webFound le_rfl le_rfl)).tail
    (.patch 1 "web" webBuffered)⟩

theorem webLedger_table (hostId : Int) (name : String) :
    webLedger.world.table hostId name =
      if hostId = 1 ∧ name = "web" then some webRow else none := by
  have hweb : webLedger.world.table 1 "web" = some webRow := rfl
  split
  · rename_i h
    rw [h.1, h.2, hweb]
  · rename_i h
    simp [webLedger, Ledger.afterWrite, Ledger.afterCheck, Table.set_of_ne _ _ h, Ledger.initial]

def webDelayEnv : PlanEnv where
  updateOnlyRunning := false
  delayUpdateFor := 0
  now := 10000000
  rows := [webRow]

theorem webLedger_lists : webLedger.world.table.Lists 1 Set.univ webDelayEnv.rows where
  nodup := by decide
  mem_iff row := by
    rw [webLedger_table]
    constructor
    · intro h
      cases List.mem_singleton.1 h
      exact ⟨rfl, trivial, rfl⟩
    · rintro ⟨-, -, h⟩
      split at h
      · cases h
        exact List.mem_singleton.2 rfl
      · cases h

/-- The plan ten seconds after the check updates `web`. -/
theorem scheduled_after_delay_web :
    ∃ plan, Scheduled webLedger { id := 1, name := "host" } 10000000 plan ∧
      "web" ∈ plan.toUpdate ∧ ∃ row, webLedger.world.table 1 "web" = some row ∧
        (0 < effectiveDelay webLedger row → row.updateEnabled = true ∧ row.updateAvailable = true ∧
          ∃ c, c.remoteDigest.isSome ∧ LastChange (webLedger.checks 1 "web") c ∧
            c.changedAt ≤ 10000000 - effectiveDelay webLedger row * 1000000) := by
  obtain ⟨plan, h⟩ : ∃ plan, buildUpdatePlan (.ascending PlanSite) webDelayEnv
      { id := 1, name := "host" } [webContainer] [] 5 = some plan :=
    Option.isSome_iff_exists.1 (by decide)
  have hweb : "web" ∈ plan.toUpdate :=
    (mem_toUpdate_iff h).2 ⟨by unfold Selected; decide, by decide⟩
  have hplan : Scheduled webLedger { id := 1, name := "host" } 10000000 plan :=
    ⟨by decide, _, webDelayEnv, _, _, rfl, rfl, webLedger_lists, h⟩
  exact ⟨plan, hplan, hweb, scheduled_after_delay webLedger_reachable hplan hweb⟩

end Tugtainer
