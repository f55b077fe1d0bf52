import Tugtainer.Check.Writers

/-!
# Updates that are pending

A check that finds a new digest makes an update pending, and a check that finds none or an
executed update settles it (`hasUpdate_iff_pending`). So whatever is done with the table, one
action after the other, a plan never repeats an update that nothing was found for since, and
none that was found is lost (`mem_toUpdate_iff_pending`).
-/

namespace Tugtainer

open Python Interaction World

/-- One action on the containers table: a complete check, a request of a user, or the report of
an execution. -/
inductive TableEvent where
  | check (hostId : Int) (name : String) (c : Check)
  | patch (hostId : Int) (name : String) (body : PatchBody)
  | executed (result : UpdatePlanResult)

namespace TableEvent

variable (hostId : Int) (name : String)

/-- A check of the container obtains a digest that it does not have. -/
def Finds : TableEvent → Prop
  | check h n c => (h = hostId ∧ n = name) ∧ ∃ d, c.remoteDigest = some d ∧ c.Misses d
  | _ => False

/-- A check of the container obtains a digest that it has, or the container was updated. -/
def Settles : TableEvent → Prop
  | check h n c => (h = hostId ∧ n = name) ∧ ∃ d, c.remoteDigest = some d ∧ ¬ c.Misses d
  | patch _ _ _ => False
  | executed result => hostId = result.hostId ∧ Updates result name

end TableEvent

/-- What an action does to the table, as `CheckEnds`, `wp_patchContainerData` and
`wp_execute_table` have it for the functions of the backend. -/
inductive TableStep : Table → TableEvent → Table → Prop
  | check (t : Table) (hostId : Int) (name : String) (c : Check) :
      TableStep t (.check hostId name c)
        (t.set hostId name (c.save (t hostId name) hostId name))
  | patch (t : Table) (hostId : Int) (name : String) (body : PatchBody) :
      TableStep t (.patch hostId name body)
        (t.set hostId name (t.written hostId name body.data))
  | executed {t t' : Table} {result : UpdatePlanResult} (h : Saves t result t') :
      TableStep t (.executed result) t'

/-- The table after a list of actions, from an empty one. -/
inductive TableRun : List TableEvent → Table → Prop
  | empty : TableRun [] fun _ _ => none
  | concat {events : List TableEvent} {event : TableEvent} {t t' : Table}
      (hrun : TableRun events t) (hstep : TableStep t event t') :
      TableRun (events ++ [event]) t'

/-- Some check has found a new digest, and nothing after it has settled that. -/
def Pending (events : List TableEvent) (hostId : Int) (name : String) : Prop :=
  ∃ earlier event later, events = earlier ++ event :: later ∧ event.Finds hostId name ∧
    ∀ e ∈ later, ¬ e.Settles hostId name

section

variable {t t' : Table} {event : TableEvent} {events : List TableEvent} {hostId : Int}
  {name : String}

/-! ## One action -/

theorem Table.Keyed.check (h : t.Keyed) (hostId : Int) (name : String) (c : Check) :
    (t.set hostId name (c.save (t hostId name) hostId name)).Keyed := by
  intro h' n row hrow
  by_cases hsame : h' = hostId ∧ n = name
  · obtain ⟨rfl, rfl⟩ := hsame
    rw [Table.set_self] at hrow
    cases hrow
    cases hloaded : t h' n with
    | none => exact ⟨rfl, rfl⟩
    | some loaded => exact h h' n loaded hloaded
  · rw [Table.set_of_ne _ _ hsame] at hrow
    exact h h' n row hrow

theorem Table.Keyed.written (h : t.Keyed) (hostId : Int) (name : String) (data : ContainerData) :
    (t.set hostId name (t.written hostId name data)).Keyed := by
  intro h' n row hrow
  by_cases hsame : h' = hostId ∧ n = name
  · obtain ⟨rfl, rfl⟩ := hsame
    rw [Table.set_self] at hrow
    cases hrow
    cases hloaded : t h' n with
    | none => exact ⟨by simp [Table.written, hloaded, ContainerData.apply],
        by simp [Table.written, hloaded, ContainerData.apply]⟩
    | some loaded =>
        have hkeys := h h' n loaded hloaded
        exact ⟨by simp [Table.written, hloaded, ContainerData.apply, hkeys.1],
          by simp [Table.written, hloaded, ContainerData.apply, hkeys.2]⟩
  · rw [Table.set_of_ne _ _ hsame] at hrow
    exact h h' n row hrow

theorem TableStep.keyed (hstep : TableStep t event t') (h : t.Keyed) : t'.Keyed := by
  cases hstep with
  | check hostId name c => exact h.check hostId name c
  | patch hostId name body => exact h.written hostId name body.data
  | executed hsaves =>
      rcases hsaves with ⟨-, rfl⟩ | ⟨clock, rows, -, rfl⟩
      · exact h
      · exact h.commit _ _

/-- A check of the container leaves an update exactly if it finds one, unless it obtains no
digest. -/
theorem hasUpdate_save (row : Option ContainersModel) (c : Check) :
    hasUpdate (some (c.save row hostId name)) =
      match c.remoteDigest with
      | some d => decide (c.Misses d)
      | none => hasUpdate row := by
  cases hd : c.remoteDigest with
  | none => exact Check.save_updateAvailable_of_none hd
  | some d => exact Check.save_updateAvailable_of_some hd

/-- An action that finds an update makes one available, one that settles it leaves none, and all
others leave the column alone. -/
theorem TableStep.hasUpdate (hstep : TableStep t event t') (hkeyed : t.Keyed) (hostId : Int)
    (name : String) :
    (event.Finds hostId name → hasUpdate (t' hostId name) = true) ∧
    (event.Settles hostId name → hasUpdate (t' hostId name) = false) ∧
    (¬ event.Finds hostId name → ¬ event.Settles hostId name →
      hasUpdate (t' hostId name) = hasUpdate (t hostId name)) := by
  cases hstep with
  | check h n c =>
      by_cases hsame : h = hostId ∧ n = name
      · obtain ⟨rfl, rfl⟩ := hsame
        rw [Table.set_self, hasUpdate_save]
        refine ⟨?_, ?_, fun hfinds hsettles => ?_⟩
        · rintro ⟨-, d, hd, hmisses⟩
          simp [hd, hmisses]
        · rintro ⟨-, d, hd, hhas⟩
          simp [hd, hhas]
        · cases hd : c.remoteDigest with
          | none => rfl
          | some d =>
              by_cases hmisses : c.Misses d
              · exact absurd ⟨⟨rfl, rfl⟩, d, hd, hmisses⟩ hfinds
              · exact absurd ⟨⟨rfl, rfl⟩, d, hd, hmisses⟩ hsettles
      · refine ⟨fun hfinds => absurd hfinds.1 hsame, fun hsettles => absurd hsettles.1 hsame,
          fun _ _ => ?_⟩
        rw [Table.set_of_ne _ _ fun heq => hsame ⟨heq.1.symm, heq.2.symm⟩]
  | patch h n body =>
      refine ⟨False.elim, False.elim, fun _ _ => ?_⟩
      by_cases hsame : hostId = h ∧ name = n
      · obtain ⟨rfl, rfl⟩ := hsame
        rw [Table.set_self]
        cases hrow : t hostId name with
        | none => simp [Tugtainer.hasUpdate, Table.written, hrow, ContainerData.apply,
            PatchBody.data]
        | some row => simp [Tugtainer.hasUpdate, Table.written, hrow, ContainerData.apply,
            PatchBody.data]
      · rw [Table.set_of_ne _ _ hsame]
  | executed hsaves =>
      refine ⟨False.elim, ?_, fun _ hsettles => ?_⟩
      · rintro ⟨rfl, hupdated⟩
        exact hsaves.hasUpdate hkeyed hupdated
      · rw [hsaves.frame hostId name hsettles]

/-! ## Runs -/

theorem TableRun.keyed (hrun : TableRun events t) : t.Keyed := by
  induction hrun with
  | empty => exact fun _ _ _ h => nomatch h
  | concat _ hstep ih => exact hstep.keyed ih

theorem pending_concat_iff :
    Pending (events ++ [event]) hostId name ↔
      event.Finds hostId name ∨ Pending events hostId name ∧ ¬ event.Settles hostId name := by
  constructor
  · rintro ⟨earlier, found, later, hevents, hfinds, hkept⟩
    rcases List.eq_nil_or_concat later with rfl | ⟨later', last, rfl⟩
    · obtain ⟨-, hlast⟩ := List.append_inj' hevents rfl
      cases hlast
      exact .inl hfinds
    · rw [List.concat_eq_append] at hevents hkept
      rw [← List.cons_append, ← List.append_assoc] at hevents
      obtain ⟨rfl, hlast⟩ := List.append_inj' hevents rfl
      cases hlast
      exact .inr ⟨⟨earlier, found, later', rfl, hfinds,
        fun e he => hkept e (List.mem_append_left _ he)⟩, hkept event (by simp)⟩
  · rintro (hfinds | ⟨⟨earlier, found, later, rfl, hfinds, hkept⟩, hsettles⟩)
    · exact ⟨events, event, [], rfl, hfinds, fun _ h => absurd h List.not_mem_nil⟩
    · refine ⟨earlier, found, later ++ [event], by simp, hfinds, fun e he => ?_⟩
      rcases List.mem_append.1 he with he | he
      · exact hkept e he
      · rwa [List.mem_singleton.1 he]

theorem hasUpdate_iff_pending (hrun : TableRun events t) (hostId : Int) (name : String) :
    hasUpdate (t hostId name) = true ↔ Pending events hostId name := by
  induction hrun with
  | empty =>
      refine iff_of_false (by simp [hasUpdate]) ?_
      rintro ⟨earlier, event, later, hevents, -⟩
      exact absurd hevents (by simp)
  | @concat events event t t' hrun hstep ih =>
      obtain ⟨hfinds, hsettles, hkept⟩ := hstep.hasUpdate hrun.keyed hostId name
      rw [pending_concat_iff]
      by_cases hf : event.Finds hostId name
      · exact iff_of_true (hfinds hf) (.inl hf)
      · by_cases hs : event.Settles hostId name
        · refine iff_of_false (by simp [hsettles hs]) ?_
          rintro (hf' | ⟨-, hs'⟩)
          · exact hf hf'
          · exact hs' hs
        · rw [hkept hf hs, ih]
          exact ⟨fun h => .inr ⟨h, hs⟩, fun h => (h.resolve_left hf).1⟩

/-! ## Plans -/

variable {host : HostsModel} {planEnv : PlanEnv}

theorem containersDb_eq (hkeyed : t.Keyed) (hrows : t.Lists host.id Set.univ planEnv.rows)
    (name : String) : (containersDb planEnv host).get? name = t host.id name := by
  cases hrow : (containersDb planEnv host).get? name with
  | some row => exact (table_of_containersDb hrows hrow).symm
  | none =>
      cases ht : t host.id name with
      | none => rfl
      | some row =>
          obtain ⟨hhost, rfl⟩ := hkeyed _ _ _ ht
          rw [containersDb, Dict.get?_foldl_set, Dict.get?_nil, Option.or_none,
            Option.map_eq_none_iff, List.find?_eq_none] at hrow
          have hmem : row ∈ planEnv.rows := (hrows.mem_iff row).2 ⟨hhost, trivial, ht⟩
          have hnone := hrow row
            (List.mem_reverse.2 (List.mem_filter.2 ⟨hmem, decide_eq_true hhost⟩))
          exact absurd (decide_eq_true (p := row.name = row.name) rfl) hnone

theorem isManualUpdate_iff_hasUpdate (hkeyed : t.Keyed)
    (hrows : t.Lists host.id Set.univ planEnv.rows) (c : ContainerInspectResult) :
    isManualUpdate (containersDb planEnv host) c = true ↔ hasUpdate (t host.id c.name) = true := by
  unfold isManualUpdate hasUpdate
  rw [containersDb_eq hkeyed hrows]
  cases t host.id c.name with
  | none => simp
  | some row => simp

/-- A plan updates only containers with a pending update, and every container that may be
updated, was asked for and has one: an update is not done twice for what a check has found, and
none is lost. -/
theorem mem_toUpdate_iff_pending (hrun : TableRun events t)
    (hrows : t.Lists host.id Set.univ planEnv.rows) {ord : SetOrder PlanSite String}
    {containers manualFor : List ContainerInspectResult} {fuel : ℕ} {plan : UpdatePlan}
    (hplan : buildUpdatePlan ord planEnv host containers manualFor fuel = some plan) :
    (∀ name ∈ plan.toUpdate, Pending events host.id name) ∧
      ∀ c ∈ containers, c ∈ manualFor → isEligible planEnv c = true →
        (c.name ∈ plan.toUpdate ↔ Pending events host.id c.name) := by
  have hpending (c : ContainerInspectResult)
      (h : isManualUpdate (containersDb planEnv host) c = true) : Pending events host.id c.name :=
    (hasUpdate_iff_pending hrun _ _).1 ((isManualUpdate_iff_hasUpdate hrun.keyed hrows c).1 h)
  have hplanned : ∀ name ∈ plan.toUpdate, Pending events host.id name := by
    intro name hname
    have hselected := ((mem_toUpdate_iff hplan).1 hname).1
    unfold Selected at hselected
    split at hselected
    · obtain ⟨c, -, -, hmanual, rfl⟩ := hselected
      exact hpending c hmanual
    · obtain ⟨c, -, -, hscheduled, rfl⟩ := hselected
      exact hpending c (isManualUpdate_of_scheduled hscheduled rfl)
  refine ⟨hplanned, fun c hc hasked heligible => ⟨hplanned c.name, fun h => ?_⟩⟩
  have hmanual := (isManualUpdate_iff_hasUpdate hrun.keyed hrows c).2
    ((hasUpdate_iff_pending hrun _ _).2 h)
  exact (mem_toUpdate_iff hplan).2 ⟨(selected_of_manual ⟨c, hasked, heligible⟩).2
    ⟨c, hasked, heligible, hmanual, rfl⟩, c, hc, heligible, rfl⟩

end

/-! ## An example -/

/-- The container `web` is found to have an update and is updated, and a later check finds
another one. -/
def webUpdated : UpdatePlanResult where
  hostId := 1
  hostName := "host"
  items := [{ container := webContainer, result := some .updated }]

def webFoundAgain : Check :=
  { webFound with localDigests := ["web@sha256:d2"], remoteDigest := some "sha256:d3" }

def webEvents : List TableEvent :=
  [.check 1 "web" webFound, .executed webUpdated, .check 1 "web" webFoundAgain]

def onlyTable (row : ContainersModel) : Table := fun h n =>
  if h = row.hostId ∧ n = row.name then some row else none

theorem onlyTable_lists (row : ContainersModel) {names : Set String} (hname : row.name ∈ names) :
    (onlyTable row).Lists row.hostId names [row] where
  nodup := List.nodup_singleton _
  mem_iff row' := by
    unfold onlyTable
    constructor
    · intro h
      obtain rfl := List.mem_singleton.1 h
      exact ⟨rfl, hname, if_pos ⟨rfl, rfl⟩⟩
    · rintro ⟨-, -, h⟩
      split at h
      · cases h
        exact List.mem_singleton_self _
      · cases h

theorem onlyTable_set {row row' : ContainersModel} (h : row'.hostId = row.hostId)
    (h' : row'.name = row.name) :
    (onlyTable row).set row.hostId row.name row' = onlyTable row' := by
  funext hostId name
  by_cases hsame : hostId = row.hostId ∧ name = row.name
  · simp [onlyTable, Table.set, hsame, h, h']
  · simp [onlyTable, Table.set, hsame, h, h']

def foundRow : ContainersModel := webFound.save none 1 "web"

def updatedRow : ContainersModel :=
  (updatedData 5 { container := webContainer, result := some .updated }).apply foundRow

def foundAgainRow : ContainersModel := webFoundAgain.save (some updatedRow) 1 "web"

theorem tableRun_web : TableRun webEvents (onlyTable foundAgainRow) := by
  have hfound : TableRun ([] ++ [.check 1 "web" webFound]) (onlyTable foundRow) :=
    .concat .empty (.check _ 1 "web" webFound)
  have hsaves : Saves (onlyTable foundRow) webUpdated (onlyTable updatedRow) := by
    refine .inr ⟨5, [foundRow], onlyTable_lists foundRow (by decide), ?_⟩
    have hrow : onlyTable foundRow 1 "web" = some foundRow := if_pos ⟨rfl, rfl⟩
    have hwritten : (onlyTable foundRow).written 1 "web"
        (updatedData 5 { container := webContainer, result := some .updated }) = updatedRow := by
      rw [Table.written, hrow]
      rfl
    refine ((Table.commit_changes hrow _).trans ?_).symm
    rw [hwritten]
    exact onlyTable_set rfl rfl
  have hagain : TableStep (onlyTable updatedRow) (.check 1 "web" webFoundAgain)
      (onlyTable foundAgainRow) := by
    have hset : (onlyTable updatedRow).set 1 "web" foundAgainRow = onlyTable foundAgainRow :=
      onlyTable_set rfl rfl
    rw [← hset]
    exact .check _ 1 "web" webFoundAgain
  exact (hfound.concat (.executed hsaves)).concat hagain

/-- The plan after the second finding updates `web`. -/
theorem mem_toUpdate_iff_pending_web :
    ∃ planEnv plan, buildUpdatePlan (.ascending PlanSite) planEnv { id := 1, name := "host" }
        [webContainer] [webContainer] 5 = some plan ∧
      (∀ name ∈ plan.toUpdate, Pending webEvents 1 name) ∧
        ∀ c ∈ [webContainer], c ∈ [webContainer] → isEligible planEnv c = true →
          (c.name ∈ plan.toUpdate ↔ Pending webEvents 1 c.name) := by
  obtain ⟨plan, h⟩ : ∃ plan, buildUpdatePlan (.ascending PlanSite)
      { webDelayEnv with rows := [foundAgainRow] } { id := 1, name := "host" } [webContainer]
        [webContainer] 5 = some plan := Option.isSome_iff_exists.1 (by decide)
  have hrows : (onlyTable foundAgainRow).Lists 1 Set.univ [foundAgainRow] :=
    onlyTable_lists foundAgainRow (Set.mem_univ _)
  exact ⟨_, plan, h, mem_toUpdate_iff_pending tableRun_web hrows h⟩

end Tugtainer
