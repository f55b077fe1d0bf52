import Tugtainer.Backend.Update

/-!
# The world of a single task

While nobody else acts, a function of the backend reads from the table what was
written to it last, and a clock that does not go back. `World.contract` relies on that
and on the database to answer; agents and registries may answer anything.
-/

namespace Tugtainer

open Python Interaction

/-- The containers table, by host and container name. -/
abbrev Table := Int → String → Option ContainersModel

namespace Table

def set (t : Table) (hostId : Int) (name : String) (row : ContainersModel) : Table :=
  fun h n => if h = hostId ∧ n = name then some row else t h n

/-- The `UPDATE` statement of one row. -/
def update (t : Table) (hostId : Int) (change : String × ContainerData) : Table :=
  match t hostId change.1 with
  | some row => t.set hostId change.1 (change.2.apply row)
  | none => t

def commit (t : Table) (hostId : Int) (changes : List (String × ContainerData)) : Table :=
  changes.foldl (fun t change => t.update hostId change) t

/-- The row of a container once the columns are set, or a new one. -/
def written (t : Table) (hostId : Int) (name : String) (data : ContainerData) :
    ContainersModel :=
  data.apply ((t hostId name).getD { hostId := hostId, name := name })

@[simp] theorem set_self (t : Table) (hostId : Int) (name : String) (row : ContainersModel) :
    t.set hostId name row hostId name = some row := by
  simp [set]

theorem set_of_ne (t : Table) {hostId h : Int} {name n : String} (row : ContainersModel)
    (hne : ¬ (h = hostId ∧ n = name)) : t.set hostId name row h n = t h n := by
  simp [set, hne]

theorem update_of_some {t : Table} {hostId : Int} {change : String × ContainerData}
    {row : ContainersModel} (h : t hostId change.1 = some row) :
    t.update hostId change = t.set hostId change.1 (change.2.apply row) := by
  simp [update, h]

theorem update_of_none {t : Table} {hostId : Int} {change : String × ContainerData}
    (h : t hostId change.1 = none) : t.update hostId change = t := by
  simp [update, h]

theorem commit_induction {P : Int → String → Option ContainersModel → Prop} {t : Table}
    {hostId : Int} {changes : List (String × ContainerData)} (h : ∀ h n, P h n (t h n))
    (hstep : ∀ change ∈ changes, ∀ row, P hostId change.1 (some row) →
      P hostId change.1 (some (change.2.apply row))) (h' : Int) (n : String) :
    P h' n (t.commit hostId changes h' n) := by
  induction changes generalizing t with
  | nil => exact h h' n
  | cons change changes ih =>
      refine ih (t := t.update hostId change) (fun h₁ n₁ => ?_)
        fun c hc => hstep c (List.mem_cons_of_mem _ hc)
      cases hrow : t hostId change.1 with
      | none =>
          rw [update_of_none hrow]
          exact h h₁ n₁
      | some row =>
          rw [update_of_some hrow]
          by_cases hsame : h₁ = hostId ∧ n₁ = change.1
          · obtain ⟨rfl, rfl⟩ := hsame
            rw [set_self]
            exact hstep change (by simp) row (hrow ▸ h h₁ change.1)
          · rw [set_of_ne _ _ hsame]
            exact h h₁ n₁

theorem commit_changes {t : Table} {hostId : Int} {name : String} {row : ContainersModel}
    (h : t hostId name = some row) (data : ContainerData) :
    t.commit hostId [(name, data.changes row)] =
      t.set hostId name (t.written hostId name data) := by
  simp [commit, update, written, h, ContainerData.apply_changes]

/-- The rows are those of the host whose names are asked for, in some order. -/
structure Lists (t : Table) (hostId : Int) (names : Set String) (rows : List ContainersModel) :
    Prop where
  nodup : (rows.map ContainersModel.name).Nodup
  mem_iff : ∀ row, row ∈ rows ↔ row.hostId = hostId ∧ row.name ∈ names ∧
    t hostId row.name = some row

end Table

/-- The table, and the time that the clock has shown last. -/
structure World where
  table : Table
  clock : Int

namespace World

def next (w : World) : Event Backend → World
  | ⟨.now, t⟩ => { w with clock := t }
  | ⟨.commit hostId changes, .ok _⟩ => { w with table := w.table.commit hostId changes }
  | ⟨.insert hostId name data, .ok _⟩ =>
      { w with table := w.table.set hostId name (data.newRow hostId name) }
  | _ => w

/-- What an operation is answered. The table does not take a null flag. -/
def Answers (w : World) : Event Backend → Prop
  | ⟨.now, t⟩ => w.clock ≤ t
  | ⟨.selectContainer hostId name, r⟩ => r = .ok (w.table hostId name)
  | ⟨.selectContainers hostId names, r⟩ =>
      ∃ rows, r = .ok rows ∧ w.table.Lists hostId {name | name ∈ names} rows
  | ⟨.selectHostContainers hostId, r⟩ =>
      ∃ rows, r = .ok rows ∧ w.table.Lists hostId Set.univ rows
  | ⟨.commit _ changes, r⟩ =>
      r = if changes.all fun change => change.2.isValid then .ok () else .raised none
  | ⟨.insert _ _ _, r⟩ => r = .ok ()
  | ⟨.refresh hostId name, r⟩ => ∃ row, r = .ok row ∧ w.table hostId name = some row
  | ⟨.close, r⟩ => r = .ok ()
  | _ => True

/-- The contract of the world of a single task. -/
def contract : Contract Backend World where
  next := next
  rely := Answers
  guar _ _ := True

variable {σ α : Type} {Q : α → σ → World → Prop} {E : Exn → σ → World → Prop} {s : σ} {w : World}

theorem wp_now {Q : Int → σ → World → Prop} :
    Act.wp World.contract now Q E s w ↔
      ∀ t, w.clock ≤ t → Q t s { w with clock := t } :=
  ⟨fun h => h.2, fun h => ⟨trivial, h⟩⟩

/-! Operations that the world does not know of. -/

theorem wp_cacheGet {key : CacheKey} {Q : Option Progress → σ → World → Prop}
    (h : ∀ entry, Q entry s w) : Act.wp World.contract (cacheGet key) Q E s w :=
  ⟨trivial, fun r _ => h r⟩

theorem wp_cacheSet {key : CacheKey} {status : ActionStatus} {Q : Unit → σ → World → Prop}
    (h : Q () s w) : Act.wp World.contract (cacheSet key status) Q E s w :=
  ⟨trivial, fun _ _ => h⟩

theorem wp_cacheUpdate {key : CacheKey} {status : ActionStatus} {result : Option ActionResult}
    {Q : Unit → σ → World → Prop} (h : Q () s w) :
    Act.wp World.contract (cacheUpdate key status result) Q E s w :=
  ⟨trivial, fun _ _ => h⟩

theorem wp_getSettings {Q : Settings → σ → World → Prop} (h : ∀ settings, Q settings s w) :
    Act.wp World.contract getSettings Q E s w :=
  ⟨trivial, fun r _ => h r⟩

theorem wp_sleepAbout {delay : Int} {Q : Unit → σ → World → Prop} (h : Q () s w) :
    Act.wp World.contract (sleepAbout delay) Q E s w :=
  ⟨trivial, fun _ _ => h⟩

theorem wp_request {hostId : Int} {req : Request} {Q : req.Result → σ → World → Prop}
    (hok : ∀ a, Q a s w) (hraised : E .call s w) :
    Act.wp World.contract (request hostId req) Q E s w := by
  refine ⟨trivial, fun r _ => ?_⟩
  cases r with
  | ok a => exact hok a
  | raised lost => exact hraised

theorem wp_getEnabledHost {hostId : Int} {Q : HostsModel → σ → World → Prop}
    (hok : ∀ host, Q host s w) (hraised : ∀ e, E e s w) :
    Act.wp World.contract (getEnabledHost hostId) Q E s w := by
  unfold getEnabledHost
  rw [Act.wp_bind]
  refine ⟨trivial, fun r _ => ?_⟩
  cases r with
  | raised lost => exact hraised .call
  | ok host =>
      change Act.wp World.contract (if host.enabled then pure host else throw _) Q E s w
      rw [Act.wp_ite]
      split
      · exact hok host
      · exact hraised _

theorem wp_selectContainer {hostId : Int} {name : String}
    {Q : Option ContainersModel → σ → World → Prop} :
    Act.wp World.contract (Act.performE (I := Backend) (.selectContainer hostId name) Reply.read)
        Q E s w ↔ Q (w.table hostId name) s w :=
  ⟨fun h => h.2 _ rfl, fun h => ⟨trivial, fun r hr => by cases hr; exact h⟩⟩

theorem wp_selectHostContainers {hostId : Int} {Q : List ContainersModel → σ → World → Prop}
    (h : ∀ rows, w.table.Lists hostId Set.univ rows → Q rows s w) :
    Act.wp World.contract (Act.performE (I := Backend) (.selectHostContainers hostId) Reply.read)
      Q E s w := by
  refine ⟨trivial, fun r hr => ?_⟩
  obtain ⟨rows, rfl, hrows⟩ := hr
  exact h rows hrows

theorem wp_selectContainers {hostId : Int} {names : List String}
    {Q : List ContainersModel → σ → World → Prop}
    (h : ∀ rows, w.table.Lists hostId {name | name ∈ names} rows → Q rows s w) :
    Act.wp World.contract (Act.performE (I := Backend) (.selectContainers hostId names) Reply.read)
      Q E s w := by
  refine ⟨trivial, fun r hr => ?_⟩
  obtain ⟨rows, rfl, hrows⟩ := hr
  exact h rows hrows

theorem wp_session (x : BackendM σ α) :
    Act.wp World.contract (withSession x) Q E s w ↔ Act.wp World.contract x Q E s w := by
  rw [wp_withSession]
  constructor <;> intro h <;> refine Act.wp_mono h (fun a s' w' h' => ?_) fun e s' w' h' => ?_
  · exact h'.2 (.ok ()) rfl
  · exact h'.2 (.ok ()) rfl
  · refine ⟨trivial, fun reply hr => ?_⟩
    cases hr
    exact h'
  · refine ⟨trivial, fun reply hr => ?_⟩
    cases hr
    exact h'

theorem wp_commit {hostId : Int} {changes : List (String × ContainerData)}
    {Q : Unit → σ → World → Prop} (hvalid : changes.all (fun change => change.2.isValid) = true) :
    Act.wp World.contract (Act.performE (I := Backend) (.commit hostId changes) Reply.read) Q E s w
      ↔ Q () s { w with table := w.table.commit hostId changes } := by
  have hanswers : ∀ r : Reply Unit,
      World.contract.rely w ⟨BackendOp.commit hostId changes, r⟩ ↔ r = .ok () := by
    intro r
    simp only [World.contract, World.Answers, hvalid, ↓reduceIte]
    exact Iff.rfl
  constructor
  · exact fun h => h.2 (Reply.ok ()) ((hanswers _).2 rfl)
  · intro h
    refine ⟨trivial, fun r hr => ?_⟩
    obtain rfl := (hanswers r).1 hr
    exact h

theorem wp_commit_or {hostId : Int} {changes : List (String × ContainerData)}
    {Q : Unit → σ → World → Prop} (hok : Q () s { w with table := w.table.commit hostId changes })
    (hraised : E .call s w) :
    Act.wp World.contract (Act.performE (I := Backend) (.commit hostId changes) Reply.read) Q E s
      w := by
  by_cases hvalid : changes.all (fun change => change.2.isValid) = true
  · exact (wp_commit hvalid).2 hok
  · refine ⟨trivial, fun r hr => ?_⟩
    simp only [World.contract, World.Answers, hvalid] at hr
    cases hr
    exact hraised

theorem wp_insert {hostId : Int} {name : String} {data : ContainerData}
    {Q : Unit → σ → World → Prop} :
    Act.wp World.contract (Act.performE (I := Backend) (.insert hostId name data) Reply.read) Q E s
      w ↔ Q () s { w with table := w.table.set hostId name (data.newRow hostId name) } :=
  ⟨fun h => h.2 (Reply.ok ()) rfl, fun h => ⟨trivial, fun r hr => by cases hr; exact h⟩⟩

theorem wp_refresh {hostId : Int} {name : String} {row : ContainersModel}
    {Q : ContainersModel → σ → World → Prop} (hrow : w.table hostId name = some row) :
    Act.wp World.contract (Act.performE (I := Backend) (.refresh hostId name) Reply.read) Q E s w ↔
      Q row s w := by
  constructor
  · exact fun h => h.2 (Reply.ok row) ⟨row, rfl, hrow⟩
  · rintro h
    refine ⟨trivial, fun r hr => ?_⟩
    obtain ⟨row', rfl, hget⟩ := hr
    cases hrow.symm.trans hget
    exact h

theorem newRow_eq_written {t : Table} {hostId : Int} {name : String} (data : ContainerData)
    (hrow : t hostId name = none) : data.newRow hostId name = t.written hostId name data := by
  simp [Table.written, ContainerData.newRow, hrow]

/-- A row is written as a whole, whether the session has loaded it before or not. -/
theorem wp_insertOrUpdate {loaded : Option ContainersModel} {hostId : Int} {name : String}
    {data : ContainerData} {Q : ContainersModel → σ → World → Prop}
    (hloaded : loaded = none ∨ loaded = w.table hostId name) (hvalid : data.isValid = true) :
    Act.wp World.contract (insertOrUpdateContainer loaded hostId name data) Q E s w ↔
      Q (w.table.written hostId name data) s
        { w with table := w.table.set hostId name (w.table.written hostId name data) } := by
  unfold insertOrUpdateContainer
  simp only [Act.wp_bind, wp_selectContainer]
  cases hrow : w.table hostId name with
  | none =>
      rw [Act.wp_bind, wp_insert, wp_refresh (Table.set_self _ _ _ _),
        newRow_eq_written data hrow]
  | some row =>
      have hcontainer : loaded.getD row = row := by
        rcases hloaded with rfl | rfl <;> simp [hrow]
      rw [Act.wp_bind, hcontainer,
        wp_commit (by simpa using ContainerData.isValid_changes row hvalid),
        Table.commit_changes hrow, wp_refresh (Table.set_self _ _ _ _)]

end World

end Tugtainer
