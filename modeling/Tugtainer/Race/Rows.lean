import Tugtainer.Backend.Check
import Tugtainer.Interaction.Schedule
import Tugtainer.Interaction.Triple

/-!
# Calls that insert the same row

`insertOrUpdateContainer` asks for the row of a container and inserts one where it finds
none. Nothing but this question keeps the rows apart: the table has no unique constraint on
host and name, so it is a list of rows here. `nodup_rows_of_reaches` says when there is one
row for each container.
-/

namespace Tugtainer

open Python Interaction

/-! ## The table as a list of rows -/

/-- The container that a row is about. -/
def rowKey (row : ContainersModel) : Int × String :=
  (row.hostId, row.name)

/-- The row that `select ... limit(1)` finds. -/
def firstRow (rows : List ContainersModel) (key : Int × String) : Option ContainersModel :=
  rows.find? (rowKey · = key)

/-- The `UPDATE` statement of the row that was found. -/
def updateFirst (key : Int × String) (data : ContainerData) :
    List ContainersModel → List ContainersModel
  | [] => []
  | row :: rows =>
      if rowKey row = key then data.apply row :: rows else row :: updateFirst key data rows

theorem rowKey_apply (data : ContainerData) (row : ContainersModel) :
    rowKey (data.apply row) = rowKey row := rfl

theorem rowKey_newRow (data : ContainerData) (hostId : Int) (name : String) :
    rowKey (data.newRow hostId name) = (hostId, name) := rfl

theorem map_rowKey_updateFirst (key : Int × String) (data : ContainerData)
    (rows : List ContainersModel) :
    (updateFirst key data rows).map rowKey = rows.map rowKey := by
  induction rows with
  | nil => rfl
  | cons row rows ih =>
      rw [updateFirst]
      split
      · rw [List.map_cons, rowKey_apply, List.map_cons]
      · rw [List.map_cons, ih, List.map_cons]

theorem firstRow_eq_none_iff {rows : List ContainersModel} {key : Int × String} :
    firstRow rows key = none ↔ key ∉ rows.map rowKey := by
  simp [firstRow, List.find?_eq_none]

/-- The rows after an operation. An insert that raises may have been carried out. -/
def nextRows (rows : List ContainersModel) : Event Backend → List ContainersModel
  | ⟨.commit hostId changes, .ok _⟩ =>
      changes.foldl (fun rows change => updateFirst (hostId, change.1) change.2 rows) rows
  | ⟨.insert hostId name data, .ok _⟩ => rows ++ [data.newRow hostId name]
  | ⟨.insert hostId name data, .raised (some _)⟩ => rows ++ [data.newRow hostId name]
  | _ => rows

/-- Calls are answered from the committed rows; every operation may raise. -/
def rowsContract : Contract Backend (List ContainersModel) where
  next := nextRows
  rely rows e :=
    match e with
    | ⟨.selectContainer hostId name, .ok row⟩ => row = firstRow rows (hostId, name)
    | ⟨.refresh hostId name, .ok row⟩ => row ∈ rows ∧ rowKey row = (hostId, name)
    | _ => True
  guar _ _ := True

theorem map_rowKey_commit (hostId : Int) (changes : List (String × ContainerData))
    (rows : List ContainersModel) :
    (changes.foldl (fun rows change => updateFirst (hostId, change.1) change.2 rows) rows).map
      rowKey = rows.map rowKey := by
  induction changes generalizing rows with
  | nil => rfl
  | cons change changes ih => rw [List.foldl_cons, ih, map_rowKey_updateFirst]

theorem map_rowKey_nextRows {rows : List ContainersModel} {e : Event Backend}
    (h : ∀ hostId name data, e.op ≠ .insert hostId name data) :
    (nextRows rows e).map rowKey = rows.map rowKey := by
  obtain ⟨op, r⟩ := e
  cases op with
  | commit hostId changes =>
      cases r with
      | ok u => exact map_rowKey_commit hostId changes rows
      | raised _ => rfl
  | insert hostId name data => exact absurd rfl (h hostId name data)
  | _ => rfl

/-! ## What a call is about to do -/

/-- The container that a call has found no row of, until its next operation. -/
abbrev Inserting := Option (Int × String)

def Inserting.next (_ : Inserting) : Event Backend → Inserting
  | ⟨.selectContainer hostId name, .ok none⟩ => some (hostId, name)
  | _ => none

def insertingContract : Contract Backend Inserting where
  next := Inserting.next
  rely _ _ := True
  guar v op := ∀ hostId name data, op = .insert hostId name data → v = some (hostId, name)

theorem triple_insertOrUpdateContainer (loaded : Option ContainersModel) (hostId : Int)
    (name : String) (data : ContainerData) :
    Act.Triple insertingContract (fun _ => True)
      (insertOrUpdateContainer loaded hostId name data : BackendM Unit ContainersModel)
      (fun _ => True) fun _ => True := by
  have hrefresh : Act.Triple insertingContract (fun _ => True)
      (Act.performE (I := Backend) (.refresh hostId name) Reply.read : BackendM Unit _)
      (fun _ => True) fun _ => True :=
    .performE (fun _ _ _ _ _ h => BackendOp.noConfusion h) (fun _ _ _ _ _ _ => trivial)
      fun _ _ _ _ _ _ => trivial
  refine .bind_of_wp (Q := fun row v => row = none → v = some (hostId, name))
    (fun s v _ => ⟨fun _ _ _ h => BackendOp.noConfusion h, fun r _ => ?_⟩) fun row => ?_
  · cases r with
    | raised lost => trivial
    | ok row =>
        rintro rfl
        rfl
  · cases row with
    | some row =>
        exact .bind (Q := fun _ => True) (.performE (fun _ _ _ _ _ h => BackendOp.noConfusion h)
          (fun _ _ _ _ _ _ => trivial) fun _ _ _ _ _ _ => trivial) fun _ => hrefresh
    | none =>
        refine .bind (Q := fun _ => True) (.performE (fun v hv _ _ _ h => ?_)
          (fun _ _ _ _ _ _ => trivial) fun _ _ _ _ _ _ => trivial) fun _ => hrefresh
        cases h
        exact hv rfl

/-! ## Calls at the same time -/

/-- Any number of calls, for any containers and with any data. -/
def rowsSystem : System Backend (Except Exn ContainersModel × Unit) Inserting
    (List ContainersModel) where
  awaited := BackendOp.isAwaited
  world := rowsContract
  view := insertingContract
  starts p v := ∃ loaded hostId name data,
    p = insertOrUpdateContainer loaded hostId name data () ∧ v = none
  env _ _ := False

abbrev RowsPool := Pool Backend (Except Exn ContainersModel × Unit) Inserting
  (List ContainersModel)

/-- The call of that number is about to insert a row for the container. -/
def Inserts (s : RowsPool) (i : ℕ) (key : Int × String) : Prop :=
  ∃ p, s.tasks[i]? = some (p, some key)

/-- A step at which no call finds that there is no row while another call is about to insert
it. -/
def FindsAlone (s : RowsPool) (a : Move Backend) : Prop :=
  ∀ i hostId name, a = .event i ⟨.selectContainer hostId name, Reply.ok none⟩ →
    ∀ j, Inserts s j (hostId, name) → j = i

/-- One row for each container, and one call to insert it while there is none. -/
structure RowsUnique (s : RowsPool) : Prop where
  nodup : (s.world.map rowKey).Nodup
  missing : ∀ i key, Inserts s i key → key ∉ s.world.map rowKey
  alone : ∀ i j key, Inserts s i key → Inserts s j key → i = j

theorem Inserting.eq_of_next {v : Inserting} {e : Event Backend} {key : Int × String}
    (h : Inserting.next v e = some key) :
    e = ⟨.selectContainer key.1 key.2, Reply.ok none⟩ := by
  obtain ⟨op, r⟩ := e
  cases op with
  | selectContainer hostId name =>
      cases r with
      | raised lost => cases h
      | ok row =>
          cases row with
          | some row => cases h
          | none =>
              cases h
              rfl
  | _ => cases h

theorem map_rowKey_insert (rows : List ContainersModel) (hostId : Int) (name : String)
    (data : ContainerData) (r : Reply Unit) :
    (nextRows rows ⟨.insert hostId name data, r⟩).map rowKey = rows.map rowKey ∨
      (nextRows rows ⟨.insert hostId name data, r⟩).map rowKey =
        rows.map rowKey ++ [(hostId, name)] := by
  have hadd : (rows ++ [data.newRow hostId name]).map rowKey =
      rows.map rowKey ++ [(hostId, name)] := by
    rw [List.map_append, List.map_singleton, rowKey_newRow]
  cases r with
  | ok u => exact .inr hadd
  | raised lost =>
      cases lost with
      | none => exact .inl rfl
      | some u => exact .inr hadd

section

variable {s : RowsPool} {i j : ℕ} {op : BackendOp} {r : op.Ans} {v : Inserting}
  {p q : Prog Backend (Except Exn ContainersModel × Unit)} {key : Int × String}

theorem Inserts.of_start (h : Inserts { s with tasks := s.tasks ++ [(p, none)] } i key) :
    Inserts s i key := by
  obtain ⟨q, hget⟩ := h
  rcases System.getElem?_concat_eq_some hget with hget | heq
  · exact ⟨q, hget⟩
  · cases heq

/-- A call that is about to insert has just found no row, or it stood there before. -/
theorem Inserts.of_event {active : Option ℕ}
    (h : Inserts
      { tasks := s.tasks.set i (q, Inserting.next v ⟨op, r⟩)
        active := active
        world := nextRows s.world ⟨op, r⟩ } j key) :
    (j = i ∧ (⟨op, r⟩ : Event Backend) = ⟨.selectContainer key.1 key.2, Reply.ok none⟩) ∨
      j ≠ i ∧ Inserts s j key := by
  obtain ⟨q', hq⟩ := h
  rcases System.getElem?_set_eq_some hq with ⟨hji, heq⟩ | ⟨hne, hq⟩
  · exact .inl ⟨hji, Inserting.eq_of_next (v := v) (Eq.symm (congrArg Prod.snd heq))⟩
  · exact .inr ⟨hne, q', hq⟩

/-- An operation of a call adds at most the row that the call is about to insert. -/
theorem map_rowKey_event (hget : s.tasks[i]? = some (p, v))
    (hguar : insertingContract.guar v op) :
    (nextRows s.world ⟨op, r⟩).map rowKey = s.world.map rowKey ∨
      ∃ key, Inserts s i key ∧
        (nextRows s.world ⟨op, r⟩).map rowKey = s.world.map rowKey ++ [key] := by
  by_cases hinsert : ∃ hostId name data, op = .insert hostId name data
  · obtain ⟨hostId, name, data, rfl⟩ := hinsert
    refine (map_rowKey_insert s.world hostId name data r).imp_right fun hadd => ?_
    have hv := hguar hostId name data rfl
    exact ⟨(hostId, name), ⟨_, hv ▸ hget⟩, hadd⟩
  · refine .inl (map_rowKey_nextRows fun hostId name data heq => hinsert ?_)
    exact ⟨hostId, name, data, heq⟩

end

theorem RowsUnique.step {s s' : RowsPool} {a : Move Backend}
    {Q : Except Exn ContainersModel × Unit → Inserting → Prop} (h : RowsUnique s)
    (hwp : rowsSystem.TasksWp Q s) (hstep : rowsSystem.Step s a s') (hcond : FindsAlone s a) :
    RowsUnique s' := by
  cases hstep with
  | env henv => exact henv.elim
  | @start p v hp =>
      obtain ⟨loaded, hostId, name, data, -, rfl⟩ := hp
      exact ⟨h.nodup, fun i key hi => h.missing i key hi.of_start,
        fun i j key hi hj => h.alone i j key hi.of_start hj.of_start⟩
  | @event i op k r v hget hactive hrely =>
      have hkeys := map_rowKey_event (r := r) hget (hwp i _ v hget).1
      refine ⟨?_, fun j key hj => ?_, fun j j' key hj hj' => ?_⟩
      · change ((nextRows s.world ⟨op, r⟩).map rowKey).Nodup
        rcases hkeys with hsame | ⟨key, hi, hadd⟩
        · rw [hsame]
          exact h.nodup
        · rw [hadd]
          exact h.nodup.append (List.nodup_singleton key)
            (List.disjoint_singleton.2 (h.missing i key hi))
      · change key ∉ (nextRows s.world ⟨op, r⟩).map rowKey
        rcases Inserts.of_event (v := v) hj with ⟨rfl, heq⟩ | ⟨hne, hj⟩
        · cases heq
          have hrow : none = firstRow s.world key := hrely
          exact firstRow_eq_none_iff.1 hrow.symm
        · rcases hkeys with hsame | ⟨key', hi, hadd⟩
          · rw [hsame]
            exact h.missing j key hj
          · rw [hadd]
            refine List.not_mem_append (h.missing j key hj) fun hmem => hne ?_
            obtain rfl := List.mem_singleton.1 hmem
            exact h.alone j i key hj hi
      · rcases Inserts.of_event (v := v) hj with ⟨rfl, heq⟩ | ⟨-, hold⟩ <;>
          rcases Inserts.of_event (v := v) hj' with ⟨rfl, heq'⟩ | ⟨-, hold'⟩
        · rfl
        · cases heq
          exact (hcond j key.1 key.2 rfl j' hold').symm
        · cases heq'
          exact hcond j' key.1 key.2 rfl j hold
        · exact h.alone j j' key hold hold'

/-- Along every schedule the table has at most one row for each container, as long as calls
find no row one after the other. -/
theorem nodup_rows_of_reaches {s₀ s : RowsPool} (h : rowsSystem.Reaches FindsAlone s₀ s)
    (h₀ : s₀.tasks = []) (hrows : s₀.world = []) : (s.world.map rowKey).Nodup := by
  have hinv : rowsSystem.TasksWp (fun _ _ => True) s ∧ RowsUnique s := by
    refine h.inv (P := fun s => rowsSystem.TasksWp (fun _ _ => True) s ∧ RowsUnique s) ?_ ?_
    · have hnone : ∀ (i : ℕ) p v, s₀.tasks[i]? ≠ some (p, v) := by simp [h₀]
      refine ⟨fun i p v hget => absurd hget (hnone i p v), by simp [hrows], ?_, ?_⟩
      · rintro i key ⟨p, hget⟩
        exact absurd hget (hnone i p _)
      · rintro i j key ⟨p, hget⟩
        exact absurd hget (hnone i p _)
    · rintro s a s' ⟨hwp, hunique⟩ hstep hcond
      refine ⟨hwp.step ?_ (fun _ _ _ _ => trivial) hstep, hunique.step hwp hstep hcond⟩
      rintro p v ⟨loaded, hostId, name, data, rfl, rfl⟩
      exact Prog.wp_mono (triple_insertOrUpdateContainer loaded hostId name data () none trivial)
        fun _ _ _ => trivial
  exact hinv.2.nodup

/-! ## Two calls for one container -/

def emptyTable : RowsPool := { tasks := [], active := none, world := [] }

def tableReply (rows : List ContainersModel) : (op : BackendOp) → Option op.Ans
  | .selectContainer hostId name => some (.ok (firstRow rows (hostId, name)))
  | .commit _ _ | .insert _ _ _ => some (.ok ())
  | .refresh hostId name => (firstRow rows (hostId, name)).map .ok
  | _ => none

theorem rely_tableReply (rows : List ContainersModel) (op : BackendOp) (r : op.Ans)
    (h : tableReply rows op = some r) : rowsContract.rely rows ⟨op, r⟩ := by
  cases op with
  | selectContainer hostId name =>
      cases h
      exact rfl
  | refresh hostId name =>
      obtain ⟨row, hrow, rfl⟩ := Option.map_eq_some_iff.1 h
      exact ⟨List.mem_of_find?_eq_some hrow, by simpa using List.find?_some hrow⟩
  | _ => trivial

def webCall : Turn Backend (Except Exn ContainersModel × Unit) Inserting (List ContainersModel) :=
  .start (insertOrUpdateContainer none 1 "web" {} ()) none

theorem findsAlone_of_step {s s' : RowsPool} {a : Move Backend} (h : s.tasks.length ≤ 1)
    (hstep : rowsSystem.Step s a s') : FindsAlone s a := by
  rintro i hostId name rfl j ⟨p, hj⟩
  cases hstep with
  | event hi _ _ =>
      have hi := (List.getElem?_eq_some_iff.1 hi).1
      have hj := (List.getElem?_eq_some_iff.1 hj).1
      omega

def insertedWeb : RowsPool :=
  (rowsSystem.runTurns tableReply (fun s => s.tasks.length ≤ 1) emptyTable
    (webCall :: List.replicate 3 (.step 0))).get (by decide +kernel)

theorem nodup_rows_insertedWeb : (insertedWeb.world.map rowKey).Nodup := by
  refine nodup_rows_of_reaches (System.reaches_of_answeredBy rely_tableReply
    (fun s a s' hok hstep _ => findsAlone_of_step (by simpa using hok) hstep)
    (webCall :: List.replicate 3 (.step 0)) (fun t ht => ?_) .refl
    (Option.some_get (by decide +kernel)).symm) rfl rfl
  rcases List.mem_cons.1 ht with rfl | ht
  · exact ⟨none, 1, "web", {}, rfl, rfl⟩
  · rw [(List.mem_replicate.1 ht).2]
    trivial

/-- Both calls have found no row when the first one inserts it. -/
def insertedTwice : RowsPool :=
  (rowsSystem.runTurns tableReply (fun _ => true) emptyTable
    [webCall, webCall, .step 0, .step 1, .step 0, .step 1]).get (by decide +kernel)

/-- The table has two rows for one container. -/
theorem two_rows_for_web :
    ¬ ∀ s₀ s : RowsPool, rowsSystem.Reaches (fun _ _ => True) s₀ s → s₀.tasks = [] →
      s₀.world = [] → (s.world.map rowKey).Nodup := by
  intro hclaim
  have hreaches : rowsSystem.Reaches (fun _ _ => True) emptyTable insertedTwice := by
    refine System.reaches_of_runTurns rely_tableReply (fun _ _ _ => trivial) (fun t ht => ?_) .refl
      (Option.some_get (by decide +kernel)).symm
    simp only [List.mem_cons, List.not_mem_nil, or_false] at ht
    rcases ht with rfl | rfl | rfl | rfl | rfl | rfl
    · exact ⟨none, 1, "web", {}, rfl, rfl⟩
    · exact ⟨none, 1, "web", {}, rfl, rfl⟩
    all_goals trivial
  have hrows : insertedTwice.world.map rowKey = [(1, "web"), (1, "web")] := by decide +kernel
  have hnodup := hclaim _ _ hreaches rfl rfl
  rw [hrows] at hnodup
  exact absurd hnodup (by decide)

end Tugtainer
