import Tugtainer.Backend.Quiet

/-!
# How far an update has come with the rows

An execution of a plan touches the rows only at its end: it reads those of its containers
and saves that the updated ones have no update available. Where it returns a result, that
is what it has done: `wp_execute_rows`.
-/

namespace Tugtainer

open Python Interaction Act

/-- How far the execution of a plan has come with the rows. -/
inductive UpdatePhase where
  | before
  | read (hostId : Int) (names : List String) (rows : List ContainersModel)
  | saved (hostId : Int) (names : List String) (rows : List ContainersModel)
      (changes : List (String × ContainerData))

namespace UpdatePhase

def select (hostId : Int) (names : List String) (rows : List ContainersModel) :
    UpdatePhase → UpdatePhase
  | .before => .read hostId names rows
  | u => u

def save (changes : List (String × ContainerData)) : UpdatePhase → UpdatePhase
  | .read hostId names rows => .saved hostId names rows changes
  | u => u

/-- The result was written to the rows, if there was something to write. -/
def Reports (result : UpdatePlanResult) (u : UpdatePhase) : Prop :=
  let items := result.items.filter fun item => item.result.isSome
  items = [] ∨ ∃ now rows, u = .saved result.hostId (items.map fun item => item.container.name)
    rows (updatedChanges now items rows)

end UpdatePhase

/-- The observer of an execution. The rows are written once, after they were read. -/
def updateContract : Contract Backend UpdatePhase where
  next u e := match e with
    | ⟨.selectContainers h names, .ok rows⟩ => u.select h names rows
    | ⟨.commit _ changes, reply⟩ => if (Reply.effect reply).isSome then u.save changes else u
    | _ => u
  rely _ _ := True
  guar u op := match op with
    | .selectContainers _ _ => u = .before
    | .commit h changes => ∃ now items rows,
        u = .read h (items.map fun item => item.container.name) rows ∧
          changes = updatedChanges now items rows
    | .insert _ _ _ | .selectContainer _ _ => False
    | _ => True

/-! ## The executor of a plan -/

/-- What has become of the report of an execution. -/
inductive Report where
  | pending
  | lost
  | made (result : UpdatePlanResult)

/-- The observer of the executor, which reports once. -/
def reportContract : Contract Agent Report where
  next r e := match e with
    | ⟨.updateContainersData result, .ok _⟩ => .made result
    | ⟨.updateContainersData _, .raised _⟩ => .lost
    | _ => r
  rely _ _ := True
  guar r op := match op with
    | .updateContainersData _ => r = .pending
    | _ => True

section

variable {σ : Type}

theorem triple_report_quiet {P : Report → Prop} {x : AgentM σ Unit} (h : Issues Op.Quiet x) :
    Triple reportContract P x P P := by
  refine .of_issues h (fun r op _ hop => ?_) fun r e hr hop _ => ?_
  · cases op <;> trivial
  · obtain ⟨op, ans⟩ := e
    cases op <;> first | exact hr | cases hop

theorem triple_executePasses_report (env : ExecEnv) (host : HostsModel) (plan : UpdatePlan)
    (dockerVersion : Option DockerVersion) (names : List String) :
    Triple reportContract (· = .pending) (executePasses env host plan dockerVersion names)
      (· = .pending) fun _ => True := by
  have hhooks : Triple reportContract (· = .pending) (loadHooksMap env host names) (· = .pending)
      fun _ => True :=
    .ite (.performE (fun _ _ => trivial) (fun _ _ _ hr _ _ => hr) fun _ _ _ _ _ _ => trivial)
      (.pure _ fun _ hr => hr)
  have hquiet {x : AgentM Items Unit} (h : Issues Op.Quiet x) :
      Triple reportContract (· = .pending) x (· = .pending) fun _ => True :=
    (triple_report_quiet h).mono (fun _ hr => hr) (fun _ hr => hr) fun _ _ => trivial
  refine .bind hhooks fun hooksMap => .bind (hquiet (quiet_preparePass _ _ _ _)) fun _ => ?_
  refine .bind (Q := (· = Report.pending)) (.perform fun _ hr => ⟨trivial, fun _ _ => hr⟩)
    fun _ => ?_
  exact .bind (hquiet (quiet_stopPass _ _)) fun _ => hquiet (quiet_updatePass _ _ _)

/-- What the executor returns it has reported, and it is the result of its items. -/
theorem wp_executeUpdatePlan_report (env : ExecEnv) (host : HostsModel)
    (containers : HostContainers) (plan : UpdatePlan) (dockerVersion : Option DockerVersion)
    {items : Items} {r : Report} (hr : r = .pending) :
    Act.wp reportContract (executeUpdatePlan env host containers plan dockerVersion)
      (fun res _ r' => ∀ result, res = some result →
        r' = .made result ∧ ∃ items, result = planResult host items) (fun _ _ _ => True)
      items r := by
  refine (Act.wp_bind _ _).2 ⟨trivial, fun status _ => ?_⟩
  change Act.wp reportContract (if !isAllowedStartCache status then _ else _) _ _ _ r
  rw [Act.wp_ite]
  split
  · exact fun _ h => nomatch h
  rw [Act.wp_ite]
  split
  · exact fun _ h => nomatch h
  refine (Act.wp_bind _ _).2 ⟨trivial, fun _ _ => ?_⟩
  refine (Act.wp_bind _ _).2 ((Act.wp_set _).2 ((Act.wp_bind _ _).2 (Act.wp_get.2 ?_)))
  refine Act.wp_seq (fun _ _ => (· = .pending))
    (triple_executePasses_report _ _ _ _ _ _ r hr) fun _ items' r' hr' => ?_
  refine (Act.wp_bind _ _).2 ((Act.wp_bind _ _).2 (Act.wp_get.2 ?_))
  refine (Act.wp_bind _ _).2 ⟨hr', fun reply _ => ?_⟩
  cases reply with
  | raised _ => trivial
  | ok _ =>
      refine (Act.wp_bind _ _).2 ⟨trivial, fun _ _ => ?_⟩
      rintro result ⟨⟩
      exact ⟨rfl, _, rfl⟩

/-! ## The report in the backend -/

theorem wp_updateContainersDataAfterExecution_rows {result : UpdatePlanResult} {s : σ}
    {u : UpdatePhase} (hu : u = .before) :
    Act.wp updateContract (updateContainersDataAfterExecution result)
      (fun _ _ u' => u'.Reports result) (fun _ _ _ => True) s u := by
  unfold updateContainersDataAfterExecution
  rw [Act.wp_ite]
  split
  · rename_i hnil
    exact .inl hnil
  · refine (Act.wp_bind _ _).2 ⟨trivial, fun updatedAt _ => ?_⟩
    refine (wp_withSession _).2 ((Act.wp_bind _ _).2 ⟨hu, fun reply _ => ?_⟩)
    cases reply with
    | raised _ => exact ⟨trivial, fun reply _ => by cases reply <;> trivial⟩
    | ok rows =>
        subst hu
        refine ⟨⟨updatedAt, _, rows, rfl, rfl⟩, fun reply _ => ?_⟩
        cases reply with
        | raised _ => exact ⟨trivial, fun reply _ => by cases reply <;> trivial⟩
        | ok _ =>
            refine ⟨trivial, fun reply _ => ?_⟩
            cases reply with
            | raised _ => trivial
            | ok _ => exact .inr ⟨updatedAt, rows, rfl⟩

def RowsFollow (u : UpdatePhase) : Report → Prop
  | .pending => u = .before
  | .lost => True
  | .made result => u.Reports result

theorem wp_carryOut_rows (host : HostsModel) (op : Agent.Op) (u : UpdatePhase) (r : Report)
    (hu : RowsFollow u r) (hguar : reportContract.guar r op) :
    (carryOut host op).wp updateContract
      (fun ans u' => True ∧ RowsFollow u' (reportContract.next r ⟨op, ans⟩)) u := by
  cases op with
  | updateContainersData result =>
      obtain rfl : r = .pending := hguar
      refine (Prog.wp_bind _ _ _ _).2 (Prog.wp_mono
        (wp_updateContainersDataAfterExecution_rows (s := ()) hu) ?_)
      rintro ⟨_ | _, _⟩ u' hu'
      · exact ⟨trivial, trivial⟩
      · exact ⟨trivial, hu'⟩
  | _ => exact ⟨trivial, fun _ _ => ⟨trivial, hu⟩⟩

theorem wp_execute_rows (env : BackendEnv) (host : HostsModel) (containers : HostContainers)
    (plan : UpdatePlan) (dockerVersion : Option DockerVersion) (s : σ) :
    Act.wp updateContract (execute env host containers plan dockerVersion)
      (fun res _ u => ∀ result, res = some result → u.Reports result) (fun _ _ _ => True) s
      .before := by
  refine (Act.wp_bind _ _).2 ⟨trivial, fun _ _ => (Act.wp_bind _ _).2 ⟨trivial, fun _ _ => ?_⟩⟩
  refine Act.wp_mono (Act.wp_interp RowsFollow
    (fun op u r hu hguar => wp_carryOut_rows host op u r hu hguar)
    (wp_executeUpdatePlan_report _ host containers plan dockerVersion (r := .pending) rfl) rfl)
    ?_ fun _ _ _ _ => trivial
  rintro res _ u ⟨-, _, r, hu, hres⟩ result heq
  rw [(hres result heq).1] at hu
  exact hu

end

end Tugtainer
