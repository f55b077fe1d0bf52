import Tugtainer.Backend.World

/-!
# Requests that change a row and fail

`patchContainerData` commits the row before it looks at the host and asks the agent. So a
request that fails may have changed the table: `patchLeavesTable_iff` says which do not.
-/

namespace Tugtainer

open Python Interaction

/-! ## What the request is answered -/

/-- The answers of the database, of the table of hosts and of the agent. A host that is
missing raises. -/
structure PatchAnswers where
  select : Bool := true
  /-- the commit, which may have been carried out though it raises -/
  write : Reply Unit := .ok ()
  refresh : Bool := true
  host : Reply HostsModel
  inspect : Reply ContainerInspectResult

namespace PatchAnswers

variable (a : PatchAnswers)

def writeOf (data : ContainerData) : Reply Unit :=
  if data.isValid then a.write else .raised none

def next (t : Table) : Event Backend → Table
  | ⟨.commit hostId changes, r⟩ =>
      if (Reply.effect r).isSome then t.commit hostId changes else t
  | ⟨.insert hostId name data, r⟩ =>
      if (Reply.effect r).isSome then t.set hostId name (data.newRow hostId name) else t
  | _ => t

def contract : Contract Backend Table where
  next := next
  rely t e :=
    match e with
    | ⟨.selectContainer hostId name, r⟩ =>
        r = if a.select then .ok (t hostId name) else .raised none
    | ⟨.commit _ changes, r⟩ =>
        r = if changes.all fun change => change.2.isValid then a.write else .raised none
    | ⟨.insert _ _ _, r⟩ => r = a.write
    | ⟨.refresh hostId name, r⟩ =>
        r = match t hostId name with
          | some row => if a.refresh then .ok row else .raised none
          | none => .raised none
    | ⟨.selectHost _, r⟩ => r = a.host
    | ⟨.agent _ _ (.containerInspect _), r⟩ => r = a.inspect
    | _ => True
  guar _ _ := True

end PatchAnswers

/-! ## The outcome of the request -/

/-- The table once the columns of the request are set. -/
def patched (t : Table) (hostId : Int) (name : String) (data : ContainerData) : Table :=
  t.set hostId name (t.written hostId name data)

namespace PatchAnswers

variable (a : PatchAnswers) (t : Table) (hostId : Int) (name : String)

/-- What the write of the row is answered. The table takes no null flags of a row. -/
def written (data : ContainerData) : Reply Unit :=
  if (t hostId name).all fun row => (data.changes row).isValid then a.write else .raised none

/-- The row that is written and read back, and the table. -/
def writeOutcome (data : ContainerData) (reply : Reply Unit) : Except Exn ContainersModel × Table :=
  match reply with
  | .ok _ =>
      (if a.refresh then .ok (t.written hostId name data) else .error .call,
        patched t hostId name data)
  | .raised (some _) => (.error .call, patched t hostId name data)
  | .raised none => (.error .call, t)

/-- The checks after the write: the host is there and enabled, and its agent answers. -/
def hostOutcome : Except Exn Unit :=
  match a.host with
  | .raised _ => .error .call
  | .ok host =>
      if host.enabled then a.inspect.read.map fun _ => () else .error (.exception "Host disabled")

def outcome (env : BackendEnv) (body : PatchBody) : Except Exn Unit × Table :=
  if !body.isValid then (.error .validation, t)
  else if (body.hooks.getD none).isSome && !env.allowHooks then
    (.error (.exception "Hooks are disabled."), t)
  else if a.select then
    match a.writeOutcome t hostId name body.data (a.written t hostId name body.data) with
    | (.ok _, t') => (a.hostOutcome, t')
    | (.error e, t') => (.error e, t')
  else (.error .call, t)

end PatchAnswers

def Settled {α σ : Type} (outcome : Except Exn α × Table) (Q : α → σ → Table → Prop)
    (E : Exn → σ → Table → Prop) (s : σ) : Prop :=
  match outcome with
  | (.ok b, t) => Q b s t
  | (.error e, t) => E e s t

section

variable {a : PatchAnswers} {σ α : Type} {E : Exn → σ → Table → Prop} {s : σ} {t : Table}
  {hostId : Int} {name : String} {data : ContainerData}

theorem PatchAnswers.wp_performE (op : BackendOp) {read : op.Ans → Except Exn α}
    {Q : α → σ → Table → Prop} (r : op.Ans) (hrely : ∀ r', a.contract.rely t ⟨op, r'⟩ ↔ r' = r) :
    Act.wp a.contract (Act.performE (I := Backend) op read) Q E s t ↔
      Settled (read r, PatchAnswers.next t ⟨op, r⟩) Q E s := by
  have hsettled : Act.wp a.contract (Act.ofExcept (read r) : BackendM σ α) Q E s
      (PatchAnswers.next t ⟨op, r⟩) ↔ Settled (read r, PatchAnswers.next t ⟨op, r⟩) Q E s := by
    cases read r <;> exact Iff.rfl
  refine Iff.trans ⟨fun h => h.2 r ((hrely r).2 rfl), fun h => ⟨trivial, fun r' hr' => ?_⟩⟩ hsettled
  cases (hrely r').1 hr'
  exact h

theorem wp_refresh_patched {Q : ContainersModel → σ → Table → Prop} :
    Act.wp a.contract (Act.performE (I := Backend) (.refresh hostId name) Reply.read) Q E s
        (patched t hostId name data) ↔
      Settled (if a.refresh then .ok (t.written hostId name data) else .error .call,
        patched t hostId name data) Q E s := by
  let reply : Reply ContainersModel :=
    if a.refresh then .ok (t.written hostId name data) else .raised none
  refine (PatchAnswers.wp_performE (.refresh hostId name) reply fun r' => ?_).trans ?_
  · simp only [PatchAnswers.contract, patched, Table.set_self, reply]
    exact Iff.rfl
  · simp only [reply]
    cases a.refresh <;> exact Iff.rfl

theorem wp_write_patch (op : BackendOp) {read : op.Ans → Except Exn Unit}
    {Q : ContainersModel → σ → Table → Prop} {r : op.Ans} {reply : Reply Unit}
    (hrely : ∀ r', a.contract.rely t ⟨op, r'⟩ ↔ r' = r) (hread : read r = reply.read)
    (hnext : PatchAnswers.next t ⟨op, r⟩ =
      if reply.effect.isSome then patched t hostId name data else t) :
    Act.wp a.contract (Act.performE (I := Backend) op read >>= fun _ =>
        Act.performE (I := Backend) (.refresh hostId name) Reply.read) Q E s t ↔
      Settled (a.writeOutcome t hostId name data reply) Q E s := by
  refine (Act.wp_bind _ _).trans ((PatchAnswers.wp_performE op r hrely).trans ?_)
  rw [hread, hnext]
  cases reply with
  | ok u => exact wp_refresh_patched
  | raised lost => cases lost <;> exact Iff.rfl

theorem wp_insertOrUpdate_patch {Q : ContainersModel → σ → Table → Prop} :
    Act.wp a.contract (insertOrUpdateContainer none hostId name data) Q E s t ↔
      Settled (if a.select then a.writeOutcome t hostId name data (a.written t hostId name data)
        else (.error .call, t)) Q E s := by
  unfold insertOrUpdateContainer
  refine (Act.wp_bind _ _).trans ((PatchAnswers.wp_performE (.selectContainer hostId name)
    (if a.select then Reply.ok (t hostId name) else .raised none) fun r' => Iff.rfl).trans ?_)
  cases a.select with
  | false => exact Iff.rfl
  | true =>
      cases hrow : t hostId name with
      | none =>
          have hwritten : t.set hostId name (data.newRow hostId name) =
              patched t hostId name data := by
            simp [patched, Table.written, ContainerData.newRow, hrow]
          have hreply : a.written t hostId name data = a.write := by
            simp [PatchAnswers.written, hrow]
          rw [if_pos rfl, hreply]
          refine wp_write_patch (.insert hostId name data) (fun r' => Iff.rfl) rfl ?_
          exact congrArg (fun t' => if (Reply.effect a.write).isSome then t' else t) hwritten
      | some row =>
          have hreply : a.written t hostId name data =
              if [(name, data.changes row)].all fun change => change.2.isValid then a.write
              else .raised none := by
            simp [PatchAnswers.written, hrow]
          rw [if_pos rfl]
          refine wp_write_patch (.commit hostId [(name, data.changes row)])
            (fun r' => by rw [hreply]; exact Iff.rfl) rfl ?_
          exact congrArg (fun t' => if (a.written t hostId name data).effect.isSome then t' else t)
            (Table.commit_changes hrow data)

theorem wp_host_patch {row : ContainersModel} {Q : Unit → σ → Table → Prop} :
    Act.wp a.contract (getEnabledHost hostId >>= fun host =>
        request host.id (.containerInspect row.name) >>= fun _ => pure ()) Q E s t ↔
      Settled (a.hostOutcome, t) Q E s := by
  refine (Act.wp_bind _ _).trans ((Act.wp_bind _ _).trans
    ((PatchAnswers.wp_performE (.selectHost hostId) a.host fun r' => Iff.rfl).trans ?_))
  unfold PatchAnswers.hostOutcome
  cases a.host with
  | raised lost => exact Iff.rfl
  | ok host =>
      change Act.wp a.contract (if host.enabled then pure host else throw _) _ _ _ _ ↔
        Settled (if host.enabled then a.inspect.read.map fun _ => ()
          else .error (.exception "Host disabled"), t) Q E s
      refine (Act.wp_ite _ _ _).trans ?_
      cases host.enabled with
      | false => exact Iff.rfl
      | true =>
          refine (Act.wp_bind _ _).trans ((PatchAnswers.wp_performE
            (.agent host.id none (.containerInspect row.name)) a.inspect
            fun r' => Iff.rfl).trans ?_)
          cases a.inspect <;> exact Iff.rfl

theorem wp_patchContainerData_iff {env : BackendEnv} {body : PatchBody}
    {E : Exn → Unit → Table → Prop} {Q : Unit → Unit → Table → Prop} :
    Act.wp a.contract (patchContainerData env hostId name body) Q E () t ↔
      Settled (a.outcome t hostId name env body) Q E () := by
  unfold patchContainerData PatchAnswers.outcome
  split
  · exact Iff.rfl
  · split
    · exact Iff.rfl
    · refine (Act.wp_bind _ _).trans (wp_insertOrUpdate_patch.trans ?_)
      cases a.select with
      | false => exact Iff.rfl
      | true =>
          rw [if_pos rfl, if_pos rfl]
          unfold PatchAnswers.writeOutcome
          split
          · cases a.refresh with
            | false => exact Iff.rfl
            | true => exact wp_host_patch
          · exact Iff.rfl
          · exact Iff.rfl

/-! ## When a failed request leaves the table alone -/

/-- A request that is answered with an error leaves the table as it was. -/
def PatchLeavesTable (env : BackendEnv) (a : PatchAnswers) (t : Table) (hostId : Int)
    (name : String) (body : PatchBody) : Prop :=
  ∀ tr e s, Runs (patchContainerData env hostId name body ()) tr (.error e, s) →
    a.contract.Accepts t tr → a.contract.after t tr = t

theorem patchLeavesTable_iff_outcome {env : BackendEnv} {body : PatchBody} :
    PatchLeavesTable env a t hostId name body ↔
      Settled (a.outcome t hostId name env body) (fun _ (_ : Unit) _ => True)
        (fun _ _ t' => t' = t) () := by
  refine Iff.trans ?_ wp_patchContainerData_iff
  refine Iff.trans ?_ (Prog.wp_iff_runs fun _ _ => trivial).symm
  constructor
  · rintro h tr ⟨e | u, s⟩ hrun hacc
    · exact h tr e s hrun hacc
    · trivial
  · exact fun h tr e s hrun hacc => h tr (.error e, s) hrun hacc

/-- The request writes the row, which changes the table, and then fails: the answer of the
commit is lost, the row is not read back, the host is missing or disabled, or its agent does
not answer. -/
structure FailsAfterWrite (env : BackendEnv) (a : PatchAnswers) (t : Table) (hostId : Int)
    (name : String) (body : PatchBody) : Prop where
  valid : body.isValid = true
  hooks : (body.hooks.getD none).isSome = true → env.allowHooks = true
  select : a.select = true
  write : (a.written t hostId name body.data).effect.isSome = true
  change : patched t hostId name body.data ≠ t
  fails : a.written t hostId name body.data = .ok () → a.refresh = true →
    ∀ host inspect, a.host = .ok host → host.enabled = true → a.inspect ≠ .ok inspect

theorem hostOutcome_eq_ok_iff :
    a.hostOutcome = .ok () ↔
      ∃ host inspect, a.host = .ok host ∧ host.enabled = true ∧ a.inspect = .ok inspect := by
  unfold PatchAnswers.hostOutcome
  cases a.host with
  | raised lost => simp
  | ok host =>
      cases henabled : host.enabled <;> cases a.inspect <;> simp [henabled, Reply.read, Except.map]

theorem settled_write_iff (reply : Reply Unit) :
    Settled (match a.writeOutcome t hostId name data reply with
        | (.ok _, t') => (a.hostOutcome, t')
        | (.error e, t') => (.error e, t'))
        (fun _ (_ : Unit) _ => True) (fun _ _ t' => t' = t) () ↔
      (reply.effect.isSome = true → patched t hostId name data ≠ t →
        reply = .ok () ∧ a.refresh = true ∧ a.hostOutcome = .ok ()) := by
  cases reply with
  | raised lost => cases lost <;> simp [PatchAnswers.writeOutcome, Settled, Reply.effect]
  | ok u =>
      cases hrefresh : a.refresh with
      | false => simp [PatchAnswers.writeOutcome, Settled, Reply.effect, hrefresh]
      | true =>
          cases a.hostOutcome <;>
            simp [PatchAnswers.writeOutcome, Settled, Reply.effect, hrefresh]

/-- A request that fails leaves the table alone, unless it fails after the write of a row
that it changes. -/
theorem patchLeavesTable_iff (env : BackendEnv) (a : PatchAnswers) (t : Table) (hostId : Int)
    (name : String) (body : PatchBody) :
    PatchLeavesTable env a t hostId name body ↔ ¬ FailsAfterWrite env a t hostId name body := by
  rw [patchLeavesTable_iff_outcome]
  unfold PatchAnswers.outcome
  cases hvalid : body.isValid with
  | false => exact iff_of_true rfl fun h => Bool.noConfusion (hvalid.symm.trans h.valid)
  | true =>
      rw [if_neg (by simp)]
      split
      · rename_i hhooks
        obtain ⟨hsome, hnot⟩ := Bool.and_eq_true_iff.1 hhooks
        refine iff_of_true rfl fun h => ?_
        rw [h.hooks hsome] at hnot
        cases hnot
      · rename_i hhooks
        cases hselect : a.select with
        | false => exact iff_of_true rfl fun h => Bool.noConfusion (hselect.symm.trans h.select)
        | true =>
            rw [if_pos rfl, settled_write_iff, hostOutcome_eq_ok_iff]
            constructor
            · intro hkeeps h
              obtain ⟨hok, hrefresh, host, inspect, hhost, henabled, hinspect⟩ :=
                hkeeps h.write h.change
              exact h.fails hok hrefresh host inspect hhost henabled hinspect
            · intro h hwrite hchange
              by_contra hnot
              refine h ⟨hvalid, fun hsome => ?_, hselect, hwrite, hchange, ?_⟩
              · simpa [hsome] using hhooks
              · intro hok hrefresh host inspect hhost henabled hinspect
                exact hnot ⟨hok, hrefresh, host, inspect, hhost, henabled, hinspect⟩

end

/-! ## A host that is missing -/

/-- The host is missing; the database does not fail. -/
def missingHost : PatchAnswers := { host := .raised none, inspect := .raised none }

def noHooksEnv : BackendEnv := { allowHooks := false, ord := .ascending _, planFuel := 0 }

/-- A row is created for a container of a host that does not exist. -/
theorem row_of_missing_host :
    ¬ PatchLeavesTable noHooksEnv missingHost (fun _ _ => none) 7 "web"
      { updateEnabled := some (some true) } := by
  intro h
  have houtcome : missingHost.outcome (fun _ _ => none) 7 "web" noHooksEnv
      { updateEnabled := some (some true) } =
      (.error .call, patched (fun _ _ => none) 7 "web"
        { updateEnabled := some (some true) }) := rfl
  have hsettled := patchLeavesTable_iff_outcome.1 h
  rw [houtcome] at hsettled
  have hrow := congrFun (congrFun hsettled 7) "web"
  rw [patched, Table.set_self] at hrow
  cases hrow

end Tugtainer
