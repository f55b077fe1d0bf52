import Tugtainer.Hosts.Requests
import Tugtainer.Interaction.Schedule
import Tugtainer.Interaction.Triple

/-!
# The registry of clients

Requests and runs share the hosts table and the registry of clients, and give way to each
other at their awaited operations. A request that has committed a change owes the registry
the removal of the old client; this is what an observer of the task follows (`owesContract`).
`consistent_of_reaches`: once all tasks are done every client is the one of its row, as long
as clients are built from committed rows, rows are deleted without a client, and a change
that was committed is read back.
-/

namespace Tugtainer

open Interaction

/-! ## The world -/

/-- The committed rows and the registry. -/
structure HostsWorld where
  hosts : Int → Option HostRow
  registry : Int → Option AgentClient
  keyed : ∀ id row, hosts id = some row → row.id = id

namespace HostsWorld

variable (w : HostsWorld)

/-- The client is built from the committed row of an enabled host. -/
def Fresh (id : Int) (client : AgentClient) : Prop :=
  ∃ row, w.hosts id = some row ∧ row.enabled = true ∧ client = createClient row

/-- Every client belongs to an enabled host and is built from its row. -/
def Consistent : Prop :=
  ∀ id client, w.registry id = some client → w.Fresh id client

def setRow (id : Int) (row : HostRow) (h : row.id = id) : HostsWorld where
  hosts := Function.update w.hosts id (some row)
  registry := w.registry
  keyed id' row' hrow := by
    by_cases hid : id' = id
    · subst hid
      rw [Function.update_self] at hrow
      cases hrow
      exact h
    · rw [Function.update_of_ne hid] at hrow
      exact w.keyed id' row' hrow

def deleteRow (id : Int) : HostsWorld where
  hosts := Function.update w.hosts id none
  registry := w.registry
  keyed id' row' hrow := by
    by_cases hid : id' = id
    · subst hid
      rw [Function.update_self] at hrow
      cases hrow
    · rw [Function.update_of_ne hid] at hrow
      exact w.keyed id' row' hrow

def updateRow (id : Int) (changes : HostChanges) : HostsWorld :=
  match h : w.hosts id with
  | some row => w.setRow id (changes.apply row) ((changes.id_apply row).trans (w.keyed id row h))
  | none => w

def setClient (id : Int) (client : Option AgentClient) : HostsWorld :=
  { w with registry := Function.update w.registry id client }

def next : Event Hosts → HostsWorld
  | ⟨.insert body, .ok id⟩ => w.setRow id { body with id := id } rfl
  | ⟨.update id changes, .ok _⟩ => w.updateRow id changes
  | ⟨.delete id, .ok _⟩ => w.deleteRow id
  | ⟨.pop id, _⟩ => w.setClient id none
  | ⟨.assign id client, _⟩ => w.setClient id (some client)
  | _ => w

/-- What an operation is answered; what is awaited may raise. A new row gets an identifier
that is not in use, and its name is not taken. -/
def Answers : Event Hosts → Prop
  | ⟨.selectHost id, .ok row⟩ => row = w.hosts id
  | ⟨.selectName name, .ok row⟩ =>
      match row with
      | some row => w.hosts row.id = some row ∧ row.name = name
      | none => ∀ id row, w.hosts id = some row → row.name ≠ name
  | ⟨.selectEnabled, .ok rows⟩ =>
      ∀ row, row ∈ rows ↔ w.hosts row.id = some row ∧ row.enabled = true
  | ⟨.insert body, .ok id⟩ =>
      w.hosts id = none ∧ ∀ id row, w.hosts id = some row → row.name ≠ body.name
  | ⟨.update id changes, .ok _⟩ => changes = {} ∨ (w.hosts id).isSome = true
  | ⟨.refresh id, .ok row⟩ => w.hosts id = some row
  | ⟨.pop id, client⟩ => client = w.registry id
  | ⟨.get id, client⟩ => client = w.registry id
  | _ => True

def contract : Contract Hosts HostsWorld where
  next := next
  rely := Answers
  guar _ _ := True

end HostsWorld

/-! ## What a request owes -/

/-- The host whose old client a task has still to remove. -/
abbrev Owes := Option Int

/-- A commit of changes owes the removal of the client; where the row cannot be read back,
the request ends without it. -/
def Owes.next (v : Owes) : Event Hosts → Owes
  | ⟨.update id _, .ok _⟩ => some id
  | ⟨.refresh id, .error _⟩ => if v = some id then none else v
  | ⟨.pop id, _⟩ => if v = some id then none else v
  | _ => v

def owesContract : Contract Hosts Owes where
  next := Owes.next
  rely _ e :=
    match e with
    | ⟨.selectHost id, .ok (some row)⟩ => row.id = id
    | ⟨.refresh id, .ok row⟩ => row.id = id
    | _ => True
  guar v op := ∀ id changes, op = .update id changes → v = none

inductive HostsStart where
  | create (body : HostCreate)
  | update (id : Int) (body : HostUpdate)
  | delete (id : Int)
  | allHosts
  | oneHost (id : Int)

abbrev HostsTask := Prog Hosts (Except HostsExn Unit × Unit)

def HostsStart.program : HostsStart → HostsTask
  | .create body => (createHost body >>= fun _ => pure ()) ()
  | .update id body => (updateHostRow id body >>= fun _ => pure ()) ()
  | .delete id => deleteHost id ()
  | .allHosts => actOnHosts ()
  | .oneHost id => actOnHost id ()

/-- The event loop with its requests and runs. -/
def hostsSystem : System Hosts (Except HostsExn Unit × Unit) Owes HostsWorld where
  awaited := HostsOp.isAwaited
  world := HostsWorld.contract
  view := owesContract
  starts p v := ∃ start : HostsStart, p = start.program ∧ v = none
  env _ _ := False

abbrev HostsPool := Pool Hosts (Except HostsExn Unit × Unit) Owes HostsWorld

theorem HostsWorld.Answers.owes {w : HostsWorld} {v : Owes} {e : Event Hosts} (h : w.Answers e) :
    owesContract.rely v e := by
  obtain ⟨op, r⟩ := e
  cases op with
  | selectHost id =>
      cases r with
      | error e => trivial
      | ok row =>
          cases row with
          | none => trivial
          | some row => exact w.keyed id row (Eq.symm h)
  | refresh id =>
      cases r with
      | error e => trivial
      | ok row => exact w.keyed id row h
  | _ => trivial

/-! ## Every task pays what it owes -/

def HostsOp.KeepsRows (op : HostsOp) : Prop :=
  ∀ id changes, op ≠ .update id changes

section

variable {α : Type}

theorem issues_hostsPerformE {op : HostsOp} (h : op.KeepsRows) {read : op.Ans → Except HostsExn α} :
    Act.Issues HostsOp.KeepsRows (Act.performE (I := Hosts) op read : HostsM α) :=
  Act.issues_performE (I := Hosts) h

theorem issues_hostsIo : Act.Issues HostsOp.KeepsRows hostsIo :=
  issues_hostsPerformE fun _ _ => HostsOp.noConfusion

theorem issues_removeClient (id : Int) : Act.Issues HostsOp.KeepsRows (removeClient id) := by
  refine Act.issues_bind (Act.issues_perform (I := Hosts) fun _ _ => HostsOp.noConfusion)
    fun client => ?_
  cases client with
  | some _ => exact issues_hostsIo
  | none => exact Act.issues_pure ()

theorem issues_setClient (host : HostRow) : Act.Issues HostsOp.KeepsRows (setClient host) :=
  Act.issues_bind (issues_removeClient _) fun _ =>
    Act.issues_perform (I := Hosts) fun _ _ => HostsOp.noConfusion

theorem issues_getHostClient (host : HostRow) :
    Act.Issues HostsOp.KeepsRows (getHostClient host) := by
  refine Act.issues_bind (Act.issues_perform (I := Hosts) fun _ _ => HostsOp.noConfusion)
    fun client => ?_
  cases client with
  | some client => exact Act.issues_pure client
  | none =>
      exact Act.issues_bind (Act.issues_perform (I := Hosts) fun _ _ => HostsOp.noConfusion)
        fun _ => Act.issues_pure _

theorem issues_getHost (id : Int) : Act.Issues HostsOp.KeepsRows (getHost id) := by
  refine Act.issues_bind (issues_hostsPerformE fun _ _ => HostsOp.noConfusion) fun host => ?_
  cases host with
  | some host => exact Act.issues_pure host
  | none => exact Act.issues_throw _

theorem issues_createHost (body : HostCreate) :
    Act.Issues HostsOp.KeepsRows (createHost body) := by
  refine Act.issues_bind issues_hostsIo fun _ =>
    Act.issues_bind (issues_hostsPerformE fun _ _ => HostsOp.noConfusion) fun taken => ?_
  cases taken with
  | some _ => exact Act.issues_throw _
  | none =>
      exact Act.issues_bind (issues_hostsPerformE fun _ _ => HostsOp.noConfusion) fun id =>
        Act.issues_bind (issues_hostsPerformE fun _ _ => HostsOp.noConfusion) fun host =>
          Act.issues_bind (Act.issues_whenA (issues_setClient host)) fun _ =>
            Act.issues_bind issues_hostsIo fun _ => Act.issues_pure _

theorem issues_deleteHost (id : Int) : Act.Issues HostsOp.KeepsRows (deleteHost id) :=
  Act.issues_bind (issues_getHost id) fun host => Act.issues_bind (issues_removeClient host.id)
    fun _ => Act.issues_bind issues_hostsIo fun _ =>
      issues_hostsPerformE fun _ _ => HostsOp.noConfusion

theorem issues_actOnHosts : Act.Issues HostsOp.KeepsRows actOnHosts :=
  Act.issues_tryCatch (Act.issues_bind (issues_hostsPerformE fun _ _ => HostsOp.noConfusion)
    fun _ => Act.issues_bind issues_hostsIo fun _ => Act.issues_bind
      (Act.issues_forM fun host => Act.issues_tryCatch
        (Act.issues_bind (issues_getHostClient host) fun _ => issues_hostsIo)
        fun _ => Act.issues_pure _)
      fun _ => issues_hostsIo) fun _ => Act.issues_pure _

theorem issues_actOnHost (id : Int) : Act.Issues HostsOp.KeepsRows (actOnHost id) :=
  Act.issues_bind (issues_getHost id) fun host => Act.issues_ite
    (Act.issues_bind (issues_getHostClient host) fun _ => issues_hostsIo) (Act.issues_throw _)

theorem triple_of_keepsRows {x : HostsM α} (hx : Act.Issues HostsOp.KeepsRows x) :
    Act.Triple owesContract (· = none) x (· = none) (· = none) := by
  refine .of_issues hx (fun v op _ hop id changes heq => absurd heq (hop id changes)) ?_
  rintro _ ⟨op, r⟩ rfl hop -
  cases op with
  | update id changes => exact absurd rfl (hop id changes)
  | refresh id => cases r <;> rfl
  | _ => rfl

theorem triple_updateHostRow (hostId : Int) (body : HostUpdate) :
    Act.Triple owesContract (· = none) (updateHostRow hostId body) (· = none) (· = none) := by
  refine .bind (triple_of_keepsRows issues_hostsIo) fun _ =>
    .bind (triple_of_keepsRows (issues_getHost hostId)) fun host => ?_
  refine .bind (Q := (· = some host.id)) ?_ fun _ => ?_
  · exact .performE (fun v hv _ _ _ => hv)
      (fun v r _ hv _ hr => by cases r <;> [cases hr; rfl])
      fun v r _ hv _ hr => by cases r <;> [exact hv; cases hr]
  refine .bind_of_wp (Q := fun row v => v = some row.id) ?_ fun row => ?_
  · rintro s _ rfl
    refine ⟨fun _ _ h => HostsOp.noConfusion h, fun r hr => ?_⟩
    cases r with
    | error e => exact if_pos rfl
    | ok row => exact congrArg some (Eq.symm hr)
  refine .bind (Q := (· = none)) ?_ fun _ => triple_of_keepsRows
    (Act.issues_bind (Act.issues_whenA (issues_setClient row)) fun _ =>
      Act.issues_bind issues_hostsIo fun _ => Act.issues_pure _)
  refine .bind (Q := (· = none)) ?_ fun client => ?_
  · rintro s _ rfl
    exact ⟨fun _ _ h => HostsOp.noConfusion h, fun r hr => if_pos rfl⟩
  · cases client with
    | some _ => exact triple_of_keepsRows issues_hostsIo
    | none => exact .pure () fun _ h => h

end

theorem wp_of_hostsStart {p : HostsTask} {v : Owes} (h : hostsSystem.starts p v) :
    p.wp owesContract (fun _ v => v = none) v := by
  obtain ⟨start, rfl, rfl⟩ := h
  have hwp {x : HostsM Unit} (hx : Act.Triple owesContract (· = none) x (· = none) (· = none)) :
      (x ()).wp owesContract (fun _ v => v = none) none := by
    refine Prog.wp_mono (hx () none rfl) ?_
    rintro ⟨_ | _, _⟩ v h <;> exact h
  cases start with
  | create body =>
      exact hwp (.bind (triple_of_keepsRows (issues_createHost body)) fun _ =>
        .pure () fun _ h => h)
  | update id body =>
      exact hwp (.bind (triple_updateHostRow id body) fun _ => .pure () fun _ h => h)
  | delete id => exact hwp (triple_of_keepsRows (issues_deleteHost id))
  | allHosts => exact hwp (triple_of_keepsRows issues_actOnHosts)
  | oneHost id => exact hwp (triple_of_keepsRows (issues_actOnHost id))

/-! ## What the steps keep -/

/-- A task has still to remove the client of the host. -/
def Owed (s : HostsPool) (id : Int) : Prop :=
  ∃ (i : ℕ) (p : HostsTask), s.tasks[i]? = some (p, some id)

/-- A step at which a client is built from the committed row of an enabled host, a row is
deleted while the host has no client, and a committed change is read back unless the row is
gone. -/
def OnCommittedRows (s : HostsPool) (a : Move Hosts) : Prop :=
  ∀ i e, a = .event i e →
    match e with
    | ⟨.assign id client, _⟩ => s.world.Fresh id client
    | ⟨.delete id, .ok _⟩ => s.world.registry id = none
    | ⟨.refresh id, .error _⟩ => ∀ p, s.tasks[i]? = some (p, some id) → s.world.hosts id = none
    | _ => True

/-- Clients belong to rows, and they are up to date or about to be removed. -/
structure Accounted (s : HostsPool) : Prop where
  row : ∀ id, s.world.hosts id = none → s.world.registry id = none
  fresh_or_owed : ∀ id client, s.world.registry id = some client →
    s.world.Fresh id client ∨ Owed s id

namespace HostsWorld

variable {w w' : HostsWorld} {id : Int} {client : AgentClient} {e : Event Hosts}

theorem Fresh.congr (h : w.Fresh id client) (hhosts : w'.hosts id = w.hosts id) :
    w'.Fresh id client := by
  obtain ⟨row, hrow, henabled⟩ := h
  exact ⟨row, hhosts.trans hrow, henabled⟩

theorem hosts_setRow (id : Int) (row : HostRow) (h : row.id = id) (id' : Int) :
    (w.setRow id row h).hosts id' = if id' = id then some row else w.hosts id' :=
  Function.update_apply _ _ _ _

theorem hosts_deleteRow (id id' : Int) :
    (w.deleteRow id).hosts id' = if id' = id then none else w.hosts id' :=
  Function.update_apply _ _ _ _

theorem registry_setClient (id : Int) (client : Option AgentClient) (id' : Int) :
    (w.setClient id client).registry id' = if id' = id then client else w.registry id' :=
  Function.update_apply _ _ _ _

theorem registry_updateRow (id : Int) (changes : HostChanges) :
    (w.updateRow id changes).registry = w.registry := by
  unfold updateRow
  split <;> rfl

theorem hosts_updateRow_of_ne {id id' : Int} (h : id' ≠ id) (changes : HostChanges) :
    (w.updateRow id changes).hosts id' = w.hosts id' := by
  unfold updateRow
  split
  · rw [hosts_setRow, if_neg h]
  · rfl

theorem hosts_updateRow_eq_none {id : Int} {changes : HostChanges} :
    (w.updateRow id changes).hosts id = none ↔ w.hosts id = none := by
  unfold updateRow
  split
  · rename_i row hrow
    simp [hosts_setRow, hrow]
  · rfl

/-- What an event makes of one host: nothing, or what the operation on that host does. -/
inductive NextAt (w : HostsWorld) (id : Int) (e : Event Hosts) : Prop where
  | same (hosts : (w.next e).hosts id = w.hosts id)
      (registry : (w.next e).registry id = w.registry id)
  | insert (body : HostCreate) (he : e = ⟨.insert body, .ok id⟩)
      (hosts : (w.next e).hosts id ≠ none)
  | update (changes : HostChanges) (u : Unit) (he : e = ⟨.update id changes, .ok u⟩)
      (hosts : (w.next e).hosts id = none ↔ w.hosts id = none)
      (registry : (w.next e).registry id = w.registry id)
  | delete (u : Unit) (he : e = ⟨.delete id, .ok u⟩)
      (registry : (w.next e).registry id = w.registry id)
  | pop (registry : (w.next e).registry id = none)
  | assign (client : AgentClient) (u : Unit) (he : e = ⟨.assign id client, u⟩)
      (hosts : (w.next e).hosts id = w.hosts id)
      (registry : (w.next e).registry id = some client)

theorem nextAt (w : HostsWorld) (id : Int) (e : Event Hosts) : w.NextAt id e := by
  obtain ⟨op, r⟩ := e
  cases op with
  | insert body =>
      cases r with
      | error e => exact .same rfl rfl
      | ok id' =>
          have hhosts := w.hosts_setRow id' { body with id := id' } rfl id
          by_cases hid : id = id'
          · subst hid
            refine .insert body rfl fun hnone => ?_
            cases ((if_pos rfl).symm.trans hhosts.symm).trans hnone
          · exact .same (hhosts.trans (if_neg hid)) rfl
  | update id' changes =>
      have hregistry := congrFun (w.registry_updateRow id' changes) id
      cases r with
      | error e => exact .same rfl rfl
      | ok u =>
          by_cases hid : id = id'
          · subst hid
            exact .update changes u rfl hosts_updateRow_eq_none hregistry
          · exact .same (hosts_updateRow_of_ne hid changes) hregistry
  | delete id' =>
      cases r with
      | error e => exact .same rfl rfl
      | ok u =>
          by_cases hid : id = id'
          · subst hid
            exact .delete u rfl rfl
          · exact .same ((w.hosts_deleteRow id' id).trans (if_neg hid)) rfl
  | pop id' =>
      have hregistry := w.registry_setClient id' none id
      by_cases hid : id = id'
      · exact .pop (hregistry.trans (if_pos hid))
      · exact .same rfl (hregistry.trans (if_neg hid))
  | assign id' client' =>
      have hregistry := w.registry_setClient id' (some client') id
      by_cases hid : id = id'
      · subst hid
        exact .assign client' r rfl rfl (hregistry.trans (if_pos rfl))
      · exact .same rfl (hregistry.trans (if_neg hid))
  | _ => exact .same rfl rfl

/-- The row of a client is the one that it had before the step, unless the step has put the
client there or has changed the row. -/
theorem registry_next (hrow : ∀ id, w.hosts id = none → w.registry id = none)
    (hans : w.Answers e) (h : (w.next e).registry id = some client) :
    (w.registry id = some client ∧ (w.next e).hosts id = w.hosts id) ∨
      (∃ u, e = ⟨.assign id client, u⟩) ∨ (∃ changes u, e = ⟨.update id changes, .ok u⟩) ∨
        ∃ u, e = ⟨.delete id, .ok u⟩ := by
  cases w.nextAt id e with
  | same hosts registry => exact .inl ⟨registry.symm.trans h, hosts⟩
  | insert body he hosts =>
      subst he
      cases (hrow id hans.1).symm.trans h
  | update changes u he hosts registry => exact .inr (.inr (.inl ⟨changes, u, he⟩))
  | delete u he registry => exact .inr (.inr (.inr ⟨u, he⟩))
  | pop registry => cases registry.symm.trans h
  | assign client' u he hosts registry =>
      cases registry.symm.trans h
      exact .inr (.inl ⟨u, he⟩)

theorem row_next (hrow : ∀ id, w.hosts id = none → w.registry id = none)
    (hassign : ∀ id client u, e = ⟨.assign id client, u⟩ → w.Fresh id client)
    (hdelete : ∀ id u, e = ⟨.delete id, .ok u⟩ → w.registry id = none) (id : Int)
    (h : (w.next e).hosts id = none) : (w.next e).registry id = none := by
  cases w.nextAt id e with
  | same hosts registry => exact registry.trans (hrow id (hosts.symm.trans h))
  | insert body he hosts => exact absurd h hosts
  | update changes u he hosts registry => exact registry.trans (hrow id (hosts.1 h))
  | delete u he registry => exact registry.trans (hdelete id u he)
  | pop registry => exact registry
  | assign client' u he hosts registry =>
      obtain ⟨row, hfresh, -⟩ := hassign id client' u he
      cases (hosts.symm.trans h).symm.trans hfresh

end HostsWorld

/-- A task gives up a debt by removing the client, or where it cannot read the row back. -/
theorem Owes.next_of_some {id : Int} {e : Event Hosts}
    (hguar : owesContract.guar (some id) e.op) (h : Owes.next (some id) e ≠ some id) :
    (∃ r, e = ⟨.pop id, r⟩) ∨ ∃ x, e = ⟨.refresh id, .error x⟩ := by
  obtain ⟨op, r⟩ := e
  cases op with
  | update id' changes => cases hguar id' changes rfl
  | pop id' =>
      by_cases hid : some id = some id'
      · cases hid
        exact .inl ⟨r, rfl⟩
      · exact absurd (if_neg hid) h
  | refresh id' =>
      cases r with
      | ok row => exact absurd rfl h
      | error x =>
          by_cases hid : some id = some id'
          · cases hid
            exact .inr ⟨x, rfl⟩
          · exact absurd (if_neg hid) h
  | _ => exact absurd rfl h

theorem Owed.event {s : HostsPool} {i : ℕ} {op : HostsOp} {r : op.Ans} {v : Owes} {p q : HostsTask}
    {id : Int} {active : Option ℕ} {w : HostsWorld} (h : Owed s id)
    (hget : s.tasks[i]? = some (p, v)) (hguar : owesContract.guar v op) :
    Owed { tasks := s.tasks.set i (q, Owes.next v ⟨op, r⟩), active := active, world := w } id ∨
      v = some id ∧ ((∃ r', (⟨op, r⟩ : Event Hosts) = ⟨.pop id, r'⟩) ∨
        ∃ x, (⟨op, r⟩ : Event Hosts) = ⟨.refresh id, .error x⟩) := by
  obtain ⟨j, p', hj⟩ := h
  by_cases hij : j = i
  · subst hij
    cases hget.symm.trans hj
    by_cases hnext : Owes.next (some id) ⟨op, r⟩ = some id
    · have hset := List.getElem?_set_self (a := (q, Owes.next (some id) ⟨op, r⟩))
        (List.getElem?_eq_some_iff.1 hget).1
      exact .inl ⟨j, q, hset.trans (by rw [hnext])⟩
    · exact .inr ⟨rfl, Owes.next_of_some (e := ⟨op, r⟩) hguar hnext⟩
  · exact .inl ⟨j, p', (List.getElem?_set_ne (Ne.symm hij)).trans hj⟩

theorem Accounted.step {s s' : HostsPool} {a : Move Hosts} (h : Accounted s)
    (hwp : hostsSystem.TasksWp (fun _ v => v = none) s) (hstep : hostsSystem.Step s a s')
    (hcond : OnCommittedRows s a) : Accounted s' := by
  cases hstep with
  | env henv => exact henv.elim
  | start hp =>
      refine ⟨h.row, fun id client hclient => (h.fresh_or_owed id client hclient).imp_right ?_⟩
      rintro ⟨i, p, hget⟩
      exact ⟨i, p, (List.getElem?_append_left (List.getElem?_eq_some_iff.1 hget).1).trans hget⟩
  | @event i op k r v hget _ hrely =>
      have hcond := hcond i ⟨op, r⟩ rfl
      have hguar : owesContract.guar v op := (hwp i _ v hget).1
      refine ⟨HostsWorld.row_next h.row ?_ ?_, fun id client hclient => ?_⟩
      · rintro id client u heq
        cases heq
        exact hcond
      · rintro id u heq
        cases heq
        exact hcond
      rcases HostsWorld.registry_next h.row hrely hclient with ⟨hold, hhosts⟩ | ⟨u, heq⟩ |
        ⟨changes, u, heq⟩ | ⟨u, heq⟩
      · rcases h.fresh_or_owed id client hold with hfresh | howed
        · exact .inl (hfresh.congr hhosts)
        · rcases howed.event hget hguar with howed | ⟨rfl, ⟨client', heq⟩ | ⟨x, heq⟩⟩
          · exact .inr howed
          · cases heq
            have hpop := (HostsWorld.registry_setClient id none id).symm.trans hclient
            simp at hpop
          · cases heq
            rw [h.row id (hcond _ hget)] at hold
            cases hold
      · cases heq
        obtain ⟨row, hrow, hfresh⟩ := hcond
        exact .inl ⟨row, hrow, hfresh⟩
      · cases heq
        exact .inr ⟨i, k (.ok u),
          List.getElem?_set_self (List.getElem?_eq_some_iff.1 hget).1⟩
      · cases heq
        have hgone : s.world.registry id = none := hcond
        cases hgone.symm.trans hclient

/-- Once no task is left the registry is consistent with the table. -/
theorem consistent_of_reaches {s₀ s : HostsPool} (h : hostsSystem.Reaches OnCommittedRows s₀ s)
    (h₀ : s₀.tasks = []) (hconsistent : s₀.world.Consistent)
    (hdone : ∀ task ∈ s.tasks, task.1.next? = none) : s.world.Consistent := by
  have hinv : hostsSystem.TasksWp (fun _ v => v = none) s ∧ Accounted s := by
    refine h.inv (P := fun s => hostsSystem.TasksWp (fun _ v => v = none) s ∧ Accounted s) ?_ ?_
    · refine ⟨fun i p v hget => ?_, fun id hnone => ?_, fun id client hclient => ?_⟩
      · rw [h₀] at hget
        cases hget
      · by_contra hsome
        obtain ⟨client, hclient⟩ := Option.ne_none_iff_exists'.1 hsome
        obtain ⟨row, hrow, -⟩ := hconsistent id client hclient
        cases hrow.symm.trans hnone
      · exact .inl (hconsistent id client hclient)
    · rintro s a s' ⟨hwp, haccounted⟩ hstep hcond
      exact ⟨hwp.step (fun _ _ => wp_of_hostsStart) (fun _ _ _ hrely => hrely.owes) hstep,
        haccounted.step hwp hstep hcond⟩
  intro id client hclient
  refine (hinv.2.fresh_or_owed id client hclient).resolve_right ?_
  rintro ⟨i, p, hget⟩
  have hwp := hinv.1 i p (some id) hget
  cases p with
  | ret a => cases hwp
  | call op k => cases hdone _ (List.mem_of_getElem? hget)

/-! ## One host -/

def nas : HostRow where
  id := 1
  name := "nas"
  enabled := true
  prune := false
  pruneAll := false
  url := "http://nas:8001"
  ssl := true
  timeout := 5
  containerHcTimeout := 60

/-- The table has one row, and the registry has the client that is given. -/
def nasPool (client : Option AgentClient) : HostsPool where
  tasks := []
  active := none
  world :=
    { hosts := fun id => if id = 1 then some nas else none
      registry := fun id => if id = 1 then client else none
      keyed := fun id row h => by
        split at h
        · cases h
          exact Eq.symm ‹id = 1›
        · cases h }

def nasUpdate (url : String) : HostUpdate := { nas with url := url }

/-- The answers of a table and a registry that do not fail. -/
def nasReply (w : HostsWorld) : (op : HostsOp) → Option op.Ans
  | .io => some (.ok ())
  | .selectHost id => some (.ok (w.hosts id))
  | .update id _ => if (w.hosts id).isSome then some (.ok ()) else none
  | .refresh id => (w.hosts id).map .ok
  | .pop id | .get id => some (w.registry id)
  | .assign _ _ => some ()
  | _ => none

theorem rely_nasReply (w : HostsWorld) (op : HostsOp) (r : op.Ans) (h : nasReply w op = some r) :
    HostsWorld.contract.rely w ⟨op, r⟩ := by
  cases op with
  | selectHost id =>
      cases h
      exact rfl
  | update id changes =>
      simp only [nasReply] at h
      split at h
      · cases h
        exact .inr ‹_›
      · cases h
  | refresh id =>
      obtain ⟨row, hrow, rfl⟩ := Option.map_eq_some_iff.1 h
      exact hrow
  | pop id | get id =>
      cases h
      exact rfl
  | _ => trivial

/-! An update of the host while nobody else acts. -/

/-- A client is put into the registry only if it is built from the committed row. -/
def carefulReply (w : HostsWorld) : (op : HostsOp) → Option op.Ans
  | .assign id client =>
      if (w.hosts id).any fun row => row.enabled && createClient row == client then some ()
      else none
  | op => nasReply w op

theorem nasReply_of_carefulReply {w : HostsWorld} {op : HostsOp} {r : op.Ans}
    (h : carefulReply w op = some r) : nasReply w op = some r := by
  cases op with
  | assign id client => rfl
  | _ => exact h

theorem onCommittedRows_of_careful {s : HostsPool} {a : Move Hosts}
    (h : System.AnsweredBy carefulReply s a) : OnCommittedRows s a := by
  rintro i ⟨op, r⟩ rfl
  have hr : carefulReply s.world op = some r := h i ⟨op, r⟩ rfl
  cases op with
  | assign id client =>
      simp only [carefulReply] at hr
      split at hr
      · rename_i hany
        obtain ⟨row, hrow, hfresh⟩ := (Option.any_eq_true _ _).1 hany
        obtain ⟨henabled, hclient⟩ := Bool.and_eq_true_iff.1 hfresh
        exact ⟨row, hrow, henabled, (eq_of_beq hclient).symm⟩
      · cases hr
  | refresh id =>
      obtain ⟨row, -, rfl⟩ := Option.map_eq_some_iff.1 hr
      trivial
  | delete id => cases hr
  | _ => trivial

def soleTurns : List (Turn Hosts (Except HostsExn Unit × Unit) Owes HostsWorld) :=
  .start (HostsStart.update 1 (nasUpdate "http://first:8001")).program none ::
    List.replicate 9 (.step 0)

def solelyUpdated : HostsPool :=
  (hostsSystem.runTurns carefulReply (fun _ => true) (nasPool (some (createClient nas)))
    soleTurns).get (by decide +kernel)

theorem consistent_nasPool : (nasPool (some (createClient nas))).world.Consistent := by
  intro id client h
  by_cases hid : id = 1
  · subst hid
    cases h
    exact ⟨nas, rfl, rfl, rfl⟩
  · simp [nasPool, hid] at h

theorem consistent_solelyUpdated : solelyUpdated.world.Consistent := by
  refine consistent_of_reaches (System.reaches_of_answeredBy
    (fun w op r h => rely_nasReply w op r (nasReply_of_carefulReply h))
    (fun s a _ _ _ => onCommittedRows_of_careful) soleTurns (fun t ht => ?_) .refl
    (Option.some_get (by decide +kernel)).symm) rfl consistent_nasPool ?_
  · rcases List.mem_cons.1 ht with rfl | ht
    · exact ⟨_, rfl, rfl⟩
    · rw [(List.mem_replicate.1 ht).2]
      trivial
  · have hall : (solelyUpdated.tasks.all fun task => task.1.next?.isNone) = true := by
      decide +kernel
    simpa using hall

/-! Two updates of the host. -/

/-- While the first update closes the session of the old client, the second one is carried
out; then the first one puts its own client back. -/
def nasTurns : List (Turn Hosts (Except HostsExn Unit × Unit) Owes HostsWorld) :=
  .start (HostsStart.update 1 (nasUpdate "http://first:8001")).program none ::
    .start (HostsStart.update 1 (nasUpdate "http://second:8001")).program none ::
    (List.replicate 5 (.step 0) ++ List.replicate 8 (.step 1) ++ List.replicate 5 (.step 0))

def updatedNas : HostsPool :=
  (hostsSystem.runTurns nasReply (fun _ => true) (nasPool (some (createClient nas))) nasTurns).get
    (by decide +kernel)

theorem reaches_updatedNas : hostsSystem.Reaches (fun _ _ => True)
    (nasPool (some (createClient nas))) updatedNas := by
  refine System.reaches_of_runTurns rely_nasReply (fun _ _ _ => trivial) (fun t ht => ?_) .refl
    (Option.some_get (by decide +kernel)).symm
  simp only [nasTurns, List.mem_cons, List.mem_append, List.mem_replicate] at ht
  rcases ht with rfl | rfl | (⟨-, rfl⟩ | ⟨-, rfl⟩) | ⟨-, rfl⟩
  · exact ⟨_, rfl, rfl⟩
  · exact ⟨_, rfl, rfl⟩
  · trivial
  · trivial
  · trivial

/-- The client of the first update stays, though the row is that of the second one. -/
theorem first_update_outlives_second :
    ¬ ∀ s₀ s : HostsPool, hostsSystem.Reaches (fun _ _ => True) s₀ s → s₀.tasks = [] →
      s₀.world.Consistent → (∀ task ∈ s.tasks, task.1.next? = none) → s.world.Consistent := by
  intro hclaim
  have hdone : ∀ task ∈ updatedNas.tasks, task.1.next? = none := by
    have hall : (updatedNas.tasks.all fun task => task.1.next?.isNone) = true := by
      decide +kernel
    simpa using hall
  obtain ⟨client, hclient⟩ := Option.isSome_iff_exists.1
    (by decide +kernel : (updatedNas.world.registry 1).isSome = true)
  obtain ⟨row, hrow, -, rfl⟩ :=
    hclaim _ _ reaches_updatedNas rfl consistent_nasPool hdone 1 client hclient
  have hne : (updatedNas.world.hosts 1).map createClient ≠ updatedNas.world.registry 1 := by
    decide +kernel
  exact hne (by rw [hrow, hclient]; rfl)

end Tugtainer
