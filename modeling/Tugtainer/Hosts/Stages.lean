import Tugtainer.Hosts.Connections
import Tugtainer.Interaction.Mutex
import Tugtainer.Interaction.Triple

/-!
# The stages of a task with a client

All tasks that use a client share its session. `Stage` is how far a task is with it, and
`Watch.owes` the client that a task has taken out of the registry and has still to close.
Every task keeps to the order of the stages, and in the end it has no lock and owes nothing
(`wp_of_sessionsStart`).
-/

namespace Tugtainer

namespace AgentSessions

open Interaction

/-! ## The world -/

/-- The registry, the locks and the sessions. -/
structure SessionsWorld where
  registry : Int → Option ℕ
  /-- how many clients there have been -/
  clients : ℕ
  /-- how many sessions the client has opened -/
  opened : ℕ → ℕ
  /-- `_session` of the client -/
  current : ℕ → Option Session
  isOpen : Session → Bool
  locked : ℕ → Bool

namespace SessionsWorld

def initial : SessionsWorld where
  registry _ := none
  clients := 0
  opened _ := 0
  current _ := none
  isOpen _ := false
  locked _ := false

variable (w : SessionsWorld)

def next : Event Sessions → SessionsWorld
  | ⟨.pop id, _⟩ => { w with registry := Function.update w.registry id none }
  | ⟨.create id, client⟩ =>
      { w with registry := Function.update w.registry id (some client), clients := w.clients + 1 }
  | ⟨.acquire client, _⟩ => { w with locked := Function.update w.locked client true }
  | ⟨.release client, _⟩ => { w with locked := Function.update w.locked client false }
  | ⟨.newSession client, session⟩ =>
      { w with
        opened := Function.update w.opened client (w.opened client + 1)
        current := Function.update w.current client (some session)
        isOpen := Function.update w.isOpen session true }
  | ⟨.close session, r⟩ =>
      let closed := match r with
        | .ok _ => true
        | .error closed => closed
      { w with isOpen := Function.update w.isOpen session (!closed && w.isOpen session) }
  | ⟨.clearSession client, _⟩ => { w with current := Function.update w.current client none }
  | _ => w

def Answers : Event Sessions → Prop
  | ⟨.pop id, client⟩ => client = w.registry id
  | ⟨.get id, client⟩ => client = w.registry id
  | ⟨.create _, client⟩ => client = w.clients
  | ⟨.acquire client, _⟩ => w.locked client = false
  | ⟨.readSession client, r⟩ =>
      r = (w.current client).map fun session => (session, w.isOpen session)
  | ⟨.newSession client, session⟩ => session = ⟨client, w.opened client⟩
  | ⟨.send session, r⟩ => r = if w.isOpen session then .ok () else .error .other
  | _ => True

def contract : Contract Sessions SessionsWorld where
  next := next
  rely := Answers
  guar _ _ := True

/-- The client is the one of a host. -/
def Registered (client : ℕ) : Prop :=
  ∃ id, w.registry id = some client

/-- Sessions are told apart by their numbers, and the open ones are those that the clients
have. -/
structure Tidy : Prop where
  current_of_open : ∀ session, w.isOpen session = true → w.current session.client = some session
  client_of_current : ∀ client session, w.current client = some session → session.client = client
  number_lt : ∀ client session, w.current client = some session →
    session.number < w.opened client

end SessionsWorld

/-! ## What a task knows -/

/-- How far a task is with the session of a client. -/
inductive Stage where
  /-- it has no lock -/
  | out
  /-- it has the lock of the client -/
  | inside (client : ℕ)
  /-- it has the lock, and the client has no open session -/
  | vacant (client : ℕ)
  /-- it has the lock, and this session of the client is open -/
  | current (client : ℕ) (session : Session)
  /-- it has given back the lock, and goes on with this session -/
  | returned (session : Session)
  deriving DecidableEq, Repr

namespace Stage

def next (v : Stage) : Event Sessions → Stage
  | ⟨.acquire client, _⟩ => .inside client
  | ⟨.release _, _⟩ =>
      match v with
      | .current _ session => .returned session
      | _ => .out
  | ⟨.readSession client, some (session, true)⟩ => .current client session
  | ⟨.readSession client, _⟩ => .vacant client
  | ⟨.newSession client, session⟩ => .current client session
  | ⟨.close _, r⟩ =>
      match v, r with
      | .current client _, .ok _ => .vacant client
      | .current client _, .error _ => .inside client
      | v, _ => v
  | ⟨.clearSession _, _⟩ => v
  | _ =>
      match v with
      | .returned _ => .out
      | v => v

def Allows (v : Stage) : SessionsOp → Prop
  | .acquire _ => v = .out
  | .release client => v = .inside client ∨ v = .vacant client ∨ ∃ s, v = .current client s
  | .readSession client => v = .inside client
  | .newSession client => v = .vacant client
  | .clearSession client => v = .vacant client
  | .close session => ∃ client, v = .current client session
  | .send session => v = .returned session
  | _ => True

def lock : Stage → Option ℕ
  | .inside client | .vacant client | .current client _ => some client
  | .out | .returned _ => none

/-- What a task owes that has come to the stage: a client without an open session is closed. -/
def pay : Stage → Option ℕ → Option ℕ
  | .vacant client, owes => if owes = some client then none else owes
  | _, owes => owes

end Stage

/-- How far a task is, and the client that it has still to close. -/
structure Watch where
  stage : Stage
  owes : Option ℕ
  deriving DecidableEq, Repr

/-- Whoever takes a client out of the registry owes its closing, until it has no open session;
where closing it raises, this is given up. -/
def Watch.next (v : Watch) (e : Event Sessions) : Watch where
  stage := v.stage.next e
  owes :=
    match e with
    | ⟨.pop _, client⟩ => client
    | ⟨.close _, .error _⟩ => none
    | e => (v.stage.next e).pay v.owes

/-- A task takes out a client while it owes nothing. -/
def watch : Contract Sessions Watch where
  next := Watch.next
  rely _ _ := True
  guar v op := v.stage.Allows op ∧ ∀ id, op = .pop id → v.owes = none

def Watch.idle : Watch := ⟨.out, none⟩

/-! ## The tasks -/

inductive SessionsStart where
  | use (id : Int) (requests : List Bool)
  | change (id : Int) (enabled : Bool)
  | set (id : Int)

abbrev SessionsTask := Prog Sessions (Except SessionsExn Unit × Unit)

def SessionsStart.program : SessionsStart → SessionsTask
  | .use id requests => useHost id requests ()
  | .change id enabled => changeHost id enabled ()
  | .set id => setClient id ()

/-- The event loop with its requests and runs. -/
def sessionsSystem : System Sessions (Except SessionsExn Unit × Unit) Watch SessionsWorld where
  awaited := SessionsOp.isAwaited
  world := SessionsWorld.contract
  view := watch
  starts p v := (∃ start : SessionsStart, p = start.program) ∧ v = .idle
  env _ _ := False

abbrev SessionsPool := Pool Sessions (Except SessionsExn Unit × Unit) Watch SessionsWorld

def initialPool : SessionsPool where
  tasks := []
  active := none
  world := .initial

/-! ## Every task keeps to its locks, and pays what it owes -/

section

variable {α : Type}

theorem wp_withSessionLock {C : Contract Sessions Watch} {client : ℕ} {x : SessionsM α}
    {Q : α → Unit → Watch → Prop} {E : SessionsExn → Unit → Watch → Prop} {s : Unit} {v : Watch} :
    Act.wp C (withSessionLock client x) Q E s v ↔
      C.guar v (.acquire client) ∧ ∀ r, C.rely v ⟨.acquire client, r⟩ →
        Act.wp C x
          (fun a s v => C.guar v (.release client) ∧ ∀ r, C.rely v ⟨.release client, r⟩ →
            Q a s (C.next v ⟨.release client, r⟩))
          (fun e s v => C.guar v (.release client) ∧ ∀ r, C.rely v ⟨.release client, r⟩ →
            E e s (C.next v ⟨.release client, r⟩)) s (C.next v ⟨.acquire client, r⟩) := by
  simp only [withSessionLock, Act.wp_bind, Act.wp_tryCatch, Act.wp_pure, Act.wp_ofExcept]
  exact Iff.rfl

/-- The state of a task that has still to close a client, or none. -/
def Watch.owing (owes : Option ℕ) : Watch := ⟨.out, owes⟩

theorem triple_closeSession {client : ℕ} {owes : Option ℕ}
    (howes : owes = none ∨ owes = some client) :
    Act.Triple watch (· = .owing owes) (closeSession client) (· = .idle) (· = .idle) := by
  rintro s _ rfl
  refine wp_withSessionLock.2 ⟨⟨rfl, nofun⟩, fun _ _ => ?_⟩
  refine ⟨⟨rfl, nofun⟩, fun r _ => ?_⟩
  -- the end of the block, from a stage where the client has no open session
  have hclear {v : Watch} (hv : v = ⟨.vacant client, none⟩) :
      Act.wp watch (Act.perform (I := Sessions) (.clearSession client) : SessionsM Unit)
        (fun _ _ v => watch.guar v (.release client) ∧ ∀ r, watch.rely v ⟨.release client, r⟩ →
          watch.next v ⟨.release client, r⟩ = .idle)
        (fun _ _ v => watch.guar v (.release client) ∧ ∀ r, watch.rely v ⟨.release client, r⟩ →
          watch.next v ⟨.release client, r⟩ = .idle) s v := by
    subst hv
    exact ⟨⟨rfl, nofun⟩, fun _ _ => ⟨⟨.inr (.inl rfl), nofun⟩, fun _ _ => rfl⟩⟩
  have hpay : (Stage.vacant client).pay owes = none := by
    rcases howes with rfl | rfl
    · rfl
    · exact if_pos rfl
  obtain _ | ⟨session, _ | _⟩ := r
  · exact hclear (congrArg (Watch.mk _) hpay)
  · exact hclear (congrArg (Watch.mk _) hpay)
  · refine ⟨⟨⟨client, rfl⟩, nofun⟩, fun r _ => ?_⟩
    cases r with
    | ok _ => exact hclear (congrArg (Watch.mk _) hpay)
    | error closed => exact ⟨⟨.inl rfl, nofun⟩, fun _ _ => rfl⟩

theorem triple_getSession (client : ℕ) :
    ∀ s v, v = .idle → Act.wp watch (getSession client)
      (fun session _ v => v = ⟨.returned session, none⟩) (fun _ _ v => v = .idle) s v := by
  rintro s _ rfl
  refine wp_withSessionLock.2 ⟨⟨rfl, nofun⟩, fun _ _ => ⟨⟨rfl, nofun⟩, fun r _ => ?_⟩⟩
  have hnew : ∀ v : Watch, v = ⟨.vacant client, none⟩ →
      Act.wp watch (Act.perform (I := Sessions) (.newSession client) : SessionsM Session)
        (fun session _ v => watch.guar v (.release client) ∧
          ∀ r, watch.rely v ⟨.release client, r⟩ →
            watch.next v ⟨.release client, r⟩ = ⟨.returned session, none⟩)
        (fun _ _ v => watch.guar v (.release client) ∧ ∀ r, watch.rely v ⟨.release client, r⟩ →
          watch.next v ⟨.release client, r⟩ = .idle) s v := by
    rintro _ rfl
    exact ⟨⟨rfl, nofun⟩, fun session _ => ⟨⟨.inr (.inr ⟨session, rfl⟩), nofun⟩, fun _ _ => rfl⟩⟩
  obtain _ | ⟨session, _ | _⟩ := r
  · exact hnew _ rfl
  · exact hnew _ rfl
  · exact ⟨⟨.inr (.inr ⟨session, rfl⟩), nofun⟩, fun _ _ => rfl⟩

/-- An action that begins and ends between two pieces of work. -/
abbrev Idles (x : SessionsM α) : Prop :=
  Act.Triple watch (· = .idle) x (· = .idle) (· = .idle)

theorem idles_io : Idles io := by
  rintro s _ rfl
  exact ⟨⟨trivial, nofun⟩, fun r _ => by cases r <;> rfl⟩

theorem idles_request (client : ℕ) : Idles (request client) := by
  refine .bind idles_io fun _ => .bind_of_wp (triple_getSession client) fun session => ?_
  refine .bind (Q := (· = .idle)) ?_ fun _ => .bind (Q := (· = .idle)) ?_ fun outcome => ?_
  · rintro s _ rfl
    exact ⟨⟨rfl, nofun⟩, fun r _ => by cases r <;> rfl⟩
  · rintro s _ rfl
    exact ⟨⟨trivial, nofun⟩, fun r _ => rfl⟩
  · cases outcome with
    | ok => exact .pure () fun _ h => h
    | status | timeout | other => exact .throw _ fun _ h => h
    | connection =>
        exact .bind (triple_closeSession (.inl rfl)) fun _ => .throw _ fun _ h => h

theorem idles_removeClient (id : Int) : Idles (removeClient id) := by
  rintro s _ rfl
  refine ⟨⟨trivial, fun _ _ => rfl⟩, fun r _ => ?_⟩
  cases r with
  | none => exact rfl
  | some client => exact triple_closeSession (.inr rfl) s _ rfl

theorem idles_setClient (id : Int) : Idles (setClient id) :=
  .bind (idles_removeClient id) fun _ => .bind (Q := (· = .idle))
    (by rintro s _ rfl; exact ⟨⟨trivial, nofun⟩, fun _ _ => rfl⟩) fun _ => .pure () fun _ h => h

theorem idles_getHostClient (id : Int) : Idles (getHostClient id) := by
  rintro s _ rfl
  refine ⟨⟨trivial, nofun⟩, fun r _ => ?_⟩
  cases r with
  | none => exact ⟨⟨trivial, nofun⟩, fun _ _ => rfl⟩
  | some client => exact rfl

theorem idles_useHost (id : Int) (requests : List Bool) : Idles (useHost id requests) :=
  .bind (idles_getHostClient id) fun client => .forM fun _ =>
    .bind (.ite (.tryCatch (idles_request client) fun _ => .pure () fun _ h => h)
      (idles_request client)) fun _ => idles_io

theorem idles_changeHost (id : Int) (enabled : Bool) : Idles (changeHost id enabled) :=
  .bind idles_io fun _ => .bind (idles_removeClient id) fun _ =>
    .bind (.whenA (idles_setClient id)) fun _ => idles_io

end

/-- Every task keeps to its locks, and in the end it has none and owes nothing. -/
theorem wp_of_sessionsStart {p : SessionsTask} {v : Watch} (h : sessionsSystem.starts p v) :
    p.wp watch (fun _ v => v = .idle) v := by
  obtain ⟨⟨start, rfl⟩, rfl⟩ := h
  have hwp {x : SessionsM Unit} (hx : Idles x) : (x ()).wp watch (fun _ v => v = .idle) .idle := by
    refine Prog.wp_mono (hx () .idle rfl) ?_
    rintro ⟨_ | _, _⟩ v h <;> exact h
  cases start with
  | use id requests => exact hwp (idles_useHost id requests)
  | change id enabled => exact hwp (idles_changeHost id enabled)
  | set id => exact hwp (idles_setClient id)

/-! ## The locks -/

def SessionsOp.mutex : SessionsOp → MutexOp ℕ
  | .acquire client => .acquire client
  | .release client => .release client
  | _ => .other

theorem Stage.lock_next {v : Stage} {e : Event Sessions} (h : v.Allows e.op) :
    (v.next e).lock = e.op.mutex.next v.lock := by
  obtain ⟨op, r⟩ := e
  cases op with
  | acquire client => rfl
  | release client => rcases h with rfl | rfl | ⟨session, rfl⟩ <;> rfl
  | readSession client =>
      obtain rfl := h
      obtain _ | ⟨session, _ | _⟩ := r <;> rfl
  | newSession client =>
      obtain rfl := h
      rfl
  | clearSession client => rfl
  | close session =>
      obtain ⟨client, rfl⟩ := h
      cases r <;> rfl
  | _ => cases v <;> rfl

theorem Stage.allowed_mutex {v : Stage} {op : SessionsOp} (h : v.Allows op) :
    op.mutex.Allowed v.lock := by
  cases op with
  | acquire client =>
      obtain rfl := h
      rfl
  | release client => rcases h with rfl | rfl | ⟨session, rfl⟩ <;> rfl
  | _ => trivial

theorem SessionsWorld.locked_acquire (w : SessionsWorld) (client : ℕ) (r : Unit) (client' : ℕ) :
    (w.next ⟨.acquire client, r⟩).locked client' = true ↔
      client' = client ∨ w.locked client' = true := by
  simp only [next, Function.update_apply]
  split <;> simp [*]

theorem SessionsWorld.locked_release (w : SessionsWorld) (client : ℕ) (r : Unit) (client' : ℕ) :
    (w.next ⟨.release client, r⟩).locked client' = true ↔
      client' ≠ client ∧ w.locked client' = true := by
  simp only [next, Function.update_apply]
  split <;> simp [*]

def sessionLocks : MutexSystem sessionsSystem ℕ where
  holds v := v.stage.lock
  op := SessionsOp.mutex
  locked w client := w.locked client = true
  next v e h := Stage.lock_next h.1
  guar v o h := Stage.allowed_mutex h.1
  starts p v h := by rw [h.2]; rfl
  free w e client h hop := by
    obtain ⟨op, r⟩ := e
    cases op with
    | acquire client' =>
        cases hop
        simp [show w.locked client = false from h]
    | _ => cases hop
  locked_next w e client := by
    obtain ⟨op, r⟩ := e
    cases op with
    | acquire client' => exact w.locked_acquire client' r client
    | release client' => exact w.locked_release client' r client
    | _ => exact Iff.rfl
  locked_env w w' client h := h.elim

end AgentSessions

end Tugtainer
