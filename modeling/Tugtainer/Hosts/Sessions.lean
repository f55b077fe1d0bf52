import Tugtainer.Hosts.Stages
import Tugtainer.Interaction.Schedule

/-!
# One session for each client

What a task knows of the session of a client holds while it has the lock (`Knows`), and after
that until it gives way. `single_of_reaches`: at every moment a client has one open session at
most, and no request is sent in a closed one.

A client that is taken out of the registry is closed by the task that took it out.
`registered_of_reaches`: once all tasks are done, all open sessions are those of registered
clients, if no task has opened one for a client that is not registered any more.
-/

namespace Tugtainer

namespace AgentSessions

open Interaction

/-! ## What the steps keep -/

def Knows (w : SessionsWorld) : Stage → Prop
  | .vacant client => ∀ session, session.client = client → w.isOpen session = false
  | .current client session => session.client = client ∧ w.isOpen session = true
  | _ => True

/-- The tasks know what they should, and a session that a task goes on with is open until the
task gives way. -/
structure Sound (s : SessionsPool) : Prop where
  tidy : s.world.Tidy
  knows : ∀ (i : ℕ) (p : SessionsTask) (v : Watch), s.tasks[i]? = some (p, v) →
    Knows s.world v.stage
  active : ∀ (i : ℕ) (p : SessionsTask) (v : Watch) (session : Session),
    s.tasks[i]? = some (p, v) → v.stage = .returned session →
      sessionsSystem.busy p = true → s.active = some i
  usable : ∀ (i : ℕ) (p : SessionsTask) (v : Watch) (session : Session),
    s.tasks[i]? = some (p, v) → v.stage = .returned session → s.active = some i →
      s.world.isOpen session = true

namespace SessionsWorld

variable {w : SessionsWorld} {e : Event Sessions} {v : Stage}

theorem isOpen_newSession (client : ℕ) (session session' : Session) :
    (w.next ⟨.newSession client, session⟩).isOpen session' = true ↔
      session' = session ∨ w.isOpen session' = true := by
  simp only [next, Function.update_apply]
  split <;> simp [*]

theorem current_newSession (client : ℕ) (session : Session) (client' : ℕ) :
    (w.next ⟨.newSession client, session⟩).current client' =
      if client' = client then some session else w.current client' :=
  Function.update_apply _ _ _ _

theorem opened_newSession (client : ℕ) (session : Session) (client' : ℕ) :
    (w.next ⟨.newSession client, session⟩).opened client' =
      if client' = client then w.opened client + 1 else w.opened client' :=
  Function.update_apply _ _ _ _

theorem isOpen_of_close {session session' : Session} {r : Except Bool Unit}
    (h : (w.next ⟨.close session, r⟩).isOpen session' = true) : w.isOpen session' = true := by
  simp only [next, Function.update_apply] at h
  split at h
  · rename_i heq
    rw [heq]
    exact (Bool.and_eq_true_iff.1 h).2
  · exact h

theorem isOpen_close_of_ne {session session' : Session} (h : session' ≠ session)
    (r : Except Bool Unit) :
    (w.next ⟨.close session, r⟩).isOpen session' = w.isOpen session' :=
  Function.update_of_ne h _ _

theorem isOpen_close_ok (session : Session) (u : Unit) :
    (w.next ⟨.close session, .ok u⟩).isOpen session = false :=
  Function.update_self _ _ _

theorem current_clearSession (client : ℕ) (u : Unit) (client' : ℕ) :
    (w.next ⟨.clearSession client, u⟩).current client' =
      if client' = client then none else w.current client' :=
  Function.update_apply _ _ _ _

/-- The sessions stay in order, whatever a task does that knows what it should. -/
theorem Tidy.next (h : w.Tidy) (hans : w.Answers e) (hallows : v.Allows e.op)
    (hknows : Knows w v) : (w.next e).Tidy := by
  obtain ⟨op, r⟩ := e
  cases op with
  | newSession client =>
      obtain rfl := hans
      obtain rfl := hallows
      refine ⟨fun session hopen => ?_, fun client' session hcurrent => ?_,
        fun client' session hcurrent => ?_⟩
      · rw [current_newSession]
        rcases (isOpen_newSession _ _ _).1 hopen with rfl | hopen
        · exact if_pos rfl
        · have hne : session.client ≠ client := fun heq => by simp [hknows session heq] at hopen
          rw [if_neg hne]
          exact h.current_of_open session hopen
      · rw [current_newSession] at hcurrent
        split at hcurrent
        · cases hcurrent
          exact Eq.symm ‹_›
        · exact h.client_of_current client' session hcurrent
      · rw [current_newSession] at hcurrent
        rw [opened_newSession]
        split at hcurrent
        · rw [if_pos ‹_›]
          cases hcurrent
          exact Nat.lt_succ_self _
        · rw [if_neg ‹_›]
          exact h.number_lt client' session hcurrent
  | close session =>
      exact ⟨fun session' hopen => h.current_of_open session' (isOpen_of_close hopen),
        h.client_of_current, h.number_lt⟩
  | clearSession client =>
      obtain rfl := hallows
      refine ⟨fun session hopen => ?_, fun client' session hcurrent => ?_,
        fun client' session hcurrent => ?_⟩
      · have hne : session.client ≠ client := fun heq =>
          absurd (hknows session heq) (by simp [show w.isOpen session = true from hopen])
        rw [current_clearSession, if_neg hne]
        exact h.current_of_open session hopen
      · rw [current_clearSession] at hcurrent
        split at hcurrent
        · cases hcurrent
        · exact h.client_of_current client' session hcurrent
      · rw [current_clearSession] at hcurrent
        split at hcurrent
        · cases hcurrent
        · exact h.number_lt client' session hcurrent
  | _ => exact ⟨h.current_of_open, h.client_of_current, h.number_lt⟩

end SessionsWorld

namespace Knows

variable {w : SessionsWorld} {e : Event Sessions} {v v' : Stage}

theorem next (htidy : w.Tidy) (hans : w.Answers e) (hallows : v.Allows e.op)
    (hknows : Knows w v) : Knows (w.next e) (v.next e) := by
  obtain ⟨op, r⟩ := e
  cases op with
  | readSession client =>
      have hclosed (hne : ∀ session, w.current client = some session →
          w.isOpen session = false) : Knows w (.vacant client) := by
        rintro session rfl
        by_contra hopen
        rw [Bool.not_eq_false] at hopen
        simp [hne session (htidy.current_of_open session hopen)] at hopen
      obtain rfl := hans
      cases hcurrent : w.current client with
      | none => exact hclosed (by simp [hcurrent])
      | some session =>
          cases hopen : w.isOpen session with
          | false =>
              simp only [Option.map_some, hopen]
              exact hclosed (by simp [hcurrent, hopen])
          | true =>
              simp only [Option.map_some, hopen]
              exact ⟨htidy.client_of_current client session hcurrent, hopen⟩
  | newSession client =>
      obtain rfl := hans
      exact ⟨rfl, (SessionsWorld.isOpen_newSession _ _ _).2 (.inl rfl)⟩
  | clearSession client =>
      obtain rfl := hallows
      exact hknows
  | close session =>
      obtain ⟨client, rfl⟩ := hallows
      obtain ⟨rfl, hopen⟩ := hknows
      cases r with
      | error closed => exact trivial
      | ok u =>
          intro session' hclient
          by_contra hopen'
          rw [Bool.not_eq_false] at hopen'
          have hcurrent := htidy.current_of_open session' (SessionsWorld.isOpen_of_close hopen')
          rw [hclient, htidy.current_of_open session hopen] at hcurrent
          cases hcurrent
          simp [SessionsWorld.isOpen_close_ok] at hopen'
  | acquire client => exact trivial
  | release client =>
      cases v <;> exact trivial
  | _ =>
      cases v with
      | returned session => exact trivial
      | _ => exact hknows

/-- What a task knows of the session of a client stays true while another task is at work, which
has not the lock of this client. -/
theorem next_of_ne (hans : w.Answers e) (hallows : v.Allows e.op) (hknows : Knows w v)
    (hne : ∀ client, v.lock = some client → v'.lock ≠ some client) (h : Knows w v') :
    Knows (w.next e) v' := by
  obtain ⟨op, r⟩ := e
  cases op with
  | newSession client =>
      obtain rfl := hans
      obtain rfl := hallows
      cases v' with
      | vacant client' =>
          intro session hclient
          by_contra hopen
          rcases (SessionsWorld.isOpen_newSession _ _ _).1 (Bool.not_eq_false _ ▸ hopen) with
            rfl | hopen
          · exact hne client rfl (congrArg some hclient.symm)
          · simp [h session hclient] at hopen
      | current client' session =>
          exact ⟨h.1, (SessionsWorld.isOpen_newSession _ _ _).2 (.inr h.2)⟩
      | _ => exact trivial
  | close session =>
      obtain ⟨client, rfl⟩ := hallows
      cases v' with
      | vacant client' =>
          intro session' hclient
          by_contra hopen
          rw [Bool.not_eq_false] at hopen
          exact absurd (SessionsWorld.isOpen_of_close hopen) (by simp [h session' hclient])
      | current client' session' =>
          have hsession : session' ≠ session := by
            rintro rfl
            exact hne client rfl (congrArg some (h.1.symm.trans hknows.1))
          exact ⟨h.1, (SessionsWorld.isOpen_close_of_ne hsession r).trans h.2⟩
      | _ => exact trivial
  | _ => exact h

end Knows

/-- A task comes to go on with a session by giving back the lock under which it got it. -/
theorem Stage.of_next_eq_returned {v : Stage} {e : Event Sessions} {session : Session}
    (hallows : v.Allows e.op) (h : v.next e = .returned session) :
    (∃ client, e.op = .release client) ∧ ∃ client, v = .current client session := by
  obtain ⟨op, r⟩ := e
  cases op with
  | release client =>
      cases v with
      | current client' session' =>
          cases h
          exact ⟨⟨client, rfl⟩, client', rfl⟩
      | _ => cases h
  | readSession client =>
      obtain _ | ⟨session', _ | _⟩ := r <;> cases h
  | clearSession client =>
      obtain rfl := hallows
      cases h
  | close session' =>
      obtain ⟨client, rfl⟩ := hallows
      cases r <;> cases h
  | acquire client => cases h
  | newSession client => cases h
  | _ => cases v <;> cases h

theorem Sound.start {s : SessionsPool} (h : Sound s) (p : SessionsTask) :
    Sound { s with tasks := s.tasks ++ [(p, .idle)] } := by
  refine ⟨h.tidy, fun i p' v hget => ?_, fun i p' v session hget hv => ?_,
    fun i p' v session hget hv => ?_⟩ <;>
    rcases System.getElem?_concat_eq_some hget with hget | heq
  · exact h.knows i p' v hget
  · cases heq
    exact trivial
  · exact h.active i p' v session hget hv
  · cases heq
    cases hv
  · exact h.usable i p' v session hget hv
  · cases heq
    cases hv

theorem Sound.event {s : SessionsPool} (h : Sound s) (hlocks : sessionLocks.Exclusive s) {i : ℕ}
    {op : SessionsOp} {k : op.Ans → SessionsTask} {r : op.Ans} {v : Watch}
    (hget : s.tasks[i]? = some (.call op k, v)) (hactive : ∀ j, s.active = some j → j = i)
    (hallows : v.stage.Allows op) (hans : s.world.Answers ⟨op, r⟩) :
    Sound ⟨s.tasks.set i (k r, v.next ⟨op, r⟩),
      if !op.isAwaited && sessionsSystem.busy (k r) then some i else none,
      s.world.next ⟨op, r⟩⟩ := by
  have hknows := h.knows i _ v hget
  refine ⟨h.tidy.next hans hallows hknows, fun j p' v' hj => ?_,
    fun j p' v' session hj hv hbusy => ?_, fun j p' v' session hj hv hact => ?_⟩
  · rcases System.getElem?_set_eq_some hj with ⟨rfl, heq⟩ | ⟨hne, hj⟩
    · cases heq
      exact hknows.next h.tidy hans hallows
    · refine Knows.next_of_ne hans hallows hknows (fun client hv hv' => ?_) (h.knows j p' v' hj)
      exact hne (hlocks.eq_of_holds hj hv' hget hv)
  · rcases System.getElem?_set_eq_some hj with ⟨rfl, heq⟩ | ⟨hne, hj⟩
    · cases heq
      obtain ⟨⟨client, hop⟩, -⟩ := Stage.of_next_eq_returned (e := ⟨op, r⟩) hallows hv
      obtain rfl : op = .release client := hop
      simp [SessionsOp.isAwaited, hbusy]
    · exact absurd (hactive j (h.active j p' v' session hj hv hbusy)) hne
  · rcases System.getElem?_set_eq_some hj with ⟨rfl, heq⟩ | ⟨hne, hj⟩
    · cases heq
      obtain ⟨⟨client, hop⟩, client', hstage⟩ :=
        Stage.of_next_eq_returned (e := ⟨op, r⟩) hallows hv
      obtain rfl : op = .release client := hop
      rw [hstage] at hknows
      exact hknows.2
    · split at hact
      · exact absurd (Option.some.inj hact).symm hne
      · cases hact

theorem Sound.step {s s' : SessionsPool} {a : Move Sessions} (h : Sound s)
    (hlocks : sessionLocks.Exclusive s)
    (hwp : sessionsSystem.TasksWp (fun _ v => v = .idle) s) (hstep : sessionsSystem.Step s a s') :
    Sound s' := by
  cases hstep with
  | start hp =>
      obtain ⟨-, rfl⟩ := hp
      exact h.start _
  | env henv => exact henv.elim
  | event hget hactive hrely =>
      exact h.event hlocks hget hactive (hwp _ _ _ hget).1.1 hrely

theorem tidy_initial : SessionsWorld.initial.Tidy where
  current_of_open _ h := by cases h
  client_of_current _ _ h := by cases h
  number_lt _ _ h := by cases h

/-- What holds of every pool that is reached. -/
structure Kept (s : SessionsPool) : Prop where
  wp : sessionsSystem.TasksWp (fun _ v => v = .idle) s
  locks : sessionLocks.Exclusive s
  sound : Sound s

theorem Kept.step {s s' : SessionsPool} {a : Move Sessions} (h : Kept s)
    (hstep : sessionsSystem.Step s a s') : Kept s' where
  wp := h.wp.step (fun _ _ => wp_of_sessionsStart) (fun _ _ _ _ => trivial) hstep
  locks := h.locks.step h.wp hstep
  sound := h.sound.step h.locks h.wp hstep

theorem kept_initialPool : Kept initialPool := by
  refine ⟨fun i p v hget => ?_, .of_nil rfl, tidy_initial, fun i p v hget => ?_,
    fun i p v session hget => ?_, fun i p v session hget => ?_⟩ <;> simp [initialPool] at hget

/-! ## The two properties -/

/-- At every moment a client has one open session at most, and a request is sent in an open
session only, however requests, runs and changes of hosts give way to each other. -/
theorem single_of_reaches {s : SessionsPool}
    (h : sessionsSystem.Reaches (fun _ _ => True) initialPool s) :
    (∀ session session', s.world.isOpen session = true → s.world.isOpen session' = true →
      session.client = session'.client → session = session') ∧
    ∀ i session r s', sessionsSystem.Step s (.event i ⟨.send session, r⟩) s' →
      s.world.isOpen session = true ∧ r = .ok () := by
  obtain ⟨hwp, -, hsound⟩ := h.inv kept_initialPool fun _ _ _ hkept hstep _ => hkept.step hstep
  refine ⟨fun session session' hopen hopen' hclient => ?_, fun i session r s' hstep => ?_⟩
  · have hcurrent := hsound.tidy.current_of_open session hopen
    rw [hclient, hsound.tidy.current_of_open session' hopen'] at hcurrent
    exact (Option.some.inj hcurrent).symm
  · cases hstep with
    | event hget hactive hrely =>
        have hstage := (hwp _ _ _ hget).1.1
        have hopen := hsound.usable i _ _ session hget hstage
          (hsound.active i _ _ session hget hstage rfl)
        exact ⟨hopen, Eq.trans hrely (if_pos hopen)⟩

/-- A step at which a session is opened for a registered client only, no client takes the place
of another one in the registry, and the closing of a session does not raise. -/
def OnRegistered (s : SessionsPool) (a : Move Sessions) : Prop :=
  ∀ i e, a = .event i e →
    match e with
    | ⟨.newSession client, _⟩ => s.world.Registered client
    | ⟨.create id, _⟩ => s.world.registry id = none
    | ⟨.close _, .error _⟩ => False
    | _ => True

/-- An open session is that of a registered client, or of one that a task has still to close. -/
def Accounted (s : SessionsPool) : Prop :=
  ∀ session, s.world.isOpen session = true → s.world.Registered session.client ∨
    ∃ (i : ℕ) (p : SessionsTask) (v : Watch),
      s.tasks[i]? = some (p, v) ∧ v.owes = some session.client

/-- A session that is open after a step was so before, or is one of the client for which the step
has opened one. -/
theorem SessionsWorld.of_isOpen_next {w : SessionsWorld} {e : Event Sessions} {session : Session}
    (hans : w.Answers e) (h : (w.next e).isOpen session = true) :
    w.isOpen session = true ∨ e = ⟨.newSession session.client, session⟩ := by
  obtain ⟨op, r⟩ := e
  cases op with
  | newSession client =>
      obtain rfl := hans
      rcases (isOpen_newSession _ _ _).1 h with rfl | h
      · exact .inr rfl
      · exact .inl h
  | close session' => exact .inl (isOpen_of_close h)
  | _ => exact .inl h

/-- A registered client stays so, unless the step takes it out of the registry, or puts another
one in its place. -/
theorem SessionsWorld.Registered.next {w : SessionsWorld} {e : Event Sessions} {client : ℕ}
    (h : w.Registered client) (hans : w.Answers e)
    (hcreate : ∀ id r, e = ⟨.create id, r⟩ → w.registry id = none) :
    (w.next e).Registered client ∨ ∃ id, e = ⟨.pop id, some client⟩ := by
  obtain ⟨id, hid⟩ := h
  obtain ⟨op, r⟩ := e
  cases op with
  | pop id' =>
      by_cases heq : id = id'
      · subst heq
        obtain rfl := hans
        exact .inr ⟨id, by rw [hid]⟩
      · exact .inl ⟨id, (Function.update_of_ne heq _ _).trans hid⟩
  | create id' =>
      have heq : id ≠ id' := by
        rintro rfl
        cases hid.symm.trans (hcreate id r rfl)
      exact .inl ⟨id, (Function.update_of_ne heq _ _).trans hid⟩
  | _ => exact .inl ⟨id, hid⟩

theorem Watch.owes_next {v : Watch} {e : Event Sessions} {client : ℕ}
    (hguar : watch.guar v e.op) (hclose : ∀ session closed, e ≠ ⟨.close session, .error closed⟩)
    (h : v.owes = some client) :
    (v.next e).owes = some client ∨ (v.next e).stage = .vacant client := by
  have hpay : (v.stage.next e).pay v.owes = some client ∨ v.stage.next e = .vacant client := by
    cases hstage : v.stage.next e with
    | vacant client' =>
        by_cases heq : client = client'
        · exact .inr (congrArg Stage.vacant heq.symm)
        · refine .inl ?_
          rw [Stage.pay, h, if_neg fun hsome => heq (Option.some.inj hsome)]
    | _ => exact .inl h
  obtain ⟨op, r⟩ := e
  cases op with
  | pop id => cases h.symm.trans (hguar.2 id rfl)
  | close session =>
      cases r with
      | error closed => exact absurd rfl (hclose session closed)
      | ok u => exact hpay
  | _ => exact hpay

theorem Accounted.step {s s' : SessionsPool} {a : Move Sessions} (h : Accounted s)
    (hsound' : Sound s') (hwp : sessionsSystem.TasksWp (fun _ v => v = .idle) s)
    (hcond : OnRegistered s a) (hstep : sessionsSystem.Step s a s') : Accounted s' := by
  cases hstep with
  | start hp =>
      intro session hopen
      refine (h session hopen).imp_right ?_
      rintro ⟨i, p, v, hget, howes⟩
      refine ⟨i, p, v, ?_, howes⟩
      rw [List.getElem?_append_left (List.getElem?_eq_some_iff.1 hget).1, hget]
  | env henv => exact henv.elim
  | @event i op k r v hget hactive hrely =>
      have hself : (s.tasks.set i (k r, v.next ⟨op, r⟩))[i]? = some (k r, v.next ⟨op, r⟩) :=
        List.getElem?_set_self (List.getElem?_eq_some_iff.1 hget).1
      have hcreate : ∀ id r', (⟨op, r⟩ : Event Sessions) = ⟨.create id, r'⟩ →
          s.world.registry id = none := fun id r' heq => by
        have hcond := hcond i _ rfl
        rwa [heq] at hcond
      have hclose : ∀ session closed,
          (⟨op, r⟩ : Event Sessions) ≠ ⟨.close session, .error closed⟩ := by
        intro session closed heq
        have hcond := hcond i _ rfl
        rwa [heq] at hcond
      intro session hopen
      have hregistered (hreg : s.world.Registered session.client) :
          (s.world.next ⟨op, r⟩).Registered session.client ∨
            ∃ (j : ℕ) (p : SessionsTask) (v' : Watch),
              (s.tasks.set i (k r, v.next ⟨op, r⟩))[j]? = some (p, v') ∧
                v'.owes = some session.client := by
        refine (hreg.next hrely hcreate).imp_right ?_
        rintro ⟨id, heq⟩
        refine ⟨i, _, _, hself, ?_⟩
        rw [heq]
        rfl
      rcases SessionsWorld.of_isOpen_next hrely hopen with hopen' | heq
      · rcases h session hopen' with hreg | ⟨j, p, v', hj, howes⟩
        · exact hregistered hreg
        · by_cases hij : i = j
          · subst hij
            cases hget.symm.trans hj
            rcases Watch.owes_next (e := ⟨op, r⟩) (hwp _ _ _ hget).1 hclose howes with
              howes | hvacant
            · exact .inr ⟨i, _, _, hself, howes⟩
            · -- the client has just been closed
              have hknows := hsound'.knows i _ _ hself
              rw [hvacant] at hknows
              cases (hknows session rfl).symm.trans hopen
          · exact .inr ⟨j, p, v', by rw [List.getElem?_set_ne hij, hj], howes⟩
      · refine hregistered ?_
        have hcond := hcond i _ rfl
        rwa [heq] at hcond

/-- Once all tasks are done, all open sessions are those of registered clients, as long as tasks
open sessions for registered clients only, no client takes the place of another one, and no
closing raises. -/
theorem registered_of_reaches {s : SessionsPool}
    (h : sessionsSystem.Reaches OnRegistered initialPool s)
    (hdone : ∀ task ∈ s.tasks, task.1.next? = none) (session : Session)
    (hopen : s.world.isOpen session = true) : s.world.Registered session.client := by
  have hkept := h.inv (P := fun s => Kept s ∧ Accounted s)
    ⟨kept_initialPool, fun _ h => by cases h⟩ fun s a s' hs hstep hcond =>
      have hkept' := hs.1.step hstep
      ⟨hkept', hs.2.step hkept'.sound hs.1.wp hcond hstep⟩
  rcases hkept.2 session hopen with hreg | ⟨i, p, v, hget, howes⟩
  · exact hreg
  · -- a task that is done owes nothing
    have hret := hdone _ (List.mem_of_getElem? hget)
    have hwp := hkept.1.wp i p v hget
    cases p with
    | call op k => cases hret
    | ret a =>
        rw [show v = .idle from hwp] at howes
        cases howes

/-! ## Schedules -/

/-- All requests are answered, and nothing raises. -/
def quietReply (w : SessionsWorld) : (op : SessionsOp) → Option op.Ans
  | .io => some (.ok ())
  | .pop id | .get id => some (w.registry id)
  | .create _ => some w.clients
  | .acquire client => if w.locked client then none else some ()
  | .release _ | .clearSession _ => some ()
  | .readSession client =>
      some ((w.current client).map fun session => (session, w.isOpen session))
  | .newSession client => some ⟨client, w.opened client⟩
  | .close _ => some (.ok ())
  | .send session => some (if w.isOpen session then .ok () else .error .other)
  | .response _ => some .ok

theorem answers_quietReply (w : SessionsWorld) (op : SessionsOp) (r : op.Ans)
    (h : quietReply w op = some r) : w.Answers ⟨op, r⟩ := by
  cases op with
  | acquire client =>
      simp only [quietReply] at h
      split at h
      · cases h
      · exact Bool.eq_false_iff.2 ‹_›
  | pop id | get id | create id | readSession client | newSession client | send session =>
      cases h
      rfl
  | _ => exact trivial

abbrev SessionsTurn := Turn Sessions (Except SessionsExn Unit × Unit) Watch SessionsWorld

def startTurn (start : SessionsStart) : SessionsTurn := .start start.program .idle

/-- Two runs whose requests to one host are under way at the same time. -/
def sharedTurns : List SessionsTurn :=
  startTurn (.use 1 [false]) :: startTurn (.use 1 [false]) ::
    (List.replicate 8 (.step 0) ++ List.replicate 6 (.step 1))

theorem permits_startTurn (start : SessionsStart) : sessionsSystem.Permits (startTurn start) :=
  ⟨⟨start, rfl⟩, rfl⟩

theorem permits_steps {turns : List SessionsTurn}
    (h : ∀ t ∈ turns, (∃ start, t = startTurn start) ∨ ∃ i, t = .step i) :
    ∀ t ∈ turns, sessionsSystem.Permits t := by
  intro t ht
  rcases h t ht with ⟨start, rfl⟩ | ⟨i, rfl⟩
  · exact permits_startTurn start
  · exact trivial

def sharedPool : SessionsPool :=
  (sessionsSystem.runTurns quietReply (fun _ => true) initialPool sharedTurns).get
    (by decide +kernel)

theorem single_of_reaches_sharedPool :
    (∀ session session', sharedPool.world.isOpen session = true →
      sharedPool.world.isOpen session' = true → session.client = session'.client →
        session = session') ∧
    ∀ i session r s', sessionsSystem.Step sharedPool (.event i ⟨.send session, r⟩) s' →
      sharedPool.world.isOpen session = true ∧ r = .ok () := by
  refine single_of_reaches (System.reaches_of_runTurns answers_quietReply (fun _ _ _ => trivial)
    (permits_steps ?_) .refl (Option.some_get (by decide +kernel)).symm)
  simp [sharedTurns]

/-- Answers under which sessions are opened for the client of the host 1 only, and no client takes
the place of another one. -/
def registeredReply (w : SessionsWorld) : (op : SessionsOp) → Option op.Ans
  | .newSession client =>
      if w.registry 1 = some client then some ⟨client, w.opened client⟩ else none
  | .create id => if w.registry id = none then some w.clients else none
  | op => quietReply w op

theorem quietReply_of_registeredReply {w : SessionsWorld} {op : SessionsOp} {r : op.Ans}
    (h : registeredReply w op = some r) : quietReply w op = some r := by
  cases op with
  | newSession client | create id =>
      simp only [registeredReply] at h
      split at h
      · exact h
      · cases h
  | _ => exact h

theorem onRegistered_of_answeredBy {s : SessionsPool} {a : Move Sessions}
    (h : System.AnsweredBy registeredReply s a) : OnRegistered s a := by
  rintro i ⟨op, r⟩ rfl
  have hr : registeredReply s.world op = some r := h i ⟨op, r⟩ rfl
  cases op with
  | newSession client =>
      simp only [registeredReply] at hr
      split at hr
      · exact ⟨1, ‹_›⟩
      · cases hr
  | create id =>
      simp only [registeredReply] at hr
      split at hr
      · rename_i hnone
        exact hnone
      · cases hr
  | close session =>
      cases hr
      exact trivial
  | _ => exact trivial

/-- The client of a host is used, then replaced, and the new one is used. -/
def replacedTurns : List SessionsTurn :=
  startTurn (.use 1 [false]) :: startTurn (.change 1 true) :: startTurn (.use 1 [false]) ::
    (List.replicate 10 (.step 0) ++ List.replicate 10 (.step 1) ++ List.replicate 9 (.step 2))

def replacedPool : SessionsPool :=
  (sessionsSystem.runTurns registeredReply (fun _ => true) initialPool replacedTurns).get
    (by decide +kernel)

theorem registered_of_reaches_replacedPool :
    replacedPool.world.isOpen ⟨1, 0⟩ = true ∧ replacedPool.world.Registered 1 := by
  have hopen : replacedPool.world.isOpen ⟨1, 0⟩ = true := by decide +kernel
  have hdone : ∀ task ∈ replacedPool.tasks, task.1.next? = none := by
    have hall : (replacedPool.tasks.all fun task => task.1.next?.isNone) = true := by
      decide +kernel
    simpa using hall
  refine ⟨hopen, registered_of_reaches (System.reaches_of_answeredBy
    (fun w op r h => answers_quietReply w op r (quietReply_of_registeredReply h))
    (fun s a _ _ _ => onRegistered_of_answeredBy) replacedTurns (permits_steps ?_) .refl
    (Option.some_get (by decide +kernel)).symm) hdone _ hopen⟩
  simp [replacedTurns]

/-- A run makes its second request after the host was changed. -/
def staleTurns : List SessionsTurn :=
  startTurn (.use 1 [false, false]) :: startTurn (.change 1 true) ::
    (List.replicate 10 (.step 0) ++ List.replicate 10 (.step 1) ++ List.replicate 8 (.step 0))

def stalePool : SessionsPool :=
  (sessionsSystem.runTurns quietReply (fun _ => true) initialPool staleTurns).get
    (by decide +kernel)

/-- The removed client has an open session in the end, which nobody will close. -/
theorem stale_client_leaves_session :
    sessionsSystem.Reaches (fun _ _ => True) initialPool stalePool ∧
      (∀ task ∈ stalePool.tasks, task.1.next? = none) ∧
      stalePool.world.isOpen ⟨0, 1⟩ = true ∧ stalePool.world.registry 1 = some 1 := by
  refine ⟨System.reaches_of_runTurns answers_quietReply (fun _ _ _ => trivial)
    (permits_steps ?_) .refl (Option.some_get (by decide +kernel)).symm,
    ?_, by decide +kernel, by decide +kernel⟩
  · simp [staleTurns]
  · have hall : (stalePool.tasks.all fun task => task.1.next?.isNone) = true := by
      decide +kernel
    simpa using hall

end AgentSessions

end Tugtainer
