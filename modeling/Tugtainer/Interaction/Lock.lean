import Tugtainer.Interaction.Cooperative

/-!
# A lock that is asked for before it is taken

Tasks exclude each other by a note in a store: a task asks whether the note says
busy, and where it does not, writes a busy one in the same turn; later it writes a
free one. `Lock.next` follows what one task has done with the lock, and
`Lock.Allows` is the discipline it keeps.

The store may lose the note. `LockSystem.exclusive` says that at most one task
holds the lock in every pool reached, as long as the note is still there whenever a
task asks while another one holds the lock.
-/

namespace Interaction

/-- How far one task is with the lock. It is `granted` from the answer that lets it
pass until its next operation. -/
inductive Lock where
  | idle | granted | held
  deriving DecidableEq, Repr

inductive LockOp where
  /-- ask whether the lock is free -/
  | ask
  /-- write a busy note -/
  | take
  /-- write a free note -/
  | free
  | other
  deriving DecidableEq, Repr

namespace Lock

def lapse : Lock → Lock
  | .held => .held
  | .idle | .granted => .idle

/-- How far the task is after an operation; `pass` says whether an `ask` let it
pass. -/
def next (l : Lock) (op : LockOp) (pass : Bool) : Lock :=
  match op with
  | .ask => if pass then .granted else l.lapse
  | .take => .held
  | .free => .idle
  | .other => l.lapse

def Allows (l : Lock) (op : LockOp) : Prop :=
  (op = .take → l ≠ .idle) ∧ (op = .free → l = .held)

@[simp] theorem lapse_eq_held {l : Lock} : l.lapse = .held ↔ l = .held := by
  cases l <;> simp [lapse]

@[simp] theorem lapse_lapse (l : Lock) : l.lapse.lapse = l.lapse := by
  cases l <;> rfl

theorem next_eq_granted {l : Lock} {op : LockOp} {pass : Bool} :
    l.next op pass = .granted ↔ op = .ask ∧ pass = true := by
  cases l <;> cases op <;> cases pass <;> simp [next, lapse]

theorem held_of_next {l : Lock} {op : LockOp} {pass : Bool} (h : l.next op pass = .held) :
    op = .take ∨ (l = .held ∧ (op = .ask ∨ op = .other)) := by
  cases l <;> cases op <;> cases pass <;> simp_all [next, lapse]

end Lock

variable {I : Interface} {α V W : Type}

structure LockSystem (S : System I α V W) where
  /-- how far a task is, as its observer sees it -/
  lock : V → Lock
  op : I.Op → LockOp
  /-- whether the answer to an `ask` lets the task pass -/
  pass : Event I → Bool
  /-- the last note says busy -/
  busy : W → Prop
  /-- the last note is still there -/
  kept : W → Prop
  next : ∀ w v e, S.world.rely w e → lock (S.view.next v e) = (lock v).next (op e.op) (pass e)
  guar : ∀ v o, S.view.guar v o → (lock v).Allows (op o)
  starts : ∀ p v, S.starts p v → lock v = .idle
  ask_awaited : ∀ o, op o = .ask → S.awaited o = false
  take_awaited : ∀ o, op o = .take → S.awaited o = false
  refuse : ∀ w e, S.world.rely w e → op e.op = .ask → busy w → kept w → pass e = false
  busy_take : ∀ w e, S.world.rely w e → op e.op = .take → busy (S.world.next w e)
  busy_other : ∀ w e, S.world.rely w e → op e.op = .ask ∨ op e.op = .other → busy w →
    busy (S.world.next w e)
  busy_env : ∀ w w', S.env w w' → busy w → busy w'

namespace LockSystem

variable {S : System I α V W} (L : LockSystem S)

def Holds (s : Pool I α V W) (i : ℕ) : Prop :=
  ∃ p v, s.tasks[i]? = some (p, v) ∧ L.lock v = .held

/-- A step at which the note is there if a task asks while another one holds the
lock. -/
def NoteKept (s : Pool I α V W) (a : Move I) : Prop :=
  ∀ i e, a = .event i e → L.op e.op = .ask → ∀ j, L.Holds s j → L.kept s.world

/-- What every step keeps. -/
structure Exclusive (s : Pool I α V W) : Prop where
  unique : ∀ i j, L.Holds s i → L.Holds s j → i = j
  busy : ∀ i, L.Holds s i → L.busy s.world
  active : ∀ i p v, s.tasks[i]? = some (p, v) → L.lock v = .granted → S.busy p = true →
    s.active = some i
  alone : ∀ i p v, s.tasks[i]? = some (p, v) → L.lock v = .granted → s.active = some i →
    ∀ j, ¬ L.Holds s j

variable {L} {s s' : Pool I α V W} {Q : α → V → Prop}

theorem Exclusive.start (h : L.Exclusive s) {p : Prog I α} {v : V} (hlock : L.lock v = .idle) :
    L.Exclusive { s with tasks := s.tasks ++ [(p, v)] } := by
  have hold : ∀ (i : ℕ) p' v', (s.tasks ++ [(p, v)])[i]? = some (p', v') → L.lock v' ≠ .idle →
      s.tasks[i]? = some (p', v') := by
    intro i p' v' hget hne
    rcases System.getElem?_concat_eq_some hget with hget | heq
    · exact hget
    · cases heq
      exact absurd hlock hne
  have hholds : ∀ i, L.Holds { s with tasks := s.tasks ++ [(p, v)] } i → L.Holds s i := by
    rintro i ⟨p', v', hget, hheld⟩
    exact ⟨p', v', hold i p' v' hget (by simp [hheld]), hheld⟩
  refine ⟨fun i j hi hj => h.unique i j (hholds i hi) (hholds j hj),
    fun i hi => h.busy i (hholds i hi), fun i p' v' hget hgr => ?_,
    fun i p' v' hget hgr hact j hj => ?_⟩
  · exact h.active i p' v' (hold i p' v' hget (by simp [hgr])) hgr
  · exact h.alone i p' v' (hold i p' v' hget (by simp [hgr])) hgr hact j (hholds j hj)

theorem Exclusive.env (h : L.Exclusive s) {w : W} (henv : S.env s.world w) :
    L.Exclusive { s with world := w } :=
  ⟨h.unique, fun i hi => L.busy_env _ _ henv (h.busy i hi), h.active, h.alone⟩

section Event

variable {i : ℕ} {o : I.Op} {k : I.Ans o → Prog I α} {r : I.Ans o} {v : V}

/-- The pool after an operation of the task `i`. -/
def afterEvent (S : System I α V W) (s : Pool I α V W) (i : ℕ) (v : V) (o : I.Op)
    (k : I.Ans o → Prog I α) (r : I.Ans o) : Pool I α V W where
  tasks := s.tasks.set i (k r, S.view.next v ⟨o, r⟩)
  active := if !S.awaited o && S.busy (k r) then some i else none
  world := S.world.next s.world ⟨o, r⟩

/-- A task that holds the lock afterwards is the one of the step, which has just taken it, or
has held it before and does not give it up. -/
theorem Holds.of_event {j : ℕ} (h : L.Holds (afterEvent S s i v o k r) j)
    (hget : s.tasks[i]? = some (.call o k, v)) (hrely : S.world.rely s.world ⟨o, r⟩) :
    (j = i ∧ L.op o = .take) ∨ (L.Holds s j ∧ (L.op o = .free → j ≠ i)) := by
  obtain ⟨p', v', hj, hheld⟩ := h
  rcases System.getElem?_set_eq_some hj with ⟨rfl, heq⟩ | ⟨hne, hj⟩
  · cases heq
    have hlock := (L.next s.world v ⟨o, r⟩ hrely).symm.trans hheld
    rcases Lock.held_of_next hlock with htake | ⟨hheld, hop⟩
    · exact .inl ⟨rfl, htake⟩
    · exact .inr ⟨⟨_, v, hget, hheld⟩, fun hfree => by simp [hfree] at hop⟩
  · exact .inr ⟨⟨p', v', hj, hheld⟩, fun _ => hne⟩

theorem Exclusive.eq_of_granted (h : L.Exclusive s) (hactive : ∀ j, s.active = some j → j = i)
    (hrely : S.world.rely s.world ⟨o, r⟩) {j : ℕ} {p' : Prog I α} {v' : V}
    (hj : (afterEvent S s i v o k r).tasks[j]? = some (p', v')) (hgr : L.lock v' = .granted)
    (hor : S.busy p' = true ∨ (afterEvent S s i v o k r).active = some j) :
    j = i ∧ p' = k r ∧ L.op o = .ask ∧ L.pass ⟨o, r⟩ = true := by
  rcases System.getElem?_set_eq_some hj with ⟨rfl, heq⟩ | ⟨hne, hj⟩
  · cases heq
    have hlock := (L.next s.world v ⟨o, r⟩ hrely).symm.trans hgr
    exact ⟨rfl, rfl, Lock.next_eq_granted.1 hlock⟩
  · refine absurd ?_ hne
    rcases hor with hbusy | hact
    · exact hactive j (h.active j p' v' hj hgr hbusy)
    · simp only [afterEvent] at hact
      split at hact
      · exact (Option.some.inj hact).symm
      · cases hact

theorem Exclusive.not_holds_of_pass (h : L.Exclusive s) (hrely : S.world.rely s.world ⟨o, r⟩)
    (hask : L.op o = .ask) (hpass : L.pass ⟨o, r⟩ = true)
    (hkept : ∀ j, L.Holds s j → L.kept s.world) (j : ℕ) : ¬ L.Holds s j := by
  intro hj
  have hrefused := L.refuse s.world ⟨o, r⟩ hrely hask (h.busy j hj) (hkept j hj)
  rw [hpass] at hrefused
  cases hrefused

theorem Exclusive.eq_of_take (h : L.Exclusive s) (hget : s.tasks[i]? = some (.call o k, v))
    (hallows : (L.lock v).Allows (L.op o)) (htake : L.op o = .take) {j : ℕ} (hj : L.Holds s j) :
    j = i := by
  cases hlock : L.lock v with
  | idle => exact absurd hlock (hallows.1 htake)
  | held => exact h.unique j i hj ⟨_, v, hget, hlock⟩
  | granted =>
      have hbusy : S.busy (.call o k) = true := by
        simp [System.busy, Prog.next?, L.take_awaited o htake]
      exact absurd hj (h.alone i _ v hget hlock (h.active i _ v hget hlock hbusy) j)

theorem Exclusive.event (h : L.Exclusive s) (hget : s.tasks[i]? = some (.call o k, v))
    (hallows : (L.lock v).Allows (L.op o)) (hactive : ∀ j, s.active = some j → j = i)
    (hrely : S.world.rely s.world ⟨o, r⟩)
    (hkept : L.op o = .ask → ∀ j, L.Holds s j → L.kept s.world) :
    L.Exclusive (afterEvent S s i v o k r) := by
  refine ⟨fun a b ha hb => ?_, fun a ha => ?_, fun j p' v' hj hgr hbusy => ?_,
    fun j p' v' hj hgr hact a ha => ?_⟩
  · -- at most one task holds the lock
    rcases ha.of_event hget hrely with ⟨rfl, htake⟩ | ⟨ha', -⟩ <;>
      rcases hb.of_event hget hrely with ⟨rfl, htake'⟩ | ⟨hb', -⟩
    · rfl
    · exact (h.eq_of_take hget hallows htake hb').symm
    · exact h.eq_of_take hget hallows htake' ha'
    · exact h.unique a b ha' hb'
  · -- the note says so
    rcases ha.of_event hget hrely with ⟨rfl, htake⟩ | ⟨ha', hne⟩
    · exact L.busy_take _ _ hrely htake
    · cases hop : L.op o with
      | take => exact L.busy_take _ _ hrely hop
      | ask => exact L.busy_other _ _ hrely (.inl hop) (h.busy a ha')
      | other => exact L.busy_other _ _ hrely (.inr hop) (h.busy a ha')
      | free => exact absurd (h.unique a i ha' ⟨_, v, hget, hallows.2 hop⟩) (hne hop)
  · obtain ⟨rfl, rfl, hask, -⟩ := h.eq_of_granted hactive hrely hj hgr (.inl hbusy)
    simp [afterEvent, L.ask_awaited o hask, hbusy]
  · obtain ⟨rfl, rfl, hask, hpass⟩ := h.eq_of_granted hactive hrely hj hgr (.inr hact)
    rcases ha.of_event hget hrely with ⟨-, htake⟩ | ⟨ha', -⟩
    · cases hask.symm.trans htake
    · exact h.not_holds_of_pass hrely hask hpass (hkept hask) a ha'

end Event

theorem Exclusive.step {a : Move I} (h : L.Exclusive s) (hwp : S.TasksWp Q s)
    (hstep : S.Step s a s') (hkept : L.NoteKept s a) : L.Exclusive s' := by
  cases hstep with
  | start hp => exact h.start (L.starts _ _ hp)
  | env henv => exact h.env henv
  | @event i o k r v hget hactive hrely =>
      exact h.event hget (L.guar v o (hwp i _ v hget).1) hactive hrely
        fun hask => hkept i ⟨o, r⟩ rfl hask

/-- Along every schedule at most one task holds the lock, as long as the note is kept. -/
theorem exclusive {s₀ : Pool I α V W} {cond : Pool I α V W → Move I → Prop}
    (h : S.Reaches cond s₀ s) (hcond : ∀ s a, cond s a → L.NoteKept s a)
    (hstart : ∀ p v, S.starts p v → p.wp S.view Q v)
    (hrely : ∀ w v e, S.world.rely w e → S.view.rely v e) (h₀ : s₀.tasks = []) :
    S.TasksWp Q s ∧ L.Exclusive s := by
  refine h.inv (P := fun s => S.TasksWp Q s ∧ L.Exclusive s) ?_ ?_
  · have hnone : ∀ (i : ℕ) p v, s₀.tasks[i]? ≠ some (p, v) := by simp [h₀]
    exact ⟨fun i p v hi => absurd hi (hnone i p v),
      fun i j ⟨p, v, hi, _⟩ => absurd hi (hnone i p v),
      fun i ⟨p, v, hi, _⟩ => absurd hi (hnone i p v), fun i p v hi => absurd hi (hnone i p v),
      fun i p v hi => absurd hi (hnone i p v)⟩
  · rintro s a s' ⟨hwp, hex⟩ hstep hc
    exact ⟨hwp.step hstart hrely hstep, hex.step hwp hstep (hcond s a hc)⟩

end LockSystem

end Interaction
