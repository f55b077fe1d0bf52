import Tugtainer.Interaction.Cooperative

/-!
# Locks that are waited for

Each key of a family has a lock. A task that asks for a lock goes on when nobody has it, and
gives it back later; in between it may be suspended. `MutexSystem.exclusive`: in every pool
reached at most one task has the lock of a key.

What a task knows of something that only the holder of a lock changes stays true until it
gives the lock back (`MutexSystem.Exclusive.eq_of_holds`).
-/

namespace Interaction

/-- What an operation does with the locks. -/
inductive MutexOp (K : Type) where
  | acquire (k : K)
  | release (k : K)
  | other
  deriving DecidableEq, Repr

def MutexOp.next {K : Type} : MutexOp K → Option K → Option K
  | .acquire k, _ => some k
  | .release _, _ => none
  | .other, held => held

/-- A lock is taken by a task that has none, and given back by the task that has it. -/
def MutexOp.Allowed {K : Type} : MutexOp K → Option K → Prop
  | .acquire _, held => held = none
  | .release k, held => held = some k
  | .other, _ => True

/-- Whether a lock is taken after an operation, given whether it was before. -/
def MutexOp.Locks {K : Type} (k : K) : MutexOp K → Prop → Prop
  | .acquire k', locked => k = k' ∨ locked
  | .release k', locked => k ≠ k' ∧ locked
  | .other, locked => locked

variable {I : Interface} {α V W : Type}

/-- A system whose tasks wait for locks. -/
structure MutexSystem (S : System I α V W) (K : Type) where
  /-- the lock that a task has, as its observer sees it -/
  holds : V → Option K
  op : I.Op → MutexOp K
  locked : W → K → Prop
  next : ∀ v e, S.view.guar v e.op → holds (S.view.next v e) = (op e.op).next (holds v)
  guar : ∀ v o, S.view.guar v o → (op o).Allowed (holds v)
  starts : ∀ p v, S.starts p v → holds v = none
  free : ∀ w e k, S.world.rely w e → op e.op = .acquire k → ¬ locked w k
  locked_next : ∀ w e k, locked (S.world.next w e) k ↔ (op e.op).Locks k (locked w k)
  locked_env : ∀ w w' k, S.env w w' → (locked w' k ↔ locked w k)

namespace MutexSystem

variable {S : System I α V W} {K : Type} (M : MutexSystem S K)

def Holds (s : Pool I α V W) (i : ℕ) (k : K) : Prop :=
  ∃ p v, s.tasks[i]? = some (p, v) ∧ M.holds v = some k

/-- What every step keeps. -/
structure Exclusive (s : Pool I α V W) : Prop where
  unique : ∀ i j k, M.Holds s i k → M.Holds s j k → i = j
  locked : ∀ i k, M.Holds s i k → M.locked s.world k

variable {M} {s s' : Pool I α V W} {Q : α → V → Prop}

theorem Exclusive.eq_of_holds (h : M.Exclusive s) {i j : ℕ} {k : K} {p p' : Prog I α} {v v' : V}
    (hi : s.tasks[i]? = some (p, v)) (hv : M.holds v = some k)
    (hj : s.tasks[j]? = some (p', v')) (hv' : M.holds v' = some k) : i = j :=
  h.unique i j k ⟨p, v, hi, hv⟩ ⟨p', v', hj, hv'⟩

theorem Exclusive.start (h : M.Exclusive s) {p : Prog I α} {v : V} (hnone : M.holds v = none) :
    M.Exclusive { s with tasks := s.tasks ++ [(p, v)] } := by
  have hold : ∀ i k, M.Holds { s with tasks := s.tasks ++ [(p, v)] } i k → M.Holds s i k := by
    rintro i k ⟨p', v', hget, hv'⟩
    rcases System.getElem?_concat_eq_some hget with hget | heq
    · exact ⟨p', v', hget, hv'⟩
    · cases heq
      cases hnone.symm.trans hv'
  exact ⟨fun i j k hi hj => h.unique i j k (hold i k hi) (hold j k hj),
    fun i k hi => h.locked i k (hold i k hi)⟩

/-- A task that has a lock after an operation of the task `i` is `i`, which has just taken it,
or had it before; then it is not the one that `i` gave back. -/
theorem Holds.of_event {i j : ℕ} {k : K} {o : I.Op} {f : I.Ans o → Prog I α} {r : I.Ans o} {v : V}
    {active : Option ℕ} (hget : s.tasks[i]? = some (.call o f, v)) (hguar : S.view.guar v o)
    (h : M.Holds ⟨s.tasks.set i (f r, S.view.next v ⟨o, r⟩), active,
      S.world.next s.world ⟨o, r⟩⟩ j k) :
    (j = i ∧ M.op o = .acquire k) ∨
      (M.Holds s j k ∧ ((∃ k', M.op o = .release k') → j ≠ i)) := by
  obtain ⟨p', v', hj, hv'⟩ := h
  rcases System.getElem?_set_eq_some hj with ⟨rfl, heq⟩ | ⟨hne, hj⟩
  · cases heq
    have hnext := (M.next v ⟨o, r⟩ hguar).symm.trans hv'
    cases hop : M.op o with
    | acquire k' =>
        rw [hop] at hnext
        cases hnext
        exact .inl ⟨rfl, rfl⟩
    | release k' =>
        rw [hop] at hnext
        cases hnext
    | other =>
        rw [hop] at hnext
        exact .inr ⟨⟨_, v, hget, hnext⟩, fun ⟨k', h⟩ => nomatch h⟩
  · exact .inr ⟨⟨p', v', hj, hv'⟩, fun _ => hne⟩

theorem Exclusive.event (h : M.Exclusive s) {i : ℕ} {o : I.Op} {f : I.Ans o → Prog I α}
    {r : I.Ans o} {v : V} (active : Option ℕ) (hget : s.tasks[i]? = some (.call o f, v))
    (hguar : S.view.guar v o) (hrely : S.world.rely s.world ⟨o, r⟩) :
    M.Exclusive ⟨s.tasks.set i (f r, S.view.next v ⟨o, r⟩), active,
      S.world.next s.world ⟨o, r⟩⟩ := by
  refine ⟨fun a b k ha hb => ?_, fun a k ha => ?_⟩
  · rcases ha.of_event hget hguar with ⟨rfl, hacquire⟩ | ⟨ha', -⟩ <;>
      rcases hb.of_event hget hguar with ⟨rfl, hacquire'⟩ | ⟨hb', -⟩
    · rfl
    · exact absurd (h.locked b k hb') (M.free _ _ k hrely hacquire)
    · exact absurd (h.locked a k ha') (M.free _ _ k hrely hacquire')
    · exact h.unique a b k ha' hb'
  · refine (M.locked_next _ _ k).2 ?_
    rcases ha.of_event hget hguar with ⟨-, hacquire⟩ | ⟨ha', hne⟩
    · rw [hacquire]
      exact .inl rfl
    · have hlocked := h.locked a k ha'
      cases hop : M.op o with
      | acquire k' => exact .inr hlocked
      | release k' =>
          -- the lock that is given back is that of `i`
          refine ⟨fun hk => hne ⟨k', hop⟩ ?_, hlocked⟩
          have hheld : M.holds v = some k' := by
            have hallowed := M.guar v o hguar
            rwa [hop] at hallowed
          exact h.unique a i k ha' ⟨_, v, hget, by rw [hheld, hk]⟩
      | other => exact hlocked

theorem Exclusive.step {a : Move I} (h : M.Exclusive s) (hwp : S.TasksWp Q s)
    (hstep : S.Step s a s') : M.Exclusive s' := by
  cases hstep with
  | start hp => exact h.start (M.starts _ _ hp)
  | env henv => exact ⟨h.unique, fun i k hi => (M.locked_env _ _ k henv).2 (h.locked i k hi)⟩
  | event hget hactive hrely => exact h.event _ hget (hwp _ _ _ hget).1 hrely

theorem Exclusive.of_nil {s₀ : Pool I α V W} (h : s₀.tasks = []) : M.Exclusive s₀ := by
  have hnone : ∀ i k, ¬ M.Holds s₀ i k := by
    rintro i k ⟨p, v, hget, -⟩
    simp [h] at hget
  exact ⟨fun i j k hi => absurd hi (hnone i k), fun i k hi => absurd hi (hnone i k)⟩

theorem exclusive {s₀ : Pool I α V W} {cond : Pool I α V W → Move I → Prop}
    (h : S.Reaches cond s₀ s) (hstart : ∀ p v, S.starts p v → p.wp S.view Q v)
    (hrely : ∀ w v e, S.world.rely w e → S.view.rely v e) (h₀ : s₀.tasks = []) :
    S.TasksWp Q s ∧ M.Exclusive s := by
  refine h.inv (P := fun s => S.TasksWp Q s ∧ M.Exclusive s) ⟨?_, .of_nil h₀⟩ ?_
  · intro i p v hget
    simp [h₀] at hget
  · rintro s a s' ⟨hwp, hex⟩ hstep -
    exact ⟨hwp.step hstart hrely hstep, hex.step hwp hstep⟩

end MutexSystem

end Interaction
