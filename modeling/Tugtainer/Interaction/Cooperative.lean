import Mathlib.Order.Basic
import Tugtainer.Interaction.Contract

/-!
# Cooperative tasks

The tasks of an event loop share a world and run one at a time. A task gives way
at its awaited operations only: between two of them nobody else takes a step, so
the `active` task, the one that stands at an operation it does not await, goes
on. The answer of an awaited operation may arrive long before its task is resumed.

Every task carries the state of an observer of its own events, which no step
reads. What each program does under the observer's contract every step keeps:
`System.TasksWp.step`. An invariant of the whole system is proved step by step:
`System.Reaches.inv`.
-/

namespace Interaction

variable {I : Interface} {α V W : Type}

/-- The operation that a program issues next. -/
def Prog.next? : Prog I α → Option I.Op
  | .ret _ => none
  | .call op _ => some op

/-- The tasks in the order of their arrival, each with the state of its observer. -/
structure Pool (I : Interface) (α V W : Type) where
  tasks : List (Prog I α × V)
  active : Option ℕ
  world : W

/-- What happens in one step: a task arrives, a task issues an operation, or the
world changes by itself. -/
inductive Move (I : Interface) where
  | start
  | event (task : ℕ) (e : Event I)
  | env

/-- What a system is made of: the operations that are awaited, the world with the
answers it may give and the changes it may make by itself, the observer of a task,
and the programs that may be started. -/
structure System (I : Interface) (α V W : Type) where
  awaited : I.Op → Bool
  world : Contract I W
  view : Contract I V
  starts : Prog I α → V → Prop
  env : W → W → Prop

namespace System

variable (S : System I α V W)

/-- Whether a program stands at an operation that it does not await. -/
def busy (p : Prog I α) : Bool :=
  p.next?.any fun op => !S.awaited op

/-- One step of a system. -/
inductive Step : Pool I α V W → Move I → Pool I α V W → Prop
  | start {s : Pool I α V W} {p : Prog I α} {v : V} (h : S.starts p v) :
      Step s .start { s with tasks := s.tasks ++ [(p, v)] }
  | env {s : Pool I α V W} {w : W} (h : S.env s.world w) : Step s .env { s with world := w }
  | event {s : Pool I α V W} {i : ℕ} {op : I.Op} {k : I.Ans op → Prog I α} {r : I.Ans op} {v : V}
      (hget : s.tasks[i]? = some (.call op k, v)) (hactive : ∀ j, s.active = some j → j = i)
      (hrely : S.world.rely s.world ⟨op, r⟩) :
      Step s (.event i ⟨op, r⟩)
        { tasks := s.tasks.set i (k r, S.view.next v ⟨op, r⟩)
          active := if !S.awaited op && S.busy (k r) then some i else none
          world := S.world.next s.world ⟨op, r⟩ }

/-- The pools reached by steps that meet a condition. -/
inductive Reaches (cond : Pool I α V W → Move I → Prop) (s₀ : Pool I α V W) :
    Pool I α V W → Prop
  | refl : Reaches cond s₀ s₀
  | step {s s' : Pool I α V W} {a : Move I} (h : Reaches cond s₀ s) (hstep : S.Step s a s')
      (hcond : cond s a) : Reaches cond s₀ s'

variable {S} {cond : Pool I α V W → Move I → Prop} {s₀ s : Pool I α V W}

/-- What holds at the start and is kept by every step holds in every pool reached. -/
theorem Reaches.inv {P : Pool I α V W → Prop} (h : S.Reaches cond s₀ s) (h₀ : P s₀)
    (hstep : ∀ s a s', P s → S.Step s a s' → cond s a → P s') : P s := by
  induction h with
  | refl => exact h₀
  | step _ hs hc ih => exact hstep _ _ _ ih hs hc

/-- Every task does what its program does under the observer's contract. -/
def TasksWp (S : System I α V W) (Q : α → V → Prop) (s : Pool I α V W) : Prop :=
  ∀ (i : ℕ) (p : Prog I α) (v : V), s.tasks[i]? = some (p, v) → p.wp S.view Q v

theorem getElem?_concat_eq_some {β : Type} {l : List β} {b c : β} {i : ℕ}
    (h : (l ++ [b])[i]? = some c) : l[i]? = some c ∨ c = b := by
  rcases Nat.lt_or_ge i l.length with hi | hi
  · rw [List.getElem?_append_left hi] at h
    exact .inl h
  · rw [List.getElem?_append_right hi] at h
    exact .inr (List.mem_singleton.1 (List.mem_of_getElem? h))

theorem getElem?_set_eq_some {β : Type} {l : List β} {b c : β} {i j : ℕ}
    (h : (l.set i b)[j]? = some c) : (j = i ∧ c = b) ∨ (j ≠ i ∧ l[j]? = some c) := by
  by_cases hij : i = j
  · subst hij
    by_cases hi : i < l.length
    · rw [List.getElem?_set_self hi] at h
      exact .inl ⟨rfl, (Option.some.inj h).symm⟩
    · rw [List.getElem?_eq_none (by simpa using hi)] at h
      cases h
  · rw [List.getElem?_set_ne hij] at h
    exact .inr ⟨fun hji => hij hji.symm, h⟩

theorem TasksWp.step {Q : α → V → Prop} (hstart : ∀ p v, S.starts p v → p.wp S.view Q v)
    (hrely : ∀ w v e, S.world.rely w e → S.view.rely v e) {s s' : Pool I α V W} {a : Move I}
    (h : TasksWp S Q s) (hstep : S.Step s a s') : TasksWp S Q s' := by
  cases hstep with
  | env _ => exact h
  | start hp =>
      intro i p v hget
      rcases getElem?_concat_eq_some hget with hget | heq
      · exact h i p v hget
      · cases heq
        exact hstart _ _ hp
  | event hcall _ hr =>
      intro i p v hget
      rcases getElem?_set_eq_some hget with ⟨-, heq⟩ | ⟨-, hget⟩
      · cases heq
        exact (h _ _ _ hcall).2 _ (hrely _ _ _ hr)
      · exact h i p v hget

end System

end Interaction
