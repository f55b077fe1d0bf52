import Tugtainer.Interaction.Cooperative

/-!
# Schedules that can be run

A schedule is a list of turns: a task arrives, a task takes one step, the world changes.
With a function that answers the operations it can be run, and the pool that comes out is
one that the system reaches: `System.reaches_of_runTurns`. The schedule stops at a pool
where the check `ok` fails, or where the task that is to take a step cannot.
-/

namespace Interaction

variable {I : Interface} {α V W : Type}

inductive Turn (I : Interface) (α V W : Type) where
  | start (p : Prog I α) (v : V)
  | step (task : ℕ)
  | env (change : W → W)

namespace System

variable (S : System I α V W) (reply : W → (op : I.Op) → Option (I.Ans op))
  (ok : Pool I α V W → Bool)

def stepTask (s : Pool I α V W) (i : ℕ) : Option (Pool I α V W) :=
  match s.tasks[i]? with
  | some (.call op k, v) =>
      if s.active.all (· == i) then
        (reply s.world op).map fun r =>
          { tasks := s.tasks.set i (k r, S.view.next v ⟨op, r⟩)
            active := if !S.awaited op && S.busy (k r) then some i else none
            world := S.world.next s.world ⟨op, r⟩ }
      else none
  | _ => none

def turn (s : Pool I α V W) : Turn I α V W → Option (Pool I α V W)
  | .start p v => some { s with tasks := s.tasks ++ [(p, v)] }
  | .step i => S.stepTask reply s i
  | .env change => some { s with world := change s.world }

def runTurns (s : Pool I α V W) : List (Turn I α V W) → Option (Pool I α V W)
  | [] => some s
  | t :: turns =>
      if ok s then (S.turn reply s t).bind fun s' => runTurns s' turns else none

def Permits : Turn I α V W → Prop
  | .start p v => S.starts p v
  | .step _ => True
  | .env change => ∀ w, S.env w (change w)

variable {S reply ok} {s s' : Pool I α V W}

/-- The step answers its operation as `reply` does. -/
def AnsweredBy (reply : W → (op : I.Op) → Option (I.Ans op)) (s : Pool I α V W) (a : Move I) :
    Prop :=
  ∀ i e, a = .event i e → reply s.world e.op = some e.ans

theorem step_of_stepTask (hreply : ∀ w op r, reply w op = some r → S.world.rely w ⟨op, r⟩)
    {i : ℕ} (h : S.stepTask reply s i = some s') : ∃ a, S.Step s a s' ∧ AnsweredBy reply s a := by
  unfold stepTask at h
  split at h
  · rename_i op k v hget
    split at h
    · rename_i hactive
      obtain ⟨r, hr, rfl⟩ := Option.map_eq_some_iff.1 h
      refine ⟨_, .event hget (fun j hj => ?_) (hreply s.world op r hr), fun j e he => ?_⟩
      · simpa [hj] using hactive
      · cases he
        exact hr
    · cases h
  · cases h

theorem step_of_turn (hreply : ∀ w op r, reply w op = some r → S.world.rely w ⟨op, r⟩)
    {t : Turn I α V W} (ht : S.Permits t) (h : S.turn reply s t = some s') :
    ∃ a, S.Step s a s' ∧ AnsweredBy reply s a := by
  cases t with
  | start p v =>
      cases h
      exact ⟨_, .start ht, fun _ _ he => by cases he⟩
  | step i => exact step_of_stepTask hreply h
  | env change =>
      cases h
      exact ⟨_, .env (ht _), fun _ _ he => by cases he⟩

/-- What comes out of a schedule is reached by steps that are answered as `reply` says. -/
theorem reaches_of_answeredBy {cond : Pool I α V W → Move I → Prop} {s₀ : Pool I α V W}
    (hreply : ∀ w op r, reply w op = some r → S.world.rely w ⟨op, r⟩)
    (hok : ∀ s a s', ok s = true → S.Step s a s' → AnsweredBy reply s a → cond s a)
    (turns : List (Turn I α V W))
    (hturns : ∀ t ∈ turns, S.Permits t) (h₀ : S.Reaches cond s₀ s)
    (h : S.runTurns reply ok s turns = some s') : S.Reaches cond s₀ s' := by
  induction turns generalizing s with
  | nil =>
      cases h
      exact h₀
  | cons t turns ih =>
      simp only [runTurns] at h
      split at h
      · rename_i hs
        obtain ⟨s₁, hs₁, hrest⟩ := Option.bind_eq_some_iff.1 h
        obtain ⟨a, hstep, ha⟩ := step_of_turn hreply (hturns t (by simp)) hs₁
        exact ih (fun t' ht' => hturns t' (by simp [ht']))
          (h₀.step hstep (hok s a s₁ hs hstep ha)) hrest
      · cases h

theorem reaches_of_runTurns {cond : Pool I α V W → Move I → Prop} {s₀ : Pool I α V W}
    (hreply : ∀ w op r, reply w op = some r → S.world.rely w ⟨op, r⟩)
    (hok : ∀ s a, ok s = true → cond s a) {turns : List (Turn I α V W)}
    (hturns : ∀ t ∈ turns, S.Permits t) (h₀ : S.Reaches cond s₀ s)
    (h : S.runTurns reply ok s turns = some s') : S.Reaches cond s₀ s' :=
  reaches_of_answeredBy hreply (fun s a _ hs _ _ => hok s a hs) _ hturns h₀ h

end System

end Interaction
