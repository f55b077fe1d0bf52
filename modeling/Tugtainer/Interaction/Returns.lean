import Tugtainer.Interaction.Action

/-!
# Runs that return

`Act.Returns x s tr a s'` says that `x`, started in `s` and answered as `tr` records, returns
`a` and leaves `s'`. Each construct has one rule, so what a returning run has asked and been
answered is read off the text of the action.
-/

namespace Interaction

variable {I : Interface} {ε σ α β : Type}

theorem runs_ret_iff {a b : α} {tr : Trace I} :
    Runs (.ret a : Prog I α) tr b ↔ tr = [] ∧ a = b := by
  constructor
  · intro h
    cases h
    exact ⟨rfl, rfl⟩
  · rintro ⟨rfl, rfl⟩
    exact .ret a

theorem runs_call_iff {op : I.Op} {k : I.Ans op → Prog I α} {tr : Trace I} {a : α} :
    Runs (.call op k) tr a ↔ ∃ r tr', tr = ⟨op, r⟩ :: tr' ∧ Runs (k r) tr' a := by
  constructor
  · intro h
    cases h with
    | call h => exact ⟨_, _, rfl, h⟩
  · rintro ⟨r, tr', rfl, h⟩
    exact .call h

/-- A run of two programs is a run of the first one, and then one of the second. -/
theorem runs_bind_iff {p : Prog I α} {f : α → Prog I β} {tr : Trace I} {b : β} :
    Runs (p.bind f) tr b ↔ ∃ a tr₁ tr₂, tr = tr₁ ++ tr₂ ∧ Runs p tr₁ a ∧ Runs (f a) tr₂ b := by
  induction p generalizing tr with
  | ret a =>
      rw [Prog.ret_bind]
      constructor
      · intro h
        exact ⟨a, [], tr, rfl, .ret a, h⟩
      · rintro ⟨a', tr₁, tr₂, rfl, h₁, h₂⟩
        obtain ⟨rfl, rfl⟩ := runs_ret_iff.1 h₁
        exact h₂
  | call op k ih =>
      rw [Prog.call_bind, runs_call_iff]
      constructor
      · rintro ⟨r, tr', rfl, h⟩
        obtain ⟨a, tr₁, tr₂, rfl, h₁, h₂⟩ := (ih r).1 h
        exact ⟨a, ⟨op, r⟩ :: tr₁, tr₂, rfl, .call h₁, h₂⟩
      · rintro ⟨a, tr₁, tr₂, rfl, h₁, h₂⟩
        obtain ⟨r, tr', rfl, h⟩ := runs_call_iff.1 h₁
        exact ⟨r, tr' ++ tr₂, rfl, (ih r).2 ⟨a, tr', tr₂, rfl, h, h₂⟩⟩

namespace Act

/-- The action returns a value, answered as the trace records. -/
def Returns (x : Act I ε σ α) (s : σ) (tr : Trace I) (a : α) (s' : σ) : Prop :=
  Runs (x s) tr (.ok a, s')

variable {x : Act I ε σ α} {s s' : σ} {tr : Trace I} {a : α}

@[simp] theorem returns_pure_iff {b : α} :
    Returns (pure b : Act I ε σ α) s tr a s' ↔ tr = [] ∧ b = a ∧ s = s' := by
  refine runs_ret_iff.trans ?_
  simp

@[simp] theorem not_returns_throw {e : ε} : ¬ Returns (throw e : Act I ε σ α) s tr a s' := by
  intro h
  cases h

@[simp] theorem returns_ofExcept_iff {r : Except ε α} :
    Returns (ofExcept r : Act I ε σ α) s tr a s' ↔ tr = [] ∧ r = .ok a ∧ s = s' := by
  refine runs_ret_iff.trans ?_
  simp

theorem returns_performE_iff {op : I.Op} {read : I.Ans op → Except ε α} :
    Returns (performE op read : Act I ε σ α) s tr a s' ↔
      ∃ r, tr = [⟨op, r⟩] ∧ read r = .ok a ∧ s = s' := by
  refine runs_call_iff.trans ?_
  constructor
  · rintro ⟨r, tr', rfl, h⟩
    obtain ⟨rfl, hans⟩ := runs_ret_iff.1 h
    exact ⟨r, rfl, Prod.mk.inj hans⟩
  · rintro ⟨r, rfl, hread, rfl⟩
    exact ⟨r, [], rfl, runs_ret_iff.2 ⟨rfl, by rw [hread]⟩⟩

theorem returns_bind_iff {f : α → Act I ε σ β} {b : β} :
    Returns (x >>= f) s tr b s' ↔ ∃ a s₁ tr₁ tr₂, tr = tr₁ ++ tr₂ ∧
      Returns x s tr₁ a s₁ ∧ Returns (f a) s₁ tr₂ b s' := by
  refine runs_bind_iff.trans ?_
  constructor
  · rintro ⟨⟨r, s₁⟩, tr₁, tr₂, rfl, h₁, h₂⟩
    cases r with
    | error e => cases h₂
    | ok a => exact ⟨a, s₁, tr₁, tr₂, rfl, h₁, h₂⟩
  · rintro ⟨a, s₁, tr₁, tr₂, rfl, h₁, h₂⟩
    exact ⟨(.ok a, s₁), tr₁, tr₂, rfl, h₁, h₂⟩

theorem returns_ofExcept_bind_iff {r : Except ε α} {f : α → Act I ε σ β} {b : β} :
    Returns (ofExcept r >>= f) s tr b s' ↔ ∃ a, r = .ok a ∧ Returns (f a) s tr b s' := by
  rw [returns_bind_iff]
  constructor
  · rintro ⟨a, s₁, tr₁, tr₂, rfl, h₁, h₂⟩
    obtain ⟨rfl, hr, rfl⟩ := returns_ofExcept_iff.1 h₁
    exact ⟨a, hr, h₂⟩
  · rintro ⟨a, hr, h⟩
    exact ⟨a, s, [], tr, rfl, returns_ofExcept_iff.2 ⟨rfl, hr, rfl⟩, h⟩

theorem returns_performE_bind_iff {op : I.Op} {read : I.Ans op → Except ε α}
    {f : α → Act I ε σ β} {b : β} :
    Returns (performE op read >>= f) s tr b s' ↔
      ∃ r a tr', tr = ⟨op, r⟩ :: tr' ∧ read r = .ok a ∧ Returns (f a) s tr' b s' := by
  rw [returns_bind_iff]
  constructor
  · rintro ⟨a, s₁, tr₁, tr₂, rfl, h₁, h₂⟩
    obtain ⟨r, rfl, hread, rfl⟩ := returns_performE_iff.1 h₁
    exact ⟨r, a, tr₂, rfl, hread, h₂⟩
  · rintro ⟨r, a, tr', rfl, hread, h⟩
    exact ⟨a, s, [⟨op, r⟩], tr', rfl, returns_performE_iff.2 ⟨r, rfl, hread, rfl⟩, h⟩

theorem returns_ite_throw_iff {c : Prop} [Decidable c] {e : ε} :
    Returns (if c then throw e else x) s tr a s' ↔ ¬ c ∧ Returns x s tr a s' := by
  split
  · rename_i hc
    simp [hc]
  · rename_i hc
    simp [hc]

theorem returns_tryCatch_iff {h : ε → Act I ε σ α} {g : ε → ε} (hraise : ∀ e, h e = throw (g e)) :
    Returns (tryCatch x h) s tr a s' ↔ Returns x s tr a s' := by
  refine runs_bind_iff.trans ?_
  constructor
  · rintro ⟨⟨r, s₁⟩, tr₁, tr₂, rfl, h₁, h₂⟩
    cases r with
    | error e =>
        have h₂ : Returns (h e) s₁ tr₂ a s' := h₂
        rw [hraise] at h₂
        exact absurd h₂ not_returns_throw
    | ok b =>
        cases h₂
        rwa [List.append_nil]
  · intro hx
    exact ⟨(.ok a, s'), tr, [], by simp, hx, .ret _⟩

end Act

end Interaction
