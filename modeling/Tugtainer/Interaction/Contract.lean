import Tugtainer.Interaction.Program

/-!
# Rely/guarantee contracts

A contract reads the events of a run one after the other and keeps a state of
type `W`. In each state it says which answers the environment may give
(`rely`) and which operations the program may issue (`guar`). `Prog.wp C p Q w`
is the weakest precondition of the program `p` for the postcondition `Q`: every
operation that `p` issues is guaranteed, and `Q` holds at the end, as long as
the answers are the ones relied on.

The two soundness theorems read it on the runs of the program: `Prog.wp_sound`
for the final state and `Prog.wp_guar` for the state before each event.
-/

namespace Interaction

/-- What the environment may answer and what the program may ask, in every
state of an observer of the run. -/
structure Contract (I : Interface) (W : Type) where
  next : W → Event I → W
  rely : W → Event I → Prop
  guar : W → I.Op → Prop

namespace Contract

variable {I : Interface} {W : Type}

/-- The state of the observer after a trace. -/
def after (C : Contract I W) (w : W) (tr : Trace I) : W :=
  tr.foldl C.next w

/-- The observer of a task that is of one of two kinds. -/
def sum {V : Type} (C : Contract I W) (D : Contract I V) : Contract I (W ⊕ V) where
  next v e := v.map (C.next · e) (D.next · e)
  rely v e := v.elim (C.rely · e) (D.rely · e)
  guar v op := v.elim (C.guar · op) (D.guar · op)

/-- The contract of an environment of which more is known. -/
def restrict (C : Contract I W) (ok : Event I → Prop) : Contract I W where
  next := C.next
  rely w e := C.rely w e ∧ ok e
  guar := C.guar

/-- Every answer of the trace is one that the contract relies on. -/
def Accepts (C : Contract I W) : W → Trace I → Prop
  | _, [] => True
  | w, e :: tr => C.rely w e ∧ C.Accepts (C.next w e) tr

@[simp] theorem after_nil (C : Contract I W) (w : W) : C.after w [] = w := rfl

@[simp] theorem after_cons (C : Contract I W) (w : W) (e : Event I)
    (tr : Trace I) : C.after w (e :: tr) = C.after (C.next w e) tr := rfl

@[simp] theorem accepts_nil (C : Contract I W) (w : W) : C.Accepts w [] := trivial

@[simp] theorem accepts_cons (C : Contract I W) (w : W) (e : Event I)
    (tr : Trace I) :
    C.Accepts w (e :: tr) ↔ C.rely w e ∧ C.Accepts (C.next w e) tr := Iff.rfl

theorem accepts_restrict_iff {C : Contract I W} {ok : Event I → Prop} {w : W} {tr : Trace I} :
    (C.restrict ok).Accepts w tr ↔ C.Accepts w tr ∧ ∀ e ∈ tr, ok e := by
  induction tr generalizing w with
  | nil => simp
  | cons e tr ih =>
      rw [accepts_cons, accepts_cons, ih, List.forall_mem_cons]
      exact and_and_and_comm

end Contract

namespace Prog

variable {I : Interface} {W α β : Type}

/-- The weakest precondition of a program under a contract. -/
def wp (C : Contract I W) : Prog I α → (α → W → Prop) → W → Prop
  | .ret a, Q, w => Q a w
  | .call op k, Q, w =>
      C.guar w op ∧ ∀ r, C.rely w ⟨op, r⟩ → (k r).wp C Q (C.next w ⟨op, r⟩)

variable {C : Contract I W}

@[simp] theorem wp_ret (a : α) (Q : α → W → Prop) (w : W) :
    (Prog.ret a).wp C Q w ↔ Q a w := Iff.rfl

@[simp] theorem wp_call (op : I.Op) (k : I.Ans op → Prog I α)
    (Q : α → W → Prop) (w : W) :
    (Prog.call op k).wp C Q w ↔
      C.guar w op ∧
        ∀ r, C.rely w ⟨op, r⟩ → (k r).wp C Q (C.next w ⟨op, r⟩) := Iff.rfl

theorem wp_bind (p : Prog I α) (f : α → Prog I β) (Q : β → W → Prop) (w : W) :
    (p.bind f).wp C Q w ↔ p.wp C (fun a w' => (f a).wp C Q w') w := by
  induction p generalizing w with
  | ret a => exact Iff.rfl
  | call op k ih =>
      rw [call_bind, wp_call, wp_call]
      exact and_congr_right fun _ => forall_congr' fun r => imp_congr_right fun _ => ih r _

theorem wp_mono {p : Prog I α} {Q Q' : α → W → Prop} {w : W}
    (h : p.wp C Q w) (hQ : ∀ a w', Q a w' → Q' a w') : p.wp C Q' w := by
  induction p generalizing w with
  | ret a => exact hQ a w h
  | call op k ih => exact ⟨h.1, fun r hr => ih r (h.2 r hr)⟩

theorem wp_and {p : Prog I α} {Q Q' : α → W → Prop} {w : W}
    (h : p.wp C Q w) (h' : p.wp C Q' w) :
    p.wp C (fun a w' => Q a w' ∧ Q' a w') w := by
  induction p generalizing w with
  | ret a => exact ⟨h, h'⟩
  | call op k ih => exact ⟨h.1, fun r hr => ih r (h.2 r hr) (h'.2 r hr)⟩

theorem wp_restrict {p : Prog I α} {Q : α → W → Prop} {w : W} (h : p.wp C Q w)
    (ok : Event I → Prop) : p.wp (C.restrict ok) Q w := by
  induction p generalizing w with
  | ret a => exact h
  | call op k ih => exact ⟨h.1, fun r hr => ih r (h.2 r hr.1)⟩

theorem wp_sum_inl {V : Type} {D : Contract I V} {p : Prog I α} {Q : α → W ⊕ V → Prop} {w : W}
    (h : p.wp C (fun a w' => Q a (.inl w')) w) : p.wp (C.sum D) Q (.inl w) := by
  induction p generalizing w with
  | ret a => exact h
  | call op k ih => exact ⟨h.1, fun r hr => ih r (h.2 r hr)⟩

theorem wp_sum_inr {V : Type} {D : Contract I V} {p : Prog I α} {Q : α → W ⊕ V → Prop} {v : V}
    (h : p.wp D (fun a v' => Q a (.inr v')) v) : p.wp (C.sum D) Q (.inr v) := by
  induction p generalizing v with
  | ret a => exact h
  | call op k ih => exact ⟨h.1, fun r hr => ih r (h.2 r hr)⟩

/-- The postcondition holds at the end of every run whose answers are relied
on. -/
theorem wp_sound {p : Prog I α} {Q : α → W → Prop} {w : W} {tr : Trace I} {a : α}
    (h : p.wp C Q w) (hrun : Runs p tr a) (hacc : C.Accepts w tr) :
    Q a (C.after w tr) := by
  induction hrun generalizing w with
  | ret a => exact h
  | call _ ih => exact ih (h.2 _ hacc.1) hacc.2

/-- Every event of a run is guaranteed in the state before it, as long as the
answers up to it are relied on. -/
theorem wp_guar {p : Prog I α} {Q : α → W → Prop} {w : W} {tr : Trace I} {a : α}
    (h : p.wp C Q w) (hrun : Runs p tr a) {pre post : Trace I} {e : Event I}
    (htr : tr = pre ++ e :: post) (hacc : C.Accepts w pre) :
    C.guar (C.after w pre) e.op := by
  induction hrun generalizing w pre with
  | ret a => simp at htr
  | @call op k r tr a hrun ih =>
      cases pre with
      | nil =>
          obtain ⟨rfl, rfl⟩ := List.cons.inj htr
          exact h.1
      | cons e' pre =>
          obtain ⟨rfl, rfl⟩ := List.cons.inj htr
          exact ih (h.2 _ hacc.1) rfl hacc.2

/-- Where every operation may be issued, the weakest precondition says what holds at the end
of every run. -/
theorem wp_iff_runs (hguar : ∀ w op, C.guar w op) {p : Prog I α} {Q : α → W → Prop} {w : W} :
    p.wp C Q w ↔ ∀ tr a, Runs p tr a → C.Accepts w tr → Q a (C.after w tr) := by
  refine ⟨fun h tr a => wp_sound h, fun h => ?_⟩
  induction p generalizing w with
  | ret a => exact h [] a (.ret a) trivial
  | call op k ih =>
      refine ⟨hguar w op, fun r hr => ih r fun tr a hrun hacc => ?_⟩
      exact h (⟨op, r⟩ :: tr) a (.call hrun) ⟨hr, hacc⟩

/-! ## Answers of one's own -/

variable {S : Type} {next : S → Event I → S} {reply : S → (op : I.Op) → Option (I.Ans op)}

/-- Run a program against an environment that need not know every answer. -/
def answer (next : S → Event I → S) (reply : S → (op : I.Op) → Option (I.Ans op)) :
    Prog I α → S → Option (Trace I × α × S)
  | .ret a, s => some ([], a, s)
  | .call op k, s =>
      (reply s op).bind fun r =>
        ((k r).answer next reply (next s ⟨op, r⟩)).map fun res => (⟨op, r⟩ :: res.1, res.2)

theorem answer_sound {view : S → W}
    (hreply : ∀ s op r, reply s op = some r →
      C.rely (view s) ⟨op, r⟩ ∧ C.next (view s) ⟨op, r⟩ = view (next s ⟨op, r⟩))
    {p : Prog I α} {s s' : S} {tr : Trace I} {a : α}
    (h : p.answer next reply s = some (tr, a, s')) :
    Runs p tr a ∧ C.Accepts (view s) tr ∧ C.after (view s) tr = view s' := by
  induction p generalizing s tr with
  | ret =>
      cases h
      exact ⟨.ret _, trivial, rfl⟩
  | call op k ih =>
      obtain ⟨r, hr, h⟩ := Option.bind_eq_some_iff.1 h
      obtain ⟨⟨tr, b, s₁⟩, hrest, heq⟩ := Option.map_eq_some_iff.1 h
      cases heq
      obtain ⟨hrely, hnext⟩ := hreply s op r hr
      obtain ⟨hrun, hacc, hafter⟩ := ih r hrest
      exact ⟨.call hrun, ⟨hrely, hnext ▸ hacc⟩, by rw [Contract.after_cons, hnext, hafter]⟩

end Prog

end Interaction
