import Tugtainer.Interaction.Action

/-!
# Interpreting one interface in another

`Prog.interp h p` carries out every operation of `p` by a program over a second
interface. A fact about `p` under a contract on its own interface is a fact about
the interpreted program, as soon as each operation is carried out as that contract
says: this is `Prog.wp_interp`, with a relation between the states of the two
observers.
-/

namespace Interaction

variable {I J : Interface} {V W α ε σ : Type}

namespace Prog

/-- Carry out every operation by a program over another interface. -/
def interp (h : (op : I.Op) → Prog J (I.Ans op)) : Prog I α → Prog J α
  | .ret a => .ret a
  | .call op k => (h op).bind fun r => (k r).interp h

/-- What a program does under a contract on its own interface, it does when it is
interpreted, if each operation is carried out as the contract says. -/
theorem wp_interp {h : (op : I.Op) → Prog J (I.Ans op)} {C : Contract J W} {D : Contract I V}
    (R : W → V → Prop)
    (hop : ∀ op w v, R w v → D.guar v op →
      (h op).wp C (fun r w' => D.rely v ⟨op, r⟩ ∧ R w' (D.next v ⟨op, r⟩)) w)
    {p : Prog I α} {Q : α → V → Prop} {w : W} {v : V} (hp : p.wp D Q v) (hR : R w v) :
    (p.interp h).wp C (fun a w' => ∃ v', R w' v' ∧ Q a v') w := by
  induction p generalizing w v with
  | ret a => exact ⟨v, hR, hp⟩
  | call op k ih =>
      refine (wp_bind _ _ _ _).2 (wp_mono (hop op w v hR hp.1) ?_)
      rintro r w' ⟨hrely, hR'⟩
      exact ih r (hp.2 r hrely) hR'

end Prog

namespace Act

/-- Interpret an action, starting from a local state of its own. -/
def interp {τ : Type} (h : (op : I.Op) → Prog J (I.Ans op)) (x : Act I ε σ α) (s : σ) :
    Act J ε τ α := fun t =>
  ((x s).interp h).bind fun r => .ret (r.1, t)

theorem wp_interp {τ : Type} {h : (op : I.Op) → Prog J (I.Ans op)} {C : Contract J W}
    {D : Contract I V} (R : W → V → Prop)
    (hop : ∀ op w v, R w v → D.guar v op →
      (h op).wp C (fun r w' => D.rely v ⟨op, r⟩ ∧ R w' (D.next v ⟨op, r⟩)) w)
    {x : Act I ε σ α} {Q : α → σ → V → Prop} {E : ε → σ → V → Prop} {s : σ} {t : τ} {w : W} {v : V}
    (hx : wp D x Q E s v) (hR : R w v) :
    wp C (interp h x s) (fun a t' w' => t' = t ∧ ∃ s' v', R w' v' ∧ Q a s' v')
      (fun e t' w' => t' = t ∧ ∃ s' v', R w' v' ∧ E e s' v') t w := by
  refine (Prog.wp_bind _ _ _ _).2 (Prog.wp_mono (Prog.wp_interp R hop hx hR) ?_)
  rintro ⟨_ | _, s'⟩ w' ⟨v', hR', h'⟩ <;> exact ⟨rfl, s', v', hR', h'⟩

end Act

end Interaction
