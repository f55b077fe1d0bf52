import Tugtainer.Interaction.History

/-!
# Actions that keep to some operations

`Act.Keeps rely guar J V x` says that `x` issues only operations in `guar`, keeps
the invariant `J` of its state whether it returns or raises, and returns values
in `V`. There is one rule for each construct, so such a fact is proved along the
text of the action, and `Act.Keeps.frame` turns it into a precondition under any
contract: an assertion that the operations in `guar` cannot touch still holds
after `x`.

`Act.NeverRaises x` says that `x` returns whatever it is answered, as an action
does whose `try` blocks record what their bodies raise.
-/

namespace Interaction

namespace Act

variable {I : Interface} {ε σ τ α β W : Type}

/-- The action keeps to the operations in `guar` and to the invariant `J`, and
returns values in `V`. -/
def Keeps (rely : Event I → Prop) (guar : I.Op → Prop) (J : σ → Prop) (V : α → Prop)
    (x : Act I ε σ α) : Prop :=
  ∀ s, J s → wp (.stateless rely guar) x (fun a s' _ => V a ∧ J s') (fun _ s' _ => J s') s ()

namespace Keeps

variable {rely : Event I → Prop} {guar guar' : I.Op → Prop} {J : σ → Prop}
  {V : α → Prop} {V' : β → Prop} {x : Act I ε σ α} {f : α → Act I ε σ β}

theorem pure {a : α} (h : V a) : Keeps rely guar J V (pure a : Act I ε σ α) :=
  fun _ hs => ⟨h, hs⟩

theorem throw {e : ε} : Keeps rely guar J V (throw e : Act I ε σ α) :=
  fun _ hs => hs

theorem get : Keeps rely guar J J (get : Act I ε σ σ) :=
  fun _ hs => ⟨hs, hs⟩

theorem modify {g : σ → σ} (h : ∀ s, J s → J (g s)) :
    Keeps rely guar J (fun _ => True) (modify g : Act I ε σ Unit) :=
  fun s hs => ⟨trivial, h s hs⟩

theorem ofExcept {r : Except ε α} (h : ∀ a, r = .ok a → V a) :
    Keeps rely guar J V (ofExcept r : Act I ε σ α) := by
  intro s hs
  rw [wp_ofExcept]
  cases r with
  | ok a => exact ⟨h a rfl, hs⟩
  | error e => exact hs

theorem perform {op : I.Op} (h : guar op) :
    Keeps rely guar J (fun r => rely ⟨op, r⟩) (perform op : Act I ε σ (I.Ans op)) :=
  fun _ hs => ⟨h, fun _ hr => ⟨hr, hs⟩⟩

theorem performE {op : I.Op} {read : I.Ans op → Except ε α} (h : guar op)
    (hV : ∀ r a, rely ⟨op, r⟩ → read r = .ok a → V a) :
    Keeps rely guar J V (performE op read : Act I ε σ α) := by
  refine fun s hs => ⟨h, fun r hr => ?_⟩
  cases hread : read r with
  | ok a => exact (Prog.wp_ret _ _ _).2 (by simpa [hread] using ⟨hV r a hr hread, hs⟩)
  | error e => exact (Prog.wp_ret _ _ _).2 (by simpa [hread] using hs)

theorem bind (hx : Keeps rely guar J V x) (hf : ∀ a, V a → Keeps rely guar J V' (f a)) :
    Keeps rely guar J V' (x >>= f) :=
  fun s hs => wp_seq _ (hx s hs) fun a s' _ h => hf a h.1 s' h.2

theorem tryCatch {h : ε → Act I ε σ α} (hx : Keeps rely guar J V x)
    (hh : ∀ e, Keeps rely guar J V (h e)) : Keeps rely guar J V (tryCatch x h) :=
  fun s hs => wp_try _ (hx s hs) fun e s' _ h => hh e s' h

theorem ite {c : Prop} [Decidable c] {y : Act I ε σ α} (hx : c → Keeps rely guar J V x)
    (hy : ¬ c → Keeps rely guar J V y) : Keeps rely guar J V (if c then x else y) := by
  by_cases h : c
  · rw [if_pos h]
    exact hx h
  · rw [if_neg h]
    exact hy h

theorem whenA {c : Bool} {x : Act I ε σ Unit} (hx : Keeps rely guar J (fun _ => True) x) :
    Keeps rely guar J (fun _ => True) (whenA c x) :=
  ite (fun _ => hx) fun _ => pure trivial

theorem mono {V'' : α → Prop} (hx : Keeps rely guar J V x) (hV : ∀ a, V a → V'' a)
    (hguar : ∀ op, guar op → guar' op) : Keeps rely guar' J V'' x := by
  intro s hs
  refine wp_mono (Act.wp_frame (hx s hs) (fun _ : Unit => True) (fun _ _ h => h)
    (fun _ op _ h => hguar op h) (fun _ _ _ _ _ => trivial) trivial) ?_ ?_
  · exact fun a s' _ h => ⟨hV a h.1.1, h.1.2⟩
  · exact fun e s' _ h => h.1

theorem forM {g : α → Act I ε σ Unit} {l : List α}
    (h : ∀ a ∈ l, Keeps rely guar J (fun _ => True) (g a)) :
    Keeps rely guar J (fun _ => True) (l.forM g) := by
  induction l with
  | nil => exact pure trivial
  | cons a l ih =>
      exact bind (h a (by simp)) fun _ _ => ih fun b hb => h b (by simp [hb])

theorem exists_ {ι : Type*} {p : ι → Prop} {J : ι → σ → Prop}
    (h : ∀ i, p i → Keeps rely guar (J i) V x) :
    Keeps rely guar (fun s => ∃ i, p i ∧ J i s) V x := by
  rintro s ⟨i, hi, hs⟩
  exact wp_mono (h i hi s hs) (fun _ _ _ hs' => ⟨hs'.1, i, hi, hs'.2⟩) fun _ _ _ hs' => ⟨i, hi, hs'⟩

theorem frame (hx : Keeps rely guar J V x) {C : Contract I W} (A : W → Prop)
    (hrely : ∀ w e, C.rely w e → rely e) (hguar : ∀ w op, A w → guar op → C.guar w op)
    (hnext : ∀ w e, A w → guar e.op → C.rely w e → A (C.next w e)) {s : σ} {w : W}
    (hs : J s) (hw : A w) :
    wp C x (fun a s' w' => V a ∧ J s' ∧ A w') (fun _ s' w' => J s' ∧ A w') s w :=
  wp_mono (Act.wp_frame (hx s hs) A hrely hguar hnext hw)
    (fun _ _ _ h => ⟨h.1.1, h.1.2, h.2⟩) fun _ _ _ h => h

end Keeps

end Act

namespace Prog

variable {I : Interface} {α β W : Type}

/-- Every value that the program may return satisfies `P`. -/
def All (P : α → Prop) : Prog I α → Prop
  | .ret a => P a
  | .call _ k => ∀ r, (k r).All P

theorem All.bind {P : α → Prop} {P' : β → Prop} {p : Prog I α} {f : α → Prog I β}
    (h : p.All P) (hf : ∀ a, P a → (f a).All P') : (p.bind f).All P' := by
  induction p with
  | ret a => exact hf a h
  | call op k ih => exact fun r => ih r (h r)

theorem wp_all {P : α → Prop} {p : Prog I α} {C : Contract I W} {Q : α → W → Prop} {w : W}
    (h : p.wp C Q w) (hall : p.All P) : p.wp C (fun a w' => Q a w' ∧ P a) w := by
  induction p generalizing w with
  | ret a => exact ⟨h, hall⟩
  | call op k ih => exact ⟨h.1, fun r hr => ih r (h.2 r hr) (hall r)⟩

end Prog

namespace Act

variable {I : Interface} {ε σ τ α β W : Type}

def NeverRaises (x : Act I ε σ α) : Prop :=
  ∀ s, (x s).All fun r => ∃ a, r.1 = .ok a

namespace NeverRaises

variable {x : Act I ε σ α} {f : α → Act I ε σ β}

theorem pure (a : α) : NeverRaises (pure a : Act I ε σ α) := fun _ => ⟨a, rfl⟩

theorem get : NeverRaises (get : Act I ε σ σ) := fun s => ⟨s, rfl⟩

theorem modify (g : σ → σ) : NeverRaises (modify g : Act I ε σ Unit) := fun _ => ⟨(), rfl⟩

theorem perform (op : I.Op) : NeverRaises (perform op : Act I ε σ (I.Ans op)) :=
  fun _ r => ⟨r, rfl⟩

theorem bind (hx : NeverRaises x) (hf : ∀ a, NeverRaises (f a)) : NeverRaises (x >>= f) := by
  intro s
  refine Prog.All.bind (hx s) ?_
  rintro ⟨_, s'⟩ ⟨a, rfl⟩
  exact hf a s'

theorem tryCatch {h : ε → Act I ε σ α} (hh : ∀ e, NeverRaises (h e)) :
    NeverRaises (tryCatch x h) := by
  intro s
  have hall : (x s).All fun _ => True := by
    induction x s with
    | ret a => trivial
    | call op k ih => exact ih
  refine Prog.All.bind hall ?_
  rintro ⟨e | a, s'⟩ -
  · exact hh e s'
  · exact ⟨a, rfl⟩

theorem ite {c : Prop} [Decidable c] {y : Act I ε σ α} (hx : NeverRaises x)
    (hy : NeverRaises y) : NeverRaises (if c then x else y) := by
  split
  · exact hx
  · exact hy

theorem whenA {c : Bool} {x : Act I ε σ Unit} (hx : NeverRaises x) : NeverRaises (whenA c x) :=
  ite hx (pure ())

theorem zoom {get : τ → σ} {put : σ → τ → τ} (hx : NeverRaises x) :
    NeverRaises (zoom get put x) := by
  refine fun t => Prog.All.bind (hx (get t)) ?_
  rintro ⟨_, s'⟩ ⟨a, rfl⟩
  exact ⟨a, rfl⟩

theorem forM {g : α → Act I ε σ Unit} {l : List α} (h : ∀ a, NeverRaises (g a)) :
    NeverRaises (l.forM g) := by
  induction l with
  | nil => exact pure ()
  | cons a l ih => exact bind (h a) fun _ => ih

theorem wp {C : Contract I W} {Q : α → σ → W → Prop} {E E' : ε → σ → W → Prop} {s : σ} {w : W}
    (hx : NeverRaises x) (h : wp C x Q E s w) : Act.wp C x Q E' s w := by
  refine Prog.wp_mono (Prog.wp_all h (hx s)) ?_
  rintro ⟨_, s'⟩ w' ⟨hQ, a, rfl⟩
  exact hQ

end NeverRaises

end Act

end Interaction
