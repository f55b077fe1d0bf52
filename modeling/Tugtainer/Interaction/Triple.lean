import Tugtainer.Interaction.Issues

/-!
# Triples

`Act.Triple C P x Q R`: from an observer's state in `P`, the action `x` ends in `Q` when
it returns and in `R` when it raises, whatever its local state is. There is one rule for
each construct of the language, which takes the assertion in between from the caller.
-/

namespace Interaction

variable {I : Interface} {ε σ τ α β W : Type}

namespace Act

/-- From `P` the action ends in `Q` when it returns and in `R` when it raises. -/
def Triple (C : Contract I W) (P : W → Prop) (x : Act I ε σ α) (Q R : W → Prop) : Prop :=
  ∀ s w, P w → wp C x (fun _ _ => Q) (fun _ _ => R) s w

namespace Triple

variable {C : Contract I W} {P P' Q Q' R R' : W → Prop} {x y : Act I ε σ α}
  {f : α → Act I ε σ β}

theorem mono (h : Triple C P x Q R) (hP : ∀ w, P' w → P w) (hQ : ∀ w, Q w → Q' w)
    (hR : ∀ w, R w → R' w) : Triple C P' x Q' R' :=
  fun s w hw => wp_mono (h s w (hP w hw)) (fun _ _ => hQ) fun _ _ => hR

theorem pure (a : α) (h : ∀ w, P w → Q w) : Triple C P (pure a : Act I ε σ α) Q R :=
  fun _ w hw => h w hw

theorem throw (e : ε) (h : ∀ w, P w → R w) : Triple C P (throw e : Act I ε σ α) Q R :=
  fun _ w hw => h w hw

theorem ofExcept (r : Except ε α) (hok : ∀ w, P w → Q w) (herror : ∀ w, P w → R w) :
    Triple C P (ofExcept r : Act I ε σ α) Q R := by
  cases r with
  | ok a => exact fun _ w hw => hok w hw
  | error e => exact fun _ w hw => herror w hw

theorem get (h : ∀ w, P w → Q w) : Triple C P (get : Act I ε σ σ) Q R :=
  fun _ w hw => h w hw

theorem set (s' : σ) (h : ∀ w, P w → Q w) : Triple C P (set s' : Act I ε σ Unit) Q R :=
  fun _ w hw => h w hw

theorem modify (g : σ → σ) (h : ∀ w, P w → Q w) :
    Triple C P (modify g : Act I ε σ Unit) Q R :=
  fun _ w hw => h w hw

theorem perform {op : I.Op}
    (h : ∀ w, P w → C.guar w op ∧ ∀ r, C.rely w ⟨op, r⟩ → Q (C.next w ⟨op, r⟩)) :
    Triple C P (perform op : Act I ε σ (I.Ans op)) Q R :=
  fun _ w hw => h w hw

theorem performE {op : I.Op} {read : I.Ans op → Except ε α} (hguar : ∀ w, P w → C.guar w op)
    (hok : ∀ w r a, P w → C.rely w ⟨op, r⟩ → read r = .ok a → Q (C.next w ⟨op, r⟩))
    (herror : ∀ w r e, P w → C.rely w ⟨op, r⟩ → read r = .error e → R (C.next w ⟨op, r⟩)) :
    Triple C P (performE op read : Act I ε σ α) Q R := by
  refine fun s w hw => ⟨hguar w hw, fun r hr => ?_⟩
  cases hread : read r with
  | ok a => exact (Prog.wp_ret _ _ _).2 (by simpa [hread] using hok w r a hw hr hread)
  | error e => exact (Prog.wp_ret _ _ _).2 (by simpa [hread] using herror w r e hw hr hread)

theorem perform_bind {op : I.Op} {f : I.Ans op → Act I ε σ β} (hguar : ∀ w, P w → C.guar w op)
    (hf : ∀ r, Triple C (fun w' => ∃ w, P w ∧ C.rely w ⟨op, r⟩ ∧ w' = C.next w ⟨op, r⟩) (f r)
      Q' R) :
    Triple C P (Act.perform op >>= f) Q' R :=
  fun s w hw => ⟨hguar w hw, fun r hr => hf r s _ ⟨w, hw, hr, rfl⟩⟩

theorem bind (hx : Triple C P x Q R) (hf : ∀ a, Triple C Q (f a) Q' R) :
    Triple C P (x >>= f) Q' R :=
  fun s w hw => wp_seq _ (hx s w hw) fun a s' w' h => hf a s' w' h

theorem bind_of_wp {Q : α → W → Prop}
    (hx : ∀ s w, P w → wp C x (fun a _ => Q a) (fun _ _ => R) s w)
    (hf : ∀ a, Triple C (Q a) (f a) Q' R) : Triple C P (x >>= f) Q' R :=
  fun s w hw => wp_seq _ (hx s w hw) fun a s' w' h => hf a s' w' h

theorem tryCatch {h : ε → Act I ε σ α} (hx : Triple C P x Q R)
    (hh : ∀ e, Triple C R (h e) Q R') : Triple C P (tryCatch x h) Q R' :=
  fun s w hw => wp_try _ (hx s w hw) fun e s' w' h' => hh e s' w' h'

theorem ite_of {c : Prop} [Decidable c] (hx : c → Triple C P x Q R)
    (hy : ¬ c → Triple C P y Q R) : Triple C P (if c then x else y) Q R := by
  split
  · exact hx ‹_›
  · exact hy ‹_›

theorem ite {c : Prop} [Decidable c] (hx : Triple C P x Q R) (hy : Triple C P y Q R) :
    Triple C P (if c then x else y) Q R :=
  ite_of (fun _ => hx) fun _ => hy

theorem whenA {c : Bool} {x : Act I ε σ Unit} (hx : Triple C P x P R) :
    Triple C P (whenA c x) P R :=
  ite hx (pure () fun _ h => h)

theorem forM {g : α → Act I ε σ Unit} {l : List α} (h : ∀ a, Triple C P (g a) P R) :
    Triple C P (l.forM g) P R := by
  induction l with
  | nil => exact pure () fun _ h => h
  | cons a l ih => exact bind (h a) fun _ => ih

theorem zoom {x : Act I ε σ α} {get : τ → σ} {put : σ → τ → τ} (hx : Triple C P x Q R) :
    Triple C P (zoom get put x) Q R :=
  fun t w hw => (wp_zoom get put x).2 (hx (get t) w hw)

theorem of_issues {guar : I.Op → Prop} (hx : Issues guar x)
    (hguar : ∀ w op, P w → guar op → C.guar w op)
    (hnext : ∀ w e, P w → guar e.op → C.rely w e → P (C.next w e)) : Triple C P x P P :=
  fun _ _ hw => hx.wp hguar hnext hw

theorem of_guar (hguar : ∀ w op, C.guar w op) (x : Act I ε σ α) :
    Triple C P x (fun _ => True) fun _ => True :=
  have hx : Issues (fun _ => True) x := fun s => (x s).issues_true
  fun _ _ _ => hx.wp (A := fun _ => True) (fun w op _ _ => hguar w op)
    (fun _ _ _ _ _ => trivial) trivial

end Triple

end Act

end Interaction
