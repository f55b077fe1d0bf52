import Tugtainer.Interaction.Interpret
import Tugtainer.Interaction.Keeps

/-!
# Which operations an action issues

`Act.Issues guar x` says that every operation of `x` is in `guar`, whatever it is
answered. There is one rule for each construct of the language, so such a fact is proved
along the text of the action. What operations in `guar` leave alone, the action keeps:
`Act.Issues.wp`.
-/

namespace Interaction

variable {I : Interface} {ε σ τ α β W : Type}

namespace Prog

/-- Every operation of the program is in `guar`. -/
def Issues (guar : I.Op → Prop) : Prog I α → Prop
  | .ret _ => True
  | .call op k => guar op ∧ ∀ r, (k r).Issues guar

variable {guar : I.Op → Prop} {p : Prog I α}

theorem Issues.mono {guar₁ guar₂ : I.Op → Prop} (hp : p.Issues guar₁)
    (h : ∀ op, guar₁ op → guar₂ op) : p.Issues guar₂ := by
  induction p with
  | ret a => trivial
  | call op k ih => exact ⟨h op hp.1, fun r => ih r (hp.2 r)⟩

theorem Issues.bind {f : α → Prog I β} (hp : p.Issues guar) (hf : ∀ a, (f a).Issues guar) :
    (p.bind f).Issues guar := by
  induction p with
  | ret a => exact hf a
  | call op k ih => exact ⟨hp.1, fun r => ih r (hp.2 r)⟩

theorem issues_true (p : Prog I α) : p.Issues fun _ => True := by
  induction p with
  | ret a => trivial
  | call op k ih => exact ⟨trivial, ih⟩

theorem Issues.wp_and {rely : Event I → Prop} {guar' : I.Op → Prop}
    {Q : α → Unit → Prop} (hp : p.Issues guar) (h : p.wp (.stateless rely guar') Q ()) :
    p.wp (.stateless rely fun op => guar' op ∧ guar op) Q () := by
  induction p with
  | ret a => exact h
  | call op k ih => exact ⟨⟨h.1, hp.1⟩, fun r hr => ih r (hp.2 r) (h.2 r hr)⟩

theorem Issues.wp (hp : p.Issues guar) {C : Contract I W} {A : W → Prop}
    (hguar : ∀ w op, A w → guar op → C.guar w op)
    (hnext : ∀ w e, A w → guar e.op → C.rely w e → A (C.next w e)) {w : W} (hw : A w) :
    p.wp C (fun _ => A) w := by
  induction p generalizing w with
  | ret a => exact hw
  | call op k ih =>
      exact ⟨hguar w op hw hp.1, fun r hr => ih r (hp.2 r) (hnext w ⟨op, r⟩ hw hp.1 hr)⟩

end Prog

namespace Act

/-- Every operation of the action is in `guar`. -/
def Issues (guar : I.Op → Prop) (x : Act I ε σ α) : Prop :=
  ∀ s, (x s).Issues guar

variable {guar : I.Op → Prop} {x y : Act I ε σ α} {f : α → Act I ε σ β}

theorem Issues.mono {guar' : I.Op → Prop} (hx : Issues guar x) (h : ∀ op, guar op → guar' op) :
    Issues guar' x :=
  fun s => (hx s).mono h

theorem Keeps.and_issues {rely : Event I → Prop} {guar' : I.Op → Prop} {J : σ → Prop}
    {V : α → Prop} (hx : Keeps rely guar' J V x) (hi : Issues guar x) :
    Keeps rely (fun op => guar' op ∧ guar op) J V x :=
  fun s hs => (hi s).wp_and (hx s hs)

theorem issues_pure (a : α) : Issues guar (pure a : Act I ε σ α) := fun _ => trivial

theorem issues_throw (e : ε) : Issues guar (throw e : Act I ε σ α) := fun _ => trivial

theorem issues_get : Issues guar (get : Act I ε σ σ) := fun _ => trivial

theorem issues_modify (g : σ → σ) : Issues guar (modify g : Act I ε σ Unit) :=
  fun _ => trivial

theorem issues_ofExcept (r : Except ε α) : Issues guar (ofExcept r : Act I ε σ α) :=
  fun _ => trivial

theorem issues_perform {op : I.Op} (h : guar op) :
    Issues guar (perform op : Act I ε σ (I.Ans op)) :=
  fun _ => ⟨h, fun _ => trivial⟩

theorem issues_performE {op : I.Op} {read : I.Ans op → Except ε α} (h : guar op) :
    Issues guar (performE op read : Act I ε σ α) :=
  fun _ => ⟨h, fun _ => trivial⟩

theorem issues_bind (hx : Issues guar x) (hf : ∀ a, Issues guar (f a)) :
    Issues guar (x >>= f) := by
  refine fun s => (hx s).bind ?_
  rintro ⟨_ | a, s'⟩
  · trivial
  · exact hf a s'

theorem issues_tryCatch {h : ε → Act I ε σ α} (hx : Issues guar x)
    (hh : ∀ e, Issues guar (h e)) : Issues guar (tryCatch x h) := by
  refine fun s => (hx s).bind ?_
  rintro ⟨e | _, s'⟩
  · exact hh e s'
  · trivial

theorem issues_ite {c : Prop} [Decidable c] (hx : Issues guar x) (hy : Issues guar y) :
    Issues guar (if c then x else y) := by
  split
  · exact hx
  · exact hy

theorem issues_whenA {c : Bool} {x : Act I ε σ Unit} (hx : Issues guar x) :
    Issues guar (whenA c x) :=
  issues_ite hx (issues_pure ())

theorem issues_zoom {x : Act I ε σ α} {get : τ → σ} {put : σ → τ → τ}
    (hx : Issues guar x) : Issues guar (zoom get put x) :=
  fun t => (hx (get t)).bind fun _ => trivial

theorem issues_forM_of_mem {g : α → Act I ε σ Unit} {l : List α}
    (h : ∀ a ∈ l, Issues guar (g a)) : Issues guar (l.forM g) := by
  induction l with
  | nil => exact issues_pure ()
  | cons a l ih => exact issues_bind (h a (by simp)) fun _ => ih fun b hb => h b (by simp [hb])

theorem issues_forM {g : α → Act I ε σ Unit} {l : List α} (h : ∀ a, Issues guar (g a)) :
    Issues guar (l.forM g) :=
  issues_forM_of_mem fun a _ => h a

theorem Issues.wp (hx : Issues guar x) {C : Contract I W} {A : W → Prop}
    (hguar : ∀ w op, A w → guar op → C.guar w op)
    (hnext : ∀ w e, A w → guar e.op → C.rely w e → A (C.next w e)) {s : σ} {w : W} (hw : A w) :
    wp C x (fun _ _ => A) (fun _ _ => A) s w := by
  refine Prog.wp_mono ((hx s).wp hguar hnext hw) ?_
  rintro ⟨_ | _, _⟩ _ h <;> exact h

end Act

end Interaction
