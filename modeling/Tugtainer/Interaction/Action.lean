import Tugtainer.Interaction.Contract

/-!
# Actions: programs with local state that may raise

An action of type `Act I ε σ α` is a program over the interface `I` that reads
and writes a local state `σ` and either returns an `α` or raises an `ε`. What it
wrote before raising stays written, as the assignments of a `try` block do.

The precondition `Act.wp C x Q E s w` asks for `Q` when `x` returns and for `E`
when it raises. Each construct of the language has one rule, and the rules for
`tryCatch` and `bind` take the intermediate assertion from the caller, so that
a long body is proved piece by piece.
-/

namespace Interaction

/-- A program with local state `σ` that may raise an `ε`. -/
def Act (I : Interface) (ε σ α : Type) : Type :=
  σ → Prog I (Except ε α × σ)

namespace Act

variable {I : Interface} {ε σ τ α β W : Type}

/-- Sequential composition: a raise skips the rest. -/
def bind (x : Act I ε σ α) (f : α → Act I ε σ β) : Act I ε σ β := fun s =>
  (x s).bind fun
    | (.ok a, s') => f a s'
    | (.error e, s') => .ret (.error e, s')

/-- `try x except e: h e`. -/
def catchAll (x : Act I ε σ α) (h : ε → Act I ε σ α) : Act I ε σ α := fun s =>
  (x s).bind fun
    | (.ok a, s') => .ret (.ok a, s')
    | (.error e, s') => h e s'

instance : Monad (Act I ε σ) where
  pure a := fun s => .ret (.ok a, s)
  bind := Act.bind

instance : MonadExceptOf ε (Act I ε σ) where
  throw e := fun s => .ret (.error e, s)
  tryCatch := Act.catchAll

instance : MonadStateOf σ (Act I ε σ) where
  get := fun s => .ret (.ok s, s)
  set s' := fun _ => .ret (.ok (), s')
  modifyGet f := fun s => .ret (.ok (f s).1, (f s).2)

/-- Issue an operation that cannot fail. -/
def perform (op : I.Op) : Act I ε σ (I.Ans op) := fun s =>
  .call op fun r => .ret (.ok r, s)

/-- Issue an operation and read its answer as a value or an exception. -/
def performE (op : I.Op) (read : I.Ans op → Except ε α) : Act I ε σ α := fun s =>
  .call op fun r => .ret (read r, s)

/-- Raise the exception of a pure computation, or return its value. -/
def ofExcept (r : Except ε α) : Act I ε σ α := fun s => .ret (r, s)

def zoom (get : τ → σ) (put : σ → τ → τ) (x : Act I ε σ α) : Act I ε τ α := fun t =>
  (x (get t)).bind fun (r, s') => .ret (r, put s' t)

def whenA (c : Bool) (x : Act I ε σ Unit) : Act I ε σ Unit :=
  if c then x else pure ()

theorem bind_assoc {γ : Type} (x : Act I ε σ α) (f : α → Act I ε σ β) (g : β → Act I ε σ γ) :
    x >>= f >>= g = x >>= fun a => f a >>= g := by
  funext s
  refine (Prog.bind_assoc _ _ _).trans (congrArg _ (funext ?_))
  rintro ⟨_ | _, _⟩ <;> rfl

/-- The weakest precondition of an action: `Q` when it returns, `E` when it
raises. -/
def wp (C : Contract I W) (x : Act I ε σ α) (Q : α → σ → W → Prop)
    (E : ε → σ → W → Prop) (s : σ) (w : W) : Prop :=
  (x s).wp C (fun r w' => match r with
    | (.ok a, s') => Q a s' w'
    | (.error e, s') => E e s' w') w

variable {C : Contract I W} {Q : α → σ → W → Prop} {E : ε → σ → W → Prop}
  {s : σ} {w : W}

@[simp] theorem wp_pure (a : α) :
    wp C (pure a : Act I ε σ α) Q E s w ↔ Q a s w := Iff.rfl

@[simp] theorem wp_throw (e : ε) :
    wp C (throw e : Act I ε σ α) Q E s w ↔ E e s w := Iff.rfl

@[simp] theorem wp_get {Q : σ → σ → W → Prop} :
    wp C (get : Act I ε σ σ) Q E s w ↔ Q s s w := Iff.rfl

@[simp] theorem wp_set {Q : Unit → σ → W → Prop} (s' : σ) :
    wp C (set s' : Act I ε σ Unit) Q E s w ↔ Q () s' w := Iff.rfl

@[simp] theorem wp_modify {Q : Unit → σ → W → Prop} (f : σ → σ) :
    wp C (modify f : Act I ε σ Unit) Q E s w ↔ Q () (f s) w := Iff.rfl

@[simp] theorem wp_ofExcept (r : Except ε α) :
    wp C (ofExcept r : Act I ε σ α) Q E s w ↔
      match r with
      | .ok a => Q a s w
      | .error e => E e s w := by
  cases r <;> exact Iff.rfl

@[simp] theorem wp_perform (op : I.Op) {Q : I.Ans op → σ → W → Prop} :
    wp C (perform op : Act I ε σ (I.Ans op)) Q E s w ↔
      C.guar w op ∧ ∀ r, C.rely w ⟨op, r⟩ → Q r s (C.next w ⟨op, r⟩) := Iff.rfl

@[simp] theorem wp_bind (x : Act I ε σ α) (f : α → Act I ε σ β)
    {Q : β → σ → W → Prop} :
    wp C (x >>= f) Q E s w ↔
      wp C x (fun a s' w' => wp C (f a) Q E s' w') E s w := by
  refine (Prog.wp_bind _ _ _ _).trans ?_
  constructor <;> intro h <;> refine Prog.wp_mono h ?_ <;>
    rintro ⟨_ | _, _⟩ w' h' <;> exact h'

@[simp] theorem wp_tryCatch (x : Act I ε σ α) (h : ε → Act I ε σ α) :
    wp C (tryCatch x h) Q E s w ↔
      wp C x Q (fun e s' w' => wp C (h e) Q E s' w') s w := by
  refine (Prog.wp_bind _ _ _ _).trans ?_
  constructor <;> intro h <;> refine Prog.wp_mono h ?_ <;>
    rintro ⟨_ | _, _⟩ w' h' <;> exact h'

@[simp] theorem wp_ite (c : Prop) [Decidable c] (x y : Act I ε σ α) :
    wp C (if c then x else y) Q E s w ↔
      if c then wp C x Q E s w else wp C y Q E s w := by
  split <;> exact Iff.rfl

theorem wp_mono {x : Act I ε σ α} {Q' : α → σ → W → Prop}
    {E' : ε → σ → W → Prop} (h : wp C x Q E s w)
    (hQ : ∀ a s' w', Q a s' w' → Q' a s' w')
    (hE : ∀ e s' w', E e s' w' → E' e s' w') : wp C x Q' E' s w := by
  refine Prog.wp_mono h ?_
  rintro ⟨_ | _, _⟩ w' h'
  · exact hE _ _ _ h'
  · exact hQ _ _ _ h'

theorem wp_restrict {x : Act I ε σ α} (h : wp C x Q E s w) (ok : Event I → Prop) :
    wp (C.restrict ok) x Q E s w :=
  Prog.wp_restrict h ok

theorem wp_and {x : Act I ε σ α} {Q' : α → σ → W → Prop} {E' : ε → σ → W → Prop}
    (h : wp C x Q E s w) (h' : wp C x Q' E' s w) :
    wp C x (fun a s' w' => Q a s' w' ∧ Q' a s' w') (fun e s' w' => E e s' w' ∧ E' e s' w')
      s w := by
  refine Prog.wp_mono (Prog.wp_and h h') ?_
  rintro ⟨_ | _, _⟩ w' h'' <;> exact h''

theorem wp_seq {x : Act I ε σ α} {f : α → Act I ε σ β} {Q : β → σ → W → Prop}
    (R : α → σ → W → Prop) (hx : wp C x R E s w)
    (hf : ∀ a s' w', R a s' w' → wp C (f a) Q E s' w') :
    wp C (x >>= f) Q E s w :=
  (wp_bind x f).2 (wp_mono hx hf fun _ _ _ h => h)

/-- A `try` block through an intermediate assertion for the raises of its
body. -/
theorem wp_try {x : Act I ε σ α} {h : ε → Act I ε σ α} (R : ε → σ → W → Prop)
    (hx : wp C x Q R s w)
    (hh : ∀ e s' w', R e s' w' → wp C (h e) Q E s' w') :
    wp C (tryCatch x h) Q E s w :=
  (wp_tryCatch x h).2 (wp_mono hx (fun _ _ _ h => h) hh)

theorem wp_zoom (get : τ → σ) (put : σ → τ → τ) (x : Act I ε σ α)
    {Q : α → τ → W → Prop} {E : ε → τ → W → Prop} {t : τ} :
    wp C (zoom get put x) Q E t w ↔
      wp C x (fun a s' w' => Q a (put s' t) w')
        (fun e s' w' => E e (put s' t) w') (get t) w := by
  refine (Prog.wp_bind _ _ _ _).trans ?_
  constructor <;> intro h <;> refine Prog.wp_mono h ?_ <;>
    rintro ⟨_ | _, _⟩ w' h' <;> exact h'

/-- A loop over a list keeps an invariant indexed by the part already done and
the part still to do; a raise leaves the loop. -/
theorem wp_forM (f : α → Act I ε σ Unit) (Inv : List α → List α → σ → W → Prop)
    (hstep : ∀ done a todo s w, Inv done (a :: todo) s w →
      wp C (f a) (fun _ s' w' => Inv (done ++ [a]) todo s' w') E s w) :
    ∀ (todo done : List α) (s : σ) (w : W), Inv done todo s w →
      wp C (todo.forM f) (fun _ s' w' => Inv (done ++ todo) [] s' w') E s w
  | [], done, s, w, h => by
      have h' : Inv (done ++ []) [] s w := by simpa using h
      exact h'
  | a :: todo, done, s, w, h => by
      change wp C (f a >>= fun _ => todo.forM f) _ E s w
      refine wp_seq _ (hstep done a todo s w h) fun _ s' w' h' => ?_
      simpa using wp_forM f Inv hstep todo (done ++ [a]) s' w' h'

theorem wp_forM_const (f : α → Act I ε σ Unit) (Inv : σ → W → Prop)
    (l : List α)
    (hstep : ∀ a ∈ l, ∀ s w, Inv s w → wp C (f a) (fun _ => Inv) E s w)
    (h : Inv s w) : wp C (l.forM f) (fun _ => Inv) E s w := by
  induction l generalizing s w with
  | nil => exact h
  | cons a l ih =>
      change wp C (f a >>= fun _ => l.forM f) _ E s w
      refine wp_seq _ (hstep a (by simp) s w h) fun _ s' w' h' => ?_
      exact ih (fun b hb => hstep b (by simp [hb])) h'

end Act

end Interaction
