import Mathlib.Data.List.Induction
import Tugtainer.Interaction.Action

/-!
# Properties of histories

The observer that remembers everything is the one whose state is the trace so
far. Under the contract `history rely` the assertions of a proof are properties
of that trace, and this module has the three that come up: an event that
happened (`Once`), a property of every event and of the trace before it
(`Always`), and an event that nothing has undone (`Since`). Each of them has one
lemma for the trace with one more event.

A program that is proved to issue operations of one kind only, under a contract
without memory, keeps every assertion that operations of this kind keep: this is
`Prog.wp_frame`.
-/

namespace Interaction

variable {I : Interface} {W α β ε σ : Type}

/-- Some event of the trace satisfies `p`. -/
def Once (p : Event I → Prop) (tr : Trace I) : Prop := ∃ e ∈ tr, p e

/-- Every event of the trace satisfies `φ` after the events before it. -/
def Always (φ : Trace I → Event I → Prop) (tr : Trace I) : Prop :=
  ∀ pre e post, tr = pre ++ e :: post → φ pre e

/-- Some event of the trace satisfies `p`, and no later one satisfies `q`. -/
def Since (p q : Event I → Prop) (tr : Trace I) : Prop :=
  ∃ pre e post, tr = pre ++ e :: post ∧ p e ∧ ∀ e' ∈ post, ¬ q e'

/-- Every event that satisfies `p` is followed by one that satisfies `q`. -/
def LeadsTo (p q : Event I → Prop) (tr : Trace I) : Prop :=
  ∀ pre e post, tr = pre ++ e :: post → p e → ∃ e' ∈ post, q e'

@[simp] theorem once_nil (p : Event I → Prop) : ¬ Once p [] := by
  simp [Once]

@[simp] theorem once_concat (p : Event I → Prop) (tr : Trace I) (e : Event I) :
    Once p (tr ++ [e]) ↔ Once p tr ∨ p e := by
  simp only [Once, List.mem_append, List.mem_singleton]
  constructor
  · rintro ⟨e', he' | rfl, hp⟩
    · exact .inl ⟨e', he', hp⟩
    · exact .inr hp
  · rintro (⟨e', he', hp⟩ | hp)
    · exact ⟨e', .inl he', hp⟩
    · exact ⟨e, .inr rfl, hp⟩

theorem once_iff_countP (p : Event I → Bool) (tr : Trace I) :
    Once (p ·) tr ↔ 0 < tr.countP p :=
  List.countP_pos_iff.symm

theorem split_concat_iff {tr pre post : Trace I} {e e' : Event I} :
    tr ++ [e] = pre ++ e' :: post ↔
      (tr = pre ∧ e = e' ∧ post = []) ∨ ∃ post', post = post' ++ [e] ∧ tr = pre ++ e' :: post' := by
  rcases List.eq_nil_or_concat post with rfl | ⟨post, e'', rfl⟩
  · constructor
    · intro h
      obtain ⟨rfl, h'⟩ := List.append_inj' h rfl
      obtain rfl : e = e' := by simpa using h'
      exact .inl ⟨rfl, rfl, rfl⟩
    · rintro (⟨rfl, rfl, -⟩ | ⟨post', h, -⟩)
      · rfl
      · simp at h
  · rw [List.concat_eq_append, ← List.cons_append, ← List.append_assoc]
    constructor
    · intro h
      obtain ⟨rfl, h'⟩ := List.append_inj' h rfl
      obtain rfl : e = e'' := by simpa using h'
      exact .inr ⟨post, rfl, rfl⟩
    · rintro (⟨-, -, h⟩ | ⟨post', h, rfl⟩)
      · simp at h
      · obtain ⟨rfl, h'⟩ := List.append_inj' h rfl
        obtain rfl : e'' = e := by simpa using h'
        rfl

@[simp] theorem always_nil (φ : Trace I → Event I → Prop) : Always φ [] := by
  intro pre e post h
  simp at h

@[simp] theorem always_concat (φ : Trace I → Event I → Prop) (tr : Trace I)
    (e : Event I) : Always φ (tr ++ [e]) ↔ Always φ tr ∧ φ tr e := by
  constructor
  · intro h
    refine ⟨fun pre e' post heq => ?_, h tr e [] rfl⟩
    exact h pre e' (post ++ [e]) (by rw [heq, List.append_assoc, List.cons_append])
  · rintro ⟨h, he⟩ pre e' post heq
    rcases split_concat_iff.1 heq with ⟨rfl, rfl, -⟩ | ⟨post', -, heq'⟩
    · exact he
    · exact h pre e' post' heq'

theorem Always.of_append {φ : Trace I → Event I → Prop} {pre post : Trace I}
    (h : Always φ (pre ++ post)) : Always φ pre := by
  rintro pre' e post' rfl
  exact h pre' e (post' ++ post) (by simp)

theorem always_not_once_iff (p : Event I → Bool) (tr : Trace I) :
    Always (fun pre e => p e → ¬ Once (p ·) pre) tr ↔ tr.countP p ≤ 1 := by
  induction tr using List.reverseRecOn with
  | nil => simp
  | append_singleton tr e ih =>
      rw [always_concat, ih, once_iff_countP, List.countP_append, List.countP_singleton]
      cases p e with
      | false => simp
      | true =>
          simp only [forall_const, if_true]
          omega

@[simp] theorem since_nil (p q : Event I → Prop) : ¬ Since p q [] := by
  rintro ⟨pre, e, post, h, -⟩
  simp at h

@[simp] theorem since_concat (p q : Event I → Prop) (tr : Trace I) (e : Event I) :
    Since p q (tr ++ [e]) ↔ p e ∨ (Since p q tr ∧ ¬ q e) := by
  constructor
  · rintro ⟨pre, e', post, heq, hp, hq⟩
    rcases split_concat_iff.1 heq with ⟨rfl, rfl, -⟩ | ⟨post', rfl, rfl⟩
    · exact .inl hp
    · exact .inr ⟨⟨pre, e', post', rfl, hp, fun e'' he'' => hq e'' (by simp [he''])⟩,
        hq e (by simp)⟩
  · rintro (hp | ⟨⟨pre, e', post, rfl, hp, hq⟩, hqe⟩)
    · exact ⟨tr, e, [], rfl, hp, by simp⟩
    · refine ⟨pre, e', post ++ [e], by simp, hp, fun e'' he'' => ?_⟩
      rcases List.mem_append.1 he'' with he'' | he''
      · exact hq e'' he''
      · obtain rfl := List.mem_singleton.1 he''
        exact hqe

theorem Since.mono {p q p' q' : Event I → Prop} {tr : Trace I} (h : Since p q tr)
    (hp : ∀ e, p e → p' e) (hq : ∀ e, q' e → q e) : Since p' q' tr := by
  obtain ⟨pre, e, post, heq, hpe, hnot⟩ := h
  exact ⟨pre, e, post, heq, hp e hpe, fun e' he' hqe => hnot e' he' (hq e' hqe)⟩

theorem Since.not_both {p q p' q' : Event I → Prop} {tr : Trace I} (h : Since p q tr)
    (h' : Since p' q' tr) (hp : ∀ e, p e → q' e ∧ ¬ p' e) (hp' : ∀ e, p' e → q e) : False := by
  induction tr using List.reverseRecOn with
  | nil => exact since_nil p q h
  | append_singleton tr e ih =>
      rcases (since_concat _ _ _ _).1 h with hpe | ⟨hsince, hq⟩
      · rcases (since_concat _ _ _ _).1 h' with hpe' | ⟨-, hq'⟩
        · exact (hp e hpe).2 hpe'
        · exact hq' (hp e hpe).1
      · rcases (since_concat _ _ _ _).1 h' with hpe' | ⟨hsince', -⟩
        · exact hq (hp' e hpe')
        · exact ih hsince hsince'

theorem since_iff_foldl (p q : Event I → Bool) (tr : Trace I) :
    Since (p ·) (q ·) tr ↔ tr.foldl (fun since e => p e || (since && !q e)) false := by
  induction tr using List.reverseRecOn with
  | nil => simp
  | append_singleton tr e ih => simp [ih]

theorem leadsTo_iff (p q : Event I → Prop) (tr : Trace I) :
    LeadsTo p q tr ↔ ¬ Since p q tr := by
  constructor
  · rintro h ⟨pre, e, post, heq, hp, hnot⟩
    obtain ⟨e', he', hq⟩ := h pre e post heq hp
    exact hnot e' he' hq
  · intro h pre e post heq hp
    by_contra hnone
    exact h ⟨pre, e, post, heq, hp, fun e' he' hq => hnone ⟨e', he', hq⟩⟩

namespace Contract

def history (rely : Event I → Prop) (guar : Trace I → I.Op → Prop) :
    Contract I (Trace I) where
  next tr e := tr ++ [e]
  rely _ e := rely e
  guar tr op := guar tr op

def stateless (rely : Event I → Prop) (guar : I.Op → Prop) : Contract I Unit where
  next _ _ := ()
  rely _ e := rely e
  guar _ op := guar op

variable {rely : Event I → Prop} {guar : Trace I → I.Op → Prop}

@[simp] theorem history_next (tr : Trace I) (e : Event I) :
    (history rely guar).next tr e = tr ++ [e] := rfl

@[simp] theorem history_rely (tr : Trace I) (e : Event I) :
    (history rely guar).rely tr e ↔ rely e := Iff.rfl

@[simp] theorem history_guar (tr : Trace I) (op : I.Op) :
    (history rely guar).guar tr op ↔ guar tr op := Iff.rfl

@[simp] theorem stateless_rely {guar : I.Op → Prop} (w : Unit) (e : Event I) :
    (stateless rely guar).rely w e ↔ rely e := Iff.rfl

@[simp] theorem stateless_guar {guar : I.Op → Prop} (w : Unit) (op : I.Op) :
    (stateless rely guar).guar w op ↔ guar op := Iff.rfl

theorem history_after (tr tr' : Trace I) :
    (history rely guar).after tr tr' = tr ++ tr' := by
  induction tr' generalizing tr with
  | nil => simp
  | cons e tr' ih => rw [after_cons, ih, history_next, List.append_assoc]; rfl

theorem history_accepts {tr tr' : Trace I} (h : ∀ e ∈ tr', rely e) :
    (history rely guar).Accepts tr tr' := by
  induction tr' generalizing tr with
  | nil => trivial
  | cons e tr' ih => exact ⟨h e (by simp), ih fun e' he' => h e' (by simp [he'])⟩

theorem stateless_accepts {guar : I.Op → Prop} {tr : Trace I} (h : ∀ e ∈ tr, rely e) :
    (stateless rely guar).Accepts () tr := by
  induction tr with
  | nil => trivial
  | cons e tr ih => exact ⟨h e (by simp), ih fun e' he' => h e' (by simp [he'])⟩

end Contract

namespace Prog

variable {rely : Event I → Prop} {guar : Trace I → I.Op → Prop}

theorem wp_history_sound {p : Prog I α} {Q : α → Trace I → Prop} {tr : Trace I} {a : α}
    (h : p.wp (.history rely guar) Q []) (hrun : Runs p tr a) (hrely : ∀ e ∈ tr, rely e) :
    Q a tr := by
  have hQ := wp_sound h hrun (Contract.history_accepts hrely)
  rwa [Contract.history_after, List.nil_append] at hQ

theorem wp_stateless_guar {guar : I.Op → Prop} {p : Prog I α} {Q : α → Unit → Prop}
    {tr : Trace I} {a : α} (h : p.wp (.stateless rely guar) Q ()) (hrun : Runs p tr a)
    (hrely : ∀ e ∈ tr, rely e) : ∀ e ∈ tr, guar e.op := by
  intro e he
  obtain ⟨pre, post, rfl⟩ := List.append_of_mem he
  exact wp_guar h hrun rfl (Contract.stateless_accepts fun e he => hrely e (by simp [he]))

/-- What a program does under a contract without memory, it does under every
contract, and it keeps the assertions that such operations keep. -/
theorem wp_frame {guar : I.Op → Prop} {p : Prog I α} {Q : α → Prop}
    (h : p.wp (.stateless rely guar) (fun a _ => Q a) ()) {C : Contract I W}
    (J : W → Prop) (hrely : ∀ w e, C.rely w e → rely e)
    (hguar : ∀ w op, J w → guar op → C.guar w op)
    (hnext : ∀ w e, J w → guar e.op → C.rely w e → J (C.next w e)) {w : W} (hw : J w) :
    p.wp C (fun a w' => Q a ∧ J w') w := by
  induction p generalizing w with
  | ret a => exact ⟨h, hw⟩
  | call op k ih =>
      refine ⟨hguar w op hw h.1, fun r hr => ?_⟩
      exact ih r (h.2 r (hrely w _ hr)) (hnext w ⟨op, r⟩ hw h.1 hr)

end Prog

theorem Act.wp_frame {rely : Event I → Prop} {guar : I.Op → Prop} {x : Act I ε σ α}
    {Q : α → σ → Prop} {E : ε → σ → Prop} {s : σ}
    (h : Act.wp (.stateless rely guar) x (fun a s' _ => Q a s') (fun e s' _ => E e s') s ())
    {C : Contract I W} (J : W → Prop) (hrely : ∀ w e, C.rely w e → rely e)
    (hguar : ∀ w op, J w → guar op → C.guar w op)
    (hnext : ∀ w e, J w → guar e.op → C.rely w e → J (C.next w e)) {w : W} (hw : J w) :
    Act.wp C x (fun a s' w' => Q a s' ∧ J w') (fun e s' w' => E e s' ∧ J w') s w := by
  have h' : (x s).wp (.stateless rely guar)
      (fun r _ => match r with | (.ok a, s') => Q a s' | (.error e, s') => E e s') () :=
    Prog.wp_mono h (by rintro ⟨_ | _, _⟩ _ h <;> exact h)
  refine Prog.wp_mono (Prog.wp_frame h' J hrely hguar hnext hw) ?_
  rintro ⟨_ | _, _⟩ _ h <;> exact h

end Interaction
