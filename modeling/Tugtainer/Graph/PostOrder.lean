import Mathlib.Data.Finset.Card
import Mathlib.Logic.Relation
import Mathlib.Tactic.ByContra

/-!
# Depth-first post-order

`visit deps fuel s node` is the recursive depth-first search that marks a node,
visits what it depends on and then appends the node to an order. The recursion
is bounded by `fuel`; `visit_total` says that a fuel above the number of nodes
still unmarked is never used up.

`Extends` says what one call can do: it appends new, distinct nodes that the
node reaches, and marks exactly these. From it follow that the order has no
duplicates, and, where no cycle is reachable, that it is `Sorted`: whatever a
node depends on stands before it.
-/

namespace PostOrder

/-- The marked nodes and the order built so far. -/
structure State (α : Type*) where
  visited : Finset α
  order : List α

variable {α : Type*} [DecidableEq α]

def visit (deps : α → List α) : ℕ → State α → α → Option (State α)
  | 0, _, _ => none
  | fuel + 1, s, node =>
      if node ∈ s.visited then some s
      else
        ((deps node).foldlM (visit deps fuel) ⟨insert node s.visited, s.order⟩).map
          fun s' => ⟨s'.visited, s'.order ++ [node]⟩

/-- Depth-first visit of several roots, from an empty state. -/
def visitAll (deps : α → List α) (fuel : ℕ) (roots : List α) : Option (State α) :=
  roots.foldlM (visit deps fuel) ⟨∅, []⟩

/-- `y` is one of the nodes that `x` depends on. -/
def Edge (deps : α → List α) (x y : α) : Prop := y ∈ deps x

/-- Everything a node of the list depends on stands before it. -/
def Sorted (deps : α → List α) (l : List α) : Prop :=
  ∀ pre x post, l = pre ++ x :: post → ∀ y, Edge deps x y → y ∈ pre

variable {deps : α → List α}

theorem visit_succ_of_mem {fuel : ℕ} {s : State α} {node : α}
    (h : node ∈ s.visited) : visit deps (fuel + 1) s node = some s := by
  simp [visit, h]

theorem visit_succ_of_notMem {fuel : ℕ} {s : State α} {node : α}
    (h : node ∉ s.visited) :
    visit deps (fuel + 1) s node =
      ((deps node).foldlM (visit deps fuel) ⟨insert node s.visited, s.order⟩).map
        fun s' => ⟨s'.visited, s'.order ++ [node]⟩ := by
  simp [visit, h]

/-! ## Enough fuel -/

theorem foldlM_visit_total {U : Finset α} {fuel : ℕ}
    (ih : ∀ (s : State α) (node : α), node ∈ U →
      (U \ s.visited).card < fuel →
      ∃ s', visit deps fuel s node = some s' ∧ s.visited ⊆ s'.visited)
    (l : List α) (hl : ∀ x ∈ l, x ∈ U) (s : State α)
    (hs : (U \ s.visited).card < fuel) :
    ∃ s', l.foldlM (visit deps fuel) s = some s' ∧ s.visited ⊆ s'.visited := by
  induction l generalizing s with
  | nil => exact ⟨s, rfl, subset_rfl⟩
  | cons d l ihl =>
      obtain ⟨s₁, h₁, hsub₁⟩ := ih s d (hl d (by simp)) hs
      have hcard : (U \ s₁.visited).card ≤ (U \ s.visited).card :=
        Finset.card_le_card (Finset.sdiff_subset_sdiff subset_rfl hsub₁)
      obtain ⟨s₂, h₂, hsub₂⟩ :=
        ihl (fun x hx => hl x (by simp [hx])) s₁ (by omega)
      exact ⟨s₂, by rw [List.foldlM_cons, h₁]; exact h₂, hsub₁.trans hsub₂⟩

/-- On a universe closed under dependencies, a fuel above the number of
unmarked nodes suffices. -/
theorem visit_total {U : Finset α} (hU : ∀ x ∈ U, ∀ y ∈ deps x, y ∈ U) (fuel : ℕ) :
    ∀ (s : State α) (node : α), node ∈ U → (U \ s.visited).card < fuel →
      ∃ s', visit deps fuel s node = some s' ∧ s.visited ⊆ s'.visited := by
  induction fuel with
  | zero => intro s node _ h; omega
  | succ fuel ih =>
      intro s node hnode h
      by_cases hv : node ∈ s.visited
      · exact ⟨s, visit_succ_of_mem hv, subset_rfl⟩
      · have hcard : (U \ insert node s.visited).card < (U \ s.visited).card := by
          refine Finset.card_lt_card (Finset.ssubset_iff_of_subset ?_ |>.2 ⟨node, ?_, ?_⟩)
          · exact Finset.sdiff_subset_sdiff subset_rfl (Finset.subset_insert _ _)
          · simp [hnode, hv]
          · simp
        obtain ⟨s', h', hsub⟩ := foldlM_visit_total ih (deps node) (hU node hnode)
          ⟨insert node s.visited, s.order⟩ (by simpa using by omega)
        refine ⟨⟨s'.visited, s'.order ++ [node]⟩, ?_, ?_⟩
        · rw [visit_succ_of_notMem hv, h', Option.map_some]
        · exact (Finset.subset_insert _ _).trans hsub

theorem visitAll_total {U : Finset α} (hU : ∀ x ∈ U, ∀ y ∈ deps x, y ∈ U)
    {fuel : ℕ} (hfuel : U.card < fuel) {roots : List α} (hroots : ∀ x ∈ roots, x ∈ U) :
    ∃ s, visitAll deps fuel roots = some s := by
  obtain ⟨s, hs, _⟩ := foldlM_visit_total (visit_total hU fuel) roots hroots
    ⟨∅, []⟩ (by simpa using hfuel)
  exact ⟨s, hs⟩

/-! ## What a visit does -/

/-- `s'` arises from `s` by appending new nodes, each reached from one of
`from_`, and marking them; everything in `from_` is marked in the end. -/
structure Extends (deps : α → List α) (s s' : State α) (sources : List α)
    (new : List α) : Prop where
  order_eq : s'.order = s.order ++ new
  visited_eq : ∀ x, x ∈ s'.visited ↔ x ∈ s.visited ∨ x ∈ new
  nodup : new.Nodup
  fresh : ∀ x ∈ new, x ∉ s.visited
  marked : ∀ x ∈ sources, x ∈ s'.visited
  reached : ∀ x ∈ new, ∃ d ∈ sources, Relation.ReflTransGen (Edge deps) d x

omit [DecidableEq α] in
theorem Extends.append {s s₁ s₂ : State α} {d : α} {l new₁ new₂ : List α}
    (h₁ : Extends deps s s₁ [d] new₁) (h₂ : Extends deps s₁ s₂ l new₂) :
    Extends deps s s₂ (d :: l) (new₁ ++ new₂) where
  order_eq := by rw [h₂.order_eq, h₁.order_eq, List.append_assoc]
  visited_eq x := by
    rw [h₂.visited_eq, h₁.visited_eq, List.mem_append, or_assoc]
  nodup := by
    refine List.Nodup.append h₁.nodup h₂.nodup fun x hx₁ hx₂ => ?_
    exact h₂.fresh x hx₂ ((h₁.visited_eq x).2 (.inr hx₁))
  fresh x hx := by
    rcases List.mem_append.1 hx with hx | hx
    · exact h₁.fresh x hx
    · exact fun hv => h₂.fresh x hx ((h₁.visited_eq x).2 (.inl hv))
  marked x hx := by
    rcases List.mem_cons.1 hx with rfl | hx
    · exact (h₂.visited_eq x).2 (.inl (h₁.marked x (by simp)))
    · exact h₂.marked x hx
  reached x hx := by
    rcases List.mem_append.1 hx with hx | hx
    · obtain ⟨d', hd', hr⟩ := h₁.reached x hx
      exact ⟨d', by simpa using .inl (by simpa using hd'), hr⟩
    · obtain ⟨d', hd', hr⟩ := h₂.reached x hx
      exact ⟨d', by simp [hd'], hr⟩

/-- Closing a node: what its dependencies appended, and then the node itself. -/
theorem Extends.close {s s' : State α} {node : α} {new : List α}
    (hv : node ∉ s.visited)
    (h : Extends deps ⟨insert node s.visited, s.order⟩ s' (deps node) new) :
    Extends deps s ⟨s'.visited, s'.order ++ [node]⟩ [node] (new ++ [node]) where
  order_eq := by simp [h.order_eq]
  visited_eq x := by
    simp only [h.visited_eq, Finset.mem_insert, List.mem_append, List.mem_singleton]
    tauto
  nodup := by
    refine List.Nodup.append h.nodup (by simp) fun x hx hx' => ?_
    obtain rfl := List.mem_singleton.1 hx'
    exact h.fresh x hx (by simp)
  fresh x hx := by
    rcases List.mem_append.1 hx with hx | hx
    · exact fun hmem => h.fresh x hx (by simp [hmem])
    · obtain rfl := List.mem_singleton.1 hx
      exact hv
  marked x hx := by
    obtain rfl := List.mem_singleton.1 hx
    exact (h.visited_eq x).2 (.inl (by simp))
  reached x hx := by
    refine ⟨node, by simp, ?_⟩
    rcases List.mem_append.1 hx with hx | hx
    · obtain ⟨d, hd, hr⟩ := h.reached x hx
      exact .head hd hr
    · obtain rfl := List.mem_singleton.1 hx
      exact .refl

/-- The nodes marked but not yet in the order: the ones whose visit is still
going on. They all reach the node that is visited next. -/
def OpenReach (deps : α → List α) (s : State α) (node : α) : Prop :=
  ∀ g ∈ s.visited, g ∉ s.order → Relation.ReflTransGen (Edge deps) g node

/-- No cycle is reachable from a node. -/
def AcyclicFrom (deps : α → List α) (node : α) : Prop :=
  ∀ x, Relation.ReflTransGen (Edge deps) node x →
    ¬ Relation.TransGen (Edge deps) x x

omit [DecidableEq α] in
theorem AcyclicFrom.step {x y : α} (h : AcyclicFrom deps x) (hxy : Edge deps x y) :
    AcyclicFrom deps y :=
  fun z hz => h z (.head hxy hz)

omit [DecidableEq α] in
theorem sorted_nil : Sorted deps ([] : List α) := by
  intro pre x post h
  simp at h

omit [DecidableEq α] in
theorem Sorted.concat {l : List α} {node : α} (h : Sorted deps l)
    (hnode : ∀ y, Edge deps node y → y ∈ l) : Sorted deps (l ++ [node]) := by
  intro pre x post heq y hy
  rcases List.eq_nil_or_concat post with rfl | ⟨post', z, rfl⟩
  · obtain ⟨rfl, hx⟩ := List.append_inj' heq rfl
    obtain rfl : node = x := by simpa using hx
    exact hnode y hy
  · rw [List.concat_eq_append, ← List.cons_append, ← List.append_assoc] at heq
    obtain ⟨rfl, _⟩ := List.append_inj' heq rfl
    exact h pre x post' rfl y hy

/-- What one visit does, for the whole state. -/
structure Visited (deps : α → List α) (s s' : State α) (sources : List α) : Prop where
  extends_ : ∃ new, Extends deps s s' sources new
  sorted : (∀ d ∈ sources, OpenReach deps s d) →
    (∀ d ∈ sources, AcyclicFrom deps d) → Sorted deps s.order → Sorted deps s'.order

theorem foldlM_visit_visited {fuel : ℕ}
    (ih : ∀ (s s' : State α) (node : α), visit deps fuel s node = some s' →
      Visited deps s s' [node])
    (l : List α) (s s' : State α) (h : l.foldlM (visit deps fuel) s = some s') :
    Visited deps s s' l := by
  induction l generalizing s with
  | nil =>
      obtain rfl : s = s' := by simpa using h
      exact ⟨⟨[], by constructor <;> simp⟩, fun _ _ h => h⟩
  | cons d l ihl =>
      rw [List.foldlM_cons] at h
      obtain ⟨s₁, h₁, h₂⟩ := Option.bind_eq_some_iff.1 h
      have hv₁ := ih s s₁ d h₁
      have hv₂ := ihl s₁ h₂
      obtain ⟨new₁, he₁⟩ := hv₁.extends_
      obtain ⟨new₂, he₂⟩ := hv₂.extends_
      refine ⟨⟨new₁ ++ new₂, he₁.append he₂⟩, fun hopen hacyc hsorted => ?_⟩
      refine hv₂.sorted (fun d' hd' g hg hgo => ?_) (fun d' hd' => hacyc d' (by simp [hd']))
        (hv₁.sorted (by simpa using hopen d (by simp)) (by simpa using hacyc d (by simp))
          hsorted)
      rw [he₁.order_eq, List.mem_append, not_or] at hgo
      rcases (he₁.visited_eq g).1 hg with hg | hg
      · exact hopen d' (by simp [hd']) g hg hgo.1
      · exact absurd hg hgo.2

theorem visit_visited (fuel : ℕ) :
    ∀ (s s' : State α) (node : α), visit deps fuel s node = some s' →
      Visited deps s s' [node] := by
  induction fuel with
  | zero => intro s s' node h; simp [visit] at h
  | succ fuel ih =>
      intro s s' node h
      by_cases hv : node ∈ s.visited
      · obtain rfl : s = s' := by simpa [visit_succ_of_mem hv] using h
        exact ⟨⟨[], by constructor <;> simp [hv]⟩, fun _ _ h => h⟩
      · rw [visit_succ_of_notMem hv] at h
        obtain ⟨s₁, h₁, rfl⟩ := Option.map_eq_some_iff.1 h
        have hv₁ := foldlM_visit_visited ih (deps node) _ s₁ h₁
        obtain ⟨new, he⟩ := hv₁.extends_
        refine ⟨⟨new ++ [node], he.close hv⟩, fun hopen hacyc hsorted => ?_⟩
        have hopen' : OpenReach deps s node := hopen node (by simp)
        have hacyc' : AcyclicFrom deps node := hacyc node (by simp)
        have hself : ∀ y, Edge deps node y →
            ¬ Relation.ReflTransGen (Edge deps) y node := fun y hy hr =>
          hacyc' node .refl (.head' hy hr)
        have hopen₁ : ∀ d ∈ deps node,
            OpenReach deps ⟨insert node s.visited, s.order⟩ d := by
          intro d hd g hg hgo
          rcases Finset.mem_insert.1 hg with rfl | hg
          · exact .single hd
          · exact (hopen' g hg hgo).tail hd
        refine (hv₁.sorted hopen₁ (fun d hd => hacyc'.step hd) hsorted).concat ?_
        -- a dependency that is not in the order yet is still open, which closes a cycle
        intro y hy
        by_contra hyo
        have hyv := (he.visited_eq y).1 (he.marked y hy)
        rw [he.order_eq, List.mem_append, not_or] at hyo
        rcases hyv with hyv | hyv
        · rcases Finset.mem_insert.1 hyv with rfl | hyv
          · exact hself y hy .refl
          · exact hself y hy (hopen' y hyv hyo.1)
        · exact hyo.2 hyv

/-! ## The order of several roots -/

theorem visitAll_visited {fuel : ℕ} {roots : List α} {s : State α}
    (h : visitAll deps fuel roots = some s) : Visited deps ⟨∅, []⟩ s roots :=
  foldlM_visit_visited (visit_visited fuel) roots _ s h

theorem visitAll_nodup {fuel : ℕ} {roots : List α} {s : State α}
    (h : visitAll deps fuel roots = some s) : s.order.Nodup := by
  obtain ⟨new, he⟩ := (visitAll_visited h).extends_
  simpa [he.order_eq] using he.nodup

theorem mem_order_of_mem_roots {fuel : ℕ} {roots : List α} {s : State α}
    (h : visitAll deps fuel roots = some s) {x : α} (hx : x ∈ roots) :
    x ∈ s.order := by
  obtain ⟨new, he⟩ := (visitAll_visited h).extends_
  have hv := (he.visited_eq x).1 (he.marked x hx)
  simpa [he.order_eq] using hv

theorem visitAll_sorted {fuel : ℕ} {roots : List α} {s : State α}
    (h : visitAll deps fuel roots = some s)
    (hacyc : ∀ x ∈ roots, AcyclicFrom deps x) : Sorted deps s.order :=
  (visitAll_visited h).sorted (fun _ _ _ hg => by simp at hg) hacyc sorted_nil

omit [DecidableEq α] in
/-- In a sorted list also what a node depends on indirectly stands before
it. -/
theorem Sorted.transGen {l : List α} (h : Sorted deps l) {x y : α}
    (hxy : Relation.TransGen (Edge deps) x y) :
    ∀ pre post, l = pre ++ x :: post → y ∈ pre := by
  induction hxy using Relation.TransGen.head_induction_on with
  | single hxy => exact fun pre post heq => h pre _ post heq _ hxy
  | head hxz _ ih =>
      intro pre post heq
      obtain ⟨pre₁, pre₂, rfl⟩ := List.append_of_mem (h pre _ post heq _ hxz)
      have hy := ih pre₁ _ (by rw [heq, List.append_assoc]; rfl)
      exact List.mem_append_left _ hy

omit [DecidableEq α] in
theorem Sorted.mem_of_filter_eq {l : List α} (h : Sorted deps l) {keep : α → Bool} {x y : α}
    (hxy : Relation.TransGen (Edge deps) x y) (hy : keep y = true) {pre post : List α}
    (heq : l.filter keep = pre ++ x :: post) : y ∈ pre := by
  obtain ⟨l₁, l₂, hl, hpre, hl₂⟩ := List.filter_eq_append_iff.1 heq
  obtain ⟨l₃, l₄, rfl, hdropped, -, -⟩ := List.filter_eq_cons_iff.1 hl₂
  have hmem : y ∈ l₁ ++ l₃ := h.transGen hxy (l₁ ++ l₃) l₄ (by rw [hl, List.append_assoc])
  rcases List.mem_append.1 hmem with hmem | hmem
  · rw [← hpre]
    exact List.mem_filter.2 ⟨hmem, hy⟩
  · exact absurd hy (hdropped y hmem)

end PostOrder
