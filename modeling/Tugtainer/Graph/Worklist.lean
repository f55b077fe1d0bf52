import Mathlib.Logic.Hydra
import Mathlib.Order.WellFoundedSet

/-!
# Worklist search with nodes that are never settled

A worklist loop takes the first node of a queue, settles it, and appends its
successors. Nodes already settled are skipped, so each of them is expanded
once. Here a finite set `keep` of nodes is exempt from being settled: a node of
`keep` is expanded every time it is met.

`mem_run_iff` says what the loop settles: exactly the nodes outside `keep` that
are reached from it. `halts_iff` says when such a loop empties its queue: exactly
when no cycle of the successor relation stays inside `keep`. For the one direction
the queue is a hydra (`Relation.CutExpand`): a node of `keep` is replaced by finitely
many smaller ones, every other expansion uses up one of finitely many fresh nodes.
For the other direction a cycle inside `keep` always has a node in the queue.
-/

namespace Worklist

/-- The queue and the settled nodes. -/
structure State (α : Type*) where
  queue : List α
  settled : Finset α

variable {α : Type*} [DecidableEq α]

/-- One turn of the loop; the empty queue is left alone. -/
def step (succ : α → List α) (keep : Finset α) (s : State α) : State α :=
  match s.queue with
  | [] => s
  | node :: rest =>
      if node ∈ s.settled then ⟨rest, s.settled⟩
      else
        let settled := if node ∈ keep then s.settled else insert node s.settled
        ⟨rest ++ (succ node).filter (· ∉ settled), settled⟩

/-- The loop empties its queue after finitely many turns. -/
def Halts (succ : α → List α) (keep : Finset α) (s : State α) : Prop :=
  ∃ n, ((step succ keep)^[n] s).queue = []

/-- The loop with a bound on its turns: the settled nodes, once the queue is
empty. -/
def run (succ : α → List α) (keep : Finset α) : ℕ → State α → Option (Finset α)
  | 0, s => if s.queue = [] then some s.settled else none
  | n + 1, s =>
      if s.queue = [] then some s.settled else run succ keep n (step succ keep s)

/-- The successor relation inside `keep`. -/
def Inner (succ : α → List α) (keep : Finset α) (x y : α) : Prop :=
  x ∈ keep ∧ y ∈ keep ∧ y ∈ succ x

/-- Some cycle of the successor relation stays inside `keep`. -/
def HasInnerCycle (succ : α → List α) (keep : Finset α) : Prop :=
  ∃ x, Relation.TransGen (Inner succ keep) x x

variable {succ : α → List α} {keep : Finset α}

theorem exists_run_eq_some_iff (s : State α) :
    (∃ n settled, run succ keep n s = some settled) ↔ Halts succ keep s := by
  constructor
  · rintro ⟨n, settled, h⟩
    induction n generalizing s with
    | zero =>
        by_cases hq : s.queue = []
        · exact ⟨0, hq⟩
        · simp [run, hq] at h
    | succ n ih =>
        by_cases hq : s.queue = []
        · exact ⟨0, hq⟩
        · obtain ⟨m, hm⟩ := ih _ (by simpa [run, hq] using h)
          exact ⟨m + 1, hm⟩
  · rintro ⟨n, h⟩
    induction n generalizing s with
    | zero => exact ⟨0, s.settled, by simp_all [run]⟩
    | succ n ih =>
        obtain ⟨m, settled, hm⟩ := ih _ h
        by_cases hq : s.queue = []
        · exact ⟨0, s.settled, by simp [run, hq]⟩
        · exact ⟨m + 1, settled, by simpa [run, hq] using hm⟩

theorem step_settled {node : α} {rest : List α} {settled : Finset α}
    (h : node ∈ settled) :
    step succ keep ⟨node :: rest, settled⟩ = ⟨rest, settled⟩ := by
  simp [step, h]

theorem step_keep {node : α} {rest : List α} {settled : Finset α}
    (h : node ∉ settled) (hk : node ∈ keep) :
    step succ keep ⟨node :: rest, settled⟩ =
      ⟨rest ++ (succ node).filter (· ∉ settled), settled⟩ := by
  simp [step, h, hk]

theorem step_fresh {node : α} {rest : List α} {settled : Finset α}
    (h : node ∉ settled) (hk : node ∉ keep) :
    step succ keep ⟨node :: rest, settled⟩ =
      ⟨rest ++ (succ node).filter (· ∉ insert node settled), insert node settled⟩ := by
  simp [step, h, hk]

theorem step_queue_subset {U : Finset α} (hU : ∀ x ∈ U, ∀ y ∈ succ x, y ∈ U)
    {s : State α} (hs : ∀ x ∈ s.queue, x ∈ U) :
    ∀ x ∈ (step succ keep s).queue, x ∈ U := by
  obtain ⟨queue, settled⟩ := s
  cases queue with
  | nil => exact hs
  | cons node rest =>
      have hnode : node ∈ U := hs node (by simp)
      have hrest : ∀ x ∈ rest, x ∈ U := fun x hx => hs x (by simp [hx])
      have happ : ∀ settled' : Finset α,
          ∀ x ∈ rest ++ (succ node).filter (· ∉ settled'), x ∈ U := by
        intro settled' x hx
        rcases List.mem_append.1 hx with hx | hx
        · exact hrest x hx
        · exact hU node hnode x (List.mem_of_mem_filter hx)
      by_cases h : node ∈ settled
      · rw [step_settled h]
        exact hrest
      · by_cases hk : node ∈ keep
        · rw [step_keep h hk]
          exact happ _
        · rw [step_fresh h hk]
          exact happ _

theorem step_settled_disjoint {s : State α} (hs : ∀ x ∈ s.settled, x ∉ keep) :
    ∀ x ∈ (step succ keep s).settled, x ∉ keep := by
  obtain ⟨queue, settled⟩ := s
  cases queue with
  | nil => exact hs
  | cons node rest =>
      by_cases h : node ∈ settled
      · rw [step_settled h]
        exact hs
      · by_cases hk : node ∈ keep
        · rw [step_keep h hk]
          exact hs
        · rw [step_fresh h hk]
          intro x hx
          rcases Finset.mem_insert.1 hx with rfl | hx
          · exact hk
          · exact hs x hx

theorem run_inv {P : State α → Prop} (hstep : ∀ s, P s → P (step succ keep s)) {n : ℕ}
    {s : State α} {settled : Finset α} (hs : P s) (h : run succ keep n s = some settled) :
    P ⟨[], settled⟩ := by
  have hend : ∀ s : State α, P s → s.queue = [] → some s.settled = some settled →
      P ⟨[], settled⟩ := by
    rintro ⟨queue, settled'⟩ hP rfl heq
    cases heq
    exact hP
  induction n generalizing s with
  | zero =>
      by_cases hq : s.queue = []
      · exact hend s hs hq (by simpa [run, hq] using h)
      · simp [run, hq] at h
  | succ n ih =>
      by_cases hq : s.queue = []
      · exact hend s hs hq (by simpa [run, hq] using h)
      · exact ih (hstep s hs) (by simpa [run, hq] using h)

theorem run_disjoint {n : ℕ} {s : State α} {settled : Finset α}
    (hs : ∀ x ∈ s.settled, x ∉ keep) (h : run succ keep n s = some settled) :
    Disjoint keep settled :=
  Finset.disjoint_right.2 (run_inv (P := fun s => ∀ x ∈ s.settled, x ∉ keep)
    (fun _ hs => step_settled_disjoint hs) hs h)

/-! ## Without an inner cycle the loop halts -/

/-- `y` is what an expansion of the kept node `x` may put into the queue. -/
def Below (succ : α → List α) (keep : Finset α) (y x : α) : Prop :=
  x ∈ keep ∧ y ∈ succ x

theorem wellFounded_below (hacyc : ¬ HasInnerCycle succ keep) :
    WellFounded (Below succ keep) := by
  have hleaf : ∀ x, x ∉ keep → Acc (Below succ keep) x := fun x hx =>
    ⟨x, fun y hy => absurd hy.1 hx⟩
  let r : α → α → Prop := fun y x => Relation.TransGen (Inner succ keep) x y
  have hr : IsStrictOrder α r :=
    { irrefl := fun x hx => hacyc ⟨x, hx⟩
      trans := fun _ _ _ h h' => h'.trans h }
  have hwf : (keep : Set α).WellFoundedOn r := keep.finite_toSet.wellFoundedOn
  rw [Set.wellFoundedOn_iff] at hwf
  refine ⟨fun x => ?_⟩
  induction x using hwf.induction with
  | _ x ih =>
      by_cases hx : x ∈ keep
      · refine ⟨x, fun y hy => ?_⟩
        by_cases hyk : y ∈ keep
        · exact ih y ⟨.single ⟨hx, hyk, hy.2⟩, hyk, hx⟩
        · exact hleaf y hyk
      · exact hleaf x hx

/-- The order in which the states of the loop decrease: first the number of
nodes still to settle, then the queue as a hydra. -/
def Smaller (succ : α → List α) (keep U : Finset α) : State α → State α → Prop :=
  InvImage (Prod.Lex (· < ·) (Relation.CutExpand (Below succ keep)))
    fun s => ((U \ (s.settled ∪ keep)).card, (s.queue : Multiset α))

theorem wellFounded_smaller (hacyc : ¬ HasInnerCycle succ keep) (U : Finset α) :
    WellFounded (Smaller succ keep U) :=
  InvImage.wf _ (WellFounded.prod_lex wellFounded_lt
    (wellFounded_below hacyc).cutExpand)

theorem step_smaller {U : Finset α} {s : State α} (hq : s.queue ≠ [])
    (hs : ∀ x ∈ s.queue, x ∈ U) :
    Smaller succ keep U (step succ keep s) s := by
  obtain ⟨queue, settled⟩ := s
  cases queue with
  | nil => exact absurd rfl hq
  | cons node rest =>
      by_cases h : node ∈ settled
      · rw [step_settled h]
        refine Prod.Lex.right _ ⟨0, node, by simp, ?_⟩
        rw [add_zero, ← Multiset.cons_coe, ← Multiset.singleton_add, add_comm]
      · by_cases hk : node ∈ keep
        · rw [step_keep h hk]
          refine Prod.Lex.right _ ⟨(succ node).filter (· ∉ settled), node, ?_, ?_⟩
          · intro y hy
            exact ⟨hk, List.mem_of_mem_filter (Multiset.mem_coe.1 hy)⟩
          · rw [← Multiset.coe_add, ← Multiset.cons_coe, ← Multiset.singleton_add,
              add_comm, add_assoc]
        · rw [step_fresh h hk]
          refine Prod.Lex.left _ _ (Finset.card_lt_card ?_)
          refine Finset.ssubset_iff_of_subset ?_ |>.2 ⟨node, ?_, ?_⟩
          · intro x hx
            simp only [Finset.mem_sdiff, Finset.mem_union, Finset.mem_insert] at hx ⊢
            tauto
          · have hU : node ∈ U := hs node (by simp)
            simp [hU, h, hk]
          · simp

theorem halts_of_not_hasInnerCycle (hacyc : ¬ HasInnerCycle succ keep)
    {U : Finset α} (hU : ∀ x ∈ U, ∀ y ∈ succ x, y ∈ U) (s : State α)
    (hs : ∀ x ∈ s.queue, x ∈ U) : Halts succ keep s := by
  induction s using (wellFounded_smaller hacyc U).induction with
  | _ s ih =>
      by_cases hq : s.queue = []
      · exact ⟨0, hq⟩
      · obtain ⟨n, hn⟩ := ih _ (step_smaller hq hs) (step_queue_subset hU hs)
        exact ⟨n + 1, hn⟩

/-! ## An inner cycle keeps the queue busy -/

omit [DecidableEq α] in
theorem onCycle_next {x : α} (h : Relation.TransGen (Inner succ keep) x x) :
    ∃ y, Inner succ keep x y ∧ Relation.TransGen (Inner succ keep) y y := by
  obtain ⟨y, hxy, hyx⟩ := Relation.TransGen.head'_iff.1 h
  exact ⟨y, hxy, Relation.TransGen.tail' hyx hxy⟩

/-- A node of an inner cycle waits in the queue, and nothing of `keep` is
settled. -/
structure Busy (succ : α → List α) (keep : Finset α) (s : State α) : Prop where
  disjoint : ∀ x ∈ s.settled, x ∉ keep
  waiting : ∃ x ∈ s.queue, Relation.TransGen (Inner succ keep) x x

theorem Busy.step {s : State α} (h : Busy succ keep s) :
    Busy succ keep (step succ keep s) := by
  refine ⟨step_settled_disjoint h.disjoint, ?_⟩
  obtain ⟨x, hx, hcyc⟩ := h.waiting
  obtain ⟨y, hxy, hcyc'⟩ := onCycle_next hcyc
  have hxs : x ∉ s.settled := fun hmem => h.disjoint x hmem hxy.1
  have hys : y ∉ s.settled := fun hmem => h.disjoint y hmem hxy.2.1
  obtain ⟨queue, settled⟩ := s
  cases queue with
  | nil => simp at hx
  | cons node rest =>
      rcases List.mem_cons.1 hx with rfl | hx
      · rw [step_keep hxs hxy.1]
        exact ⟨y, by simp [hxy.2.2, hys], hcyc'⟩
      · by_cases hn : node ∈ settled
        · rw [step_settled hn]
          exact ⟨x, hx, hcyc⟩
        · by_cases hk : node ∈ keep
          · rw [step_keep hn hk]
            exact ⟨x, by simp [hx], hcyc⟩
          · rw [step_fresh hn hk]
            exact ⟨x, by simp [hx], hcyc⟩

theorem not_halts_of_busy {s : State α} (h : Busy succ keep s) :
    ¬ Halts succ keep s := by
  rintro ⟨n, hn⟩
  have hbusy : Busy succ keep ((Worklist.step succ keep)^[n] s) := by
    clear hn
    induction n with
    | zero => exact h
    | succ n ih =>
        rw [Function.iterate_succ_apply']
        exact ih.step
  obtain ⟨x, hx, _⟩ := hbusy.waiting
  rw [hn] at hx
  simp at hx

/-- Started with nothing settled and a queue that holds `keep`, the loop halts
exactly when no cycle stays inside `keep`. -/
theorem halts_iff {U : Finset α} (hU : ∀ x ∈ U, ∀ y ∈ succ x, y ∈ U)
    {queue : List α} (hqU : ∀ x ∈ queue, x ∈ U) (hkq : ∀ x ∈ keep, x ∈ queue) :
    Halts succ keep ⟨queue, ∅⟩ ↔ ¬ HasInnerCycle succ keep := by
  constructor
  · rintro h ⟨x, hx⟩
    obtain ⟨y, hxy, _⟩ := onCycle_next hx
    exact not_halts_of_busy ⟨by simp, x, hkq x hxy.1, hx⟩ h
  · intro hacyc
    exact halts_of_not_hasInnerCycle hacyc hU _ hqU

/-! ## What the loop settles -/

/-- `y` is one of the successors of `x`. -/
def Edge (succ : α → List α) (x y : α) : Prop := y ∈ succ x

/-- Everything the loop has met is reached from `keep`. -/
structure Sound (succ : α → List α) (keep : Finset α) (s : State α) : Prop where
  queue : ∀ x ∈ s.queue, ∃ k ∈ keep, Relation.ReflTransGen (Edge succ) k x
  settled : ∀ x ∈ s.settled, ∃ k ∈ keep, Relation.ReflTransGen (Edge succ) k x

theorem Sound.step {s : State α} (h : Sound succ keep s) : Sound succ keep (step succ keep s) := by
  obtain ⟨queue, settled⟩ := s
  cases queue with
  | nil => exact h
  | cons node rest =>
      obtain ⟨k, hk, hnode⟩ := h.queue node (by simp)
      have hrest : ∀ x ∈ rest, ∃ k ∈ keep, Relation.ReflTransGen (Edge succ) k x :=
        fun x hx => h.queue x (by simp [hx])
      have happ : ∀ settled' : Finset α, ∀ x ∈ rest ++ (succ node).filter (· ∉ settled'),
          ∃ k ∈ keep, Relation.ReflTransGen (Edge succ) k x := by
        intro settled' x hx
        rcases List.mem_append.1 hx with hx | hx
        · exact hrest x hx
        · exact ⟨k, hk, hnode.tail (List.mem_of_mem_filter hx)⟩
      by_cases hs : node ∈ settled
      · rw [step_settled hs]
        exact ⟨hrest, h.settled⟩
      · by_cases hkeep : node ∈ keep
        · rw [step_keep hs hkeep]
          exact ⟨happ _, h.settled⟩
        · rw [step_fresh hs hkeep]
          refine ⟨happ _, fun x hx => ?_⟩
          rcases Finset.mem_insert.1 hx with rfl | hx
          · exact ⟨k, hk, hnode⟩
          · exact h.settled x hx

/-- The node is settled or exempt, or it waits in the queue. -/
def Covered (keep : Finset α) (s : State α) (y : α) : Prop :=
  y ∈ s.settled ∨ y ∈ keep ∨ y ∈ s.queue

theorem Covered.step {s : State α} {y : α} (h : Covered keep s y) :
    Covered keep (step succ keep s) y := by
  obtain ⟨queue, settled⟩ := s
  cases queue with
  | nil => exact h
  | cons node rest =>
      by_cases hs : node ∈ settled
      · rw [step_settled hs]
        rcases h with h | h | h
        · exact .inl h
        · exact .inr (.inl h)
        · rcases List.mem_cons.1 h with rfl | h
          · exact .inl hs
          · exact .inr (.inr h)
      · by_cases hk : node ∈ keep
        · rw [step_keep hs hk]
          rcases h with h | h | h
          · exact .inl h
          · exact .inr (.inl h)
          · rcases List.mem_cons.1 h with rfl | h
            · exact .inr (.inl hk)
            · exact .inr (.inr (List.mem_append_left _ h))
        · rw [step_fresh hs hk]
          rcases h with h | h | h
          · exact .inl (Finset.mem_insert_of_mem h)
          · exact .inr (.inl h)
          · rcases List.mem_cons.1 h with rfl | h
            · exact .inl (Finset.mem_insert_self _ _)
            · exact .inr (.inr (List.mem_append_left _ h))

theorem covered_of_edge {node y : α} {rest : List α} {settled : Finset α}
    (hs : node ∉ settled) (hy : Edge succ node y) :
    Covered keep (step succ keep ⟨node :: rest, settled⟩) y := by
  by_cases hk : node ∈ keep
  · rw [step_keep hs hk]
    by_cases hys : y ∈ settled
    · exact .inl hys
    · exact .inr (.inr (List.mem_append_right _ (List.mem_filter.2 ⟨hy, by simpa using hys⟩)))
  · rw [step_fresh hs hk]
    by_cases hys : y ∈ insert node settled
    · exact .inl hys
    · exact .inr (.inr (List.mem_append_right _ (List.mem_filter.2 ⟨hy, by simpa using hys⟩)))

/-- The nodes that are settled were expanded, and so were those of `keep` that no longer
wait. -/
structure Expanded (succ : α → List α) (keep : Finset α) (s : State α) : Prop where
  settled : ∀ x ∈ s.settled, ∀ y, Edge succ x y → Covered keep s y
  keep : ∀ x ∈ keep, x ∈ s.queue ∨ ∀ y, Edge succ x y → Covered keep s y

theorem Expanded.step {s : State α} (h : Expanded succ keep s) :
    Expanded succ keep (step succ keep s) := by
  obtain ⟨queue, settled⟩ := s
  cases queue with
  | nil => exact h
  | cons node rest =>
      constructor
      · intro x hx y hy
        by_cases hxs : x ∈ settled
        · exact (h.settled x hxs y hy).step
        · -- the node that this turn has settled
          have hs : node ∉ settled := fun hs => hxs (by simpa [step_settled hs] using hx)
          have hxnode : x = node := by
            by_cases hk : node ∈ keep
            · rw [step_keep hs hk] at hx
              exact absurd hx hxs
            · rw [step_fresh hs hk] at hx
              exact (Finset.mem_insert.1 hx).resolve_right hxs
          exact covered_of_edge hs (hxnode ▸ hy)
      · intro x hx
        rcases h.keep x hx with hqueue | hcovered
        · rcases List.mem_cons.1 hqueue with rfl | hrest
          · right
            intro y hy
            by_cases hs : x ∈ settled
            · exact (h.settled x hs y hy).step
            · exact covered_of_edge hs hy
          · left
            by_cases hs : node ∈ settled
            · rw [step_settled hs]
              exact hrest
            · by_cases hk : node ∈ keep
              · rw [step_keep hs hk]
                exact List.mem_append_left _ hrest
              · rw [step_fresh hs hk]
                exact List.mem_append_left _ hrest
        · exact .inr fun y hy => (hcovered y hy).step

/-- Started with nothing settled and `keep` in the queue, the loop settles exactly the nodes
outside `keep` that are reached from it. -/
theorem mem_run_iff {n : ℕ} {queue : List α} (hqueue : ∀ x, x ∈ queue ↔ x ∈ keep)
    {settled : Finset α} (h : run succ keep n ⟨queue, ∅⟩ = some settled) {x : α} :
    x ∈ settled ↔ x ∉ keep ∧ ∃ k ∈ keep, Relation.TransGen (Edge succ) k x := by
  have hsound : Sound succ keep ⟨[], settled⟩ := by
    refine run_inv (P := Sound succ keep) (fun _ hs => hs.step) ⟨fun y hy => ?_, by simp⟩ h
    exact ⟨y, (hqueue y).1 hy, .refl⟩
  have hexpanded : Expanded succ keep ⟨[], settled⟩ := by
    refine run_inv (P := Expanded succ keep) (fun _ hs => hs.step) ⟨by simp, fun y hy => ?_⟩ h
    exact .inl ((hqueue y).2 hy)
  have hdisjoint : Disjoint keep settled := run_disjoint (by simp) h
  constructor
  · intro hx
    have hkeep : x ∉ keep := Finset.disjoint_right.1 hdisjoint hx
    obtain ⟨k, hk, hreach⟩ := hsound.settled x hx
    rcases Relation.reflTransGen_iff_eq_or_transGen.1 hreach with rfl | hreach
    · exact absurd hk hkeep
    · exact ⟨hkeep, k, hk, hreach⟩
  · rintro ⟨hkeep, k, hk, hreach⟩
    have hclosed : ∀ y z, y ∈ settled ∨ y ∈ keep → Edge succ y z → z ∈ settled ∨ z ∈ keep := by
      intro y z hy hyz
      have hcovered : Covered keep ⟨[], settled⟩ z := by
        rcases hy with hy | hy
        · exact hexpanded.settled y hy z hyz
        · exact (hexpanded.keep y hy).resolve_left (by simp) z hyz
      rcases hcovered with hz | hz | hz
      · exact .inl hz
      · exact .inr hz
      · simp at hz
    have hmem : x ∈ settled ∨ x ∈ keep := by
      clear hkeep
      induction hreach with
      | single hkx => exact hclosed k _ (.inr hk) hkx
      | tail _ hyz ih => exact hclosed _ _ ih hyz
    exact hmem.resolve_right hkeep

end Worklist
