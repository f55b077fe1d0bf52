import Mathlib.Data.Finset.Basic
import Mathlib.Data.List.Sort
import Mathlib.Data.String.Basic

/-!
# The order in which sets are iterated

A `set` is a `Finset`. Python promises nothing about the order in which it
iterates one, so that order is a parameter: a `SetOrder ι` lists the elements
of every set once, and may list them differently at every place `ι` of the
program. `sortedList` is `sorted(s)`, and gives one such order that evaluates.
-/

namespace Python

variable {α : Type} [LinearOrder α]

/-- `sorted(s)`. -/
def sortedList (s : Finset α) : List α :=
  Quot.liftOn s.val (List.insertionSort (· ≤ ·)) fun _ _ h =>
    List.Perm.eq_of_pairwise' (List.pairwise_insertionSort (· ≤ ·) _)
      (List.pairwise_insertionSort _ _)
      ((List.perm_insertionSort _ _).trans (h.trans (List.perm_insertionSort _ _).symm))

theorem coe_sortedList (s : Finset α) : (sortedList s : Multiset α) = s.val := by
  obtain ⟨⟨l⟩, h⟩ := s
  exact Quot.sound (List.perm_insertionSort _ _)

theorem nodup_sortedList (s : Finset α) : (sortedList s).Nodup := by
  rw [← Multiset.coe_nodup, coe_sortedList]
  exact s.nodup

theorem mem_sortedList (s : Finset α) (x : α) : x ∈ sortedList s ↔ x ∈ s := by
  rw [← Multiset.mem_coe, coe_sortedList, Finset.mem_val]

/-- An order in which the sets of a program are iterated, place by place. -/
structure SetOrder (ι α : Type) where
  iter : ι → Finset α → List α
  nodup : ∀ i s, (iter i s).Nodup
  mem_iff : ∀ i s x, x ∈ iter i s ↔ x ∈ s

/-- Every set is iterated in ascending order. -/
def SetOrder.ascending (ι : Type) : SetOrder ι α where
  iter _ := sortedList
  nodup _ := nodup_sortedList
  mem_iff _ := mem_sortedList

end Python
