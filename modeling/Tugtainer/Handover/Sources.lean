import Mathlib.Data.List.Basic

/-!
# Values that are handed on

An owner hands a value on along a list of sources, each of which may have a value of its own.
Three ways of doing so: the value that was there first stays, the newest one wins, or the
value stays until a source has the same one. What is left at the end is said without the
steps in between.
-/

namespace Handover

variable {ι α σ : Type}

theorem foldl_or (f : ι → Option α) (v : Option α) (sources : List ι) :
    sources.foldl (fun v i => v.or (f i)) v = v.or (sources.findSome? f) := by
  induction sources generalizing v with
  | nil => simp
  | cons i sources ih =>
      rw [List.foldl_cons, ih, Option.or_assoc, List.findSome?_cons]
      cases f i <;> rfl

theorem foldl_or_rev (f : ι → Option α) (v : Option α) (sources : List ι) :
    sources.foldl (fun v i => (f i).or v) v = (sources.reverse.findSome? f).or v := by
  induction sources generalizing v with
  | nil => simp
  | cons i sources ih =>
      rw [List.foldl_cons, ih, List.reverse_cons, List.findSome?_append, Option.or_assoc]
      cases h : f i <;> simp [h]

theorem foldl_filter (p : ι → α → Bool) (v : Option α) (sources : List ι) :
    sources.foldl (fun v i => v.filter (p i)) v = v.filter fun a => sources.all (p · a) := by
  induction sources generalizing v with
  | nil => cases v <;> rfl
  | cons i sources ih =>
      rw [List.foldl_cons, ih, Option.filter_filter]
      simp only [List.all_cons]

theorem filter_eq_self {p : α → Bool} {v : Option α} (h : ∀ a, v = some a → p a) :
    v.filter p = v := by
  cases v with
  | none => rfl
  | some a => exact Option.filter_some_pos (h a rfl)

theorem or_filter_ne [DecidableEq α] {v w : Option α} (h : v.or w = v) :
    (v.filter (w ≠ some ·)).or w = v := by
  cases v with
  | none => exact h
  | some a =>
      by_cases hw : w = some a
      · rw [hw, Option.filter_some_neg (by simp), Option.none_or]
      · rw [Option.filter_some_pos (by simpa using hw), Option.some_or]

theorem read_foldl (read : σ → α) {step : σ → ι → σ} {own : α → ι → α}
    (h : ∀ s i, read (step s i) = own (read s) i) (s : σ) (sources : List ι) :
    read (sources.foldl step s) = sources.foldl own (read s) :=
  (List.foldl_hom read fun s i => (h s i).symm).symm

end Handover
