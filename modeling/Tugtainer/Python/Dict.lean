import Mathlib.Data.List.Basic
import Mathlib.Data.List.Dedup

/-!
# Dictionaries

A `dict` is the list of its items in insertion order. `Dict.set` overwrites the
value of a key that is there and appends an item otherwise, as `d[k] = v` does.
-/

namespace Python

/-- The items of a dictionary in insertion order. -/
abbrev Dict (κ ν : Type) := List (κ × ν)

namespace Dict

variable {κ ν : Type} [DecidableEq κ]

/-- `d.get(k)`. -/
def get? (d : Dict κ ν) (k : κ) : Option ν :=
  match d with
  | [] => none
  | (k', v) :: rest => if k' = k then some v else get? rest k

/-- `d[k] = v`. -/
def set (d : Dict κ ν) (k : κ) (v : ν) : Dict κ ν :=
  match d with
  | [] => [(k, v)]
  | (k', v') :: rest => if k' = k then (k, v) :: rest else (k', v') :: set rest k v

/-- `{k: v for k, v in d.items() if p(k)}`. -/
def filterKeys (d : Dict κ ν) (p : κ → Bool) : Dict κ ν :=
  d.filter fun kv => p kv.1

@[simp] theorem get?_nil (k : κ) : get? ([] : Dict κ ν) k = none := rfl

theorem get?_cons (k k' : κ) (v : ν) (d : Dict κ ν) :
    get? ((k', v) :: d) k = if k' = k then some v else get? d k := rfl

@[simp] theorem get?_set_self (d : Dict κ ν) (k : κ) (v : ν) :
    (d.set k v).get? k = some v := by
  induction d with
  | nil => simp [set, get?]
  | cons kv d ih =>
      obtain ⟨k', v'⟩ := kv
      by_cases h : k' = k
      · simp [set, get?, h]
      · simp [set, get?, h, ih]

theorem get?_set_of_ne (d : Dict κ ν) {k k' : κ} (h : k ≠ k') (v : ν) :
    (d.set k v).get? k' = d.get? k' := by
  induction d with
  | nil => simp [set, get?, h]
  | cons kv d ih =>
      obtain ⟨k'', v'⟩ := kv
      by_cases hk : k'' = k
      · subst hk
        simp [set, get?, h]
      · by_cases hk' : k'' = k'
        · subst hk'
          simp [set, get?, hk]
        · simp [set, get?, hk, hk', ih]

theorem get?_set (d : Dict κ ν) (k k' : κ) (v : ν) :
    (d.set k v).get? k' = if k = k' then some v else d.get? k' := by
  by_cases h : k = k'
  · subst h
    simp
  · rw [if_neg h, get?_set_of_ne d h]

theorem get?_filterKeys (d : Dict κ ν) (p : κ → Bool) (k : κ) :
    (d.filterKeys p).get? k = if p k then d.get? k else none := by
  induction d with
  | nil => simp [filterKeys]
  | cons kv d ih =>
      obtain ⟨k', v'⟩ := kv
      have hcons : filterKeys ((k', v') :: d) p =
          if p k' then (k', v') :: filterKeys d p else filterKeys d p := List.filter_cons
      rw [hcons, get?_cons]
      by_cases hk : k' = k
      · subst hk
        cases hp : p k' <;> simp [get?_cons, ih, hp]
      · cases hp : p k' <;> simp [get?_cons, ih, hk]

theorem mem_of_get? {d : Dict κ ν} {k : κ} {v : ν} (h : d.get? k = some v) :
    (k, v) ∈ d := by
  induction d with
  | nil => simp at h
  | cons kv d ih =>
      obtain ⟨k', v'⟩ := kv
      rw [get?_cons] at h
      split at h
      · rename_i hk
        cases h
        simp [hk]
      · exact List.mem_cons_of_mem _ (ih h)

theorem get?_eq_none_iff {d : Dict κ ν} {k : κ} :
    d.get? k = none ↔ k ∉ d.map Prod.fst := by
  induction d with
  | nil => simp
  | cons kv d ih =>
      obtain ⟨k', v'⟩ := kv
      rw [get?_cons]
      split
      · rename_i hk
        simp [hk]
      · rename_i hk
        rw [ih]
        simp [Ne.symm hk]

theorem keys_set (d : Dict κ ν) (k : κ) (v : ν) :
    (d.set k v).map Prod.fst =
      if k ∈ d.map Prod.fst then d.map Prod.fst else d.map Prod.fst ++ [k] := by
  induction d with
  | nil => simp [set]
  | cons kv d ih =>
      obtain ⟨k', v'⟩ := kv
      by_cases h : k' = k
      · simp [set, h]
      · rw [set, if_neg h, List.map_cons, ih]
        by_cases hk : k ∈ d.map Prod.fst
        · rw [if_pos hk, if_pos (by simpa using Or.inr (by simpa using hk))]
          rfl
        · rw [if_neg hk, if_neg (by simpa [Ne.symm h] using hk)]
          rfl

theorem set_of_notMem {d : Dict κ ν} {k : κ} (h : k ∉ d.map Prod.fst) (v : ν) :
    d.set k v = d ++ [(k, v)] := by
  induction d with
  | nil => rfl
  | cons kv d ih =>
      rw [List.map_cons, List.mem_cons, not_or] at h
      rw [set, if_neg (Ne.symm h.1), ih h.2, List.cons_append]

theorem nodup_keys_set {d : Dict κ ν} (h : (d.map Prod.fst).Nodup) (k : κ) (v : ν) :
    ((d.set k v).map Prod.fst).Nodup := by
  rw [keys_set]
  split
  · exact h
  · rename_i hk
    exact h.append (List.nodup_singleton k) (by simpa using hk)

theorem mem_iff_get? {d : Dict κ ν} (h : (d.map Prod.fst).Nodup) {k : κ} {v : ν} :
    (k, v) ∈ d ↔ d.get? k = some v := by
  refine ⟨fun hmem => ?_, mem_of_get?⟩
  induction d with
  | nil => simp at hmem
  | cons kv d ih =>
      obtain ⟨k', v'⟩ := kv
      obtain ⟨hk, hd⟩ := List.nodup_cons.1 h
      rcases List.mem_cons.1 hmem with heq | hmem
      · cases heq
        simp [get?_cons]
      · rw [get?_cons, if_neg, ih hd hmem]
        rintro rfl
        exact hk (List.mem_map.2 ⟨(k', v), hmem, rfl⟩)

theorem filter_key_eq {d : Dict κ ν} (h : (d.map Prod.fst).Nodup) {k : κ} {v : ν}
    (hget : d.get? k = some v) : d.filter (fun kv => kv.1 = k) = [(k, v)] := by
  induction d with
  | nil => simp at hget
  | cons kv d ih =>
      obtain ⟨k', v'⟩ := kv
      obtain ⟨hk, hd⟩ := List.nodup_cons.1 h
      rw [get?_cons] at hget
      split at hget
      · rename_i heq
        cases hget
        have hrest : d.filter (fun kv => kv.1 = k') = [] := by
          rw [List.filter_eq_nil_iff]
          rintro ⟨k'', v''⟩ hmem hk''
          exact hk (List.mem_map.2 ⟨_, hmem, by simpa using hk''⟩)
        simp [← heq, hrest]
      · rename_i hne
        simp [hne, ih hd hget]

theorem nodup_keys_foldl_set {α : Type} (key : α → κ) (val : α → ν) (l : List α)
    {d : Dict κ ν} (h : (d.map Prod.fst).Nodup) :
    ((l.foldl (fun d a => d.set (key a) (val a)) d).map Prod.fst).Nodup := by
  induction l generalizing d with
  | nil => exact h
  | cons a l ih => exact ih (nodup_keys_set h _ _)

theorem foldl_set_eq_append {d l : Dict κ ν} (h : ((d ++ l).map Prod.fst).Nodup) :
    l.foldl (fun d kv => d.set kv.1 kv.2) d = d ++ l := by
  induction l generalizing d with
  | nil => simp
  | cons kv l ih =>
      have hkv : kv.1 ∉ d.map Prod.fst := by
        intro hmem
        rw [List.map_append, List.nodup_append] at h
        exact h.2.2 kv.1 hmem kv.1 (by simp) rfl
      rw [List.foldl_cons, set_of_notMem hkv, ih (by simpa using h)]
      simp

/-- A dictionary filled in a loop holds, under each key, what the last element
with that key put there. -/
theorem get?_foldl_set {α : Type} (key : α → κ) (val : α → ν) (l : List α)
    (d : Dict κ ν) (k : κ) :
    (l.foldl (fun d a => d.set (key a) (val a)) d).get? k =
      ((l.reverse.find? fun a => key a = k).map val).or (d.get? k) := by
  induction l generalizing d with
  | nil => simp
  | cons a l ih =>
      rw [List.foldl_cons, ih, List.reverse_cons, List.find?_append, get?_set]
      cases h : l.reverse.find? fun a => key a = k with
      | some b => simp
      | none => by_cases hk : key a = k <;> simp [hk]

end Dict

end Python
