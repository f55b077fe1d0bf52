import Mathlib.Data.Finset.Card

/-!
# A cache with a maximal size and a time to live

A `TTLCache` is the list of its entries, the least recently written one first.
Writing a new key into a full cache evicts the first entry, and an entry is gone
`ttl` after it was written. This is an assumption on the package: in cachetools 6.2.6
a read renews the place of an entry too, so that the entry evicted is the one that was
least recently written or read. `Reflects` relates a cache to the log of everything
that was written to it. A key still has the value written last exactly as long as
fewer than `maxsize` other keys have been written since and less than `ttl` has
passed (`Kept`): `Reflects.get?` and `Reflects.get?_eq_none`.
-/

namespace Cachetools

/-- A value under its key, and when it was written. -/
structure Entry (κ ν : Type) where
  key : κ
  value : ν
  written : ℕ
  deriving DecidableEq, Repr

/-- The entries of a cache, the least recently written one first. -/
abbrev TTLCache (κ ν : Type) := List (Entry κ ν)

variable {κ ν : Type} [DecidableEq κ] (maxsize ttl now : ℕ)

namespace TTLCache

def expire (c : TTLCache κ ν) : TTLCache κ ν :=
  c.filter fun e => now < e.written + ttl

/-- `cache.get(k)`. -/
def get? (c : TTLCache κ ν) (k : κ) : Option ν :=
  ((c.expire ttl now).find? fun e => e.key = k).map Entry.value

/-- The cache without the entry of a key that is written, or with room for it. -/
def makeRoom (c : TTLCache κ ν) (k : κ) : TTLCache κ ν :=
  if c.any fun e => e.key = k then c.filter fun e => e.key ≠ k
  else if maxsize ≤ c.length then c.tail else c

/-- `cache[k] = v`. -/
def set (c : TTLCache κ ν) (k : κ) (v : ν) : TTLCache κ ν :=
  (c.expire ttl now).makeRoom maxsize k ++ [⟨k, v, now⟩]

end TTLCache

def lastWrite (log : List (Entry κ ν)) (k : κ) : Option (Entry κ ν) :=
  log.find? fun e => e.key = k

def writtenSince (log : List (Entry κ ν)) (k : κ) : Finset κ :=
  ((log.takeWhile fun e => e.key ≠ k).map Entry.key).toFinset

/-- Few enough other keys have been written since, and recently enough. -/
def Kept (log : List (Entry κ ν)) (k : κ) : Prop :=
  (writtenSince log k).card < maxsize ∧ ∀ e, lastWrite log k = some e → now < e.written + ttl

instance (log : List (Entry κ ν)) (k : κ) : Decidable (Kept maxsize ttl now log k) :=
  match h : lastWrite log k with
  | none => decidable_of_iff ((writtenSince log k).card < maxsize) (by simp [Kept, h])
  | some e => decidable_of_iff ((writtenSince log k).card < maxsize ∧ now < e.written + ttl)
      (by simp [Kept, h])

@[simp] theorem lastWrite_cons_self (log : List (Entry κ ν)) (k : κ) (v : ν) :
    lastWrite (⟨k, v, now⟩ :: log) k = some ⟨k, v, now⟩ := by
  simp [lastWrite]

theorem lastWrite_cons_of_ne {k k' : κ} (h : k ≠ k') (log : List (Entry κ ν)) (v : ν) :
    lastWrite (⟨k, v, now⟩ :: log) k' = lastWrite log k' := by
  simp [lastWrite, h]

theorem writtenSince_cons_of_ne {k k' : κ} (h : k ≠ k') (log : List (Entry κ ν)) (v : ν) :
    writtenSince (⟨k, v, now⟩ :: log) k' = insert k (writtenSince log k') := by
  simp [writtenSince, h]

/-- The writes of a log come in the order of time. -/
def Chronological (log : List (Entry κ ν)) : Prop :=
  log.Pairwise (fun e e' => e'.written ≤ e.written) ∧ ∀ e ∈ log, e.written ≤ now

/-- How a cache reflects the log of what was written to it. -/
structure Reflects (log : List (Entry κ ν)) (c : TTLCache κ ν) : Prop where
  nodup : (c.map Entry.key).Nodup
  /-- what comes after an entry was written since -/
  recent : ∀ k e, lastWrite log k = some e → Kept maxsize ttl now log k →
    ∃ pre post, c = pre ++ e :: post ∧ ∀ e' ∈ post, e'.key ∈ writtenSince log k
  size : c.length ≤ maxsize
  last : ∀ e ∈ c, lastWrite log e.key = some e
  /-- what was written since an entry comes after it -/
  order : ∀ pre e post, c = pre ++ e :: post → now < e.written + ttl →
    ∀ k ∈ writtenSince log e.key, k ∈ post.map Entry.key
  chronological : Chronological now log

variable {maxsize ttl now} {log : List (Entry κ ν)} {c : TTLCache κ ν}

theorem reflects_nil : Reflects maxsize ttl now ([] : List (Entry κ ν)) [] where
  nodup := List.nodup_nil
  recent k e h := by simp [lastWrite] at h
  size := Nat.zero_le _
  last e h := nomatch h
  order pre e post h := by simp at h
  chronological := ⟨List.Pairwise.nil, fun e h => nomatch h⟩

theorem Kept.mono {k : κ} {now' : ℕ} (h : Kept maxsize ttl now' log k) (hnow : now ≤ now') :
    Kept maxsize ttl now log k :=
  ⟨h.1, fun e he => lt_of_le_of_lt hnow (h.2 e he)⟩

theorem Reflects.mono {now' : ℕ} (h : Reflects maxsize ttl now log c) (hnow : now ≤ now') :
    Reflects maxsize ttl now' log c where
  nodup := h.nodup
  recent k e he hkept := h.recent k e he (hkept.mono hnow)
  size := h.size
  last := h.last
  order pre e post hc hlive := h.order pre e post hc (lt_of_le_of_lt hnow hlive)
  chronological := ⟨h.chronological.1, fun e he => (h.chronological.2 e he).trans hnow⟩

theorem key_of_lastWrite {k : κ} {e : Entry κ ν} (h : lastWrite log k = some e) : e.key = k := by
  simpa using List.find?_some h

theorem exists_makeRoom {pre post : TTLCache κ ν} {e : Entry κ ν} {k : κ} (hne : k ≠ e.key)
    (hnodup : ((pre ++ e :: post).map Entry.key).Nodup) {since : Finset κ}
    (hpost : ∀ e' ∈ post, e'.key ∈ since) (hcard : (insert k since).card < maxsize) :
    ∃ pre' post', (pre ++ e :: post).makeRoom maxsize k = pre' ++ e :: post' ∧
      ∀ e' ∈ post', e'.key ∈ since := by
  unfold TTLCache.makeRoom
  split
  · refine ⟨pre.filter fun e => e.key ≠ k, post.filter fun e => e.key ≠ k, ?_,
      fun e' he' => hpost e' (List.mem_filter.1 he').1⟩
    rw [List.filter_append, List.filter_cons_of_pos (by simpa using hne.symm)]
  · rename_i hany
    split
    · rename_i hfull
      cases pre with
      | cons a pre => exact ⟨pre, post, rfl, hpost⟩
      | nil =>
          -- the entry would be evicted, but then too many keys have been written since
          exfalso
          have hkeys : (post.map Entry.key).toFinset ⊆ since := by
            intro key hkey
            obtain ⟨e', he', rfl⟩ := List.mem_map.1 (List.mem_toFinset.1 hkey)
            exact hpost e' he'
          have hk : k ∉ (post.map Entry.key).toFinset := by
            intro hkey
            obtain ⟨e', he', heq⟩ := List.mem_map.1 (List.mem_toFinset.1 hkey)
            exact hany (List.any_eq_true.2 ⟨e', by simp [he'], by simpa using heq⟩)
          have hlen : (post.map Entry.key).toFinset.card = post.length := by
            rw [List.toFinset_card_of_nodup (List.nodup_cons.1 hnodup).2, List.length_map]
          have hcount : post.length + 1 ≤ (insert k since).card := by
            calc post.length + 1 = (insert k (post.map Entry.key).toFinset).card := by
                  rw [Finset.card_insert_of_notMem hk, hlen]
              _ ≤ (insert k since).card := Finset.card_le_card (Finset.insert_subset_insert k hkeys)
          have hlength : ([] ++ e :: post).length = post.length + 1 := rfl
          omega
    · exact ⟨pre, post, rfl, hpost⟩

theorem nodup_makeRoom {k : κ} (h : (c.map Entry.key).Nodup) :
    ((c.makeRoom maxsize k).map Entry.key).Nodup := by
  unfold TTLCache.makeRoom
  split
  · exact h.sublist ((List.filter_sublist).map _)
  · split
    · exact h.sublist ((List.tail_sublist c).map _)
    · exact h

theorem notMem_makeRoom (c : TTLCache κ ν) (k : κ) :
    k ∉ (c.makeRoom maxsize k).map Entry.key := by
  intro hmem
  obtain ⟨e, he, rfl⟩ := List.mem_map.1 hmem
  unfold TTLCache.makeRoom at he
  split at he
  · simpa using (List.mem_filter.1 he).2
  · rename_i hany
    refine hany (List.any_eq_true.2 ⟨e, ?_, by simp⟩)
    split at he
    · exact List.mem_of_mem_tail he
    · exact he

theorem length_makeRoom_lt (hmax : 0 < maxsize) (h : c.length ≤ maxsize) (k : κ) :
    (c.makeRoom maxsize k).length < maxsize := by
  unfold TTLCache.makeRoom
  split
  · rename_i hany
    obtain ⟨e, he, hkey⟩ := List.any_eq_true.1 hany
    refine lt_of_lt_of_le (List.length_filter_lt_length_iff_exists.2 ⟨e, he, ?_⟩) h
    simpa using hkey
  · split
    · rename_i hfull
      rw [List.length_tail]
      omega
    · omega

theorem written_le_of_mem_writtenSince (h : Chronological now log) {k k' : κ} {e e' : Entry κ ν}
    (he : lastWrite log k = some e) (he' : lastWrite log k' = some e')
    (hk' : k' ∈ writtenSince log k) : e.written ≤ e'.written := by
  induction log with
  | nil => simp [lastWrite] at he
  | cons a log ih =>
      obtain ⟨⟨hfirst, hlog⟩, hnow⟩ := And.imp_left List.pairwise_cons.1 h
      have hmem : e ∈ a :: log := List.mem_of_find?_eq_some he
      by_cases ha' : a.key = k'
      · obtain rfl : a = e' := by simpa [lastWrite, ha'] using he'
        rcases List.mem_cons.1 hmem with rfl | hmem
        · exact le_rfl
        · exact hfirst e hmem
      · by_cases ha : a.key = k
        · simp [writtenSince, ha] at hk'
        · obtain ⟨key, value, written⟩ := a
          rw [lastWrite_cons_of_ne written ha] at he
          rw [lastWrite_cons_of_ne written ha'] at he'
          rw [writtenSince_cons_of_ne written ha, Finset.mem_insert] at hk'
          exact ih ⟨hlog, fun e he => hnow e (List.mem_cons_of_mem _ he)⟩ he he'
            (hk'.resolve_left (Ne.symm ha'))

theorem mem_of_mem_makeRoom {k : κ} {e : Entry κ ν} (h : e ∈ c.makeRoom maxsize k) : e ∈ c := by
  unfold TTLCache.makeRoom at h
  split at h
  · exact (List.mem_filter.1 h).1
  · split at h
    · exact List.mem_of_mem_tail h
    · exact h

omit [DecidableEq κ] in
/-- An entry of a filtered cache stands in the cache with what is left after it. -/
theorem exists_of_filter_eq {pre post : TTLCache κ ν} {e : Entry κ ν} {p : Entry κ ν → Bool}
    (h : c.filter p = pre ++ e :: post) :
    ∃ pre₀ post₀, c = pre₀ ++ e :: post₀ ∧ post = post₀.filter p := by
  obtain ⟨c₁, c₂, rfl, -, h₂⟩ := List.filter_eq_append_iff.1 h
  obtain ⟨c₃, post₀, rfl, -, -, rfl⟩ := List.filter_eq_cons_iff.1 h₂
  exact ⟨c₁ ++ c₃, post₀, by simp, rfl⟩

/-- Making room takes nothing from behind an entry that stays, but for the key itself. -/
theorem exists_of_makeRoom_eq {pre post : TTLCache κ ν} {e : Entry κ ν} {k : κ}
    (h : c.makeRoom maxsize k = pre ++ e :: post) :
    ∃ pre₀ post₀, c = pre₀ ++ e :: post₀ ∧ ∀ e' ∈ post₀, e'.key ≠ k → e' ∈ post := by
  unfold TTLCache.makeRoom at h
  split at h
  · obtain ⟨pre₀, post₀, hc, rfl⟩ := exists_of_filter_eq h
    exact ⟨pre₀, post₀, hc, fun e' he' hk => List.mem_filter.2 ⟨he', by simpa using hk⟩⟩
  · split at h
    · cases c with
      | nil => simp at h
      | cons a c =>
          obtain rfl : c = pre ++ e :: post := h
          exact ⟨a :: pre, post, rfl, fun e' he' _ => he'⟩
    · exact ⟨pre, post, h, fun e' he' _ => he'⟩

theorem Reflects.order_expire (h : Reflects maxsize ttl now log c) {pre post : TTLCache κ ν}
    {e : Entry κ ν} (hc : c.expire ttl now = pre ++ e :: post) :
    ∀ k ∈ writtenSince log e.key, k ∈ post.map Entry.key := by
  intro k hk
  have hlive : now < e.written + ttl := by
    have hmem : e ∈ c.expire ttl now := by simp [hc]
    simpa using (List.mem_filter.1 hmem).2
  obtain ⟨pre₀, post₀, rfl, rfl⟩ := exists_of_filter_eq hc
  obtain ⟨e', he', rfl⟩ := List.mem_map.1 (h.order pre₀ e post₀ rfl hlive k hk)
  have hle := written_le_of_mem_writtenSince h.chronological (h.last e (by simp))
    (h.last e' (by simp [he'])) hk
  exact List.mem_map.2 ⟨e', List.mem_filter.2 ⟨he', by simp; omega⟩, rfl⟩

theorem Reflects.recent_set (h : Reflects maxsize ttl now log c) (k : κ) (v : ν) {k' : κ}
    {e : Entry κ ν} (he : lastWrite (⟨k, v, now⟩ :: log) k' = some e)
    (hkept : Kept maxsize ttl now (⟨k, v, now⟩ :: log) k') :
    ∃ pre post, c.set maxsize ttl now k v = pre ++ e :: post ∧
      ∀ e' ∈ post, e'.key ∈ writtenSince (⟨k, v, now⟩ :: log) k' := by
  by_cases hk : k = k'
  · subst hk
    rw [lastWrite_cons_self] at he
    cases he
    exact ⟨_, [], rfl, by simp⟩
  rw [lastWrite_cons_of_ne now hk] at he
  have hcard := hkept.1
  rw [writtenSince_cons_of_ne now hk] at hcard
  have hlive : now < e.written + ttl := by
    refine hkept.2 e ?_
    rwa [lastWrite_cons_of_ne now hk]
  obtain ⟨pre, post, hc, hpost⟩ := h.recent k' e he
    ⟨lt_of_le_of_lt (Finset.card_le_card (Finset.subset_insert k _)) hcard,
      fun e' he' => by rw [he] at he'; cases he'; exact hlive⟩
  have hexpire : c.expire ttl now =
      TTLCache.expire ttl now pre ++ e :: TTLCache.expire ttl now post := by
    rw [hc, TTLCache.expire, List.filter_append, List.filter_cons_of_pos (by simpa using hlive)]
    rfl
  have hnodup : ((c.expire ttl now).map Entry.key).Nodup :=
    h.nodup.sublist ((List.filter_sublist).map _)
  rw [hexpire] at hnodup
  obtain ⟨pre', post', hroom, hpost'⟩ := exists_makeRoom (k := k)
    (fun heq => hk (heq.trans (key_of_lastWrite he))) hnodup
    (fun e' he' => hpost e' (List.mem_filter.1 he').1) hcard
  refine ⟨pre', post' ++ [⟨k, v, now⟩], ?_, ?_⟩
  · rw [TTLCache.set, hexpire, hroom]
    simp
  · intro e' he'
    rw [writtenSince_cons_of_ne now hk]
    rcases List.mem_append.1 he' with he' | he'
    · exact Finset.mem_insert_of_mem (hpost' e' he')
    · cases List.mem_singleton.1 he'
      exact Finset.mem_insert_self _ _

theorem Reflects.order_set (h : Reflects maxsize ttl now log c) (k : κ) (v : ν)
    {pre post : TTLCache κ ν} {e : Entry κ ν}
    (hc : c.set maxsize ttl now k v = pre ++ e :: post) :
    ∀ k' ∈ writtenSince (⟨k, v, now⟩ :: log) e.key, k' ∈ post.map Entry.key := by
  intro k' hk'
  rcases List.eq_nil_or_concat post with rfl | ⟨post, a, rfl⟩
  · -- the entry is the one just written
    obtain ⟨-, heq⟩ := List.append_inj' hc rfl
    cases heq
    simp [writtenSince] at hk'
  · rw [List.concat_eq_append, ← List.cons_append, ← List.append_assoc] at hc
    obtain ⟨hroom, heq⟩ := List.append_inj' hc rfl
    cases heq
    rw [List.concat_eq_append, List.map_append, List.mem_append]
    obtain ⟨pre₀, post₀, hexpire, hpost⟩ := exists_of_makeRoom_eq hroom
    by_cases hk : k' = k
    · exact .inr (by simp [hk])
    · refine .inl ?_
      have hne : k ≠ e.key := by
        rintro rfl
        have hmem : e.key ∈ ((c.expire ttl now).makeRoom maxsize e.key).map Entry.key := by
          rw [hroom]
          simp
        exact notMem_makeRoom _ _ hmem
      rw [writtenSince_cons_of_ne now hne, Finset.mem_insert] at hk'
      obtain ⟨e', he', rfl⟩ := List.mem_map.1 (h.order_expire hexpire k' (hk'.resolve_left hk))
      exact List.mem_map.2 ⟨e', hpost e' he' hk, rfl⟩

theorem Reflects.set (h : Reflects maxsize ttl now log c) (hmax : 0 < maxsize) (k : κ) (v : ν) :
    Reflects maxsize ttl now (⟨k, v, now⟩ :: log) (c.set maxsize ttl now k v) where
  nodup := by
    have hnodup : ((c.expire ttl now).map Entry.key).Nodup :=
      h.nodup.sublist ((List.filter_sublist).map _)
    rw [TTLCache.set, List.map_append]
    exact (nodup_makeRoom hnodup).append (List.nodup_singleton k)
      (by simpa using notMem_makeRoom (c.expire ttl now) k)
  recent k' e he hkept := h.recent_set k v he hkept
  size := by
    have hexpire : (c.expire ttl now).length ≤ maxsize :=
      (List.length_filter_le _ _).trans h.size
    rw [TTLCache.set, List.length_append]
    exact length_makeRoom_lt hmax hexpire k
  last e he := by
    rcases List.mem_append.1 he with he | he
    · have hne : k ≠ e.key := fun hk => notMem_makeRoom _ _ (hk ▸ List.mem_map_of_mem he)
      rw [lastWrite_cons_of_ne now hne]
      exact h.last e (List.mem_filter.1 (mem_of_mem_makeRoom he)).1
    · cases List.mem_singleton.1 he
      exact lastWrite_cons_self now log k v
  order pre e post hc _ := h.order_set k v hc
  chronological := by
    refine ⟨List.pairwise_cons.2 ⟨h.chronological.2, h.chronological.1⟩, fun e he => ?_⟩
    rcases List.mem_cons.1 he with rfl | he
    · exact le_rfl
    · exact h.chronological.2 e he

theorem Reflects.get? (h : Reflects maxsize ttl now log c) {k : κ} {e : Entry κ ν}
    (he : lastWrite log k = some e) (hkept : Kept maxsize ttl now log k) :
    c.get? ttl now k = some e.value := by
  obtain ⟨pre, post, rfl, -⟩ := h.recent k e he hkept
  have hkey := key_of_lastWrite he
  have hexpire : TTLCache.expire ttl now (pre ++ e :: post) =
      TTLCache.expire ttl now pre ++ e :: TTLCache.expire ttl now post := by
    rw [TTLCache.expire, List.filter_append,
      List.filter_cons_of_pos (by simpa using hkept.2 e he)]
    rfl
  have hpre : (TTLCache.expire ttl now pre).find? (fun e' => e'.key = k) = none := by
    rw [List.find?_eq_none]
    intro e' he' hkey'
    have hdisjoint := (List.nodup_append.1 (by simpa using h.nodup :
      (pre.map Entry.key ++ e.key :: post.map Entry.key).Nodup)).2.2
    exact hdisjoint e'.key (List.mem_map.2 ⟨e', (List.mem_filter.1 he').1, rfl⟩) e.key (by simp)
      (by simpa [hkey] using hkey')
  rw [TTLCache.get?, hexpire, List.find?_append, hpre]
  simp [hkey]

theorem Reflects.get?_eq_none (h : Reflects maxsize ttl now log c) {k : κ}
    (hkept : ¬ Kept maxsize ttl now log k) : c.get? ttl now k = none := by
  rw [TTLCache.get?, Option.map_eq_none_iff, List.find?_eq_none]
  intro e he hkey
  obtain rfl : e.key = k := by simpa using hkey
  obtain ⟨pre, post, hexpire⟩ := List.append_of_mem he
  have hmem := List.mem_filter.1 he
  refine hkept ⟨?_, fun e' he' => ?_⟩
  · have hsubset : writtenSince log e.key ⊆ (post.map Entry.key).toFinset := fun k hk =>
      List.mem_toFinset.2 (h.order_expire hexpire k hk)
    have hlength : (pre ++ e :: post).length ≤ maxsize :=
      hexpire ▸ (List.length_filter_le _ _).trans h.size
    calc (writtenSince log e.key).card ≤ (post.map Entry.key).toFinset.card :=
          Finset.card_le_card hsubset
      _ ≤ (post.map Entry.key).length := List.toFinset_card_le _
      _ = post.length := List.length_map _
      _ < maxsize := by
          rw [List.length_append, List.length_cons] at hlength
          omega
  · rw [h.last e hmem.1] at he'
    cases he'
    simpa using hmem.2

end Cachetools
