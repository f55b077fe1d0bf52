import Tugtainer.Check.Record

/-!
# Checks of one container in sequence

What a check reports and saves depends on the row, and the row on the checks before it:
`rowAfter` follows it through a sequence of complete checks. The stored digests are
those of the last check, and a failed lookup stores none, so what was found before it
is forgotten: `deletionsTransparent_iff` says when that shows. They are stored whatever
the check reports, so a digest may count as notified that never was:
`announcedBefore_iff` says when.
-/

namespace Tugtainer

open Python

variable (hostId : Int) (name : String)

def rowAfter (row : Option ContainersModel) (cs : List Check) : Option ContainersModel :=
  cs.foldl (fun row c => some (c.save row hostId name)) row

@[simp] theorem rowAfter_concat (row : Option ContainersModel) (cs : List Check) (c : Check) :
    rowAfter hostId name row (cs ++ [c]) =
      some (c.save (rowAfter hostId name row cs) hostId name) := by
  simp [rowAfter]

theorem storedDigests_concat (row : Option ContainersModel) (cs : List Check) (c : Check) :
    storedDigests (rowAfter hostId name row (cs ++ [c])) = some c.remoteDigests := by
  rw [rowAfter_concat]
  exact Check.save_remoteDigests

theorem remoteDigests_eq_singleton_iff {c : Check} {d : String} :
    c.remoteDigests = [d] ↔ c.remoteDigest = some d := by
  cases h : c.remoteDigest <;> simp [Check.remoteDigests, h]

theorem result_eq_notified_iff {c : Check} {row : Option ContainersModel} {d : String}
    (h : c.remoteDigest = some d) :
    c.result row = some .availableNotified ↔ c.Misses d ∧ storedDigests row = some [d] := by
  rw [Check.result_of_some h]
  split_ifs <;> simp_all

theorem result_eq_available_iff {c : Check} {row : Option ContainersModel} {d : String}
    (h : c.remoteDigest = some d) :
    c.result row = some .available ↔ c.Misses d ∧ storedDigests row ≠ some [d] := by
  rw [Check.result_of_some h]
  split_ifs <;> simp_all

/-! ## What was notified -/

/-- Whenever a check says that a digest was notified, an earlier one has reported it as
available. -/
def AnnouncedBefore (cs : List Check) : Prop :=
  ∀ pre c post d, cs = pre ++ c :: post → c.remoteDigest = some d →
    c.result (rowAfter hostId name none pre) = some .availableNotified →
      ∃ pre' c' post', pre = pre' ++ c' :: post' ∧ c'.remoteDigest = some d ∧
        c'.result (rowAfter hostId name none pre') = some .available

/-- Of two checks in a row that obtain the same digest, the second one misses it only
if an earlier check did so. -/
def MissedAtFirst (cs : List Check) : Prop :=
  ∀ pre b c post d, cs = pre ++ b :: c :: post → b.remoteDigest = some d →
    c.remoteDigest = some d → c.Misses d → ∃ a ∈ pre ++ [b], a.remoteDigest = some d ∧ a.Misses d

variable {hostId name} {cs : List Check} {c : Check} {d : String}

theorem exists_concat_of_storedDigests
    (h : storedDigests (rowAfter hostId name none cs) = some [d]) :
    ∃ pre b, cs = pre ++ [b] ∧ b.remoteDigest = some d := by
  rcases cs.eq_nil_or_concat' with rfl | ⟨pre, b, rfl⟩
  · cases h
  · rw [storedDigests_concat, Option.some_inj, remoteDigests_eq_singleton_iff] at h
    exact ⟨pre, b, rfl, h⟩

theorem exists_available (h : MissedAtFirst cs) {pre post : List Check} (hcs : cs = pre ++ post)
    {a : Check} (ha : a ∈ pre) (hd : a.remoteDigest = some d) (hmiss : a.Misses d) :
    ∃ pre' c' post', pre = pre' ++ c' :: post' ∧ c'.remoteDigest = some d ∧
      c'.result (rowAfter hostId name none pre') = some .available := by
  have hsome : (pre.find? fun c => c.remoteDigest = some d ∧ c.Misses d).isSome :=
    List.find?_isSome.2 ⟨a, ha, by simp [hd, hmiss]⟩
  obtain ⟨c', hfind⟩ := Option.isSome_iff_exists.1 hsome
  obtain ⟨hc', pre', post', rfl, hfirst⟩ := List.find?_eq_some_iff_append.1 hfind
  simp only [decide_eq_true_eq, Bool.not_eq_true', decide_eq_false_iff_not, not_and] at hc' hfirst
  refine ⟨pre', c', post', rfl, hc'.1, (result_eq_available_iff hc'.1).2 ⟨hc'.2, fun hstored => ?_⟩⟩
  -- otherwise the check before obtained it too, and it was missed earlier
  obtain ⟨pre₀, b, rfl, hb⟩ := exists_concat_of_storedDigests hstored
  obtain ⟨a', ha', hd', hmiss'⟩ := h pre₀ b c' (post' ++ post) d (by simp [hcs]) hb hc'.1 hc'.2
  exact hfirst a' ha' hd' hmiss'

/-- A digest counts as notified only where it was, exactly if the first check that misses
it does not come right after another one that obtained it. -/
theorem announcedBefore_iff : AnnouncedBefore hostId name cs ↔ MissedAtFirst cs := by
  constructor
  · intro h pre b c post d hcs hb hc hmiss
    have hnotified : c.result (rowAfter hostId name none (pre ++ [b])) = some .availableNotified :=
      (result_eq_notified_iff hc).2 ⟨hmiss, by
        rw [storedDigests_concat, remoteDigests_eq_singleton_iff.2 hb]⟩
    obtain ⟨pre', c', post', hpre, hd, havailable⟩ :=
      h (pre ++ [b]) c post d (by simp [hcs]) hc hnotified
    exact ⟨c', by simp [hpre], hd, ((result_eq_available_iff hd).1 havailable).1⟩
  · intro h pre c post d hcs hc hnotified
    obtain ⟨hmiss, hstored⟩ := (result_eq_notified_iff hc).1 hnotified
    obtain ⟨pre₀, b, rfl, hb⟩ := exists_concat_of_storedDigests hstored
    obtain ⟨a, ha, hd, hmiss'⟩ := h pre₀ b c post d (by simp [hcs]) hb hc hmiss
    exact exists_available h hcs ha hd hmiss'

/-- A check of an image that is up to date. -/
def newestCheck : Check where
  imageId := some "sha256:new"
  localDigests := ["app@sha256:d2"]
  remoteDigest := some "sha256:d2"
  checkedAt := 10
  changedAt := 10

/-- A check after the image was replaced by an older one. -/
def downgradedCheck : Check where
  imageId := some "sha256:old"
  localDigests := ["app@sha256:d1"]
  remoteDigest := some "sha256:d2"
  checkedAt := 20
  changedAt := 20

/-- The second check hides the update as notified. -/
theorem not_announcedBefore_downgraded :
    ¬ AnnouncedBefore 1 "app" [newestCheck, downgradedCheck] := by
  intro h
  obtain ⟨pre', c', post', hpre, -, havailable⟩ :=
    h [newestCheck] downgradedCheck [] "sha256:d2" rfl rfl (by decide)
  cases pre' with
  | nil =>
      obtain ⟨rfl, -⟩ := List.cons.inj hpre
      revert havailable
      decide
  | cons _ pre' => simp at hpre

/-! ## Deleted checks -/

/-- The checks that are left when those that are marked are deleted. -/
def remaining (l : List (Check × Bool)) : List Check :=
  (l.filter fun e => !e.2).map Prod.fst

/-- The columns of a row that a deletion may not change. -/
def SameColumns (row row' : ContainersModel) : Prop :=
  row.updateAvailable = row'.updateAvailable ∧ row.remoteDigests = row'.remoteDigests ∧
    row.remoteDigestsChangedAt = row'.remoteDigestsChangedAt

instance (row row' : ContainersModel) : Decidable (SameColumns row row') :=
  inferInstanceAs (Decidable (_ ∧ _))

section

variable (hostId : Int) (name : String) (row : Option ContainersModel) (l : List (Check × Bool))

/-- Every check that is left reports the same and leaves the same columns as if nothing
had been deleted. -/
def DeletionsTransparent : Prop :=
  ∀ pre c post, l = pre ++ (c, false) :: post →
    c.result (rowAfter hostId name row (pre.map Prod.fst)) =
        c.result (rowAfter hostId name row (remaining pre)) ∧
      SameColumns (c.save (rowAfter hostId name row (pre.map Prod.fst)) hostId name)
        (c.save (rowAfter hostId name row (remaining pre)) hostId name)

/-- No check that is left obtains, right after deleted ones, the digest that was stored
before those, unless the digest is a local one and was stored at the very time of the
check. -/
def NoneRepeats : Prop :=
  ∀ pre dels c post d stored, l = pre ++ (dels ++ (c, false) :: post) → dels ≠ [] →
    (∀ e ∈ dels, e.2 = true) → c.remoteDigest = some d →
      rowAfter hostId name row (pre.map Prod.fst) = some stored →
        stored.remoteDigests = some [d] →
          ¬ c.Misses d ∧ stored.remoteDigestsChangedAt = some c.changedAt

end

section

variable {row : Option ContainersModel} {l pre dels post : List (Check × Bool)}
  {before before' : Option ContainersModel}

@[simp] theorem remaining_concat_deleted : remaining (pre ++ [(c, true)]) = remaining pre := by
  simp [remaining]

@[simp] theorem remaining_concat_kept : remaining (pre ++ [(c, false)]) = remaining pre ++ [c] := by
  simp [remaining]

theorem remaining_append_deleted (h : ∀ e ∈ dels, e.2 = true) :
    remaining (pre ++ dels) = remaining pre := by
  have hnil : dels.filter (fun e => !e.2) = [] :=
    List.filter_eq_nil_iff.2 fun e he => by simp [h e he]
  simp [remaining, hnil]

/-- The columns besides the digests, as the next check sees them. -/
def SameMemory (row row' : Option ContainersModel) : Prop :=
  (row.map ContainersModel.updateAvailable).getD false =
      (row'.map ContainersModel.updateAvailable).getD false ∧
    row.bind ContainersModel.remoteDigestsChangedAt =
      row'.bind ContainersModel.remoteDigestsChangedAt

/-- Where the digests from before a deleted check may be seen again. -/
def Repeats (c : Check) (before before' : Option ContainersModel) : Prop :=
  ∃ d, c.remoteDigest = some d ∧ storedDigests before = some [] ∧ storedDigests before' = some [d] ∧
    ¬ (¬ c.Misses d ∧ before'.bind ContainersModel.remoteDigestsChangedAt = some c.changedAt)

theorem same_iff_not_repeats (hmemory : SameMemory before before')
    (hdigests : storedDigests before = storedDigests before' ∨ storedDigests before = some []) :
    (c.result before = c.result before' ∧
        SameColumns (c.save before hostId name) (c.save before' hostId name)) ↔
      ¬ Repeats c before before' := by
  unfold SameColumns Repeats
  simp only [Check.save_remoteDigests, true_and]
  cases hd : c.remoteDigest with
  | none =>
      simp [Check.result_of_none hd, Check.save_updateAvailable_of_none hd,
        Check.save_changedAt_of_none hd, hmemory.1, hmemory.2]
  | some d =>
      rw [Check.result_of_some hd, Check.result_of_some hd, Check.save_updateAvailable_of_some hd,
        Check.save_updateAvailable_of_some hd, Check.save_changedAt_of_some hd,
        Check.save_changedAt_of_some hd]
      have hmem := hmemory.2
      rcases hdigests with heq | hnil
      · -- both see the same digests
        rw [heq, hmem]
        refine ⟨fun _ => ?_, fun _ => ⟨rfl, rfl, rfl⟩⟩
        rintro ⟨d', -, hnil, hd', -⟩
        rw [hnil] at hd'
        cases hd'
      · -- with the deletions the check sees what the failed lookup has forgotten
        rw [hnil]
        by_cases hrepeat : storedDigests before' = some [d]
        · by_cases hmiss : c.Misses d <;> simp [hrepeat, hmiss, eq_comm]
        · simp [hrepeat, Ne.symm]

theorem storedDigests_remaining (h : ∀ pre₀ c, pre ≠ pre₀ ++ [(c, true)]) :
    storedDigests (rowAfter hostId name row (pre.map Prod.fst)) =
      storedDigests (rowAfter hostId name row (remaining pre)) := by
  rcases pre.eq_nil_or_concat' with rfl | ⟨pre, ⟨c, deleted⟩, rfl⟩
  · rfl
  · cases deleted with
    | false =>
        rw [List.map_append, List.map_singleton, remaining_concat_kept, storedDigests_concat,
          storedDigests_concat]
    | true => exact absurd rfl (h pre c)

theorem storedDigests_concat_deleted (hc : c.remoteDigest = none) :
    storedDigests (rowAfter hostId name row ((pre ++ [(c, true)]).map Prod.fst)) = some [] := by
  rw [List.map_append, List.map_singleton, storedDigests_concat]
  simp [Check.remoteDigests, hc]

theorem exists_last_deleted (pre : List (Check × Bool)) :
    ∃ pre₀ dels, pre = pre₀ ++ dels ∧ (∀ e ∈ dels, e.2 = true) ∧
      ∀ p c, pre₀ ≠ p ++ [(c, true)] := by
  induction pre using List.reverseRecOn with
  | nil => exact ⟨[], [], rfl, by simp, by simp⟩
  | append_singleton pre e ih =>
      obtain ⟨c, deleted⟩ := e
      cases deleted with
      | false => exact ⟨pre ++ [(c, false)], [], by simp, by simp, fun p c' h => by simp at h⟩
      | true =>
          obtain ⟨pre₀, dels, rfl, hdels, hlast⟩ := ih
          refine ⟨pre₀, dels ++ [(c, true)], by simp, fun e he => ?_, hlast⟩
          rcases List.mem_append.1 he with he | he
          · exact hdels e he
          · cases List.mem_singleton.1 he
            rfl

theorem SameMemory.deleted (h : SameMemory before before') (hc : c.remoteDigest = none) :
    SameMemory (some (c.save before hostId name)) before' := by
  constructor
  · simpa [Check.save_updateAvailable_of_none hc] using h.1
  · simpa [Check.save_changedAt_of_none hc] using h.2

/-- As long as every check that is left does the same, the other columns agree. -/
theorem sameMemory_remaining (hl : ∀ e ∈ pre, e.2 = true → e.1.remoteDigest = none)
    (h : DeletionsTransparent hostId name row pre) :
    SameMemory (rowAfter hostId name row (pre.map Prod.fst))
      (rowAfter hostId name row (remaining pre)) := by
  induction pre using List.reverseRecOn with
  | nil => exact ⟨rfl, rfl⟩
  | append_singleton pre e ih =>
      obtain ⟨c, deleted⟩ := e
      rw [List.map_append, List.map_singleton, rowAfter_concat]
      cases deleted with
      | false =>
          rw [remaining_concat_kept, rowAfter_concat]
          obtain ⟨-, hcolumns⟩ := h pre c [] rfl
          exact ⟨hcolumns.1, hcolumns.2.2⟩
      | true =>
          rw [remaining_concat_deleted]
          refine (ih (fun e he => hl e (by simp [he])) fun pre' c' post' hpre => ?_).deleted
            (hl (c, true) (by simp) rfl)
          exact h pre' c' (post' ++ [(c, true)]) (by simp [hpre])

theorem DeletionsTransparent.append (h : DeletionsTransparent hostId name row (pre ++ post)) :
    DeletionsTransparent hostId name row pre :=
  fun pre' c post' hpre => h pre' c (post' ++ post) (by simp [hpre])

theorem same_iff (hl : ∀ e ∈ pre, e.2 = true → e.1.remoteDigest = none)
    (h : DeletionsTransparent hostId name row pre) :
    (c.result (rowAfter hostId name row (pre.map Prod.fst)) =
          c.result (rowAfter hostId name row (remaining pre)) ∧
        SameColumns (c.save (rowAfter hostId name row (pre.map Prod.fst)) hostId name)
          (c.save (rowAfter hostId name row (remaining pre)) hostId name)) ↔
      ¬ Repeats c (rowAfter hostId name row (pre.map Prod.fst))
        (rowAfter hostId name row (remaining pre)) := by
  refine same_iff_not_repeats (sameMemory_remaining hl h) ?_
  by_cases hlast : ∃ p c, pre = p ++ [(c, true)]
  · obtain ⟨p, c', rfl⟩ := hlast
    exact .inr (storedDigests_concat_deleted (hl (c', true) (by simp) rfl))
  · push Not at hlast
    exact .inl (storedDigests_remaining hlast)

/-- The digest of a check is seen again exactly if it was stored before the deletions
right before the check. -/
theorem repeats_iff (hl : ∀ e ∈ pre, e.2 = true → e.1.remoteDigest = none)
    (h : DeletionsTransparent hostId name row pre) :
    Repeats c (rowAfter hostId name row (pre.map Prod.fst))
        (rowAfter hostId name row (remaining pre)) ↔
      ∃ pre₀ dels d stored, pre = pre₀ ++ dels ∧ dels ≠ [] ∧ (∀ e ∈ dels, e.2 = true) ∧
        c.remoteDigest = some d ∧
        rowAfter hostId name row (pre₀.map Prod.fst) = some stored ∧
        stored.remoteDigests = some [d] ∧
        ¬ (¬ c.Misses d ∧ stored.remoteDigestsChangedAt = some c.changedAt) := by
  constructor
  · rintro ⟨d, hd, hnil, hd', hnot⟩
    obtain ⟨pre₀, dels, rfl, hdels, hlast⟩ := exists_last_deleted pre
    have hmemory := sameMemory_remaining (fun e he => hl e (by simp [he])) h.append
    rw [remaining_append_deleted hdels] at hd' hnot
    rw [← storedDigests_remaining hlast] at hd'
    rw [← hmemory.2] at hnot
    cases hrow : rowAfter hostId name row (pre₀.map Prod.fst) with
    | none =>
        rw [hrow] at hd'
        cases hd'
    | some stored =>
        refine ⟨pre₀, dels, d, stored, rfl, ?_, hdels, hd, hrow, ?_, ?_⟩
        · rintro rfl
          rw [List.append_nil, hd'] at hnil
          cases hnil
        · simpa [storedDigests, hrow] using hd'
        · simpa [hrow] using hnot
  · rintro ⟨pre₀, dels, d, stored, rfl, hne, hdels, hd, hrow, hstored, hnot⟩
    have hmemory := sameMemory_remaining (fun e he => hl e (by simp [he])) h.append
    have hd' : storedDigests (rowAfter hostId name row (pre₀.map Prod.fst)) = some [d] := by
      simp [storedDigests, hrow, hstored]
    have hlast : ∀ p c, pre₀ ≠ p ++ [(c, true)] := by
      rintro p c' rfl
      rw [storedDigests_concat_deleted (hl (c', true) (by simp) rfl)] at hd'
      cases hd'
    refine ⟨d, hd, ?_, ?_, ?_⟩
    · obtain ⟨dels, ⟨c', deleted⟩, rfl⟩ := (dels.eq_nil_or_concat').resolve_left hne
      obtain rfl : deleted = true := hdels (c', deleted) (by simp)
      rw [← List.append_assoc]
      exact storedDigests_concat_deleted (hl (c', true) (by simp) rfl)
    · rw [remaining_append_deleted hdels, ← storedDigests_remaining hlast, hd']
    · rw [remaining_append_deleted hdels, ← hmemory.2, hrow]
      exact hnot

/-- Failed lookups that are deleted do not show, exactly if no check that is left obtains
the digest again that was stored before deletions right before it. -/
theorem deletionsTransparent_iff (hl : ∀ e ∈ l, e.2 = true → e.1.remoteDigest = none) :
    DeletionsTransparent hostId name row l ↔ NoneRepeats hostId name row l := by
  constructor
  · intro h pre dels c post d stored hpre hne hdels hd hrow hstored
    rw [← List.append_assoc] at hpre
    subst hpre
    have hl' : ∀ e ∈ pre ++ dels, e.2 = true → e.1.remoteDigest = none :=
      fun e he => hl e (List.mem_append_left _ he)
    have hnot := (same_iff hl' h.append).1 (h (pre ++ dels) c post rfl)
    rw [repeats_iff hl' h.append] at hnot
    by_contra hrepeat
    exact hnot ⟨pre, dels, d, stored, rfl, hne, hdels, hd, hrow, hstored, hrepeat⟩
  · intro h
    -- along the sequence, as what a check sees depends on those before it
    suffices hprefix : ∀ pre post, l = pre ++ post → DeletionsTransparent hostId name row pre from
      hprefix l [] (by simp)
    intro pre
    induction pre using List.reverseRecOn with
    | nil => exact fun _ _ pre' c post' hnil => by simp at hnil
    | append_singleton pre e ih =>
        intro post hpost pre' c post' hsplit
        have ih := ih ([e] ++ post) (by simp [hpost])
        rcases post'.eq_nil_or_concat' with rfl | ⟨post', e', rfl⟩
        · obtain ⟨rfl, rfl⟩ := List.append_inj' hsplit rfl |>.imp_right List.singleton_inj.1
          have hl' : ∀ e ∈ pre, e.2 = true → e.1.remoteDigest = none :=
            fun e he => hl e (by simp [hpost, he])
          rw [same_iff hl' ih, repeats_iff hl' ih]
          rintro ⟨pre₀, dels, d, stored, rfl, hne, hdels, hd, hrow, hstored, hnot⟩
          exact hnot (h pre₀ dels c post d stored (by simp [hpost]) hne hdels hd hrow hstored)
        · refine ih pre' c post' ?_
          rw [← List.cons_append, ← List.append_assoc] at hsplit
          exact (List.append_inj' hsplit rfl).1

end

/-- A lookup that failed. -/
def failedCheck : Check where
  imageId := some "sha256:old"
  localDigests := ["app@sha256:d1"]
  remoteDigest := none
  checkedAt := 30
  changedAt := 30

/-- A later check with the same digest as `downgradedCheck`. -/
def repeatedCheck : Check where
  imageId := some "sha256:old"
  localDigests := ["app@sha256:d1"]
  remoteDigest := some "sha256:d2"
  checkedAt := 40
  changedAt := 40

theorem deletionsTransparent_iff_failed :
    DeletionsTransparent 1 "app" none [(failedCheck, true), (repeatedCheck, false)] ↔
      NoneRepeats 1 "app" none [(failedCheck, true), (repeatedCheck, false)] :=
  deletionsTransparent_iff (by decide)

/-- A failed lookup between two successful ones makes the second one report the update
again. -/
theorem not_deletionsTransparent_failed :
    ¬ DeletionsTransparent 1 "app" none
      [(downgradedCheck, false), (failedCheck, true), (repeatedCheck, false)] := by
  intro h
  have hsame := h [(downgradedCheck, false), (failedCheck, true)] repeatedCheck [] rfl
  revert hsame
  decide

end Tugtainer
