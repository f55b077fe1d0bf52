import Tugtainer.Plan.Ledger
import Tugtainer.Race.Check
import Tugtainer.Race.Update

/-!
# A row that is checked and updated

What a check and an update of one container make of its `update_available`, step by step:
`RowInv` says what its value is, given how far the two have come. Both write only what
differs from the row as they read it. So the check has the last word only if it did not
save before the update read the row, and what it found is something new to the row that it
read itself (`CheckPhase.outcome`).
-/

namespace Tugtainer

open Python Interaction

/-- `update_available` of a row, if there is one. -/
def hasUpdate (row : Option ContainersModel) : Bool :=
  (row.map ContainersModel.updateAvailable).getD false

/-- The row of that name among those that an update has read. -/
def rowOf (rows : List ContainersModel) (name : String) : Option ContainersModel :=
  Dict.get? (rows.foldl (fun map row => map.set row.name row) []) name

/-- The changes of an update clear `update_available` of that row. -/
def clears (changes : List (String × ContainerData)) (name : String) : Bool :=
  changes.any fun change => change.1 = name && change.2.updateAvailable = some false

/-! ## Commits -/

section

variable {t : Table} {hostId h : Int} {name n : String} {changes : List (String × ContainerData)}

theorem Table.commit_of_not_mem (hnot : ¬ (h = hostId ∧ n ∈ changes.map Prod.fst)) :
    t.commit hostId changes h n = t h n := by
  refine Table.commit_induction (P := fun h' n' row => h' = h → n' = n → row = t h n)
    (fun _ _ hh hn => by rw [hh, hn]) (fun change hchange row _ hh hn => ?_) h n rfl rfl
  exact absurd ⟨hh.symm, hn ▸ List.mem_map_of_mem hchange⟩ hnot

theorem Table.isSome_commit : (t.commit hostId changes h n).isSome = (t h n).isSome :=
  Table.commit_induction (P := fun h' n' row => row.isSome = (t h' n').isSome)
    (fun _ _ => rfl) (fun _ _ _ h => h) h n

theorem Table.update_eq_map {change : String × ContainerData} :
    t.update hostId change hostId name = (t hostId name).map fun row =>
      if change.1 = name then change.2.apply row else row := by
  by_cases hname : change.1 = name
  · subst hname
    cases hrow : t hostId change.1 with
    | none => simp [Table.update_of_none hrow, hrow]
    | some row => simp [Table.update_of_some hrow]
  · simp only [if_neg hname, Option.map_id']
    cases hrow : t hostId change.1 with
    | none => rw [Table.update_of_none hrow]
    | some row =>
        rw [Table.update_of_some hrow, Table.set_of_ne _ _ fun hsame => hname hsame.2.symm]

theorem Table.commit_eq_foldl :
    t.commit hostId changes hostId name = (t hostId name).map fun row =>
      (changes.filter (·.1 = name)).foldl (fun row change => change.2.apply row) row := by
  induction changes generalizing t with
  | nil => simp [Table.commit]
  | cons change changes ih =>
      have hcons : t.commit hostId (change :: changes) =
          (t.update hostId change).commit hostId changes := rfl
      rw [hcons, ih, Table.update_eq_map, Option.map_map]
      congr 1
      funext row
      by_cases hname : change.1 = name <;> simp [hname]

theorem Table.hasUpdate_update {change : String × ContainerData} :
    hasUpdate (t.update hostId change hostId name) =
      if change.1 = name ∧ (t hostId name).isSome then
        change.2.updateAvailable.getD (hasUpdate (t hostId name))
      else hasUpdate (t hostId name) := by
  rw [Table.update_eq_map]
  cases t hostId name with
  | none => simp
  | some row => by_cases hname : change.1 = name <;> simp [hname, hasUpdate, ContainerData.apply]

theorem Table.hasUpdate_commit
    (hclear : ∀ change ∈ changes, change.2.updateAvailable ≠ some true) :
    hasUpdate (t.commit hostId changes hostId name) =
      (hasUpdate (t hostId name) && !clears changes name) := by
  induction changes generalizing t with
  | nil => simp [Table.commit, clears]
  | cons change changes ih =>
      have hcons : t.commit hostId (change :: changes) =
          (t.update hostId change).commit hostId changes := rfl
      rw [hcons, ih fun c hc => hclear c (List.mem_cons_of_mem _ hc), Table.hasUpdate_update]
      have hnone : (t hostId name).isSome = false → hasUpdate (t hostId name) = false := by
        cases t hostId name <;> simp [hasUpdate]
      have hset := hclear change (by simp)
      cases hsome : (t hostId name).isSome with
      | false => simp [hnone hsome]
      | true =>
          by_cases hname : change.1 = name
          · cases hdata : change.2.updateAvailable with
            | none => simp [clears, hname, hdata]
            | some available =>
                cases available with
                | false => simp [clears, hname, hdata]
                | true => exact absurd hdata hset
          · simp [clears, hname]

end

/-- Every row is found under its own host and name. -/
def Table.Keyed (t : Table) : Prop :=
  ∀ hostId name row, t hostId name = some row → row.hostId = hostId ∧ row.name = name

section

variable {t : Table} {hostId : Int} {name : String} {rows : List ContainersModel}
  {items : List ContainerActionResult} {clock : Int}

theorem Table.Keyed.commit (h : t.Keyed) (hostId : Int)
    (changes : List (String × ContainerData)) : (t.commit hostId changes).Keyed := by
  intro h' n
  exact Table.commit_induction (P := fun h n row => ∀ r, row = some r → r.hostId = h ∧ r.name = n)
    h (fun _ _ row hrow r hr => Option.some.inj hr ▸ hrow row rfl) h' n

theorem Table.Keyed.insert (h : t.Keyed) (hostId : Int) (name : String) (data : ContainerData) :
    (t.set hostId name (data.newRow hostId name)).Keyed := by
  intro h' n row hrow
  by_cases hsame : h' = hostId ∧ n = name
  · obtain ⟨rfl, rfl⟩ := hsame
    rw [Table.set_self] at hrow
    cases hrow
    exact ⟨rfl, rfl⟩
  · rw [Table.set_of_ne _ _ hsame] at hrow
    exact h h' n row hrow

theorem rowOf_of_lists {names : List String} (hkeyed : t.Keyed)
    (hrows : t.Lists hostId {n | n ∈ names} rows) (hname : name ∈ names) :
    rowOf rows name = t hostId name := by
  unfold rowOf
  rw [Dict.get?_foldl_set, Dict.get?_nil, Option.or_none, Option.map_id']
  cases hfind : rows.reverse.find? fun row => row.name = name with
  | some row =>
      have hmem := List.mem_reverse.1 (List.mem_of_find?_eq_some hfind)
      obtain rfl : row.name = name := by simpa using List.find?_some hfind
      exact ((hrows.mem_iff row).1 hmem).2.2.symm
  | none =>
      cases hrow : t hostId name with
      | none => rfl
      | some row =>
          obtain ⟨hhost, hname'⟩ := hkeyed hostId name row hrow
          subst hname'
          have hmem := List.mem_reverse.2 ((hrows.mem_iff row).2 ⟨hhost, hname, hrow⟩)
          simpa using List.find?_eq_none.1 hfind row hmem

theorem ContainerData.changed_eq_some_iff {α : Type} [DecidableEq α] {new old : Option α} {a : α} :
    ContainerData.changed new old = some a ↔ new = some a ∧ old ≠ some a := by
  unfold ContainerData.changed
  split
  · rename_i heq
    simp [heq]
  · rename_i hne
    exact ⟨fun hnew => ⟨hnew, fun hold => hne (hnew.trans hold.symm)⟩, And.left⟩

/-- An update clears `update_available` where the row that it read has it and the container
was updated. -/
theorem clears_updatedChanges :
    clears (updatedChanges clock items rows) name = true ↔
      hasUpdate (rowOf rows name) = true ∧
        ∃ item ∈ items, item.container.name = name ∧ item.result = some .updated := by
  have hdata (item : ContainerActionResult) (row : ContainersModel) :
      ((updatedData clock item).changes row).updateAvailable = some false ↔
        item.result = some .updated ∧ row.updateAvailable = true := by
    rw [ContainerData.changes, ContainerData.changed_eq_some_iff, updatedData]
    split <;> simp_all
  simp only [clears, List.any_eq_true, updatedChanges, List.mem_filterMap, Option.map_eq_some_iff,
    Bool.and_eq_true, decide_eq_true_eq]
  constructor
  · rintro ⟨_, ⟨item, hitem, row, hrow, rfl⟩, hname, hclear⟩
    obtain ⟨hresult, havailable⟩ := (hdata item row).1 hclear
    refine ⟨?_, item, hitem, hname, hresult⟩
    rw [rowOf, ← hname, hrow]
    exact havailable
  · rintro ⟨havailable, item, hitem, rfl, hresult⟩
    cases hrow : rowOf rows item.container.name with
    | none => simp [hasUpdate, hrow] at havailable
    | some row =>
        rw [hrow] at havailable
        exact ⟨_, ⟨item, hitem, row, hrow, rfl⟩, rfl, (hdata item row).2 ⟨hresult, havailable⟩⟩

end

/-! ## What the two make of the row -/

namespace CheckPhase

/-- The row as the check has read it first, as long as it is not saved. -/
def first : CheckPhase → Option (Option ContainersModel)
  | .read _ row _ | .reread _ row _ _ => some row
  | _ => none

def IsSaved : CheckPhase → Prop
  | .saved _ _ _ => True
  | _ => False

def Fits (row : Option ContainersModel) : CheckPhase → Prop
  | .read _ first _ => first.isSome = row.isSome
  | .reread _ first _ again => first.isSome = row.isSome ∧ again.isSome = row.isSome
  | _ => True

/-- The `update_available` that is left in the end. The check counts if it was not saved
too early, and if its conclusion differs from what it read. -/
def outcome (early : Bool) : CheckPhase → Bool
  | .saved localDigests row found =>
      isUpdateAvailable row localDigests found && !hasUpdate row && !early
  | _ => false

end CheckPhase

namespace UpdatePhase

def IsSaved : UpdatePhase → Prop
  | .saved _ _ _ _ => True
  | _ => False

/-- The update is one of the container, as far as it has come. -/
def Covers (hostId : Int) (name : String) : UpdatePhase → Prop
  | .before => True
  | .read h names _ => h = hostId ∧ name ∈ names
  | .saved h names rows changes => h = hostId ∧ name ∈ names ∧
      (hasUpdate (rowOf rows name) = true → clears changes name = true)

/-- What the update will make of `update_available`, if nothing else happens. -/
def settle (name : String) (available : Bool) : UpdatePhase → Bool
  | .before => false
  | .read _ _ rows => available && !hasUpdate (rowOf rows name)
  | .saved _ _ _ _ => available

end UpdatePhase

/-- What is known of the row of a container, given how far its check and its update have
come. -/
structure RowInv (hostId : Int) (name : String) (row : Option ContainersModel)
    (queried early : Bool) (p : CheckPhase) (u : UpdatePhase) : Prop where
  queried_iff : queried = true ↔ u ≠ .before
  saved_of_early : early = true → p.IsSaved
  early_of_saved : u = .before → p.IsSaved → early = true
  fits : p.Fits row
  of_first : ¬ u.IsSaved → ∀ first, p.first = some first → hasUpdate row = hasUpdate first
  of_read : ∀ h names rows, u = .read h names rows → u.Covers hostId name → ¬ p.IsSaved →
    hasUpdate row = hasUpdate (rowOf rows name)
  settled : u.Covers hostId name → u.settle name (hasUpdate row) = p.outcome early

namespace RowInv

variable {hostId : Int} {name : String} {row row' : Option ContainersModel} {queried early : Bool}
  {p p' : CheckPhase} {u : UpdatePhase}

theorem init (row : Option ContainersModel) (localDigests : List String) :
    RowInv hostId name row false false (.idle localDigests) .before where
  queried_iff := by simp
  saved_of_early h := Bool.noConfusion h
  early_of_saved _ h := h.elim
  fits := trivial
  of_first _ _ h := absurd h (by simp [CheckPhase.first])
  of_read _ _ _ h := UpdatePhase.noConfusion h
  settled _ := rfl

theorem advance (h : RowInv hostId name row queried early p u)
    (hsaved : p'.IsSaved ↔ p.IsSaved) (houtcome : p'.outcome early = p.outcome early)
    (hfits : p'.Fits row) (hfirst : ∀ first, p'.first = some first →
      p.first = some first ∨ first = row) : RowInv hostId name row queried early p' u where
  queried_iff := h.queried_iff
  saved_of_early he := hsaved.2 (h.saved_of_early he)
  early_of_saved hu hp := h.early_of_saved hu (hsaved.1 hp)
  fits := hfits
  of_first hu first hp := by
    rcases hfirst first hp with hp | rfl
    · exact h.of_first hu first hp
    · rfl
  of_read hostId' names rows hu hcovers hp :=
    h.of_read hostId' names rows hu hcovers fun hp' => hp (hsaved.2 hp')
  settled hcovers := (h.settled hcovers).trans houtcome.symm

theorem inspect (h : RowInv hostId name row queried early p u) (localDigests : List String) :
    RowInv hostId name row queried early (p.inspect localDigests) u := by
  have hfits := h.fits
  cases p with
  | idle _ => exact h.advance Iff.rfl rfl trivial fun _ heq => .inl heq
  | _ => exact h.advance Iff.rfl rfl hfits fun _ heq => .inl heq

theorem find (h : RowInv hostId name row queried early p u) (digest : Option String) :
    RowInv hostId name row queried early (p.find digest) u := by
  have hfits := h.fits
  cases p with
  | _ => exact h.advance Iff.rfl rfl hfits fun _ heq => .inl heq

theorem select (h : RowInv hostId name row queried early p u) :
    RowInv hostId name row queried early (p.select row) u := by
  have hfits := h.fits
  cases p with
  | idle _ => exact h.advance Iff.rfl rfl rfl fun _ heq => .inr (Option.some.inj heq).symm
  | read _ _ _ => exact h.advance Iff.rfl rfl ⟨hfits, rfl⟩ fun _ heq => .inl heq
  | _ => exact h.advance Iff.rfl rfl hfits fun _ heq => .inl heq

theorem save {localDigests found : List String} {first again : Option ContainersModel}
    (h : RowInv hostId name row queried early (.reread localDigests first found again) u)
    (hrow : hasUpdate row' = if isUpdateAvailable first localDigests found = hasUpdate first then
      hasUpdate row else isUpdateAvailable first localDigests found) :
    RowInv hostId name row' queried (early || !queried) (.saved localDigests first found) u := by
  have hearly : early = false := Bool.eq_false_iff.2 h.saved_of_early
  subst hearly
  refine ⟨h.queried_iff, fun _ => trivial, fun hu _ => ?_, trivial,
    fun _ _ heq => absurd heq (by simp [CheckPhase.first]),
    fun _ _ _ _ _ hp => absurd trivial hp, fun hcovers => ?_⟩
  · have hqueried : queried = false := by
      cases queried with
      | false => rfl
      | true => exact absurd hu (h.queried_iff.1 rfl)
    rw [hqueried]
    rfl
  · have hsettled := h.settled hcovers
    cases u with
    | before =>
        have hqueried : queried = false := by
          cases queried with
          | false => rfl
          | true => exact absurd rfl (h.queried_iff.1 rfl)
        simp [UpdatePhase.settle, CheckPhase.outcome, hqueried]
    | read h' names rows =>
        have hqueried : queried = true := h.queried_iff.2 (by simp)
        have hread := h.of_read h' names rows rfl hcovers fun hp => hp
        have hfirst := h.of_first (fun hu => hu) first rfl
        rw [UpdatePhase.settle, hrow, ← hread, hfirst, CheckPhase.outcome, hqueried]
        cases isUpdateAvailable first localDigests found <;> cases hasUpdate first <;> rfl
    | saved _ _ _ _ =>
        have hqueried : queried = true := h.queried_iff.2 (by simp)
        change hasUpdate row = false at hsettled
        rw [UpdatePhase.settle, hrow, hsettled, CheckPhase.outcome, hqueried]
        cases isUpdateAvailable first localDigests found <;> cases hasUpdate first <;> rfl

theorem updateSelect {h' : Int} {names : List String} {rows : List ContainersModel}
    (h : RowInv hostId name row queried early p .before)
    (hrows : h' = hostId → name ∈ names → rowOf rows name = row) :
    RowInv hostId name row true early p (.read h' names rows) where
  queried_iff := by simp
  saved_of_early := h.saved_of_early
  early_of_saved hu := UpdatePhase.noConfusion hu
  fits := h.fits
  of_first _ := h.of_first fun hu => hu
  of_read := by
    rintro _ _ _ ⟨⟩ ⟨hhost, hname⟩ -
    rw [hrows hhost hname]
  settled := by
    rintro ⟨hhost, hname⟩
    rw [UpdatePhase.settle, hrows hhost hname, Bool.and_not_self]
    exact h.settled trivial

theorem updateSave {h' : Int} {names : List String} {rows : List ContainersModel}
    {changes : List (String × ContainerData)}
    (h : RowInv hostId name row queried early p (.read h' names rows))
    (hclears : clears changes name = true → hasUpdate (rowOf rows name) = true)
    (hsome : row'.isSome = row.isSome)
    (hrow : h' = hostId → hasUpdate row' = (hasUpdate row && !clears changes name)) :
    RowInv hostId name row' queried early p (.saved h' names rows changes) where
  queried_iff := by simpa using h.queried_iff
  saved_of_early := h.saved_of_early
  early_of_saved hu := UpdatePhase.noConfusion hu
  fits := by
    have hfits := h.fits
    cases p with
    | read _ _ _ | reread _ _ _ _ => simpa only [CheckPhase.Fits, hsome] using hfits
    | _ => trivial
  of_first hu := absurd trivial hu
  of_read _ _ _ hu := UpdatePhase.noConfusion hu
  settled := by
    rintro ⟨hhost, hname, hcovers⟩
    have hsame : clears changes name = hasUpdate (rowOf rows name) :=
      Bool.eq_iff_iff.2 ⟨hclears, hcovers⟩
    rw [UpdatePhase.settle, hrow hhost, hsame]
    exact h.settled ⟨hhost, hname⟩

end RowInv

end Tugtainer
