import Tugtainer.Check.Record
import Tugtainer.Plan.Selection

/-!
# The table over many actions

A `Ledger` is the containers table together with what has happened: the successful
checks of every container. One action after the other, complete checks, requests that
change a row, executed updates and changes of the global delay take it from one state to
the next (`Ledger.Step`), and the functions of the backend take such steps
(`CheckEnds.step`, `wp_patchContainerData`, `wp_updateContainersDataAfterExecution`).

`RowOk` is what all of them keep about a row: digests and an available update are there
only after a successful check, and then the time stored is not before the last check that
found a new digest.
-/

namespace Tugtainer

open Python Interaction World

/-- The table and the clock, the global delay, and the successful checks of every
container, the first one first. -/
structure Ledger where
  world : World
  delayUpdateFor : Int
  checks : Int → String → List Check

namespace Ledger

def initial (clock delayUpdateFor : Int) : Ledger where
  world := ⟨fun _ _ => none, clock⟩
  delayUpdateFor := delayUpdateFor
  checks _ _ := []

def recorded (l : Ledger) (hostId : Int) (name : String) (c : Check) :
    Int → String → List Check := fun h n =>
  if h = hostId ∧ n = name ∧ c.remoteDigest.isSome then l.checks h n ++ [c] else l.checks h n

def afterCheck (l : Ledger) (hostId : Int) (name : String) (c : Check) : Ledger where
  world := ⟨l.world.table.set hostId name (c.save (l.world.table hostId name) hostId name),
    c.changedAt⟩
  delayUpdateFor := l.delayUpdateFor
  checks := l.recorded hostId name c

/-- Columns are set in a row, which is added where there is none. -/
def afterWrite (l : Ledger) (hostId : Int) (name : String) (data : ContainerData) : Ledger :=
  { l with world.table := l.world.table.set hostId name (l.world.table.written hostId name data) }

def afterCommit (l : Ledger) (hostId : Int) (changes : List (String × ContainerData))
    (clock : Int) : Ledger :=
  { l with world := ⟨l.world.table.commit hostId changes, clock⟩ }

/-- What happens in one step. -/
inductive Step : Ledger → Ledger → Prop
  | check {l : Ledger} (hostId : Int) (name : String) (c : Check)
      (hclock : l.world.clock ≤ c.checkedAt) (htimes : c.checkedAt ≤ c.changedAt) :
      Step l (l.afterCheck hostId name c)
  | patch {l : Ledger} (hostId : Int) (name : String) (body : PatchBody) :
      Step l (l.afterWrite hostId name body.data)
  | executed {l : Ledger} (hostId : Int) (items : List ContainerActionResult)
      (rows : List ContainersModel) (clock : Int) (hclock : l.world.clock ≤ clock) :
      Step l (l.afterCommit hostId (updatedChanges clock items rows) clock)
  | setDelay {l : Ledger} (delay : Int) : Step l { l with delayUpdateFor := delay }
  /-- the clock is read, as by the planner -/
  | tick {l : Ledger} (clock : Int) (hclock : l.world.clock ≤ clock) :
      Step l { l with world.clock := clock }

/-- A ledger after any number of steps from an empty table. -/
def Reachable (l : Ledger) : Prop :=
  ∃ clock delay, Relation.ReflTransGen Step (initial clock delay) l

end Ledger

/-- The last of the successful checks that found a new digest: it is the first one, or
the check before it found another. -/
def LastChange (cs : List Check) (c : Check) : Prop :=
  ∃ pre post, cs = pre ++ c :: post ∧
    (∀ b, pre.getLast? = some b → b.remoteDigest ≠ c.remoteDigest) ∧
      ∀ a ∈ post, a.remoteDigest = c.remoteDigest

/-- What is known of a row from the successful checks of its container. -/
inductive RowOk (clock : Int) : Option ContainersModel → List Check → Prop
  | fresh {row : Option ContainersModel}
      (havailable : (row.map ContainersModel.updateAvailable).getD false = false)
      (hdigests : ∀ d, storedDigests row ≠ some [d]) : RowOk clock row []
  | seen {row : ContainersModel} {cs : List Check} {c last : Check} {changedAt : Int}
      (hchange : LastChange cs c) (hlast : cs.getLast? = some last)
      (hchanged : row.remoteDigestsChangedAt = some changedAt) (hle : c.changedAt ≤ changedAt)
      (hclock : changedAt ≤ clock)
      (hdigests : ∀ d, row.remoteDigests = some [d] → last.remoteDigest = some d) :
      RowOk clock (some row) cs

/-- What is known of the successful checks of a container. -/
structure ChecksOk (clock : Int) (cs : List Check) : Prop where
  succeeded : ∀ c ∈ cs, c.remoteDigest.isSome
  past : ∀ c ∈ cs, c.changedAt ≤ clock
  sorted : cs.Pairwise fun a b => a.changedAt ≤ b.changedAt

/-! ## The steps keep it -/

section

variable {clock clock' : Int} {row : Option ContainersModel} {cs : List Check} {c : Check}
  {hostId : Int} {name : String}

theorem RowOk.mono (h : RowOk clock row cs) (hclock : clock ≤ clock') : RowOk clock' row cs := by
  cases h with
  | fresh havailable hdigests => exact .fresh havailable hdigests
  | seen hchange hlast hchanged hle hle' hdigests =>
      exact .seen hchange hlast hchanged hle (hle'.trans hclock) hdigests

theorem LastChange.mem (h : LastChange cs c) : c ∈ cs := by
  obtain ⟨pre, post, rfl, -, -⟩ := h
  simp

theorem ChecksOk.mono (h : ChecksOk clock cs) (hclock : clock ≤ clock') : ChecksOk clock' cs :=
  ⟨h.succeeded, fun c hc => (h.past c hc).trans hclock, h.sorted⟩

theorem ChecksOk.concat (h : ChecksOk clock cs) (hc : c.remoteDigest.isSome)
    (hclock : clock ≤ c.changedAt) : ChecksOk c.changedAt (cs ++ [c]) where
  succeeded a ha := by
    rcases List.mem_append.1 ha with ha | ha
    · exact h.succeeded a ha
    · cases List.mem_singleton.1 ha
      exact hc
  past a ha := by
    rcases List.mem_append.1 ha with ha | ha
    · exact (h.past a ha).trans hclock
    · cases List.mem_singleton.1 ha
      exact le_rfl
  sorted := by
    refine List.pairwise_append.2 ⟨h.sorted, List.pairwise_singleton _ _, fun a ha b hb => ?_⟩
    cases List.mem_singleton.1 hb
    exact (h.past a ha).trans hclock

theorem RowOk.exists_change {row : ContainersModel} (h : RowOk clock (some row) cs)
    (havailable : row.updateAvailable = true) :
    ∃ c changedAt, LastChange cs c ∧ row.remoteDigestsChangedAt = some changedAt ∧
      c.changedAt ≤ changedAt := by
  cases h with
  | fresh hnone _ =>
      rw [Option.map_some, Option.getD_some, havailable] at hnone
      cases hnone
  | seen hchange _ hchanged hle _ _ => exact ⟨_, _, hchange, hchanged, hle⟩

/-- The columns that only a check sets to something new. -/
structure LeavesDigests (data : ContainerData) : Prop where
  updateAvailable : data.updateAvailable ≠ some true
  remoteDigests : data.remoteDigests = none
  remoteDigestsChangedAt : data.remoteDigestsChangedAt = none

theorem LeavesDigests.changes {data : ContainerData} (h : LeavesDigests data)
    (loaded : ContainersModel) : LeavesDigests (data.changes loaded) := by
  have hchanged : ∀ {α : Type} [DecidableEq α] (old : Option α),
      ContainerData.changed none old = none := by
    intro α _ old
    unfold ContainerData.changed
    split <;> rfl
  refine ⟨?_, ?_, ?_⟩
  · simp only [ContainerData.changes, ContainerData.changed]
    split
    · simp
    · exact h.updateAvailable
  · simp [ContainerData.changes, h.remoteDigests, hchanged]
  · simp [ContainerData.changes, h.remoteDigestsChangedAt, hchanged]

theorem PatchBody.leavesDigests (body : PatchBody) : LeavesDigests body.data :=
  ⟨by simp [PatchBody.data], rfl, rfl⟩

theorem leavesDigests_updatedData (clock : Int) (item : ContainerActionResult) :
    LeavesDigests (updatedData clock item) := by
  unfold updatedData
  split
  · exact ⟨by simp, rfl, rfl⟩
  · exact ⟨by simp, rfl, rfl⟩

theorem leavesDigests_updatedChanges {items : List ContainerActionResult}
    {rows : List ContainersModel} {change : String × ContainerData}
    (h : change ∈ updatedChanges clock items rows) : LeavesDigests change.2 := by
  obtain ⟨item, -, hitem⟩ := List.mem_filterMap.1 h
  obtain ⟨row, -, rfl⟩ := Option.map_eq_some_iff.1 hitem
  exact (leavesDigests_updatedData clock item).changes row

theorem RowOk.write (h : RowOk clock row cs) (hostId : Int) (name : String)
    {data : ContainerData} (hdata : LeavesDigests data) :
    RowOk clock (some (data.apply (row.getD { hostId := hostId, name := name }))) cs := by
  cases h with
  | fresh havailable hdigests =>
      refine .fresh ?_ fun d hd => hdigests d ?_
      · have hdata := hdata.updateAvailable
        cases hset : data.updateAvailable <;> cases row <;>
          simp_all [ContainerData.apply]
      · cases row with
        | none => simp [storedDigests, ContainerData.apply, hdata.remoteDigests] at hd
        | some row => simpa [storedDigests, ContainerData.apply, hdata.remoteDigests] using hd
  | seen hchange hlast hchanged hle hle' hdigests =>
      refine .seen hchange hlast ?_ hle hle' ?_
      · simpa [ContainerData.apply, hdata.remoteDigestsChangedAt] using hchanged
      · simpa [ContainerData.apply, hdata.remoteDigests] using hdigests

theorem RowOk.failed (h : RowOk clock row cs) (hc : c.remoteDigest = none) :
    RowOk clock (some (c.save row hostId name)) cs := by
  have hnone : ∀ d, storedDigests (some (c.save row hostId name)) ≠ some [d] := by
    simp [storedDigests, Check.save_remoteDigests, Check.remoteDigests, hc]
  cases h with
  | fresh havailable hdigests =>
      exact .fresh (by simpa [Check.save_updateAvailable_of_none hc] using havailable) hnone
  | seen hchange hlast hchanged hle hle' hdigests =>
      refine .seen hchange hlast ?_ hle hle' fun d hd => absurd hd (hnone d)
      simpa [Check.save_changedAt_of_none hc] using hchanged

theorem LastChange.concat {cs : List Check} {c₀ c last : Check} (h : LastChange cs c₀)
    (hlast : cs.getLast? = some last) :
    LastChange (cs ++ [c]) (if c.remoteDigest = last.remoteDigest then c₀ else c) := by
  split
  · rename_i heq
    obtain ⟨pre, post, rfl, hpre, hpost⟩ := h
    refine ⟨pre, post ++ [c], by simp, hpre, fun a ha => ?_⟩
    rcases List.mem_append.1 ha with ha | ha
    · exact hpost a ha
    · cases List.mem_singleton.1 ha
      rw [heq]
      rcases post.eq_nil_or_concat' with rfl | ⟨post, b, rfl⟩
      · obtain rfl : c₀ = last := by simpa using hlast
        rfl
      · obtain rfl : b = last := by
          rw [← List.cons_append, ← List.append_assoc, List.getLast?_concat] at hlast
          exact Option.some.inj hlast
        exact hpost b (by simp)
  · rename_i hne
    refine ⟨cs, [], rfl, fun b hb => ?_, by simp⟩
    cases hlast.symm.trans hb
    exact fun heq => hne heq.symm

theorem RowOk.succeeded {d : String} (h : RowOk clock row cs) (hc : c.remoteDigest = some d)
    (hclock : clock ≤ c.changedAt) :
    RowOk c.changedAt (some (c.save row hostId name)) (cs ++ [c]) := by
  have hlast : (cs ++ [c]).getLast? = some c := by simp
  have hdigests : ∀ d', (c.save row hostId name).remoteDigests = some [d'] →
      c.remoteDigest = some d' := by
    intro d' hd'
    rw [Check.save_remoteDigests] at hd'
    simpa [Check.remoteDigests, hc] using hd'
  have hchanged : (c.save row hostId name).remoteDigestsChangedAt = _ :=
    Check.save_changedAt_of_some hc
  cases h with
  | fresh havailable hnone =>
      rw [if_neg (hnone d)] at hchanged
      exact .seen (c := c) ⟨[], [], rfl, by simp, by simp⟩ hlast hchanged le_rfl le_rfl hdigests
  | @seen row cs c₀ last changedAt hchange hlast₀ hchanged₀ hle hle' hstored =>
      have hc₀ := hchange.concat (c := c) hlast₀
      by_cases hsame : storedDigests (some row) = some [d]
      · -- the digest is the one of the last successful check
        rw [if_pos hsame] at hchanged
        rw [if_pos (hc.trans (hstored d hsame).symm)] at hc₀
        exact .seen hc₀ hlast (hchanged.trans hchanged₀) hle (hle'.trans hclock) hdigests
      · rw [if_neg hsame] at hchanged
        refine .seen hc₀ hlast hchanged ?_ le_rfl hdigests
        split
        · exact hle.trans (hle'.trans hclock)
        · exact le_rfl

end

section

variable {l l' : Ledger}

/-- The rows of a ledger go with the successful checks. -/
def Ledger.Ok (l : Ledger) : Prop :=
  ∀ hostId name, RowOk l.world.clock (l.world.table hostId name) (l.checks hostId name)

theorem Ledger.Ok.check (h : l.Ok) (hostId : Int) (name : String) {c : Check}
    (hclock : l.world.clock ≤ c.checkedAt) (htimes : c.checkedAt ≤ c.changedAt) :
    (l.afterCheck hostId name c).Ok := by
  intro h' n
  have hle := hclock.trans htimes
  by_cases hsame : h' = hostId ∧ n = name
  · obtain ⟨rfl, rfl⟩ := hsame
    cases hd : c.remoteDigest with
    | none => simpa [afterCheck, recorded, hd] using ((h h' n).failed hd).mono hle
    | some d => simpa [afterCheck, recorded, hd] using (h h' n).succeeded hd hle
  · have hother : ¬ (h' = hostId ∧ n = name ∧ c.remoteDigest.isSome) := fun h =>
      hsame ⟨h.1, h.2.1⟩
    simpa [afterCheck, recorded, hother, Table.set_of_ne _ _ hsame] using (h h' n).mono hle

theorem Ledger.Ok.write (h : l.Ok) (hostId : Int) (name : String) {data : ContainerData}
    (hdata : LeavesDigests data) : (l.afterWrite hostId name data).Ok := by
  intro h' n
  by_cases hsame : h' = hostId ∧ n = name
  · obtain ⟨rfl, rfl⟩ := hsame
    simpa [afterWrite, Table.written] using (h h' n).write _ _ hdata
  · simpa [afterWrite, Table.set_of_ne _ _ hsame] using h h' n

theorem Ledger.Ok.commit (h : l.Ok) (hostId : Int) {changes : List (String × ContainerData)}
    (hchanges : ∀ change ∈ changes, LeavesDigests change.2) {clock : Int}
    (hclock : l.world.clock ≤ clock) : (l.afterCommit hostId changes clock).Ok := by
  intro h' n
  refine Table.commit_induction (P := fun h n row => RowOk clock row (l.checks h n))
    (fun h₁ n₁ => (h h₁ n₁).mono hclock) (fun change hchange row hrow => ?_) h' n
  simpa using hrow.write hostId change.1 (hchanges change hchange)

theorem Ledger.Ok.step (h : l.Ok) (hstep : l.Step l') : l'.Ok := by
  cases hstep with
  | check hostId name c hclock htimes => exact h.check hostId name hclock htimes
  | patch hostId name body => exact h.write hostId name body.leavesDigests
  | executed hostId items rows clock hclock =>
      exact h.commit hostId (fun _ => leavesDigests_updatedChanges) hclock
  | setDelay delay => exact h
  | tick clock hclock => exact fun h' n => (h h' n).mono hclock

theorem Ledger.Step.checksOk (hstep : l.Step l')
    (h : ∀ hostId name, ChecksOk l.world.clock (l.checks hostId name)) (hostId : Int)
    (name : String) : ChecksOk l'.world.clock (l'.checks hostId name) := by
  cases hstep with
  | check hostId' name' c hclock htimes =>
      have hle := hclock.trans htimes
      simp only [Ledger.afterCheck, Ledger.recorded]
      split
      · rename_i hsome
        exact (h hostId name).concat hsome.2.2 hle
      · exact (h hostId name).mono hle
  | patch hostId' name' body => exact h hostId name
  | executed hostId' items rows clock hclock => exact (h hostId name).mono hclock
  | setDelay delay => exact h hostId name
  | tick clock hclock => exact (h hostId name).mono hclock

theorem Ledger.Reachable.checksOk (h : l.Reachable) (hostId : Int) (name : String) :
    ChecksOk l.world.clock (l.checks hostId name) := by
  obtain ⟨clock, delay, hsteps⟩ := h
  induction hsteps generalizing hostId name with
  | refl => exact ⟨by simp [Ledger.initial], by simp [Ledger.initial], by simp [Ledger.initial]⟩
  | tail _ hstep ih => exact hstep.checksOk ih hostId name

theorem Ledger.Reachable.ok (h : l.Reachable) : l.Ok := by
  obtain ⟨clock, delay, hsteps⟩ := h
  induction hsteps with
  | refl => exact fun _ _ => .fresh rfl fun d hd => by cases hd
  | tail _ hstep ih => exact ih.step hstep

end

end Tugtainer
