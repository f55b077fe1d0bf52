import Tugtainer.Settings.Storage

/-!
# The three copies of the settings

The storage follows every flush, the rows follow the commit, and the jobs are scheduled
after it with the first values of the request. `agrees_changeSystemSettings_iff` says for
which requests the three copies agree in the end.
-/

namespace Tugtainer

open Python

section

variable {F : Type} (env : SettingsEnv F)

/-! ## Agreement -/

def committedValue (rows : Dict String SettingRow) (key : ESettingKey) :
    Option (SettingValue F) :=
  (rows.get? key.text).map (·.typed env)

def committedJob (rows : Dict String SettingRow) (key : ESettingKey) : CronJob F :=
  { spec := committedValue env rows key, zone := zoneOf env (committedValue env rows .TIMEZONE) }

/-- The storage has the typed values of the rows, and both jobs run as the rows say. -/
structure SettingsState.Agrees (s : SettingsState F) : Prop where
  storage : ∀ key, s.storage.get? key = committedValue env s.rows key
  check : s.jobs.get? "CHECK_CONTAINERS" = some (committedJob env s.rows .CHECK_CRONTAB_EXPR)
  update : s.jobs.get? "UPDATE_CONTAINERS" = some (committedJob env s.rows .UPDATE_CRONTAB_EXPR)

/-! ## What the items say -/

def SettingsPatchItem.row (item : SettingsPatchItem F) : SettingRow :=
  { value := item.value.text env.numerals, valueType := item.value.typeName }

/-- The loop accepts the item. -/
def Accepts (rows : Dict String SettingRow) (item : SettingsPatchItem F) : Prop :=
  checkItem env rows item = .ok ()

instance (rows : Dict String SettingRow) (item : SettingsPatchItem F) :
    Decidable (Accepts env rows item) :=
  match h : checkItem env rows item with
  | .ok () => isTrue h
  | .error _ => isFalse fun h' => nomatch h.symm.trans h'

/-- The typed value of the last item of a setting. -/
def lastGiven (items : List (SettingsPatchItem F)) (key : ESettingKey) :
    Option (SettingValue F) :=
  (items.reverse.find? fun item => item.key = key.text).map fun item => (item.row env).typed env

/-- The text of the first item of a setting that is not empty. -/
def firstGiven (items : List (SettingsPatchItem F)) (key : ESettingKey) :
    Option (SettingValue F) :=
  (items.find? fun item => item.key = key.text ∧ item.value.isTruthy env.numerals = true).map
    fun item => .str (item.value.text env.numerals)

/-- The items that are flushed by a request that fails: those before the first one that is
refused or whose access to the database fails. -/
def flushedItems (fault : Option DatabaseFault) (rows : Dict String SettingRow)
    (items : List (SettingsPatchItem F)) : List (SettingsPatchItem F) :=
  let accepted := items.takeWhile (Accepts env rows)
  match fault.filter (·.access ≤ accepted.length) with
  | some fault =>
      if fault.flushed then accepted.take fault.access else (accepted.take fault.access).dropLast
  | none => accepted

/-- The request is carried out: the database does not fail, and no item is refused. -/
def Succeeds (fault : Option DatabaseFault) (rows : Dict String SettingRow)
    (items : List (SettingsPatchItem F)) : Prop :=
  (∀ item ∈ items, Accepts env rows item) ∧ ∀ f ∈ fault, items.length < f.access

/-! ## The storage after a list of items -/

def storeItems (storage : Dict ESettingKey (SettingValue F)) (items : List (SettingsPatchItem F)) :
    Dict ESettingKey (SettingValue F) :=
  items.foldl (fun storage item => updateSettingValue env storage (item.key, item.row env)) storage

def changeRows (rows : Dict String SettingRow) (items : List (SettingsPatchItem F)) :
    Dict String SettingRow :=
  items.foldl (fun rows item => rows.set item.key (item.row env)) rows

variable {env}

theorem get?_updateSettingValue (storage : Dict ESettingKey (SettingValue F))
    (target : String × SettingRow) (key : ESettingKey) :
    (updateSettingValue env storage target).get? key =
      if target.1 = key.text then some (target.2.typed env) else storage.get? key := by
  unfold updateSettingValue
  cases h : ESettingKey.ofText target.1 with
  | none =>
      rw [if_neg]
      intro heq
      rw [ESettingKey.ofText_eq_some.2 heq] at h
      cases h
  | some key' =>
      have htarget := ESettingKey.ofText_eq_some.1 h
      simp only [Dict.get?_set, htarget, ESettingKey.text_injective.eq_iff]

theorem get?_storeItems (storage : Dict ESettingKey (SettingValue F))
    (items : List (SettingsPatchItem F)) (key : ESettingKey) :
    (storeItems env storage items).get? key =
      (lastGiven env items key).or (storage.get? key) := by
  unfold storeItems lastGiven
  induction items generalizing storage with
  | nil => simp
  | cons item items ih =>
      rw [List.foldl_cons, ih, List.reverse_cons, List.find?_append, get?_updateSettingValue]
      cases h : items.reverse.find? fun item => item.key = key.text with
      | some last => simp
      | none => by_cases hkey : item.key = key.text <;> simp [hkey]

theorem committedValue_changeRows (rows : Dict String SettingRow)
    (items : List (SettingsPatchItem F)) (key : ESettingKey) :
    committedValue env (changeRows env rows items) key =
      (lastGiven env items key).or (committedValue env rows key) := by
  unfold committedValue changeRows lastGiven
  rw [Dict.get?_foldl_set (fun item : SettingsPatchItem F => item.key) (·.row env)]
  cases items.reverse.find? fun item => item.key = key.text <;> simp

/-! ## The loop -/

namespace SettingsSession

variable {fault : Option DatabaseFault} {f : DatabaseFault} {s : SettingsSession F} {n : ℕ}
  {items pre rest : List (SettingsPatchItem F)} {item : SettingsPatchItem F}

variable (env) in
/-- The session after the items were changed, each flushed by the access of the next one. -/
def after (s : SettingsSession F) (items : List (SettingsPatchItem F)) : SettingsSession F :=
  items.foldl (fun s item => (s.flush env).change env item) s

variable (env) in
def failed (s : SettingsSession F) (f : DatabaseFault) : SettingsSession F :=
  if f.flushed then s.flush env else s

@[simp] theorem flush_rows : (s.flush env).rows = s.rows := by
  unfold flush
  split <;> rfl

theorem change_rows : (s.change env item).rows = s.rows.set item.key (item.row env) := rfl

theorem access_of_ne (h : ∀ f ∈ fault, f.access ≠ n) :
    s.access env fault n = (s.flush env, none) := by
  cases fault with
  | none => rfl
  | some f => simp [access, Option.filter, h f rfl]

theorem access_of_mem (h : f ∈ fault) :
    s.access env fault f.access = (s.failed env f, some .database) := by
  cases Option.mem_def.1 h
  simp [access, Option.filter, failed]

theorem rows_after : (s.after env items).rows = changeRows env s.rows items := by
  unfold after changeRows
  induction items generalizing s with
  | nil => rfl
  | cons item items ih => rw [List.foldl_cons, ih, change_rows, flush_rows, List.foldl_cons]

/-- What is flushed in the end: every item. -/
theorem storage_flush_after (hs : s.pending = none) :
    ((s.after env items).flush env).storage = storeItems env s.storage items := by
  have hflush (items : List (SettingsPatchItem F)) (s : SettingsSession F) :
      ((s.after env items).flush env).storage = storeItems env (s.flush env).storage items := by
    induction items generalizing s with
    | nil => rfl
    | cons item items ih => exact ih _
  rw [hflush, flush, hs]

/-- What is flushed before the last access: every item but the last one. -/
theorem storage_after (hs : s.pending = none) :
    (s.after env items).storage = storeItems env s.storage items.dropLast := by
  cases items using List.reverseRecOn with
  | nil => rfl
  | append_singleton items item =>
      rw [List.dropLast_concat, ← storage_flush_after hs]
      simp [after, change]

theorem storage_failed_after (hs : s.pending = none) :
    ((s.after env items).failed env f).storage =
      storeItems env s.storage (if f.flushed then items else items.dropLast) := by
  unfold failed
  split
  · exact storage_flush_after hs
  · exact storage_after hs

/-! The checks read nothing of a row but its type, which the items keep. -/

theorem checkItem_congr {rows rows' : Dict String SettingRow}
    (h : (rows.get? item.key).map (·.valueType) = (rows'.get? item.key).map (·.valueType)) :
    checkItem env rows item = checkItem env rows' item := by
  unfold checkItem
  cases hrow : rows.get? item.key with
  | none =>
      cases hrow' : rows'.get? item.key with
      | none => rfl
      | some row' => simp [hrow, hrow'] at h
  | some row =>
      cases hrow' : rows'.get? item.key with
      | none => simp [hrow, hrow'] at h
      | some row' =>
          have htype : row.valueType = row'.valueType := by simpa [hrow, hrow'] using h
          simp only [htype]

theorem valueType_of_accepts {rows : Dict String SettingRow} (h : Accepts env rows item) :
    (rows.get? item.key).map (·.valueType) = some item.value.typeName := by
  unfold Accepts checkItem at h
  split at h
  · cases h
  · rename_i row hrow
    split at h
    · cases h
    · rename_i htype
      rw [hrow]
      exact congrArg some (not_not.1 htype)

theorem valueType_set {rows : Dict String SettingRow} (h : Accepts env rows item) (key : String) :
    ((rows.set item.key (item.row env)).get? key).map (·.valueType) =
      (rows.get? key).map (·.valueType) := by
  rw [Dict.get?_set]
  split
  · rename_i hkey
    rw [← hkey, valueType_of_accepts h]
    rfl
  · rfl

theorem checkItem_changeRows {rows : Dict String SettingRow}
    (h : ∀ item ∈ items, Accepts env rows item) (item : SettingsPatchItem F) :
    checkItem env (changeRows env rows items) item = checkItem env rows item := by
  unfold changeRows
  induction items generalizing rows with
  | nil => rfl
  | cons first items ih =>
      have hset (item : SettingsPatchItem F) :
          checkItem env (rows.set first.key (first.row env)) item = checkItem env rows item :=
        checkItem_congr (valueType_set (h first (by simp)) item.key)
      rw [List.foldl_cons, ih, hset]
      intro item hitem
      exact (hset item).trans (h item (by simp [hitem]))

/-- The loop takes the items that are accepted, as long as the database does not fail. -/
theorem changeItems_append (hpre : ∀ item ∈ pre, Accepts env s.rows item)
    (hfault : ∀ f ∈ fault, n + pre.length ≤ f.access) :
    changeItems env fault n (pre ++ rest) s =
      changeItems env fault (n + pre.length) rest (s.after env pre) := by
  induction pre generalizing n s with
  | nil => rfl
  | cons item pre ih =>
      have haccess : s.access env fault n = (s.flush env, none) :=
        access_of_ne fun f hf => by
          have := hfault f hf
          simp at this
          omega
      have hitem : checkItem env (s.flush env).rows item = .ok () := by
        rw [flush_rows]
        exact hpre item (by simp)
      rw [List.cons_append, changeItems, haccess]
      simp only [hitem]
      rw [ih, List.length_cons, Nat.add_right_comm, Nat.add_assoc]
      · rfl
      · intro later hlater
        have hone : ∀ i ∈ [item], Accepts env s.rows i := fun i hi => by
          cases List.mem_singleton.1 hi
          exact hpre item (by simp)
        have hset := checkItem_changeRows hone later
        refine Eq.trans ?_ (hset.trans (hpre later (by simp [hlater])))
        rw [change_rows, flush_rows]
        rfl
      · intro f hf
        have := hfault f hf
        simp at this
        omega

theorem changeItems_of_succeeds (h : Succeeds env fault s.rows items) :
    changeItems env fault 0 items s = (s.after env items, none) := by
  have hfault : ∀ f ∈ fault, 0 + items.length ≤ f.access := fun f hf => by
    rw [Nat.zero_add]
    exact (h.2 f hf).le
  have happend : changeItems env fault 0 (items ++ []) s = (s.after env items, none) :=
    changeItems_append h.1 hfault
  rwa [List.append_nil] at happend

theorem changeItems_of_fault (hf : f ∈ fault) (hlen : f.access ≤ items.length)
    (haccepted : ∀ item ∈ items.take f.access, Accepts env s.rows item) :
    changeItems env fault 0 items s =
        ((s.after env (items.take f.access)).failed env f, some .database) ∨
      changeItems env fault 0 items s = (s.after env (items.take f.access), none) ∧
        items.length = f.access := by
  have hfault : ∀ g ∈ fault, 0 + (items.take f.access).length ≤ g.access := by
    intro g hg
    cases Option.mem_unique hg hf
    rw [Nat.zero_add, List.length_take]
    exact Nat.min_le_left _ _
  have happend : changeItems env fault 0 (items.take f.access ++ items.drop f.access) s =
      changeItems env fault (0 + (items.take f.access).length) (items.drop f.access)
        (s.after env (items.take f.access)) := changeItems_append haccepted hfault
  rw [List.take_append_drop, List.length_take_of_le hlen, Nat.zero_add] at happend
  rw [happend]
  cases hrest : items.drop f.access with
  | nil => exact .inr ⟨rfl, le_antisymm (List.drop_eq_nil_iff.1 hrest) hlen⟩
  | cons item rest =>
      left
      rw [changeItems, access_of_mem hf]

variable (rest) in
theorem changeItems_of_refused (haccepted : ∀ item ∈ pre, Accepts env s.rows item)
    (hrefused : ¬ Accepts env s.rows item) (hfault : ∀ f ∈ fault, pre.length < f.access) :
    ∃ e, changeItems env fault 0 (pre ++ item :: rest) s =
      ((s.after env pre).flush env, some e) := by
  rw [changeItems_append haccepted fun f hf => by simpa using (hfault f hf).le, changeItems,
    access_of_ne fun f hf => by simpa using (hfault f hf).ne']
  have hcheck : checkItem env ((s.after env pre).flush env).rows item =
      checkItem env s.rows item := by
    rw [flush_rows, rows_after, checkItem_changeRows haccepted]
  cases hitem : checkItem env s.rows item with
  | ok u => exact absurd hitem hrefused
  | error e => exact ⟨e, by simp only [hcheck, hitem]⟩

end SettingsSession

/-! ## The request -/

open SettingsSession

variable {fault : Option DatabaseFault} {items : List (SettingsPatchItem F)}
  {s : SettingsState F}

theorem changeSystemSettings_of_succeeds (hvalid : settingErrors env items = [])
    (h : Succeeds env fault s.rows items) :
    (changeSystemSettings env fault items s).1 =
      { rows := changeRows env s.rows items, storage := storeItems env s.storage items,
        jobs := rescheduleJobs env items (storeItems env s.storage items) s.jobs } := by
  unfold changeSystemSettings
  rw [hvalid]
  simp only [changeItems_of_succeeds (s := ⟨s.rows, none, s.storage⟩) h,
    access_of_ne fun f hf => (h.2 f hf).ne', flush_rows, rows_after, storage_flush_after]

/-- A request that fails leaves the rows and the jobs alone, but not the storage. -/
theorem changeSystemSettings_of_fails (hvalid : settingErrors env items = [])
    (h : ¬ Succeeds env fault s.rows items) :
    (changeSystemSettings env fault items s).1 =
      { s with storage := storeItems env s.storage (flushedItems env fault s.rows items) } := by
  have haccepted : ∀ item ∈ items.takeWhile (Accepts env s.rows), Accepts env s.rows item :=
    fun item hitem => by simpa using List.mem_takeWhile_imp hitem
  have happend := List.takeWhile_append_dropWhile (l := items)
    (p := fun item => decide (Accepts env s.rows item))
  unfold changeSystemSettings flushedItems
  rw [hvalid]
  generalize items.takeWhile (Accepts env s.rows) = accepted at *
  cases hfault : fault.filter (·.access ≤ accepted.length) with
  | some f =>
      obtain ⟨hf, hle⟩ := Option.filter_eq_some_iff.1 hfault
      have hle : f.access ≤ accepted.length := by simpa using hle
      have htake : items.take f.access = accepted.take f.access := by
        rw [← happend, List.take_append_of_le_length hle]
      have hlen : f.access ≤ items.length := by
        rw [← happend, List.length_append]
        omega
      rcases changeItems_of_fault (s := ⟨s.rows, none, s.storage⟩) hf hlen fun item hitem =>
        haccepted item (List.mem_of_mem_take (htake ▸ hitem)) with heq | ⟨heq, hcommit⟩
      · simp only [heq, storage_failed_after, htake, hfault]
      · simp only [heq, hcommit, access_of_mem hf, storage_failed_after, htake, hfault]
  | none =>
      have hnone : ∀ f ∈ fault, accepted.length < f.access := fun f hf => by
        simpa using Option.filter_eq_none_iff.1 hfault f hf
      cases hrest : items.dropWhile fun item => decide (Accepts env s.rows item) with
      | nil =>
          rw [hrest, List.append_nil] at happend
          exact absurd ⟨happend ▸ haccepted, happend ▸ hnone⟩ h
      | cons item rest =>
          have hrefused : ¬ Accepts env s.rows item := by
            have := List.head_dropWhile_not (fun item => decide (Accepts env s.rows item))
              (l := items) (by simp [hrest])
            simpa [hrest] using this
          obtain ⟨e, heq⟩ := changeItems_of_refused (s := ⟨s.rows, none, s.storage⟩) rest
            haccepted hrefused hnone
          rw [hrest] at happend
          rw [happend] at heq
          simp only [heq, storage_flush_after, hfault]

/-! ## When the copies agree -/

theorem get?_cancelJob (jobs : Dict String (CronJob F)) {name name' : String} (h : name' ≠ name) :
    (cancelJob jobs name).get? name' = jobs.get? name' := by
  simp [cancelJob, Dict.get?_filterKeys, h]

variable (env items) in
theorem get?_rescheduleJobs (storage : Dict ESettingKey (SettingValue F))
    (jobs : Dict String (CronJob F)) :
    let get := requestedValue env items storage
    (rescheduleJobs env items storage jobs).get? "CHECK_CONTAINERS" =
        some ⟨get .CHECK_CRONTAB_EXPR, zoneOf env (get .TIMEZONE)⟩ ∧
      (rescheduleJobs env items storage jobs).get? "UPDATE_CONTAINERS" =
        some ⟨get .UPDATE_CRONTAB_EXPR, zoneOf env (get .TIMEZONE)⟩ := by
  have hne : "UPDATE_CONTAINERS" ≠ "CHECK_CONTAINERS" := by decide
  constructor
  · unfold rescheduleJobs scheduleJob
    rw [Dict.get?_set_of_ne _ hne, get?_cancelJob _ hne.symm, Dict.get?_set_self]
  · unfold rescheduleJobs scheduleJob
    rw [Dict.get?_set_self]

/-- Where some item of a setting has a value that is not empty, some item is the last. -/
theorem lastGiven_or_of_firstGiven {key : ESettingKey} {value : SettingValue F}
    (h : firstGiven env items key = some value) (other : Option (SettingValue F)) :
    (lastGiven env items key).or other = lastGiven env items key := by
  obtain ⟨item, hfind, -⟩ := Option.map_eq_some_iff.1 h
  have hlast : (items.reverse.find? fun item => item.key = key.text).isSome = true := by
    rw [List.find?_isSome]
    have hitem := List.find?_some hfind
    exact ⟨item, List.mem_reverse.2 (List.mem_of_find?_eq_some hfind), by simp_all⟩
  obtain ⟨last, hlast⟩ := Option.isSome_iff_exists.1 hlast
  simp [lastGiven, hlast]

theorem or_eq_right_iff {α β : Type} (read : Option α → β) {first stored : Option α} :
    read (first.or stored) = read stored ↔
      ∀ value, first = some value → read (some value) = read stored := by
  cases first <;> simp

variable (env) in
/-- Of the items of a setting, the first one with a value asks for the same as the last
one. -/
def FirstIsLast {α : Type} (read : Option (SettingValue F) → α)
    (items : List (SettingsPatchItem F)) (key : ESettingKey) : Prop :=
  ∀ value, firstGiven env items key = some value →
    read (some value) = read (lastGiven env items key)

variable (items) in
theorem requestedValue_eq_iff {α : Type} (read : Option (SettingValue F) → α)
    (hstorage : ∀ key, s.storage.get? key = committedValue env s.rows key) (key : ESettingKey) :
    read (requestedValue env items (storeItems env s.storage items) key) =
        read (committedValue env (changeRows env s.rows items) key) ↔
      FirstIsLast env read items key := by
  have hstored : (storeItems env s.storage items).get? key =
      committedValue env (changeRows env s.rows items) key := by
    rw [get?_storeItems, committedValue_changeRows, hstorage]
  have hrequested : requestedValue env items (storeItems env s.storage items) key =
      (firstGiven env items key).or (committedValue env (changeRows env s.rows items) key) := by
    rw [← hstored]
    rfl
  rw [hrequested, or_eq_right_iff]
  refine forall_congr' fun value => imp_congr_right fun hfirst => ?_
  rw [committedValue_changeRows, lastGiven_or_of_firstGiven hfirst]

variable (env) in
/-- The request keeps the agreement: where it is carried out, the first and the last item of
a setting of the jobs agree, and where it fails, the flushed items change no value. -/
structure KeepsAgreement (fault : Option DatabaseFault) (rows : Dict String SettingRow)
    (items : List (SettingsPatchItem F)) : Prop where
  check : Succeeds env fault rows items → FirstIsLast env id items .CHECK_CRONTAB_EXPR
  update : Succeeds env fault rows items → FirstIsLast env id items .UPDATE_CRONTAB_EXPR
  timezone : Succeeds env fault rows items → FirstIsLast env (zoneOf env) items .TIMEZONE
  flushed : ¬ Succeeds env fault rows items → ∀ key value,
    lastGiven env (flushedItems env fault rows items) key = some value →
      committedValue env rows key = some value

theorem agrees_of_succeeds_iff (h : s.Agrees env) (hsucceeds : Succeeds env fault s.rows items) :
    SettingsState.Agrees env
        { rows := changeRows env s.rows items, storage := storeItems env s.storage items,
          jobs := rescheduleJobs env items (storeItems env s.storage items) s.jobs } ↔
      KeepsAgreement env fault s.rows items := by
  obtain ⟨hcheck, hupdate⟩ := get?_rescheduleJobs env items
    (storeItems env s.storage items) s.jobs
  have hiff {α : Type} (read : Option (SettingValue F) → α) (key : ESettingKey) :=
    requestedValue_eq_iff items read h.storage key
  constructor
  · intro hagrees
    have hspec := (hcheck.symm.trans hagrees.check).trans rfl
    have hspec' := (hupdate.symm.trans hagrees.update).trans rfl
    injection hspec with hspec
    injection hspec with hcheckSpec hzone
    injection hspec' with hspec'
    injection hspec' with hupdateSpec
    exact ⟨fun _ => (hiff id _).1 hcheckSpec, fun _ => (hiff id _).1 hupdateSpec,
      fun _ => (hiff (zoneOf env) _).1 hzone, fun hfails => absurd hsucceeds hfails⟩
  · intro hkeeps
    have hspec := (hiff id _).2 (hkeeps.check hsucceeds)
    have hspec' := (hiff id _).2 (hkeeps.update hsucceeds)
    have hzone := (hiff (zoneOf env) _).2 (hkeeps.timezone hsucceeds)
    refine ⟨fun key => ?_, ?_, ?_⟩
    · rw [get?_storeItems, committedValue_changeRows, h.storage]
    · refine hcheck.trans (congrArg some ?_)
      exact congrArg₂ CronJob.mk hspec hzone
    · refine hupdate.trans (congrArg some ?_)
      exact congrArg₂ CronJob.mk hspec' hzone

theorem agrees_of_fails_iff (h : s.Agrees env) (hfails : ¬ Succeeds env fault s.rows items) :
    SettingsState.Agrees env
        { s with storage := storeItems env s.storage (flushedItems env fault s.rows items) } ↔
      KeepsAgreement env fault s.rows items := by
  have hstored (key : ESettingKey) :
      (storeItems env s.storage (flushedItems env fault s.rows items)).get? key =
          committedValue env s.rows key ↔
        ∀ value, lastGiven env (flushedItems env fault s.rows items) key = some value →
          committedValue env s.rows key = some value := by
    rw [get?_storeItems, h.storage]
    exact (or_eq_right_iff id).trans (forall₂_congr fun _ _ => eq_comm)
  constructor
  · exact fun hagrees => ⟨fun hsucceeds => absurd hsucceeds hfails,
      fun hsucceeds => absurd hsucceeds hfails, fun hsucceeds => absurd hsucceeds hfails,
      fun _ key => (hstored key).1 (hagrees.storage key)⟩
  · exact fun hkeeps => ⟨fun key => (hstored key).2 (hkeeps.flushed hfails key), h.check,
      h.update⟩

/-- After a request the three copies agree exactly if it was refused as a whole, or it was
carried out with one value for each job, or what it had flushed changes no value. -/
theorem agrees_changeSystemSettings_iff (h : s.Agrees env) :
    (changeSystemSettings env fault items s).1.Agrees env ↔
      (settingErrors env items = [] → KeepsAgreement env fault s.rows items) := by
  cases hvalid : settingErrors env items with
  | cons message messages =>
      have heq : (changeSystemSettings env fault items s).1 = s := by
        simp only [changeSystemSettings, hvalid]
      rw [heq]
      exact iff_of_true h nofun
  | nil =>
      rw [forall_prop_of_true rfl]
      by_cases hsucceeds : Succeeds env fault s.rows items
      · rw [changeSystemSettings_of_succeeds hvalid hsucceeds]
        exact agrees_of_succeeds_iff h hsucceeds
      · rw [changeSystemSettings_of_fails hvalid hsucceeds]
        exact agrees_of_fails_iff h hsucceeds

end

/-! ## Crontab settings -/

/-- An environment without floating point numbers that knows one time zone. -/
def utcEnv : SettingsEnv Empty where
  numerals :=
    { digit := fun c => if isDigit c then some (c.toNat - '0'.toNat) else none
      floatOf := fun _ => none
      floatText := Empty.elim
      isZero := Empty.elim }
  unicode := asciiTables
  dns := fun _ _ => none
  cronError := fun _ => none
  validTimezones := (· == "UTC")
  urlError := fun _ => "Invalid IPv6 URL"
  allowSchemes := []
  allowNetworks := []
  allowEndpoints := []

/-- A check every hour and an update every day. -/
def crontabSettings : SettingsState Empty where
  rows := [("CHECK_CRONTAB_EXPR", ⟨"0 * * * *", "str"⟩),
    ("UPDATE_CRONTAB_EXPR", ⟨"0 0 * * *", "str"⟩),
    ("TIMEZONE", ⟨"UTC", "str"⟩)]
  storage := [(.CHECK_CRONTAB_EXPR, .str "0 * * * *"), (.UPDATE_CRONTAB_EXPR, .str "0 0 * * *"),
    (.TIMEZONE, .str "UTC")]
  jobs := [("CHECK_CONTAINERS", ⟨some (.str "0 * * * *"), some "UTC"⟩),
    ("UPDATE_CONTAINERS", ⟨some (.str "0 0 * * *"), some "UTC"⟩)]

theorem crontabSettings_agrees : crontabSettings.Agrees utcEnv where
  storage key := by cases key <;> decide
  check := by decide
  update := by decide

theorem agrees_changeSystemSettings_nightly :
    (changeSystemSettings utcEnv none [⟨"CHECK_CRONTAB_EXPR", .str "0 5 * * *"⟩]
        crontabSettings).1.Agrees utcEnv ↔
      (settingErrors utcEnv [⟨"CHECK_CRONTAB_EXPR", .str "0 5 * * *"⟩] = [] →
        KeepsAgreement utcEnv none crontabSettings.rows
          [⟨"CHECK_CRONTAB_EXPR", .str "0 5 * * *"⟩]) :=
  agrees_changeSystemSettings_iff crontabSettings_agrees

/-- The unknown setting is refused after the expression before it was stored. -/
theorem unknown_setting_leaves_storage :
    crontabSettings.Agrees utcEnv ∧
      ¬ (changeSystemSettings utcEnv none
          [⟨"CHECK_CRONTAB_EXPR", .str "0 5 * * *"⟩, ⟨"NO_SUCH_SETTING", .str ""⟩]
          crontabSettings).1.Agrees utcEnv :=
  ⟨crontabSettings_agrees, fun h => absurd (h.storage .CHECK_CRONTAB_EXPR) (by decide)⟩

end Tugtainer
