import Tugtainer.Settings.Agreement

/-!
# The settings over restarts

A request may fail in the middle and leave the storage apart from the rows. Whatever requests
and restarts there are, all three copies hold values of the right type that pass their own
checks, and a restart brings the copies together (`valid_of_run`).
-/

namespace Tugtainer

open Python

def ESettingKey.valueType : ESettingKey → String
  | PULL_BEFORE_CHECK | UPDATE_ONLY_RUNNING => "bool"
  | REGISTRY_REQ_DELAY | DELAY_UPDATE_FOR => "int"
  | CHECK_CRONTAB_EXPR | UPDATE_CRONTAB_EXPR | TIMEZONE | NOTIFICATION_URLS
  | NOTIFICATION_TITLE_TEMPLATE | NOTIFICATION_BODY_TEMPLATE | INSECURE_REGISTRIES => "str"

section

variable {F : Type} (env : SettingsEnv F)

/-! ## Starting the program -/

/-- `SettingsStorage.load_all`. -/
def loadAll (rows : Dict String SettingRow) (storage : Dict ESettingKey (SettingValue F)) :
    Dict ESettingKey (SettingValue F) :=
  rows.foldl (updateSettingValue env) storage

/-- A job that `schedule_actions_on_init` schedules, unless its expression is empty. -/
def scheduleOnInit (storage : Dict ESettingKey (SettingValue F)) (jobs : Dict String (CronJob F))
    (name : String) (key : ESettingKey) : Dict String (CronJob F) :=
  if (storage.get? key).any (·.isTruthy env.numerals) then
    scheduleJob env jobs name (storage.get? key) (storage.get? .TIMEZONE)
  else jobs

def scheduleActionsOnInit (storage : Dict ESettingKey (SettingValue F))
    (jobs : Dict String (CronJob F)) : Dict String (CronJob F) :=
  scheduleOnInit env storage (scheduleOnInit env storage jobs "CHECK_CONTAINERS"
    .CHECK_CRONTAB_EXPR) "UPDATE_CONTAINERS" .UPDATE_CRONTAB_EXPR

/-- The program is started again: only the rows have stayed. -/
def SettingsState.restart (s : SettingsState F) : SettingsState F where
  rows := s.rows
  storage := loadAll env s.rows []
  jobs := scheduleActionsOnInit env (loadAll env s.rows []) []

inductive SettingsEvent (F : Type) where
  | change (fault : Option DatabaseFault) (items : List (SettingsPatchItem F))
  | restart

/-- What an event makes of the settings. -/
def SettingsState.run (s : SettingsState F) : SettingsEvent F → SettingsState F
  | .change fault items => (changeSystemSettings env fault items s).1
  | .restart => s.restart env

/-! ## Valid values -/

/-- The value has the type of the setting and passes its check. -/
structure IsValidSetting (key : ESettingKey) (value : SettingValue F) : Prop where
  type : value.typeName = key.valueType
  check : validateSetting env ⟨key.text, value⟩ = .ok ()

def CronJob.IsValid (key : ESettingKey) (job : CronJob F) : Prop :=
  ∃ expr tz, job = ⟨some expr, some tz⟩ ∧ IsValidSetting env key expr ∧
    IsValidSetting env .TIMEZONE (.str tz)

/-- Every setting has a row, whose text reads as a valid value. -/
structure ValidRows (rows : Dict String SettingRow) : Prop where
  nodup : (rows.map Prod.fst).Nodup
  type : ∀ key : ESettingKey, (rows.get? key.text).map (·.valueType) = some key.valueType
  value : ∀ key value, committedValue env rows key = some value → IsValidSetting env key value

/-- All copies of the settings are valid, whether they agree or not. -/
structure SettingsState.Valid (s : SettingsState F) : Prop where
  rows : ValidRows env s.rows
  storage : ∀ key, ∃ value, s.storage.get? key = some value ∧ IsValidSetting env key value
  check : ∃ job, s.jobs.get? "CHECK_CONTAINERS" = some job ∧ job.IsValid env .CHECK_CRONTAB_EXPR
  update : ∃ job, s.jobs.get? "UPDATE_CONTAINERS" = some job ∧
    job.IsValid env .UPDATE_CRONTAB_EXPR

/-- What the settings rely on: CronSim refuses the empty expression, and `int` reads ASCII. -/
structure SettingsEnv.Ordinary : Prop where
  cron : env.cronError "" ≠ none
  digit : ∀ c, isDigit c = true ∨ c = '-' → env.numerals.digit c = asciiDigit c

variable {env}

/-! ## Texts -/

theorem typed_row (henv : env.Ordinary) {item : SettingsPatchItem F} {key : ESettingKey}
    (htype : item.value.typeName = key.valueType) : (item.row env).typed env = item.value := by
  unfold SettingsPatchItem.row SettingRow.typed getSettingTypedValue
  cases hvalue : item.value with
  | bool b =>
      have hlower : lower "True" = "true" ∧ lower "False" = "false" := by decide
      cases b with
      | false => simp [SettingValue.typeName, SettingValue.text, hlower.2]
      | true => simp [SettingValue.typeName, SettingValue.text, hlower.1]
  | int n =>
      have hint : intOf env.numerals.digit (toString n) = some n := by
        rw [intOf_congr fun c hc => henv.digit c (isDigit_or_eq_of_mem_toString hc)]
        exact intOf_toString n
      have htypes : (SettingValue.int n : SettingValue F).typeName = "int" := rfl
      have htext : (SettingValue.int n).text env.numerals = toString n := rfl
      simp only [htypes, htext, hint, String.reduceEq, if_false, if_true, Option.map_some,
        Option.getD_some]
  | float x =>
      rw [hvalue] at htype
      cases key <;> exact absurd htype (by simp [SettingValue.typeName, ESettingKey.valueType])
  | str s => simp [SettingValue.typeName, SettingValue.text]

theorem IsValidSetting.exists_str {key : ESettingKey} {value : SettingValue F}
    (h : IsValidSetting env key value) (hkey : key.valueType = "str") : ∃ s, value = .str s := by
  have htype := h.type.trans hkey
  cases value with
  | str s => exact ⟨s, rfl⟩
  | bool | int | float => exact absurd htype (by simp [SettingValue.typeName])

theorem zoneOf_of_valid {value : SettingValue F} (h : IsValidSetting env .TIMEZONE value) :
    ∃ tz, value = .str tz ∧ zoneOf env (some value) = some tz := by
  obtain ⟨tz, rfl⟩ := h.exists_str rfl
  have hcheck := h.check
  refine ⟨tz, rfl, ?_⟩
  by_cases hvalid : env.validTimezones tz = true
  · simp [zoneOf, hvalid]
  · have hkey : ESettingKey.ofText ESettingKey.TIMEZONE.text = some .TIMEZONE := by decide
    simp [validateSetting, hkey, validateTimezone, SettingValue.text, hvalid] at hcheck

theorem isTruthy_of_valid (henv : env.Ordinary) {key : ESettingKey} {value : SettingValue F}
    (hkey : key = .CHECK_CRONTAB_EXPR ∨ key = .UPDATE_CRONTAB_EXPR)
    (h : IsValidSetting env key value) : value.isTruthy env.numerals = true := by
  have hstr : key.valueType = "str" := by
    rcases hkey with rfl | rfl
    · rfl
    · rfl
  obtain ⟨s, rfl⟩ := h.exists_str hstr
  have hcheck : validateCronExpr env s = .ok () := by
    rcases hkey with rfl | rfl
    · exact h.check
    · exact h.check
  have hne : s ≠ "" := by
    rintro rfl
    unfold validateCronExpr at hcheck
    cases herror : env.cronError "" with
    | none => exact henv.cron herror
    | some e => simp [herror] at hcheck
  simpa [SettingValue.isTruthy] using hne

/-! ## Items -/

section

variable {rows : Dict String SettingRow} {items accepted : List (SettingsPatchItem F)}
  {item : SettingsPatchItem F} {key : ESettingKey}

theorem validateSetting_of_mem (hvalid : settingErrors env items = []) (hmem : item ∈ items) :
    validateSetting env item = .ok () := by
  have hnone := List.filterMap_eq_nil_iff.1 hvalid item hmem
  cases hitem : validateSetting env item with
  | ok _ => rfl
  | error message => simp [hitem] at hnone

theorem isValid_of_accepts (hrows : ValidRows env rows)
    (hvalid : validateSetting env item = .ok ()) (haccepts : Accepts env rows item)
    (hkey : item.key = key.text) : IsValidSetting env key item.value := by
  have htype := SettingsSession.valueType_of_accepts haccepts
  rw [hkey, hrows.type key] at htype
  obtain ⟨itemKey, value⟩ := item
  obtain rfl : itemKey = key.text := hkey
  exact ⟨(Option.some.inj htype).symm, hvalid⟩

theorem isValid_of_lastGiven (henv : env.Ordinary) (hrows : ValidRows env rows)
    (hvalid : ∀ item ∈ accepted, validateSetting env item = .ok ())
    (haccepts : ∀ item ∈ accepted, Accepts env rows item) {value : SettingValue F}
    (h : lastGiven env accepted key = some value) : IsValidSetting env key value := by
  obtain ⟨item, hfind, rfl⟩ := Option.map_eq_some_iff.1 h
  have hmem := List.mem_reverse.1 (List.mem_of_find?_eq_some hfind)
  have hkey : item.key = key.text := by simpa using List.find?_some hfind
  have hitem := isValid_of_accepts hrows (hvalid item hmem) (haccepts item hmem) hkey
  rw [typed_row henv hitem.type]
  exact hitem

theorem isValid_of_firstGiven (hrows : ValidRows env rows)
    (hvalid : ∀ item ∈ accepted, validateSetting env item = .ok ())
    (haccepts : ∀ item ∈ accepted, Accepts env rows item) {value : SettingValue F}
    (hkey : key.valueType = "str") (h : firstGiven env accepted key = some value) :
    IsValidSetting env key value := by
  obtain ⟨item, hfind, rfl⟩ := Option.map_eq_some_iff.1 h
  have hmem := List.mem_of_find?_eq_some hfind
  have hfound := List.find?_some hfind
  have hitem := isValid_of_accepts hrows (hvalid item hmem) (haccepts item hmem)
    (of_decide_eq_true hfound).1
  obtain ⟨s, hs⟩ := hitem.exists_str hkey
  rw [hs] at hitem ⊢
  exact hitem

theorem ValidRows.changeRows (henv : env.Ordinary) (hrows : ValidRows env rows)
    (hvalid : ∀ item ∈ accepted, validateSetting env item = .ok ())
    (haccepts : ∀ item ∈ accepted, Accepts env rows item) :
    ValidRows env (changeRows env rows accepted) where
  nodup := Dict.nodup_keys_foldl_set _ _ _ hrows.nodup
  type key := by
    unfold Tugtainer.changeRows
    rw [Dict.get?_foldl_set (fun item : SettingsPatchItem F => item.key) (·.row env)]
    cases hfind : accepted.reverse.find? fun item => item.key = key.text with
    | none => simpa using hrows.type key
    | some item =>
        have hmem := List.mem_reverse.1 (List.mem_of_find?_eq_some hfind)
        have hkey : item.key = key.text := by simpa using List.find?_some hfind
        have hitem := isValid_of_accepts hrows (hvalid item hmem) (haccepts item hmem) hkey
        simpa [SettingsPatchItem.row] using hitem.type
  value key value h := by
    rw [committedValue_changeRows] at h
    rcases Option.or_eq_some_iff.1 h with hlast | ⟨-, hold⟩
    · exact isValid_of_lastGiven henv hrows hvalid haccepts hlast
    · exact hrows.value key value hold

end

/-! ## Steps -/

section

variable {s : SettingsState F} {items accepted : List (SettingsPatchItem F)}

theorem valid_storeItems (henv : env.Ordinary) (h : s.Valid env)
    (hvalid : ∀ item ∈ accepted, validateSetting env item = .ok ())
    (haccepts : ∀ item ∈ accepted, Accepts env s.rows item) (key : ESettingKey) :
    ∃ value, (storeItems env s.storage accepted).get? key = some value ∧
      IsValidSetting env key value := by
  rw [get?_storeItems]
  cases hlast : lastGiven env accepted key with
  | none => simpa using h.storage key
  | some value =>
      exact ⟨value, rfl, isValid_of_lastGiven henv h.rows hvalid haccepts hlast⟩

theorem valid_requestedValue {rows : Dict String SettingRow}
    {storage : Dict ESettingKey (SettingValue F)} (hrows : ValidRows env rows)
    (hstorage : ∀ key, ∃ value, storage.get? key = some value ∧ IsValidSetting env key value)
    (hvalid : ∀ item ∈ items, validateSetting env item = .ok ())
    (haccepts : ∀ item ∈ items, Accepts env rows item) {key : ESettingKey}
    (hkey : key.valueType = "str") :
    ∃ value, requestedValue env items storage key = some value ∧ IsValidSetting env key value := by
  change ∃ value, (firstGiven env items key).or (storage.get? key) = some value ∧ _
  cases hfirst : firstGiven env items key with
  | none => simpa using hstorage key
  | some value =>
      exact ⟨value, rfl, isValid_of_firstGiven hrows hvalid haccepts hkey hfirst⟩

theorem CronJob.isValid_mk {key : ESettingKey} {expr tz : SettingValue F}
    (hexpr : IsValidSetting env key expr) (htz : IsValidSetting env .TIMEZONE tz) :
    CronJob.IsValid env key ⟨some expr, zoneOf env (some tz)⟩ := by
  obtain ⟨zone, rfl, hzone⟩ := zoneOf_of_valid htz
  exact ⟨expr, zone, by rw [hzone], hexpr, htz⟩

theorem mem_of_mem_flushedItems {fault : Option DatabaseFault} {rows : Dict String SettingRow}
    {item : SettingsPatchItem F} (h : item ∈ flushedItems env fault rows items) :
    item ∈ items ∧ Accepts env rows item := by
  have haccepted : item ∈ items.takeWhile (Accepts env rows) := by
    unfold flushedItems at h
    dsimp only at h
    split at h
    · split at h
      · exact List.mem_of_mem_take h
      · exact List.mem_of_mem_take (List.dropLast_subset _ h)
    · exact h
  have haccepts := List.mem_takeWhile_imp haccepted
  exact ⟨(List.takeWhile_sublist _).subset haccepted, by simpa using haccepts⟩

/-- Whether a request is carried out, fails or is refused, the copies stay valid. -/
theorem SettingsState.Valid.change (henv : env.Ordinary) (h : s.Valid env)
    (fault : Option DatabaseFault) (items : List (SettingsPatchItem F)) :
    (changeSystemSettings env fault items s).1.Valid env := by
  cases herrors : settingErrors env items with
  | cons message messages =>
      have heq : (changeSystemSettings env fault items s).1 = s := by
        simp only [changeSystemSettings, herrors]
      rw [heq]
      exact h
  | nil =>
      have hvalid : ∀ item ∈ items, validateSetting env item = .ok () :=
        fun item hmem => validateSetting_of_mem herrors hmem
      by_cases hsucceeds : Succeeds env fault s.rows items
      · rw [changeSystemSettings_of_succeeds herrors hsucceeds]
        have hstorage := valid_storeItems henv h hvalid hsucceeds.1
        have hrequested (key : ESettingKey) (hkey : key.valueType = "str") :=
          valid_requestedValue h.rows hstorage hvalid hsucceeds.1 hkey
        obtain ⟨hcheck, hupdate⟩ :=
          get?_rescheduleJobs env items (storeItems env s.storage items) s.jobs
        obtain ⟨tz, htz, htzValid⟩ := hrequested .TIMEZONE rfl
        obtain ⟨expr, hexpr, hexprValid⟩ := hrequested .CHECK_CRONTAB_EXPR rfl
        obtain ⟨expr', hexpr', hexprValid'⟩ := hrequested .UPDATE_CRONTAB_EXPR rfl
        rw [hexpr, htz] at hcheck
        rw [hexpr', htz] at hupdate
        exact ⟨h.rows.changeRows henv hvalid hsucceeds.1, hstorage,
          ⟨_, hcheck, CronJob.isValid_mk hexprValid htzValid⟩,
          ⟨_, hupdate, CronJob.isValid_mk hexprValid' htzValid⟩⟩
      · rw [changeSystemSettings_of_fails herrors hsucceeds]
        refine ⟨h.rows, valid_storeItems henv h (fun item hmem => ?_) fun item hmem => ?_,
          h.check, h.update⟩
        · exact hvalid item (mem_of_mem_flushedItems hmem).1
        · exact (mem_of_mem_flushedItems hmem).2

/-- The storage after the program has started: the values of the rows. -/
theorem get?_loadAll {rows : Dict String SettingRow} (hnodup : (rows.map Prod.fst).Nodup)
    (storage : Dict ESettingKey (SettingValue F)) (key : ESettingKey) :
    (loadAll env rows storage).get? key = (committedValue env rows key).or (storage.get? key) := by
  unfold loadAll committedValue
  induction rows generalizing storage with
  | nil => simp
  | cons target rows ih =>
      obtain ⟨hnew, hnodup⟩ := List.nodup_cons.1 hnodup
      rw [List.foldl_cons, ih hnodup, get?_updateSettingValue, Dict.get?_cons]
      by_cases hkey : target.1 = key.text
      · rw [if_pos hkey, if_pos hkey]
        have hnone : Dict.get? rows key.text = none := Dict.get?_eq_none_iff.2 (hkey ▸ hnew)
        simp [hnone]
      · rw [if_neg hkey, if_neg hkey]

theorem SettingsState.Valid.agrees_restart (henv : env.Ordinary) (h : s.Valid env) :
    (s.restart env).Agrees env := by
  have hstorage (key : ESettingKey) :
      (loadAll env s.rows []).get? key = committedValue env s.rows key := by
    rw [get?_loadAll h.rows.nodup, Dict.get?_nil, Option.or_none]
  have hjob {jobs : Dict String (CronJob F)} {name : String} {key : ESettingKey}
      (hkey : key = .CHECK_CRONTAB_EXPR ∨ key = .UPDATE_CRONTAB_EXPR) :
      scheduleOnInit env (loadAll env s.rows []) jobs name key =
        (cancelJob jobs name).set name (committedJob env s.rows key) := by
    have hsome : (committedValue env s.rows key).any (·.isTruthy env.numerals) = true := by
      have htype := h.rows.type key
      obtain ⟨row, hrow, -⟩ := Option.map_eq_some_iff.1 htype
      have hvalue : committedValue env s.rows key = some (row.typed env) := by
        rw [committedValue, hrow]
        rfl
      rw [hvalue]
      exact isTruthy_of_valid henv hkey (h.rows.value key _ hvalue)
    rw [scheduleOnInit, hstorage, hstorage, if_pos hsome]
    rfl
  have hne : "UPDATE_CONTAINERS" ≠ "CHECK_CONTAINERS" := by decide
  refine ⟨hstorage, ?_, ?_⟩
  · change (scheduleActionsOnInit env (loadAll env s.rows []) []).get? _ = _
    rw [scheduleActionsOnInit, hjob (.inl rfl), hjob (.inr rfl), Dict.get?_set_of_ne _ hne,
      get?_cancelJob _ hne.symm, Dict.get?_set_self]
    rfl
  · change (scheduleActionsOnInit env (loadAll env s.rows []) []).get? _ = _
    rw [scheduleActionsOnInit, hjob (.inl rfl), hjob (.inr rfl), Dict.get?_set_self]
    rfl

theorem SettingsState.Agrees.valid (hrows : ValidRows env s.rows) (h : s.Agrees env) :
    s.Valid env := by
  have hvalue (key : ESettingKey) :
      ∃ value, committedValue env s.rows key = some value ∧ IsValidSetting env key value := by
    obtain ⟨row, hrow, -⟩ := Option.map_eq_some_iff.1 (hrows.type key)
    have hvalue : committedValue env s.rows key = some (row.typed env) := by
      rw [committedValue, hrow]
      rfl
    exact ⟨_, hvalue, hrows.value key _ hvalue⟩
  have hjob (key : ESettingKey) : (committedJob env s.rows key).IsValid env key := by
    obtain ⟨expr, hexpr, hexprValid⟩ := hvalue key
    obtain ⟨tz, htz, htzValid⟩ := hvalue .TIMEZONE
    rw [committedJob, hexpr, htz]
    exact CronJob.isValid_mk hexprValid htzValid
  refine ⟨hrows, fun key => ?_, ⟨_, h.check, hjob _⟩, ⟨_, h.update, hjob _⟩⟩
  rw [h.storage]
  exact hvalue key

theorem SettingsState.Valid.run (henv : env.Ordinary) (h : s.Valid env) (event : SettingsEvent F) :
    (s.run env event).Valid env := by
  cases event with
  | change fault items => exact h.change henv fault items
  | restart => exact (h.agrees_restart henv).valid h.rows

/-- Whatever requests succeed, fail or are refused and however often the program is started
again, all copies of the settings hold valid values of the right types, and the next start
brings them together. -/
theorem valid_of_run (henv : env.Ordinary) (h : s.Valid env) (events : List (SettingsEvent F)) :
    (events.foldl (SettingsState.run env) s).Valid env ∧
      ((events.foldl (SettingsState.run env) s).restart env).Agrees env := by
  have hvalid : (events.foldl (SettingsState.run env) s).Valid env := by
    induction events generalizing s with
    | nil => exact h
    | cons event events ih => exact ih (h.run henv event)
  exact ⟨hvalid, hvalid.agrees_restart henv⟩

end

end

/-! ## An example -/

/-- The environment of `utcEnv`, with a CronSim that refuses the empty expression. -/
def installedEnv : SettingsEnv Empty :=
  { utcEnv with cronError := fun expr => if expr = "" then some "Wrong number of fields" else none }

theorem installedEnv_ordinary : installedEnv.Ordinary where
  cron := by decide
  digit _ _ := rfl

def installedRows : Dict String SettingRow :=
  [("CHECK_CRONTAB_EXPR", ⟨"0 0 * * *", "str"⟩), ("NOTIFICATION_URLS", ⟨"", "str"⟩),
    ("TIMEZONE", ⟨"UTC", "str"⟩), ("UPDATE_CRONTAB_EXPR", ⟨"0 7 * * *", "str"⟩),
    ("PULL_BEFORE_CHECK", ⟨"0", "bool"⟩), ("REGISTRY_REQ_DELAY", ⟨"5", "int"⟩),
    ("UPDATE_ONLY_RUNNING", ⟨"TRUE", "bool"⟩), ("INSECURE_REGISTRIES", ⟨"", "str"⟩),
    ("NOTIFICATION_BODY_TEMPLATE", ⟨"{{ results }}", "str"⟩),
    ("NOTIFICATION_TITLE_TEMPLATE", ⟨"Tugtainer", "str"⟩), ("DELAY_UPDATE_FOR", ⟨"0", "int"⟩)]

theorem installedRows_valid : ValidRows installedEnv installedRows where
  nodup := by decide
  type key := by cases key <;> decide
  value key value h := by
    have hvalue : committedValue installedEnv installedRows key = some value := h
    cases key <;> (cases hvalue; exact ⟨by decide, by decide⟩)

def installedSettings : SettingsState Empty :=
  SettingsState.restart installedEnv ⟨installedRows, [], []⟩

theorem installedSettings_valid : installedSettings.Valid installedEnv := by
  refine SettingsState.Agrees.valid installedRows_valid ⟨fun key => ?_, by decide, by decide⟩
  cases key <;> decide

/-- A request fails at its unknown setting, and the program is started again. -/
theorem valid_of_run_installed :
    ([SettingsEvent.change none [⟨"CHECK_CRONTAB_EXPR", .str "0 5 * * *"⟩,
        ⟨"NO_SUCH_SETTING", .str ""⟩], .restart].foldl (SettingsState.run installedEnv)
          installedSettings).Valid installedEnv ∧
      (([SettingsEvent.change none [⟨"CHECK_CRONTAB_EXPR", .str "0 5 * * *"⟩,
        ⟨"NO_SUCH_SETTING", .str ""⟩], .restart].foldl (SettingsState.run installedEnv)
          installedSettings).restart installedEnv).Agrees installedEnv :=
  valid_of_run installedEnv_ordinary installedSettings_valid _

end Tugtainer
