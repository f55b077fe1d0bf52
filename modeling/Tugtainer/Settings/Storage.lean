import Tugtainer.Network.Ssrf
import Tugtainer.Python.Dict
import Tugtainer.Python.Numerals

/-!
# The settings

A setting is a row with a text and the name of a type. `SettingsStorage` keeps the typed
values in memory, and the cron jobs of the check and of the update are scheduled with three
of them. What CronSim, the time zone database and the floating point numbers say is a
parameter.
-/

namespace Tugtainer

open Python

/-! ## Keys and values -/

inductive ESettingKey where
  | CHECK_CRONTAB_EXPR | UPDATE_CRONTAB_EXPR | PULL_BEFORE_CHECK | REGISTRY_REQ_DELAY
  | TIMEZONE | NOTIFICATION_URLS | NOTIFICATION_TITLE_TEMPLATE | NOTIFICATION_BODY_TEMPLATE
  | UPDATE_ONLY_RUNNING | INSECURE_REGISTRIES | DELAY_UPDATE_FOR
  deriving DecidableEq, Repr

namespace ESettingKey

def text : ESettingKey → String
  | CHECK_CRONTAB_EXPR => "CHECK_CRONTAB_EXPR"
  | UPDATE_CRONTAB_EXPR => "UPDATE_CRONTAB_EXPR"
  | PULL_BEFORE_CHECK => "PULL_BEFORE_CHECK"
  | REGISTRY_REQ_DELAY => "REGISTRY_REQ_DELAY"
  | TIMEZONE => "TIMEZONE"
  | NOTIFICATION_URLS => "NOTIFICATION_URLS"
  | NOTIFICATION_TITLE_TEMPLATE => "NOTIFICATION_TITLE_TEMPLATE"
  | NOTIFICATION_BODY_TEMPLATE => "NOTIFICATION_BODY_TEMPLATE"
  | UPDATE_ONLY_RUNNING => "UPDATE_ONLY_RUNNING"
  | INSECURE_REGISTRIES => "INSECURE_REGISTRIES"
  | DELAY_UPDATE_FOR => "DELAY_UPDATE_FOR"

def all : List ESettingKey :=
  [CHECK_CRONTAB_EXPR, UPDATE_CRONTAB_EXPR, PULL_BEFORE_CHECK, REGISTRY_REQ_DELAY, TIMEZONE,
    NOTIFICATION_URLS, NOTIFICATION_TITLE_TEMPLATE, NOTIFICATION_BODY_TEMPLATE,
    UPDATE_ONLY_RUNNING, INSECURE_REGISTRIES, DELAY_UPDATE_FOR]

/-- `ESettingKey(text)`, or `none` where it raises a `ValueError`. -/
def ofText (s : String) : Option ESettingKey :=
  all.find? fun key => key.text = s

theorem text_injective : Function.Injective text := by
  intro key key' h
  cases key <;> cases key' <;> first | rfl | exact absurd h (by decide)

theorem ofText_eq_some {s : String} {key : ESettingKey} : ofText s = some key ↔ s = key.text := by
  constructor
  · intro h
    exact (by simpa using List.find?_some h : key.text = s).symm
  · rintro rfl
    cases key <;> decide

end ESettingKey

inductive SettingValue (F : Type) where
  | bool (b : Bool)
  | int (n : ℤ)
  | float (x : F)
  | str (s : String)
  deriving DecidableEq, Repr

namespace SettingValue

variable {F : Type}

/-- `type(value).__name__`. -/
def typeName : SettingValue F → String
  | bool _ => "bool"
  | int _ => "int"
  | float _ => "float"
  | str _ => "str"

/-- `str(value)`. -/
def text (N : Numerals F) : SettingValue F → String
  | bool true => "True"
  | bool false => "False"
  | int n => toString n
  | float x => N.floatText x
  | str s => s

/-- `bool(value)`. -/
def isTruthy (N : Numerals F) : SettingValue F → Bool
  | bool b => b
  | int n => n != 0
  | float x => !N.isZero x
  | str s => s != ""

/-- `value`, where it is an instance of `int`: a `bool` is one. -/
def asInt : SettingValue F → Option ℤ
  | bool b => some (if b then 1 else 0)
  | int n => some n
  | float _ | str _ => none

end SettingValue

structure SettingRow where
  value : String
  valueType : String
  deriving DecidableEq, Repr

def getSettingTypedValue {F : Type} (N : Numerals F) (value valueType : String) :
    SettingValue F :=
  if valueType = "bool" then .bool (lower value == "true")
  else if valueType = "float" then ((N.floatOf value).map .float).getD (.str value)
  else if valueType = "int" then ((intOf N.digit value).map .int).getD (.str value)
  else .str value

/-! ## The storage and the jobs -/

/-- A cron job: its expression, and its time zone unless it is the local one. -/
structure CronJob (F : Type) where
  spec : Option (SettingValue F)
  zone : Option String
  deriving DecidableEq, Repr

/-- The committed rows, the values of `SettingsStorage` and the jobs of `CronManager`. -/
structure SettingsState (F : Type) where
  rows : Dict String SettingRow
  storage : Dict ESettingKey (SettingValue F)
  jobs : Dict String (CronJob F)

/-- What is outside of the program, and its configuration. -/
structure SettingsEnv (F : Type) where
  numerals : Numerals F
  unicode : Unicode
  dns : Dns
  /-- What CronSim says of an expression that it refuses. -/
  cronError : String → Option String
  validTimezones : String → Bool
  /-- What `urlparse` says of a URL that it refuses. -/
  urlError : String → String
  allowSchemes : List String
  allowNetworks : List IpNetwork
  allowEndpoints : List String

/-- An access to the database fails, before the pending change is flushed or after it. -/
structure DatabaseFault where
  access : ℕ
  flushed : Bool
  deriving DecidableEq, Repr

/-- What `change_system_settings` raises. -/
inductive SettingsExn where
  /-- `RequestValidationError` -/
  | invalid (messages : List String)
  /-- `HTTPException` -/
  | http (status : ℕ) (detail : String)
  /-- `SQLAlchemyError` -/
  | database
  deriving DecidableEq, Repr

section

variable {F : Type} (env : SettingsEnv F)

def SettingRow.typed (row : SettingRow) : SettingValue F :=
  getSettingTypedValue env.numerals row.value row.valueType

def updateSettingValue (storage : Dict ESettingKey (SettingValue F))
    (target : String × SettingRow) : Dict ESettingKey (SettingValue F) :=
  match ESettingKey.ofText target.1 with
  | some key => storage.set key (target.2.typed env)
  | none => storage

/-- `ZoneInfo(tz) if tz in VALID_TIMEZONES else None`. -/
def zoneOf : Option (SettingValue F) → Option String
  | some (.str tz) => if env.validTimezones tz then some tz else none
  | _ => none

def cancelJob (jobs : Dict String (CronJob F)) (name : String) : Dict String (CronJob F) :=
  jobs.filterKeys (· ≠ name)

def scheduleJob (jobs : Dict String (CronJob F)) (name : String)
    (cronExpr tz : Option (SettingValue F)) : Dict String (CronJob F) :=
  (cancelJob jobs name).set name { spec := cronExpr, zone := zoneOf env tz }

/-! ## The items of a request -/

structure SettingsPatchItem (F : Type) where
  key : String
  value : SettingValue F
  deriving DecidableEq, Repr

def splitNotificationUrls (urls : String) : List String :=
  (((splitlines urls).map strip).filter (· ≠ "")).dedup

def validateNotificationUrl (url : String) : Except String Unit :=
  match urlparse env.unicode url with
  | none => .error (env.urlError url)
  | some parsed =>
      if parsed.scheme = "" then .error ("Missing scheme in notification URL: " ++ url)
      else if env.allowSchemes ≠ [] ∧ parsed.scheme ∉ env.allowSchemes then
        .error ("Notification scheme '" ++ parsed.scheme ++ "' not allowed." ++
          "\nYou can change this behavior through " ++
          "NOTIFICATION_ALLOW_SCHEMES environment variable.")
      else .ok ()

def validateNotificationUrls : SettingValue F → Except String Unit
  | .str urls => (splitNotificationUrls urls).forM (validateNotificationUrl env)
  | _ => .error "Invalid NOTIFICATION_URLS, expected string."

def validateCronExpr (expr : String) : Except String Unit :=
  match env.cronError expr with
  | some e => .error ("Invalid cron expression: " ++ expr ++ ". Details: " ++ e)
  | none => .ok ()

def validateTimezone (tz : String) : Except String Unit :=
  if env.validTimezones tz then .ok () else .error ("Invalid timezone: " ++ tz)

def validateDelay (p : ℤ → Bool) (message : String) (value : SettingValue F) :
    Except String Unit :=
  if value.asInt.any p then .ok () else .error message

def validateSetting (item : SettingsPatchItem F) : Except String Unit :=
  match ESettingKey.ofText item.key with
  | some .CHECK_CRONTAB_EXPR => validateCronExpr env (item.value.text env.numerals)
  | some .UPDATE_CRONTAB_EXPR => validateCronExpr env (item.value.text env.numerals)
  | some .TIMEZONE => validateTimezone env (item.value.text env.numerals)
  | some .REGISTRY_REQ_DELAY =>
      validateDelay (0 < ·) "Invalid REGISTRY_REQ_DELAY, expected positive integer." item.value
  | some .DELAY_UPDATE_FOR =>
      validateDelay (0 ≤ ·) "Invalid DELAY_UPDATE_FOR, expected non-negative integer." item.value
  | some .NOTIFICATION_URLS => validateNotificationUrls env item.value
  | _ => .ok ()

/-- `validate_notification_urls_against_ssrf`. Other errors than `TugUrlValidationSSRFError`
are ignored. -/
def validateNotificationUrlsAgainstSsrf (urls : String) : Except SettingsExn Unit :=
  (splitNotificationUrls urls).forM fun url =>
    match validateUrlAgainstSsrf env.unicode env.dns url env.allowNetworks env.allowEndpoints with
    | .error (.ssrf message) =>
        .error (.http 422 (message ++ "\nYou can change this behavior through " ++
          "NOTIFICATION_ALLOW_NETWORKS and NOTIFICATION_ALLOW_ENDPOINTS " ++
          "environment variables."))
    | _ => .ok ()

def checkItem (rows : Dict String SettingRow) (item : SettingsPatchItem F) :
    Except SettingsExn Unit :=
  match rows.get? item.key with
  | none => .error (.http 404 ("Setting '" ++ item.key ++ "' not found"))
  | some setting =>
      if setting.valueType ≠ item.value.typeName then
        .error (.http 400 ("Invalid type of '" ++ item.key ++ "', expected '" ++
          setting.valueType ++ "'"))
      else if ESettingKey.ofText item.key = some .NOTIFICATION_URLS then
        validateNotificationUrlsAgainstSsrf env (item.value.text env.numerals)
      else .ok ()

/-! ## The request -/

/-- A session: the rows as it sees them, and the object that is to be flushed. The storage
changes with every flush. -/
structure SettingsSession (F : Type) where
  rows : Dict String SettingRow
  pending : Option (String × SettingRow)
  storage : Dict ESettingKey (SettingValue F)

namespace SettingsSession

def flush (s : SettingsSession F) : SettingsSession F :=
  match s.pending with
  | some target => { s with pending := none, storage := updateSettingValue env s.storage target }
  | none => s

/-- An access to the database, which flushes the pending change first. -/
def access (fault : Option DatabaseFault) (n : ℕ) (s : SettingsSession F) :
    SettingsSession F × Option SettingsExn :=
  match fault.filter (·.access = n) with
  | some fault => (if fault.flushed then s.flush env else s, some .database)
  | none => (s.flush env, none)

/-- `setting.value = str(s.value)`, for a setting of the item's type. -/
def change (s : SettingsSession F) (item : SettingsPatchItem F) : SettingsSession F :=
  let row := { value := item.value.text env.numerals, valueType := item.value.typeName }
  { s with rows := s.rows.set item.key row, pending := some (item.key, row) }

/-- The loop over the items, from the access number `n` on. -/
def changeItems (fault : Option DatabaseFault) :
    ℕ → List (SettingsPatchItem F) → SettingsSession F → SettingsSession F × Option SettingsExn
  | _, [], s => (s, none)
  | n, item :: items, s =>
      match s.access env fault n with
      | (s, some e) => (s, some e)
      | (s, none) =>
          match checkItem env s.rows item with
          | .error e => (s, some e)
          | .ok () => changeItems fault (n + 1) items (s.change env item)

end SettingsSession

/-- `_get`: the first value of the request that is not empty, or the one of the storage. -/
def requestedValue (items : List (SettingsPatchItem F))
    (storage : Dict ESettingKey (SettingValue F)) (key : ESettingKey) :
    Option (SettingValue F) :=
  ((items.find? fun item => item.key = key.text ∧ item.value.isTruthy env.numerals = true).map
    fun item => .str (item.value.text env.numerals)).or (storage.get? key)

def rescheduleJobs (items : List (SettingsPatchItem F))
    (storage : Dict ESettingKey (SettingValue F)) (jobs : Dict String (CronJob F)) :
    Dict String (CronJob F) :=
  let get := requestedValue env items storage
  scheduleJob env
    (scheduleJob env jobs "CHECK_CONTAINERS" (get .CHECK_CRONTAB_EXPR) (get .TIMEZONE))
    "UPDATE_CONTAINERS" (get .UPDATE_CRONTAB_EXPR) (get .TIMEZONE)

/-- What the validation of the request complains about. -/
def settingErrors (items : List (SettingsPatchItem F)) : List String :=
  items.filterMap fun item =>
    match validateSetting env item with
    | .error message => some message
    | .ok () => none

/-- `change_system_settings`, with the validation of the request before it. Closing the
session without a commit rolls its rows back, but not the storage. -/
def changeSystemSettings (fault : Option DatabaseFault) (items : List (SettingsPatchItem F))
    (s : SettingsState F) : SettingsState F × Except SettingsExn ℕ :=
  match settingErrors env items with
  | message :: messages => (s, .error (.invalid (message :: messages)))
  | [] =>
      match SettingsSession.changeItems env fault 0 items ⟨s.rows, none, s.storage⟩ with
      | (session, some e) => ({ s with storage := session.storage }, .error e)
      | (session, none) =>
          match session.access env fault items.length with
          | (session, some e) => ({ s with storage := session.storage }, .error e)
          | (session, none) =>
              ({ rows := session.rows, storage := session.storage,
                 jobs := rescheduleJobs env items session.storage s.jobs }, .ok items.length)

end

end Tugtainer
