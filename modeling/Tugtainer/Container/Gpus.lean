import Tugtainer.Cli.Values
import Tugtainer.Container.MapArgs

/-!
# GPUs

The command line client reads `--gpus` as one record and reports the request that it read.
The driver is not among what the value says, while only requests of the nvidia driver are
mapped: `gpus_never_survive`.
-/

namespace Tugtainer

open Python Cli

/-! ## How the value is read -/

/-- A number of GPUs; all of them are `-1`. -/
def gpuCount (s : String) : Option ℤ :=
  if s = "all" then some (-1) else atoi s

/-- What was read so far, and the keys that were seen. -/
structure GpuOpts where
  seen : List String := []
  driver : String := ""
  count : ℤ := 0
  deviceIds : Option (List String) := none
  capabilities : Option (List (List String)) := none
  options : Option (Dict String String) := none
  deriving DecidableEq, Repr

def GpuOpts.setKey (opts : GpuOpts) (key value : String) : Option GpuOpts :=
  match key with
  | "driver" => some { opts with driver := value }
  | "count" => (gpuCount value).map fun n => { opts with count := n }
  | "device" => some { opts with deviceIds := some (split value ',') }
  | "capabilities" => some { opts with capabilities := some [split value ',' ++ ["gpu"]] }
  | "options" => (record value).map fun fields =>
      { opts with options := some (keyValues fields) }
  | _ => none

/-- One field; no key may come twice. -/
def GpuOpts.setField (opts : GpuOpts) (field : String) : Option GpuOpts :=
  let (key, value) := split1 field '='
  if key ∈ opts.seen then none
  else
    match value with
    | some value => ({ opts with seen := key :: opts.seen } : GpuOpts).setKey key value
    | none => (gpuCount key).map fun n =>
        { opts with seen := "count" :: key :: opts.seen, count := n }

/-- The request that is made: one GPU unless a count or devices are given. -/
def GpuOpts.request (opts : GpuOpts) : ContainerDeviceRequest where
  driver := some opts.driver
  count := some (if "count" ∉ opts.seen ∧ opts.deviceIds = none then 1 else opts.count)
  deviceIds := opts.deviceIds
  capabilities := some (opts.capabilities.getD [["gpu"]])
  options := some (opts.options.getD [])

/-- The request that a `--gpus` value makes. -/
def readGpus (value : String) : Option ContainerDeviceRequest :=
  ((record value).bind fun fields => fields.foldlM GpuOpts.setField {}).map GpuOpts.request

example : readGpus "\"device=0,1\",capabilities=utility" = some
    { driver := some "", count := some 0, deviceIds := some ["0", "1"]
      capabilities := some [["utility", "gpu"]], options := some [] } := by decide

/-! ## What should come of a request -/

def ContainerDeviceRequest.ids (req : ContainerDeviceRequest) : List String :=
  req.deviceIds.getD []

/-- All capabilities but that of a GPU, which is added anyway. -/
def ContainerDeviceRequest.caps (req : ContainerDeviceRequest) : List String :=
  (req.capabilities.getD []).flatten.filter (· ≠ "gpu")

/-- The value of the request makes one for the same GPUs, which has that value again. -/
structure Survives (req : ContainerDeviceRequest) (value : String)
    (reported : ContainerDeviceRequest) : Prop where
  mapped : mapDeviceRequestsToGpus (some [req]) = some value
  read : readGpus value = some reported
  ids : reported.ids = req.ids
  count : req.ids = [] → reported.count = req.count
  caps : ∀ cap, cap ∈ reported.caps ↔ cap ∈ req.caps
  options : ∀ key, (reported.options.getD []).get? key = (req.options.getD []).get? key
  again : mapDeviceRequestsToGpus (some [reported]) = some value

/-! ## What the reader keeps -/

section Read

variable {opts opts' : GpuOpts} {key value field : String}

theorem setKey_keeps (h : opts.setKey key value = some opts') :
    opts'.seen = opts.seen ∧ (key ≠ "device" → opts'.deviceIds = opts.deviceIds) := by
  unfold GpuOpts.setKey at h
  split at h
  · cases h
    exact ⟨rfl, fun _ => rfl⟩
  · obtain ⟨_, -, rfl⟩ := Option.map_eq_some_iff.1 h
    exact ⟨rfl, fun _ => rfl⟩
  · cases h
    exact ⟨rfl, fun hkey => absurd rfl hkey⟩
  · cases h
    exact ⟨rfl, fun _ => rfl⟩
  · obtain ⟨_, -, rfl⟩ := Option.map_eq_some_iff.1 h
    exact ⟨rfl, fun _ => rfl⟩
  · cases h

theorem setField_keeps (hseen : "device" ∈ opts.seen) (h : opts.setField field = some opts') :
    "device" ∈ opts'.seen ∧ opts'.deviceIds = opts.deviceIds := by
  unfold GpuOpts.setField at h
  cases hfield : split1 field '=' with
  | mk key value =>
      simp only [hfield] at h
      split at h
      · cases h
      next hnew =>
        have hkey : key ≠ "device" := fun heq => hnew (heq ▸ hseen)
        cases value with
        | none =>
            obtain ⟨_, -, rfl⟩ := Option.map_eq_some_iff.1 h
            exact ⟨by simp [hseen], rfl⟩
        | some value =>
            obtain ⟨hsame, hids⟩ := setKey_keeps h
            exact ⟨by simp [hsame, hseen], hids hkey⟩

theorem foldlM_setField_keeps {fields : List String} (hseen : "device" ∈ opts.seen)
    (h : fields.foldlM GpuOpts.setField opts = some opts') :
    opts'.deviceIds = opts.deviceIds := by
  induction fields generalizing opts with
  | nil =>
      cases h
      rfl
  | cons field fields ih =>
      rw [List.foldlM_cons] at h
      obtain ⟨next, hnext, hrest⟩ := Option.bind_eq_some_iff.1 h
      obtain ⟨hstill, hids⟩ := setField_keeps hseen hnext
      exact (ih hstill hrest).trans hids

theorem setField_of_toList_eq (key : String) {rest : List Char} (hkey : '=' ∉ key.toList)
    (hfield : field.toList = key.toList ++ '=' :: rest) :
    GpuOpts.setField {} field = GpuOpts.setKey { seen := [key] } key (String.ofList rest) := by
  have hsplit : split1 field '=' = (key, some (String.ofList rest)) :=
    split1_of_toList_eq (by simpa using hfield) hkey
  simp [GpuOpts.setField, hsplit]

end Read

/-! ## The first part of the value -/

def firstPart (req : ContainerDeviceRequest) : String :=
  match req.deviceIds, req.count with
  | some (i :: ids), _ => "device=" ++ join "," (i :: ids)
  | _, some n => if 0 < n then "count=" ++ toString n else "device=all"
  | _, none => "device=all"

section Value

variable {req : ContainerDeviceRequest}

theorem toList_join_cons (s : String) (l : List String) :
    ∃ t, (t = [] ∨ ∃ u, t = ',' :: u) ∧ (join "," (s :: l)).toList = s.toList ++ t := by
  cases l with
  | nil => exact ⟨[], .inl rfl, by simp [join]⟩
  | cons s' l =>
      refine ⟨',' :: (join "," (s' :: l)).toList, .inr ⟨_, rfl⟩, ?_⟩
      simp [toList_join]

theorem gpusOfRequest_shape (req : ContainerDeviceRequest) :
    gpusOfRequest req = "all" ∨ ∃ t, Ends t ∧
      (gpusOfRequest req).toList = '"' :: ((firstPart req).toList ++ t) := by
  obtain ⟨more, hmore⟩ : ∃ more, gpusOfRequest req =
      if contains "device=all,capabilities=gpu" (join "," (firstPart req :: more)) then "all"
      else "\"" ++ join "," (firstPart req :: more) ++ "\"" := ⟨_, rfl⟩
  rw [hmore]
  split
  · exact .inl rfl
  · obtain ⟨t, ht, htext⟩ := toList_join_cons (firstPart req) more
    exact .inr ⟨t ++ ['"'], ends_append_singleton ht, by simp [htext]⟩

theorem exists_of_readGpus {value : String} {cs : List Char}
    (hvalue : value.toList = '"' :: cs) (h : readGpus value = some req) :
    ∃ read opts opts', fieldsFrom .quoted cs = some read ∧
      GpuOpts.setField {} (String.ofList read.1) = some opts ∧
      (read.2.map String.ofList).foldlM GpuOpts.setField opts = some opts' ∧
      opts'.request = req := by
  rw [readGpus, record_of_toList_eq hvalue] at h
  obtain ⟨opts', hopts', hreq⟩ := Option.map_eq_some_iff.1 h
  obtain ⟨fields, hfields, hfold⟩ := Option.bind_eq_some_iff.1 hopts'
  obtain ⟨read, hread, rfl⟩ := Option.map_eq_some_iff.1 hfields
  rw [List.map_cons, List.foldlM_cons] at hfold
  obtain ⟨opts, hfirst, hrest⟩ := Option.bind_eq_some_iff.1 hfold
  exact ⟨read, opts, opts', hread, hfirst, hrest, hreq⟩

/-- A value whose first part says which devices is read for a request of these and no driver. -/
theorem readGpus_device {value : String} {t : List Char} (ids : List Char)
    (hvalue : value.toList = '"' :: ("device=".toList ++ ids ++ t))
    (h : readGpus value = some req) :
    ∃ g more, fieldsFrom .quoted (ids ++ t) = some (g, more) ∧
      req.deviceIds = some (split (String.ofList g) ',') ∧
      (more = [] → req.driver = some "") := by
  obtain ⟨read, opts, opts', hread, hfirst, hrest, rfl⟩ := exists_of_readGpus hvalue h
  rw [List.append_assoc, fieldsFrom_quoted_append (by decide)] at hread
  obtain ⟨⟨g, more⟩, hg, rfl⟩ := Option.map_eq_some_iff.1 hread
  have hset : GpuOpts.setField {} (String.ofList ("device=".toList ++ g)) =
      some { seen := ["device"], deviceIds := some (split (String.ofList g) ',') } :=
    setField_of_toList_eq "device" (by decide) (by simp)
  obtain rfl := Option.some.inj (hset.symm.trans hfirst)
  refine ⟨g, more, hg, foldlM_setField_keeps (by simp) hrest, ?_⟩
  rintro rfl
  obtain rfl := Option.some.inj hrest
  rfl

theorem gpuCount_append_comma {digits : List Char} (hne : digits ≠ []) (rest : List Char) :
    gpuCount (String.ofList (digits ++ ',' :: rest)) = none := by
  obtain ⟨c, cs, rfl⟩ := List.exists_cons_of_ne_nil hne
  have hall : String.ofList (c :: cs ++ ',' :: rest) ≠ "all" := by
    intro heq
    have hmem : ',' ∈ (String.ofList (c :: cs ++ ',' :: rest)).toList := by simp
    exact absurd (heq ▸ hmem) (by decide)
  rw [gpuCount, if_neg hall, Option.eq_none_iff_forall_ne_some]
  intro n hn
  have hdigit : isDigit ',' = true :=
    isDigit_of_atoi (String.toList_ofList) hn (by simp)
  exact absurd hdigit (by decide)

/-- A value whose first part is a count is read for a request without a driver. -/
theorem readGpus_count {value : String} {n : ℤ} {t : List Char} (hn : 0 < n) (ht : Ends t)
    (hvalue : value.toList = '"' :: ("count=".toList ++ (toString n).toList ++ t))
    (h : readGpus value = some req) : req.driver = some "" := by
  obtain ⟨read, opts, opts', hread, hfirst, hrest, rfl⟩ := exists_of_readGpus hvalue h
  have hdigits : (toString n).toList = Nat.toDigits 10 n.natAbs := by
    rw [toList_toString_int, if_neg (by omega)]
  have hquotes : '"' ∉ "count=".toList ++ (toString n).toList := by
    rw [hdigits, List.mem_append, not_or]
    exact ⟨by decide, fun hmem => absurd (isDigit_of_mem_toDigits hmem) (by decide)⟩
  rw [fieldsFrom_quoted_append hquotes] at hread
  obtain ⟨⟨g, more⟩, hg, rfl⟩ := Option.map_eq_some_iff.1 hread
  have hset : GpuOpts.setField {} (String.ofList ("count=".toList ++ (toString n).toList ++ g)) =
      (gpuCount (String.ofList ((toString n).toList ++ g))).map fun n =>
        { seen := ["count"], count := n } :=
    setField_of_toList_eq "count" (by decide) (by simp)
  rw [hset] at hfirst
  rcases ht with rfl | ⟨u, rfl⟩
  · obtain ⟨rfl, rfl⟩ := Prod.mk.inj (Option.some.inj hg)
    obtain ⟨_, -, rfl⟩ := Option.map_eq_some_iff.1 hfirst
    obtain rfl := Option.some.inj hrest
    rfl
  · rw [fieldsFrom_quoted_cons (by decide)] at hg
    obtain ⟨⟨g', _⟩, -, heq⟩ := Option.map_eq_some_iff.1 hg
    obtain ⟨rfl, -⟩ := Prod.mk.inj heq
    rw [gpuCount_append_comma (hdigits ▸ Nat.toDigits_ne_nil)] at hfirst
    cases hfirst

theorem readGpus_device_all_ne {value : String} {t : List Char}
    (hnone : ∀ i ids, req.deviceIds = some (i :: ids) → False)
    (hvalue : value.toList = '"' :: ("device=all".toList ++ t)) : readGpus value ≠ some req := by
  intro h
  obtain ⟨g, _, -, hdevices, -⟩ := readGpus_device "all".toList hvalue h
  obtain ⟨i, ids, hids⟩ := List.exists_cons_of_ne_nil
    (l := split (String.ofList g) ',') (by simp [split, List.splitOn_ne_nil])
  exact hnone i ids (hids ▸ hdevices)

theorem driver_of_readGpus_gpusOfRequest (h : readGpus (gpusOfRequest req) = some req) :
    req.driver = some "" := by
  rcases gpusOfRequest_shape req with hall | ⟨t, ht, hvalue⟩
  · rw [hall] at h
    have hread : readGpus "all" = some
        { driver := some "", count := some (-1), capabilities := some [["gpu"]]
          options := some [] } := by decide
    exact Option.some.inj (hread.symm.trans h) ▸ rfl
  · unfold firstPart at hvalue
    split at hvalue
    next i ids hids =>
      -- what is read of the devices joins to what was written of them
      obtain ⟨g, more, hg, hdevices, hdriver⟩ := readGpus_device
        (join "," (i :: ids)).toList (by rw [hvalue, String.toList_append]) h
      have hsplit : i :: ids = split (String.ofList g) ',' :=
        Option.some.inj (hids.symm.trans hdevices)
      rw [hsplit, join_split rfl, String.toList_ofList] at hg
      exact hdriver (eq_of_fieldsFrom_quoted ht hg).2
    next n hcount hids =>
      split at hvalue
      next hn => exact readGpus_count hn ht (by rw [hvalue, String.toList_append]) h
      next => exact absurd h (readGpus_device_all_ne hids hvalue)
    next hcount hids => exact absurd h (readGpus_device_all_ne hids hvalue)

end Value

/-- No request has the value again once the container was recreated with it. -/
theorem gpus_never_survive (req : ContainerDeviceRequest) :
    ¬ ∃ value reported, Survives req value reported := by
  rintro ⟨value, reported, h⟩
  obtain ⟨again, hagain, hvalue⟩ := Option.map_eq_some_iff.1 h.again
  have hsame : again = reported := by
    simpa using List.mem_of_find?_eq_some hagain
  subst hsame
  have hdriver := driver_of_readGpus_gpusOfRequest (hvalue.symm ▸ h.read)
  have hfound := List.find?_some hagain
  simp [hdriver, truthy] at hfound

/-- Two GPUs of the nvidia driver. -/
def twoGpus : ContainerDeviceRequest where
  driver := some "nvidia"
  deviceIds := some ["0", "1"]
  capabilities := some [["gpu"]]

/-- The first update makes a request for all that the quotes hold, and without a driver. -/
theorem twoGpus_are_lost :
    nvidiaRequest (some [twoGpus]) = some twoGpus ∧
      mapDeviceRequestsToGpus (some [twoGpus]) = some "\"device=0,1,capabilities=gpu\"" ∧
      readGpus "\"device=0,1,capabilities=gpu\"" = some
        { driver := some "", count := some 0
          deviceIds := some ["0", "1", "capabilities=gpu"]
          capabilities := some [["gpu"]], options := some [] } ∧
      ¬ ∃ value reported, Survives twoGpus value reported := by
  have hmapped : mapDeviceRequestsToGpus (some [twoGpus]) =
      some "\"device=0,1,capabilities=gpu\"" := by decide
  have hread : readGpus "\"device=0,1,capabilities=gpu\"" = some
        { driver := some "", count := some 0
          deviceIds := some ["0", "1", "capabilities=gpu"]
          capabilities := some [["gpu"]], options := some [] } := by decide
  refine ⟨by decide, hmapped, hread, ?_⟩
  rintro ⟨value, reported, h⟩
  obtain rfl := Option.some.inj (hmapped.symm.trans h.mapped)
  obtain rfl := Option.some.inj (hread.symm.trans h.read)
  exact absurd h.again (by decide)

end Tugtainer
