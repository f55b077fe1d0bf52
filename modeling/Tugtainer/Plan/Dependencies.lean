import Mathlib.Data.Finset.Union
import Tugtainer.Container.Util
import Tugtainer.Python.SetOrder

/-!
# The dependency graph of a host

The planner reads two labels. `dev.quenary.tugtainer.depends_on` lists container
names; `com.docker.compose.depends_on` lists services, which are resolved to the
containers of the same compose project. `dependsOnMap` collects both by
container and `dependablesMap` is its reverse.

`DependsOn` says the same without dictionaries, and `mem_dependsOnMap_iff` and
`mem_dependablesMap_iff` connect the two.
-/

namespace Tugtainer

open Python

/-- The name in one entry of a dependency label: the part before the first
colon, e.g. `db` of `db:service_started:true`. -/
def dependencyName (dep : String) : String :=
  strip ((split (strip dep) ':').headD "")

/-- The dependencies listed in a label. -/
def getDependencies (container : ContainerInspectResult) (label : String) :
    Finset String :=
  let dependsOnLabel := ((containerLabels container).get? label).getD ""
  if dependsOnLabel = "" then ∅
  else (((split dependsOnLabel ',').map dependencyName).filter (· ≠ "")).toFinset

/-- The unique id of the container's compose project. -/
def getComposeId (c : ContainerInspectResult) : Option String :=
  let proj := ((containerLabels c).get? dockerComposeProjectLabel).getD ""
  let fil := ((containerLabels c).get? dockerComposeConfigFilesLabel).getD ""
  if proj ≠ "" ∨ fil ≠ "" then some (proj ++ ":" ++ fil) else none

/-- The service a container runs, as compose project and service name. -/
def serviceOf (c : ContainerInspectResult) : Option (String × String) :=
  match getServiceName c, getComposeId c with
  | some srvn, some composeId => if srvn = "" then none else some (composeId, srvn)
  | _, _ => none

def composeServiceNames (containers : List ContainerInspectResult) :
    Dict String (Dict String String) :=
  containers.foldl (fun names c => match serviceOf c with
    | none => names
    | some (composeId, srvn) =>
        names.set composeId (((names.get? composeId).getD []).set srvn c.name)) []

/-- The containers that run the services of the container's compose label. -/
def composeDependencies (services : Dict String (Dict String String))
    (c : ContainerInspectResult) : Finset String :=
  match getComposeId c with
  | none => ∅
  | some composeId =>
      let neighbors := (services.get? composeId).getD []
      (getDependencies c dockerComposeDependsOnLabel).biUnion fun d =>
        match neighbors.get? d with
        | some dName => if dName = "" then ∅ else {dName}
        | none => ∅

def dependsOnMap (containers : List ContainerInspectResult) :
    Dict String (Finset String) :=
  let services := composeServiceNames containers
  containers.foldl (fun m c => m.set c.name
    (getDependencies c tugtainerDependsOnLabel ∪ composeDependencies services c)) []

/-- The places where the planner iterates a set. -/
inductive PlanSite where
  /-- `list(to_update)`, the initial queue -/
  | queue
  /-- `for dep in deps` while the reverse map is built -/
  | reversing (name : String)
  /-- `for dep in dependables_map.get(node)` -/
  | dependables (node : String)
  /-- `for dep in depends_on_map.get(node)` -/
  | dependencies (node : String)
  /-- `for n in affected | to_update` -/
  | involved
  deriving DecidableEq

/-- One container of the reverse map: it is a dependable of all it depends
on. -/
def addDependable (ord : SetOrder PlanSite String) (m : Dict String (Finset String))
    (item : String × Finset String) : Dict String (Finset String) :=
  (ord.iter (.reversing item.1) item.2).foldl
    (fun m dep => m.set dep (insert item.1 ((m.get? dep).getD ∅))) m

def dependablesMap (ord : SetOrder PlanSite String)
    (dependsOn : Dict String (Finset String)) : Dict String (Finset String) :=
  dependsOn.foldl (addDependable ord) []

/-- `depends_on_map.get(node, set())`, in the order it is iterated. -/
def dependencies (ord : SetOrder PlanSite String) (m : Dict String (Finset String))
    (node : String) : List String :=
  ord.iter (.dependencies node) ((m.get? node).getD ∅)

/-- `dependables_map.get(node, set())`, in the order it is iterated. -/
def dependables (ord : SetOrder PlanSite String) (m : Dict String (Finset String))
    (node : String) : List String :=
  ord.iter (.dependables node) ((m.get? node).getD ∅)

/-! ## The relation behind the maps -/

/-- The container of that name that the maps end up with: the last one. -/
def lastNamed (containers : List ContainerInspectResult) (name : String) :
    Option ContainerInspectResult :=
  containers.reverse.find? fun c => c.name = name

/-- The container that stands for a service: the last one that runs it. -/
def lastRunning (containers : List ContainerInspectResult) (composeId srvn : String) :
    Option ContainerInspectResult :=
  containers.reverse.find? fun c => serviceOf c = some (composeId, srvn)

/-- `a` depends on `b` directly, by its own label or by the compose label. -/
def DependsOn (containers : List ContainerInspectResult) (a b : String) : Prop :=
  ∃ c, lastNamed containers a = some c ∧
    (b ∈ getDependencies c tugtainerDependsOnLabel ∨
      ∃ srvn ∈ getDependencies c dockerComposeDependsOnLabel, ∃ composeId,
        getComposeId c = some composeId ∧
          ∃ c', lastRunning containers composeId srvn = some c' ∧ c'.name = b)

theorem composeServiceNames_get? (containers : List ContainerInspectResult)
    (composeId srvn : String) :
    (((composeServiceNames containers).get? composeId).getD []).get? srvn =
      (lastRunning containers composeId srvn).map ContainerInspectResult.name := by
  unfold composeServiceNames lastRunning
  induction containers using List.reverseRecOn with
  | nil => simp
  | append_singleton l c ih =>
      rw [List.foldl_append, List.foldl_cons, List.foldl_nil, List.reverse_append,
        List.reverse_singleton, List.singleton_append, List.find?_cons]
      cases hs : serviceOf c with
      | none => simpa using ih
      | some p =>
          obtain ⟨composeId', srvn'⟩ := p
          by_cases hid : composeId' = composeId
          · subst hid
            by_cases hsrv : srvn' = srvn
            · simp [hsrv]
            · simp [Dict.get?_set_of_ne _ hsrv, hsrv, ih]
          · simp [Dict.get?_set_of_ne _ hid, hid, ih]

theorem name_ne_empty (c : ContainerInspectResult) : c.name ≠ "" := by
  intro h
  have hblank := c.name_nonblank
  rw [h] at hblank
  exact absurd hblank (by decide)

theorem mem_composeDependencies_iff {containers : List ContainerInspectResult}
    {c : ContainerInspectResult} {b : String} :
    b ∈ composeDependencies (composeServiceNames containers) c ↔
      ∃ srvn ∈ getDependencies c dockerComposeDependsOnLabel, ∃ composeId,
        getComposeId c = some composeId ∧
          ∃ c', lastRunning containers composeId srvn = some c' ∧ c'.name = b := by
  unfold composeDependencies
  cases hid : getComposeId c with
  | none => simp
  | some composeId =>
      simp only [Finset.mem_biUnion, composeServiceNames_get?, Option.some.injEq,
        exists_eq_left']
      refine exists_congr fun srvn => and_congr_right fun _ => ?_
      cases lastRunning containers composeId srvn with
      | none => simp
      | some c' => simp [name_ne_empty c', eq_comm]

theorem mem_dependsOnMap_iff {containers : List ContainerInspectResult} {a b : String} :
    b ∈ ((dependsOnMap containers).get? a).getD ∅ ↔ DependsOn containers a b := by
  unfold dependsOnMap DependsOn
  rw [Dict.get?_foldl_set]
  change b ∈ (((lastNamed containers a).map _).or _).getD ∅ ↔ _
  cases lastNamed containers a with
  | none => simp
  | some c => simp [mem_composeDependencies_iff]

theorem nodup_keys_dependsOnMap (containers : List ContainerInspectResult) :
    ((dependsOnMap containers).map Prod.fst).Nodup :=
  Dict.nodup_keys_foldl_set _ _ _ List.nodup_nil

theorem mem_foldl_insert_iff (n x d : String) (l : List String)
    (m : Dict String (Finset String)) :
    x ∈ (((l.foldl (fun m dep => m.set dep (insert n ((m.get? dep).getD ∅))) m).get?
        d).getD ∅) ↔
      (x = n ∧ d ∈ l) ∨ x ∈ (m.get? d).getD ∅ := by
  induction l generalizing m with
  | nil => simp
  | cons dep l ih =>
      rw [List.foldl_cons, ih, Dict.get?_set, List.mem_cons]
      by_cases hd : dep = d
      · subst hd
        simp only [if_true, Option.getD_some, Finset.mem_insert, true_or, and_true]
        tauto
      · simp only [if_neg hd, Ne.symm hd, false_or]

theorem mem_addDependable_iff (ord : SetOrder PlanSite String)
    (m : Dict String (Finset String)) (item : String × Finset String) (x d : String) :
    x ∈ ((addDependable ord m item).get? d).getD ∅ ↔
      (x = item.1 ∧ d ∈ item.2) ∨ x ∈ (m.get? d).getD ∅ := by
  unfold addDependable
  rw [mem_foldl_insert_iff, ord.mem_iff]

theorem mem_dependablesMap_iff (ord : SetOrder PlanSite String)
    (dependsOn : Dict String (Finset String)) (x d : String) :
    x ∈ ((dependablesMap ord dependsOn).get? d).getD ∅ ↔
      ∃ deps, (x, deps) ∈ dependsOn ∧ d ∈ deps := by
  unfold dependablesMap
  induction dependsOn using List.reverseRecOn with
  | nil => simp
  | append_singleton l item ih =>
      rw [List.foldl_append, List.foldl_cons, List.foldl_nil, mem_addDependable_iff, ih]
      simp only [List.mem_append, List.mem_singleton]
      constructor
      · rintro (⟨rfl, hd⟩ | ⟨deps, hmem, hd⟩)
        · exact ⟨item.2, .inr rfl, hd⟩
        · exact ⟨deps, .inl hmem, hd⟩
      · rintro ⟨deps, hmem | rfl, hd⟩
        · exact .inr ⟨deps, hmem, hd⟩
        · exact .inl ⟨rfl, hd⟩

end Tugtainer
