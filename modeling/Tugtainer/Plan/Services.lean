import Tugtainer.Plan.Affected
import Tugtainer.Plan.Order

/-!
# Dependencies between compose services

A compose label names services, and the planner resolves a service to one container: the
last one of the list that runs it. Where several containers run one service, the others are
left out of the graph. `keepsDependency_iff` says which dependencies on a service are kept, and
with them their consequences for what is affected and in which order.
-/

namespace Tugtainer

open Python

/-- `labels.get(label, "")`. -/
def labelText (c : ContainerInspectResult) (label : String) : String :=
  ((containerLabels c).get? label).getD ""

/-- The compose label of `a` names the service that `b` runs in the same project. -/
structure DependsOnService (a b : ContainerInspectResult) : Prop where
  service : ∃ srvn ∈ getDependencies a dockerComposeDependsOnLabel, getServiceName b = some srvn
  project : labelText b dockerComposeProjectLabel = labelText a dockerComposeProjectLabel
  configFiles :
    labelText b dockerComposeConfigFilesLabel = labelText a dockerComposeConfigFilesLabel

/-- The planner knows that `a` depends on `b`: `b` is in the dependencies of `a`, an update of
`b` affects `a`, and `b` stands before `a` as long as the dependencies are acyclic. -/
structure KeepsDependency (containers : List ContainerInspectResult)
    (a b : ContainerInspectResult) : Prop where
  mem : b.name ∈ ((dependsOnMap containers).get? a.name).getD ∅
  affected : ∀ ord toUpdate fuel plan, planFor ord containers toUpdate fuel = some plan →
    (∀ name ∈ toUpdate, ∃ c ∈ containers, c.name = name) →
    b.name ∈ toUpdate → a.name ∉ toUpdate → a.name ∈ plan.affected
  order : ∀ ord toUpdate fuel plan, planFor ord containers toUpdate fuel = some plan →
    (∀ x, ¬ Relation.TransGen (DependsOn containers) x x) →
    ∀ pre post, plan.order = pre ++ a.name :: post → b.name ∈ pre

/-- No container after `b` runs the same service of the same project. -/
def LastOfService (containers : List ContainerInspectResult) (b : ContainerInspectResult) :
    Prop :=
  ∀ pre post, containers = pre ++ b :: post → ∀ c ∈ post, serviceOf c ≠ serviceOf b

section

variable {containers : List ContainerInspectResult} {a b : ContainerInspectResult}

theorem DependsOnService.composeId_eq (h : DependsOnService a b) :
    getComposeId b = getComposeId a := by
  have hproject := h.project
  have hfiles := h.configFiles
  unfold labelText at hproject hfiles
  unfold getComposeId
  rw [hproject, hfiles]

theorem ne_empty_of_mem_getDependencies {label name : String}
    (h : name ∈ getDependencies a label) : name ≠ "" := by
  unfold getDependencies at h
  dsimp only at h
  split at h
  · simp at h
  · simp only [List.mem_toFinset, List.mem_filter, decide_eq_true_eq] at h
    exact h.2

theorem serviceOf_eq_some_iff {composeId srvn : String} :
    serviceOf b = some (composeId, srvn) ↔
      getServiceName b = some srvn ∧ srvn ≠ "" ∧ getComposeId b = some composeId := by
  unfold serviceOf
  split
  · rename_i srvn' composeId' hsrvn hid
    rw [hsrvn, hid]
    split
    · simp_all
    · simp only [Option.some.injEq, Prod.mk.injEq]
      constructor
      · rintro ⟨rfl, rfl⟩
        exact ⟨rfl, ‹_›, rfl⟩
      · rintro ⟨rfl, -, rfl⟩
        exact ⟨rfl, rfl⟩
  · rename_i hnone
    refine iff_of_false (by simp) ?_
    rintro ⟨hsrvn, -, hid⟩
    exact hnone _ _ hsrvn hid

theorem lastNamed_of_nodup (hnodup : (containers.map ContainerInspectResult.name).Nodup)
    (ha : a ∈ containers) : lastNamed containers a.name = some a := by
  unfold lastNamed
  cases hfind : containers.reverse.find? fun c => c.name = a.name with
  | none =>
      have hnone := List.find?_eq_none.1 hfind a (List.mem_reverse.2 ha)
      simp at hnone
  | some c =>
      have hc := List.mem_reverse.1 (List.mem_of_find?_eq_some hfind)
      have hname : c.name = a.name := by simpa using List.find?_some hfind
      rw [List.inj_on_of_nodup_map hnodup hc ha hname]

/-- A service is resolved to a container after `b` that runs it, or else to `b`. -/
theorem lastRunning_append {pre post : List ContainerInspectResult} {composeId srvn : String}
    (hservice : serviceOf b = some (composeId, srvn)) :
    lastRunning (pre ++ b :: post) composeId srvn =
      (post.reverse.find? fun c => serviceOf c = serviceOf b).or (some b) := by
  simp only [lastRunning, ← hservice, List.reverse_append, List.reverse_cons, List.append_assoc,
    List.find?_append, List.singleton_append, List.find?_cons, decide_true]

/-- The container that stands for the service of `b` is `b`, unless one after it runs it too. -/
theorem lastRunning_eq_some_iff (hnodup : (containers.map ContainerInspectResult.name).Nodup)
    (hb : b ∈ containers) {composeId srvn : String}
    (hservice : serviceOf b = some (composeId, srvn)) :
    (∃ c, lastRunning containers composeId srvn = some c ∧ c.name = b.name) ↔
      LastOfService containers b := by
  constructor
  · rintro ⟨c, hc, hname⟩ pre post rfl c' hc' heq
    rw [lastRunning_append hservice] at hc
    obtain ⟨c'', hfind⟩ : ∃ c'', post.reverse.find? (fun c => serviceOf c = serviceOf b) =
        some c'' :=
      Option.isSome_iff_exists.1
        (List.find?_isSome.2 ⟨c', List.mem_reverse.2 hc', by simpa using heq⟩)
    rw [hfind, Option.some_or] at hc
    cases hc
    have hpost := List.mem_reverse.1 (List.mem_of_find?_eq_some hfind)
    rw [List.map_append, List.map_cons] at hnodup
    have hnotMem := (List.nodup_cons.1 (List.nodup_append.1 hnodup).2.1).1
    exact hnotMem (hname ▸ List.mem_map_of_mem hpost)
  · intro hlast
    obtain ⟨pre, post, rfl⟩ := List.append_of_mem hb
    refine ⟨b, ?_, rfl⟩
    have hnone : post.reverse.find? (fun c => serviceOf c = serviceOf b) = none :=
      List.find?_eq_none.2 fun c hc => by
        simpa using hlast pre post rfl c (List.mem_reverse.1 hc)
    rw [lastRunning_append hservice, hnone, Option.none_or]

/-- The dependency on a service is in the graph for the last container that runs it. -/
theorem dependsOn_service_iff (hnodup : (containers.map ContainerInspectResult.name).Nodup)
    (ha : a ∈ containers) (hb : b ∈ containers) (h : DependsOnService a b) :
    DependsOn containers a.name b.name ↔
      b.name ∈ getDependencies a tugtainerDependsOnLabel ∨
        getComposeId a ≠ none ∧ LastOfService containers b := by
  unfold DependsOn
  simp only [lastNamed_of_nodup hnodup ha, Option.some.injEq, exists_eq_left']
  refine or_congr_right ⟨?_, ?_⟩
  · rintro ⟨srvn, -, composeId, hid, c, hc, hname⟩
    have hservice := List.find?_some hc
    have hcmem := List.mem_reverse.1 (List.mem_of_find?_eq_some hc)
    obtain rfl := List.inj_on_of_nodup_map hnodup hcmem hb hname
    refine ⟨by simp [hid], ?_⟩
    exact (lastRunning_eq_some_iff hnodup hb (by simpa using hservice)).1 ⟨c, hc, rfl⟩
  · rintro ⟨hid, hlast⟩
    obtain ⟨composeId, hid⟩ := Option.ne_none_iff_exists'.1 hid
    obtain ⟨srvn, hsrvn, hname⟩ := h.service
    have hservice : serviceOf b = some (composeId, srvn) := serviceOf_eq_some_iff.2
      ⟨hname, ne_empty_of_mem_getDependencies hsrvn, h.composeId_eq.trans hid⟩
    exact ⟨srvn, hsrvn, composeId, hid, (lastRunning_eq_some_iff hnodup hb hservice).2 hlast⟩

theorem KeepsDependency.of_dependsOn (hb : b ∈ containers)
    (h : DependsOn containers a.name b.name) : KeepsDependency containers a b where
  mem := mem_dependsOnMap_iff.2 h
  affected ord toUpdate fuel plan hplan _ hupdated ha :=
    (mem_affected_of_planFor hplan).2
      ⟨h.exists_container, ha, b.name, hupdated, .single h⟩
  order ord toUpdate fuel plan hplan hacyclic pre post heq := by
    obtain ⟨affected, -, order, horder, rfl⟩ := planFor_eq_some_iff.1 hplan
    rw [← listsDependency_dependsOnMap] at hacyclic
    refine sorted_of_topologicalOrder horder (fun _ _ x _ => hacyclic x) heq ?_ ?_
    · exact List.mem_toFinset.2 (List.mem_map_of_mem hb)
    · rw [listsDependency_dependsOnMap]
      exact .single h

/-- A dependency on a service is kept exactly if the label of `a` has `b` itself, or if `a`
belongs to a compose project and no container after `b` runs the service too. -/
theorem keepsDependency_iff (hnodup : (containers.map ContainerInspectResult.name).Nodup)
    (ha : a ∈ containers) (hb : b ∈ containers) (h : DependsOnService a b) :
    KeepsDependency containers a b ↔
      b.name ∈ getDependencies a tugtainerDependsOnLabel ∨
        getComposeId a ≠ none ∧ LastOfService containers b := by
  rw [← dependsOn_service_iff hnodup ha hb h]
  exact ⟨fun hkeeps => mem_dependsOnMap_iff.1 hkeeps.mem, .of_dependsOn hb⟩

end

/-! ## A service with two containers -/

def shopLabels (service dependsOn : String) : Dict String String :=
  [(dockerComposeProjectLabel, "shop"), (dockerComposeConfigFilesLabel, "/srv/compose.yml"),
    (dockerComposeServiceLabel, service), (dockerComposeDependsOnLabel, dependsOn)]

def shopWeb : ContainerInspectResult :=
  labeledContainer "shop-web-1" (by decide) (shopLabels "web" "db:service_started:true")

def shopDb1 : ContainerInspectResult :=
  labeledContainer "shop-db-1" (by decide) (shopLabels "db" "")

def shopDb2 : ContainerInspectResult :=
  labeledContainer "shop-db-2" (by decide) (shopLabels "db" "")

theorem shopWeb_dependsOnService_db1 : DependsOnService shopWeb shopDb1 where
  service := ⟨"db", by decide, by decide⟩
  project := by decide
  configFiles := by decide

theorem keepsDependency_iff_shop :
    KeepsDependency [shopWeb, shopDb1] shopWeb shopDb1 ↔
      shopDb1.name ∈ getDependencies shopWeb tugtainerDependsOnLabel ∨
        getComposeId shopWeb ≠ none ∧ LastOfService [shopWeb, shopDb1] shopDb1 :=
  keepsDependency_iff (by decide) (by decide) (by decide) shopWeb_dependsOnService_db1

/-- The dependency on the first of two containers of a service is lost. -/
theorem scaled_service_loses_dependency :
    ¬ ∀ (containers : List ContainerInspectResult) (a b : ContainerInspectResult),
      (containers.map ContainerInspectResult.name).Nodup → a ∈ containers → b ∈ containers →
        DependsOnService a b → KeepsDependency containers a b := by
  intro hclaim
  have hkeeps := hclaim [shopWeb, shopDb1, shopDb2] shopWeb shopDb1 (by decide) (by decide)
    (by decide) shopWeb_dependsOnService_db1
  exact absurd hkeeps.mem (by decide)

end Tugtainer
