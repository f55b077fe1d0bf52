import Tugtainer.Plan.Termination

/-!
# What an update affects

The breadth-first search collects the containers that depend on a container to update,
directly or through others. `mem_affected_iff` says that these are all that a plan calls
affected, whatever the dependency graph is, as long as the search ends.
-/

namespace Tugtainer

open Python

section

variable {ord : SetOrder PlanSite String} {containers : List ContainerInspectResult}
  {toUpdate : Finset String} {fuel : ℕ} {plan : UpdatePlan}

theorem edge_dependables (ord : SetOrder PlanSite String)
    (containers : List ContainerInspectResult) :
    Worklist.Edge (dependables ord (dependablesMap ord (dependsOnMap containers))) =
      Function.swap (DependsOn containers) := by
  funext a b
  exact propext (mem_dependables_iff ord)

theorem mem_searchAffected_iff {affected : {affected : Finset String // Disjoint toUpdate affected}}
    (h : searchAffected ord (dependsOnMap containers) toUpdate fuel = some affected)
    {name : String} :
    name ∈ affected.1 ↔ name ∉ toUpdate ∧
      ∃ updated ∈ toUpdate, Relation.TransGen (DependsOn containers) name updated := by
  unfold searchAffected at h
  split at h
  · cases h
  · rename_i settled hrun
    cases h
    rw [Worklist.mem_run_iff (fun x => ord.mem_iff _ _ _) hrun, edge_dependables]
    simp only [Relation.transGen_swap]

theorem DependsOn.exists_container {a b : String} (h : DependsOn containers a b) :
    ∃ c ∈ containers, c.name = a := by
  obtain ⟨c, hc, -⟩ := h
  have hfind := List.find?_some hc
  exact ⟨c, List.mem_reverse.1 (List.mem_of_find?_eq_some hc), by simpa using hfind⟩

theorem mem_affected_of_planFor (h : planFor ord containers toUpdate fuel = some plan)
    {name : String} :
    name ∈ plan.affected ↔ (∃ c ∈ containers, c.name = name) ∧ name ∉ toUpdate ∧
      ∃ updated ∈ toUpdate, Relation.TransGen (DependsOn containers) name updated := by
  obtain ⟨affected, haffected, order, -, rfl⟩ := planFor_eq_some_iff.1 h
  simp only [filterExisting, Finset.mem_inter, List.mem_toFinset, List.mem_map,
    mem_searchAffected_iff haffected]
  exact and_comm

/-- A plan affects exactly the containers outside `toUpdate` that depend on one of it,
directly or through others. -/
theorem mem_affected_iff (h : planFor ord containers toUpdate fuel = some plan)
    (hsub : ∀ name ∈ toUpdate, ∃ c ∈ containers, c.name = name) :
    plan.toUpdate = toUpdate ∧ Disjoint plan.toUpdate plan.affected ∧
      ∀ name, name ∈ plan.affected ↔ (∃ c ∈ containers, c.name = name) ∧ name ∉ toUpdate ∧
        ∃ updated ∈ toUpdate, Relation.TransGen (DependsOn containers) name updated := by
  refine ⟨?_, plan.disjoint, fun name => mem_affected_of_planFor h⟩
  obtain ⟨affected, -, order, -, rfl⟩ := planFor_eq_some_iff.1 h
  refine Finset.inter_eq_left.2 fun name hname => ?_
  simpa using hsub name hname

end

/-! ## An example -/

def labeledContainer (name : String) (h : isBlank name = false) (labels : Dict String String) :
    ContainerInspectResult where
  name := name
  state := some { status := some "running" }
  config := some { image := some (name ++ ":latest"), labels := some labels }
  name_nonblank := h

/-- A database, a service on top of it, and a website on top of the service. -/
def chainedContainers : List ContainerInspectResult :=
  [labeledContainer "web" isBlank_web [(tugtainerDependsOnLabel, "api")],
    labeledContainer "api" (by decide) [(tugtainerDependsOnLabel, "postgres")],
    labeledContainer "postgres" (by decide) []]

/-- An update of the database affects the website. -/
theorem mem_affected_web :
    ∃ plan, planFor (.ascending PlanSite) chainedContainers {"postgres"} 10 = some plan ∧
      Disjoint plan.toUpdate plan.affected ∧ ("web" ∈ plan.affected ↔
        (∃ c ∈ chainedContainers, c.name = "web") ∧ "web" ∉ ({"postgres"} : Finset String) ∧
          ∃ updated ∈ ({"postgres"} : Finset String),
            Relation.TransGen (DependsOn chainedContainers) "web" updated) := by
  obtain ⟨plan, h⟩ : ∃ plan, planFor (.ascending PlanSite) chainedContainers {"postgres"} 10 =
      some plan := Option.isSome_iff_exists.1 (by decide)
  obtain ⟨-, hdisjoint, hmem⟩ := mem_affected_iff h (by decide)
  exact ⟨plan, h, hdisjoint, hmem "web"⟩

end Tugtainer
