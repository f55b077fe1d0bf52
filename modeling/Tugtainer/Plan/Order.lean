import Tugtainer.Plan.Termination

/-!
# The order of a plan

The depth-first sort puts every container after all that it depends on, directly
or not, as long as the dependencies are acyclic. Dropping names from the sorted
list keeps the others in place, so the order of a plan respects the dependencies
among all eligible containers.
-/

namespace Tugtainer

open Python

/-- Of the eligible containers, `a` depends on `b` directly or through others. -/
def DependsOnEligible (env : PlanEnv) (containers : List ContainerInspectResult)
    (a b : String) : Prop :=
  Relation.TransGen (DependsOn (containers.filter (isEligible env))) a b

/-- No eligible container depends on itself, directly or through others. -/
def AcyclicDependencies (env : PlanEnv) (containers : List ContainerInspectResult) : Prop :=
  ∀ a, ¬ DependsOnEligible env containers a a

/-- The map lists `b` among the dependencies of `a`. -/
def ListsDependency (dependsOn : Dict String (Finset String)) (a b : String) : Prop :=
  b ∈ (dependsOn.get? a).getD ∅

theorem edge_dependencies_eq (ord : SetOrder PlanSite String)
    (dependsOn : Dict String (Finset String)) :
    PostOrder.Edge (dependencies ord dependsOn) = ListsDependency dependsOn := by
  funext a b
  exact propext (ord.mem_iff _ _ _)

theorem listsDependency_dependsOnMap (containers : List ContainerInspectResult) :
    ListsDependency (dependsOnMap containers) = DependsOn containers := by
  funext x y
  exact propext mem_dependsOnMap_iff

theorem edge_dependencies (ord : SetOrder PlanSite String)
    (containers : List ContainerInspectResult) :
    PostOrder.Edge (dependencies ord (dependsOnMap containers)) = DependsOn containers := by
  rw [edge_dependencies_eq, listsDependency_dependsOnMap]

section

variable {ord : SetOrder PlanSite String} {env : PlanEnv} {host : HostsModel}
  {containers manualFor : List ContainerInspectResult} {fuel : ℕ} {plan : UpdatePlan}

theorem mem_order_of_has (h : buildUpdatePlan ord env host containers manualFor fuel = some plan)
    {name : String} (hname : name ∈ plan.toUpdate ∨ name ∈ plan.affected) :
    name ∈ plan.order := by
  obtain ⟨affected, -, order, horder, rfl⟩ := buildUpdatePlan_eq_some_iff.1 h
  obtain ⟨s, hs, hsame⟩ := exists_of_topologicalOrder horder
  simp only [filterExisting, Finset.mem_inter] at hname
  have hroot : name ∈ affected.1 ∪ selectToUpdate env (containersDb env host)
      (containers.filter (isEligible env)) (manualFor.filter (isEligible env)) := by
    rw [Finset.mem_union]
    tauto
  refine List.mem_filter.2 ⟨hsame ▸ PostOrder.mem_order_of_mem_roots hs
    ((ord.mem_iff _ _ _).2 hroot), ?_⟩
  rw [decide_eq_true_eq]
  tauto

theorem order_of_dependsOn (h : buildUpdatePlan ord env host containers manualFor fuel = some plan)
    (hacyc : AcyclicDependencies env containers) {a b : String}
    (hab : DependsOnEligible env containers a b) (hb : b ∈ plan.order) {pre post : List String}
    (heq : plan.order = pre ++ a :: post) : b ∈ pre := by
  obtain ⟨affected, -, order, horder, rfl⟩ := buildUpdatePlan_eq_some_iff.1 h
  obtain ⟨s, hs, hsame⟩ := exists_of_topologicalOrder horder
  have hsorted : PostOrder.Sorted _ order.1 :=
    hsame ▸ PostOrder.visitAll_sorted hs fun x _ y _ => by
      rw [edge_dependencies]
      exact hacyc y
  refine hsorted.mem_of_filter_eq ?_ (List.mem_filter.1 hb).2 heq
  rw [edge_dependencies]
  exact hab

end

/-! ## Any map of dependencies -/

/-- No cycle can be reached from these names. -/
def AcyclicFrom (dependsOn : Dict String (Finset String)) (names : Finset String) : Prop :=
  ∀ name ∈ names, ∀ a, Relation.ReflTransGen (ListsDependency dependsOn) name a →
    ¬ Relation.TransGen (ListsDependency dependsOn) a a

section

variable {ord : SetOrder PlanSite String} {dependsOn : Dict String (Finset String)}
  {allNames toUpdate : Finset String}
  {affected : {affected : Finset String // Disjoint toUpdate affected}}
  {order : {order : List String // order.Nodup}}

theorem mem_of_topologicalOrder
    (h : topologicalOrder ord dependsOn (affected.1 ∪ toUpdate) = some order) {name : String}
    (hname : name ∈ (toUpdate ∪ affected.1) ∩ allNames) :
    name ∈ (filterExisting allNames toUpdate affected order).order := by
  obtain ⟨s, hs, hsame⟩ := exists_of_topologicalOrder h
  obtain ⟨hroot, hall⟩ := Finset.mem_inter.1 hname
  rw [Finset.union_comm] at hroot
  exact List.mem_filter.2 ⟨hsame ▸ PostOrder.mem_order_of_mem_roots hs
    ((ord.mem_iff _ _ _).2 hroot), decide_eq_true hall⟩

theorem sorted_of_topologicalOrder
    (h : topologicalOrder ord dependsOn (affected.1 ∪ toUpdate) = some order)
    (hacyclic : AcyclicFrom dependsOn (toUpdate ∪ affected.1)) {pre post : List String}
    {a b : String}
    (heq : (filterExisting allNames toUpdate affected order).order = pre ++ a :: post)
    (hb : b ∈ allNames) (hab : Relation.TransGen (ListsDependency dependsOn) a b) :
    b ∈ pre := by
  obtain ⟨s, hs, hsame⟩ := exists_of_topologicalOrder h
  have hsorted : PostOrder.Sorted _ order.1 :=
    hsame ▸ PostOrder.visitAll_sorted hs fun x hx y hy => by
      rw [edge_dependencies_eq] at hy ⊢
      refine hacyclic x ?_ y hy
      rw [Finset.union_comm]
      exact (ord.mem_iff _ _ _).1 hx
  refine hsorted.mem_of_filter_eq ?_ (by simpa using hb) heq
  rw [edge_dependencies_eq]
  exact hab

end

/-- Whatever the map of dependencies and the two sets are, the sort ends. The plan has what is
left of the sets, and its order has each of these names once and no name of a container that is
not there. Where no cycle is reached, each container stands after all that it depends on. -/
theorem order_of_topologicalOrder (ord : SetOrder PlanSite String)
    (dependsOn : Dict String (Finset String)) (allNames toUpdate : Finset String)
    (affected : {affected : Finset String // Disjoint toUpdate affected}) :
    ∃ order, topologicalOrder ord dependsOn (affected.1 ∪ toUpdate) = some order ∧
      ∃ plan, filterExisting allNames toUpdate affected order = plan ∧
        plan.toUpdate = toUpdate ∩ allNames ∧ plan.affected = affected.1 ∩ allNames ∧
        plan.order.Nodup ∧ (∀ name ∈ plan.order, name ∈ allNames) ∧
        (∀ name ∈ (toUpdate ∪ affected.1) ∩ allNames, name ∈ plan.order) ∧
        (AcyclicFrom dependsOn (toUpdate ∪ affected.1) →
          ∀ pre a post, plan.order = pre ++ a :: post → ∀ b ∈ allNames,
            Relation.TransGen (ListsDependency dependsOn) a b → b ∈ pre) := by
  obtain ⟨order, horder⟩ := exists_topologicalOrder ord dependsOn (affected.1 ∪ toUpdate)
  refine ⟨order, horder, _, rfl, rfl, rfl, order.2.filter _, fun name hname => ?_,
    fun name hname => mem_of_topologicalOrder horder hname,
    fun hacyclic pre a post heq b hb hab => sorted_of_topologicalOrder horder hacyclic heq hb hab⟩
  simpa using (List.mem_filter.1 hname).2

end Tugtainer
