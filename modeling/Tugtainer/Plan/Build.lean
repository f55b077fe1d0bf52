import Tugtainer.Graph.PostOrder
import Tugtainer.Graph.Worklist
import Tugtainer.Plan.Dependencies
import Tugtainer.Database.Models

/-!
# Building an update plan

`buildUpdatePlan` selects the containers to update, searches breadth first for
the containers that depend on them, and sorts both topologically. The search is
a `Worklist.run` whose kept nodes are the ones to update, so it takes a bound on
its turns and returns no plan when the bound is too small; the sort is a
`PostOrder.visitAll`, which never needs more depth than there are names.

An `UpdatePlan` carries what the executor relies on: no name stands in the order
twice, and no container is both updated and affected.
-/

namespace Tugtainer

open Python

/-- What the planner reads besides its arguments: two settings, the clock and
the containers table. -/
structure PlanEnv where
  updateOnlyRunning : Bool
  delayUpdateFor : Int
  now : Int
  rows : List ContainersModel
  deriving DecidableEq, Repr

/-- What to update, what it affects, and the order to go through both. -/
structure UpdatePlan where
  toUpdate : Finset String
  affected : Finset String
  order : List String
  order_nodup : order.Nodup
  disjoint : Disjoint toUpdate affected
  deriving DecidableEq

/-- The rows of the host by container name. -/
def containersDb (env : PlanEnv) (host : HostsModel) : Dict String ContainersModel :=
  (env.rows.filter fun row => row.hostId = host.id).foldl
    (fun db row => db.set row.name row) []

/-- Potentially updatable or affected. -/
def isEligible (env : PlanEnv) (c : ContainerInspectResult) : Bool :=
  !isProtectedContainer c && (isRunningContainer c || !env.updateOnlyRunning)

/-- A manual run takes every container with an available update. -/
def isManualUpdate (db : Dict String ContainersModel) (c : ContainerInspectResult) :
    Bool :=
  match db.get? c.name with
  | none => false
  | some row => row.updateAvailable

/-- The security buffer: the digests changed less than the delay ago. -/
def isDelayed (env : PlanEnv) (row : ContainersModel) : Bool :=
  let effectiveDelay := row.delayUpdateFor.getD env.delayUpdateFor
  match row.remoteDigestsChangedAt with
  | none => false
  | some changedAt => 0 < effectiveDelay && env.now - changedAt < effectiveDelay * 1000000

/-- A scheduled run takes the enabled containers whose update is not delayed. -/
def isScheduledUpdate (env : PlanEnv) (db : Dict String ContainersModel)
    (c : ContainerInspectResult) : Bool :=
  match db.get? c.name with
  | none => false
  | some row => row.updateAvailable && row.updateEnabled && !isDelayed env row

/-- The names selected for update. Both lists are the filtered ones: a manual
run is one for which an eligible container is left. -/
def selectToUpdate (env : PlanEnv) (db : Dict String ContainersModel)
    (containers manualFor : List ContainerInspectResult) : Finset String :=
  match manualFor with
  | [] => ((containers.filter (isScheduledUpdate env db)).map
      ContainerInspectResult.name).toFinset
  | manualFor => ((manualFor.filter (isManualUpdate db)).map
      ContainerInspectResult.name).toFinset

def graphNames (dependsOn : Dict String (Finset String)) : Finset String :=
  dependsOn.foldr (fun item names => insert item.1 (item.2 ∪ names)) ∅

/-- The region *Affected*: the nodes that the breadth-first search collects. -/
def searchAffected (ord : SetOrder PlanSite String)
    (dependsOn : Dict String (Finset String)) (toUpdate : Finset String) (fuel : ℕ) :
    Option {affected : Finset String // Disjoint toUpdate affected} :=
  match h : Worklist.run (dependables ord (dependablesMap ord dependsOn)) toUpdate fuel
      ⟨ord.iter .queue toUpdate, ∅⟩ with
  | none => none
  | some affected => some ⟨affected, Worklist.run_disjoint (by simp) h⟩

/-- The region *Topological sort*: the depth-first post-order of the involved
containers. -/
def topologicalOrder (ord : SetOrder PlanSite String)
    (dependsOn : Dict String (Finset String)) (involved : Finset String) :
    Option {order : List String // order.Nodup} :=
  match h : PostOrder.visitAll (dependencies ord dependsOn)
      ((graphNames dependsOn ∪ involved).card + 1) (ord.iter .involved involved) with
  | none => none
  | some s => some ⟨s.order, PostOrder.visitAll_nodup h⟩

theorem exists_of_topologicalOrder {ord : SetOrder PlanSite String}
    {dependsOn : Dict String (Finset String)} {involved : Finset String}
    {order : {order : List String // order.Nodup}}
    (h : topologicalOrder ord dependsOn involved = some order) :
    ∃ s, PostOrder.visitAll (dependencies ord dependsOn)
        ((graphNames dependsOn ∪ involved).card + 1) (ord.iter .involved involved) = some s ∧
      order.1 = s.order := by
  unfold topologicalOrder at h
  split at h
  · cases h
  · rename_i s hs
    cases h
    exact ⟨s, hs, rfl⟩

/-- Only the names of existing containers are left in the plan. -/
def filterExisting (allNames toUpdate : Finset String)
    (affected : {affected : Finset String // Disjoint toUpdate affected})
    (order : {order : List String // order.Nodup}) : UpdatePlan where
  toUpdate := toUpdate ∩ allNames
  affected := affected.1 ∩ allNames
  order := order.1.filter (· ∈ allNames)
  order_nodup := order.2.filter _
  disjoint := affected.2.mono Finset.inter_subset_left Finset.inter_subset_left

/-- What the planner does once it has the eligible containers and those to update. -/
def planFor (ord : SetOrder PlanSite String) (containers : List ContainerInspectResult)
    (toUpdate : Finset String) (fuel : ℕ) : Option UpdatePlan :=
  let dependsOn := dependsOnMap containers
  (searchAffected ord dependsOn toUpdate fuel).bind fun affected =>
    (topologicalOrder ord dependsOn (affected.1 ∪ toUpdate)).map fun order =>
      filterExisting (containers.map ContainerInspectResult.name).toFinset toUpdate affected order

/-- The update plan of a host, as long as the search ends within `fuel`
turns. -/
def buildUpdatePlan (ord : SetOrder PlanSite String) (env : PlanEnv) (host : HostsModel)
    (containers manualFor : List ContainerInspectResult) (fuel : ℕ) : Option UpdatePlan :=
  let db := containersDb env host
  let containers := containers.filter (isEligible env)
  let manualFor := manualFor.filter (isEligible env)
  planFor ord containers (selectToUpdate env db containers manualFor) fuel

/-- The parts of a plan: what the search has collected and the sort has put in order. -/
theorem planFor_eq_some_iff {ord : SetOrder PlanSite String}
    {containers : List ContainerInspectResult} {toUpdate : Finset String} {fuel : ℕ}
    {plan : UpdatePlan} :
    planFor ord containers toUpdate fuel = some plan ↔
      ∃ affected, searchAffected ord (dependsOnMap containers) toUpdate fuel = some affected ∧
        ∃ order, topologicalOrder ord (dependsOnMap containers) (affected.1 ∪ toUpdate) =
            some order ∧
          filterExisting (containers.map ContainerInspectResult.name).toFinset toUpdate affected
            order = plan := by
  simp only [planFor, Option.bind_eq_some_iff, Option.map_eq_some_iff]

theorem buildUpdatePlan_eq_some_iff {ord : SetOrder PlanSite String} {env : PlanEnv}
    {host : HostsModel} {containers manualFor : List ContainerInspectResult} {fuel : ℕ}
    {plan : UpdatePlan} :
    buildUpdatePlan ord env host containers manualFor fuel = some plan ↔
      ∃ affected, searchAffected ord (dependsOnMap (containers.filter (isEligible env)))
          (selectToUpdate env (containersDb env host) (containers.filter (isEligible env))
            (manualFor.filter (isEligible env))) fuel = some affected ∧
        ∃ order, topologicalOrder ord (dependsOnMap (containers.filter (isEligible env)))
            (affected.1 ∪ selectToUpdate env (containersDb env host)
              (containers.filter (isEligible env)) (manualFor.filter (isEligible env))) =
            some order ∧
          filterExisting ((containers.filter (isEligible env)).map
            ContainerInspectResult.name).toFinset _ affected order = plan :=
  planFor_eq_some_iff

end Tugtainer
