import Mathlib.Data.List.Basic
import Tugtainer.Python.Dict

/-!
# The tables

The rows of the tables of hosts and containers, with the columns that the backend
reads or writes, and `ContainerInsertOrUpdateData`, the columns that one statement
sets. A row is changed column by column: only the columns that differ from what
the session has loaded are written (`ContainerData.changes`).
-/

namespace Tugtainer

inductive HookName where
  | preUpdate | postUpdate | preStop | preRollback | postRollback
  deriving DecidableEq, Repr

/-- `ContainerHooks`: the commands to run at the points of the update
lifecycle. -/
structure ContainerHooks where
  preUpdate : List String := []
  postUpdate : List String := []
  preStop : List String := []
  preRollback : List String := []
  postRollback : List String := []
  deriving DecidableEq, Repr

/-- `getattr(hooks, hook_name.value)`. -/
def ContainerHooks.commands (hooks : ContainerHooks) : HookName → List String
  | .preUpdate => hooks.preUpdate
  | .postUpdate => hooks.postUpdate
  | .preStop => hooks.preStop
  | .preRollback => hooks.preRollback
  | .postRollback => hooks.postRollback

/-- `ContainerHooks.model_dump(exclude_unset=True)`: the lists that a request has given, and so
what the column has. A key that is not given is missing from the dictionary, and two
dictionaries with other keys differ, even if what is missing is an empty list. -/
structure HooksDict where
  preUpdate : Option (List String) := none
  postUpdate : Option (List String) := none
  preStop : Option (List String) := none
  preRollback : Option (List String) := none
  postRollback : Option (List String) := none
  deriving DecidableEq, Repr

/-- A row of the containers table. Times are in microseconds. -/
structure ContainersModel where
  hostId : Int
  name : String
  checkEnabled : Bool := false
  updateEnabled : Bool := false
  updateAvailable : Bool := false
  checkedAt : Option Int := none
  updatedAt : Option Int := none
  remoteDigestsChangedAt : Option Int := none
  delayUpdateFor : Option Int := none
  imageId : Option String := none
  localDigests : Option (List String) := none
  remoteDigests : Option (List String) := none
  hooks : Option HooksDict := none
  deriving DecidableEq, Repr

/-- A row of the hosts table, with the columns that are read. -/
structure HostsModel where
  id : Int
  name : String
  enabled : Bool := true
  prune : Bool := false
  pruneAll : Bool := false
  containerHcTimeout : Int := 60
  deriving DecidableEq, Repr

/-- `ContainerInsertOrUpdateData`: the columns to set. Two of them may be set to
`None` by a request, which the table does not take. -/
structure ContainerData where
  checkEnabled : Option (Option Bool) := none
  updateEnabled : Option (Option Bool) := none
  updateAvailable : Option Bool := none
  checkedAt : Option Int := none
  updatedAt : Option Int := none
  remoteDigestsChangedAt : Option Int := none
  delayUpdateFor : Option (Option Int) := none
  imageId : Option String := none
  localDigests : Option (List String) := none
  remoteDigests : Option (List String) := none
  hooks : Option (Option HooksDict) := none
  deriving DecidableEq, Repr

namespace ContainerData

/-- A column to set, unless the object has that value. -/
def changed {α : Type} [DecidableEq α] (new old : Option α) : Option α :=
  if new = old then none else new

/-- What a commit writes, given the object that the session has loaded. -/
def changes (loaded : ContainersModel) (data : ContainerData) : ContainerData where
  checkEnabled := changed data.checkEnabled (some (some loaded.checkEnabled))
  updateEnabled := changed data.updateEnabled (some (some loaded.updateEnabled))
  updateAvailable := changed data.updateAvailable (some loaded.updateAvailable)
  checkedAt := changed data.checkedAt loaded.checkedAt
  updatedAt := changed data.updatedAt loaded.updatedAt
  remoteDigestsChangedAt := changed data.remoteDigestsChangedAt loaded.remoteDigestsChangedAt
  delayUpdateFor := changed data.delayUpdateFor (some loaded.delayUpdateFor)
  imageId := changed data.imageId loaded.imageId
  localDigests := changed data.localDigests loaded.localDigests
  remoteDigests := changed data.remoteDigests loaded.remoteDigests
  hooks := changed data.hooks (some loaded.hooks)

/-- Whether the table takes the columns: the two flags are not nullable. -/
def isValid (data : ContainerData) : Bool :=
  data.checkEnabled ≠ some none && data.updateEnabled ≠ some none

def apply (data : ContainerData) (row : ContainersModel) : ContainersModel :=
  { row with
    checkEnabled := (data.checkEnabled.getD none).getD row.checkEnabled
    updateEnabled := (data.updateEnabled.getD none).getD row.updateEnabled
    updateAvailable := data.updateAvailable.getD row.updateAvailable
    checkedAt := data.checkedAt.or row.checkedAt
    updatedAt := data.updatedAt.or row.updatedAt
    remoteDigestsChangedAt := data.remoteDigestsChangedAt.or row.remoteDigestsChangedAt
    delayUpdateFor := data.delayUpdateFor.getD row.delayUpdateFor
    imageId := data.imageId.or row.imageId
    localDigests := data.localDigests.or row.localDigests
    remoteDigests := data.remoteDigests.or row.remoteDigests
    hooks := data.hooks.getD row.hooks }

/-- A new row with the columns set, and the defaults elsewhere. A flag that is set to
`None` gets its default. -/
def newRow (data : ContainerData) (hostId : Int) (name : String) : ContainersModel :=
  data.apply { hostId := hostId, name := name }

theorem isValid_changes (loaded : ContainersModel) {data : ContainerData}
    (h : data.isValid = true) : (data.changes loaded).isValid = true := by
  simp only [isValid, changes, changed] at h ⊢
  split <;> split <;> simp_all

theorem getD_changed {α : Type} [DecidableEq α] (new : Option α) (old : α) :
    (changed new (some old)).getD old = new.getD old := by
  unfold changed
  split
  · rename_i h
    rw [h]
    rfl
  · rfl

theorem changed_or {α : Type} [DecidableEq α] (new old : Option α) :
    (changed new old).or old = new.or old := by
  unfold changed
  split
  · rename_i h
    rw [h, Option.none_or, Option.or_self]
  · rfl

theorem getD_getD_changed (new : Option (Option Bool)) (old : Bool) :
    ((changed new (some (some old))).getD none).getD old = (new.getD none).getD old := by
  unfold changed
  split
  · rename_i heq
    rw [heq]
    rfl
  · rfl

theorem apply_changes (data : ContainerData) (row : ContainersModel) :
    (data.changes row).apply row = data.apply row := by
  simp only [apply, changes, getD_changed, changed_or, getD_getD_changed]

end ContainerData

end Tugtainer
