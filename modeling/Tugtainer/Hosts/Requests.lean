import Tugtainer.Interaction.Issues

/-!
# Hosts and their clients

The requests that create, change and delete hosts, and the runs over hosts that ask for
their clients. `AgentClientManager` keeps one client for each host; it is changed between
the awaited operations, and it is filled with what a caller has loaded of the host.
-/

namespace Tugtainer

open Interaction

/-! ## Rows and clients -/

structure HostBase where
  name : String
  enabled : Bool
  prune : Bool
  pruneAll : Bool
  url : String
  ssl : Bool
  timeout : Int
  containerHcTimeout : Int
  deriving DecidableEq, Repr

structure HostCreate extends HostBase where
  secret : Option String := none
  deriving DecidableEq, Repr

structure HostUpdate extends HostBase where
  isChangingSecret : Bool := false
  secret : Option String := none
  deriving DecidableEq, Repr

structure HostRow extends HostCreate where
  id : Int
  deriving DecidableEq, Repr

/-- The columns that an `UPDATE` statement sets. -/
structure HostChanges where
  name : Option String := none
  enabled : Option Bool := none
  prune : Option Bool := none
  pruneAll : Option Bool := none
  url : Option String := none
  ssl : Option Bool := none
  timeout : Option Int := none
  containerHcTimeout : Option Int := none
  secret : Option (Option String) := none
  deriving DecidableEq, Repr

/-- `value`, where it differs from what was loaded. -/
def differing {α : Type} [DecidableEq α] (loaded value : α) : Option α :=
  if loaded ≠ value then some value else none

namespace HostChanges

/-- The columns of a loaded row that a request changes. -/
def of (loaded : HostRow) (body : HostUpdate) : HostChanges where
  name := differing loaded.name body.name
  enabled := differing loaded.enabled body.enabled
  prune := differing loaded.prune body.prune
  pruneAll := differing loaded.pruneAll body.pruneAll
  url := differing loaded.url body.url
  ssl := differing loaded.ssl body.ssl
  timeout := differing loaded.timeout body.timeout
  containerHcTimeout := differing loaded.containerHcTimeout body.containerHcTimeout
  secret := if body.isChangingSecret then differing loaded.secret body.secret else none

def apply (changes : HostChanges) (row : HostRow) : HostRow where
  id := row.id
  name := changes.name.getD row.name
  enabled := changes.enabled.getD row.enabled
  prune := changes.prune.getD row.prune
  pruneAll := changes.pruneAll.getD row.pruneAll
  url := changes.url.getD row.url
  ssl := changes.ssl.getD row.ssl
  timeout := changes.timeout.getD row.timeout
  containerHcTimeout := changes.containerHcTimeout.getD row.containerHcTimeout
  secret := changes.secret.getD row.secret

theorem id_apply (changes : HostChanges) (row : HostRow) : (changes.apply row).id = row.id := rfl

end HostChanges

structure AgentClient where
  id : Int
  url : String
  secret : Option String
  timeout : Int
  ssl : Bool
  deriving DecidableEq, Repr

def createClient (host : HostRow) : AgentClient where
  id := host.id
  url := host.url
  secret := host.secret
  timeout := host.timeout
  ssl := host.ssl

/-! ## Operations -/

inductive HostsExn where
  /-- `HTTPException` -/
  | http (status : ℕ) (detail : String)
  | other
  deriving DecidableEq, Repr

/-- The operations on the hosts table and on the registry of clients. -/
inductive HostsOp where
  /-- an awaited operation that has to do with neither: the validation of a URL, the end of
  a session, a request to an agent -/
  | io
  | selectHost (id : Int)
  | selectName (name : String)
  | selectEnabled
  /-- commit a new row -/
  | insert (body : HostCreate)
  /-- commit changes of a row -/
  | update (id : Int) (changes : HostChanges)
  /-- commit the removal of a row -/
  | delete (id : Int)
  | refresh (id : Int)
  /-- `_HOST_CLIENTS.pop(id, None)` -/
  | pop (id : Int)
  /-- `_HOST_CLIENTS.get(id)` -/
  | get (id : Int)
  /-- `_HOST_CLIENTS[id] = client` -/
  | assign (id : Int) (client : AgentClient)

namespace HostsOp

@[reducible] def Ans : HostsOp → Type
  | io | update _ _ | delete _ => Except HostsExn Unit
  | selectHost _ | selectName _ => Except HostsExn (Option HostRow)
  | selectEnabled => Except HostsExn (List HostRow)
  | insert _ => Except HostsExn Int
  | refresh _ => Except HostsExn HostRow
  | pop _ | get _ => Option AgentClient
  | assign _ _ => Unit

def isAwaited : HostsOp → Bool
  | pop _ | get _ | assign _ _ => false
  | _ => true

end HostsOp

@[reducible] def Hosts : Interface where
  Op := HostsOp
  Ans := HostsOp.Ans

abbrev HostsM (α : Type) := Act Hosts HostsExn Unit α

/-- An awaited operation that has to do with neither the hosts nor the registry. -/
def hostsIo : HostsM Unit := Act.performE (I := Hosts) .io id

/-! ## The registry -/

def removeClient (id : Int) : HostsM Unit := do
  match ← Act.perform (I := Hosts) (.pop id) with
  | some _ => hostsIo
  | none => pure ()

def setClient (host : HostRow) : HostsM Unit := do
  removeClient host.id
  Act.perform (I := Hosts) (.assign host.id (createClient host))

def getHostClient (host : HostRow) : HostsM AgentClient := do
  match ← Act.perform (I := Hosts) (.get host.id) with
  | some client => pure client
  | none =>
      Act.perform (I := Hosts) (.assign host.id (createClient host))
      pure (createClient host)

/-! ## Requests -/

def getHost (id : Int) : HostsM HostRow := do
  match ← Act.performE (I := Hosts) (.selectHost id) (fun r => r) with
  | some host => pure host
  | none => throw (.http 404 "Docker host not found in database")

def createHost (body : HostCreate) : HostsM HostRow := do
  hostsIo
  match ← Act.performE (I := Hosts) (.selectName body.name) (fun r => r) with
  | some _ => throw (.http 400 "Host name is already taken")
  | none =>
      let hostId ← Act.performE (I := Hosts) (.insert body) (fun r => r)
      let host ← Act.performE (I := Hosts) (.refresh hostId) (fun r => r)
      Act.whenA host.enabled (setClient host)
      hostsIo
      pure host

def updateHostRow (hostId : Int) (body : HostUpdate) : HostsM HostRow := do
  hostsIo
  let host ← getHost hostId
  Act.performE (I := Hosts) (.update host.id (HostChanges.of host body)) (fun r => r)
  let host ← Act.performE (I := Hosts) (.refresh host.id) (fun r => r)
  removeClient host.id
  Act.whenA host.enabled (setClient host)
  hostsIo
  pure host

def deleteHost (hostId : Int) : HostsM Unit := do
  let host ← getHost hostId
  removeClient host.id
  hostsIo
  Act.performE (I := Hosts) (.delete host.id) (fun r => r)

/-! ## Runs -/

/-- `check_all_containers` and `update_all_containers`, as far as the hosts are concerned. -/
def actOnHosts : HostsM Unit :=
  tryCatch (do
    let hosts ← Act.performE (I := Hosts) .selectEnabled (fun r => r)
    hostsIo
    hosts.forM fun host => tryCatch (do
      let _ ← getHostClient host
      hostsIo) fun _ => pure ()
    hostsIo) fun _ => pure ()

/-- The endpoints that check or update one host, or a container of it. -/
def actOnHost (hostId : Int) : HostsM Unit := do
  let host ← getHost hostId
  if host.enabled then
    let _ ← getHostClient host
    hostsIo
  else throw (.http 409 "Host disabled")

end Tugtainer
