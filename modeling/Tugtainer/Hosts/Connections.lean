import Tugtainer.Interaction.Action

/-!
# The connections to the agents

An `AgentClient` keeps one session of the HTTP library, which is opened by the first request
that needs it and shared by all others; a lock guards it. `AgentClientManager` has the
clients of the hosts. Here a client is an object of its own: two clients of one host differ,
and a run goes on with the client that it was given.
-/

namespace Tugtainer

namespace AgentSessions

open Interaction

/-! ## Operations -/

/-- A session: the client that has opened it, and its number among those of the client. -/
structure Session where
  client : ℕ
  number : ℕ
  deriving DecidableEq, Repr

inductive SessionsExn where
  /-- `TugAgentClientError` -/
  | agent
  | other
  deriving DecidableEq, Repr

/-- How a request that was sent ends. -/
inductive Outcome where
  | ok
  /-- an answer with the status of an error -/
  | status
  /-- `TimeoutError` -/
  | timeout
  /-- `aiohttp.ClientError` -/
  | connection
  | other
  deriving DecidableEq, Repr

/-- The operations on the clients and on their sessions. -/
inductive SessionsOp where
  /-- an awaited operation that has to do with neither: the validation of a URL, what a caller
  does between two requests -/
  | io
  /-- `_HOST_CLIENTS.pop(id, None)` -/
  | pop (id : Int)
  /-- `_HOST_CLIENTS.get(id)` -/
  | get (id : Int)
  /-- `_HOST_CLIENTS[id] = cls._create_client(host)` -/
  | create (id : Int)
  /-- enter and leave `async with self._session_lock` -/
  | acquire (client : ℕ)
  | release (client : ℕ)
  /-- `self._session`, and whether it is open -/
  | readSession (client : ℕ)
  /-- `self._session = aiohttp.ClientSession(...)` -/
  | newSession (client : ℕ)
  /-- `await self._session.close()`; where it raises, the session may be closed all the same -/
  | close (session : Session)
  /-- `self._session = None` -/
  | clearSession (client : ℕ)
  /-- `session.request(...)`, which a closed session refuses -/
  | send (session : Session)
  /-- wait for the answer, and read it -/
  | response (session : Session)

namespace SessionsOp

@[reducible] def Ans : SessionsOp → Type
  | io | send _ => Except SessionsExn Unit
  | close _ => Except Bool Unit
  | pop _ | get _ => Option ℕ
  | create _ => ℕ
  | acquire _ | release _ | clearSession _ => Unit
  | readSession _ => Option (Session × Bool)
  | newSession _ => Session
  | response _ => Outcome

/-- A session is closed, and requests are answered, while other tasks go on. -/
def isAwaited : SessionsOp → Bool
  | io | acquire _ | close _ | response _ => true
  | _ => false

end SessionsOp

@[reducible] def Sessions : Interface where
  Op := SessionsOp
  Ans := SessionsOp.Ans

abbrev SessionsM (α : Type) := Act Sessions SessionsExn Unit α

def io : SessionsM Unit := Act.performE (I := Sessions) .io id

/-! ## A client -/

/-- `async with self._session_lock: x`. -/
def withSessionLock {α : Type} (client : ℕ) (x : SessionsM α) : SessionsM α := do
  Act.perform (I := Sessions) (.acquire client)
  let r : Except SessionsExn α ← tryCatch (do
    let a ← x
    pure (.ok a)) fun e => pure (.error e)
  Act.perform (I := Sessions) (.release client)
  Act.ofExcept r

/-- `if self._session and not self._session.closed: await self._session.close()`. -/
def closeOpen : Option (Session × Bool) → SessionsM Unit
  | some (session, true) =>
      Act.performE (I := Sessions) (.close session) fun r => r.mapError fun _ => .other
  | _ => pure ()

def closeSession (client : ℕ) : SessionsM Unit :=
  withSessionLock client do
    let session ← Act.perform (I := Sessions) (.readSession client)
    closeOpen session
    Act.perform (I := Sessions) (.clearSession client)

def getSession (client : ℕ) : SessionsM Session :=
  withSessionLock client do
    match ← Act.perform (I := Sessions) (.readSession client) with
    | some (session, true) => pure session
    | _ => Act.perform (I := Sessions) (.newSession client)

/-- `_request`, as far as the session is concerned. -/
def request (client : ℕ) : SessionsM Unit := do
  io
  let session ← getSession client
  Act.performE (I := Sessions) (.send session) id
  match ← Act.perform (I := Sessions) (.response session) with
  | .ok => pure ()
  | .status | .timeout => throw .agent
  | .connection =>
      closeSession client
      throw .agent
  | .other => throw .other

/-! ## The manager -/

def removeClient (id : Int) : SessionsM Unit := do
  match ← Act.perform (I := Sessions) (.pop id) with
  | some client => closeSession client
  | none => pure ()

def setClient (id : Int) : SessionsM Unit := do
  removeClient id
  let _ ← Act.perform (I := Sessions) (.create id)

def getHostClient (id : Int) : SessionsM ℕ := do
  match ← Act.perform (I := Sessions) (.get id) with
  | some client => pure client
  | none => Act.perform (I := Sessions) (.create id)

/-! ## Callers -/

/-- A request whose exception the caller may catch. -/
def attemptRequest (client : ℕ) (caught : Bool) : SessionsM Unit :=
  if caught then tryCatch (request client) fun _ => pure () else request client

def requestThen (client : ℕ) (caught : Bool) : SessionsM Unit := do
  attemptRequest client caught
  io

/-- A run or an endpoint, which makes all its requests with the client that it got in the
beginning. -/
def useHost (id : Int) (requests : List Bool) : SessionsM Unit := do
  let client ← getHostClient id
  requests.forM fun caught => requestThen client caught

/-- The endpoints that change a host: its client is removed, and set again where the host is
enabled. -/
def changeHost (id : Int) (enabled : Bool) : SessionsM Unit := do
  io
  removeClient id
  Act.whenA enabled (setClient id)
  io

end AgentSessions

end Tugtainer
