/-
The connection manager of the HTTP client.

For each net location it keeps a few connections and a list of requests that wait
for one.  A request goes to a connection with empty queues, or to a new connection
if there may be one more, and else it waits; a connection whose response is complete
takes the next waiting request; a connection that is lost fails the requests in its
queues, and with the last connection the waiting requests fail too.

* `submitRequest`, `cnxRequestDoneCb`, `handleUnusableConn` — the functions of the
  manager;
* `doneWithResp` — the completion of a response, with the requests that the user
  submits from inside its callback;
* `CmEvent`, `step` — what can happen, in any order; the user may also submit requests
  from inside the callback by which a failure is reported.
-/
import ShadowBrowser.HttpQueues
import ShadowBrowser.Runs

namespace ShadowBrowser.Http

open Checked Runs

/-- `NetLoc` -/
abbrev NetLoc := String × UInt16

/-- A request, as far as the manager reads it. -/
structure Request where
  objId : ℕ
  netloc : NetLoc
  numRetries : ℕ := 0
  deriving DecidableEq, Repr

/-- A connection, as far as the manager uses it. -/
structure Conn where
  connected : Bool := false
  queues : ReqQueues Request := {}
  deriving DecidableEq, Repr

/-- `Server`.  A connection is named by its position. -/
structure Server where
  requests : List Request := []
  connections : List Conn := []
  deriving DecidableEq, Repr

/-- `done` and `error`: how a request ends. -/
inductive Outcome
  | done
  | error
  deriving DecidableEq, Repr

/-- The assertions of the manager, and those of the connections. -/
inductive CmCheck
  | maxPersistCnx
  | maxRetries
  | noServer
  | noConnection
  | noRequest
  | danglingIterator
  | outOfFuel
  | queue (e : QueueCheck)
  deriving DecidableEq, Repr

/-- `ConnectionManager`.  `submitted`, `dispatched` and `notices` tell what has happened: the
requests submitted by the user, those given to a connection, and those whose end the user has been
told of. -/
structure ConnectionManager where
  maxPersistCnxPerSrv : ℕ
  maxRetriesPerResource : ℕ
  servers : NetLoc → Option Server := fun _ => none
  submitted : List Request := []
  dispatched : List Request := []
  notices : List (Request × Outcome) := []

/-- The assertions of a connection are assertions of the manager. -/
def onQueue {α : Type} (x : Except QueueCheck α) : Except CmCheck α := x.mapError .queue

namespace Conn

/-- `_maybe_send`, that is `_maybe_http_write_to_transport`. -/
def maybeSend (c : Conn) : Except CmCheck Conn := do
  let (q, _) ← onQueue c.queues.write
  return { c with queues := q }

/-- `submit_request` -/
def submitRequest (r : Request) (c : Conn) : Except CmCheck Conn :=
  let c := { c with queues := c.queues.push r }
  if c.connected then c.maybeSend else .ok c

end Conn

namespace ConnectionManager

/-- The constructor. -/
def new (maxPersist maxRetries : ℕ) : Except CmCheck ConnectionManager := do
  check (0 < maxPersist) .maxPersistCnx
  check (maxRetries = 0) .maxRetries
  return { maxPersistCnxPerSrv := maxPersist, maxRetriesPerResource := maxRetries }

def setServer (nl : NetLoc) (s : Option Server) (cm : ConnectionManager) : ConnectionManager :=
  { cm with servers := Function.update cm.servers nl s }

/-- The server of a net location; one without requests and connections, if there is none. -/
def server (cm : ConnectionManager) (nl : NetLoc) : Server := (cm.servers nl).getD {}

/-- The connection at position `i`. -/
def conn (cm : ConnectionManager) (nl : NetLoc) (i : ℕ) : Option Conn :=
  (cm.servers nl).bind fun s => s.connections[i]?

/-- The first waiting request is submitted to the connection at position `i`. -/
def dispatch (nl : NetLoc) (i : ℕ) (cm : ConnectionManager) :
    Except CmCheck ConnectionManager :=
  match cm.servers nl with
  | none => .error .noServer
  | some s =>
    match s.requests, s.connections[i]? with
    | r :: rest, some c => do
      let c ← c.submitRequest r
      return { cm.setServer nl (some { requests := rest, connections := s.connections.set i c })
        with dispatched := cm.dispatched ++ [r] }
    | [], _ => .error .noRequest
    | _, none => .error .noConnection

/-- The server of a net location, with one more waiting request. -/
def pushed (r : Request) (cm : ConnectionManager) : Server :=
  let s := cm.server r.netloc
  { s with requests := s.requests ++ [r] }

/-- `submit_request` -/
def submitRequest (r : Request) (cm : ConnectionManager) : Except CmCheck ConnectionManager :=
  let s := cm.pushed r
  match s.connections.findIdx? fun c => c.queues.size = 0 with
  | some i => dispatch r.netloc i (cm.setServer r.netloc (some s))
  | none =>
    if s.connections.length < cm.maxPersistCnxPerSrv then
      dispatch r.netloc s.connections.length (cm.setServer r.netloc
        (some { s with connections := s.connections ++ [{}] }))
    else .ok (cm.setServer r.netloc (some s))

/-- The user submits a new request. -/
def submit (cm : ConnectionManager) (nl : NetLoc) : Except CmCheck ConnectionManager :=
  let r : Request := { objId := cm.submitted.length, netloc := nl }
  submitRequest r { cm with submitted := cm.submitted ++ [r] }

/-- The user is told how a request has ended. -/
def notify (r : Request) (o : Outcome) (cm : ConnectionManager) : ConnectionManager :=
  { cm with notices := cm.notices ++ [(r, o)] }

/-- `cnx_request_done_cb` -/
def cnxRequestDoneCb (nl : NetLoc) (i : ℕ) (cm : ConnectionManager) :
    Except CmCheck ConnectionManager :=
  match cm.servers nl with
  | none => .error .noServer
  | some s => if s.requests = [] then .ok cm else dispatch nl i cm

/-- A change of the connection at position `i`. -/
def setConn (nl : NetLoc) (i : ℕ) (c : Conn) (cm : ConnectionManager) : ConnectionManager :=
  match cm.servers nl with
  | none => cm
  | some s => cm.setServer nl (some { s with connections := s.connections.set i c })

/-- `_maybe_send`, of the connection at position `i`. -/
def maybeSend (nl : NetLoc) (i : ℕ) (cm : ConnectionManager) :
    Except CmCheck ConnectionManager :=
  match cm.conn nl i with
  | none => .error .noConnection
  | some c => do
    let c ← c.maybeSend
    return cm.setConn nl i c

/-- `_done_with_resp`, of the connection at position `i`.  From inside the callback of the request
the user submits requests to the net locations `inside`. -/
def doneWithResp (nl : NetLoc) (i : ℕ) (inside : List NetLoc) (cm : ConnectionManager) :
    Except CmCheck ConnectionManager :=
  match cm.conn nl i with
  | none => .error .noConnection
  | some c => do
    let (q, r) ← onQueue c.queues.done
    let cm ← exec submit ((cm.setConn nl i { c with queues := q }).notify r .done) inside
    let cm ← cnxRequestDoneCb nl i cm
    maybeSend nl i cm

/-- `notify_req_error_`: from inside the callback the user submits requests to the net locations
`inside`. -/
def notifyReqError (r : Request) (inside : List NetLoc) (cm : ConnectionManager) :
    Except CmCheck ConnectionManager :=
  exec submit (cm.notify r .error) inside

/-- `retry_requests`.  `ins` has what the user submits from inside the error callbacks to come. -/
def retryRequests : List Request → List (List NetLoc) → ConnectionManager →
    Except CmCheck (ConnectionManager × List (List NetLoc))
  | [], ins, cm => .ok (cm, ins)
  | r :: rs, ins, cm =>
    if r.numRetries = cm.maxRetriesPerResource then do
      let cm ← notifyReqError r (ins.headD []) cm
      retryRequests rs ins.tail cm
    else do
      let cm ← submitRequest { r with numRetries := r.numRetries + 1 } cm
      retryRequests rs ins cm

/-- The loop of `release_conn` over the waiting requests, with its iterator at position `k`.  What
the user submits may take requests off the front of the list; the loop must not stand on one of
them. -/
def failWaiting (nl : NetLoc) : ℕ → ℕ → List (List NetLoc) → ConnectionManager →
    Except CmCheck (ConnectionManager × List (List NetLoc))
  | 0, _, _, _ => .error .outOfFuel
  | fuel + 1, k, ins, cm =>
    match (cm.server nl).requests[k]? with
    | none => .ok (cm, ins)
    | some r => do
      let cm' ← notifyReqError r (ins.headD []) cm
      let taken := (cm'.dispatched.drop cm.dispatched.length).countP fun r => r.netloc = nl
      check (taken ≤ k) .danglingIterator
      failWaiting nl fuel (k + 1 - taken) ins.tail cm'

/-- `release_conn` -/
def releaseConn (nl : NetLoc) (i : ℕ) (ins : List (List NetLoc)) (cm : ConnectionManager) :
    Except CmCheck (ConnectionManager × List (List NetLoc)) :=
  match cm.servers nl with
  | none => .error .noServer
  | some s => do
    check (i < s.connections.length) .noConnection
    let conns := s.connections.eraseIdx i
    let cm := cm.setServer nl (some { s with connections := conns })
    if conns = [] then
      let (cm, ins) ← failWaiting nl (s.requests.length + ins.flatten.length + 1) 0 ins cm
      return (cm.setServer nl none, ins)
    else return (cm, ins)

/-- `handle_unusable_conn` -/
def handleUnusableConn (nl : NetLoc) (i : ℕ) (ins : List (List NetLoc))
    (cm : ConnectionManager) : Except CmCheck ConnectionManager :=
  match cm.conn nl i with
  | none => .error .noConnection
  | some c => do
    let (cm, ins) ← releaseConn nl i ins cm
    let (cm, ins) ← retryRequests c.queues.active ins cm
    let (cm, _) ← retryRequests c.queues.submitted ins cm
    return cm

/-- `reset` -/
def reset (cm : ConnectionManager) : ConnectionManager := { cm with servers := fun _ => none }

end ConnectionManager

/-- What can happen: a request is submitted, a connection is established, its output has been
written, the response to its active request is complete, or it is lost (`cnx_eof_cb` and
`cnx_error_cb`); or the manager is reset.  `inside` and `ins` are what the user submits from inside
the callbacks. -/
inductive CmEvent
  | submit (nl : NetLoc)
  | connected (nl : NetLoc) (i : ℕ)
  | writtenData (nl : NetLoc) (i : ℕ)
  | respDone (nl : NetLoc) (i : ℕ) (inside : List NetLoc)
  | unusable (nl : NetLoc) (i : ℕ) (ins : List (List NetLoc))
  | reset
  deriving DecidableEq, Repr

namespace ConnectionManager

/-- A response is complete only when a request is active. -/
def Enabled (cm : ConnectionManager) : CmEvent → Prop
  | .submit _ => True
  | .connected nl i => ∃ c ∈ cm.conn nl i, c.connected = false
  | .writtenData nl i => ∃ c ∈ cm.conn nl i, c.connected = true
  | .respDone nl i _ => ∃ c ∈ cm.conn nl i, c.queues.active ≠ []
  | .unusable nl i _ => ∃ c, c ∈ cm.conn nl i
  | .reset => True

/-- One event. -/
def step (cm : ConnectionManager) : CmEvent → Except CmCheck ConnectionManager
  | .submit nl => cm.submit nl
  | .connected nl i =>
    match cm.conn nl i with
    | none => .error .noConnection
    | some c => maybeSend nl i (cm.setConn nl i { c with connected := true })
  | .writtenData nl i => maybeSend nl i cm
  | .respDone nl i inside => doneWithResp nl i inside cm
  | .unusable nl i ins => handleUnusableConn nl i ins cm
  | .reset => .ok cm.reset

/-- A step that is taken. -/
def Step (cm : ConnectionManager) (e : CmEvent) (cm' : ConnectionManager) : Prop :=
  Enabled cm e ∧ step cm e = .ok cm'

/-- The manager is not reset, and nothing is submitted from inside an error callback. -/
def Plain : CmEvent → Prop
  | .unusable _ _ ins => ins = []
  | .reset => False
  | _ => True

/-- Reached from a new manager. -/
def Reachable (cm : ConnectionManager) : Prop :=
  ∃ maxPersist maxRetries cm₀ es, new maxPersist maxRetries = .ok cm₀ ∧ Run Step cm₀ es cm

/-- Reached from a new manager by plain events. -/
def PlainlyReachable (cm : ConnectionManager) : Prop :=
  ∃ maxPersist maxRetries cm₀ es, new maxPersist maxRetries = .ok cm₀ ∧
    Run (Guarded (fun _ e => Plain e) Step) cm₀ es cm

end ConnectionManager

end ShadowBrowser.Http
