/-
The client end of an IPC channel.

A message with an id other than zero is a call or the reply to one.  The client
numbers its calls with odd ids, keeps the calls that wait for a reply in a map, and
the ids of those that have timed out in a set.

* `IpcSession` — the client, what the server has still to reply, and the messages
  on their way to the client;
* `IpcSession.call`, `onRecvMsg`, `onTimeoutWaitingResp` — the functions of the
  client;
* `IpcEvent`, `IpcSession.step` — what can happen, in any order.
-/
import Mathlib.Algebra.Group.Nat.Defs
import Mathlib.Data.Finset.Basic
import ShadowBrowser.Runs

namespace ShadowBrowser

open Checked Runs

/-- `RespStatus` -/
inductive GenericIpcChannel.RespStatus
  | recv
  | timedOut
  | err
  deriving DecidableEq, Repr

/-- The arguments of a `call`. -/
structure CallArgs where
  type : UInt8
  data : List UInt8
  respType : UInt8
  timeoutSecs : Option UInt8 := none
  deriving DecidableEq, Repr

/-- `CallInfo`.  A callback is named by the number of the call that it was passed to. -/
structure CallInfo where
  callMsgType : UInt8
  expRespMsgType : UInt8
  onRespStatusCb : ℕ
  timeoutTimer : Bool
  deriving DecidableEq, Repr

/-- A message of the channel. -/
structure IpcMsg where
  type : UInt8
  id : ℕ
  data : List UInt8
  deriving DecidableEq, Repr

/-- `GenericIpcChannel`.  `genMsgCh` says that the message channel exists, that is, that the
connection has been made. -/
structure GenericIpcChannel where
  genMsgCh : Bool := false
  isClient : Bool := true
  nextCallMsgId : ℕ := 1
  pendingCalls : ℕ → Option CallInfo := fun _ => none
  timedOutCallIds : Finset ℕ := ∅

/-- The assertions of the channel. -/
inductive IpcCheck
  | notAvailYet
  | notClient
  | timeoutSecs
  | respType
  | notInMap
  | callToClient
  deriving DecidableEq, Repr

/-- What happens to a call. -/
inductive CallEvent
  | called
  | replied (data : List UInt8)
  | arrived (data : List UInt8)
  | timerFired
  | callback (status : GenericIpcChannel.RespStatus) (data : List UInt8)
  deriving DecidableEq, Repr

/-- A call that was made, with the id that its message carried. -/
structure CallRecord where
  args : CallArgs
  msgId : ℕ
  deriving DecidableEq, Repr

/-- A message on its way to the client.  `call` is the call that the server's user replied to
with it; nothing in the client reads it. -/
structure InFlight where
  msg : IpcMsg
  call : Option ℕ
  deriving DecidableEq, Repr

/-- The client, the calls that it has made and the server has not replied to, the messages on
their way to the client, and what has happened to each call. -/
structure IpcSession where
  ch : GenericIpcChannel := {}
  calls : List CallRecord := []
  unanswered : Finset ℕ := ∅
  toClient : List InFlight := []
  hist : List (ℕ × CallEvent) := []

namespace IpcSession

/-- Something happened to call `k`. -/
def record (k : ℕ) (ev : CallEvent) (s : IpcSession) : IpcSession :=
  { s with hist := s.hist ++ [(k, ev)] }

/-- The entry that `call` makes. -/
def newInfo (c : CallArgs) (s : IpcSession) : CallInfo :=
  { callMsgType := c.type
    expRespMsgType := c.respType
    onRespStatusCb := s.calls.length
    timeoutTimer := c.timeoutSecs.isSome }

/-- The state after a `call`. -/
def called (c : CallArgs) (s : IpcSession) : IpcSession :=
  let id := s.ch.nextCallMsgId
  { s with
    ch := { s.ch with
      nextCallMsgId := (id + 2) % 2 ^ 32
      pendingCalls := Function.update s.ch.pendingCalls id (some (s.newInfo c)) }
    calls := s.calls ++ [{ args := c, msgId := id }]
    unanswered := insert s.calls.length s.unanswered
    hist := s.hist ++ [(s.calls.length, .called)] }

instance (o : Option UInt8) : Decidable (∀ t ∈ o, t ≤ 30) := Option.decidableForallMem o

/-- `call` -/
def call (s : IpcSession) (c : CallArgs) : Except IpcCheck IpcSession := do
  check (s.ch.genMsgCh = true) .notAvailYet
  check (s.ch.isClient = true) .notClient
  check (∀ t ∈ c.timeoutSecs, t ≤ 30) .timeoutSecs
  return s.called c

/-- The callback of call `k`, from inside which the user makes the calls `inside`. -/
def callback (k : ℕ) (status : GenericIpcChannel.RespStatus) (data : List UInt8) (inside : List CallArgs)
    (s : IpcSession) : Except IpcCheck IpcSession :=
  exec call (s.record k (.callback status data)) inside

/-- `pending_calls_.erase` -/
def erasePending (id : ℕ) (s : IpcSession) : IpcSession :=
  { s with ch := { s.ch with pendingCalls := Function.update s.ch.pendingCalls id none } }

/-- `timed_out_call_ids_.insert` -/
def insertTimedOut (id : ℕ) (s : IpcSession) : IpcSession :=
  { s with ch := { s.ch with timedOutCallIds := insert id s.ch.timedOutCallIds } }

/-- `timed_out_call_ids_.erase` -/
def eraseTimedOut (id : ℕ) (s : IpcSession) : IpcSession :=
  { s with ch := { s.ch with timedOutCallIds := s.ch.timedOutCallIds.erase id } }

/-- `onRecvMsg` -/
def onRecvMsg (m : IpcMsg) (inside : List CallArgs) (s : IpcSession) :
    Except IpcCheck IpcSession :=
  -- not about a call: the owner's handler has it
  if m.id = 0 then
    exec call s inside
  else
    match s.ch.pendingCalls m.id with
    | some info => do
      check (m.type = info.expRespMsgType) .respType
      -- the callback runs before the call is taken out
      let s ← callback info.onRespStatusCb .recv m.data inside s
      return s.erasePending m.id
    | none =>
      -- the reply to a call that has timed out is swallowed
      if m.id ∈ s.ch.timedOutCallIds then
        .ok (s.eraseTimedOut m.id)
      -- the call of a client
      else do
        check (s.ch.isClient = false) .callToClient
        exec call s inside

/-- `_on_timeout_waiting_resp` -/
def onTimeoutWaitingResp (id : ℕ) (inside : List CallArgs) (s : IpcSession) :
    Except IpcCheck IpcSession :=
  match s.ch.pendingCalls id with
  | some info => do
    let s ← callback info.onRespStatusCb .timedOut [] inside
      (s.record info.onRespStatusCb .timerFired)
    return (s.erasePending id).insertTimedOut id
  | none => .error .notInMap

end IpcSession

/-- What can happen.  `inside` are the calls that the user makes when it is called back. -/
inductive IpcEvent
  | connected
  | call (c : CallArgs)
  | serverReply (k : ℕ) (data : List UInt8)
  | serverMsg (type : UInt8) (data : List UInt8)
  | deliver (inside : List CallArgs)
  | timeout (id : ℕ) (inside : List CallArgs)
  deriving DecidableEq, Repr

/-- The calls that are made in an event. -/
def IpcEvent.calls : IpcEvent → List CallArgs
  | .call c => [c]
  | .deliver inside => inside
  | .timeout _ inside => inside
  | _ => []

namespace IpcSession

/-- The server replies once to each call, a timer fires while the entry that owns it is there,
and messages arrive in the order in which they were sent. -/
def Enabled (s : IpcSession) : IpcEvent → Prop
  | .connected => s.ch.genMsgCh = false
  | .call _ => True
  | .serverReply k _ => k ∈ s.unanswered
  | .serverMsg _ _ => s.ch.genMsgCh = true
  | .deliver _ => s.toClient ≠ []
  | .timeout id _ => ∃ info ∈ s.ch.pendingCalls id, info.timeoutTimer = true

/-- The server replies to a call with the id that the call's message carried. -/
def reply (k : ℕ) (data : List UInt8) (r : CallRecord) (s : IpcSession) : IpcSession :=
  { s with
    unanswered := s.unanswered.erase k
    toClient := s.toClient ++
      [{ msg := { type := r.args.respType, id := r.msgId, data := data }, call := some k }]
    hist := s.hist ++ [(k, .replied data)] }

/-- The first message on its way is taken off the wire. -/
def arrive (f : InFlight) (rest : List InFlight) (s : IpcSession) : IpcSession :=
  { s with
    toClient := rest
    hist := s.hist ++ (f.call.map fun k => (k, .arrived f.msg.data)).toList }

/-- One event. -/
def step (s : IpcSession) : IpcEvent → Except IpcCheck IpcSession
  | .connected => .ok { s with ch := { s.ch with genMsgCh := true } }
  | .call c => s.call c
  | .serverReply k data =>
    match s.calls[k]? with
    | some r => .ok (s.reply k data r)
    | none => .ok s
  | .serverMsg type data =>
    .ok { s with toClient := s.toClient ++
      [{ msg := { type := type, id := 0, data := data }, call := none }] }
  | .deliver inside =>
    match s.toClient with
    | [] => .ok s
    | f :: rest => onRecvMsg f.msg inside (s.arrive f rest)
  | .timeout id inside => onTimeoutWaitingResp id inside s

/-- A step that is taken. -/
def Step (s : IpcSession) (e : IpcEvent) (t : IpcSession) : Prop :=
  Enabled s e ∧ step s e = .ok t

/-- The calls of the event are made once the channel is ready, and with a timeout of at most
thirty seconds. -/
def Permitted (s : IpcSession) (e : IpcEvent) : Prop :=
  ∀ c ∈ e.calls, s.ch.genMsgCh = true ∧ ∀ t ∈ c.timeoutSecs, t ≤ 30

/-- What has happened to call `k`. -/
def about (s : IpcSession) (k : ℕ) : List CallEvent :=
  s.hist.filterMap fun e => if e.1 = k then some e.2 else none

end IpcSession

end ShadowBrowser
