/-
The client-side proxy (`ClientSideProxy`).

The proxy owns at most one buflo channel.  It connects to the server-side proxy
(through a SOCKS proxy if it is told to), makes the channel when it is connected,
lets SOCKS5 clients in while the channel is ready, and arms and stops defense
sessions for its owner.  A periodic timer reaps a channel that is old and idle:
the proxy then throws it away and connects again.

What the channel reports during an event is handled after that event; a channel
that closes sends the proxy back to its initial state, as it does in Shadow.
-/
import ShadowBrowser.Events

namespace ShadowBrowser

open Checked Runs

/-- `ClientSideProxy::State` -/
inductive CspState
  | initial
  | proxyConnecting
  | proxyConnected
  | proxyFailed
  | connecting
  | connected
  | settingUpBufloChannel
  | ready
  deriving DecidableEq, Repr

/-- The checks of the proxy; `channel k` is a check of its channel. -/
inductive CspCheck
  | notEnabled
  | notForceReconnect
  | notBuflo
  | noBufloCh
  | unexpectedState
  | socksConnectorSet
  | socksNotConnecting
  | peerChannelSet
  | socksConnectFailed
  | connectError
  | notConnected
  | reapTimerRunning
  | handlerNotNew
  | channel (k : Check)
  deriving DecidableEq, Repr

/-- The counters that outlive a channel (`…_so_far_`). -/
structure SoFar where
  allRecvByteCount : ℕ := 0
  usefulRecvByteCount : ℕ := 0
  dummyRecvCellCount : ℕ := 0
  allSendByteCount : ℕ := 0
  usefulSendByteCount : ℕ := 0
  dummySendCellCount : ℕ := 0
  numDummyCellsAvoided : ℕ := 0
  deriving DecidableEq, Repr

/-- What the proxy tells its owner. -/
inductive CspAct
  /-- `csp_status_cb_` -/
  | statusCb (ok : Bool)
  /-- `a_defense_session_done_cb_` -/
  | aDefenseSessionDone
  /-- the value of `set_auto_start_defense_session_on_next_send` -/
  | autoStart (ok : Bool)
  deriving DecidableEq, Repr

/-- `ClientSideProxy` -/
structure ClientSideProxy where
  bufloPacketIntvlMs : ℕ
  sspBufloPacketIntvlMs : ℕ
  bufloL : ℕ
  bufloTimeLimitSecs : ℕ
  /-- zero if there is no SOCKS proxy on the way -/
  socks5Addr : ℕ := 0
  myaddr : ℕ := 0
  bufloChMaxAgeSec : ℕ := 5 * 60
  state : CspState := .initial
  peerChannel : Bool := false
  socksConnector : Bool := false
  bufloCh : Option Chan := none
  /-- the ids in `client_handlers_` -/
  clientHandlers : List ℕ := []
  /-- the stream server has the proxy as its observer -/
  observing : Bool := false
  /-- the stream server listens and accepts -/
  accepting : Bool := false
  /-- `csp_status_cb_` is set -/
  cspStatusCb : Bool := false
  /-- `reap_buflo_channel_timer_->is_running()` -/
  reapTimerRunning : Bool := false
  soFar : SoFar := {}
  /-- the id of the next object -/
  nextObjId : ℕ := 1
  journal : List CspAct := []
  deriving DecidableEq, Repr

namespace ClientSideProxy

/-- `buflo_cell_size_` -/
def bufloCellSize (s : ClientSideProxy) : ℕ := if s.bufloPacketIntvlMs ≠ 0 then 750 else 0

/-- Append an entry to the journal. -/
def log (s : ClientSideProxy) (a : CspAct) : ClientSideProxy :=
  { s with journal := s.journal ++ [a] }

/-- `_update_stats` -/
def updateStats (s : ClientSideProxy) : ClientSideProxy :=
  match s.bufloCh with
  | none => s
  | some c => { s with
      soFar := {
        allRecvByteCount := s.soFar.allRecvByteCount + c.allRecvByteCount
        usefulRecvByteCount := s.soFar.usefulRecvByteCount + c.allUsersDataRecvByteCount
        dummyRecvCellCount := s.soFar.dummyRecvCellCount + c.dummyRecvCellCount
        allSendByteCount := s.soFar.allSendByteCount + c.allSendByteCount
        usefulSendByteCount := s.soFar.usefulSendByteCount + c.allUsersDataSendByteCount
        dummySendCellCount := s.soFar.dummySendCellCount + c.dummySendCellCount
        numDummyCellsAvoided := s.soFar.numDummyCellsAvoided + c.numDummyCellsAvoided } }

/-- `_reset_to_initial` -/
def resetToInitial (s : ClientSideProxy) : ClientSideProxy :=
  { s with
    clientHandlers := []
    peerChannel := false
    socksConnector := false
    bufloCh := none
    state := .initial }

/-- `_establish_tunnel_internal` -/
def establishTunnelInternal (s : ClientSideProxy) : ClientSideProxy :=
  let s := s.updateStats.resetToInitial
  { s with
    peerChannel := true
    state := if s.socks5Addr ≠ 0 then .proxyConnecting else .connecting }

/-- `establish_tunnel` -/
def establishTunnel (s : ClientSideProxy) (forceReconnect : Bool) :
    Except CspCheck ClientSideProxy := do
  let s : ClientSideProxy := { s with cspStatusCb := true }
  check (forceReconnect = true) .notForceReconnect
  return s.establishTunnelInternal

/-- `close_all_streams` -/
def closeAllStreams (s : ClientSideProxy) : ClientSideProxy := { s with clientHandlers := [] }

/-- `start_accepting_clients` -/
def startAcceptingClients (s : ClientSideProxy) : ClientSideProxy := { s with accepting := true }

/-- A call of the channel, inside the proxy. -/
def callChannel (x : Except Check Chan) : Except CspCheck Chan := x.mapError .channel

/-- `set_auto_start_defense_session_on_next_send`, with the value it returns -/
def setAutoStartDefenseSessionOnNextSend (s : ClientSideProxy) :
    Except CspCheck (ClientSideProxy × Bool) := do
  check (0 < s.bufloCellSize) .notBuflo
  if s.state ≠ .ready then
    return (s, false)
  else
    match s.bufloCh with
    | none => throw .noBufloCh
    | some c =>
      let c ← callChannel c.setAutoStartDefenseSessionOnNextSend
      return ({ s with bufloCh := some c }, true)

/-- `stop_defense_session` -/
def stopDefenseSession (s : ClientSideProxy) (rightNow : Bool) :
    Except CspCheck ClientSideProxy :=
  if s.bufloCellSize = 0 ∨ s.state ≠ .ready then
    return s
  else
    match s.bufloCh with
    | none => throw .noBufloCh
    | some c => do
      let c ← callChannel (c.stopDefenseSession rightNow)
      return { s with bufloCh := some c }

/-- `onAccepted`, from a SOCKS5 client -/
def onAccepted (s : ClientSideProxy) : Except CspCheck ClientSideProxy :=
  if s.state ≠ .ready then
    return s
  -- until the channel is ready, a client is not served
  else do
    check (s.nextObjId ∉ s.clientHandlers) .handlerNotNew
    return { s with
      clientHandlers := s.clientHandlers ++ [s.nextObjId]
      nextObjId := s.nextObjId + 1 }

/-- `_on_client_handler_done` -/
def onClientHandlerDone (s : ClientSideProxy) (objId : ℕ) : ClientSideProxy :=
  { s with clientHandlers := s.clientHandlers.erase objId }

/-- `_on_connected_to_ssp`; `sock` is what the socket does with the channel's peer info. -/
def onConnectedToSsp (s : ClientSideProxy) (sock : SockRes) :
    Except CspCheck ClientSideProxy := do
  check (s.state = .connected) .notConnected
  let c ← callChannel <| Chan.new true s.nextObjId s.myaddr s.bufloCellSize
    s.bufloPacketIntvlMs s.sspBufloPacketIntvlMs s.bufloL s.bufloTimeLimitSecs sock
  return { s with
    peerChannel := false
    bufloCh := some c
    nextObjId := s.nextObjId + 1
    state := .settingUpBufloChannel }

/-- `onConnected` -/
def onConnected (s : ClientSideProxy) (sock : SockRes) : Except CspCheck ClientSideProxy :=
  match s.state with
  | .proxyConnecting => do
    check (s.socksConnector = false) .socksConnectorSet
    return { s with peerChannel := false, socksConnector := true, state := .connecting }
  | .connecting => onConnectedToSsp { s with state := .connected } sock
  | _ => throw .unexpectedState

/-- `onSocksTargetConnectResult` -/
def onSocksTargetConnectResult (s : ClientSideProxy) (ok : Bool) (sock : SockRes) :
    Except CspCheck ClientSideProxy :=
  if ok then do
    check (s.state = .connecting) .socksNotConnecting
    check (s.peerChannel = false) .peerChannelSet
    onConnectedToSsp { s with peerChannel := true, socksConnector := false, state := .connected }
      sock
  else
    throw .socksConnectFailed

/-- `_on_buflo_channel_status` -/
def onBufloChannelStatus (s : ClientSideProxy) :
    ChannelStatus → Except CspCheck ClientSideProxy
  | .ready => do
    check (s.reapTimerRunning = false) .reapTimerRunning
    let s : ClientSideProxy :=
      { s with observing := true, state := .ready, reapTimerRunning := true }
    return if s.cspStatusCb then s.log (.statusCb true) else s.startAcceptingClients
  | .closed =>
    let s := s.updateStats.resetToInitial
    return if s.cspStatusCb then s.log (.statusCb false) else s
  | .aDefenseSessionDone => return s.log .aDefenseSessionDone

/-- `buflo_ch_age_sec >= buflo_ch_max_age_sec_`; the difference of the two unsigned times
wraps around. -/
def isOld (s : ClientSideProxy) (c : Chan) (nowMs : ℕ) : Bool :=
  decide (s.bufloChMaxAgeSec * 1000 ≤ (nowMs + 2 ^ 64 - c.establishedTimestampMs) % 2 ^ 64)

/-- The reaper throws the channel away. -/
def reaps (s : ClientSideProxy) (c : Chan) (nowMs : ℕ) : Bool :=
  !(c.isDefenseInProgress || c.hasPendingBytes) && s.isOld c nowMs

/-- `_reap_buflo_channel_timer_fired` -/
def reapBufloChannelTimerFired (s : ClientSideProxy) (nowMs : ℕ) : ClientSideProxy :=
  match s.bufloCh with
  | none => s
  | some c =>
    if s.reaps c nowMs then
      { s with reapTimerRunning := false }.establishTunnelInternal
    else
      s

end ClientSideProxy

/-! ### The events of the proxy -/

/-- The events of the proxy; `sock` is what a new channel's socket does with its peer info. -/
inductive CspEvent
  | establishTunnel (forceReconnect : Bool)
  | establishTunnel2
  | closeAllStreams
  | setAutoStartDefenseSessionOnNextSend
  | stopDefenseSession (rightNow : Bool)
  | onAccepted
  | onClientHandlerDone (objId : ℕ)
  | onConnected (sock : SockRes)
  /-- `onConnectError` and `onConnectTimeout` -/
  | onConnectError
  | onSocksTargetConnectResult (ok : Bool) (sock : SockRes)
  | reapBufloChannelTimerFired (nowMs : ℕ)
  /-- something happens at the channel -/
  | bufloCh (e : Event)
  deriving DecidableEq, Repr

/-- The event is one of the channel's own: all but the calls of its owner. -/
def Event.isOwn : Event → Bool
  | .pumpSpdySend _ | .bufloTimerFired _ _ _ | .socketWritable _ _ | .socketReadable _ _ => true
  | _ => false

/-- spdylay has something to send. -/
def Event.isPump : Event → Bool
  | .pumpSpdySend _ => true
  | _ => false

namespace ClientSideProxy

/-- The entry of the channel's journal is a report. -/
def asReport : Act → Option ChannelStatus
  | .status st => some st
  | _ => none

/-- What the channel reported since it had the journal `before`. -/
def reports (before : List Act) (c : Chan) : List ChannelStatus :=
  (c.journal.drop before.length).filterMap asReport

/-- Handle what a channel reports, one after the other. -/
def handleReports : List ChannelStatus → ClientSideProxy → Except CspCheck ClientSideProxy
  | [], s => return s
  | st :: sts, s => do
    let s ← s.onBufloChannelStatus st
    handleReports sts s

/-- Something happens at the channel, and the proxy is told. -/
def onChannelEvent (s : ClientSideProxy) (e : Event) : Except CspCheck ClientSideProxy :=
  match s.bufloCh with
  | none => throw .notEnabled
  | some c => do
    let c' ← callChannel (c.step e)
    handleReports (reports c.journal c') { s with bufloCh := some c' }

/-- The event can happen.  Streams are opened by the handlers of clients, which are let in
when the channel is ready, and before that spdylay has nothing to send. -/
def Enabled (s : ClientSideProxy) : CspEvent → Prop
  | .onAccepted => s.observing = true ∧ s.accepting = true
  | .onClientHandlerDone objId => objId ∈ s.clientHandlers
  | .onConnected _ | .onConnectError => s.peerChannel = true
  | .onSocksTargetConnectResult _ _ => s.socksConnector = true
  | .reapBufloChannelTimerFired _ => s.reapTimerRunning = true
  | .bufloCh e => e.isOwn = true ∧ (e.isPump = true → s.state = .ready)
  | _ => True

instance (s : ClientSideProxy) (e : CspEvent) : Decidable (s.Enabled e) := by
  unfold Enabled
  cases e <;> infer_instance

/-- What the proxy does in an event that happens. -/
def handle (s : ClientSideProxy) : CspEvent → Except CspCheck ClientSideProxy
  | .establishTunnel forceReconnect => s.establishTunnel forceReconnect
  | .establishTunnel2 => return s.establishTunnelInternal
  | .closeAllStreams => return s.closeAllStreams
  | .setAutoStartDefenseSessionOnNextSend => do
    let (s, ok) ← s.setAutoStartDefenseSessionOnNextSend
    return s.log (.autoStart ok)
  | .stopDefenseSession rightNow => s.stopDefenseSession rightNow
  | .onAccepted => s.onAccepted
  | .onClientHandlerDone objId => return s.onClientHandlerDone objId
  | .onConnected sock => s.onConnected sock
  | .onConnectError => throw .connectError
  | .onSocksTargetConnectResult ok sock => s.onSocksTargetConnectResult ok sock
  | .reapBufloChannelTimerFired nowMs => return s.reapBufloChannelTimerFired nowMs
  | .bufloCh e => s.onChannelEvent e

/-- One step of the proxy. -/
def step (s : ClientSideProxy) (e : CspEvent) : Except CspCheck ClientSideProxy :=
  if s.Enabled e then s.handle e else throw .notEnabled

/-- The steps of the proxy, as a relation. -/
def Step (s : ClientSideProxy) (e : CspEvent) (s' : ClientSideProxy) : Prop := s.step e = .ok s'

/-- A proxy that has just been constructed. -/
structure Initial (s : ClientSideProxy) : Prop where
  state : s.state = .initial
  bufloCh : s.bufloCh = none
  peer : s.peerChannel = false ∧ s.socksConnector = false
  clients : s.clientHandlers = []
  reapTimer : s.reapTimerRunning = false

end ClientSideProxy

end ShadowBrowser
