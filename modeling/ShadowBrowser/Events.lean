/-
The events of a channel.

`step c e` is what the channel does in the event `e`: a call from its owner, a
tick of the buflo timer, or the socket becoming readable or writable.  An event
that cannot happen in the present state (`Enabled` fails) is the error
`notEnabled`; all other errors are failed checks of the code.
-/
import ShadowBrowser.PeerInfo
import ShadowBrowser.Receiving
import ShadowBrowser.Runs

namespace ShadowBrowser

open Checked Runs

/-- What `evbuffer_read` returns: some bytes (none at the end of the stream) or an error. -/
inductive ReadRes
  | bytes (bs : List UInt8)
  | fails (errno : Errno)
  deriving DecidableEq, Repr

/-- The events of a channel; `now` is the time in microseconds. -/
inductive Event
  /-- `create_stream2`, `write_buffer`, `close_stream`, …: all end in the pump -/
  | pumpSpdySend (sends : List (List UInt8))
  | startDefenseSession (now : ℕ)
  | setAutoStartDefenseSessionOnNextSend
  | stopDefenseSession (rightNow : Bool)
  | bufloTimerFired (now : ℕ) (sends : List (List UInt8)) (sock : SockRes)
  | socketWritable (now : ℕ) (sock : SockRes)
  | socketReadable (now : ℕ) (res : ReadRes)
  deriving DecidableEq, Repr

namespace Chan

/-- `_on_socket_readcb` -/
def onSocketReadcb (c : Chan) (now : ℕ) (res : ReadRes) : Except Check Chan :=
  match res with
  -- a read that fails, or the end of what the peer sends
  | .fails errno => c.handleFailedSocketIo (-1) errno true
  | .bytes [] => c.handleFailedSocketIo 0 .other true
  | .bytes bs =>
    -- the first bytes are the peer info, and nothing is read behind it in the same event
    if c.needToReadPeerInfo then
      let c : Chan := { c with peerInfoInbuf := c.peerInfoInbuf ++ bs }
      if c.peerInfoInbuf.length = peerInfoNumBytes then c.readPeerInfo now else return c
    else if c.peerCellSize ≠ 0 then
      let c : Chan := { c with
        cellInbuf := c.cellInbuf ++ bs
        allRecvByteCount := c.allRecvByteCount + bs.length
        journal := c.journal ++ [.received bs] }
      c.readCells now
    else
      -- a peer without cells: the bytes go to spdylay as they are
      let c : Chan := { c with
        spdyInbuf := c.spdyInbuf ++ bs
        allRecvByteCount := c.allRecvByteCount + bs.length
        allUsersDataRecvByteCount := c.allUsersDataRecvByteCount + bs.length
        journal := c.journal ++ [.received bs, .delivered bs] }
      return c.pumpSpdyRecv

/-- `_on_socket_writecb` without cells: `spdy_outbuf_` goes to the socket as it is. -/
def writeSpdyOutbuf (c : Chan) (sock : SockRes) : Except Check Chan := do
  check (0 < c.spdyOutbuf.length) .writeNoBytes
  match sock with
  | .accepts n =>
    let numWritten := min n c.spdyOutbuf.length
    let c' : Chan := { c with
      spdyOutbuf := c.spdyOutbuf.drop numWritten
      allSendByteCount := c.allSendByteCount + numWritten
      allUsersDataSendByteCount := c.allUsersDataSendByteCount + numWritten
      journal := c.journal ++
        [.wrote c.spdyOutbuf.length numWritten (c.spdyOutbuf.take numWritten)] }
    if numWritten = 0 then
      c'.handleFailedSocketIo 0 .other true
    else if numWritten = c.spdyOutbuf.length then
      c'.maybeToggleWriteMonitoring .forceDisable
    else
      return c'
  | .fails errno =>
    (c.log (.wrote c.spdyOutbuf.length (-1) [])).handleFailedSocketIo (-1) errno true

/-- `_on_socket_writecb` -/
def onSocketWritecb (c : Chan) (now : ℕ) (sock : SockRes) : Except Check Chan := do
  check (c.defenseInfo.state ≠ .active) .writeActive
  -- the server's peer info is still to be written
  if c.myPeerInfoOutbuf.isSome then
    let c ← c.writeMyPeerInfoOutbuf sock
    c.maybeToggleWriteMonitoring .forceDisable
  else if c.cellSize ≠ 0 then
    if c.defenseInfo.state = .pendingNextSocketSend then
      -- the defense starts with the cell that has waited for this write
      check (c.cellOutbuf.length = c.cellSize) .writeNotOneCell
      let c : Chan := { c with defenseInfo := { c.defenseInfo with state := .none } }
      let c ← c.startDefenseSession now
      c.sendCellOutbuf sock
    else
      c.sendCellOutbuf sock
  else
    c.writeSpdyOutbuf sock

/-- The event can happen. -/
def Enabled (c : Chan) (e : Event) : Prop :=
  c.closed = false ∧
    match e with
    | .bufloTimerFired _ _ _ => c.timerRunning = true
    | .socketWritable _ _ => c.writeEvEnabled = true
    | .socketReadable _ (.bytes bs) =>
      c.needToReadPeerInfo = true → bs.length + c.peerInfoInbuf.length ≤ peerInfoNumBytes
    | _ => True

instance (c : Chan) (e : Event) : Decidable (c.Enabled e) := by
  unfold Enabled
  cases e <;> try infer_instance
  case socketReadable now res => cases res <;> infer_instance

/-- What the channel does in an event that happens. -/
def handle (c : Chan) : Event → Except Check Chan
  | .pumpSpdySend sends => c.pumpSpdySend sends
  | .startDefenseSession now => c.startDefenseSession now
  | .setAutoStartDefenseSessionOnNextSend => c.setAutoStartDefenseSessionOnNextSend
  | .stopDefenseSession rightNow => c.stopDefenseSession rightNow
  | .bufloTimerFired now sends sock => c.bufloTimerFired now sends sock
  | .socketWritable now sock => c.onSocketWritecb now sock
  | .socketReadable now res => c.onSocketReadcb now res

/-- One step of a channel. -/
def step (c : Chan) (e : Event) : Except Check Chan :=
  if c.Enabled e then c.handle e else throw .notEnabled

/-- The steps of a channel, as a relation. -/
def Step (c : Chan) (e : Event) (c' : Chan) : Prop := c.step e = .ok c'

/-! ### After the handshake -/

/-- A cell-mode channel whose peer-info exchange is over and that has not been used yet. -/
structure Established (c : Chan) : Prop where
  config : c.cellSize = 750 ∧ 0 < c.tamarawL ∧ 0 < c.tamarawPktIntvlMs
  peerInfo : c.needToReadPeerInfo = false ∧ c.myPeerInfoOutbuf = none
  defense : c.defenseInfo = {}
  buffers : c.spdyInbuf = [] ∧ c.spdyOutbuf = [] ∧ c.cellInbuf = [] ∧ c.cellOutbuf = []
  cells : c.wholeDummyCellAtEndOutbuf = false ∧ c.frontCellSentProgress = 0 ∧
    c.outputCellsDataBytesInfo = [] ∧ c.cellReadInfo = {}
  counters : c.allSendByteCount = 0 ∧ c.allUsersDataSendByteCount = 0 ∧
    c.dummySendCellCount = 0
  events : c.writeEvEnabled = false ∧ c.timerRunning = false ∧ c.closed = false
  unused : c.journal = [.status .ready]

/-- The states a cell-mode channel can be in after the handshake. -/
def Reachable (c : Chan) : Prop := ∃ c₀ es, Established c₀ ∧ Run Step c₀ es c

/-- One more step from a reachable state. -/
theorem Reachable.snoc {c c' : Chan} {e : Event} (h : Reachable c) (hstep : Step c e c') :
    Reachable c' := by
  obtain ⟨c₀, es, hest, hrun⟩ := h
  exact ⟨c₀, es ++ [e], hest, hrun.snoc hstep⟩

/-- One end of a tunnel, right after the handshake between two ends that use cells of 750
bytes, `L = 50`, a packet interval of 20 ms and a time limit of 60 s. -/
def fresh (isClientSide : Bool) : Chan where
  isClientSide := isClientSide
  cellSize := 750
  tamarawPktIntvlMs := 20
  peerTamarawPktIntvlMs := 20
  tamarawL := 50
  defenseSessionTimeLimit := 60
  peerCellSize := 750
  needToReadPeerInfo := false
  journal := [.status .ready]

theorem fresh_established (isClientSide : Bool) : Established (fresh isClientSide) := by
  constructor <;> simp [fresh]

/-- Executing events leads to reachable states. -/
theorem exec_reachable {c c' : Chan} {es : List Event} (hest : Established c)
    (h : exec step c es = .ok c') : Reachable c' := ⟨c, es, hest, run_of_exec h⟩

end Chan

end ShadowBrowser
