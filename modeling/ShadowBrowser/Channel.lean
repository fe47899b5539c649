/-
The state of a buflo channel (`BufloMuxChannelImplSpdy`).

`Chan` is the channel object: its configuration, the defense bookkeeping
(`DefenseInfo`), the buffers between spdylay and the socket, the counters, and
what libevent knows about it (is the write event enabled, is the buflo timer
running).

The field `journal` is a history variable: the functions append to it what they
do and none reads it.
-/
import ShadowBrowser.Journal
import ShadowBrowser.Checked

namespace ShadowBrowser

open Checked

/-! ### Names -/

/-- `DefenseState` -/
inductive DefenseState
  | none
  | pendingNextSocketSend
  | active
  deriving DecidableEq, Repr

/-- `ForceToggleMode` -/
inductive ForceToggleMode
  | none
  | forceEnable
  | forceDisable
  deriving DecidableEq, Repr

/-- The values of `errno` that `_handle_failed_socket_io` tells apart. -/
inductive Errno
  | eagain
  | einprogress
  | other
  deriving DecidableEq, Repr

/-- The run-time checks of the channel (`CHECK`, `LOG(FATAL)` and reads through a null
pointer), by the function and the condition.  `notEnabled` is none of the code's: it
marks an event that the environment cannot cause in the present state. -/
inductive Check
  | notEnabled
  | ctorCellSize | ctorTimeLimit | ctorL | ctorPktIntvl | ctorBothZero
  | ctorPeerPktIntvl | ctorAllOrNone
  | startNotNone | startPktIntvl | startL | startTimerRunning
  | autoNotNone | autoNotClient | autoSpdyOutbuf | autoCellOutbuf | autoNeedStart
  | stopRequestedTwice | stopRightNow
  | timerNotActive | timerTimeLimit | timerDummyAtEnd | timerNeedStop | timerNeedDone
  | timerNeedAutoStopped | timerLessThanACell
  | pumpNotOneCell | flushNotNone | flushNotAdded
  | flagsStartState | flagsStartNotClient | flagsAutoStoppedClient | flagsDoneClient
  | addDataDummyAtEnd | addDataNotFirst | addDummyDummyAtEnd
  | ensureNotActive | ensureMoreThanACell
  | dropLessThanACell | dropInfo
  | progressStuck | progressInfo | progressLeftOver
  | sendNotCells | sendLessThanACell | sendNoDummy | sendDummyLeft | toggleActive
  | einprogress
  | cellNotCells | cellPayloadLen | cellPullup | cellAutoStoppedNotClient
  | cellAutoStoppedNeedStart | cellStartAndStop | cellStartClient | cellStopClient
  | cellControl | cellType | cellDoneNotClient
  | writeActive | writeNotOneCell | writeNoBytes | writePeerInfo
  | peerInfoVersion | peerInfoClientL | peerInfoL | peerInfoClientPktIntvl
  | peerInfoPktIntvl
  deriving DecidableEq, Repr

/-! ### The channel object -/

/-- `defense_info_` -/
structure DefenseInfo where
  state : DefenseState := .none
  numDataCellsAdded : ℕ := 0
  numWriteAttempts : ℕ := 0
  /-- in microseconds -/
  autoStopTimePoint : ℕ := 0
  stopRequested : Bool := false
  needStartFlagInNextCell : Bool := false
  needStopFlagInNextCell : Bool := false
  needDoneFlagInNextCell : Bool := false
  needAutoStoppedFlagInNextCell : Bool := false
  doneDefendingRecv : Bool := true
  numCellsRecv : ℕ := 0
  savedNumWriteAttempts : ℕ := 0
  deriving DecidableEq, Repr

/-- The flag is waiting for the next cell. -/
def DefenseInfo.needs (d : DefenseInfo) : Flag → Bool
  | .start => d.needStartFlagInNextCell
  | .stop => d.needStopFlagInNextCell
  | .autoStopped => d.needAutoStoppedFlagInNextCell
  | .done => d.needDoneFlagInNextCell
  | .defensive => false

/-- Set the flag's field. -/
def DefenseInfo.need (d : DefenseInfo) : Flag → DefenseInfo
  | .start => { d with needStartFlagInNextCell := true }
  | .stop => { d with needStopFlagInNextCell := true }
  | .autoStopped => { d with needAutoStoppedFlagInNextCell := true }
  | .done => { d with needDoneFlagInNextCell := true }
  | .defensive => d

/-- Clear the flag's field. -/
def DefenseInfo.clear (d : DefenseInfo) : Flag → DefenseInfo
  | .start => { d with needStartFlagInNextCell := false }
  | .stop => { d with needStopFlagInNextCell := false }
  | .autoStopped => { d with needAutoStoppedFlagInNextCell := false }
  | .done => { d with needDoneFlagInNextCell := false }
  | .defensive => d

/-- `reset()`; the last three fields are not touched. -/
def DefenseInfo.reset (d : DefenseInfo) : DefenseInfo :=
  { d with
    state := .none
    numDataCellsAdded := 0
    numWriteAttempts := 0
    stopRequested := false
    needStartFlagInNextCell := false
    needStopFlagInNextCell := false
    needDoneFlagInNextCell := false
    needAutoStoppedFlagInNextCell := false
    autoStopTimePoint := 0 }

/-- `BufloMuxChannelImplSpdy`.  Times are in microseconds unless the name says otherwise. -/
structure Chan where
  isClientSide : Bool
  cellSize : ℕ
  tamarawPktIntvlMs : ℕ
  peerTamarawPktIntvlMs : ℕ
  tamarawL : ℕ
  defenseSessionTimeLimit : ℕ
  objId : ℕ := 0
  myaddr : ℕ := 0
  peeraddr : List UInt8 := []
  peerCellSize : ℕ := 0
  defenseInfo : DefenseInfo := {}
  wholeDummyCellAtEndOutbuf : Bool := false
  numDummyCellsAvoided : ℕ := 0
  spdyInbuf : List UInt8 := []
  spdyOutbuf : List UInt8 := []
  peerInfoInbuf : List UInt8 := []
  /-- `none` once it has been written and freed -/
  myPeerInfoOutbuf : Option (List UInt8) := none
  cellInbuf : List UInt8 := []
  cellOutbuf : List UInt8 := []
  cellReadInfo : CellReadInfo := {}
  needToReadPeerInfo : Bool := true
  allRecvByteCount : ℕ := 0
  allUsersDataRecvByteCount : ℕ := 0
  dummyRecvCellCount : ℕ := 0
  frontCellSentProgress : ℕ := 0
  outputCellsDataBytesInfo : List ℕ := []
  allSendByteCount : ℕ := 0
  allUsersDataSendByteCount : ℕ := 0
  dummySendCellCount : ℕ := 0
  establishedTimestampMs : ℕ := 0
  /-- libevent monitors the socket for writing (`socket_write_ev_`) -/
  writeEvEnabled : Bool := false
  /-- `buflo_timer_->is_running()` -/
  timerRunning : Bool := false
  /-- the owner was told `CLOSED`, after which it destroys the channel -/
  closed : Bool := false
  journal : List Act := []
  deriving DecidableEq, Repr

namespace Chan

/-- `cell_body_size_` -/
def cellBodySize (c : Chan) : ℕ := c.cellSize - cellHeaderSize

/-- Append an entry to the journal. -/
def log (c : Chan) (a : Act) : Chan := { c with journal := c.journal ++ [a] }

/-- Set one of the `need_…_flag_in_next_cell` fields. -/
def raiseFlag (c : Chan) (f : Flag) : Chan :=
  { c with
    defenseInfo := c.defenseInfo.need f
    journal := c.journal ++ [.flagRaised f] }

/-- Replace `defense_info_` by one in which some flags are no longer needed. -/
def putDefenseInfo (c : Chan) (d : DefenseInfo) : Chan :=
  { c with
    defenseInfo := d
    journal := c.journal ++
      (controlFlags.filter fun f => c.defenseInfo.needs f && !d.needs f).map .flagCancelled }

/-- Call `ch_status_cb_`. -/
def chStatusCb (c : Chan) (s : ChannelStatus) : Chan := c.log (.status s)

end Chan

end ShadowBrowser
