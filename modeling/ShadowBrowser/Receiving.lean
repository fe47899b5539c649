/-
The receiving side of a channel: from the socket's bytes to spdylay.

`_read_cells` takes one cell after the other off `cell_inbuf_`, in two phases: the
header as soon as its three bytes are there, the rest once a whole cell is.
-/
import ShadowBrowser.Defense

namespace ShadowBrowser

open Checked

namespace Chan

/-- `_pump_spdy_recv`: spdylay's receive callback empties `spdy_inbuf_`. -/
def pumpSpdyRecv (c : Chan) : Chan := { c with spdyInbuf := [] }

/-- `evbuffer_pullup(cell_inbuf_, size)`; null if there are fewer bytes. -/
def pullup (c : Chan) (size : ℕ) : Option (List UInt8) :=
  if size ≤ c.cellInbuf.length then some (c.cellInbuf.take size) else none

/-- What `_handle_input_cell` does about an AUTO_STOPPED flag. -/
def handleAutoStopped (c : Chan) : Except Check Chan := do
  check (c.isClientSide = true) .cellAutoStoppedNotClient
  if c.defenseInfo.state = .active ∧ c.defenseInfo.stopRequested = false then
    check (c.defenseInfo.needStartFlagInNextCell = false) .cellAutoStoppedNeedStart
    return c.raiseFlag .start
  else
    return c

/-- What `_handle_input_cell` does about a START flag. -/
def handleStart (c : Chan) (now : ℕ) : Except Check Chan := do
  check (c.isClientSide = false) .cellStartClient
  c.startDefenseSession now

/-- What `_handle_input_cell` does about a STOP flag. -/
def handleStop (c : Chan) : Except Check Chan := do
  check (c.isClientSide = false) .cellStopClient
  c.stopDefenseSession false

/-- What `_handle_input_cell` does about a DONE flag. -/
def handleDone (c : Chan) : Except Check Chan := do
  check (c.isClientSide = true) .cellDoneNotClient
  return { c with defenseInfo := { c.defenseInfo with doneDefendingRecv := true } }
    |>.checkNotifyADefenseSessionDone

/-- The flags of a cell, except DONE, which comes after the data. -/
def handleFlags (c : Chan) (now : ℕ) (flags : UInt8) : Except Check Chan :=
  if flags = 0 then
    return c
  else do
    let c ← doIf (testFlag flags .autoStopped) handleAutoStopped c
    check (¬ (testFlag flags .start ∧ testFlag flags .stop)) .cellStartAndStop
    let c ← doIf (testFlag flags .start) (handleStart · now) c
    let c ← doIf (testFlag flags .stop) handleStop c
    return { c with
      defenseInfo := { c.defenseInfo with
        numCellsRecv := c.defenseInfo.numCellsRecv
          + if testFlag flags .defensive then 1 else 0 } }

/-- The body of a cell; `ptr` points to its header and payload. -/
def handleData (c : Chan) (cellType : UInt8) (payloadLen : ℕ) (ptr : Option (List UInt8)) :
    Except Check Chan :=
  if cellType = CellType.data then
    match ptr with
    | none => throw .cellPullup
    | some bs =>
      let payload := bs.drop cellHeaderSize
      let c : Chan := { c with
        spdyInbuf := c.spdyInbuf ++ payload
        allUsersDataRecvByteCount := c.allUsersDataRecvByteCount + payloadLen
        journal := c.journal ++ [.delivered payload] }
      return c.pumpSpdyRecv
  else if cellType = CellType.dummy then
    return { c with dummyRecvCellCount := c.dummyRecvCellCount + 1 }
  -- control cells are still to be done
  else if cellType = CellType.control then
    throw .cellControl
  else
    throw .cellType

/-- `_handle_input_cell` -/
def handleInputCell (c : Chan) (now : ℕ) : Except Check Chan := do
  let payloadLen := c.cellReadInfo.payloadLen
  let flags := c.cellReadInfo.cellFlags
  let cellType := c.cellReadInfo.cellType
  check (payloadLen ≤ c.peerCellSize) .cellPayloadLen
  let ptr := c.pullup (cellHeaderSize + payloadLen)
  let c := c.log (.cellHandled (c.cellInbuf.take c.peerCellSize))
  let c ← c.handleFlags now flags
  let c ← c.handleData cellType payloadLen ptr
  -- `DONE` is handled last, behind the data of its cell
  let c ← doIf (testFlag flags .done) handleDone c
  return { c with cellInbuf := c.cellInbuf.drop c.peerCellSize }

/-- The loop of `_read_cells`.  Two turns take a cell of at least one byte off the buffer,
so that twice its length and two more are fuel enough (`readLoop_fuel`). -/
def readLoop (now : ℕ) : ℕ → Chan → Except Check Chan
  | 0, c => return c
  | fuel + 1, c =>
    match c.cellReadInfo.state with
    | .readHeader =>
      if cellHeaderSize ≤ c.cellInbuf.length then
        readLoop now fuel { c with cellReadInfo := CellReadInfo.parse c.cellInbuf }
      else
        return c
    | .readBody =>
      if c.peerCellSize ≤ c.cellInbuf.length then do
        let c ← c.handleInputCell now
        readLoop now fuel { c with cellReadInfo := {} }
      else
        return c

/-- `_read_cells` -/
def readCells (c : Chan) (now : ℕ) : Except Check Chan := do
  check (0 < c.peerCellSize) .cellNotCells
  readLoop now (2 * c.cellInbuf.length + 2) c

end Chan

end ShadowBrowser
