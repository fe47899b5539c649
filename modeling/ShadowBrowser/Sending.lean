/-
The sending side of a channel: from spdylay's bytes to the socket.

`_pump_spdy_send` puts the bytes of `spdy_outbuf_` in cells according to the
defense state, `_send_cell_outbuf` offers the bytes of `cell_outbuf_` to the
socket, and the functions between them keep the dummy cell at the end of the
buffer, the flags of the next cell, and the progress of the cells being written.
-/
import ShadowBrowser.Channel

namespace ShadowBrowser

open Checked

/-- What the socket does with a write: take a prefix of what is offered (nothing, if
`n = 0`), or fail. -/
inductive SockRes
  | accepts (n : ℕ)
  | fails (errno : Errno)
  deriving DecidableEq, Repr

/-- `errno` after the write; it is looked at only when the write failed. -/
def SockRes.errno : SockRes → Errno
  | .accepts _ => .other
  | .fails e => e

namespace Chan

/-- `_maybe_toggle_write_monitoring` -/
def maybeToggleWriteMonitoring (c : Chan) (forcemode : ForceToggleMode) :
    Except Check Chan := do
  check (c.defenseInfo.state ≠ .active ∨ forcemode = .forceDisable) .toggleActive
  return { c with
    writeEvEnabled := match forcemode with
      | .forceEnable => true
      | .forceDisable => false
      | .none => decide (0 < (if c.cellSize ≠ 0 then c.cellOutbuf else c.spdyOutbuf).length) }

/-- `_on_socket_eof` and `_on_socket_error` -/
def onSocketClosed (c : Chan) : Chan := { c.chStatusCb .closed with closed := true }

/-- `_handle_failed_socket_io` -/
def handleFailedSocketIo (c : Chan) (rv : ℤ) (errno : Errno) (crashIfEINPROGRESS : Bool) :
    Except Check Chan :=
  if rv = 0 then
    return c.onSocketClosed
  else
    match errno with
    | .eagain => return c
    | .einprogress => do
      check (crashIfEINPROGRESS = false) .einprogress
      return c
    | .other => return c.onSocketClosed

/-! ### Flags of the next cell -/

/-- One block of `_maybe_set_cell_flags`: a needed flag is checked, set in the byte and
no longer needed.  The last component tells whether any flag was set. -/
def attachFlag (f : Flag) (checks : Chan → Except Check Unit) (x : Chan × UInt8 × Bool) :
    Except Check (Chan × UInt8 × Bool) :=
  if x.1.defenseInfo.needs f then do
    checks x.1
    return ({ x.1 with defenseInfo := x.1.defenseInfo.clear f }, setCellFlag x.2.1 f, true)
  else
    return x

/-- The checks before a START flag is set. -/
def checkStartFlag (c : Chan) : Except Check Unit := do
  check (c.defenseInfo.state = .pendingNextSocketSend ∨
    (c.defenseInfo.state = .active ∧ c.defenseInfo.stopRequested = false)) .flagsStartState
  check (c.isClientSide = true) .flagsStartNotClient

/-- `_maybe_set_cell_flags` -/
def maybeSetCellFlags (c : Chan) (typeNFlags : UInt8) :
    Except Check (Chan × UInt8 × Bool) := do
  let x ← attachFlag .start checkStartFlag (c, typeNFlags, false)
  let x ← attachFlag .stop (fun _ => return ()) x
  let x ← attachFlag .autoStopped
    (fun c => check (c.isClientSide = false) .flagsAutoStoppedClient) x
  let x ← attachFlag .done (fun c => check (c.isClientSide = false) .flagsDoneClient) x
  if x.1.defenseInfo.state = .active ∨ x.1.defenseInfo.state = .pendingNextSocketSend then
    return (x.1, setCellFlag x.2.1 .defensive, x.2.2)
  else
    return x

/-! ### Adding and dropping cells -/

/-- `_maybe_drop_whole_dummy_cell_at_end_outbuf` -/
def maybeDropWholeDummyCellAtEndOutbuf (c : Chan) (doCount : Bool) :
    Except Check (Chan × Bool) :=
  if c.wholeDummyCellAtEndOutbuf then do
    check (c.cellSize ≤ c.cellOutbuf.length) .dropLessThanACell
    check (c.outputCellsDataBytesInfo.getLast? = some 0) .dropInfo
    return ({ c with
      cellOutbuf := c.cellOutbuf.take (c.cellOutbuf.length - c.cellSize)
      wholeDummyCellAtEndOutbuf := false
      outputCellsDataBytesInfo := c.outputCellsDataBytesInfo.dropLast
      numDummyCellsAvoided := c.numDummyCellsAvoided + if doCount then 1 else 0
      journal := c.journal ++ [.dummyDropped] }, true)
  else
    return (c, false)

/-- `payload_len` of the next data cell -/
def payloadLen (c : Chan) : ℕ := min c.cellBodySize c.spdyOutbuf.length

/-- `_maybe_add_ONE_data_cell_to_outbuf` -/
def maybeAddONEDataCellToOutbuf (c : Chan) : Except Check (Chan × Bool) :=
  if c.payloadLen = 0 then
    return (c, false)
  else do
    let payloadLen := c.payloadLen
    -- a whole dummy cell at the end gives way to the data
    let (c, _) ← c.maybeDropWholeDummyCellAtEndOutbuf true
    check (c.wholeDummyCellAtEndOutbuf = false) .addDataDummyAtEnd
    let (c, typeNFlags, _) ← c.maybeSetCellFlags (setCellType 0 CellType.data)
    let k : Cell := ⟨typeNFlags, c.spdyOutbuf.take payloadLen⟩
    let c : Chan := { c with
      cellOutbuf := c.cellOutbuf ++ k.encode c.cellSize
      spdyOutbuf := c.spdyOutbuf.drop payloadLen
      journal := c.journal ++ [.cellAdded k] }
    let c : Chan := { c with
      defenseInfo := { c.defenseInfo with
        numDataCellsAdded := c.defenseInfo.numDataCellsAdded
          + if c.defenseInfo.state = .pendingNextSocketSend then 1 else 0 } }
    -- in a pending session exactly one cell may wait for the socket
    check (c.defenseInfo.state = .pendingNextSocketSend →
      c.defenseInfo.numDataCellsAdded = 1) .addDataNotFirst
    return ({ c with outputCellsDataBytesInfo := c.outputCellsDataBytesInfo ++ [payloadLen] },
      true)

/-- `_add_ONE_dummy_cell_to_outbuf` -/
def addONEDummyCellToOutbuf (c : Chan) : Except Check Chan := do
  check (c.wholeDummyCellAtEndOutbuf = false) .addDummyDummyAtEnd
  let (c, typeNFlags, didSetImportantFlags) ←
    c.maybeSetCellFlags (setCellType 0 CellType.dummy)
  let k : Cell := ⟨typeNFlags, []⟩
  return { c with
    cellOutbuf := c.cellOutbuf ++ k.encode c.cellSize
    wholeDummyCellAtEndOutbuf := !didSetImportantFlags
    outputCellsDataBytesInfo := c.outputCellsDataBytesInfo ++ [0]
    journal := c.journal ++ [.cellAdded k] }

/-- `_ensure_a_whole_dummy_cell_at_end_outbuf` -/
def ensureAWholeDummyCellAtEndOutbuf (c : Chan) : Except Check Chan := do
  check (c.defenseInfo.state = .active) .ensureNotActive
  if c.wholeDummyCellAtEndOutbuf then
    return c
  else
    check (c.cellOutbuf.length < c.cellSize) .ensureMoreThanACell
    c.addONEDummyCellToOutbuf

/-- The loop of `_maybe_flush_data_to_cell_outbuf`: each turn takes at least one byte out
of `spdy_outbuf_`, so that its length is fuel enough. -/
def flushLoop : ℕ → Chan → Except Check Chan
  | 0, c => return c
  | fuel + 1, c =>
    if c.spdyOutbuf.length = 0 then
      return c
    else do
      let (c, added) ← c.maybeAddONEDataCellToOutbuf
      check (added = true) .flushNotAdded
      flushLoop fuel c

/-- `_maybe_flush_data_to_cell_outbuf` -/
def maybeFlushDataToCellOutbuf (c : Chan) : Except Check Chan := do
  check (c.defenseInfo.state = .none) .flushNotNone
  flushLoop c.spdyOutbuf.length c

/-- `_on_spdylay_send_cb` -/
def onSpdylaySendCb (c : Chan) (data : List UInt8) : Chan :=
  { c with spdyOutbuf := c.spdyOutbuf ++ data, journal := c.journal ++ [.spdySent data] }

/-- `_pump_spdy_send`.  `spdylay_session_send` calls the send callback with each element
of `sends`; no other function of spdylay calls it. -/
def pumpSpdySend (c : Chan) (sends : List (List UInt8)) : Except Check Chan :=
  let c := sends.foldl onSpdylaySendCb c
  if c.cellSize = 0 then
    c.maybeToggleWriteMonitoring .none
  else
    match c.defenseInfo.state with
    -- outside a session the cells go out when the socket can take them
    | .none => do
      let c ← c.maybeFlushDataToCellOutbuf
      if 0 < c.cellOutbuf.length then
        c.maybeToggleWriteMonitoring .forceEnable
      else
        return c
    | .pendingNextSocketSend => do
      let (c, added) ← c.maybeAddONEDataCellToOutbuf
      check (added = true) .pumpNotOneCell
      c.maybeToggleWriteMonitoring .forceEnable
    -- in a session the timer sends, a cell at each tick
    | .active => return c

/-! ### Writing to the socket -/

/-- One turn of the loop of `_update_output_cell_progress`; returns what is left of
`num_written`. -/
def progressStep (c : Chan) (numWritten : ℕ) : Except Check (Chan × ℕ) := do
  let newProgress := min (c.frontCellSentProgress + numWritten) c.cellSize
  check (c.frontCellSentProgress < newProgress) .progressStuck
  let numWritten := numWritten - (newProgress - c.frontCellSentProgress)
  if newProgress = c.cellSize then
    match c.outputCellsDataBytesInfo with
    | [] => throw .progressInfo
    | n :: rest =>
      return ({ c with
        frontCellSentProgress := 0
        outputCellsDataBytesInfo := rest
        allUsersDataSendByteCount := c.allUsersDataSendByteCount + n
        -- a cell without data bytes is a dummy
        dummySendCellCount := c.dummySendCellCount + if 0 < n then 0 else 1 }, numWritten)
  else do
    check (numWritten = 0) .progressLeftOver
    return ({ c with frontCellSentProgress := newProgress }, numWritten)

/-- The loop of `_update_output_cell_progress`; each turn accounts for at least one byte. -/
def progressLoop : ℕ → Chan → ℕ → Except Check Chan
  | 0, c, _ => return c
  | fuel + 1, c, numWritten =>
    if numWritten = 0 then
      return c
    else do
      let (c, numWritten) ← c.progressStep numWritten
      progressLoop fuel c numWritten

/-- `_update_output_cell_progress` -/
def updateOutputCellProgress (c : Chan) (numWritten : ℕ) : Except Check Chan :=
  progressLoop numWritten c numWritten

/-- `evbuffer_write_atmost(cell_outbuf_, fd_, howmuch)` -/
def evbufferWriteAtmost (c : Chan) (howmuch : ℕ) (sock : SockRes) : Chan × ℤ :=
  match sock with
  | .accepts n =>
    let numWritten := min n (min howmuch c.cellOutbuf.length)
    ({ c with
      cellOutbuf := c.cellOutbuf.drop numWritten
      journal := c.journal ++ [.wrote howmuch numWritten (c.cellOutbuf.take numWritten)] },
      numWritten)
  | .fails _ => (c.log (.wrote howmuch (-1) []), -1)

/-- The end of `_send_cell_outbuf`, after an attempt to write. -/
def accountWrite (c : Chan) (numWritten : ℤ) (sock : SockRes) : Except Check Chan :=
  if 0 < numWritten then
    { c with allSendByteCount := c.allSendByteCount + numWritten.toNat }
      |>.updateOutputCellProgress numWritten.toNat
  else
    c.handleFailedSocketIo numWritten sock.errno false

/-- `_send_cell_outbuf`, while the defense is active: offer one cell's worth of bytes. -/
def sendWhileActive (c : Chan) (sock : SockRes) : Except Check Chan := do
  check (c.cellSize ≤ c.cellOutbuf.length) .sendLessThanACell
  let (c, numWritten) := c.evbufferWriteAtmost c.cellSize sock
  let c : Chan := { c with
    defenseInfo := { c.defenseInfo with
      numWriteAttempts := c.defenseInfo.numWriteAttempts + 1 }
    -- less than a cell remains, so no whole dummy cell does
    wholeDummyCellAtEndOutbuf :=
      if c.cellOutbuf.length < c.cellSize then false else c.wholeDummyCellAtEndOutbuf }
  c.accountWrite numWritten sock

/-- `amnt_to_write`: everything but a whole dummy cell at the end. -/
def amntToWrite (c : Chan) : ℕ :=
  if c.wholeDummyCellAtEndOutbuf then c.cellOutbuf.length - c.cellSize
  else c.cellOutbuf.length

/-- `_send_cell_outbuf`, while the defense is not active. -/
def sendWhileNotActive (c : Chan) (sock : SockRes) : Except Check Chan :=
  if 0 < c.amntToWrite then do
    let amntToWrite := c.amntToWrite
    let (c, numWritten) := c.evbufferWriteAtmost amntToWrite sock
    -- all but the dummy cell has been taken, so nothing is left to be written
    let c ← c.maybeToggleWriteMonitoring
      (if numWritten = amntToWrite ∧ c.wholeDummyCellAtEndOutbuf then .forceDisable else .none)
    let (c, _) ← c.maybeDropWholeDummyCellAtEndOutbuf true
    check (c.wholeDummyCellAtEndOutbuf = false) .sendDummyLeft
    c.accountWrite numWritten sock
  else do
    -- nothing but a whole dummy cell is queued, and it is not written outside a session
    check (c.wholeDummyCellAtEndOutbuf = true) .sendNoDummy
    let c ← c.maybeToggleWriteMonitoring .forceDisable
    let (c, _) ← c.maybeDropWholeDummyCellAtEndOutbuf true
    check (c.wholeDummyCellAtEndOutbuf = false) .sendDummyLeft
    return c

/-- `_send_cell_outbuf` -/
def sendCellOutbuf (c : Chan) (sock : SockRes) : Except Check Chan := do
  check (0 < c.cellSize) .sendNotCells
  if c.defenseInfo.state = .active then
    c.sendWhileActive sock
  else
    c.sendWhileNotActive sock

end Chan

end ShadowBrowser
