/-
Defense sessions: how a channel starts, times and ends one.

A session is started at once (`startDefenseSession`, which is how the server side
answers a START cell), or armed to start with the next write (`set_auto_start…`,
client side only).  While it lasts, the buflo timer does all the writing.  It ends
on the first tick after a stop request at which the number of write attempts is a
multiple of L, or, on the server side, at the time limit.
-/
import ShadowBrowser.Sending

namespace ShadowBrowser

open Checked

namespace Chan

/-- `start_defense_session`; `now` is what `gettimeofday` returns. -/
def startDefenseSession (c : Chan) (now : ℕ) : Except Check Chan := do
  check (c.defenseInfo.state = .none) .startNotNone
  check (0 < c.tamarawPktIntvlMs) .startPktIntvl
  check (0 < c.tamarawL) .startL
  check (c.timerRunning = false) .startTimerRunning
  let c : Chan := { c with
    timerRunning := true
    defenseInfo := { c.defenseInfo with
      autoStopTimePoint := now + c.defenseSessionTimeLimit * 1000000
      state := .active
      doneDefendingRecv := false }
    journal := c.journal ++ [.defenseBegun] }
  c.maybeToggleWriteMonitoring .forceDisable

/-- `set_auto_start_defense_session_on_next_send` -/
def setAutoStartDefenseSessionOnNextSend (c : Chan) : Except Check Chan := do
  check (c.defenseInfo.state = .none) .autoNotNone
  check (c.isClientSide = true) .autoNotClient
  check (c.spdyOutbuf.length = 0) .autoSpdyOutbuf
  check (c.cellOutbuf.length = 0) .autoCellOutbuf
  check (c.defenseInfo.needStartFlagInNextCell = false) .autoNeedStart
  let c : Chan := { c with
    defenseInfo := { c.defenseInfo with state := .pendingNextSocketSend }
    journal := c.journal ++ [.armed] }
  return c.raiseFlag .start

/-- `stop_defense_session` -/
def stopDefenseSession (c : Chan) (rightNow : Bool) : Except Check Chan :=
  if c.defenseInfo.state ≠ .active then
    return (c.log .stopCalled).putDefenseInfo c.defenseInfo.reset
  else if rightNow = false then do
    -- request_stop()
    check (c.defenseInfo.stopRequested = false) .stopRequestedTwice
    let c := (c.log .stopCalled).putDefenseInfo { c.defenseInfo with
      stopRequested := true
      needStartFlagInNextCell := false }
    return if c.isClientSide then c.raiseFlag .stop else c
  else
    throw .stopRightNow

/-- `_check_notify_a_defense_session_done` -/
def checkNotifyADefenseSessionDone (c : Chan) : Chan :=
  if c.defenseInfo.state = .none ∧ c.defenseInfo.doneDefendingRecv then
    { c with
      defenseInfo := { c.defenseInfo with numCellsRecv := 0, savedNumWriteAttempts := 0 } }
      |>.chStatusCb .aDefenseSessionDone
  else
    c

/-- `is_defense_in_progress` -/
def isDefenseInProgress (c : Chan) : Bool :=
  decide (c.defenseInfo.state = .active) || !c.defenseInfo.doneDefendingRecv

/-- `has_pending_bytes` -/
def hasPendingBytes (c : Chan) : Bool :=
  !(decide (c.spdyInbuf.length = 0) && decide (c.spdyOutbuf.length = 0) &&
    decide (c.cellInbuf.length = 0) && decide (c.cellOutbuf.length = 0))

/-! ### The buflo timer -/

/-- In `_buflo_timer_fired`: a flag that could not piggyback on any cell gets a dummy cell
of its own. -/
def addCellForFlag (c : Chan) (stillNeeded : Bool) : Except Check Chan :=
  if stillNeeded then do
    let (c, _) ← c.maybeDropWholeDummyCellAtEndOutbuf false
    check (c.wholeDummyCellAtEndOutbuf = false) .timerDummyAtEnd
    let c ← c.addONEDummyCellToOutbuf
    c.maybeToggleWriteMonitoring .forceEnable
  else
    return c

/-- `is_done_defending_send` -/
def isDoneDefendingSend (c : Chan) : Bool :=
  c.defenseInfo.stopRequested && c.defenseInfo.numWriteAttempts % c.tamarawL == 0

/-- The bookkeeping at the end of a session: `reset()` with `need_stop_flag_in_next_cell`
as given, after the timer was cancelled. -/
def endDefense (c : Chan) (needStop : Bool) : Chan :=
  { c with
    defenseInfo := { c.defenseInfo with
      savedNumWriteAttempts := c.defenseInfo.numWriteAttempts }
    timerRunning := false }
    |>.putDefenseInfo { c.defenseInfo.reset with
      savedNumWriteAttempts := c.defenseInfo.numWriteAttempts
      needStopFlagInNextCell := needStop }
    |>.log .defenseEnded

/-- `_buflo_timer_fired`, when the session is over by request. -/
def finishDefense (c : Chan) (sends : List (List UInt8)) : Except Check Chan := do
  let c := c.endDefense c.defenseInfo.needStopFlagInNextCell
  let c := if c.isClientSide then c else c.raiseFlag .done
  let c ← c.pumpSpdySend sends
  let c ← c.addCellForFlag
    (c.defenseInfo.needStopFlagInNextCell || c.defenseInfo.needDoneFlagInNextCell)
  check (c.defenseInfo.needStopFlagInNextCell = false) .timerNeedStop
  check (c.defenseInfo.needDoneFlagInNextCell = false) .timerNeedDone
  return c.checkNotifyADefenseSessionDone

/-- `_buflo_timer_fired`, when the server side exceeds the time limit. -/
def autoStopDefense (c : Chan) (sends : List (List UInt8)) : Except Check Chan := do
  let c := (c.endDefense false).raiseFlag .autoStopped
  let c ← c.pumpSpdySend sends
  let c ← c.addCellForFlag c.defenseInfo.needAutoStoppedFlagInNextCell
  check (c.defenseInfo.needAutoStoppedFlagInNextCell = false) .timerNeedAutoStopped
  return c

/-- `_buflo_timer_fired`, when the defense is still on-going. -/
def defendOneTick (c : Chan) (sock : SockRes) : Except Check Chan :=
  if c.cellSize ≤ c.cellOutbuf.length then
    { c with
      numDummyCellsAvoided :=
        c.numDummyCellsAvoided + if c.spdyOutbuf.length = 0 then 1 else 0 }
      |>.sendCellOutbuf sock
  else do
    let (c, added) ← c.maybeAddONEDataCellToOutbuf
    let c ← doIf (!added) ensureAWholeDummyCellAtEndOutbuf c
    check (c.cellSize ≤ c.cellOutbuf.length) .timerLessThanACell
    c.sendCellOutbuf sock

/-- `_buflo_timer_fired`.  `sends` is what spdylay gives the pump if the session ends on
this tick, `sock` what the socket does if it does not. -/
def bufloTimerFired (c : Chan) (now : ℕ) (sends : List (List UInt8)) (sock : SockRes) :
    Except Check Chan := do
  check (c.defenseInfo.state = .active) .timerNotActive
  if c.isDoneDefendingSend then
    c.finishDefense sends
  else if c.defenseInfo.autoStopTimePoint ≤ now then
    if c.isClientSide then throw .timerTimeLimit else c.autoStopDefense sends
  else
    c.defendOneTick sock

end Chan

end ShadowBrowser
