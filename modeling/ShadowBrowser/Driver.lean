/-
The browser's driver (`Driver`).

The driver loads one page after the other: it resets the renderer, thinks, tells the
client-side proxy to arm a defense session, and has the renderer load a page.  When
the page has loaded, failed or timed out it tells the proxy to stop the session, and
begins again.  It does not wait for the proxy's answers.

This is the driver as it runs in Shadow (outside it exits after one page).  Times are
in milliseconds.
-/
import ShadowBrowser.Checked
import Mathlib.Data.Int.Notation
import Mathlib.Data.Nat.Notation

namespace ShadowBrowser

open Checked

/-- `Driver::State` -/
inductive DriverState
  | initial
  | resetRenderer
  | doneResetRenderer
  | loadingPage
  | waitForMoreRequestsAfterDOMLoadEvent
  | thinking
  deriving DecidableEq, Repr

/-- `PageLoadStatus` -/
inductive PageLoadStatus
  | none
  | pending
  | ok
  | failed
  | timedout
  deriving DecidableEq, Repr

/-- `GenericIpcChannel::RespStatus` -/
inductive RespStatus
  | recv
  | timedout
  deriving DecidableEq, Repr

/-- The checks of the driver. -/
inductive DriverCheck
  | notEnabled
  | tproxyNotReady
  | ipcClosed
  | reqNumbers
  | loadId
  | notPending
  | resultStatus
  | resetNotResetting
  | resetTimedOut
  | thinkNotReset
  | loadState
  | pageIndex
  | loadRespState
  | loadRespTimedOut
  | waitState
  | waitPending
  | timeoutState
  | timeoutPending
  | thinkState
  | stopTimedOut
  | timerRunning
  deriving DecidableEq, Repr

/-- The calls that the driver makes to the transport proxy. -/
inductive TproxyCall
  | setAutoStartDefenseOnNextSend
  | stopDefense (rightNow : Bool)
  deriving DecidableEq, Repr

/-- The calls that the driver makes to the renderer. -/
inductive RendererCall
  | reset
  | loadPage (pageModelIdx loadId : ℕ)
  deriving DecidableEq, Repr

/-- `OnePageLoadInfo` -/
structure OnePageLoadInfo where
  pageModelIdx : ℕ := 0
  loadStartTimepoint : ℕ := 0
  DOMLoadEventFiredTimepoint : ℕ := 0
  numReqs : ℕ := 0
  numSuccesReqs : ℕ := 0
  numFailedReqs : ℕ := 0
  numAfterDOMLoadEventReqs : ℕ := 0
  numPendingReqs : ℤ := 0
  pageLoadStatus : PageLoadStatus := .none
  ttfbMs : ℕ := 0
  forcedLoadResInstNums : List ℕ := []
  deriving DecidableEq, Repr

/-- What `_report_result` prints about a load. -/
structure PageLoadReport where
  loadnum : ℕ
  loadResult : PageLoadStatus
  startMs : ℕ
  plt : ℕ
  page : ℕ
  ttfb : ℕ
  numReqs : ℕ
  numSuccess : ℕ
  numFailed : ℕ
  numAfterDOMLoadEvent : ℕ
  numForced : ℕ
  deriving DecidableEq, Repr

/-- `wait_for_more_requests_ms` -/
def waitForMoreRequestsMs : ℕ := 2 * 1000

/-- `page_load_timeout_ms` -/
def pageLoadTimeoutMs : ℕ := 120 * 1000

/-- The range of the think times. -/
def thinkTimesMs : ℕ × ℕ := (20 * 1000, 40 * 1000)

/-- `Driver`.  A timer that is running has the time at which it is due. -/
structure Driver where
  sequentialPageSelection : Bool := true
  usingTproxy : Bool := true
  /-- `page_models_.size()` -/
  numPageModels : ℕ
  tproxyIpcChReady : Bool := false
  state : DriverState := .initial
  loadnum : ℕ := 0
  prevPageModelIdx : ℕ := 0
  thisPageLoadInfo : OnePageLoadInfo := {}
  pageLoadTimeoutTimer : Option ℕ := none
  waitForMoreRequestsTimer : Option ℕ := none
  thinkTimeTimer : Option ℕ := none
  /-- the calls on their way to the transport proxy, the oldest first -/
  tproxyCalls : List TproxyCall := []
  /-- the calls on their way to the renderer, the oldest first -/
  rendererCalls : List RendererCall := []
  /-- the reports made so far -/
  reported : List PageLoadReport := []
  deriving DecidableEq, Repr

namespace Driver

/-- `_tproxy_set_auto_start_defense_on_next_send` -/
def tproxySetAutoStartDefenseOnNextSend (d : Driver) : Except DriverCheck Driver := do
  check (d.tproxyIpcChReady = true) .tproxyNotReady
  return { d with tproxyCalls := d.tproxyCalls ++ [.setAutoStartDefenseOnNextSend] }

/-- `_tproxy_stop_defense`; the message does not carry the argument, and its default is
false. -/
def tproxyStopDefense (d : Driver) (_rightNow : Bool) : Except DriverCheck Driver := do
  check (d.tproxyIpcChReady = true) .tproxyNotReady
  return { d with tproxyCalls := d.tproxyCalls ++ [.stopDefense false] }

/-- `if (using_tproxy_) …` -/
def ifUsingTproxy (d : Driver) (f : Driver → Except DriverCheck Driver) :
    Except DriverCheck Driver :=
  doIf d.usingTproxy f d

/-- `_reset_this_page_load_info` -/
def resetThisPageLoadInfo (d : Driver) : Driver := { d with thisPageLoadInfo := {} }

/-- What is printed about the current load. -/
def pageLoadReport (d : Driver) : PageLoadReport :=
  let tpli := d.thisPageLoadInfo
  { loadnum := d.loadnum
    loadResult := tpli.pageLoadStatus
    startMs := tpli.loadStartTimepoint
    -- the load time is only that of a load that was ok
    plt :=
      if tpli.pageLoadStatus = .ok then
        tpli.DOMLoadEventFiredTimepoint - tpli.loadStartTimepoint
      else 0
    page := tpli.pageModelIdx
    ttfb := if tpli.pageLoadStatus = .ok then tpli.ttfbMs else 0
    numReqs := tpli.numReqs
    numSuccess := tpli.numSuccesReqs
    numFailed := tpli.numFailedReqs
    numAfterDOMLoadEvent := tpli.numAfterDOMLoadEventReqs
    numForced := tpli.forcedLoadResInstNums.length }

/-- `_report_result` -/
def reportResult (d : Driver) : Except DriverCheck Driver := do
  let status := d.thisPageLoadInfo.pageLoadStatus
  check (status ≠ .none ∧ status ≠ .pending) .resultStatus
  return { d with reported := d.reported ++ [d.pageLoadReport] }

/-- `_renderer_reset` -/
def rendererReset (d : Driver) : Driver :=
  { d with state := .resetRenderer, rendererCalls := d.rendererCalls ++ [.reset] }

/-- `wait_for_more_requests_timer_->start`, which insists that the timer is not running -/
def startWaitForMoreRequestsTimer (d : Driver) (now : ℕ) : Except DriverCheck Driver := do
  check (d.waitForMoreRequestsTimer = none) .timerRunning
  return { d with waitForMoreRequestsTimer := some (now + waitForMoreRequestsMs) }

/-- `_renderer_handle_RequestWillBeSent` -/
def rendererHandleRequestWillBeSent (d : Driver) (resInstNum : ℕ) (reqChainIdx : ℤ)
    (forced : Bool) : Except DriverCheck Driver := do
  check (0 < resInstNum ∧ 0 ≤ reqChainIdx) .reqNumbers
  let info := d.thisPageLoadInfo
  return { d with
    thisPageLoadInfo := { info with
      numReqs := info.numReqs + 1
      numPendingReqs := info.numPendingReqs + 1
      numAfterDOMLoadEventReqs := info.numAfterDOMLoadEventReqs
        + if 0 < info.DOMLoadEventFiredTimepoint then 1 else 0
      forcedLoadResInstNums :=
        if forced then info.forcedLoadResInstNums.insert resInstNum
        else info.forcedLoadResInstNums }
    waitForMoreRequestsTimer := none }

/-- `_renderer_handle_RequestFinished` -/
def rendererHandleRequestFinished (d : Driver) (now resInstNum : ℕ) (reqChainIdx : ℤ)
    (success : Bool) : Except DriverCheck Driver := do
  check (0 < resInstNum ∧ 0 ≤ reqChainIdx) .reqNumbers
  let info := d.thisPageLoadInfo
  let numPendingReqs := if info.numPendingReqs - 1 < 0 then 0 else info.numPendingReqs - 1
  let d : Driver := { d with
    thisPageLoadInfo := { info with
      numFailedReqs := info.numFailedReqs + if success then 0 else 1
      numSuccesReqs := info.numSuccesReqs + if success then 1 else 0
      numPendingReqs } }
  -- behind the load event the driver waits again for more requests
  if 0 < info.DOMLoadEventFiredTimepoint ∧ numPendingReqs = 0 then
    startWaitForMoreRequestsTimer { d with waitForMoreRequestsTimer := none } now
  else
    return d

/-- `_renderer_handle_PageLoaded` -/
def rendererHandlePageLoaded (d : Driver) (now loadId ttfbMs : ℕ) :
    Except DriverCheck Driver := do
  check (loadId = d.loadnum) .loadId
  -- the page has been given up, so the event comes too late
  if d.state ≠ .loadingPage then
    return d
  else
    let d ← ifUsingTproxy { d with state := .waitForMoreRequestsAfterDOMLoadEvent }
      (·.tproxyStopDefense false)
    let d : Driver := { d with
      thisPageLoadInfo := { d.thisPageLoadInfo with
        DOMLoadEventFiredTimepoint := now
        pageLoadStatus := .ok
        ttfbMs } }
    -- with requests pending, the last that finishes starts the timer
    if d.thisPageLoadInfo.numPendingReqs = 0 then d.startWaitForMoreRequestsTimer now
    else return d

/-- `_renderer_handle_PageLoadFailed` -/
def rendererHandlePageLoadFailed (d : Driver) (loadId : ℕ) : Except DriverCheck Driver := do
  check (loadId = d.loadnum) .loadId
  -- as with the load event
  if d.state ≠ .loadingPage then
    return d
  else
    check (d.thisPageLoadInfo.pageLoadStatus = .pending) .notPending
    let d ← reportResult { d with
      pageLoadTimeoutTimer := none
      thisPageLoadInfo := { d.thisPageLoadInfo with pageLoadStatus := .failed } }
    d.resetThisPageLoadInfo.rendererReset.ifUsingTproxy (·.tproxyStopDefense false)

/-- `_start_thinking`, for `thinkTimeMs` -/
def startThinking (d : Driver) (now thinkTimeMs : ℕ) : Except DriverCheck Driver := do
  check (d.state = .doneResetRenderer) .thinkNotReset
  check (d.thinkTimeTimer = none) .timerRunning
  return { d with state := .thinking, thinkTimeTimer := some (now + thinkTimeMs) }

/-- `_renderer_load_page`; `randIdx` is what the random generator picks. -/
def rendererLoadPage (d : Driver) (now randIdx : ℕ) : Except DriverCheck Driver := do
  check (d.state = .thinking ∨ d.state = .doneResetRenderer) .loadState
  let d ← d.ifUsingTproxy tproxySetAutoStartDefenseOnNextSend
  let loadnum := d.loadnum + 1
  -- one page after the other, or a random one
  let idx :=
    if !d.sequentialPageSelection then randIdx
    else if loadnum = 1 then 0
    else (d.prevPageModelIdx + 1) % d.numPageModels
  check (idx < d.numPageModels) .pageIndex
  return { d with
    state := .loadingPage
    loadnum
    thisPageLoadInfo := { pageModelIdx := idx, loadStartTimepoint := now, pageLoadStatus := .pending }
    prevPageModelIdx := if d.sequentialPageSelection then idx else d.prevPageModelIdx
    waitForMoreRequestsTimer := none
    rendererCalls := d.rendererCalls ++ [.loadPage idx loadnum] }

/-- `_do_start_thinking_or_loading` -/
def doStartThinkingOrLoading (d : Driver) (now thinkTimeMs randIdx : ℕ) :
    Except DriverCheck Driver :=
  if d.loadnum ≠ 0 then d.startThinking now thinkTimeMs else d.rendererLoadPage now randIdx

/-- `_renderer_on_reset_resp` -/
def rendererOnResetResp (d : Driver) (now : ℕ) (status : RespStatus) (thinkTimeMs randIdx : ℕ) :
    Except DriverCheck Driver := do
  check (d.state = .resetRenderer) .resetNotResetting
  check (status ≠ .timedout) .resetTimedOut
  doStartThinkingOrLoading { d with state := .doneResetRenderer } now thinkTimeMs randIdx

/-- `_renderer_on_load_page_resp` -/
def rendererOnLoadPageResp (d : Driver) (now : ℕ) (status : RespStatus) :
    Except DriverCheck Driver := do
  check (d.state = .loadingPage) .loadRespState
  check (status ≠ .timedout) .loadRespTimedOut
  return { d with pageLoadTimeoutTimer := some (now + pageLoadTimeoutMs) }

/-- `_on_wait_for_more_requests_timer_fired` -/
def onWaitForMoreRequestsTimerFired (d : Driver) : Except DriverCheck Driver := do
  check (d.state = .waitForMoreRequestsAfterDOMLoadEvent) .waitState
  check (d.thisPageLoadInfo.pageLoadStatus ≠ .pending) .waitPending
  let d ← reportResult { d with waitForMoreRequestsTimer := none, pageLoadTimeoutTimer := none }
  return d.resetThisPageLoadInfo.rendererReset

/-- `_on_page_load_timeout` -/
def onPageLoadTimeout (d : Driver) : Except DriverCheck Driver := do
  let fired := d.thisPageLoadInfo.DOMLoadEventFiredTimepoint
  check (fired = 0 → d.state = .loadingPage) .timeoutState
  check (fired = 0 → d.thisPageLoadInfo.pageLoadStatus = .pending) .timeoutPending
  let d ← reportResult { d with
    pageLoadTimeoutTimer := none
    waitForMoreRequestsTimer := none
    thisPageLoadInfo := { d.thisPageLoadInfo with
      pageLoadStatus := if fired = 0 then .timedout else d.thisPageLoadInfo.pageLoadStatus } }
  d.resetThisPageLoadInfo.rendererReset.ifUsingTproxy (·.tproxyStopDefense false)

/-- `_on_think_time_timer_fired` -/
def onThinkTimeTimerFired (d : Driver) (now randIdx : ℕ) : Except DriverCheck Driver := do
  check (d.state = .thinking) .thinkState
  rendererLoadPage { d with thinkTimeTimer := none } now randIdx

/-- `_tproxy_on_stop_defense_resp` -/
def tproxyOnStopDefenseResp (d : Driver) (status : RespStatus) : Except DriverCheck Driver := do
  check (status ≠ .timedout) .stopTimedOut
  return d

end Driver

/-! ### The events of the driver -/

/-- The events of the driver. -/
inductive DriverEvent
  | tproxyIpcChStatus (ready : Bool)
  | rendererIpcChStatus (ready : Bool)
  | requestWillBeSent (resInstNum : ℕ) (reqChainIdx : ℤ) (forced : Bool)
  | requestFinished (resInstNum : ℕ) (reqChainIdx : ℤ) (success : Bool)
  | pageLoaded (loadId ttfbMs : ℕ)
  | pageLoadFailed (loadId : ℕ)
  | resetResp (status : RespStatus) (thinkTimeMs randIdx : ℕ)
  | loadPageResp (status : RespStatus)
  | waitForMoreRequestsTimerFired
  | pageLoadTimeout
  | thinkTimeTimerFired (randIdx : ℕ)
  | setAutoStartResp (status : RespStatus) (ok : Bool)
  | stopDefenseResp (status : RespStatus)
  deriving DecidableEq, Repr

namespace Driver

/-- A timer is due. -/
def isDue (timer : Option ℕ) (now : ℕ) : Bool :=
  match timer with
  | none => false
  | some due => decide (due ≤ now)

/-- The event can happen at the time `now`: a timer does not fire before it is due, and a
random generator keeps to its range. -/
def Enabled (d : Driver) (now : ℕ) : DriverEvent → Prop
  | .waitForMoreRequestsTimerFired => isDue d.waitForMoreRequestsTimer now = true
  | .pageLoadTimeout => isDue d.pageLoadTimeoutTimer now = true
  | .thinkTimeTimerFired randIdx =>
    isDue d.thinkTimeTimer now = true ∧ randIdx < d.numPageModels
  | .resetResp _ thinkTimeMs randIdx =>
    thinkTimesMs.1 ≤ thinkTimeMs ∧ thinkTimeMs ≤ thinkTimesMs.2 ∧ randIdx < d.numPageModels
  | _ => True

instance (d : Driver) (now : ℕ) (e : DriverEvent) : Decidable (d.Enabled now e) := by
  unfold Enabled
  cases e <;> infer_instance

/-- What the driver does in an event that happens at the time `now`. -/
def handle (d : Driver) (now : ℕ) : DriverEvent → Except DriverCheck Driver
  | .tproxyIpcChStatus ready =>
    if ready then return { d with tproxyIpcChReady := true } else throw .ipcClosed
  | .rendererIpcChStatus ready => if ready then return d.rendererReset else throw .ipcClosed
  | .requestWillBeSent resInstNum reqChainIdx forced =>
    d.rendererHandleRequestWillBeSent resInstNum reqChainIdx forced
  | .requestFinished resInstNum reqChainIdx success =>
    d.rendererHandleRequestFinished now resInstNum reqChainIdx success
  | .pageLoaded loadId ttfbMs => d.rendererHandlePageLoaded now loadId ttfbMs
  | .pageLoadFailed loadId => d.rendererHandlePageLoadFailed loadId
  | .resetResp status thinkTimeMs randIdx => d.rendererOnResetResp now status thinkTimeMs randIdx
  | .loadPageResp status => d.rendererOnLoadPageResp now status
  | .waitForMoreRequestsTimerFired => d.onWaitForMoreRequestsTimerFired
  | .pageLoadTimeout => d.onPageLoadTimeout
  | .thinkTimeTimerFired randIdx => d.onThinkTimeTimerFired now randIdx
  | .setAutoStartResp _ _ => return d
  | .stopDefenseResp status => d.tproxyOnStopDefenseResp status

/-- One step of the driver at the time `now`. -/
def step (d : Driver) (now : ℕ) (e : DriverEvent) : Except DriverCheck Driver :=
  if d.Enabled now e then d.handle now e else throw .notEnabled

end Driver

end ShadowBrowser
