/-
The renderer, from one page load to the next.

* `finish` — a request is over: the next one of the chain is issued, or the clients of the resource
  are told;
* `handleReceivedResponse`, `handleDataReceived`, `handleRequestComplete` — what the io service says
  about a request;
* `checkCompletedTimerFired` — the page is complete;
* `Renderer.step` — the renderer's next event; between two loads there is no page.

What the io service says is any message at any time.  The order in which the clients of a resource
are told is that of their addresses: it is part of the event, and can be any.
-/
import ShadowBrowser.HtmlParser

namespace ShadowBrowser.Blink

open Checked

namespace World

/-! ### Completion -/

/-- `Document::setReadyState` to `Complete`, and `Document::implicitClose`. -/
def completeDocument (w : World) : Except PageCheck World := do
  let changed := decide (w.document.readyState ≠ .complete)
  let w := { w with document := { w.document with readyState := .complete } }
  let w ← doIf changed
    (fireEventHandlingScopes executeScope w.document.eventHandlingScopes .readystatechangeComplete) w
  w.fireEventHandlingScopes executeScope w.document.eventHandlingScopes .load

/-- A resource that has not been loaded is loaded now that there is nothing else to do. -/
def forceLoad (n : ℕ) (w : World) : Except PageCheck World := do
  let w ← w.getResource n
  let r ← w.resource n
  if r.loadState = .initial then
    loadResource { w with engine := { w.engine with
      forcedLoadResInstNums := w.engine.forcedLoadResInstNums ++ [n] } } n
  else return w

/-- `Webengine::_maybe_load_unloaded_resources`. -/
def maybeLoadUnloadedResources (w : World) : Except PageCheck World :=
  if w.engine.state = .idle ∧ (∀ t ∈ w.engine.domTimers, t.2.running = false) ∧
      w.engine.pendingRequests = [] ∧ w.engine.checkCompletedTimer = false then
    w.model.resources.foldlM (fun w m => w.forceLoad m.1) w
  else .ok w

/-- What `Webengine::checkCompleted_timer_fired` does once the page is complete. -/
def pageCompleted (w : World) : Except PageCheck World := do
  let w ← w.completeDocument
  let r ← w.resource 1
  let w := { w with engine := { w.engine with state := .idle } }
  (w.tellDriver (.pageLoaded w.engine.currentLoadId
    ((r.firstByteTimeMs : ℤ) - w.engine.startLoadTimeMs))).maybeLoadUnloadedResources

/-- `Webengine::checkCompleted_timer_fired`. -/
def checkCompletedTimerFired (w : World) : Except PageCheck World := do
  check (w.engine.checkCompletedTimer = true) .notEnabled
  let w := { w with engine := { w.engine with checkCompletedTimer := false } }
  if w.engine.state = .pageLoading ∧ w.document.finishedParsing = true ∧
      w.fetcher.requestCount = 0 then
    w.pageCompleted
  else return w

/-- The world once the update that is scheduled has been taken. -/
def takeUpdate (w : World) : World :=
  { w with
    engine := { w.engine with scheduledRenderTreeUpdateScopeId := 0 }
    updates := w.updates ++ [.update w.engine.scheduledRenderTreeUpdateScopeId] }

/-- `Webengine::_do_end_of_task_work`. -/
def doEndOfTaskWork (w : World) : Except PageCheck World :=
  if w.engine.scheduledRenderTreeUpdateScopeId ≠ 0 then
    executeScope w.engine.scheduledRenderTreeUpdateScopeId w.takeUpdate
  else .ok w

/-! ### The clients of a resource -/

/-- `XMLHttpRequest::notifyFinished`. -/
def xhrNotifyFinished (x : ℕ) (success : Bool) (w : World) : Except PageCheck World :=
  match w.engine.xhrs x with
  | none => .error .nullPointer
  | some xhr => do
    check (xhr.loadState = .loading) .xhrState
    if success = false then return w
    else if xhr.currentResChainIdx = (xhr.info.resChain.length : ℤ) - 1 then do
      let w := { w with engine := { w.engine with
        xhrs := Function.update w.engine.xhrs x (some { xhr with loadState := .finished }) } }
      let w ← w.fireEventHandlingScopes executeScope xhr.info.eventHandlingScopes
        .readystatechangeDONE
      w.fireEventHandlingScopes executeScope xhr.info.eventHandlingScopes .load
    else w.xhrLoadNextChainEntry x xhr

/-- `notifyFinished` of a client of resource `n`. -/
def notifyFinished (n : ℕ) (success : Bool) (c : ResourceClient) (w : World) :
    Except PageCheck World :=
  match c with
  | .fetcher => .ok w.checkCompleted
  | .document => do
    check (n = 1) .badMainResource
    w.documentNotifyFinished success
  | .parser => w.parserNotifyFinished success
  | .element e => w.elementNotifyFinished e
  | .xhr x => w.xhrNotifyFinished x success

/-- `dataReceived` of a client of resource `n`.  Only the document looks at the data. -/
def dataReceived (n len : ℕ) (c : ResourceClient) (w : World) : Except PageCheck World :=
  match c with
  | .document => do
    check (n = 1) .badMainResource
    w.documentDataReceived len
  | _ => .ok w

/-- The clients of resource `n` are called one after the other, those that are clients no more left
out. -/
def callClients (n : ℕ) (call : ResourceClient → World → Except PageCheck World) :
    List ResourceClient → World → Except PageCheck World
  | [], w => return w
  | c :: order, w => do
    let r ← w.resource n
    if c ∈ r.clients then do
      let w ← call c w
      w.callClients n call order
    else w.callClients n call order

/-- A client is told that data has come. -/
def tellData (n len : ℕ) (c : ResourceClient) (w : World) : Except PageCheck World :=
  (w.note (.dataReceived n len c)).dataReceived n len c

/-- A client is told that the resource is over. -/
def tellFinished (n : ℕ) (success : Bool) (c : ResourceClient) (w : World) :
    Except PageCheck World :=
  (w.note (.notifyFinished n success c)).notifyFinished n success c

/-- `ResourceFetcher::decrementRequestCount`, for a resource that counts. -/
def decrementRequestCount (r : Resource) (w : World) : Except PageCheck World :=
  if r.info.partOfPageLoadedCheck = true then do
    check (0 ≤ w.fetcher.requestCount - 1) .requestCount
    return { w with fetcher := { w.fetcher with requestCount := w.fetcher.requestCount - 1 } }
  else .ok w

/-- `Resource::_notify_finished`; `order` is that of the clients' addresses. -/
def notifyAllFinished (n : ℕ) (success : Bool) (order : List ResourceClient) (w : World) :
    Except PageCheck World := do
  let r ← w.resource n
  let w ← w.decrementRequestCount r
  check (order.Perm r.clients) .notEnabled
  w.callClients n (tellFinished n success) order

/-- `Resource::_notify_new_data`.  The clients are told in the order in which they came, and those that
come meanwhile are not: only of elements, which do nothing, can the addresses have it otherwise. -/
def notifyNewData (n len : ℕ) (w : World) : Except PageCheck World := do
  let r ← w.resource n
  w.callClients n (tellData n len) r.clients

/-- What a stylesheet does before its clients are told; parsing takes time or executes a scope. -/
def parseIfStylesheet (r : Resource) (w : World) : Except PageCheck World :=
  match r.info.type with
  | .css (.scope scopeId) => executeScope scopeId w
  | _ => .ok w

/-- `Resource::finish`. -/
def finish (n : ℕ) (success : Bool) (order : List ResourceClient) (w : World) :
    Except PageCheck World := do
  let r ← w.resource n
  check r.isLoading .resourceNotLoading
  let w := w.tellDriver (.requestFinished n r.currentReqChainIdx success)
  -- a resource that is redirected goes on with the next request of its chain
  if success = true then
    match r.info.reqChain[r.currentReqChainIdx.toNat]? with
    | none => .error .reqChain
    | some info => do
      check (r.currentReqBodyBytesRecv = info.respBodySize) .bodySize
      if r.receivingRealResource then do
        let w := w.setResource n
          { r with currentReqBodyBytesRecv := 0, loadState := .finished, errored := false }
        let w ← w.parseIfStylesheet r
        w.notifyAllFinished n true order
      else (w.setResource n { r with currentReqBodyBytesRecv := 0 }).loadNextChainEntry n
  else
    -- an error ends it, wherever in the chain it comes
    (w.setResource n { r with errored := true }).notifyAllFinished n false order

/-- `Resource::appendData`. -/
def appendData (n len : ℕ) (w : World) : Except PageCheck World := do
  let r ← w.resource n
  match r.info.reqChain[r.currentReqChainIdx.toNat]? with
  | none => .error .reqChain
  | some info => do
    let received := r.currentReqBodyBytesRecv + len
    check (received ≤ info.respBodySize) .bodyTooLong
    let w := w.setResource n { r with currentReqBodyBytesRecv := received }
    if r.receivingRealResource then w.notifyNewData n len else return w

/-- `Resource::receivedResponseMeta`. -/
def receivedResponseMeta (n firstByteTimeMs : ℕ) (w : World) : Except PageCheck World := do
  let r ← w.resource n
  if r.currentReqChainIdx = 0 then do
    check (r.firstByteTimeMs = 0) .firstByteTime
    return w.setResource n { r with firstByteTimeMs }
  else return w

/-! ### What the engine is told -/

/-- The resource that a request of this load is about. -/
def deref (ref : ResourceRef) (w : World) : Except PageCheck Unit :=
  check (ref.gen = w.fetcher.gen) .danglingPointer

/-- `DOMTimer::_on_event_cb`. -/
def domTimerFired (timerID : ℕ) (w : World) : Except PageCheck World :=
  match w.engine.domTimers.lookup timerID with
  | none => .error .notEnabled
  | some timer => do
    check (timer.running = true) .notEnabled
    match timer.info.firedScopeIds[timer.nextFiredScopeIdx]? with
    | none => .error .timerExhausted
    | some scopeId => do
      -- the scope can cancel the timer, which then keeps no count
      let fired := { timer with
        running := !timer.info.singleShot
        nextFiredScopeIdx := timer.nextFiredScopeIdx + 1 }
      let w := { w with engine := { w.engine with
        domTimers := w.engine.domTimers.map fun t => if t.1 = timerID then (timerID, fired) else t } }
      let w ← executeScope scopeId w
      w.doEndOfTaskWork

end World

/-! ### The renderer -/

/-- The renderer: without a page, or with one. -/
inductive Renderer
  | blank (engine : Webengine)
  | page (w : World)

/-- What the io service says about a request. -/
inductive ResourceMsg
  | receivedResponse (reqId firstByteTimeMs : ℕ)
  | dataReceived (reqId length : ℕ)
  | requestComplete (reqId : ℕ) (success : Bool) (order : List ResourceClient)
  deriving DecidableEq, Repr

/-- The request that a message is about. -/
def ResourceMsg.reqId : ResourceMsg → ℕ
  | .receivedResponse id _ => id
  | .dataReceived id _ => id
  | .requestComplete id _ _ => id

/-- The events of the renderer. -/
inductive PageEvent
  | loadPage (loadId : ℕ) (model : PageModel) (timeMs : ℕ)
  | reset
  | message (m : ResourceMsg)
  | resumeTimer
  | scriptsTimer
  | checkCompletedTimer
  | domTimer (timerID : ℕ)

namespace Webengine

/-- `Webengine::_reset`, with `_reset_loading_state`. -/
def reset (engine : Webengine) : Webengine :=
  { engine with
    state := .idle
    startLoadTimeMs := 0
    currentLoadId := 0
    pendingRequests := []
    initialRenderTreeUpdateScopeId := 0
    checkCompletedTimer := false
    scheduledRenderTreeUpdateScopeId := 0
    executedScopeIds := []
    domTimers := []
    xhrs := fun _ => none
    forcedLoadResInstNums := []
    toIoService := engine.toIoService ++ [.resetSession] }

/-- `Webengine::_main_resource_failed`. -/
def mainResourceFailed (engine : Webengine) : Webengine :=
  { engine.reset with
    toDriver := engine.toDriver ++ [.pageLoadFailed engine.currentLoadId] }

/-- The page that `handle_LoadPage` makes. -/
def newPage (engine : Webengine) (model : PageModel) : World where
  engine := { engine with
    initialRenderTreeUpdateScopeId := model.initialRenderTreeUpdateScopeId
    gens := engine.gens + 1 }
  model := model
  fetcher := { gen := engine.gens }
  document := { readyState := .loading, eventHandlingScopes := model.eventHandlingScopes }
  parser := { elementLocations := model.htmlElementByteOffsets }

end Webengine

namespace World

/-- `Document::_load_main_resource`, with `ResourceFetcher::getMainResource`. -/
def loadMainResource (w : World) : Except PageCheck World :=
  match w.model.resources.lookup 1 with
  | none => .error .unknownResource
  | some info => do
    check (info.type = .main) .badMainResource
    loadResource (w.setResource 1 { info, clients := [.fetcher, .document] }) 1

/-- `Webengine::handle_ReceivedResponse`. -/
def handleReceivedResponse (reqId firstByteTimeMs : ℕ) (w : World) : Except PageCheck World :=
  match w.engine.pendingRequests.lookup reqId with
  | none => .ok w
  | some ref => do
    w.deref ref
    let w ← w.receivedResponseMeta ref.instNum firstByteTimeMs
    w.doEndOfTaskWork

/-- `Webengine::handle_DataReceived`. -/
def handleDataReceived (reqId length : ℕ) (w : World) : Except PageCheck World :=
  match w.engine.pendingRequests.lookup reqId with
  | none => .ok w
  | some ref => do
    w.deref ref
    let w ← w.appendData ref.instNum length
    w.doEndOfTaskWork

/-- The world with a pending request erased. -/
def erasePending (reqId : ℕ) (w : World) : World :=
  { w with engine := { w.engine with
      pendingRequests := w.engine.pendingRequests.filter fun p => p.1 ≠ reqId } }

/-- `Webengine::handle_RequestComplete`.  When the main resource has failed the page is gone, and
there is no model to load resources of. -/
def handleRequestComplete (reqId : ℕ) (success : Bool) (order : List ResourceClient) (w : World) :
    Except PageCheck Renderer :=
  match w.engine.pendingRequests.lookup reqId with
  | none => .ok (.page w)
  | some ref => do
    w.deref ref
    let w := w.erasePending reqId
    if success = false ∧ ref.instNum = 1 then return .blank w.engine.mainResourceFailed
    else do
      let w ← w.finish ref.instNum success order
      let w ← w.doEndOfTaskWork
      let w ← w.maybeLoadUnloadedResources
      return .page w

end World

namespace Renderer

/-- `Webengine::handle_LoadPage`, when there is no page. -/
def loadPage (engine : Webengine) (loadId : ℕ) (model : PageModel) (timeMs : ℕ) :
    Except PageCheck Renderer := do
  check (loadId ≠ engine.currentLoadId ∧ 0 < loadId) .loadId
  check (model.htmlElementByteOffsets ≠ []) .noElements
  let w ← (engine.newPage model).loadMainResource
  return .page { w with engine := { w.engine with
    startLoadTimeMs := timeMs
    currentLoadId := loadId
    state := .pageLoading } }

/-- A message of the io service about a page. -/
def pageMessage (w : World) : ResourceMsg → Except PageCheck Renderer
  | .receivedResponse id firstByteTimeMs => do
    let w ← w.handleReceivedResponse id firstByteTimeMs
    return .page w
  | .dataReceived id length => do
    let w ← w.handleDataReceived id length
    return .page w
  | .requestComplete id success order => w.handleRequestComplete id success order

/-- An event, when there is a page.  A page is loaded only after the engine has been reset. -/
def pageStep (w : World) : PageEvent → Except PageCheck Renderer
  | .loadPage .. => .error .notEnabled
  | .reset => .ok (.blank w.engine.reset)
  | .message m => pageMessage w m
  | .resumeTimer => do
    let w ← w.resumeTimerFired
    return .page w
  | .scriptsTimer => do
    let w ← w.scriptsTimerFired
    return .page w
  | .checkCompletedTimer => do
    let w ← w.checkCompletedTimerFired
    return .page w
  | .domTimer timerID => do
    let w ← w.domTimerFired timerID
    return .page w

/-- An event, when there is no page: no request is pending, and no timer is running. -/
def blankStep (engine : Webengine) : PageEvent → Except PageCheck Renderer
  | .loadPage loadId model timeMs => loadPage engine loadId model timeMs
  | .reset => .ok (.blank engine.reset)
  | .message m =>
    match engine.pendingRequests.lookup m.reqId with
    | none => .ok (.blank engine)
    | some _ => .error .danglingPointer
  | _ => .error .notEnabled

/-- The renderer's next event. -/
def step : Renderer → PageEvent → Except PageCheck Renderer
  | .blank engine, e => blankStep engine e
  | .page w, e => pageStep w e

/-- The renderer once it has been started. -/
def start : Renderer := .blank {}

/-- `Webengine`, with a page or without. -/
def engine : Renderer → Webengine
  | .blank engine => engine
  | .page w => w.engine

end Renderer

end ShadowBrowser.Blink
