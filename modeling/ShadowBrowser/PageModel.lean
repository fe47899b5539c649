/-
A page as the renderer knows it while it is loaded.

* `PageModel` — what a page is made of: resources with the requests each takes, elements of the
  main document at their byte offsets, scripts, timers;
* `World` — the objects of a page load: the engine, the resource fetcher, the document with its
  elements, and the html parser;
* `loadResource` and `ioserviceRequestResource` — how a resource starts loading, and how a request
  is issued.

A pointer to an object is the number of the object, and for a resource also the fetcher that has
it.  What the engine sends, to the io service and to the driver, is kept in the order it is sent.  So
are the calls that a client of a resource gets and what becomes of the updates of the render tree, and
the reports of the document's end are counted: the code keeps no such records, they are made where the
calls are.
-/
import Mathlib.Data.Int.Notation
import Mathlib.Data.Nat.Notation
import Mathlib.Logic.Function.Basic
import ShadowBrowser.Runs

namespace ShadowBrowser.Blink

open Checked Runs

/-! ### The page model -/

/-- One request of a resource's chain. -/
structure RequestInfo where
  host : String := ""
  port : ℕ := 0
  reqTotalSize : ℕ := 0
  respMetaSize : ℕ := 0
  respBodySize : ℕ := 0
  deriving DecidableEq, Repr

/-- How long a stylesheet is parsed for, or the scope that is executed instead. -/
inductive CssParse
  | dur (ms : ℕ)
  | scope (scopeId : ℕ)
  deriving DecidableEq, Repr

/-- `type` of a resource. -/
inductive ResourceType
  | main
  | css (parse : CssParse)
  | other
  deriving DecidableEq, Repr

/-- `PageModel::ResourceInfo`. -/
structure ResourceInfo where
  partOfPageLoadedCheck : Bool
  reqChain : List RequestInfo
  type : ResourceType := .other
  deriving DecidableEq, Repr

/-- The events that have handling scopes. -/
inductive EventName
  | load | domContentLoaded | readystatechangeDONE | readystatechangeComplete
  deriving DecidableEq, Repr

/-- `event_handling_scopes`. -/
abbrev EventScopes := List (EventName × ℕ)

/-- `tag` of an element, with what is specific to it. -/
inductive ElementTag
  | script (execAsync execImmediately isParserBlocking : Bool) (runScopeId : ℕ)
  | link (relStylesheet isBlockingCss : Bool)
  | img
  | body
  | unsupported
  deriving DecidableEq, Repr

/-- `PageModel::ElementInfo`. -/
structure ElementInfo where
  tag : ElementTag
  eventHandlingScopes : EventScopes := []
  initialResInstNum : ℕ := 0
  deriving DecidableEq, Repr

/-- `PageModel::DOMTimerInfo`. -/
structure DOMTimerInfo where
  intervalMs : ℕ
  singleShot : Bool
  firedScopeIds : List ℕ
  deriving DecidableEq, Repr

/-- `PageModel::XMLHttpRequestInfo`. -/
structure XMLHttpRequestInfo where
  resChain : List ℕ
  eventHandlingScopes : EventScopes := []
  deriving DecidableEq, Repr

/-- The calls that a script can make. -/
inductive Statement
  | msleep
  | addElem (elemInstNum : ℕ)
  | schedRenderUpdateScope (scopeId : ℕ)
  | startTimer (timerID : ℕ)
  | cancelTimer (timerID : ℕ)
  | setElemRes (elemInstNum resInstNum : ℕ)
  | sendXhr (xhrInstNum : ℕ)
  | fetchRes (resInstNum : ℕ)
  deriving DecidableEq, Repr

/-- `PageModel`, with the members of its json objects in order. -/
structure PageModel where
  resources : List (ℕ × ResourceInfo)
  elements : List (ℕ × ElementInfo) := []
  execScopes : List (ℕ × List Statement) := []
  timers : List (ℕ × DOMTimerInfo) := []
  xhrs : List (ℕ × XMLHttpRequestInfo) := []
  htmlElementByteOffsets : List (ℕ × ℕ) := []
  eventHandlingScopes : EventScopes := []
  initialRenderTreeUpdateScopeId : ℕ := 0

/-! ### The objects of a page load -/

/-- `Resource::LoadState`, and `XMLHttpRequest::XhrState`. -/
inductive LoadState
  | initial | loading | finished
  deriving DecidableEq, Repr

/-- Who is told about a resource. -/
inductive ResourceClient
  | fetcher
  | document
  | parser
  | element (elemInstNum : ℕ)
  | xhr (xhrInstNum : ℕ)
  deriving DecidableEq, Repr

/-- `Resource`. -/
structure Resource where
  info : ResourceInfo
  loadState : LoadState := .initial
  errored : Bool := false
  currentReqChainIdx : ℤ := -1
  currentReqBodyBytesRecv : ℕ := 0
  firstByteTimeMs : ℕ := 0
  clients : List ResourceClient := []
  deriving DecidableEq, Repr

/-- `isFinished`. -/
def Resource.isFinished (r : Resource) : Prop := r.loadState = .finished

/-- `isLoading`. -/
def Resource.isLoading (r : Resource) : Prop := r.loadState = .loading

instance (r : Resource) : Decidable r.isFinished := inferInstanceAs (Decidable (_ = _))
instance (r : Resource) : Decidable r.isLoading := inferInstanceAs (Decidable (_ = _))

/-- `_receiving_real_resource`. -/
def Resource.receivingRealResource (r : Resource) : Prop :=
  r.currentReqChainIdx = (r.info.reqChain.length : ℤ) - 1

instance (r : Resource) : Decidable r.receivingRealResource := inferInstanceAs (Decidable (_ = _))

/-- `ResourceFetcher`; `gen` tells it from the fetchers of other loads. -/
structure ResourceFetcher where
  gen : ℕ
  documentResources : ℕ → Option Resource := fun _ => none
  requestCount : ℤ := 0

/-- A `Resource*`. -/
structure ResourceRef where
  gen : ℕ
  instNum : ℕ
  deriving DecidableEq, Repr

/-- What kind of element it is, with what is specific to it. -/
inductive ElementKind
  | script (execImmediately isParserBlocking : Bool) (runScopeId : ℕ)
  | link (isBlockingStylesheet currentlyBlocking : Bool)
  | img
  deriving DecidableEq, Repr

/-- `Element`. -/
structure Element where
  kind : ElementKind
  resInstNum : ℕ := 0
  eventHandlingScopes : EventScopes := []
  deriving DecidableEq, Repr

/-- `Document::ReadyState`. -/
inductive ReadyState
  | initial | loading | interactive | complete
  deriving DecidableEq, Repr

/-- `Document`.  `objects` are the elements that have been made, and `elements` the keys of
`elements_`: an element is put there after it has been made, and after its script has run. -/
structure Document where
  readyState : ReadyState := .initial
  objects : ℕ → Option Element := fun _ => none
  elements : List ℕ := []
  pendingStylesheets : List ℕ := []
  executeScriptsWaitingForResourcesTimer : Bool := false
  hasBodyElement : Bool := false
  finishedParsing : Bool := false
  eventHandlingScopes : EventScopes := []

/-- `HTMLDocumentParser`. -/
structure HTMLDocumentParser where
  parserBlockingScript : Option ℕ := none
  numBytesReceived : ℕ := 0
  doneReceived : Bool := false
  numBytesParsed : ℕ := 0
  numPreloadScannedBytes : ℕ := 0
  noMorePreloadScanningNecessary : Bool := false
  elementLocations : List (ℕ × ℕ) := []
  elementLocIdx : ℕ := 0
  isExecutingScript : Bool := false
  endWasDelayed : Bool := false
  doneParsing : Bool := false
  pumpSessionNestingLevel : ℕ := 0
  timerToResume : Bool := false
  /-- How often the document has been told that it is parsed. -/
  ends : ℕ := 0

/-- `DOMTimer`. -/
structure DOMTimer where
  info : DOMTimerInfo
  running : Bool := true
  nextFiredScopeIdx : ℕ := 0
  deriving DecidableEq, Repr

/-- `XMLHttpRequest`. -/
structure XMLHttpRequest where
  info : XMLHttpRequestInfo
  loadState : LoadState := .initial
  currentResChainIdx : ℤ := -1
  deriving DecidableEq, Repr

/-- What the engine sends to the io service. -/
inductive IoServiceMsg
  | requestResource (reqId resInstNum : ℕ) (info : RequestInfo)
  | resetSession
  deriving DecidableEq, Repr

/-- What the engine sends to the driver. -/
inductive DriverMsg
  | requestWillBeSent (resInstNum : ℕ) (reqChainIdx : ℤ) (forced : Bool)
  | requestFinished (resInstNum : ℕ) (reqChainIdx : ℤ) (success : Bool)
  | pageLoaded (loadId : ℕ) (ttfbMs : ℤ)
  | pageLoadFailed (loadId : ℕ)
  deriving DecidableEq, Repr

/-- `Webengine::State`. -/
inductive EngineState
  | idle | pageLoading
  deriving DecidableEq, Repr

/-- `Webengine`, apart from the page model, the fetcher and the document.  `nextRequestId` is the
static variable of `MakeRequestID`. -/
structure Webengine where
  nextRequestId : ℕ := 1
  state : EngineState := .idle
  startLoadTimeMs : ℕ := 0
  currentLoadId : ℕ := 0
  pendingRequests : List (ℕ × ResourceRef) := []
  initialRenderTreeUpdateScopeId : ℕ := 0
  checkCompletedTimer : Bool := false
  scheduledRenderTreeUpdateScopeId : ℕ := 0
  executedScopeIds : List ℕ := []
  domTimers : List (ℕ × DOMTimer) := []
  xhrs : ℕ → Option XMLHttpRequest := fun _ => none
  forcedLoadResInstNums : List ℕ := []
  /-- What has been sent. -/
  toIoService : List IoServiceMsg := []
  toDriver : List DriverMsg := []
  /-- How many fetchers have been made. -/
  gens : ℕ := 0

/-- What a client of resource `n` is told: data has come, or the resource is over; or the client is
taken from the clients of the resource. -/
inductive Notice
  | dataReceived (n len : ℕ) (c : ResourceClient)
  | notifyFinished (n : ℕ) (success : Bool) (c : ResourceClient)
  | removed (n : ℕ) (c : ResourceClient)
  deriving DecidableEq, Repr

/-- What happens to the updates of the render tree: a script schedules one, the body schedules the
initial one, or the one that is scheduled is taken to be executed. -/
inductive UpdateAct
  | schedule (scopeId : ℕ)
  | body
  | update (scopeId : ℕ)
  deriving DecidableEq, Repr

/-- The engine with a page. -/
structure World where
  engine : Webengine
  model : PageModel
  fetcher : ResourceFetcher
  document : Document
  parser : HTMLDocumentParser
  /-- What the clients have been told, and which have been taken away. -/
  notices : List Notice := []
  /-- What has happened to the updates of the render tree. -/
  updates : List UpdateAct := []

/-- The checks, and what else a run can end with. -/
inductive PageCheck
  | notEnabled
  | outOfFuel
  | nullPointer
  | danglingPointer
  | unknownResource | unknownElement | unknownScope | unknownTimer | unknownXhr
  | badStylesheet | badMainResource
  | requestIds | pendingRequests
  | resourceNotInitial | resourceNotLoading | reqChain | clientOfFinished
  | firstByteTime | bodyTooLong | bodySize | requestCount
  | elementExists | elementInstNum | elementNotSupported | bodyExists
  | scriptExecMode | scriptScope | scriptResource | linkRel
  | pendingSheetAdded | pendingSheetRemoved
  | scopeExecuted | contextActive | renderScope | timerInfo | timerExists | timerExhausted
  | xhrExists | xhrState | xhrResource
  | bodyDone | blockingScript | scriptRecursion | documentNotReady | scriptNotReady
  | stillBlocked | limitReached | preloadScan | scriptFailed | mainFailed
  | documentState | loadId | noElements
  deriving DecidableEq, Repr

namespace World

variable (w : World)

/-! ### Resources -/

/-- The world with one more notice. -/
def note (m : Notice) : World := { w with notices := w.notices ++ [m] }

/-- The resource that a pointer leads to. -/
def resource (n : ℕ) : Except PageCheck Resource :=
  match w.fetcher.documentResources n with
  | some r => .ok r
  | none => .error .nullPointer

/-- The world with a resource changed. -/
def setResource (n : ℕ) (r : Resource) : World :=
  { w with fetcher := { w.fetcher with
      documentResources := Function.update w.fetcher.documentResources n (some r) } }

/-- `ResourceFetcher::getResource`: the resource is made when it is asked for first. -/
def getResource (n : ℕ) : Except PageCheck World :=
  match w.fetcher.documentResources n with
  | some _ => .ok w
  | none =>
    match w.model.resources.lookup n with
    | none => .error .unknownResource
    | some info => do
      check (info.type ≠ .css (.scope 0)) .badStylesheet
      return w.setResource n { info, clients := [.fetcher] }

/-- `Webengine::ioservice_request_resource`, with `MakeRequestID`. -/
def ioserviceRequestResource (info : RequestInfo) (n : ℕ) : Except PageCheck World := do
  check (w.engine.nextRequestId < 0xffffff) .requestIds
  check (w.engine.pendingRequests.lookup w.engine.nextRequestId = none) .pendingRequests
  return { w with engine := { w.engine with
    nextRequestId := w.engine.nextRequestId + 1
    toIoService := w.engine.toIoService ++ [.requestResource w.engine.nextRequestId n info]
    pendingRequests :=
      w.engine.pendingRequests ++ [(w.engine.nextRequestId, ⟨w.fetcher.gen, n⟩)] } }

/-- What is sent to the driver. -/
def tellDriver (m : DriverMsg) : World :=
  { w with engine := { w.engine with toDriver := w.engine.toDriver ++ [m] } }

/-- `Resource::_load_next_chain_entry`. -/
def loadNextChainEntry (n : ℕ) : Except PageCheck World := do
  let r ← w.resource n
  let idx := r.currentReqChainIdx + 1
  check (0 ≤ idx) .reqChain
  match r.info.reqChain[idx.toNat]? with
  | none => .error .reqChain
  | some info => do
    check (r.isLoading) .resourceNotLoading
    let w ← (w.setResource n { r with currentReqChainIdx := idx }).ioserviceRequestResource info n
    return w.tellDriver
      (.requestWillBeSent n idx (decide (n ∈ w.engine.forcedLoadResInstNums)))

/-- `ResourceFetcher::incrementRequestCount`, for a resource that counts. -/
def incrementRequestCount (r : Resource) : World :=
  if r.info.partOfPageLoadedCheck = true then
    { w with fetcher := { w.fetcher with requestCount := w.fetcher.requestCount + 1 } }
  else w

/-- `Resource::load`. -/
def loadResource (n : ℕ) : Except PageCheck World := do
  let r ← w.resource n
  check (r.loadState = .initial) .resourceNotInitial
  ((w.setResource n { r with loadState := .loading }).incrementRequestCount r).loadNextChainEntry n

/-- The resource is loaded unless it is loading or has been loaded. -/
def loadIfInitial (n : ℕ) : Except PageCheck World := do
  let r ← w.resource n
  if ¬ r.isLoading ∧ ¬ r.isFinished then w.loadResource n else .ok w

/-- `Webengine::fetch_res`, and what `ResourceFetcher::preload` does with each resource. -/
def fetchRes (n : ℕ) : Except PageCheck World := do
  let w ← w.getResource n
  w.loadIfInitial n

/-- `Resource::addClient`; the clients are a set. -/
def addClient (n : ℕ) (c : ResourceClient) : Except PageCheck World := do
  let r ← w.resource n
  check (¬ r.isFinished) .clientOfFinished
  return w.setResource n { r with clients := if c ∈ r.clients then r.clients else r.clients ++ [c] }

/-- `Resource::removeClient`. -/
def removeClient (n : ℕ) (c : ResourceClient) : Except PageCheck World := do
  let r ← w.resource n
  return (w.setResource n { r with clients := r.clients.filter (· ≠ c) }).note (.removed n c)

/-! ### Elements -/

/-- The element that a pointer leads to. -/
def object (e : ℕ) : Except PageCheck Element :=
  match w.document.objects e with
  | some el => .ok el
  | none => .error .nullPointer

/-- The world with an element changed. -/
def setObject (e : ℕ) (el : Element) : World :=
  { w with document := { w.document with
      objects := Function.update w.document.objects e (some el) } }

/-- `Document::addPendingSheet`. -/
def addPendingSheet (e : ℕ) : Except PageCheck World := do
  check (e ∉ w.document.pendingStylesheets) .pendingSheetAdded
  return { w with document := { w.document with
    pendingStylesheets := w.document.pendingStylesheets ++ [e] } }

/-- `Document::removePendingSheet`, with `_didLoadAllScriptBlockingResources`: after the last of them
a timer is started, unless it is running. -/
def removePendingSheet (e : ℕ) : Except PageCheck World := do
  check (e ∈ w.document.pendingStylesheets) .pendingSheetRemoved
  let sheets := w.document.pendingStylesheets.filter (· ≠ e)
  return { w with document := { w.document with
    pendingStylesheets := sheets
    executeScriptsWaitingForResourcesTimer :=
      decide (sheets = []) || w.document.executeScriptsWaitingForResourcesTimer } }

/-- A blocking link starts to block. -/
def startBlocking (e : ℕ) (el : Element) : Except PageCheck World :=
  (w.setObject e { el with kind := .link true true }).addPendingSheet e

/-- `HTMLLinkElement::onResInstNumChanged`; for the other elements it does nothing. -/
def onResInstNumChanged (e : ℕ) : Except PageCheck World := do
  let el ← w.object e
  match el.kind with
  | .link isBlocking currentlyBlocking => do
    let w ← w.getResource el.resInstNum
    let r ← w.resource el.resInstNum
    if r.isLoading ∧ isBlocking = true ∧ currentlyBlocking = false then w.startBlocking e el
    else return w
  | _ => return w

/-- `HTMLLinkElement::notifyFinished`; for the other elements it does nothing. -/
def elementNotifyFinished (e : ℕ) : Except PageCheck World := do
  let el ← w.object e
  match el.kind with
  | .link true true => (w.setObject e { el with kind := .link true false }).removePendingSheet e
  | _ => return w

end World

end ShadowBrowser.Blink
