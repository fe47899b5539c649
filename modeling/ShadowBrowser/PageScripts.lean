/-
What the scripts of a page can do.

* `setResInstNum`, `addElem` — elements are made, put into the document and given resources;
* `setParserBlockingScript` — a script that blocks the parser is executed as soon as it is ready;
* `executeScope` — the calls of a scope, one after the other.

There is one script context, and preparing it fails while a script is executed: a script cannot
execute a scope (`nestedScope`).  So what can execute scopes takes as an argument how that is done,
which is `nestedScope` for what a script calls and `executeScope` for all else.
-/
import ShadowBrowser.PageModel

namespace ShadowBrowser.Blink

open Checked

/-- How a scope is executed. -/
abbrev RunScope := ℕ → World → Except PageCheck World

/-- The check of `HTMLScriptElement::setResInstNum`: the resource of a script is set once. -/
def Element.maySetResource (el : Element) (n : ℕ) : Except PageCheck Unit :=
  match el.kind with
  | .script .. => check (el.resInstNum = 0 ∨ el.resInstNum = n) .scriptResource
  | _ => .ok ()

namespace World

variable (run : RunScope)

/-- `EventTarget::fireEventHandlingScopes`. -/
def fireEventHandlingScopes (scopes : EventScopes) (name : EventName) (w : World) :
    Except PageCheck World :=
  (scopes.filter fun s => s.1 = name).foldlM (fun w s => run s.2 w) w

/-! ### The resource of an element -/

/-- The element stops being a client of its resource, if it is given another one. -/
def detach (e : ℕ) (el : Element) (n : ℕ) (w : World) : Except PageCheck World :=
  if el.resInstNum ≠ 0 ∧ n ≠ el.resInstNum then do
    let w ← w.getResource el.resInstNum
    w.removeClient el.resInstNum (.element e)
  else .ok w

/-- The element has the resource: a finished one fires the load event, any other is loaded and
watched. -/
def attach (e n : ℕ) (w : World) : Except PageCheck World := do
  let r ← w.resource n
  if r.isFinished then
    if r.errored = true then .ok w
    else do
      let el ← w.object e
      w.fireEventHandlingScopes run el.eventHandlingScopes .load
  else do
    let w ← w.loadIfInitial n
    w.addClient n (.element e)

/-- `Element::setResInstNum`; `changed` is what `onResInstNumChanged` does. -/
def setResInstNum (changed : ℕ → World → Except PageCheck World) (e n : ℕ) (w : World) :
    Except PageCheck World := do
  let el ← w.object e
  let w ← w.detach e el n
  let w ← (w.setObject e { el with resInstNum := n }).getResource n
  let w ← w.attach run e n
  changed e w

/-- `Document::set_elem_res`. -/
def setElemRes (e n : ℕ) (w : World) : Except PageCheck World :=
  if e ∈ w.document.elements then do
    let el ← w.object e
    el.maySetResource n
    w.setResInstNum run (fun e w => w.onResInstNumChanged e) e n
  else .ok w

/-- The constructor of `Element`.  The first resource is set before the object is more than an
`Element` and before it has event handling scopes: neither `onResInstNumChanged` nor the load event
does anything. -/
def newElement (e : ℕ) (kind : ElementKind) (info : ElementInfo) (w : World) :
    Except PageCheck World := do
  check (0 < e) .elementInstNum
  let w := w.setObject e { kind }
  let w ← (if info.initialResInstNum ≠ 0 then
      w.setResInstNum run (fun _ w => .ok w) e info.initialResInstNum
    else .ok w)
  let el ← w.object e
  return w.setObject e { el with eventHandlingScopes := info.eventHandlingScopes }

/-! ### Scripts that block the parser -/

/-- The world with another script that blocks the parser. -/
def setBlocking (e : Option ℕ) (w : World) : World :=
  { w with parser := { w.parser with parserBlockingScript := e } }

/-- `HTMLDocumentParser::isPendingScriptReady`. -/
def isPendingScriptReady (e : ℕ) (w : World) : Except PageCheck (World × Bool) := do
  let el ← w.object e
  if w.document.pendingStylesheets ≠ [] then return (w, false)
  else if el.resInstNum ≠ 0 then do
    let w ← w.getResource el.resInstNum
    let r ← w.resource el.resInstNum
    return (w, decide r.isFinished)
  else return (w, true)

/-- `HTMLDocumentParser::_execute_script`. -/
def executeScript (scopeId : ℕ) (w : World) : Except PageCheck World := do
  check (w.parser.isExecutingScript = false) .scriptRecursion
  let w ← run scopeId { w with parser := { w.parser with isExecutingScript := true } }
  return { w with parser := { w.parser with isExecutingScript := false } }

/-- `HTMLDocumentParser::executeParsingBlockingScript`. -/
def executeParsingBlockingScript (w : World) : Except PageCheck World := do
  check (w.parser.isExecutingScript = false) .scriptRecursion
  check (w.document.pendingStylesheets = []) .documentNotReady
  match w.parser.parserBlockingScript with
  | none => .error .blockingScript
  | some e => do
    let (w, ready) ← w.isPendingScriptReady e
    check (ready = true) .scriptNotReady
    let el ← w.object e
    match el.kind with
    -- the pointer is cleared before the script is executed
    | .script _ _ runScopeId => (w.setBlocking none).executeScript run runScopeId
    | _ => .error .nullPointer

/-- What the parser does with a blocking script that is not ready: it watches the script's resource,
unless the script waits for stylesheets only. -/
def watchScript (el : Element) (w : World) : Except PageCheck World :=
  if el.resInstNum ≠ 0 then do
    let w ← w.getResource el.resInstNum
    let r ← w.resource el.resInstNum
    if ¬ r.isFinished then do
      check r.isLoading .resourceNotLoading
      w.addClient el.resInstNum .parser
    else if r.errored = true then return w.setBlocking none
    else return w
  else .ok w

/-- `HTMLDocumentParser::set_parser_blocking_script`. -/
def setParserBlockingScript (e : ℕ) (w : World) : Except PageCheck World := do
  check (w.parser.parserBlockingScript = none) .blockingScript
  let w := w.setBlocking (some e)
  let el ← w.object e
  match el.kind with
  | .script execImmediately isParserBlocking _ => do
    check (isParserBlocking = true) .blockingScript
    -- an inline script runs at once; one with a resource runs when that has come
    if execImmediately = true then do
      check (el.resInstNum = 0) .scriptResource
      w.executeParsingBlockingScript run
    else do
      let (w, ready) ← w.isPendingScriptReady e
      if ready = true then w.executeParsingBlockingScript run
      else w.watchScript el
  | _ => .error .nullPointer

/-! ### Elements are added -/

/-- The element is put into `elements_`. -/
def insertElement (e : ℕ) (w : World) : Except PageCheck World := do
  check (e ∉ w.document.elements) .elementExists
  return { w with document := { w.document with elements := w.document.elements ++ [e] } }

/-- The constructor of `HTMLScriptElement`, and what is done with a script that blocks the parser. -/
def addScript (e : ℕ) (info : ElementInfo) (execAsync execImmediately isParserBlocking : Bool)
    (runScopeId : ℕ) (w : World) : Except PageCheck World := do
  let w ← w.newElement run e (.script execImmediately isParserBlocking runScopeId) info
  check (¬ (execImmediately = true ∧ execAsync = true)) .scriptExecMode
  check (0 < runScopeId) .scriptScope
  let w ← doIf isParserBlocking (setParserBlockingScript run e) w
  w.insertElement e

/-- A blocking link blocks from the start unless its resource is finished. -/
def blockAtFirst (e : ℕ) (w : World) : Except PageCheck World := do
  let el ← w.object e
  match el.kind with
  | .link true false =>
    if 0 < el.resInstNum then do
      let w ← w.getResource el.resInstNum
      let r ← w.resource el.resInstNum
      if ¬ r.isFinished then w.startBlocking e el else .ok w
    else .ok w
  | _ => .ok w

/-- The constructor of `HTMLLinkElement`. -/
def addLink (e : ℕ) (info : ElementInfo) (relStylesheet isBlockingCss : Bool) (w : World) :
    Except PageCheck World := do
  let w ← w.newElement run e (.link isBlockingCss false) info
  check (relStylesheet = true) .linkRel
  let w ← w.blockAtFirst e
  w.insertElement e

/-- The constructor of `HTMLImageElement`. -/
def addImage (e : ℕ) (info : ElementInfo) (w : World) : Except PageCheck World := do
  let w ← w.newElement run e .img info
  w.insertElement e

/-- The body, with `Webengine::maybe_sched_INITIAL_render_update_scope`; there is no element for it. -/
def addBody (w : World) : Except PageCheck World := do
  check (w.document.hasBodyElement = false) .bodyExists
  check (w.engine.scheduledRenderTreeUpdateScopeId = 0) .renderScope
  return { w with
    document := { w.document with hasBodyElement := true }
    engine := { w.engine with
      scheduledRenderTreeUpdateScopeId := w.model.initialRenderTreeUpdateScopeId }
    updates := w.updates ++ [.body] }

/-- `Document::add_elem`. -/
def addElem (e : ℕ) (w : World) : Except PageCheck World := do
  check (e ∉ w.document.elements) .elementExists
  match w.model.elements.lookup e with
  | none => .error .unknownElement
  | some info =>
    match info.tag with
    | .script execAsync execImmediately isParserBlocking runScopeId =>
      w.addScript run e info execAsync execImmediately isParserBlocking runScopeId
    | .link relStylesheet isBlockingCss => w.addLink run e info relStylesheet isBlockingCss
    | .img => w.addImage run e info
    | .body => w.addBody
    | .unsupported => .error .elementNotSupported

/-! ### The calls of a script -/

/-- `Webengine::sched_render_update_scope`. -/
def schedRenderUpdateScope (scopeId : ℕ) (w : World) : Except PageCheck World := do
  check (0 < scopeId) .renderScope
  if scopeId = w.engine.initialRenderTreeUpdateScopeId then return w
  else do
    check (w.engine.scheduledRenderTreeUpdateScopeId ≠ scopeId) .renderScope
    return { w with
      engine := { w.engine with scheduledRenderTreeUpdateScopeId := scopeId }
      updates := w.updates ++ [.schedule scopeId] }

/-- `Webengine::start_timer`, with the constructor of `DOMTimer`. -/
def startTimer (timerID : ℕ) (w : World) : Except PageCheck World :=
  match w.model.timers.lookup timerID with
  | none => .error .unknownTimer
  | some info => do
    check (info.firedScopeIds ≠ []) .timerInfo
    check (info.singleShot = true → info.firedScopeIds.length = 1) .timerInfo
    check (info.intervalMs < 60000) .timerInfo
    check (info.singleShot = false → 0 < info.intervalMs) .timerInfo
    check (w.engine.domTimers.lookup timerID = none) .timerExists
    return { w with engine := { w.engine with
      domTimers := w.engine.domTimers ++ [(timerID, { info })] } }

/-- `Webengine::cancel_timer`. -/
def cancelTimer (timerID : ℕ) (w : World) : World :=
  { w with engine := { w.engine with
      domTimers := w.engine.domTimers.filter fun t => t.1 ≠ timerID } }

/-- `XMLHttpRequest::_load_next_chain_entry`: each resource of the chain is loaded for the request
alone. -/
def xhrLoadNextChainEntry (x : ℕ) (xhr : XMLHttpRequest) (w : World) : Except PageCheck World := do
  let idx := xhr.currentResChainIdx + 1
  check (0 ≤ idx) .reqChain
  match xhr.info.resChain[idx.toNat]? with
  | none => .error .reqChain
  | some n => do
    check (xhr.loadState = .loading) .xhrState
    let w ← w.getResource n
    let r ← w.resource n
    check (r.loadState = .initial) .xhrResource
    let w ← w.loadResource n
    let w ← w.addClient n (.xhr x)
    return { w with engine := { w.engine with
      xhrs := Function.update w.engine.xhrs x (some { xhr with currentResChainIdx := idx }) } }

/-- `Webengine::send_xhr`, with the constructor of `XMLHttpRequest` and its `send`. -/
def sendXhr (x : ℕ) (w : World) : Except PageCheck World :=
  match w.model.xhrs.lookup x with
  | none => .error .unknownXhr
  | some info => do
    check (0 < x) .unknownXhr
    check (w.engine.xhrs x = none) .xhrExists
    w.xhrLoadNextChainEntry x { info, loadState := .loading }

/-- A call of a script. -/
def statement (s : Statement) (w : World) : Except PageCheck World :=
  match s with
  | .msleep => .ok w
  | .addElem e => w.addElem run e
  | .schedRenderUpdateScope scopeId => w.schedRenderUpdateScope scopeId
  | .startTimer timerID => w.startTimer timerID
  | .cancelTimer timerID => .ok (w.cancelTimer timerID)
  | .setElemRes e n => w.setElemRes run e n
  | .sendXhr x => w.sendXhr x
  | .fetchRes n => w.fetchRes n

/-! ### Scopes -/

/-- `Webengine::execute_scope` as far as the context is prepared. -/
def prepareScope (scopeId : ℕ) (w : World) : Except PageCheck (World × List Statement) := do
  check (scopeId ∉ w.engine.executedScopeIds) .scopeExecuted
  match w.model.execScopes.lookup scopeId with
  | none => .error .unknownScope
  | some statements =>
    return ({ w with engine := { w.engine with
      executedScopeIds := w.engine.executedScopeIds ++ [scopeId] } }, statements)

/-- `Webengine::execute_scope` while a script is executed: the context is active, and `Prepare`
fails. -/
def nestedScope : RunScope := fun scopeId w => do
  let _ ← w.prepareScope scopeId
  .error .contextActive

/-- `Webengine::execute_scope`. -/
def executeScope : RunScope := fun scopeId w => do
  let (w, statements) ← w.prepareScope scopeId
  statements.foldlM (fun w s => w.statement nestedScope s) w

end World

end ShadowBrowser.Blink
