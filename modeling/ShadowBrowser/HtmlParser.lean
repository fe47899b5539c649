/-
The html parser, and the document it is the parser of.

* `pumpTokenizer` — the elements that the bytes received so far contain are added to the document,
  at most 10000 bytes at a time, until a script blocks the parser;
* `doPreloadScanning` — while a script blocks it, the resources of the elements further on are
  loaded;
* `attemptToEnd`, `endIfDelayed` — the end of the document is reported once there is nothing left to
  parse, to run or to wait for;
* `documentDataReceived`, `documentNotifyFinished`, `parserNotifyFinished` — what the document and
  its parser are told.
-/
import ShadowBrowser.PageScripts

namespace ShadowBrowser.Blink

open Checked

namespace World

/-- `Webengine::checkCompleted`: whether the page is complete is looked at by a timer. -/
def checkCompleted (w : World) : World :=
  if w.engine.state = .pageLoading ∧ w.fetcher.requestCount = 0 then
    { w with engine := { w.engine with checkCompletedTimer := true } }
  else w

/-! ### The end of the document -/

/-- `Document::finishedParsing`, with `Webengine::finishedParsing`. -/
def finishedParsing (w : World) : Except PageCheck World := do
  let w := { w with document := { w.document with finishedParsing := true } }
  let w ← w.fireEventHandlingScopes executeScope w.document.eventHandlingScopes .domContentLoaded
  return w.checkCompleted

/-- `HTMLDocumentParser::end`, with `prepareToStopParsing` and `attemptToRunDeferredScriptsAndEnd`:
no script is ever deferred. -/
def parserEnd (w : World) : Except PageCheck World :=
  finishedParsing { w with parser := { w.parser with
    doneParsing := true
    ends := w.parser.ends + 1 } }

/-- `HTMLDocumentParser::inPumpSession`. -/
def inPumpSession (w : World) : Prop := 0 < w.parser.pumpSessionNestingLevel

/-- `HTMLDocumentParser::shouldDelayEnd`. -/
def shouldDelayEnd (w : World) : Prop :=
  w.inPumpSession ∨ w.parser.parserBlockingScript ≠ none ∨ w.parser.isExecutingScript = true ∨
    w.parser.numBytesParsed < w.parser.numBytesReceived ∨ w.parser.timerToResume = true

instance (w : World) : Decidable w.inPumpSession := inferInstanceAs (Decidable (_ < _))
instance (w : World) : Decidable w.shouldDelayEnd := inferInstanceAs (Decidable (_ ∨ _))

/-- `HTMLDocumentParser::attemptToEnd`. -/
def attemptToEnd (w : World) : Except PageCheck World :=
  if w.shouldDelayEnd then return { w with parser := { w.parser with endWasDelayed := true } }
  else w.parserEnd

/-- `HTMLDocumentParser::endIfDelayed`. -/
def endIfDelayed (w : World) : Except PageCheck World :=
  if w.parser.endWasDelayed = false ∨ w.shouldDelayEnd then .ok w
  else parserEnd { w with parser := { w.parser with endWasDelayed := false } }

/-! ### Preload scanning -/

/-- The resources of the elements that are scanned, with how far the scan gets and whether it has
reached the end of the list. -/
def preloadScan (w : World) : List (ℕ × ℕ) → ℕ → Except PageCheck (ℕ × Bool × List ℕ)
  | [], scanned =>
    if scanned < w.parser.numBytesReceived then .ok (w.parser.numBytesReceived, true, [])
    else .ok (scanned, false, [])
  | (offset, e) :: rest, scanned =>
    if scanned < w.parser.numBytesReceived then
      if offset + 1 ≤ w.parser.numBytesReceived then
        match w.model.elements.lookup e with
        | none => .error .unknownElement
        | some info => do
          let (scanned, noMore, ns) ← w.preloadScan rest (offset + 1)
          return (scanned, noMore,
            -- an element without a resource is passed over
            if 0 < info.initialResInstNum then info.initialResInstNum :: ns else ns)
      -- the rest has not come yet
      else .ok (w.parser.numBytesReceived, false, [])
    else .ok (scanned, false, [])

/-- `HTMLDocumentParser::_find_element_idx_to_begin_preload_scanning`. -/
def findElementIdx (scanned : ℕ) (locations : List (ℕ × ℕ)) : Option ℕ :=
  locations.findIdx? fun l => decide (scanned < l.1 + 1)

/-- The scan, with `ResourceFetcher::preload`, from the first element that has been neither scanned
nor parsed. -/
def scanFrom (scanned : ℕ) (w : World) : Except PageCheck World :=
  match findElementIdx scanned w.parser.elementLocations with
  | none => return w
  | some idx => do
    let (scanned, noMore, ns) ← w.preloadScan (w.parser.elementLocations.drop idx) scanned
    let w := { w with parser := { w.parser with
      numPreloadScannedBytes := scanned
      noMorePreloadScanningNecessary := noMore } }
    ns.foldlM (fun w n => w.fetchRes n) w

/-- `HTMLDocumentParser::_do_preload_scanning`. -/
def doPreloadScanning (w : World) : Except PageCheck World := do
  check (w.parser.parserBlockingScript ≠ none) .blockingScript
  let scanned := max w.parser.numPreloadScannedBytes w.parser.numBytesParsed
  let w := { w with parser := { w.parser with numPreloadScannedBytes := scanned } }
  if scanned = w.parser.numBytesReceived then return w
  else do
    -- once the scan has been at the end of the list, it does not start again
    check (scanned < w.parser.numBytesReceived) .preloadScan
    if w.parser.noMorePreloadScanningNecessary = true then return w else w.scanFrom scanned

/-- Preload scanning, while a script blocks the parser. -/
def preloadIfBlocked (w : World) : Except PageCheck World :=
  doIf w.parser.parserBlockingScript.isSome doPreloadScanning w

/-! ### Pumping -/

/-- The loop of `HTMLDocumentParser::pumpTokenizer`, over the elements not added yet. -/
def pumpLoop (limit : ℕ) : List (ℕ × ℕ) → World → Except PageCheck World
  | [], w =>
    if w.parser.numBytesParsed < limit ∧ w.parser.parserBlockingScript = none then
      return { w with parser := { w.parser with numBytesParsed := limit } }
    else return w
  | (offset, e) :: rest, w =>
    if w.parser.numBytesParsed < limit ∧ w.parser.parserBlockingScript = none then
      if offset + 1 ≤ limit then do
        -- the bytes count as parsed before the element is added, which may pump again
        let w ← addElem executeScope e { w with parser := { w.parser with
          numBytesParsed := offset + 1
          elementLocIdx := w.parser.elementLocIdx + 1 } }
        pumpLoop limit rest w
      -- the next element is behind the limit
      else return { w with parser := { w.parser with numBytesParsed := limit } }
    else return w

/-- After the loop: the end has been reached, or the parser yields, or it is blocked. -/
def endOrYield (limit : ℕ) (w : World) : Except PageCheck World :=
  if w.parser.numBytesParsed = w.parser.numBytesReceived ∧ w.parser.doneReceived = true then do
    check (w.parser.parserBlockingScript = none) .stillBlocked
    w.attemptToEnd
  else if w.parser.numBytesParsed < w.parser.numBytesReceived ∧
      w.parser.parserBlockingScript = none then do
    check (w.parser.numBytesParsed = limit) .limitReached
    return { w with parser := { w.parser with timerToResume := true } }
  else return w

/-- `HTMLDocumentParser::pumpTokenizer`. -/
def pumpTokenizer (w : World) : Except PageCheck World := do
  let w := { w with parser := { w.parser with
    pumpSessionNestingLevel := w.parser.pumpSessionNestingLevel + 1 } }
  let limit := min (w.parser.numBytesParsed + 10000) w.parser.numBytesReceived
  let w ← w.pumpLoop limit (w.parser.elementLocations.drop w.parser.elementLocIdx)
  let w ← w.endOrYield limit
  let w ← w.preloadIfBlocked
  return { w with parser := { w.parser with
    pumpSessionNestingLevel := w.parser.pumpSessionNestingLevel - 1 } }

/-- `HTMLDocumentParser::pumpTokenizerIfPossible`. -/
def pumpTokenizerIfPossible (w : World) : Except PageCheck World :=
  if w.parser.doneParsing = true then .ok w
  else if w.parser.parserBlockingScript ≠ none then .ok w
  else w.pumpTokenizer

/-! ### What the parser is told -/

/-- `HTMLDocumentParser::resumeParsingAfterYield`, and what `resumeParsingAfterScriptExecution` and
`appendBytes` end with. -/
def pumpAndEnd (w : World) : Except PageCheck World := do
  let w ← w.pumpTokenizerIfPossible
  w.endIfDelayed

/-- `HTMLDocumentParser::appendBytes`. -/
def appendBytes (len : ℕ) (w : World) : Except PageCheck World := do
  check (w.parser.doneReceived = false) .bodyDone
  let w := { w with parser := { w.parser with numBytesReceived := w.parser.numBytesReceived + len } }
  let w ← w.preloadIfBlocked
  if w.inPumpSession then return w else w.pumpAndEnd

/-- `HTMLDocumentParser::finish_receive`. -/
def finishReceive (w : World) : Except PageCheck World := do
  check (w.parser.doneReceived = false) .bodyDone
  attemptToEnd { w with parser := { w.parser with doneReceived := true } }

/-- The loop of `HTMLDocumentParser::executeParsingBlockingScripts`.  No scope is executed twice,
so it ends after as many turns as the page has scopes. -/
def executeParsingBlockingScriptsLoop : ℕ → World → Except PageCheck World
  | 0, _ => .error .outOfFuel
  | fuel + 1, w =>
    match w.parser.parserBlockingScript with
    | none => return w
    | some e => do
      let (w, ready) ← w.isPendingScriptReady e
      if ready = true then do
        let w ← w.executeParsingBlockingScript executeScope
        executeParsingBlockingScriptsLoop fuel w
      else return w

/-- `HTMLDocumentParser::executeParsingBlockingScripts`. -/
def executeParsingBlockingScripts (w : World) : Except PageCheck World :=
  w.executeParsingBlockingScriptsLoop (w.model.execScopes.length + 1)

/-- The scripts that wait are executed, and then parsing resumes unless another script blocks it:
`executeScriptsWaitingForLoad` and `executeScriptsWaitingForResources`, with
`resumeParsingAfterScriptExecution`. -/
def executeScriptsAndResume (w : World) : Except PageCheck World := do
  let w ← w.executeParsingBlockingScripts
  if w.parser.parserBlockingScript = none then do
    check (w.parser.isExecutingScript = false) .scriptRecursion
    w.pumpAndEnd
  else return w

/-- `HTMLDocumentParser::notifyFinished`. -/
def parserNotifyFinished (success : Bool) (w : World) : Except PageCheck World := do
  check (w.parser.parserBlockingScript ≠ none) .blockingScript
  check (success = true) .scriptFailed
  w.executeScriptsAndResume

/-- `HTMLDocumentParser::resumeParsingAfterYield`, which the timer calls. -/
def resumeTimerFired (w : World) : Except PageCheck World := do
  check (w.parser.timerToResume = true) .notEnabled
  pumpAndEnd { w with parser := { w.parser with timerToResume := false } }

/-! ### What the document is told -/

/-- `Document::dataReceived`. -/
def documentDataReceived (len : ℕ) (w : World) : Except PageCheck World := do
  let w ← w.appendBytes len
  w.pumpTokenizerIfPossible

/-- `Document::notifyFinished`, about the main resource. -/
def documentNotifyFinished (success : Bool) (w : World) : Except PageCheck World := do
  check (success = true) .mainFailed
  w.finishReceive

/-- `Document::_executeScriptsWaitingForResourcesTimerFired`, with
`HTMLDocumentParser::executeScriptsWaitingForResources`.  More stylesheets can have been added since
the timer was started. -/
def scriptsTimerFired (w : World) : Except PageCheck World := do
  check (w.document.executeScriptsWaitingForResourcesTimer = true) .notEnabled
  let w := { w with document := { w.document with executeScriptsWaitingForResourcesTimer := false } }
  if w.document.pendingStylesheets = [] then w.executeScriptsAndResume else return w

end World

end ShadowBrowser.Blink
