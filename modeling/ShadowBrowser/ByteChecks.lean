/-
The checks of the bytes of an answer.

`appendData` checks that no more bytes come than were asked for, and `finish` that all have come when a
request succeeds.  Nothing else makes these checks: neither the clients that are told, nor the scripts,
nor the parser.

* `PageCheck.OfBytes` — the two checks;
* `appendData_avoids`, `finish_avoids` — they do not fail when the bytes are right;
* **`message_avoids`** — and then no message of the io service fails with them.
-/
import ShadowBrowser.ClientSteps

namespace ShadowBrowser.Blink

open Checked

/-- A check of the bytes of an answer. -/
def PageCheck.OfBytes (e : PageCheck) : Prop := e = .bodyTooLong ∨ e = .bodySize

/-- Another check. -/
theorem PageCheck.OfBytes.ne {e e' : PageCheck} (he : e.OfBytes)
    (h : e' ≠ .bodyTooLong ∧ e' ≠ .bodySize) : e' ≠ e := by
  rcases he with rfl | rfl
  · exact h.1
  · exact h.2

namespace World

variable {e : PageCheck} (he : e.OfBytes) {run : RunScope} {w : World} {n m x : ℕ}
  {el : Element} {c : ResourceClient}
include he

/-! ### Resources and elements -/

theorem resource_avoids : Avoids e (w.resource n) := by
  rw [resource]
  split
  · exact .ok
  · exact .error (he.ne (by decide))

theorem object_avoids : Avoids e (w.object n) := by
  rw [object]
  split
  · exact .ok
  · exact .error (he.ne (by decide))

theorem getResource_avoids : Avoids e (w.getResource n) := by
  rw [getResource]
  split
  · exact .ok
  · split
    · exact .error (he.ne (by decide))
    · exact .check_bind (he.ne (by decide)) fun _ => .ok

theorem loadNextChainEntry_avoids : Avoids e (w.loadNextChainEntry n) := by
  refine .bind (resource_avoids he) fun r _ => .check_bind (he.ne (by decide)) fun _ => ?_
  split
  · exact .error (he.ne (by decide))
  · refine .check_bind (he.ne (by decide)) fun _ => .bind ?_ fun _ _ => .ok
    exact .check_bind (he.ne (by decide)) fun _ => .check_bind (he.ne (by decide)) fun _ => .ok

theorem loadResource_avoids : Avoids e (w.loadResource n) :=
  .bind (resource_avoids he) fun _ _ => .check_bind (he.ne (by decide)) fun _ =>
    loadNextChainEntry_avoids he

theorem loadIfInitial_avoids : Avoids e (w.loadIfInitial n) :=
  .bind (resource_avoids he) fun _ _ => .ite (fun _ => loadResource_avoids he) fun _ => .ok

theorem fetchRes_avoids : Avoids e (w.fetchRes n) :=
  .bind (getResource_avoids he) fun _ _ => loadIfInitial_avoids he

theorem addClient_avoids : Avoids e (w.addClient n c) :=
  .bind (resource_avoids he) fun _ _ => .check_bind (he.ne (by decide)) fun _ => .ok

theorem removeClient_avoids : Avoids e (w.removeClient n c) :=
  .bind (resource_avoids he) fun _ _ => .ok

theorem startBlocking_avoids : Avoids e (w.startBlocking x el) :=
  .check_bind (he.ne (by decide)) fun _ => .ok

theorem onResInstNumChanged_avoids : Avoids e (w.onResInstNumChanged x) := by
  refine .bind (object_avoids he) fun el _ => ?_
  split
  · exact .bind (getResource_avoids he) fun _ _ => .bind (resource_avoids he) fun _ _ =>
      .ite (fun _ => startBlocking_avoids he) fun _ => .ok
  · exact .ok

theorem elementNotifyFinished_avoids : Avoids e (w.elementNotifyFinished x) := by
  refine .bind (object_avoids he) fun el _ => ?_
  split
  · exact .check_bind (he.ne (by decide)) fun _ => .ok
  · exact .ok

/-! ### Scripts -/

variable (hrun : ∀ scopeId w, Avoids e (run scopeId w))

section

include hrun

omit he in
theorem fireEventHandlingScopes_avoids {scopes : EventScopes} {name : EventName} :
    Avoids e (w.fireEventHandlingScopes run scopes name) := by
  rw [fireEventHandlingScopes]
  exact .foldlM (fun w (s : EventName × ℕ) => hrun s.2 w) _

theorem attach_avoids : Avoids e (w.attach run x n) := by
  refine .bind (resource_avoids he) fun r _ => .ite (fun _ => .ite (fun _ => .ok) fun _ => ?_) ?_
  · exact .bind (object_avoids he) fun _ _ => fireEventHandlingScopes_avoids hrun
  · exact fun _ => .bind (loadIfInitial_avoids he) fun _ _ => addClient_avoids he

theorem setResInstNum_avoids {changed : ℕ → World → Except PageCheck World}
    (hchanged : ∀ x w, Avoids e (changed x w)) : Avoids e (w.setResInstNum run changed x n) := by
  refine .bind (object_avoids he) fun el _ => .bind (.ite (fun _ => ?_) fun _ => .ok) fun w₁ _ => ?_
  · exact .bind (getResource_avoids he) fun _ _ => removeClient_avoids he
  · exact .bind (getResource_avoids he) fun _ _ => .bind (attach_avoids he hrun) fun _ _ =>
      hchanged _ _

theorem setElemRes_avoids : Avoids e (w.setElemRes run x n) := by
  refine .ite (fun _ => .bind (object_avoids he) fun el _ => .bind ?_ fun _ _ => ?_) fun _ => .ok
  · rw [Element.maySetResource]
    split
    · intro h
      exact he.ne (by decide) (check_eq_error.mp h).2
    · exact .ok
  · exact setResInstNum_avoids he hrun fun _ _ => onResInstNumChanged_avoids he

theorem newElement_avoids {kind : ElementKind} {info : ElementInfo} :
    Avoids e (w.newElement run x kind info) := by
  refine .check_bind (he.ne (by decide)) fun _ => .bind (.ite (fun _ => ?_) fun _ => .ok) fun _ _ => ?_
  · exact setResInstNum_avoids he hrun fun _ _ => .ok
  · exact .bind (object_avoids he) fun _ _ => .ok

end

theorem isPendingScriptReady_avoids : Avoids e (w.isPendingScriptReady x) := by
  refine .bind (object_avoids he) fun el _ => .ite (fun _ => .ok) fun _ => .ite (fun _ => ?_) fun _ => .ok
  exact .bind (getResource_avoids he) fun _ _ => .bind (resource_avoids he) fun _ _ => .ok

theorem watchScript_avoids : Avoids e (w.watchScript el) := by
  refine .ite (fun _ => .bind (getResource_avoids he) fun _ _ => ?_) fun _ => .ok
  refine .bind (resource_avoids he) fun _ _ => .ite (fun _ => ?_) fun _ => .ite (fun _ => .ok) fun _ => .ok
  exact .check_bind (he.ne (by decide)) fun _ => addClient_avoids he

theorem insertElement_avoids : Avoids e (w.insertElement x) :=
  .check_bind (he.ne (by decide)) fun _ => .ok

theorem blockAtFirst_avoids : Avoids e (w.blockAtFirst x) := by
  refine .bind (object_avoids he) fun el _ => ?_
  split
  · refine .ite (fun _ => .bind (getResource_avoids he) fun _ _ => ?_) fun _ => .ok
    exact .bind (resource_avoids he) fun _ _ => .ite (fun _ => startBlocking_avoids he) fun _ => .ok
  · exact .ok

section

include hrun

theorem executeParsingBlockingScript_avoids : Avoids e (w.executeParsingBlockingScript run) := by
  refine .check_bind (he.ne (by decide)) fun _ => .check_bind (he.ne (by decide)) fun _ => ?_
  split
  · exact .error (he.ne (by decide))
  · refine .bind (isPendingScriptReady_avoids he) fun _ _ => ?_
    refine .check_bind (he.ne (by decide)) fun _ => .bind (object_avoids he) fun el _ => ?_
    split
    · exact .check_bind (he.ne (by decide)) fun _ => .bind (hrun _ _) fun _ _ => .ok
    · exact .error (he.ne (by decide))

theorem setParserBlockingScript_avoids : Avoids e (w.setParserBlockingScript run x) := by
  refine .check_bind (he.ne (by decide)) fun _ => .bind (object_avoids he) fun el _ => ?_
  split
  · refine .check_bind (he.ne (by decide)) fun _ => .ite (fun _ => ?_) fun _ => ?_
    · exact .check_bind (he.ne (by decide)) fun _ => executeParsingBlockingScript_avoids he hrun
    · exact .bind (isPendingScriptReady_avoids he) fun _ _ =>
        .ite (fun _ => executeParsingBlockingScript_avoids he hrun) fun _ => watchScript_avoids he
  · exact .error (he.ne (by decide))

theorem addElem_avoids : Avoids e (w.addElem run x) := by
  refine .check_bind (he.ne (by decide)) fun _ => ?_
  split
  · exact .error (he.ne (by decide))
  · split
    · refine .bind (newElement_avoids he hrun) fun _ _ => .check_bind (he.ne (by decide)) fun _ => ?_
      refine .check_bind (he.ne (by decide)) fun _ => .bind (.doIf fun _ => ?_) fun _ _ => ?_
      · exact setParserBlockingScript_avoids he hrun
      · exact insertElement_avoids he
    · exact .bind (newElement_avoids he hrun) fun _ _ => .check_bind (he.ne (by decide)) fun _ =>
        .bind (blockAtFirst_avoids he) fun _ _ => insertElement_avoids he
    · exact .bind (newElement_avoids he hrun) fun _ _ => insertElement_avoids he
    · exact .check_bind (he.ne (by decide)) fun _ => .check_bind (he.ne (by decide)) fun _ => .ok
    · exact .error (he.ne (by decide))

end

theorem xhrLoadNextChainEntry_avoids {xhr : XMLHttpRequest} :
    Avoids e (w.xhrLoadNextChainEntry x xhr) := by
  refine .check_bind (he.ne (by decide)) fun _ => ?_
  split
  · exact .error (he.ne (by decide))
  · refine .check_bind (he.ne (by decide)) fun _ => .bind (getResource_avoids he) fun _ _ => ?_
    refine .bind (resource_avoids he) fun _ _ => .check_bind (he.ne (by decide)) fun _ => ?_
    exact .bind (loadResource_avoids he) fun _ _ => .bind (addClient_avoids he) fun _ _ => .ok

include hrun in
theorem statement_avoids (s : Statement) : Avoids e (w.statement run s) := by
  cases s with
  | msleep => exact .ok
  | addElem x => exact addElem_avoids he hrun
  | schedRenderUpdateScope scopeId =>
    refine .check_bind (he.ne (by decide)) fun _ => .ite (fun _ => .ok) fun _ => ?_
    exact .check_bind (he.ne (by decide)) fun _ => .ok
  | startTimer timerID =>
    change Avoids e (w.startTimer timerID)
    rw [startTimer]
    split
    · exact .error (he.ne (by decide))
    · refine .check_bind (he.ne (by decide)) fun _ => .check_bind (he.ne (by decide)) fun _ => ?_
      refine .check_bind (he.ne (by decide)) fun _ => .check_bind (he.ne (by decide)) fun _ => ?_
      exact .check_bind (he.ne (by decide)) fun _ => .ok
  | cancelTimer timerID => exact .ok
  | setElemRes x n => exact setElemRes_avoids he hrun
  | sendXhr x =>
    change Avoids e (w.sendXhr x)
    rw [sendXhr]
    split
    · exact .error (he.ne (by decide))
    · exact .check_bind (he.ne (by decide)) fun _ => .check_bind (he.ne (by decide)) fun _ =>
        xhrLoadNextChainEntry_avoids he
  | fetchRes n => exact fetchRes_avoids he

theorem prepareScope_avoids {scopeId : ℕ} : Avoids e (w.prepareScope scopeId) := by
  refine .check_bind (he.ne (by decide)) fun _ => ?_
  split
  · exact .error (he.ne (by decide))
  · exact .ok

theorem executeScope_avoids (scopeId : ℕ) (w : World) : Avoids e (executeScope scopeId w) := by
  have hnested : ∀ scopeId w, Avoids e (nestedScope scopeId w) := fun _ _ =>
    .bind (prepareScope_avoids he) fun _ _ => .error (he.ne (by decide))
  exact .bind (prepareScope_avoids he) fun _ _ =>
    .foldlM (fun _ s => statement_avoids he hnested s) _

/-! ### The parser -/

theorem finishedParsing_avoids : Avoids e w.finishedParsing :=
  .bind (fireEventHandlingScopes_avoids (executeScope_avoids he)) fun _ _ => .ok

theorem attemptToEnd_avoids : Avoids e w.attemptToEnd :=
  .ite (fun _ => .ok) fun _ => finishedParsing_avoids he

theorem endIfDelayed_avoids : Avoids e w.endIfDelayed :=
  .ite (fun _ => .ok) fun _ => finishedParsing_avoids he

theorem preloadScan_avoids {l : List (ℕ × ℕ)} :
    ∀ {scanned : ℕ}, Avoids e (w.preloadScan l scanned) := by
  induction l with
  | nil =>
    intro scanned
    rw [preloadScan]
    exact .ite (fun _ => .ok) fun _ => .ok
  | cons p l ih =>
    intro scanned
    rw [preloadScan]
    refine .ite (fun _ => .ite (fun _ => ?_) fun _ => .ok) fun _ => .ok
    split
    · exact .error (he.ne (by decide))
    · exact .bind ih fun _ _ => .ok

theorem scanFrom_avoids {scanned : ℕ} : Avoids e (w.scanFrom scanned) := by
  rw [scanFrom]
  split
  · exact .ok
  · exact .bind (preloadScan_avoids he) fun _ _ => .foldlM (fun _ _ => fetchRes_avoids he) _

theorem doPreloadScanning_avoids : Avoids e w.doPreloadScanning := by
  refine .check_bind (he.ne (by decide)) fun _ => .ite (fun _ => .ok) fun _ => ?_
  exact .check_bind (he.ne (by decide)) fun _ => .ite (fun _ => .ok) fun _ => scanFrom_avoids he

theorem preloadIfBlocked_avoids : Avoids e w.preloadIfBlocked :=
  .doIf fun _ => doPreloadScanning_avoids he

theorem pumpLoop_avoids {limit : ℕ} {l : List (ℕ × ℕ)} :
    ∀ {w : World}, Avoids e (pumpLoop limit l w) := by
  induction l with
  | nil =>
    intro w
    rw [pumpLoop]
    exact .ite (fun _ => .ok) fun _ => .ok
  | cons p l ih =>
    intro w
    rw [pumpLoop]
    refine .ite (fun _ => .ite (fun _ => ?_) fun _ => .ok) fun _ => .ok
    exact .bind (addElem_avoids he (executeScope_avoids he)) fun _ _ => ih

theorem endOrYield_avoids {limit : ℕ} : Avoids e (w.endOrYield limit) := by
  refine .ite (fun _ => ?_) fun _ => .ite (fun _ => ?_) fun _ => .ok
  · exact .check_bind (he.ne (by decide)) fun _ => attemptToEnd_avoids he
  · exact .check_bind (he.ne (by decide)) fun _ => .ok

theorem pumpTokenizerIfPossible_avoids : Avoids e w.pumpTokenizerIfPossible := by
  refine .ite (fun _ => .ok) fun _ => .ite (fun _ => .ok) fun _ => .bind (pumpLoop_avoids he) ?_
  exact fun _ _ => .bind (endOrYield_avoids he) fun _ _ => .bind (preloadIfBlocked_avoids he) fun _ _ =>
    .ok

theorem pumpAndEnd_avoids : Avoids e w.pumpAndEnd :=
  .bind (pumpTokenizerIfPossible_avoids he) fun _ _ => endIfDelayed_avoids he

theorem executeParsingBlockingScriptsLoop_avoids {fuel : ℕ} :
    ∀ {w : World}, Avoids e (w.executeParsingBlockingScriptsLoop fuel) := by
  induction fuel with
  | zero => exact .error (he.ne (by decide))
  | succ fuel ih =>
    intro w
    rw [executeParsingBlockingScriptsLoop]
    split
    · exact .ok
    · refine .bind (isPendingScriptReady_avoids he) fun _ _ => .ite (fun _ => .bind ?_ fun _ _ => ih) ?_
      · exact executeParsingBlockingScript_avoids he (executeScope_avoids he)
      · exact fun _ => .ok

/-! ### The clients -/

theorem dataReceived_avoids {len : ℕ} : Avoids e (w.dataReceived n len c) := by
  cases c with
  | document =>
    refine .check_bind (he.ne (by decide)) fun _ => .bind ?_ fun _ _ => pumpTokenizerIfPossible_avoids he
    refine .check_bind (he.ne (by decide)) fun _ => .bind (preloadIfBlocked_avoids he) fun _ _ => ?_
    exact .ite (fun _ => .ok) fun _ => pumpAndEnd_avoids he
  | fetcher => exact .ok
  | parser => exact .ok
  | element x => exact .ok
  | xhr x => exact .ok

theorem xhrNotifyFinished_avoids {success : Bool} : Avoids e (w.xhrNotifyFinished x success) := by
  rw [xhrNotifyFinished]
  split
  · exact .error (he.ne (by decide))
  · refine .check_bind (he.ne (by decide)) fun _ => .ite (fun _ => .ok) fun _ => .ite (fun _ => ?_) ?_
    · exact .bind (fireEventHandlingScopes_avoids (executeScope_avoids he)) fun _ _ =>
        fireEventHandlingScopes_avoids (executeScope_avoids he)
    · exact fun _ => xhrLoadNextChainEntry_avoids he

theorem notifyFinished_avoids {success : Bool} : Avoids e (w.notifyFinished n success c) := by
  cases c with
  | fetcher => exact .ok
  | document =>
    refine .check_bind (he.ne (by decide)) fun _ => .check_bind (he.ne (by decide)) fun _ => ?_
    exact .check_bind (he.ne (by decide)) fun _ => attemptToEnd_avoids he
  | parser =>
    refine .check_bind (he.ne (by decide)) fun _ => .check_bind (he.ne (by decide)) fun _ => ?_
    refine .bind (executeParsingBlockingScriptsLoop_avoids he) fun _ _ => .ite (fun _ => ?_) fun _ => .ok
    exact .check_bind (he.ne (by decide)) fun _ => pumpAndEnd_avoids he
  | element x => exact elementNotifyFinished_avoids he
  | xhr x => exact xhrNotifyFinished_avoids he

theorem callClients_avoids {call : ResourceClient → World → Except PageCheck World}
    (hcall : ∀ c w, Avoids e (call c w)) {order : List ResourceClient} :
    ∀ {w : World}, Avoids e (w.callClients n call order) := by
  induction order with
  | nil => exact .ok
  | cons c order ih =>
    exact .bind (resource_avoids he) fun _ _ =>
      .ite (fun _ => .bind (hcall _ _) fun _ _ => ih) fun _ => ih

theorem notifyAllFinished_avoids {success : Bool} {order : List ResourceClient} :
    Avoids e (w.notifyAllFinished n success order) := by
  refine .bind (resource_avoids he) fun _ _ => .bind (.ite (fun _ => ?_) fun _ => .ok) fun _ _ => ?_
  · exact .check_bind (he.ne (by decide)) fun _ => .ok
  · exact .check_bind (he.ne (by decide)) fun _ =>
      callClients_avoids he fun _ _ => notifyFinished_avoids he

/-! ### What ends a task -/

theorem doEndOfTaskWork_avoids : Avoids e w.doEndOfTaskWork :=
  .ite (fun _ => executeScope_avoids he _ _) fun _ => .ok

theorem maybeLoadUnloadedResources_avoids : Avoids e w.maybeLoadUnloadedResources := by
  refine .ite (fun _ => .foldlM (fun w p => ?_) _) fun _ => .ok
  exact .bind (getResource_avoids he) fun _ _ => .bind (resource_avoids he) fun _ _ =>
    .ite (fun _ => loadResource_avoids he) fun _ => .ok

omit he

/-! ### The bytes of an answer -/

/-- What has come of an answer is no more than was asked for. -/
theorem appendData_avoids {len : ℕ} (he : e.OfBytes) (hfits : ∀ r info,
      w.fetcher.documentResources n = some r →
      r.info.reqChain[r.currentReqChainIdx.toNat]? = some info →
      r.currentReqBodyBytesRecv + len ≤ info.respBodySize) : Avoids e (w.appendData n len) := by
  refine .bind (resource_avoids he) fun r hr => ?_
  split
  · exact .error (he.ne (by decide))
  · next info hinfo =>
    refine .check_bind_of (hfits r info (resource_eq_ok hr) hinfo) (.ite (fun _ => ?_) fun _ => .ok)
    exact .bind (resource_avoids he) fun _ _ => callClients_avoids he fun _ _ => dataReceived_avoids he

/-- All that was asked for has come when the request succeeds. -/
theorem finish_avoids {success : Bool} {order : List ResourceClient} (he : e.OfBytes)
    (hfits : success = true → ∀ r info, w.fetcher.documentResources n = some r →
      r.info.reqChain[r.currentReqChainIdx.toNat]? = some info →
      r.currentReqBodyBytesRecv = info.respBodySize) : Avoids e (w.finish n success order) := by
  refine .bind (resource_avoids he) fun r hr => .check_bind (he.ne (by decide)) fun _ => ?_
  refine .ite (fun hsuccess => ?_) fun _ => notifyAllFinished_avoids he
  split
  · exact .error (he.ne (by decide))
  · next info hinfo =>
    refine .check_bind_of (hfits hsuccess r info (resource_eq_ok hr) hinfo) (.ite (fun _ => ?_) ?_)
    · refine .bind ?_ fun _ _ => notifyAllFinished_avoids he
      rw [parseIfStylesheet]
      split
      · exact executeScope_avoids he _ _
      · exact .ok
    · exact fun _ => loadNextChainEntry_avoids he

/-- **A message of the io service** does not fail with the checks of the bytes when these are right. -/
theorem message_avoids {msg : ResourceMsg} (he : e.OfBytes) (hfits : ∀ ref r info,
      w.engine.pendingRequests.lookup msg.reqId = some ref →
      w.fetcher.documentResources ref.instNum = some r →
      r.info.reqChain[r.currentReqChainIdx.toNat]? = some info →
      match msg with
      | .receivedResponse _ _ => True
      | .dataReceived _ len => r.currentReqBodyBytesRecv + len ≤ info.respBodySize
      | .requestComplete _ success _ =>
        success = true → r.currentReqBodyBytesRecv = info.respBodySize) :
    Avoids e (Renderer.pageMessage w msg) := by
  cases msg with
  | receivedResponse id firstByteTimeMs =>
    refine .bind ?_ fun _ _ => .ok
    rw [handleReceivedResponse]
    split
    · exact .ok
    · refine .check_bind (he.ne (by decide)) fun _ => .bind (.bind (resource_avoids he) fun _ _ => ?_) ?_
      · exact .ite (fun _ => .check_bind (he.ne (by decide)) fun _ => .ok) fun _ => .ok
      · exact fun _ _ => doEndOfTaskWork_avoids he
  | dataReceived id len =>
    refine .bind ?_ fun _ _ => .ok
    rw [handleDataReceived]
    split
    · exact .ok
    · next ref hlookup =>
      refine .check_bind (he.ne (by decide)) fun _ => .bind ?_ fun _ _ => doEndOfTaskWork_avoids he
      exact appendData_avoids he fun r info => hfits ref r info hlookup
  | requestComplete id success order =>
    change Avoids e (w.handleRequestComplete id success order)
    rw [handleRequestComplete]
    split
    · exact .ok
    · next ref hlookup =>
      refine .check_bind (he.ne (by decide)) fun _ => .ite (fun _ => .ok) fun _ => ?_
      refine .bind (finish_avoids he fun hsuccess r info hr hinfo => ?_) fun _ _ => ?_
      · exact hfits ref r info hlookup hr hinfo hsuccess
      · exact .bind (doEndOfTaskWork_avoids he) fun _ _ =>
          .bind (maybeLoadUnloadedResources_avoids he) fun _ _ => .ok

end World

end ShadowBrowser.Blink
