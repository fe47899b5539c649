/-
What the clients of a resource do when they are told about it, step by step.

* `ClientStep` — a script step, a change of the parser's own or of the document, the end of the
  document, or the look at whether the page is complete;
* `Told` — any number of them;
* `notifyFinished_told`, `dataReceived_told` — telling a client does nothing else, and neither do the
  timers of the parser and the document;
* `callClients_invariant` — what the call of a client keeps, the calls of all clients keep;
* `Notified` — what happens when all clients are called, the calls themselves among it.
-/
import ShadowBrowser.PageSteps
import ShadowBrowser.Renderer

namespace ShadowBrowser.Blink

open Checked Runs Relation World

/-- One thing that happens when a client is told about its resource. -/
inductive ClientStep : World → World → Prop
  | script {w w' : World} : ScriptStep w w' → ClientStep w w'
  /-- The parser goes on. -/
  | parser {w : World} (parser : HTMLDocumentParser) : ClientStep w { w with parser }
  /-- A sheet is no longer pending, or the timer for the scripts that waited for it has fired. -/
  | document {w : World} (objects : ℕ → Option Element) (pendingStylesheets : List ℕ)
      (executeScriptsWaitingForResourcesTimer : Bool) :
      ClientStep w { w with document := { w.document with
        objects, pendingStylesheets, executeScriptsWaitingForResourcesTimer } }
  /-- The end of the document is reported. -/
  | ended {w w' : World} : w.finishedParsing = .ok w' → ClientStep w w'
  /-- Whether the page is complete is to be looked at. -/
  | checked {w : World} : ClientStep w w.checkCompleted
  /-- A resource is noted that is loaded though nothing has asked for it. -/
  | forced {w : World} (forcedLoadResInstNums : List ℕ) :
      ClientStep w { w with engine := { w.engine with forcedLoadResInstNums } }

/-- Any number of things that happen when a client is told. -/
abbrev Told : World → World → Prop := ReflTransGen ClientStep

namespace World

variable {w w' : World} {n e : ℕ}

theorem told_of_scripted (h : Scripted w w') : Told w w' :=
  ReflTransGen.mono (fun _ _ => ClientStep.script) w w' h

theorem told_setParser (parser : HTMLDocumentParser) : Told w { w with parser } :=
  .single (.parser parser)

/-! ### The parser -/

theorem parserEnd_told (h : w.parserEnd = .ok w') : Told w w' :=
  (told_setParser { w.parser with doneParsing := true, ends := w.parser.ends + 1 }).trans
    (.single (.ended h))

theorem attemptToEnd_told (h : w.attemptToEnd = .ok w') : Told w w' := by
  rw [attemptToEnd] at h
  split_ifs at h
  · cases h
    exact told_setParser _
  · exact parserEnd_told h

theorem endIfDelayed_told (h : w.endIfDelayed = .ok w') : Told w w' := by
  rw [endIfDelayed] at h
  split_ifs at h
  · cases h
    exact .refl
  · exact (told_setParser _).trans (parserEnd_told h)

theorem scanFrom_told {scanned : ℕ} (h : w.scanFrom scanned = .ok w') : Told w w' := by
  rw [scanFrom] at h
  split at h
  · cases h
    exact .refl
  · obtain ⟨⟨scanned, noMore, ns⟩, _, h⟩ := bind_eq_ok.mp h
    exact (told_setParser _).trans
      (told_of_scripted (star_of_foldlM (fun _ _ _ => fetchRes_scripted) h))

theorem doPreloadScanning_told (h : w.doPreloadScanning = .ok w') : Told w w' := by
  obtain ⟨_, _, h⟩ := bind_eq_ok.mp h
  refine (told_setParser { w.parser with
    numPreloadScannedBytes := max w.parser.numPreloadScannedBytes w.parser.numBytesParsed }).trans ?_
  by_cases hall : max w.parser.numPreloadScannedBytes w.parser.numBytesParsed =
      w.parser.numBytesReceived
  · dsimp only at h
    rw [if_pos hall] at h
    cases h
    exact .refl
  · dsimp only at h
    rw [if_neg hall] at h
    obtain ⟨_, _, h⟩ := bind_eq_ok.mp h
    split_ifs at h
    · cases h
      exact .refl
    · exact scanFrom_told h

theorem preloadIfBlocked_told (h : w.preloadIfBlocked = .ok w') : Told w w' := by
  rcases doIf_eq_ok h with ⟨_, h⟩ | ⟨_, rfl⟩
  · exact doPreloadScanning_told h
  · exact .refl

theorem pumpLoop_told {limit : ℕ} {l : List (ℕ × ℕ)} :
    ∀ {w w' : World}, pumpLoop limit l w = .ok w' → Told w w' := by
  induction l with
  | nil =>
    intro w w' h
    rw [pumpLoop] at h
    split_ifs at h
    · cases h
      exact told_setParser _
    · cases h
      exact .refl
  | cons x l ih =>
    intro w w' h
    rw [pumpLoop] at h
    split_ifs at h
    · obtain ⟨w₁, hadd, h⟩ := bind_eq_ok.mp h
      exact ((told_setParser _).trans (told_of_scripted (addElem_scripted executeScope_scripted
        hadd))).trans (ih h)
    · cases h
      exact told_setParser _
    · cases h
      exact .refl

theorem endOrYield_told {limit : ℕ} (h : w.endOrYield limit = .ok w') : Told w w' := by
  rw [endOrYield] at h
  split_ifs at h
  · obtain ⟨_, _, h⟩ := bind_eq_ok.mp h
    exact attemptToEnd_told h
  · obtain ⟨_, _, h⟩ := bind_eq_ok.mp h
    cases h
    exact told_setParser _
  · cases h
    exact .refl

theorem pumpTokenizer_told (h : w.pumpTokenizer = .ok w') : Told w w' := by
  obtain ⟨w₁, hloop, h⟩ := bind_eq_ok.mp h
  obtain ⟨w₂, hend, h⟩ := bind_eq_ok.mp h
  obtain ⟨w₃, hpreload, h⟩ := bind_eq_ok.mp h
  cases h
  calc Told w _ := told_setParser { w.parser with
        pumpSessionNestingLevel := w.parser.pumpSessionNestingLevel + 1 }
    Told _ w₁ := pumpLoop_told hloop
    Told w₁ w₂ := endOrYield_told hend
    Told w₂ w₃ := preloadIfBlocked_told hpreload
    Told w₃ _ := told_setParser _

theorem pumpTokenizerIfPossible_told (h : w.pumpTokenizerIfPossible = .ok w') : Told w w' := by
  rw [pumpTokenizerIfPossible] at h
  split_ifs at h
  · cases h
    exact .refl
  · cases h
    exact .refl
  · exact pumpTokenizer_told h

theorem pumpAndEnd_told (h : w.pumpAndEnd = .ok w') : Told w w' := by
  obtain ⟨w₁, hpump, h⟩ := bind_eq_ok.mp h
  exact (pumpTokenizerIfPossible_told hpump).trans (endIfDelayed_told h)

theorem appendBytes_told {len : ℕ} (h : w.appendBytes len = .ok w') : Told w w' := by
  obtain ⟨_, _, h⟩ := bind_eq_ok.mp h
  obtain ⟨w₁, hpreload, h⟩ := bind_eq_ok.mp h
  refine ((told_setParser _).trans (preloadIfBlocked_told hpreload)).trans ?_
  split_ifs at h
  · cases h
    exact .refl
  · exact pumpAndEnd_told h

theorem finishReceive_told (h : w.finishReceive = .ok w') : Told w w' := by
  obtain ⟨_, _, h⟩ := bind_eq_ok.mp h
  exact (told_setParser _).trans (attemptToEnd_told h)

theorem executeParsingBlockingScriptsLoop_told {fuel : ℕ} :
    ∀ {w w' : World}, executeParsingBlockingScriptsLoop fuel w = .ok w' → Told w w' := by
  induction fuel with
  | zero =>
    intro w w' h
    cases h
  | succ fuel ih =>
    intro w w' h
    rw [executeParsingBlockingScriptsLoop] at h
    split at h
    · cases h
      exact .refl
    · obtain ⟨⟨w₁, ready⟩, hready, h⟩ := bind_eq_ok.mp h
      refine (told_of_scripted (isPendingScriptReady_scripted hready)).trans ?_
      dsimp only at h
      split_ifs at h
      · obtain ⟨w₂, hexec, h⟩ := bind_eq_ok.mp h
        exact (told_of_scripted (executeParsingBlockingScript_scripted executeScope_scripted
          hexec)).trans (ih h)
      · cases h
        exact .refl

theorem executeScriptsAndResume_told (h : w.executeScriptsAndResume = .ok w') : Told w w' := by
  obtain ⟨w₁, hexec, h⟩ := bind_eq_ok.mp h
  refine (executeParsingBlockingScriptsLoop_told hexec).trans ?_
  split_ifs at h
  · obtain ⟨_, _, h⟩ := bind_eq_ok.mp h
    exact pumpAndEnd_told h
  · cases h
    exact .refl

theorem resumeTimerFired_told (h : w.resumeTimerFired = .ok w') : Told w w' := by
  obtain ⟨_, _, h⟩ := bind_eq_ok.mp h
  exact (told_setParser _).trans (pumpAndEnd_told h)

/-! ### The document -/

theorem documentDataReceived_told {len : ℕ} (h : w.documentDataReceived len = .ok w') :
    Told w w' := by
  obtain ⟨w₁, happend, h⟩ := bind_eq_ok.mp h
  exact (appendBytes_told happend).trans (pumpTokenizerIfPossible_told h)

theorem scriptsTimerFired_told (h : w.scriptsTimerFired = .ok w') : Told w w' := by
  obtain ⟨_, _, h⟩ := bind_eq_ok.mp h
  refine ReflTransGen.trans (.single (.document w.document.objects w.document.pendingStylesheets
    false)) ?_
  dsimp only at h
  split_ifs at h
  · exact executeScriptsAndResume_told h
  · cases h
    exact .refl

/-! ### The clients -/

theorem elementNotifyFinished_told (h : w.elementNotifyFinished e = .ok w') : Told w w' := by
  obtain ⟨el, _, h⟩ := bind_eq_ok.mp h
  split at h
  · obtain ⟨_, _, h⟩ := bind_eq_ok.mp h
    cases h
    exact .single (.document _ _ _)
  · cases h
    exact .refl

theorem xhrNotifyFinished_scripted {x : ℕ} {success : Bool}
    (h : w.xhrNotifyFinished x success = .ok w') : Scripted w w' := by
  rw [xhrNotifyFinished] at h
  split at h
  · cases h
  · obtain ⟨_, _, h⟩ := bind_eq_ok.mp h
    split_ifs at h
    · cases h
      exact .refl
    · obtain ⟨w₁, hdone, h⟩ := bind_eq_ok.mp h
      calc Scripted w _ := .single (.engine w.engine.scheduledRenderTreeUpdateScopeId
            w.engine.executedScopeIds w.engine.domTimers _)
        Scripted _ w₁ := fireEventHandlingScopes_scripted executeScope_scripted hdone
        Scripted w₁ w' := fireEventHandlingScopes_scripted executeScope_scripted h
    · exact xhrLoadNextChainEntry_scripted h

/-- **What telling a client does.** -/
theorem notifyFinished_told {success : Bool} {c : ResourceClient}
    (h : w.notifyFinished n success c = .ok w') : Told w w' := by
  cases c with
  | fetcher =>
    cases h
    exact .single .checked
  | document =>
    obtain ⟨_, _, h⟩ := bind_eq_ok.mp h
    obtain ⟨_, _, h⟩ := bind_eq_ok.mp h
    exact finishReceive_told h
  | parser =>
    obtain ⟨_, _, h⟩ := bind_eq_ok.mp h
    obtain ⟨_, _, h⟩ := bind_eq_ok.mp h
    exact executeScriptsAndResume_told h
  | element e => exact elementNotifyFinished_told h
  | xhr x => exact told_of_scripted (xhrNotifyFinished_scripted h)

/-- **What sending data to a client does.** -/
theorem dataReceived_told {len : ℕ} {c : ResourceClient} (h : w.dataReceived n len c = .ok w') :
    Told w w' := by
  cases c with
  | document =>
    obtain ⟨_, _, h⟩ := bind_eq_ok.mp h
    exact documentDataReceived_told h
  | fetcher =>
    cases h
    exact .refl
  | parser =>
    cases h
    exact .refl
  | element e =>
    cases h
    exact .refl
  | xhr x =>
    cases h
    exact .refl

/-! ### All clients are told -/

variable {call : ResourceClient → World → Except PageCheck World} {order : List ResourceClient}

/-- **What each call keeps** holds when all clients have been called. -/
theorem callClients_invariant {P : World → Prop}
    (hcall : ∀ {c v v'}, P v → call c v = .ok v' → P v') :
    ∀ {w w' : World}, P w → w.callClients n call order = .ok w' → P w' := by
  induction order with
  | nil =>
    intro w w' hw h
    cases h
    exact hw
  | cons c order ih =>
    intro w w' hw h
    obtain ⟨r, _, h⟩ := bind_eq_ok.mp h
    split_ifs at h
    · obtain ⟨w₁, hc, h⟩ := bind_eq_ok.mp h
      exact ih (hcall hw hc) h
    · exact ih hw h

/-- The calls of the clients, in steps. -/
theorem callClients_star {s : World → World → Prop}
    (hcall : ∀ {c v v'}, call c v = .ok v' → ReflTransGen s v v')
    (h : w.callClients n call order = .ok w') : ReflTransGen s w w' :=
  callClients_invariant (P := ReflTransGen s w) (fun hv hc => hv.trans (hcall hc)) .refl h

end World

/-- One thing that happens when the clients of a resource are told: one of them is called, or does
something. -/
inductive NoticeStep : World → World → Prop
  | called {w : World} (m : Notice) : NoticeStep w (w.note m)
  | client {w w' : World} : ClientStep w w' → NoticeStep w w'

/-- Any number of things that happen when the clients are told. -/
abbrev Notified : World → World → Prop := ReflTransGen NoticeStep

/-- What a client step keeps, and a notice does not change. -/
theorem Notified.invariant {P : World → Prop} (hnote : ∀ {v m}, P v → P (v.note m))
    (hclient : Closed P ClientStep) {w w' : World} (hw : P w) (h : Notified w w') : P w' := by
  refine Closed.star ?_ w w' hw h
  intro v v' hv hstep
  cases hstep with
  | called m => exact hnote hv
  | client hclient' => exact hclient v v' hv hclient'

namespace World

variable {w w' : World} {n e : ℕ} {c : ResourceClient}

theorem notified_of_told (h : Told w w') : Notified w w' :=
  ReflTransGen.mono (fun _ _ => NoticeStep.client) w w' h

theorem tellFinished_notified {success : Bool} (h : w.tellFinished n success c = .ok w') :
    Notified w w' :=
  ReflTransGen.head (.called _) (notified_of_told (notifyFinished_told h))

theorem tellData_notified {len : ℕ} (h : w.tellData n len c = .ok w') : Notified w w' :=
  ReflTransGen.head (.called _) (notified_of_told (dataReceived_told h))

theorem notifyNewData_notified {len : ℕ} (h : w.notifyNewData n len = .ok w') : Notified w w' := by
  obtain ⟨r, _, h⟩ := bind_eq_ok.mp h
  exact callClients_star tellData_notified h

/-- **Data is received**: it is counted, and the clients are told when it is the last answer's. -/
theorem appendData_cases {len : ℕ} (h : w.appendData n len = .ok w') :
    ∃ r, w.fetcher.documentResources n = some r ∧
      ((r.receivingRealResource ∧ (w.setResource n { r with
          currentReqBodyBytesRecv := r.currentReqBodyBytesRecv + len }).notifyNewData n len = .ok w') ∨
        (¬ r.receivingRealResource ∧ w' = w.setResource n { r with
          currentReqBodyBytesRecv := r.currentReqBodyBytesRecv + len })) := by
  obtain ⟨r, hr, h⟩ := bind_eq_ok.mp h
  refine ⟨r, resource_eq_ok hr, ?_⟩
  split at h
  · cases h
  · obtain ⟨_, _, h⟩ := bind_eq_ok.mp h
    by_cases hreal : r.receivingRealResource
    · rw [if_pos hreal] at h
      exact .inl ⟨hreal, h⟩
    · rw [if_neg hreal] at h
      cases h
      exact .inr ⟨hreal, rfl⟩

theorem appendData_notified {len : ℕ} (h : w.appendData n len = .ok w') :
    ∃ r, w.fetcher.documentResources n = some r ∧ Notified (w.setResource n { r with
      currentReqBodyBytesRecv := r.currentReqBodyBytesRecv + len }) w' := by
  obtain ⟨r, hr, ⟨_, h⟩ | ⟨_, rfl⟩⟩ := appendData_cases h
  · exact ⟨r, hr, notifyNewData_notified h⟩
  · exact ⟨r, hr, .refl⟩

/-! ### What ends a task -/

theorem parseIfStylesheet_scripted {r : Resource} (h : w.parseIfStylesheet r = .ok w') :
    Scripted w w' := by
  rw [parseIfStylesheet] at h
  split at h
  · exact executeScope_scripted _ _ _ h
  · cases h
    exact .refl

theorem doEndOfTaskWork_scripted (h : w.doEndOfTaskWork = .ok w') : Scripted w w' := by
  rw [doEndOfTaskWork] at h
  split_ifs at h
  · calc Scripted w _ := .single (.updates
          (w.updates ++ [.update w.engine.scheduledRenderTreeUpdateScopeId]))
      Scripted _ _ := .single (.engine 0 w.engine.executedScopeIds w.engine.domTimers w.engine.xhrs)
      Scripted _ w' := executeScope_scripted _ _ _ h
  · cases h
    exact .refl

theorem domTimerFired_scripted {timerID : ℕ} (h : w.domTimerFired timerID = .ok w') :
    Scripted w w' := by
  rw [domTimerFired] at h
  split at h
  · cases h
  · obtain ⟨_, _, h⟩ := bind_eq_ok.mp h
    split at h
    · cases h
    · obtain ⟨w₁, hscope, h⟩ := bind_eq_ok.mp h
      calc Scripted w _ := .single (.engine w.engine.scheduledRenderTreeUpdateScopeId
            w.engine.executedScopeIds _ w.engine.xhrs)
        Scripted _ w₁ := executeScope_scripted _ _ _ hscope
        Scripted w₁ w' := doEndOfTaskWork_scripted h

/-- The scopes of the document are executed once the page is complete. -/
theorem completeDocument_cases (h : w.completeDocument = .ok w') :
    Scripted { w with document := { w.document with readyState := .complete } } w' := by
  obtain ⟨w₁, hchange, h⟩ := bind_eq_ok.mp h
  refine ReflTransGen.trans ?_ (fireEventHandlingScopes_scripted executeScope_scripted h)
  rcases doIf_eq_ok hchange with ⟨_, hchange⟩ | ⟨_, rfl⟩
  · exact fireEventHandlingScopes_scripted executeScope_scripted hchange
  · exact .refl

theorem forceLoad_told (h : w.forceLoad n = .ok w') : Told w w' := by
  obtain ⟨w₁, hget, h⟩ := bind_eq_ok.mp h
  obtain ⟨r, _, h⟩ := bind_eq_ok.mp h
  refine (told_of_scripted (getResource_scripted hget)).trans ?_
  split_ifs at h
  · exact ReflTransGen.trans (.single (.forced _)) (told_of_scripted (loadResource_scripted h))
  · cases h
    exact .refl

theorem maybeLoadUnloadedResources_told (h : w.maybeLoadUnloadedResources = .ok w') :
    Told w w' := by
  rw [maybeLoadUnloadedResources] at h
  split_ifs at h
  · exact star_of_foldlM (fun _ _ _ => forceLoad_told) h
  · cases h
    exact .refl

/-! ### A request is over -/

/-- How a request ends: with the resource, with the next request of its chain, or with a failure. -/
inductive Finish (w : World) (n : ℕ) (r : Resource) (order : List ResourceClient) :
    Bool → World → Prop
  | finished {w₁ w' : World} : r.receivingRealResource →
      parseIfStylesheet r ((w.tellDriver (.requestFinished n r.currentReqChainIdx true)).setResource n
        { r with currentReqBodyBytesRecv := 0, loadState := .finished, errored := false }) = .ok w₁ →
      w₁.notifyAllFinished n true order = .ok w' → Finish w n r order true w'
  | next (info : RequestInfo) : ¬ r.receivingRealResource → Finish w n r order true
      (((w.tellDriver (.requestFinished n r.currentReqChainIdx true)).setResource n
        { r with currentReqBodyBytesRecv := 0 }).issued n { r with currentReqBodyBytesRecv := 0 } info)
  | failed {w' : World} :
      notifyAllFinished n false order
        ((w.tellDriver (.requestFinished n r.currentReqChainIdx false)).setResource n
          { r with errored := true }) = .ok w' →
      Finish w n r order false w'

theorem finish_cases {success : Bool} {order : List ResourceClient}
    (h : w.finish n success order = .ok w') :
    ∃ r, w.fetcher.documentResources n = some r ∧ r.loadState = .loading ∧
      Finish w n r order success w' := by
  obtain ⟨r, hr, h⟩ := bind_eq_ok.mp h
  obtain ⟨_, hloading, h⟩ := bind_eq_ok.mp h
  refine ⟨r, resource_eq_ok hr, check_eq_ok.mp hloading, ?_⟩
  cases success with
  | false => exact .failed h
  | true =>
    dsimp only at h
    rw [if_pos rfl] at h
    split at h
    · cases h
    · obtain ⟨_, _, h⟩ := bind_eq_ok.mp h
      by_cases hreal : r.receivingRealResource
      · rw [if_pos hreal] at h
        obtain ⟨w₁, hparse, h⟩ := bind_eq_ok.mp h
        exact .finished hreal hparse h
      · rw [if_neg hreal] at h
        obtain ⟨r', info, hr', _, _, rfl⟩ := loadNextChainEntry_cases h
        rw [setResource_self] at hr'
        cases hr'
        exact .next info hreal

end World

end ShadowBrowser.Blink
