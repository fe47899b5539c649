/-
What happens to the scopes of a page in an event.

Each function of the page is a chain of the steps of `ScopeStep`: those that execute scopes are walked
through here, from the statements of a script to the events of the renderer.

* `statement_moves`, `executeScope_moves` — scripts;
* `pumpAndEnd_moves`, `notifyFinished_moves` — the parser, and the clients of a resource;
* `Renderer.pageStep_moves` — the events of a page;
* **`Renderer.acts_of_run`** — every page that is reached has come from a new one in such steps.
-/
import ShadowBrowser.ScopeSteps

namespace ShadowBrowser.Blink

open Checked Runs Relation World

/-- The scopes that something uses are executed in steps. -/
def RunsMoves (run : RunScope) : Prop :=
  ∀ scopeId w w', w.model.Uses scopeId → run scopeId w = .ok w' → Moves w w'

namespace World

variable {w w' : World} {n e : ℕ} {run : RunScope}

theorem fireEventHandlingScopes_moves (hrun : RunsMoves run) {scopes : EventScopes}
    {name : EventName} (huses : ∀ s ∈ scopes, w.model.Uses s.2)
    (h : w.fireEventHandlingScopes run scopes name = .ok w') : Moves w w' := by
  refine Moves.of_foldlM ?_ h
  intro s hs v v' hv hscope
  exact hrun s.2 v v' (hv ▸ huses s (List.mem_filter.mp hs).1) hscope

/-! ### Scripts that block the parser -/

theorem executeScript_moves (hrun : RunsMoves run) {scopeId : ℕ} (huses : w.model.Uses scopeId)
    (h : w.executeScript run scopeId = .ok w') : Moves w w' := by
  obtain ⟨_, _, h⟩ := bind_eq_ok.mp h
  obtain ⟨w₁, hscope, h⟩ := bind_eq_ok.mp h
  cases h
  calc Moves w _ := (quiet_setParser { w.parser with isExecutingScript := true }).moves
    Moves _ w₁ := hrun _ _ _ huses hscope
    Moves w₁ _ := (quiet_setParser _).moves

theorem executeParsingBlockingScript_moves (hrun : RunsMoves run)
    (h : w.executeParsingBlockingScript run = .ok w') : Moves w w' := by
  obtain ⟨_, _, h⟩ := bind_eq_ok.mp h
  obtain ⟨_, _, h⟩ := bind_eq_ok.mp h
  split at h
  · cases h
  · obtain ⟨⟨w₁, ready⟩, hready, h⟩ := bind_eq_ok.mp h
    obtain ⟨_, _, h⟩ := bind_eq_ok.mp h
    obtain ⟨el, hel, h⟩ := bind_eq_ok.mp h
    split at h
    · next hkind =>
      refine (isPendingScriptReady_quiet hready).moves.trans fun hw => ?_
      have huses := hw.scripts _ el _ _ _ (object_eq_ok hel) hkind
      exact ((setBlocking_quiet none).moves.trans (executeScript_moves hrun huses h)) hw
    · cases h

theorem setParserBlockingScript_moves (hrun : RunsMoves run)
    (h : w.setParserBlockingScript run e = .ok w') : Moves w w' := by
  obtain ⟨_, _, h⟩ := bind_eq_ok.mp h
  obtain ⟨el, _, h⟩ := bind_eq_ok.mp h
  refine (setBlocking_quiet (some e)).moves.trans ?_
  split at h
  · obtain ⟨_, _, h⟩ := bind_eq_ok.mp h
    split_ifs at h
    · obtain ⟨_, _, h⟩ := bind_eq_ok.mp h
      exact executeParsingBlockingScript_moves hrun h
    · obtain ⟨⟨w₁, ready⟩, hready, h⟩ := bind_eq_ok.mp h
      refine (isPendingScriptReady_quiet hready).moves.trans ?_
      dsimp only at h
      split_ifs at h
      · exact executeParsingBlockingScript_moves hrun h
      · exact (watchScript_quiet h).moves
  · cases h

/-! ### The calls of a script -/

theorem addElem_moves (hrun : RunsMoves run) (h : w.addElem run e = .ok w') : Moves w w' := by
  obtain ⟨_, _, h⟩ := bind_eq_ok.mp h
  split at h
  · cases h
  · next info hinfo =>
    split at h
    · -- of the elements only scripts run something when they are added
      next htag =>
      obtain ⟨w₁, hnew, h⟩ := bind_eq_ok.mp h
      obtain ⟨_, _, h⟩ := bind_eq_ok.mp h
      obtain ⟨_, _, h⟩ := bind_eq_ok.mp h
      obtain ⟨w₂, hblock, h⟩ := bind_eq_ok.mp h
      have hmade : Quiet w w₁ := by
        refine newElement_quiet ?_ hnew
        intro execImmediately blocks scopeId hkind
        cases hkind
        exact .script hinfo htag
      have hblocking : Moves w₁ w₂ := by
        rcases doIf_eq_ok hblock with ⟨_, hblock⟩ | ⟨_, rfl⟩
        · exact setParserBlockingScript_moves hrun hblock
        · exact .refl _
      calc Moves w w₁ := hmade.moves
        Moves w₁ w₂ := hblocking
        Moves w₂ w' := (insertElement_quiet h).moves
    · obtain ⟨w₁, hnew, h⟩ := bind_eq_ok.mp h
      obtain ⟨_, _, h⟩ := bind_eq_ok.mp h
      obtain ⟨w₂, hblock, h⟩ := bind_eq_ok.mp h
      have hmade : Quiet w w₁ := newElement_quiet (fun _ _ _ hkind => by cases hkind) hnew
      exact ((hmade.trans (blockAtFirst_quiet hblock)).trans (insertElement_quiet h)).moves
    · obtain ⟨w₁, hnew, h⟩ := bind_eq_ok.mp h
      have hmade : Quiet w w₁ := newElement_quiet (fun _ _ _ hkind => by cases hkind) hnew
      exact (hmade.trans (insertElement_quiet h)).moves
    · exact fun _ => .single (.body h)
    · cases h

/-- **A call of a script.**  It cannot execute a scope. -/
theorem statement_moves (hrun : RunsMoves nestedScope) {s : Statement}
    (huses : ∀ scopeId, s = .schedRenderUpdateScope scopeId → w.model.Uses scopeId)
    (h : w.statement nestedScope s = .ok w') : Moves w w' := by
  cases s with
  | msleep =>
    cases h
    exact .refl _
  | addElem e => exact addElem_moves hrun h
  | schedRenderUpdateScope scopeId =>
    by_cases hne : scopeId = w.engine.initialRenderTreeUpdateScopeId
    · obtain ⟨_, _, h⟩ := bind_eq_ok.mp h
      rw [if_pos hne] at h
      cases h
      exact .refl _
    · exact fun _ => .single (.schedule (huses scopeId rfl) hne h)
  | startTimer timerID => exact (startTimer_quiet h).moves
  | cancelTimer timerID =>
    cases h
    exact (cancelTimer_quiet timerID).moves
  | setElemRes e n => exact (setElemRes_quiet h).moves
  | sendXhr x => exact (sendXhr_quiet h).moves
  | fetchRes n => exact (fetchRes_quiet h).moves

theorem nestedScope_moves : RunsMoves nestedScope :=
  fun _ _ _ _ h => absurd h nestedScope_ne_ok

/-- The calls of a scope. -/
theorem statements_moves {scopeId : ℕ} {statements : List Statement}
    (hfound : w.model.execScopes.lookup scopeId = some statements)
    (h : statements.foldlM (fun w s => w.statement nestedScope s) w = .ok w') : Moves w w' := by
  refine Moves.of_foldlM ?_ h
  intro s hs v v' hv hstatement
  refine statement_moves nestedScope_moves ?_ hstatement
  rintro updateId rfl
  have hfound' : v.model.execScopes.lookup scopeId = some statements := hv ▸ hfound
  exact .update hfound' hs

/-- **A scope is executed.** -/
theorem executeScope_moves : RunsMoves executeScope := by
  intro scopeId w w' huses h
  obtain ⟨⟨w₁, statements⟩, hprepare, h⟩ := bind_eq_ok.mp h
  obtain ⟨_, hfound, rfl⟩ := prepareScope_cases hprepare
  have hfirst : Moves w _ := fun _ => .single (.execute huses hprepare)
  exact hfirst.trans (statements_moves hfound h)

/-- The update that is scheduled is executed at the end of a task, and then its calls are made. -/
theorem doEndOfTaskWork_cases (h : w.doEndOfTaskWork = .ok w') :
    (w.engine.scheduledRenderTreeUpdateScopeId = 0 ∧ w' = w) ∨
      ∃ w₁ statements, w.engine.scheduledRenderTreeUpdateScopeId ≠ 0 ∧
        w.takeUpdate.prepareScope w.engine.scheduledRenderTreeUpdateScopeId = .ok (w₁, statements) ∧
        Moves w₁ w' := by
  rw [doEndOfTaskWork] at h
  split_ifs at h with hslot
  · obtain ⟨⟨w₁, statements⟩, hprepare, h⟩ := bind_eq_ok.mp h
    refine .inr ⟨w₁, statements, hslot, hprepare, ?_⟩
    obtain ⟨_, hfound, rfl⟩ := prepareScope_cases hprepare
    exact statements_moves hfound h
  · cases h
    exact .inl ⟨not_not.mp hslot, rfl⟩

theorem doEndOfTaskWork_moves (h : w.doEndOfTaskWork = .ok w') : Moves w w' := by
  rcases doEndOfTaskWork_cases h with ⟨_, rfl⟩ | ⟨w₁, _, hslot, hprepare, hmoves⟩
  · exact .refl _
  · exact Moves.trans (fun _ => .single (.update hslot hprepare)) hmoves

/-! ### The parser -/

theorem checkCompleted_quiet : Quiet w w.checkCompleted := by
  rw [checkCompleted]
  split
  · exact quiet_setEngine rfl rfl rfl rfl rfl
  · exact .refl w

/-- The handling scopes of the document are executed. -/
theorem fireDocument_moves {name : EventName}
    (h : w.fireEventHandlingScopes executeScope w.document.eventHandlingScopes name = .ok w') :
    Moves w w' := by
  intro hw
  refine fireEventHandlingScopes_moves executeScope_moves ?_ h hw
  intro s hs
  exact .document (hw.document ▸ hs)

theorem finishedParsing_moves (h : w.finishedParsing = .ok w') : Moves w w' := by
  obtain ⟨w₁, hfire, h⟩ := bind_eq_ok.mp h
  cases h
  have hnoted : Quiet w { w with document := { w.document with finishedParsing := true } } :=
    quiet_setDocument rfl rfl rfl
  calc Moves w _ := hnoted.moves
    Moves _ w₁ := fireDocument_moves hfire
    Moves w₁ _ := checkCompleted_quiet.moves

theorem parserEnd_moves (h : w.parserEnd = .ok w') : Moves w w' :=
  (quiet_setParser { w.parser with doneParsing := true, ends := w.parser.ends + 1 }).moves.trans
    (finishedParsing_moves h)

theorem attemptToEnd_moves (h : w.attemptToEnd = .ok w') : Moves w w' := by
  rw [attemptToEnd] at h
  split_ifs at h
  · cases h
    exact (quiet_setParser _).moves
  · exact parserEnd_moves h

theorem endIfDelayed_moves (h : w.endIfDelayed = .ok w') : Moves w w' := by
  rw [endIfDelayed] at h
  split_ifs at h
  · cases h
    exact .refl _
  · exact (quiet_setParser _).moves.trans (parserEnd_moves h)

theorem scanFrom_quiet {scanned : ℕ} (h : w.scanFrom scanned = .ok w') : Quiet w w' := by
  rw [scanFrom] at h
  split at h
  · cases h
    exact .refl w
  · obtain ⟨⟨scanned, noMore, ns⟩, _, h⟩ := bind_eq_ok.mp h
    exact (quiet_setParser _).trans (Quiet.of_foldlM (fun _ _ _ => fetchRes_quiet) h)

theorem doPreloadScanning_quiet (h : w.doPreloadScanning = .ok w') : Quiet w w' := by
  obtain ⟨_, _, h⟩ := bind_eq_ok.mp h
  refine (quiet_setParser { w.parser with
    numPreloadScannedBytes := max w.parser.numPreloadScannedBytes w.parser.numBytesParsed }).trans ?_
  by_cases hall : max w.parser.numPreloadScannedBytes w.parser.numBytesParsed =
      w.parser.numBytesReceived
  · dsimp only at h
    rw [if_pos hall] at h
    cases h
    exact .refl _
  · dsimp only at h
    rw [if_neg hall] at h
    obtain ⟨_, _, h⟩ := bind_eq_ok.mp h
    split_ifs at h
    · cases h
      exact .refl _
    · exact scanFrom_quiet h

theorem preloadIfBlocked_quiet (h : w.preloadIfBlocked = .ok w') : Quiet w w' := by
  rcases doIf_eq_ok h with ⟨_, h⟩ | ⟨_, rfl⟩
  · exact doPreloadScanning_quiet h
  · exact .refl _

theorem pumpLoop_moves {limit : ℕ} {l : List (ℕ × ℕ)} :
    ∀ {w w' : World}, pumpLoop limit l w = .ok w' → Moves w w' := by
  induction l with
  | nil =>
    intro w w' h
    rw [pumpLoop] at h
    split_ifs at h
    · cases h
      exact (quiet_setParser _).moves
    · cases h
      exact .refl _
  | cons x l ih =>
    intro w w' h
    rw [pumpLoop] at h
    split_ifs at h
    · obtain ⟨w₁, hadd, h⟩ := bind_eq_ok.mp h
      exact ((quiet_setParser _).moves.trans (addElem_moves executeScope_moves hadd)).trans (ih h)
    · cases h
      exact (quiet_setParser _).moves
    · cases h
      exact .refl _

theorem endOrYield_moves {limit : ℕ} (h : w.endOrYield limit = .ok w') : Moves w w' := by
  rw [endOrYield] at h
  split_ifs at h
  · obtain ⟨_, _, h⟩ := bind_eq_ok.mp h
    exact attemptToEnd_moves h
  · obtain ⟨_, _, h⟩ := bind_eq_ok.mp h
    cases h
    exact (quiet_setParser _).moves
  · cases h
    exact .refl _

theorem pumpTokenizer_moves (h : w.pumpTokenizer = .ok w') : Moves w w' := by
  obtain ⟨w₁, hloop, h⟩ := bind_eq_ok.mp h
  obtain ⟨w₂, hend, h⟩ := bind_eq_ok.mp h
  obtain ⟨w₃, hpreload, h⟩ := bind_eq_ok.mp h
  cases h
  calc Moves w _ := (quiet_setParser { w.parser with
        pumpSessionNestingLevel := w.parser.pumpSessionNestingLevel + 1 }).moves
    Moves _ w₁ := pumpLoop_moves hloop
    Moves w₁ w₂ := endOrYield_moves hend
    Moves w₂ w₃ := (preloadIfBlocked_quiet hpreload).moves
    Moves w₃ _ := (quiet_setParser _).moves

theorem pumpTokenizerIfPossible_moves (h : w.pumpTokenizerIfPossible = .ok w') : Moves w w' := by
  rw [pumpTokenizerIfPossible] at h
  split_ifs at h
  · cases h
    exact .refl _
  · cases h
    exact .refl _
  · exact pumpTokenizer_moves h

theorem pumpAndEnd_moves (h : w.pumpAndEnd = .ok w') : Moves w w' := by
  obtain ⟨w₁, hpump, h⟩ := bind_eq_ok.mp h
  exact (pumpTokenizerIfPossible_moves hpump).trans (endIfDelayed_moves h)

theorem documentDataReceived_moves {len : ℕ} (h : w.documentDataReceived len = .ok w') :
    Moves w w' := by
  obtain ⟨w₁, happend, h⟩ := bind_eq_ok.mp h
  obtain ⟨_, _, happend⟩ := bind_eq_ok.mp happend
  obtain ⟨w₂, hpreload, happend⟩ := bind_eq_ok.mp happend
  have hreceived : Moves w w₂ :=
    ((quiet_setParser _).trans (preloadIfBlocked_quiet hpreload)).moves
  have hpumped : Moves w₂ w₁ := by
    split_ifs at happend
    · cases happend
      exact .refl _
    · exact pumpAndEnd_moves happend
  exact (hreceived.trans hpumped).trans (pumpTokenizerIfPossible_moves h)

theorem executeParsingBlockingScriptsLoop_moves {fuel : ℕ} :
    ∀ {w w' : World}, executeParsingBlockingScriptsLoop fuel w = .ok w' → Moves w w' := by
  induction fuel with
  | zero =>
    intro w w' h
    cases h
  | succ fuel ih =>
    intro w w' h
    rw [executeParsingBlockingScriptsLoop] at h
    split at h
    · cases h
      exact .refl _
    · obtain ⟨⟨w₁, ready⟩, hready, h⟩ := bind_eq_ok.mp h
      refine (isPendingScriptReady_quiet hready).moves.trans ?_
      dsimp only at h
      split_ifs at h
      · obtain ⟨w₂, hexec, h⟩ := bind_eq_ok.mp h
        exact (executeParsingBlockingScript_moves executeScope_moves hexec).trans (ih h)
      · cases h
        exact .refl _

theorem executeScriptsAndResume_moves (h : w.executeScriptsAndResume = .ok w') : Moves w w' := by
  obtain ⟨w₁, hexec, h⟩ := bind_eq_ok.mp h
  refine (executeParsingBlockingScriptsLoop_moves hexec).trans ?_
  split_ifs at h
  · obtain ⟨_, _, h⟩ := bind_eq_ok.mp h
    exact pumpAndEnd_moves h
  · cases h
    exact .refl _

theorem resumeTimerFired_moves (h : w.resumeTimerFired = .ok w') : Moves w w' := by
  obtain ⟨_, _, h⟩ := bind_eq_ok.mp h
  exact (quiet_setParser _).moves.trans (pumpAndEnd_moves h)

theorem scriptsTimerFired_moves (h : w.scriptsTimerFired = .ok w') : Moves w w' := by
  obtain ⟨_, _, h⟩ := bind_eq_ok.mp h
  have hfired : Quiet w { w with document := { w.document with
      executeScriptsWaitingForResourcesTimer := false } } := quiet_setDocument rfl rfl rfl
  refine hfired.moves.trans ?_
  dsimp only at h
  split_ifs at h
  · exact executeScriptsAndResume_moves h
  · cases h
    exact .refl _

/-! ### The clients of a resource -/

theorem xhrNotifyFinished_moves {x : ℕ} {success : Bool}
    (h : w.xhrNotifyFinished x success = .ok w') : Moves w w' := by
  rw [xhrNotifyFinished] at h
  split at h
  · cases h
  · next xhr hxhr =>
    obtain ⟨_, _, h⟩ := bind_eq_ok.mp h
    intro hw
    have hinfo := hw.xhrs x xhr hxhr
    have huses : ∀ s ∈ xhr.info.eventHandlingScopes, w.model.Uses s.2 :=
      fun s hs => .xhr hinfo hs
    split_ifs at h
    · cases h
      exact .refl
    · obtain ⟨w₁, hdone, h⟩ := bind_eq_ok.mp h
      have hset : Quiet w { w with engine := { w.engine with
          xhrs := Function.update w.engine.xhrs x (some { xhr with loadState := .finished }) } } :=
        quiet_setXhr rfl hinfo
      have hsofar := (hset.moves.trans (fireEventHandlingScopes_moves executeScope_moves
        (fun s hs => huses s hs) hdone)) hw
      refine hsofar.trans (fireEventHandlingScopes_moves executeScope_moves ?_ h
        (hsofar.fromModel hw))
      intro s hs
      exact hsofar.model ▸ huses s hs
    · exact (xhrLoadNextChainEntry_quiet hinfo h).acts

/-- **A client is told.** -/
theorem notifyFinished_moves {success : Bool} {c : ResourceClient}
    (h : w.notifyFinished n success c = .ok w') : Moves w w' := by
  cases c with
  | fetcher =>
    cases h
    exact checkCompleted_quiet.moves
  | document =>
    obtain ⟨_, _, h⟩ := bind_eq_ok.mp h
    obtain ⟨_, _, h⟩ := bind_eq_ok.mp h
    obtain ⟨_, _, h⟩ := bind_eq_ok.mp h
    exact (quiet_setParser _).moves.trans (attemptToEnd_moves h)
  | parser =>
    obtain ⟨_, _, h⟩ := bind_eq_ok.mp h
    obtain ⟨_, _, h⟩ := bind_eq_ok.mp h
    exact executeScriptsAndResume_moves h
  | element e => exact (elementNotifyFinished_quiet h).moves
  | xhr x => exact xhrNotifyFinished_moves h

theorem tellFinished_moves {success : Bool} {c : ResourceClient}
    (h : w.tellFinished n success c = .ok w') : Moves w w' :=
  (quiet_note _).moves.trans (notifyFinished_moves h)

theorem tellData_moves {len : ℕ} {c : ResourceClient} (h : w.tellData n len c = .ok w') :
    Moves w w' := by
  refine (quiet_note (.dataReceived n len c)).moves.trans ?_
  cases c with
  | document =>
    obtain ⟨_, _, h⟩ := bind_eq_ok.mp h
    exact documentDataReceived_moves h
  | fetcher =>
    cases h
    exact .refl _
  | parser =>
    cases h
    exact .refl _
  | element e =>
    cases h
    exact .refl _
  | xhr x =>
    cases h
    exact .refl _

/-- All clients are called. -/
theorem callClients_moves {call : ResourceClient → World → Except PageCheck World}
    {order : List ResourceClient} (hcall : ∀ {c v v'}, call c v = .ok v' → Moves v v')
    (h : w.callClients n call order = .ok w') : Moves w w' :=
  callClients_invariant (P := Moves w) (fun hv hc => hv.trans (hcall hc)) (.refl w) h

theorem notifyAllFinished_moves {success : Bool} {order : List ResourceClient}
    (h : w.notifyAllFinished n success order = .ok w') : Moves w w' := by
  obtain ⟨r, _, h⟩ := bind_eq_ok.mp h
  obtain ⟨w₁, hcount, h⟩ := bind_eq_ok.mp h
  obtain ⟨_, _, h⟩ := bind_eq_ok.mp h
  have hcounted : Quiet w w₁ := by
    rw [decrementRequestCount] at hcount
    split_ifs at hcount
    · obtain ⟨_, _, hcount⟩ := bind_eq_ok.mp hcount
      cases hcount
      exact ⟨rfl, rfl, rfl, rfl, rfl, fun hw => { hw with }⟩
    · cases hcount
      exact .refl _
  exact hcounted.moves.trans (callClients_moves tellFinished_moves h)

theorem tellDriver_quiet (m : DriverMsg) : Quiet w (w.tellDriver m) :=
  quiet_setEngine rfl rfl rfl rfl rfl

theorem parseIfStylesheet_moves {r r' : Resource} (h : w.parseIfStylesheet r = .ok w')
    (hr : w.fetcher.documentResources n = some r') (hinfo : r'.info = r.info) : Moves w w' := by
  intro hw
  have hlookup := hw.resources n r' hr
  rw [hinfo] at hlookup
  rw [parseIfStylesheet] at h
  split at h
  · next scopeId hcss => exact executeScope_moves _ _ _ (.stylesheet hlookup hcss) h hw
  · cases h
    exact .refl

/-- **A request is over.** -/
theorem finish_moves {success : Bool} {order : List ResourceClient}
    (h : w.finish n success order = .ok w') : Moves w w' := by
  obtain ⟨r, hr, _, h⟩ := finish_cases h
  cases h with
  | @finished w₁ _ _ hparse h =>
    have hset : Quiet w ((w.tellDriver (.requestFinished n r.currentReqChainIdx true)).setResource n
        { r with currentReqBodyBytesRecv := 0, loadState := .finished, errored := false }) :=
      (tellDriver_quiet _).trans (quiet_changeResource hr rfl)
    have hparsed := parseIfStylesheet_moves hparse setResource_self rfl
    exact (hset.moves.trans hparsed).trans (notifyAllFinished_moves h)
  | next info _ =>
    have hset : Quiet w ((w.tellDriver (.requestFinished n r.currentReqChainIdx true)).setResource n
        { r with currentReqBodyBytesRecv := 0 }) :=
      (tellDriver_quiet _).trans (quiet_changeResource hr rfl)
    exact (hset.trans (quiet_issued setResource_self rfl)).moves
  | failed h =>
    have hset : Quiet w ((w.tellDriver (.requestFinished n r.currentReqChainIdx false)).setResource n
        { r with errored := true }) :=
      (tellDriver_quiet _).trans (quiet_changeResource hr rfl)
    exact hset.moves.trans (notifyAllFinished_moves h)

theorem appendData_moves {len : ℕ} (h : w.appendData n len = .ok w') : Moves w w' := by
  obtain ⟨r, hr, h⟩ := appendData_cases h
  have hset : Quiet w (w.setResource n
      { r with currentReqBodyBytesRecv := r.currentReqBodyBytesRecv + len }) :=
    quiet_changeResource hr rfl
  rcases h with ⟨_, h⟩ | ⟨_, rfl⟩
  · obtain ⟨_, _, h⟩ := bind_eq_ok.mp h
    exact hset.moves.trans (callClients_moves tellData_moves h)
  · exact hset.moves

theorem receivedResponseMeta_quiet {firstByteTimeMs : ℕ}
    (h : w.receivedResponseMeta n firstByteTimeMs = .ok w') : Quiet w w' := by
  obtain ⟨r, hr, h⟩ := bind_eq_ok.mp h
  split_ifs at h
  · obtain ⟨_, _, h⟩ := bind_eq_ok.mp h
    cases h
    exact quiet_changeResource (resource_eq_ok hr) rfl
  · cases h
    exact .refl _

/-! ### The events -/

/-- An entry that is found is in the list. -/
theorem mem_of_lookup {α : Type} {l : List (ℕ × α)} {k : ℕ} {a : α} (h : l.lookup k = some a) :
    (k, a) ∈ l := by
  obtain ⟨l₁, l₂, rfl, _⟩ := List.lookup_eq_some_iff.mp h
  simp

theorem domTimerFired_moves {timerID : ℕ} (h : w.domTimerFired timerID = .ok w') :
    Moves w w' := by
  rw [domTimerFired] at h
  split at h
  · cases h
  · next timer htimer =>
    obtain ⟨_, _, h⟩ := bind_eq_ok.mp h
    split at h
    · cases h
    · next scopeId hscopeId =>
      obtain ⟨w₁, hscope, h⟩ := bind_eq_ok.mp h
      have hfired : Quiet w { w with engine := { w.engine with
          domTimers := w.engine.domTimers.map fun t => if t.1 = timerID then (timerID, { timer with
            running := !timer.info.singleShot
            nextFiredScopeIdx := timer.nextFiredScopeIdx + 1 }) else t } } := by
        refine ⟨rfl, rfl, rfl, rfl, rfl, fun hw => { hw with timers := ?_ }⟩
        intro t ht
        obtain ⟨t₀, ht₀, rfl⟩ := List.mem_map.mp ht
        have hthis := hw.timers (timerID, timer) (mem_of_lookup htimer)
        split
        · exact hthis
        · exact hw.timers t₀ ht₀
      intro hw
      have huses := PageModel.Uses.timer (hw.timers _ (mem_of_lookup htimer))
        (List.mem_of_getElem? hscopeId)
      exact ((hfired.moves.trans (executeScope_moves _ _ _ huses hscope)).trans
        (doEndOfTaskWork_moves h)) hw

theorem completeDocument_moves (h : w.completeDocument = .ok w') : Moves w w' := by
  obtain ⟨w₁, hchange, h⟩ := bind_eq_ok.mp h
  have hcomplete : Quiet w { w with document := { w.document with readyState := .complete } } :=
    quiet_setDocument rfl rfl rfl
  have hchanged : Moves { w with document := { w.document with readyState := .complete } } w₁ := by
    rcases doIf_eq_ok hchange with ⟨_, hchange⟩ | ⟨_, rfl⟩
    · exact fireDocument_moves hchange
    · exact .refl _
  exact (hcomplete.moves.trans hchanged).trans (fireDocument_moves h)

theorem forceLoad_quiet (h : w.forceLoad n = .ok w') : Quiet w w' := by
  obtain ⟨w₁, hget, h⟩ := bind_eq_ok.mp h
  obtain ⟨r, _, h⟩ := bind_eq_ok.mp h
  refine (getResource_quiet hget).trans ?_
  split_ifs at h
  · have hnoted : Quiet w₁ { w₁ with engine := { w₁.engine with
        forcedLoadResInstNums := w₁.engine.forcedLoadResInstNums ++ [n] } } :=
      quiet_setEngine rfl rfl rfl rfl rfl
    exact hnoted.trans (loadResource_quiet h)
  · cases h
    exact .refl _

theorem maybeLoadUnloadedResources_quiet (h : w.maybeLoadUnloadedResources = .ok w') :
    Quiet w w' := by
  rw [maybeLoadUnloadedResources] at h
  split_ifs at h
  · exact Quiet.of_foldlM (fun _ _ _ => forceLoad_quiet) h
  · cases h
    exact .refl _

theorem checkCompletedTimerFired_moves (h : w.checkCompletedTimerFired = .ok w') :
    Moves w w' := by
  obtain ⟨_, _, h⟩ := bind_eq_ok.mp h
  have hlooked : Quiet w { w with engine := { w.engine with checkCompletedTimer := false } } :=
    quiet_setEngine rfl rfl rfl rfl rfl
  refine hlooked.moves.trans ?_
  dsimp only at h
  split_ifs at h
  · obtain ⟨w₁, hcomplete, h⟩ := bind_eq_ok.mp h
    obtain ⟨r, _, h⟩ := bind_eq_ok.mp h
    have hidle : Quiet w₁ { w₁ with engine := { w₁.engine with state := .idle } } :=
      quiet_setEngine rfl rfl rfl rfl rfl
    refine (completeDocument_moves hcomplete).trans ?_
    exact ((hidle.trans (tellDriver_quiet _)).trans (maybeLoadUnloadedResources_quiet h)).moves
  · cases h
    exact .refl _

/-- A message about a pending request ends with the scheduled update. -/
def EndsTask (w w' : World) : Prop :=
  ∃ w₁ w₂, Moves w w₁ ∧ w₁.doEndOfTaskWork = .ok w₂ ∧ Quiet w₂ w'

theorem EndsTask.moves (h : EndsTask w w') : Moves w w' := by
  obtain ⟨w₁, w₂, hfirst, htask, hrest⟩ := h
  exact (hfirst.trans (doEndOfTaskWork_moves htask)).trans hrest.moves

/-- **A message of the io service.** -/
theorem pageMessage_endsTask {m : ResourceMsg}
    (h : Renderer.pageMessage w m = .ok (.page w')) :
    (w.engine.pendingRequests.lookup m.reqId = none ∧ w' = w) ∨ EndsTask w w' := by
  -- a resource that the page does not know leaves all as it was
  cases m with
  | receivedResponse id firstByteTimeMs =>
    obtain ⟨w₁, hm, h⟩ := bind_eq_ok.mp h
    cases h
    rw [handleReceivedResponse] at hm
    split at hm
    · next hnone =>
      cases hm
      exact .inl ⟨hnone, rfl⟩
    · obtain ⟨_, _, hm⟩ := bind_eq_ok.mp hm
      obtain ⟨w₂, hmeta, hm⟩ := bind_eq_ok.mp hm
      exact .inr ⟨w₂, _, (receivedResponseMeta_quiet hmeta).moves, hm, .refl _⟩
  | dataReceived id length =>
    obtain ⟨w₁, hm, h⟩ := bind_eq_ok.mp h
    cases h
    rw [handleDataReceived] at hm
    split at hm
    · next hnone =>
      cases hm
      exact .inl ⟨hnone, rfl⟩
    · obtain ⟨_, _, hm⟩ := bind_eq_ok.mp hm
      obtain ⟨w₂, hdata, hm⟩ := bind_eq_ok.mp hm
      exact .inr ⟨w₂, _, appendData_moves hdata, hm, .refl _⟩
  | requestComplete id success order =>
    change w.handleRequestComplete id success order = .ok (.page w') at h
    rw [handleRequestComplete] at h
    split at h
    · next hnone =>
      cases h
      exact .inl ⟨hnone, rfl⟩
    · obtain ⟨_, _, h⟩ := bind_eq_ok.mp h
      dsimp only at h
      split_ifs at h
      · cases h
      · obtain ⟨w₁, hfinish, h⟩ := bind_eq_ok.mp h
        obtain ⟨w₂, htask, h⟩ := bind_eq_ok.mp h
        obtain ⟨w₃, hforce, h⟩ := bind_eq_ok.mp h
        cases h
        have herased : Quiet w (w.erasePending id) := quiet_setEngine rfl rfl rfl rfl rfl
        exact .inr ⟨w₁, w₂, herased.moves.trans (finish_moves hfinish), htask,
          maybeLoadUnloadedResources_quiet hforce⟩

/-- **An event of a page.** -/
theorem pageStep_moves {e : PageEvent} (h : Renderer.pageStep w e = .ok (.page w')) :
    Moves w w' := by
  cases e with
  | loadPage loadId model timeMs => cases h
  | reset => cases h
  | message m =>
    rcases pageMessage_endsTask h with ⟨_, rfl⟩ | h
    · exact .refl _
    · exact h.moves
  | resumeTimer =>
    obtain ⟨w₁, hw₁, h⟩ := bind_eq_ok.mp h
    cases h
    exact resumeTimerFired_moves hw₁
  | scriptsTimer =>
    obtain ⟨w₁, hw₁, h⟩ := bind_eq_ok.mp h
    cases h
    exact scriptsTimerFired_moves hw₁
  | checkCompletedTimer =>
    obtain ⟨w₁, hw₁, h⟩ := bind_eq_ok.mp h
    cases h
    exact checkCompletedTimerFired_moves hw₁
  | domTimer timerID =>
    obtain ⟨w₁, hw₁, h⟩ := bind_eq_ok.mp h
    cases h
    exact domTimerFired_moves hw₁

end World

/-! ### Runs of the renderer -/

/-- A page of which no scope has been executed. -/
structure Fresh (w : World) : Prop where
  fromModel : FromModel w
  scheduled : w.engine.scheduledRenderTreeUpdateScopeId = 0
  executed : w.engine.executedScopeIds = []
  body : w.document.hasBodyElement = false
  updates : w.updates = []

/-- The engine has nothing of a page. -/
structure Cleared (engine : Webengine) : Prop where
  scheduled : engine.scheduledRenderTreeUpdateScopeId = 0
  executed : engine.executedScopeIds = []
  timers : engine.domTimers = []
  xhrs : engine.xhrs = fun _ => none

theorem Cleared.newPage {engine : Webengine} (h : Cleared engine) (model : PageModel) :
    Fresh (engine.newPage model) := by
  refine ⟨⟨fun _ _ hr => (by cases hr), fun _ _ _ _ _ hel => (by cases hel), ?_, ?_, rfl, rfl, ?_⟩,
    h.scheduled, h.executed, rfl, rfl⟩
  · intro t ht
    change t ∈ engine.domTimers at ht
    rw [h.timers] at ht
    cases ht
  · intro x xhr hx
    change engine.xhrs x = some xhr at hx
    rw [h.xhrs] at hx
    cases hx
  · intro hne
    exact absurd h.scheduled hne

/-- A page has come from a new one, and without a page there is nothing of one. -/
def Renderer.FromFresh : Renderer → Prop
  | .blank engine => Cleared engine
  | .page w => ∃ w₀, Fresh w₀ ∧ Acts w₀ w

namespace Renderer

variable {r r' : Renderer} {e : PageEvent} {w : World}

theorem cleared_reset (engine : Webengine) : Cleared engine.reset := ⟨rfl, rfl, rfl, rfl⟩

theorem fromFresh_loadPage {engine : Webengine} {loadId timeMs : ℕ} {model : PageModel}
    (hengine : Cleared engine) (h : loadPage engine loadId model timeMs = .ok r') :
    r'.FromFresh := by
  obtain ⟨info, w, hinfo, _, hload, rfl⟩ := loadPage_cases h
  have hmain : Quiet (engine.newPage model) ((engine.newPage model).setResource 1
      { info, clients := [.fetcher, .document] }) := quiet_setResource fun _ => hinfo
  have hstarted : Quiet w { w with engine := { w.engine with
      startLoadTimeMs := timeMs, currentLoadId := loadId, state := .pageLoading } } :=
    quiet_setEngine rfl rfl rfl rfl rfl
  exact ⟨_, hengine.newPage model, ((hmain.trans (loadResource_quiet hload)).trans hstarted).acts⟩

/-- An event that ends the page leaves nothing of it. -/
theorem cleared_of_pageStep {engine : Webengine} (h : pageStep w e = .ok (.blank engine)) :
    Cleared engine := by
  cases e with
  | loadPage loadId model timeMs => cases h
  | reset =>
    cases h
    exact cleared_reset _
  | message m =>
    cases m with
    | receivedResponse id firstByteTimeMs =>
      obtain ⟨w₁, _, h⟩ := bind_eq_ok.mp h
      cases h
    | dataReceived id length =>
      obtain ⟨w₁, _, h⟩ := bind_eq_ok.mp h
      cases h
    -- only the end of the main resource can give the page up
    | requestComplete id success order =>
      change w.handleRequestComplete id success order = .ok (.blank engine) at h
      rw [handleRequestComplete] at h
      split at h
      · cases h
      · obtain ⟨_, _, h⟩ := bind_eq_ok.mp h
        dsimp only at h
        split_ifs at h
        · cases h
          exact ⟨rfl, rfl, rfl, rfl⟩
        · obtain ⟨w₁, _, h⟩ := bind_eq_ok.mp h
          obtain ⟨w₂, _, h⟩ := bind_eq_ok.mp h
          obtain ⟨w₃, _, h⟩ := bind_eq_ok.mp h
          cases h
  | resumeTimer =>
    obtain ⟨w₁, _, h⟩ := bind_eq_ok.mp h
    cases h
  | scriptsTimer =>
    obtain ⟨w₁, _, h⟩ := bind_eq_ok.mp h
    cases h
  | checkCompletedTimer =>
    obtain ⟨w₁, _, h⟩ := bind_eq_ok.mp h
    cases h
  | domTimer timerID =>
    obtain ⟨w₁, _, h⟩ := bind_eq_ok.mp h
    cases h

/-- **Every event** goes on from the page in steps, or from nothing to a new page. -/
theorem fromFresh_step (hr : r.FromFresh) (h : r.step e = .ok r') : r'.FromFresh := by
  cases r with
  | page w =>
    cases r' with
    | blank engine => exact cleared_of_pageStep h
    | page w' =>
      obtain ⟨w₀, hfresh, hacts⟩ := hr
      exact ⟨w₀, hfresh, hacts.trans (pageStep_moves h (hacts.fromModel hfresh.fromModel))⟩
  | blank engine =>
    cases e with
    | loadPage loadId model timeMs => exact fromFresh_loadPage hr h
    | reset =>
      cases h
      exact cleared_reset _
    | message m =>
      change blankStep engine (.message m) = .ok r' at h
      rw [blankStep] at h
      split at h
      · cases h
        exact hr
      · cases h
    | resumeTimer => cases h
    | scriptsTimer => cases h
    | checkCompletedTimer => cases h
    | domTimer timerID => cases h

/-- **Every page has come from a new one in steps.** -/
theorem acts_of_run {es : List PageEvent} (h : Run Steps start es (.page w)) :
    ∃ w₀, Fresh w₀ ∧ Acts w₀ w :=
  h.invariant (P := Renderer.FromFresh) (fun _ _ _ => fromFresh_step) ⟨rfl, rfl, rfl, rfl⟩

end Renderer

end ShadowBrowser.Blink
