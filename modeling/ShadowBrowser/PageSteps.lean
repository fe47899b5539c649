/-
What scripts do to a page, step by step.

* `ScriptStep` — one thing that a script can do: a resource is made, starts loading or has other
  clients, an element or a sheet is added, a timer or a request is noted;
* `Scripted` — any number of them;
* `statement_scripted`, `executeScope_scripted` — a script does nothing else.

What a script cannot do is read off the steps: no resource is finished, no request is forgotten, the
parser's place in the document is not changed.
-/
import Mathlib.Tactic.SplitIfs
import ShadowBrowser.HtmlParser

namespace ShadowBrowser.Blink

open Checked Runs Relation

namespace World

/-- The world after the next request of a resource has been issued. -/
def issued (w : World) (n : ℕ) (r : Resource) (info : RequestInfo) : World :=
  { w with
    fetcher := { w.fetcher with
      documentResources := Function.update w.fetcher.documentResources n
        (some { r with currentReqChainIdx := r.currentReqChainIdx + 1 }) }
    engine := { w.engine with
      nextRequestId := w.engine.nextRequestId + 1
      toIoService := w.engine.toIoService ++ [.requestResource w.engine.nextRequestId n info]
      pendingRequests :=
        w.engine.pendingRequests ++ [(w.engine.nextRequestId, ⟨w.fetcher.gen, n⟩)]
      toDriver := w.engine.toDriver ++ [.requestWillBeSent n (r.currentReqChainIdx + 1)
        (decide (n ∈ w.engine.forcedLoadResInstNums))] } }

variable {w w' : World} {n e : ℕ} {r : Resource} {c : ResourceClient} {el : Element}

theorem resource_eq_ok (h : w.resource n = .ok r) : w.fetcher.documentResources n = some r := by
  rw [resource] at h
  split at h
  · next r' hr =>
    cases h
    exact hr
  · cases h

theorem object_eq_ok (h : w.object e = .ok el) : w.document.objects e = some el := by
  rw [object] at h
  split at h
  · next el' hel =>
    cases h
    exact hel
  · cases h

@[simp] theorem fetcher_note {m : Notice} : (w.note m).fetcher = w.fetcher := rfl

@[simp] theorem setResource_self :
    (w.setResource n r).fetcher.documentResources n = some r :=
  Function.update_self ..

theorem setResource_of_ne {m : ℕ} (h : m ≠ n) :
    (w.setResource n r).fetcher.documentResources m = w.fetcher.documentResources m :=
  Function.update_of_ne h ..

@[simp] theorem issued_self {info : RequestInfo} :
    (w.issued n r info).fetcher.documentResources n =
      some { r with currentReqChainIdx := r.currentReqChainIdx + 1 } :=
  Function.update_self ..

theorem issued_of_ne {m : ℕ} {info : RequestInfo} (h : m ≠ n) :
    (w.issued n r info).fetcher.documentResources m = w.fetcher.documentResources m :=
  Function.update_of_ne h ..

@[simp] theorem resource_setResource : (w.setResource n r).resource n = .ok r := by
  simp only [resource, setResource_self]

/-- A resource that is asked for is there, or is made. -/
theorem getResource_cases (h : w.getResource n = .ok w') :
    (w' = w ∧ ∃ r, w.fetcher.documentResources n = some r) ∨
      (w.fetcher.documentResources n = none ∧ ∃ info, w.model.resources.lookup n = some info ∧
        w' = w.setResource n { info, clients := [.fetcher] }) := by
  rw [getResource] at h
  split at h
  · next r hr =>
    cases h
    exact .inl ⟨rfl, r, hr⟩
  · next hnone =>
    split at h
    · cases h
    · next info hinfo =>
      obtain ⟨_, _, h⟩ := bind_eq_ok.mp h
      cases h
      exact .inr ⟨hnone, info, hinfo, rfl⟩

/-- The next request of a resource that is loading. -/
theorem loadNextChainEntry_cases (h : w.loadNextChainEntry n = .ok w') :
    ∃ r info, w.fetcher.documentResources n = some r ∧ r.loadState = .loading ∧
      r.info.reqChain[(r.currentReqChainIdx + 1).toNat]? = some info ∧ w' = w.issued n r info := by
  obtain ⟨r, hr, h⟩ := bind_eq_ok.mp h
  obtain ⟨_, _, h⟩ := bind_eq_ok.mp h
  split at h
  · cases h
  · next info hinfo =>
    obtain ⟨_, hloading, h⟩ := bind_eq_ok.mp h
    obtain ⟨w₁, hreq, h⟩ := bind_eq_ok.mp h
    obtain ⟨_, _, hreq⟩ := bind_eq_ok.mp hreq
    obtain ⟨_, _, hreq⟩ := bind_eq_ok.mp hreq
    cases hreq
    cases h
    exact ⟨r, info, resource_eq_ok hr, check_eq_ok.mp hloading, hinfo, rfl⟩

/-- A resource starts loading. -/
theorem loadResource_cases (h : w.loadResource n = .ok w') :
    ∃ r info, w.fetcher.documentResources n = some r ∧ r.loadState = .initial ∧
      r.info.reqChain[(r.currentReqChainIdx + 1).toNat]? = some info ∧
      w' = (w.incrementRequestCount r).issued n { r with loadState := .loading } info := by
  obtain ⟨r, hr, h⟩ := bind_eq_ok.mp h
  obtain ⟨_, hinitial, h⟩ := bind_eq_ok.mp h
  obtain ⟨r', info, hr', _, hinfo, hw'⟩ := loadNextChainEntry_cases h
  have hself : ((w.setResource n { r with loadState := .loading }).incrementRequestCount
      r).fetcher.documentResources n = some { r with loadState := .loading } := by
    rw [incrementRequestCount]
    split <;> exact setResource_self
  obtain rfl := Option.some.inj (hself.symm.trans hr')
  refine ⟨r, info, resource_eq_ok hr, check_eq_ok.mp hinitial, hinfo, hw'.trans ?_⟩
  simp only [issued, incrementRequestCount, setResource]
  split <;> simp only [Function.update_idem]

end World

open World

/-! ### The steps of scripts -/

/-- One thing that a script can do. -/
inductive ScriptStep : World → World → Prop
  /-- A resource is made. -/
  | made {w : World} {n : ℕ} {info : ResourceInfo} :
      w.fetcher.documentResources n = none → w.model.resources.lookup n = some info →
      ScriptStep w (w.setResource n { info, clients := [.fetcher] })
  /-- A resource starts loading, with the first request of its chain. -/
  | loaded {w : World} {n : ℕ} {r : Resource} (info : RequestInfo) :
      w.fetcher.documentResources n = some r → r.loadState = .initial →
      r.info.reqChain[(r.currentReqChainIdx + 1).toNat]? = some info →
      ScriptStep w ((w.incrementRequestCount r).issued n { r with loadState := .loading } info)
  /-- A resource has new clients, unless it is finished. -/
  | clients {w : World} {n : ℕ} {r : Resource} (clients : List ResourceClient) :
      w.fetcher.documentResources n = some r → r.clients ⊆ clients →
      (r.clients.Nodup → clients.Nodup) → ¬ r.isFinished →
      ScriptStep w (w.setResource n { r with clients })
  /-- An element is a client no more. -/
  | removed {w : World} {n : ℕ} {r : Resource} (e : ℕ) :
      w.fetcher.documentResources n = some r →
      ScriptStep w ((w.setResource n { r with
        clients := r.clients.filter (· ≠ .element e) }).note (.removed n (.element e)))
  /-- What scripts change of the engine. -/
  | engine {w : World} (scheduledRenderTreeUpdateScopeId : ℕ) (executedScopeIds : List ℕ)
      (domTimers : List (ℕ × DOMTimer)) (xhrs : ℕ → Option XMLHttpRequest) :
      ScriptStep w { w with engine := { w.engine with
        scheduledRenderTreeUpdateScopeId, executedScopeIds, domTimers, xhrs } }
  /-- Something happens to the updates of the render tree. -/
  | updates {w : World} (updates : List UpdateAct) : ScriptStep w { w with updates }
  /-- What scripts change of the document. -/
  | document {w : World} (objects : ℕ → Option Element) (elements pendingStylesheets : List ℕ)
      (hasBodyElement : Bool) :
      ScriptStep w { w with document := { w.document with
        objects, elements, pendingStylesheets, hasBodyElement } }
  /-- What scripts change of the parser. -/
  | parser {w : World} (parserBlockingScript : Option ℕ) (isExecutingScript : Bool) :
      ScriptStep w { w with parser := { w.parser with
        parserBlockingScript, isExecutingScript } }

/-- Any number of things that a script can do. -/
abbrev Scripted : World → World → Prop := ReflTransGen ScriptStep

namespace World

variable {w w' : World} {n e : ℕ} {c : ResourceClient} {el : Element} {run : RunScope}

theorem getResource_scripted (h : w.getResource n = .ok w') : Scripted w w' := by
  obtain ⟨rfl, _⟩ | ⟨hnone, info, hinfo, rfl⟩ := getResource_cases h
  · exact .refl
  · exact .single (.made hnone hinfo)

theorem loadResource_scripted (h : w.loadResource n = .ok w') : Scripted w w' := by
  obtain ⟨r, info, hr, hinitial, hinfo, rfl⟩ := loadResource_cases h
  exact .single (.loaded info hr hinitial hinfo)

theorem loadIfInitial_scripted (h : w.loadIfInitial n = .ok w') : Scripted w w' := by
  obtain ⟨r, _, h⟩ := bind_eq_ok.mp h
  split_ifs at h
  · exact loadResource_scripted h
  · cases h
    exact .refl

theorem fetchRes_scripted (h : w.fetchRes n = .ok w') : Scripted w w' := by
  obtain ⟨w₁, hget, h⟩ := bind_eq_ok.mp h
  exact (getResource_scripted hget).trans (loadIfInitial_scripted h)

theorem addClient_scripted (h : w.addClient n c = .ok w') : Scripted w w' := by
  obtain ⟨r, hr, h⟩ := bind_eq_ok.mp h
  obtain ⟨_, hopen, h⟩ := bind_eq_ok.mp h
  cases h
  refine .single (.clients _ (resource_eq_ok hr) ?_ ?_ (check_eq_ok.mp hopen))
  · intro c' hc'
    split
    · exact hc'
    · exact List.mem_append_left _ hc'
  · intro hnodup
    split
    · exact hnodup
    · next hc => exact List.nodup_append.mpr ⟨hnodup, List.pairwise_singleton _ c,
        fun a ha b hb hab => hc (by rw [← List.mem_singleton.mp hb, ← hab]; exact ha)⟩

theorem removeClient_scripted (h : w.removeClient n (.element e) = .ok w') : Scripted w w' := by
  obtain ⟨r, hr, h⟩ := bind_eq_ok.mp h
  cases h
  exact .single (.removed e (resource_eq_ok hr))

theorem setObject_scripted : Scripted w (w.setObject e el) :=
  .single (.document (Function.update w.document.objects e (some el)) w.document.elements
    w.document.pendingStylesheets w.document.hasBodyElement)

theorem setBlocking_scripted (b : Option ℕ) : Scripted w (w.setBlocking b) :=
  .single (.parser b w.parser.isExecutingScript)

theorem startBlocking_scripted (h : w.startBlocking e el = .ok w') : Scripted w w' := by
  obtain ⟨_, _, h⟩ := bind_eq_ok.mp h
  cases h
  exact .single (.document _ w.document.elements _ w.document.hasBodyElement)

theorem onResInstNumChanged_scripted (h : w.onResInstNumChanged e = .ok w') : Scripted w w' := by
  obtain ⟨el, _, h⟩ := bind_eq_ok.mp h
  split at h
  · obtain ⟨w₁, hget, h⟩ := bind_eq_ok.mp h
    obtain ⟨r, _, h⟩ := bind_eq_ok.mp h
    refine (getResource_scripted hget).trans ?_
    split_ifs at h
    · exact startBlocking_scripted h
    · cases h
      exact .refl
  · cases h
    exact .refl

/-! ### What runs scopes -/

/-- Scopes are executed in script steps. -/
def RunsScripted (run : RunScope) : Prop := ∀ id w w', run id w = .ok w' → Scripted w w'

theorem fireEventHandlingScopes_scripted (hrun : RunsScripted run) {scopes : EventScopes}
    {name : EventName} (h : w.fireEventHandlingScopes run scopes name = .ok w') : Scripted w w' :=
  star_of_foldlM (fun s w w' => hrun s.2 w w') h

theorem detach_scripted (h : w.detach e el n = .ok w') : Scripted w w' := by
  rw [detach] at h
  split_ifs at h
  · obtain ⟨w₁, hget, h⟩ := bind_eq_ok.mp h
    exact (getResource_scripted hget).trans (removeClient_scripted h)
  · cases h
    exact .refl

theorem attach_scripted (hrun : RunsScripted run) (h : w.attach run e n = .ok w') :
    Scripted w w' := by
  obtain ⟨r, _, h⟩ := bind_eq_ok.mp h
  split_ifs at h
  · cases h
    exact .refl
  · obtain ⟨el, _, h⟩ := bind_eq_ok.mp h
    exact fireEventHandlingScopes_scripted hrun h
  · obtain ⟨w₁, hload, h⟩ := bind_eq_ok.mp h
    exact (loadIfInitial_scripted hload).trans (addClient_scripted h)

theorem setResInstNum_scripted (hrun : RunsScripted run)
    {changed : ℕ → World → Except PageCheck World}
    (hchanged : ∀ e w w', changed e w = .ok w' → Scripted w w')
    (h : w.setResInstNum run changed e n = .ok w') : Scripted w w' := by
  obtain ⟨el, _, h⟩ := bind_eq_ok.mp h
  obtain ⟨w₁, hdetach, h⟩ := bind_eq_ok.mp h
  obtain ⟨w₂, hget, h⟩ := bind_eq_ok.mp h
  obtain ⟨w₃, hattach, h⟩ := bind_eq_ok.mp h
  calc Scripted w w₁ := detach_scripted hdetach
    Scripted w₁ _ := setObject_scripted
    Scripted _ w₂ := getResource_scripted hget
    Scripted w₂ w₃ := attach_scripted hrun hattach
    Scripted w₃ w' := hchanged _ _ _ h

theorem setElemRes_scripted (hrun : RunsScripted run) (h : w.setElemRes run e n = .ok w') :
    Scripted w w' := by
  rw [setElemRes] at h
  split_ifs at h
  · obtain ⟨el, _, h⟩ := bind_eq_ok.mp h
    obtain ⟨_, _, h⟩ := bind_eq_ok.mp h
    exact setResInstNum_scripted hrun (fun _ _ _ => onResInstNumChanged_scripted) h
  · cases h
    exact .refl

theorem newElement_scripted (hrun : RunsScripted run) {kind : ElementKind} {info : ElementInfo}
    (h : w.newElement run e kind info = .ok w') : Scripted w w' := by
  obtain ⟨_, _, h⟩ := bind_eq_ok.mp h
  obtain ⟨w₁, hset, h⟩ := bind_eq_ok.mp h
  obtain ⟨el, _, h⟩ := bind_eq_ok.mp h
  cases h
  have hinitial : Scripted (w.setObject e { kind }) w₁ := by
    split_ifs at hset
    · refine setResInstNum_scripted hrun (fun _ _ _ h => ?_) hset
      cases h
      exact .refl
    · cases hset
      exact .refl
  exact (setObject_scripted.trans hinitial).trans setObject_scripted

/-! ### Scripts that block the parser -/

theorem isPendingScriptReady_scripted {ready : Bool}
    (h : w.isPendingScriptReady e = .ok (w', ready)) : Scripted w w' := by
  obtain ⟨el, _, h⟩ := bind_eq_ok.mp h
  split_ifs at h
  · cases h
    exact .refl
  · obtain ⟨w₁, hget, h⟩ := bind_eq_ok.mp h
    obtain ⟨r, _, h⟩ := bind_eq_ok.mp h
    cases h
    exact getResource_scripted hget
  · cases h
    exact .refl

theorem executeScript_scripted (hrun : RunsScripted run) {scopeId : ℕ}
    (h : w.executeScript run scopeId = .ok w') : Scripted w w' := by
  obtain ⟨_, _, h⟩ := bind_eq_ok.mp h
  obtain ⟨w₁, hscope, h⟩ := bind_eq_ok.mp h
  cases h
  calc Scripted w _ := .single (.parser w.parser.parserBlockingScript true)
    Scripted _ w₁ := hrun _ _ _ hscope
    Scripted w₁ _ := .single (.parser w₁.parser.parserBlockingScript false)

theorem executeParsingBlockingScript_scripted (hrun : RunsScripted run)
    (h : w.executeParsingBlockingScript run = .ok w') : Scripted w w' := by
  obtain ⟨_, _, h⟩ := bind_eq_ok.mp h
  obtain ⟨_, _, h⟩ := bind_eq_ok.mp h
  split at h
  · cases h
  · obtain ⟨⟨w₁, ready⟩, hready, h⟩ := bind_eq_ok.mp h
    obtain ⟨_, _, h⟩ := bind_eq_ok.mp h
    obtain ⟨el, _, h⟩ := bind_eq_ok.mp h
    split at h
    · exact ((isPendingScriptReady_scripted hready).trans (setBlocking_scripted none)).trans
        (executeScript_scripted hrun h)
    · cases h

theorem watchScript_scripted (h : w.watchScript el = .ok w') : Scripted w w' := by
  rw [watchScript] at h
  split_ifs at h
  · obtain ⟨w₁, hget, h⟩ := bind_eq_ok.mp h
    obtain ⟨r, _, h⟩ := bind_eq_ok.mp h
    refine (getResource_scripted hget).trans ?_
    split_ifs at h
    · cases h
      exact setBlocking_scripted none
    · cases h
      exact .refl
    · obtain ⟨_, _, h⟩ := bind_eq_ok.mp h
      exact addClient_scripted h
  · cases h
    exact .refl

theorem setParserBlockingScript_scripted (hrun : RunsScripted run)
    (h : w.setParserBlockingScript run e = .ok w') : Scripted w w' := by
  obtain ⟨_, _, h⟩ := bind_eq_ok.mp h
  obtain ⟨el, _, h⟩ := bind_eq_ok.mp h
  refine (setBlocking_scripted (some e)).trans ?_
  split at h
  · obtain ⟨_, _, h⟩ := bind_eq_ok.mp h
    split_ifs at h
    · obtain ⟨_, _, h⟩ := bind_eq_ok.mp h
      exact executeParsingBlockingScript_scripted hrun h
    · obtain ⟨⟨w₁, ready⟩, hready, h⟩ := bind_eq_ok.mp h
      refine (isPendingScriptReady_scripted hready).trans ?_
      dsimp only at h
      split_ifs at h
      · exact executeParsingBlockingScript_scripted hrun h
      · exact watchScript_scripted h
  · cases h

/-! ### Elements are added -/

theorem insertElement_scripted (h : w.insertElement e = .ok w') : Scripted w w' := by
  obtain ⟨_, _, h⟩ := bind_eq_ok.mp h
  cases h
  exact .single (.document w.document.objects _ w.document.pendingStylesheets
    w.document.hasBodyElement)

theorem blockAtFirst_scripted (h : w.blockAtFirst e = .ok w') : Scripted w w' := by
  obtain ⟨el, _, h⟩ := bind_eq_ok.mp h
  split at h
  · split_ifs at h
    · obtain ⟨w₁, hget, h⟩ := bind_eq_ok.mp h
      obtain ⟨r, _, h⟩ := bind_eq_ok.mp h
      refine (getResource_scripted hget).trans ?_
      split_ifs at h
      · cases h
        exact .refl
      · exact startBlocking_scripted h
    · cases h
      exact .refl
  · cases h
    exact .refl

theorem addElem_scripted (hrun : RunsScripted run) (h : w.addElem run e = .ok w') :
    Scripted w w' := by
  obtain ⟨_, _, h⟩ := bind_eq_ok.mp h
  split at h
  · cases h
  · split at h
    · obtain ⟨w₁, hnew, h⟩ := bind_eq_ok.mp h
      obtain ⟨_, _, h⟩ := bind_eq_ok.mp h
      obtain ⟨_, _, h⟩ := bind_eq_ok.mp h
      obtain ⟨w₂, hblock, h⟩ := bind_eq_ok.mp h
      have hblocking : Scripted w₁ w₂ := by
        rcases doIf_eq_ok hblock with ⟨_, hblock⟩ | ⟨_, rfl⟩
        · exact setParserBlockingScript_scripted hrun hblock
        · exact .refl
      exact ((newElement_scripted hrun hnew).trans hblocking).trans (insertElement_scripted h)
    · obtain ⟨w₁, hnew, h⟩ := bind_eq_ok.mp h
      obtain ⟨_, _, h⟩ := bind_eq_ok.mp h
      obtain ⟨w₂, hblock, h⟩ := bind_eq_ok.mp h
      exact ((newElement_scripted hrun hnew).trans (blockAtFirst_scripted hblock)).trans
        (insertElement_scripted h)
    · obtain ⟨w₁, hnew, h⟩ := bind_eq_ok.mp h
      exact (newElement_scripted hrun hnew).trans (insertElement_scripted h)
    · obtain ⟨_, _, h⟩ := bind_eq_ok.mp h
      obtain ⟨_, _, h⟩ := bind_eq_ok.mp h
      cases h
      refine ReflTransGen.trans (.single (.updates (w.updates ++ [.body]))) ?_
      exact (ReflTransGen.single (.document w.document.objects w.document.elements
        w.document.pendingStylesheets true)).trans (.single (.engine
          w.model.initialRenderTreeUpdateScopeId w.engine.executedScopeIds w.engine.domTimers
          w.engine.xhrs))
    · cases h

/-! ### The calls of a script -/

theorem xhrLoadNextChainEntry_scripted {x : ℕ} {xhr : XMLHttpRequest}
    (h : w.xhrLoadNextChainEntry x xhr = .ok w') : Scripted w w' := by
  obtain ⟨_, _, h⟩ := bind_eq_ok.mp h
  split at h
  · cases h
  · obtain ⟨_, _, h⟩ := bind_eq_ok.mp h
    obtain ⟨w₁, hget, h⟩ := bind_eq_ok.mp h
    obtain ⟨r, _, h⟩ := bind_eq_ok.mp h
    obtain ⟨_, _, h⟩ := bind_eq_ok.mp h
    obtain ⟨w₂, hload, h⟩ := bind_eq_ok.mp h
    obtain ⟨w₃, hclient, h⟩ := bind_eq_ok.mp h
    cases h
    calc Scripted w w₁ := getResource_scripted hget
      Scripted w₁ w₂ := loadResource_scripted hload
      Scripted w₂ w₃ := addClient_scripted hclient
      Scripted w₃ _ := .single (.engine _ w₃.engine.executedScopeIds w₃.engine.domTimers _)

/-- **What one call of a script does.** -/
theorem statement_scripted (hrun : RunsScripted run) {s : Statement}
    (h : w.statement run s = .ok w') : Scripted w w' := by
  -- each statement does nothing, one thing to the page, or runs what the page has for it
  cases s with
  | msleep =>
    cases h
    exact .refl
  | addElem e => exact addElem_scripted hrun h
  | schedRenderUpdateScope scopeId =>
    obtain ⟨_, _, h⟩ := bind_eq_ok.mp h
    split_ifs at h
    · cases h
      exact .refl
    · obtain ⟨_, _, h⟩ := bind_eq_ok.mp h
      cases h
      exact ReflTransGen.trans (.single (.updates (w.updates ++ [.schedule scopeId])))
        (.single (.engine scopeId w.engine.executedScopeIds w.engine.domTimers w.engine.xhrs))
  | startTimer timerID =>
    change w.startTimer timerID = .ok w' at h
    rw [startTimer] at h
    split at h
    · cases h
    · obtain ⟨_, _, h⟩ := bind_eq_ok.mp h
      obtain ⟨_, _, h⟩ := bind_eq_ok.mp h
      obtain ⟨_, _, h⟩ := bind_eq_ok.mp h
      obtain ⟨_, _, h⟩ := bind_eq_ok.mp h
      obtain ⟨_, _, h⟩ := bind_eq_ok.mp h
      cases h
      exact .single (.engine _ w.engine.executedScopeIds _ w.engine.xhrs)
  | cancelTimer timerID =>
    cases h
    exact .single (.engine _ w.engine.executedScopeIds _ w.engine.xhrs)
  | setElemRes e n => exact setElemRes_scripted hrun h
  | sendXhr x =>
    change w.sendXhr x = .ok w' at h
    rw [sendXhr] at h
    split at h
    · cases h
    · obtain ⟨_, _, h⟩ := bind_eq_ok.mp h
      obtain ⟨_, _, h⟩ := bind_eq_ok.mp h
      exact xhrLoadNextChainEntry_scripted h
  | fetchRes n => exact fetchRes_scripted h

theorem prepareScope_scripted {scopeId : ℕ} {statements : List Statement}
    (h : w.prepareScope scopeId = .ok (w', statements)) : Scripted w w' := by
  obtain ⟨_, _, h⟩ := bind_eq_ok.mp h
  split at h
  · cases h
  · cases h
    exact .single (.engine _ _ w.engine.domTimers w.engine.xhrs)

/-- A script cannot execute a scope. -/
theorem nestedScope_ne_ok {scopeId : ℕ} : nestedScope scopeId w ≠ .ok w' := by
  intro h
  obtain ⟨_, _, h⟩ := bind_eq_ok.mp h
  cases h

theorem nestedScope_scripted : RunsScripted nestedScope :=
  fun _ _ _ h => absurd h nestedScope_ne_ok

/-- **What a scope does.** -/
theorem executeScope_scripted : RunsScripted executeScope := by
  intro scopeId w w' h
  obtain ⟨⟨w₁, statements⟩, hprepare, h⟩ := bind_eq_ok.mp h
  exact (prepareScope_scripted hprepare).trans
    (star_of_foldlM (fun _ _ _ => statement_scripted nestedScope_scripted) h)

end World

end ShadowBrowser.Blink
