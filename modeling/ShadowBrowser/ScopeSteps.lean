/-
The scopes that a page executes.

Every scope that is executed is in the page model, and so is what has it executed: a script, a
stylesheet, a timer, a request, the document, or an update of the render tree.

* `PageModel.Uses` — the scopes that these have executed; the load events of elements are not
  among them;
* `FromModel` — the objects of a page are those of its model;
* `ScopeStep` — a scope is executed, an update is scheduled, the body comes, a scheduled update is
  executed, or nothing of that kind happens;
* `Moves` — what happens to a page is a chain of such steps.
-/
import ShadowBrowser.PageRuns

namespace ShadowBrowser.Blink

open Checked Runs Relation World

/-- The scopes of a page, by what has them executed.  The load events of elements are left out. -/
inductive PageModel.Uses (m : PageModel) : ℕ → Prop
  | script {e scopeId : ℕ} {info : ElementInfo} {execAsync execImmediately blocks : Bool} :
      m.elements.lookup e = some info →
      info.tag = .script execAsync execImmediately blocks scopeId → Uses m scopeId
  | stylesheet {n scopeId : ℕ} {info : ResourceInfo} : m.resources.lookup n = some info →
      info.type = .css (.scope scopeId) → Uses m scopeId
  | timer {t scopeId : ℕ} {info : DOMTimerInfo} : m.timers.lookup t = some info →
      scopeId ∈ info.firedScopeIds → Uses m scopeId
  | xhr {x scopeId : ℕ} {info : XMLHttpRequestInfo} {name : EventName} :
      m.xhrs.lookup x = some info → (name, scopeId) ∈ info.eventHandlingScopes → Uses m scopeId
  | document {scopeId : ℕ} {name : EventName} : (name, scopeId) ∈ m.eventHandlingScopes →
      Uses m scopeId
  | initialUpdate : Uses m m.initialRenderTreeUpdateScopeId
  | update {id scopeId : ℕ} {statements : List Statement} :
      m.execScopes.lookup id = some statements →
      .schedRenderUpdateScope scopeId ∈ statements → Uses m scopeId

/-- The objects of a page are those of its model. -/
structure FromModel (w : World) : Prop where
  resources : ∀ n r, w.fetcher.documentResources n = some r →
    w.model.resources.lookup n = some r.info
  scripts : ∀ e el execImmediately blocks scopeId, w.document.objects e = some el →
    el.kind = .script execImmediately blocks scopeId → w.model.Uses scopeId
  timers : ∀ t ∈ w.engine.domTimers, w.model.timers.lookup t.1 = some t.2.info
  xhrs : ∀ x xhr, w.engine.xhrs x = some xhr → w.model.xhrs.lookup x = some xhr.info
  document : w.document.eventHandlingScopes = w.model.eventHandlingScopes
  initial : w.engine.initialRenderTreeUpdateScopeId = w.model.initialRenderTreeUpdateScopeId
  scheduled : w.engine.scheduledRenderTreeUpdateScopeId ≠ 0 →
    w.model.Uses w.engine.scheduledRenderTreeUpdateScopeId

/-! ### Steps that execute and schedule nothing -/

/-- Nothing is executed or scheduled. -/
structure Quiet (w w' : World) : Prop where
  model : w'.model = w.model
  scheduled : w'.engine.scheduledRenderTreeUpdateScopeId = w.engine.scheduledRenderTreeUpdateScopeId
  executed : w'.engine.executedScopeIds = w.engine.executedScopeIds
  updates : w'.updates = w.updates
  body : w'.document.hasBodyElement = w.document.hasBodyElement
  fromModel : FromModel w → FromModel w'

theorem Quiet.refl (w : World) : Quiet w w := ⟨rfl, rfl, rfl, rfl, rfl, id⟩

theorem Quiet.trans {w w' w'' : World} (h : Quiet w w') (h' : Quiet w' w'') : Quiet w w'' :=
  ⟨h'.model.trans h.model, h'.scheduled.trans h.scheduled, h'.executed.trans h.executed,
    h'.updates.trans h.updates, h'.body.trans h.body, fun hw => h'.fromModel (h.fromModel hw)⟩

instance : Trans Quiet Quiet Quiet := ⟨Quiet.trans⟩

/-- A loop whose turns are quiet. -/
theorem Quiet.of_foldlM {α : Type} {f : World → α → Except PageCheck World}
    (hf : ∀ a w w', f w a = .ok w' → Quiet w w') {l : List α} :
    ∀ {w w' : World}, l.foldlM f w = .ok w' → Quiet w w' := by
  induction l with
  | nil =>
    intro w w' h
    cases h
    exact .refl w
  | cons a l ih =>
    intro w w' h
    obtain ⟨w₁, ha, h⟩ := bind_eq_ok.mp h
    exact (hf a _ _ ha).trans (ih h)

namespace World

variable {w w' : World} {n e : ℕ} {r : Resource} {c : ResourceClient} {el : Element}

/-- A resource is changed, or made as the model has it. -/
theorem quiet_setResource (h : FromModel w → w.model.resources.lookup n = some r.info) :
    Quiet w (w.setResource n r) := by
  refine ⟨rfl, rfl, rfl, rfl, rfl, fun hw => { hw with resources := ?_ }⟩
  intro m r' hr'
  by_cases hm : m = n
  · rw [hm, setResource_self] at hr'
    cases hr'
    exact hm ▸ h hw
  · rw [setResource_of_ne hm] at hr'
    exact hw.resources m r' hr'

/-- A resource is changed. -/
theorem quiet_changeResource {r' : Resource} (hr : w.fetcher.documentResources n = some r)
    (hinfo : r'.info = r.info) : Quiet w (w.setResource n r') :=
  quiet_setResource fun hw => by rw [hinfo, hw.resources n r hr]

/-- An element is changed, but not the scope of a script. -/
theorem quiet_setObject (h : ∀ execImmediately blocks scopeId,
    el.kind = .script execImmediately blocks scopeId → FromModel w → w.model.Uses scopeId) :
    Quiet w (w.setObject e el) := by
  refine ⟨rfl, rfl, rfl, rfl, rfl, fun hw => { hw with scripts := ?_ }⟩
  intro e' el' execImmediately blocks scopeId hel' hkind
  by_cases he : e' = e
  · rw [he] at hel'
    change Function.update w.document.objects e (some el) e = some el' at hel'
    rw [Function.update_self] at hel'
    cases hel'
    exact h _ _ _ hkind hw
  · change Function.update w.document.objects e (some el) e' = some el' at hel'
    rw [Function.update_of_ne he] at hel'
    exact hw.scripts e' el' _ _ _ hel' hkind

/-- The parser is changed. -/
theorem quiet_setParser (parser : HTMLDocumentParser) : Quiet w { w with parser } :=
  ⟨rfl, rfl, rfl, rfl, rfl, fun hw => { hw with }⟩

/-- A notice is made. -/
theorem quiet_note (m : Notice) : Quiet w (w.note m) :=
  ⟨rfl, rfl, rfl, rfl, rfl, fun hw => { hw with }⟩

/-- The engine is changed in what has nothing to do with scopes. -/
theorem quiet_setEngine {engine : Webengine}
    (hscheduled : engine.scheduledRenderTreeUpdateScopeId =
      w.engine.scheduledRenderTreeUpdateScopeId)
    (hinitial : engine.initialRenderTreeUpdateScopeId = w.engine.initialRenderTreeUpdateScopeId)
    (hexecuted : engine.executedScopeIds = w.engine.executedScopeIds)
    (htimers : engine.domTimers = w.engine.domTimers) (hxhrs : engine.xhrs = w.engine.xhrs) :
    Quiet w { w with engine } := by
  refine ⟨rfl, hscheduled, hexecuted, rfl, rfl, fun hw => ?_⟩
  refine ⟨hw.resources, hw.scripts, ?_, ?_, hw.document, hinitial.trans hw.initial, ?_⟩
  · exact htimers ▸ hw.timers
  · exact hxhrs ▸ hw.xhrs
  · exact hscheduled ▸ hw.scheduled

/-- A request is issued. -/
theorem quiet_issued {r' : Resource} {info : RequestInfo}
    (hr : w.fetcher.documentResources n = some r) (hinfo : r'.info = r.info) :
    Quiet w (w.issued n r' info) := by
  have hchange : Quiet w (w.setResource n
      { r' with currentReqChainIdx := r'.currentReqChainIdx + 1 }) :=
    quiet_changeResource hr hinfo
  exact hchange.trans (quiet_setEngine rfl rfl rfl rfl rfl)

/-! ### Resources -/

theorem getResource_quiet (h : w.getResource n = .ok w') : Quiet w w' := by
  obtain ⟨rfl, _⟩ | ⟨_, info, hinfo, rfl⟩ := getResource_cases h
  · exact .refl w'
  · exact quiet_setResource fun _ => hinfo

theorem incrementRequestCount_quiet : Quiet w (w.incrementRequestCount r) := by
  rw [incrementRequestCount]
  split
  · exact ⟨rfl, rfl, rfl, rfl, rfl, fun hw => { hw with }⟩
  · exact .refl w

theorem loadResource_quiet (h : w.loadResource n = .ok w') : Quiet w w' := by
  obtain ⟨r, info, hr, _, _, rfl⟩ := loadResource_cases h
  have hresources : (w.incrementRequestCount r).fetcher.documentResources n = some r := by
    rw [incrementRequestCount]
    split <;> exact hr
  exact incrementRequestCount_quiet.trans (quiet_issued hresources rfl)

theorem loadIfInitial_quiet (h : w.loadIfInitial n = .ok w') : Quiet w w' := by
  obtain ⟨r, _, h⟩ := bind_eq_ok.mp h
  split_ifs at h
  · exact loadResource_quiet h
  · cases h
    exact .refl w

theorem fetchRes_quiet (h : w.fetchRes n = .ok w') : Quiet w w' := by
  obtain ⟨w₁, hget, h⟩ := bind_eq_ok.mp h
  exact (getResource_quiet hget).trans (loadIfInitial_quiet h)

theorem addClient_quiet (h : w.addClient n c = .ok w') : Quiet w w' := by
  obtain ⟨r, hr, h⟩ := bind_eq_ok.mp h
  obtain ⟨_, _, h⟩ := bind_eq_ok.mp h
  cases h
  exact quiet_changeResource (resource_eq_ok hr) rfl

theorem removeClient_quiet (h : w.removeClient n c = .ok w') : Quiet w w' := by
  obtain ⟨r, hr, h⟩ := bind_eq_ok.mp h
  cases h
  let r' : Resource := { r with clients := r.clients.filter (· ≠ c) }
  have hleft : Quiet w (w.setResource n r') := quiet_changeResource (resource_eq_ok hr) rfl
  exact hleft.trans (quiet_note _)

/-! ### Elements -/

theorem setBlocking_quiet (b : Option ℕ) : Quiet w (w.setBlocking b) := quiet_setParser _

/-- The document is changed in what has nothing to do with scopes. -/
theorem quiet_setDocument {document : Document} (hobjects : document.objects = w.document.objects)
    (hbody : document.hasBodyElement = w.document.hasBodyElement)
    (hscopes : document.eventHandlingScopes = w.document.eventHandlingScopes) :
    Quiet w { w with document } := by
  refine ⟨rfl, rfl, rfl, rfl, hbody, fun hw => ?_⟩
  refine ⟨hw.resources, ?_, hw.timers, hw.xhrs, hscopes.trans hw.document, hw.initial,
    hw.scheduled⟩
  intro e el execImmediately blocks scopeId hel
  exact hw.scripts e el execImmediately blocks scopeId (hobjects ▸ hel)

theorem startBlocking_quiet (h : w.startBlocking e el = .ok w') : Quiet w w' := by
  obtain ⟨_, _, h⟩ := bind_eq_ok.mp h
  cases h
  have hset : Quiet w (w.setObject e { el with kind := .link true true }) :=
    quiet_setObject fun _ _ _ hk => by cases hk
  exact hset.trans (quiet_setDocument rfl rfl rfl)

theorem onResInstNumChanged_quiet (h : w.onResInstNumChanged e = .ok w') : Quiet w w' := by
  obtain ⟨el, _, h⟩ := bind_eq_ok.mp h
  split at h
  · obtain ⟨w₁, hget, h⟩ := bind_eq_ok.mp h
    obtain ⟨r, _, h⟩ := bind_eq_ok.mp h
    refine (getResource_quiet hget).trans ?_
    split_ifs at h
    · exact startBlocking_quiet h
    · cases h
      exact .refl _
  · cases h
    exact .refl w

/-- **Elements do nothing when their resource finishes**, but for the links that block. -/
theorem elementNotifyFinished_quiet (h : w.elementNotifyFinished e = .ok w') : Quiet w w' := by
  obtain ⟨el, _, h⟩ := bind_eq_ok.mp h
  split at h
  · obtain ⟨_, _, h⟩ := bind_eq_ok.mp h
    cases h
    have hset : Quiet w (w.setObject e { el with kind := .link true false }) :=
      quiet_setObject fun _ _ _ hk => by cases hk
    exact hset.trans (quiet_setDocument rfl rfl rfl)
  · cases h
    exact .refl w

theorem detach_quiet (h : w.detach e el n = .ok w') : Quiet w w' := by
  rw [detach] at h
  split_ifs at h
  · obtain ⟨w₁, hget, h⟩ := bind_eq_ok.mp h
    exact (getResource_quiet hget).trans (removeClient_quiet h)
  · cases h
    exact .refl w

/-- The load event of an element does nothing: either the element has no handling scopes yet, or a
script gives it the resource, which cannot execute a scope. -/
theorem fireLoad_eq {run : RunScope} {scopes : EventScopes} (hsilent : scopes = [] ∨ run = nestedScope)
    (h : w.fireEventHandlingScopes run scopes .load = .ok w') : w' = w := by
  rw [fireEventHandlingScopes] at h
  rcases hsilent with rfl | rfl
  · cases h
    rfl
  · cases hscopes : scopes.filter fun s => s.1 = .load with
    | nil =>
      rw [hscopes] at h
      cases h
      rfl
    | cons s rest =>
      rw [hscopes] at h
      obtain ⟨w₁, hrun, _⟩ := bind_eq_ok.mp h
      exact absurd hrun nestedScope_ne_ok

/-- The load event of the element does nothing. -/
def Silent (run : RunScope) (e : ℕ) (w : World) : Prop :=
  run = nestedScope ∨ ∀ el, w.document.objects e = some el → el.eventHandlingScopes = []

theorem attach_quiet {run : RunScope} (hsilent : Silent run e w)
    (h : w.attach run e n = .ok w') : Quiet w w' := by
  obtain ⟨r, _, h⟩ := bind_eq_ok.mp h
  split_ifs at h
  · cases h
    exact .refl w
  · obtain ⟨el, hel, h⟩ := bind_eq_ok.mp h
    have heq : w' = w := by
      refine fireLoad_eq ?_ h
      rcases hsilent with hrun | hnone
      · exact .inr hrun
      · exact .inl (hnone el (object_eq_ok hel))
    rw [heq]
    exact .refl w
  · obtain ⟨w₁, hload, h⟩ := bind_eq_ok.mp h
    exact (loadIfInitial_quiet hload).trans (addClient_quiet h)

theorem getResource_document (h : w.getResource n = .ok w') : w'.document = w.document := by
  obtain ⟨rfl, _⟩ | ⟨_, info, _, rfl⟩ := getResource_cases h
  · rfl
  · rfl

theorem detach_document (h : w.detach e el n = .ok w') : w'.document = w.document := by
  rw [detach] at h
  split_ifs at h
  · obtain ⟨w₁, hget, h⟩ := bind_eq_ok.mp h
    obtain ⟨r, _, h⟩ := bind_eq_ok.mp h
    cases h
    change w₁.document = w.document
    exact getResource_document hget
  · cases h
    rfl

/-- An element that has been changed in other things than its kind. -/
theorem quiet_changeObject {el' : Element} (hel : w.document.objects e = some el)
    (hkind : el'.kind = el.kind) : Quiet w (w.setObject e el') :=
  quiet_setObject fun execImmediately blocks scopeId hk hw =>
    hw.scripts e el execImmediately blocks scopeId hel (hkind ▸ hk)

theorem setResInstNum_quiet {run : RunScope} {changed : ℕ → World → Except PageCheck World}
    (hchanged : ∀ e w w', changed e w = .ok w' → Quiet w w')
    (hsilent : run = nestedScope ∨
      ∃ el, w.document.objects e = some el ∧ el.eventHandlingScopes = [] ∧ el.resInstNum = 0)
    (h : w.setResInstNum run changed e n = .ok w') : Quiet w w' := by
  obtain ⟨el, hel, h⟩ := bind_eq_ok.mp h
  obtain ⟨w₁, hdetach, h⟩ := bind_eq_ok.mp h
  obtain ⟨w₂, hget, h⟩ := bind_eq_ok.mp h
  obtain ⟨w₃, hattach, h⟩ := bind_eq_ok.mp h
  have hel := object_eq_ok hel
  have hset : Quiet w₁ (w₁.setObject e { el with resInstNum := n }) := by
    have hel₁ : w₁.document.objects e = some el := by
      rw [detach_document hdetach]
      exact hel
    exact quiet_changeObject hel₁ rfl
  have hsilent₂ : Silent run e w₂ := by
    rcases hsilent with hrun | ⟨el', hel', hscopes, _⟩
    · exact .inl hrun
    · refine .inr fun el₂ hel₂ => ?_
      rw [getResource_document hget] at hel₂
      change Function.update w₁.document.objects e _ e = some el₂ at hel₂
      rw [Function.update_self] at hel₂
      cases hel₂
      rw [hel] at hel'
      cases hel'
      exact hscopes
  calc Quiet w w₁ := detach_quiet hdetach
    Quiet w₁ _ := hset
    Quiet _ w₂ := getResource_quiet hget
    Quiet w₂ w₃ := attach_quiet hsilent₂ hattach
    Quiet w₃ w' := hchanged _ _ _ h

/-- **A script that gives an element another resource** executes nothing, or fails. -/
theorem setElemRes_quiet (h : w.setElemRes nestedScope e n = .ok w') : Quiet w w' := by
  rw [setElemRes] at h
  split_ifs at h
  · obtain ⟨el, _, h⟩ := bind_eq_ok.mp h
    obtain ⟨_, _, h⟩ := bind_eq_ok.mp h
    exact setResInstNum_quiet (fun _ _ _ => onResInstNumChanged_quiet) (.inl rfl) h
  · cases h
    exact .refl w

/-- **An element that is made** executes nothing, whether its resource is finished or not. -/
theorem newElement_quiet {run : RunScope} {kind : ElementKind} {info : ElementInfo}
    (hkind : ∀ execImmediately blocks scopeId, kind = .script execImmediately blocks scopeId →
      w.model.Uses scopeId)
    (h : w.newElement run e kind info = .ok w') : Quiet w w' := by
  obtain ⟨_, _, h⟩ := bind_eq_ok.mp h
  obtain ⟨w₁, hset, h⟩ := bind_eq_ok.mp h
  obtain ⟨el, hel, h⟩ := bind_eq_ok.mp h
  cases h
  have hmade : Quiet w (w.setObject e { kind }) :=
    quiet_setObject fun execImmediately blocks scopeId hk _ => hkind _ _ _ hk
  have hfirst : Quiet (w.setObject e { kind }) w₁ := by
    split_ifs at hset
    · refine setResInstNum_quiet (fun _ _ _ h => ?_) (.inr ⟨{ kind }, ?_, rfl, rfl⟩) hset
      · cases h
        exact .refl _
      · exact Function.update_self ..
    · cases hset
      exact .refl _
  exact (hmade.trans hfirst).trans (quiet_changeObject (object_eq_ok hel) rfl)

theorem insertElement_quiet (h : w.insertElement e = .ok w') : Quiet w w' := by
  obtain ⟨_, _, h⟩ := bind_eq_ok.mp h
  cases h
  exact quiet_setDocument rfl rfl rfl

theorem blockAtFirst_quiet (h : w.blockAtFirst e = .ok w') : Quiet w w' := by
  obtain ⟨el, _, h⟩ := bind_eq_ok.mp h
  split at h
  · split_ifs at h
    · obtain ⟨w₁, hget, h⟩ := bind_eq_ok.mp h
      obtain ⟨r, _, h⟩ := bind_eq_ok.mp h
      refine (getResource_quiet hget).trans ?_
      split_ifs at h
      · cases h
        exact .refl _
      · exact startBlocking_quiet h
    · cases h
      exact .refl _
  · cases h
    exact .refl _

/-! ### Scripts that block the parser -/

theorem isPendingScriptReady_quiet {ready : Bool}
    (h : w.isPendingScriptReady e = .ok (w', ready)) : Quiet w w' := by
  obtain ⟨el, _, h⟩ := bind_eq_ok.mp h
  split_ifs at h
  · cases h
    exact .refl _
  · obtain ⟨w₁, hget, h⟩ := bind_eq_ok.mp h
    obtain ⟨r, _, h⟩ := bind_eq_ok.mp h
    cases h
    exact getResource_quiet hget
  · cases h
    exact .refl _

theorem watchScript_quiet (h : w.watchScript el = .ok w') : Quiet w w' := by
  rw [watchScript] at h
  split_ifs at h
  · obtain ⟨w₁, hget, h⟩ := bind_eq_ok.mp h
    obtain ⟨r, _, h⟩ := bind_eq_ok.mp h
    refine (getResource_quiet hget).trans ?_
    split_ifs at h
    · cases h
      exact setBlocking_quiet none
    · cases h
      exact .refl _
    · obtain ⟨_, _, h⟩ := bind_eq_ok.mp h
      exact addClient_quiet h
  · cases h
    exact .refl _

/-! ### Timers and requests -/

theorem startTimer_quiet {timerID : ℕ} (h : w.startTimer timerID = .ok w') : Quiet w w' := by
  rw [startTimer] at h
  split at h
  · cases h
  · next info hinfo =>
    obtain ⟨_, _, h⟩ := bind_eq_ok.mp h
    obtain ⟨_, _, h⟩ := bind_eq_ok.mp h
    obtain ⟨_, _, h⟩ := bind_eq_ok.mp h
    obtain ⟨_, _, h⟩ := bind_eq_ok.mp h
    obtain ⟨_, _, h⟩ := bind_eq_ok.mp h
    cases h
    refine ⟨rfl, rfl, rfl, rfl, rfl, fun hw => { hw with timers := ?_ }⟩
    intro t ht
    rcases List.mem_append.mp ht with ht | ht
    · exact hw.timers t ht
    · cases List.mem_singleton.mp ht
      exact hinfo

theorem cancelTimer_quiet (timerID : ℕ) : Quiet w (w.cancelTimer timerID) :=
  ⟨rfl, rfl, rfl, rfl, rfl, fun hw => { hw with
    timers := fun t ht => hw.timers t (List.mem_filter.mp ht).1 }⟩

/-- A request is changed, or made as the model has it. -/
theorem quiet_setXhr {x : ℕ} {xhr : XMLHttpRequest} {engine : Webengine}
    (hengine : engine = { w.engine with xhrs := Function.update w.engine.xhrs x (some xhr) })
    (hinfo : w.model.xhrs.lookup x = some xhr.info) : Quiet w { w with engine } := by
  subst hengine
  refine ⟨rfl, rfl, rfl, rfl, rfl, fun hw => { hw with xhrs := ?_ }⟩
  intro y yhr hy
  change Function.update w.engine.xhrs x (some xhr) y = some yhr at hy
  by_cases hyx : y = x
  · rw [hyx, Function.update_self] at hy
    cases hy
    exact hyx ▸ hinfo
  · rw [Function.update_of_ne hyx] at hy
    exact hw.xhrs y yhr hy

theorem xhrLoadNextChainEntry_quiet {x : ℕ} {xhr : XMLHttpRequest}
    (hinfo : w.model.xhrs.lookup x = some xhr.info)
    (h : w.xhrLoadNextChainEntry x xhr = .ok w') : Quiet w w' := by
  obtain ⟨_, _, h⟩ := bind_eq_ok.mp h
  split at h
  · cases h
  · obtain ⟨_, _, h⟩ := bind_eq_ok.mp h
    obtain ⟨w₁, hget, h⟩ := bind_eq_ok.mp h
    obtain ⟨r, _, h⟩ := bind_eq_ok.mp h
    obtain ⟨_, _, h⟩ := bind_eq_ok.mp h
    obtain ⟨w₂, hload, h⟩ := bind_eq_ok.mp h
    obtain ⟨w₃, hclient, h⟩ := bind_eq_ok.mp h
    cases h
    have hsofar := ((getResource_quiet hget).trans (loadResource_quiet hload)).trans
      (addClient_quiet hclient)
    refine hsofar.trans (quiet_setXhr rfl ?_)
    rw [hsofar.model]
    exact hinfo

theorem sendXhr_quiet {x : ℕ} (h : w.sendXhr x = .ok w') : Quiet w w' := by
  rw [sendXhr] at h
  split at h
  · cases h
  · next info hinfo =>
    obtain ⟨_, _, h⟩ := bind_eq_ok.mp h
    obtain ⟨_, _, h⟩ := bind_eq_ok.mp h
    exact xhrLoadNextChainEntry_quiet hinfo h

end World

/-! ### Steps -/

/-- What happens to the scopes of a page, one thing at a time. -/
inductive ScopeStep : World → World → Prop
  | quiet {w w' : World} : Quiet w w' → ScopeStep w w'
  /-- A scope is executed, by something that uses it; its calls are steps of their own. -/
  | execute {w w' : World} {scopeId : ℕ} {statements : List Statement} : w.model.Uses scopeId →
      w.prepareScope scopeId = .ok (w', statements) → ScopeStep w w'
  /-- A script schedules an update. -/
  | schedule {w w' : World} {scopeId : ℕ} : w.model.Uses scopeId →
      scopeId ≠ w.engine.initialRenderTreeUpdateScopeId →
      w.schedRenderUpdateScope scopeId = .ok w' → ScopeStep w w'
  /-- The body comes, which schedules the initial update. -/
  | body {w w' : World} : w.addBody = .ok w' → ScopeStep w w'
  /-- The scheduled update is executed at the end of a task. -/
  | update {w w' : World} {statements : List Statement} : w.engine.scheduledRenderTreeUpdateScopeId ≠ 0 →
      w.takeUpdate.prepareScope w.engine.scheduledRenderTreeUpdateScopeId = .ok (w', statements) → ScopeStep w w'

namespace World

variable {w w' : World}

/-- A scope that is executed is noted. -/
theorem prepareScope_cases {scopeId : ℕ} {statements : List Statement}
    (h : w.prepareScope scopeId = .ok (w', statements)) :
    scopeId ∉ w.engine.executedScopeIds ∧ w.model.execScopes.lookup scopeId = some statements ∧
      w' = { w with engine := { w.engine with
        executedScopeIds := w.engine.executedScopeIds ++ [scopeId] } } := by
  obtain ⟨_, hnew, h⟩ := bind_eq_ok.mp h
  split at h
  · cases h
  · next found hfound =>
    cases h
    exact ⟨check_eq_ok.mp hnew, hfound, rfl⟩

/-- An update that is scheduled takes the place of any other. -/
theorem schedRenderUpdateScope_cases {scopeId : ℕ}
    (hne : scopeId ≠ w.engine.initialRenderTreeUpdateScopeId)
    (h : w.schedRenderUpdateScope scopeId = .ok w') :
    0 < scopeId ∧ w.engine.scheduledRenderTreeUpdateScopeId ≠ scopeId ∧
      w' = { w with
        engine := { w.engine with scheduledRenderTreeUpdateScopeId := scopeId }
        updates := w.updates ++ [.schedule scopeId] } := by
  obtain ⟨_, hpos, h⟩ := bind_eq_ok.mp h
  rw [if_neg hne] at h
  obtain ⟨_, hother, h⟩ := bind_eq_ok.mp h
  cases h
  exact ⟨check_eq_ok.mp hpos, check_eq_ok.mp hother, rfl⟩

/-- The body schedules the initial update, when no other is scheduled. -/
theorem addBody_cases (h : w.addBody = .ok w') :
    w.document.hasBodyElement = false ∧ w.engine.scheduledRenderTreeUpdateScopeId = 0 ∧
      w' = { w with
        document := { w.document with hasBodyElement := true }
        engine := { w.engine with
          scheduledRenderTreeUpdateScopeId := w.model.initialRenderTreeUpdateScopeId }
        updates := w.updates ++ [.body] } := by
  obtain ⟨_, hbody, h⟩ := bind_eq_ok.mp h
  obtain ⟨_, hnone, h⟩ := bind_eq_ok.mp h
  cases h
  exact ⟨check_eq_ok.mp hbody, check_eq_ok.mp hnone, rfl⟩

end World

namespace ScopeStep

variable {w w' : World}

theorem model (h : ScopeStep w w') : w'.model = w.model := by
  cases h with
  | quiet h => exact h.model
  | execute _ h =>
    obtain ⟨_, _, rfl⟩ := prepareScope_cases h
    rfl
  | schedule _ hne h =>
    obtain ⟨_, _, rfl⟩ := schedRenderUpdateScope_cases hne h
    rfl
  | body h =>
    obtain ⟨_, _, rfl⟩ := addBody_cases h
    rfl
  | update _ h =>
    obtain ⟨_, _, rfl⟩ := prepareScope_cases h
    rfl

theorem fromModel (h : ScopeStep w w') (hw : FromModel w) : FromModel w' := by
  cases h with
  | quiet h => exact h.fromModel hw
  | execute _ h =>
    obtain ⟨_, _, rfl⟩ := prepareScope_cases h
    exact { hw with }
  | schedule huses hne h =>
    obtain ⟨_, _, rfl⟩ := schedRenderUpdateScope_cases hne h
    exact { hw with scheduled := fun _ => huses }
  | body h =>
    obtain ⟨_, _, rfl⟩ := addBody_cases h
    exact { hw with scheduled := fun _ => .initialUpdate }
  | update _ h =>
    obtain ⟨_, _, rfl⟩ := prepareScope_cases h
    exact { hw with scheduled := fun h => absurd rfl h }

end ScopeStep

/-- Any number of steps. -/
abbrev Acts : World → World → Prop := ReflTransGen ScopeStep

namespace Acts

variable {w w' : World}

theorem model (h : Acts w w') : w'.model = w.model :=
  star_invariant (f := World.model) (fun _ _ => ScopeStep.model) h

theorem fromModel (h : Acts w w') (hw : FromModel w) : FromModel w' :=
  Closed.star (P := FromModel) (fun _ _ hv hstep => hstep.fromModel hv) _ _ hw h

end Acts

theorem Quiet.acts {w w' : World} (h : Quiet w w') : Acts w w' := .single (.quiet h)

/-- A page that is made from its model goes on in steps. -/
def Moves (w w' : World) : Prop := FromModel w → Acts w w'

namespace Moves

variable {w w' w'' : World}

theorem refl (w : World) : Moves w w := fun _ => .refl

theorem trans (h : Moves w w') (h' : Moves w' w'') : Moves w w'' :=
  fun hw => (h hw).trans (h' ((h hw).fromModel hw))

instance : Trans Moves Moves Moves := ⟨Moves.trans⟩

/-- A loop whose turns are steps. -/
theorem of_foldlM {α : Type} {f : World → α → Except PageCheck World} {l : List α} :
    ∀ {w w' : World}, (∀ a ∈ l, ∀ v v', v.model = w.model → f v a = .ok v' → Moves v v') →
      l.foldlM f w = .ok w' → Moves w w' := by
  induction l with
  | nil =>
    intro w w' _ h
    cases h
    exact .refl w
  | cons a l ih =>
    intro w w' hf h hw
    obtain ⟨w₁, ha, h⟩ := bind_eq_ok.mp h
    have hfirst := hf a List.mem_cons_self w w₁ rfl ha hw
    refine hfirst.trans (ih ?_ h (hfirst.fromModel hw))
    intro b hb v v' hv
    exact hf b (List.mem_cons_of_mem a hb) v v' (hv.trans hfirst.model)

end Moves

theorem Quiet.moves {w w' : World} (h : Quiet w w') : Moves w w' := fun _ => h.acts

end ShadowBrowser.Blink
