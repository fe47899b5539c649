/-
Page loads do not interfere across a reset.

Requests are matched to resources by number: `pending_requests_` leads from a request id to a
resource, and what the io service says carries the id only.  Resource numbers are the same in every
load of a page, and what the io service says can come at any time, long after the load that the
request was issued in.

* `Current` — the pending requests are about resources of this load, and were issued in it;
* `Current.clientStep`, `Current.step` — nothing that happens changes that;
* `reset_isolation` — so a message about a request issued before a reset is ignored.

Request ids never come back: the counter that they are taken from is not reset.
-/
import ShadowBrowser.ClientSteps

namespace ShadowBrowser.Blink

open Checked Runs Relation World

/-- The request was issued before the io service was last told to reset. -/
def RequestedBeforeReset (engine : Webengine) (reqId : ℕ) : Prop :=
  ∃ before after n info, engine.toIoService = before ++ .resetSession :: after ∧
    IoServiceMsg.requestResource reqId n info ∈ before

/-- The request ids that have been issued are those below the counter. -/
def Issued (engine : Webengine) : Prop :=
  ∀ id n info, IoServiceMsg.requestResource id n info ∈ engine.toIoService →
    id < engine.nextRequestId

/-- The pending requests are about resources of this load, and were issued in it. -/
structure Current (w : World) : Prop where
  issued : Issued w.engine
  live : ∀ p ∈ w.engine.pendingRequests, p.2.gen = w.fetcher.gen ∧
    (w.fetcher.documentResources p.2.instNum).isSome = true
  fresh : ∀ p ∈ w.engine.pendingRequests, ¬ RequestedBeforeReset w.engine p.1

theorem RequestedBeforeReset.lt {engine : Webengine} {id : ℕ}
    (h : RequestedBeforeReset engine id) (hissued : Issued engine) : id < engine.nextRequestId := by
  obtain ⟨before, after, n, info, heq, hmem⟩ := h
  refine hissued id n info ?_
  rw [heq]
  exact List.mem_append_left _ hmem

/-- What is issued now is not issued before a reset. -/
theorem requestedBeforeReset_of_snoc {engine engine' : Webengine} {id id' n : ℕ}
    {info : RequestInfo}
    (heq : engine'.toIoService = engine.toIoService ++ [.requestResource id' n info])
    (h : RequestedBeforeReset engine' id) : RequestedBeforeReset engine id := by
  obtain ⟨before, after, m, info', hsplit, hmem⟩ := h
  rw [heq] at hsplit
  -- the last message is not the reset
  rcases List.eq_nil_or_concat after with rfl | ⟨init, last, rfl⟩
  · have hlast := congrArg List.getLast? hsplit
    simp at hlast
  · have hinit : engine.toIoService = before ++ .resetSession :: init := by
      have h := congrArg List.dropLast hsplit
      rw [List.dropLast_concat, List.concat_eq_append, ← List.cons_append, ← List.append_assoc,
        List.dropLast_concat] at h
      exact h
    exact ⟨before, init, m, info', hinit, hmem⟩

/-! ### One step -/

namespace Current

variable {w w' : World} {n : ℕ} {r : Resource}

theorem setResource (hw : Current w) (n : ℕ) (r : Resource) : Current (w.setResource n r) where
  issued := hw.issued
  live p hp := by
    obtain ⟨hgen, hsome⟩ := hw.live p hp
    refine ⟨hgen, ?_⟩
    by_cases hn : p.2.instNum = n
    · rw [hn, setResource_self, Option.isSome_some]
    · rw [setResource_of_ne hn]
      exact hsome
  fresh := hw.fresh

/-- A request is issued for a resource. -/
theorem issue (hw : Current w) (n : ℕ) (r : Resource) (info : RequestInfo) :
    Current (w.issued n r info) := by
  constructor
  · intro id m info' hmem
    change _ ∈ w.engine.toIoService ++ [_] at hmem
    change id < w.engine.nextRequestId + 1
    rcases List.mem_append.mp hmem with hmem | hmem
    · have := hw.issued id m info' hmem
      omega
    · cases List.mem_singleton.mp hmem
      omega
  · intro p hp
    change p ∈ w.engine.pendingRequests ++ [_] at hp
    rcases List.mem_append.mp hp with hp | hp
    · exact (hw.setResource n _).live p hp
    · cases List.mem_singleton.mp hp
      refine ⟨rfl, ?_⟩
      rw [issued_self, Option.isSome_some]
  · intro p hp hbefore
    have hbefore := requestedBeforeReset_of_snoc rfl hbefore
    change p ∈ w.engine.pendingRequests ++ [_] at hp
    rcases List.mem_append.mp hp with hp | hp
    · exact hw.fresh p hp hbefore
    · cases List.mem_singleton.mp hp
      exact absurd (hbefore.lt hw.issued) (Nat.lt_irrefl _)

theorem note (hw : Current w) (m : Notice) : Current (w.note m) :=
  ⟨hw.issued, hw.live, hw.fresh⟩

theorem incrementRequestCount (hw : Current w) (r : Resource) :
    Current (w.incrementRequestCount r) := by
  rw [World.incrementRequestCount]
  split
  · exact ⟨hw.issued, hw.live, hw.fresh⟩
  · exact hw

theorem checkCompleted (hw : Current w) : Current w.checkCompleted := by
  rw [World.checkCompleted]
  split
  · exact ⟨hw.issued, hw.live, hw.fresh⟩
  · exact hw

theorem scriptStep : Closed Current ScriptStep := by
  intro w w' hw h
  cases h with
  | made _ _ => exact hw.setResource _ _
  | loaded info _ _ _ => exact (hw.incrementRequestCount _).issue _ _ info
  | clients _ _ _ _ _ => exact hw.setResource _ _
  | removed _ _ => exact (hw.setResource _ _).note _
  | updates _ => exact ⟨hw.issued, hw.live, hw.fresh⟩
  | engine _ _ _ _ => exact ⟨hw.issued, hw.live, hw.fresh⟩
  | document _ _ _ _ => exact ⟨hw.issued, hw.live, hw.fresh⟩
  | parser _ _ => exact ⟨hw.issued, hw.live, hw.fresh⟩

theorem scripted (hw : Current w) (h : Scripted w w') : Current w' :=
  scriptStep.star w w' hw h

theorem clientStep : Closed Current ClientStep := by
  intro w w' hw h
  cases h with
  | script h => exact scriptStep w w' hw h
  | parser _ => exact ⟨hw.issued, hw.live, hw.fresh⟩
  | document _ _ _ => exact ⟨hw.issued, hw.live, hw.fresh⟩
  | ended h =>
    obtain ⟨w₁, hfire, h⟩ := bind_eq_ok.mp h
    cases h
    have hflag : Current { w with document := { w.document with finishedParsing := true } } :=
      ⟨hw.issued, hw.live, hw.fresh⟩
    exact (hflag.scripted
      (fireEventHandlingScopes_scripted executeScope_scripted hfire)).checkCompleted
  | checked => exact hw.checkCompleted
  | forced _ => exact ⟨hw.issued, hw.live, hw.fresh⟩

/-- **Whatever the clients of a resource are told**, the pending requests stay those of this load. -/
theorem told (hw : Current w) (h : Told w w') : Current w' :=
  clientStep.star w w' hw h

theorem notified (hw : Current w) (h : Notified w w') : Current w' :=
  h.invariant (fun hv => hv.note _) clientStep hw

/-! ### What the engine is told -/

theorem notifyAllFinished (hw : Current w) {success : Bool} {order : List ResourceClient}
    (h : w.notifyAllFinished n success order = .ok w') : Current w' := by
  obtain ⟨r, _, h⟩ := bind_eq_ok.mp h
  obtain ⟨w₁, hcount, h⟩ := bind_eq_ok.mp h
  obtain ⟨_, _, h⟩ := bind_eq_ok.mp h
  have hw₁ : Current w₁ := by
    rw [World.decrementRequestCount] at hcount
    split_ifs at hcount
    · obtain ⟨_, _, hcount⟩ := bind_eq_ok.mp hcount
      cases hcount
      exact ⟨hw.issued, hw.live, hw.fresh⟩
    · cases hcount
      exact hw
  exact hw₁.notified (callClients_star tellFinished_notified h)

theorem finish (hw : Current w) {success : Bool} {order : List ResourceClient}
    (h : w.finish n success order = .ok w') : Current w' := by
  obtain ⟨r, _, _, h⟩ := finish_cases h
  have htold : ∀ m, Current (w.tellDriver m) := fun m => ⟨hw.issued, hw.live, hw.fresh⟩
  cases h with
  | finished _ hparse h =>
    exact (((htold _).setResource n _).scripted (parseIfStylesheet_scripted hparse)).notifyAllFinished
      h
  | next info _ => exact ((htold _).setResource n _).issue n _ info
  | failed h => exact ((htold _).setResource n _).notifyAllFinished h

theorem checkCompletedTimerFired (hw : Current w)
    (h : w.checkCompletedTimerFired = .ok w') : Current w' := by
  obtain ⟨_, _, h⟩ := bind_eq_ok.mp h
  dsimp only at h
  split_ifs at h
  · obtain ⟨w₁, hcomplete, h⟩ := bind_eq_ok.mp h
    obtain ⟨r, _, h⟩ := bind_eq_ok.mp h
    have hw₁ : Current w₁ := by
      refine Current.scripted ?_ (completeDocument_cases hcomplete)
      exact ⟨hw.issued, hw.live, hw.fresh⟩
    refine Current.told ?_ (maybeLoadUnloadedResources_told h)
    exact ⟨hw₁.issued, hw₁.live, hw₁.fresh⟩
  · cases h
    exact ⟨hw.issued, hw.live, hw.fresh⟩

end Current

/-! ### Runs of the renderer -/

/-- Without a page no request is pending. -/
def Renderer.Sound : Renderer → Prop
  | .blank engine => Issued engine ∧ engine.pendingRequests = []
  | .page w => Current w

namespace Renderer

variable {engine : Webengine} {w : World} {r r' : Renderer} {e : PageEvent}

theorem sound_reset (h : Issued engine) : (Renderer.blank engine.reset).Sound := by
  refine ⟨?_, rfl⟩
  intro id n info hmem
  change _ ∈ engine.toIoService ++ [.resetSession] at hmem
  rcases List.mem_append.mp hmem with hmem | hmem
  · exact h id n info hmem
  · cases List.mem_singleton.mp hmem

theorem sound_loadPage {loadId timeMs : ℕ} {model : PageModel}
    (hengine : (Renderer.blank engine).Sound)
    (h : loadPage engine loadId model timeMs = .ok r') : r'.Sound := by
  obtain ⟨hissued, hpending⟩ := hengine
  obtain ⟨_, _, h⟩ := bind_eq_ok.mp h
  obtain ⟨_, _, h⟩ := bind_eq_ok.mp h
  obtain ⟨w, hload, h⟩ := bind_eq_ok.mp h
  cases h
  have hnew : Current (engine.newPage model) := by
    refine ⟨hissued, ?_, ?_⟩
    · intro p hp
      change p ∈ engine.pendingRequests at hp
      rw [hpending] at hp
      cases hp
    · intro p hp
      change p ∈ engine.pendingRequests at hp
      rw [hpending] at hp
      cases hp
  rw [loadMainResource] at hload
  split at hload
  · cases hload
  · obtain ⟨_, _, hload⟩ := bind_eq_ok.mp hload
    have hw := (hnew.setResource 1 _).scripted (loadResource_scripted hload)
    exact ⟨hw.issued, hw.live, hw.fresh⟩

theorem sound_handleRequestComplete {reqId : ℕ} {success : Bool} {order : List ResourceClient}
    (hw : Current w) (h : w.handleRequestComplete reqId success order = .ok r') : r'.Sound := by
  rw [handleRequestComplete] at h
  split at h
  · cases h
    exact hw
  · obtain ⟨_, _, h⟩ := bind_eq_ok.mp h
    have herased : Current (w.erasePending reqId) :=
      ⟨hw.issued, fun p hp => hw.live p (List.mem_filter.mp hp).1,
        fun p hp => hw.fresh p (List.mem_filter.mp hp).1⟩
    dsimp only at h
    split_ifs at h
    · cases h
      -- the main resource has failed: this resets
      have hback : (Renderer.blank (w.erasePending reqId).engine.reset).Sound :=
        sound_reset hw.issued
      exact hback
    · obtain ⟨w₁, hfinish, h⟩ := bind_eq_ok.mp h
      obtain ⟨w₂, htask, h⟩ := bind_eq_ok.mp h
      obtain ⟨w₃, hforce, h⟩ := bind_eq_ok.mp h
      cases h
      exact (((herased.finish hfinish).scripted (doEndOfTaskWork_scripted htask)).told
        (maybeLoadUnloadedResources_told hforce))

theorem sound_message {m : ResourceMsg} (hw : Current w) (h : pageMessage w m = .ok r') :
    r'.Sound := by
  cases m with
  | receivedResponse id firstByteTimeMs =>
    obtain ⟨w₁, hm, h⟩ := bind_eq_ok.mp h
    cases h
    rw [handleReceivedResponse] at hm
    split at hm
    · cases hm
      exact hw
    · obtain ⟨_, _, hm⟩ := bind_eq_ok.mp hm
      obtain ⟨w₂, hmeta, hm⟩ := bind_eq_ok.mp hm
      refine Current.scripted ?_ (doEndOfTaskWork_scripted hm)
      obtain ⟨res, _, hmeta⟩ := bind_eq_ok.mp hmeta
      split_ifs at hmeta
      · obtain ⟨_, _, hmeta⟩ := bind_eq_ok.mp hmeta
        cases hmeta
        exact hw.setResource _ _
      · cases hmeta
        exact hw
  | dataReceived id length =>
    obtain ⟨w₁, hm, h⟩ := bind_eq_ok.mp h
    cases h
    rw [handleDataReceived] at hm
    split at hm
    · cases hm
      exact hw
    · obtain ⟨_, _, hm⟩ := bind_eq_ok.mp hm
      obtain ⟨w₂, hdata, hm⟩ := bind_eq_ok.mp hm
      refine Current.scripted ?_ (doEndOfTaskWork_scripted hm)
      obtain ⟨res, _, hdata⟩ := appendData_notified hdata
      exact (hw.setResource _ _).notified hdata
  | requestComplete id success order => exact sound_handleRequestComplete hw h

/-- **Every event** leaves the pending requests those of the current load. -/
theorem sound_step (hr : r.Sound) (h : r.step e = .ok r') : r'.Sound := by
  cases r with
  | blank engine =>
    cases e with
    | loadPage loadId model timeMs => exact sound_loadPage hr h
    | reset =>
      cases h
      exact sound_reset hr.1
    -- a message that comes behind a reset is about no request that is known
    | message m =>
      have hnone : engine.pendingRequests.lookup m.reqId = none := by
        rw [hr.2]
        rfl
      change blankStep engine (.message m) = .ok r' at h
      rw [blankStep, hnone] at h
      cases h
      exact hr
    | resumeTimer => cases h
    | scriptsTimer => cases h
    | checkCompletedTimer => cases h
    | domTimer timerID => cases h
  | page w =>
    cases e with
    | loadPage loadId model timeMs => cases h
    | reset =>
      cases h
      exact sound_reset (Current.issued hr)
    | message m => exact sound_message hr h
    | resumeTimer =>
      obtain ⟨w₁, hw₁, h⟩ := bind_eq_ok.mp h
      cases h
      exact Current.told hr (resumeTimerFired_told hw₁)
    | scriptsTimer =>
      obtain ⟨w₁, hw₁, h⟩ := bind_eq_ok.mp h
      cases h
      exact Current.told hr (scriptsTimerFired_told hw₁)
    | checkCompletedTimer =>
      obtain ⟨w₁, hw₁, h⟩ := bind_eq_ok.mp h
      cases h
      exact Current.checkCompletedTimerFired hr hw₁
    | domTimer timerID =>
      obtain ⟨w₁, hw₁, h⟩ := bind_eq_ok.mp h
      cases h
      exact Current.scripted hr (domTimerFired_scripted hw₁)

/-- The renderer's events. -/
def Steps (r : Renderer) (e : PageEvent) (r' : Renderer) : Prop := r.step e = .ok r'

theorem sound_of_run {es : List PageEvent} (h : Run Steps start es r) : r.Sound :=
  h.invariant (fun _ _ _ => sound_step) ⟨fun _ _ _ hmem => absurd hmem List.not_mem_nil, rfl⟩

theorem Sound.lookup_eq_none {id : ℕ} (hr : r.Sound) (h : RequestedBeforeReset r.engine id) :
    r.engine.pendingRequests.lookup id = none := by
  rw [List.lookup_eq_none_iff]
  intro p hp
  cases r with
  | blank engine =>
    change p ∈ engine.pendingRequests at hp
    rw [hr.2] at hp
    cases hp
  | page w =>
    have hne : p.1 ≠ id := by
      rintro rfl
      exact Current.fresh hr p hp h
    simpa using hne.symm

/-- **Reset isolation.**  In every state that is reached, by whatever order of requests, messages of
the io service, resets, failures of the main resource and page loads: every pending request is about
a resource of the page that is loaded, and a message about a request issued before a reset changes
nothing at all. -/
theorem reset_isolation {es : List PageEvent} (h : Run Steps start es r) :
    (∀ p ∈ r.engine.pendingRequests, ∃ w, r = .page w ∧ p.2.gen = w.fetcher.gen ∧
      (w.fetcher.documentResources p.2.instNum).isSome = true) ∧
    ∀ m : ResourceMsg, RequestedBeforeReset r.engine m.reqId → r.step (.message m) = .ok r := by
  have hr := sound_of_run h
  constructor
  · intro p hp
    cases r with
    | blank engine =>
      change p ∈ engine.pendingRequests at hp
      rw [hr.2] at hp
      cases hp
    | page w => exact ⟨w, rfl, Current.live hr p hp⟩
  · -- the request is not known any more, so its messages change nothing
    intro m hm
    have hnone := hr.lookup_eq_none hm
    cases r with
    | blank engine =>
      change engine.pendingRequests.lookup m.reqId = none at hnone
      change blankStep engine (.message m) = .ok (.blank engine)
      rw [blankStep, hnone]
    | page w =>
      change w.engine.pendingRequests.lookup m.reqId = none at hnone
      cases m with
      | receivedResponse id firstByteTimeMs =>
        change pageMessage w (.receivedResponse id firstByteTimeMs) = .ok (.page w)
        rw [pageMessage, handleReceivedResponse, show w.engine.pendingRequests.lookup id = none from
          hnone]
        rfl
      | dataReceived id length =>
        change pageMessage w (.dataReceived id length) = .ok (.page w)
        rw [pageMessage, handleDataReceived, show w.engine.pendingRequests.lookup id = none from
          hnone]
        rfl
      | requestComplete id success order =>
        change pageMessage w (.requestComplete id success order) = .ok (.page w)
        rw [pageMessage, handleRequestComplete, show w.engine.pendingRequests.lookup id = none from
          hnone]

/-- A page with nothing but its main resource. -/
def plainPage : PageModel where
  resources := [(1, {
    partOfPageLoadedCheck := true
    reqChain := [{ respBodySize := 10 }]
    type := .main })]
  elements := [(5, { tag := .img })]
  htmlElementByteOffsets := [(0, 5)]

/-- The page is loaded, the engine is reset, and the page is loaded again. -/
def reload : List PageEvent := [.loadPage 1 plainPage 0, .reset, .loadPage 2 plainPage 0]

/-- After the reload the main resource is waited for under another request id; data for the first
request comes too late. -/
theorem reset_isolation_reload : ∃ r, Run Steps start reload r ∧
    r.engine.pendingRequests = [(2, ⟨1, 1⟩)] ∧ r.step (.message (.dataReceived 1 10)) = .ok r := by
  have hreturns : returns (exec step start reload) (fun r =>
      decide (r.engine.pendingRequests = [(2, ⟨1, 1⟩)]) &&
        decide (r.engine.toIoService = [.requestResource 1 1 { respBodySize := 10 }] ++
          .resetSession :: [.requestResource 2 1 { respBodySize := 10 }])) = true := by decide
  obtain ⟨r, hr, htest⟩ := exists_of_returns hreturns
  obtain ⟨hpending, hsent⟩ := (Bool.and_eq_true _ _).mp htest
  have hrun : Run Steps start reload r := run_of_exec hr
  exact ⟨r, hrun, of_decide_eq_true hpending, (reset_isolation hrun).2 (.dataReceived 1 10)
    ⟨_, _, 1, _, of_decide_eq_true hsent, List.mem_singleton.mpr rfl⟩⟩

end Renderer

end ShadowBrowser.Blink
