/-
A page from one event to the next.

* `TaskStep` — one thing that happens in an event: what happens when clients are told, or what the
  engine and the resources do themselves;
* `Tasks` — any number of them;
* `pageStep_tasks`, `loadPage_cases` — an event of a page does nothing else, and how a page begins;
* `pages_of_run` — what holds of a new page, and is kept by each of these steps, holds of every page.
-/
import ShadowBrowser.PageReset

namespace ShadowBrowser.Blink

open Checked Runs Relation World

/-- One thing that happens in an event. -/
inductive TaskStep : World → World → Prop
  | client {w w' : World} : ClientStep w w' → TaskStep w w'
  /-- A client is called. -/
  | called {w : World} (m : Notice) : TaskStep w (w.note m)
  /-- The driver is told something. -/
  | driver {w : World} (m : DriverMsg) : TaskStep w (w.tellDriver m)
  /-- A request is no longer pending. -/
  | erased {w : World} (reqId : ℕ) : TaskStep w (w.erasePending reqId)
  /-- A resource receives something. -/
  | received {w : World} {n : ℕ} {r : Resource} (currentReqBodyBytesRecv firstByteTimeMs : ℕ) :
      w.fetcher.documentResources n = some r →
      TaskStep w (w.setResource n { r with currentReqBodyBytesRecv, firstByteTimeMs })
  /-- The next request of a resource is issued. -/
  | next {w : World} {n : ℕ} {r : Resource} (info : RequestInfo) :
      w.fetcher.documentResources n = some r → r.loadState = .loading →
      TaskStep w (w.issued n r info)
  /-- A resource has succeeded. -/
  | succeeded {w : World} {n : ℕ} {r : Resource} :
      w.fetcher.documentResources n = some r → r.loadState = .loading →
      TaskStep w (w.setResource n
        { r with currentReqBodyBytesRecv := 0, loadState := .finished, errored := false })
  /-- A resource has failed. -/
  | failed {w : World} {n : ℕ} {r : Resource} :
      w.fetcher.documentResources n = some r → r.loadState = .loading →
      TaskStep w (w.setResource n { r with errored := true })
  /-- A resource is counted no more. -/
  | counted {w : World} (requestCount : ℤ) :
      TaskStep w { w with fetcher := { w.fetcher with requestCount } }
  /-- The page is complete, or was looked at. -/
  | completed {w : World} (readyState : ReadyState) (state : EngineState)
      (checkCompletedTimer : Bool) :
      TaskStep w { w with
        document := { w.document with readyState }
        engine := { w.engine with state, checkCompletedTimer } }

/-- Any number of things that happen in an event. -/
abbrev Tasks : World → World → Prop := ReflTransGen TaskStep

namespace World

variable {w w' : World} {n : ℕ}

theorem tasks_of_told (h : Told w w') : Tasks w w' :=
  ReflTransGen.mono (fun _ _ => TaskStep.client) w w' h

theorem tasks_of_notified (h : Notified w w') : Tasks w w' := by
  refine ReflTransGen.mono (fun v v' hstep => ?_) w w' h
  cases hstep with
  | called m => exact .called m
  | client hclient => exact .client hclient

theorem tasks_of_scripted (h : Scripted w w') : Tasks w w' := tasks_of_told (told_of_scripted h)

/-- The end of the document is noted, its scopes are executed, and the page is looked at. -/
theorem finishedParsing_cases (h : w.finishedParsing = .ok w') :
    ∃ w₁, Scripted { w with document := { w.document with finishedParsing := true } } w₁ ∧
      w' = w₁.checkCompleted := by
  obtain ⟨w₁, hfire, h⟩ := bind_eq_ok.mp h
  cases h
  exact ⟨w₁, fireEventHandlingScopes_scripted executeScope_scripted hfire, rfl⟩

/-! ### Requests -/

theorem notifyAllFinished_tasks {success : Bool} {order : List ResourceClient}
    (h : w.notifyAllFinished n success order = .ok w') : Tasks w w' := by
  obtain ⟨r, _, h⟩ := bind_eq_ok.mp h
  obtain ⟨w₁, hcount, h⟩ := bind_eq_ok.mp h
  obtain ⟨_, _, h⟩ := bind_eq_ok.mp h
  refine ReflTransGen.trans ?_ (tasks_of_notified (callClients_star tellFinished_notified h))
  rw [decrementRequestCount] at hcount
  split_ifs at hcount
  · obtain ⟨_, _, hcount⟩ := bind_eq_ok.mp hcount
    cases hcount
    exact .single (.counted _)
  · cases hcount
    exact .refl

/-- The resource is finished, and its stylesheet is parsed. -/
theorem finished_tasks {r : Resource} {w₁ : World} (hr : w.fetcher.documentResources n = some r)
    (hloading : r.loadState = .loading)
    (h : parseIfStylesheet r ((w.tellDriver (.requestFinished n r.currentReqChainIdx
      true)).setResource n { r with
        currentReqBodyBytesRecv := 0, loadState := .finished, errored := false }) = .ok w₁) :
    Tasks w w₁ := by
  refine ReflTransGen.trans ?_ (tasks_of_scripted (parseIfStylesheet_scripted h))
  refine ReflTransGen.trans (.single (.driver (.requestFinished n r.currentReqChainIdx true))) ?_
  exact .single (.succeeded (r := r) hr hloading)

theorem finish_tasks {success : Bool} {order : List ResourceClient}
    (h : w.finish n success order = .ok w') : Tasks w w' := by
  obtain ⟨r, hr, hloading, h⟩ := finish_cases h
  cases h with
  | finished _ hparse h => exact (finished_tasks hr hloading hparse).trans (notifyAllFinished_tasks h)
  | next info _ =>
    refine ReflTransGen.trans (.single (.driver (.requestFinished n r.currentReqChainIdx true))) ?_
    refine ReflTransGen.trans (.single (.received (r := r) 0 r.firstByteTimeMs hr)) (.single ?_)
    exact .next (r := { r with currentReqBodyBytesRecv := 0 }) info setResource_self hloading
  | failed h =>
    refine ReflTransGen.trans (.single (.driver (.requestFinished n r.currentReqChainIdx false))) ?_
    exact ReflTransGen.trans (.single (.failed (r := r) hr hloading)) (notifyAllFinished_tasks h)

theorem appendData_tasks {len : ℕ} (h : w.appendData n len = .ok w') : Tasks w w' := by
  obtain ⟨r, hr, h⟩ := appendData_notified h
  exact ReflTransGen.trans (.single (.received (r := r) (r.currentReqBodyBytesRecv + len)
    r.firstByteTimeMs hr)) (tasks_of_notified h)

theorem receivedResponseMeta_tasks {firstByteTimeMs : ℕ}
    (h : w.receivedResponseMeta n firstByteTimeMs = .ok w') : Tasks w w' := by
  obtain ⟨r, hr, h⟩ := bind_eq_ok.mp h
  split_ifs at h
  · obtain ⟨_, _, h⟩ := bind_eq_ok.mp h
    cases h
    exact .single (.received (r := r) r.currentReqBodyBytesRecv _ (resource_eq_ok hr))
  · cases h
    exact .refl

/-! ### The events -/

theorem checkCompletedTimerFired_tasks (h : w.checkCompletedTimerFired = .ok w') : Tasks w w' := by
  obtain ⟨_, _, h⟩ := bind_eq_ok.mp h
  refine ReflTransGen.trans (.single (.completed w.document.readyState w.engine.state false)) ?_
  dsimp only at h
  split_ifs at h
  · obtain ⟨w₁, hcomplete, h⟩ := bind_eq_ok.mp h
    obtain ⟨r, _, h⟩ := bind_eq_ok.mp h
    refine ReflTransGen.trans (.single (.completed .complete w.engine.state false)) ?_
    refine ReflTransGen.trans (tasks_of_scripted (completeDocument_cases hcomplete)) ?_
    refine ReflTransGen.trans (.single (.completed w₁.document.readyState .idle
      w₁.engine.checkCompletedTimer)) ?_
    exact ReflTransGen.trans (.single (.driver _)) (tasks_of_told (maybeLoadUnloadedResources_told h))
  · cases h
    exact .refl

theorem handleRequestComplete_tasks {reqId : ℕ} {success : Bool} {order : List ResourceClient}
    (h : w.handleRequestComplete reqId success order = .ok (.page w')) : Tasks w w' := by
  rw [handleRequestComplete] at h
  split at h
  · cases h
    exact .refl
  · obtain ⟨_, _, h⟩ := bind_eq_ok.mp h
    dsimp only at h
    split_ifs at h
    · cases h
    · obtain ⟨w₁, hfinish, h⟩ := bind_eq_ok.mp h
      obtain ⟨w₂, htask, h⟩ := bind_eq_ok.mp h
      obtain ⟨w₃, hforce, h⟩ := bind_eq_ok.mp h
      cases h
      calc Tasks w _ := .single (.erased reqId)
        Tasks _ w₁ := finish_tasks hfinish
        Tasks w₁ w₂ := tasks_of_scripted (doEndOfTaskWork_scripted htask)
        Tasks w₂ _ := tasks_of_told (maybeLoadUnloadedResources_told hforce)

theorem pageMessage_tasks {m : ResourceMsg}
    (h : Renderer.pageMessage w m = .ok (.page w')) : Tasks w w' := by
  cases m with
  | receivedResponse id firstByteTimeMs =>
    obtain ⟨w₁, hm, h⟩ := bind_eq_ok.mp h
    cases h
    rw [handleReceivedResponse] at hm
    split at hm
    · cases hm
      exact .refl
    · obtain ⟨_, _, hm⟩ := bind_eq_ok.mp hm
      obtain ⟨w₂, hmeta, hm⟩ := bind_eq_ok.mp hm
      exact (receivedResponseMeta_tasks hmeta).trans
        (tasks_of_scripted (doEndOfTaskWork_scripted hm))
  | dataReceived id length =>
    obtain ⟨w₁, hm, h⟩ := bind_eq_ok.mp h
    cases h
    rw [handleDataReceived] at hm
    split at hm
    · cases hm
      exact .refl
    · obtain ⟨_, _, hm⟩ := bind_eq_ok.mp hm
      obtain ⟨w₂, hdata, hm⟩ := bind_eq_ok.mp hm
      exact (appendData_tasks hdata).trans (tasks_of_scripted (doEndOfTaskWork_scripted hm))
  | requestComplete id success order => exact handleRequestComplete_tasks h

/-- **What an event does to a page** that stays. -/
theorem pageStep_tasks {e : PageEvent} (h : Renderer.pageStep w e = .ok (.page w')) :
    Tasks w w' := by
  cases e with
  | loadPage loadId model timeMs => cases h
  | reset => cases h
  | message m => exact pageMessage_tasks h
  | resumeTimer =>
    obtain ⟨w₁, hw₁, h⟩ := bind_eq_ok.mp h
    cases h
    exact tasks_of_told (resumeTimerFired_told hw₁)
  | scriptsTimer =>
    obtain ⟨w₁, hw₁, h⟩ := bind_eq_ok.mp h
    cases h
    exact tasks_of_told (scriptsTimerFired_told hw₁)
  | checkCompletedTimer =>
    obtain ⟨w₁, hw₁, h⟩ := bind_eq_ok.mp h
    cases h
    exact checkCompletedTimerFired_tasks hw₁
  | domTimer timerID =>
    obtain ⟨w₁, hw₁, h⟩ := bind_eq_ok.mp h
    cases h
    exact tasks_of_scripted (domTimerFired_scripted hw₁)

end World

/-! ### Pages -/

namespace Renderer

variable {engine : Webengine} {w : World} {r r' : Renderer}

/-- How a page begins: with its main resource, which starts loading. -/
theorem loadPage_cases {loadId timeMs : ℕ} {model : PageModel}
    (h : loadPage engine loadId model timeMs = .ok r') :
    ∃ info w, model.resources.lookup 1 = some info ∧ model.htmlElementByteOffsets ≠ [] ∧
      ((engine.newPage model).setResource 1 { info, clients := [.fetcher, .document] }).loadResource 1
        = .ok w ∧
      r' = .page { w with engine := { w.engine with
        startLoadTimeMs := timeMs, currentLoadId := loadId, state := .pageLoading } } := by
  obtain ⟨_, _, h⟩ := bind_eq_ok.mp h
  obtain ⟨_, hne, h⟩ := bind_eq_ok.mp h
  obtain ⟨w, hload, h⟩ := bind_eq_ok.mp h
  cases h
  rw [loadMainResource] at hload
  split at hload
  · cases hload
  · next info hinfo =>
    obtain ⟨_, _, hload⟩ := bind_eq_ok.mp hload
    exact ⟨info, w, hinfo, check_eq_ok.mp hne, hload, rfl⟩

/-- A page comes from a new one, or from the page that was there before the event. -/
theorem step_page {e : PageEvent} (h : r.step e = .ok (.page w)) :
    (∃ engine loadId model timeMs, r = .blank engine ∧ e = .loadPage loadId model timeMs ∧
      loadPage engine loadId model timeMs = .ok (.page w)) ∨ ∃ w₀, r = .page w₀ ∧ Tasks w₀ w := by
  cases r with
  | page w₀ => exact .inr ⟨w₀, rfl, pageStep_tasks h⟩
  | blank engine =>
    cases e with
    | loadPage loadId model timeMs => exact .inl ⟨engine, loadId, model, timeMs, rfl, rfl, h⟩
    | reset => cases h
    | message m =>
      change blankStep engine (.message m) = .ok (.page w) at h
      rw [blankStep] at h
      split at h <;> cases h
    | resumeTimer => cases h
    | scriptsTimer => cases h
    | checkCompletedTimer => cases h
    | domTimer timerID => cases h

/-- **What holds of every page**: it holds of a new one, and each thing that happens keeps it. -/
theorem pages_of_run {P : World → Prop} (hnew : ∀ {engine loadId model timeMs w},
    loadPage engine loadId model timeMs = .ok (.page w) → P w) (hstep : Closed P TaskStep)
    {es : List PageEvent} (h : Run Steps start es (.page w)) : P w := by
  have hinv : ∀ v, Renderer.page w = .page v → P v := by
    refine h.invariant (P := fun r => ∀ v, r = .page v → P v) ?_ fun v hv => by cases hv
    rintro r e r' hr h v rfl
    rcases step_page h with ⟨engine, loadId, model, timeMs, -, -, hload⟩ | ⟨w₀, rfl, htasks⟩
    · exact hnew hload
    · exact hstep.star w₀ v (hr w₀ rfl) htasks
  exact hinv w rfl

/-- **What holds of every page between events**: it holds of a new one, and each event keeps it. -/
theorem page_invariant {P : World → Prop} (hnew : ∀ {engine loadId model timeMs w},
    engine.pendingRequests = [] → loadPage engine loadId model timeMs = .ok (.page w) → P w)
    (hstep : ∀ {w e w'}, P w → pageStep w e = .ok (.page w') → P w') {es : List PageEvent}
    (h : Run Steps start es (.page w)) : P w := by
  have hinv : (Renderer.page w).Sound ∧ ∀ v, Renderer.page w = .page v → P v := by
    refine h.invariant (P := fun r => r.Sound ∧ ∀ v, r = .page v → P v) ?_
      ⟨sound_of_run (.nil start), fun v hv => by cases hv⟩
    rintro r e r' ⟨hsound, hr⟩ h
    refine ⟨sound_step hsound h, ?_⟩
    rintro v rfl
    cases r with
    | page w₀ => exact hstep (hr w₀ rfl) h
    | blank engine =>
      rcases step_page h with ⟨_, loadId, model, timeMs, heq, -, hload⟩ | ⟨_, heq, -⟩
      · cases heq
        exact hnew hsound.2 hload
      · cases heq
  exact hinv.2 w rfl

end Renderer

end ShadowBrowser.Blink
