/-
What the driver is told of a page load.

For each page that it has loaded the driver waits for one answer: the page is complete, or its main
resource has failed.

* `Reported` — the renderer, with the answers about the page that was loaded last;
* `Unanswered` — what happens in an event tells the driver nothing of the kind;
* `MainEnded` — a document has come in full when the main resource is finished;
* **`one_answer`** — there is at most one answer, and when it is given;
* **`completes_once`** — when a page is found complete.

A page that is complete cannot fail later: its document has come in full, so that no request of the main
resource is pending.
-/
import ShadowBrowser.PageCompletion
import ShadowBrowser.Parsing

namespace ShadowBrowser.Blink

open Checked Runs Relation Counting World

/-! ### Answers -/

/-- The messages that end a load for the driver. -/
def DriverMsg.isAnswer : DriverMsg → Bool
  | .pageLoaded _ _ => true
  | .pageLoadFailed _ => true
  | _ => false

/-- The answers among what is sent to the driver. -/
def answersIn (sent : List DriverMsg) : List DriverMsg := sent.filter DriverMsg.isAnswer

/-- Whether the event is a page load. -/
def PageEvent.isLoad : PageEvent → Bool
  | .loadPage .. => true
  | _ => false

/-- The renderer, with the answers about the page that was loaded last. -/
structure Reported where
  renderer : Renderer := .start
  answers : List DriverMsg := []

namespace Reported

/-- The renderer's next event, with the answers that it gives. -/
def step (s : Reported) (e : PageEvent) : Except PageCheck Reported := do
  let r ← s.renderer.step e
  return {
    renderer := r
    answers := (if e.isLoad = true then [] else s.answers) ++
      answersIn (r.engine.toDriver.drop s.renderer.engine.toDriver.length) }

/-- The steps of the renderer, with the answers. -/
def Steps (s : Reported) (e : PageEvent) (s' : Reported) : Prop := s.step e = .ok s'

end Reported

/-! ### What gives no answer -/

/-- What happens gives no answer, and the load goes on. -/
structure Unanswered (w w' : World) : Prop where
  sent : ∃ l, w'.engine.toDriver = w.engine.toDriver ++ l ∧ answersIn l = []
  state : w'.engine.state = w.engine.state
  loadId : w'.engine.currentLoadId = w.engine.currentLoadId
  readyState : w'.document.readyState = w.document.readyState

namespace Unanswered

variable {w w₁ w' : World} {n : ℕ}

theorem trans (h : Unanswered w w₁) (h' : Unanswered w₁ w') : Unanswered w w' := by
  obtain ⟨⟨l, hl, hnone⟩, hstate, hid, hready⟩ := h
  obtain ⟨⟨l', hl', hnone'⟩, hstate', hid', hready'⟩ := h'
  refine ⟨⟨l ++ l', ?_, ?_⟩, hstate'.trans hstate, hid'.trans hid, hready'.trans hready⟩
  · rw [hl', hl, List.append_assoc]
  · rw [answersIn, List.filter_append]
    exact List.append_eq_nil_iff.mpr ⟨hnone, hnone'⟩

/-- Nothing is sent. -/
theorem frame (hsent : w'.engine.toDriver = w.engine.toDriver)
    (hstate : w'.engine.state = w.engine.state)
    (hid : w'.engine.currentLoadId = w.engine.currentLoadId)
    (hready : w'.document.readyState = w.document.readyState) : Unanswered w w' :=
  ⟨⟨[], by rw [hsent, List.append_nil], rfl⟩, hstate, hid, hready⟩

theorem refl (w : World) : Unanswered w w := frame rfl rfl rfl rfl

theorem tellDriver {m : DriverMsg} (hm : m.isAnswer = false) : Unanswered w (w.tellDriver m) :=
  ⟨⟨[m], rfl, by simp [answersIn, hm]⟩, rfl, rfl, rfl⟩

theorem issued (r : Resource) (info : RequestInfo) : Unanswered w (w.issued n r info) :=
  ⟨⟨_, rfl, rfl⟩, rfl, rfl, rfl⟩

theorem checkCompleted (w : World) : Unanswered w w.checkCompleted := by
  rw [World.checkCompleted]
  split <;> exact frame rfl rfl rfl rfl

theorem incrementRequestCount (r : Resource) : Unanswered w (w.incrementRequestCount r) := by
  rw [World.incrementRequestCount]
  split <;> exact frame rfl rfl rfl rfl

theorem scriptStep (h : ScriptStep w w') : Unanswered w w' := by
  cases h with
  | @loaded _ r info _ _ _ => exact (incrementRequestCount r).trans (issued _ info)
  | _ => exact frame rfl rfl rfl rfl

/-- What goes on step by step goes on. -/
theorem star {s : World → World → Prop} (hs : ∀ {v v'}, s v v' → Unanswered v v')
    (h : ReflTransGen s w w') : Unanswered w w' := by
  induction h with
  | refl => exact refl w
  | tail _ hstep ih => exact ih.trans (hs hstep)

theorem scripted (h : Scripted w w') : Unanswered w w' := star scriptStep h

theorem clientStep (h : ClientStep w w') : Unanswered w w' := by
  cases h with
  | script h => exact scriptStep h
  | ended h =>
    obtain ⟨w₁, hscripted, rfl⟩ := finishedParsing_cases h
    have hnoted : Unanswered w { w with document := { w.document with finishedParsing := true } } :=
      frame rfl rfl rfl rfl
    exact (hnoted.trans (scripted hscripted)).trans (checkCompleted w₁)
  | checked => exact checkCompleted w
  | _ => exact frame rfl rfl rfl rfl

theorem told (h : Told w w') : Unanswered w w' := star clientStep h

theorem notified (h : Notified w w') : Unanswered w w' :=
  star (fun h => by
    cases h with
    | called m => exact frame rfl rfl rfl rfl
    | client h => exact clientStep h) h

theorem notifyAllFinished {success : Bool} {order : List ResourceClient}
    (h : w.notifyAllFinished n success order = .ok w') : Unanswered w w' := by
  obtain ⟨r, _, h⟩ := bind_eq_ok.mp h
  obtain ⟨w₁, hcount, h⟩ := bind_eq_ok.mp h
  obtain ⟨_, _, h⟩ := bind_eq_ok.mp h
  refine trans ?_ (notified (callClients_star tellFinished_notified h))
  rw [decrementRequestCount] at hcount
  split_ifs at hcount
  · obtain ⟨_, _, hcount⟩ := bind_eq_ok.mp hcount
    cases hcount
    exact frame rfl rfl rfl rfl
  · cases hcount
    exact refl w

theorem setResource (r : Resource) : Unanswered w (w.setResource n r) := frame rfl rfl rfl rfl

theorem finish {success : Bool} {order : List ResourceClient}
    (h : w.finish n success order = .ok w') : Unanswered w w' := by
  obtain ⟨r, _, _, h⟩ := finish_cases h
  cases h with
  | finished _ hparse h =>
    exact (((tellDriver rfl).trans (setResource _)).trans
      (scripted (parseIfStylesheet_scripted hparse))).trans (notifyAllFinished h)
  | next info _ => exact ((tellDriver rfl).trans (setResource _)).trans (issued _ info)
  | failed h => exact ((tellDriver rfl).trans (setResource _)).trans (notifyAllFinished h)

/-- What the io service says gives no answer, unless the main resource has failed. -/
theorem pageMessage {m : ResourceMsg} (h : Renderer.pageMessage w m = .ok (.page w')) :
    Unanswered w w' := by
  -- each message works on resources and on the page, and none of these is an answer
  cases m with
  | receivedResponse id firstByteTimeMs =>
    obtain ⟨w₁, hm, h⟩ := bind_eq_ok.mp h
    cases h
    rw [handleReceivedResponse] at hm
    split at hm
    · cases hm
      exact refl w
    · obtain ⟨_, _, hm⟩ := bind_eq_ok.mp hm
      obtain ⟨w₂, hmeta, hm⟩ := bind_eq_ok.mp hm
      refine trans ?_ (scripted (doEndOfTaskWork_scripted hm))
      obtain ⟨r, _, hmeta⟩ := bind_eq_ok.mp hmeta
      split_ifs at hmeta
      · obtain ⟨_, _, hmeta⟩ := bind_eq_ok.mp hmeta
        cases hmeta
        exact setResource _
      · cases hmeta
        exact refl w
  | dataReceived id length =>
    obtain ⟨w₁, hm, h⟩ := bind_eq_ok.mp h
    cases h
    rw [handleDataReceived] at hm
    split at hm
    · cases hm
      exact refl w
    · obtain ⟨_, _, hm⟩ := bind_eq_ok.mp hm
      obtain ⟨w₂, hdata, hm⟩ := bind_eq_ok.mp hm
      refine trans ?_ (scripted (doEndOfTaskWork_scripted hm))
      obtain ⟨r, _, hdata⟩ := appendData_notified hdata
      exact (setResource _).trans (notified hdata)
  | requestComplete id success order =>
    change w.handleRequestComplete id success order = .ok (.page w') at h
    rw [handleRequestComplete] at h
    split at h
    · cases h
      exact refl w
    · obtain ⟨_, _, h⟩ := bind_eq_ok.mp h
      dsimp only at h
      split_ifs at h
      · cases h
      · obtain ⟨w₁, hfinish, h⟩ := bind_eq_ok.mp h
        obtain ⟨w₂, htask, h⟩ := bind_eq_ok.mp h
        obtain ⟨w₃, hforce, h⟩ := bind_eq_ok.mp h
        cases h
        have herased : Unanswered w (w.erasePending id) := frame rfl rfl rfl rfl
        exact ((herased.trans (finish hfinish)).trans
          (scripted (doEndOfTaskWork_scripted htask))).trans
            (told (maybeLoadUnloadedResources_told hforce))

/-- **An event gives no answer**, unless the timer finds the page complete. -/
theorem pageStep {e : PageEvent} (h : Renderer.pageStep w e = .ok (.page w')) :
    Unanswered w w' ∨ e = .checkCompletedTimer ∧ w.engine.state = .pageLoading ∧
      w.document.finishedParsing = true ∧ w.fetcher.requestCount = 0 ∧
      ∃ l ttfbMs, w'.engine.toDriver = w.engine.toDriver ++ l ∧
        answersIn l = [.pageLoaded w.engine.currentLoadId ttfbMs] ∧ w'.engine.state = .idle ∧
        w'.engine.currentLoadId = w.engine.currentLoadId ∧ w'.document.readyState = .complete := by
  cases e with
  | loadPage loadId model timeMs => cases h
  | reset => cases h
  | message m => exact .inl (pageMessage h)
  | resumeTimer =>
    obtain ⟨w₁, hw₁, h⟩ := bind_eq_ok.mp h
    cases h
    exact .inl (told (resumeTimerFired_told hw₁))
  | scriptsTimer =>
    obtain ⟨w₁, hw₁, h⟩ := bind_eq_ok.mp h
    cases h
    exact .inl (told (scriptsTimerFired_told hw₁))
  | checkCompletedTimer =>
    obtain ⟨w₁, hw₁, h⟩ := bind_eq_ok.mp h
    cases h
    -- the one answer is the timer's, with scripts before and more loads behind it
    rcases checkCompletedTimerFired_cases hw₁ with ⟨hstate, hfinished, hzero, h⟩ | ⟨_, rfl⟩
    · refine .inr ⟨rfl, hstate, hfinished, hzero, ?_⟩
      obtain ⟨w₂, hcomplete, h⟩ := bind_eq_ok.mp h
      obtain ⟨r, _, h⟩ := bind_eq_ok.mp h
      obtain ⟨⟨l, hl, hnone⟩, -, hid, hready⟩ := scripted (completeDocument_cases hcomplete)
      obtain ⟨⟨l', hl', hnone'⟩, hidle, hid', hready'⟩ := told (maybeLoadUnloadedResources_told h)
      have hl : w₂.engine.toDriver = w.engine.toDriver ++ l := hl
      have hid : w₂.engine.currentLoadId = w.engine.currentLoadId := hid
      let answer : DriverMsg := .pageLoaded w₂.engine.currentLoadId
        ((r.firstByteTimeMs : ℤ) - w₂.engine.startLoadTimeMs)
      have hl' : w'.engine.toDriver = (w₂.engine.toDriver ++ [answer]) ++ l' := hl'
      refine ⟨l ++ [answer] ++ l', (r.firstByteTimeMs : ℤ) - w₂.engine.startLoadTimeMs, ?_, ?_, hidle,
        hid'.trans hid, hready'.trans hready⟩
      · rw [hl', hl, List.append_assoc, List.append_assoc, List.append_assoc]
      · have hanswer : answersIn [answer] = [answer] := rfl
        rw [answersIn, List.filter_append, List.filter_append, ← answersIn, ← answersIn, ← answersIn,
          hnone, hnone', hanswer, List.append_nil, List.nil_append, ← hid]
    · exact .inl (frame rfl rfl rfl rfl)
  | domTimer timerID =>
    obtain ⟨w₁, hw₁, h⟩ := bind_eq_ok.mp h
    cases h
    exact .inl (scripted (domTimerFired_scripted hw₁))

end Unanswered

/-! ### The main resource -/

/-- A document has come in full when the main resource is finished. -/
def MainEnded (w : World) : Prop :=
  w.parser.doneReceived = true → ∃ r, w.fetcher.documentResources 1 = some r ∧ r.isFinished

section

variable {w w₁ w' : World} {n : ℕ} {success : Bool} {order : List ResourceClient}

/-- What scripts leave alone. -/
theorem LeavesPlace.doneReceived (h : LeavesPlace w w') :
    w'.parser.doneReceived = w.parser.doneReceived :=
  congrArg Prod.fst h.input

/-- Only the document, when it is told that the main resource is finished, ends what is received. -/
theorem notifyFinished_doneReceived {c : ResourceClient} (hw : Settled w)
    (h : w.notifyFinished n success c = .ok w') :
    w'.parser.doneReceived = w.parser.doneReceived ∨ n = 1 ∧ success = true := by
  cases c with
  | fetcher =>
    cases h
    exact .inl checkCompleted_leaves.doneReceived
  | document =>
    obtain ⟨_, hmain, h⟩ := bind_eq_ok.mp h
    obtain ⟨_, hsuccess, _⟩ := bind_eq_ok.mp h
    exact .inr ⟨check_eq_ok.mp hmain, check_eq_ok.mp hsuccess⟩
  | parser =>
    obtain ⟨_, _, h⟩ := bind_eq_ok.mp h
    obtain ⟨_, _, h⟩ := bind_eq_ok.mp h
    exact .inl (congrArg Prod.fst (executeScriptsAndResume_settled hw h).2)
  | element e => exact .inl (elementNotifyFinished_leaves h).doneReceived
  | xhr x => exact .inl (xhrNotifyFinished_leaves h).doneReceived

theorem callClients_doneReceived (hw : Settled w)
    (h : w.callClients n (tellFinished n success) order = .ok w') :
    w'.parser.doneReceived = w.parser.doneReceived ∨ n = 1 ∧ success = true := by
  have hkept : Settled w' ∧
      (w'.parser.doneReceived = w.parser.doneReceived ∨ n = 1 ∧ success = true) := by
    refine callClients_invariant (P := fun v => Settled v ∧
      (v.parser.doneReceived = w.parser.doneReceived ∨ n = 1 ∧ success = true)) ?_ ⟨hw, .inl rfl⟩ h
    rintro c v v' ⟨hv, hdone⟩ hcall
    refine ⟨tellFinished_settled hv hcall, ?_⟩
    rcases notifyFinished_doneReceived (hv.leaves (.note _)) hcall with hsame | hmain
    · exact hdone.imp_left hsame.trans
    · exact .inr hmain
  exact hkept.2

theorem notifyAllFinished_doneReceived (hw : Settled w)
    (h : w.notifyAllFinished n success order = .ok w') :
    w'.parser.doneReceived = w.parser.doneReceived ∨ n = 1 ∧ success = true := by
  obtain ⟨r, _, h⟩ := bind_eq_ok.mp h
  obtain ⟨w₁, hcount, h⟩ := bind_eq_ok.mp h
  obtain ⟨_, _, h⟩ := bind_eq_ok.mp h
  rw [decrementRequestCount] at hcount
  split_ifs at hcount
  · obtain ⟨_, _, hcount⟩ := bind_eq_ok.mp hcount
    cases hcount
    have hw₁ : Settled { w with fetcher := { w.fetcher with
        requestCount := w.fetcher.requestCount - 1 } } := hw.leaves (.same rfl rfl rfl rfl rfl)
    have htold := callClients_doneReceived hw₁ h
    exact htold
  · cases hcount
    exact callClients_doneReceived hw h

/-- What is received ends with the main resource. -/
theorem finish_doneReceived (hw : Settled w) (h : w.finish n success order = .ok w') :
    w'.parser.doneReceived = w.parser.doneReceived ∨
      n = 1 ∧ ∃ r, w'.fetcher.documentResources 1 = some r ∧ r.isFinished := by
  obtain ⟨r, _, _, h⟩ := finish_cases h
  cases h with
  | @finished w₁ _ _ hparse hnotify =>
    have hset : Settled ((w.tellDriver (.requestFinished n r.currentReqChainIdx true)).setResource n
        { r with currentReqBodyBytesRecv := 0, loadState := .finished, errored := false }) :=
      hw.leaves (.same rfl rfl rfl rfl rfl)
    have hparsed := parseIfStylesheet_leaves hparse
    rcases notifyAllFinished_doneReceived (hset.leaves hparsed) hnotify with hsame | ⟨rfl, _⟩
    · exact .inl (hsame.trans hparsed.doneReceived)
    · -- a finished resource stays so while its clients are told
      refine .inr ⟨rfl, ?_⟩
      have hfin : ({ r with
          currentReqBodyBytesRecv := 0, loadState := .finished, errored := false } :
            Resource).isFinished := rfl
      obtain ⟨r', hr', hkept⟩ := (kept_taskStep hfin).star _ _ (kept_refl setResource_self)
        ((tasks_of_scripted (parseIfStylesheet_scripted hparse)).trans
          (notifyAllFinished_tasks hnotify))
      exact ⟨r', hr', hkept.loadState⟩
  | next info _ => exact .inl rfl
  | failed hnotify =>
    have hset : Settled ((w.tellDriver (.requestFinished n r.currentReqChainIdx false)).setResource n
        { r with errored := true }) :=
      hw.leaves (.same rfl rfl rfl rfl rfl)
    rcases notifyAllFinished_doneReceived hset hnotify with hsame | ⟨_, hfalse⟩
    · exact .inl hsame
    · cases hfalse

/-- What has been finished stays so in an event. -/
theorem MainEnded.of_same (hw : MainEnded w) (htasks : Tasks w w')
    (hsame : w'.parser.doneReceived = w.parser.doneReceived) : MainEnded w' := by
  intro hreceived
  obtain ⟨r, hr, hfin⟩ := hw (hsame.symm.trans hreceived)
  obtain ⟨r', hr', hkept⟩ := (kept_taskStep hfin).star _ _ (kept_refl hr) htasks
  exact ⟨r', hr', hkept.loadState.trans hfin⟩

theorem MainEnded.message {m : ResourceMsg} (hw : MainEnded w) (hsettled : Settled w)
    (h : Renderer.pageMessage w m = .ok (.page w')) : MainEnded w' := by
  have htasks := pageMessage_tasks h
  -- only the end of the main resource can say that the document has been received
  cases m with
  | receivedResponse id firstByteTimeMs =>
    refine hw.of_same htasks ?_
    obtain ⟨w₁, hm, h⟩ := bind_eq_ok.mp h
    cases h
    rw [handleReceivedResponse] at hm
    split at hm
    · cases hm
      rfl
    · obtain ⟨_, _, hm⟩ := bind_eq_ok.mp hm
      obtain ⟨w₂, hmeta, hm⟩ := bind_eq_ok.mp hm
      refine (doEndOfTaskWork_leaves hm).doneReceived.trans ?_
      obtain ⟨r, _, hmeta⟩ := bind_eq_ok.mp hmeta
      split_ifs at hmeta
      · obtain ⟨_, _, hmeta⟩ := bind_eq_ok.mp hmeta
        cases hmeta
        rfl
      · cases hmeta
        rfl
  | dataReceived id length =>
    refine hw.of_same htasks ?_
    obtain ⟨w₁, hm, h⟩ := bind_eq_ok.mp h
    cases h
    rw [handleDataReceived] at hm
    split at hm
    · cases hm
      rfl
    · obtain ⟨_, _, hm⟩ := bind_eq_ok.mp hm
      obtain ⟨w₂, hdata, hm⟩ := bind_eq_ok.mp hm
      refine (doEndOfTaskWork_leaves hm).doneReceived.trans ?_
      exact (appendData_settled hsettled hdata).2
  | requestComplete id success order =>
    change w.handleRequestComplete id success order = .ok (.page w') at h
    rw [handleRequestComplete] at h
    split at h
    · cases h
      exact hw
    · obtain ⟨_, _, h⟩ := bind_eq_ok.mp h
      dsimp only at h
      split_ifs at h
      · cases h
      · obtain ⟨w₁, hfinish, h⟩ := bind_eq_ok.mp h
        obtain ⟨w₂, htask, h⟩ := bind_eq_ok.mp h
        obtain ⟨w₃, hforce, h⟩ := bind_eq_ok.mp h
        cases h
        have herased : Settled (w.erasePending id) := hsettled.leaves (.setEngine _)
        have hafter : Tasks w₁ w' := (tasks_of_scripted (doEndOfTaskWork_scripted htask)).trans
          (tasks_of_told (maybeLoadUnloadedResources_told hforce))
        have hsame : w'.parser.doneReceived = w₁.parser.doneReceived :=
          (maybeLoadUnloadedResources_leaves hforce).doneReceived.trans
            (doEndOfTaskWork_leaves htask).doneReceived
        -- the resource may be the main one, and then it has ended
        have hended : MainEnded w₁ := by
          rcases finish_doneReceived herased hfinish with hsame | ⟨_, hfin⟩
          · exact MainEnded.of_same (w := w.erasePending id) hw (finish_tasks hfinish) hsame
          · exact fun _ => hfin
        exact hended.of_same hafter hsame

theorem MainEnded.pageStep {e : PageEvent} (hw : MainEnded w) (hsettled : Settled w)
    (h : Renderer.pageStep w e = .ok (.page w')) : MainEnded w' := by
  have htasks := pageStep_tasks h
  cases e with
  | loadPage loadId model timeMs => cases h
  | reset => cases h
  | message m => exact hw.message hsettled h
  | resumeTimer =>
    obtain ⟨w₁, hw₁, h⟩ := bind_eq_ok.mp h
    cases h
    exact hw.of_same htasks (congrArg Prod.fst (resumeTimerFired_settled hsettled hw₁).2)
  | scriptsTimer =>
    obtain ⟨w₁, hw₁, h⟩ := bind_eq_ok.mp h
    cases h
    exact hw.of_same htasks (congrArg Prod.fst (scriptsTimerFired_settled hsettled hw₁).2)
  | checkCompletedTimer =>
    obtain ⟨w₁, hw₁, h⟩ := bind_eq_ok.mp h
    cases h
    exact hw.of_same htasks (checkCompletedTimerFired_leaves hw₁).doneReceived
  | domTimer timerID =>
    obtain ⟨w₁, hw₁, h⟩ := bind_eq_ok.mp h
    cases h
    exact hw.of_same htasks (domTimerFired_leaves hw₁).doneReceived

theorem mainEnded_loadPage {engine : Webengine} {loadId timeMs : ℕ} {model : PageModel}
    (h : Renderer.loadPage engine loadId model timeMs = .ok (.page w)) : MainEnded w := by
  obtain ⟨info, w₁, _, -, hload, heq⟩ := Renderer.loadPage_cases h
  cases heq
  intro hreceived
  have hnone : w₁.parser.doneReceived = false := (loadResource_leaves hload).doneReceived
  exact absurd (hnone.symm.trans hreceived) nofun

/-- A document is complete when the engine is idle again. -/
def Ready (w : World) : Prop := w.document.readyState = .complete ↔ w.engine.state = .idle

theorem Ready.pageStep {e : PageEvent} (hw : Ready w)
    (h : Renderer.pageStep w e = .ok (.page w')) : Ready w' := by
  rcases Unanswered.pageStep h with ⟨-, hstate, -, hready⟩ |
    ⟨-, -, -, -, _, _, -, -, hidle, -, hready⟩
  · rw [Ready, hstate, hready]
    exact hw
  · exact iff_of_true hready hidle

end

/-! ### Runs -/

namespace Reported

variable {s s' : Reported} {e : PageEvent} {es : List PageEvent}

theorem step_cases (h : s.step e = .ok s') :
    s.renderer.step e = .ok s'.renderer ∧
      s'.answers = (if e.isLoad = true then [] else s.answers) ++
        answersIn (s'.renderer.engine.toDriver.drop s.renderer.engine.toDriver.length) := by
  obtain ⟨r, hr, h⟩ := bind_eq_ok.mp h
  cases h
  exact ⟨hr, rfl⟩

/-- A run is one of the renderer. -/
theorem renderer_run (h : Run Steps s es s') : Run Renderer.Steps s.renderer es s'.renderer := by
  induction h with
  | nil => exact .nil _
  | cons hstep _ ih => exact .cons (step_cases hstep).1 ih

/-- A page that is loading is unanswered; one that is not is complete, and its document has ended. -/
def Sound (s : Reported) : Prop :=
  match s.renderer with
  | .blank _ => s.answers.length ≤ 1
  | .page w =>
    (w.engine.state = .pageLoading → s.answers = []) ∧
    (w.engine.state = .idle → w.document.finishedParsing = true ∧
      ∃ ttfbMs, s.answers = [.pageLoaded w.engine.currentLoadId ttfbMs])

theorem answersIn_drop {sent l : List DriverMsg} {sent' : List DriverMsg} (h : sent' = sent ++ l) :
    answersIn (sent'.drop sent.length) = answersIn l := by
  rw [h, List.drop_left]

/-- When the main resource fails, the page is loading and its load fails. -/
theorem failed_loading {w : World} {engine : Webengine} {m : ResourceMsg} (hs : s.Sound)
    (hpage : s.renderer = .page w) (hsettled : Settled w) (hended : MainEnded w)
    (haccounted : Accounted w) (h : Renderer.pageMessage w m = .ok (.blank engine)) :
    w.engine.state = .pageLoading ∧
      engine.toDriver = w.engine.toDriver ++ [.pageLoadFailed w.engine.currentLoadId] ∧
      ∃ id order, m = .requestComplete id false order := by
  cases m with
  | receivedResponse id firstByteTimeMs =>
    obtain ⟨w₁, _, h⟩ := bind_eq_ok.mp h
    cases h
  | dataReceived id length =>
    obtain ⟨w₁, _, h⟩ := bind_eq_ok.mp h
    cases h
  | requestComplete id success order =>
    change w.handleRequestComplete id success order = .ok (.blank engine) at h
    rw [handleRequestComplete] at h
    split at h
    · cases h
    · next ref hlookup =>
      obtain ⟨_, _, h⟩ := bind_eq_ok.mp h
      dsimp only at h
      split_ifs at h with hmain
      · cases h
        refine ⟨?_, rfl, id, order, by rw [hmain.1]⟩
        cases hstate : w.engine.state with
        | pageLoading => rfl
        | idle =>
          -- the document has come in full, so that the main resource is finished
          rw [Sound, hpage] at hs
          have hfinished := (hs.2 hstate).1
          rw [hsettled.finished] at hfinished
          obtain ⟨r, hr, hfin⟩ := hended (hsettled.done hfinished).2.1
          obtain ⟨l₁, l₂, heq, -⟩ := List.lookup_eq_some_iff.mp hlookup
          have hmem : (id, ref) ∈ w.engine.pendingRequests := by
            rw [heq]
            exact List.mem_append_right _ List.mem_cons_self
          obtain ⟨r', hr', hloading, _⟩ := haccounted.tally.ledger.loading _ hmem
          rw [hmain.2, hr] at hr'
          cases hr'
          exact absurd (hfin.symm.trans hloading) (by decide)
      · obtain ⟨_, _, h⟩ := bind_eq_ok.mp h
        obtain ⟨_, _, h⟩ := bind_eq_ok.mp h
        obtain ⟨_, _, h⟩ := bind_eq_ok.mp h
        cases h

/-- How the answers change in an event. -/
inductive Gives (s s' : Reported) : PageEvent → Prop
  /-- Another page is loaded. -/
  | load {e : PageEvent} : e.isLoad = true → s'.answers = [] → Gives s s' e
  | none {e : PageEvent} : s'.answers = s.answers → Gives s s' e
  /-- The page is complete: its document has been parsed, and nothing is in progress. -/
  | loaded {w : World} (ttfbMs : ℤ) : s.renderer = .page w → w.engine.state = .pageLoading →
      w.document.finishedParsing = true → w.fetcher.requestCount = 0 → s.answers = [] →
      s'.answers = [.pageLoaded w.engine.currentLoadId ttfbMs] → Gives s s' .checkCompletedTimer
  /-- The main resource has failed, and the page is gone. -/
  | failed {w : World} {engine : Webengine} (id : ℕ) (order : List ResourceClient) :
      s.renderer = .page w → w.engine.state = .pageLoading → s'.renderer = .blank engine →
      s.answers = [] → s'.answers = [.pageLoadFailed w.engine.currentLoadId] →
      Gives s s' (.message (.requestComplete id false order))

/-- Once it has been reported, the end of a document stays so. -/
theorem finishedParsing_stays :
    Closed (fun w : World => w.document.finishedParsing = true) TaskStep := by
  intro w w' hw h
  cases h with
  | client h =>
    cases h with
    | script h => exact (scriptStep_finishedParsing w w' h).trans hw
    | ended h =>
      obtain ⟨w₁, hscripted, rfl⟩ := finishedParsing_cases h
      exact checkCompleted_leaves.finished.trans (scripted_finishedParsing hscripted)
    | checked => exact checkCompleted_leaves.finished.trans hw
    | _ => exact hw
  | _ => exact hw

/-- A page stays. -/
theorem gives_page {w w' : World} (hs : s.Sound) (hpage : s.renderer = .page w)
    (hpage' : s'.renderer = .page w') (h : s.step e = .ok s') : s'.Sound ∧ Gives s s' e := by
  obtain ⟨hstep, hanswers⟩ := step_cases h
  rw [hpage, hpage'] at hstep hanswers
  have hstep : Renderer.pageStep w e = .ok (.page w') := hstep
  have hload : e.isLoad = false := by
    cases e with
    | loadPage loadId model timeMs => cases hstep
    | _ => rfl
  rw [if_neg (by rw [hload]; nofun)] at hanswers
  rw [Sound, hpage] at hs
  rw [Sound, hpage']
  rcases Unanswered.pageStep hstep with ⟨⟨l, hl, hnone⟩, hstate, hid, -⟩ |
    ⟨rfl, hstate, hfinished, hzero, l, ttfbMs, hl, hone, hidle, hid, -⟩
  · have hsame : s'.answers = s.answers := by
      rw [hanswers]
      change s.answers ++ answersIn (w'.engine.toDriver.drop w.engine.toDriver.length) = _
      rw [answersIn_drop hl, hnone, List.append_nil]
    refine ⟨⟨fun hstate' => ?_, fun hidle => ?_⟩, .none hsame⟩
    · rw [hsame]
      exact hs.1 (hstate.symm.trans hstate')
    · obtain ⟨hfinished, ttfbMs, heq⟩ := hs.2 (hstate.symm.trans hidle)
      refine ⟨finishedParsing_stays.star _ _ hfinished (pageStep_tasks hstep), ttfbMs, ?_⟩
      rw [hsame, heq, hid]
  · have hone' : s'.answers = [.pageLoaded w.engine.currentLoadId ttfbMs] := by
      rw [hanswers, hs.1 hstate]
      change [] ++ answersIn (w'.engine.toDriver.drop w.engine.toDriver.length) = _
      rw [answersIn_drop hl, hone, List.nil_append]
    refine ⟨⟨fun hloading => ?_, fun _ => ?_⟩,
      .loaded ttfbMs hpage hstate hfinished hzero (hs.1 hstate) hone'⟩
    · exact absurd (hidle.symm.trans hloading) (by decide)
    · refine ⟨finishedParsing_stays.star _ _ hfinished (pageStep_tasks hstep), ttfbMs, ?_⟩
      rw [hone', hid]

/-- A page is given up. -/
theorem gives_blank {w : World} {engine : Webengine} (hs : s.Sound) (hpage : s.renderer = .page w)
    (hblank : s'.renderer = .blank engine) (hsettled : Settled w) (hended : MainEnded w)
    (haccounted : Accounted w) (h : s.step e = .ok s') : s'.Sound ∧ Gives s s' e := by
  obtain ⟨hstep, hanswers⟩ := step_cases h
  rw [hpage, hblank] at hstep hanswers
  rw [Sound, hblank]
  -- a reset answers nothing, and only the end of the main resource gives a page up
  cases e with
  | loadPage loadId model timeMs => cases hstep
  | reset =>
    cases hstep
    have hsame : s'.answers = s.answers := by
      rw [hanswers]
      change s.answers ++ answersIn (w.engine.toDriver.drop w.engine.toDriver.length) = _
      rw [List.drop_length]
      exact List.append_nil _
    refine ⟨?_, .none hsame⟩
    dsimp only
    rw [hsame]
    rw [Sound, hpage] at hs
    cases hstate : w.engine.state with
    | pageLoading =>
      rw [hs.1 hstate]
      exact Nat.zero_le 1
    | idle =>
      obtain ⟨-, ttfbMs, heq⟩ := hs.2 hstate
      rw [heq]
      exact Nat.le_refl 1
  | message m =>
    obtain ⟨hstate, hsent, id, order, rfl⟩ :=
      failed_loading hs hpage hsettled hended haccounted hstep
    have hnone : s.answers = [] := by
      rw [Sound, hpage] at hs
      exact hs.1 hstate
    have hone : s'.answers = [.pageLoadFailed w.engine.currentLoadId] := by
      rw [hanswers, hnone]
      change [] ++ answersIn (engine.toDriver.drop w.engine.toDriver.length) = _
      rw [answersIn_drop hsent]
      rfl
    refine ⟨?_, .failed id order hpage hstate hblank hnone hone⟩
    dsimp only
    rw [hone]
    exact Nat.le_refl 1
  -- none of the timers takes a page away
  | resumeTimer =>
    obtain ⟨_, _, hstep⟩ := bind_eq_ok.mp hstep
    cases hstep
  | scriptsTimer =>
    obtain ⟨_, _, hstep⟩ := bind_eq_ok.mp hstep
    cases hstep
  | checkCompletedTimer =>
    obtain ⟨_, _, hstep⟩ := bind_eq_ok.mp hstep
    cases hstep
  | domTimer timerID =>
    obtain ⟨_, _, hstep⟩ := bind_eq_ok.mp hstep
    cases hstep

/-- There is no page, and one may be loaded. -/
theorem gives_loaded {engine : Webengine} (hs : s.Sound) (hblank : s.renderer = .blank engine)
    (h : s.step e = .ok s') : s'.Sound ∧ Gives s s' e := by
  obtain ⟨hstep, hanswers⟩ := step_cases h
  rw [hblank] at hstep hanswers
  -- without a page nothing is said to the driver
  have hsame : ∀ {engine' : Webengine}, s'.renderer = .blank engine' →
      engine'.toDriver = engine.toDriver → e.isLoad = false → s'.Sound ∧ Gives s s' e := by
    intro engine' hblank' hsent hload
    have hsame : s'.answers = s.answers := by
      rw [hanswers, hblank', if_neg (by rw [hload]; nofun)]
      change s.answers ++ answersIn (engine'.toDriver.drop engine.toDriver.length) = _
      rw [hsent, List.drop_length]
      exact List.append_nil _
    refine ⟨?_, .none hsame⟩
    rw [Sound, hblank] at hs
    rw [Sound, hblank']
    dsimp only
    rw [hsame]
    exact hs
  cases e with
  -- a page that starts to load is not answered
  | loadPage loadId model timeMs =>
    obtain ⟨info, w, _, _, hload, heq⟩ := Renderer.loadPage_cases hstep
    have hquiet : Unanswered (engine.newPage model) w :=
      (Unanswered.setResource _).trans (.scripted (loadResource_scripted hload))
    obtain ⟨⟨l, hl, hnone⟩, -, -⟩ := hquiet
    have hl : w.engine.toDriver = engine.toDriver ++ l := hl
    have hempty : s'.answers = [] := by
      rw [hanswers, heq]
      change [] ++ answersIn (w.engine.toDriver.drop engine.toDriver.length) = []
      rw [answersIn_drop hl, hnone]
      rfl
    refine ⟨?_, .load rfl hempty⟩
    rw [Sound, heq]
    exact ⟨fun _ => hempty, nofun⟩
  | reset =>
    have hstep : Except.ok (.blank engine.reset) = .ok s'.renderer := hstep
    exact hsame (Except.ok.inj hstep).symm rfl rfl
  | message m =>
    change Renderer.blankStep engine (.message m) = .ok s'.renderer at hstep
    rw [Renderer.blankStep] at hstep
    split at hstep
    · exact hsame (Except.ok.inj hstep).symm rfl rfl
    · cases hstep
  | resumeTimer => cases hstep
  | scriptsTimer => cases hstep
  | checkCompletedTimer => cases hstep
  | domTimer timerID => cases hstep

theorem mainEnded_of_run {w : World} (h : Run Renderer.Steps .start es (.page w)) :
    MainEnded w := by
  have hboth : Settled w ∧ MainEnded w :=
    Renderer.page_invariant (P := fun w => Settled w ∧ MainEnded w)
      (fun _ h => ⟨loadPage_settled h, mainEnded_loadPage h⟩)
      (fun hw h => ⟨pageStep_settled hw.1 h, hw.2.pageStep hw.1 h⟩) h
  exact hboth.2

theorem sound_step (hs : s.Sound) (hrun : Run Renderer.Steps .start es s.renderer)
    (h : s.step e = .ok s') : s'.Sound ∧ Gives s s' e := by
  cases hr : s.renderer with
  | blank engine => exact gives_loaded hs hr h
  | page w =>
    cases hr' : s'.renderer with
    | page w' => exact gives_page hs hr hr' h
    | blank engine =>
      rw [hr] at hrun
      exact gives_blank hs hr hr' (Renderer.settled_of_run hrun) (mainEnded_of_run hrun)
        (Renderer.page_invariant accounted_loadPage Accounted.pageStep hrun) h

theorem sound_of_run (h : Run Steps {} es s) : s.Sound := by
  have hboth : s.Sound ∧ ∃ es, Run Renderer.Steps .start es s.renderer := by
    refine h.invariant (P := fun s => s.Sound ∧ ∃ es, Run Renderer.Steps .start es s.renderer) ?_
      ⟨Nat.zero_le 1, [], .nil _⟩
    rintro s e s' ⟨hs, es, hrun⟩ hstep
    exact ⟨(sound_step hs hrun hstep).1, es ++ [e], hrun.snoc (step_cases hstep).1⟩
  exact hboth.1

/-- **One answer for each load.**  In every run, the page that was loaded last has been answered once at
most; it has not been answered as long as it is loading, and a page that is not loading any more was
complete.  An event gives an answer in two ways only: the timer finds a page that is loading, with its
document parsed and nothing in progress; or the main resource of a page that is loading fails, which is
then gone. -/
theorem one_answer (h : Run Steps {} es s) :
    s.answers.length ≤ 1 ∧
    (∀ w, s.renderer = .page w → (w.engine.state = .pageLoading → s.answers = []) ∧
      (w.engine.state = .idle → ∃ ttfbMs, s.answers = [.pageLoaded w.engine.currentLoadId ttfbMs])) ∧
    ∀ e s', s.step e = .ok s' → Gives s s' e := by
  have hs := sound_of_run h
  refine ⟨?_, fun w hpage => ?_, fun e s' hstep => (sound_step hs (renderer_run h) hstep).2⟩
  · cases hr : s.renderer with
    | blank engine =>
      rw [Sound, hr] at hs
      exact hs
    | page w =>
      rw [Sound, hr] at hs
      cases hstate : w.engine.state with
      | pageLoading =>
        rw [hs.1 hstate]
        exact Nat.zero_le 1
      | idle =>
        obtain ⟨-, ttfbMs, heq⟩ := hs.2 hstate
        rw [heq]
        exact Nat.le_refl 1
  · rw [Sound, hpage] at hs
    exact ⟨hs.1, fun hidle => (hs.2 hidle).2⟩

/-- The page with an image is complete. -/
theorem one_answer_image : ∃ s, Run Steps {} (Renderer.imageLoaded ++ [.checkCompletedTimer]) s ∧
    s.answers = [.pageLoaded 1 0] ∧ s.answers.length ≤ 1 ∧
    ∀ s', s.step .reset = .ok s' → Gives s s' .reset := by
  have hreturns : returns (exec step {} (Renderer.imageLoaded ++ [.checkCompletedTimer])) (fun s =>
      decide (s.answers = [.pageLoaded 1 0])) = true := by
    decide
  obtain ⟨s, hs, htest⟩ := Checked.exists_of_returns hreturns
  obtain ⟨hlen, -, hgives⟩ := one_answer (run_of_exec hs)
  exact ⟨s, run_of_exec hs, of_decide_eq_true htest, hlen, fun s' => hgives .reset s'⟩

end Reported

end ShadowBrowser.Blink
