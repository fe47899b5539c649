/-
The whole document is read, but for elements that share its last byte.

* `Informed` — what the parser has received is what the document has been told of;
* `Watched.Attended` — the document is told all that is due, as the fetcher is;
* `received_eq_documentSize` — when the end has come, the bytes are those of the page model;
* **`reads_whole`** — the elements are added in their order, and when the end is reported all have been
  added if and only if no two of them are on the last byte.

The parser is past the last byte as soon as one element on it has been added, and its loop looks at the
bytes alone.
-/
import ShadowBrowser.PageAnswers
import ShadowBrowser.ResourceTrace

namespace ShadowBrowser.Blink

open Checked Runs Relation World

/-! ### What the document is told -/

/-- What the document has been told of its resource. -/
def World.documentTold (w : World) : List (Chains.Event RequestInfo) :=
  (w.toldTo 1 .document).flatMap Notice.event

/-- What the parser has received is what the document has been told of. -/
structure Informed (w : World) : Prop where
  bytes : w.parser.numBytesReceived = (Chains.tellings w.documentTold).sum
  ended : w.parser.doneReceived = true → .finished true ∈ w.documentTold

namespace Informed

variable {w w' : World}

/-- The document is told nothing, and nothing is received. -/
theorem same (h : Informed w) (htold : w'.toldTo 1 .document = w.toldTo 1 .document)
    (hinput : w'.parser.input = w.parser.input) : Informed w' := by
  obtain ⟨hdone, hreceived⟩ := Prod.mk.inj hinput
  constructor
  · rw [hreceived, documentTold, htold]
    exact h.bytes
  · rw [hdone, documentTold, htold]
    exact h.ended

theorem told (h : Informed w) (htold : Told w w') (hinput : w'.parser.input = w.parser.input) :
    Informed w' :=
  h.same (toldTo_told htold) hinput

theorem scripted (h : Informed w) (hscripted : Scripted w w') (hl : LeavesPlace w w') :
    Informed w' :=
  h.same (toldTo_scripted hscripted) hl.input

end Informed

namespace World

variable {w w' : World} {n : ℕ} {c : ResourceClient}

/-- The document is told something more. -/
theorem documentTold_note {m : Notice} (hm : m.tells 1 .document = true) :
    (w.note m).documentTold = w.documentTold ++ m.event := by
  rw [documentTold, toldTo_note hm, List.flatMap_append, List.flatMap_singleton]
  rfl

theorem documentTold_of_told (h : Told w w') : w'.documentTold = w.documentTold := by
  rw [documentTold, toldTo_told h]
  rfl

/-- **A client is told of data**: the document hands it to the parser. -/
theorem tellData_informed {len : ℕ} (hs : Settled w) (hw : Informed w)
    (h : w.tellData n len c = .ok w') : Informed w' := by
  have hnoted : ∀ d, d ≠ .document → Informed (w.note (.dataReceived n len d)) := by
    intro d hd
    refine hw.same (toldTo_note_of_not ?_) rfl
    exact decide_eq_false fun heq => hd heq.2
  cases c with
  | document =>
    obtain ⟨_, hmain, h⟩ := bind_eq_ok.mp h
    obtain rfl := check_eq_ok.mp hmain
    have hs₁ : Settled (w.note (.dataReceived 1 len .document)) := hs.leaves (.note _)
    obtain ⟨-, -, hinput⟩ := documentDataReceived_settled hs₁ h
    obtain ⟨hdone, hreceived⟩ := Prod.mk.inj hinput
    have htold := (documentTold_of_told (documentDataReceived_told h)).trans
      (documentTold_note (w := w) (m := .dataReceived 1 len .document) rfl)
    constructor
    · rw [hreceived, htold]
      change w.parser.numBytesReceived + len = (Chains.tellings (w.documentTold ++ [.told len])).sum
      rw [Chains.tellings_snoc, List.sum_append, hw.bytes]
      rfl
    · exact fun hended => absurd (hdone.symm.trans hended) Bool.false_ne_true
  | fetcher =>
    cases h
    exact hnoted _ nofun
  | parser =>
    cases h
    exact hnoted _ nofun
  | element e =>
    cases h
    exact hnoted _ nofun
  | xhr x =>
    cases h
    exact hnoted _ nofun

/-- **A client is told of the end**: the document tells the parser that all has come. -/
theorem tellFinished_informed {success : Bool} (hs : Settled w) (hw : Informed w)
    (h : w.tellFinished n success c = .ok w') : Informed w' := by
  have hnoted : ∀ d, d ≠ .document → Informed (w.note (.notifyFinished n success d)) := by
    intro d hd
    refine hw.same (toldTo_note_of_not ?_) rfl
    exact decide_eq_false fun heq => hd heq.2
  have hs₁ : ∀ d, Settled (w.note (.notifyFinished n success d)) := fun _ => hs.leaves (.note _)
  cases c with
  | document =>
    obtain ⟨_, hmain, h⟩ := bind_eq_ok.mp h
    obtain ⟨_, hsuccess, h⟩ := bind_eq_ok.mp h
    obtain rfl := check_eq_ok.mp hmain
    obtain rfl := check_eq_ok.mp hsuccess
    obtain ⟨-, hinput⟩ := finishReceive_settled (hs₁ .document) h
    obtain ⟨-, hreceived⟩ := Prod.mk.inj hinput
    have htold := (documentTold_of_told (finishReceive_told h)).trans
      (documentTold_note (w := w) (m := .notifyFinished 1 true .document) rfl)
    constructor
    · rw [hreceived, htold]
      change w.parser.numBytesReceived = (Chains.tellings (w.documentTold ++ [.finished true])).sum
      rw [Chains.tellings_other _ rfl]
      exact hw.bytes
    · intro _
      rw [htold]
      exact List.mem_append_right _ List.mem_cons_self
  | fetcher =>
    cases h
    exact (hnoted .fetcher nofun).same toldTo_checkCompleted checkCompleted_leaves.input
  | parser =>
    have htold := notifyFinished_told h
    obtain ⟨_, _, h⟩ := bind_eq_ok.mp h
    obtain ⟨_, _, h⟩ := bind_eq_ok.mp h
    exact (hnoted .parser nofun).told htold (executeScriptsAndResume_settled (hs₁ .parser) h).2
  | element e =>
    exact (hnoted (.element e) nofun).told (notifyFinished_told h) (elementNotifyFinished_leaves h).input
  | xhr x =>
    exact (hnoted (.xhr x) nofun).told (notifyFinished_told h) (xhrNotifyFinished_leaves h).input

/-! ### The events -/

variable {success : Bool} {order : List ResourceClient}

theorem notifyAllFinished_informed (hs : Settled w) (hw : Informed w)
    (h : w.notifyAllFinished n success order = .ok w') : Informed w' := by
  obtain ⟨r, _, h⟩ := bind_eq_ok.mp h
  obtain ⟨w₁, hcount, h⟩ := bind_eq_ok.mp h
  obtain ⟨_, _, h⟩ := bind_eq_ok.mp h
  have hw₁ : Settled w₁ ∧ Informed w₁ := by
    rw [decrementRequestCount] at hcount
    split_ifs at hcount
    · obtain ⟨_, _, hcount⟩ := bind_eq_ok.mp hcount
      cases hcount
      exact ⟨hs.leaves (.same rfl rfl rfl rfl rfl), hw.same rfl rfl⟩
    · cases hcount
      exact ⟨hs, hw⟩
  refine (callClients_invariant (P := fun v => Settled v ∧ Informed v) ?_ hw₁ h).2
  exact fun hv hcall => ⟨tellFinished_settled hv.1 hcall, tellFinished_informed hv.1 hv.2 hcall⟩

theorem finish_informed (hs : Settled w) (hw : Informed w) (h : w.finish n success order = .ok w') :
    Informed w' := by
  obtain ⟨r, _, _, h⟩ := finish_cases h
  cases h with
  | @finished w₁ _ _ hparse h =>
    let r' : Resource := { r with currentReqBodyBytesRecv := 0, loadState := .finished, errored := false }
    let v := (w.tellDriver (.requestFinished n r.currentReqChainIdx true)).setResource n r'
    have hv : Settled v ∧ Informed v := ⟨hs.leaves (.same rfl rfl rfl rfl rfl), hw.same rfl rfl⟩
    have hparsed := parseIfStylesheet_leaves hparse
    exact notifyAllFinished_informed (hv.1.leaves hparsed)
      (hv.2.scripted (parseIfStylesheet_scripted hparse) hparsed.toLeavesPlace) h
  | next info _ => exact hw.same rfl rfl
  | failed h =>
    let v := (w.tellDriver (.requestFinished n r.currentReqChainIdx false)).setResource n
      { r with errored := true }
    have hv : Settled v ∧ Informed v := ⟨hs.leaves (.same rfl rfl rfl rfl rfl), hw.same rfl rfl⟩
    exact notifyAllFinished_informed hv.1 hv.2 h

theorem appendData_informed {len : ℕ} (hs : Settled w) (hw : Informed w)
    (h : w.appendData n len = .ok w') : Informed w' := by
  obtain ⟨r, hr, ⟨_, h⟩ | ⟨_, rfl⟩⟩ := appendData_cases h
  · obtain ⟨_, _, h⟩ := bind_eq_ok.mp h
    refine (callClients_invariant (P := fun v => Settled v ∧ Informed v) ?_
      ⟨hs.leaves (setResource_leaves n _), hw.same rfl rfl⟩ h).2
    exact fun hv hcall => ⟨(dataReceived_settled (hv.1.leaves (.note _)) hcall).1,
      tellData_informed hv.1 hv.2 hcall⟩
  · exact hw.same rfl rfl

theorem doEndOfTaskWork_informed (hw : Informed w) (h : w.doEndOfTaskWork = .ok w') : Informed w' :=
  hw.scripted (doEndOfTaskWork_scripted h) (doEndOfTaskWork_leaves h).toLeavesPlace

theorem pageMessage_informed {m : ResourceMsg} (hs : Settled w) (hw : Informed w)
    (h : Renderer.pageMessage w m = .ok (.page w')) : Informed w' := by
  cases m with
  | receivedResponse id firstByteTimeMs =>
    obtain ⟨w₁, hm, h⟩ := bind_eq_ok.mp h
    cases h
    rw [handleReceivedResponse] at hm
    split at hm
    · cases hm
      exact hw
    · obtain ⟨_, _, hm⟩ := bind_eq_ok.mp hm
      obtain ⟨w₂, hmeta, hm⟩ := bind_eq_ok.mp hm
      refine doEndOfTaskWork_informed ?_ hm
      obtain ⟨r, _, hmeta⟩ := bind_eq_ok.mp hmeta
      split_ifs at hmeta
      · obtain ⟨_, _, hmeta⟩ := bind_eq_ok.mp hmeta
        cases hmeta
        exact hw.same rfl rfl
      · cases hmeta
        exact hw
  | dataReceived id length =>
    obtain ⟨w₁, hm, h⟩ := bind_eq_ok.mp h
    cases h
    rw [handleDataReceived] at hm
    split at hm
    · cases hm
      exact hw
    · obtain ⟨_, _, hm⟩ := bind_eq_ok.mp hm
      obtain ⟨w₂, hdata, hm⟩ := bind_eq_ok.mp hm
      exact doEndOfTaskWork_informed (appendData_informed hs hw hdata) hm
  | requestComplete id success order =>
    change w.handleRequestComplete id success order = .ok (.page w') at h
    rw [handleRequestComplete] at h
    split at h
    · cases h
      exact hw
    · obtain ⟨_, _, h⟩ := bind_eq_ok.mp h
      dsimp only at h
      split_ifs at h
      · cases h
      · obtain ⟨w₁, hfinish, h⟩ := bind_eq_ok.mp h
        obtain ⟨w₂, htask, h⟩ := bind_eq_ok.mp h
        obtain ⟨w₃, hforce, h⟩ := bind_eq_ok.mp h
        cases h
        have herased : Settled (w.erasePending id) := hs.leaves (.setEngine _)
        have hw₁ : Informed w₁ := finish_informed herased (hw.same rfl rfl) hfinish
        exact (doEndOfTaskWork_informed hw₁ htask).told (maybeLoadUnloadedResources_told hforce)
          (maybeLoadUnloadedResources_leaves hforce).input

/-- **In every event of a page** what the parser receives is what the document is told of. -/
theorem pageStep_informed {e : PageEvent} (hs : Settled w) (hw : Informed w)
    (h : Renderer.pageStep w e = .ok (.page w')) : Informed w' := by
  cases e with
  | loadPage loadId model timeMs => cases h
  | reset => cases h
  | message m => exact pageMessage_informed hs hw h
  | resumeTimer =>
    obtain ⟨w₁, hw₁, h⟩ := bind_eq_ok.mp h
    cases h
    exact hw.told (resumeTimerFired_told hw₁) (resumeTimerFired_settled hs hw₁).2
  | scriptsTimer =>
    obtain ⟨w₁, hw₁, h⟩ := bind_eq_ok.mp h
    cases h
    exact hw.told (scriptsTimerFired_told hw₁) (scriptsTimerFired_settled hs hw₁).2
  | checkCompletedTimer =>
    obtain ⟨w₁, hw₁, h⟩ := bind_eq_ok.mp h
    cases h
    exact hw.same (toldTo_checkCompletedTimerFired hw₁) (checkCompletedTimerFired_leaves hw₁).input
  | domTimer timerID =>
    obtain ⟨w₁, hw₁, h⟩ := bind_eq_ok.mp h
    cases h
    exact hw.scripted (domTimerFired_scripted hw₁) (domTimerFired_leaves hw₁).toLeavesPlace

theorem loadPage_informed {engine : Webengine} {loadId timeMs : ℕ} {model : PageModel}
    (h : Renderer.loadPage engine loadId model timeMs = .ok (.page w)) : Informed w := by
  obtain ⟨info, w₁, _, _, hload, heq⟩ := Renderer.loadPage_cases h
  cases heq
  have hnew : Informed (engine.newPage model) := ⟨rfl, nofun⟩
  have hmain : Informed ((engine.newPage model).setResource 1 { info, clients := [.fetcher, .document] }) :=
    hnew.same rfl rfl
  have hloaded : Informed w₁ := hmain.scripted (loadResource_scripted hload)
    (loadResource_leaves hload).toLeavesPlace
  exact hloaded.same rfl rfl

end World

/-! ### What the document sees -/

/-- The call that is seen. -/
def Seen.notice : Seen → Option Notice
  | .told m => some m
  | _ => none

section

variable {n : ℕ} {c : ResourceClient}

/-- A client is told of data in the calls that it gets. -/
theorem tellings_seenBy (l : List Seen) : Chains.tellings (seenBy n c l) =
    Chains.tellings (((l.filterMap Seen.notice).filter (Notice.tells n c)).flatMap Notice.event) := by
  have happend : ∀ k k' : List (Chains.Event RequestInfo),
      Chains.tellings (k ++ k') = Chains.tellings k ++ Chains.tellings k' :=
    fun _ _ => List.filterMap_append
  induction l with
  | nil => rfl
  | cons x l ih =>
    rw [seenBy, List.flatMap_cons, ← seenBy, happend, ih]
    cases x with
    | said m => cases m <;> rfl
    | sent m =>
      have hnone : Chains.tellings (Seen.view n c (.sent m)) = [] := by
        cases m with
        | requestResource id m info =>
          rw [Seen.view]
          by_cases hm : m = n
          · subst hm
            rw [issuedFor_self]
            rfl
          · rw [issuedFor_other hm]
            rfl
        | resetSession => rfl
      rw [hnone]
      rfl
    | told m =>
      have hcons : (Seen.told m :: l).filterMap Seen.notice = m :: l.filterMap Seen.notice := rfl
      rw [hcons, List.filter_cons, Seen.view]
      split
      · rw [List.flatMap_cons, happend]
      · rfl

/-- It sees the calls that it gets. -/
theorem mem_seenBy {l : List Seen} {a : Chains.Event RequestInfo}
    (h : a ∈ ((l.filterMap Seen.notice).filter (Notice.tells n c)).flatMap Notice.event) :
    a ∈ seenBy n c l := by
  obtain ⟨m, hm, ha⟩ := List.mem_flatMap.mp h
  obtain ⟨hm, htells⟩ := List.mem_filter.mp hm
  obtain ⟨x, hx, heq⟩ := List.mem_filterMap.mp hm
  cases x with
  | told m' =>
    cases heq
    refine List.mem_flatMap.mpr ⟨_, hx, ?_⟩
    rw [Seen.view, if_pos htells]
    exact ha
  | said m' => cases heq
  | sent m' => cases heq

/-- The calls that are seen in an event are those that have been noted. -/
theorem notices_shows {r : Renderer} {e : PageEvent} {w : World} :
    (r.shows e w).filterMap Seen.notice = w.notices.drop r.notices.length := by
  have hsaid : e.said.filterMap Seen.notice = [] := by
    cases e <;> rfl
  have htold : ∀ ms : List Notice, (ms.map Seen.told).filterMap Seen.notice = ms := by
    intro ms
    rw [List.filterMap_map]
    exact List.filterMap_some
  have hsent : ∀ ms : List IoServiceMsg, (ms.map Seen.sent).filterMap Seen.notice = [] := by
    intro ms
    rw [List.filterMap_map]
    exact List.filterMap_eq_nil_iff.mpr fun _ _ => rfl
  rw [Renderer.shows, List.filterMap_append, List.filterMap_append, hsaid, htold, hsent,
    List.append_nil, List.nil_append]

end

namespace Watched

variable {s s' : Watched} {w : World} {e : PageEvent} {es : List PageEvent}

/-- The document is a client of the main resource from the beginning, and sees what the fetcher sees. -/
structure Attended (s : Watched) (w : World) : Prop where
  notices : s.log.filterMap Seen.notice = w.notices
  client : w.HasClient 1 .document
  seen : seenBy 1 .document s.log = seenBy 1 .fetcher s.log

theorem attended_step (hs : Reached s) (hw : ∀ w, s.renderer = .page w → Attended s w)
    (h : s.step e = .ok s') : ∀ w, s'.renderer = .page w → Attended s' w := by
  rcases step_cases h with ⟨engine, _, rfl⟩ | ⟨w', hstep, rfl⟩
  · exact fun _ heq => absurd heq nofun
  · intro v hv
    cases hv
    obtain ⟨renderer, log⟩ := s
    cases renderer with
    | page w =>
      obtain ⟨hnotices, hclient, hseen⟩ := hw w rfl
      -- it goes on being a client, as only elements leave
      have hstays : ∀ {x : World}, Tasks w x → x.HasClient 1 .document := by
        intro x hx
        obtain ⟨_, -, hstay⟩ := Remains.tasks (n := 1) (c := .document) hx
        rcases hstay hclient with hthere | ⟨⟨_, heq⟩, -⟩
        · exact hthere
        · cases heq
      refine ⟨?_, hstays (pageStep_tasks hstep), ?_⟩
      · obtain ⟨l, hl, -⟩ := Remains.tasks (n := 1) (c := .document) (pageStep_tasks hstep)
        change (log ++ _).filterMap Seen.notice = w'.notices
        have hlog : log.filterMap Seen.notice = w.notices := hnotices
        rw [List.filterMap_append, notices_shows, hlog, hl]
        exact congrArg (w.notices ++ ·) List.drop_left
      · change seenBy 1 .document (log ++ _) = seenBy 1 .fetcher (log ++ _)
        have hlog : seenBy 1 .document log = seenBy 1 .fetcher log := hseen
        rw [seenBy_append, seenBy_append, hlog, seenBy_fetcher (hs.sets w rfl) hstep]
        rcases seenBy_pageStep (n := 1) (c := .document) (hs.sets w rfl) hstep with
          hall | ⟨-, x, hx, -, hgone⟩
        · exact congrArg (seenBy 1 .fetcher log ++ ·) hall
        · exact absurd (hstays hx) hgone
    | blank engine =>
      have hnil : log = [] := hs.sound
      subst hnil
      rcases Renderer.step_page hstep with ⟨_, loadId, model, timeMs, heq, rfl, hload⟩ | ⟨_, heq, -⟩
      · cases heq
        refine ⟨?_, ?_, ?_⟩
        · exact notices_shows
        · obtain ⟨info, w₁, _, _, hmain, heq⟩ := Renderer.loadPage_cases hload
          cases heq
          obtain ⟨_, -, hstay⟩ := Remains.star (n := 1) (c := .document) Remains.scriptStep
            (loadResource_scripted hmain)
          have hclient : ((engine.newPage model).setResource 1
              { info, clients := [.fetcher, .document] }).HasClient 1 .document :=
            ⟨_, setResource_self, List.mem_cons_of_mem _ List.mem_cons_self⟩
          rcases hstay hclient with hthere | ⟨⟨_, heq⟩, -⟩
          · exact hthere
          · cases heq
        · exact (seenBy_loadPage hload).trans (seenBy_loadPage hload).symm
      · cases heq

/-- **The document sees what the fetcher sees.** -/
theorem attended_of_run (h : Run Steps {} es s) (hpage : s.renderer = .page w) : Attended s w := by
  have hboth : Reached s ∧ ∀ w, s.renderer = .page w → Attended s w := by
    refine h.invariant (P := fun s => Reached s ∧ ∀ w, s.renderer = .page w → Attended s w) ?_
      ⟨reached_of_run (.nil _), fun _ heq => absurd heq nofun⟩
    exact fun _ _ _ hs hstep => ⟨reached_step hs.1 hstep, attended_step hs.1 hs.2 hstep⟩
  exact hboth.2 w hpage

/-- What can be seen of a run of the renderer. -/
theorem exists_run {r r' : Renderer} (h : Run Renderer.Steps r es r') :
    ∀ {s : Watched}, s.renderer = r → ∃ s', Run Steps s es s' ∧ s'.renderer = r' := by
  induction h with
  | nil r => exact fun hs => ⟨_, .nil _, hs⟩
  | @cons _ r₁ _ e _ hstep _ ih =>
    intro s hs
    have hstep : s.renderer.step e = .ok r₁ := hs ▸ hstep
    obtain ⟨s₁, hs₁, hr₁⟩ : ∃ s₁, s.step e = .ok s₁ ∧ s₁.renderer = r₁ := by
      rw [step, hstep, ok_bind]
      cases r₁ with
      | blank engine => exact ⟨_, rfl, rfl⟩
      | page w => exact ⟨_, rfl, rfl⟩
    obtain ⟨s', hrun, hr'⟩ := ih hr₁
    exact ⟨s', .cons hs₁ hrun, hr'⟩

end Watched

/-! ### The end of the document -/

/-- How many bytes the document has. -/
def PageModel.documentSize (model : PageModel) : ℕ :=
  ((model.chain 1).getLast?.map RequestInfo.respBodySize).getD 0

/-- All elements are inside the document. -/
def PageModel.Inside (model : PageModel) : Prop :=
  ∀ x ∈ model.htmlElementByteOffsets, x.1 < model.documentSize

/-- No two elements are on the last byte of the document. -/
def PageModel.LastAlone (model : PageModel) : Prop :=
  model.htmlElementByteOffsets.Pairwise fun x y =>
    x.1 + 1 = model.documentSize → y.1 + 1 ≠ model.documentSize

namespace Renderer

variable {w : World} {es : List PageEvent}

theorem informed_of_run (h : Run Steps start es (.page w)) : Informed w := by
  have hboth : Settled w ∧ Informed w :=
    page_invariant (P := fun w => Settled w ∧ Informed w)
      (fun _ h => ⟨loadPage_settled h, loadPage_informed h⟩)
      (fun hw h => ⟨pageStep_settled hw.1 h, pageStep_informed hw.1 hw.2 h⟩) h
  exact hboth.2

/-- **When the end has come**, all bytes of the document have. -/
theorem received_eq_documentSize (h : Run Steps start es (.page w))
    (hreceived : w.parser.doneReceived = true) :
    w.parser.numBytesReceived = w.model.documentSize := by
  obtain ⟨s, hs, hpage⟩ := Watched.exists_run h (s := {}) rfl
  have hinformed := informed_of_run h
  obtain ⟨hnotices, -, hseen⟩ := Watched.attended_of_run hs hpage
  have hsound := (Watched.reached_of_run hs).sound
  rw [Watched.Sound, hpage] at hsound
  obtain ⟨⟨st, hrun, hst⟩, -⟩ := hsound 1
  have hkept := Chains.kept_of_run hrun hst.steady
  -- the document has been told of the end, and of all the data before
  have htold : w.documentTold = ((s.log.filterMap Seen.notice).filter
      (Notice.tells 1 .document)).flatMap Notice.event := by
    rw [hnotices]
    rfl
  have hended : .finished true ∈ seenBy 1 .fetcher s.log := by
    rw [← hseen]
    exact mem_seenBy (htold ▸ hinformed.ended hreceived)
  obtain ⟨l₁, l₂, hl⟩ := List.append_of_mem hended
  obtain ⟨-, hsize, hafter⟩ := hkept.finished hl
  obtain ⟨-, info, hinfo, hsum⟩ := hsize rfl
  have hsilent : Chains.tellings l₂ = [] := by
    refine List.filterMap_eq_nil_iff.mpr fun a ha => ?_
    obtain ⟨id, len, rfl⟩ | ⟨id, ok, rfl⟩ := hafter a ha <;> rfl
  have htellings : Chains.tellings (seenBy 1 .fetcher s.log) = Chains.tellings l₁ := by
    rw [hl, List.append_cons, Chains.tellings, List.filterMap_append, ← Chains.tellings,
      ← Chains.tellings, hsilent, List.append_nil, Chains.tellings_other _ rfl]
  rw [hinformed.bytes, htold, ← tellings_seenBy, hseen, htellings, hsum, PageModel.documentSize, hinfo]
  rfl

/-- **All elements are read, in order**, if no two are on the last byte of the document.

For every page whose elements are in the order of their offsets and inside the document, and whatever the
chunks in which it comes, the times at which the parser yields and the scripts that block it: the
elements that have been reached are a first part of the list; they are in the document in that order,
each once; the parser is past the byte of each of them, and not past what has been received.  When the
end has been reported, all have been reached if and only if no two are on the last byte. -/
theorem reads_whole (h : Run Steps start es (.page w)) (hord : w.model.InOrder)
    (hinside : w.model.Inside) :
    w.parser.reached <+: w.model.htmlElementByteOffsets ∧
    ((w.parser.reached.map (·.2)).filter fun e => !w.model.isBody e).Sublist w.document.elements ∧
    w.document.elements.Nodup ∧
    (∀ x ∈ w.parser.reached, x.1 + 1 ≤ w.parser.numBytesParsed ∧
      (w.model.isBody x.2 = true → w.document.hasBodyElement = true)) ∧
    w.parser.numBytesParsed ≤ w.parser.numBytesReceived ∧
    (w.document.finishedParsing = true →
      (w.parser.reached = w.model.htmlElementByteOffsets ↔ w.model.LastAlone)) := by
  have hw := settled_of_run h
  have hlist : w.parser.reached ++ w.parser.ahead = w.model.htmlElementByteOffsets := by
    rw [← hw.locations]
    exact List.take_append_drop _ _
  refine ⟨⟨_, hlist⟩, hw.added, hw.nodup, fun x hx => ⟨hw.parsed hord x hx, hw.body x hx⟩,
    hw.parsed_le, fun hfinished => ?_⟩
  rw [hw.finished] at hfinished
  obtain ⟨-, hreceived, hall⟩ := hw.done hfinished
  have hsize := received_eq_documentSize h hreceived
  constructor
  · intro heq
    have hlast := hw.lastOnce hord
    rw [heq, hsize] at hlast
    exact hlast
  · intro hlast
    rw [PageModel.LastAlone, ← hlist] at hlast
    suffices hnil : w.parser.ahead = [] by rw [← hlist, hnil, List.append_nil]
    refine List.eq_nil_iff_forall_not_mem.mpr fun x hx => ?_
    have hlt := hinside x (hlist ▸ List.mem_append_right _ hx)
    -- what has not been reached is on the last byte, as is an element that has
    rcases hw.ahead hord x hx with hbefore | ⟨hon, y, hy, heq⟩
    · omega
    · have htwo := (List.pairwise_append.mp hlast).2.2 y hy x hx
      omega

/-- The images of the document are on its last two bytes. -/
def alonePage : PageModel where
  resources := [
    (1, { partOfPageLoadedCheck := true, reqChain := [{ respBodySize := 3 }], type := .main })]
  elements := [(4, { tag := .body }), (5, { tag := .img }), (6, { tag := .img })]
  htmlElementByteOffsets := [(0, 4), (1, 5), (2, 6)]

/-- The document comes in two parts. -/
def inTwoParts (model : PageModel) : List PageEvent := [.loadPage 1 model 0,
  .message (.dataReceived 1 2), .message (.dataReceived 1 1),
  .message (.requestComplete 1 true [.document, .fetcher])]

/-- Both images are in the document. -/
theorem reads_whole_alone : ∃ w, Run Steps start (inTwoParts alonePage) (.page w) ∧
    w.document.finishedParsing = true ∧ w.parser.reached = w.model.htmlElementByteOffsets ∧
    w.document.elements = [5, 6] := by
  have hreturns : returns (exec step start (inTwoParts alonePage)) (isPage fun w =>
      decide (w.model.htmlElementByteOffsets = [(0, 4), (1, 5), (2, 6)] ∧ w.model.documentSize = 3 ∧
        w.document.finishedParsing = true ∧ w.document.elements = [5, 6])) = true := by
    decide
  obtain ⟨w, hrun, htest⟩ := exists_of_returns hreturns
  obtain ⟨hlist, hsize, hfinished, helements⟩ := of_decide_eq_true htest
  have hord : w.model.InOrder := by
    rw [PageModel.InOrder, hlist]
    decide
  have hinside : w.model.Inside := by
    rw [PageModel.Inside, hlist, hsize]
    decide
  have hlast : w.model.LastAlone := by
    rw [PageModel.LastAlone, hlist, hsize]
    decide
  obtain ⟨-, -, -, -, -, hwhole⟩ := reads_whole hrun hord hinside
  exact ⟨w, hrun, hfinished, (hwhole hfinished).mpr hlast, helements⟩

/-- Of two images on the last byte the second is missing when the end is reported. -/
theorem reads_whole_fails : ∃ w, Run Steps start (inTwoParts tiedPage) (.page w) ∧
    w.model.InOrder ∧ w.model.Inside ∧ w.document.finishedParsing = true ∧
    (2, 6) ∈ w.model.htmlElementByteOffsets ∧ 6 ∉ w.document.elements := by
  have hreturns : returns (exec step start (inTwoParts tiedPage)) (isPage fun w =>
      decide (w.model.htmlElementByteOffsets = [(0, 4), (2, 5), (2, 6)] ∧ w.model.documentSize = 3 ∧
        w.document.finishedParsing = true ∧ w.document.elements = [5])) = true := by
    decide
  obtain ⟨w, hrun, htest⟩ := exists_of_returns hreturns
  obtain ⟨hlist, hsize, hfinished, helements⟩ := of_decide_eq_true htest
  refine ⟨w, hrun, ?_, ?_, hfinished, ?_, ?_⟩
  · rw [PageModel.InOrder, hlist]
    decide
  · rw [PageModel.Inside, hlist, hsize]
    decide
  · rw [hlist]
    decide
  · rw [helements]
    decide

end Renderer

end ShadowBrowser.Blink
