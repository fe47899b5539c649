/-
What can be seen of the requests of a page, and what the clients of its resources are told.

* `Remains` — a client of a resource stays one, unless it is an element whose removal is noted;
* `Delivers` — a client is told what it is due, or has left;
* `pageStep_delivers` — so it is in every event of a page;
* `Watched` — the renderer, with what can be seen of the current load: what the io service says, the
  calls that clients get, and what is sent to the io service;
* `seenBy` — what a client of a resource sees of it;
* **`request_chain`** — the rules of `Chains.Kept`, for every resource of every page that is reached,
  and all who are its clients.

What is sent in an event is put after what is told in it, and that after what is heard: of one resource
an event tells the end or sends the next request, but not both.
-/
import ShadowBrowser.ByteChecks
import ShadowBrowser.ResourceRequests

namespace ShadowBrowser.Blink

open Checked Runs Relation World

variable {n : ℕ} {c : ResourceClient} {w w₁ w₂ w' : World} {r r' : Resource}

/-! ### Clients stay -/

/-- What is noted is kept, and a client stays unless it is an element that is removed. -/
def Remains (n : ℕ) (c : ResourceClient) (w w' : World) : Prop :=
  ∃ l, w'.notices = w.notices ++ l ∧
    (w.HasClient n c → w'.HasClient n c ∨ (∃ e, c = .element e) ∧ .removed n c ∈ l)

namespace Remains

theorem trans (h : Remains n c w w₁) (h' : Remains n c w₁ w') : Remains n c w w' := by
  obtain ⟨l, hl, hstay⟩ := h
  obtain ⟨l', hl', hstay'⟩ := h'
  refine ⟨l ++ l', by rw [hl', hl, List.append_assoc], fun hc => ?_⟩
  rcases hstay hc with hc₁ | ⟨he, hmem⟩
  · exact (hstay' hc₁).imp_right fun ⟨he, hmem⟩ => ⟨he, List.mem_append_right _ hmem⟩
  · exact .inr ⟨he, List.mem_append_left _ hmem⟩

/-- Nothing is noted, and what the clients are does not depend on what is changed. -/
theorem frame (hnotices : w'.notices = w.notices)
    (hresources : w'.fetcher.documentResources = w.fetcher.documentResources) : Remains n c w w' := by
  refine ⟨[], by rw [hnotices, List.append_nil], fun ⟨r, hr, hc⟩ => .inl ⟨r, ?_, hc⟩⟩
  rw [hresources]
  exact hr

theorem refl (w : World) : Remains n c w w := frame rfl rfl

/-- A resource is changed, and keeps its clients. -/
theorem change {m : ℕ} (hr : w.fetcher.documentResources m = some r) (hsub : r.clients ⊆ r'.clients) :
    Remains n c w (w.setResource m r') := by
  refine ⟨[], (List.append_nil _).symm, fun ⟨r₁, hr₁, hc⟩ => .inl ?_⟩
  by_cases hm : n = m
  · subst hm
    rw [hr] at hr₁
    cases hr₁
    exact ⟨r', setResource_self, hsub hc⟩
  · exact ⟨r₁, (setResource_of_ne hm).trans hr₁, hc⟩

/-- The next request of a resource is issued. -/
theorem issue {m : ℕ} (info : RequestInfo) (hr : w.fetcher.documentResources m = some r)
    (hsub : r.clients ⊆ r'.clients) : Remains n c w (w.issued m r' info) := by
  let r₁ : Resource := { r' with currentReqChainIdx := r'.currentReqChainIdx + 1 }
  have hnext : Remains n c w (w.setResource m r₁) := change hr hsub
  exact hnext.trans (frame rfl rfl)

theorem scriptStep (h : ScriptStep w w') : Remains n c w w' := by
  cases h with
  | @made m info hnone _ =>
    refine ⟨[], (List.append_nil _).symm, fun ⟨r, hr, hc⟩ => .inl ⟨r, ?_, hc⟩⟩
    refine (setResource_of_ne ?_).trans hr
    rintro rfl
    rw [hnone] at hr
    cases hr
  | @loaded m r info hr _ _ =>
    have hcounted : Remains n c w (w.incrementRequestCount r) := by
      rw [incrementRequestCount]
      split
      · exact frame rfl rfl
      · exact refl w
    refine hcounted.trans (issue (r := r) info ?_ (List.Subset.refl _))
    rw [Goes.resources_incrementRequestCount]
    exact hr
  | clients _ hr hsub _ _ => exact change hr hsub
  | @removed m r e hr =>
    refine ⟨[.removed m (.element e)], rfl, fun ⟨r₁, hr₁, hc⟩ => ?_⟩
    by_cases hleft : m = n ∧ c = .element e
    · obtain ⟨rfl, rfl⟩ := hleft
      exact .inr ⟨⟨e, rfl⟩, List.mem_singleton.mpr rfl⟩
    · refine .inl ?_
      by_cases hm : n = m
      · subst hm
        rw [hr] at hr₁
        cases hr₁
        refine ⟨_, setResource_self, List.mem_filter.mpr ⟨hc, decide_eq_true ?_⟩⟩
        exact fun heq => hleft ⟨rfl, heq⟩
      · exact ⟨r₁, (setResource_of_ne hm).trans hr₁, hc⟩
  | engine _ _ _ _ => exact frame rfl rfl
  | updates _ => exact frame rfl rfl
  | document _ _ _ _ => exact frame rfl rfl
  | parser _ _ => exact frame rfl rfl

/-- What is noted step by step is noted. -/
theorem star {s : World → World → Prop} (hs : ∀ {v v'}, s v v' → Remains n c v v')
    (h : ReflTransGen s w w') : Remains n c w w' := by
  induction h with
  | refl => exact refl w
  | tail _ hstep ih => exact ih.trans (hs hstep)

theorem checkCompleted : Remains n c w w.checkCompleted := by
  rw [World.checkCompleted]
  split
  · exact frame rfl rfl
  · exact refl w

theorem clientStep (h : ClientStep w w') : Remains n c w w' := by
  cases h with
  | script h => exact scriptStep h
  | parser _ => exact frame rfl rfl
  | document _ _ _ => exact frame rfl rfl
  | ended h =>
    obtain ⟨w₁, hscripted, rfl⟩ := finishedParsing_cases h
    have hnoted : Remains n c w { w with document := { w.document with finishedParsing := true } } :=
      frame rfl rfl
    exact (hnoted.trans (star scriptStep hscripted)).trans checkCompleted
  | checked => exact checkCompleted
  | forced _ => exact frame rfl rfl

theorem taskStep (h : TaskStep w w') : Remains n c w w' := by
  cases h with
  | client h => exact clientStep h
  | called m => exact ⟨[m], rfl, fun hc => .inl hc⟩
  | driver _ => exact frame rfl rfl
  | erased _ => exact frame rfl rfl
  | received _ _ hr => exact change hr (List.Subset.refl _)
  | @next m r info hr _ => exact issue (r := r) info hr (List.Subset.refl _)
  | succeeded hr _ => exact change hr (List.Subset.refl _)
  | failed hr _ => exact change hr (List.Subset.refl _)
  | counted _ => exact frame rfl rfl
  | completed _ _ _ => exact frame rfl rfl

/-- **In an event** a client stays one, unless it is an element that is removed. -/
theorem tasks (h : Tasks w w') : Remains n c w w' := star taskStep h

end Remains

/-! ### Clients are told -/

/-- What a client is told. -/
def Notice.event : Notice → List (Chains.Event RequestInfo)
  | .dataReceived _ len _ => [.told len]
  | .notifyFinished _ success _ => [.finished success]
  | .removed _ _ => []

/-- The client is told what is due, or it is told nothing and is no client at some time. -/
def Delivers (n : ℕ) (c : ResourceClient) (due : List (Chains.Event RequestInfo)) (w w' : World) :
    Prop :=
  ∃ l, w'.toldTo n c = w.toldTo n c ++ l ∧
    (l.flatMap Notice.event = due ∨
      l = [] ∧ ∃ x, Tasks w x ∧ Tasks x w' ∧ ¬ x.HasClient n c)

namespace Delivers

variable {due : List (Chains.Event RequestInfo)}

/-- Nothing is due, and nothing is told. -/
theorem nothing (h : w'.toldTo n c = w.toldTo n c) : Delivers n c [] w w' :=
  ⟨[], by rw [h, List.append_nil], .inl rfl⟩

/-- Nobody is told before and after. -/
theorem within (hbefore : Tasks w w₁) (hsame : w₁.toldTo n c = w.toldTo n c)
    (h : Delivers n c due w₁ w₂) (hafter : Tasks w₂ w') (hsame' : w'.toldTo n c = w₂.toldTo n c) :
    Delivers n c due w w' := by
  obtain ⟨l, hl, h⟩ := h
  refine ⟨l, by rw [hsame', hl, hsame], h.imp_right ?_⟩
  rintro ⟨hnil, x, hx, hx', hgone⟩
  exact ⟨hnil, x, hbefore.trans hx, hx'.trans hafter, hgone⟩

/-- It is told, or it was not there when it was its turn. -/
theorem of_toldTo {m : Notice} (htasks : Tasks w w')
    (hout : ¬ w.HasClient n c → w'.toldTo n c = w.toldTo n c)
    (hin : w.HasClient n c → w'.toldTo n c = w.toldTo n c ++ [m] ∨
      (w'.toldTo n c = w.toldTo n c ∧ ∃ x, Tasks w x ∧ Tasks x w' ∧ ¬ x.HasClient n c)) :
    Delivers n c m.event w w' := by
  by_cases hthere : w.HasClient n c
  · rcases hin hthere with htold | ⟨hsame, hgone⟩
    · exact ⟨[m], htold, .inl (List.flatMap_singleton ..)⟩
    · exact ⟨[], by rw [hsame, List.append_nil], .inr ⟨rfl, hgone⟩⟩
  · exact ⟨[], by rw [hout hthere, List.append_nil], .inr ⟨rfl, w, .refl, htasks, hthere⟩⟩

end Delivers

namespace World

variable {id : ℕ} {ref : ResourceRef}

/-- The clients of a resource are told of data. -/
theorem notifyNewData_delivers {len : ℕ} (hsets : ClientSets w)
    (h : w.notifyNewData n len = .ok w') : Delivers n c [.told len] w w' := by
  have htasks := tasks_of_notified (notifyNewData_notified h)
  obtain ⟨r, hr, h⟩ := bind_eq_ok.mp h
  have hr := resource_eq_ok hr
  obtain ⟨hout, hin⟩ := callClients_toldTo (c := c) (calls_tellData n len) (hsets n r hr).1 h
  refine .of_toldTo (m := .dataReceived n len c) htasks (fun hnot => hout fun hc => hnot ⟨r, hr, hc⟩) ?_
  rintro ⟨r', hr', hc⟩
  rw [hr] at hr'
  cases hr'
  refine (hin hc).imp_right fun ⟨hsame, x, hx, hx', hgone⟩ => ?_
  exact ⟨hsame, x, tasks_of_notified hx, tasks_of_notified hx', hgone⟩

/-- The clients of a resource are told that it is over. -/
theorem notifyAllFinished_delivers {success : Bool} {order : List ResourceClient}
    (hsets : ClientSets w) (h : w.notifyAllFinished n success order = .ok w') :
    Delivers n c [.finished success] w w' := by
  obtain ⟨hout, hin⟩ := toldTo_of_notifyAll (c := c) hsets h
  exact .of_toldTo (m := .notifyFinished n success c) (notifyAllFinished_tasks h) hout hin

theorem toldTo_decrementRequestCount (h : w.decrementRequestCount r = .ok w') :
    w'.toldTo n c = w.toldTo n c := by
  rw [decrementRequestCount] at h
  split_ifs at h
  · obtain ⟨_, _, h⟩ := bind_eq_ok.mp h
    cases h
    rfl
  · cases h
    rfl

/-- A request of another resource is over. -/
theorem toldTo_finishOther {m : ℕ} {success : Bool} {order : List ResourceClient} (hm : m ≠ n)
    (h : w.finish m success order = .ok w') : w'.toldTo n c = w.toldTo n c := by
  have hall : ∀ {v v' : World} {b : Bool}, v.notifyAllFinished m b order = .ok v' →
      v'.toldTo n c = v.toldTo n c := by
    intro v v' b h
    obtain ⟨_, _, h⟩ := bind_eq_ok.mp h
    obtain ⟨v₁, hcount, h⟩ := bind_eq_ok.mp h
    obtain ⟨_, _, h⟩ := bind_eq_ok.mp h
    exact (callClients_other (calls_tellFinished m b) hm h).trans
      (toldTo_decrementRequestCount hcount)
  obtain ⟨r, _, _, h⟩ := finish_cases h
  cases h with
  | finished _ hparse h =>
    have hparsed := toldTo_scripted (n := n) (c := c) (parseIfStylesheet_scripted hparse)
    exact (hall h).trans hparsed
  | next info _ => rfl
  | failed h => exact (hall h).trans rfl

/-! ### The events -/

theorem handleReceivedResponse_delivers {firstByteTimeMs : ℕ}
    (h : w.handleReceivedResponse id firstByteTimeMs = .ok w') : Delivers n c [] w w' := by
  rw [handleReceivedResponse] at h
  split at h
  · cases h
    exact .nothing rfl
  · obtain ⟨_, _, h⟩ := bind_eq_ok.mp h
    obtain ⟨w₁, hmeta, h⟩ := bind_eq_ok.mp h
    refine .nothing ((toldTo_scripted (doEndOfTaskWork_scripted h)).trans ?_)
    obtain ⟨r, _, hmeta⟩ := bind_eq_ok.mp hmeta
    split_ifs at hmeta
    · obtain ⟨_, _, hmeta⟩ := bind_eq_ok.mp hmeta
      cases hmeta
      rfl
    · cases hmeta
      rfl

theorem handleDataReceived_delivers {len : ℕ} (hsets : ClientSets w)
    (h : w.handleDataReceived id len = .ok w') :
    Delivers n c (w.due n (.dataReceived id len)) w w' := by
  rw [handleDataReceived] at h
  split at h
  · next hlookup =>
    cases h
    rw [due, requested_of_none hlookup]
    exact .nothing rfl
  · next ref hlookup =>
    obtain ⟨_, _, h⟩ := bind_eq_ok.mp h
    obtain ⟨w₁, hdata, h⟩ := bind_eq_ok.mp h
    have htask := doEndOfTaskWork_scripted h
    obtain ⟨r, hr, hdata⟩ := appendData_cases hdata
    -- what has come is counted first
    let r' : Resource := { r with currentReqBodyBytesRecv := r.currentReqBodyBytesRecv + len }
    have hcounted : Tasks w (w.setResource ref.instNum r') :=
      .single (.received _ r.firstByteTimeMs hr)
    have hsets' : ClientSets (w.setResource ref.instNum r') := hsets.change hr rfl
    by_cases hn : ref.instNum = n
    · subst hn
      rw [due, requested_self hlookup, hr]
      dsimp only
      rcases hdata with ⟨hreal, hdata⟩ | ⟨hreal, rfl⟩
      · rw [if_pos hreal]
        exact .within hcounted rfl (notifyNewData_delivers hsets' hdata) (tasks_of_scripted htask)
          (toldTo_scripted htask)
      · rw [if_neg hreal]
        exact .nothing ((toldTo_scripted htask).trans rfl)
    · rw [due, requested_other hlookup hn]
      refine .nothing ((toldTo_scripted htask).trans ?_)
      rcases hdata with ⟨_, hdata⟩ | ⟨_, rfl⟩
      · obtain ⟨_, _, hdata⟩ := bind_eq_ok.mp hdata
        exact (callClients_other (calls_tellData _ len) hn hdata).trans rfl
      · rfl

theorem finish_delivers {success : Bool} {order : List ResourceClient} (hsets : ClientSets w)
    (hlookup : w.engine.pendingRequests.lookup id = some ref)
    (h : (w.erasePending id).finish ref.instNum success order = .ok w') :
    Delivers ref.instNum c (w.due ref.instNum (.requestComplete id success order)) w w' := by
  obtain ⟨r, hr, hloading, hfinish⟩ := finish_cases h
  have hr' : w.fetcher.documentResources ref.instNum = some r := hr
  have herased : Tasks w (w.erasePending id) := .single (.erased id)
  rw [due, requested_self hlookup, hr']
  dsimp only
  cases hfinish with
  | @finished w₁ _ hreal hparse hnotify =>
    rw [if_neg fun hall => hall.2 hreal]
    have htasks := herased.trans (finished_tasks hr hloading hparse)
    have hsame := toldTo_scripted (n := ref.instNum) (c := c) (parseIfStylesheet_scripted hparse)
    exact .within htasks hsame (notifyAllFinished_delivers (clientSets_taskStep.star _ _ hsets htasks)
      hnotify) .refl rfl
  | next info hreal =>
    rw [if_pos ⟨rfl, hreal⟩]
    exact .nothing rfl
  | failed hnotify =>
    rw [if_neg fun hall => absurd hall.1 (by decide)]
    have htasks := herased.trans (ReflTransGen.trans (.single (.driver (.requestFinished ref.instNum
      r.currentReqChainIdx false))) (.single (.failed (r := r) hr hloading)))
    exact .within htasks rfl (notifyAllFinished_delivers (clientSets_taskStep.star _ _ hsets htasks)
      hnotify) .refl rfl

theorem handleRequestComplete_delivers {success : Bool} {order : List ResourceClient}
    (hsets : ClientSets w) (h : w.handleRequestComplete id success order = .ok (.page w')) :
    Delivers n c (w.due n (.requestComplete id success order)) w w' := by
  rw [handleRequestComplete] at h
  split at h
  · next hlookup =>
    cases h
    rw [due, requested_of_none hlookup]
    exact .nothing rfl
  · next ref hlookup =>
    obtain ⟨_, _, h⟩ := bind_eq_ok.mp h
    dsimp only at h
    split_ifs at h
    · cases h
    · obtain ⟨w₁, hfinish, h⟩ := bind_eq_ok.mp h
      obtain ⟨w₂, htask, h⟩ := bind_eq_ok.mp h
      obtain ⟨w₃, hforce, h⟩ := bind_eq_ok.mp h
      cases h
      have hafter : Told w₁ w' := (told_of_scripted (doEndOfTaskWork_scripted htask)).trans
        (maybeLoadUnloadedResources_told hforce)
      by_cases hn : ref.instNum = n
      · subst hn
        exact .within .refl rfl (finish_delivers hsets hlookup hfinish) (tasks_of_told hafter)
          (toldTo_told hafter)
      · rw [due, requested_other hlookup hn]
        have hsame := toldTo_finishOther (c := c) hn hfinish
        exact .nothing ((toldTo_told hafter).trans hsame)

theorem toldTo_checkCompletedTimerFired (h : w.checkCompletedTimerFired = .ok w') :
    w'.toldTo n c = w.toldTo n c := by
  obtain ⟨_, _, h⟩ := bind_eq_ok.mp h
  dsimp only at h
  split_ifs at h
  · obtain ⟨w₁, hcomplete, h⟩ := bind_eq_ok.mp h
    obtain ⟨r, _, h⟩ := bind_eq_ok.mp h
    have hcompleted := toldTo_scripted (n := n) (c := c) (completeDocument_cases hcomplete)
    exact (toldTo_told (maybeLoadUnloadedResources_told h)).trans hcompleted
  · cases h
    rfl

/-- **In an event of a page** a client is told what is due, or it is no client at some time. -/
theorem pageStep_delivers {e : PageEvent} (hsets : ClientSets w)
    (h : Renderer.pageStep w e = .ok (.page w')) : Delivers n c (w.dueIn n e) w w' := by
  cases e with
  | loadPage loadId model timeMs => cases h
  | reset => cases h
  | message m =>
    cases m with
    | receivedResponse id firstByteTimeMs =>
      obtain ⟨w₁, hm, h⟩ := bind_eq_ok.mp h
      cases h
      exact handleReceivedResponse_delivers hm
    | dataReceived id len =>
      obtain ⟨w₁, hm, h⟩ := bind_eq_ok.mp h
      cases h
      exact handleDataReceived_delivers hsets hm
    | requestComplete id success order => exact handleRequestComplete_delivers hsets h
  | resumeTimer =>
    obtain ⟨w₁, hw₁, h⟩ := bind_eq_ok.mp h
    cases h
    exact .nothing (toldTo_told (resumeTimerFired_told hw₁))
  | scriptsTimer =>
    obtain ⟨w₁, hw₁, h⟩ := bind_eq_ok.mp h
    cases h
    exact .nothing (toldTo_told (scriptsTimerFired_told hw₁))
  | checkCompletedTimer =>
    obtain ⟨w₁, hw₁, h⟩ := bind_eq_ok.mp h
    cases h
    exact .nothing (toldTo_checkCompletedTimerFired hw₁)
  | domTimer timerID =>
    obtain ⟨w₁, hw₁, h⟩ := bind_eq_ok.mp h
    cases h
    exact .nothing (toldTo_scripted (domTimerFired_scripted hw₁))

end World

/-! ### What can be seen -/

/-- What can be seen of a load: what the io service says, the calls that clients of resources get, and
what is sent to the io service. -/
inductive Seen
  | said (m : ResourceMsg)
  | told (m : Notice)
  | sent (m : IoServiceMsg)
  deriving DecidableEq, Repr

/-- What a client of resource `n` sees of it. -/
def Seen.view (n : ℕ) (c : ResourceClient) : Seen → List (Chains.Event RequestInfo)
  | .said m => m.heard
  | .told m => if m.tells n c = true then m.event else []
  | .sent m => issuedFor n [m]

/-- What a client of resource `n` has seen. -/
def seenBy (n : ℕ) (c : ResourceClient) (log : List Seen) : List (Chains.Event RequestInfo) :=
  log.flatMap (Seen.view n c)

/-- The renderer, with what can be seen of the current load. -/
structure Watched where
  renderer : Renderer := .start
  log : List Seen := []

/-- Whether a page is loaded. -/
def PageEvent.IsLoad : PageEvent → Prop
  | .loadPage .. => True
  | _ => False

/-- What an event says. -/
def PageEvent.said : PageEvent → List Seen
  | .message m => [.said m]
  | _ => []

/-- The calls that clients have got. -/
def Renderer.notices : Renderer → List Notice
  | .blank _ => []
  | .page w => w.notices

/-- What can be seen in an event after which there is a page. -/
def Renderer.shows (r : Renderer) (e : PageEvent) (w : World) : List Seen :=
  e.said ++ (w.notices.drop r.notices.length).map .told ++
    (w.engine.toIoService.drop r.engine.toIoService.length).map .sent

/-- The renderer's next event, with what can be seen. -/
def Watched.step (s : Watched) (e : PageEvent) : Except PageCheck Watched := do
  let r ← s.renderer.step e
  match r with
  | .blank engine => return { renderer := .blank engine }
  | .page w => return { renderer := .page w, log := s.log ++ s.renderer.shows e w }

section

variable {e : PageEvent} {l l' : List Seen}

theorem seenBy_append : seenBy n c (l ++ l') = seenBy n c l ++ seenBy n c l' := List.flatMap_append

theorem seenBy_said : seenBy n c e.said = e.heard := by
  cases e with
  | message m => exact List.flatMap_singleton ..
  | _ => rfl

theorem seenBy_told {ms : List Notice} :
    seenBy n c (ms.map .told) = (ms.filter (Notice.tells n c)).flatMap Notice.event := by
  induction ms with
  | nil => rfl
  | cons m ms ih =>
    rw [List.map_cons, seenBy, List.flatMap_cons, ← seenBy, ih, List.filter_cons, Seen.view]
    split
    · rw [List.flatMap_cons]
    · rfl

theorem seenBy_sent {ms : List IoServiceMsg} : seenBy n c (ms.map .sent) = issuedFor n ms := by
  induction ms with
  | nil => rfl
  | cons m ms ih =>
    rw [List.map_cons, seenBy, List.flatMap_cons, ← seenBy, ih, Seen.view, ← issuedFor_append]
    rfl

/-- What a client sees in an event: what the io service says, what it is told, and what is requested. -/
theorem seenBy_shows {r : Renderer} : seenBy n c (r.shows e w) = e.heard ++
    ((w.notices.drop r.notices.length).filter (Notice.tells n c)).flatMap Notice.event ++
      issuedFor n (w.engine.toIoService.drop r.engine.toIoService.length) := by
  rw [Renderer.shows, seenBy_append, seenBy_append, seenBy_said, seenBy_told, seenBy_sent]

/-- **What a client sees in an event of a page.** -/
theorem seenBy_pageStep (hsets : ClientSets w) (h : Renderer.pageStep w e = .ok (.page w')) :
    seenBy n c ((Renderer.page w).shows e w') = e.heard ++ w.dueIn n e ++
        issuedFor n (w'.engine.toIoService.drop w.engine.toIoService.length) ∨
      (seenBy n c ((Renderer.page w).shows e w') = e.heard ++ [] ++
        issuedFor n (w'.engine.toIoService.drop w.engine.toIoService.length) ∧
        ∃ x, Tasks w x ∧ Tasks x w' ∧ ¬ x.HasClient n c) := by
  obtain ⟨l, hl, -⟩ := Remains.tasks (n := n) (c := c) (pageStep_tasks h)
  obtain ⟨k, hk, hdue⟩ := pageStep_delivers (n := n) (c := c) hsets h
  -- what it has been told is what is noted since
  have hnew : ((w'.notices.drop w.notices.length).filter (Notice.tells n c)) = k := by
    rw [hl, List.drop_left]
    rw [toldTo, toldTo, hl, List.filter_append] at hk
    exact List.append_cancel_left hk
  have hview : seenBy n c ((Renderer.page w).shows e w') = e.heard ++ k.flatMap Notice.event ++
      issuedFor n (w'.engine.toIoService.drop w.engine.toIoService.length) := by
    rw [seenBy_shows, ← hnew]
    rfl
  rw [hview]
  rcases hdue with hdue | ⟨rfl, hgone⟩
  · exact .inl (by rw [hdue])
  · exact .inr ⟨rfl, hgone⟩

theorem dueIn_eq_nil (hr : w.fetcher.documentResources n = none) : w.dueIn n e = [] := by
  have hnone : ∀ id, w.requested n id = none := by
    intro id
    rw [requested, hr]
    split
    · exact ite_self none
    · rfl
  cases e with
  | message m =>
    cases m with
    | receivedResponse id firstByteTimeMs => rfl
    | dataReceived id len =>
      change w.due n (.dataReceived id len) = []
      rw [due, hnone]
    | requestComplete id success order =>
      change w.due n (.requestComplete id success order) = []
      rw [due, hnone]
  | _ => rfl

/-- What is due is told to those who wait. -/
theorem tells_of_mem_dueIn : ∀ a ∈ w.dueIn n e, a.Tells := by
  intro a ha
  cases e with
  | message m =>
    cases m with
    | receivedResponse id firstByteTimeMs => exact absurd ha List.not_mem_nil
    | dataReceived id len =>
      change a ∈ w.due n (.dataReceived id len) at ha
      rw [due] at ha
      split at ha
      · split at ha
        · rw [List.mem_singleton.mp ha]
          trivial
        · exact absurd ha List.not_mem_nil
      · exact absurd ha List.not_mem_nil
    | requestComplete id success order =>
      change a ∈ w.due n (.requestComplete id success order) at ha
      rw [due] at ha
      split at ha
      · split at ha
        · exact absurd ha List.not_mem_nil
        · rw [List.mem_singleton.mp ha]
          trivial
      · exact absurd ha List.not_mem_nil
  | _ => exact absurd ha List.not_mem_nil

/-- **The fetcher is told all that is due.** -/
theorem seenBy_fetcher (hsets : ClientSets w) (h : Renderer.pageStep w e = .ok (.page w')) :
    seenBy n .fetcher ((Renderer.page w).shows e w') = e.heard ++ w.dueIn n e ++
      issuedFor n (w'.engine.toIoService.drop w.engine.toIoService.length) := by
  rcases seenBy_pageStep (n := n) (c := .fetcher) hsets h with hall | ⟨hnone, x, hx, -, hgone⟩
  · exact hall
  · cases hr : w.fetcher.documentResources n with
    | none => rw [hnone, dueIn_eq_nil hr]
    | some r =>
      -- it is a client of the resource from the beginning
      obtain ⟨_, -, hstay⟩ := Remains.tasks (n := n) (c := .fetcher) hx
      rcases hstay ⟨r, hr, (hsets n r hr).2⟩ with hthere | ⟨⟨_, heq⟩, -⟩
      · exact absurd hthere hgone
      · cases heq

end

/-! ### Runs -/

/-- What the io service says fits the requests: no more data comes than was asked for, and all of it
before success is reported. -/
def Faithful (s : Watched) : ResourceMsg → Prop
  | .receivedResponse _ _ => True
  | .dataReceived id len => ∀ n, ∀ info ∈ Chains.asked id (seenBy n .fetcher s.log),
    Chains.received id (seenBy n .fetcher s.log) + len ≤ info.respBodySize
  | .requestComplete id success _ => success = true →
    ∀ n, ∀ info ∈ Chains.asked id (seenBy n .fetcher s.log),
      Chains.received id (seenBy n .fetcher s.log) = info.respBodySize

namespace Watched

variable {s s₀ s' : Watched} {e : PageEvent}

/-- The steps of the renderer, with what can be seen. -/
def Steps (s : Watched) (e : PageEvent) (s' : Watched) : Prop := s.step e = .ok s'

/-- What the fetcher has seen of a resource has been read by the machine, and any other client has seen
that but for some of what was told. -/
def Sound (s : Watched) : Prop :=
  match s.renderer with
  | .blank _ => s.log = []
  | .page w => ∀ n, (∃ st, Reads n w .idle (seenBy n .fetcher s.log) st ∧ At n w st) ∧
      ∀ c, Chains.Thins (seenBy n .fetcher s.log) (seenBy n c s.log)

theorem step_cases (h : s.step e = .ok s') :
    (∃ engine, s.renderer.step e = .ok (.blank engine) ∧ s' = { renderer := .blank engine }) ∨
    ∃ w', s.renderer.step e = .ok (.page w') ∧
      s' = { renderer := .page w', log := s.log ++ s.renderer.shows e w' } := by
  obtain ⟨r, hr, h⟩ := bind_eq_ok.mp h
  cases r with
  | blank engine =>
    cases h
    exact .inl ⟨engine, hr, rfl⟩
  | page w' =>
    cases h
    exact .inr ⟨w', hr, rfl⟩

/-- How a page begins. -/
theorem loadPage_hears {engine : Webengine} {loadId timeMs : ℕ} {model : PageModel}
    (h : Renderer.loadPage engine loadId model timeMs = .ok (.page w)) :
    Hears n [] (engine.newPage model) w ∧ w.toldTo n c = [] := by
  obtain ⟨info, w₁, hinfo, -, hload, heq⟩ := Renderer.loadPage_cases h
  cases heq
  have hscripted := loadResource_scripted hload
  have hmade : Goes n (engine.newPage model) ((engine.newPage model).setResource 1
      { info, clients := [.fetcher, .document] }) := .make rfl hinfo
  have hstarted : Goes n w₁ { w₁ with engine := { w₁.engine with
      startLoadTimeMs := timeMs, currentLoadId := loadId, state := .pageLoading } } :=
    .frame rfl rfl rfl rfl rfl
  exact ⟨.of_goes ((hmade.trans (.scripted hscripted)).trans hstarted), toldTo_scripted hscripted⟩

/-- On a new page nothing has been requested. -/
theorem at_newPage {engine : Webengine} (model : PageModel) (h : engine.pendingRequests = []) :
    At n (engine.newPage model) .idle := by
  have hnone : (engine.newPage model).engine.pendingRequests = [] := h
  refine ⟨?_, nofun, rfl, ?_, nofun⟩
  · rw [hnone]
    exact fun p hp => absurd hp List.not_mem_nil
  · rw [hnone]
    exact fun p hp => absurd hp List.not_mem_nil

/-- Of a new page everyone sees the first requests. -/
theorem seenBy_loadPage {engine : Webengine} {loadId timeMs : ℕ} {model : PageModel}
    (h : Renderer.loadPage engine loadId model timeMs = .ok (.page w)) :
    seenBy n c ((Renderer.blank engine).shows (.loadPage loadId model timeMs) w) =
      issuedFor n (w.engine.toIoService.drop engine.toIoService.length) := by
  have htold : w.toldTo n c = [] := (loadPage_hears h).2
  rw [seenBy_shows]
  change [] ++ (w.toldTo n c).flatMap _ ++ _ = _
  rw [htold]
  rfl

theorem sound_load {engine : Webengine} {loadId timeMs : ℕ} {model : PageModel}
    (hpending : engine.pendingRequests = [])
    (h : Renderer.loadPage engine loadId model timeMs = .ok (.page w)) :
    Sound { renderer := .page w,
            log := (Renderer.blank engine).shows (.loadPage loadId model timeMs) w } := by
  intro n
  obtain ⟨hmodel, st, hrun, hst⟩ := (loadPage_hears (c := .fetcher) h).1.reads
    (at_newPage (n := n) model hpending)
  refine ⟨⟨st, ?_, hst⟩, fun c => ?_⟩
  · rw [seenBy_loadPage h, Reads, hmodel]
    exact hrun
  · rw [seenBy_loadPage h, seenBy_loadPage h]
    exact .refl _

/-- **Every event** is read by the machine. -/
theorem sound_step (hs : Sound s) (hrenderer : s.renderer.Sound)
    (hsets : ∀ w, s.renderer = .page w → ClientSets w) (h : s.step e = .ok s') : Sound s' := by
  rcases step_cases h with ⟨engine, _, rfl⟩ | ⟨w', hstep, rfl⟩
  · rfl
  · obtain ⟨renderer, log⟩ := s
    cases renderer with
    | page w =>
      intro n
      obtain ⟨⟨st, hrun, hst⟩, hthin⟩ := hs n
      obtain ⟨hmodel, st', hrun', hst'⟩ := (pageStep_hears (n := n) hstep).reads hst
      have hfetcher := seenBy_fetcher (n := n) (hsets w rfl) hstep
      refine ⟨⟨st', ?_, hst'⟩, fun c => ?_⟩
      · change Reads n w' .idle (seenBy n .fetcher (log ++ _)) st'
        rw [seenBy_append, hfetcher, Reads, hmodel]
        exact hrun.append hrun'
      · change Chains.Thins (seenBy n .fetcher (log ++ _)) (seenBy n c (log ++ _))
        rw [seenBy_append, seenBy_append]
        refine (hthin c).append ?_
        rcases seenBy_pageStep (n := n) (c := c) (hsets w rfl) hstep with hall | ⟨hnone, -⟩
        · rw [hfetcher, hall]
          exact .refl _
        · rw [hfetcher, hnone]
          exact ((Chains.Thins.refl _).append (.of_tells tells_of_mem_dueIn)).append (.refl _)
    | blank engine =>
      change log = [] at hs
      subst hs
      rcases Renderer.step_page hstep with ⟨_, loadId, model, timeMs, heq, rfl, hload⟩ | ⟨_, heq, -⟩
      · cases heq
        exact sound_load hrenderer.2 hload
      · cases heq

/-- What holds in every state that is reached. -/
structure Reached (s : Watched) : Prop where
  renderer : s.renderer.Sound
  sets : ∀ w, s.renderer = .page w → ClientSets w
  sound : Sound s

theorem reached_step (hs : Reached s) (h : s.step e = .ok s') : Reached s' := by
  refine ⟨?_, fun w hw => ?_, sound_step hs.sound hs.renderer hs.sets h⟩
  · rcases step_cases h with ⟨engine, hr, rfl⟩ | ⟨w', hr, rfl⟩ <;>
      exact Renderer.sound_step hs.renderer hr
  · rcases step_cases h with ⟨engine, _, rfl⟩ | ⟨w', hr, rfl⟩
    · cases hw
    · cases hw
      rcases Renderer.step_page hr with ⟨_, _, _, _, _, _, hload⟩ | ⟨w₀, hw₀, htasks⟩
      · exact clientSets_loadPage hload
      · exact clientSets_taskStep.star _ _ (hs.sets w₀ hw₀) htasks

theorem reached_of_run {es : List PageEvent} (h : Run Steps {} es s) : Reached s := by
  refine h.invariant (fun _ _ _ => reached_step) ⟨?_, fun w hw => ?_, rfl⟩
  · exact ⟨fun _ _ _ hmem => absurd hmem List.not_mem_nil, rfl⟩
  · cases hw

/-! ### Clients that stay -/

/-- A client has seen since what the fetcher has, or its removal has been noted. -/
def Along (n : ℕ) (c : ResourceClient) (s₀ : Watched) (w₀ : World) (s : Watched) (w : World) : Prop :=
  ∃ ns, w.notices = w₀.notices ++ ns ∧ (.removed n c ∉ ns → w.HasClient n c ∧
    ∃ l, seenBy n c s.log = seenBy n c s₀.log ++ l ∧
      seenBy n .fetcher s.log = seenBy n .fetcher s₀.log ++ l)

variable {w₀ : World}

theorem along_step (hsets : ClientSets w) (hrenderer : s.renderer = .page w)
    (h : Along n c s₀ w₀ s w) (hstep : Renderer.pageStep w e = .ok (.page w')) :
    Along n c s₀ w₀ { renderer := .page w', log := s.log ++ s.renderer.shows e w' } w' := by
  obtain ⟨ns, hns, hsame⟩ := h
  obtain ⟨l, hl, hstay⟩ := Remains.tasks (n := n) (c := c) (pageStep_tasks hstep)
  refine ⟨ns ++ l, by rw [hl, hns, List.append_assoc], fun hnot => ?_⟩
  obtain ⟨hthere, k, hk, hk'⟩ := hsame fun hmem => hnot (List.mem_append_left _ hmem)
  have hremoved : .removed n c ∉ l := fun hmem => hnot (List.mem_append_right _ hmem)
  refine ⟨(hstay hthere).resolve_right fun ⟨_, hmem⟩ => hremoved hmem,
    k ++ seenBy n c (s.renderer.shows e w'), ?_, ?_⟩
  · rw [seenBy_append, hk, List.append_assoc]
  · rw [seenBy_append, hk', List.append_assoc, hrenderer, seenBy_fetcher hsets hstep]
    rcases seenBy_pageStep (n := n) (c := c) hsets hstep with hall | ⟨-, x, hx, hx', hgone⟩
    · rw [hall]
    · -- a client that is there no more at some time has been removed by then
      obtain ⟨l₁, hl₁, hstay₁⟩ := Remains.tasks (n := n) (c := c) hx
      obtain ⟨l₂, hl₂, -⟩ := Remains.tasks (n := n) (c := c) hx'
      rcases hstay₁ hthere with hthere | ⟨-, hmem⟩
      · exact absurd hthere hgone
      · have heq : l = l₁ ++ l₂ := by
          rw [hl₂, hl₁, List.append_assoc] at hl
          exact (List.append_cancel_left hl).symm
        exact absurd (heq ▸ List.mem_append_left _ hmem) hremoved

/-- **As long as its page is there** a client that stays sees what the fetcher sees. -/
theorem along_of_run {es : List PageEvent} (h : Run Steps s es s') (hreached : Reached s)
    (hes : ∀ e ∈ es, ¬ e.IsLoad) (hs : ∀ w, s.renderer = .page w → Along n c s₀ w₀ s w) :
    ∀ w, s'.renderer = .page w → Along n c s₀ w₀ s' w := by
  induction h with
  | nil => exact hs
  | @cons s t u e es hstep _ ih =>
    obtain ⟨hload, hes⟩ := List.forall_mem_cons.mp hes
    refine ih (reached_step hreached hstep) hes fun w hw => ?_
    rcases step_cases hstep with ⟨engine, _, rfl⟩ | ⟨w', hpage, rfl⟩
    · cases hw
    · cases hw
      rcases Renderer.step_page hpage with ⟨_, _, _, _, _, rfl, _⟩ | ⟨v, hv, _⟩
      · exact absurd trivial hload
      · rw [hv] at hpage
        exact along_step (hreached.sets v hv) hv (hs v hv) hpage

/-! ### The bytes -/

/-- What has come of a request that is pending, and what it asked for, are as can be seen. -/
theorem bytes_of_sound {id : ℕ} {ref : ResourceRef} {info : RequestInfo} (hs : Sound s)
    (hpage : s.renderer = .page w) (hlookup : w.engine.pendingRequests.lookup id = some ref)
    (hr : w.fetcher.documentResources ref.instNum = some r)
    (hinfo : r.info.reqChain[r.currentReqChainIdx.toNat]? = some info) :
    info ∈ Chains.asked id (seenBy ref.instNum .fetcher s.log) ∧
      Chains.received id (seenBy ref.instNum .fetcher s.log) = r.currentReqBodyBytesRecv := by
  rw [Sound, hpage] at hs
  obtain ⟨⟨st, hrun, hst⟩, -⟩ := hs ref.instNum
  obtain ⟨r', k, hr', -, hidx, rfl⟩ := hst.waiting ((hst.lookup_iff hlookup).mp rfl)
  rw [hr] at hr'
  cases hr'
  obtain ⟨_, _, hreceived, ⟨info', hinfo', hissued⟩, _⟩ := Chains.holds_of_run hrun
  rw [hidx, Int.toNat_natCast, hst.chain r hr, hinfo'] at hinfo
  cases hinfo
  exact ⟨Chains.mem_asked hissued, hreceived⟩

/-- **No check of the bytes fails** when the io service says what fits the requests. -/
theorem avoids_of_faithful {m : ResourceMsg} {x : PageCheck} (hx : x.OfBytes) (hs : Sound s)
    (hpage : s.renderer = .page w) (hm : Faithful s m) : Avoids x (Renderer.pageMessage w m) := by
  refine message_avoids hx fun ref r info hlookup hr hinfo => ?_
  obtain ⟨hasked, hreceived⟩ := bytes_of_sound hs hpage hlookup hr hinfo
  cases m with
  | receivedResponse id firstByteTimeMs => trivial
  | dataReceived id len =>
    have hfits := hm _ info hasked
    rwa [show Chains.received id _ = _ from hreceived] at hfits
  | requestComplete id success order =>
    intro hsuccess
    have hfits := hm hsuccess _ info hasked
    rwa [show Chains.received id _ = _ from hreceived] at hfits

/-- How a page ends: it is reset, or its main resource fails. -/
theorem page_ends {engine : Webengine} (h : Renderer.step (.page w) e = .ok (.blank engine)) :
    engine.pendingRequests = [] ∧ (e = .reset ∨ ∃ id order ref,
      e = .message (.requestComplete id false order) ∧
      w.engine.pendingRequests.lookup id = some ref ∧ ref.instNum = 1) := by
  change Renderer.pageStep w e = .ok (.blank engine) at h
  cases e with
  | loadPage loadId model timeMs => cases h
  | reset =>
    cases h
    exact ⟨rfl, .inl rfl⟩
  | message m =>
    cases m with
    | requestComplete id success order =>
      change w.handleRequestComplete id success order = _ at h
      rw [handleRequestComplete] at h
      split at h
      · cases h
      · next ref hlookup =>
        obtain ⟨_, _, h⟩ := bind_eq_ok.mp h
        dsimp only at h
        split_ifs at h with hmain
        · cases h
          obtain ⟨rfl, hn⟩ := hmain
          exact ⟨rfl, .inr ⟨id, order, ref, rfl, hlookup, hn⟩⟩
        · obtain ⟨_, _, h⟩ := bind_eq_ok.mp h
          obtain ⟨_, _, h⟩ := bind_eq_ok.mp h
          obtain ⟨_, _, h⟩ := bind_eq_ok.mp h
          cases h
    | receivedResponse id firstByteTimeMs =>
      obtain ⟨_, _, h⟩ := bind_eq_ok.mp h
      cases h
    | dataReceived id len =>
      obtain ⟨_, _, h⟩ := bind_eq_ok.mp h
      cases h
  | resumeTimer =>
    obtain ⟨_, _, h⟩ := bind_eq_ok.mp h
    cases h
  | scriptsTimer =>
    obtain ⟨_, _, h⟩ := bind_eq_ok.mp h
    cases h
  | checkCompletedTimer =>
    obtain ⟨_, _, h⟩ := bind_eq_ok.mp h
    cases h
  | domTimer timerID =>
    obtain ⟨_, _, h⟩ := bind_eq_ok.mp h
    cases h

/-- **The requests of a resource.**  In every state that is reached, by whatever order of page loads,
resets, timers and messages of the io service, and for every resource of the page:

* the requests, what has come of the answers and what the fetcher was told, which is a client of every
  resource from the beginning, keep to the rules of a chain;
* so does what any other client was told, as far as it was there;
* a client that stays from some time on is told from then on what the fetcher is told; when nothing was
  told before, what it has seen keeps to all the rules of the chain;
* when what the io service says next fits the requests, no check of the bytes fails;
* the page ends when it is reset or its main resource fails, and no request is pending then. -/
theorem request_chain {es₀ es : List PageEvent} (h₀ : Run Steps {} es₀ s₀) (h : Run Steps s₀ es s)
    (hpage : s.renderer = .page w) :
    Chains.Kept RequestInfo.respBodySize (w.model.chain n) (seenBy n .fetcher s.log) ∧
    (∀ c, Chains.Partly (w.model.chain n) (seenBy n c s.log)) ∧
    (∀ {c w₀}, s₀.renderer = .page w₀ → (∀ e ∈ es, ¬ e.IsLoad) → w₀.HasClient n c →
      .removed n c ∉ w.notices.drop w₀.notices.length →
      (∃ l, seenBy n c s.log = seenBy n c s₀.log ++ l ∧
        seenBy n .fetcher s.log = seenBy n .fetcher s₀.log ++ l) ∧
      ((∀ a ∈ seenBy n .fetcher s₀.log, ¬ a.Tells) →
        Chains.Kept RequestInfo.respBodySize (w.model.chain n) (seenBy n c s.log))) ∧
    (∀ m, Faithful s m → Renderer.step (.page w) (.message m) ≠ .error .bodyTooLong ∧
      Renderer.step (.page w) (.message m) ≠ .error .bodySize) ∧
    ∀ {e engine}, Renderer.step (.page w) e = .ok (.blank engine) →
      engine.pendingRequests = [] ∧ (e = .reset ∨ ∃ id order ref,
        e = .message (.requestComplete id false order) ∧
        w.engine.pendingRequests.lookup id = some ref ∧ ref.instNum = 1) := by
  have hreached₀ := reached_of_run h₀
  have hsound := (reached_of_run (h₀.append h)).sound
  have hall := hsound
  rw [Sound, hpage] at hall
  obtain ⟨⟨st, hrun, hst⟩, hthin⟩ := hall n
  have hkept := Chains.kept_of_run hrun hst.steady
  refine ⟨hkept, fun c => hkept.thins (hthin c), ?_, fun m hm => ?_, page_ends⟩
  · intro c w₀ hpage₀ hes hthere hnot
    have hstart : ∀ w, s₀.renderer = .page w → Along n c s₀ w₀ s₀ w := by
      intro w hw
      rw [hpage₀] at hw
      cases hw
      exact ⟨[], (List.append_nil _).symm, fun _ => ⟨hthere, [], (List.append_nil _).symm,
        (List.append_nil _).symm⟩⟩
    obtain ⟨ns, hns, hsame⟩ := along_of_run h hreached₀ hes hstart w hpage
    rw [hns, List.drop_left] at hnot
    obtain ⟨-, l, hl, hl'⟩ := hsame hnot
    refine ⟨⟨l, hl, hl'⟩, fun hsilent => ?_⟩
    -- it has missed nothing before it came
    have hsound₀ := hreached₀.sound
    rw [Sound, hpage₀] at hsound₀
    rw [hl, ((hsound₀ n).2 c).eq_of_not_tells hsilent, ← hl']
    exact hkept
  · exact ⟨avoids_of_faithful (.inl rfl) hsound hpage hm,
      avoids_of_faithful (.inr rfl) hsound hpage hm⟩

/-- A page whose main resource takes two requests. -/
def redirectedPage : PageModel where
  resources := [(1, {
    partOfPageLoadedCheck := true
    reqChain := [{ respBodySize := 3 }, { respBodySize := 5 }]
    type := .main })]
  elements := [(5, { tag := .img })]
  htmlElementByteOffsets := [(0, 5)]

/-- The answers come in parts. -/
def redirected : List PageEvent := [.message (.dataReceived 1 3),
  .message (.requestComplete 1 true []), .message (.dataReceived 2 2),
  .message (.dataReceived 2 3)]

/-- The last of them succeeds. -/
def succeeds : ResourceMsg := .requestComplete 2 true [.document, .fetcher]

/-- What is seen of the page before that. -/
def redirectedLog : List Seen := [.sent (.requestResource 1 1 { respBodySize := 3 }),
  .said (.dataReceived 1 3), .said (.requestComplete 1 true []),
  .sent (.requestResource 2 1 { respBodySize := 5 }),
  .said (.dataReceived 2 2), .told (.dataReceived 1 2 .fetcher), .told (.dataReceived 1 2 .document),
  .said (.dataReceived 2 3), .told (.dataReceived 1 3 .fetcher), .told (.dataReceived 1 3 .document)]

/-- Success fits what has been seen, and then the document has seen the whole chain. -/
theorem request_chain_redirected : ∃ s₀ s w s' w',
    Run Steps {} [.loadPage 1 redirectedPage 0] s₀ ∧
    (Run Steps s₀ redirected s ∧ s.renderer = .page w ∧ Faithful s succeeds ∧
      Renderer.step (.page w) (.message succeeds) ≠ .error .bodySize) ∧
    Run Steps s₀ (redirected ++ [.message succeeds]) s' ∧ s'.renderer = .page w' ∧
    Chains.Kept RequestInfo.respBodySize (w'.model.chain 1) (seenBy 1 .document s'.log) ∧
    seenBy 1 .document s'.log = [.issued 1 { respBodySize := 3 }, .part 1 3, .ended 1 true,
      .issued 2 { respBodySize := 5 }, .part 2 2, .told 2, .part 2 3, .told 3, .ended 2 true,
      .finished true] := by
  have hreturns : returns (exec step {} [.loadPage 1 redirectedPage 0]) (fun s₀ =>
      Renderer.isPage (fun w₀ =>
        decide (w₀.fetcher.documentResources 1 = some {
          info := { partOfPageLoadedCheck := true
                    reqChain := [{ respBodySize := 3 }, { respBodySize := 5 }], type := .main }
          loadState := .loading
          currentReqChainIdx := 0
          clients := [.fetcher, .document] }) &&
        returns (exec step s₀ (redirected ++ [.message succeeds])) (fun s' =>
          Renderer.isPage (fun w' => decide (.removed 1 .document ∉
            w'.notices.drop w₀.notices.length)) s'.renderer &&
          decide (seenBy 1 .document s'.log = [.issued 1 { respBodySize := 3 }, .part 1 3,
            .ended 1 true, .issued 2 { respBodySize := 5 }, .part 2 2, .told 2, .part 2 3, .told 3,
            .ended 2 true, .finished true]))) s₀.renderer &&
      decide (seenBy 1 .fetcher s₀.log = [.issued 1 { respBodySize := 3 }]) &&
      returns (exec step s₀ redirected) (fun s =>
        Renderer.isPage (fun _ => true) s.renderer && decide (s.log = redirectedLog))) = true := by
    decide
  obtain ⟨s₀, hs₀, htest⟩ := Checked.exists_of_returns hreturns
  obtain ⟨htest, hbefore⟩ := (Bool.and_eq_true _ _).mp htest
  obtain ⟨hpage₀, hsilent⟩ := (Bool.and_eq_true _ _).mp htest
  have hrun₀ : Run Steps {} [.loadPage 1 redirectedPage 0] s₀ := run_of_exec hs₀
  obtain ⟨renderer₀, log₀⟩ := s₀
  cases renderer₀ with
  | blank engine => cases hpage₀
  | page w₀ =>
    obtain ⟨hr₀, hafter⟩ := (Bool.and_eq_true _ _).mp hpage₀
    -- before the last answer ends
    obtain ⟨⟨renderer, log⟩, hs, htest⟩ := Checked.exists_of_returns hbefore
    obtain ⟨hpage, hdecided⟩ := (Bool.and_eq_true _ _).mp htest
    have hlog : log = redirectedLog := of_decide_eq_true hdecided
    -- and afterwards
    obtain ⟨⟨renderer', log'⟩, hs', htest⟩ := Checked.exists_of_returns hafter
    obtain ⟨hpage', hseen⟩ := (Bool.and_eq_true _ _).mp htest
    cases renderer with
    | blank engine => cases hpage
    | page w =>
      cases renderer' with
      | blank engine => cases hpage'
      | page w' =>
        have hfaithful : Faithful ⟨.page w, log⟩ succeeds := by
          subst hlog
          intro _ n info hinfo
          by_cases hn : 1 = n
          · subst hn
            change info ∈ [({ respBodySize := 5 } : RequestInfo)] at hinfo
            rw [List.mem_singleton.mp hinfo]
            rfl
          · simp [redirectedLog, seenBy, Seen.view, issuedFor, hn, Chains.asked, ResourceMsg.heard,
              Notice.tells] at hinfo
        have hrun : Run Steps ⟨.page w₀, log₀⟩ redirected ⟨.page w, log⟩ := run_of_exec hs
        have hrun' : Run Steps ⟨.page w₀, log₀⟩ (redirected ++ [.message succeeds])
          ⟨.page w', log'⟩ := run_of_exec hs'
        obtain ⟨-, -, -, hfits, -⟩ := request_chain (n := 1) hrun₀ hrun rfl
        obtain ⟨-, -, hstays, -, -⟩ := request_chain (n := 1) hrun₀ hrun' rfl
        refine ⟨_, _, w, _, w', hrun₀, ⟨hrun, rfl, hfaithful, (hfits _ hfaithful).2⟩, hrun', rfl,
          (hstays (c := .document) rfl ?_ ⟨_, of_decide_eq_true hr₀, by decide⟩
            (of_decide_eq_true hpage')).2 ?_, of_decide_eq_true hseen⟩
        · simp [redirected, succeeds, PageEvent.IsLoad]
        · intro a ha
          rw [show seenBy 1 .fetcher log₀ = _ from of_decide_eq_true hsilent] at ha
          rw [List.mem_singleton.mp ha]
          exact not_false

end Watched

end ShadowBrowser.Blink
