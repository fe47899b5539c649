/-
How the loading of a resource ends.

The success of the last request of a resource makes it `FINISHED`, and the failure of any of its
requests makes it errored.  Either way its clients are told.

* `Stays` — what becomes of a resource that has been loaded, whatever happens;
* `toldTo` — the calls that a client has got about a resource;
* `callClients_toldTo` — when the clients are called, each gets one call, or has left before its turn;
* `Over` — a resource whose loading has ended, to all who come later;
* **`ends_well_iff`** — the loading ends as it should exactly when it succeeds.

A failed resource is still `LOADING`, so that who comes later waits for it.
-/
import ShadowBrowser.PageRuns

namespace ShadowBrowser.Blink

open Checked Runs Relation World

/-! ### A resource that has been loaded -/

/-- What becomes of a resource that has been loaded: of its clients only elements leave, and it has no new
ones once it is finished. -/
structure Resource.Stays (r r' : Resource) : Prop where
  loadState : r'.loadState = r.loadState
  errored : r'.errored = r.errored
  stay : ∀ c ∈ r.clients, (∀ e, c ≠ .element e) → c ∈ r'.clients
  finished : r.isFinished → r'.clients ⊆ r.clients

theorem Resource.Stays.refl (r : Resource) : r.Stays r :=
  ⟨rfl, rfl, fun _ hc _ => hc, fun _ => List.Subset.refl _⟩

theorem Resource.Stays.trans {r r₁ r' : Resource} (h : r.Stays r₁) (h' : r₁.Stays r') :
    r.Stays r' where
  loadState := h'.loadState.trans h.loadState
  errored := h'.errored.trans h.errored
  stay c hc hne := h'.stay c (h.stay c hc hne) hne
  finished hfin := by
    have hfin₁ : r₁.isFinished := h.loadState.trans hfin
    exact List.Subset.trans (h'.finished hfin₁) (h.finished hfin)

/-- The resource is as before. -/
def Kept (n : ℕ) (r : Resource) (w : World) : Prop :=
  ∃ r', w.fetcher.documentResources n = some r' ∧ r.Stays r'

variable {w w' : World} {n : ℕ} {r : Resource}

theorem kept_refl (hr : w.fetcher.documentResources n = some r) : Kept n r w := ⟨r, hr, .refl r⟩

/-- A resource is changed: another one, or this one so that it stays. -/
theorem Kept.setResource {m : ℕ} {r' : Resource} (h : Kept n r w)
    (hstays : m = n → ∀ r₁, w.fetcher.documentResources n = some r₁ → r₁.Stays r') :
    Kept n r (w.setResource m r') := by
  obtain ⟨r₁, hr₁, hkept⟩ := h
  by_cases hm : m = n
  · subst hm
    exact ⟨r', setResource_self, hkept.trans (hstays rfl r₁ hr₁)⟩
  · exact ⟨r₁, (setResource_of_ne (Ne.symm hm)).trans hr₁, hkept⟩

theorem kept_scriptStep (hloaded : r.loadState ≠ .initial) : Closed (Kept n r) ScriptStep := by
  intro w w' h hstep
  cases hstep with
  | made hnone _ =>
    refine h.setResource fun hm r₁ hr₁ => ?_
    rw [hm, hr₁] at hnone
    cases hnone
  | @loaded m r₂ info hr₂ hinitial _ =>
    obtain ⟨r₁, hr₁, hkept⟩ := h
    have hm : n ≠ m := by
      rintro rfl
      rw [hr₁] at hr₂
      cases hr₂
      exact hloaded (hkept.loadState.symm.trans hinitial)
    refine ⟨r₁, (issued_of_ne hm).trans ?_, hkept⟩
    rw [incrementRequestCount]
    split <;> exact hr₁
  | clients clients hr₂ hstay hnodup hopen =>
    refine h.setResource fun hm r₁ hr₁ => ?_
    rw [hm, hr₁] at hr₂
    cases hr₂
    exact ⟨rfl, rfl, fun _ hc _ => hstay hc, fun hfin => absurd hfin hopen⟩
  | @removed m r₂ e hr₂ =>
    refine Kept.setResource (m := m) h fun hm r₁ hr₁ => ?_
    rw [hm, hr₁] at hr₂
    cases hr₂
    exact ⟨rfl, rfl, fun c hc hne => List.mem_filter.mpr ⟨hc, decide_eq_true (hne e)⟩,
      fun _ _ hc => (List.mem_filter.mp hc).1⟩
  | engine _ _ _ _ => exact h
  | updates _ => exact h
  | document _ _ _ _ => exact h
  | parser _ _ => exact h

theorem Kept.checkCompleted (h : Kept n r w) : Kept n r w.checkCompleted := by
  rw [World.checkCompleted]
  split <;> exact h

theorem kept_clientStep (hloaded : r.loadState ≠ .initial) : Closed (Kept n r) ClientStep := by
  intro w w' h hstep
  cases hstep with
  | script hscript => exact kept_scriptStep hloaded _ _ h hscript
  | parser _ => exact h
  | document _ _ _ => exact h
  | ended hended =>
    obtain ⟨w₁, hscripted, rfl⟩ := finishedParsing_cases hended
    have hnoted : Kept n r { w with document := { w.document with finishedParsing := true } } := h
    exact ((kept_scriptStep hloaded).star _ _ hnoted hscripted).checkCompleted
  | checked => exact h.checkCompleted
  | forced _ => exact h

/-- **A finished resource stays so**, whatever happens. -/
theorem kept_taskStep (hfin : r.isFinished) : Closed (Kept n r) TaskStep := by
  have hloaded : r.loadState ≠ .initial := by
    intro hinitial
    rw [Resource.isFinished, hinitial] at hfin
    cases hfin
  -- a resource that is loading is another one
  have hother : ∀ {v : World} {m : ℕ} {r₂ : Resource}, Kept n r v →
      v.fetcher.documentResources m = some r₂ → r₂.loadState = .loading → m ≠ n := by
    rintro v m r₂ ⟨r₁, hr₁, hkept⟩ hr₂ hloading rfl
    rw [hr₁] at hr₂
    cases hr₂
    exact absurd ((hkept.loadState.trans hfin).symm.trans hloading) (by decide)
  intro w w' h hstep
  cases hstep with
  | client hclient => exact kept_clientStep hloaded _ _ h hclient
  | called _ => exact h
  | driver _ => exact h
  | erased _ => exact h
  | received _ _ hr₂ =>
    refine h.setResource fun hm r₁ hr₁ => ?_
    rw [hm, hr₁] at hr₂
    cases hr₂
    exact ⟨rfl, rfl, fun _ hc _ => hc, fun _ => List.Subset.refl _⟩
  | next info hr₂ hloading =>
    have hm := hother h hr₂ hloading
    obtain ⟨r₁, hr₁, hkept⟩ := h
    exact ⟨r₁, (issued_of_ne (Ne.symm hm)).trans hr₁, hkept⟩
  | succeeded hr₂ hloading =>
    exact h.setResource fun hm => absurd hm (hother h hr₂ hloading)
  | failed hr₂ hloading =>
    exact h.setResource fun hm => absurd hm (hother h hr₂ hloading)
  | counted _ => exact h
  | completed _ _ _ => exact h

/-! ### The clients are sets -/

/-- No client is there twice, and the fetcher is one of them. -/
def ClientSets (w : World) : Prop :=
  ∀ n r, w.fetcher.documentResources n = some r → r.clients.Nodup ∧ .fetcher ∈ r.clients

theorem ClientSets.setResource (h : ClientSets w)
    (hr : r.clients.Nodup ∧ .fetcher ∈ r.clients) : ClientSets (w.setResource n r) := by
  intro m r' hr'
  by_cases hm : m = n
  · subst hm
    rw [setResource_self] at hr'
    cases hr'
    exact hr
  · rw [setResource_of_ne hm] at hr'
    exact h m r' hr'

/-- A resource is changed, but for its clients. -/
theorem ClientSets.change {r' : Resource} (h : ClientSets w)
    (hr : w.fetcher.documentResources n = some r) (hclients : r'.clients = r.clients) :
    ClientSets (w.setResource n r') := by
  refine h.setResource ?_
  rw [hclients]
  exact h n r hr

theorem clientSets_scriptStep : Closed ClientSets ScriptStep := by
  intro w w' h hstep
  cases hstep with
  | made _ _ => exact h.setResource ⟨List.pairwise_singleton .., List.mem_cons_self⟩
  | @loaded m r₂ info hr₂ _ _ =>
    have hset : ClientSets (w.setResource m { r₂ with
        loadState := .loading, currentReqChainIdx := r₂.currentReqChainIdx + 1 }) :=
      h.change hr₂ rfl
    intro n r hr
    refine hset n r ((congrFun ?_ n).trans hr)
    rw [incrementRequestCount]
    split <;> rfl
  | clients _ hr₂ hstay hnodup _ =>
    obtain ⟨hset, hfetcher⟩ := h _ _ hr₂
    exact h.setResource ⟨hnodup hset, hstay hfetcher⟩
  | removed _ hr₂ =>
    obtain ⟨hset, hfetcher⟩ := h _ _ hr₂
    exact h.setResource ⟨hset.filter _, List.mem_filter.mpr ⟨hfetcher, rfl⟩⟩
  | engine _ _ _ _ => exact h
  | updates _ => exact h
  | document _ _ _ _ => exact h
  | parser _ _ => exact h

theorem ClientSets.checkCompleted (h : ClientSets w) : ClientSets w.checkCompleted := by
  rw [World.checkCompleted]
  split <;> exact h

theorem clientSets_taskStep : Closed ClientSets TaskStep := by
  intro w w' h hstep
  cases hstep with
  | client hclient =>
    cases hclient with
    | script hscript => exact clientSets_scriptStep _ _ h hscript
    | parser _ => exact h
    | document _ _ _ => exact h
    | ended hended =>
      obtain ⟨w₁, hscripted, rfl⟩ := finishedParsing_cases hended
      have hnoted : ClientSets { w with document := { w.document with finishedParsing := true } } := h
      exact (clientSets_scriptStep.star _ _ hnoted hscripted).checkCompleted
    | checked => exact h.checkCompleted
    | forced _ => exact h
  | called _ => exact h
  | driver _ => exact h
  | erased _ => exact h
  | received _ _ hr => exact h.change hr rfl
  | @next m r info hr _ => exact h.change hr rfl
  | succeeded hr _ => exact h.change hr rfl
  | failed hr _ => exact h.change hr rfl
  | counted _ => exact h
  | completed _ _ _ => exact h

theorem clientSets_loadPage {engine : Webengine} {loadId timeMs : ℕ} {model : PageModel}
    (h : Renderer.loadPage engine loadId model timeMs = .ok (.page w)) : ClientSets w := by
  obtain ⟨info, w₁, -, -, hload, heq⟩ := Renderer.loadPage_cases h
  cases heq
  have hnew : ClientSets (engine.newPage model) := fun _ _ hr => by cases hr
  have hmain : ClientSets ((engine.newPage model).setResource 1
      { info, clients := [.fetcher, .document] }) :=
    hnew.setResource ⟨show [ResourceClient.fetcher, .document].Nodup by decide, List.mem_cons_self⟩
  have hw₁ := clientSets_scriptStep.star _ _ hmain (loadResource_scripted hload)
  exact hw₁

/-! ### The clients are told -/

/-- The client is registered. -/
def World.HasClient (w : World) (n : ℕ) (c : ResourceClient) : Prop :=
  ∃ r, w.fetcher.documentResources n = some r ∧ c ∈ r.clients

/-- Whether it is the client that is told, and about the resource. -/
def Notice.tells (n : ℕ) (c : ResourceClient) : Notice → Bool
  | .dataReceived m _ d => decide (m = n ∧ d = c)
  | .notifyFinished m _ d => decide (m = n ∧ d = c)
  | .removed _ _ => false

/-- The calls that a client has got about a resource, in order. -/
def World.toldTo (n : ℕ) (c : ResourceClient) (w : World) : List Notice :=
  w.notices.filter (Notice.tells n c)

variable {c : ResourceClient}

theorem toldTo_note {m : Notice} (h : m.tells n c = true) :
    (w.note m).toldTo n c = w.toldTo n c ++ [m] := by
  rw [toldTo, note, List.filter_append, List.filter_cons_of_pos h, List.filter_nil]
  rfl

theorem toldTo_note_of_not {m : Notice} (h : m.tells n c = false) :
    (w.note m).toldTo n c = w.toldTo n c := by
  rw [toldTo, note, List.filter_append, List.filter_cons_of_neg (by rw [h]; decide),
    List.filter_nil, List.append_nil]
  rfl

/-- Who is told about one resource is not told about another. -/
theorem Notice.tells_other {m : Notice} {k : ℕ} {d : ResourceClient} (h : m.tells k d = true)
    (hk : k ≠ n) : m.tells n c = false := by
  cases m with
  | removed _ _ => rfl
  | dataReceived _ _ _ =>
    have heq := (of_decide_eq_true h).1
    exact decide_eq_false fun hall => hk (heq.symm.trans hall.1)
  | notifyFinished _ _ _ =>
    have heq := (of_decide_eq_true h).1
    exact decide_eq_false fun hall => hk (heq.symm.trans hall.1)

theorem toldTo_scriptStep (h : ScriptStep w w') : w'.toldTo n c = w.toldTo n c := by
  cases h with
  | @loaded _ r _ _ _ _ =>
    rw [incrementRequestCount]
    split <;> rfl
  | removed _ _ => exact toldTo_note_of_not rfl
  | _ => rfl

theorem toldTo_scripted (h : Scripted w w') : w'.toldTo n c = w.toldTo n c :=
  star_invariant (f := fun w : World => w.toldTo n c) (fun _ _ => toldTo_scriptStep) h

theorem toldTo_checkCompleted : w.checkCompleted.toldTo n c = w.toldTo n c := by
  rw [World.checkCompleted]
  split <;> rfl

/-- What a client does tells no other. -/
theorem toldTo_told (h : Told w w') : w'.toldTo n c = w.toldTo n c := by
  refine star_invariant (f := fun w : World => w.toldTo n c) (fun v v' hstep => ?_) h
  cases hstep with
  | script hscript => exact toldTo_scriptStep hscript
  | ended hended =>
    obtain ⟨w₁, hscripted, rfl⟩ := finishedParsing_cases hended
    have hsame := toldTo_scripted (n := n) (c := c) hscripted
    exact toldTo_checkCompleted.trans hsame
  | checked => exact toldTo_checkCompleted
  | _ => rfl

variable {call : ResourceClient → World → Except PageCheck World}
  {notice : ResourceClient → Notice} {order : List ResourceClient} {success : Bool}

/-- What is called is the client, and about the resource. -/
structure Calls (n : ℕ) (notice : ResourceClient → Notice)
    (call : ResourceClient → World → Except PageCheck World) : Prop where
  self : ∀ c, (notice c).tells n c = true
  other : ∀ c d, d ≠ c → (notice d).tells n c = false
  told : ∀ {c v v'}, call c v = .ok v' → Told (v.note (notice c)) v'

theorem calls_tellFinished (n : ℕ) (success : Bool) :
    Calls n (.notifyFinished n success) (tellFinished n success) where
  self _ := decide_eq_true ⟨rfl, rfl⟩
  other _ _ hne := decide_eq_false fun h => hne h.2
  told := notifyFinished_told

theorem calls_tellData (n len : ℕ) : Calls n (.dataReceived n len) (tellData n len) where
  self _ := decide_eq_true ⟨rfl, rfl⟩
  other _ _ hne := decide_eq_false fun h => hne h.2
  told := dataReceived_told

/-- Of another resource no client is called. -/
theorem callClients_other {m : ℕ} (hcalls : Calls m notice call) (hm : m ≠ n)
    (h : w.callClients m call order = .ok w') : w'.toldTo n c = w.toldTo n c := by
  refine callClients_invariant (P := fun v => v.toldTo n c = w.toldTo n c) ?_ rfl h
  intro d v v' hv hcall
  exact ((toldTo_told (hcalls.told hcall)).trans
    (toldTo_note_of_not (Notice.tells_other (hcalls.self d) hm))).trans hv

theorem Calls.notified (hcalls : Calls n notice call)
    (h : w.callClients n call order = .ok w') : Notified w w' :=
  callClients_star (fun hcall => ReflTransGen.head (.called _) (notified_of_told
    (hcalls.told hcall))) h

/-- **Each client is called once**, unless it is a client no more when it is its turn; nobody else is
called. -/
theorem callClients_toldTo (hcalls : Calls n notice call) (hnodup : order.Nodup) :
    ∀ {w w' : World}, w.callClients n call order = .ok w' →
      (c ∉ order → w'.toldTo n c = w.toldTo n c) ∧
      (c ∈ order → w'.toldTo n c = w.toldTo n c ++ [notice c] ∨
        (w'.toldTo n c = w.toldTo n c ∧
          ∃ x, Notified w x ∧ Notified x w' ∧ ¬ x.HasClient n c)) := by
  induction order with
  | nil =>
    intro w w' h
    cases h
    exact ⟨fun _ => rfl, fun hc => absurd hc List.not_mem_nil⟩
  | cons d order ih =>
    intro w w' h
    obtain ⟨hd, hnodup⟩ := List.nodup_cons.mp hnodup
    have hall := hcalls.notified h
    obtain ⟨r, hr, h⟩ := bind_eq_ok.mp h
    have hr := resource_eq_ok hr
    by_cases hthere : d ∈ r.clients
    · rw [if_pos hthere] at h
      obtain ⟨w₁, hcall, h⟩ := bind_eq_ok.mp h
      have hfirst : Notified w w₁ :=
        ReflTransGen.head (.called _) (notified_of_told (hcalls.told hcall))
      obtain ⟨hout, hin⟩ := ih hnodup h
      by_cases hc : c = d
      · -- it is its turn, and it does not come again
        subst hc
        have hcalled : w₁.toldTo n c = w.toldTo n c ++ [notice c] :=
          (toldTo_told (hcalls.told hcall)).trans (toldTo_note (hcalls.self c))
        exact ⟨fun hnot => absurd List.mem_cons_self hnot,
          fun _ => .inl ((hout hd).trans hcalled)⟩
      · have hsame : w₁.toldTo n c = w.toldTo n c :=
          (toldTo_told (hcalls.told hcall)).trans
            (toldTo_note_of_not (hcalls.other c d (Ne.symm hc)))
        rw [hsame] at hout hin
        refine ⟨fun hnot => hout fun hmem => hnot (List.mem_cons_of_mem _ hmem), fun hmem => ?_⟩
        rcases hin ((List.mem_cons.mp hmem).resolve_left hc) with hone | ⟨hnone, x, hx, hx', hgone⟩
        · exact .inl hone
        · exact .inr ⟨hnone, x, hfirst.trans hx, hx', hgone⟩
    · rw [if_neg hthere] at h
      obtain ⟨hout, hin⟩ := ih hnodup h
      by_cases hc : c = d
      · subst hc
        refine ⟨fun _ => hout hd, fun _ => .inr ⟨hout hd, w, .refl, hall, ?_⟩⟩
        rintro ⟨r', hr', hmem⟩
        rw [hr] at hr'
        cases hr'
        exact hthere hmem
      · exact ⟨fun hnot => hout fun hmem => hnot (List.mem_cons_of_mem _ hmem),
          fun hmem => hin ((List.mem_cons.mp hmem).resolve_left hc)⟩

/-- A finished resource has no new clients. -/
theorem no_new_client (hfin : r.isFinished) (h : Kept n r w)
    (hc : ¬ w.HasClient n c) (htasks : Tasks w w') : ¬ w'.HasClient n c := by
  obtain ⟨r₁, hr₁, hkept⟩ := h
  have hfin₁ : r₁.isFinished := hkept.loadState.trans hfin
  rintro ⟨r', hr', hc'⟩
  obtain ⟨r₂, hr₂, hkept₂⟩ := (kept_taskStep hfin₁).star _ _ (kept_refl hr₁) htasks
  rw [hr'] at hr₂
  cases hr₂
  exact hc ⟨r₁, hr₁, hkept₂.finished hfin₁ hc'⟩

/-! ### The end of the loading -/

/-- The loading of the resource has ended, and who comes now learns that.

* `resource` — it is finished, and errored if it has failed; `ended` — it does not end again;
* `element` — the load event of an element is fired, unless the resource has failed; `link` — a
  stylesheet does not start to block; `script` — the parser does not wait for it;
* `preload` — it is not loaded again. -/
structure Over (n : ℕ) (success : Bool) (w : World) : Prop where
  resource : ∃ r, w.fetcher.documentResources n = some r ∧ r.isFinished ∧ ¬ r.isLoading ∧
    (r.errored = true ↔ success = false)
  ended : ∀ {b order w'}, w.finish n b order ≠ .ok w'
  element : ∀ {run e w'}, w.attach run e n = .ok w' → w' = w ∧ success = false ∨
    ∃ el, w.object e = .ok el ∧ w.fireEventHandlingScopes run el.eventHandlingScopes .load = .ok w'
  link : ∀ {e el w'}, w.object e = .ok el → el.resInstNum = n →
    w.blockAtFirst e = .ok w' ∨ w.onResInstNumChanged e = .ok w' → w' = w
  script : ∀ {el w'}, el.resInstNum = n → w.watchScript el = .ok w' → w'.fetcher = w.fetcher
  preload : w.fetchRes n = .ok w

/-- The loading ends as it should: it is over then and whatever happens afterwards, and each client that
was registered has got one call more, which tells it the outcome, but for elements that have left
before their turn: these have got none. -/
structure EndsWell (n : ℕ) (success : Bool) (r : Resource) (w w' : World) : Prop where
  isOver : ∀ v, Tasks w' v → Over n success v
  told : ∀ c ∈ r.clients, w'.toldTo n c = w.toldTo n c ++ [.notifyFinished n success c] ∨
    ((∃ e, c = .element e) ∧ ¬ w'.HasClient n c ∧ w'.toldTo n c = w.toldTo n c)

/-- **A finished resource is over** for all who come later. -/
theorem over_of_finished (hr : w.fetcher.documentResources n = some r) (hfin : r.isFinished)
    (herrored : r.errored = true ↔ success = false) : Over n success w := by
  have hres : w.resource n = .ok r := by rw [World.resource, hr]
  have hget : w.getResource n = .ok w := by rw [World.getResource, hr]
  have hloading : ¬ r.isLoading := by
    intro hloading
    rw [Resource.isLoading, hfin] at hloading
    cases hloading
  -- what is over cannot be finished again, and nobody waits for it any more
  constructor
  · exact ⟨r, hr, hfin, hloading, herrored⟩
  · intro b order w' h
    obtain ⟨r', hr', hloading', -⟩ := finish_cases h
    rw [hr] at hr'
    cases hr'
    exact hloading hloading'
  · intro run e w' h
    rw [attach, hres, ok_bind] at h
    rw [if_pos hfin] at h
    split_ifs at h with herr
    · cases h
      exact .inl ⟨rfl, herrored.mp herr⟩
    · obtain ⟨el, hel, h⟩ := bind_eq_ok.mp h
      exact .inr ⟨el, hel, h⟩
  · intro e el w' hel hn h
    rcases h with h | h
    · rw [blockAtFirst, hel, ok_bind] at h
      split at h
      · rw [hn, hget, ok_bind, hres, ok_bind, if_neg (not_not.mpr hfin)] at h
        split_ifs at h <;> cases h <;> rfl
      · cases h
        rfl
    · rw [onResInstNumChanged, hel, ok_bind] at h
      split at h
      · rw [hn, hget, ok_bind, hres, ok_bind, if_neg fun hall => hloading hall.1] at h
        cases h
        rfl
      · cases h
        rfl
  · intro el w' hn h
    rw [watchScript, hn, hget, ok_bind, hres, ok_bind, if_neg (not_not.mpr hfin)] at h
    split_ifs at h <;> cases h <;> rfl
  · rw [World.fetchRes, hget, ok_bind, loadIfInitial, hres, ok_bind, if_neg fun hall => hall.2 hfin]

theorem resources_of_decrement (h : w.decrementRequestCount r = .ok w') :
    w'.fetcher.documentResources = w.fetcher.documentResources := by
  rw [decrementRequestCount] at h
  split_ifs at h
  · obtain ⟨_, -, h⟩ := bind_eq_ok.mp h
    cases h
    rfl
  · cases h
    rfl

/-- The clients of a resource are told that it is over. -/
theorem toldTo_of_notifyAll {w₁ : World} (hsets : ClientSets w)
    (h : w.notifyAllFinished n success order = .ok w₁) :
    (¬ w.HasClient n c → w₁.toldTo n c = w.toldTo n c) ∧
    (w.HasClient n c → w₁.toldTo n c = w.toldTo n c ++ [.notifyFinished n success c] ∨
      (w₁.toldTo n c = w.toldTo n c ∧ ∃ x, Tasks w x ∧ Tasks x w₁ ∧ ¬ x.HasClient n c)) := by
  obtain ⟨r₁, hr₁, h⟩ := bind_eq_ok.mp h
  obtain ⟨w₂, hcount, h⟩ := bind_eq_ok.mp h
  obtain ⟨_, hperm, h⟩ := bind_eq_ok.mp h
  have hperm := check_eq_ok.mp hperm
  have hr₁ := resource_eq_ok hr₁
  have hmem : w.HasClient n c ↔ c ∈ order := by
    rw [hperm.mem_iff]
    refine ⟨fun ⟨r', hr', hc⟩ => ?_, fun hc => ⟨r₁, hr₁, hc⟩⟩
    rw [hr₁] at hr'
    cases hr'
    exact hc
  have hsame : Tasks w w₂ ∧ w₂.toldTo n c = w.toldTo n c := by
    rw [decrementRequestCount] at hcount
    split_ifs at hcount
    · obtain ⟨_, _, hcount⟩ := bind_eq_ok.mp hcount
      cases hcount
      exact ⟨.single (.counted _), rfl⟩
    · cases hcount
      exact ⟨.refl, rfl⟩
  obtain ⟨hcounted, hsame⟩ := hsame
  obtain ⟨hout, hin⟩ := callClients_toldTo (c := c) (calls_tellFinished n success)
    (hperm.nodup_iff.mpr (hsets n r₁ hr₁).1) h
  rw [hsame] at hout hin
  refine ⟨fun hnot => hout fun hc => hnot (hmem.mpr hc), fun hc => ?_⟩
  rcases hin (hmem.mp hc) with hone | ⟨hnone, x, hx, hx', hgone⟩
  · exact .inl hone
  · exact .inr ⟨hnone, x, hcounted.trans (tasks_of_notified hx), tasks_of_notified hx', hgone⟩

/-- The last request of a resource succeeds. -/
theorem endsWell_of_success (hsets : ClientSets w) (hr : w.fetcher.documentResources n = some r)
    (hreal : r.receivingRealResource) (h : w.finish n true order = .ok w') :
    EndsWell n true r w w' := by
  obtain ⟨r₀, hr₀, hloading, h⟩ := finish_cases h
  rw [hr] at hr₀
  cases hr₀
  cases h with
  | next info hnot => exact absurd hreal hnot
  | @finished w₁ _ _ hparse h =>
    -- the resource as it is when its stylesheet is parsed
    let rf : Resource := { r with
      currentReqBodyBytesRecv := 0, loadState := .finished, errored := false }
    have hfin : rf.isFinished := rfl
    have hparsed := parseIfStylesheet_scripted hparse
    have hstart : Kept n rf ((w.tellDriver (.requestFinished n r.currentReqChainIdx
        true)).setResource n rf) := kept_refl setResource_self
    have hkept₁ : Kept n rf w₁ :=
      (kept_scriptStep (show LoadState.finished ≠ .initial by decide)).star _ _ hstart hparsed
    have hkept' : Kept n rf w' :=
      (kept_taskStep hfin).star _ _ hkept₁ (notifyAllFinished_tasks h)
    have hsets₁ : ClientSets w₁ :=
      clientSets_taskStep.star _ _ hsets (finished_tasks hr hloading hparse)
    refine ⟨fun v hv => ?_, fun c hc => ?_⟩
    · obtain ⟨r', hr', hstays⟩ := (kept_taskStep hfin).star _ _ hkept' hv
      refine over_of_finished hr' (hstays.loadState.trans hfin) ?_
      rw [hstays.errored]
      exact ⟨nofun, nofun⟩
    · have hsame := toldTo_scripted (n := n) (c := c) hparsed
      change w₁.toldTo n c = w.toldTo n c at hsame
      obtain ⟨hout, hin⟩ := toldTo_of_notifyAll (c := c) hsets₁ h
      rw [hsame] at hout hin
      -- a client that is there no more is an element, as the others stay
      have hleft : ∀ {x : World}, Tasks w₁ x → Tasks x w' → ¬ x.HasClient n c →
          (∃ e, c = .element e) ∧ ¬ w'.HasClient n c := by
        intro x hx hx' hgone
        obtain ⟨r₂, hr₂, hstays⟩ := (kept_taskStep hfin).star _ _ hkept₁ hx
        refine ⟨by_contra fun hnot => hgone ?_,
          no_new_client hfin ⟨r₂, hr₂, hstays⟩ hgone hx'⟩
        exact ⟨r₂, hr₂, hstays.stay c hc fun e heq => hnot ⟨e, heq⟩⟩
      by_cases hthere : w₁.HasClient n c
      · rcases hin hthere with hone | ⟨hnone, x, hx, hx', hgone⟩
        · exact .inl hone
        · obtain ⟨helement, hnot⟩ := hleft hx hx' hgone
          exact .inr ⟨helement, hnot, hnone⟩
      · obtain ⟨helement, hnot⟩ := hleft .refl (notifyAllFinished_tasks h) hthere
        exact .inr ⟨helement, hnot, hout hthere⟩

/-- A resource that fails is still loading. -/
theorem loading_of_failure (h : w.finish n false order = .ok w') :
    ∃ r', w'.fetcher.documentResources n = some r' ∧ r'.isLoading := by
  obtain ⟨r, hr, hloading, h⟩ := finish_cases h
  cases h with
  | failed h =>
    obtain ⟨_, -, h⟩ := bind_eq_ok.mp h
    obtain ⟨w₁, hcount, h⟩ := bind_eq_ok.mp h
    obtain ⟨_, -, h⟩ := bind_eq_ok.mp h
    let rf : Resource := { r with errored := true }
    have hloaded : rf.loadState ≠ .initial := by
      intro hinitial
      exact absurd (hloading.symm.trans hinitial) (by decide)
    have hkept₁ : Kept n rf w₁ := by
      rw [Kept, resources_of_decrement hcount]
      exact kept_refl setResource_self
    obtain ⟨r', hr', hstays⟩ := Notified.invariant (P := Kept n rf) (fun hv => hv)
      (kept_clientStep hloaded) hkept₁ (callClients_star tellFinished_notified h)
    exact ⟨r', hr', hstays.loadState.trans hloading⟩

theorem not_endsWell_of_failure (h : w.finish n false order = .ok w') :
    ¬ EndsWell n false r w w' := by
  intro hends
  obtain ⟨r₁, hr₁, hloading⟩ := loading_of_failure h
  obtain ⟨r', hr', -, hnot, -⟩ := (hends.isOver w' .refl).resource
  rw [hr'] at hr₁
  cases hr₁
  exact hnot hloading

/-- **The loading of a resource ends as it should exactly when it succeeds.**  For every resource of
every page that is reached, at the success of its last request or the failure of any, and whatever
the order in which its clients are told. -/
theorem ends_well_iff {es : List PageEvent} {w₀ : World}
    (hrun : Run Renderer.Steps Renderer.start es (.page w₀)) (hmid : Tasks w₀ w)
    (hr : w.fetcher.documentResources n = some r)
    (hlast : success = true → r.receivingRealResource)
    (hfinish : w.finish n success order = .ok w') : EndsWell n success r w w' ↔ success = true := by
  have hsets : ClientSets w := clientSets_taskStep.star _ _
    (Renderer.pages_of_run clientSets_loadPage clientSets_taskStep hrun) hmid
  cases success with
  | true => exact ⟨fun _ => rfl, fun _ => endsWell_of_success hsets hr (hlast rfl) hfinish⟩
  | false => exact ⟨fun hends => absurd hends (not_endsWell_of_failure hfinish), nofun⟩

/-- A page with two images, which have one resource. -/
def twoImages : PageModel where
  resources := [
    (1, { partOfPageLoadedCheck := true, reqChain := [{ respBodySize := 10 }], type := .main }),
    (2, { partOfPageLoadedCheck := true, reqChain := [{ respBodySize := 0 }] })]
  elements := [(5, { tag := .img, initialResInstNum := 2 }),
    (6, { tag := .img, initialResInstNum := 2 })]
  htmlElementByteOffsets := [(0, 5), (9, 6)]

/-- The page is loaded as far as the first image. -/
def firstImage : List PageEvent := [.loadPage 1 twoImages 0, .message (.dataReceived 1 5)]

/-- The image fails, and then the second one comes. -/
def secondImage : List PageEvent := firstImage ++
  [.message (.requestComplete 2 false [.fetcher, .element 5]), .message (.dataReceived 1 5)]

/-- Whether there is a page that passes a test. -/
def Renderer.isPage (p : World → Bool) : Renderer → Bool
  | .blank _ => false
  | .page w => p w

theorem Renderer.exists_of_returns {es : List PageEvent} {p : World → Bool}
    (h : returns (exec step start es) (isPage p) = true) :
    ∃ w, Run Steps start es (.page w) ∧ p w = true := by
  obtain ⟨r, hr, hp⟩ := Checked.exists_of_returns h
  cases r with
  | blank engine => cases hp
  | page w => exact ⟨w, run_of_exec hr, hp⟩

/-- The image's resource, while it is loading. -/
def imageLoading : Resource where
  info := { partOfPageLoadedCheck := true, reqChain := [{ respBodySize := 0 }] }
  loadState := .loading
  currentReqChainIdx := 0
  clients := [.fetcher, .element 5]

/-- **A failed resource is waited for**: the second image is registered with the resource after that has
failed, and no request is pending that would end it. -/
theorem ends_well_fails :
    (∃ w, Run Renderer.Steps Renderer.start secondImage (.page w) ∧
      (∃ r, w.fetcher.documentResources 2 = some r ∧ r.isLoading ∧ .element 6 ∈ r.clients) ∧
      ∀ p ∈ w.engine.pendingRequests, p.2.instNum ≠ 2) ∧
    ¬ ∀ {es : List PageEvent} {w₀ w w' : World} {n : ℕ} {r : Resource} {success : Bool}
      {order : List ResourceClient}, Run Renderer.Steps Renderer.start es (.page w₀) →
      Tasks w₀ w → w.fetcher.documentResources n = some r →
      (success = true → r.receivingRealResource) → w.finish n success order = .ok w' →
      EndsWell n success r w w' := by
  constructor
  · have hreturns : returns (exec Renderer.step Renderer.start secondImage)
        (Renderer.isPage fun w =>
          decide (w.fetcher.documentResources 2 = some { imageLoading with
            errored := true, clients := [.fetcher, .element 5, .element 6] }) &&
          decide (∀ p ∈ w.engine.pendingRequests, p.2.instNum ≠ 2)) = true := by decide
    obtain ⟨w, hrun, htest⟩ := Renderer.exists_of_returns hreturns
    obtain ⟨hr, hpending⟩ := (Bool.and_eq_true _ _).mp htest
    exact ⟨w, hrun, ⟨_, of_decide_eq_true hr, rfl, by decide⟩, of_decide_eq_true hpending⟩
  · intro h
    have hreturns : returns (exec Renderer.step Renderer.start firstImage)
        (Renderer.isPage fun w =>
          decide (w.fetcher.documentResources 2 = some imageLoading) &&
          returns ((w.erasePending 2).finish 2 false [.fetcher, .element 5]) fun _ => true) = true := by
      decide
    obtain ⟨w, hrun, htest⟩ := Renderer.exists_of_returns hreturns
    obtain ⟨hr, hfinish⟩ := (Bool.and_eq_true _ _).mp htest
    obtain ⟨w', hfinish, -⟩ := Checked.exists_of_returns hfinish
    exact not_endsWell_of_failure hfinish
      (h hrun (.single (.erased 2)) (of_decide_eq_true hr) nofun hfinish)

/-- The image succeeds. -/
theorem ends_well_iff_succeeds : ∃ w w', EndsWell 2 true imageLoading w w' := by
  have hreturns : returns (exec Renderer.step Renderer.start firstImage)
      (Renderer.isPage fun w =>
        decide (w.fetcher.documentResources 2 = some imageLoading) &&
        returns ((w.erasePending 2).finish 2 true [.element 5, .fetcher]) fun _ => true) = true := by
    decide
  obtain ⟨w, hrun, htest⟩ := Renderer.exists_of_returns hreturns
  obtain ⟨hr, hfinish⟩ := (Bool.and_eq_true _ _).mp htest
  obtain ⟨w', hfinish, -⟩ := Checked.exists_of_returns hfinish
  exact ⟨_, w', (ends_well_iff hrun (.single (.erased 2)) (of_decide_eq_true hr)
    (fun _ => by decide) hfinish).mpr rfl⟩

end ShadowBrowser.Blink
