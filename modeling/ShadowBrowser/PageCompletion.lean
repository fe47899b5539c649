/-
When a page is complete.

The fetcher counts the resources that the page waits for: `load` adds one, and the resource's success
or failure takes one away.  Whether the page is complete is looked at by a timer, which is started
when the count may have come to zero and when the end of the document is reported.

* `Ledger` — the pending requests are those of resources that are in progress, one for each;
* `Tally` — the count is the number of resources in progress that count, but for one whose end is
  about to be counted;
* `Due` — if the page may be complete the timer is running;
* `Onward` — what scripts and clients do: they may start loads, and never end one;
* **`page_accounts`** — the count is exact and the timer never missing, and the page is found complete
  only with the document parsed and nothing in progress.
-/
import ShadowBrowser.Counting
import ShadowBrowser.Lifecycle

namespace ShadowBrowser.Blink

open Checked Runs Relation Counting World

/-- The resource counts for the page, has been loaded, and has neither succeeded nor failed. -/
def Resource.InProgress (r : Resource) : Prop :=
  r.info.partOfPageLoadedCheck = true ∧ r.loadState = .loading ∧ r.errored = false

instance : DecidablePred Resource.InProgress := fun _ => inferInstanceAs (Decidable (_ ∧ _))

/-! ### Requests and resources -/

/-- The pending requests are those of resources that are in progress, one for each. -/
structure Ledger (resources : ℕ → Option Resource) (pending : List (ℕ × ResourceRef)) : Prop where
  unloaded : ∀ n r, resources n = some r → r.loadState = .initial → r.errored = false
  fetcher : ∀ n r, resources n = some r → ResourceClient.fetcher ∈ r.clients
  loading : ∀ p ∈ pending, ∃ r, resources p.2.instNum = some r ∧ r.loadState = .loading ∧
    r.errored = false
  nodup : (pending.map fun p => p.2.instNum).Nodup

namespace Ledger

variable {resources : ℕ → Option Resource} {pending : List (ℕ × ResourceRef)} {n : ℕ}
  {r : Resource}

/-- A resource is changed; if a request is pending for it, it stays in progress. -/
theorem update (h : Ledger resources pending)
    (hunloaded : r.loadState = .initial → r.errored = false)
    (hfetcher : ResourceClient.fetcher ∈ r.clients)
    (hpending : ∀ p ∈ pending, p.2.instNum = n → r.loadState = .loading ∧ r.errored = false) :
    Ledger (Function.update resources n (some r)) pending where
  unloaded m r' hr' := by
    by_cases hm : m = n
    · rw [hm, Function.update_self] at hr'
      cases hr'
      exact hunloaded
    · rw [Function.update_of_ne hm] at hr'
      exact h.unloaded m r' hr'
  fetcher m r' hr' := by
    by_cases hm : m = n
    · rw [hm, Function.update_self] at hr'
      cases hr'
      exact hfetcher
    · rw [Function.update_of_ne hm] at hr'
      exact h.fetcher m r' hr'
  loading p hp := by
    by_cases hm : p.2.instNum = n
    · rw [hm, Function.update_self]
      exact ⟨r, rfl, hpending p hp hm⟩
    · rw [Function.update_of_ne hm]
      exact h.loading p hp
  nodup := h.nodup

/-- A request is issued for a resource for which none is pending. -/
theorem issue (h : Ledger resources pending) (hr : resources n = some r)
    (hloading : r.loadState = .loading) (herrored : r.errored = false)
    (hnone : ∀ p ∈ pending, p.2.instNum ≠ n) (id gen : ℕ) :
    Ledger resources (pending ++ [(id, ⟨gen, n⟩)]) where
  unloaded := h.unloaded
  fetcher := h.fetcher
  loading p hp := by
    rcases List.mem_append.mp hp with hp | hp
    · exact h.loading p hp
    · cases List.mem_singleton.mp hp
      exact ⟨r, hr, hloading, herrored⟩
  nodup := by
    rw [List.map_append, List.map_singleton, List.nodup_append]
    refine ⟨h.nodup, List.nodup_singleton _, ?_⟩
    intro a ha b hb
    obtain ⟨p, hp, rfl⟩ := List.mem_map.mp ha
    cases List.mem_singleton.mp hb
    exact hnone p hp

theorem filter (h : Ledger resources pending) (q : ℕ × ResourceRef → Bool) :
    Ledger resources (pending.filter q) where
  unloaded := h.unloaded
  fetcher := h.fetcher
  loading p hp := h.loading p (List.mem_filter.mp hp).1
  nodup := h.nodup.sublist (List.filter_sublist.map _)

end Ledger

/-- The count is the number of resources in progress, and `extra`. -/
structure Tally (extra : ℤ) (w : World) : Prop where
  ledger : Ledger w.fetcher.documentResources w.engine.pendingRequests
  count : CountIs Resource.InProgress w.fetcher.documentResources (w.fetcher.requestCount - extra)

namespace Tally

variable {w w' : World} {n : ℕ} {r r' : Resource} {extra : ℤ}

theorem nonneg (h : Tally extra w) : extra ≤ w.fetcher.requestCount := by
  have := h.count.nonneg
  omega

/-- A resource is changed in what does not matter here. -/
theorem change (h : Tally extra w) (hr : w.fetcher.documentResources n = some r)
    (hinfo : r'.info = r.info) (hstate : r'.loadState = r.loadState)
    (herrored : r'.errored = r.errored) (hfetcher : ResourceClient.fetcher ∈ r'.clients) :
    Tally extra (w.setResource n r') := by
  constructor
  · refine h.ledger.update ?_ hfetcher ?_
    · rw [hstate, herrored]
      exact h.ledger.unloaded n r hr
    · intro p hp hn
      obtain ⟨r₁, hr₁, hloading⟩ := h.ledger.loading p hp
      rw [hn, hr] at hr₁
      cases hr₁
      rw [hstate, herrored]
      exact hloading
  · refine h.count.keep ?_
    simp only [hr, Option.some.injEq, exists_eq_left', Resource.InProgress, hinfo, hstate, herrored]

/-- A resource is made. -/
theorem make (h : Tally extra w) (hnone : w.fetcher.documentResources n = none)
    (hstate : r.loadState = .initial) (herrored : r.errored = false)
    (hfetcher : ResourceClient.fetcher ∈ r.clients) : Tally extra (w.setResource n r) := by
  constructor
  · refine h.ledger.update (fun _ => herrored) hfetcher ?_
    intro p hp hn
    obtain ⟨r₁, hr₁, _⟩ := h.ledger.loading p hp
    rw [hn, hnone] at hr₁
    cases hr₁
  · refine h.count.keep ?_
    simp [hnone, Resource.InProgress, hstate]

/-- A resource starts loading. -/
theorem load (h : Tally extra w) (hr : w.fetcher.documentResources n = some r)
    (hinitial : r.loadState = .initial) (info : RequestInfo) :
    Tally extra ((w.incrementRequestCount r).issued n { r with loadState := .loading } info) := by
  have herrored := h.ledger.unloaded n r hr hinitial
  -- a resource in the initial state has no request on its way
  have hnone : ∀ p ∈ w.engine.pendingRequests, p.2.instNum ≠ n := by
    intro p hp hn
    obtain ⟨r₁, hr₁, hloading, _⟩ := h.ledger.loading p hp
    rw [hn, hr] at hr₁
    cases hr₁
    rw [hinitial] at hloading
    cases hloading
  have hledger := (h.ledger.update (n := n)
    (r := { r with loadState := .loading, currentReqChainIdx := r.currentReqChainIdx + 1 })
    (fun h => by cases h) (h.ledger.fetcher n r hr)
    fun p hp hn => absurd hn (hnone p hp)).issue (Function.update_self ..) rfl herrored hnone
      w.engine.nextRequestId w.fetcher.gen
  have hbefore : ¬ ∃ a, w.fetcher.documentResources n = some a ∧ a.InProgress := by
    rintro ⟨a, ha, _, hloading, _⟩
    rw [hr] at ha
    cases ha
    rw [hinitial] at hloading
    cases hloading
  rw [World.incrementRequestCount]
  split
  · -- it counts from now on if it is a part of the page
    next hpart =>
    refine ⟨hledger, ?_⟩
    have hcount := h.count.set ⟨{ r with loadState := .loading, currentReqChainIdx :=
      r.currentReqChainIdx + 1 }, rfl, hpart, rfl, herrored⟩ hbefore
    have heq : w.fetcher.requestCount + 1 - extra = w.fetcher.requestCount - extra + 1 := by omega
    change CountIs _ _ (w.fetcher.requestCount + 1 - extra)
    rw [heq]
    exact hcount
  · next hpart =>
    refine ⟨hledger, h.count.keep ?_⟩
    refine ⟨?_, fun h => absurd h hbefore⟩
    rintro ⟨a, ha, ha', _⟩
    cases ha
    exact absurd ha' hpart

/-- The next request of a chain. -/
theorem next (h : Tally extra w) (hr : w.fetcher.documentResources n = some r)
    (hloading : r.loadState = .loading) (herrored : r.errored = false)
    (hnone : ∀ p ∈ w.engine.pendingRequests, p.2.instNum ≠ n) (info : RequestInfo) :
    Tally extra (w.issued n r info) := by
  have hchange : Tally extra (w.setResource n
      { r with currentReqChainIdx := r.currentReqChainIdx + 1 }) :=
    h.change hr rfl rfl rfl (h.ledger.fetcher n r hr)
  exact ⟨hchange.ledger.issue setResource_self hloading herrored hnone _ _, hchange.count⟩

/-- A resource is no longer in progress; the count does not know it yet. -/
theorem leave (h : Tally extra w) (hr : w.fetcher.documentResources n = some r)
    (hloading : r.loadState = .loading) (herrored : r.errored = false)
    (hnone : ∀ p ∈ w.engine.pendingRequests, p.2.instNum ≠ n) (hclients : r'.clients = r.clients)
    (hover : r'.loadState ≠ .initial ∧ ¬ r'.InProgress) :
    Tally (if r.info.partOfPageLoadedCheck = true then extra + 1 else extra)
      (w.setResource n r') := by
  have hledger := h.ledger.update (n := n) (r := r') (fun h => absurd h hover.1)
    (by rw [hclients]; exact h.ledger.fetcher n r hr) fun p hp hn => absurd hn (hnone p hp)
  have hafter : ¬ ∃ a, some r' = some a ∧ a.InProgress := by
    rintro ⟨a, ha, ha'⟩
    cases ha
    exact hover.2 ha'
  split
  · next hpart =>
    refine ⟨hledger, ?_⟩
    have hcount := h.count.clear hafter ⟨r, hr, hpart, hloading, herrored⟩
    have heq : w.fetcher.requestCount - (extra + 1) = w.fetcher.requestCount - extra - 1 := by omega
    change CountIs _ _ (w.fetcher.requestCount - (extra + 1))
    rw [heq]
    exact hcount
  · next hpart =>
    refine ⟨hledger, h.count.keep ⟨fun h => absurd h hafter, ?_⟩⟩
    rintro ⟨a, ha, ha', _⟩
    rw [hr] at ha
    cases ha
    exact absurd ha' hpart

end Tally

/-! ### The timer -/

/-- The page is loading, and nothing is in progress: it has been noted that it is to be looked at. -/
def Noted (w : World) : Prop :=
  w.engine.state = .pageLoading → w.fetcher.requestCount = 0 → w.engine.checkCompletedTimer = true

/-- If the page may be complete the timer is running. -/
def Due (w : World) : Prop := w.document.finishedParsing = true → Noted w

theorem noted_checkCompleted (w : World) : Noted w.checkCompleted := by
  intro hstate hcount
  rw [checkCompleted] at hstate hcount ⊢
  split_ifs at hstate hcount ⊢ with h
  · rfl
  · exact absurd ⟨hstate, hcount⟩ h

/-- What scripts and clients do: they may start loads, and never end one. -/
structure Onward (w w' : World) : Prop where
  tally : ∀ {extra : ℤ}, Tally extra w → Tally extra w'
  state : w'.engine.state = w.engine.state
  count : w.fetcher.requestCount ≤ w'.fetcher.requestCount
  timer : w.engine.checkCompletedTimer = true → w'.engine.checkCompletedTimer = true
  finished : 0 ≤ w.fetcher.requestCount → w'.document.finishedParsing = true →
    w.document.finishedParsing = true ∨ Noted w'
  info : ∀ n r, w.fetcher.documentResources n = some r →
    ∃ r', w'.fetcher.documentResources n = some r' ∧ r'.info = r.info

namespace Onward

variable {w w₁ w' : World} {n : ℕ} {r r' : Resource} {extra : ℤ}

/-- What has been noted stays so. -/
theorem noted (h : Onward w w') (hcount : 0 ≤ w.fetcher.requestCount) (hw : Noted w) : Noted w' := by
  intro hstate hzero
  have hbefore : w.fetcher.requestCount = 0 := by
    have := h.count
    omega
  exact h.timer (hw (h.state ▸ hstate) hbefore)

theorem trans (h : Onward w w₁) (h' : Onward w₁ w') : Onward w w' where
  tally htally := h'.tally (h.tally htally)
  state := h'.state.trans h.state
  count := h.count.trans h'.count
  timer htimer := h'.timer (h.timer htimer)
  finished hcount hfinished := by
    rcases h'.finished (hcount.trans h.count) hfinished with hfinished | hnoted
    · exact (h.finished hcount hfinished).imp_right (h'.noted (hcount.trans h.count))
    · exact .inr hnoted
  info n r hr := by
    obtain ⟨r₁, hr₁, hinfo⟩ := h.info n r hr
    obtain ⟨r', hr', hinfo'⟩ := h'.info n r₁ hr₁
    exact ⟨r', hr', hinfo'.trans hinfo⟩

theorem due (h : Onward w w') (hcount : 0 ≤ w.fetcher.requestCount) (hw : Due w) : Due w' := by
  intro hfinished
  rcases h.finished hcount hfinished with hfinished | hnoted
  · exact h.noted hcount (hw hfinished)
  · exact hnoted

/-- What neither the count nor the timer depends on is changed. -/
theorem frame (hresources : w'.fetcher.documentResources = w.fetcher.documentResources)
    (hcount : w'.fetcher.requestCount = w.fetcher.requestCount)
    (hpending : w'.engine.pendingRequests = w.engine.pendingRequests)
    (hstate : w'.engine.state = w.engine.state)
    (htimer : w'.engine.checkCompletedTimer = w.engine.checkCompletedTimer)
    (hfinished : w'.document.finishedParsing = w.document.finishedParsing) : Onward w w' where
  tally htally := by
    constructor
    · rw [hresources, hpending]
      exact htally.ledger
    · rw [hresources, hcount]
      exact htally.count
  state := hstate
  count := le_of_eq hcount.symm
  timer h := htimer.trans h
  finished _ h := .inl (hfinished ▸ h)
  info n r hr := ⟨r, (congrFun hresources n).trans hr, rfl⟩

theorem refl (w : World) : Onward w w := frame rfl rfl rfl rfl rfl rfl

theorem info_setResource (h : ∀ r, w.fetcher.documentResources n = some r → r'.info = r.info) (m : ℕ)
    (r : Resource) (hr : w.fetcher.documentResources m = some r) :
    ∃ r₁, (w.setResource n r').fetcher.documentResources m = some r₁ ∧ r₁.info = r.info := by
  by_cases hm : m = n
  · subst hm
    exact ⟨r', setResource_self, h r hr⟩
  · exact ⟨r, (setResource_of_ne hm).trans hr, rfl⟩

/-- A resource is changed in what does not matter here. -/
theorem change (r' : Resource) (hr : w.fetcher.documentResources n = some r)
    (hinfo : r'.info = r.info) (hstate : r'.loadState = r.loadState)
    (herrored : r'.errored = r.errored)
    (hfetcher : ResourceClient.fetcher ∈ r.clients → ResourceClient.fetcher ∈ r'.clients) :
    Onward w (w.setResource n r') where
  tally htally := htally.change hr hinfo hstate herrored (hfetcher (htally.ledger.fetcher n r hr))
  state := rfl
  count := le_refl _
  timer h := h
  finished _ h := .inl h
  info := info_setResource fun r₁ hr₁ => by
    rw [hr] at hr₁
    cases hr₁
    exact hinfo

theorem checkCompleted (w : World) : Onward w w.checkCompleted := by
  have hsame : w.checkCompleted.fetcher = w.fetcher ∧
      w.checkCompleted.engine.pendingRequests = w.engine.pendingRequests ∧
      w.checkCompleted.engine.state = w.engine.state := by
    rw [World.checkCompleted]
    split <;> exact ⟨rfl, rfl, rfl⟩
  obtain ⟨hfetcher, hpending, hstate⟩ := hsame
  refine ⟨fun htally => ?_, hstate, le_of_eq (by rw [hfetcher]), ?_, ?_, ?_⟩
  · constructor
    · rw [hfetcher, hpending]
      exact htally.ledger
    · rw [hfetcher]
      exact htally.count
  · rw [World.checkCompleted]
    split
    · exact fun _ => rfl
    · exact id
  · exact fun _ _ => .inr (noted_checkCompleted w)
  · rw [hfetcher]
    exact fun n r hr => ⟨r, hr, rfl⟩

theorem info_issued {m : ℕ} {r₁ : Resource} {info : RequestInfo}
    (hr : w.fetcher.documentResources m = some r₁) (hr' : w.fetcher.documentResources n = some r) :
    ∃ r', (w.issued m { r₁ with loadState := .loading } info).fetcher.documentResources n = some r' ∧
      r'.info = r.info := by
  by_cases hn : n = m
  · subst hn
    rw [hr] at hr'
    cases hr'
    exact ⟨_, issued_self, rfl⟩
  · exact ⟨r, (issued_of_ne hn).trans hr', rfl⟩

theorem scriptStep (h : ScriptStep w w') : Onward w w' := by
  cases h with
  | made hnone _ =>
    refine ⟨fun htally => htally.make hnone rfl rfl (List.mem_singleton.mpr rfl), rfl, le_refl _, ?_,
      ?_, info_setResource fun r hr => ?_⟩
    · exact id
    · exact fun _ => .inl
    · rw [hnone] at hr
      cases hr
  | @loaded m r info hr hinitial _ =>
    refine ⟨fun htally => htally.load hr hinitial info, ?_, ?_, ?_, ?_, fun m' r' hr' => ?_⟩ <;>
      rw [incrementRequestCount] <;> split
    · rfl
    · rfl
    · exact Int.le_add_one (le_refl w.fetcher.requestCount)
    · exact le_refl w.fetcher.requestCount
    · exact id
    · exact id
    · exact fun _ => .inl
    · exact fun _ => .inl
    · exact info_issued hr hr'
    · exact info_issued hr hr'
  | clients clients hr hstay _ _ =>
    exact change _ hr rfl rfl rfl fun h => hstay h
  | @removed n r e hr =>
    have hleft : Onward w (w.setResource n { r with
        clients := r.clients.filter (· ≠ .element e) }) :=
      change _ hr rfl rfl rfl fun h => List.mem_filter.mpr ⟨h, rfl⟩
    exact hleft.trans (frame rfl rfl rfl rfl rfl rfl)
  | updates _ => exact frame rfl rfl rfl rfl rfl rfl
  | engine _ _ _ _ => exact frame rfl rfl rfl rfl rfl rfl
  | document _ _ _ _ => exact frame rfl rfl rfl rfl rfl rfl
  | parser _ _ => exact frame rfl rfl rfl rfl rfl rfl

/-- What goes on step by step goes on. -/
theorem star {s : World → World → Prop} (hs : ∀ {v v'}, s v v' → Onward v v')
    (h : ReflTransGen s w w') : Onward w w' := by
  induction h with
  | refl => exact refl w
  | tail _ hstep ih => exact ih.trans (hs hstep)

theorem scripted (h : Scripted w w') : Onward w w' := star scriptStep h

theorem clientStep (h : ClientStep w w') : Onward w w' := by
  cases h with
  | script h => exact scriptStep h
  | parser _ => exact frame rfl rfl rfl rfl rfl rfl
  | document _ _ _ => exact frame rfl rfl rfl rfl rfl rfl
  | ended h =>
    obtain ⟨w₁, hscripted, rfl⟩ := finishedParsing_cases h
    have hpage : Onward { w with document := { w.document with finishedParsing := true } }
        w₁.checkCompleted := (scripted hscripted).trans (checkCompleted w₁)
    -- that the page is to be looked at is noted last
    exact ⟨fun htally => hpage.tally ⟨htally.ledger, htally.count⟩, hpage.state, hpage.count,
      hpage.timer, fun _ _ => .inr (noted_checkCompleted w₁), hpage.info⟩
  | checked => exact checkCompleted w
  | forced _ => exact frame rfl rfl rfl rfl rfl rfl

theorem told (h : Told w w') : Onward w w' := star clientStep h

theorem notified (h : Notified w w') : Onward w w' :=
  star (fun h => by
    cases h with
    | called m => exact frame rfl rfl rfl rfl rfl rfl
    | client h => exact clientStep h) h

end Onward

/-! ### What the io service says -/

variable {w w₁ w' : World} {n : ℕ} {r r' : Resource} {extra : ℤ} {order : List ResourceClient}
  {success : Bool}

/-- The resources are counted, and the page is looked at in time. -/
structure Accounted (w : World) : Prop where
  tally : Tally 0 w
  due : Due w

theorem Accounted.onward (hw : Accounted w) (h : Onward w w') : Accounted w' :=
  ⟨h.tally hw.tally, h.due hw.tally.nonneg hw.due⟩

/-- The fetcher is told sooner or later. -/
theorem noted_of_callClients (hmem : ResourceClient.fetcher ∈ order) :
    ∀ {w w' : World}, Tally 0 w → w.callClients n (tellFinished n success) order = .ok w' →
      Noted w' := by
  induction order with
  | nil => cases hmem
  | cons c order ih =>
    intro w w' htally h
    obtain ⟨r, hr, h⟩ := bind_eq_ok.mp h
    by_cases hc : c = .fetcher
    · subst hc
      rw [if_pos (htally.ledger.fetcher n r (resource_eq_ok hr))] at h
      have hcalled : Tally 0 (w.note (.notifyFinished n success .fetcher)) :=
        (Onward.notified (.single (.called _))).tally htally
      exact (Onward.notified (callClients_star tellFinished_notified h)).noted
        ((Onward.checkCompleted _).tally hcalled).nonneg (noted_checkCompleted _)
    · have hlater : ResourceClient.fetcher ∈ order :=
        (List.mem_cons.mp hmem).resolve_left fun heq => hc heq.symm
      split_ifs at h
      · obtain ⟨w₁, htell, h⟩ := bind_eq_ok.mp h
        exact ih hlater ((Onward.notified (tellFinished_notified htell)).tally htally) h
      · exact ih hlater htally h

/-- The count is taken down when a resource is over, and is not below zero then. -/
theorem decrementRequestCount_ok
    (h : Tally (if r.info.partOfPageLoadedCheck = true then 1 else 0) w) :
    ∃ w', w.decrementRequestCount r = .ok w' ∧ Tally 0 w' := by
  rw [decrementRequestCount]
  split_ifs at h ⊢
  · have hpos := h.nonneg
    rw [check_pos (by omega)]
    refine ⟨_, rfl, h.ledger, ?_⟩
    rw [Int.sub_zero]
    exact h.count
  · exact ⟨w, rfl, h⟩

theorem accounted_of_notifyAll
    (htally : Tally (if r.info.partOfPageLoadedCheck = true then 1 else 0) w)
    (hinfo : ∀ r', w.fetcher.documentResources n = some r' → r'.info = r.info)
    (h : w.notifyAllFinished n success order = .ok w') : Accounted w' := by
  obtain ⟨r', hr', h⟩ := bind_eq_ok.mp h
  have hr' := resource_eq_ok hr'
  obtain ⟨w₁, hcount, h⟩ := bind_eq_ok.mp h
  obtain ⟨_, hperm, h⟩ := bind_eq_ok.mp h
  rw [← hinfo r' hr'] at htally
  obtain ⟨w₂, hcount₂, htally₁⟩ := decrementRequestCount_ok htally
  rw [hcount] at hcount₂
  cases hcount₂
  have hmem : ResourceClient.fetcher ∈ order :=
    (check_eq_ok.mp hperm).mem_iff.mpr (htally.ledger.fetcher n r' hr')
  exact ⟨(Onward.notified (callClients_star tellFinished_notified h)).tally htally₁,
    fun _ => noted_of_callClients hmem htally₁ h⟩

/-- A resource is over, and its clients are told. -/
theorem accounted_of_over (r' : Resource) (hw : Tally 0 w) (hr : w.fetcher.documentResources n = some r)
    (hloading : r.loadState = .loading) (herrored : r.errored = false)
    (hnone : ∀ p ∈ w.engine.pendingRequests, p.2.instNum ≠ n) (hclients : r'.clients = r.clients)
    (hinfo : r'.info = r.info) (hover : r'.loadState ≠ .initial ∧ ¬ r'.InProgress)
    (hscripted : Scripted (w.setResource n r') w₁)
    (h : w₁.notifyAllFinished n success order = .ok w') : Accounted w' := by
  have honward := Onward.scripted hscripted
  refine accounted_of_notifyAll (r := r)
    (honward.tally (hw.leave hr hloading herrored hnone hclients hover)) ?_ h
  intro r₂ hr₂
  obtain ⟨r₃, hr₃, hinfo₃⟩ := honward.info n r' setResource_self
  rw [hr₂] at hr₃
  cases hr₃
  exact hinfo₃.trans hinfo

/-- **A request is over.** -/
theorem Accounted.finish (hw : Accounted w) (hr : w.fetcher.documentResources n = some r)
    (herrored : r.errored = false) (hnone : ∀ p ∈ w.engine.pendingRequests, p.2.instNum ≠ n)
    (h : w.finish n success order = .ok w') : Accounted w' := by
  obtain ⟨r₀, hr₀, hloading, hfinish⟩ := finish_cases h
  rw [hr] at hr₀
  cases hr₀
  have htold : ∀ m, Accounted (w.tellDriver m) :=
    fun m => hw.onward (.frame rfl rfl rfl rfl rfl rfl)
  cases hfinish with
  | finished _ hparse hnotify =>
    refine accounted_of_over
      { r with currentReqBodyBytesRecv := 0, loadState := .finished, errored := false }
      (htold _).tally hr hloading herrored hnone rfl rfl ?_ (parseIfStylesheet_scripted hparse) hnotify
    exact ⟨nofun, fun h => nomatch h.2.1⟩
  | next info _ =>
    have hreceived := (htold (.requestFinished n r.currentReqChainIdx true)).onward
      (.change { r with currentReqBodyBytesRecv := 0 } hr rfl rfl rfl id)
    exact ⟨hreceived.tally.next setResource_self hloading herrored hnone info, hreceived.due⟩
  | failed hnotify =>
    refine accounted_of_over { r with errored := true } (htold _).tally hr hloading herrored hnone
      rfl rfl ?_ .refl hnotify
    exact ⟨by rw [hloading]; nofun, fun h => nomatch h.2.2⟩

theorem Accounted.handleRequestComplete {reqId : ℕ} (hw : Accounted w)
    (h : w.handleRequestComplete reqId success order = .ok (.page w')) : Accounted w' := by
  rw [World.handleRequestComplete] at h
  split at h
  · cases h
    exact hw
  · next ref hlookup =>
    obtain ⟨_, _, h⟩ := bind_eq_ok.mp h
    dsimp only at h
    split_ifs at h
    · cases h
    · obtain ⟨w₁, hfinish, h⟩ := bind_eq_ok.mp h
      obtain ⟨w₂, htask, h⟩ := bind_eq_ok.mp h
      obtain ⟨w₃, hforce, h⟩ := bind_eq_ok.mp h
      cases h
      obtain ⟨l₁, l₂, heq, -⟩ := List.lookup_eq_some_iff.mp hlookup
      have hmem : (reqId, ref) ∈ w.engine.pendingRequests := by
        rw [heq]
        exact List.mem_append_right _ List.mem_cons_self
      obtain ⟨r, hr, _, herrored⟩ := hw.tally.ledger.loading _ hmem
      have herased : Accounted (w.erasePending reqId) :=
        ⟨⟨hw.tally.ledger.filter _, hw.tally.count⟩, hw.due⟩
      -- of one resource there is one request, which is no longer pending
      have hnone : ∀ p ∈ (w.erasePending reqId).engine.pendingRequests,
          p.2.instNum ≠ ref.instNum := by
        intro p hp hn
        obtain ⟨hp, hid⟩ := List.mem_filter.mp hp
        have hsame := List.inj_on_of_nodup_map hw.tally.ledger.nodup hp hmem hn
        rw [hsame] at hid
        exact of_decide_eq_true hid rfl
      have hafter : Onward w₁ w' := (Onward.scripted (doEndOfTaskWork_scripted htask)).trans
        (.told (maybeLoadUnloadedResources_told hforce))
      exact (herased.finish hr herrored hnone hfinish).onward hafter

/-! ### The events -/

theorem Accounted.message {m : ResourceMsg} (hw : Accounted w)
    (h : Renderer.pageMessage w m = .ok (.page w')) : Accounted w' := by
  -- messages change one resource and start tasks; only an end can finish a resource
  cases m with
  | receivedResponse id firstByteTimeMs =>
    obtain ⟨w₁, hm, h⟩ := bind_eq_ok.mp h
    cases h
    rw [handleReceivedResponse] at hm
    split at hm
    · cases hm
      exact hw
    · obtain ⟨_, _, hm⟩ := bind_eq_ok.mp hm
      obtain ⟨w₂, hmeta, hm⟩ := bind_eq_ok.mp hm
      refine hw.onward (Onward.trans ?_ (.scripted (doEndOfTaskWork_scripted hm)))
      obtain ⟨r, hr, hmeta⟩ := bind_eq_ok.mp hmeta
      split_ifs at hmeta
      · obtain ⟨_, _, hmeta⟩ := bind_eq_ok.mp hmeta
        cases hmeta
        exact .change _ (resource_eq_ok hr) rfl rfl rfl fun h => h
      · cases hmeta
        exact .refl w
  | dataReceived id length =>
    obtain ⟨w₁, hm, h⟩ := bind_eq_ok.mp h
    cases h
    rw [handleDataReceived] at hm
    split at hm
    · cases hm
      exact hw
    · obtain ⟨_, _, hm⟩ := bind_eq_ok.mp hm
      obtain ⟨w₂, hdata, hm⟩ := bind_eq_ok.mp hm
      refine hw.onward (Onward.trans ?_ (.scripted (doEndOfTaskWork_scripted hm)))
      obtain ⟨r, hr, hdata⟩ := appendData_notified hdata
      exact Onward.trans (.change
        { r with currentReqBodyBytesRecv := r.currentReqBodyBytesRecv + length }
        hr rfl rfl rfl fun h => h) (.notified hdata)
  | requestComplete id success order => exact hw.handleRequestComplete h

/-- What the timer finds: the page is complete, or nothing happens. -/
theorem checkCompletedTimerFired_cases (h : w.checkCompletedTimerFired = .ok w') :
    (w.engine.state = .pageLoading ∧ w.document.finishedParsing = true ∧
      w.fetcher.requestCount = 0 ∧
      pageCompleted { w with engine := { w.engine with checkCompletedTimer := false } } = .ok w') ∨
    ¬ (w.engine.state = .pageLoading ∧ w.document.finishedParsing = true ∧
      w.fetcher.requestCount = 0) ∧
      w' = { w with engine := { w.engine with checkCompletedTimer := false } } := by
  obtain ⟨_, _, h⟩ := bind_eq_ok.mp h
  dsimp only at h
  split_ifs at h with hcomplete
  · exact .inl ⟨hcomplete.1, hcomplete.2.1, hcomplete.2.2, h⟩
  · cases h
    exact .inr ⟨hcomplete, rfl⟩

/-- Once the page is complete, the engine is idle and the driver is told. -/
theorem pageCompleted_cases (h : w.pageCompleted = .ok w') :
    ∃ w₁ r, Onward w w₁ ∧ Told (tellDriver { w₁ with engine := { w₁.engine with state := .idle } }
      (.pageLoaded w₁.engine.currentLoadId
        ((r : Resource).firstByteTimeMs - w₁.engine.startLoadTimeMs))) w' := by
  obtain ⟨w₁, hcomplete, h⟩ := bind_eq_ok.mp h
  obtain ⟨r, _, h⟩ := bind_eq_ok.mp h
  have hready : Onward w { w with document := { w.document with readyState := .complete } } :=
    .frame rfl rfl rfl rfl rfl rfl
  exact ⟨w₁, r, hready.trans (.scripted (completeDocument_cases hcomplete)),
    maybeLoadUnloadedResources_told h⟩

/-- An idle engine has nothing to look at. -/
theorem due_of_idle (h : w.engine.state = .idle) : Due w := by
  intro _ hstate
  rw [h] at hstate
  cases hstate

theorem Accounted.checkCompletedTimerFired (hw : Accounted w)
    (h : w.checkCompletedTimerFired = .ok w') : Accounted w' := by
  rcases checkCompletedTimerFired_cases h with ⟨_, _, _, h⟩ | ⟨hnot, rfl⟩
  · obtain ⟨w₁, r, honward, htold⟩ := pageCompleted_cases h
    have htally₁ := honward.tally ⟨hw.tally.ledger, hw.tally.count⟩
    have hidle : Accounted (tellDriver { w₁ with engine := { w₁.engine with state := .idle } }
        (.pageLoaded w₁.engine.currentLoadId (r.firstByteTimeMs - w₁.engine.startLoadTimeMs))) :=
      ⟨⟨htally₁.ledger, htally₁.count⟩, due_of_idle rfl⟩
    exact hidle.onward (.told htold)
  · refine ⟨⟨hw.tally.ledger, hw.tally.count⟩, fun hfinished hstate hcount => ?_⟩
    exact absurd ⟨hstate, hfinished, hcount⟩ hnot

theorem Accounted.pageStep {e : PageEvent} (hw : Accounted w)
    (h : Renderer.pageStep w e = .ok (.page w')) : Accounted w' := by
  cases e with
  | loadPage loadId model timeMs => cases h
  | reset => cases h
  | message m => exact hw.message h
  | resumeTimer =>
    obtain ⟨w₁, hw₁, h⟩ := bind_eq_ok.mp h
    cases h
    exact hw.onward (.told (resumeTimerFired_told hw₁))
  | scriptsTimer =>
    obtain ⟨w₁, hw₁, h⟩ := bind_eq_ok.mp h
    cases h
    exact hw.onward (.told (scriptsTimerFired_told hw₁))
  | checkCompletedTimer =>
    obtain ⟨w₁, hw₁, h⟩ := bind_eq_ok.mp h
    cases h
    exact hw.checkCompletedTimerFired hw₁
  | domTimer timerID =>
    obtain ⟨w₁, hw₁, h⟩ := bind_eq_ok.mp h
    cases h
    exact hw.onward (.scripted (domTimerFired_scripted hw₁))

/-! ### Runs -/

theorem scriptStep_finishedParsing (w w' : World) (h : ScriptStep w w') :
    w'.document.finishedParsing = w.document.finishedParsing := by
  cases h with
  | @loaded _ r _ _ _ _ =>
    rw [incrementRequestCount]
    split <;> rfl
  | _ => rfl

/-- A script does not end the document. -/
theorem scripted_finishedParsing (h : Scripted w w') :
    w'.document.finishedParsing = w.document.finishedParsing :=
  star_invariant (f := fun w : World => w.document.finishedParsing) scriptStep_finishedParsing h

theorem accounted_loadPage {engine : Webengine} {loadId timeMs : ℕ} {model : PageModel}
    (hpending : engine.pendingRequests = [])
    (h : Renderer.loadPage engine loadId model timeMs = .ok (.page w)) : Accounted w := by
  obtain ⟨info, w₁, hinfo, -, hload, heq⟩ := Renderer.loadPage_cases h
  cases heq
  have hnew : Tally 0 (engine.newPage model) := by
    constructor
    · refine ⟨nofun, nofun, ?_, ?_⟩
      · rw [show (engine.newPage model).engine.pendingRequests = [] from hpending]
        exact nofun
      · rw [show (engine.newPage model).engine.pendingRequests = [] from hpending]
        exact List.nodup_nil
    · exact countIs_empty
  have hmain : Tally 0 ((engine.newPage model).setResource 1
      { info, clients := [.fetcher, .document] }) :=
    hnew.make rfl rfl rfl List.mem_cons_self
  have hscripted := loadResource_scripted hload
  have htally := (Onward.scripted hscripted).tally hmain
  have hfinished : w₁.document.finishedParsing = false := scripted_finishedParsing hscripted
  refine ⟨⟨htally.ledger, htally.count⟩, fun h => ?_⟩
  rw [show _ = false from hfinished] at h
  cases h

namespace Renderer

/-- **What a page waits for.**  Between the events of every run, in whatever order resources are
loaded, redirected, finished and failed, shared, preloaded or loaded by scripts in the middle of all
that:

* the count is the number of the part-of-page resources that are loaded and have neither succeeded nor
  failed, so that it is not negative;
* if the page is loading, its document has been parsed and the count is zero, the timer is running;
* the timer finds the page complete when all this is so, which makes the engine idle, and else only
  stops. -/
theorem page_accounts {es : List PageEvent} (h : Run Steps start es (.page w)) :
    CountIs Resource.InProgress w.fetcher.documentResources w.fetcher.requestCount ∧
    0 ≤ w.fetcher.requestCount ∧
    (w.engine.state = .pageLoading → w.document.finishedParsing = true →
      w.fetcher.requestCount = 0 → w.engine.checkCompletedTimer = true) ∧
    ∀ w', pageStep w .checkCompletedTimer = .ok (.page w') →
      if w.engine.state = .pageLoading ∧ w.document.finishedParsing = true ∧
          w.fetcher.requestCount = 0 then
        w'.engine.state = .idle
      else w' = { w with engine := { w.engine with checkCompletedTimer := false } } := by
  have hw : Accounted w := page_invariant accounted_loadPage Accounted.pageStep h
  have hcount := hw.tally.count
  rw [Int.sub_zero] at hcount
  refine ⟨hcount, hw.tally.nonneg, fun hstate hfinished => hw.due hfinished hstate, ?_⟩
  intro w' hstep
  obtain ⟨w₂, hstep, heq⟩ := bind_eq_ok.mp hstep
  cases heq
  rcases checkCompletedTimerFired_cases hstep with ⟨hstate, hfinished, hzero, hstep⟩ | ⟨hnot, rfl⟩
  · rw [if_pos ⟨hstate, hfinished, hzero⟩]
    obtain ⟨w₁, r, _, htold⟩ := pageCompleted_cases hstep
    exact (Onward.told htold).state
  · rw [if_neg hnot]

/-- A page with an image. -/
def imagePage : PageModel where
  resources := [
    (1, { partOfPageLoadedCheck := true, reqChain := [{ respBodySize := 3 }], type := .main }),
    (2, { partOfPageLoadedCheck := true, reqChain := [{ respBodySize := 4 }] })]
  elements := [(5, { tag := .img, initialResInstNum := 2 })]
  htmlElementByteOffsets := [(0, 5)]

/-- The document comes, and then the image. -/
def imageLoaded : List PageEvent := [.loadPage 1 imagePage 0, .message (.dataReceived 1 3),
  .message (.requestComplete 1 true [.fetcher, .document]), .message (.dataReceived 2 4),
  .message (.requestComplete 2 true [.fetcher, .element 5])]

/-- The timer runs once the image is there, and finds the page complete. -/
theorem page_accounts_image : ∃ w w', Run Steps start imageLoaded (.page w) ∧
    CountIs Resource.InProgress w.fetcher.documentResources w.fetcher.requestCount ∧
    w.engine.checkCompletedTimer = true ∧ pageStep w .checkCompletedTimer = .ok (.page w') ∧
    w'.engine.state = .idle := by
  have hreturns : returns (exec step start imageLoaded) (isPage fun w =>
      decide (w.engine.state = .pageLoading) && w.document.finishedParsing &&
      decide (w.fetcher.requestCount = 0) &&
      returns (pageStep w .checkCompletedTimer) (isPage fun _ => true)) = true := by
    decide
  obtain ⟨w, hrun, htest⟩ := exists_of_returns hreturns
  obtain ⟨htest, hcomplete⟩ := (Bool.and_eq_true _ _).mp htest
  obtain ⟨htest, hcount⟩ := (Bool.and_eq_true _ _).mp htest
  obtain ⟨hstate, hfinished⟩ := (Bool.and_eq_true _ _).mp htest
  have hstate := of_decide_eq_true hstate
  have hcount := of_decide_eq_true hcount
  obtain ⟨r', hcomplete, hpage⟩ := Checked.exists_of_returns hcomplete
  cases r' with
  | blank engine => cases hpage
  | page w' =>
    obtain ⟨hcounted, -, htimer, hfired⟩ := page_accounts hrun
    refine ⟨w, w', hrun, hcounted, htimer hstate hfinished hcount, hcomplete, ?_⟩
    have hidle := hfired w' hcomplete
    rwa [if_pos ⟨hstate, hfinished, hcount⟩] at hidle

end Renderer

end ShadowBrowser.Blink
