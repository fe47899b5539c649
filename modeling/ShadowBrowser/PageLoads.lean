/-
The driver and the renderer together.

The driver calls the renderer, which answers each call when it has handled it; in between the
renderer tells of its requests and of the end of a load.  All this reaches the driver in the order
in which it was sent, after any delay, and the driver's timers fire between it.

* `Driver.handle_request`, `Driver.Ended`, `Driver.Started` — what the handlers of the driver do;
* **`Inv.step`** — one step of the two processes: a load that ends is reported with what was
  counted in it;
* **`loads_accounted`** — every load is reported once, before the next one starts.
-/
import Mathlib.Data.List.Dedup
import Mathlib.Data.List.TakeWhile
import ShadowBrowser.Driver
import ShadowBrowser.Runs

namespace ShadowBrowser

open Checked Runs

/-! ### The messages of the renderer -/

/-- A message about a request: `RequestWillBeSent` or `RequestFinished`. -/
inductive RequestNotice
  | willBeSent (resInstNum reqChainIdx : ℕ) (forced : Bool)
  | finished (resInstNum reqChainIdx : ℕ) (success : Bool)
  deriving DecidableEq, Repr

def RequestNotice.resInstNum : RequestNotice → ℕ
  | .willBeSent n _ _ => n
  | .finished n _ _ => n

/-- What the renderer sends to the driver.  The load of a request is not in the message; it is kept
here to say to which load the message belongs. -/
inductive RendererMsg
  | request (load : ℕ) (r : RequestNotice)
  | pageLoaded (loadId ttfbMs : ℕ)
  | pageLoadFailed (loadId : ℕ)
  | resetResp
  | loadPageResp
  deriving DecidableEq, Repr

namespace RendererMsg

/-- The load that the message is about. -/
def load? : RendererMsg → Option ℕ
  | .request l _ => some l
  | .pageLoaded l _ => some l
  | .pageLoadFailed l => some l
  | _ => none

/-- The message announces a request of the load `l`. -/
def announces (l : ℕ) : RendererMsg → Bool
  | .request l' (.willBeSent _ _ _) => l' == l
  | _ => false

/-- The message says that a request of the load `l` has finished, with or without success. -/
def finishes (l : ℕ) (success : Bool) : RendererMsg → Bool
  | .request l' (.finished _ _ success') => l' == l && success' == success
  | _ => false

/-- The message says that the load event of the load `l` has fired. -/
def loads (l : ℕ) : RendererMsg → Bool
  | .pageLoaded l' _ => l' == l
  | _ => false

/-- The resource whose load was forced, if the message announces such a request of the load `l`. -/
def forced? (l : ℕ) : RendererMsg → Option ℕ
  | .request l' (.willBeSent n _ true) => if l' = l then some n else none
  | _ => none

/-- The event that the message is for the driver; the random numbers are used if it is a
response. -/
def event (thinkTimeMs randIdx : ℕ) : RendererMsg → DriverEvent
  | .request _ (.willBeSent n idx forced) => .requestWillBeSent n idx forced
  | .request _ (.finished n idx success) => .requestFinished n idx success
  | .pageLoaded loadId ttfbMs => .pageLoaded loadId ttfbMs
  | .pageLoadFailed loadId => .pageLoadFailed loadId
  | .resetResp => .resetResp .recv thinkTimeMs randIdx
  | .loadPageResp => .loadPageResp .recv

end RendererMsg

/-- The numbers in a report are those of the messages about its load. -/
structure PageLoadReport.Counts (r : PageLoadReport) (msgs : List RendererMsg) : Prop where
  numReqs : r.numReqs = msgs.countP (·.announces r.loadnum)
  numSuccess : r.numSuccess = msgs.countP (·.finishes r.loadnum true)
  numFailed : r.numFailed = msgs.countP (·.finishes r.loadnum false)
  numAfterDOMLoadEvent : r.numAfterDOMLoadEvent =
    (msgs.dropWhile (!·.loads r.loadnum)).countP (·.announces r.loadnum)
  numForced : r.numForced = (msgs.filterMap (·.forced? r.loadnum)).dedup.length

/-! ### What the driver does -/

/-- `info` holds the counts of the messages about the load `l`. -/
structure LoadTally (l : ℕ) (info : OnePageLoadInfo) (msgs : List RendererMsg) : Prop where
  numReqs : info.numReqs = msgs.countP (·.announces l)
  numSuccess : info.numSuccesReqs = msgs.countP (·.finishes l true)
  numFailed : info.numFailedReqs = msgs.countP (·.finishes l false)
  loaded : 0 < info.DOMLoadEventFiredTimepoint ↔ ∃ m ∈ msgs, m.loads l = true
  numAfterDOMLoadEvent : info.numAfterDOMLoadEventReqs =
    (msgs.dropWhile (!·.loads l)).countP (·.announces l)
  forcedNodup : info.forcedLoadResInstNums.Nodup
  forced : ∀ n, n ∈ info.forcedLoadResInstNums ↔ n ∈ msgs.filterMap (·.forced? l)

/-- Behind the first element that meets `p`, or nowhere, something is appended. -/
theorem dropWhile_not_append {α : Type} {p : α → Bool} (xs : List α) (a : α) :
    (xs ++ [a]).dropWhile (!p ·) =
      if ∃ x ∈ xs, p x = true then xs.dropWhile (!p ·) ++ [a]
      else if p a = true then [a] else [] := by
  induction xs with
  | nil =>
    by_cases ha : p a = true
    · simp [ha]
    · simp [ha]
  | cons x xs ih =>
    by_cases hx : p x = true
    · simp [hx]
    · have hx' : p x = false := Bool.not_eq_true _ ▸ hx
      simp only [List.cons_append, List.dropWhile_cons, hx', Bool.not_false, if_true, ih,
        List.mem_cons, exists_eq_or_imp, Bool.false_eq_true, false_or]

theorem dropWhile_not_of_forall {α : Type} {p : α → Bool} {xs : List α}
    (h : ¬ ∃ x ∈ xs, p x = true) : xs.dropWhile (!p ·) = [] := by
  refine List.dropWhile_eq_nil_iff.mpr fun x hx => ?_
  rw [Bool.not_eq_true', ← Bool.not_eq_true]
  exact fun hp => h ⟨x, hx, hp⟩

/-- A request that has been announced counts, and counts once more if the page has loaded. -/
theorem LoadTally.willBeSent {l : ℕ} {info : OnePageLoadInfo} {msgs : List RendererMsg}
    (h : LoadTally l info msgs) (n idx : ℕ) (forced : Bool) (pending : ℤ) :
    LoadTally l { info with
      numReqs := info.numReqs + 1
      numPendingReqs := pending
      numAfterDOMLoadEventReqs := info.numAfterDOMLoadEventReqs
        + if 0 < info.DOMLoadEventFiredTimepoint then 1 else 0
      forcedLoadResInstNums :=
        if forced then info.forcedLoadResInstNums.insert n else info.forcedLoadResInstNums }
      (msgs ++ [.request l (.willBeSent n idx forced)]) := by
  have hann : RendererMsg.announces l (.request l (.willBeSent n idx forced)) = true :=
    beq_self_eq_true l
  constructor
  · rw [List.countP_append, List.countP_singleton, hann, h.numReqs]
    rfl
  · rw [List.countP_append, h.numSuccess]
    rfl
  · rw [List.countP_append, h.numFailed]
    rfl
  · rw [h.loaded]
    simp [RendererMsg.loads]
  · -- whether it counts as behind the load event depends on whether that has been said
    rw [dropWhile_not_append]
    by_cases hloaded : ∃ m ∈ msgs, m.loads l = true
    · rw [if_pos hloaded, if_pos (h.loaded.mpr hloaded), List.countP_append, List.countP_singleton,
        hann, h.numAfterDOMLoadEvent]
      rfl
    · rw [if_neg hloaded, if_neg (fun hpos => hloaded (h.loaded.mp hpos)), h.numAfterDOMLoadEvent,
        dropWhile_not_of_forall hloaded]
      rfl
  · by_cases hf : forced = true
    · simp only [hf, if_true]
      exact h.forcedNodup.insert
    · rw [if_neg hf]
      exact h.forcedNodup
  · intro k
    cases forced with
    | true =>
      simp only [if_true, List.mem_insert_iff, h.forced, List.filterMap_append, List.mem_append]
      simp [RendererMsg.forced?, or_comm]
    | false =>
      simp only [Bool.false_eq_true, if_false, h.forced, List.filterMap_append, List.mem_append]
      simp [RendererMsg.forced?]

/-- A request that has finished counts as a success or as a failure. -/
theorem LoadTally.finished {l : ℕ} {info : OnePageLoadInfo} {msgs : List RendererMsg}
    (h : LoadTally l info msgs) (n idx : ℕ) (success : Bool) (pending : ℤ) :
    LoadTally l { info with
      numFailedReqs := info.numFailedReqs + if success then 0 else 1
      numSuccesReqs := info.numSuccesReqs + if success then 1 else 0
      numPendingReqs := pending }
      (msgs ++ [.request l (.finished n idx success)]) := by
  constructor
  · rw [List.countP_append, h.numReqs]
    rfl
  · rw [List.countP_append, h.numSuccess]
    cases success <;> simp [RendererMsg.finishes]
  · rw [List.countP_append, h.numFailed]
    cases success <;> simp [RendererMsg.finishes]
  · rw [h.loaded]
    simp [RendererMsg.loads]
  · rw [dropWhile_not_append]
    by_cases hloaded : ∃ m ∈ msgs, m.loads l = true
    · rw [if_pos hloaded, List.countP_append, h.numAfterDOMLoadEvent]
      rfl
    · rw [if_neg hloaded, h.numAfterDOMLoadEvent, dropWhile_not_of_forall hloaded]
      rfl
  · exact h.forcedNodup
  · intro k
    rw [h.forced, List.filterMap_append]
    simp [RendererMsg.forced?]

/-- Other messages do not count; the load event does not count twice. -/
theorem LoadTally.other {l : ℕ} {info : OnePageLoadInfo} {msgs : List RendererMsg} (h : LoadTally l info msgs)
    {m : RendererMsg} (hann : m.announces l = false) (hfin : ∀ b, m.finishes l b = false)
    (hforced : m.forced? l = none) (hloads : m.loads l = true → 0 < info.DOMLoadEventFiredTimepoint) :
    LoadTally l info (msgs ++ [m]) := by
  constructor
  · rw [List.countP_append, List.countP_singleton, hann, h.numReqs]
    rfl
  · rw [List.countP_append, List.countP_singleton, hfin, h.numSuccess]
    rfl
  · rw [List.countP_append, List.countP_singleton, hfin, h.numFailed]
    rfl
  · rw [h.loaded]
    constructor
    · rintro ⟨x, hx, hxl⟩
      exact ⟨x, List.mem_append_left _ hx, hxl⟩
    · rintro ⟨x, hx, hxl⟩
      rcases List.mem_append.mp hx with hx | hx
      · exact ⟨x, hx, hxl⟩
      · rw [List.mem_singleton.mp hx] at hxl
        exact h.loaded.mp (hloads hxl)
  · rw [dropWhile_not_append]
    by_cases hloaded : ∃ m ∈ msgs, m.loads l = true
    · rw [if_pos hloaded, List.countP_append, List.countP_singleton, hann, h.numAfterDOMLoadEvent]
      rfl
    · rw [if_neg hloaded, if_neg fun hl => hloaded (h.loaded.mp (hloads hl)),
        h.numAfterDOMLoadEvent, dropWhile_not_of_forall hloaded]
  · exact h.forcedNodup
  · intro n
    rw [h.forced, List.filterMap_append]
    simp [hforced]

/-- The load event fires for the first time. -/
theorem LoadTally.pageLoaded {l now ttfbMs : ℕ} {info : OnePageLoadInfo} {msgs : List RendererMsg}
    (h : LoadTally l info msgs) (hdom : info.DOMLoadEventFiredTimepoint = 0) (hnow : 0 < now) :
    LoadTally l { info with DOMLoadEventFiredTimepoint := now, pageLoadStatus := .ok, ttfbMs }
      (msgs ++ [.pageLoaded l ttfbMs]) := by
  have hloads : RendererMsg.loads l (.pageLoaded l ttfbMs) = true := beq_self_eq_true l
  have hnot : ¬ ∃ m ∈ msgs, m.loads l = true := by
    rw [← h.loaded]
    omega
  constructor
  · rw [List.countP_append, h.numReqs]
    rfl
  · rw [List.countP_append, h.numSuccess]
    rfl
  · rw [List.countP_append, h.numFailed]
    rfl
  · exact ⟨fun _ => ⟨_, List.mem_append_right _ List.mem_cons_self, hloads⟩, fun _ => hnow⟩
  · rw [dropWhile_not_append, if_neg hnot, if_pos hloads, h.numAfterDOMLoadEvent,
      dropWhile_not_of_forall hnot]
    rfl
  · exact h.forcedNodup
  · intro n
    rw [h.forced, List.filterMap_append]
    simp [RendererMsg.forced?]

/-- Nothing has been counted of a load that has not begun. -/
theorem LoadTally.fresh {l idx start : ℕ} {msgs : List RendererMsg}
    (h : ∀ m ∈ msgs, ∀ l', m.load? = some l' → l' < l) :
    LoadTally l { pageModelIdx := idx, loadStartTimepoint := start, pageLoadStatus := .pending } msgs := by
  -- the messages are those of earlier loads
  have hann : ∀ m ∈ msgs, ¬ m.announces l = true := by
    intro m hm hl
    cases m with
    | request l' r =>
      cases r with
      | willBeSent n i f => exact absurd (h _ hm l' rfl) (by rw [beq_iff_eq.mp hl]; omega)
      | finished => exact absurd hl Bool.false_ne_true
    | _ => exact absurd hl Bool.false_ne_true
  have hfin : ∀ b, ∀ m ∈ msgs, ¬ m.finishes l b = true := by
    intro b m hm hl
    cases m with
    | request l' r =>
      cases r with
      | willBeSent => exact absurd hl Bool.false_ne_true
      | finished n i s =>
        exact absurd (h _ hm l' rfl) (by rw [beq_iff_eq.mp (Bool.and_eq_true_iff.mp hl).1]; omega)
    | _ => exact absurd hl Bool.false_ne_true
  have hloads : ¬ ∃ m ∈ msgs, m.loads l = true := by
    rintro ⟨m, hm, hl⟩
    cases m with
    | pageLoaded l' t => exact absurd (h _ hm l' rfl) (by rw [beq_iff_eq.mp hl]; omega)
    | _ => exact absurd hl Bool.false_ne_true
  constructor
  · exact (List.countP_eq_zero.mpr hann).symm
  · exact (List.countP_eq_zero.mpr (hfin true)).symm
  · exact (List.countP_eq_zero.mpr (hfin false)).symm
  · exact ⟨fun hpos => absurd hpos (Nat.lt_irrefl 0), fun hl => absurd hl hloads⟩
  · rw [dropWhile_not_of_forall hloads]
    rfl
  · exact List.nodup_nil
  · intro n
    refine ⟨fun hn => absurd hn List.not_mem_nil, fun hn => ?_⟩
    obtain ⟨m, hm, hf⟩ := List.mem_filterMap.mp hn
    cases m with
    | request l' r =>
      have hlt := h _ hm l' rfl
      cases r with
      | willBeSent k i f =>
        cases f with
        | true =>
          rw [RendererMsg.forced?, if_neg (Nat.ne_of_lt hlt)] at hf
          cases hf
        | false => cases hf
      | finished => cases hf
    | _ => cases hf

/-- The report of a load says what was counted. -/
theorem LoadTally.counts {l : ℕ} {d : Driver} {msgs : List RendererMsg}
    (h : LoadTally l d.thisPageLoadInfo msgs) (hl : d.loadnum = l) : d.pageLoadReport.Counts msgs := by
  subst hl
  refine ⟨h.numReqs, h.numSuccess, h.numFailed, h.numAfterDOMLoadEvent, ?_⟩
  refine ((List.perm_ext_iff_of_nodup h.forcedNodup (List.nodup_dedup _)).mpr fun n => ?_).length_eq
  rw [h.forced, List.mem_dedup]
  rfl

namespace Driver

variable {d d' : Driver} {now : ℕ}

/-- A proxy that is used can be called. -/
def TproxyInTime (d : Driver) : Prop := d.usingTproxy = true → d.tproxyIpcChReady = true

instance (d : Driver) : Decidable d.TproxyInTime :=
  inferInstanceAs (Decidable (d.usingTproxy = true → d.tproxyIpcChReady = true))

theorem ifUsingTproxy_stop (h : d.TproxyInTime) (b : Bool) :
    ∃ calls, d.ifUsingTproxy (·.tproxyStopDefense b) = .ok { d with tproxyCalls := calls } := by
  rw [ifUsingTproxy, doIf]
  by_cases hu : d.usingTproxy = true
  · rw [if_pos hu, tproxyStopDefense, check_pos (h hu)]
    exact ⟨_, rfl⟩
  · rw [if_neg hu]
    exact ⟨d.tproxyCalls, rfl⟩

/-- The driver has taken note of a request: what this does to the counters and to the timer that
waits for more requests. -/
structure Noted (r : RequestNotice) (d : Driver) (info : OnePageLoadInfo) (timer : Option ℕ) :
    Prop where
  status : info.pageLoadStatus = d.thisPageLoadInfo.pageLoadStatus
  dom : info.DOMLoadEventFiredTimepoint = d.thisPageLoadInfo.DOMLoadEventFiredTimepoint
  wait : d.thisPageLoadInfo.DOMLoadEventFiredTimepoint = 0 → d.waitForMoreRequestsTimer = none →
    timer = none
  tally : ∀ l msgs, LoadTally l d.thisPageLoadInfo msgs → LoadTally l info (msgs ++ [.request l r])

/-- The driver hears of a request. -/
theorem handle_request (r : RequestNotice) (hpos : 0 < r.resInstNum) (d : Driver) (l now t i : ℕ) :
    ∃ info timer, d.handle now ((RendererMsg.request l r).event t i) =
        .ok { d with thisPageLoadInfo := info, waitForMoreRequestsTimer := timer } ∧
      Noted r d info timer := by
  cases r with
  | willBeSent n idx forced =>
    have hcheck : 0 < n ∧ (0 : ℤ) ≤ idx := ⟨hpos, Int.natCast_nonneg idx⟩
    show ∃ info timer, d.rendererHandleRequestWillBeSent n idx forced = _ ∧ _
    rw [rendererHandleRequestWillBeSent, check_pos hcheck, ok_bind]
    exact ⟨_, _, rfl, rfl, rfl, fun _ _ => rfl, fun l msgs ht => ht.willBeSent n idx forced _⟩
  | finished n idx success =>
    have hcheck : 0 < n ∧ (0 : ℤ) ≤ idx := ⟨hpos, Int.natCast_nonneg idx⟩
    show ∃ info timer, d.rendererHandleRequestFinished now n idx success = _ ∧ _
    rw [rendererHandleRequestFinished, check_pos hcheck, ok_bind]
    dsimp only
    generalize (if d.thisPageLoadInfo.numPendingReqs - 1 < 0 then 0
      else d.thisPageLoadInfo.numPendingReqs - 1) = pending
    by_cases hlast : 0 < d.thisPageLoadInfo.DOMLoadEventFiredTimepoint ∧ pending = 0
    · rw [if_pos hlast, startWaitForMoreRequestsTimer, check_pos rfl, ok_bind]
      refine ⟨_, _, rfl, rfl, rfl, fun hzero _ => ?_, fun l msgs ht => ht.finished n idx success _⟩
      exact absurd hzero (Nat.ne_of_gt hlast.1)
    · rw [if_neg hlast]
      exact ⟨_, _, rfl, rfl, rfl, fun _ hnone => hnone,
        fun l msgs ht => ht.finished n idx success _⟩

/-- The driver cannot take a request for a resource without a number. -/
theorem handle_request_zero {r : RequestNotice} (hzero : ¬ 0 < r.resInstNum) (d : Driver)
    (l now t i : ℕ) : d.handle now ((RendererMsg.request l r).event t i) = .error .reqNumbers := by
  cases r with
  | willBeSent n idx forced =>
    show d.rendererHandleRequestWillBeSent n idx forced = _
    rw [rendererHandleRequestWillBeSent, check_neg fun h => hzero h.1]
    rfl
  | finished n idx success =>
    show d.rendererHandleRequestFinished now n idx success = _
    rw [rendererHandleRequestFinished, check_neg fun h => hzero h.1]
    rfl

/-- The status of the load is `st`, and no timer of the load is running. -/
def decided (d : Driver) (st : PageLoadStatus) : Driver :=
  { d with
    thisPageLoadInfo := { d.thisPageLoadInfo with pageLoadStatus := st }
    pageLoadTimeoutTimer := none
    waitForMoreRequestsTimer := none }

/-- The driver has reported the load with the status `st`, and has the renderer reset. -/
def Ended (st : PageLoadStatus) (d d' : Driver) : Prop :=
  ∃ calls, d' = { d.decided st with
    state := .resetRenderer
    thisPageLoadInfo := {}
    tproxyCalls := calls
    rendererCalls := d.rendererCalls ++ [.reset]
    reported := d.reported ++ [(d.decided st).pageLoadReport] }

theorem reportResult_decided {st : PageLoadStatus} (h : st ≠ .none ∧ st ≠ .pending) (d : Driver) :
    (d.decided st).reportResult =
      .ok { d.decided st with reported := d.reported ++ [(d.decided st).pageLoadReport] } := by
  have hst : (d.decided st).thisPageLoadInfo.pageLoadStatus ≠ .none ∧
      (d.decided st).thisPageLoadInfo.pageLoadStatus ≠ .pending := h
  rw [reportResult, check_pos hst]
  rfl

/-- The end of a load that the proxy is told of. -/
theorem ended_of_decided (st : PageLoadStatus) (h : st ≠ .none ∧ st ≠ .pending)
    (htp : d.TproxyInTime) :
    ∃ d', ((d.decided st).reportResult >>= fun d =>
      d.resetThisPageLoadInfo.rendererReset.ifUsingTproxy (·.tproxyStopDefense false)) = .ok d' ∧
      Ended st d d' := by
  rw [reportResult_decided h, ok_bind]
  obtain ⟨calls, hcalls⟩ := ifUsingTproxy_stop (d := ({ d.decided st with
    reported := d.reported ++ [(d.decided st).pageLoadReport]
    } : Driver).resetThisPageLoadInfo.rendererReset) htp false
  exact ⟨_, hcalls, calls, rfl⟩

/-- The load fails. -/
theorem handle_pageLoadFailed (htp : d.TproxyInTime) (hst : d.state = .loadingPage)
    (hpend : d.thisPageLoadInfo.pageLoadStatus = .pending) (hwait : d.waitForMoreRequestsTimer = none)
    (now : ℕ) : ∃ d', d.handle now (.pageLoadFailed d.loadnum) = .ok d' ∧ Ended .failed d d' := by
  have hdecided : ({ d with
      pageLoadTimeoutTimer := none
      thisPageLoadInfo := { d.thisPageLoadInfo with pageLoadStatus := .failed } } : Driver) =
      d.decided .failed := by
    rw [decided, ← hwait]
  show ∃ d', d.rendererHandlePageLoadFailed d.loadnum = .ok d' ∧ _
  rw [rendererHandlePageLoadFailed, check_pos rfl, ok_bind, if_neg (not_not.mpr hst),
    check_pos hpend, ok_bind, hdecided]
  exact ended_of_decided .failed ⟨by decide, by decide⟩ htp

/-- The load takes too long, or its requests do. -/
theorem handle_pageLoadTimeout (htp : d.TproxyInTime)
    (h : d.state = .loadingPage ∧ d.thisPageLoadInfo.pageLoadStatus = .pending ∧
        d.thisPageLoadInfo.DOMLoadEventFiredTimepoint = 0 ∨
      d.thisPageLoadInfo.pageLoadStatus = .ok ∧ 0 < d.thisPageLoadInfo.DOMLoadEventFiredTimepoint)
    (now : ℕ) : ∃ d' st, d.handle now .pageLoadTimeout = .ok d' ∧ Ended st d d' ∧
      (st = .ok ∨ st = .timedout) := by
  show ∃ d' st, d.onPageLoadTimeout = .ok d' ∧ _
  rw [onPageLoadTimeout]
  rcases h with ⟨hst, hpend, hdom⟩ | ⟨hok, hdom⟩
  · have hdecided : ({ d with
        pageLoadTimeoutTimer := none
        waitForMoreRequestsTimer := none
        thisPageLoadInfo := { d.thisPageLoadInfo with
          pageLoadStatus := if d.thisPageLoadInfo.DOMLoadEventFiredTimepoint = 0 then .timedout
            else d.thisPageLoadInfo.pageLoadStatus } } : Driver) = d.decided .timedout := by
      rw [if_pos hdom]
      rfl
    rw [check_pos fun _ => hst, ok_bind, check_pos fun _ => hpend, ok_bind, hdecided]
    obtain ⟨d', hd', hended⟩ := ended_of_decided .timedout ⟨by decide, by decide⟩ htp
    exact ⟨d', .timedout, hd', hended, .inr rfl⟩
  · have hne : d.thisPageLoadInfo.DOMLoadEventFiredTimepoint ≠ 0 := Nat.ne_of_gt hdom
    have hdecided : ({ d with
        pageLoadTimeoutTimer := none
        waitForMoreRequestsTimer := none
        thisPageLoadInfo := { d.thisPageLoadInfo with
          pageLoadStatus := if d.thisPageLoadInfo.DOMLoadEventFiredTimepoint = 0 then .timedout
            else d.thisPageLoadInfo.pageLoadStatus } } : Driver) = d.decided .ok := by
      rw [if_neg hne, hok]
      rfl
    rw [check_pos fun hzero => absurd hzero hne, ok_bind, check_pos fun hzero => absurd hzero hne,
      ok_bind, hdecided]
    obtain ⟨d', hd', hended⟩ := ended_of_decided .ok ⟨by decide, by decide⟩ htp
    exact ⟨d', .ok, hd', hended, .inl rfl⟩

/-- No more requests have come. -/
theorem handle_waitForMoreRequestsTimerFired (hst : d.state = .waitForMoreRequestsAfterDOMLoadEvent)
    (hok : d.thisPageLoadInfo.pageLoadStatus = .ok) (now : ℕ) :
    ∃ d', d.handle now .waitForMoreRequestsTimerFired = .ok d' ∧ Ended .ok d d' := by
  have hne : d.thisPageLoadInfo.pageLoadStatus ≠ .pending := by
    rw [hok]
    decide
  have hdecided : ({ d with waitForMoreRequestsTimer := none, pageLoadTimeoutTimer := none } : Driver) =
      d.decided .ok := by
    rw [decided, ← hok]
  show ∃ d', d.onWaitForMoreRequestsTimerFired = .ok d' ∧ _
  rw [onWaitForMoreRequestsTimerFired, check_pos hst, ok_bind, check_pos hne, ok_bind, hdecided,
    reportResult_decided ⟨by decide, by decide⟩, ok_bind]
  exact ⟨_, rfl, _, rfl⟩

/-- The load event fires. -/
theorem handle_pageLoaded (htp : d.TproxyInTime) (hst : d.state = .loadingPage)
    (hwait : d.waitForMoreRequestsTimer = none) (now ttfbMs : ℕ) :
    ∃ calls timer, d.handle now (.pageLoaded d.loadnum ttfbMs) = .ok { d with
      state := .waitForMoreRequestsAfterDOMLoadEvent
      tproxyCalls := calls
      thisPageLoadInfo := { d.thisPageLoadInfo with
        DOMLoadEventFiredTimepoint := now, pageLoadStatus := .ok, ttfbMs }
      waitForMoreRequestsTimer := timer } := by
  show ∃ calls timer, d.rendererHandlePageLoaded now d.loadnum ttfbMs = _
  obtain ⟨calls, hcalls⟩ := ifUsingTproxy_stop
    (d := { d with state := .waitForMoreRequestsAfterDOMLoadEvent }) htp false
  rw [rendererHandlePageLoaded, check_pos rfl, ok_bind, if_neg (not_not.mpr hst), hcalls, ok_bind]
  dsimp only
  by_cases hpending : d.thisPageLoadInfo.numPendingReqs = 0
  · rw [if_pos hpending, startWaitForMoreRequestsTimer, check_pos hwait, ok_bind]
    exact ⟨calls, _, rfl⟩
  · rw [if_neg hpending]
    exact ⟨calls, d.waitForMoreRequestsTimer, rfl⟩

/-- A message about the end of a load that the driver has ended is ignored. -/
theorem handle_ignored (hst : d.state ≠ .loadingPage) (now ttfbMs : ℕ) :
    d.handle now (.pageLoaded d.loadnum ttfbMs) = .ok d ∧
      d.handle now (.pageLoadFailed d.loadnum) = .ok d := by
  constructor
  · show d.rendererHandlePageLoaded now d.loadnum ttfbMs = .ok d
    rw [rendererHandlePageLoaded, check_pos rfl, ok_bind, if_pos hst]
    rfl
  · show d.rendererHandlePageLoadFailed d.loadnum = .ok d
    rw [rendererHandlePageLoadFailed, check_pos rfl, ok_bind, if_pos hst]
    rfl

/-- The driver has the renderer load the next page. -/
def Started (d d' : Driver) : Prop :=
  ∃ idx prev start calls, d' = { d with
    state := .loadingPage
    loadnum := d.loadnum + 1
    thisPageLoadInfo := { pageModelIdx := idx, loadStartTimepoint := start, pageLoadStatus := .pending }
    prevPageModelIdx := prev
    waitForMoreRequestsTimer := none
    tproxyCalls := calls
    rendererCalls := d.rendererCalls ++ [.loadPage idx (d.loadnum + 1)] }

theorem ifUsingTproxy_setAutoStart :
    (d.TproxyInTime → ∃ calls, d.ifUsingTproxy tproxySetAutoStartDefenseOnNextSend =
      .ok { d with tproxyCalls := calls }) ∧
    (¬ d.TproxyInTime →
      d.ifUsingTproxy tproxySetAutoStartDefenseOnNextSend = .error .tproxyNotReady) := by
  rw [ifUsingTproxy, doIf, TproxyInTime]
  by_cases hu : d.usingTproxy = true
  · rw [if_pos hu, tproxySetAutoStartDefenseOnNextSend]
    constructor
    · intro htp
      rw [check_pos (htp hu)]
      exact ⟨_, rfl⟩
    · intro hnot
      rw [check_neg fun hready => hnot fun _ => hready]
      rfl
  · rw [if_neg hu]
    exact ⟨fun _ => ⟨d.tproxyCalls, rfl⟩, fun hnot => absurd (fun h => absurd h hu) hnot⟩

/-- A page is loaded, unless a proxy is used that cannot be called yet. -/
theorem rendererLoadPage_iff (hst : d.state = .thinking ∨ d.state = .doneResetRenderer)
    {randIdx : ℕ} (hrand : randIdx < d.numPageModels) (now : ℕ) :
    (d.TproxyInTime → ∃ d', d.rendererLoadPage now randIdx = .ok d' ∧ Started d d') ∧
      (¬ d.TproxyInTime → d.rendererLoadPage now randIdx = .error .tproxyNotReady) := by
  rw [rendererLoadPage, check_pos hst, ok_bind]
  refine ⟨fun htp => ?_, fun hnot => ?_⟩
  · obtain ⟨calls, hcalls⟩ := ifUsingTproxy_setAutoStart.1 htp
    have hpos : 0 < d.numPageModels := by omega
    have hidx : (if (!d.sequentialPageSelection) = true then randIdx
        else if d.loadnum + 1 = 1 then 0 else (d.prevPageModelIdx + 1) % d.numPageModels) <
        d.numPageModels := by
      split
      · exact hrand
      · split
        · exact hpos
        · exact Nat.mod_lt _ hpos
    rw [hcalls, ok_bind]
    dsimp only
    rw [check_pos hidx]
    exact ⟨_, rfl, _, _, _, _, rfl⟩
  · rw [ifUsingTproxy_setAutoStart.2 hnot]
    rfl

theorem tproxyInTime_of_rendererLoadPage {randIdx : ℕ} (h : d.rendererLoadPage now randIdx = .ok d') :
    d.TproxyInTime := by
  by_contra hnot
  obtain ⟨_, -, h⟩ := bind_eq_ok.mp h
  obtain ⟨d₁, hd₁, -⟩ := bind_eq_ok.mp h
  rw [ifUsingTproxy_setAutoStart.2 hnot] at hd₁
  cases hd₁

end Driver

/-! ### The two processes -/

/-- The driver, what the renderer's `Webengine` knows about its load, the messages that are on
their way to the driver and those that have got there, and the time in milliseconds. -/
structure PageLoads where
  driver : Driver
  /-- `current_load_id_`, zero without a load -/
  currentLoadId : ℕ := 0
  /-- `state_` is `PAGE_LOADING` -/
  pageLoading : Bool := false
  msgs : List RendererMsg := []
  delivered : List RendererMsg := []
  clock : ℕ
  deriving DecidableEq, Repr

/-- A check of the driver, or of the renderer when it handles `LoadPage`. -/
inductive LoadCheck
  | notEnabled
  | driver (k : DriverCheck)
  | loadId
  deriving DecidableEq, Repr

/-- The events of the two processes. -/
inductive LoadEvent
  | elapse (ms : ℕ)
  | tproxyReady
  | setAutoStartResp (ok : Bool)
  | stopDefenseResp
  | rendererReady
  /-- the renderer handles the driver's oldest call; in a `LoadPage` it starts some requests -/
  | handleCall (rs : List RequestNotice)
  | request (r : RequestNotice)
  | pageLoaded (ttfbMs : ℕ)
  | mainResourceFailed
  /-- the driver gets the oldest message; the random numbers are used if it is a response -/
  | deliver (thinkTimeMs randIdx : ℕ)
  | waitForMoreRequestsTimerFired
  | pageLoadTimeout
  | thinkTimeTimerFired (randIdx : ℕ)
  deriving DecidableEq, Repr

namespace PageLoads

variable {s s' s₀ : PageLoads} {l : ℕ}

/-- The driver's part of a step. -/
def drive (s : PageLoads) (e : DriverEvent) : Except LoadCheck PageLoads := do
  let d ← (s.driver.step s.clock e).mapError .driver
  return { s with driver := d }

/-- `Webengine::_reset_loading_state`, as far as it matters here -/
def resetLoadingState (s : PageLoads) : PageLoads :=
  { s with currentLoadId := 0, pageLoading := false }

/-- `Webengine::handle_LoadPage` and the response (`IPCServer::_handle_LoadPage`) -/
def handleLoadPage (s : PageLoads) (loadId : ℕ) (rs : List RequestNotice) :
    Except LoadCheck PageLoads := do
  check (loadId ≠ s.currentLoadId ∧ 0 < loadId) .loadId
  return { s with
    currentLoadId := loadId
    pageLoading := true
    msgs := s.msgs ++ (rs.map (.request loadId) ++ [.loadPageResp]) }

/-- One step of the two processes. -/
def step (s : PageLoads) : LoadEvent → Except LoadCheck PageLoads
  | .elapse ms => return { s with clock := s.clock + ms }
  | .tproxyReady => s.drive (.tproxyIpcChStatus true)
  | .setAutoStartResp ok => s.drive (.setAutoStartResp .recv ok)
  | .stopDefenseResp => s.drive (.stopDefenseResp .recv)
  | .rendererReady => do
    check (s.driver.state = .initial) .notEnabled
    s.drive (.rendererIpcChStatus true)
  | .handleCall rs =>
    match s.driver.rendererCalls with
    | [] => throw .notEnabled
    | .reset :: calls =>
      -- `handle_Reset`, then the response
      return { s.resetLoadingState with
        driver := { s.driver with rendererCalls := calls }
        msgs := s.msgs ++ [.resetResp] }
    | .loadPage _ loadId :: calls =>
      { s with driver := { s.driver with rendererCalls := calls } }.handleLoadPage loadId rs
  | .request r => do
    check (s.currentLoadId ≠ 0) .notEnabled
    return { s with msgs := s.msgs ++ [.request s.currentLoadId r] }
  | .pageLoaded ttfbMs => do
    -- `checkCompleted_timer_fired`
    check (s.pageLoading = true) .notEnabled
    return { s with pageLoading := false, msgs := s.msgs ++ [.pageLoaded s.currentLoadId ttfbMs] }
  | .mainResourceFailed => do
    check (s.currentLoadId ≠ 0) .notEnabled
    return { s.resetLoadingState with msgs := s.msgs ++ [.pageLoadFailed s.currentLoadId] }
  | .deliver thinkTimeMs randIdx =>
    match s.msgs with
    | [] => throw .notEnabled
    | m :: msgs => do
      let s ← s.drive (m.event thinkTimeMs randIdx)
      return { s with msgs, delivered := s.delivered ++ [m] }
  | .waitForMoreRequestsTimerFired => s.drive .waitForMoreRequestsTimerFired
  | .pageLoadTimeout => s.drive .pageLoadTimeout
  | .thinkTimeTimerFired randIdx => s.drive (.thinkTimeTimerFired randIdx)

/-- The steps of the two processes, as a relation. -/
def Step (s : PageLoads) (e : LoadEvent) (s' : PageLoads) : Prop := s.step e = .ok s'

/-- Two processes that have just been started. -/
structure Initial (s : PageLoads) : Prop where
  driver : s.driver = { s.driver with
    tproxyIpcChReady := false, state := .initial, loadnum := 0, thisPageLoadInfo := {}
    pageLoadTimeoutTimer := none, waitForMoreRequestsTimer := none, thinkTimeTimer := none
    rendererCalls := [], reported := [] }
  /-- `_read_page_models_file` insists on it -/
  models : 0 < s.driver.numPageModels
  renderer : s.currentLoadId = 0 ∧ s.pageLoading = false ∧ s.msgs = [] ∧ s.delivered = []
  clock : 0 < s.clock

/-! ### What holds in every state -/

/-- The load with the number `loadnum_` has not been reported yet. -/
def Loading (s : PageLoads) : Prop :=
  s.driver.state = .loadingPage ∨ s.driver.state = .waitForMoreRequestsAfterDOMLoadEvent

instance (s : PageLoads) : Decidable s.Loading :=
  inferInstanceAs (Decidable (_ ∨ _))

/-- The loads from the first on have each been reported once and with a final status, all but the
one that is going on. -/
structure Accounted (s : PageLoads) : Prop where
  numbers : s.driver.reported.map (·.loadnum) = List.range' 1 s.driver.reported.length
  current : s.driver.loadnum = s.driver.reported.length + if s.Loading then 1 else 0
  final : ∀ r ∈ s.driver.reported,
    r.loadResult = .ok ∨ r.loadResult = .failed ∨ r.loadResult = .timedout

/-- The driver has reported nothing, or one load, with what it was told about it. -/
def Reports (s s' : PageLoads) : Prop :=
  s'.driver.reported = s.driver.reported ∨
    ∃ r, s'.driver.reported = s.driver.reported ++ [r] ∧ r.Counts s'.delivered

/-- The driver's next step does not start a load before a proxy that it uses can be called, nor
does it take a request for a resource without a number. -/
def Sound (s : PageLoads) : LoadEvent → Prop
  | .deliver _ _ =>
    match s.msgs with
    | .request _ r :: _ => 0 < r.resInstNum
    | .resetResp :: _ => s.driver.loadnum = 0 → s.driver.TproxyInTime
    | _ => True
  | .thinkTimeTimerFired _ => s.driver.TproxyInTime
  | _ => True

instance (s : PageLoads) (e : LoadEvent) : Decidable (s.Sound e) := by
  unfold Sound
  split
  · split <;> infer_instance
  · infer_instance
  · infer_instance

/-- No timer of a load is running. -/
structure Quiet (d : Driver) : Prop where
  timeout : d.pageLoadTimeoutTimer = none
  wait : d.waitForMoreRequestsTimer = none
  think : d.thinkTimeTimer = none

/-- The load event has not fired. -/
structure Pending (d : Driver) : Prop where
  status : d.thisPageLoadInfo.pageLoadStatus = .pending
  dom : d.thisPageLoadInfo.DOMLoadEventFiredTimepoint = 0

/-- The messages are about the load `l`. -/
def About (l : ℕ) (msgs : List RendererMsg) : Prop := ∀ m ∈ msgs, m.load? = some l

/-- Where the two processes stand: what the driver waits for, and what is on its way. -/
inductive Phase (d : Driver) (msgs : List RendererMsg) (id : ℕ) : Prop
  | initial (hst : d.state = .initial) (hquiet : Quiet d)
      (hcalls : d.rendererCalls = []) (hmsgs : msgs = []) (hid : id = 0) (hnum : d.loadnum = 0)
      (hdom : d.thisPageLoadInfo.DOMLoadEventFiredTimepoint = 0)
  | resetting (hst : d.state = .resetRenderer) (hquiet : Quiet d)
      (hdom : d.thisPageLoadInfo.DOMLoadEventFiredTimepoint = 0)
      (hcalls : d.rendererCalls = [.reset]) (hmsgs : About d.loadnum msgs)
      (hid : id = 0 ∨ id = d.loadnum)
  | resetDone (ms : List RendererMsg) (hst : d.state = .resetRenderer) (hquiet : Quiet d)
      (hdom : d.thisPageLoadInfo.DOMLoadEventFiredTimepoint = 0)
      (hcalls : d.rendererCalls = []) (hmsgs : msgs = ms ++ [.resetResp])
      (habout : About d.loadnum ms) (hid : id = 0)
  | loading (idx : ℕ) (hst : d.state = .loadingPage) (hquiet : Quiet d)
      (hpend : Pending d) (hcalls : d.rendererCalls = [.loadPage idx d.loadnum])
      (hmsgs : msgs = []) (hid : id = 0)
  | loadDone (rs : List RequestNotice) (ms : List RendererMsg) (hst : d.state = .loadingPage)
      (hquiet : Quiet d) (hpend : Pending d) (hcalls : d.rendererCalls = [])
      (hmsgs : msgs = rs.map (.request d.loadnum) ++ .loadPageResp :: ms)
      (habout : About d.loadnum ms)
      (hid : id = 0 ∨ id = d.loadnum)
  | running (hst : d.state = .loadingPage) (hwait : d.waitForMoreRequestsTimer = none)
      (hthink : d.thinkTimeTimer = none) (hpend : Pending d)
      (hcalls : d.rendererCalls = []) (hmsgs : About d.loadnum msgs)
      (hid : id = 0 ∨ id = d.loadnum)
  | waiting (hst : d.state = .waitForMoreRequestsAfterDOMLoadEvent)
      (hthink : d.thinkTimeTimer = none)
      (hok : d.thisPageLoadInfo.pageLoadStatus = .ok)
      (hdom : 0 < d.thisPageLoadInfo.DOMLoadEventFiredTimepoint)
      (hcalls : d.rendererCalls = []) (hmsgs : About d.loadnum msgs)
      (hid : id = 0 ∨ id = d.loadnum)
  | thinking (hst : d.state = .thinking) (htimeout : d.pageLoadTimeoutTimer = none)
      (hwait : d.waitForMoreRequestsTimer = none) (hcalls : d.rendererCalls = [])
      (hmsgs : msgs = []) (hid : id = 0) (hnum : 0 < d.loadnum)

/-- The invariant of the two processes. -/
structure Inv (s : PageLoads) : Prop where
  phase : Phase s.driver s.msgs s.currentLoadId
  clock : 0 < s.clock
  models : 0 < s.driver.numPageModels
  tproxy : 0 < s.driver.loadnum → s.driver.TproxyInTime
  pageLoading : s.pageLoading = true → s.currentLoadId ≠ 0
  delivered : ∀ m ∈ s.delivered, ∀ l, m.load? = some l → l ≤ s.driver.loadnum
  tally : s.Loading → LoadTally s.driver.loadnum s.driver.thisPageLoadInfo s.delivered
  accounted : Accounted s

theorem Accounted.pos (h : Accounted s) (hl : s.Loading) : 0 < s.driver.loadnum := by
  rw [h.current, if_pos hl]
  exact Nat.succ_pos _

theorem About.append {ms : List RendererMsg} (h : About l ms) {m : RendererMsg}
    (hm : m.load? = some l) : About l (ms ++ [m]) := by
  intro x hx
  rcases List.mem_append.mp hx with hx | hx
  · exact h x hx
  · rw [List.mem_singleton.mp hx]
    exact hm

theorem About.tail {m : RendererMsg} {ms : List RendererMsg} (h : About l (m :: ms)) : About l ms :=
  fun x hx => h x (List.mem_cons_of_mem _ hx)

theorem About.head {m : RendererMsg} {ms : List RendererMsg} (h : About l (m :: ms)) :
    m.load? = some l := h m List.mem_cons_self

/-- The outcome of an event: a step that keeps the invariant, unless the event cannot happen. -/
def Goes (s : PageLoads) (x : Except LoadCheck PageLoads) : Prop :=
  (∃ s', x = .ok s' ∧ Inv s' ∧ Reports s s') ∨ x = .error .notEnabled ∨
    x = .error (.driver .notEnabled)

/-- The renderer says something about its load. -/
theorem Inv.say (h : Inv s) (hid : s.currentLoadId ≠ 0) {m : RendererMsg}
    (hm : m.load? = some s.currentLoadId) {id : ℕ} {b : Bool} (hid' : id = 0 ∨ id = s.currentLoadId)
    (hb : b = true → id ≠ 0) :
    Inv { s with msgs := s.msgs ++ [m], currentLoadId := id, pageLoading := b } := by
  refine ⟨?_, h.clock, h.models, h.tproxy, hb, h.delivered, h.tally,
    ⟨h.accounted.numbers, h.accounted.current, h.accounted.final⟩⟩
  cases h.phase with
  | initial _ _ _ _ hzero => exact absurd hzero hid
  | resetDone _ _ _ _ _ _ _ hzero => exact absurd hzero hid
  | loading _ _ _ _ _ _ hzero => exact absurd hzero hid
  | thinking _ _ _ _ _ hzero => exact absurd hzero hid
  | resetting hst hquiet hdom hcalls hmsgs hnum =>
    have hl := hnum.resolve_left hid
    exact .resetting hst hquiet hdom hcalls (hmsgs.append (hl ▸ hm)) (hl ▸ hid')
  | loadDone rs ms hst hquiet hpend hcalls hmsgs habout hnum =>
    have hl := hnum.resolve_left hid
    refine .loadDone rs (ms ++ [m]) hst hquiet hpend hcalls ?_ (habout.append (hl ▸ hm)) (hl ▸ hid')
    show s.msgs ++ [m] = _
    rw [hmsgs, List.append_assoc, List.cons_append]
  | running hst hwait hthink hpend hcalls hmsgs hnum =>
    have hl := hnum.resolve_left hid
    exact .running hst hwait hthink hpend hcalls (hmsgs.append (hl ▸ hm)) (hl ▸ hid')
  | waiting hst hthink hok hdom hcalls hmsgs hnum =>
    have hl := hnum.resolve_left hid
    exact .waiting hst hthink hok hdom hcalls (hmsgs.append (hl ▸ hm)) (hl ▸ hid')

/-- The renderer handles a call. -/
theorem Inv.handleCall (h : Inv s) (rs : List RequestNotice) : Goes s (s.step (.handleCall rs)) := by
  -- only while a reset or a load is asked for does a call wait at the renderer
  have hnone : s.driver.rendererCalls = [] → Goes s (s.step (.handleCall rs)) := by
    intro hcalls
    refine .inr (.inl ?_)
    rw [step, hcalls]
    rfl
  cases h.phase with
  | initial _ _ hcalls => exact hnone hcalls
  | resetDone _ _ _ _ hcalls => exact hnone hcalls
  | loadDone _ _ _ _ _ hcalls => exact hnone hcalls
  | running _ _ _ _ hcalls => exact hnone hcalls
  | waiting _ _ _ _ hcalls => exact hnone hcalls
  | thinking _ _ _ hcalls => exact hnone hcalls
  | resetting hst hquiet hdom hcalls hmsgs hnum =>
    have hstep : s.step (.handleCall rs) = .ok { s.resetLoadingState with
        driver := { s.driver with rendererCalls := [] }
        msgs := s.msgs ++ [.resetResp] } := by
      rw [step, hcalls]
      rfl
    refine .inl ⟨_, hstep, ?_, .inl rfl⟩
    refine ⟨?_, h.clock, h.models, h.tproxy, fun hb => absurd hb Bool.false_ne_true, h.delivered,
      h.tally, ⟨h.accounted.numbers, h.accounted.current, h.accounted.final⟩⟩
    exact .resetDone s.msgs hst ⟨hquiet.timeout, hquiet.wait, hquiet.think⟩ hdom rfl rfl hmsgs rfl
  | loading idx hst hquiet hpend hcalls hmsgs hid =>
    have hpos := h.accounted.pos (.inl hst)
    have hcheck : s.driver.loadnum ≠ s.currentLoadId ∧ 0 < s.driver.loadnum :=
      ⟨by rw [hid]; omega, hpos⟩
    have hstep : s.step (.handleCall rs) = .ok { s with
        driver := { s.driver with rendererCalls := [] }
        currentLoadId := s.driver.loadnum
        pageLoading := true
        msgs := s.msgs ++ (rs.map (.request s.driver.loadnum) ++ [.loadPageResp]) } := by
      rw [step, hcalls]
      dsimp only
      rw [handleLoadPage, check_pos hcheck]
      rfl
    refine .inl ⟨_, hstep, ?_, .inl rfl⟩
    refine ⟨?_, h.clock, h.models, h.tproxy, fun _ => Nat.ne_of_gt hpos, h.delivered, h.tally,
      ⟨h.accounted.numbers, h.accounted.current, h.accounted.final⟩⟩
    refine .loadDone rs [] hst ⟨hquiet.timeout, hquiet.wait, hquiet.think⟩ ⟨hpend.status, hpend.dom⟩ rfl
      ?_ (fun m hm => absurd hm List.not_mem_nil) (.inr rfl)
    show s.msgs ++ _ = _
    rw [hmsgs, List.nil_append]

/-! ### The driver's steps -/

theorem drive_ok {e : DriverEvent} {d : Driver} (hen : s.driver.Enabled s.clock e)
    (h : s.driver.handle s.clock e = .ok d) : s.drive e = .ok { s with driver := d } := by
  rw [drive, Driver.step, if_pos hen, h]
  rfl

theorem drive_error {e : DriverEvent} {k : DriverCheck} (hen : s.driver.Enabled s.clock e)
    (h : s.driver.handle s.clock e = .error k) : s.drive e = .error (.driver k) := by
  rw [drive, Driver.step, if_pos hen, h]
  rfl

theorem drive_notEnabled {e : DriverEvent} (hen : ¬ s.driver.Enabled s.clock e) :
    s.drive e = .error (.driver .notEnabled) := by
  rw [drive, Driver.step, if_neg hen]
  rfl

/-- A message gets to the driver. -/
theorem step_deliver {m : RendererMsg} {rest : List RendererMsg} (hmsgs : s.msgs = m :: rest)
    {t i : ℕ} {d : Driver} (hen : s.driver.Enabled s.clock (m.event t i))
    (h : s.driver.handle s.clock (m.event t i) = .ok d) :
    s.step (.deliver t i) =
      .ok { s with driver := d, msgs := rest, delivered := s.delivered ++ [m] } := by
  rw [step, hmsgs]
  dsimp only
  rw [drive_ok hen h]
  rfl

theorem step_deliver_error {m : RendererMsg} {rest : List RendererMsg} (hmsgs : s.msgs = m :: rest)
    {t i : ℕ} {k : LoadCheck} (h : s.drive (m.event t i) = .error k) :
    s.step (.deliver t i) = .error k := by
  rw [step, hmsgs]
  dsimp only
  rw [h]
  rfl

theorem Inv.delivered_snoc (h : Inv s) {m : RendererMsg}
    (hm : ∀ l, m.load? = some l → l ≤ s.driver.loadnum) :
    ∀ x ∈ s.delivered ++ [m], ∀ l, x.load? = some l → l ≤ s.driver.loadnum := by
  intro x hx
  rcases List.mem_append.mp hx with hx | hx
  · exact h.delivered x hx
  · rw [List.mem_singleton.mp hx]
    exact hm

/-- The load that was going on is over. -/
theorem Inv.ended (h : Inv s) (hl : s.Loading) (hthink : s.driver.thinkTimeTimer = none)
    (hcalls : s.driver.rendererCalls = [])
    (hid : s.currentLoadId = 0 ∨ s.currentLoadId = s.driver.loadnum) {st : PageLoadStatus}
    (hst : st = .ok ∨ st = .failed ∨ st = .timedout) {d : Driver} (hend : s.driver.Ended st d)
    {rest del : List RendererMsg} (hrest : About s.driver.loadnum rest)
    (hdel : ∀ m ∈ del, ∀ l, m.load? = some l → l ≤ s.driver.loadnum)
    (htally : LoadTally s.driver.loadnum s.driver.thisPageLoadInfo del) :
    Inv { s with driver := d, msgs := rest, delivered := del } ∧
      Reports s { s with driver := d, msgs := rest, delivered := del } := by
  obtain ⟨calls, rfl⟩ := hend
  have hcounts : (s.driver.decided st).pageLoadReport.Counts del := by
    refine LoadTally.counts (l := s.driver.loadnum) ?_ rfl
    exact ⟨htally.numReqs, htally.numSuccess, htally.numFailed, htally.loaded,
      htally.numAfterDOMLoadEvent, htally.forcedNodup, htally.forced⟩
  have hcurrent := h.accounted.current
  rw [if_pos hl] at hcurrent
  refine ⟨⟨?_, h.clock, h.models, h.tproxy, h.pageLoading, hdel, ?_, ?_, ?_, ?_⟩, .inr ⟨_, rfl, hcounts⟩⟩
  · -- the driver resets the renderer, and what is still said is about this load
    refine .resetting rfl ⟨rfl, rfl, hthink⟩ rfl ?_ hrest hid
    show s.driver.rendererCalls ++ [.reset] = _
    rw [hcalls, List.nil_append]
  · rintro (hload | hload) <;> cases hload
  · show (s.driver.reported ++ [_]).map _ = List.range' 1 (s.driver.reported ++ [_]).length
    rw [List.map_append, h.accounted.numbers, List.length_append, List.length_singleton,
      List.range'_concat]
    have hnum : s.driver.loadnum = 1 + 1 * s.driver.reported.length := by omega
    exact congrArg (fun n => List.range' 1 s.driver.reported.length ++ [n]) hnum
  · show s.driver.loadnum = (s.driver.reported ++ [_]).length + if _ then 1 else 0
    rw [List.length_append, List.length_singleton, if_neg, hcurrent]
    rintro (hload | hload) <;> cases hload
  · intro r hr
    rcases List.mem_append.mp hr with hr | hr
    · exact h.accounted.final r hr
    · rw [List.mem_singleton.mp hr]
      exact hst

/-- The next load begins. -/
theorem Inv.started (h : Inv s) (hl : ¬ s.Loading) (htimeout : s.driver.pageLoadTimeoutTimer = none)
    (hcalls : s.driver.rendererCalls = []) (hid : s.currentLoadId = 0) (htp : s.driver.TproxyInTime)
    {st : DriverState} {d : Driver}
    (hstart : Driver.Started { s.driver with state := st, thinkTimeTimer := none } d)
    {del : List RendererMsg} (hdel : ∀ m ∈ del, ∀ l, m.load? = some l → l ≤ s.driver.loadnum) :
    Inv { s with driver := d, msgs := [], delivered := del } ∧
      Reports s { s with driver := d, msgs := [], delivered := del } := by
  obtain ⟨idx, prev, start, calls, rfl⟩ := hstart
  have hcurrent := h.accounted.current
  rw [if_neg hl] at hcurrent
  refine ⟨⟨?_, h.clock, h.models, fun _ => htp, h.pageLoading, ?_, fun _ => LoadTally.fresh ?_,
    h.accounted.numbers, ?_, h.accounted.final⟩, .inl rfl⟩
  · refine .loading idx rfl ⟨htimeout, rfl, rfl⟩ ⟨rfl, rfl⟩ ?_ rfl hid
    show s.driver.rendererCalls ++ _ = _
    rw [hcalls, List.nil_append]
  · exact fun m hm l' hl' => Nat.le_succ_of_le (hdel m hm l' hl')
  · exact fun m hm l' hl' => Nat.lt_succ_of_le (hdel m hm l' hl')
  · show s.driver.loadnum + 1 = s.driver.reported.length + if _ then 1 else 0
    rw [if_pos (.inl rfl), hcurrent]

/-- The driver has taken note of a request. -/
theorem Inv.noted (h : Inv s) {r : RequestNotice} {rest : List RendererMsg}
    (hmsgs : s.msgs = .request l r :: rest) {info : OnePageLoadInfo} {timer : Option ℕ}
    (hn : Driver.Noted r s.driver info timer) :
    Inv { s with
      driver := { s.driver with thisPageLoadInfo := info, waitForMoreRequestsTimer := timer }
      msgs := rest
      delivered := s.delivered ++ [.request l r] } := by
  -- the message is about the load with the present number
  have hnum : l = s.driver.loadnum := by
    have habout : ∀ {ms}, About s.driver.loadnum ms → s.msgs = ms → l = s.driver.loadnum := by
      intro ms hms heq
      rw [← heq, hmsgs] at hms
      exact Option.some.inj hms.head
    cases h.phase with
    | initial _ _ _ hnil => exact absurd (hmsgs.symm.trans hnil) (List.cons_ne_nil _ _)
    | loading _ _ _ _ _ hnil => exact absurd (hmsgs.symm.trans hnil) (List.cons_ne_nil _ _)
    | thinking _ _ _ _ hnil => exact absurd (hmsgs.symm.trans hnil) (List.cons_ne_nil _ _)
    | resetting _ _ _ _ habt => exact habout habt rfl
    | running _ _ _ _ _ habt => exact habout habt rfl
    | waiting _ _ _ _ _ habt => exact habout habt rfl
    | resetDone ms _ _ _ _ heq habt =>
      cases ms with
      | nil => cases hmsgs.symm.trans heq
      | cons m ms =>
        cases hmsgs.symm.trans heq
        exact Option.some.inj habt.head
    | loadDone rs ms _ _ _ _ heq =>
      cases rs with
      | nil => cases hmsgs.symm.trans heq
      | cons r' rs =>
        cases hmsgs.symm.trans heq
        rfl
  subst hnum
  refine ⟨?_, h.clock, h.models, h.tproxy, h.pageLoading, ?_, fun hl => hn.tally _ _ (h.tally hl),
    ⟨h.accounted.numbers, h.accounted.current, h.accounted.final⟩⟩
  · cases h.phase with
    | initial _ _ _ hnil => exact absurd (hmsgs.symm.trans hnil) (List.cons_ne_nil _ _)
    | loading _ _ _ _ _ hnil => exact absurd (hmsgs.symm.trans hnil) (List.cons_ne_nil _ _)
    | thinking _ _ _ _ hnil => exact absurd (hmsgs.symm.trans hnil) (List.cons_ne_nil _ _)
    | resetting hst hquiet hdom hcalls habt hid =>
      rw [hmsgs] at habt
      exact .resetting hst ⟨hquiet.timeout, hn.wait hdom hquiet.wait, hquiet.think⟩
        (hn.dom.trans hdom) hcalls habt.tail hid
    | running hst hwait hthink hpend hcalls habt hid =>
      rw [hmsgs] at habt
      exact .running hst (hn.wait hpend.dom hwait) hthink
        ⟨hn.status.trans hpend.status, hn.dom.trans hpend.dom⟩ hcalls habt.tail hid
    | waiting hst hthink hok hdom hcalls habt hid =>
      rw [hmsgs] at habt
      exact .waiting hst hthink (hn.status.trans hok) (by rw [hn.dom]; exact hdom) hcalls habt.tail hid
    | resetDone ms hst hquiet hdom hcalls heq habt hid =>
      cases ms with
      | nil => cases hmsgs.symm.trans heq
      | cons m ms =>
        cases hmsgs.symm.trans heq
        exact .resetDone ms hst ⟨hquiet.timeout, hn.wait hdom hquiet.wait, hquiet.think⟩
          (hn.dom.trans hdom) hcalls rfl habt.tail hid
    | loadDone rs ms hst hquiet hpend hcalls heq habt hid =>
      cases rs with
      | nil => cases hmsgs.symm.trans heq
      | cons r' rs =>
        cases hmsgs.symm.trans heq
        exact .loadDone rs ms hst ⟨hquiet.timeout, hn.wait hpend.dom hquiet.wait, hquiet.think⟩
          ⟨hn.status.trans hpend.status, hn.dom.trans hpend.dom⟩ hcalls rfl habt hid
  · exact h.delivered_snoc fun l' hl' => Nat.le_of_eq (Option.some.inj hl').symm

/-- A message about the end of a load that the driver has ended. -/
theorem Inv.ignored (h : Inv s) {m : RendererMsg} {rest : List RendererMsg} (hmsgs : s.msgs = m :: rest)
    (hst : s.driver.state ≠ .loadingPage) (hm : m.load? = some s.driver.loadnum)
    (hreq : ∀ l r, m ≠ .request l r) (t i : ℕ) : Goes s (s.step (.deliver t i)) := by
  -- the driver does nothing with it
  have hstep : s.step (.deliver t i) =
      .ok { s with driver := s.driver, msgs := rest, delivered := s.delivered ++ [m] } := by
    cases m with
    | request l r => exact absurd rfl (hreq l r)
    | pageLoaded l ttfbMs =>
      obtain rfl : l = s.driver.loadnum := Option.some.inj hm
      exact step_deliver hmsgs trivial (Driver.handle_ignored hst _ _).1
    | pageLoadFailed l =>
      obtain rfl : l = s.driver.loadnum := Option.some.inj hm
      exact step_deliver hmsgs trivial (Driver.handle_ignored hst _ 0).2
    | resetResp => cases hm
    | loadPageResp => cases hm
  refine .inl ⟨_, hstep, ?_, .inl rfl⟩
  refine ⟨?_, h.clock, h.models, h.tproxy, h.pageLoading, ?_, fun hl => ?_,
    ⟨h.accounted.numbers, h.accounted.current, h.accounted.final⟩⟩
  · -- the phase keeps the messages behind it
    cases h.phase with
    | initial _ _ _ hnil => exact absurd (hmsgs.symm.trans hnil) (List.cons_ne_nil _ _)
    | thinking _ _ _ _ hnil => exact absurd (hmsgs.symm.trans hnil) (List.cons_ne_nil _ _)
    | loading _ hload => exact absurd hload hst
    | loadDone _ _ hload => exact absurd hload hst
    | running hload => exact absurd hload hst
    | resetting hst hquiet hdom hcalls habt hid =>
      rw [hmsgs] at habt
      exact .resetting hst hquiet hdom hcalls habt.tail hid
    | waiting hst hthink hok hdom hcalls habt hid =>
      rw [hmsgs] at habt
      exact .waiting hst hthink hok hdom hcalls habt.tail hid
    | resetDone ms hst hquiet hdom hcalls heq habt hid =>
      cases ms with
      | nil =>
        cases hmsgs.symm.trans heq
        cases hm
      | cons m' ms =>
        cases hmsgs.symm.trans heq
        exact .resetDone ms hst hquiet hdom hcalls rfl habt.tail hid
  · exact h.delivered_snoc fun l' hl' => Nat.le_of_eq (Option.some.inj (hl'.symm.trans hm))
  · -- the load event has fired already
    have hwait : s.driver.state = .waitForMoreRequestsAfterDOMLoadEvent := hl.resolve_left hst
    have hdom : 0 < s.driver.thisPageLoadInfo.DOMLoadEventFiredTimepoint := by
      cases h.phase with
      | waiting _ _ _ hdom => exact hdom
      | initial hst => cases hst.symm.trans hwait
      | thinking hst => cases hst.symm.trans hwait
      | loading _ hst => cases hst.symm.trans hwait
      | loadDone _ _ hst => cases hst.symm.trans hwait
      | running hst => cases hst.symm.trans hwait
      | resetting hst => cases hst.symm.trans hwait
      | resetDone _ hst => cases hst.symm.trans hwait
    cases m with
    | request l r => exact absurd rfl (hreq l r)
    | _ => exact (h.tally hl).other rfl (fun _ => rfl) rfl fun _ => hdom

/-- The end of a load gets to the driver while the page is loading. -/
theorem Inv.told (h : Inv s) {m : RendererMsg} {rest : List RendererMsg} (hmsgs : s.msgs = m :: rest)
    (hst : s.driver.state = .loadingPage) (hwait : s.driver.waitForMoreRequestsTimer = none)
    (hthink : s.driver.thinkTimeTimer = none) (hpend : Pending s.driver)
    (hcalls : s.driver.rendererCalls = []) (habt : About s.driver.loadnum (m :: rest))
    (hid : s.currentLoadId = 0 ∨ s.currentLoadId = s.driver.loadnum)
    (hreq : ∀ l r, m ≠ .request l r) (t i : ℕ) : Goes s (s.step (.deliver t i)) := by
  have hl : s.Loading := .inl hst
  have htp := h.tproxy (h.accounted.pos hl)
  have hload := habt.head
  cases m with
  | request l r => exact absurd rfl (hreq l r)
  | resetResp => cases hload
  | loadPageResp => cases hload
  | pageLoaded l ttfbMs =>
    obtain rfl : l = s.driver.loadnum := Option.some.inj hload
    obtain ⟨calls, timer, hd⟩ := Driver.handle_pageLoaded htp hst hwait s.clock ttfbMs
    refine .inl ⟨_, step_deliver hmsgs trivial hd, ?_, .inl rfl⟩
    refine ⟨.waiting rfl hthink rfl h.clock hcalls habt.tail hid, h.clock, h.models, h.tproxy,
      h.pageLoading, ?_, fun _ => (h.tally hl).pageLoaded hpend.dom h.clock, h.accounted.numbers, ?_,
      h.accounted.final⟩
    · exact h.delivered_snoc fun l' hl' => Nat.le_of_eq (Option.some.inj hl').symm
    · have hcurrent := h.accounted.current
      rw [if_pos hl] at hcurrent
      show s.driver.loadnum = s.driver.reported.length + if _ then 1 else 0
      rw [if_pos (.inr rfl)]
      exact hcurrent
  -- the page has failed, so this load ends here
  | pageLoadFailed l =>
    obtain rfl : l = s.driver.loadnum := Option.some.inj hload
    obtain ⟨d, hd, hend⟩ := Driver.handle_pageLoadFailed htp hst hpend.status hwait s.clock
    have htally : LoadTally s.driver.loadnum s.driver.thisPageLoadInfo
        (s.delivered ++ [.pageLoadFailed s.driver.loadnum]) :=
      (h.tally hl).other rfl (fun _ => rfl) rfl fun hf => absurd hf Bool.false_ne_true
    have hdel := h.delivered_snoc (m := .pageLoadFailed s.driver.loadnum)
      fun l' hl' => Nat.le_of_eq (Option.some.inj hl').symm
    exact .inl ⟨_, step_deliver hmsgs trivial hd,
      h.ended hl hthink hcalls hid (.inr (.inl rfl)) hend habt.tail hdel htally⟩

/-- The renderer has been reset: the driver thinks, or loads the first page. -/
theorem Inv.resetAnswered (h : Inv s) (hmsgs : s.msgs = [.resetResp])
    (hst : s.driver.state = .resetRenderer) (hquiet : Quiet s.driver)
    (hcalls : s.driver.rendererCalls = []) (hid : s.currentLoadId = 0)
    (htp : s.driver.loadnum = 0 → s.driver.TproxyInTime) (t i : ℕ) :
    Goes s (s.step (.deliver t i)) := by
  by_cases hen : s.driver.Enabled s.clock (RendererMsg.resetResp.event t i)
  swap
  · exact .inr (.inr (step_deliver_error hmsgs (drive_notEnabled hen)))
  have hl : ¬ s.Loading := by
    rintro (hload | hload)
    · cases hst.symm.trans hload
    · cases hst.symm.trans hload
  have hdel := h.delivered_snoc (m := .resetResp) fun l hl => nomatch hl
  have hreset : s.driver.handle s.clock (RendererMsg.resetResp.event t i) =
      Driver.doStartThinkingOrLoading { s.driver with state := .doneResetRenderer } s.clock t i := by
    show s.driver.rendererOnResetResp s.clock .recv t i = _
    rw [Driver.rendererOnResetResp, check_pos hst, ok_bind, check_pos (by decide), ok_bind]
  by_cases hnum : s.driver.loadnum = 0
  · -- right after the start
    have hquiet' : ({ s.driver with state := .doneResetRenderer } : Driver) =
        { s.driver with state := .doneResetRenderer, thinkTimeTimer := none } := by
      rw [← hquiet.think]
    obtain ⟨d, hd, hstart⟩ := (Driver.rendererLoadPage_iff
      (d := { s.driver with state := .doneResetRenderer }) (.inr rfl) hen.2.2 s.clock).1 (htp hnum)
    rw [hquiet'] at hstart
    have hhandle : s.driver.handle s.clock (RendererMsg.resetResp.event t i) = .ok d := by
      rw [hreset, Driver.doStartThinkingOrLoading, if_neg (not_not.mpr hnum)]
      exact hd
    exact .inl ⟨_, step_deliver hmsgs hen hhandle,
      h.started hl hquiet.timeout hcalls hid (htp hnum) hstart hdel⟩
  · -- a page has been loaded before, so the driver thinks first
    have hhandle : s.driver.handle s.clock (RendererMsg.resetResp.event t i) =
        .ok { s.driver with state := .thinking, thinkTimeTimer := some (s.clock + t) } := by
      rw [hreset, Driver.doStartThinkingOrLoading, if_pos hnum, Driver.startThinking, check_pos rfl,
        ok_bind, check_pos hquiet.think]
      rfl
    refine .inl ⟨_, step_deliver hmsgs hen hhandle, ?_, .inl rfl⟩
    have hcurrent := h.accounted.current
    rw [if_neg hl] at hcurrent
    refine ⟨.thinking rfl hquiet.timeout hquiet.wait hcalls rfl hid (Nat.pos_of_ne_zero hnum), h.clock,
      h.models, h.tproxy, h.pageLoading, hdel, ?_, h.accounted.numbers, ?_, h.accounted.final⟩
    · rintro (hload | hload) <;> cases hload
    · show s.driver.loadnum = s.driver.reported.length + if _ then 1 else 0
      rw [if_neg, hcurrent]
      rintro (hload | hload) <;> cases hload

/-- The renderer has begun to load the page. -/
theorem Inv.loadAnswered (h : Inv s) {rest : List RendererMsg} (hmsgs : s.msgs = .loadPageResp :: rest)
    (hst : s.driver.state = .loadingPage) (hquiet : Quiet s.driver) (hpend : Pending s.driver)
    (hcalls : s.driver.rendererCalls = []) (habout : About s.driver.loadnum rest)
    (hid : s.currentLoadId = 0 ∨ s.currentLoadId = s.driver.loadnum) (t i : ℕ) :
    Goes s (s.step (.deliver t i)) := by
  have hhandle : s.driver.handle s.clock (RendererMsg.loadPageResp.event t i) =
      .ok { s.driver with pageLoadTimeoutTimer := some (s.clock + pageLoadTimeoutMs) } := by
    show s.driver.rendererOnLoadPageResp s.clock .recv = _
    rw [Driver.rendererOnLoadPageResp, check_pos hst, ok_bind, check_pos (by decide)]
    rfl
  refine .inl ⟨_, step_deliver hmsgs trivial hhandle, ?_, .inl rfl⟩
  refine ⟨.running hst hquiet.wait hquiet.think ⟨hpend.status, hpend.dom⟩ hcalls habout hid, h.clock,
    h.models, h.tproxy, h.pageLoading, h.delivered_snoc fun l hl => (nomatch hl), fun hl => ?_,
    ⟨h.accounted.numbers, h.accounted.current, h.accounted.final⟩⟩
  exact (h.tally hl).other rfl (fun _ => rfl) rfl fun hf => absurd hf Bool.false_ne_true

/-- A message gets to the driver. -/
theorem Inv.deliver (h : Inv s) (t i : ℕ) (hs : s.Sound (.deliver t i)) :
    Goes s (s.step (.deliver t i)) := by
  cases hmsgs : s.msgs with
  | nil =>
    refine .inr (.inl ?_)
    rw [step, hmsgs]
    rfl
  | cons m rest =>
    rw [Sound, hmsgs] at hs
    by_cases hreq : ∃ l r, m = .request l r
    · obtain ⟨l, r, rfl⟩ := hreq
      obtain ⟨info, timer, hd, hn⟩ := Driver.handle_request r hs s.driver l s.clock t i
      have hen : s.driver.Enabled s.clock ((RendererMsg.request l r).event t i) := by
        cases r <;> exact trivial
      exact .inl ⟨_, step_deliver hmsgs hen hd, h.noted hmsgs hn, .inl rfl⟩
    have hreq' : ∀ l r, m ≠ .request l r := fun l r heq => hreq ⟨l, r, heq⟩
    -- what is said about an earlier load is ignored; otherwise the phase names the next message
    cases h.phase with
    | initial _ _ _ hnil => exact absurd (hmsgs.symm.trans hnil) (List.cons_ne_nil _ _)
    | loading _ _ _ _ _ hnil => exact absurd (hmsgs.symm.trans hnil) (List.cons_ne_nil _ _)
    | thinking _ _ _ _ hnil => exact absurd (hmsgs.symm.trans hnil) (List.cons_ne_nil _ _)
    | resetting hst _ _ _ habt =>
      rw [hmsgs] at habt
      exact h.ignored hmsgs (by rw [hst]; decide) habt.head hreq' t i
    | waiting hst _ _ _ _ habt =>
      rw [hmsgs] at habt
      exact h.ignored hmsgs (by rw [hst]; decide) habt.head hreq' t i
    | running hst hwait hthink hpend hcalls habt hid =>
      rw [hmsgs] at habt
      exact h.told hmsgs hst hwait hthink hpend hcalls habt hid hreq' t i
    | resetDone ms hst hquiet hdom hcalls heq habt hid =>
      cases ms with
      | nil =>
        obtain ⟨rfl, rfl⟩ := List.cons.inj (hmsgs.symm.trans heq)
        exact h.resetAnswered hmsgs hst hquiet hcalls hid hs t i
      | cons m' ms =>
        obtain ⟨rfl, rfl⟩ := List.cons.inj (hmsgs.symm.trans heq)
        exact h.ignored hmsgs (by rw [hst]; decide) habt.head hreq' t i
    | loadDone rs ms hst hquiet hpend hcalls heq habt hid =>
      cases rs with
      | nil =>
        obtain ⟨rfl, rfl⟩ := List.cons.inj (hmsgs.symm.trans heq)
        exact h.loadAnswered hmsgs hst hquiet hpend hcalls habt hid t i
      | cons r rs =>
        obtain ⟨rfl, rfl⟩ := List.cons.inj (hmsgs.symm.trans heq)
        exact absurd rfl (hreq' _ _)

theorem not_isDue {timer : Option ℕ} {now : ℕ} (h : timer = none) :
    ¬ Driver.isDue timer now = true := by
  rw [h]
  exact Bool.false_ne_true

/-- No more requests have come for a while. -/
theorem Inv.waitTimerFired (h : Inv s) : Goes s (s.step .waitForMoreRequestsTimerFired) := by
  by_cases hen : Driver.isDue s.driver.waitForMoreRequestsTimer s.clock = true
  swap
  · exact .inr (.inr (drive_notEnabled hen))
  cases h.phase with
  | initial _ hquiet => exact absurd hen (not_isDue hquiet.wait)
  | resetting _ hquiet => exact absurd hen (not_isDue hquiet.wait)
  | resetDone _ _ hquiet => exact absurd hen (not_isDue hquiet.wait)
  | loading _ _ hquiet => exact absurd hen (not_isDue hquiet.wait)
  | loadDone _ _ _ hquiet => exact absurd hen (not_isDue hquiet.wait)
  | running _ hwait => exact absurd hen (not_isDue hwait)
  | thinking _ _ hwait => exact absurd hen (not_isDue hwait)
  | waiting hst hthink hok hdom hcalls habt hid =>
    obtain ⟨d, hd, hend⟩ := Driver.handle_waitForMoreRequestsTimerFired hst hok s.clock
    exact .inl ⟨_, drive_ok hen hd, h.ended (.inr hst) hthink hcalls hid (.inl rfl) hend habt
      h.delivered (h.tally (.inr hst))⟩

/-- The load has taken too long. -/
theorem Inv.timeoutFired (h : Inv s) : Goes s (s.step .pageLoadTimeout) := by
  by_cases hen : Driver.isDue s.driver.pageLoadTimeoutTimer s.clock = true
  swap
  · exact .inr (.inr (drive_notEnabled hen))
  have hfinal : ∀ {st}, st = PageLoadStatus.ok ∨ st = .timedout →
      st = .ok ∨ st = .failed ∨ st = .timedout := fun hst => hst.imp_right .inr
  cases h.phase with
  | initial _ hquiet => exact absurd hen (not_isDue hquiet.timeout)
  | resetting _ hquiet => exact absurd hen (not_isDue hquiet.timeout)
  | resetDone _ _ hquiet => exact absurd hen (not_isDue hquiet.timeout)
  | loading _ _ hquiet => exact absurd hen (not_isDue hquiet.timeout)
  | loadDone _ _ _ hquiet => exact absurd hen (not_isDue hquiet.timeout)
  | thinking _ htimeout => exact absurd hen (not_isDue htimeout)
  | running hst hwait hthink hpend hcalls habt hid =>
    have hl : s.Loading := .inl hst
    obtain ⟨d, st, hd, hend, hst'⟩ := Driver.handle_pageLoadTimeout (h.tproxy (h.accounted.pos hl))
      (.inl ⟨hst, hpend.status, hpend.dom⟩) s.clock
    exact .inl ⟨_, drive_ok hen hd, h.ended hl hthink hcalls hid (hfinal hst') hend habt h.delivered
      (h.tally hl)⟩
  | waiting hst hthink hok hdom hcalls habt hid =>
    have hl : s.Loading := .inr hst
    obtain ⟨d, st, hd, hend, hst'⟩ := Driver.handle_pageLoadTimeout (h.tproxy (h.accounted.pos hl))
      (.inr ⟨hok, hdom⟩) s.clock
    exact .inl ⟨_, drive_ok hen hd, h.ended hl hthink hcalls hid (hfinal hst') hend habt h.delivered
      (h.tally hl)⟩

/-- The driver has thought. -/
theorem Inv.thinkTimerFired (h : Inv s) (i : ℕ) (htp : s.driver.TproxyInTime) :
    Goes s (s.step (.thinkTimeTimerFired i)) := by
  by_cases hen : Driver.isDue s.driver.thinkTimeTimer s.clock = true ∧ i < s.driver.numPageModels
  swap
  · exact .inr (.inr (drive_notEnabled hen))
  cases h.phase with
  | initial _ hquiet => exact absurd hen.1 (not_isDue hquiet.think)
  | resetting _ hquiet => exact absurd hen.1 (not_isDue hquiet.think)
  | resetDone _ _ hquiet => exact absurd hen.1 (not_isDue hquiet.think)
  | loading _ _ hquiet => exact absurd hen.1 (not_isDue hquiet.think)
  | loadDone _ _ _ hquiet => exact absurd hen.1 (not_isDue hquiet.think)
  | running _ _ hthink => exact absurd hen.1 (not_isDue hthink)
  | waiting _ hthink => exact absurd hen.1 (not_isDue hthink)
  | thinking hst htimeout hwait hcalls hmsgs hid =>
    have hl : ¬ s.Loading := by
      rintro (hload | hload)
      · cases hst.symm.trans hload
      · cases hst.symm.trans hload
    obtain ⟨d, hd, hstart⟩ := (Driver.rendererLoadPage_iff
      (d := { s.driver with thinkTimeTimer := none }) (.inl hst) hen.2 s.clock).1 htp
    have hhandle : s.driver.handle s.clock (.thinkTimeTimerFired i) = .ok d := by
      show s.driver.onThinkTimeTimerFired s.clock i = _
      rw [Driver.onThinkTimeTimerFired, check_pos hst, ok_bind]
      exact hd
    have hgoes := h.started hl htimeout hcalls hid htp hstart h.delivered
    rw [← hmsgs] at hgoes
    exact .inl ⟨_, drive_ok hen hhandle, hgoes⟩

theorem Initial.inv (h : Initial s) : Inv s := by
  obtain ⟨hid, hloading, hmsgs, hdel⟩ := h.renderer
  have hd := h.driver
  have hst : s.driver.state = .initial := by rw [hd]
  have hl : ¬ s.Loading := by
    rintro (hload | hload)
    · cases hst.symm.trans hload
    · cases hst.symm.trans hload
  have hnum : s.driver.loadnum = 0 := by rw [hd]
  have hreported : s.driver.reported = [] := by rw [hd]
  refine ⟨.initial hst ⟨by rw [hd], by rw [hd], by rw [hd]⟩ (by rw [hd]) hmsgs hid hnum (by rw [hd]), h.clock,
    h.models, fun hpos => absurd hpos (by omega), fun hb => ?_, fun m hm => ?_,
    fun hload => absurd hload hl, ?_, ?_, ?_⟩
  · exact absurd (hloading.symm.trans hb) Bool.false_ne_true
  · rw [hdel] at hm
    exact absurd hm List.not_mem_nil
  · rw [hreported]
    rfl
  · rw [hnum, hreported, if_neg hl]
    rfl
  · intro r hr
    rw [hreported] at hr
    exact absurd hr List.not_mem_nil

/-- The proxy can be called. -/
theorem Inv.tproxyReady (h : Inv s) :
    Inv { s with driver := { s.driver with tproxyIpcChReady := true } } := by
  refine ⟨?_, h.clock, h.models, fun _ _ => rfl, h.pageLoading, h.delivered, h.tally,
    ⟨h.accounted.numbers, h.accounted.current, h.accounted.final⟩⟩
  cases h.phase with
  | initial hst hquiet hcalls hmsgs hid hnum hdom =>
    exact .initial hst ⟨hquiet.timeout, hquiet.wait, hquiet.think⟩ hcalls hmsgs hid hnum hdom
  | resetting hst hquiet hdom hcalls hmsgs hid =>
    exact .resetting hst ⟨hquiet.timeout, hquiet.wait, hquiet.think⟩ hdom hcalls hmsgs hid
  | resetDone ms hst hquiet hdom hcalls hmsgs habout hid =>
    exact .resetDone ms hst ⟨hquiet.timeout, hquiet.wait, hquiet.think⟩ hdom hcalls hmsgs habout hid
  | loading idx hst hquiet hpend hcalls hmsgs hid =>
    exact .loading idx hst ⟨hquiet.timeout, hquiet.wait, hquiet.think⟩ ⟨hpend.status, hpend.dom⟩
      hcalls hmsgs hid
  | loadDone rs ms hst hquiet hpend hcalls hmsgs habout hid =>
    exact .loadDone rs ms hst ⟨hquiet.timeout, hquiet.wait, hquiet.think⟩ ⟨hpend.status, hpend.dom⟩
      hcalls hmsgs habout hid
  | running hst hwait hthink hpend hcalls hmsgs hid =>
    exact .running hst hwait hthink ⟨hpend.status, hpend.dom⟩ hcalls hmsgs hid
  | waiting hst hthink hok hdom hcalls hmsgs hid =>
    exact .waiting hst hthink hok hdom hcalls hmsgs hid
  | thinking hst htimeout hwait hcalls hmsgs hid hnum =>
    exact .thinking hst htimeout hwait hcalls hmsgs hid hnum

/-- The renderer can be called: the driver has it reset. -/
theorem Inv.rendererReady (h : Inv s) (hst : s.driver.state = .initial) :
    Inv { s with driver := s.driver.rendererReset } := by
  have hl : ¬ s.Loading := by
    rintro (hload | hload)
    · cases hst.symm.trans hload
    · cases hst.symm.trans hload
  have hcurrent := h.accounted.current
  rw [if_neg hl] at hcurrent
  refine ⟨?_, h.clock, h.models, h.tproxy, h.pageLoading, h.delivered, ?_, h.accounted.numbers, ?_,
    h.accounted.final⟩
  · cases h.phase with
    | initial _ hquiet hcalls hmsgs hid _ hdom =>
      refine .resetting rfl ⟨hquiet.timeout, hquiet.wait, hquiet.think⟩ hdom ?_ ?_ (.inl hid)
      · show s.driver.rendererCalls ++ [.reset] = _
        rw [hcalls, List.nil_append]
      · rw [hmsgs]
        exact fun m hm => absurd hm List.not_mem_nil
    | resetting hreset => cases hst.symm.trans hreset
    | resetDone _ hreset => cases hst.symm.trans hreset
    | loading _ hload => cases hst.symm.trans hload
    | loadDone _ _ hload => cases hst.symm.trans hload
    | running hload => cases hst.symm.trans hload
    | waiting hwait => cases hst.symm.trans hwait
    | thinking hthink => cases hst.symm.trans hthink
  · rintro (hload | hload) <;> cases hload
  · show s.driver.loadnum = s.driver.reported.length + if _ then 1 else 0
    rw [if_neg, hcurrent]
    rintro (hload | hload) <;> cases hload

/-- **One step of the two processes.** -/
theorem Inv.step (h : Inv s) (e : LoadEvent) (hs : s.Sound e) : Goes s (s.step e) := by
  cases e with
  | deliver t i => exact h.deliver t i hs
  | waitForMoreRequestsTimerFired => exact h.waitTimerFired
  | pageLoadTimeout => exact h.timeoutFired
  | thinkTimeTimerFired i => exact h.thinkTimerFired i hs
  | handleCall rs => exact h.handleCall rs
  | tproxyReady => exact .inl ⟨_, drive_ok trivial rfl, h.tproxyReady, .inl rfl⟩
  | setAutoStartResp ok => exact .inl ⟨_, drive_ok trivial rfl, h, .inl rfl⟩
  | stopDefenseResp => exact .inl ⟨_, drive_ok trivial rfl, h, .inl rfl⟩
  | elapse ms =>
    refine .inl ⟨_, rfl, ⟨h.phase, Nat.add_pos_left h.clock ms, h.models, h.tproxy, h.pageLoading,
      h.delivered, h.tally, ⟨h.accounted.numbers, h.accounted.current, h.accounted.final⟩⟩, .inl rfl⟩
  -- the renderer's own events are only enabled where it can say them
  | rendererReady =>
    by_cases hst : s.driver.state = .initial
    · refine .inl ⟨_, ?_, h.rendererReady hst, .inl rfl⟩
      rw [PageLoads.step, check_pos hst, ok_bind]
      exact drive_ok trivial rfl
    · refine .inr (.inl ?_)
      rw [PageLoads.step, check_neg hst]
      rfl
  | request r =>
    by_cases hid : s.currentLoadId = 0
    · refine .inr (.inl ?_)
      rw [PageLoads.step, check_neg (not_not.mpr hid)]
      rfl
    · refine .inl ⟨_, ?_, h.say hid (m := .request s.currentLoadId r) rfl (.inr rfl) h.pageLoading,
        .inl rfl⟩
      rw [PageLoads.step, check_pos hid]
      rfl
  | pageLoaded ttfbMs =>
    by_cases hloading : s.pageLoading = true
    · have hid := h.pageLoading hloading
      refine .inl ⟨_, ?_, h.say (b := false) hid (m := .pageLoaded s.currentLoadId ttfbMs) rfl (.inr rfl)
        (fun hb => absurd hb Bool.false_ne_true), .inl rfl⟩
      rw [PageLoads.step, check_pos hloading]
      rfl
    · refine .inr (.inl ?_)
      rw [PageLoads.step, check_neg hloading]
      rfl
  | mainResourceFailed =>
    by_cases hid : s.currentLoadId = 0
    · refine .inr (.inl ?_)
      rw [PageLoads.step, check_neg (not_not.mpr hid)]
      rfl
    · refine .inl ⟨_, ?_, h.say (b := false) hid (m := .pageLoadFailed s.currentLoadId) rfl (.inl rfl)
        (fun hb => absurd hb Bool.false_ne_true), .inl rfl⟩
      rw [PageLoads.step, check_pos hid]
      rfl

/-- A step that is not sound does not go through. -/
theorem not_sound_step {e : LoadEvent} (hs : ¬ s.Sound e) : ¬ s.Step e s' := by
  -- what the driver cannot do, the step cannot do
  have hdrive : ∀ {e t : _}, s.drive e = .ok t → ∃ d, s.driver.handle s.clock e = .ok d := by
    intro e t h
    by_cases hen : s.driver.Enabled s.clock e
    · cases hd : s.driver.handle s.clock e with
      | error k =>
        rw [drive_error hen hd] at h
        cases h
      | ok d => exact ⟨d, rfl⟩
    · rw [drive_notEnabled hen] at h
      cases h
  intro hstep
  cases e with
  | deliver t i =>
    cases hmsgs : s.msgs with
    | nil =>
      rw [Sound, hmsgs] at hs
      exact hs trivial
    | cons m rest =>
      rw [Sound, hmsgs] at hs
      have hok : ∃ d, s.driver.handle s.clock (m.event t i) = .ok d := by
        rw [Step, step, hmsgs] at hstep
        obtain ⟨s₁, hs₁, -⟩ := bind_eq_ok.mp hstep
        exact hdrive hs₁
      obtain ⟨d, hd⟩ := hok
      cases m with
      | request l r =>
        rw [Driver.handle_request_zero hs] at hd
        cases hd
      | resetResp =>
        obtain ⟨hnum, hnot⟩ := Classical.not_imp.mp hs
        obtain ⟨_, -, hd⟩ := bind_eq_ok.mp (show s.driver.rendererOnResetResp s.clock .recv t i = _ from hd)
        obtain ⟨_, -, hd⟩ := bind_eq_ok.mp hd
        rw [Driver.doStartThinkingOrLoading, if_neg (not_not.mpr hnum)] at hd
        have htp := Driver.tproxyInTime_of_rendererLoadPage hd
        exact hnot htp
      | pageLoaded => exact hs trivial
      | pageLoadFailed => exact hs trivial
      | loadPageResp => exact hs trivial
  | thinkTimeTimerFired i =>
    obtain ⟨d, hd⟩ := hdrive (show s.drive (.thinkTimeTimerFired i) = _ from hstep)
    obtain ⟨_, -, hd⟩ := bind_eq_ok.mp (show s.driver.onThinkTimeTimerFired s.clock i = _ from hd)
    have htp := Driver.tproxyInTime_of_rendererLoadPage hd
    exact hs htp
  | _ => exact hs trivial

/-- No check fails: the event goes through, or it cannot happen now. -/
def NoCheckFails (x : Except LoadCheck PageLoads) : Prop :=
  ∀ k, x = .error k → k = .notEnabled ∨ k = .driver .notEnabled

/-- **The driver's accounts.**  In every run of the driver and the renderer in which no load starts
before a proxy that is used can be called, and no request for a resource without a number gets to
the driver: each load has been reported exactly once, and with a final status, before the next one
starts; a report counts exactly the messages about its load; and no check fails.  A step that does
not meet the condition does not go through. -/
theorem loads_accounted {es : List LoadEvent} (hinit : Initial s₀)
    (hrun : Run (Guarded Sound Step) s₀ es s) :
    Accounted s ∧ (∀ e, s.Sound e → NoCheckFails (s.step e)) ∧
      (∀ e s', s.Step e s' → Reports s s') ∧ ∀ e, ¬ s.Sound e → ∀ s', ¬ s.Step e s' := by
  have hinv : Inv s := by
    refine hrun.invariant (P := Inv) ?_ hinit.inv
    rintro t e t' ht ⟨hs, hstep⟩
    obtain ⟨t₁, ht₁, hinv, -⟩ | hk | hk := ht.step e hs
    · obtain rfl : t' = t₁ := Except.ok.inj (hstep.symm.trans ht₁)
      exact hinv
    · cases hstep.symm.trans hk
    · cases hstep.symm.trans hk
  refine ⟨hinv.accounted, fun e hs k hk => ?_, fun e s' hstep => ?_, fun e hs s' => not_sound_step hs⟩
  · obtain ⟨t, ht, -⟩ | hk' | hk' := hinv.step e hs
    · cases hk.symm.trans ht
    · exact .inl (Except.error.inj (hk.symm.trans hk'))
    · exact .inr (Except.error.inj (hk.symm.trans hk'))
  · have hs : s.Sound e := by
      by_contra hnot
      exact not_sound_step hnot hstep
    obtain ⟨t, ht, -, hreports⟩ | hk | hk := hinv.step e hs
    · obtain rfl : s' = t := Except.ok.inj (hstep.symm.trans ht)
      exact hreports
    · cases hstep.symm.trans hk
    · cases hstep.symm.trans hk

/-- A driver with one page that uses a proxy, right after the start. -/
def started : PageLoads := { driver := { numPageModels := 1 }, clock := 1 }

theorem started_initial : Initial started := ⟨rfl, by decide, ⟨rfl, rfl, rfl, rfl⟩, by decide⟩

/-- The proxy and the renderer can be called; a page is loaded with two requests, one of which comes
after the load event; then the driver thinks. -/
theorem loads_accounted_page : ∃ es s, Run (Guarded Sound Step) started es s ∧
    s.driver.reported.length = 1 ∧ Accounted s := by
  obtain ⟨s, hs, h⟩ := exists_of_returns
    (x := exec (guardedStep Sound LoadCheck.notEnabled step) started
      [.tproxyReady, .rendererReady, .handleCall [], .deliver 20000 0,
        .handleCall [.willBeSent 1 0 false], .deliver 0 0, .deliver 0 0,
        .request (.finished 1 0 true), .pageLoaded 7, .request (.willBeSent 2 0 true),
        .deliver 0 0, .deliver 0 0, .deliver 0 0, .request (.finished 2 0 false), .deliver 0 0,
        .elapse 2000, .waitForMoreRequestsTimerFired, .handleCall [], .deliver 20000 0])
    (p := fun s => decide (s.driver.reported.length = 1)) (by decide +kernel)
  have hrun := run_of_exec_guarded hs
  exact ⟨_, s, hrun, of_decide_eq_true h, (loads_accounted started_initial hrun).1⟩

/-- The renderer answers before the proxy can be called: the first load trips the driver's check. -/
theorem loads_accounted_tproxy_late :
    Initial started ∧ exec step started [.rendererReady, .handleCall [], .deliver 20000 0] =
      .error (.driver .tproxyNotReady) :=
  ⟨started_initial, by decide +kernel⟩

end PageLoads

end ShadowBrowser
