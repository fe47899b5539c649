/-
Calls and their replies.

What has happened to a call is, at every moment, one of a few short histories
(`lifeOf`): its callback runs once at most, with `timedOut` if the timer fires
before the reply arrives, and else with the reply that the server made to that very
call.

* `CallView` — what the session knows of one call;
* `Inv` — every call has a standing, and what the session knows of it is what that
  standing says;
* **`calls_matched`** — every run of the channel keeps to these histories, no event
  fails an assertion, and a reply that comes too late changes nothing else.
-/
import ShadowBrowser.IpcChannel

namespace ShadowBrowser

open Checked Runs

/-- How far a call has come. -/
inductive Standing
  | notMade
  | waiting
  | replied (data : List UInt8)
  | received (data : List UInt8)
  | expired
  | late (data : List UInt8) (repliedFirst : Bool)
  | swallowed (data : List UInt8) (repliedFirst : Bool)
  deriving DecidableEq, Repr

namespace Standing

/-- The history of a call. -/
def lifeOf : Standing → List CallEvent
  | notMade => []
  | waiting => [.called]
  | replied d => [.called, .replied d]
  | received d => [.called, .replied d, .arrived d, .callback .recv d]
  | expired => [.called, .timerFired, .callback .timedOut []]
  | late d true => [.called, .replied d, .timerFired, .callback .timedOut []]
  | late d false => [.called, .timerFired, .callback .timedOut [], .replied d]
  | swallowed d true => [.called, .replied d, .timerFired, .callback .timedOut [], .arrived d]
  | swallowed d false => [.called, .timerFired, .callback .timedOut [], .replied d, .arrived d]

/-- The call is in `pending_calls_`. -/
def isPending : Standing → Bool
  | waiting | replied _ => true
  | _ => false

/-- The id of the call is in `timed_out_call_ids_`. -/
def isExpired : Standing → Bool
  | expired | late _ _ => true
  | _ => false

/-- The server has still to reply. -/
def isUnanswered : Standing → Bool
  | waiting | expired => true
  | _ => false

/-- The replies on their way. -/
def inFlight : Standing → List (List UInt8)
  | replied d | late d _ => [d]
  | _ => []

end Standing

/-- The id of the call with number `k`. -/
def callId (k : ℕ) : ℕ := 2 * k + 1

theorem callId_injective {j k : ℕ} (h : callId j = callId k) : j = k := by
  simp only [callId] at h
  omega

/-- What the session knows of one call. -/
structure CallView where
  life : List CallEvent
  isPending : Bool
  isExpired : Bool
  isUnanswered : Bool
  inFlight : List (List UInt8)

/-- What the session knows of a call that has come as far as `st`. -/
def Standing.view (st : Standing) : CallView :=
  { life := st.lifeOf
    isPending := st.isPending
    isExpired := st.isExpired
    isUnanswered := st.isUnanswered
    inFlight := st.inFlight }

namespace IpcSession

/-- The replies to call `k` that are on their way. -/
def inFlight (s : IpcSession) (k : ℕ) : List (List UInt8) :=
  s.toClient.filterMap fun f => if f.call = some k then some f.msg.data else none

/-- What the session knows of call `k`. -/
def view (s : IpcSession) (k : ℕ) : CallView :=
  { life := s.about k
    isPending := (s.ch.pendingCalls (callId k)).isSome
    isExpired := decide (callId k ∈ s.ch.timedOutCallIds)
    isUnanswered := decide (k ∈ s.unanswered)
    inFlight := s.inFlight k }

/-- Every call has a standing, and the entries of the map and the messages on their way belong to
the calls that they name. -/
structure Inv (s : IpcSession) : Prop where
  client : s.ch.isClient = true
  next : s.calls.length < 2 ^ 31 → s.ch.nextCallMsgId = callId s.calls.length
  made : ∀ k < s.calls.length, ∃ st, s.view k = Standing.view st
  notMade : ∀ k, s.calls.length ≤ k → s.view k = Standing.view .notMade
  ids : ∀ k r, s.calls[k]? = some r → r.msgId = callId k
  infos : ∀ id info, s.ch.pendingCalls id = some info → id = callId info.onRespStatusCb ∧
    ∃ r, s.calls[info.onRespStatusCb]? = some r ∧ info.expRespMsgType = r.args.respType
  flights : ∀ f ∈ s.toClient, match f.call with
    | none => f.msg.id = 0
    | some k => ∃ r, s.calls[k]? = some r ∧ f.msg.id = r.msgId ∧ f.msg.type = r.args.respType

theorem inv_new : Inv {} where
  client := rfl
  next := fun _ => rfl
  made := fun k hk => absurd hk (Nat.not_lt_zero k)
  notMade := fun k _ => rfl
  ids := by simp
  infos := by simp
  flights := by simp

variable {s t : IpcSession} {c : CallArgs} {k : ℕ}

theorem Inv.standing (h : Inv s) (k : ℕ) : ∃ st, s.view k = Standing.view st := by
  by_cases hk : k < s.calls.length
  · exact h.made k hk
  · exact ⟨_, h.notMade k (by omega)⟩

/-! ### A call -/

theorem call_eq_ok (h : s.call c = .ok t) : t = s.called c := by
  obtain ⟨_, _, h⟩ := bind_eq_ok.mp h
  obtain ⟨_, _, h⟩ := bind_eq_ok.mp h
  obtain ⟨_, _, h⟩ := bind_eq_ok.mp h
  cases h
  rfl

theorem call_of_permitted (hclient : s.ch.isClient = true) (hready : s.ch.genMsgCh = true)
    (htimeout : ∀ t ∈ c.timeoutSecs, t ≤ 30) : s.call c = .ok (s.called c) := by
  rw [call, check_pos hready, check_pos hclient, check_pos htimeout]
  rfl

/-- A call leaves the other calls as they were. -/
theorem view_called (h : Inv s) (hlt : s.calls.length < 2 ^ 31) (k : ℕ) :
    (s.called c).view k = if k = s.calls.length then Standing.view .waiting else s.view k := by
  have hnext := h.next hlt
  by_cases hk : k = s.calls.length
  · have hnone := h.notMade k (Nat.le_of_eq hk.symm)
    simp only [view, Standing.view, CallView.mk.injEq] at hnone
    obtain ⟨hlife, -, hexp, -, hflight⟩ := hnone
    rw [if_pos hk]
    subst hk
    simp only [view, Standing.view, CallView.mk.injEq]
    refine ⟨?_, ?_, hexp, ?_, hflight⟩
    · simp only [about] at hlife
      simp [about, called, hlife, Standing.lifeOf]
    · simp [called, hnext, Standing.isPending]
    · simp [called, Standing.isUnanswered]
  · have hid : callId k ≠ s.ch.nextCallMsgId := by
      rw [hnext]
      exact fun heq => hk (callId_injective heq)
    have hk' : s.calls.length ≠ k := fun heq => hk heq.symm
    rw [if_neg hk]
    simp only [view, CallView.mk.injEq]
    refine ⟨?_, ?_, rfl, ?_, rfl⟩
    · simp [called, about, hk']
    · simp [called, Function.update_of_ne hid]
    · simp [called, hk]

theorem Inv.called (h : Inv s) (hlt : s.calls.length < 2 ^ 31) : Inv (s.called c) := by
  have hnext := h.next hlt
  have hlength : (s.called c).calls.length = s.calls.length + 1 := by
    simp [IpcSession.called]
  have hold : ∀ (k : ℕ) (r : CallRecord), s.calls[k]? = some r →
      (s.called c).calls[k]? = some r := by
    intro k r hr
    have hk : k < s.calls.length := (List.getElem?_eq_some_iff.mp hr).1
    simp only [IpcSession.called]
    rw [List.getElem?_append_left hk]
    exact hr
  constructor
  case client => exact h.client
  case next =>
    intro hlt'
    rw [hlength] at hlt' ⊢
    show (s.ch.nextCallMsgId + 2) % 2 ^ 32 = _
    rw [hnext]
    simp only [callId] at *
    omega
  case made =>
    intro k _
    rw [view_called h hlt]
    split
    · exact ⟨_, rfl⟩
    · exact h.standing k
  case notMade =>
    intro k hk
    rw [hlength] at hk
    rw [view_called h hlt, if_neg (by omega)]
    exact h.notMade k (by omega)
  case ids =>
    intro k r hr
    -- an earlier call keeps its identifier, and the new one has the next
    by_cases hk : k < s.calls.length
    · refine h.ids k r ?_
      simp only [IpcSession.called] at hr
      rwa [List.getElem?_append_left hk] at hr
    · have hlt' := (List.getElem?_eq_some_iff.mp hr).1
      rw [hlength] at hlt'
      have heq : k = s.calls.length := by omega
      subst heq
      simp only [IpcSession.called, List.getElem?_concat_length, Option.some.injEq] at hr
      rw [← hr]
      exact hnext
  case infos =>
    intro id info hinfo
    -- the new call is the one that now waits under its identifier
    by_cases hid : id = s.ch.nextCallMsgId
    · simp only [IpcSession.called, hid, Function.update_self, Option.some.injEq] at hinfo
      subst hinfo
      refine ⟨hid.trans hnext, { args := c, msgId := s.ch.nextCallMsgId }, ?_, rfl⟩
      simp [IpcSession.called, newInfo]
    · simp only [IpcSession.called, Function.update_of_ne hid] at hinfo
      obtain ⟨hid', r, hr, htype⟩ := h.infos id info hinfo
      exact ⟨hid', r, hold _ r hr, htype⟩
  case flights =>
    intro f hf
    have hflight := h.flights f hf
    cases hcall : f.call with
    | none =>
      rw [hcall] at hflight
      exact hflight
    | some k =>
      rw [hcall] at hflight
      obtain ⟨r, hr, hmsg⟩ := hflight
      exact ⟨r, hold k r hr, hmsg⟩

/-! ### The other things that happen to a call -/

/-- A change that is about one call: the other calls are as they were, no entry is added to the
map, and the messages on their way still belong to their calls. -/
theorem Inv.change (h : Inv s) (hk : k < s.calls.length) (hcalls : t.calls = s.calls)
    (hclient : t.ch.isClient = s.ch.isClient) (hnext : t.ch.nextCallMsgId = s.ch.nextCallMsgId)
    (hview : ∃ st, t.view k = Standing.view st) (hother : ∀ j, j ≠ k → t.view j = s.view j)
    (hinfos : ∀ id info, t.ch.pendingCalls id = some info → s.ch.pendingCalls id = some info)
    (hflights : ∀ f ∈ t.toClient, match f.call with
      | none => f.msg.id = 0
      | some k => ∃ r, s.calls[k]? = some r ∧ f.msg.id = r.msgId ∧ f.msg.type = r.args.respType) :
    Inv t := by
  constructor
  case client => rw [hclient, h.client]
  case next => rw [hcalls, hnext]; exact h.next
  case made =>
    intro j _
    by_cases hj : j = k
    · rw [hj]; exact hview
    · rw [hother j hj]; exact h.standing j
  case notMade =>
    intro j hj
    rw [hcalls] at hj
    rw [hother j (by omega)]
    exact h.notMade j hj
  case ids => rw [hcalls]; exact h.ids
  case infos =>
    rw [hcalls]
    intro id info hinfo
    exact h.infos id info (hinfos id info hinfo)
  case flights => rw [hcalls]; exact hflights

/-- What is known of a call, part by part. -/
theorem view_eq_iff {st : Standing} : s.view k = st.view ↔
    s.about k = st.lifeOf ∧ (s.ch.pendingCalls (callId k)).isSome = st.isPending ∧
      (decide (callId k ∈ s.ch.timedOutCallIds)) = st.isExpired ∧
      (decide (k ∈ s.unanswered)) = st.isUnanswered ∧ s.inFlight k = st.inFlight := by
  simp only [view, Standing.view, CallView.mk.injEq]

/-- The server replies to a call. -/
theorem Inv.reply {d : List UInt8} {r : CallRecord} (h : Inv s) (hk : k ∈ s.unanswered)
    (hr : s.calls[k]? = some r) : Inv (s.reply k d r) := by
  have hlt : k < s.calls.length := (List.getElem?_eq_some_iff.mp hr).1
  refine h.change hlt rfl rfl rfl ?_ ?_ (fun _ _ hinfo => hinfo) ?_
  · obtain ⟨st, hst⟩ := h.standing k
    rw [view_eq_iff] at hst
    obtain ⟨hlife, hpend, hexp, hun, hflight⟩ := hst
    have hun' : st.isUnanswered = true := by simpa [hk] using hun.symm
    have hlife' : (s.reply k d r).about k = s.about k ++ [.replied d] := by
      simp [about, IpcSession.reply]
    have hflight' : (s.reply k d r).inFlight k = s.inFlight k ++ [d] := by
      simp [inFlight, IpcSession.reply]
    have hun'' : decide (k ∈ (s.reply k d r).unanswered) = false := by simp [IpcSession.reply]
    -- the reply was awaited, or comes after the timer
    cases st with
    | waiting =>
      refine ⟨.replied d, view_eq_iff.mpr ⟨?_, hpend, hexp, hun'', ?_⟩⟩
      · rw [hlife', hlife]; rfl
      · rw [hflight', hflight]; rfl
    | expired =>
      refine ⟨.late d false, view_eq_iff.mpr ⟨?_, hpend, hexp, hun'', ?_⟩⟩
      · rw [hlife', hlife]; rfl
      · rw [hflight', hflight]; rfl
    | _ => simp [Standing.isUnanswered] at hun'
  · intro j hj
    have hj' : ¬ k = j := fun heq => hj heq.symm
    simp only [view, CallView.mk.injEq]
    refine ⟨?_, rfl, rfl, ?_, ?_⟩
    · simp [about, IpcSession.reply, hj']
    · simp [IpcSession.reply, hj]
    · simp [inFlight, IpcSession.reply, hj']
  · intro f hf
    simp only [IpcSession.reply, List.mem_append, List.mem_singleton] at hf
    rcases hf with hf | rfl
    · exact h.flights f hf
    · exact ⟨r, hr, rfl, rfl⟩

/-- The timer of a call fires. -/
theorem Inv.expire {info : CallInfo} (h : Inv s)
    (hinfo : s.ch.pendingCalls (callId k) = some info) :
    Inv ((((s.record k .timerFired).record k (.callback .timedOut [])).erasePending
      (callId k)).insertTimedOut (callId k)) := by
  have hlt : k < s.calls.length := by
    obtain ⟨hid, r, hr, -⟩ := h.infos _ _ hinfo
    rw [callId_injective hid]
    exact (List.getElem?_eq_some_iff.mp hr).1
  refine h.change hlt rfl rfl rfl ?_ ?_ ?_ h.flights
  · obtain ⟨st, hst⟩ := h.standing k
    rw [view_eq_iff] at hst
    obtain ⟨hlife, hpend, hexp, hun, hflight⟩ := hst
    rw [hinfo] at hpend
    have hlife' : (((((s.record k .timerFired).record k (.callback .timedOut [])).erasePending
        (callId k)).insertTimedOut (callId k)).about k) =
        s.about k ++ [.timerFired, .callback .timedOut []] := by
      simp [about, record, erasePending, insertTimedOut]
    have hgone : (Function.update s.ch.pendingCalls (callId k) none (callId k)).isSome = false := by
      simp
    have hin : decide (callId k ∈ insert (callId k) s.ch.timedOutCallIds) = true := by simp
    -- only a call that is pending can time out, with its reply on the way or not
    cases st with
    | waiting =>
      refine ⟨.expired, view_eq_iff.mpr ⟨?_, hgone, hin, hun, hflight⟩⟩
      rw [hlife', hlife]; rfl
    | replied d =>
      refine ⟨.late d true, view_eq_iff.mpr ⟨?_, hgone, hin, hun, hflight⟩⟩
      rw [hlife', hlife]; rfl
    | _ => simp [Standing.isPending] at hpend
  · intro j hj
    have hj' : ¬ k = j := fun heq => hj heq.symm
    have hid : callId j ≠ callId k := fun heq => hj (callId_injective heq)
    simp only [view, CallView.mk.injEq]
    refine ⟨?_, ?_, ?_, rfl, rfl⟩
    · simp [about, record, erasePending, insertTimedOut, hj']
    · simp [record, erasePending, insertTimedOut, Function.update_of_ne hid]
    · simp [record, erasePending, insertTimedOut, hid]
  · intro id info' hinfo'
    by_cases hid : id = callId k
    · simp [record, erasePending, insertTimedOut, hid] at hinfo'
    · simpa [record, erasePending, insertTimedOut, Function.update_of_ne hid] using hinfo'

/-! ### A message arrives -/

section

variable {f : InFlight} {rest : List InFlight}

/-- The first message on its way, if it is a reply, is the one that its call waits for or no
longer waits for. -/
theorem Inv.head (h : Inv s) (hwire : s.toClient = f :: rest) (hcall : f.call = some k) :
    k < s.calls.length ∧ f.msg.id = callId k ∧ (s.arrive f rest).inFlight k = [] ∧
      ((s.view k = (Standing.replied f.msg.data).view ∧ ∃ info,
          s.ch.pendingCalls (callId k) = some info ∧ info.onRespStatusCb = k ∧
            f.msg.type = info.expRespMsgType) ∨
        ∃ b, s.view k = (Standing.late f.msg.data b).view) := by
  have hflight := h.flights f (by simp [hwire])
  rw [hcall] at hflight
  obtain ⟨r, hr, hid, htype⟩ := hflight
  have hlt : k < s.calls.length := (List.getElem?_eq_some_iff.mp hr).1
  have hin : s.inFlight k = f.msg.data :: (s.arrive f rest).inFlight k := by
    simp [inFlight, hwire, arrive, hcall]
  obtain ⟨st, hst⟩ := h.standing k
  have hst' := hst
  rw [view_eq_iff] at hst'
  obtain ⟨-, hpend, -, -, hflight⟩ := hst'
  rw [hin] at hflight
  refine ⟨hlt, hid.trans (h.ids k r hr), ?_⟩
  cases st with
  | replied d =>
    obtain ⟨hd, hnil⟩ := List.cons_eq_cons.mp hflight
    refine ⟨hnil, .inl ⟨hd ▸ hst, ?_⟩⟩
    obtain ⟨info, hinfo⟩ := Option.isSome_iff_exists.mp hpend
    obtain ⟨hid', r', hr', htype'⟩ := h.infos _ _ hinfo
    have hcb : info.onRespStatusCb = k := (callId_injective hid').symm
    rw [hcb, hr] at hr'
    cases hr'
    exact ⟨info, hinfo, hcb, htype.trans htype'.symm⟩
  | late d b =>
    obtain ⟨hd, hnil⟩ := List.cons_eq_cons.mp hflight
    exact ⟨hnil, .inr ⟨b, hd ▸ hst⟩⟩
  | _ => simp [Standing.inFlight] at hflight

/-- The call that a message on the wire replies to is the only one that its arrival is about. -/
theorem inFlight_arrive (hwire : s.toClient = f :: rest) (hcall : f.call ≠ some k) :
    (s.arrive f rest).inFlight k = s.inFlight k := by
  simp [inFlight, arrive, hwire, hcall]

/-- An ordinary message arrives. -/
theorem Inv.arrive (h : Inv s) (hwire : s.toClient = f :: rest) (hcall : f.call = none) :
    Inv (s.arrive f rest) := by
  have hview : ∀ k, (s.arrive f rest).view k = s.view k := by
    intro k
    have hin := inFlight_arrive (k := k) hwire (by simp [hcall])
    simp only [view, CallView.mk.injEq]
    exact ⟨by simp [about, IpcSession.arrive, hcall], rfl, rfl, rfl, hin⟩
  refine ⟨h.client, h.next, ?_, ?_, h.ids, h.infos, ?_⟩
  · intro k hk
    rw [hview]
    exact h.made k hk
  · intro k hk
    rw [hview]
    exact h.notMade k hk
  · intro f' hf'
    exact h.flights f' (by rw [hwire]; exact List.mem_cons_of_mem _ hf')

/-- The reply arrives before the timer has fired. -/
theorem Inv.receive (h : Inv s) (hwire : s.toClient = f :: rest) (hcall : f.call = some k)
    (hst : s.view k = (Standing.replied f.msg.data).view) :
    Inv (((s.arrive f rest).record k (.callback .recv f.msg.data)).erasePending (callId k)) := by
  obtain ⟨hlt, hid, hnil, -⟩ := h.head hwire hcall
  refine h.change hlt rfl rfl rfl ?_ ?_ ?_ ?_
  · rw [view_eq_iff] at hst
    obtain ⟨hlife, hpend, hexp, hun, hflight⟩ := hst
    refine ⟨.received f.msg.data, view_eq_iff.mpr ⟨?_, ?_, hexp, hun, hnil⟩⟩
    · simp only [about] at hlife
      simp [about, record, erasePending, IpcSession.arrive, hcall, hlife, Standing.lifeOf]
    · simp [record, erasePending, IpcSession.arrive, Standing.isPending]
  · intro j hj
    have hj' : ¬ k = j := fun heq => hj heq.symm
    have hid : callId j ≠ callId k := fun heq => hj (callId_injective heq)
    have hin := inFlight_arrive (k := j) hwire (by simp [hcall, hj'])
    simp only [view, CallView.mk.injEq]
    refine ⟨?_, ?_, rfl, rfl, hin⟩
    · simp [about, record, erasePending, IpcSession.arrive, hcall, hj']
    · simp [record, erasePending, IpcSession.arrive, Function.update_of_ne hid]
  · intro id info' hinfo'
    by_cases hid : id = callId k
    · simp [record, erasePending, hid] at hinfo'
    · simpa [record, erasePending, IpcSession.arrive, Function.update_of_ne hid] using hinfo'
  · intro f' hf'
    exact h.flights f' (by rw [hwire]; exact List.mem_cons_of_mem _ hf')

/-- The reply arrives after the timer has fired. -/
theorem Inv.swallow {b : Bool} (h : Inv s) (hwire : s.toClient = f :: rest)
    (hcall : f.call = some k) (hst : s.view k = (Standing.late f.msg.data b).view) :
    Inv ((s.arrive f rest).eraseTimedOut (callId k)) := by
  obtain ⟨hlt, hid, hnil, -⟩ := h.head hwire hcall
  refine h.change hlt rfl rfl rfl ?_ ?_ (fun _ _ hinfo => hinfo) ?_
  · rw [view_eq_iff] at hst
    obtain ⟨hlife, hpend, hexp, hun, hflight⟩ := hst
    refine ⟨.swallowed f.msg.data b, view_eq_iff.mpr ⟨?_, hpend, ?_, hun, hnil⟩⟩
    · simp only [about] at hlife
      cases b with
      | true => simp [about, eraseTimedOut, IpcSession.arrive, hcall, hlife, Standing.lifeOf]
      | false => simp [about, eraseTimedOut, IpcSession.arrive, hcall, hlife, Standing.lifeOf]
    · simp [eraseTimedOut, Standing.isExpired]
  · intro j hj
    have hj' : ¬ k = j := fun heq => hj heq.symm
    have hid : callId j ≠ callId k := fun heq => hj (callId_injective heq)
    have hin := inFlight_arrive (k := j) hwire (by simp [hcall, hj'])
    simp only [view, CallView.mk.injEq]
    refine ⟨?_, rfl, ?_, rfl, hin⟩
    · simp [about, eraseTimedOut, IpcSession.arrive, hcall, hj']
    · simp [eraseTimedOut, IpcSession.arrive, hid]
  · intro f' hf'
    exact h.flights f' (by rw [hwire]; exact List.mem_cons_of_mem _ hf')

end

/-! ### Calls from inside a callback -/

/-- The state after the calls `cs`. -/
def calledAll (cs : List CallArgs) (s : IpcSession) : IpcSession :=
  cs.foldl (fun s c => s.called c) s

theorem exec_call_eq_ok {cs : List CallArgs} (h : exec call s cs = .ok t) :
    t = s.calledAll cs := by
  induction cs generalizing s with
  | nil =>
    cases h
    rfl
  | cons c cs ih =>
    obtain ⟨s', hcall, h⟩ := bind_eq_ok.mp h
    rw [call_eq_ok hcall] at h
    exact ih h

theorem exec_call_of_permitted {cs : List CallArgs} (hclient : s.ch.isClient = true)
    (h : ∀ c ∈ cs, s.ch.genMsgCh = true ∧ ∀ t ∈ c.timeoutSecs, t ≤ 30) :
    exec call s cs = .ok (s.calledAll cs) := by
  induction cs generalizing s with
  | nil => rfl
  | cons c cs ih =>
    obtain ⟨hready, htimeout⟩ := h c (by simp)
    simp only [exec, call_of_permitted hclient hready htimeout, ok_bind]
    exact ih hclient fun c' hc' => h c' (by simp [hc'])

theorem length_calledAll (cs : List CallArgs) (s : IpcSession) :
    (s.calledAll cs).calls.length = s.calls.length + cs.length := by
  induction cs generalizing s with
  | nil => rfl
  | cons c cs ih =>
    rw [calledAll, List.foldl_cons]
    refine (ih (s.called c)).trans ?_
    simp [called]
    omega

theorem Inv.calledAll {cs : List CallArgs} (h : Inv s)
    (hlt : (s.calledAll cs).calls.length < 2 ^ 31) : Inv (s.calledAll cs) := by
  induction cs generalizing s with
  | nil => exact h
  | cons c cs ih =>
    have hlength := length_calledAll (c :: cs) s
    rw [List.length_cons] at hlength
    exact ih (h.called (by omega)) hlt

/-- Calls do not touch the entry of an earlier call. -/
theorem calledAll_erasePending (cs : List CallArgs) (hk : k < s.calls.length)
    (hnext : s.ch.nextCallMsgId = callId s.calls.length)
    (hlt : s.calls.length + cs.length < 2 ^ 31) :
    (s.calledAll cs).erasePending (callId k) = (s.erasePending (callId k)).calledAll cs := by
  induction cs generalizing s with
  | nil => rfl
  | cons c cs ih =>
    have hne : s.ch.nextCallMsgId ≠ callId k := by
      rw [hnext]
      intro heq
      have := callId_injective heq
      omega
    have hcomm : (s.called c).erasePending (callId k) = (s.erasePending (callId k)).called c := by
      simp only [called, erasePending, newInfo]
      rw [Function.update_comm hne]
    have hlength : (s.called c).calls.length = s.calls.length + 1 := by simp [called]
    rw [List.length_cons] at hlt
    refine (ih (s := s.called c) (by omega) ?_ (by omega)).trans ?_
    · rw [hlength]
      show (s.ch.nextCallMsgId + 2) % 2 ^ 32 = _
      rw [hnext]
      simp only [callId]
      omega
    · rw [hcomm]
      rfl

theorem calledAll_insertTimedOut (cs : List CallArgs) (id : ℕ) (s : IpcSession) :
    (s.calledAll cs).insertTimedOut id = (s.insertTimedOut id).calledAll cs := by
  induction cs generalizing s with
  | nil => rfl
  | cons c cs ih => exact ih (s.called c)

/-! ### The session -/

/-- What a delivery does, for a message that is a reply to call `k` or an ordinary one. -/
theorem Inv.step_deliver {f : InFlight} {rest : List InFlight} {inside : List CallArgs} (h : Inv s)
    (hwire : s.toClient = f :: rest) :
    (f.call = none ∧ step s (.deliver inside) = exec call (s.arrive f rest) inside) ∨
    (∃ k, f.call = some k ∧ k < s.calls.length ∧
      ((s.view k = (Standing.replied f.msg.data).view ∧
        step s (.deliver inside) =
          (exec call ((s.arrive f rest).record k (.callback .recv f.msg.data)) inside >>=
            fun t => .ok (t.erasePending (callId k)))) ∨
      ∃ b, s.view k = (Standing.late f.msg.data b).view ∧
        step s (.deliver inside) = .ok ((s.arrive f rest).eraseTimedOut (callId k)))) := by
  cases hcall : f.call with
  | none =>
    have hid : f.msg.id = 0 := by
      have := h.flights f (by simp [hwire])
      rwa [hcall] at this
    refine .inl ⟨rfl, ?_⟩
    simp [step, hwire, onRecvMsg, hid]
  | some k =>
    obtain ⟨hlt, hid, -, hcases⟩ := h.head hwire hcall
    have hne : callId k ≠ 0 := Nat.succ_ne_zero _
    refine .inr ⟨k, rfl, hlt, ?_⟩
    -- the call waits for its reply, or its time has run out
    rcases hcases with ⟨hst, info, hinfo, hcb, htype⟩ | ⟨b, hst⟩
    · refine .inl ⟨hst, ?_⟩
      have hinfo' : (s.arrive f rest).ch.pendingCalls (callId k) = some info := hinfo
      simp only [step, hwire, onRecvMsg, hid, if_neg hne, hinfo', check_pos htype, hcb, callback]
      rfl
    · refine .inr ⟨b, hst, ?_⟩
      obtain ⟨-, hpend, hexp, -, -⟩ := view_eq_iff.mp hst
      have hnone : (s.arrive f rest).ch.pendingCalls (callId k) = none := by
        have : ¬ (s.ch.pendingCalls (callId k)).isSome = true := by simp [hpend, Standing.isPending]
        simpa [IpcSession.arrive] using this
      have hin : callId k ∈ (s.arrive f rest).ch.timedOutCallIds := by
        simpa [Standing.isExpired, IpcSession.arrive] using hexp
      simp only [step, hwire, onRecvMsg, hid, if_neg hne, hnone, if_pos hin]

theorem step_timeout {info : CallInfo} {id : ℕ} {inside : List CallArgs}
    (hinfo : s.ch.pendingCalls id = some info) :
    step s (.timeout id inside) =
      (exec call ((s.record info.onRespStatusCb .timerFired).record info.onRespStatusCb
          (.callback .timedOut [])) inside >>=
        fun t => .ok ((t.erasePending id).insertTimedOut id)) := by
  simp only [step, onTimeoutWaitingResp, hinfo, callback]
  rfl

/-- **An event of the session keeps the standing of every call well defined.** -/
theorem Inv.preserved {e : IpcEvent} (h : Inv s) (hstep : Step s e t)
    (hlt : t.calls.length < 2 ^ 31) : Inv t := by
  obtain ⟨hen, hstep⟩ := hstep
  cases e with
  | connected =>
    cases hstep
    exact ⟨h.client, h.next, h.made, h.notMade, h.ids, h.infos, h.flights⟩
  | call c =>
    have ht := call_eq_ok hstep
    subst ht
    refine h.called ?_
    simp [IpcSession.called] at hlt
    omega
  | serverReply k d =>
    simp only [step] at hstep
    split at hstep
    · next r hr =>
      cases hstep
      exact h.reply hen hr
    · cases hstep
      exact h
  | serverMsg type d =>
    cases hstep
    -- a message of the server's own is about no call
    have hview : ∀ k, view { s with toClient := s.toClient ++
        [{ msg := { type := type, id := 0, data := d }, call := none }] } k = s.view k := by
      intro k
      simp [view, about, inFlight]
    refine ⟨h.client, h.next, ?_, ?_, h.ids, h.infos, ?_⟩
    · intro k hk
      rw [hview]
      exact h.made k hk
    · intro k hk
      rw [hview]
      exact h.notMade k hk
    · intro f hf
      rcases List.mem_append.mp hf with hf | hf
      · exact h.flights f hf
      · rw [List.mem_singleton.mp hf]
  | deliver inside =>
    obtain ⟨f, rest, hwire⟩ := List.exists_cons_of_ne_nil hen
    rcases h.step_deliver hwire with
      -- the reply is about no call, about one that is waiting, or about one that is over
      ⟨hcall, heq⟩ | ⟨k, hcall, hk, ⟨hst, heq⟩ | ⟨b, hst, heq⟩⟩
    · rw [heq] at hstep
      have ht := exec_call_eq_ok hstep
      subst ht
      exact (h.arrive hwire hcall).calledAll hlt
    · rw [heq] at hstep
      obtain ⟨t', ht', hstep⟩ := bind_eq_ok.mp hstep
      cases hstep
      have ht := exec_call_eq_ok ht'
      subst ht
      have hlt' : s.calls.length + inside.length < 2 ^ 31 := by
        have hlength := length_calledAll inside
          ((s.arrive f rest).record k (.callback .recv f.msg.data))
        rw [← show _ = s.calls.length + inside.length from hlength]
        exact hlt
      -- the call is erased after its callback has run; the calls made inside do not touch it
      have hcomm := calledAll_erasePending inside (k := k)
        (s := (s.arrive f rest).record k (.callback .recv f.msg.data)) hk
        (h.next (by omega)) hlt'
      rw [hcomm] at hlt ⊢
      exact (h.receive hwire hcall hst).calledAll hlt
    · rw [heq] at hstep
      cases hstep
      exact h.swallow hwire hcall hst
  | timeout id inside =>
    obtain ⟨info, hinfo, -⟩ := hen
    rw [step_timeout hinfo] at hstep
    obtain ⟨t', ht', hstep⟩ := bind_eq_ok.mp hstep
    cases hstep
    have ht := exec_call_eq_ok ht'
    subst ht
    obtain ⟨rfl, r, hr, -⟩ := h.infos _ _ hinfo
    have hk : info.onRespStatusCb < s.calls.length := (List.getElem?_eq_some_iff.mp hr).1
    have hlt' : s.calls.length + inside.length < 2 ^ 31 := by
      have hlength := length_calledAll inside
        ((s.record info.onRespStatusCb .timerFired).record info.onRespStatusCb
          (.callback .timedOut []))
      rw [← show _ = s.calls.length + inside.length from hlength]
      exact hlt
    -- as for a reply, but the call is then listed as timed out
    have hcomm := calledAll_erasePending inside (k := info.onRespStatusCb)
      (s := (s.record info.onRespStatusCb .timerFired).record info.onRespStatusCb
        (.callback .timedOut [])) hk (h.next (by omega)) hlt'
    rw [hcomm, calledAll_insertTimedOut] at hlt ⊢
    exact (h.expire hinfo).calledAll hlt

theorem length_le_of_exec_call {u : IpcSession} {cs : List CallArgs}
    (h : exec call u cs = .ok t) (hu : u.calls = s.calls) : s.calls.length ≤ t.calls.length := by
  rw [exec_call_eq_ok h, length_calledAll, hu]
  omega

/-- No event takes a call back. -/
theorem length_le_of_step {e : IpcEvent} (h : step s e = .ok t) :
    s.calls.length ≤ t.calls.length := by
  cases e with
  | connected =>
    cases h
    exact le_rfl
  | call c =>
    rw [call_eq_ok h]
    simp [called]
  | serverReply k d =>
    simp only [step] at h
    split at h
    · cases h
      exact le_rfl
    · cases h
      exact le_rfl
  | serverMsg type d =>
    cases h
    exact le_rfl
  -- the callbacks may make calls, which are only added
  | deliver inside =>
    simp only [step, onRecvMsg] at h
    split at h
    · cases h
      exact le_rfl
    · next f rest _ =>
      split at h
      · exact length_le_of_exec_call h rfl
      · split at h
        · obtain ⟨_, _, h⟩ := bind_eq_ok.mp h
          obtain ⟨t', ht', h⟩ := bind_eq_ok.mp h
          cases h
          have hle := length_le_of_exec_call ht' rfl
          exact hle
        · split at h
          · cases h
            exact le_rfl
          · obtain ⟨_, _, h⟩ := bind_eq_ok.mp h
            exact length_le_of_exec_call h rfl
  | timeout id inside =>
    simp only [step, onTimeoutWaitingResp] at h
    split at h
    · obtain ⟨t', ht', h⟩ := bind_eq_ok.mp h
      cases h
      have hle := length_le_of_exec_call ht' rfl
      exact hle
    · cases h

/-- In every run with fewer than 2³¹ calls, every call has its standing. -/
theorem inv_of_run {es : List IpcEvent} (h : Run Step {} es s)
    (hlt : s.calls.length < 2 ^ 31) : Inv s := by
  have key : s.calls.length < 2 ^ 31 → Inv s := by
    refine h.invariant (P := fun s => s.calls.length < 2 ^ 31 → Inv s) ?_ fun _ => inv_new
    intro s e t hs hstep ht
    have hle := length_le_of_step hstep.2
    exact (hs (by omega)).preserved hstep ht
  exact key hlt

/-- No event fails an assertion. -/
theorem Inv.exists_step {e : IpcEvent} (h : Inv s) (hen : Enabled s e) (hperm : Permitted s e) :
    ∃ t, step s e = .ok t := by
  cases e with
  | connected => exact ⟨_, rfl⟩
  | call c =>
    obtain ⟨hready, htimeout⟩ := hperm c (by simp [IpcEvent.calls])
    exact ⟨_, call_of_permitted h.client hready htimeout⟩
  | serverReply k d =>
    simp only [step]
    split
    · exact ⟨_, rfl⟩
    · exact ⟨_, rfl⟩
  | serverMsg type d => exact ⟨_, rfl⟩
  | deliver inside =>
    obtain ⟨f, rest, hwire⟩ := List.exists_cons_of_ne_nil hen
    rcases h.step_deliver hwire with
      ⟨_, heq⟩ | ⟨k, _, _, ⟨_, heq⟩ | ⟨b, _, heq⟩⟩
    · exact ⟨_, heq.trans (exec_call_of_permitted h.client hperm)⟩
    · have hexec : exec call ((s.arrive f rest).record k (.callback .recv f.msg.data)) inside = _ :=
        exec_call_of_permitted h.client hperm
      rw [heq, hexec]
      exact ⟨_, rfl⟩
    · exact ⟨_, heq⟩
  | timeout id inside =>
    obtain ⟨info, hinfo, -⟩ := hen
    have hexec : exec call ((s.record info.onRespStatusCb .timerFired).record
        info.onRespStatusCb (.callback .timedOut [])) inside = _ :=
      exec_call_of_permitted h.client hperm
    rw [step_timeout hinfo, hexec]
    exact ⟨_, rfl⟩

/-- A reply that arrives after the timer has fired only leaves the set of late ids. -/
theorem Inv.deliver_late {f : InFlight} {rest : List InFlight} {inside : List CallArgs}
    (h : Inv s) (hwire : s.toClient = f :: rest) (hcall : f.call = some k)
    (hfired : .timerFired ∈ s.about k) :
    step s (.deliver inside) = .ok ((s.arrive f rest).eraseTimedOut f.msg.id) := by
  rcases h.step_deliver hwire with
    ⟨hcall', _⟩ | ⟨j, hcall', _, ⟨hst, _⟩ | ⟨b, _, heq⟩⟩
  · rw [hcall] at hcall'
    cases hcall'
  · rw [hcall] at hcall'
    cases hcall'
    rw [(view_eq_iff.mp hst).1] at hfired
    simp [Standing.lifeOf] at hfired
  · rw [hcall] at hcall'
    cases hcall'
    rw [heq, (h.head hwire hcall).2.1]

/-- **Calls and replies are matched.**  In every state of a run with fewer than 2³¹ calls: what has
happened to a call is one of the histories of `lifeOf`; no event fails an assertion, when calls are
made once the channel is ready and with a timeout of at most thirty seconds; and a reply that
arrives after the timer of its call has fired is dropped. -/
theorem calls_matched {es : List IpcEvent} {s : IpcSession} (hrun : Run Step {} es s)
    (hlt : s.calls.length < 2 ^ 31) :
    (∀ k, ∃ st : Standing, s.about k = st.lifeOf) ∧
    (∀ e, Enabled s e → Permitted s e → ∃ t, step s e = .ok t) ∧
    (∀ f rest k inside, s.toClient = f :: rest → f.call = some k → .timerFired ∈ s.about k →
      step s (.deliver inside) = .ok ((s.arrive f rest).eraseTimedOut f.msg.id)) := by
  have h := inv_of_run hrun hlt
  refine ⟨fun k => ?_, fun e => h.exists_step, fun f rest k inside => h.deliver_late⟩
  obtain ⟨st, hst⟩ := h.standing k
  exact ⟨st, (view_eq_iff.mp hst).1⟩

instance (s : IpcSession) (e : IpcEvent) : Decidable (Enabled s e) :=
  match e with
  | .connected => inferInstanceAs (Decidable (s.ch.genMsgCh = false))
  | .call _ => inferInstanceAs (Decidable True)
  | .serverReply k _ => inferInstanceAs (Decidable (k ∈ s.unanswered))
  | .serverMsg _ _ => inferInstanceAs (Decidable (s.ch.genMsgCh = true))
  | .deliver _ => inferInstanceAs (Decidable (s.toClient ≠ []))
  | .timeout id _ =>
    inferInstanceAs (Decidable (∃ info ∈ s.ch.pendingCalls id, info.timeoutTimer = true))

/-- A call that times out, and from whose callback another is made.  The reply to the first comes
after both. -/
def race : List IpcEvent :=
  [.connected, .call { type := 1, data := [], respType := 2, timeoutSecs := some 5 },
   .timeout 1 [{ type := 3, data := [], respType := 4 }],
   .serverReply 1 [7], .serverReply 0 [8], .deliver [], .deliver []]

theorem calls_matched_race :
    ∃ s, Run Step {} race s ∧ s.about 0 = (Standing.swallowed [8] false).lifeOf ∧
      s.about 1 = (Standing.received [7]).lifeOf ∧ ∀ k, ∃ st : Standing, s.about k = st.lifeOf := by
  obtain ⟨s, hexec, hs⟩ := exists_of_returns
    (x := exec (guardedStep Enabled .notInMap step) {} race)
    (p := fun s => decide (s.calls.length = 2 ∧
      s.about 0 = (Standing.swallowed [8] false).lifeOf ∧
      s.about 1 = (Standing.received [7]).lifeOf)) (by decide +kernel)
  obtain ⟨hlen, h₀, h₁⟩ := of_decide_eq_true hs
  have hrun : Run Step {} race s := run_of_exec_guarded hexec
  exact ⟨s, hrun, h₀, h₁, (calls_matched hrun (by omega)).1⟩

/-- **A call with a timeout of 31 seconds, and a call before the channel is ready.** -/
theorem call_fails :
    (∃ s, Run Step {} [.connected] s ∧ Enabled s
        (.call { type := 1, data := [], respType := 2, timeoutSecs := some 31 }) ∧
      step s (.call { type := 1, data := [], respType := 2, timeoutSecs := some 31 }) =
        .error .timeoutSecs) ∧
    step {} (.call { type := 1, data := [], respType := 2 }) = .error .notAvailYet := by
  refine ⟨⟨{ ch := { genMsgCh := true } }, .cons ⟨rfl, rfl⟩ (.nil _), trivial, ?_⟩, rfl⟩
  simp [step, call, check]

end IpcSession

end ShadowBrowser
