/-
A request to drop what a channel gets next.

The next `n` bytes of the socket never reach the input buffer, and the byte after them is
the first one that is appended to it.  The observer is told of the bytes as they are
dropped, or once of all of them, and may then ask again.

* `Responds` — what an observer does to a channel and its log;
* `Fulfils` — where a request stands, by the bytes that have come since;
* `Conn.Inv.step` — every event keeps it;
* `Excused`, `step_excused` — an event that does not go through has an excuse;
* **`drops_exactly`** — every request is fulfilled, in any order of events.
-/
import Mathlib.Algebra.GroupWithZero.Nat
import ShadowBrowser.TcpSocket

namespace ShadowBrowser

open Checked Runs

/-! ### What the observer does -/

namespace TcpChannel

variable {ch ch' : TcpChannel}

/-- The user takes some bytes from the front of the input buffer; a request to drop stays as it is, or
is made if there was none. -/
theorem Calls.effect (h : Calls ch ch') : ∃ front, ch.inputEvb = front ++ ch'.inputEvb ∧
    (ch'.inputDrop = ch.inputDrop ∨ ch.inputDrop.numRequested = 0 ∧
      ∃ n p, 0 < n ∧ ch'.inputDrop = ⟨n, n, p⟩) := by
  induction h with
  | refl => exact ⟨[], rfl, .inl rfl⟩
  | @tail ch₁ ch₂ _ hcall ih =>
    obtain ⟨front, hbuf, hdrop⟩ := ih
    cases hcall with
    | drain len =>
      refine ⟨front ++ ch₁.inputEvb.take len, ?_, hdrop⟩
      rw [drain_inputEvb, List.append_assoc, List.take_append_drop]
      exact hbuf
    | write data => exact ⟨front, hbuf, hdrop⟩
    | setReadWatermark lowmark highmark h =>
      obtain ⟨_, -, h⟩ := bind_eq_ok.mp h
      obtain ⟨_, -, h⟩ := bind_eq_ok.mp h
      cases h
      exact ⟨front, hbuf, hdrop⟩
    | setReadSizeHint len h =>
      obtain ⟨_, -, h⟩ := bind_eq_ok.mp h
      obtain ⟨_, -, h⟩ := bind_eq_ok.mp h
      cases h
      exact ⟨front, hbuf, hdrop⟩
    | dropFutureInput len notifyProgress h =>
      obtain ⟨_, hidle, h⟩ := bind_eq_ok.mp h
      obtain ⟨_, hpos, h⟩ := bind_eq_ok.mp h
      cases h
      have hidle := check_eq_ok.mp hidle
      refine ⟨front, hbuf, .inr ⟨?_, len, notifyProgress, check_eq_ok.mp hpos, rfl⟩⟩
      rcases hdrop with hsame | ⟨hnone, -⟩
      · rw [← hsame]
        exact hidle
      · exact hnone

end TcpChannel

/-- Why a read gives no bytes, if it does not. -/
def ReadAnswer.failed : ReadAnswer → Option IoFailure
  | .bytes _ _ => none
  | .failure f => some f

namespace Conn

variable {χ σ ε : Type} {o : SocketUser χ σ ε} {inShadow : Bool} {s s' : Conn σ} {n : ℕ} {p : Bool}

/-- What an observer does to a channel that is open, and to its log: it takes some bytes out of the input
buffer, and if no request to drop is active it may make one. -/
structure Answers (s s' : Conn σ) : Prop where
  opened : s'.closed = false
  effect : ∃ front, s.ch.inputEvb = front ++ s'.ch.inputEvb ∧
    (s'.ch.inputDrop = s.ch.inputDrop ∧ s'.log = { s.log with taken := s.log.taken ++ front } ∨
      s.ch.inputDrop.numRequested = 0 ∧ ∃ n p, 0 < n ∧ s'.ch.inputDrop = ⟨n, n, p⟩ ∧
        s'.log = { request := some (n, p), base := s.ch.inputEvb, taken := front })

/-- The same, or the channel is closed. -/
def Responds (s s' : Conn σ) : Prop := s'.closed = true ∨ Answers s s'

theorem respond_responds {r : σ × Option TcpChannel}
    (hcalls : ∀ ch', r.2 = some ch' → TcpChannel.Calls s.ch ch') : Responds s (s.respond r) := by
  obtain ⟨u, r⟩ := r
  cases r with
  | none => exact .inl rfl
  | some ch' =>
    cases hclosed : s.closed with
    | true =>
      left
      simp only [respond, hclosed, if_true]
    | false =>
      right
      obtain ⟨front, hbuf, hdrop⟩ := (hcalls ch' rfl).effect
      have heq : s.respond (u, some ch') =
          { s with user := u, ch := ch', log := s.log.after s.ch ch' } := by
        simp only [respond, hclosed, Bool.false_eq_true, if_false]
      rw [heq]
      -- the bytes that are missing in the buffer are those that the user has taken
      have htaken : s.ch.inputEvb.take (s.ch.inputEvb.length - ch'.inputEvb.length) = front := by
        rw [hbuf, List.length_append, Nat.add_sub_cancel, List.take_left]
      refine ⟨hclosed, front, hbuf, ?_⟩
      rcases hdrop with hsame | ⟨hidle, n, p, hn, hnew⟩
      · left
        refine ⟨hsame, ?_⟩
        rw [DropLog.after, if_neg, htaken]
        rw [hsame]
        exact fun hcond => hcond.2 hcond.1
      · right
        refine ⟨hidle, n, p, hn, hnew, ?_⟩
        rw [DropLog.after, hnew, if_pos ⟨hidle, Nat.pos_iff_ne_zero.mp hn⟩, htaken]

theorem notify_responds {m : Notice} (h : notify o m s = .ok s') : Responds s s' := by
  obtain ⟨⟨u, r⟩, hr, h⟩ := bind_eq_ok.mp h
  cases h
  have hresponds := respond_responds (s := { s with notices := s.notices ++ [m] }) (r := (u, r)) (by
    rintro ch' rfl
    exact o.notify_calls (eq_ok_of_mapError hr))
  -- the notice itself is neither in the channel nor in the log
  rcases hresponds with hclosed | ⟨hopen, heffect⟩
  · exact .inl hclosed
  · exact .inr ⟨hopen, heffect⟩

/-! ### Where a request stands -/

/-- Where a request to drop `n` bytes stands.

* `kept`, `buffer` — of the bytes that have come since, the first `n` are dropped, and the others are
  appended to the input buffer, from whose front the user may take some;
* `progress` — with progress notifications, the observer has been told of all bytes that are dropped;
* `once` — without them, it has been told once of all `n`, when none remained, and not before;
* `pending`, `idle` — the request is active until `n` bytes have come, and then no request is. -/
structure Fulfils (s : Conn σ) (n : ℕ) (p : Bool) : Prop where
  kept : s.log.kept = s.log.received.drop n
  buffer : s.log.base ++ s.log.kept = s.log.taken ++ s.ch.inputEvb
  progress : p = true → (s.log.told.map DropNotice.len).sum = min n s.log.received.length
  once : p = false → s.log.told = if n ≤ s.log.received.length then [⟨n, 0⟩] else []
  pending : s.log.received.length < n → s.ch.inputDrop = ⟨n, n - s.log.received.length, p⟩
  idle : n ≤ s.log.received.length → s.ch.inputDrop = {}

/-- No request is active that has not been logged, and the one that has been logged stands as it
should. -/
def Inv (s : Conn σ) : Prop :=
  s.closed = false → s.log.request = none ∧ s.ch.inputDrop = {} ∨
    ∃ n p, s.log.request = some (n, p) ∧ 0 < n ∧ Fulfils s n p

/-- All bytes of the request have come, and the observer has just been told. -/
structure LastTold (s : Conn σ) (n : ℕ) (p : Bool) : Prop where
  request : s.log.request = some (n, p)
  pos : 0 < n
  received : s.log.received.length = n
  kept : s.log.kept = []
  buffer : s.log.base ++ s.log.kept = s.log.taken ++ s.ch.inputEvb
  progress : p = true → (s.log.told.map DropNotice.len).sum = n
  once : p = false → s.log.told = [⟨n, 0⟩]
  drop : s.ch.inputDrop = ⟨n, 0, p⟩

theorem inv_of_closed (h : s.closed = true) : Inv s := fun hopen =>
  absurd (h.symm.trans hopen) (by decide)

/-- The user takes some bytes: the request stands as before. -/
theorem Fulfils.taken (h : Fulfils s n p) {front : List UInt8}
    (hbuf : s.ch.inputEvb = front ++ s'.ch.inputEvb) (hdrop : s'.ch.inputDrop = s.ch.inputDrop)
    (hlog : s'.log = { s.log with taken := s.log.taken ++ front }) : Fulfils s' n p := by
  constructor
  · rw [hlog]
    exact h.kept
  · rw [hlog, h.buffer, hbuf, List.append_assoc]
  · rw [hlog]
    exact h.progress
  · rw [hlog]
    exact h.once
  · rw [hlog, hdrop]
    exact h.pending
  · rw [hlog, hdrop]
    exact h.idle

/-- **What the observer does keeps the requests in order.** -/
theorem Inv.responds (h : Inv s) (hopen : s.closed = false) (hr : Responds s s') : Inv s' := by
  rcases hr with hclosed | ⟨-, front, hbuf, ⟨hdrop, hlog⟩ | ⟨-, n, p, hn, hdrop, hlog⟩⟩
  · exact inv_of_closed hclosed
  · intro _
    rcases h hopen with ⟨hnone, hidle⟩ | ⟨n, p, hreq, hn, hful⟩
    · exact .inl ⟨by rw [hlog]; exact hnone, hdrop.trans hidle⟩
    · exact .inr ⟨n, p, by rw [hlog]; exact hreq, hn, hful.taken hbuf hdrop hlog⟩
  · intro _
    refine .inr ⟨n, p, by rw [hlog], hn, ?_⟩
    constructor
    · rw [hlog]
      exact (List.drop_nil ..).symm
    · rw [hlog, List.append_nil]
      exact hbuf
    · intro _
      rw [hlog]
      exact (Nat.min_zero n).symm
    · intro _
      rw [hlog]
      exact (if_neg (Nat.not_le.mpr hn)).symm
    · intro _
      rw [hlog]
      exact hdrop
    · intro hle
      rw [hlog] at hle
      exact absurd hle (Nat.not_le.mpr hn)

/-- While the observer is told that the request is over it cannot ask again, and then the request is
reset. -/
theorem LastTold.reset (h : LastTold s n p) (hr : Responds s s') : Inv s'.resetDrop := by
  rcases hr with hclosed | ⟨hopen, front, hbuf, ⟨hdrop, hlog⟩ | ⟨hidle, -⟩⟩
  · exact inv_of_closed hclosed
  · intro _
    have hlen : s'.log.received.length = n := by
      rw [hlog]
      exact h.received
    refine .inr ⟨n, p, by rw [resetDrop, hlog]; exact h.request, h.pos, ?_⟩
    constructor
    · show s'.log.kept = s'.log.received.drop n
      rw [List.drop_eq_nil_of_le (Nat.le_of_eq hlen), hlog]
      exact h.kept
    · show s'.log.base ++ s'.log.kept = s'.log.taken ++ s'.ch.inputEvb
      rw [hlog, h.buffer, hbuf, List.append_assoc]
    · intro hp
      show (s'.log.told.map DropNotice.len).sum = min n s'.log.received.length
      rw [hlen, Nat.min_self, hlog]
      exact h.progress hp
    · intro hp
      show s'.log.told = if n ≤ s'.log.received.length then [⟨n, 0⟩] else []
      rw [hlen, if_pos (Nat.le_refl n), hlog]
      exact h.once hp
    · intro hlt
      exact absurd hlen (Nat.ne_of_lt hlt)
    · exact fun _ => rfl
  · rw [h.drop] at hidle
    exact absurd hidle (Nat.pos_iff_ne_zero.mp h.pos)

/-! ### One event -/

theorem Inv.notify {m : Notice} (h : Inv s) (hopen : s.closed = false)
    (heq : notify o m s = .ok s') : Inv s' := h.responds hopen (notify_responds heq)

/-- A notice to the observer of a channel that has been closed. -/
theorem closed_of_notify {m : Notice} (hclosed : s.closed = true) (heq : Conn.notify o m s = .ok s') :
    s'.closed = true := by
  obtain ⟨⟨u, r⟩, -, heq⟩ := bind_eq_ok.mp heq
  cases heq
  cases r with
  | none => rfl
  | some ch' =>
    simp only [respond, hclosed, if_true]

theorem Inv.notify_all {m : Notice} (h : Inv s) (heq : Conn.notify o m s = .ok s') : Inv s' := by
  cases hclosed : s.closed with
  | true => exact inv_of_closed (closed_of_notify hclosed heq)
  | false => exact h.notify hclosed heq

theorem Inv.handle {f : IoFailure} (h : Inv s)
    (heq : handleNonSuccessfulSocketIo o inShadow f s = .ok s') : Inv s' := by
  have hend : ∀ {m : Notice}, Conn.notify o m (if inShadow then s else s.close) = .ok s' → Inv s' := by
    intro m heq
    cases inShadow with
    | true => exact h.notify_all heq
    | false => exact inv_of_closed (closed_of_notify rfl heq)
  cases f with
  | eof => exact hend heq
  | eAgain =>
    cases heq
    exact h
  | eInProgress => cases heq
  | errno => exact hend heq

/-- A request of whose bytes some have not come yet. -/
theorem fulfils_partial (hlt : s.log.received.length < n) (hkept : s.log.kept = [])
    (hbuf : s.log.base ++ s.log.kept = s.log.taken ++ s.ch.inputEvb)
    (hprogress : p = true → (s.log.told.map DropNotice.len).sum = s.log.received.length)
    (honce : p = false → s.log.told = [])
    (hdrop : s.ch.inputDrop = ⟨n, n - s.log.received.length, p⟩) : Fulfils s n p where
  kept := by rw [hkept, List.drop_eq_nil_of_le (Nat.le_of_lt hlt)]
  buffer := hbuf
  progress hp := by rw [hprogress hp, Nat.min_eq_right (Nat.le_of_lt hlt)]
  once hp := by rw [honce hp, if_neg (Nat.not_le.mpr hlt)]
  pending _ := hdrop
  idle hle := absurd hle (Nat.not_le.mpr hlt)

/-- The state of an active request, when the loop has dropped some of its bytes. -/
structure Advanced (s s₁ : Conn σ) (n : ℕ) (p : Bool) (bs : List UInt8) : Prop where
  closed : s₁.closed = false
  request : s₁.log.request = some (n, p)
  received : s₁.log.received.length = s.log.received.length + bs.length
  bound : s.log.received.length + bs.length ≤ n
  kept : s₁.log.kept = []
  buffer : s₁.log.base ++ s₁.log.kept = s₁.log.taken ++ s₁.ch.inputEvb
  told : s₁.log.told = s.log.told
  drop : s₁.ch.inputDrop = ⟨n, n - (s.log.received.length + bs.length), p⟩

theorem Fulfils.advanced {d : DropRead} {bs : List UInt8} {answers : List ReadAnswer}
    (h : Fulfils s n p) (hreq : s.log.request = some (n, p)) (hopen : s.closed = false)
    (hlt : s.log.received.length < n) (hd : Drops { drop := s.ch.inputDrop, answers } d bs) :
    Advanced s (s.dropped d) n p bs ∧ d.droppedThisTime = bs := by
  have hactive := h.pending hlt
  have hlen := hd.length
  have hdropped := hd.dropped
  have hdrop := hd.drop
  simp only [hactive, List.nil_append] at hlen hdropped hdrop
  refine ⟨⟨hopen, hreq, ?_, by omega, ?_, h.buffer, rfl, ?_⟩, hdropped⟩
  · show (s.log.received ++ d.droppedThisTime).length = _
    rw [hdropped, List.length_append]
  · exact h.kept.trans (List.drop_eq_nil_of_le (Nat.le_of_lt hlt))
  · show d.drop = _
    rw [hdrop, Nat.sub_sub]

/-- **The observer is told of the bytes that the loop has dropped.** -/
theorem Advanced.notifyDropped {s₁ : Conn σ} {bs : List UInt8} (h : Fulfils s n p) (hn : 0 < n)
    (hlt : s.log.received.length < n) (ha : Advanced s s₁ n p bs)
    (heq : notifyDropped o bs.length s₁ = .ok s') :
    Inv s' ∧ (s₁.ch.inputDrop.numRemaining = 0 → s'.closed = false → s'.ch.inputDrop = {}) := by
  have hbound := ha.bound
  have hremaining : s₁.ch.inputDrop.numRemaining = n - (s.log.received.length + bs.length) := by
    rw [ha.drop]
  -- up to here the observer has been told of everything, or of nothing
  have hsum : p = true → (s.log.told.map DropNotice.len).sum = s.log.received.length := fun hp =>
    (h.progress hp).trans (Nat.min_eq_right (Nat.le_of_lt hlt))
  have hnone : p = false → s.log.told = [] := fun hp =>
    (h.once hp).trans (if_neg (Nat.not_le.mpr hlt))
  rw [Conn.notifyDropped] at heq
  simp only [ha.drop] at heq
  cases p with
  | true =>
    simp only [if_true] at heq
    obtain ⟨s₂, htell, heq⟩ := bind_eq_ok.mp heq
    obtain rfl := Except.ok.inj heq
    have hresponds := notify_responds htell
    have htold : ((s₁.logTold bs.length).log.told.map DropNotice.len).sum =
        s.log.received.length + bs.length := by
      rw [logTold, ha.told, List.map_append, List.sum_append, hsum rfl]
      rfl
    -- in either case the request ends when nothing is left to be dropped
    by_cases hall : n - (s.log.received.length + bs.length) = 0
    · rw [if_pos hall]
      have hlast : LastTold (s₁.logTold bs.length) n true := {
        request := ha.request
        pos := hn
        received := ha.received.trans (by omega)
        kept := ha.kept
        buffer := ha.buffer
        progress := fun _ => htold.trans (by omega)
        once := nofun
        drop := ha.drop.trans (by rw [hall]) }
      exact ⟨hlast.reset hresponds, fun _ _ => rfl⟩
    · rw [if_neg hall]
      have hmore : s₁.log.received.length < n := by
        rw [ha.received]
        omega
      have hful : Fulfils (s₁.logTold bs.length) n true := by
        refine fulfils_partial hmore ha.kept ha.buffer (fun _ => htold.trans ha.received.symm) nofun ?_
        show s₁.ch.inputDrop = ⟨n, n - s₁.log.received.length, true⟩
        rw [ha.received]
        exact ha.drop
      exact ⟨Inv.responds (s := s₁.logTold bs.length) (fun _ => .inr ⟨n, true, ha.request, hn, hful⟩)
        ha.closed hresponds, fun hzero => absurd (hremaining.symm.trans hzero) hall⟩
  | false =>
    simp only [Bool.false_eq_true, if_false] at heq
    by_cases hall : n - (s.log.received.length + bs.length) = 0
    · rw [if_pos hall] at heq
      obtain ⟨s₂, htell, heq⟩ := bind_eq_ok.mp heq
      obtain rfl := Except.ok.inj heq
      have hlast : LastTold (s₁.logTold n) n false := {
        request := ha.request
        pos := hn
        received := ha.received.trans (by omega)
        kept := ha.kept
        buffer := ha.buffer
        progress := nofun
        once := fun _ => by
          show s₁.log.told ++ [(⟨n, s₁.ch.inputDrop.numRemaining⟩ : DropNotice)] = _
          rw [ha.told, hnone rfl, hremaining, hall]
          rfl
        drop := ha.drop.trans (by rw [hall]) }
      exact ⟨hlast.reset (notify_responds htell), fun _ _ => rfl⟩
    · rw [if_neg hall] at heq
      obtain rfl := Except.ok.inj heq
      refine ⟨fun _ => .inr ⟨n, false, ha.request, hn, ?_⟩,
        fun hzero => absurd (hremaining.symm.trans hzero) hall⟩
      have hmore : s₁.log.received.length < n := by
        rw [ha.received]
        omega
      refine fulfils_partial hmore ha.kept ha.buffer nofun (fun _ => ha.told.trans (hnone rfl)) ?_
      rw [ha.received]
      exact ha.drop

/-- **The dropping part of a read event.**  If the socket may have more, no request is active. -/
theorem Inv.maybeDropread {answers rest : List ReadAnswer} {more : Bool} (h : Inv s)
    (hopen : s.closed = false) (heq : maybeDropread o inShadow answers s = .ok (s', more, rest)) :
    Inv s' ∧ (more = true → s'.closed = false → s'.ch.inputDrop = {}) := by
  obtain ⟨d, bs, hloop, hd⟩ := dropread_spec (χ := χ) s.ch.inputDrop answers
  rw [Conn.maybeDropread, hloop, ok_bind] at heq
  obtain ⟨s₁, hnotify, heq⟩ := bind_eq_ok.mp heq
  obtain ⟨s₂, hhandle, heq⟩ := bind_eq_ok.mp heq
  cases heq
  have hmid : Inv s₁ ∧ (d.drop.numRemaining = 0 → s₁.closed = false → s₁.ch.inputDrop = {}) := by
    by_cases hne : bs = []
    · -- nothing is dropped
      have hdropped : d.droppedThisTime = [] := hd.dropped.trans hne
      have hsame : d.drop = s.ch.inputDrop := by
        rw [hd.drop, hne]
        rfl
      have hself : s.dropped d = s := by
        rw [dropped, hdropped, hsame, List.append_nil]
      rw [if_pos hdropped, hself] at hnotify
      obtain rfl := Except.ok.inj hnotify
      refine ⟨h, fun hzero _ => ?_⟩
      rcases h hopen with ⟨-, hidle⟩ | ⟨n, p, -, -, hful⟩
      · exact hidle
      · refine hful.idle (Nat.not_lt.mp fun hlt => ?_)
        rw [hsame, hful.pending hlt] at hzero
        have hzero : n - s.log.received.length = 0 := hzero
        omega
    · have hlen := hd.length
      have hpos := List.length_pos_iff.mpr hne
      rcases h hopen with ⟨-, hidle⟩ | ⟨n, p, hreq, hn, hful⟩
      · rw [hidle] at hlen
        exact absurd hpos (Nat.not_lt.mpr hlen)
      · have hlt : s.log.received.length < n := by
          by_contra hge
          rw [hful.idle (Nat.not_lt.mp hge)] at hlen
          exact absurd hpos (Nat.not_lt.mpr hlen)
        obtain ⟨hadv, hbs⟩ := hful.advanced hreq hopen hlt hd
        rw [hbs, if_neg hne] at hnotify
        exact hadv.notifyDropped hful hn hlt hnotify
  -- what the socket said is handled last, and may close the connection
  cases herror : d.readError with
  | none =>
    rw [herror] at hhandle
    obtain rfl := Except.ok.inj hhandle
    exact ⟨hmid.1, fun hmore => hmid.2 (hd.more hmore).1⟩
  | some f =>
    rw [herror] at hhandle
    refine ⟨hmid.1.handle hhandle, fun hmore => ?_⟩
    have hnone := (hd.more hmore).2
    rw [herror] at hnone
    cases hnone

/-- Bytes are appended when no request is active. -/
theorem Inv.append (h : Inv s) (hidle : s.ch.inputDrop = {}) (bs : List UInt8) : Inv (s.append bs) := by
  intro hopen
  rcases h hopen with ⟨hnone, -⟩ | ⟨n, p, hreq, hn, hful⟩
  · exact .inl ⟨hnone, hidle⟩
  · have hle : n ≤ s.log.received.length := by
      by_contra hlt
      have hactive := hful.pending (Nat.not_le.mp hlt)
      rw [hidle] at hactive
      have hzero : 0 = n := congrArg InputDropInfo.numRequested hactive
      omega
    have hle' : n ≤ (s.log.received ++ bs).length := by
      rw [List.length_append]
      omega
    refine .inr ⟨n, p, hreq, hn, ?_⟩
    constructor
    · show s.log.kept ++ bs = (s.log.received ++ bs).drop n
      rw [List.drop_append_of_le_length hle, hful.kept]
    · show s.log.base ++ (s.log.kept ++ bs) = s.log.taken ++ (s.ch.inputEvb ++ bs)
      rw [← List.append_assoc, hful.buffer, List.append_assoc]
    · intro hp
      show (s.log.told.map DropNotice.len).sum = min n (s.log.received ++ bs).length
      rw [hful.progress hp, Nat.min_eq_left hle, Nat.min_eq_left hle']
    · intro hp
      show s.log.told = if n ≤ (s.log.received ++ bs).length then [⟨n, 0⟩] else []
      rw [if_pos hle', hful.once hp, if_pos hle]
    · intro hlt
      exact absurd hle' (Nat.not_le.mpr hlt)
    · exact fun _ => hidle

/-- The rest of a read event, when no request is active. -/
theorem Inv.evbufferRead {answers : List ReadAnswer} (h : Inv s)
    (hidle : s.closed = false → s.ch.inputDrop = {})
    (heq : evbufferRead o inShadow answers s = .ok s') : Inv s' := by
  obtain ⟨_, hopen, heq⟩ := bind_eq_ok.mp heq
  have hopen := check_eq_ok.mp hopen
  split at heq
  · next b bs _ =>
    have happend := h.append (hidle hopen) (b :: bs)
    dsimp only at heq
    split at heq
    · exact happend.notify_all heq
    · cases heq
      exact happend
  · exact h.handle heq

theorem Inv.onSocketReadcb {answers : List ReadAnswer} (h : Inv s) (hopen : s.closed = false)
    (heq : onSocketReadcb o inShadow answers s = .ok s') : Inv s' := by
  obtain ⟨⟨s₁, more, rest⟩, hdrop, heq⟩ := bind_eq_ok.mp heq
  obtain ⟨hinv, hidle⟩ := h.maybeDropread hopen hdrop
  cases more with
  | true => exact hinv.evbufferRead (hidle rfl) heq
  | false =>
    cases heq
    exact hinv

theorem Inv.onSocketWritecb {answer : WriteAnswer} (h : Inv s)
    (heq : onSocketWritecb o inShadow answer s = .ok s') : Inv s' := by
  cases answer with
  | accepts k =>
    -- the input side is not touched
    have hout : Inv { s with ch := { s.ch with outputEvb := s.ch.outputEvb.drop k } } := by
      intro hopen
      rcases h hopen with hidle | ⟨n, p, hreq, hn, hful⟩
      · exact .inl hidle
      · exact .inr ⟨n, p, hreq, hn,
          ⟨hful.kept, hful.buffer, hful.progress, hful.once, hful.pending, hful.idle⟩⟩
    rw [Conn.onSocketWritecb] at heq
    dsimp only at heq
    split at heq
    · exact hout.notify_all heq
    · cases heq
      exact hout
  | failure f => exact h.handle heq

/-- **One event.** -/
theorem Inv.step {e : SocketEvent ε} (h : Inv s) (hstep : Step o inShadow s e s') : Inv s' := by
  obtain ⟨hen, hstep⟩ := hstep
  have hopen := closed_of_enabled hen
  cases e with
  | readable answers => exact h.onSocketReadcb hopen hstep
  | timeout answers => exact h.onSocketReadcb hopen hstep
  | writable answer => exact h.onSocketWritecb hstep
  | act e =>
    obtain ⟨⟨u, r⟩, hr, hstep⟩ := bind_eq_ok.mp hstep
    cases hstep
    refine h.responds hopen (respond_responds ?_)
    rintro ch' rfl
    exact o.act_calls (eq_ok_of_mapError hr)

/-! ### Events that do not go through -/

/-- The failures among the answers that an event finds at the socket. -/
def failures : SocketEvent ε → List IoFailure
  | .readable answers => answers.filterMap ReadAnswer.failed
  | .timeout answers => answers.filterMap ReadAnswer.failed
  | .writable (.failure f) => [f]
  | _ => []

/-- Why an event may not go through: an assertion of the observer fails, or the observer closes the
channel when it is told of dropped bytes, or the socket answers `EINPROGRESS`. -/
inductive Excused (o : SocketUser χ σ ε) (e : SocketEvent ε) : SocketCheck χ → Prop
  | user (x : χ) : Excused o e (.user x)
  | closes {len : ℕ} {ch : TcpChannel} {u u' : σ}
    (h : o.notify (.inputBytesDropped len) ch u = .ok (u', none)) : Excused o e .noBuffer
  | einprogress (h : .eInProgress ∈ failures e) : Excused o e .einprogress

variable {x : SocketCheck χ} {e : SocketEvent ε}

theorem notify_excused {m : Notice} (h : Conn.notify o m s = .error x) : Excused o e x := by
  rcases bind_eq_error.mp h with h | ⟨_, -, h⟩
  · cases hr : o.notify m s.ch s.user with
    | error y =>
      rw [hr] at h
      cases h
      exact .user y
    | ok r =>
      rw [hr] at h
      cases h
  · cases h

theorem handle_excused {f : IoFailure} (h : handleNonSuccessfulSocketIo o inShadow f s = .error x)
    (hf : f = .eAgain ∨ f ∈ failures e) : Excused o e x := by
  cases f with
  | eof => exact notify_excused h
  | eAgain => cases h
  | eInProgress =>
    cases h
    exact .einprogress (hf.resolve_left nofun)
  | errno => exact notify_excused h

/-- A read fails as one of the answers says, or because there is none; the answers that are left fail
as they did. -/
theorem sysRead_failed (howmuch : ℤ) (answers : List ReadAnswer) :
    (∀ f, (sysRead howmuch answers).1 = .failure f →
      f = .eAgain ∨ f ∈ answers.filterMap ReadAnswer.failed) ∧
    (sysRead howmuch answers).2.filterMap ReadAnswer.failed ⊆
      answers.filterMap ReadAnswer.failed := by
  cases answers with
  | nil => exact ⟨fun f h => by cases h; exact .inl rfl, List.Subset.refl _⟩
  | cons a answers =>
    cases a with
    | failure g =>
      refine ⟨fun f h => ?_, List.subset_cons_self ..⟩
      cases h
      exact .inr List.mem_cons_self
    | bytes b bs =>
      rw [sysRead]
      split
      · refine ⟨fun f h => ?_, List.Subset.refl _⟩
        cases h
      · refine ⟨fun f h => ?_, ?_⟩
        · cases h
        · dsimp only
          split <;> exact List.Subset.refl _

/-- **The dropping loop fails as the socket does.** -/
theorem dropreadLoop_failed {fuel : ℕ} {d d' : DropRead}
    (h : dropreadLoop (χ := χ) fuel d = .ok d') :
    (∀ f, d'.readError = some f → d.readError = some f ∨ f = .eAgain ∨
      f ∈ d.answers.filterMap ReadAnswer.failed) ∧
    d'.answers.filterMap ReadAnswer.failed ⊆ d.answers.filterMap ReadAnswer.failed := by
  induction fuel generalizing d with
  | zero => cases h
  | succ fuel ih =>
    rw [dropreadLoop] at h
    split at h
    · obtain ⟨hfail, hrest⟩ :=
        sysRead_failed ((min d.drop.numRemaining dropBufSize : ℕ) : ℤ) d.answers
      dsimp only at h
      split at h
      · next b bs answers hread =>
        obtain ⟨drop, -, h⟩ := bind_eq_ok.mp h
        rw [hread] at hrest
        obtain ⟨hf, ha⟩ := ih h
        exact ⟨fun f hd => (hf f hd).imp id (Or.imp id (@hrest f)), List.Subset.trans ha hrest⟩
      · next f answers hread =>
        rw [hread] at hfail hrest
        obtain ⟨hf, ha⟩ := ih h
        refine ⟨fun g hd => .inr ?_, List.Subset.trans ha hrest⟩
        rcases hf g hd with hsame | hagain | hmem
        · cases hsame
          exact hfail f rfl
        · exact .inl hagain
        · exact .inr (hrest hmem)
    · cases h
      exact ⟨fun f hd => .inl hd, List.Subset.refl _⟩

/-- A state in which the observer has closed the channel when it was told of dropped bytes. -/
theorem closes_of_tell {len : ℕ} (hopen : s.closed = false) (h : tellDropped o len s = .ok s')
    (hclosed : s'.closed = true) : Excused o e .noBuffer := by
  obtain ⟨⟨u, r⟩, hr, h⟩ := bind_eq_ok.mp h
  cases h
  cases r with
  | none => exact .closes (eq_ok_of_mapError hr)
  | some ch' =>
    have hsame : (s.logTold len).closed = false := hopen
    simp only [respond, hsame, Bool.false_eq_true, if_false] at hclosed

theorem notifyDropped_excused {len : ℕ} (h : Conn.notifyDropped o len s = .error x) :
    Excused o e x := by
  rw [Conn.notifyDropped] at h
  split at h
  · rcases bind_eq_error.mp h with h | ⟨_, -, h⟩
    · exact notify_excused h
    · cases h
  · split at h
    · rcases bind_eq_error.mp h with h | ⟨_, -, h⟩
      · exact notify_excused h
      · cases h
    · cases h

theorem notifyDropped_closes {len : ℕ} (hopen : s.closed = false)
    (h : Conn.notifyDropped o len s = .ok s') (hclosed : s'.closed = true) :
    Excused o e .noBuffer := by
  rw [Conn.notifyDropped] at h
  split at h
  · obtain ⟨s₁, htell, h⟩ := bind_eq_ok.mp h
    cases h
    refine closes_of_tell hopen htell ?_
    split at hclosed <;> exact hclosed
  · split at h
    · obtain ⟨s₁, htell, h⟩ := bind_eq_ok.mp h
      cases h
      exact closes_of_tell hopen htell hclosed
    · cases h
      cases hopen.symm.trans hclosed

theorem maybeDropread_excused {answers : List ReadAnswer}
    (hsub : answers.filterMap ReadAnswer.failed ⊆ failures e)
    (h : Conn.maybeDropread o inShadow answers s = .error x) : Excused o e x := by
  obtain ⟨d, bs, hloop, hd⟩ := dropread_spec (χ := χ) s.ch.inputDrop answers
  rw [Conn.maybeDropread, hloop, ok_bind] at h
  rcases bind_eq_error.mp h with h | ⟨s₁, -, h⟩
  · split at h
    · cases h
    · exact notifyDropped_excused h
  · rcases bind_eq_error.mp h with h | ⟨s₂, -, h⟩
    · split at h
      · next f hf =>
        refine handle_excused h ?_
        rcases (dropreadLoop_failed hloop).1 f hf with hf | hf | hf
        · cases hf
        · exact .inl hf
        · exact .inr (hsub hf)
      · cases h
    · cases h

/-- What is left of the answers when the loop has stopped, and who has closed the channel, if the
socket may have more. -/
theorem maybeDropread_rest {answers rest : List ReadAnswer} {more : Bool} (hopen : s.closed = false)
    (h : Conn.maybeDropread o inShadow answers s = .ok (s', more, rest)) :
    rest.filterMap ReadAnswer.failed ⊆ answers.filterMap ReadAnswer.failed ∧
      (more = true → s'.closed = true → Excused o e .noBuffer) := by
  obtain ⟨d, bs, hloop, hd⟩ := dropread_spec (χ := χ) s.ch.inputDrop answers
  rw [Conn.maybeDropread, hloop, ok_bind] at h
  obtain ⟨s₁, hnotify, h⟩ := bind_eq_ok.mp h
  obtain ⟨s₂, hhandle, h⟩ := bind_eq_ok.mp h
  cases h
  refine ⟨(dropreadLoop_failed hloop).2, fun hmore hclosed => ?_⟩
  rw [(hd.more hmore).2] at hhandle
  cases hhandle
  split at hnotify
  · cases hnotify
    cases (show s.closed = false from hopen).symm.trans hclosed
  · exact notifyDropped_closes (s := s.dropped d) hopen hnotify hclosed

theorem evbufferRead_excused {answers : List ReadAnswer}
    (hsub : answers.filterMap ReadAnswer.failed ⊆ failures e)
    (hclosed : s.closed = true → Excused o e .noBuffer)
    (h : Conn.evbufferRead o inShadow answers s = .error x) : Excused o e x := by
  rcases bind_eq_error.mp h with h | ⟨_, -, h⟩
  · obtain ⟨hne, rfl⟩ := check_eq_error.mp h
    exact hclosed (Bool.not_eq_false _ ▸ hne)
  · have hfail := (sysRead_failed s.ch.readSizeHint answers).1
    split at h
    · dsimp only at h
      split at h
      · exact notify_excused h
      · cases h
    · next f hread => exact handle_excused h ((hfail f hread).imp id (@hsub f))

theorem onSocketReadcb_excused {answers : List ReadAnswer}
    (hsub : answers.filterMap ReadAnswer.failed ⊆ failures e) (hopen : s.closed = false)
    (h : Conn.onSocketReadcb o inShadow answers s = .error x) : Excused o e x := by
  rcases bind_eq_error.mp h with h | ⟨⟨s₁, more, rest⟩, hdrop, h⟩
  · exact maybeDropread_excused hsub h
  · obtain ⟨hrest, hcloses⟩ := maybeDropread_rest (e := e) hopen hdrop
    cases more with
    | true => exact evbufferRead_excused (List.Subset.trans hrest hsub) (hcloses rfl) h
    | false => cases h

/-- **An event goes through**, unless there is an excuse: no check of the channel's own fails, and the
loops come to an end. -/
theorem step_excused (hen : Enabled inShadow s e) (h : Conn.step o inShadow s e = .error x) :
    Excused o e x := by
  have hopen := closed_of_enabled hen
  cases e with
  | readable answers => exact onSocketReadcb_excused (List.Subset.refl _) hopen h
  | timeout answers => exact onSocketReadcb_excused (List.Subset.refl _) hopen h
  | writable answer =>
    cases answer with
    | accepts k =>
      rw [Conn.step, Conn.onSocketWritecb] at h
      dsimp only at h
      split at h
      · exact notify_excused h
      · cases h
    | failure f => exact handle_excused h (.inr List.mem_cons_self)
  | act a =>
    rcases bind_eq_error.mp h with h | ⟨_, -, h⟩
    · cases hr : o.act a s.ch s.user with
      | error y =>
        rw [hr] at h
        cases h
        exact .user y
      | ok r =>
        rw [hr] at h
        cases h
    · cases h

/-! ### The result -/

/-- **Exactly the next `n` bytes are dropped.**  For every observer, every request to drop that it
makes, whatever the input buffer holds then, and every order of events: as long as the channel is
open, of the bytes that the socket has given since the request the first `n` are dropped, and the
others are appended to the input buffer, which is otherwise only the user's to take from; the
notifications tell of exactly the bytes that are dropped, or once of all `n`, when none
remain; once all have come the request is inactive, and a new one is accepted; and whatever the
socket answers to the next event, the event goes through unless the observer or the socket has
`Excused` it. -/
theorem drops_exactly {s₀ : Conn σ} {es : List (SocketEvent ε)} (hidle : s₀.ch.inputDrop = {})
    (hlog : s₀.log = {}) (hrun : Run (Step o inShadow) s₀ es s) (hopen : s.closed = false)
    (hreq : s.log.request = some (n, p)) :
    Fulfils s n p ∧
      (n ≤ s.log.received.length → ∀ m q, 0 < m → ∃ ch', s.ch.dropFutureInput m q = .ok ch') ∧
      ∀ e x, Enabled inShadow s e → step o inShadow s e = .error x → Excused o e x := by
  have hinv : Inv s := hrun.invariant (fun _ _ _ h hstep => h.step hstep)
    fun _ => .inl ⟨by rw [hlog], hidle⟩
  rcases hinv hopen with ⟨hnone, -⟩ | ⟨m, q, hreq', -, hful⟩
  · rw [hreq] at hnone
    cases hnone
  · obtain ⟨rfl, rfl⟩ := Prod.mk.inj (Option.some_inj.mp (hreq.symm.trans hreq'))
    refine ⟨hful, fun hle k q hk => ?_, fun e x hen h => step_excused hen h⟩
    rw [TcpChannel.dropFutureInput, hful.idle hle]
    exact ⟨_, bind_eq_ok.mpr ⟨(), check_eq_ok.mpr rfl, bind_eq_ok.mpr ⟨(), check_eq_ok.mpr hk, rfl⟩⟩⟩

/-- A user that asks to drop some bytes, and does nothing else. -/
def asksToDrop (n : ℕ) (p : Bool) : SocketUser TcpCheck Unit Unit where
  notify _ ch _ := .ok ((), some ch)
  act _ ch _ := (ch.dropFutureInput n p).map fun ch' => ((), some ch')
  notify_calls h := by
    cases h
    exact .refl
  act_calls {_ ch _ _ ch'} h := by
    cases hdrop : ch.dropFutureInput n p with
    | error e =>
      rw [hdrop] at h
      cases h
    | ok ch₁ =>
      rw [hdrop] at h
      cases h
      exact .single (.dropFutureInput n p hdrop)

/-- Three bytes are to be dropped, of which two come first; the third comes with two more. -/
theorem drops_exactly_three : ∃ s : Conn Unit,
    Run (Step (asksToDrop 3 false) false) { user := (), ch := { inputEvb := [9] } }
      [.act (), .readable [.bytes 1 [2]], .readable [.bytes 3 [4, 5]]] s ∧
    s.ch.inputEvb = [9, 4, 5] ∧ Fulfils s 3 false ∧
      (3 ≤ s.log.received.length → ∀ m q, 0 < m → ∃ ch', s.ch.dropFutureInput m q = .ok ch') ∧
      ∀ e x, Enabled false s e → step (asksToDrop 3 false) false s e = .error x →
        Excused (asksToDrop 3 false) e x := by
  have hrun : ∃ s : Conn Unit,
      Run (Step (asksToDrop 3 false) false) { user := (), ch := { inputEvb := [9] } }
        [.act (), .readable [.bytes 1 [2]], .readable [.bytes 3 [4, 5]]] s ∧
      s.closed = false ∧ s.log.request = some (3, false) ∧ s.ch.inputEvb = [9, 4, 5] :=
    ⟨_, .cons ⟨rfl, rfl⟩ (.cons ⟨rfl, rfl⟩ (.cons ⟨rfl, rfl⟩ (.nil _))), rfl, rfl, rfl⟩
  obtain ⟨s, hrun, hopen, hreq, hin⟩ := hrun
  exact ⟨s, hrun, hin, drops_exactly rfl rfl hrun hopen hreq⟩

end Conn

end ShadowBrowser
