/-
An armed channel and the calls of its owner.

`create_stream2`, `write_buffer`, `set_write_eof` and `close_stream` all end in the pump.  While
a session is armed, the pump insists on adding a cell, and the function that adds the cell insists
on being the first: of all the calls made before the socket becomes writable only one may get as
far as the pump, and there spdylay has to emit bytes.

* `pumpSpdySend_pending` — when the pump goes well while a session is armed;
* `onSocketWritecb_queued` — the writable event starts the session and offers its first cell;
* **`pending_holds_one`** — which sequences of calls go well, and what they leave.
-/
import ShadowBrowser.Stranding

namespace ShadowBrowser

open Checked Runs

namespace Chan

variable {c c' : Chan} {sends : List (List UInt8)}

/-! ### When a data cell can be added -/

theorem attachFlag_of {f : Flag} {checks : Chan → Except Check Unit} {x : Chan × UInt8 × Bool}
    (h : x.1.defenseInfo.needs f = true → checks x.1 = .ok ()) :
    attachFlag f checks x = .ok (attached f x) := by
  by_cases hn : x.1.defenseInfo.needs f = true
  · rw [attachFlag, if_pos hn, h hn]
    simp only [ok_bind, pure_eq_ok, attached, hn, if_true, Bool.or_true]
  · have hn' : x.1.defenseInfo.needs f = false := Bool.not_eq_true _ ▸ hn
    rw [attachFlag, if_neg hn, attached, clear_of_not_needs hn', hn']
    simp only [pure_eq_ok, Bool.false_eq_true, if_false, Bool.or_false]

/-- The checks of `_maybe_set_cell_flags` are those of `MayFlag`. -/
theorem maybeSetCellFlags_of_mayFlag (h : c.MayFlag) (t : UInt8) :
    c.maybeSetCellFlags t = .ok (c.clearFlags, c.flaggedByte t, decide (c.nextFlags ≠ [])) := by
  have hstart : attachFlag .start checkStartFlag (c, t, false) =
      .ok (attached .start (c, t, false)) := by
    refine attachFlag_of fun hn => ?_
    obtain ⟨hst, hcl⟩ := h.start hn
    rw [checkStartFlag, check_pos hst, ok_bind, check_pos hcl]
  have hstop : ∀ x, attachFlag .stop (fun _ => return ()) x = .ok (attached .stop x) :=
    fun x => attachFlag_of fun _ => rfl
  have hauto : attachFlag .autoStopped
      (fun c => check (c.isClientSide = false) .flagsAutoStoppedClient)
      (attached .stop (attached .start (c, t, false))) =
      .ok (attached .autoStopped (attached .stop (attached .start (c, t, false)))) :=
    attachFlag_of fun hn => check_pos (h.autoStopped hn)
  have hdone : attachFlag .done (fun c => check (c.isClientSide = false) .flagsDoneClient)
      (attached .autoStopped (attached .stop (attached .start (c, t, false)))) =
      .ok (attached .done (attached .autoStopped (attached .stop (attached .start (c, t, false))))) :=
    attachFlag_of fun hn => check_pos (h.done hn)
  rw [maybeSetCellFlags, hstart, ok_bind, hstop, ok_bind, hauto, ok_bind, hdone, ok_bind,
    attached_all]
  have hstate : c.clearFlags.defenseInfo.state = c.defenseInfo.state := rfl
  by_cases hdef : c.defenseInfo.state = .active ∨ c.defenseInfo.state = .pendingNextSocketSend
  · rw [if_pos (by rw [hstate]; exact hdef), flaggedByte, defensiveFlag, if_pos hdef,
      List.foldl_append]
    rfl
  · rw [if_neg (by rw [hstate]; exact hdef), flaggedByte, defensiveFlag, if_neg hdef,
      List.append_nil]
    rfl

/-- The conditions of `MayAddData` are enough. -/
theorem maybeAddONEDataCellToOutbuf_of_mayAddData (h : c.MayAddData) :
    c.maybeAddONEDataCellToOutbuf = .ok (c.addedData, true) := by
  have hpos := h.payload
  have hdrop : c.maybeDropWholeDummyCellAtEndOutbuf true = .ok (c, false) := by
    rw [maybeDropWholeDummyCellAtEndOutbuf, h.noDummy]
    rfl
  rw [maybeAddONEDataCellToOutbuf, if_neg (by omega), hdrop]
  simp only [ok_bind]
  rw [check_pos h.noDummy, ok_bind, maybeSetCellFlags_of_mayFlag h.flags]
  simp only [ok_bind]
  have hfirst : c.defenseInfo.state = .pendingNextSocketSend →
      (c.defenseInfo.numDataCellsAdded
        + if c.defenseInfo.state = .pendingNextSocketSend then 1 else 0) = 1 := by
    intro hst
    rw [if_pos hst, h.first hst]
  exact (congrArg (· >>= _) (check_pos hfirst)).trans rfl

/-- spdylay has called the send callback with each element of `sends`. -/
def emitted (c : Chan) (sends : List (List UInt8)) : Chan :=
  { c with
    spdyOutbuf := c.spdyOutbuf ++ sends.flatten
    journal := c.journal ++ sends.map .spdySent }

theorem foldl_onSpdylaySendCb_eq (sends : List (List UInt8)) :
    ∀ c : Chan, sends.foldl onSpdylaySendCb c = c.emitted sends := by
  induction sends with
  | nil =>
    intro c
    simp only [List.foldl_nil, emitted, List.flatten_nil, List.map_nil, List.append_nil]
  | cons bs sends ih =>
    intro c
    rw [List.foldl_cons, ih, emitted, emitted, onSpdylaySendCb]
    simp only [List.flatten_cons, List.map_cons, List.append_assoc, List.singleton_append]

theorem given_emitted (c : Chan) (sends : List (List UInt8)) :
    given (c.emitted sends).journal = given c.journal ++ sends.flatten := by
  have hmap : given (sends.map .spdySent) = sends.flatten := by
    rw [given, List.flatMap_map]
    exact List.flatMap_id
  rw [emitted, given_append, hmap]

/-- **The pump while a session is armed**: it goes well if and only if a data cell, the first, can
be added. -/
theorem pumpSpdySend_pending (hsize : c.cellSize ≠ 0)
    (hst : c.defenseInfo.state = .pendingNextSocketSend)
    (hdummy : c.wholeDummyCellAtEndOutbuf = false) :
    c.pumpSpdySend sends = .ok c' ↔
      (c.emitted sends).MayAddData ∧ c' = ((c.emitted sends).addedData).setWriteEv true := by
  have hsize' : (c.emitted sends).cellSize ≠ 0 := hsize
  have hst' : (c.emitted sends).defenseInfo.state = .pendingNextSocketSend := hst
  have hdummy' : (c.emitted sends).wholeDummyCellAtEndOutbuf = false := hdummy
  -- in a pending session the pump adds the one cell that waits
  have heq : c.pumpSpdySend sends = (do
      let x ← (c.emitted sends).maybeAddONEDataCellToOutbuf
      check (x.2 = true) .pumpNotOneCell
      x.1.maybeToggleWriteMonitoring .forceEnable) := by
    rw [pumpSpdySend, foldl_onSpdylaySendCb_eq]
    dsimp only
    rw [if_neg hsize', hst']
  rw [heq]
  generalize c.emitted sends = d at hst' hdummy'
  constructor
  · intro h
    obtain ⟨x, hx, h⟩ := bind_eq_ok.mp h
    obtain ⟨_, hadded, h⟩ := bind_eq_ok.mp h
    have hadded' := check_eq_ok.mp hadded
    obtain ⟨-, rfl⟩ := maybeToggleWriteMonitoring_eq_ok h
    rcases maybeAddONEDataCellToOutbuf_eq_ok hx with ⟨-, rfl⟩ | ⟨d₁, hd₁, hmay, rfl⟩
    · exact absurd hadded' Bool.false_ne_true
    · rcases hd₁ with rfl | ⟨hhas, -⟩
      · exact ⟨hmay, rfl⟩
      · exact absurd (hdummy'.symm.trans hhas.marked) Bool.false_ne_true
  · rintro ⟨hmay, rfl⟩
    rw [maybeAddONEDataCellToOutbuf_of_mayAddData hmay, ok_bind, check_pos rfl, ok_bind]
    have hne : d.addedData.defenseInfo.state ≠ .active := by
      show d.defenseInfo.state ≠ .active
      rw [hst']
      exact fun h => nomatch h
    rw [maybeToggleWriteMonitoring, check_pos (.inl hne)]
    rfl

/-! ### Before and after the first bytes -/

theorem DefenseInv.mayFlag (h : DefenseInv c) : c.MayFlag :=
  ⟨fun hn => (h.needStart hn).symm, fun hn => (h.needAutoStopped hn).1, fun hn => (h.needDone hn).1⟩

/-- In an armed channel nothing is queued and no cell of the session has been added. -/
structure JustArmed (c : Chan) : Prop where
  state : c.defenseInfo.state = .pendingNextSocketSend
  spdyOutbuf : c.spdyOutbuf = []
  cellOutbuf : c.cellOutbuf = []

/-- The first cell of the session is queued. -/
structure OneQueued (c : Chan) : Prop where
  state : c.defenseInfo.state = .pendingNextSocketSend
  added : c.defenseInfo.numDataCellsAdded = 1

theorem armed_justArmed (h : c.MayArm) : JustArmed c.armed := ⟨rfl, h.spdyOutbuf, h.cellOutbuf⟩

/-- In a channel that has just been armed a data cell can be added as soon as there are bytes. -/
theorem JustArmed.mayAddData_iff (h : Reachable c) (ha : JustArmed c) :
    (c.emitted sends).MayAddData ↔ sends.flatten ≠ [] := by
  have hinv := h.defenseInv
  have hsize := h.outBufferInv.size
  have hbytes : (c.emitted sends).spdyOutbuf = sends.flatten := by
    show c.spdyOutbuf ++ sends.flatten = sends.flatten
    rw [ha.spdyOutbuf, List.nil_append]
  have hlen : (c.emitted sends).payloadLen = min c.cellBodySize sends.flatten.length := by
    rw [payloadLen, hbytes]
    rfl
  have hbody : 0 < c.cellBodySize := by
    rw [cellBodySize]
    omega
  constructor
  · intro hmay hnil
    have hpos := hmay.payload
    rw [hlen, hnil, List.length_nil] at hpos
    omega
  · intro hne
    have hpos := List.length_pos_iff.mpr hne
    have hflag := hinv.mayFlag
    refine ⟨(hinv.pending ha.state).2.1, ?_, ⟨hflag.start, hflag.autoStopped, hflag.done⟩,
      fun _ => ?_⟩
    · rw [hlen]
      omega
    · rcases (hinv.pending ha.state).2.2 with ⟨hzero, -, -⟩ | ⟨-, -, ks, k, -, hk, -⟩
      · exact hzero
      · exact absurd (hk.symm.trans ha.cellOutbuf) (encode_ne_nil k _)

/-- **Once a cell is queued, no pump goes well.** -/
theorem OneQueued.pump_fails (hc : CellMode c) (hinv : DefenseInv c) (hq : OneQueued c) :
    c.pumpSpdySend sends ≠ .ok c' := by
  intro h
  obtain ⟨hmay, -⟩ :=
    (pumpSpdySend_pending hc.cellSize hq.state (hinv.pending hq.state).2.1).mp h
  have hzero : c.defenseInfo.numDataCellsAdded = 0 := hmay.first hq.state
  have hone := hq.added
  omega

/-! ### The writable event -/

/-- How many bytes the socket is ready to take. -/
def takes : SockRes → ℕ
  | .accepts n => n
  | .fails _ => 0

/-- The bytes of one write end inside the front cell, or with it. -/
theorem updateOutputCellProgress_of {n : ℕ} (hfront : c.frontCellSentProgress = 0)
    (hrec : c.outputCellsDataBytesInfo ≠ []) (hn : 0 < n) (hle : n ≤ c.cellSize) :
    c.updateOutputCellProgress n = .ok (c.accounted n) := by
  obtain ⟨c', hc'⟩ : ∃ c', c.updateOutputCellProgress n = .ok c' := by
    obtain ⟨m, rfl⟩ : ∃ m, n = m + 1 := ⟨n - 1, by omega⟩
    have hmin : min (c.frontCellSentProgress + (m + 1)) c.cellSize = m + 1 := by omega
    have hlt : c.frontCellSentProgress < m + 1 := by omega
    rw [updateOutputCellProgress, progressLoop, if_neg (by omega), progressStep]
    dsimp only
    rw [hmin, check_pos hlt, ok_bind]
    by_cases hall : m + 1 = c.cellSize
    · rw [if_pos hall]
      cases hinfo : c.outputCellsDataBytesInfo with
      | nil => exact absurd hinfo hrec
      | cons x rest =>
        simp only [pure_eq_ok, ok_bind]
        rw [show m + 1 - (m + 1 - c.frontCellSentProgress) = 0 by omega, progressLoop_zero]
        exact ⟨_, rfl⟩
    · rw [if_neg hall, check_pos (by omega), ok_bind]
      simp only [pure_eq_ok, ok_bind]
      rw [show m + 1 - (m + 1 - c.frontCellSentProgress) = 0 by omega, progressLoop_zero]
      exact ⟨_, rfl⟩
  rw [hc', (updateOutputCellProgress_eq_ok hn hc').2]

/-- A failed write is looked into, and never trips a check here. -/
theorem handleFailedSocketIo_ok (c : Chan) (rv : ℤ) (errno : Errno) :
    ∃ c', c.handleFailedSocketIo rv errno false = .ok c' ∧
      (c' = c ∨ c' = c.onSocketClosed) := by
  unfold handleFailedSocketIo
  by_cases hrv : rv = 0
  · exact ⟨_, if_pos hrv, .inr rfl⟩
  · rw [if_neg hrv]
    cases errno with
    | eagain => exact ⟨c, rfl, .inl rfl⟩
    | einprogress => exact ⟨c, rfl, .inl rfl⟩
    | other => exact ⟨_, rfl, .inr rfl⟩

theorem Reachable.cellMode (h : Reachable c) : CellMode c :=
  h.micros.choose_spec.2.2.1

theorem Reachable.defends (h : Reachable c) : 0 < c.tamarawL ∧ 0 < c.tamarawPktIntvlMs := by
  obtain ⟨c₀, hest, hm, -⟩ := h.micros
  have hconf := hm.config_eq
  simp only [config, Prod.mk.injEq] at hconf
  obtain ⟨⟨-, -, hintvl, hL, -⟩, -⟩ := hconf
  exact ⟨hL ▸ hest.config.2.1, hintvl ▸ hest.config.2.2⟩

/-- A session can begin where none is running. -/
theorem startDefenseSession_of (h : Reachable c) (hst : c.defenseInfo.state = .pendingNextSocketSend)
    (now : ℕ) :
    ({ c with defenseInfo := { c.defenseInfo with state := .none } } : Chan).startDefenseSession now =
      .ok (c.begun now) := by
  obtain ⟨hL, hintvl⟩ := h.defends
  have htimer : c.timerRunning = false := by
    refine Bool.eq_false_iff.mpr fun hrun => ?_
    exact absurd (hst.symm.trans (h.defenseInv.timer.mp hrun)) (by decide)
  rw [startDefenseSession, check_pos rfl, ok_bind, check_pos hintvl, ok_bind, check_pos hL, ok_bind,
    check_pos htimer]
  rfl

/-- An attempt to write all that is queued. -/
theorem evbufferWriteAtmost_all (c : Chan) {howmuch : ℕ} (sock : SockRes)
    (hlen : c.cellOutbuf.length = howmuch) :
    ∃ c₁ rv, c.evbufferWriteAtmost howmuch sock = (c₁, rv) ∧ rv ≤ howmuch ∧
      written c₁.journal = written c.journal ++ c.cellOutbuf.take (takes sock) ∧
      c₁ = { c with cellOutbuf := c₁.cellOutbuf, journal := c₁.journal } := by
  cases sock with
  | fails e =>
    refine ⟨_, -1, rfl, by omega, ?_, rfl⟩
    rw [log, written_append]
    rfl
  | accepts n =>
    refine ⟨_, _, rfl, ?_, ?_, rfl⟩
    · rw [hlen, min_self]
      exact_mod_cast min_le_right n howmuch
    · have htake : c.cellOutbuf.take (min n (min howmuch c.cellOutbuf.length)) =
          c.cellOutbuf.take n := by
        rw [hlen, min_self, ← hlen, ← List.take_eq_take_min]
      show written (c.journal ++ [.wrote howmuch _
        (c.cellOutbuf.take (min n (min howmuch c.cellOutbuf.length)))]) = _
      rw [htake, written_append]
      exact congrArg (_ ++ ·) (List.append_nil _)

/-- What the bookkeeping after an attempt leaves alone. -/
theorem accountWrite_ok {rv : ℤ} (hfront : c.frontCellSentProgress = 0)
    (hrec : c.outputCellsDataBytesInfo ≠ []) (hrv : rv ≤ c.cellSize) (sock : SockRes) :
    ∃ c', c.accountWrite rv sock = .ok c' ∧ c'.defenseInfo.state = c.defenseInfo.state ∧
      c'.timerRunning = c.timerRunning ∧ c'.spdyOutbuf = c.spdyOutbuf ∧
      written c'.journal = written c.journal := by
  rw [accountWrite]
  by_cases hpos : 0 < rv
  · have hle : rv.toNat ≤ c.cellSize := by omega
    rw [if_pos hpos]
    exact ⟨_, updateOutputCellProgress_of hfront hrec (by omega) hle, rfl, rfl, rfl, rfl⟩
  · rw [if_neg hpos]
    obtain ⟨c', hc', rfl | rfl⟩ := handleFailedSocketIo_ok c rv sock.errno
    · exact ⟨c', hc', rfl, rfl, rfl, rfl⟩
    · refine ⟨_, hc', rfl, rfl, rfl, ?_⟩
      rw [onSocketClosed, chStatusCb, log, written_append]
      exact List.append_nil _

/-- The write of a queue that is one cell, none of which has been sent. -/
theorem sendWhileActive_one (hlen : c.cellOutbuf.length = c.cellSize)
    (hfront : c.frontCellSentProgress = 0) (hrec : c.outputCellsDataBytesInfo ≠ []) (sock : SockRes) :
    ∃ c', c.sendWhileActive sock = .ok c' ∧ c'.defenseInfo.state = c.defenseInfo.state ∧
      c'.timerRunning = c.timerRunning ∧ c'.spdyOutbuf = c.spdyOutbuf ∧
      written c'.journal = written c.journal ++ c.cellOutbuf.take (takes sock) := by
  obtain ⟨c₁, rv, hatt, hrv, hwritten, heq⟩ := evbufferWriteAtmost_all c sock hlen
  rw [sendWhileActive, check_pos (Nat.le_of_eq hlen.symm), ok_bind, hatt]
  dsimp only
  rw [heq]
  obtain ⟨c', hc', hstate, htimer, hspdy, hw⟩ := accountWrite_ok (c := { c with
      cellOutbuf := c₁.cellOutbuf
      journal := c₁.journal
      defenseInfo := { c.defenseInfo with numWriteAttempts := c.defenseInfo.numWriteAttempts + 1 }
      wholeDummyCellAtEndOutbuf :=
        if c₁.cellOutbuf.length < c.cellSize then false else c.wholeDummyCellAtEndOutbuf })
    hfront hrec hrv sock
  exact ⟨c', hc', hstate, htimer, hspdy, hw.trans hwritten⟩

/-- **The writable event after the first bytes**: the session begins, and the socket takes what
it can of its first cell. -/
theorem onSocketWritecb_queued (h : Reachable c) (hst : c.defenseInfo.state = .pendingNextSocketSend)
    (hlen : c.cellOutbuf.length = c.cellSize) (now : ℕ) (sock : SockRes) :
    ∃ c', c.onSocketWritecb now sock = .ok c' ∧ c'.defenseInfo.state = .active ∧
      c'.timerRunning = true ∧ c'.spdyOutbuf = c.spdyOutbuf ∧
      written c'.journal = written c.journal ++ c.cellOutbuf.take (takes sock) := by
  have hcell := h.cellMode
  have hout := h.outBufferInv
  have hpos := hout.cellSize_pos
  have heq : c.onSocketWritecb now sock = (c.begun now).sendWhileActive sock := by
    have hne : c.defenseInfo.state ≠ .active := by
      rw [hst]
      exact fun h => nomatch h
    have hsend : (c.begun now).sendCellOutbuf sock = (c.begun now).sendWhileActive sock := by
      have hact : (c.begun now).defenseInfo.state = .active := rfl
      rw [sendCellOutbuf, check_pos (show 0 < (c.begun now).cellSize from hpos), ok_bind, if_pos hact]
    have hsome : ¬ c.myPeerInfoOutbuf.isSome = true := by
      rw [hcell.peerInfoWritten]
      exact Bool.false_ne_true
    rw [onSocketWritecb, check_pos hne, ok_bind, if_neg hsome, if_pos hcell.cellSize, if_pos hst,
      check_pos hlen, ok_bind]
    dsimp only
    rw [startDefenseSession_of h hst now, ok_bind, hsend]
  -- the buffer holds one cell, whose first byte is the next to be written
  have hbytes := hout.length_bytes
  have hwritten : (written c.journal).length = c.cellSize * ((keptCells c.journal).length - 1) := by
    rw [Nat.mul_sub, Nat.mul_one]
    omega
  have hfront := hout.front_of_whole (dvd_of_eq hlen.symm)
  have hrec : c.outputCellsDataBytesInfo ≠ [] := by
    rw [hout.records, hwritten, Nat.mul_div_cancel_left _ hpos, ← List.length_pos_iff,
      List.length_drop, List.length_map]
    have hkept : (keptCells c.journal).length ≠ 0 := by
      intro hzero
      rw [hzero, Nat.mul_zero] at hbytes
      omega
    omega
  obtain ⟨c', hc', hstate, htimer, hspdy, hw⟩ :=
    sendWhileActive_one (c := c.begun now) hlen hfront hrec sock
  refine ⟨c', heq.trans hc', hstate, htimer, hspdy, hw.trans ?_⟩
  show written (c.journal ++ [.defenseBegun]) ++ _ = _
  rw [written_append]
  exact congrArg (· ++ _) (List.append_nil _)

end Chan

/-! ### The calls of the owner -/

/-- A call that the owner of a channel makes for one of its streams. -/
inductive OwnerCall
  | createStream2
  | writeBuffer (sid : ℕ)
  | setWriteEof (sid : ℕ)
  | closeStream (sid : ℕ)
  deriving DecidableEq, Repr

/-- What spdylay tells the channel of its streams in a pump: it is about to send a SYN_STREAM, which
gives the stream its id, or it is done with a stream. -/
inductive StreamNews
  | synStream (sid : ℕ)
  | closed (sid : ℕ)
  deriving DecidableEq, Repr

/-- What spdylay does in a pump: the bytes it emits, and the callbacks about its streams. -/
structure SpdySent where
  sends : List (List UInt8)
  news : List StreamNews := []
  deriving DecidableEq, Repr

/-- A check of the channel, of the callback for a SYN_STREAM, or that of `set_write_eof`. -/
inductive CallCheck
  | chan (k : Check)
  | synStreamServer
  | streamNotNew
  | eofTwice
  deriving DecidableEq, Repr

/-- A channel and its `stream_states_`: the streams, each with its `inward_has_seen_eof_`. -/
structure Muxing where
  chan : Chan
  streamStates : List (ℕ × Bool) := []
  deriving DecidableEq, Repr

namespace Muxing

variable {m m' : Muxing} {calls : List (OwnerCall × SpdySent)}

/-- The keys of `stream_states_`. -/
def known (m : Muxing) : List ℕ := m.streamStates.map Prod.fst

/-- `_on_spdylay_before_ctrl_send_cb` with `_init_stream_state`, and
`_on_spdylay_on_stream_close_cb` -/
def onSpdylayNews (m : Muxing) : StreamNews → Except CallCheck Muxing
  | .synStream sid => do
    check (m.chan.isClientSide = true) .synStreamServer
    check (sid ∉ m.known) .streamNotNew
    return { m with streamStates := m.streamStates ++ [(sid, false)] }
  | .closed sid => return { m with streamStates := m.streamStates.filter (·.1 ≠ sid) }

/-- `_pump_spdy_send`, with the callbacks about streams -/
def pumpSpdySend (m : Muxing) (p : SpdySent) : Except CallCheck Muxing := do
  let m ← p.news.foldlM onSpdylayNews m
  let chan ← (m.chan.pumpSpdySend p.sends).mapError .chan
  return { m with chan }

/-- `inward_has_seen_eof_ = true` -/
def seeEof (m : Muxing) (sid : ℕ) : Muxing :=
  { m with streamStates := m.streamStates.map fun x => (x.1, x.2 || x.1 == sid) }

/-- `create_stream2`, `write_buffer`, `set_write_eof` and `close_stream`.  The two in the middle
return at once if they do not know the stream (`MAYBE_GET_STREAMSTATE`). -/
def call (m : Muxing) : OwnerCall × SpdySent → Except CallCheck Muxing
  | (.createStream2, p) => m.pumpSpdySend p
  | (.writeBuffer sid, p) => if sid ∈ m.known then m.pumpSpdySend p else return m
  | (.setWriteEof sid, p) =>
    if sid ∈ m.known then do
      check ((sid, true) ∉ m.streamStates) .eofTwice
      (m.seeEof sid).pumpSpdySend p
    else
      return m
  | (.closeStream _, p) => m.pumpSpdySend p

/-- The call gets as far as the pump. -/
def Pumps (known : List ℕ) : OwnerCall → Prop
  | .writeBuffer sid | .setWriteEof sid => sid ∈ known
  | _ => True

instance (known : List ℕ) (c : OwnerCall) : Decidable (Pumps known c) := by
  cases c <;> unfold Pumps <;> infer_instance

/-- None of the calls does. -/
def NonePumps (known : List ℕ) (calls : List (OwnerCall × SpdySent)) : Prop :=
  ∀ x ∈ calls, ¬ Pumps known x.1

instance (known : List ℕ) (calls : List (OwnerCall × SpdySent)) : Decidable (NonePumps known calls) :=
  inferInstanceAs (Decidable (∀ x ∈ calls, ¬ Pumps known x.1))

/-- The end of the stream has not been told before. -/
def FirstEof (m : Muxing) (c : OwnerCall) : Prop :=
  ∀ sid ∈ m.known, c = .setWriteEof sid → (sid, true) ∉ m.streamStates

/-- The streams that are known after a callback. -/
def knownAfter (known : List ℕ) : StreamNews → List ℕ
  | .synStream sid => known ++ [sid]
  | .closed sid => known.filter (· ≠ sid)

/-- spdylay gives no new stream the id of one that is known. -/
def NewIds (known : List ℕ) : List StreamNews → Prop
  | [] => True
  | n :: news => (∀ sid ∈ known, n ≠ .synStream sid) ∧ NewIds (knownAfter known n) news

/-- At most one of the calls gets as far as the pump; there spdylay emits bytes and gives new streams
new ids, and the call does not tell the end of a stream for the second time.  A stream is known from
the pump on in which its SYN_STREAM is sent. -/
def OnePump (m : Muxing) : List (OwnerCall × SpdySent) → Prop
  | [] => True
  | (c, p) :: calls =>
    if Pumps m.known c then
      m.FirstEof c ∧ NewIds m.known p.news ∧ p.sends.flatten ≠ [] ∧
        NonePumps (p.news.foldl knownAfter m.known) calls
    else
      OnePump m calls

/-- Of the bytes that spdylay has emitted exactly one cell has been made, a data cell with START;
the others wait for the timer.  The writable event starts the session and writes that cell, as far
as the socket takes it. -/
def HoldsOne (c : Chan) (out : List UInt8) : Prop :=
  ∃ k : Cell, c.cellOutbuf = k.encode c.cellSize ∧ getCellType k.typeNFlags = CellType.data ∧
    k.has .start = true ∧ k.payload ++ c.spdyOutbuf = out ∧
    c.defenseInfo.state = .pendingNextSocketSend ∧ c.writeEvEnabled = true ∧
    ∀ now sock, ∃ c', c.onSocketWritecb now sock = .ok c' ∧ c'.defenseInfo.state = .active ∧
      c'.timerRunning = true ∧ c'.spdyOutbuf = c.spdyOutbuf ∧
      written c'.journal = written c.journal ++ (k.encode c.cellSize).take (Chan.takes sock)

theorem known_seeEof (m : Muxing) (sid : ℕ) : (m.seeEof sid).known = m.known := by
  rw [known, seeEof, List.map_map]
  rfl

/-- What the call has recorded when it gets to the pump. -/
def recorded (m : Muxing) : OwnerCall → Muxing
  | .setWriteEof sid => m.seeEof sid
  | _ => m

theorem known_recorded (m : Muxing) (c : OwnerCall) : (m.recorded c).known = m.known := by
  cases c with
  | setWriteEof sid => exact known_seeEof m sid
  | _ => rfl

theorem chan_recorded (m : Muxing) (c : OwnerCall) : (m.recorded c).chan = m.chan := by
  cases c <;> rfl

/-- A call that does not get to the pump changes nothing. -/
theorem call_of_not_pumps {c : OwnerCall} (h : ¬ Pumps m.known c) (p : SpdySent) :
    m.call (c, p) = .ok m := by
  cases c with
  | writeBuffer sid => exact if_neg h
  | setWriteEof sid => exact if_neg h
  | createStream2 => exact absurd trivial h
  | closeStream => exact absurd trivial h

/-- A call that gets to the pump. -/
theorem call_of_pumps {c : OwnerCall} (h : Pumps m.known c) (p : SpdySent) :
    m.call (c, p) = .ok m' ↔ m.FirstEof c ∧ (m.recorded c).pumpSpdySend p = .ok m' := by
  have hother : (∀ sid, c ≠ .setWriteEof sid) → m.FirstEof c := fun hne sid _ heq => absurd heq (hne sid)
  cases c with
  | createStream2 => exact ⟨fun hcall => ⟨hother (by simp), hcall⟩, fun hcall => hcall.2⟩
  | closeStream => exact ⟨fun hcall => ⟨hother (by simp), hcall⟩, fun hcall => hcall.2⟩
  | writeBuffer sid =>
    have hmem : sid ∈ m.known := h
    rw [call, if_pos hmem]
    exact ⟨fun hcall => ⟨hother (by simp), hcall⟩, fun hcall => hcall.2⟩
  | setWriteEof sid =>
    have hmem : sid ∈ m.known := h
    rw [call, if_pos hmem]
    constructor
    · intro hcall
      obtain ⟨_, hnot, hpump⟩ := bind_eq_ok.mp hcall
      refine ⟨fun sid' _ heq => ?_, hpump⟩
      cases heq
      exact check_eq_ok.mp hnot
    · rintro ⟨hfirst, hpump⟩
      rw [check_pos (hfirst sid hmem rfl), ok_bind]
      exact hpump

/-- A callback about a stream leaves the channel, and changes what is known. -/
theorem onSpdylayNews_eq_ok {n : StreamNews} (h : m.onSpdylayNews n = .ok m') :
    (∀ sid ∈ m.known, n ≠ .synStream sid) ∧ m'.chan = m.chan ∧ m'.known = knownAfter m.known n := by
  cases n with
  | synStream sid =>
    obtain ⟨_, -, h⟩ := bind_eq_ok.mp h
    obtain ⟨_, hnew, h⟩ := bind_eq_ok.mp h
    cases h
    refine ⟨fun sid' hmem heq => ?_, rfl, List.map_append ..⟩
    cases heq
    exact check_eq_ok.mp hnew hmem
  | closed sid =>
    cases h
    refine ⟨fun sid' _ heq => ?_, rfl, ?_⟩
    · cases heq
    · rw [known, known, knownAfter, List.filter_map]
      rfl

/-- On the client's side a callback goes well, unless a new stream has the id of a known one. -/
theorem onSpdylayNews_of {n : StreamNews} (hc : m.chan.isClientSide = true)
    (hnew : ∀ sid ∈ m.known, n ≠ .synStream sid) : ∃ m', m.onSpdylayNews n = .ok m' := by
  cases n with
  | synStream sid =>
    have hnot : sid ∉ m.known := fun hmem => hnew sid hmem rfl
    rw [onSpdylayNews, check_pos hc, ok_bind, check_pos hnot]
    exact ⟨_, rfl⟩
  | closed sid => exact ⟨_, rfl⟩

/-- **The callbacks of a pump.** -/
theorem foldlM_onSpdylayNews (hc : m.chan.isClientSide = true) (news : List StreamNews) :
    (NewIds m.known news ↔ ∃ m', news.foldlM onSpdylayNews m = .ok m') ∧
      ∀ m', news.foldlM onSpdylayNews m = .ok m' →
        m'.chan = m.chan ∧ m'.known = news.foldl knownAfter m.known := by
  induction news generalizing m with
  | nil =>
    refine ⟨⟨fun _ => ⟨m, rfl⟩, fun _ => trivial⟩, fun m' h => ?_⟩
    cases h
    exact ⟨rfl, rfl⟩
  | cons n news ih =>
    rw [List.foldlM_cons, NewIds]
    constructor
    · constructor
      · rintro ⟨hnew, hrest⟩
        obtain ⟨m₁, hm₁⟩ := onSpdylayNews_of hc hnew
        obtain ⟨-, hchan, hknown⟩ := onSpdylayNews_eq_ok hm₁
        rw [← hknown] at hrest
        obtain ⟨m', hm'⟩ := (ih (m := m₁) (by rw [hchan]; exact hc)).1.mp hrest
        exact ⟨m', by rw [hm₁]; exact hm'⟩
      · rintro ⟨m', h⟩
        obtain ⟨m₁, hm₁, h⟩ := bind_eq_ok.mp h
        obtain ⟨hnew, hchan, hknown⟩ := onSpdylayNews_eq_ok hm₁
        refine ⟨hnew, ?_⟩
        rw [← hknown]
        exact (ih (m := m₁) (by rw [hchan]; exact hc)).1.mpr ⟨m', h⟩
    · intro m' h
      obtain ⟨m₁, hm₁, h⟩ := bind_eq_ok.mp h
      obtain ⟨-, hchan, hknown⟩ := onSpdylayNews_eq_ok hm₁
      obtain ⟨hchan', hknown'⟩ := (ih (m := m₁) (by rw [hchan]; exact hc)).2 m' h
      exact ⟨hchan'.trans hchan, by rw [hknown', hknown]; rfl⟩

/-- The pump, in terms of the channel's. -/
theorem pumpSpdySend_eq_ok {p : SpdySent} : m.pumpSpdySend p = .ok m' ↔
    ∃ m₁ c, p.news.foldlM onSpdylayNews m = .ok m₁ ∧ m₁.chan.pumpSpdySend p.sends = .ok c ∧
      m' = { m₁ with chan := c } := by
  constructor
  · intro h
    obtain ⟨m₁, hm₁, h⟩ := bind_eq_ok.mp h
    obtain ⟨c, hc, h⟩ := bind_eq_ok.mp h
    cases h
    exact ⟨m₁, c, hm₁, eq_ok_of_mapError hc, rfl⟩
  · rintro ⟨m₁, c, hm₁, hc, rfl⟩
    rw [pumpSpdySend, hm₁, ok_bind, hc]
    rfl

/-- Once a cell is queued, only sequences of calls that do not get to the pump go well. -/
theorem exec_of_queued (hr : m.chan.Reachable) (hc : m.chan.isClientSide = true)
    (hq : m.chan.OneQueued) :
    exec call m calls = .ok m' ↔ NonePumps m.known calls ∧ m' = m := by
  induction calls with
  | nil =>
    constructor
    · intro h
      exact ⟨fun x hx => absurd hx List.not_mem_nil, (Except.ok.inj h).symm⟩
    · rintro ⟨-, rfl⟩
      rfl
  | cons x calls ih =>
    obtain ⟨c, p⟩ := x
    by_cases hp : Pumps m.known c
    · constructor
      · intro h
        obtain ⟨m₁, hcall, -⟩ := bind_eq_ok.mp h
        obtain ⟨m₂, d, hnews, hpump, -⟩ := pumpSpdySend_eq_ok.mp ((call_of_pumps hp p).mp hcall).2
        have hc' : (m.recorded c).chan.isClientSide = true := by
          rw [chan_recorded]
          exact hc
        rw [((foldlM_onSpdylayNews hc' p.news).2 _ hnews).1, chan_recorded] at hpump
        exact absurd hpump (hq.pump_fails hr.cellMode hr.defenseInv)
      · rintro ⟨hnone, -⟩
        exact absurd hp (hnone (c, p) List.mem_cons_self)
    · have hcons : exec call m ((c, p) :: calls) = exec call m calls := by
        rw [exec, call_of_not_pumps hp, ok_bind]
      rw [hcons, ih]
      refine and_congr_left fun _ => ⟨fun h => ?_, fun h x hx => h x (List.mem_cons_of_mem _ hx)⟩
      intro x hx
      rcases List.mem_cons.mp hx with rfl | hx
      · exact hp
      · exact h x hx

/-- The first call that gets to the pump. -/
theorem pump_of_justArmed (hr : m.chan.Reachable) (hopen : m.chan.closed = false)
    (ha : m.chan.JustArmed) {p : SpdySent} (hne : p.sends.flatten ≠ []) :
    ∃ d, m.chan.pumpSpdySend p.sends = .ok d ∧ d.Reachable ∧ d.OneQueued ∧
      d.isClientSide = m.chan.isClientSide ∧ given d.journal = given m.chan.journal ++ p.sends.flatten ∧
      HoldsOne d p.sends.flatten := by
  have hinv := hr.defenseInv
  have hmay : (m.chan.emitted p.sends).MayAddData := (ha.mayAddData_iff hr).mpr hne
  have hpump : m.chan.pumpSpdySend p.sends =
      .ok (((m.chan.emitted p.sends).addedData).setWriteEv true) :=
    (Chan.pumpSpdySend_pending hr.cellMode.cellSize ha.state (hinv.pending ha.state).2.1).mpr
      ⟨hmay, rfl⟩
  have hstep : Chan.Step m.chan (.pumpSpdySend p.sends)
      (((m.chan.emitted p.sends).addedData).setWriteEv true) := by
    rw [Chan.Step, Chan.step, if_pos ⟨hopen, trivial⟩]
    exact hpump
  have hreach := hr.snoc hstep
  have hcell : (((m.chan.emitted p.sends).addedData).setWriteEv true).cellOutbuf =
      (m.chan.emitted p.sends).dataCell.encode
        (((m.chan.emitted p.sends).addedData).setWriteEv true).cellSize := by
    show m.chan.cellOutbuf ++ _ = _
    rw [ha.cellOutbuf, List.nil_append]
    rfl
  have hfits : (m.chan.emitted p.sends).dataCell.Fits m.chan.cellSize :=
    Chan.dataCell_fits hr.outBufferInv.size
  -- START has not been sent, as nothing has
  have hstart : m.chan.defenseInfo.needStartFlagInNextCell = true := by
    rcases (hinv.pending ha.state).2.2 with ⟨-, hneed, -⟩ | ⟨-, -, ks, k, -, hk, -⟩
    · exact hneed
    · exact absurd (hk.symm.trans ha.cellOutbuf) (Chan.encode_ne_nil k _)
  refine ⟨_, hpump, hreach, ⟨ha.state, ?_⟩, rfl, ?_, (m.chan.emitted p.sends).dataCell, hcell, ?_, ?_, ?_,
    ha.state, rfl, ?_⟩
  · show m.chan.defenseInfo.numDataCellsAdded +
      (if m.chan.defenseInfo.state = .pendingNextSocketSend then 1 else 0) = 1
    rw [if_pos ha.state, show m.chan.defenseInfo.numDataCellsAdded = 0 from hmay.first ha.state]
  · show given ((m.chan.emitted p.sends).journal ++ [.cellAdded _]) = _
    rw [given_append, Chan.given_emitted]
    exact List.append_nil _
  · rw [Chan.dataCell, Chan.flaggedByte, getCellType_foldl_setCellFlag, (getCellType_setCellType 0).1]
  · rw [Chan.dataCell_has .start (by decide)]
    exact hstart
  · show (m.chan.emitted p.sends).spdyOutbuf.take _ ++ (m.chan.emitted p.sends).spdyOutbuf.drop _ = _
    rw [List.take_append_drop, Chan.emitted, ha.spdyOutbuf, List.nil_append]
  · intro now sock
    rw [← hcell]
    refine Chan.onSocketWritecb_queued hreach ha.state ?_ now sock
    rw [hcell]
    exact length_encode hfits

/-- **When an armed channel holds exactly one cell.**  A reachable channel has been armed, and its
owner makes some calls before the socket becomes writable.  No check fails in them, and what spdylay
emits in them is held as one cell with START and the bytes behind it, if and only if at most one of
the calls gets as far as the pump, spdylay emits bytes and gives new ids there, and no end of a
stream is told twice. -/
theorem pending_holds_one {c₀ : Chan} (hr : c₀.Reachable)
    (harm : Chan.Step c₀ .setAutoStartDefenseSessionOnNextSend m.chan) :
    (∃ m', exec call m calls = .ok m' ∧
      ∃ out, given m'.chan.journal = given m.chan.journal ++ out ∧
        (out ≠ [] → HoldsOne m'.chan out)) ↔
      OnePump m calls := by
  obtain ⟨hmay, hbarmed, hopen⟩ : c₀.MayArm ∧ m.chan = c₀.armed ∧ c₀.closed = false := by
    have hstep := harm
    rw [Chan.Step, Chan.step] at hstep
    by_cases hen : c₀.Enabled .setAutoStartDefenseSessionOnNextSend
    · rw [if_pos hen] at hstep
      obtain ⟨hmay, heq⟩ := Chan.setAutoStartDefenseSessionOnNextSend_eq_ok hstep
      exact ⟨hmay, heq, hen.1⟩
    · rw [if_neg hen] at hstep
      cases hstep
  have hreach := hr.snoc harm
  have hclient : m.chan.isClientSide = true := by
    rw [hbarmed]
    exact hmay.client
  have ha : m.chan.JustArmed := hbarmed ▸ Chan.armed_justArmed hmay
  have hopen' : m.chan.closed = false := hbarmed ▸ hopen
  clear hmay hbarmed hopen harm
  -- the calls before the first pump send nothing, so the induction stops at that pump
  induction calls with
  | nil => exact ⟨fun _ => trivial, fun _ => ⟨m, rfl, [], (List.append_nil _).symm, fun h => absurd rfl h⟩⟩
  | cons x calls ih =>
    obtain ⟨c, p⟩ := x
    by_cases hp : Pumps m.known c
    · rw [OnePump, if_pos hp]
      have hclient' : (m.recorded c).chan.isClientSide = true := by
        rw [chan_recorded]
        exact hclient
      have hnews := foldlM_onSpdylayNews hclient' p.news
      rw [known_recorded, chan_recorded] at hnews
      constructor
      · rintro ⟨m', hexec, -⟩
        obtain ⟨m₁, hcall, hrest⟩ := bind_eq_ok.mp hexec
        obtain ⟨hfirst, hpump⟩ := (call_of_pumps hp p).mp hcall
        obtain ⟨m₂, d, hm₂, hd, rfl⟩ := pumpSpdySend_eq_ok.mp hpump
        obtain ⟨hchan, hknown⟩ := hnews.2 m₂ hm₂
        rw [hchan] at hd
        have hne : p.sends.flatten ≠ [] :=
          (ha.mayAddData_iff hreach).mp ((Chan.pumpSpdySend_pending hreach.cellMode.cellSize ha.state
            (hreach.defenseInv.pending ha.state).2.1).mp hd).1
        obtain ⟨d', hd', hr', hq, hcl', -⟩ := pump_of_justArmed hreach hopen' ha hne
        obtain rfl : d = d' := Except.ok.inj (hd.symm.trans hd')
        have hnone : NonePumps m₂.known calls :=
          ((exec_of_queued hr' (hcl'.trans hclient) hq).mp hrest).1
        rw [hknown] at hnone
        exact ⟨hfirst, hnews.1.mpr ⟨m₂, hm₂⟩, hne, hnone⟩
      · rintro ⟨hfirst, hnew, hne, hnone⟩
        obtain ⟨d, hd, hr', hq, hcl', hgiven, hholds⟩ := pump_of_justArmed hreach hopen' ha hne
        obtain ⟨m₂, hm₂⟩ := hnews.1.mp hnew
        obtain ⟨hchan, hknown⟩ := hnews.2 m₂ hm₂
        have hcall := (call_of_pumps hp p).mpr ⟨hfirst, pumpSpdySend_eq_ok.mpr
          ⟨m₂, d, hm₂, by rw [hchan]; exact hd, rfl⟩⟩
        refine ⟨{ m₂ with chan := d }, ?_, p.sends.flatten, hgiven, fun _ => hholds⟩
        rw [exec, hcall, ok_bind]
        refine (exec_of_queued hr' (hcl'.trans hclient) hq).mpr ⟨?_, rfl⟩
        show NonePumps m₂.known calls
        rw [hknown]
        exact hnone
    · rw [OnePump, if_neg hp]
      have hcons : exec call m ((c, p) :: calls) = exec call m calls := by
        rw [exec, call_of_not_pumps hp, ok_bind]
      rw [hcons]
      exact ih

/-- A new stream, and a write to a stream that the channel does not know. -/
theorem pending_holds_one_stream :
    ∃ m', exec call { chan := (Chan.fresh true).armed }
        [(.createStream2, { sends := [[1, 2], [3]], news := [.synStream 1] }),
          (.writeBuffer 7, { sends := [] })] = .ok m' ∧
      ∃ out, given m'.chan.journal = given (Chan.fresh true).armed.journal ++ out ∧
        (out ≠ [] → HoldsOne m'.chan out) := by
  have hr : (Chan.fresh true).Reachable := ⟨_, [], Chan.fresh_established true, .nil _⟩
  refine (pending_holds_one (m := { chan := (Chan.fresh true).armed }) hr ?_).mpr ?_
  · rw [Chan.Step]
    decide
  · rw [OnePump, if_pos (show Pumps _ .createStream2 from trivial)]
    refine ⟨fun _ hmem => absurd hmem List.not_mem_nil, ⟨?_, trivial⟩, by decide, by decide⟩
    exact fun _ hmem => absurd hmem List.not_mem_nil

/-- Of two new streams the second trips the check for the first cell, and so does the first write to a
new stream; and a call in which spdylay emits nothing trips the check for one cell. -/
theorem pending_two_calls_fail : ∃ c₀ b : Chan, c₀.Reachable ∧
    Chan.Step c₀ .setAutoStartDefenseSessionOnNextSend b ∧
    exec call { chan := b }
      [(.createStream2, { sends := [[1, 2], [3]], news := [.synStream 1] }),
        (.createStream2, { sends := [[4]], news := [.synStream 3] })] =
        .error (.chan .addDataNotFirst) ∧
    exec call { chan := b }
      [(.createStream2, { sends := [[1, 2], [3]], news := [.synStream 1] }),
        (.writeBuffer 1, { sends := [[4]] })] = .error (.chan .addDataNotFirst) ∧
    exec call { chan := b } [(.closeStream 1, { sends := [] })] =
      .error (.chan .pumpNotOneCell) := by
  refine ⟨Chan.fresh true, (Chan.fresh true).armed, ⟨_, [], Chan.fresh_established true, .nil _⟩, ?_⟩
  rw [Chan.Step]
  decide +kernel

end Muxing

end ShadowBrowser
