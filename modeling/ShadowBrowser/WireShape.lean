/-
The shape of the traffic while a session lasts.

What an observer of the wire sees of a defending channel is how many bytes it offers
the socket and how many are taken, tick by tick.  `Shaper` is a machine that answers
a schedule of ticks and stop requests with exactly this, and it is never told what
the user sends.

* `Step.unseen` — between ticks, nothing that the shaper knows about changes;
* **`bufloTimerFired_shaper`** — a tick does what the shaper does;
* **`wire_shape_noninterference`** — so two sessions with the same schedule look the
  same, whatever users send in them.
-/
import ShadowBrowser.DefenseInv
import ShadowBrowser.Machines

namespace ShadowBrowser

open Checked Runs Machines

/-! ### The shaper -/

/-- What comes from outside the channel and may be seen on the wire. -/
inductive Signal
  /-- the timer fires; the socket does this with a write -/
  | tick (now : ℕ) (sock : SockRes)
  /-- the session is asked to stop -/
  | stop
  deriving DecidableEq, Repr

/-- What the wire shows of one signal: the writes, as the bytes offered and the value
returned, and whether the session ends. -/
structure Response where
  writes : List (ℕ × ℤ)
  ended : Bool
  deriving DecidableEq, Repr

/-- What the shape of the traffic depends on. -/
structure Shaper where
  cellSize : ℕ
  tamarawL : ℕ
  queued : ℕ
  numWriteAttempts : ℕ
  autoStopTimePoint : ℕ
  stopRequested : Bool
  deriving DecidableEq, Repr

/-- The number of bytes that the socket takes if `n` are offered. -/
def SockRes.taken (n : ℕ) : SockRes → ℕ
  | .accepts m => min m n
  | .fails _ => 0

/-- The value that a write of `n` bytes returns. -/
def SockRes.returned (n : ℕ) : SockRes → ℤ
  | .accepts m => (min m n : ℕ)
  | .fails _ => -1

namespace Shaper

/-- The session ends on a tick at this time. -/
def endsAt (s : Shaper) (now : ℕ) : Bool :=
  (s.stopRequested && s.numWriteAttempts % s.tamarawL == 0) || s.autoStopTimePoint ≤ now

/-- The shaper after a write. -/
def sent (s : Shaper) (sock : SockRes) : Shaper :=
  { s with
    queued := (if s.cellSize ≤ s.queued then s.queued else s.queued + s.cellSize)
      - sock.taken s.cellSize
    numWriteAttempts := s.numWriteAttempts + 1 }

/-- The shaper of a running session, as a machine; there is none when the session is over. -/
def machine : Machine (Option Shaper) Signal Response where
  next
    | none, _ => none
    | some s, .stop => some { s with stopRequested := true }
    | some s, .tick now sock => if s.endsAt now then none else some (s.sent sock)
  answer
    | none, _ => ⟨[], true⟩
    | some _, .stop => ⟨[], false⟩
    | some s, .tick now sock =>
      if s.endsAt now then ⟨[], true⟩
      else ⟨[(s.cellSize, sock.returned s.cellSize)], false⟩

end Shaper

namespace Chan

variable {c c' : Chan} {now : ℕ} {sends : List (List UInt8)} {sock : SockRes}

/-- The shaper of a channel. -/
def shaper (c : Chan) : Option Shaper :=
  if c.defenseInfo.state = .active then
    some {
      cellSize := c.cellSize
      tamarawL := c.tamarawL
      queued := c.cellOutbuf.length
      numWriteAttempts := c.defenseInfo.numWriteAttempts
      autoStopTimePoint := c.defenseInfo.autoStopTimePoint
      stopRequested := c.defenseInfo.stopRequested }
  else none

theorem shaper_eq_some_iff {s : Shaper} : c.shaper = some s ↔
    c.defenseInfo.state = .active ∧ s = {
      cellSize := c.cellSize
      tamarawL := c.tamarawL
      queued := c.cellOutbuf.length
      numWriteAttempts := c.defenseInfo.numWriteAttempts
      autoStopTimePoint := c.defenseInfo.autoStopTimePoint
      stopRequested := c.defenseInfo.stopRequested } := by
  rw [shaper]
  split
  · next h => simp [h, eq_comm]
  · next h => simp [h]

theorem shaper_eq_none_iff : c.shaper = none ↔ c.defenseInfo.state ≠ .active := by
  rw [shaper]
  split
  · next h => simp [h]
  · next h => simp [h]

/-! ### Between ticks -/

/-- Nothing that can be seen on the wire changes, except that the session may be asked to
stop. -/
structure Unseen (c c' : Chan) : Prop where
  config : c'.cellSize = c.cellSize ∧ c'.tamarawL = c.tamarawL
  queued : c'.cellOutbuf.length = c.cellOutbuf.length
  state : c'.defenseInfo.state = c.defenseInfo.state
  numWriteAttempts : c'.defenseInfo.numWriteAttempts = c.defenseInfo.numWriteAttempts
  autoStopTimePoint : c'.defenseInfo.autoStopTimePoint = c.defenseInfo.autoStopTimePoint
  stopRequested : c.defenseInfo.stopRequested = true → c'.defenseInfo.stopRequested = true
  writes : writes c'.journal = writes c.journal

namespace Unseen

theorem refl (c : Chan) : Unseen c c := ⟨⟨rfl, rfl⟩, rfl, rfl, rfl, rfl, id, rfl⟩

theorem trans {c₁ c₂ c₃ : Chan} (h : Unseen c₁ c₂) (h' : Unseen c₂ c₃) : Unseen c₁ c₃ where
  config := ⟨h'.config.1.trans h.config.1, h'.config.2.trans h.config.2⟩
  queued := h'.queued.trans h.queued
  state := h'.state.trans h.state
  numWriteAttempts := h'.numWriteAttempts.trans h.numWriteAttempts
  autoStopTimePoint := h'.autoStopTimePoint.trans h.autoStopTimePoint
  stopRequested := h'.stopRequested ∘ h.stopRequested
  writes := h'.writes.trans h.writes

/-- A step that leaves the sending side alone. -/
theorem of_sendPart (e : c'.sendPart = c.sendPart) (hL : c'.tamarawL = c.tamarawL)
    (hinfo : (c'.defenseInfo.state, c'.defenseInfo.numWriteAttempts,
      c'.defenseInfo.autoStopTimePoint) = (c.defenseInfo.state, c.defenseInfo.numWriteAttempts,
      c.defenseInfo.autoStopTimePoint))
    (hstop : c.defenseInfo.stopRequested = true → c'.defenseInfo.stopRequested = true) :
    Unseen c c' := by
  simp only [sendPart, outJournal, Prod.mk.injEq] at e hinfo
  obtain ⟨⟨hsize, -, hbuf, -⟩, -, -, -, hwrites, -⟩ := e
  exact ⟨⟨hsize, hL⟩, congrArg List.length hbuf, hinfo.1, hinfo.2.1, hinfo.2.2, hstop, hwrites⟩

end Unseen

theorem Aside.unseen (h : Aside c c') : Unseen c c' := by
  refine .of_sendPart h.sendPart_eq ?_ ?_ ?_
  · rw [h.same]
  · rw [h.same]
  · rw [h.same]
    exact id

theorem onSpdylaySendCb_unseen (sends : List (List UInt8)) :
    ∀ c : Chan, Unseen c (sends.foldl onSpdylaySendCb c) := by
  induction sends with
  | nil => exact Unseen.refl
  | cons bs sends ih =>
    intro c
    have hone : Unseen c (c.onSpdylaySendCb bs) :=
      ⟨⟨rfl, rfl⟩, rfl, rfl, rfl, rfl, id, by simp [onSpdylaySendCb, writes]⟩
    exact hone.trans (ih _)

/-- While a session lasts, the pump only takes the bytes from spdylay. -/
theorem pumpSpdySend_unseen (hc : CellMode c) (hact : c.defenseInfo.state = .active)
    (h : c.pumpSpdySend sends = .ok c') : Unseen c c' := by
  have hall := onSpdylaySendCb_unseen sends c
  unfold pumpSpdySend at h
  dsimp only at h
  rw [if_neg (by rw [hall.config.1]; exact hc.cellSize), hall.state, hact] at h
  cases h
  exact hall

theorem stopDefenseSession_unseen {rightNow : Bool} (hact : c.defenseInfo.state = .active)
    (h : c.stopDefenseSession rightNow = .ok c') : Unseen c c' := by
  rcases stopDefenseSession_cases h with ⟨hne, -⟩ | ⟨-, hr, rfl⟩
  · exact absurd hact hne
  · refine .of_sendPart (Control.stopping c hact hr).sendPart_eq ?_ ?_ ?_ <;>
    · rw [Chan.stopping]
      dsimp only
      split <;> first | rfl | exact fun _ => rfl

theorem handleFlags_unseen {flags : UInt8} (hact : c.defenseInfo.state = .active)
    (h : c.handleFlags now flags = .ok c') : Unseen c c' := by
  rcases handleFlags_cases h with ⟨-, rfl⟩ | ⟨c₁, c₂, c₃, ha, -, hs, hp, rfl⟩
  · exact .refl _
  have h₁ : Unseen c c₁ := by
    rcases doIf_eq_ok ha with ⟨-, ha⟩ | ⟨-, rfl⟩
    · obtain ⟨hcl, ⟨-, hr, hn, rfl⟩ | ⟨-, rfl⟩⟩ := handleAutoStopped_cases ha
      · exact .of_sendPart (Control.restarting c hact hr hcl hn).sendPart_eq rfl rfl id
      · exact .refl _
    · exact .refl _
  have h₂ : Unseen c₁ c₂ := by
    rcases doIf_eq_ok hs with ⟨-, hs⟩ | ⟨-, rfl⟩
    · -- a second START would fail the check
      obtain ⟨-, hnone, -⟩ := handleStart_eq_ok hs
      rw [h₁.state, hact] at hnone
      exact absurd hnone (by decide)
    · exact .refl _
  have h₃ : Unseen c₂ c₃ := by
    rcases doIf_eq_ok hp with ⟨-, hp⟩ | ⟨-, rfl⟩
    · refine stopDefenseSession_unseen ?_ (handleStop_eq_ok hp).2
      rw [h₂.state, h₁.state, hact]
    · exact .refl _
  refine (h₁.trans h₂).trans (h₃.trans ?_)
  exact ⟨⟨rfl, rfl⟩, rfl, rfl, rfl, rfl, id, rfl⟩

theorem handleInputCell_unseen (hact : c.defenseInfo.state = .active)
    (h : c.handleInputCell now = .ok c') : Unseen c c' := by
  obtain ⟨-, c₁, c₂, c₃, hflags, hdata, hdone, rfl⟩ := handleInputCell_cases h
  have h₀ : Unseen c (c.log (.cellHandled (c.cellInbuf.take c.peerCellSize))) :=
    ⟨⟨rfl, rfl⟩, rfl, rfl, rfl, rfl, id, by simp [log, writes]⟩
  have h₁ := h₀.trans (handleFlags_unseen (by exact hact) hflags)
  have h₂ := h₁.trans (handleData_aside hdata).unseen
  refine h₂.trans ?_
  rcases doIf_eq_ok hdone with ⟨-, hdone⟩ | ⟨-, rfl⟩
  · obtain ⟨-, rfl⟩ := handleDone_eq_ok hdone
    have hnotify := checkNotifyADefenseSessionDone_aside
      ({ c₂ with defenseInfo := { c₂.defenseInfo with doneDefendingRecv := true } } : Chan)
    exact ⟨hnotify.unseen.config, hnotify.unseen.queued, hnotify.unseen.state,
      hnotify.unseen.numWriteAttempts, hnotify.unseen.autoStopTimePoint,
      hnotify.unseen.stopRequested, hnotify.unseen.writes⟩
  · exact ⟨⟨rfl, rfl⟩, rfl, rfl, rfl, rfl, id, rfl⟩

theorem readCells_unseen (hact : c.defenseInfo.state = .active)
    (h : c.readCells now = .ok c') : Unseen c c' := by
  refine readLoop_induct (P := Unseen c) ?_ ?_ (.refl c) (readCells_eq_ok h).2
  · intro d hd _ _
    exact hd.trans ⟨⟨rfl, rfl⟩, rfl, rfl, rfl, rfl, id, rfl⟩
  · intro d d₁ hd _ _ hcell
    have hact' : d.defenseInfo.state = .active := hd.state.trans hact
    exact (hd.trans (handleInputCell_unseen hact' hcell)).trans
      ⟨⟨rfl, rfl⟩, rfl, rfl, rfl, rfl, id, rfl⟩

theorem handleFailedSocketIo_unseen {rv : ℤ} {errno : Errno} {b : Bool}
    (h : c.handleFailedSocketIo rv errno b = .ok c') : Unseen c c' := by
  have hclosed : Unseen c c.onSocketClosed :=
    ⟨⟨rfl, rfl⟩, rfl, rfl, rfl, rfl, id, by simp [onSocketClosed, chStatusCb, log, writes]⟩
  unfold handleFailedSocketIo at h
  split at h
  · cases h
    exact hclosed
  · split at h
    · cases h
      exact .refl _
    · obtain ⟨_, -, h⟩ := bind_eq_ok.mp h
      cases h
      exact .refl _
    · cases h
      exact hclosed

/-- **Between ticks, the wire shows nothing.** -/
theorem Step.unseen {e : Event} (hc : CellMode c) (hdef : DefenseInv c)
    (hact : c.defenseInfo.state = .active)
    (he : ∀ now sends sock, e ≠ .bufloTimerFired now sends sock) (h : Step c e c') :
    Unseen c c' := by
  obtain ⟨hen, h⟩ := h.enabled
  cases e with
  | pumpSpdySend sends => exact pumpSpdySend_unseen hc hact h
  | startDefenseSession now =>
    obtain ⟨hnone, -⟩ := startDefenseSession_eq_ok h
    exact absurd (hact.symm.trans hnone) (by decide)
  | setAutoStartDefenseSessionOnNextSend =>
    obtain ⟨hmay, -⟩ := setAutoStartDefenseSessionOnNextSend_eq_ok h
    exact absurd (hact.symm.trans hmay.state) (by decide)
  | stopDefenseSession rightNow => exact stopDefenseSession_unseen hact h
  | bufloTimerFired now sends sock => exact absurd rfl (he now sends sock)
  | socketWritable now sock =>
    have hev : c.writeEvEnabled = true := hen.2
    exact absurd (hdef.writeEv hact) (by simp [hev])
  | socketReadable now res =>
    rcases onSocketReadcb_cases hc h with ⟨_, _, h⟩ | ⟨bs, -, -, -, h⟩ | ⟨-, h⟩
    · exact handleFailedSocketIo_unseen h
    · exact (readIn_aside c bs).unseen.trans (readCells_unseen (by exact hact) h)
    · exact h.unseen

/-! ### Steps that do not write -/

theorem maybeDropWholeDummyCellAtEndOutbuf_writes {count : Bool} {x : Chan × Bool}
    (h : c.maybeDropWholeDummyCellAtEndOutbuf count = .ok x) :
    writes x.1.journal = writes c.journal := by
  rcases maybeDropWholeDummyCellAtEndOutbuf_eq_ok h with ⟨-, rfl⟩ | ⟨-, rfl⟩
  · rfl
  · simp [dropped, writes]

theorem maybeAddONEDataCellToOutbuf_writes {x : Chan × Bool}
    (h : c.maybeAddONEDataCellToOutbuf = .ok x) : writes x.1.journal = writes c.journal := by
  rcases maybeAddONEDataCellToOutbuf_eq_ok h with ⟨-, rfl⟩ | ⟨c₁, rfl | ⟨-, rfl⟩, -, rfl⟩
  · rfl
  · simp [addedData, writes]
  · simp [addedData, dropped, writes]

theorem flushLoop_writes : ∀ {fuel : ℕ} {c : Chan}, flushLoop fuel c = .ok c' →
    writes c'.journal = writes c.journal := by
  intro fuel
  induction fuel with
  | zero =>
    intro c h
    cases h
    rfl
  | succ fuel ih =>
    intro c h
    rw [flushLoop] at h
    split at h
    · cases h
      rfl
    · obtain ⟨x, hx, h⟩ := bind_eq_ok.mp h
      obtain ⟨_, -, h⟩ := bind_eq_ok.mp h
      exact (ih h).trans (maybeAddONEDataCellToOutbuf_writes hx)

theorem maybeToggleWriteMonitoring_journal {mode : ForceToggleMode}
    (h : c.maybeToggleWriteMonitoring mode = .ok c') : c'.journal = c.journal := by
  obtain ⟨-, rfl⟩ := maybeToggleWriteMonitoring_eq_ok h
  rfl

/-- The pump does not write to the socket. -/
theorem pumpSpdySend_writes (h : c.pumpSpdySend sends = .ok c') :
    writes c'.journal = writes c.journal := by
  rw [← (onSpdylaySendCb_unseen sends c).writes]
  unfold pumpSpdySend at h
  generalize sends.foldl onSpdylaySendCb c = d at h ⊢
  dsimp only at h
  split at h
  · rw [maybeToggleWriteMonitoring_journal h]
  · split at h
    · obtain ⟨d₁, hflush, h⟩ := bind_eq_ok.mp h
      obtain ⟨_, -, hloop⟩ := bind_eq_ok.mp hflush
      rw [← flushLoop_writes hloop]
      split at h
      · rw [maybeToggleWriteMonitoring_journal h]
      · cases h
        rfl
    · obtain ⟨x, hx, h⟩ := bind_eq_ok.mp h
      obtain ⟨_, -, h⟩ := bind_eq_ok.mp h
      rw [maybeToggleWriteMonitoring_journal h, maybeAddONEDataCellToOutbuf_writes hx]
    · cases h
      rfl

theorem addCellForFlag_writes {b : Bool} (h : c.addCellForFlag b = .ok c') :
    writes c'.journal = writes c.journal := by
  unfold addCellForFlag at h
  split at h
  · obtain ⟨x, hdrop, h⟩ := bind_eq_ok.mp h
    obtain ⟨_, -, h⟩ := bind_eq_ok.mp h
    obtain ⟨c₁, hadd, h⟩ := bind_eq_ok.mp h
    obtain ⟨-, -, rfl⟩ := addONEDummyCellToOutbuf_eq_ok hadd
    rw [maybeToggleWriteMonitoring_journal h, ← maybeDropWholeDummyCellAtEndOutbuf_writes hdrop]
    simp [addedDummy, clearFlags, writes]
  · cases h
    rfl

theorem checkNotifyADefenseSessionDone_writes (c : Chan) :
    writes c.checkNotifyADefenseSessionDone.journal = writes c.journal :=
  (checkNotifyADefenseSessionDone_aside c).unseen.writes

/-- **The end of a session by request writes nothing.** -/
theorem finishDefense_writes (hact : c.defenseInfo.state = .active)
    (hreq : c.defenseInfo.stopRequested = true) (h : c.finishDefense sends = .ok c') :
    writes c'.journal = writes c.journal := by
  obtain ⟨c₁, hpump, h⟩ := bind_eq_ok.mp h
  obtain ⟨c₂, hflag, h⟩ := bind_eq_ok.mp h
  obtain ⟨_, -, h⟩ := bind_eq_ok.mp h
  obtain ⟨_, -, h⟩ := bind_eq_ok.mp h
  cases h
  have hend : writes c.finished.journal = writes c.journal :=
    congrArg (·.2.2.2.2.1) (Control.finished c hact hreq).sendPart_eq
  rw [checkNotifyADefenseSessionDone_writes, addCellForFlag_writes hflag, ← hend]
  exact pumpSpdySend_writes (c := c.finished) hpump

/-- **The end of a session by the time limit writes nothing.** -/
theorem autoStopDefense_writes (hact : c.defenseInfo.state = .active)
    (hsrv : c.isClientSide = false) (h : c.autoStopDefense sends = .ok c') :
    writes c'.journal = writes c.journal := by
  obtain ⟨c₁, hpump, h⟩ := bind_eq_ok.mp h
  obtain ⟨c₂, hflag, h⟩ := bind_eq_ok.mp h
  obtain ⟨_, -, h⟩ := bind_eq_ok.mp h
  cases h
  have hend : writes c.autoStopped.journal = writes c.journal :=
    congrArg (·.2.2.2.2.1) (Control.autoStopped c hact hsrv).sendPart_eq
  rw [addCellForFlag_writes hflag, ← hend]
  exact pumpSpdySend_writes (c := c.autoStopped) hpump

/-! ### Ticks -/

/-- A write of at most what is queued. -/
theorem evbufferWriteAtmost_eq (c : Chan) (sock : SockRes) {n : ℕ}
    (hle : n ≤ c.cellOutbuf.length) :
    c.evbufferWriteAtmost n sock = ({ c with
      cellOutbuf := c.cellOutbuf.drop (sock.taken n)
      journal := c.journal ++
        [.wrote n (sock.returned n) (c.cellOutbuf.take (sock.taken n))] }, sock.returned n) := by
  cases sock with
  | fails errno => rfl
  | accepts m =>
    rw [evbufferWriteAtmost, Nat.min_eq_left hle]
    rfl

/-- Accounting for a write leaves the queue and the defense alone. -/
theorem accountWrite_frame {rv : ℤ} (h : c.accountWrite rv sock = .ok c') :
    c'.shaper = c.shaper ∧ writes c'.journal = writes c.journal := by
  rcases accountWrite_eq_ok h with ⟨-, -, rfl⟩ | ⟨-, rfl | rfl⟩
  · exact ⟨rfl, rfl⟩
  · exact ⟨rfl, rfl⟩
  · exact ⟨rfl, by simp [onSocketClosed, chStatusCb, log, writes]⟩

/-- **A write in a session**: one cell's worth of bytes is offered. -/
theorem sendCellOutbuf_shaper {s : Shaper} (hs : c.shaper = some s)
    (h : c.sendCellOutbuf sock = .ok c') :
    s.cellSize ≤ s.queued ∧ c'.shaper = some (s.sent sock) ∧
      writes c'.journal = writes c.journal ++ [(s.cellSize, sock.returned s.cellSize)] := by
  obtain ⟨hact, rfl⟩ := shaper_eq_some_iff.mp hs
  obtain ⟨_, -, h⟩ := bind_eq_ok.mp h
  rw [if_pos hact] at h
  obtain ⟨_, hlen, h⟩ := bind_eq_ok.mp h
  have hlen : c.cellSize ≤ c.cellOutbuf.length := check_eq_ok.mp hlen
  rw [evbufferWriteAtmost_eq c sock hlen] at h
  obtain ⟨hshaper, hwrites⟩ := accountWrite_frame h
  refine ⟨hlen, ?_, ?_⟩
  · rw [hshaper, shaper_eq_some_iff]
    refine ⟨hact, ?_⟩
    simp [Shaper.sent, hlen]
  · rw [hwrites]
    simp [writes]

/-- **A tick in a session**: the queue is filled up to a cell with data or with a dummy cell,
and a cell's worth is offered. -/
theorem defendOneTick_shaper (hbuf : OutBufferInv c) {s : Shaper} (hs : c.shaper = some s)
    (h : c.defendOneTick sock = .ok c') :
    c'.shaper = some (s.sent sock) ∧
      writes c'.journal = writes c.journal ++ [(s.cellSize, sock.returned s.cellSize)] := by
  obtain ⟨hact, rfl⟩ := shaper_eq_some_iff.mp hs
  unfold defendOneTick at h
  split at h
  · exact (sendCellOutbuf_shaper (c := { c with
      numDummyCellsAvoided :=
        c.numDummyCellsAvoided + if c.spdyOutbuf.length = 0 then 1 else 0 }) hs h).2
  · next hlt =>
    obtain ⟨⟨c₀, added⟩, hadd, h⟩ := bind_eq_ok.mp h
    obtain ⟨c₁, hens, h⟩ := bind_eq_ok.mp h
    obtain ⟨_, -, h⟩ := bind_eq_ok.mp h
    -- less than a cell is queued, so there is no whole dummy cell to drop
    have hwhole : c.wholeDummyCellAtEndOutbuf = false := by
      by_contra hd
      exact hlt (hbuf.dummy (by simpa using hd)).1
    have hc₁ : c₁ = c.addedData ∨ c₁ = c.addedDummy := by
      rcases maybeAddONEDataCellToOutbuf_eq_ok hadd with ⟨-, e⟩ | ⟨d, hd, -, e⟩
      · cases e
        obtain ⟨_, -, hens⟩ := bind_eq_ok.mp hens
        rw [if_neg (by simp [hwhole])] at hens
        obtain ⟨_, -, hens⟩ := bind_eq_ok.mp hens
        exact .inr (addONEDummyCellToOutbuf_eq_ok hens).2.2
      · cases e
        cases hens
        rcases hd with rfl | ⟨hd, -⟩
        · exact .inl rfl
        · exact absurd hd.marked (by simp [hwhole])
    have hshaper : c₁.shaper = some {
        cellSize := c.cellSize
        tamarawL := c.tamarawL
        queued := c.cellOutbuf.length + c.cellSize
        numWriteAttempts := c.defenseInfo.numWriteAttempts
        autoStopTimePoint := c.defenseInfo.autoStopTimePoint
        stopRequested := c.defenseInfo.stopRequested } := by
      rw [shaper_eq_some_iff]
      rcases hc₁ with rfl | rfl
      · refine ⟨hact, ?_⟩
        simp [addedData, clearFlags, DefenseInfo.clear, length_encode (dataCell_fits hbuf.size)]
      · refine ⟨hact, ?_⟩
        simp [addedDummy, clearFlags, DefenseInfo.clear,
          length_encode (dummyCell_fits hbuf.size.1)]
    have hwrites : writes c₁.journal = writes c.journal := by
      rcases hc₁ with rfl | rfl
      · simp [addedData, writes]
      · simp [addedDummy, clearFlags, writes]
    obtain ⟨-, hsent, hwrote⟩ := sendCellOutbuf_shaper hshaper h
    refine ⟨?_, by rw [hwrote, hwrites]⟩
    rw [hsent]
    simp [Shaper.sent, hlt]

/-- **A tick does what the shaper does.** -/
theorem bufloTimerFired_shaper (hbuf : OutBufferInv c) {s : Shaper} (hs : c.shaper = some s)
    (h : c.bufloTimerFired now sends sock = .ok c') :
    c'.shaper = Shaper.machine.next (some s) (.tick now sock) ∧
      ∃ ws, writes c'.journal = writes c.journal ++ ws ∧
        Shaper.machine.answer (some s) (.tick now sock) = ⟨ws, decide (c'.shaper = none)⟩ := by
  obtain ⟨hact, hs'⟩ := shaper_eq_some_iff.mp hs
  have hends : s.endsAt now =
      (c.isDoneDefendingSend || decide (c.defenseInfo.autoStopTimePoint ≤ now)) := by
    rw [hs']
    rfl
  obtain ⟨-, hcases⟩ := bufloTimerFired_cases h
  obtain ⟨_, -, h⟩ := bind_eq_ok.mp h
  -- the tick ends the session with the shape, or by the time limit, or writes one cell
  rcases hcases with ⟨hdone, c₁, houts, -, -, rfl⟩ | ⟨hdone, hlimit, hsrv, houts, -⟩ |
    ⟨hdone, hlimit, htick⟩
  · have hnone : c₁.checkNotifyADefenseSessionDone.shaper = none := by
      rw [shaper_eq_none_iff, (checkNotifyADefenseSessionDone_aside c₁).unseen.state,
        houts.state_eq, finished_state]
      decide
    rw [if_pos hdone] at h
    refine ⟨?_, [], ?_, ?_⟩
    · rw [hnone]
      simp [Shaper.machine, hends, hdone]
    · rw [List.append_nil]
      exact finishDefense_writes hact (isDoneDefendingSend_stopRequested hdone) h
    · simp [Shaper.machine, hends, hdone, hnone]
  · have hnone : c'.shaper = none := by
      rw [shaper_eq_none_iff, houts.state_eq, autoStopped_state]
      decide
    rw [if_neg (by simp [hdone]), if_pos hlimit, if_neg (by simp [hsrv])] at h
    refine ⟨?_, [], ?_, ?_⟩
    · rw [hnone]
      simp [Shaper.machine, hends, hlimit]
    · rw [List.append_nil]
      exact autoStopDefense_writes hact hsrv h
    · simp [Shaper.machine, hends, hlimit, hnone]
  · obtain ⟨hshaper, hwrites⟩ := defendOneTick_shaper hbuf hs htick
    have hends' : s.endsAt now = false := by
      rw [hends, hdone]
      simpa using hlimit
    refine ⟨?_, _, hwrites, ?_⟩
    · simp [Shaper.machine, hends', hshaper]
    · simp [Shaper.machine, hends', hshaper]

/-! ### Sessions, as they are seen -/

/-- One step of a session: the signal that it carries, if any, and what the wire shows. -/
structure Observation where
  signal : Option Signal
  response : Response
  deriving DecidableEq, Repr

/-- What is seen of a step.  A session is asked to stop by a call or, on the server side, by
a cell among those that are read. -/
def observe (c : Chan) (e : Event) (c' : Chan) : Observation where
  signal :=
    match e with
    | .bufloTimerFired now _ sock => some (.tick now sock)
    | _ =>
      if c'.defenseInfo.stopRequested && !c.defenseInfo.stopRequested then some .stop else none
  response := {
    writes := (writes c'.journal).drop (writes c.journal).length
    ended := decide (c'.defenseInfo.state ≠ .active) }

/-- The steps of a session. -/
def DefendStep (c : Chan) (o : Observation) (c' : Chan) : Prop :=
  c.defenseInfo.state = .active ∧ ∃ e, Step c e c' ∧ o = observe c e c'

theorem exists_shaper (hact : c.defenseInfo.state = .active) : ∃ s, c.shaper = some s :=
  ⟨_, shaper_eq_some_iff.mpr ⟨hact, rfl⟩⟩

/-- A step that is not a tick shows nothing, and tells the shaper at most to stop. -/
theorem observe_unseen {e : Event} (h : Reachable c) (hact : c.defenseInfo.state = .active)
    (he : ∀ now sends sock, e ≠ .bufloTimerFired now sends sock) (hstep : Step c e c') :
    (observe c e c').response = ⟨[], false⟩ ∧
      (((observe c e c').signal = none ∧ c'.shaper = c.shaper) ∨
        ((observe c e c').signal = some .stop ∧
          c'.shaper = Shaper.machine.next c.shaper .stop)) := by
  obtain ⟨-, -, -, hc, -⟩ := h.micros
  have hun := hstep.unseen hc h.defenseInv hact he
  have hact' : c'.defenseInfo.state = .active := hun.state.trans hact
  obtain ⟨s, hs⟩ := exists_shaper hact
  have hsignal : (observe c e c').signal =
      if c'.defenseInfo.stopRequested && !c.defenseInfo.stopRequested then some .stop
      else none := by
    cases e with
    | bufloTimerFired now sends sock => exact absurd rfl (he now sends sock)
    | _ => rfl
  refine ⟨by simp [observe, hun.writes, hact'], ?_⟩
  rw [hsignal, hs]
  obtain ⟨-, rfl⟩ := shaper_eq_some_iff.mp hs
  -- of all that happens between two ticks only a stop request is seen
  cases hr : c.defenseInfo.stopRequested <;> cases hr' : c'.defenseInfo.stopRequested
  · refine .inl ⟨rfl, ?_⟩
    rw [shaper_eq_some_iff, hun.config.1, hun.config.2, hun.queued, hun.numWriteAttempts,
      hun.autoStopTimePoint, hr']
    exact ⟨hact', rfl⟩
  · refine .inr ⟨rfl, ?_⟩
    rw [Shaper.machine, shaper_eq_some_iff, hun.config.1, hun.config.2, hun.queued,
      hun.numWriteAttempts, hun.autoStopTimePoint, hr']
    exact ⟨hact', rfl⟩
  · exact absurd (hun.stopRequested hr) (by simp [hr'])
  · refine .inl ⟨rfl, ?_⟩
    rw [shaper_eq_some_iff, hun.config.1, hun.config.2, hun.queued, hun.numWriteAttempts,
      hun.autoStopTimePoint, hr']
    exact ⟨hact', rfl⟩

/-- What is seen of a tick is what the shaper answers. -/
theorem observe_tick (h : Reachable c) (hact : c.defenseInfo.state = .active)
    (hstep : Step c (.bufloTimerFired now sends sock) c') :
    c'.shaper = Shaper.machine.next c.shaper (.tick now sock) ∧
      (observe c (.bufloTimerFired now sends sock) c').response =
        Shaper.machine.answer c.shaper (.tick now sock) := by
  obtain ⟨s, hs⟩ := exists_shaper hact
  obtain ⟨hnext, ws, hws, hanswer⟩ := bufloTimerFired_shaper h.outBufferInv hs hstep.enabled.2
  rw [hs]
  refine ⟨hnext, ?_⟩
  rw [hanswer, observe, hws, List.drop_left]
  simp [shaper_eq_none_iff]

/-- **A session follows the shaper.** -/
theorem defendStep_follows :
    Follows DefendStep Reachable Shaper.machine shaper Observation.signal
      Observation.response where
  invariant := fun h hstep => by
    obtain ⟨-, e, hstep, -⟩ := hstep
    exact h.snoc hstep
  silent := fun h hstep hnone => by
    obtain ⟨hact, e, hstep, rfl⟩ := hstep
    have he : ∀ now sends sock, e ≠ .bufloTimerFired now sends sock := by
      rintro now sends sock rfl
      exact absurd hnone (by simp [observe])
    obtain ⟨-, ⟨-, hshaper⟩ | ⟨hstop, -⟩⟩ := observe_unseen h hact he hstep
    · exact hshaper
    · exact absurd (hnone.symm.trans hstop) (by simp)
  sync := fun {c o c' i} h hstep hsome => by
    obtain ⟨hact, e, hstep, rfl⟩ := hstep
    by_cases he : ∃ now sends sock, e = .bufloTimerFired now sends sock
    · obtain ⟨now, sends, sock, rfl⟩ := he
      obtain rfl : Signal.tick now sock = i := Option.some.inj hsome
      exact observe_tick h hact hstep
    · have he' : ∀ now sends sock, e ≠ .bufloTimerFired now sends sock :=
        fun now sends sock e => he ⟨now, sends, sock, e⟩
      obtain ⟨hresp, ⟨hnone, -⟩ | ⟨hstop, hshaper⟩⟩ := observe_unseen h hact he' hstep
      · exact absurd (hnone.symm.trans hsome) (by simp)
      · obtain rfl : Signal.stop = i := Option.some.inj (hstop.symm.trans hsome)
        refine ⟨hshaper, hresp.trans ?_⟩
        obtain ⟨s, hs⟩ := exists_shaper hact
        rw [hs]
        rfl

/-- **Nothing is written between ticks**, in any session. -/
theorem silent_between_ticks {os : List Observation} (h : Reachable c)
    (hrun : Run DefendStep c os c') :
    ∀ o ∈ os, (∀ now sock, o.signal ≠ some (.tick now sock)) → o.response = ⟨[], false⟩ := by
  induction hrun with
  | nil => simp
  | cons hstep _ ih =>
    obtain ⟨hact, e, hstep, rfl⟩ := hstep
    intro o ho hsignal
    rcases List.mem_cons.mp ho with rfl | ho
    · refine (observe_unseen h hact ?_ hstep).1
      rintro now sends sock rfl
      exact hsignal now sock rfl
    · exact ih (h.snoc hstep) o ho hsignal

/-- **The shape of the traffic depends only on the schedule.**  Two sessions that start with
the same queue length and bookkeeping, and get the same ticks, clock readings, write results
and stop requests, offer and write the same numbers of bytes on each tick, end on the same
tick, and write nothing between ticks, whatever else happens in them. -/
theorem wire_shape_noninterference {d d' : Chan} {os os' : List Observation}
    (hc : Reachable c) (hd : Reachable d)
    (hcact : c.defenseInfo.state = .active) (hdact : d.defenseInfo.state = .active)
    (hconfig : c.cellSize = d.cellSize ∧ c.tamarawL = d.tamarawL)
    (hqueued : c.cellOutbuf.length = d.cellOutbuf.length)
    (hattempts : c.defenseInfo.numWriteAttempts = d.defenseInfo.numWriteAttempts)
    (hstop : c.defenseInfo.stopRequested = d.defenseInfo.stopRequested)
    (htime : c.defenseInfo.autoStopTimePoint = d.defenseInfo.autoStopTimePoint)
    (hrun : Run DefendStep c os c') (hrun' : Run DefendStep d os' d')
    (hschedule : os.filterMap (·.signal) = os'.filterMap (·.signal)) :
    (os.filter (·.signal.isSome)).map (·.response) =
        (os'.filter (·.signal.isSome)).map (·.response) ∧
      (∀ o ∈ os ++ os', (∀ now sock, o.signal ≠ some (.tick now sock)) →
        o.response = ⟨[], false⟩) ∧
      (c'.defenseInfo.state = .active ↔ d'.defenseInfo.state = .active) := by
  have hsame : c.shaper = d.shaper := by
    rw [shaper, shaper, if_pos hcact, if_pos hdact, hconfig.1, hconfig.2, hqueued, hattempts,
      hstop, htime]
  obtain ⟨houts, hend⟩ :=
    defendStep_follows.noninterference hc hd hsame hrun hrun' hschedule
  refine ⟨houts, ?_, ?_⟩
  · intro o ho
    rcases List.mem_append.mp ho with ho | ho
    · exact silent_between_ticks hc hrun o ho
    · exact silent_between_ticks hd hrun' o ho
  · have hover : c'.defenseInfo.state ≠ .active ↔ d'.defenseInfo.state ≠ .active := by
      rw [← shaper_eq_none_iff, ← shaper_eq_none_iff, hend]
    exact not_iff_not.mp hover

/-- Run a session, observing every step. -/
def defend : Chan → List Event → Except Check (List Observation × Chan)
  | c, [] => .ok ([], c)
  | c, e :: es => do
    check (c.defenseInfo.state = .active) .notEnabled
    let c' ← c.step e
    let (os, d) ← defend c' es
    return (observe c e c' :: os, d)

theorem run_of_defend : ∀ {es : List Event} {c d : Chan} {os : List Observation},
    defend c es = .ok (os, d) → Run DefendStep c os d := by
  intro es
  induction es with
  | nil =>
    intro c d os h
    cases h
    exact .nil c
  | cons e es ih =>
    intro c d os h
    obtain ⟨_, hact, h⟩ := bind_eq_ok.mp h
    obtain ⟨c', hstep, h⟩ := bind_eq_ok.mp h
    obtain ⟨⟨os', d'⟩, hrest, h⟩ := bind_eq_ok.mp h
    cases h
    exact .cons ⟨check_eq_ok.mp hact, e, hstep, rfl⟩ (ih hrest)

/-- A session with much data and one with hardly any, on the same schedule. -/
theorem wire_shape_noninterference_data : ∃ c d os os' c' d', Run DefendStep c os c' ∧
    Run DefendStep d os' d' ∧ (given c'.journal).length = 3100 ∧
    (given d'.journal).length = 1 ∧
    (os.filter (·.signal.isSome)).map (·.response) =
      (os'.filter (·.signal.isSome)).map (·.response) := by
  let start : ℕ → List Event := fun n => [.setAutoStartDefenseSessionOnNextSend,
    .pumpSpdySend [List.replicate n 66], .socketWritable 0 (.accepts 400)]
  obtain ⟨⟨⟨c, os, c'⟩, d, os', d'⟩, hrun, hall⟩ := exists_of_returns
    (x := do
      let c ← exec step (fresh true) (start 100)
      let d ← exec step (fresh true) (start 1)
      let x ← defend c [.pumpSpdySend [List.replicate 3000 67],
        .bufloTimerFired 20000 [] (.accepts 700), .bufloTimerFired 40000 [] (.accepts 750)]
      let y ← defend d [.bufloTimerFired 20000 [] (.accepts 700),
        .bufloTimerFired 40000 [] (.accepts 750)]
      return ((c, x), (d, y)))
    (p := fun r => decide (r.1.1.shaper = r.2.1.shaper ∧
      r.1.1.defenseInfo.state = .active ∧ r.2.1.defenseInfo.state = .active ∧
      r.1.2.1.filterMap (·.signal) = r.2.2.1.filterMap (·.signal) ∧
      (given r.1.2.2.journal).length = 3100 ∧ (given r.2.2.2.journal).length = 1))
    (by decide +kernel)
  obtain ⟨c₁, hc, hrun⟩ := bind_eq_ok.mp hrun
  obtain ⟨d₁, hd, hrun⟩ := bind_eq_ok.mp hrun
  obtain ⟨x, hx, hrun⟩ := bind_eq_ok.mp hrun
  obtain ⟨y, hy, hrun⟩ := bind_eq_ok.mp hrun
  cases hrun
  obtain ⟨hsame, hcact, hdact, hschedule, hgiven, hgiven'⟩ := of_decide_eq_true hall
  have hshape := hsame.symm
  rw [shaper, if_pos hdact, eq_comm, shaper_eq_some_iff] at hshape
  obtain ⟨-, e⟩ := hshape
  simp only [Shaper.mk.injEq] at e
  refine ⟨c, d, os, os', c', d', run_of_defend hx, run_of_defend hy, hgiven, hgiven', ?_⟩
  exact (wire_shape_noninterference (exec_reachable (fresh_established true) hc)
    (exec_reachable (fresh_established true) hd) hcact hdact ⟨e.1.symm, e.2.1.symm⟩
    e.2.2.1.symm e.2.2.2.1.symm e.2.2.2.2.2.symm e.2.2.2.2.1.symm (run_of_defend hx)
    (run_of_defend hy) hschedule).1

end Chan

end ShadowBrowser
