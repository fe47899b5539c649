/-
No output is stranded.

Outside a session it is the write event that gets queued bytes to the socket, so it
has to be monitored exactly while `cell_outbuf_` holds bytes, and when no session is
armed either, spdylay's bytes must not wait in `spdy_outbuf_`, from which nothing but
the next pump would take them.

* `pumpSpdySend_noStranded` — the pump establishes this when a session has ended;
* **`NoStranded.step`** — every event preserves it, unless it stops an armed session
  while bytes wait in `spdy_outbuf_`;
* **`no_stranded_output`** — so it holds in all runs without such a stop, and fails
  right after one.
-/
import ShadowBrowser.DefenseInv

namespace ShadowBrowser

open Checked Runs

namespace Chan

variable {c c' : Chan} {now : ℕ} {sends : List (List UInt8)} {sock : SockRes}

/-- Outside a session, what is queued will be sent. -/
structure NoStranded (c : Chan) : Prop where
  queued : c.defenseInfo.state ≠ .active → (c.writeEvEnabled = true ↔ c.cellOutbuf ≠ [])
  flushed : c.defenseInfo.state = .none → c.spdyOutbuf = []

/-- The event does not stop an armed session while bytes wait for cells. -/
def StopsNoWaitingBytes (c : Chan) (e : Event) : Prop :=
  ∀ rightNow, e = .stopDefenseSession rightNow →
    c.defenseInfo.state = .pendingNextSocketSend → c.spdyOutbuf = []

/-! ### Flushing -/

theorem encode_ne_nil (k : Cell) (size : ℕ) : k.encode size ≠ [] := by
  rw [Cell.encode]
  simp

/-- A data cell takes as many bytes out of `spdy_outbuf_` as it carries. -/
theorem maybeAddONEDataCellToOutbuf_added {x : Chan × Bool}
    (h : c.maybeAddONEDataCellToOutbuf = .ok x) (hadded : x.2 = true) :
    x.1.cellOutbuf ≠ [] ∧ 0 < c.payloadLen ∧ x.1.spdyOutbuf = c.spdyOutbuf.drop c.payloadLen ∧
      x.1.writeEvEnabled = c.writeEvEnabled ∧ x.1.cellSize = c.cellSize ∧
      x.1.defenseInfo.state = c.defenseInfo.state := by
  rcases maybeAddONEDataCellToOutbuf_eq_ok h with ⟨-, rfl⟩ | ⟨c₁, hc₁, hadd, rfl⟩
  · exact absurd hadded Bool.false_ne_true
  · have hne : c₁.addedData.cellOutbuf ≠ [] := by
      simp [addedData, encode_ne_nil]
    rcases hc₁ with rfl | ⟨-, rfl⟩
    · exact ⟨hne, hadd.payload, rfl, rfl, rfl, rfl⟩
    · exact ⟨hne, hadd.payload, rfl, rfl, rfl, rfl⟩

/-- **The loop of the flush empties `spdy_outbuf_`.**  Its length is fuel enough, as every
turn takes at least one byte. -/
theorem flushLoop_flushed : ∀ {fuel : ℕ} {c : Chan}, c.spdyOutbuf.length ≤ fuel →
    flushLoop fuel c = .ok c' →
    c'.spdyOutbuf = [] ∧ c'.writeEvEnabled = c.writeEvEnabled ∧
      (c'.cellOutbuf = [] → c.cellOutbuf = []) := by
  intro fuel
  induction fuel with
  | zero =>
    intro c hlen h
    cases h
    exact ⟨List.length_eq_zero_iff.mp (by omega), rfl, id⟩
  | succ fuel ih =>
    intro c hlen h
    rw [flushLoop] at h
    split at h
    · next hz =>
      cases h
      exact ⟨List.length_eq_zero_iff.mp hz, rfl, id⟩
    · obtain ⟨x, hx, h⟩ := bind_eq_ok.mp h
      obtain ⟨_, hadded, h⟩ := bind_eq_ok.mp h
      obtain ⟨hne, hpos, hspdy, hev, -⟩ :=
        maybeAddONEDataCellToOutbuf_added hx (check_eq_ok.mp hadded)
      have hlen' : x.1.spdyOutbuf.length ≤ fuel := by
        rw [hspdy, List.length_drop]
        omega
      obtain ⟨hflushed, hev', hempty⟩ := ih hlen' h
      exact ⟨hflushed, hev'.trans hev, fun hnil => absurd (hempty hnil) hne⟩

theorem foldl_onSpdylaySendCb (sends : List (List UInt8)) :
    ∀ c : Chan, (sends.foldl onSpdylaySendCb c).cellSize = c.cellSize ∧
      (sends.foldl onSpdylaySendCb c).defenseInfo = c.defenseInfo ∧
      (sends.foldl onSpdylaySendCb c).writeEvEnabled = c.writeEvEnabled ∧
      (sends.foldl onSpdylaySendCb c).cellOutbuf = c.cellOutbuf := by
  induction sends with
  | nil => exact fun c => ⟨rfl, rfl, rfl, rfl⟩
  | cons bs sends ih => exact fun c => ih (c.onSpdylaySendCb bs)

/-- **The pump leaves nothing stranded**, if before it no event was monitored for nothing. -/
theorem pumpSpdySend_noStranded (hsize : c.cellSize ≠ 0)
    (hev : c.defenseInfo.state ≠ .active → c.writeEvEnabled = true → c.cellOutbuf ≠ [])
    (h : c.pumpSpdySend sends = .ok c') : NoStranded c' := by
  have houts := pumpSpdySend_outs h
  obtain ⟨hsize', hinfo, hev', hbuf⟩ := foldl_onSpdylaySendCb sends c
  rw [← hsize'] at hsize
  rw [← hinfo, ← hev', ← hbuf] at hev
  have hstate : c'.defenseInfo.state = (sends.foldl onSpdylaySendCb c).defenseInfo.state := by
    rw [houts.state_eq, hinfo]
  unfold pumpSpdySend at h
  generalize sends.foldl onSpdylaySendCb c = d at h hsize hev hstate
  dsimp only at h
  rw [if_neg hsize] at h
  -- outside a session all is put into cells; a pending session takes one cell
  split at h
  · next hnone =>
    obtain ⟨d₁, hflush, h⟩ := bind_eq_ok.mp h
    obtain ⟨_, -, hloop⟩ := bind_eq_ok.mp hflush
    obtain ⟨hflushed, hevent, hempty⟩ := flushLoop_flushed le_rfl hloop
    split at h
    · next hlen =>
      obtain ⟨-, rfl⟩ := maybeToggleWriteMonitoring_eq_ok h
      exact ⟨fun _ => ⟨fun _ => List.length_pos_iff.mp hlen, fun _ => rfl⟩, fun _ => hflushed⟩
    · next hlen =>
      cases h
      have hnil : c'.cellOutbuf = [] := List.length_eq_zero_iff.mp (by omega)
      refine ⟨fun _ => ⟨fun henabled => ?_, fun hne => absurd hnil hne⟩, fun _ => hflushed⟩
      rw [hevent] at henabled
      exact absurd (hempty hnil) (hev (by rw [hnone]; decide) henabled)
  · next hpend =>
    obtain ⟨x, hx, h⟩ := bind_eq_ok.mp h
    obtain ⟨_, hadded, h⟩ := bind_eq_ok.mp h
    obtain ⟨hne, -⟩ := maybeAddONEDataCellToOutbuf_added hx (check_eq_ok.mp hadded)
    obtain ⟨-, rfl⟩ := maybeToggleWriteMonitoring_eq_ok h
    refine ⟨fun _ => ⟨fun _ => hne, fun _ => rfl⟩, fun hnone => ?_⟩
    exact absurd (hnone.symm.trans (hstate.trans hpend)) (by decide)
  · next hact =>
    cases h
    exact ⟨fun hne => absurd hact hne, fun hnone => absurd (hact.symm.trans hnone) (by decide)⟩

theorem addedDummy_state (c : Chan) :
    c.addedDummy.defenseInfo.state = c.defenseInfo.state := rfl

theorem addedDummy_spdyOutbuf (c : Chan) : c.addedDummy.spdyOutbuf = c.spdyOutbuf := rfl

theorem addedDummy_cellOutbuf_ne (c : Chan) : c.addedDummy.cellOutbuf ≠ [] := by
  rw [addedDummy]
  exact List.append_ne_nil_of_right_ne_nil _ (encode_ne_nil _ _)

/-- A cell for a flag is queued with the write event on. -/
theorem addCellForFlag_noStranded {b : Bool} (hc : NoStranded c)
    (h : c.addCellForFlag b = .ok c') : NoStranded c' := by
  unfold addCellForFlag at h
  split at h
  · obtain ⟨x, hdrop, h⟩ := bind_eq_ok.mp h
    obtain ⟨_, -, h⟩ := bind_eq_ok.mp h
    obtain ⟨c₁, hadd, h⟩ := bind_eq_ok.mp h
    obtain ⟨-, -, rfl⟩ := addONEDummyCellToOutbuf_eq_ok hadd
    obtain ⟨-, rfl⟩ := maybeToggleWriteMonitoring_eq_ok h
    have hx : x.1.spdyOutbuf = c.spdyOutbuf ∧ x.1.defenseInfo.state = c.defenseInfo.state := by
      rcases maybeDropWholeDummyCellAtEndOutbuf_eq_ok hdrop with ⟨-, rfl⟩ | ⟨-, rfl⟩
      · exact ⟨rfl, rfl⟩
      · exact ⟨rfl, rfl⟩
    generalize hd : x.1.addedDummy = d
    refine ⟨fun _ => ⟨fun _ => ?_, fun _ => rfl⟩, fun hnone => ?_⟩
    · show d.cellOutbuf ≠ []
      rw [← hd]
      exact addedDummy_cellOutbuf_ne _
    · show d.spdyOutbuf = []
      have hnone : d.defenseInfo.state = .none := hnone
      rw [← hd, addedDummy_state, hx.2] at hnone
      rw [← hd, addedDummy_spdyOutbuf, hx.1]
      exact hc.flushed hnone
  · cases h
    exact hc

/-! ### Events -/

namespace NoStranded

/-- The invariant does not depend on anything else. -/
theorem congr (h : NoStranded c) (hstate : c'.defenseInfo.state = c.defenseInfo.state)
    (hev : c'.writeEvEnabled = c.writeEvEnabled) (hbuf : c'.cellOutbuf = c.cellOutbuf)
    (hspdy : c'.spdyOutbuf = c.spdyOutbuf) : NoStranded c' := by
  constructor
  · rw [hstate, hev, hbuf]
    exact h.queued
  · rw [hstate, hspdy]
    exact h.flushed

theorem aside (h : NoStranded c) (hm : Aside c c') : NoStranded c' := by
  refine h.congr ?_ ?_ ?_ ?_ <;> rw [hm.same]

/-- In a session the timer sends what is queued. -/
theorem of_active (hact : c.defenseInfo.state = .active) : NoStranded c :=
  ⟨fun hne => absurd hact hne, fun hnone => absurd (hact.symm.trans hnone) (by decide)⟩

theorem stopDefenseSession {rightNow : Bool} (h : NoStranded c)
    (hguard : c.defenseInfo.state = .pendingNextSocketSend → c.spdyOutbuf = [])
    (hstop : c.stopDefenseSession rightNow = .ok c') : NoStranded c' := by
  rcases stopDefenseSession_cases hstop with ⟨hne, rfl⟩ | ⟨hact, -, rfl⟩
  · refine ⟨fun _ => h.queued hne, fun _ => ?_⟩
    cases hs : c.defenseInfo.state with
    | none => exact h.flushed hs
    | pendingNextSocketSend => exact hguard hs
    | active => exact absurd hs hne
  · refine of_active ?_
    rw [Chan.stopping]
    dsimp only
    split <;> exact hact

theorem bufloTimerFired (hc : CellMode c) (hdef : DefenseInv c)
    (h : c.bufloTimerFired now sends sock = .ok c') : NoStranded c' := by
  obtain ⟨hact, hcases⟩ := bufloTimerFired_cases h
  have hev : c.writeEvEnabled = false := hdef.writeEv hact
  obtain ⟨_, -, h⟩ := bind_eq_ok.mp h
  rcases hcases with ⟨hdone, -⟩ | ⟨hdone, hlimit, hsrv, -⟩ | ⟨-, -, htick⟩
  · rw [if_pos hdone] at h
    obtain ⟨c₁, hpump, h⟩ := bind_eq_ok.mp h
    obtain ⟨c₂, hflag, h⟩ := bind_eq_ok.mp h
    obtain ⟨_, -, h⟩ := bind_eq_ok.mp h
    obtain ⟨_, -, h⟩ := bind_eq_ok.mp h
    cases h
    have hpumped : NoStranded c₁ := by
      refine pumpSpdySend_noStranded (c := c.finished) ?_ (fun _ henabled => ?_) hpump
      · rw [show c.finished.cellSize = c.cellSize from congrArg (·.1.1)
          (Control.finished c hact (isDoneDefendingSend_stopRequested hdone)).sendPart_eq]
        exact hc.cellSize
      · rw [Chan.finished] at henabled
        split at henabled <;> exact absurd (hev.symm.trans henabled) (by decide)
    exact (addCellForFlag_noStranded hpumped hflag).aside
      (checkNotifyADefenseSessionDone_aside c₂)
  · rw [if_neg (by simp [hdone]), if_pos hlimit, if_neg (by simp [hsrv])] at h
    obtain ⟨c₁, hpump, h⟩ := bind_eq_ok.mp h
    obtain ⟨c₂, hflag, h⟩ := bind_eq_ok.mp h
    obtain ⟨_, -, h⟩ := bind_eq_ok.mp h
    cases h
    refine addCellForFlag_noStranded ?_ hflag
    refine pumpSpdySend_noStranded (c := c.autoStopped) hc.cellSize (fun _ henabled => ?_) hpump
    exact absurd (hev.symm.trans henabled) (by decide)
  · exact of_active ((defendOneTick_outs hact htick).state_eq.trans hact)

theorem accountWrite {rv : ℤ} (h : NoStranded c) (hwrite : c.accountWrite rv sock = .ok c') :
    NoStranded c' := by
  rcases accountWrite_eq_ok hwrite with ⟨-, -, rfl⟩ | ⟨-, rfl | rfl⟩
  · exact h.congr rfl rfl rfl rfl
  · exact h
  · exact h.congr rfl rfl rfl rfl

/-- After a write the write event is switched and a dummy cell at the end dropped.  The event
is on just when bytes other than that dummy cell remain. -/
theorem toggled_dropped {mode : ForceToggleMode} {c₁ : Chan} {x : Chan × Bool}
    (hflushed : c.defenseInfo.state = .none → c.spdyOutbuf = [])
    (htoggle : c.maybeToggleWriteMonitoring mode = .ok c₁)
    (hdrop : c₁.maybeDropWholeDummyCellAtEndOutbuf true = .ok x)
    (hmode : c.toggleValue mode = decide (0 < c.amntToWrite)) : NoStranded x.1 := by
  obtain ⟨-, rfl⟩ := maybeToggleWriteMonitoring_eq_ok htoggle
  rcases maybeDropWholeDummyCellAtEndOutbuf_eq_ok hdrop with ⟨hd, rfl⟩ | ⟨hd, rfl⟩
  · have hd' : c.wholeDummyCellAtEndOutbuf = false := hd
    refine ⟨fun _ => ?_, hflushed⟩
    show c.toggleValue mode = true ↔ c.cellOutbuf ≠ []
    rw [hmode, amntToWrite, hd', decide_eq_true_iff]
    exact List.length_pos_iff
  · have hd' : c.wholeDummyCellAtEndOutbuf = true := hd.marked
    refine ⟨fun _ => ?_, hflushed⟩
    show c.toggleValue mode = true ↔
      c.cellOutbuf.take (c.cellOutbuf.length - c.cellSize) ≠ []
    rw [hmode, amntToWrite, hd', if_pos rfl, decide_eq_true_iff, ← List.length_pos_iff,
      List.length_take]
    omega

/-- **A write outside a session** leaves nothing stranded. -/
theorem sendWhileNotActive (hsize : c.cellSize ≠ 0)
    (hflushed : c.defenseInfo.state = .none → c.spdyOutbuf = [])
    (h : c.sendWhileNotActive sock = .ok c') : NoStranded c' := by
  have hvalue : ∀ d : Chan, d.cellSize ≠ 0 →
      d.toggleValue .none = decide (0 < d.cellOutbuf.length) := by
    intro d hd
    rw [toggleValue, if_pos hd]
  unfold Chan.sendWhileNotActive at h
  split at h
  · next hpos =>
    have hle : c.amntToWrite ≤ c.cellOutbuf.length := by
      unfold amntToWrite
      split <;> omega
    rcases evbufferWriteAtmost_cases c c.amntToWrite sock with ⟨n, hn, hn', -, e⟩ | ⟨rv, hrv, e⟩
    · simp only [e] at h
      obtain ⟨c₁, htoggle, h⟩ := bind_eq_ok.mp h
      obtain ⟨x, hdrop, h⟩ := bind_eq_ok.mp h
      obtain ⟨_, -, h⟩ := bind_eq_ok.mp h
      refine (toggled_dropped (by exact hflushed) htoggle hdrop ?_).accountWrite h
      cases hd : c.wholeDummyCellAtEndOutbuf
      · -- all that is queued was offered
        rw [if_neg (by simp), hvalue]
        · simp [amntToWrite]
        · exact hsize
      · -- with a dummy cell at the end, all in front of it was offered
        by_cases hall : n = c.amntToWrite
        · rw [if_pos ⟨by rw [hall], rfl⟩]
          have hzero : c.cellOutbuf.length - n - c.cellSize = 0 := by
            rw [hall, amntToWrite, hd, if_pos rfl]
            omega
          simp [toggleValue, amntToWrite, hzero]
        · rw [if_neg (by omega), hvalue]
          · rw [amntToWrite, hd, if_pos rfl] at hall hn'
            simp only [amntToWrite, if_true, List.length_drop, decide_eq_decide]
            omega
          · exact hsize
    · -- nothing was written, and what was asked for is the same
      simp only [e] at h
      obtain ⟨c₁, htoggle, h⟩ := bind_eq_ok.mp h
      obtain ⟨x, hdrop, h⟩ := bind_eq_ok.mp h
      obtain ⟨_, -, h⟩ := bind_eq_ok.mp h
      refine (toggled_dropped (by exact hflushed) htoggle hdrop ?_).accountWrite h
      have hamnt : (c.log (.wrote c.amntToWrite rv [])).amntToWrite = c.amntToWrite := rfl
      have hbuf : (c.log (.wrote c.amntToWrite rv [])).cellOutbuf = c.cellOutbuf := rfl
      rw [if_neg (by omega), hvalue, hamnt, hbuf, decide_eq_decide]
      · omega
      · exact hsize
  · next hzero =>
    obtain ⟨_, -, h⟩ := bind_eq_ok.mp h
    obtain ⟨c₁, htoggle, h⟩ := bind_eq_ok.mp h
    obtain ⟨x, hdrop, h⟩ := bind_eq_ok.mp h
    obtain ⟨_, -, h⟩ := bind_eq_ok.mp h
    cases h
    exact toggled_dropped hflushed htoggle hdrop (decide_eq_false hzero).symm

theorem onSocketWritecb (hc : CellMode c) (h : NoStranded c)
    (hwrite : c.onSocketWritecb now sock = .ok c') : NoStranded c' := by
  obtain ⟨-, ⟨-, -, -, hsend⟩ | ⟨hnone, hsend⟩⟩ := onSocketWritecb_cases hc hwrite
  · refine of_active ?_
    rw [(sendCellOutbuf_outs (by simp [begun]) hsend).state_eq]
    rfl
  · obtain ⟨_, -, hsend⟩ := bind_eq_ok.mp hsend
    rw [if_neg (by rw [hnone]; decide)] at hsend
    exact sendWhileNotActive hc.cellSize h.flushed hsend

/-- A cell that is read starts a session, or leaves the sending side as it is. -/
theorem handleFlags {flags : UInt8} (h : NoStranded c)
    (hsrv : c.isClientSide = false → c.defenseInfo.state ≠ .pendingNextSocketSend)
    (hflags : c.handleFlags now flags = .ok c') : NoStranded c' := by
  rcases handleFlags_cases hflags with ⟨-, rfl⟩ | ⟨c₁, c₂, c₃, ha, -, hs, hp, rfl⟩
  · exact h
  have h₁ : NoStranded c₁ ∧ c₁.isClientSide = c.isClientSide ∧
      c₁.defenseInfo.state = c.defenseInfo.state := by
    rcases doIf_eq_ok ha with ⟨-, ha⟩ | ⟨-, rfl⟩
    · obtain ⟨-, ⟨-, -, -, rfl⟩ | ⟨-, rfl⟩⟩ := handleAutoStopped_cases ha
      · exact ⟨h.congr rfl rfl rfl rfl, rfl, rfl⟩
      · exact ⟨h, rfl, rfl⟩
    · exact ⟨h, rfl, rfl⟩
  have h₂ : NoStranded c₂ ∧
      (c₂.isClientSide = false → c₂.defenseInfo.state ≠ .pendingNextSocketSend) := by
    rcases doIf_eq_ok hs with ⟨-, hs⟩ | ⟨-, rfl⟩
    · obtain ⟨-, -, -, rfl⟩ := handleStart_eq_ok hs
      exact ⟨of_active rfl, fun _ => by simp [begun]⟩
    · refine ⟨h₁.1, ?_⟩
      rw [h₁.2.1, h₁.2.2]
      exact hsrv
  have h₃ : NoStranded c₃ := by
    rcases doIf_eq_ok hp with ⟨-, hp⟩ | ⟨-, rfl⟩
    · obtain ⟨hserver, hstop⟩ := handleStop_eq_ok hp
      exact h₂.1.stopDefenseSession (fun hpend => absurd hpend (h₂.2 hserver)) hstop
    · exact h₂.1
  exact h₃.congr rfl rfl rfl rfl

theorem handleInputCell (h : NoStranded c)
    (hsrv : c.isClientSide = false → c.defenseInfo.state ≠ .pendingNextSocketSend)
    (hcell : c.handleInputCell now = .ok c') : NoStranded c' := by
  obtain ⟨-, c₁, c₂, c₃, hflags, hdata, hdone, rfl⟩ := handleInputCell_cases hcell
  have h₀ : NoStranded (c.log (.cellHandled (c.cellInbuf.take c.peerCellSize))) :=
    h.congr rfl rfl rfl rfl
  have h₂ : NoStranded c₂ := (h₀.handleFlags hsrv hflags).aside (handleData_aside hdata)
  have h₃ : NoStranded c₃ := by
    rcases doIf_eq_ok hdone with ⟨-, hdone⟩ | ⟨-, rfl⟩
    · obtain ⟨-, rfl⟩ := handleDone_eq_ok hdone
      refine NoStranded.aside ?_ (checkNotifyADefenseSessionDone_aside _)
      exact h₂.congr rfl rfl rfl rfl
    · exact h₂
  exact h₃.congr rfl rfl rfl rfl

/-- **Reading leaves nothing stranded.**  The loop carries along that the server side is never
armed. -/
theorem readCells (hset : c.Settled) (hdef : DefenseInv c) (hbuf : OutBufferInv c)
    (h : NoStranded c) (hread : c.readCells now = .ok c') : NoStranded c' := by
  have hsrv : ∀ d, Micros c d →
      d.isClientSide = false → d.defenseInfo.state ≠ .pendingNextSocketSend := by
    intro d hm hserver hpend
    have hclient := ((hdef.micros hbuf hm).pending hpend).1
    exact absurd (hserver.symm.trans hclient) (by decide)
  refine (readLoop_induct (P := fun d => (Micros c d ∧ d.Settled) ∧ NoStranded d) ?_ ?_
    ⟨⟨.refl, hset⟩, h⟩ (readCells_eq_ok hread).2).2
  · rintro d ⟨⟨hm, hs⟩, hd⟩ - -
    have hstep : Aside d { d with cellReadInfo := CellReadInfo.parse d.cellInbuf } :=
      ⟨rfl, [], by simp, by simp⟩
    obtain ⟨hm', hs'⟩ := hstep.calm hs
    exact ⟨⟨hm.trans hm', hs'⟩, hd.aside hstep⟩
  · rintro d d₁ ⟨⟨hm, hs⟩, hd⟩ - - hcell
    have hstep : Aside d₁ { d₁ with cellReadInfo := {} } := ⟨rfl, [], by simp, by simp⟩
    obtain ⟨hm', hs'⟩ := ((handleInputCell_calm hcell).trans hstep.calm) hs
    exact ⟨⟨hm.trans hm', hs'⟩, (hd.handleInputCell (hsrv d hm) hcell).aside hstep⟩

theorem handleFailedSocketIo {rv : ℤ} {errno : Errno} {b : Bool} (h : NoStranded c)
    (hfail : c.handleFailedSocketIo rv errno b = .ok c') : NoStranded c' := by
  unfold Chan.handleFailedSocketIo at hfail
  split at hfail
  · cases hfail
    exact h.congr rfl rfl rfl rfl
  · split at hfail
    · cases hfail
      exact h
    · obtain ⟨_, -, hfail⟩ := bind_eq_ok.mp hfail
      cases hfail
      exact h
    · cases hfail
      exact h.congr rfl rfl rfl rfl

/-- **Every event leaves nothing stranded**, unless it stops an armed session while bytes wait
for cells. -/
theorem step {e : Event} (hreach : Reachable c) (h : NoStranded c)
    (hguard : c.StopsNoWaitingBytes e) (hstep : Step c e c') : NoStranded c' := by
  obtain ⟨-, -, -, hc, hset⟩ := hreach.micros
  have hdef := hreach.defenseInv
  obtain ⟨-, hstep⟩ := hstep.enabled
  cases e with
  | pumpSpdySend sends =>
    refine pumpSpdySend_noStranded hc.cellSize (fun hne hev => ?_) hstep
    exact (h.queued hne).mp hev
  | startDefenseSession now =>
    obtain ⟨-, -, rfl⟩ := startDefenseSession_eq_ok hstep
    exact of_active rfl
  | setAutoStartDefenseSessionOnNextSend =>
    obtain ⟨hmay, rfl⟩ := setAutoStartDefenseSessionOnNextSend_eq_ok hstep
    refine ⟨fun _ => ?_, fun hnone => absurd hnone ?_⟩
    · exact h.queued (by rw [hmay.state]; decide)
    · simp [armed, raiseFlag, DefenseInfo.need]
  | stopDefenseSession rightNow =>
    exact h.stopDefenseSession (hguard rightNow rfl) hstep
  | bufloTimerFired now sends sock => exact bufloTimerFired hc hdef hstep
  | socketWritable now sock => exact h.onSocketWritecb hc hstep
  | socketReadable now res =>
    rcases onSocketReadcb_cases hc hstep with ⟨_, _, hfail⟩ | ⟨bs, -, -, -, hread⟩ | ⟨-, haside⟩
    · exact h.handleFailedSocketIo hfail
    · have hin := readIn_aside c bs
      exact (h.aside hin).readCells (hin.calm hset).2 (hdef.aside hin)
        (hreach.outBufferInv.micro (.aside hin)) hread
    · exact h.aside haside

end NoStranded

theorem Established.noStranded (h : Established c) : NoStranded c := by
  obtain ⟨-, hspdy, -, hcell⟩ := h.buffers
  exact ⟨fun _ => by simp [h.events.1, hcell], fun _ => hspdy⟩

/-- Stopping an armed session while bytes wait strands them. -/
theorem stranded_of_stop {e : Event} (hstep : Step c e c') (hguard : ¬ c.StopsNoWaitingBytes e) :
    ¬ NoStranded c' := by
  simp only [StopsNoWaitingBytes, not_forall] at hguard
  obtain ⟨rightNow, rfl, hpend, hne⟩ := hguard
  have hstop : c.stopDefenseSession rightNow = .ok c' := hstep.enabled.2
  intro h
  rcases stopDefenseSession_cases hstop with ⟨-, rfl⟩ | ⟨hact, -⟩
  · exact hne (h.flushed rfl)
  · exact absurd (hpend.symm.trans hact) (by decide)

/-- **No output is stranded in a run in which no armed session is stopped while bytes wait in
`spdy_outbuf_`**, and the first step that does so strands them. -/
theorem no_stranded_output {c₀ : Chan} {es : List Event} (hest : Established c₀)
    (hrun : Run (Guarded StopsNoWaitingBytes Step) c₀ es c) :
    NoStranded c ∧ ∀ e c', Step c e c' → (NoStranded c' ↔ c.StopsNoWaitingBytes e) := by
  obtain ⟨hreach, hinv⟩ := hrun.invariant (P := fun d => Reachable d ∧ NoStranded d)
    (fun d e d' ⟨hreach, hd⟩ ⟨hguard, hstep⟩ =>
      ⟨hreach.snoc hstep, hd.step hreach hguard hstep⟩)
    ⟨⟨c₀, [], hest, .nil c₀⟩, hest.noStranded⟩
  refine ⟨hinv, fun e c' hstep => ⟨fun h => ?_, fun hguard => hinv.step hreach hguard hstep⟩⟩
  by_contra hguard
  exact stranded_of_stop hstep hguard h

/-- A load of 748 bytes is pumped while a session is armed, which puts 747 of them in the
first cell, and then the session is stopped: one byte is stranded. -/
theorem no_stranded_output_stopped :
    ∃ c, exec step (fresh true) [.setAutoStartDefenseSessionOnNextSend,
        .pumpSpdySend [List.replicate 748 66], .stopDefenseSession false] = .ok c ∧
      Reachable c ∧ c.defenseInfo.state = .none ∧ c.spdyOutbuf = [66] ∧ ¬ NoStranded c := by
  obtain ⟨c, hrun, hc⟩ := exists_of_returns
    (x := exec step (fresh true) [.setAutoStartDefenseSessionOnNextSend,
      .pumpSpdySend [List.replicate 748 66], .stopDefenseSession false])
    (p := fun c => decide (c.defenseInfo.state = .none ∧ c.spdyOutbuf = [66]))
    (by decide +kernel)
  obtain ⟨hnone, hspdy⟩ := of_decide_eq_true hc
  refine ⟨c, hrun, exec_reachable (fresh_established true) hrun, hnone, hspdy, fun h => ?_⟩
  exact absurd (hspdy.symm.trans (h.flushed hnone)) (by simp)

/-- With 747 bytes the same stop leaves a full cell queued and the write event on. -/
theorem no_stranded_output_full : ∃ c : Chan, c.cellOutbuf.length = 750 ∧
    c.defenseInfo.state = .none ∧ c.writeEvEnabled = true ∧ c.spdyOutbuf = [] := by
  obtain ⟨⟨c₁, c₂, c⟩, hrun, hc⟩ := exists_of_returns
    (x := do
      let c₁ ← step (fresh true) .setAutoStartDefenseSessionOnNextSend
      let c₂ ← step c₁ (.pumpSpdySend [List.replicate 747 66])
      let c ← step c₂ (.stopDefenseSession false)
      return (c₁, c₂, c))
    (p := fun r => decide (r.2.1.spdyOutbuf = [] ∧ r.2.2.defenseInfo.state = .none ∧
      r.2.2.cellOutbuf.length = 750))
    (by decide +kernel)
  obtain ⟨d₁, h₁, hrun⟩ := bind_eq_ok.mp hrun
  obtain ⟨d₂, h₂, hrun⟩ := bind_eq_ok.mp hrun
  obtain ⟨d, h₃, hrun⟩ := bind_eq_ok.mp hrun
  cases hrun
  obtain ⟨hspdy, hnone, hlen⟩ : c₂.spdyOutbuf = [] ∧ c.defenseInfo.state = .none ∧
    c.cellOutbuf.length = 750 := of_decide_eq_true hc
  have harm : (fresh true).StopsNoWaitingBytes .setAutoStartDefenseSessionOnNextSend :=
    fun _ he => nomatch he
  have hpump : c₁.StopsNoWaitingBytes (.pumpSpdySend [List.replicate 747 66]) :=
    fun _ he => nomatch he
  have hguarded : Run (Guarded StopsNoWaitingBytes Step) (fresh true) _ c :=
    .cons ⟨harm, h₁⟩ (.cons ⟨hpump, h₂⟩ (.cons ⟨fun _ _ _ => hspdy, h₃⟩ (.nil c)))
  have hne : c.defenseInfo.state ≠ .active := by
    rw [hnone]
    decide
  obtain ⟨hinv, -⟩ := no_stranded_output (fresh_established true) hguarded
  have hqueued : c.cellOutbuf ≠ [] := List.length_pos_iff.mp (by omega)
  exact ⟨c, hlen, hnone, (hinv.queued hne).mpr hqueued, hinv.flushed hnone⟩

end Chan

end ShadowBrowser
