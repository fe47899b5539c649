/-
The defense state and what goes with it.

`DefenseInv` says which flags can wait in which defense state, when the timer runs,
when the write event is monitored, and what the out buffer holds while a session is
armed.

* **`DefenseInv.micro`** — every small step preserves it (together with
  `OutBufferInv`);
* **`Reachable.defenseInv`** — it holds in every reachable state.
-/
import ShadowBrowser.OutBuffer

namespace ShadowBrowser

open Checked Runs

namespace Chan

variable {c c' : Chan}

/-- While a session is armed: nothing is queued yet and START is still waiting, or exactly
the first cell of the session is queued, unsent. -/
def ArmedQueue (c : Chan) : Prop :=
  (c.defenseInfo.numDataCellsAdded = 0 ∧ c.defenseInfo.needStartFlagInNextCell = true ∧
      c.cellOutbuf = []) ∨
    (c.defenseInfo.numDataCellsAdded = 1 ∧ c.defenseInfo.needStartFlagInNextCell = false ∧
      ∃ ks k, keptCells c.journal = ks ++ [k] ∧ c.cellOutbuf = k.encode c.cellSize ∧
        k.has .start = true ∧ k.has .defensive = true)

/-- What goes with the defense state. -/
structure DefenseInv (c : Chan) : Prop where
  needStart : c.defenseInfo.needStartFlagInNextCell = true → c.isClientSide = true ∧
    (c.defenseInfo.state = .pendingNextSocketSend ∨
      (c.defenseInfo.state = .active ∧ c.defenseInfo.stopRequested = false))
  needStop : c.defenseInfo.needStopFlagInNextCell = true → c.isClientSide = true ∧
    (c.defenseInfo.state = .none ∨
      (c.defenseInfo.state = .active ∧ c.defenseInfo.stopRequested = true))
  needAutoStopped : c.defenseInfo.needAutoStoppedFlagInNextCell = true →
    c.isClientSide = false ∧ c.defenseInfo.state = .none ∧
      c.defenseInfo.needDoneFlagInNextCell = false
  needDone : c.defenseInfo.needDoneFlagInNextCell = true →
    c.isClientSide = false ∧ c.defenseInfo.state = .none
  stopRequested : c.defenseInfo.stopRequested = true → c.defenseInfo.state = .active
  idle : c.defenseInfo.state = .none →
    c.defenseInfo.numWriteAttempts = 0 ∧ c.defenseInfo.numDataCellsAdded = 0
  timer : c.timerRunning = true ↔ c.defenseInfo.state = .active
  writeEv : c.defenseInfo.state = .active → c.writeEvEnabled = false
  pending : c.defenseInfo.state = .pendingNextSocketSend →
    c.isClientSide = true ∧ c.wholeDummyCellAtEndOutbuf = false ∧ c.ArmedQueue

namespace DefenseInv

/-- A state in which the defense is off satisfies the invariant if its flags do. -/
theorem off (hstate : c.defenseInfo.state = .none) (hreq : c.defenseInfo.stopRequested = false)
    (hidle : c.defenseInfo.numWriteAttempts = 0 ∧ c.defenseInfo.numDataCellsAdded = 0)
    (htimer : c.timerRunning = false) (hstart : c.defenseInfo.needStartFlagInNextCell = false)
    (hstop : c.defenseInfo.needStopFlagInNextCell = true → c.isClientSide = true)
    (hauto : c.defenseInfo.needAutoStoppedFlagInNextCell = true →
      c.isClientSide = false ∧ c.defenseInfo.needDoneFlagInNextCell = false)
    (hdone : c.defenseInfo.needDoneFlagInNextCell = true → c.isClientSide = false) :
    DefenseInv c := by
  constructor
  · intro h
    exact absurd h (by simp [hstart])
  · exact fun h => ⟨hstop h, .inl hstate⟩
  · exact fun h => ⟨(hauto h).1, hstate, (hauto h).2⟩
  · exact fun h => ⟨hdone h, hstate⟩
  · intro h
    exact absurd h (by simp [hreq])
  · exact fun _ => hidle
  · simp [htimer, hstate]
  · intro h
    exact absurd h (by simp [hstate])
  · intro h
    exact absurd h (by simp [hstate])

theorem needStart_false (h : DefenseInv c) (hs : c.defenseInfo.state = .none) :
    c.defenseInfo.needStartFlagInNextCell = false := by
  by_contra hn
  obtain ⟨-, hp | ⟨ha, -⟩⟩ := h.needStart (by simpa using hn)
  · exact absurd hp (by simp [hs])
  · exact absurd ha (by simp [hs])

theorem needStop_client (h : DefenseInv c) (hsrv : c.isClientSide = false) :
    c.defenseInfo.needStopFlagInNextCell = false := by
  by_contra hn
  exact absurd (h.needStop (by simpa using hn)).1 (by simp [hsrv])

theorem needAutoStopped_active (h : DefenseInv c) (hact : c.defenseInfo.state = .active) :
    c.defenseInfo.needAutoStoppedFlagInNextCell = false := by
  by_contra hn
  exact absurd (h.needAutoStopped (by simpa using hn)).2.1 (by simp [hact])

theorem needDone_active (h : DefenseInv c) (hact : c.defenseInfo.state = .active) :
    c.defenseInfo.needDoneFlagInNextCell = false := by
  by_contra hn
  exact absurd (h.needDone (by simpa using hn)).2 (by simp [hact])

/-- The invariant does not depend on how many writes were attempted in a session, nor on the
fields that the receiving side keeps in `defense_info_`. -/
theorem of_flags (h : DefenseInv c) (hcl : c'.isClientSide = c.isClientSide)
    (hneeds : ∀ f, c'.defenseInfo.needs f = true → c.defenseInfo.needs f = true)
    (hstate : c'.defenseInfo.state = c.defenseInfo.state)
    (hreq : c'.defenseInfo.stopRequested = c.defenseInfo.stopRequested)
    (hidle : c.defenseInfo.state = .none →
      c'.defenseInfo.numWriteAttempts = 0 ∧ c'.defenseInfo.numDataCellsAdded = 0)
    (htimer : c'.timerRunning = c.timerRunning)
    (hev : c.defenseInfo.state = .active → c'.writeEvEnabled = false)
    (hpend : c.defenseInfo.state = .pendingNextSocketSend →
      c'.wholeDummyCellAtEndOutbuf = false ∧ c'.ArmedQueue) : DefenseInv c' := by
  constructor
  · intro hn
    rw [hcl, hstate, hreq]
    exact h.needStart (hneeds .start hn)
  · intro hn
    rw [hcl, hstate, hreq]
    exact h.needStop (hneeds .stop hn)
  · -- a flag that is still wanted was wanted before
    intro hn
    obtain ⟨hsrv, hnone, hdone⟩ := h.needAutoStopped (hneeds .autoStopped hn)
    refine ⟨hcl ▸ hsrv, hstate ▸ hnone, ?_⟩
    by_contra hd
    exact absurd (hneeds .done (by simpa [DefenseInfo.needs] using hd)) (by simp [DefenseInfo.needs, hdone])
  · intro hn
    rw [hcl, hstate]
    exact h.needDone (hneeds .done hn)
  · rw [hreq, hstate]
    exact h.stopRequested
  · rw [hstate]
    exact hidle
  · rw [htimer, hstate]
    exact h.timer
  · rw [hstate]
    exact hev
  · rw [hstate, hcl]
    exact fun hp => ⟨(h.pending hp).1, hpend hp⟩

/-- The queue of an armed session, where nothing it depends on changes. -/
theorem armedQueue_congr (h : DefenseInv c) (hdef : c'.defenseInfo = c.defenseInfo)
    (hwhole : c'.wholeDummyCellAtEndOutbuf = c.wholeDummyCellAtEndOutbuf)
    (hsize : c'.cellSize = c.cellSize) (hout : c'.cellOutbuf = c.cellOutbuf)
    (hk : keptCells c'.journal = keptCells c.journal)
    (hp : c.defenseInfo.state = .pendingNextSocketSend) :
    c'.wholeDummyCellAtEndOutbuf = false ∧ c'.ArmedQueue := by
  obtain ⟨-, hw, hq⟩ := h.pending hp
  refine ⟨hwhole ▸ hw, ?_⟩
  rw [ArmedQueue, hdef, hsize, hout, hk]
  exact hq

/-- A step that leaves the defense alone. -/
theorem of_same (h : DefenseInv c) (hcl : c'.isClientSide = c.isClientSide)
    (hdef : c'.defenseInfo = c.defenseInfo) (htimer : c'.timerRunning = c.timerRunning)
    (hev : c.defenseInfo.state = .active → c'.writeEvEnabled = false)
    (hpend : c.defenseInfo.state = .pendingNextSocketSend →
      c'.wholeDummyCellAtEndOutbuf = false ∧ c'.ArmedQueue) : DefenseInv c' :=
  h.of_flags hcl (by simp [hdef]) (by rw [hdef]) (by rw [hdef]) (by rw [hdef]; exact h.idle)
    htimer hev hpend

/-- The first cell of an armed session is added. -/
theorem addedData (h : DefenseInv c) (hadd : c.MayAddData) : DefenseInv c.addedData := by
  have hneeds : ∀ f, c.addedData.defenseInfo.needs f = true → c.defenseInfo.needs f = true :=
    fun f => (Out.addedData c hadd).needs_mono
  refine h.of_flags rfl hneeds rfl rfl ?_ rfl h.writeEv ?_
  · intro hnone
    obtain ⟨ha, hn⟩ := h.idle hnone
    refine ⟨ha, ?_⟩
    simp [Chan.addedData, hnone, hn]
  · intro hp
    obtain ⟨-, hw, hq⟩ := h.pending hp
    refine ⟨hw, ?_⟩
    rcases hq with ⟨hzero, hstart, hout⟩ | ⟨hone, -⟩
    · refine .inr ⟨?_, rfl, keptCells c.journal, c.dataCell, ?_, ?_, ?_, ?_⟩
      · simp [Chan.addedData, hp, hzero]
      · simp [Chan.addedData, keepCell]
      · simp [Chan.addedData, hout]
      · rw [dataCell_has .start (by decide)]
        exact hstart
      · rw [Cell.has, dataCell, testFlag_flaggedByte c _ (getCellFlags_setCellType 0).1]
        simp [mem_defensiveFlag, hp]
    · exact absurd (hadd.first hp) (by simp [hone])

/-- **Every step of the sending side preserves the invariant.** -/
theorem out (h : DefenseInv c) (hout : Out c c') : DefenseInv c' := by
  have hneeds : ∀ f, c'.defenseInfo.needs f = true → c.defenseInfo.needs f = true :=
    fun f => hout.needs_mono
  cases hout with
  | spdySent bs =>
    refine h.of_same rfl rfl rfl h.writeEv fun hp => h.armedQueue_congr rfl rfl rfl rfl ?_ hp
    simp [onSpdylaySendCb, keepCell]
  | dropped n hd =>
    refine h.of_same rfl rfl rfl h.writeEv fun hp => ?_
    exact absurd hd.marked (by simp [(h.pending hp).2.1])
  | addedData hadd => exact h.addedData hadd
  | addedDummy hd hf hp =>
    exact h.of_flags rfl hneeds rfl rfl h.idle rfl h.writeEv fun hp' => absurd hp' hp
  | took offered n hn hle hi hp =>
    exact h.of_same rfl rfl rfl h.writeEv fun hp' => absurd hp' hp
  | refused offered rv =>
    refine h.of_same rfl rfl rfl h.writeEv fun hp => h.armedQueue_congr rfl rfl rfl rfl ?_ hp
    simp [log, keepCell]
  | attempted hact =>
    refine h.of_flags rfl hneeds rfl rfl ?_ rfl h.writeEv ?_
    · intro hnone
      exact absurd hact (by simp [hnone])
    · intro hp
      exact absurd hact (by simp [hp])
  | toggled b hb =>
    exact h.of_same rfl rfl rfl hb fun hp => h.armedQueue_congr rfl rfl rfl rfl rfl hp
  | avoided n =>
    exact h.of_same rfl rfl rfl h.writeEv fun hp => h.armedQueue_congr rfl rfl rfl rfl rfl hp
  | closed =>
    refine h.of_same rfl rfl rfl h.writeEv fun hp => h.armedQueue_congr rfl rfl rfl rfl ?_ hp
    simp [onSocketClosed, chStatusCb, log, keepCell]

/-- **Every change of the defense state preserves the invariant.** -/
theorem control (h : DefenseInv c) (hbuf : OutBufferInv c) (hctl : Control c c') :
    DefenseInv c' := by
  cases hctl with
  | begun now hset ht hstate =>
    have hnotactive : c.defenseInfo.state ≠ .active := by
      rcases hstate with hs | ⟨hs, -⟩ <;> simp [hs]
    have hreq : c.defenseInfo.stopRequested = false := by
      by_contra hr
      exact hnotactive (h.stopRequested (by simpa using hr))
    constructor
    · intro hn
      exact ⟨(h.needStart hn).1, .inr ⟨rfl, hreq⟩⟩
    · intro hn
      exact absurd (hset.stop hn) hnotactive
    · intro hn
      exact absurd hn (by simp [Chan.begun, hset.autoStopped])
    · intro hn
      exact absurd hn (by simp [Chan.begun, hset.done])
    · exact fun _ => rfl
    · exact fun hs => absurd hs (by simp [Chan.begun])
    · simp [Chan.begun]
    · exact fun _ => rfl
    · exact fun hs => absurd hs (by simp [Chan.begun])
  | armed hset hmay =>
    have hnotactive : c.defenseInfo.state ≠ .active := by simp [hmay.state]
    constructor
    · exact fun _ => ⟨hmay.client, .inl rfl⟩
    · intro hn
      exact absurd (hset.stop hn) hnotactive
    · intro hn
      exact absurd hn (by simp [Chan.armed, raiseFlag, DefenseInfo.need, hset.autoStopped])
    · intro hn
      exact absurd hn (by simp [Chan.armed, raiseFlag, DefenseInfo.need, hset.done])
    · intro hr
      exact absurd (h.stopRequested hr) hnotactive
    · exact fun hs => absurd hs (by simp [Chan.armed, raiseFlag, DefenseInfo.need])
    · have ht := h.timer
      rw [hmay.state] at ht
      simpa [Chan.armed, raiseFlag, DefenseInfo.need] using ht
    · exact fun hs => absurd hs (by simp [Chan.armed, raiseFlag, DefenseInfo.need])
    · intro _
      have hempty : c.cellOutbuf = [] := hmay.cellOutbuf
      refine ⟨hmay.client, ?_, .inl ⟨(h.idle hmay.state).2, rfl, hempty⟩⟩
      -- a marked dummy cell would be in the buffer
      by_contra hw
      have hlen := (hbuf.dummy (by simpa [Chan.armed, raiseFlag] using hw)).1
      have := hbuf.cellSize_pos
      rw [hempty, List.length_nil] at hlen
      omega
  | gaveUp hset hstate =>
    have ht : c.timerRunning = false := by
      by_contra ht
      exact hstate (h.timer.mp (by simpa using ht))
    refine off rfl rfl ⟨rfl, rfl⟩ ht rfl ?_ ?_ ?_ <;>
      exact fun hn => absurd hn Bool.false_ne_true
  | stopping hact hr =>
    have hdone := h.needDone_active hact
    have hauto := h.needAutoStopped_active hact
    rw [Chan.stopping]
    dsimp only
    constructor
    · intro hn
      split at hn <;> exact absurd hn Bool.false_ne_true
    · split
      · next hcl => exact fun _ => ⟨hcl, .inr ⟨hact, rfl⟩⟩
      · exact fun hn => ⟨(h.needStop hn).1, .inr ⟨hact, rfl⟩⟩
    · intro hn
      split at hn <;> exact absurd hn (by simp [putDefenseInfo, raiseFlag, DefenseInfo.need, hauto])
    · intro hn
      split at hn <;> exact absurd hn (by simp [putDefenseInfo, raiseFlag, DefenseInfo.need, hdone])
    · intro _
      split <;> exact hact
    · intro hs
      split at hs <;> exact absurd (hact.symm.trans hs) (by simp)
    · split <;> exact h.timer
    · intro _
      split <;> exact h.writeEv hact
    · intro hs
      split at hs <;> exact absurd (hact.symm.trans hs) (by simp)
  | finished hact hr =>
    rw [Chan.finished]
    split
    · next hcl =>
      refine off rfl rfl ⟨rfl, rfl⟩ rfl rfl (fun _ => hcl) ?_ ?_ <;>
        exact fun hn => absurd hn Bool.false_ne_true
    · next hcl =>
      have hsrv : c.isClientSide = false := Bool.eq_false_iff.mpr hcl
      refine off rfl rfl ⟨rfl, rfl⟩ rfl rfl ?_ ?_ (fun _ => hsrv)
      · intro hn
        exact absurd hn (by simp [raiseFlag, endDefense, log, putDefenseInfo, DefenseInfo.need,
          h.needStop_client hsrv])
      · exact fun hn => absurd hn Bool.false_ne_true
  | autoStopped hact hsrv =>
    refine off rfl rfl ⟨rfl, rfl⟩ rfl rfl ?_ (fun _ => ⟨hsrv, rfl⟩) ?_ <;>
      exact fun hn => absurd hn Bool.false_ne_true
  | restarting hact hr hcl hn =>
    constructor
    · exact fun _ => ⟨hcl, .inr ⟨hact, hr⟩⟩
    · exact fun hs => h.needStop hs
    · exact fun hs => h.needAutoStopped hs
    · exact fun hs => h.needDone hs
    · exact h.stopRequested
    · exact h.idle
    · exact h.timer
    · exact h.writeEv
    · exact fun hs => absurd (hact.symm.trans hs) (by simp)

theorem aside (h : DefenseInv c) (hm : Aside c c') : DefenseInv c' := by
  have hk : keptCells c'.journal = keptCells c.journal :=
    congrArg (·.2.2.2.2.2.2) hm.sendPart_eq
  have hq : c.defenseInfo.state = .pendingNextSocketSend →
      c'.wholeDummyCellAtEndOutbuf = false ∧ c'.ArmedQueue := by
    intro hp
    obtain ⟨-, hw, hq⟩ := h.pending hp
    rw [ArmedQueue, hk, hm.same]
    exact ⟨hw, hq⟩
  refine h.of_flags ?_ (fun f => ?_) ?_ ?_ (fun hs => ?_) ?_ (fun hs => ?_) hq
  · rw [hm.same]
  · rw [hm.same]
    cases f <;> exact id
  · rw [hm.same]
  · rw [hm.same]
  · rw [hm.same]
    exact h.idle hs
  · rw [hm.same]
  · rw [hm.same]
    exact h.writeEv hs

/-- **Every small step preserves the invariant.** -/
theorem micro (h : DefenseInv c) (hbuf : OutBufferInv c) (hm : Micro c c') : DefenseInv c' := by
  rcases hm with hm | hm | hm
  · exact h.out hm
  · exact h.control hbuf hm
  · exact h.aside hm

theorem micros (h : DefenseInv c) (hbuf : OutBufferInv c) (hm : Micros c c') :
    DefenseInv c' :=
  (Closed.star (P := fun d => DefenseInv d ∧ OutBufferInv d)
    (fun _ _ hd hstep => ⟨hd.1.micro hd.2 hstep, hd.2.micro hstep⟩) _ _ ⟨h, hbuf⟩ hm).1

end DefenseInv

theorem Established.defenseInv (h : Established c) : DefenseInv c := by
  have hdef := h.defense
  refine DefenseInv.off ?_ ?_ ?_ h.events.2.1 ?_ ?_ ?_ ?_ <;> simp [hdef]

/-- **The invariant holds in every reachable state.** -/
theorem Reachable.defenseInv (h : Reachable c) : DefenseInv c := by
  obtain ⟨c₀, hest, hm, -⟩ := h.micros
  exact hest.defenseInv.micros hest.outBufferInv hm

end Chan

end ShadowBrowser
