/-
The steps that change the defense state, and the events made of them.

`Control c c'` is one change of the defense state: a session is armed, begun, asked
to stop, ended.  `Aside c c'` is one change on the receiving side, which does not
touch the sending side.  Together with `Out` they make up every event of a channel
after the handshake:

* **`bufloTimerFired_cases`** — the three things a tick can be;
* `handleInputCell_calm`, `readCells_calm` — handling what was read;
* **`step_calm`** — every event is a sequence of `Micro` steps, so that a
  predicate preserved by each of these holds in every reachable state
  (`Reachable.of_closed`).

Between events no flag waits that only a cell of the same event could carry
(`Settled`); that is why an event never finds STOP, AUTO_STOPPED or DONE left over
from an earlier session.
-/
import ShadowBrowser.MicroSteps

namespace ShadowBrowser

open Checked Runs Relation

/-- The journal entries of a step on the receiving side. -/
def Act.IsAside : Act → Prop
  | .received _ | .cellHandled _ | .delivered _ | .status _ => True
  | _ => False

/-- The journal entries of a change of the defense state. -/
def Act.IsControl : Act → Prop
  | .flagRaised _ | .flagCancelled _ | .stopCalled | .armed | .defenseBegun
  | .defenseEnded => True
  | _ => False

namespace Chan

variable {c c' : Chan} {now : ℕ} {sends : List (List UInt8)} {sock : SockRes}

/-! ### Changes of the defense state -/

/-- A session has begun. -/
def begun (c : Chan) (now : ℕ) : Chan :=
  { c with
    timerRunning := true
    writeEvEnabled := false
    defenseInfo := { c.defenseInfo with
      autoStopTimePoint := now + c.defenseSessionTimeLimit * 1000000
      state := .active
      doneDefendingRecv := false }
    journal := c.journal ++ [.defenseBegun] }

theorem startDefenseSession_eq_ok (h : c.startDefenseSession now = .ok c') :
    c.defenseInfo.state = .none ∧ c.timerRunning = false ∧ c' = c.begun now := by
  obtain ⟨_, hs, h⟩ := bind_eq_ok.mp h
  obtain ⟨_, -, h⟩ := bind_eq_ok.mp h
  obtain ⟨_, -, h⟩ := bind_eq_ok.mp h
  obtain ⟨_, ht, h⟩ := bind_eq_ok.mp h
  obtain ⟨-, rfl⟩ := maybeToggleWriteMonitoring_eq_ok h
  exact ⟨check_eq_ok.mp hs, check_eq_ok.mp ht, rfl⟩

/-- A session has been armed. -/
def armed (c : Chan) : Chan :=
  ({ c with
    defenseInfo := { c.defenseInfo with state := .pendingNextSocketSend }
    journal := c.journal ++ [.armed] } : Chan).raiseFlag .start

/-- The conditions under which a session is armed. -/
structure MayArm (c : Chan) : Prop where
  state : c.defenseInfo.state = .none
  client : c.isClientSide = true
  spdyOutbuf : c.spdyOutbuf = []
  cellOutbuf : c.cellOutbuf = []
  needStart : c.defenseInfo.needStartFlagInNextCell = false

theorem setAutoStartDefenseSessionOnNextSend_eq_ok
    (h : c.setAutoStartDefenseSessionOnNextSend = .ok c') : c.MayArm ∧ c' = c.armed := by
  obtain ⟨_, hs, h⟩ := bind_eq_ok.mp h
  obtain ⟨_, hcl, h⟩ := bind_eq_ok.mp h
  obtain ⟨_, hsp, h⟩ := bind_eq_ok.mp h
  obtain ⟨_, hco, h⟩ := bind_eq_ok.mp h
  obtain ⟨_, hn, h⟩ := bind_eq_ok.mp h
  cases h
  exact ⟨⟨check_eq_ok.mp hs, check_eq_ok.mp hcl, List.length_eq_zero_iff.mp (check_eq_ok.mp hsp),
    List.length_eq_zero_iff.mp (check_eq_ok.mp hco), check_eq_ok.mp hn⟩, rfl⟩

/-- The session that is not running any more, or not yet, has been given up. -/
def gaveUp (c : Chan) : Chan := (c.log .stopCalled).putDefenseInfo c.defenseInfo.reset

/-- The running session has been asked to stop. -/
def stopping (c : Chan) : Chan :=
  let c' := (c.log .stopCalled).putDefenseInfo { c.defenseInfo with
    stopRequested := true
    needStartFlagInNextCell := false }
  if c'.isClientSide then c'.raiseFlag .stop else c'

theorem stopDefenseSession_cases {rightNow : Bool}
    (h : c.stopDefenseSession rightNow = .ok c') :
    (c.defenseInfo.state ≠ .active ∧ c' = c.gaveUp) ∨
      (c.defenseInfo.state = .active ∧ c.defenseInfo.stopRequested = false ∧
        c' = c.stopping) := by
  unfold stopDefenseSession at h
  split at h
  · next hs =>
    cases h
    exact .inl ⟨hs, rfl⟩
  · next hs =>
    split at h
    · obtain ⟨_, hr, h⟩ := bind_eq_ok.mp h
      cases h
      exact .inr ⟨not_not.mp hs, check_eq_ok.mp hr, rfl⟩
    · cases h

/-- The running session has ended by request. -/
def finished (c : Chan) : Chan :=
  let c' := c.endDefense c.defenseInfo.needStopFlagInNextCell
  if c'.isClientSide then c' else c'.raiseFlag .done

/-- The running session has ended by the time limit. -/
def autoStopped (c : Chan) : Chan := (c.endDefense false).raiseFlag .autoStopped

/-- No flag is left over from a session that has ended. -/
structure Settled (c : Chan) : Prop where
  stop : c.defenseInfo.needStopFlagInNextCell = true → c.defenseInfo.state = .active
  autoStopped : c.defenseInfo.needAutoStoppedFlagInNextCell = false
  done : c.defenseInfo.needDoneFlagInNextCell = false

/-- One change of the defense state. -/
inductive Control : Chan → Chan → Prop
  | begun (c : Chan) (now : ℕ) (hset : c.Settled) (ht : c.timerRunning = false)
      (h : c.defenseInfo.state = .none ∨
        (c.defenseInfo.state = .pendingNextSocketSend ∧ c.cellOutbuf.length = c.cellSize)) :
      Control c (c.begun now)
  | armed (c : Chan) (hset : c.Settled) (h : c.MayArm) : Control c c.armed
  | gaveUp (c : Chan) (hset : c.Settled) (h : c.defenseInfo.state ≠ .active) : Control c c.gaveUp
  | stopping (c : Chan) (h : c.defenseInfo.state = .active)
      (hr : c.defenseInfo.stopRequested = false) : Control c c.stopping
  | finished (c : Chan) (h : c.defenseInfo.state = .active)
      (hr : c.defenseInfo.stopRequested = true) : Control c c.finished
  | autoStopped (c : Chan) (h : c.defenseInfo.state = .active) (hs : c.isClientSide = false) :
      Control c c.autoStopped
  | restarting (c : Chan) (h : c.defenseInfo.state = .active)
      (hr : c.defenseInfo.stopRequested = false) (hc : c.isClientSide = true)
      (hn : c.defenseInfo.needStartFlagInNextCell = false) : Control c (c.raiseFlag .start)

/-- One change on the receiving side. -/
structure Aside (c c' : Chan) : Prop where
  same : c' = { c with
    spdyInbuf := c'.spdyInbuf
    cellInbuf := c'.cellInbuf
    cellReadInfo := c'.cellReadInfo
    allRecvByteCount := c'.allRecvByteCount
    allUsersDataRecvByteCount := c'.allUsersDataRecvByteCount
    dummyRecvCellCount := c'.dummyRecvCellCount
    defenseInfo := { c.defenseInfo with
      numCellsRecv := c'.defenseInfo.numCellsRecv
      savedNumWriteAttempts := c'.defenseInfo.savedNumWriteAttempts
      doneDefendingRecv := c'.defenseInfo.doneDefendingRecv }
    journal := c'.journal }
  journal : ∃ as, c'.journal = c.journal ++ as ∧ ∀ a ∈ as, a.IsAside

/-- One small step of a channel. -/
inductive Micro (c c' : Chan) : Prop
  | out (h : Out c c')
  | control (h : Control c c')
  | aside (h : Aside c c')

/-- Any number of small steps. -/
def Micros : Chan → Chan → Prop := ReflTransGen Micro

theorem Micros.trans {c₁ c₂ c₃ : Chan} (h : Micros c₁ c₂) (h' : Micros c₂ c₃) : Micros c₁ c₃ :=
  ReflTransGen.trans h h'

theorem Outs.micros (h : Outs c c') : Micros c c' := ReflTransGen.mono (fun _ _ => Micro.out) _ _ h

theorem Control.micros (h : Control c c') : Micros c c' := ReflTransGen.single (.control h)

theorem Aside.micros (h : Aside c c') : Micros c c' := ReflTransGen.single (.aside h)

/-- Small steps that leave no flag behind if none was left behind before. -/
def Calm (c c' : Chan) : Prop := c.Settled → Micros c c' ∧ c'.Settled

theorem Calm.refl (c : Chan) : Calm c c := fun hs => ⟨.refl, hs⟩

theorem Calm.trans {c₁ c₂ c₃ : Chan} (h : Calm c₁ c₂) (h' : Calm c₂ c₃) : Calm c₁ c₃ := by
  intro hs
  obtain ⟨hm, hs₂⟩ := h hs
  obtain ⟨hm', hs₃⟩ := h' hs₂
  exact ⟨hm.trans hm', hs₃⟩

/-- The steps of the sending side do not make a flag wait. -/
theorem Out.needs_mono {f : Flag} (h : Out c c') (hn : c'.defenseInfo.needs f = true) :
    c.defenseInfo.needs f = true := by
  have hclear : c.clearFlags.defenseInfo.needs f = true → c.defenseInfo.needs f = true := by
    intro h
    rw [clearFlags] at h
    simp only [needs_clear, Bool.and_eq_true] at h
    exact h.1.1.1.1
  cases h with
  | addedData =>
    refine hclear ?_
    cases f <;> exact hn
  | addedDummy => exact hclear hn
  | attempted => cases f <;> exact hn
  | _ => exact hn

theorem Outs.needs_mono {f : Flag} (h : Outs c c') (hn : c'.defenseInfo.needs f = true) :
    c.defenseInfo.needs f = true := by
  induction h with
  | refl => exact hn
  | tail _ hout ih => exact ih (hout.needs_mono hn)

theorem Outs.settled (h : Outs c c') (hs : c.Settled) : c'.Settled := by
  refine ⟨fun hn => ?_, ?_, ?_⟩
  · rw [h.state_eq]
    exact hs.stop (h.needs_mono (f := .stop) hn)
  · by_contra hn
    have := h.needs_mono (f := .autoStopped) (by simpa [DefenseInfo.needs] using hn)
    exact absurd this (by simp [DefenseInfo.needs, hs.autoStopped])
  · by_contra hn
    have := h.needs_mono (f := .done) (by simpa [DefenseInfo.needs] using hn)
    exact absurd this (by simp [DefenseInfo.needs, hs.done])

theorem Outs.calm (h : Outs c c') : Calm c c' := fun hs => ⟨h.micros, h.settled hs⟩

theorem Aside.calm (h : Aside c c') : Calm c c' := by
  intro hs
  refine ⟨h.micros, ?_⟩
  rw [h.same]
  exact ⟨hs.stop, hs.autoStopped, hs.done⟩

theorem begun_calm (ht : c.timerRunning = false)
    (h : c.defenseInfo.state = .none ∨
      (c.defenseInfo.state = .pendingNextSocketSend ∧ c.cellOutbuf.length = c.cellSize)) :
    Calm c (c.begun now) := fun hs =>
  ⟨(Control.begun c now hs ht h).micros, fun _ => rfl, hs.autoStopped, hs.done⟩

theorem stopDefenseSession_calm {rightNow : Bool}
    (h : c.stopDefenseSession rightNow = .ok c') : Calm c c' := by
  intro hs
  rcases stopDefenseSession_cases h with ⟨hstate, rfl⟩ | ⟨hstate, hr, rfl⟩
  · refine ⟨(Control.gaveUp c hs hstate).micros, ?_⟩
    exact ⟨fun hn => absurd hn (by simp [gaveUp, putDefenseInfo, DefenseInfo.reset]), rfl, rfl⟩
  · refine ⟨(Control.stopping c hstate hr).micros, ?_⟩
    rw [Chan.stopping]
    dsimp only
    split
    · exact ⟨fun _ => hstate, hs.autoStopped, hs.done⟩
    · exact ⟨fun _ => hstate, hs.autoStopped, hs.done⟩

/-! ### What the steps do not touch -/

/-- A change of the defense state appends only entries about it to the journal. -/
theorem Control.journal (h : Control c c') :
    ∃ as, c'.journal = c.journal ++ as ∧ ∀ a ∈ as, a.IsControl := by
  have hput : ∀ (d : Chan) (i : DefenseInfo), ∃ as,
      (d.putDefenseInfo i).journal = d.journal ++ as ∧ ∀ a ∈ as, a.IsControl := by
    intro d i
    refine ⟨_, rfl, fun a ha => ?_⟩
    obtain ⟨f, -, rfl⟩ := List.mem_map.mp ha
    trivial
  have hend : ∀ (d : Chan) (b : Bool), ∃ as,
      (d.endDefense b).journal = d.journal ++ as ∧ ∀ a ∈ as, a.IsControl := by
    intro d b
    obtain ⟨as, has, hall⟩ := hput { d with
      defenseInfo := { d.defenseInfo with savedNumWriteAttempts := d.defenseInfo.numWriteAttempts }
      timerRunning := false } { d.defenseInfo.reset with
        savedNumWriteAttempts := d.defenseInfo.numWriteAttempts
        needStopFlagInNextCell := b }
    refine ⟨as ++ [.defenseEnded], ?_, ?_⟩
    · rw [← List.append_assoc, ← has]
      rfl
    · simpa [or_imp, forall_and, Act.IsControl] using hall
  have hstop : ∀ i : DefenseInfo, ∃ as,
      ((c.log .stopCalled).putDefenseInfo i).journal = c.journal ++ as ∧
        ∀ a ∈ as, a.IsControl := by
    intro i
    obtain ⟨as, has, hall⟩ := hput (c.log .stopCalled) i
    refine ⟨.stopCalled :: as, ?_, ?_⟩
    · rw [has, log, List.append_assoc, List.singleton_append]
    · simpa [Act.IsControl] using hall
  have hraise : ∀ (d : Chan) (f : Flag) (as : List Act), d.journal = c.journal ++ as →
      (∀ a ∈ as, a.IsControl) →
      ∃ bs, (d.raiseFlag f).journal = c.journal ++ bs ∧ ∀ a ∈ bs, a.IsControl := by
    intro d f as has hall
    refine ⟨as ++ [.flagRaised f], ?_, ?_⟩
    · rw [← List.append_assoc, ← has]
      rfl
    · simpa [or_imp, forall_and, Act.IsControl] using hall
  -- each step puts a state, raises a flag, or does both in turn
  cases h with
  | begun => exact ⟨[.defenseBegun], rfl, by simp [Act.IsControl]⟩
  | armed => exact hraise _ _ [.armed] rfl (by simp [Act.IsControl])
  | gaveUp => exact hstop _
  | stopping =>
    obtain ⟨as, has, hall⟩ := hstop { c.defenseInfo with
      stopRequested := true
      needStartFlagInNextCell := false }
    rw [Chan.stopping]
    dsimp only
    split
    · exact hraise _ _ as has hall
    · exact ⟨as, has, hall⟩
  | finished =>
    obtain ⟨as, has, hall⟩ := hend c c.defenseInfo.needStopFlagInNextCell
    rw [Chan.finished]
    split
    · exact ⟨as, has, hall⟩
    · exact hraise _ _ as has hall
  | autoStopped =>
    obtain ⟨as, has, hall⟩ := hend c false
    exact hraise _ _ as has hall
  | restarting => exact hraise c _ [] (by simp) (by simp)

/-- The steps of the sending side add to the journal. -/
theorem Out.journal (h : Out c c') : c.journal <+: c'.journal := by
  cases h with
  | attempted => exact List.prefix_rfl
  | toggled => exact List.prefix_rfl
  | avoided => exact List.prefix_rfl
  | _ => exact List.prefix_append _ _

/-- **All steps add to the journal.** -/
theorem Micros.journal (h : Micros c c') : c.journal <+: c'.journal := by
  induction h with
  | refl => exact List.prefix_rfl
  | tail _ hm ih =>
    refine ih.trans ?_
    rcases hm with hm | hm | hm
    · exact hm.journal
    · obtain ⟨as, has, -⟩ := hm.journal
      exact ⟨as, has.symm⟩
    · obtain ⟨as, has, -⟩ := hm.journal
      exact ⟨as, has.symm⟩

/-- The fields of the sending side, and what the journal tells about it. -/
def sendPart (c : Chan) :=
  ((c.cellSize, c.spdyOutbuf, c.cellOutbuf, c.wholeDummyCellAtEndOutbuf),
    (c.frontCellSentProgress, c.outputCellsDataBytesInfo, c.allSendByteCount,
      c.allUsersDataSendByteCount, c.dummySendCellCount), outJournal c.journal)

/-- The fields of the receiving side, and what the journal tells about it. -/
def recvPart (c : Chan) :=
  ((c.peerCellSize, c.spdyInbuf, c.cellInbuf, c.cellReadInfo), inJournal c.journal)

theorem Control.sendPart_eq (h : Control c c') : c'.sendPart = c.sendPart := by
  obtain ⟨as, has, hall⟩ := h.journal
  have hout : outJournal c'.journal = outJournal c.journal := by
    rw [has]
    refine outJournal_append fun a ha => ?_
    have := hall a ha
    cases a <;> simp_all [Act.IsControl, Act.IsOut]
  rw [sendPart, sendPart, hout]
  cases h with
  | stopping =>
    rw [Chan.stopping]
    dsimp only
    split <;> rfl
  | finished =>
    rw [Chan.finished]
    split <;> rfl
  | _ => rfl

theorem Aside.sendPart_eq (h : Aside c c') : c'.sendPart = c.sendPart := by
  obtain ⟨as, has, hall⟩ := h.journal
  have hout : outJournal c'.journal = outJournal c.journal := by
    rw [has]
    refine outJournal_append fun a ha => ?_
    have := hall a ha
    cases a <;> simp_all [Act.IsAside, Act.IsOut]
  rw [sendPart, sendPart, hout, h.same]

theorem Control.recvPart_eq (h : Control c c') : c'.recvPart = c.recvPart := by
  obtain ⟨as, has, hall⟩ := h.journal
  have hin : inJournal c'.journal = inJournal c.journal := by
    rw [has]
    refine inJournal_append fun a ha => ?_
    have := hall a ha
    cases a <;> simp_all [Act.IsControl, Act.IsIn]
  rw [recvPart, recvPart, hin]
  cases h with
  | stopping =>
    rw [Chan.stopping]
    dsimp only
    split <;> rfl
  | finished =>
    rw [Chan.finished]
    split <;> rfl
  | _ => rfl

theorem Out.recvPart_eq (h : Out c c') : c'.recvPart = c.recvPart := by
  have hone : ∀ a : Act, ¬ a.IsIn → inJournal (c.journal ++ [a]) = inJournal c.journal :=
    fun a ha => inJournal_append (by simpa using ha)
  cases h with
  | spdySent bs => simp only [recvPart, onSpdylaySendCb, hone (.spdySent bs) id]
  | dropped => simp only [recvPart, Chan.dropped, hone .dummyDropped id]
  | addedData => simp only [recvPart, Chan.addedData, hone (.cellAdded _) id]
  | addedDummy => simp only [recvPart, Chan.addedDummy, clearFlags, hone (.cellAdded _) id]
  | took => simp only [recvPart, Chan.took, accounted, hone (.wrote _ _ _) id]
  | refused => simp only [recvPart, log, hone (.wrote _ _ _) id]
  | closed => simp only [recvPart, onSocketClosed, chStatusCb, log, hone (.status _) id]
  | _ => rfl

theorem Outs.recvPart_eq (h : Outs c c') : c'.recvPart = c.recvPart :=
  star_invariant (f := recvPart) (fun _ _ => Out.recvPart_eq) h

/-! ### The buflo timer -/

theorem addCellForFlag_outs {b : Bool} (hp : c.defenseInfo.state ≠ .pendingNextSocketSend)
    (h : c.addCellForFlag b = .ok c') : Outs c c' := by
  unfold addCellForFlag at h
  split at h
  · obtain ⟨x, hdrop, h⟩ := bind_eq_ok.mp h
    obtain ⟨_, -, h⟩ := bind_eq_ok.mp h
    obtain ⟨c₁, hadd, h⟩ := bind_eq_ok.mp h
    have houts := maybeDropWholeDummyCellAtEndOutbuf_outs hdrop
    obtain ⟨hd, hmay, rfl⟩ := addONEDummyCellToOutbuf_eq_ok hadd
    have hstate : x.1.defenseInfo.state ≠ .pendingNextSocketSend := houts.state_eq ▸ hp
    exact (houts.trans (Out.addedDummy _ hd hmay hstate).outs).trans
      (maybeToggleWriteMonitoring_out h).outs
  · cases h
    exact .refl

theorem ensureAWholeDummyCellAtEndOutbuf_outs
    (h : c.ensureAWholeDummyCellAtEndOutbuf = .ok c') : Outs c c' := by
  obtain ⟨_, hact, h⟩ := bind_eq_ok.mp h
  split at h
  · cases h
    exact .refl
  · obtain ⟨_, -, h⟩ := bind_eq_ok.mp h
    obtain ⟨hd, hmay, rfl⟩ := addONEDummyCellToOutbuf_eq_ok h
    exact (Out.addedDummy _ hd hmay (by simp [check_eq_ok.mp hact])).outs

/-- **A tick while the defense goes on is a sequence of steps of the sending side.** -/
theorem defendOneTick_outs (hact : c.defenseInfo.state = .active)
    (h : c.defendOneTick sock = .ok c') : Outs c c' := by
  unfold defendOneTick at h
  split at h
  · exact (Out.avoided c _).outs.trans (sendCellOutbuf_outs (by simp [hact]) h)
  · obtain ⟨⟨c₀, added⟩, hadd, h⟩ := bind_eq_ok.mp h
    obtain ⟨c₁, hens, h⟩ := bind_eq_ok.mp h
    obtain ⟨_, -, h⟩ := bind_eq_ok.mp h
    have hc₀ : Outs c c₀ := maybeAddONEDataCellToOutbuf_outs hadd
    have hc₁ : Outs c c₁ := by
      rcases doIf_eq_ok hens with ⟨-, hens⟩ | ⟨-, rfl⟩
      · exact hc₀.trans (ensureAWholeDummyCellAtEndOutbuf_outs hens)
      · exact hc₀
    exact hc₁.trans (sendCellOutbuf_outs (by rw [hc₁.state_eq]; simp [hact]) h)

/-- Ending a session leaves the state `NONE`. -/
@[simp] theorem endDefense_state (c : Chan) (b : Bool) :
    (c.endDefense b).defenseInfo.state = .none := rfl

@[simp] theorem finished_state (c : Chan) : c.finished.defenseInfo.state = .none := by
  unfold finished
  dsimp only
  split <;> rfl

@[simp] theorem autoStopped_state (c : Chan) : c.autoStopped.defenseInfo.state = .none := rfl

/-- **The three things a tick can be**: the end of the session by request, its end by the
time limit, or one more write. -/
theorem bufloTimerFired_cases (h : c.bufloTimerFired now sends sock = .ok c') :
    c.defenseInfo.state = .active ∧
      ((c.isDoneDefendingSend = true ∧ ∃ c₁, Outs c.finished c₁ ∧
          c₁.defenseInfo.needStopFlagInNextCell = false ∧
          c₁.defenseInfo.needDoneFlagInNextCell = false ∧
          c' = c₁.checkNotifyADefenseSessionDone) ∨
        (c.isDoneDefendingSend = false ∧ c.defenseInfo.autoStopTimePoint ≤ now ∧
          c.isClientSide = false ∧ Outs c.autoStopped c' ∧
          c'.defenseInfo.needAutoStoppedFlagInNextCell = false) ∨
        (c.isDoneDefendingSend = false ∧ now < c.defenseInfo.autoStopTimePoint ∧
          c.defendOneTick sock = .ok c')) := by
  obtain ⟨_, hact, h⟩ := bind_eq_ok.mp h
  refine ⟨check_eq_ok.mp hact, ?_⟩
  split at h
  · -- the shape is complete: the session ends, and a flag that is left over gets a cell of its own
    next hdone =>
    obtain ⟨c₁, hpump, h⟩ := bind_eq_ok.mp h
    obtain ⟨c₂, hflag, h⟩ := bind_eq_ok.mp h
    obtain ⟨_, hns, h⟩ := bind_eq_ok.mp h
    obtain ⟨_, hnd, h⟩ := bind_eq_ok.mp h
    cases h
    have houts := pumpSpdySend_outs (c := c.finished) hpump
    refine .inl ⟨hdone, c₂, houts.trans (addCellForFlag_outs ?_ hflag), check_eq_ok.mp hns,
      check_eq_ok.mp hnd, rfl⟩
    rw [houts.state_eq]
    simp
  · next hdone =>
    have hdone' : c.isDoneDefendingSend = false := by simpa using hdone
    split at h
    · -- the time limit has passed, which only the SSP acts on
      next hlimit =>
      split at h
      · cases h
      · next hcl =>
        obtain ⟨c₁, hpump, h⟩ := bind_eq_ok.mp h
        obtain ⟨c₂, hflag, h⟩ := bind_eq_ok.mp h
        obtain ⟨_, hna, h⟩ := bind_eq_ok.mp h
        cases h
        have houts := pumpSpdySend_outs (c := c.autoStopped) hpump
        refine .inr (.inl ⟨hdone', hlimit, by simpa using hcl,
          houts.trans (addCellForFlag_outs ?_ hflag), check_eq_ok.mp hna⟩)
        rw [houts.state_eq]
        simp
    · next hlimit => exact .inr (.inr ⟨hdone', by omega, h⟩)

theorem isDoneDefendingSend_stopRequested (h : c.isDoneDefendingSend = true) :
    c.defenseInfo.stopRequested = true := by
  unfold isDoneDefendingSend at h
  exact (Bool.and_eq_true_iff.mp h).1

theorem checkNotifyADefenseSessionDone_aside (c : Chan) :
    Aside c c.checkNotifyADefenseSessionDone := by
  unfold checkNotifyADefenseSessionDone
  split
  · exact ⟨rfl, [.status .aDefenseSessionDone], rfl, by simp [Act.IsAside]⟩
  · exact ⟨rfl, [], by simp, by simp⟩

theorem bufloTimerFired_calm (h : c.bufloTimerFired now sends sock = .ok c') :
    Calm c c' := by
  intro hs
  obtain ⟨hact, ⟨hdone, c₁, houts, hns, hnd, rfl⟩ | ⟨-, -, hsrv, houts, hna⟩ | ⟨-, -, htick⟩⟩ :=
    bufloTimerFired_cases h
  · have hnotify := checkNotifyADefenseSessionDone_aside c₁
    refine ⟨((Control.finished c hact (isDoneDefendingSend_stopRequested hdone)).micros.trans
      houts.micros).trans hnotify.micros, ?_⟩
    have hset : c₁.Settled := by
      refine ⟨fun hn => absurd hn (by simp [hns]), ?_, hnd⟩
      by_contra hn
      have hfin := houts.needs_mono (f := .autoStopped) (by simpa [DefenseInfo.needs] using hn)
      rw [Chan.finished] at hfin
      split at hfin <;> exact absurd hfin Bool.false_ne_true
    exact (hnotify.calm hset).2
  · refine ⟨(Control.autoStopped c hact hsrv).micros.trans houts.micros, ?_, hna, ?_⟩
    · intro hn
      have hauto := houts.needs_mono (f := .stop) hn
      exact absurd hauto Bool.false_ne_true
    · by_contra hn
      have hauto := houts.needs_mono (f := .done) (by simpa [DefenseInfo.needs] using hn)
      exact absurd hauto Bool.false_ne_true
  · exact (defendOneTick_outs hact htick).calm hs

/-! ### Handling what was read -/

/-- The parts of `_handle_input_cell`, one after the other. -/
theorem handleInputCell_cases (h : c.handleInputCell now = .ok c') :
    c.cellReadInfo.payloadLen ≤ c.peerCellSize ∧ ∃ c₁ c₂ c₃,
      (c.log (.cellHandled (c.cellInbuf.take c.peerCellSize))).handleFlags now
        c.cellReadInfo.cellFlags = .ok c₁ ∧
      c₁.handleData c.cellReadInfo.cellType c.cellReadInfo.payloadLen
        (c.pullup (cellHeaderSize + c.cellReadInfo.payloadLen)) = .ok c₂ ∧
      doIf (testFlag c.cellReadInfo.cellFlags .done) handleDone c₂ = .ok c₃ ∧
      c' = { c₃ with cellInbuf := c₃.cellInbuf.drop c₃.peerCellSize } := by
  obtain ⟨_, hlen, h⟩ := bind_eq_ok.mp h
  obtain ⟨c₁, hflags, h⟩ := bind_eq_ok.mp h
  obtain ⟨c₂, hdata, h⟩ := bind_eq_ok.mp h
  obtain ⟨c₃, hdone, h⟩ := bind_eq_ok.mp h
  cases h
  exact ⟨check_eq_ok.mp hlen, c₁, c₂, c₃, hflags, hdata, hdone, rfl⟩

theorem handleAutoStopped_cases (h : c.handleAutoStopped = .ok c') :
    c.isClientSide = true ∧
      ((c.defenseInfo.state = .active ∧ c.defenseInfo.stopRequested = false ∧
          c.defenseInfo.needStartFlagInNextCell = false ∧ c' = c.raiseFlag .start) ∨
        (¬ (c.defenseInfo.state = .active ∧ c.defenseInfo.stopRequested = false) ∧ c' = c)) := by
  obtain ⟨_, hcl, h⟩ := bind_eq_ok.mp h
  refine ⟨check_eq_ok.mp hcl, ?_⟩
  split at h
  · next hact =>
    obtain ⟨_, hn, h⟩ := bind_eq_ok.mp h
    cases h
    exact .inl ⟨hact.1, hact.2, check_eq_ok.mp hn, rfl⟩
  · next hact =>
    cases h
    exact .inr ⟨hact, rfl⟩

theorem handleDone_eq_ok (h : c.handleDone = .ok c') :
    c.isClientSide = true ∧
      c' = ({ c with defenseInfo := { c.defenseInfo with doneDefendingRecv := true } } :
        Chan).checkNotifyADefenseSessionDone := by
  obtain ⟨_, hcl, h⟩ := bind_eq_ok.mp h
  cases h
  exact ⟨check_eq_ok.mp hcl, rfl⟩

/-- The flags of a cell, one after the other. -/
theorem handleFlags_cases {flags : UInt8} (h : c.handleFlags now flags = .ok c') :
    (flags = 0 ∧ c' = c) ∨
      ∃ c₁ c₂ c₃, doIf (testFlag flags .autoStopped) handleAutoStopped c = .ok c₁ ∧
        ¬ (testFlag flags .start ∧ testFlag flags .stop) ∧
        doIf (testFlag flags .start) (handleStart · now) c₁ = .ok c₂ ∧
        doIf (testFlag flags .stop) handleStop c₂ = .ok c₃ ∧
        c' = { c₃ with
          defenseInfo := { c₃.defenseInfo with
            numCellsRecv := c₃.defenseInfo.numCellsRecv
              + if testFlag flags .defensive then 1 else 0 } } := by
  unfold handleFlags at h
  split at h
  · next hz =>
    cases h
    exact .inl ⟨hz, rfl⟩
  · obtain ⟨c₁, ha, h⟩ := bind_eq_ok.mp h
    obtain ⟨_, hss, h⟩ := bind_eq_ok.mp h
    obtain ⟨c₂, hs, h⟩ := bind_eq_ok.mp h
    obtain ⟨c₃, hp, h⟩ := bind_eq_ok.mp h
    cases h
    exact .inr ⟨c₁, c₂, c₃, ha, check_eq_ok.mp hss, hs, hp, rfl⟩

theorem handleData_aside {cellType : UInt8} {len : ℕ} {ptr : Option (List UInt8)}
    (h : c.handleData cellType len ptr = .ok c') : Aside c c' := by
  unfold handleData at h
  split at h
  · split at h
    · cases h
    · cases h
      exact ⟨rfl, [.delivered _], rfl, by simp [Act.IsAside]⟩
  · split at h
    · cases h
      exact ⟨rfl, [], by simp, by simp⟩
    · split at h <;> cases h

theorem handleAutoStopped_calm (h : c.handleAutoStopped = .ok c') : Calm c c' := by
  intro hs
  obtain ⟨hcl, ⟨hact, hr, hn, rfl⟩ | ⟨-, rfl⟩⟩ := handleAutoStopped_cases h
  · exact ⟨(Control.restarting c hact hr hcl hn).micros, hs.stop, hs.autoStopped, hs.done⟩
  · exact ⟨.refl, hs⟩

theorem handleStart_eq_ok (h : c.handleStart now = .ok c') :
    c.isClientSide = false ∧ c.defenseInfo.state = .none ∧ c.timerRunning = false ∧
      c' = c.begun now := by
  obtain ⟨_, hsrv, h⟩ := bind_eq_ok.mp h
  exact ⟨check_eq_ok.mp hsrv, startDefenseSession_eq_ok h⟩

theorem handleStart_calm (h : c.handleStart now = .ok c') : Calm c c' := by
  obtain ⟨-, hnone, ht, rfl⟩ := handleStart_eq_ok h
  exact begun_calm ht (.inl hnone)

theorem handleStop_eq_ok (h : c.handleStop = .ok c') :
    c.isClientSide = false ∧ c.stopDefenseSession false = .ok c' := by
  obtain ⟨_, hsrv, h⟩ := bind_eq_ok.mp h
  exact ⟨check_eq_ok.mp hsrv, h⟩

theorem handleDone_calm (h : c.handleDone = .ok c') : Calm c c' := by
  obtain ⟨-, rfl⟩ := handleDone_eq_ok h
  have hdone : Aside c { c with defenseInfo := { c.defenseInfo with doneDefendingRecv := true } } :=
    ⟨rfl, [], by simp, by simp⟩
  exact hdone.calm.trans (checkNotifyADefenseSessionDone_aside _).calm

/-- An optional part is calm if the part is. -/
theorem doIf_calm {b : Bool} {f : Chan → Except Check Chan} (h : doIf b f c = .ok c')
    (hf : f c = .ok c' → Calm c c') : Calm c c' := by
  rcases doIf_eq_ok h with ⟨-, h⟩ | ⟨-, rfl⟩
  · exact hf h
  · exact .refl _

theorem handleFlags_calm {flags : UInt8} (h : c.handleFlags now flags = .ok c') :
    Calm c c' := by
  rcases handleFlags_cases h with ⟨-, rfl⟩ | ⟨c₁, c₂, c₃, ha, -, hs, hp, rfl⟩
  · exact .refl _
  · have h₁ : Calm c c₁ := doIf_calm ha handleAutoStopped_calm
    have h₂ : Calm c₁ c₂ := doIf_calm hs handleStart_calm
    have h₃ : Calm c₂ c₃ :=
      doIf_calm hp fun h => stopDefenseSession_calm (handleStop_eq_ok h).2
    have h₄ : Aside c₃ { c₃ with
        defenseInfo := { c₃.defenseInfo with
          numCellsRecv := c₃.defenseInfo.numCellsRecv
            + if testFlag flags .defensive then 1 else 0 } } := ⟨rfl, [], by simp, by simp⟩
    exact ((h₁.trans h₂).trans h₃).trans h₄.calm

theorem handleInputCell_calm (h : c.handleInputCell now = .ok c') : Calm c c' := by
  obtain ⟨-, c₁, c₂, c₃, hflags, hdata, hdone, rfl⟩ := handleInputCell_cases h
  have h₀ : Aside c (c.log (.cellHandled (c.cellInbuf.take c.peerCellSize))) :=
    ⟨rfl, [.cellHandled _], rfl, by simp [Act.IsAside]⟩
  have h₄ : Aside c₃ { c₃ with cellInbuf := c₃.cellInbuf.drop c₃.peerCellSize } :=
    ⟨rfl, [], by simp, by simp⟩
  exact (((h₀.calm.trans (handleFlags_calm hflags)).trans (handleData_aside hdata).calm).trans
    (doIf_calm hdone handleDone_calm)).trans h₄.calm

/-- What parsing a header and handling a cell preserve, the loop of `_read_cells` does. -/
theorem readLoop_induct {P : Chan → Prop}
    (hhead : ∀ c, P c → c.cellReadInfo.state = .readHeader →
      cellHeaderSize ≤ c.cellInbuf.length →
      P { c with cellReadInfo := CellReadInfo.parse c.cellInbuf })
    (hbody : ∀ c c₁, P c → c.cellReadInfo.state = .readBody →
      c.peerCellSize ≤ c.cellInbuf.length → c.handleInputCell now = .ok c₁ →
      P { c₁ with cellReadInfo := {} }) :
    ∀ {fuel : ℕ} {c c' : Chan}, P c → readLoop now fuel c = .ok c' → P c' := by
  intro fuel
  induction fuel with
  | zero =>
    intro c c' hP h
    cases h
    exact hP
  | succ fuel ih =>
    intro c c' hP h
    rw [readLoop] at h
    split at h
    · next hstate =>
      split at h
      · next hlen => exact ih (hhead c hP hstate hlen) h
      · cases h
        exact hP
    · next hstate =>
      split at h
      · next hlen =>
        obtain ⟨c₁, hcell, h⟩ := bind_eq_ok.mp h
        exact ih (hbody c c₁ hP hstate hlen hcell) h
      · cases h
        exact hP

theorem readCells_eq_ok (h : c.readCells now = .ok c') :
    0 < c.peerCellSize ∧ readLoop now (2 * c.cellInbuf.length + 2) c = .ok c' := by
  obtain ⟨_, hp, h⟩ := bind_eq_ok.mp h
  exact ⟨check_eq_ok.mp hp, h⟩

theorem readCells_calm (h : c.readCells now = .ok c') : Calm c c' := by
  refine readLoop_induct (P := Calm c) ?_ ?_ (.refl c) (readCells_eq_ok h).2
  · intro d hd _ _
    have haside : Aside d { d with cellReadInfo := CellReadInfo.parse d.cellInbuf } :=
      ⟨rfl, [], by simp, by simp⟩
    exact hd.trans haside.calm
  · intro d d₁ hd _ _ hcell
    have haside : Aside d₁ { d₁ with cellReadInfo := {} } := ⟨rfl, [], by simp, by simp⟩
    exact (hd.trans (handleInputCell_calm hcell)).trans haside.calm

/-! ### Events -/

/-- The channel sends cells, and the peer-info exchange is over. -/
structure CellMode (c : Chan) : Prop where
  cellSize : c.cellSize ≠ 0
  peerInfoRead : c.needToReadPeerInfo = false
  peerInfoWritten : c.myPeerInfoOutbuf = none

/-- The fields that do not change after the handshake. -/
def config (c : Chan) : (Bool × ℕ × ℕ × ℕ × ℕ) × ℕ × ℕ × Bool × Option (List UInt8) :=
  ((c.isClientSide, c.cellSize, c.tamarawPktIntvlMs, c.tamarawL, c.defenseSessionTimeLimit),
    c.objId, c.peerCellSize, c.needToReadPeerInfo, c.myPeerInfoOutbuf)

theorem Out.config_eq (h : Out c c') : c'.config = c.config := by
  cases h <;> rfl

theorem Control.config_eq (h : Control c c') : c'.config = c.config := by
  cases h with
  | stopping =>
    unfold Chan.stopping
    dsimp only
    split <;> rfl
  | finished =>
    unfold Chan.finished
    dsimp only
    split <;> rfl
  | _ => rfl

theorem Aside.config_eq (h : Aside c c') : c'.config = c.config := by
  rw [h.same]
  rfl

theorem Micro.config_eq (h : Micro c c') : c'.config = c.config := by
  rcases h with h | h | h
  · exact h.config_eq
  · exact h.config_eq
  · exact h.config_eq

theorem Micros.config_eq (h : Micros c c') : c'.config = c.config :=
  star_invariant (f := config) (fun _ _ => Micro.config_eq) h

theorem CellMode.of_config (h : CellMode c) (he : c'.config = c.config) : CellMode c' := by
  simp only [config, Prod.mk.injEq] at he
  obtain ⟨⟨-, hs, -⟩, -, -, hn, hm⟩ := he
  exact ⟨hs ▸ h.cellSize, hn ▸ h.peerInfoRead, hm ▸ h.peerInfoWritten⟩

theorem handleFailedSocketIo_outs {rv : ℤ} {errno : Errno} {b : Bool}
    (h : c.handleFailedSocketIo rv errno b = .ok c') : Outs c c' := by
  unfold handleFailedSocketIo at h
  split at h
  · cases h
    exact (Out.closed c).outs
  · split at h
    · cases h
      exact .refl
    · obtain ⟨_, -, h⟩ := bind_eq_ok.mp h
      cases h
      exact .refl
    · cases h
      exact (Out.closed c).outs

/-- **What becoming writable does**: it starts an armed session, and writes. -/
theorem onSocketWritecb_cases (hc : CellMode c) (h : c.onSocketWritecb now sock = .ok c') :
    c.defenseInfo.state ≠ .active ∧
      ((c.defenseInfo.state = .pendingNextSocketSend ∧ c.cellOutbuf.length = c.cellSize ∧
          c.timerRunning = false ∧ (c.begun now).sendCellOutbuf sock = .ok c') ∨
        (c.defenseInfo.state = .none ∧ c.sendCellOutbuf sock = .ok c')) := by
  obtain ⟨_, hact, h⟩ := bind_eq_ok.mp h
  refine ⟨check_eq_ok.mp hact, ?_⟩
  rw [if_neg (by simp [hc.peerInfoWritten]), if_pos hc.cellSize] at h
  split at h
  · next hpend =>
    obtain ⟨_, hlen, h⟩ := bind_eq_ok.mp h
    obtain ⟨c₁, hstart, h⟩ := bind_eq_ok.mp h
    obtain ⟨-, ht, rfl⟩ := startDefenseSession_eq_ok hstart
    exact .inl ⟨hpend, check_eq_ok.mp hlen, ht, h⟩
  · next hpend =>
    refine .inr ⟨?_, h⟩
    have hact' := check_eq_ok.mp hact
    cases hs : c.defenseInfo.state with
    | none => rfl
    | pendingNextSocketSend => exact absurd hs hpend
    | active => exact absurd hs hact'

theorem onSocketWritecb_calm (hc : CellMode c) (h : c.onSocketWritecb now sock = .ok c') :
    Calm c c' := by
  obtain ⟨-, ⟨hpend, hlen, ht, h⟩ | ⟨hnone, h⟩⟩ := onSocketWritecb_cases hc h
  · exact (begun_calm ht (.inr ⟨hpend, hlen⟩)).trans
      (sendCellOutbuf_outs (by simp [begun]) h).calm
  · exact (sendCellOutbuf_outs (by simp [hnone]) h).calm

/-- Bytes have been read into the cell buffer. -/
def readIn (c : Chan) (bs : List UInt8) : Chan :=
  { c with
    cellInbuf := c.cellInbuf ++ bs
    allRecvByteCount := c.allRecvByteCount + bs.length
    journal := c.journal ++ [.received bs] }

theorem onSocketReadcb_cases {res : ReadRes} (hc : CellMode c)
    (h : c.onSocketReadcb now res = .ok c') :
    (∃ rv errno, c.handleFailedSocketIo rv errno true = .ok c') ∨
      (∃ bs, res = .bytes bs ∧ bs ≠ [] ∧ c.peerCellSize ≠ 0 ∧
        (c.readIn bs).readCells now = .ok c') ∨
      (c.peerCellSize = 0 ∧ Aside c c') := by
  unfold onSocketReadcb at h
  split at h
  · exact .inl ⟨_, _, h⟩
  · exact .inl ⟨_, _, h⟩
  · next bs hbs =>
    rw [if_neg (by simp [hc.peerInfoRead])] at h
    split at h
    · next hp => exact .inr (.inl ⟨bs, rfl, by simpa using hbs, hp, h⟩)
    · next hp =>
      cases h
      exact .inr (.inr ⟨not_not.mp hp, rfl, [.received bs, .delivered bs], rfl,
        by simp [Act.IsAside]⟩)

theorem readIn_aside (c : Chan) (bs : List UInt8) : Aside c (c.readIn bs) :=
  ⟨rfl, [.received bs], rfl, by simp [Act.IsAside]⟩

theorem onSocketReadcb_calm {res : ReadRes} (hc : CellMode c)
    (h : c.onSocketReadcb now res = .ok c') : Calm c c' := by
  rcases onSocketReadcb_cases hc h with ⟨_, _, h⟩ | ⟨bs, -, -, -, h⟩ | ⟨-, h⟩
  · exact (handleFailedSocketIo_outs h).calm
  · exact (readIn_aside c bs).calm.trans (readCells_calm h)
  · exact h.calm

theorem Step.enabled {e : Event} (h : Step c e c') : c.Enabled e ∧ c.handle e = .ok c' := by
  unfold Step step at h
  split at h
  · next he => exact ⟨he, h⟩
  · cases h

/-- **Every event is a sequence of small steps.** -/
theorem step_calm {e : Event} (hc : CellMode c) (h : Step c e c') : Calm c c' := by
  obtain ⟨-, h⟩ := h.enabled
  cases e with
  | pumpSpdySend sends => exact (pumpSpdySend_outs h).calm
  | startDefenseSession now =>
    obtain ⟨hnone, ht, rfl⟩ := startDefenseSession_eq_ok h
    exact begun_calm ht (.inl hnone)
  | setAutoStartDefenseSessionOnNextSend =>
    intro hs
    obtain ⟨hmay, rfl⟩ := setAutoStartDefenseSessionOnNextSend_eq_ok h
    refine ⟨(Control.armed c hs hmay).micros, fun hn => ?_, hs.autoStopped, hs.done⟩
    have hact : c.defenseInfo.state = .active := hs.stop hn
    exact absurd hact (by simp [hmay.state])
  | stopDefenseSession rightNow => exact stopDefenseSession_calm h
  | bufloTimerFired now sends sock => exact bufloTimerFired_calm h
  | socketWritable now sock => exact onSocketWritecb_calm hc h
  | socketReadable now res => exact onSocketReadcb_calm hc h

theorem Established.cellMode (h : Established c) : CellMode c := by
  refine ⟨?_, h.peerInfo.1, h.peerInfo.2⟩
  rw [h.config.1]
  decide

theorem Established.settled (h : Established c) : c.Settled := by
  refine ⟨?_, ?_, ?_⟩ <;> simp [h.defense]

/-- A step after the handshake, between states without leftover flags. -/
theorem Step.micros {e : Event} (hc : CellMode c) (hs : c.Settled) (h : Step c e c') :
    Micros c c' ∧ CellMode c' ∧ c'.Settled := by
  obtain ⟨hm, hs'⟩ := step_calm hc h hs
  exact ⟨hm, hc.of_config hm.config_eq, hs'⟩

/-- Every reachable state is reached by small steps. -/
theorem Reachable.micros (h : Reachable c) :
    ∃ c₀, Established c₀ ∧ Micros c₀ c ∧ CellMode c ∧ c.Settled := by
  obtain ⟨c₀, es, hest, hrun⟩ := h
  refine ⟨c₀, hest, hrun.invariant
    (P := fun d => Micros c₀ d ∧ CellMode d ∧ d.Settled) ?_
    ⟨.refl, hest.cellMode, hest.settled⟩⟩
  intro s e t ⟨hm, hc, hs⟩ hstep
  obtain ⟨hm', hrest⟩ := hstep.micros hc hs
  exact ⟨hm.trans hm', hrest⟩

theorem Reachable.step_micros {e : Event} (h : Reachable c) (hstep : Step c e c') :
    Micros c c' := by
  obtain ⟨c₀, -, -, hc, hs⟩ := h.micros
  exact (hstep.micros hc hs).1

/-- **What holds after the handshake and is preserved by the small steps holds in every
reachable state.** -/
theorem Reachable.of_closed {P : Chan → Prop} (hinit : ∀ c, Established c → P c)
    (hclosed : Closed P Micro) (h : Reachable c) : P c := by
  obtain ⟨c₀, hest, hmic, -⟩ := h.micros
  exact hclosed.star _ _ (hinit c₀ hest) hmic

end Chan

end ShadowBrowser
