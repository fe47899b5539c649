/-
The small steps that the events of a channel are made of.

`Out c c'` is one change on the sending side: bytes come from spdylay, a cell is
added or dropped, bytes go to the socket, write monitoring is switched.  Each
function of the sending side is a sequence of such steps (`Outs`):

* `maybeSetCellFlags_eq_ok` — what attaching flags does, in closed form;
* `progressLoop_eq_ok` — what accounting for a write does, in closed form;
* **`pumpSpdySend_outs`**, **`sendCellOutbuf_outs`** — the pump and a write;
* **`defendOneTick_outs`** — a tick of the timer while the defense goes on.
-/
import Mathlib.Data.Nat.ModEq
import ShadowBrowser.Events

namespace ShadowBrowser

open Checked Runs Relation

/-! ### Flags of the next cell -/

theorem clear_of_not_needs {d : DefenseInfo} {f : Flag} (h : d.needs f = false) :
    d.clear f = d := by
  cases d
  cases f <;> simp_all [DefenseInfo.needs, DefenseInfo.clear]

@[simp] theorem needs_clear (d : DefenseInfo) (f g : Flag) :
    (d.clear f).needs g = (d.needs g && decide (g ≠ f)) := by
  cases f <;> cases g <;> simp [DefenseInfo.needs, DefenseInfo.clear]

@[simp] theorem needs_need (d : DefenseInfo) (f g : Flag) :
    (d.need f).needs g = (d.needs g || decide (g = f ∧ f ≠ .defensive)) := by
  cases f <;> cases g <;> simp [DefenseInfo.needs, DefenseInfo.need]

namespace Chan

/-- The flags that the next cell will carry. -/
def nextFlags (c : Chan) : List Flag := controlFlags.filter c.defenseInfo.needs

/-- The DEFENSIVE flag, if a session is armed or running. -/
def defensiveFlag (c : Chan) : List Flag :=
  if c.defenseInfo.state = .active ∨ c.defenseInfo.state = .pendingNextSocketSend
  then [.defensive] else []

/-- The type-and-flags byte of the next cell. -/
def flaggedByte (c : Chan) (t : UInt8) : UInt8 :=
  (c.nextFlags ++ c.defensiveFlag).foldl setCellFlag t

/-- No flag is waiting any more. -/
def clearFlags (c : Chan) : Chan :=
  { c with
    defenseInfo := (((c.defenseInfo.clear .start).clear .stop).clear .autoStopped).clear .done }

/-- The waiting flags pass the checks of `_maybe_set_cell_flags`. -/
structure MayFlag (c : Chan) : Prop where
  start : c.defenseInfo.needStartFlagInNextCell →
    (c.defenseInfo.state = .pendingNextSocketSend ∨
      (c.defenseInfo.state = .active ∧ c.defenseInfo.stopRequested = false)) ∧
    c.isClientSide = true
  autoStopped : c.defenseInfo.needAutoStoppedFlagInNextCell → c.isClientSide = false
  done : c.defenseInfo.needDoneFlagInNextCell → c.isClientSide = false

variable {c c' : Chan}

/-- What one block of `_maybe_set_cell_flags` does. -/
def attached (f : Flag) (x : Chan × UInt8 × Bool) : Chan × UInt8 × Bool :=
  ({ x.1 with defenseInfo := x.1.defenseInfo.clear f },
    if x.1.defenseInfo.needs f then setCellFlag x.2.1 f else x.2.1,
    x.2.2 || x.1.defenseInfo.needs f)

theorem attachFlag_eq_ok {f : Flag} {checks : Chan → Except Check Unit}
    {x y : Chan × UInt8 × Bool} (h : attachFlag f checks x = .ok y) :
    y = attached f x ∧ (x.1.defenseInfo.needs f → checks x.1 = .ok ()) := by
  unfold attachFlag at h
  split at h
  · next hn =>
    obtain ⟨u, hu, hy⟩ := bind_eq_ok.mp h
    cases hy
    simp [attached, hn, hu]
  · next hn =>
    cases h
    have hn' : x.1.defenseInfo.needs f = false := by simpa using hn
    simp [attached, clear_of_not_needs hn', hn']

/-- The four blocks together. -/
theorem attached_all (c : Chan) (t : UInt8) :
    attached .done (attached .autoStopped (attached .stop (attached .start (c, t, false)))) =
      (c.clearFlags, c.nextFlags.foldl setCellFlag t, decide (c.nextFlags ≠ [])) := by
  cases hs : c.defenseInfo.needs .start <;> cases hp : c.defenseInfo.needs .stop <;>
    cases ha : c.defenseInfo.needs .autoStopped <;> cases hd : c.defenseInfo.needs .done <;>
    simp [attached, clearFlags, nextFlags, controlFlags, hs, hp, ha, hd]

/-- **What attaching flags does.** -/
theorem maybeSetCellFlags_eq_ok {t : UInt8} {x : Chan × UInt8 × Bool}
    (h : c.maybeSetCellFlags t = .ok x) :
    x = (c.clearFlags, c.flaggedByte t, decide (c.nextFlags ≠ [])) ∧ c.MayFlag := by
  obtain ⟨x₁, h₁, h⟩ := bind_eq_ok.mp h
  obtain ⟨x₂, h₂, h⟩ := bind_eq_ok.mp h
  obtain ⟨x₃, h₃, h⟩ := bind_eq_ok.mp h
  obtain ⟨x₄, h₄, h⟩ := bind_eq_ok.mp h
  obtain ⟨e₁, hs⟩ := attachFlag_eq_ok h₁
  obtain ⟨e₂, -⟩ := attachFlag_eq_ok h₂
  obtain ⟨e₃, ha⟩ := attachFlag_eq_ok h₃
  obtain ⟨e₄, hd⟩ := attachFlag_eq_ok h₄
  have hmay : c.MayFlag := by
    subst e₁ e₂ e₃
    refine ⟨fun hn => ?_, fun hn => ?_, fun hn => ?_⟩
    · obtain ⟨_, hp, hc⟩ := bind_eq_ok.mp (hs hn)
      exact ⟨check_eq_ok.mp hp, check_eq_ok.mp hc⟩
    · exact check_eq_ok.mp (ha hn)
    · exact check_eq_ok.mp (hd hn)
  have hx₄ := e₄
  rw [e₃, e₂, e₁, attached_all] at hx₄
  refine ⟨?_, hmay⟩
  rw [hx₄] at h
  -- clearing flags does not touch the state
  have hstate : c.clearFlags.defenseInfo.state = c.defenseInfo.state := rfl
  by_cases hdef : c.defenseInfo.state = .active ∨ c.defenseInfo.state = .pendingNextSocketSend
  · simp only [hstate, if_pos hdef, pure_eq_ok, Except.ok.injEq] at h
    rw [← h, flaggedByte, defensiveFlag, if_pos hdef, List.foldl_append]
    rfl
  · simp only [hstate, if_neg hdef, pure_eq_ok, Except.ok.injEq] at h
    rw [← h, flaggedByte, defensiveFlag, if_neg hdef, List.append_nil]

/-! ### Cells come and go -/

/-- The whole dummy cell at the end is gone; `n` more dummy cells count as avoided. -/
def dropped (c : Chan) (n : ℕ) : Chan :=
  { c with
    cellOutbuf := c.cellOutbuf.take (c.cellOutbuf.length - c.cellSize)
    wholeDummyCellAtEndOutbuf := false
    outputCellsDataBytesInfo := c.outputCellsDataBytesInfo.dropLast
    numDummyCellsAvoided := c.numDummyCellsAvoided + n
    journal := c.journal ++ [.dummyDropped] }

/-- There is a whole dummy cell at the end, and its record says so. -/
structure HasDummy (c : Chan) : Prop where
  marked : c.wholeDummyCellAtEndOutbuf = true
  whole : c.cellSize ≤ c.cellOutbuf.length
  recorded : c.outputCellsDataBytesInfo.getLast? = some 0

theorem maybeDropWholeDummyCellAtEndOutbuf_eq_ok {count : Bool} {x : Chan × Bool}
    (h : c.maybeDropWholeDummyCellAtEndOutbuf count = .ok x) :
    (c.wholeDummyCellAtEndOutbuf = false ∧ x = (c, false)) ∨
      (c.HasDummy ∧ x = (c.dropped (if count then 1 else 0), true)) := by
  unfold maybeDropWholeDummyCellAtEndOutbuf at h
  split at h
  · next hd =>
    obtain ⟨_, hlen, h⟩ := bind_eq_ok.mp h
    obtain ⟨_, hinfo, h⟩ := bind_eq_ok.mp h
    cases h
    exact .inr ⟨⟨hd, check_eq_ok.mp hlen, check_eq_ok.mp hinfo⟩, rfl⟩
  · next hd =>
    cases h
    exact .inl ⟨by simpa using hd, rfl⟩

/-- The next data cell. -/
def dataCell (c : Chan) : Cell :=
  ⟨c.flaggedByte (setCellType 0 CellType.data), c.spdyOutbuf.take c.payloadLen⟩

/-- A data cell has been added. -/
def addedData (c : Chan) : Chan :=
  { c with
    defenseInfo := { c.clearFlags.defenseInfo with
      numDataCellsAdded := c.defenseInfo.numDataCellsAdded
        + if c.defenseInfo.state = .pendingNextSocketSend then 1 else 0 }
    cellOutbuf := c.cellOutbuf ++ c.dataCell.encode c.cellSize
    spdyOutbuf := c.spdyOutbuf.drop c.payloadLen
    outputCellsDataBytesInfo := c.outputCellsDataBytesInfo ++ [c.payloadLen]
    journal := c.journal ++ [.cellAdded c.dataCell] }

/-- The conditions under which a data cell is added. -/
structure MayAddData (c : Chan) : Prop where
  noDummy : c.wholeDummyCellAtEndOutbuf = false
  payload : 0 < c.payloadLen
  flags : c.MayFlag
  first : c.defenseInfo.state = .pendingNextSocketSend → c.defenseInfo.numDataCellsAdded = 0

/-- **What adding a data cell does.** -/
theorem maybeAddONEDataCellToOutbuf_eq_ok {x : Chan × Bool}
    (h : c.maybeAddONEDataCellToOutbuf = .ok x) :
    (c.payloadLen = 0 ∧ x = (c, false)) ∨
      ∃ c₁, (c₁ = c ∨ c.HasDummy ∧ c₁ = c.dropped 1) ∧ c₁.MayAddData ∧
        x = (c₁.addedData, true) := by
  unfold maybeAddONEDataCellToOutbuf at h
  split at h
  · next hz =>
    cases h
    exact .inl ⟨hz, rfl⟩
  · next hz =>
    obtain ⟨⟨c₁, b⟩, hdrop, h⟩ := bind_eq_ok.mp h
    obtain ⟨_, hd, h⟩ := bind_eq_ok.mp h
    obtain ⟨⟨c₂, t, imp⟩, hflags, h⟩ := bind_eq_ok.mp h
    obtain ⟨_, hfirst, h⟩ := bind_eq_ok.mp h
    obtain ⟨e, hmay⟩ := maybeSetCellFlags_eq_ok hflags
    simp only [Prod.mk.injEq] at e
    obtain ⟨rfl, rfl, -⟩ := e
    have hd' : c₁.wholeDummyCellAtEndOutbuf = false := check_eq_ok.mp hd
    have hfirst' := check_eq_ok.mp hfirst
    -- the dummy cell that may be in the way is dropped first
    have hc₁ : (c₁ = c ∨ c.HasDummy ∧ c₁ = c.dropped 1) := by
      rcases maybeDropWholeDummyCellAtEndOutbuf_eq_ok hdrop with ⟨-, e⟩ | ⟨hhas, e⟩
      · exact .inl (Prod.mk.inj e).1
      · exact .inr ⟨hhas, (Prod.mk.inj e).1⟩
    have hlen : c.payloadLen = c₁.payloadLen := by
      rcases hc₁ with rfl | ⟨-, rfl⟩ <;> rfl
    have hpos : 0 < c₁.payloadLen := by omega
    refine .inr ⟨c₁, hc₁, ⟨hd', hpos, hmay, ?_⟩, ?_⟩
    · intro hst
      have := hfirst' hst
      simp only [show c₁.clearFlags.defenseInfo.state = c₁.defenseInfo.state from rfl, hst,
        if_true] at this
      have hzero : c₁.clearFlags.defenseInfo.numDataCellsAdded = 0 := by simpa using this
      exact hzero
    · cases h
      rw [hlen]
      rfl

/-- The next dummy cell. -/
def dummyCell (c : Chan) : Cell := ⟨c.flaggedByte (setCellType 0 CellType.dummy), []⟩

/-- A dummy cell has been added. -/
def addedDummy (c : Chan) : Chan :=
  { c.clearFlags with
    cellOutbuf := c.cellOutbuf ++ c.dummyCell.encode c.cellSize
    wholeDummyCellAtEndOutbuf := decide (c.nextFlags = [])
    outputCellsDataBytesInfo := c.outputCellsDataBytesInfo ++ [0]
    journal := c.journal ++ [.cellAdded c.dummyCell] }

/-- **What adding a dummy cell does.** -/
theorem addONEDummyCellToOutbuf_eq_ok (h : c.addONEDummyCellToOutbuf = .ok c') :
    c.wholeDummyCellAtEndOutbuf = false ∧ c.MayFlag ∧ c' = c.addedDummy := by
  obtain ⟨_, hd, h⟩ := bind_eq_ok.mp h
  obtain ⟨x, hflags, h⟩ := bind_eq_ok.mp h
  obtain ⟨rfl, hmay⟩ := maybeSetCellFlags_eq_ok hflags
  refine ⟨check_eq_ok.mp hd, hmay, ?_⟩
  cases h
  simp [addedDummy, dummyCell, clearFlags]

/-! ### Bytes go to the socket -/

/-- `n` more bytes at the front of the out buffer have been accounted for as sent. -/
def accounted (c : Chan) (n : ℕ) : Chan :=
  { c with
    frontCellSentProgress := (c.frontCellSentProgress + n) % c.cellSize
    outputCellsDataBytesInfo :=
      c.outputCellsDataBytesInfo.drop ((c.frontCellSentProgress + n) / c.cellSize)
    allUsersDataSendByteCount := c.allUsersDataSendByteCount +
      (c.outputCellsDataBytesInfo.take ((c.frontCellSentProgress + n) / c.cellSize)).sum
    dummySendCellCount := c.dummySendCellCount +
      (c.outputCellsDataBytesInfo.take ((c.frontCellSentProgress + n) / c.cellSize)).count 0 }

theorem accounted_zero (h : c.frontCellSentProgress < c.cellSize) : c.accounted 0 = c := by
  simp only [accounted, Nat.add_zero, Nat.mod_eq_of_lt h, Nat.div_eq_of_lt h, List.drop_zero,
    List.take_zero, List.sum_nil, List.count_nil]

theorem progressLoop_zero (fuel : ℕ) : progressLoop fuel c 0 = .ok c := by
  cases fuel <;> rfl

/-- One turn finishes the front cell, or the bytes end inside it. -/
theorem progressStep_eq_ok {n : ℕ} {x : Chan × ℕ} (h : c.progressStep n = .ok x) :
    c.frontCellSentProgress < c.cellSize ∧
      ((∃ m rest, c.outputCellsDataBytesInfo = m :: rest ∧
          c.cellSize ≤ c.frontCellSentProgress + n ∧
          x = ({ c with
            frontCellSentProgress := 0
            outputCellsDataBytesInfo := rest
            allUsersDataSendByteCount := c.allUsersDataSendByteCount + m
            dummySendCellCount := c.dummySendCellCount + if 0 < m then 0 else 1 },
            c.frontCellSentProgress + n - c.cellSize)) ∨
        (c.frontCellSentProgress + n < c.cellSize ∧
          x = ({ c with frontCellSentProgress := c.frontCellSentProgress + n }, 0))) := by
  obtain ⟨_, hlt, h⟩ := bind_eq_ok.mp h
  have hlt' := check_eq_ok.mp hlt
  have hfront : c.frontCellSentProgress < c.cellSize := by omega
  refine ⟨hfront, ?_⟩
  -- the bytes that were written reach the end of the front cell, or they do not
  by_cases hC : c.cellSize ≤ c.frontCellSentProgress + n
  · have hmin : min (c.frontCellSentProgress + n) c.cellSize = c.cellSize := by omega
    simp only [hmin, if_true] at h
    split at h
    · cases h
    · next m rest hinfo =>
      refine .inl ⟨m, rest, hinfo, hC, ?_⟩
      cases h
      congr 1
      omega
  · have hmin : min (c.frontCellSentProgress + n) c.cellSize = c.frontCellSentProgress + n := by
      omega
    simp only [hmin] at h
    rw [if_neg (by omega)] at h
    obtain ⟨_, hz, h⟩ := bind_eq_ok.mp h
    refine .inr ⟨by omega, ?_⟩
    cases h
    congr 1
    omega

/-- **What accounting for a write does.**  The induction follows the cells that the write
finishes. -/
theorem progressLoop_eq_ok : ∀ {fuel : ℕ} {c : Chan} {n : ℕ}, n ≤ fuel →
    c.frontCellSentProgress < c.cellSize → progressLoop fuel c n = .ok c' →
    (c.frontCellSentProgress + n) / c.cellSize ≤ c.outputCellsDataBytesInfo.length ∧
      c' = c.accounted n := by
  intro fuel
  induction fuel with
  | zero =>
    intro c n hn hfront h
    obtain rfl : n = 0 := by omega
    cases h
    exact ⟨by simp [Nat.div_eq_of_lt hfront], (accounted_zero hfront).symm⟩
  | succ fuel ih =>
    intro c n hn hfront h
    by_cases hz : n = 0
    · subst hz
      rw [progressLoop_zero] at h
      cases h
      exact ⟨by simp [Nat.div_eq_of_lt hfront], (accounted_zero hfront).symm⟩
    · rw [progressLoop, if_neg hz] at h
      obtain ⟨x, hx, h⟩ := bind_eq_ok.mp h
      obtain ⟨-, ⟨m, rest, hinfo, hC, rfl⟩ | ⟨hC, rfl⟩⟩ := progressStep_eq_ok hx
      · -- the front cell is finished
        have hpos : 0 < c.cellSize := by omega
        obtain ⟨hle, rfl⟩ := ih (by omega) (by exact hpos) h
        have hsum : c.frontCellSentProgress + n =
            c.cellSize + (c.frontCellSentProgress + n - c.cellSize) := by omega
        have hdiv : (c.frontCellSentProgress + n) / c.cellSize =
            (c.frontCellSentProgress + n - c.cellSize) / c.cellSize + 1 := by
          rw [hsum, Nat.add_div_left _ hpos, ← hsum]
        have hmod : (c.frontCellSentProgress + n) % c.cellSize =
            (c.frontCellSentProgress + n - c.cellSize) % c.cellSize := by
          rw [hsum, Nat.add_mod_left, ← hsum]
        simp only [Nat.zero_add] at hle
        refine ⟨?_, ?_⟩
        · rw [hdiv, hinfo, List.length_cons]
          omega
        · have hcount : ∀ l : List ℕ, (m :: l).count 0 = (if 0 < m then 0 else 1) + l.count 0 := by
            intro l
            rw [List.count_cons]
            by_cases hm : 0 < m
            · simp [hm, Nat.ne_of_gt hm]
            · simp [show m = 0 by omega, Nat.add_comm]
          simp only [accounted, hdiv, hmod, hinfo, Nat.zero_add, List.drop_succ_cons,
            List.take_succ_cons, List.sum_cons, hcount, Nat.add_assoc]
      · -- the bytes end inside the front cell
        simp only [progressLoop_zero] at h
        cases h
        refine ⟨by simp [Nat.div_eq_of_lt hC], ?_⟩
        simp only [accounted, Nat.mod_eq_of_lt hC, Nat.div_eq_of_lt hC, List.drop_zero,
          List.take_zero, List.sum_nil, List.count_nil, Nat.add_zero]

theorem updateOutputCellProgress_eq_ok {n : ℕ} (hn : 0 < n)
    (h : c.updateOutputCellProgress n = .ok c') :
    (c.frontCellSentProgress + n) / c.cellSize ≤ c.outputCellsDataBytesInfo.length ∧
      c' = c.accounted n := by
  obtain ⟨m, rfl⟩ : ∃ m, n = m + 1 := ⟨n - 1, by omega⟩
  have h' := h
  rw [updateOutputCellProgress, progressLoop, if_neg (by omega)] at h'
  obtain ⟨x, hx, -⟩ := bind_eq_ok.mp h'
  exact progressLoop_eq_ok le_rfl (progressStep_eq_ok hx).1 h

/-- Of `offered` bytes, the socket has taken `n`. -/
def took (c : Chan) (offered n : ℕ) : Chan :=
  ({ c with
    cellOutbuf := c.cellOutbuf.drop n
    wholeDummyCellAtEndOutbuf :=
      if (c.cellOutbuf.drop n).length < c.cellSize then false else c.wholeDummyCellAtEndOutbuf
    allSendByteCount := c.allSendByteCount + n
    journal := c.journal ++ [.wrote offered n (c.cellOutbuf.take n)] } : Chan).accounted n

/-- Switch write monitoring. -/
def setWriteEv (c : Chan) (b : Bool) : Chan := { c with writeEvEnabled := b }

/-- One more attempt to write. -/
def attempted (c : Chan) : Chan :=
  { c with
    defenseInfo := { c.defenseInfo with numWriteAttempts := c.defenseInfo.numWriteAttempts + 1 } }

/-! ### The steps of the sending side -/

/-- One step of the sending side. -/
inductive Out : Chan → Chan → Prop
  | spdySent (c : Chan) (bs : List UInt8) : Out c (c.onSpdylaySendCb bs)
  | dropped (c : Chan) (n : ℕ) (h : c.HasDummy) : Out c (c.dropped n)
  | addedData (c : Chan) (h : c.MayAddData) : Out c c.addedData
  | addedDummy (c : Chan) (hd : c.wholeDummyCellAtEndOutbuf = false) (hf : c.MayFlag)
      (hp : c.defenseInfo.state ≠ .pendingNextSocketSend) : Out c c.addedDummy
  | took (c : Chan) (offered n : ℕ) (hn : 0 < n) (hle : n ≤ c.cellOutbuf.length)
      (hi : (c.frontCellSentProgress + n) / c.cellSize ≤ c.outputCellsDataBytesInfo.length)
      (hp : c.defenseInfo.state ≠ .pendingNextSocketSend) : Out c (c.took offered n)
  | refused (c : Chan) (offered : ℕ) (rv : ℤ) (hrv : rv ≤ 0) :
      Out c (c.log (.wrote offered rv []))
  | attempted (c : Chan) (h : c.defenseInfo.state = .active) : Out c c.attempted
  | toggled (c : Chan) (b : Bool) (h : c.defenseInfo.state = .active → b = false) :
      Out c (c.setWriteEv b)
  | avoided (c : Chan) (n : ℕ) : Out c { c with numDummyCellsAvoided := n }
  | closed (c : Chan) : Out c c.onSocketClosed

/-- Any number of steps of the sending side. -/
def Outs : Chan → Chan → Prop := ReflTransGen Out

theorem Outs.trans {c₁ c₂ c₃ : Chan} (h : Outs c₁ c₂) (h' : Outs c₂ c₃) : Outs c₁ c₃ :=
  ReflTransGen.trans h h'

theorem Out.outs (h : Out c c') : Outs c c' := ReflTransGen.single h

/-- No step of the sending side changes the defense state. -/
theorem Out.state_eq (h : Out c c') : c'.defenseInfo.state = c.defenseInfo.state := by
  cases h <;> rfl

theorem Outs.state_eq (h : Outs c c') : c'.defenseInfo.state = c.defenseInfo.state :=
  star_invariant (f := fun c : Chan => c.defenseInfo.state) (fun _ _ => Out.state_eq) h

/-- The value that `_maybe_toggle_write_monitoring` gives the write event. -/
def toggleValue (c : Chan) : ForceToggleMode → Bool
  | .forceEnable => true
  | .forceDisable => false
  | .none => decide (0 < (if c.cellSize ≠ 0 then c.cellOutbuf else c.spdyOutbuf).length)

theorem maybeToggleWriteMonitoring_eq_ok {mode : ForceToggleMode}
    (h : c.maybeToggleWriteMonitoring mode = .ok c') :
    (c.defenseInfo.state ≠ .active ∨ mode = .forceDisable) ∧
      c' = c.setWriteEv (c.toggleValue mode) := by
  obtain ⟨_, hs, h⟩ := bind_eq_ok.mp h
  cases h
  exact ⟨check_eq_ok.mp hs, rfl⟩

theorem maybeToggleWriteMonitoring_cases {mode : ForceToggleMode}
    (h : c.maybeToggleWriteMonitoring mode = .ok c') :
    ∃ b, (c.defenseInfo.state = .active → b = false) ∧ c' = c.setWriteEv b := by
  obtain ⟨hs, rfl⟩ := maybeToggleWriteMonitoring_eq_ok h
  refine ⟨_, fun hact => ?_, rfl⟩
  rcases hs with hs | rfl
  · exact absurd hact hs
  · rfl

theorem maybeToggleWriteMonitoring_out {mode : ForceToggleMode}
    (h : c.maybeToggleWriteMonitoring mode = .ok c') : Out c c' := by
  obtain ⟨b, hb, rfl⟩ := maybeToggleWriteMonitoring_cases h
  exact .toggled c b hb

/-! ### The functions of the sending side, as sequences of steps -/

theorem maybeAddONEDataCellToOutbuf_outs {x : Chan × Bool}
    (h : c.maybeAddONEDataCellToOutbuf = .ok x) : Outs c x.1 := by
  rcases maybeAddONEDataCellToOutbuf_eq_ok h with ⟨-, rfl⟩ | ⟨c₁, rfl | ⟨hd, rfl⟩, hadd, rfl⟩
  · exact .refl
  · exact (Out.addedData _ hadd).outs
  · exact (Out.dropped c 1 hd).outs.trans (Out.addedData _ hadd).outs

theorem maybeDropWholeDummyCellAtEndOutbuf_outs {count : Bool} {x : Chan × Bool}
    (h : c.maybeDropWholeDummyCellAtEndOutbuf count = .ok x) : Outs c x.1 := by
  rcases maybeDropWholeDummyCellAtEndOutbuf_eq_ok h with ⟨-, rfl⟩ | ⟨hd, rfl⟩
  · exact .refl
  · exact (Out.dropped c _ hd).outs

theorem flushLoop_outs : ∀ {fuel : ℕ} {c : Chan}, flushLoop fuel c = .ok c' → Outs c c' := by
  intro fuel
  induction fuel with
  | zero =>
    intro c h
    cases h
    exact .refl
  | succ fuel ih =>
    intro c h
    rw [flushLoop] at h
    split at h
    · cases h
      exact .refl
    · obtain ⟨x, hx, h⟩ := bind_eq_ok.mp h
      obtain ⟨_, -, h⟩ := bind_eq_ok.mp h
      exact (maybeAddONEDataCellToOutbuf_outs hx).trans (ih h)

theorem foldl_onSpdylaySendCb_outs (sends : List (List UInt8)) :
    ∀ c : Chan, Outs c (sends.foldl onSpdylaySendCb c) := by
  induction sends with
  | nil => exact fun c => .refl
  | cons bs sends ih =>
    intro c
    exact (Out.spdySent c bs).outs.trans (ih _)

/-- **The pump is a sequence of steps of the sending side.** -/
theorem pumpSpdySend_outs {sends : List (List UInt8)} (h : c.pumpSpdySend sends = .ok c') :
    Outs c c' := by
  refine (foldl_onSpdylaySendCb_outs sends c).trans ?_
  unfold pumpSpdySend at h
  generalize sends.foldl onSpdylaySendCb c = d at h ⊢
  dsimp only at h
  split at h
  · exact (maybeToggleWriteMonitoring_out h).outs
  · split at h
    · obtain ⟨d₁, hflush, h⟩ := bind_eq_ok.mp h
      obtain ⟨_, -, hloop⟩ := bind_eq_ok.mp hflush
      refine (flushLoop_outs hloop).trans ?_
      split at h
      · exact (maybeToggleWriteMonitoring_out h).outs
      · cases h
        exact .refl
    · obtain ⟨x, hx, h⟩ := bind_eq_ok.mp h
      obtain ⟨_, -, h⟩ := bind_eq_ok.mp h
      exact (maybeAddONEDataCellToOutbuf_outs hx).trans (maybeToggleWriteMonitoring_out h).outs
    · cases h
      exact .refl

/-- The end of a write attempt: the bytes are accounted for, or the failure is handled. -/
theorem accountWrite_eq_ok {rv : ℤ} {sock : SockRes} (h : c.accountWrite rv sock = .ok c') :
    (0 < rv ∧
        (c.frontCellSentProgress + rv.toNat) / c.cellSize ≤ c.outputCellsDataBytesInfo.length ∧
        c' = ({ c with allSendByteCount := c.allSendByteCount + rv.toNat } : Chan).accounted
          rv.toNat) ∨
      (rv ≤ 0 ∧ (c' = c ∨ c' = c.onSocketClosed)) := by
  unfold accountWrite at h
  split at h
  · next hpos => exact .inl ⟨hpos, updateOutputCellProgress_eq_ok (by omega) h⟩
  · next hneg =>
    refine .inr ⟨by omega, ?_⟩
    unfold handleFailedSocketIo at h
    split at h
    · cases h
      exact .inr rfl
    · split at h
      · cases h
        exact .inl rfl
      · obtain ⟨_, -, h⟩ := bind_eq_ok.mp h
        cases h
        exact .inl rfl
      · cases h
        exact .inr rfl

/-- A write that is not of a whole prefix changes nothing but the journal. -/
theorem accountWrite_outs_of_nonpos {rv : ℤ} {sock : SockRes} (hrv : rv ≤ 0)
    (h : c.accountWrite rv sock = .ok c') : Outs c c' := by
  rcases accountWrite_eq_ok h with ⟨hpos, -⟩ | ⟨-, rfl | rfl⟩
  · omega
  · exact .refl
  · exact (Out.closed c).outs

/-- Dropping the last cell commutes with accounting for cells before it. -/
theorem accounted_dropped (c : Chan) {n m : ℕ}
    (hi : (c.frontCellSentProgress + n) / c.cellSize ≤
      c.outputCellsDataBytesInfo.dropLast.length) :
    (c.dropped m).accounted n = (c.accounted n).dropped m := by
  have htake : ∀ q ≤ c.outputCellsDataBytesInfo.dropLast.length,
      c.outputCellsDataBytesInfo.dropLast.take q = c.outputCellsDataBytesInfo.take q := by
    intro q hq
    rw [List.length_dropLast] at hq
    rw [List.dropLast_eq_take, List.take_take, Nat.min_eq_left hq]
  have hdrop : ∀ q ≤ c.outputCellsDataBytesInfo.dropLast.length,
      c.outputCellsDataBytesInfo.dropLast.drop q =
        (c.outputCellsDataBytesInfo.drop q).dropLast := by
    intro q hq
    rw [List.dropLast_eq_take, List.dropLast_eq_take, List.drop_take, List.length_drop]
    congr 1
    omega
  simp only [accounted, dropped, htake _ hi, hdrop _ hi]

/-- What `evbuffer_write_atmost` does. -/
theorem evbufferWriteAtmost_cases (c : Chan) (howmuch : ℕ) (sock : SockRes) :
    (∃ n, 0 < n ∧ n ≤ howmuch ∧ n ≤ c.cellOutbuf.length ∧
        c.evbufferWriteAtmost howmuch sock =
          ({ c with
            cellOutbuf := c.cellOutbuf.drop n
            journal := c.journal ++ [.wrote howmuch n (c.cellOutbuf.take n)] }, (n : ℤ))) ∨
      ∃ rv ≤ 0, c.evbufferWriteAtmost howmuch sock = (c.log (.wrote howmuch rv []), rv) := by
  cases sock with
  | fails e => exact .inr ⟨-1, by decide, rfl⟩
  | accepts m =>
    by_cases hz : min m (min howmuch c.cellOutbuf.length) = 0
    · refine .inr ⟨0, le_rfl, ?_⟩
      simp [evbufferWriteAtmost, hz, log]
    · exact .inl ⟨min m (min howmuch c.cellOutbuf.length), by omega, by omega, by omega, rfl⟩

theorem sendWhileActive_outs {sock : SockRes} (hact : c.defenseInfo.state = .active)
    (h : c.sendWhileActive sock = .ok c') : Outs c c' := by
  obtain ⟨_, hlen, h⟩ := bind_eq_ok.mp h
  have hlen' : c.cellSize ≤ c.cellOutbuf.length := check_eq_ok.mp hlen
  have hattempt : Outs c c.attempted := (Out.attempted c hact).outs
  rcases evbufferWriteAtmost_cases c c.cellSize sock with
    ⟨n, hn, -, hle, e⟩ | ⟨rv, hrv, e⟩
  · rw [e] at h
    rcases accountWrite_eq_ok h with ⟨-, hi, rfl⟩ | ⟨hneg, -⟩
    · refine hattempt.trans (Out.took c.attempted c.cellSize n hn hle hi ?_).outs
      simp [attempted, hact]
    · omega
  · rw [e] at h
    have hout : Outs c.attempted (c.attempted.log (.wrote c.cellSize rv [])) :=
      (Out.refused c.attempted c.cellSize rv hrv).outs
    refine hattempt.trans (hout.trans ?_)
    have hsent : (c.attempted.log (.wrote c.cellSize rv [])).accountWrite rv sock = .ok c' := by
      simpa [attempted, log, Nat.not_lt.mpr hlen'] using h
    exact accountWrite_outs_of_nonpos hrv hsent

theorem sendWhileNotActive_outs {sock : SockRes}
    (hp : c.defenseInfo.state ≠ .pendingNextSocketSend)
    (h : c.sendWhileNotActive sock = .ok c') : Outs c c' := by
  unfold sendWhileNotActive at h
  split at h
  · rcases evbufferWriteAtmost_cases c c.amntToWrite sock with
      ⟨n, hn, -, hle, e⟩ | ⟨rv, hrv, e⟩
    · simp only [e] at h
      obtain ⟨c₁, ht, h⟩ := bind_eq_ok.mp h
      obtain ⟨b, hb, rfl⟩ := maybeToggleWriteMonitoring_cases ht
      obtain ⟨x, hdrop, h⟩ := bind_eq_ok.mp h
      obtain ⟨_, -, h⟩ := bind_eq_ok.mp h
      rcases accountWrite_eq_ok h with ⟨-, hi, rfl⟩ | ⟨hneg, -⟩
      swap
      · omega
      -- put the accounting right after the write, before the dummy cell is dropped
      rcases maybeDropWholeDummyCellAtEndOutbuf_eq_ok hdrop with ⟨hw, rfl⟩ | ⟨hd, rfl⟩
      · have hw' : c.wholeDummyCellAtEndOutbuf = false := hw
        have htook := (Out.took c c.amntToWrite n hn hle hi hp).outs
        have htoggle := (Out.toggled (c.took c.amntToWrite n) b hb).outs
        refine (htook.trans htoggle).trans ?_
        simp only [took, accounted, setWriteEv, hw', ite_self, Int.toNat_natCast]
        exact .refl
      · have hw' : c.wholeDummyCellAtEndOutbuf = true := hd.marked
        have hlen : ¬ (c.cellOutbuf.drop n).length < c.cellSize := Nat.not_lt.mpr hd.whole
        have hi' : (c.frontCellSentProgress + n) / c.cellSize ≤
            c.outputCellsDataBytesInfo.dropLast.length := hi
        have hi'' : (c.frontCellSentProgress + n) / c.cellSize <
            c.outputCellsDataBytesInfo.length := by
          have hne : c.outputCellsDataBytesInfo ≠ [] := by
            intro hnil
            have := hd.recorded
            simp [setWriteEv, hnil] at this
          have := List.length_pos_iff.mpr hne
          rw [List.length_dropLast] at hi'
          omega
        have htook := (Out.took c c.amntToWrite n hn hle hi''.le hp).outs
        have htoggle := (Out.toggled (c.took c.amntToWrite n) b hb).outs
        have hdummy : ((c.took c.amntToWrite n).setWriteEv b).HasDummy := by
          refine ⟨?_, hd.whole, ?_⟩
          · simp only [took, accounted, setWriteEv, if_neg hlen]
            exact hw'
          · have := hd.recorded
            simp only [took, accounted, setWriteEv] at this ⊢
            rw [List.getLast?_drop, if_neg (by omega), this]
        refine ((htook.trans htoggle).trans (Out.dropped _ 1 hdummy).outs).trans ?_
        have hcomm := accounted_dropped
          (({ c with
            cellOutbuf := c.cellOutbuf.drop n
            allSendByteCount := c.allSendByteCount + n
            journal := c.journal ++ [.wrote c.amntToWrite n (c.cellOutbuf.take n)] } :
              Chan).setWriteEv b) (n := n) (m := 1) hi'
        rw [Int.toNat_natCast]
        exact hcomm ▸ .refl
    · simp only [e] at h
      obtain ⟨c₁, ht, h⟩ := bind_eq_ok.mp h
      obtain ⟨x, hdrop, h⟩ := bind_eq_ok.mp h
      obtain ⟨_, -, h⟩ := bind_eq_ok.mp h
      exact (Out.refused c _ rv hrv).outs.trans
        ((maybeToggleWriteMonitoring_out ht).outs.trans
          ((maybeDropWholeDummyCellAtEndOutbuf_outs hdrop).trans
            (accountWrite_outs_of_nonpos hrv h)))
  · obtain ⟨_, -, h⟩ := bind_eq_ok.mp h
    obtain ⟨c₁, ht, h⟩ := bind_eq_ok.mp h
    obtain ⟨x, hdrop, h⟩ := bind_eq_ok.mp h
    obtain ⟨_, -, h⟩ := bind_eq_ok.mp h
    cases h
    exact (maybeToggleWriteMonitoring_out ht).outs.trans
      (maybeDropWholeDummyCellAtEndOutbuf_outs hdrop)

/-- **A write is a sequence of steps of the sending side.** -/
theorem sendCellOutbuf_outs {sock : SockRes}
    (hp : c.defenseInfo.state ≠ .pendingNextSocketSend) (h : c.sendCellOutbuf sock = .ok c') :
    Outs c c' := by
  obtain ⟨_, -, h⟩ := bind_eq_ok.mp h
  split at h
  · next hact => exact sendWhileActive_outs hact h
  · exact sendWhileNotActive_outs hp h

end Chan

end ShadowBrowser
