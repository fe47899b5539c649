/-
What piles up in a channel while it defends.

While a session lasts only its ticks add cells, and a tick adds one when less than a cell is
queued.  A socket that takes nothing finds the same bytes offered again.

* `bufloTimerFired_fills` — a tick that does not end the session fills the buffer up to a cell
  and offers it;
* **`bounded_backlog`** — how long the buffer can become, whatever users, flags and the socket
  do.
-/
import ShadowBrowser.SessionLength

namespace ShadowBrowser

open Checked Runs

/-- The checks that insist on a whole cell, or on less than one, in the buffer. -/
def Check.IsShort : Check → Prop
  | .timerLessThanACell | .sendLessThanACell | .ensureMoreThanACell => True
  | _ => False

namespace Chan

variable {c c' c₀ : Chan} {now : ℕ} {sends : List (List UInt8)} {sock : SockRes}

/-! ### Filling the buffer -/

theorem addONEDummyCellToOutbuf_of (hd : c.wholeDummyCellAtEndOutbuf = false) (hf : c.MayFlag) :
    c.addONEDummyCellToOutbuf = .ok c.addedDummy := by
  rw [addONEDummyCellToOutbuf, check_pos hd, ok_bind, maybeSetCellFlags_of_mayFlag hf]
  simp [addedDummy, dummyCell, clearFlags]

/-- What is offered on a tick. -/
def filled (c : Chan) : Chan :=
  if c.cellSize ≤ c.cellOutbuf.length then
    { c with
      numDummyCellsAvoided :=
        c.numDummyCellsAvoided + if c.spdyOutbuf.length = 0 then 1 else 0 }
  else if 0 < c.payloadLen then c.addedData
  else c.addedDummy

/-- **A tick that does not end the session** fills the buffer up to a cell, and then offers
it: no check fails before. -/
theorem bufloTimerFired_fills (hdef : DefenseInv c) (hbuf : OutBufferInv c)
    (hact : c.defenseInfo.state = .active) (hgoes : c.isDoneDefendingSend = false)
    (hlimit : now < c.defenseInfo.autoStopTimePoint) :
    c.bufloTimerFired now sends sock = c.filled.sendCellOutbuf sock := by
  have htick : c.bufloTimerFired now sends sock = c.defendOneTick sock := by
    rw [bufloTimerFired, check_pos hact, ok_bind, if_neg (by simp [hgoes]), if_neg (by omega)]
  rw [htick, defendOneTick, filled]
  by_cases hlen : c.cellSize ≤ c.cellOutbuf.length
  · rw [if_pos hlen, if_pos hlen]
  · -- less than a cell is queued, so there is no whole dummy cell
    have hdummy : c.wholeDummyCellAtEndOutbuf = false := by
      by_contra hd
      exact hlen (hbuf.dummy (by simpa using hd)).1
    rw [if_neg hlen, if_neg hlen]
    by_cases hpos : 0 < c.payloadLen
    · have hmay : c.MayAddData :=
        ⟨hdummy, hpos, hdef.mayFlag, fun hst => absurd (hact.symm.trans hst) (by decide)⟩
      have hlen' : c.addedData.cellSize ≤ c.addedData.cellOutbuf.length := by
        simp [addedData, clearFlags, length_encode (dataCell_fits hbuf.size)]
      rw [if_pos hpos, maybeAddONEDataCellToOutbuf_of_mayAddData hmay, ok_bind]
      dsimp only
      rw [doIf, Bool.not_true, if_neg Bool.false_ne_true, ok_bind, check_pos hlen', ok_bind]
    · have hnone : c.maybeAddONEDataCellToOutbuf = .ok (c, false) := if_pos (by omega)
      have hlen' : c.addedDummy.cellSize ≤ c.addedDummy.cellOutbuf.length := by
        simp [addedDummy, clearFlags, length_encode (dummyCell_fits hbuf.size.1)]
      have hens : c.ensureAWholeDummyCellAtEndOutbuf = .ok c.addedDummy := by
        rw [ensureAWholeDummyCellAtEndOutbuf, check_pos hact, ok_bind, if_neg (by simp [hdummy]),
          check_pos (by omega), ok_bind, addONEDummyCellToOutbuf_of hdummy hdef.mayFlag]
      rw [if_neg hpos, hnone, ok_bind]
      dsimp only
      rw [doIf, Bool.not_false, if_pos rfl, hens, ok_bind, check_pos hlen', ok_bind]

theorem filled_length (hbuf : OutBufferInv c) :
    c.filled.cellSize = c.cellSize ∧ c.cellSize ≤ c.filled.cellOutbuf.length ∧
      c.filled.cellOutbuf.length ≤ max c.cellOutbuf.length (2 * c.cellSize - 1) := by
  have hsize := hbuf.size
  unfold filled
  split
  · next h => exact ⟨rfl, h, le_max_left _ _⟩
  · next h =>
    have hadd : ∀ k : Cell, k.Fits c.cellSize →
        (c.cellOutbuf ++ k.encode c.cellSize).length = c.cellOutbuf.length + c.cellSize :=
      fun k hk => by rw [List.length_append, length_encode hk]
    split
    · have hlen := hadd _ (dataCell_fits hbuf.size)
      refine ⟨rfl, ?_, ?_⟩ <;> simp only [addedData, clearFlags, hlen] <;> omega
    · have hlen := hadd _ (dummyCell_fits hbuf.size.1)
      refine ⟨rfl, ?_, ?_⟩ <;> simp only [addedDummy, clearFlags, hlen] <;> omega

/-! ### Offering it -/

theorem progressLoop_avoids {k : Check} (hk : k.IsShort) :
    ∀ {fuel : ℕ} {c : Chan} {n : ℕ}, Avoids k (progressLoop fuel c n) := by
  intro fuel
  induction fuel with
  | zero =>
    intro c n
    exact .ok
  | succ fuel ih =>
    intro c n
    rw [progressLoop]
    refine .ite (fun _ => .ok) fun _ => .bind ?_ fun x _ => ih
    unfold progressStep
    refine .check_bind (by rintro rfl; exact hk) fun _ => .ite (fun _ => ?_) fun _ => ?_
    · split
      · exact .error (by rintro rfl; exact hk)
      · exact .ok
    · exact .check_bind (by rintro rfl; exact hk) fun _ => .ok

/-- A write of a whole cell's worth of bytes does not lack any. -/
theorem sendCellOutbuf_avoids {k : Check} (hk : k.IsShort)
    (hact : c.defenseInfo.state = .active) (hlen : c.cellSize ≤ c.cellOutbuf.length) :
    Avoids k (c.sendCellOutbuf sock) := by
  unfold sendCellOutbuf
  refine .check_bind (by rintro rfl; exact hk) fun _ => ?_
  rw [if_pos hact]
  unfold sendWhileActive
  refine .check_bind_of hlen ?_
  unfold accountWrite
  refine .ite (fun _ => progressLoop_avoids hk) fun _ => ?_
  obtain ⟨c', hc', -⟩ := handleFailedSocketIo_ok _ _ _
  rw [hc']
  exact .ok

/-! ### The whole session -/

/-- **One step of a session**: only a tick adds to the buffer. -/
theorem DefendStep.backlog {o : Observation} (h : Reachable c) (hstep : DefendStep c o c')
    (hact' : c'.defenseInfo.state = .active) :
    c'.cellOutbuf.length ≤ max c.cellOutbuf.length (2 * c.cellSize - 1) := by
  rcases hstep.cases h with ⟨now, sends, sock, htick, -, -⟩ | ⟨-, -, hun⟩
  · obtain ⟨s, hs⟩ := exists_shaper hstep.1
    obtain ⟨hnext, -⟩ := bufloTimerFired_shaper h.outBufferInv hs htick.enabled.2
    obtain ⟨-, rfl⟩ := shaper_eq_some_iff.mp hs
    obtain ⟨s', hs'⟩ := exists_shaper hact'
    rw [hs'] at hnext
    simp only [Shaper.machine] at hnext
    split at hnext
    · cases hnext
    · obtain ⟨-, rfl⟩ := shaper_eq_some_iff.mp hs'
      have hqueued := congrArg Shaper.queued (Option.some.inj hnext)
      simp only [Shaper.sent] at hqueued
      rw [hqueued]
      split <;> omega
  · rw [hun.queued]
    exact le_max_left _ _

/-- **The backlog is bounded.**  In every state of every session the buffer is not longer than
it was when the session began or than two cells less one byte; and a tick that does not end the
session finds or makes at least one cell to offer, keeps to the same bound before the socket has
taken anything, and fails no check for the lack of a cell or because of too many. -/
theorem bounded_backlog {os : List Observation} (h : Reachable c₀)
    (hrun : Run DefendStep c₀ os c) (hact : c.defenseInfo.state = .active) :
    c.cellOutbuf.length ≤ max c₀.cellOutbuf.length (2 * c.cellSize - 1) ∧
    ∀ now sends sock, c.isDoneDefendingSend = false → now < c.defenseInfo.autoStopTimePoint →
      ∃ d : Chan, c.bufloTimerFired now sends sock = d.sendCellOutbuf sock ∧ d.cellSize = c.cellSize ∧
        c.cellSize ≤ d.cellOutbuf.length ∧
        d.cellOutbuf.length ≤ max c₀.cellOutbuf.length (2 * c.cellSize - 1) ∧
        ∀ k, k.IsShort → c.bufloTimerFired now sends sock ≠ .error k := by
  obtain ⟨hr, hsize, hlen⟩ : Reachable c ∧ c.cellSize = c₀.cellSize ∧
      (c.defenseInfo.state = .active →
        c.cellOutbuf.length ≤ max c₀.cellOutbuf.length (2 * c₀.cellSize - 1)) :=
    hrun.invariant (P := fun d => Reachable d ∧ d.cellSize = c₀.cellSize ∧
      (d.defenseInfo.state = .active →
        d.cellOutbuf.length ≤ max c₀.cellOutbuf.length (2 * c₀.cellSize - 1)))
      (fun d o d' ⟨hd, hsd, hld⟩ hstep =>
        ⟨hstep.reachable hd, (hstep.config_eq hd).1.trans hsd, fun hact' => by
          have hone := hstep.backlog hd hact'
          have hbefore := hld hstep.1
          rw [hsd] at hone
          omega⟩)
      ⟨h, rfl, fun _ => le_max_left _ _⟩
  have hlen' := hlen hact
  rw [← hsize] at hlen'
  refine ⟨hlen', fun now sends sock hgoes hlimit => ?_⟩
  obtain ⟨hsame, hwhole, hbound⟩ := filled_length hr.outBufferInv
  have hfills : c.bufloTimerFired now sends sock = c.filled.sendCellOutbuf sock :=
    bufloTimerFired_fills hr.defenseInv hr.outBufferInv hact hgoes hlimit
  refine ⟨c.filled, hfills, hsame, hwhole, by omega, fun k hk => ?_⟩
  have hact' : c.filled.defenseInfo.state = .active := by
    unfold filled
    split
    · exact hact
    · split <;> exact hact
  rw [hfills]
  exact sendCellOutbuf_avoids hk hact' (by rw [hsame]; exact hwhole)

/-- The socket takes 400 bytes of the first cell and then nothing for three ticks: the rest of the
cell and one dummy cell are queued, and the next tick still has a cell to offer. -/
theorem bounded_backlog_blocked : ∃ (c₀ c : Chan) (os : List Observation), Reachable c₀ ∧
    Run DefendStep c₀ os c ∧ c₀.cellOutbuf.length = 350 ∧ c.cellOutbuf.length = 1100 ∧
      c.cellOutbuf.length ≤ max c₀.cellOutbuf.length (2 * c.cellSize - 1) ∧
      ∃ d : Chan, c.bufloTimerFired 80000 [] (.fails .eagain) =
        d.sendCellOutbuf (.fails .eagain) ∧ c.cellSize ≤ d.cellOutbuf.length := by
  obtain ⟨⟨c₀, os, c⟩, hrun, hall⟩ := exists_of_returns
    (x := do
      let c₀ ← exec step (fresh true) [.setAutoStartDefenseSessionOnNextSend,
        .pumpSpdySend [[1]], .socketWritable 0 (.accepts 400)]
      let x ← defend c₀ ([20000, 40000, 60000].map (.bufloTimerFired · [] (.fails .eagain)))
      return (c₀, x))
    (p := fun r => decide (r.2.2.defenseInfo.state = .active ∧
      r.1.cellOutbuf.length = 350 ∧ r.2.2.cellOutbuf.length = 1100 ∧
      r.2.2.isDoneDefendingSend = false ∧ 80000 < r.2.2.defenseInfo.autoStopTimePoint))
    (by decide +kernel)
  obtain ⟨d₀, h₀, hrun⟩ := bind_eq_ok.mp hrun
  obtain ⟨x, hx, hrun⟩ := bind_eq_ok.mp hrun
  cases hrun
  obtain ⟨hact, hfirst, hlast, hgoes, hlimit⟩ := of_decide_eq_true hall
  have hr := exec_reachable (fresh_established true) h₀
  obtain ⟨hle, hticks⟩ := bounded_backlog hr (run_of_defend hx) hact
  obtain ⟨d, hd, -, hwhole, -⟩ := hticks 80000 [] (.fails .eagain) hgoes hlimit
  exact ⟨c₀, c, os, hr, run_of_defend hx, hfirst, hlast, hle, d, hd, hwhole⟩

end Chan

end ShadowBrowser
