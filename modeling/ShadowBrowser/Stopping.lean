/-
Stopping a session more than once.

`stop_defense_session` insists that no stop has been requested yet, and the driver does
not know how far the session is: it asks for a stop when the page has loaded, and again
when the page-load timer fires before the renderer has become quiet.

* `Chan.stopIdempotent_iff` — when the owner can ask for a stop as often as it likes;
* **`stops_accepted_iff`** — in any reachable state, exactly when repeated stops are
  harmless and when the proxy survives the driver's next one;
* `Chan.tick_taken` — a tick of a session whose cells the socket takes one by one;
* **`stops_accepted_iff_twice`** — a page that loads just before it times out.
-/
import ShadowBrowser.Backlog
import ShadowBrowser.Browsing

namespace ShadowBrowser

open Checked Runs

namespace Chan

variable {c c' : Chan}

/-- `n` calls of `stop_defense_session(false)`. -/
def stops : ℕ → Chan → Except Check Chan
  | 0, c => .ok c
  | n + 1, c => c.stopDefenseSession false >>= stops n

/-- The channels differ in their history at most. -/
def SameBut (c c' : Chan) : Prop := { c' with journal := c.journal } = c

/-- The first call is accepted, and so is every further one, which changes nothing. -/
def StopIdempotent (c : Chan) : Prop :=
  ∃ c₁, c.stopDefenseSession false = .ok c₁ ∧ ∀ n, ∃ c', stops n c₁ = .ok c' ∧ SameBut c₁ c'

theorem SameBut.trans {d : Chan} (h : SameBut c c') (h' : SameBut c' d) : SameBut c d := by
  unfold SameBut at *
  rw [← h, ← h']

/-- A session that does not run is given up, and then there is nothing left to stop. -/
theorem stopDefenseSession_idle (h : c.defenseInfo.state ≠ .active) (rightNow : Bool) :
    c.stopDefenseSession rightNow = .ok c.gaveUp :=
  if_pos h

theorem gaveUp_state (c : Chan) : c.gaveUp.defenseInfo.state = .none := rfl

theorem gaveUp_gaveUp (c : Chan) : SameBut c.gaveUp c.gaveUp.gaveUp := rfl

/-- By induction on the number of calls; no state of them is ACTIVE. -/
theorem stops_idle (n : ℕ) :
    ∀ {c : Chan}, c.defenseInfo.state ≠ .active → SameBut c c.gaveUp →
      ∃ c', stops n c = .ok c' ∧ SameBut c c' := by
  induction n with
  | zero =>
    intro c _ _
    exact ⟨c, rfl, rfl⟩
  | succ n ih =>
    intro c hc hsame
    have hnext : c.gaveUp.defenseInfo.state ≠ .active := by simp [gaveUp_state]
    obtain ⟨c', hstops, hc'⟩ := ih hnext (gaveUp_gaveUp c)
    refine ⟨c', ?_, hsame.trans hc'⟩
    rw [stops, stopDefenseSession_idle hc, ok_bind]
    exact hstops

/-- A running session can be stopped once. -/
theorem stopDefenseSession_active_iff (h : c.defenseInfo.state = .active) :
    (∃ c', c.stopDefenseSession false = .ok c') ↔ c.defenseInfo.stopRequested = false := by
  constructor
  · rintro ⟨c', hstop⟩
    rcases stopDefenseSession_cases hstop with ⟨hne, -⟩ | ⟨-, hr, -⟩
    · exact absurd h hne
    · exact hr
  · intro hr
    rw [stopDefenseSession, if_neg (not_not.mpr h), if_pos rfl, check_pos hr, ok_bind]
    exact ⟨_, rfl⟩

/-- **When a channel may be stopped once more.** -/
theorem stopDefenseSession_iff :
    (∃ c', c.stopDefenseSession false = .ok c') ↔
      ¬ (c.defenseInfo.state = .active ∧ c.defenseInfo.stopRequested = true) := by
  by_cases hact : c.defenseInfo.state = .active
  · rw [stopDefenseSession_active_iff hact]
    simp [hact]
  · constructor
    · intro _ hboth
      exact hact hboth.1
    · intro _
      exact ⟨_, stopDefenseSession_idle hact false⟩

/-- The first stop of a running session. -/
theorem stopDefenseSession_first (hact : c.defenseInfo.state = .active)
    (hreq : c.defenseInfo.stopRequested = false) : c.stopDefenseSession false = .ok c.stopping := by
  obtain ⟨c', hc'⟩ := (stopDefenseSession_active_iff hact).mpr hreq
  obtain ⟨hne, -⟩ | ⟨-, -, rfl⟩ := stopDefenseSession_cases hc'
  · exact absurd hact hne
  · exact hc'

theorem stopping_defense (c : Chan) : c.stopping.defenseInfo.state = c.defenseInfo.state ∧
    c.stopping.defenseInfo.stopRequested = true := by
  unfold stopping
  dsimp only
  split <;> exact ⟨rfl, rfl⟩

theorem stopping_numWriteAttempts (c : Chan) :
    c.stopping.defenseInfo.numWriteAttempts = c.defenseInfo.numWriteAttempts := by
  unfold stopping
  dsimp only
  split <;> rfl

/-- The second one. -/
theorem stopDefenseSession_again (hact : c.defenseInfo.state = .active) :
    c.stopping.stopDefenseSession false = .error .stopRequestedTwice := by
  obtain ⟨hstate, hreq⟩ := stopping_defense c
  rw [stopDefenseSession, if_neg (not_not.mpr (hstate.trans hact)), if_pos rfl,
    check_neg (by simp [hreq])]
  rfl

/-- **When stopping is idempotent**: exactly while no session runs. -/
theorem stopIdempotent_iff : c.StopIdempotent ↔ c.defenseInfo.state ≠ .active := by
  constructor
  · rintro ⟨c₁, hfirst, hrest⟩ hact
    -- the first call leaves the session running, with its stop requested
    obtain ⟨c₂, hsecond, -⟩ := hrest 1
    obtain ⟨d, hd, -⟩ := bind_eq_ok.mp hsecond
    have hmay := stopDefenseSession_iff.mp ⟨d, hd⟩
    rcases stopDefenseSession_cases hfirst with ⟨hne, -⟩ | ⟨-, -, rfl⟩
    · exact hne hact
    · exact hmay ⟨(stopping_defense c).1.trans hact, (stopping_defense c).2⟩
  · intro hne
    refine ⟨c.gaveUp, stopDefenseSession_idle hne false, fun n => ?_⟩
    exact stops_idle n (by simp [gaveUp_state]) (gaveUp_gaveUp c)

/-! ### A session that goes on -/

variable {s : Shaper} {now m : ℕ}

/-- What a tick offers when nothing is queued is one cell, of which nothing has been sent. -/
theorem filled_of_empty (hbuf : OutBufferInv c) (hempty : c.cellOutbuf = []) :
    c.filled.cellOutbuf.length = c.filled.cellSize ∧ c.filled.frontCellSentProgress = 0 ∧
      c.filled.outputCellsDataBytesInfo ≠ [] ∧
      c.filled.defenseInfo.state = c.defenseInfo.state ∧
      ∃ k, c.filled.journal = c.journal ++ [.cellAdded k] := by
  have hpos := hbuf.cellSize_pos
  have hfront := hbuf.front_of_whole (hempty ▸ dvd_zero _)
  rw [filled, if_neg (by rw [hempty, List.length_nil]; omega)]
  split
  · refine ⟨?_, hfront, List.append_ne_nil_of_right_ne_nil _ (List.cons_ne_nil _ _), rfl, _, rfl⟩
    simp [addedData, hempty, length_encode (dataCell_fits hbuf.size)]
  · refine ⟨?_, hfront, List.append_ne_nil_of_right_ne_nil _ (List.cons_ne_nil _ _), rfl, _, rfl⟩
    simp [addedDummy, clearFlags, hempty, length_encode (dummyCell_fits hbuf.size.1)]

/-- The socket takes the only cell that is queued. -/
theorem sendWhileActive_taken (hlen : c.cellOutbuf.length = c.cellSize)
    (hfront : c.frontCellSentProgress = 0) (hrec : c.outputCellsDataBytesInfo ≠ [])
    (hpos : 0 < c.cellSize) (hm : c.cellSize ≤ m) :
    ∃ c', c.sendWhileActive (.accepts m) = .ok c' ∧
      ∃ howmuch n bs, c'.journal = c.journal ++ [.wrote howmuch n bs] := by
  have hatt : c.evbufferWriteAtmost c.cellSize (.accepts m) =
      ({ c with
        cellOutbuf := c.cellOutbuf.drop c.cellSize
        journal := c.journal ++ [.wrote c.cellSize c.cellSize (c.cellOutbuf.take c.cellSize)] },
        (c.cellSize : ℤ)) := by
    have htaken : min m (min c.cellSize c.cellOutbuf.length) = c.cellSize := by omega
    simp only [evbufferWriteAtmost, htaken]
  rw [sendWhileActive, check_pos (Nat.le_of_eq hlen.symm), ok_bind, hatt]
  dsimp only
  rw [accountWrite, if_pos (by omega), Int.toNat_natCast]
  exact ⟨_, updateOutputCellProgress_of hfront hrec hpos le_rfl, _, _, _, rfl⟩

/-- **A tick whose cell is taken.**  Where nothing is queued and the session goes on, a socket that
takes a whole cell leaves nothing queued again; the owner is told nothing. -/
theorem tick_taken (hr : Reachable c) (hs : c.shaper = some s) (hempty : s.queued = 0)
    (hgoes : s.endsAt now = false) (hm : s.cellSize ≤ m) :
    ∃ c', c.bufloTimerFired now [] (.accepts m) = .ok c' ∧
      c'.shaper = some { s with numWriteAttempts := s.numWriteAttempts + 1 } ∧
      ClientSideProxy.reports c.journal c' = [] := by
  have hbuf := hr.outBufferInv
  have hpos := hbuf.cellSize_pos
  obtain ⟨hact, hs'⟩ := shaper_eq_some_iff.mp hs
  have hnone : c.cellOutbuf = [] := by
    rw [hs'] at hempty
    exact List.length_eq_zero_iff.mp hempty
  have hsize : s.cellSize = c.cellSize := by rw [hs']
  have hends : c.isDoneDefendingSend = false ∧ now < c.defenseInfo.autoStopTimePoint := by
    rw [hs'] at hgoes
    obtain ⟨hdone, hlimit⟩ := Bool.or_eq_false_iff.mp hgoes
    exact ⟨hdone, by simpa using hlimit⟩
  obtain ⟨hlen, hfront, hrec, hstate, k, hjournal⟩ := filled_of_empty hbuf hnone
  have hfilled : c.filled.cellSize = c.cellSize := (filled_length hbuf).1
  obtain ⟨c', hsend, _, _, _, hjournal'⟩ :=
    sendWhileActive_taken (m := m) hlen hfront hrec (by omega) (by omega)
  have htick : c.bufloTimerFired now [] (.accepts m) = .ok c' := by
    rw [bufloTimerFired_fills hr.defenseInv hbuf hact hends.1 hends.2, sendCellOutbuf,
      check_pos (by omega), ok_bind, if_pos (hstate.trans hact)]
    exact hsend
  refine ⟨c', htick, ?_, ?_⟩
  · obtain ⟨hnext, -⟩ := bufloTimerFired_shaper hbuf hs htick
    have hnot : ¬ s.cellSize ≤ 0 := by omega
    rw [hnext]
    simp [Shaper.machine, hgoes, Shaper.sent, hempty, hnot, SockRes.taken, hm]
  · simp [ClientSideProxy.reports, hjournal', hjournal, ClientSideProxy.asReport]

end Chan

namespace ClientSideProxy

variable {s s' : ClientSideProxy}

/-- A proxy that is ready has a channel, and the timer of the reaper runs. -/
def Tended (s : ClientSideProxy) : Prop :=
  s.state = .ready → s.bufloCh.isSome = true ∧ s.reapTimerRunning = true

/-- While the reaper's timer runs no channel can become ready: by induction on the reports. -/
theorem handleReports_tended {sts : List ChannelStatus} :
    ∀ {s s' : ClientSideProxy}, handleReports sts s = .ok s' → s.reapTimerRunning = true →
      Tended s → Tended s' := by
  induction sts with
  | nil =>
    intro s s' h _ hs
    cases h
    exact hs
  | cons st sts ih =>
    intro s s' h hreap hs
    obtain ⟨t, ht, hrest⟩ := bind_eq_ok.mp h
    cases st with
    | ready =>
      obtain ⟨_, hnot, -⟩ := bind_eq_ok.mp ht
      exact absurd (check_eq_ok.mp hnot) (by simp [hreap])
    | closed =>
      -- the timer is not stopped when the channel closes
      have hone : t.reapTimerRunning = true ∧ t.state = .initial := by
        cases ht
        unfold updateStats resetToInitial
        split <;> split <;> exact ⟨hreap, rfl⟩
      refine ih hrest hone.1 fun hready => ?_
      rw [hone.2] at hready
      cases hready
    | aDefenseSessionDone =>
      cases ht
      exact ih hrest hreap hs

namespace Tended

/-- A step that leaves the channel where it is. -/
theorem of_same (h : Tended s) (hstate : s'.state = s.state)
    (hch : s'.bufloCh.isSome = s.bufloCh.isSome) (hreap : s'.reapTimerRunning = s.reapTimerRunning) :
    Tended s' := by
  intro hready
  obtain ⟨hsome, hruns⟩ := h (hstate.symm.trans hready)
  exact ⟨hch.trans hsome, hreap.trans hruns⟩

theorem of_not_ready (h : s.state ≠ .ready) : Tended s := fun hready => absurd hready h

theorem not_ready_establish (s : ClientSideProxy) :
    s.establishTunnelInternal.state ≠ .ready := by
  unfold establishTunnelInternal
  dsimp only
  split <;> simp

theorem onConnectedToSsp {sock : SockRes} (h : s.onConnectedToSsp sock = .ok s') : Tended s' := by
  obtain ⟨_, -, h⟩ := bind_eq_ok.mp h
  obtain ⟨c, -, h⟩ := bind_eq_ok.mp h
  cases h
  exact of_not_ready (by simp)

/-- An event at the channel. -/
theorem onChannelEvent {e : Event} (h : Tended s) (hinv : s.CspInv) (hown : e.isOwn = true)
    (hpump : e.isPump = true → s.state = .ready) (he : s.onChannelEvent e = .ok s') :
    Tended s' := by
  obtain ⟨c, c', hc, hstep, hrep⟩ := onChannelEvent_eq_ok he
  by_cases hready : s.state = .ready
  · exact handleReports_tended hrep (h hready).2 fun _ => ⟨rfl, (h hready).2⟩
  · obtain ⟨hwaits, -⟩ := hinv.waits c hc hready
    have hnopump : e.isPump = false := by
      by_contra hp
      exact hready (hpump (by simpa using hp))
    have hreports : reports c.journal c' = c'.journal.filterMap asReport := by
      rw [reports, hwaits.unused, List.length_nil, List.drop_zero]
    obtain ⟨-, hw | hj | ⟨hj, -⟩⟩ := hwaits.step hown hnopump hstep
    · rw [hreports, hw.unused] at hrep
      cases hrep
      exact of_not_ready hready
    · rw [hreports, hj] at hrep
      obtain ⟨hnone, -⟩ := handleReports_gone hrep (.inl (by simp [asReport]))
      obtain ⟨t, ht, hrep⟩ := bind_eq_ok.mp hrep
      cases hrep
      cases ht
      refine of_not_ready ?_
      unfold updateStats resetToInitial
      split <;> split <;> simp [log]
    · rw [hreports, hj] at hrep
      obtain ⟨t, ht, hrep⟩ := bind_eq_ok.mp hrep
      cases hrep
      obtain ⟨_, -, ht⟩ := bind_eq_ok.mp ht
      cases ht
      intro _
      split <;> exact ⟨rfl, rfl⟩

/-- **Every step preserves it.** -/
theorem step {e : CspEvent} (h : Tended s) (hinv : s.CspInv) (hstep : s.Step e s') :
    Tended s' := by
  unfold Step ClientSideProxy.step at hstep
  split at hstep
  · next hen =>
    -- a new tunnel starts unready, and most other events leave what is tended alone
    cases e with
    | establishTunnel forceReconnect =>
      obtain ⟨_, -, he⟩ := bind_eq_ok.mp hstep
      cases he
      exact of_not_ready (not_ready_establish _)
    | establishTunnel2 =>
      cases hstep
      exact of_not_ready (not_ready_establish _)
    | closeAllStreams =>
      cases hstep
      exact h.of_same rfl rfl rfl
    | setAutoStartDefenseSessionOnNextSend =>
      obtain ⟨⟨t, ok⟩, ht, he⟩ := bind_eq_ok.mp hstep
      cases he
      obtain ⟨_, -, ht⟩ := bind_eq_ok.mp ht
      split at ht
      · cases ht
        exact h.of_same rfl rfl rfl
      · split at ht
        · cases ht
        · next c hc =>
          obtain ⟨c', -, ht⟩ := bind_eq_ok.mp ht
          cases ht
          exact h.of_same rfl (by rw [hc]; rfl) rfl
    | stopDefenseSession rightNow =>
      simp only [handle, stopDefenseSession] at hstep
      split at hstep
      · cases hstep
        exact h
      · split at hstep
        · cases hstep
        · next c hc =>
          obtain ⟨c', -, ht⟩ := bind_eq_ok.mp hstep
          cases ht
          exact h.of_same rfl (by rw [hc]; rfl) rfl
    | onAccepted =>
      simp only [handle, onAccepted] at hstep
      split at hstep
      · cases hstep
        exact h
      · obtain ⟨_, -, he⟩ := bind_eq_ok.mp hstep
        cases he
        exact h.of_same rfl rfl rfl
    | onClientHandlerDone objId =>
      cases hstep
      exact h.of_same rfl rfl rfl
    | onConnected sock =>
      simp only [handle, onConnected] at hstep
      split at hstep
      · obtain ⟨_, -, he⟩ := bind_eq_ok.mp hstep
        cases he
        exact of_not_ready (by simp)
      · exact onConnectedToSsp hstep
      · cases hstep
    | onConnectError => cases hstep
    | onSocksTargetConnectResult ok sock =>
      simp only [handle, onSocksTargetConnectResult] at hstep
      split at hstep
      · obtain ⟨_, -, he⟩ := bind_eq_ok.mp hstep
        obtain ⟨_, -, he⟩ := bind_eq_ok.mp he
        exact onConnectedToSsp he
      · cases hstep
    | reapBufloChannelTimerFired nowMs =>
      cases hstep
      unfold reapBufloChannelTimerFired
      split
      · exact h
      · split
        · exact of_not_ready (not_ready_establish _)
        · exact h
    | bufloCh e => exact h.onChannelEvent hinv hen.1 hen.2 hstep
  · cases hstep

end Tended

theorem Initial.tended (h : s.Initial) : Tended s := .of_not_ready (by simp [h.state])

end ClientSideProxy

namespace Browsing

variable {s s' s₀ : Browsing} {sh : Shaper}

/-- A session runs on the proxy's channel, and is to be stopped already. -/
def Stopping (s : Browsing) : Prop :=
  ∃ c, s.csp.bufloCh = some c ∧
    c.defenseInfo.state = .active ∧ c.defenseInfo.stopRequested = true

/-- The proxy stops the session of its channel or does nothing. -/
theorem stopDefenseSession_returns_iff (h : s.csp.Tended) :
    (∃ csp, s.csp.stopDefenseSession false = .ok csp) ↔
      (0 < s.csp.bufloCellSize → s.csp.state = .ready → ¬ s.Stopping) := by
  unfold ClientSideProxy.stopDefenseSession
  by_cases hskip : s.csp.bufloCellSize = 0 ∨ s.csp.state ≠ .ready
  · rw [if_pos hskip]
    constructor
    · intro _ hpos hready
      rcases hskip with h | h
      · omega
      · exact absurd hready h
    · intro _
      exact ⟨_, rfl⟩
  · rw [if_neg hskip]
    obtain ⟨hpos, hready⟩ := not_or.mp hskip
    have hneeded : (0 < s.csp.bufloCellSize → s.csp.state = .ready → ¬ s.Stopping) ↔
        ¬ s.Stopping :=
      ⟨fun h => h (by omega) (not_not.mp hready), fun h _ _ => h⟩
    obtain ⟨c, hc⟩ := Option.isSome_iff_exists.mp (h (not_not.mp hready)).1
    have hone : ¬ s.Stopping ↔ ∃ c', c.stopDefenseSession false = .ok c' := by
      rw [Chan.stopDefenseSession_iff]
      simp [Stopping, hc]
    rw [hneeded, hone, hc]
    constructor
    · rintro ⟨csp, h⟩
      obtain ⟨c', hc', -⟩ := bind_eq_ok.mp h
      exact ⟨c', ClientSideProxy.callChannel_eq_ok hc'⟩
    · rintro ⟨c', hc'⟩
      refine ⟨{ s.csp with bufloCh := some c' }, ?_⟩
      simp only [hc', ClientSideProxy.callChannel]
      rfl

/-- What holds of the proxy alone holds of it here. -/
theorem Step.tended {e : BrowsingEvent} (hinv : s.csp.CspInv) (h : s.csp.Tended)
    (hstep : Step s e s') : s'.csp.Tended := by
  unfold Step Browsing.step at hstep
  split at hstep
  · cases hstep
    exact h
  · obtain ⟨d, -, hstep⟩ := bind_eq_ok.mp hstep
    cases hstep
    exact h
  · split at hstep
    · cases hstep
    · obtain ⟨csp, hcsp, hstep⟩ := bind_eq_ok.mp hstep
      cases hstep
      exact h.step hinv (eq_ok_of_mapError hcsp)
  · obtain ⟨_, -, hstep⟩ := bind_eq_ok.mp hstep
    obtain ⟨csp, hcsp, hstep⟩ := bind_eq_ok.mp hstep
    cases hstep
    exact h.step hinv (eq_ok_of_mapError hcsp)

theorem step_deliver {calls : List TproxyCall}
    (hcall : s.driver.tproxyCalls = .stopDefense false :: calls) :
    s.step .deliver = (do
      let csp ← (s.csp.stopDefenseSession false).mapError BrowsingCheck.csp
      return { s with driver := { s.driver with tproxyCalls := calls }, csp }) := by
  simp only [step, hcall]
  rfl

theorem step_driver {e : DriverEvent} {d : Driver} {n : ℕ} (hclock : s.clock = 1000 * n)
    (h : s.driver.step n e = .ok d) : s.step (.driver e) = .ok { s with driver := d } := by
  rw [step, hclock, Nat.mul_div_cancel_left n (by decide), h]
  rfl

/-- The call reaches the channel of a proxy that is ready. -/
theorem step_deliver_ready {calls : List TproxyCall} {c : Chan}
    (hcall : s.driver.tproxyCalls = .stopDefense false :: calls)
    (hready : s.csp.state = .ready ∧ 0 < s.csp.bufloCellSize) (hc : s.csp.bufloCh = some c) :
    s.step .deliver = ((c.stopDefenseSession false).mapError (.csp ∘ .channel)).map fun c' =>
      { s with
        driver := { s.driver with tproxyCalls := calls }
        csp := { s.csp with bufloCh := some c' } } := by
  have hgoes : ¬ (s.csp.bufloCellSize = 0 ∨ s.csp.state ≠ .ready) := by
    simp [hready.1, Nat.pos_iff_ne_zero.mp hready.2]
  rw [step_deliver hcall, ClientSideProxy.stopDefenseSession, if_neg hgoes, hc]
  dsimp only
  cases c.stopDefenseSession false <;> rfl

/-- **When stopping is safe.**  A channel can be stopped any number of times, and the repeated
stops change nothing, if and only if no session runs on it.  In every state that the driver and
the proxy can reach and in which the driver's call to stop the session is the next to be
handled: the proxy survives the call if and only if, should it use cells and be ready, no
session that is to be stopped already runs on its channel. -/
theorem stops_accepted_iff {es : List BrowsingEvent} (hinit : Initial s₀)
    (hrun : Run Step s₀ es s) :
    (∀ c : Chan, c.StopIdempotent ↔ c.defenseInfo.state ≠ .active) ∧
    ∀ calls, s.driver.tproxyCalls = .stopDefense false :: calls →
      ((∃ s', Step s .deliver s') ↔
        (0 < s.csp.bufloCellSize → s.csp.state = .ready → ¬ s.Stopping)) := by
  refine ⟨fun c => Chan.stopIdempotent_iff, fun calls hcall => ?_⟩
  have hinv : s.csp.CspInv ∧ s.csp.Tended :=
    hrun.invariant (P := fun t => t.csp.CspInv ∧ t.csp.Tended)
      (fun _ _ _ hi hstep => ⟨hstep.cspInv hi.1, hstep.tended hi.1 hi.2⟩)
      ⟨hinit.csp.cspInv, hinit.csp.tended⟩
  rw [← stopDefenseSession_returns_iff hinv.2]
  rw [show (∃ s', Step s .deliver s') ↔ ∃ s', s.step .deliver = .ok s' from Iff.rfl,
    step_deliver hcall]
  constructor
  · rintro ⟨s', h⟩
    obtain ⟨csp, hcsp, -⟩ := bind_eq_ok.mp h
    exact ⟨csp, eq_ok_of_mapError hcsp⟩
  · rintro ⟨csp, hcsp⟩
    rw [hcsp]
    exact ⟨_, rfl⟩

/-! ### One page -/

/-- The session runs on the channel, nothing of it is queued, and nobody has asked to stop it. -/
structure Paces (s : Browsing) (sh : Shaper) : Prop where
  inv : s.csp.CspInv
  ready : s.csp.state = .ready ∧ 0 < s.csp.bufloCellSize
  channel : ∃ c, s.csp.bufloCh = some c ∧ c.shaper = some sh
  queued : sh.queued = 0
  unasked : sh.stopRequested = false
  fits : sh.cellSize ≤ 750

/-- **One tick**, in which the driver takes no part. -/
theorem Paces.tick (h : s.Paces sh) {now : ℕ} (hnow : now = s.clock + 125000)
    (ht : now < sh.autoStopTimePoint) :
    ∃ s', Run Step s [.elapse 125000, .csp (.bufloCh (.bufloTimerFired now [] (.accepts 750)))] s' ∧
      s'.Paces { sh with numWriteAttempts := sh.numWriteAttempts + 1 } ∧
      s'.clock = now ∧ s'.driver = s.driver := by
  obtain ⟨c, hc, hs⟩ := h.channel
  obtain ⟨hr, -, hopen⟩ := h.inv.ready c hc h.ready.1 h.ready.2
  have hgoes : sh.endsAt now = false := by
    rw [Shaper.endsAt, h.unasked]
    simpa using ht
  obtain ⟨c', htick, hs', hreports⟩ := Chan.tick_taken hr hs h.queued hgoes h.fits
  have hen : c.Enabled (.bufloTimerFired now [] (.accepts 750)) :=
    ⟨hopen, hr.defenseInv.timer.mpr (Chan.shaper_eq_some_iff.mp hs).1⟩
  have hchan : c.step (.bufloTimerFired now [] (.accepts 750)) = .ok c' :=
    (if_pos hen).trans htick
  have hcsp : s.csp.step (.bufloCh (.bufloTimerFired now [] (.accepts 750))) =
      .ok { s.csp with bufloCh := some c' } := by
    rw [ClientSideProxy.step, if_pos ⟨rfl, fun hpump => absurd hpump Bool.false_ne_true⟩]
    simp only [ClientSideProxy.handle, ClientSideProxy.onChannelEvent, hc, hchan]
    rw [show ClientSideProxy.callChannel (.ok c') = .ok c' from rfl, ok_bind, hreports]
    rfl
  have hstep : Step { s with clock := now }
      (.csp (.bufloCh (.bufloTimerFired now [] (.accepts 750))))
      { s with clock := now, csp := { s.csp with bufloCh := some c' } } := by
    have htime : (CspEvent.bufloCh (.bufloTimerFired now [] (.accepts 750))).happensAt now = true :=
      beq_self_eq_true now
    rw [Step, step, check_pos ⟨rfl, htime⟩, ok_bind, hcsp]
    rfl
  exact ⟨_, .cons (by rw [hnow]; rfl) (.cons hstep (.nil _)),
    ⟨Step.cspInv (s := { s with clock := now }) h.inv hstep, h.ready, ⟨c', rfl, hs'⟩, h.queued,
      h.unasked, h.fits⟩, rfl, rfl⟩

/-- **A session that goes on**, by induction on the ticks. -/
theorem Paces.ticks (h : s.Paces sh) (n : ℕ) (ht : s.clock + n * 125000 < sh.autoStopTimePoint) :
    ∃ s', Run Step s (ticks s.clock n) s' ∧
      s'.Paces { sh with numWriteAttempts := sh.numWriteAttempts + n } ∧
      s'.clock = s.clock + n * 125000 ∧ s'.driver = s.driver := by
  induction n with
  | zero => exact ⟨s, .nil s, h, by omega, rfl⟩
  | succ n ih =>
    have hsucc : s.clock + (n + 1) * 125000 = s.clock + n * 125000 + 125000 := by
      rw [Nat.add_one_mul, Nat.add_assoc]
    rw [hsucc] at ht
    obtain ⟨t, hrun, hpaces, hclock, hdriver⟩ := ih (Nat.lt_of_add_right_lt ht)
    have hnow : s.clock + (n + 1) * 125000 = t.clock + 125000 := by rw [hsucc, hclock]
    obtain ⟨s', hone, hpaces', hclock', hdriver'⟩ := hpaces.tick hnow (hsucc.symm ▸ ht)
    refine ⟨s', ?_, hpaces', hclock', hdriver'.trans hdriver⟩
    rw [Browsing.ticks, List.range_succ, List.flatMap_append, List.flatMap_singleton]
    exact hrun.append hone

/-- The session of `slow`, when its first cell has been taken. -/
def running : Shaper where
  cellSize := 750
  tamarawL := 1000
  queued := 0
  numWriteAttempts := 1
  autoStopTimePoint := 180000000
  stopRequested := false

/-- The page loads one tenth of a second before its time is over, and the renderer is not quiet
yet when the timer fires. -/
def loadsLate : List BrowsingEvent :=
  [.elapse 25000, .driver (.pageLoaded 1 100), .deliver, .elapse 100000, .driver .pageLoadTimeout]

/-- The state in which the session of the page has begun, and the driver when the page has loaded
and when its time is over. -/
def pageTimes : Except BrowsingCheck (Browsing × Driver × Driver) := do
  let s ← exec step slow begins
  let d ← (s.driver.step 119900 (.pageLoaded 1 100)).mapError .driver
  let d' ← ({ d with tproxyCalls := [] }.step 120000 .pageLoadTimeout).mapError .driver
  return (s, d, d')

/-- In both the driver has one call to make, which is to stop the session. -/
theorem pageTimes_calls : ∃ s d d', exec step slow begins = .ok s ∧
    s.driver.step 119900 (.pageLoaded 1 100) = .ok d ∧
    { d with tproxyCalls := [] }.step 120000 .pageLoadTimeout = .ok d' ∧
    d.tproxyCalls = [.stopDefense false] ∧ d'.tproxyCalls = [.stopDefense false] ∧
    s.clock = 0 ∧ s.Paces running := by
  obtain ⟨⟨s, d, d'⟩, hall, h⟩ := exists_of_returns (x := pageTimes)
    (p := fun r => decide (r.2.1.tproxyCalls = [.stopDefense false] ∧
        r.2.2.tproxyCalls = [.stopDefense false] ∧ r.1.clock = 0 ∧ r.1.csp.state = .ready ∧
        0 < r.1.csp.bufloCellSize) &&
      ClientSideProxy.channelHas (fun c => decide (c.shaper = some running)) r.1.csp)
    (by decide +kernel)
  obtain ⟨h, hchan⟩ := Bool.and_eq_true_iff.mp h
  obtain ⟨hcall, hcall', hzero, hready, hpos⟩ := of_decide_eq_true h
  obtain ⟨c, hc, hs⟩ := ClientSideProxy.exists_of_channelHas hchan
  obtain ⟨s, hs', hall⟩ := bind_eq_ok.mp hall
  obtain ⟨d, hd, hall⟩ := bind_eq_ok.mp hall
  obtain ⟨d', hd', hall⟩ := bind_eq_ok.mp hall
  cases hall
  exact ⟨s, d, d', hs', eq_ok_of_mapError hd, eq_ok_of_mapError hd', hcall, hcall', hzero,
    { inv := (run_of_exec hs').invariant (P := fun t => t.csp.CspInv)
        (fun _ _ _ hi hstep => Step.cspInv hi hstep) (ClientSideProxy.CspInv.noChannel rfl)
      ready := ⟨hready, hpos⟩
      channel := ⟨c, hc, of_decide_eq_true hs⟩
      queued := rfl
      unasked := rfl
      fits := le_rfl }⟩

/-- After 960 of the 1000 attempts, the session that the first call asked to stop still runs when
the second call arrives: it aborts the proxy. -/
theorem stops_accepted_iff_twice : ∃ s₀ es s c, Initial s₀ ∧ Run Step s₀ es s ∧
    s.csp.bufloCh = some c ∧ c.defenseInfo.numWriteAttempts = 960 ∧
    s.driver.tproxyCalls = [.stopDefense false] ∧
      s.step .deliver = .error (.csp (.channel .stopRequestedTwice)) := by
  obtain ⟨s, d, d', hbegins, hloaded, htimeout, hcall, hcall', hzero, hpaces⟩ := pageTimes_calls
  obtain ⟨t, hticks, ht, hclock, hdriver⟩ := hpaces.ticks 959 (by rw [hzero]; decide)
  obtain ⟨c, hc, hs⟩ := ht.channel
  obtain ⟨hact, hshaper⟩ := Chan.shaper_eq_some_iff.mp hs
  have hunasked : c.defenseInfo.stopRequested = false :=
    (congrArg Shaper.stopRequested hshaper).symm
  have hattempts : c.defenseInfo.numWriteAttempts = 960 := by
    simpa [running] using (congrArg Shaper.numWriteAttempts hshaper).symm
  let csp : ClientSideProxy := { t.csp with bufloCh := some c.stopping }
  let u : Browsing := { t with clock := 1000 * 119900, driver := d }
  let v : Browsing := { driver := d', csp, clock := 1000 * 120000 }
  have hloads : t.step (.elapse 25000) = .ok { t with clock := 1000 * 119900 } := by
    rw [step, hclock, hzero]
    norm_num
  have hpage : step { t with clock := 1000 * 119900 } (.driver (.pageLoaded 1 100)) = .ok u :=
    step_driver rfl (by rw [hdriver]; exact hloaded)
  have hfirst : u.step .deliver = .ok { u with driver := { d with tproxyCalls := [] }, csp } := by
    rw [step_deliver_ready (s := u) hcall ht.ready hc, Chan.stopDefenseSession_first hact hunasked]
    rfl
  have helapse : step { u with driver := { d with tproxyCalls := [] }, csp } (.elapse 100000) =
      .ok { u with driver := { d with tproxyCalls := [] }, csp, clock := 1000 * 120000 } := by
    rw [step]
    norm_num
  have hlate : step { u with driver := { d with tproxyCalls := [] }, csp, clock := 1000 * 120000 }
      (.driver .pageLoadTimeout) = .ok v :=
    step_driver rfl htimeout
  have hsecond : v.step .deliver = .error (.csp (.channel .stopRequestedTwice)) := by
    rw [step_deliver_ready (s := v) hcall' ht.ready rfl, Chan.stopDefenseSession_again hact]
    rfl
  have hrun : Run Step t loadsLate v :=
    .cons hloads (.cons hpage (.cons hfirst (.cons helapse (.cons hlate (.nil v)))))
  exact ⟨slow, _, v, c.stopping, ⟨⟨rfl, rfl⟩, rfl, rfl, ⟨rfl, rfl⟩, rfl, rfl⟩,
    ((run_of_exec hbegins).append hticks).append hrun, rfl,
    (Chan.stopping_numWriteAttempts c).trans hattempts, hcall', hsecond⟩

/-- The driver's call to stop the session is the next to be handled. -/
def callsStop (s : Browsing) : Bool := decide (s.driver.tproxyCalls = [.stopDefense false])

/-- The first call finds a session that nobody has stopped yet. -/
theorem stops_accepted_iff_once : ∃ s₀ es s calls, Initial s₀ ∧ Run Step s₀ es s ∧
    s.driver.tproxyCalls = .stopDefense false :: calls ∧ s.csp.state = .ready ∧
      ∃ s', Step s .deliver s' := by
  obtain ⟨s, hs, h⟩ := exists_of_returns
    (x := exec step slow (begins ++ [.driver (.pageLoaded 1 100)]))
    (p := fun s => s.callsStop && (decide (s.csp.state = .ready) &&
      ClientSideProxy.channelHas (fun c => decide (c.defenseInfo.stopRequested = false)) s.csp))
    (by decide +kernel)
  obtain ⟨hcalls, h⟩ := Bool.and_eq_true_iff.mp h
  obtain ⟨hready, h⟩ := Bool.and_eq_true_iff.mp h
  obtain ⟨c, hc, hnot⟩ := ClientSideProxy.exists_of_channelHas h
  have hinit : Initial slow := ⟨⟨rfl, rfl⟩, rfl, rfl, ⟨rfl, rfl⟩, rfl, rfl⟩
  have hcall := of_decide_eq_true hcalls
  refine ⟨slow, _, s, [], hinit, run_of_exec hs, hcall, of_decide_eq_true hready, ?_⟩
  refine ((stops_accepted_iff hinit (run_of_exec hs)).2 [] hcall).mpr fun _ _ => ?_
  rintro ⟨d, hd, -, hreq⟩
  obtain rfl : c = d := Option.some_inj.mp (hc.symm.trans hd)
  exact absurd hreq (by simp [of_decide_eq_true hnot])

end Browsing

end ShadowBrowser
