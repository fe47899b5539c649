/-
Traffic of an armed load is defended.

Being armed is state of one channel object.  This file follows that object through
the proxy's runs:

* `CspInv` — the channel of a proxy waits for the server's peer info, or the proxy is
  ready and the channel is one of those that `Reachable` describes;
* `replacesArmed` — the steps in which the proxy itself throws an armed channel away;
* **`armed_load_defended`** — in a run without such steps, without a stop request and
  in which the channel is not closed from outside, everything that leaves after a
  successful arming leaves in the cells of a session that begins with START;
* **`armed_load_defended_reaped`** — the reaper does throw an armed channel away.
-/
import ShadowBrowser.Handshake

namespace ShadowBrowser

open Checked Runs

namespace ClientSideProxy

variable {s s' : ClientSideProxy} {c c' b : Chan}

/-! ### What the proxy does about a report -/

/-- Reports other than CLOSED leave the proxy its channel. -/
theorem handleReports_keeps : ∀ {sts : List ChannelStatus} {s s' : ClientSideProxy},
    handleReports sts s = .ok s' → .closed ∉ sts →
      s'.bufloCh = s.bufloCh ∧ s'.bufloPacketIntvlMs = s.bufloPacketIntvlMs ∧
        s'.state = if .ready ∈ sts then .ready else s.state := by
  intro sts
  induction sts with
  | nil =>
    intro s s' h _
    cases h
    exact ⟨rfl, rfl, rfl⟩
  | cons st sts ih =>
    intro s s' h hn
    obtain ⟨t, ht, h⟩ := bind_eq_ok.mp h
    simp only [List.mem_cons, not_or] at hn
    obtain ⟨hch, hcfg, hstate⟩ := ih h hn.2
    cases st with
    | closed => exact absurd rfl hn.1
    | ready =>
      obtain ⟨_, -, ht⟩ := bind_eq_ok.mp ht
      have hready : t.bufloCh = s.bufloCh ∧ t.bufloPacketIntvlMs = s.bufloPacketIntvlMs ∧
          t.state = .ready := by
        cases ht
        split <;> exact ⟨rfl, rfl, rfl⟩
      refine ⟨hch.trans hready.1, hcfg.trans hready.2.1, ?_⟩
      rw [hstate, hready.2.2]
      simp
    | aDefenseSessionDone =>
      cases ht
      refine ⟨hch, hcfg, ?_⟩
      rw [hstate]
      simp [log]

/-- After CLOSED the proxy has no channel. -/
theorem handleReports_gone : ∀ {sts : List ChannelStatus} {s s' : ClientSideProxy},
    handleReports sts s = .ok s' → .closed ∈ sts ∨ s.bufloCh = none →
      s'.bufloCh = none ∧ s'.bufloPacketIntvlMs = s.bufloPacketIntvlMs := by
  intro sts
  induction sts with
  | nil =>
    intro s s' h hn
    cases h
    exact ⟨by simpa using hn, rfl⟩
  | cons st sts ih =>
    intro s s' h hn
    obtain ⟨t, ht, h⟩ := bind_eq_ok.mp h
    have hone : t.bufloPacketIntvlMs = s.bufloPacketIntvlMs ∧
        (.closed ∈ sts ∨ t.bufloCh = none) := by
      cases st with
      | closed =>
        cases ht
        unfold updateStats resetToInitial
        split <;> split <;> exact ⟨rfl, .inr rfl⟩
      | ready =>
        obtain ⟨_, -, ht⟩ := bind_eq_ok.mp ht
        cases ht
        have hn' : .closed ∈ sts ∨ s.bufloCh = none := by simpa using hn
        split <;> exact ⟨rfl, hn'⟩
      | aDefenseSessionDone =>
        cases ht
        have hn' : .closed ∈ sts ∨ s.bufloCh = none := by simpa using hn
        exact ⟨rfl, hn'⟩
    obtain ⟨hch, hcfg⟩ := ih h hone.2
    exact ⟨hch, hcfg.trans hone.1⟩

theorem callChannel_eq_ok {x : Except Check Chan} (h : callChannel x = .ok c) : x = .ok c := by
  cases x with
  | error k => cases h
  | ok d =>
    cases h
    rfl

/-- **What an event at the channel does.** -/
theorem onChannelEvent_eq_ok {e : Event} (h : s.onChannelEvent e = .ok s') :
    ∃ c c', s.bufloCh = some c ∧ c.Step e c' ∧
      handleReports (reports c.journal c') { s with bufloCh := some c' } = .ok s' := by
  unfold onChannelEvent at h
  split at h
  · cases h
  · next c hc =>
    obtain ⟨c', hstep, h⟩ := bind_eq_ok.mp h
    exact ⟨c, c', hc, callChannel_eq_ok hstep, h⟩

/-- A channel that has closed has reported it. -/
theorem closed_reported (hm : Chan.Micros c c') (hopen : c.closed = false)
    (hclosed : c'.closed = true) : .closed ∈ reports c.journal c' := by
  have key : ∀ d, Chan.Micros c d → d.closed = true → .status .closed ∈
      d.journal.drop c.journal.length := by
    intro d hd
    induction hd with
    | refl =>
      intro h
      exact absurd h (by simp [hopen])
    | @tail d d' hd hstep ih =>
      intro h
      obtain ⟨as, has⟩ := Chan.Micros.journal hd
      obtain ⟨bs, hbs⟩ := (Chan.Micros.journal (.single hstep))
      by_cases hd' : d.closed = true
      · -- it had closed before
        have hmem := ih hd'
        rw [← has, List.drop_left] at hmem
        rw [← hbs, ← has, List.append_assoc, List.drop_left]
        exact List.mem_append_left _ hmem
      · have hnow : d' = d.onSocketClosed := by
          rcases hstep with hout | hctl | ha
          · cases hout <;> first | rfl | exact absurd h hd'
          · refine absurd ?_ hd'
            rw [← h]
            cases hctl <;> first | rfl | (simp only [Chan.stopping, Chan.finished]; split <;> rfl)
          · refine absurd ?_ hd'
            rw [← h, ha.same]
        subst hnow
        show Act.status .closed ∈ (d.journal ++ [Act.status .closed]).drop c.journal.length
        rw [← has, List.append_assoc, List.drop_left]
        simp
  exact List.mem_filterMap.mpr ⟨_, key c' hm hclosed, rfl⟩

/-! ### The channel of a proxy -/

/-- What holds of the channel of a proxy. -/
structure CspInv (s : ClientSideProxy) : Prop where
  waits : ∀ c, s.bufloCh = some c → s.state ≠ .ready →
    c.AwaitsPeerInfo ∧ c.cellSize = s.bufloCellSize
  ready : ∀ c, s.bufloCh = some c → s.state = .ready → 0 < s.bufloCellSize →
    c.Reachable ∧ c.isClientSide = true ∧ c.closed = false

namespace CspInv

theorem noChannel (h : s.bufloCh = none) : CspInv s := by
  refine ⟨?_, ?_⟩ <;> simp [h]

/-- Nothing that concerns the channel has changed. -/
theorem of_same (h : CspInv s) (hch : s'.bufloCh = s.bufloCh) (hstate : s'.state = s.state)
    (hcfg : s'.bufloPacketIntvlMs = s.bufloPacketIntvlMs) : CspInv s' := by
  have hsize : s'.bufloCellSize = s.bufloCellSize := by rw [bufloCellSize, hcfg, bufloCellSize]
  refine ⟨?_, ?_⟩
  · rw [hch, hstate, hsize]
    exact h.waits
  · rw [hch, hstate, hsize]
    exact h.ready

/-- The proxy is connected to the server side, and makes a channel. -/
theorem onConnectedToSsp {sock : SockRes} (h : s.onConnectedToSsp sock = .ok s') : CspInv s' := by
  obtain ⟨_, -, h⟩ := bind_eq_ok.mp h
  obtain ⟨c, hnew, h⟩ := bind_eq_ok.mp h
  obtain ⟨hwaits, hsize⟩ := Chan.new_awaits (callChannel_eq_ok hnew)
  cases h
  refine ⟨?_, ?_⟩
  · rintro d ⟨⟩ -
    exact ⟨hwaits, hsize⟩
  · intro d _ hready
    cases hready

/-- **An event at the channel.** -/
theorem onChannelEvent {e : Event} (h : CspInv s) (hown : e.isOwn = true)
    (hpump : e.isPump = true → s.state = .ready) (he : s.onChannelEvent e = .ok s') :
    CspInv s' := by
  obtain ⟨c, c', hc, hstep, hrep⟩ := onChannelEvent_eq_ok he
  by_cases hclosed : ChannelStatus.closed ∈ reports c.journal c'
  · exact noChannel (handleReports_gone hrep (.inl hclosed)).1
  · obtain ⟨hch, hcfg, hstate⟩ := handleReports_keeps hrep hclosed
    have hch' : s'.bufloCh = some c' := hch
    have hsize : s'.bufloCellSize = s.bufloCellSize := by rw [bufloCellSize, hcfg, bufloCellSize]
    by_cases hready : s.state = .ready
    · have hready' : s'.state = .ready := by
        rw [hstate]
        split
        · rfl
        · exact hready
      refine ⟨fun _ _ hne => absurd hready' hne, ?_⟩
      rw [hch', hsize]
      rintro d ⟨⟩ - hpos
      obtain ⟨hr, hcl, hopen⟩ := h.ready c hc hready hpos
      have hm := hr.step_micros hstep
      have hconf := hm.config_eq
      simp only [Chan.config, Prod.mk.injEq] at hconf
      refine ⟨hr.snoc hstep, hconf.1.1.trans hcl, ?_⟩
      by_contra hcl'
      exact hclosed (closed_reported hm hopen (by simpa using hcl'))
    · -- a channel that was not ready becomes so when it is established, and then says it
      obtain ⟨hwaits, hcell⟩ := h.waits c hc hready
      have hnopump : e.isPump = false := by
        by_contra hp
        exact hready (hpump (by simpa using hp))
      have hreports : reports c.journal c' = c'.journal.filterMap asReport := by
        rw [reports, hwaits.unused, List.length_nil, List.drop_zero]
      obtain ⟨hcell', hw | hj | ⟨hj, hest⟩⟩ := hwaits.step hown hnopump hstep
      · -- it goes on waiting
        have hnone : ChannelStatus.ready ∉ reports c.journal c' := by
          rw [hreports, hw.unused]
          simp
        rw [if_neg hnone] at hstate
        refine ⟨?_, fun _ _ hr => absurd (hstate.symm.trans hr) hready⟩
        rw [hch', hsize]
        rintro d ⟨⟩ -
        exact ⟨hw, hcell'.trans hcell⟩
      · refine absurd ?_ hclosed
        rw [hreports, hj]
        simp [asReport]
      · -- it is ready
        have hready' : s'.state = .ready := by
          rw [hstate, if_pos]
          rw [hreports, hj]
          simp [asReport]
        refine ⟨fun _ _ hne => absurd hready' hne, ?_⟩
        rw [hch', hsize]
        rintro d ⟨⟩ - hpos
        obtain ⟨hest, hcl⟩ := hest (by omega)
        exact ⟨⟨c', [], hest, .nil c'⟩, hcl, hest.events.2.2⟩

/-- A call of the owner that the channel answers. -/
theorem ownerCall {e : Event} (h : CspInv s) (hc : s.bufloCh = some c) (hready : s.state = .ready)
    (hpos : 0 < s.bufloCellSize) (hen : c.closed = false → c.Enabled e)
    (hcall : c.handle e = .ok c') (hsame : c'.closed = c.closed) :
    CspInv { s with bufloCh := some c' } := by
  refine ⟨fun _ _ hne => absurd hready hne, ?_⟩
  rintro d ⟨⟩ - -
  obtain ⟨hr, hcl, hopen⟩ := h.ready c hc hready hpos
  have hstep : c.Step e c' := by
    rw [Chan.Step, Chan.step, if_pos (hen hopen)]
    exact hcall
  have hconf := (hr.step_micros hstep).config_eq
  simp only [Chan.config, Prod.mk.injEq] at hconf
  exact ⟨hr.snoc hstep, hconf.1.1.trans hcl, hsame.trans hopen⟩

/-- **Every step preserves it.** -/
theorem step {e : CspEvent} (h : CspInv s) (hstep : s.Step e s') : CspInv s' := by
  unfold Step ClientSideProxy.step at hstep
  split at hstep
  · next hen =>
    cases e with
    -- the old channel goes with the tunnel, so nothing waits any more
    | establishTunnel forceReconnect =>
      obtain ⟨_, -, he⟩ := bind_eq_ok.mp hstep
      cases he
      refine noChannel ?_
      simp [establishTunnelInternal, resetToInitial]
    | establishTunnel2 =>
      cases hstep
      refine noChannel ?_
      simp [establishTunnelInternal, resetToInitial]
    | closeAllStreams =>
      cases hstep
      exact h.of_same rfl rfl rfl
    | setAutoStartDefenseSessionOnNextSend =>
      obtain ⟨⟨t, ok⟩, ht, he⟩ := bind_eq_ok.mp hstep
      cases he
      refine CspInv.of_same (s := t) ?_ rfl rfl rfl
      obtain ⟨_, hpos, ht⟩ := bind_eq_ok.mp ht
      split at ht
      · cases ht
        exact h
      · next hready =>
        split at ht
        · cases ht
        · next c hc =>
          obtain ⟨c', hcall, ht⟩ := bind_eq_ok.mp ht
          cases ht
          have harm := callChannel_eq_ok hcall
          obtain ⟨-, e⟩ := Chan.setAutoStartDefenseSessionOnNextSend_eq_ok harm
          exact h.ownerCall hc (not_not.mp hready) (check_eq_ok.mp hpos)
            (e := .setAutoStartDefenseSessionOnNextSend) (fun ho => ⟨ho, trivial⟩) harm
            (by rw [e]; rfl)
    | stopDefenseSession rightNow =>
      simp only [handle, stopDefenseSession] at hstep
      split at hstep
      · cases hstep
        exact h
      · next hgo =>
        split at hstep
        · cases hstep
        · next c hc =>
          obtain ⟨c', hcall, ht⟩ := bind_eq_ok.mp hstep
          cases ht
          have hstop := callChannel_eq_ok hcall
          have hsame : c'.closed = c.closed := by
            -- stopping only writes the defense's own fields
            rcases Chan.stopDefenseSession_cases hstop with ⟨-, e⟩ | ⟨-, -, e⟩
            · rw [e]
              rfl
            · rw [e, Chan.stopping]
              dsimp only
              split <;> rfl
          exact h.ownerCall hc (by tauto) (by omega)
            (e := .stopDefenseSession rightNow) (fun ho => ⟨ho, trivial⟩) hstop hsame
    | onAccepted =>
      simp only [handle, onAccepted] at hstep
      split at hstep
      · cases hstep
        exact h
      · obtain ⟨_, -, he⟩ := bind_eq_ok.mp hstep
        cases he
        exact h.of_same rfl rfl rfl
    | onClientHandlerDone objId =>
      cases hstep
      exact h.of_same rfl rfl rfl
    | onConnected sock =>
      simp only [handle, onConnected] at hstep
      split at hstep
      · -- the SOCKS proxy is reached; the SSP comes next
        next hstate =>
        obtain ⟨_, -, he⟩ := bind_eq_ok.mp hstep
        cases he
        refine ⟨?_, fun _ _ hr => by cases hr⟩
        rintro c hc -
        exact h.waits c hc (by simp [hstate])
      · exact onConnectedToSsp hstep
      · cases hstep
    | onConnectError => cases hstep
    | onSocksTargetConnectResult ok sock =>
      simp only [handle, onSocksTargetConnectResult] at hstep
      split at hstep
      · obtain ⟨_, -, he⟩ := bind_eq_ok.mp hstep
        obtain ⟨_, -, he⟩ := bind_eq_ok.mp he
        exact onConnectedToSsp he
      · cases hstep
    | reapBufloChannelTimerFired nowMs =>
      cases hstep
      unfold reapBufloChannelTimerFired
      split
      · exact h
      · split
        · -- the channel is older than it may be: a new tunnel is established
          refine noChannel ?_
          simp [establishTunnelInternal, resetToInitial]
        · exact h
    | bufloCh e => exact h.onChannelEvent hen.1 hen.2 hstep
  · cases hstep

end CspInv

theorem Initial.cspInv (h : s.Initial) : CspInv s := .noChannel h.bufloCh

/-! ### Following an armed channel -/

/-- The owner calls `stop_defense_session`. -/
def isStop : CspEvent → Bool
  | .stopDefenseSession _ => true
  | _ => false

/-- The channel is closed by the server side or the network. -/
def closesChannel (s : ClientSideProxy) : CspEvent → Bool
  | .bufloCh e =>
    match s.bufloCh with
    | none => false
    | some c => returns (c.step e) fun c' => decide (.closed ∈ reports c.journal c')
  | _ => false

/-- The proxy replaces its channel although a session is armed on it: its owner makes it
reconnect, or the reaper finds the channel old, without a session in progress (which an armed
session is not) and with nothing to send yet. -/
def replacesArmed (s : ClientSideProxy) : CspEvent → Bool
  | .establishTunnel _ | .establishTunnel2 => true
  | .reapBufloChannelTimerFired nowMs =>
    match s.bufloCh with
    | none => false
    | some c => decide (c.defenseInfo.state = .pendingNextSocketSend) && s.reaps c nowMs
  | _ => false

/-- The step neither stops the session, nor closes the channel, nor replaces it. -/
def Undisturbed (s : ClientSideProxy) (e : CspEvent) : Prop :=
  isStop e = false ∧ s.closesChannel e = false ∧ s.replacesArmed e = false

instance (s : ClientSideProxy) (e : CspEvent) : Decidable (s.Undisturbed e) := by
  unfold Undisturbed
  infer_instance

/-- What holds while the channel that was armed as `b` is followed. -/
structure Follows (b : Chan) (s : ClientSideProxy) : Prop where
  ready : s.state = .ready
  channel : ∃ c, s.bufloCh = some c ∧ Chan.Micros b c ∧ Chan.CellMode c ∧ c.Settled ∧
    Chan.Since b c ∧ Chan.DefenseInv c ∧ Chan.OutBufferInv c

namespace Follows

/-- Nothing that concerns the channel has changed. -/
theorem of_same (h : Follows b s) (hch : s'.bufloCh = s.bufloCh) (hstate : s'.state = s.state) :
    Follows b s' := by
  refine ⟨hstate.trans h.ready, ?_⟩
  rw [hch]
  exact h.channel

theorem onChannelEvent {e : Event} (h : Follows b s) (hown : e.isOwn = true)
    (hcl : s.closesChannel (.bufloCh e) = false) (he : s.onChannelEvent e = .ok s') :
    Follows b s' := by
  obtain ⟨c, c', hc, hstep, hrep⟩ := onChannelEvent_eq_ok he
  obtain ⟨d, hd, hm, hmode, hset, hsince, hdef, hbuf⟩ := h.channel
  obtain rfl : c = d := Option.some_inj.mp (hc.symm.trans hd)
  have hclosed : ChannelStatus.closed ∉ reports c.journal c' := by
    have hret : returns (c.step e) (fun c' => decide (.closed ∈ reports c.journal c')) = false := by
      simpa [closesChannel, hc] using hcl
    have hstep' : c.step e = .ok c' := hstep
    rw [hstep'] at hret
    simpa [returns] using hret
  obtain ⟨hch, -, hstate⟩ := handleReports_keeps hrep hclosed
  have hhush := hstep.hush hmode hset hsince.underway hown
  obtain ⟨hmic, hmode', hset'⟩ := hstep.micros hmode hset
  refine ⟨?_, c', hch, hm.trans hmic, hmode', hset', hsince.hushes hdef hbuf hhush,
    hdef.micros hbuf hmic, hbuf.micros hmic⟩
  rw [hstate]
  split
  · rfl
  · exact h.ready

/-- **An undisturbed step** leaves the proxy its channel, and the channel underway. -/
theorem step {e : CspEvent} (h : Follows b s) (hun : s.Undisturbed e) (hstep : s.Step e s') :
    Follows b s' := by
  obtain ⟨hstop, hclose, hrepl⟩ := hun
  obtain ⟨c, hc, -, -, -, hsince, hdef, -⟩ := h.channel
  unfold Step ClientSideProxy.step at hstep
  split at hstep
  · next hen =>
    cases e with
    | establishTunnel forceReconnect => cases hrepl
    | establishTunnel2 => cases hrepl
    | closeAllStreams =>
      cases hstep
      exact h.of_same rfl rfl
    | setAutoStartDefenseSessionOnNextSend =>
      -- the channel cannot be armed a second time
      obtain ⟨⟨t, ok⟩, ht, he⟩ := bind_eq_ok.mp hstep
      obtain ⟨_, -, ht⟩ := bind_eq_ok.mp ht
      rw [if_neg (not_not.mpr h.ready), hc] at ht
      obtain ⟨c', hcall, -⟩ := bind_eq_ok.mp ht
      obtain ⟨hmay, -⟩ :=
        Chan.setAutoStartDefenseSessionOnNextSend_eq_ok (callChannel_eq_ok hcall)
      rcases hsince.underway.state with hp | hact
      · exact absurd hp (by simp [hmay.state])
      · exact absurd hact (by simp [hmay.state])
    | stopDefenseSession rightNow => cases hstop
    | onAccepted =>
      simp only [handle, onAccepted] at hstep
      split at hstep
      · cases hstep
        exact h
      · obtain ⟨_, -, he⟩ := bind_eq_ok.mp hstep
        cases he
        exact h.of_same rfl rfl
    | onClientHandlerDone objId =>
      cases hstep
      exact h.of_same rfl rfl
    | onConnected sock =>
      simp only [handle, onConnected, h.ready] at hstep
      cases hstep
    | onConnectError => cases hstep
    | onSocksTargetConnectResult ok sock =>
      simp only [handle, onSocksTargetConnectResult] at hstep
      split at hstep
      · obtain ⟨_, hcon, -⟩ := bind_eq_ok.mp hstep
        have hcon' := check_eq_ok.mp hcon
        exact absurd (h.ready.symm.trans hcon') (by decide)
      · cases hstep
    | reapBufloChannelTimerFired nowMs =>
      have hkeep : s.reaps c nowMs = false := by
        by_contra hreap
        have hreap' : s.reaps c nowMs = true := by simpa using hreap
        rcases hsince.underway.state with hp | hact
        · exact absurd hrepl (by simp [replacesArmed, hc, hp, hreap'])
        · exact absurd hreap' (by simp [reaps, Chan.isDefenseInProgress, hact])
      cases hstep
      refine h.of_same ?_ ?_ <;> simp [reapBufloChannelTimerFired, hc, hkeep]
    | bufloCh e => exact h.onChannelEvent hen.1 hclose hstep
  · cases hstep

end Follows

/-- A successful arming: the call has returned true. -/
def Arms (s s' : ClientSideProxy) : Prop :=
  s.setAutoStartDefenseSessionOnNextSend = .ok (s', true)

theorem Arms.follows (h : s.Arms s') (hinv : CspInv s) :
    ∃ c : Chan, s'.bufloCh = some c.armed ∧ c.MayArm ∧ Follows c.armed s' := by
  obtain ⟨_, hpos, h⟩ := bind_eq_ok.mp h
  split at h
  · cases h
  · next hready =>
    have hready' : s.state = .ready := not_not.mp hready
    split at h
    · cases h
    · next c hc =>
      obtain ⟨c', hcall, h⟩ := bind_eq_ok.mp h
      obtain ⟨hmay, rfl⟩ :=
        Chan.setAutoStartDefenseSessionOnNextSend_eq_ok (callChannel_eq_ok hcall)
      cases h
      obtain ⟨hr, -, hopen⟩ := hinv.ready c hc hready' (check_eq_ok.mp hpos)
      obtain ⟨c₀, hest, hm, hmode, hset⟩ := hr.micros
      have harm : Chan.Step c .setAutoStartDefenseSessionOnNextSend c.armed := by
        rw [Chan.Step, Chan.step, if_pos ⟨hopen, trivial⟩]
        exact callChannel_eq_ok hcall
      obtain ⟨hmic, hmode', hset'⟩ := harm.micros hmode hset
      have hdef : Chan.DefenseInv c := hr.defenseInv
      have hbuf : Chan.OutBufferInv c := hr.outBufferInv
      exact ⟨c, rfl, hmay, hready', c.armed, rfl, .refl, hmode', hset', hmay.since hdef,
        hdef.micros hbuf hmic, hbuf.micros hmic⟩

/-- A step that replaces an armed channel leaves the proxy without it. -/
theorem bufloCh_of_replacesArmed {e : CspEvent} (hstep : s.Step e s')
    (hrepl : s.replacesArmed e = true) : s'.bufloCh = none := by
  unfold Step ClientSideProxy.step at hstep
  split at hstep
  · cases e with
    | establishTunnel forceReconnect =>
      obtain ⟨_, -, he⟩ := bind_eq_ok.mp hstep
      cases he
      simp [establishTunnelInternal, resetToInitial]
    | establishTunnel2 =>
      cases hstep
      simp [establishTunnelInternal, resetToInitial]
    | reapBufloChannelTimerFired nowMs =>
      cases hstep
      simp only [replacesArmed] at hrepl
      split at hrepl
      · cases hrepl
      · next c hc =>
        have hreap : s.reaps c nowMs = true := (Bool.and_eq_true_iff.mp hrepl).2
        simp [reapBufloChannelTimerFired, hc, hreap, establishTunnelInternal, resetToInitial]
    | _ => cases hrepl
  · cases hstep

/-- **Traffic of an armed load is defended**, as long as the session is not stopped, the
channel not closed from outside and not replaced: the proxy still has the channel that was
armed, and what has left on it since then are the cells of a session that began with START.
A step that replaces the channel does throw it away. -/
theorem armed_load_defended {s₀ s₁ s₂ s₃ : ClientSideProxy} {es es' : List CspEvent}
    (hinit : Initial s₀) (hrun : Run Step s₀ es s₁) (harm : Arms s₁ s₂)
    (hun : Run (Guarded Undisturbed Step) s₂ es' s₃) :
    (∃ b c, s₂.bufloCh = some b ∧ s₃.bufloCh = some c ∧ Chan.Defended b c) ∧
      ∀ e s₄, Step s₃ e s₄ → s₃.replacesArmed e = true → s₄.bufloCh = none := by
  refine ⟨?_, fun e s₄ => bufloCh_of_replacesArmed⟩
  have hinv : CspInv s₁ := hrun.invariant (fun _ _ _ h hstep => h.step hstep) hinit.cspInv
  obtain ⟨d, hd, hmay, hfol⟩ := harm.follows hinv
  obtain ⟨b, hb, -, -, -, -, -, hbufb⟩ := hfol.channel
  obtain rfl : d.armed = b := Option.some_inj.mp (hd.symm.trans hb)
  have hfol₃ : Follows d.armed s₃ :=
    hun.invariant (fun _ _ _ h hstep => h.step hstep.1 hstep.2) hfol
  obtain ⟨c, hc, hm, -, -, hsince, -, hbuf⟩ := hfol₃.channel
  exact ⟨d.armed, c, hd, hc, hsince.defended hm hbufb hbuf hmay.spdyOutbuf hmay.cellOutbuf⟩

/-! ### One run -/

/-- A proxy before it connects, with a packet interval of 20 ms, `L = 50` and a time limit of
60 s. -/
def example₁ : ClientSideProxy where
  bufloPacketIntvlMs := 20
  sspBufloPacketIntvlMs := 20
  bufloL := 50
  bufloTimeLimitSecs := 60

/-- The proxy connects to the server side, which tells its peer info at the time `now`. -/
def connects (now : ℕ) : List CspEvent :=
  [.onConnected (.accepts 15),
    .bufloCh (.socketReadable now (.bytes [10, 0, 0, 0, 1, 2, 238, 0, 0, 0, 0, 0, 0, 0, 0]))]

/-- A client is let in, and its byte is sent at the time `now`. -/
def sends (now : ℕ) : List CspEvent :=
  [.onAccepted, .bufloCh (.pumpSpdySend [[7]]), .bufloCh (.socketWritable now (.accepts 750))]

/-- The step neither stops the session nor closes the channel. -/
def Uninterrupted (s : ClientSideProxy) (e : CspEvent) : Prop :=
  isStop e = false ∧ s.closesChannel e = false

instance (s : ClientSideProxy) (e : CspEvent) : Decidable (s.Uninterrupted e) := by
  unfold Uninterrupted
  infer_instance

/-- The channel of the proxy passes the test. -/
def channelHas (p : Chan → Bool) (s : ClientSideProxy) : Bool :=
  match s.bufloCh with
  | none => false
  | some c => p c

theorem exists_of_channelHas {p : Chan → Bool} (h : channelHas p s = true) :
    ∃ c, s.bufloCh = some c ∧ p c = true := by
  unfold channelHas at h
  split at h
  · cases h
  · next c hc => exact ⟨c, hc, h⟩

/-- Nothing of what the channel has written belongs to a session. -/
def sentUndefended (c : Chan) : Bool :=
  decide (0 < (written c.journal).length) &&
    (keptCells c.journal).all fun k => !k.has .defensive && !k.has .start

/-- The channel is armed and no client sends anything before it is five minutes old.  The
reaper replaces it, and the first byte leaves in a cell that belongs to no session. -/
theorem armed_load_defended_reaped : ∃ s₀ s₁ s₂ s₃ es es', Initial s₀ ∧ Run Step s₀ es s₁ ∧
    Arms s₁ s₂ ∧ Run (Guarded Uninterrupted Step) s₂ es' s₃ ∧
      ∃ c, s₃.bufloCh = some c ∧ 0 < (written c.journal).length ∧
        ∀ k ∈ keptCells c.journal, k.has .defensive = false ∧ k.has .start = false := by
  obtain ⟨s₁, hs₁, h₁⟩ := exists_of_returns
    (x := exec step example₁ (.establishTunnel2 :: connects 0))
    (p := fun s₁ => returns s₁.setAutoStartDefenseSessionOnNextSend fun x => x.2 &&
      returns (exec (guardedStep Uninterrupted .notEnabled step) x.1
        (.reapBufloChannelTimerFired 300000 :: connects 300000000 ++ sends 300000000))
        (channelHas sentUndefended))
    (by decide +kernel)
  obtain ⟨⟨s₂, ok⟩, harm, h₂⟩ := exists_of_returns h₁
  obtain ⟨hok, h₃⟩ := Bool.and_eq_true_iff.mp h₂
  obtain ⟨s₃, hs₃, h₄⟩ := exists_of_returns h₃
  obtain ⟨c, hc, h₅⟩ := exists_of_channelHas h₄
  obtain ⟨hpos, hall⟩ := Bool.and_eq_true_iff.mp h₅
  have hok' : ok = true := hok
  subst hok'
  refine ⟨example₁, s₁, s₂, s₃, _, _, ⟨rfl, rfl, ⟨rfl, rfl⟩, rfl, rfl⟩, run_of_exec hs₁, harm,
    run_of_exec_guarded hs₃, c, hc, of_decide_eq_true hpos, fun k hk => ?_⟩
  simpa using List.all_eq_true.mp hall k hk

/-- A client sends a byte at once: it leaves in a cell that carries START. -/
theorem armed_load_defended_sent : ∃ s₀ s₁ s₂ s₃ es es', Initial s₀ ∧ Run Step s₀ es s₁ ∧
    Arms s₁ s₂ ∧ Run (Guarded Undisturbed Step) s₂ es' s₃ ∧
      ∃ b c, s₂.bufloCh = some b ∧ s₃.bufloCh = some c ∧ Chan.Defended b c ∧
        (written c.journal).length = 750 := by
  obtain ⟨s₁, hs₁, h₁⟩ := exists_of_returns
    (x := exec step example₁ (.establishTunnel2 :: connects 0))
    (p := fun s₁ => returns s₁.setAutoStartDefenseSessionOnNextSend fun x => x.2 &&
      returns (exec (guardedStep Undisturbed .notEnabled step) x.1 (sends 1000000))
        (channelHas fun c => decide ((written c.journal).length = 750)))
    (by decide +kernel)
  obtain ⟨⟨s₂, ok⟩, harm, h₂⟩ := exists_of_returns h₁
  obtain ⟨hok, h₃⟩ := Bool.and_eq_true_iff.mp h₂
  obtain ⟨s₃, hs₃, h₄⟩ := exists_of_returns h₃
  have hok' : ok = true := hok
  subst hok'
  have hinit : Initial example₁ := ⟨rfl, rfl, ⟨rfl, rfl⟩, rfl, rfl⟩
  have hrun := run_of_exec hs₁
  have hun := run_of_exec_guarded hs₃
  obtain ⟨⟨b, c, hb, hc, hdef⟩, -⟩ := armed_load_defended hinit hrun harm hun
  obtain ⟨d, hd, h₅⟩ := exists_of_channelHas h₄
  obtain rfl : c = d := Option.some_inj.mp (hc.symm.trans hd)
  exact ⟨example₁, s₁, s₂, s₃, _, _, hinit, hrun, harm, hun, b, c, hb, hc, hdef,
    of_decide_eq_true h₅⟩

end ClientSideProxy

end ShadowBrowser
