/-
The teardown of the proxy's client handlers.

`_reset_to_initial` destroys the client handlers first and the channel after them.
The destructor of a handler that has a stream closes the stream, and for that it
pumps the channel, whose counters `_update_stats` has read before.  `CspSystem` is
the proxy with what this takes: which handlers have a stream, and what the channel
has reported that `_on_buflo_channel_status` has not been called for yet.

The field `destroyed` is a history variable: the counters of every channel at the
moment it was destroyed.

* **`run_csp`** — between the reports of its channel, a run of the system is a
  run of `ClientSideProxy`.
-/
import ShadowBrowser.Proxy

namespace ShadowBrowser

open Checked Runs

/-- What the counters of a channel say (`all_recv_byte_count()`, …). -/
def SoFar.ofChan (c : Chan) : SoFar where
  allRecvByteCount := c.allRecvByteCount
  usefulRecvByteCount := c.allUsersDataRecvByteCount
  dummyRecvCellCount := c.dummyRecvCellCount
  allSendByteCount := c.allSendByteCount
  usefulSendByteCount := c.allUsersDataSendByteCount
  dummySendCellCount := c.dummySendCellCount
  numDummyCellsAvoided := c.numDummyCellsAvoided

/-- The proxy, the streams of its client handlers, and the reports of its channel. -/
structure CspSystem where
  csp : ClientSideProxy
  /-- the handlers whose `sid_` has been assigned -/
  assigned : List ℕ := []
  /-- the calls of `_on_buflo_channel_status` that the channel has still to make -/
  reported : List ChannelStatus := []
  destroyed : List SoFar := []
  deriving DecidableEq, Repr

/-- What spdylay gives the pump of each stream that is closed. -/
abbrev Resets := List (List (List UInt8))

/-- The events of the system. -/
inductive SystemEvent
  /-- an event of the proxy; a channel's reports are handled in events of their own -/
  | csp (e : CspEvent) (resets : Resets)
  /-- `onStreamIdAssigned`, of a client handler -/
  | onStreamIdAssigned (objId : ℕ)
  /-- `_on_buflo_channel_status` -/
  | onBufloChannelStatus (resets : Resets)
  deriving DecidableEq, Repr

namespace CspSystem

/-- `close_stream`, for one handler after the other -/
def closeStreams : Resets → Chan → Except Check Chan
  | [], c => return c
  | sends :: resets, c => do
    let c ← c.pumpSpdySend sends
    closeStreams resets c

/-- The handlers whose destructors close a stream. -/
def withStream (t : CspSystem) : List ℕ := t.csp.clientHandlers.filter (· ∈ t.assigned)

/-- `_reset_to_initial` -/
def resetToInitial (t : CspSystem) (resets : Resets) : Except CspCheck CspSystem := do
  check (resets.length = t.withStream.length) .notEnabled
  match t.csp.bufloCh with
  | none => return { t with csp := t.csp.resetToInitial }
  | some c =>
    let c ← ClientSideProxy.callChannel (closeStreams resets c)
    return { t with csp := t.csp.resetToInitial, destroyed := t.destroyed ++ [.ofChan c] }

/-- `_establish_tunnel_internal` -/
def establishTunnelInternal (t : CspSystem) (resets : Resets) : Except CspCheck CspSystem := do
  let t ← { t with csp := t.csp.updateStats }.resetToInitial resets
  return { t with
    csp := { t.csp with
      peerChannel := true
      state := if t.csp.socks5Addr ≠ 0 then .proxyConnecting else .connecting } }

/-- `establish_tunnel` -/
def establishTunnel (t : CspSystem) (forceReconnect : Bool) (resets : Resets) :
    Except CspCheck CspSystem := do
  let t : CspSystem := { t with csp := { t.csp with cspStatusCb := true } }
  check (forceReconnect = true) .notForceReconnect
  t.establishTunnelInternal resets

/-- `_reap_buflo_channel_timer_fired` -/
def reapBufloChannelTimerFired (t : CspSystem) (nowMs : ℕ) (resets : Resets) :
    Except CspCheck CspSystem :=
  match t.csp.bufloCh with
  | none => return t
  | some c =>
    if t.csp.reaps c nowMs then
      { t with csp := { t.csp with reapTimerRunning := false } }.establishTunnelInternal resets
    else
      return t

/-- `_on_buflo_channel_status` -/
def onBufloChannelStatus (t : CspSystem) (resets : Resets) : Except CspCheck CspSystem :=
  match t.reported with
  | [] => throw .notEnabled
  | .closed :: sts => do
    let t ← { t with csp := t.csp.updateStats, reported := sts }.resetToInitial resets
    return { t with csp := if t.csp.cspStatusCb then t.csp.log (.statusCb false) else t.csp }
  | st :: sts => do
    let s ← t.csp.onBufloChannelStatus st
    return { t with csp := s, reported := sts }

/-- Something happens at the channel. -/
def onChannelEvent (t : CspSystem) (e : Event) : Except CspCheck CspSystem :=
  match t.csp.bufloCh with
  | none => throw .notEnabled
  | some c => do
    let c' ← ClientSideProxy.callChannel (c.step e)
    return { t with
      csp := { t.csp with bufloCh := some c' }
      reported := ClientSideProxy.reports c.journal c' }

/-- The channel that is destroyed when the proxy makes a new one
(`buflo_ch_.reset(new …)`). -/
def replaced (s s' : ClientSideProxy) : List SoFar :=
  if s'.state = .settingUpBufloChannel then (s.bufloCh.map .ofChan).toList else []

/-- What the system does in an event of the proxy that happens. -/
def handle (t : CspSystem) (e : CspEvent) (resets : Resets) : Except CspCheck CspSystem :=
  match e with
  | .establishTunnel forceReconnect => t.establishTunnel forceReconnect resets
  | .establishTunnel2 => t.establishTunnelInternal resets
  | .reapBufloChannelTimerFired nowMs => t.reapBufloChannelTimerFired nowMs resets
  | .bufloCh e => t.onChannelEvent e
  | .onConnected _ | .onSocksTargetConnectResult _ _ => do
    let s ← t.csp.handle e
    return { t with csp := s, destroyed := t.destroyed ++ replaced t.csp s }
  | _ => do
    let s ← t.csp.handle e
    return { t with csp := s }

/-- One step of the system.  While the channel has something to report, nothing else
happens. -/
def step (t : CspSystem) : SystemEvent → Except CspCheck CspSystem
  | .csp e resets =>
    if t.reported = [] ∧ t.csp.Enabled e then t.handle e resets else throw .notEnabled
  | .onStreamIdAssigned objId =>
    if t.reported = [] ∧ objId ∈ t.csp.clientHandlers then
      return { t with assigned := t.assigned ++ [objId] }
    else
      throw .notEnabled
  | .onBufloChannelStatus resets => t.onBufloChannelStatus resets

/-- The steps of the system, as a relation. -/
def Step (t : CspSystem) (e : SystemEvent) (t' : CspSystem) : Prop := t.step e = .ok t'

/-- A system that has just been constructed. -/
structure Initial (t : CspSystem) : Prop where
  csp : t.csp.Initial
  soFar : t.csp.soFar = {}
  fresh : t.assigned = [] ∧ t.reported = [] ∧ t.destroyed = []

variable {t t' : CspSystem} {resets : Resets}

/-! ### What a teardown does -/

/-- **What `_reset_to_initial` does**: the proxy is as it was at first, and the channel has
closed the streams before it was destroyed. -/
theorem resetToInitial_eq_ok (h : t.resetToInitial resets = .ok t') :
    t' = { t with csp := t.csp.resetToInitial, destroyed := t'.destroyed } ∧
      (t.csp.bufloCh = none ∧ t'.destroyed = t.destroyed ∨
        ∃ c c', t.csp.bufloCh = some c ∧ closeStreams resets c = .ok c' ∧
          t'.destroyed = t.destroyed ++ [.ofChan c']) := by
  obtain ⟨_, -, h⟩ := bind_eq_ok.mp h
  split at h
  · next hnone =>
    cases h
    exact ⟨rfl, .inl ⟨hnone, rfl⟩⟩
  · next c hc =>
    obtain ⟨c', hclose, h⟩ := bind_eq_ok.mp h
    cases h
    exact ⟨rfl, .inr ⟨c, c', hc, eq_ok_of_mapError hclose, rfl⟩⟩

/-- `_establish_tunnel_internal` does to the proxy what it did without the streams. -/
theorem establishTunnelInternal_csp (h : t.establishTunnelInternal resets = .ok t') :
    t'.csp = t.csp.establishTunnelInternal ∧ t'.reported = t.reported := by
  obtain ⟨t₁, hreset, h⟩ := bind_eq_ok.mp h
  obtain ⟨e, -⟩ := resetToInitial_eq_ok hreset
  cases h
  rw [e]
  exact ⟨rfl, rfl⟩

/-- An event other than the channel's does to the proxy what it did. -/
theorem handle_csp {e : CspEvent} (h : t.handle e resets = .ok t')
    (hne : ∀ e', e ≠ .bufloCh e') : t.csp.handle e = .ok t'.csp ∧ t'.reported = t.reported := by
  cases e with
  | establishTunnel forceReconnect =>
    obtain ⟨_, hforce, h⟩ := bind_eq_ok.mp h
    obtain ⟨hcsp, hrep⟩ := establishTunnelInternal_csp h
    refine ⟨?_, hrep⟩
    rw [ClientSideProxy.handle, ClientSideProxy.establishTunnel, hforce, hcsp]
    rfl
  | establishTunnel2 =>
    obtain ⟨hcsp, hrep⟩ := establishTunnelInternal_csp h
    refine ⟨?_, hrep⟩
    rw [ClientSideProxy.handle, hcsp]
    rfl
  | reapBufloChannelTimerFired nowMs =>
    rw [handle, reapBufloChannelTimerFired] at h
    rw [ClientSideProxy.handle, ClientSideProxy.reapBufloChannelTimerFired]
    cases hch : t.csp.bufloCh with
    | none =>
      rw [hch] at h
      cases h
      exact ⟨rfl, rfl⟩
    | some c =>
      rw [hch] at h
      dsimp only at h ⊢
      split_ifs at h ⊢ with hreaps
      · obtain ⟨hcsp, hrep⟩ := establishTunnelInternal_csp h
        refine ⟨?_, hrep⟩
        rw [hcsp, hch]
        rfl
      · cases h
        exact ⟨rfl, rfl⟩
  | bufloCh e => exact absurd rfl (hne e)
  | closeAllStreams | setAutoStartDefenseSessionOnNextSend | stopDefenseSession _ | onAccepted
  | onClientHandlerDone _ | onConnected _ | onConnectError | onSocksTargetConnectResult _ _ =>
    obtain ⟨s, hs, h⟩ := bind_eq_ok.mp h
    cases h
    exact ⟨hs, rfl⟩

/-- A report that is handled does to the proxy what it did. -/
theorem onBufloChannelStatus_csp (h : t.onBufloChannelStatus resets = .ok t') :
    ∃ st, t.reported = st :: t'.reported ∧ t.csp.onBufloChannelStatus st = .ok t'.csp := by
  unfold onBufloChannelStatus at h
  split at h
  · cases h
  · next sts hrep =>
    obtain ⟨t₁, hreset, h⟩ := bind_eq_ok.mp h
    obtain ⟨e, -⟩ := resetToInitial_eq_ok hreset
    cases h
    rw [e]
    exact ⟨.closed, hrep, rfl⟩
  · next st sts _ hrep =>
    obtain ⟨s, hs, h⟩ := bind_eq_ok.mp h
    cases h
    exact ⟨st, hrep, hs⟩

/-! ### The proxy without the streams -/

/-- Once its channel's reports are handled, the proxy is in a state that a run of it leads
to. -/
def Follows (s : ClientSideProxy) (t : CspSystem) : Prop :=
  ∀ s', ClientSideProxy.handleReports t.reported t.csp = .ok s' →
    Reaches ClientSideProxy.Step s s'

theorem Follows.step {s : ClientSideProxy} {e : SystemEvent} (h : Follows s t)
    (hstep : t.Step e t') : Follows s t' := by
  cases e with
  | csp e resets =>
    simp only [Step, CspSystem.step] at hstep
    split at hstep
    · next hen =>
      obtain ⟨es, hrun⟩ := h t.csp (by rw [hen.1]; rfl)
      intro s' hs'
      refine ⟨es ++ [e], hrun.snoc ?_⟩
      rw [ClientSideProxy.Step, ClientSideProxy.step, if_pos hen.2]
      -- the channel's own events are the proxy's; the rest leaves what has been reported alone
      by_cases hch : ∃ e', e = .bufloCh e'
      · obtain ⟨e', rfl⟩ := hch
        simp only [handle, onChannelEvent] at hstep
        show t.csp.onChannelEvent e' = .ok s'
        split at hstep
        · cases hstep
        · next c hc =>
          obtain ⟨c', hc', hstep⟩ := bind_eq_ok.mp hstep
          cases hstep
          rw [ClientSideProxy.onChannelEvent, hc]
          exact bind_eq_ok.mpr ⟨c', hc', hs'⟩
      · obtain ⟨hcsp, hrep⟩ := handle_csp hstep fun e' he => hch ⟨e', he⟩
        rw [hrep, hen.1] at hs'
        cases hs'
        exact hcsp
    · cases hstep
  | onStreamIdAssigned objId =>
    simp only [Step, CspSystem.step] at hstep
    split at hstep
    · cases hstep
      exact h
    · cases hstep
  | onBufloChannelStatus resets =>
    obtain ⟨st, hrep, hcsp⟩ := onBufloChannelStatus_csp hstep
    intro s' hs'
    refine h s' ?_
    rw [hrep]
    exact bind_eq_ok.mpr ⟨t'.csp, hcsp, hs'⟩

/-- **The system refines the proxy**: a state of the proxy in which all reports are handled
is reached by the proxy alone. -/
theorem run_csp {es : List SystemEvent} (hrun : Run Step t es t') (hrep : t.reported = [])
    (hrep' : t'.reported = []) : Reaches ClientSideProxy.Step t.csp t'.csp := by
  have hinit : Follows t.csp t := by
    intro s' hs'
    rw [hrep] at hs'
    cases hs'
    exact ⟨[], .nil _⟩
  refine hrun.invariant (fun _ _ _ h => h.step) hinit t'.csp ?_
  rw [hrep']
  rfl

end CspSystem

end ShadowBrowser
