/-
The client's handshake.

The constructor of a client-side channel writes the client's peer info; the channel
is then waiting for the server's.  Until it has read all of it, nothing else can
happen to it.  When it has, it reports READY, and it is `Established`.

* `new_awaits` — a client-side channel that was constructed is waiting;
* **`AwaitsPeerInfo.step`** — what an event does to a channel that is waiting.
-/
import ShadowBrowser.Armed

namespace ShadowBrowser

open Checked Runs

namespace Chan

variable {c c' : Chan}

/-- A client-side channel that waits for the peer info of the server. -/
structure AwaitsPeerInfo (c : Chan) : Prop where
  client : c.isClientSide = true
  config : c.cellSize ≠ 0 → c.cellSize = 750 ∧ 0 < c.tamarawL ∧ 0 < c.tamarawPktIntvlMs
  peerInfo : c.needToReadPeerInfo = true ∧ c.myPeerInfoOutbuf = none
  defense : c.defenseInfo = {}
  buffers : c.spdyInbuf = [] ∧ c.spdyOutbuf = [] ∧ c.cellInbuf = [] ∧ c.cellOutbuf = []
  cells : c.wholeDummyCellAtEndOutbuf = false ∧ c.frontCellSentProgress = 0 ∧
    c.outputCellsDataBytesInfo = [] ∧ c.cellReadInfo = {}
  counters : c.allSendByteCount = 0 ∧ c.allUsersDataSendByteCount = 0 ∧
    c.dummySendCellCount = 0
  events : c.writeEvEnabled = false ∧ c.timerRunning = false ∧ c.closed = false
  unused : c.journal = []

theorem construct_eq_ok {isClientSide : Bool} {objId myaddr cellSize intvl peerIntvl L limit : ℕ}
    (h : construct isClientSide objId myaddr cellSize intvl peerIntvl L limit = .ok c) :
    (cellSize = 750 ∨ cellSize = 0) ∧ (cellSize ≠ 0 → L ≠ 0 ∧ intvl ≠ 0) ∧
      c = fillMyPeerInfoOutbuf
        { isClientSide
          objId
          myaddr
          cellSize
          tamarawPktIntvlMs := intvl
          peerTamarawPktIntvlMs := peerIntvl
          tamarawL := L
          defenseSessionTimeLimit := limit } := by
  obtain ⟨_, hsize, h⟩ := bind_eq_ok.mp h
  obtain ⟨_, -, h⟩ := bind_eq_ok.mp h
  obtain ⟨_, -, h⟩ := bind_eq_ok.mp h
  obtain ⟨_, -, h⟩ := bind_eq_ok.mp h
  obtain ⟨_, -, h⟩ := bind_eq_ok.mp h
  obtain ⟨_, -, h⟩ := bind_eq_ok.mp h
  obtain ⟨_, hall, h⟩ := bind_eq_ok.mp h
  cases h
  refine ⟨check_eq_ok.mp hsize, fun hne => ?_, rfl⟩
  obtain ⟨-, hL, hintvl, -⟩ := check_eq_ok.mp hall (.inl hne)
  exact ⟨hL, hintvl⟩

theorem writeMyPeerInfoOutbuf_eq_ok {sock : SockRes}
    (h : c.writeMyPeerInfoOutbuf sock = .ok c') : c' = { c with myPeerInfoOutbuf := none } := by
  unfold writeMyPeerInfoOutbuf at h
  split at h
  · cases h
  · obtain ⟨_, -, h⟩ := bind_eq_ok.mp h
    obtain ⟨_, -, h⟩ := bind_eq_ok.mp h
    cases h
    rfl

/-- A client-side channel that was constructed waits for the server's peer info. -/
theorem new_awaits {objId myaddr cellSize intvl peerIntvl L limit : ℕ} {sock : SockRes}
    (h : Chan.new true objId myaddr cellSize intvl peerIntvl L limit sock = .ok c) :
    AwaitsPeerInfo c ∧ c.cellSize = cellSize := by
  obtain ⟨c₀, hcon, hwrite⟩ := bind_eq_ok.mp h
  obtain ⟨hsize, hall, rfl⟩ := construct_eq_ok hcon
  rw [if_pos rfl] at hwrite
  obtain rfl := writeMyPeerInfoOutbuf_eq_ok hwrite
  have hconfig : cellSize ≠ 0 → cellSize = 750 ∧ 0 < L ∧ 0 < intvl := by
    intro hne
    have := hall hne
    omega
  exact ⟨⟨rfl, hconfig, ⟨rfl, rfl⟩, rfl, ⟨rfl, rfl, rfl, rfl⟩, ⟨rfl, rfl, rfl, rfl⟩,
    ⟨rfl, rfl, rfl⟩, ⟨rfl, rfl, rfl⟩, rfl⟩, rfl⟩

namespace AwaitsPeerInfo

/-- The server's peer info has been read. -/
theorem readPeerInfo {now : ℕ} (h : AwaitsPeerInfo c) (hread : c.readPeerInfo now = .ok c') :
    c'.cellSize = c.cellSize ∧ c'.journal = [.status .ready] ∧
      (c.cellSize ≠ 0 → Established c' ∧ c'.isClientSide = true) := by
  obtain ⟨c₁, hmode, hread⟩ := bind_eq_ok.mp hread
  -- only the server enables the write event
  have hc₁ : c₁ = { c with
      peerInfoInbuf := []
      peerCellSize := (PeerInfo.copyOut c.peerInfoInbuf).cellSize
      peeraddr := (PeerInfo.copyOut c.peerInfoInbuf).addr } := by
    rcases doIf_eq_ok hmode with ⟨hsrv, -⟩ | ⟨-, e⟩
    · exact absurd hsrv (by simp [h.client])
    · exact e
  have hcl : c₁.isClientSide = true := by
    rw [hc₁]
    exact h.client
  split at hread
  · cases hread
  · obtain ⟨_, hL, hread⟩ := bind_eq_ok.mp hread
    obtain ⟨_, -, hread⟩ := bind_eq_ok.mp hread
    obtain ⟨_, hintvl, hread⟩ := bind_eq_ok.mp hread
    obtain ⟨_, -, hread⟩ := bind_eq_ok.mp hread
    have hL' := check_eq_ok.mp hL
    have hintvl' := check_eq_ok.mp hintvl
    simp only [hcl, Bool.true_eq_false, imp_false, not_not] at hL' hintvl'
    cases hread
    subst hc₁
    refine ⟨rfl, ?_, fun hne => ⟨?_, hcl⟩⟩
    · simp [chStatusCb, log, h.unused]
    · obtain ⟨hsize, hLpos, hintvlpos⟩ := h.config hne
      refine ⟨⟨hsize, ?_, ?_⟩, ⟨rfl, h.peerInfo.2⟩, h.defense, h.buffers, h.cells, h.counters,
        h.events, ?_⟩
      · show 0 < if (PeerInfo.copyOut c.peerInfoInbuf).requestedL ≠ 0 then _ else _
        rw [if_neg (not_not.mpr hL')]
        exact hLpos
      · show 0 < if (PeerInfo.copyOut c.peerInfoInbuf).requestedPktIntvl ≠ 0 then _ else _
        rw [if_neg (not_not.mpr hintvl')]
        exact hintvlpos
      · simp [chStatusCb, log, h.unused]

/-- **What an event does to a channel that waits**: it goes on waiting, or it has closed, or it
is ready. -/
theorem step {e : Event} (h : AwaitsPeerInfo c) (hown : e.isOwn = true)
    (hpump : e.isPump = false) (hstep : Step c e c') :
    c'.cellSize = c.cellSize ∧
      (AwaitsPeerInfo c' ∨ c'.journal = [.status .closed] ∨
        c'.journal = [.status .ready] ∧
          (c.cellSize ≠ 0 → Established c' ∧ c'.isClientSide = true)) := by
  obtain ⟨⟨-, hen⟩, hstep⟩ := hstep.enabled
  -- a read that fails closes the channel, or changes nothing
  have hfail : ∀ {rv : ℤ} {errno : Errno}, c.handleFailedSocketIo rv errno true = .ok c' →
      c'.cellSize = c.cellSize ∧ (AwaitsPeerInfo c' ∨ c'.journal = [.status .closed]) := by
    intro rv errno hf
    unfold handleFailedSocketIo at hf
    have hclosed : c.onSocketClosed.journal = [.status .closed] := by
      simp [onSocketClosed, chStatusCb, log, h.unused]
    split at hf
    · cases hf
      exact ⟨rfl, .inr hclosed⟩
    · split at hf
      · cases hf
        exact ⟨rfl, .inl h⟩
      · obtain ⟨_, -, hf⟩ := bind_eq_ok.mp hf
        cases hf
        exact ⟨rfl, .inl h⟩
      · cases hf
        exact ⟨rfl, .inr hclosed⟩
  -- nothing but the socket's readability is enabled for a channel that waits
  cases e with
  | pumpSpdySend sends => simp [Event.isPump] at hpump
  | startDefenseSession now => simp [Event.isOwn] at hown
  | setAutoStartDefenseSessionOnNextSend => simp [Event.isOwn] at hown
  | stopDefenseSession rightNow => simp [Event.isOwn] at hown
  | bufloTimerFired now sends sock => exact absurd hen (by simp [h.events.2.1])
  | socketWritable now sock => exact absurd hen (by simp [h.events.1])
  | socketReadable now res =>
    simp only [handle, onSocketReadcb] at hstep
    split at hstep
    · obtain ⟨hsize, hw | hj⟩ := hfail hstep
      · exact ⟨hsize, .inl hw⟩
      · exact ⟨hsize, .inr (.inl hj)⟩
    · obtain ⟨hsize, hw | hj⟩ := hfail hstep
      · exact ⟨hsize, .inl hw⟩
      · exact ⟨hsize, .inr (.inl hj)⟩
    · next bs _ _ =>
      have hw : AwaitsPeerInfo { c with peerInfoInbuf := c.peerInfoInbuf ++ bs } :=
        ⟨h.client, h.config, h.peerInfo, h.defense, h.buffers, h.cells, h.counters, h.events,
          h.unused⟩
      rw [if_pos h.peerInfo.1] at hstep
      split at hstep
      · obtain ⟨hsize, hj, hest⟩ := hw.readPeerInfo hstep
        exact ⟨hsize, .inr (.inr ⟨hj, hest⟩)⟩
      · cases hstep
        exact ⟨rfl, .inl hw⟩

end AwaitsPeerInfo

end Chan

end ShadowBrowser
