/-
The link: both directions of a connection between the CSP and the SSP.

Each end takes steps of its own, and reads what the other has written, in order and
in portions of any size.  Each direction is a `Tunnel`, so that what is known about
tunnels holds both ways (`LinkInv`).

* **`LinkInv.step`** — every step of the link is a step of both tunnels;
* `cellsToSsp_bytes`, `cellsToCsp_bytes` — the cells that an end has still to handle.
-/
import ShadowBrowser.Tunnel

namespace ShadowBrowser

open Checked Runs Blocks Chan

/-- The two ends of a channel. -/
structure Link where
  csp : Chan
  ssp : Chan

/-- What can happen on a link. -/
inductive LinkEvent
  | csp (e : Event)
  | ssp (e : Event)
  /-- the SSP reads the next `k` bytes from the CSP -/
  | toSsp (now : ℕ) (k : ℕ)
  /-- the CSP reads the next `k` bytes from the SSP -/
  | toCsp (now : ℕ) (k : ℕ)
  deriving DecidableEq, Repr

/-- What the CSP does beside reading.  It starts a session only through
`set_auto_start_defense_session_on_next_send`. -/
def Event.OfCsp : Event → Bool
  | .startDefenseSession _ | .socketReadable _ _ => false
  | _ => true

/-- What the SSP does beside reading.  Its sessions are started and stopped by cells. -/
def Event.OfSsp : Event → Bool
  | .pumpSpdySend _ | .bufloTimerFired _ _ _ | .socketWritable _ _ => true
  | _ => false

theorem Event.not_reads_of_csp {e : Event} (h : e.OfCsp = true) : ¬ e.Reads := by
  cases e with
  | socketReadable now res => cases h
  | _ => exact id

theorem Event.not_reads_of_ssp {e : Event} (h : e.OfSsp = true) : ¬ e.Reads := by
  cases e with
  | socketReadable now res => cases h
  | _ => exact id

namespace Link

/-- From the CSP to the SSP. -/
def up (l : Link) : Tunnel := ⟨l.csp, l.ssp⟩

/-- From the SSP to the CSP. -/
def down (l : Link) : Tunnel := ⟨l.ssp, l.csp⟩

/-- One step. -/
def step (l : Link) : LinkEvent → Except Check Link
  | .csp e => do
    check (e.OfCsp = true) .notEnabled
    let csp ← l.csp.step e
    return { l with csp }
  | .ssp e => do
    check (e.OfSsp = true) .notEnabled
    let ssp ← l.ssp.step e
    return { l with ssp }
  | .toSsp now k => do
    check (0 < k ∧ k ≤ l.up.wire.length) .notEnabled
    let ssp ← l.ssp.step (.socketReadable now (.bytes (l.up.wire.take k)))
    return { l with ssp }
  | .toCsp now k => do
    check (0 < k ∧ k ≤ l.down.wire.length) .notEnabled
    let csp ← l.csp.step (.socketReadable now (.bytes (l.down.wire.take k)))
    return { l with csp }

/-- The steps, as a relation. -/
def Step (l : Link) (e : LinkEvent) (l' : Link) : Prop := l.step e = .ok l'

/-- Both ends are past the handshake. -/
structure Established (l : Link) : Prop where
  up : l.up.Established
  down : l.down.Established
  client : l.csp.isClientSide = true
  server : l.ssp.isClientSide = false

/-- What holds of both directions. -/
structure LinkInv (l : Link) : Prop where
  up : Tunnel.TunnelInv l.up
  down : Tunnel.TunnelInv l.down
  client : l.csp.isClientSide = true
  server : l.ssp.isClientSide = false

variable {l l' : Link}

theorem Established.linkInv (h : l.Established) : LinkInv l :=
  ⟨h.up.tunnelInv, h.down.tunnelInv, h.client, h.server⟩

theorem Step.csp_cases {e : Event} (h : l.Step (.csp e) l') :
    e.OfCsp = true ∧ ∃ c, Chan.Step l.csp e c ∧ l' = { l with csp := c } := by
  obtain ⟨_, he, h⟩ := bind_eq_ok.mp h
  obtain ⟨c, hc, h⟩ := bind_eq_ok.mp h
  cases h
  exact ⟨check_eq_ok.mp he, c, hc, rfl⟩

theorem Step.ssp_cases {e : Event} (h : l.Step (.ssp e) l') :
    e.OfSsp = true ∧ ∃ c, Chan.Step l.ssp e c ∧ l' = { l with ssp := c } := by
  obtain ⟨_, he, h⟩ := bind_eq_ok.mp h
  obtain ⟨c, hc, h⟩ := bind_eq_ok.mp h
  cases h
  exact ⟨check_eq_ok.mp he, c, hc, rfl⟩

theorem Step.toSsp_cases {now k : ℕ} (h : l.Step (.toSsp now k) l') :
    (0 < k ∧ k ≤ l.up.wire.length) ∧
      ∃ c, Chan.Step l.ssp (.socketReadable now (.bytes (l.up.wire.take k))) c ∧
        l' = { l with ssp := c } := by
  obtain ⟨_, hk, h⟩ := bind_eq_ok.mp h
  obtain ⟨c, hc, h⟩ := bind_eq_ok.mp h
  cases h
  exact ⟨check_eq_ok.mp hk, c, hc, rfl⟩

theorem Step.toCsp_cases {now k : ℕ} (h : l.Step (.toCsp now k) l') :
    (0 < k ∧ k ≤ l.down.wire.length) ∧
      ∃ c, Chan.Step l.csp (.socketReadable now (.bytes (l.down.wire.take k))) c ∧
        l' = { l with csp := c } := by
  obtain ⟨_, hk, h⟩ := bind_eq_ok.mp h
  obtain ⟨c, hc, h⟩ := bind_eq_ok.mp h
  cases h
  exact ⟨check_eq_ok.mp hk, c, hc, rfl⟩

/-- A step of a channel is a step of the tunnel that it sends into. -/
theorem send_step {t : Tunnel} {e : Event} {c : Chan} (h : Chan.Step t.sender e c) :
    Tunnel.Step t (.send e) ⟨c, t.receiver⟩ :=
  bind_eq_ok.mpr ⟨c, h, rfl⟩

/-- A step of a channel that is no read is a step of the tunnel that it receives from. -/
theorem recv_step {t : Tunnel} {e : Event} {c : Chan} (he : ¬ e.Reads)
    (h : Chan.Step t.receiver e c) : Tunnel.Step t (.recv e) ⟨t.sender, c⟩ :=
  bind_eq_ok.mpr ⟨(), check_eq_ok.mpr he, bind_eq_ok.mpr ⟨c, h, rfl⟩⟩

theorem deliver_step {t : Tunnel} {now k : ℕ} {c : Chan} (hk : 0 < k ∧ k ≤ t.wire.length)
    (h : Chan.Step t.receiver (.socketReadable now (.bytes (t.wire.take k))) c) :
    Tunnel.Step t (.deliver now k) ⟨t.sender, c⟩ :=
  bind_eq_ok.mpr ⟨(), check_eq_ok.mpr hk, bind_eq_ok.mpr ⟨c, h, rfl⟩⟩

/-- An end of the link keeps its side. -/
theorem side_eq {c c' : Chan} {e : Event} (hreach : Reachable c) (h : Chan.Step c e c') :
    c'.isClientSide = c.isClientSide :=
  congrArg (·.1.1) (hreach.step_micros h).config_eq

/-- **Every step of the link is a step of both tunnels**, so the invariant is preserved. -/
theorem LinkInv.step {e : LinkEvent} (h : LinkInv l) (hstep : l.Step e l') : LinkInv l' := by
  cases e with
  | csp e =>
    obtain ⟨he, c, hc, rfl⟩ := hstep.csp_cases
    refine ⟨h.up.step (send_step hc), h.down.step (recv_step (Event.not_reads_of_csp he) hc), ?_, h.server⟩
    exact (side_eq h.up.sender hc).trans h.client
  | ssp e =>
    obtain ⟨he, c, hc, rfl⟩ := hstep.ssp_cases
    refine ⟨h.up.step (recv_step (Event.not_reads_of_ssp he) hc), h.down.step (send_step hc), h.client, ?_⟩
    exact (side_eq h.down.sender hc).trans h.server
  | toSsp now k =>
    obtain ⟨hk, c, hc, rfl⟩ := hstep.toSsp_cases
    refine ⟨h.up.step (deliver_step hk hc), h.down.step (send_step hc), h.client, ?_⟩
    exact (side_eq h.down.sender hc).trans h.server
  | toCsp now k =>
    obtain ⟨hk, c, hc, rfl⟩ := hstep.toCsp_cases
    refine ⟨h.up.step (send_step hc), h.down.step (deliver_step hk hc), ?_, h.server⟩
    exact (side_eq h.up.sender hc).trans h.client

/-! ### Cells that are still to be handled -/

/-- The cells of the CSP that the SSP has not handled. -/
def cellsToSsp (l : Link) : List Cell :=
  (keptCells l.csp.journal).drop (handledCells l.ssp.journal).length

/-- The cells of the SSP that the CSP has not handled. -/
def cellsToCsp (l : Link) : List Cell :=
  (keptCells l.ssp.journal).drop (handledCells l.csp.journal).length

/-- These cells are in the SSP's input buffer, on the wire, and in the CSP's out buffer. -/
theorem cellsToSsp_bytes (h : LinkInv l) :
    l.ssp.cellInbuf ++ (l.up.wire ++ l.csp.cellOutbuf) =
      l.cellsToSsp.flatMap (Cell.encode l.csp.cellSize) :=
  h.up.fed.handledCells_eq.2

/-- These cells are in the CSP's input buffer, on the wire, and in the SSP's out buffer. -/
theorem cellsToCsp_bytes (h : LinkInv l) :
    l.csp.cellInbuf ++ (l.down.wire ++ l.ssp.cellOutbuf) =
      l.cellsToCsp.flatMap (Cell.encode l.ssp.cellSize) :=
  h.down.fed.handledCells_eq.2

/-- A link right after the handshake. -/
def fresh : Link := ⟨Chan.fresh true, Chan.fresh false⟩

theorem fresh_established : Established fresh where
  up := ⟨Chan.fresh_established true, Chan.fresh_established false, rfl⟩
  down := ⟨Chan.fresh_established false, Chan.fresh_established true, rfl⟩
  client := rfl
  server := rfl

/-- The same with a time limit of one second. -/
def brief : Link :=
  ⟨{ Chan.fresh true with defenseSessionTimeLimit := 1 },
    { Chan.fresh false with defenseSessionTimeLimit := 1 }⟩

/-- `n` ticks of both ends from the time `start` on, one every 20 ms; the sockets are full. -/
def ticks (start n : ℕ) : List LinkEvent :=
  (List.range n).flatMap fun i =>
    [.csp (.bufloTimerFired (start + i * 20000) [] (.fails .eagain)),
      .ssp (.bufloTimerFired (start + i * 20000 + 10000) [] (.fails .eagain))]

/-- The CSP is armed and sends its first cell, which the SSP reads, and after that both ends tick
49 times: with the first write, these are the 50 attempts of the CSP. -/
def begins : List LinkEvent :=
  [.csp .setAutoStartDefenseSessionOnNextSend, .csp (.pumpSpdySend [List.replicate 700 66]),
    .csp (.socketWritable 0 (.accepts 750)), .toSsp 10000 750] ++ ticks 20000 49

/-- The CSP is stopped, and its STOP leaves at once.  The SSP reads it behind its last attempt,
ends its own session, and has a DONE to send. -/
def stops : List LinkEvent :=
  [.csp (.stopDefenseSession false), .csp (.bufloTimerFired 1000000 [] (.fails .eagain)),
    .csp (.socketWritable 1000000 (.accepts 750)),
    .ssp (.bufloTimerFired 1010000 [] (.fails .eagain)), .toSsp 1020000 750,
    .ssp (.bufloTimerFired 1030000 [] (.fails .eagain))]

end Link

end ShadowBrowser
