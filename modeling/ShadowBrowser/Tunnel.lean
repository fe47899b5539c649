/-
The tunnel: one direction of a connection between two channels.

The socket carries the bytes that the sender wrote to the receiver, in order, and
cuts them into reads of any sizes (`deliver`).  Beside that either end takes steps
of its own.

* **`TunnelInv.step`** — the bytes received are always a prefix of the bytes written;
* **`handledCells_eq`** — so the cells handled are the first cells of the stream;
* **`tunnel_delivers`** — so what spdylay gets is what spdylay gave.
-/
import ShadowBrowser.FlagLaw
import ShadowBrowser.InBuffer

namespace ShadowBrowser

open Checked Runs Blocks Chan

instance (e : Event) : Decidable e.Reads := by
  unfold Event.Reads
  split <;> infer_instance

/-- The two ends of one direction. -/
structure Tunnel where
  sender : Chan
  receiver : Chan

/-- What can happen. -/
inductive TunnelEvent
  /-- the sender takes a step, which may be a read from the other direction -/
  | send (e : Event)
  /-- the receiver reads the next `k` bytes -/
  | deliver (now : ℕ) (k : ℕ)
  /-- the receiver takes another step -/
  | recv (e : Event)
  deriving Repr

namespace Tunnel

/-- The bytes that have been written and not yet read. -/
def wire (t : Tunnel) : List UInt8 :=
  (written t.sender.journal).drop (received t.receiver.journal).length

/-- One step. -/
def step (t : Tunnel) : TunnelEvent → Except Check Tunnel
  | .send e => do
    let sender ← t.sender.step e
    return { t with sender }
  | .deliver now k => do
    check (0 < k ∧ k ≤ t.wire.length) .notEnabled
    let receiver ← t.receiver.step (.socketReadable now (.bytes (t.wire.take k)))
    return { t with receiver }
  | .recv e => do
    check (¬ e.Reads) .notEnabled
    let receiver ← t.receiver.step e
    return { t with receiver }

/-- The steps, as a relation. -/
def Step (t : Tunnel) (e : TunnelEvent) (t' : Tunnel) : Prop := t.step e = .ok t'

/-- Both ends are past the handshake, which told the receiver the cell size. -/
structure Established (t : Tunnel) : Prop where
  sender : t.sender.Established
  receiver : t.receiver.Established
  size : t.receiver.peerCellSize = t.sender.cellSize

/-- What the two ends have to do with each other. -/
structure TunnelInv (t : Tunnel) : Prop where
  sender : Reachable t.sender
  receiver : Reachable t.receiver
  size : t.receiver.peerCellSize = t.sender.cellSize
  wire : received t.receiver.journal <+: written t.sender.journal

/-- The receiver's input is what the sender has put out.  Unlike `TunnelInv` this holds while
the receiver is still at work on what it has read. -/
structure Fed (t : Tunnel) : Prop where
  sender : OutBufferInv t.sender
  receiver : InBufferInv t.receiver
  size : t.receiver.peerCellSize = t.sender.cellSize
  wire : received t.receiver.journal <+: written t.sender.journal

variable {t t' : Tunnel}

namespace Fed

theorem wire_eq (h : Fed t) :
    written t.sender.journal = received t.receiver.journal ++ t.wire := by
  obtain ⟨rest, hrest⟩ := h.wire
  rw [Tunnel.wire, ← hrest, List.drop_left]

/-- The stream of cells, as the receiver has split it. -/
theorem stream (h : Fed t) :
    (handledCells t.receiver.journal).flatten ++
        (t.receiver.cellInbuf ++ (t.wire ++ t.sender.cellOutbuf)) =
      (keptCells t.sender.journal).flatMap (Cell.encode t.sender.cellSize) := by
  rw [← h.sender.bytes, h.wire_eq, h.receiver.stream]
  simp only [List.append_assoc]

/-- **The cells handled are the first cells of the stream**, and the rest of the stream is in
the receiver's buffer, on the wire, and in the sender's buffer. -/
theorem handledCells_eq (h : Fed t) :
    handledCells t.receiver.journal =
        ((keptCells t.sender.journal).take (handledCells t.receiver.journal).length).map
          (Cell.encode t.sender.cellSize) ∧
      t.receiver.cellInbuf ++ (t.wire ++ t.sender.cellOutbuf) =
        ((keptCells t.sender.journal).drop (handledCells t.receiver.journal).length).flatMap
          (Cell.encode t.sender.cellSize) := by
  refine flatten_prefix h.sender.cellSize_pos ?_
    (fun k hk => length_encode (h.sender.fits k hk)) h.stream
  rw [← h.size]
  exact h.receiver.blocks

/-- The bytes of the cells handled have been written. -/
theorem handled_le (h : Fed t) :
    (handledCells t.receiver.journal).length * t.sender.cellSize ≤
      (written t.sender.journal).length := by
  have hlen := h.receiver.length_received
  have hle := h.wire.length_le
  rw [← h.size]
  omega

/-- **The cell that the receiver is about to handle is the next cell of the stream.** -/
theorem next (h : Fed t) (hstate : t.receiver.cellReadInfo.state = .readBody)
    (hwhole : t.receiver.peerCellSize ≤ t.receiver.cellInbuf.length) :
    ∃ k rest, (keptCells t.sender.journal).drop (handledCells t.receiver.journal).length =
        k :: rest ∧
      t.receiver.cellReadInfo.cellFlags = getCellFlags k.typeNFlags := by
  obtain ⟨hheader, hinfo⟩ := h.receiver.info hstate
  have hrest := h.handledCells_eq.2
  have hsize := h.receiver.size
  cases hks : (keptCells t.sender.journal).drop (handledCells t.receiver.journal).length with
  | nil =>
    rw [hks, List.flatMap_nil, List.append_eq_nil_iff] at hrest
    rw [hrest.1, List.length_nil] at hwhole
    omega
  | cons k rest =>
    have hmem : k ∈ keptCells t.sender.journal := by
      refine List.mem_of_mem_drop (i := (handledCells t.receiver.journal).length) ?_
      rw [hks]
      exact List.mem_cons_self
    refine ⟨k, rest, rfl, ?_⟩
    rw [hks, List.flatMap_cons] at hrest
    rw [hinfo, ← parse_append hheader (t.wire ++ t.sender.cellOutbuf), hrest,
      parse_encode (h.sender.fits k hmem)]

end Fed

/-! ### The bytes -/

theorem Established.tunnelInv (h : t.Established) : TunnelInv t where
  sender := ⟨t.sender, [], h.sender, .nil _⟩
  receiver := ⟨t.receiver, [], h.receiver, .nil _⟩
  size := h.size
  wire := by
    rw [h.receiver.unused]
    exact List.nil_prefix

namespace TunnelInv

theorem size_pos (h : TunnelInv t) : 0 < t.receiver.peerCellSize := by
  rw [h.size]
  exact h.sender.outBufferInv.cellSize_pos

theorem fed (h : TunnelInv t) : Fed t where
  sender := h.sender.outBufferInv
  receiver := (h.receiver.inBufferInv h.size_pos).1
  size := h.size
  wire := h.wire

/-- The sender takes a step. -/
theorem send {e : Event} {c : Chan} (h : TunnelInv t) (hstep : Chan.Step t.sender e c) :
    TunnelInv { t with sender := c } := by
  have hmic := h.sender.step_micros hstep
  refine ⟨h.sender.snoc hstep, h.receiver, ?_, h.wire.trans (written_mono hmic.journal)⟩
  show t.receiver.peerCellSize = c.cellSize
  rw [h.size]
  exact (congrArg (·.1.2.1) hmic.config_eq).symm

/-- The receiver takes a step that reads what is next on the wire, if anything. -/
theorem receive {e : Event} {c : Chan} (h : TunnelInv t) (hstep : Chan.Step t.receiver e c)
    (hrecv : received c.journal <+: written t.sender.journal) :
    TunnelInv { t with receiver := c } := by
  have hmic := h.receiver.step_micros hstep
  refine ⟨h.sender, h.receiver.snoc hstep, ?_, hrecv⟩
  rw [← h.size]
  exact congrArg (·.2.2.1) hmic.config_eq

/-- **The bytes received stay a prefix of the bytes written.** -/
theorem step {e : TunnelEvent} (h : TunnelInv t) (hstep : t.Step e t') : TunnelInv t' := by
  obtain ⟨-, -, -, hc, -⟩ := h.receiver.micros
  cases e with
  | send e =>
    obtain ⟨c, hc, hstep⟩ := bind_eq_ok.mp hstep
    cases hstep
    exact h.send hc
  | deliver now k =>
    obtain ⟨_, hk, hstep⟩ := bind_eq_ok.mp hstep
    obtain ⟨c, hread, hstep⟩ := bind_eq_ok.mp hstep
    cases hstep
    refine h.receive hread ?_
    obtain ⟨hpos, hle⟩ := check_eq_ok.mp hk
    have hne : t.wire.take k ≠ [] := by
      intro hnil
      have := congrArg List.length hnil
      rw [List.length_take, List.length_nil] at this
      omega
    have hcells := onSocketReadcb_bytes hc h.size_pos hne (Step.enabled hread).2
    rw [readCells_received hcells]
    have hin : received (t.receiver.readIn (t.wire.take k)).journal =
        received t.receiver.journal ++ t.wire.take k := by simp [readIn, received]
    rw [hin, h.fed.wire_eq]
    exact (List.prefix_append_right_inj _).mpr (List.take_prefix k t.wire)
  | recv e =>
    obtain ⟨_, he, hstep⟩ := bind_eq_ok.mp hstep
    obtain ⟨c, hown, hstep⟩ := bind_eq_ok.mp hstep
    cases hstep
    refine h.receive hown ?_
    have hsame := Chan.Step.recvPart_eq hc (check_eq_ok.mp he) hown
    rw [show received c.journal = received t.receiver.journal from congrArg (·.2.1) hsame]
    exact h.wire

/-! ### The cells -/

/-- At every cell that was handled, the stream goes on with a cell of the sender. -/
theorem received_drop (h : TunnelInv t) {i : ℕ}
    (hi : i < (handledCells t.receiver.journal).length) :
    ∃ (k : Cell) (rest : List UInt8), k.Fits t.sender.cellSize ∧
      (received t.receiver.journal).drop (i * t.receiver.peerCellSize) =
        k.encode t.sender.cellSize ++ rest := by
  have hin := (h.receiver.inBufferInv h.size_pos).1
  obtain ⟨n, hcells⟩ : ∃ n, handledCells t.receiver.journal =
      ((keptCells t.sender.journal).take n).map (Cell.encode t.sender.cellSize) :=
    ⟨_, h.fed.handledCells_eq.1⟩
  have hlt : i < ((keptCells t.sender.journal).take n).length := by
    rw [hcells, List.length_map] at hi
    exact hi
  have hmem := List.mem_of_mem_take (List.getElem_mem hlt)
  have hle : i * t.receiver.peerCellSize ≤ (handledCells t.receiver.journal).flatten.length := by
    rw [hin.length_handled]
    exact Nat.mul_le_mul_right _ hi.le
  refine ⟨((keptCells t.sender.journal).take n)[i],
    ((((keptCells t.sender.journal).take n).drop (i + 1)).map
      (Cell.encode t.sender.cellSize)).flatten ++ t.receiver.cellInbuf,
    h.sender.outBufferInv.fits _ hmem, ?_⟩
  rw [hin.stream, List.drop_append_of_le_length hle, drop_flatten i hin.blocks, hcells,
    ← List.map_drop, ← List.getElem_cons_drop hlt, List.map_cons, List.flatten_cons,
    List.append_assoc]

/-- A cell of the stream delivers its payload. -/
theorem cellPayload_encode {k : Cell} {size : ℕ} (hfits : k.Fits size) (hshaped : k.Shaped) :
    cellPayload (k.encode size) = k.payload := by
  have hparse := parse_encode hfits []
  have hbody : ((k.encode size ++ []).drop cellHeaderSize).take k.payload.length = k.payload :=
    body_encode []
  rw [List.append_nil] at hparse hbody
  rw [cellPayload, hparse]
  rcases hshaped with ⟨htype, -⟩ | ⟨htype, hnil⟩
  · rw [if_pos htype]
    exact hbody
  · rw [if_neg (fun hdata => absurd (htype.symm.trans hdata) (by decide)), hnil]

/-- **What is delivered are the payloads of the first cells of the stream.** -/
theorem delivered_eq (h : TunnelInv t) :
    delivered t.receiver.journal =
      ((keptCells t.sender.journal).take (handledCells t.receiver.journal).length).flatMap
        Cell.payload := by
  have hin := (h.receiver.inBufferInv h.size_pos).1
  have hout := h.sender.outBufferInv
  have hown := hin.own fun i hi => by
    obtain ⟨k, rest, hfits, hdrop⟩ := h.received_drop hi
    rw [headerAt, hdrop, parse_encode hfits, h.size]
    exact hfits.1
  rw [hown]
  conv_lhs => rw [h.fed.handledCells_eq.1, List.flatMap_map]
  refine List.flatMap_congr fun k hk => ?_
  have hmem := List.mem_of_mem_take hk
  exact cellPayload_encode (hout.fits k (by simpa using hmem)) (hout.shaped k (by simpa using hmem))

/-- When everything that was queued has been written and received, all cells were handled. -/
theorem all_handled (h : TunnelInv t) (hout : t.sender.cellOutbuf = [])
    (hwire : received t.receiver.journal = written t.sender.journal) :
    (keptCells t.sender.journal).length ≤ (handledCells t.receiver.journal).length := by
  obtain ⟨hin, hwait⟩ := h.receiver.inBufferInv h.size_pos
  have hsend := h.sender.outBufferInv
  have hempty : t.wire = [] := by rw [Tunnel.wire, hwire, List.drop_length]
  have hrest := congrArg List.length h.fed.handledCells_eq.2
  rw [hout, hempty, List.append_nil, List.append_nil, length_flatMap_blocks (fun k hk =>
    length_encode (hsend.fits k (List.mem_of_mem_drop hk))), List.length_drop] at hrest
  have hlt := hwait.length_cellInbuf_lt
  have hsize := hsend.size.1
  by_contra hge
  have hone : t.sender.cellSize * 1 ≤ t.sender.cellSize *
      ((keptCells t.sender.journal).length - (handledCells t.receiver.journal).length) :=
    Nat.mul_le_mul_left _ (by omega)
  rw [h.size] at hlt
  omega

end TunnelInv

/-! ### End to end -/

/-- **The tunnel delivers what it was given**: a prefix at every moment, and all of it once
nothing is left in the sender's buffers or on the wire.  The cells that the receiver handles
are the first cells of the sender's stream, whole and in order, and no data cell that was
added is missing from that stream. -/
theorem tunnel_delivers {t₀ : Tunnel} {es : List TunnelEvent} (h₀ : t₀.Established)
    (h : Run Step t₀ es t) :
    delivered t.receiver.journal <+: given t.sender.journal ∧
      (t.sender.spdyOutbuf = [] → t.sender.cellOutbuf = [] →
        received t.receiver.journal = written t.sender.journal →
        delivered t.receiver.journal = given t.sender.journal) ∧
      (∃ n, handledCells t.receiver.journal =
          ((keptCells t.sender.journal).take n).map (Cell.encode t.sender.cellSize) ∧
        delivered t.receiver.journal =
          ((keptCells t.sender.journal).take n).flatMap Cell.payload) ∧
      (addedCells t.sender.journal).filter
          (fun k => decide (getCellType k.typeNFlags = CellType.data)) =
        (keptCells t.sender.journal).filter
          (fun k => decide (getCellType k.typeNFlags = CellType.data)) := by
  have hinv : TunnelInv t := h.invariant (fun _ _ _ hs hstep => hs.step hstep) h₀.tunnelInv
  have huser := hinv.sender.outBufferInv.user
  have hdeliv := hinv.delivered_eq
  refine ⟨?_, ?_, ⟨_, hinv.fed.handledCells_eq.1, hdeliv⟩, ?_⟩
  · rw [hdeliv, huser]
    refine List.IsPrefix.trans ?_ (List.prefix_append _ _)
    conv_rhs => rw [← List.take_append_drop (handledCells t.receiver.journal).length
      (keptCells t.sender.journal), List.flatMap_append]
    exact List.prefix_append _ _
  · intro hspdy hcell hwire
    rw [hdeliv, huser, hspdy, List.append_nil, List.take_of_length_le (hinv.all_handled hcell hwire)]
  · refine hinv.sender.flagInv.kept _ fun k hk => decide_eq_false ?_
    rw [hk.1]
    decide

/-- 700 bytes in a session: a read inside the first cell, then a dummy cell behind it that is
dropped for the data that comes later. -/
theorem tunnel_delivers_session : ∃ t es, Run Step ⟨fresh true, fresh false⟩ es t ∧
    (given t.sender.journal).length = 900 ∧
    delivered t.receiver.journal = given t.sender.journal := by
  obtain ⟨t, hrun, ht⟩ := exists_of_returns
    (x := exec step ⟨fresh true, fresh false⟩
      [.send .setAutoStartDefenseSessionOnNextSend, .send (.pumpSpdySend [List.replicate 700 66]),
        .send (.socketWritable 0 (.accepts 400)), .deliver 0 2,
        .send (.bufloTimerFired 20000 [] (.accepts 350)), .deliver 20000 748,
        .send (.pumpSpdySend [List.replicate 200 67]),
        .send (.bufloTimerFired 40000 [] (.accepts 750)), .deliver 40000 750,
        .send (.bufloTimerFired 60000 [] (.accepts 750)), .deliver 60000 750])
    (p := fun t => decide ((given t.sender.journal).length = 900 ∧ t.sender.spdyOutbuf = [] ∧
      t.sender.cellOutbuf = [] ∧ received t.receiver.journal = written t.sender.journal))
    (by decide +kernel)
  obtain ⟨hlen, hspdy, hcell, hwire⟩ := of_decide_eq_true ht
  have hrun' := run_of_exec hrun
  have h₀ : Established ⟨fresh true, fresh false⟩ :=
    ⟨fresh_established true, fresh_established false, rfl⟩
  exact ⟨t, _, hrun', hlen, (tunnel_delivers h₀ hrun').2.1 hspdy hcell hwire⟩

end Tunnel

end ShadowBrowser
