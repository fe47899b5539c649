/-
The input buffer: how the bytes of the peer are cut into cells.

`_read_cells` takes `peer_cell_size_` bytes off `cell_inbuf_` for each cell, however
the reads cut the stream.  It reads a cell's header as soon as three bytes are there,
which for cells of less than three bytes reaches into the cells behind.

* `handleInputCell_recv` — what handling one cell does to the input;
* **`readLoop_fuel`** — the loop runs until it needs more bytes, within its fuel;
* **`Reachable.inBufferInv`** — the cells handled and the bytes left over are
  together the stream received.

The length check of `_handle_input_cell` compares a payload length with the size of
the whole cell, not of its body:

* **`input_cell_bounds`** — so payloads stay within their own cells exactly if no
  header announces one of the three lengths in between.
-/
import Mathlib.Data.List.GetD
import Mathlib.Algebra.Order.Group.Nat
import ShadowBrowser.DefenseInv

namespace ShadowBrowser

open Checked Runs

/-! ### Headers and bodies -/

/-- The header of the `i`th cell of a stream of cells of `p` bytes. -/
def headerAt (p : ℕ) (bs : List UInt8) (i : ℕ) : CellReadInfo :=
  CellReadInfo.parse (bs.drop (i * p))

/-- What a cell of these bytes delivers. -/
def cellPayload (raw : List UInt8) : List UInt8 :=
  if (CellReadInfo.parse raw).cellType = CellType.data then
    (raw.drop cellHeaderSize).take (CellReadInfo.parse raw).payloadLen
  else []

/-- A header is read off the first three bytes. -/
theorem parse_append {xs : List UInt8} (h : cellHeaderSize ≤ xs.length) (ys : List UInt8) :
    CellReadInfo.parse (xs ++ ys) = CellReadInfo.parse xs := by
  rw [cellHeaderSize] at h
  rw [CellReadInfo.parse, List.getD_append _ _ _ 0 (by omega),
    List.getD_append _ _ _ 1 (by omega), List.getD_append _ _ _ 2 (by omega)]
  rfl

theorem parse_take {xs : List UInt8} {n : ℕ} (hn : cellHeaderSize ≤ n) (hxs : n ≤ xs.length) :
    CellReadInfo.parse (xs.take n) = CellReadInfo.parse xs := by
  have hlen : (xs.take n).length = n := by
    rw [List.length_take]
    omega
  conv_rhs => rw [← List.take_append_drop n xs]
  exact (parse_append (by omega) _).symm

theorem headerAt_append {p i : ℕ} {xs : List UInt8} (h : i * p + cellHeaderSize ≤ xs.length)
    (ys : List UInt8) : headerAt p (xs ++ ys) i = headerAt p xs i := by
  rw [headerAt, List.drop_append_of_le_length (by omega)]
  exact parse_append (by rw [List.length_drop]; omega) ys

/-- The event brings bytes in. -/
def Event.Reads : Event → Prop
  | .socketReadable _ (.bytes _) => True
  | _ => False

namespace Chan

variable {c c' d : Chan} {now : ℕ}

/-! ### Steps that leave the input alone -/

/-- A step that does not touch the input fields, nor logs anything about the input. -/
theorem recvPart_congr (as : List Act)
    (hf : (c'.peerCellSize, c'.spdyInbuf, c'.cellInbuf, c'.cellReadInfo) =
      (c.peerCellSize, c.spdyInbuf, c.cellInbuf, c.cellReadInfo))
    (hj : c'.journal = c.journal ++ as) (hall : ∀ a ∈ as, ¬ a.IsIn) :
    c'.recvPart = c.recvPart := by
  rw [recvPart, recvPart, hf, hj, inJournal_append hall]

theorem raiseFlag_recvPart (c : Chan) (f : Flag) : (c.raiseFlag f).recvPart = c.recvPart :=
  recvPart_congr [.flagRaised f] rfl rfl (by simp [Act.IsIn])

theorem putDefenseInfo_recvPart (c : Chan) (d : DefenseInfo) :
    (c.putDefenseInfo d).recvPart = c.recvPart := by
  refine recvPart_congr _ rfl rfl fun a ha => ?_
  obtain ⟨f, -, rfl⟩ := List.mem_map.mp ha
  exact id

theorem stopDefenseSession_recvPart {rightNow : Bool}
    (h : c.stopDefenseSession rightNow = .ok c') : c'.recvPart = c.recvPart := by
  have hcalled : (c.log .stopCalled).recvPart = c.recvPart :=
    recvPart_congr [.stopCalled] rfl rfl (by simp [Act.IsIn])
  rcases stopDefenseSession_cases h with ⟨-, rfl⟩ | ⟨-, -, rfl⟩
  · exact (putDefenseInfo_recvPart _ _).trans hcalled
  · rw [Chan.stopping]
    dsimp only
    split
    · rw [raiseFlag_recvPart, putDefenseInfo_recvPart, hcalled]
    · rw [putDefenseInfo_recvPart, hcalled]

theorem begun_recvPart (c : Chan) (now : ℕ) : (c.begun now).recvPart = c.recvPart :=
  recvPart_congr [.defenseBegun] rfl rfl (by simp [Act.IsIn])

theorem doIf_recvPart {b : Bool} {f : Chan → Except Check Chan} (h : doIf b f c = .ok c')
    (hf : f c = .ok c' → c'.recvPart = c.recvPart) : c'.recvPart = c.recvPart := by
  rcases doIf_eq_ok h with ⟨-, h⟩ | ⟨-, rfl⟩
  · exact hf h
  · rfl

theorem handleFlags_recvPart {flags : UInt8} (h : c.handleFlags now flags = .ok c') :
    c'.recvPart = c.recvPart := by
  rcases handleFlags_cases h with ⟨-, rfl⟩ | ⟨c₁, c₂, c₃, ha, -, hs, hp, rfl⟩
  · rfl
  · have h₁ : c₁.recvPart = c.recvPart := doIf_recvPart ha fun h => by
      obtain ⟨-, ⟨-, -, -, rfl⟩ | ⟨-, rfl⟩⟩ := handleAutoStopped_cases h
      · exact raiseFlag_recvPart c _
      · rfl
    have h₂ : c₂.recvPart = c₁.recvPart := doIf_recvPart hs fun h => by
      obtain ⟨-, -, -, rfl⟩ := handleStart_eq_ok h
      exact begun_recvPart c₁ now
    have h₃ : c₃.recvPart = c₂.recvPart := doIf_recvPart hp fun h =>
      stopDefenseSession_recvPart (handleStop_eq_ok h).2
    exact h₃.trans (h₂.trans h₁)

theorem checkNotifyADefenseSessionDone_recvPart (c : Chan) :
    c.checkNotifyADefenseSessionDone.recvPart = c.recvPart := by
  unfold checkNotifyADefenseSessionDone
  split
  · exact recvPart_congr [.status .aDefenseSessionDone] rfl rfl (by simp [Act.IsIn])
  · rfl

theorem handleDone_recvPart (h : c.handleDone = .ok c') : c'.recvPart = c.recvPart := by
  obtain ⟨-, rfl⟩ := handleDone_eq_ok h
  rw [checkNotifyADefenseSessionDone_recvPart]
  rfl

/-! ### One cell -/

/-- A cell of known type is a data cell, whose payload is there, or a dummy cell. -/
theorem handleData_cases {cellType : UInt8} {len : ℕ} {ptr : Option (List UInt8)}
    (h : c.handleData cellType len ptr = .ok c') :
    (cellType = CellType.data ∧ ∃ bs, ptr = some bs ∧
        c' = ({ c with
          spdyInbuf := c.spdyInbuf ++ bs.drop cellHeaderSize
          allUsersDataRecvByteCount := c.allUsersDataRecvByteCount + len
          journal := c.journal ++ [.delivered (bs.drop cellHeaderSize)] } : Chan).pumpSpdyRecv) ∨
      (cellType = CellType.dummy ∧ c' = { c with dummyRecvCellCount := c.dummyRecvCellCount + 1 }) := by
  unfold handleData at h
  split at h
  · next htype =>
    split at h
    · cases h
    · next bs =>
      cases h
      exact .inl ⟨htype, bs, rfl, rfl⟩
  · split at h
    · next htype =>
      cases h
      exact .inr ⟨htype, rfl⟩
    · split at h <;> cases h

/-- What the body of a cell delivers. -/
theorem handleData_recv {cellType : UInt8} {len : ℕ}
    (h : c.handleData cellType len (c'.pullup (cellHeaderSize + len)) = .ok d) :
    (d.peerCellSize, d.cellInbuf, received d.journal, handledCells d.journal) =
        (c.peerCellSize, c.cellInbuf, received c.journal, handledCells c.journal) ∧
      delivered d.journal = delivered c.journal ++
        if cellType = CellType.data then (c'.cellInbuf.drop cellHeaderSize).take len else [] := by
  rcases handleData_cases h with ⟨htype, bs, hptr, rfl⟩ | ⟨htype, rfl⟩
  · have hbs : bs.drop cellHeaderSize = (c'.cellInbuf.drop cellHeaderSize).take len := by
      unfold pullup at hptr
      split at hptr
      · cases hptr
        rw [List.drop_take, Nat.add_sub_cancel_left]
      · cases hptr
    rw [if_pos htype, ← hbs]
    simp [pumpSpdyRecv, received, handledCells, delivered]
  · rw [if_neg (by rw [htype]; decide), List.append_nil]
    exact ⟨rfl, rfl⟩

/-- **What handling one cell does to the input**: it takes one cell off the buffer, and
delivers as many bytes behind the header as the header says. -/
theorem handleInputCell_recv (h : c.handleInputCell now = .ok c') :
    c.cellReadInfo.payloadLen ≤ c.peerCellSize ∧ c'.peerCellSize = c.peerCellSize ∧
      c'.cellInbuf = c.cellInbuf.drop c.peerCellSize ∧
      received c'.journal = received c.journal ∧
      handledCells c'.journal =
        handledCells c.journal ++ [c.cellInbuf.take c.peerCellSize] ∧
      delivered c'.journal = delivered c.journal ++
        if c.cellReadInfo.cellType = CellType.data then
          (c.cellInbuf.drop cellHeaderSize).take c.cellReadInfo.payloadLen
        else [] := by
  obtain ⟨hlen, c₁, c₂, c₃, hflags, hdata, hdone, rfl⟩ := handleInputCell_cases h
  have h₁ := handleFlags_recvPart hflags
  obtain ⟨h₂, hdeliv₂⟩ := handleData_recv hdata
  have h₃ : c₃.recvPart = c₂.recvPart := doIf_recvPart hdone handleDone_recvPart
  simp only [recvPart, inJournal, Prod.mk.injEq] at h₁ h₂ h₃
  obtain ⟨⟨hsize₁, -, hbuf₁, -⟩, hrecv₁, hcells₁, hdeliv₁⟩ := h₁
  obtain ⟨hsize₂, hbuf₂, hrecv₂, hcells₂⟩ := h₂
  obtain ⟨⟨hsize₃, -, hbuf₃, -⟩, hrecv₃, hcells₃, hdeliv₃⟩ := h₃
  have hsize : c₃.peerCellSize = c.peerCellSize := hsize₃.trans (hsize₂.trans hsize₁)
  have hbuf : c₃.cellInbuf = c.cellInbuf := hbuf₃.trans (hbuf₂.trans hbuf₁)
  refine ⟨hlen, hsize, ?_, ?_, ?_, ?_⟩
  · show c₃.cellInbuf.drop c₃.peerCellSize = _
    rw [hbuf, hsize]
  · refine hrecv₃.trans (hrecv₂.trans (hrecv₁.trans ?_))
    simp [log, received]
  · refine hcells₃.trans (hcells₂.trans (hcells₁.trans ?_))
    simp [log, handledCells]
  · refine hdeliv₃.trans (hdeliv₂.trans ?_)
    rw [hdeliv₁]
    simp [log, delivered]

/-! ### The loop -/

/-- `_read_cells` needs more bytes to go on. -/
def WaitsForBytes (c : Chan) : Prop :=
  match c.cellReadInfo.state with
  | .readHeader => c.cellInbuf.length < cellHeaderSize
  | .readBody => c.cellInbuf.length < c.peerCellSize

/-- A buffer in which no whole cell is left. -/
theorem WaitsForBytes.length_cellInbuf_lt (hwait : c.WaitsForBytes) :
    c.cellInbuf.length < max cellHeaderSize c.peerCellSize := by
  unfold WaitsForBytes at hwait
  split at hwait <;> omega

/-- **The loop of `_read_cells` runs until it needs more bytes.**  Reading a header uses up
one unit of fuel, handling a cell one byte and one unit. -/
theorem readLoop_fuel : ∀ {fuel : ℕ} {c c' : Chan}, 0 < c.peerCellSize →
    2 * c.cellInbuf.length + (if c.cellReadInfo.state = .readHeader then 1 else 0) < fuel →
    readLoop now fuel c = .ok c' → c'.WaitsForBytes := by
  intro fuel
  -- the measure falls with a header, which leaves the bytes, and with a cell, which takes some
  induction fuel with
  | zero =>
    intro c c' _ hfuel
    omega
  | succ fuel ih =>
    intro c c' hp hfuel h
    rw [readLoop] at h
    split at h
    · next hstate =>
      split at h
      · next hlen =>
        refine ih (c := { c with cellReadInfo := CellReadInfo.parse c.cellInbuf }) hp ?_ h
        rw [if_pos hstate] at hfuel
        show 2 * c.cellInbuf.length + 0 < fuel
        omega
      · next hlen =>
        cases h
        rw [WaitsForBytes, hstate]
        show c.cellInbuf.length < cellHeaderSize
        omega
    · next hstate =>
      split at h
      · next hlen =>
        obtain ⟨c₁, hcell, h⟩ := bind_eq_ok.mp h
        obtain ⟨-, hsize, hbuf, -⟩ := handleInputCell_recv hcell
        have hlength : c₁.cellInbuf.length = c.cellInbuf.length - c.peerCellSize := by
          rw [hbuf, List.length_drop]
        have hp₁ : 0 < c₁.peerCellSize := by omega
        refine ih (c := { c₁ with cellReadInfo := {} }) hp₁ ?_ h
        show 2 * c₁.cellInbuf.length + 1 < fuel
        omega
      · next hlen =>
        cases h
        rw [WaitsForBytes, hstate]
        show c.cellInbuf.length < c.peerCellSize
        omega

/-! ### The stream and its cells -/

/-- The cells handled and the bytes left over are the stream received. -/
structure InBufferInv (c : Chan) : Prop where
  size : 0 < c.peerCellSize
  stream : received c.journal = (handledCells c.journal).flatten ++ c.cellInbuf
  blocks : ∀ raw ∈ handledCells c.journal, raw.length = c.peerCellSize
  info : c.cellReadInfo.state = .readBody →
    cellHeaderSize ≤ c.cellInbuf.length ∧ c.cellReadInfo = CellReadInfo.parse c.cellInbuf
  headers : ∀ i < (handledCells c.journal).length,
    i * c.peerCellSize + cellHeaderSize ≤ (received c.journal).length ∧
      (headerAt c.peerCellSize (received c.journal) i).payloadLen ≤ c.peerCellSize
  own : (∀ i < (handledCells c.journal).length,
      (headerAt c.peerCellSize (received c.journal) i).payloadLen + cellHeaderSize ≤
        c.peerCellSize) →
    delivered c.journal = (handledCells c.journal).flatMap cellPayload

namespace InBufferInv

theorem length_handled (h : InBufferInv c) :
    (handledCells c.journal).flatten.length =
      (handledCells c.journal).length * c.peerCellSize := by
  rw [← List.flatMap_id, Blocks.length_flatMap_blocks (f := id) h.blocks, Nat.mul_comm]

theorem length_received (h : InBufferInv c) :
    (received c.journal).length =
      (handledCells c.journal).length * c.peerCellSize + c.cellInbuf.length := by
  rw [h.stream, List.length_append, h.length_handled]

/-- The next cell to be handled starts the buffer. -/
theorem headerAt_next (h : InBufferInv c) :
    headerAt c.peerCellSize (received c.journal) (handledCells c.journal).length =
      CellReadInfo.parse c.cellInbuf := by
  rw [headerAt, h.stream, List.drop_left' h.length_handled]

/-- A step that leaves the input alone. -/
theorem of_recvPart (h : InBufferInv c) (e : c'.recvPart = c.recvPart) : InBufferInv c' := by
  simp only [recvPart, inJournal, Prod.mk.injEq] at e
  obtain ⟨⟨hsize, -, hbuf, hinfo⟩, hrecv, hcells, hdeliv⟩ := e
  constructor <;> simp only [hsize, hbuf, hinfo, hrecv, hcells, hdeliv]
  · exact h.size
  · exact h.stream
  · exact h.blocks
  · exact h.info
  · exact h.headers
  · exact h.own

/-- Bytes are read. -/
theorem readIn (h : InBufferInv c) (bs : List UInt8) : InBufferInv (c.readIn bs) := by
  have hrecv : received (c.readIn bs).journal = received c.journal ++ bs := by
    simp [Chan.readIn, received]
  have hcells : handledCells (c.readIn bs).journal = handledCells c.journal := by
    simp [Chan.readIn, handledCells]
  have hdeliv : delivered (c.readIn bs).journal = delivered c.journal := by
    simp [Chan.readIn, delivered]
  -- the headers of the cells handled lie in front of what has come now
  have hheader : ∀ i < (handledCells c.journal).length,
      headerAt c.peerCellSize (received c.journal ++ bs) i =
        headerAt c.peerCellSize (received c.journal) i :=
    fun i hi => headerAt_append (h.headers i hi).1 bs
  constructor <;> try simp only [hrecv, hcells, hdeliv]
  · exact h.size
  · rw [h.stream, List.append_assoc]
    rfl
  · exact h.blocks
  · intro hstate
    obtain ⟨hlen, hinfo⟩ := h.info hstate
    refine ⟨?_, ?_⟩
    · show cellHeaderSize ≤ (c.cellInbuf ++ bs).length
      rw [List.length_append]
      omega
    · show c.cellReadInfo = CellReadInfo.parse (c.cellInbuf ++ bs)
      rw [parse_append hlen, hinfo]
  · intro i hi
    obtain ⟨hlen, hle⟩ := h.headers i hi
    refine ⟨?_, ?_⟩
    · rw [List.length_append]
      exact Nat.le_add_right_of_le hlen
    · show (headerAt c.peerCellSize _ i).payloadLen ≤ c.peerCellSize
      rw [hheader i hi]
      exact hle
  · intro hall
    refine h.own fun i hi => ?_
    rw [← hheader i hi]
    exact hall i hi

/-- A header is parsed. -/
theorem parsed (h : InBufferInv c) (hlen : cellHeaderSize ≤ c.cellInbuf.length) :
    InBufferInv { c with cellReadInfo := CellReadInfo.parse c.cellInbuf } where
  size := h.size
  stream := h.stream
  blocks := h.blocks
  info := fun _ => ⟨hlen, rfl⟩
  headers := h.headers
  own := h.own

/-- A cell is handled. -/
theorem cell {c₁ : Chan} (h : InBufferInv c) (hstate : c.cellReadInfo.state = .readBody)
    (hlen : c.peerCellSize ≤ c.cellInbuf.length) (hcell : c.handleInputCell now = .ok c₁) :
    InBufferInv { c₁ with cellReadInfo := {} } := by
  obtain ⟨hle, hsize, hbuf, hrecv, hcells, hdeliv⟩ := handleInputCell_recv hcell
  obtain ⟨hheader, hinfo⟩ := h.info hstate
  have hlength := h.length_received
  have hnext := h.headerAt_next
  rw [← hinfo] at hnext
  constructor <;> simp only [hsize, hbuf, hrecv, hcells, hdeliv]
  · exact h.size
  · rw [h.stream, List.flatten_append, List.flatten_singleton, List.append_assoc,
      List.take_append_drop]
  · intro raw hraw
    rcases List.mem_append.mp hraw with hraw | hraw
    · exact h.blocks raw hraw
    · rw [List.mem_singleton.mp hraw, List.length_take]
      omega
  · exact fun hs => absurd hs (by simp)
  · intro i hi
    rw [List.length_append, List.length_singleton] at hi
    by_cases hold : i < (handledCells c.journal).length
    · exact h.headers i hold
    · obtain rfl : i = (handledCells c.journal).length := by omega
      rw [hnext]
      exact ⟨by omega, hle⟩
  · intro hall
    rw [List.length_append, List.length_singleton] at hall
    have hown := h.own fun i hi => hall i (by omega)
    have hfits := hall (handledCells c.journal).length (by omega)
    rw [hnext] at hfits
    rw [hown, List.flatMap_append, List.flatMap_singleton, cellPayload,
      parse_take (by omega) hlen, ← hinfo, List.drop_take, List.take_take,
      Nat.min_eq_left (by omega)]

/-- **Reading preserves the invariant**, and leaves less than a cell. -/
theorem readCells (h : InBufferInv c) (hread : c.readCells now = .ok c') :
    InBufferInv c' ∧ c'.WaitsForBytes := by
  obtain ⟨hp, hloop⟩ := readCells_eq_ok hread
  refine ⟨?_, readLoop_fuel hp ?_ hloop⟩
  · refine readLoop_induct (P := InBufferInv) ?_ ?_ h hloop
    · exact fun d hd _ hlen => hd.parsed hlen
    · exact fun d d₁ hd hstate hlen hcell => hd.cell hstate hlen hcell
  · split <;> omega

/-- The cells handled are those of which header and body have been received. -/
theorem lt_handled_iff (h : InBufferInv c) (hwait : c.WaitsForBytes) (i : ℕ) :
    i < (handledCells c.journal).length ↔
      i * c.peerCellSize + max cellHeaderSize c.peerCellSize ≤ (received c.journal).length := by
  have hlength := h.length_received
  have hlt := hwait.length_cellInbuf_lt
  constructor
  · intro hi
    have hheader := (h.headers i hi).1
    have hbody : (i + 1) * c.peerCellSize ≤
        (handledCells c.journal).length * c.peerCellSize := Nat.mul_le_mul_right _ hi
    rw [Nat.add_mul, Nat.one_mul] at hbody
    omega
  · intro hi
    by_contra hge
    have hle : (handledCells c.journal).length * c.peerCellSize ≤ i * c.peerCellSize :=
      Nat.mul_le_mul_right _ (by omega)
    omega

end InBufferInv

theorem WaitsForBytes.of_recvPart (h : c.WaitsForBytes) (e : c'.recvPart = c.recvPart) :
    c'.WaitsForBytes := by
  simp only [recvPart, inJournal, Prod.mk.injEq] at e
  obtain ⟨⟨hsize, -, hbuf, hinfo⟩, -⟩ := e
  rw [WaitsForBytes, hsize, hbuf, hinfo]
  exact h

/-! ### Events -/

theorem bufloTimerFired_recvPart {sends : List (List UInt8)} {sock : SockRes}
    (h : c.bufloTimerFired now sends sock = .ok c') : c'.recvPart = c.recvPart := by
  obtain ⟨hact, ⟨hdone, c₁, houts, -, -, rfl⟩ | ⟨-, -, hsrv, houts, -⟩ | ⟨-, -, htick⟩⟩ :=
    bufloTimerFired_cases h
  · rw [checkNotifyADefenseSessionDone_recvPart, houts.recvPart_eq]
    exact (Control.finished c hact (isDoneDefendingSend_stopRequested hdone)).recvPart_eq
  · rw [houts.recvPart_eq]
    exact (Control.autoStopped c hact hsrv).recvPart_eq
  · exact (defendOneTick_outs hact htick).recvPart_eq

theorem onSocketWritecb_recvPart {sock : SockRes} (hc : CellMode c)
    (h : c.onSocketWritecb now sock = .ok c') : c'.recvPart = c.recvPart := by
  obtain ⟨-, ⟨-, -, -, h⟩ | ⟨hnone, h⟩⟩ := onSocketWritecb_cases hc h
  · rw [(sendCellOutbuf_outs (by simp [begun]) h).recvPart_eq, begun_recvPart]
  · exact (sendCellOutbuf_outs (by simp [hnone]) h).recvPart_eq

/-- **No other event than a read touches the input.** -/
theorem Step.recvPart_eq {e : Event} (hc : CellMode c) (he : ¬ e.Reads) (h : Step c e c') :
    c'.recvPart = c.recvPart := by
  obtain ⟨-, h⟩ := h.enabled
  cases e with
  | pumpSpdySend sends => exact (pumpSpdySend_outs h).recvPart_eq
  | startDefenseSession now =>
    obtain ⟨-, -, rfl⟩ := startDefenseSession_eq_ok h
    exact begun_recvPart c now
  | setAutoStartDefenseSessionOnNextSend =>
    obtain ⟨-, rfl⟩ := setAutoStartDefenseSessionOnNextSend_eq_ok h
    exact recvPart_congr [.armed, .flagRaised .start] rfl (by simp [armed, raiseFlag])
      (by simp [Act.IsIn])
  | stopDefenseSession rightNow => exact stopDefenseSession_recvPart h
  | bufloTimerFired now sends sock => exact bufloTimerFired_recvPart h
  | socketWritable now sock => exact onSocketWritecb_recvPart hc h
  | socketReadable now res =>
    cases res with
    | bytes bs => exact absurd trivial he
    | fails errno =>
      have hfail : c.handleFailedSocketIo (-1) errno true = .ok c' := h
      exact (handleFailedSocketIo_outs hfail).recvPart_eq

/-- Bytes that are read go to the input buffer first. -/
theorem onSocketReadcb_bytes {bs : List UInt8} (hc : CellMode c) (hp : 0 < c.peerCellSize)
    (hbs : bs ≠ []) (h : c.onSocketReadcb now (.bytes bs) = .ok c') :
    (c.readIn bs).readCells now = .ok c' := by
  cases bs with
  | nil => exact absurd rfl hbs
  | cons b bs =>
    unfold onSocketReadcb at h
    dsimp only at h
    rw [if_neg (by simp [hc.peerInfoRead]), if_pos (by omega)] at h
    exact h

/-- Handling cells does not read. -/
theorem readCells_received (h : c.readCells now = .ok c') :
    received c'.journal = received c.journal := by
  refine readLoop_induct (P := fun d => received d.journal = received c.journal) ?_ ?_ rfl
    (readCells_eq_ok h).2
  · exact fun d hd _ _ => hd
  · intro d d₁ hd _ _ hcell
    obtain ⟨-, -, -, hrecv, -⟩ := handleInputCell_recv hcell
    exact hrecv.trans hd

/-- **Every event preserves the invariant**, and leaves less than a cell in the buffer. -/
theorem InBufferInv.step {e : Event} (hc : CellMode c) (hinv : InBufferInv c)
    (hwait : c.WaitsForBytes) (h : Step c e c') : InBufferInv c' ∧ c'.WaitsForBytes := by
  by_cases he : e.Reads
  · obtain ⟨-, h⟩ := h.enabled
    cases e with
    | socketReadable now res =>
      rcases onSocketReadcb_cases hc h with ⟨_, _, h⟩ | ⟨bs, -, -, -, h⟩ | ⟨hp, -⟩
      · have e := (handleFailedSocketIo_outs h).recvPart_eq
        exact ⟨hinv.of_recvPart e, hwait.of_recvPart e⟩
      · exact (hinv.readIn bs).readCells h
      · have := hinv.size
        omega
    | _ => exact absurd he id
  · have e := h.recvPart_eq hc he
    exact ⟨hinv.of_recvPart e, hwait.of_recvPart e⟩

theorem Established.inBufferInv (h : Established c) (hp : 0 < c.peerCellSize) :
    InBufferInv c ∧ c.WaitsForBytes := by
  obtain ⟨-, -, hbuf, -⟩ := h.buffers
  obtain ⟨-, -, -, hinfo⟩ := h.cells
  have hj := h.unused
  refine ⟨⟨hp, ?_, ?_, ?_, ?_, ?_⟩, ?_⟩
  · simp [hj, hbuf, received, handledCells]
  · simp [hj, handledCells]
  · simp [hinfo]
  · simp [hj, handledCells]
  · simp [hj, delivered, handledCells]
  · rw [WaitsForBytes, hinfo, hbuf]
    exact Nat.zero_lt_succ 2

/-- **The invariant holds in every reachable state.** -/
theorem Reachable.inBufferInv (h : Reachable c) (hp : 0 < c.peerCellSize) :
    InBufferInv c ∧ c.WaitsForBytes := by
  obtain ⟨c₀, es, hest, hrun⟩ := h
  have hinv := hrun.invariant
    (P := fun d => CellMode d ∧ d.Settled ∧
      (0 < d.peerCellSize → InBufferInv d ∧ d.WaitsForBytes)) ?_
    ⟨hest.cellMode, hest.settled, hest.inBufferInv⟩
  · exact hinv.2.2 hp
  · intro d e d' ⟨hc, hs, hd⟩ hstep
    obtain ⟨hm, hc', hs'⟩ := hstep.micros hc hs
    refine ⟨hc', hs', fun hp' => ?_⟩
    have hsize : d'.peerCellSize = d.peerCellSize := congrArg (·.2.2.1) hm.config_eq
    obtain ⟨hinv, hwait⟩ := hd (hsize ▸ hp')
    exact InBufferInv.step hc hinv hwait hstep

/-! ### Bounds of input cells -/

/-- `_read_cells` has read the header of the front cell, and all of the cell is there. -/
structure AtCell (c : Chan) : Prop where
  header : cellHeaderSize ≤ c.cellInbuf.length
  info : c.cellReadInfo = CellReadInfo.parse c.cellInbuf
  whole : c.peerCellSize ≤ c.cellInbuf.length

/-- The header of the front cell announces no more than the body of the cell. -/
def HeaderFits (c : Chan) : Prop :=
  c.cellReadInfo.payloadLen + cellHeaderSize ≤ c.peerCellSize

/-- The front cell is handled within its bounds: it is refused by the length check if its
header announces more than its body, and else exactly the cell is consumed and what it
delivers is part of its own body. -/
def CellBounds (c : Chan) (now : ℕ) : Prop :=
  (¬ c.HeaderFits → c.handleInputCell now = .error .cellPayloadLen) ∧
    ∀ c', c.handleInputCell now = .ok c' →
      c'.cellInbuf = c.cellInbuf.drop c.peerCellSize ∧
      delivered c'.journal =
        delivered c.journal ++ cellPayload (c.cellInbuf.take c.peerCellSize)

/-- All cells were handled within their bounds. -/
def CellsBounded (c : Chan) : Prop :=
  (∀ i < (handledCells c.journal).length,
      (headerAt c.peerCellSize (received c.journal) i).payloadLen + cellHeaderSize ≤
        c.peerCellSize) ∧
    delivered c.journal = (handledCells c.journal).flatMap cellPayload

/-- Handling the flags of a cell does not check its length. -/
theorem handleFlags_avoids {flags : UInt8} :
    Avoids .cellPayloadLen (c.handleFlags now flags) := by
  have hauto : ∀ d : Chan, Avoids .cellPayloadLen d.handleAutoStopped := by
    intro d
    refine .check_bind (by decide) fun _ => .ite (fun _ => ?_) fun _ => .ok
    exact .check_bind (by decide) fun _ => .ok
  have hstart : ∀ d : Chan, Avoids .cellPayloadLen (d.handleStart now) := by
    intro d
    refine .check_bind (by decide) fun _ => .check_bind (by decide) fun _ => ?_
    refine .check_bind (by decide) fun _ => .check_bind (by decide) fun _ => ?_
    refine .check_bind (by decide) fun _ => .check_bind (by decide) fun _ => .ok
  have hstop : ∀ d : Chan, Avoids .cellPayloadLen d.handleStop := by
    intro d
    refine .check_bind (by decide) fun _ => .ite (fun _ => .ok) fun _ => ?_
    exact .ite (fun _ => .check_bind (by decide) fun _ => .ok) fun _ => .error (by decide)
  refine .ite (fun _ => .ok) fun _ => .bind (.doIf fun _ => hauto _) fun _ _ => ?_
  refine .check_bind (by decide) fun _ => .bind (.doIf fun _ => hstart _) fun _ _ => ?_
  exact .bind (.doIf fun _ => hstop _) fun _ _ => .ok

theorem handleData_avoids {cellType : UInt8} {len : ℕ} {ptr : Option (List UInt8)} :
    Avoids .cellPayloadLen (c.handleData cellType len ptr) := by
  refine .ite (fun _ => ?_) fun _ => ?_
  · cases ptr with
    | none => exact .error (by decide)
    | some bs => exact .ok
  · exact .ite (fun _ => .ok) fun _ => .ite (fun _ => .error (by decide))
      fun _ => .error (by decide)

/-- **The length check compares with the size of the cell**, not of its body. -/
theorem handleInputCell_eq_payloadLen :
    c.handleInputCell now = .error .cellPayloadLen ↔
      c.peerCellSize < c.cellReadInfo.payloadLen := by
  constructor
  · intro h
    by_contra hle
    have hdone : ∀ d : Chan, Avoids .cellPayloadLen d.handleDone :=
      fun d => .check_bind (by decide) fun _ => .ok
    have havoids : Avoids .cellPayloadLen (c.handleInputCell now) := by
      refine .check_bind_of (by omega) (.bind handleFlags_avoids fun _ _ => ?_)
      exact .bind handleData_avoids fun _ _ => .bind (.doIf fun _ => hdone _) fun _ _ => .ok
    exact havoids h
  · intro hlt
    rw [handleInputCell, check_neg (by omega)]
    rfl

/-- One cell is handled within its bounds just when the check is right about it. -/
theorem AtCell.cellBounds_iff (h : c.AtCell) :
    c.CellBounds now ↔ c.HeaderFits ∨ c.peerCellSize < c.cellReadInfo.payloadLen := by
  constructor
  · intro hbounds
    by_cases hfits : c.HeaderFits
    · exact .inl hfits
    · exact .inr (handleInputCell_eq_payloadLen.mp (hbounds.1 hfits))
  · intro hright
    refine ⟨fun hfits => ?_, fun c' hcell => ?_⟩
    · exact handleInputCell_eq_payloadLen.mpr (hright.resolve_left hfits)
    · obtain ⟨hle, -, hbuf, -, -, hdeliv⟩ := handleInputCell_recv hcell
      have hfits : c.HeaderFits := hright.resolve_right (by omega)
      rw [HeaderFits] at hfits
      refine ⟨hbuf, ?_⟩
      rw [hdeliv, cellPayload, parse_take (by omega) h.whole, ← h.info, List.drop_take,
        List.take_take, Nat.min_eq_left (by omega)]

/-- **Input cells stay within their bounds exactly where the length check is right.**  For
every stream, cut into any reads: unless it contains a header that announces more than the
body of a cell but not more than the cell.  For every single cell: unless it has such a
header.  The stream is always consumed in whole cells. -/
theorem input_cell_bounds (h : Reachable c) (hp : 0 < c.peerCellSize) :
    received c.journal = (handledCells c.journal).flatten ++ c.cellInbuf ∧
      (∀ raw ∈ handledCells c.journal, raw.length = c.peerCellSize) ∧
      c.cellInbuf.length < max cellHeaderSize c.peerCellSize ∧
      (c.CellsBounded ↔
        ∀ i, i * c.peerCellSize + max cellHeaderSize c.peerCellSize ≤
            (received c.journal).length →
          (headerAt c.peerCellSize (received c.journal) i).payloadLen + cellHeaderSize ≤
              c.peerCellSize ∨
            c.peerCellSize < (headerAt c.peerCellSize (received c.journal) i).payloadLen) ∧
      ∀ (d : Chan) (now : ℕ), d.AtCell →
        (d.CellBounds now ↔ d.HeaderFits ∨ d.peerCellSize < d.cellReadInfo.payloadLen) := by
  obtain ⟨hinv, hwait⟩ := h.inBufferInv hp
  refine ⟨hinv.stream, hinv.blocks, hwait.length_cellInbuf_lt, ?_,
    fun d now hd => hd.cellBounds_iff⟩
  constructor
  · intro hbounded i hi
    exact .inl (hbounded.1 i ((hinv.lt_handled_iff hwait i).mpr hi))
  · intro hstream
    have hfits : ∀ i < (handledCells c.journal).length,
        (headerAt c.peerCellSize (received c.journal) i).payloadLen + cellHeaderSize ≤
          c.peerCellSize := by
      intro i hi
      -- a header that the check refuses is not among the cells handled
      have hle := (hinv.headers i hi).2
      exact (hstream i ((hinv.lt_handled_iff hwait i).mp hi)).resolve_right (by omega)
    exact ⟨hfits, hinv.own hfits⟩

/-- A data cell of 750 bytes whose header announces 750 bytes of payload, and a dummy cell. -/
def overrunningCells : List UInt8 :=
  (0x00 :: htons 750 ++ List.replicate 747 65) ++ (0x20 :: htons 0 ++ List.replicate 747 66)

/-- The announced payload reaches into the dummy cell behind: its header is delivered. -/
theorem input_cell_bounds_overrun :
    ∃ c, exec step (fresh false) [.socketReadable 0 (.bytes overrunningCells)] = .ok c ∧
      (delivered c.journal).drop 747 = [0x20, 0, 0] ∧ ¬ c.CellsBounded := by
  obtain ⟨c, hrun, hc⟩ := exists_of_returns
    (x := exec step (fresh false) [.socketReadable 0 (.bytes overrunningCells)])
    (p := fun c => decide ((delivered c.journal).drop 747 = [0x20, 0, 0] ∧
      (handledCells c.journal).length = 2 ∧ c.peerCellSize = 750 ∧
      (headerAt 750 (received c.journal) 0).payloadLen = 750))
    (by decide +kernel)
  obtain ⟨hdeliv, hcells, hsize, hlen⟩ := of_decide_eq_true hc
  refine ⟨c, hrun, hdeliv, fun hbounded => ?_⟩
  have hfits := hbounded.1 0 (by omega)
  rw [hsize, hlen, cellHeaderSize] at hfits
  omega

/-- Cells of the largest payload, cut inside the header of the second. -/
theorem input_cell_bounds_full : ∃ c, Reachable c ∧ (handledCells c.journal).length = 2 ∧
    c.CellsBounded := by
  obtain ⟨c, hrun, hc⟩ := exists_of_returns
    (x := exec step (fresh false)
      [.socketReadable 0 (.bytes (0x00 :: htons 747 ++ List.replicate 747 65 ++ [0x00, 2])),
        .socketReadable 0 (.bytes (235 :: List.replicate 747 66))])
    (p := fun c => decide (c.peerCellSize = 750 ∧ (received c.journal).length = 1500 ∧
      (handledCells c.journal).length = 2 ∧
      (headerAt 750 (received c.journal) 0).payloadLen = 747 ∧
      (headerAt 750 (received c.journal) 1).payloadLen = 747))
    (by decide +kernel)
  obtain ⟨hsize, hrecv, hcells, hlen₀, hlen₁⟩ := of_decide_eq_true hc
  have hreach : Reachable c := exec_reachable (fresh_established false) hrun
  refine ⟨c, hreach, hcells, ?_⟩
  refine (input_cell_bounds hreach (by omega)).2.2.2.1.mpr fun i hi => ?_
  rw [hsize, hrecv] at hi
  rw [hsize]
  have hi' : i = 0 ∨ i = 1 := by omega
  rcases hi' with rfl | rfl
  · rw [hlen₀]
    decide
  · rw [hlen₁]
    decide

end Chan

end ShadowBrowser
