/-
The out buffer and its bookkeeping.

`cell_outbuf_` is one byte buffer, edited at both ends: the socket takes bytes at
the front, cells are appended and whole dummy cells dropped at the back.  Beside it
the channel keeps the data length of every cell in it, how much of the front cell
has been sent, and whether the last cell is a whole dummy cell.

`OutBufferInv` ties these to the cells that were added and not dropped again
(`keptCells`): the bytes written and the bytes in the buffer are together exactly
the encodings of these cells.

* **`OutBufferInv.micro`** — every small step preserves it;
* **`Reachable.outBufferInv`** — it holds in every reachable state;
* `out_buffer_bookkeeping` — what it says about the buffer and the counters.
-/
import ShadowBrowser.Blocks
import ShadowBrowser.ControlSteps

namespace ShadowBrowser

open Checked Runs Blocks

/-! ### Cells of the stream -/

/-- A data cell with payload, or a dummy cell without. -/
def Cell.Shaped (k : Cell) : Prop :=
  (getCellType k.typeNFlags = CellType.data ∧ k.payload ≠ []) ∨
    (getCellType k.typeNFlags = CellType.dummy ∧ k.payload = [])

/-- A dummy cell that carries none of START, STOP, AUTO_STOPPED, DONE. -/
def Cell.IsPlainDummy (k : Cell) : Prop :=
  getCellType k.typeNFlags = CellType.dummy ∧ k.payload = [] ∧
    ∀ f ∈ controlFlags, k.has f = false

/-- Attaching flags adds these flags. -/
theorem testFlag_foldl_setCellFlag (fs : List Flag) (g : Flag) :
    ∀ t : UInt8, testFlag (getCellFlags (fs.foldl setCellFlag t)) g
      = (decide (g ∈ fs) || testFlag (getCellFlags t) g) := by
  induction fs with
  | nil => simp
  | cons f fs ih =>
    intro t
    rw [List.foldl_cons, ih, testFlag_setCellFlag]
    by_cases hgf : g = f
    · simp [hgf]
    · simp [hgf]

/-- Attaching flags leaves the type alone. -/
theorem getCellType_foldl_setCellFlag (fs : List Flag) :
    ∀ t : UInt8, getCellType (fs.foldl setCellFlag t) = getCellType t := by
  induction fs with
  | nil => simp
  | cons f fs ih =>
    intro t
    rw [List.foldl_cons, ih, getCellType_setCellFlag]

namespace Chan

variable {c c' : Chan}

/-- The next cell carries the waiting flags, and DEFENSIVE if a session is on. -/
theorem testFlag_flaggedByte (c : Chan) (g : Flag) {t : UInt8} (ht : getCellFlags t = 0) :
    testFlag (getCellFlags (c.flaggedByte t)) g =
      (decide (g ∈ c.nextFlags) || decide (g ∈ c.defensiveFlag)) := by
  rw [flaggedByte, testFlag_foldl_setCellFlag, ht]
  have hzero : testFlag 0 g = false := by cases g <;> rfl
  simp [hzero]

theorem mem_nextFlags {f : Flag} : f ∈ c.nextFlags ↔ c.defenseInfo.needs f = true := by
  rw [nextFlags, List.mem_filter]
  refine ⟨fun h => h.2, fun h => ⟨?_, h⟩⟩
  cases f with
  | defensive => simp [DefenseInfo.needs] at h
  | _ => simp [controlFlags]

theorem mem_defensiveFlag {f : Flag} : f ∈ c.defensiveFlag ↔ f = .defensive ∧
    (c.defenseInfo.state = .active ∨ c.defenseInfo.state = .pendingNextSocketSend) := by
  rw [defensiveFlag]
  split
  · next h => simp [h]
  · next h => simp [h]

theorem dataCell_has (f : Flag) (hf : f ≠ .defensive) :
    c.dataCell.has f = c.defenseInfo.needs f := by
  rw [Cell.has, dataCell, testFlag_flaggedByte c f (getCellFlags_setCellType 0).1]
  simp [mem_nextFlags, mem_defensiveFlag, hf]

theorem dummyCell_has (f : Flag) (hf : f ≠ .defensive) :
    c.dummyCell.has f = c.defenseInfo.needs f := by
  rw [Cell.has, dummyCell, testFlag_flaggedByte c f (getCellFlags_setCellType 0).2]
  simp [mem_nextFlags, mem_defensiveFlag, hf]

theorem length_dataCell_payload : c.dataCell.payload.length = c.payloadLen := by
  rw [dataCell, List.length_take, payloadLen]
  omega

theorem dataCell_shaped (h : 0 < c.payloadLen) : c.dataCell.Shaped := by
  refine .inl ⟨?_, ?_⟩
  · rw [dataCell, flaggedByte, getCellType_foldl_setCellFlag, (getCellType_setCellType 0).1]
  · intro hnil
    have := length_dataCell_payload (c := c)
    rw [hnil] at this
    simp at this
    omega

theorem dataCell_fits (hs : cellHeaderSize < c.cellSize ∧ c.cellSize < 65536) :
    c.dataCell.Fits c.cellSize := by
  have hle : c.payloadLen ≤ c.cellSize - cellHeaderSize := min_le_left _ _
  rw [Cell.Fits, length_dataCell_payload]
  omega

theorem dummyCell_type : getCellType c.dummyCell.typeNFlags = CellType.dummy := by
  rw [dummyCell, flaggedByte, getCellType_foldl_setCellFlag, (getCellType_setCellType 0).2]

theorem dummyCell_fits (hs : cellHeaderSize < c.cellSize) : c.dummyCell.Fits c.cellSize := by
  rw [Cell.Fits, dummyCell]
  simp
  omega

/-! ### The invariant -/

/-- The bytes, the records and the counters of the sending side agree with the cells that
were added and not dropped. -/
structure OutBufferInv (c : Chan) : Prop where
  size : cellHeaderSize < c.cellSize ∧ c.cellSize < 65536
  fits : ∀ k ∈ keptCells c.journal, k.Fits c.cellSize
  shaped : ∀ k ∈ keptCells c.journal, k.Shaped
  bytes : written c.journal ++ c.cellOutbuf =
    (keptCells c.journal).flatMap (Cell.encode c.cellSize)
  user : given c.journal = (keptCells c.journal).flatMap Cell.payload ++ c.spdyOutbuf
  records : c.outputCellsDataBytesInfo =
    ((keptCells c.journal).map (·.payload.length)).drop
      ((written c.journal).length / c.cellSize)
  progress : c.frontCellSentProgress = (written c.journal).length % c.cellSize
  dummy : c.wholeDummyCellAtEndOutbuf = true → c.cellSize ≤ c.cellOutbuf.length ∧
    ∃ ks k, keptCells c.journal = ks ++ [k] ∧ k.IsPlainDummy
  sent : c.allSendByteCount = (written c.journal).length
  useful : c.allUsersDataSendByteCount =
    (((keptCells c.journal).map (·.payload.length)).take
      ((written c.journal).length / c.cellSize)).sum
  dummies : c.dummySendCellCount =
    (((keptCells c.journal).map (·.payload.length)).take
      ((written c.journal).length / c.cellSize)).count 0

namespace OutBufferInv

/-- The bytes written and queued are a whole number of cells. -/
theorem length_bytes (h : OutBufferInv c) :
    (written c.journal).length + c.cellOutbuf.length =
      c.cellSize * (keptCells c.journal).length := by
  rw [← List.length_append, h.bytes,
    length_flatMap_blocks fun k hk => length_encode (h.fits k hk)]

theorem cellSize_pos (h : OutBufferInv c) : 0 < c.cellSize := by
  have := h.size.1
  omega

/-- Where whole cells are queued, nothing of the front one has been sent. -/
theorem front_of_whole (h : OutBufferInv c) (hwhole : c.cellSize ∣ c.cellOutbuf.length) :
    c.frontCellSentProgress = 0 := by
  have hbytes : c.cellSize ∣ (written c.journal).length + c.cellOutbuf.length :=
    ⟨_, h.length_bytes⟩
  rw [h.progress, Nat.mod_eq_zero_of_dvd ((Nat.dvd_add_iff_left hwhole).mpr hbytes)]

/-- The cells completely written are among the kept ones. -/
theorem cellsWritten_le (h : OutBufferInv c) :
    (written c.journal).length / c.cellSize ≤ (keptCells c.journal).length := by
  refine Nat.div_le_of_le_mul ?_
  have := h.length_bytes
  omega

/-- If a whole cell is queued, then even the cells before the last hold all that was written. -/
theorem cellsWritten_lt (h : OutBufferInv c) {ks : List Cell} {k : Cell}
    (hk : keptCells c.journal = ks ++ [k]) (hlen : c.cellSize ≤ c.cellOutbuf.length) :
    (written c.journal).length / c.cellSize ≤ ks.length := by
  refine Nat.div_le_of_le_mul ?_
  have hbytes := h.length_bytes
  rw [hk, List.length_append, List.length_singleton, Nat.mul_succ] at hbytes
  omega

/-- The invariant is about the sending side only, and not about failed attempts to write. -/
theorem of_sendPart (h : OutBufferInv c) (e : c'.sendPart.1 = c.sendPart.1)
    (hc : c'.sendPart.2.1 = c.sendPart.2.1) (hg : given c'.journal = given c.journal)
    (hw : written c'.journal = written c.journal)
    (hk : keptCells c'.journal = keptCells c.journal) : OutBufferInv c' := by
  simp only [sendPart, Prod.mk.injEq] at e hc
  obtain ⟨e₁, e₂, e₃, e₄⟩ := e
  obtain ⟨e₅, e₆, e₇, e₈, e₉⟩ := hc
  constructor <;> simp only [e₁, e₂, e₃, e₄, e₅, e₆, e₇, e₈, e₉, hg, hw, hk]
  · exact h.size
  · exact h.fits
  · exact h.shaped
  · exact h.bytes
  · exact h.user
  · exact h.records
  · exact h.progress
  · exact h.dummy
  · exact h.sent
  · exact h.useful
  · exact h.dummies

theorem of_sendPart_eq (h : OutBufferInv c) (e : c'.sendPart = c.sendPart) :
    OutBufferInv c' := by
  have hj := congrArg (·.2.2) e
  simp only [sendPart, outJournal, Prod.mk.injEq] at hj
  obtain ⟨hg, hw, -, -, hk⟩ := hj
  exact h.of_sendPart (congrArg (·.1) e) (congrArg (·.2.1) e) hg hw hk

theorem spdySent (h : OutBufferInv c) (bs : List UInt8) : OutBufferInv (c.onSpdylaySendCb bs) := by
  have hj : outJournal (c.onSpdylaySendCb bs).journal =
      (given c.journal ++ bs, (outJournal c.journal).2) := by
    simp [onSpdylaySendCb, outJournal, given, written, writes, addedCells, keptCells, keepCell]
  simp only [outJournal, Prod.mk.injEq] at hj
  obtain ⟨hg, hw, -, -, hk⟩ := hj
  constructor <;> try simp only [hg, hw, hk]
  · exact h.size
  · exact h.fits
  · exact h.shaped
  · exact h.bytes
  · rw [h.user, List.append_assoc]
    rfl
  · exact h.records
  · exact h.progress
  · exact h.dummy
  · exact h.sent
  · exact h.useful
  · exact h.dummies

/-- A whole dummy cell is dropped: the last kept cell goes, and no byte of it was written. -/
theorem dropped (h : OutBufferInv c) (hd : c.HasDummy) (n : ℕ) : OutBufferInv (c.dropped n) := by
  obtain ⟨hlen, ks, k, hks, hplain⟩ := h.dummy hd.marked
  have hg : given (c.dropped n).journal = given c.journal := by simp [Chan.dropped, given]
  have hw : written (c.dropped n).journal = written c.journal := by simp [Chan.dropped, written]
  have hk : keptCells (c.dropped n).journal = ks := by
    simp [Chan.dropped, keepCell, hks]
  have hq := h.cellsWritten_lt hks hlen
  have hmem : ∀ x ∈ ks, x ∈ keptCells c.journal := fun x hx => by simp [hks, hx]
  have henc : (k.encode c.cellSize).length = c.cellSize :=
    length_encode (h.fits k (by simp [hks]))
  have hbytes := h.bytes
  rw [hks, List.flatMap_append, List.flatMap_singleton] at hbytes
  constructor <;> try simp only [hg, hw, hk]
  · exact h.size
  · exact fun x hx => h.fits x (hmem x hx)
  · exact fun x hx => h.shaped x (hmem x hx)
  · -- cut the last cell off both sides
    have htake := congrArg (List.take ((written c.journal ++ c.cellOutbuf).length - c.cellSize))
      hbytes
    have hleft : (written c.journal ++ c.cellOutbuf).length - c.cellSize =
        (written c.journal).length + (c.cellOutbuf.length - c.cellSize) := by
      rw [List.length_append]
      omega
    have hright : (written c.journal ++ c.cellOutbuf).length - c.cellSize =
        (ks.flatMap (Cell.encode c.cellSize)).length := by
      rw [hbytes, List.length_append, henc]
      omega
    rw [hright, List.take_left, ← hright, hleft, List.take_length_add_append] at htake
    exact htake
  · have huser := h.user
    rw [hks, List.flatMap_append, List.flatMap_singleton, hplain.2.1, List.append_nil] at huser
    -- no dummy cell carries a byte of the user's
    exact huser
  · have hrec := h.records
    rw [hks, List.map_append, List.drop_append_of_le_length (by simpa using hq)] at hrec
    simp [Chan.dropped, hrec]
  · exact h.progress
  · intro hfalse
    exact absurd hfalse (by simp [Chan.dropped])
  · exact h.sent
  · have huse := h.useful
    rw [hks, List.map_append, List.take_append_of_le_length (by simpa using hq)] at huse
    exact huse
  · have hdum := h.dummies
    rw [hks, List.map_append, List.take_append_of_le_length (by simpa using hq)] at hdum
    exact hdum

/-- A cell is appended whose payload was taken from the front of `spdy_outbuf_`. -/
theorem appended (h : OutBufferInv c) {k : Cell}
    (hj : c'.journal = c.journal ++ [.cellAdded k]) (hsize : c'.cellSize = c.cellSize)
    (hfits : k.Fits c.cellSize) (hshaped : k.Shaped)
    (hout : c'.cellOutbuf = c.cellOutbuf ++ k.encode c.cellSize)
    (huser : c.spdyOutbuf = k.payload ++ c'.spdyOutbuf)
    (hrec : c'.outputCellsDataBytesInfo = c.outputCellsDataBytesInfo ++ [k.payload.length])
    (hdummy : c'.wholeDummyCellAtEndOutbuf = true → k.IsPlainDummy)
    (hcount : (c'.frontCellSentProgress, c'.allSendByteCount, c'.allUsersDataSendByteCount,
      c'.dummySendCellCount) = (c.frontCellSentProgress, c.allSendByteCount,
      c.allUsersDataSendByteCount, c.dummySendCellCount)) : OutBufferInv c' := by
  have hg : given c'.journal = given c.journal := by simp [hj, given]
  have hw : written c'.journal = written c.journal := by simp [hj, written]
  have hk : keptCells c'.journal = keptCells c.journal ++ [k] := by simp [hj, keepCell]
  have hq := h.cellsWritten_le
  simp only [Prod.mk.injEq] at hcount
  obtain ⟨hc₁, hc₂, hc₃, hc₄⟩ := hcount
  -- the cell comes behind all those kept, and none of its bytes has been written
  constructor <;> simp only [hg, hw, hk, hsize, hout, hrec, hc₁, hc₂, hc₃, hc₄]
  · exact h.size
  · intro x hx
    rcases List.mem_append.mp hx with hx | hx
    · exact h.fits x hx
    · rw [List.mem_singleton.mp hx]
      exact hfits
  · intro x hx
    rcases List.mem_append.mp hx with hx | hx
    · exact h.shaped x hx
    · rw [List.mem_singleton.mp hx]
      exact hshaped
  · rw [← List.append_assoc, h.bytes, List.flatMap_append, List.flatMap_singleton]
  · rw [h.user, huser, List.flatMap_append, List.flatMap_singleton, List.append_assoc]
  · rw [h.records, List.map_append, List.map_singleton,
      List.drop_append_of_le_length (by simpa using hq)]
  · exact h.progress
  · intro hwhole
    refine ⟨?_, keptCells c.journal, k, rfl, hdummy hwhole⟩
    rw [List.length_append, length_encode hfits]
    omega
  · exact h.sent
  · rw [h.useful, List.map_append, List.take_append_of_le_length (by simpa using hq)]
  · rw [h.dummies, List.map_append, List.take_append_of_le_length (by simpa using hq)]

theorem addedData (h : OutBufferInv c) (hadd : c.MayAddData) : OutBufferInv c.addedData := by
  refine h.appended (k := c.dataCell) rfl rfl (dataCell_fits h.size)
    (dataCell_shaped hadd.payload) rfl ?_ ?_ ?_ rfl
  · exact (List.take_append_drop c.payloadLen c.spdyOutbuf).symm
  · rw [length_dataCell_payload]
    rfl
  · intro hwhole
    rw [Chan.addedData] at hwhole
    rw [hadd.noDummy] at hwhole
    exact absurd hwhole (by decide)

theorem addedDummy (h : OutBufferInv c) : OutBufferInv c.addedDummy := by
  refine h.appended (k := c.dummyCell) rfl rfl (dummyCell_fits h.size.1) ?_ rfl rfl rfl ?_ rfl
  · exact .inr ⟨dummyCell_type, rfl⟩
  · intro hwhole
    have hnone : c.nextFlags = [] := by simpa [Chan.addedDummy] using hwhole
    refine ⟨dummyCell_type, rfl, fun f hf => ?_⟩
    have hne : f ≠ .defensive := by
      rintro rfl
      exact absurd hf (by decide)
    have hmem : f ∉ c.nextFlags := by simp [hnone]
    rw [dummyCell_has f hne]
    simpa [mem_nextFlags] using hmem

/-- Bytes are taken at the front: the cells that they complete are accounted for. -/
theorem took (h : OutBufferInv c) (offered : ℕ) {n : ℕ} (hle : n ≤ c.cellOutbuf.length) :
    OutBufferInv (c.took offered n) := by
  have hC := h.cellSize_pos
  have hg : given (c.took offered n).journal = given c.journal := by
    simp [Chan.took, accounted, given]
  have hw : written (c.took offered n).journal = written c.journal ++ c.cellOutbuf.take n := by
    simp [Chan.took, accounted, written]
  have hk : keptCells (c.took offered n).journal = keptCells c.journal := by
    simp [Chan.took, accounted, keepCell]
  have hlen : (written c.journal ++ c.cellOutbuf.take n).length =
      (written c.journal).length + n := by
    rw [List.length_append, List.length_take, Nat.min_eq_left hle]
  -- the bytes that were in the front cell count towards the cells that are now written
  have hdiv : ((written c.journal).length + n) / c.cellSize =
      (written c.journal).length / c.cellSize
        + ((written c.journal).length % c.cellSize + n) / c.cellSize := by
    conv_lhs => rw [← Nat.div_add_mod (written c.journal).length c.cellSize]
    rw [Nat.add_assoc, Nat.mul_add_div hC]
  have hfront := h.progress
  constructor <;> try simp only [hg, hw, hk, hlen]
  · exact h.size
  · exact h.fits
  · exact h.shaped
  · rw [List.append_assoc]
    have hout : c.cellOutbuf.take n ++ c.cellOutbuf.drop n = c.cellOutbuf :=
      List.take_append_drop n c.cellOutbuf
    have := h.bytes
    rw [← hout] at this
    exact this
  · exact h.user
  · have hrec := h.records
    simp only [Chan.took, accounted, hdiv, hfront, hrec, List.drop_drop]
  · simp only [Chan.took, accounted, hfront, Nat.mod_add_mod]
  · -- a mark survives only while what was written ends before the dummy cell
    intro hwhole
    simp only [Chan.took, accounted] at hwhole ⊢
    split at hwhole
    · exact absurd hwhole (by decide)
    · next hlt => exact ⟨by omega, (h.dummy hwhole).2⟩
  · have hsent := h.sent
    simp only [Chan.took, accounted, hsent]
  · have huse := h.useful
    simp only [Chan.took, accounted, hdiv, hfront, huse, h.records, List.take_add,
      List.sum_append]
  · have hdum := h.dummies
    simp only [Chan.took, accounted, hdiv, hfront, hdum, h.records, List.take_add,
      List.count_append]

/-- **Every step of the sending side preserves the invariant.** -/
theorem out (h : OutBufferInv c) (hout : Out c c') : OutBufferInv c' := by
  cases hout with
  | spdySent bs => exact h.spdySent bs
  | dropped n hd => exact h.dropped hd n
  | addedData hadd => exact h.addedData hadd
  | addedDummy => exact h.addedDummy
  | took offered n _ hle => exact h.took offered hle
  | refused =>
    exact h.of_sendPart rfl rfl (by simp [log, given]) (by simp [log, written])
      (by simp [log, keepCell])
  | attempted => exact h.of_sendPart_eq rfl
  | toggled => exact h.of_sendPart_eq rfl
  | avoided => exact h.of_sendPart_eq rfl
  | closed =>
    exact h.of_sendPart rfl rfl (by simp [onSocketClosed, chStatusCb, log, given])
      (by simp [onSocketClosed, chStatusCb, log, written])
      (by simp [onSocketClosed, chStatusCb, log, keepCell])

/-- **Every small step preserves the invariant.** -/
theorem micro (h : OutBufferInv c) (hm : Micro c c') : OutBufferInv c' := by
  rcases hm with hm | hm | hm
  · exact h.out hm
  · exact h.of_sendPart_eq hm.sendPart_eq
  · exact h.of_sendPart_eq hm.sendPart_eq

theorem micros (h : OutBufferInv c) (hm : Micros c c') : OutBufferInv c' :=
  Closed.star (P := OutBufferInv) (fun _ _ => micro) _ _ h hm

end OutBufferInv

theorem Established.outBufferInv (h : Established c) : OutBufferInv c := by
  have hsize := h.config.1
  obtain ⟨hwhole, hfront, hinfo, -⟩ := h.cells
  obtain ⟨hsent, huse, hdum⟩ := h.counters
  obtain ⟨-, hspdy, -, hout⟩ := h.buffers
  have hj := h.unused
  constructor <;> simp [hj, hsize, hwhole, hfront, hinfo, hsent, huse, hdum, hspdy, hout,
    cellHeaderSize, given, written, keptCells, keepCell]

/-- **The invariant holds in every reachable state.** -/
theorem Reachable.outBufferInv (h : Reachable c) : OutBufferInv c :=
  h.of_closed (fun _ => Established.outBufferInv) fun _ _ => OutBufferInv.micro

/-! ### What the invariant says -/

/-- The number of cells that have been written completely. -/
def cellsWritten (c : Chan) : ℕ := (written c.journal).length / c.cellSize

/-- The last `cell_size_` bytes of the out buffer, if it ends with a dummy cell, are that
cell. -/
theorem OutBufferInv.suffix (h : OutBufferInv c) (hd : c.wholeDummyCellAtEndOutbuf = true) :
    ∃ k, keptCells c.journal ≠ [] ∧ (keptCells c.journal).getLast? = some k ∧
      k.IsPlainDummy ∧
      c.cellOutbuf.drop (c.cellOutbuf.length - c.cellSize) = k.encode c.cellSize := by
  obtain ⟨hlen, ks, k, hks, hplain⟩ := h.dummy hd
  refine ⟨k, by simp [hks], by simp [hks], hplain, ?_⟩
  have henc : (k.encode c.cellSize).length = c.cellSize :=
    length_encode (h.fits k (by simp [hks]))
  have hbytes := h.bytes
  rw [hks, List.flatMap_append, List.flatMap_singleton] at hbytes
  have hdrop := congrArg (List.drop ((written c.journal).length +
    (c.cellOutbuf.length - c.cellSize))) hbytes
  have hright : (written c.journal).length + (c.cellOutbuf.length - c.cellSize) =
      (ks.flatMap (Cell.encode c.cellSize)).length := by
    have := congrArg List.length hbytes
    rw [List.length_append, List.length_append, henc] at this
    omega
  rw [← List.drop_drop, List.drop_left, hright, List.drop_left] at hdrop
  exact hdrop

/-- **The out buffer, its records, its marker and the reported totals agree in every
reachable state.** -/
theorem out_buffer_bookkeeping (h : Reachable c) :
    c.cellOutbuf.length + c.frontCellSentProgress =
        c.cellSize * c.outputCellsDataBytesInfo.length ∧
      c.frontCellSentProgress < c.cellSize ∧
      (c.wholeDummyCellAtEndOutbuf = true →
        c.cellSize ≤ c.cellOutbuf.length ∧ c.outputCellsDataBytesInfo.getLast? = some 0 ∧
        ∃ k : Cell, c.cellOutbuf.drop (c.cellOutbuf.length - c.cellSize) = k.encode c.cellSize ∧
          getCellType k.typeNFlags = CellType.dummy ∧ k.payload = [] ∧
          k.has .start = false ∧ k.has .stop = false ∧ k.has .autoStopped = false ∧
          k.has .done = false) ∧
      c.allSendByteCount = (written c.journal).length ∧
      c.allSendByteCount = c.cellSize * c.cellsWritten + c.frontCellSentProgress ∧
      c.allUsersDataSendByteCount = (((keptCells c.journal).take c.cellsWritten).map
        (·.payload.length)).sum ∧
      c.dummySendCellCount = ((keptCells c.journal).take c.cellsWritten).countP
        (·.payload.length == 0) ∧
      written c.journal <+: (keptCells c.journal).flatMap (Cell.encode c.cellSize) := by
  have hinv := h.outBufferInv
  have hC := hinv.cellSize_pos
  have hlen := hinv.length_bytes
  have hle := hinv.cellsWritten_le
  have hsplit := Nat.div_add_mod (written c.journal).length c.cellSize
  refine ⟨?_, ?_, ?_, hinv.sent, ?_, ?_, ?_, ?_⟩
  · rw [hinv.records, List.length_drop, List.length_map, hinv.progress, Nat.mul_sub]
    have := Nat.mul_le_mul_left c.cellSize hle
    omega
  · rw [hinv.progress]
    exact Nat.mod_lt _ hC
  · intro hd
    obtain ⟨hout, ks, k', hks, -⟩ := hinv.dummy hd
    obtain ⟨k, -, hlast, hplain, hbytes⟩ := hinv.suffix hd
    refine ⟨hout, ?_, k, hbytes, hplain.1, hplain.2.1, hplain.2.2 _ (by decide),
      hplain.2.2 _ (by decide), hplain.2.2 _ (by decide), hplain.2.2 _ (by decide)⟩
    -- the last cell has not been written, so its record is still the last
    have hkk : k' = k := by simpa [hks] using hlast
    have hq := hinv.cellsWritten_lt hks hout
    rw [hinv.records, List.getLast?_drop, List.length_map, if_neg, List.getLast?_map, hlast]
    · simp [hplain.2.1]
    · rw [hks, List.length_append, List.length_singleton]
      omega
  · rw [hinv.sent, hinv.progress, cellsWritten, hsplit]
  · rw [hinv.useful, cellsWritten, List.map_take]
  · rw [hinv.dummies, cellsWritten, ← List.map_take, List.count, List.countP_map]
    rfl
  · exact ⟨c.cellOutbuf, hinv.bytes⟩

/-- In a session, with nothing left to send but a whole dummy cell behind a cell of which
20 bytes are unsent. -/
theorem out_buffer_bookkeeping_dummy : ∃ c, Reachable c ∧ c.cellOutbuf.length = 770 ∧
    c.cellOutbuf.length + c.frontCellSentProgress =
      c.cellSize * c.outputCellsDataBytesInfo.length ∧
    c.outputCellsDataBytesInfo.getLast? = some 0 := by
  obtain ⟨c, hrun, hc⟩ := exists_of_returns
    (x := exec step (fresh true) [.setAutoStartDefenseSessionOnNextSend,
      .pumpSpdySend [List.replicate 700 66], .socketWritable 0 (.accepts 700),
      .bufloTimerFired 20000 [] (.accepts 30)])
    (p := fun c => decide (c.wholeDummyCellAtEndOutbuf = true ∧ c.cellOutbuf.length = 770))
    (by decide +kernel)
  obtain ⟨hdummy, hlen⟩ := of_decide_eq_true hc
  have hreach : Reachable c := exec_reachable (fresh_established true) hrun
  obtain ⟨hbytes, -, hwhole, -⟩ := out_buffer_bookkeeping hreach
  exact ⟨c, hreach, hlen, hbytes, (hwhole hdummy).2.1⟩

end Chan

end ShadowBrowser
