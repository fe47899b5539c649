/-
The cells of a buflo channel.

A cell is a header of three bytes, the payload and padding.  The first byte of
the header holds the type in its upper three bits and the flags in its lower
five; the other two are the payload length in network order.

* `Cell.encode` — the bytes of a cell, as the sender appends them;
* `CellReadInfo.parse` — what the receiver reads off a header;
* **`parse_encode`**, **`body_encode`** — the receiver reads back the type, the
  flags and the payload that the sender put in.
-/
import Mathlib.Data.List.Basic
import Mathlib.Tactic.Ring

namespace ShadowBrowser

/-! ### The type-and-flags byte -/

/-- `CELL_HEADER_SIZE`: one byte of type and flags, two of payload length. -/
def cellHeaderSize : ℕ := 1 + 2

/-- `CELL_TYPE_MASK`, the upper `CELL_TYPE_WIDTH` bits of the byte. -/
def cellTypeMask : UInt8 := 0xE0

/-- `CELL_TYPE_SHIFT_AMT`, that is `CELL_FLAGS_WIDTH`. -/
def cellTypeShiftAmt : UInt8 := 5

/-- `GET_CELL_TYPE` -/
def getCellType (t : UInt8) : UInt8 := (t &&& cellTypeMask) >>> cellTypeShiftAmt

/-- `SET_CELL_TYPE` -/
def setCellType (t type : UInt8) : UInt8 :=
  (t &&& ~~~cellTypeMask) ||| (type <<< cellTypeShiftAmt)

/-- `GET_CELL_FLAGS` -/
def getCellFlags (t : UInt8) : UInt8 := t &&& ~~~cellTypeMask

/-- `SET_CELL_FLAGS` -/
def setCellFlags (t flags : UInt8) : UInt8 := (t &&& cellTypeMask) ||| flags

/-- The flags of a cell. -/
inductive Flag
  | start
  | stop
  | autoStopped
  | done
  | defensive
  deriving DecidableEq, Repr

/-- The bit positions `CELL_FLAGS_…_POSITION`. -/
def Flag.position : Flag → UInt8
  | .start => 0
  | .stop => 1
  | .autoStopped => 2
  | .done => 3
  | .defensive => 4

/-- `s_set_cell_flag`: set one bit of the current flags, keep the others. -/
def setCellFlag (t : UInt8) (f : Flag) : UInt8 :=
  setCellFlags t (getCellFlags t ||| (1 <<< f.position))

/-- `flags_bs.test(position)`, on the flags of a cell. -/
def testFlag (flags : UInt8) (f : Flag) : Bool := (flags >>> f.position) &&& 1 == 1

/-- The flags that can be waiting for the next cell, in the order they are attached. -/
def controlFlags : List Flag := [.start, .stop, .autoStopped, .done]

/-- `CellType::DATA` -/
def CellType.data : UInt8 := 0

/-- `CellType::DUMMY` -/
def CellType.dummy : UInt8 := 1

/-- `CellType::CONTROL` -/
def CellType.control : UInt8 := 2

/-- A property of all 256 bytes is checked on each of them. -/
private theorem forall_uint8 {p : UInt8 → Prop} (h : ∀ b : BitVec 8, p ⟨b⟩) (t : UInt8) :
    p t := h t.toBitVec

/-- Setting a flag leaves the type alone. -/
@[simp] theorem getCellType_setCellFlag (t : UInt8) (f : Flag) :
    getCellType (setCellFlag t f) = getCellType t := by
  revert t
  refine forall_uint8 ?_
  cases f <;> decide +kernel

/-- Setting a flag sets that flag and leaves the others alone. -/
@[simp] theorem testFlag_setCellFlag (t : UInt8) (f g : Flag) :
    testFlag (getCellFlags (setCellFlag t f)) g
      = (decide (g = f) || testFlag (getCellFlags t) g) := by
  revert t
  refine forall_uint8 ?_
  cases f <;> cases g <;> decide +kernel

/-- A type that fits is read back. -/
theorem getCellType_setCellType (t : UInt8) :
    getCellType (setCellType t CellType.data) = CellType.data ∧
      getCellType (setCellType t CellType.dummy) = CellType.dummy := by
  revert t
  refine forall_uint8 ?_
  decide +kernel

/-- Setting the type leaves the flags alone. -/
theorem getCellFlags_setCellType (t : UInt8) :
    getCellFlags (setCellType t CellType.data) = getCellFlags t ∧
      getCellFlags (setCellType t CellType.dummy) = getCellFlags t := by
  revert t
  refine forall_uint8 ?_
  decide +kernel

/-! ### Bytes of a cell -/

/-- `htons`, as the two bytes that are written. -/
def htons (n : ℕ) : List UInt8 := [UInt8.ofNat (n / 256), UInt8.ofNat n]

/-- `ntohs`, of the two bytes that were read. -/
def ntohs (hi lo : UInt8) : ℕ := hi.toNat * 256 + lo.toNat

theorem ntohs_htons {n : ℕ} (h : n < 65536) :
    ntohs (UInt8.ofNat (n / 256)) (UInt8.ofNat n) = n := by
  simp only [ntohs, UInt8.toNat_ofNat']
  omega

/-- The byte that cells are padded with (`common::static_bytes`). -/
def padByte : UInt8 := 65

/-- What the sender puts in a cell: the type-and-flags byte and the payload. -/
structure Cell where
  typeNFlags : UInt8
  payload : List UInt8
  deriving DecidableEq, Repr

/-- The bytes of a cell of `size` bytes. -/
def Cell.encode (size : ℕ) (k : Cell) : List UInt8 :=
  k.typeNFlags :: htons k.payload.length ++ k.payload
    ++ List.replicate (size - cellHeaderSize - k.payload.length) padByte

/-- The cell carries the flag. -/
def Cell.has (k : Cell) (f : Flag) : Bool := testFlag (getCellFlags k.typeNFlags) f

/-- `ReadState` -/
inductive ReadState
  | readHeader
  | readBody
  deriving DecidableEq, Repr

/-- `cell_read_info_` -/
structure CellReadInfo where
  state : ReadState := .readHeader
  cellType : UInt8 := CellType.data
  cellFlags : UInt8 := 0
  payloadLen : ℕ := 0
  deriving DecidableEq, Repr

/-- What the `READ_HEADER` state reads off the first three bytes. -/
def CellReadInfo.parse (bs : List UInt8) : CellReadInfo where
  state := .readBody
  cellType := getCellType (bs.getD 0 0)
  cellFlags := getCellFlags (bs.getD 0 0)
  payloadLen := ntohs (bs.getD 1 0) (bs.getD 2 0)

/-! ### Reading back -/

/-- The payload fits the body of a cell of `size` bytes, and its length the length field. -/
def Cell.Fits (size : ℕ) (k : Cell) : Prop :=
  k.payload.length + cellHeaderSize ≤ size ∧ k.payload.length < 65536

variable {size : ℕ} {k : Cell}

theorem length_encode (h : k.Fits size) : (k.encode size).length = size := by
  have := h.1
  simp only [cellHeaderSize] at this
  simp [Cell.encode, htons, cellHeaderSize]
  omega

theorem header_encode (rest : List UInt8) :
    k.encode size ++ rest = k.typeNFlags :: UInt8.ofNat (k.payload.length / 256) ::
      UInt8.ofNat k.payload.length :: (k.payload ++
        (List.replicate (size - cellHeaderSize - k.payload.length) padByte ++ rest)) := by
  simp [Cell.encode, htons]

/-- **The receiver reads off the header what the sender put in it.** -/
theorem parse_encode (h : k.Fits size) (rest : List UInt8) :
    CellReadInfo.parse (k.encode size ++ rest) =
      { state := .readBody
        cellType := getCellType k.typeNFlags
        cellFlags := getCellFlags k.typeNFlags
        payloadLen := k.payload.length } := by
  rw [header_encode]
  simp [CellReadInfo.parse, ntohs_htons h.2]

/-- **The payload stands behind the header.** -/
theorem body_encode (rest : List UInt8) :
    ((k.encode size ++ rest).drop cellHeaderSize).take k.payload.length = k.payload := by
  rw [header_encode]
  simp [cellHeaderSize]

end ShadowBrowser
