/-
The journal of a channel.

A channel's journal lists what it did (`Act`), from the first act to the last.
The properties of whole runs are stated over it, through the projections

* `given`, `written`, `received`, `delivered` — the bytes that went by;
* `writes` — what each attempt offered the socket and what came back;
* `addedCells`, `keptCells` — the cells that were added, and of these the ones
  that were not dropped again;
* `handledCells` — the cells that were taken off the input buffer.
-/
import ShadowBrowser.Cell

namespace ShadowBrowser

/-- `ChannelStatus` -/
inductive ChannelStatus
  | ready
  | closed
  | aDefenseSessionDone
  deriving DecidableEq, Repr

/-- An entry of the journal. -/
inductive Act
  /-- spdylay's send callback appended bytes to `spdy_outbuf_` -/
  | spdySent (bs : List UInt8)
  /-- a `need_…_flag_in_next_cell` was set -/
  | flagRaised (f : Flag)
  /-- a `need_…_flag_in_next_cell` was cleared without a cell that carries it -/
  | flagCancelled (f : Flag)
  /-- a cell was appended to `cell_outbuf_` -/
  | cellAdded (k : Cell)
  /-- the last cell was removed from `cell_outbuf_` -/
  | dummyDropped
  /-- bytes were offered to the socket, which took `bs` and returned `rv` -/
  | wrote (offered : ℕ) (rv : ℤ) (bs : List UInt8)
  /-- bytes were read from the socket into `cell_inbuf_` -/
  | received (bs : List UInt8)
  /-- `_handle_input_cell` began to handle these bytes -/
  | cellHandled (raw : List UInt8)
  /-- payload was appended to `spdy_inbuf_` -/
  | delivered (bs : List UInt8)
  /-- `stop_defense_session` was called -/
  | stopCalled
  /-- the state went to `PENDING_NEXT_SOCKET_SEND` -/
  | armed
  /-- the state went to `ACTIVE` -/
  | defenseBegun
  /-- the state went from `ACTIVE` to `NONE` -/
  | defenseEnded
  /-- `ch_status_cb_` was called -/
  | status (s : ChannelStatus)
  deriving DecidableEq, Repr

/-! ### What the journal tells -/

/-- The bytes that spdylay gave the channel to send. -/
def given (as : List Act) : List UInt8 :=
  as.flatMap fun | .spdySent bs => bs | _ => []

/-- The bytes that the socket took. -/
def written (as : List Act) : List UInt8 :=
  as.flatMap fun | .wrote _ _ bs => bs | _ => []

/-- The attempts to write: the number of bytes offered and the value returned. -/
def writes (as : List Act) : List (ℕ × ℤ) :=
  as.flatMap fun | .wrote offered rv _ => [(offered, rv)] | _ => []

/-- The bytes read from the socket. -/
def received (as : List Act) : List UInt8 :=
  as.flatMap fun | .received bs => bs | _ => []

/-- The payload bytes given to spdylay. -/
def delivered (as : List Act) : List UInt8 :=
  as.flatMap fun | .delivered bs => bs | _ => []

/-- The cells handled, as the bytes that each occupied. -/
def handledCells (as : List Act) : List (List UInt8) :=
  as.flatMap fun | .cellHandled raw => [raw] | _ => []

/-- All cells that were appended to the out buffer. -/
def addedCells (as : List Act) : List Cell :=
  as.flatMap fun | .cellAdded k => [k] | _ => []

/-- How often `ch_status_cb_` was called with the status. -/
def timesNotified (s : ChannelStatus) (as : List Act) : ℕ := as.count (.status s)

/-- One entry's effect on the cells that stay in the stream. -/
def keepCell (ks : List Cell) : Act → List Cell
  | .cellAdded k => ks ++ [k]
  | .dummyDropped => ks.dropLast
  | _ => ks

/-- The cells that were appended and not dropped again, in the order of the stream. -/
def keptCells (as : List Act) : List Cell := as.foldl keepCell []

/-! ### Appending to a journal -/

section

variable (as bs : List Act)

@[simp] theorem given_append : given (as ++ bs) = given as ++ given bs :=
  List.flatMap_append

@[simp] theorem written_append : written (as ++ bs) = written as ++ written bs :=
  List.flatMap_append

@[simp] theorem writes_append : writes (as ++ bs) = writes as ++ writes bs :=
  List.flatMap_append

@[simp] theorem received_append : received (as ++ bs) = received as ++ received bs :=
  List.flatMap_append

@[simp] theorem delivered_append : delivered (as ++ bs) = delivered as ++ delivered bs :=
  List.flatMap_append

@[simp] theorem handledCells_append :
    handledCells (as ++ bs) = handledCells as ++ handledCells bs :=
  List.flatMap_append

@[simp] theorem addedCells_append : addedCells (as ++ bs) = addedCells as ++ addedCells bs :=
  List.flatMap_append

@[simp] theorem keptCells_snoc (a : Act) :
    keptCells (as ++ [a]) = keepCell (keptCells as) a := by
  simp [keptCells]

end

theorem written_mono {as bs : List Act} (h : as <+: bs) : written as <+: written bs := by
  obtain ⟨cs, rfl⟩ := h
  rw [written_append]
  exact List.prefix_append _ _

/-- The acts of the sending side. -/
def Act.IsOut : Act → Prop
  | .spdySent _ | .cellAdded _ | .dummyDropped | .wrote _ _ _ => True
  | _ => False

/-- The acts of the receiving side. -/
def Act.IsIn : Act → Prop
  | .received _ | .cellHandled _ | .delivered _ => True
  | _ => False

/-- What the journal tells about the sending side. -/
def outJournal (as : List Act) :
    List UInt8 × List UInt8 × List (ℕ × ℤ) × List Cell × List Cell :=
  (given as, written as, writes as, addedCells as, keptCells as)

/-- What the journal tells about the receiving side. -/
def inJournal (as : List Act) : List UInt8 × List (List UInt8) × List UInt8 :=
  (received as, handledCells as, delivered as)

/-- Acts that are not of the sending side tell nothing about it. -/
theorem outJournal_append {as bs : List Act} (h : ∀ b ∈ bs, ¬ b.IsOut) :
    outJournal (as ++ bs) = outJournal as := by
  induction bs generalizing as with
  | nil => simp
  | cons b bs ih =>
    have hb : ¬ b.IsOut := h b (by simp)
    have hone : outJournal (as ++ [b]) = outJournal as := by
      cases b <;> simp_all [outJournal, given, written, writes, addedCells, keptCells_snoc,
        keepCell, Act.IsOut]
    have htail : outJournal (as ++ [b] ++ bs) = outJournal (as ++ [b]) :=
      ih fun x hx => h x (by simp [hx])
    rw [List.append_assoc, List.singleton_append] at htail
    rw [htail, hone]

/-- Acts that are not of the receiving side tell nothing about it. -/
theorem inJournal_append {as bs : List Act} (h : ∀ b ∈ bs, ¬ b.IsIn) :
    inJournal (as ++ bs) = inJournal as := by
  induction bs generalizing as with
  | nil => simp
  | cons b bs ih =>
    have hb : ¬ b.IsIn := h b (by simp)
    have hone : inJournal (as ++ [b]) = inJournal as := by
      cases b <;> simp_all [inJournal, received, handledCells, delivered, Act.IsIn]
    have htail : inJournal (as ++ [b] ++ bs) = inJournal (as ++ [b]) :=
      ih fun x hx => h x (by simp [hx])
    rw [List.append_assoc, List.singleton_append] at htail
    rw [htail, hone]

end ShadowBrowser
