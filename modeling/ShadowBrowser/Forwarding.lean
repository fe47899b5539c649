/-
`InnerOuterHandler`, between an inner stream and an outer channel, and its owner.

Bytes of the inner stream are written to the outer channel, and bytes of the outer channel to
the inner stream.  When the handler is done it tells its owner, which closes the outer channel
and, if it is still there, the stream.

* `Forwarder`, `step` — the handler, its owner, the stream and the outer channel, in any order
  of events; the stream is closed when its end has passed both ways;
* `Live`, `Torn` — the owner forwards, or has closed; `Live.step` is what each event does;
* **`forwards_all`** — what the inner stream brings is accepted by the outer socket, unless the
  stream is closed while some of it waits;
* **`done_when_flushed`** — the handler is done once the end of the inner stream has come and
  all is written, unless the end comes when nothing waits.
-/
import ShadowBrowser.StreamSend
import ShadowBrowser.TcpChannel

namespace ShadowBrowser.Forwarding

open Checked Runs Streams

/-- The assertions of the handler, its owner and the mux channel. -/
inductive ForwardCheck
  | streamGone
  | innerRecvEof
  | halfClosed
  | outputLeft
  | ownerState
  | stream (e : StreamCheck)
  deriving DecidableEq, Repr

/-- The handler, its owner, the outer channel and the inner stream.

* `bufloChannel` — the owner still has its mux channel; `ownerClosed` — its state is `CLOSED`, else it is
  `FORWARDING`; `outerOpen` — it still has the outer channel;
* `observed` — the handler is the observer of the stream; `streamOpen` — the stream is not closed;
* `done` — the calls of `handler_done_cb_`;
* `received`, `accepted` — the bytes that the handler has had from the stream, and those that the outer
  socket has taken. -/
structure Forwarder where
  outer : TcpChannel := {}
  outerOpen : Bool := true
  stream : Stream := { source := { submitted := true } }
  outwardBuf : List UInt8 := []
  innerRecvEof : Bool := false
  streamOpen : Bool := true
  observed : Bool := true
  bufloChannel : Bool := true
  ownerClosed : Bool := false
  innerStreamHalfClosed : Bool := false
  done : List Bool := []
  received : List UInt8 := []
  accepted : List UInt8 := []
  deriving DecidableEq, Repr

/-- What can happen: `innerReads` is a call of the read callback of the stream, and `streamReset` stands
for a stream that is reset, or closed with its session. -/
inductive ForwardEvent
  | innerData (bs : List UInt8)
  | innerEof
  | innerReads (length : ℕ)
  | streamReset
  | outerData (bs : List UInt8)
  | outerEof
  | outerWrites (n : ℕ)
  | outerError
  deriving DecidableEq, Repr

namespace Forwarder

/-! ### The owner -/

/-- `_close` -/
def close (s : Forwarder) : Forwarder :=
  if s.ownerClosed then s
  else
    let s := { s with ownerClosed := true, outer := {}, outerOpen := false }
    -- the stream is reset without an observer
    if s.bufloChannel then { s with observed := false, bufloChannel := false } else s

/-- `_on_inner_outer_handler_done` -/
def onInnerOuterHandlerDone (innerStreamAlreadyClosed : Bool) (s : Forwarder) :
    Except ForwardCheck Forwarder := do
  check (s.ownerClosed = false) .ownerState
  if innerStreamAlreadyClosed then return close { s with bufloChannel := false }
  else return s.close

/-! ### The handler -/

/-- `_be_done` -/
def beDone (innerStreamAlreadyClosed : Bool) (s : Forwarder) : Except ForwardCheck Forwarder :=
  let s := if innerStreamAlreadyClosed then { s with observed := false } else s
  onInnerOuterHandlerDone innerStreamAlreadyClosed
    { s with done := s.done ++ [innerStreamAlreadyClosed] }

/-- `onStreamNewDataAvailable` -/
def onStreamNewDataAvailable (s : Forwarder) : Forwarder :=
  { s with
    outer := s.outer.write s.outwardBuf
    outwardBuf := []
    received := s.received ++ s.outwardBuf }

/-- `onStreamRecvEOF` -/
def onStreamRecvEOF (s : Forwarder) : Except ForwardCheck Forwarder := do
  check (s.innerStreamHalfClosed = false) .halfClosed
  return { s with innerStreamHalfClosed := true }

/-- `onStreamClosed` -/
def onStreamClosed (s : Forwarder) : Except ForwardCheck Forwarder := s.beDone true

/-- `onNewReadDataAvailable`, when these bytes are in the input of the outer channel. -/
def onNewReadDataAvailable (bs : List UInt8) (s : Forwarder) : Except ForwardCheck Forwarder := do
  check (s.streamOpen = true) .streamGone
  let st ← (s.stream.writeBuffer bs).mapError .stream
  return { s with stream := st }

/-- `onWrittenData` -/
def onWrittenData (s : Forwarder) : Except ForwardCheck Forwarder := do
  check (s.outer.outputEvb = []) .outputLeft
  if s.innerStreamHalfClosed then s.beDone false else return s

/-- `onEOF`: with `IN_SHADOW` the end is passed on to the stream, if there still is one. -/
def onEOF (inShadow : Bool) (s : Forwarder) : Except ForwardCheck Forwarder :=
  if inShadow then
    if s.streamOpen then do
      let st ← s.stream.setWriteEof.mapError .stream
      return { s with stream := st }
    else .ok s
  else s.beDone false

/-- `onError` -/
def onError (s : Forwarder) : Except ForwardCheck Forwarder := s.beDone false

/-! ### The mux channel -/

/-- `_on_spdylay_on_data_chunk_recv_cb` -/
def onDataChunkRecv (bs : List UInt8) (s : Forwarder) : Forwarder :=
  let s := { s with outwardBuf := s.outwardBuf ++ bs }
  if s.observed then s.onStreamNewDataAvailable else s

/-- `_on_spdylay_on_data_recv_cb`, with the `FIN` flag -/
def onDataRecvFin (s : Forwarder) : Except ForwardCheck Forwarder := do
  check (s.innerRecvEof = false) .innerRecvEof
  let s := { s with innerRecvEof := true }
  if s.observed then s.onStreamRecvEOF else return s

/-- `_on_spdylay_on_stream_close_cb` -/
def onStreamClose (s : Forwarder) : Except ForwardCheck Forwarder :=
  let s := { s with streamOpen := false }
  if s.observed then s.onStreamClosed else .ok s

/-- spdylay closes a stream whose end has passed both ways. -/
def closeIfShut (s : Forwarder) : Except ForwardCheck Forwarder :=
  if s.streamOpen ∧ s.innerRecvEof ∧ s.stream.source.ended then s.onStreamClose else .ok s

/-! ### All of it -/

/-- What can happen in a state. -/
def Enabled (s : Forwarder) : ForwardEvent → Prop
  | .innerData bs => s.streamOpen = true ∧ s.innerRecvEof = false ∧ bs ≠ []
  | .innerEof => s.streamOpen = true ∧ s.innerRecvEof = false
  | .innerReads length => s.streamOpen = true ∧ 0 < length ∧ s.stream.Reading
  | .streamReset => s.streamOpen = true
  | .outerData bs => s.outerOpen = true ∧ s.stream.eofCalled = false ∧ bs ≠ []
  | .outerEof => s.outerOpen = true ∧ s.stream.eofCalled = false
  | .outerWrites n => s.outerOpen = true ∧ 0 < n ∧ n ≤ s.outer.outputEvb.length
  | .outerError => s.outerOpen = true

instance (s : Forwarder) (e : ForwardEvent) : Decidable (Enabled s e) := by
  cases e <;> simp only [Enabled] <;> infer_instance

/-- One event. -/
def step (inShadow : Bool) (s : Forwarder) : ForwardEvent → Except ForwardCheck Forwarder
  | .innerData bs => .ok (s.onDataChunkRecv bs)
  | .innerEof => do
    let s ← s.onDataRecvFin
    s.closeIfShut
  | .innerReads length => closeIfShut { s with stream := s.stream.read length }
  | .streamReset => s.onStreamClose
  | .outerData bs => s.onNewReadDataAvailable bs
  | .outerEof => s.onEOF inShadow
  | .outerWrites n =>
    let out := s.outer.outputEvb
    let s := { s with
      outer := { s.outer with outputEvb := out.drop n }, accepted := s.accepted ++ out.take n }
    if out.drop n = [] then s.onWrittenData else .ok s
  | .outerError => s.onError

/-- A step that is taken. -/
def Step (inShadow : Bool) (s : Forwarder) (e : ForwardEvent) (s' : Forwarder) : Prop :=
  Enabled s e ∧ step inShadow s e = .ok s'

/-- The owner forwards. -/
structure Live (s : Forwarder) : Prop where
  outerOpen : s.outerOpen = true
  streamOpen : s.streamOpen = true
  observed : s.observed = true
  bufloChannel : s.bufloChannel = true
  ownerClosed : s.ownerClosed = false
  outwardBuf : s.outwardBuf = []
  halfClosed : s.innerStreamHalfClosed = s.innerRecvEof
  done : s.done = []
  sends : Sends s.stream
  notShut : s.innerRecvEof = true → s.stream.source.ended = false

/-- The owner has closed; the handler is not called again. -/
structure Torn (s : Forwarder) : Prop where
  outerOpen : s.outerOpen = false
  output : s.outer.outputEvb = []
  observed : s.observed = false
  done : s.done.length = 1

variable {s s' : Forwarder} (inShadow : Bool)

/-- The handler is done, and its owner has closed. -/
def tearDown (b : Bool) (s : Forwarder) : Forwarder :=
  { s with
    ownerClosed := true, outer := {}, outerOpen := false, observed := false, bufloChannel := false
    done := s.done ++ [b] }

theorem beDone_eq (b : Bool) (hclosed : s.ownerClosed = false) (hchannel : s.bufloChannel = true) :
    s.beDone b = .ok (s.tearDown b) := by
  obtain ⟨outer, outerOpen, stream, outwardBuf, innerRecvEof, streamOpen, observed, bufloChannel,
    ownerClosed, halfClosed, done, received, accepted⟩ := s
  simp only at hclosed hchannel
  subst hclosed hchannel
  cases b <;> rfl

theorem tearDown_torn (b : Bool) (hdone : s.done = []) : Torn (s.tearDown b) :=
  ⟨rfl, rfl, rfl, by rw [tearDown, hdone]; rfl⟩

/-- What the stream brings is written to the outer channel. -/
theorem Live.innerData (h : Live s) (bs : List UInt8) :
    step inShadow s (.innerData bs) = .ok { s with
      outer := s.outer.write bs, received := s.received ++ bs } := by
  simp only [step, onDataChunkRecv]
  rw [if_pos h.observed]
  simp only [onStreamNewDataAvailable, h.outwardBuf, List.nil_append]

/-- The end of what the stream brings.  If the other end has passed before, the stream is closed. -/
theorem Live.innerEof (h : Live s) (hmore : s.innerRecvEof = false) :
    step inShadow s .innerEof =
      if s.stream.source.ended then
        .ok (tearDown true { s with
          innerRecvEof := true, innerStreamHalfClosed := true, streamOpen := false })
      else .ok { s with innerRecvEof := true, innerStreamHalfClosed := true } := by
  have hhalf : s.innerStreamHalfClosed = false := h.halfClosed.trans hmore
  have hfin : s.onDataRecvFin = .ok { s with innerRecvEof := true, innerStreamHalfClosed := true } := by
    rw [onDataRecvFin, check_pos hmore, ok_bind]
    simp only [onStreamRecvEOF]
    rw [if_pos h.observed, check_pos hhalf, ok_bind]
    rfl
  simp only [step, hfin, ok_bind, closeIfShut]
  cases hended : s.stream.source.ended with
  | true =>
    rw [if_pos ⟨h.streamOpen, trivial, rfl⟩, if_pos rfl, onStreamClose]
    simp only
    rw [if_pos h.observed]
    exact beDone_eq true h.ownerClosed h.bufloChannel
  | false =>
    rw [if_neg (fun hshut => Bool.false_ne_true hshut.2.2), if_neg Bool.false_ne_true]

/-- A call of the read callback; it may tell the end, and then the stream is closed if the other end has
come before. -/
theorem Live.innerReads (h : Live s) (length : ℕ) :
    step inShadow s (.innerReads length) =
      if s.innerRecvEof ∧ (s.stream.read length).source.ended then
        .ok (tearDown true { s with stream := s.stream.read length, streamOpen := false })
      else .ok { s with stream := s.stream.read length } := by
  simp only [step, closeIfShut]
  by_cases hshut : s.innerRecvEof = true ∧ (s.stream.read length).source.ended = true
  · rw [if_pos ⟨h.streamOpen, hshut⟩, if_pos hshut, onStreamClose]
    simp only
    rw [if_pos h.observed]
    exact beDone_eq true h.ownerClosed h.bufloChannel
  · rw [if_neg (fun hall => hshut hall.2), if_neg hshut]

theorem Live.streamReset (h : Live s) :
    step inShadow s .streamReset = .ok (tearDown true { s with streamOpen := false }) := by
  simp only [step, onStreamClose]
  rw [if_pos h.observed]
  exact beDone_eq true h.ownerClosed h.bufloChannel

theorem Live.outerError (h : Live s) : step inShadow s .outerError = .ok (s.tearDown false) :=
  beDone_eq false h.ownerClosed h.bufloChannel

/-- The outer socket takes some bytes.  When it has taken all, and the end of the stream has come, the
handler is done. -/
theorem Live.outerWrites (h : Live s) (n : ℕ) :
    step inShadow s (.outerWrites n) =
      if s.outer.outputEvb.drop n = [] ∧ s.innerStreamHalfClosed then
        .ok (tearDown false { s with
          outer := { s.outer with outputEvb := s.outer.outputEvb.drop n }
          accepted := s.accepted ++ s.outer.outputEvb.take n })
      else .ok { s with
        outer := { s.outer with outputEvb := s.outer.outputEvb.drop n }
        accepted := s.accepted ++ s.outer.outputEvb.take n } := by
  simp only [step]
  by_cases hempty : s.outer.outputEvb.drop n = []
  · rw [if_pos hempty, onWrittenData, check_pos (by exact hempty), ok_bind]
    cases hhalf : s.innerStreamHalfClosed with
    | true =>
      rw [if_pos rfl, if_pos ⟨hempty, rfl⟩]
      exact beDone_eq false h.ownerClosed h.bufloChannel
    | false =>
      rw [if_neg Bool.false_ne_true, if_neg (fun hall => Bool.false_ne_true hall.2)]
      rfl
  · rw [if_neg hempty, if_neg (fun hall => hempty hall.1)]

/-- Bytes of the outer channel are written to the stream. -/
theorem Live.outerData (h : Live s) (bs : List UInt8) :
    ∃ st, step inShadow s (.outerData bs) = .ok { s with stream := st } ∧ Sends st ∧
      st.source.ended = s.stream.source.ended := by
  obtain ⟨st, heq, hsends, hended⟩ := h.sends.writeBuffer bs
  refine ⟨st, ?_, hsends, hended⟩
  simp only [step, onNewReadDataAvailable]
  rw [check_pos h.streamOpen, ok_bind, heq]
  rfl

/-- The outer channel ends: the stream is told, or the handler is done. -/
theorem Live.outerEof (h : Live s) (hfirst : s.stream.eofCalled = false) :
    (inShadow = true ∧ ∃ st, step inShadow s .outerEof = .ok { s with stream := st } ∧ Sends st ∧
      st.source.ended = s.stream.source.ended) ∨
    (inShadow = false ∧ step inShadow s .outerEof = .ok (s.tearDown false)) := by
  cases inShadow with
  | true =>
    obtain ⟨st, heq, hsends, hended⟩ := h.sends.setWriteEof hfirst
    refine .inl ⟨rfl, st, ?_, hsends, hended⟩
    simp only [step, onEOF]
    rw [if_pos trivial, if_pos h.streamOpen, heq]
    rfl
  | false => exact .inr ⟨rfl, beDone_eq false h.ownerClosed h.bufloChannel⟩

/-! ### What is kept while the owner forwards -/

theorem Live.setBytes (h : Live s) (outer : TcpChannel) (received accepted : List UInt8) :
    Live { s with outer, received, accepted } :=
  ⟨h.outerOpen, h.streamOpen, h.observed, h.bufloChannel, h.ownerClosed, h.outwardBuf, h.halfClosed,
    h.done, h.sends, h.notShut⟩

theorem Live.setStream {st : Stream} (h : Live s) (hsends : Sends st)
    (hshut : s.innerRecvEof = true → st.source.ended = false) : Live { s with stream := st } :=
  ⟨h.outerOpen, h.streamOpen, h.observed, h.bufloChannel, h.ownerClosed, h.outwardBuf, h.halfClosed,
    h.done, hsends, hshut⟩

theorem Live.setEof (h : Live s) (hopen : s.stream.source.ended = false) :
    Live { s with innerRecvEof := true, innerStreamHalfClosed := true } :=
  ⟨h.outerOpen, h.streamOpen, h.observed, h.bufloChannel, h.ownerClosed, h.outwardBuf, rfl,
    h.done, h.sends, fun _ => hopen⟩

/-- Whether a call of the read callback tells the end. -/
theorem ended_read {st : Stream} {length : ℕ} (h : Sends st) (hpos : 0 < length)
    (hreading : st.Reading) : (st.read length).source.ended = true ↔
      st.state.inwardBuf = [] ∧ st.eofCalled = true := by
  obtain ⟨-, -, hopen⟩ := hreading
  rcases read_cases st hpos with ⟨hbuf, heq⟩ | ⟨hbuf, heof, heq⟩ | ⟨hbuf, heof, heq⟩
  · rw [heq]
    exact ⟨fun hend => absurd (hopen.symm.trans hend) Bool.false_ne_true, fun hall => absurd hall.1 hbuf⟩
  · rw [heq]
    refine ⟨fun hend => absurd (hopen.symm.trans hend) Bool.false_ne_true, fun hall => ?_⟩
    exact absurd ((heof.symm.trans h.seenEof).trans hall.2) Bool.false_ne_true
  · rw [heq]
    exact ⟨fun _ => ⟨hbuf, h.seenEof.symm.trans heof⟩, fun _ => rfl⟩

/-! ### No byte is lost -/

/-- The stream is not closed in this event, or nothing waits for the outer socket; nor is the stream
reset, or the outer channel in error. -/
def Flushed (s : Forwarder) : ForwardEvent → Prop
  | .innerEof => s.stream.source.ended = true → s.outer.outputEvb = []
  | .innerReads _ => s.innerRecvEof = true → s.stream.state.inwardBuf = [] →
    s.stream.eofCalled = true → s.outer.outputEvb = []
  | .streamReset => False
  | .outerError => False
  | _ => True

/-- The outer socket has been given, in order, all that came from the stream but for what waits; nothing
of it is lost when the owner has closed. -/
def Forwarded (s : Forwarder) : Prop :=
  (s.outerOpen = true → s.accepted ++ s.outer.outputEvb = s.received) ∧
    (s.outerOpen = false → s.accepted = s.received)

theorem Forwarded.of_live {s : Forwarder} (h : Live s)
    (hbytes : s.accepted ++ s.outer.outputEvb = s.received) : Forwarded s :=
  ⟨fun _ => hbytes, fun hgone => absurd (hgone.symm.trans h.outerOpen) Bool.false_ne_true⟩

/-- When the owner closes, it loses what waits. -/
theorem forwarded_tearDown (b : Bool) (hbytes : s.accepted ++ s.outer.outputEvb = s.received) :
    Forwarded (s.tearDown b) ↔ s.outer.outputEvb = [] := by
  refine ⟨fun h => ?_, fun hnil => ⟨fun hopen => absurd hopen Bool.false_ne_true, fun _ => ?_⟩⟩
  · have heq : s.accepted = s.received := h.2 rfl
    rw [← heq] at hbytes
    exact List.append_right_eq_self.mp hbytes
  · rw [hnil, List.append_nil] at hbytes
    exact hbytes

/-- An event, while the owner forwards: bytes are lost exactly when it closes the stream too early. -/
theorem Live.step_forwarded {e : ForwardEvent} (h : Live s)
    (hbytes : s.accepted ++ s.outer.outputEvb = s.received) (hen : Enabled s e)
    (hreset : e ≠ .streamReset) (herror : e ≠ .outerError) :
    ∃ s', step true s e = .ok s' ∧ (Live s' ∨ Torn s') ∧ (Forwarded s' ↔ Flushed s e) := by
  have hlive : ∀ {s' : Forwarder}, Live s' → s'.accepted ++ s'.outer.outputEvb = s'.received →
      Flushed s e → (Live s' ∨ Torn s') ∧ (Forwarded s' ↔ Flushed s e) :=
    fun hlive hb hflushed => ⟨.inl hlive, fun _ => hflushed, fun _ => .of_live hlive hb⟩
  cases e with
  | innerData bs =>
    refine ⟨_, h.innerData true bs, hlive (h.setBytes _ _ _) ?_ trivial⟩
    show s.accepted ++ (s.outer.outputEvb ++ bs) = s.received ++ bs
    rw [← List.append_assoc, hbytes]
  | innerEof =>
    rw [h.innerEof true hen.2]
    -- the stream is closed here if it has ended as well, and what has not been written is lost
    cases hended : s.stream.source.ended with
    | true =>
      refine ⟨_, if_pos rfl, .inr (tearDown_torn _ h.done), ?_⟩
      rw [forwarded_tearDown true (by exact hbytes)]
      exact ⟨fun hnil _ => hnil, fun hflushed => hflushed hended⟩
    | false =>
      refine ⟨_, if_neg Bool.false_ne_true, hlive (h.setEof hended) hbytes fun htrue => ?_⟩
      exact absurd (hended.symm.trans htrue) Bool.false_ne_true
  | innerReads length =>
    obtain ⟨-, hpos, hreading⟩ := hen
    have hended := ended_read h.sends hpos hreading
    rw [h.innerReads true]
    -- the last bytes have been read, so the other end may be shut
    by_cases hshut : s.innerRecvEof = true ∧ (s.stream.read length).source.ended = true
    · refine ⟨_, if_pos hshut, .inr (tearDown_torn _ h.done), ?_⟩
      rw [forwarded_tearDown true (by exact hbytes)]
      obtain ⟨hbuf, hcalled⟩ := hended.mp hshut.2
      exact ⟨fun hnil _ _ _ => hnil, fun hflushed => hflushed hshut.1 hbuf hcalled⟩
    · refine ⟨_, if_neg hshut, hlive (h.setStream (h.sends.read hpos hreading).1 fun heof => ?_) hbytes
        fun heof hbuf hcalled => absurd ⟨heof, hended.mpr ⟨hbuf, hcalled⟩⟩ hshut⟩
      exact Bool.eq_false_iff.mpr fun htrue => hshut ⟨heof, htrue⟩
  | streamReset => exact absurd rfl hreset
  | outerData bs =>
    obtain ⟨st, heq, hsends, hended⟩ := h.outerData true bs
    exact ⟨_, heq, hlive (h.setStream hsends fun heof => hended.trans (h.notShut heof)) hbytes trivial⟩
  | outerEof =>
    rcases h.outerEof true hen.2 with ⟨-, st, heq, hsends, hended⟩ | ⟨hfalse, -⟩
    · exact ⟨_, heq, hlive (h.setStream hsends fun heof => hended.trans (h.notShut heof)) hbytes
        trivial⟩
    · cases hfalse
  | outerWrites n =>
    have hbytes' : (s.accepted ++ s.outer.outputEvb.take n) ++ s.outer.outputEvb.drop n =
        s.received := by
      rw [List.append_assoc, List.take_append_drop, hbytes]
    rw [h.outerWrites true]
    -- everything is written before the stream is closed
    by_cases hdone : s.outer.outputEvb.drop n = [] ∧ s.innerStreamHalfClosed = true
    · refine ⟨_, if_pos hdone, .inr (tearDown_torn _ h.done), ?_⟩
      rw [forwarded_tearDown false (by exact hbytes')]
      exact ⟨fun _ => trivial, fun _ => hdone.1⟩
    · exact ⟨_, if_neg hdone, hlive (h.setBytes _ _ _) hbytes' trivial⟩
  | outerError => exact absurd rfl herror

theorem Torn.closeIfShut (h : Torn s) :
    ∃ s', s.closeIfShut = .ok s' ∧ Torn s' ∧ s'.received = s.received ∧ s'.accepted = s.accepted := by
  rw [Forwarder.closeIfShut]
  by_cases hshut : s.streamOpen = true ∧ s.innerRecvEof = true ∧ s.stream.source.ended = true
  · refine ⟨{ s with streamOpen := false }, ?_, ⟨h.outerOpen, h.output, h.observed, h.done⟩, rfl, rfl⟩
    rw [if_pos hshut, onStreamClose]
    simp only
    rw [if_neg (by rw [h.observed]; exact Bool.false_ne_true)]
  · exact ⟨s, if_neg hshut, h, rfl, rfl⟩

/-- When the owner has closed, no event reaches the handler. -/
theorem Torn.step {e : ForwardEvent} (h : Torn s) (hen : Enabled s e) :
    ∃ s', Forwarder.step inShadow s e = .ok s' ∧ Torn s' ∧ s'.received = s.received ∧
      s'.accepted = s.accepted := by
  -- nothing observes the stream any more, and the outer channel is closed
  have hunseen : ¬ s.observed = true := by
    rw [h.observed]
    exact Bool.false_ne_true
  have hgone : s.outerOpen ≠ true := by
    rw [h.outerOpen]
    exact Bool.false_ne_true
  cases e with
  | innerData bs =>
    refine ⟨{ s with outwardBuf := s.outwardBuf ++ bs }, ?_,
      ⟨h.outerOpen, h.output, h.observed, h.done⟩, rfl, rfl⟩
    simp only [Forwarder.step, onDataChunkRecv]
    rw [if_neg hunseen]
  | innerEof =>
    have hfin : s.onDataRecvFin = .ok { s with innerRecvEof := true } := by
      rw [onDataRecvFin, check_pos hen.2, ok_bind]
      simp only
      rw [if_neg hunseen]
      rfl
    simp only [Forwarder.step, hfin, ok_bind]
    exact Torn.closeIfShut (s := { s with innerRecvEof := true })
      ⟨h.outerOpen, h.output, h.observed, h.done⟩
  | innerReads length =>
    exact Torn.closeIfShut (s := { s with stream := s.stream.read length })
      ⟨h.outerOpen, h.output, h.observed, h.done⟩
  | streamReset =>
    refine ⟨{ s with streamOpen := false }, ?_, ⟨h.outerOpen, h.output, h.observed, h.done⟩, rfl, rfl⟩
    simp only [Forwarder.step, onStreamClose]
    rw [if_neg hunseen]
  | outerData bs => exact absurd hen.1 hgone
  | outerEof => exact absurd hen.1 hgone
  | outerWrites n => exact absurd hen.1 hgone
  | outerError => exact absurd hen hgone

/-- At the beginning the owner forwards. -/
theorem live_start : Live {} :=
  ⟨rfl, rfl, rfl, rfl, rfl, rfl, rfl, rfl,
    ⟨rfl, rfl, fun h => absurd h Bool.false_ne_true, rfl, fun h => absurd h Bool.false_ne_true⟩,
    fun h => absurd h Bool.false_ne_true⟩

theorem forwarded_step {e : ForwardEvent} (h : Live s ∨ Torn s) (hforwarded : Forwarded s)
    (hen : Enabled s e) (hreset : e ≠ .streamReset) (herror : e ≠ .outerError) :
    ∃ s', step true s e = .ok s' ∧ (Live s' ∨ Torn s') ∧ (Forwarded s' ↔ Flushed s e) := by
  rcases h with hlive | htorn
  · exact hlive.step_forwarded (hforwarded.1 hlive.outerOpen) hen hreset herror
  · obtain ⟨s', heq, htorn', hreceived, haccepted⟩ := htorn.step true hen
    have hnone : s.outer.outputEvb = [] := htorn.output
    refine ⟨s', heq, .inr htorn', fun _ => ?_, fun _ => ?_⟩
    · cases e with
      | innerEof => exact fun _ => hnone
      | innerReads length => exact fun _ _ _ => hnone
      | streamReset => exact hreset rfl
      | outerError => exact herror rfl
      | innerData bs => trivial
      | outerData bs => trivial
      | outerEof => trivial
      | outerWrites n => trivial
    · refine ⟨fun hopen => absurd (htorn'.outerOpen.symm.trans hopen) Bool.false_ne_true, fun _ => ?_⟩
      rw [hreceived, haccepted]
      exact hforwarded.2 htorn.outerOpen

/-- **No byte is lost.**  With `IN_SHADOW`, and if the stream is never closed while bytes wait for the
outer socket, what the handler has had from the stream is accepted by the socket but for what waits, in
every state that can be reached, and all of it when the owner has closed.  No assertion fails; and an
event that closes the stream while bytes wait loses them.  The channel's end is reported once here; that
with `IN_SHADOW` it may be reported again is `one_terminal_reads_again`. -/
theorem forwards_all {es : List ForwardEvent} (h : Run (Guarded Flushed (Step true)) {} es s) :
    Forwarded s ∧ ∀ e, Enabled s e → e ≠ .streamReset → e ≠ .outerError →
      ∃ s', step true s e = .ok s' ∧ (Forwarded s' ↔ Flushed s e) := by
  have hinv : (Live s ∨ Torn s) ∧ Forwarded s := by
    refine h.invariant (P := fun s => (Live s ∨ Torn s) ∧ Forwarded s) ?_
      ⟨.inl live_start, .of_live live_start rfl⟩
    rintro s e s' ⟨hmode, hforwarded⟩ ⟨hflushed, hen, hstep⟩
    have hreset : e ≠ .streamReset := by
      rintro rfl
      exact hflushed
    have herror : e ≠ .outerError := by
      rintro rfl
      exact hflushed
    obtain ⟨s₁, heq, hmode', hiff⟩ := forwarded_step hmode hforwarded hen hreset herror
    cases hstep.symm.trans heq
    exact ⟨hmode', hiff.mpr hflushed⟩
  refine ⟨hinv.2, fun e hen hreset herror => ?_⟩
  obtain ⟨s', heq, -, hiff⟩ := forwarded_step hinv.1 hinv.2 hen hreset herror
  exact ⟨s', heq, hiff⟩

instance (s : Forwarder) (e : ForwardEvent) : Decidable (Flushed s e) := by
  cases e <;> simp only [Flushed] <;> infer_instance

/-- A response of three bytes that is written in two parts, after which the stream ends. -/
def response : List ForwardEvent :=
  [.outerData [1], .innerReads 4096, .innerData [7, 8, 9], .outerWrites 2, .innerEof, .outerWrites 1]

theorem forwards_all_response :
    ∃ s, Run (Guarded Flushed (Step true)) {} response s ∧ Forwarded s ∧ s.outerOpen = false ∧
      s.accepted = [7, 8, 9] := by
  obtain ⟨s, hexec, hs⟩ := exists_of_returns
    (x := exec (guardedStep (fun s e => Flushed s e ∧ Enabled s e) .ownerState (step true)) {}
      response)
    (p := fun s => decide (s.outerOpen = false ∧ s.accepted = [7, 8, 9]))
    (by decide +kernel)
  have hrun : Run (Guarded Flushed (Step true)) {} response s :=
    (run_of_exec_guarded hexec).mono fun _ _ _ hstep => ⟨hstep.1.1, hstep.1.2, hstep.2⟩
  exact ⟨s, hrun, (forwards_all hrun).1, of_decide_eq_true hs⟩

/-- The outer channel has ended, and its end has passed through the stream; then a response of three
bytes comes, and the end of the stream, which closes it: nothing of the response is written. -/
theorem forwards_all_fails :
    ∃ s, Run (Step true) {} [.outerEof, .innerReads 4096, .innerData [7, 8, 9], .innerEof] s ∧
      s.outerOpen = false ∧ s.received = [7, 8, 9] ∧ s.accepted = [] := by
  obtain ⟨s, hexec, hs⟩ := exists_of_returns
    (x := exec (guardedStep Enabled .ownerState (step true)) {}
      [.outerEof, .innerReads 4096, .innerData [7, 8, 9], .innerEof])
    (p := fun s => decide (s.outerOpen = false ∧ s.received = [7, 8, 9] ∧ s.accepted = []))
    (by decide +kernel)
  exact ⟨s, run_of_exec_guarded hexec, of_decide_eq_true hs⟩

/-! ### The handler is done -/

/-- When the end of the stream comes, something waits for the outer socket, or the end of the outer
channel has passed (then the stream is closed), or the owner has closed already. -/
def Awaited (s : Forwarder) : ForwardEvent → Prop
  | .innerEof => s.outer.outputEvb ≠ [] ∨ s.stream.source.ended = true ∨ s.observed = false
  | _ => True

instance (s : Forwarder) (e : ForwardEvent) : Decidable (Awaited s e) := by
  cases e <;> simp only [Awaited] <;> infer_instance

/-- When the handler knows the end of the stream, and nothing waits for the outer socket, it has said
that it is done; and it never says so twice. -/
def Finished (s : Forwarder) : Prop :=
  (s.innerStreamHalfClosed = true → s.outer.outputEvb = [] → s.done.length = 1) ∧ s.done.length ≤ 1

theorem Torn.finished (h : Torn s) : Finished s := ⟨fun _ _ => h.done, Nat.le_of_eq h.done⟩

theorem Live.finished (h : Live s) :
    Finished s ↔ (s.innerStreamHalfClosed = true → s.outer.outputEvb ≠ []) := by
  refine ⟨fun hf hhalf hnil => ?_, fun hwaits => ⟨fun hhalf hnil => absurd hnil (hwaits hhalf), ?_⟩⟩
  · have hone := hf.1 hhalf hnil
    rw [h.done] at hone
    exact absurd hone (by decide)
  · rw [h.done]
    exact Nat.zero_le 1

/-- An event, while the owner forwards: a notification is missed exactly when the end of the stream
comes and nothing waits. -/
theorem Live.step_finished {e : ForwardEvent} (h : Live s) (hfinished : Finished s)
    (hen : Enabled s e) :
    ∃ s', step inShadow s e = .ok s' ∧ (Live s' ∨ Torn s') ∧ (Finished s' ↔ Awaited s e) := by
  have hwaits := h.finished.mp hfinished
  have htorn : ∀ {s' : Forwarder}, Torn s' → Awaited s e →
      (Live s' ∨ Torn s') ∧ (Finished s' ↔ Awaited s e) :=
    fun ht ha => ⟨.inr ht, fun _ => ha, fun _ => ht.finished⟩
  have hlive : ∀ {s' : Forwarder}, Live s' →
      (s'.innerStreamHalfClosed = true → s'.outer.outputEvb ≠ []) → Awaited s e →
      (Live s' ∨ Torn s') ∧ (Finished s' ↔ Awaited s e) :=
    fun hl hw ha => ⟨.inl hl, fun _ => ha, fun _ => hl.finished.mpr hw⟩
  cases e with
  | innerData bs =>
    refine ⟨_, h.innerData inShadow bs, hlive (h.setBytes _ _ _) (fun _ hnil => ?_) trivial⟩
    exact hen.2.2 (List.append_eq_nil_iff.mp hnil).2
  | innerEof =>
    rw [h.innerEof inShadow hen.2]
    -- the end comes after all has been read, or the stream's end has not been seen yet
    cases hended : s.stream.source.ended with
    | true => exact ⟨_, if_pos rfl, htorn (tearDown_torn _ h.done) (.inr (.inl hended))⟩
    | false =>
      refine ⟨_, if_neg Bool.false_ne_true, .inl (h.setEof hended), ?_⟩
      rw [(h.setEof hended).finished]
      refine ⟨fun hw => .inl (hw rfl), fun ha _ => ?_⟩
      rcases ha with hne | htrue | hunseen
      · exact hne
      · exact absurd (hended.symm.trans htrue) Bool.false_ne_true
      · exact absurd (hunseen.symm.trans h.observed) Bool.false_ne_true
  | innerReads length =>
    obtain ⟨-, hpos, hreading⟩ := hen
    rw [h.innerReads inShadow]
    by_cases hshut : s.innerRecvEof = true ∧ (s.stream.read length).source.ended = true
    · exact ⟨_, if_pos hshut, htorn (tearDown_torn _ h.done) trivial⟩
    · refine ⟨_, if_neg hshut, hlive (h.setStream (h.sends.read hpos hreading).1 fun heof => ?_) hwaits
        trivial⟩
      exact Bool.eq_false_iff.mpr fun htrue => hshut ⟨heof, htrue⟩
  | streamReset => exact ⟨_, h.streamReset inShadow, htorn (tearDown_torn _ h.done) trivial⟩
  | outerData bs =>
    obtain ⟨st, heq, hsends, hended⟩ := h.outerData inShadow bs
    exact ⟨_, heq, hlive (h.setStream hsends fun heof => hended.trans (h.notShut heof)) hwaits trivial⟩
  | outerEof =>
    rcases h.outerEof inShadow hen.2 with ⟨-, st, heq, hsends, hended⟩ | ⟨-, heq⟩
    · exact ⟨_, heq, hlive (h.setStream hsends fun heof => hended.trans (h.notShut heof)) hwaits
        trivial⟩
    · exact ⟨_, heq, htorn (tearDown_torn _ h.done) trivial⟩
  | outerWrites n =>
    rw [h.outerWrites inShadow]
    -- the write that empties the buffer is the last thing to be waited for
    by_cases hdone : s.outer.outputEvb.drop n = [] ∧ s.innerStreamHalfClosed = true
    · exact ⟨_, if_pos hdone, htorn (tearDown_torn _ h.done) trivial⟩
    · exact ⟨_, if_neg hdone, hlive (h.setBytes _ _ _) (fun hhalf hnil => hdone ⟨hnil, hhalf⟩) trivial⟩
  | outerError => exact ⟨_, h.outerError inShadow, htorn (tearDown_torn _ h.done) trivial⟩

theorem finished_step {e : ForwardEvent} (h : Live s ∨ Torn s) (hfinished : Finished s)
    (hen : Enabled s e) :
    ∃ s', step inShadow s e = .ok s' ∧ (Live s' ∨ Torn s') ∧ (Finished s' ↔ Awaited s e) := by
  rcases h with hlive | htorn
  · exact hlive.step_finished inShadow hfinished hen
  · obtain ⟨s', heq, htorn', -⟩ := htorn.step inShadow hen
    refine ⟨s', heq, .inr htorn', fun _ => ?_, fun _ => htorn'.finished⟩
    cases e with
    | innerEof => exact .inr (.inr htorn.observed)
    | innerReads length => trivial
    | streamReset => trivial
    | outerError => trivial
    | innerData bs => trivial
    | outerData bs => trivial
    | outerEof => trivial
    | outerWrites n => trivial

/-- **The handler is done in time.**  In either build, and if the end of the stream comes only while
something waits for the outer socket (or when it closes the stream), the handler has said that it is
done whenever the end has come and nothing waits; it never says so twice, and no assertion fails.  When
the end comes and nothing waits, it does not say so.  Here too the channel's end is reported once; for
what follows a second report with `IN_SHADOW`, see `one_terminal_reads_again`. -/
theorem done_when_flushed {es : List ForwardEvent}
    (h : Run (Guarded Awaited (Step inShadow)) {} es s) :
    Finished s ∧ ∀ e, Enabled s e →
      ∃ s', step inShadow s e = .ok s' ∧ (Finished s' ↔ Awaited s e) := by
  have hinv : (Live s ∨ Torn s) ∧ Finished s := by
    refine h.invariant (P := fun s => (Live s ∨ Torn s) ∧ Finished s) ?_
      ⟨.inl live_start, live_start.finished.mpr fun hhalf => absurd hhalf Bool.false_ne_true⟩
    rintro s e s' ⟨hmode, hfinished⟩ ⟨hawaited, hen, hstep⟩
    obtain ⟨s₁, heq, hmode', hiff⟩ := finished_step inShadow hmode hfinished hen
    cases hstep.symm.trans heq
    exact ⟨hmode', hiff.mpr hawaited⟩
  refine ⟨hinv.2, fun e hen => ?_⟩
  obtain ⟨s', heq, -, hiff⟩ := finished_step inShadow hinv.1 hinv.2 hen
  exact ⟨s', heq, hiff⟩

/-- The end comes while a byte waits. -/
theorem done_when_flushed_response :
    ∃ s, Run (Guarded Awaited (Step false)) {} response s ∧ Finished s ∧ s.done = [false] := by
  obtain ⟨s, hexec, hs⟩ := exists_of_returns
    (x := exec (guardedStep (fun s e => Awaited s e ∧ Enabled s e) .ownerState (step false)) {}
      response)
    (p := fun s => decide (s.done = [false]))
    (by decide +kernel)
  have hrun : Run (Guarded Awaited (Step false)) {} response s :=
    (run_of_exec_guarded hexec).mono fun _ _ _ hstep => ⟨hstep.1.1, hstep.1.2, hstep.2⟩
  exact ⟨s, hrun, (done_when_flushed false hrun).1, of_decide_eq_true hs⟩

/-- The last byte is written before the end comes: the handler knows the end, nothing waits, and it is
not done. -/
theorem done_when_flushed_fails :
    ∃ s, Run (Step true) {} [.innerData [7], .outerWrites 1, .innerEof] s ∧
      s.innerStreamHalfClosed = true ∧ s.outer.outputEvb = [] ∧ s.done = [] := by
  obtain ⟨s, hexec, hs⟩ := exists_of_returns
    (x := exec (guardedStep Enabled .ownerState (step true)) {}
      [.innerData [7], .outerWrites 1, .innerEof])
    (p := fun s => decide (s.innerStreamHalfClosed = true ∧ s.outer.outputEvb = [] ∧ s.done = []))
    (by decide +kernel)
  exact ⟨s, run_of_exec_guarded hexec, of_decide_eq_true hs⟩

end Forwarder

end ShadowBrowser.Forwarding
