/-
The generic message channel.

It cuts the bytes of a TCP channel into messages.  While a message is incomplete
nothing is taken out of the input buffer, and the low-water mark of the channel is
set to the number of bytes that are needed to go on.

* `consumeInput` — what is done with the bytes that have arrived;
* `Idle` — the state between two reads, for a sender that sends a list of messages;
* **`delivers_iff`** — every message is delivered as soon as its last byte has been
  read, as long as no read ends inside a payload that is too long for a low-water mark.
-/
import Mathlib.Data.List.GetD
import ShadowBrowser.Messages

namespace ShadowBrowser

open Checked Message

/-- `StreamState` -/
inductive StreamState
  | readHeader
  | readMsg
  | closed
  deriving DecidableEq, Repr

/-- The assertions of the message channel, and those of the channel below. -/
inductive GmcCheck
  | msgLenZero
  | msgLenPositive
  | notReached
  | channel (e : TcpCheck)
  | outOfFuel
  deriving DecidableEq, Repr

/-- `GenericMessageChannel`.  `recvd` has the calls of `onRecvMsg` made so far. -/
structure GenericMessageChannel where
  channel : TcpChannel := {}
  state : StreamState := .readHeader
  msgType : UInt8 := 0
  msgId : ℕ := 0
  msgLen : ℕ := 0
  recvd : List RecvMsg := []
  deriving DecidableEq, Repr

namespace GenericMessageChannel

/-- The assertions of the channel below are assertions of the message channel. -/
def onChannel (x : Except TcpCheck TcpChannel) : Except GmcCheck TcpChannel :=
  x.mapError .channel

/-- `_send_header` -/
def sendHeader (type : UInt8) (id len : ℕ) (ch : TcpChannel) : TcpChannel :=
  ((ch.write [type]).write (htonl id)).write (htons len)

/-- `sendMsg` -/
def sendMsg (ch : TcpChannel) (m : Message) : TcpChannel :=
  let ch := sendHeader m.type m.id m.payload.length ch
  if m.payload.length ≠ 0 then ch.write m.payload else ch

/-- The header is read, and left in the buffer. -/
def parseHeader (g : GenericMessageChannel) : GenericMessageChannel :=
  let buf := g.channel.inputEvb
  { g with
    msgType := buf.getD 0 0
    msgId := ntohl (buf.getD 1 0) (buf.getD 2 0) (buf.getD 3 0) (buf.getD 4 0)
    msgLen := ntohs (buf.getD 5 0) (buf.getD 6 0)
    state := .readMsg }

/-- The message is delivered, and then taken out of the buffer. -/
def deliver (g : GenericMessageChannel) : GenericMessageChannel :=
  let totalLen := headerSize + g.msgLen
  let data := g.channel.inputEvb.take totalLen
  { channel := g.channel.drain totalLen
    state := .readHeader
    msgType := 0, msgId := 0, msgLen := 0
    recvd := g.recvd ++
      [{ type := g.msgType, id := g.msgId, len := g.msgLen, data := data.drop headerSize }] }

/-- One turn of the loop of `_consume_input`, and `keep_consuming`. -/
def consumeOne (g : GenericMessageChannel) : Except GmcCheck (GenericMessageChannel × Bool) :=
  let numAvailBytes := g.channel.inputEvb.length
  match g.state with
  | .readHeader => do
    check (g.msgLen = 0) .msgLenZero
    return if headerSize ≤ numAvailBytes then (g.parseHeader, true) else (g, false)
  | .readMsg =>
    .ok (if headerSize + g.msgLen ≤ numAvailBytes then (g.deliver, true) else (g, false))
  | .closed => .error .notReached

/-- The loop of `_consume_input`, for a bounded number of turns. -/
def consumeLoop : ℕ → GenericMessageChannel → Except GmcCheck GenericMessageChannel
  | 0, _ => .error .outOfFuel
  | fuel + 1, g => do
    let (g, keepConsuming) ← consumeOne g
    if keepConsuming then consumeLoop fuel g else return g

/-- `_update_read_watermark` -/
def updateReadWatermark (g : GenericMessageChannel) :
    Except GmcCheck GenericMessageChannel := do
  if g.state = .readHeader then
    check (g.msgLen = 0) .msgLenZero
    let ch ← onChannel (g.channel.setReadWatermark headerSize 0)
    return { g with channel := ch }
  else
    check (0 < g.msgLen) .msgLenPositive
    let ch ← onChannel (g.channel.setReadWatermark (headerSize + g.msgLen) 0)
    return { g with channel := ch }

/-- `_consume_input`.  Two turns of the loop take at least one byte. -/
def consumeInput (g : GenericMessageChannel) : Except GmcCheck GenericMessageChannel := do
  let g ← consumeLoop (2 * g.channel.inputEvb.length + 2) g
  updateReadWatermark g

/-- The message channel as the observer of its channel. -/
def observer : StreamObserver GmcCheck GenericMessageChannel where
  channel g := g.channel
  setChannel ch g := { g with channel := ch }
  onNewReadDataAvailable g := consumeInput g
  onInputBytesDropped _ g := .ok g

/-- One read from the socket. -/
def readcb (g : GenericMessageChannel) (bs : List UInt8) :
    Except GmcCheck GenericMessageChannel :=
  observer.onSocketReadcb g bs

/-! ### One call of `_consume_input` -/

/-- The number of bytes in the buffer with which the channel can go on. -/
def needs (g : GenericMessageChannel) : ℕ :=
  match g.state with
  | .readMsg => headerSize + g.msgLen
  | _ => headerSize

/-- The header that was read, if any, is the one of the first message of `todo`. -/
def Phase (todo : List Message) (g : GenericMessageChannel) : Prop :=
  match g.state with
  | .readHeader => g.msgLen = 0
  | .readMsg => headerSize ≤ g.channel.inputEvb.length ∧ ∃ m ∈ todo.head?,
      g.msgType = m.type ∧ g.msgId = m.id ∧ g.msgLen = m.payload.length
  | .closed => False

/-- The messages `todo` are not delivered, and the bytes `rest` of them not yet read. -/
structure Expects (todo : List Message) (rest : List UInt8) (g : GenericMessageChannel) :
    Prop where
  stream : g.channel.inputEvb ++ rest = encodeAll todo
  phase : Phase todo g
  idle : g.channel.inputDrop.numRemaining = 0

variable {g : GenericMessageChannel} {m : Message} {todo : List Message} {rest : List UInt8}

/-- A buffer with a header in it has the header of the first message. -/
theorem Expects.exists_message (h : Expects todo rest g)
    (hlen : headerSize ≤ g.channel.inputEvb.length) : ∃ m todo', todo = m :: todo' := by
  cases todo with
  | nil =>
    have hnil : g.channel.inputEvb ++ rest = [] := h.stream
    have hzero : g.channel.inputEvb = [] := (List.append_eq_nil_iff.mp hnil).1
    rw [hzero] at hlen
    simp [headerSize] at hlen
  | cons m todo' => exact ⟨m, todo', rfl⟩

theorem encodeAll_cons (m : Message) (ms : List Message) :
    encodeAll (m :: ms) = m.encode ++ encodeAll ms := by
  simp [encodeAll]

theorem Expects.getD_header (h : Expects (m :: todo) rest g)
    (hlen : headerSize ≤ g.channel.inputEvb.length) {i : ℕ} (hi : i < headerSize) :
    g.channel.inputEvb.getD i 0 = (m.encode ++ encodeAll todo).getD i 0 := by
  have hstream := h.stream
  rw [encodeAll_cons] at hstream
  rw [← hstream, List.getD_append _ _ _ _ (by omega)]

/-- Reading the header makes the channel wait for the message that it begins. -/
theorem Expects.parseHeader (h : Expects todo rest g)
    (hlen : headerSize ≤ g.channel.inputEvb.length) : Expects todo rest g.parseHeader := by
  obtain ⟨m, todo', rfl⟩ := h.exists_message hlen
  have hget := fun (i : ℕ) (hi : i < headerSize) => h.getD_header hlen hi
  simp only [headerSize] at hget
  refine ⟨h.stream, ⟨hlen, m, rfl, ?_, ?_, ?_⟩, h.idle⟩
  · show g.channel.inputEvb.getD 0 0 = m.type
    rw [hget 0 (by omega)]
    simp [encode]
  · show ntohl _ _ _ _ = m.id
    rw [hget 1 (by omega), hget 2 (by omega), hget 3 (by omega), hget 4 (by omega)]
    simpa [encode, htonl] using ntohl_htonl m.id_lt
  · show ntohs _ _ = m.payload.length
    have hle := m.length_le
    rw [hget 5 (by omega), hget 6 (by omega)]
    simpa [encode, htonl, htons] using ntohs_htons (n := m.payload.length) (by omega)

/-- The payload stands behind the header. -/
theorem drop_header (m : Message) : m.encode.drop headerSize = m.payload := by
  simp [encode, htonl, htons, headerSize]

/-- A complete message is delivered as it was sent, and the channel waits for the next. -/
theorem Expects.deliver (h : Expects (m :: todo) rest g) (hstate : g.state = .readMsg)
    (hlen : headerSize + g.msgLen ≤ g.channel.inputEvb.length) :
    Expects todo rest g.deliver ∧ g.deliver.recvd = g.recvd ++ [m.asRecvMsg] := by
  have hphase := h.phase
  simp only [Phase, hstate] at hphase
  obtain ⟨_, m', hm', htype, hid, hmlen⟩ := hphase
  cases hm'
  have hsize : headerSize + g.msgLen = m.encode.length := by
    rw [m.length_encode, hmlen]
    rfl
  have hstream := h.stream
  rw [encodeAll_cons] at hstream
  rw [hsize] at hlen
  have htake : g.channel.inputEvb.take m.encode.length = m.encode := by
    rw [← List.take_append_of_le_length hlen, hstream, List.take_left]
  have hdrop : g.channel.inputEvb.drop m.encode.length ++ rest = encodeAll todo := by
    rw [← List.drop_append_of_le_length hlen, hstream, List.drop_left]
  refine ⟨⟨?_, rfl, h.idle⟩, ?_⟩
  · show g.channel.inputEvb.drop (headerSize + g.msgLen) ++ rest = encodeAll todo
    rw [hsize, hdrop]
  · show g.recvd ++ [_] = g.recvd ++ [m.asRecvMsg]
    rw [hsize, htake, drop_header, htype, hid, hmlen]
    rfl

/-- An upper bound on the turns that the loop takes. -/
def turns (g : GenericMessageChannel) : ℕ :=
  2 * g.channel.inputEvb.length + if g.state = .readHeader then 2 else 1

/-- **The loop delivers messages of the list, as they were sent, and stops when it needs
more bytes.** -/
theorem Expects.consumeLoop {fuel : ℕ} (h : Expects todo rest g) (hfuel : g.turns ≤ fuel) :
    ∃ done todo' g', todo = done ++ todo' ∧ consumeLoop fuel g = .ok g' ∧
      Expects todo' rest g' ∧ g'.channel.inputEvb.length < g'.needs ∧
      g'.recvd = g.recvd ++ done.map asRecvMsg := by
  induction fuel generalizing g todo with
  | zero =>
    simp only [turns] at hfuel
    split at hfuel <;> omega
  | succ fuel ih =>
    by_cases hlen : g.channel.inputEvb.length < g.needs
    · -- too few bytes: the loop ends here
      have hone : consumeOne g = .ok (g, false) := by
        have hphase := h.phase
        simp only [Phase] at hphase
        simp only [needs] at hlen
        unfold consumeOne
        split at hphase
        · next hs =>
          simp only [hs] at hlen ⊢
          rw [check_pos hphase]
          simp [Nat.not_le.mpr hlen]
        · next hs =>
          simp only [hs] at hlen ⊢
          simp [Nat.not_le.mpr hlen]
        · exact hphase.elim
      refine ⟨[], todo, g, rfl, ?_, h, hlen, by simp⟩
      simp [GenericMessageChannel.consumeLoop, hone]
    · have hphase := h.phase
      simp only [Phase] at hphase
      split at hphase
      · next hs =>
        -- the header is there
        have hhdr : headerSize ≤ g.channel.inputEvb.length := by
          simpa [needs, hs] using hlen
        have hone : consumeOne g = .ok (g.parseHeader, true) := by
          simp only [consumeOne, hs, check_pos hphase]
          simp [hhdr]
        have hturns : g.parseHeader.turns ≤ fuel := by
          simp only [turns, hs, if_true] at hfuel
          show 2 * g.channel.inputEvb.length + 1 ≤ fuel
          omega
        obtain ⟨done, todo', g', htodo, hloop, hrest⟩ := ih (h.parseHeader hhdr) hturns
        refine ⟨done, todo', g', htodo, ?_, hrest⟩
        simpa [GenericMessageChannel.consumeLoop, hone] using hloop
      · next hs =>
        -- the message is there
        have hmsg : headerSize + g.msgLen ≤ g.channel.inputEvb.length := by
          simpa [needs, hs] using hlen
        obtain ⟨m, todo', rfl⟩ := h.exists_message hphase.1
        obtain ⟨hnext, hrecvd⟩ := h.deliver hs hmsg
        have hone : consumeOne g = .ok (g.deliver, true) := by
          simp [consumeOne, hs, hmsg]
        have hturns : g.deliver.turns ≤ fuel := by
          have hfuel' : 2 * g.channel.inputEvb.length + 1 ≤ fuel + 1 := by
            simpa [turns, hs] using hfuel
          show 2 * (g.channel.inputEvb.drop (headerSize + g.msgLen)).length + 2 ≤ fuel
          rw [List.length_drop]
          simp only [headerSize] at hmsg ⊢
          omega
        obtain ⟨done, todo'', g', htodo, hloop, hexp, hneeds, hrecvd'⟩ := ih hnext hturns
        refine ⟨m :: done, todo'', g', by rw [htodo]; rfl, ?_, hexp, hneeds, ?_⟩
        · simpa [GenericMessageChannel.consumeLoop, hone] using hloop
        · rw [hrecvd', hrecvd]
          simp
      · exact hphase.elim

/-- The low-water mark is set to the number of bytes that are needed, if it can be. -/
theorem Expects.updateReadWatermark (h : Expects todo rest g)
    (hlen : g.channel.inputEvb.length < g.needs) :
    updateReadWatermark g = if g.needs ≤ 0xffff
      then .ok { g with channel := { g.channel with readLwMark := g.needs } }
      else .error (.channel .lowMark) := by
  have hset : onChannel (g.channel.setReadWatermark g.needs 0) = if g.needs ≤ 0xffff
      then .ok { g.channel with readLwMark := g.needs } else .error (.channel .lowMark) := by
    by_cases hle : g.needs ≤ 0xffff
    · simp [onChannel, TcpChannel.setReadWatermark, check, hle, Except.mapError]
    · simp [onChannel, TcpChannel.setReadWatermark, check, hle, Except.mapError]
  have hphase := h.phase
  simp only [Phase] at hphase
  split at hphase
  · next hs =>
    have hneeds : g.needs = headerSize := by simp [needs, hs]
    rw [hneeds] at hset ⊢
    simp only [GenericMessageChannel.updateReadWatermark, hs, if_true, check_pos hphase, hset]
    simp [headerSize]
  · next hs =>
    have hneeds : g.needs = headerSize + g.msgLen := by simp [needs, hs]
    have hpos : 0 < g.msgLen := by
      have := hphase.1
      omega
    simp only [GenericMessageChannel.updateReadWatermark, hs, reduceCtorEq, if_false,
      check_pos hpos, ← hneeds, hset]
    by_cases hle : g.needs ≤ 0xffff
    · simp [hle]
    · simp [hle]
  · exact hphase.elim

/-! ### One read -/

/-- Between two reads, when the sender sends the messages `ms` and `n` bytes of them have been
read: the messages that are complete are delivered, and the low-water mark is no higher than the
number of bytes with which the next can be. -/
def Idle (ms : List Message) (n : ℕ) (rest : List UInt8) (g : GenericMessageChannel) : Prop :=
  ∃ done todo, ms = done ++ todo ∧ n = sizeAll done + g.channel.inputEvb.length ∧
    g.recvd = done.map asRecvMsg ∧ Expects todo rest g ∧
    g.channel.inputEvb.length < g.needs ∧ g.channel.readLwMark ≤ g.needs ∧ g.needs ≤ 0xffff

theorem idle_new (ms : List Message) : Idle ms 0 (encodeAll ms) {} :=
  ⟨[], ms, rfl, rfl, rfl, ⟨rfl, rfl, rfl⟩, by decide, by decide, by decide⟩

/-- What is needed is within the first message that is not delivered. -/
theorem Expects.isPartial (h : Expects todo rest g) (hlen : g.channel.inputEvb.length < g.needs) :
    Partial todo g.channel.inputEvb.length := by
  intro m hm
  have hphase := h.phase
  simp only [Phase] at hphase
  simp only [needs] at hlen
  split at hphase
  · next hs =>
    have := headerSize_le_size m
    simp only [hs] at hlen
    omega
  · next hs =>
    obtain ⟨_, m', hm', _, _, hmlen⟩ := hphase
    cases hm.symm.trans hm'
    simp only [hs, hmlen] at hlen
    exact hlen
  · exact hphase.elim

/-- More bytes are needed than a low-water mark can ask for, exactly inside a long payload. -/
theorem Expects.endsInLongBody_iff (done : List Message) (h : Expects todo rest g)
    (hlen : g.channel.inputEvb.length < g.needs) :
    EndsInLongBody (done ++ todo) (sizeAll done + g.channel.inputEvb.length) ↔
      0xffff < g.needs := by
  rw [endsInLongBody_append (h.isPartial hlen)]
  have hphase := h.phase
  simp only [Phase] at hphase
  split at hphase
  · next hs =>
    simp only [needs, hs] at hlen ⊢
    constructor
    · rintro ⟨hle, -⟩
      omega
    · intro hlong
      simp [headerSize] at hlong
  · next hs =>
    obtain ⟨hle, m, hm, _, _, hmlen⟩ := hphase
    simp only [needs, hs, hmlen]
    constructor
    · rintro ⟨-, m', hm', hlong⟩
      cases hm.symm.trans hm'
      exact hlong
    · intro hlong
      exact ⟨hle, m, hm, hlong⟩
  · exact hphase.elim

theorem Idle.recvd {ms : List Message} {n : ℕ} (h : Idle ms n rest g) :
    g.recvd = (complete ms n).map asRecvMsg := by
  obtain ⟨done, todo, rfl, rfl, hrecvd, hexp, hlen, _⟩ := h
  rw [complete_append (hexp.isPartial hlen), hrecvd]

/-- Bytes from the socket are appended to those in the buffer. -/
def appended (bs : List UInt8) (g : GenericMessageChannel) : GenericMessageChannel :=
  { g with channel := { g.channel with inputEvb := g.channel.inputEvb ++ bs } }

theorem Expects.appended {bs : List UInt8} (h : Expects todo (bs ++ rest) g) :
    Expects todo rest (g.appended bs) := by
  refine ⟨by simpa [GenericMessageChannel.appended] using h.stream, ?_, h.idle⟩
  have hphase := h.phase
  simp only [Phase, GenericMessageChannel.appended] at hphase ⊢
  split at hphase
  · exact hphase
  · obtain ⟨hle, hm⟩ := hphase
    refine ⟨?_, hm⟩
    rw [List.length_append]
    omega
  · exact hphase

/-- A read without a request to drop. -/
theorem readcb_of_idle {bs : List UInt8} (h : g.channel.inputDrop.numRemaining = 0)
    (hne : bs ≠ []) :
    readcb g bs = if g.channel.readLwMark ≤ (g.appended bs).channel.inputEvb.length
      then consumeInput (g.appended bs) else .ok (g.appended bs) := by
  rw [readcb, observer.onSocketReadcb_of_idle h hne]
  by_cases hle : g.channel.readLwMark ≤ g.channel.inputEvb.length + bs.length
  · simp [StreamObserver.evbufferRead, observer, GenericMessageChannel.appended, hle]
  · simp [StreamObserver.evbufferRead, observer, GenericMessageChannel.appended, hle]

/-- The bytes that a delivery takes out of the buffer are those of the messages. -/
theorem Expects.length_eq {g' : GenericMessageChannel} {done todo' : List Message}
    (h : Expects (done ++ todo') rest g) (h' : Expects todo' rest g') :
    g.channel.inputEvb.length = sizeAll done + g'.channel.inputEvb.length := by
  have hlength := congrArg List.length h.stream
  have hlength' := congrArg List.length h'.stream
  rw [length_encodeAll, List.length_append] at hlength hlength'
  rw [sizeAll_append] at hlength
  omega

/-- **One read.**  It fails on the low-water mark when it ends inside a long payload, and
else leads to the state of the bytes read so far. -/
theorem Idle.readcb {ms : List Message} {n : ℕ} {bs : List UInt8}
    (h : Idle ms n (bs ++ rest) g) (hne : bs ≠ []) :
    (EndsInLongBody ms (n + bs.length) ∧ readcb g bs = .error (.channel .lowMark)) ∨
    (¬ EndsInLongBody ms (n + bs.length) ∧
      ∃ g', readcb g bs = .ok g' ∧ Idle ms (n + bs.length) rest g') := by
  obtain ⟨done, todo, rfl, rfl, hrecvd, hexp, hlen, hlw, hneeds⟩ := h
  have happ := hexp.appended
  have hcount : sizeAll done + g.channel.inputEvb.length + bs.length =
      sizeAll done + (g.appended bs).channel.inputEvb.length := by
    simp only [GenericMessageChannel.appended, List.length_append]
    omega
  rw [readcb_of_idle hexp.idle hne, hcount]
  by_cases hcall : g.channel.readLwMark ≤ (g.appended bs).channel.inputEvb.length
  · -- the channel is told of the bytes
    rw [if_pos hcall]
    have hturns : (g.appended bs).turns ≤ 2 * (g.appended bs).channel.inputEvb.length + 2 := by
      simp only [turns]
      split <;> omega
    obtain ⟨done', todo', g', rfl, hloop, hexp', hlen', hrecvd'⟩ := happ.consumeLoop hturns
    have hconsume : consumeInput (g.appended bs) = GenericMessageChannel.updateReadWatermark g' := by
      simp [consumeInput, hloop]
    have hsize : sizeAll done + (g.appended bs).channel.inputEvb.length =
        sizeAll (done ++ done') + g'.channel.inputEvb.length := by
      rw [happ.length_eq hexp', sizeAll_append]
      omega
    have hends := hexp'.endsInLongBody_iff (done ++ done') hlen'
    rw [hconsume, hexp'.updateReadWatermark hlen', hsize, ← List.append_assoc, hends]
    by_cases hlong : 0xffff < g'.needs
    · exact .inl ⟨hlong, if_neg (Nat.not_le.mpr hlong)⟩
    · have hle : g'.needs ≤ 0xffff := Nat.not_lt.mp hlong
      refine .inr ⟨hlong, _, if_pos hle, done ++ done', todo', rfl, rfl, ?_,
        ⟨hexp'.stream, hexp'.phase, hexp'.idle⟩, hlen', le_rfl, hle⟩
      show g'.recvd = _
      rw [hrecvd', List.map_append, ← hrecvd]
      rfl
  · -- there are too few bytes, and the low-water mark stays as it was
    rw [if_neg hcall]
    have hlen' : (g.appended bs).channel.inputEvb.length < (g.appended bs).needs :=
      Nat.lt_of_lt_of_le (Nat.not_le.mp hcall) hlw
    refine .inr ⟨?_, _, rfl, done, todo, rfl, rfl, hrecvd, happ, hlen', hlw, hneeds⟩
    rw [happ.endsInLongBody_iff done hlen']
    exact Nat.not_lt.mpr hneeds

/-! ### All reads -/

/-- What the sender has put on the wire. -/
theorem sendMsg_outputEvb (ch : TcpChannel) (m : Message) :
    (sendMsg ch m).outputEvb = ch.outputEvb ++ m.encode := by
  by_cases hlen : m.payload.length = 0
  · have hnil : m.payload = [] := List.eq_nil_of_length_eq_zero hlen
    simp [sendMsg, sendHeader, encode, hnil]
  · simp [sendMsg, sendHeader, encode, hlen]

theorem foldl_sendMsg_outputEvb (ms : List Message) (ch : TcpChannel) :
    (ms.foldl sendMsg ch).outputEvb = ch.outputEvb ++ encodeAll ms := by
  induction ms generalizing ch with
  | nil => simp [encodeAll]
  | cons m ms ih =>
    rw [List.foldl_cons, ih, sendMsg_outputEvb, encodeAll_cons, List.append_assoc]

/-- After the reads `chunks` no assertion has failed, and the messages that have been read to
their last byte are delivered. -/
def Delivers (ms : List Message) (chunks : List (List UInt8)) : Prop :=
  ∃ g, exec GenericMessageChannel.readcb {} chunks = .ok g ∧
    g.recvd = (complete ms chunks.flatten.length).map asRecvMsg

theorem Idle.not_endsInLongBody {ms : List Message} {n : ℕ} (h : Idle ms n rest g) :
    ¬ EndsInLongBody ms n := by
  obtain ⟨done, todo, rfl, rfl, _, hexp, hlen, _, hneeds⟩ := h
  rw [hexp.endsInLongBody_iff done hlen]
  exact Nat.not_lt.mpr hneeds

/-- Reads none of which ends inside a long payload fail no assertion. -/
theorem Idle.exec {ms : List Message} {n : ℕ} {chunks : List (List UInt8)}
    (h : Idle ms n (chunks.flatten ++ rest) g) (hne : ∀ c ∈ chunks, c ≠ [])
    (hends : ∀ k, ¬ EndsInLongBody ms (n + (chunks.take k).flatten.length)) :
    ∃ g', exec GenericMessageChannel.readcb g chunks = .ok g' ∧
      Idle ms (n + chunks.flatten.length) rest g' := by
  induction chunks generalizing g n with
  | nil => exact ⟨g, rfl, h⟩
  | cons c chunks ih =>
    rw [List.flatten_cons, List.append_assoc] at h
    rcases h.readcb (hne c (by simp)) with ⟨hlong, -⟩ | ⟨-, g', hread, hidle⟩
    · have hone := hends 1
      simp only [List.take_succ_cons, List.take_zero, List.flatten_singleton] at hone
      exact absurd hlong hone
    · have hrest : ∀ k, ¬ EndsInLongBody ms (n + c.length + (chunks.take k).flatten.length) := by
        intro k
        have hk := hends (k + 1)
        rw [List.take_succ_cons, List.flatten_cons, List.length_append, ← Nat.add_assoc] at hk
        exact hk
      obtain ⟨g'', hexec, hidle'⟩ := ih hidle (fun c' hc' => hne c' (by simp [hc'])) hrest
      refine ⟨g'', ?_, ?_⟩
      · simp only [Checked.exec, hread, ok_bind, hexec]
      · rw [List.flatten_cons, List.length_append, ← Nat.add_assoc]
        exact hidle'

/-- When no assertion has failed, no read has ended inside a long payload. -/
theorem Idle.not_endsInLongBody_of_exec {ms : List Message} {n : ℕ}
    {chunks : List (List UInt8)} {g' : GenericMessageChannel}
    (h : Idle ms n (chunks.flatten ++ rest) g) (hne : ∀ c ∈ chunks, c ≠ [])
    (hexec : Checked.exec GenericMessageChannel.readcb g chunks = .ok g') (k : ℕ) :
    ¬ EndsInLongBody ms (n + (chunks.take k).flatten.length) := by
  induction chunks generalizing g n k with
  | nil => simpa using h.not_endsInLongBody
  | cons c chunks ih =>
    cases k with
    | zero => simpa using h.not_endsInLongBody
    | succ k =>
      rw [List.flatten_cons, List.append_assoc] at h
      obtain ⟨g₁, hread, hexec⟩ := bind_eq_ok.mp hexec
      rcases h.readcb (hne c (by simp)) with ⟨-, herr⟩ | ⟨-, g₂, hread', hidle⟩
      · rw [herr] at hread
        cases hread
      · cases hread.symm.trans hread'
        rw [List.take_succ_cons, List.flatten_cons, List.length_append, ← Nat.add_assoc]
        exact ih hidle (fun c' hc' => hne c' (by simp [hc'])) hexec k

/-- **The messages that were sent are delivered, each as soon as its last byte has been read,
exactly when no read ends behind the header and before the end of a message whose size is above
`0xffff`.** -/
theorem delivers_iff (ms : List Message) (chunks : List (List UInt8))
    (hne : ∀ c ∈ chunks, c ≠ []) (hwire : chunks.flatten = (ms.foldl sendMsg {}).outputEvb) :
    ((∃ g, exec GenericMessageChannel.readcb {} chunks = .ok g ∧ g.recvd = ms.map asRecvMsg) ∧
      ∀ k, Delivers ms (chunks.take k)) ↔
    ∀ k, ¬ EndsInLongBody ms (chunks.take k).flatten.length := by
  rw [foldl_sendMsg_outputEvb] at hwire
  have hall : chunks.flatten = encodeAll ms := hwire
  have hidle : Idle ms 0 (chunks.flatten ++ []) {} := by
    rw [List.append_nil, hall]
    exact idle_new ms
  constructor
  · rintro ⟨⟨g, hexec, -⟩, -⟩ k
    simpa using hidle.not_endsInLongBody_of_exec hne hexec k
  · intro hends
    have hdel : ∀ k, Delivers ms (chunks.take k) := by
      intro k
      have hk : Idle ms 0 ((chunks.take k).flatten ++ (chunks.drop k).flatten) {} := by
        rw [← List.flatten_append, List.take_append_drop]
        simpa using hidle
      obtain ⟨g, hexec, hg⟩ := hk.exec (fun c hc => hne c (List.mem_of_mem_take hc)) (by
        intro j
        rw [List.take_take, Nat.zero_add]
        exact hends _)
      rw [Nat.zero_add] at hg
      exact ⟨g, hexec, hg.recvd⟩
    obtain ⟨g, hexec, hrecvd⟩ := hdel chunks.length
    rw [List.take_length] at hexec hrecvd
    rw [hall, complete_length] at hrecvd
    exact ⟨⟨g, hexec, hrecvd⟩, hdel⟩

/-- A short message, read in two parts. -/
theorem delivers_short :
    let m : Message := ⟨1, 7, [65, 66], by decide, by decide⟩
    (∃ g, exec GenericMessageChannel.readcb {} [m.encode.take 3, m.encode.drop 3] = .ok g ∧
        g.recvd = [m.asRecvMsg]) ∧
      ∀ k, Delivers [m] ([m.encode.take 3, m.encode.drop 3].take k) := by
  intro m
  refine (delivers_iff [m] [m.encode.take 3, m.encode.drop 3] (by decide) rfl).mpr fun k => ?_
  rcases k with _ | _ | k
  · simp [EndsInLongBody, m, size, headerSize]
  · simp [EndsInLongBody, m, size, headerSize, encode, htonl, htons]
  · simp [EndsInLongBody, m, size, headerSize, encode, htonl, htons]

/-- A read of just the header of a long message fails. -/
theorem readcb_header {m : Message} (hlong : 0xffff < m.size) :
    GenericMessageChannel.readcb {} (m.encode.take headerSize) = .error (.channel .lowMark) := by
  have hidle : Idle [m] 0 (m.encode.take headerSize ++ m.encode.drop headerSize) {} := by
    rw [List.take_append_drop]
    simpa [encodeAll] using idle_new [m]
  have hlen : (m.encode.take headerSize).length = headerSize := by
    rw [List.length_take, m.length_encode]
    exact Nat.min_eq_left m.headerSize_le_size
  have hne : m.encode.take headerSize ≠ [] := by
    intro hnil
    rw [hnil] at hlen
    cases hlen
  rcases hidle.readcb hne with ⟨-, herr⟩ | ⟨hends, -⟩
  · exact herr
  · refine absurd ?_ hends
    have hlt : ¬ m.size ≤ 0 + headerSize := by
      simp only [headerSize]
      omega
    rw [hlen, EndsInLongBody, if_neg hlt]
    exact ⟨by omega, hlong⟩

/-- A message whose payload has 65529 bytes. -/
def longMessage : Message :=
  { type := 1, id := 0, payload := List.replicate 65529 65
    id_lt := by decide
    length_le := by rw [List.length_replicate]; decide }

/-- **The message is not delivered when the first read has its header only.** -/
theorem longMessage_fails :
    [longMessage.encode.take 7, longMessage.encode.drop 7].flatten =
        ([longMessage].foldl sendMsg {}).outputEvb ∧
      Checked.exec GenericMessageChannel.readcb {}
        [longMessage.encode.take 7, longMessage.encode.drop 7] = .error (.channel .lowMark) := by
  have hlen : longMessage.payload.length = 65529 := List.length_replicate
  have hlong : 0xffff < longMessage.size := by
    rw [size, hlen]
    decide
  constructor
  · rw [foldl_sendMsg_outputEvb]
    simp [encodeAll]
  · have hread := readcb_header hlong
    simp only [headerSize] at hread
    simp only [Checked.exec, hread, error_bind]

end GenericMessageChannel

end ShadowBrowser
