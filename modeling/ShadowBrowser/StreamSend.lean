/-
What the streams of a mux channel send.

The bytes that are written to a stream wait in `inward_buf_` until spdylay reads them.  When
there is nothing to read, the read callback has spdylay defer the stream, until there is.

* `Stream` — a stream, with what spdylay knows of its data;
* `Mux`, `step` — the streams of a channel, and what can happen to them;
* `Sends` — what is kept: the bytes in their order, and that a deferred stream has nothing
  to send;
* `readAll_drained` — spdylay is given all there is if it keeps reading;
* **`mux_sends`** — each stream sends what is written to it, and is never left asleep.
-/
import Mathlib.Data.Nat.Notation
import Mathlib.Logic.Function.Basic
import ShadowBrowser.Runs

namespace ShadowBrowser.Streams

open Checked Runs

/-- The assertions on a stream. -/
inductive StreamCheck
  | inserted
  | resume
  | eofTwice
  deriving DecidableEq, Repr

/-- `StreamState`, of what is to be sent. -/
structure StreamState where
  inwardBuf : List UInt8 := []
  inwardDeferred : Bool := false
  inwardHasSeenEof : Bool := false
  deriving DecidableEq, Repr

/-- spdylay's side of a stream: whether it has been given a data provider, whether it has been told to
defer the stream and not yet to resume it, and whether it has been told the end of its data.  `handed`
are the bytes it has read. -/
structure DataSource where
  submitted : Bool := false
  deferred : Bool := false
  ended : Bool := false
  handed : List UInt8 := []
  deriving DecidableEq, Repr

/-- A stream; `written` are all the bytes that were written to it, and `eofCalled` is whether
`set_write_eof` has been called. -/
structure Stream where
  state : StreamState := {}
  source : DataSource := {}
  written : List UInt8 := []
  eofCalled : Bool := false
  deriving DecidableEq, Repr

namespace Stream

/-- A deferred stream is resumed.  spdylay refuses to resume one that is not deferred. -/
def resume (st : Stream) : Except StreamCheck Stream :=
  if st.state.inwardDeferred then do
    check (st.source.deferred = true) .resume
    return { st with
      source := { st.source with deferred := false }
      state := { st.state with inwardDeferred := false } }
  else return st

/-- `write_buffer` -/
def writeBuffer (bs : List UInt8) (st : Stream) : Except StreamCheck Stream :=
  resume { st with
    state := { st.state with inwardBuf := st.state.inwardBuf ++ bs }
    written := st.written ++ bs }

/-- `set_write_eof` -/
def setWriteEof (st : Stream) : Except StreamCheck Stream := do
  check (st.state.inwardHasSeenEof = false) .eofTwice
  resume { st with state := { st.state with inwardHasSeenEof := true }, eofCalled := true }

end Stream

/-- What the read callback returns. -/
inductive ReadResult
  | data (bs : List UInt8)
  | deferred
  | eof
  deriving DecidableEq, Repr

/-- `_on_spdylay_data_read_cb` -/
def onSpdylayDataReadCb (length : ℕ) (state : StreamState) : StreamState × ReadResult :=
  let bs := state.inwardBuf.take length
  if bs ≠ [] then ({ state with inwardBuf := state.inwardBuf.drop length }, .data bs)
  else if state.inwardHasSeenEof = false then ({ state with inwardDeferred := true }, .deferred)
  else (state, .eof)

/-- What spdylay does with it. -/
def DataSource.take (source : DataSource) : ReadResult → DataSource
  | .data bs => { source with handed := source.handed ++ bs }
  | .deferred => { source with deferred := true }
  | .eof => { source with ended := true }

/-- spdylay reads up to `length` bytes of a stream. -/
def Stream.read (length : ℕ) (st : Stream) : Stream :=
  let p := onSpdylayDataReadCb length st.state
  { st with state := p.1, source := st.source.take p.2 }

/-- spdylay calls the callback of a stream that has one, until it is deferred or at its end. -/
def Stream.Reading (st : Stream) : Prop :=
  st.source.submitted = true ∧ st.source.deferred = false ∧ st.source.ended = false

instance (st : Stream) : Decidable st.Reading := inferInstanceAs (Decidable (_ ∧ _))

/-- `stream_states_`, by stream ids, with spdylay's streams. -/
abbrev Mux := ℕ → Option Stream

/-- What can happen: `init` and `submit` are `_init_stream_state` and `_init_stream_data_provider`, and
`read` is a call of the read callback. -/
inductive StreamEvent
  | init (sid : ℕ)
  | submit (sid : ℕ)
  | write (sid : ℕ) (bs : List UInt8)
  | eof (sid : ℕ)
  | read (sid : ℕ) (length : ℕ)
  | close (sid : ℕ)
  deriving DecidableEq, Repr

namespace Mux

/-- What can happen in a state: spdylay gives its streams new ids, `set_write_eof` is called once, and
the callback is called for at least one byte. -/
def Enabled (m : Mux) : StreamEvent → Prop
  | .init sid => m sid = none
  | .submit sid => ∃ st ∈ m sid, st.source.submitted = false
  | .write _ _ => True
  | .eof sid => ∀ st ∈ m sid, st.eofCalled = false
  | .read sid length => 0 < length ∧ ∃ st ∈ m sid, st.Reading
  | .close _ => True

instance (m : Mux) (e : StreamEvent) : Decidable (Enabled m e) := by
  cases e <;> simp only [Enabled] <;> infer_instance

/-- A call on a stream.  If the id is not known, it returns an error and does nothing. -/
def onStream (m : Mux) (sid : ℕ) (f : Stream → Except StreamCheck Stream) : Except StreamCheck Mux :=
  match m sid with
  | none => .ok m
  | some st => do
    let st' ← f st
    return Function.update m sid (some st')

/-- One event. -/
def step (m : Mux) : StreamEvent → Except StreamCheck Mux
  | .init sid => do
    check ((m sid).isNone = true) .inserted
    return Function.update m sid (some {})
  | .submit sid =>
    m.onStream sid fun st => .ok { st with source := { st.source with submitted := true } }
  | .write sid bs => m.onStream sid (·.writeBuffer bs)
  | .eof sid => m.onStream sid (·.setWriteEof)
  | .read sid length => m.onStream sid fun st => .ok (st.read length)
  | .close sid => .ok (Function.update m sid none)

/-- A step that is taken. -/
def Step (m : Mux) (e : StreamEvent) (m' : Mux) : Prop := Enabled m e ∧ step m e = .ok m'

end Mux

/-! ### What is kept -/

/-- What holds of a stream.

* `bytes` — what spdylay has read, and what waits, is what was written, in this order;
* `deferred` — the flag is what spdylay was told;
* `quiet` — a deferred stream has nothing to send, not even its end;
* `seenEof`, `ended` — the end is known from `set_write_eof`, and told only then. -/
structure Sends (st : Stream) : Prop where
  bytes : st.source.handed ++ st.state.inwardBuf = st.written
  deferred : st.state.inwardDeferred = st.source.deferred
  quiet : st.state.inwardDeferred = true → st.state.inwardBuf = [] ∧ st.eofCalled = false
  seenEof : st.state.inwardHasSeenEof = st.eofCalled
  ended : st.source.ended = true → st.eofCalled = true

variable {st st' : Stream} {m m' : Mux} {sid : ℕ}

/-- A stream that may have been deferred, and has something to send now, is resumed. -/
theorem resume_sends (st : Stream) (bytes : st.source.handed ++ st.state.inwardBuf = st.written)
    (deferred : st.state.inwardDeferred = st.source.deferred)
    (seenEof : st.state.inwardHasSeenEof = st.eofCalled)
    (ended : st.source.ended = true → st.eofCalled = true) :
    ∃ st', st.resume = .ok st' ∧ Sends st' ∧ st'.source.ended = st.source.ended := by
  cases hdef : st.state.inwardDeferred with
  | false =>
    refine ⟨st, ?_, ⟨bytes, deferred, fun htrue => ?_, seenEof, ended⟩, rfl⟩
    · rw [Stream.resume, if_neg (by rw [hdef]; exact Bool.false_ne_true)]
      rfl
    · rw [hdef] at htrue
      cases htrue
  | true =>
    refine ⟨{ st with
      source := { st.source with deferred := false }
      state := { st.state with inwardDeferred := false } }, ?_,
      ⟨bytes, rfl, fun htrue => absurd htrue Bool.false_ne_true, seenEof, ended⟩, rfl⟩
    rw [Stream.resume, if_pos hdef, check_pos (deferred.symm.trans hdef), ok_bind]
    rfl

theorem Sends.writeBuffer (h : Sends st) (bs : List UInt8) :
    ∃ st', st.writeBuffer bs = .ok st' ∧ Sends st' ∧ st'.source.ended = st.source.ended := by
  refine resume_sends ({ st with
    state := { st.state with inwardBuf := st.state.inwardBuf ++ bs }
    written := st.written ++ bs }) ?_ h.deferred h.seenEof h.ended
  show st.source.handed ++ (st.state.inwardBuf ++ bs) = st.written ++ bs
  rw [← List.append_assoc, h.bytes]

theorem Sends.setWriteEof (h : Sends st) (hfirst : st.eofCalled = false) :
    ∃ st', st.setWriteEof = .ok st' ∧ Sends st' ∧ st'.source.ended = st.source.ended := by
  rw [Stream.setWriteEof, check_pos (h.seenEof.trans hfirst), ok_bind]
  exact resume_sends ({ st with
    state := { st.state with inwardHasSeenEof := true }, eofCalled := true })
    h.bytes h.deferred rfl fun _ => rfl

/-- What a call of the read callback does: it hands over some bytes, or has the stream deferred, or
tells the end. -/
theorem read_cases (st : Stream) {length : ℕ} (hpos : 0 < length) :
    (st.state.inwardBuf ≠ [] ∧ st.read length = { st with
      state := { st.state with inwardBuf := st.state.inwardBuf.drop length }
      source := { st.source with handed := st.source.handed ++ st.state.inwardBuf.take length } }) ∨
    (st.state.inwardBuf = [] ∧ st.state.inwardHasSeenEof = false ∧ st.read length = { st with
      state := { st.state with inwardDeferred := true }
      source := { st.source with deferred := true } }) ∨
    (st.state.inwardBuf = [] ∧ st.state.inwardHasSeenEof = true ∧ st.read length = { st with
      source := { st.source with ended := true } }) := by
  by_cases hbuf : st.state.inwardBuf = []
  · have htake : ¬ st.state.inwardBuf.take length ≠ [] := by
      rw [hbuf, List.take_nil]
      exact fun h => h rfl
    cases heof : st.state.inwardHasSeenEof with
    | false =>
      refine .inr (.inl ⟨hbuf, rfl, ?_⟩)
      simp only [Stream.read, onSpdylayDataReadCb]
      rw [if_neg htake, if_pos heof]
      rfl
    | true =>
      refine .inr (.inr ⟨hbuf, rfl, ?_⟩)
      simp only [Stream.read, onSpdylayDataReadCb]
      rw [if_neg htake, if_neg (by rw [heof]; decide)]
      rfl
  · have htake : st.state.inwardBuf.take length ≠ [] := fun hnil =>
      (List.take_eq_nil_iff.mp hnil).elim (fun h => absurd h (Nat.ne_of_gt hpos)) hbuf
    refine .inl ⟨hbuf, ?_⟩
    simp only [Stream.read, onSpdylayDataReadCb]
    rw [if_pos htake]
    rfl

/-- The callback keeps the bytes in order, and the end is told when there are no more. -/
theorem Sends.read {length : ℕ} (h : Sends st) (hpos : 0 < length) (hreading : st.Reading) :
    Sends (st.read length) ∧ ((st.read length).source.ended = true →
      (st.read length).source.handed = st.written ∧ st.eofCalled = true) := by
  obtain ⟨-, hresumed, hopen⟩ := hreading
  rcases read_cases st hpos with ⟨-, heq⟩ | ⟨hbuf, heof, heq⟩ | ⟨hbuf, heof, heq⟩
  · rw [heq]
    refine ⟨⟨?_, h.deferred, fun hdef => ?_, h.seenEof, h.ended⟩, fun hend => ?_⟩
    · show st.source.handed ++ st.state.inwardBuf.take length ++ st.state.inwardBuf.drop length = _
      rw [List.append_assoc, List.take_append_drop, h.bytes]
    · exact absurd ((h.deferred.symm.trans hdef).symm.trans hresumed) (by decide)
    · exact absurd (hend.symm.trans hopen) (by decide)
  · rw [heq]
    refine ⟨⟨h.bytes, rfl, fun _ => ⟨hbuf, h.seenEof.symm.trans heof⟩, h.seenEof, h.ended⟩,
      fun hend => ?_⟩
    exact absurd (hend.symm.trans hopen) (by decide)
  · have hcalled : st.eofCalled = true := h.seenEof.symm.trans heof
    rw [heq]
    refine ⟨⟨h.bytes, h.deferred, h.quiet, h.seenEof, fun _ => hcalled⟩, fun _ => ⟨?_, hcalled⟩⟩
    show st.source.handed = _
    rw [← h.bytes, hbuf, List.append_nil]

/-! ### Reading until there is nothing left -/

/-- spdylay keeps calling the callback, with these limits, until the stream is deferred or at its
end. -/
def readAll : List ℕ → Stream → Stream
  | [], st => st
  | length :: lengths, st => if st.Reading then readAll lengths (st.read length) else st

/-- **Nothing is left asleep**: after enough calls spdylay has all that was written, and has been told
to wait if there may be more, and the end if not. -/
theorem readAll_drained {lengths : List ℕ} (h : Sends st) (hreading : st.Reading)
    (hpos : ∀ length ∈ lengths, 0 < length) (hlen : st.state.inwardBuf.length < lengths.length) :
    (readAll lengths st).source.handed = st.written ∧
      (readAll lengths st).source.deferred = !st.eofCalled ∧
      (readAll lengths st).source.ended = st.eofCalled := by
  induction lengths generalizing st with
  | nil => exact absurd hlen (Nat.not_lt_zero _)
  | cons length lengths ih =>
    have hpos₀ := hpos length List.mem_cons_self
    have hsends := (h.read hpos₀ hreading).1
    have hstop : ∀ {st : Stream}, ¬ st.Reading → readAll lengths st = st := by
      intro st hnot
      cases lengths with
      | nil => rfl
      | cons l ls => rw [readAll, if_neg hnot]
    rw [readAll, if_pos hreading]
    obtain ⟨hsubmitted, hresumed, hopen⟩ := hreading
    rcases read_cases st hpos₀ with ⟨hbuf, heq⟩ | ⟨hbuf, heof, heq⟩ | ⟨hbuf, heof, heq⟩
    · -- a call that hands over some bytes leaves fewer of them
      rw [heq] at hsends ⊢
      refine ih hsends ⟨hsubmitted, hresumed, hopen⟩
        (fun l hl => hpos l (List.mem_cons_of_mem _ hl)) ?_
      have hlen' := List.length_pos_iff.mpr hbuf
      simp only [List.length_drop, List.length_cons] at hlen ⊢
      omega
    · have hcalled : st.eofCalled = false := h.seenEof.symm.trans heof
      rw [heq, hstop fun hr => absurd hr.2.1.symm Bool.false_ne_true, hcalled]
      refine ⟨?_, rfl, hopen⟩
      rw [← h.bytes, hbuf, List.append_nil]
    · have hcalled : st.eofCalled = true := h.seenEof.symm.trans heof
      rw [heq, hstop fun hr => absurd hr.2.2.symm Bool.false_ne_true, hcalled]
      refine ⟨?_, hresumed, rfl⟩
      rw [← h.bytes, hbuf, List.append_nil]

/-! ### All streams, in all runs -/

namespace Mux

/-- All streams of the channel. -/
def AllSend (m : Mux) : Prop := ∀ sid, ∀ st ∈ m sid, Sends st

theorem AllSend.update {st : Stream} (h : AllSend m) (hst : Sends st) :
    AllSend (Function.update m sid (some st)) := by
  intro sid' st' hst'
  by_cases heq : sid' = sid
  · subst heq
    rw [Function.update_self] at hst'
    cases hst'
    exact hst
  · rw [Function.update_of_ne heq] at hst'
    exact h sid' st' hst'

/-- A call on a stream changes no other one. -/
theorem AllSend.onStream {f : Stream → Except StreamCheck Stream} (h : AllSend m)
    (hf : ∀ st ∈ m sid, ∃ st', f st = .ok st' ∧ Sends st') :
    ∃ m', m.onStream sid f = .ok m' ∧ AllSend m' := by
  cases hst : m sid with
  | none => exact ⟨m, by rw [Mux.onStream, hst], h⟩
  | some st =>
    obtain ⟨st', heq, hsends⟩ := hf st hst
    refine ⟨Function.update m sid (some st'), ?_, h.update hsends⟩
    rw [Mux.onStream, hst]
    show (f st >>= _) = _
    rw [heq]
    rfl

/-- **Every event succeeds**, and all streams keep what holds of them. -/
theorem AllSend.step {e : StreamEvent} (h : AllSend m) (hen : Enabled m e) :
    ∃ m', Mux.step m e = .ok m' ∧ AllSend m' := by
  -- each event is about one stream, and the others stay what they are
  cases e with
  | init sid =>
    have hnone : m sid = none := hen
    refine ⟨Function.update m sid (some {}), ?_,
      h.update ⟨rfl, rfl, fun hdef => absurd hdef Bool.false_ne_true, rfl, fun hend => hend⟩⟩
    rw [Mux.step, check_pos (by rw [hnone]; rfl), ok_bind]
    rfl
  | submit sid =>
    refine h.onStream fun st hst => ⟨_, rfl, ?_⟩
    have hs := h sid st hst
    exact ⟨hs.bytes, hs.deferred, hs.quiet, hs.seenEof, hs.ended⟩
  | write sid bs =>
    refine h.onStream fun st hst => ?_
    obtain ⟨st', heq, hsends, -⟩ := (h sid st hst).writeBuffer bs
    exact ⟨st', heq, hsends⟩
  | eof sid =>
    refine h.onStream fun st hst => ?_
    obtain ⟨st', heq, hsends, -⟩ := (h sid st hst).setWriteEof (hen st hst)
    exact ⟨st', heq, hsends⟩
  | read sid length =>
    obtain ⟨hpos, st₀, hst₀, hreading⟩ := hen
    refine h.onStream fun st hst => ⟨_, rfl, ?_⟩
    obtain rfl : st₀ = st := Option.some.inj (hst₀.symm.trans hst)
    exact ((h sid st₀ hst).read hpos hreading).1
  | close sid =>
    refine ⟨_, rfl, fun sid' st hst => ?_⟩
    by_cases heq : sid' = sid
    · subst heq
      rw [Function.update_self] at hst
      cases hst
    · rw [Function.update_of_ne heq] at hst
      exact h sid' st hst

/-- At the beginning there are no streams. -/
def empty : Mux := fun _ => none

theorem allSend_of_run {es : List StreamEvent} (h : Run Step empty es m) : AllSend m := by
  refine h.invariant ?_ fun sid st hst => ?_
  · rintro m e m' hall ⟨hen, hstep⟩
    obtain ⟨m₁, heq, hnext⟩ := hall.step hen
    cases hstep.symm.trans heq
    exact hnext
  · cases hst

/-- **What the streams send.**  In every state that can be reached, of each stream spdylay has read the
first bytes that were written, in their order; the stream is deferred exactly when the flag says so, and
then has nothing to send and its end is not known; a call of the callback that tells the end tells it
when all bytes have been read and `set_write_eof` has been called; and if spdylay keeps calling, it
reads all that was written.  No assertion fails. -/
theorem mux_sends {es : List StreamEvent} (h : Run Step empty es m) :
    (∀ sid, ∀ st ∈ m sid,
      st.source.handed <+: st.written ∧
      (st.source.ended = true → st.eofCalled = true) ∧
      (st.state.inwardDeferred = true ↔ st.source.deferred = true) ∧
      (st.state.inwardDeferred = true → st.state.inwardBuf = [] ∧ st.eofCalled = false) ∧
      (st.Reading → ∀ length, 0 < length → (st.read length).source.ended = true →
        (st.read length).source.handed = st.written ∧ st.eofCalled = true) ∧
      (st.Reading → ∀ lengths : List ℕ, (∀ length ∈ lengths, 0 < length) →
        st.state.inwardBuf.length < lengths.length →
        (readAll lengths st).source.handed = st.written ∧
          (readAll lengths st).source.deferred = !st.eofCalled ∧
          (readAll lengths st).source.ended = st.eofCalled)) ∧
      ∀ e, Enabled m e → ∃ m', step m e = .ok m' := by
  have hall := allSend_of_run h
  refine ⟨fun sid st hst => ?_, fun e hen => ?_⟩
  · have hs := hall sid st hst
    refine ⟨⟨_, hs.bytes⟩, hs.ended, by rw [hs.deferred], hs.quiet, fun hreading length hpos =>
      (hs.read hpos hreading).2, fun hreading lengths hpos hlen =>
      readAll_drained hs hreading hpos hlen⟩
  · obtain ⟨m', heq, -⟩ := hall.step hen
    exact ⟨m', heq⟩

/-- A stream that is deferred at once, written to twice, and read until its end. -/
def traffic : List StreamEvent :=
  [.init 1, .submit 1, .read 1 4096, .write 1 [7, 8, 9], .read 1 2, .write 1 [10], .eof 1, .read 1 2,
   .read 1 4096]

/-- spdylay has read all, and knows the end. -/
theorem mux_sends_traffic :
    ∃ m, Run Step empty traffic m ∧ ∃ st ∈ m 1,
      st.source.handed <+: st.written ∧ st.source.handed = [7, 8, 9, 10] ∧
        st.source.ended = true := by
  obtain ⟨m, hexec, hm⟩ := exists_of_returns
    (x := exec (guardedStep Enabled StreamCheck.resume step) empty traffic)
    (p := fun m => (m 1).any fun st : Stream =>
      decide (st.source.handed = [7, 8, 9, 10] ∧ st.source.ended = true))
    (by decide +kernel)
  have hrun : Run Step empty traffic m := run_of_exec_guarded hexec
  obtain ⟨st, hst, htrue⟩ := (Option.any_eq_true _ _).mp hm
  exact ⟨m, hrun, st, hst, ((mux_sends hrun).1 1 st hst).1, of_decide_eq_true htrue⟩

end Mux

end ShadowBrowser.Streams
