/-
The client handlers of the client-side proxy, and the streams of its mux channel.

A handler asks for a stream and is told its id when the mux channel assigns it, which may
be at any later time; until then the request waits with the handler as its observer.  A
handler that closes takes its leave from its stream, which it knows by that id.

* `ClientStreams`, `step` — the handlers, the requests that wait and the streams, in any
  order of events;
* `callee` — the handler that the mux channel calls back in an event;
* `Detached` — what a closed handler relies on when it is destroyed;
* `Inv.step` — while no handler closes whose request waits, a stream that is not reset is
  that of an open handler, which observes it, alone or through its `InnerOuterHandler`;
* **`closed_detached`** — so long, every closed handler is detached; the first step that
  closes a handler whose request waits leaves one that is not.
-/
import Mathlib.Data.List.Nodup
import Mathlib.Logic.Function.Basic
import ShadowBrowser.Runs
import ShadowBrowser.Socks

namespace ShadowBrowser.Socks

open Checked Runs

/-- The assertions on the way. -/
inductive StreamCheck
  | socks (e : SocksCheck)
  | okValue
  | noObserver
  | notReached
  | state
  deriving DecidableEq, Repr

/-- An observer of a stream: the `ClientHandler` with a number, or its `InnerOuterHandler`. -/
inductive StreamUser
  | handler (h : ℕ)
  | inner (h : ℕ)
  deriving DecidableEq, Repr

/-- The handler that an observer is, or is a part of. -/
def StreamUser.owner : StreamUser → ℕ
  | .handler h => h
  | .inner h => h

/-- A stream of the session: its user data, whose request it comes from, and whether a
`RST_STREAM` has been submitted for it. -/
structure SpdyStream where
  observer : Option StreamUser
  requester : ℕ
  replied : Bool := false
  reset : Bool := false
  deriving DecidableEq, Repr

/-- A `ClientHandler`, with whether its `buflo_channel_` is not null. -/
structure ProxiedClient where
  socks : ClientHandler := {}
  bufloChannel : Bool := true
  deriving DecidableEq, Repr

/-- The handlers, by their numbers, and the session of their mux channel: the handlers whose
`SYN_STREAM` has no id yet, and the streams by their ids. -/
structure ClientStreams where
  handlers : ℕ → ProxiedClient := fun _ => {}
  queued : List ℕ := []
  nextSid : ℕ := 1
  streams : ℕ → Option SpdyStream := fun _ => none

/-- What can happen: `clientBytes` to `destroy` come from the clients and the proxy, `innerDone` from
an `InnerOuterHandler`, and the others from the session. -/
inductive StreamEvent
  | clientBytes (h : ℕ) (bs : List UInt8)
  | clientEof (h : ℕ)
  | clientError (h : ℕ)
  | destroy (h : ℕ)
  | innerDone (h : ℕ)
  | assignId (h : ℕ)
  | synReply (sid : ℕ) (ok : Bool)
  | streamData (sid : ℕ)
  | streamFin (sid : ℕ)
  | streamClosed (sid : ℕ)
  deriving DecidableEq, Repr

namespace ClientStreams

/-- The handler with a number, after a change. -/
def setHandler (h : ℕ) (p : ProxiedClient) (w : ClientStreams) : ClientStreams :=
  { w with handlers := Function.update w.handlers h p }

@[simp] theorem setHandler_self (h : ℕ) (p : ProxiedClient) (w : ClientStreams) :
    (w.setHandler h p).handlers h = p := Function.update_self ..

/-- `set_stream_observer`; a stream that is gone has none. -/
def setStreamObserver (sid : ℕ) (o : Option StreamUser) (w : ClientStreams) : ClientStreams :=
  let st := (w.streams sid).map fun st => { st with observer := o }
  { w with streams := Function.update w.streams sid st }

/-- `close_stream`: the observer is cleared, and the stream is reset. -/
def closeStream (sid : ℕ) (w : ClientStreams) : ClientStreams :=
  let w := w.setStreamObserver sid none
  let st := (w.streams sid).map fun st => { st with reset := true }
  { w with streams := Function.update w.streams sid st }

/-- The part of `_close` that unregisters the handler from its stream. -/
def unregister (h : ℕ) (w : ClientStreams) : ClientStreams :=
  let p := w.handlers h
  if p.bufloChannel = true ∧ -1 < p.socks.sid then
    ((w.setStreamObserver p.socks.sid.toNat none).closeStream p.socks.sid.toNat).setHandler h
      { p with bufloChannel := false }
  else w

/-- `_close` -/
def close (h : ℕ) (w : ClientStreams) : ClientStreams :=
  let p := w.handlers h
  if p.socks.state ≠ .closed then
    (w.setHandler h { p with socks := p.socks.close }).unregister h
  else w

/-- `buflo_channel_ = nullptr`, for a stream that is closed. -/
def clearChannel (h : ℕ) (w : ClientStreams) : ClientStreams :=
  w.setHandler h { w.handlers h with bufloChannel := false }

/-- `_consume_client_input`, when the client channel of the handler delivers `bs`.  Each call of
`create_stream2` submits a `SYN_STREAM`. -/
def clientBytes (h : ℕ) (bs : List UInt8) (w : ClientStreams) : Except StreamCheck ClientStreams := do
  let p := w.handlers h
  let socks ← (ClientHandler.observer.onSocketReadcb p.socks bs).mapError .socks
  let w := { w.setHandler h { p with socks } with
    queued := w.queued ++ List.replicate (socks.asked.length - p.socks.asked.length) h }
  return if socks.state = .closed then w.unregister h else w

/-- `onEOF` and `onError`, of the client channel. -/
def clientEnds (h : ℕ) (w : ClientStreams) : Except StreamCheck ClientStreams := do
  let state := (w.handlers h).socks.state
  check (state = .readSocks5ConnectReq ∨ state = .readSocks5Greeting ∨ state = .createBufloStream) .state
  return w.close h

/-- `_on_inner_outer_handler_done` -/
def onInnerOuterHandlerDone (h : ℕ) (innerStreamAlreadyClosed : Bool) (w : ClientStreams) :
    Except StreamCheck ClientStreams := do
  check ((w.handlers h).socks.state = .forwarding) .state
  return (if innerStreamAlreadyClosed then w.clearChannel h else w).close h

/-- `_be_done`, of the `InnerOuterHandler` of a handler. -/
def beDone (h : ℕ) (innerStreamAlreadyClosed : Bool) (w : ClientStreams) :
    Except StreamCheck ClientStreams :=
  (if innerStreamAlreadyClosed then w.setStreamObserver (w.handlers h).socks.sid.toNat none else w)
    |>.onInnerOuterHandlerDone h innerStreamAlreadyClosed

/-- `onStreamClosed`, of either observer. -/
def onStreamClosed (w : ClientStreams) : StreamUser → Except StreamCheck ClientStreams
  | .handler h => do
    check ((w.handlers h).socks.state = .createBufloStream) .state
    return (w.clearChannel h).close h
  | .inner h => w.beDone h true

/-- `_on_spdylay_on_stream_close_cb` -/
def onStreamCloseCb (sid : ℕ) (st : SpdyStream) (w : ClientStreams) :
    Except StreamCheck ClientStreams := do
  let w ← (match st.observer with
    | some u => w.onStreamClosed u
    | none => .ok w)
  return { w with streams := Function.update w.streams sid none }

/-- `_on_spdylay_before_ctrl_send_cb`, for the `SYN_STREAM` of a handler.  The session has given it
the next id, and the observer it was submitted with is told. -/
def beforeCtrlSendCb (h : ℕ) (w : ClientStreams) : ClientStreams :=
  let p := w.handlers h
  let st : SpdyStream := { observer := some (.handler h), requester := h }
  { w.setHandler h { p with socks := p.socks.onStreamIdAssigned w.nextSid } with
    queued := w.queued.erase h
    nextSid := w.nextSid + 2
    streams := Function.update w.streams w.nextSid (some st) }

/-- `onStreamCreateResult`, of either observer.  The constructor of the `InnerOuterHandler` makes it
the observer of the stream. -/
def onStreamCreateResult (ok : Bool) (w : ClientStreams) :
    StreamUser → Except StreamCheck ClientStreams
  | .handler h => do
    let p := w.handlers h
    if ok then
      let socks ← (p.socks.onStreamCreateResult true).mapError .socks
      return (w.setHandler h { p with socks }).setStreamObserver socks.sid.toNat (some (.inner h))
    else
      check (p.socks.state = .createBufloStream) .state
      return w.close h
  | .inner _ => .error .notReached

/-- `_on_spdylay_on_ctrl_recv_cb`, for the `SYN_REPLY` of a stream. -/
def onSynReply (sid : ℕ) (ok : Bool) (st : SpdyStream) (w : ClientStreams) :
    Except StreamCheck ClientStreams := do
  check (ok = true) .okValue
  match st.observer with
  | none => .error .noObserver
  | some u =>
    let w := { w with streams := Function.update w.streams sid (some { st with replied := true }) }
    w.onStreamCreateResult true u

/-- `onStreamNewDataAvailable` and `onStreamRecvEOF`, of either observer. -/
def onStreamData (st : SpdyStream) (w : ClientStreams) : Except StreamCheck ClientStreams :=
  match st.observer with
  | some (.handler _) => .error .notReached
  | _ => .ok w

/-- What can happen in a state.  The client channel is the handler's until it forwards; a frame is
received on a stream until it is reset or closed. -/
def Enabled (w : ClientStreams) : StreamEvent → Prop
  | .clientBytes h _ | .clientEof h | .clientError h =>
    (w.handlers h).socks.state ≠ .forwarding ∧ (w.handlers h).socks.state ≠ .closed
  | .destroy _ => True
  | .innerDone h => (w.handlers h).socks.state = .forwarding
  | .assignId h => h ∈ w.queued
  | .synReply sid _ => ∃ st ∈ w.streams sid, st.reset = false ∧ st.replied = false
  | .streamData sid | .streamFin sid => ∃ st ∈ w.streams sid, st.reset = false
  | .streamClosed sid => ∃ st, st ∈ w.streams sid

/-- One event, on the stream that it names. -/
def onStream (sid : ℕ) (w : ClientStreams)
    (f : SpdyStream → ClientStreams → Except StreamCheck ClientStreams) :
    Except StreamCheck ClientStreams :=
  match w.streams sid with
  | some st => f st w
  | none => .ok w

/-- One event. -/
def step (w : ClientStreams) : StreamEvent → Except StreamCheck ClientStreams
  | .clientBytes h bs => w.clientBytes h bs
  | .clientEof h => w.clientEnds h
  | .clientError h => w.clientEnds h
  | .destroy h => .ok (w.close h)
  | .innerDone h => w.beDone h false
  | .assignId h => .ok (w.beforeCtrlSendCb h)
  | .synReply sid ok => w.onStream sid (onSynReply sid ok)
  | .streamData sid => w.onStream sid onStreamData
  | .streamFin sid => w.onStream sid onStreamData
  | .streamClosed sid => w.onStream sid (onStreamCloseCb sid)

/-- A step that is taken. -/
def Step (w : ClientStreams) (e : StreamEvent) (w' : ClientStreams) : Prop :=
  Enabled w e ∧ step w e = .ok w'

/-- The observer that the mux channel calls back in an event. -/
def callee (w : ClientStreams) : StreamEvent → Option StreamUser
  | .assignId h => some (.handler h)
  | .synReply sid _ | .streamData sid | .streamFin sid | .streamClosed sid =>
    (w.streams sid).bind SpdyStream.observer
  | _ => none

/-- The mux channel has nothing to do with a handler any more.

* `queued`, `observed` — the handler is the observer of no request that waits and of no stream;
* `reset` — no stream that it has requested is left but is reset;
* `uncalled` — no event calls it back. -/
structure Detached (w : ClientStreams) (h : ℕ) : Prop where
  queued : h ∉ w.queued
  observed : ∀ sid, ∀ st ∈ w.streams sid, ∀ u ∈ st.observer, u.owner ≠ h
  reset : ∀ sid, ∀ st ∈ w.streams sid, st.requester = h → st.reset = true
  uncalled : ∀ e, Enabled w e → ∀ u ∈ w.callee e, u.owner ≠ h

/-- Every handler that has closed is detached. -/
def AllDetached (w : ClientStreams) : Prop :=
  ∀ h, (w.handlers h).socks.state = .closed → w.Detached h

/-- No handler is closed from the client's or the proxy's side while its request waits for its id. -/
def HasId (w : ClientStreams) : StreamEvent → Prop
  | .clientEof h | .clientError h | .destroy h =>
    (w.handlers h).socks.state = .createBufloStream → -1 < (w.handlers h).socks.sid
  | _ => True

/-! ### What a handler does with the bytes of its client -/

/-- A handler that has not asked for its stream yet. -/
def Reading (s : ClientHandler) : Prop :=
  s.state = .readSocks5Greeting ∨ s.state = .readSocks5ConnectReq

/-- What the bytes of its client do to a handler: a handler that reads goes on, closes or asks for
one stream, and no other one changes. -/
def Moved (s s' : ClientHandler) : Prop :=
  s'.sid = s.sid ∧
    (s'.state = s.state ∧ s'.asked = s.asked ∨
      Reading s ∧ (Reading s' ∨ s'.state = .closed) ∧ s'.asked = s.asked ∨
      Reading s ∧ s'.state = .createBufloStream ∧ s'.asked.length = s.asked.length + 1)

theorem moved_refl (s : ClientHandler) : Moved s s := ⟨rfl, .inl ⟨rfl, rfl⟩⟩

/-- The client channel is the only thing that has changed. -/
theorem moved_of_eq {s s' : ClientHandler} (hsid : s'.sid = s.sid) (hstate : s'.state = s.state)
    (hasked : s'.asked = s.asked) : Moved s s' := ⟨hsid, .inl ⟨hstate, hasked⟩⟩

theorem readSocks5Greeting_moved {s s' : ClientHandler} {keep : Bool}
    (hstate : s.state = .readSocks5Greeting) (h : s.readSocks5Greeting = .ok (s', keep)) :
    Moved s s' ∧ (keep = true → s'.state = .readSocks5ConnectReq ∧ s'.asked = s.asked) := by
  simp only [ClientHandler.readSocks5Greeting] at h
  split at h
  · cases h
    exact ⟨moved_refl s, by simp⟩
  · obtain ⟨_, -, h⟩ := bind_eq_ok.mp h
    obtain ⟨_, -, h⟩ := bind_eq_ok.mp h
    split at h
    · cases h
      exact ⟨⟨rfl, .inr (.inl ⟨.inl hstate, .inl (.inr rfl), rfl⟩)⟩, fun _ => ⟨rfl, rfl⟩⟩
    · cases h
      exact ⟨⟨rfl, .inr (.inl ⟨.inl hstate, .inr rfl, rfl⟩)⟩, by simp⟩

theorem readSocks5ConnectReq_moved {s s' : ClientHandler} {keep : Bool}
    (hstate : s.state = .readSocks5ConnectReq) (h : s.readSocks5ConnectReq = .ok (s', keep)) :
    Moved s s' := by
  have hreading : Reading s := .inr hstate
  simp only [ClientHandler.readSocks5ConnectReq] at h
  split at h
  · cases h
    exact moved_refl s
  · split at h
    · obtain ⟨_, -, h⟩ := bind_eq_ok.mp h
      cases h
      exact ⟨rfl, .inr (.inr ⟨hreading, rfl, by simp [ClientHandler.createStream2, ClientHandler.drain]⟩)⟩
    · split at h
      · obtain ⟨_, -, h⟩ := bind_eq_ok.mp h
        obtain ⟨_, -, h⟩ := bind_eq_ok.mp h
        cases h
        exact ⟨rfl, .inr (.inr ⟨hreading, rfl,
          by simp [ClientHandler.createStream2, ClientHandler.drain]⟩)⟩
      · cases h
        exact ⟨rfl, .inr (.inl ⟨hreading, .inr rfl, rfl⟩)⟩

theorem consume_moved {fuel : ℕ} {s s' : ClientHandler}
    (h : ClientHandler.consume fuel s = .ok s') : Moved s s' := by
  induction fuel generalizing s with
  | zero => cases h
  | succ fuel ih =>
    rw [ClientHandler.consume] at h
    split at h
    · cases h
      exact moved_refl _
    · cases hstate : s.state with
      | readSocks5Greeting =>
        simp only [hstate] at h
        obtain ⟨⟨s₁, keep⟩, hread, h⟩ := bind_eq_ok.mp h
        obtain ⟨hmoved, hkeep⟩ := readSocks5Greeting_moved hstate hread
        dsimp only at h
        split at h
        · next hgo =>
          -- the greeting is read, and the loop goes on with the request
          obtain ⟨hnext, hasked⟩ := hkeep hgo.1
          obtain ⟨hsid, hrest⟩ := ih h
          refine ⟨hsid.trans hmoved.1, ?_⟩
          rw [hasked] at hrest
          rcases hrest with ⟨hst, has⟩ | ⟨-, hst, has⟩ | ⟨-, hst, has⟩
          · exact .inr (.inl ⟨.inl hstate, .inl (.inr (hst.trans hnext)), has⟩)
          · exact .inr (.inl ⟨.inl hstate, hst, has⟩)
          · exact .inr (.inr ⟨.inl hstate, hst, has⟩)
        · cases h
          exact hmoved
      | readSocks5ConnectReq =>
        simp only [hstate] at h
        obtain ⟨⟨s₁, keep⟩, hread, h⟩ := bind_eq_ok.mp h
        have hmoved := readSocks5ConnectReq_moved hstate hread
        have hkeep := ClientHandler.keep_readSocks5ConnectReq hread
        dsimp only at h
        rw [if_neg (by simp [hkeep])] at h
        cases h
        exact hmoved
      | createBufloStream =>
        simp only [hstate] at h
        cases h
      | forwarding =>
        simp only [hstate] at h
        cases h
      | closed =>
        simp only [hstate] at h
        cases h

/-- A change of the channel before is no difference. -/
theorem Moved.of_channel {s s' : ClientHandler} {ch : TcpChannel}
    (h : Moved { s with clientChannel := ch } s') : Moved s s' := h

theorem evbufferRead_moved {s s' : ClientHandler} {bs : List UInt8}
    (h : ClientHandler.observer.evbufferRead bs s = .ok s') : Moved s s' := by
  simp only [StreamObserver.evbufferRead] at h
  split at h
  · exact (consume_moved h).of_channel
  · cases h
    exact moved_of_eq rfl rfl rfl

theorem maybeDropread_same {k : ℕ} {s s' : ClientHandler}
    (h : ClientHandler.observer.maybeDropread k s = .ok s') :
    ∃ ch, s' = { s with clientChannel := ch } := by
  simp only [StreamObserver.maybeDropread] at h
  split at h
  · obtain ⟨s₁, hs₁, h⟩ := bind_eq_ok.mp h
    cases hs₁
    split at h
    · cases h
      exact ⟨_, rfl⟩
    · cases h
      exact ⟨_, rfl⟩
  · split at h
    · obtain ⟨s₁, hs₁, h⟩ := bind_eq_ok.mp h
      cases hs₁
      cases h
      exact ⟨_, rfl⟩
    · cases h
      exact ⟨_, rfl⟩

theorem onSocketReadcb_moved {s s' : ClientHandler} {bs : List UInt8}
    (h : ClientHandler.observer.onSocketReadcb s bs = .ok s') : Moved s s' := by
  have hrest : ∀ (ch : TcpChannel) (rest : List UInt8), (if rest = [] then
      .ok { s with clientChannel := ch } else ClientHandler.observer.evbufferRead rest
        { s with clientChannel := ch }) = Except.ok s' → Moved s s' := by
    intro ch rest h
    split at h
    · cases h
      exact moved_of_eq rfl rfl rfl
    · exact (evbufferRead_moved h).of_channel
  rw [StreamObserver.onSocketReadcb] at h
  split at h
  · exact hrest s.clientChannel _ h
  · obtain ⟨s₁, hdrop, h⟩ := bind_eq_ok.mp h
    obtain ⟨ch, rfl⟩ := maybeDropread_same hdrop
    exact hrest ch _ h

/-! ### The invariant -/

variable {w w' : ClientStreams} {h sid : ℕ} {st : SpdyStream} {p : ProxiedClient}

/-- What holds of every handler; `waits` says whether its request waits for its id.

* `waiting` — a handler whose request waits creates its stream and has no id;
* `unasked`, `asked` — a handler that reads has no id, and one that creates its stream has one unless
  its request waits;
* `opens` — a handler that is open has its mux channel. -/
structure Fair (waits : Prop) (p : ProxiedClient) : Prop where
  waiting : waits → p.socks.state = .createBufloStream ∧ p.socks.sid = -1
  unasked : Reading p.socks → p.socks.sid = -1
  asked : p.socks.state = .createBufloStream → waits ∨ -1 < p.socks.sid
  opens : p.socks.state ≠ .closed → p.bufloChannel = true

/-- A stream serves the handler that has requested it: the handler knows its id, and observes it,
itself until the stream is created, and then through its `InnerOuterHandler`. -/
def Serves (p : ProxiedClient) (sid : ℕ) (st : SpdyStream) : Prop :=
  p.socks.sid = sid ∧
    (p.socks.state = .createBufloStream ∧ st.observer = some (.handler st.requester) ∨
      p.socks.state = .forwarding ∧ st.observer = some (.inner st.requester))

/-- A stream has been reset, and nobody observes it. -/
def IsReset (st : SpdyStream) : Prop := st.reset = true ∧ st.observer = none

/-- What holds as long as no handler closes while its request waits: a stream that is not reset
serves its handler. -/
structure Inv (w : ClientStreams) : Prop where
  nodup : w.queued.Nodup
  fair : ∀ h, Fair (h ∈ w.queued) (w.handlers h)
  streams : ∀ sid, ∀ st ∈ w.streams sid, IsReset st ∨ Serves (w.handlers st.requester) sid st

/-- A handler that is closed is fair when its request does not wait. -/
theorem fair_of_closed {waits : Prop} (hp : p.socks.state = .closed) (hwaits : ¬ waits) :
    Fair waits p where
  waiting hw := absurd hw hwaits
  unasked hreading := by
    rcases hreading with hstate | hstate <;> exact absurd (hp.symm.trans hstate) (by decide)
  asked hstate := absurd (hp.symm.trans hstate) (by decide)
  opens hopen := absurd hp hopen

theorem inv_init : Inv {} where
  nodup := .nil
  fair h := ⟨fun hmem => absurd hmem List.not_mem_nil, fun _ => rfl, nofun, fun _ => rfl⟩
  streams _ _ hst := by cases hst

/-- A handler that a stream serves is open. -/
theorem Serves.open (hs : Serves p sid st) : p.socks.state ≠ .closed := by
  rcases hs with ⟨-, ⟨hstate, -⟩ | ⟨hstate, -⟩⟩
  · rw [hstate]
    decide
  · rw [hstate]
    decide

/-- The request of a handler that a stream serves does not wait. -/
theorem Serves.not_waits (hs : Serves p sid st) {waits : Prop} (hp : Fair waits p) : ¬ waits := by
  intro hwaits
  have hsid := (hp.waiting hwaits).2.symm.trans hs.1
  omega

/-- The observer of a stream is its handler, or a part of it. -/
theorem Serves.owner (hs : Serves p sid st) {u : StreamUser} (hu : u ∈ st.observer) :
    u.owner = st.requester := by
  obtain ⟨-, ⟨-, hobs⟩ | ⟨-, hobs⟩⟩ := hs
  · obtain rfl := Option.some_inj.mp (hobs.symm.trans hu)
    rfl
  · obtain rfl := Option.some_inj.mp (hobs.symm.trans hu)
    rfl

/-- **A closed handler is detached.** -/
theorem Inv.detached (hw : Inv w) : AllDetached w := by
  intro h hclosed
  -- a stream that is not reset belongs to a handler that is open
  have hopen : ∀ sid, ∀ st ∈ w.streams sid, IsReset st ∨ st.requester ≠ h ∧
      ∀ u ∈ st.observer, u.owner ≠ h := by
    intro sid st hst
    refine (hw.streams sid st hst).imp_right fun hs => ?_
    have hne : st.requester ≠ h := by
      rintro rfl
      exact hs.open hclosed
    refine ⟨hne, fun u hu => ?_⟩
    rw [hs.owner hu]
    exact hne
  have hqueued : h ∉ w.queued := by
    intro hmem
    have hstate := ((hw.fair h).waiting hmem).1
    rw [hclosed] at hstate
    cases hstate
  have hobserved : ∀ sid, ∀ st ∈ w.streams sid, ∀ u ∈ st.observer, u.owner ≠ h := by
    intro sid st hst u hu
    rcases hopen sid st hst with ⟨-, hnone⟩ | ⟨-, hne⟩
    · rw [hnone] at hu
      cases hu
    · exact hne u hu
  have hbind : ∀ sid, ∀ u ∈ (w.streams sid).bind SpdyStream.observer, u.owner ≠ h := by
    intro sid u hu
    obtain ⟨st, hst, hu⟩ := Option.bind_eq_some_iff.mp hu
    exact hobserved sid st hst u hu
  refine ⟨hqueued, hobserved, fun sid st hst hreq => ?_, ?_⟩
  · rcases hopen sid st hst with ⟨hreset, -⟩ | ⟨hne, -⟩
    · exact hreset
    · exact absurd hreq hne
  · intro e hen u hu
    cases e with
    | assignId k =>
      cases hu
      rintro rfl
      exact hqueued hen
    | synReply sid ok => exact hbind sid u hu
    | streamData sid => exact hbind sid u hu
    | streamFin sid => exact hbind sid u hu
    | streamClosed sid => exact hbind sid u hu
    | _ => cases hu

/-! ### One step -/

/-- One handler changes, with its request and its streams. -/
theorem Inv.update (hw : Inv w) {queued : List ℕ} {nextSid : ℕ} {streams : ℕ → Option SpdyStream}
    (hnodup : queued.Nodup) (hq : ∀ k, k ≠ h → (k ∈ queued ↔ k ∈ w.queued))
    (hp : Fair (h ∈ queued) p)
    (hs : ∀ sid, ∀ st ∈ streams sid, IsReset st ∨ st ∈ w.streams sid ∧ st.requester ≠ h ∨
      st.requester = h ∧ Serves p sid st) :
    Inv { handlers := Function.update w.handlers h p, queued, nextSid, streams } := by
  have hother : ∀ k, k ≠ h → Function.update w.handlers h p k = w.handlers k := fun k hk =>
    Function.update_of_ne hk ..
  have hself : Function.update w.handlers h p h = p := Function.update_self ..
  refine ⟨hnodup, fun k => ?_, fun sid st hst => ?_⟩
  · show Fair (k ∈ queued) (Function.update w.handlers h p k)
    by_cases hk : k = h
    · rw [hk, hself]
      exact hp
    · rw [hother k hk, hq k hk]
      exact hw.fair k
  · show IsReset st ∨ Serves (Function.update w.handlers h p st.requester) sid st
    rcases hs sid st hst with hreset | ⟨hst, hne⟩ | ⟨rfl, hserves⟩
    · exact .inl hreset
    · rw [hother _ hne]
      exact hw.streams sid st hst
    · rw [hself]
      exact .inr hserves

/-- A handler closes whose request does not wait, and its streams are reset or gone. -/
theorem Inv.leave (hw : Inv w) (hq : h ∉ w.queued) (hp : p.socks.state = .closed)
    {streams : ℕ → Option SpdyStream}
    (hs : ∀ sid, ∀ st ∈ streams sid, IsReset st ∨ st ∈ w.streams sid ∧
      (Serves (w.handlers h) sid st → st.requester ≠ h)) :
    Inv { w with handlers := Function.update w.handlers h p, streams } := by
  refine hw.update hw.nodup (fun _ _ => Iff.rfl) (fair_of_closed hp hq) fun sid st hst => ?_
  rcases hs sid st hst with hreset | ⟨hst, hne⟩
  · exact .inl hreset
  · rcases hw.streams sid st hst with hreset | hserves
    · exact .inl hreset
    · refine .inr (.inl ⟨hst, fun hreq => ?_⟩)
      rw [hreq] at hserves
      exact hne hserves hreq

/-- A stream of a session after `close_stream` is the one that is reset, or one of before. -/
theorem mem_closeStream {k : ℕ} (hst : st ∈ (w.closeStream sid).streams k) :
    IsReset st ∨ k ≠ sid ∧ st ∈ w.streams k := by
  simp only [closeStream, setStreamObserver] at hst
  by_cases hk : k = sid
  · subst hk
    simp only [Function.update_self, Option.mem_def, Option.map_map, Option.map_eq_some_iff] at hst
    obtain ⟨st₀, -, rfl⟩ := hst
    exact .inl ⟨rfl, rfl⟩
  · simp only [Function.update_of_ne hk] at hst
    exact .inr ⟨hk, hst⟩

/-- **`_close` is safe** while the request of the handler does not wait. -/
theorem Inv.close (hw : Inv w) (hq : h ∉ w.queued) : Inv (w.close h) := by
  by_cases hclosed : (w.handlers h).socks.state = .closed
  · rw [ClientStreams.close, if_neg (not_not.mpr hclosed)]
    exact hw
  have hopen := (hw.fair h).opens hclosed
  rw [ClientStreams.close, if_pos hclosed, unregister, setHandler_self]
  split
  · next hcond =>
    let sid := (w.handlers h).socks.sid.toNat
    show Inv { w with
      handlers := Function.update (Function.update w.handlers h _) h _
      streams := ((w.setStreamObserver sid none).closeStream sid).streams }
    rw [Function.update_idem]
    refine hw.leave hq rfl fun k st hst => ?_
    refine (mem_closeStream hst).imp_right fun ⟨hne, hst⟩ => ?_
    simp only [setStreamObserver, Function.update_of_ne hne] at hst
    refine ⟨hst, fun hserves _ => hne ?_⟩
    show k = (w.handlers h).socks.sid.toNat
    rw [hserves.1, Int.toNat_natCast]
  · next hcond =>
    -- the handler has no id, so no stream serves it
    refine hw.leave hq rfl fun sid st hst => .inr ⟨hst, fun hserves _ => hcond ⟨hopen, ?_⟩⟩
    show -1 < (w.handlers h).socks.sid
    have hsid := hserves.1
    omega

/-- A handler whose stream is closed does not unregister from it. -/
theorem close_clearChannel (hopen : (w.handlers h).socks.state ≠ .closed) :
    ∃ p : ProxiedClient, p.socks.state = .closed ∧
      (w.clearChannel h).close h = { w with handlers := Function.update w.handlers h p } := by
  refine ⟨⟨(w.handlers h).socks.close, false⟩, rfl, ?_⟩
  rw [ClientStreams.close, clearChannel, setHandler_self, if_pos hopen, unregister, setHandler_self,
    if_neg fun hcond => Bool.false_ne_true hcond.1]
  simp only [setHandler, Function.update_idem]

/-- What the observer of a stream does when it is closed: the handler closes, and no other stream
changes. -/
theorem onStreamClosed_cases (hs : Serves (w.handlers st.requester) sid st) {u : StreamUser}
    (hu : u ∈ st.observer) (hclosed : w.onStreamClosed u = .ok w') :
    ∃ (p : ProxiedClient) (streams : ℕ → Option SpdyStream), p.socks.state = .closed ∧
      (∀ k, k ≠ sid → streams k = w.streams k) ∧
      w' = { w with handlers := Function.update w.handlers st.requester p, streams } := by
  have hopen := hs.open
  obtain ⟨hsid, ⟨hstate, hobs⟩ | ⟨hstate, hobs⟩⟩ := hs
  · obtain rfl : u = .handler st.requester := Option.some_inj.mp (hu.symm.trans hobs)
    rw [onStreamClosed, check_pos hstate, ok_bind] at hclosed
    obtain ⟨p, hp, hclose⟩ := close_clearChannel hopen
    refine ⟨p, w.streams, hp, fun _ _ => rfl, ?_⟩
    rw [hclose] at hclosed
    exact (Except.ok.inj hclosed).symm
  · obtain rfl : u = .inner st.requester := Option.some_inj.mp (hu.symm.trans hobs)
    rw [onStreamClosed, beDone, if_pos rfl, onInnerOuterHandlerDone] at hclosed
    obtain ⟨_, -, hclosed⟩ := bind_eq_ok.mp hclosed
    rw [if_pos rfl, hsid, Int.toNat_natCast] at hclosed
    have hopen' : ((w.setStreamObserver sid none).handlers st.requester).socks.state ≠ .closed := hopen
    obtain ⟨p, hp, hclose⟩ := close_clearChannel hopen'
    refine ⟨p, (w.setStreamObserver sid none).streams, hp,
      fun k hk => Function.update_of_ne hk .., ?_⟩
    rw [hclose] at hclosed
    exact (Except.ok.inj hclosed).symm

/-- **A stream is closed.** -/
theorem Inv.onStreamCloseCb (hw : Inv w) (hst : st ∈ w.streams sid)
    (h : w.onStreamCloseCb sid st = .ok w') : Inv w' := by
  rw [ClientStreams.onStreamCloseCb] at h
  have hgone : ∀ {streams : ℕ → Option SpdyStream} k, ∀ st' ∈ Function.update streams sid none k,
      k ≠ sid ∧ st' ∈ streams k := by
    intro streams k st' hst'
    by_cases hk : k = sid
    · subst hk
      rw [Function.update_self] at hst'
      cases hst'
    · rw [Function.update_of_ne hk] at hst'
      exact ⟨hk, hst'⟩
  rcases hw.streams sid st hst with ⟨-, hnone⟩ | hserves
  · rw [hnone] at h
    cases h
    -- nobody observes the stream, and nothing else changes
    exact { hw with streams := fun k st' hst' => hw.streams k st' (hgone k st' hst').2 }
  · have hq := hserves.not_waits (hw.fair st.requester)
    cases hobs : st.observer with
    | none =>
      obtain ⟨-, ⟨-, hsome⟩ | ⟨-, hsome⟩⟩ := hserves
      · rw [hobs] at hsome
        cases hsome
      · rw [hobs] at hsome
        cases hsome
    | some u =>
      rw [hobs] at h
      obtain ⟨w₁, hclosed, h⟩ := bind_eq_ok.mp h
      obtain ⟨p, streams, hp, hrest, rfl⟩ := onStreamClosed_cases hserves hobs hclosed
      cases h
      refine hw.leave hq hp fun k st' hst' => ?_
      obtain ⟨hk, hst'⟩ := hgone k st' hst'
      change st' ∈ streams k at hst'
      rw [hrest k hk] at hst'
      refine .inr ⟨hst', fun hserves' _ => hk ?_⟩
      exact Int.ofNat_inj.mp (hserves'.1.symm.trans hserves.1)

/-- **The request of a handler gets its id.** -/
theorem Inv.beforeCtrlSendCb (hw : Inv w) (hmem : h ∈ w.queued) : Inv (w.beforeCtrlSendCb h) := by
  obtain ⟨hstate, hsid⟩ := (hw.fair h).waiting hmem
  have hgone : h ∉ w.queued.erase h := fun hmem => (hw.nodup.mem_erase_iff.mp hmem).1 rfl
  refine hw.update (hw.nodup.erase h) (fun k hk => ?_) ?_ fun k st hst => ?_
  · exact ⟨fun hmem => (hw.nodup.mem_erase_iff.mp hmem).2,
      fun hmem => hw.nodup.mem_erase_iff.mpr ⟨hk, hmem⟩⟩
  · refine ⟨fun hmem => absurd hmem hgone, fun hreading => ?_, fun _ => .inr ?_, fun hopen => ?_⟩
    · rcases hreading with hread | hread <;> exact absurd (hstate.symm.trans hread) (by decide)
    · show (-1 : ℤ) < (w.nextSid : ℤ)
      omega
    · exact (hw.fair h).opens hopen
  · by_cases hk : k = w.nextSid
    · -- the new stream serves the handler
      subst hk
      rw [Function.update_self] at hst
      cases hst
      exact .inr (.inr ⟨rfl, rfl, .inl ⟨hstate, rfl⟩⟩)
    · rw [Function.update_of_ne hk] at hst
      rcases hw.streams k st hst with hreset | hserves
      · exact .inl hreset
      · refine .inr (.inl ⟨hst, ?_⟩)
        rintro rfl
        have hk' := hserves.1
        omega

/-- The stream of a handler is created: the handler forwards from then on. -/
theorem forwarding_of_created {s s' : ClientHandler} (h : s.onStreamCreateResult true = .ok s') :
    s'.state = .forwarding ∧ s'.sid = s.sid := by
  rw [ClientHandler.onStreamCreateResult] at h
  obtain ⟨_, -, h⟩ := bind_eq_ok.mp h
  rw [if_pos rfl] at h
  obtain ⟨_, -, h⟩ := bind_eq_ok.mp h
  obtain ⟨_, -, h⟩ := bind_eq_ok.mp h
  cases h
  exact ⟨rfl, rfl⟩

/-- **A stream is created.** -/
theorem Inv.onSynReply {ok : Bool} (hw : Inv w) (hst : st ∈ w.streams sid) (hreset : st.reset = false)
    (h : w.onSynReply sid ok st = .ok w') : Inv w' := by
  rw [ClientStreams.onSynReply] at h
  obtain ⟨_, -, h⟩ := bind_eq_ok.mp h
  have hserves := (hw.streams sid st hst).resolve_left fun hnot =>
    Bool.false_ne_true (hreset.symm.trans hnot.1)
  have hq := hserves.not_waits (hw.fair st.requester)
  have hopen := (hw.fair st.requester).opens hserves.open
  obtain ⟨hsid, ⟨hstate, hobs⟩ | ⟨-, hobs⟩⟩ := hserves
  · -- the stream exists now, and its handler goes on to forward
    simp only [hobs, onStreamCreateResult, if_true] at h
    obtain ⟨socks, hsocks, h⟩ := bind_eq_ok.mp h
    obtain ⟨hforward, hsame⟩ := forwarding_of_created (eq_ok_of_mapError hsocks)
    obtain rfl := Except.ok.inj h
    have hat : socks.sid.toNat = sid := by
      rw [hsame, hsid, Int.toNat_natCast]
    rw [hat]
    refine hw.update hw.nodup (fun _ _ => Iff.rfl) ?_ fun k st' hst' => ?_
    · refine ⟨fun hmem => absurd hmem hq, fun hreading => ?_, fun hcreate => ?_, fun _ => hopen⟩
      · rcases hreading with hread | hread <;> exact absurd (hforward.symm.trans hread) (by decide)
      · exact absurd (hforward.symm.trans hcreate) (by decide)
    · by_cases hk : k = sid
      · subst hk
        simp only [setHandler, Function.update_self, Option.map_some, Option.mem_def,
          Option.some.injEq] at hst'
        subst hst'
        exact .inr (.inr ⟨rfl, hsame.trans hsid, .inr ⟨hforward, rfl⟩⟩)
      · simp only [setHandler, Function.update_of_ne hk] at hst'
        rcases hw.streams k st' hst' with hreset | hserves
        · exact .inl hreset
        · refine .inr (.inl ⟨hst', fun hreq => hk ?_⟩)
          rw [hreq] at hserves
          exact Int.ofNat_inj.mp (hserves.1.symm.trans hsid)
  · simp only [hobs, onStreamCreateResult] at h
    cases h

/-- A handler that reads, and goes on: no stream serves it. -/
theorem Inv.streams_of_reading (hw : Inv w) (hreading : Reading (w.handlers h).socks) :
    ∀ sid, ∀ st ∈ w.streams sid, IsReset st ∨ st ∈ w.streams sid ∧ st.requester ≠ h ∨
      st.requester = h ∧ Serves p sid st := by
  intro sid st hst
  rcases hw.streams sid st hst with hreset | hserves
  · exact .inl hreset
  · refine .inr (.inl ⟨hst, ?_⟩)
    rintro rfl
    have hsid := ((hw.fair _).unasked hreading).symm.trans hserves.1
    omega

/-- **A handler gets bytes from its client.** -/
theorem Inv.clientBytes {bs : List UInt8} (hw : Inv w)
    (hopen : (w.handlers h).socks.state ≠ .closed) (hstep : w.clientBytes h bs = .ok w') :
    Inv w' := by
  rw [ClientStreams.clientBytes] at hstep
  obtain ⟨socks, hsocks, hstep⟩ := bind_eq_ok.mp hstep
  obtain ⟨hsid, hmoved⟩ := onSocketReadcb_moved (eq_ok_of_mapError hsocks)
  obtain rfl := Except.ok.inj hstep
  have hfair := hw.fair h
  have hlen : ∀ {n : ℕ}, socks.asked.length = (w.handlers h).socks.asked.length + n →
      w.queued ++ List.replicate (socks.asked.length - (w.handlers h).socks.asked.length) h =
        w.queued ++ List.replicate n h := by
    intro n hn
    rw [hn, Nat.add_sub_cancel_left]
  rcases hmoved with ⟨hstate, hasked⟩ | ⟨hreading, hstate, hasked⟩ | ⟨hreading, hstate, hasked⟩
  · -- nothing but the channel has changed
    rw [if_neg (by rw [hstate]; exact hopen), hlen (n := 0) (by rw [hasked, Nat.add_zero]),
      List.replicate_zero, List.append_nil]
    refine hw.update hw.nodup (fun _ _ => Iff.rfl) ?_ fun sid st hst => ?_
    · refine ⟨fun hmem => ?_, fun hreading => ?_, fun hcreate => ?_, fun _ => hfair.opens hopen⟩
      · exact ⟨hstate.trans (hfair.waiting hmem).1, hsid.trans (hfair.waiting hmem).2⟩
      · exact hsid.trans (hfair.unasked (hreading.imp hstate.symm.trans hstate.symm.trans))
      · rw [hsid]
        exact hfair.asked (hstate.symm.trans hcreate)
    · rcases hw.streams sid st hst with hreset | hserves
      · exact .inl hreset
      · by_cases hreq : st.requester = h
        · subst hreq
          exact .inr (.inr ⟨rfl, hsid.trans hserves.1,
            hserves.2.imp (And.imp_left hstate.trans) (And.imp_left hstate.trans)⟩)
        · exact .inr (.inl ⟨hst, hreq⟩)
  · have hnone := hfair.unasked hreading
    have hq : h ∉ w.queued := by
      intro hmem
      have hcreate := (hfair.waiting hmem).1
      rcases hreading with hread | hread <;> exact absurd (hcreate.symm.trans hread) (by decide)
    rw [hlen (n := 0) (by rw [hasked, Nat.add_zero]), List.replicate_zero, List.append_nil]
    split
    · next hclosed =>
      -- the handler has no id, so it has nothing to unregister from
      have hself : ({ w.setHandler h { w.handlers h with socks } with queued := w.queued }).handlers h =
          { w.handlers h with socks } := Function.update_self ..
      rw [unregister, hself, if_neg fun hcond => by
        have : -1 < socks.sid := hcond.2
        omega]
      exact hw.update hw.nodup (fun _ _ => Iff.rfl) (fair_of_closed hclosed hq)
        (hw.streams_of_reading hreading)
    · next hnotclosed =>
      refine hw.update hw.nodup (fun _ _ => Iff.rfl) ?_ (hw.streams_of_reading hreading)
      have hreading' := hstate.resolve_right hnotclosed
      refine ⟨fun hmem => absurd hmem hq, fun _ => hsid.trans hnone, fun hcreate => ?_,
        fun _ => hfair.opens hopen⟩
      rcases hreading' with hread | hread <;> exact absurd (hcreate.symm.trans hread) (by decide)
  · have hnone := hfair.unasked hreading
    have hq : h ∉ w.queued := by
      intro hmem
      have hcreate := (hfair.waiting hmem).1
      rcases hreading with hread | hread <;> exact absurd (hcreate.symm.trans hread) (by decide)
    rw [if_neg (by rw [hstate]; decide), hlen hasked]
    refine hw.update ?_ (fun k hk => ?_) ?_ (hw.streams_of_reading hreading)
    · exact List.Nodup.append hw.nodup (List.nodup_singleton h) (by simpa using hq)
    · simp [hk]
    · refine ⟨fun _ => ⟨hstate, hsid.trans hnone⟩, fun _ => hsid.trans hnone,
        fun _ => .inl (by simp), fun _ => hfair.opens hopen⟩

/-- The request of a handler that may close does not wait. -/
theorem Inv.not_queued (hw : Inv w) (hid : (w.handlers h).socks.state = .createBufloStream →
    -1 < (w.handlers h).socks.sid) : h ∉ w.queued := by
  intro hmem
  obtain ⟨hstate, hsid⟩ := (hw.fair h).waiting hmem
  have := hid hstate
  omega

theorem eq_of_clientEnds (hstep : w.clientEnds h = .ok w') : w' = w.close h := by
  obtain ⟨_, -, hstep⟩ := bind_eq_ok.mp hstep
  exact (Except.ok.inj hstep).symm

/-- An event on a stream, when there is such a stream. -/
theorem onStream_eq {f : SpdyStream → ClientStreams → Except StreamCheck ClientStreams}
    (hst : st ∈ w.streams sid) : w.onStream sid f = f st w := by
  rw [onStream, Option.mem_def.mp hst]

theorem eq_of_onStreamData (hstep : w.onStreamData st = .ok w') : w' = w := by
  rw [onStreamData] at hstep
  split at hstep
  · cases hstep
  · exact (Except.ok.inj hstep).symm

/-- **One step**, which closes no handler whose request waits. -/
theorem Inv.step {e : StreamEvent} (hw : Inv w) (hid : HasId w e) (hstep : Step w e w') : Inv w' := by
  obtain ⟨hen, hstep⟩ := hstep
  -- a handler is closed here only when its request does not wait
  cases e with
  | clientBytes h bs => exact hw.clientBytes hen.2 hstep
  | clientEof h =>
    rw [eq_of_clientEnds hstep]
    exact hw.close (hw.not_queued hid)
  | clientError h =>
    rw [eq_of_clientEnds hstep]
    exact hw.close (hw.not_queued hid)
  | destroy h =>
    obtain rfl := Except.ok.inj hstep
    exact hw.close (hw.not_queued hid)
  | innerDone h =>
    obtain ⟨_, -, hstep⟩ := bind_eq_ok.mp hstep
    obtain rfl := Except.ok.inj hstep
    exact hw.close (hw.not_queued fun hstate => absurd (hstate.symm.trans hen) (by decide))
  | assignId h =>
    obtain rfl := Except.ok.inj hstep
    exact hw.beforeCtrlSendCb hen
  | synReply sid ok =>
    obtain ⟨st, hst, hreset, -⟩ := hen
    rw [ClientStreams.step, onStream_eq hst] at hstep
    exact hw.onSynReply hst hreset hstep
  | streamData sid =>
    obtain ⟨st, hst, -⟩ := hen
    rw [ClientStreams.step, onStream_eq hst] at hstep
    rw [eq_of_onStreamData hstep]
    exact hw
  | streamFin sid =>
    obtain ⟨st, hst, -⟩ := hen
    rw [ClientStreams.step, onStream_eq hst] at hstep
    rw [eq_of_onStreamData hstep]
    exact hw
  | streamClosed sid =>
    obtain ⟨st, hst⟩ := hen
    rw [ClientStreams.step, onStream_eq hst] at hstep
    exact hw.onStreamCloseCb hst hstep

/-! ### The results -/

/-- `_close` closes the handler, and leaves the requests that wait alone. -/
theorem close_spec (w : ClientStreams) (h : ℕ) :
    ((w.close h).handlers h).socks.state = .closed ∧ (w.close h).queued = w.queued := by
  by_cases hclosed : (w.handlers h).socks.state = .closed
  · rw [ClientStreams.close, if_neg (not_not.mpr hclosed)]
    exact ⟨hclosed, rfl⟩
  · have hself : ((w.setHandler h { w.handlers h with socks := (w.handlers h).socks.close }).handlers
        h).socks.state = .closed := by
      rw [setHandler_self]
      rfl
    rw [ClientStreams.close, if_pos hclosed, unregister]
    split
    · refine ⟨?_, rfl⟩
      rw [setHandler_self]
      exact hself
    · exact ⟨hself, rfl⟩

/-- **A closed handler is detached, unless it has closed while its request waited.**  As long as no
client ends, and the proxy destroys no handler, while the request of the handler waits for its id,
every handler that has closed is detached; and in every step that follows, that is so if and
only if the step does not do so either. -/
theorem closed_detached {es : List StreamEvent} (hrun : Run (Guarded HasId Step) {} es w) :
    AllDetached w ∧ ∀ e w', Step w e w' → (AllDetached w' ↔ HasId w e) := by
  have hw : Inv w := hrun.invariant (fun _ _ _ hw hstep => hw.step hstep.1 hstep.2) inv_init
  refine ⟨hw.detached, fun e w' hstep => ⟨fun hall => ?_, fun hid => (hw.step hid hstep).detached⟩⟩
  have hclose : ∀ h, w' = w.close h → (w.handlers h).socks.state = .createBufloStream →
      -1 < (w.handlers h).socks.sid := by
    rintro h rfl hcreate
    obtain ⟨hclosed, hqueued⟩ := close_spec w h
    refine ((hw.fair h).asked hcreate).resolve_left fun hmem => (hall h hclosed).queued ?_
    rw [hqueued]
    exact hmem
  cases e with
  | clientEof h => exact hclose h (eq_of_clientEnds hstep.2)
  | clientError h => exact hclose h (eq_of_clientEnds hstep.2)
  | destroy h => exact hclose h (Except.ok.inj hstep.2).symm
  | _ => trivial

/-- A client that greets, and asks for a stream to port 80 of 1.2.3.4. -/
def asks : List StreamEvent :=
  [.clientBytes 0 [5, 1, 0], .clientBytes 0 [5, 1, 0, 1, 1, 2, 3, 4, 0, 80]]

/-- The client ends while its request waits: the mux channel calls the handler when it gives the
request its id. -/
theorem closed_detached_waiting : ¬ ∀ es w, Run Step {} es w → AllDetached w := by
  intro hall
  have hrun : ∃ w, Run Step {} (asks ++ [.clientEof 0]) w ∧
      (w.handlers 0).socks.state = .closed ∧ 0 ∈ w.queued :=
    ⟨_, .cons ⟨⟨nofun, nofun⟩, rfl⟩ (.cons ⟨⟨nofun, nofun⟩, rfl⟩
      (.cons ⟨⟨nofun, nofun⟩, rfl⟩ (.nil _))), rfl, List.mem_singleton_self 0⟩
  obtain ⟨w, hrun, hclosed, hmem⟩ := hrun
  exact (hall _ w hrun 0 hclosed).uncalled (.assignId 0) hmem (.handler 0) rfl rfl

/-- The client ends when its stream has an id. -/
theorem closed_detached_assigned : ∃ es w, Run (Guarded HasId Step) {} es w ∧
    (w.handlers 0).socks.state = .closed ∧ AllDetached w ∧
      ∀ e w', Step w e w' → (AllDetached w' ↔ HasId w e) := by
  have hrun : ∃ w, Run (Guarded HasId Step) {} (asks ++ [.assignId 0, .clientEof 0]) w ∧
      (w.handlers 0).socks.state = .closed :=
    ⟨_, .cons ⟨trivial, ⟨nofun, nofun⟩, rfl⟩ (.cons ⟨trivial, ⟨nofun, nofun⟩, rfl⟩
      (.cons ⟨trivial, List.mem_singleton_self 0, rfl⟩
        (.cons ⟨fun _ => (by decide : (-1 : ℤ) < 1), ⟨nofun, nofun⟩, rfl⟩ (.nil _)))), rfl⟩
  obtain ⟨w, hrun, hclosed⟩ := hrun
  exact ⟨_, w, hrun, hclosed, closed_detached hrun⟩

end ClientStreams

end ShadowBrowser.Socks
