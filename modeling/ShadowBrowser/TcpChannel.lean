/-
A TCP channel, as its users see it.

Bytes from the socket are appended to an input buffer.  The user is told of new
bytes when the buffer holds at least as many as the read low-water mark, and may
have the next bytes of the socket dropped before they reach the buffer.  What is
written is appended to an output buffer, which the socket drains.

* `TcpChannel.setReadWatermark`, `TcpChannel.setReadSizeHint`,
  `TcpChannel.dropFutureInput` — the requests of the user, with their assertions;
* `onSocketReadcb` — what happens when the socket delivers some bytes.
-/
import Mathlib.Data.Int.Notation
import Mathlib.Data.List.Basic
import ShadowBrowser.Checked

namespace ShadowBrowser

open Checked

/-- The assertions of the channel on the requests of its user. -/
inductive TcpCheck
  | lowMark
  | highMark
  | hintLow
  | hintZero
  | dropActive
  | dropLen
  deriving DecidableEq, Repr

/-- `InputDropInfo` -/
structure InputDropInfo where
  numRequested : ℕ := 0
  numRemaining : ℕ := 0
  interestedInProgress : Bool := false
  deriving DecidableEq, Repr

/-- `TCPChannel`, connected.  The buffers are lists, with the oldest byte first. -/
structure TcpChannel where
  inputEvb : List UInt8 := []
  outputEvb : List UInt8 := []
  readLwMark : ℕ := 0
  readSizeHint : ℤ := -1
  inputDrop : InputDropInfo := {}
  deriving DecidableEq, Repr

namespace TcpChannel

/-- `set_read_watermark` -/
def setReadWatermark (lowmark highmark : ℕ) (ch : TcpChannel) : Except TcpCheck TcpChannel := do
  check (lowmark ≤ 0xffff) .lowMark
  check (highmark = 0) .highMark
  return { ch with readLwMark := lowmark }

/-- `set_read_size_hint` -/
def setReadSizeHint (len : ℤ) (ch : TcpChannel) : Except TcpCheck TcpChannel := do
  check (-1 ≤ len) .hintLow
  check (len ≠ 0) .hintZero
  return { ch with readSizeHint := len }

/-- `drop_future_input` -/
def dropFutureInput (len : ℕ) (notifyProgress : Bool) (ch : TcpChannel) :
    Except TcpCheck TcpChannel := do
  check (ch.inputDrop.numRequested = 0) .dropActive
  check (0 < len) .dropLen
  return { ch with
    inputDrop := { numRequested := len, numRemaining := len
                   interestedInProgress := notifyProgress } }

/-- `evbuffer_drain`, on the input buffer. -/
def drain (len : ℕ) (ch : TcpChannel) : TcpChannel :=
  { ch with inputEvb := ch.inputEvb.drop len }

/-- `write` -/
def write (data : List UInt8) (ch : TcpChannel) : TcpChannel :=
  { ch with outputEvb := ch.outputEvb ++ data }

@[simp] theorem drain_inputEvb (len : ℕ) (ch : TcpChannel) :
    (ch.drain len).inputEvb = ch.inputEvb.drop len := rfl

@[simp] theorem drain_readLwMark (len : ℕ) (ch : TcpChannel) :
    (ch.drain len).readLwMark = ch.readLwMark := rfl

@[simp] theorem drain_inputDrop (len : ℕ) (ch : TcpChannel) :
    (ch.drain len).inputDrop = ch.inputDrop := rfl

@[simp] theorem write_outputEvb (data : List UInt8) (ch : TcpChannel) :
    (ch.write data).outputEvb = ch.outputEvb ++ data := rfl

end TcpChannel

/-- A user of a channel: the state `σ` has the channel in it, and the two functions
are the calls that the channel makes when it has bytes for the user. -/
structure StreamObserver (χ σ : Type) where
  channel : σ → TcpChannel
  setChannel : TcpChannel → σ → σ
  onNewReadDataAvailable : σ → Except χ σ
  onInputBytesDropped : ℕ → σ → Except χ σ

namespace StreamObserver

variable {χ σ : Type} (o : StreamObserver χ σ)

/-- `input_drop_.reset()` -/
def resetDrop (s : σ) : σ :=
  o.setChannel { o.channel s with inputDrop := {} } s

/-- `_maybe_dropread`, when the next `k` bytes of the socket are dropped.  The user
is told before the request is reset. -/
def maybeDropread (k : ℕ) (s : σ) : Except χ σ := do
  let drop := (o.channel s).inputDrop
  let remaining := drop.numRemaining - k
  let s := o.setChannel { o.channel s with inputDrop := { drop with numRemaining := remaining } } s
  if drop.interestedInProgress then
    let s ← o.onInputBytesDropped k s
    return if remaining = 0 then o.resetDrop s else s
  else if remaining = 0 then
    let s ← o.onInputBytesDropped drop.numRequested s
    return o.resetDrop s
  else
    return s

/-- The part of `_on_socket_readcb` behind the dropping: the bytes are appended to the
input buffer, and the user is told if that takes it to the low-water mark. -/
def evbufferRead (bs : List UInt8) (s : σ) : Except χ σ :=
  let ch := o.channel s
  let s := o.setChannel { ch with inputEvb := ch.inputEvb ++ bs } s
  if ch.readLwMark ≤ ch.inputEvb.length + bs.length then o.onNewReadDataAvailable s else .ok s

/-- `_on_socket_readcb`, when the socket delivers `bs`: those that the user asked to
drop are dropped, the others are read. -/
def onSocketReadcb (s : σ) (bs : List UInt8) : Except χ σ := do
  let k := min (o.channel s).inputDrop.numRemaining bs.length
  let s ← if k = 0 then .ok s else o.maybeDropread k s
  if bs.drop k = [] then .ok s else o.evbufferRead (bs.drop k) s

/-- With no request to drop, all that the socket delivers is read. -/
theorem onSocketReadcb_of_idle {s : σ} {bs : List UInt8}
    (h : (o.channel s).inputDrop.numRemaining = 0) (hne : bs ≠ []) :
    o.onSocketReadcb s bs = o.evbufferRead bs s := by
  simp [onSocketReadcb, h, hne]

end StreamObserver

end ShadowBrowser
