/-
A connected TCP channel and its socket.

Each event of the socket makes the channel read or write, and the socket answers each of
these calls with some bytes, or with none for one of a few reasons.  A read event first
drops what the user has asked to drop, in reads of at most `dropBufSize` bytes, and then
appends what one more read gives to the input buffer.

* `SocketUser` — the observer of a channel, which calls the channel back;
* `Conn`, `step` — the channel with its observer, in any order of events;
* `DropLog` — what has become of the bytes since the last request to drop;
* `dropreadLoop_spec` — what the dropping loop does, whatever the socket answers.
-/
import Mathlib.Logic.Relation
import ShadowBrowser.Runs
import ShadowBrowser.TcpChannel

namespace ShadowBrowser

open Checked Runs

/-! ### The socket -/

/-- Why a call on the socket gives no bytes: it returns 0, or -1 with one of these in `errno`. -/
inductive IoFailure
  | eof
  | eAgain
  | eInProgress
  | errno
  deriving DecidableEq, Repr

/-- What a read returns: at least one byte, or none. -/
inductive ReadAnswer
  | bytes (b : UInt8) (bs : List UInt8)
  | failure (f : IoFailure)
  deriving DecidableEq, Repr

/-- What a write returns. -/
inductive WriteAnswer
  | accepts (n : ℕ)
  | failure (f : IoFailure)
  deriving DecidableEq, Repr

/-- A read of at most `howmuch` bytes, or of any number if that is negative.  A longer answer is cut, and
the next read finds the rest of it; with no answer left the read would block. -/
def sysRead (howmuch : ℤ) : List ReadAnswer → ReadAnswer × List ReadAnswer
  | [] => (.failure .eAgain, [])
  | .failure f :: rest => (.failure f, rest)
  | .bytes b bs :: rest =>
    if howmuch < 0 ∨ (bs.length : ℤ) < howmuch then (.bytes b bs, rest)
    else
      let n := howmuch.toNat - 1
      (.bytes b (bs.take n), match bs.drop n with
        | [] => rest
        | c :: cs => .bytes c cs :: rest)

/-! ### The observer -/

/-- What the observer of a channel is told. -/
inductive Notice
  | newReadDataAvailable
  | writtenData
  | inputBytesDropped (len : ℕ)
  | eof
  | error
  deriving DecidableEq, Repr

/-- The notices after which no other one of these, and no new data, is expected. -/
def Notice.IsTerminal (n : Notice) : Prop := n = .eof ∨ n = .error

instance (n : Notice) : Decidable n.IsTerminal := inferInstanceAs (Decidable (_ ∨ _))

namespace TcpChannel

/-- What one call of the user makes of the channel. -/
inductive Call (ch : TcpChannel) : TcpChannel → Prop
  | drain (len : ℕ) : Call ch (ch.drain len)
  | write (data : List UInt8) : Call ch (ch.write data)
  | setReadWatermark {ch' : TcpChannel} (lowmark highmark : ℕ)
    (h : ch.setReadWatermark lowmark highmark = .ok ch') : Call ch ch'
  | setReadSizeHint {ch' : TcpChannel} (len : ℤ) (h : ch.setReadSizeHint len = .ok ch') : Call ch ch'
  | dropFutureInput {ch' : TcpChannel} (len : ℕ) (notifyProgress : Bool)
    (h : ch.dropFutureInput len notifyProgress = .ok ch') : Call ch ch'

/-- What any number of calls make of it. -/
abbrev Calls : TcpChannel → TcpChannel → Prop := Relation.ReflTransGen Call

end TcpChannel

/-- The observer of a channel, in a state `σ`: it is notified, and it acts of its own accord on what
happens elsewhere, which is `ε`.  Either time it makes some calls of the channel, or closes it; then
there is no channel afterwards. -/
structure SocketUser (χ σ ε : Type) where
  notify : Notice → TcpChannel → σ → Except χ (σ × Option TcpChannel)
  act : ε → TcpChannel → σ → Except χ (σ × Option TcpChannel)
  notify_calls : ∀ {n ch u u' ch'}, notify n ch u = .ok (u', some ch') → TcpChannel.Calls ch ch'
  act_calls : ∀ {e ch u u' ch'}, act e ch u = .ok (u', some ch') → TcpChannel.Calls ch ch'

/-! ### The channel -/

/-- The assertions on the way: those of the observer, and those of the channel. -/
inductive SocketCheck (χ : Type)
  | user (e : χ)
  | noBuffer
  | einprogress
  | dropProgress
  | outOfFuel
  deriving DecidableEq, Repr

/-- A notification that bytes have been dropped, and how many remained to be dropped. -/
structure DropNotice where
  len : ℕ
  remaining : ℕ
  deriving DecidableEq, Repr

/-- What has happened since the last request to drop: what was asked for, what the input buffer held then,
the bytes that the socket has given, those of them that were appended to the input buffer, those
that the user has taken out of it, and the notifications. -/
structure DropLog where
  request : Option (ℕ × Bool) := none
  base : List UInt8 := []
  received : List UInt8 := []
  kept : List UInt8 := []
  taken : List UInt8 := []
  told : List DropNotice := []
  deriving DecidableEq, Repr

/-- The log after the user has made of the channel `ch` what is `ch'`. -/
def DropLog.after (ch ch' : TcpChannel) (log : DropLog) : DropLog :=
  let taken := ch.inputEvb.take (ch.inputEvb.length - ch'.inputEvb.length)
  if ch.inputDrop.numRequested = 0 ∧ ch'.inputDrop.numRequested ≠ 0 then
    { request := some (ch'.inputDrop.numRequested, ch'.inputDrop.interestedInProgress)
      base := ch.inputEvb
      taken }
  else { log with taken := log.taken ++ taken }

/-- A `TCPChannel` that has been connected, with its observer, what that has been told, and the log. -/
structure Conn (σ : Type) where
  user : σ
  ch : TcpChannel := {}
  closed : Bool := false
  notices : List Notice := []
  log : DropLog := {}

/-- What can happen: `readable`, `timeout` and `writable` are the events of the socket, with its answers. -/
inductive SocketEvent (ε : Type)
  | readable (answers : List ReadAnswer)
  | timeout (answers : List ReadAnswer)
  | writable (answer : WriteAnswer)
  | act (e : ε)

namespace Conn

variable {χ σ ε : Type} (o : SocketUser χ σ ε) (inShadow : Bool)

/-- `close` -/
def close (s : Conn σ) : Conn σ := { s with ch := {}, closed := true }

/-- What the observer has made of the channel.  A channel that is closed stays so. -/
def respond (r : σ × Option TcpChannel) (s : Conn σ) : Conn σ :=
  match r.2 with
  | none => { s with user := r.1 }.close
  | some ch' =>
    if s.closed then { s with user := r.1 }
    else { s with user := r.1, ch := ch', log := s.log.after s.ch ch' }

/-- A call of the observer. -/
def notify (n : Notice) (s : Conn σ) : Except (SocketCheck χ) (Conn σ) := do
  let r ← (o.notify n s.ch s.user).mapError .user
  return { s with notices := s.notices ++ [n] }.respond r

/-- `_on_eof` -/
def onEof (s : Conn σ) : Except (SocketCheck χ) (Conn σ) :=
  notify o .eof (if inShadow then s else s.close)

/-- `_on_error` -/
def onError (s : Conn σ) : Except (SocketCheck χ) (Conn σ) :=
  notify o .error (if inShadow then s else s.close)

/-- `_handle_non_successful_socket_io` -/
def handleNonSuccessfulSocketIo (f : IoFailure) (s : Conn σ) : Except (SocketCheck χ) (Conn σ) :=
  match f with
  | .eof => onEof o inShadow s
  | .eAgain => .ok s
  | .eInProgress => .error .einprogress
  | .errno => onError o inShadow s

/-! #### Dropping -/

/-- `sizeof drop_buf` -/
def dropBufSize : ℕ := 4096

/-- The local variables of the loop in `_maybe_dropread`; of `dropped_this_time`, the bytes. -/
structure DropRead where
  drop : InputDropInfo
  droppedThisTime : List UInt8 := []
  maybeTheresMore : Bool := true
  readError : Option IoFailure := none
  answers : List ReadAnswer

/-- `InputDropInfo::progress` -/
def progress (len : ℕ) (d : InputDropInfo) : Except (SocketCheck χ) InputDropInfo := do
  check (len ≤ d.numRemaining) .dropProgress
  return { d with numRemaining := d.numRemaining - len }

/-- The loop of `_maybe_dropread`, at most `fuel` times around. -/
def dropreadLoop : ℕ → DropRead → Except (SocketCheck χ) DropRead
  | 0, _ => .error .outOfFuel
  | fuel + 1, d =>
    if d.drop.numRemaining ≠ 0 ∧ d.maybeTheresMore = true then
      let numToRead := min d.drop.numRemaining dropBufSize
      match sysRead numToRead d.answers with
      | (.bytes b bs, answers) => do
        let rv := (b :: bs).length
        let drop ← progress rv d.drop
        dropreadLoop fuel { d with
          drop, answers
          droppedThisTime := d.droppedThisTime ++ b :: bs
          -- a read that falls short has emptied the socket
          maybeTheresMore := decide (¬ rv < numToRead) }
      | (.failure f, answers) =>
        dropreadLoop fuel { d with maybeTheresMore := false, readError := some f, answers }
    else .ok d

/-- `input_drop_.reset()` -/
def resetDrop (s : Conn σ) : Conn σ := { s with ch := { s.ch with inputDrop := {} } }

/-- The log after a notification that bytes have been dropped. -/
def logTold (len : ℕ) (s : Conn σ) : Conn σ :=
  { s with log := { s.log with told := s.log.told ++ [⟨len, s.ch.inputDrop.numRemaining⟩] } }

/-- `onInputBytesDropped`, of the observer of the request. -/
def tellDropped (len : ℕ) (s : Conn σ) : Except (SocketCheck χ) (Conn σ) :=
  notify o (.inputBytesDropped len) (s.logTold len)

/-- The part of `_maybe_dropread` that notifies.  The observer is told before the request is reset. -/
def notifyDropped (droppedThisTime : ℕ) (s : Conn σ) : Except (SocketCheck χ) (Conn σ) := do
  let remaining := s.ch.inputDrop.numRemaining
  if s.ch.inputDrop.interestedInProgress then
    let s ← tellDropped o droppedThisTime s
    return if remaining = 0 then s.resetDrop else s
  else if remaining = 0 then
    let s ← tellDropped o s.ch.inputDrop.numRequested s
    return s.resetDrop
  else return s

/-- The state in which the loop has left the request to drop. -/
def dropped (d : DropRead) (s : Conn σ) : Conn σ :=
  { s with
    ch := { s.ch with inputDrop := d.drop }
    log := { s.log with received := s.log.received ++ d.droppedThisTime } }

/-- `_maybe_dropread`, with the answers that are left. -/
def maybeDropread (answers : List ReadAnswer) (s : Conn σ) :
    Except (SocketCheck χ) (Conn σ × Bool × List ReadAnswer) := do
  let d ← dropreadLoop (s.ch.inputDrop.numRemaining + 1) { drop := s.ch.inputDrop, answers }
  let s := s.dropped d
  let s ← (if d.droppedThisTime = [] then .ok s else notifyDropped o d.droppedThisTime.length s)
  let s ← (match d.readError with
    | some f => handleNonSuccessfulSocketIo o inShadow f s
    | none => .ok s)
  return (s, d.maybeTheresMore, d.answers)

/-! #### The events -/

/-- The bytes of a read are appended to the input buffer. -/
def append (bs : List UInt8) (s : Conn σ) : Conn σ :=
  { s with
    ch := { s.ch with inputEvb := s.ch.inputEvb ++ bs }
    log := { s.log with received := s.log.received ++ bs, kept := s.log.kept ++ bs } }

/-- `evbuffer_read` into the input buffer, and what follows it. -/
def evbufferRead (answers : List ReadAnswer) (s : Conn σ) : Except (SocketCheck χ) (Conn σ) := do
  check (s.closed = false) .noBuffer
  match (sysRead s.ch.readSizeHint answers).1 with
  | .bytes b bs =>
    let s := s.append (b :: bs)
    if s.ch.readLwMark ≤ s.ch.inputEvb.length then notify o .newReadDataAvailable s else return s
  | .failure f => handleNonSuccessfulSocketIo o inShadow f s

/-- `_on_socket_readcb` -/
def onSocketReadcb (answers : List ReadAnswer) (s : Conn σ) : Except (SocketCheck χ) (Conn σ) := do
  let (s, maybeTheresMore, answers) ← maybeDropread o inShadow answers s
  if maybeTheresMore then evbufferRead o inShadow answers s else return s

/-- `_on_socket_writecb` -/
def onSocketWritecb (answer : WriteAnswer) (s : Conn σ) : Except (SocketCheck χ) (Conn σ) :=
  match answer with
  | .accepts n =>
    let s := { s with ch := { s.ch with outputEvb := s.ch.outputEvb.drop n } }
    if s.ch.outputEvb = [] then notify o .writtenData s else .ok s
  | .failure f => handleNonSuccessfulSocketIo o inShadow f s

/-- What can happen in a state: nothing, once the channel is closed, for its events are gone.  The read
event has a timeout only with `IN_SHADOW`. -/
def Enabled (s : Conn σ) : SocketEvent ε → Prop
  | .timeout _ => s.closed = false ∧ inShadow = true
  | .writable (.accepts n) => s.closed = false ∧ 0 < n ∧ n ≤ s.ch.outputEvb.length
  | _ => s.closed = false

/-- One event. -/
def step (s : Conn σ) : SocketEvent ε → Except (SocketCheck χ) (Conn σ)
  | .readable answers => onSocketReadcb o inShadow answers s
  | .timeout answers => onSocketReadcb o inShadow answers s
  | .writable answer => onSocketWritecb o inShadow answer s
  | .act e => do
    let r ← (o.act e s.ch s.user).mapError .user
    return s.respond r

/-- A step that is taken. -/
def Step (s : Conn σ) (e : SocketEvent ε) (s' : Conn σ) : Prop :=
  Enabled inShadow s e ∧ step o inShadow s e = .ok s'

/-- Nothing happens to a channel that has been closed. -/
theorem closed_of_enabled {inShadow : Bool} {s : Conn σ} {e : SocketEvent ε}
    (hen : Enabled inShadow s e) : s.closed = false := by
  rcases e with _ | _ | ⟨_ | _⟩ | _
  · exact hen
  · exact hen.1
  · exact hen.1
  · exact hen
  · exact hen

/-! ### The dropping loop -/

variable {n : ℕ} {b : UInt8} {bs : List UInt8} {answers rest : List ReadAnswer}

/-- A read gives no more bytes than were asked for. -/
theorem sysRead_length (hn : 0 < n) (h : sysRead n answers = (.bytes b bs, rest)) :
    (b :: bs).length ≤ n := by
  rw [List.length_cons]
  cases answers with
  | nil => cases h
  | cons a answers =>
    cases a with
    | failure f => cases h
    | bytes c cs =>
      rw [sysRead] at h
      split at h
      · next hcond =>
        cases h
        omega
      · cases h
        rw [List.length_take]
        omega

/-- What the loop does: it drops some bytes, at most those that remain to be dropped, and goes on to the
end unless a read gives fewer bytes than it could, or none. -/
structure Drops (d d' : DropRead) (bs : List UInt8) : Prop where
  dropped : d'.droppedThisTime = d.droppedThisTime ++ bs
  length : bs.length ≤ d.drop.numRemaining
  drop : d'.drop = { d.drop with numRemaining := d.drop.numRemaining - bs.length }
  more : d'.maybeTheresMore = true → d'.drop.numRemaining = 0 ∧ d'.readError = none

/-- **The dropping loop**, whatever the socket answers: no assertion fails, and it comes to an end. -/
theorem dropreadLoop_spec {fuel : ℕ} {d : DropRead}
    (hfuel : d.maybeTheresMore = true → d.drop.numRemaining < fuel) (hpos : 0 < fuel)
    (herror : d.maybeTheresMore = true → d.readError = none) :
    ∃ d' bs, dropreadLoop (χ := χ) fuel d = .ok d' ∧ Drops d d' bs := by
  induction fuel generalizing d with
  | zero => exact absurd hpos (Nat.lt_irrefl 0)
  | succ fuel ih =>
    rw [dropreadLoop]
    by_cases hcond : d.drop.numRemaining ≠ 0 ∧ d.maybeTheresMore = true
    · rw [if_pos hcond]
      obtain ⟨hremaining, hmore⟩ := hcond
      have hlt := hfuel hmore
      have hask : 0 < min d.drop.numRemaining dropBufSize :=
        Nat.lt_min.mpr ⟨Nat.pos_of_ne_zero hremaining, by decide⟩
      dsimp only
      split
      · next b bs answers hread =>
        -- some bytes are dropped, and the loop goes on with fewer that remain
        have hlen := sysRead_length hask hread
        have hle : (b :: bs).length ≤ d.drop.numRemaining := Nat.le_trans hlen (Nat.min_le_left ..)
        rw [progress, check_pos hle, ok_bind]
        simp only [pure_eq_ok, ok_bind]
        obtain ⟨d', cs, heq, hdrops⟩ := ih (d := { d with
            drop := { d.drop with numRemaining := d.drop.numRemaining - (b :: bs).length }
            droppedThisTime := d.droppedThisTime ++ b :: bs
            maybeTheresMore := decide (¬ (b :: bs).length < min d.drop.numRemaining dropBufSize)
            answers })
          (fun _ => by
            show d.drop.numRemaining - (b :: bs).length < fuel
            rw [List.length_cons]
            omega)
          (by omega) (fun _ => herror hmore)
        refine ⟨d', b :: bs ++ cs, heq, ?_, ?_, ?_, hdrops.more⟩
        · rw [hdrops.dropped, List.append_assoc]
        · have hrest : cs.length ≤ d.drop.numRemaining - (b :: bs).length := hdrops.length
          rw [List.length_append]
          omega
        · rw [hdrops.drop, List.length_append, Nat.sub_sub]
      · next f answers hread =>
        obtain ⟨d', cs, heq, hdrops⟩ := ih (d := { d with
          maybeTheresMore := false, readError := some f, answers }) nofun (by omega) nofun
        exact ⟨d', cs, heq, hdrops.dropped, hdrops.length, hdrops.drop, hdrops.more⟩
    · rw [if_neg hcond]
      refine ⟨d, [], rfl, (List.append_nil _).symm, Nat.zero_le _, rfl, fun hmore => ?_⟩
      exact ⟨by_contra fun hne => hcond ⟨hne, hmore⟩, herror hmore⟩

/-- The loop of `_maybe_dropread`, from its beginning. -/
theorem dropread_spec (drop : InputDropInfo) (answers : List ReadAnswer) :
    ∃ d bs, dropreadLoop (χ := χ) (drop.numRemaining + 1) { drop, answers } = .ok d ∧
      Drops { drop, answers } d bs :=
  dropreadLoop_spec (fun _ => Nat.lt_succ_self _) (Nat.succ_pos _) fun _ => rfl

end Conn

end ShadowBrowser
