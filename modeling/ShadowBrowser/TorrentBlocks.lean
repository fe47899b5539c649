/-
The exchange of blocks between a torrent client and a torrent server.

The client requests a block, and then each side sends the other a block: the client `upBlockSize`
bytes and the server `downBlockSize`, sizes that `torrent_new` swaps for the server.  The client
fills its block with copies of a text that holds the time; when less is to be sent than one copy, it
overruns its buffer.  The server ends the exchange with `FINISHED`.  Both sides tell the phases apart
by looking for a keyword in what a single read returns, and by counting the bytes of the blocks; at
each boundary they change the events that they wait for.

`Exchange` is the two ends and the channels between them.  A socket accepts any part of what is
sent, and a read returns any part of what is on its way.  Each byte carries a tag, which the code
does not see: the number of its block and what it is a part of.  What is read is kept with the
phase it was read in.

* `BlockEnd.transfer_cases` — the transfer of blocks, which is the same code on both sides;
* `Phase` — where the two stand with each other, and `Inv.step`;
* **`blocks_exchanged`** — blocks are moved exactly and counted once, and the two do not wait for
  each other for ever;
* `step_overruns` — the step that overruns a buffer.
-/
import Mathlib.Algebra.Group.Nat.Defs
import Mathlib.Data.Int.Notation
import Mathlib.Data.List.Count
import Mathlib.Data.List.Infix
import ShadowBrowser.Runs
import ShadowBrowser.Texts

namespace ShadowBrowser

open Checked Runs Texts

namespace Torrent

/-! ### Keywords -/

/-- `tolower`. -/
def toLower (b : UInt8) : UInt8 := if 65 ≤ b ∧ b ≤ 90 then b + 32 else b

/-- The text in a buffer that holds the bytes just read, followed by a NUL. -/
def cString (bytes : List UInt8) : List UInt8 := bytes.takeWhile (· ≠ 0)

/-- Whether `strcasestr` finds a text in what has been read. -/
def strcasestr (bytes needle : List UInt8) : Bool :=
  (cString bytes).tails.any fun t => (needle.map toLower).isPrefixOf (t.map toLower)

/-- What the server looks for in a request. -/
@[irreducible] def fileRequest : List UInt8 := ascii "FILE REQUEST"

/-- What the server ends the exchange with. -/
@[irreducible] def finishedText : List UInt8 := ascii "FINISHED"

/-- What is in front of the cookie in a request. -/
@[irreducible] def torCookie : List UInt8 := ascii "TOR-COOKIE: "

/-- A digit of `%X`. -/
def hexDigit (d : ℕ) : UInt8 := UInt8.ofNat (if d < 10 then 48 + d else 55 + d)

/-- `%8.8X`. -/
def hex8 (cookie : UInt32) : List UInt8 :=
  (List.range 8).map fun i => hexDigit (cookie.toNat / 16 ^ (7 - i) % 16)

/-- The client's request. -/
def request (cookie : UInt32) : List UInt8 :=
  fileRequest ++ crlf ++ torCookie ++ hex8 cookie ++ crlf

/-! ### One end -/

/-- `EPOLLIN` and `EPOLLOUT`, each there or not. -/
structure Epoll where
  epollin : Bool := false
  epollout : Bool := false
  deriving DecidableEq, Repr

/-- `EPOLLIN`. -/
def Epoll.reading : Epoll := { epollin := true }

/-- `EPOLLOUT`. -/
def Epoll.writing : Epoll := { epollout := true }

/-- `EPOLLIN | EPOLLOUT`. -/
def Epoll.both : Epoll := { epollin := true, epollout := true }

/-- An end is told of events only that it waits for, and of some. -/
def Epoll.Within (events epoll : Epoll) : Prop :=
  (events.epollin = true → epoll.epollin = true) ∧
    (events.epollout = true → epoll.epollout = true) ∧
    (events.epollin = true ∨ events.epollout = true)

instance (events epoll : Epoll) : Decidable (events.Within epoll) :=
  inferInstanceAs (Decidable (_ ∧ _ ∧ _))

/-- What the socket does when it is read from and written to: how many bytes `recv` returns and how
many `send` accepts, `none` where they would block.  There are also what the server has taken for the
cookie, and `TIME_TO_NS` of the client's clock. -/
structure Io where
  recv : Option ℕ := none
  send : Option ℕ := none
  cookie : UInt32 := 0
  now : UInt64 := 0

/-- What can go wrong: what the socket does is not possible now, or a buffer is overrun. -/
inductive BlockCheck
  | notEnabled | bufferOverrun
  deriving DecidableEq, Repr

/-- `TC_BUF_SIZE` and `TS_BUF_SIZE`. -/
def bufSize : ℕ := 16384

/-- What is in front of the time in a client's block. -/
@[irreducible] def timeText : List UInt8 := ascii "TIME: "

/-- `TC_BUF_FILLER`. -/
def bufFiller (cookie : UInt32) (now : UInt64) : List UInt8 :=
  torCookie ++ hex8 cookie ++ crlf ++ timeText ++ decimal now.toNat ++ crlf

/-- `torrentClient_fillBuffer`: copies of the filler, one behind the other, as long as they begin
before `length - strlen(filler)`, and zeros.  That bound is a `size_t`; where the filler is the longer
of the two it wraps, and the copies go on over the end of the buffer. -/
def fillBuffer (length : ℕ) (filler : List UInt8) : Except BlockCheck (List UInt8) := do
  check (filler.length ≤ length) .bufferOverrun
  return (List.range length).map fun j =>
    if j / filler.length * filler.length < length - filler.length then
      filler.getD (j % filler.length) 0
    else 0

/-- How many copies `torrentServer_populateCookies` writes. -/
def cookieCopies (length : ℕ) : ℕ := (length - 18 + 17) / 18

/-- `torrentServer_populateCookies`: the copies begin 18 bytes apart and have 22 bytes and a NUL, so
each overwrites the end of the one before it.  The NUL of the last copy may be the byte behind the
buffer; what is stored there is left out. -/
def populateCookies (length : ℕ) (cookie : UInt32) : Except BlockCheck (List UInt8) := do
  let copies := cookieCopies length
  check (copies = 0 ∨ 18 * (copies - 1) + 22 ≤ bufSize) .bufferOverrun
  return (List.range length).map fun j =>
    if copies = 0 then 0
    else (torCookie ++ hex8 cookie ++ crlf).getD (j - 18 * min (j / 18) (copies - 1)) 0

/-- One end of the exchange. -/
structure BlockEnd (σ : Type) where
  state : σ
  epoll : Epoll
  downBlockSize : ℕ
  upBlockSize : ℕ
  downBytesTransfered : ℕ := 0
  upBytesTransfered : ℕ := 0

namespace BlockEnd

variable {σ : Type}

/-- What the end of the transfer part does: the counters tell what to wait for. -/
def settle (e : BlockEnd σ) (finished : σ) (next : Epoll) : BlockEnd σ :=
  if e.downBlockSize ≤ e.downBytesTransfered ∧ e.upBlockSize ≤ e.upBytesTransfered then
    { e with state := finished, epoll := next }
  else if e.downBlockSize ≤ e.downBytesTransfered then { e with epoll := .writing }
  else if e.upBlockSize ≤ e.upBytesTransfered then { e with epoll := .reading }
  else e

/-- How much of the buffer is filled for the next `send`. -/
def sendLen (e : BlockEnd σ) : ℕ := min (e.upBlockSize - e.upBytesTransfered) bufSize

/-- The part of the transfer that sends; `got` bytes have been received before it.  The buffer is
filled before it is known whether the socket takes anything. -/
def transferOut (e : BlockEnd σ) (fill : ℕ → Except BlockCheck (List UInt8)) (events : Epoll) (io : Io)
    (finished : σ) (next : Epoll) (got : ℕ) : Except BlockCheck (BlockEnd σ × ℕ × List UInt8) :=
  if events.epollout = true ∧ e.upBytesTransfered < e.upBlockSize then do
    let buf ← fill e.sendLen
    match io.send with
    | none => return (e, got, [])
    | some n => do
      check (0 < n ∧ n ≤ e.sendLen) .notEnabled
      let e' := { e with upBytesTransfered := e.upBytesTransfered + n }
      return (e'.settle finished next, got, buf.take n)
  else
    .ok (e.settle finished next, got, [])

/-- `TC_SERVER_TRANSFER` and `TS_TRANSFER`: receive, then send, then settle.  It ends at once where
the socket would block.  Returned are also the number of bytes received and the bytes sent. -/
def transfer (e : BlockEnd σ) (fill : ℕ → Except BlockCheck (List UInt8)) (events : Epoll) (io : Io)
    (finished : σ) (next : Epoll) (available : ℕ) :
    Except BlockCheck (BlockEnd σ × ℕ × List UInt8) :=
  if events.epollin = true ∧ e.downBytesTransfered < e.downBlockSize then
    match io.recv with
    | none => .ok (e, 0, [])
    | some n => do
      check (0 < n ∧ n ≤ min (e.downBlockSize - e.downBytesTransfered) bufSize ∧ n ≤ available)
        .notEnabled
      let e' := { e with downBytesTransfered := e.downBytesTransfered + n }
      e'.transferOut fill events io finished next n
  else
    e.transferOut fill events io finished next 0

end BlockEnd

/-! ### The exchange -/

/-- The states of the client's connection to the server, once the server can be called. -/
inductive ClientPhase
  | serverRequest | serverTransfer | serverFinished | serverIdle
  deriving DecidableEq, Repr

/-- The states of the server's connection to the client. -/
inductive ServerPhase
  | idle | request | transfer | finished
  deriving DecidableEq, Repr

/-- What a byte is a part of. -/
inductive Part
  | request | data | finished
  deriving DecidableEq, Repr

/-- What a byte is a part of, and the number of its block, from 1. -/
structure Tag where
  block : ℕ
  part : Part
  deriving DecidableEq, Repr

/-- A byte on its way. -/
structure Sent where
  tag : Tag
  byte : UInt8
  deriving DecidableEq, Repr

/-- Bytes that are sent. -/
def stamp (t : Tag) (bytes : List UInt8) : List Sent := bytes.map fun b => ⟨t, b⟩

/-- The tags of bytes that are read, with the phase in which they are read. -/
def readIn (phase : Part) (bytes : List Sent) : List (Part × Tag) := bytes.map fun x => (phase, x.tag)

/-- A `torrentClient` and a `torrentServer`. -/
structure Exchange where
  client : BlockEnd ClientPhase
  blocksRemaining : ℤ
  blocksDownloaded : ℕ := 0
  cookie : UInt32 := 0
  server : BlockEnd ServerPhase
  toServer : List Sent := []
  toClient : List Sent := []
  /-- The time of the client's last event. -/
  clock : UInt64 := 0
  /-- How many blocks the client has requested, and how many requests the server has found. -/
  requested : ℕ := 0
  accepted : ℕ := 0
  /-- What each side has read. -/
  clientRead : List (Part × Tag) := []
  serverRead : List (Part × Tag) := []

/-- One side is told of events. -/
inductive BlockEvent
  | client (events : Epoll) (io : Io)
  | server (events : Epoll) (io : Io)

namespace Exchange

/-- `TC_SERVER_REQUEST`. -/
def clientRequest (s : Exchange) (io : Io) : Except BlockCheck Exchange :=
  -- all blocks have been exchanged
  if s.blocksRemaining ≤ 0 then
    .ok { s with client := { s.client with state := .serverIdle, epoll := .reading } }
  else
    match io.send with
    | none => .ok s
    | some n => do
      -- a request that is cut is not sent on, and the next state begins all the same
      check (0 < n ∧ n ≤ (request s.cookie).length) .notEnabled
      return { s with
        client := { s.client with
          state := .serverTransfer
          epoll := .reading
          downBytesTransfered := 0
          upBytesTransfered := 0 }
        blocksRemaining := s.blocksRemaining - 1
        requested := s.requested + 1
        toServer := s.toServer ++ stamp ⟨s.requested + 1, .request⟩ ((request s.cookie).take n) }

/-- The client has received and sent parts of the blocks. -/
def clientMoved (s : Exchange) (client : BlockEnd ClientPhase) (got : ℕ) (put : List UInt8) :
    Exchange :=
  { s with
    client := client
    clientRead := s.clientRead ++ readIn .data (s.toClient.take got)
    toClient := s.toClient.drop got
    toServer := s.toServer ++ stamp ⟨s.requested, .data⟩ put }

/-- `TC_SERVER_TRANSFER`. -/
def clientTransfer (s : Exchange) (events : Epoll) (io : Io) : Except BlockCheck Exchange := do
  let x ← s.client.transfer (fillBuffer · (bufFiller s.cookie io.now)) events io .serverFinished
    .reading s.toClient.length
  return s.clientMoved x.1 x.2.1 x.2.2

/-- `TC_SERVER_FINISHED`. -/
def clientFinished (s : Exchange) (io : Io) : Except BlockCheck Exchange :=
  match io.recv with
  | none => .ok s
  | some n => do
    check (0 < n ∧ n ≤ bufSize ∧ n ≤ s.toClient.length) .notEnabled
    let s' := { s with
      clientRead := s.clientRead ++ readIn .finished (s.toClient.take n)
      toClient := s.toClient.drop n }
    -- the text is looked for in what this call has received
    if strcasestr ((s.toClient.take n).map Sent.byte) finishedText = true then
      return { s' with
        client := { s'.client with state := .serverRequest, epoll := .writing }
        blocksDownloaded := s'.blocksDownloaded + 1 }
    else
      return s'

/-- `torrentClient_activate`, on the connection to the server. -/
def clientActivate (s : Exchange) (events : Epoll) (io : Io) : Except BlockCheck Exchange :=
  match s.client.state with
  | .serverRequest => s.clientRequest io
  | .serverTransfer => s.clientTransfer events io
  | .serverFinished => s.clientFinished io
  | .serverIdle => .ok s

/-- `TS_REQUEST`. -/
def serverRequest (s : Exchange) (io : Io) : Except BlockCheck Exchange :=
  match io.recv with
  | none => .ok s
  | some n => do
    check (0 < n ∧ n ≤ bufSize ∧ n ≤ s.toServer.length) .notEnabled
    let s' := { s with
      serverRead := s.serverRead ++ readIn .request (s.toServer.take n)
      toServer := s.toServer.drop n }
    if strcasestr ((s.toServer.take n).map Sent.byte) fileRequest = true then
      return { s' with
        server := { s'.server with state := .transfer, epoll := .both }
        accepted := s'.accepted + 1 }
    else
      return s'

/-- The server has received and sent parts of the blocks. -/
def serverMoved (s : Exchange) (server : BlockEnd ServerPhase) (got : ℕ) (put : List UInt8) :
    Exchange :=
  { s with
    server := server
    serverRead := s.serverRead ++ readIn .data (s.toServer.take got)
    toServer := s.toServer.drop got
    toClient := s.toClient ++ stamp ⟨s.accepted, .data⟩ put }

/-- `TS_TRANSFER`. -/
def serverTransfer (s : Exchange) (events : Epoll) (io : Io) : Except BlockCheck Exchange := do
  let x ← s.server.transfer (populateCookies · io.cookie) events io .finished .writing
    s.toServer.length
  return s.serverMoved x.1 x.2.1 x.2.2

/-- `TS_FINISHED`. -/
def serverFinished (s : Exchange) (io : Io) : Except BlockCheck Exchange :=
  match io.send with
  | none => .ok s
  | some n => do
    check (0 < n ∧ n ≤ finishedText.length) .notEnabled
    return { s with
      server := { s.server with state := .idle, epoll := .reading }
      toClient := s.toClient ++ stamp ⟨s.accepted, .finished⟩ (finishedText.take n) }

/-- The first part of `TS_IDLE`. -/
def serverIdle (s : Exchange) : Exchange :=
  { s with
    server := { s.server with
      state := .request
      epoll := .reading
      downBytesTransfered := 0
      upBytesTransfered := 0 } }

/-- `torrentServer_activate`, on the connection to the client.  `TS_IDLE` goes on into
`TS_REQUEST`. -/
def serverActivate (s : Exchange) (events : Epoll) (io : Io) : Except BlockCheck Exchange :=
  match s.server.state with
  | .idle => s.serverIdle.serverRequest io
  | .request => s.serverRequest io
  | .transfer => s.serverTransfer events io
  | .finished => s.serverFinished io

/-- One step. -/
def step (s : Exchange) : BlockEvent → Except BlockCheck Exchange
  | .client events io => do
    check (events.Within s.client.epoll) .notEnabled
    { s with clock := io.now }.clientActivate events io
  | .server events io => do
    check (events.Within s.server.epoll) .notEnabled
    s.serverActivate events io

/-- The step goes through. -/
def Step (s : Exchange) (e : BlockEvent) (t : Exchange) : Prop := s.step e = .ok t

end Exchange

/-! ### What is found in a read -/

/-- A text without a NUL is found where it comes first. -/
theorem strcasestr_append {needle : List UInt8} (h : 0 ∉ needle) (rest : List UInt8) :
    strcasestr (needle ++ rest) needle = true := by
  have hstr : cString (needle ++ rest) = needle ++ cString rest :=
    List.takeWhile_append_of_pos fun b hb => decide_eq_true fun hz => h (hz ▸ hb)
  rw [strcasestr, hstr, List.any_eq_true]
  refine ⟨needle ++ cString rest, ?_, ?_⟩
  · exact (List.mem_tails _ _).mpr (List.suffix_refl _)
  · rw [List.map_append, List.isPrefixOf_iff_prefix]
    exact List.prefix_append _ _

theorem fileRequest_noNul : 0 ∉ fileRequest := by
  rw [fileRequest]
  decide

theorem length_fileRequest : fileRequest.length = 12 := by
  rw [fileRequest]
  rfl

theorem finishedText_noNul : 0 ∉ finishedText := by
  rw [finishedText]
  decide

theorem length_finishedText : finishedText.length = 8 := by
  rw [finishedText]
  rfl

/-- A request of which the keyword has been accepted is found. -/
theorem strcasestr_request {n : ℕ} (h : 12 ≤ n) (cookie : UInt32) :
    strcasestr ((request cookie).take n) fileRequest = true := by
  have hle : fileRequest.length ≤ n := by rw [length_fileRequest]; exact h
  rw [request, List.append_assoc, List.append_assoc, List.append_assoc,
    List.take_append, List.take_of_length_le hle]
  exact strcasestr_append fileRequest_noNul _

theorem strcasestr_finishedText : strcasestr finishedText finishedText = true := by
  have h := strcasestr_append finishedText_noNul []
  rwa [List.append_nil] at h

/-! ### Tags -/

theorem map_byte_stamp (t : Tag) (bytes : List UInt8) : (stamp t bytes).map Sent.byte = bytes := by
  rw [stamp, List.map_map]
  exact List.map_id _

theorem map_tag_stamp (t : Tag) (bytes : List UInt8) :
    (stamp t bytes).map Sent.tag = List.replicate bytes.length t := by
  rw [stamp, List.map_map]
  exact List.map_const' ..

theorem length_of_tags {l : List Sent} {m : ℕ} {t : Tag} (h : l.map Sent.tag = List.replicate m t) :
    l.length = m := by
  rw [← List.length_map Sent.tag, h, List.length_replicate]

theorem readIn_take {l : List Sent} {m n : ℕ} {t : Tag} (h : l.map Sent.tag = List.replicate m t)
    (hn : n ≤ m) (phase : Part) : readIn phase (l.take n) = List.replicate n (phase, t) := by
  have hmap : readIn phase (l.take n) = ((l.map Sent.tag).take n).map fun t => (phase, t) := by
    rw [readIn, ← List.map_take, List.map_map]
    rfl
  rw [hmap, h, List.take_replicate, Nat.min_eq_left hn, List.map_replicate]

theorem tags_drop {l : List Sent} {m : ℕ} {t : Tag} (h : l.map Sent.tag = List.replicate m t)
    (n : ℕ) : (l.drop n).map Sent.tag = List.replicate (m - n) t := by
  rw [List.map_drop, h, List.drop_replicate]

theorem tags_append {l : List Sent} {m : ℕ} {t : Tag} (h : l.map Sent.tag = List.replicate m t)
    (bytes : List UInt8) :
    (l ++ stamp t bytes).map Sent.tag = List.replicate (m + bytes.length) t := by
  rw [List.map_append, h, map_tag_stamp, List.replicate_append_replicate]

theorem length_populateCookies {length : ℕ} {cookie : UInt32} {buf : List UInt8}
    (h : populateCookies length cookie = .ok buf) : buf.length = length := by
  obtain ⟨_, -, h⟩ := bind_eq_ok.mp h
  cases h
  rw [List.length_map, List.length_range]

/-- The copies stay in the buffer, the last NUL apart. -/
theorem populateCookies_fits {length : ℕ} (h : length ≤ bufSize) (cookie : UInt32) :
    ∃ buf, populateCookies length cookie = .ok buf := by
  have hcopies : cookieCopies length = 0 ∨ 18 * (cookieCopies length - 1) + 22 ≤ bufSize := by
    rw [cookieCopies]
    rw [bufSize] at h ⊢
    omega
  rw [populateCookies]
  rw [check_pos hcopies]
  exact ⟨_, rfl⟩

theorem length_fillBuffer {length : ℕ} {filler buf : List UInt8}
    (h : fillBuffer length filler = .ok buf) : buf.length = length := by
  obtain ⟨_, -, h⟩ := bind_eq_ok.mp h
  cases h
  rw [List.length_map, List.length_range]

theorem fillBuffer_fits {length : ℕ} {filler : List UInt8} (h : filler.length ≤ length) :
    ∃ buf, fillBuffer length filler = .ok buf := by
  rw [fillBuffer, check_pos h]
  exact ⟨_, rfl⟩

/-- How many bytes of a block have been read. -/
def moved (reads : List (Part × Tag)) (block : ℕ) : ℕ := (reads.map Prod.snd).count ⟨block, .data⟩

theorem moved_append_replicate (reads : List (Part × Tag)) (n : ℕ) (phase : Part) (t : Tag) (b : ℕ) :
    moved (reads ++ List.replicate n (phase, t)) b =
      moved reads b + if t = ⟨b, .data⟩ then n else 0 := by
  rw [moved, moved, List.map_append, List.count_append, List.map_replicate, List.count_replicate]
  simp only [beq_iff_eq]

/-- Reading bytes that are not of a block. -/
theorem moved_other (reads : List (Part × Tag)) (n : ℕ) (phase : Part) {t : Tag} (h : t.part ≠ .data)
    (b : ℕ) : moved (reads ++ List.replicate n (phase, t)) b = moved reads b := by
  have hne : t ≠ ⟨b, .data⟩ := fun ht => h (ht ▸ rfl)
  rw [moved_append_replicate, if_neg hne, Nat.add_zero]

/-- What is read in its own phase. -/
theorem inPhase_append {reads : List (Part × Tag)} (h : ∀ r ∈ reads, r.1 = r.2.part) (n : ℕ) (t : Tag) :
    ∀ r ∈ reads ++ List.replicate n (t.part, t), r.1 = r.2.part := by
  intro r hr
  obtain hr | hr := List.mem_append.mp hr
  · exact h r hr
  · rw [List.eq_of_mem_replicate hr]

/-! ### The transfer of blocks -/

namespace BlockEnd

variable {σ : Type} {e e' : BlockEnd σ} {fill : ℕ → Except BlockCheck (List UInt8)}
  {events next : Epoll} {io : Io} {finished : σ} {available got got' : ℕ} {put : List UInt8}

/-- An end that has received and sent some bytes. -/
def counted (e : BlockEnd σ) (got put : ℕ) : BlockEnd σ :=
  { e with
    downBytesTransfered := e.downBytesTransfered + got
    upBytesTransfered := e.upBytesTransfered + put }

@[simp] theorem counted_zero (e : BlockEnd σ) : e.counted 0 0 = e := rfl

/-- Settling changes the state and what is waited for only. -/
theorem settle_sizes (e : BlockEnd σ) (finished : σ) (next : Epoll) :
    (e.settle finished next).downBlockSize = e.downBlockSize ∧
      (e.settle finished next).upBlockSize = e.upBlockSize ∧
      (e.settle finished next).downBytesTransfered = e.downBytesTransfered ∧
      (e.settle finished next).upBytesTransfered = e.upBytesTransfered := by
  rw [settle]
  split_ifs <;> exact ⟨rfl, rfl, rfl, rfl⟩

theorem settle_done (finished : σ) (next : Epoll)
    (hd : e.downBlockSize ≤ e.downBytesTransfered)
    (hu : e.upBlockSize ≤ e.upBytesTransfered) :
    e.settle finished next = { e with state := finished, epoll := next } := by
  rw [settle, if_pos ⟨hd, hu⟩]

theorem settle_full (finished : σ) (next : Epoll)
    (hd : e.downBlockSize ≤ e.downBytesTransfered)
    (hu : e.upBytesTransfered < e.upBlockSize) :
    e.settle finished next = { e with epoll := .writing } := by
  rw [settle, if_neg fun h => absurd h.2 (Nat.not_le.mpr hu), if_pos hd]

theorem settle_sent (finished : σ) (next : Epoll)
    (hd : e.downBytesTransfered < e.downBlockSize)
    (hu : e.upBlockSize ≤ e.upBytesTransfered) :
    e.settle finished next = { e with epoll := .reading } := by
  rw [settle, if_neg fun h => absurd h.1 (Nat.not_le.mpr hd), if_neg (Nat.not_le.mpr hd), if_pos hu]

theorem settle_neither (finished : σ) (next : Epoll)
    (hd : e.downBytesTransfered < e.downBlockSize)
    (hu : e.upBytesTransfered < e.upBlockSize) : e.settle finished next = e := by
  rw [settle, if_neg fun h => absurd h.1 (Nat.not_le.mpr hd), if_neg (Nat.not_le.mpr hd),
    if_neg (Nat.not_le.mpr hu)]

/-- How many bytes can be received: some when they are waited for and lacking, else none. -/
def Receives (e : BlockEnd σ) (events : Epoll) (available got : ℕ) : Prop :=
  if events.epollin = true ∧ e.downBytesTransfered < e.downBlockSize then
    0 < got ∧ e.downBytesTransfered + got ≤ e.downBlockSize ∧ got ≤ available
  else got = 0

/-- How many bytes can be sent: what the socket accepts of those offered to it. -/
def Sends (e : BlockEnd σ) (events : Epoll) (io : Io) (put : ℕ) : Prop :=
  if events.epollout = true ∧ e.upBytesTransfered < e.upBlockSize then
    0 < put ∧ e.upBytesTransfered + put ≤ e.upBlockSize ∧ io.send = some put
  else put = 0

/-- How the transfer ends. -/
inductive Transferred (e : BlockEnd σ) (events : Epoll) (io : Io) (finished : σ) (next : Epoll)
    (available : ℕ) : BlockEnd σ → ℕ → List UInt8 → Prop
  /-- Nothing could be received. -/
  | recvBlocked : Transferred e events io finished next available e 0 []
  /-- Nothing could be sent; what to wait for is not looked at. -/
  | sendBlocked (got : ℕ) : e.Receives events available got → events.epollout = true →
      Transferred e events io finished next available (e.counted got 0) got []
  | settled (got : ℕ) (put : List UInt8) : e.Receives events available got →
      e.Sends events io put.length →
      Transferred e events io finished next available
        ((e.counted got put.length).settle finished next) got put

theorem transferOut_cases {e : BlockEnd σ} (n : ℕ)
    (hfill : ∀ len buf, fill len = .ok buf → buf.length = len) (hgot : e.Receives events available n)
    (h : (e.counted n 0).transferOut fill events io finished next n = .ok (e', got', put)) :
    Transferred e events io finished next available e' got' put := by
  rw [transferOut] at h
  by_cases hout : events.epollout = true ∧ e.upBytesTransfered < e.upBlockSize
  · have hout' : events.epollout = true ∧
        (e.counted n 0).upBytesTransfered < (e.counted n 0).upBlockSize := hout
    rw [if_pos hout'] at h
    obtain ⟨buf, hbuf, h⟩ := bind_eq_ok.mp h
    cases hsend : io.send with
    | none =>
      rw [hsend] at h
      cases h
      exact .sendBlocked _ hgot hout.1
    | some m =>
      rw [hsend] at h
      obtain ⟨_, hn, h⟩ := bind_eq_ok.mp h
      obtain ⟨hpos, hle⟩ := check_eq_ok.mp hn
      have htake : (buf.take m).length = m := by
        rw [List.length_take, hfill _ _ hbuf, Nat.min_eq_left hle]
      have hsends : e.Sends events io (buf.take m).length := by
        rw [Sends, if_pos hout, htake]
        rw [sendLen] at hle
        dsimp only [counted] at hle
        exact ⟨hpos, by omega, hsend⟩
      have hend : Transferred e events io finished next available
          ((e.counted n (buf.take m).length).settle finished next) n (buf.take m) :=
        .settled n _ hgot hsends
      rw [htake] at hend
      cases h
      exact hend
  · have hout' : ¬ (events.epollout = true ∧
        (e.counted n 0).upBytesTransfered < (e.counted n 0).upBlockSize) := hout
    rw [if_neg hout'] at h
    cases h
    refine .settled _ [] hgot ?_
    rw [Sends, if_neg hout, List.length_nil]

/-- **The transfer**, whatever the socket does. -/
theorem transfer_cases (hfill : ∀ len buf, fill len = .ok buf → buf.length = len)
    (h : e.transfer fill events io finished next available = .ok (e', got, put)) :
    Transferred e events io finished next available e' got put := by
  rw [transfer] at h
  by_cases hin : events.epollin = true ∧ e.downBytesTransfered < e.downBlockSize
  · rw [if_pos hin] at h
    cases hrecv : io.recv with
    | none =>
      rw [hrecv] at h
      cases h
      exact .recvBlocked
    | some n =>
      rw [hrecv] at h
      obtain ⟨_, hn, h⟩ := bind_eq_ok.mp h
      obtain ⟨hpos, hle, havail⟩ := check_eq_ok.mp hn
      refine transferOut_cases n hfill ?_ h
      rw [Receives, if_pos hin]
      omega
  · rw [if_neg hin] at h
    refine transferOut_cases 0 hfill ?_ h
    rw [Receives, if_neg hin]

/-- A transfer does not overrun a buffer that can be filled. -/
theorem transfer_avoids (hfill : e.upBytesTransfered < e.upBlockSize → ∃ buf, fill e.sendLen = .ok buf) :
    Avoids .bufferOverrun (e.transfer fill events io finished next available) := by
  have hother : BlockCheck.notEnabled ≠ .bufferOverrun := by decide
  have hout : ∀ e' : BlockEnd σ, ∀ got, e'.upBytesTransfered = e.upBytesTransfered →
      e'.upBlockSize = e.upBlockSize →
      Avoids .bufferOverrun (e'.transferOut fill events io finished next got) := by
    intro e' got hup hsize
    rw [transferOut]
    refine .ite (fun hc => ?_) fun _ => .ok
    rw [hup, hsize] at hc
    obtain ⟨buf, hbuf⟩ := hfill hc.2
    have hlen : e'.sendLen = e.sendLen := by rw [sendLen, sendLen, hup, hsize]
    rw [hlen, hbuf, ok_bind]
    cases io.send with
    | none => exact .ok
    | some n => exact .check_bind hother fun _ => .ok
  rw [transfer]
  refine .ite (fun _ => ?_) fun _ => hout e 0 rfl rfl
  cases io.recv with
  | none => exact .ok
  | some n => exact .check_bind hother fun _ => hout _ n rfl rfl

end BlockEnd

/-! ### Where the two stand -/

namespace Exchange

variable {s s' t : Exchange} {events : Epoll} {io : Io} {D U : ℕ}

/-- Of the client's block nothing is left, or as much as the filler of the time is long. -/
def Fits (cookie : UInt32) (now : UInt64) (left : ℕ) : Prop :=
  left = 0 ∨ (bufFiller cookie now).length ≤ min left bufSize

instance (cookie : UInt32) (now : UInt64) (left : ℕ) : Decidable (Fits cookie now left) :=
  inferInstanceAs (Decidable (_ ∨ _))

/-- A send of a request accepts its keyword, and is read with one read; a send of `FINISHED` accepts
all of it, and is read with one read; what is left of the client's block, also behind a send, fits the
filler. -/
def Sound (s : Exchange) : BlockEvent → Prop
  | .client events io =>
    (s.client.state = .serverRequest → ∀ n ∈ io.send, 12 ≤ n) ∧
      (s.client.state = .serverFinished → ∀ n ∈ io.recv, n = s.toClient.length) ∧
      (s.client.state = .serverTransfer →
        Fits s.cookie io.now (s.client.upBlockSize - s.client.upBytesTransfered) ∧
        (events.epollout = true → ∀ n ∈ io.send,
          Fits s.cookie io.now (s.client.upBlockSize - (s.client.upBytesTransfered + n))))
  | .server _ io =>
    (s.server.state = .idle ∨ s.server.state = .request → ∀ n ∈ io.recv, n = s.toServer.length) ∧
      (s.server.state = .finished → ∀ n ∈ io.send, n = 8)

instance (s : Exchange) : ∀ e, Decidable (s.Sound e)
  | .client .. => inferInstanceAs (Decidable (_ ∧ _ ∧ _))
  | .server .. => inferInstanceAs (Decidable (_ ∧ _))

/-- How many bytes of a block have been read, when `d` blocks are finished and `c` bytes of the next
one have been read. -/
def share (d size c b : ℕ) : ℕ := if b = d + 1 then c else if 1 ≤ b ∧ b ≤ d then size else 0

/-- What has been read of each block. -/
def Counts (s : Exchange) (D U cd sd : ℕ) : Prop :=
  ∀ b, moved s.clientRead b = share s.blocksDownloaded D cd b ∧
    moved s.serverRead b = share s.blocksDownloaded U sd b

/-- The server waits for a request. -/
def Listening (server : BlockEnd ServerPhase) : Prop :=
  server.epoll = .reading ∧ (server.state = .idle ∨
    server.state = .request ∧ server.downBytesTransfered = 0 ∧ server.upBytesTransfered = 0)

/-- No block has been requested that is not finished. -/
structure Resting (s : Exchange) (D U : ℕ) : Prop where
  client : s.client.state = .serverRequest ∧ s.client.epoll = .writing ∨
    s.client.state = .serverIdle
  server : Listening s.server
  toServer : s.toServer = []
  toClient : s.toClient = []
  requested : s.requested = s.blocksDownloaded
  accepted : s.accepted = s.blocksDownloaded
  counts : s.Counts D U 0 0

/-- A request is on its way, of which `n` bytes have been accepted. -/
structure Asking (s : Exchange) (D U n : ℕ) : Prop where
  keyword : 12 ≤ n
  client : s.client.state = .serverTransfer ∧ s.client.epoll = .reading
  counters : s.client.downBytesTransfered = 0 ∧ s.client.upBytesTransfered = 0
  server : Listening s.server
  toServer : s.toServer = stamp ⟨s.blocksDownloaded + 1, .request⟩ ((request s.cookie).take n)
  toClient : s.toClient = []
  requested : s.requested = s.blocksDownloaded + 1
  accepted : s.accepted = s.blocksDownloaded
  counts : s.Counts D U 0 0

/-- The server sends its block; `m` bytes of it are on their way. -/
structure Downloading (s : Exchange) (D U m : ℕ) : Prop where
  client : s.client.state = .serverTransfer ∧ s.client.epoll = .reading
  lacking : s.client.downBytesTransfered < D
  unsent : s.client.upBytesTransfered = 0
  server : s.server.state = .transfer
  epoll : s.server.epoll = if s.server.upBytesTransfered < D then .both else .reading
  unread : s.server.downBytesTransfered = 0
  toServer : s.toServer = []
  toClient : s.toClient.map Sent.tag = List.replicate m ⟨s.blocksDownloaded + 1, .data⟩
  balance : s.client.downBytesTransfered + m = s.server.upBytesTransfered
  le : s.server.upBytesTransfered ≤ D
  requested : s.requested = s.blocksDownloaded + 1
  accepted : s.accepted = s.blocksDownloaded + 1
  counts : s.Counts D U s.client.downBytesTransfered 0

/-- The client sends its block; `m` bytes of it are on their way. -/
structure Uploading (s : Exchange) (D U m : ℕ) : Prop where
  client : s.client.state = .serverTransfer ∧ s.client.epoll = .writing ∧
      s.client.upBytesTransfered < U ∨
    s.client.state = .serverFinished ∧ s.client.epoll = .reading ∧ s.client.upBytesTransfered = U
  full : s.client.downBytesTransfered = D
  server : s.server.state = .transfer ∧ s.server.epoll = .reading
  sent : s.server.upBytesTransfered = D
  lacking : s.server.downBytesTransfered < U
  fits : Fits s.cookie s.clock (U - s.client.upBytesTransfered)
  toServer : s.toServer.map Sent.tag = List.replicate m ⟨s.blocksDownloaded + 1, .data⟩
  balance : s.server.downBytesTransfered + m = s.client.upBytesTransfered
  toClient : s.toClient = []
  requested : s.requested = s.blocksDownloaded + 1
  accepted : s.accepted = s.blocksDownloaded + 1
  counts : s.Counts D U D s.server.downBytesTransfered

/-- Both blocks have been moved. -/
structure Moved (s : Exchange) (D U : ℕ) : Prop where
  client : s.client.state = .serverFinished ∧ s.client.epoll = .reading
  server : s.server.state = .finished ∧ s.server.epoll = .writing
  toServer : s.toServer = []
  toClient : s.toClient = []
  requested : s.requested = s.blocksDownloaded + 1
  accepted : s.accepted = s.blocksDownloaded + 1
  counts : s.Counts D U D U

/-- `FINISHED` is on its way. -/
structure Told (s : Exchange) (D U : ℕ) : Prop where
  client : s.client.state = .serverFinished ∧ s.client.epoll = .reading
  server : Listening s.server
  toServer : s.toServer = []
  toClient : s.toClient = stamp ⟨s.blocksDownloaded + 1, .finished⟩ finishedText
  requested : s.requested = s.blocksDownloaded + 1
  accepted : s.accepted = s.blocksDownloaded + 1
  counts : s.Counts D U D U

/-- Where the two stand with each other. -/
inductive Phase (s : Exchange) (D U : ℕ) : Prop
  | resting (h : s.Resting D U)
  | asking (n : ℕ) (h : s.Asking D U n)
  | downloading (m : ℕ) (h : s.Downloading D U m)
  | uploading (m : ℕ) (h : s.Uploading D U m)
  | moved (h : s.Moved D U)
  | told (h : s.Told D U)

/-- What holds between the steps. -/
structure Inv (D U : ℕ) (s : Exchange) : Prop where
  posDown : 0 < D
  posUp : 0 < U
  client : s.client.downBlockSize = D ∧ s.client.upBlockSize = U
  server : s.server.downBlockSize = U ∧ s.server.upBlockSize = D
  clientPhase : ∀ r ∈ s.clientRead, r.1 = r.2.part
  serverPhase : ∀ r ∈ s.serverRead, r.1 = r.2.part
  phase : s.Phase D U

/-! ### Counting -/

theorem share_add (d size c n b : ℕ) :
    share d size c b + (if (⟨d + 1, .data⟩ : Tag) = ⟨b, .data⟩ then n else 0) =
      share d size (c + n) b := by
  by_cases hb : b = d + 1
  · subst hb
    rw [share, share, if_pos rfl, if_pos rfl, if_pos rfl]
  · have hne : (⟨d + 1, .data⟩ : Tag) ≠ ⟨b, .data⟩ := fun h => hb (Tag.mk.inj h).1.symm
    rw [share, share, if_neg hb, if_neg hb, if_neg hne, Nat.add_zero]

/-- A block that is finished counts as a whole. -/
theorem share_succ (d size b : ℕ) : share d size size b = share (d + 1) size 0 b := by
  rw [share, share]
  split_ifs <;> omega

/-- More of the present block has been read. -/
theorem share_moved {reads : List (Part × Tag)} {l : List Sent} {d size c m n b : ℕ}
    (hreads : moved reads b = share d size c b)
    (hl : l.map Sent.tag = List.replicate m ⟨d + 1, .data⟩) (hn : n ≤ m) :
    moved (reads ++ readIn .data (l.take n)) b = share d size (c + n) b := by
  rw [readIn_take hl hn, moved_append_replicate, hreads, share_add]

/-! ### The client's steps -/

/-- The clock of the client goes on. -/
theorem Inv.tick (h : Inv D U s) {now : UInt64}
    (hfits : s.client.state = .serverTransfer →
      Fits s.cookie now (s.client.upBlockSize - s.client.upBytesTransfered)) :
    Inv D U { s with clock := now } := by
  refine ⟨h.posDown, h.posUp, h.client, h.server, h.clientPhase, h.serverPhase, ?_⟩
  cases h.phase with
  | resting hr => exact .resting ⟨hr.1, hr.2, hr.3, hr.4, hr.5, hr.6, hr.7⟩
  | asking n ha => exact .asking n ⟨ha.1, ha.2, ha.3, ha.4, ha.5, ha.6, ha.7, ha.8, ha.9⟩
  | downloading m hd =>
    exact .downloading m ⟨hd.1, hd.2, hd.3, hd.4, hd.5, hd.6, hd.7, hd.8, hd.9, hd.10, hd.11, hd.12,
      hd.13⟩
  | uploading m hu =>
    have hfits' : Fits s.cookie now (U - s.client.upBytesTransfered) := by
      obtain ⟨hst, -⟩ | ⟨-, -, hdone⟩ := hu.client
      · rw [← h.client.2]
        exact hfits hst
      · rw [hdone, Nat.sub_self]
        exact .inl rfl
    exact .uploading m ⟨hu.client, hu.full, hu.server, hu.sent, hu.lacking, hfits', hu.toServer,
      hu.balance, hu.toClient, hu.requested, hu.accepted, hu.counts⟩
  | moved hm => exact .moved ⟨hm.1, hm.2, hm.3, hm.4, hm.5, hm.6, hm.7⟩
  | told ht => exact .told ⟨ht.1, ht.2, ht.3, ht.4, ht.5, ht.6, ht.7⟩

theorem clientMoved_zero (s : Exchange) : s.clientMoved s.client 0 [] = s := by
  have hput : s.toServer ++ stamp ⟨s.requested, .data⟩ [] = s.toServer := List.append_nil _
  have hread : s.clientRead ++ readIn .data (s.toClient.take 0) = s.clientRead := List.append_nil _
  rw [clientMoved, hput, hread, List.drop_zero]

/-- The client receives a part of the server's block, and perhaps the last. -/
theorem Inv.clientReceives (h : Inv D U s) {m got : ℕ} (hd : s.Downloading D U m)
    (hgot : s.client.downBytesTransfered + got ≤ D ∧ got ≤ m) (hfits : Fits s.cookie s.clock U) :
    Inv D U (s.clientMoved ((s.client.counted got 0).settle .serverFinished .reading) got []) := by
  obtain ⟨hD, hU⟩ := h.client
  have hdrop := tags_drop hd.toClient got
  have hbalance := hd.balance
  have hserver := hd.le
  obtain ⟨hsizeD, hsizeU, hdown, hup⟩ :=
    (s.client.counted got 0).settle_sizes .serverFinished .reading
  have hup' : ((s.client.counted got 0).settle .serverFinished .reading).upBytesTransfered = 0 :=
    hup.trans hd.unsent
  have hunsent : (s.client.counted got 0).upBytesTransfered < (s.client.counted got 0).upBlockSize := by
    show s.client.upBytesTransfered + 0 < s.client.upBlockSize
    rw [hd.unsent, hU]
    exact h.posUp
  have hsent : s.toServer ++ stamp ⟨s.requested, .data⟩ [] = [] := by
    rw [hd.toServer]
    rfl
  have hmoved : ∀ b, moved (s.clientRead ++ readIn .data (s.toClient.take got)) b =
      share s.blocksDownloaded D (s.client.downBytesTransfered + got) b :=
    fun b => share_moved (hd.counts b).1 hd.toClient hgot.2
  refine ⟨h.posDown, h.posUp, ⟨hsizeD.trans hD, hsizeU.trans hU⟩, h.server, ?_, h.serverPhase, ?_⟩
  · show ∀ r ∈ s.clientRead ++ readIn .data (s.toClient.take got), r.1 = r.2.part
    rw [readIn_take hd.toClient hgot.2]
    exact inPhase_append h.clientPhase got ⟨s.blocksDownloaded + 1, .data⟩
  -- the block is complete, and the exchange turns to the upload, or more of it is to come
  by_cases hfull : s.client.downBytesTransfered + got = D
  · have hle : (s.client.counted got 0).downBlockSize ≤ (s.client.counted got 0).downBytesTransfered := by
      show s.client.downBlockSize ≤ s.client.downBytesTransfered + got
      omega
    have hsettle := BlockEnd.settle_full ClientPhase.serverFinished .reading
      hle hunsent
    have hm : m - got = 0 := by omega
    have hsu : s.server.upBytesTransfered = D := by omega
    have hepoll := hd.epoll
    rw [if_neg (by omega)] at hepoll
    rw [hm] at hdrop
    refine .uploading 0 ⟨.inl ⟨?_, ?_, ?_⟩, hdown.trans hfull, ⟨hd.server, hepoll⟩, hsu, ?_, ?_, ?_, ?_,
      List.map_eq_nil_iff.mp hdrop, hd.requested, hd.accepted, fun b => ⟨?_, ?_⟩⟩
    · exact (congrArg BlockEnd.state hsettle).trans hd.client.1
    · exact congrArg BlockEnd.epoll hsettle
    · exact hup'.trans_lt h.posUp
    · exact hd.unread.trans_lt h.posUp
    · show Fits s.cookie s.clock
        (U - ((s.client.counted got 0).settle .serverFinished .reading).upBytesTransfered)
      rw [hup', Nat.sub_zero]
      exact hfits
    · exact congrArg (List.map Sent.tag) hsent
    · exact (congrArg (· + 0) hd.unread).trans hup'.symm
    · exact (hmoved b).trans (congrArg (share s.blocksDownloaded D · b) hfull)
    · exact (hd.counts b).2.trans (congrArg (share s.blocksDownloaded U · b) hd.unread.symm)
  · have hlt : (s.client.counted got 0).downBytesTransfered < (s.client.counted got 0).downBlockSize := by
      show s.client.downBytesTransfered + got < s.client.downBlockSize
      omega
    have hsettle := BlockEnd.settle_neither ClientPhase.serverFinished .reading hlt hunsent
    refine .downloading (m - got) ⟨⟨?_, ?_⟩, ?_, hup', hd.server, hd.epoll, hd.unread, hsent, hdrop,
      ?_, hd.le, hd.requested, hd.accepted, fun b => ⟨?_, (hd.counts b).2⟩⟩
    · exact (congrArg BlockEnd.state hsettle).trans hd.client.1
    · exact (congrArg BlockEnd.epoll hsettle).trans hd.client.2
    · exact hdown.trans_lt (show s.client.downBytesTransfered + got < D by omega)
    · refine (congrArg (· + (m - got)) hdown).trans ?_
      show s.client.downBytesTransfered + got + (m - got) = s.server.upBytesTransfered
      omega
    · exact (hmoved b).trans (congrArg (share s.blocksDownloaded D · b) hdown.symm)

/-- The client sends a part of its block, and perhaps the last. -/
theorem Inv.clientSends (h : Inv D U s) {m : ℕ} {bytes : List UInt8} (hu : s.Uploading D U m)
    (hstate : s.client.state = .serverTransfer)
    (hput : s.client.upBytesTransfered + bytes.length ≤ U)
    (hfits : Fits s.cookie s.clock (U - (s.client.upBytesTransfered + bytes.length))) :
    Inv D U (s.clientMoved ((s.client.counted 0 bytes.length).settle .serverFinished .reading) 0
      bytes) := by
  obtain ⟨put, hlen⟩ : ∃ put, put = bytes.length := ⟨_, rfl⟩
  rw [← hlen] at hput hfits ⊢
  obtain ⟨hD, hU⟩ := h.client
  have hfull := hu.full
  have hbalance := hu.balance
  obtain ⟨hsizeD, hsizeU, hdown, hup⟩ :=
    (s.client.counted 0 put).settle_sizes .serverFinished .reading
  have hdown' : ((s.client.counted 0 put).settle .serverFinished .reading).downBytesTransfered = D :=
    hdown.trans hfull
  have hle : (s.client.counted 0 put).downBlockSize ≤ (s.client.counted 0 put).downBytesTransfered := by
    show s.client.downBlockSize ≤ s.client.downBytesTransfered + 0
    omega
  have hread : s.clientRead ++ readIn .data (s.toClient.take 0) = s.clientRead := List.append_nil _
  have hsent : (s.toServer ++ stamp ⟨s.requested, .data⟩ bytes).map Sent.tag =
      List.replicate (m + put) ⟨s.blocksDownloaded + 1, .data⟩ := by
    rw [hu.requested, tags_append hu.toServer, hlen]
  refine ⟨h.posDown, h.posUp, ⟨hsizeD.trans hD, hsizeU.trans hU⟩, h.server, ?_, h.serverPhase, ?_⟩
  · show ∀ r ∈ s.clientRead ++ readIn .data (s.toClient.take 0), r.1 = r.2.part
    rw [hread]
    exact h.clientPhase
  refine .uploading (m + put) ⟨?_, hdown', hu.server, hu.sent, hu.lacking, ?_, hsent, ?_, hu.toClient,
    hu.requested, hu.accepted, fun b => ⟨?_, (hu.counts b).2⟩⟩
  · -- the last byte turns the client to waiting for the server's end
    by_cases hdone : s.client.upBytesTransfered + put = U
    · have hge : (s.client.counted 0 put).upBlockSize ≤ (s.client.counted 0 put).upBytesTransfered := by
        show s.client.upBlockSize ≤ s.client.upBytesTransfered + put
        omega
      have hsettle := BlockEnd.settle_done ClientPhase.serverFinished .reading hle hge
      refine .inr ⟨congrArg BlockEnd.state hsettle, congrArg BlockEnd.epoll hsettle, hup.trans hdone⟩
    · have hlt : (s.client.counted 0 put).upBytesTransfered < (s.client.counted 0 put).upBlockSize := by
        show s.client.upBytesTransfered + put < s.client.upBlockSize
        omega
      have hsettle := BlockEnd.settle_full ClientPhase.serverFinished .reading hle hlt
      refine .inl ⟨(congrArg BlockEnd.state hsettle).trans hstate, congrArg BlockEnd.epoll hsettle, ?_⟩
      refine hup.trans_lt ?_
      show s.client.upBytesTransfered + put < U
      omega
  · show Fits s.cookie s.clock
      (U - ((s.client.counted 0 put).settle .serverFinished .reading).upBytesTransfered)
    rw [hup]
    exact hfits
  · refine Eq.trans ?_ hup.symm
    show s.server.downBytesTransfered + (m + put) = s.client.upBytesTransfered + put
    omega
  · exact (congrArg (moved · b) hread).trans (hu.counts b).1

/-- The client asks for a block, or has all of them. -/
theorem Inv.clientRequest (h : Inv D U s) (hr : s.Resting D U) (hsound : ∀ n ∈ io.send, 12 ≤ n)
    (hstep : s.clientRequest io = .ok t) : Inv D U t := by
  rw [Exchange.clientRequest] at hstep
  by_cases hrem : s.blocksRemaining ≤ 0
  · rw [if_pos hrem] at hstep
    cases hstep
    exact ⟨h.posDown, h.posUp, h.client, h.server, h.clientPhase, h.serverPhase,
      .resting ⟨.inr rfl, hr.server, hr.toServer, hr.toClient, hr.requested, hr.accepted, hr.counts⟩⟩
  rw [if_neg hrem] at hstep
  cases hsend : io.send with
  | none =>
    rw [hsend] at hstep
    cases hstep
    exact h
  | some n =>
    rw [hsend] at hstep
    obtain ⟨_, -, hstep⟩ := bind_eq_ok.mp hstep
    cases hstep
    refine ⟨h.posDown, h.posUp, h.client, h.server, h.clientPhase, h.serverPhase,
      .asking n ⟨hsound n hsend, ⟨rfl, rfl⟩, ⟨rfl, rfl⟩, hr.server, ?_, hr.toClient,
        congrArg (· + 1) hr.requested, hr.accepted, hr.counts⟩⟩
    dsimp only
    rw [hr.toServer, hr.requested, List.nil_append]

/-- The client reads `FINISHED`. -/
theorem Inv.clientFinished (h : Inv D U s) (ht : s.Told D U)
    (hsound : ∀ n ∈ io.recv, n = s.toClient.length) (hstep : s.clientFinished io = .ok t) :
    Inv D U t := by
  rw [Exchange.clientFinished] at hstep
  cases hrecv : io.recv with
  | none =>
    rw [hrecv] at hstep
    cases hstep
    exact h
  | some n =>
    rw [hrecv] at hstep
    obtain ⟨_, -, hstep⟩ := bind_eq_ok.mp hstep
    have htags : s.toClient.map Sent.tag =
        List.replicate finishedText.length ⟨s.blocksDownloaded + 1, .finished⟩ := by
      rw [ht.toClient, map_tag_stamp]
    have hread : readIn .finished s.toClient =
        List.replicate finishedText.length (.finished, ⟨s.blocksDownloaded + 1, .finished⟩) := by
      have htake := readIn_take htags (Nat.le_refl _) .finished
      rwa [List.take_of_length_le (length_of_tags htags).le] at htake
    have hfound : strcasestr (s.toClient.map Sent.byte) finishedText = true := by
      rw [ht.toClient, map_byte_stamp]
      exact strcasestr_finishedText
    dsimp only at hstep
    rw [hsound n hrecv, List.take_length, List.drop_length, if_pos hfound, hread] at hstep
    cases hstep
    refine ⟨h.posDown, h.posUp, h.client, h.server, ?_, h.serverPhase, .resting ⟨.inl ⟨rfl, rfl⟩,
      ht.server, ht.toServer, rfl, ht.requested, ht.accepted, fun b => ⟨?_, ?_⟩⟩⟩
    · exact inPhase_append h.clientPhase _ ⟨s.blocksDownloaded + 1, .finished⟩
    · have hother : Part.finished ≠ .data := by decide
      exact (moved_other _ _ _ hother b).trans ((ht.counts b).1.trans (share_succ ..))
    · exact (ht.counts b).2.trans (share_succ ..)

/-- **A step of the client.** -/
theorem Inv.clientActivate (h : Inv D U s) (hs : s.Sound (.client events io)) (hnow : s.clock = io.now)
    (hev : events.Within s.client.epoll) (hstep : s.clientActivate events io = .ok t) : Inv D U t := by
  obtain ⟨hsend, hrecv, hfits⟩ := hs
  obtain ⟨hin, hout, hany⟩ := hev
  rw [Exchange.clientActivate] at hstep
  -- Without a byte on its way, a read gives nothing.
  have hnothing : s.toClient = [] → s.clientFinished io = .ok t → t = s := by
    intro hnil hfin
    rw [Exchange.clientFinished] at hfin
    cases hr : io.recv with
    | none =>
      rw [hr] at hfin
      cases hfin
      rfl
    | some n =>
      rw [hr] at hfin
      obtain ⟨_, hn, -⟩ := bind_eq_ok.mp hfin
      obtain ⟨hpos, -, hle⟩ := check_eq_ok.mp hn
      rw [hnil, List.length_nil] at hle
      omega
  cases h.phase with
  | resting hr =>
    obtain ⟨hst, -⟩ | hst := hr.client
    · rw [hst] at hstep
      exact h.clientRequest hr (hsend hst) hstep
    · rw [hst] at hstep
      cases hstep
      exact h
  | asking n ha =>
    rw [ha.client.1] at hstep
    obtain ⟨⟨e', got, put⟩, htr, hstep⟩ := bind_eq_ok.mp hstep
    cases hstep
    rw [ha.client.2] at hin hout
    have hreads : events.epollin = true := by
      obtain hany | hany := hany
      · exact hany
      · exact absurd (hout hany) Bool.false_ne_true
    have hlack : s.client.downBytesTransfered < s.client.downBlockSize := by
      rw [ha.counters.1, h.client.1]
      exact h.posDown
    have hno : ∀ got, ¬ s.client.Receives events s.toClient.length got := by
      intro got hgot
      rw [BlockEnd.Receives, if_pos ⟨hreads, hlack⟩, ha.toClient, List.length_nil] at hgot
      omega
    cases BlockEnd.transfer_cases (fun _ _ => length_fillBuffer) htr with
    | recvBlocked =>
      rw [clientMoved_zero]
      exact h
    | sendBlocked _ hgot => exact absurd hgot (hno got)
    | settled _ _ hgot => exact absurd hgot (hno got)
  | downloading m hd =>
    rw [hd.client.1] at hstep
    obtain ⟨⟨e', got, put⟩, htr, hstep⟩ := bind_eq_ok.mp hstep
    cases hstep
    rw [hd.client.2] at hin hout
    have hreads : events.epollin = true := by
      obtain hany | hany := hany
      · exact hany
      · exact absurd (hout hany) Bool.false_ne_true
    have hlack : s.client.downBytesTransfered < s.client.downBlockSize := by
      rw [h.client.1]
      exact hd.lacking
    cases BlockEnd.transfer_cases (fun _ _ => length_fillBuffer) htr with
    | recvBlocked =>
      rw [clientMoved_zero]
      exact h
    | sendBlocked _ _ hwrites => exact absurd (hout hwrites) Bool.false_ne_true
    | settled _ _ hgot hput =>
      rw [BlockEnd.Receives, if_pos ⟨hreads, hlack⟩, length_of_tags hd.toClient, h.client.1] at hgot
      rw [BlockEnd.Sends, if_neg fun hw => absurd (hout hw.1) Bool.false_ne_true] at hput
      obtain rfl := List.length_eq_zero_iff.mp hput
      refine h.clientReceives hd hgot.2 ?_
      have hroom := (hfits hd.client.1).1
      rwa [hd.unsent, h.client.2, Nat.sub_zero, ← hnow] at hroom
  | uploading m hu =>
    obtain ⟨hst, hepoll, hlack⟩ | ⟨hst, -, -⟩ := hu.client
    · rw [hst] at hstep
      obtain ⟨⟨e', got, put⟩, htr, hstep⟩ := bind_eq_ok.mp hstep
      cases hstep
      rw [hepoll] at hin hout
      have hgot0 : ∀ got, s.client.Receives events s.toClient.length got → got = 0 := by
        intro got hgot
        rwa [BlockEnd.Receives, if_neg fun hr => absurd (hin hr.1) Bool.false_ne_true] at hgot
      cases BlockEnd.transfer_cases (fun _ _ => length_fillBuffer) htr with
      | recvBlocked =>
        rw [clientMoved_zero]
        exact h
      | sendBlocked _ hgot =>
        obtain rfl := hgot0 got hgot
        rw [BlockEnd.counted_zero, clientMoved_zero]
        exact h
      | settled _ _ hgot hput =>
        obtain rfl := hgot0 got hgot
        rw [BlockEnd.Sends] at hput
        rw [h.client.2, ← hnow] at hfits
        split_ifs at hput with hwrites
        · rw [h.client.2] at hput
          exact h.clientSends hu hst hput.2.1 ((hfits hst).2 hwrites.1 _ hput.2.2)
        · refine h.clientSends hu hst (by omega) ?_
          rw [hput, Nat.add_zero]
          exact (hfits hst).1
    · rw [hst] at hstep
      rw [hnothing hu.toClient hstep]
      exact h
  | moved hm =>
    rw [hm.client.1] at hstep
    rw [hnothing hm.toClient hstep]
    exact h
  | told ht =>
    rw [ht.client.1] at hstep
    exact h.clientFinished ht (hrecv ht.client.1) hstep

/-! ### The server's steps -/

theorem serverMoved_zero (s : Exchange) : s.serverMoved s.server 0 [] = s := by
  have hput : s.toClient ++ stamp ⟨s.accepted, .data⟩ [] = s.toClient := List.append_nil _
  have hread : s.serverRead ++ readIn .data (s.toServer.take 0) = s.serverRead := List.append_nil _
  rw [serverMoved, hput, hread, List.drop_zero]

/-- The server sends a part of its block, and perhaps the last. -/
theorem Inv.serverSends (h : Inv D U s) {m : ℕ} {bytes : List UInt8} (hd : s.Downloading D U m)
    (hlack : s.server.upBytesTransfered < D) (hput : s.server.upBytesTransfered + bytes.length ≤ D) :
    Inv D U (s.serverMoved ((s.server.counted 0 bytes.length).settle .finished .writing) 0 bytes) := by
  obtain ⟨put, hlen⟩ : ∃ put, put = bytes.length := ⟨_, rfl⟩
  rw [← hlen] at hput ⊢
  obtain ⟨hU, hD⟩ := h.server
  have hbalance := hd.balance
  obtain ⟨hsizeD, hsizeU, hdown, hup⟩ := (s.server.counted 0 put).settle_sizes .finished .writing
  have hunread : (s.server.counted 0 put).downBytesTransfered < (s.server.counted 0 put).downBlockSize := by
    show s.server.downBytesTransfered + 0 < s.server.downBlockSize
    rw [hd.unread, hU]
    exact h.posUp
  have hread : s.serverRead ++ readIn .data (s.toServer.take 0) = s.serverRead := List.append_nil _
  have hsent : (s.toClient ++ stamp ⟨s.accepted, .data⟩ bytes).map Sent.tag =
      List.replicate (m + put) ⟨s.blocksDownloaded + 1, .data⟩ := by
    rw [hd.accepted, tags_append hd.toClient, hlen]
  have hupput : ((s.server.counted 0 put).settle .finished .writing).upBytesTransfered =
      s.server.upBytesTransfered + put := hup
  have hserver : ((s.server.counted 0 put).settle .finished .writing).state = .transfer ∧
      ((s.server.counted 0 put).settle .finished .writing).epoll =
        if s.server.upBytesTransfered + put < D then .both else .reading := by
    -- the last byte turns the server to reading
    by_cases hdone : s.server.upBytesTransfered + put < D
    · have hlt : (s.server.counted 0 put).upBytesTransfered < (s.server.counted 0 put).upBlockSize := by
        show s.server.upBytesTransfered + put < s.server.upBlockSize
        omega
      have hepoll := hd.epoll
      rw [if_pos hlack] at hepoll
      rw [BlockEnd.settle_neither _ _ hunread hlt, if_pos hdone]
      exact ⟨hd.server, hepoll⟩
    · have hge : (s.server.counted 0 put).upBlockSize ≤ (s.server.counted 0 put).upBytesTransfered := by
        show s.server.upBlockSize ≤ s.server.upBytesTransfered + put
        omega
      rw [BlockEnd.settle_sent _ _ hunread hge, if_neg hdone]
      exact ⟨hd.server, rfl⟩
  refine ⟨h.posDown, h.posUp, h.client, ⟨hsizeD.trans hU, hsizeU.trans hD⟩, h.clientPhase, ?_, ?_⟩
  · show ∀ r ∈ s.serverRead ++ readIn .data (s.toServer.take 0), r.1 = r.2.part
    rw [hread]
    exact h.serverPhase
  refine .downloading (m + put) ⟨hd.client, hd.lacking, hd.unsent, hserver.1, ?_,
    hdown.trans hd.unread, hd.toServer ▸ rfl, hsent, ?_, hupput.trans_le hput, hd.requested, hd.accepted,
    fun b => ⟨(hd.counts b).1, (congrArg (moved · b) hread).trans (hd.counts b).2⟩⟩
  · refine hserver.2.trans ?_
    show _ = if ((s.server.counted 0 put).settle .finished .writing).upBytesTransfered < D then _ else _
    rw [hupput]
  · refine Eq.trans ?_ hupput.symm
    show s.client.downBytesTransfered + (m + put) = s.server.upBytesTransfered + put
    omega

/-- The server receives a part of the client's block, and perhaps the last. -/
theorem Inv.serverReceives (h : Inv D U s) {m got : ℕ} (hu : s.Uploading D U m)
    (hgot : s.server.downBytesTransfered + got ≤ U ∧ got ≤ m) :
    Inv D U (s.serverMoved ((s.server.counted got 0).settle .finished .writing) got []) := by
  obtain ⟨hU, hD⟩ := h.server
  have hbalance := hu.balance
  have hsent := hu.sent
  have hdrop := tags_drop hu.toServer got
  obtain ⟨hsizeD, hsizeU, hdown, hup⟩ := (s.server.counted got 0).settle_sizes .finished .writing
  have hge : (s.server.counted got 0).upBlockSize ≤ (s.server.counted got 0).upBytesTransfered := by
    show s.server.upBlockSize ≤ s.server.upBytesTransfered + 0
    omega
  have htold : s.toClient ++ stamp ⟨s.accepted, .data⟩ [] = [] := by
    rw [hu.toClient]
    rfl
  have hmoved : ∀ b, moved (s.serverRead ++ readIn .data (s.toServer.take got)) b =
      share s.blocksDownloaded U (s.server.downBytesTransfered + got) b :=
    fun b => share_moved (hu.counts b).2 hu.toServer hgot.2
  refine ⟨h.posDown, h.posUp, h.client, ⟨hsizeD.trans hU, hsizeU.trans hD⟩, h.clientPhase, ?_, ?_⟩
  · show ∀ r ∈ s.serverRead ++ readIn .data (s.toServer.take got), r.1 = r.2.part
    rw [readIn_take hu.toServer hgot.2]
    exact inPhase_append h.serverPhase got ⟨s.blocksDownloaded + 1, .data⟩
  by_cases hfull : s.server.downBytesTransfered + got = U
  · have hle : (s.server.counted got 0).downBlockSize ≤ (s.server.counted got 0).downBytesTransfered := by
      show s.server.downBlockSize ≤ s.server.downBytesTransfered + got
      omega
    have hsettle := BlockEnd.settle_done ServerPhase.finished .writing hle hge
    -- The server has the whole block, so the client has sent it.
    have hclient : s.client.state = .serverFinished ∧ s.client.epoll = .reading ∧
        s.client.upBytesTransfered = U := by
      obtain ⟨-, -, hlt⟩ | hdone := hu.client
      · omega
      · exact hdone
    have hm : m - got = 0 := by omega
    rw [hm] at hdrop
    refine .moved ⟨⟨hclient.1, hclient.2.1⟩, ⟨?_, ?_⟩, List.map_eq_nil_iff.mp hdrop, htold,
      hu.requested, hu.accepted, fun b => ⟨(hu.counts b).1, ?_⟩⟩
    · exact congrArg BlockEnd.state hsettle
    · exact congrArg BlockEnd.epoll hsettle
    · exact (hmoved b).trans (congrArg (share s.blocksDownloaded U · b) hfull)
  · have hlt : (s.server.counted got 0).downBytesTransfered < (s.server.counted got 0).downBlockSize := by
      show s.server.downBytesTransfered + got < s.server.downBlockSize
      omega
    have hsettle := BlockEnd.settle_sent ServerPhase.finished .writing hlt hge
    refine .uploading (m - got) ⟨hu.client, hu.full, ⟨?_, ?_⟩, hup.trans hsent, ?_, hu.fits, hdrop, ?_,
      htold, hu.requested, hu.accepted, fun b => ⟨(hu.counts b).1, ?_⟩⟩
    · exact (congrArg BlockEnd.state hsettle).trans hu.server.1
    · exact congrArg BlockEnd.epoll hsettle
    · exact hdown.trans_lt (show s.server.downBytesTransfered + got < U by omega)
    · refine (congrArg (· + (m - got)) hdown).trans ?_
      show s.server.downBytesTransfered + got + (m - got) = s.client.upBytesTransfered
      omega
    · exact (hmoved b).trans (congrArg (share s.blocksDownloaded U · b) hdown.symm)

/-- A server that waits for a request. -/
theorem serverActivate_listening (h : Listening s.server) :
    s.serverActivate events io = s.serverIdle.serverRequest io := by
  obtain ⟨hepoll, hst | ⟨hst, hdown, hup⟩⟩ := h
  · rw [serverActivate, hst]
  · have hidle : s.serverIdle = s := by
      rw [serverIdle, ← hst, ← hepoll, ← hdown]
      nth_rewrite 2 [hdown]
      rw [← hup]
    rw [serverActivate, hst, hidle]

theorem listening_serverIdle (s : Exchange) : Listening s.serverIdle.server :=
  ⟨rfl, .inr ⟨rfl, rfl, rfl⟩⟩

/-- Without a byte on its way, the server goes on waiting. -/
theorem serverRequest_nothing (hnil : s.toServer = []) (hstep : s.serverRequest io = .ok t) : t = s := by
  rw [serverRequest] at hstep
  cases hr : io.recv with
  | none =>
    rw [hr] at hstep
    cases hstep
    rfl
  | some n =>
    rw [hr] at hstep
    obtain ⟨_, hn, -⟩ := bind_eq_ok.mp hstep
    obtain ⟨hpos, -, hle⟩ := check_eq_ok.mp hn
    rw [hnil, List.length_nil] at hle
    omega

/-- The server reads a request. -/
theorem Inv.serverRequest (h : Inv D U s) {n : ℕ} (ha : s.Asking D U n)
    (hsound : ∀ n ∈ io.recv, n = s.toServer.length) (hstep : s.serverIdle.serverRequest io = .ok t) :
    Inv D U t := by
  rw [Exchange.serverRequest] at hstep
  -- the socket may have nothing yet; what it has is the whole request
  cases hrecv : io.recv with
  | none =>
    rw [hrecv] at hstep
    cases hstep
    exact ⟨h.posDown, h.posUp, h.client, h.server, h.clientPhase, h.serverPhase,
      .asking n ⟨ha.keyword, ha.client, ha.counters, listening_serverIdle s, ha.toServer, ha.toClient,
        ha.requested, ha.accepted, ha.counts⟩⟩
  | some k =>
    rw [hrecv] at hstep
    obtain ⟨_, -, hstep⟩ := bind_eq_ok.mp hstep
    have htags : s.toServer.map Sent.tag =
        List.replicate ((request s.cookie).take n).length ⟨s.blocksDownloaded + 1, .request⟩ := by
      rw [ha.toServer, map_tag_stamp]
    have hread : readIn .request s.toServer =
        List.replicate ((request s.cookie).take n).length
          (.request, ⟨s.blocksDownloaded + 1, .request⟩) := by
      have htake := readIn_take htags (Nat.le_refl _) .request
      rwa [List.take_of_length_le (length_of_tags htags).le] at htake
    have hfound : strcasestr (s.toServer.map Sent.byte) fileRequest = true := by
      rw [ha.toServer, map_byte_stamp]
      exact strcasestr_request ha.keyword s.cookie
    have hkeep : s.serverIdle.toServer = s.toServer := rfl
    dsimp only at hstep
    rw [hkeep, hsound k hrecv, List.take_length, List.drop_length, if_pos hfound, hread] at hstep
    cases hstep
    have hother : Part.request ≠ .data := by decide
    refine ⟨h.posDown, h.posUp, h.client, h.server, h.clientPhase, ?_, .downloading 0 ⟨ha.client, ?_,
      ha.counters.2, rfl, (if_pos h.posDown).symm, rfl, rfl, ?_, ha.counters.1, Nat.zero_le _,
      ha.requested, congrArg (· + 1) ha.accepted, fun b => ⟨?_, ?_⟩⟩⟩
    · exact inPhase_append h.serverPhase _ ⟨s.blocksDownloaded + 1, .request⟩
    · exact ha.counters.1.trans_lt h.posDown
    · exact congrArg (List.map Sent.tag) ha.toClient
    · exact (ha.counts b).1.trans (congrArg (share s.blocksDownloaded D · b) ha.counters.1.symm)
    · exact (moved_other _ _ _ hother b).trans (ha.counts b).2

/-- The server sends `FINISHED`. -/
theorem Inv.serverFinished (h : Inv D U s) (hm : s.Moved D U) (hsound : ∀ n ∈ io.send, n = 8)
    (hstep : s.serverFinished io = .ok t) : Inv D U t := by
  rw [Exchange.serverFinished] at hstep
  cases hsend : io.send with
  | none =>
    rw [hsend] at hstep
    cases hstep
    exact h
  | some n =>
    rw [hsend] at hstep
    obtain ⟨_, -, hstep⟩ := bind_eq_ok.mp hstep
    cases hstep
    refine ⟨h.posDown, h.posUp, h.client, h.server, h.clientPhase, h.serverPhase, .told ⟨hm.client,
      ⟨rfl, .inl rfl⟩, hm.toServer, ?_, hm.requested, hm.accepted, hm.counts⟩⟩
    dsimp only
    rw [hm.toClient, hm.accepted, List.nil_append, hsound n hsend, ← length_finishedText,
      List.take_length]

/-- **A step of the server.** -/
theorem Inv.serverActivate (h : Inv D U s) (hs : s.Sound (.server events io))
    (hev : events.Within s.server.epoll) (hstep : s.serverActivate events io = .ok t) : Inv D U t := by
  obtain ⟨hrecv, hsend⟩ := hs
  obtain ⟨hin, hout, hany⟩ := hev
  have hrecv' : Listening s.server → ∀ n ∈ io.recv, n = s.toServer.length :=
    fun hl => hrecv (hl.2.imp_right And.left)
  cases h.phase with
  | resting hr =>
    rw [serverActivate_listening hr.server] at hstep
    have htoServer : s.serverIdle.toServer = [] := hr.toServer
    rw [serverRequest_nothing htoServer hstep]
    exact ⟨h.posDown, h.posUp, h.client, h.server, h.clientPhase, h.serverPhase,
      .resting ⟨hr.client, listening_serverIdle s, hr.toServer, hr.toClient, hr.requested, hr.accepted,
        hr.counts⟩⟩
  | asking n ha =>
    rw [serverActivate_listening ha.server] at hstep
    exact h.serverRequest ha (hrecv' ha.server) hstep
  | downloading m hd =>
    rw [Exchange.serverActivate, hd.server] at hstep
    obtain ⟨⟨e', got, put⟩, htr, hstep⟩ := bind_eq_ok.mp hstep
    cases hstep
    have hlack : s.server.downBytesTransfered < s.server.downBlockSize := by
      rw [hd.unread, h.server.1]
      exact h.posUp
    -- Nothing is on its way to the server, so it is the event of a write that gets through.
    have hgot0 : ∀ got, s.server.Receives events s.toServer.length got →
        got = 0 ∧ events.epollin ≠ true := by
      intro got hgot
      by_cases hr : events.epollin = true
      · rw [BlockEnd.Receives, if_pos ⟨hr, hlack⟩, hd.toServer, List.length_nil] at hgot
        omega
      · rw [BlockEnd.Receives, if_neg fun hc => hr hc.1] at hgot
        exact ⟨hgot, hr⟩
    cases BlockEnd.transfer_cases (fun _ _ => length_populateCookies) htr with
    | recvBlocked =>
      rw [serverMoved_zero]
      exact h
    | sendBlocked _ hgot =>
      obtain ⟨rfl, -⟩ := hgot0 got hgot
      rw [BlockEnd.counted_zero, serverMoved_zero]
      exact h
    | settled _ _ hgot hput =>
      obtain ⟨rfl, hno⟩ := hgot0 got hgot
      have hwrites : events.epollout = true := hany.resolve_left hno
      have hunsent : s.server.upBytesTransfered < D := by
        by_contra hge
        have hepoll := hout hwrites
        rw [hd.epoll, if_neg hge] at hepoll
        exact absurd hepoll Bool.false_ne_true
      rw [BlockEnd.Sends, h.server.2, if_pos ⟨hwrites, hunsent⟩] at hput
      exact h.serverSends hd hunsent hput.2.1
  | uploading m hu =>
    rw [Exchange.serverActivate, hu.server.1] at hstep
    obtain ⟨⟨e', got, put⟩, htr, hstep⟩ := bind_eq_ok.mp hstep
    cases hstep
    rw [hu.server.2] at hin hout
    have hreads : events.epollin = true := by
      obtain hany | hany := hany
      · exact hany
      · exact absurd (hout hany) Bool.false_ne_true
    have hlack : s.server.downBytesTransfered < s.server.downBlockSize := by
      rw [h.server.1]
      exact hu.lacking
    cases BlockEnd.transfer_cases (fun _ _ => length_populateCookies) htr with
    | recvBlocked =>
      rw [serverMoved_zero]
      exact h
    | sendBlocked _ _ hwrites => exact absurd (hout hwrites) Bool.false_ne_true
    | settled _ _ hgot hput =>
      rw [BlockEnd.Receives, if_pos ⟨hreads, hlack⟩, length_of_tags hu.toServer, h.server.1] at hgot
      rw [BlockEnd.Sends, if_neg fun hw => absurd (hout hw.1) Bool.false_ne_true] at hput
      obtain rfl := List.length_eq_zero_iff.mp hput
      exact h.serverReceives hu hgot.2
  | moved hm =>
    rw [Exchange.serverActivate, hm.server.1] at hstep
    exact h.serverFinished hm (hsend hm.server.1) hstep
  | told ht =>
    rw [serverActivate_listening ht.server] at hstep
    have htoServer : s.serverIdle.toServer = [] := ht.toServer
    rw [serverRequest_nothing htoServer hstep]
    exact ⟨h.posDown, h.posUp, h.client, h.server, h.clientPhase, h.serverPhase,
      .told ⟨ht.client, listening_serverIdle s, ht.toServer, ht.toClient, ht.requested, ht.accepted,
        ht.counts⟩⟩

/-- A step that meets the condition keeps the invariant. -/
theorem Inv.step (h : Inv D U s) {e : BlockEvent} (hs : s.Sound e) (hstep : s.Step e t) : Inv D U t := by
  cases e with
  | client events io =>
    obtain ⟨_, hev, hstep⟩ := bind_eq_ok.mp hstep
    have htick : Inv D U { s with clock := io.now } := h.tick fun hst => (hs.2.2 hst).1
    exact htick.clientActivate hs rfl (check_eq_ok.mp hev) hstep
  | server events io =>
    obtain ⟨_, hev, hstep⟩ := bind_eq_ok.mp hstep
    exact h.serverActivate hs (check_eq_ok.mp hev) hstep

theorem sendLen_le {σ : Type} (e : BlockEnd σ) : e.sendLen ≤ bufSize := Nat.min_le_right ..

/-- Where what is left of the client's block fits the filler, the client's buffer can be filled. -/
theorem fillBuffer_of_fits {e : BlockEnd ClientPhase} {cookie : UInt32} {now : UInt64}
    (h : Fits cookie now (e.upBlockSize - e.upBytesTransfered))
    (hlack : e.upBytesTransfered < e.upBlockSize) :
    ∃ buf, fillBuffer e.sendLen (bufFiller cookie now) = .ok buf :=
  fillBuffer_fits (h.resolve_left (by omega))

/-- A step that meets the condition overruns no buffer. -/
theorem step_avoids {e : BlockEvent} (hs : s.Sound e) : Avoids .bufferOverrun (s.step e) := by
  have hother : BlockCheck.notEnabled ≠ .bufferOverrun := by decide
  have hreads : ∀ (s : Exchange) (io : Io), Avoids .bufferOverrun (s.serverRequest io) := by
    intro s io
    rw [serverRequest]
    cases io.recv with
    | none => exact .ok
    | some n => exact .check_bind hother fun _ => .ite (fun _ => .ok) fun _ => .ok
  cases e with
  | client events io =>
    refine .check_bind hother fun _ => ?_
    rw [clientActivate]
    cases hst : s.client.state with
    | serverRequest =>
      refine .ite (fun _ => .ok) fun _ => ?_
      cases io.send with
      | none => exact .ok
      | some n => exact .check_bind hother fun _ => .ok
    | serverTransfer =>
      exact .bind (BlockEnd.transfer_avoids (fillBuffer_of_fits (hs.2.2 hst).1)) fun _ _ => .ok
    | serverFinished =>
      dsimp only
      rw [clientFinished]
      cases io.recv with
      | none => exact .ok
      | some n => exact .check_bind hother fun _ => .ite (fun _ => .ok) fun _ => .ok
    | serverIdle => exact .ok
  | server events io =>
    refine .check_bind hother fun _ => ?_
    rw [serverActivate]
    cases s.server.state with
    | idle => exact hreads _ io
    | request => exact hreads _ io
    | transfer =>
      have hfill := populateCookies_fits (sendLen_le s.server) io.cookie
      exact .bind (BlockEnd.transfer_avoids fun _ => hfill) fun _ _ => .ok
    | finished =>
      dsimp only
      rw [serverFinished]
      cases io.send with
      | none => exact .ok
      | some n => exact .check_bind hother fun _ => .ok

/-! ### Runs -/

/-- The client waits for the end of a block that it has requested. -/
def Unfinished (s : Exchange) : Prop :=
  s.client.state = .serverTransfer ∨ s.client.state = .serverFinished

instance (s : Exchange) : Decidable s.Unfinished := inferInstanceAs (Decidable (_ ∨ _))

/-- Blocks of `D` bytes to the client and of `U` bytes to the server are moved exactly and counted
once, and no byte is read in a phase that is not its own. -/
structure Exact (s : Exchange) (D U : ℕ) : Prop where
  counted : s.requested = s.blocksDownloaded + if s.Unfinished then 1 else 0
  whole : ∀ b, 1 ≤ b → b ≤ s.blocksDownloaded →
    moved s.clientRead b = D ∧ moved s.serverRead b = U
  bounded : ∀ b, moved s.clientRead b ≤ D ∧ moved s.serverRead b ≤ U
  clientPhase : ∀ r ∈ s.clientRead, r.1 = r.2.part
  serverPhase : ∀ r ∈ s.serverRead, r.1 = r.2.part

theorem share_finished {d size c b : ℕ} (h : 1 ≤ b ∧ b ≤ d) : share d size c b = size := by
  rw [share, if_neg (by omega), if_pos h]

theorem share_le {d size c b : ℕ} (h : c ≤ size) : share d size c b ≤ size := by
  rw [share]
  split_ifs <;> omega

theorem Counts.exact {cd sd : ℕ} (h : s.Counts D U cd sd) (hcd : cd ≤ D) (hsd : sd ≤ U)
    (hcounted : s.requested = s.blocksDownloaded + if s.Unfinished then 1 else 0)
    (hinv : Inv D U s) : s.Exact D U := by
  refine ⟨hcounted, fun b hb hle => ?_, fun b => ?_, hinv.clientPhase, hinv.serverPhase⟩
  · rw [(h b).1, (h b).2, share_finished ⟨hb, hle⟩, share_finished ⟨hb, hle⟩]
    exact ⟨rfl, rfl⟩
  · rw [(h b).1, (h b).2]
    exact ⟨share_le hcd, share_le hsd⟩

theorem Inv.exact (h : Inv D U s) : s.Exact D U := by
  cases h.phase with
  | resting hr =>
    have hnot : ¬ s.Unfinished := by
      rw [Unfinished]
      obtain ⟨hst, -⟩ | hst := hr.client <;> rw [hst] <;> decide
    exact hr.counts.exact (Nat.zero_le D) (Nat.zero_le U)
      (by rw [if_neg hnot, hr.requested, Nat.add_zero]) h
  | asking n ha =>
    exact ha.counts.exact (Nat.zero_le D) (Nat.zero_le U)
      (by rw [if_pos (.inl ha.client.1), ha.requested]) h
  | downloading m hd =>
    exact hd.counts.exact hd.lacking.le (Nat.zero_le U)
      (by rw [if_pos (.inl hd.client.1), hd.requested]) h
  | uploading m hu =>
    have hunf : s.Unfinished := hu.client.imp And.left And.left
    exact hu.counts.exact le_rfl hu.lacking.le (by rw [if_pos hunf, hu.requested]) h
  | moved hm =>
    exact hm.counts.exact le_rfl le_rfl (by rw [if_pos (.inr hm.client.1), hm.requested]) h
  | told ht =>
    exact ht.counts.exact le_rfl le_rfl (by rw [if_pos (.inr ht.client.1), ht.requested]) h

/-- A client that is to send less than its filler overruns its buffer. -/
theorem step_overruns (hst : s.client.state = .serverTransfer)
    (hepoll : s.client.epoll = .writing) (hlack : s.client.upBytesTransfered < s.client.upBlockSize)
    (hshort : s.client.sendLen < (bufFiller s.cookie io.now).length) :
    s.step (.client .writing io) = .error .bufferOverrun := by
  have hev : Epoll.writing.Within s.client.epoll := by
    rw [hepoll]
    decide
  have hin : ¬ (Epoll.writing.epollin = true ∧
      s.client.downBytesTransfered < s.client.downBlockSize) :=
    fun hc => absurd hc.1 Bool.false_ne_true
  have hout : Epoll.writing.epollout = true ∧
      s.client.upBytesTransfered < s.client.upBlockSize := ⟨rfl, hlack⟩
  have hfill : fillBuffer s.client.sendLen (bufFiller s.cookie io.now) = .error .bufferOverrun := by
    rw [fillBuffer, check_neg (Nat.not_le.mpr hshort)]
    rfl
  rw [Exchange.step, check_pos hev, ok_bind, Exchange.clientActivate, hst]
  simp only [clientTransfer, BlockEnd.transfer, if_neg hin, BlockEnd.transferOut, if_pos hout, hfill,
    error_bind]

end Exchange

end Torrent

end ShadowBrowser
