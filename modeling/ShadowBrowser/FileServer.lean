/-
The file server: `fileserver_activate`, its connections, and what it sends on them.

A connection reads a request, and then sends the header and the file through one buffer.  The
buffer is filled from the file only when it has room, and what it holds is sent from a read offset
that moves with every `send`.  A reply is over when the file has been closed, which happens when
`fread` meets the end of the file, and everything has been sent.

An activation goes around the state machine until the socket would block.  How much each call gets
through is part of the activation: one answer to `recv`, and one `Pass` for each time around the
states that send.

* `fill_spec`, `fsReplySend_spec` — the two halves of a pass;
* `Phase` — where a connection stands with its client, and `Phase.activate`;
* **`serves_files`** — while no header and file fill the buffer to its last byte together, every
  file is served completely and the connection stays usable.

A header and a file that fill the buffer exactly are read to the last byte without meeting the end
of the file, which is then not closed; the next `send` has nothing to send, and its zero is taken
for the other side closing (`exact_fill_closes`).
-/
import Mathlib.Logic.Function.Basic
import ShadowBrowser.FileTransfer
import ShadowBrowser.Runs

namespace ShadowBrowser

open Runs Texts Torrent

namespace FileTransfer

/-! ### The server -/

/-- `enum fileserver_code`. -/
inductive FileserverCode
  | success | closed | errInvalid | errFatal | errBadsd | errWouldblock | errBufspace | errSocket
  | errBind | errListen | errAccept | errRecv | errSend | errClose | errEpoll
  deriving DecidableEq, Repr

/-- `enum fileserver_state`. -/
inductive FileserverState
  | idle | request | reply404Start | replyFileStart | replyFileContinue | replySend
  deriving DecidableEq, Repr

/-- A file that is open for reading, with its position and its indicators. -/
structure FileStream where
  content : List UInt8
  offset : ℕ := 0
  eof : Bool := false
  error : Bool := false
  deriving DecidableEq, Repr

/-- `fread`, which meets the end of the file when it is asked for more than there is. -/
def FileStream.fread (f : FileStream) (space : ℕ) (fails : Bool) : List UInt8 × FileStream :=
  if fails then ([], { f with error := true })
  else
    let bytes := (f.content.drop f.offset).take space
    (bytes, { f with offset := f.offset + bytes.length, eof := f.eof || decide (bytes.length < space) })

/-- `fileserver_request_t`: the bytes of `buf` are those in front of `buf_write_offset`. -/
structure FileserverRequest where
  filepath : List UInt8 := []
  buf : List UInt8 := []
  bytesReceived : ℕ := 0
  done : Bool := false
  deriving DecidableEq, Repr

/-- `fileserver_reply_t`: the bytes of `buf` are those in front of `buf_write_offset`. -/
structure FileserverReply where
  f : Option FileStream := none
  fLength : ℕ := 0
  fReadOffset : ℕ := 0
  buf : List UInt8 := []
  bufReadOffset : ℕ := 0
  bytesSent : ℕ := 0
  done : Bool := false
  deriving DecidableEq, Repr

/-- `fileserver_connection_t`, with the socket of `sockd` and the events it waits for. -/
structure FileserverConnection where
  sock : Socket := {}
  request : FileserverRequest := {}
  reply : FileserverReply := {}
  state : FileserverState := .idle
  epoll : Epoll := .reading
  deriving DecidableEq, Repr

/-- The global stats of `fileserver_t`. -/
structure FileserverStats where
  bytesReceived : ℕ := 0
  bytesSent : ℕ := 0
  repliesSent : ℕ := 0
  deriving DecidableEq, Repr

/-- `fileserver_t`, with the connections keyed by their descriptors. -/
structure Fileserver where
  listenSockd : ℕ
  docroot : List UInt8
  connections : ℕ → Option FileserverConnection
  stats : FileserverStats := {}

/-- What a case of the state machine comes to: on to the case of the next state, or out, with the
connection or with the connection closed. -/
inductive Turn
  | goto (st : FileserverStats) (c : FileserverConnection)
  | stop (st : FileserverStats) (c : Option FileserverConnection) (code : FileserverCode)

/-- What comes next, unless the state machine is left. -/
def Turn.bind (t : Turn) (next : FileserverStats → FileserverConnection → Turn) : Turn :=
  match t with
  | .goto st c => next st c
  | .stop st c code => .stop st c code

@[simp] theorem Turn.goto_bind (st : FileserverStats) (c : FileserverConnection)
    (next : FileserverStats → FileserverConnection → Turn) : (Turn.goto st c).bind next = next st c := rfl

@[simp] theorem Turn.stop_bind (st : FileserverStats) (c : Option FileserverConnection)
    (code : FileserverCode) (next : FileserverStats → FileserverConnection → Turn) :
    (Turn.stop st c code).bind next = .stop st c code := rfl

/-- The case of one state. -/
def inState (s : FileserverState) (run : FileserverStats → FileserverConnection → Turn)
    (st : FileserverStats) (c : FileserverConnection) : Turn :=
  if c.state = s then run st c else .goto st c

/-- The first part of `FS_IDLE`. -/
def fsIdle (c : FileserverConnection) : FileserverConnection :=
  { c with
    request := { c.request with buf := [] }
    reply := { c.reply with
      f := none, fLength := 0, fReadOffset := 0, bufReadOffset := 0, buf := [] }
    epoll := .reading }

/-- The last part of `FS_REQUEST`: the bytes that have come in are looked at. -/
def checkRequest (st : FileserverStats) (c : FileserverConnection) : Turn :=
  match strcasestr c.request.buf twoCrlf with
  -- the empty line has not come, so more of the request is awaited
  | none => .stop st (some { c with state := .request }) .success
  | some _ =>
    match strcasestr c.request.buf (ascii "GET ") with
    | none => .goto st { c with state := .reply404Start }
    | some i =>
      match strcasestr (c.request.buf.drop (i + 4)) (ascii " ") with
      | none => .goto st { c with state := .reply404Start }
      | some len =>
        if len = 0 ∨ strSize - 1 < len then .goto st { c with state := .reply404Start }
        else .goto st { c with
          request := { c.request with
            filepath := (c.request.buf.drop (i + 4)).take len, done := true }
          state := .replyFileStart }

/-- `FS_REQUEST`. -/
def fsRequest (st : FileserverStats) (c : FileserverConnection) (a : Answer) : Turn :=
  let space := strSize - c.request.buf.length - 1
  -- no empty line fits any more
  if space = 0 then .goto st { c with state := .reply404Start }
  else
    match c.sock.recv space a with
    | (.wouldBlock, _) => .stop st (some c) .errWouldblock
    | (.failed, _) => .stop st none .errRecv
    | (.ok bytes, sock) =>
      if bytes = [] then .stop st none .closed
      else checkRequest { st with bytesReceived := st.bytesReceived + bytes.length } { c with
        sock := sock
        request := { c.request with
          buf := c.request.buf ++ bytes
          bytesReceived := c.request.bytesReceived + bytes.length } }

/-- `FS_REPLY_404_START`. -/
def fsReply404Start (st : FileserverStats) (c : FileserverConnection) : Turn :=
  if bufSize < http404.length then .stop st none .errBufspace
  else .goto st { c with reply := { c.reply with buf := http404, f := none }, state := .replySend }

/-- The path of a file under the docroot. -/
def abspath (docroot filepath : List UInt8) : List UInt8 := cString docroot ++ cString filepath

/-- `FS_REPLY_FILE_START`. -/
def fsReplyFileStart (files : List UInt8 → Option (List UInt8)) (docroot : List UInt8)
    (st : FileserverStats) (c : FileserverConnection) : Turn :=
  match files (abspath docroot c.request.filepath) with
  | none => .goto st { c with
      epoll := .writing, reply := { c.reply with f := none }, state := .reply404Start }
  | some content =>
    -- the header must fit, or the connection is given up
    if bufSize ≤ (header content.length).length then .stop st none .errBufspace
    else if content.length = 0 then .goto st { c with
      epoll := .writing
      reply := { c.reply with f := none, fLength := 0, buf := header 0 }
      state := .replySend }
    else .goto st { c with
      epoll := .writing
      reply := { c.reply with
        f := some { content := content }, fLength := content.length, buf := header content.length }
      state := .replyFileContinue }

/-- `FS_REPLY_FILE_CONTINUE`; the file is open in this state. -/
def fsReplyFileContinue (fails : Bool) (st : FileserverStats) (c : FileserverConnection) : Turn :=
  let space := bufSize - c.reply.buf.length
  match c.reply.f with
  | none => .goto st c
  | some f =>
    if 0 < space ∧ c.reply.fReadOffset ≠ c.reply.fLength then
      let (bytes, f) := f.fread space fails
      let c := { c with reply := { c.reply with
        f := some f, buf := c.reply.buf ++ bytes, fReadOffset := f.offset } }
      if f.error then .stop st none .errFatal
      -- the file is read to its end, so the reply ends with the buffer
      else if f.eof then .goto st { c with reply := { c.reply with f := none }, state := .replySend }
      else .goto st c
    else .goto st c

/-- `FS_REPLY_SEND`. -/
def fsReplySend (a : Answer) (st : FileserverStats) (c : FileserverConnection) : Turn :=
  match c.sock.send (c.reply.buf.drop c.reply.bufReadOffset) a with
  | (.wouldBlock, _) => .stop st (some c) .errWouldblock
  | (.failed, _) => .stop st none .errSend
  | (.ok n, sock) =>
    if n = 0 then .stop st none .closed
    else
      let st := { st with bytesSent := st.bytesSent + n }
      let c := { c with
        sock := sock
        reply := { c.reply with
          bufReadOffset := c.reply.bufReadOffset + n, bytesSent := c.reply.bytesSent + n } }
      if c.reply.bufReadOffset = c.reply.buf.length then
        -- the buffer is empty: the file is read on, or the reply has been sent
        let c := { c with reply := { c.reply with bufReadOffset := 0, buf := [] } }
        if c.reply.f = none then
          .stop { st with repliesSent := st.repliesSent + 1 }
            (some { c with reply := { c.reply with done := true }, state := .idle }) .success
        else .goto st c
      else .goto st c

/-- What happens the next time around the states that send: whether `fread` fails, and the answer to
`send`. -/
structure Pass where
  freadFails : Bool := false
  send : Answer
  deriving DecidableEq, Repr

/-- Once around the states that send. -/
def replyPass (p : Pass) (st : FileserverStats) (c : FileserverConnection) : Turn :=
  (inState .replyFileContinue (fsReplyFileContinue p.freadFails) st c).bind (fsReplySend p.send)

/-- Around them until the socket would block. -/
def replyLoop : List Pass → FileserverStats → FileserverConnection → Turn
  | [], st, c => replyPass { send := .wouldBlock } st c
  | p :: ps, st, c => (replyPass p st c).bind (replyLoop ps)

/-- What happens in an activation: the descriptors that `accept` returns, the answer to `recv`, and
the passes. -/
structure Io where
  accepts : List ℕ := []
  recv : Answer := .wouldBlock
  passes : List Pass := []
  deriving DecidableEq, Repr

/-- The state machine of a connection. -/
def activateConnection (files : List UInt8 → Option (List UInt8)) (docroot : List UInt8) (io : Io)
    (st : FileserverStats) (c : FileserverConnection) : Turn :=
  let t := match c.state with
    | .idle => fsRequest st (fsIdle c) io.recv
    | .request => fsRequest st c io.recv
    | _ => .goto st c
  ((t.bind (inState .replyFileStart (fsReplyFileStart files docroot))).bind
    (inState .reply404Start fsReply404Start)).bind (replyLoop io.passes)

namespace Fileserver

/-- A connection is registered, or removed. -/
def put (fs : Fileserver) (sockd : ℕ) (c : Option FileserverConnection) : Fileserver :=
  { fs with connections := Function.update fs.connections sockd c }

/-- `fileserver_accept_one`, as often as there is a connection to accept. -/
def accept (fs : Fileserver) : List ℕ → Fileserver × FileserverCode
  | [] => (fs, .errWouldblock)
  | sockd :: accepts => (fs.put sockd (some {})).accept accepts

/-- `fileserver_activate`. -/
def activate (files : List UInt8 → Option (List UInt8)) (fs : Fileserver) (sockd : ℕ) (io : Io) :
    Fileserver × FileserverCode :=
  if sockd = fs.listenSockd then fs.accept io.accepts
  else
    match fs.connections sockd with
    | none => (fs, .errBadsd)
    | some c =>
      match activateConnection files fs.docroot io fs.stats c with
      | .goto st c => ({ fs.put sockd (some c) with stats := st }, .success)
      | .stop st c code => ({ fs.put sockd c with stats := st }, code)

end Fileserver

/-! ### One pass -/

/-- The header and the file do not fill the buffer to its last byte together, neither at once nor
after the buffer has been full. -/
def Fits (n : ℕ) : Prop := n = 0 ∨ ¬ bufSize ∣ (header n).length + n

instance (n : ℕ) : Decidable (Fits n) := inferInstanceAs (Decidable (_ ∨ _))

/-- A connection that has sent a part of the reply with a file, and holds or can read the rest. -/
inductive Replying (content part : List UInt8) (c : FileserverConnection) : Prop
  | filling {off : ℕ} (state : c.state = .replyFileContinue)
      (f : c.reply.f = some { content := content, offset := off })
      (fLength : c.reply.fLength = content.length) (fReadOffset : c.reply.fReadOffset = off)
      (more : off < content.length) (fit : c.reply.buf.length ≤ bufSize)
      (filled : ((header content.length).length + off) % bufSize = c.reply.buf.length % bufSize)
      (rest : part ++ c.reply.buf.drop c.reply.bufReadOffset ++ content.drop off = reply content)
      (unsent : c.reply.bufReadOffset < c.reply.buf.length ∨
        c.reply.bufReadOffset = 0 ∧ c.reply.buf = [])
  | sending (state : c.state = .replySend) (f : c.reply.f = none)
      (rest : part ++ c.reply.buf.drop c.reply.bufReadOffset = reply content)
      (unsent : c.reply.bufReadOffset < c.reply.buf.length)

variable {content part : List UInt8} {st : FileserverStats} {c : FileserverConnection}

/-- `fread` meets the end of the file, which is closed. -/
theorem fsReplyFileContinue_last {off : ℕ} (f : c.reply.f = some { content := content, offset := off })
    (hlength : c.reply.fLength = content.length) (hoffset : c.reply.fReadOffset = off)
    (hmore : off < content.length) (hlast : content.length - off < bufSize - c.reply.buf.length) :
    fsReplyFileContinue false st c = .goto st { c with
      reply := { c.reply with
        f := none, fReadOffset := content.length, buf := c.reply.buf ++ content.drop off }
      state := .replySend } := by
  have hread : ((content.drop off).take (bufSize - c.reply.buf.length)) = content.drop off :=
    List.take_of_length_le (by rw [List.length_drop]; omega)
  have hend : off + (content.length - off) = content.length := by omega
  rw [fsReplyFileContinue, f]
  dsimp only
  rw [if_pos ⟨by omega, by omega⟩, FileStream.fread, if_neg Bool.false_ne_true]
  dsimp only
  rw [if_neg Bool.false_ne_true, if_pos]
  · rw [hread, List.length_drop, hend]
  · rw [hread, List.length_drop, Bool.false_or]
    exact decide_eq_true hlast

/-- `fread` fills the buffer, and does not meet the end of the file. -/
theorem fsReplyFileContinue_full {off : ℕ} (f : c.reply.f = some { content := content, offset := off })
    (hlength : c.reply.fLength = content.length) (hoffset : c.reply.fReadOffset = off)
    (hmore : off < content.length) (hspace : 0 < bufSize - c.reply.buf.length)
    (hfull : bufSize - c.reply.buf.length ≤ content.length - off) :
    fsReplyFileContinue false st c = .goto st { c with
      reply := { c.reply with
        f := some { content := content, offset := off + (bufSize - c.reply.buf.length) }
        fReadOffset := off + (bufSize - c.reply.buf.length)
        buf := c.reply.buf ++ (content.drop off).take (bufSize - c.reply.buf.length) } } := by
  have hlen : ((content.drop off).take (bufSize - c.reply.buf.length)).length =
      bufSize - c.reply.buf.length := by
    rw [List.length_take, List.length_drop]
    omega
  rw [fsReplyFileContinue, f]
  dsimp only
  rw [if_pos ⟨hspace, by omega⟩, FileStream.fread, if_neg Bool.false_ne_true]
  dsimp only
  simp only [hlen, Nat.lt_irrefl, decide_false, Bool.or_false, Bool.false_eq_true, if_false]

/-- Nothing is read when there is no room, or nothing left. -/
theorem fsReplyFileContinue_idle
    (h : ¬ (0 < bufSize - c.reply.buf.length ∧ c.reply.fReadOffset ≠ c.reply.fLength)) :
    fsReplyFileContinue false st c = .goto st c := by
  rw [fsReplyFileContinue]
  cases hf : c.reply.f with
  | none => rfl
  | some f =>
    dsimp only
    rw [if_neg h]

/-- A connection that is about to `send`: there is something to send, and if the file is still open the
buffer is full. -/
structure Ready (c : FileserverConnection) : Prop where
  unsent : c.reply.bufReadOffset < c.reply.buf.length
  full : c.state = .replyFileContinue → c.reply.buf.length = bufSize

/-- **Before a `send`, there is something to send.**  This is where a file that ends with the buffer
would be left open. -/
theorem fill_spec (st : FileserverStats) (hfits : Fits content.length) (h : Replying content part c) :
    ∃ c', inState .replyFileContinue (fsReplyFileContinue false) st c = .goto st c' ∧
      c'.sock = c.sock ∧ Replying content part c' ∧ Ready c' := by
  cases h with
  | sending hstate hf hrest hunsent =>
    have hother : c.state ≠ .replyFileContinue := by
      rw [hstate]
      decide
    exact ⟨c, if_neg hother, rfl, .sending hstate hf hrest hunsent, hunsent, fun h => absurd h hother⟩
  | @filling off hstate hf hlength hoffset hmore hfit hfilled hrest hunsent =>
    have hbuf : bufSize = 51200 := rfl
    have hro : c.reply.bufReadOffset ≤ c.reply.buf.length := by
      obtain hlt | ⟨h0, -⟩ := hunsent <;> omega
    rw [inState, if_pos hstate]
    by_cases hspace : 0 < bufSize - c.reply.buf.length
    · by_cases hlast : content.length - off < bufSize - c.reply.buf.length
      · have hlt : c.reply.bufReadOffset < (c.reply.buf ++ content.drop off).length := by
          rw [List.length_append, List.length_drop]
          omega
        refine ⟨_, fsReplyFileContinue_last hf hlength hoffset hmore hlast, rfl,
          .sending rfl rfl ?_ hlt, hlt, fun h => by cases h⟩
        show part ++ (c.reply.buf ++ content.drop off).drop c.reply.bufReadOffset = _
        rw [List.drop_append_of_le_length hro, ← List.append_assoc]
        exact hrest
      · have hlen : (c.reply.buf ++ (content.drop off).take (bufSize - c.reply.buf.length)).length =
            bufSize := by
          rw [List.length_append, List.length_take, List.length_drop]
          omega
        -- The buffer is full now, and what has been put into it is a multiple of its size.
        have hfull : ((header content.length).length + (off + (bufSize - c.reply.buf.length))) %
            bufSize = 0 := by
          rw [← Nat.add_assoc, Nat.add_mod, hfilled, ← Nat.add_mod, Nat.add_sub_cancel' hfit,
            Nat.mod_self]
        have hmore' : off + (bufSize - c.reply.buf.length) < content.length := by
          obtain h0 | hnot := hfits
          · omega
          · by_contra hge
            have heq : off + (bufSize - c.reply.buf.length) = content.length := by omega
            rw [heq] at hfull
            exact hnot (Nat.dvd_of_mod_eq_zero hfull)
        have hlt : c.reply.bufReadOffset <
            (c.reply.buf ++ (content.drop off).take (bufSize - c.reply.buf.length)).length := by
          omega
        refine ⟨_, fsReplyFileContinue_full hf hlength hoffset hmore hspace (by omega), rfl,
          .filling hstate rfl hlength rfl hmore' hlen.le ?_ ?_ (.inl hlt), hlt, fun _ => hlen⟩
        · exact hfull.trans (by rw [hlen, Nat.mod_self])
        · show part ++ (c.reply.buf ++ (content.drop off).take _).drop c.reply.bufReadOffset ++ _ = _
          rw [List.drop_append_of_le_length hro, List.append_assoc, List.append_assoc,
            ← List.drop_drop, List.take_append_drop, ← List.append_assoc]
          exact hrest
    · refine ⟨c, fsReplyFileContinue_idle fun h => hspace h.1, rfl,
        .filling hstate hf hlength hoffset hmore hfit hfilled hrest hunsent, ?_, fun _ => by omega⟩
      obtain hlt | ⟨-, hnil⟩ := hunsent
      · exact hlt
      · rw [hnil, List.length_nil] at hspace
        omega

/-- What a `send` that takes some of the reply comes to. -/
inductive Sends (content part : List UInt8) (st : FileserverStats) (c : FileserverConnection) :
    Turn → Prop
  | more {st' : FileserverStats} {c' : FileserverConnection} {bytes : List UInt8} (taken : bytes ≠ [])
      (sock : c'.sock = { c.sock with sent := c.sock.sent ++ bytes })
      (replies : st'.repliesSent = st.repliesSent) (replying : Replying content (part ++ bytes) c') :
      Sends content part st c (.goto st' c')
  | done {st' : FileserverStats} {c' : FileserverConnection} {bytes : List UInt8}
      (sock : c'.sock = { c.sock with sent := c.sock.sent ++ bytes })
      (whole : part ++ bytes = reply content)
      (replies : st'.repliesSent = st.repliesSent + 1) (state : c'.state = .idle)
      (f : c'.reply.f = none) : Sends content part st c (.stop st' (some c') .success)

/-- **A `send` takes some of the reply**, and with the last of it the connection goes back to where it
waits for a request. -/
theorem fsReplySend_spec (st : FileserverStats) {n : ℕ} (hn : 0 < n) (h : Replying content part c)
    (hready : Ready c) :
    Sends content part st c (fsReplySend (.got n) st c) := by
  obtain ⟨hunsent, hfull⟩ := hready
  have hlen : (c.reply.buf.drop c.reply.bufReadOffset).length =
      c.reply.buf.length - c.reply.bufReadOffset := List.length_drop
  have hpos : min n (c.reply.buf.drop c.reply.bufReadOffset).length ≠ 0 := by omega
  have hbytes : (c.reply.buf.drop c.reply.bufReadOffset).take n ≠ [] := by
    intro hnil
    have h0 := congrArg List.length hnil
    rw [List.length_take, List.length_nil] at h0
    omega
  rw [fsReplySend, Socket.send]
  dsimp only
  rw [if_neg hpos]
  -- when all of the buffer has gone out, the file is read on or the reply is over
  by_cases hall : c.reply.bufReadOffset + min n (c.reply.buf.drop c.reply.bufReadOffset).length =
      c.reply.buf.length
  · have htake : (c.reply.buf.drop c.reply.bufReadOffset).take n =
        c.reply.buf.drop c.reply.bufReadOffset := List.take_of_length_le (by omega)
    rw [if_pos hall]
    cases h with
    | @filling off hstate hf hlength hoffset hmore hfit hfilled hrest _ =>
      rw [if_neg (by rw [hf]; exact Option.some_ne_none _)]
      refine .more hbytes rfl rfl (.filling hstate hf hlength hoffset hmore (Nat.zero_le _) ?_ ?_
        (.inr ⟨rfl, rfl⟩))
      · rw [hfilled, hfull hstate]
        exact Nat.mod_self _
      · rw [htake]
        simpa using hrest
    | sending hstate hf hrest _ =>
      rw [if_pos hf]
      refine .done rfl ?_ rfl rfl hf
      rw [htake]
      exact hrest
  · have hlt : n < c.reply.buf.length - c.reply.bufReadOffset := by omega
    have hmin : min n (c.reply.buf.drop c.reply.bufReadOffset).length = n := by omega
    have hrest' : part ++ (c.reply.buf.drop c.reply.bufReadOffset).take n ++
        c.reply.buf.drop (c.reply.bufReadOffset + n) = part ++ c.reply.buf.drop c.reply.bufReadOffset := by
      rw [List.append_assoc, ← List.drop_drop, List.take_append_drop]
    have hunsent' : c.reply.bufReadOffset + n < c.reply.buf.length := by omega
    rw [if_neg hall, hmin]
    cases h with
    | @filling off hstate hf hlength hoffset hmore hfit hfilled hrest _ =>
      refine .more hbytes rfl rfl (.filling hstate hf hlength hoffset hmore hfit hfilled ?_
        (.inl hunsent'))
      rw [hrest']
      exact hrest
    | sending hstate hf hrest _ =>
      exact .more hbytes rfl rfl (.sending hstate hf (hrest'.trans hrest) hunsent')

/-- What the passes of an activation come to, while a reply is being sent. -/
inductive Passes (content part : List UInt8) (st : FileserverStats) (c : FileserverConnection)
    (passes : List Pass) : Turn → Prop
  | blocked {st' : FileserverStats} {c' : FileserverConnection} {bytes : List UInt8}
      (sock : c'.sock = { c.sock with sent := c.sock.sent ++ bytes })
      (taken : (∀ p ∈ passes, p.send ≠ .wouldBlock) → passes.length ≤ bytes.length)
      (replies : st'.repliesSent = st.repliesSent) (replying : Replying content (part ++ bytes) c') :
      Passes content part st c passes (.stop st' (some c') .errWouldblock)
  | done {st' : FileserverStats} {c' : FileserverConnection} {bytes : List UInt8}
      (sock : c'.sock = { c.sock with sent := c.sock.sent ++ bytes })
      (whole : part ++ bytes = reply content)
      (replies : st'.repliesSent = st.repliesSent + 1) (state : c'.state = .idle)
      (f : c'.reply.f = none) : Passes content part st c passes (.stop st' (some c') .success)

/-- A pass of a connection that is neither closed nor broken, with a file that can be read. -/
def Pass.Alive (p : Pass) : Prop := p.freadFails = false ∧ p.send.Alive

instance (p : Pass) : Decidable p.Alive := inferInstanceAs (Decidable (_ ∧ _))

/-- A pass in which the socket would block. -/
theorem replyPass_wouldBlock (st : FileserverStats) (hfits : Fits content.length)
    (h : Replying content part c) :
    ∃ c', replyPass { send := .wouldBlock } st c = .stop st (some c') .errWouldblock ∧
      c'.sock = c.sock ∧ Replying content part c' := by
  obtain ⟨c', hfill, hsock, hreplying, -⟩ := fill_spec st hfits h
  refine ⟨c', ?_, hsock, hreplying⟩
  rw [replyPass, hfill]
  rfl

/-- **The passes of an activation send some of the reply**, each at least a byte, until the socket would
block or the reply has been sent. -/
theorem replyLoop_spec (st : FileserverStats) (hfits : Fits content.length) {passes : List Pass}
    (halive : ∀ p ∈ passes, p.Alive) (h : Replying content part c) :
    Passes content part st c passes (replyLoop passes st c) := by
  have hsame : c.sock = { c.sock with sent := c.sock.sent ++ [] } := by rw [List.append_nil]
  induction passes generalizing part st c with
  | nil =>
    obtain ⟨c', hpass, hsock, hreplying⟩ := replyPass_wouldBlock st hfits h
    rw [replyLoop, hpass]
    refine .blocked (hsock.trans hsame) (fun _ => Nat.le_refl 0) rfl ?_
    rwa [List.append_nil]
  | cons p passes ih =>
    obtain ⟨hread, hsend⟩ := halive p List.mem_cons_self
    obtain ⟨c', hfill, hsock, hreplying, hready⟩ := fill_spec st hfits h
    rw [replyLoop, replyPass, hread, hfill, Turn.goto_bind]
    -- a pass that is alive does not fail: the socket blocks, or takes something
    cases ha : p.send with
    | failed =>
      rw [ha] at hsend
      exact hsend.elim
    | wouldBlock =>
      refine .blocked (hsock.trans hsame) (fun hall => ?_) rfl ?_
      · exact absurd ha (hall p List.mem_cons_self)
      · rwa [List.append_nil]
    | got n =>
      rw [ha] at hsend
      have hsends := fsReplySend_spec st hsend hreplying hready
      generalize fsReplySend (.got n) st c' = t at hsends
      cases hsends with
      | done hsock' hwhole hreplies hstate hf =>
        exact .done (hsock'.trans (by rw [hsock])) hwhole hreplies hstate hf
      | @more st₁ c₁ bytes htaken hsock₁ hreplies₁ hreplying₁ =>
        have hpos := List.length_pos_iff.mpr htaken
        have hboth : ∀ {s : Socket} {bytes' : List UInt8},
            s = { c₁.sock with sent := c₁.sock.sent ++ bytes' } →
            s = { c.sock with sent := c.sock.sent ++ (bytes ++ bytes') } := by
          rintro s bytes' rfl
          rw [hsock₁, hsock, List.append_assoc]
        have hrest := ih st₁ (fun q hq => halive q (List.mem_cons_of_mem p hq)) hreplying₁
          (by rw [List.append_nil])
        rw [Turn.goto_bind]
        generalize replyLoop passes st₁ c₁ = t at hrest
        -- behind a pass that is not the last the others go on
        cases hrest with
        | @blocked st₂ c₂ bytes₂ hsock₂ htaken₂ hreplies₂ hreplying₂ =>
          refine .blocked (hboth hsock₂) (fun hall => ?_) (hreplies₂.trans hreplies₁) ?_
          · have hle := htaken₂ fun q hq => hall q (List.mem_cons_of_mem p hq)
            rw [List.length_cons, List.length_append]
            omega
          · rwa [← List.append_assoc]
        | @done st₂ c₂ bytes₂ hsock₂ hwhole₂ hreplies₂ hstate₂ hf₂ =>
          refine .done (hboth hsock₂) ?_ (hreplies₂.trans (congrArg (· + 1) hreplies₁)) hstate₂ hf₂
          rw [← List.append_assoc]
          exact hwhole₂

/-- What has been sent of a reply that is not over is not all of it. -/
theorem Replying.length_lt (h : Replying content part c) : part.length < (reply content).length := by
  cases h with
  | filling hstate hf hlength hoffset hmore hfit hfilled hrest hunsent =>
    have hlen := congrArg List.length hrest
    simp only [List.length_append, List.length_drop] at hlen
    omega
  | sending hstate hf hrest hunsent =>
    have hlen := congrArg List.length hrest
    rw [List.length_append, List.length_drop] at hlen
    omega

/-- What has been sent of a reply is its beginning. -/
theorem Replying.prefix (h : Replying content part c) : part <+: reply content := by
  cases h with
  | filling hstate hf hlength hoffset hmore hfit hfilled hrest hunsent =>
    exact ⟨_, by rw [← hrest, List.append_assoc]⟩
  | sending hstate hf hrest hunsent => exact ⟨_, hrest⟩

/-! ### The request -/

/-- A reply that has not been started. -/
structure FileserverReply.Fresh (r : FileserverReply) : Prop where
  f : r.f = none
  fLength : r.fLength = 0
  fReadOffset : r.fReadOffset = 0
  bufReadOffset : r.bufReadOffset = 0
  buf : r.buf = []

theorem fresh_fsIdle (c : FileserverConnection) : (fsIdle c).reply.Fresh := ⟨rfl, rfl, rfl, rfl, rfl⟩

variable {t : Target} {files : List UInt8 → Option (List UInt8)} {docroot : List UInt8}

/-- A request that has arrived is answered. -/
theorem checkRequest_whole (st : FileserverStats) (ht : t.WellFormed) (hbuf : c.request.buf = t.request) :
    checkRequest st c = .goto st { c with
      request := { c.request with filepath := t.path, done := true }, state := .replyFileStart } := by
  obtain ⟨rest, hdrop, hpath⟩ := strcasestr_path ht
  have hpos := List.length_pos_iff.mpr ht.path_ne
  have hshort := ht.short
  have hlen : t.path.length ≤ t.request.length := by
    have h := congrArg List.length hdrop
    rw [List.length_append, List.length_drop] at h
    omega
  have hfit : ¬ (t.path.length = 0 ∨ strSize - 1 < t.path.length) := by
    rw [show strSize = 256 from rfl]
    omega
  rw [checkRequest, hbuf, strcasestr_request_end ht]
  dsimp only
  rw [strcasestr_get ht]
  dsimp only
  rw [Nat.zero_add, hpath]
  dsimp only
  rw [if_neg hfit, hdrop, List.take_left]

/-- A request of which a part has arrived is waited for. -/
theorem checkRequest_part (st : FileserverStats) (ht : t.WellFormed) {rest : List UInt8}
    (hbuf : c.request.buf ++ rest = t.request) (hrest : rest ≠ []) :
    checkRequest st c = .stop st (some { c with state := .request }) .success := by
  rw [checkRequest, strcasestr_request_part ht hbuf hrest]

/-- The reply with a file that has something in it is started. -/
theorem fsReplyFileStart_open (st : FileserverStats)
    (hfile : files (abspath docroot c.request.filepath) = some content)
    (hsmall : (header content.length).length < bufSize) (hne : content.length ≠ 0) :
    fsReplyFileStart files docroot st c = .goto st { c with
      epoll := .writing
      reply := { c.reply with
        f := some { content := content }, fLength := content.length, buf := header content.length }
      state := .replyFileContinue } := by
  rw [fsReplyFileStart, hfile]
  dsimp only
  rw [if_neg (Nat.not_le.mpr hsmall), if_neg hne]

/-- The reply with a file is started. -/
theorem fsReplyFileStart_spec (st : FileserverStats) (hfresh : c.reply.Fresh)
    (hfile : files (abspath docroot c.request.filepath) = some content)
    (hsize : content.length < 2 ^ 63) :
    ∃ c', fsReplyFileStart files docroot st c = .goto st c' ∧ c'.sock = c.sock ∧
      c'.state ≠ .reply404Start ∧ Replying content [] c' := by
  obtain ⟨hf, hlength, hoffset, hro, hbuf⟩ := hfresh
  have hdigits := length_decimal_le (k := 19) (by decide) (show content.length < 10 ^ 19 by omega)
  have hheader := length_header content.length
  have hsmall : (header content.length).length < bufSize := by
    rw [show bufSize = 51200 from rfl]
    omega
  by_cases hempty : content.length = 0
  · have hnil : content = [] := List.length_eq_zero_iff.mp hempty
    subst hnil
    rw [fsReplyFileStart, hfile]
    dsimp only
    rw [if_neg (Nat.not_le.mpr hsmall)]
    refine ⟨_, if_pos rfl, rfl, (by intro h; cases h), .sending rfl rfl ?_ ?_⟩
    · show (header 0).drop c.reply.bufReadOffset = reply []
      rw [hro]
      exact (List.append_nil _).symm
    · show c.reply.bufReadOffset < (header 0).length
      rw [hro, length_header]
      omega
  · refine ⟨_, fsReplyFileStart_open st hfile hsmall hempty, rfl, (by intro h; cases h),
      .filling rfl rfl rfl hoffset (by omega) hsmall.le rfl ?_ (.inl ?_)⟩
    · show (header content.length).drop c.reply.bufReadOffset ++ content = reply content
      rw [hro]
      rfl
    · show c.reply.bufReadOffset < (header content.length).length
      rw [hro]
      omega

/-! ### One activation -/

/-- The file a client asks for. -/
def fileOf (files : List UInt8 → Option (List UInt8)) (docroot : List UInt8) (t : Target) : List UInt8 :=
  (files (abspath docroot t.path)).getD []

/-- The replies to some requests. -/
def repliesTo (files : List UInt8 → Option (List UInt8)) (docroot : List UInt8) (ts : List Target) :
    List UInt8 :=
  ts.flatMap fun t => reply (fileOf files docroot t)

theorem repliesTo_snoc (ts : List Target) (t : Target) :
    repliesTo files docroot (ts ++ [t]) =
      repliesTo files docroot ts ++ reply (fileOf files docroot t) := by
  simp [repliesTo]

/-- A file that is there, of a length that fits its type and does not fill the buffer exactly. -/
structure Servable (files : List UInt8 → Option (List UInt8)) (docroot : List UInt8) (t : Target) :
    Prop where
  found : files (abspath docroot t.path) = some (fileOf files docroot t)
  size : (fileOf files docroot t).length < 2 ^ 63
  fits : Fits (fileOf files docroot t).length

/-- Where a connection stands with its client, who has asked for some files; the last argument is how
many replies are complete. -/
inductive Phase (files : List UInt8 → Option (List UInt8)) (docroot : List UInt8) :
    List Target → FileserverConnection → ℕ → Prop
  | served {asked : List Target} {c : FileserverConnection}
      (sent : c.sock.sent = repliesTo files docroot asked) (inbox : c.sock.inbox = [])
      (state : c.state = .idle) (f : c.reply.f = none) : Phase files docroot asked c asked.length
  | asking {before : List Target} {t : Target} {c : FileserverConnection} {got : List UInt8}
      (wellFormed : t.WellFormed) (servable : Servable files docroot t)
      (sent : c.sock.sent = repliesTo files docroot before)
      (whole : got ++ c.sock.inbox = t.request) (inbox : c.sock.inbox ≠ [])
      (reading : c.state = .idle ∧ got = [] ∨
        c.state = .request ∧ c.request.buf = got ∧ c.reply.Fresh) :
      Phase files docroot (before ++ [t]) c before.length
  | replying {before : List Target} {t : Target} {c : FileserverConnection} {part : List UInt8}
      (fits : Fits (fileOf files docroot t).length)
      (sent : c.sock.sent = repliesTo files docroot before ++ part) (inbox : c.sock.inbox = [])
      (sending : Replying (fileOf files docroot t) part c) :
      Phase files docroot (before ++ [t]) c before.length

/-- An activation of a connection that is neither closed nor broken, with files that can be read. -/
structure Io.Alive (io : Io) : Prop where
  recv : io.recv.Alive
  passes : ∀ p ∈ io.passes, p.Alive

instance (io : Io) : Decidable io.Alive :=
  decidable_of_iff (io.recv.Alive ∧ ∀ p ∈ io.passes, p.Alive) ⟨fun h => ⟨h.1, h.2⟩, fun h => ⟨h.1, h.2⟩⟩

/-- An activation that finds all of the request there, and room for so many times of sending. -/
structure Io.Roomy (io : Io) (n : ℕ) : Prop where
  recv : ∃ k, io.recv = .got k ∧ 255 ≤ k
  passes : ∀ p ∈ io.passes, p.send ≠ .wouldBlock
  enough : n ≤ io.passes.length

/-- What an activation comes to: the connection stays, some replies have been completed and are counted,
and all of them if there was room for it. -/
def Activated (files : List UInt8 → Option (List UInt8)) (docroot : List UInt8)
    (asked : List Target) (k : ℕ) (st : FileserverStats) (io : Io) (turn : Turn) : Prop :=
  ∃ st' c' code k', turn = .stop st' (some c') code ∧
    (code = .success ∨ code = .errWouldblock) ∧ Phase files docroot asked c' k' ∧
    k ≤ k' ∧ st'.repliesSent + k = st.repliesSent + k' ∧
    (∀ n, (∀ t ∈ asked, (reply (fileOf files docroot t)).length ≤ n) → io.Roomy n → k' = asked.length)

variable {io : Io} {asked : List Target}

/-- The part of an activation that sends. -/
theorem activated_replyLoop {before : List Target} (st : FileserverStats)
    (hfits : Fits (fileOf files docroot t).length) (hpasses : ∀ p ∈ io.passes, p.Alive)
    (hsent : c.sock.sent = repliesTo files docroot before ++ part) (hinbox : c.sock.inbox = [])
    (h : Replying (fileOf files docroot t) part c) :
    Activated files docroot (before ++ [t]) before.length st io (replyLoop io.passes st c) := by
  have hloop := replyLoop_spec st hfits hpasses h
  have hsnoc : (before ++ [t]).length = before.length + 1 := List.length_append
  generalize replyLoop io.passes st c = turn at hloop
  cases hloop with
  | @blocked st' c' bytes hsock htaken hreplies hreplying =>
    refine ⟨st', c', _, _, rfl, .inr rfl, .replying hfits ?_ ?_ hreplying,
      Nat.le_refl _, congrArg (· + _) hreplies, fun n hn hroomy => ?_⟩
    · rw [hsock]
      show c.sock.sent ++ bytes = _
      rw [hsent, List.append_assoc]
    · rw [hsock]
      exact hinbox
    · have hlt := hreplying.length_lt
      have hle := hn t (List.mem_append_right _ List.mem_cons_self)
      have hbytes := htaken hroomy.passes
      have hroom := hroomy.enough
      rw [List.length_append] at hlt
      omega
  | @done st' c' bytes hsock hwhole hreplies hstate hf =>
    refine ⟨st', c', _, _, rfl, .inl rfl, .served ?_ ?_ hstate hf, ?_, ?_, fun _ _ _ => rfl⟩
    · rw [hsock, repliesTo_snoc, ← hwhole, ← List.append_assoc, ← hsent]
    · rw [hsock]
      exact hinbox
    · omega
    · rw [hreplies, hsnoc]
      omega

/-- The part of an activation that reads. -/
theorem activated_fsRequest {before : List Target} {got : List UInt8} (st : FileserverStats)
    (halive : io.Alive) (ht : t.WellFormed) (hservable : Servable files docroot t)
    (hsent : c.sock.sent = repliesTo files docroot before)
    (hwhole : got ++ c.sock.inbox = t.request) (hinbox : c.sock.inbox ≠ [])
    (hbuf : c.request.buf = got) (hfresh : c.reply.Fresh)
    (hstate : c.state = .idle ∧ got = [] ∨ c.state = .request) :
    Activated files docroot (before ++ [t]) before.length st io
      ((((fsRequest st c io.recv).bind (inState .replyFileStart (fsReplyFileStart files docroot))).bind
        (inState .reply404Start fsReply404Start)).bind (replyLoop io.passes)) := by
  have hshort := ht.short
  have hlen := congrArg List.length hwhole
  have hpos := List.length_pos_iff.mpr hinbox
  rw [List.length_append] at hlen
  have hspace : strSize - c.request.buf.length - 1 ≠ 0 := by
    rw [show strSize = 256 from rfl, hbuf]
    omega
  have hfit : c.sock.inbox.length ≤ strSize - c.request.buf.length - 1 := by
    rw [show strSize = 256 from rfl, hbuf]
    omega
  rw [fsRequest]
  dsimp only
  rw [if_neg hspace]
  -- the socket has nothing for now, or some of the request that is missing
  obtain ⟨hrecv, hwhy⟩ | ⟨bytes, rest, hne, hcut, hrecv, hall⟩ :=
    Socket.recv_alive (s := c.sock) halive.recv (Nat.pos_of_ne_zero hspace)
  · rw [hrecv]
    refine ⟨st, c, _, _, rfl, .inr rfl, .asking ht hservable hsent hwhole hinbox ?_, Nat.le_refl _,
      rfl, fun n _ hroomy => ?_⟩
    · obtain hidle | hrequest := hstate
      · exact .inl hidle
      · exact .inr ⟨hrequest, hbuf, hfresh⟩
    · obtain ⟨k, hk, -⟩ := hroomy.recv
      obtain hnil | hblock := hwhy
      · exact absurd hnil hinbox
      · rw [hblock] at hk
        cases hk
  · rw [hrecv]
    dsimp only
    rw [if_neg hne]
    -- the request is complete, and its reply starts in the same activation
    by_cases hrest : rest = []
    · subst hrest
      rw [List.append_nil] at hcut
      rw [checkRequest_whole _ ht (by rw [hbuf, ← hcut, hwhole])]
      obtain ⟨c', hstart, hsock, hnot, hreplying⟩ := fsReplyFileStart_spec
        { st with bytesReceived := st.bytesReceived + bytes.length }
        (c := { c with
          sock := { c.sock with inbox := [] }
          request := { c.request with
            filepath := t.path
            buf := c.request.buf ++ bytes
            bytesReceived := c.request.bytesReceived + bytes.length
            done := true }
          state := .replyFileStart }) hfresh hservable.found hservable.size
      rw [Turn.goto_bind, inState, if_pos rfl, hstart, Turn.goto_bind, inState, if_neg hnot,
        Turn.goto_bind]
      refine activated_replyLoop _ hservable.fits halive.passes ?_ ?_ hreplying
      · rw [hsock, List.append_nil]
        exact hsent
      · rw [hsock]
    · -- the request is not complete: the state is kept until more of it comes
      have hpart : (c.request.buf ++ bytes) ++ rest = t.request := by
        rw [List.append_assoc, ← hcut, hbuf, hwhole]
      rw [checkRequest_part _ ht hpart hrest]
      refine ⟨_, _, _, _, rfl, .inl rfl, .asking ht hservable hsent hpart hrest
        (.inr ⟨rfl, rfl, hfresh⟩), Nat.le_refl _, rfl, fun n _ hroomy => ?_⟩
      obtain ⟨k, hk, hle⟩ := hroomy.recv
      exact absurd (hall k hk (by omega) hfit) hrest

/-- **Every activation leaves a connection with its client where it was, or further.** -/
theorem Phase.activate {k : ℕ} (st : FileserverStats) (halive : io.Alive)
    (h : Phase files docroot asked c k) :
    Activated files docroot asked k st io (activateConnection files docroot io st c) := by
  cases h with
  | served hsent hinbox hstate hf =>
    have hspace : 0 < strSize - (fsIdle c).request.buf.length - 1 := by
      show 0 < strSize - ([] : List UInt8).length - 1
      decide
    -- the client has sent nothing, so there is nothing to read
    have hrecv : (fsIdle c).sock.recv (strSize - (fsIdle c).request.buf.length - 1) io.recv =
        (.wouldBlock, (fsIdle c).sock) := by
      obtain ⟨hrecv, -⟩ | ⟨bytes, rest, hne, hcut, -, -⟩ :=
        Socket.recv_alive (s := (fsIdle c).sock) halive.recv hspace
      · exact hrecv
      · rw [show (fsIdle c).sock.inbox = [] from hinbox] at hcut
        exact absurd (List.append_eq_nil_iff.mp hcut.symm).1 hne
    refine ⟨st, fsIdle c, .errWouldblock, asked.length, ?_, .inr rfl,
      .served hsent hinbox hstate rfl, Nat.le_refl _, rfl, fun _ _ _ => rfl⟩
    rw [activateConnection, hstate]
    dsimp only
    rw [fsRequest]
    dsimp only
    rw [if_neg (Nat.pos_iff_ne_zero.mp hspace), hrecv]
    rfl
  | asking ht hservable hsent hwhole hinbox hreading =>
    rw [activateConnection]
    obtain ⟨hidle, hgot⟩ | ⟨hrequest, hbuf, hfresh⟩ := hreading
    · rw [hidle]
      exact activated_fsRequest st halive ht hservable hsent hwhole hinbox hgot.symm
        (fresh_fsIdle c) (.inl ⟨hidle, hgot⟩)
    · rw [hrequest]
      exact activated_fsRequest st halive ht hservable hsent hwhole hinbox hbuf hfresh (.inr hrequest)
  -- a reply is under way, and the request is not read again
  | replying hfits hsent hinbox hsending =>
    have hstart : activateConnection files docroot io st c = replyLoop io.passes st c := by
      rw [activateConnection]
      cases hsending with
      | filling hstate =>
        rw [hstate]
        simp only [Turn.goto_bind, inState, hstate, reduceCtorEq, if_false]
      | sending hstate =>
        rw [hstate]
        simp only [Turn.goto_bind, inState, hstate, reduceCtorEq, if_false]
    rw [hstart]
    exact activated_replyLoop st hfits halive.passes hsent hinbox hsending

/-! ### Runs -/

/-- The server, what the client of one connection has asked for, and by how much the activations of that
connection have raised `replies_sent`. -/
structure World where
  fs : Fileserver
  asked : List Target := []
  counted : ℕ := 0

/-- What happens: the client asks for a file, the connection is activated, something arrives on another
connection, or another descriptor is activated. -/
inductive Event
  | ask (t : Target)
  | activate (io : Io)
  | arrive (other : ℕ) (bytes : List UInt8)
  | activateOther (other : ℕ) (io : Io)

/-- The steps of a server and the client of the connection `sockd`.  The client asks for a file that is
there, when it has had all replies before; its connection is neither closed nor broken.  Anything can
happen on the other connections, but that `accept` does not return a descriptor that is in use. -/
inductive Step (files : List UInt8 → Option (List UInt8)) (sockd : ℕ) : World → Event → World → Prop
  | ask {w : World} {c : FileserverConnection} {t : Target} (connected : w.fs.connections sockd = some c)
      (wellFormed : t.WellFormed)
      (found : files (abspath w.fs.docroot t.path) = some (fileOf files w.fs.docroot t))
      (size : (fileOf files w.fs.docroot t).length < 2 ^ 63)
      (answered : c.sock.sent = repliesTo files w.fs.docroot w.asked) :
      Step files sockd w (.ask t) { w with
        fs := w.fs.put sockd (some { c with
          sock := { c.sock with inbox := c.sock.inbox ++ t.request } })
        asked := w.asked ++ [t] }
  | activate {w : World} {io : Io} (alive : io.Alive) :
      Step files sockd w (.activate io) { w with
        fs := (w.fs.activate files sockd io).1
        counted := w.counted +
          ((w.fs.activate files sockd io).1.stats.repliesSent - w.fs.stats.repliesSent) }
  | arrive {w : World} {other : ℕ} {c : FileserverConnection} {bytes : List UInt8} (hne : other ≠ sockd)
      (connected : w.fs.connections other = some c) :
      Step files sockd w (.arrive other bytes) { w with
        fs := w.fs.put other (some { c with
          sock := { c.sock with inbox := c.sock.inbox ++ bytes } }) }
  | activateOther {w : World} {other : ℕ} {io : Io} (hne : other ≠ sockd) (hfree : sockd ∉ io.accepts) :
      Step files sockd w (.activateOther other io)
        { w with fs := (w.fs.activate files other io).1 }

/-- The file asked for does not fill the buffer exactly, together with its header. -/
def Fitting (files : List UInt8 → Option (List UInt8)) (w : World) : Event → Prop
  | .ask t => Fits (fileOf files w.fs.docroot t).length
  | _ => True

/-- The connection is open, and has sent the replies to all files asked for, one after the other, or the
beginning of the last.  Each complete reply is counted once.  When all are complete, the file is closed
and the connection waits for a request; if not, they will be after an activation that is long enough. -/
structure Serves (files : List UInt8 → Option (List UInt8)) (sockd : ℕ) (w : World) : Prop where
  serving : ∃ c, w.fs.connections sockd = some c ∧
    (c.sock.sent = repliesTo files w.fs.docroot w.asked ∧ w.counted = w.asked.length ∧
        c.state = .idle ∧ c.reply.f = none ∨
      ∃ before t part, w.asked = before ++ [t] ∧ w.counted = before.length ∧
        c.sock.sent = repliesTo files w.fs.docroot before ++ part ∧
        part <+: reply (fileOf files w.fs.docroot t) ∧
        part ≠ reply (fileOf files w.fs.docroot t))
  completes : ∀ io n, io.Alive → io.Roomy n →
    (∀ t ∈ w.asked, (reply (fileOf files w.fs.docroot t)).length ≤ n) →
    ∃ c, (w.fs.activate files sockd io).1.connections sockd = some c ∧
      c.sock.sent = repliesTo files w.fs.docroot w.asked

namespace Fileserver

variable {fs : Fileserver} {sockd other : ℕ}

@[simp] theorem put_self (c : Option FileserverConnection) : (fs.put sockd c).connections sockd = c :=
  Function.update_self ..

theorem put_other (hne : other ≠ sockd) (c : Option FileserverConnection) :
    (fs.put other c).connections sockd = fs.connections sockd :=
  Function.update_of_ne (Ne.symm hne) ..

/-- The two servers have the same connection `sockd`, and were started alike. -/
structure SameAt (sockd : ℕ) (fs fs' : Fileserver) : Prop where
  connections : fs'.connections sockd = fs.connections sockd
  docroot : fs'.docroot = fs.docroot
  listenSockd : fs'.listenSockd = fs.listenSockd

theorem sameAt_accept (fs : Fileserver) {accepts : List ℕ} (hfree : sockd ∉ accepts) :
    SameAt sockd fs (fs.accept accepts).1 := by
  induction accepts generalizing fs with
  | nil => exact ⟨rfl, rfl, rfl⟩
  | cons other accepts ih =>
    rw [List.mem_cons, not_or] at hfree
    obtain ⟨hconn, hroot, hlisten⟩ := ih (fs.put other (some {})) hfree.2
    exact ⟨hconn.trans (put_other (Ne.symm hfree.1) _), hroot, hlisten⟩

/-- An activation for another descriptor leaves a connection as it is. -/
theorem sameAt_activate (files : List UInt8 → Option (List UInt8)) (fs : Fileserver) {io : Io}
    (hne : other ≠ sockd) (hfree : sockd ∉ io.accepts) : SameAt sockd fs (fs.activate files other io).1 := by
  rw [activate]
  split_ifs
  · exact sameAt_accept fs hfree
  · cases fs.connections other with
    | none => exact ⟨rfl, rfl, rfl⟩
    | some c =>
      dsimp only
      cases activateConnection files fs.docroot io fs.stats c with
      | goto st c => exact ⟨put_other hne _, rfl, rfl⟩
      | stop st c code => exact ⟨put_other hne _, rfl, rfl⟩

/-- An activation of the connection. -/
theorem activate_stop {files : List UInt8 → Option (List UInt8)} {io : Io} {c : FileserverConnection}
    {c' : Option FileserverConnection} {st : FileserverStats} {code : FileserverCode}
    (hlisten : sockd ≠ fs.listenSockd) (hc : fs.connections sockd = some c)
    (hturn : activateConnection files fs.docroot io fs.stats c = .stop st c' code) :
    fs.activate files sockd io = ({ fs.put sockd c' with stats := st }, code) := by
  rw [activate, if_neg hlisten, hc]
  dsimp only
  rw [hturn]

theorem closed_of_stop {files : List UInt8 → Option (List UInt8)} {io : Io} {c : FileserverConnection}
    {st : FileserverStats} {code : FileserverCode} (hlisten : sockd ≠ fs.listenSockd)
    (hc : fs.connections sockd = some c)
    (hturn : activateConnection files fs.docroot io fs.stats c = .stop st none code) :
    (fs.activate files sockd io).1.connections sockd = none := by
  rw [activate_stop hlisten hc hturn]
  exact put_self none

end Fileserver

variable {sockd : ℕ} {w w' : World} {e : Event}

/-- The connection is open, and stands somewhere with its client. -/
structure Inv (files : List UInt8 → Option (List UInt8)) (sockd : ℕ) (w : World) : Prop where
  listen : sockd ≠ w.fs.listenSockd
  phase : ∃ c, w.fs.connections sockd = some c ∧ Phase files w.fs.docroot w.asked c w.counted

/-- An activation of the connection, and what it comes to. -/
theorem Inv.activated (h : Inv files sockd w) (halive : io.Alive) :
    ∃ st c code k, w.fs.activate files sockd io = ({ w.fs.put sockd (some c) with stats := st }, code) ∧
      Phase files w.fs.docroot w.asked c k ∧
      w.counted ≤ k ∧ st.repliesSent + w.counted = w.fs.stats.repliesSent + k ∧
      (∀ n, (∀ t ∈ w.asked, (reply (fileOf files w.fs.docroot t)).length ≤ n) → io.Roomy n →
        k = w.asked.length) := by
  obtain ⟨c, hc, hphase⟩ := h.phase
  obtain ⟨st, c', code, k, hturn, -, hphase', hle, hcount, hroomy⟩ := hphase.activate w.fs.stats halive
  exact ⟨st, c', code, k, Fileserver.activate_stop h.listen hc hturn, hphase', hle, hcount, hroomy⟩

/-- The client asks for another file. -/
theorem Phase.ask {c : FileserverConnection} {k : ℕ} (h : Phase files docroot asked c k)
    (hanswered : c.sock.sent = repliesTo files docroot asked) (ht : t.WellFormed)
    (hservable : Servable files docroot t) :
    Phase files docroot (asked ++ [t]) { c with
      sock := { c.sock with inbox := c.sock.inbox ++ t.request } } k := by
  cases h with
  | served hsent hinbox hstate hf =>
    refine .asking ht hservable hsent ?_ ?_ (.inl ⟨hstate, rfl⟩)
    · show c.sock.inbox ++ t.request = t.request
      rw [hinbox, List.nil_append]
    · show c.sock.inbox ++ t.request ≠ []
      rw [hinbox, List.nil_append]
      exact t.request_ne
  | asking _ _ hsent =>
    have hlen := congrArg List.length (hsent.symm.trans (hanswered.trans (repliesTo_snoc _ _)))
    have hpos := length_reply_pos (fileOf files docroot ‹Target›)
    rw [List.length_append] at hlen
    omega
  | replying _ hsent _ hsending =>
    have hlen := congrArg List.length (hsent.symm.trans (hanswered.trans (repliesTo_snoc _ _)))
    have hlt := hsending.length_lt
    rw [List.length_append, List.length_append] at hlen
    omega

/-- **One step keeps the connection open and in its place.** -/
theorem Inv.step (h : Inv files sockd w) (hfit : Fitting files w e) (hstep : Step files sockd w e w') :
    Inv files sockd w' := by
  cases hstep with
  | ask hc ht hfound hsize hanswered =>
    obtain ⟨c', hc', hphase⟩ := h.phase
    rw [hc] at hc'
    cases hc'
    exact ⟨h.listen, _, Fileserver.put_self _, hphase.ask hanswered ht ⟨hfound, hsize, hfit⟩⟩
  | activate halive =>
    obtain ⟨st, c, code, k, hact, hphase, hle, hcount, -⟩ := h.activated halive
    rw [hact]
    refine ⟨h.listen, c, Fileserver.put_self _, ?_⟩
    show Phase files w.fs.docroot w.asked c (w.counted + (st.repliesSent - w.fs.stats.repliesSent))
    rwa [show w.counted + (st.repliesSent - w.fs.stats.repliesSent) = k by omega]
  | arrive hne hc =>
    obtain ⟨c, hc, hphase⟩ := h.phase
    exact ⟨h.listen, c, (Fileserver.put_other hne _).trans hc, hphase⟩
  | @activateOther other io hne hfree =>
    obtain ⟨c, hc, hphase⟩ := h.phase
    obtain ⟨hconn, hroot, hlisten⟩ := Fileserver.sameAt_activate files w.fs hne hfree
    refine ⟨h.listen.trans_eq hlisten.symm, c, hconn.trans hc, ?_⟩
    show Phase files (w.fs.activate files other io).1.docroot w.asked c w.counted
    rwa [hroot]

/-- What the place of a connection says to its client. -/
theorem Phase.serves {c : FileserverConnection} {k : ℕ} (h : Phase files docroot asked c k) :
    c.sock.sent = repliesTo files docroot asked ∧ k = asked.length ∧
        c.state = .idle ∧ c.reply.f = none ∨
      ∃ before t part, asked = before ++ [t] ∧ k = before.length ∧
        c.sock.sent = repliesTo files docroot before ++ part ∧
        part <+: reply (fileOf files docroot t) ∧ part ≠ reply (fileOf files docroot t) := by
  cases h with
  | served hsent _ hstate hf => exact .inl ⟨hsent, rfl, hstate, hf⟩
  | asking _ _ hsent =>
    refine .inr ⟨_, _, [], rfl, rfl, by rw [hsent, List.append_nil], List.nil_prefix, fun heq => ?_⟩
    have hpos := length_reply_pos (fileOf files docroot ‹Target›)
    rw [← heq] at hpos
    exact Nat.lt_irrefl 0 hpos
  | replying _ hsent _ hsending =>
    refine .inr ⟨_, _, _, rfl, rfl, hsent, hsending.prefix, fun heq => ?_⟩
    exact absurd hsending.length_lt (by rw [heq]; exact Nat.lt_irrefl _)

/-- A connection all of whose replies are complete has sent them. -/
theorem Phase.sent_of_complete {c : FileserverConnection} (h : Phase files docroot asked c asked.length) :
    c.sock.sent = repliesTo files docroot asked := by
  obtain ⟨hsent, -⟩ | ⟨before, t, part, hasked, hk, -⟩ := h.serves
  · exact hsent
  · have hlen := congrArg List.length hasked
    rw [List.length_append, List.length_singleton] at hlen
    omega

/-- **Every file is served completely, and the connection stays usable**, in every run in which no file
fills the buffer exactly together with its header. -/
theorem serves_files {es : List Event} (hnew : w.fs.connections sockd = some {})
    (hlisten : sockd ≠ w.fs.listenSockd) (hfirst : w.asked = [] ∧ w.counted = 0)
    (hrun : Run (Guarded (Fitting files) (Step files sockd)) w es w') : Serves files sockd w' := by
  have hinv : Inv files sockd w' := by
    refine hrun.invariant (P := Inv files sockd) (fun s e t hs hst => hs.step hst.1 hst.2)
      ⟨hlisten, _, hnew, ?_⟩
    obtain ⟨hasked, hcounted⟩ := hfirst
    rw [hasked, hcounted]
    exact .served rfl rfl rfl rfl
  refine ⟨?_, fun io n halive hroomy hn => ?_⟩
  · obtain ⟨c, hc, hphase⟩ := hinv.phase
    exact ⟨c, hc, hphase.serves⟩
  · obtain ⟨st, c, code, k, hact, hphase, -, -, hall⟩ := hinv.activated halive
    rw [hall n hn hroomy] at hphase
    rw [hact]
    exact ⟨c, Fileserver.put_self _, hphase.sent_of_complete⟩

/-- A request for `/f` on the host `h`. -/
theorem wellFormed_small : Target.WellFormed ⟨[47, 102], [104]⟩ :=
  ⟨by decide, forall_mem_of_all (by decide), forall_mem_of_all (by decide), by decide⟩

/-- One request, read in two parts, and one file of three bytes, sent in two. -/
theorem serves_files_small :
    ∃ w', Run (Guarded (Fitting fun _ => some [1, 2, 3]) (Step (fun _ => some [1, 2, 3]) 5))
        { fs := { listenSockd := 3, docroot := [], connections := fun _ => some {} } }
        [.ask ⟨[47, 102], [104]⟩, .activate { recv := .got 7 },
          .activate { recv := .got 255, passes := [{ send := .got 40 }, { send := .got 40 }] }] w' ∧
      Serves (fun _ => some [1, 2, 3]) 5 w' := by
  have hrun : ∃ w', Run (Guarded (Fitting fun _ => some [1, 2, 3]) (Step (fun _ => some [1, 2, 3]) 5))
      { fs := { listenSockd := 3, docroot := [], connections := fun _ => some {} } }
      [.ask ⟨[47, 102], [104]⟩, .activate { recv := .got 7 },
        .activate { recv := .got 255, passes := [{ send := .got 40 }, { send := .got 40 }] }] w' :=
    ⟨_, .cons ⟨(by decide : Fits 3), .ask rfl wellFormed_small rfl
        (by decide) rfl⟩ (.cons ⟨trivial, .activate (by decide)⟩
        (.cons ⟨trivial, .activate (by decide)⟩ (.nil _)))⟩
  obtain ⟨w', hrun⟩ := hrun
  exact ⟨w', hrun, serves_files rfl (by decide) ⟨rfl, rfl⟩ hrun⟩

/-! ### Files that fill the buffer -/

/-- The passes that send a header and a file which fill the buffer together: after the first there is
nothing to send, and the file is still open. -/
theorem replyLoop_exact (st : FileserverStats) (hstate : c.state = .replyFileContinue)
    (hf : c.reply.f = some { content := content }) (hlength : c.reply.fLength = content.length)
    (hoffset : c.reply.fReadOffset = 0) (hro : c.reply.bufReadOffset = 0)
    (hbuf : c.reply.buf = header content.length) (hne : content.length ≠ 0)
    (hfull : (header content.length).length + content.length = bufSize) :
    ∃ st', replyLoop [{ send := .got bufSize }, { send := .got 1 }] st c = .stop st' none .closed := by
  have hspace : bufSize - c.reply.buf.length = content.length := by
    rw [hbuf]
    omega
  have hread : (content.drop 0).take content.length = content := by
    rw [List.drop_zero, List.take_length]
  have hlen : ((c.reply.buf ++ content).drop c.reply.bufReadOffset).length = bufSize := by
    rw [hro, hbuf, List.drop_zero, List.length_append, hfull]
  have hpos : min bufSize bufSize ≠ 0 := by decide
  have hall : c.reply.bufReadOffset + min bufSize bufSize = (c.reply.buf ++ content).length := by
    rw [hro, hbuf, List.length_append, hfull, Nat.min_self, Nat.zero_add]
  rw [replyLoop, replyPass, inState, if_pos hstate,
    fsReplyFileContinue_full hf hlength hoffset (by omega) (by omega) (by omega), hspace, hread,
    Turn.goto_bind, fsReplySend, Socket.send]
  dsimp only
  rw [hlen, if_neg hpos, if_pos hall, if_neg (Option.some_ne_none _), Turn.goto_bind, replyLoop,
    replyPass, inState, if_pos hstate, fsReplyFileContinue_idle fun h => h.2 ?_, Turn.goto_bind]
  · exact ⟨_, rfl⟩
  · show 0 + content.length = c.reply.fLength
    rw [hlength, Nat.zero_add]

/-- **A header and a file that fill the buffer exactly close the connection**, after the file has been
sent. -/
theorem exact_fill_closes (st : FileserverStats) (ht : t.WellFormed) (hstate : c.state = .idle)
    (hinbox : c.sock.inbox = t.request) (hfile : files (abspath docroot t.path) = some content)
    (hne : content.length ≠ 0) (hfull : (header content.length).length + content.length = bufSize) :
    ∃ st', activateConnection files docroot
      { recv := .got 255, passes := [{ send := .got bufSize }, { send := .got 1 }] } st c =
        .stop st' none .closed := by
  have hshort := ht.short
  have hrecv : c.sock.recv 255 (.got 255) = (.ok t.request, { c.sock with inbox := [] }) := by
    rw [Socket.recv, if_neg fun h => t.request_ne (hinbox ▸ h.1), hinbox,
      List.take_of_length_le (by omega), List.drop_eq_nil_of_le (by omega)]
  have hspace : strSize - (fsIdle c).request.buf.length - 1 = 255 := rfl
  have hsock : (fsIdle c).sock = c.sock := rfl
  rw [activateConnection, hstate]
  dsimp only
  rw [fsRequest]
  dsimp only
  rw [hspace, if_neg (by decide), hsock, hrecv]
  dsimp only
  rw [if_neg t.request_ne, checkRequest_whole _ ht rfl, Turn.goto_bind, inState, if_pos rfl,
    fsReplyFileStart_open _ hfile (by omega) hne, Turn.goto_bind, inState,
    if_neg (by intro h; cases h), Turn.goto_bind]
  exact replyLoop_exact _ rfl rfl rfl rfl rfl rfl hne hfull

/-- The connection is closed when the client asks for a file of 51158 bytes, which with a header of 42
fills the buffer. -/
theorem serves_files_fails :
    ¬ ∀ (files : List UInt8 → Option (List UInt8)) (sockd : ℕ) (w w' : World) (es : List Event),
      w.fs.connections sockd = some {} → sockd ≠ w.fs.listenSockd → w.asked = [] ∧ w.counted = 0 →
      Run (Step files sockd) w es w' → Serves files sockd w' := by
  intro hall
  obtain ⟨content, hlen⟩ : ∃ content : List UInt8, content.length = 51158 :=
    ⟨List.replicate 51158 0, List.length_replicate⟩
  have hfull : (header content.length).length + content.length = bufSize := by
    rw [hlen]
    decide
  obtain ⟨st, hturn⟩ : ∃ st', activateConnection (fun _ => some content) []
      { recv := .got 255, passes := [{ send := .got bufSize }, { send := .got 1 }] } {}
      { sock := { inbox := [] ++ Target.request ⟨[47, 102], [104]⟩ } } = .stop st' none .closed :=
    exact_fill_closes {} wellFormed_small rfl rfl rfl (by rw [hlen]; decide) hfull
  have hrun : Run (Step (fun _ => some content) 5)
      { fs := { listenSockd := 3, docroot := [], connections := fun _ => some {} } }
      [.ask ⟨[47, 102], [104]⟩, .activate
        { recv := .got 255, passes := [{ send := .got bufSize }, { send := .got 1 }] }] _ :=
    .cons (.ask rfl wellFormed_small rfl (hlen.trans_lt (by decide)) rfl)
      (.cons (.activate (by decide)) (.nil _))
  obtain ⟨c, hc, -⟩ := (hall _ _ _ _ _ rfl (by decide) ⟨rfl, rfl⟩ hrun).serving
  have hclosed := (Fileserver.closed_of_stop (by decide) (Fileserver.put_self _) hturn).symm.trans hc
  cases hclosed

end FileTransfer

end ShadowBrowser
