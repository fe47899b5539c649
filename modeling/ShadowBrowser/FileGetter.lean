/-
The file getter: `filegetter_download` and `filegetter_activate`.

A download opens what the body is saved to, connects unless a persistent connection is still there,
sends the request through the buffer, and then takes the reply in.  Until the header is complete the
buffer keeps everything that has come in, and status, end of header and length are looked for in it;
then the buffer is emptied after every `recv`.

An activation goes around the state machine until the socket would block; it is given one answer for
each `send` and `recv`.  The SOCKS handshake in front of the request and the clocks are left out.  An
assertion that fails, or a write outside the buffer, ends the program.

* `Follows` — a part of an activation after which the socket would block;
* `Loading` — a download after some of the body, and `Loading.receive`;
* `activates_at` — the activation in which something else happens;
* `foldl_saveFile_some`, `foldl_passOn` — what a stream makes of the pieces that are written to it;
* **`decodes_reply_iff`** — a reply is decoded if and only if what is in the buffer when the header is
  complete does not fill it and does not contain the text of a 404, the length fits an `int`, the files
  opened for earlier downloads are not written to, and its own stream is closed or has passed on all.
-/
import Mathlib.Algebra.Order.Ring.Nat
import Mathlib.Algebra.Ring.Int.Defs
import Mathlib.Logic.Function.Basic
import ShadowBrowser.Checked
import ShadowBrowser.FileTransfer

namespace ShadowBrowser

open Checked Texts Torrent

namespace FileTransfer

/-! ### Numbers -/

/-- `isspace`. -/
def IsSpace (b : UInt8) : Prop := b = 32 ∨ 9 ≤ b ∧ b ≤ 13

instance (b : UInt8) : Decidable (IsSpace b) := inferInstanceAs (Decidable (_ ∨ _))

/-- `strtol`, to the base 10: it stops at the bounds of a `long`. -/
def strtol (bs : List UInt8) : ℤ :=
  let bs := bs.dropWhile fun b => IsSpace b
  let sign := bs.head? = some 45 ∨ bs.head? = some 43
  let value : ℤ := ofDecimal ((if sign then bs.tail else bs).takeWhile fun b => IsDigit b)
  max (-2 ^ 63) (min (if bs.head? = some 45 then -value else value) (2 ^ 63 - 1))

/-- `atoi`: an `int` of 32 bits. -/
def atoi (bs : List UInt8) : ℤ := (strtol bs).bmod (2 ^ 32)

/-- `(size_t)`, of 64 bits. -/
def toSize (i : ℤ) : ℕ := (i % 2 ^ 64).toNat

/-- **The number in a header is read as it was printed**, if it is a `long`. -/
theorem strtol_decimal {n : ℕ} (hn : n < 2 ^ 63) (rest : List UInt8) :
    strtol (decimal n ++ 0 :: rest) = n := by
  obtain ⟨d, ds, hds⟩ := List.exists_cons_of_ne_nil (decimal_ne_nil n)
  have hd : IsDigit d := isDigit_of_mem_decimal (n := n) (by rw [hds]; exact List.mem_cons_self)
  have hspace : ¬ IsSpace d := by
    intro h
    rw [IsSpace, UInt8.le_iff_toNat_le, UInt8.le_iff_toNat_le, ← UInt8.toNat_inj] at h
    have h32 : (32 : UInt8).toNat = 32 := rfl
    have h13 : (13 : UInt8).toNat = 13 := rfl
    have hlo := hd.1
    omega
  have hdrop : (decimal n ++ 0 :: rest).dropWhile (fun b => decide (IsSpace b)) =
      decimal n ++ 0 :: rest := by
    rw [hds, List.cons_append]
    exact List.dropWhile_cons_of_neg (by simpa using hspace)
  have hhead : (decimal n ++ 0 :: rest).head? = some d := by
    rw [hds]
    rfl
  have hminus : (decimal n ++ 0 :: rest).head? ≠ some 45 := by
    rw [hhead]
    rintro ⟨⟩
    exact absurd hd (by decide)
  have hplus : (decimal n ++ 0 :: rest).head? ≠ some 43 := by
    rw [hhead]
    rintro ⟨⟩
    exact absurd hd (by decide)
  have hdigits : (decimal n ++ 0 :: rest).takeWhile (fun b => decide (IsDigit b)) = decimal n := by
    rw [List.takeWhile_append_of_pos fun b hb => decide_eq_true (isDigit_of_mem_decimal hb),
      List.takeWhile_cons_of_neg (by decide), List.append_nil]
  rw [strtol, hdrop, if_neg (not_or.mpr ⟨hminus, hplus⟩), if_neg hminus, hdigits, ofDecimal_decimal]
  omega

/-- The length that is taken from a header. -/
def lengthOf (n : ℕ) : ℕ := toSize ((n : ℤ).bmod (2 ^ 32))

/-- It is right if it fits an `int`. -/
theorem lengthOf_eq_iff {n : ℕ} (hn : n < 2 ^ 63) : lengthOf n = n ↔ n < 2 ^ 31 := by
  rw [lengthOf, toSize, Int.bmod_def]
  split <;> omega

/-! ### The getter -/

/-- `enum filegetter_code`. -/
inductive FilegetterCode
  | success | errInvalid | errFatal
  | errNotstarted | errNeedfspec
  | errSocket | errSocksinit | errSocksconn | errHttpconn | errFopen | errClose
  | errWouldblock | errSend | errRecv | closed
  | ok200 | err404
  deriving DecidableEq, Repr

/-- `enum filegetter_state`, without the states of the SOCKS handshake. -/
inductive FilegetterState
  | idle | spec | send | receive | checkDownload | requestHttp | toreplyHttp | replyHttp
  deriving DecidableEq, Repr

/-- `filegetter_filestats_t`, without the times. -/
structure FilegetterFilestats where
  bodyBytesDownloaded : ℕ := 0
  bodyBytesExpected : ℕ := 0
  bytesDownloaded : ℕ := 0
  bytesUploaded : ℕ := 0
  deriving DecidableEq, Repr

/-- `filegetter_filespec_t`. -/
structure FilegetterFilespec where
  remotePath : List UInt8 := []
  localPath : List UInt8 := []
  doSave : Bool := false
  saveToMemory : Bool := false
  deriving DecidableEq, Repr

/-- `filegetter_serverspec_t`, without the addresses. -/
structure FilegetterServerspec where
  httpHostname : List UInt8 := []
  persistent : Bool := false
  deriving DecidableEq, Repr

/-- A `FILE`: its path, and the bytes that wait in its buffer.  Nothing else writes to its file. -/
structure Stream where
  path : List UInt8
  pending : List UInt8 := []
  deriving DecidableEq, Repr

/-- How a library buffers a stream: how many bytes are passed on to the file, when it holds the first
list, the second waits, and `fwrite` is given the third. -/
abbrev Stdio := List UInt8 → List UInt8 → List UInt8 → ℕ

/-- `fwrite`, on what the file holds and what waits. -/
def Stdio.passOn (stdio : Stdio) (x : List UInt8 × List UInt8) (bytes : List UInt8) :
    List UInt8 × List UInt8 :=
  if bytes = [] then x
  else
    let n := stdio x.1 x.2 bytes
    (x.1 ++ (x.2 ++ bytes).take n, (x.2 ++ bytes).drop n)

/-- What the files hold when a stream has been flushed. -/
def flush (disk : List UInt8 → List UInt8) : Option Stream → List UInt8 → List UInt8
  | none => disk
  | some s => Function.update disk s.path (disk s.path ++ s.pending)

/-- `filegetter_t`: the bytes of `buf` are those in front of `buf_write_offset`.  `disk` is what the
files hold, and `unclosed` are the streams that were left open; what waits in them is written when the
program exits. -/
structure Filegetter where
  sspec : FilegetterServerspec := {}
  fspec : FilegetterFilespec := {}
  curstats : FilegetterFilestats := {}
  allstats : FilegetterFilestats := {}
  sock : Option Socket := none
  epoll : Epoll := {}
  f : Option Stream := none
  content : Option (List UInt8) := none
  buf : List UInt8 := []
  bufReadOffset : ℕ := 0
  state : FilegetterState := .idle
  nextstate : FilegetterState := .idle
  errcode : FilegetterCode := .success
  disk : List UInt8 → List UInt8 := fun _ => []
  unclosed : List Stream := []
  stdio : Stdio := fun _ _ _ => 0

/-- What ends the program: an assertion, or a write outside the buffer. -/
inductive FilegetterFault
  | assertion
  | outside
  deriving DecidableEq, Repr

namespace Filegetter

/-- What a case of the state machine comes to: on to the case of the next state, out, or the end of the
program. -/
inductive Turn
  | goto (fg : Filegetter)
  | stop (fg : Filegetter) (code : FilegetterCode)
  | abort (fault : FilegetterFault)

/-- What comes next, unless the state machine is left. -/
def Turn.bind (t : Turn) (next : Filegetter → Turn) : Turn :=
  match t with
  | .goto fg => next fg
  | .stop fg code => .stop fg code
  | .abort fault => .abort fault

@[simp] theorem Turn.goto_bind (fg : Filegetter) (next : Filegetter → Turn) :
    (Turn.goto fg).bind next = next fg := rfl

@[simp] theorem Turn.stop_bind (fg : Filegetter) (code : FilegetterCode) (next : Filegetter → Turn) :
    (Turn.stop fg code).bind next = .stop fg code := rfl

@[simp] theorem Turn.abort_bind (fault : FilegetterFault) (next : Filegetter → Turn) :
    (Turn.abort fault).bind next = .abort fault := rfl

/-- `filegetter_disconnect`; `fclose` flushes the stream. -/
def disconnect (fg : Filegetter) : Filegetter :=
  { fg with disk := flush fg.disk fg.f, f := none, sock := none }

/-- `filegetter_shutdown`. -/
def shutdown (fg : Filegetter) : Filegetter := { fg with state := .idle }.disconnect

/-- `filegetter_die`. -/
def die (fg : Filegetter) : Turn := .stop fg.shutdown .errFatal

/-- `filegetter_start`. -/
def start (disk : List UInt8 → List UInt8) (stdio : Stdio) : Filegetter :=
  { state := .spec, disk, stdio }

/-- `filegetter_set_specs`; `opens` is whether `fopen` succeeds, which empties the file.  The stream of an
earlier download is not closed. -/
def setSpecs (fg : Filegetter) (sspec : FilegetterServerspec) (fspec : FilegetterFilespec)
    (opens : Bool) : Filegetter × FilegetterCode :=
  if fg.state ≠ .spec then (fg, .errInvalid)
  else
    let fg := { fg with
      sspec := sspec
      fspec := fspec
      -- what was in memory is dropped, and a file starts again empty
      content := if fspec.saveToMemory then some [] else fg.content }
    let fg := if fspec.doSave then { fg with unclosed := fg.f.toList ++ fg.unclosed } else fg
    if fspec.doSave ∧ ¬ opens then ({ fg with f := none }, .errFopen)
    else
      let fg :=
        if fspec.doSave then { fg with
          f := some { path := fspec.localPath }
          disk := Function.update fg.disk fspec.localPath [] }
        else fg
      ({ fg with buf := [], bufReadOffset := 0, curstats := {} }, .success)

/-- `filegetter_download`, without a SOCKS server; `connects` is whether the connection can be made. -/
def download (fg : Filegetter) (sspec : FilegetterServerspec) (fspec : FilegetterFilespec)
    (opens connects : Bool) : Filegetter × FilegetterCode :=
  let (fg, result) := fg.setSpecs sspec fspec opens
  if fg.sspec.persistent = true ∧ fg.sock ≠ none then
    ({ fg with state := .requestHttp, epoll := .writing }, .success)
  else if result = .success then
    if connects then
      ({ fg with sock := some {}, state := .requestHttp, epoll := .writing }, .success)
    else (fg, .errHttpconn)
  else ({ fg with epoll := .writing }, result)

/-- `FG_REQUEST_HTTP`. -/
def requestHttp (fg : Filegetter) : Turn :=
  let bytes := getRequest (cString fg.fspec.remotePath) (cString fg.sspec.httpHostname)
  if bufSize ≤ fg.buf.length then .abort .assertion
  else if bufSize ≤ bytes.length then fg.die
  else .goto { fg with
    buf := fg.buf ++ bytes, epoll := .writing, state := .send, nextstate := .toreplyHttp }

/-- `FG_TOREPLY_HTTP`. -/
def toreplyHttp (fg : Filegetter) : Turn :=
  .goto { fg with epoll := .reading, state := .receive, nextstate := .replyHttp }

/-- `FG_REPLY_HTTP`. -/
def replyHttp (fg : Filegetter) : Turn :=
  if bufSize ≤ fg.buf.length then .abort .outside
  else
    let text := fg.buf.drop fg.bufReadOffset
    match strcasestr text http404 with
    | some _ => .stop { fg with
        bufReadOffset := fg.bufReadOffset + http404.length
        state := .spec
        nextstate := .requestHttp } .err404
    | none =>
      match strcasestr text http200, strcasestr text twoCrlf with
      | some _, some content =>
        match strcasestr text contentText with
        | none => fg.die
        | some cl =>
          -- The header ends with a NUL now.
          let text := text.set content 0
          let expected := toSize (atoi (text.drop (cl + contentText.length)))
          .goto { fg with
            buf := fg.buf.set (fg.bufReadOffset + content) 0
            bufReadOffset := fg.bufReadOffset + content + twoCrlf.length
            curstats := { fg.curstats with bodyBytesExpected := expected }
            allstats := { fg.allstats with
              bodyBytesExpected := fg.allstats.bodyBytesExpected + expected }
            state := .checkDownload }
      | _, _ => .goto { fg with state := .receive, nextstate := .replyHttp }

/-- Bytes of the body are saved to memory. -/
def saveMemory (content : Option (List UInt8)) (bytes : List UInt8) : Option (List UInt8) :=
  content.map (· ++ bytes)

/-- Bytes of the body are saved to a file, if one is open: `fwrite` hands them to the stream. -/
def saveFile (stdio : Stdio) (x : (List UInt8 → List UInt8) × Option Stream) (bytes : List UInt8) :
    (List UInt8 → List UInt8) × Option Stream :=
  match x with
  | (disk, none) => (disk, none)
  | (disk, some s) =>
    let y := stdio.passOn (disk s.path, s.pending) bytes
    (Function.update disk s.path y.1, some { s with pending := y.2 })

/-- `FG_CHECK_DOWNLOAD`; the files can be written to. -/
def checkDownload (fg : Filegetter) : Turn :=
  let bytes := fg.buf.drop fg.bufReadOffset
  let fg := { fg with
    curstats := { fg.curstats with
      bodyBytesDownloaded := fg.curstats.bodyBytesDownloaded + bytes.length }
    allstats := { fg.allstats with
      bodyBytesDownloaded := fg.allstats.bodyBytesDownloaded + bytes.length }
    content := saveMemory fg.content bytes
    disk := (saveFile fg.stdio (fg.disk, fg.f) bytes).1
    f := (saveFile fg.stdio (fg.disk, fg.f) bytes).2
    buf := []
    bufReadOffset := 0 }
  -- a reply of another length than was said is complete when that many bytes have come
  if fg.curstats.bodyBytesExpected ≤ fg.curstats.bodyBytesDownloaded then
    .stop { (if fg.sspec.persistent then fg else fg.disconnect) with state := .spec } .ok200
  else .goto { fg with state := .receive, nextstate := .checkDownload }

/-- The cases that do not use the socket, up to the next that does. -/
def enter (fg : Filegetter) : Turn :=
  match fg.state with
  | .idle => .stop fg .errNotstarted
  | .spec => .stop fg .errNeedfspec
  | .requestHttp => fg.requestHttp
  | .toreplyHttp => fg.toreplyHttp
  | .replyHttp => fg.replyHttp.bind fun fg =>
    if fg.state = .checkDownload then fg.checkDownload else .goto fg
  | .checkDownload => fg.checkDownload
  | .send => .goto fg
  | .receive => .goto fg

/-- `FG_SEND`. -/
def send (fg : Filegetter) (sock : Socket) (a : Answer) : Turn :=
  match sock.send (fg.buf.drop fg.bufReadOffset) a with
  | (.wouldBlock, _) => .stop fg .errWouldblock
  | (.failed, _) => { fg with errcode := .errSend }.die
  | (.ok bytes, sock) =>
    if bytes = 0 then { fg with errcode := .closed }.die
    else
      let fg := { fg with
        sock := some sock
        bufReadOffset := fg.bufReadOffset + bytes
        curstats := { fg.curstats with bytesUploaded := fg.curstats.bytesUploaded + bytes }
        allstats := { fg.allstats with bytesUploaded := fg.allstats.bytesUploaded + bytes } }
      -- all has been sent, and the next state begins with an empty buffer
      if fg.bufReadOffset = fg.buf.length then
        .goto { fg with bufReadOffset := 0, buf := [], state := fg.nextstate }
      else .goto fg

/-- `FG_RECEIVE`. -/
def receive (fg : Filegetter) (sock : Socket) (a : Answer) : Turn :=
  match sock.recv (bufSize - fg.buf.length) a with
  | (.wouldBlock, _) => .stop fg .errWouldblock
  | (.failed, _) => { fg with errcode := .errRecv }.die
  | (.ok bytes, sock) =>
    if bytes = [] then { fg with errcode := .closed }.die
    else .goto { fg with
      sock := some sock
      buf := fg.buf ++ bytes
      curstats := { fg.curstats with
        bytesDownloaded := fg.curstats.bytesDownloaded + bytes.length }
      allstats := { fg.allstats with
        bytesDownloaded := fg.allstats.bytesDownloaded + bytes.length }
      state := fg.nextstate }

/-- The case that uses the socket. -/
def transfer (fg : Filegetter) (a : Answer) : Turn :=
  match fg.sock, fg.state with
  | some sock, .send => fg.send sock a
  | some sock, .receive => fg.receive sock a
  | _, _ => .goto fg

/-- Once around the state machine. -/
def turn (fg : Filegetter) (a : Answer) : Turn := (fg.transfer a).bind enter

/-- Around it until the socket would block. -/
def loop : List Answer → Filegetter → Turn
  | [], fg => fg.turn .wouldBlock
  | a :: as, fg => (fg.turn a).bind (loop as)

/-- `FG_ASSERTSTATE`. -/
def Asserted (fg : Filegetter) : Prop :=
  fg.state ≠ .idle ∧ fg.sock ≠ none ∧ fg.bufReadOffset < bufSize ∧ fg.buf.length < bufSize ∧
    fg.bufReadOffset ≤ fg.buf.length

instance (fg : Filegetter) : Decidable fg.Asserted := inferInstanceAs (Decidable (_ ∧ _))

/-- What an activation returns. -/
def Turn.result : Turn → Except FilegetterFault (Filegetter × FilegetterCode)
  | .goto fg => .ok (fg, .success)
  | .stop fg code => .ok (fg, code)
  | .abort fault => .error fault

/-- `filegetter_activate`. -/
def activate (fg : Filegetter) (answers : List Answer) :
    Except FilegetterFault (Filegetter × FilegetterCode) := do
  check fg.Asserted .assertion
  (fg.enter.bind (loop answers)).result

/-- Several activations, and what they return. -/
def activates (fg : Filegetter) :
    List (List Answer) → Except FilegetterFault (Filegetter × List FilegetterCode)
  | [] => .ok (fg, [])
  | answers :: rest => do
    let (fg, code) ← fg.activate answers
    let (fg, codes) ← fg.activates rest
    return (fg, code :: codes)

/-- Bytes arrive. -/
def arrive (fg : Filegetter) (bytes : List UInt8) : Filegetter :=
  { fg with sock := fg.sock.map fun s => { s with inbox := s.inbox ++ bytes } }

/-- A download: the request is sent in some activations, the reply arrives, and it is taken in in
others. -/
def exchange (fg : Filegetter) (sspec : FilegetterServerspec) (fspec : FilegetterFilespec)
    (content : List UInt8) (asking taking : List (List Answer)) :
    Except FilegetterFault (Filegetter × List FilegetterCode) := do
  let (fg, codes) ← (fg.download sspec fspec true true).1.activates asking
  let (fg, codes') ← (fg.arrive (reply content)).activates taking
  return (fg, codes ++ codes')

/-! ### Activations -/

/-- The getter is at a call that may block. -/
structure Waits (fg : Filegetter) : Prop where
  asserted : fg.Asserted
  state : fg.state = .send ∨ fg.state = .receive

/-- The getter goes around its state machine over some answers, and is at such a call after each. -/
inductive Follows : Filegetter → List Answer → Filegetter → Prop
  | nil {fg : Filegetter} (waits : fg.Waits) : Follows fg [] fg
  | cons {fg fg' fg'' : Filegetter} {a : Answer} {answers : List Answer} (waits : fg.Waits)
      (turn : fg.turn a = .goto fg') (rest : Follows fg' answers fg'') : Follows fg (a :: answers) fg''

variable {fg fg' fg'' m : Filegetter} {a : Answer} {answers answers' : List Answer}

theorem Waits.enter (h : fg.Waits) : fg.enter = .goto fg := by
  rw [Filegetter.enter]
  obtain hs | hs := h.state <;> rw [hs]

theorem Waits.wouldBlock (h : fg.Waits) : fg.turn .wouldBlock = .stop fg .errWouldblock := by
  obtain ⟨sock, hsock⟩ := Option.ne_none_iff_exists'.mp h.asserted.2.1
  rw [turn, transfer, hsock]
  obtain hs | hs := h.state <;> rw [hs] <;> rfl

theorem Follows.waits (h : Follows fg answers fg') : fg.Waits := by
  cases h with
  | nil hw => exact hw
  | cons hw => exact hw

theorem Follows.waits_last (h : Follows fg answers fg') : fg'.Waits := by
  induction h with
  | nil hw => exact hw
  | cons _ _ _ ih => exact ih

theorem Follows.append (h : Follows fg answers fg') (h' : Follows fg' answers' fg'') :
    Follows fg (answers ++ answers') fg'' := by
  induction h with
  | nil => exact h'
  | cons hw ht _ ih => exact .cons hw ht (ih h')

theorem Follows.split (h : Follows fg (answers ++ answers') fg'') :
    ∃ fg', Follows fg answers fg' ∧ Follows fg' answers' fg'' := by
  induction answers generalizing fg with
  | nil => exact ⟨fg, .nil h.waits, h⟩
  | cons a answers ih =>
    cases h with
    | cons hw ht hrest =>
      obtain ⟨fg', h₁, h₂⟩ := ih hrest
      exact ⟨fg', .cons hw ht h₁, h₂⟩

theorem Follows.loop_append (h : Follows fg answers fg') (rest : List Answer) :
    loop (answers ++ rest) fg = loop rest fg' := by
  induction h with
  | nil => rfl
  | cons _ ht _ ih => rw [List.cons_append, loop, ht, Turn.goto_bind, ih]

/-- An activation of a getter that waits. -/
theorem Waits.activate (h : fg.Waits) (answers : List Answer) :
    fg.activate answers = (loop answers fg).result := by
  rw [Filegetter.activate, check_pos h.asserted, ok_bind, h.enter, Turn.goto_bind]

/-- An activation after which the socket would block. -/
theorem Follows.activate (h : Follows fg answers fg') :
    fg.activate answers = .ok (fg', .errWouldblock) := by
  have hloop := h.loop_append []
  rw [List.append_nil, loop, h.waits_last.wouldBlock] at hloop
  rw [h.waits.activate, hloop]
  rfl

theorem activates_append (fg : Filegetter) (acts acts' : List (List Answer)) :
    fg.activates (acts ++ acts') = (do
      let (fg, codes) ← fg.activates acts
      let (fg, codes') ← fg.activates acts'
      return (fg, codes ++ codes')) := by
  induction acts generalizing fg with
  | nil =>
    rw [activates, ok_bind, List.nil_append]
    dsimp only
    cases fg.activates acts' with
    | error fault => rfl
    | ok r => rfl
  | cons answers acts ih =>
    rw [List.cons_append, activates, activates]
    cases fg.activate answers with
    | error fault => rfl
    | ok r =>
      simp only [ok_bind, ih]
      cases r.1.activates acts with
      | error fault => rfl
      | ok r' =>
        simp only [ok_bind, pure_eq_ok]
        cases r'.1.activates acts' with
        | error fault => rfl
        | ok r'' => rfl

/-- Activations after each of which the socket would block. -/
theorem Follows.activates {acts : List (List Answer)} (h : Follows fg acts.flatten fg') :
    fg.activates acts = .ok (fg', List.replicate acts.length .errWouldblock) := by
  induction acts generalizing fg with
  | nil =>
    cases h
    rfl
  | cons answers acts ih =>
    obtain ⟨m, h₁, h₂⟩ := h.split
    rw [Filegetter.activates, h₁.activate, ok_bind]
    dsimp only
    rw [ih h₂]
    rfl

/-- **The activation in which something happens at one answer**: the ones before it return that the
socket would block. -/
theorem activates_at {acts : List (List Answer)} (h : Follows fg answers m)
    (hacts : acts.flatten = answers ++ a :: answers') :
    ∃ before front rest after, acts = before ++ (front ++ a :: rest) :: after ∧
      rest ++ after.flatten = answers' ∧
      fg.activates acts = (do
        let (fg, code) ← ((m.turn a).bind (loop rest)).result
        let (fg, codes) ← fg.activates after
        return (fg, List.replicate before.length .errWouldblock ++ code :: codes)) := by
  obtain ⟨as, bs, c, cs, ds, hcut, hbefore, hafter⟩ : ∃ as bs c cs ds,
      acts = as ++ (bs ++ c :: cs) :: ds ∧ answers = as.flatten ++ bs ∧
        a :: answers' = c :: cs ++ ds.flatten := by
    obtain ⟨as, bs, hcut, hbefore, hafter⟩ | h := List.flatten_eq_append_iff.mp hacts
    · -- the answer may be the first of an activation, behind some that have none
      obtain ⟨es, cs, ds, hbs, hnil, hrest⟩ := List.flatten_eq_cons_iff.mp hafter.symm
      refine ⟨as ++ es, [], a, cs, ds, by rw [hcut, hbs, List.append_assoc, List.nil_append], ?_, ?_⟩
      · rw [List.flatten_append, List.flatten_eq_nil_iff.mpr hnil, List.append_nil, List.append_nil]
        exact hbefore
      · rw [hrest, List.cons_append]
    · exact h
  obtain ⟨rfl, hrest⟩ := List.cons.inj hafter
  rw [hbefore] at h
  obtain ⟨m', h₁, h₂⟩ := h.split
  refine ⟨as, bs, cs, ds, hcut, hrest.symm, ?_⟩
  · have hact : m'.activate (bs ++ a :: cs) = ((m.turn a).bind (loop cs)).result := by
      rw [h₂.waits.activate, h₂.loop_append, loop]
    rw [hcut, activates_append, h₁.activates, ok_bind]
    dsimp only
    rw [Filegetter.activates, hact]
    cases ((m.turn a).bind (loop cs)).result with
    | error fault => rfl
    | ok r =>
      simp only [ok_bind]
      cases r.1.activates ds with
      | error fault => rfl
      | ok r' => rfl

/-! ### The request -/

/-- What a download leaves alone until there is something of the body. -/
structure Same (fg fg' : Filegetter) : Prop where
  sspec : fg'.sspec = fg.sspec
  f : fg'.f = fg.f
  content : fg'.content = fg.content
  files : (fg'.disk, fg'.unclosed, fg'.stdio) = (fg.disk, fg.unclosed, fg.stdio)
  bodyBytesDownloaded : fg'.curstats.bodyBytesDownloaded = fg.curstats.bodyBytesDownloaded

/-- A getter that has sent so many bytes of its request. -/
structure Sending (fg : Filegetter) (req : List UInt8) (k : ℕ) (fg' : Filegetter) : Prop where
  same : Same fg fg'
  state : fg'.state = .send
  nextstate : fg'.nextstate = .toreplyHttp
  buf : fg'.buf = req
  bufReadOffset : fg'.bufReadOffset = k
  sock : ∃ s, fg'.sock = some s ∧ s.inbox = []
  short : req.length < bufSize
  unsent : k < req.length

/-- A getter that has read some of the header; `rest` has arrived and is not read. -/
structure Reading (fg : Filegetter) (got rest : List UInt8) (fg' : Filegetter) : Prop where
  same : Same fg fg'
  state : fg'.state = .receive
  nextstate : fg'.nextstate = .replyHttp
  buf : fg'.buf = got
  bufReadOffset : fg'.bufReadOffset = 0
  sock : ∃ s, fg'.sock = some s ∧ s.inbox = rest
  short : got.length < bufSize

variable {req got rest p : List UInt8} {k n : ℕ} {fg₁ : Filegetter}

theorem Sending.waits (h : Sending fg₁ req k fg) : fg.Waits := by
  obtain ⟨sock, hsock, -⟩ := h.sock
  have hk := h.unsent
  have hshort := h.short
  refine ⟨⟨?_, ?_, ?_, ?_, ?_⟩, .inl h.state⟩
  · rw [h.state]
    decide
  · rw [hsock]
    exact Option.some_ne_none _
  · rw [h.bufReadOffset]
    omega
  · rw [h.buf]
    exact hshort
  · rw [h.bufReadOffset, h.buf]
    omega

theorem Reading.waits (h : Reading fg₁ got rest fg) : fg.Waits := by
  obtain ⟨sock, hsock, -⟩ := h.sock
  refine ⟨⟨?_, ?_, ?_, ?_, ?_⟩, .inr h.state⟩
  · rw [h.state]
    decide
  · rw [hsock]
    exact Option.some_ne_none _
  · rw [h.bufReadOffset]
    decide
  · rw [h.buf]
    exact h.short
  · rw [h.bufReadOffset]
    exact Nat.zero_le _

/-- Some of the request is sent, and not the last of it. -/
theorem Sending.more (h : Sending fg₁ req k fg) (hn : 0 < n) (hlt : k + n < req.length) :
    ∃ fg', fg.turn (.got n) = .goto fg' ∧ Sending fg₁ req (k + n) fg' := by
  obtain ⟨hsame, hstate, hnext, hbuf, hro, ⟨sock, hsock, hinbox⟩, hshort, hunsent⟩ := h
  have hmin : min n (req.drop k).length = n := by
    rw [List.length_drop]
    omega
  have hturn : fg.turn (.got n) = .goto { fg with
      sock := some { sock with sent := sock.sent ++ (req.drop k).take n }
      bufReadOffset := k + n
      curstats := { fg.curstats with bytesUploaded := fg.curstats.bytesUploaded + n }
      allstats := { fg.allstats with bytesUploaded := fg.allstats.bytesUploaded + n } } := by
    rw [turn, transfer, hsock, hstate]
    dsimp only
    rw [send, hbuf, hro, Socket.send]
    dsimp only
    rw [hmin, if_neg (by omega), if_neg (by omega), Turn.goto_bind, enter, hstate]
  exact ⟨_, hturn, ⟨⟨hsame.1, hsame.2, hsame.3, hsame.4, hsame.5⟩, hstate, hnext, hbuf, rfl,
    ⟨_, rfl, hinbox⟩, hshort, hlt⟩⟩

/-- The last of the request is sent. -/
theorem Sending.last (h : Sending fg₁ req k fg) (hn : 0 < n) (heq : k + n = req.length) :
    ∃ fg', fg.turn (.got n) = .goto fg' ∧ Reading fg₁ [] [] fg' := by
  obtain ⟨hsame, hstate, hnext, hbuf, hro, ⟨sock, hsock, hinbox⟩, hshort, hunsent⟩ := h
  have hmin : min n (req.drop k).length = n := by
    rw [List.length_drop]
    omega
  have hturn : fg.turn (.got n) = .goto { fg with
      sock := some { sock with sent := sock.sent ++ (req.drop k).take n }
      bufReadOffset := 0
      buf := []
      curstats := { fg.curstats with bytesUploaded := fg.curstats.bytesUploaded + n }
      allstats := { fg.allstats with bytesUploaded := fg.allstats.bytesUploaded + n }
      epoll := .reading
      state := .receive
      nextstate := .replyHttp } := by
    rw [turn, transfer, hsock, hstate]
    dsimp only
    rw [send, hbuf, hro, Socket.send]
    dsimp only
    rw [hmin, if_neg (by omega), if_pos heq, Turn.goto_bind, enter, hnext]
    rfl
  exact ⟨_, hturn, ⟨⟨hsame.1, hsame.2, hsame.3, hsame.4, hsame.5⟩, rfl, rfl, rfl, rfl,
    ⟨_, rfl, hinbox⟩, by decide⟩⟩

/-- **The request is sent**, however little each `send` takes. -/
theorem Sending.follows (h : Sending fg₁ req k fg) {ns : List ℕ} (hpos : ∀ n ∈ ns, 0 < n)
    (hsum : k + ns.sum = req.length) :
    ∃ fg', Follows fg (ns.map .got) fg' ∧ Reading fg₁ [] [] fg' := by
  induction ns generalizing fg k with
  | nil =>
    have hk := h.unsent
    rw [List.sum_nil] at hsum
    omega
  | cons n ns ih =>
    have hn := hpos n List.mem_cons_self
    rw [List.sum_cons] at hsum
    by_cases hlast : k + n = req.length
    · have hnil : ns = [] := by
        cases ns with
        | nil => rfl
        | cons n' ns =>
          have hn' := hpos n' (List.mem_cons_of_mem n List.mem_cons_self)
          rw [List.sum_cons] at hsum
          omega
      subst hnil
      obtain ⟨fg', hturn, hreading⟩ := h.last hn hlast
      exact ⟨fg', .cons h.waits hturn (.nil hreading.waits), hreading⟩
    · obtain ⟨m, hturn, hsending⟩ := h.more hn (by omega)
      obtain ⟨fg', hfollows, hreading⟩ := ih hsending (fun n' hn' => hpos n' (List.mem_cons_of_mem n hn'))
        (by omega)
      exact ⟨fg', .cons h.waits hturn hfollows, hreading⟩

/-! ### The body -/

theorem saveMemory_append (content : Option (List UInt8)) (bytes bytes' : List UInt8) :
    saveMemory (saveMemory content bytes) bytes' = saveMemory content (bytes ++ bytes') := by
  cases content with
  | none => rfl
  | some c => exact congrArg some (List.append_assoc c bytes bytes')

@[simp] theorem saveMemory_nil (content : Option (List UInt8)) : saveMemory content [] = content := by
  cases content with
  | none => rfl
  | some c => exact congrArg some (List.append_nil c)

/-- Without an open file, nothing is saved. -/
theorem foldl_saveFile_none (stdio : Stdio) (disk : List UInt8 → List UInt8) (ps : List (List UInt8)) :
    ps.foldl (saveFile stdio) (disk, none) = (disk, none) := by
  induction ps with
  | nil => rfl
  | cons p ps ih => exact ih

/-- **Pieces of the body are saved to the stream that is open.** -/
theorem foldl_saveFile_some (stdio : Stdio) (disk : List UInt8 → List UInt8) (s : Stream)
    (ps : List (List UInt8)) :
    ps.foldl (saveFile stdio) (disk, some s) =
      (Function.update disk s.path (ps.foldl stdio.passOn (disk s.path, s.pending)).1,
        some { s with pending := (ps.foldl stdio.passOn (disk s.path, s.pending)).2 }) := by
  induction ps generalizing disk s with
  | nil =>
    rw [List.foldl_nil, List.foldl_nil, Function.update_eq_self]
  | cons p ps ih =>
    rw [List.foldl_cons, List.foldl_cons, saveFile, ih]
    dsimp only
    rw [Function.update_self, Function.update_idem]

/-- What has been passed on and what waits are the bytes in their order. -/
theorem foldl_passOn (stdio : Stdio) (x : List UInt8 × List UInt8) (ps : List (List UInt8)) :
    (ps.foldl stdio.passOn x).1 ++ (ps.foldl stdio.passOn x).2 = x.1 ++ x.2 ++ ps.flatten := by
  have hone : ∀ (x : List UInt8 × List UInt8) p,
      (stdio.passOn x p).1 ++ (stdio.passOn x p).2 = x.1 ++ x.2 ++ p := by
    intro x p
    rw [Stdio.passOn]
    by_cases hp : p = []
    · rw [if_pos hp, hp, List.append_nil]
    · rw [if_neg hp, List.append_assoc, List.take_append_drop, List.append_assoc]
  induction ps generalizing x with
  | nil => rw [List.foldl_nil, List.flatten_nil, List.append_nil]
  | cons p ps ih => rw [List.foldl_cons, ih, hone, List.flatten_cons, List.append_assoc _ p]

/-- What some pieces of the body make of the files. -/
def saving (fg : Filegetter) (ps : List (List UInt8)) : (List UInt8 → List UInt8) × Option Stream :=
  ps.foldl (saveFile fg.stdio) (fg.disk, fg.f)

/-- A download, begun at `fg`, that expects `e` bytes and has saved some pieces. -/
structure Loaded (fg : Filegetter) (e : ℕ) (ps : List (List UInt8)) (fg' : Filegetter) : Prop where
  sspec : fg'.sspec = fg.sspec
  content : fg'.content = saveMemory fg.content ps.flatten
  unclosed : fg'.unclosed = fg.unclosed
  stdio : fg'.stdio = fg.stdio
  bodyBytesDownloaded : fg'.curstats.bodyBytesDownloaded = ps.flatten.length
  bodyBytesExpected : fg'.curstats.bodyBytesExpected = e

/-- It is going on; `rest` has arrived and is not read. -/
structure Loading (fg : Filegetter) (e : ℕ) (ps : List (List UInt8)) (rest : List UInt8)
    (fg' : Filegetter) : Prop where
  loaded : Loaded fg e ps fg'
  files : (fg'.disk, fg'.f) = fg.saving ps
  state : fg'.state = .receive
  nextstate : fg'.nextstate = .checkDownload
  buf : fg'.buf = []
  bufReadOffset : fg'.bufReadOffset = 0
  sock : ∃ s, fg'.sock = some s ∧ s.inbox = rest

/-- It is over: a connection that is kept has `rest` left, and its stream stays open. -/
structure Done (fg : Filegetter) (e : ℕ) (ps : List (List UInt8)) (rest : List UInt8)
    (fg' : Filegetter) : Prop where
  loaded : Loaded fg e ps fg'
  files : (fg'.disk, fg'.f) = if fg.sspec.persistent = true then fg.saving ps
    else (flush (fg.saving ps).1 (fg.saving ps).2, none)
  state : fg'.state = .spec
  buf : fg'.buf = []
  bufReadOffset : fg'.bufReadOffset = 0
  sock : if fg.sspec.persistent = true then ∃ s, fg'.sock = some s ∧ s.inbox = rest else fg'.sock = none

variable {e : ℕ} {avail : List UInt8} {saved : List (List UInt8)}

theorem Loading.waits (h : Loading fg₁ e saved rest fg) : fg.Waits := by
  obtain ⟨sock, hsock, -⟩ := h.sock
  refine ⟨⟨?_, ?_, ?_, ?_, ?_⟩, .inr h.state⟩
  · rw [h.state]
    decide
  · rw [hsock]
    exact Option.some_ne_none _
  · rw [h.bufReadOffset]
    decide
  · rw [h.buf]
    decide
  · rw [h.bufReadOffset]
    exact Nat.zero_le _

/-- **What is in the buffer is saved, and then the download is over or goes on.** -/
theorem checkDownload_spec (h : Loaded fg₁ e saved m) (hfiles : (m.disk, m.f) = fg₁.saving saved)
    (havail : m.buf.drop m.bufReadOffset = avail) (hsock : ∃ s, m.sock = some s ∧ s.inbox = rest) :
    (e ≤ (saved ++ [avail]).flatten.length ∧ ∃ fg', m.checkDownload = .stop fg' .ok200 ∧
        Done fg₁ e (saved ++ [avail]) rest fg') ∨
      ((saved ++ [avail]).flatten.length < e ∧ ∃ fg', m.checkDownload = .goto fg' ∧
        Loading fg₁ e (saved ++ [avail]) rest fg') := by
  obtain ⟨hsspec, hcontent, hunclosed, hstdio, hdown, hexp⟩ := h
  have hflat : (saved ++ [avail]).flatten = saved.flatten ++ avail := by
    rw [List.flatten_append, List.flatten_singleton]
  have hcontent' : saveMemory m.content avail = saveMemory fg₁.content (saved ++ [avail]).flatten := by
    rw [hcontent, saveMemory_append, hflat]
  have hfiles' : saveFile m.stdio (m.disk, m.f) avail = fg₁.saving (saved ++ [avail]) := by
    rw [hfiles, hstdio, saving, saving, List.foldl_append]
    rfl
  have hdown' : m.curstats.bodyBytesDownloaded + avail.length = (saved ++ [avail]).flatten.length := by
    rw [hdown, hflat, List.length_append]
  rw [checkDownload, havail]
  dsimp only
  rw [hfiles']
  by_cases hdone : e ≤ (saved ++ [avail]).flatten.length
  · rw [if_pos (by rw [hexp, hdown']; exact hdone)]
    by_cases hpersistent : fg₁.sspec.persistent = true
    · rw [if_pos (by rw [hsspec]; exact hpersistent)]
      exact .inl ⟨hdone, _, rfl, ⟨hsspec, hcontent', hunclosed, hstdio, hdown', hexp⟩,
        (if_pos hpersistent).symm, rfl, rfl, rfl, (if_pos hpersistent).mpr hsock⟩
    · rw [if_neg (by rw [hsspec]; exact hpersistent)]
      exact .inl ⟨hdone, _, rfl, ⟨hsspec, hcontent', hunclosed, hstdio, hdown', hexp⟩,
        (if_neg hpersistent).symm, rfl, rfl, rfl, (if_neg hpersistent).mpr rfl⟩
  · rw [if_neg (by rw [hexp, hdown']; exact hdone)]
    exact .inr ⟨Nat.lt_of_not_le hdone, _, rfl, ⟨hsspec, hcontent', hunclosed, hstdio, hdown', hexp⟩,
      rfl, rfl, rfl, rfl, rfl, hsock⟩

/-- `recv` returns the piece that has arrived. -/
theorem recv_piece {s : Socket} {space : ℕ} (hinbox : s.inbox = p ++ rest) (hp : p ≠ [])
    (hspace : p.length ≤ space) :
    s.recv space (.got p.length) = (.ok p, { s with inbox := rest }) := by
  have hne : ¬ (s.inbox = [] ∧ 0 < min p.length space) := by
    rintro ⟨hnil, -⟩
    rw [hinbox] at hnil
    exact hp (List.append_eq_nil_iff.mp hnil).1
  rw [Socket.recv, if_neg hne, Nat.min_eq_left hspace, hinbox, List.take_left, List.drop_left]

/-- **A piece of the body is taken in.** -/
theorem Loading.receive (h : Loading fg₁ e saved (p ++ rest) fg) (hp : p ≠ []) (hspace : p.length ≤ bufSize) :
    (e ≤ (saved ++ [p]).flatten.length ∧ ∃ fg', fg.turn (.got p.length) = .stop fg' .ok200 ∧
        Done fg₁ e (saved ++ [p]) rest fg') ∨
      ((saved ++ [p]).flatten.length < e ∧ ∃ fg', fg.turn (.got p.length) = .goto fg' ∧
        Loading fg₁ e (saved ++ [p]) rest fg') := by
  obtain ⟨⟨h₁, h₂, h₃, h₄, h₅, h₆⟩, hfiles, hstate, hnext, hbuf, hro, ⟨sock, hsock, hinbox⟩⟩ := h
  have hturn : fg.turn (.got p.length) = { fg with
      sock := some { sock with inbox := rest }
      buf := p
      curstats := { fg.curstats with bytesDownloaded := fg.curstats.bytesDownloaded + p.length }
      allstats := { fg.allstats with bytesDownloaded := fg.allstats.bytesDownloaded + p.length }
      state := .checkDownload }.checkDownload := by
    rw [turn, transfer, hsock, hstate]
    dsimp only
    rw [Filegetter.receive, hbuf, recv_piece hinbox hp (by rw [List.length_nil]; exact hspace)]
    dsimp only
    rw [if_neg hp, Turn.goto_bind, enter, hnext]
    rfl
  rw [hturn]
  refine checkDownload_spec ⟨h₁, h₂, h₃, h₄, h₅, h₆⟩ hfiles ?_ ⟨_, rfl, rfl⟩
  show p.drop fg.bufReadOffset = p
  rw [hro, List.drop_zero]

/-! ### The header -/

/-- A getter that has taken in a piece, before it looks at it. -/
structure Taken (fg : Filegetter) (got rest : List UInt8) (fg' : Filegetter) : Prop where
  same : Same fg fg'
  nextstate : fg'.nextstate = .replyHttp
  buf : fg'.buf = got
  bufReadOffset : fg'.bufReadOffset = 0
  sock : ∃ s, fg'.sock = some s ∧ s.inbox = rest

/-- A piece is taken in while the header is not complete. -/
theorem Reading.take (h : Reading fg₁ got (p ++ rest) fg) (hp : p ≠ [])
    (hspace : (got ++ p).length ≤ bufSize) :
    ∃ m, Taken fg₁ (got ++ p) rest m ∧ fg.turn (.got p.length) = m.replyHttp.bind fun fg =>
      if fg.state = .checkDownload then fg.checkDownload else .goto fg := by
  obtain ⟨hsame, hstate, hnext, hbuf, hro, ⟨sock, hsock, hinbox⟩, hshort⟩ := h
  rw [List.length_append] at hspace
  refine ⟨{ fg with
    sock := some { sock with inbox := rest }
    buf := got ++ p
    curstats := { fg.curstats with bytesDownloaded := fg.curstats.bytesDownloaded + p.length }
    allstats := { fg.allstats with bytesDownloaded := fg.allstats.bytesDownloaded + p.length }
    state := .replyHttp }, ⟨⟨hsame.1, hsame.2, hsame.3, hsame.4, hsame.5⟩, hnext, rfl, hro, ⟨_, rfl, rfl⟩⟩, ?_⟩
  rw [turn, transfer, hsock, hstate]
  dsimp only
  rw [Filegetter.receive, hbuf, recv_piece hinbox hp (by omega)]
  dsimp only
  rw [if_neg hp, Turn.goto_bind, hnext]
  rfl

/-- A buffer that is full is written behind its end. -/
theorem Taken.full (h : Taken fg₁ got rest m) (hfull : bufSize ≤ got.length) :
    m.replyHttp = .abort .outside := by
  rw [replyHttp, if_pos (by rw [h.buf]; exact hfull)]

/-- The text of a 404 anywhere in the buffer is taken for the reply. -/
theorem Taken.err404 (h : Taken fg₁ got rest m) (hshort : got.length < bufSize)
    (hfound : strcasestr got http404 ≠ none) : ∃ fg', m.replyHttp = .stop fg' .err404 := by
  obtain ⟨i, hi⟩ := Option.ne_none_iff_exists'.mp hfound
  rw [replyHttp, if_neg (by rw [h.buf]; exact Nat.not_le.mpr hshort), h.buf, h.bufReadOffset,
    List.drop_zero]
  dsimp only
  rw [hi]
  exact ⟨_, rfl⟩

/-- A part of the header is kept. -/
theorem Taken.part (h : Taken fg₁ got rest m) (hshort : got.length < bufSize) {r : List UInt8}
    (hpart : got ++ r = header n) (hr : r ≠ []) :
    ∃ fg', m.replyHttp = .goto fg' ∧ Reading fg₁ got rest fg' := by
  obtain ⟨h404, hend⟩ := strcasestr_header_part hpart hr
  have hgoto : m.replyHttp = .goto { m with state := .receive, nextstate := .replyHttp } := by
    rw [replyHttp, if_neg (by rw [h.buf]; exact Nat.not_le.mpr hshort), h.buf, h.bufReadOffset,
      List.drop_zero]
    dsimp only
    rw [h404, hend]
    cases strcasestr got http200 <;> rfl
  exact ⟨_, hgoto, ⟨⟨h.same.1, h.same.2, h.same.3, h.same.4, h.same.5⟩, rfl, rfl, h.buf, h.bufReadOffset,
    h.sock, hshort⟩⟩

/-- What is behind the name of the field with the length, once the end of the header is a NUL. -/
theorem drop_length_field (n : ℕ) (body : List UInt8) :
    ∃ rest, ((header n ++ body).set ((header n).length - 4) 0).drop (17 + contentText.length) =
      decimal n ++ 0 :: rest := by
  have hlen : (http200 ++ contentText ++ decimal n).length = (header n).length - 4 := by
    rw [length_header, List.length_append, show (http200 ++ contentText).length = 33 from rfl]
    omega
  have hset : (header n ++ body).set ((header n).length - 4) 0 =
      http200 ++ contentText ++ decimal n ++ (0 :: (10 :: crlf ++ body)) := by
    rw [show header n ++ body = http200 ++ contentText ++ decimal n ++ (13 :: (10 :: crlf ++ body)) by
      simp [header, twoCrlf, crlf], ← hlen, List.set_append, if_neg (Nat.lt_irrefl _), Nat.sub_self]
    rfl
  refine ⟨10 :: crlf ++ body, ?_⟩
  rw [hset, List.append_assoc, show 17 + contentText.length = (http200 ++ contentText).length from rfl,
    List.drop_left]

/-- The header is complete, and read. -/
theorem Taken.replyHttp (h : Taken fg₁ got rest m) (hshort : got.length < bufSize) {body : List UInt8}
    (hn : n < 2 ^ 63) (hgot : got = header n ++ body) (h404 : strcasestr got http404 = none) :
    m.replyHttp = .goto { m with
      buf := got.set ((header n).length - 4) 0
      bufReadOffset := (header n).length
      curstats := { m.curstats with bodyBytesExpected := lengthOf n }
      allstats := { m.allstats with bodyBytesExpected := m.allstats.bodyBytesExpected + lengthOf n }
      state := .checkDownload } := by
  obtain ⟨tail, hfield⟩ := drop_length_field n body
  have hlen := length_header n
  have hend : (header n).length - 4 + twoCrlf.length = (header n).length := by
    rw [show twoCrlf.length = 4 from rfl]
    omega
  have hnumber : toSize (atoi ((got.set ((header n).length - 4) 0).drop (17 + contentText.length))) =
      lengthOf n := by
    rw [hgot, hfield, atoi, strtol_decimal hn, lengthOf]
  rw [Filegetter.replyHttp, if_neg (by rw [h.buf]; exact Nat.not_le.mpr hshort), h.buf, h.bufReadOffset,
    List.drop_zero]
  dsimp only
  rw [h404]
  dsimp only
  rw [hgot, strcasestr_header_status, strcasestr_header_end]
  dsimp only
  rw [strcasestr_header_length]
  dsimp only
  rw [← hgot, hnumber, Nat.zero_add, hend]

/-- A getter that goes on to the body has nothing of it yet.  The numbers are variables here, so that
nothing computes them. -/
theorem Taken.loaded (h : Taken fg₁ got rest m) (hzero : fg₁.curstats.bodyBytesDownloaded = 0) {l : ℕ}
    {buf body : List UInt8} (hbody : buf.drop l = body)
    (hreply : m.replyHttp = .goto { m with
      buf := buf
      bufReadOffset := l
      curstats := { m.curstats with bodyBytesExpected := e }
      allstats := { m.allstats with bodyBytesExpected := m.allstats.bodyBytesExpected + e }
      state := .checkDownload }) :
    ∃ fg', m.replyHttp = .goto fg' ∧ fg'.state = .checkDownload ∧ Loaded fg₁ e [] fg' ∧
      (fg'.disk, fg'.f) = fg₁.saving [] ∧ fg'.buf.drop fg'.bufReadOffset = body ∧
      ∃ s, fg'.sock = some s ∧ s.inbox = rest := by
  obtain ⟨hsspec, hf, hcontent, hfiles, hdown⟩ := h.same
  simp only [Prod.mk.injEq] at hfiles
  obtain ⟨hdisk, hunclosed, hstdio⟩ := hfiles
  refine ⟨_, hreply, rfl, ⟨hsspec, ?_, hunclosed, hstdio, hdown.trans hzero, rfl⟩, ?_, hbody, h.sock⟩
  · rw [List.flatten_nil, saveMemory_nil]
    exact hcontent
  · exact congrArg₂ Prod.mk hdisk hf

/-- **The header is complete**: its number is the length that is expected, and what is behind it is the
beginning of the body. -/
theorem Taken.complete (h : Taken fg₁ got rest m) (hshort : got.length < bufSize) {body : List UInt8}
    (hn : n < 2 ^ 63) (hgot : got = header n ++ body) (h404 : strcasestr got http404 = none)
    (hzero : fg₁.curstats.bodyBytesDownloaded = 0) :
    ∃ fg', m.replyHttp = .goto fg' ∧ fg'.state = .checkDownload ∧ Loaded fg₁ (lengthOf n) [] fg' ∧
      (fg'.disk, fg'.f) = fg₁.saving [] ∧ fg'.buf.drop fg'.bufReadOffset = body ∧
      ∃ s, fg'.sock = some s ∧ s.inbox = rest := by
  have hlen := length_header n
  have hbody : (got.set ((header n).length - 4) 0).drop (header n).length = body := by
    rw [List.drop_set, if_pos (by omega), hgot, List.drop_left]
  exact h.loaded hzero hbody (h.replyHttp hshort hn hgot h404)

/-! ### The reply -/

/-- A way to cut a reply into pieces: those before the one that completes the header, that one, and those
after it, none of them empty, and each at most the space offered. -/
structure Cut (content : List UInt8) (before : List (List UInt8)) (piece : List UInt8)
    (after : List (List UInt8)) : Prop where
  whole : before.flatten ++ piece ++ after.flatten = reply content
  nonempty : ∀ p ∈ before ++ piece :: after, p ≠ []
  early : before.flatten.length < (header content.length).length
  complete : (header content.length).length ≤ (before.flatten ++ piece).length
  fits : (before.flatten ++ piece).length ≤ bufSize
  fit : ∀ p ∈ after, p.length ≤ bufSize

/-- The answers of `recv` that hand some pieces out. -/
def pieces (ps : List (List UInt8)) : List Answer := ps.map fun p => .got p.length

/-- **The header is waited for** over the pieces before it is complete. -/
theorem Reading.follows (h : Reading fg₁ got rest fg) {ps : List (List UInt8)} {r rest' : List UInt8}
    (hps : ∀ p ∈ ps, p ≠ []) (hrest : rest = ps.flatten ++ rest')
    (hpart : got ++ ps.flatten ++ r = header n) (hr : r ≠ []) (hshort : (header n).length < bufSize) :
    ∃ fg', Follows fg (pieces ps) fg' ∧ Reading fg₁ (got ++ ps.flatten) rest' fg' := by
  induction ps generalizing got rest fg with
  | nil =>
    refine ⟨fg, .nil h.waits, ?_⟩
    rw [List.flatten_nil, List.append_nil]
    rw [List.flatten_nil, List.nil_append] at hrest
    rwa [← hrest]
  | cons p ps ih =>
    have hlen := congrArg List.length hpart
    have hcut : got ++ p ++ (ps.flatten ++ r) = header n := by
      rw [← hpart, List.flatten_cons]
      simp only [List.append_assoc]
    rw [List.flatten_cons, List.append_assoc] at hrest
    rw [hrest] at h
    have hle : (got ++ p).length < bufSize := by
      have hlen' := congrArg List.length hcut
      rw [List.length_append] at hlen'
      omega
    obtain ⟨m, htaken, hturn⟩ := h.take (hps p List.mem_cons_self) hle.le
    obtain ⟨fg', hgoto, hreading⟩ := htaken.part hle hcut (by simp [hr])
    have hstep : fg.turn (.got p.length) = .goto fg' := by
      rw [hturn, hgoto, Turn.goto_bind, if_neg (by rw [hreading.state]; decide)]
    obtain ⟨fg'', hfollows, hreading'⟩ := ih hreading (fun q hq => hps q (List.mem_cons_of_mem p hq)) rfl
      (by rw [List.append_assoc]; exact hcut)
    refine ⟨fg'', .cons h.waits hstep hfollows, ?_⟩
    rw [List.flatten_cons, ← List.append_assoc]
    exact hreading'

/-- **The body is taken in**: the last piece ends the download. -/
theorem Loading.follows (h : Loading fg₁ e saved rest fg) {ps : List (List UInt8)} {last : List UInt8}
    (hps : ∀ p ∈ ps ++ [last], p ≠ [] ∧ p.length ≤ bufSize) (hrest : rest = ps.flatten ++ last)
    (he : (saved.flatten ++ rest).length = e) :
    ∃ m fg', Follows fg (pieces ps) m ∧ m.turn (.got last.length) = .stop fg' .ok200 ∧
      Done fg₁ e (saved ++ (ps ++ [last])) [] fg' := by
  induction ps generalizing saved rest fg with
  | nil =>
    rw [List.flatten_nil, List.nil_append] at hrest
    obtain ⟨hne, hfit⟩ := hps last List.mem_cons_self
    have h' : Loading fg₁ e saved (last ++ []) fg := by
      rw [List.append_nil, ← hrest]
      exact h
    obtain ⟨-, fg', hturn, hdone⟩ | ⟨hlt, -⟩ := h'.receive hne hfit
    · exact ⟨fg, fg', .nil h.waits, hturn, hdone⟩
    · rw [hrest] at he
      rw [List.flatten_append, List.flatten_singleton] at hlt
      omega
  | cons p ps ih =>
    rw [List.flatten_cons, List.append_assoc] at hrest
    obtain ⟨hne, hfit⟩ := hps p List.mem_cons_self
    rw [hrest] at h
    have hflat : (saved ++ [p]).flatten = saved.flatten ++ p := by
      rw [List.flatten_append, List.flatten_singleton]
    obtain ⟨hle, -⟩ | ⟨-, fg', hturn, hloading⟩ := h.receive hne hfit
    · have hlast := List.length_pos_iff.mpr (hps last (by simp)).1
      rw [← he, hrest, hflat] at hle
      simp only [List.length_append] at hle
      omega
    · obtain ⟨m, fg'', hfollows, hstop, hdone⟩ := ih hloading
        (fun q hq => hps q (List.mem_cons_of_mem p hq)) rfl
        (by rw [hflat, List.append_assoc, ← hrest]; exact he)
      refine ⟨m, fg'', .cons h.waits hturn hfollows, hstop, ?_⟩
      rwa [List.append_assoc] at hdone

/-- A getter that has read the header; its number is what it expects. -/
structure Past (e : ℕ) (fg : Filegetter) : Prop where
  bodyBytesExpected : fg.curstats.bodyBytesExpected = e
  state : fg.state = .spec ∨ fg.state = .idle ∨ fg.state = .receive ∧ fg.nextstate = .checkDownload

/-- What the state machine comes to is such a getter. -/
def Turn.Past (e : ℕ) : Turn → Prop
  | .goto fg => Filegetter.Past e fg
  | .stop fg _ => Filegetter.Past e fg
  | .abort _ => True

theorem past_checkDownload (h : m.curstats.bodyBytesExpected = e) : m.checkDownload.Past e := by
  rw [checkDownload]
  dsimp only
  split_ifs
  · exact ⟨h, .inl rfl⟩
  · exact ⟨h, .inl rfl⟩
  · exact ⟨h, .inr (.inr ⟨rfl, rfl⟩)⟩

theorem Past.enter (h : fg.Past e) : fg.enter.Past e := by
  rw [Filegetter.enter]
  obtain hs | hs | ⟨hs, -⟩ := h.state <;> rw [hs] <;> exact h

/-- **The number is not read again.** -/
theorem Past.turn (h : fg.Past e) (a : Answer) : (fg.turn a).Past e := by
  have hstay : fg.enter.Past e := h.enter
  rw [Filegetter.turn, transfer]
  cases hsock : fg.sock with
  | none => exact hstay
  | some sock =>
    obtain hs | hs | ⟨hs, hnext⟩ := h.state
    · rw [hs]
      exact hstay
    · rw [hs]
      exact hstay
    · rw [hs]
      dsimp only
      rw [Filegetter.receive]
      cases hrecv : sock.recv (bufSize - fg.buf.length) a with
      | mk r sock' =>
        cases r with
        | wouldBlock => exact h
        | failed => exact ⟨h.1, .inr (.inl rfl)⟩
        | ok bytes =>
          dsimp only
          split_ifs
          · exact ⟨h.1, .inr (.inl rfl)⟩
          · rw [Turn.goto_bind, Filegetter.enter, hnext]
            exact past_checkDownload h.1

theorem Past.bind_loop {t : Turn} (h : t.Past e) (answers : List Answer) : (t.bind (loop answers)).Past e := by
  induction answers generalizing t with
  | nil =>
    cases t with
    | goto fg => exact Past.turn h _
    | stop fg code => exact h
    | abort fault => trivial
  | cons a answers ih =>
    cases t with
    | goto fg => exact ih (Past.turn h a)
    | stop fg code => exact h
    | abort fault => trivial

theorem Past.result {t : Turn} {r : Filegetter × FilegetterCode} (h : t.Past e) (hr : t.result = .ok r) :
    r.1.Past e := by
  cases t with
  | goto fg => cases hr; exact h
  | stop fg code => cases hr; exact h
  | abort fault => cases hr

theorem Past.activates {acts : List (List Answer)} {r : Filegetter × List FilegetterCode}
    (h : fg.Past e) (hr : fg.activates acts = .ok r) : r.1.Past e := by
  induction acts generalizing fg r with
  | nil =>
    cases hr
    exact h
  | cons answers acts ih =>
    obtain ⟨r₁, hact, hr⟩ := bind_eq_ok.mp hr
    obtain ⟨r₂, hacts, hr⟩ := bind_eq_ok.mp hr
    cases hr
    obtain ⟨-, -, hact⟩ := bind_eq_ok.mp hact
    have hpast := Past.result (Past.bind_loop h.enter answers) hact
    have hlast := ih hpast hacts
    exact hlast

/-! ### A download -/

/-- A getter that can begin a download: nothing is left on a connection that was kept. -/
structure Ready (fg : Filegetter) : Prop where
  state : fg.state = .spec
  sock : ∀ s, fg.sock = some s → s.inbox = []

theorem Done.ready (h : Done fg₁ e saved [] fg) : fg.Ready := by
  refine ⟨h.state, fun s hs => ?_⟩
  have hsock := h.sock
  split_ifs at hsock
  · obtain ⟨s', hs', hinbox⟩ := hsock
    rw [hs'] at hs
    cases hs
    exact hinbox
  · rw [hsock] at hs
    cases hs

variable {sspec : FilegetterServerspec} {fspec : FilegetterFilespec}

/-- A download has begun. -/
structure Begun (fg : Filegetter) (sspec : FilegetterServerspec) (fspec : FilegetterFilespec)
    (fg' : Filegetter) : Prop where
  state : fg'.state = .requestHttp
  server : fg'.sspec = sspec
  file : fg'.fspec = fspec
  buf : fg'.buf = []
  bufReadOffset : fg'.bufReadOffset = 0
  bodyBytesDownloaded : fg'.curstats.bodyBytesDownloaded = 0
  sock : ∃ s, fg'.sock = some s ∧ s.inbox = []
  f : fg'.f = if fspec.doSave = true then some { path := fspec.localPath } else fg.f
  content : fg'.content = if fspec.saveToMemory = true then some [] else fg.content
  disk : fg'.disk = if fspec.doSave = true then Function.update fg.disk fspec.localPath [] else fg.disk
  unclosed : fg'.unclosed = if fspec.doSave = true then fg.f.toList ++ fg.unclosed else fg.unclosed
  stdio : fg'.stdio = fg.stdio

theorem Ready.begun (h : fg.Ready) : Begun fg sspec fspec (fg.download sspec fspec true true).1 := by
  have hopens : ¬ (fspec.doSave = true ∧ ¬ true = true) := fun h => h.2 rfl
  rw [download, setSpecs, if_neg (not_not.mpr h.state)]
  dsimp only
  rw [if_neg hopens]
  by_cases hsave : fspec.doSave = true
  · simp only [if_pos hsave]
    by_cases hkept : sspec.persistent = true ∧ fg.sock ≠ none
    · obtain ⟨s, hs⟩ := Option.ne_none_iff_exists'.mp hkept.2
      rw [if_pos hkept]
      exact ⟨rfl, rfl, rfl, rfl, rfl, rfl, ⟨s, hs, h.sock s hs⟩, (if_pos hsave).symm, rfl,
        (if_pos hsave).symm, (if_pos hsave).symm, rfl⟩
    · rw [if_neg hkept]
      exact ⟨rfl, rfl, rfl, rfl, rfl, rfl, ⟨_, rfl, rfl⟩, (if_pos hsave).symm, rfl,
        (if_pos hsave).symm, (if_pos hsave).symm, rfl⟩
  · simp only [if_neg hsave]
    by_cases hkept : sspec.persistent = true ∧ fg.sock ≠ none
    · obtain ⟨s, hs⟩ := Option.ne_none_iff_exists'.mp hkept.2
      rw [if_pos hkept]
      exact ⟨rfl, rfl, rfl, rfl, rfl, rfl, ⟨s, hs, h.sock s hs⟩, (if_neg hsave).symm, rfl,
        (if_neg hsave).symm, (if_neg hsave).symm, rfl⟩
    · rw [if_neg hkept]
      exact ⟨rfl, rfl, rfl, rfl, rfl, rfl, ⟨_, rfl, rfl⟩, (if_neg hsave).symm, rfl,
        (if_neg hsave).symm, (if_neg hsave).symm, rfl⟩

/-- The request of a download. -/
def requestOf (sspec : FilegetterServerspec) (fspec : FilegetterFilespec) : List UInt8 :=
  getRequest (cString fspec.remotePath) (cString sspec.httpHostname)

/-- The first activation writes the request into the buffer. -/
theorem Begun.enter (h : Begun fg₁ sspec fspec fg) (hshort : (requestOf sspec fspec).length < bufSize) :
    fg.Asserted ∧ ∃ m, fg.enter = .goto m ∧ Sending fg (requestOf sspec fspec) 0 m := by
  obtain ⟨s, hs, hinbox⟩ := h.sock
  have hpos : 0 < (requestOf sspec fspec).length := by
    rw [requestOf, getRequest, List.length_append, List.length_append, List.length_append,
      List.length_append, List.length_append, List.length_append, show (ascii "GET ").length = 4 from rfl]
    omega
  have hrequest : getRequest (cString fspec.remotePath) (cString sspec.httpHostname) =
      requestOf sspec fspec := rfl
  have henter : fg.enter = .goto { fg with
      buf := requestOf sspec fspec, epoll := .writing, state := .send, nextstate := .toreplyHttp } := by
    rw [Filegetter.enter, h.state]
    dsimp only
    rw [requestHttp, h.file, h.server, h.buf, hrequest, if_neg (by decide),
      if_neg (Nat.not_le.mpr hshort)]
    rfl
  refine ⟨⟨?_, ?_, ?_, ?_, ?_⟩, _, henter, ⟨⟨rfl, rfl, rfl, rfl, rfl⟩, rfl, rfl, rfl, h.bufReadOffset,
    ⟨s, hs, hinbox⟩, hshort, hpos⟩⟩
  · rw [h.state]
    decide
  · rw [hs]
    exact Option.some_ne_none _
  · rw [h.bufReadOffset]
    decide
  · rw [h.buf]
    decide
  · rw [h.bufReadOffset]
    exact Nat.zero_le _

/-- **The request is sent**, in any number of activations. -/
theorem Begun.asks (h : Begun fg₁ sspec fspec fg) (hshort : (requestOf sspec fspec).length < bufSize)
    {asking : List (List Answer)} {ns : List ℕ} (hasking : asking.flatten = ns.map .got)
    (hpos : ∀ n ∈ ns, 0 < n) (hsum : ns.sum = (requestOf sspec fspec).length) :
    ∃ fg', fg.activates asking = .ok (fg', List.replicate asking.length .errWouldblock) ∧
      Reading fg [] [] fg' := by
  obtain ⟨hasserted, m, henter, hsending⟩ := h.enter hshort
  obtain ⟨fg', hfollows, hreading⟩ := hsending.follows hpos (by rw [hsum, Nat.zero_add])
  refine ⟨fg', ?_, hreading⟩
  rw [← hasking] at hfollows
  rw [← hfollows.activates]
  cases asking with
  | nil =>
    have hns : ns = [] := List.map_eq_nil_iff.mp hasking.symm
    have hunsent := hsending.unsent
    rw [← hsum, hns] at hunsent
    exact absurd hunsent (Nat.lt_irrefl 0)
  | cons answers asking =>
    have hact : fg.activate answers = m.activate answers := by
      rw [activate, check_pos hasserted, ok_bind, henter, hsending.waits.activate, Turn.goto_bind]
    rw [activates, activates, hact]

/-- The reply arrives. -/
theorem Reading.arrive (h : Reading fg₁ got rest fg) (bytes : List UInt8) :
    Reading fg₁ got (rest ++ bytes) (fg.arrive bytes) := by
  obtain ⟨⟨h₁, h₂, h₃, h₄, h₅⟩, hstate, hnext, hbuf, hro, ⟨s, hs, hinbox⟩, hshort⟩ := h
  refine ⟨⟨h₁, h₂, h₃, h₄, h₅⟩, hstate, hnext, hbuf, hro, ⟨{ s with inbox := s.inbox ++ bytes }, ?_, ?_⟩,
    hshort⟩
  · rw [Filegetter.arrive, hs]
    rfl
  · rw [hinbox]

/-- How a download goes: the request is sent in parts, and then the reply is handed out in pieces, the last
of them in the last activation. -/
structure Delivery (sspec : FilegetterServerspec) (fspec : FilegetterFilespec) (content : List UInt8)
    (asking : List (List Answer)) (ns : List ℕ) (taking : List (List Answer))
    (before : List (List UInt8)) (piece : List UInt8) (after : List (List UInt8)) : Prop where
  size : content.length < 2 ^ 63
  remotePath : fspec.remotePath.length < strSize
  httpHostname : sspec.httpHostname.length < strSize
  asks : asking.flatten = ns.map .got
  sends : ∀ n ∈ ns, 0 < n
  sent : ns.sum = (requestOf sspec fspec).length
  cut : Cut content before piece after
  takes : taking.flatten = pieces (before ++ piece :: after)
  last : taking.getLast? ≠ some []

/-- A reply has been decoded, after so many activations that would block, and the getter is ready for the
next download.  A body that is saved to a file is in it, and no stream holds bytes that are written to it
later; another body goes to no file. -/
structure Decoded (fg : Filegetter) (sspec : FilegetterServerspec) (fspec : FilegetterFilespec)
    (content : List UInt8) (count : ℕ) (fg' : Filegetter) (codes : List FilegetterCode) : Prop where
  codes : codes = List.replicate count .errWouldblock ++ [.ok200]
  ready : fg'.Ready
  buf : fg'.buf = []
  bufReadOffset : fg'.bufReadOffset = 0
  bodyBytesDownloaded : fg'.curstats.bodyBytesDownloaded = content.length
  bodyBytesExpected : fg'.curstats.bodyBytesExpected = content.length
  memory : fg'.content = if fspec.saveToMemory = true then some content else fg.content
  saved : fspec.doSave = true → fg'.disk = Function.update fg.disk fspec.localPath content ∧
    ∀ s ∈ fg'.f.toList ++ fg'.unclosed, s.path = fspec.localPath → s.pending = []
  unsaved : fspec.doSave = false → flush fg'.disk fg'.f = flush fg.disk fg.f
  kept : sspec.persistent = true → fg'.sock ≠ none

/-- The download ends with the reply decoded. -/
def Decodes (fg : Filegetter) (sspec : FilegetterServerspec) (fspec : FilegetterFilespec)
    (content : List UInt8) (asking taking : List (List Answer)) : Prop :=
  ∃ fg' codes, fg.exchange sspec fspec content asking taking = .ok (fg', codes) ∧
    Decoded fg sspec fspec content (asking.length + taking.length - 1) fg' codes

/-- The pieces in which a body is saved. -/
def bodyPieces (content buffered : List UInt8) (after : List (List UInt8)) : List (List UInt8) :=
  buffered.drop (header content.length).length :: after

/-- When the header is complete, the buffer is not full, and the text of a 404 is not in it; the length
fits an `int`; and what earlier downloads were saved to is not written to.  Where the connection is kept,
the stream of a file happens to pass on all of the body; and no stream that was left open holds bytes for
the same file. -/
structure Decodable (fg : Filegetter) (sspec : FilegetterServerspec) (fspec : FilegetterFilespec)
    (content buffered : List UInt8) (after : List (List UInt8)) : Prop where
  room : buffered.length < bufSize
  no404 : strcasestr buffered http404 = none
  size : content.length < 2 ^ 31
  fresh : content = [] ∨
    (fspec.doSave = true ∨ fg.f = none) ∧ (fspec.saveToMemory = true ∨ fg.content = none)
  flushed : fspec.doSave = true → sspec.persistent = true →
    ((bodyPieces content buffered after).foldl fg.stdio.passOn ([], [])).2 = []
  alone : fspec.doSave = true →
    ∀ s ∈ fg.f.toList ++ fg.unclosed, s.path = fspec.localPath → s.pending = []

variable {content piece : List UInt8} {asking taking : List (List Answer)} {ns : List ℕ}
  {before after : List (List UInt8)}

theorem Delivery.short (h : Delivery sspec fspec content asking ns taking before piece after) :
    (requestOf sspec fspec).length < bufSize := by
  have hpath : (cString fspec.remotePath).length ≤ fspec.remotePath.length :=
    (List.takeWhile_prefix _).length_le
  have hhost : (cString sspec.httpHostname).length ≤ sspec.httpHostname.length :=
    (List.takeWhile_prefix _).length_le
  have hpath' := h.remotePath
  have hhost' := h.httpHostname
  rw [show strSize = 256 from rfl] at hpath' hhost'
  rw [requestOf, getRequest, show bufSize = 51200 from rfl]
  simp only [List.length_append, show (ascii "GET ").length = 4 from rfl,
    show (ascii " HTTP/1.1").length = 9 from rfl, show crlf.length = 2 from rfl,
    show (ascii "Host: ").length = 6 from rfl, show twoCrlf.length = 4 from rfl]
  omega

/-- **The piece that completes the header is reached**, in some activation. -/
theorem Delivery.reaches (hready : fg.Ready)
    (h : Delivery sspec fspec content asking ns taking before piece after) :
    ∃ fg₁ fg₂ m t, Begun fg sspec fspec fg₁ ∧ Follows fg₂ (pieces before) m ∧
      Taken fg₁ (before.flatten ++ piece) after.flatten t ∧
      m.turn (.got piece.length) = (t.replyHttp.bind fun fg =>
        if fg.state = .checkDownload then fg.checkDownload else .goto fg) ∧
      fg.exchange sspec fspec content asking taking = (do
        let (fg, codes) ← fg₂.activates taking
        return (fg, List.replicate asking.length .errWouldblock ++ codes)) := by
  have hcut := h.cut
  have hbegun : Begun fg sspec fspec _ := hready.begun
  obtain ⟨fgr, hasks, hreading⟩ := hbegun.asks h.short h.asks h.sends h.sent
  have harrived := hreading.arrive (reply content)
  rw [List.nil_append, ← hcut.whole, List.append_assoc] at harrived
  -- The pieces before it are a part of the header.
  obtain ⟨r, hpart, hr⟩ : ∃ r, before.flatten ++ r = header content.length ∧ r ≠ [] := by
    have hprefix : before.flatten <+: header content.length := by
      refine List.prefix_of_prefix_length_le ?_ (List.prefix_append _ content) hcut.early.le
      exact ⟨piece ++ after.flatten, by rw [← List.append_assoc]; exact hcut.whole⟩
    obtain ⟨r, hr⟩ := hprefix
    refine ⟨r, hr, ?_⟩
    rintro rfl
    have hearly := hcut.early
    rw [← hr, List.append_nil] at hearly
    exact Nat.lt_irrefl _ hearly
  have hheader : (header content.length).length < bufSize := by
    have hdigits := length_decimal_le (k := 19) (by decide)
      (show content.length < 10 ^ 19 by have := h.size; omega)
    rw [length_header, show bufSize = 51200 from rfl]
    omega
  obtain ⟨m, hfollows, hread⟩ := harrived.follows
    (fun p hp => hcut.nonempty p (List.mem_append_left _ hp)) rfl (by rw [List.nil_append]; exact hpart)
    hr hheader
  rw [List.nil_append] at hread
  obtain ⟨t, htaken, hturn⟩ := hread.take
    (hcut.nonempty piece (List.mem_append_right _ List.mem_cons_self)) hcut.fits
  refine ⟨_, _, m, t, hbegun, hfollows, htaken, hturn, ?_⟩
  rw [exchange, hasks, ok_bind, ← hcut.whole, List.append_assoc]

/-- The last answer of the last activation ends it. -/
theorem activates_last {acts : List (List Answer)} {code : FilegetterCode} (h : Follows fg answers m)
    (hturn : m.turn a = .stop fg' code) (hacts : acts.flatten = answers ++ [a])
    (hlast : acts.getLast? ≠ some []) :
    fg.activates acts = .ok (fg', List.replicate (acts.length - 1) .errWouldblock ++ [code]) := by
  obtain ⟨first, front, rest, more, hcut, hrest, hact⟩ := activates_at h hacts
  obtain ⟨rfl, hmore⟩ := List.append_eq_nil_iff.mp hrest
  have hnil : more = [] := by
    obtain rfl | ⟨more', last, rfl⟩ := List.eq_nil_or_concat more
    · rfl
    · have hempty : last = [] :=
        List.flatten_eq_nil_iff.mp hmore last (by simp)
      rw [hcut, hempty, List.concat_eq_append, ← List.cons_append, ← List.append_assoc,
        List.getLast?_concat] at hlast
      exact absurd rfl hlast
  subst hnil
  rw [hact, hturn, hcut, List.length_append]
  rfl

/-- **A clean reply is taken in**: the last piece ends the download, with the whole body saved. -/
theorem Delivery.done {fg₁ fg₂ t : Filegetter}
    (h : Delivery sspec fspec content asking ns taking before piece after)
    (hbegun : Begun fg sspec fspec fg₁) (hfollows : Follows fg₂ (pieces before) m)
    (htaken : Taken fg₁ (before.flatten ++ piece) after.flatten t)
    (hturn : m.turn (.got piece.length) = (t.replyHttp.bind fun fg =>
      if fg.state = .checkDownload then fg.checkDownload else .goto fg))
    (hroom : (before.flatten ++ piece).length < bufSize)
    (h404 : strcasestr (before.flatten ++ piece) http404 = none) (hsize : content.length < 2 ^ 31) :
    ∃ fg', fg₂.activates taking =
        .ok (fg', List.replicate (taking.length - 1) .errWouldblock ++ [.ok200]) ∧
      (bodyPieces content (before.flatten ++ piece) after).flatten = content ∧
      Done fg₁ content.length (bodyPieces content (before.flatten ++ piece) after) [] fg' := by
  have hcut := h.cut
  obtain ⟨body, hbody⟩ : header content.length <+: before.flatten ++ piece := by
    refine List.prefix_of_prefix_length_le (List.prefix_append _ content) ?_ hcut.complete
    exact ⟨after.flatten, hcut.whole⟩
  have hcontent : body ++ after.flatten = content := by
    have hwhole := hcut.whole
    rw [← hbody, List.append_assoc, reply] at hwhole
    exact List.append_cancel_left hwhole
  have hpieces : bodyPieces content (before.flatten ++ piece) after = body :: after := by
    rw [bodyPieces, ← hbody, List.drop_left]
  rw [hpieces]
  have he : lengthOf content.length = content.length := (lengthOf_eq_iff h.size).mpr hsize
  obtain ⟨fgc, hreply, hstate, hloaded, hfiles, havail, hsock⟩ :=
    htaken.complete hroom h.size hbody.symm h404 hbegun.bodyBytesDownloaded
  rw [hreply, Turn.goto_bind, if_pos hstate] at hturn
  rw [he] at hloaded
  obtain ⟨hle, fg', hstop, hdone⟩ | ⟨hlt, fg', hgoto, hloading⟩ :=
    checkDownload_spec hloaded hfiles havail hsock
  · -- The piece that completes the header is the last.
    have hnil : after = [] := by
      cases after with
      | nil => rfl
      | cons p ps =>
        have hp := List.length_pos_iff.mpr (hcut.nonempty p (by simp))
        have hlen := congrArg List.length hcontent
        simp only [List.flatten_cons, List.length_append, List.nil_append, List.flatten_nil,
          List.append_nil] at hlen hle
        omega
    subst hnil
    refine ⟨fg', activates_last hfollows (hturn.trans hstop) ?_ h.last, hcontent, hdone⟩
    rw [h.takes, pieces, List.map_append]
    rfl
  · -- there is more to come, and the last piece ends the download
    obtain rfl | ⟨ps, last, rfl⟩ := List.eq_nil_or_concat after
    · rw [List.flatten_nil, List.append_nil] at hcontent
      rw [List.nil_append, List.flatten_singleton, hcontent] at hlt
      exact absurd hlt (Nat.lt_irrefl _)
    · rw [List.concat_eq_append] at hcut h hloading hcontent ⊢
      rw [List.flatten_append, List.flatten_singleton] at hloading
      have hps : ∀ p ∈ ps ++ [last], p ≠ [] ∧ p.length ≤ bufSize := fun p hp =>
        ⟨hcut.nonempty p (List.mem_append_right _ (List.mem_cons_of_mem _ hp)), hcut.fit p hp⟩
      obtain ⟨m', fg'', hfollows', hstop, hdone⟩ := hloading.follows hps rfl (by
        rw [List.nil_append, List.flatten_singleton, ← hcontent, List.flatten_append,
          List.flatten_singleton])
      have hall := hfollows.append (.cons hfollows.waits_last (hturn.trans hgoto) hfollows')
      refine ⟨fg'', activates_last hall hstop ?_ h.last, hcontent, hdone⟩
      rw [h.takes, pieces, pieces, pieces]
      simp

/-- The codes of a download that went well have no other in them. -/
theorem Decoded.not_err404 {count : ℕ} {codes : List FilegetterCode}
    (h : Decoded fg sspec fspec content count fg' codes) : .err404 ∉ codes := by
  rw [h.codes]
  simp

/-- What is in memory after a download. -/
theorem Begun.memory_iff (h : Begun fg sspec fspec fg₁) :
    (saveMemory fg₁.content content = if fspec.saveToMemory = true then some content else fg.content) ↔
      content = [] ∨ fspec.saveToMemory = true ∨ fg.content = none := by
  rw [h.content]
  by_cases hmem : fspec.saveToMemory = true
  · rw [if_pos hmem, if_pos hmem]
    exact iff_of_true rfl (.inr (.inl hmem))
  · rw [if_neg hmem, if_neg hmem]
    cases hc : fg.content with
    | none => exact iff_of_true rfl (.inr (.inr rfl))
    | some c =>
      constructor
      · intro heq
        have hlen := congrArg List.length (Option.some.inj heq)
        rw [List.length_append] at hlen
        exact .inl (List.length_eq_zero_iff.mp (by omega))
      · rintro (rfl | h' | h')
        · exact congrArg some (List.append_nil c)
        · exact absurd h' hmem
        · cases h'

/-- With what waits in the stream, the files come to the same whether it is closed or not. -/
theorem Done.flush_eq (h : Done fg₁ e saved rest fg) :
    flush fg.disk fg.f = flush (fg₁.saving saved).1 (fg₁.saving saved).2 := by
  have hfiles := h.files
  by_cases hpersistent : fg₁.sspec.persistent = true
  · rw [if_pos hpersistent] at hfiles
    rw [← hfiles]
  · rw [if_neg hpersistent] at hfiles
    obtain ⟨hdisk, hf⟩ := Prod.mk.inj hfiles
    rw [hdisk, hf]
    rfl

/-- A stream that is flushed has all that was handed to it in its file. -/
theorem flush_saving {s : Stream} (hf : fg.f = some s) (ps : List (List UInt8)) :
    flush (fg.saving ps).1 (fg.saving ps).2 =
      Function.update fg.disk s.path (fg.disk s.path ++ s.pending ++ ps.flatten) := by
  rw [saving, hf, foldl_saveFile_some]
  dsimp only [flush]
  rw [Function.update_self, Function.update_idem, foldl_passOn]

/-- A download that saves to no file leaves the files alone, unless a stream is open. -/
theorem Begun.unsaved_iff (h : Begun fg sspec fspec fg₁) (hsave : fspec.doSave = false)
    (hd : Done fg₁ e saved rest m) :
    flush m.disk m.f = flush fg.disk fg.f ↔ saved.flatten = [] ∨ fg.f = none := by
  have hno : ¬ fspec.doSave = true := by
    rw [hsave]
    exact Bool.false_ne_true
  have hfile := h.f
  have hdisk := h.disk
  rw [if_neg hno] at hfile hdisk
  rw [hd.flush_eq]
  cases hf : fg.f with
  | none =>
    rw [hf] at hfile
    rw [saving, hfile, foldl_saveFile_none, hdisk]
    exact iff_of_true rfl (.inr rfl)
  | some s =>
    rw [hf] at hfile
    rw [flush_saving hfile, hdisk]
    constructor
    · intro heq
      have hlen := congrArg List.length (congrFun heq s.path)
      rw [flush, Function.update_self, Function.update_self, List.length_append] at hlen
      exact .inl (List.length_eq_zero_iff.mp (by omega))
    · rintro (hnil | hnone)
      · rw [hnil, List.append_nil]
        rfl
      · cases hnone

/-- A body that is saved to a file is in it, unless the connection is kept and some of it waits in the
stream. -/
theorem Begun.saved_iff (h : Begun fg sspec fspec fg₁) (hsave : fspec.doSave = true)
    (hd : Done fg₁ e saved rest m) :
    m.disk = Function.update fg.disk fspec.localPath saved.flatten ↔
      (sspec.persistent = true → (saved.foldl fg.stdio.passOn ([], [])).2 = []) := by
  have hfile := h.f
  have hdisk := h.disk
  rw [if_pos hsave] at hfile hdisk
  have hall := foldl_passOn fg.stdio ([], []) saved
  rw [List.append_nil, List.nil_append] at hall
  by_cases hpersistent : sspec.persistent = true
  · have hfiles := hd.files
    rw [h.server, if_pos hpersistent, saving, hfile, foldl_saveFile_some, h.stdio, hdisk] at hfiles
    dsimp only at hfiles
    rw [Function.update_self, Function.update_idem] at hfiles
    rw [(Prod.mk.inj hfiles).1]
    constructor
    · intro heq _
      have hpath := congrFun heq fspec.localPath
      rw [Function.update_self, Function.update_self, ← hall] at hpath
      exact List.append_right_eq_self.mp hpath.symm
    · intro hnil
      rw [← hall, hnil hpersistent, List.append_nil]
  · refine iff_of_true ?_ fun hp => absurd hp hpersistent
    have hfiles := hd.files
    rw [h.server, if_neg hpersistent, flush_saving hfile, hdisk] at hfiles
    dsimp only at hfiles
    rw [Function.update_self, Function.update_idem, List.nil_append] at hfiles
    exact (Prod.mk.inj hfiles).1

/-- The streams that are open after a download that saves to a file: its own, if the connection is kept,
with what waits in it, and those that were open before. -/
theorem Begun.alone_iff (h : Begun fg sspec fspec fg₁) (hsave : fspec.doSave = true)
    (hd : Done fg₁ e saved rest m) :
    (∀ s ∈ m.f.toList ++ m.unclosed, s.path = fspec.localPath → s.pending = []) ↔
      (sspec.persistent = true → (saved.foldl fg.stdio.passOn ([], [])).2 = []) ∧
        ∀ s ∈ fg.f.toList ++ fg.unclosed, s.path = fspec.localPath → s.pending = [] := by
  have hfile := h.f
  have hunclosed := hd.loaded.unclosed.trans h.unclosed
  rw [if_pos hsave] at hfile hunclosed
  have hfiles := hd.files
  rw [h.server] at hfiles
  rw [hunclosed]
  have hown : (∀ s ∈ m.f.toList, s.path = fspec.localPath → s.pending = []) ↔
      (sspec.persistent = true → (saved.foldl fg.stdio.passOn ([], [])).2 = []) := by
    by_cases hpersistent : sspec.persistent = true
    · rw [if_pos hpersistent, saving, hfile, foldl_saveFile_some, h.stdio, h.disk, if_pos hsave] at hfiles
      dsimp only at hfiles
      rw [Function.update_self] at hfiles
      rw [(Prod.mk.inj hfiles).2]
      simp [hpersistent]
    · rw [if_neg hpersistent] at hfiles
      rw [(Prod.mk.inj hfiles).2]
      simp [hpersistent]
  rw [← hown, ← List.forall_mem_append]

/-- What a download that ended with the reply decoded did: the activation that completed the header
returned a code, and the getter went on from there. -/
theorem Delivery.went (hready : fg.Ready)
    (h : Delivery sspec fspec content asking ns taking before piece after)
    (hdecodes : Decodes fg sspec fspec content asking taking) :
    ∃ fg₁ fg₂ m t rest more r fg' codes, Begun fg sspec fspec fg₁ ∧ Follows fg₂ (pieces before) m ∧
      Taken fg₁ (before.flatten ++ piece) after.flatten t ∧
      m.turn (.got piece.length) = (t.replyHttp.bind fun fg =>
        if fg.state = .checkDownload then fg.checkDownload else .goto fg) ∧
      (∃ codes, fg₂.activates taking = .ok (fg', codes)) ∧
      ((m.turn (.got piece.length)).bind (loop rest)).result = .ok r ∧
      (∃ codes, r.1.activates more = .ok (fg', codes)) ∧ r.2 ∈ codes ∧
      Decoded fg sspec fspec content (asking.length + taking.length - 1) fg' codes := by
  obtain ⟨fg₁, fg₂, m, t, hbegun, hfollows, htaken, hturn, hexchange⟩ := h.reaches hready
  have htakes : taking.flatten = pieces before ++ .got piece.length :: pieces after := by
    rw [h.takes, pieces, List.map_append]
    rfl
  obtain ⟨first, front, rest, more, -, -, hact⟩ := activates_at hfollows htakes
  obtain ⟨fg', codes, hok, hdecoded⟩ := hdecodes
  rw [hexchange] at hok
  obtain ⟨⟨fgr, codesr⟩, hr, hok⟩ := bind_eq_ok.mp hok
  cases hok
  have hat := hact.symm.trans hr
  obtain ⟨r, hm, hat⟩ := bind_eq_ok.mp hat
  obtain ⟨⟨fgn, codesn⟩, hn, hat⟩ := bind_eq_ok.mp hat
  cases hat
  exact ⟨fg₁, fg₂, m, t, rest, more, r, _, _, hbegun, hfollows, htaken, hturn, ⟨_, hr⟩, hm, ⟨_, hn⟩,
    by simp, hdecoded⟩

/-- The buffer was not full. -/
theorem Delivery.room (hready : fg.Ready)
    (h : Delivery sspec fspec content asking ns taking before piece after)
    (hdecodes : Decodes fg sspec fspec content asking taking) :
    (before.flatten ++ piece).length < bufSize := by
  obtain ⟨fg₁, fg₂, m, t, rest, more, r, fg', codes, -, -, htaken, hturn, -, hm, -⟩ :=
    h.went hready hdecodes
  by_contra hfull
  rw [hturn, htaken.full (Nat.le_of_not_lt hfull)] at hm
  cases hm

/-- The text of a 404 was not in it. -/
theorem Delivery.no404 (hready : fg.Ready)
    (h : Delivery sspec fspec content asking ns taking before piece after)
    (hdecodes : Decodes fg sspec fspec content asking taking) :
    strcasestr (before.flatten ++ piece) http404 = none := by
  obtain ⟨fg₁, fg₂, m, t, rest, more, r, fg', codes, -, -, htaken, hturn, -, hm, -, hmem, hdecoded⟩ :=
    h.went hready hdecodes
  by_contra hfound
  obtain ⟨fg404, hstop⟩ := htaken.err404 (h.room hready hdecodes) hfound
  rw [hturn, hstop] at hm
  cases hm
  exact hdecoded.not_err404 hmem

/-- The length was read as it was written. -/
theorem Delivery.size_lt (hready : fg.Ready)
    (h : Delivery sspec fspec content asking ns taking before piece after)
    (hdecodes : Decodes fg sspec fspec content asking taking) : content.length < 2 ^ 31 := by
  have hroom := h.room hready hdecodes
  have h404 := h.no404 hready hdecodes
  obtain ⟨fg₁, fg₂, m, t, rest, more, r, fg', codes, hbegun, -, htaken, hturn, -, hm, ⟨_, hmore⟩, -,
    hdecoded⟩ := h.went hready hdecodes
  obtain ⟨body, hbody⟩ : header content.length <+: before.flatten ++ piece :=
    List.prefix_of_prefix_length_le (List.prefix_append _ content) ⟨after.flatten, h.cut.whole⟩
      h.cut.complete
  obtain ⟨fgc, hreply, hstate, hloaded, -⟩ :=
    htaken.complete hroom h.size hbody.symm h404 hbegun.bodyBytesDownloaded
  rw [hturn, hreply, Turn.goto_bind, if_pos hstate] at hm
  have hpast : Past (lengthOf content.length) r.1 :=
    Past.result (Past.bind_loop (past_checkDownload hloaded.bodyBytesExpected) rest) hm
  have hlast := (Past.activates hpast hmore).bodyBytesExpected
  exact (lengthOf_eq_iff h.size).mp (hlast.symm.trans hdecoded.bodyBytesExpected)

/-- What the files and the memory were left with. -/
theorem Delivery.files (hready : fg.Ready)
    (h : Delivery sspec fspec content asking ns taking before piece after)
    (hdecodes : Decodes fg sspec fspec content asking taking) :
    (content = [] ∨
      (fspec.doSave = true ∨ fg.f = none) ∧ (fspec.saveToMemory = true ∨ fg.content = none)) ∧
    (fspec.doSave = true → sspec.persistent = true →
      ((bodyPieces content (before.flatten ++ piece) after).foldl fg.stdio.passOn ([], [])).2 = []) ∧
    (fspec.doSave = true →
      ∀ s ∈ fg.f.toList ++ fg.unclosed, s.path = fspec.localPath → s.pending = []) := by
  obtain ⟨fg₁, fg₂, m, t, rest, more, r, fg', codes, hbegun, hfollows, htaken, hturn, ⟨_, hr⟩, -, -, -,
    hdecoded⟩ := h.went hready hdecodes
  obtain ⟨fgd, hdone, hflat, hd⟩ := h.done hbegun hfollows htaken hturn (h.room hready hdecodes)
    (h.no404 hready hdecodes) (h.size_lt hready hdecodes)
  obtain ⟨rfl, -⟩ := Prod.mk.inj (Except.ok.inj (hdone.symm.trans hr))
  refine ⟨?_, ?_, ?_⟩
  · have hmemory := hd.loaded.content.symm.trans hdecoded.memory
    rw [hflat] at hmemory
    obtain hnil | hmemory := hbegun.memory_iff.mp hmemory
    · exact .inl hnil
    · cases hsave : fspec.doSave with
      | true => exact .inr ⟨.inl rfl, hmemory⟩
      | false =>
        obtain hnil | hfile := (hbegun.unsaved_iff hsave hd).mp (hdecoded.unsaved hsave)
        · exact .inl (hflat ▸ hnil)
        · exact .inr ⟨.inr hfile, hmemory⟩
  · intro hsave
    have hdisk := (hdecoded.saved hsave).1
    rw [← hflat] at hdisk
    exact (hbegun.saved_iff hsave hd).mp hdisk
  · intro hsave
    exact ((hbegun.alone_iff hsave hd).mp (hdecoded.saved hsave).2).2

/-- **A reply is decoded if and only if it is decodable**: for every way to send the request and to cut the
reply, in any number of activations, and for every way to buffer a stream. -/
theorem decodes_reply_iff (hready : fg.Ready)
    (h : Delivery sspec fspec content asking ns taking before piece after) :
    Decodes fg sspec fspec content asking taking ↔
      Decodable fg sspec fspec content (before.flatten ++ piece) after := by
  constructor
  · intro hdecodes
    obtain ⟨hfresh, hflushed, halone⟩ := h.files hready hdecodes
    exact ⟨h.room hready hdecodes, h.no404 hready hdecodes, h.size_lt hready hdecodes, hfresh, hflushed,
      halone⟩
  · rintro ⟨hroom, h404, hsize, hfresh, hflushed, halone⟩
    obtain ⟨fg₁, fg₂, m, t, hbegun, hfollows, htaken, hturn, hexchange⟩ := h.reaches hready
    obtain ⟨fgd, hdone, hflat, hd⟩ := h.done hbegun hfollows htaken hturn hroom h404 hsize
    have hpos : 0 < taking.length := by
      refine List.length_pos_iff.mpr fun hnil => ?_
      have hlen := congrArg List.length h.takes
      rw [hnil, pieces, List.length_map, List.length_append, List.length_cons] at hlen
      simp at hlen
    refine ⟨fgd, _, by rw [hexchange, hdone]; rfl, ?_, hd.ready, hd.buf, hd.bufReadOffset,
      ?_, hd.loaded.bodyBytesExpected, ?_, fun hsave => ⟨?_, ?_⟩, fun hsave => ?_, ?_⟩
    · rw [← List.append_assoc, List.replicate_append_replicate, Nat.add_sub_assoc hpos]
    · rw [hd.loaded.bodyBytesDownloaded, hflat]
    · rw [hd.loaded.content, hflat, hbegun.memory_iff]
      obtain hnil | ⟨-, hmemory⟩ := hfresh
      · exact .inl hnil
      · exact .inr hmemory
    · have hdisk := (hbegun.saved_iff hsave hd).mpr (hflushed hsave)
      rwa [hflat] at hdisk
    · exact (hbegun.alone_iff hsave hd).mpr ⟨hflushed hsave, halone hsave⟩
    · rw [hbegun.unsaved_iff hsave hd, hflat]
      obtain hnil | ⟨hfile, -⟩ := hfresh
      · exact .inl hnil
      · refine .inr (hfile.resolve_left ?_)
        rw [hsave]
        exact Bool.false_ne_true
    · intro hpersistent
      have hsock := hd.sock
      rw [hbegun.server, if_pos hpersistent] at hsock
      obtain ⟨s, hs, -⟩ := hsock
      rw [hs]
      exact Option.some_ne_none s

/-- A body of three bytes, in three pieces: the second completes the header.  The stream keeps them all
until it is closed with the connection. -/
theorem decodes_reply_three :
    Decodes (start (fun _ => []) fun _ _ _ => 0) ⟨[104], false⟩ ⟨[47], [102], true, false⟩ [1, 2, 3]
      [[.got 5], [.got 22]] [[.got 10], [.got 29, .got 2]] := by
  have hready : (start (fun _ => []) fun _ _ _ => 0).Ready := ⟨rfl, fun s hs => by cases hs⟩
  have hdelivery : Delivery ⟨[104], false⟩ ⟨[47], [102], true, false⟩ [1, 2, 3]
      [[.got 5], [.got 22]] [5, 22] [[.got 10], [.got 29, .got 2]] [(header 3).take 10]
      ((header 3).drop 10 ++ [1]) [[2, 3]] :=
    ⟨by decide, by decide, by decide, rfl, by decide, by decide,
      ⟨by decide, by decide, by decide, by decide, by decide, by decide⟩, by decide, by decide⟩
  exact (decodes_reply_iff hready hdelivery).mpr
    ⟨by decide, by decide, by decide, .inr ⟨.inl rfl, .inr rfl⟩, fun _ hp => absurd hp (by decide),
      fun _ s hs => absurd hs List.not_mem_nil⟩

/-- The getter returns `FG_ERR_404` for a file that holds the text of a 404. -/
theorem decodes_reply_fails :
    ¬ ∀ (fg : Filegetter) (sspec : FilegetterServerspec) (fspec : FilegetterFilespec)
      (content : List UInt8) (asking : List (List Answer)) (ns : List ℕ) (taking : List (List Answer))
      (before : List (List UInt8)) (piece : List UInt8) (after : List (List UInt8)),
      fg.Ready → Delivery sspec fspec content asking ns taking before piece after →
        Decodes fg sspec fspec content asking taking := by
  intro hall
  have hready : (start (fun _ => []) fun _ _ _ => 0).Ready := ⟨rfl, fun s hs => by cases hs⟩
  have hdelivery : Delivery ⟨[104], false⟩ ⟨[47], [102], true, false⟩ http404 [[.got 27]] [27]
      [[.got 63]] [] (reply http404) [] :=
    ⟨by decide, by decide, by decide, rfl, by decide, by decide,
      ⟨by decide, by decide, by decide, by decide, by decide, by decide⟩, by decide, by decide⟩
  have h404 := hdelivery.no404 hready (hall _ _ _ _ _ _ _ _ _ _ hready hdelivery)
  exact absurd h404 (by decide)

end Filegetter

end FileTransfer

end ShadowBrowser
