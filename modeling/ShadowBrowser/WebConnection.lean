/-
The client side of HTTP: a `Connection` that does not use spdy.

A request asks for a response whose meta part has about `exp_resp_meta_size` bytes
and whose body has `exp_resp_body_size` bytes; what the request itself lacks of its
own size is sent as a body of dummy bytes.

* `maybeHttpWriteToTransport` — the next request is written;
* `consumeInput` — what has arrived of a response is read, a part at a time;
* `gotAChunkOfRespBody`, `doneWithResp` — the body, and the end of a response.

The user may submit requests from inside each callback of the connection.
-/
import ShadowBrowser.HttpQueues
import ShadowBrowser.TcpChannel
import ShadowBrowser.Texts

namespace ShadowBrowser.Web

open Checked Http Texts

/-! ### `common::http` -/

@[irreducible] def requestLine : List UInt8 := ascii "GET /special_request HTTP/1.1"
@[irreducible] def respMetaSizeName : List UInt8 := ascii "resp-meta-size"
@[irreducible] def respBodySizeName : List UInt8 := ascii "resp-body-size"
@[irreducible] def contentLengthName : List UInt8 := ascii "content-length"
@[irreducible] def dummyName : List UInt8 := ascii "dummy-header"
@[irreducible] def respStatusLine : List UInt8 := ascii "HTTP/1.1 200 OK"

/-- `lexical_cast<size_t>`, of which the code uses that numbers are read as they are printed, and
that a negative number is read as its two's complement. -/
structure LexicalCast where
  cast : List UInt8 → Option UInt64
  decimal : ∀ n : UInt64, cast (decimal n.toNat) = some n
  negative : ∀ n : UInt64, cast (45 :: Texts.decimal n.toNat) = some (-n)

/-- The number in some digits, if it is a `size_t`. -/
def digits (ds : List UInt8) : Option UInt64 :=
  if ds ≠ [] ∧ (∀ d ∈ ds, IsDigit d) ∧ ofDecimal ds < 2 ^ 64 then some (.ofNat (ofDecimal ds))
  else none

theorem digits_decimal (n : UInt64) : digits (decimal n.toNat) = some n := by
  rw [digits, ofDecimal_decimal, if_pos ⟨decimal_ne_nil _, fun d => isDigit_of_mem_decimal,
    n.toNat_lt⟩]
  simp

/-- A `lexical_cast<size_t>`: digits, perhaps with a sign. -/
def lexicalCast : LexicalCast where
  cast
    | 45 :: ds => (digits ds).map fun n => -n
    | 43 :: ds => digits ds
    | ds => digits ds
  decimal n := by
    obtain ⟨d, ds, hd⟩ := List.exists_cons_of_ne_nil (decimal_ne_nil n.toNat)
    have hdigit : IsDigit d := isDigit_of_mem_decimal (by rw [hd]; exact List.mem_cons_self)
    have hminus : d ≠ 45 := by
      rintro rfl
      exact absurd hdigit (by decide)
    have hplus : d ≠ 43 := by
      rintro rfl
      exact absurd hdigit (by decide)
    have hcast := digits_decimal n
    rw [hd] at hcast ⊢
    split
    · next heq => exact absurd (List.cons.inj heq).1 hminus
    · next heq => exact absurd (List.cons.inj heq).1 hplus
    · exact hcast
  negative n := by simp [digits_decimal]

/-- The bytes that `write_dummy` writes. -/
def dummy (len : ℕ) : List UInt8 := List.replicate len 65

/-- The name of a header line, up to the first colon. -/
def headerName (line : List UInt8) : List UInt8 := line.takeWhile (· ≠ 58)

/-- The value of a header line, behind the colon and one blank. -/
def headerValue (line : List UInt8) : List UInt8 := line.drop ((headerName line).length + 2)

/-- A header line. -/
def headerLine (name value : List UInt8) : List UInt8 := name ++ ascii ": " ++ value

/-- The assertions of a connection and of a handler. -/
inductive HttpCheck
  | queue (e : QueueCheck)
  | tcp (e : TcpCheck)
  | reqTotalSize
  | noActiveReq
  | firstLine
  | noColon
  | headerBounds
  | badHeaderValue
  | unknownHeader
  | remainingLen
  | inputLeft
  | sameRequest
  | bodySize
  | reqActive
  | bodyState
  | outputLeft
  | outOfFuel
  deriving DecidableEq, Repr

/-- `Request` -/
structure Request where
  objId : ℕ
  reqTotalSize : UInt64
  expRespMetaSize : UInt64
  expRespBodySize : UInt64
  actualRespBodySize : ℕ := 0
  deriving DecidableEq, Repr

/-- The number in a header line. -/
def headerNumber (lc : LexicalCast) (line : List UInt8) : Except HttpCheck UInt64 :=
  match lc.cast (headerValue line) with
  | some n => .ok n
  | none => .error .badHeaderValue

/-- What the user asks for in a request. -/
structure ReqSpec where
  reqTotalSize : UInt64
  respMetaSize : UInt64
  respBodySize : UInt64
  deriving DecidableEq, Repr

/-- What the user is told: `rsp_meta_cb`, `rsp_body_data_cb` and `rsp_done_cb`. -/
inductive Notice
  | rspMeta (status : ℕ) (headers : List (List UInt8 × List UInt8))
  | bodyData (len : ℕ)
  | done
  deriving DecidableEq, Repr

/-- The requests that the user submits from inside the callbacks: those of a request, and the
`notify_request_done_cb_` of the connection. -/
structure Inside where
  rspMeta : List ReqSpec := []
  rspBodyData : List ReqSpec := []
  rspDone : List ReqSpec := []
  requestDone : List ReqSpec := []
  deriving DecidableEq, Repr

/-- `HTTPRespState` -/
inductive RespState
  | statusLine
  | headers
  | body
  deriving DecidableEq, Repr

/-- `Connection`.  `requests` and `log` tell what has happened: the requests submitted, and what the
user has been told of each. -/
structure Connection where
  channel : TcpChannel := {}
  connected : Bool := false
  queues : ReqQueues Request := {}
  httpRspState : RespState := .statusLine
  rspHdrs : List (List UInt8 × List UInt8) := []
  remainingRespBodyLen : ℕ := 0
  requests : List Request := []
  log : List (ℕ × Notice) := []
  deriving DecidableEq, Repr

/-- `write_dummy` -/
def writeDummy (len : ℕ) (ch : TcpChannel) : TcpChannel := ch.write (dummy len)

/-- The conversion of a `size_t` to an `int`. -/
def toInt (n : UInt64) : ℤ := n.toUInt32.toInt32.toInt

namespace Request

/-- The first line and the headers of a request, up to the content length. -/
def head (r : Request) : List UInt8 :=
  requestLine ++ crlf ++
  headerLine respMetaSizeName (decimal r.expRespMetaSize.toNat) ++ crlf ++
  headerLine respBodySizeName (decimal r.expRespBodySize.toNat) ++ crlf ++
  headerLine contentLengthName []

/-- The bytes of the request that are left for its body. -/
def numOpaqueBytes (r : Request) : ℕ := r.reqTotalSize.toNat - r.head.length

end Request

namespace Connection

/-- The user is told something about the active request. -/
def notify (r : Request) (n : Notice) (c : Connection) : Connection :=
  { c with log := c.log ++ [(r.objId, n)] }

/-- `evbuffer_drain` and its like: what is left in the input buffer. -/
def setInput (bs : List UInt8) (c : Connection) : Connection :=
  { c with channel := { c.channel with inputEvb := bs } }

/-- The part of `_maybe_http_write_to_transport` that writes a request: its header, then its body of
dummy bytes. -/
def writeRequest (req : Request) (ch : TcpChannel) : Except HttpCheck TcpChannel := do
  check (req.head.length < req.reqTotalSize.toNat) .reqTotalSize
  let buf := req.head ++ decimal req.numOpaqueBytes ++ crlf ++ crlf
  let ch := writeDummy req.numOpaqueBytes (ch.write buf)
  if req.expRespMetaSize = 0 then return ch
  else (ch.setReadSizeHint (toInt req.expRespMetaSize)).mapError .tcp

/-- `_maybe_http_write_to_transport` -/
def maybeHttpWriteToTransport (c : Connection) : Except HttpCheck Connection := do
  let (q, written) ← c.queues.write.mapError .queue
  match written with
  | none => return c
  | some req => do
    let ch ← writeRequest req c.channel
    return { c with queues := q, channel := ch }

/-- `submit_request` -/
def submitRequest (req : Request) (c : Connection) : Except HttpCheck Connection :=
  let c := { c with queues := c.queues.push req }
  if c.connected then c.maybeHttpWriteToTransport else .ok c

/-- The user submits a new request. -/
def submit (c : Connection) (spec : ReqSpec) : Except HttpCheck Connection :=
  let req : Request :=
    { objId := c.requests.length, reqTotalSize := spec.reqTotalSize
      expRespMetaSize := spec.respMetaSize, expRespBodySize := spec.respBodySize }
  submitRequest req { c with requests := c.requests ++ [req] }

/-- `active_req_queue_.front()` -/
def activeReq (c : Connection) : Except HttpCheck Request :=
  match c.queues.active with
  | [] => .error .noActiveReq
  | req :: _ => .ok req

/-- `_done_with_resp` -/
def doneWithResp (inside : Inside) (c : Connection) : Except HttpCheck Connection := do
  check (c.remainingRespBodyLen = 0) .remainingLen
  let (q, req) ← c.queues.done.mapError .queue
  let c := { c with queues := q }
  -- `notify_rsp_done`
  check (req.expRespBodySize.toNat = req.actualRespBodySize) .bodySize
  let c ← exec submit (c.notify req .done) inside.rspDone
  let c := { c with httpRspState := .statusLine }
  let c ← exec submit c inside.requestDone
  c.maybeHttpWriteToTransport

/-- `_got_a_chunk_of_resp_body` -/
def gotAChunkOfRespBody (inside : Inside) (len : ℕ) (c : Connection) :
    Except HttpCheck Connection := do
  check (len ≤ c.remainingRespBodyLen) .remainingLen
  let c := { c with remainingRespBodyLen := c.remainingRespBodyLen - len }
  let req ← c.activeReq
  -- `notify_rsp_body_data`
  let req' := { req with actualRespBodySize := req.actualRespBodySize + len }
  let c := { c with queues := { c.queues with active := req' :: c.queues.active.tail } }
  let c ← exec submit (c.notify req (.bodyData len)) inside.rspBodyData
  if c.remainingRespBodyLen = 0 then c.doneWithResp inside else return c

/-- The status line, if it has arrived.  The flag tells whether to go on. -/
def consumeStatusLine (c : Connection) : Except HttpCheck (Connection × Bool) :=
  match readln c.channel.inputEvb with
  | none => do
    check (c.channel.inputEvb = [] ∨ c.queues.active ≠ []) .noActiveReq
    return (c, false)
  | some (line, rest) => do
    check (c.queues.active ≠ []) .noActiveReq
    check (line = respStatusLine) .firstLine
    return ({ c.setInput rest with httpRspState := .headers }, true)

variable (lc : LexicalCast)

/-- `strcasecmp(a, b) == 0` -/
def sameName (a b : List UInt8) : Bool :=
  let lower := fun c : UInt8 => if 65 ≤ c ∧ c ≤ 90 then c + 32 else c
  a.map lower = b.map lower

/-- A header line. -/
def consumeHeaderLine (line : List UInt8) (c : Connection) : Except HttpCheck Connection := do
  check (58 ∈ line) .noColon
  let c := { c with rspHdrs := c.rspHdrs ++ [(headerName line, headerValue line)] }
  if sameName (headerName line) contentLengthName then
    let n ← headerNumber lc line
    return { c with remainingRespBodyLen := n.toNat }
  else return c

/-- The end of the headers. -/
def endOfHeaders (inside : Inside) (c : Connection) : Except HttpCheck Connection := do
  let req ← c.activeReq
  let c ← exec submit (c.notify req (.rspMeta 200 c.rspHdrs)) inside.rspMeta
  let c := { c with rspHdrs := [] }
  if 0 < c.remainingRespBodyLen then return { c with httpRspState := .body }
  else c.doneWithResp inside

/-- The header lines that have arrived. -/
def consumeHeaders (inside : Inside) : ℕ → Connection → Except HttpCheck Connection
  | 0, _ => .error .outOfFuel
  | fuel + 1, c =>
    match readln c.channel.inputEvb with
    | none => .ok c
    | some (line, rest) =>
      if line = [] then endOfHeaders inside (c.setInput rest)
      else do
        let c ← consumeHeaderLine lc line (c.setInput rest)
        consumeHeaders inside fuel c

/-- The bytes of the body that have arrived.  The channel is told to drop the others. -/
def consumeBody (inside : Inside) (c : Connection) : Except HttpCheck (Connection × Bool) := do
  check (0 < c.remainingRespBodyLen) .remainingLen
  let currentReq ← c.activeReq
  let buflen := c.channel.inputEvb.length
  let drainLen := min buflen c.remainingRespBodyLen
  -- nothing may have arrived yet
  let c ←
    if 0 < drainLen then
      gotAChunkOfRespBody inside drainLen (c.setInput (c.channel.inputEvb.drop drainLen))
    else .ok c
  if 0 < c.remainingRespBodyLen then
    check (drainLen = buflen) .inputLeft
    check (c.channel.inputEvb = []) .inputLeft
    -- the rest of the body is dropped by the channel as it arrives
    let ch ← (c.channel.dropFutureInput c.remainingRespBodyLen true).mapError .tcp
    return ({ c with channel := ch }, false)
  else
    check (c.channel.inputEvb = []) .inputLeft
    check (∀ req ∈ c.queues.active.head?, req.objId ≠ currentReq.objId) .sameRequest
    return (c, true)

/-- One turn of the loop of `_maybe_http_consume_input`. -/
def consumeOnce (inside : Inside) (c : Connection) : Except HttpCheck (Connection × Bool) :=
  match c.httpRspState with
  | .statusLine => c.consumeStatusLine
  | .headers => do
    let c ← consumeHeaders lc inside (c.channel.inputEvb.length + 1) c
    return (c, c.httpRspState ≠ .headers)
  | .body => c.consumeBody inside

/-- The loop. -/
def consumeLoop (inside : Inside) : ℕ → Connection → Except HttpCheck Connection
  | 0, _ => .error .outOfFuel
  | fuel + 1, c => do
    let (c, keepConsuming) ← consumeOnce lc inside c
    if keepConsuming then consumeLoop inside fuel c else return c

/-- `_maybe_http_consume_input` -/
def consumeInput (inside : Inside) (c : Connection) : Except HttpCheck Connection := do
  check (c.queues.active ≠ []) .noActiveReq
  if c.channel.inputEvb = [] then return c
  else consumeLoop lc inside (c.channel.inputEvb.length + 2) c

/-- The connection as the user of its channel. -/
def observer (inside : Inside) : StreamObserver HttpCheck Connection where
  channel := channel
  setChannel ch c := { c with channel := ch }
  onNewReadDataAvailable := consumeInput lc inside
  onInputBytesDropped := gotAChunkOfRespBody inside

/-- `onWrittenData` -/
def onWrittenData (c : Connection) : Except HttpCheck Connection := do
  check (c.channel.outputEvb = []) .outputLeft
  c.maybeHttpWriteToTransport

end Connection

end ShadowBrowser.Web
