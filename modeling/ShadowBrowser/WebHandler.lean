/-
The server side of HTTP: the `Handler` of one connection of the web server.

It reads the request line, the headers and the body of a request, and answers with
as many dummy bytes as the request asks for.

* `consumeInput` — what has arrived of a request is read, a part at a time;
* `serveResponse` — the response.
-/
import ShadowBrowser.WebConnection

namespace ShadowBrowser.Web

open Checked Texts

/-- `RequestInfo` -/
structure RequestInfo where
  active : Bool := false
  respMetaSize : UInt64 := 0
  respBodySize : UInt64 := 0
  deriving DecidableEq, Repr

/-- `HTTPReqState` -/
inductive ReqState
  | reqLine
  | headers
  | body
  deriving DecidableEq, Repr

/-- What a handler finds in the headers of a request: `resp_meta_size`, `resp_body_size` and
`content-length`. -/
abbrev Framing := UInt64 × UInt64 × ℕ

/-- `Handler`.  `found` and `served` tell what has happened: the headers of the requests read so far,
and how many requests were answered. -/
structure Handler where
  channel : TcpChannel := {}
  httpReqState : ReqState := .reqLine
  currentReq : RequestInfo := {}
  remainingReqBodyLength : ℕ := 0
  found : List Framing := []
  served : ℕ := 0
  deriving DecidableEq, Repr

/-- A `size_t`, as `%ld` prints it. -/
def printLd (n : UInt64) : List UInt8 :=
  if n.toNat < 2 ^ 63 then decimal n.toNat else 45 :: decimal (-n).toNat

/-- The difference of two `size_t`. -/
def sizeSub (a b : ℕ) : ℕ := (a + 2 ^ 64 - b) % 2 ^ 64

namespace Handler

variable (lc : LexicalCast)

/-- `evbuffer_drain` and its like: what is left in the input buffer. -/
def setInput (bs : List UInt8) (h : Handler) : Handler :=
  { h with channel := { h.channel with inputEvb := bs } }

/-- The status line and the headers of a response, up to the value of the dummy header. -/
def respHead (respBodySize : UInt64) : List UInt8 :=
  respStatusLine ++ crlf ++
  headerLine contentLengthName (printLd respBodySize) ++ crlf ++
  headerLine dummyName []

/-- `num_dummy_hdr_bytes_needed`, a `ssize_t`. -/
def numDummyHdrBytes (respMetaSize : UInt64) (len : ℕ) : ℤ :=
  Int.bmod (respMetaSize.toNat - len) (2 ^ 64) - 4

/-- `_serve_response` -/
def serveResponse (h : Handler) : Except HttpCheck Handler := do
  check (h.remainingReqBodyLength = 0) .remainingLen
  check (h.currentReq.active = true) .reqActive
  let buf := respHead h.currentReq.respBodySize
  let needed := numDummyHdrBytes h.currentReq.respMetaSize buf.length
  let ch :=
    if 0 < needed then
      (writeDummy needed.toNat (h.channel.write buf)).write (crlf ++ crlf)
    else h.channel.write (buf ++ ascii "n/a" ++ crlf ++ crlf)
  let ch :=
    if 0 < h.currentReq.respBodySize then writeDummy h.currentReq.respBodySize.toNat ch else ch
  return { h with
    channel := ch, currentReq := {}, httpReqState := .reqLine, served := h.served + 1 }

/-- The request line, if it has arrived.  The flag tells whether to go on. -/
def consumeReqLine (h : Handler) : Except HttpCheck (Handler × Bool) :=
  match readln h.channel.inputEvb with
  | none => .ok (h, false)
  | some (line, rest) => do
    check (h.currentReq.active = false) .reqActive
    check (line = requestLine) .firstLine
    return ({ h.setInput rest with
      currentReq := { h.currentReq with active := true }, httpReqState := .headers }, true)

/-- A header line.  Three names are known. -/
def consumeHeaderLine (line : List UInt8) (h : Handler) : Except HttpCheck Handler := do
  check (line.length < 127) .headerBounds
  check (58 ∈ line) .noColon
  check ((headerName line).length ≤ sizeSub line.length 3) .headerBounds
  if headerName line = respMetaSizeName then
    let n ← headerNumber lc line
    return { h with currentReq := { h.currentReq with respMetaSize := n } }
  else if headerName line = respBodySizeName then
    let n ← headerNumber lc line
    return { h with currentReq := { h.currentReq with respBodySize := n } }
  else if headerName line = contentLengthName then
    let n ← headerNumber lc line
    return { h with remainingReqBodyLength := n.toNat }
  else .error .unknownHeader

/-- The end of the headers. -/
def endOfHeaders (h : Handler) : Except HttpCheck Handler :=
  let h := { h with
    found := h.found ++
      [(h.currentReq.respMetaSize, h.currentReq.respBodySize, h.remainingReqBodyLength)] }
  if h.remainingReqBodyLength ≠ 0 then .ok { h with httpReqState := .body } else h.serveResponse

/-- The header lines that have arrived. -/
def consumeHeaders : ℕ → Handler → Except HttpCheck Handler
  | 0, _ => .error .outOfFuel
  | fuel + 1, h =>
    match readln h.channel.inputEvb with
    | none => .ok h
    | some (line, rest) =>
      -- an empty line ends the headers
      if line = [] then endOfHeaders (h.setInput rest)
      else do
        let h ← consumeHeaderLine lc line (h.setInput rest)
        consumeHeaders fuel h

/-- The bytes of the body that have arrived.  The channel is told to drop the others. -/
def consumeBody (h : Handler) : Except HttpCheck (Handler × Bool) := do
  check (0 < h.remainingReqBodyLength) .remainingLen
  let buflen := h.channel.inputEvb.length
  let drainLen := min buflen h.remainingReqBodyLength
  let h : Handler := { h.setInput (h.channel.inputEvb.drop drainLen) with
    remainingReqBodyLength := h.remainingReqBodyLength - drainLen }
  if 0 < h.remainingReqBodyLength then
    check (drainLen = buflen) .inputLeft
    check (h.channel.inputEvb = []) .inputLeft
    -- the rest of the body is dropped by the channel as it arrives
    let ch ← (h.channel.dropFutureInput h.remainingReqBodyLength false).mapError .tcp
    return ({ h with channel := ch }, false)
  else
    let h ← h.serveResponse
    return (h, true)

/-- One turn of the loop of `_maybe_consume_input`. -/
def consumeOnce (h : Handler) : Except HttpCheck (Handler × Bool) :=
  match h.httpReqState with
  | .reqLine => h.consumeReqLine
  | .headers => do
    let h ← consumeHeaders lc (h.channel.inputEvb.length + 1) h
    return (h, h.httpReqState ≠ .headers)
  | .body => h.consumeBody

/-- The loop. -/
def consumeLoop : ℕ → Handler → Except HttpCheck Handler
  | 0, _ => .error .outOfFuel
  | fuel + 1, h => do
    let (h, keepConsuming) ← consumeOnce lc h
    if keepConsuming ∧ h.channel.inputEvb ≠ [] then consumeLoop fuel h else return h

/-- `_maybe_consume_input` -/
def consumeInput (h : Handler) : Except HttpCheck Handler :=
  if h.channel.inputEvb = [] then .ok h
  else consumeLoop lc (h.channel.inputEvb.length + 1) h

/-- `onInputBytesDropped` -/
def onInputBytesDropped (len : ℕ) (h : Handler) : Except HttpCheck Handler := do
  check (h.httpReqState = .body) .bodyState
  check (h.remainingReqBodyLength = len) .remainingLen
  let h := { h with remainingReqBodyLength := h.remainingReqBodyLength - len }
  check (h.remainingReqBodyLength = 0) .remainingLen
  h.serveResponse

/-- The handler as the user of its channel. -/
def observer : StreamObserver HttpCheck Handler where
  channel := channel
  setChannel ch h := { h with channel := ch }
  onNewReadDataAvailable := consumeInput lc
  onInputBytesDropped := onInputBytesDropped

end Handler

end ShadowBrowser.Web
