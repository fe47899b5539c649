/-
Construction of a channel and the exchange of peer infos.

Each side tells the other its version, its cell size and its address; the client
also tells the server which L and which packet interval to use.  The client writes
its info in the constructor, the server when it has read the client's.
-/
import ShadowBrowser.Sending

namespace ShadowBrowser

open Checked

/-- `s_version` -/
def peerInfoVersion : UInt8 := 10

/-- `PEER_INFO_NUM_BYTES` -/
def peerInfoNumBytes : ℕ := 1 + 4 + 2 + 4 + 2 + 2

/-- `_check_L` -/
def checkL (L : ℕ) : Bool := [0, 50, 100, 150, 200, 250, 300, 500, 750, 1000].contains L

/-- `_check_pkt_intvl`, whose parameter is a `uint16_t` -/
def checkPktIntvl (intvl : ℕ) : Bool := [0, 5, 20, 50, 75, 100, 125].contains (intvl % 65536)

/-- The four bytes of a number in the order of the host. -/
def hostBytes (n : ℕ) : List UInt8 :=
  [UInt8.ofNat n, UInt8.ofNat (n / 256), UInt8.ofNat (n / 65536), UInt8.ofNat (n / 16777216)]

/-- What one side tells the other. -/
structure PeerInfo where
  version : UInt8
  chInstNum : ℕ
  cellSize : ℕ
  /-- in network order -/
  addr : List UInt8
  requestedL : ℕ
  requestedPktIntvl : ℕ
  deriving DecidableEq, Repr

/-- The fields that `_read_peer_info` copies out of the buffer, one after the other. -/
def PeerInfo.copyOut (buf : List UInt8) : PeerInfo where
  version := buf.getD 0 0
  chInstNum := (buf.getD 1 0).toNat + (buf.getD 2 0).toNat * 256 + (buf.getD 3 0).toNat * 65536
    + (buf.getD 4 0).toNat * 16777216
  cellSize := ntohs (buf.getD 5 0) (buf.getD 6 0)
  addr := (buf.drop 7).take 4
  requestedL := ntohs (buf.getD 11 0) (buf.getD 12 0)
  requestedPktIntvl := ntohs (buf.getD 13 0) (buf.getD 14 0)

/-- The socket takes `n` bytes at once. -/
def SockRes.takes (n : ℕ) : SockRes → Bool
  | .accepts m => n ≤ m
  | .fails _ => false

namespace Chan

/-- `_fill_my_peer_info_outbuf` -/
def fillMyPeerInfoOutbuf (c : Chan) : Chan :=
  { c with
    myPeerInfoOutbuf := some <|
      peerInfoVersion :: hostBytes c.objId ++ htons c.cellSize
        ++ (htons (c.myaddr / 65536) ++ htons c.myaddr)
        ++ htons (if c.isClientSide then c.tamarawL else 0)
        ++ htons (if c.isClientSide then c.peerTamarawPktIntvlMs else 0) }

/-- `_write_my_peer_info_outbuf`; the socket must take all of it at once. -/
def writeMyPeerInfoOutbuf (c : Chan) (sock : SockRes) : Except Check Chan :=
  match c.myPeerInfoOutbuf with
  | none => throw .writePeerInfo
  | some buf => do
    check (buf.length = peerInfoNumBytes) .writePeerInfo
    check (sock.takes peerInfoNumBytes) .writePeerInfo
    return { c with myPeerInfoOutbuf := none }

/-- The constructor, up to the client's first write. -/
def construct (isClientSide : Bool) (objId myaddr cellSize tamarawPktIntvlMs
    peerTamarawPktIntvlMs tamarawL defenseSessionTimeLimit : ℕ) : Except Check Chan := do
  check (cellSize = 750 ∨ cellSize = 0) .ctorCellSize
  check (defenseSessionTimeLimit ≤ 60 * 3) .ctorTimeLimit
  check (checkL tamarawL) .ctorL
  check (checkPktIntvl tamarawPktIntvlMs) .ctorPktIntvl
  -- both are zero, or neither is
  check ((tamarawL = 0 ∨ tamarawPktIntvlMs = 0) → tamarawL = 0 ∧ tamarawPktIntvlMs = 0)
    .ctorBothZero
  check (peerTamarawPktIntvlMs ≠ 0 →
    isClientSide = true ∧ checkPktIntvl peerTamarawPktIntvlMs) .ctorPeerPktIntvl
  check (cellSize ≠ 0 ∨ tamarawL ≠ 0 ∨ tamarawPktIntvlMs ≠ 0 ∨ defenseSessionTimeLimit ≠ 0 →
    cellSize ≠ 0 ∧ tamarawL ≠ 0 ∧ tamarawPktIntvlMs ≠ 0 ∧ defenseSessionTimeLimit ≠ 0)
    .ctorAllOrNone
  return fillMyPeerInfoOutbuf
    { isClientSide, objId, myaddr, cellSize, tamarawPktIntvlMs, peerTamarawPktIntvlMs,
      tamarawL, defenseSessionTimeLimit }

/-- The constructor: the client writes its peer info, the server waits. -/
def new (isClientSide : Bool) (objId myaddr cellSize tamarawPktIntvlMs
    peerTamarawPktIntvlMs tamarawL defenseSessionTimeLimit : ℕ) (sock : SockRes) :
    Except Check Chan := do
  let c ← construct isClientSide objId myaddr cellSize tamarawPktIntvlMs
    peerTamarawPktIntvlMs tamarawL defenseSessionTimeLimit
  if isClientSide then c.writeMyPeerInfoOutbuf sock else return c

/-- `_read_peer_info`, from the bytes that were read; the instance number is only logged. -/
def readPeerInfo (c : Chan) (now : ℕ) : Except Check Chan := do
  let peer := PeerInfo.copyOut c.peerInfoInbuf
  let c : Chan := { c with
    peerInfoInbuf := []
    peerCellSize := peer.cellSize
    peeraddr := peer.addr }
  -- the server answers with its own peer info
  let c ← doIf (!c.isClientSide) (·.maybeToggleWriteMonitoring .forceEnable) c
  if peer.version ≠ peerInfoVersion then
    if c.isClientSide then throw .peerInfoVersion else return c.onSocketClosed
  else
    -- only a client asks for an L or an interval of its own
    check (peer.requestedL ≠ 0 → c.isClientSide = false) .peerInfoClientL
    check (peer.requestedL ≠ 0 → checkL peer.requestedL) .peerInfoL
    check (peer.requestedPktIntvl ≠ 0 → c.isClientSide = false) .peerInfoClientPktIntvl
    check (peer.requestedPktIntvl ≠ 0 → checkPktIntvl peer.requestedPktIntvl) .peerInfoPktIntvl
    return { c with
      tamarawL := if peer.requestedL ≠ 0 then peer.requestedL else c.tamarawL
      tamarawPktIntvlMs :=
        if peer.requestedPktIntvl ≠ 0 then peer.requestedPktIntvl else c.tamarawPktIntvlMs
      needToReadPeerInfo := false
      establishedTimestampMs := now / 1000 }
      |>.chStatusCb .ready

end Chan

end ShadowBrowser
