/-
The two ends of the SOCKS5 handshake: `Socks5Connector` and `ClientHandler`.

The connector greets, and asks for a target when its greeting is answered.  The handler
reads both messages, has its mux channel create a stream to the target, and answers when
the stream is created.

* `Target` — an address or a name, with the bytes of the request that asks for it;
* `Socks5Connector`, `ClientHandler` — the two parsers, with their assertions;
* `consumeInput_greetingResp`, `consumeInput_requestGranted`, `consumeInput_cut` — the connector
  takes a reply that has arrived as a whole, and no other one;
* `consume_greeting`, `consume_request` — the handler waits for the first bytes of a
  message, and then takes it only if all of it is there.
-/
import Mathlib.Data.List.GetD
import Mathlib.Data.List.TakeWhile
import ShadowBrowser.Cell
import ShadowBrowser.TcpChannel
import ShadowBrowser.Texts

namespace ShadowBrowser.Socks

open Checked Texts

/-- The assertions of the two ends. -/
inductive SocksCheck
  | started
  | greetingReply
  | noName
  | connectReply
  | connectorState
  | version
  | greetingSize
  | addrRequestSize
  | nameLength
  | nameRequestSize
  | handlerState
  | sid
  | inputLeft
  | outOfFuel
  deriving DecidableEq, Repr

/-! ### Targets -/

/-- `in_addr_t`: the bytes of an address, as they lie in memory. -/
structure InAddr where
  b₀ : UInt8
  b₁ : UInt8
  b₂ : UInt8
  b₃ : UInt8
  deriving DecidableEq, Repr

/-- The address 0, by which the connector knows that it has a name. -/
def InAddr.zero : InAddr := ⟨0, 0, 0, 0⟩

/-- The bytes of an address. -/
def InAddr.bytes (a : InAddr) : List UInt8 := [a.b₀, a.b₁, a.b₂, a.b₃]

/-- `inet_ntop(AF_INET, …)` -/
def inetNtop (a : InAddr) : List UInt8 :=
  decimal a.b₀.toNat ++ 46 :: (decimal a.b₁.toNat ++ 46 :: (decimal a.b₂.toNat ++
    46 :: decimal a.b₃.toNat))

/-- A C string: the bytes up to the first NUL. -/
def cString (bs : List UInt8) : List UInt8 := bs.takeWhile (· ≠ 0)

/-- What a client may ask for: an address, or a name whose length fits in a byte. -/
inductive Target
  | addr (a : InAddr)
  | name (bs : List UInt8) (h : bs.length ≤ 255)
  deriving DecidableEq, Repr

/-- The host of a target, as it is passed on. -/
def Target.host : Target → List UInt8
  | .addr a => inetNtop a
  | .name bs _ => bs

/-- The request that asks for a target. -/
def Target.request (port : UInt16) : Target → List UInt8
  | .addr a => [5, 1, 0, 1] ++ a.bytes ++ htons port.toNat
  | .name bs _ => [5, 1, 0, 3, UInt8.ofNat bs.length] ++ bs ++ htons port.toNat

/-- The targets that a connector is made for: its name comes as a C string. -/
def Target.Configurable : Target → Prop
  | .addr a => a ≠ .zero
  | .name bs _ => bs ≠ [] ∧ 0 ∉ bs

instance (t : Target) : Decidable t.Configurable := by
  cases t <;> simp only [Target.Configurable] <;> infer_instance

theorem cString_of_notMem {bs : List UInt8} (h : 0 ∉ bs) : cString bs = bs := by
  refine List.takeWhile_eq_self_iff.mpr fun b hb => ?_
  refine decide_eq_true fun heq => h ?_
  rw [← heq]
  exact hb

/-- No byte but digits and dots is in the text of an address. -/
theorem mem_inetNtop {a : InAddr} {b : UInt8} (h : b ∈ inetNtop a) : b = 46 ∨ IsDigit b := by
  simp only [inetNtop, List.mem_append, List.mem_cons] at h
  rcases h with h | h | h | h | h | h | h
  · exact .inr (isDigit_of_mem_decimal h)
  · exact .inl h
  · exact .inr (isDigit_of_mem_decimal h)
  · exact .inl h
  · exact .inr (isDigit_of_mem_decimal h)
  · exact .inl h
  · exact .inr (isDigit_of_mem_decimal h)

theorem notMem_inetNtop {a : InAddr} {b : UInt8} (hdot : b ≠ 46) (hdigit : ¬ IsDigit b) :
    b ∉ inetNtop a := fun h => (mem_inetNtop h).elim hdot hdigit

/-- The host of a target for which a connector is made is a C string. -/
theorem cString_host {t : Target} (ht : t.Configurable) : cString t.host = t.host := by
  cases t with
  | addr a => exact cString_of_notMem (notMem_inetNtop (by decide) (by decide))
  | name bs hle => exact cString_of_notMem ht.2

theorem inetNtop_ne_nil (a : InAddr) : inetNtop a ≠ [] := by
  simp [inetNtop]

/-! ### The connector -/

/-- `Socks5Connector::State` -/
inductive ConnectorState
  | socks5None
  | socks5Greeting
  | socks5ReadRespNext
  | socks5Done
  deriving DecidableEq, Repr

/-- `ConnectResult`, without those for a transport that ends. -/
inductive ConnectResult
  | ok
  | errFail
  deriving DecidableEq, Repr

/-- `Socks5Connector`; `results` are the calls of `onSocksTargetConnectResult`. -/
structure Socks5Connector where
  targetHostAddr : InAddr
  targetHostName : List UInt8
  port : UInt16
  state : ConnectorState := .socks5None
  transport : TcpChannel := {}
  results : List ConnectResult := []
  deriving DecidableEq, Repr

/-- The greeting: version 5, and one method, which is none. -/
def greeting : List UInt8 := [5, 1, 0]

/-- `greeting_resp` -/
def greetingResp : List UInt8 := [5, 0]

/-- The reply to a request whose stream has been created. -/
def requestGranted : List UInt8 := [5, 0, 0, 1, 0, 0, 0, 0, 0, 0]

namespace Socks5Connector

/-- The two constructors: one for an address, and one for a name, which leaves the address 0. -/
def new (port : UInt16) (t : Target) : Socks5Connector where
  targetHostAddr := match t with
    | .addr a => a
    | .name _ _ => .zero
  targetHostName := match t with
    | .addr _ => []
    | .name bs _ => bs
  port := port

/-- `start_connecting` -/
def startConnecting (c : Socks5Connector) : Except SocksCheck Socks5Connector := do
  check (c.state = .socks5None) .started
  return { c with transport := c.transport.write greeting, state := .socks5Greeting }

/-- `_set_done_and_notify` -/
def setDoneAndNotify (result : ConnectResult) (c : Socks5Connector) : Socks5Connector :=
  { c with state := .socks5Done, results := c.results ++ [result] }

/-- The connect request. -/
def request (c : Socks5Connector) : Except SocksCheck (List UInt8) :=
  if c.targetHostAddr ≠ .zero then
    .ok ([5, 1, 0] ++ [1] ++ c.targetHostAddr.bytes ++ htons c.port.toNat)
  else do
    check (c.targetHostName ≠ []) .noName
    let namelen := UInt8.ofNat c.targetHostName.length
    return [5, 1, 0] ++ [3] ++ [namelen] ++ c.targetHostName.take namelen.toNat ++
      htons c.port.toNat

/-- `TCPChannel::read`, of what it leaves in the channel. -/
def drain (len : ℕ) (c : Socks5Connector) : Socks5Connector :=
  { c with transport := c.transport.drain len }

/-- `_consume_input`.  What is read are the first bytes of the input, as many as there are. -/
def consumeInput (c : Socks5Connector) : Except SocksCheck Socks5Connector :=
  match c.state with
  | .socks5Greeting => do
    let mem := c.transport.inputEvb.take 2
    check (mem.length = 2) .greetingReply
    let c := c.drain 2
    if mem ≠ [5, 0] then return c.setDoneAndNotify .errFail
    else
      let req ← c.request
      return { c with transport := c.transport.write req, state := .socks5ReadRespNext }
  | .socks5ReadRespNext => do
    let mem := c.transport.inputEvb.take 10
    check (mem.length = 10) .connectReply
    let c := c.drain 10
    -- only the first four bytes tell whether the request is granted
    if mem.take 4 ≠ [5, 0, 0, 1] then return c.setDoneAndNotify .errFail
    else return c.setDoneAndNotify .ok
  | _ => .error .connectorState

/-- The connector as the observer of its transport. -/
def observer : StreamObserver SocksCheck Socks5Connector where
  channel c := c.transport
  setChannel ch c := { c with transport := ch }
  onNewReadDataAvailable := consumeInput
  onInputBytesDropped _ c := .ok c

/-- The number of bytes that the connector insists on. -/
def wanted (c : Socks5Connector) : ℕ :=
  match c.state with
  | .socks5Greeting => 2
  | .socks5ReadRespNext => 10
  | _ => 0

variable {t : Target} {port : UInt16} {c : Socks5Connector}

/-- The connector is one for the target. -/
structure IsFor (t : Target) (port : UInt16) (c : Socks5Connector) : Prop where
  addr : c.targetHostAddr = (new port t).targetHostAddr
  name : c.targetHostName = (new port t).targetHostName
  port : c.port = port

/-- **The request is the one that asks for the target.** -/
theorem IsFor.request (h : c.IsFor t port) (ht : t.Configurable) :
    c.request = .ok (t.request port) := by
  obtain ⟨haddr, hname, hport⟩ := h
  cases t with
  | addr a =>
    have ha : c.targetHostAddr ≠ .zero := by
      rw [haddr]
      exact ht
    rw [Socks5Connector.request, if_pos ha, haddr, hport]
    rfl
  | name bs hle =>
    have ha : ¬ c.targetHostAddr ≠ .zero := fun h => h haddr
    have hname : c.targetHostName = bs := hname
    have hlen : (UInt8.ofNat bs.length).toNat = bs.length := by
      rw [UInt8.toNat_ofNat']
      omega
    rw [Socks5Connector.request, if_neg ha, hname, hport, check_pos ht.1, ok_bind]
    simp only [hlen, List.take_length]
    rfl

/-- **A reply of which a part is missing is not taken.** -/
theorem consumeInput_cut (hlt : c.transport.inputEvb.length < c.wanted) :
    ∃ e, c.consumeInput = .error e := by
  have hcut : ∀ {n}, c.wanted = n → ¬ (c.transport.inputEvb.take n).length = n := by
    intro n hn
    rw [List.length_take]
    omega
  cases hstate : c.state with
  | socks5None =>
    rw [wanted, hstate] at hlt
    exact absurd hlt (Nat.not_lt_zero _)
  | socks5Done =>
    rw [wanted, hstate] at hlt
    exact absurd hlt (Nat.not_lt_zero _)
  | socks5Greeting =>
    refine ⟨.greetingReply, ?_⟩
    simp only [consumeInput, hstate]
    rw [check_neg (hcut (by rw [wanted, hstate])), error_bind]
  | socks5ReadRespNext =>
    refine ⟨.connectReply, ?_⟩
    simp only [consumeInput, hstate]
    rw [check_neg (hcut (by rw [wanted, hstate])), error_bind]

/-- The answer to the greeting: the connector asks for its target. -/
theorem consumeInput_greetingResp (h : c.IsFor t port) (ht : t.Configurable)
    (hstate : c.state = .socks5Greeting) (hin : c.transport.inputEvb = greetingResp) :
    c.consumeInput = .ok { c with
      state := .socks5ReadRespNext, transport := (c.transport.drain 2).write (t.request port) } := by
  have hmem : c.transport.inputEvb.take 2 = [5, 0] := by
    rw [hin]
    rfl
  have hreq : (c.drain 2).request = .ok (t.request port) :=
    IsFor.request ⟨h.addr, h.name, h.port⟩ ht
  simp only [consumeInput, hstate]
  rw [hmem, check_pos (by rfl), ok_bind, if_neg (fun h => h rfl), hreq, ok_bind]
  rfl

/-- The answer to the request: the connector reports that it is connected. -/
theorem consumeInput_requestGranted (hstate : c.state = .socks5ReadRespNext)
    (hin : c.transport.inputEvb = requestGranted) :
    c.consumeInput = .ok { c with
      state := .socks5Done, transport := c.transport.drain 10, results := c.results ++ [.ok] } := by
  have hmem : c.transport.inputEvb.take 10 = requestGranted := by
    rw [hin]
    rfl
  simp only [consumeInput, hstate]
  rw [hmem, check_pos (by rfl), ok_bind, if_neg (fun h => h rfl)]
  rfl

end Socks5Connector

/-! ### The handler -/

/-- `ClientHandler::State` -/
inductive HandlerState
  | readSocks5Greeting
  | readSocks5ConnectReq
  | createBufloStream
  | forwarding
  | closed
  deriving DecidableEq, Repr

/-- What `create_stream2` is called with. -/
structure StreamRequest where
  host : List UInt8
  port : UInt16
  deriving DecidableEq, Repr

/-- `ClientHandler`; `asked` are its calls of `create_stream2`. -/
structure ClientHandler where
  state : HandlerState := .readSocks5Greeting
  sid : ℤ := -1
  clientChannel : TcpChannel := {}
  asked : List StreamRequest := []
  deriving DecidableEq, Repr

namespace ClientHandler

/-- `_close`: the client channel is gone. -/
def close (h : ClientHandler) : ClientHandler :=
  { h with state := .closed, clientChannel := {} }

/-- `drain`, on the client channel. -/
def drain (len : ℕ) (h : ClientHandler) : ClientHandler :=
  { h with clientChannel := h.clientChannel.drain len }

/-- `create_stream2`, of the mux channel; the host is passed as a C string. -/
def createStream2 (host : List UInt8) (port : UInt16) (h : ClientHandler) : ClientHandler :=
  { h with asked := h.asked ++ [⟨host, port⟩] }

/-- `_read_socks5_greeting`, and whether more is to be consumed. -/
def readSocks5Greeting (h : ClientHandler) : Except SocksCheck (ClientHandler × Bool) :=
  let buf := h.clientChannel.inputEvb
  if buf.length < 2 then .ok (h, false)
  else do
    check (buf.getD 0 0 = 5) .version
    let nummethods := (buf.getD 1 0).toNat
    let total := 2 + nummethods
    check (buf.length = total) .greetingSize
    -- only the "no-authentication" method is supported
    if 0 ∈ (buf.drop 2).take nummethods then
      let h := h.drain total
      return ({ h with
        clientChannel := h.clientChannel.write greetingResp, state := .readSocks5ConnectReq }, true)
    else return (h.close, false)

/-- `_read_socks5_connect_req`, and whether more is to be consumed. -/
def readSocks5ConnectReq (h : ClientHandler) : Except SocksCheck (ClientHandler × Bool) :=
  let buf := h.clientChannel.inputEvb
  if buf.length < 4 then .ok (h, false)
  -- the address is an IPv4 address
  else if buf.take 4 = [5, 1, 0, 1] then do
    check (buf.length = 10) .addrRequestSize
    let addr : InAddr := ⟨buf.getD 4 0, buf.getD 5 0, buf.getD 6 0, buf.getD 7 0⟩
    let port := UInt16.ofNat (ntohs (buf.getD 8 0) (buf.getD 9 0))
    let h := (h.createStream2 (inetNtop addr) port).drain 10
    return ({ h with state := .createBufloStream }, false)
  -- the address is a domain name
  else if buf.take 4 = [5, 1, 0, 3] then do
    check (5 ≤ buf.length) .nameLength
    let namelen := (buf.getD 4 0).toNat
    let total := 5 + namelen + 2
    check (buf.length = total) .nameRequestSize
    let name := (buf.drop 5).take namelen
    let port := UInt16.ofNat (ntohs (buf.getD (5 + namelen) 0) (buf.getD (5 + namelen + 1) 0))
    let h := (h.createStream2 (cString name) port).drain total
    return ({ h with state := .createBufloStream }, false)
  else .ok (h.close, false)

/-- `_consume_client_input`, at most `fuel` times around. -/
def consume : ℕ → ClientHandler → Except SocksCheck ClientHandler
  | 0, _ => .error .outOfFuel
  | fuel + 1, h =>
    if h.clientChannel.inputEvb = [] then .ok h
    else do
      let (h, keepConsuming) ← match h.state with
        | .readSocks5Greeting => h.readSocks5Greeting
        | .readSocks5ConnectReq => h.readSocks5ConnectReq
        | _ => .error .handlerState
      if keepConsuming ∧ h.state ≠ .closed then consume fuel h else return h

/-- `_consume_client_input`: only the greeting lets the loop go around again. -/
def consumeClientInput (h : ClientHandler) : Except SocksCheck ClientHandler := consume 2 h

/-- The handler as the observer of its client channel. -/
def observer : StreamObserver SocksCheck ClientHandler where
  channel h := h.clientChannel
  setChannel ch h := { h with clientChannel := ch }
  onNewReadDataAvailable := consumeClientInput
  onInputBytesDropped _ h := .ok h

/-- `onStreamIdAssigned` -/
def onStreamIdAssigned (sid : ℕ) (h : ClientHandler) : ClientHandler := { h with sid := sid }

/-- `onStreamCreateResult`.  The handler that takes over the client channel insists on that it has
no input. -/
def onStreamCreateResult (ok : Bool) (h : ClientHandler) : Except SocksCheck ClientHandler := do
  check (h.state = .createBufloStream) .handlerState
  if ok then
    check (-1 < h.sid) .sid
    let h := { h with clientChannel := h.clientChannel.write requestGranted, state := .forwarding }
    check (h.clientChannel.inputEvb = []) .inputLeft
    return h
  else return h.close

variable {h : ClientHandler} {t : Target} {port : UInt16}

/-- A request is not followed by anything. -/
theorem keep_readSocks5ConnectReq {h' : ClientHandler} {keep : Bool}
    (heq : h.readSocks5ConnectReq = .ok (h', keep)) : keep = false := by
  simp only [readSocks5ConnectReq] at heq
  split at heq
  · cases heq
    rfl
  · split at heq
    · obtain ⟨_, -, heq⟩ := bind_eq_ok.mp heq
      cases heq
      rfl
    · split at heq
      · obtain ⟨_, -, heq⟩ := bind_eq_ok.mp heq
        obtain ⟨_, -, heq⟩ := bind_eq_ok.mp heq
        cases heq
        rfl
      · cases heq
        rfl

/-- A greeting is followed by a request. -/
theorem state_readSocks5Greeting {h' : ClientHandler}
    (heq : h.readSocks5Greeting = .ok (h', true)) : h'.state = .readSocks5ConnectReq := by
  simp only [readSocks5Greeting] at heq
  split at heq
  · cases heq
  · obtain ⟨_, -, heq⟩ := bind_eq_ok.mp heq
    obtain ⟨_, -, heq⟩ := bind_eq_ok.mp heq
    split at heq
    · cases heq
      rfl
    · cases heq

theorem consume_request (fuel : ℕ) (hstate : h.state = .readSocks5ConnectReq)
    (hne : h.clientChannel.inputEvb ≠ []) :
    consume (fuel + 1) h = h.readSocks5ConnectReq.map Prod.fst := by
  rw [consume, if_neg hne, hstate]
  cases heq : h.readSocks5ConnectReq with
  | error e => rfl
  | ok p =>
    obtain ⟨h', keep⟩ := p
    have hkeep : ¬ (keep = true ∧ h'.state ≠ .closed) := by
      rw [keep_readSocks5ConnectReq heq]
      exact fun h => absurd h.1 (by decide)
    show (if _ then _ else _) = _
    rw [if_neg hkeep]
    rfl

/-- **The fuel is enough**: more of it makes no difference. -/
theorem consume_eq_consumeClientInput (fuel : ℕ) :
    consume (fuel + 2) h = h.consumeClientInput := by
  -- behind the greeting one pass is enough, and what follows needs no more fuel
  have hrest : ∀ h' : ClientHandler, h'.state = .readSocks5ConnectReq →
      consume (fuel + 1) h' = consume 1 h' := by
    intro h' hstate
    by_cases hnil : h'.clientChannel.inputEvb = []
    · rw [consume, if_pos hnil, consume, if_pos hnil]
    · rw [consume_request fuel hstate hnil, consume_request 0 hstate hnil]
  rw [consumeClientInput, consume, consume]
  by_cases hnil : h.clientChannel.inputEvb = []
  · rw [if_pos hnil, if_pos hnil]
  rw [if_neg hnil, if_neg hnil]
  cases hstate : h.state with
  | readSocks5Greeting =>
    cases heq : h.readSocks5Greeting with
    | error e => rfl
    | ok p =>
      obtain ⟨h', keep⟩ := p
      simp only [ok_bind]
      by_cases hkeep : keep = true ∧ h'.state ≠ .closed
      · rw [if_pos hkeep, if_pos hkeep]
        obtain ⟨rfl, -⟩ := hkeep
        exact hrest h' (state_readSocks5Greeting heq)
      · rw [if_neg hkeep, if_neg hkeep]
  | readSocks5ConnectReq =>
    cases heq : h.readSocks5ConnectReq with
    | error e => rfl
    | ok p =>
      obtain ⟨h', keep⟩ := p
      have hkeep : ¬ (keep = true ∧ h'.state ≠ .closed) := by
        rw [keep_readSocks5ConnectReq heq]
        exact fun h => absurd h.1 (by decide)
      simp only [ok_bind]
      rw [if_neg hkeep, if_neg hkeep]
  | createBufloStream => rfl
  | forwarding => rfl
  | closed => rfl

/-! #### What the handler reads -/

/-- A message that the handler waits for, and how many bytes of it it looks at first. -/
def expected (t : Target) (port : UInt16) (h : ClientHandler) : List UInt8 × ℕ :=
  match h.state with
  | .readSocks5Greeting => (greeting, 2)
  | .readSocks5ConnectReq => (t.request port, 4)
  | _ => ([], 0)

/-- With few bytes the handler waits. -/
theorem consume_short (t : Target) (port : UInt16)
    (hlen : h.clientChannel.inputEvb.length < (h.expected t port).2) :
    h.consumeClientInput = .ok h := by
  by_cases hnil : h.clientChannel.inputEvb = []
  · rw [consumeClientInput, consume, if_pos hnil]
  cases hstate : h.state with
  | readSocks5Greeting =>
    rw [expected, hstate] at hlen
    have hread : h.readSocks5Greeting = .ok (h, false) := by
      simp only [readSocks5Greeting]
      rw [if_pos hlen]
    rw [consumeClientInput, consume, if_neg hnil, hstate]
    simp only [hread, ok_bind]
    rfl
  | readSocks5ConnectReq =>
    rw [expected, hstate] at hlen
    have hread : h.readSocks5ConnectReq = .ok (h, false) := by
      simp only [readSocks5ConnectReq]
      rw [if_pos hlen]
    rw [consumeClientInput, consume_request 1 hstate hnil, hread]
    rfl
  | createBufloStream =>
    rw [expected, hstate] at hlen
    exact absurd hlen (Nat.not_lt_zero _)
  | forwarding =>
    rw [expected, hstate] at hlen
    exact absurd hlen (Nat.not_lt_zero _)
  | closed =>
    rw [expected, hstate] at hlen
    exact absurd hlen (Nat.not_lt_zero _)

/-- The whole greeting is answered. -/
theorem consume_greeting (hstate : h.state = .readSocks5Greeting)
    (hin : h.clientChannel.inputEvb = greeting) :
    h.consumeClientInput = .ok { h with
      state := .readSocks5ConnectReq
      clientChannel := (h.clientChannel.drain 3).write greetingResp } := by
  have hread : h.readSocks5Greeting = .ok ({ h with
      clientChannel := (h.clientChannel.drain 3).write greetingResp
      state := .readSocks5ConnectReq }, true) := by
    simp only [readSocks5Greeting]
    rw [hin]
    rfl
  have hdrained : (h.clientChannel.drain 3).inputEvb = [] := by
    rw [TcpChannel.drain_inputEvb, hin]
    rfl
  rw [consumeClientInput, consume, if_neg (by rw [hin]; exact List.cons_ne_nil _ _), hstate]
  simp only [hread, ok_bind]
  rw [if_pos ⟨trivial, by decide⟩, consume, if_pos (by exact hdrained)]

/-- A greeting of which the end is missing is not taken. -/
theorem consume_greeting_cut {rest : List UInt8} (hstate : h.state = .readSocks5Greeting)
    (hin : h.clientChannel.inputEvb ++ rest = greeting) (hlen : 2 ≤ h.clientChannel.inputEvb.length)
    (hrest : rest ≠ []) : h.consumeClientInput = .error .greetingSize := by
  have hbuf : h.clientChannel.inputEvb = [5, 1] := by
    have htotal := congrArg List.length hin
    have hpos := List.length_pos_iff.mpr hrest
    simp only [List.length_append, greeting, List.length_cons, List.length_nil] at htotal
    have htake := congrArg (List.take h.clientChannel.inputEvb.length) hin
    rw [List.take_left', show h.clientChannel.inputEvb.length = 2 by omega] at htake
    · exact htake
    · rfl
  have hread : h.readSocks5Greeting = .error .greetingSize := by
    simp only [readSocks5Greeting]
    rw [hbuf]
    rfl
  rw [consumeClientInput, consume, if_neg (by rw [hbuf]; exact List.cons_ne_nil _ _), hstate]
  simp only [hread, error_bind]

theorem ofNat_ntohs_htons (port : UInt16) :
    UInt16.ofNat (ntohs (UInt8.ofNat (port.toNat / 256)) (UInt8.ofNat port.toNat)) = port := by
  rw [ntohs_htons port.toNat_lt, UInt16.ofNat_toNat]

/-- **The whole request is taken**, and a stream to its target is asked for. -/
theorem readSocks5ConnectReq_request (hin : h.clientChannel.inputEvb = t.request port) :
    h.readSocks5ConnectReq = .ok ({ h with
      state := .createBufloStream
      clientChannel := h.clientChannel.drain (t.request port).length
      asked := h.asked ++ [⟨cString t.host, port⟩] }, false) := by
  -- an address has four bytes, and a name the length that is before it
  cases t with
  | addr a =>
    have hcString : cString (inetNtop a) = inetNtop a :=
      cString_of_notMem (notMem_inetNtop (by decide) (by decide))
    simp only [readSocks5ConnectReq]
    rw [hin]
    simp only [Target.host, hcString]
    exact congrArg (fun p => Except.ok (({ h with
      state := .createBufloStream
      clientChannel := h.clientChannel.drain 10
      asked := h.asked ++ [⟨inetNtop a, p⟩] } : ClientHandler), false)) (ofNat_ntohs_htons port)
  | name bs hle =>
    have hlen : (UInt8.ofNat bs.length).toNat = bs.length := by
      rw [UInt8.toNat_ofNat']
      omega
    have hname : (bs ++ htons port.toNat).take bs.length = bs := List.take_left
    have hbehind : ∀ i, (bs ++ htons port.toNat).getD (bs.length + i) 0 =
        (htons port.toNat).getD i 0 := fun i => by
      rw [List.getD_append_right _ _ _ _ (Nat.le_add_right _ _), Nat.add_sub_cancel_left]
    have htotal : (5 :: 1 :: 0 :: 3 :: UInt8.ofNat bs.length :: (bs ++ htons port.toNat)).length =
        5 + bs.length + 2 := by
      simp only [List.length_cons, List.length_append, htons, List.length_nil]
      omega
    have hin : h.clientChannel.inputEvb =
        5 :: 1 :: 0 :: 3 :: UInt8.ofNat bs.length :: (bs ++ htons port.toNat) := hin
    have hhi : (5 :: 1 :: 0 :: 3 :: UInt8.ofNat bs.length :: (bs ++ htons port.toNat)).getD
        (5 + bs.length) 0 = UInt8.ofNat (port.toNat / 256) := by
      rw [Nat.add_comm]
      exact hbehind 0
    have hlo : (5 :: 1 :: 0 :: 3 :: UInt8.ofNat bs.length :: (bs ++ htons port.toNat)).getD
        (5 + bs.length + 1) 0 = UInt8.ofNat port.toNat := by
      rw [Nat.add_comm 5, Nat.add_right_comm]
      exact hbehind 1
    have hlen4 : (5 :: 1 :: 0 :: 3 :: UInt8.ofNat bs.length :: (bs ++ htons port.toNat)).getD 4 0 =
        UInt8.ofNat bs.length := rfl
    have hdrop5 : (5 :: 1 :: 0 :: 3 :: UInt8.ofNat bs.length :: (bs ++ htons port.toNat)).drop 5 =
        bs ++ htons port.toNat := rfl
    have htake4 : (5 :: 1 :: 0 :: 3 :: UInt8.ofNat bs.length :: (bs ++ htons port.toNat)).take 4 =
        [5, 1, 0, 3] := rfl
    simp only [readSocks5ConnectReq]
    rw [hin, if_neg (by rw [htotal]; omega), htake4, if_neg (by decide), if_pos rfl,
      check_pos (by rw [htotal]; omega), ok_bind, hlen4, hlen, check_pos htotal, ok_bind, hdrop5,
      hname, hhi, hlo, ofNat_ntohs_htons]
    show _ = Except.ok (({ h with
      state := .createBufloStream
      clientChannel := h.clientChannel.drain _
      asked := h.asked ++ [⟨cString bs, port⟩] } : ClientHandler), false)
    rw [show ((Target.name bs hle).request port).length = 5 + bs.length + 2 from htotal]
    rfl

/-- A request of which the end is missing is not taken. -/
theorem readSocks5ConnectReq_cut {rest : List UInt8}
    (hin : h.clientChannel.inputEvb ++ rest = t.request port)
    (hlen : 4 ≤ h.clientChannel.inputEvb.length) (hrest : rest ≠ []) :
    ∃ e, h.readSocks5ConnectReq = .error e := by
  have hpos := List.length_pos_iff.mpr hrest
  have htotal := congrArg List.length hin
  have htake : h.clientChannel.inputEvb.take 4 = (t.request port).take 4 := by
    rw [← hin, List.take_append_of_le_length hlen]
  have hget : 5 ≤ h.clientChannel.inputEvb.length →
      h.clientChannel.inputEvb.getD 4 0 = (t.request port).getD 4 0 := fun hlen5 => by
    rw [← hin, List.getD_append _ _ _ _ hlen5]
  rw [List.length_append] at htotal
  simp only [readSocks5ConnectReq]
  rw [if_neg (by omega), htake]
  cases t with
  | addr a =>
    have hsize : ((Target.addr a).request port).length = 10 := rfl
    refine ⟨.addrRequestSize, ?_⟩
    rw [if_pos (by rfl), check_neg (by omega), error_bind]
  | name bs hle =>
    have hsize : ((Target.name bs hle).request port).length = 5 + bs.length + 2 := by
      simp only [Target.request, List.length_cons, List.length_append, htons, List.length_nil]
    have hlength : (((Target.name bs hle).request port).getD 4 0).toNat = bs.length := by
      show (UInt8.ofNat bs.length).toNat = _
      rw [UInt8.toNat_ofNat']
      omega
    have htake4 : ((Target.name bs hle).request port).take 4 = [5, 1, 0, 3] := rfl
    rw [htake4, if_neg (by decide), if_pos rfl]
    by_cases hlen5 : 5 ≤ h.clientChannel.inputEvb.length
    · refine ⟨.nameRequestSize, ?_⟩
      rw [check_pos hlen5, ok_bind, hget hlen5, hlength, check_neg (by omega), error_bind]
    · exact ⟨.nameLength, by rw [check_neg hlen5, error_bind]⟩

/-! #### The handler, whatever it waits for -/

/-- **A message of which only the end is missing is not taken.** -/
theorem consume_cut {rest : List UInt8}
    (hin : h.clientChannel.inputEvb ++ rest = (h.expected t port).1)
    (hlen : (h.expected t port).2 ≤ h.clientChannel.inputEvb.length) (hrest : rest ≠ []) :
    ∃ e, h.consumeClientInput = .error e := by
  cases hstate : h.state with
  | readSocks5Greeting =>
    rw [expected, hstate] at hin hlen
    exact ⟨.greetingSize, consume_greeting_cut hstate hin hlen hrest⟩
  | readSocks5ConnectReq =>
    rw [expected, hstate] at hin hlen
    have hne : h.clientChannel.inputEvb ≠ [] := 
      List.ne_nil_of_length_pos (Nat.lt_of_lt_of_le (Nat.zero_lt_succ 3) hlen)
    obtain ⟨e, heq⟩ := readSocks5ConnectReq_cut hin hlen hrest
    exact ⟨e, by rw [consumeClientInput, consume_request 1 hstate hne, heq]; rfl⟩
  | createBufloStream =>
    rw [expected, hstate] at hin
    exact absurd (List.append_eq_nil_iff.mp hin).2 hrest
  | forwarding =>
    rw [expected, hstate] at hin
    exact absurd (List.append_eq_nil_iff.mp hin).2 hrest
  | closed =>
    rw [expected, hstate] at hin
    exact absurd (List.append_eq_nil_iff.mp hin).2 hrest

/-- **The whole request is taken**, and a stream to its target is asked for. -/
theorem consume_whole_request (hstate : h.state = .readSocks5ConnectReq)
    (hin : h.clientChannel.inputEvb = t.request port) :
    h.consumeClientInput = .ok { h with
      state := .createBufloStream
      clientChannel := h.clientChannel.drain (t.request port).length
      asked := h.asked ++ [⟨cString t.host, port⟩] } := by
  have hne : h.clientChannel.inputEvb ≠ [] := by
    rw [hin]
    cases t <;> exact List.cons_ne_nil _ _
  rw [consumeClientInput, consume_request 1 hstate hne, readSocks5ConnectReq_request hin]
  rfl

/-- The stream is created: the client is told. -/
theorem onStreamCreateResult_ok (hstate : h.state = .createBufloStream) (hsid : -1 < h.sid)
    (hin : h.clientChannel.inputEvb = []) :
    h.onStreamCreateResult true = .ok { h with
      clientChannel := h.clientChannel.write requestGranted, state := .forwarding } := by
  have hin : (h.clientChannel.write requestGranted).inputEvb = [] := hin
  rw [onStreamCreateResult, check_pos hstate, ok_bind, if_pos rfl, check_pos hsid, ok_bind]
  simp only
  rw [check_pos hin, ok_bind]
  rfl

end ClientHandler

end ShadowBrowser.Socks
