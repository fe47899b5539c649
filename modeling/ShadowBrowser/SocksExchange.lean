/-
A connector and a handler, with the bytes between them.

What an end has written waits in its output buffer, then in the network, and is handed
to the other end in deliveries of any size.

* `Negotiation`, `step` — the two ends and the mux channel, in any order of events;
* `Whole` — a delivery leaves the handler with a whole message or with too few bytes to
  look at, or brings the connector a whole reply;
* `Phase.step` — an event succeeds exactly when it is `Whole`, and then keeps the phases;
* **`negotiation_agrees`** — the handler asks for one stream, to the connector's target,
  and the connector reports once that it is connected.
-/
import ShadowBrowser.Runs
import ShadowBrowser.Socks

namespace ShadowBrowser.Socks

open Checked Runs

/-- The two ends and the bytes in the network; `gotUp` and `gotDown` are all the bytes that have been
delivered to the handler and to the connector. -/
structure Negotiation where
  conn : Socks5Connector
  hndl : ClientHandler := {}
  up : List UInt8 := []
  down : List UInt8 := []
  gotUp : List UInt8 := []
  gotDown : List UInt8 := []
  created : Bool := false
  deriving DecidableEq, Repr

/-- What can happen: `idAssigned` and `streamCreated` are the callbacks of the mux channel. -/
inductive SocksEvent
  | start
  | connWrites (n : ℕ)
  | hndlReads (n : ℕ)
  | hndlWrites (n : ℕ)
  | connReads (n : ℕ)
  | idAssigned (sid : ℕ)
  | streamCreated
  deriving DecidableEq, Repr

namespace Negotiation

/-- A connector for a target, and a handler, that have not begun. -/
def init (t : Target) (port : UInt16) : Negotiation := { conn := .new port t }

/-- What can happen in a state.  A stream has its id before it is created, and is created once. -/
def Enabled (s : Negotiation) : SocksEvent → Prop
  | .start => s.conn.state = .socks5None
  | .connWrites n => 0 < n ∧ n ≤ s.conn.transport.outputEvb.length
  | .hndlReads n => 0 < n ∧ n ≤ s.up.length
  | .hndlWrites n => 0 < n ∧ n ≤ s.hndl.clientChannel.outputEvb.length
  | .connReads n => 0 < n ∧ n ≤ s.down.length
  | .idAssigned _ => s.hndl.asked ≠ [] ∧ s.hndl.sid = -1
  | .streamCreated => -1 < s.hndl.sid ∧ s.created = false

instance (s : Negotiation) (e : SocksEvent) : Decidable (Enabled s e) := by
  cases e <;> simp only [Enabled] <;> infer_instance

/-- One event. -/
def step (s : Negotiation) : SocksEvent → Except SocksCheck Negotiation
  | .start => do
    let c ← s.conn.startConnecting
    return { s with conn := c }
  | .connWrites n =>
    let out := s.conn.transport.outputEvb
    .ok { s with
      conn := { s.conn with transport := { s.conn.transport with outputEvb := out.drop n } }
      up := s.up ++ out.take n }
  | .hndlReads n => do
    let h ← ClientHandler.observer.onSocketReadcb s.hndl (s.up.take n)
    return { s with hndl := h, up := s.up.drop n, gotUp := s.gotUp ++ s.up.take n }
  | .hndlWrites n =>
    let out := s.hndl.clientChannel.outputEvb
    .ok { s with
      hndl := { s.hndl with clientChannel := { s.hndl.clientChannel with outputEvb := out.drop n } }
      down := s.down ++ out.take n }
  | .connReads n => do
    let c ← Socks5Connector.observer.onSocketReadcb s.conn (s.down.take n)
    return { s with conn := c, down := s.down.drop n, gotDown := s.gotDown ++ s.down.take n }
  | .idAssigned sid => .ok { s with hndl := s.hndl.onStreamIdAssigned sid }
  | .streamCreated => do
    let h ← s.hndl.onStreamCreateResult true
    return { s with hndl := h, created := true }

/-- A step that is taken. -/
def Step (s : Negotiation) (e : SocksEvent) (s' : Negotiation) : Prop :=
  Enabled s e ∧ step s e = .ok s'

/-- Nothing is on its way. -/
def Silent (s : Negotiation) : Prop :=
  s.up = [] ∧ s.conn.transport.outputEvb = [] ∧ s.down = [] ∧ s.hndl.clientChannel.outputEvb = []

/-- A delivery leaves the handler with fewer bytes than it looks at, or with a whole message; the
connector is brought a whole reply. -/
def Whole (t : Target) (port : UInt16) (s : Negotiation) : SocksEvent → Prop
  | .hndlReads n =>
    s.hndl.clientChannel.inputEvb.length + n < (s.hndl.expected t port).2 ∨
      s.hndl.clientChannel.inputEvb.length + n = (s.hndl.expected t port).1.length
  | .connReads n => s.conn.transport.inputEvb.length + n = s.conn.wanted
  | _ => True

instance (t : Target) (port : UInt16) (s : Negotiation) (e : SocksEvent) :
    Decidable (Whole t port s e) := by
  cases e <;> simp only [Whole] <;> infer_instance

/-- The handshake agrees.

* `asked` — the handler has asked for no stream, or for one, to the target;
* `reported` — the connector reports at most once, that it is connected, and not before the stream is
  created;
* `consumed` — then each end has been delivered its side of the handshake, and nothing else, and has
  nothing left of it;
* `waiting`, `answered` — when nothing is on its way, the handler waits for the stream it has asked
  for, or the connector has reported. -/
structure Agreed (t : Target) (port : UInt16) (s : Negotiation) : Prop where
  asked : s.hndl.asked = [] ∨ s.hndl.asked = [⟨t.host, port⟩]
  reported : s.conn.results = [] ∨ s.conn.results = [.ok] ∧ s.created = true ∧
    s.hndl.asked = [⟨t.host, port⟩]
  consumed : s.conn.results ≠ [] → s.Silent ∧
    s.gotUp = greeting ++ t.request port ∧ s.hndl.clientChannel.inputEvb = [] ∧
    s.gotDown = greetingResp ++ requestGranted ∧ s.conn.transport.inputEvb = []
  waiting : s.conn.state ≠ .socks5None → s.Silent → s.created = false →
    s.hndl.state = .createBufloStream ∧ s.hndl.asked = [⟨t.host, port⟩]
  answered : s.Silent → s.created = true → s.conn.results = [.ok]

/-! ### The phases -/

/-- How far the handshake is, with what is known of the bytes on their way. -/
inductive Phase (t : Target) (port : UInt16) : Negotiation → Prop
  | fresh : Phase t port (init t port)
  | greeting (x u o : List UInt8) (h : x ++ (u ++ o) = greeting) (hx : x.length < 2) :
    Phase t port {
      conn := { Socks5Connector.new port t with
        state := .socks5Greeting, transport := { outputEvb := o } }
      hndl := { clientChannel := { inputEvb := x } }
      up := u
      gotUp := x }
  | greeted (d o : List UInt8) (h : d ++ o = greetingResp) :
    Phase t port {
      conn := { Socks5Connector.new port t with state := .socks5Greeting }
      hndl := { state := .readSocks5ConnectReq, clientChannel := { outputEvb := o } }
      down := d
      gotUp := Socks.greeting }
  | asking (x u o : List UInt8) (h : x ++ (u ++ o) = t.request port) (hx : x.length < 4) :
    Phase t port {
      conn := { Socks5Connector.new port t with
        state := .socks5ReadRespNext, transport := { outputEvb := o } }
      hndl := { state := .readSocks5ConnectReq, clientChannel := { inputEvb := x } }
      up := u
      gotUp := Socks.greeting ++ x
      gotDown := greetingResp }
  | asked (sid : ℤ) :
    Phase t port {
      conn := { Socks5Connector.new port t with state := .socks5ReadRespNext }
      hndl := { state := .createBufloStream, sid, asked := [⟨t.host, port⟩] }
      gotUp := Socks.greeting ++ t.request port
      gotDown := greetingResp }
  | granted (sid : ℤ) (d o : List UInt8) (h : d ++ o = requestGranted) :
    Phase t port {
      conn := { Socks5Connector.new port t with state := .socks5ReadRespNext }
      hndl := { state := .forwarding, sid, asked := [⟨t.host, port⟩],
                clientChannel := { outputEvb := o } }
      down := d
      gotUp := Socks.greeting ++ t.request port
      gotDown := greetingResp
      created := true }
  | connected (sid : ℤ) :
    Phase t port {
      conn := { Socks5Connector.new port t with state := .socks5Done, results := [.ok] }
      hndl := { state := .forwarding, sid, asked := [⟨t.host, port⟩] }
      gotUp := Socks.greeting ++ t.request port
      gotDown := greetingResp ++ requestGranted
      created := true }

variable {t : Target} {port : UInt16} {s : Negotiation} {n : ℕ}

/-- A message of which the first bytes have arrived, some more, and those that are to come. -/
theorem drop_arrived {x u o msg : List UInt8} (h : x ++ (u ++ o) = msg) (n : ℕ) :
    (x ++ u.take n) ++ (u.drop n ++ o) = msg := by
  rw [List.append_assoc, ← List.append_assoc (u.take n), List.take_append_drop, h]

/-- What is written leaves the output buffer for the network. -/
theorem take_written {u o msg : List UInt8} (h : u ++ o = msg) (n : ℕ) :
    (u ++ o.take n) ++ o.drop n = msg := by
  rw [List.append_assoc, List.take_append_drop, h]

theorem Phase.start_step (h : Phase t port s) (hen : Enabled s .start) :
    ∃ s', step s .start = .ok s' ∧ Phase t port s' := by
  cases h with
  | fresh =>
    exact ⟨_, rfl, .greeting [] [] Socks.greeting rfl Nat.zero_lt_two⟩
  | greeting => cases hen
  | greeted => cases hen
  | asking => cases hen
  | asked => cases hen
  | granted => cases hen
  | connected => cases hen

theorem Phase.connWrites_step (h : Phase t port s) (hen : Enabled s (.connWrites n)) :
    ∃ s', step s (.connWrites n) = .ok s' ∧ Phase t port s' := by
  obtain ⟨hpos, hle⟩ := hen
  have hne : s.conn.transport.outputEvb ≠ [] := fun hnil => by
    rw [hnil] at hle
    exact absurd hle (Nat.not_le_of_gt hpos)
  cases h with
  | fresh => exact absurd rfl hne
  | greeting x u o hmsg hx =>
    refine ⟨_, rfl, .greeting x (u ++ o.take n) (o.drop n) ?_ hx⟩
    rw [take_written rfl, hmsg]
  | greeted => exact absurd rfl hne
  | asking x u o hmsg hx =>
    refine ⟨_, rfl, .asking x (u ++ o.take n) (o.drop n) ?_ hx⟩
    rw [take_written rfl, hmsg]
  | asked => exact absurd rfl hne
  | granted => exact absurd rfl hne
  | connected => exact absurd rfl hne

theorem Phase.hndlWrites_step (h : Phase t port s) (hen : Enabled s (.hndlWrites n)) :
    ∃ s', step s (.hndlWrites n) = .ok s' ∧ Phase t port s' := by
  obtain ⟨hpos, hle⟩ := hen
  have hne : s.hndl.clientChannel.outputEvb ≠ [] := fun hnil => by
    rw [hnil] at hle
    exact absurd hle (Nat.not_le_of_gt hpos)
  cases h with
  | fresh => exact absurd rfl hne
  | greeting => exact absurd rfl hne
  | greeted d o hmsg => exact ⟨_, rfl, .greeted (d ++ o.take n) (o.drop n) (take_written hmsg n)⟩
  | asking => exact absurd rfl hne
  | asked => exact absurd rfl hne
  | granted sid d o hmsg =>
    exact ⟨_, rfl, .granted sid (d ++ o.take n) (o.drop n) (take_written hmsg n)⟩
  | connected => exact absurd rfl hne

theorem Phase.idAssigned_step {sid : ℕ} (h : Phase t port s) (hen : Enabled s (.idAssigned sid)) :
    ∃ s', step s (.idAssigned sid) = .ok s' ∧ Phase t port s' := by
  obtain ⟨hne, -⟩ := hen
  cases h with
  | fresh => exact absurd rfl hne
  | greeting => exact absurd rfl hne
  | greeted => exact absurd rfl hne
  | asking => exact absurd rfl hne
  | asked sid' => exact ⟨_, rfl, .asked sid⟩
  | granted sid' d o hmsg => exact ⟨_, rfl, .granted sid d o hmsg⟩
  | connected sid' => exact ⟨_, rfl, .connected sid⟩

theorem Phase.streamCreated_step (h : Phase t port s) (hen : Enabled s .streamCreated) :
    ∃ s', step s .streamCreated = .ok s' ∧ Phase t port s' := by
  obtain ⟨hsid, hfresh⟩ := hen
  cases h with
  | fresh => exact absurd hsid (Int.lt_irrefl _)
  | greeting => exact absurd hsid (Int.lt_irrefl _)
  | greeted => exact absurd hsid (Int.lt_irrefl _)
  | asking => exact absurd hsid (Int.lt_irrefl _)
  | asked sid =>
    refine ⟨_, ?_, .granted sid [] requestGranted rfl⟩
    show ClientHandler.onStreamCreateResult true _ >>= _ = _
    rw [ClientHandler.onStreamCreateResult_ok rfl hsid rfl]
    rfl
  | granted => cases hfresh
  | connected => cases hfresh

/-- What the handler does with a delivery. -/
theorem hndl_reads {h : ClientHandler} {bs : List UInt8} (hne : bs ≠ [])
    (hidle : h.clientChannel.inputDrop.numRemaining = 0) (hlw : h.clientChannel.readLwMark = 0) :
    ClientHandler.observer.onSocketReadcb h bs = ClientHandler.consumeClientInput { h with
      clientChannel := { h.clientChannel with inputEvb := h.clientChannel.inputEvb ++ bs } } := by
  rw [StreamObserver.onSocketReadcb_of_idle _ hidle hne, StreamObserver.evbufferRead]
  show (if h.clientChannel.readLwMark ≤ _ then _ else _) = _
  rw [hlw, if_pos (Nat.zero_le _)]
  rfl

/-- What the connector does with a delivery. -/
theorem conn_reads {c : Socks5Connector} {bs : List UInt8} (hne : bs ≠ [])
    (hidle : c.transport.inputDrop.numRemaining = 0) (hlw : c.transport.readLwMark = 0) :
    Socks5Connector.observer.onSocketReadcb c bs = Socks5Connector.consumeInput { c with
      transport := { c.transport with inputEvb := c.transport.inputEvb ++ bs } } := by
  rw [StreamObserver.onSocketReadcb_of_idle _ hidle hne, StreamObserver.evbufferRead]
  show (if c.transport.readLwMark ≤ _ then _ else _) = _
  rw [hlw, if_pos (Nat.zero_le _)]
  rfl

/-- A delivery of `n` bytes that are in the network. -/
theorem take_ne_nil {u : List UInt8} (hpos : 0 < n) (hle : n ≤ u.length) : u.take n ≠ [] := by
  refine List.ne_nil_of_length_pos ?_
  rw [List.length_take, Nat.min_eq_left hle]
  exact hpos

/-- A message has arrived when as many bytes have. -/
theorem arrived {y rest msg : List UInt8} (h : y ++ rest = msg) (hlen : y.length = msg.length) :
    y = msg ∧ rest = [] := by
  have hnil : rest = [] := by
    refine List.eq_nil_of_length_eq_zero ?_
    have := congrArg List.length h
    rw [List.length_append] at this
    omega
  rw [hnil, List.append_nil] at h
  exact ⟨h, hnil⟩

/-- A delivery that leaves a message cut fails an assertion of the handler. -/
theorem hndlReads_cut {rest : List UInt8} (hen : Enabled s (.hndlReads n))
    (hidle : s.hndl.clientChannel.inputDrop.numRemaining = 0)
    (hlw : s.hndl.clientChannel.readLwMark = 0)
    (hin : (s.hndl.clientChannel.inputEvb ++ s.up.take n) ++ rest = (s.hndl.expected t port).1)
    (hnot : ¬ Whole t port s (.hndlReads n)) : ∃ e, step s (.hndlReads n) = .error e := by
  have hlen : (s.hndl.clientChannel.inputEvb ++ s.up.take n).length =
      s.hndl.clientChannel.inputEvb.length + n := by
    rw [List.length_append, List.length_take, Nat.min_eq_left hen.2]
  have hlong : (s.hndl.expected t port).2 ≤ s.hndl.clientChannel.inputEvb.length + n :=
    Nat.le_of_not_lt fun hlt => hnot (.inl hlt)
  have hrest : rest ≠ [] := fun hnil => hnot (.inr (by
    rw [← hlen, ← hin, hnil, List.append_nil]))
  obtain ⟨e, heq⟩ := ClientHandler.consume_cut (h := { s.hndl with clientChannel :=
    { s.hndl.clientChannel with inputEvb := s.hndl.clientChannel.inputEvb ++ s.up.take n } })
    hin (by rw [← hlen] at hlong; exact hlong) hrest
  refine ⟨e, ?_⟩
  show ClientHandler.observer.onSocketReadcb s.hndl (s.up.take n) >>= _ = _
  rw [hndl_reads (take_ne_nil hen.1 hen.2) hidle hlw, heq, error_bind]

/-- **The handler reads.**  It goes on exactly when the delivery cuts no message. -/
theorem Phase.hndlReads_step (h : Phase t port s) (ht : t.Configurable)
    (hen : Enabled s (.hndlReads n)) :
    (Whole t port s (.hndlReads n) → ∃ s', step s (.hndlReads n) = .ok s' ∧ Phase t port s') ∧
      (¬ Whole t port s (.hndlReads n) → ∃ e, step s (.hndlReads n) = .error e) := by
  have hup : s.up ≠ [] := List.ne_nil_of_length_pos (Nat.lt_of_lt_of_le hen.1 hen.2)
  have hne := take_ne_nil hen.1 hen.2
  have hlen : ∀ x : List UInt8, (x ++ s.up.take n).length = x.length + n := fun x => by
    rw [List.length_append, List.length_take, Nat.min_eq_left hen.2]
  -- only the greeting and the request are on their way to the handler
  cases h with
  | fresh => exact absurd rfl hup
  | greeting x u o hmsg hx =>
    have hmsg' := drop_arrived hmsg n
    refine ⟨?_, hndlReads_cut hen rfl rfl hmsg'⟩
    -- the message is read short, or as a whole; behind it nothing has been sent
    rintro (hshort | hwhole)
    · refine ⟨_, ?_, .greeting (x ++ u.take n) (u.drop n) o hmsg' ((hlen x).trans_lt hshort)⟩
      show ClientHandler.observer.onSocketReadcb _ (u.take n) >>= _ = _
      rw [hndl_reads hne rfl rfl,
        ClientHandler.consume_short t port ((hlen x).trans_lt hshort)]
      rfl
    · obtain ⟨hall, hrest⟩ := arrived hmsg' ((hlen x).trans hwhole)
      obtain ⟨hu, rfl⟩ := List.append_eq_nil_iff.mp hrest
      refine ⟨_, ?_, .greeted [] greetingResp rfl⟩
      show ClientHandler.observer.onSocketReadcb _ (u.take n) >>= _ = _
      rw [hndl_reads hne rfl rfl, ClientHandler.consume_greeting rfl hall]
      simp only [ok_bind, hu, hall]
      rfl
  | greeted => exact absurd rfl hup
  | asking x u o hmsg hx =>
    have hmsg' := drop_arrived hmsg n
    refine ⟨?_, hndlReads_cut hen rfl rfl hmsg'⟩
    rintro (hshort | hwhole)
    · refine ⟨_, ?_, .asking (x ++ u.take n) (u.drop n) o hmsg' ((hlen x).trans_lt hshort)⟩
      show ClientHandler.observer.onSocketReadcb _ (u.take n) >>= _ = _
      rw [hndl_reads hne rfl rfl,
        ClientHandler.consume_short t port ((hlen x).trans_lt hshort)]
      simp only [ok_bind, List.append_assoc]
      rfl
    · obtain ⟨hall, hrest⟩ := arrived hmsg' ((hlen x).trans hwhole)
      obtain ⟨hu, rfl⟩ := List.append_eq_nil_iff.mp hrest
      refine ⟨_, ?_, .asked (-1)⟩
      show ClientHandler.observer.onSocketReadcb _ (u.take n) >>= _ = _
      rw [hndl_reads hne rfl rfl, ClientHandler.consume_whole_request rfl hall, cString_host ht]
      simp only [ok_bind, hu, TcpChannel.drain, List.append_assoc, hall, List.drop_length]
      rfl
  | asked => exact absurd rfl hup
  | granted => exact absurd rfl hup
  | connected => exact absurd rfl hup

theorem connReads_ok {c : Socks5Connector}
    (h : Socks5Connector.observer.onSocketReadcb s.conn (s.down.take n) = .ok c) :
    step s (.connReads n) = .ok { s with
      conn := c, down := s.down.drop n, gotDown := s.gotDown ++ s.down.take n } := by
  simp only [step, h, ok_bind, pure_eq_ok]

/-- A delivery of less than the reply fails an assertion of the connector. -/
theorem connReads_cut (rest : List UInt8) (hen : Enabled s (.connReads n))
    (hidle : s.conn.transport.inputDrop.numRemaining = 0) (hlw : s.conn.transport.readLwMark = 0)
    (hin : (s.conn.transport.inputEvb ++ s.down.take n).length + rest.length = s.conn.wanted)
    (hnot : ¬ Whole t port s (.connReads n)) : ∃ e, step s (.connReads n) = .error e := by
  have hlen : (s.conn.transport.inputEvb ++ s.down.take n).length =
      s.conn.transport.inputEvb.length + n := by
    rw [List.length_append, List.length_take, Nat.min_eq_left hen.2]
  have hne : s.conn.transport.inputEvb.length + n ≠ s.conn.wanted := hnot
  obtain ⟨e, heq⟩ := Socks5Connector.consumeInput_cut (c := { s.conn with transport :=
    { s.conn.transport with inputEvb := s.conn.transport.inputEvb ++ s.down.take n } })
    (show (s.conn.transport.inputEvb ++ s.down.take n).length < s.conn.wanted by omega)
  refine ⟨e, ?_⟩
  show Socks5Connector.observer.onSocketReadcb s.conn (s.down.take n) >>= _ = _
  rw [conn_reads (take_ne_nil hen.1 hen.2) hidle hlw, heq, error_bind]

/-- **The connector reads.**  It goes on exactly when the delivery is a whole reply. -/
theorem Phase.connReads_step (h : Phase t port s) (ht : t.Configurable)
    (hen : Enabled s (.connReads n)) :
    (Whole t port s (.connReads n) → ∃ s', step s (.connReads n) = .ok s' ∧ Phase t port s') ∧
      (¬ Whole t port s (.connReads n) → ∃ e, step s (.connReads n) = .error e) := by
  have hdown : s.down ≠ [] := List.ne_nil_of_length_pos (Nat.lt_of_lt_of_le hen.1 hen.2)
  have hne := take_ne_nil hen.1 hen.2
  have hlen : (s.down.take n).length = n := by rw [List.length_take, Nat.min_eq_left hen.2]
  -- only the two answers are on their way to the connector
  cases h with
  | fresh => exact absurd rfl hdown
  | greeting => exact absurd rfl hdown
  | greeted d o hmsg =>
    have hmsg' : d.take n ++ (d.drop n ++ o) = greetingResp := drop_arrived (x := []) hmsg n
    -- an answer is read as a whole, or an assertion fails
    refine ⟨fun hwhole => ?_, connReads_cut (d.drop n ++ o) hen rfl rfl ?_⟩
    · have hn : n = 2 := (Nat.zero_add n).symm.trans hwhole
      obtain ⟨hall, hrest⟩ := arrived hmsg' (hlen.trans hn)
      obtain ⟨hd, rfl⟩ := List.append_eq_nil_iff.mp hrest
      have hreq := Socks5Connector.consumeInput_greetingResp (t := t)
        (c := { Socks5Connector.new port t with
          state := .socks5Greeting, transport := { inputEvb := d.take n } }) ⟨rfl, rfl, rfl⟩ ht rfl hall
      refine ⟨_, connReads_ok ((conn_reads hne rfl rfl).trans hreq), ?_⟩
      simp only [hd, hall]
      exact .asking [] [] (t.request port) rfl (Nat.zero_lt_succ 3)
    · rw [← List.length_append]
      exact congrArg List.length hmsg'
  | asking => exact absurd rfl hdown
  | asked => exact absurd rfl hdown
  | granted sid d o hmsg =>
    have hmsg' : d.take n ++ (d.drop n ++ o) = requestGranted := drop_arrived (x := []) hmsg n
    refine ⟨fun hwhole => ?_, connReads_cut (d.drop n ++ o) hen rfl rfl ?_⟩
    · have hn : n = 10 := (Nat.zero_add n).symm.trans hwhole
      obtain ⟨hall, hrest⟩ := arrived hmsg' (hlen.trans hn)
      obtain ⟨hd, rfl⟩ := List.append_eq_nil_iff.mp hrest
      have hdone := Socks5Connector.consumeInput_requestGranted
        (c := { Socks5Connector.new port t with
          state := .socks5ReadRespNext, transport := { inputEvb := d.take n } }) rfl hall
      refine ⟨_, connReads_ok ((conn_reads hne rfl rfl).trans hdone), ?_⟩
      simp only [hd, hall]
      exact .connected sid
    · rw [← List.length_append]
      exact congrArg List.length hmsg'
  | connected => exact absurd rfl hdown

/-- **An event succeeds exactly when it is whole**, and the handshake stays in its phases. -/
theorem Phase.step {e : SocksEvent} (h : Phase t port s) (ht : t.Configurable) (hen : Enabled s e) :
    (Whole t port s e → ∃ s', Negotiation.step s e = .ok s' ∧ Phase t port s') ∧
      (¬ Whole t port s e → ∃ e', Negotiation.step s e = .error e') := by
  have halways : (∃ s', Negotiation.step s e = .ok s' ∧ Phase t port s') → Whole t port s e →
      (Whole t port s e → ∃ s', Negotiation.step s e = .ok s' ∧ Phase t port s') ∧
        (¬ Whole t port s e → ∃ e', Negotiation.step s e = .error e') :=
    fun hstep hwhole => ⟨fun _ => hstep, fun hnot => absurd hwhole hnot⟩
  cases e with
  | start => exact halways (h.start_step hen) trivial
  | connWrites n => exact halways (h.connWrites_step hen) trivial
  | hndlReads n => exact h.hndlReads_step ht hen
  | hndlWrites n => exact halways (h.hndlWrites_step hen) trivial
  | connReads n => exact h.connReads_step ht hen
  | idAssigned sid => exact halways (h.idAssigned_step hen) trivial
  | streamCreated => exact halways (h.streamCreated_step hen) trivial

/-- In each of its phases the handshake agrees. -/
theorem Phase.agreed (h : Phase t port s) : s.Agreed t port := by
  -- in each phase but the last something is on its way, or the connector waits for an answer
  cases h with
  | fresh =>
    exact ⟨.inl rfl, .inl rfl, fun hne => absurd rfl hne, fun hne => absurd rfl hne,
      fun _ hcreated => absurd hcreated Bool.false_ne_true⟩
  | greeting x u o hmsg hx =>
    refine ⟨.inl rfl, .inl rfl, fun hne => absurd rfl hne, fun _ hsilent => ?_,
      fun _ hcreated => absurd hcreated Bool.false_ne_true⟩
    obtain ⟨rfl, rfl, -⟩ : u = [] ∧ o = [] ∧ _ := hsilent
    rw [List.append_nil, List.append_nil] at hmsg
    rw [hmsg] at hx
    exact absurd hx (by decide)
  | greeted d o hmsg =>
    refine ⟨.inl rfl, .inl rfl, fun hne => absurd rfl hne, fun _ hsilent => ?_,
      fun _ hcreated => absurd hcreated Bool.false_ne_true⟩
    obtain ⟨-, -, rfl, rfl⟩ : _ ∧ _ ∧ d = [] ∧ o = [] := hsilent
    exact absurd hmsg (by decide)
  | asking x u o hmsg hx =>
    refine ⟨.inl rfl, .inl rfl, fun hne => absurd rfl hne, fun _ hsilent => ?_,
      fun _ hcreated => absurd hcreated Bool.false_ne_true⟩
    obtain ⟨rfl, rfl, -⟩ : u = [] ∧ o = [] ∧ _ := hsilent
    rw [List.append_nil, List.append_nil] at hmsg
    rw [hmsg] at hx
    cases t with
    | addr a => exact absurd hx (Nat.not_lt_of_le (Nat.le_add_left 4 6))
    | name bs hle => exact absurd hx (Nat.not_lt_of_le (Nat.le_add_left 4 _))
  | asked sid =>
    exact ⟨.inr rfl, .inl rfl, fun hne => absurd rfl hne, fun _ _ _ => ⟨rfl, rfl⟩,
      fun _ hcreated => absurd hcreated Bool.false_ne_true⟩
  | granted sid d o hmsg =>
    refine ⟨.inr rfl, .inl rfl, fun hne => absurd rfl hne,
      fun _ _ hcreated => absurd hcreated.symm Bool.false_ne_true, fun hsilent _ => ?_⟩
    obtain ⟨-, -, rfl, rfl⟩ : _ ∧ _ ∧ d = [] ∧ o = [] := hsilent
    exact absurd hmsg (by decide)
  | connected sid =>
    exact ⟨.inr rfl, .inr ⟨rfl, rfl, rfl⟩, fun _ => ⟨⟨rfl, rfl, rfl, rfl⟩, rfl, rfl, rfl, rfl⟩,
      fun _ _ hcreated => absurd hcreated.symm Bool.false_ne_true, fun _ _ => rfl⟩

/-! ### All runs -/

theorem phase_of_run {es : List SocksEvent} (ht : t.Configurable)
    (h : Run (Guarded (Whole t port) Step) (init t port) es s) : Phase t port s := by
  refine h.invariant ?_ .fresh
  rintro s e s' hphase ⟨hwhole, hen, hstep⟩
  obtain ⟨s₁, heq, hnext⟩ := (hphase.step ht hen).1 hwhole
  cases hstep.symm.trans heq
  exact hnext

/-- **The handshake.**  In every run whose deliveries are whole the two ends agree, in every state, and
no assertion fails.  A delivery that is not whole fails one, in each of these states. -/
theorem negotiation_agrees {es : List SocksEvent} (ht : t.Configurable)
    (h : Run (Guarded (Whole t port) Step) (init t port) es s) :
    s.Agreed t port ∧
      ∀ e, Enabled s e → ((∃ s', step s e = .ok s') ↔ Whole t port s e) := by
  have hphase := phase_of_run ht h
  refine ⟨hphase.agreed, fun e hen => ⟨fun ⟨s', heq⟩ => ?_, fun hwhole => ?_⟩⟩
  · by_contra hnot
    obtain ⟨e', herror⟩ := (hphase.step ht hen).2 hnot
    rw [heq] at herror
    cases herror
  · obtain ⟨s', heq, -⟩ := (hphase.step ht hen).1 hwhole
    exact ⟨s', heq⟩

/-- A name of three bytes; the greeting arrives in two deliveries, of which the first is one byte, and
so does the request, after three bytes. -/
def handshake : List SocksEvent :=
  [.start, .connWrites 2, .hndlReads 1, .connWrites 1, .hndlReads 2, .hndlWrites 2, .connReads 2,
   .connWrites 10, .hndlReads 3, .hndlReads 7, .idAssigned 1, .streamCreated, .hndlWrites 10,
   .connReads 10]

/-- The connector has reported. -/
theorem negotiation_agrees_handshake :
    ∃ s, Run (Guarded (Whole (.name [97, 46, 98] (by decide)) 443) Step)
        (init (.name [97, 46, 98] (by decide)) 443) handshake s ∧
      s.Agreed (.name [97, 46, 98] (by decide)) 443 ∧ s.conn.results = [.ok] := by
  obtain ⟨s, hexec, hs⟩ := exists_of_returns
    (x := exec (guardedStep (fun s e => Whole (.name [97, 46, 98] (by decide)) 443 s e ∧ Enabled s e)
      .outOfFuel step) (init (.name [97, 46, 98] (by decide)) 443) handshake)
    (p := fun s => decide (s.conn.results = [.ok]))
    (by decide +kernel)
  have hrun : Run (Guarded (Whole (.name [97, 46, 98] (by decide)) 443) Step)
      (init (.name [97, 46, 98] (by decide)) 443) handshake s :=
    (run_of_exec_guarded hexec).mono fun _ _ _ hstep => ⟨hstep.1.1, hstep.1.2, hstep.2⟩
  exact ⟨s, hrun, (negotiation_agrees (by decide) hrun).1, of_decide_eq_true hs⟩

/-- The first two bytes of the greeting are delivered alone: the handler aborts. -/
theorem negotiation_cut_fails :
    ∃ s, Run Step (init (.name [97, 46, 98] (by decide)) 443) [.start, .connWrites 3] s ∧
      Enabled s (.hndlReads 2) ∧ step s (.hndlReads 2) = .error .greetingSize := by
  refine ⟨_, .cons ⟨rfl, rfl⟩ (.cons ⟨⟨by decide, by decide⟩, rfl⟩ (.nil _)), ?_, ?_⟩
  · decide +kernel
  · decide +kernel

end Negotiation

end ShadowBrowser.Socks
