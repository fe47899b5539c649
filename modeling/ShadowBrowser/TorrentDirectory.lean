/-
The torrent directory.

The torrent authority keeps a list of the servers that have registered with it and a list of the
clients that have asked for nodes.  A client gets one reply with all servers known then, and a
notification for each server that registers later; both are a count byte and that many nodes, an
address and a port each.  The client decodes them from whatever one read returns.

`Directory κ` is the authority with its connections, which `κ` names, and the servers and clients at
their other ends; the channels between them are queues of bytes, and a read takes any number of
bytes from the front of one.

* `receiveNodes_encode` — what a client learns from one whole message;
* `Inv.step` — what each step preserves;
* **`directory_agrees`** — once every byte sent has been received, each client knows the servers.
-/
import Mathlib.Data.Int.Notation
import Mathlib.Data.List.Nodup
import ShadowBrowser.Runs

namespace ShadowBrowser

open Checked Runs

namespace Torrent

/-- An `in_addr_t`, as it lies in memory. -/
abbrev InAddr := Vector UInt8 4

/-- An `in_port_t`, as it lies in memory. -/
abbrev InPort := Vector UInt8 2

/-- What a server is known by. -/
abbrev Node := InAddr × InPort

/-- A buffer on the stack after a read: the bytes read, and behind them what was there before. -/
def received (bytes : List UInt8) (stale : ℕ → UInt8) (i : ℕ) : UInt8 :=
  bytes[i]?.getD (stale i)

/-- `memcpy(&v, buf + offset, sizeof(v))`. -/
def memcpy (n : ℕ) (buf : ℕ → UInt8) (offset : ℕ) : Vector UInt8 n :=
  Vector.ofFn fun i => buf (offset + i)

/-! ### The authority -/

/-- `TA_MSG_REGISTER`. -/
def taMsgRegister : UInt8 := 1

/-- `TA_MSG_REQUEST_NODES`. -/
def taMsgRequestNodes : UInt8 := 2

/-- The size of the authority's buffer. -/
def taBufSize : ℕ := 4096

/-- `TorrentAuthority_Connection`. -/
structure Connection where
  addr : InAddr
  serverPort : InPort := Vector.replicate 2 0

/-- The node that a connection stands for. -/
def Connection.node (c : Connection) : Node := (c.addr, c.serverPort)

/-- `TorrentAuthority`; the connections are those it has accepted. -/
structure Authority (κ : Type) where
  connections : κ → Connection
  servers : List κ := []
  clients : List κ := []

/-- The memory of an address and a port, one after the other. -/
def nodeBytes (p : Node) : List UInt8 := p.1.toList ++ p.2.toList

/-- A count byte and the nodes: a reply, or a notification of one node. -/
def encode (nodes : List Node) : List UInt8 :=
  UInt8.ofNat nodes.length :: nodes.flatMap nodeBytes

/-- What can go wrong in a step. -/
inductive DirectoryCheck
  | notEnabled
  /-- The reply does not fit in the authority's buffer. -/
  | bufferOverrun
  deriving DecidableEq, Repr

variable {κ : Type} [DecidableEq κ]

/-- `send` of the same bytes to some connections, one after the other. -/
def sendAll (channels : κ → List UInt8) (dests : List κ) (bytes : List UInt8) : κ → List UInt8 :=
  dests.foldl (fun ch k => Function.update ch k (ch k ++ bytes)) channels

/-- `torrentAuthority_activate`, on a connection from which `buffer` has been received.  The channels
are those from the authority to its connections. -/
def Authority.activate (ta : Authority κ) (channels : κ → List UInt8) (sockd : κ)
    (buffer : ℕ → UInt8) : Except DirectoryCheck (Authority κ × (κ → List UInt8)) :=
  if buffer 0 = taMsgRegister then
    let connection := { ta.connections sockd with serverPort := memcpy 2 buffer 1 }
    -- the new node alone is told to all clients
    .ok ({ ta with
        connections := Function.update ta.connections sockd connection
        servers := ta.servers ++ [sockd] },
      sendAll channels ta.clients (1 :: nodeBytes connection.node))
  else if buffer 0 = taMsgRequestNodes then do
    let reply := encode (ta.servers.map fun k => (ta.connections k).node)
    check (reply.length ≤ taBufSize) .bufferOverrun
    -- a client is sent all nodes once, and then each new one
    return ({ ta with clients := ta.clients ++ [sockd] }, sendAll channels [sockd] reply)
  else
    .ok (ta, channels)

/-! ### The ends of the connections -/

/-- The states of a server's connection to the authority. -/
inductive ServerState
  | authRegister | authIdle
  deriving DecidableEq, Repr

/-- The states of a client's connection to the authority. -/
inductive ClientState
  | authRequestNodes | authReceiveNodes
  deriving DecidableEq, Repr

/-- Who is at the other end of a connection to the authority: a `TorrentServer`, or a `TorrentClient`
with the nodes in its `servers`. -/
inductive Peer
  | server (state : ServerState) (serverPort : InPort)
  | client (state : ClientState) (servers : List Node)
  deriving DecidableEq

/-- The client looks a node up among those it knows, and appends it when it is not there. -/
def learn (servers : List Node) (p : Node) : List Node :=
  if p ∈ servers then servers else servers ++ [p]

/-- The loop of `TC_AUTH_RECEIVE_NODES` over the nodes in a message. -/
def receiveNodes (buf : ℕ → UInt8) : ℕ → ℕ → List Node → List Node
  | 0, _, servers => servers
  | i + 1, offset, servers =>
    receiveNodes buf i (offset + 6) (learn servers (memcpy 4 buf offset, memcpy 2 buf (offset + 4)))

/-- `gint numNodes = buf[0]`: a `gchar` is signed. -/
def numNodes (buf : ℕ → UInt8) : ℤ := (buf 0).toInt8.toInt

/-- The nodes that a client knows after `TC_AUTH_RECEIVE_NODES`.  A loop up to a negative number does
not start. -/
def authReceiveNodes (buf : ℕ → UInt8) (servers : List Node) : List Node :=
  receiveNodes buf (numNodes buf).toNat 1 servers

/-- The number of bytes that a client asks `recv` for. -/
def tcRecvSize : ℕ := 1024

/-! ### The directory -/

/-- The authority, its connections and what is at their other ends. -/
structure Directory (κ : Type) where
  authority : Authority κ
  peers : κ → Peer
  /-- The bytes on their way to the authority. -/
  toAuthority : κ → List UInt8 := fun _ => []
  /-- The bytes on their way from the authority. -/
  toPeer : κ → List UInt8 := fun _ => []

/-- A connection can be written to, or `n` bytes are read from it into a buffer with old contents. -/
inductive DirectoryEvent (κ : Type)
  | peerWritable (k : κ)
  | authorityReads (k : κ) (n : ℕ) (stale : ℕ → UInt8)
  | clientReads (k : κ) (n : ℕ) (stale : ℕ → UInt8)

namespace Directory

variable {s s' s₀ : Directory κ}

/-- The parts of `torrentServer_activate` and `torrentClient_activate` that send to the authority. -/
def peerWritable (s : Directory κ) (k : κ) : Except DirectoryCheck (Directory κ) :=
  match s.peers k with
  | .server .authRegister port =>
    .ok { s with
      toAuthority := Function.update s.toAuthority k (s.toAuthority k ++ taMsgRegister :: port.toList)
      peers := Function.update s.peers k (.server .authIdle port) }
  | .client .authRequestNodes servers =>
    .ok { s with
      toAuthority := Function.update s.toAuthority k (s.toAuthority k ++ [taMsgRequestNodes])
      peers := Function.update s.peers k (.client .authReceiveNodes servers) }
  | _ => .error .notEnabled

/-- The authority receives `n` bytes from a connection. -/
def authorityReads (s : Directory κ) (k : κ) (n : ℕ) (stale : ℕ → UInt8) :
    Except DirectoryCheck (Directory κ) := do
  check (0 < n ∧ n ≤ (s.toAuthority k).length ∧ n ≤ taBufSize) .notEnabled
  let x ← s.authority.activate s.toPeer k (received ((s.toAuthority k).take n) stale)
  return { s with
    authority := x.1
    toPeer := x.2
    toAuthority := Function.update s.toAuthority k ((s.toAuthority k).drop n) }

/-- A client receives `n` bytes from the authority. -/
def clientReads (s : Directory κ) (k : κ) (n : ℕ) (stale : ℕ → UInt8) :
    Except DirectoryCheck (Directory κ) :=
  match s.peers k with
  | .client .authReceiveNodes servers => do
    check (0 < n ∧ n ≤ (s.toPeer k).length ∧ n ≤ tcRecvSize) .notEnabled
    let buf := received ((s.toPeer k).take n) stale
    return { s with
      toPeer := Function.update s.toPeer k ((s.toPeer k).drop n)
      peers := Function.update s.peers k (.client .authReceiveNodes (authReceiveNodes buf servers)) }
  | _ => .error .notEnabled

/-- One step. -/
def step (s : Directory κ) : DirectoryEvent κ → Except DirectoryCheck (Directory κ)
  | .peerWritable k => s.peerWritable k
  | .authorityReads k n stale => s.authorityReads k n stale
  | .clientReads k n stale => s.clientReads k n stale

/-- The step goes through. -/
def Step (s : Directory κ) (e : DirectoryEvent κ) (t : Directory κ) : Prop := s.step e = .ok t

/-- The authority and its peers have just started; nothing has been sent. -/
structure Initial (s : Directory κ) : Prop where
  servers : s.authority.servers = []
  clients : s.authority.clients = []
  toAuthority : ∀ k, s.toAuthority k = []
  toPeer : ∀ k, s.toPeer k = []
  peers : ∀ k, (∃ port, s.peers k = .server .authRegister port) ∨
    s.peers k = .client .authRequestNodes []

/-- The authority receives a message whole, and knows at most 127 servers when it answers a request;
a client receives exactly one message with a read. -/
def Sound (s : Directory κ) : DirectoryEvent κ → Prop
  | .peerWritable _ => True
  | .authorityReads k n _ => n = (s.toAuthority k).length ∧
    ((s.toAuthority k).head? = some taMsgRequestNodes → s.authority.servers.length ≤ 127)
  | .clientReads k n _ => n = 1 + 6 * ((s.toPeer k).headD 0).toNat

instance (s : Directory κ) : ∀ e, Decidable (s.Sound e)
  | .peerWritable _ => inferInstanceAs (Decidable True)
  | .authorityReads .. => inferInstanceAs (Decidable (_ ∧ _))
  | .clientReads .. => inferInstanceAs (Decidable (_ = _))

/-- Every byte sent has been received. -/
def Quiet (s : Directory κ) : Prop := ∀ k, s.toAuthority k = [] ∧ s.toPeer k = []

/-- The nodes of the servers registered with the authority. -/
def nodes (s : Directory κ) : List Node :=
  s.authority.servers.map fun k => (s.authority.connections k).node

/-- The authority has the servers that have registered, with their ports, each once, and a client
that has requested nodes knows exactly the nodes of these, each once. -/
structure Agrees (s : Directory κ) : Prop where
  registered : ∀ k, k ∈ s.authority.servers ↔ ∃ port, s.peers k = .server .authIdle port
  ports : ∀ k port, s.peers k = .server .authIdle port →
    (s.authority.connections k).serverPort = port
  nodup : s.authority.servers.Nodup
  known : ∀ k servers, s.peers k = .client .authReceiveNodes servers →
    servers.Nodup ∧ ∀ p, p ∈ servers ↔ p ∈ s.nodes

end Directory

/-! ### Messages -/

theorem length_nodeBytes (p : Node) : (nodeBytes p).length = 6 := by
  rw [nodeBytes, List.length_append, Vector.length_toList, Vector.length_toList]

theorem length_flatMap_nodeBytes (nodes : List Node) :
    (nodes.flatMap nodeBytes).length = 6 * nodes.length := by
  induction nodes with
  | nil => rfl
  | cons p nodes ih =>
    rw [List.flatMap_cons, List.length_append, length_nodeBytes, ih, List.length_cons]
    omega

theorem length_encode (nodes : List Node) : (encode nodes).length = 1 + 6 * nodes.length := by
  rw [encode, List.length_cons, length_flatMap_nodeBytes]
  omega

theorem encode_singleton (p : Node) : encode [p] = 1 :: nodeBytes p := by
  rw [encode, List.flatMap_singleton, List.length_singleton]
  rfl

/-- What has just been received is at the front of the buffer. -/
theorem received_append (bytes rest : List UInt8) (stale : ℕ → UInt8) (i : ℕ) :
    received (bytes ++ rest) stale (bytes.length + i) =
      received rest (fun j => stale (bytes.length + j)) i := by
  rw [received, received, List.getElem?_append_right (Nat.le_add_right _ _), Nat.add_sub_cancel_left]

/-- A value is read back from where it was written. -/
theorem memcpy_received {n : ℕ} (before : List UInt8) (v : Vector UInt8 n) (rest : List UInt8)
    (stale : ℕ → UInt8) :
    memcpy n (received (before ++ (v.toList ++ rest)) stale) before.length = v := by
  refine Vector.ext fun i hi => ?_
  have hlen : i < v.toList.length := by rw [Vector.length_toList]; exact hi
  rw [memcpy, Vector.getElem_ofFn, received_append, received, List.getElem?_append_left hlen,
    List.getElem?_eq_getElem hlen, Option.getD_some, Vector.getElem_toList]

/-- The loop over a message's nodes, when some of its bytes are behind it. -/
theorem receiveNodes_received (nodes : List Node) (stale : ℕ → UInt8) :
    ∀ (before : List UInt8) (servers : List Node),
      receiveNodes (received (before ++ nodes.flatMap nodeBytes) stale) nodes.length before.length
        servers = nodes.foldl learn servers := by
  induction nodes with
  | nil => exact fun _ _ => rfl
  | cons p nodes ih =>
    intro before servers
    have haddr : memcpy 4 (received (before ++ (p :: nodes).flatMap nodeBytes) stale)
        before.length = p.1 := by
      rw [List.flatMap_cons, nodeBytes, List.append_assoc]
      exact memcpy_received before p.1 _ stale
    have hport : memcpy 2 (received (before ++ (p :: nodes).flatMap nodeBytes) stale)
        (before.length + 4) = p.2 := by
      have hlen : before.length + 4 = (before ++ p.1.toList).length := by
        rw [List.length_append, Vector.length_toList]
      rw [List.flatMap_cons, nodeBytes, List.append_assoc, ← List.append_assoc before, hlen]
      exact memcpy_received (before ++ p.1.toList) p.2 _ stale
    have hrest := ih (before ++ nodeBytes p) (learn servers p)
    rw [List.append_assoc, List.length_append, length_nodeBytes] at hrest
    rw [List.length_cons, receiveNodes, haddr, hport, List.foldl_cons]
    exact hrest

/-- A count up to 127 is not negative. -/
theorem numNodes_ofNat {n : ℕ} (h : n ≤ 127) : (UInt8.ofNat n).toInt8.toInt = n := by
  have hall : ∀ m : Fin 128, (UInt8.ofNat m).toInt8.toInt = m := by decide
  exact hall ⟨n, by omega⟩

/-- **What a client learns** when one read returns one message of at most 127 nodes. -/
theorem receiveNodes_encode {nodes : List Node} (h : nodes.length ≤ 127) (stale : ℕ → UInt8)
    (servers : List Node) :
    authReceiveNodes (received (encode nodes) stale) servers = nodes.foldl learn servers := by
  have hnum : numNodes (received (encode nodes) stale) = nodes.length := numNodes_ofNat h
  rw [authReceiveNodes, hnum, Int.toNat_natCast]
  exact receiveNodes_received nodes stale [UInt8.ofNat nodes.length] servers

theorem mem_learn {servers : List Node} {p q : Node} : q ∈ learn servers p ↔ q ∈ servers ∨ q = p := by
  by_cases hp : p ∈ servers
  · rw [learn, if_pos hp]
    constructor
    · exact .inl
    · rintro (hq | rfl)
      · exact hq
      · exact hp
  · rw [learn, if_neg hp, List.mem_append, List.mem_singleton]

theorem learn_nodup {servers : List Node} (h : servers.Nodup) (p : Node) : (learn servers p).Nodup := by
  by_cases hp : p ∈ servers
  · rw [learn, if_pos hp]
    exact h
  · rw [learn, if_neg hp]
    exact h.append (List.nodup_singleton p) (List.disjoint_singleton.mpr hp)

theorem mem_foldl_learn {nodes : List Node} {q : Node} :
    ∀ {servers : List Node}, q ∈ nodes.foldl learn servers ↔ q ∈ servers ∨ q ∈ nodes := by
  induction nodes with
  | nil => exact ⟨.inl, fun h => h.resolve_right List.not_mem_nil⟩
  | cons p nodes ih =>
    intro servers
    rw [List.foldl_cons, ih, mem_learn, List.mem_cons, or_assoc]

theorem foldl_learn_nodup {nodes : List Node} :
    ∀ {servers : List Node}, servers.Nodup → (nodes.foldl learn servers).Nodup := by
  induction nodes with
  | nil => exact fun h => h
  | cons p nodes ih => exact fun h => ih (learn_nodup h p)

/-- A message sent to each of some connections. -/
theorem sendAll_apply {dests : List κ} (hnodup : dests.Nodup) (bytes : List UInt8) (k : κ) :
    ∀ channels : κ → List UInt8,
      sendAll channels dests bytes k = if k ∈ dests then channels k ++ bytes else channels k := by
  induction dests with
  | nil => exact fun _ => rfl
  | cons j dests ih =>
    intro channels
    obtain ⟨hj, hnodup'⟩ := List.nodup_cons.mp hnodup
    rw [sendAll, List.foldl_cons]
    refine (ih hnodup' _).trans ?_
    by_cases hkj : k = j
    · subst hkj
      rw [if_neg hj, if_pos List.mem_cons_self, Function.update_self]
    · simp only [Function.update_of_ne hkj, List.mem_cons, hkj, false_or]

/-! ### The invariant -/

namespace Directory

variable {s s' s₀ : Directory κ}

/-- How far a connection has come. -/
inductive Standing (s : Directory κ) (k : κ) : Prop
  /-- A server that has not sent its registration. -/
  | starting (port : InPort) (peer : s.peers k = .server .authRegister port)
      (sent : s.toAuthority k = []) (server : k ∉ s.authority.servers)
      (client : k ∉ s.authority.clients)
  /-- A server whose registration is on its way. -/
  | registering (port : InPort) (peer : s.peers k = .server .authIdle port)
      (sent : s.toAuthority k = taMsgRegister :: port.toList) (server : k ∉ s.authority.servers)
      (client : k ∉ s.authority.clients)
  /-- A server that is registered. -/
  | registered (port : InPort) (peer : s.peers k = .server .authIdle port)
      (sent : s.toAuthority k = []) (server : k ∈ s.authority.servers)
      (port_eq : (s.authority.connections k).serverPort = port) (client : k ∉ s.authority.clients)
  /-- A client that has not sent its request. -/
  | idle (peer : s.peers k = .client .authRequestNodes []) (sent : s.toAuthority k = [])
      (server : k ∉ s.authority.servers) (client : k ∉ s.authority.clients) (told : s.toPeer k = [])
  /-- A client whose request is on its way. -/
  | asking (peer : s.peers k = .client .authReceiveNodes [])
      (sent : s.toAuthority k = [taMsgRequestNodes]) (server : k ∉ s.authority.servers)
      (client : k ∉ s.authority.clients) (told : s.toPeer k = [])
  /-- A client whose request has been answered: it knows or is being told every node. -/
  | answered (servers : List Node) (msgs : List (List Node))
      (peer : s.peers k = .client .authReceiveNodes servers) (sent : s.toAuthority k = [])
      (server : k ∉ s.authority.servers) (client : k ∈ s.authority.clients)
      (told : s.toPeer k = msgs.flatMap encode) (small : ∀ m ∈ msgs, m.length ≤ 127)
      (nodup : servers.Nodup) (known : ∀ p, p ∈ servers ∨ p ∈ msgs.flatten ↔ p ∈ s.nodes)

/-- What holds between the steps. -/
structure Inv (s : Directory κ) : Prop where
  standing : ∀ k, s.Standing k
  servers : s.authority.servers.Nodup
  clients : s.authority.clients.Nodup

omit [DecidableEq κ] in
/-- A step that is about another connection, and registers no server. -/
theorem Standing.other {k : κ} (h : s.Standing k) (hpeer : s'.peers k = s.peers k)
    (hsent : s'.toAuthority k = s.toAuthority k) (htold : s'.toPeer k = s.toPeer k)
    (hservers : s'.authority.servers = s.authority.servers)
    (hclients : k ∈ s'.authority.clients ↔ k ∈ s.authority.clients)
    (hconns : s'.authority.connections = s.authority.connections) : s'.Standing k := by
  have hnodes : s'.nodes = s.nodes := by rw [nodes, nodes, hservers, hconns]
  cases h with
  | starting port peer sent server client =>
    exact .starting port (hpeer.trans peer) (hsent.trans sent) (hservers ▸ server)
      (mt hclients.mp client)
  | registering port peer sent server client =>
    exact .registering port (hpeer.trans peer) (hsent.trans sent) (hservers ▸ server)
      (mt hclients.mp client)
  | registered port peer sent server port_eq client =>
    exact .registered port (hpeer.trans peer) (hsent.trans sent) (hservers ▸ server)
      (hconns ▸ port_eq) (mt hclients.mp client)
  | idle peer sent server client told =>
    exact .idle (hpeer.trans peer) (hsent.trans sent) (hservers ▸ server) (mt hclients.mp client)
      (htold.trans told)
  | asking peer sent server client told =>
    exact .asking (hpeer.trans peer) (hsent.trans sent) (hservers ▸ server) (mt hclients.mp client)
      (htold.trans told)
  | answered servers msgs peer sent server client told small nodup known =>
    refine .answered servers msgs (hpeer.trans peer) (hsent.trans sent) (hservers ▸ server)
      (hclients.mpr client) (htold.trans told) small nodup fun p => ?_
    rw [hnodes]
    exact known p

omit [DecidableEq κ] in
theorem Initial.inv (h : Initial s) : Inv s := by
  refine ⟨fun k => ?_, ?_, ?_⟩
  · have hserver : k ∉ s.authority.servers := by rw [h.servers]; exact List.not_mem_nil
    have hclient : k ∉ s.authority.clients := by rw [h.clients]; exact List.not_mem_nil
    obtain ⟨port, hp⟩ | hp := h.peers k
    · exact .starting port hp (h.toAuthority k) hserver hclient
    · exact .idle hp (h.toAuthority k) hserver hclient (h.toPeer k)
  · rw [h.servers]
    exact List.nodup_nil
  · rw [h.clients]
    exact List.nodup_nil

/-- A server or a client sends its one message. -/
theorem Inv.peerWritable (h : Inv s) (k : κ) :
    (∃ t, s.peerWritable k = .ok t ∧ Inv t) ∨ s.peerWritable k = .error .notEnabled := by
  rw [Directory.peerWritable]
  -- only a peer that has just connected has something to say
  cases h.standing k with
  | starting port peer sent server client =>
    rw [peer]
    refine .inl ⟨_, rfl, fun j => ?_, h.servers, h.clients⟩
    by_cases hj : j = k
    · subst hj
      refine .registering port (Function.update_self ..) ?_ server client
      exact (Function.update_self ..).trans (by rw [sent, List.nil_append])
    · exact (h.standing j).other (Function.update_of_ne hj ..) (Function.update_of_ne hj ..) rfl rfl
        Iff.rfl rfl
  | idle peer sent server client told =>
    rw [peer]
    refine .inl ⟨_, rfl, fun j => ?_, h.servers, h.clients⟩
    by_cases hj : j = k
    · subst hj
      refine .asking (Function.update_self ..) ?_ server client told
      exact (Function.update_self ..).trans (by rw [sent, List.nil_append])
    · exact (h.standing j).other (Function.update_of_ne hj ..) (Function.update_of_ne hj ..) rfl rfl
        Iff.rfl rfl
  | registering port peer =>
    rw [peer]
    exact .inr rfl
  | registered port peer =>
    rw [peer]
    exact .inr rfl
  | asking peer =>
    rw [peer]
    exact .inr rfl
  | answered servers msgs peer =>
    rw [peer]
    exact .inr rfl

/-- The authority receives a registration: the new node is on its way to every client. -/
theorem Inv.registers (h : Inv s) {k : κ} {port : InPort} (peer : s.peers k = .server .authIdle port)
    (server : k ∉ s.authority.servers) (client : k ∉ s.authority.clients) :
    Inv { s with
      authority := { s.authority with
        connections := Function.update s.authority.connections k
          { s.authority.connections k with serverPort := port }
        servers := s.authority.servers ++ [k] }
      toPeer := sendAll s.toPeer s.authority.clients
        (1 :: nodeBytes ((s.authority.connections k).addr, port))
      toAuthority := Function.update s.toAuthority k [] } := by
  refine ⟨fun j => ?_, ?_, h.clients⟩
  · -- the node itself is now registered; what others have been sent depends on where they are
    by_cases hj : j = k
    · subst hj
      refine .registered port peer (Function.update_self ..) ?_ ?_ client
      · exact List.mem_append_right _ (List.mem_singleton_self j)
      · dsimp only
        rw [Function.update_self]
    · have hmem : ∀ {l : List κ}, j ∉ l → j ∉ l ++ [k] := fun hl hmem =>
        (List.mem_append.mp hmem).elim hl fun hk => hj (List.mem_singleton.mp hk)
      have hsent : Function.update s.toAuthority k [] j = s.toAuthority j :=
        Function.update_of_ne hj ..
      have hconn : Function.update s.authority.connections k
          { s.authority.connections k with serverPort := port } j = s.authority.connections j :=
        Function.update_of_ne hj ..
      cases h.standing j with
      | starting p peer' sent server' client' =>
        exact .starting p peer' (hsent.trans sent) (hmem server') client'
      | registering p peer' sent server' client' =>
        exact .registering p peer' (hsent.trans sent) (hmem server') client'
      | registered p peer' sent server' port_eq client' =>
        exact .registered p peer' (hsent.trans sent) (List.mem_append_left _ server')
          ((congrArg Connection.serverPort hconn).trans port_eq) client'
      | idle peer' sent server' client' told =>
        refine .idle peer' (hsent.trans sent) (hmem server') client' ?_
        exact (sendAll_apply h.clients _ j _).trans ((if_neg client').trans told)
      | asking peer' sent server' client' told =>
        refine .asking peer' (hsent.trans sent) (hmem server') client' ?_
        exact (sendAll_apply h.clients _ j _).trans ((if_neg client').trans told)
      -- a client that has its answer is told of the new node by one more message
      | answered servers msgs peer' sent server' client' told small nodup known =>
        refine .answered servers (msgs ++ [[((s.authority.connections k).addr, port)]]) peer'
          (hsent.trans sent) (hmem server') client' ?_ ?_ nodup fun p => ?_
        · refine (sendAll_apply h.clients _ j _).trans ((if_pos client').trans ?_)
          rw [told, List.flatMap_append, List.flatMap_singleton, encode_singleton]
        · intro m hm
          obtain hm | hm := List.mem_append.mp hm
          · exact small m hm
          · rw [List.mem_singleton.mp hm, List.length_singleton]
            omega
        · have hold : ∀ i ∈ s.authority.servers,
              (Function.update s.authority.connections k
                { s.authority.connections k with serverPort := port } i).node =
              (s.authority.connections i).node := by
            intro i hi
            have hik : i ≠ k := fun hik => server (hik ▸ hi)
            rw [Function.update_of_ne hik]
          rw [List.flatten_append, List.mem_append, ← or_assoc, known p, nodes, nodes,
            List.map_append, List.mem_append, List.map_congr_left hold]
          simp only [List.flatten_cons, List.flatten_nil, List.append_nil, List.map_cons,
            List.map_nil, Function.update_self]
          rfl
  · exact h.servers.append (List.nodup_singleton k) (List.disjoint_singleton.mpr server)

/-- The authority receives a request: every node is on its way to the client. -/
theorem Inv.answers (h : Inv s) {k : κ} (peer : s.peers k = .client .authReceiveNodes [])
    (server : k ∉ s.authority.servers) (client : k ∉ s.authority.clients) (told : s.toPeer k = [])
    (hsmall : s.authority.servers.length ≤ 127) :
    Inv { s with
      authority := { s.authority with clients := s.authority.clients ++ [k] }
      toPeer := sendAll s.toPeer [k] (encode s.nodes)
      toAuthority := Function.update s.toAuthority k [] } := by
  have htold := sendAll_apply (List.nodup_singleton k) (encode s.nodes)
  refine ⟨fun j => ?_, h.servers, ?_⟩
  · by_cases hj : j = k
    · subst hj
      refine .answered [] [s.nodes] peer (Function.update_self ..) server ?_ ?_ ?_ List.nodup_nil
        fun p => ?_
      · exact List.mem_append_right _ (List.mem_singleton_self j)
      · refine (htold j _).trans ((if_pos (List.mem_singleton_self j)).trans ?_)
        rw [told, List.nil_append, List.flatMap_singleton]
      · intro m hm
        rw [List.mem_singleton.mp hm, nodes, List.length_map]
        exact hsmall
      · simp only [List.not_mem_nil, false_or, List.flatten_cons, List.flatten_nil, List.append_nil]
        rfl
    · have hjk : j ∉ [k] := fun hmem => hj (List.mem_singleton.mp hmem)
      refine (h.standing j).other rfl (Function.update_of_ne hj ..) ((htold j _).trans (if_neg hjk))
        rfl ?_ rfl
      constructor
      · exact fun hmem => (List.mem_append.mp hmem).resolve_right hjk
      · exact List.mem_append_left _
  · exact h.clients.append (List.nodup_singleton k) (List.disjoint_singleton.mpr client)

/-- The authority receives a message whole. -/
theorem Inv.authorityReads (h : Inv s) {k : κ} {n : ℕ} {stale : ℕ → UInt8}
    (hs : s.Sound (.authorityReads k n stale)) :
    (∃ t, s.authorityReads k n stale = .ok t ∧ Inv t) ∨
      s.authorityReads k n stale = .error .notEnabled := by
  obtain ⟨hwhole, hsmall⟩ := hs
  rw [Directory.authorityReads]
  by_cases hen : 0 < n ∧ n ≤ (s.toAuthority k).length ∧ n ≤ taBufSize
  · rw [check_pos hen, ok_bind, hwhole, List.take_length, List.drop_length]
    have hsent : s.toAuthority k ≠ [] := by
      intro hnil
      rw [hnil] at hen
      exact absurd hen.2.1 (Nat.not_le.mpr hen.1)
    -- only a server that registers and a client that asks have said something
    cases h.standing k with
    | starting port peer sent => exact absurd sent hsent
    | registered port peer sent => exact absurd sent hsent
    | idle peer sent => exact absurd sent hsent
    | answered servers msgs peer sent => exact absurd sent hsent
    | registering port peer sent server client =>
      have hmsg : received (s.toAuthority k) stale 0 = taMsgRegister := by rw [sent]; rfl
      have hport : memcpy 2 (received (s.toAuthority k) stale) 1 = port := by
        have := memcpy_received [taMsgRegister] port [] stale
        rwa [List.append_nil, List.singleton_append, ← sent] at this
      rw [Authority.activate, if_pos hmsg, hport]
      exact .inl ⟨_, rfl, h.registers peer server client⟩
    | asking peer sent server client told =>
      have hmsg : received (s.toAuthority k) stale 0 = taMsgRequestNodes := by rw [sent]; rfl
      have hne : taMsgRequestNodes ≠ taMsgRegister := by decide
      have hsmall' : s.authority.servers.length ≤ 127 := hsmall (by rw [sent]; rfl)
      have hfits : (encode s.nodes).length ≤ taBufSize := by
        rw [length_encode, nodes, List.length_map, taBufSize]
        omega
      rw [Authority.activate, hmsg, if_neg hne, if_pos rfl, ← nodes]
      dsimp only
      rw [check_pos hfits]
      exact .inl ⟨_, rfl, h.answers peer server client told hsmall'⟩
  · rw [check_neg hen]
    exact .inr rfl

/-- A client receives exactly one message. -/
theorem Inv.clientReads (h : Inv s) {k : κ} {n : ℕ} {stale : ℕ → UInt8}
    (hs : s.Sound (.clientReads k n stale)) :
    (∃ t, s.clientReads k n stale = .ok t ∧ Inv t) ∨
      s.clientReads k n stale = .error .notEnabled := by
  rw [Directory.clientReads]
  -- only a client that waits for nodes reads, and what it reads is one message
  cases h.standing k with
  | starting port peer =>
    rw [peer]
    exact .inr rfl
  | registering port peer =>
    rw [peer]
    exact .inr rfl
  | registered port peer =>
    rw [peer]
    exact .inr rfl
  | idle peer =>
    rw [peer]
    exact .inr rfl
  | asking peer sent server client told =>
    have hen : ¬ (0 < n ∧ n ≤ (s.toPeer k).length ∧ n ≤ tcRecvSize) := by
      rw [told, List.length_nil]
      omega
    rw [peer]
    dsimp only
    rw [check_neg hen]
    exact .inr rfl
  | answered servers msgs peer sent server client told small nodup known =>
    rw [peer]
    dsimp only
    by_cases hen : 0 < n ∧ n ≤ (s.toPeer k).length ∧ n ≤ tcRecvSize
    · rw [check_pos hen, ok_bind]
      cases msgs with
      | nil =>
        rw [told] at hen
        exact absurd hen.2.1 (Nat.not_le.mpr hen.1)
      | cons m msgs =>
        have hm : m.length ≤ 127 := small m List.mem_cons_self
        rw [List.flatMap_cons] at told
        -- the count in the first byte is that of the message
        have hn : n = (encode m).length := by
          have hcount : (UInt8.ofNat m.length).toNat = m.length :=
            UInt8.toNat_ofNat_of_lt' (Nat.lt_of_le_of_lt hm (by decide))
          rw [Sound, told, encode, List.cons_append, List.headD_cons, hcount] at hs
          rw [length_encode]
          exact hs
        rw [told, hn, List.take_left, List.drop_left, receiveNodes_encode hm]
        refine .inl ⟨_, rfl, fun j => ?_, h.servers, h.clients⟩
        by_cases hj : j = k
        · subst hj
          refine .answered (m.foldl learn servers) msgs (Function.update_self ..) sent server client
            (Function.update_self ..) (fun m' hm' => small m' (List.mem_cons_of_mem m hm'))
            (foldl_learn_nodup nodup) fun p => ?_
          rw [mem_foldl_learn, or_assoc, ← List.mem_append, ← List.flatten_cons]
          exact known p
        · exact (h.standing j).other (Function.update_of_ne hj ..) rfl (Function.update_of_ne hj ..)
            rfl Iff.rfl rfl
    · rw [check_neg hen]
      exact .inr rfl

/-- A step that meets the condition keeps the invariant; nothing goes wrong in it. -/
theorem Inv.step (h : Inv s) {e : DirectoryEvent κ} (hs : s.Sound e) :
    (∃ t, s.step e = .ok t ∧ Inv t) ∨ s.step e = .error .notEnabled := by
  cases e with
  | peerWritable k => exact h.peerWritable k
  | authorityReads k n stale => exact h.authorityReads hs
  | clientReads k n stale => exact h.clientReads hs

omit [DecidableEq κ] in
/-- Once every byte sent has been received, nobody lacks a node. -/
theorem Inv.agrees (h : Inv s) (hquiet : s.Quiet) : s.Agrees := by
  refine ⟨fun k => ?_, fun k port hpeer => ?_, h.servers, fun k servers hpeer => ?_⟩
  · cases h.standing k with
    | starting port peer sent server => simp [peer, server]
    | registering port peer sent => exact absurd ((hquiet k).1.symm.trans sent) (List.cons_ne_nil _ _).symm
    | registered port peer sent server => simp [peer, server]
    | idle peer sent server => simp [peer, server]
    | asking peer sent => exact absurd ((hquiet k).1.symm.trans sent) (List.cons_ne_nil _ _).symm
    | answered servers msgs peer sent server => simp [peer, server]
  · cases h.standing k with
    | starting port' peer => simp [peer] at hpeer
    | registering port' peer sent =>
      exact absurd ((hquiet k).1.symm.trans sent) (List.cons_ne_nil _ _).symm
    | registered port' peer sent server port_eq =>
      obtain ⟨-, rfl⟩ := Peer.server.inj (peer.symm.trans hpeer)
      exact port_eq
    | idle peer => simp [peer] at hpeer
    | asking peer => simp [peer] at hpeer
    | answered servers msgs peer => simp [peer] at hpeer
  · cases h.standing k with
    | starting port' peer => simp [peer] at hpeer
    | registering port' peer => simp [peer] at hpeer
    | registered port' peer => simp [peer] at hpeer
    | idle peer => simp [peer] at hpeer
    | asking peer sent => exact absurd ((hquiet k).1.symm.trans sent) (List.cons_ne_nil _ _).symm
    | answered servers' msgs peer sent server client told small nodup known =>
      obtain ⟨-, rfl⟩ := Peer.client.inj (peer.symm.trans hpeer)
      -- A message has at least its count byte, so none is on its way.
      have hmsgs : msgs = [] := by
        cases msgs with
        | nil => rfl
        | cons m msgs => exact absurd ((hquiet k).2.symm.trans told) (List.cons_ne_nil _ _).symm
      subst hmsgs
      refine ⟨nodup, fun p => ?_⟩
      rw [← known p, List.flatten_nil]
      exact ⟨.inl, fun hp => hp.resolve_right List.not_mem_nil⟩

/-- **The directory.**  For any servers and clients, and every run in which each read returns exactly
one message and a request is answered while at most 127 servers are registered: whenever every byte
sent has been received, the authority has all servers that have registered and each client that has
requested nodes knows exactly these, each once.  No reply overruns the authority's buffer. -/
theorem directory_agrees {es : List (DirectoryEvent κ)} (hinit : Initial s₀)
    (hrun : Run (Guarded Sound Step) s₀ es s) :
    (s.Quiet → s.Agrees) ∧ ∀ e, s.Sound e → s.step e ≠ .error .bufferOverrun := by
  have hinv : Inv s := by
    refine hrun.invariant (P := Inv) ?_ hinit.inv
    rintro t e t' ht ⟨hs, hstep⟩
    obtain ⟨u, hu, hinv⟩ | hno := ht.step hs
    · obtain rfl : t' = u := Except.ok.inj (hstep.symm.trans hu)
      exact hinv
    · cases hstep.symm.trans hno
  refine ⟨hinv.agrees, fun e hs hover => ?_⟩
  obtain ⟨u, hu, -⟩ | hno := hinv.step hs
  · cases hover.symm.trans hu
  · cases hover.symm.trans hno

/-- One client and two servers, which have just started. -/
def started : Directory (Fin 3) where
  authority := { connections := fun k => { addr := #v[10, 0, 0, UInt8.ofNat k] } }
  peers := fun k =>
    if k = 0 then .client .authRequestNodes [] else .server .authRegister #v[80, UInt8.ofNat k]

theorem started_initial : Initial started :=
  ⟨rfl, rfl, fun _ => rfl, fun _ => rfl, by
    intro k
    by_cases hk : k = 0
    · exact .inr (if_pos hk)
    · exact .inl ⟨_, if_neg hk⟩⟩

/-- The node of a server of `started`. -/
def startedNode (k : Fin 3) : Node := (#v[10, 0, 0, UInt8.ofNat k], #v[80, UInt8.ofNat k])

/-- One server registers before the client asks for nodes, and one after. -/
theorem directory_agrees_started : ∃ es s, Run (Guarded Sound Step) started es s ∧ s.Quiet ∧
    s.Agrees ∧ s.peers 0 = .client .authReceiveNodes [startedNode 1, startedNode 2] := by
  obtain ⟨s, hs, h⟩ := exists_of_returns
    (x := exec (guardedStep Sound DirectoryCheck.notEnabled step) started
      [.peerWritable 1, .peerWritable 0, .authorityReads 1 3 fun _ => 0,
        .authorityReads 0 1 fun _ => 0, .peerWritable 2, .authorityReads 2 3 fun _ => 0,
        .clientReads 0 7 fun _ => 0, .clientReads 0 7 fun _ => 0])
    (p := fun s => decide ((∀ k, s.toAuthority k = [] ∧ s.toPeer k = []) ∧
      s.peers 0 = .client .authReceiveNodes [startedNode 1, startedNode 2])) (by decide +kernel)
  obtain ⟨hquiet, hpeer⟩ := of_decide_eq_true h
  have hrun := run_of_exec_guarded hs
  exact ⟨_, s, hrun, hquiet, (directory_agrees started_initial hrun).1 hquiet, hpeer⟩

/-- Two notifications are received with one read: the client never learns of the second server. -/
theorem directory_notifications_joined : Initial started ∧ ∃ es s, Run Step started es s ∧ s.Quiet ∧
    ¬ s.Agrees := by
  obtain ⟨s, hs, h⟩ := exists_of_returns
    (x := exec step started
      [.peerWritable 0, .authorityReads 0 1 fun _ => 0, .clientReads 0 1 fun _ => 0,
        .peerWritable 1, .peerWritable 2, .authorityReads 1 3 fun _ => 0,
        .authorityReads 2 3 fun _ => 0, .clientReads 0 14 fun _ => 0])
    (p := fun s => decide ((∀ k, s.toAuthority k = [] ∧ s.toPeer k = []) ∧
      s.peers 0 = .client .authReceiveNodes [startedNode 1] ∧ startedNode 2 ∈ s.nodes))
    (by decide +kernel)
  obtain ⟨hquiet, hpeer, hnode⟩ := of_decide_eq_true h
  refine ⟨started_initial, _, s, run_of_exec hs, hquiet, fun hagrees => ?_⟩
  have hknown := ((hagrees.known 0 _ hpeer).2 (startedNode 2)).mpr hnode
  exact absurd hknown (by decide +kernel)

end Directory

end Torrent

end ShadowBrowser
