/-
The exchange of peer infos, over a socket that delivers in pieces.

The fields are written and read by hand, in two functions; the reader asks the socket for no
more than the fifteen bytes, whatever has already arrived behind them.

* `copyOut_fill` — the fields that one side reads are those that the other wrote;
* `readPeerInfo_ready` — what a channel makes of them;
* `Incoming` — a channel and the bytes that have arrived at its socket;
* **`peer_info_round_trip`** — whatever the pieces are, the channel recovers the peer info and
  leaves every byte behind it for the cells.
-/
import ShadowBrowser.Handshake
import ShadowBrowser.InBuffer

namespace ShadowBrowser

open Checked Runs

/-! ### What is written and what is read -/

/-- The number that four bytes in network order stand for. -/
def hostOrder (bs : List UInt8) : ℕ :=
  ntohs (bs.getD 0 0) (bs.getD 1 0) * 65536 + ntohs (bs.getD 2 0) (bs.getD 3 0)

/-- The bytes of an address in network order. -/
def networkBytes (n : ℕ) : List UInt8 := htons (n / 65536) ++ htons n

theorem ntohs_htons_mod (n : ℕ) : ntohs (UInt8.ofNat (n / 256)) (UInt8.ofNat n) = n % 65536 := by
  simp only [ntohs, UInt8.toNat_ofNat']
  omega

theorem hostOrder_networkBytes {n : ℕ} (h : n < 2 ^ 32) : hostOrder (networkBytes n) = n := by
  have hlow := ntohs_htons_mod n
  have hhigh := ntohs_htons_mod (n / 65536)
  show ntohs (UInt8.ofNat (n / 65536 / 256)) (UInt8.ofNat (n / 65536)) * 65536 +
    ntohs (UInt8.ofNat (n / 256)) (UInt8.ofNat n) = n
  omega

/-- What a channel tells the other side: the server asks for nothing, and the interval is
narrowed to the 16 bits of its field. -/
def Chan.tells (c : Chan) : PeerInfo where
  version := peerInfoVersion
  chInstNum := c.objId
  cellSize := c.cellSize
  addr := networkBytes c.myaddr
  requestedL := if c.isClientSide then c.tamarawL else 0
  requestedPktIntvl := if c.isClientSide then c.peerTamarawPktIntvlMs % 65536 else 0

/-- **The fields are read as they were written.** -/
theorem copyOut_fill {c : Chan} (hobj : c.objId < 2 ^ 32) (hsize : c.cellSize < 65536)
    (hL : c.tamarawL < 65536) :
    ∃ info, c.fillMyPeerInfoOutbuf.myPeerInfoOutbuf = some info ∧
      info.length = peerInfoNumBytes ∧ PeerInfo.copyOut info = c.tells := by
  refine ⟨_, rfl, rfl, ?_⟩
  have hnum : (UInt8.ofNat c.objId).toNat + (UInt8.ofNat (c.objId / 256)).toNat * 256
      + (UInt8.ofNat (c.objId / 65536)).toNat * 65536
      + (UInt8.ofNat (c.objId / 16777216)).toNat * 16777216 = c.objId := by
    simp only [UInt8.toNat_ofNat']
    omega
  have hreq : ∀ n : ℕ, n < 65536 →
      ntohs (UInt8.ofNat ((if c.isClientSide then n else 0) / 256))
        (UInt8.ofNat (if c.isClientSide then n else 0)) = if c.isClientSide then n else 0 :=
    fun n hn => ntohs_htons (by split <;> omega)
  have hintvl : ntohs
      (UInt8.ofNat ((if c.isClientSide then c.peerTamarawPktIntvlMs else 0) / 256))
      (UInt8.ofNat (if c.isClientSide then c.peerTamarawPktIntvlMs else 0)) =
        if c.isClientSide then c.peerTamarawPktIntvlMs % 65536 else 0 := by
    rw [ntohs_htons_mod]
    split <;> rfl
  have hall : PeerInfo.copyOut (peerInfoVersion :: hostBytes c.objId ++ htons c.cellSize
      ++ (htons (c.myaddr / 65536) ++ htons c.myaddr)
      ++ htons (if c.isClientSide then c.tamarawL else 0)
      ++ htons (if c.isClientSide then c.peerTamarawPktIntvlMs else 0)) =
      ⟨peerInfoVersion, _, _, networkBytes c.myaddr, _, _⟩ := rfl
  rw [hall, Chan.tells, PeerInfo.mk.injEq]
  exact ⟨rfl, hnum, ntohs_htons hsize, rfl, hreq _ hL, hintvl⟩

namespace Chan

variable {c c' r s : Chan} {peer : PeerInfo} {now : ℕ}

/-- A channel that has not heard from the other side yet. -/
structure Listens (c : Chan) : Prop where
  peerInfo : c.needToReadPeerInfo = true ∧ c.peerInfoInbuf = []
  defense : c.defenseInfo = {}
  isOpen : c.closed = false
  unused : c.journal = []

/-- What the constructor leaves, on either side. -/
theorem new_listens {isClientSide : Bool} {objId myaddr cellSize intvl peerIntvl L limit : ℕ}
    {sock : SockRes}
    (h : Chan.new isClientSide objId myaddr cellSize intvl peerIntvl L limit sock = .ok c) :
    Listens c ∧ c.isClientSide = isClientSide ∧ c.tamarawL = L ∧ c.tamarawPktIntvlMs = intvl := by
  obtain ⟨c₀, hcon, hwrite⟩ := bind_eq_ok.mp h
  obtain ⟨-, -, rfl⟩ := construct_eq_ok hcon
  split at hwrite
  · obtain rfl := writeMyPeerInfoOutbuf_eq_ok hwrite
    exact ⟨⟨⟨rfl, rfl⟩, rfl, rfl, rfl⟩, rfl, rfl, rfl⟩
  · cases hwrite
    exact ⟨⟨⟨rfl, rfl⟩, rfl, rfl, rfl⟩, rfl, rfl, rfl⟩

/-- The peer info asks for nothing, or asks a server for what it allows. -/
structure Acceptable (c : Chan) (peer : PeerInfo) : Prop where
  version : peer.version = peerInfoVersion
  requestedL : peer.requestedL ≠ 0 → c.isClientSide = false ∧ checkL peer.requestedL = true
  requestedPktIntvl : peer.requestedPktIntvl ≠ 0 →
    c.isClientSide = false ∧ checkPktIntvl peer.requestedPktIntvl = true

/-- What the constructor lets pass, the other side accepts. -/
theorem construct_acceptable {isClientSide : Bool}
    {objId myaddr cellSize intvl peerIntvl L limit : ℕ}
    (h : construct isClientSide objId myaddr cellSize intvl peerIntvl L limit = .ok s)
    (hside : c.isClientSide = !isClientSide) : Acceptable c s.tells := by
  obtain ⟨_, -, h⟩ := bind_eq_ok.mp h
  obtain ⟨_, -, h⟩ := bind_eq_ok.mp h
  obtain ⟨_, hL, h⟩ := bind_eq_ok.mp h
  obtain ⟨_, -, h⟩ := bind_eq_ok.mp h
  obtain ⟨_, -, h⟩ := bind_eq_ok.mp h
  obtain ⟨_, hpeer, h⟩ := bind_eq_ok.mp h
  obtain ⟨_, -, h⟩ := bind_eq_ok.mp h
  cases h
  have hL' := check_eq_ok.mp hL
  have hpeer' := check_eq_ok.mp hpeer
  cases isClientSide with
  | false =>
    -- the server asks for nothing
    exact ⟨rfl, fun hne => absurd rfl hne, fun hne => absurd rfl hne⟩
  | true =>
    refine ⟨rfl, fun _ => ⟨hside, hL'⟩, fun hne => ⟨hside, ?_⟩⟩
    have hne' : peerIntvl % 65536 ≠ 0 := hne
    have hcheck := (hpeer' (by omega)).2
    rw [checkPktIntvl] at hcheck
    show checkPktIntvl (peerIntvl % 65536) = true
    rw [checkPktIntvl, Nat.mod_mod]
    exact hcheck

/-- The peer info has been read. -/
def heard (c : Chan) (peer : PeerInfo) (now : ℕ) : Chan :=
  { c with
    peerInfoInbuf := []
    peerCellSize := peer.cellSize
    peeraddr := peer.addr
    writeEvEnabled := if c.isClientSide then c.writeEvEnabled else true
    tamarawL := if peer.requestedL ≠ 0 then peer.requestedL else c.tamarawL
    tamarawPktIntvlMs :=
      if peer.requestedPktIntvl ≠ 0 then peer.requestedPktIntvl else c.tamarawPktIntvlMs
    needToReadPeerInfo := false
    establishedTimestampMs := now / 1000
    journal := c.journal ++ [.status .ready] }

/-- Only the server enables the write event, to write its own peer info. -/
theorem doIf_forceEnable (hst : c.defenseInfo.state = .none) :
    doIf (!c.isClientSide) (·.maybeToggleWriteMonitoring .forceEnable) c =
      .ok (c.setWriteEv (if c.isClientSide then c.writeEvEnabled else true)) := by
  by_cases hside : c.isClientSide = true
  · rw [hside, if_pos rfl]
    rfl
  · rw [Bool.not_eq_true] at hside
    rw [hside, if_neg Bool.false_ne_true]
    show c.maybeToggleWriteMonitoring .forceEnable = _
    rw [maybeToggleWriteMonitoring, check_pos (.inl (by simp [hst]))]
    rfl

/-- **What a channel makes of the peer info.** -/
theorem readPeerInfo_ready (hst : c.defenseInfo.state = .none)
    (hacc : Acceptable c (PeerInfo.copyOut c.peerInfoInbuf)) :
    c.readPeerInfo now = .ok (c.heard (PeerInfo.copyOut c.peerInfoInbuf) now) := by
  generalize hpeer : PeerInfo.copyOut c.peerInfoInbuf = peer at hacc
  obtain ⟨hversion, hL, hintvl⟩ := hacc
  have htoggle := doIf_forceEnable
    (c := { c with peerInfoInbuf := [], peerCellSize := peer.cellSize, peeraddr := peer.addr }) hst
  rw [readPeerInfo, hpeer]
  dsimp only at htoggle ⊢
  rw [htoggle, ok_bind, if_neg (not_not.mpr hversion)]
  refine bind_eq_ok.mpr ⟨(), check_eq_ok.mpr fun h => (hL h).1, ?_⟩
  refine bind_eq_ok.mpr ⟨(), check_eq_ok.mpr fun h => (hL h).2, ?_⟩
  refine bind_eq_ok.mpr ⟨(), check_eq_ok.mpr fun h => (hintvl h).1, ?_⟩
  exact bind_eq_ok.mpr ⟨(), check_eq_ok.mpr fun h => (hintvl h).2, rfl⟩

/-! ### The socket -/

/-- How many of the `available` bytes `evbuffer_read` is told to read at most. -/
def howmuch (c : Chan) (available : ℕ) : ℕ :=
  if c.needToReadPeerInfo then peerInfoNumBytes - c.peerInfoInbuf.length else available

/-- What holds of the channel from when it is ready. -/
structure Heard (r : Chan) (peer : PeerInfo) (c : Chan) : Prop where
  peerInfo : c.needToReadPeerInfo = false
  peerCellSize : c.peerCellSize = peer.cellSize
  peeraddr : c.peeraddr = peer.addr
  tamarawL : c.tamarawL = if peer.requestedL ≠ 0 then peer.requestedL else r.tamarawL
  tamarawPktIntvlMs : c.tamarawPktIntvlMs =
    if peer.requestedPktIntvl ≠ 0 then peer.requestedPktIntvl else r.tamarawPktIntvlMs

theorem Micro.peeraddr_eq (h : Micro c c') : c'.peeraddr = c.peeraddr := by
  rcases h with h | h | h
  · cases h <;> rfl
  · cases h with
    | stopping =>
      unfold Chan.stopping
      dsimp only
      split <;> rfl
    | finished =>
      unfold Chan.finished
      dsimp only
      split <;> rfl
    | _ => rfl
  · rw [h.same]

/-- Small steps leave alone what the peer info has determined. -/
theorem Heard.micros (h : Heard r peer c) (hm : Micros c c') : Heard r peer c' := by
  have hconf := hm.config_eq
  simp only [config, Prod.mk.injEq] at hconf
  obtain ⟨⟨-, -, hintvl, hL, -⟩, -, hsize, hneed, -⟩ := hconf
  have haddr : c'.peeraddr = c.peeraddr :=
    star_invariant (f := fun d : Chan => d.peeraddr) (fun _ _ => Micro.peeraddr_eq) hm
  exact ⟨hneed.trans h.peerInfo, hsize.trans h.peerCellSize, haddr.trans h.peeraddr,
    hL.trans h.tamarawL, hintvl.trans h.tamarawPktIntvlMs⟩

/-- **Behind the peer info**, all that is read is input. -/
theorem Heard.read {bs : List UInt8} (h : Heard r peer c) (hset : c.Settled) (hbs : bs ≠ [])
    (hread : c.onSocketReadcb now (.bytes bs) = .ok c') :
    Heard r peer c' ∧ c'.Settled ∧ received c'.journal = received c.journal ++ bs := by
  cases bs with
  | nil => exact absurd rfl hbs
  | cons b bs =>
    unfold onSocketReadcb at hread
    dsimp only at hread
    rw [if_neg (by simp [h.peerInfo])] at hread
    split at hread
    · have haside := readIn_aside c (b :: bs)
      obtain ⟨hm, hset'⟩ := (haside.calm.trans (readCells_calm hread)) hset
      refine ⟨h.micros hm, hset', ?_⟩
      have hrecv := readCells_received hread
      rw [hrecv]
      simp [received]
    · cases hread
      refine ⟨⟨h.peerInfo, h.peerCellSize, h.peeraddr, h.tamarawL, h.tamarawPktIntvlMs⟩,
        ⟨hset.stop, hset.autoStopped, hset.done⟩, ?_⟩
      simp [pumpSpdyRecv, received]

end Chan

/-- A channel that reads, and the bytes that have arrived at its socket. -/
structure Incoming where
  ch : Chan
  unread : List UInt8 := []
  deriving DecidableEq, Repr

/-- Some bytes arrive, or the channel reads at most `k` of them at the time `now`. -/
inductive IncomingEvent
  | arrive (bs : List UInt8)
  | readable (now k : ℕ)
  deriving DecidableEq, Repr

/-- The bytes that arrive. -/
def arrived (evs : List IncomingEvent) : List UInt8 :=
  evs.flatMap fun | .arrive bs => bs | .readable _ _ => []

namespace Incoming

open Chan

variable {t t' : Incoming} {r s : Chan} {info : List UInt8} {peer : PeerInfo}

/-- The number of bytes that a read returns. -/
def amount (t : Incoming) (k : ℕ) : ℕ := min k (t.ch.howmuch t.unread.length)

/-- One step of the channel and its socket. -/
def step (t : Incoming) : IncomingEvent → Except Check Incoming
  | .arrive bs => return { t with unread := t.unread ++ bs }
  | .readable now k => do
    check (0 < k ∧ t.unread ≠ []) .notEnabled
    let ch ← t.ch.step (.socketReadable now (.bytes (t.unread.take (t.amount k))))
    return { ch, unread := t.unread.drop (t.amount k) }

/-- The steps, as a relation. -/
def Step (t : Incoming) (e : IncomingEvent) (t' : Incoming) : Prop := t.step e = .ok t'

/-- Where the exchange is when `bs` has arrived: the channel waits for the rest of the peer info,
or it has read it and handles what is behind it. -/
inductive Stage (r : Chan) (info bs : List UInt8) : Incoming → Prop
  | waits (buf unread : List UInt8) (hlen : buf.length < peerInfoNumBytes)
      (hbs : buf ++ unread = bs) : Stage r info bs ⟨{ r with peerInfoInbuf := buf }, unread⟩
  | heard (ch : Chan) (unread : List UInt8) (hheard : Heard r (PeerInfo.copyOut info) ch)
      (hset : ch.Settled) (hbs : info ++ received ch.journal ++ unread = bs) :
      Stage r info bs ⟨ch, unread⟩

/-- **While it waits, every read goes well**: the channel goes on waiting, or it has read the
fifteen bytes and no more. -/
theorem read_waits {bs cells buf unread : List UInt8} (now k : ℕ) (hr : Listens r)
    (hinfo : info.length = peerInfoNumBytes) (hacc : Acceptable r (PeerInfo.copyOut info))
    (hpre : bs <+: info ++ cells) (hlen : buf.length < peerInfoNumBytes)
    (hbs : buf ++ unread = bs) (hk : 0 < k) (hne : unread ≠ []) :
    ∃ t', Step ⟨{ r with peerInfoInbuf := buf }, unread⟩ (.readable now k) t' ∧
      Stage r info bs t' := by
  have hamount : amount ⟨{ r with peerInfoInbuf := buf }, unread⟩ k =
      min k (peerInfoNumBytes - buf.length) := by
    rw [amount, howmuch, if_pos hr.peerInfo.1]
  have hpos := List.length_pos_iff.mpr hne
  have htaken : unread.take (min k (peerInfoNumBytes - buf.length)) ≠ [] := by
    intro hnil
    rcases List.take_eq_nil_iff.mp hnil with h | h
    · omega
    · exact hne h
  have hfits : (unread.take (min k (peerInfoNumBytes - buf.length))).length + buf.length ≤
      peerInfoNumBytes := by
    rw [List.length_take]
    omega
  have hsplit : buf ++ unread.take (min k (peerInfoNumBytes - buf.length)) ++
      unread.drop (min k (peerInfoNumBytes - buf.length)) = bs := by
    rw [List.append_assoc, List.take_append_drop, hbs]
  generalize htk : unread.take (min k (peerInfoNumBytes - buf.length)) = tk at htaken hfits hsplit
  -- what the channel does with the bytes
  have hstep : ({ r with peerInfoInbuf := buf } : Chan).step (.socketReadable now (.bytes tk)) =
      if (buf ++ tk).length = peerInfoNumBytes then
        ({ r with peerInfoInbuf := buf ++ tk } : Chan).readPeerInfo now
      else .ok { r with peerInfoInbuf := buf ++ tk } := by
    have hen : ({ r with peerInfoInbuf := buf } : Chan).Enabled
        (.socketReadable now (.bytes tk)) := ⟨hr.isOpen, fun _ => hfits⟩
    rw [Chan.step, if_pos hen]
    cases tk with
    | nil => exact absurd rfl htaken
    | cons b tk => exact if_pos hr.peerInfo.1
  have hone : ∀ ch, ({ r with peerInfoInbuf := buf } : Chan).step
      (.socketReadable now (.bytes tk)) = .ok ch →
      Step ⟨{ r with peerInfoInbuf := buf }, unread⟩ (.readable now k)
        ⟨ch, unread.drop (min k (peerInfoNumBytes - buf.length))⟩ := by
    intro ch hch
    show Incoming.step _ (.readable now k) = _
    rw [step, check_pos ⟨hk, hne⟩, ok_bind, hamount]
    simp only [htk, hch]
    rfl
  rw [hstep] at hone
  by_cases hfull : (buf ++ tk).length = peerInfoNumBytes
  · -- fifteen bytes of the stream are the peer info
    have hall : buf ++ tk = info := by
      have hleft : buf ++ tk <+: info ++ cells := by
        rw [← hsplit] at hpre
        exact (List.prefix_append _ _).trans hpre
      exact (List.prefix_of_prefix_length_le hleft (List.prefix_append info cells)
        (by omega)).eq_of_length (by omega)
    rw [hall] at hsplit hone
    have hready : ({ r with peerInfoInbuf := info } : Chan).readPeerInfo now =
        .ok (({ r with peerInfoInbuf := info } : Chan).heard (PeerInfo.copyOut info) now) :=
      readPeerInfo_ready (by simp [hr.defense])
        ⟨hacc.version, hacc.requestedL, hacc.requestedPktIntvl⟩
    refine ⟨_, hone _ ((if_pos (by omega)).trans hready), .heard _ _ ⟨rfl, rfl, rfl, rfl, rfl⟩ ?_ ?_⟩
    · refine ⟨?_, ?_, ?_⟩ <;> simp [heard, hr.defense]
    · have hnone : received (({ r with peerInfoInbuf := info } : Chan).heard
          (PeerInfo.copyOut info) now).journal = [] := by
        simp [heard, hr.unused, received]
      rw [hnone, List.append_nil]
      exact hsplit
  · have hshort : (buf ++ tk).length < peerInfoNumBytes := by
      rw [List.length_append] at hfull ⊢
      omega
    exact ⟨_, hone _ (if_neg hfull), .waits _ _ hshort hsplit⟩

/-- **Every step preserves the stage.** -/
theorem Stage.step {bs cells : List UInt8} {e : IncomingEvent} (h : Stage r info bs t)
    (hr : Listens r) (hinfo : info.length = peerInfoNumBytes)
    (hacc : Acceptable r (PeerInfo.copyOut info)) (hpre : bs <+: info ++ cells)
    (hstep : Step t e t') : Stage r info (bs ++ arrived [e]) t' := by
  cases e with
  | arrive bs' =>
    cases hstep
    have hbs' : arrived [.arrive bs'] = bs' := List.append_nil bs'
    rw [hbs']
    rcases h with ⟨buf, unread, hlen, hbs⟩ | ⟨ch, unread, hheard, hset, hbs⟩
    · exact .waits buf _ hlen (by rw [← hbs, List.append_assoc])
    · exact .heard ch _ hheard hset (by rw [← hbs, List.append_assoc _ unread])
  | readable now k =>
    have hnone : arrived [.readable now k] = [] := rfl
    rw [hnone, List.append_nil]
    obtain ⟨_, hen, hread⟩ := bind_eq_ok.mp hstep
    obtain ⟨hk, hne⟩ := check_eq_ok.mp hen
    rcases h with ⟨buf, unread, hlen, hbs⟩ | ⟨ch, unread, hheard, hset, hbs⟩
    · -- a read of the peer info takes no byte of what is behind it
      obtain ⟨u, hu, hstage⟩ := read_waits now k hr hinfo hacc hpre hlen hbs hk hne
      obtain rfl : u = t' := Except.ok.inj (hu.symm.trans hstep)
      exact hstage
    · -- the peer info is complete, and all that is read goes to the input
      obtain ⟨ch', hch', hread⟩ := bind_eq_ok.mp hread
      cases hread
      have htaken : unread.take (amount ⟨ch, unread⟩ k) ≠ [] := by
        intro hnil
        have hall : amount ⟨ch, unread⟩ k = min k unread.length := by
          rw [amount, howmuch, if_neg (by simp [hheard.peerInfo])]
        have hpos := List.length_pos_iff.mpr hne
        rcases List.take_eq_nil_iff.mp hnil with h | h
        · dsimp only at hpos
          omega
        · exact hne h
      obtain ⟨hheard', hset', hrecv⟩ := hheard.read hset htaken (Chan.Step.enabled hch').2
      refine .heard _ _ hheard' hset' ?_
      rw [hrecv, ← hbs]
      simp only [List.append_assoc, List.take_append_drop]

/-- By induction on the run, with what has arrived before it. -/
theorem Stage.run (cells : List UInt8) {evs : List IncomingEvent} (hrun : Run Step t evs t')
    (hr : Listens r) (hinfo : info.length = peerInfoNumBytes)
    (hacc : Acceptable r (PeerInfo.copyOut info)) :
    ∀ {bs : List UInt8}, Stage r info bs t → bs ++ arrived evs <+: info ++ cells →
      Stage r info (bs ++ arrived evs) t' := by
  induction hrun with
  | nil t =>
    intro bs h _
    rw [show arrived [] = [] from rfl, List.append_nil]
    exact h
  | @cons t u t' e evs hstep _ ih =>
    intro bs h hpre
    have hcons : arrived (e :: evs) = arrived [e] ++ arrived evs := by
      rw [arrived, ← List.singleton_append, List.flatMap_append]
      rfl
    rw [hcons, ← List.append_assoc] at hpre ⊢
    exact ih (h.step hr hinfo hacc (((List.prefix_append _ _).trans
      (List.prefix_append _ _)).trans hpre) hstep) hpre

/-- **The handshake.**  Take any two configurations that the constructor accepts on the two
sides.  The fifteen bytes that `s` writes hold its version, instance number, cell size, address
and, if it is a client, its L and the interval it asks for (narrowed to 16 bits).  However they,
and the bytes behind them, are cut into pieces and read: as long as the other side `r` waits, it
has read less than fifteen bytes and no read can fail; and when it has heard, it has the peer's
cell size and address, the L and the interval that the peer asked for or, if it asked for none,
its own, and every byte behind the fifteen has gone to its input or still lies in the socket. -/
theorem peer_info_round_trip {isClientSide : Bool}
    {objId myaddr cellSize intvl peerIntvl L limit : ℕ}
    {objId' myaddr' cellSize' intvl' peerIntvl' L' limit' : ℕ} {sock : SockRes}
    (hs : construct isClientSide objId myaddr cellSize intvl peerIntvl L limit = .ok s)
    (hr : Chan.new (!isClientSide) objId' myaddr' cellSize' intvl' peerIntvl' L' limit' sock =
      .ok r) (hobjId : objId < 2 ^ 32) (hmyaddr : myaddr < 2 ^ 32) :
    ∃ info addr, s.myPeerInfoOutbuf = some info ∧ info.length = peerInfoNumBytes ∧
      hostOrder addr = myaddr ∧
      PeerInfo.copyOut info = {
        version := peerInfoVersion
        chInstNum := objId
        cellSize
        addr
        requestedL := if isClientSide then L else 0
        requestedPktIntvl := if isClientSide then peerIntvl % 65536 else 0 } ∧
      ∀ (evs : List IncomingEvent) (t : Incoming) (cells : List UInt8),
        Run Step ⟨r, []⟩ evs t → arrived evs <+: info ++ cells →
        (t.ch.needToReadPeerInfo = true → t.ch.peerInfoInbuf.length < peerInfoNumBytes ∧
          t.ch.peerInfoInbuf ++ t.unread = arrived evs ∧
          ∀ now k, 0 < k → t.unread ≠ [] → ∃ t', Step t (.readable now k) t') ∧
        (t.ch.needToReadPeerInfo = false →
          t.ch.peerCellSize = cellSize ∧ t.ch.peeraddr = addr ∧
          t.ch.tamarawL = (if isClientSide = true ∧ L ≠ 0 then L else L') ∧
          t.ch.tamarawPktIntvlMs =
            (if isClientSide = true ∧ peerIntvl % 65536 ≠ 0 then peerIntvl % 65536 else intvl') ∧
          arrived evs = info ++ received t.ch.journal ++ t.unread) := by
  obtain ⟨hlistens, hside, hL', hintvl'⟩ := new_listens hr
  have hacc := construct_acceptable hs hside
  have hcheckL : checkL L = true := by
    obtain ⟨_, -, hs⟩ := bind_eq_ok.mp hs
    obtain ⟨_, -, hs⟩ := bind_eq_ok.mp hs
    obtain ⟨_, hL, -⟩ := bind_eq_ok.mp hs
    exact check_eq_ok.mp hL
  have hLlt : L < 65536 := by
    simp only [checkL, List.contains_iff_mem, List.mem_cons, List.not_mem_nil, or_false] at hcheckL
    omega
  obtain ⟨hsize, -, rfl⟩ := construct_eq_ok hs
  obtain ⟨info, hwritten, hlen, hread⟩ := copyOut_fill (c := {
    isClientSide, objId, myaddr, cellSize, tamarawPktIntvlMs := intvl,
    peerTamarawPktIntvlMs := peerIntvl, tamarawL := L, defenseSessionTimeLimit := limit })
    hobjId (by dsimp only; omega) hLlt
  have hacc' : Acceptable r (PeerInfo.copyOut info) := by
    rw [hread]
    exact hacc
  refine ⟨info, networkBytes myaddr, hwritten, hlen, hostOrder_networkBytes hmyaddr, hread, ?_⟩
  intro evs t cells hrun hpre
  have hstart : Stage r info [] ⟨r, []⟩ := by
    have hself : r = { r with peerInfoInbuf := [] } := by
      rw [← hlistens.peerInfo.2]
    rw [hself]
    exact .waits [] [] (by decide) rfl
  have hstage := hstart.run cells hrun hlistens hlen hacc' (by simpa using hpre)
  rw [List.nil_append] at hstage
  rcases hstage with ⟨buf, unread, hshort, hbs⟩ | ⟨ch, unread, hheard, hset, hbs⟩
  · -- it waits: one more read stays within the fifteen bytes
    refine ⟨fun _ => ⟨hshort, hbs, fun now k hk hne => ?_⟩, fun hfalse => ?_⟩
    · obtain ⟨t', ht', -⟩ := read_waits now k hlistens hlen hacc' hpre hshort hbs hk hne
      exact ⟨t', ht'⟩
    · exact absurd (hlistens.peerInfo.1.symm.trans hfalse) (by decide)
  · -- it has heard, and has taken over what the client asked for
    refine ⟨fun htrue => ?_, fun _ => ?_⟩
    · exact absurd (htrue.symm.trans hheard.peerInfo) (by decide)
    · rw [hread] at hheard
      refine ⟨hheard.peerCellSize, hheard.peeraddr, ?_, ?_, hbs.symm⟩
      · rw [hheard.tamarawL, hL', Chan.tells]
        cases isClientSide <;> simp
      · rw [hheard.tamarawPktIntvlMs, hintvl', Chan.tells]
        cases isClientSide <;> simp

/-- The peer info of the client with number 7 at 10.0.0.2, which asks for `L = 50` and 20 ms. -/
def clientInfo : List UInt8 := [10, 7, 0, 0, 0, 2, 238, 10, 0, 0, 2, 0, 50, 0, 20]

/-- It arrives in two pieces, the second of which holds two bytes of the first cell; the channel
reads at most four bytes, then what it may, and then again. -/
def pieces : List IncomingEvent :=
  [.arrive (clientInfo.take 10), .readable 0 4, .readable 0 100,
    .arrive (clientInfo.drop 10 ++ [0, 1]), .readable 0 100, .readable 0 1]

/-- A server whose own L is 100 and whose own interval is 50 ms hears from this client: it uses
what the client asks for, has one byte of the first cell, and the other lies in the socket. -/
theorem peer_info_round_trip_pieces : ∃ r t, Run Step ⟨r, []⟩ pieces t ∧
    r.tamarawL = 100 ∧ r.tamarawPktIntvlMs = 50 ∧
      t.ch.needToReadPeerInfo = false ∧ t.ch.peerCellSize = 750 ∧ t.ch.peeraddr = [10, 0, 0, 2] ∧
      t.ch.tamarawL = 50 ∧ t.ch.tamarawPktIntvlMs = 20 ∧
      received t.ch.journal ++ t.unread = [0, 1] := by
  obtain ⟨⟨s, r, t⟩, hrun, hall⟩ := exists_of_returns
    (x := do
      let s ← construct true 7 167772162 750 5 20 50 60
      let r ← Chan.new false 9 0 750 50 0 100 60 (.accepts 0)
      let t ← exec step ⟨r, []⟩ pieces
      return (s, r, t))
    (p := fun x => decide (x.1.myPeerInfoOutbuf = some clientInfo ∧
      x.2.2.ch.needToReadPeerInfo = false))
    (by decide +kernel)
  obtain ⟨s', hs, hrun⟩ := bind_eq_ok.mp hrun
  obtain ⟨r', hr, hrun⟩ := bind_eq_ok.mp hrun
  obtain ⟨t', ht, hrun⟩ := bind_eq_ok.mp hrun
  cases hrun
  obtain ⟨hclient, hheard⟩ := of_decide_eq_true hall
  obtain ⟨info, addr, hinfo, -, -, hread, hruns⟩ := peer_info_round_trip hs hr (by omega) (by omega)
  obtain rfl : clientInfo = info := Option.some.inj (hclient.symm.trans hinfo)
  have haddr : [10, 0, 0, 2] = addr := congrArg PeerInfo.addr hread
  obtain ⟨-, hdone⟩ := hruns pieces t [0, 1] (run_of_exec ht) (by decide)
  obtain ⟨hsize, hpeer, hL, hintvl, hbytes⟩ := hdone hheard
  obtain ⟨-, -, hL', hintvl'⟩ := new_listens hr
  have hsplit : clientInfo ++ [0, 1] = clientInfo ++ (received t.ch.journal ++ t.unread) := by
    rw [← List.append_assoc, ← hbytes]
    rfl
  exact ⟨r, t, run_of_exec ht, hL', hintvl', hheard, hsize, hpeer.trans haddr.symm, hL, hintvl,
    (List.append_cancel_left hsplit).symm⟩

end Incoming

end ShadowBrowser
