/-
The target of a stream on its way from the client-side proxy to the server-side one.

The client handler has it from a SOCKS5 request; `create_stream2` writes it as the C string
`host:port` into a header; the channel on the other side cuts it at the first colon.

* `hostportStr` — the header value;
* `onSynStream` — what the other side finds in the headers, with its assertions;
* `onSynStream_nv` — it finds the host and the port, when the host is not empty
  and has no colon;
* **`connect_roundtrip`** — the targets for which the whole way is exact.
-/
import ShadowBrowser.Socks

namespace ShadowBrowser.HostHeader

open Checked Texts Socks

/-- The assertions on the way, and the exception of `lexical_cast`. -/
inductive HostCheck
  | socks (e : SocksCheck)
  | clientSide
  | colonPos
  | badLexicalCast
  deriving DecidableEq, Repr

/-- `lexical_cast<uint16_t>`, of which the code uses that numbers are read as they are printed, and
that a text with a colon in it is not a number. -/
structure PortCast where
  cast : List UInt8 → Option UInt16
  decimal : ∀ port : UInt16, cast (decimal port.toNat) = some port
  colon : ∀ text : List UInt8, 58 ∈ text → cast text = none

/-- A `lexical_cast<uint16_t>` of digits. -/
def portCast : PortCast where
  cast text :=
    if text ≠ [] ∧ (∀ d ∈ text, IsDigit d) ∧ ofDecimal text < 65536 then
      some (.ofNat (ofDecimal text))
    else none
  decimal port := by
    rw [ofDecimal_decimal, if_pos ⟨decimal_ne_nil _, fun d => isDigit_of_mem_decimal,
      port.toNat_lt⟩, UInt16.ofNat_toNat]
  colon text h := if_neg fun hnum => absurd (hnum.2.1 58 h) (by decide)

/-- The name of the header. -/
def hostName : List UInt8 := [58, 104, 111, 115, 116]

/-- `hostport_str`, of `create_stream2` -/
def hostportStr (req : StreamRequest) : List UInt8 :=
  cString req.host ++ 58 :: decimal req.port.toNat

/-- The headers that `create_stream2` submits; the values are C strings. -/
def nv (req : StreamRequest) : List (List UInt8 × List UInt8) :=
  [(hostName, cString (hostportStr req))]

/-- `host_hdr`: the value of the first header of that name, or nothing. -/
def hostHdr (nv : List (List UInt8 × List UInt8)) : List UInt8 :=
  ((nv.find? fun p => p.1 = hostName).map Prod.snd).getD []

/-- `_on_spdylay_on_ctrl_recv_cb`, for a `SYN_STREAM`: what `st_connect_req_cb_` is called with.
Without a colon, both parts are the whole text, since `npos + 1` is 0. -/
def onSynStream (pc : PortCast) (isClientSide : Bool) (nv : List (List UInt8 × List UInt8)) :
    Except HostCheck StreamRequest := do
  check (isClientSide = false) .clientSide
  let hdr := hostHdr nv
  let colonPos := hdr.findIdx? (· = 58)
  check (colonPos ≠ some 0) .colonPos
  let hostStr := match colonPos with
    | some i => hdr.take i
    | none => hdr
  let portStr := match colonPos with
    | some i => hdr.drop (i + 1)
    | none => hdr
  match pc.cast portStr with
  | some port => return ⟨cString hostStr, port⟩
  | none => throw .badLexicalCast

/-- The way of a target: the handler reads a request, and what it asks its channel for arrives at the
other side. -/
def relay (pc : PortCast) (h : ClientHandler) : Except HostCheck (List StreamRequest) := do
  let h' ← h.consumeClientInput.mapError .socks
  (h'.asked.drop h.asked.length).mapM fun req => onSynStream pc false (nv req)

/-- A host that is passed on as it is: an address, or a name that is not empty, and has neither a NUL
nor a colon in it. -/
def Plain : Target → Prop
  | .addr _ => True
  | .name bs _ => bs ≠ [] ∧ 0 ∉ bs ∧ 58 ∉ bs

instance : (t : Target) → Decidable (Plain t)
  | .addr _ => inferInstanceAs (Decidable True)
  | .name bs _ => inferInstanceAs (Decidable (bs ≠ [] ∧ 0 ∉ bs ∧ 58 ∉ bs))

variable (pc : PortCast) {t : Target} {port : UInt16} {h : ClientHandler}

theorem notMem_cString (bs : List UInt8) : 0 ∉ cString bs := fun h => by
  have := List.mem_takeWhile_imp h
  simp at this

theorem cString_eq_self {bs : List UInt8} : cString bs = bs ↔ 0 ∉ bs :=
  ⟨fun h => h ▸ notMem_cString bs, cString_of_notMem⟩

/-- The header value is a C string. -/
theorem cString_hostportStr (req : StreamRequest) : cString (hostportStr req) = hostportStr req := by
  refine cString_of_notMem fun h => ?_
  rw [hostportStr, List.mem_append, List.mem_cons] at h
  rcases h with h | h | h
  · exact notMem_cString _ h
  · exact absurd h (by decide)
  · exact absurd (isDigit_of_mem_decimal h) (by decide)

theorem hostHdr_nv (req : StreamRequest) : hostHdr (nv req) = hostportStr req := by
  rw [hostHdr, nv, cString_hostportStr]
  rfl

/-- The first colon, behind a host without one. -/
theorem findIdx?_of_notMem {x : List UInt8} (p : List UInt8) (hx : 58 ∉ x) :
    (x ++ 58 :: p).findIdx? (fun b => decide (b = 58)) = some x.length := by
  induction x with
  | nil => rfl
  | cons b x ih =>
    obtain ⟨hb, hx⟩ : ¬ (58 = b) ∧ 58 ∉ x := by simpa using hx
    rw [List.cons_append, List.findIdx?_cons, if_neg (by simpa using Ne.symm hb), ih hx]
    rfl

/-- The first colon, in a host. -/
theorem findIdx?_of_mem {x : List UInt8} (p : List UInt8) (hx : 58 ∈ x) :
    ∃ i < x.length, (x ++ 58 :: p).findIdx? (fun b => decide (b = 58)) = some i := by
  induction x with
  | nil => cases hx
  | cons b x ih =>
    by_cases hb : b = 58
    · refine ⟨0, Nat.zero_lt_succ _, ?_⟩
      rw [List.cons_append, List.findIdx?_cons, if_pos (decide_eq_true hb)]
    · have hx : 58 ∈ x := (List.mem_cons.mp hx).resolve_left (Ne.symm hb)
      obtain ⟨i, hi, heq⟩ := ih hx
      refine ⟨i + 1, Nat.succ_lt_succ hi, ?_⟩
      rw [List.cons_append, List.findIdx?_cons, if_neg (by simpa using hb), heq]
      rfl

/-- **What the other side finds**: the host and the port, if the host is not empty and has no colon in
it; else an assertion fails. -/
theorem onSynStream_nv {req r : StreamRequest} :
    onSynStream pc false (nv req) = .ok r ↔
      cString req.host ≠ [] ∧ 58 ∉ cString req.host ∧ r = ⟨cString req.host, req.port⟩ := by
  rw [onSynStream, check_pos rfl, ok_bind, hostHdr_nv, hostportStr]
  have hno : (0 : UInt8) ∉ cString req.host := notMem_cString _
  generalize hx : cString req.host = x at hno
  by_cases hcolon : 58 ∈ x
  · -- the text behind the first colon has another one in it
    obtain ⟨i, hi, hfind⟩ := findIdx?_of_mem (decimal req.port.toNat) hcolon
    have hdrop : 58 ∈ (x ++ 58 :: decimal req.port.toNat).drop (i + 1) := by
      rw [List.drop_append_of_le_length hi]
      exact List.mem_append_right _ List.mem_cons_self
    refine ⟨fun heq => ?_, fun h => absurd hcolon h.2.1⟩
    obtain ⟨_, -, heq⟩ := bind_eq_ok.mp heq
    simp only [hfind, pc.colon _ hdrop] at heq
    cases heq
  · have hfind := findIdx?_of_notMem (decimal req.port.toNat) hcolon
    have htake : (x ++ 58 :: decimal req.port.toNat).take x.length = x := List.take_left
    have hdrop : (x ++ 58 :: decimal req.port.toNat).drop (x.length + 1) =
        decimal req.port.toNat := by
      rw [← List.drop_drop, List.drop_left]
      rfl
    simp only [hfind, htake, hdrop, pc.decimal, cString_of_notMem hno]
    cases x with
    | nil =>
      rw [check_neg (fun h => h rfl), error_bind]
      exact ⟨fun heq => (by cases heq), fun h => absurd rfl h.1⟩
    | cons b x =>
      rw [check_pos (by simp), ok_bind]
      refine ⟨fun heq => ?_, fun h => ?_⟩
      · cases heq
        exact ⟨List.cons_ne_nil _ _, hcolon, rfl⟩
      · rw [h.2.2]
        rfl

theorem plain_iff : Plain t ↔ cString t.host ≠ [] ∧ 58 ∉ cString t.host ∧ cString t.host = t.host := by
  cases t with
  | addr a =>
    have haddr : cString (inetNtop a) = inetNtop a :=
      cString_of_notMem (notMem_inetNtop (by decide) (by decide))
    simp only [Plain, Target.host, haddr, and_true, true_iff]
    exact ⟨inetNtop_ne_nil a, notMem_inetNtop (by decide) (by decide)⟩
  | name bs hle =>
    simp only [Plain, Target.host]
    constructor
    · rintro ⟨hne, hnul, hcolon⟩
      rw [cString_of_notMem hnul]
      exact ⟨hne, hcolon, rfl⟩
    · rintro ⟨hne, hcolon, heq⟩
      rw [heq] at hne hcolon
      exact ⟨hne, cString_eq_self.mp heq, hcolon⟩

/-- **The targets that arrive as they were asked for.**  When the handler has read a request, the
other side is asked for exactly its host and its port, and no assertion fails, if and only if the
target is an address, or a name that is not empty and has neither a NUL nor a colon in it. -/
theorem connect_roundtrip (hstate : h.state = .readSocks5ConnectReq)
    (hin : h.clientChannel.inputEvb = t.request port) :
    relay pc h = .ok [⟨t.host, port⟩] ↔ Plain t := by
  rw [relay, ClientHandler.consume_whole_request hstate hin]
  simp only [Except.mapError, ok_bind, List.drop_left, List.mapM_cons, List.mapM_nil, pure_eq_ok]
  rw [plain_iff]
  refine ⟨fun heq => ?_, fun ⟨hne, hcolon, hself⟩ => ?_⟩
  · obtain ⟨r, hr, heq⟩ := bind_eq_ok.mp heq
    obtain ⟨hne, hcolon, rfl⟩ := (onSynStream_nv pc).mp hr
    have hself : cString (cString t.host) = t.host :=
      congrArg StreamRequest.host (List.cons.inj (Except.ok.inj heq)).1
    rw [cString_of_notMem (notMem_cString _)] at hne hcolon hself
    exact ⟨hne, hcolon, hself⟩
  · have hr : onSynStream pc false (nv ⟨cString t.host, port⟩) = .ok ⟨t.host, port⟩ :=
      (onSynStream_nv pc).mpr (by rw [hself, hself]; rw [hself] at hne hcolon; exact ⟨hne, hcolon, rfl⟩)
    rw [hr]
    rfl

/-- A name, with every check on the way. -/
theorem connect_roundtrip_name :
    relay portCast { state := .readSocks5ConnectReq, clientChannel :=
        { inputEvb := (Target.name [97, 46, 98] (by decide)).request 443 } } =
      .ok [⟨[97, 46, 98], 443⟩] :=
  (connect_roundtrip portCast (t := .name [97, 46, 98] (by decide)) rfl rfl).mpr
    (by decide)

/-- The name `b:1` is accepted from the client; the other side is left with the port `1:443`, and its
`lexical_cast` throws.  Of the empty name it finds the colon at once, and aborts. -/
theorem connect_colon_fails :
    relay portCast { state := .readSocks5ConnectReq, clientChannel :=
        { inputEvb := (Target.name [98, 58, 49] (by decide)).request 443 } } =
      .error .badLexicalCast ∧
    relay portCast { state := .readSocks5ConnectReq, clientChannel :=
        { inputEvb := (Target.name [] (by decide)).request 443 } } = .error .colonPos := by
  decide +kernel

end ShadowBrowser.HostHeader
