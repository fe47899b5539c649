/-
The handler reads a request.

`Reads r fs h future` says how far the handler `h` is with the request `r`, of which
the bytes `future` are yet to arrive; before it, it has found the headers `fs`.

* `Reads.consumeOnce` — one turn of the loop keeps this, or serves the request;
* **`Reads.onSocketReadcb`** — so does whatever arrives of the request, however it is
  cut, and no assertion fails.
-/
import Mathlib.Tactic.IntervalCases
import ShadowBrowser.WebHandler

namespace ShadowBrowser.Web

open Checked Texts

/-! ### Header lines -/

theorem headerName_headerLine {name value : List UInt8} (h : 58 ∉ name) :
    headerName (headerLine name value) = name := by
  have hall : ∀ b ∈ name, decide (b ≠ 58) = true := by
    intro b hb
    rw [decide_eq_true_eq]
    intro heq
    exact h (heq ▸ hb)
  rw [headerName, headerLine, show ascii ": " = [58, 32] by decide +kernel, List.append_assoc,
    List.takeWhile_append_of_pos hall]
  simp

theorem headerValue_headerLine {name value : List UInt8} (h : 58 ∉ name) :
    headerValue (headerLine name value) = value := by
  have hlen : (name ++ ascii ": ").length = name.length + 2 := by
    rw [List.length_append]
    rfl
  rw [headerValue, headerName_headerLine h, headerLine, ← hlen, List.drop_left]

theorem headerNumber_decimal (lc : LexicalCast) {name : List UInt8} (h : 58 ∉ name) (n : UInt64) :
    headerNumber lc (headerLine name (decimal n.toNat)) = .ok n := by
  rw [headerNumber, headerValue_headerLine h, lc.decimal]

theorem length_headerLine (name value : List UInt8) :
    (headerLine name value).length = name.length + 2 + value.length := by
  simp only [headerLine, List.length_append]
  rfl

theorem mem_headerLine (name value : List UInt8) : 58 ∈ headerLine name value := by
  rw [headerLine, show ascii ": " = [58, 32] by decide +kernel]
  simp

/-- A number has no end of a line in it. -/
theorem not_mem_decimal (n : ℕ) : 13 ∉ decimal n := by
  intro hmem
  exact absurd (isDigit_of_mem_decimal hmem).1 (by decide)

theorem not_mem_headerLine {name value : List UInt8} (hname : 13 ∉ name) (hvalue : 13 ∉ value) :
    13 ∉ headerLine name value := by
  rw [headerLine, show ascii ": " = [58, 32] by decide +kernel]
  simp [hname, hvalue]

/-- A `size_t` has at most twenty digits. -/
theorem length_decimal_toNat (n : UInt64) :
    0 < (decimal n.toNat).length ∧ (decimal n.toNat).length ≤ 20 := by
  have hlt : n.toNat < 10 ^ 20 := Nat.lt_trans n.toNat_lt (by decide)
  exact ⟨List.length_pos_iff.mpr (decimal_ne_nil _), length_decimal_le (by decide) hlt⟩

theorem length_dummy (n : ℕ) : (dummy n).length = n := List.length_replicate

theorem dummy_ne_nil {n : ℕ} (h : 0 < n) : dummy n ≠ [] := by
  intro hnil
  have hlen := congrArg List.length hnil
  rw [length_dummy] at hlen
  exact absurd hlen (Nat.ne_of_gt h)

theorem dummy_eq_append {n : ℕ} {bs cs : List UInt8} (h : bs ++ cs = dummy n) :
    bs.length ≤ n ∧ cs = dummy (n - bs.length) := by
  have hlen := congrArg List.length h
  rw [List.length_append, length_dummy] at hlen
  have hdrop := congrArg (List.drop bs.length) h
  rw [List.drop_left, dummy, List.drop_replicate] at hdrop
  exact ⟨by omega, hdrop⟩

/-! ### A request -/

namespace Request

/-- The request has room for the header that is written before its content length. -/
def Sized (r : Request) : Prop := r.head.length < r.reqTotalSize.toNat

/-- The header lines of a request. -/
def headerLines (r : Request) : List (List UInt8) :=
  [headerLine respMetaSizeName (decimal r.expRespMetaSize.toNat),
   headerLine respBodySizeName (decimal r.expRespBodySize.toNat),
   headerLine contentLengthName (decimal r.numOpaqueBytes)]

/-- A request, as it is written. -/
def bytes (r : Request) : List UInt8 :=
  r.head ++ decimal r.numOpaqueBytes ++ crlf ++ crlf ++ dummy r.numOpaqueBytes

/-- What the handler has to find in the headers. -/
def framing (r : Request) : Framing := (r.expRespMetaSize, r.expRespBodySize, r.numOpaqueBytes)

variable {r : Request}

theorem bytes_eq (r : Request) :
    r.bytes = requestLine ++ crlf ++ (unlines r.headerLines ++ crlf ++ dummy r.numOpaqueBytes) := by
  simp [bytes, head, headerLines, headerLine, List.append_assoc]

theorem Sized.numOpaqueBytes (h : r.Sized) :
    0 < r.numOpaqueBytes ∧ (UInt64.ofNat r.numOpaqueBytes).toNat = r.numOpaqueBytes := by
  have hlt := r.reqTotalSize.toNat_lt
  have hhead : r.head.length < r.reqTotalSize.toNat := h
  rw [UInt64.toNat_ofNat_of_lt' (by rw [Request.numOpaqueBytes, UInt64.size]; omega)]
  exact ⟨Nat.sub_pos_of_lt hhead, rfl⟩

/-- No header line has an end of a line in it, or is empty. -/
theorem headerLines_spec (r : Request) : ∀ l ∈ r.headerLines, 13 ∉ l ∧ l ≠ [] := by
  intro l hl
  have hne : ∀ name value : List UInt8, headerLine name value ≠ [] := by
    intro name value hnil
    have hlen := congrArg List.length hnil
    rw [length_headerLine] at hlen
    simp at hlen
  simp only [headerLines, List.mem_cons, List.not_mem_nil, or_false] at hl
  rcases hl with rfl | rfl | rfl
  · exact ⟨not_mem_headerLine (by decide +kernel) (not_mem_decimal _), hne _ _⟩
  · exact ⟨not_mem_headerLine (by decide +kernel) (not_mem_decimal _), hne _ _⟩
  · exact ⟨not_mem_headerLine (by decide +kernel) (not_mem_decimal _), hne _ _⟩

end Request

namespace Handler

variable (lc : LexicalCast) {r : Request} {fs : List Framing} {h h' : Handler}
  {future : List UInt8}

/-- What the handler knows of `r` when it has read `k` header lines. -/
def infoAfter (r : Request) (k : ℕ) : RequestInfo where
  active := true
  respMetaSize := if 0 < k then r.expRespMetaSize else 0
  respBodySize := if 1 < k then r.expRespBodySize else 0

/-- The content length, when it has read `k` header lines. -/
def lengthAfter (r : Request) (k : ℕ) : ℕ := if 2 < k then r.numOpaqueBytes else 0

/-- Before the response: `fs` has been answered, and what was written has gone. -/
structure Ready (fs : List Framing) (h : Handler) : Prop where
  output : h.channel.outputEvb = []
  lwMark : h.channel.readLwMark = 0
  served : h.served = fs.length

/-- The handler is between two requests. -/
structure AtRest (fs : List Framing) (h : Handler) : Prop where
  state : h.httpReqState = .reqLine
  info : h.currentReq = {}
  remaining : h.remainingReqBodyLength = 0
  drop : h.channel.inputDrop = {}
  lwMark : h.channel.readLwMark = 0
  found : h.found = fs
  served : h.served = fs.length

/-- The handler reads the request `r`, of which `future` is yet to arrive, and asks for nothing to be
dropped. -/
inductive Reading (r : Request) (fs : List Framing) (h : Handler) (future : List UInt8) : Prop
  | reqLine (hrest : h.AtRest fs) (hout : h.channel.outputEvb = [])
      (hin : h.channel.inputEvb ++ future = r.bytes)
  | headers (k : ℕ) (hready : h.Ready fs) (hk : k ≤ 3) (hstate : h.httpReqState = .headers)
      (hdrop : h.channel.inputDrop = {}) (hinfo : h.currentReq = infoAfter r k)
      (hlen : h.remainingReqBodyLength = lengthAfter r k) (hfound : h.found = fs)
      (hin : h.channel.inputEvb ++ future =
        unlines (r.headerLines.drop k) ++ crlf ++ dummy r.numOpaqueBytes)
  | body (hready : h.Ready fs) (hstate : h.httpReqState = .body)
      (hdrop : h.channel.inputDrop = {}) (hinfo : h.currentReq = infoAfter r 3)
      (hpos : 0 < h.remainingReqBodyLength) (hfound : h.found = fs ++ [r.framing])
      (hin : h.channel.inputEvb ++ future = dummy h.remainingReqBodyLength)

/-- The handler waits for the end of the body of `r`, while the channel drops it. -/
structure Dropping (r : Request) (fs : List Framing) (h : Handler) (future : List UInt8) :
    Prop where
  ready : h.Ready fs
  state : h.httpReqState = .body
  info : h.currentReq = infoAfter r 3
  found : h.found = fs ++ [r.framing]
  input : h.channel.inputEvb = []
  requested : h.channel.inputDrop.numRequested = h.remainingReqBodyLength
  progress : h.channel.inputDrop.interestedInProgress = false
  pos : 0 < h.channel.inputDrop.numRemaining
  le : h.channel.inputDrop.numRemaining ≤ h.remainingReqBodyLength
  rest : future = dummy h.channel.inputDrop.numRemaining

/-- The handler is somewhere in the request `r`. -/
def Reads (r : Request) (fs : List Framing) (h : Handler) (future : List UInt8) : Prop :=
  Reading r fs h future ∨ Dropping r fs h future

/-- A response to `r`. -/
def response (r : Request) : List UInt8 :=
  let needed := numDummyHdrBytes r.expRespMetaSize (respHead r.expRespBodySize).length
  respHead r.expRespBodySize ++ (if 0 < needed then dummy needed.toNat else ascii "n/a") ++
    crlf ++ crlf ++ dummy r.expRespBodySize.toNat

/-- The handler has answered `r`, and nothing of what it has received is left. -/
structure Answered (r : Request) (fs : List Framing) (h : Handler) : Prop where
  rest : h.AtRest (fs ++ [r.framing])
  input : h.channel.inputEvb = []
  output : h.channel.outputEvb = response r

/-! ### The response -/

/-- The response is written, and the handler is ready for the next request; what its channel drops is
its own business. -/
theorem serveResponse_spec (hready : h.Ready fs) (hinfo : h.currentReq = infoAfter r 3)
    (hzero : h.remainingReqBodyLength = 0) :
    h.serveResponse = .ok { h with
      channel := { h.channel with outputEvb := response r }
      currentReq := {}, httpReqState := .reqLine, served := fs.length + 1 } := by
  have hmeta : h.currentReq.respMetaSize = r.expRespMetaSize := by rw [hinfo]; rfl
  have hbody : h.currentReq.respBodySize = r.expRespBodySize := by rw [hinfo]; rfl
  have hactive : h.currentReq.active = true := by rw [hinfo]; rfl
  have hnone : ¬ 0 < r.expRespBodySize → dummy r.expRespBodySize.toNat = [] := by
    intro hnot
    have hle : r.expRespBodySize.toNat ≤ 0 := by simpa [UInt64.lt_iff_toNat_lt] using hnot
    rw [Nat.le_zero.mp hle]
    rfl
  simp only [serveResponse, hzero, hactive, hmeta, hbody, check_pos, ok_bind, hready.served,
    response, TcpChannel.write, writeDummy, hready.output, pure_eq_ok, Except.ok.injEq]
  split <;> split <;> simp_all [List.append_assoc]

/-! ### One turn of the loop -/

/-- The assertions on a header line hold of the lines that are written. -/
theorem consumeHeaderLine_of_name {name : List UInt8} (n : UInt64) (hname : 58 ∉ name)
    (hshort : name.length ≤ 14) :
    (headerLine name (decimal n.toNat)).length < 127 ∧
      (headerName (headerLine name (decimal n.toNat))).length ≤
        sizeSub (headerLine name (decimal n.toNat)).length 3 := by
  obtain ⟨hpos, hle⟩ := length_decimal_toNat n
  rw [headerName_headerLine hname, length_headerLine, sizeSub]
  omega

theorem consumeHeaderLine_meta (n : UInt64) (h : Handler) :
    consumeHeaderLine lc (headerLine respMetaSizeName (decimal n.toNat)) h =
      .ok { h with currentReq := { h.currentReq with respMetaSize := n } } := by
  have hname : 58 ∉ respMetaSizeName := by decide +kernel
  obtain ⟨hlt, hle⟩ := consumeHeaderLine_of_name n hname (by decide +kernel)
  rw [consumeHeaderLine, check_pos hlt, ok_bind, check_pos (mem_headerLine _ _), ok_bind,
    check_pos hle, ok_bind, headerName_headerLine hname, if_pos rfl,
    headerNumber_decimal lc hname]
  rfl

theorem consumeHeaderLine_body (n : UInt64) (h : Handler) :
    consumeHeaderLine lc (headerLine respBodySizeName (decimal n.toNat)) h =
      .ok { h with currentReq := { h.currentReq with respBodySize := n } } := by
  have hname : 58 ∉ respBodySizeName := by decide +kernel
  have hne : respBodySizeName ≠ respMetaSizeName := by decide +kernel
  obtain ⟨hlt, hle⟩ := consumeHeaderLine_of_name n hname (by decide +kernel)
  rw [consumeHeaderLine, check_pos hlt, ok_bind, check_pos (mem_headerLine _ _), ok_bind,
    check_pos hle, ok_bind, headerName_headerLine hname, if_neg hne, if_pos rfl,
    headerNumber_decimal lc hname]
  rfl

theorem consumeHeaderLine_length (n : UInt64) (h : Handler) :
    consumeHeaderLine lc (headerLine contentLengthName (decimal n.toNat)) h =
      .ok { h with remainingReqBodyLength := n.toNat } := by
  have hname : 58 ∉ contentLengthName := by decide +kernel
  have hne : contentLengthName ≠ respMetaSizeName := by decide +kernel
  have hne' : contentLengthName ≠ respBodySizeName := by decide +kernel
  obtain ⟨hlt, hle⟩ := consumeHeaderLine_of_name n hname (by decide +kernel)
  rw [consumeHeaderLine, check_pos hlt, ok_bind, check_pos (mem_headerLine _ _), ok_bind,
    check_pos hle, ok_bind, headerName_headerLine hname, if_neg hne, if_neg hne', if_pos rfl,
    headerNumber_decimal lc hname]
  rfl

/-- **A header line is read.** -/
theorem consumeHeaderLine_spec {k : ℕ} {line : List UInt8} (hsized : r.Sized)
    (hline : r.headerLines[k]? = some line) (hinfo : h.currentReq = infoAfter r k)
    (hlen : h.remainingReqBodyLength = lengthAfter r k) :
    consumeHeaderLine lc line h = .ok { h with
      currentReq := infoAfter r (k + 1), remainingReqBodyLength := lengthAfter r (k + 1) } := by
  have hk : k < 3 := (List.getElem?_eq_some_iff.mp hline).1
  interval_cases k
  · obtain rfl : headerLine respMetaSizeName _ = line := Option.some.inj hline
    simp [consumeHeaderLine_meta, hinfo, hlen, infoAfter, lengthAfter]
  · obtain rfl : headerLine respBodySizeName _ = line := Option.some.inj hline
    simp [consumeHeaderLine_body, hinfo, hlen, infoAfter, lengthAfter]
  · obtain rfl : headerLine contentLengthName _ = line := Option.some.inj hline
    have hread := consumeHeaderLine_length lc (UInt64.ofNat r.numOpaqueBytes) h
    rw [hsized.numOpaqueBytes.2] at hread
    simp [hread, hinfo, infoAfter, lengthAfter]

/-- The lines that are left, after a line that is left. -/
theorem drop_headerLines {k : ℕ} (hk : k < 3) :
    ∃ line, r.headerLines[k]? = some line ∧
      r.headerLines.drop k = line :: r.headerLines.drop (k + 1) := by
  have hlt : k < r.headerLines.length := hk
  exact ⟨_, List.getElem?_eq_getElem hlt, List.drop_eq_getElem_cons hlt⟩

/-- **The header lines that have arrived are read**, and with the last of them the handler goes on to
the body. -/
theorem consumeHeaders_spec {k fuel : ℕ} (hsized : r.Sized) (hready : h.Ready fs) (hk : k ≤ 3)
    (hstate : h.httpReqState = .headers) (hdrop : h.channel.inputDrop = {})
    (hinfo : h.currentReq = infoAfter r k) (hlen : h.remainingReqBodyLength = lengthAfter r k)
    (hfound : h.found = fs) (hin : h.channel.inputEvb ++ future =
      unlines (r.headerLines.drop k) ++ crlf ++ dummy r.numOpaqueBytes)
    (hfuel : h.channel.inputEvb.length < fuel) :
    ∃ h', consumeHeaders lc fuel h = .ok h' ∧ Reading r fs h' future ∧
      (h'.httpReqState ≠ .headers → h'.channel.inputEvb.length < h.channel.inputEvb.length) ∧
      (h'.httpReqState = .headers → future ≠ []) := by
  -- by induction on the fuel: each line that is read makes the input shorter
  induction fuel generalizing h k with
  | zero => omega
  | succ fuel ih =>
    rw [consumeHeaders]
    by_cases hlast : k = 3
    · -- only the empty line is left
      subst hlast
      have hempty : h.channel.inputEvb ++ future =
          [] ++ crlf ++ dummy r.numOpaqueBytes := hin
      rcases readln_append (by simp) hempty with ⟨rest, hread, hrest⟩ | ⟨hread, hfuture⟩
      · have hpos := hsized.numOpaqueBytes.1
        have hne : r.numOpaqueBytes ≠ 0 := by omega
        have hlength : h.remainingReqBodyLength = r.numOpaqueBytes := hlen
        simp only [hread, if_true, endOfHeaders, setInput, hlength, if_pos hne]
        refine ⟨_, rfl, .body ⟨hready.output, hready.lwMark, hready.served⟩ rfl hdrop hinfo ?_ ?_ ?_,
          fun _ => length_of_readln hread, by simp⟩
        · exact hlength ▸ hpos
        · simp [hinfo, hfound, infoAfter, Request.framing]
        · simpa [hlength] using hrest
      · simp only [hread]
        exact ⟨h, rfl, .headers 3 hready hk hstate hdrop hinfo hlen hfound hin,
          fun hne => absurd hstate hne, fun _ => hfuture⟩
    · -- one more header line is there, or its end is in `future`
      obtain ⟨line, hline, hlines⟩ := drop_headerLines (r := r) (show k < 3 by omega)
      obtain ⟨hcr, hne⟩ := r.headerLines_spec line (List.mem_of_getElem? hline)
      have htext : h.channel.inputEvb ++ future = line ++ crlf ++
          (unlines (r.headerLines.drop (k + 1)) ++ crlf ++ dummy r.numOpaqueBytes) := by
        rw [hin, hlines, unlines_cons]
        simp only [List.append_assoc]
      rcases readln_append hcr htext with ⟨rest, hread, hrest⟩ | ⟨hread, hfuture⟩
      · have hshort := length_of_readln hread
        have hone := @consumeHeaderLine_spec lc r (h.setInput rest) k line hsized hline hinfo hlen
        simp only [hread, if_neg hne, hone, ok_bind]
        obtain ⟨h', heq, hreads, hless, hfuture⟩ := @ih
          { h.setInput rest with
            currentReq := infoAfter r (k + 1)
            remainingReqBodyLength := lengthAfter r (k + 1) } (k + 1)
          ⟨hready.output, hready.lwMark, hready.served⟩ (by omega) hstate hdrop rfl rfl hfound hrest
          (by simp only [setInput]; omega)
        exact ⟨h', heq, hreads, fun hne => Nat.lt_trans (hless hne) hshort, hfuture⟩
      · simp only [hread]
        exact ⟨h, rfl, .headers k hready hk hstate hdrop hinfo hlen hfound hin,
          fun hne => absurd hstate hne, fun _ => hfuture⟩

/-- A response is written when the last byte of the body has come. -/
theorem Answered.mk_of_serve {ch : TcpChannel} (hready : h.Ready fs)
    (hfound : h.found = fs ++ [r.framing]) (hzero : h.remainingReqBodyLength = 0)
    (hch : ch = { h.channel with outputEvb := response r }) (hinput : ch.inputEvb = [])
    (hdrop : ch.inputDrop = {}) :
    Answered r fs { h with
      channel := ch, currentReq := {}, httpReqState := .reqLine, served := fs.length + 1 } := by
  subst hch
  exact ⟨⟨rfl, rfl, hzero, hdrop, hready.lwMark, hfound, by simp⟩, hinput, rfl⟩

/-- **The bytes of the body that have arrived are consumed**, and if it is not complete the channel
is told to drop the others. -/
theorem consumeBody_spec (hready : h.Ready fs) (hstate : h.httpReqState = .body)
    (hdrop : h.channel.inputDrop = {}) (hinfo : h.currentReq = infoAfter r 3)
    (hpos : 0 < h.remainingReqBodyLength) (hfound : h.found = fs ++ [r.framing])
    (hin : h.channel.inputEvb ++ future = dummy h.remainingReqBodyLength) :
    (∃ h', h.consumeBody = .ok (h', false) ∧ Dropping r fs h' future) ∨
      ∃ h', h.consumeBody = .ok (h', true) ∧ Answered r fs h' ∧ future = [] := by
  obtain ⟨hle, hfuture⟩ := dummy_eq_append hin
  have hmin : min h.channel.inputEvb.length h.remainingReqBodyLength =
      h.channel.inputEvb.length := Nat.min_eq_left hle
  by_cases hlt : h.channel.inputEvb.length < h.remainingReqBodyLength
  · -- the rest is dropped when it comes
    have hleft : 0 < h.remainingReqBodyLength - h.channel.inputEvb.length := Nat.sub_pos_of_lt hlt
    refine .inl ⟨{ h.setInput [] with
      remainingReqBodyLength := h.remainingReqBodyLength - h.channel.inputEvb.length
      channel := { h.channel with
        inputEvb := []
        inputDrop :=
          { numRequested := h.remainingReqBodyLength - h.channel.inputEvb.length
            numRemaining := h.remainingReqBodyLength - h.channel.inputEvb.length
            interestedInProgress := false } } }, ?_, ?_⟩
    · simp [consumeBody, hpos, check_pos, hmin, setInput, hleft, TcpChannel.dropFutureInput, hdrop,
        Except.mapError]
    · exact ⟨⟨hready.output, hready.lwMark, hready.served⟩, hstate, hinfo, hfound, rfl, rfl, rfl,
        hleft, Nat.le_refl _, hfuture⟩
  · have heq : h.remainingReqBodyLength = h.channel.inputEvb.length := by omega
    have hserve := @serveResponse_spec r fs { h.setInput [] with remainingReqBodyLength := 0 }
      ⟨hready.output, hready.lwMark, hready.served⟩ hinfo rfl
    refine .inr ⟨_, ?_, Answered.mk_of_serve (h := { h.setInput [] with
      remainingReqBodyLength := 0 }) ⟨hready.output, hready.lwMark, hready.served⟩ hfound rfl rfl rfl
      hdrop, ?_⟩
    · have hnil : h.channel.inputEvb.drop h.channel.inputEvb.length = [] := List.drop_length
      have hzero : h.remainingReqBodyLength - h.channel.inputEvb.length = 0 := by omega
      simp only [consumeBody, check_pos hpos, ok_bind, hmin, hnil, hzero, Nat.lt_irrefl, if_false,
        hserve, pure_eq_ok]
    · rw [hfuture, heq, Nat.sub_self]
      rfl

/-- **One turn of the loop.**  The handler goes on with the request, or has answered it; when it
wants to go on, it has consumed something. -/
theorem Reading.consumeOnce (hsized : r.Sized) (hr : Reading r fs h future) :
    ∃ h' keep, consumeOnce lc h = .ok (h', keep) ∧
      ((Reading r fs h' future ∧
          (keep = true → h'.channel.inputEvb.length < h.channel.inputEvb.length) ∧
          (keep = false → future ≠ [])) ∨
        (Dropping r fs h' future ∧ keep = false) ∨ (Answered r fs h' ∧ future = [])) := by
  cases hr with
  -- the request line is there in full, or its end is in `future`
  | reqLine hrest hout hin =>
    rw [r.bytes_eq] at hin
    have hcr : 13 ∉ requestLine := by decide +kernel
    have hinactive : h.currentReq.active = false := by rw [hrest.info]
    rcases readln_append hcr hin with ⟨rest, hread, hrest'⟩ | ⟨hread, hfuture⟩
    · refine ⟨{ h.setInput rest with
        currentReq := { h.currentReq with active := true }
        httpReqState := .headers }, true, ?_, .inl ⟨.headers 0 ⟨hout, hrest.lwMark, ?_⟩ (Nat.zero_le _)
        rfl ?_ ?_ ?_ ?_ hrest', fun _ => length_of_readln hread, by simp⟩⟩
      · simp only [Handler.consumeOnce, hrest.state, consumeReqLine, hread, check_pos hinactive,
          ok_bind, pure_eq_ok]
        rfl
      · exact hrest.served
      · exact hrest.drop
      · simp [infoAfter, hrest.info]
      · exact hrest.remaining
      · exact hrest.found
    · refine ⟨h, false, ?_, .inl ⟨.reqLine hrest hout (by rw [r.bytes_eq]; exact hin), by simp,
        fun _ => hfuture⟩⟩
      simp only [Handler.consumeOnce, hrest.state, consumeReqLine, hread]
  | headers k hready hk hstate hdrop hinfo hlen hfound hin =>
    obtain ⟨h', heq, hreads, hless, hfuture⟩ := consumeHeaders_spec lc hsized hready hk hstate hdrop
      hinfo hlen hfound hin (Nat.lt_succ_self _)
    refine ⟨h', decide (h'.httpReqState ≠ .headers), ?_, .inl ⟨hreads,
      fun hkeep => hless (of_decide_eq_true hkeep), fun hkeep => hfuture ?_⟩⟩
    · simp only [Handler.consumeOnce, hstate, heq, ok_bind, pure_eq_ok]
    · exact Classical.not_not.mp (of_decide_eq_false hkeep)
  | body hready hstate hdrop hinfo hpos hfound hin =>
    have hone : Handler.consumeOnce lc h = h.consumeBody := by
      simp only [Handler.consumeOnce, hstate]
    rw [hone]
    rcases consumeBody_spec hready hstate hdrop hinfo hpos hfound hin with
      ⟨h', heq, hdropping⟩ | ⟨h', heq, hanswered⟩
    · exact ⟨h', false, heq, .inr (.inl ⟨hdropping, rfl⟩)⟩
    · exact ⟨h', true, heq, .inr (.inr hanswered)⟩

/-! ### What arrives -/

/-- A request that is not complete has something left. -/
theorem Reading.ne_nil (hr : Reading r fs h future) : h.channel.inputEvb ++ future ≠ [] := by
  cases hr with
  | reqLine hrest hout hin =>
    rw [hin, r.bytes_eq]
    simp [crlf]
  | headers k hready hk hstate hdrop hinfo hlen hfound hin =>
    rw [hin]
    simp [crlf]
  | body hready hstate hdrop hinfo hpos hfound hin =>
    rw [hin]
    exact dummy_ne_nil hpos

theorem Dropping.ne_nil (hd : Dropping r fs h future) : future ≠ [] := by
  rw [hd.rest]
  exact dummy_ne_nil hd.pos

/-- **The loop.** -/
theorem Reading.consumeLoop {fuel : ℕ} (hsized : r.Sized) (hr : Reading r fs h future)
    (hfuel : h.channel.inputEvb.length < fuel) :
    ∃ h', consumeLoop lc fuel h = .ok h' ∧
      ((Reads r fs h' future ∧ future ≠ []) ∨ (Answered r fs h' ∧ future = [])) := by
  induction fuel generalizing h with
  | zero => omega
  | succ fuel ih =>
    obtain ⟨h', keep, heq, hcases⟩ := hr.consumeOnce lc hsized
    simp only [Handler.consumeLoop, heq, ok_bind]
    rcases hcases with ⟨hreading, hless, hfuture⟩ | ⟨hdropping, rfl⟩ | ⟨hanswered, hnil⟩
    · by_cases hgo : keep = true ∧ h'.channel.inputEvb ≠ []
      · rw [if_pos hgo]
        have hlt := hless hgo.1
        exact ih hreading (by omega)
      · rw [if_neg hgo]
        refine ⟨h', rfl, .inl ⟨.inl hreading, fun hnil => ?_⟩⟩
        -- the request is not complete, so what is left of it is in the buffer or to come
        by_cases hkeep : keep = true
        · have hinput : h'.channel.inputEvb = [] :=
            Classical.not_not.mp fun hne => hgo ⟨hkeep, hne⟩
          exact hreading.ne_nil (by rw [hinput, hnil]; rfl)
        · exact hfuture (by simpa using hkeep) hnil
    · exact ⟨h', by simp, .inl ⟨.inr hdropping, hdropping.ne_nil⟩⟩
    · exact ⟨h', by simp [hanswered.input], .inr ⟨hanswered, hnil⟩⟩

/-- More of what is to come has arrived. -/
theorem Reading.receive {bs : List UInt8} (hr : Reading r fs h (bs ++ future)) :
    Reading r fs (h.setInput (h.channel.inputEvb ++ bs)) future := by
  cases hr with
  | reqLine hrest hout hin =>
    rw [← List.append_assoc] at hin
    exact .reqLine ⟨hrest.state, hrest.info, hrest.remaining, hrest.drop, hrest.lwMark, hrest.found,
      hrest.served⟩ hout hin
  | headers k hready hk hstate hdrop hinfo hlen hfound hin =>
    rw [← List.append_assoc] at hin
    exact .headers k ⟨hready.output, hready.lwMark, hready.served⟩ hk hstate hdrop hinfo hlen hfound
      hin
  | body hready hstate hdrop hinfo hpos hfound hin =>
    rw [← List.append_assoc] at hin
    exact .body ⟨hready.output, hready.lwMark, hready.served⟩ hstate hdrop hinfo hpos hfound hin

/-- A handler that reads has asked for nothing to be dropped, and for no low-water mark. -/
theorem Reading.channel (hr : Reading r fs h future) :
    h.channel.inputDrop = {} ∧ h.channel.readLwMark = 0 := by
  cases hr with
  | reqLine hrest => exact ⟨hrest.drop, hrest.lwMark⟩
  | headers k hready hk hstate hdrop => exact ⟨hdrop, hready.lwMark⟩
  | body hready hstate hdrop => exact ⟨hdrop, hready.lwMark⟩

/-- What is dropped is told once, when all of it has come. -/
theorem Dropping.maybeDropread {bs : List UInt8} (hd : Dropping r fs h (bs ++ future))
    (hne : bs ≠ []) :
    ∃ h', (observer lc).maybeDropread bs.length h = .ok h' ∧
      (Dropping r fs h' future ∨ (Answered r fs h' ∧ future = [])) := by
  obtain ⟨hle, hfuture⟩ := dummy_eq_append hd.rest
  have hlen : 0 < bs.length := List.length_pos_iff.mpr hne
  by_cases hlt : bs.length < h.channel.inputDrop.numRemaining
  · -- more is to come
    have hmore : ¬ h.channel.inputDrop.numRemaining - bs.length = 0 := by omega
    refine ⟨{ h with channel := { h.channel with inputDrop := { h.channel.inputDrop with
      numRemaining := h.channel.inputDrop.numRemaining - bs.length } } }, ?_, .inl ?_⟩
    · simp [StreamObserver.maybeDropread, observer, hd.progress, hmore]
    · have hleft := hd.le
      exact ⟨⟨hd.ready.output, hd.ready.lwMark, hd.ready.served⟩, hd.state, hd.info, hd.found,
        hd.input, hd.requested, hd.progress, Nat.sub_pos_of_lt hlt, by simp only; omega, hfuture⟩
  · have hall : h.channel.inputDrop.numRemaining - bs.length = 0 := by omega
    have hsub : h.remainingReqBodyLength - h.channel.inputDrop.numRequested = 0 := by
      rw [hd.requested, Nat.sub_self]
    have hserve := fun d => @serveResponse_spec r fs
      { h with channel := { h.channel with inputDrop := d }, remainingReqBodyLength := 0 }
      ⟨hd.ready.output, hd.ready.lwMark, hd.ready.served⟩ hd.info rfl
    refine ⟨{ h with
      channel := { h.channel with outputEvb := response r, inputDrop := {} }
      remainingReqBodyLength := 0, currentReq := {}, httpReqState := .reqLine
      served := fs.length + 1 }, ?_, .inr ⟨?_, ?_⟩⟩
    · simp only [StreamObserver.maybeDropread, observer, hall, hd.progress, onInputBytesDropped,
        Bool.false_eq_true, if_false, if_true, check_pos hd.state, check_pos hd.requested.symm,
        hsub, check_pos, hserve, ok_bind]
      rfl
    · exact ⟨⟨rfl, rfl, rfl, rfl, hd.ready.lwMark, hd.found, by simp⟩, hd.input, rfl⟩
    · rw [hfuture, hall]
      rfl

/-- **More of the request arrives.**  No assertion fails; the handler is somewhere in the request, or
has answered it when its last byte has come. -/
theorem Reads.onSocketReadcb {bs : List UInt8} (hsized : r.Sized) (hne : bs ≠ [])
    (hr : Reads r fs h (bs ++ future)) :
    ∃ h', (observer lc).onSocketReadcb h bs = .ok h' ∧
      ((Reads r fs h' future ∧ future ≠ []) ∨ (Answered r fs h' ∧ future = [])) := by
  rcases hr with hr | hd
  · obtain ⟨hdrop, hlw⟩ := hr.channel
    have hidle : ((observer lc).channel h).inputDrop.numRemaining = 0 := by
      show h.channel.inputDrop.numRemaining = 0
      rw [hdrop]
    have hinput : (h.setInput (h.channel.inputEvb ++ bs)).channel.inputEvb ≠ [] := by
      simp [setInput, hne]
    obtain ⟨h', heq, hcases⟩ := hr.receive.consumeLoop lc hsized (Nat.lt_succ_self _)
    refine ⟨h', ?_, hcases⟩
    have hmark : ((observer lc).channel h).readLwMark ≤
        ((observer lc).channel h).inputEvb.length + bs.length := by
      show h.channel.readLwMark ≤ _
      rw [hlw]
      exact Nat.zero_le _
    rw [StreamObserver.onSocketReadcb_of_idle _ hidle hne, StreamObserver.evbufferRead,
      if_pos hmark, ← heq]
    exact if_neg hinput
  · -- the bytes of the body are dropped
    obtain ⟨hle, -⟩ := dummy_eq_append hd.rest
    have hmin : min h.channel.inputDrop.numRemaining bs.length = bs.length := Nat.min_eq_right hle
    have hlen : bs.length ≠ 0 := fun hzero => hne (List.length_eq_zero_iff.mp hzero)
    obtain ⟨h', heq, hcases⟩ := hd.maybeDropread lc hne
    refine ⟨h', ?_, ?_⟩
    · have hk : min ((observer lc).channel h).inputDrop.numRemaining bs.length = bs.length := hmin
      simp only [StreamObserver.onSocketReadcb, hk, if_neg hlen, heq, ok_bind, List.drop_length,
        if_true]
    · rcases hcases with hd' | hanswered
      · exact .inl ⟨.inr hd', hd'.ne_nil⟩
      · exact .inr hanswered

end Handler

end ShadowBrowser.Web
