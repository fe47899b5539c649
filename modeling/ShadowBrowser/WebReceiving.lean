/-
A connection receives a response.

`Receives fin r log c future` says how far the connection `c` is with the response to
its active request `r`, of which the bytes `future` are yet to arrive; the requests of
`fin` are finished, and `log` is what the user was told of them.

* `Books.doneWithResp`, `Receiving.gotAChunkOfRespBody` — the end of a response, and a
  part of its body;
* `Receiving.consumeOnce` — one turn of the loop goes on with the response, or ends it;
* **`Receives.onSocketReadcb`** — so does whatever arrives of the response, however it is
  cut and whatever the user submits meanwhile, and no assertion fails.
-/
import ShadowBrowser.WebQueue

namespace ShadowBrowser.Web

open Checked Http Texts

/-- A `size_t` is read as `%ld` prints it. -/
theorem cast_printLd (lc : LexicalCast) (n : UInt64) : lc.cast (printLd n) = some n := by
  rw [printLd]
  by_cases hlt : n.toNat < 2 ^ 63
  · rw [if_pos hlt, lc.decimal]
  · rw [if_neg hlt, lc.negative, UInt64.neg_neg]

theorem not_mem_printLd (n : UInt64) : 13 ∉ printLd n := by
  rw [printLd]
  by_cases hlt : n.toNat < 2 ^ 63
  · rw [if_pos hlt]
    exact not_mem_decimal _
  · rw [if_neg hlt, List.mem_cons, not_or]
    exact ⟨by decide, not_mem_decimal _⟩

/-! ### A response -/

namespace Request

/-- The value of the dummy header in the response. -/
def dummyValue (r : Request) : List UInt8 :=
  let needed := Handler.numDummyHdrBytes r.expRespMetaSize
    (Handler.respHead r.expRespBodySize).length
  if 0 < needed then dummy needed.toNat else ascii "n/a"

/-- The headers of the response. -/
def respHdrs (r : Request) : List (List UInt8 × List UInt8) :=
  [(contentLengthName, printLd r.expRespBodySize), (dummyName, r.dummyValue)]

/-- Their lines. -/
def respLines (r : Request) : List (List UInt8) := r.respHdrs.map fun p => headerLine p.1 p.2

/-- What the user is told of the request until its response is complete, when its body comes in
`chunks`. -/
def report (r : Request) (chunks : List ℕ) : List (ℕ × Notice) :=
  (r.objId, .rspMeta 200 r.respHdrs) :: chunks.map fun len => (r.objId, .bodyData len)

theorem report_append (r : Request) (chunks : List ℕ) (len : ℕ) :
    r.report (chunks ++ [len]) = r.report chunks ++ [(r.objId, .bodyData len)] := by
  simp [report]

theorem response_eq (r : Request) :
    Handler.response r = respStatusLine ++ crlf ++
      (unlines r.respLines ++ crlf ++ dummy r.expRespBodySize.toNat) := by
  simp only [Handler.response, Handler.respHead, respLines, respHdrs, dummyValue, List.map_cons,
    List.map_nil, unlines_cons, unlines_nil, headerLine, List.append_assoc, List.append_nil]

theorem respHdrs_spec (r : Request) : ∀ p ∈ r.respHdrs, 58 ∉ p.1 ∧ 13 ∉ p.1 ∧ 13 ∉ p.2 := by
  intro p hp
  have hlength : 58 ∉ contentLengthName ∧ 13 ∉ contentLengthName := by decide +kernel
  have hdummy : 58 ∉ dummyName ∧ 13 ∉ dummyName := by decide +kernel
  simp only [respHdrs, List.mem_cons, List.not_mem_nil, or_false] at hp
  rcases hp with rfl | rfl
  · exact ⟨hlength.1, hlength.2, not_mem_printLd _⟩
  · refine ⟨hdummy.1, hdummy.2, ?_⟩
    simp only [dummyValue]
    split
    · intro hmem
      exact absurd (List.eq_of_mem_replicate hmem) (by decide)
    · decide +kernel

end Request

namespace Connection

variable (lc : LexicalCast) {inside : Inside} {c c' : Connection} {fin cur : List Request}
  {got : ℕ} {r : Request} {log : List (ℕ × Notice)} {future : List UInt8}

/-- The connection can receive, and what it has written has gone. -/
structure Ready (c : Connection) : Prop where
  connected : c.connected = true
  output : c.channel.outputEvb = []
  lwMark : c.channel.readLwMark = 0

/-- The response to `r` is complete, and the user has been told.  The next request is written, if
there is one. -/
structure Complete (fin : List Request) (r : Request) (log : List (ℕ × Notice)) (c : Connection) :
    Prop where
  connected : c.connected = true
  state : c.httpRspState = .statusLine
  hdrs : c.rspHdrs = []
  remaining : c.remainingRespBodyLen = 0
  lwMark : c.channel.readLwMark = 0
  told : ∃ chunks, chunks.sum = r.expRespBodySize.toNat ∧
    c.log = log ++ r.report chunks ++ [(r.objId, .done)]
  next : ∃ cur, Books (fin ++ [r]) cur 0 c ∧ Busy c ∧
    ((cur = [] ∧ c.channel.outputEvb = []) ∨ ∃ r', cur = [r'] ∧ c.channel.outputEvb = r'.bytes)

/-- What the user submits can be written. -/
def Fit (inside : Inside) : Prop := ∀ spec ∈ inside.specs, spec.Sized ∧ spec.Hinted

theorem Fit.parts (h : Fit inside) :
    (∀ spec ∈ inside.rspMeta, spec.Sized ∧ spec.Hinted) ∧
    (∀ spec ∈ inside.rspBodyData, spec.Sized ∧ spec.Hinted) ∧
    (∀ spec ∈ inside.rspDone, spec.Sized ∧ spec.Hinted) ∧
    (∀ spec ∈ inside.requestDone, spec.Sized ∧ spec.Hinted) := by
  refine ⟨fun spec hmem => h spec ?_, fun spec hmem => h spec ?_, fun spec hmem => h spec ?_,
    fun spec hmem => h spec ?_⟩ <;> simp [Inside.specs, hmem]

/-- **The end of a response.**  The user is told, and the next request is written. -/
theorem Books.doneWithResp {chunks : List ℕ} (h : Books fin [r] r.expRespBodySize.toNat c)
    (hfit : Fit inside) (hready : Ready c) (hhdrs : c.rspHdrs = [])
    (hzero : c.remainingRespBodyLen = 0) (hlog : c.log = log ++ r.report chunks)
    (hsum : chunks.sum = r.expRespBodySize.toNat) :
    ∃ c', doneWithResp inside c = .ok c' ∧ Complete fin r log c' ∧
      c'.channel.inputEvb = c.channel.inputEvb ∧
      c'.channel.inputDrop = c.channel.inputDrop := by
  obtain ⟨-, -, hfitDone, hfitRequest⟩ := hfit.parts
  have hactive : c.queues.active = [r.received r.expRespBodySize.toNat] := h.active
  have hdone : c.queues.done = .ok ({ c.queues with active := [] },
      r.received r.expRespBodySize.toNat) := by
    simp [ReqQueues.done, hactive, check_pos]
  have hbooks : Books (fin ++ [r]) [] 0 (({ c with
      queues := { c.queues with active := [] } } : Connection).notify
        (r.received r.expRespBodySize.toNat) .done) :=
    ⟨h.ids, h.good, by simpa [notify] using h.queued, rfl, by simp, by simp⟩
  -- the callbacks may submit requests, and the next one is then written
  obtain ⟨c₁, cur₁, heq₁, hsame₁, hbooks₁, hwrote₁⟩ := hbooks.submitAll hfitDone
  have hbooks₁' : Books (fin ++ [r]) cur₁ 0 { c₁ with httpRspState := .statusLine } :=
    hbooks₁.of_eq rfl rfl
  obtain ⟨c₂, cur₂, heq₂, hsame₂, hbooks₂, hwrote₂⟩ := hbooks₁'.submitAll hfitRequest
  obtain ⟨c₃, cur₃, heq₃, hsame₃, -, hbooks₃, hwrote₃, hbusy⟩ := hbooks₂.maybeHttpWriteToTransport
  have hsame := hsame₂.trans hsame₃
  refine ⟨c₃, ?_, ⟨?_, ?_, ?_, ?_, ?_, ⟨chunks, hsum, ?_⟩, cur₃, hbooks₃, hbusy, ?_⟩, ?_, ?_⟩
  · simp only [Connection.doneWithResp, check_pos hzero, ok_bind, hdone, Except.mapError]
    rw [check_pos (show (r.received r.expRespBodySize.toNat).expRespBodySize.toNat =
      (r.received r.expRespBodySize.toNat).actualRespBodySize from rfl)]
    simp only [ok_bind, heq₁, heq₂, heq₃]
  · rw [hsame.connected]
    exact hsame₁.connected.trans hready.connected
  · rw [hsame.state]
  · rw [hsame.hdrs]
    exact hsame₁.hdrs.trans hhdrs
  · rw [hsame.remaining]
    exact hsame₁.remaining.trans hzero
  · rw [hsame.lwMark]
    exact hsame₁.lwMark.trans hready.lwMark
  · rw [hsame.log]
    exact hsame₁.log.trans (by rw [← hlog]; rfl)
  · have hwrote : Wrote [] c cur₃ c₃ := hwrote₁.trans (hwrote₂.trans hwrote₃)
    rcases hwrote with ⟨rfl, hout⟩ | ⟨-, r', rfl, hout⟩
    · exact .inl ⟨rfl, hout.trans hready.output⟩
    · exact .inr ⟨r', rfl, by rw [hout, hready.output, List.nil_append]⟩
  · rw [hsame.input]
    exact hsame₁.input
  · rw [hsame.drop]
    exact hsame₁.drop

/-- The connection is in the body of the response to `r`, of which `chunks` have come. -/
structure InBody (fin : List Request) (r : Request) (log : List (ℕ × Notice)) (c : Connection)
    (chunks : List ℕ) : Prop where
  ready : c.Ready
  books : Books fin [r] chunks.sum c
  state : c.httpRspState = .body
  hdrs : c.rspHdrs = []
  pos : 0 < c.remainingRespBodyLen
  sum : chunks.sum + c.remainingRespBodyLen = r.expRespBodySize.toNat
  told : c.log = log ++ r.report chunks

/-- **A part of the body.**  The user is told; more of the body is to come, or the response is
complete. -/
theorem InBody.gotAChunkOfRespBody {chunks : List ℕ} {len : ℕ} (h : InBody fin r log c chunks)
    (hfit : Fit inside) (hle : len ≤ c.remainingRespBodyLen) :
    ∃ c', gotAChunkOfRespBody inside len c = .ok c' ∧
      c'.channel.inputEvb = c.channel.inputEvb ∧ c'.channel.inputDrop = c.channel.inputDrop ∧
      ((len < c.remainingRespBodyLen ∧ InBody fin r log c' (chunks ++ [len]) ∧
          c'.remainingRespBodyLen = c.remainingRespBodyLen - len) ∨
        (len = c.remainingRespBodyLen ∧ Complete fin r log c')) := by
  have hactive : c.queues.active = [r.received chunks.sum] := h.books.active
  have hsum : (chunks ++ [len]).sum = chunks.sum + len := by simp
  have hbooks : Books fin [r] (chunks ++ [len]).sum (({ c with
      remainingRespBodyLen := c.remainingRespBodyLen - len
      queues := { c.queues with active := [r.received (chunks.sum + len)] } } : Connection).notify
        (r.received chunks.sum) (.bodyData len)) :=
    ⟨h.books.ids, h.books.good, h.books.queued, by rw [hsum]; rfl, h.books.single, by simp⟩
  -- the callback may submit requests, but one is active, so none of them is written
  obtain ⟨c₁, heq₁, hsame, hbooks₁, hout⟩ := hbooks.submitAll_active hfit.parts.2.1
  have hlog : c₁.log = log ++ r.report (chunks ++ [len]) := by
    rw [hsame.log, r.report_append, ← List.append_assoc, ← h.told]
    rfl
  have hready : c₁.Ready := ⟨hsame.connected.trans h.ready.connected, hout.trans h.ready.output,
    hsame.lwMark.trans h.ready.lwMark⟩
  have hhdrs : c₁.rspHdrs = [] := hsame.hdrs.trans h.hdrs
  have hremaining : c₁.remainingRespBodyLen = c.remainingRespBodyLen - len := hsame.remaining
  have hchunk : Connection.gotAChunkOfRespBody inside len c =
      if c₁.remainingRespBodyLen = 0 then Connection.doneWithResp inside c₁ else .ok c₁ := by
    simp only [Connection.gotAChunkOfRespBody, check_pos hle, ok_bind, activeReq, hactive,
      List.tail_cons, Request.received]
    have heq₁' := heq₁
    simp only [Request.received] at heq₁'
    simp only [heq₁', ok_bind, pure_eq_ok]
  rw [hchunk]
  have htotal := h.sum
  by_cases hlt : len < c.remainingRespBodyLen
  · rw [if_neg (by omega)]
    refine ⟨c₁, rfl, hsame.input, hsame.drop, .inl ⟨hlt, ⟨hready, hbooks₁, ?_, hhdrs, by omega,
      by omega, hlog⟩, hremaining⟩⟩
    exact hsame.state.trans h.state
  · -- the body is complete
    rw [if_pos (by omega)]
    have hall : (chunks ++ [len]).sum = r.expRespBodySize.toNat := by omega
    rw [hall] at hbooks₁
    obtain ⟨c', heq, hcomplete, hinput, hdrop⟩ := hbooks₁.doneWithResp hfit hready hhdrs (by omega)
      hlog hall
    exact ⟨c', heq, hinput.trans hsame.input, hdrop.trans hsame.drop,
      .inr ⟨by omega, hcomplete⟩⟩

/-! ### One turn of the loop -/

/-- How much of the body is to come, when `k` header lines have been read. -/
def remainingAfter (r : Request) (k : ℕ) : ℕ := if 0 < k then r.expRespBodySize.toNat else 0

/-- The connection is in the headers of the response to `r`, of which it has read `k` lines. -/
structure InHeaders (fin : List Request) (r : Request) (log : List (ℕ × Notice)) (c : Connection)
    (k : ℕ) : Prop where
  ready : c.Ready
  books : Books fin [r] 0 c
  state : c.httpRspState = .headers
  hdrs : c.rspHdrs = r.respHdrs.take k
  remaining : c.remainingRespBodyLen = remainingAfter r k
  told : c.log = log

/-- The connection is between two responses. -/
structure AtRest (c : Connection) : Prop where
  state : c.httpRspState = .statusLine
  hdrs : c.rspHdrs = []
  remaining : c.remainingRespBodyLen = 0
  drop : c.channel.inputDrop = {}
  lwMark : c.channel.readLwMark = 0

/-- The connection receives the response to `r`, of which `future` is yet to arrive, and asks for
nothing to be dropped. -/
inductive Receiving (fin : List Request) (r : Request) (log : List (ℕ × Notice)) (c : Connection)
    (future : List UInt8) : Prop
  | statusLine (hrest : AtRest c) (hready : Ready c) (hbooks : Books fin [r] 0 c)
      (htold : c.log = log) (hin : c.channel.inputEvb ++ future = Handler.response r)
  | headers (k : ℕ) (hk : k ≤ 2) (hdrop : c.channel.inputDrop = {}) (h : InHeaders fin r log c k)
      (hin : c.channel.inputEvb ++ future =
        unlines (r.respLines.drop k) ++ crlf ++ dummy r.expRespBodySize.toNat)
  | body (chunks : List ℕ) (hdrop : c.channel.inputDrop = {}) (h : InBody fin r log c chunks)
      (hin : c.channel.inputEvb ++ future = dummy c.remainingRespBodyLen)

/-- The channel drops what is to come of the body of the response to `r`. -/
structure Skipping (fin : List Request) (r : Request) (log : List (ℕ × Notice)) (c : Connection)
    (future : List UInt8) : Prop where
  body : ∃ chunks, InBody fin r log c chunks
  input : c.channel.inputEvb = []
  progress : c.channel.inputDrop.interestedInProgress = true
  left : c.channel.inputDrop.numRemaining = c.remainingRespBodyLen
  rest : future = dummy c.remainingRespBodyLen

/-- The connection is somewhere in the response to `r`. -/
def Receives (fin : List Request) (r : Request) (log : List (ℕ × Notice)) (c : Connection)
    (future : List UInt8) : Prop :=
  Receiving fin r log c future ∨ Skipping fin r log c future

/-- A header line is read. -/
theorem InHeaders.consumeHeaderLine {k : ℕ} {p : List UInt8 × List UInt8}
    (h : InHeaders fin r log c k) (hp : r.respHdrs[k]? = some p) :
    ∃ c', consumeHeaderLine lc (headerLine p.1 p.2) c = .ok c' ∧ InHeaders fin r log c' (k + 1) ∧
      c'.channel = c.channel := by
  have hk : k < 2 := (List.getElem?_eq_some_iff.mp hp).1
  obtain ⟨hcolon, -, -⟩ := r.respHdrs_spec p (List.mem_of_getElem? hp)
  have htake : r.respHdrs.take k ++ [p] = r.respHdrs.take (k + 1) := by
    rw [List.take_add_one, hp]
    rfl
  have hbooks := h.books
  simp only [Connection.consumeHeaderLine, check_pos (mem_headerLine p.1 p.2), ok_bind,
    headerName_headerLine hcolon, headerValue_headerLine hcolon, h.hdrs, htake]
  interval_cases k
  · obtain rfl : (contentLengthName, printLd r.expRespBodySize) = p := Option.some.inj hp
    have hsame : sameName contentLengthName contentLengthName = true := by decide +kernel
    have hnumber : headerNumber lc (headerLine contentLengthName (printLd r.expRespBodySize)) =
        .ok r.expRespBodySize := by
      rw [headerNumber, headerValue_headerLine hcolon, cast_printLd]
    simp only [if_pos hsame, hnumber, ok_bind]
    exact ⟨_, rfl, ⟨⟨h.ready.connected, h.ready.output, h.ready.lwMark⟩, hbooks.of_eq rfl rfl,
      h.state, rfl, rfl, h.told⟩, rfl⟩
  · obtain rfl : (dummyName, r.dummyValue) = p := Option.some.inj hp
    have hother : ¬ sameName dummyName contentLengthName = true := by decide +kernel
    simp only [if_neg hother]
    exact ⟨_, rfl, ⟨⟨h.ready.connected, h.ready.output, h.ready.lwMark⟩, hbooks.of_eq rfl rfl,
      h.state, rfl, h.remaining, h.told⟩, rfl⟩

/-- The end of the headers: the user is told, and the body comes next if there is one. -/
theorem InHeaders.endOfHeaders (h : InHeaders fin r log c 2) (hfit : Fit inside) :
    ∃ c', endOfHeaders inside c = .ok c' ∧ c'.channel.inputEvb = c.channel.inputEvb ∧
      c'.channel.inputDrop = c.channel.inputDrop ∧
      ((InBody fin r log c' [] ∧ c'.remainingRespBodyLen = r.expRespBodySize.toNat) ∨
        (Complete fin r log c' ∧ r.expRespBodySize.toNat = 0)) := by
  have hactive : c.queues.active = [r.received 0] := h.books.active
  have hbooks : Books fin [r] 0 (c.notify (r.received 0) (.rspMeta 200 c.rspHdrs)) :=
    h.books.of_eq rfl rfl
  obtain ⟨c₁, heq₁, hsame, hbooks₁, hout⟩ := hbooks.submitAll_active hfit.parts.1
  have hlog : c₁.log = log ++ r.report [] := by
    rw [hsame.log, notify, h.hdrs, h.told]
    rfl
  have hremaining : c₁.remainingRespBodyLen = r.expRespBodySize.toNat :=
    hsame.remaining.trans h.remaining
  have hready : c₁.Ready := ⟨hsame.connected.trans h.ready.connected, hout.trans h.ready.output,
    hsame.lwMark.trans h.ready.lwMark⟩
  simp only [Connection.endOfHeaders, activeReq, hactive, ok_bind, heq₁]
  by_cases hbody : 0 < c₁.remainingRespBodyLen
  · simp only [if_pos hbody]
    exact ⟨_, rfl, hsame.input, hsame.drop, .inl ⟨⟨⟨hready.connected, hready.output, hready.lwMark⟩,
      hbooks₁.of_eq rfl rfl,
      rfl, rfl, hbody, by simpa using hremaining, hlog⟩, hremaining⟩⟩
  · simp only [if_neg hbody]
    have hzero : r.expRespBodySize.toNat = 0 := by omega
    have hbooks₂ : Books fin [r] r.expRespBodySize.toNat { c₁ with rspHdrs := [] } := by
      rw [hzero]
      exact hbooks₁.of_eq rfl rfl
    obtain ⟨c', heq, hcomplete, hinput, hdrop⟩ := hbooks₂.doneWithResp hfit
      ⟨hready.connected, hready.output, hready.lwMark⟩ rfl (by simp only; omega) hlog hzero.symm
    exact ⟨c', heq, hinput.trans hsame.input, hdrop.trans hsame.drop, .inr ⟨hcomplete, hzero⟩⟩

/-- The response is complete, and nothing of what has arrived is left. -/
def Ended (fin : List Request) (r : Request) (log : List (ℕ × Notice)) (c : Connection) : Prop :=
  Complete fin r log c ∧ c.channel.inputEvb = [] ∧ c.channel.inputDrop = {}

/-- The lines that are left, after a line that is left. -/
theorem drop_respLines {k : ℕ} (hk : k < 2) :
    ∃ p, r.respHdrs[k]? = some p ∧
      r.respLines.drop k = headerLine p.1 p.2 :: r.respLines.drop (k + 1) := by
  have hlt : k < r.respHdrs.length := hk
  have hlt' : k < r.respLines.length := hk
  refine ⟨_, List.getElem?_eq_getElem hlt, ?_⟩
  rw [List.drop_eq_getElem_cons hlt']
  simp [Request.respLines]

/-- **The header lines that have arrived are read**, and behind the last of them the connection goes
on to the body, or the response is complete. -/
theorem InHeaders.consumeHeaders {k fuel : ℕ} (h : InHeaders fin r log c k) (hfit : Fit inside)
    (hk : k ≤ 2) (hdrop : c.channel.inputDrop = {}) (hin : c.channel.inputEvb ++ future =
      unlines (r.respLines.drop k) ++ crlf ++ dummy r.expRespBodySize.toNat)
    (hfuel : c.channel.inputEvb.length < fuel) :
    ∃ c', consumeHeaders lc inside fuel c = .ok c' ∧
      ((Receiving fin r log c' future ∧ (c'.httpRspState ≠ .headers →
          c'.channel.inputEvb.length < c.channel.inputEvb.length) ∧
          (c'.httpRspState = .headers → future ≠ [])) ∨
        (Ended fin r log c' ∧ future = [])) := by
  -- by induction on the fuel: each line that is read is shorter by its end at least
  induction fuel generalizing c k with
  | zero => omega
  | succ fuel ih =>
    rw [Connection.consumeHeaders]
    by_cases hlast : k = 2
    · -- only the empty line is left; it is there in full, or ends in `future`
      subst hlast
      have hempty : c.channel.inputEvb ++ future =
          [] ++ crlf ++ dummy r.expRespBodySize.toNat := hin
      rcases readln_append (by simp) hempty with ⟨rest, hread, hrest⟩ | ⟨hread, hfuture⟩
      · have hset : InHeaders fin r log (c.setInput rest) 2 :=
          ⟨⟨h.ready.connected, h.ready.output, h.ready.lwMark⟩, h.books.of_eq rfl rfl, h.state, h.hdrs,
            h.remaining, h.told⟩
        obtain ⟨c', heq, hinput, hdrop', hcases⟩ := hset.endOfHeaders hfit
        have hinput' : c'.channel.inputEvb = rest := hinput
        simp only [hread, if_true]
        refine ⟨c', heq, ?_⟩
        rcases hcases with ⟨hbody, hremaining⟩ | ⟨hcomplete, hzero⟩
        · refine .inl ⟨.body [] (hdrop'.trans hdrop) hbody ?_, fun _ => ?_, fun hstate => ?_⟩
          · rw [hinput', hremaining, hrest]
          · rw [hinput']
            exact length_of_readln hread
          · rw [hbody.state] at hstate
            cases hstate
        · -- no body: nothing else can have arrived
          rw [hzero] at hrest
          obtain ⟨hnil, hfuture⟩ := List.append_eq_nil_iff.mp hrest
          exact .inr ⟨⟨hcomplete, hinput'.trans hnil, hdrop'.trans hdrop⟩, hfuture⟩
      · simp only [hread]
        exact ⟨c, rfl, .inl ⟨.headers 2 hk hdrop h hin, fun hne => absurd h.state hne,
          fun _ => hfuture⟩⟩
    · obtain ⟨p, hp, hlines⟩ := drop_respLines (r := r) (show k < 2 by omega)
      obtain ⟨-, hname, hvalue⟩ := r.respHdrs_spec p (List.mem_of_getElem? hp)
      have hne : headerLine p.1 p.2 ≠ [] := List.ne_nil_of_mem (mem_headerLine p.1 p.2)
      have htext : c.channel.inputEvb ++ future = headerLine p.1 p.2 ++ crlf ++
          (unlines (r.respLines.drop (k + 1)) ++ crlf ++ dummy r.expRespBodySize.toNat) := by
        rw [hin, hlines, unlines_cons]
        simp only [List.append_assoc]
      rcases readln_append (not_mem_headerLine hname hvalue) htext with
        ⟨rest, hread, hrest⟩ | ⟨hread, hfuture⟩
      · have hshort := length_of_readln hread
        have hset : InHeaders fin r log (c.setInput rest) k :=
          ⟨⟨h.ready.connected, h.ready.output, h.ready.lwMark⟩, h.books.of_eq rfl rfl, h.state, h.hdrs,
            h.remaining, h.told⟩
        obtain ⟨c₁, hone, h₁, hch⟩ := hset.consumeHeaderLine lc hp
        have hinput : c₁.channel.inputEvb = rest := by rw [hch]; rfl
        simp only [hread, if_neg hne, hone, ok_bind]
        obtain ⟨c', heq, hcases⟩ := ih h₁ (by omega) (by rw [hch]; exact hdrop)
          (by rw [hinput]; exact hrest) (by rw [hinput]; omega)
        refine ⟨c', heq, ?_⟩
        rcases hcases with ⟨hreceiving, hless, hfuture⟩ | hended
        · refine .inl ⟨hreceiving, fun hstate => ?_, hfuture⟩
          have hlt := hless hstate
          rw [hinput] at hlt
          omega
        · exact .inr hended
      · simp only [hread]
        exact ⟨c, rfl, .inl ⟨.headers k hk hdrop h hin, fun hne => absurd h.state hne,
          fun _ => hfuture⟩⟩

/-- The request that is active when a response is complete is another one. -/
theorem Complete.objId_ne {log' : List (ℕ × Notice)} (h : Complete fin r log' c) :
    ∀ req ∈ c.queues.active.head?, req.objId ≠ r.objId := by
  intro req hreq
  obtain ⟨cur, hbooks, -, hcur⟩ := h.next
  rcases hcur with ⟨rfl, -⟩ | ⟨r', rfl, -⟩
  · rw [hbooks.active] at hreq
    cases hreq
  · have heq : r'.received 0 = req := by
      rw [hbooks.active] at hreq
      exact Option.some.inj hreq
    have hid := hbooks.ids fin.length r (by simp [hbooks.queued])
    have hid' := hbooks.ids (fin.length + 1) r' (by simp [hbooks.queued])
    rw [← heq]
    show r'.objId ≠ r.objId
    omega

/-- **The bytes of the body that have arrived are consumed**, and if it is not complete the channel
is told to drop the others. -/
theorem InBody.consumeBody {chunks : List ℕ} (h : InBody fin r log c chunks) (hfit : Fit inside)
    (hdrop : c.channel.inputDrop = {})
    (hin : c.channel.inputEvb ++ future = dummy c.remainingRespBodyLen) :
    (∃ c', consumeBody inside c = .ok (c', false) ∧ Skipping fin r log c' future) ∨
      ∃ c', consumeBody inside c = .ok (c', true) ∧ Ended fin r log c' ∧ future = [] := by
  obtain ⟨hle, hfuture⟩ := dummy_eq_append hin
  have hactive : c.queues.active = [r.received chunks.sum] := h.books.active
  have hmin : min c.channel.inputEvb.length c.remainingRespBodyLen =
      c.channel.inputEvb.length := Nat.min_eq_left hle
  have hnil : c.channel.inputEvb.drop c.channel.inputEvb.length = [] := List.drop_length
  -- what has arrived is consumed; nothing of it is left
  by_cases hzero : 0 < c.channel.inputEvb.length
  · have hset : InBody fin r log (c.setInput []) chunks :=
      ⟨⟨h.ready.connected, h.ready.output, h.ready.lwMark⟩, h.books.of_eq rfl rfl, h.state, h.hdrs, h.pos,
        h.sum, h.told⟩
    obtain ⟨c₁, heq, hinput, hdrop₁, hcases⟩ := hset.gotAChunkOfRespBody hfit hle
    have hinput' : c₁.channel.inputEvb = [] := hinput
    have hdrop' : c₁.channel.inputDrop = {} := hdrop₁.trans hdrop
    simp only [Connection.consumeBody, check_pos h.pos, ok_bind, activeReq, hactive, hmin, hzero,
      if_true, hnil, heq]
    rcases hcases with ⟨hlt, hbody, hremaining⟩ | ⟨hall, hcomplete⟩
    · have hremaining' : c₁.remainingRespBodyLen =
          c.remainingRespBodyLen - c.channel.inputEvb.length := hremaining
      refine .inl ⟨{ c₁ with channel := { c₁.channel with
        inputDrop :=
          { numRequested := c₁.remainingRespBodyLen
            numRemaining := c₁.remainingRespBodyLen
            interestedInProgress := true } } }, ?_, ⟨⟨chunks ++ [c.channel.inputEvb.length], ?_⟩,
        hinput', rfl, rfl, ?_⟩⟩
      · simp only [if_pos hbody.pos, check_pos hinput', TcpChannel.dropFutureInput, hdrop',
          check_pos hbody.pos, ok_bind, Except.mapError, pure_eq_ok]
        rfl
      · exact ⟨⟨hbody.ready.connected, hbody.ready.output, hbody.ready.lwMark⟩, hbody.books.of_eq rfl rfl,
          hbody.state, hbody.hdrs, hbody.pos, hbody.sum, hbody.told⟩
      · rw [hfuture, hremaining']
    · have hnone : ¬ 0 < c₁.remainingRespBodyLen := by rw [hcomplete.remaining]; omega
      have hne : ∀ req ∈ c₁.queues.active.head?, req.objId ≠ (r.received chunks.sum).objId :=
        hcomplete.objId_ne
      have hall' : c.channel.inputEvb.length = c.remainingRespBodyLen := hall
      refine .inr ⟨c₁, ?_, ⟨hcomplete, hinput', hdrop'⟩, ?_⟩
      · simp only [if_neg hnone, check_pos hinput', ok_bind, check_pos hne, pure_eq_ok]
      · rw [hfuture, hall', Nat.sub_self]
        rfl
  · -- nothing has arrived
    have hlen : c.channel.inputEvb.length = 0 := by omega
    have hinput : c.channel.inputEvb = [] := List.length_eq_zero_iff.mp hlen
    refine .inl ⟨{ c with channel := { c.channel with
      inputDrop :=
        { numRequested := c.remainingRespBodyLen
          numRemaining := c.remainingRespBodyLen
          interestedInProgress := true } } }, ?_, ⟨⟨chunks, ?_⟩, hinput, rfl, rfl, ?_⟩⟩
    · simp only [Connection.consumeBody, check_pos h.pos, ok_bind, activeReq, hactive, hmin, hzero,
        if_false, if_pos h.pos, check_pos hinput, TcpChannel.dropFutureInput, hdrop,
        Except.mapError, pure_eq_ok]
      rfl
    · exact ⟨⟨h.ready.connected, h.ready.output, h.ready.lwMark⟩, h.books.of_eq rfl rfl, h.state, h.hdrs, h.pos,
        h.sum, h.told⟩
    · rw [hfuture, hlen, Nat.sub_zero]

/-- **One turn of the loop.**  The connection goes on with the response, or the response is complete;
when it wants to go on, it has consumed something. -/
theorem Receiving.consumeOnce (h : Receiving fin r log c future) (hfit : Fit inside) :
    ∃ c' keep, consumeOnce lc inside c = .ok (c', keep) ∧
      ((Receiving fin r log c' future ∧
          (keep = true → c'.channel.inputEvb.length < c.channel.inputEvb.length) ∧
          (keep = false → future ≠ [])) ∨
        (Skipping fin r log c' future ∧ keep = false) ∨
        (Ended fin r log c' ∧ future = [] ∧ keep = true)) := by
  -- the connection goes on while what has come is a whole line or a whole body
  cases h with
  | statusLine hrest hready hbooks htold hin =>
    have hactive : c.queues.active ≠ [] := by
      rw [hbooks.active]
      simp
    have hcr : 13 ∉ respStatusLine := by decide +kernel
    rw [r.response_eq] at hin
    rcases readln_append hcr hin with ⟨rest, hread, hrest'⟩ | ⟨hread, hfuture⟩
    · refine ⟨{ c.setInput rest with httpRspState := .headers }, true, ?_, .inl
        ⟨.headers 0 (Nat.zero_le _) ?_ ⟨⟨hready.connected, hready.output, hready.lwMark⟩,
          hbooks.of_eq rfl rfl, rfl, hrest.hdrs, hrest.remaining, htold⟩ hrest',
          fun _ => length_of_readln hread, by simp⟩⟩
      · simp only [Connection.consumeOnce, hrest.state, consumeStatusLine, hread,
          check_pos hactive, ok_bind, pure_eq_ok]
        rfl
      · exact hrest.drop
    · refine ⟨c, false, ?_, .inl ⟨.statusLine hrest hready hbooks htold
        (by rw [r.response_eq]; exact hin), by simp, fun _ => hfuture⟩⟩
      simp only [Connection.consumeOnce, hrest.state, consumeStatusLine, hread,
        check_pos (Or.inr hactive : c.channel.inputEvb = [] ∨ c.queues.active ≠ []), ok_bind,
        pure_eq_ok]
  | headers k hk hdrop h hin =>
    obtain ⟨c', heq, hcases⟩ := h.consumeHeaders lc hfit hk hdrop hin (Nat.lt_succ_self _)
    refine ⟨c', decide (c'.httpRspState ≠ .headers), ?_, ?_⟩
    · simp only [Connection.consumeOnce, h.state, heq, ok_bind, pure_eq_ok]
    rcases hcases with ⟨hreceiving, hless, hfuture⟩ | ⟨hended, hnil⟩
    · refine .inl ⟨hreceiving, fun hkeep => hless (of_decide_eq_true hkeep), fun hkeep => hfuture ?_⟩
      exact Classical.not_not.mp (of_decide_eq_false hkeep)
    · refine .inr (.inr ⟨hended, hnil, decide_eq_true ?_⟩)
      rw [hended.1.state]
      simp
  | body chunks hdrop h hin =>
    have hone : Connection.consumeOnce lc inside c = Connection.consumeBody inside c := by
      simp only [Connection.consumeOnce, h.state]
    rw [hone]
    rcases h.consumeBody hfit hdrop hin with ⟨c', heq, hskipping⟩ | ⟨c', heq, hended, hnil⟩
    · exact ⟨c', false, heq, .inr (.inl ⟨hskipping, rfl⟩)⟩
    · exact ⟨c', true, heq, .inr (.inr ⟨hended, hnil, rfl⟩)⟩

/-- Between two responses there is nothing to consume. -/
theorem Ended.consumeOnce (h : Ended fin r log c) : consumeOnce lc inside c = .ok (c, false) := by
  obtain ⟨hcomplete, hinput, -⟩ := h
  have hread : readln c.channel.inputEvb = none := by rw [hinput]; rfl
  simp only [Connection.consumeOnce, hcomplete.state, consumeStatusLine, hread,
    check_pos (Or.inl hinput : c.channel.inputEvb = [] ∨ c.queues.active ≠ []), ok_bind,
    pure_eq_ok]

/-! ### What arrives -/

theorem Skipping.ne_nil (h : Skipping fin r log c future) : future ≠ [] := by
  obtain ⟨chunks, hbody⟩ := h.body
  rw [h.rest]
  exact dummy_ne_nil hbody.pos

/-- **The loop.** -/
theorem Receiving.consumeLoop {fuel : ℕ} (h : Receiving fin r log c future) (hfit : Fit inside)
    (hfuel : c.channel.inputEvb.length + 1 < fuel) :
    ∃ c', consumeLoop lc inside fuel c = .ok c' ∧
      ((Receives fin r log c' future ∧ future ≠ []) ∨ (Ended fin r log c' ∧ future = [])) := by
  induction fuel generalizing c with
  | zero => omega
  | succ fuel ih =>
    obtain ⟨c', keep, heq, hcases⟩ := h.consumeOnce lc hfit
    simp only [Connection.consumeLoop, heq, ok_bind]
    rcases hcases with ⟨hreceiving, hless, hfuture⟩ | ⟨hskipping, rfl⟩ | ⟨hended, hnil, rfl⟩
    · cases keep with
      | true =>
        have hlt := hless rfl
        exact ih hreceiving (by omega)
      | false => exact ⟨c', rfl, .inl ⟨.inl hreceiving, hfuture rfl⟩⟩
    · exact ⟨c', rfl, .inl ⟨.inr hskipping, hskipping.ne_nil⟩⟩
    · -- one more turn finds nothing
      obtain ⟨fuel, rfl⟩ : ∃ n, fuel = n + 1 := ⟨fuel - 1, by omega⟩
      refine ⟨c', ?_, .inr ⟨hended, hnil⟩⟩
      simp only [if_true, Connection.consumeLoop, hended.consumeOnce lc, ok_bind]
      rfl

/-- More of what is to come has arrived. -/
theorem Receiving.receive {bs : List UInt8} (h : Receiving fin r log c (bs ++ future)) :
    Receiving fin r log (c.setInput (c.channel.inputEvb ++ bs)) future := by
  cases h with
  | statusLine hrest hready hbooks htold hin =>
    rw [← List.append_assoc] at hin
    exact .statusLine ⟨hrest.state, hrest.hdrs, hrest.remaining, hrest.drop, hrest.lwMark⟩
      ⟨hready.connected, hready.output, hready.lwMark⟩ (hbooks.of_eq rfl rfl) htold hin
  | headers k hk hdrop h hin =>
    rw [← List.append_assoc] at hin
    exact .headers k hk hdrop ⟨⟨h.ready.connected, h.ready.output, h.ready.lwMark⟩,
      h.books.of_eq rfl rfl, h.state, h.hdrs, h.remaining, h.told⟩ hin
  | body chunks hdrop h hin =>
    rw [← List.append_assoc] at hin
    exact .body chunks hdrop ⟨⟨h.ready.connected, h.ready.output, h.ready.lwMark⟩,
      h.books.of_eq rfl rfl, h.state, h.hdrs, h.pos, h.sum, h.told⟩ hin

/-- A connection that receives has an active request; it has asked for nothing to be dropped, and for
no low-water mark. -/
theorem Receiving.channel (h : Receiving fin r log c future) :
    c.channel.inputDrop = {} ∧ c.channel.readLwMark = 0 ∧ c.queues.active ≠ [] := by
  have hactive : ∀ {got}, Books fin [r] got c → c.queues.active ≠ [] := by
    intro got hbooks
    rw [hbooks.active]
    simp
  cases h with
  | statusLine hrest hready hbooks htold hin => exact ⟨hrest.drop, hrest.lwMark, hactive hbooks⟩
  | headers k hk hdrop h hin => exact ⟨hdrop, h.ready.lwMark, hactive h.books⟩
  | body chunks hdrop h hin => exact ⟨hdrop, h.ready.lwMark, hactive h.books⟩

/-- What is dropped is told as it comes. -/
theorem Skipping.maybeDropread {bs : List UInt8} (h : Skipping fin r log c (bs ++ future))
    (hfit : Fit inside) :
    ∃ c', (observer lc inside).maybeDropread bs.length c = .ok c' ∧
      ((Receives fin r log c' future ∧ future ≠ []) ∨ (Ended fin r log c' ∧ future = [])) := by
  obtain ⟨chunks, hbody⟩ := h.body
  obtain ⟨hle, hfuture⟩ := dummy_eq_append h.rest
  have hset : InBody fin r log { c with channel := { c.channel with
      inputDrop := { c.channel.inputDrop with
        numRemaining := c.channel.inputDrop.numRemaining - bs.length } } } chunks :=
    ⟨⟨hbody.ready.connected, hbody.ready.output, hbody.ready.lwMark⟩, hbody.books.of_eq rfl rfl,
      hbody.state, hbody.hdrs, hbody.pos, hbody.sum, hbody.told⟩
  obtain ⟨c₁, heq, hinput, hdrop, hcases⟩ := hset.gotAChunkOfRespBody hfit hle
  have hinput' : c₁.channel.inputEvb = [] := hinput.trans h.input
  have hleft := h.left
  have hstep : (observer lc inside).maybeDropread bs.length c =
      if c.channel.inputDrop.numRemaining - bs.length = 0 then
        .ok ((observer lc inside).resetDrop c₁)
      else .ok c₁ := by
    have heq' : (observer lc inside).onInputBytesDropped bs.length
        ((observer lc inside).setChannel { (observer lc inside).channel c with
          inputDrop := { c.channel.inputDrop with
            numRemaining := c.channel.inputDrop.numRemaining - bs.length } } c) = .ok c₁ := heq
    have hdrops : ((observer lc inside).channel c).inputDrop = c.channel.inputDrop := rfl
    simp only [StreamObserver.maybeDropread, hdrops, h.progress, if_true]
    simp only [h.progress] at heq'
    rw [heq', ok_bind]
    split <;> rfl
  rw [hstep]
  rcases hcases with ⟨hlt, hbody', hremaining⟩ | ⟨hall, hcomplete⟩
  · -- more is to come
    have hlt' : bs.length < c.remainingRespBodyLen := hlt
    have hremaining' : c₁.remainingRespBodyLen = c.remainingRespBodyLen - bs.length := hremaining
    rw [if_neg (by omega)]
    have hskipping : Skipping fin r log c₁ future := by
      refine ⟨⟨_, hbody'⟩, hinput', ?_, ?_, ?_⟩
      · rw [hdrop]
        exact h.progress
      · rw [hdrop, hremaining', ← hleft]
      · rw [hfuture, hremaining']
    exact ⟨c₁, rfl, .inl ⟨.inr hskipping, hskipping.ne_nil⟩⟩
  · have hall' : bs.length = c.remainingRespBodyLen := hall
    rw [if_pos (by omega)]
    refine ⟨_, rfl, .inr ⟨⟨?_, hinput', rfl⟩, ?_⟩⟩
    · obtain ⟨cur, hbooks, hbusy, hcur⟩ := hcomplete.next
      exact ⟨hcomplete.connected, hcomplete.state, hcomplete.hdrs, hcomplete.remaining,
        hcomplete.lwMark, hcomplete.told, cur, hbooks.of_eq rfl rfl, hbusy, hcur⟩
    · rw [hfuture, hall', Nat.sub_self]
      rfl

/-- **More of the response arrives.**  No assertion fails; the connection is somewhere in the
response, or the response is complete when its last byte has come. -/
theorem Receives.onSocketReadcb {bs : List UInt8} (h : Receives fin r log c (bs ++ future))
    (hne : bs ≠ []) (hfit : Fit inside) :
    ∃ c', (observer lc inside).onSocketReadcb c bs = .ok c' ∧
      ((Receives fin r log c' future ∧ future ≠ []) ∨ (Ended fin r log c' ∧ future = [])) := by
  rcases h with h | h
  · obtain ⟨hdrop, hlw, hactive⟩ := h.channel
    have hidle : ((observer lc inside).channel c).inputDrop.numRemaining = 0 := by
      show c.channel.inputDrop.numRemaining = 0
      rw [hdrop]
    have hinput : (c.setInput (c.channel.inputEvb ++ bs)).channel.inputEvb ≠ [] := by
      simp [setInput, hne]
    have hmark : ((observer lc inside).channel c).readLwMark ≤
        ((observer lc inside).channel c).inputEvb.length + bs.length := by
      show c.channel.readLwMark ≤ _
      rw [hlw]
      exact Nat.zero_le _
    obtain ⟨c', heq, hcases⟩ := h.receive.consumeLoop lc hfit (Nat.lt_succ_self _)
    refine ⟨c', ?_, hcases⟩
    rw [StreamObserver.onSocketReadcb_of_idle _ hidle hne, StreamObserver.evbufferRead,
      if_pos hmark, ← heq]
    have hactive' : (c.setInput (c.channel.inputEvb ++ bs)).queues.active ≠ [] := hactive
    show consumeInput lc inside (c.setInput (c.channel.inputEvb ++ bs)) = _
    rw [consumeInput, check_pos hactive', ok_bind, if_neg hinput]
  · -- the bytes of the body are dropped
    obtain ⟨hle, -⟩ := dummy_eq_append h.rest
    have hmin : min ((observer lc inside).channel c).inputDrop.numRemaining bs.length =
        bs.length := by
      show min c.channel.inputDrop.numRemaining bs.length = bs.length
      rw [h.left]
      exact Nat.min_eq_right hle
    have hlen : bs.length ≠ 0 := fun hzero => hne (List.length_eq_zero_iff.mp hzero)
    obtain ⟨c', heq, hcases⟩ := h.maybeDropread lc hfit
    refine ⟨c', ?_, hcases⟩
    simp only [StreamObserver.onSocketReadcb, hmin, if_neg hlen, heq, ok_bind, List.drop_length,
      if_true]

end Connection

end ShadowBrowser.Web
