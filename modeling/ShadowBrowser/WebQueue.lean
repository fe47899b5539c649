/-
The requests of a connection.

* `Books fin cur got c` — of the requests submitted to the connection `c`, those of
  `fin` are finished, that of `cur` is active and has got `got` bytes of its body, and
  the others wait in the order of their submission;
* `Books.submit`, `Books.submitAll` — a submission keeps this, and writes a request only
  when none is active;
* **`Books.doneWithResp`** — at the end of a response the next request is written.
-/
import ShadowBrowser.WebServing

namespace ShadowBrowser.Web

open Checked Http Texts

/-! ### Requests that can be written -/

namespace Request

/-- The expected meta size, as an `int`, is one that the channel takes as a hint. -/
def Hinted (r : Request) : Prop :=
  r.expRespMetaSize = 0 ∨ -1 ≤ toInt r.expRespMetaSize ∧ toInt r.expRespMetaSize ≠ 0

instance (r : Request) : Decidable r.Hinted := inferInstanceAs (Decidable (_ ∨ _))

instance (r : Request) : Decidable r.Sized := inferInstanceAs (Decidable (_ < _))

/-- The request, of whose response `got` bytes of the body have come. -/
def received (got : ℕ) (r : Request) : Request := { r with actualRespBodySize := got }

end Request

namespace ReqSpec

/-- The request that is made of what the user asks for. -/
def request (spec : ReqSpec) (objId : ℕ) : Request where
  objId := objId
  reqTotalSize := spec.reqTotalSize
  expRespMetaSize := spec.respMetaSize
  expRespBodySize := spec.respBodySize

/-- The request has room for its header. -/
def Sized (spec : ReqSpec) : Prop := (spec.request 0).Sized

/-- The meta size is one that the channel takes as a hint. -/
def Hinted (spec : ReqSpec) : Prop := (spec.request 0).Hinted

instance (spec : ReqSpec) : Decidable spec.Sized := inferInstanceAs (Decidable (_ < _))

instance (spec : ReqSpec) : Decidable spec.Hinted := inferInstanceAs (Decidable (_ ∨ _))

end ReqSpec

/-- What the user submits from inside the callbacks. -/
def Inside.specs (inside : Inside) : List ReqSpec :=
  inside.rspMeta ++ inside.rspBodyData ++ inside.rspDone ++ inside.requestDone

namespace Connection

variable {c c' c'' : Connection} {fin cur cur' : List Request} {got : ℕ} {r : Request}

/-- The books of a connection. -/
structure Books (fin cur : List Request) (got : ℕ) (c : Connection) : Prop where
  ids : ∀ (i : ℕ) (r : Request), c.requests[i]? = some r → r.objId = i
  good : ∀ r ∈ c.requests, r.Sized ∧ r.Hinted ∧ r.actualRespBodySize = 0
  queued : c.requests = fin ++ cur ++ c.queues.submitted
  active : c.queues.active = cur.map (Request.received got)
  single : cur.length ≤ 1
  fresh : cur = [] → got = 0

/-- The books are about the requests. -/
theorem Books.of_eq (h : Books fin cur got c) (hrequests : c'.requests = c.requests)
    (hqueues : c'.queues = c.queues) : Books fin cur got c' :=
  ⟨by rw [hrequests]; exact h.ids, by rw [hrequests]; exact h.good,
    by rw [hrequests, hqueues]; exact h.queued, by rw [hqueues]; exact h.active, h.single, h.fresh⟩

/-- All but the requests and the output is as it was. -/
structure Same (c c' : Connection) : Prop where
  connected : c'.connected = c.connected
  state : c'.httpRspState = c.httpRspState
  hdrs : c'.rspHdrs = c.rspHdrs
  remaining : c'.remainingRespBodyLen = c.remainingRespBodyLen
  log : c'.log = c.log
  input : c'.channel.inputEvb = c.channel.inputEvb
  drop : c'.channel.inputDrop = c.channel.inputDrop
  lwMark : c'.channel.readLwMark = c.channel.readLwMark

theorem Same.refl (c : Connection) : Same c c := ⟨rfl, rfl, rfl, rfl, rfl, rfl, rfl, rfl⟩

theorem Same.trans (h : Same c c') (h' : Same c' c'') : Same c c'' :=
  ⟨h'.connected.trans h.connected, h'.state.trans h.state, h'.hdrs.trans h.hdrs,
    h'.remaining.trans h.remaining, h'.log.trans h.log, h'.input.trans h.input,
    h'.drop.trans h.drop, h'.lwMark.trans h.lwMark⟩

/-- The active request stays, or there was none and one is written. -/
def Wrote (cur : List Request) (c : Connection) (cur' : List Request) (c' : Connection) : Prop :=
  (cur' = cur ∧ c'.channel.outputEvb = c.channel.outputEvb) ∨
    (cur = [] ∧ ∃ r, cur' = [r] ∧ c'.channel.outputEvb = c.channel.outputEvb ++ r.bytes)

theorem Wrote.trans {cur'' : List Request} (h : Wrote cur c cur' c') (h' : Wrote cur' c' cur'' c'') :
    Wrote cur c cur'' c'' := by
  rcases h with ⟨rfl, hout⟩ | ⟨hnil, r, rfl, hout⟩
  · rcases h' with ⟨rfl, hout'⟩ | ⟨hnil, r, rfl, hout'⟩
    · exact .inl ⟨rfl, hout'.trans hout⟩
    · exact .inr ⟨hnil, r, rfl, by rw [hout', hout]⟩
  · rcases h' with ⟨rfl, hout'⟩ | ⟨hnil', _⟩
    · exact .inr ⟨hnil, r, rfl, hout'.trans hout⟩
    · cases hnil'

/-- No request waits while none is active. -/
def Busy (c : Connection) : Prop := c.queues.active = [] → c.queues.submitted = []

/-- A request is written. -/
theorem writeRequest_spec (hsized : r.Sized) (hhinted : r.Hinted) (ch : TcpChannel) :
    ∃ hint, writeRequest r ch =
      .ok { ch with outputEvb := ch.outputEvb ++ r.bytes, readSizeHint := hint } := by
  have hsized' : r.head.length < r.reqTotalSize.toNat := hsized
  by_cases hmeta : r.expRespMetaSize = 0
  · refine ⟨ch.readSizeHint, ?_⟩
    simp only [writeRequest, check_pos hsized', ok_bind, if_pos hmeta]
    simp [writeDummy, TcpChannel.write, Request.bytes]
  · -- the hint is taken
    obtain ⟨hlow, hne⟩ := hhinted.resolve_left hmeta
    refine ⟨toInt r.expRespMetaSize, ?_⟩
    simp only [writeRequest, check_pos hsized', ok_bind, if_neg hmeta]
    simp [writeDummy, TcpChannel.write, Request.bytes, TcpChannel.setReadSizeHint, check_pos hlow,
      check_pos hne, Except.mapError]

/-- If the expected meta size is not one that the channel takes as a hint, an assertion fails. -/
theorem writeRequest_fails (hsized : r.Sized) (hhinted : ¬ r.Hinted) (ch : TcpChannel) :
    ∃ e, writeRequest r ch = .error (.tcp e) := by
  have hsized' : r.head.length < r.reqTotalSize.toNat := hsized
  obtain ⟨hmeta, hbad⟩ := not_or.mp hhinted
  simp only [writeRequest, check_pos hsized', ok_bind, if_neg hmeta, TcpChannel.setReadSizeHint]
  by_cases hlow : -1 ≤ toInt r.expRespMetaSize
  · have hzero : ¬ toInt r.expRespMetaSize ≠ 0 := fun hne => hbad ⟨hlow, hne⟩
    exact ⟨.hintZero, by simp only [check_pos hlow, check_neg hzero]; rfl⟩
  · exact ⟨.hintLow, by simp only [check_neg hlow]; rfl⟩

/-- **The next request is written**, if none is active. -/
theorem Books.maybeHttpWriteToTransport (h : Books fin cur got c) :
    ∃ c' cur', maybeHttpWriteToTransport c = .ok c' ∧ Same c c' ∧ c'.requests = c.requests ∧
      Books fin cur' got c' ∧ Wrote cur c cur' c' ∧ Busy c' := by
  cases hsub : c.queues.submitted with
  | nil =>
    refine ⟨c, cur, ?_, .refl c, rfl, h, .inl ⟨rfl, rfl⟩, fun _ => hsub⟩
    simp [Connection.maybeHttpWriteToTransport, ReqQueues.write, hsub, Except.mapError]
  | cons req rest =>
    have hcur : cur = [] ∨ ∃ r, cur = [r] := by
      cases cur with
      | nil => exact .inl rfl
      | cons r tail =>
        obtain rfl := List.eq_nil_of_length_eq_zero (by have := h.single; simpa using this)
        exact .inr ⟨r, rfl⟩
    rcases hcur with rfl | ⟨r, rfl⟩
    -- a request is active, so nothing is written; else the first one is
    rotate_left
    · have hactive : c.queues.active = [r.received got] := h.active
      refine ⟨c, [r], ?_, .refl c, rfl, h, .inl ⟨rfl, rfl⟩, fun hnil => ?_⟩
      · simp [Connection.maybeHttpWriteToTransport, ReqQueues.write, hsub, hactive, check_pos,
          Except.mapError]
      · rw [hactive] at hnil
        cases hnil
    · have hactive : c.queues.active = [] := h.active
      obtain ⟨hsized, hhinted, hzero⟩ := h.good req (by simp [h.queued, hsub])
      have hgot := h.fresh rfl
      have hself : req.received got = req := by
        rw [hgot, Request.received, ← hzero]
      obtain ⟨hint, hwrite⟩ := writeRequest_spec hsized hhinted c.channel
      refine ⟨{ c with
        queues := { submitted := rest, active := [req] }
        channel := { c.channel with
          outputEvb := c.channel.outputEvb ++ req.bytes, readSizeHint := hint } }, [req], ?_,
        ⟨rfl, rfl, rfl, rfl, rfl, rfl, rfl, rfl⟩, rfl, ⟨h.ids, h.good, ?_, ?_, by simp, by simp⟩,
        .inr ⟨rfl, req, rfl, rfl⟩, by simp [Busy]⟩
      · simp only [Connection.maybeHttpWriteToTransport, ReqQueues.write, hsub, hactive,
          List.length_nil, check_pos (Nat.zero_le 1), ok_bind, Nat.lt_irrefl, if_false,
          Except.mapError, pure_eq_ok, hwrite, List.nil_append]
      · rw [h.queued, hsub]
        simp
      · simp [hself]

/-- **A request is submitted.** -/
theorem Books.submit {spec : ReqSpec} (h : Books fin cur got c) (hsized : spec.Sized)
    (hhinted : spec.Hinted) :
    ∃ c' cur', c.submit spec = .ok c' ∧ Same c c' ∧ Books fin cur' got c' ∧ Wrote cur c cur' c' ∧
      (c.connected = false → cur' = cur) ∧ (c.connected = true → Busy c') := by
  have hbooks : Books fin cur got { c with
      requests := c.requests ++ [spec.request c.requests.length]
      queues := c.queues.push (spec.request c.requests.length) } := by
    refine ⟨?_, ?_, ?_, h.active, h.single, h.fresh⟩
    · intro i r hr
      by_cases hi : i < c.requests.length
      · simp only [List.getElem?_append_left hi] at hr
        exact h.ids i r hr
      · simp only at hr
        rw [List.getElem?_append_right (by omega)] at hr
        obtain ⟨hlt, heq⟩ := List.getElem?_eq_some_iff.mp hr
        have hlt' : i - c.requests.length < 1 := hlt
        rw [← heq]
        simp only [List.getElem_singleton, ReqSpec.request]
        omega
    · intro r hr
      rcases List.mem_append.mp hr with hr | hr
      · exact h.good r hr
      · rw [List.mem_singleton.mp hr]
        exact ⟨hsized, hhinted, rfl⟩
    · simp only [ReqQueues.push, h.queued, List.append_assoc]
  -- before the connection is up the request only waits
  by_cases hcon : c.connected = true
  · obtain ⟨c', cur', heq, hsame, -, hbooks', hwrote, hbusy⟩ := hbooks.maybeHttpWriteToTransport
    refine ⟨c', cur', ?_, ⟨hsame.connected, hsame.state, hsame.hdrs, hsame.remaining, hsame.log,
      hsame.input, hsame.drop, hsame.lwMark⟩, hbooks', hwrote, ?_, fun _ => hbusy⟩
    · rw [← heq]
      exact if_pos hcon
    · simp [hcon]
  · refine ⟨_, cur, if_neg hcon, ⟨rfl, rfl, rfl, rfl, rfl, rfl, rfl, rfl⟩, hbooks, .inl ⟨rfl, rfl⟩,
      fun _ => rfl, fun hcon' => absurd hcon' hcon⟩

/-- The requests that the user submits from inside a callback. -/
theorem Books.submitAll {specs : List ReqSpec} (h : Books fin cur got c)
    (hspecs : ∀ spec ∈ specs, spec.Sized ∧ spec.Hinted) :
    ∃ c' cur', exec Connection.submit c specs = .ok c' ∧ Same c c' ∧ Books fin cur' got c' ∧
      Wrote cur c cur' c' := by
  induction specs generalizing c cur with
  | nil => exact ⟨c, cur, rfl, .refl c, h, .inl ⟨rfl, rfl⟩⟩
  | cons spec specs ih =>
    obtain ⟨hsized, hhinted⟩ := hspecs spec List.mem_cons_self
    obtain ⟨c₁, cur₁, heq₁, hsame₁, hbooks₁, hwrote₁, -⟩ := h.submit hsized hhinted
    obtain ⟨c₂, cur₂, heq₂, hsame₂, hbooks₂, hwrote₂⟩ :=
      ih hbooks₁ fun spec' hmem => hspecs spec' (List.mem_cons_of_mem _ hmem)
    exact ⟨c₂, cur₂, by simp only [exec, heq₁, ok_bind, heq₂], hsame₁.trans hsame₂, hbooks₂,
      hwrote₁.trans hwrote₂⟩

/-- While a request is active, nothing is written. -/
theorem Books.submitAll_active {specs : List ReqSpec} (h : Books fin [r] got c)
    (hspecs : ∀ spec ∈ specs, spec.Sized ∧ spec.Hinted) :
    ∃ c', exec Connection.submit c specs = .ok c' ∧ Same c c' ∧ Books fin [r] got c' ∧
      c'.channel.outputEvb = c.channel.outputEvb := by
  obtain ⟨c', cur', heq, hsame, hbooks, hwrote⟩ := h.submitAll hspecs
  rcases hwrote with ⟨rfl, hout⟩ | ⟨hnil, -⟩
  · exact ⟨c', heq, hsame, hbooks, hout⟩
  · cases hnil

end Connection

end ShadowBrowser.Web
