/-
How much of a request is written.

The total size of a request counts its header and its body.  The connection takes the length of the
header up to the content length from it, and what is left is the length of the body; the digits of
that length and the two ends of lines behind it come on top.

* `Request.length_bytes` — the length of a request as it is written;
* **`request_size_never_met`** — no request is written with its total size.
-/
import ShadowBrowser.WebQueue

namespace ShadowBrowser.Web

open Checked Http Texts

/-- A request is longer than its total size by the digits of the content length, and by four. -/
theorem Request.length_bytes {r : Request} (h : r.Sized) :
    r.bytes.length = r.reqTotalSize.toNat + (decimal r.numOpaqueBytes).length + 4 := by
  have hroom : r.head.length < r.reqTotalSize.toNat := h
  have hbody : r.numOpaqueBytes + r.head.length = r.reqTotalSize.toNat :=
    Nat.sub_add_cancel hroom.le
  simp only [Request.bytes, List.length_append, length_dummy, crlf, List.length_cons,
    List.length_nil]
  omega

namespace Connection

variable {c c' : Connection} {req : Request} {rest : List Request}

/-- A request that is written has room for its header, and a meta size that is taken as a hint. -/
theorem writeRequest_ok {ch ch' : TcpChannel} (hok : writeRequest req ch = .ok ch') :
    req.Sized ∧ ch'.outputEvb = ch.outputEvb ++ req.bytes := by
  have hsized : req.Sized := by
    by_contra hsized
    have hroom : ¬ req.head.length < req.reqTotalSize.toNat := hsized
    rw [writeRequest, check_neg hroom] at hok
    cases hok
  refine ⟨hsized, ?_⟩
  by_cases hhinted : req.Hinted
  · obtain ⟨hint, hwrite⟩ := writeRequest_spec hsized hhinted ch
    rw [hwrite] at hok
    cases hok
    rfl
  · obtain ⟨e, hwrite⟩ := writeRequest_fails hsized hhinted ch
    rw [hwrite] at hok
    cases hok

/-- The next request is written when no other is active. -/
theorem maybeHttpWriteToTransport_writes (hsub : c.queues.submitted = req :: rest)
    (hactive : c.queues.active = []) (hok : c.maybeHttpWriteToTransport = .ok c') :
    req.Sized ∧ c'.channel.outputEvb = c.channel.outputEvb ++ req.bytes := by
  simp only [Connection.maybeHttpWriteToTransport, ReqQueues.write, hsub, hactive,
    List.length_nil, check_pos (Nat.zero_le 1), ok_bind, Nat.lt_irrefl, if_false,
    Except.mapError, pure_eq_ok] at hok
  cases hwrite : writeRequest req c.channel with
  | error e =>
    rw [hwrite] at hok
    cases hok
  | ok ch =>
    rw [hwrite] at hok
    cases hok
    exact writeRequest_ok hwrite

/-- **The requested size is never met.**  Of a request that is accepted, the head, the digits of the
content length, two ends of lines and the body are written.  The content length is the length of the
body, but in all these are more bytes than the total size of the request. -/
theorem request_size_never_met (hsub : c.queues.submitted = req :: rest)
    (hactive : c.queues.active = []) (hok : c.maybeHttpWriteToTransport = .ok c') :
    ∃ written body : List UInt8, c'.channel.outputEvb = c.channel.outputEvb ++ written ∧
      written = req.head ++ decimal body.length ++ crlf ++ crlf ++ body ∧
      written.length ≠ req.reqTotalSize.toNat ∧
      written.length = req.reqTotalSize.toNat + (decimal body.length).length + 4 := by
  obtain ⟨hsized, hout⟩ := maybeHttpWriteToTransport_writes hsub hactive hok
  have hlength := Request.length_bytes hsized
  refine ⟨req.bytes, dummy req.numOpaqueBytes, hout, ?_, by omega, ?_⟩
  · rw [length_dummy]
    rfl
  · rw [length_dummy]
    exact hlength

/-- A connection with a request of 200 bytes to write. -/
def withRequest : Connection where
  connected := true
  queues := { submitted := [⟨0, 200, 0, 5, 0⟩] }

/-- What the connection is after the request has been written. -/
def withRequestWritten : Connection where
  connected := true
  queues := { active := [⟨0, 200, 0, 5, 0⟩] }
  channel := { outputEvb := (⟨0, 200, 0, 5, 0⟩ : Request).bytes }

theorem request_size_never_met_200 :
    ∃ written body : List UInt8,
      withRequestWritten.channel.outputEvb = withRequest.channel.outputEvb ++ written ∧
      written = (⟨0, 200, 0, 5, 0⟩ : Request).head ++ decimal body.length ++ crlf ++ crlf ++ body ∧
      written.length ≠ (200 : UInt64).toNat ∧
      written.length = (200 : UInt64).toNat + (decimal body.length).length + 4 :=
  request_size_never_met (c := withRequest) rfl rfl (by decide +kernel)

/-- Of the request of 200 bytes, 207 are written. -/
theorem request_size_207 :
    withRequest.maybeHttpWriteToTransport = .ok withRequestWritten ∧
      withRequest.channel.outputEvb = [] ∧ withRequestWritten.channel.outputEvb.length = 207 ∧
      (⟨0, 200, 0, 5, 0⟩ : Request).reqTotalSize = 200 := by
  decide +kernel

end Connection

end ShadowBrowser.Web
