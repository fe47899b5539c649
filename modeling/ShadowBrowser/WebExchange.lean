/-
A connection and a handler, with the bytes between them.

The bytes that an end has written wait in its output buffer, then in the network, and
are handed to the other end in pieces of any size.

* `Exchange`, `ExEvent`, `step` — the two ends, and what can happen in any order;
* `Phase` — there is no request, or one that is on its way to the handler, or one whose
  response is on its way to the connection;
* `Phase.step` — every event whose requests can be written succeeds and keeps this;
* **`exchange_sound`** — each request is answered exactly, once and in order.
-/
import ShadowBrowser.WebReceiving
import ShadowBrowser.Runs

namespace ShadowBrowser.Web

open Checked Runs Http Texts

/-- The two ends, and the bytes in the network: `up` is on its way to the handler, `down` to the
connection. -/
structure Exchange where
  conn : Connection := {}
  hndl : Handler := {}
  up : List UInt8 := []
  down : List UInt8 := []
  deriving DecidableEq, Repr

/-- What can happen.  An end writes `n` bytes of its output to the network, or reads `n` bytes from
it; `inside` is what the user submits from inside the callbacks. -/
inductive ExEvent
  | submit (spec : ReqSpec)
  | connected
  | connWrites (n : ℕ)
  | hndlReads (n : ℕ)
  | hndlWrites (n : ℕ)
  | connReads (n : ℕ) (inside : Inside)
  deriving DecidableEq, Repr

/-- The requests submitted in an event. -/
def ExEvent.specs : ExEvent → List ReqSpec
  | .submit spec => [spec]
  | .connReads _ inside => inside.specs
  | _ => []

/-- The requests submitted have room for their headers, and their meta sizes are ones that the
channel takes as hints. -/
def ExEvent.Fits (e : ExEvent) : Prop := ∀ spec ∈ e.specs, spec.Sized ∧ spec.Hinted

instance (e : ExEvent) : Decidable e.Fits :=
  inferInstanceAs (Decidable (∀ spec ∈ e.specs, spec.Sized ∧ spec.Hinted))

namespace Exchange

/-- What can happen in a state. -/
def Enabled (s : Exchange) : ExEvent → Prop
  | .submit _ => True
  | .connected => s.conn.connected = false
  | .connWrites n => s.conn.connected = true ∧ 0 < n ∧ n ≤ s.conn.channel.outputEvb.length
  | .hndlReads n => 0 < n ∧ n ≤ s.up.length
  | .hndlWrites n => 0 < n ∧ n ≤ s.hndl.channel.outputEvb.length
  | .connReads n _ => s.conn.connected = true ∧ 0 < n ∧ n ≤ s.down.length

instance (s : Exchange) (e : ExEvent) : Decidable (Enabled s e) := by
  cases e <;> simp only [Enabled] <;> infer_instance

variable (lc : LexicalCast)

/-- One event. -/
def step (s : Exchange) : ExEvent → Except HttpCheck Exchange
  | .submit spec => do
    let c ← s.conn.submit spec
    return { s with conn := c }
  | .connected => do
    let c ← Connection.maybeHttpWriteToTransport { s.conn with connected := true }
    return { s with conn := c }
  | .connWrites n => do
    let out := s.conn.channel.outputEvb
    let c := { s.conn with channel := { s.conn.channel with outputEvb := out.drop n } }
    let c ← if out.drop n = [] then c.onWrittenData else .ok c
    return { s with conn := c, up := s.up ++ out.take n }
  | .hndlReads n => do
    let h ← (Handler.observer lc).onSocketReadcb s.hndl (s.up.take n)
    return { s with hndl := h, up := s.up.drop n }
  | .hndlWrites n =>
    let out := s.hndl.channel.outputEvb
    .ok { s with
      hndl := { s.hndl with channel := { s.hndl.channel with outputEvb := out.drop n } }
      down := s.down ++ out.take n }
  | .connReads n inside => do
    let c ← (Connection.observer lc inside).onSocketReadcb s.conn (s.down.take n)
    return { s with conn := c, down := s.down.drop n }

/-- A step that is taken. -/
def Step (s : Exchange) (e : ExEvent) (s' : Exchange) : Prop := Enabled s e ∧ step lc s e = .ok s'

/-- What is on its way to the handler, or has arrived and is not consumed. -/
def toHandler (s : Exchange) : List UInt8 :=
  s.hndl.channel.inputEvb ++ (s.up ++ s.conn.channel.outputEvb)

/-- What is on its way to the connection, or has arrived and is not consumed. -/
def toConnection (s : Exchange) : List UInt8 :=
  s.conn.channel.inputEvb ++ (s.down ++ s.hndl.channel.outputEvb)

/-- Nothing is on its way. -/
def Silent (s : Exchange) : Prop :=
  s.up = [] ∧ s.conn.channel.outputEvb = [] ∧ s.down = [] ∧ s.hndl.channel.outputEvb = []

end Exchange

/-! ### What the user has been told -/

/-- Of each request of `rs` the user was told its meta part, then its body in parts that make up the
size that was asked for, and then that it is done; of one request after the other. -/
inductive Reports : List Request → List (ℕ × Notice) → Prop
  | nil : Reports [] []
  | snoc {rs : List Request} {log : List (ℕ × Notice)} {r : Request} {chunks : List ℕ} :
      Reports rs log → chunks.sum = r.expRespBodySize.toNat →
        Reports (rs ++ [r]) (log ++ r.report chunks ++ [(r.objId, .done)])

/-! ### Submissions while a response is received -/

namespace Connection

variable {c c' : Connection} {fin : List Request} {r : Request} {log : List (ℕ × Notice)}
  {future : List UInt8}

theorem Receives.ready (h : Receives fin r log c future) : Ready c := by
  rcases h with h | h
  · cases h with
    | statusLine hrest hready => exact hready
    | headers k hk hdrop h => exact h.ready
    | body chunks hdrop h => exact h.ready
  · obtain ⟨chunks, hbody⟩ := h.body
    exact hbody.ready

theorem Receives.books (h : Receives fin r log c future) : ∃ got, Books fin [r] got c := by
  rcases h with h | h
  · cases h with
    | statusLine hrest hready hbooks => exact ⟨_, hbooks⟩
    | headers k hk hdrop h => exact ⟨_, h.books⟩
    | body chunks hdrop h => exact ⟨_, h.books⟩
  · obtain ⟨chunks, hbody⟩ := h.body
    exact ⟨_, hbody.books⟩

/-- The response is received in the same way when requests have been submitted. -/
theorem Receives.of_same (h : Receives fin r log c future) (hsame : Same c c')
    (hout : c'.channel.outputEvb = c.channel.outputEvb)
    (hbooks : ∀ got, Books fin [r] got c → Books fin [r] got c') :
    Receives fin r log c' future := by
  have hready : Ready c' := by
    obtain ⟨hconnected, houtput, hlwMark⟩ := h.ready
    exact ⟨hsame.connected.trans hconnected, hout.trans houtput, hsame.lwMark.trans hlwMark⟩
  have hinBody : ∀ {chunks}, InBody fin r log c chunks → InBody fin r log c' chunks := by
    intro chunks hb
    refine ⟨hready, hbooks _ hb.books, hsame.state.trans hb.state, hsame.hdrs.trans hb.hdrs, ?_, ?_,
      hsame.log.trans hb.told⟩
    · rw [hsame.remaining]
      exact hb.pos
    · rw [hsame.remaining]
      exact hb.sum
  rcases h with h | h
  · cases h with
    | statusLine hrest _ hb htold hin =>
      refine .inl (.statusLine ⟨hsame.state.trans hrest.state, hsame.hdrs.trans hrest.hdrs,
        hsame.remaining.trans hrest.remaining, hsame.drop.trans hrest.drop,
        hsame.lwMark.trans hrest.lwMark⟩ hready (hbooks _ hb) (hsame.log.trans htold) ?_)
      rw [hsame.input]
      exact hin
    | headers k hk hdrop hh hin =>
      refine .inl (.headers k hk (hsame.drop.trans hdrop) ⟨hready, hbooks _ hh.books,
        hsame.state.trans hh.state, hsame.hdrs.trans hh.hdrs, hsame.remaining.trans hh.remaining,
        hsame.log.trans hh.told⟩ ?_)
      rw [hsame.input]
      exact hin
    | body chunks hdrop hb hin =>
      refine .inl (.body chunks (hsame.drop.trans hdrop) (hinBody hb) ?_)
      rw [hsame.input, hsame.remaining]
      exact hin
  · obtain ⟨chunks, hb⟩ := h.body
    refine .inr ⟨⟨chunks, hinBody hb⟩, hsame.input.trans h.input, ?_, ?_, ?_⟩
    · rw [hsame.drop]
      exact h.progress
    · rw [hsame.drop, hsame.remaining]
      exact h.left
    · rw [hsame.remaining]
      exact h.rest

/-- **A request is submitted while a response is received.** -/
theorem Receives.submit {spec : ReqSpec} (h : Receives fin r log c future) (hsized : spec.Sized)
    (hhinted : spec.Hinted) :
    ∃ c', c.submit spec = .ok c' ∧ Receives fin r log c' future := by
  have hone : ∀ {got}, Books fin [r] got c → ∃ c', c.submit spec = .ok c' ∧ Same c c' ∧
      Books fin [r] got c' ∧ c'.channel.outputEvb = c.channel.outputEvb := by
    intro got hbooks
    obtain ⟨c', cur', heq, hsame, hbooks', hwrote, -⟩ := hbooks.submit hsized hhinted
    rcases hwrote with ⟨rfl, hout⟩ | ⟨hnil, -⟩
    · exact ⟨c', heq, hsame, hbooks', hout⟩
    · cases hnil
  obtain ⟨got, hbooks⟩ := h.books
  obtain ⟨c', heq, hsame, -, hout⟩ := hone hbooks
  refine ⟨c', heq, h.of_same hsame hout fun got' hb => ?_⟩
  obtain ⟨c'', heq', -, hb', -⟩ := hone hb
  cases heq.symm.trans heq'
  exact hb'

end Connection

theorem Handler.Reads.output {r : Request} {fs : List Framing} {h : Handler}
    {future : List UInt8} (hr : h.Reads r fs future) : h.channel.outputEvb = [] := by
  rcases hr with hr | hd
  · cases hr with
    | reqLine hrest hout hin => exact hout
    | headers k hready => exact hready.output
    | body hready => exact hready.output
  · exact hd.ready.output

/-! ### The three phases -/

namespace Exchange

/-- The requests of `fin` are answered, and `log` is what the user was told of them.  There is no
other one that could be written, or one is on its way to the handler, or its response is on its way
to the connection. -/
inductive Phase (fin : List Request) (log : List (ℕ × Notice)) (s : Exchange) : Prop
  | idle (hbooks : s.conn.Books fin [] 0) (hconn : s.conn.AtRest) (htold : s.conn.log = log)
      (hhndl : s.hndl.AtRest (fin.map Request.framing)) (hin : s.conn.channel.inputEvb = [])
      (hin' : s.hndl.channel.inputEvb = []) (hsilent : s.Silent)
      (hbusy : s.conn.connected = true → s.conn.Busy)
  | asking (r : Request) (hbooks : s.conn.Books fin [r] 0) (hconn : s.conn.AtRest)
      (hcon : s.conn.connected = true) (htold : s.conn.log = log)
      (hin : s.conn.channel.inputEvb = [])
      (hreads : s.hndl.Reads r (fin.map Request.framing) (s.up ++ s.conn.channel.outputEvb))
      (hmore : s.up ++ s.conn.channel.outputEvb ≠ []) (hdown : s.down = [])
  | answering (r : Request) (hhndl : s.hndl.AtRest ((fin ++ [r]).map Request.framing))
      (hin' : s.hndl.channel.inputEvb = []) (hup : s.up = [])
      (hreceives : s.conn.Receives fin r log (s.down ++ s.hndl.channel.outputEvb))
      (hmore : s.down ++ s.hndl.channel.outputEvb ≠ [])

variable (lc : LexicalCast) {s s' : Exchange} {fin cur : List Request} {log : List (ℕ × Notice)}
  {got : ℕ} {r : Request}

/-- A connection without an active request, to which the handler has nothing to say: what it has
written is a request, or nothing. -/
theorem Phase.of_next {c : Connection} {h : Handler} (hbooks : c.Books fin cur 0)
    (hconn : c.AtRest) (hcon : c.connected = true) (hbusy : c.Busy) (htold : c.log = log)
    (hin : c.channel.inputEvb = []) (hhndl : h.AtRest (fin.map Request.framing))
    (hin' : h.channel.inputEvb = []) (hout : h.channel.outputEvb = [])
    (hcur : (cur = [] ∧ c.channel.outputEvb = []) ∨
      ∃ r, cur = [r] ∧ c.channel.outputEvb = r.bytes) :
    Phase fin log { conn := c, hndl := h, up := [], down := [] } := by
  rcases hcur with ⟨rfl, hnone⟩ | ⟨r, rfl, hsome⟩
  · exact .idle hbooks hconn htold hhndl hin hin' ⟨rfl, hnone, rfl, hout⟩ fun _ => hbusy
  · refine .asking r hbooks hconn hcon htold hin (.inl (.reqLine hhndl hout ?_)) ?_ rfl
    · rw [hin', List.nil_append, List.nil_append]
      exact hsome
    · simp only [List.nil_append, hsome, r.bytes_eq]
      simp [crlf]

/-- The connection writes a request when it has none. -/
theorem Phase.of_wrote {c : Connection} (hconn : s.conn.AtRest)
    (htold : s.conn.log = log) (hhndl : s.hndl.AtRest (fin.map Request.framing))
    (hin : s.conn.channel.inputEvb = []) (hin' : s.hndl.channel.inputEvb = []) (hsilent : s.Silent)
    (hsame : s.conn.Same c) (hbooks' : c.Books fin cur 0) (hwrote : Connection.Wrote [] s.conn cur c)
    (hcon : c.connected = true) (hbusy : c.Busy) : Phase fin log { s with conn := c } := by
  obtain ⟨hup, hcout, hdown, hhout⟩ := hsilent
  have hrest : c.AtRest := ⟨hsame.state.trans hconn.state, hsame.hdrs.trans hconn.hdrs,
    hsame.remaining.trans hconn.remaining, hsame.drop.trans hconn.drop,
    hsame.lwMark.trans hconn.lwMark⟩
  have hnext := Phase.of_next hbooks' hrest hcon hbusy (hsame.log.trans htold)
    (hsame.input.trans hin) hhndl hin' hhout (by
      rcases hwrote with ⟨rfl, hout⟩ | ⟨-, r, rfl, hout⟩
      · exact .inl ⟨rfl, hout.trans hcout⟩
      · exact .inr ⟨r, rfl, by rw [hout, hcout, List.nil_append]⟩)
  show Phase fin log { conn := c, hndl := s.hndl, up := s.up, down := s.down }
  rw [hup, hdown]
  exact hnext

/-- A request is submitted. -/
theorem Phase.submit {spec : ReqSpec} (h : Phase fin log s) (hsized : spec.Sized)
    (hhinted : spec.Hinted) :
    ∃ s', step lc s (.submit spec) = .ok s' ∧ Phase fin log s' := by
  cases h with
  | idle hbooks hconn htold hhndl hin hin' hsilent hbusy =>
    obtain ⟨c, cur, heq, hsame, hbooks', hwrote, hoff, hon⟩ := hbooks.submit hsized hhinted
    refine ⟨{ s with conn := c }, by simp only [step, heq, ok_bind, pure_eq_ok], ?_⟩
    -- once connected, the request may be written at once
    cases hcon : s.conn.connected with
    | true =>
      exact .of_wrote hconn htold hhndl hin hin' hsilent hsame hbooks' hwrote
        (hsame.connected.trans hcon) (hon hcon)
    | false =>
      obtain rfl := hoff hcon
      rcases hwrote with ⟨-, hout⟩ | ⟨-, r, hnil, -⟩
      · refine .idle hbooks' ⟨hsame.state.trans hconn.state, hsame.hdrs.trans hconn.hdrs,
          hsame.remaining.trans hconn.remaining, hsame.drop.trans hconn.drop,
          hsame.lwMark.trans hconn.lwMark⟩ (hsame.log.trans htold) hhndl (hsame.input.trans hin)
          hin' ⟨hsilent.1, hout.trans hsilent.2.1, hsilent.2.2⟩ fun hcon' => ?_
        rw [hsame.connected, hcon] at hcon'
        cases hcon'
      · cases hnil
  | asking r hbooks hconn hcon htold hin hreads hmore hdown =>
    obtain ⟨c, cur, heq, hsame, hbooks', hwrote, -⟩ := hbooks.submit hsized hhinted
    refine ⟨{ s with conn := c }, by simp only [step, heq, ok_bind, pure_eq_ok], ?_⟩
    -- a request is active, so the new one only waits
    rcases hwrote with ⟨rfl, hout⟩ | ⟨hnil, -⟩
    · refine .asking r hbooks' ⟨hsame.state.trans hconn.state, hsame.hdrs.trans hconn.hdrs,
        hsame.remaining.trans hconn.remaining, hsame.drop.trans hconn.drop,
        hsame.lwMark.trans hconn.lwMark⟩ (hsame.connected.trans hcon) (hsame.log.trans htold)
        (hsame.input.trans hin) ?_ ?_ hdown
      · rw [hout]
        exact hreads
      · rw [hout]
        exact hmore
    · cases hnil
  | answering r hhndl hin' hup hreceives hmore =>
    obtain ⟨c, heq, hreceives'⟩ := hreceives.submit hsized hhinted
    exact ⟨{ s with conn := c }, by simp only [step, heq, ok_bind, pure_eq_ok],
      .answering r hhndl hin' hup hreceives' hmore⟩

/-- The connection is established. -/
theorem Phase.connected (h : Phase fin log s) (hen : Enabled s .connected) :
    ∃ s', step lc s .connected = .ok s' ∧ Phase fin log s' := by
  have hoff : s.conn.connected = false := hen
  cases h with
  | idle hbooks hconn htold hhndl hin hin' hsilent hbusy =>
    have hbooks₁ : Connection.Books fin [] 0 { s.conn with connected := true } :=
      hbooks.of_eq rfl rfl
    obtain ⟨c, cur, heq, hsame, -, hbooks', hwrote, hbusy'⟩ := hbooks₁.maybeHttpWriteToTransport
    refine ⟨{ s with conn := c }, by simp only [step, heq, ok_bind, pure_eq_ok], ?_⟩
    exact Phase.of_wrote (s := { s with conn := { s.conn with connected := true } })
      ⟨hconn.state, hconn.hdrs, hconn.remaining, hconn.drop, hconn.lwMark⟩ htold hhndl hin hin'
      hsilent hsame hbooks' hwrote hsame.connected hbusy'
  | asking r hbooks hconn hcon =>
    rw [hoff] at hcon
    cases hcon
  | answering r hhndl hin' hup hreceives =>
    have hcon := hreceives.ready.connected
    rw [hoff] at hcon
    cases hcon

/-- The connection writes to the network. -/
theorem Phase.connWrites {n : ℕ} (h : Phase fin log s) (hen : Enabled s (.connWrites n)) :
    ∃ s', step lc s (.connWrites n) = .ok s' ∧ Phase fin log s' := by
  obtain ⟨-, hpos, hle⟩ := hen
  have hnone : s.conn.channel.outputEvb ≠ [] := fun hnil => by
    rw [hnil] at hle
    exact absurd hle (Nat.not_le_of_gt hpos)
  cases h with
  | idle hbooks hconn htold hhndl hin hin' hsilent => exact absurd hsilent.2.1 hnone
  | asking r hbooks hconn hcon htold hin hreads hmore hdown =>
    -- what has left the buffer is in the network; a request is active, so none is written
    have hbytes : s.up ++ s.conn.channel.outputEvb.take n ++ s.conn.channel.outputEvb.drop n =
        s.up ++ s.conn.channel.outputEvb := by
      rw [List.append_assoc, List.take_append_drop]
    have hbooks₁ : Connection.Books fin [r] 0 { s.conn with
        channel := { s.conn.channel with outputEvb := s.conn.channel.outputEvb.drop n } } :=
      hbooks.of_eq rfl rfl
    obtain ⟨c, cur, heq, hsame, -, hbooks', hwrote, -⟩ := hbooks₁.maybeHttpWriteToTransport
    rcases hwrote with ⟨rfl, hout⟩ | ⟨hnil, -⟩
    · by_cases hempty : s.conn.channel.outputEvb.drop n = []
      · refine ⟨{ s with conn := c, up := s.up ++ s.conn.channel.outputEvb.take n }, ?_, ?_⟩
        · simp only [step, if_pos hempty, Connection.onWrittenData, check_pos hempty, ok_bind, heq,
            pure_eq_ok]
        · refine .asking r hbooks' ⟨hsame.state.trans hconn.state, hsame.hdrs.trans hconn.hdrs,
            hsame.remaining.trans hconn.remaining, hsame.drop.trans hconn.drop,
            hsame.lwMark.trans hconn.lwMark⟩ (hsame.connected.trans hcon) (hsame.log.trans htold)
            (hsame.input.trans hin) ?_ ?_ hdown
          · rw [hout, hbytes]
            exact hreads
          · rw [hout, hbytes]
            exact hmore
      · refine ⟨{ s with
          conn := { s.conn with
            channel := { s.conn.channel with outputEvb := s.conn.channel.outputEvb.drop n } }
          up := s.up ++ s.conn.channel.outputEvb.take n }, ?_, ?_⟩
        · simp only [step, if_neg hempty, ok_bind, pure_eq_ok]
        refine .asking r hbooks₁ ⟨hconn.state, hconn.hdrs, hconn.remaining, hconn.drop,
          hconn.lwMark⟩ hcon htold hin ?_ ?_ hdown
        · rw [hbytes]
          exact hreads
        · rw [hbytes]
          exact hmore
    · cases hnil
  | answering r hhndl hin' hup hreceives => exact absurd hreceives.ready.output hnone

/-- The handler reads from the network. -/
theorem Phase.hndlReads {n : ℕ} (h : Phase fin log s) (hen : Enabled s (.hndlReads n)) :
    ∃ s', step lc s (.hndlReads n) = .ok s' ∧ Phase fin log s' := by
  obtain ⟨hpos, hle⟩ := hen
  have hup : s.up ≠ [] := fun hnil => by
    rw [hnil] at hle
    exact absurd hle (Nat.not_le_of_gt hpos)
  cases h with
  | idle hbooks hconn htold hhndl hin hin' hsilent => exact absurd hsilent.1 hup
  | asking r hbooks hconn hcon htold hin hreads hmore hdown =>
    have hbs : s.up.take n ≠ [] := fun hnil => by
      have hlen := congrArg List.length hnil
      rw [List.length_take, Nat.min_eq_left hle] at hlen
      exact absurd hlen (Nat.ne_of_gt hpos)
    have hsized : r.Sized := (hbooks.good r (by simp [hbooks.queued])).1
    rw [← List.take_append_drop n s.up, List.append_assoc] at hreads
    obtain ⟨h', heq, hcases⟩ := hreads.onSocketReadcb lc hsized hbs
    refine ⟨{ s with hndl := h', up := s.up.drop n }, by simp only [step, heq, ok_bind, pure_eq_ok],
      ?_⟩
    rcases hcases with ⟨hreads', hmore'⟩ | ⟨hanswered, hnil⟩
    · exact .asking r hbooks hconn hcon htold hin hreads' hmore' hdown
    · -- the response has been written
      obtain ⟨hupnil, hcout⟩ := List.append_eq_nil_iff.mp hnil
      refine .answering r (by simpa using hanswered.rest) hanswered.input hupnil ?_ ?_
      · refine .inl (.statusLine hconn ⟨hcon, hcout, hconn.lwMark⟩ hbooks htold ?_)
        rw [hin, hdown]
        exact hanswered.output
      · simp only [hdown, List.nil_append]
        rw [hanswered.output, r.response_eq]
        simp [crlf]
  | answering r hhndl hin' hup' => exact absurd hup' hup

/-- The handler writes to the network. -/
theorem Phase.hndlWrites {n : ℕ} (h : Phase fin log s) (hen : Enabled s (.hndlWrites n)) :
    ∃ s', step lc s (.hndlWrites n) = .ok s' ∧ Phase fin log s' := by
  obtain ⟨hpos, hle⟩ := hen
  have hnone : s.hndl.channel.outputEvb ≠ [] := fun hnil => by
    rw [hnil] at hle
    exact absurd hle (Nat.not_le_of_gt hpos)
  cases h with
  | idle hbooks hconn htold hhndl hin hin' hsilent => exact absurd hsilent.2.2.2 hnone
  | asking r hbooks hconn hcon htold hin hreads => exact absurd hreads.output hnone
  | answering r hhndl hin' hup hreceives hmore =>
    have hbytes : s.down ++ s.hndl.channel.outputEvb.take n ++ s.hndl.channel.outputEvb.drop n =
        s.down ++ s.hndl.channel.outputEvb := by
      rw [List.append_assoc, List.take_append_drop]
    refine ⟨_, rfl, .answering r ⟨hhndl.state, hhndl.info, hhndl.remaining, hhndl.drop,
      hhndl.lwMark, hhndl.found, hhndl.served⟩ hin' hup ?_ ?_⟩
    · rw [hbytes]
      exact hreceives
    · rw [hbytes]
      exact hmore

/-- **The connection reads from the network.**  When the response is complete, the next request may be
on its way. -/
theorem Phase.connReads {n : ℕ} {inside : Inside} (h : Phase fin log s)
    (hen : Enabled s (.connReads n inside)) (hfit : Connection.Fit inside)
    (hreports : Reports fin log) :
    ∃ s', step lc s (.connReads n inside) = .ok s' ∧
      ∃ fin' log', Reports fin' log' ∧ Phase fin' log' s' := by
  obtain ⟨-, hpos, hle⟩ := hen
  have hdown : s.down ≠ [] := fun hnil => by
    rw [hnil] at hle
    exact absurd hle (Nat.not_le_of_gt hpos)
  cases h with
  | idle hbooks hconn htold hhndl hin hin' hsilent => exact absurd hsilent.2.2.1 hdown
  | asking r hbooks hconn hcon htold hin hreads hmore hdown' => exact absurd hdown' hdown
  | answering r hhndl hin' hup hreceives hmore =>
    have hbs : s.down.take n ≠ [] := fun hnil => by
      have hlen := congrArg List.length hnil
      rw [List.length_take, Nat.min_eq_left hle] at hlen
      exact absurd hlen (Nat.ne_of_gt hpos)
    rw [← List.take_append_drop n s.down, List.append_assoc] at hreceives
    obtain ⟨c, heq, hcases⟩ := hreceives.onSocketReadcb lc hbs hfit
    refine ⟨{ s with conn := c, down := s.down.drop n }, by
      simp only [step, heq, ok_bind, pure_eq_ok], ?_⟩
    rcases hcases with ⟨hreceives', hmore'⟩ | ⟨⟨hcomplete, hinput, hdrop⟩, hnil⟩
    · exact ⟨fin, log, hreports, .answering r hhndl hin' hup hreceives' hmore'⟩
    · obtain ⟨hdownnil, hhout⟩ := List.append_eq_nil_iff.mp hnil
      obtain ⟨chunks, hsum, htold⟩ := hcomplete.told
      obtain ⟨cur, hbooks, hbusy, hcur⟩ := hcomplete.next
      have hnext := Phase.of_next hbooks ⟨hcomplete.state, hcomplete.hdrs, hcomplete.remaining, hdrop,
        hcomplete.lwMark⟩ hcomplete.connected hbusy htold hinput hhndl hin' hhout hcur
      refine ⟨fin ++ [r], _, hreports.snoc hsum, ?_⟩
      rw [hup, hdownnil]
      exact hnext

/-- **Every event whose requests can be written succeeds**, and the exchange stays in one of its
phases. -/
theorem Phase.step {e : ExEvent} (h : Phase fin log s) (hreports : Reports fin log) (hfits : e.Fits)
    (hen : Enabled s e) :
    ∃ s', step lc s e = .ok s' ∧ ∃ fin' log', Reports fin' log' ∧ Phase fin' log' s' := by
  have hsame : (∃ s', Exchange.step lc s e = .ok s' ∧ Phase fin log s') →
      ∃ s', Exchange.step lc s e = .ok s' ∧ ∃ fin' log', Reports fin' log' ∧ Phase fin' log' s' := by
    rintro ⟨s', heq, hphase⟩
    exact ⟨s', heq, fin, log, hreports, hphase⟩
  cases e with
  | submit spec =>
    obtain ⟨hsized, hhinted⟩ := hfits spec List.mem_cons_self
    exact hsame (h.submit lc hsized hhinted)
  | connected => exact hsame (h.connected lc hen)
  | connWrites n => exact hsame (h.connWrites lc hen)
  | hndlReads n => exact hsame (h.hndlReads lc hen)
  | hndlWrites n => exact hsame (h.hndlWrites lc hen)
  | connReads n inside => exact h.connReads lc hen hfits hreports

/-! ### All runs -/

/-- The exchange is exact.

* `reported` — of the requests that are finished, which are the first that were submitted, the user
  has been told all and nothing twice; of the next one, perhaps its meta part and a part of its body;
* `recovered` — the handler has found in the requests what the connection has written;
* `handlerBytes`, `connectionBytes` — an end that waits for a first line has consumed all that came
  before, and what is there for it is one whole message or nothing;
* `finished` — without a request in the queues all are finished, and both ends are in their first
  states, with empty input buffers;
* `drained` — when nothing is on its way, no request is in the queues. -/
structure Exact (s : Exchange) : Prop where
  reported : ∃ fin waiting told rest, s.conn.requests = fin ++ waiting ∧ Reports fin told ∧
    s.conn.log = told ++ rest ∧ (rest = [] ∨ ∃ r chunks, waiting.head? = some r ∧
      chunks.sum < r.expRespBodySize.toNat ∧ rest = r.report chunks)
  recovered : s.hndl.found <+: s.conn.requests.map Request.framing
  handlerBytes : s.hndl.httpReqState = .reqLine → s.toHandler = [] ∨
    ∃ r, s.conn.requests[s.hndl.served]? = some r ∧ s.toHandler = r.bytes
  connectionBytes : s.conn.httpRspState = .statusLine → s.toConnection = [] ∨
    ∃ r, s.conn.queues.active = [r] ∧ s.toConnection = Handler.response r
  finished : s.conn.queues.size = 0 → Reports s.conn.requests s.conn.log ∧
    s.conn.AtRest ∧ s.conn.channel.inputEvb = [] ∧
    s.hndl.AtRest (s.conn.requests.map Request.framing) ∧ s.hndl.channel.inputEvb = []
  drained : s.conn.connected = true → s.Silent → s.conn.queues.size = 0

/-- The first requests have the first headers. -/
theorem framing_prefix {requests rest : List Request} (h : requests = fin ++ rest) :
    fin.map Request.framing <+: requests.map Request.framing := by
  rw [h, List.map_append]
  exact List.prefix_append _ _

theorem size_eq_zero {c : Connection} (h : c.Books fin [] got) (hsub : c.queues.submitted = []) :
    c.queues.size = 0 := by
  have hactive : c.queues.active = [] := h.active
  simp [ReqQueues.size, hactive, hsub]

theorem size_ne_zero {c : Connection} (h : c.Books fin [r] got) : c.queues.size ≠ 0 := by
  have hactive : c.queues.active = [r.received got] := h.active
  simp [ReqQueues.size, hactive]

/-- What the user has been told of a request whose response is not complete. -/
theorem told_of_receives {c : Connection} {future : List UInt8}
    (h : c.Receives fin r log future) :
    ∃ rest, c.log = log ++ rest ∧ (rest = [] ∨ ∃ chunks, chunks.sum < r.expRespBodySize.toNat ∧
      rest = r.report chunks) := by
  have hbody : ∀ {chunks}, c.InBody fin r log chunks → ∃ rest, c.log = log ++ rest ∧
      (rest = [] ∨ ∃ chunks, chunks.sum < r.expRespBodySize.toNat ∧ rest = r.report chunks) := by
    intro chunks hb
    have hpos := hb.pos
    have hsum := hb.sum
    exact ⟨_, hb.told, .inr ⟨chunks, by omega, rfl⟩⟩
  rcases h with h | h
  · cases h with
    | statusLine hrest hready hbooks htold => exact ⟨[], by simpa using htold, .inl rfl⟩
    | headers k hk hdrop hh => exact ⟨[], by simpa using hh.told, .inl rfl⟩
    | body chunks hdrop hb => exact hbody hb
  · obtain ⟨chunks, hb⟩ := h.body
    exact hbody hb

/-- In each of its phases the exchange is exact. -/
theorem Phase.exact (h : Phase fin log s) (hreports : Reports fin log) : s.Exact := by
  cases h with
  -- nothing is under way: what has been submitted and has not finished waits in its queue
  | idle hbooks hconn htold hhndl hin hin' hsilent hbusy =>
    have hqueued : s.conn.requests = fin ++ s.conn.queues.submitted := by simpa using hbooks.queued
    obtain ⟨hup, hcout, hdown, hhout⟩ := hsilent
    refine ⟨⟨fin, _, log, [], hqueued, hreports, by simpa using htold, .inl rfl⟩, ?_, fun _ => .inl ?_,
      fun _ => .inl ?_, fun hzero => ?_, fun hcon _ => ?_⟩
    · rw [hhndl.found]
      exact framing_prefix hqueued
    · rw [toHandler, hin', hup, hcout]
      rfl
    · rw [toConnection, hin, hdown, hhout]
      rfl
    · have hsub : s.conn.queues.submitted = [] := by
        refine List.length_eq_zero_iff.mp ?_
        simp only [ReqQueues.size] at hzero
        omega
      rw [hsub, List.append_nil] at hqueued
      rw [hqueued, htold]
      exact ⟨hreports, hconn, hin, hhndl, hin'⟩
    · exact size_eq_zero hbooks (hbusy hcon hbooks.active)
  | asking r hbooks hconn hcon htold hin hreads hmore hdown =>
    have hqueued : s.conn.requests = fin ++ r :: s.conn.queues.submitted := by
      simpa using hbooks.queued
    refine ⟨⟨fin, _, log, [], hqueued, hreports, by simpa using htold, .inl rfl⟩, ?_, fun hstate => ?_,
      fun _ => .inl ?_, fun hzero => absurd hzero (size_ne_zero hbooks), fun _ hsilent => ?_⟩
    · -- whether the handler has found the request depends on how far it has read
      have hfound : s.hndl.found = fin.map Request.framing ∨
          s.hndl.found = (fin ++ [r]).map Request.framing := by
        rcases hreads with hr | hd
        · cases hr with
          | reqLine hrest => exact .inl hrest.found
          | headers k _ _ _ _ _ _ hfound => exact .inl hfound
          | body _ _ _ _ _ hfound => exact .inr (by simpa using hfound)
        · exact .inr (by simpa using hd.found)
      rcases hfound with hfound | hfound
      · rw [hfound]
        exact framing_prefix hqueued
      · rw [hfound]
        exact framing_prefix hbooks.queued
    · -- the handler has consumed nothing of the request
      rcases hreads with hr | hd
      · cases hr with
        | reqLine hrest hout hbytes =>
          refine .inr ⟨r, ?_, hbytes⟩
          rw [hrest.served, hqueued]
          simp
        | headers k _ _ hstate' =>
          rw [hstate'] at hstate
          cases hstate
        | body _ hstate' =>
          rw [hstate'] at hstate
          cases hstate
      · rw [hd.state] at hstate
        cases hstate
    · rw [toConnection, hin, hdown, hreads.output]
      rfl
    · -- the request cannot all have been read while there is more to come
      obtain ⟨hup, hcout, -⟩ := hsilent
      exact absurd (by rw [hup, hcout]; rfl) hmore
  | answering r hhndl hin' hup hreceives hmore =>
    obtain ⟨got, hbooks⟩ := hreceives.books
    have hqueued : s.conn.requests = fin ++ r :: s.conn.queues.submitted := by
      simpa using hbooks.queued
    obtain ⟨rest, htold, hrest⟩ := told_of_receives hreceives
    refine ⟨⟨fin, _, log, rest, hqueued, hreports, htold, ?_⟩, ?_, fun _ => .inl ?_,
      fun hstate => .inr ⟨r, ?_⟩, fun hzero => absurd hzero (size_ne_zero hbooks),
      fun _ hsilent => ?_⟩
    · rcases hrest with hnil | ⟨chunks, hlt, hreport⟩
      · exact .inl hnil
      · exact .inr ⟨r, chunks, rfl, hlt, hreport⟩
    · rw [hhndl.found]
      exact framing_prefix hbooks.queued
    · rw [toHandler, hin', hup, hreceives.ready.output]
      rfl
    · -- the connection has consumed nothing of the response
      rcases hreceives with hr | hskip
      · cases hr with
        | statusLine _ _ hb _ hbytes =>
          have hzero := (hb.good r (by simp [hqueued])).2.2
          refine ⟨?_, hbytes⟩
          rw [hb.active, List.map_singleton, Request.received, ← hzero]
        | headers k _ _ hh =>
          rw [hh.state] at hstate
          cases hstate
        | body _ _ hb =>
          rw [hb.state] at hstate
          cases hstate
      · obtain ⟨chunks, hb⟩ := hskip.body
        rw [hb.state] at hstate
        cases hstate
    · -- nor can the response while the handler still sends
      obtain ⟨-, -, hdown, hhout⟩ := hsilent
      exact absurd (by rw [hdown, hhout]; rfl) hmore

/-- At the beginning there is no request. -/
theorem phase_start : Phase [] [] {} :=
  .idle ⟨by simp, by simp, rfl, rfl, by simp, by simp⟩ ⟨rfl, rfl, rfl, rfl, rfl⟩ rfl
    ⟨rfl, rfl, rfl, rfl, rfl, rfl, rfl⟩ rfl rfl ⟨rfl, rfl, rfl, rfl⟩ fun _ _ => rfl

theorem phase_of_run {es : List ExEvent}
    (h : Run (Guarded (fun _ e => e.Fits) (Step lc)) {} es s) :
    ∃ fin log, Reports fin log ∧ Phase fin log s := by
  refine h.invariant (P := fun s => ∃ fin log, Reports fin log ∧ Phase fin log s) ?_
    ⟨[], [], .nil, phase_start⟩
  rintro s e s' ⟨fin, log, hreports, hphase⟩ ⟨hfits, hen, hstep⟩
  obtain ⟨s₁, heq, hnext⟩ := hphase.step lc hreports hfits hen
  cases hstep.symm.trans heq
  exact hnext

/-- **The connection and the handler compose.**  In every run in which the meta sizes of the requests
are ones that the channel takes as hints, and the requests have room for their headers, the exchange
is exact in every state, and no assertion fails.  When a request of another meta size is to be
written, the channel's assertion on the hint fails. -/
theorem exchange_sound {es : List ExEvent}
    (h : Run (Guarded (fun _ e => e.Fits) (Step lc)) {} es s) :
    s.Exact ∧ (∀ e, e.Fits → Enabled s e → ∃ s', step lc s e = .ok s') ∧
      ∀ spec : ReqSpec, spec.Sized → ¬ spec.Hinted → s.conn.connected = true →
        s.conn.queues.size = 0 → ∃ e, step lc s (.submit spec) = .error (.tcp e) := by
  obtain ⟨fin, log, hreports, hphase⟩ := phase_of_run lc h
  refine ⟨hphase.exact hreports, fun e hfits hen => ?_, fun spec hsized hhinted hcon hzero => ?_⟩
  · obtain ⟨s', heq, -⟩ := hphase.step lc hreports hfits hen
    exact ⟨s', heq⟩
  · obtain ⟨hactive, hsub⟩ : s.conn.queues.active = [] ∧ s.conn.queues.submitted = [] := by
      simp only [ReqQueues.size] at hzero
      exact ⟨List.length_eq_zero_iff.mp (by omega), List.length_eq_zero_iff.mp (by omega)⟩
    obtain ⟨e, hfails⟩ := Connection.writeRequest_fails (r := spec.request s.conn.requests.length)
      hsized hhinted s.conn.channel
    refine ⟨e, ?_⟩
    have hwrite : ReqQueues.write (s.conn.queues.push (spec.request s.conn.requests.length)) =
        .ok (⟨[], [spec.request s.conn.requests.length]⟩,
          some (spec.request s.conn.requests.length)) := by
      simp [ReqQueues.write, ReqQueues.push, hactive, hsub, check_pos]
    have hsubmit : s.conn.submit spec = .error (.tcp e) := by
      show (if s.conn.connected then _ else _) = _
      rw [if_pos hcon, Connection.maybeHttpWriteToTransport]
      show ((ReqQueues.write (s.conn.queues.push (spec.request s.conn.requests.length))).mapError
        _ >>= _) = _
      rw [hwrite]
      simp only [Except.mapError, ok_bind, hfails, error_bind]
    simp only [step, hsubmit, error_bind]

/-- A request with a body of five bytes.  From inside the callback that it is done, another one is
submitted, which asks for no meta part and no body. -/
def session : List ExEvent :=
  [.submit ⟨130, 80, 5⟩, .connected, .connWrites 100, .connWrites 36, .hndlReads 60, .hndlReads 76,
   .hndlWrites 85, .connReads 81 {}, .connReads 2 {}, .connReads 2 { rspDone := [⟨200, 0, 0⟩] }]

/-- The response is complete, and the second request has been written. -/
theorem exchange_sound_session :
    ∃ s, Run (Guarded (fun _ e => e.Fits) (Step lexicalCast)) {} session s ∧ s.Exact ∧
      s.conn.requests.length = 2 := by
  obtain ⟨s, hexec, hs⟩ := exists_of_returns
    (x := exec (guardedStep (fun s e => e.Fits ∧ Enabled s e) .outOfFuel (step lexicalCast)) {}
      session)
    (p := fun s => decide (s.conn.requests.length = 2))
    (by decide +kernel)
  have hrun : Run (Guarded (fun _ e => e.Fits) (Step lexicalCast)) {} session s :=
    (run_of_exec_guarded hexec).mono fun _ _ _ hstep => ⟨hstep.1.1, hstep.1.2, hstep.2⟩
  exact ⟨s, hrun, (exchange_sound lexicalCast hrun).1, of_decide_eq_true hs⟩

/-- A request that asks for a meta part of 2 ^ 31 bytes: as an `int` that is negative. -/
theorem exchange_hint_fails :
    ∃ s, Run (Step lexicalCast) {} [.connected] s ∧ (⟨1000, 2147483648, 10⟩ : ReqSpec).Sized ∧
      Enabled s (.submit ⟨1000, 2147483648, 10⟩) ∧
      step lexicalCast s (.submit ⟨1000, 2147483648, 10⟩) = .error (.tcp .hintLow) := by
  refine ⟨{ conn := { connected := true } }, .cons ⟨rfl, rfl⟩ (.nil _), ?_, trivial, ?_⟩
  · decide +kernel
  · decide +kernel

end Exchange

end ShadowBrowser.Web
