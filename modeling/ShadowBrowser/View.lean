/-
The link, seen as a session protocol.

`tally` adds up what a journal tells about sessions: the cells of the stream, each
with the number of the session that its sender had begun last, and the counts that
`Session` keeps.  `Link.view` puts the two channels and their tallies together.

* `Out.emits` — what the steps of the sending side do to a tally;
* **`view_outs_csp`** — for the CSP they send what it holds, or nothing;
* **`view_outs_ssp`** — for the SSP they change nothing, because what it holds counts
  as sent.
-/
import ShadowBrowser.Link
import ShadowBrowser.Session

namespace ShadowBrowser

open Checked Runs Blocks Relation

/-! ### The tally of a journal -/

/-- What a journal tells about sessions. -/
structure Tally where
  /-- the cells of the stream, with the number of sessions begun before each -/
  cells : List (Cell × ℕ) := []
  begun : ℕ := 0
  sent : ℕ := 0
  asked : Bool := false
  notified : ℕ := 0
  fired : ℕ := 0
  handled : ℕ := 0

/-- What the SSP's tally tells the view. -/
def Tally.shown (t : Tally) : List (Cell × ℕ) × ℕ × ℕ := (t.cells, t.begun, t.handled)

/-- One more act. -/
def Tally.enter (t : Tally) : Act → Tally
  | .cellAdded k =>
    { t with
      cells := t.cells ++ [(k, t.begun)]
      sent := t.sent + if k.has .start then 1 else 0
      asked := t.asked || k.has .start }
  | .dummyDropped => { t with cells := t.cells.dropLast }
  | .armed => { t with asked := false }
  | .defenseBegun => { t with begun := t.begun + 1, fired := 0 }
  | .status .aDefenseSessionDone => { t with notified := t.notified + 1, fired := t.fired + 1 }
  | .cellHandled _ => { t with handled := t.handled + 1 }
  | _ => t

/-- The tally of the acts. -/
def tally (as : List Act) : Tally := as.foldl Tally.enter {}

@[simp] theorem tally_snoc (as : List Act) (a : Act) :
    tally (as ++ [a]) = (tally as).enter a := by
  simp [tally]

/-- Acts that are not about sessions. -/
theorem tally_quiet {as bs : List Act} (h : ∀ b ∈ bs, ∀ t : Tally, t.enter b = t) :
    tally (as ++ bs) = tally as := by
  induction bs generalizing as with
  | nil => rw [List.append_nil]
  | cons b bs ih =>
    have htail : tally (as ++ [b] ++ bs) = tally (as ++ [b]) := ih fun x hx => h x (by simp [hx])
    rw [List.append_assoc, List.singleton_append] at htail
    rw [htail, tally_snoc, h b (by simp)]

theorem tally_cells (as : List Act) : (tally as).cells.map Prod.fst = keptCells as := by
  induction as using List.reverseRecOn with
  | nil => rfl
  | append_singleton as a ih =>
    rw [tally_snoc, keptCells_snoc, ← ih]
    cases a with
    | cellAdded k => simp [Tally.enter, keepCell]
    | dummyDropped => simp [Tally.enter, keepCell]
    | status s => cases s <;> rfl
    | _ => rfl

theorem tally_handled (as : List Act) : (tally as).handled = (handledCells as).length := by
  induction as using List.reverseRecOn with
  | nil => rfl
  | append_singleton as a ih =>
    rw [tally_snoc, handledCells_append, List.length_append, ← ih]
    cases a with
    | status s => cases s <;> rfl
    | _ => rfl

theorem tally_begun (as : List Act) : (tally as).begun = as.count .defenseBegun := by
  induction as using List.reverseRecOn with
  | nil => rfl
  | append_singleton as a ih =>
    rw [tally_snoc, List.count_append, ← ih]
    cases a with
    | status s => cases s <;> rfl
    | _ => rfl

theorem tally_sent (as : List Act) :
    (tally as).sent = (addedCells as).countP (·.has .start) := by
  induction as using List.reverseRecOn with
  | nil => rfl
  | append_singleton as a ih =>
    rw [tally_snoc, addedCells_append, List.countP_append, ← ih]
    cases a with
    | cellAdded k => simp [Tally.enter, addedCells, List.countP_singleton]
    | status s => cases s <;> rfl
    | _ => rfl

theorem tally_notified (as : List Act) :
    (tally as).notified = timesNotified .aDefenseSessionDone as := by
  induction as using List.reverseRecOn with
  | nil => rfl
  | append_singleton as a ih =>
    rw [tally_snoc, timesNotified, List.count_append, ← timesNotified, ← ih]
    cases a with
    | status s => cases s <;> rfl
    | _ => rfl

/-! ### The view -/

/-- What a cell asks for. -/
def asksOf (x : Cell × ℕ) : List Ask :=
  if x.1.has .start then [.start] else if x.1.has .stop then [.stop] else []

/-- What a cell answers. -/
def answersOf (x : Cell × ℕ) : List Answer :=
  if x.1.has .autoStopped then [.autoStopped] else if x.1.has .done then [.done x.2] else []

namespace Chan

/-- The CSP's phase. -/
def cspPhase (c : Chan) : CspPhase :=
  match c.defenseInfo.state with
  | .none => .idle
  | .pendingNextSocketSend => .pending
  | .active => if c.defenseInfo.stopRequested then .stopping else .active

/-- The SSP's phase. -/
def sspPhase (c : Chan) : SspPhase :=
  match c.defenseInfo.state with
  | .active => if c.defenseInfo.stopRequested then .stopping else .active
  | _ => .idle

/-- What the CSP's next cell will ask for. -/
def heldAsk (c : Chan) : Option Ask :=
  if c.defenseInfo.needs .start then some .start
  else if c.defenseInfo.needs .stop then some .stop else none

/-- What the SSP's next cell will answer. -/
def heldAnswers (c : Chan) : List Answer :=
  if c.defenseInfo.needs .autoStopped then [.autoStopped]
  else if c.defenseInfo.needs .done then [.done (tally c.journal).begun] else []

end Chan

/-- The link as a session protocol. -/
def Link.view (l : Link) : Session :=
  let t := tally l.csp.journal
  let u := tally l.ssp.journal
  { csp := l.csp.cspPhase
    held := l.csp.heldAsk
    asks := (t.cells.drop u.handled).flatMap asksOf
    ssp := l.ssp.sspPhase
    answers := (u.cells.drop t.handled).flatMap answersOf ++ l.ssp.heldAnswers
    doneRecv := l.csp.defenseInfo.doneDefendingRecv
    sent := t.sent
    asked := t.asked
    begun := u.begun
    lastDone := ((u.cells.take t.handled).filter (·.1.has .done)).getLast?.map Prod.snd
    notified := t.notified
    fired := t.fired }

/-- Right after the handshake no session has been heard of. -/
theorem Link.Established.view_eq {l : Link} (h : l.Established) : l.view = {} := by
  have hcsp := h.up.sender.unused
  have hssp := h.down.sender.unused
  have hinfo := h.up.sender.defense
  have hinfo' := h.down.sender.defense
  change l.csp.journal = _ at hcsp
  change l.ssp.journal = _ at hssp
  change l.csp.defenseInfo = _ at hinfo
  change l.ssp.defenseInfo = _ at hinfo'
  simp [Link.view, Chan.cspPhase, Chan.sspPhase, Chan.heldAsk, Chan.heldAnswers, hcsp, hssp,
    hinfo, hinfo', tally, Tally.enter, DefenseInfo.needs]

namespace Chan

variable {c c' d : Chan}

/-! ### The sending side -/

/-- The part of `defense_info_` that the view looks at beside the flags. -/
def mode (c : Chan) : DefenseState × Bool × Bool :=
  (c.defenseInfo.state, c.defenseInfo.stopRequested, c.defenseInfo.doneDefendingRecv)

/-- What a step of the sending side does to the cells and the flags: nothing; or a plain dummy
cell that has not been written is dropped; or a cell is added that carries what was held. -/
inductive Emits (n : ℕ) (c c' : Chan) : Prop
  | quiet (hneeds : c'.defenseInfo.needs = c.defenseInfo.needs)
      (ht : tally c'.journal = tally c.journal)
  | dropped (hneeds : c'.defenseInfo.needs = c.defenseInfo.needs)
      (xs : List (Cell × ℕ)) (x : Cell × ℕ) (hx : x.1.IsPlainDummy)
      (hxs : (tally c.journal).cells = xs ++ [x]) (hn : n ≤ xs.length)
      (ht : tally c'.journal = { tally c.journal with cells := xs })
  | added (k : Cell) (hk : ∀ f, f ≠ .defensive → k.has f = c.defenseInfo.needs f)
      (hneeds : ∀ f, c'.defenseInfo.needs f = false) (hn : n ≤ (tally c.journal).cells.length)
      (ht : tally c'.journal = (tally c.journal).enter (.cellAdded k))

/-- The cells whose bytes are in the stream. -/
theorem length_tally_cells (hbuf : OutBufferInv c) :
    (written c.journal).length + c.cellOutbuf.length =
      c.cellSize * (tally c.journal).cells.length := by
  have hcells := congrArg List.length (tally_cells c.journal)
  rw [List.length_map] at hcells
  rw [hcells]
  exact hbuf.length_bytes

/-- Cells of which all bytes have been written are cells of the stream. -/
theorem le_length_cells (hbuf : OutBufferInv c) {n : ℕ}
    (hn : n * c.cellSize ≤ (written c.journal).length) :
    n ≤ (tally c.journal).cells.length ∧
      (c.cellSize ≤ c.cellOutbuf.length → n < (tally c.journal).cells.length) := by
  have hlen := length_tally_cells hbuf
  have hpos := hbuf.cellSize_pos
  rw [Nat.mul_comm] at hn
  refine ⟨Nat.le_of_mul_le_mul_left (by omega) hpos, fun hle => ?_⟩
  have hmul : c.cellSize * (n + 1) ≤ c.cellSize * (tally c.journal).cells.length := by
    rw [Nat.mul_succ]
    omega
  exact Nat.le_of_mul_le_mul_left hmul hpos

theorem Out.mode_eq (h : Out c c') : c'.mode = c.mode := by
  cases h <;> rfl

/-- **What the steps of the sending side do to the tally.** -/
theorem Out.emits {n : ℕ} (hbuf : OutBufferInv c)
    (hn : n * c.cellSize ≤ (written c.journal).length) (h : Out c c') : Emits n c c' := by
  obtain ⟨hle, hlt⟩ := le_length_cells hbuf hn
  cases h with
  | spdySent bs => exact .quiet rfl (tally_snoc _ _)
  | dropped m hd =>
    obtain ⟨-, ks, k, hks, hplain⟩ := hbuf.dummy hd.marked
    have hmap := tally_cells c.journal
    rw [hks] at hmap
    obtain ⟨xs, ys, hxs, -, hys⟩ := List.map_eq_append_iff.mp hmap
    obtain ⟨x, rfl, hx⟩ : ∃ x, ys = [x] ∧ x.1 = k := by
      obtain ⟨x, ys', rfl, hx, hys'⟩ := List.map_eq_cons_iff.mp hys
      exact ⟨x, by rw [List.map_eq_nil_iff.mp hys'], hx⟩
    have hlen := hlt hd.whole
    rw [hxs, List.length_append, List.length_singleton] at hlen
    refine .dropped rfl xs x (hx ▸ hplain) hxs (by omega) ?_
    show tally (c.journal ++ [.dummyDropped]) = _
    rw [tally_snoc, Tally.enter, hxs, List.dropLast_concat]
  | addedData hadd =>
    refine .added c.dataCell (fun f hf => dataCell_has f hf) (fun f => ?_) hle (tally_snoc _ _)
    cases f <;> rfl
  | addedDummy hd hf hp =>
    refine .added c.dummyCell (fun f hf => dummyCell_has f hf) (fun f => ?_) hle (tally_snoc _ _)
    cases f <;> rfl
  | took => exact .quiet rfl (tally_snoc _ _)
  | refused => exact .quiet rfl (tally_snoc _ _)
  | attempted => exact .quiet (funext fun f => by cases f <;> rfl) rfl
  | toggled => exact .quiet rfl rfl
  | avoided => exact .quiet rfl rfl
  | closed => exact .quiet rfl (tally_snoc _ _)

/-- What does not change the mode, the flags and the tally of the CSP does not show. -/
theorem view_csp (hmode : c'.mode = c.mode) (hneeds : c'.defenseInfo.needs = c.defenseInfo.needs)
    (ht : tally c'.journal = tally c.journal) : Link.view ⟨c', d⟩ = Link.view ⟨c, d⟩ := by
  simp only [mode, Prod.mk.injEq] at hmode
  obtain ⟨hstate, hreq, hdone⟩ := hmode
  simp only [Link.view, cspPhase, heldAsk, hstate, hreq, hdone, hneeds, ht]

/-- What does not change the mode, the flags and the tally of the SSP does not show. -/
theorem view_ssp (hmode : c'.mode = c.mode) (hneeds : c'.defenseInfo.needs = c.defenseInfo.needs)
    (ht : (tally c'.journal).shown = (tally c.journal).shown) :
    Link.view ⟨d, c'⟩ = Link.view ⟨d, c⟩ := by
  simp only [mode, Prod.mk.injEq] at hmode
  simp only [Tally.shown, Prod.mk.injEq] at ht
  obtain ⟨hstate, hreq, -⟩ := hmode
  obtain ⟨hcells, hbegun, hhandled⟩ := ht
  simp only [Link.view, sspPhase, heldAnswers, hstate, hreq, hneeds, hcells, hbegun, hhandled]

/-- A plain dummy cell neither asks nor answers. -/
theorem plain_quiet {x : Cell × ℕ} (h : x.1.IsPlainDummy) : asksOf x = [] ∧ answersOf x = [] := by
  have hflag := h.2.2
  simp [asksOf, answersOf, hflag .start (by decide), hflag .stop (by decide),
    hflag .autoStopped (by decide), hflag .done (by decide)]

/-- A cell of the CSP asks for what was held. -/
theorem view_emits_csp (h : Emits (tally d.journal).handled c c') (hmode : c'.mode = c.mode) :
    Link.view ⟨c', d⟩ = Link.view ⟨c, d⟩ ∨ Link.view ⟨c', d⟩ = (Link.view ⟨c, d⟩).emit := by
  cases h with
  | quiet hneeds ht => exact .inl (view_csp hmode hneeds ht)
  -- a plain dummy cell asks for nothing and answers nothing
  | dropped hneeds xs x hx hxs hn ht =>
    simp only [mode, Prod.mk.injEq] at hmode
    obtain ⟨hstate, hreq, hdone⟩ := hmode
    refine .inl ?_
    simp only [Link.view, cspPhase, heldAsk, hstate, hreq, hdone, hneeds, ht, hxs,
      List.drop_append_of_le_length hn, List.flatMap_append, List.flatMap_singleton,
      (plain_quiet hx).1, List.append_nil]
  | added k hk hneeds hn ht =>
    simp only [mode, Prod.mk.injEq] at hmode
    obtain ⟨hstate, hreq, hdone⟩ := hmode
    refine .inr ?_
    have hstart : k.has .start = c.defenseInfo.needs .start := hk _ (by decide)
    have hstop : k.has .stop = c.defenseInfo.needs .stop := hk _ (by decide)
    have hnone : c'.heldAsk = none := by simp [heldAsk, hneeds]
    -- a cell never carries both START and STOP of one side
    have hasks : asksOf (k, (tally c.journal).begun) = c.heldAsk.toList := by
      simp only [asksOf, heldAsk, hstart, hstop]
      cases c.defenseInfo.needs .start <;> cases c.defenseInfo.needs .stop <;> rfl
    have hview : Link.view ⟨c', d⟩ = { Link.view ⟨c, d⟩ with
        held := none
        asks := (Link.view ⟨c, d⟩).asks ++ c.heldAsk.toList
        sent := (Link.view ⟨c, d⟩).sent + if k.has .start then 1 else 0
        asked := (Link.view ⟨c, d⟩).asked || k.has .start } := by
      simp only [Link.view, hnone, cspPhase, hstate, hreq, hdone, ht, Tally.enter,
        List.drop_append_of_le_length hn, List.flatMap_append, List.flatMap_singleton, hasks]
    rw [hview, hstart]
    show _ = Session.emit (Link.view ⟨c, d⟩)
    have hheld : (Link.view ⟨c, d⟩).held = c.heldAsk := rfl
    cases hs : c.defenseInfo.needs .start with
    | true => simp [Session.emit, hheld, heldAsk, hs]
    | false =>
      cases hp : c.defenseInfo.needs .stop with
      | true => simp [Session.emit, hheld, heldAsk, hs, hp]
      | false =>
        have hnot : c.heldAsk = none := by simp [heldAsk, hs, hp]
        simp only [Session.emit, hheld, hnot, Option.toList_none, List.append_nil, Bool.or_false]
        rw [← hnot, ← hheld]
        rfl

/-- A cell of the SSP answers what was held. -/
theorem view_emits_ssp (h : Emits (tally d.journal).handled c c') (hmode : c'.mode = c.mode) :
    Link.view ⟨d, c'⟩ = Link.view ⟨d, c⟩ := by
  cases h with
  | quiet hneeds ht => exact view_ssp hmode hneeds (congrArg Tally.shown ht)
  | dropped hneeds xs x hx hxs hn ht =>
    simp only [mode, Prod.mk.injEq] at hmode
    obtain ⟨hstate, hreq, -⟩ := hmode
    simp only [Link.view, sspPhase, heldAnswers, hstate, hreq, hneeds, ht, hxs,
      List.drop_append_of_le_length hn, List.take_append_of_le_length hn, List.flatMap_append,
      List.flatMap_singleton, (plain_quiet hx).2, List.append_nil]
  | added k hk hneeds hn ht =>
    simp only [mode, Prod.mk.injEq] at hmode
    obtain ⟨hstate, hreq, -⟩ := hmode
    have hauto : k.has .autoStopped = c.defenseInfo.needs .autoStopped := hk _ (by decide)
    have hdone : k.has .done = c.defenseInfo.needs .done := hk _ (by decide)
    have hnone : c'.heldAnswers = [] := by simp [heldAnswers, hneeds]
    have hanswers : answersOf (k, (tally c.journal).begun) = c.heldAnswers := by
      simp only [answersOf, heldAnswers, hauto, hdone]
    simp only [Link.view, sspPhase, hstate, hreq, hnone, ht, Tally.enter,
      List.drop_append_of_le_length hn, List.take_append_of_le_length hn, List.flatMap_append,
      List.flatMap_singleton, hanswers, List.append_nil]

/-- The peer has handled only cells that have been written. -/
structure Ahead (d c : Chan) : Prop where
  out : OutBufferInv c
  handled : (tally d.journal).handled * c.cellSize ≤ (written c.journal).length

theorem Ahead.step (h : Ahead d c) (hout : Out c c') : Ahead d c' := by
  have hsize : c'.cellSize = c.cellSize := congrArg (·.1.2.1) hout.config_eq
  refine ⟨h.out.out hout, ?_⟩
  rw [hsize]
  exact h.handled.trans (written_mono hout.journal).length_le

/-- **The sending side of the CSP sends what it holds, or nothing.** -/
theorem view_outs_csp (ha : Ahead d c) (h : Outs c c') :
    Link.view ⟨c', d⟩ = Link.view ⟨c, d⟩ ∨ Link.view ⟨c', d⟩ = (Link.view ⟨c, d⟩).emit := by
  have key : Ahead d c' ∧ (Link.view ⟨c', d⟩ = Link.view ⟨c, d⟩ ∨
      Link.view ⟨c', d⟩ = (Link.view ⟨c, d⟩).emit) := by
    induction h with
    | refl => exact ⟨ha, .inl rfl⟩
    | tail _ hout ih =>
      obtain ⟨ha', hview⟩ := ih
      refine ⟨ha'.step hout, ?_⟩
      rcases view_emits_csp (hout.emits ha'.out ha'.handled) hout.mode_eq with he | he
      · rw [he]
        exact hview
      · refine .inr ?_
        rcases hview with hv | hv
        · rw [he, hv]
        · rw [he, hv, Session.emit_emit]
  exact key.2

/-- **The sending side of the SSP does not show.** -/
theorem view_outs_ssp (ha : Ahead d c) (h : Outs c c') :
    Link.view ⟨d, c'⟩ = Link.view ⟨d, c⟩ := by
  have key : Ahead d c' ∧ Link.view ⟨d, c'⟩ = Link.view ⟨d, c⟩ := by
    induction h with
    | refl => exact ⟨ha, rfl⟩
    | tail _ hout ih =>
      obtain ⟨ha', hview⟩ := ih
      exact ⟨ha'.step hout,
        (view_emits_ssp (hout.emits ha'.out ha'.handled) hout.mode_eq).trans hview⟩
  exact key.2

end Chan

end ShadowBrowser
