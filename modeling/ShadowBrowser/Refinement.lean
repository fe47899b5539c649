/-
The link refines the session protocol.

Every step of the link is, in the view, at most one trigger and then silent moves of
`Session`: a call or a tick changes the phase of one end and may send what it held,
and a read is one move for each cell.

* `view_armed`, `view_begun`, … — what each change of the defense state is;
* **`readCell_ssp`**, **`readCell_csp`** — what handling one cell is;
* **`LinkInv.refines`** — what a step of the link is.
-/
import ShadowBrowser.View

namespace ShadowBrowser

open Checked Runs Blocks Relation Session

namespace Chan

variable {c c' d : Chan} {now : ℕ}

/-! ### Changes of the defense state at the CSP -/

/-- Giving up flags tells nothing about sessions. -/
theorem tally_putDefenseInfo (c : Chan) (i : DefenseInfo) :
    tally (c.putDefenseInfo i).journal = tally c.journal := by
  refine tally_quiet fun a ha => ?_
  obtain ⟨f, -, rfl⟩ := List.mem_map.mp ha
  exact fun _ => rfl

theorem tally_stopCalled (c : Chan) (i : DefenseInfo) :
    tally ((c.log .stopCalled).putDefenseInfo i).journal = tally c.journal :=
  (tally_putDefenseInfo _ _).trans (tally_snoc _ _)

theorem tally_raiseFlag (c : Chan) (f : Flag) :
    tally (c.raiseFlag f).journal = tally c.journal := tally_snoc _ _

theorem tally_endDefense (c : Chan) (b : Bool) :
    tally (c.endDefense b).journal = tally c.journal :=
  (tally_snoc _ _).trans (tally_putDefenseInfo _ _)

theorem view_armed : Link.view ⟨c.armed, d⟩ = (Link.view ⟨c, d⟩).arm := by
  have ht : tally c.armed.journal = { tally c.journal with asked := false } :=
    (tally_raiseFlag _ _).trans (tally_snoc _ _)
  simp only [Link.view, ht]
  rfl

theorem view_gaveUp : Link.view ⟨c.gaveUp, d⟩ = (Link.view ⟨c, d⟩).cancel := by
  have ht : tally c.gaveUp.journal = tally c.journal := tally_stopCalled _ _
  simp only [Link.view, ht]
  rfl

theorem view_stopping (hcl : c.isClientSide = true) (hact : c.defenseInfo.state = .active) :
    Link.view ⟨c.stopping, d⟩ = (Link.view ⟨c, d⟩).requestStop := by
  have hstopping : c.stopping = ((c.log .stopCalled).putDefenseInfo { c.defenseInfo with
      stopRequested := true
      needStartFlagInNextCell := false }).raiseFlag .stop := by
    rw [Chan.stopping]
    dsimp only
    exact if_pos hcl
  have ht : tally c.stopping.journal = tally c.journal := by
    rw [hstopping, tally_raiseFlag, tally_stopCalled]
  have hphase : c.stopping.cspPhase = .stopping := by
    have hstate : c.stopping.defenseInfo.state = .active := by
      rw [hstopping]
      exact hact
    have hreq : c.stopping.defenseInfo.stopRequested = true := by
      rw [hstopping]
      rfl
    rw [cspPhase, hstate, hreq]
    rfl
  have hheld : c.stopping.heldAsk = some .stop := by
    rw [hstopping]
    rfl
  have hrecv : c.stopping.defenseInfo.doneDefendingRecv = c.defenseInfo.doneDefendingRecv := by
    rw [hstopping]
    rfl
  simp only [Link.view, ht, hphase, hheld, hrecv]
  rfl

theorem view_begun (hreq : c.defenseInfo.stopRequested = false) :
    Link.view ⟨c.begun now, d⟩ = (Link.view ⟨c, d⟩).commence := by
  have ht : tally (c.begun now).journal =
      { tally c.journal with begun := (tally c.journal).begun + 1, fired := 0 } := tally_snoc _ _
  have hphase : (c.begun now).cspPhase = .active := by
    show (if c.defenseInfo.stopRequested then _ else _) = CspPhase.active
    rw [hreq]
    rfl
  simp only [Link.view, ht, hphase]
  rfl

theorem view_finished (hcl : c.isClientSide = true)
    (hstart : c.defenseInfo.needStartFlagInNextCell = false) :
    Link.view ⟨c.finished, d⟩ = { Link.view ⟨c, d⟩ with csp := .idle } := by
  have hfinished : c.finished = c.endDefense c.defenseInfo.needStopFlagInNextCell := by
    rw [Chan.finished]
    exact if_pos hcl
  have hheld : c.finished.heldAsk = c.heldAsk := by
    rw [hfinished]
    show (if false then _ else if c.defenseInfo.needStopFlagInNextCell then _ else _) =
      (if c.defenseInfo.needStartFlagInNextCell then some Ask.start
        else if c.defenseInfo.needStopFlagInNextCell then some Ask.stop else none)
    rw [hstart]
  have ht : tally c.finished.journal = tally c.journal := by rw [hfinished, tally_endDefense]
  have hphase : c.finished.cspPhase = .idle := by rw [hfinished]; rfl
  have hrecv : c.finished.defenseInfo.doneDefendingRecv = c.defenseInfo.doneDefendingRecv := by
    rw [hfinished]
    rfl
  simp only [Link.view, ht, hphase, hheld, hrecv]

/-- `_check_notify_a_defense_session_done`, at the CSP. -/
theorem view_checkNotify (hnone : c.defenseInfo.state = .none) :
    Link.view ⟨c.checkNotifyADefenseSessionDone, d⟩ =
      if c.defenseInfo.doneDefendingRecv then (Link.view ⟨c, d⟩).notify
      else Link.view ⟨c, d⟩ := by
  unfold checkNotifyADefenseSessionDone
  by_cases hrecv : c.defenseInfo.doneDefendingRecv = true
  · rw [if_pos ⟨hnone, hrecv⟩, if_pos hrecv]
    have ht : tally (c.journal ++ [.status .aDefenseSessionDone]) =
        { tally c.journal with
          notified := (tally c.journal).notified + 1
          fired := (tally c.journal).fired + 1 } := tally_snoc _ _
    show Link.view ⟨{ c with
      defenseInfo := { c.defenseInfo with numCellsRecv := 0, savedNumWriteAttempts := 0 }
      journal := c.journal ++ [.status .aDefenseSessionDone] }, d⟩ = _
    simp only [Link.view, ht]
    rfl
  · rw [if_neg fun h => hrecv h.2, if_neg hrecv]

/-! ### Changes of the defense state at the SSP -/

theorem tally_shown_checkNotify (c : Chan) :
    (tally c.checkNotifyADefenseSessionDone.journal).shown = (tally c.journal).shown := by
  unfold checkNotifyADefenseSessionDone
  split
  · show (tally (c.journal ++ [.status .aDefenseSessionDone])).shown = _
    rw [tally_snoc]
    rfl
  · rfl

/-- The SSP never acts on a session being done. -/
theorem view_checkNotify_ssp :
    Link.view ⟨d, c.checkNotifyADefenseSessionDone⟩ = Link.view ⟨d, c⟩ := by
  refine view_ssp ?_ ?_ (tally_shown_checkNotify c)
  · unfold checkNotifyADefenseSessionDone
    split <;> rfl
  · unfold checkNotifyADefenseSessionDone
    split
    · funext f
      cases f <;> rfl
    · rfl

theorem heldAnswers_active (hdef : DefenseInv c) (hact : c.defenseInfo.state = .active) :
    c.heldAnswers = [] := by
  have hauto : c.defenseInfo.needs .autoStopped = false := hdef.needAutoStopped_active hact
  have hdone : c.defenseInfo.needs .done = false := hdef.needDone_active hact
  rw [heldAnswers, hauto, hdone]
  rfl

theorem heldAnswers_settled (hs : c.Settled) : c.heldAnswers = [] := by
  have hauto : c.defenseInfo.needs .autoStopped = false := hs.autoStopped
  have hdone : c.defenseInfo.needs .done = false := hs.done
  rw [heldAnswers, hauto, hdone]
  rfl

theorem view_finished_ssp (hsrv : c.isClientSide = false) (hdef : DefenseInv c)
    (hact : c.defenseInfo.state = .active) :
    Link.view ⟨d, c.finished⟩ = (Link.view ⟨d, c⟩).sspFinish := by
  have hfinished : c.finished =
      (c.endDefense c.defenseInfo.needStopFlagInNextCell).raiseFlag .done := by
    rw [Chan.finished]
    exact if_neg (Bool.eq_false_iff.mp hsrv)
  have ht : tally c.finished.journal = tally c.journal := by
    rw [hfinished, tally_raiseFlag, tally_endDefense]
  have hheld : c.finished.heldAnswers = [.done (tally c.journal).begun] := by
    rw [heldAnswers, ht, hfinished]
    rfl
  have hphase : c.finished.sspPhase = .idle := by rw [hfinished]; rfl
  simp only [Link.view, ht, hphase, hheld]
  simp only [Session.sspFinish, heldAnswers_active hdef hact, List.append_nil]

theorem view_autoStopped_ssp (hdef : DefenseInv c) (hact : c.defenseInfo.state = .active) :
    Link.view ⟨d, c.autoStopped⟩ = (Link.view ⟨d, c⟩).sspAutoStop := by
  have ht : tally c.autoStopped.journal = tally c.journal :=
    (tally_raiseFlag _ _).trans (tally_endDefense _ _)
  have hheld : c.autoStopped.heldAnswers = [.autoStopped] := rfl
  have hphase : c.autoStopped.sspPhase = .idle := rfl
  simp only [Link.view, ht, hphase, hheld]
  simp only [Session.sspAutoStop, heldAnswers_active hdef hact, List.append_nil]

/-! ### Handling a cell -/

/-- What an end is like while it reads from the other end `d`. -/
structure Reading (d c : Chan) : Prop where
  fed : Tunnel.Fed ⟨d, c⟩
  out : OutBufferInv c
  defense : DefenseInv c
  settled : c.Settled

theorem Reading.parsed (hr : Reading d c) (hlen : cellHeaderSize ≤ c.cellInbuf.length) :
    Reading d { c with cellReadInfo := CellReadInfo.parse c.cellInbuf } where
  fed := ⟨hr.fed.sender, hr.fed.receiver.parsed hlen, hr.fed.size, hr.fed.wire⟩
  out := hr.out.of_sendPart_eq rfl
  defense := hr.defense.aside ⟨rfl, [], by simp, by simp⟩
  settled := ⟨hr.settled.stop, hr.settled.autoStopped, hr.settled.done⟩

theorem Reading.cell {c₁ : Chan} (hr : Reading d c) (hstate : c.cellReadInfo.state = .readBody)
    (hlen : c.peerCellSize ≤ c.cellInbuf.length) (h : c.handleInputCell now = .ok c₁) :
    Reading d { c₁ with cellReadInfo := {} } := by
  obtain ⟨-, hsize, -, hrecv, -⟩ := handleInputCell_recv h
  obtain ⟨hmic, hset⟩ := handleInputCell_calm h hr.settled
  refine ⟨⟨hr.fed.sender, hr.fed.receiver.cell hstate hlen h, ?_, ?_⟩, ?_, ?_, ?_⟩
  · exact hsize.trans hr.fed.size
  · show received c₁.journal <+: written d.journal
    rw [hrecv]
    exact hr.fed.wire
  · exact (hr.out.micros hmic).of_sendPart_eq rfl
  · exact (hr.defense.micros hr.out hmic).aside ⟨rfl, [], by simp, by simp⟩
  · exact ⟨hset.stop, hset.autoStopped, hset.done⟩

/-- The cells that stay in the stream fit their sender, too. -/
theorem FlagInv.fit_kept (h : FlagInv c) {k : Cell} (hk : k ∈ keptCells c.journal) :
    k.FlagsFit c.isClientSide := by
  by_cases himp : k.important = true
  · refine h.fit k (List.mem_of_mem_filter (p := Cell.important) ?_)
    rw [h.kept _ fun _ => Cell.IsPlainDummy.not_important]
    exact List.mem_filter.mpr ⟨hk, himp⟩
  · have hflag : ∀ f ∈ controlFlags, k.has f = false := by
      simpa [Cell.important] using himp
    simp [Cell.FlagsFit, hflag .start (by decide), hflag .stop (by decide),
      hflag .autoStopped (by decide), hflag .done (by decide)]

/-- The cell that is handled next. -/
theorem Reading.next (hr : Reading d c) (hflags : FlagInv d)
    (hstate : c.cellReadInfo.state = .readBody) (hlen : c.peerCellSize ≤ c.cellInbuf.length) :
    ∃ x xs, (tally d.journal).cells.drop (tally c.journal).handled = x :: xs ∧
      (∀ f, testFlag c.cellReadInfo.cellFlags f = x.1.has f) ∧ x.1.FlagsFit d.isClientSide := by
  obtain ⟨k, rest, hks, hinfo⟩ := hr.fed.next hstate hlen
  have hks' : (keptCells d.journal).drop (handledCells c.journal).length = k :: rest := hks
  have hmem : k ∈ keptCells d.journal := by
    refine List.mem_of_mem_drop (i := (handledCells c.journal).length) ?_
    rw [hks']
    exact List.mem_cons_self
  rw [← tally_cells, ← tally_handled, ← List.map_drop] at hks'
  obtain ⟨x, xs, hx, hk, -⟩ := List.map_eq_cons_iff.mp hks'
  refine ⟨x, xs, hx, fun f => ?_, hk ▸ hflags.fit_kept hmem⟩
  have hinfo' : c.cellReadInfo.cellFlags = getCellFlags k.typeNFlags := hinfo
  rw [hinfo', hk]
  rfl

/-- The parts of `handle_flags`; without flags none does anything. -/
theorem handleFlags_parts {flags : UInt8} (h : c.handleFlags now flags = .ok c') :
    ∃ c₁ c₂ c₃ n, doIf (testFlag flags .autoStopped) handleAutoStopped c = .ok c₁ ∧
      doIf (testFlag flags .start) (handleStart · now) c₁ = .ok c₂ ∧
      doIf (testFlag flags .stop) handleStop c₂ = .ok c₃ ∧
      c' = { c₃ with defenseInfo := { c₃.defenseInfo with numCellsRecv := n } } := by
  rcases handleFlags_cases h with ⟨hz, e⟩ | ⟨c₁, c₂, c₃, ha, -, hs, hp, rfl⟩
  · rw [hz, e]
    exact ⟨c, c, c, c.defenseInfo.numCellsRecv, rfl, rfl, rfl, rfl⟩
  · exact ⟨c₁, c₂, c₃, _, ha, hs, hp, rfl⟩

/-- What `_handle_input_cell` does at the beginning and in between does not concern sessions. -/
theorem handleInputCell_parts (h : c.handleInputCell now = .ok c') :
    ∃ c₁ c₂ c₃ c₄ raw as,
      doIf (testFlag c.cellReadInfo.cellFlags .autoStopped) handleAutoStopped
        (c.log (.cellHandled raw)) = .ok c₁ ∧
      doIf (testFlag c.cellReadInfo.cellFlags .start) (handleStart · now) c₁ = .ok c₂ ∧
      doIf (testFlag c.cellReadInfo.cellFlags .stop) handleStop c₂ = .ok c₃ ∧
      (c₄.mode = c₃.mode ∧ c₄.defenseInfo.needs = c₃.defenseInfo.needs ∧
        c₄.isClientSide = c₃.isClientSide ∧ c₄.journal = c₃.journal ++ as ∧
        ∀ a ∈ as, ∀ t : Tally, t.enter a = t) ∧
      ∃ c₅, doIf (testFlag c.cellReadInfo.cellFlags .done) handleDone c₄ = .ok c₅ ∧
        c' = { c₅ with cellInbuf := c'.cellInbuf } := by
  obtain ⟨-, d₁, d₂, d₃, hflags, hdata, hdone, rfl⟩ := handleInputCell_cases h
  obtain ⟨c₁, c₂, c₃, n, ha, hs, hp, rfl⟩ := handleFlags_parts hflags
  refine ⟨c₁, c₂, c₃, d₂, c.cellInbuf.take c.peerCellSize, ?_⟩
  rcases handleData_cases hdata with ⟨-, bs, -, rfl⟩ | ⟨-, rfl⟩
  · refine ⟨[.delivered (bs.drop cellHeaderSize)], ha, hs, hp, ⟨rfl, ?_, rfl, rfl, ?_⟩, d₃, hdone, rfl⟩
    · funext f
      cases f <;> rfl
    · intro a ha t
      rw [List.mem_singleton.mp ha]
      rfl
  · refine ⟨[], ha, hs, hp, ⟨rfl, ?_, rfl, ?_, by simp⟩, d₃, hdone, rfl⟩
    · funext f
      cases f <;> rfl
    · exact (List.append_nil _).symm

/-! ### A cell of the CSP at the SSP -/

theorem view_handled_ssp {x : Cell × ℕ} {xs : List (Cell × ℕ)} (raw : List UInt8)
    (h : (tally d.journal).cells.drop (tally c.journal).handled = x :: xs) :
    Link.view ⟨d, c.log (.cellHandled raw)⟩ =
        { Link.view ⟨d, c⟩ with asks := xs.flatMap asksOf } ∧
      (Link.view ⟨d, c⟩).asks = asksOf x ++ xs.flatMap asksOf := by
  have ht : tally (c.log (.cellHandled raw)).journal =
      { tally c.journal with handled := (tally c.journal).handled + 1 } := tally_snoc _ _
  have hrest : (tally d.journal).cells.drop ((tally c.journal).handled + 1) = xs := by
    rw [← List.tail_drop, h]
    rfl
  refine ⟨?_, ?_⟩
  · have hheld : (c.log (.cellHandled raw)).heldAnswers = c.heldAnswers := by
      rw [heldAnswers, ht]
      rfl
    simp only [Link.view, ht, hrest, hheld]
    rfl
  · simp only [Link.view, h, List.flatMap_cons]

theorem view_begun_ssp (hs : c.Settled) (hreq : c.defenseInfo.stopRequested = false) :
    Link.view ⟨d, c.begun now⟩ =
      { Link.view ⟨d, c⟩ with ssp := .active, begun := (Link.view ⟨d, c⟩).begun + 1 } := by
  have ht : tally (c.begun now).journal =
      { tally c.journal with begun := (tally c.journal).begun + 1, fired := 0 } := tally_snoc _ _
  have hphase : (c.begun now).sspPhase = .active := by
    show (if c.defenseInfo.stopRequested then _ else _) = SspPhase.active
    rw [hreq]
    rfl
  have hheld : (c.begun now).heldAnswers = [] :=
    heldAnswers_settled ⟨fun _ => rfl, hs.autoStopped, hs.done⟩
  simp only [Link.view, ht, hphase, hheld, heldAnswers_settled hs]

theorem view_stop_ssp (hs : c.Settled) (hsrv : c.isClientSide = false)
    (h : c.stopDefenseSession false = .ok c') :
    (Link.view ⟨d, c⟩).ssp ≠ .stopping ∧ Link.view ⟨d, c'⟩ = { Link.view ⟨d, c⟩ with
      ssp := if (Link.view ⟨d, c⟩).ssp = .active then .stopping else (Link.view ⟨d, c⟩).ssp } := by
  rcases stopDefenseSession_cases h with ⟨hstate, rfl⟩ | ⟨hact, hreq, rfl⟩
  · -- no session is on at the SSP, and it stays idle
    have hidle : c.sspPhase = .idle := by
      rw [sspPhase]
      split
      · next hact => exact absurd hact hstate
      · rfl
    have ht : tally c.gaveUp.journal = tally c.journal := tally_stopCalled _ _
    have hheld : c.gaveUp.heldAnswers = c.heldAnswers := by
      rw [heldAnswers_settled hs]
      rfl
    have hview : Link.view ⟨d, c.gaveUp⟩ = { Link.view ⟨d, c⟩ with ssp := .idle } := by
      simp only [Link.view, ht, hheld]
      rfl
    have hssp : (Link.view ⟨d, c⟩).ssp = .idle := hidle
    rw [hview, hssp]
    exact ⟨by decide, rfl⟩
  · -- the SSP's session is on, and it is to stop
    have hstopping : c.stopping = (c.log .stopCalled).putDefenseInfo { c.defenseInfo with
        stopRequested := true
        needStartFlagInNextCell := false } := by
      rw [Chan.stopping]
      exact if_neg (Bool.eq_false_iff.mp hsrv)
    have hssp : (Link.view ⟨d, c⟩).ssp = .active := by
      show c.sspPhase = .active
      rw [sspPhase, hact, hreq]
      rfl
    have ht : tally c.stopping.journal = tally c.journal := by
      rw [hstopping, tally_stopCalled]
    have hphase : c.stopping.sspPhase = .stopping := by
      have hstate : c.stopping.defenseInfo.state = .active := by
        rw [hstopping]
        exact hact
      have hreq : c.stopping.defenseInfo.stopRequested = true := by
        rw [hstopping]
        rfl
      rw [sspPhase, hstate, hreq]
      rfl
    have hheld : c.stopping.heldAnswers = c.heldAnswers := by
      rw [heldAnswers, heldAnswers, ht, hstopping]
      rfl
    refine ⟨by rw [hssp]; decide, ?_⟩
    rw [hssp, if_pos rfl]
    simp only [Link.view, ht, hphase, hheld]

/-- **Handling a cell of the CSP** is receiving what it asks for. -/
theorem readCell_ssp (hr : Reading d c) (hflags : FlagInv d) (hcl : d.isClientSide = true)
    (hsrv : c.isClientSide = false) (hstate : c.cellReadInfo.state = .readBody)
    (hlen : c.peerCellSize ≤ c.cellInbuf.length) (h : c.handleInputCell now = .ok c') :
    Silents (Link.view ⟨d, c⟩) (Link.view ⟨d, c'⟩) := by
  obtain ⟨x, xs, hx, hhas, hfit⟩ := hr.next hflags hstate hlen
  obtain ⟨hnotboth, -, -, hserver⟩ := hfit
  have hnoauto : x.1.has .autoStopped = false := by
    by_contra hn
    exact absurd (hserver (.inl (by simpa using hn))) (by simp [hcl])
  have hnodone : x.1.has .done = false := by
    by_contra hn
    exact absurd (hserver (.inr (by simpa using hn))) (by simp [hcl])
  obtain ⟨c₁, c₂, c₃, c₄, raw, as, ha, hs, hp, ⟨hmode, hneeds, -, hj, hall⟩, c₅, hd, hc'⟩ :=
    handleInputCell_parts h
  obtain ⟨hpop, hasks⟩ := view_handled_ssp raw hx
  simp only [hhas, hnoauto, hnodone] at ha hs hp hd
  cases ha
  cases hd
  -- what comes after the flags does not show
  have hend : Link.view ⟨d, c'⟩ = Link.view ⟨d, c₃⟩ := by
    have hlast : Link.view ⟨d, c'⟩ = Link.view ⟨d, c₄⟩ := by
      rw [hc']
      rfl
    rw [hlast]
    refine view_ssp hmode hneeds ?_
    rw [hj, tally_quiet hall]
  have hset : (c.log (.cellHandled raw)).Settled :=
    ⟨hr.settled.stop, hr.settled.autoStopped, hr.settled.done⟩
  rw [hend]
  cases hstart : x.1.has .start with
  | true =>
    have hnostop : x.1.has .stop = false := by
      by_contra hstop
      exact hnotboth ⟨hstart, by simpa using hstop⟩
    rw [hstart] at hs
    rw [hnostop] at hp
    cases hp
    obtain ⟨-, hnone, -, rfl⟩ := handleStart_eq_ok hs
    have hreq : (c.log (.cellHandled raw)).defenseInfo.stopRequested = false := by
      by_contra hreq
      have hact := hr.defense.stopRequested (Bool.eq_true_of_not_eq_false hreq)
      exact absurd (hact.symm.trans hnone) (by decide)
    have hone : asksOf x = [.start] := by rw [asksOf, if_pos hstart]
    rw [hone] at hasks
    have hidle : (Link.view ⟨d, c⟩).ssp = .idle := by
      show c.sspPhase = .idle
      rw [sspPhase, show c.defenseInfo.state = .none from hnone]
    rw [view_begun_ssp hset hreq, hpop]
    have hmove := (Silent.recvStart (Link.view ⟨d, c⟩) hasks hidle).silents
    rwa [Session.recvStart, hasks] at hmove
  | false =>
    rw [hstart] at hs
    cases hs
    cases hstop : x.1.has .stop with
    | true =>
      rw [hstop] at hp
      obtain ⟨-, hp⟩ := handleStop_eq_ok hp
      obtain ⟨hne, hview⟩ := view_stop_ssp (d := d) hset hsrv hp
      have hone : asksOf x = [.stop] := by
        rw [asksOf, if_neg (by simp [hstart]), if_pos hstop]
      rw [hone] at hasks
      rw [hpop] at hview hne
      rw [hview]
      have hmove := (Silent.recvStop (Link.view ⟨d, c⟩) hasks hne).silents
      rwa [Session.recvStop, hasks] at hmove
    | false =>
      rw [hstop] at hp
      cases hp
      have hnone : asksOf x = [] := by simp [asksOf, hstart, hstop]
      rw [hnone, List.nil_append] at hasks
      rw [hpop, ← hasks]
      exact .refl

/-! ### A cell of the SSP at the CSP -/

theorem view_handled_csp {x : Cell × ℕ} {xs : List (Cell × ℕ)} (raw : List UInt8)
    (h : (tally d.journal).cells.drop (tally c.journal).handled = x :: xs) :
    Link.view ⟨c.log (.cellHandled raw), d⟩ =
        { Link.view ⟨c, d⟩ with
          answers := xs.flatMap answersOf ++ d.heldAnswers
          lastDone := if x.1.has .done then some x.2 else (Link.view ⟨c, d⟩).lastDone } ∧
      (Link.view ⟨c, d⟩).answers = answersOf x ++ (xs.flatMap answersOf ++ d.heldAnswers) := by
  have ht : tally (c.log (.cellHandled raw)).journal =
      { tally c.journal with handled := (tally c.journal).handled + 1 } := tally_snoc _ _
  have hrest : (tally d.journal).cells.drop ((tally c.journal).handled + 1) = xs := by
    rw [← List.tail_drop, h]
    rfl
  have hget : (tally d.journal).cells[(tally c.journal).handled]? = some x := by
    rw [← List.head?_drop, h]
    rfl
  have hlast : (((tally d.journal).cells.take ((tally c.journal).handled + 1)).filter
      (·.1.has .done)).getLast?.map Prod.snd =
      if x.1.has .done then some x.2 else
        (((tally d.journal).cells.take (tally c.journal).handled).filter
          (·.1.has .done)).getLast?.map Prod.snd := by
    rw [List.take_add_one, hget, Option.toList_some, List.filter_append, List.filter_singleton]
    cases x.1.has .done <;> simp
  refine ⟨?_, ?_⟩
  · simp only [Link.view, ht, hrest, hlast]
    rfl
  · simp only [Link.view, h, List.flatMap_cons, List.append_assoc]

/-- **Handling a cell of the SSP** is receiving what it answers. -/
theorem readCell_csp (hr : Reading d c) (hflags : FlagInv d) (hsrv : d.isClientSide = false)
    (hstate : c.cellReadInfo.state = .readBody)
    (hlen : c.peerCellSize ≤ c.cellInbuf.length) (h : c.handleInputCell now = .ok c') :
    Silents (Link.view ⟨c, d⟩) (Link.view ⟨c', d⟩) := by
  obtain ⟨x, xs, hx, hhas, hfit⟩ := hr.next hflags hstate hlen
  obtain ⟨-, hnotboth, hclient, -⟩ := hfit
  -- only a CSP starts or stops a session, so the cell has neither flag
  have hnostart : x.1.has .start = false := by
    by_contra hn
    exact absurd (hclient (.inl (by simpa using hn))) (by simp [hsrv])
  have hnostop : x.1.has .stop = false := by
    by_contra hn
    exact absurd (hclient (.inr (by simpa using hn))) (by simp [hsrv])
  obtain ⟨c₁, c₂, c₃, c₄, raw, as, ha, hs, hp, ⟨hmode, hneeds, -, hj, hall⟩, c₅, hd, hc'⟩ :=
    handleInputCell_parts h
  obtain ⟨hpop, hanswers⟩ := view_handled_csp raw hx
  simp only [hhas, hnostart, hnostop] at ha hs hp hd
  cases hs
  cases hp
  have hdata : Link.view ⟨c₄, d⟩ = Link.view ⟨c₁, d⟩ := by
    refine view_csp hmode hneeds ?_
    rw [hj, tally_quiet hall]
  have hend : Link.view ⟨c', d⟩ = Link.view ⟨c₅, d⟩ := by
    rw [hc']
    rfl
  rw [hend]
  -- an SSP that has stopped of itself has not also finished its part: a cell has one answer at most
  cases hauto : x.1.has .autoStopped with
  | true =>
    have hnodone : x.1.has .done = false := by
      by_contra hdone
      exact hnotboth ⟨hauto, by simpa using hdone⟩
    rw [hnodone] at hd hpop
    cases hd
    rw [hauto] at ha
    have hone : answersOf x = [.autoStopped] := by rw [answersOf, if_pos hauto]
    rw [hone] at hanswers
    rw [hdata]
    obtain ⟨-, ⟨hact, hreq, hn, rfl⟩ | ⟨hnot, rfl⟩⟩ := handleAutoStopped_cases ha
    · -- the session goes on, so the CSP asks for another one at the SSP
      have hphase : (Link.view ⟨c, d⟩).csp = .active := by
        show c.cspPhase = .active
        rw [cspPhase, show c.defenseInfo.state = .active from hact,
          show c.defenseInfo.stopRequested = false from hreq]
        rfl
      have hheld : (Link.view ⟨c, d⟩).held = none := by
        have hnostop : c.defenseInfo.needStopFlagInNextCell = false := by
          by_contra hstop
          obtain ⟨-, hs | ⟨-, hr'⟩⟩ := hr.defense.needStop (by simpa using hstop)
          · exact absurd (hs.symm.trans hact) (by decide)
          · exact absurd (hr'.symm.trans hreq) (by decide)
        have hnostart' : c.defenseInfo.needStartFlagInNextCell = false := hn
        show c.heldAsk = none
        simp [heldAsk, DefenseInfo.needs, hnostart', hnostop]
      have hview : Link.view ⟨(c.log (.cellHandled raw)).raiseFlag .start, d⟩ =
          { Link.view ⟨c.log (.cellHandled raw), d⟩ with held := some .start } := by
        simp only [Link.view, tally_raiseFlag]
        rfl
      rw [hview, hpop]
      have hmove := (Silent.recvAutoStopped (Link.view ⟨c, d⟩) hanswers fun _ => hheld).silents
      rwa [Session.recvAutoStopped, hanswers, if_pos hphase] at hmove
    · -- no session is on, or it is being stopped: the answer is only taken off
      have hphase : (Link.view ⟨c, d⟩).csp ≠ .active := by
        intro hphase
        have hphase' : c.cspPhase = .active := hphase
        unfold cspPhase at hphase'
        split at hphase'
        · cases hphase'
        · cases hphase'
        · next hact =>
          split at hphase'
          · cases hphase'
          · next hreq => exact hnot ⟨hact, Bool.eq_false_iff.mpr hreq⟩
      rw [hpop]
      have hmove := (Silent.recvAutoStopped (Link.view ⟨c, d⟩) hanswers
        fun hact => absurd hact hphase).silents
      rwa [Session.recvAutoStopped, hanswers, if_neg hphase] at hmove
  | false =>
    rw [hauto] at ha
    cases ha
    cases hdone : x.1.has .done with
    | true =>
      rw [hdone] at hd hpop
      have hone : answersOf x = [.done x.2] := by
        rw [answersOf, if_neg (by simp [hauto]), if_pos hdone]
      rw [hone] at hanswers
      obtain ⟨-, rfl⟩ := handleDone_eq_ok hd
      have hrecv : Link.view ⟨{ c₄ with
          defenseInfo := { c₄.defenseInfo with doneDefendingRecv := true } }, d⟩ =
          { Link.view ⟨c, d⟩ with
            answers := xs.flatMap answersOf ++ d.heldAnswers
            doneRecv := true
            lastDone := some x.2 } := by
        have hset : Link.view ⟨{ c₄ with
            defenseInfo := { c₄.defenseInfo with doneDefendingRecv := true } }, d⟩ =
            { Link.view ⟨c₄, d⟩ with doneRecv := true } := rfl
        rw [hset, hdata, hpop]
        rfl
      have hmove := (Silent.recvDone (Link.view ⟨c, d⟩) hanswers).silents
      rw [Session.recvDone, hanswers] at hmove
      have hstate : c₄.defenseInfo.state = c.defenseInfo.state := congrArg (·.1) hmode
      -- outside a session the two sides may be done now
      by_cases hnone : c.defenseInfo.state = .none
      · have hphase : (Link.view ⟨c, d⟩).csp = .idle := by
          show c.cspPhase = .idle
          rw [cspPhase, hnone]
        rw [if_pos hphase] at hmove
        rw [view_checkNotify (by exact hstate.trans hnone), if_pos rfl, hrecv]
        exact hmove
      · have hphase : (Link.view ⟨c, d⟩).csp ≠ .idle := by
          show c.cspPhase ≠ .idle
          unfold cspPhase
          split
          · next hs => exact absurd hs hnone
          · decide
          · split <;> decide
        rw [if_neg hphase] at hmove
        rw [checkNotifyADefenseSessionDone, if_neg fun h => hnone (hstate.symm.trans h.1), hrecv]
        exact hmove
    | false =>
      rw [hdone] at hd hpop
      cases hd
      -- the cell answers nothing, and nothing changes
      have hnone : answersOf x = [] := by simp [answersOf, hauto, hdone]
      rw [hnone, List.nil_append] at hanswers
      rw [hdata, hpop, ← hanswers]
      exact .refl

/-! ### Steps of the ends -/

theorem Ahead.control (h : Ahead d c) (hctl : Control c c') : Ahead d c' := by
  have e := hctl.sendPart_eq
  have hsize : c'.cellSize = c.cellSize := congrArg (·.1.1) e
  have hw : written c'.journal = written c.journal := congrArg (·.2.2.2.1) e
  exact ⟨h.out.of_sendPart_eq e, by rw [hsize, hw]; exact h.handled⟩

theorem silents_outs_csp (ha : Ahead d c) (h : Outs c c') :
    Silents (Link.view ⟨c, d⟩) (Link.view ⟨c', d⟩) := by
  rcases view_outs_csp ha h with e | e
  · rw [e]
    exact .refl
  · rw [e]
    exact (Silent.emit _).silents

/-- The first cell of an armed session is on its way when the CSP begins the session. -/
theorem armed_asks (ha : Ahead d c) (hdef : DefenseInv c) (hs : c.Settled)
    (hpend : c.defenseInfo.state = .pendingNextSocketSend)
    (hlen : c.cellOutbuf.length = c.cellSize) :
    (Link.view ⟨c, d⟩).held = none ∧ .start ∈ (Link.view ⟨c, d⟩).asks := by
  obtain ⟨-, -, ⟨-, -, hempty⟩ | ⟨-, hnostart, ks, k, hks, -, hstart, -⟩⟩ := hdef.pending hpend
  · have hpos := ha.out.cellSize_pos
    rw [hempty, List.length_nil] at hlen
    omega
  · have hnostop : c.defenseInfo.needStopFlagInNextCell = false := by
      by_contra hstop
      exact absurd ((hs.stop (by simpa using hstop)).symm.trans hpend) (by decide)
    refine ⟨?_, ?_⟩
    · show c.heldAsk = none
      simp [heldAsk, DefenseInfo.needs, hnostart, hnostop]
    · have hmap := tally_cells c.journal
      rw [hks] at hmap
      obtain ⟨xs, ys, hxs, -, hys⟩ := List.map_eq_append_iff.mp hmap
      obtain ⟨x, ys', rfl, hx, -⟩ := List.map_eq_cons_iff.mp hys
      have hlt := (le_length_cells ha.out ha.handled).2 hlen.ge
      have hmem : x ∈ (tally c.journal).cells.drop (tally d.journal).handled := by
        have hnil : ys' = [] := by
          have hcount := congrArg List.length hys
          simpa using hcount
        rw [hxs, hnil, List.length_append, List.length_singleton] at hlt
        rw [hxs, List.drop_append_of_le_length (by omega)]
        simp
      refine List.mem_flatMap.mpr ⟨x, hmem, ?_⟩
      rw [asksOf, hx, if_pos hstart]
      exact List.mem_singleton_self _

/-- Where a session may be armed, nothing is held. -/
theorem heldAsk_armable (hmay : c.MayArm) (hs : c.Settled) : c.heldAsk = none := by
  have hnostop : c.defenseInfo.needStopFlagInNextCell = false := by
    by_contra hstop
    exact absurd ((hs.stop (by simpa using hstop)).symm.trans hmay.state) (by decide)
  simp [heldAsk, DefenseInfo.needs, hmay.needStart, hnostop]

/-- STOP is held only during a session. -/
theorem heldAsk_ne_stop (hs : c.Settled) (hstate : c.defenseInfo.state ≠ .active) :
    c.heldAsk ≠ some .stop := by
  have hnostop : c.defenseInfo.needs .stop = false := by
    by_contra hstop
    exact hstate (hs.stop (by simpa [DefenseInfo.needs] using hstop))
  unfold heldAsk
  rw [hnostop]
  split <;> decide

/-- A tick at the CSP. -/
theorem timer_csp {sends : List (List UInt8)} {sock : SockRes} (ha : Ahead d c)
    (hdef : DefenseInv c) (hcl : c.isClientSide = true)
    (h : c.bufloTimerFired now sends sock = .ok c') :
    Silents (Link.view ⟨c, d⟩) (Link.view ⟨c', d⟩) := by
  obtain ⟨hact, ⟨hdone, c₁, houts, -, -, rfl⟩ | ⟨-, -, hsrv, -⟩ | ⟨-, -, htick⟩⟩ :=
    bufloTimerFired_cases h
  · have hreq := isDoneDefendingSend_stopRequested hdone
    have hnostart : c.defenseInfo.needStartFlagInNextCell = false := by
      by_contra hn
      obtain ⟨-, hs | ⟨-, hs⟩⟩ := hdef.needStart (by simpa using hn)
      · exact absurd (hs.symm.trans hact) (by decide)
      · exact absurd (hs.symm.trans hreq) (by decide)
    have hphase : (Link.view ⟨c, d⟩).csp = .stopping := by
      show c.cspPhase = .stopping
      rw [cspPhase, hact, hreq]
      rfl
    have hmode : c₁.mode = c.finished.mode :=
      star_invariant (f := mode) (fun _ _ => Out.mode_eq) houts
    have hnone : c₁.defenseInfo.state = .none :=
      (congrArg (·.1) hmode).trans (finished_state c)
    have hrecv : c₁.defenseInfo.doneDefendingRecv = (Link.view ⟨c, d⟩).doneRecv := by
      refine (congrArg (·.2.2) hmode).trans ?_
      show c.finished.defenseInfo.doneDefendingRecv = c.defenseInfo.doneDefendingRecv
      rw [Chan.finished]
      split <;> rfl
    have hfinished := view_finished (d := d) hcl hnostart
    have hsend := view_outs_csp (ha.control (.finished c hact hreq)) houts
    have hmove := (Silent.finish (Link.view ⟨c, d⟩) hphase).silents
    rw [view_checkNotify hnone, hrecv]
    rw [Session.finish] at hmove
    -- the CSP is told after its last cell has been added, which makes no difference
    rcases hsend with e | e
    · rw [e, hfinished]
      exact hmove
    · rw [e, hfinished]
      refine hmove.trans ?_
      split
      · rw [← emit_notify]
        exact (Silent.emit _).silents
      · exact (Silent.emit _).silents
  · exact absurd (hcl.symm.trans hsrv) (by decide)
  · exact silents_outs_csp ha (defendOneTick_outs hact htick)

/-- The CSP's socket becomes writable. -/
theorem writable_csp {sock : SockRes} (ha : Ahead d c) (hdef : DefenseInv c) (hs : c.Settled)
    (hc : CellMode c) (h : c.onSocketWritecb now sock = .ok c') :
    Silents (Link.view ⟨c, d⟩) (Link.view ⟨c', d⟩) := by
  obtain ⟨-, ⟨hpend, hlen, ht, h⟩ | ⟨hnone, h⟩⟩ := onSocketWritecb_cases hc h
  · obtain ⟨hheld, hstart⟩ := armed_asks ha hdef hs hpend hlen
    have hreq : c.defenseInfo.stopRequested = false := by
      by_contra hreq
      exact absurd ((hdef.stopRequested (by simpa using hreq)).symm.trans hpend) (by decide)
    have hphase : (Link.view ⟨c, d⟩).csp = .pending := by
      show c.cspPhase = .pending
      rw [cspPhase, hpend]
    have hbegun : Silent (Link.view ⟨c, d⟩) (Link.view ⟨c.begun now, d⟩) := by
      rw [view_begun hreq]
      exact .commence _ hphase hheld hstart
    exact hbegun.silents.trans (silents_outs_csp (ha.control (.begun c now hs ht (.inr ⟨hpend, hlen⟩)))
      (sendCellOutbuf_outs (by simp [begun]) h))
  · exact silents_outs_csp ha (sendCellOutbuf_outs (by simp [hnone]) h)

/-- A tick at the SSP. -/
theorem timer_ssp {sends : List (List UInt8)} {sock : SockRes} (ha : Ahead d c)
    (hdef : DefenseInv c) (hsrv : c.isClientSide = false)
    (h : c.bufloTimerFired now sends sock = .ok c') :
    Moves (Link.view ⟨d, c⟩)
      (if c.isDoneDefendingSend = false ∧ c.defenseInfo.autoStopTimePoint ≤ now
        then some .sspAutoStop else none)
      (Link.view ⟨d, c'⟩) := by
  obtain ⟨hact, ⟨hdone, c₁, houts, -, -, rfl⟩ | ⟨hnot, hlimit, -, houts, -⟩ |
    ⟨hnot, hlimit, htick⟩⟩ := bufloTimerFired_cases h
  · have hreq := isDoneDefendingSend_stopRequested hdone
    have hphase : (Link.view ⟨d, c⟩).ssp = .stopping := by
      show c.sspPhase = .stopping
      rw [sspPhase, hact, hreq]
      rfl
    rw [if_neg (by simp [hdone]), view_checkNotify_ssp,
      view_outs_ssp (ha.control (.finished c hact hreq)) houts,
      view_finished_ssp hsrv hdef hact]
    exact (Silent.sspFinish _ hphase).silents.moves
  · have hphase : (Link.view ⟨d, c⟩).ssp ≠ .idle := by
      show c.sspPhase ≠ .idle
      rw [sspPhase, hact]
      dsimp only
      split <;> decide
    rw [if_pos ⟨hnot, hlimit⟩,
      view_outs_ssp (ha.control (.autoStopped c hact hsrv)) houts,
      view_autoStopped_ssp hdef hact]
    exact (Fires.sspAutoStop _ hphase).moves .refl
  · rw [if_neg (by omega), view_outs_ssp ha (defendOneTick_outs hact htick)]
    exact Silents.moves .refl

/-- The SSP's socket becomes writable. -/
theorem writable_ssp {sock : SockRes} (ha : Ahead d c) (hdef : DefenseInv c)
    (hsrv : c.isClientSide = false) (hc : CellMode c)
    (h : c.onSocketWritecb now sock = .ok c') :
    Link.view ⟨d, c'⟩ = Link.view ⟨d, c⟩ := by
  obtain ⟨-, ⟨hpend, -⟩ | ⟨hnone, h⟩⟩ := onSocketWritecb_cases hc h
  · exact absurd (hsrv.symm.trans (hdef.pending hpend).1) (by decide)
  · exact view_outs_ssp ha (sendCellOutbuf_outs (by simp [hnone]) h)

/-! ### Reads -/

/-- The bytes that arrive are the next ones on the wire. -/
theorem Reading.readIn {bs : List UInt8} (hr : Reading d c)
    (hbs : bs <+: Tunnel.wire ⟨d, c⟩) : Reading d (c.readIn bs) where
  fed := by
    refine ⟨hr.fed.sender, hr.fed.receiver.readIn bs, hr.fed.size, ?_⟩
    show received (c.journal ++ [.received bs]) <+: written d.journal
    have hone : received [.received bs] = bs := by simp [received]
    rw [received_append, hone, hr.fed.wire_eq]
    exact (List.prefix_append_right_inj _).mpr hbs
  out := hr.out.of_sendPart_eq (readIn_aside c bs).sendPart_eq
  defense := hr.defense.aside (readIn_aside c bs)
  settled := ⟨hr.settled.stop, hr.settled.autoStopped, hr.settled.done⟩

/-- **Reading cells of the CSP** is receiving what they ask for, one after the other. -/
theorem readCells_ssp (hr : Reading d c) (hflags : FlagInv d) (hcl : d.isClientSide = true)
    (hsrv : c.isClientSide = false) (h : c.readCells now = .ok c') :
    Silents (Link.view ⟨d, c⟩) (Link.view ⟨d, c'⟩) := by
  have hloop := readLoop_induct
    (P := fun x => Reading d x ∧ x.isClientSide = false ∧
      Silents (Link.view ⟨d, c⟩) (Link.view ⟨d, x⟩)) ?_ ?_ ⟨hr, hsrv, .refl⟩ (readCells_eq_ok h).2
  · exact hloop.2.2
  · intro x ⟨hx, hside, hview⟩ _ hlen
    exact ⟨hx.parsed hlen, hside, hview⟩
  · intro x x₁ ⟨hx, hside, hview⟩ hstate hlen hcell
    refine ⟨hx.cell hstate hlen hcell, ?_, ?_⟩
    · exact (congrArg (·.1.1) (handleInputCell_calm hcell hx.settled).1.config_eq).trans hside
    · have hmove : Silents (Link.view ⟨d, x⟩) (Link.view ⟨d, x₁⟩) :=
        readCell_ssp hx hflags hcl hside hstate hlen hcell
      exact hview.trans hmove

/-- **Reading cells of the SSP** is receiving what they answer, one after the other. -/
theorem readCells_csp (hr : Reading d c) (hflags : FlagInv d) (hsrv : d.isClientSide = false)
    (h : c.readCells now = .ok c') : Silents (Link.view ⟨c, d⟩) (Link.view ⟨c', d⟩) := by
  have hloop := readLoop_induct
    (P := fun x => Reading d x ∧ Silents (Link.view ⟨c, d⟩) (Link.view ⟨x, d⟩)) ?_ ?_
    ⟨hr, .refl⟩ (readCells_eq_ok h).2
  · exact hloop.2
  · intro x ⟨hx, hview⟩ _ hlen
    exact ⟨hx.parsed hlen, hview⟩
  · intro x x₁ ⟨hx, hview⟩ hstate hlen hcell
    have hmove : Silents (Link.view ⟨x, d⟩) (Link.view ⟨x₁, d⟩) :=
      readCell_csp hx hflags hsrv hstate hlen hcell
    exact ⟨hx.cell hstate hlen hcell, hview.trans hmove⟩

end Chan

/-! ### Steps of the link -/

namespace Link

open Chan

variable {l l' : Link}

/-- The trigger in an event, if there is one. -/
def trigger (l : Link) : LinkEvent → Option Trigger
  | .csp .setAutoStartDefenseSessionOnNextSend => some .arm
  | .csp (.stopDefenseSession _) =>
    if l.csp.defenseInfo.state = .active then some .requestStop else none
  | .ssp (.bufloTimerFired now _ _) =>
    if l.ssp.isDoneDefendingSend = false ∧ l.ssp.defenseInfo.autoStopTimePoint ≤ now
    then some .sspAutoStop else none
  | _ => none

/-- What is known of one end when the other has handled only what it has written. -/
theorem ahead_of_tunnelInv {t : Tunnel} (h : Tunnel.TunnelInv t) :
    Ahead t.receiver t.sender where
  out := h.sender.outBufferInv
  handled := by
    rw [tally_handled]
    exact h.fed.handled_le

theorem reading_of_tunnelInv {t : Tunnel} (h : Tunnel.TunnelInv t) :
    Reading t.sender t.receiver := by
  obtain ⟨-, -, -, -, hset⟩ := h.receiver.micros
  exact ⟨h.fed, h.receiver.outBufferInv, h.receiver.defenseInv, hset⟩

/-- What is read first goes to the input buffer. -/
theorem readCells_of_step {t : Tunnel} {now k : ℕ} {c : Chan} (h : Tunnel.TunnelInv t)
    (hk : 0 < k ∧ k ≤ t.wire.length)
    (hstep : Chan.Step t.receiver (.socketReadable now (.bytes (t.wire.take k))) c) :
    Reading t.sender (t.receiver.readIn (t.wire.take k)) ∧
      (t.receiver.readIn (t.wire.take k)).readCells now = .ok c := by
  obtain ⟨-, -, -, hcell, -⟩ := h.receiver.micros
  have hne : t.wire.take k ≠ [] := by
    intro hnil
    have := congrArg List.length hnil
    rw [List.length_take, List.length_nil] at this
    omega
  exact ⟨(reading_of_tunnelInv h).readIn (List.take_prefix k t.wire),
    onSocketReadcb_bytes hcell h.size_pos hne (Step.enabled hstep).2⟩

/-- Bytes that have arrived but have not been handled do not show. -/
theorem view_readIn_ssp {c d : Chan} (bs : List UInt8) :
    Link.view ⟨d, c.readIn bs⟩ = Link.view ⟨d, c⟩ :=
  view_ssp rfl rfl (congrArg Tally.shown (tally_snoc _ _))

theorem view_readIn_csp {c d : Chan} (bs : List UInt8) :
    Link.view ⟨c.readIn bs, d⟩ = Link.view ⟨c, d⟩ :=
  view_csp rfl rfl (tally_snoc _ _)

/-- A step of the CSP's own. -/
theorem LinkInv.refines_csp {e : Event} {c : Chan} (h : LinkInv l) (he : e.OfCsp = true)
    (hstep : Chan.Step l.csp e c) :
    Moves l.view (l.trigger (.csp e)) (Link.view { l with csp := c }) := by
  have ha : Ahead l.ssp l.csp := ahead_of_tunnelInv h.up
  have hdef := h.up.sender.defenseInv
  obtain ⟨-, -, -, hcell, hset⟩ := h.up.sender.micros
  obtain ⟨-, hc⟩ := Step.enabled hstep
  have hclient := h.client
  obtain ⟨csp, ssp⟩ := l
  change DefenseInv csp at hdef
  change CellMode csp at hcell
  change csp.Settled at hset
  -- the pump and the socket move silently; arming and stopping are the session's own triggers
  cases e with
  | pumpSpdySend sends => exact (silents_outs_csp ha (pumpSpdySend_outs hc)).moves
  | startDefenseSession now => exact absurd he Bool.false_ne_true
  | setAutoStartDefenseSessionOnNextSend =>
    obtain ⟨hmay, rfl⟩ := setAutoStartDefenseSessionOnNextSend_eq_ok hc
    have hidle : (Link.view ⟨csp, ssp⟩).csp = .idle := by
      show csp.cspPhase = .idle
      rw [cspPhase, hmay.state]
    have hheld : (Link.view ⟨csp, ssp⟩).held = none := heldAsk_armable hmay hset
    show Moves _ (some .arm) (Link.view ⟨csp.armed, ssp⟩)
    rw [view_armed]
    exact (Fires.arm _ hidle hheld).moves .refl
  | stopDefenseSession rightNow =>
    rcases stopDefenseSession_cases hc with ⟨hstate, rfl⟩ | ⟨hact, hreq, rfl⟩
    · have hphase : (Link.view ⟨csp, ssp⟩).csp = .idle ∨ (Link.view ⟨csp, ssp⟩).csp = .pending := by
        show csp.cspPhase = .idle ∨ csp.cspPhase = .pending
        unfold cspPhase
        split
        · exact .inl rfl
        · exact .inr rfl
        · next hact => exact absurd hact hstate
      have hheld : (Link.view ⟨csp, ssp⟩).held ≠ some .stop := heldAsk_ne_stop hset hstate
      have htrigger : Link.trigger ⟨csp, ssp⟩ (.csp (.stopDefenseSession rightNow)) = none :=
        if_neg hstate
      rw [htrigger]
      show Moves _ none (Link.view ⟨csp.gaveUp, ssp⟩)
      rw [view_gaveUp]
      exact (Silent.cancel _ hphase hheld).silents.moves
    · have hphase : (Link.view ⟨csp, ssp⟩).csp = .active := by
        show csp.cspPhase = .active
        rw [cspPhase, hact, hreq]
        rfl
      have htrigger : Link.trigger ⟨csp, ssp⟩ (.csp (.stopDefenseSession rightNow)) =
          some .requestStop := if_pos hact
      rw [htrigger]
      show Moves _ (some .requestStop) (Link.view ⟨csp.stopping, ssp⟩)
      rw [view_stopping hclient hact]
      exact (Fires.requestStop _ hphase).moves .refl
  | bufloTimerFired now sends sock => exact (timer_csp ha hdef hclient hc).moves
  | socketWritable now sock => exact (writable_csp ha hdef hset hcell hc).moves
  | socketReadable now res => exact absurd he Bool.false_ne_true

/-- A step of the SSP's own. -/
theorem LinkInv.refines_ssp {e : Event} {c : Chan} (h : LinkInv l) (he : e.OfSsp = true)
    (hstep : Chan.Step l.ssp e c) :
    Moves l.view (l.trigger (.ssp e)) (Link.view { l with ssp := c }) := by
  have ha : Ahead l.csp l.ssp := ahead_of_tunnelInv h.down
  have hdef := h.down.sender.defenseInv
  obtain ⟨-, -, -, hcell, -⟩ := h.down.sender.micros
  obtain ⟨-, hc⟩ := Step.enabled hstep
  have hserver := h.server
  obtain ⟨csp, ssp⟩ := l
  cases e with
  | pumpSpdySend sends =>
    show Moves _ none (Link.view ⟨csp, c⟩)
    rw [view_outs_ssp ha (pumpSpdySend_outs hc)]
    exact Silents.moves .refl
  | bufloTimerFired now sends sock => exact timer_ssp ha hdef hserver hc
  | socketWritable now sock =>
    show Moves _ none (Link.view ⟨csp, c⟩)
    rw [writable_ssp ha hdef hserver hcell hc]
    exact Silents.moves .refl
  | _ => exact absurd he Bool.false_ne_true

/-- **The link refines the session protocol.** -/
theorem LinkInv.refines {e : LinkEvent} (h : LinkInv l) (hstep : l.Step e l') :
    Moves l.view (l.trigger e) l'.view := by
  cases e with
  | csp e =>
    obtain ⟨he, c, hc, rfl⟩ := hstep.csp_cases
    exact h.refines_csp he hc
  | ssp e =>
    obtain ⟨he, c, hc, rfl⟩ := hstep.ssp_cases
    exact h.refines_ssp he hc
  | toSsp now k =>
    obtain ⟨hk, c, hc, rfl⟩ := hstep.toSsp_cases
    obtain ⟨hread, hcells⟩ := readCells_of_step h.up hk hc
    have hsil := readCells_ssp hread h.up.sender.flagInv h.client h.server hcells
    rw [view_readIn_ssp] at hsil
    exact hsil.moves
  | toCsp now k =>
    obtain ⟨hk, c, hc, rfl⟩ := hstep.toCsp_cases
    obtain ⟨hread, hcells⟩ := readCells_of_step h.down hk hc
    have hsil := readCells_csp hread h.down.sender.flagInv h.server hcells
    rw [view_readIn_csp] at hsil
    exact hsil.moves

end Link

end ShadowBrowser
