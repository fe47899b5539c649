/-
What the two ends agree on.

START, STOP, AUTO_STOPPED and DONE cross each other on the way, and none of them
carries a session number.  Each of the three properties here holds of every run in
which a call or a time limit does not come at the wrong moment, and a run shows that
the moment matters.

* **`start_finds_none`** — START finds the SSP without a session, if the CSP arms a
  session only while nothing of an earlier one is left at the SSP;
* **`session_end_recognised`** — a link that has come to rest is not taken for one
  that defends, if no end stops while the other cannot hear it.
-/
import ShadowBrowser.Refinement

namespace ShadowBrowser

open Checked Runs Relation Session Chan

/-! ### Refusing to start -/

namespace Chan

variable {c c' : Chan} {now : ℕ}

theorem startDefenseSession_avoids (h : c.defenseInfo.state = .none) :
    Avoids .startNotNone (c.startDefenseSession now) := by
  refine .check_bind_of h (.check_bind (by decide) fun _ => .check_bind (by decide) fun _ => ?_)
  exact .check_bind (by decide) fun _ => .check_bind (by decide) fun _ => .ok

/-- Only a START that finds a session makes handling a cell fail at the head of
`start_defense_session`. -/
theorem handleInputCell_avoids
    (h : testFlag c.cellReadInfo.cellFlags .start = true → c.defenseInfo.state = .none) :
    Avoids .startNotNone (c.handleInputCell now) := by
  have hauto : ∀ d : Chan, Avoids .startNotNone d.handleAutoStopped := by
    intro d
    refine .check_bind (by decide) fun _ => .ite (fun _ => ?_) fun _ => .ok
    exact .check_bind (by decide) fun _ => .ok
  have hstop : ∀ d : Chan, Avoids .startNotNone d.handleStop := by
    intro d
    refine .check_bind (by decide) fun _ => .ite (fun _ => .ok) fun _ => ?_
    exact .ite (fun _ => .check_bind (by decide) fun _ => .ok) fun _ => .error (by decide)
  have hdone : ∀ d : Chan, Avoids .startNotNone d.handleDone :=
    fun d => .check_bind (by decide) fun _ => .ok
  have hdata : ∀ (d : Chan) (t : UInt8) (n : ℕ) (ptr : Option (List UInt8)),
      Avoids .startNotNone (d.handleData t n ptr) := by
    intro d t n ptr
    refine .ite (fun _ => ?_) fun _ => .ite (fun _ => .ok) fun _ => ?_
    · cases ptr with
      | none => exact .error (by decide)
      | some bs => exact .ok
    · exact .ite (fun _ => .error (by decide)) fun _ => .error (by decide)
  refine .check_bind (by decide) fun _ => .bind ?_ fun _ _ => .bind (hdata _ _ _ _) fun _ _ => ?_
  · refine .ite (fun _ => .ok) fun _ => .bind (.doIf fun _ => hauto _) fun c₁ ha => ?_
    refine .check_bind (by decide) fun _ => .bind (.doIf fun hs => ?_) fun _ _ => ?_
    · -- AUTO_STOPPED does not change the state
      have hstate : c₁.defenseInfo.state = c.defenseInfo.state := by
        rcases doIf_eq_ok ha with ⟨-, ha⟩ | ⟨-, rfl⟩
        · obtain ⟨-, ⟨-, -, -, rfl⟩ | ⟨-, rfl⟩⟩ := handleAutoStopped_cases ha <;> rfl
        · rfl
      exact .check_bind (by decide) fun _ => startDefenseSession_avoids (hstate.trans (h hs))
    · exact .bind (.doIf fun _ => hstop _) fun _ _ => .ok
  · exact .bind (.doIf fun _ => hdone _) fun _ _ => .ok

/-- What no turn of the loop of `_read_cells` aborts with, the loop does not. -/
theorem readLoop_avoids {P : Chan → Prop} {e : Check}
    (hhead : ∀ c, P c → c.cellReadInfo.state = .readHeader →
      cellHeaderSize ≤ c.cellInbuf.length →
      P { c with cellReadInfo := CellReadInfo.parse c.cellInbuf })
    (hbody : ∀ c, P c → c.cellReadInfo.state = .readBody →
      c.peerCellSize ≤ c.cellInbuf.length → Avoids e (c.handleInputCell now) ∧
        ∀ c₁, c.handleInputCell now = .ok c₁ → P { c₁ with cellReadInfo := {} }) :
    ∀ {fuel : ℕ} {c : Chan}, P c → Avoids e (readLoop now fuel c) := by
  intro fuel
  induction fuel with
  | zero => exact fun _ => .ok
  | succ fuel ih =>
    intro c hP
    rw [readLoop]
    split
    · next hstate => exact .ite (fun hlen => ih (hhead c hP hstate hlen)) fun _ => .ok
    · next hstate =>
      refine .ite (fun hlen => ?_) fun _ => .ok
      obtain ⟨havoid, hnext⟩ := hbody c hP hstate hlen
      exact .bind havoid fun c₁ h₁ => ih (hnext c₁ h₁)

end Chan

namespace Link

variable {l l₀ l' : Link}

/-! ### What the view tells about the cells on the way -/

theorem mem_asks_start : .start ∈ l.view.asks ↔ ∃ k ∈ l.cellsToSsp, k.has .start = true := by
  rw [cellsToSsp, ← tally_cells, ← tally_handled, ← List.map_drop]
  simp only [List.mem_map]
  constructor
  · intro h
    obtain ⟨x, hx, hask⟩ := List.mem_flatMap.mp h
    refine ⟨x.1, ⟨x, hx, rfl⟩, ?_⟩
    unfold asksOf at hask
    split at hask
    · assumption
    · split at hask <;> simp at hask
  · rintro ⟨_, ⟨x, hx, rfl⟩, hstart⟩
    refine List.mem_flatMap.mpr ⟨x, hx, ?_⟩
    rw [asksOf, if_pos hstart]
    exact List.mem_singleton_self _

theorem mem_answers {a : Answer} (hs : l.ssp.Settled) (h : a ∈ l.view.answers) :
    ∃ x ∈ (tally l.ssp.journal).cells.drop (tally l.csp.journal).handled, a ∈ answersOf x := by
  have hview : l.view.answers =
      ((tally l.ssp.journal).cells.drop (tally l.csp.journal).handled).flatMap answersOf := by
    show _ ++ l.ssp.heldAnswers = _
    rw [heldAnswers_settled hs, List.append_nil]
  rw [hview] at h
  exact List.mem_flatMap.mp h

theorem mem_cellsToCsp {x : Cell × ℕ}
    (h : x ∈ (tally l.ssp.journal).cells.drop (tally l.csp.journal).handled) :
    x.1 ∈ l.cellsToCsp := by
  rw [cellsToCsp, ← tally_cells, ← tally_handled, ← List.map_drop]
  exact List.mem_map_of_mem h

theorem LinkInv.sspSettled (h : LinkInv l) : l.ssp.Settled := by
  obtain ⟨-, -, -, -, hset⟩ := h.up.receiver.micros
  exact hset

theorem LinkInv.cspSettled (h : LinkInv l) : l.csp.Settled := by
  obtain ⟨-, -, -, -, hset⟩ := h.up.sender.micros
  exact hset

/-- The SSP's phase is idle when its state is `NONE`; it is never armed. -/
theorem LinkInv.ssp_idle (h : LinkInv l) :
    l.view.ssp = .idle ↔ l.ssp.defenseInfo.state = .none := by
  show l.ssp.sspPhase = .idle ↔ _
  cases hstate : l.ssp.defenseInfo.state with
  | none => simp [sspPhase, hstate]
  | pendingNextSocketSend =>
    have hcl := (h.down.sender.defenseInv.pending hstate).1
    exact absurd (hcl.symm.trans h.server) (by decide)
  | active =>
    simp only [sspPhase, hstate]
    split <;> simp

/-! ### START finds no session -/

/-- `set_auto_start_defense_session_on_next_send` is called only while nothing of an earlier
session is left at the SSP: it is in the state `NONE`, and neither START nor AUTO_STOPPED is
on the way. -/
def ArmsAfterSession (l : Link) (e : LinkEvent) : Prop :=
  e = .csp .setAutoStartDefenseSessionOnNextSend →
    l.ssp.defenseInfo.state = .none ∧ (∀ k ∈ l.cellsToSsp, k.has .start = false) ∧
      ∀ k ∈ l.cellsToCsp, k.has .autoStopped = false

instance (l : Link) (e : LinkEvent) : Decidable (l.ArmsAfterSession e) := by
  unfold ArmsAfterSession
  infer_instance

theorem trigger_arm {e : LinkEvent} (h : l.trigger e = some .arm) :
    e = .csp .setAutoStartDefenseSessionOnNextSend := by
  unfold trigger at h
  split at h
  · rfl
  · split at h <;> simp at h
  · split at h <;> simp at h
  · cases h

theorem LinkInv.arms_apart {e : LinkEvent} (h : LinkInv l) (hg : l.ArmsAfterSession e)
    (hstep : l.Step e l') : ∀ u, l.trigger e = some u → ArmsApart l.view u := by
  rintro u hu rfl
  obtain rfl := trigger_arm hu
  obtain ⟨hnone, hasks, hanswers⟩ := hg rfl
  obtain ⟨-, c, hc, -⟩ := hstep.csp_cases
  obtain ⟨hmay, -⟩ := setAutoStartDefenseSessionOnNextSend_eq_ok (Step.enabled hc).2
  have hheld : l.view.held = none := heldAsk_armable hmay h.cspSettled
  have hstart : l.view.asks.count .start = 0 := by
    rw [List.count_eq_zero]
    intro hmem
    obtain ⟨k, hk, hhas⟩ := mem_asks_start.mp hmem
    exact absurd (hhas.symm.trans (hasks k hk)) (by decide)
  have hauto : l.view.answers.count .autoStopped = 0 := by
    rw [List.count_eq_zero]
    intro hmem
    obtain ⟨x, hx, hans⟩ := mem_answers h.sspSettled hmem
    have hno := hanswers x.1 (mem_cellsToCsp hx)
    rw [answersOf, hno] at hans
    split at hans
    · exact absurd ‹_› Bool.false_ne_true
    · split at hans <;> simp at hans
  rw [startTokens, hheld, hstart, hauto, if_pos (h.ssp_idle.mpr hnone)]
  rfl

/-- The START that the SSP is about to handle is the only one. -/
theorem start_state {d c : Chan} (hr : Reading d c) (hflags : FlagInv d)
    (hsrv : c.isClientSide = false) (htokens : (Link.view ⟨d, c⟩).startTokens ≤ 1)
    (hstate : c.cellReadInfo.state = .readBody) (hlen : c.peerCellSize ≤ c.cellInbuf.length)
    (hstart : testFlag c.cellReadInfo.cellFlags .start = true) : c.defenseInfo.state = .none := by
  obtain ⟨x, xs, hx, hhas, -⟩ := hr.next hflags hstate hlen
  rw [hhas] at hstart
  have hask : .start ∈ (Link.view ⟨d, c⟩).asks := by
    show .start ∈ ((tally d.journal).cells.drop (tally c.journal).handled).flatMap asksOf
    rw [hx]
    simp [asksOf, hstart]
  have hcount := List.count_pos_iff.mpr hask
  have hidle : (Link.view ⟨d, c⟩).ssp = .idle := by
    by_contra hne
    rw [startTokens, if_neg hne] at htokens
    omega
  cases hs : c.defenseInfo.state with
  | none => rfl
  | pendingNextSocketSend =>
    exact absurd ((hr.defense.pending hs).1.symm.trans hsrv) (by decide)
  | active =>
    have hphase : c.sspPhase = .idle := hidle
    unfold sspPhase at hphase
    rw [hs] at hphase
    dsimp only at hphase
    split at hphase <;> cases hphase

theorem LinkInv.toSsp_avoids {now k : ℕ} (h : LinkInv l) (htokens : l.view.startTokens ≤ 1) :
    l.step (.toSsp now k) ≠ .error .startNotNone := by
  refine Avoids.check_bind (by decide) fun hk => .bind ?_ fun _ _ => .ok
  refine .ite (fun _ => ?_) fun _ => .error (by decide)
  have hne : l.up.wire.take k ≠ [] := by
    intro hnil
    have := congrArg List.length hnil
    rw [List.length_take, List.length_nil] at this
    omega
  have hread : Reading l.csp (l.ssp.readIn (l.up.wire.take k)) :=
    (reading_of_tunnelInv h.up).readIn (List.take_prefix k l.up.wire)
  obtain ⟨-, -, -, hcell, -⟩ := h.up.receiver.micros
  -- bytes of the wire reach the SSP as cells alone, as it has read the peer info
  have hcells : l.ssp.onSocketReadcb now (.bytes (l.up.wire.take k)) =
      (l.ssp.readIn (l.up.wire.take k)).readCells now := by
    have hpeer : 0 < l.ssp.peerCellSize := h.up.size_pos
    have hinfo : l.ssp.needToReadPeerInfo = false := hcell.peerInfoRead
    cases hbs : l.up.wire.take k with
    | nil => exact absurd hbs hne
    | cons b bs =>
      unfold onSocketReadcb
      dsimp only
      rw [if_neg (by simp [hinfo]), if_pos (by omega)]
      rfl
  show Avoids .startNotNone (l.ssp.onSocketReadcb now (.bytes (l.up.wire.take k)))
  rw [hcells]
  refine .check_bind (by decide) fun _ => readLoop_avoids
    (P := fun c => Reading l.csp c ∧ c.isClientSide = false ∧
      (Link.view ⟨l.csp, c⟩).startTokens ≤ 1) ?_ ?_ ⟨hread, h.server, ?_⟩
  · intro c ⟨hr, hside, ht⟩ _ hlen
    exact ⟨hr.parsed hlen, hside, ht⟩
  · -- a START that is handled finds the SSP out of a session, as there is one START at most
    intro c ⟨hr, hside, ht⟩ hstate hlen
    have hflags : FlagInv l.csp := h.up.sender.flagInv
    refine ⟨handleInputCell_avoids (start_state hr hflags hside ht hstate hlen), fun c₁ h₁ => ?_⟩
    refine ⟨hr.cell hstate hlen h₁, ?_, ?_⟩
    · exact (congrArg (·.1.1) (handleInputCell_calm h₁ hr.settled).1.config_eq).trans hside
    · have hsil := readCell_ssp hr hflags h.client hside hstate hlen h₁
      refine Closed.star (P := fun s => s.startTokens ≤ 1) ?_ _ _ ht hsil
      exact fun s t hs hst => hst.startTokens_le.trans hs
  · rw [view_readIn_ssp]
    exact htokens

/-- **START finds no session**: where sessions are armed only after the SSP is through with the
earlier ones, no read of the SSP fails the check at the head of `start_defense_session`, and
the SSP is in the state `NONE` whenever START is the next thing that it has to handle. -/
theorem start_finds_none {es : List LinkEvent} (h₀ : Established l₀)
    (h : Run (Guarded ArmsAfterSession Step) l₀ es l) :
    (∀ now k, l.step (.toSsp now k) ≠ .error .startNotNone) ∧
      ∀ k ks, l.cellsToSsp = k :: ks → k.has .start = true →
        l.ssp.defenseInfo.state = .none := by
  have hview : (Link.view l₀).startTokens = 0 := by
    rw [h₀.view_eq]
    rfl
  obtain ⟨hinv, htokens⟩ := h.invariant (P := fun x => LinkInv x ∧ x.view.startTokens ≤ 1)
    (fun x e y ⟨hx, ht⟩ ⟨hg, hstep⟩ => ⟨hx.step hstep,
      (hx.refines hstep).preserves (g := ArmsApart)
        (fun s t hs hst => hst.startTokens_le.trans hs)
        (fun s u t hs hu hst => hst.startTokens_le hu hs) (hx.arms_apart hg hstep) ht⟩)
    ⟨h₀.linkInv, by omega⟩
  refine ⟨fun now k => hinv.toSsp_avoids htokens, fun k ks hks hstart => ?_⟩
  have hask : .start ∈ l.view.asks := mem_asks_start.mpr ⟨k, by simp [hks], hstart⟩
  have hcount := List.count_pos_iff.mpr hask
  refine hinv.ssp_idle.mp ?_
  by_contra hne
  rw [startTokens, if_neg hne] at htokens
  omega

/-- A session is armed, its first cell queued, and then the session is stopped.  The cell goes
out all the same and starts a session at the SSP, and the next load arms another session. -/
theorem start_finds_none_rearmed : ∃ es l, Run Step fresh es l ∧
    l.step (.toSsp 0 750) = .error .startNotNone := by
  obtain ⟨l, hrun, hl⟩ := exists_of_returns
    (x := exec step fresh
      [.csp .setAutoStartDefenseSessionOnNextSend, .csp (.pumpSpdySend [List.replicate 700 66]),
        .csp (.stopDefenseSession false), .csp (.socketWritable 0 (.accepts 750)), .toSsp 0 750,
        .csp .setAutoStartDefenseSessionOnNextSend, .csp (.pumpSpdySend [List.replicate 700 67]),
        .csp (.socketWritable 0 (.accepts 750))])
    (p := fun l => match l.step (.toSsp 0 750) with
      | .ok _ => false
      | .error e => decide (e = .startNotNone))
    (by decide +kernel)
  refine ⟨_, l, run_of_exec hrun, ?_⟩
  split at hl
  · cases hl
  · next e he =>
    obtain rfl : e = .startNotNone := of_decide_eq_true hl
    exact he

/-- Two sessions, of which the second is armed when the SSP has finished the first. -/
theorem start_finds_none_twice : ∃ es l k ks, Run (Guarded ArmsAfterSession Step) fresh es l ∧
    l.cellsToSsp = k :: ks ∧ k.has .start = true ∧ l.ssp.journal.count .defenseBegun = 1 ∧
    l.ssp.defenseInfo.state = .none := by
  obtain ⟨l, hrun, hl⟩ := exists_of_returns
    (x := exec (guardedStep ArmsAfterSession .notEnabled step) fresh
      (begins ++ stops ++
        [.csp .setAutoStartDefenseSessionOnNextSend, .csp (.pumpSpdySend [List.replicate 700 67])]))
    (p := fun l => decide (l.cellsToSsp.length = 1 ∧ l.ssp.journal.count .defenseBegun = 1 ∧
      ∀ k ∈ l.cellsToSsp, k.has .start = true))
    (by decide +kernel)
  obtain ⟨hlen, hbegun, hstart⟩ := of_decide_eq_true hl
  obtain ⟨k, hk⟩ := List.length_eq_one_iff.mp hlen
  have hguarded := run_of_exec_guarded hrun
  have hhas : k.has .start = true := hstart k (by simp [hk])
  exact ⟨_, l, k, [], hguarded, hk, hhas, hbegun,
    (start_finds_none fresh_established hguarded).2 k [] hk hhas⟩

/-! ### The end of a session is recognised -/

/-- Both ends are in the state `NONE`, no flag waits at either, and no cell with a control flag
is on the way. -/
structure Quiescent (l : Link) : Prop where
  csp : l.csp.defenseInfo.state = .none
  ssp : l.ssp.defenseInfo.state = .none
  cspFlags : ∀ f ∈ controlFlags, l.csp.defenseInfo.needs f = false
  sspFlags : ∀ f ∈ controlFlags, l.ssp.defenseInfo.needs f = false
  toSsp : ∀ k ∈ l.cellsToSsp, k.important = false
  toCsp : ∀ k ∈ l.cellsToCsp, k.important = false

/-- The CSP knows that the SSP is done, or will learn it: a session that has not ended is
running at the SSP, or on the way to it, or its DONE is on the way back. -/
def WillHear (l : Link) : Prop :=
  l.csp.defenseInfo.doneDefendingRecv = true ∨ (∃ k ∈ l.cellsToSsp, k.has .start = true) ∨
    ∃ k ∈ l.cellsToCsp, k.has .done = true

/-- No end stops while the other cannot hear it: the CSP is asked to stop a running session only
if the SSP runs one or will, and the SSP reaches its time limit only if the CSP runs a session
that it has not been asked to stop, so that it answers AUTO_STOPPED with another START. -/
def StopsHeard (l : Link) : LinkEvent → Prop
  | .csp (.stopDefenseSession _) => l.csp.defenseInfo.state = .active →
    l.ssp.defenseInfo.state = .active ∨ l.WillHear
  | .ssp (.bufloTimerFired now _ _) =>
    l.ssp.isDoneDefendingSend = false ∧ l.ssp.defenseInfo.autoStopTimePoint ≤ now →
      (l.csp.defenseInfo.state = .active ∧ l.csp.defenseInfo.stopRequested = false) ∨ l.WillHear
  | _ => True

instance (l : Link) : Decidable l.WillHear := by
  unfold WillHear
  infer_instance

instance (l : Link) (e : LinkEvent) : Decidable (l.StopsHeard e) := by
  unfold StopsHeard
  split <;> infer_instance

/-- A DONE in a cell is a DONE in the view. -/
theorem doneComes_of_cell (h : LinkInv l) {k : Cell} (hk : k ∈ l.cellsToCsp)
    (hdone : k.has .done = true) : l.view.DoneComes := by
  have hfit : k.FlagsFit l.ssp.isClientSide :=
    h.down.sender.flagInv.fit_kept (List.mem_of_mem_drop hk)
  rw [cellsToCsp, ← tally_cells, ← tally_handled, ← List.map_drop] at hk
  obtain ⟨x, hx, rfl⟩ := List.mem_map.mp hk
  have hnoauto : ¬ x.1.has .autoStopped = true := fun hauto => hfit.2.1 ⟨hauto, hdone⟩
  refine ⟨x.2, List.mem_append_left _ (List.mem_flatMap.mpr ⟨x, hx, ?_⟩)⟩
  rw [answersOf, if_neg hnoauto, if_pos hdone]
  exact List.mem_singleton_self _

theorem WillHear.view (h : LinkInv l) (hw : l.WillHear) :
    l.view.doneRecv = true ∨ .start ∈ l.view.asks ∨ l.view.DoneComes := by
  rcases hw with hrecv | hstart | ⟨k, hk, hdone⟩
  · exact .inl hrecv
  · exact .inr (.inl (mem_asks_start.mpr hstart))
  · exact .inr (.inr (doneComes_of_cell h hk hdone))

theorem LinkInv.ends_heard {e : LinkEvent} (h : LinkInv l) (hg : l.StopsHeard e) :
    ∀ u, l.trigger e = some u → EndsHeard l.view u := by
  intro u hu
  unfold trigger at hu
  split at hu
  · cases hu
    trivial
  · split at hu
    · next hact =>
      cases hu
      have hor := hg hact
      -- the other side is in a session, or it will have heard of the end in time
      rcases hor with hssp | hw
      · refine .inr (.inl fun hidle => ?_)
        exact absurd (hssp.symm.trans (h.ssp_idle.mp hidle)) (by decide)
      · rcases hw.view h with hv | hv | hv
        · exact .inl hv
        · exact .inr (.inr (.inl hv))
        · exact .inr (.inr (.inr hv))
    · cases hu
  · split at hu
    · next hlimit =>
      cases hu
      have hor := hg hlimit
      -- as above, with the sides changed
      rcases hor with ⟨hact, hreq⟩ | hw
      · refine .inr (.inl ?_)
        show l.csp.cspPhase = .active
        rw [cspPhase, hact, hreq]
        rfl
      · rcases hw.view h with hv | hv | hv
        · exact .inl hv
        · exact .inr (.inr (.inl hv))
        · exact .inr (.inr (.inr hv))
    · cases hu
  · cases hu

/-- **The end of every session is recognised**: where no end stops unheard, the CSP does not
take a link that has come to rest for one that defends. -/
theorem session_end_recognised {es : List LinkEvent} (h₀ : Established l₀)
    (h : Run (Guarded StopsHeard Step) l₀ es l) (hq : l.Quiescent) :
    l.csp.isDefenseInProgress = false := by
  have hview : (Link.view l₀).WillEnd := by
    rw [h₀.view_eq]
    exact .inl rfl
  obtain ⟨hinv, hwill⟩ := h.invariant (P := fun x => LinkInv x ∧ x.view.WillEnd)
    (fun x e y ⟨hx, hw⟩ ⟨hg, hstep⟩ => ⟨hx.step hstep,
      (hx.refines hstep).preserves (g := EndsHeard) WillEnd.silent
        (fun s u t hs hu hst => WillEnd.fires hu hst hs) (hx.ends_heard hg) hw⟩)
    ⟨h₀.linkInv, hview⟩
  have hflag : ∀ k ∈ l.cellsToCsp, ∀ f ∈ controlFlags, k.has f = false := by
    intro k hk
    simpa [Cell.important] using hq.toCsp k hk
  have hrecv : l.csp.defenseInfo.doneDefendingRecv = true := by
    rcases hwill with hrecv | ⟨k, hk⟩ | hssp | hstart | ⟨hact, -⟩
    · exact hrecv
    · obtain ⟨x, hx, hans⟩ := mem_answers hinv.sspSettled hk
      have hno := hflag x.1 (mem_cellsToCsp hx)
      simp [answersOf, hno .autoStopped (by decide), hno .done (by decide)] at hans
    · exact absurd (hinv.ssp_idle.mpr hq.ssp) hssp
    · obtain ⟨k, hk, hhas⟩ := mem_asks_start.mp hstart
      have hno : ∀ f ∈ controlFlags, k.has f = false := by
        simpa [Cell.important] using hq.toSsp k hk
      exact absurd (hhas.symm.trans (hno .start (by decide))) (by decide)
    · have hphase : l.csp.cspPhase = .active := hact
      rw [cspPhase, hq.csp] at hphase
      cases hphase
  simp [isDefenseInProgress, hq.csp, hrecv]

instance (l : Link) : Decidable l.Quiescent :=
  decidable_of_iff ((l.csp.defenseInfo.state = .none ∧ l.ssp.defenseInfo.state = .none) ∧
      ((∀ f ∈ controlFlags, l.csp.defenseInfo.needs f = false) ∧
        ∀ f ∈ controlFlags, l.ssp.defenseInfo.needs f = false) ∧
      (∀ k ∈ l.cellsToSsp, k.important = false) ∧ ∀ k ∈ l.cellsToCsp, k.important = false)
    ⟨fun ⟨⟨h₁, h₂⟩, ⟨h₃, h₄⟩, h₅, h₆⟩ => ⟨h₁, h₂, h₃, h₄, h₅, h₆⟩,
      fun ⟨h₁, h₂, h₃, h₄, h₅, h₆⟩ => ⟨⟨h₁, h₂⟩, ⟨h₃, h₄⟩, h₅, h₆⟩⟩

/-- The time limit is one second.  The CSP's session is stopped and ends on its last tick, and its
STOP is still on the way when the SSP, which began later, reaches its time limit.  AUTO_STOPPED
and STOP cross, and each finds no session. -/
theorem session_end_recognised_crossing : ∃ es l, Run Step brief es l ∧ l.Quiescent ∧
    l.csp.isDefenseInProgress = true := by
  obtain ⟨l, hrun, hl⟩ := exists_of_returns
    (x := exec step brief
      (begins ++
        [.csp (.stopDefenseSession false), .csp (.bufloTimerFired 1000000 [] (.fails .eagain)),
          .csp (.socketWritable 1000000 (.accepts 750)),
          .ssp (.bufloTimerFired 1010000 [] (.fails .eagain)),
          .ssp (.socketWritable 1010000 (.accepts 750)), .toSsp 1020000 750, .toCsp 1020000 750]))
    (p := fun l => decide (l.Quiescent ∧ l.csp.isDefenseInProgress = true))
    (by decide +kernel)
  exact ⟨_, l, run_of_exec hrun, of_decide_eq_true hl⟩

/-- A session with a STOP that arrives in time. -/
theorem session_end_recognised_stopped : ∃ es l, Run (Guarded StopsHeard Step) fresh es l ∧
    l.csp.journal.count .defenseEnded = 1 ∧ l.csp.isDefenseInProgress = false := by
  obtain ⟨l, hrun, hl⟩ := exists_of_returns
    (x := exec (guardedStep StopsHeard .notEnabled step) fresh
      (begins ++ stops ++ [.ssp (.socketWritable 1040000 (.accepts 750)), .toCsp 1050000 750]))
    (p := fun l => decide (l.Quiescent ∧ l.csp.journal.count .defenseEnded = 1))
    (by decide +kernel)
  obtain ⟨hq, hended⟩ := of_decide_eq_true hl
  have hguarded := run_of_exec_guarded hrun
  exact ⟨_, l, hguarded, hended, session_end_recognised fresh_established hguarded hq⟩

end Link

end ShadowBrowser
