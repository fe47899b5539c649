/-
What A_DEFENSE_SESSION_DONE says.

The CSP calls `ch_status_cb_` with it when its own defense is over and DONE has come
from the SSP.  DONE carries no session number, so the CSP cannot tell whether it is
about the session at hand:

* **`session_done_trusted`** — it is, in every run in which a session is armed only
  while no DONE of an earlier one is still to come;
* `session_done_trusted_stale` — a run in which the DONE of the first session
  completes the second.
-/
import ShadowBrowser.Agreement
import ShadowBrowser.Trust

namespace ShadowBrowser

open Checked Runs Relation Session Chan

/-! ### The acts since an event -/

/-- The acts after the last one that is `a`. -/
def sinceLast (a : Act) (as : List Act) : List Act :=
  as.foldl (fun bs b => if b = a then [] else bs ++ [b]) []

@[simp] theorem sinceLast_snoc (a b : Act) (as : List Act) :
    sinceLast a (as ++ [b]) = if b = a then [] else sinceLast a as ++ [b] := by
  simp [sinceLast]

theorem tally_fired (as : List Act) :
    (tally as).fired = timesNotified .aDefenseSessionDone (sinceLast .defenseBegun as) := by
  induction as using List.reverseRecOn with
  | nil => rfl
  | append_singleton as a ih =>
    rw [tally_snoc, sinceLast_snoc]
    by_cases ha : a = .defenseBegun
    · rw [ha]
      rfl
    · rw [if_neg ha, timesNotified, List.count_append, ← timesNotified, ← ih]
      cases a with
      | defenseBegun => exact absurd rfl ha
      | status s => cases s <;> rfl
      | _ => rfl

theorem tally_asked (as : List Act) :
    (tally as).asked = (addedCells (sinceLast .armed as)).any (·.has .start) := by
  induction as using List.reverseRecOn with
  | nil => rfl
  | append_singleton as a ih =>
    rw [tally_snoc, sinceLast_snoc]
    by_cases ha : a = .armed
    · rw [ha]
      rfl
    · rw [if_neg ha, addedCells_append, List.any_append, ← ih]
      cases a with
      | armed => exact absurd rfl ha
      | cellAdded k => simp [Tally.enter, addedCells]
      | status s => cases s <;> simp [Tally.enter, addedCells]
      | _ => simp [Tally.enter, addedCells]

namespace Link

variable {l l₀ l' : Link}

/-! ### Which DONE is still to come -/

/-- An SSP that defends or not comes across a STOP while it defends, in these cells. -/
def meetsStop : Bool → List Cell → Bool
  | _, [] => false
  | defends, k :: ks =>
    if k.has .start then meetsStop true ks
    else if k.has .stop then defends || meetsStop false ks
    else meetsStop defends ks

theorem doneFor_of_meetsStop {ks : List (Cell × ℕ)} : ∀ {d : Bool} {b : ℕ},
    meetsStop d (ks.map Prod.fst) = false → doneFor d b (ks.flatMap asksOf) = [] := by
  induction ks with
  | nil =>
    intro d b _
    cases d <;> rfl
  | cons x ks ih =>
    intro d b h
    rw [List.map_cons, meetsStop] at h
    rw [List.flatMap_cons, asksOf]
    by_cases hstart : x.1.has .start = true
    · rw [if_pos hstart] at h ⊢
      rw [List.singleton_append]
      cases d <;> exact ih h
    · rw [if_neg hstart] at h ⊢
      by_cases hstop : x.1.has .stop = true
      · rw [if_pos hstop, Bool.or_eq_false_iff] at h
        rw [if_pos hstop, List.singleton_append, h.1]
        exact ih h.2
      · rw [if_neg hstop] at h ⊢
        exact ih h

/-- `set_auto_start_defense_session_on_next_send` is called only while no DONE of an earlier
session is still to come: none is on the way, the SSP has not been asked to stop, and it will
not come across a STOP while it defends. -/
def ArmsAfterDone (l : Link) (e : LinkEvent) : Prop :=
  e = .csp .setAutoStartDefenseSessionOnNextSend →
    l.ssp.defenseInfo.stopRequested = false ∧ (∀ k ∈ l.cellsToCsp, k.has .done = false) ∧
      meetsStop (decide (l.ssp.defenseInfo.state = .active)) l.cellsToSsp = false

instance (l : Link) (e : LinkEvent) : Decidable (l.ArmsAfterDone e) := by
  unfold ArmsAfterDone
  infer_instance

theorem LinkInv.arms_clear {e : LinkEvent} (h : LinkInv l) (hg : l.ArmsAfterDone e)
    (hstep : l.Step e l') : ∀ u, l.trigger e = some u → ArmsClear l.view u := by
  rintro u hu rfl
  obtain rfl := trigger_arm hu
  obtain ⟨hreq, hdone, hmeets⟩ := hg rfl
  obtain ⟨-, c, hc, -⟩ := hstep.csp_cases
  obtain ⟨hmay, -⟩ := setAutoStartDefenseSessionOnNextSend_eq_ok (Step.enabled hc).2
  have hheld : l.view.held = none := heldAsk_armable hmay h.cspSettled
  -- no answer is on its way, as none of the cells that are on theirs has one
  have hanswers : l.view.answers.flatMap Answer.sessions = [] := by
    rw [List.flatMap_eq_nil_iff]
    intro a ha
    obtain ⟨x, hx, hans⟩ := mem_answers h.sspSettled ha
    have hno := hdone x.1 (mem_cellsToCsp hx)
    rw [answersOf, hno] at hans
    split at hans
    · rw [List.mem_singleton.mp hans]
      rfl
    · simp at hans
  have hphase : l.view.ssp ≠ .stopping ∧
      decide (l.view.ssp = .active) = decide (l.ssp.defenseInfo.state = .active) := by
    show l.ssp.sspPhase ≠ .stopping ∧ decide (l.ssp.sspPhase = .active) = _
    unfold sspPhase
    rw [hreq]
    cases l.ssp.defenseInfo.state <;> decide
  have hasks : doneFor (decide (l.view.ssp = .active)) l.view.begun l.view.asks = [] := by
    rw [hphase.2]
    refine doneFor_of_meetsStop ?_
    rw [List.map_drop, tally_cells, tally_handled]
    exact hmeets
  show l.view.due = []
  rw [Session.due, hanswers, if_neg hphase.1, hheld, Option.toList_none, List.append_nil, List.append_nil,
    List.nil_append]
  exact hasks

/-! ### Being told that a session is done -/

/-- The session of the DONE that the CSP handled last: the number of sessions that the SSP had
begun when it queued the cell. -/
def lastDone (l : Link) : Option ℕ :=
  (((tally l.ssp.journal).cells.take (handledCells l.csp.journal).length).filter
    (·.1.has .done)).getLast?.map Prod.snd

/-- The session that the CSP armed last is over at both ends: neither defends, the START that
was sent for it has been answered, like every START before, and the last DONE was sent for
the session that answered it. -/
structure SessionOver (l : Link) : Prop where
  csp : l.csp.defenseInfo.state = .none
  ssp : l.ssp.defenseInfo.state = .none
  asked : ∃ k ∈ addedCells (sinceLast .armed l.csp.journal), k.has .start = true
  answered : l.ssp.journal.count .defenseBegun =
    (addedCells l.csp.journal).countP (·.has .start)
  ended : l.ssp.journal.count .defenseBegun = l.ssp.journal.count .defenseEnded
  done : l.lastDone = some (l.ssp.journal.count .defenseBegun)

/-- The sessions begun and the sessions ended. -/
def counts (as : List Act) : ℕ × ℕ := (as.count .defenseBegun, as.count .defenseEnded)

theorem counts_append {as bs : List Act} (h : ∀ b ∈ bs, b ≠ .defenseBegun ∧ b ≠ .defenseEnded) :
    counts (as ++ bs) = counts as := by
  have hbegun : bs.count .defenseBegun = 0 :=
    List.count_eq_zero.mpr fun hmem => (h _ hmem).1 rfl
  have hended : bs.count .defenseEnded = 0 :=
    List.count_eq_zero.mpr fun hmem => (h _ hmem).2 rfl
  rw [counts, List.count_append, List.count_append, hbegun, hended]
  rfl

/-- All sessions that a channel has begun have ended, but for the one that is running. -/
def EndedBut (c : Chan) : Prop :=
  (counts c.journal).1 = (counts c.journal).2 + if c.defenseInfo.state = .active then 1 else 0

theorem EndedBut.congr {c c' : Chan} (h : EndedBut c) (hcounts : counts c'.journal = counts c.journal)
    (hstate : c'.defenseInfo.state = .active ↔ c.defenseInfo.state = .active) : EndedBut c' := by
  rw [EndedBut, hcounts, if_congr hstate rfl rfl]
  exact h

theorem counts_putDefenseInfo (c : Chan) (i : DefenseInfo) :
    counts (c.putDefenseInfo i).journal = counts c.journal := by
  refine counts_append fun a ha => ?_
  obtain ⟨f, -, rfl⟩ := List.mem_map.mp ha
  exact ⟨by simp, by simp⟩

theorem counts_log {c : Chan} {a : Act} (h : a ≠ .defenseBegun ∧ a ≠ .defenseEnded) :
    counts (c.log a).journal = counts c.journal :=
  counts_append (by simpa using h)

theorem counts_endDefense (c : Chan) (b : Bool) :
    counts (c.endDefense b).journal = ((counts c.journal).1, (counts c.journal).2 + 1) := by
  rw [← counts_putDefenseInfo (c := { c with
      defenseInfo := { c.defenseInfo with savedNumWriteAttempts := c.defenseInfo.numWriteAttempts }
      timerRunning := false }) { c.defenseInfo.reset with
        savedNumWriteAttempts := c.defenseInfo.numWriteAttempts
        needStopFlagInNextCell := b }]
  show counts (_ ++ [.defenseEnded]) = _
  simp [counts]

theorem EndedBut.out {c c' : Chan} (h : EndedBut c) (hout : Out c c') : EndedBut c' := by
  have hstate : c'.defenseInfo.state = .active ↔ c.defenseInfo.state = .active := by
    rw [hout.state_eq]
  refine h.congr ?_ hstate
  cases hout with
  | attempted => rfl
  | toggled => rfl
  | avoided => rfl
  | _ => exact counts_append (by simp)

theorem EndedBut.control {c c' : Chan} (h : EndedBut c) (hctl : Control c c') : EndedBut c' := by
  cases hctl with
  -- a session that is under way is one begun and not yet ended
  | begun now hset ht hstate =>
    have hnot : c.defenseInfo.state ≠ .active := by
      rcases hstate with hs | ⟨hs, -⟩ <;> simp [hs]
    rw [EndedBut, if_neg hnot] at h
    show (counts (c.journal ++ [.defenseBegun])).1 = (counts (c.journal ++ [.defenseBegun])).2 + 1
    simp only [counts, List.count_append] at h ⊢
    rw [h]
    rfl
  | armed hset hmay =>
    refine h.congr ?_ ?_
    · exact (counts_append (by simp)).trans (counts_append (by simp))
    · simp [Chan.armed, raiseFlag, DefenseInfo.need, hmay.state]
  | gaveUp hset hstate =>
    refine h.congr ((counts_putDefenseInfo _ _).trans (counts_log (by simp))) ?_
    simp [Chan.gaveUp, putDefenseInfo, DefenseInfo.reset, hstate]
  | stopping hact hr =>
    have hcounts := counts_putDefenseInfo (c.log .stopCalled) { c.defenseInfo with
      stopRequested := true
      needStartFlagInNextCell := false }
    have hlog : counts (c.log .stopCalled).journal = counts c.journal := counts_log (by simp)
    unfold Chan.stopping
    dsimp only
    split
    · refine h.congr ?_ ?_
      · exact (counts_append (by simp)).trans (hcounts.trans hlog)
      · simp [raiseFlag, DefenseInfo.need, putDefenseInfo]
    · exact h.congr (hcounts.trans hlog) (by simp [putDefenseInfo])
  -- both ends of a session count it as ended
  | finished hact hr =>
    rw [EndedBut, if_pos hact] at h
    have hend := counts_endDefense c c.defenseInfo.needStopFlagInNextCell
    have hcounts : counts c.finished.journal = ((counts c.journal).1, (counts c.journal).2 + 1) := by
      unfold Chan.finished
      dsimp only
      split
      · exact hend
      · exact (counts_append (by simp)).trans hend
    rw [EndedBut, hcounts, finished_state, if_neg (by decide)]
    exact h
  | autoStopped hact hsrv =>
    rw [EndedBut, if_pos hact] at h
    have hcounts : counts c.autoStopped.journal =
        ((counts c.journal).1, (counts c.journal).2 + 1) :=
      (counts_append (by simp)).trans (counts_endDefense c false)
    rw [EndedBut, hcounts, autoStopped_state, if_neg (by decide)]
    exact h
  | restarting hact =>
    exact h.congr (counts_append (by simp)) (by simp [raiseFlag, DefenseInfo.need])

theorem EndedBut.aside {c c' : Chan} (h : EndedBut c) (ha : Aside c c') : EndedBut c' := by
  obtain ⟨as, has, hall⟩ := ha.journal
  refine h.congr ?_ (by rw [ha.same])
  rw [has]
  refine counts_append fun a ha => ?_
  have hside := hall a ha
  cases a <;> simp_all [Act.IsAside]

theorem endedBut {c : Chan} (h : Reachable c) : EndedBut c := by
  refine h.of_closed (P := EndedBut) (fun c hest => ?_) fun c c' hc hm => ?_
  · simp [EndedBut, counts, hest.unused, hest.defense]
  · rcases hm with hm | hm | hm
    · exact hc.out hm
    · exact hc.control hm
    · exact hc.aside hm

theorem SessionOver.of_over (h : LinkInv l) (hover : Over l.view) : l.SessionOver := by
  obtain ⟨hcsp, hssp, hbegun, hlast, hasked, -⟩ := hover
  have hssp' := h.ssp_idle.mp hssp
  have hcount : l.ssp.journal.count .defenseBegun =
      (addedCells l.csp.journal).countP (·.has .start) := by
    rw [← tally_begun, ← tally_sent]
    exact hbegun
  refine ⟨?_, hssp', ?_, hcount, ?_, ?_⟩
  · have hphase : l.csp.cspPhase = .idle := hcsp
    unfold cspPhase at hphase
    split at hphase
    · assumption
    · cases hphase
    · split at hphase <;> cases hphase
  · have htally : (tally l.csp.journal).asked = true := hasked
    rw [tally_asked, List.any_eq_true] at htally
    exact htally
  · have hended : EndedBut l.ssp := endedBut h.down.sender
    rw [EndedBut, hssp', if_neg (by decide)] at hended
    exact hended
  · rw [hcount, ← tally_sent, lastDone, ← tally_handled]
    exact hlast

/-- **A_DEFENSE_SESSION_DONE can be trusted**, where sessions are armed only while no DONE of an
earlier one is to come: the CSP is told at most once for each session, and when it is told,
the session is over at both ends. -/
theorem session_done_trusted {es : List LinkEvent} (h₀ : Established l₀)
    (h : Run (Guarded ArmsAfterDone Step) l₀ es l) :
    timesNotified .aDefenseSessionDone (sinceLast .defenseBegun l.csp.journal) ≤ 1 ∧
      ∀ e l', Guarded ArmsAfterDone Step l e l' →
        timesNotified .aDefenseSessionDone l.csp.journal <
          timesNotified .aDefenseSessionDone l'.csp.journal → l'.SessionOver := by
  have hview : Trust (Link.view l₀) := by
    rw [h₀.view_eq]
    constructor <;> simp [Session.due, doneFor]
  have hmoves : ∀ x e y, LinkInv x ∧ Trust x.view → Guarded ArmsAfterDone Step x e y →
      (LinkInv y ∧ Trust y.view) ∧ (y.view.notified = x.view.notified ∨ Over y.view) := by
    rintro x e y ⟨hx, ht⟩ ⟨hg, hstep⟩
    obtain ⟨ht', hor⟩ := (hx.refines hstep).trusted ht (hx.arms_clear hg hstep)
    exact ⟨⟨hx.step hstep, ht'⟩, hor⟩
  have hinv := h.invariant (fun x e y hx hs => (hmoves x e y hx hs).1) ⟨h₀.linkInv, hview⟩
  refine ⟨?_, fun e l' hstep hlt => ?_⟩
  · rw [← tally_fired]
    have hfired : l.view.fired ≤ 1 := by
      rcases hinv.2.fired with h | ⟨h, -⟩ <;> omega
    exact hfired
  · obtain ⟨hinv', hor⟩ := hmoves l e l' hinv hstep
    refine SessionOver.of_over hinv'.1 (hor.resolve_left fun hsame => ?_)
    have hsame' : (tally l'.csp.journal).notified = (tally l.csp.journal).notified := hsame
    rw [tally_notified, tally_notified] at hsame'
    omega

/-- The second session is armed while the DONE of the first is still at the SSP.  It is handled
after the second session has begun, so that this one counts as done although the SSP goes on
with it. -/
theorem session_done_trusted_stale : ∃ es l e l', Run Step fresh es l ∧ l.Step e l' ∧
    timesNotified .aDefenseSessionDone l.csp.journal <
      timesNotified .aDefenseSessionDone l'.csp.journal ∧
    l'.ssp.defenseInfo.state = .active ∧ l'.lastDone = some 1 ∧
    l'.ssp.journal.count .defenseBegun = 2 := by
  obtain ⟨⟨l, l'⟩, hrun, hl⟩ := exists_of_returns
    (x := do
      let l ← exec step fresh
        (begins ++ stops ++
          [.csp .setAutoStartDefenseSessionOnNextSend,
            .csp (.pumpSpdySend [List.replicate 700 67]),
            .csp (.socketWritable 1040000 (.accepts 750)),
            .ssp (.socketWritable 1040000 (.accepts 750)), .toSsp 1050000 750,
            .toCsp 1050000 750] ++ ticks 1060000 49 ++ [.csp (.stopDefenseSession false)])
      let l' ← l.step (.csp (.bufloTimerFired 2040000 [] (.fails .eagain)))
      return (l, l'))
    (p := fun r => decide (timesNotified .aDefenseSessionDone r.1.csp.journal <
        timesNotified .aDefenseSessionDone r.2.csp.journal ∧
      r.2.ssp.defenseInfo.state = .active ∧ r.2.lastDone = some 1 ∧
      r.2.ssp.journal.count .defenseBegun = 2))
    (by decide +kernel)
  obtain ⟨m, hm, hrun⟩ := bind_eq_ok.mp hrun
  obtain ⟨m', hm', hrun⟩ := bind_eq_ok.mp hrun
  cases hrun
  obtain ⟨hlt, hssp, hlast, hbegun⟩ : timesNotified .aDefenseSessionDone l.csp.journal <
      timesNotified .aDefenseSessionDone l'.csp.journal ∧
    l'.ssp.defenseInfo.state = .active ∧ l'.lastDone = some 1 ∧
    l'.ssp.journal.count .defenseBegun = 2 := of_decide_eq_true hl
  exact ⟨_, l, _, l', run_of_exec hm, hm', hlt, hssp, hlast, hbegun⟩

/-- A session that is stopped and answered; its DONE is the last thing that is read. -/
theorem session_done_trusted_first : ∃ es l e l', Run (Guarded ArmsAfterDone Step) fresh es l ∧
    Guarded ArmsAfterDone Step l e l' ∧ timesNotified .aDefenseSessionDone l'.csp.journal = 1 ∧
    l'.SessionOver := by
  obtain ⟨⟨l, l'⟩, hrun, hl⟩ := exists_of_returns
    (x := do
      let l ← exec (guardedStep ArmsAfterDone .notEnabled step) fresh
        (begins ++ stops ++ [.ssp (.socketWritable 1040000 (.accepts 750))])
      let l' ← l.step (.toCsp 1050000 750)
      return (l, l'))
    (p := fun r => decide (timesNotified .aDefenseSessionDone r.1.csp.journal = 0 ∧
      timesNotified .aDefenseSessionDone r.2.csp.journal = 1))
    (by decide +kernel)
  obtain ⟨m, hm, hrun⟩ := bind_eq_ok.mp hrun
  obtain ⟨m', hm', hrun⟩ := bind_eq_ok.mp hrun
  cases hrun
  obtain ⟨hbefore, hafter⟩ : timesNotified .aDefenseSessionDone l.csp.journal = 0 ∧
    timesNotified .aDefenseSessionDone l'.csp.journal = 1 := of_decide_eq_true hl
  have hguarded := run_of_exec_guarded hm
  have hlast : Guarded ArmsAfterDone Step l (.toCsp 1050000 750) l' := ⟨(fun he => nomatch he), hm'⟩
  exact ⟨_, l, _, l', hguarded, hlast, hafter,
    (session_done_trusted fresh_established hguarded).2 _ l' hlast (by omega)⟩

end Link

end ShadowBrowser
