/-
Conservation of control flags.

A control flag (START, STOP, AUTO_STOPPED, DONE) is raised when the defense state
changes and rides on the next cell that is appended to the out buffer.  The law of
the journal is `Lawful`: a flag is raised only while it is not waiting, the cell that
is appended carries exactly the waiting flags, and a waiting flag is given up only if
it is START and `stop_defense_session` was just called.

* `Lawful.snoc` — one more act; `Lawful.carried_next` — what follows a raise;
* **`FlagInv.micro`** — every small step keeps the law;
* **`control_flags_conserved`** — the law for every reachable state.
-/
import Mathlib.Data.List.Induction
import ShadowBrowser.DefenseInv

namespace ShadowBrowser

open Checked Runs

/-! ### The law of a journal -/

/-- One act's effect on whether the flag is waiting. -/
def waitFlag (f : Flag) (w : Bool) : Act → Bool
  | .flagRaised g => w || decide (g = f)
  | .flagCancelled g => w && decide (g ≠ f)
  | .cellAdded _ => false
  | _ => w

/-- The flag is waiting after these acts. -/
def waiting (f : Flag) (as : List Act) : Bool := as.foldl (waitFlag f) false

@[simp] theorem waiting_snoc (f : Flag) (as : List Act) (a : Act) :
    waiting f (as ++ [a]) = waitFlag f (waiting f as) a := by
  simp [waiting]

/-- The law for one act after the acts `pre`. -/
def ActLaw (f : Flag) (pre : List Act) : Act → Prop
  | .flagRaised g => g = f → waiting f pre = false
  | .flagCancelled g => g = f →
    waiting f pre = true ∧ f = .start ∧ pre.getLast? = some .stopCalled
  | .cellAdded k => k.has f = waiting f pre
  | _ => True

/-- The law for all acts of a journal. -/
def Lawful (f : Flag) (as : List Act) : Prop :=
  ∀ pre a post, as = pre ++ a :: post → ActLaw f pre a

variable {f : Flag} {as : List Act}

theorem Lawful.nil : Lawful f [] := by
  intro pre a post h
  exact absurd h (by simp)

theorem Lawful.snoc {a : Act} (h : Lawful f as) (ha : ActLaw f as a) : Lawful f (as ++ [a]) := by
  intro pre b post e
  rcases List.eq_nil_or_concat post with rfl | ⟨post, x, rfl⟩
  · obtain ⟨rfl, hab⟩ := List.append_inj' e rfl
    obtain rfl : a = b := by simpa using hab
    exact ha
  · rw [List.concat_eq_append, ← List.cons_append, ← List.append_assoc] at e
    obtain ⟨rfl, -⟩ := List.append_inj' e rfl
    exact h pre b post rfl

/-- What follows while a flag is waiting: a cell that carries it, or a call of
`stop_defense_session` that gives it up, or nothing yet.  The induction runs over the acts
that follow. -/
theorem Lawful.carried_next : ∀ {post pre : List Act}, Lawful f (pre ++ post) →
    waiting f pre = true →
    (∃ mid k rest, post = mid ++ .cellAdded k :: rest ∧ k.has f = true ∧
        addedCells mid = []) ∨
      (f = .start ∧ ∃ mid rest, post = mid ++ .flagCancelled .start :: rest ∧
        addedCells mid = [] ∧ (pre ++ mid).getLast? = some .stopCalled) ∨
      (waiting f (pre ++ post) = true ∧ addedCells post = []) := by
  intro post
  induction post with
  | nil =>
    intro pre _ hw
    exact .inr (.inr ⟨by simpa using hw, rfl⟩)
  | cons a post ih =>
    intro pre h hw
    have ha : ActLaw f pre a := h pre a post rfl
    -- the flag leaves with this cell, is cancelled here, or goes on waiting
    by_cases hcell : ∃ k, a = .cellAdded k
    · obtain ⟨k, rfl⟩ := hcell
      exact .inl ⟨[], k, post, rfl, ha.trans hw, rfl⟩
    by_cases hcancel : a = .flagCancelled f
    · subst hcancel
      obtain ⟨-, rfl, hlast⟩ := ha rfl
      exact .inr (.inl ⟨rfl, [], post, rfl, rfl, by simpa using hlast⟩)
    · have hw' : waiting f (pre ++ [a]) = true := by
        rw [waiting_snoc, hw]
        cases a with
        | flagRaised g => rfl
        | flagCancelled g =>
          have hg : g ≠ f := fun hg => hcancel (by rw [hg])
          simp [waitFlag, hg]
        | cellAdded k => exact absurd ⟨k, rfl⟩ hcell
        | _ => rfl
      have hadd : addedCells [a] = [] := by
        cases a with
        | cellAdded k => exact absurd ⟨k, rfl⟩ hcell
        | _ => rfl
      have happ : pre ++ a :: post = (pre ++ [a]) ++ post := by simp
      rw [happ] at h ⊢
      rcases ih h hw' with ⟨mid, k, rest, rfl, hk, hmid⟩ | ⟨hf, mid, rest, rfl, hmid, hlast⟩ |
        ⟨hend, hpost⟩
      · refine .inl ⟨a :: mid, k, rest, rfl, hk, ?_⟩
        rw [← List.singleton_append, addedCells_append, hadd, hmid, List.append_nil]
      · refine .inr (.inl ⟨hf, a :: mid, rest, rfl, ?_, by simpa using hlast⟩)
        rw [← List.singleton_append, addedCells_append, hadd, hmid, List.append_nil]
      · refine .inr (.inr ⟨hend, ?_⟩)
        rw [← List.singleton_append, addedCells_append, hadd, hpost, List.append_nil]

/-- Every raise is answered by one cell or one cancellation, or is still waiting. -/
theorem Lawful.count (h : Lawful f as) :
    as.count (.flagRaised f) =
      (addedCells as).countP (·.has f) + as.count (.flagCancelled f)
        + (waiting f as).toNat := by
  induction as using List.reverseRecOn with
  | nil => rfl
  | append_singleton as a ih =>
    have hpre : Lawful f as := by
      intro pre b post e
      refine h pre b (post ++ [a]) ?_
      rw [e, List.append_assoc, List.cons_append]
    have ha : ActLaw f as a := h as a [] rfl
    have := ih hpre
    rw [List.count_append, List.count_append, addedCells_append, List.countP_append,
      waiting_snoc]
    -- a raise waits, and the cell or the cancellation that follows ends the wait
    cases a with
    | flagRaised g =>
      by_cases hg : g = f
      · subst hg
        have hw : waiting g as = false := ha rfl
        simp [waitFlag, addedCells, hw] at this ⊢
        omega
      · simp [waitFlag, addedCells, hg, this]
    | flagCancelled g =>
      by_cases hg : g = f
      · subst hg
        have hw : waiting g as = true := (ha rfl).1
        simp [waitFlag, addedCells, hw] at this ⊢
        omega
      · simp [waitFlag, addedCells, hg, this]
    | cellAdded k =>
      have hk : k.has f = waiting f as := ha
      have hone : addedCells [.cellAdded k] = [k] := rfl
      rw [hone, List.countP_singleton, hk]
      cases hw : waiting f as
      · simp [waitFlag, hw, this]
      · simp [waitFlag, hw, this]
        omega
    | _ => simpa [waitFlag, addedCells] using this

/-! ### The flags of a channel and its journal -/

/-- The journal obeys the law, and the flags that wait in it are the ones in `needs`. -/
structure FlagLaw (as : List Act) (needs : Flag → Bool) : Prop where
  waits : ∀ f ∈ controlFlags, waiting f as = needs f
  lawful : ∀ f ∈ controlFlags, Lawful f as

namespace FlagLaw

variable {needs needs' : Flag → Bool}

theorem congr (h : FlagLaw as needs) (e : ∀ f ∈ controlFlags, needs' f = needs f) :
    FlagLaw as needs' :=
  ⟨fun f hf => (h.waits f hf).trans (e f hf).symm, h.lawful⟩

/-- An act that is not about flags. -/
theorem quiet (h : FlagLaw as needs) {a : Act} (hw : ∀ f w, waitFlag f w a = w)
    (ha : ∀ f, ActLaw f as a) : FlagLaw (as ++ [a]) needs :=
  ⟨fun f hf => by rw [waiting_snoc, hw, h.waits f hf], fun f hf => (h.lawful f hf).snoc (ha f)⟩

/-- A flag is raised that was not waiting. -/
theorem raised (h : FlagLaw as needs) {g : Flag} (hg : needs g = false) :
    FlagLaw (as ++ [.flagRaised g]) fun f => needs f || decide (g = f) := by
  refine ⟨fun f hf => ?_, fun f hf => (h.lawful f hf).snoc fun hgf => ?_⟩
  · rw [waiting_snoc, h.waits f hf, waitFlag]
  · subst hgf
    rw [h.waits g hf, hg]

/-- START is given up by a call of `stop_defense_session`. -/
theorem cancelled (h : FlagLaw as needs) (hs : needs .start = true)
    (hlast : as.getLast? = some .stopCalled) :
    FlagLaw (as ++ [.flagCancelled .start]) fun f => needs f && decide (Flag.start ≠ f) := by
  refine ⟨fun f hf => ?_, fun f hf => (h.lawful f hf).snoc fun hgf => ?_⟩
  · rw [waiting_snoc, h.waits f hf, waitFlag]
  · subst hgf
    exact ⟨by rw [h.waits _ hf, hs], rfl, hlast⟩

/-- A cell is appended that carries the waiting flags. -/
theorem added (h : FlagLaw as needs) {k : Cell} (hk : ∀ f ∈ controlFlags, k.has f = needs f) :
    FlagLaw (as ++ [.cellAdded k]) fun _ => false := by
  refine ⟨fun f hf => ?_, fun f hf => (h.lawful f hf).snoc ?_⟩
  · rw [waiting_snoc, waitFlag]
  · rw [ActLaw, hk f hf, h.waits f hf]

end FlagLaw

/-- A cell that carries a control flag. -/
def Cell.important (k : Cell) : Bool := controlFlags.any k.has

theorem Cell.IsPlainDummy.not_important {k : Cell} (h : k.IsPlainDummy) :
    k.important = false := by
  rw [Cell.important, List.any_eq_false]
  intro f hf
  simp [h.2.2 f hf]

/-- The flags of a cell fit together and fit the side that sends it. -/
def Cell.FlagsFit (client : Bool) (k : Cell) : Prop :=
  ¬ (k.has .start = true ∧ k.has .stop = true) ∧
    ¬ (k.has .autoStopped = true ∧ k.has .done = true) ∧
    (k.has .start = true ∨ k.has .stop = true → client = true) ∧
    (k.has .autoStopped = true ∨ k.has .done = true → client = false)

namespace Chan

variable {c c' : Chan}

/-- The waiting flags of a channel, its journal and its cells agree; only plain dummy cells
are ever dropped. -/
structure FlagInv (c : Chan) : Prop where
  law : FlagLaw c.journal c.defenseInfo.needs
  kept : ∀ p : Cell → Bool, (∀ k : Cell, k.IsPlainDummy → p k = false) →
    (addedCells c.journal).filter p = (keptCells c.journal).filter p
  fit : ∀ k ∈ addedCells c.journal, k.FlagsFit c.isClientSide

/-- Only START can be lost when `defense_info_` is replaced. -/
theorem putDefenseInfo_journal {d : DefenseInfo}
    (h : ∀ f ∈ controlFlags, f ≠ .start → c.defenseInfo.needs f = true → d.needs f = true) :
    (c.putDefenseInfo d).journal = c.journal ++
      if c.defenseInfo.needs .start && !d.needs .start then [.flagCancelled .start] else [] := by
  have hlost : ∀ f ∈ controlFlags, f ≠ .start →
      (c.defenseInfo.needs f && !d.needs f) = false := by
    intro f hf hne
    cases hn : c.defenseInfo.needs f
    · rfl
    · simp [h f hf hne hn]
  have hs := hlost .stop (by decide) (by decide)
  have ha := hlost .autoStopped (by decide) (by decide)
  have hd := hlost .done (by decide) (by decide)
  rw [putDefenseInfo]
  cases hst : c.defenseInfo.needs .start && !d.needs .start <;>
    simp [controlFlags, hs, ha, hd, hst]

namespace FlagInv

theorem of_sendPart (h : FlagInv c) (e : c'.sendPart = c.sendPart)
    (hcl : c'.isClientSide = c.isClientSide) (hlaw : FlagLaw c'.journal c'.defenseInfo.needs) :
    FlagInv c' := by
  have hj := congrArg (·.2.2) e
  simp only [sendPart, outJournal, Prod.mk.injEq] at hj
  obtain ⟨-, -, -, ha, hk⟩ := hj
  refine ⟨hlaw, ?_, ?_⟩
  · rw [ha, hk]
    exact h.kept
  · rw [ha, hcl]
    exact h.fit

/-- An act of the sending side that is not about cells. -/
theorem quiet (h : FlagInv c) {a : Act} (hj : c'.journal = c.journal ++ [a])
    (hcl : c'.isClientSide = c.isClientSide)
    (hneeds : c'.defenseInfo.needs = c.defenseInfo.needs)
    (hw : ∀ f w, waitFlag f w a = w) (ha : ∀ f, ActLaw f c.journal a)
    (hadd : addedCells [a] = []) (hk : ∀ ks, keepCell ks a = ks) : FlagInv c' := by
  constructor
  · rw [hj, hneeds]
    exact h.law.quiet hw ha
  · rw [hj, addedCells_append, hadd, List.append_nil, keptCells_snoc, hk]
    exact h.kept
  · rw [hj, addedCells_append, hadd, List.append_nil, hcl]
    exact h.fit

/-- A cell is appended that carries the waiting flags. -/
theorem added (h : FlagInv c) (hdef : DefenseInv c) {k : Cell}
    (hj : c'.journal = c.journal ++ [.cellAdded k]) (hcl : c'.isClientSide = c.isClientSide)
    (hneeds : ∀ f ∈ controlFlags, c'.defenseInfo.needs f = false)
    (hk : ∀ f, f ≠ .defensive → k.has f = c.defenseInfo.needs f) : FlagInv c' := by
  have hone : addedCells [.cellAdded k] = [k] := rfl
  have hflags : ∀ f ∈ controlFlags, k.has f = c.defenseInfo.needs f := by
    intro f hf
    refine hk f ?_
    rintro rfl
    exact absurd hf (by decide)
  constructor
  · rw [hj]
    exact (h.law.added hflags).congr hneeds
  · intro p hp
    rw [hj, addedCells_append, hone, keptCells_snoc, keepCell, List.filter_append,
      List.filter_append, h.kept p hp]
  · intro x hx
    rw [hj, addedCells_append, hone] at hx
    rw [hcl]
    rcases List.mem_append.mp hx with hx | hx
    · exact h.fit x hx
    · rw [List.mem_singleton.mp hx, Cell.FlagsFit, hk _ (by decide), hk _ (by decide),
        hk _ (by decide), hk _ (by decide)]
      refine ⟨?_, ?_, ?_, ?_⟩
      · rintro ⟨hs, hp⟩
        -- START waits before the stop request, STOP after it
        obtain ⟨-, hs⟩ := hdef.needStart hs
        obtain ⟨-, hp⟩ := hdef.needStop hp
        rcases hs with hs | ⟨hs, hr⟩ <;> rcases hp with hp | ⟨hp, hr'⟩ <;> simp_all
      · rintro ⟨ha, hd⟩
        exact absurd hd (by simp [DefenseInfo.needs, (hdef.needAutoStopped ha).2.2])
      · rintro (hs | hp)
        · exact (hdef.needStart hs).1
        · exact (hdef.needStop hp).1
      · rintro (ha | hd)
        · exact (hdef.needAutoStopped ha).1
        · exact (hdef.needDone hd).1

/-- **Every step of the sending side keeps the law.** -/
theorem out (h : FlagInv c) (hdef : DefenseInv c) (hbuf : OutBufferInv c) (hout : Out c c') :
    FlagInv c' := by
  cases hout with
  | spdySent bs =>
    exact h.quiet rfl rfl rfl (fun _ _ => rfl) (fun _ => trivial) rfl fun _ => rfl
  | dropped n hd =>
    -- the dropped cell is a plain dummy, which has no flag
    obtain ⟨-, ks, k, hks, hplain⟩ := hbuf.dummy hd.marked
    have hadd : addedCells (c.dropped n).journal = addedCells c.journal := by
      simp [Chan.dropped, addedCells]
    have hk : keptCells (c.dropped n).journal = ks := by simp [Chan.dropped, keepCell, hks]
    constructor
    · exact h.law.quiet (fun _ _ => rfl) fun _ => trivial
    · intro p hp
      have hkept := h.kept p hp
      rw [hks, List.filter_append, List.filter_singleton, hp k hplain] at hkept
      rw [hadd, hk]
      simpa using hkept
    · rw [hadd]
      exact h.fit
  | addedData hadd =>
    refine h.added hdef (k := c.dataCell) rfl rfl (fun f _ => ?_) dataCell_has
    cases f <;> rfl
  | addedDummy hd hf hp =>
    refine h.added hdef (k := c.dummyCell) rfl rfl (fun f _ => ?_) dummyCell_has
    cases f <;> rfl
  | took offered n =>
    exact h.quiet rfl rfl rfl (fun _ _ => rfl) (fun _ => trivial) rfl fun _ => rfl
  | refused offered rv =>
    exact h.quiet rfl rfl rfl (fun _ _ => rfl) (fun _ => trivial) rfl fun _ => rfl
  | attempted =>
    refine ⟨h.law.congr fun f _ => ?_, h.kept, h.fit⟩
    cases f <;> rfl
  | toggled => exact ⟨h.law, h.kept, h.fit⟩
  | avoided => exact ⟨h.law, h.kept, h.fit⟩
  | closed =>
    exact h.quiet rfl rfl rfl (fun _ _ => rfl) (fun _ => trivial) rfl fun _ => rfl

/-! #### Changes of the defense state -/

/-- `defense_info_` is replaced and no flag is lost. -/
theorem putDefenseInfo_law {d : DefenseInfo}
    (h : FlagLaw c.journal c.defenseInfo.needs)
    (e : ∀ f ∈ controlFlags, d.needs f = c.defenseInfo.needs f) :
    FlagLaw (c.putDefenseInfo d).journal d.needs := by
  have hjournal : (c.putDefenseInfo d).journal = c.journal := by
    rw [putDefenseInfo_journal fun f hf _ hn => (e f hf).trans hn, e .start (by decide)]
    simp
  rw [hjournal]
  exact h.congr e

/-- `stop_defense_session` replaces `defense_info_`: only START is lost. -/
theorem stopCalled_law {d : DefenseInfo} (h : FlagLaw c.journal c.defenseInfo.needs)
    (hstart : d.needs .start = false)
    (e : ∀ f ∈ controlFlags, f ≠ .start → d.needs f = c.defenseInfo.needs f) :
    FlagLaw ((c.log .stopCalled).putDefenseInfo d).journal d.needs := by
  have hcalled : FlagLaw (c.log .stopCalled).journal c.defenseInfo.needs :=
    h.quiet (fun _ _ => rfl) fun _ => trivial
  rw [putDefenseInfo_journal (c := c.log .stopCalled) fun f hf hne hn => (e f hf hne).trans hn,
    hstart]
  have hinfo : (c.log .stopCalled).defenseInfo = c.defenseInfo := rfl
  rw [hinfo]
  cases hs : c.defenseInfo.needs .start
  · simp only [Bool.not_false, Bool.false_and, Bool.false_eq_true, if_false, List.append_nil]
    refine hcalled.congr fun f hf => ?_
    by_cases hf' : f = .start
    · rw [hf', hstart, hs]
    · exact e f hf hf'
  · simp only [Bool.not_false, Bool.true_and, if_true]
    refine (hcalled.cancelled hs (by simp [log])).congr fun f hf => ?_
    by_cases hf' : f = .start
    · simp [hf', hstart]
    · simp [e f hf hf', Ne.symm hf']

/-- A flag is raised that was not waiting. -/
theorem raiseFlag_law {g : Flag} (h : FlagLaw c.journal c.defenseInfo.needs)
    (hg : c.defenseInfo.needs g = false) :
    FlagLaw (c.raiseFlag g).journal (c.raiseFlag g).defenseInfo.needs := by
  refine (h.raised hg).congr fun f hf => ?_
  have hne : f ≠ .defensive := by
    rintro rfl
    exact absurd hf (by decide)
  rw [raiseFlag, needs_need]
  by_cases hgf : g = f
  · subst hgf
    simp [hne]
  · simp [hgf, Ne.symm hgf]

/-- A session ends without losing a flag. -/
theorem endDefense_law {b : Bool} (h : FlagLaw c.journal c.defenseInfo.needs)
    (hstart : c.defenseInfo.needStartFlagInNextCell = false)
    (hstop : c.defenseInfo.needStopFlagInNextCell = b)
    (hauto : c.defenseInfo.needAutoStoppedFlagInNextCell = false)
    (hdone : c.defenseInfo.needDoneFlagInNextCell = false) :
    FlagLaw (c.endDefense b).journal (c.endDefense b).defenseInfo.needs := by
  have hput : FlagLaw (({ c with
      defenseInfo := { c.defenseInfo with
        savedNumWriteAttempts := c.defenseInfo.numWriteAttempts }
      timerRunning := false } : Chan).putDefenseInfo { c.defenseInfo.reset with
        savedNumWriteAttempts := c.defenseInfo.numWriteAttempts
        needStopFlagInNextCell := b }).journal _ :=
    putDefenseInfo_law (h.congr fun f _ => by cases f <;> rfl) fun f _ => by
      cases f <;> simp [DefenseInfo.needs, DefenseInfo.reset, hstart, hstop, hauto, hdone]
  exact hput.quiet (fun _ _ => rfl) fun _ => trivial

/-- **Every change of the defense state keeps the law.**  START is the only flag that it can
lose, and only in `stop_defense_session`: the others do not outlive the event that raised
them. -/
theorem control (h : FlagInv c) (hdef : DefenseInv c) (hctl : Control c c') : FlagInv c' := by
  have hcl : c'.isClientSide = c.isClientSide := congrArg (·.1.1) hctl.config_eq
  refine h.of_sendPart hctl.sendPart_eq hcl ?_
  -- what a step raises it may raise, and what it forgets is a START that a stop takes back
  cases hctl with
  | begun => exact h.law.quiet (fun _ _ => rfl) fun _ => trivial
  | armed hset hmay =>
    have harmed : FlagLaw (c.journal ++ [.armed]) c.defenseInfo.needs :=
      h.law.quiet (fun _ _ => rfl) fun _ => trivial
    exact raiseFlag_law (c := { c with
      defenseInfo := { c.defenseInfo with state := .pendingNextSocketSend }
      journal := c.journal ++ [.armed] })
      (harmed.congr fun f _ => by cases f <;> rfl) hmay.needStart
  | gaveUp hset hstate =>
    have hstop : c.defenseInfo.needStopFlagInNextCell = false := by
      by_contra hn
      exact hstate (hset.stop (by simpa using hn))
    refine stopCalled_law h.law rfl fun f _ hne => ?_
    cases f <;> simp_all [DefenseInfo.needs, DefenseInfo.reset, hset.autoStopped, hset.done]
  | stopping hact hr =>
    have hstop : c.defenseInfo.needStopFlagInNextCell = false := by
      by_contra hn
      obtain ⟨-, hs | ⟨-, hs⟩⟩ := hdef.needStop (by simpa using hn)
      · exact absurd hs (by simp [hact])
      · exact absurd hs (by simp [hr])
    have hcalled := stopCalled_law (d := { c.defenseInfo with
      stopRequested := true
      needStartFlagInNextCell := false }) h.law rfl fun f _ hne => by
        cases f <;> first | rfl | exact absurd rfl hne
    rw [Chan.stopping]
    dsimp only
    split
    · exact raiseFlag_law (c := (c.log .stopCalled).putDefenseInfo _) hcalled hstop
    · exact hcalled
  | finished hact hr =>
    have hstart : c.defenseInfo.needStartFlagInNextCell = false := by
      by_contra hn
      obtain ⟨-, hs | ⟨-, hs⟩⟩ := hdef.needStart (by simpa using hn)
      · exact absurd hs (by simp [hact])
      · exact absurd hs (by simp [hr])
    have hend := endDefense_law h.law hstart rfl (hdef.needAutoStopped_active hact)
      (hdef.needDone_active hact)
    rw [Chan.finished]
    split
    · exact hend
    · exact raiseFlag_law hend rfl
  | autoStopped hact hsrv =>
    have hstart : c.defenseInfo.needStartFlagInNextCell = false := by
      by_contra hn
      exact absurd (hdef.needStart (by simpa using hn)).1 (by simp [hsrv])
    exact raiseFlag_law (endDefense_law h.law hstart (hdef.needStop_client hsrv)
      (hdef.needAutoStopped_active hact) (hdef.needDone_active hact)) rfl
  | restarting hact hr hclient hn => exact raiseFlag_law h.law hn

/-- The receiving side does not touch the flags. -/
theorem aside (h : FlagInv c) (hm : Aside c c') : FlagInv c' := by
  have hlaw : ∀ {as bs : List Act} {needs : Flag → Bool}, FlagLaw as needs →
      (∀ b ∈ bs, b.IsAside) → FlagLaw (as ++ bs) needs := by
    intro as bs needs
    induction bs generalizing as with
    | nil => simp
    | cons b bs ih =>
      intro has hbs
      have hone : FlagLaw (as ++ [b]) needs := by
        have hb := hbs b (by simp)
        cases b <;> first
          | exact has.quiet (fun _ _ => rfl) fun _ => trivial
          | exact absurd hb id
      have := ih hone fun x hx => hbs x (by simp [hx])
      rwa [List.append_assoc, List.singleton_append] at this
  obtain ⟨as, has, hall⟩ := hm.journal
  refine h.of_sendPart hm.sendPart_eq (congrArg (·.1.1) hm.config_eq) ?_
  rw [has]
  refine (hlaw h.law hall).congr fun f _ => ?_
  rw [hm.same]
  cases f <;> rfl

/-- **Every small step keeps the law.** -/
theorem micro (h : FlagInv c) (hdef : DefenseInv c) (hbuf : OutBufferInv c)
    (hm : Micro c c') : FlagInv c' := by
  rcases hm with hm | hm | hm
  · exact h.out hdef hbuf hm
  · exact h.control hdef hm
  · exact h.aside hm

theorem micros (h : FlagInv c) (hdef : DefenseInv c) (hbuf : OutBufferInv c)
    (hm : Micros c c') : FlagInv c' :=
  (Closed.star (P := fun d => FlagInv d ∧ DefenseInv d ∧ OutBufferInv d)
    (fun _ _ ⟨hf, hd, hb⟩ hstep => ⟨hf.micro hd hb hstep, hd.micro hb hstep, hb.micro hstep⟩)
    _ _ ⟨h, hdef, hbuf⟩ hm).1

end FlagInv

theorem Established.flagInv (h : Established c) : FlagInv c := by
  have hj := h.unused
  have hlaw : FlagLaw c.journal c.defenseInfo.needs := by
    have hnil : FlagLaw [] c.defenseInfo.needs := by
      refine ⟨fun f _ => ?_, fun f _ => .nil⟩
      rw [h.defense]
      cases f <;> rfl
    rw [hj]
    exact hnil.quiet (a := .status .ready) (fun _ _ => rfl) fun _ => trivial
  refine ⟨hlaw, ?_, ?_⟩ <;> simp [hj, addedCells, keptCells, keepCell]

/-- **The law holds in every reachable state.** -/
theorem Reachable.flagInv (h : Reachable c) : FlagInv c := by
  obtain ⟨c₀, hest, hm, -⟩ := h.micros
  exact hest.flagInv.micros hest.defenseInv hest.outBufferInv hm

/-! ### Conservation -/

/-- **Control flags are conserved**: every raise is answered by the next cell, which carries
the flag and is never dropped, or, for START only, by a stop that comes before any cell. -/
theorem control_flags_conserved (h : Reachable c) {f : Flag} (hf : f ∈ controlFlags) :
    (∀ pre post, c.journal = pre ++ .flagRaised f :: post →
      (∃ mid k rest, post = mid ++ .cellAdded k :: rest ∧ k.has f = true ∧
          addedCells mid = []) ∨
        (f = .start ∧ ∃ mid rest, post = mid ++ .stopCalled :: .flagCancelled .start :: rest ∧
          addedCells mid = []) ∨
        (c.defenseInfo.needs f = true ∧ addedCells post = [])) ∧
      c.journal.count (.flagRaised f) =
        (addedCells c.journal).countP (·.has f) + c.journal.count (.flagCancelled f)
          + (c.defenseInfo.needs f).toNat ∧
      (f ≠ .start → c.journal.count (.flagCancelled f) = 0) ∧
      (addedCells c.journal).filter (·.important) =
        (keptCells c.journal).filter (·.important) ∧
      written c.journal ++ c.cellOutbuf =
        (keptCells c.journal).flatMap (Cell.encode c.cellSize) ∧
      ∀ k ∈ addedCells c.journal, k.FlagsFit c.isClientSide := by
  have hinv := h.flagInv
  have hlaw := hinv.law.lawful f hf
  have hwaits := hinv.law.waits f hf
  refine ⟨?_, ?_, ?_, hinv.kept _ fun _ => Cell.IsPlainDummy.not_important,
    h.outBufferInv.bytes, hinv.fit⟩
  · intro pre post hj
    have happ : c.journal = (pre ++ [.flagRaised f]) ++ post := by simp [hj]
    rw [happ] at hlaw hwaits
    have hw : waiting f (pre ++ [.flagRaised f]) = true := by simp [waitFlag]
    rcases hlaw.carried_next hw with hcell | ⟨hstart, mid, rest, hpost, hmid, hlast⟩ |
      ⟨hend, hpost⟩
    · exact .inl hcell
    · refine .inr (.inl ⟨hstart, ?_⟩)
      -- the act before the cancellation is the call, so it is not the raise itself
      rcases List.eq_nil_or_concat mid with rfl | ⟨mid, a, rfl⟩
      · simp at hlast
      · rw [List.concat_eq_append] at hpost hmid hlast
        have ha : a = .stopCalled := by simpa [← List.append_assoc] using hlast
        rw [addedCells_append, List.append_eq_nil_iff] at hmid
        exact ⟨mid, rest, by simp [hpost, ha], hmid.1⟩
    · exact .inr (.inr ⟨hwaits.symm.trans hend, hpost⟩)
  · rw [hlaw.count, hwaits]
  · intro hne
    rw [List.count_eq_zero]
    intro hmem
    obtain ⟨pre, post, hj⟩ := List.append_of_mem hmem
    exact hne (hlaw pre _ post hj rfl).2.1

/-- A session is armed, its first cell queued, and then it is stopped: the START flag was
carried, not cancelled. -/
theorem control_flags_conserved_start : ∃ c, Reachable c ∧
    c.journal.count (.flagRaised .start) = 1 ∧ (addedCells c.journal).countP (·.has .start) = 1 ∧
    c.journal.count (.flagCancelled .start) = 0 := by
  obtain ⟨c, hrun, hc⟩ := exists_of_returns
    (x := exec step (fresh true) [.setAutoStartDefenseSessionOnNextSend,
      .pumpSpdySend [List.replicate 700 66], .stopDefenseSession false])
    (p := fun c => decide (c.journal.count (.flagRaised .start) = 1 ∧
      (addedCells c.journal).countP (·.has .start) = 1))
    (by decide +kernel)
  obtain ⟨hraised, hcarried⟩ := of_decide_eq_true hc
  have hreach : Reachable c := exec_reachable (fresh_established true) hrun
  have hcount := (control_flags_conserved hreach (f := .start) (by decide)).2.1
  exact ⟨c, hreach, hraised, hcarried, by omega⟩

end Chan

end ShadowBrowser
