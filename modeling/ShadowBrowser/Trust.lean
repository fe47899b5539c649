/-
When DONE can be trusted.

DONE carries no session number, so the CSP takes every DONE for an answer to its
latest START.  `due` lists the sessions whose DONE is still to come, computed from
what is on the way in both directions.  If no session is armed while one is due,
then at most the latest session is ever due (`Trust`):

* **`Trust.silent`**, **`Trust.fires`** — the invariant;
* **`Silents.trusted`** — so whenever the CSP is told that a session is done, both
  ends have finished the latest one (`Over`), and it is told so once.
-/
import ShadowBrowser.Session

namespace ShadowBrowser

open Runs

/-- The sessions whose DONE these asks will bring about, at an SSP that defends or not and has
begun `b` sessions; where a START comes while it defends, it must have stopped by itself
before. -/
def doneFor : Bool → ℕ → List Ask → List ℕ
  | _, _, [] => []
  | _, b, .start :: as => doneFor true (b + 1) as
  | true, b, .stop :: as => b :: doneFor false b as
  | false, b, .stop :: as => doneFor false b as

/-- A START at the end brings about no DONE. -/
theorem doneFor_start (as : List Ask) : ∀ (d : Bool) (b : ℕ),
    doneFor d b (as ++ [.start]) = doneFor d b as := by
  induction as with
  | nil =>
    intro d b
    cases d <;> rfl
  | cons a as ih =>
    intro d b
    cases a <;> cases d <;> simp [doneFor, ih]

/-- A STOP at the end brings about at most the DONE of the last session. -/
theorem doneFor_stop (as : List Ask) : ∀ (d : Bool) (b : ℕ), ∃ l,
    doneFor d b (as ++ [.stop]) = doneFor d b as ++ l ∧ l.Sublist [b + as.count .start] := by
  induction as with
  | nil =>
    intro d b
    cases d with
    | false => exact ⟨[], rfl, List.nil_sublist _⟩
    | true => exact ⟨[b], rfl, List.Sublist.refl _⟩
  | cons a as ih =>
    intro d b
    cases a with
    | start =>
      obtain ⟨l, hl, hsub⟩ := ih true (b + 1)
      refine ⟨l, by cases d <;> simpa [doneFor] using hl, ?_⟩
      rwa [List.count_cons_self, show b + (as.count .start + 1) = b + 1 + as.count .start by omega]
    | stop =>
      obtain ⟨l, hl, hsub⟩ := ih false b
      refine ⟨l, by cases d <;> simp [doneFor, hl], ?_⟩
      rwa [List.count_cons_of_ne (by decide)]

/-- An SSP that does not defend owes less. -/
theorem doneFor_idle (as : List Ask) (b : ℕ) :
    (doneFor false b as).Sublist (doneFor true b as) := by
  cases as with
  | nil => exact List.Sublist.refl _
  | cons a as =>
    cases a with
    | start => exact List.Sublist.refl _
    | stop => exact List.sublist_cons_self _ _

/-- The session that an answer says is done. -/
def Answer.sessions : Answer → List ℕ
  | .autoStopped => []
  | .done k => [k]

namespace Session

variable {s s' : Session}

/-- The sessions whose DONE is still to come. -/
def due (s : Session) : List ℕ :=
  s.answers.flatMap Answer.sessions ++ (if s.ssp = .stopping then [s.begun] else []) ++
    doneFor (decide (s.ssp = .active)) s.begun (s.asks ++ s.held.toList)

/-! ### What the moves do to the sessions that are due -/

@[simp] theorem due_emit (s : Session) : s.emit.due = s.due := by
  unfold emit
  split
  · rfl
  · next a ha => simp [due, ha]

/-- The asks on the way and the one that is held count alike. -/
theorem due_congr (hanswers : s'.answers = s.answers) (hssp : s'.ssp = s.ssp)
    (hbegun : s'.begun = s.begun)
    (hasks : ∀ d b, doneFor d b (s'.asks ++ s'.held.toList) =
      doneFor d b (s.asks ++ s.held.toList)) : s'.due = s.due := by
  rw [due, due, hanswers, hssp, hbegun, hasks]

theorem due_cancel (h : s.held ≠ some .stop) : s.cancel.due = s.due := by
  refine due_congr rfl rfl rfl fun d b => ?_
  cases hs : s.held with
  | none => rfl
  | some a =>
    cases a with
    | start =>
      show doneFor d b (s.asks ++ []) = doneFor d b (s.asks ++ [.start])
      rw [doneFor_start, List.append_nil]
    | stop => exact absurd hs h

@[simp] theorem due_commence (s : Session) : s.commence.due = s.due := rfl

@[simp] theorem due_notify (s : Session) : s.notify.due = s.due := rfl

@[simp] theorem due_finish (s : Session) : s.finish.due = s.due := by
  unfold finish
  dsimp only
  split <;> rfl

theorem due_sspFinish (h : s.ssp = .stopping) : s.sspFinish.due = s.due := by
  simp [due, sspFinish, h, Answer.sessions]

theorem due_recvStart {as : List Ask} (h : s.asks = .start :: as) (hssp : s.ssp = .idle) :
    s.recvStart.due = s.due := by
  simp [due, recvStart, h, hssp, doneFor]

theorem due_recvStop {as : List Ask} (h : s.asks = .stop :: as) (hssp : s.ssp ≠ .stopping) :
    s.recvStop.due = s.due := by
  cases hs : s.ssp with
  | idle => simp [due, recvStop, h, hs, doneFor]
  | active => simp [due, recvStop, h, hs, doneFor]
  | stopping => exact absurd hs hssp

theorem due_recvAutoStopped {as : List Answer} (h : s.answers = .autoStopped :: as)
    (hheld : s.csp = .active → s.held = none) : s.recvAutoStopped.due = s.due := by
  by_cases hact : s.csp = .active
  · simp [due, recvAutoStopped, h, hact, hheld hact, doneFor_start, Answer.sessions]
  · simp [due, recvAutoStopped, h, hact, Answer.sessions]

theorem due_recvDone {k : ℕ} {as : List Answer} (h : s.answers = .done k :: as) :
    s.due = k :: (s.recvDone k).due := by
  have hrest : (s.recvDone k).due =
      as.flatMap Answer.sessions ++ (if s.ssp = .stopping then [s.begun] else []) ++
        doneFor (decide (s.ssp = .active)) s.begun (s.asks ++ s.held.toList) := by
    unfold recvDone
    dsimp only
    split <;> simp [due, notify, h]
  rw [hrest]
  simp [due, h, Answer.sessions]

theorem due_arm (h : s.held = none) : s.arm.due = s.due := by
  refine due_congr rfl rfl rfl fun d b => ?_
  show doneFor d b (s.asks ++ [.start]) = _
  rw [doneFor_start, h, Option.toList_none, List.append_nil]

theorem due_sspAutoStop (h : s.ssp ≠ .idle) : s.sspAutoStop.due.Sublist s.due := by
  cases hs : s.ssp with
  | idle => exact absurd hs h
  | active =>
    simp only [due, sspAutoStop, hs]
    simpa [Answer.sessions] using doneFor_idle (s.asks ++ s.held.toList) s.begun
  | stopping =>
    simp only [due, sspAutoStop, hs]
    simp [Answer.sessions]

/-- Asking for the end makes at most the latest session due. -/
theorem due_requestStop (h : s.due = []) :
    s.requestStop.due.Sublist [s.begun + s.asks.count .start] := by
  obtain ⟨l, hl, hsub⟩ := doneFor_stop s.asks (decide (s.ssp = .active)) s.begun
  have hnone : s.due = s.answers.flatMap Answer.sessions ++
      (if s.ssp = .stopping then [s.begun] else []) ++
      doneFor (decide (s.ssp = .active)) s.begun (s.asks ++ s.held.toList) := rfl
  rw [h] at hnone
  simp only [List.nil_eq, List.append_eq_nil_iff] at hnone
  obtain ⟨⟨hanswers, hssp⟩, hasks⟩ := hnone
  have hasks' : doneFor (decide (s.ssp = .active)) s.begun s.asks = [] := by
    cases hh : s.held with
    | none => simpa [hh] using hasks
    | some a =>
      cases a with
      | start => simpa [hh, doneFor_start] using hasks
      | stop =>
        rw [hh] at hasks
        exact (List.append_eq_nil_iff.mp (hl.symm.trans hasks)).1
  have hdue : s.requestStop.due = l := by
    show s.answers.flatMap Answer.sessions ++ (if s.ssp = .stopping then [s.begun] else []) ++
      doneFor (decide (s.ssp = .active)) s.begun (s.asks ++ [.stop]) = l
    rw [hanswers, hssp, hl, hasks']
    rfl
  rw [hdue]
  exact hsub

/-! ### The invariant -/

/-- Only the latest session is due, and the CSP has not begun another meanwhile. -/
structure Trust (s : Session) : Prop where
  due : s.due.Sublist [s.sent]
  count : s.begun + s.asks.count .start = s.sent
  ended : ∀ k, .done k ∈ s.answers → k + (if s.ssp = .idle then 0 else 1) ≤ s.begun
  held : s.held = some .start → s.csp = .pending ∨ s.csp = .active
  clear : s.csp = .pending ∨ s.csp = .active → s.due = []
  waits : s.csp = .active → s.doneRecv = false
  asked : s.asked = true ∨
    (s.due = [] ∧ (s.csp = .idle ∨ (s.csp = .pending ∧ s.held = some .start)))
  heard : s.doneRecv = true → s.csp = .stopping →
    s.due = [] ∧ s.lastDone = some s.sent ∧ s.ssp = .idle ∧ s.begun = s.sent
  fired : s.fired = 0 ∨
    (s.fired = 1 ∧ s.due = [] ∧ (s.csp = .idle ∨ s.csp = .pending))

/-- Both ends have finished the latest session, which is the one that the last DONE was
about. -/
structure Over (s : Session) : Prop where
  csp : s.csp = .idle
  ssp : s.ssp = .idle
  begun : s.begun = s.sent
  lastDone : s.lastDone = some s.sent
  asked : s.asked = true
  due : s.due = []

/-- A DONE that comes is about the latest session, which the SSP has finished. -/
theorem Trust.done_comes {k : ℕ} {as : List Answer} (hs : Trust s)
    (h : s.answers = .done k :: as) :
    k = s.sent ∧ (s.recvDone k).due = [] ∧ s.ssp = .idle ∧ s.begun = s.sent ∧
      s.asked = true ∧ s.fired = 0 ∧ (s.csp = .idle ∨ s.csp = .stopping) := by
  have hcons := due_recvDone h
  have hne : s.due ≠ [] := by simp [hcons]
  have hsub := hs.due
  rw [hcons] at hsub
  obtain ⟨hk, hrest⟩ : k = s.sent ∧ (s.recvDone k).due = [] := by
    cases hsub with
    | cons _ hsub => exact absurd (List.sublist_nil.mp hsub) (by simp)
    | cons_cons _ hsub => exact ⟨rfl, List.sublist_nil.mp hsub⟩
  have hcount := hs.count
  have hended := hs.ended k (by simp [h])
  have hssp : s.ssp = .idle := by
    by_contra hssp
    rw [if_neg hssp] at hended
    omega
  rw [if_pos hssp] at hended
  have hasked : s.asked = true := hs.asked.resolve_right fun hnot => hne hnot.1
  have hfired : s.fired = 0 := hs.fired.resolve_right fun hnot => hne hnot.2.1
  refine ⟨hk, hrest, hssp, by omega, hasked, hfired, ?_⟩
  cases hcsp : s.csp with
  | idle => exact .inl rfl
  | stopping => exact .inr rfl
  | pending => exact absurd (hs.clear (.inl hcsp)) hne
  | active => exact absurd (hs.clear (.inr hcsp)) hne

/-! #### Moves of the SSP -/

/-- A move of the SSP makes no session due, and does not disturb an SSP that is through. -/
theorem Trust.of_ssp (hs : Trust s) (hcsp : s'.csp = s.csp) (hheld : s'.held = s.held)
    (hrecv : s'.doneRecv = s.doneRecv) (hsent : s'.sent = s.sent) (hasked : s'.asked = s.asked)
    (hlast : s'.lastDone = s.lastDone) (hfired : s'.fired = s.fired)
    (hdue : s'.due.Sublist s.due) (hcount : s'.begun + s'.asks.count .start = s.sent)
    (hended : ∀ k, .done k ∈ s'.answers → k + (if s'.ssp = .idle then 0 else 1) ≤ s'.begun)
    (hidle : s.ssp = .idle → s.begun = s.sent → s'.ssp = .idle ∧ s'.begun = s.sent) :
    Trust s' := by
  have hnil : s.due = [] → s'.due = [] := fun h => List.sublist_nil.mp (h ▸ hdue)
  constructor
  · rw [hsent]
    exact hdue.trans hs.due
  · rw [hsent]
    exact hcount
  · exact hended
  · rw [hheld, hcsp]
    exact hs.held
  · rw [hcsp]
    exact fun h => hnil (hs.clear h)
  · rw [hcsp, hrecv]
    exact hs.waits
  · rw [hasked, hcsp, hheld]
    exact hs.asked.imp_right fun h => ⟨hnil h.1, h.2⟩
  · rw [hrecv, hcsp, hlast, hsent]
    intro hr hst
    obtain ⟨hd, hl, hssp, hbegun⟩ := hs.heard hr hst
    obtain ⟨hssp', hbegun'⟩ := hidle hssp hbegun
    exact ⟨hnil hd, hl, hssp', hbegun'⟩
  · rw [hfired, hcsp]
    exact hs.fired.imp_right fun h => ⟨h.1, hnil h.2.1, h.2.2⟩

theorem Trust.sspFinish (hs : Trust s) (hssp : s.ssp = .stopping) : Trust s.sspFinish := by
  refine hs.of_ssp rfl rfl rfl rfl rfl rfl rfl ?_ hs.count ?_ fun _ hb => ⟨rfl, hb⟩
  · exact (due_sspFinish hssp) ▸ List.Sublist.refl s.due
  · intro k hk
    rcases List.mem_append.mp hk with hk | hk
    · have hold := hs.ended k hk
      show k + 0 ≤ s.begun
      omega
    · obtain rfl : k = s.begun := by simpa using hk
      exact Nat.le_refl _

theorem Trust.sspAutoStop (hs : Trust s) (hssp : s.ssp ≠ .idle) : Trust s.sspAutoStop := by
  refine hs.of_ssp rfl rfl rfl rfl rfl rfl rfl (due_sspAutoStop hssp) hs.count ?_
    fun _ hb => ⟨rfl, hb⟩
  intro k hk
  have hk' : .done k ∈ s.answers := by simpa [Session.sspAutoStop] using hk
  have hold := hs.ended k hk'
  show k + 0 ≤ s.begun
  omega

theorem Trust.recvStart {as : List Ask} (hs : Trust s) (h : s.asks = .start :: as)
    (hssp : s.ssp = .idle) : Trust s.recvStart := by
  have hcount := hs.count
  rw [h, List.count_cons_self] at hcount
  refine hs.of_ssp rfl rfl rfl rfl rfl rfl rfl ?_ ?_ ?_ ?_
  · exact (due_recvStart h hssp) ▸ List.Sublist.refl s.due
  · show s.begun + 1 + s.asks.tail.count .start = s.sent
    rw [h, List.tail_cons]
    omega
  · intro k hk
    have hold := hs.ended k hk
    rw [if_pos hssp] at hold
    show k + 1 ≤ s.begun + 1
    omega
  · intro _ hbegun
    omega

theorem Trust.recvStop {as : List Ask} (hs : Trust s) (h : s.asks = .stop :: as)
    (hssp : s.ssp ≠ .stopping) : Trust s.recvStop := by
  have hcount := hs.count
  rw [h, List.count_cons_of_ne (by decide)] at hcount
  refine hs.of_ssp rfl rfl rfl rfl rfl rfl rfl ?_ ?_ ?_ ?_
  · exact (due_recvStop h hssp) ▸ List.Sublist.refl s.due
  · show s.begun + s.asks.tail.count .start = s.sent
    rw [h, List.tail_cons]
    exact hcount
  · intro k hk
    have hold := hs.ended k hk
    show k + (if (if s.ssp = .active then SspPhase.stopping else s.ssp) = .idle then 0 else 1) ≤
      s.begun
    cases hphase : s.ssp <;> simpa [hphase] using hold
  · intro hidle hbegun
    refine ⟨?_, hbegun⟩
    show (if s.ssp = .active then SspPhase.stopping else s.ssp) = .idle
    rw [hidle]
    rfl

/-! #### Moves of the CSP -/

theorem Trust.emit (hs : Trust s) : Trust s.emit := by
  have hdue := due_emit s
  unfold Session.emit at hdue ⊢
  split
  · exact hs
  · next a ha =>
    simp only [ha] at hdue
    cases a with
    -- START goes out, so no answer can be due before it arrives
    | start =>
      have hclear : s.due = [] := hs.clear (hs.held ha)
      constructor
      · rw [hdue, hclear]
        exact List.nil_sublist _
      · have hcount := hs.count
        simp only [List.count_append, List.count_singleton_self, if_true]
        omega
      · exact hs.ended
      · exact fun h => nomatch h
      · exact fun _ => hdue.trans hclear
      · exact hs.waits
      · exact .inl (by simp)
      · intro _ hst
        rcases hs.held ha with h | h <;> exact absurd (h.symm.trans hst) (by decide)
      · exact hs.fired.imp_right fun h => ⟨h.1, hdue.trans h.2.1, h.2.2⟩
    | stop =>
      have hcount := hs.count
      constructor
      · rw [hdue]
        exact hs.due
      · simpa using hcount
      · exact hs.ended
      · exact fun h => nomatch h
      · exact fun h => hdue.trans (hs.clear h)
      · exact hs.waits
      · refine hs.asked.imp (fun h => by simp [h]) fun ⟨hd, hor⟩ => ⟨hdue.trans hd, ?_⟩
        exact hor.imp_right fun ⟨_, hstart⟩ => absurd (ha.symm.trans hstart) (by decide)
      · exact fun hr hst => (hs.heard hr hst).imp_left hdue.trans
      · exact hs.fired.imp_right fun h => ⟨h.1, hdue.trans h.2.1, h.2.2⟩

theorem Trust.cancel (hs : Trust s) (hstop : s.held ≠ some .stop) : Trust s.cancel := by
  have hdue := due_cancel hstop
  constructor
  · rw [hdue]
    exact hs.due
  · exact hs.count
  · exact hs.ended
  · exact fun h => nomatch h
  · rintro (h | h) <;> cases h
  · exact fun h => nomatch h
  · exact hs.asked.imp_right fun h => ⟨hdue.trans h.1, .inl rfl⟩
  · exact fun _ h => nomatch h
  · exact hs.fired.imp_right fun h => ⟨h.1, hdue.trans h.2.1, .inl rfl⟩

theorem Trust.commence (hs : Trust s) (hcsp : s.csp = .pending) (hheld : s.held = none) :
    Trust s.commence := by
  have hclear : s.due = [] := hs.clear (.inl hcsp)
  have hasked : s.asked = true := by
    refine hs.asked.resolve_right ?_
    rintro ⟨-, h | ⟨-, h⟩⟩
    · exact absurd (hcsp.symm.trans h) (by decide)
    · exact absurd (hheld.symm.trans h) (by decide)
  constructor
  · exact hs.due
  · exact hs.count
  · exact hs.ended
  · exact fun _ => .inr rfl
  · exact fun _ => hclear
  · exact fun _ => rfl
  · exact .inl hasked
  · exact fun _ h => nomatch h
  · exact .inl rfl

theorem Trust.finish (hs : Trust s) (hcsp : s.csp = .stopping) : Trust s.finish := by
  have hasked : s.asked = true := by
    refine hs.asked.resolve_right ?_
    rintro ⟨-, h | ⟨h, -⟩⟩ <;> exact absurd (hcsp.symm.trans h) (by decide)
  have hzero : s.fired = 0 := by
    refine hs.fired.resolve_right ?_
    rintro ⟨-, -, h | h⟩ <;> exact absurd (hcsp.symm.trans h) (by decide)
  have hheld : s.held ≠ some .start := by
    intro h
    rcases hs.held h with h | h <;> exact absurd (hcsp.symm.trans h) (by decide)
  have hended : Trust { s with csp := .idle } := by
    constructor
    · exact hs.due
    · exact hs.count
    · exact hs.ended
    · exact fun h => absurd h hheld
    · rintro (h | h) <;> cases h
    · exact fun h => nomatch h
    · exact .inl hasked
    · exact fun _ h => nomatch h
    · exact .inl hzero
  unfold Session.finish
  dsimp only
  split
  · next hr =>
    have hnone : s.due = [] := (hs.heard hr hcsp).1
    refine { hended with fired := .inr ⟨?_, hnone, .inl rfl⟩ }
    rw [notify, hzero]
  · exact hended

theorem Trust.recvAutoStopped {as : List Answer} (hs : Trust s)
    (h : s.answers = .autoStopped :: as) (hheld : s.csp = .active → s.held = none) :
    Trust s.recvAutoStopped := by
  have hdue := due_recvAutoStopped h hheld
  have hactive : s.recvAutoStopped.held = if s.csp = .active then some .start else s.held := rfl
  constructor
  · rw [hdue]
    exact hs.due
  · exact hs.count
  · intro k hk
    refine hs.ended k ?_
    rw [h]
    have hk' : .done k ∈ s.answers.tail := hk
    rw [h] at hk'
    exact List.mem_cons_of_mem _ hk'
  · rw [hactive]
    split
    · next hact => exact fun _ => .inr hact
    · exact hs.held
  · exact fun h => hdue.trans (hs.clear h)
  · exact hs.waits
  · refine hs.asked.imp_right fun ⟨hd, hor⟩ => ⟨hdue.trans hd, hor.imp_right fun ⟨hp, hst⟩ => ⟨hp, ?_⟩⟩
    rw [hactive, if_neg (by rw [hp]; decide)]
    exact hst
  · exact fun hr hst => (hs.heard hr hst).imp_left hdue.trans
  · exact hs.fired.imp_right fun h => ⟨h.1, hdue.trans h.2.1, h.2.2⟩

theorem Trust.recvDone {k : ℕ} {as : List Answer} (hs : Trust s) (h : s.answers = .done k :: as) :
    Trust (s.recvDone k) := by
  obtain ⟨hk, hrest, hssp, hbegun, hasked, hfired, hcsp⟩ := hs.done_comes h
  have hended : ∀ j, .done j ∈ s.answers.tail → j + (if s.ssp = .idle then 0 else 1) ≤ s.begun := by
    intro j hj
    refine hs.ended j ?_
    rw [h] at hj ⊢
    exact List.mem_cons_of_mem _ hj
  have hsub : (s.recvDone k).due.Sublist [s.sent] := by
    rw [hrest]
    exact List.nil_sublist _
  unfold Session.recvDone at hrest hsub ⊢
  dsimp only at hrest hsub ⊢
  split at hrest
  · next hidle =>
    rw [if_pos hidle] at hsub ⊢
    exact ⟨hsub, hs.count, hended, hs.held, fun _ => hrest,
      fun h => absurd (hidle.symm.trans h) (by decide), .inl hasked,
      fun _ h => absurd (hidle.symm.trans h) (by decide),
      .inr ⟨by rw [notify, hfired], hrest, .inl hidle⟩⟩
  · next hidle =>
    rw [if_neg hidle] at hsub ⊢
    have hstopping : s.csp = .stopping := hcsp.resolve_left hidle
    exact ⟨hsub, hs.count, hended, hs.held, fun _ => hrest,
      fun h => absurd (hstopping.symm.trans h) (by decide), .inl hasked,
      fun _ _ => ⟨hrest, congrArg some hk, hssp, hbegun⟩, .inl hfired⟩

/-- **The silent moves preserve the invariant.** -/
theorem Trust.silent : Closed Trust Silent := by
  intro s s' hs h
  cases h with
  | emit => exact hs.emit
  | cancel _ hstop => exact hs.cancel hstop
  | commence hcsp hheld _ => exact hs.commence hcsp hheld
  | finish hcsp => exact hs.finish hcsp
  | sspFinish hssp => exact hs.sspFinish hssp
  | recvStart h hssp => exact hs.recvStart h hssp
  | recvStop h hssp => exact hs.recvStop h hssp
  | recvAutoStopped h hheld => exact hs.recvAutoStopped h hheld
  | recvDone h => exact hs.recvDone h

/-! #### Triggers -/

/-- A session is armed only where none is due. -/
def ArmsClear (s : Session) (t : Trigger) : Prop := t = .arm → s.due = []

theorem Trust.arm (hs : Trust s) (hheld : s.held = none) (hnone : s.due = []) :
    Trust s.arm := by
  have hdue : s.arm.due = [] := (due_arm hheld).trans hnone
  constructor
  · rw [hdue]
    exact List.nil_sublist _
  · exact hs.count
  · exact hs.ended
  · exact fun _ => .inl rfl
  · exact fun _ => hdue
  · exact fun h => nomatch h
  · exact .inr ⟨hdue, .inr ⟨rfl, rfl⟩⟩
  · exact fun _ h => nomatch h
  · exact hs.fired.imp_right fun h => ⟨h.1, hdue, .inr rfl⟩

theorem Trust.requestStop (hs : Trust s) (hcsp : s.csp = .active) : Trust s.requestStop := by
  have hsub := due_requestStop (hs.clear (.inr hcsp))
  rw [hs.count] at hsub
  have hasked : s.asked = true := by
    refine hs.asked.resolve_right ?_
    rintro ⟨-, h | ⟨h, -⟩⟩ <;> exact absurd (hcsp.symm.trans h) (by decide)
  have hfired : s.fired = 0 := by
    refine hs.fired.resolve_right ?_
    rintro ⟨-, -, h | h⟩ <;> exact absurd (hcsp.symm.trans h) (by decide)
  have hwaits := hs.waits hcsp
  constructor
  · exact hsub
  · exact hs.count
  · exact hs.ended
  · exact fun h => nomatch h
  · rintro (h | h) <;> cases h
  · exact fun h => nomatch h
  · exact .inl hasked
  · exact fun h _ => absurd (hwaits.symm.trans h) (by decide)
  · exact .inl hfired

theorem Trust.fires {t : Trigger} (hg : ArmsClear s t) (h : Fires s t s') (hs : Trust s) :
    Trust s' := by
  cases h with
  | arm hcsp hheld => exact hs.arm hheld (hg rfl)
  | requestStop hcsp => exact hs.requestStop hcsp
  | sspAutoStop hssp => exact hs.sspAutoStop hssp

/-! ### Being told -/

/-- What is over stays over until the next trigger. -/
theorem Over.silent (hs : Trust s) (hover : Over s) (h : Silent s s') : Over s' := by
  obtain ⟨hcsp, hssp, hbegun, hlast, hasked, hdue⟩ := hover
  have hcount := hs.count
  -- every START has been heard by now, so none can begin another session
  have hnostart : .start ∉ s.asks := by
    intro hmem
    have := List.count_pos_iff.mpr hmem
    omega
  cases h with
  | emit =>
    have he := due_emit s
    have hheld : s.held ≠ some .start := by
      intro hheld
      rcases hs.held hheld with h | h <;> simp [hcsp] at h
    unfold Session.emit at he ⊢
    split
    · constructor <;> assumption
    · next a ha =>
      cases a with
      | start => exact absurd ha hheld
      | stop => constructor <;> grind
  | cancel _ hstop =>
    have he := due_cancel hstop
    constructor <;> grind [Session.cancel]
  | commence hpending => simp [hcsp] at hpending
  | finish hstopping => simp [hcsp] at hstopping
  | sspFinish hstopping => simp [hssp] at hstopping
  | recvStart h => simp [h] at hnostart
  | recvStop h hne =>
    have he := due_recvStop h hne
    constructor <;> grind [Session.recvStop]
  | recvAutoStopped h hnone =>
    have he := due_recvAutoStopped h hnone
    constructor <;> grind [Session.recvAutoStopped]
  | recvDone h => simp [due_recvDone h] at hdue

/-- **The CSP is told only what is so.** -/
theorem Silent.notified (hs : Trust s) (h : Silent s s') :
    s'.notified = s.notified ∨ Over s' := by
  cases h with
  | emit =>
    unfold Session.emit
    split <;> exact .inl rfl
  | finish hcsp =>
    by_cases hrecv : s.doneRecv = true
    · -- the DONE of this session came before its end
      obtain ⟨hdue, hlast, hssp, hbegun⟩ := hs.heard hrecv hcsp
      have hasked : s.asked = true := hs.asked.resolve_right (by simp [hcsp])
      refine .inr ?_
      rw [Session.finish, if_pos hrecv]
      exact ⟨rfl, hssp, hbegun, hlast, hasked, hdue⟩
    · refine .inl ?_
      rw [Session.finish, if_neg hrecv]
  | recvDone h =>
    obtain ⟨hk, hrest, hssp, hbegun, hasked, -, hcsp⟩ := hs.done_comes h
    by_cases hidle : s.csp = .idle
    · refine .inr ?_
      rw [Session.recvDone, if_pos hidle] at hrest ⊢
      exact ⟨hidle, hssp, hbegun, congrArg some hk, hasked, hrest⟩
    · refine .inl ?_
      rw [Session.recvDone, if_neg hidle]
  | _ => exact .inl rfl

theorem Silents.trusted (hs : Trust s) (h : Silents s s') :
    Trust s' ∧ (s'.notified = s.notified ∨ Over s') := by
  induction h with
  | refl => exact ⟨hs, .inl rfl⟩
  | tail _ hstep ih =>
    obtain ⟨ht, hor⟩ := ih
    refine ⟨Trust.silent _ _ ht hstep, ?_⟩
    rcases hor with he | hover
    · rw [← he]
      exact hstep.notified ht
    · exact .inr (hover.silent ht hstep)

/-- **A step keeps the trust, and tells the CSP only what is so.** -/
theorem Moves.trusted {t : Option Trigger} (hs : Trust s) (hg : ∀ u, t = some u → ArmsClear s u)
    (h : Moves s t s') : Trust s' ∧ (s'.notified = s.notified ∨ Over s') := by
  obtain ⟨s₁, ht, hsil⟩ := h
  cases t with
  | none => exact Silents.trusted hs (ht ▸ hsil)
  | some u =>
    have hfires : Fires s u s₁ := ht
    have hsame : s₁.notified = s.notified := by cases hfires <;> rfl
    rw [← hsame]
    exact Silents.trusted (Trust.fires (hg u rfl) hfires hs) hsil

end Session

end ShadowBrowser
