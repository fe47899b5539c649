/-
Defense sessions, as a protocol between the two ends of a channel.

The CSP arms a session, begins it, asks for its end and ends it; START and STOP tell
the SSP, which answers every session with DONE or AUTO_STOPPED.  `Session` is the
state of this protocol: where each end is, what is still to be sent, and what is on
the way, in cells or on the wire, in order.

Three moves are triggers, because what may go wrong depends on when they happen
(`Fires`); all others are `Silent`.

* **`startTokens_le`** — no silent move makes a second START;
* **`WillEnd.silent`** — while the CSP waits for the end of a session, something that
  will tell it is on the way.
-/
import Mathlib.Data.List.Count
import ShadowBrowser.Runs

namespace ShadowBrowser

open Runs

/-- The CSP's own defense. -/
inductive CspPhase
  | idle
  | pending
  | active
  | stopping
  deriving DecidableEq, Repr

/-- The SSP's own defense. -/
inductive SspPhase
  | idle
  | active
  | stopping
  deriving DecidableEq, Repr

/-- What the CSP asks for. -/
inductive Ask
  | start
  | stop
  deriving DecidableEq, Repr

/-- What the SSP answers; DONE goes with the number of the session that it is about. -/
inductive Answer
  | autoStopped
  | done (session : ℕ)
  deriving DecidableEq, Repr

/-- The state of the protocol. -/
structure Session where
  csp : CspPhase := .idle
  /-- to be sent with the CSP's next cell -/
  held : Option Ask := none
  /-- on the way to the SSP -/
  asks : List Ask := []
  ssp : SspPhase := .idle
  /-- on the way to the CSP -/
  answers : List Answer := []
  doneRecv : Bool := true
  /-- the number of STARTs sent -/
  sent : ℕ := 0
  /-- a START has been sent since the last session was armed -/
  asked : Bool := false
  /-- the number of sessions that the SSP has begun -/
  begun : ℕ := 0
  /-- the session of the DONE that the CSP received last -/
  lastDone : Option ℕ := none
  /-- how often the CSP was told that a session is done -/
  notified : ℕ := 0
  /-- the same, since the CSP last began a session -/
  fired : ℕ := 0
  deriving DecidableEq, Repr

namespace Session

/-! ### Moves -/

/-- The CSP sends what it holds. -/
def emit (s : Session) : Session :=
  match s.held with
  | none => s
  | some a =>
    { s with
      held := none
      asks := s.asks ++ [a]
      sent := s.sent + if a = .start then 1 else 0
      asked := s.asked || decide (a = .start) }

/-- The CSP gives up a session that it has not begun. -/
def cancel (s : Session) : Session := { s with csp := .idle, held := none }

/-- The CSP begins the session that it armed. -/
def commence (s : Session) : Session := { s with csp := .active, doneRecv := false, fired := 0 }

/-- The CSP is told that a session is done. -/
def notify (s : Session) : Session :=
  { s with notified := s.notified + 1, fired := s.fired + 1 }

/-- The CSP's own defense ends. -/
def finish (s : Session) : Session :=
  let s' : Session := { s with csp := .idle }
  if s.doneRecv then s'.notify else s'

/-- The SSP's defense ends as it was asked to. -/
def sspFinish (s : Session) : Session :=
  { s with ssp := .idle, answers := s.answers ++ [.done s.begun] }

/-- The SSP receives START. -/
def recvStart (s : Session) : Session :=
  { s with asks := s.asks.tail, ssp := .active, begun := s.begun + 1 }

/-- The SSP receives STOP. -/
def recvStop (s : Session) : Session :=
  { s with asks := s.asks.tail, ssp := if s.ssp = .active then .stopping else s.ssp }

/-- The CSP receives AUTO_STOPPED: it asks for another session, if it is still in one. -/
def recvAutoStopped (s : Session) : Session :=
  { s with
    answers := s.answers.tail
    held := if s.csp = .active then some .start else s.held }

/-- The CSP receives DONE for the session `k`. -/
def recvDone (s : Session) (k : ℕ) : Session :=
  let s' : Session := { s with answers := s.answers.tail, doneRecv := true, lastDone := some k }
  if s.csp = .idle then s'.notify else s'

/-- The CSP arms a session. -/
def arm (s : Session) : Session :=
  { s with csp := .pending, held := some .start, asked := false }

/-- The CSP asks for the end of its session. -/
def requestStop (s : Session) : Session := { s with csp := .stopping, held := some .stop }

/-- The SSP's defense ends at its time limit. -/
def sspAutoStop (s : Session) : Session :=
  { s with ssp := .idle, answers := s.answers ++ [.autoStopped] }

/-- The moves that can always happen. -/
inductive Silent : Session → Session → Prop
  | emit (s : Session) : Silent s s.emit
  | cancel (s : Session) (hcsp : s.csp = .idle ∨ s.csp = .pending) (h : s.held ≠ some .stop) :
      Silent s s.cancel
  | commence (s : Session) (hcsp : s.csp = .pending) (hheld : s.held = none)
      (h : .start ∈ s.asks) : Silent s s.commence
  | finish (s : Session) (hcsp : s.csp = .stopping) : Silent s s.finish
  | sspFinish (s : Session) (hssp : s.ssp = .stopping) : Silent s s.sspFinish
  | recvStart (s : Session) {as : List Ask} (h : s.asks = .start :: as) (hssp : s.ssp = .idle) :
      Silent s s.recvStart
  | recvStop (s : Session) {as : List Ask} (h : s.asks = .stop :: as)
      (hssp : s.ssp ≠ .stopping) : Silent s s.recvStop
  | recvAutoStopped (s : Session) {as : List Answer} (h : s.answers = .autoStopped :: as)
      (hheld : s.csp = .active → s.held = none) : Silent s s.recvAutoStopped
  | recvDone (s : Session) {k : ℕ} {as : List Answer} (h : s.answers = .done k :: as) :
      Silent s (s.recvDone k)

/-- The moves that a condition may be put on. -/
inductive Trigger
  | arm
  | requestStop
  | sspAutoStop
  deriving DecidableEq, Repr

/-- A trigger takes effect. -/
inductive Fires : Session → Trigger → Session → Prop
  | arm (s : Session) (hcsp : s.csp = .idle) (hheld : s.held = none) : Fires s .arm s.arm
  | requestStop (s : Session) (hcsp : s.csp = .active) : Fires s .requestStop s.requestStop
  | sspAutoStop (s : Session) (hssp : s.ssp ≠ .idle) : Fires s .sspAutoStop s.sspAutoStop

/-- Any number of silent moves. -/
def Silents : Session → Session → Prop := Relation.ReflTransGen Silent

/-- A trigger, if any, and then any number of silent moves. -/
def Moves (s : Session) (t : Option Trigger) (s' : Session) : Prop :=
  ∃ s₁, (match t with | none => s₁ = s | some t => Fires s t s₁) ∧ Silents s₁ s'

variable {s s' : Session}

/-- What has been sent is not held any more. -/
theorem emit_emit (s : Session) : s.emit.emit = s.emit := by
  unfold emit
  cases h : s.held with
  | none => simp [h]
  | some a => rfl

theorem emit_notify (s : Session) : s.notify.emit = s.emit.notify := by
  cases h : s.held <;> simp [emit, notify, h]

theorem Silent.silents (h : Silent s s') : Silents s s' := .single h

theorem Silents.trans {s₁ s₂ s₃ : Session} (h : Silents s₁ s₂) (h' : Silents s₂ s₃) :
    Silents s₁ s₃ := Relation.ReflTransGen.trans h h'

theorem Fires.moves {t : Trigger} {s₁ : Session} (h : Fires s t s₁) (h' : Silents s₁ s') :
    Moves s (some t) s' := ⟨s₁, h, h'⟩

theorem Silents.moves (h : Silents s s') : Moves s none s' := ⟨s, rfl, h⟩

/-- What the silent moves preserve, and the triggers too where `g` holds, a step does. -/
theorem Moves.preserves {P : Session → Prop} {g : Session → Trigger → Prop}
    {t : Option Trigger} (hsilent : Closed P Silent)
    (hfires : ∀ s t s', P s → g s t → Fires s t s' → P s') (h : Moves s t s')
    (hg : ∀ u, t = some u → g s u) (hs : P s) : P s' := by
  obtain ⟨s₁, ht, hsil⟩ := h
  refine hsilent.star s₁ s' ?_ hsil
  cases t with
  | none => exact ht ▸ hs
  | some u => exact hfires s u s₁ hs (hg u rfl) ht

/-! ### START and what it leads to -/

/-- The STARTs, and what they have led to: an SSP that defends, an AUTO_STOPPED that will make
the CSP send another. -/
def startTokens (s : Session) : ℕ :=
  (if s.held = some .start then 1 else 0) + s.asks.count .start +
    (if s.ssp = .idle then 0 else 1) + s.answers.count .autoStopped

/-- No silent move makes another START. -/
theorem Silent.startTokens_le (h : Silent s s') : s'.startTokens ≤ s.startTokens := by
  cases h with
  | emit =>
    -- START moves from the CSP's hand into the queue, and elsewhere only goes
    unfold Session.emit
    split
    · exact Nat.le_refl _
    · next a ha =>
      cases a with
      | start =>
        have hcount : (s.asks ++ [Ask.start]).count .start = s.asks.count .start + 1 := by simp
        have hold : s.startTokens = 1 + s.asks.count .start + (if s.ssp = .idle then 0 else 1)
            + s.answers.count .autoStopped := by simp [startTokens, ha]
        show 0 + (s.asks ++ [Ask.start]).count .start + (if s.ssp = .idle then 0 else 1)
          + s.answers.count .autoStopped ≤ s.startTokens
        omega
      | stop => simp [startTokens, ha]
  | cancel =>
    show 0 + s.asks.count .start + (if s.ssp = .idle then 0 else 1)
      + s.answers.count .autoStopped ≤ s.startTokens
    unfold startTokens
    omega
  | commence => exact Nat.le_refl _
  | finish =>
    unfold Session.finish
    dsimp only
    split <;> exact Nat.le_refl _
  | sspFinish hssp =>
    show (if s.held = some .start then 1 else 0) + s.asks.count .start + 0
      + (s.answers ++ [Answer.done s.begun]).count .autoStopped ≤ s.startTokens
    have hone : [Answer.done s.begun].count .autoStopped = 0 := rfl
    rw [List.count_append, hone, startTokens]
    omega
  | @recvStart as h hssp =>
    have hold : s.startTokens = (if s.held = some .start then 1 else 0)
        + (as.count .start + 1) + 0 + s.answers.count .autoStopped := by
      simp [startTokens, h, hssp]
    have hnew : s.recvStart.startTokens = (if s.held = some .start then 1 else 0)
        + as.count .start + 1 + s.answers.count .autoStopped := by
      simp [startTokens, Session.recvStart, h]
    omega
  | recvStop h hssp =>
    simp only [startTokens, Session.recvStop, h]
    cases hs : s.ssp <;> simp
  | @recvAutoStopped as h hheld =>
    -- an active CSP asks again for the session that the SSP has stopped
    by_cases hact : s.csp = .active
    · have hold : s.startTokens = 0 + s.asks.count .start + (if s.ssp = .idle then 0 else 1)
          + (as.count .autoStopped + 1) := by simp [startTokens, h, hheld hact]
      have hnew : s.recvAutoStopped.startTokens = 1 + s.asks.count .start
          + (if s.ssp = .idle then 0 else 1) + as.count .autoStopped := by
        simp [startTokens, Session.recvAutoStopped, h, hact]
      omega
    · simp [startTokens, Session.recvAutoStopped, h, hact]
  | recvDone h =>
    unfold Session.recvDone
    dsimp only
    split <;> simp [startTokens, notify, h]

/-- A session is armed only where none is under way at the SSP. -/
def ArmsApart (s : Session) (t : Trigger) : Prop := t = .arm → s.startTokens = 0

theorem Fires.startTokens_le {t : Trigger} (hg : ArmsApart s t) (h : Fires s t s')
    (hs : s.startTokens ≤ 1) : s'.startTokens ≤ 1 := by
  cases h with
  | arm hcsp hheld =>
    have hzero := hg rfl
    simp only [startTokens, hheld] at hzero
    show 1 + s.asks.count .start + (if s.ssp = .idle then 0 else 1)
      + s.answers.count .autoStopped ≤ 1
    omega
  | requestStop hcsp =>
    unfold startTokens at hs
    show 0 + s.asks.count .start + (if s.ssp = .idle then 0 else 1)
      + s.answers.count .autoStopped ≤ 1
    omega
  | sspAutoStop hssp =>
    unfold startTokens at hs
    rw [if_neg hssp] at hs
    show (if s.held = some .start then 1 else 0) + s.asks.count .start + 0
      + (s.answers ++ [Answer.autoStopped]).count .autoStopped ≤ 1
    rw [List.count_append, List.count_singleton_self]
    omega

/-! ### The end of a session -/

/-- A DONE is on the way. -/
def DoneComes (s : Session) : Prop := ∃ k, .done k ∈ s.answers

/-- The CSP knows that the SSP is done, or there is something left that will tell it. -/
def WillEnd (s : Session) : Prop :=
  s.doneRecv = true ∨ s.DoneComes ∨ s.ssp ≠ .idle ∨ .start ∈ s.asks ∨
    (s.csp = .active ∧ (s.held = some .start ∨ .autoStopped ∈ s.answers))

/-- **The silent moves do not lose track of a session.** -/
theorem WillEnd.silent : Closed WillEnd Silent := by
  intro s s' hs h
  cases h with
  | emit =>
    unfold Session.emit
    split
    · exact hs
    · next a ha => grind [WillEnd, DoneComes]
  | cancel hcsp => grind [WillEnd, DoneComes, Session.cancel]
  | commence hcsp hheld h => exact .inr (.inr (.inr (.inl h)))
  | finish hcsp => grind [WillEnd, DoneComes, Session.finish, notify]
  | sspFinish hssp => exact .inr (.inl ⟨s.begun, by simp [Session.sspFinish]⟩)
  | recvStart h hssp => exact .inr (.inr (.inl (by simp [Session.recvStart])))
  | recvStop h hssp => grind [WillEnd, DoneComes, Session.recvStop]
  | recvAutoStopped h hheld => grind [WillEnd, DoneComes, Session.recvAutoStopped]
  | recvDone h => grind [WillEnd, Session.recvDone, notify]

/-- The SSP stops by itself only while the CSP can still learn about it, and the CSP asks for
the end only while the SSP can still answer. -/
def EndsHeard (s : Session) (t : Trigger) : Prop :=
  match t with
  | .arm => True
  | .requestStop => s.doneRecv = true ∨ s.ssp ≠ .idle ∨ .start ∈ s.asks ∨ s.DoneComes
  | .sspAutoStop => s.doneRecv = true ∨ s.csp = .active ∨ .start ∈ s.asks ∨ s.DoneComes

theorem WillEnd.fires {t : Trigger} (hg : EndsHeard s t) (h : Fires s t s') (hs : s.WillEnd) :
    s'.WillEnd := by
  cases h with
  | arm hcsp hheld => grind [WillEnd, DoneComes, Session.arm]
  | requestStop hcsp => grind [WillEnd, DoneComes, Session.requestStop, EndsHeard]
  | sspAutoStop hssp => grind [WillEnd, DoneComes, Session.sspAutoStop, EndsHeard]

end Session

end ShadowBrowser
