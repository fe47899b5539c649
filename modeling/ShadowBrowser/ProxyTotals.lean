/-
The totals of the proxy.

The proxy adds up what its channels have counted (`_update_stats`) and tells it with
the live channel's counters added (`…_so_far`).  The totals should be the sum over
every channel there ever was.

* `pumpSpdySend_yields` — the pump of a teardown changes one counter: a dummy cell at
  the end of the out buffer gives way to the data, and counts as avoided;
* `Missing.step`, `Missing.run` — the totals miss as many avoided dummies as there were
  teardowns in which that happened, and nothing else (`total_eq`);
* **`totals_exact`** — they are exact in a run if and only if there was none;
* **`totals_exact_fails`** — there can be one.
-/
import Mathlib.Algebra.BigOperators.Group.List.Basic
import ShadowBrowser.MicroSteps
import ShadowBrowser.Teardown

namespace ShadowBrowser

open Checked Runs

/-! ### Adding counters -/

attribute [ext] SoFar

namespace SoFar

instance : Zero SoFar := ⟨{}⟩

instance : Add SoFar where
  add a b :=
    { allRecvByteCount := a.allRecvByteCount + b.allRecvByteCount
      usefulRecvByteCount := a.usefulRecvByteCount + b.usefulRecvByteCount
      dummyRecvCellCount := a.dummyRecvCellCount + b.dummyRecvCellCount
      allSendByteCount := a.allSendByteCount + b.allSendByteCount
      usefulSendByteCount := a.usefulSendByteCount + b.usefulSendByteCount
      dummySendCellCount := a.dummySendCellCount + b.dummySendCellCount
      numDummyCellsAvoided := a.numDummyCellsAvoided + b.numDummyCellsAvoided }

instance : AddCommMonoid SoFar where
  add_assoc a b c := SoFar.ext (Nat.add_assoc _ _ _) (Nat.add_assoc _ _ _) (Nat.add_assoc _ _ _)
    (Nat.add_assoc _ _ _) (Nat.add_assoc _ _ _) (Nat.add_assoc _ _ _) (Nat.add_assoc _ _ _)
  zero_add a := SoFar.ext (Nat.zero_add _) (Nat.zero_add _) (Nat.zero_add _) (Nat.zero_add _)
    (Nat.zero_add _) (Nat.zero_add _) (Nat.zero_add _)
  add_zero a := rfl
  add_comm a b := SoFar.ext (Nat.add_comm _ _) (Nat.add_comm _ _) (Nat.add_comm _ _)
    (Nat.add_comm _ _) (Nat.add_comm _ _) (Nat.add_comm _ _) (Nat.add_comm _ _)
  nsmul := nsmulRec

instance : IsRightCancelAdd SoFar where
  add_right_cancel b a c h := by
    have h' := SoFar.ext_iff.mp h
    exact SoFar.ext (Nat.add_right_cancel h'.1) (Nat.add_right_cancel h'.2.1)
      (Nat.add_right_cancel h'.2.2.1) (Nat.add_right_cancel h'.2.2.2.1)
      (Nat.add_right_cancel h'.2.2.2.2.1) (Nat.add_right_cancel h'.2.2.2.2.2.1)
      (Nat.add_right_cancel h'.2.2.2.2.2.2)

/-- So many avoided dummy cells. -/
def avoided (n : ℕ) : SoFar := { numDummyCellsAvoided := n }

@[simp] theorem avoided_zero : avoided 0 = 0 := rfl

theorem avoided_add (m n : ℕ) : avoided (m + n) = avoided m + avoided n := rfl

end SoFar

namespace ClientSideProxy

variable {s : ClientSideProxy} {c : Chan}

/-- `from_channel`: a counter of the live channel -/
def fromChannel (s : ClientSideProxy) (count : Chan → ℕ) : ℕ :=
  match s.bufloCh with
  | none => 0
  | some c => count c

/-- `all_recv_byte_count_so_far` -/
def allRecvByteCountSoFar (s : ClientSideProxy) : ℕ :=
  s.soFar.allRecvByteCount + s.fromChannel (·.allRecvByteCount)

/-- `useful_recv_byte_count_so_far` -/
def usefulRecvByteCountSoFar (s : ClientSideProxy) : ℕ :=
  s.soFar.usefulRecvByteCount + s.fromChannel (·.allUsersDataRecvByteCount)

/-- `dummy_recv_cell_count_so_far` -/
def dummyRecvCellCountSoFar (s : ClientSideProxy) : ℕ :=
  s.soFar.dummyRecvCellCount + s.fromChannel (·.dummyRecvCellCount)

/-- `all_send_byte_count_so_far` -/
def allSendByteCountSoFar (s : ClientSideProxy) : ℕ :=
  s.soFar.allSendByteCount + s.fromChannel (·.allSendByteCount)

/-- `useful_send_byte_count_so_far` -/
def usefulSendByteCountSoFar (s : ClientSideProxy) : ℕ :=
  s.soFar.usefulSendByteCount + s.fromChannel (·.allUsersDataSendByteCount)

/-- `dummy_send_cell_count_so_far` -/
def dummySendCellCountSoFar (s : ClientSideProxy) : ℕ :=
  s.soFar.dummySendCellCount + s.fromChannel (·.dummySendCellCount)

/-- `num_dummy_cells_avoided_so_far` -/
def numDummyCellsAvoidedSoFar (s : ClientSideProxy) : ℕ :=
  s.soFar.numDummyCellsAvoided + s.fromChannel (·.numDummyCellsAvoided)

/-- The answers to the seven queries. -/
def totals (s : ClientSideProxy) : SoFar where
  allRecvByteCount := s.allRecvByteCountSoFar
  usefulRecvByteCount := s.usefulRecvByteCountSoFar
  dummyRecvCellCount := s.dummyRecvCellCountSoFar
  allSendByteCount := s.allSendByteCountSoFar
  usefulSendByteCount := s.usefulSendByteCountSoFar
  dummySendCellCount := s.dummySendCellCountSoFar
  numDummyCellsAvoided := s.numDummyCellsAvoidedSoFar

/-- The counters of the live channel. -/
def live (s : ClientSideProxy) : SoFar := (s.bufloCh.map .ofChan).getD 0

theorem totals_eq (s : ClientSideProxy) : s.totals = s.soFar + s.live := by
  unfold totals live allRecvByteCountSoFar usefulRecvByteCountSoFar dummyRecvCellCountSoFar
    allSendByteCountSoFar usefulSendByteCountSoFar dummySendCellCountSoFar
    numDummyCellsAvoidedSoFar fromChannel
  cases s.bufloCh <;> rfl

theorem updateStats_eq (s : ClientSideProxy) :
    s.updateStats = { s with soFar := s.soFar + s.live } := by
  unfold updateStats live
  split
  · next hnone =>
    have hzero : (s.bufloCh.map SoFar.ofChan).getD 0 = 0 := by
      rw [hnone]
      rfl
    rw [hzero, add_zero]
  · next c hc =>
    simp only [hc]
    rfl

end ClientSideProxy

/-! ### The pump -/

namespace Chan

variable {c c' : Chan}

/-- A pump that is given `data` replaces a dummy cell at the end of the out buffer. -/
def yields (c : Chan) (data : List UInt8) : Prop :=
  c.cellSize ≠ 0 ∧ c.defenseInfo.state ≠ .active ∧ c.wholeDummyCellAtEndOutbuf = true ∧
    c.spdyOutbuf ++ data ≠ []

instance (c : Chan) (data : List UInt8) : Decidable (c.yields data) := by
  unfold yields
  infer_instance

/-- What steps that replace `n` dummy cells do: they leave everything but a dummy cell. -/
structure Pumps (n : ℕ) (c c' : Chan) : Prop where
  counters : SoFar.ofChan c' = SoFar.ofChan c + .avoided n
  mode : c'.cellSize = c.cellSize ∧ c'.defenseInfo.state = c.defenseInfo.state
  dummy : c'.wholeDummyCellAtEndOutbuf = (c.wholeDummyCellAtEndOutbuf && n == 0)

theorem toNat_yields {data : List UInt8} (hcell : c.cellSize ≠ 0)
    (hact : c.defenseInfo.state ≠ .active) (hdata : c.spdyOutbuf ++ data ≠ []) :
    (if c.yields data then 1 else 0) = c.wholeDummyCellAtEndOutbuf.toNat := by
  cases hd : c.wholeDummyCellAtEndOutbuf with
  | false => exact if_neg fun hy => Bool.noConfusion (hd.symm.trans hy.2.2.1)
  | true => exact if_pos ⟨hcell, hact, hd, hdata⟩

namespace Pumps

theorem refl (c : Chan) : Pumps 0 c c := ⟨rfl, ⟨rfl, rfl⟩, by simp⟩

theorem trans {d : Chan} {m n : ℕ} (h : Pumps m c d) (h' : Pumps n d c') :
    Pumps (m + n) c c' := by
  refine ⟨?_, ⟨h'.mode.1.trans h.mode.1, h'.mode.2.trans h.mode.2⟩, ?_⟩
  · rw [h'.counters, h.counters, SoFar.avoided_add, add_assoc]
  · rw [h'.dummy, h.dummy]
    cases c.wholeDummyCellAtEndOutbuf <;> cases m <;> cases n <;> simp

end Pumps

theorem setWriteEv_pumps (c : Chan) (b : Bool) : Pumps 0 c (c.setWriteEv b) :=
  ⟨rfl, ⟨rfl, rfl⟩, by simp [setWriteEv]⟩

theorem addedData_pumps (c : Chan) : Pumps 0 c c.addedData :=
  ⟨rfl, ⟨rfl, rfl⟩, by simp [addedData]⟩

theorem dropped_pumps (c : Chan) : Pumps 1 c (c.dropped 1) :=
  ⟨rfl, ⟨rfl, rfl⟩, by simp [dropped]⟩

theorem foldl_onSpdylaySendCb_pumps (sends : List (List UInt8)) (c : Chan) :
    Pumps 0 c (sends.foldl onSpdylaySendCb c) ∧
      (sends.foldl onSpdylaySendCb c).spdyOutbuf = c.spdyOutbuf ++ sends.flatten := by
  induction sends generalizing c with
  | nil => exact ⟨.refl c, by simp⟩
  | cons bs sends ih =>
    obtain ⟨hp, hbuf⟩ := ih (c.onSpdylaySendCb bs)
    refine ⟨?_, ?_⟩
    · have hone : Pumps 0 c (c.onSpdylaySendCb bs) := ⟨rfl, ⟨rfl, rfl⟩, by simp [onSpdylaySendCb]⟩
      exact hone.trans hp
    · rw [List.foldl_cons, hbuf, List.flatten_cons, ← List.append_assoc]
      rfl

/-- One data cell takes the place of a dummy cell, if there is one. -/
theorem maybeAddONEDataCellToOutbuf_pumps {x : Chan × Bool}
    (h : c.maybeAddONEDataCellToOutbuf = .ok x) (hadded : x.2 = true) :
    Pumps c.wholeDummyCellAtEndOutbuf.toNat c x.1 := by
  rcases maybeAddONEDataCellToOutbuf_eq_ok h with ⟨-, rfl⟩ | ⟨c₁, rfl | ⟨hd, rfl⟩, hadd, rfl⟩
  · cases hadded
  · rw [hadd.noDummy]
    exact addedData_pumps _
  · rw [hd.marked]
    exact (dropped_pumps c).trans (addedData_pumps _)

/-- The first turn of the flush replaces the dummy cell, if there is anything to flush. -/
theorem flushLoop_pumps : ∀ {fuel : ℕ} {c : Chan}, flushLoop fuel c = .ok c' →
    c.spdyOutbuf = [] ∧ c' = c ∨ fuel = 0 ∧ c' = c ∨
      Pumps c.wholeDummyCellAtEndOutbuf.toNat c c' := by
  intro fuel
  induction fuel with
  | zero =>
    intro c h
    cases h
    exact .inr (.inl ⟨rfl, rfl⟩)
  | succ fuel ih =>
    intro c h
    rw [flushLoop] at h
    split at h
    · next hempty =>
      cases h
      exact .inl ⟨List.eq_nil_of_length_eq_zero hempty, rfl⟩
    · obtain ⟨x, hx, h⟩ := bind_eq_ok.mp h
      obtain ⟨_, hadded, h⟩ := bind_eq_ok.mp h
      have hone := maybeAddONEDataCellToOutbuf_pumps hx (check_eq_ok.mp hadded)
      have hgone : x.1.wholeDummyCellAtEndOutbuf = false := by
        rw [hone.dummy]
        cases c.wholeDummyCellAtEndOutbuf <;> rfl
      refine .inr (.inr ?_)
      rcases ih h with ⟨-, rfl⟩ | ⟨-, rfl⟩ | hrest
      · exact hone
      · exact hone
      · rw [hgone] at hrest
        exact hone.trans hrest

/-- **What a pump does to the counters.** -/
theorem pumpSpdySend_yields {sends : List (List UInt8)} (h : c.pumpSpdySend sends = .ok c') :
    Pumps (if c.yields sends.flatten then 1 else 0) c c' ∧
      (c.cellSize ≠ 0 → c.defenseInfo.state ≠ .active → c.spdyOutbuf ++ sends.flatten = [] →
        c'.spdyOutbuf = []) := by
  obtain ⟨hsent, hbuf⟩ := foldl_onSpdylaySendCb_pumps sends c
  unfold pumpSpdySend at h
  generalize sends.foldl onSpdylaySendCb c = d at h hsent hbuf
  obtain ⟨-, ⟨hsize, hstate⟩, hdummy⟩ := id hsent
  simp only [beq_self_eq_true, Bool.and_true] at hdummy
  dsimp only at h
  split at h
  · next hzero =>
    -- without cells
    obtain ⟨b, -, rfl⟩ := maybeToggleWriteMonitoring_cases h
    have hz : c.cellSize = 0 := by rw [← hsize, hzero]
    rw [if_neg (fun hy => hy.1 hz)]
    exact ⟨hsent.trans (setWriteEv_pumps d b), fun hne => absurd hz hne⟩
  · next hne =>
    have hcell : c.cellSize ≠ 0 := by
      rw [← hsize]
      exact hne
    split at h
    · next hnone =>
      obtain ⟨d₁, hflush, h⟩ := bind_eq_ok.mp h
      obtain ⟨_, -, hloop⟩ := bind_eq_ok.mp hflush
      have hend : Pumps 0 d₁ c' ∧ c'.spdyOutbuf = d₁.spdyOutbuf := by
        split at h
        · obtain ⟨b, -, rfl⟩ := maybeToggleWriteMonitoring_cases h
          exact ⟨setWriteEv_pumps d₁ b, rfl⟩
        · cases h
          exact ⟨.refl _, rfl⟩
      have hact : c.defenseInfo.state ≠ .active := by
        rw [← hstate, hnone]
        exact DefenseState.noConfusion
      by_cases hempty : d.spdyOutbuf = []
      · have hd₁ : d₁ = d := by
          rcases flushLoop_pumps hloop with ⟨-, e⟩ | ⟨-, e⟩ | -
          · exact e
          · exact e
          · rw [hempty] at hloop
            cases hloop
            rfl
        rw [hd₁] at hend
        rw [if_neg (fun hy => hy.2.2.2 (hbuf ▸ hempty))]
        exact ⟨hsent.trans hend.1, fun _ _ _ => hend.2.trans hempty⟩
      · have hflushed : Pumps d.wholeDummyCellAtEndOutbuf.toNat d d₁ := by
          rcases flushLoop_pumps hloop with ⟨e, -⟩ | ⟨e, -⟩ | hp
          · exact absurd e hempty
          · exact absurd (List.eq_nil_of_length_eq_zero e) hempty
          · exact hp
        refine ⟨?_, fun _ _ e => absurd (hbuf.trans e) hempty⟩
        rw [toNat_yields hcell hact (fun e => hempty (hbuf.trans e)), ← hdummy]
        have hall := (hsent.trans hflushed).trans hend.1
        rwa [Nat.zero_add, Nat.add_zero] at hall
    · next hpending =>
      -- an armed channel must have something to send
      obtain ⟨x, hx, h⟩ := bind_eq_ok.mp h
      obtain ⟨_, hadded, h⟩ := bind_eq_ok.mp h
      obtain ⟨b, -, rfl⟩ := maybeToggleWriteMonitoring_cases h
      have hact : c.defenseInfo.state ≠ .active := by
        rw [← hstate, hpending]
        exact DefenseState.noConfusion
      have hdata : c.spdyOutbuf ++ sends.flatten ≠ [] := by
        intro e
        have hzero : d.payloadLen = 0 := by simp [payloadLen, hbuf.trans e]
        rw [maybeAddONEDataCellToOutbuf, if_pos hzero] at hx
        cases hx
        exact absurd (check_eq_ok.mp hadded) (by simp)
      refine ⟨?_, fun _ _ e => absurd e hdata⟩
      rw [toNat_yields hcell hact hdata, ← hdummy]
      have hall := (hsent.trans (maybeAddONEDataCellToOutbuf_pumps hx
        (check_eq_ok.mp hadded))).trans (setWriteEv_pumps x.1 b)
      rwa [Nat.zero_add, Nat.add_zero] at hall
    · next hactive =>
      cases h
      have hact : c.defenseInfo.state = .active := hstate.symm.trans hactive
      rw [if_neg (fun hy => hy.2.1 hact)]
      exact ⟨hsent, fun _ hn => absurd hact hn⟩

/-- **What closing streams does to the counters**: the first pump with something to send
replaces the dummy cell, and the others find none. -/
theorem closeStreams_yields : ∀ {resets : Resets} {c c' : Chan},
    CspSystem.closeStreams resets c = .ok c' →
      Pumps (if resets ≠ [] ∧ c.yields resets.flatten.flatten then 1 else 0) c c' := by
  intro resets
  induction resets with
  | nil =>
    intro c c' h
    cases h
    exact .refl c
  | cons sends resets ih =>
    intro c c' h
    obtain ⟨d, hpump, h⟩ := bind_eq_ok.mp h
    obtain ⟨hone, hempty⟩ := pumpSpdySend_yields hpump
    have hrest := ih h
    rw [List.flatten_cons, List.flatten_append]
    by_cases hy : c.yields sends.flatten
    · -- this pump replaces it
      have hall : c.yields (sends.flatten ++ resets.flatten.flatten) := by
        refine ⟨hy.1, hy.2.1, hy.2.2.1, fun e => hy.2.2.2 ?_⟩
        rw [← List.append_assoc] at e
        exact (List.append_eq_nil_iff.mp e).1
      rw [if_pos hy] at hone
      -- once it is replaced, no later pump of the teardown finds a dummy cell
      have hgone : ¬ d.yields resets.flatten.flatten := by
        intro hd
        have hdummy := hone.dummy
        rw [hd.2.2.1] at hdummy
        simp at hdummy
      rw [if_neg (fun hd => hgone hd.2)] at hrest
      rw [if_pos ⟨List.cons_ne_nil _ _, hall⟩]
      exact hone.trans hrest
    · -- this pump leaves the dummy cell, and whether a later one replaces it is as before
      rw [if_neg hy] at hone
      have hdummy : d.wholeDummyCellAtEndOutbuf = c.wholeDummyCellAtEndOutbuf := by
        simpa using hone.dummy
      have hsame : (resets ≠ [] ∧ d.yields resets.flatten.flatten) ↔
          (sends :: resets ≠ [] ∧ c.yields (sends.flatten ++ resets.flatten.flatten)) := by
        unfold yields at hy ⊢
        rw [hone.mode.1, hone.mode.2, hdummy, ← List.append_assoc]
        constructor
        · rintro ⟨-, hcell, hact, hd, hdata⟩
          have hnone : c.spdyOutbuf ++ sends.flatten = [] := by tauto
          rw [hempty hcell hact hnone] at hdata
          exact ⟨List.cons_ne_nil _ _, hcell, hact, hd, by rwa [hnone]⟩
        · rintro ⟨-, hcell, hact, hd, hdata⟩
          have hnone : c.spdyOutbuf ++ sends.flatten = [] := by tauto
          rw [hnone] at hdata
          refine ⟨?_, hcell, hact, hd, by rwa [hempty hcell hact hnone]⟩
          rintro rfl
          exact hdata rfl
      have hall := hone.trans hrest
      rw [Nat.zero_add] at hall
      rwa [if_congr hsame rfl rfl] at hall

end Chan

namespace ClientSideProxy

variable {s s' : ClientSideProxy}

/-- The event makes the proxy throw its channel away. -/
def tearsDown (s : ClientSideProxy) : CspEvent → Bool
  | .establishTunnel _ | .establishTunnel2 => true
  | .reapBufloChannelTimerFired nowMs =>
    match s.bufloCh with
    | none => false
    | some c => s.reaps c nowMs
  | _ => false

/-- While the proxy connects, in one way or the other, it has no channel. -/
structure Connecting (s : ClientSideProxy) : Prop where
  noChannel : s.peerChannel = true ∨ s.socksConnector = true → s.bufloCh = none
  either : s.peerChannel = true → s.socksConnector = false

namespace Connecting

/-- The channel is there and remains. -/
theorem other {c : Chan} (c' : Chan) (h : Connecting s) (hc : s.bufloCh = some c) :
    Connecting { s with bufloCh := some c' } := by
  refine ⟨fun hcon => ?_, h.either⟩
  have hnone := h.noChannel hcon
  rw [hc] at hnone
  cases hnone

theorem onConnectedToSsp {sock : SockRes} (hsocks : s.socksConnector = false)
    (h : s.onConnectedToSsp sock = .ok s') : Connecting s' ∧ s'.soFar = s.soFar := by
  obtain ⟨_, -, h⟩ := bind_eq_ok.mp h
  obtain ⟨c, -, h⟩ := bind_eq_ok.mp h
  cases h
  refine ⟨⟨?_, fun _ => hsocks⟩, rfl⟩
  rintro (hp | hs)
  · cases hp
  · exact absurd (hsocks.symm.trans hs) (by simp)

theorem onBufloChannelStatus {st : ChannelStatus} (h : Connecting s)
    (hst : s.onBufloChannelStatus st = .ok s') : Connecting s' := by
  cases st with
  | ready =>
    obtain ⟨_, -, hst⟩ := bind_eq_ok.mp hst
    cases hst
    split <;> exact ⟨h.noChannel, h.either⟩
  | closed =>
    cases hst
    rw [updateStats_eq]
    split <;> exact ⟨fun _ => rfl, fun _ => rfl⟩
  | aDefenseSessionDone =>
    cases hst
    exact ⟨h.noChannel, h.either⟩

theorem establishTunnelInternal (s : ClientSideProxy) :
    Connecting s.establishTunnelInternal := by
  unfold ClientSideProxy.establishTunnelInternal
  rw [updateStats_eq]
  exact ⟨fun _ => rfl, fun _ => rfl⟩

/-- **An event other than the channel's** that does not throw the channel away leaves what has
been added up so far. -/
theorem handle {e : CspEvent} (h : Connecting s) (hen : s.Enabled e)
    (hne : ∀ e', e ≠ .bufloCh e') (he : s.handle e = .ok s') :
    Connecting s' ∧ (s.tearsDown e = false → s'.soFar = s.soFar) := by
  -- only a new tunnel starts a new sum, and that is what tears the channel down
  cases e with
  | establishTunnel forceReconnect =>
    obtain ⟨_, -, he⟩ := bind_eq_ok.mp he
    cases he
    exact ⟨establishTunnelInternal _, fun hd => Bool.noConfusion hd⟩
  | establishTunnel2 =>
    cases he
    exact ⟨establishTunnelInternal s, fun hd => Bool.noConfusion hd⟩
  | closeAllStreams =>
    cases he
    exact ⟨⟨h.noChannel, h.either⟩, fun _ => rfl⟩
  | setAutoStartDefenseSessionOnNextSend =>
    obtain ⟨⟨t, ok⟩, ht, he⟩ := bind_eq_ok.mp he
    cases he
    obtain ⟨_, -, ht⟩ := bind_eq_ok.mp ht
    split at ht
    · cases ht
      exact ⟨⟨h.noChannel, h.either⟩, fun _ => rfl⟩
    · split at ht
      · cases ht
      · next c hc =>
        obtain ⟨c', -, ht⟩ := bind_eq_ok.mp ht
        cases ht
        exact ⟨⟨(h.other c' hc).noChannel, h.either⟩, fun _ => rfl⟩
  | stopDefenseSession rightNow =>
    simp only [ClientSideProxy.handle, stopDefenseSession] at he
    split at he
    · cases he
      exact ⟨h, fun _ => rfl⟩
    · split at he
      · cases he
      · next c hc =>
        obtain ⟨c', -, he⟩ := bind_eq_ok.mp he
        cases he
        exact ⟨h.other c' hc, fun _ => rfl⟩
  | onAccepted =>
    simp only [ClientSideProxy.handle, onAccepted] at he
    split at he
    · cases he
      exact ⟨h, fun _ => rfl⟩
    · obtain ⟨_, -, he⟩ := bind_eq_ok.mp he
      cases he
      exact ⟨⟨h.noChannel, h.either⟩, fun _ => rfl⟩
  | onClientHandlerDone objId =>
    cases he
    exact ⟨⟨h.noChannel, h.either⟩, fun _ => rfl⟩
  | onConnected sock =>
    have hpeer : s.peerChannel = true := hen
    simp only [ClientSideProxy.handle, onConnected] at he
    split at he
    · -- connected to the SOCKS proxy: there is no channel before the SSP is reached
      obtain ⟨_, -, he⟩ := bind_eq_ok.mp he
      cases he
      exact ⟨⟨fun _ => h.noChannel (.inl hpeer), fun hp => Bool.noConfusion hp⟩, fun _ => rfl⟩
    · obtain ⟨hcon, hsame⟩ :=
        onConnectedToSsp (s := { s with state := .connected }) (h.either hpeer) he
      exact ⟨hcon, fun _ => hsame⟩
    · cases he
  | onConnectError => cases he
  | onSocksTargetConnectResult ok sock =>
    simp only [ClientSideProxy.handle, onSocksTargetConnectResult] at he
    split at he
    · obtain ⟨_, -, he⟩ := bind_eq_ok.mp he
      obtain ⟨_, -, he⟩ := bind_eq_ok.mp he
      obtain ⟨hcon, hsame⟩ := onConnectedToSsp rfl he
      exact ⟨hcon, fun _ => hsame⟩
    · cases he
  | reapBufloChannelTimerFired nowMs =>
    cases he
    unfold reapBufloChannelTimerFired
    split
    · exact ⟨h, fun _ => rfl⟩
    · next c hc =>
      split
      · next hreaps =>
        exact ⟨establishTunnelInternal _, fun hd => by simp [tearsDown, hc, hreaps] at hd⟩
      · exact ⟨h, fun _ => rfl⟩
  | bufloCh e => exact absurd rfl (hne e)

end Connecting

end ClientSideProxy

/-! ### The totals and the channels destroyed -/

namespace CspSystem

variable {t t' t₀ : CspSystem} {e : SystemEvent} {resets : Resets} {n : ℕ}

/-- The sum over every channel there ever was: of its counters when it was destroyed, or of
their present values. -/
def total (t : CspSystem) : SoFar := t.destroyed.sum + t.csp.live

/-- The queries tell the sum over every channel there ever was. -/
def Exact (t : CspSystem) : Prop := t.csp.totals = t.total

instance (t : CspSystem) : Decidable t.Exact := by
  unfold Exact
  infer_instance

/-- Closing the streams replaces a dummy cell at the end of the channel's out buffer. -/
def Replaces (t : CspSystem) (resets : Resets) : Prop :=
  ∃ c ∈ t.csp.bufloCh, resets ≠ [] ∧ c.yields resets.flatten.flatten

instance (t : CspSystem) (resets : Resets) : Decidable (t.Replaces resets) := by
  unfold Replaces
  infer_instance

/-- The event throws the channel away; what the streams give that are closed then. -/
def teardown (t : CspSystem) : SystemEvent → Option Resets
  | .csp e resets => if t.csp.tearsDown e then some resets else none
  | .onStreamIdAssigned _ => none
  | .onBufloChannelStatus resets =>
    if t.reported.head? = some .closed then some resets else none

/-- The event does not throw the channel away while a dummy cell at the end of its out buffer
can still be replaced. -/
def Spares (t : CspSystem) (e : SystemEvent) : Prop :=
  ∀ resets ∈ t.teardown e, ¬ t.Replaces resets

instance (t : CspSystem) (e : SystemEvent) : Decidable (t.Spares e) := by
  unfold Spares
  infer_instance

/-- The sums of the proxy miss `n` avoided dummy cells, and nothing else. -/
def Short (n : ℕ) (t : CspSystem) : Prop := t.destroyed.sum = t.csp.soFar + .avoided n

theorem Short.sum_eq (h : Short n t) : t.total = .avoided n + t.csp.totals := by
  rw [total, h, ClientSideProxy.totals_eq, add_comm t.csp.soFar, add_assoc]

theorem Short.exact_iff (h : Short n t) : t.Exact ↔ n = 0 := by
  rw [Exact, h.sum_eq]
  constructor
  · intro e
    have hcount : t.csp.totals.numDummyCellsAvoided = n + t.csp.totals.numDummyCellsAvoided :=
      congrArg SoFar.numDummyCellsAvoided e
    omega
  · rintro rfl
    rw [SoFar.avoided_zero, zero_add]

/-- **A teardown**: what the channel counts after `_update_stats` is missing. -/
theorem Short.resetToInitial {sts : List ChannelStatus} (hs : Short n t)
    (h : { t with csp := t.csp.updateStats, reported := sts }.resetToInitial resets = .ok t') :
    Short (n + if t.Replaces resets then 1 else 0) t' := by
  obtain ⟨e, hd⟩ := resetToInitial_eq_ok h
  rw [ClientSideProxy.updateStats_eq] at e hd
  have hsoFar : t'.csp.soFar = t.csp.soFar + t.csp.live := by
    rw [e]
    rfl
  unfold Short at hs ⊢
  rw [hsoFar]
  rcases hd with ⟨hnone, hd⟩ | ⟨c, c', hc, hclose, hd⟩
  · have hnone' : t.csp.bufloCh = none := hnone
    have hkeeps : ¬ t.Replaces resets := by
      rintro ⟨c, hc, -⟩
      rw [hnone'] at hc
      cases hc
    have hlive : t.csp.live = 0 := by
      rw [ClientSideProxy.live, hnone']
      rfl
    rw [if_neg hkeeps, hlive, hd, add_zero, add_zero, ← hs]
  · have hc' : t.csp.bufloCh = some c := hc
    have hlive : t.csp.live = .ofChan c := by
      rw [ClientSideProxy.live, hc']
      rfl
    have hreplaces : t.Replaces resets ↔ resets ≠ [] ∧ c.yields resets.flatten.flatten := by
      unfold Replaces
      rw [hc']
      simp
    have hpumps := Chan.closeStreams_yields hclose
    rw [hd, List.sum_append, List.sum_singleton, hs, hlive, if_congr hreplaces rfl rfl,
      hpumps.counters, SoFar.avoided_add]
    exact add_add_add_comm _ _ _ _

theorem Short.establishTunnelInternal (hs : Short n t)
    (h : t.establishTunnelInternal resets = .ok t') :
    Short (n + if t.Replaces resets then 1 else 0) t' := by
  obtain ⟨t₁, hreset, h⟩ := bind_eq_ok.mp h
  cases h
  have hs₁ := hs.resetToInitial hreset
  exact hs₁

/-- The teardown of an event, as a count. -/
theorem spares_of_teardown (h : t.teardown e = some resets) :
    (if t.Spares e then 0 else 1) = if t.Replaces resets then 1 else 0 := by
  have hiff : t.Spares e ↔ ¬ t.Replaces resets := by
    unfold Spares
    rw [h]
    simp
  rw [if_congr hiff rfl rfl, ite_not]

theorem spares_of_none (h : t.teardown e = none) : t.Spares e := by
  unfold Spares
  rw [h]
  simp

/-- An event of the proxy that neither throws its channel away nor is the channel's. -/
theorem handle_destroyed {e : CspEvent} (hcon : t.csp.Connecting) (hen : t.csp.Enabled e)
    (h : t.handle e resets = .ok t') (hne : ∀ e', e ≠ .bufloCh e')
    (hkeep : t.csp.tearsDown e = false) : t'.destroyed = t.destroyed := by
  cases e with
  | establishTunnel forceReconnect => cases hkeep
  | establishTunnel2 => cases hkeep
  | reapBufloChannelTimerFired nowMs =>
    simp only [handle, reapBufloChannelTimerFired] at h
    split at h
    · cases h
      rfl
    · next c hc =>
      split at h
      · next hreaps => simp [ClientSideProxy.tearsDown, hc, hreaps] at hkeep
      · cases h
        rfl
  | bufloCh e => exact absurd rfl (hne e)
  | onConnected _ | onSocksTargetConnectResult _ _ =>
    -- there is no channel that a new one could replace
    obtain ⟨s, -, h⟩ := bind_eq_ok.mp h
    cases h
    have hnone : t.csp.bufloCh = none := by
      first
      | exact hcon.noChannel (.inl hen)
      | exact hcon.noChannel (.inr hen)
    simp [replaced, hnone]
  | closeAllStreams | setAutoStartDefenseSessionOnNextSend | stopDefenseSession _ | onAccepted
  | onClientHandlerDone _ | onConnectError =>
    obtain ⟨s, -, h⟩ := bind_eq_ok.mp h
    cases h
    rfl

/-- What holds in every state: the proxy has no channel while it connects, and its sums miss
`n` avoided dummy cells. -/
structure Missing (n : ℕ) (t : CspSystem) : Prop where
  connecting : t.csp.Connecting
  short : Short n t

/-- An event of the proxy that is not the channel's. -/
theorem Missing.handle {e : CspEvent} (h : Missing n t) (hen : t.csp.Enabled e)
    (hne : ∀ e', e ≠ .bufloCh e') (he : t.handle e resets = .ok t') :
    Missing (n + if t.Spares (.csp e resets) then 0 else 1) t' := by
  obtain ⟨hcsp, -⟩ := handle_csp he hne
  obtain ⟨hcon, hsame⟩ := h.connecting.handle hen hne hcsp
  refine ⟨hcon, ?_⟩
  by_cases hdown : t.csp.tearsDown e = true
  · have hsome : t.teardown (.csp e resets) = some resets := if_pos hdown
    rw [spares_of_teardown hsome]
    cases e with
    | establishTunnel forceReconnect =>
      obtain ⟨_, -, he⟩ := bind_eq_ok.mp he
      have hs : Short n { t with csp := { t.csp with cspStatusCb := true } } := h.short
      exact hs.establishTunnelInternal he
    | establishTunnel2 => exact h.short.establishTunnelInternal he
    | reapBufloChannelTimerFired nowMs =>
      simp only [CspSystem.handle, reapBufloChannelTimerFired] at he
      have hs : Short n { t with csp := { t.csp with reapTimerRunning := false } } := h.short
      split at he
      · next hnone => simp [ClientSideProxy.tearsDown, hnone] at hdown
      · next c hc =>
        split at he
        · exact hs.establishTunnelInternal he
        · next hkeeps => exact absurd (by simpa [ClientSideProxy.tearsDown, hc] using hdown) hkeeps
    | _ => cases hdown
  · have hkeep : t.csp.tearsDown e = false := by simpa using hdown
    have hnone : t.teardown (.csp e resets) = none := if_neg hdown
    rw [if_pos (spares_of_none hnone), Nat.add_zero, Short,
      handle_destroyed h.connecting hen he hne hkeep, hsame hkeep]
    exact h.short

/-- **One step**: what the totals miss grows by one if a dummy cell was replaced too late. -/
theorem Missing.step (h : Missing n t) (hstep : t.Step e t') :
    Missing (n + if t.Spares e then 0 else 1) t' := by
  cases e with
  | csp e resets =>
    simp only [Step, CspSystem.step] at hstep
    split at hstep
    · next hen =>
      -- the channel's own events add nothing to the totals
      by_cases hch : ∃ e', e = .bufloCh e'
      · obtain ⟨e', rfl⟩ := hch
        rw [if_pos (spares_of_none rfl), Nat.add_zero]
        simp only [CspSystem.handle, onChannelEvent] at hstep
        split at hstep
        · cases hstep
        · next c hc =>
          obtain ⟨c', -, hstep⟩ := bind_eq_ok.mp hstep
          cases hstep
          exact ⟨h.connecting.other c' hc, h.short⟩
      · exact h.handle hen.2 (fun e' he => hch ⟨e', he⟩) hstep
    · cases hstep
  | onStreamIdAssigned objId =>
    rw [if_pos (spares_of_none rfl), Nat.add_zero]
    simp only [Step, CspSystem.step] at hstep
    split at hstep
    · cases hstep
      exact ⟨h.connecting, h.short⟩
    · cases hstep
  | onBufloChannelStatus resets =>
    obtain ⟨st, -, hcsp⟩ := onBufloChannelStatus_csp hstep
    refine ⟨h.connecting.onBufloChannelStatus hcsp, ?_⟩
    simp only [Step, CspSystem.step, onBufloChannelStatus] at hstep
    split at hstep
    · cases hstep
    · -- the channel has been closed: what it counted is added, and a new tunnel starts
      next sts hrep =>
      obtain ⟨t₁, hreset, hstep⟩ := bind_eq_ok.mp hstep
      have hs₁ := h.short.resetToInitial hreset
      have hsome : t.teardown (.onBufloChannelStatus resets) = some resets := by
        simp [teardown, hrep]
      rw [spares_of_teardown hsome]
      cases hstep
      unfold Short at hs₁ ⊢
      split <;> exact hs₁
    · next st' sts hst hrep =>
      obtain ⟨s, hs, hstep⟩ := bind_eq_ok.mp hstep
      cases hstep
      have hnone : t.teardown (.onBufloChannelStatus resets) = none := by
        simp only [teardown, hrep, List.head?_cons, Option.some.injEq]
        exact if_neg hst
      rw [if_pos (spares_of_none hnone), Nat.add_zero]
      have hsame : s.soFar = t.csp.soFar := by
        cases st' with
        | closed => exact absurd rfl hst
        | ready =>
          obtain ⟨_, -, hs⟩ := bind_eq_ok.mp hs
          cases hs
          split <;> rfl
        | aDefenseSessionDone =>
          cases hs
          rfl
      unfold Short
      rw [hsame]
      exact h.short

/-- **A whole run**: the totals miss nothing exactly if every step spares the dummy cell. -/
theorem Missing.run {es : List SystemEvent} (h : Missing n t) (hrun : Run Step t es t') :
    ∃ m, Missing (n + m) t' ∧ (m = 0 ↔ Run (Guarded Spares Step) t es t') := by
  induction hrun generalizing n with
  | nil t => exact ⟨0, h, ⟨fun _ => .nil t, fun _ => rfl⟩⟩
  | @cons t u t' e es hstep _ ih =>
    obtain ⟨m, hm, hiff⟩ := ih (h.step hstep)
    rw [Nat.add_assoc] at hm
    refine ⟨_, hm, ?_, ?_⟩
    · intro hzero
      obtain ⟨he, hm⟩ := Nat.add_eq_zero_iff.mp hzero
      have hspares : t.Spares e := by
        by_contra hn
        rw [if_neg hn] at he
        cases he
      exact .cons ⟨hspares, hstep⟩ (hiff.mp hm)
    · intro hguarded
      cases hguarded with
      | cons hr hrest =>
        obtain rfl := Except.ok.inj (hr.2.symm.trans hstep)
        rw [if_pos hr.1, hiff.mpr hrest]

theorem Initial.missing (h : t.Initial) : Missing 0 t := by
  refine ⟨⟨fun _ => h.csp.bufloCh, fun _ => h.csp.peer.2⟩, ?_⟩
  rw [Short, h.fresh.2.2, h.soFar]
  rfl

/-- Whatever happens, nothing but avoided dummy cells is missing. -/
theorem total_eq {es : List SystemEvent} (hinit : t₀.Initial) (hrun : Run Step t₀ es t) :
    ∃ m, t.total = .avoided m + t.csp.totals := by
  obtain ⟨m, hm, -⟩ := hinit.missing.run hrun
  exact ⟨_, hm.short.sum_eq⟩

/-- **The totals are exact** in a run if and only if no channel is thrown away while a dummy
cell at the end of its out buffer can still give way to what closing its streams sends. -/
theorem totals_exact {es : List SystemEvent} (hinit : t₀.Initial) (hrun : Run Step t₀ es t) :
    t.Exact ↔ Run (Guarded Spares Step) t₀ es t := by
  obtain ⟨m, hm, hiff⟩ := hinit.missing.run hrun
  rw [Nat.zero_add] at hm
  exact hm.short.exact_iff.trans hiff

/-! ### Two runs -/

/-- A proxy before it connects, with a packet interval of 20 ms, `L = 50` and a time limit of
60 s. -/
def unconnected : CspSystem where
  csp :=
    { bufloPacketIntvlMs := 20
      sspBufloPacketIntvlMs := 20
      bufloL := 50
      bufloTimeLimitSecs := 60 }

theorem unconnected_initial : unconnected.Initial :=
  ⟨⟨rfl, rfl, ⟨rfl, rfl⟩, rfl, rfl⟩, rfl, ⟨rfl, rfl, rfl⟩⟩

/-- Events of the proxy in which no stream is closed. -/
def calmly (es : List CspEvent) : List SystemEvent := es.map (.csp · [])

/-- The proxy connects at the time `now`, and the handler `objId` of a client gets a stream. -/
def begins (now objId : ℕ) : List SystemEvent :=
  calmly [.onConnected (.accepts 15), .bufloCh (.socketReadable now
      (.bytes [10, 0, 0, 0, 1, 2, 238, 0, 0, 0, 0, 0, 0, 0, 0]))] ++
    [.onBufloChannelStatus [], .csp .onAccepted [], .onStreamIdAssigned objId]

/-- A defense session begins with a byte of the client and is told to stop.  At its last
attempt the socket takes nothing, so that a dummy cell remains, and the session ends. -/
def defends : List SystemEvent :=
  calmly <| [.setAutoStartDefenseSessionOnNextSend, .bufloCh (.pumpSpdySend [[7]]),
      .bufloCh (.socketWritable 0 (.accepts 750)), .stopDefenseSession false] ++
    List.replicate 48 (.bufloCh (.bufloTimerFired 20000 [] (.accepts 750))) ++
    [.bufloCh (.bufloTimerFired 20000 [] (.fails .eagain)),
      .bufloCh (.bufloTimerFired 20000 [] (.accepts 750))]

/-- The reset of a stream, as spdylay sends it. -/
def rstStream : List UInt8 := [128, 3, 0, 3, 0, 0, 0, 8, 0, 0, 0, 1, 0, 0, 0, 5]

/-- A session has just ended when the server side closes the connection.  The reset of the
client's stream takes the place of the last dummy cell, and the cell avoided is not counted. -/
theorem totals_exact_fails : ∃ (t₀ t : CspSystem) (es : List SystemEvent), t₀.Initial ∧
    Run Step t₀ es t ∧ ¬ t.Exact ∧ t.csp.numDummyCellsAvoidedSoFar = 0 ∧
      t.total.numDummyCellsAvoided = 1 := by
  obtain ⟨t, hrun, hall⟩ := exists_of_returns
    (x := exec step unconnected (calmly [.establishTunnel2] ++ begins 0 2 ++ defends ++
      calmly [.bufloCh (.socketReadable 20000 (.bytes []))] ++
      [.onBufloChannelStatus [[rstStream]]]))
    (p := fun t => decide (¬ t.Exact ∧ t.csp.numDummyCellsAvoidedSoFar = 0 ∧
      t.total.numDummyCellsAvoided = 1))
    (by decide +kernel)
  exact ⟨unconnected, t, _, unconnected_initial, run_of_exec hrun, of_decide_eq_true hall⟩

/-- The reaper replaces an old channel whose client has a stream: nothing is lost. -/
theorem totals_exact_reaped : ∃ (t₀ t : CspSystem) (es : List SystemEvent), t₀.Initial ∧
    Run Step t₀ es t ∧ t.destroyed.length = 1 ∧ t.csp.allSendByteCountSoFar = 1500 ∧
      t.Exact := by
  obtain ⟨t, hrun, hall⟩ := exists_of_returns
    (x := exec (guardedStep Spares .notEnabled step) unconnected
      (calmly [.establishTunnel2] ++ begins 0 2 ++
        calmly [.bufloCh (.pumpSpdySend [[7]]), .bufloCh (.socketWritable 0 (.accepts 750))] ++
        [.csp (.reapBufloChannelTimerFired 300000) [[rstStream]]] ++ begins 300000000 4 ++
        calmly [.bufloCh (.pumpSpdySend [[7]]), .bufloCh (.socketWritable 0 (.accepts 750))]))
    (p := fun t => decide (t.destroyed.length = 1 ∧ t.csp.allSendByteCountSoFar = 1500))
    (by decide +kernel)
  have hguarded := run_of_exec_guarded hrun
  have hrun' := hguarded.mono fun _ _ _ h => h.2
  obtain ⟨hone, hsent⟩ := of_decide_eq_true hall
  exact ⟨unconnected, t, _, unconnected_initial, hrun', hone, hsent,
    (totals_exact unconnected_initial hrun').mpr hguarded⟩

end CspSystem

end ShadowBrowser
