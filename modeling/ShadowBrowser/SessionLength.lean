/-
How long a session is.

The channel counts the attempts of a session to write, whatever the socket does with them.
A session that has been asked to stop goes on to the next multiple of L.

* `begins` — what has been attempted when a session begins;
* `attempts_after_stop` — what is attempted once the session has been asked to stop;
* **`session_length`** — every tick makes one attempt or is the last, and a session that is
  asked to stop after `a` attempts ends on the first tick after the least multiple of L that
  is at least `a`.
-/
import Mathlib.Order.Bounds.Basic
import Mathlib.Order.Nat
import ShadowBrowser.Pending
import ShadowBrowser.WireShape

namespace ShadowBrowser

open Checked Runs Machines

/-! ### The next multiple -/

/-- The multiples of `L` from `a` on. -/
def multiplesFrom (L a : ℕ) : Set ℕ := {m | L ∣ m ∧ a ≤ m}

theorem exists_isLeast_multiplesFrom {L : ℕ} (hL : 0 < L) (a : ℕ) :
    ∃ m, IsLeast (multiplesFrom L a) m := by
  classical
  have hex : ∃ m, L ∣ m ∧ a ≤ m := ⟨L * a, Dvd.intro a rfl, Nat.le_mul_of_pos_left a hL⟩
  exact ⟨Nat.find hex, Nat.find_spec hex, fun m hm => Nat.find_min' hex hm⟩

/-- A multiple is the next one. -/
theorem isLeast_of_dvd {L a m : ℕ} (h : IsLeast (multiplesFrom L a) m) (ha : L ∣ a) : m = a :=
  le_antisymm (h.2 ⟨ha, le_rfl⟩) h.1.2

/-- Between two multiples the next one stays the same. -/
theorem isLeast_succ {L a m : ℕ} (h : IsLeast (multiplesFrom L a) m) (ha : ¬ L ∣ a) :
    IsLeast (multiplesFrom L (a + 1)) m := by
  have hne : m ≠ a := fun e => ha (e ▸ h.1.1)
  have hle := h.1.2
  refine ⟨⟨h.1.1, by omega⟩, ?_⟩
  rintro n ⟨hn, han⟩
  exact h.2 ⟨hn, by omega⟩

namespace Chan

variable {c c' c₀ c₁ : Chan} {now : ℕ} {sends : List (List UInt8)} {sock : SockRes}

/-! ### Before a session -/

/-- Attempts are counted in a session only. -/
def Unattempted (c : Chan) : Prop :=
  c.defenseInfo.state ≠ .active → c.defenseInfo.numWriteAttempts = 0

theorem Micro.unattempted (h : Micro c c') (hc : Unattempted c) : Unattempted c' := by
  intro hne
  rcases h with h | h | h
  · rw [h.state_eq] at hne
    have hzero := hc hne
    cases h with
    | attempted h => exact absurd h hne
    | _ => exact hzero
  · cases h with
    | begun => exact absurd rfl hne
    | armed hset h => exact hc (by simp [h.state])
    | gaveUp => rfl
    | stopping h hr =>
      refine absurd ?_ hne
      unfold Chan.stopping
      dsimp only
      split <;> exact h
    | finished h hr =>
      unfold Chan.finished
      dsimp only
      split <;> rfl
    | autoStopped => rfl
    | restarting h => exact absurd h hne
  · rw [h.same] at hne ⊢
    exact hc hne

theorem Reachable.unattempted (h : Reachable c) : Unattempted c :=
  h.of_closed (fun c hest _ => by simp [hest.defense]) fun _ _ hc hm => hm.unattempted hc

/-! ### The beginning of a session -/

/-- Nothing is written, and nothing attempted is counted. -/
def Quiet (c c' : Chan) : Prop :=
  writes c'.journal = writes c.journal ∧
    (c.defenseInfo.numWriteAttempts = 0 → c'.defenseInfo.numWriteAttempts = 0)

namespace Quiet

theorem refl (c : Chan) : Quiet c c := ⟨rfl, id⟩

theorem trans {c₁ c₂ c₃ : Chan} (h : Quiet c₁ c₂) (h' : Quiet c₂ c₃) : Quiet c₁ c₃ :=
  ⟨h'.1.trans h.1, h'.2 ∘ h.2⟩

theorem of_unseen (h : Unseen c c') : Quiet c c' :=
  ⟨h.writes, fun hz => h.numWriteAttempts.trans hz⟩

theorem of_control (h : Control c c')
    (hz : c.defenseInfo.numWriteAttempts = 0 → c'.defenseInfo.numWriteAttempts = 0) :
    Quiet c c' :=
  ⟨congrArg (·.2.2.2.2.1) h.sendPart_eq, hz⟩

end Quiet

theorem begun_quiet (c : Chan) (now : ℕ) : Quiet c (c.begun now) :=
  ⟨by simp [Chan.begun, writes], id⟩

theorem putDefenseInfo_writes (c : Chan) (d : DefenseInfo) :
    writes (c.putDefenseInfo d).journal = writes c.journal := by
  have hcancelled : ∀ fs : List Flag, writes (fs.map .flagCancelled) = [] := by
    intro fs
    rw [writes, List.flatMap_map]
    exact List.flatMap_eq_nil_iff.mpr fun _ _ => rfl
  rw [putDefenseInfo, writes_append, hcancelled, List.append_nil]

theorem stopDefenseSession_quiet {rightNow : Bool} (h : c.stopDefenseSession rightNow = .ok c') :
    Quiet c c' := by
  rcases stopDefenseSession_cases h with ⟨-, rfl⟩ | ⟨hact, hr, rfl⟩
  · refine ⟨?_, fun _ => rfl⟩
    rw [gaveUp, putDefenseInfo_writes]
    simp [log, writes]
  · refine .of_control (.stopping c hact hr) fun hz => ?_
    unfold Chan.stopping
    dsimp only
    split <;> exact hz

theorem handleFlags_quiet {flags : UInt8} (h : c.handleFlags now flags = .ok c') :
    Quiet c c' := by
  rcases handleFlags_cases h with ⟨-, rfl⟩ | ⟨c₁, c₂, c₃, ha, -, hs, hp, rfl⟩
  · exact .refl _
  have h₁ : Quiet c c₁ := by
    rcases doIf_eq_ok ha with ⟨-, ha⟩ | ⟨-, rfl⟩
    · obtain ⟨hcl, ⟨hact, hr, hn, rfl⟩ | ⟨-, rfl⟩⟩ := handleAutoStopped_cases ha
      · exact .of_control (.restarting c hact hr hcl hn) id
      · exact .refl _
    · exact .refl _
  have h₂ : Quiet c₁ c₂ := by
    rcases doIf_eq_ok hs with ⟨-, hs⟩ | ⟨-, rfl⟩
    · obtain ⟨-, -, -, rfl⟩ := handleStart_eq_ok hs
      exact begun_quiet c₁ now
    · exact .refl _
  have h₃ : Quiet c₂ c₃ := by
    rcases doIf_eq_ok hp with ⟨-, hp⟩ | ⟨-, rfl⟩
    · exact stopDefenseSession_quiet (handleStop_eq_ok hp).2
    · exact .refl _
  exact (h₁.trans h₂).trans h₃

theorem handleInputCell_quiet (h : c.handleInputCell now = .ok c') : Quiet c c' := by
  obtain ⟨-, c₁, c₂, c₃, hflags, hdata, hdone, rfl⟩ := handleInputCell_cases h
  have h₀ : Quiet c (c.log (.cellHandled (c.cellInbuf.take c.peerCellSize))) :=
    ⟨by simp [log, writes], id⟩
  have h₁ : Quiet c c₁ := h₀.trans (handleFlags_quiet hflags)
  have h₂ : Quiet c c₂ := h₁.trans (.of_unseen (handleData_aside hdata).unseen)
  rcases doIf_eq_ok hdone with ⟨-, hdone⟩ | ⟨-, rfl⟩
  · obtain ⟨-, rfl⟩ := handleDone_eq_ok hdone
    have hnotify := (checkNotifyADefenseSessionDone_aside
      ({ c₂ with defenseInfo := { c₂.defenseInfo with doneDefendingRecv := true } } : Chan)).unseen
    exact h₂.trans ⟨hnotify.writes, fun hz => hnotify.numWriteAttempts.trans hz⟩
  · exact h₂

/-- **Reading cells writes nothing**, whatever it begins or stops. -/
theorem readCells_quiet (h : c.readCells now = .ok c') : Quiet c c' := by
  refine readLoop_induct (P := Quiet c) ?_ ?_ (.refl c) (readCells_eq_ok h).2
  · intro d hd _ _
    exact hd
  · intro d d₁ hd _ _ hcell
    have hone : Quiet c d₁ := hd.trans (handleInputCell_quiet hcell)
    exact hone

/-- What the journal has of writes since the first state. -/
def attempts (c c' : Chan) : List (ℕ × ℤ) :=
  (writes c'.journal).drop (writes c.journal).length

theorem attempts_of_append {ws : List (ℕ × ℤ)}
    (h : writes c'.journal = writes c.journal ++ ws) : attempts c c' = ws := by
  rw [attempts, h, List.drop_left]

/-- **The beginning of a session.**  A session that begins with a write has made this attempt;
one that begins otherwise has made none. -/
theorem begins {e : Event} (h : Reachable c) (hne : c.defenseInfo.state ≠ .active)
    (hstep : Step c e c') (hact : c'.defenseInfo.state = .active) :
    ∃ ws, writes c'.journal = writes c.journal ++ ws ∧
      c'.defenseInfo.numWriteAttempts = ws.length ∧
      ws = match e with
        | .socketWritable _ sock => [(c.cellSize, sock.returned c.cellSize)]
        | _ => [] := by
  have hzero := h.unattempted hne
  obtain ⟨-, -, -, hc, hset⟩ := h.micros
  obtain ⟨-, hstep⟩ := hstep.enabled
  -- only a start, or the write that was waited for, makes a session active
  cases e with
  | pumpSpdySend sends =>
    exact absurd ((pumpSpdySend_outs hstep).state_eq.symm.trans hact) hne
  | startDefenseSession now =>
    obtain ⟨-, -, rfl⟩ := startDefenseSession_eq_ok hstep
    refine ⟨[], ?_, hzero, rfl⟩
    rw [(begun_quiet c now).1, List.append_nil]
  | setAutoStartDefenseSessionOnNextSend =>
    obtain ⟨-, rfl⟩ := setAutoStartDefenseSessionOnNextSend_eq_ok hstep
    cases hact
  | stopDefenseSession rightNow =>
    rcases stopDefenseSession_cases hstep with ⟨-, rfl⟩ | ⟨hact', -⟩
    · cases hact
    · exact absurd hact' hne
  -- a tick needs a session that is active
  | bufloTimerFired now sends sock => exact absurd (bufloTimerFired_cases hstep).1 hne
  | socketWritable now sock =>
    obtain ⟨-, ⟨hpend, hlen, ht, hsend⟩ | ⟨hnone, hsend⟩⟩ := onSocketWritecb_cases hc hstep
    · -- the write is the first attempt of the session
      obtain ⟨s, hs⟩ : ∃ s, (c.begun now).shaper = some s := ⟨_, shaper_eq_some_iff.mpr ⟨rfl, rfl⟩⟩
      obtain ⟨-, hshaper, hwrites⟩ := sendCellOutbuf_shaper hs hsend
      obtain ⟨-, rfl⟩ := shaper_eq_some_iff.mp hs
      obtain ⟨-, hsent⟩ := shaper_eq_some_iff.mp hshaper
      refine ⟨[(c.cellSize, sock.returned c.cellSize)], ?_, ?_, rfl⟩
      · rw [hwrites, (begun_quiet c now).1]
        rfl
      · have hcount := congrArg Shaper.numWriteAttempts hsent
        simp only [Shaper.sent] at hcount
        rw [← hcount]
        show c.defenseInfo.numWriteAttempts + 1 = 1
        rw [hzero]
    · have hstate := (sendCellOutbuf_outs (by simp [hnone]) hsend).state_eq
      exact absurd (hstate.symm.trans hact) hne
  | socketReadable now res =>
    have hquiet : Quiet c c' := by
      rcases onSocketReadcb_cases hc hstep with ⟨_, _, h⟩ | ⟨bs, -, -, -, h⟩ | ⟨-, h⟩
      · exact .of_unseen (handleFailedSocketIo_unseen h)
      · exact (Quiet.of_unseen (readIn_aside c bs).unseen).trans (readCells_quiet h)
      · exact .of_unseen h.unseen
    refine ⟨[], ?_, hquiet.2 hzero, rfl⟩
    rw [hquiet.1, List.append_nil]

/-! ### Ticks -/

/-- How many sessions the time limit has ended. -/
def timeLimits (as : List Act) : ℕ := as.count (.flagRaised .autoStopped)

theorem timeLimits_mono {as bs : List Act} (h : as <+: bs) : timeLimits as ≤ timeLimits bs :=
  h.sublist.count_le _

theorem autoStopped_timeLimits (c : Chan) :
    timeLimits c.journal < timeLimits c.autoStopped.journal := by
  have hend : c.journal <+: (c.endDefense false).journal := by
    rw [endDefense, log, putDefenseInfo]
    dsimp only
    rw [List.append_assoc]
    exact List.prefix_append _ _
  have hmono := timeLimits_mono hend
  have hone : timeLimits c.autoStopped.journal = timeLimits (c.endDefense false).journal + 1 := by
    rw [autoStopped, raiseFlag, timeLimits, List.count_append, timeLimits]
    rfl
  omega

/-- **What a tick does**: it is the last one because the session is to stop here, or because of
the time limit, or it makes one more attempt. -/
theorem tick_cases (h : Reachable c) (hstep : Step c (.bufloTimerFired now sends sock) c') :
    (c.isDoneDefendingSend = true ∧ c'.defenseInfo.state ≠ .active ∧
        writes c'.journal = writes c.journal) ∨
      (c'.defenseInfo.state ≠ .active ∧ writes c'.journal = writes c.journal ∧
        timeLimits c.journal < timeLimits c'.journal) ∨
      (c.isDoneDefendingSend = false ∧ c'.defenseInfo.state = .active ∧
        writes c'.journal = writes c.journal ++ [(c.cellSize, sock.returned c.cellSize)] ∧
        c'.defenseInfo.numWriteAttempts = c.defenseInfo.numWriteAttempts + 1 ∧
        c'.defenseInfo.stopRequested = c.defenseInfo.stopRequested) := by
  obtain ⟨-, hfired⟩ := hstep.enabled
  obtain ⟨hact, hcases⟩ := bufloTimerFired_cases hfired
  obtain ⟨_, -, hbody⟩ := bind_eq_ok.mp hfired
  rcases hcases with ⟨hdone, c₁, houts, -, -, rfl⟩ | ⟨hdone, hlimit, hsrv, houts, -⟩ |
    ⟨hdone, -, htick⟩
  · rw [if_pos hdone] at hbody
    refine .inl ⟨hdone, ?_, finishDefense_writes hact (isDoneDefendingSend_stopRequested hdone) hbody⟩
    rw [(checkNotifyADefenseSessionDone_aside c₁).unseen.state, houts.state_eq, finished_state]
    exact fun h => nomatch h
  · rw [if_neg (by simp [hdone]), if_pos hlimit, if_neg (by simp [hsrv])] at hbody
    refine .inr (.inl ⟨?_, autoStopDefense_writes hact hsrv hbody, ?_⟩)
    · rw [houts.state_eq, autoStopped_state]
      exact fun h => nomatch h
    · exact lt_of_lt_of_le (autoStopped_timeLimits c) (timeLimits_mono houts.micros.journal)
  · obtain ⟨s, hs⟩ := exists_shaper hact
    obtain ⟨hshaper, hwrites⟩ := defendOneTick_shaper h.outBufferInv hs htick
    obtain ⟨-, rfl⟩ := shaper_eq_some_iff.mp hs
    obtain ⟨hact', hsent⟩ := shaper_eq_some_iff.mp hshaper
    refine .inr (.inr ⟨hdone, hact', hwrites, ?_, ?_⟩)
    · exact (congrArg Shaper.numWriteAttempts hsent).symm
    · exact (congrArg Shaper.stopRequested hsent).symm

theorem isDoneDefendingSend_iff : c.isDoneDefendingSend = true ↔
    c.defenseInfo.stopRequested = true ∧ c.tamarawL ∣ c.defenseInfo.numWriteAttempts := by
  rw [isDoneDefendingSend, Bool.and_eq_true, beq_iff_eq, Nat.dvd_iff_mod_eq_zero]

/-! ### A whole session -/

/-- The step was a tick. -/
def Observation.isTick (o : Observation) : Bool :=
  match o.signal with
  | some (.tick _ _) => true
  | _ => false

/-- The number of ticks. -/
def ticks (os : List Observation) : ℕ := os.countP Observation.isTick

/-- A step of a session is a tick or shows nothing. -/
theorem DefendStep.cases {o : Observation} (h : Reachable c) (hstep : DefendStep c o c') :
    (∃ now sends sock, Step c (.bufloTimerFired now sends sock) c' ∧ o.isTick = true ∧
        o = observe c (.bufloTimerFired now sends sock) c') ∨
      (o.isTick = false ∧ o.response = ⟨[], false⟩ ∧ Unseen c c') := by
  obtain ⟨hact, e, hstep, rfl⟩ := hstep
  by_cases he : ∃ now sends sock, e = .bufloTimerFired now sends sock
  · obtain ⟨now, sends, sock, rfl⟩ := he
    exact .inl ⟨now, sends, sock, hstep, rfl, rfl⟩
  · have he' : ∀ now sends sock, e ≠ .bufloTimerFired now sends sock :=
      fun now sends sock e => he ⟨now, sends, sock, e⟩
    obtain ⟨hresp, hsignal⟩ := observe_unseen h hact he' hstep
    refine .inr ⟨?_, hresp, hstep.unseen h.micros.choose_spec.2.2.1 h.defenseInv hact he'⟩
    rcases hsignal with ⟨hsig, -⟩ | ⟨hsig, -⟩
    · rw [Observation.isTick, hsig]
    · rw [Observation.isTick, hsig]

theorem DefendStep.reachable {o : Observation} (h : Reachable c) (hstep : DefendStep c o c') :
    Reachable c' := by
  obtain ⟨-, e, hstep, -⟩ := hstep
  exact h.snoc hstep

theorem DefendStep.journal {o : Observation} (h : Reachable c) (hstep : DefendStep c o c') :
    c.journal <+: c'.journal := by
  obtain ⟨-, e, hstep, -⟩ := hstep
  exact (h.step_micros hstep).journal

/-- What the channel has counted in its session is what the journal shows since `c₀`. -/
def Counts (c₀ c : Chan) : Prop :=
  c.defenseInfo.state = .active →
    ∃ ws, writes c.journal = writes c₀.journal ++ ws ∧ c.defenseInfo.numWriteAttempts = ws.length

theorem Counts.step {o : Observation} (hc : Counts c₀ c) (h : Reachable c)
    (hstep : DefendStep c o c') : Counts c₀ c' := by
  intro hact'
  obtain ⟨ws, hws, hlen⟩ := hc hstep.1
  rcases hstep.cases h with ⟨now, sends, sock, htick, -, -⟩ | ⟨-, -, hun⟩
  · rcases tick_cases h htick with ⟨-, hne, -⟩ | ⟨hne, -, -⟩ | ⟨-, -, hwrote, hcount, -⟩
    · exact absurd hact' hne
    · exact absurd hact' hne
    · refine ⟨ws ++ [(c.cellSize, sock.returned c.cellSize)], ?_, ?_⟩
      · rw [hwrote, hws, List.append_assoc]
      · rw [hcount, hlen, List.length_append, List.length_singleton]
  · exact ⟨ws, hun.writes.trans hws, hun.numWriteAttempts.trans hlen⟩

theorem DefendStep.config_eq {o : Observation} (h : Reachable c) (hstep : DefendStep c o c') :
    c'.cellSize = c.cellSize ∧ c'.tamarawL = c.tamarawL := by
  obtain ⟨-, e, hstep, -⟩ := hstep
  have hconf := (h.step_micros hstep).config_eq
  simp only [config, Prod.mk.injEq] at hconf
  exact ⟨hconf.1.2.1, hconf.1.2.2.2.1⟩

theorem session_reachable {os : List Observation} (hrun : Run DefendStep c os c')
    (h : Reachable c) : Reachable c' ∧ c.journal <+: c'.journal := by
  induction hrun with
  | nil => exact ⟨h, List.prefix_rfl⟩
  | cons hstep _ ih =>
    obtain ⟨hr, hj⟩ := ih (hstep.reachable h)
    exact ⟨hr, (hstep.journal h).trans hj⟩

/-- Nothing follows the end of a session. -/
theorem session_over {os : List Observation} (hrun : Run DefendStep c os c')
    (hne : c.defenseInfo.state ≠ .active) : os = [] ∧ c' = c := by
  cases hrun with
  | nil => exact ⟨rfl, rfl⟩
  | cons hstep _ => exact absurd hstep.1 hne

/-- **After the stop**: by induction on the run; `m` is the multiple at which the session is to
end, and no attempt before it changes which one that is. -/
theorem attempts_after_stop {os : List Observation} {m : ℕ} (hrun : Run DefendStep c os c')
    (h : Reachable c) (hact : c.defenseInfo.state = .active)
    (hreq : c.defenseInfo.stopRequested = true)
    (hm : IsLeast (multiplesFrom c.tamarawL c.defenseInfo.numWriteAttempts) m)
    (hlimit : timeLimits c'.journal = timeLimits c.journal) :
    (writes c'.journal).length + c.defenseInfo.numWriteAttempts =
        (writes c.journal).length + min m (c.defenseInfo.numWriteAttempts + ticks os) ∧
      (c'.defenseInfo.state = .active ↔ c.defenseInfo.numWriteAttempts + ticks os ≤ m) := by
  induction hrun with
  | nil c =>
    have hle := hm.1.2
    have hnil : ticks [] = 0 := rfl
    rw [hnil, Nat.add_zero, Nat.min_eq_right hle]
    exact ⟨rfl, fun _ => hle, fun _ => hact⟩
  | @cons c d c' o os hstep hrest ih =>
    have hd := hstep.reachable h
    have hleft := timeLimits_mono (hstep.journal h)
    have hright := timeLimits_mono (session_reachable hrest hd).2
    have hcons : ticks (o :: os) = ticks os + if o.isTick then 1 else 0 := by
      rw [ticks, List.countP_cons, ticks]
    have hle := hm.1.2
    rcases hstep.cases h with ⟨now, sends, sock, htick, ho, -⟩ | ⟨ho, -, hun⟩
    · rw [ho, if_pos rfl] at hcons
      rcases tick_cases h htick with ⟨hdone, hne, hsame⟩ | ⟨-, -, hlt⟩ |
        ⟨hgoes, hact', hwrote, hcount, hreq'⟩
      · -- the session ends here, at the multiple
        obtain ⟨rfl, rfl⟩ := session_over hrest hne
        have hat := isLeast_of_dvd hm (isDoneDefendingSend_iff.mp hdone).2
        have hnil : ticks [] = 0 := rfl
        refine ⟨?_, fun hact' => absurd hact' hne, fun hlt => ?_⟩
        · rw [hsame]
          omega
        · omega
      · -- the time limit has not moved, so it does not end the session
        omega
      · -- the session goes on behind this attempt, and `m` is still the next multiple
        have hnot : ¬ c.tamarawL ∣ c.defenseInfo.numWriteAttempts := by
          intro hdvd
          rw [isDoneDefendingSend_iff.mpr ⟨hreq, hdvd⟩] at hgoes
          cases hgoes
        have hL : d.tamarawL = c.tamarawL := (hstep.config_eq h).2
        have hm' : IsLeast (multiplesFrom d.tamarawL d.defenseInfo.numWriteAttempts) m := by
          rw [hL, hcount]
          exact isLeast_succ hm hnot
        obtain ⟨hlen, hiff⟩ := ih hd hact' (hreq'.trans hreq) hm' (by omega)
        rw [hcount] at hlen hiff
        rw [hwrote, List.length_append, List.length_singleton] at hlen
        refine ⟨by omega, hiff.trans ?_⟩
        omega
    · -- what is not an attempt changes none of the numbers
      rw [ho, if_neg Bool.false_ne_true, Nat.add_zero] at hcons
      have hm' : IsLeast (multiplesFrom d.tamarawL d.defenseInfo.numWriteAttempts) m := by
        rw [hun.config.2, hun.numWriteAttempts]
        exact hm
      obtain ⟨hlen, hiff⟩ :=
        ih hd (hun.state.trans hact) (hun.stopRequested hreq) hm' (by omega)
      rw [hun.numWriteAttempts] at hlen hiff
      rw [hun.writes] at hlen
      rw [hcons]
      exact ⟨hlen, hiff⟩

/-- What a session shows of one step. -/
def Paced (cellSize : ℕ) (o : Observation) : Prop :=
  if o.isTick then
    o.response = ⟨[], true⟩ ∨ ∃ rv, o.response = ⟨[(cellSize, rv)], false⟩
  else
    o.response = ⟨[], false⟩

theorem DefendStep.paced {o : Observation} (h : Reachable c) (hstep : DefendStep c o c') :
    Paced c.cellSize o := by
  unfold Paced
  rcases hstep.cases h with ⟨now, sends, sock, htick, ho, rfl⟩ | ⟨ho, hresp, -⟩
  · rw [ho, if_pos rfl]
    rcases tick_cases h htick with ⟨-, hne, hsame⟩ | ⟨hne, hsame, -⟩ | ⟨-, hact, hwrote, -, -⟩
    · exact .inl (by simp [observe, hne, hsame])
    · exact .inl (by simp [observe, hne, hsame])
    · exact .inr ⟨sock.returned c.cellSize, by simp [observe, hact, hwrote]⟩
  · rw [ho, if_neg Bool.false_ne_true]
    exact hresp

theorem session_paced {os : List Observation} (hrun : Run DefendStep c os c')
    (h : Reachable c) : ∀ o ∈ os, Paced c.cellSize o := by
  induction hrun with
  | nil => simp
  | cons hstep _ ih =>
    intro o ho
    rcases List.mem_cons.mp ho with rfl | ho
    · exact hstep.paced h
    · have hrest := ih (hstep.reachable h) o ho
      rw [(hstep.config_eq h).1] at hrest
      exact hrest

/-- **The length of a session.**  Take any session: it begins in the event `e`, and has seen
`os` so far.
* If it began with a write, this was its first attempt.
* Every tick offers the socket one cell's worth of bytes or is the last one, and nothing is
  written between ticks.
* If it has been asked to stop, and the time limit does not end it, it makes in total as many
  attempts as the least multiple of L that is not less than those made so far, and it ends on
  the first tick after the last of them. -/
theorem session_length {e : Event} {os : List Observation} (h : Reachable c₀)
    (hne : c₀.defenseInfo.state ≠ .active) (hbegin : Step c₀ e c₁)
    (hact₁ : c₁.defenseInfo.state = .active) (hrun : Run DefendStep c₁ os c) :
    (attempts c₀ c₁ = match e with
      | .socketWritable _ sock => [(c₀.cellSize, sock.returned c₀.cellSize)]
      | _ => []) ∧
    (∀ o ∈ os, Paced c₀.cellSize o) ∧
    ∀ os' c', c.defenseInfo.state = .active → c.defenseInfo.stopRequested = true →
      Run DefendStep c os' c' → timeLimits c'.journal = timeLimits c.journal →
        ∃ m, IsLeast (multiplesFrom c₀.tamarawL (attempts c₀ c).length) m ∧
          (attempts c₀ c').length = min m ((attempts c₀ c).length + ticks os') ∧
          (c'.defenseInfo.state = .active ↔ (attempts c₀ c).length + ticks os' ≤ m) := by
  obtain ⟨ws, hws, hcount, hfirst⟩ := begins h hne hbegin hact₁
  have h₁ : Reachable c₁ := h.snoc hbegin
  have hconf := (h.step_micros hbegin).config_eq
  simp only [config, Prod.mk.injEq] at hconf
  refine ⟨(attempts_of_append hws).trans hfirst, fun o ho => ?_, ?_⟩
  · have hpaced := session_paced hrun h₁ o ho
    rw [hconf.1.2.1] at hpaced
    exact hpaced
  · intro os' c' hact hreq hrun' hlimit
    obtain ⟨hr, hcounts, hL⟩ : Reachable c ∧ Counts c₀ c ∧ c.tamarawL = c₁.tamarawL :=
      hrun.invariant (P := fun d => Reachable d ∧ Counts c₀ d ∧ d.tamarawL = c₁.tamarawL)
        (by
          rintro d o d' ⟨hd, hcd, hLd⟩ hstep
          exact ⟨hstep.reachable hd, hcd.step hd hstep, (hstep.config_eq hd).2.trans hLd⟩)
        ⟨h₁, fun _ => ⟨ws, hws, hcount⟩, rfl⟩
    obtain ⟨as, has, hlen⟩ := hcounts hact
    have hcl : c.tamarawL = c₀.tamarawL := hL.trans hconf.1.2.2.2.1
    obtain ⟨m, hm⟩ := exists_isLeast_multiplesFrom (hcl ▸ hr.defends.1 : 0 < c₀.tamarawL) as.length
    have hm' : IsLeast (multiplesFrom c.tamarawL c.defenseInfo.numWriteAttempts) m := by
      rw [hcl, hlen]
      exact hm
    obtain ⟨htotal, hends⟩ := attempts_after_stop hrun' hr hact hreq hm' hlimit
    rw [hlen] at htotal hends
    have hsofar : attempts c₀ c = as := attempts_of_append has
    refine ⟨m, by rw [hsofar]; exact hm, ?_, by rw [hsofar]; exact hends⟩
    rw [has, List.length_append] at htotal
    rw [hsofar, attempts, List.length_drop]
    omega

/-- A client-side channel with `L = 3`. -/
def short : Chan := { fresh true with tamarawL := 3 }

/-- With `L = 3`, a session that is asked to stop after two attempts, the first of which began
it, makes a third one, which the socket does not take, and ends on the tick after that. -/
theorem session_length_three : ∃ c₀ c₁ c c' os os', Reachable c₀ ∧
    c₀.defenseInfo.state ≠ .active ∧ Step c₀ (.socketWritable 0 (.accepts 750)) c₁ ∧
      c₁.defenseInfo.state = .active ∧ Run DefendStep c₁ os c ∧ Run DefendStep c os' c' ∧
      (attempts c₀ c₁).length = 1 ∧ (attempts c₀ c).length = 2 ∧ (attempts c₀ c').length = 3 ∧
        c'.defenseInfo.state ≠ .active := by
  obtain ⟨⟨c₀, c₁, ⟨os, c⟩, os', c'⟩, hrun, hall⟩ := exists_of_returns
    (x := do
      let c₀ ← exec step short
        [.setAutoStartDefenseSessionOnNextSend, .pumpSpdySend [[1]]]
      let c₁ ← c₀.step (.socketWritable 0 (.accepts 750))
      let x ← defend c₁ [.bufloTimerFired 20000 [] (.accepts 300), .stopDefenseSession false]
      let y ← defend x.2 [.bufloTimerFired 40000 [] (.fails .eagain),
        .bufloTimerFired 60000 [] (.accepts 750)]
      return (c₀, c₁, x, y))
    (p := fun r => decide (r.1.defenseInfo.state ≠ .active ∧ r.2.1.defenseInfo.state = .active ∧
      r.2.2.1.2.defenseInfo.state = .active ∧ r.2.2.1.2.defenseInfo.stopRequested = true ∧
      timeLimits r.2.2.2.2.journal = timeLimits r.2.2.1.2.journal ∧
      (attempts r.1 r.2.2.1.2).length = 2 ∧ ticks r.2.2.2.1 = 2 ∧ r.1.tamarawL = 3 ∧
      (attempts r.1 r.2.1).length = 1))
    (by decide +kernel)
  obtain ⟨d₀, h₀, hrun⟩ := bind_eq_ok.mp hrun
  obtain ⟨d₁, h₁, hrun⟩ := bind_eq_ok.mp hrun
  obtain ⟨x, hx, hrun⟩ := bind_eq_ok.mp hrun
  obtain ⟨y, hy, hrun⟩ := bind_eq_ok.mp hrun
  cases hrun
  obtain ⟨hne, hact₁, hact, hreq, hlimit, htwo, hticks, hL, hone⟩ := of_decide_eq_true hall
  have hest : Established short := by constructor <;> simp [short, fresh]
  have hr := exec_reachable hest h₀
  obtain ⟨-, -, hstops⟩ := session_length hr hne h₁ hact₁ (run_of_defend hx)
  obtain ⟨m, hm, hlen, hends⟩ := hstops os' c' hact hreq (run_of_defend hy) hlimit
  dsimp only at htwo hticks hL
  rw [htwo, hL] at hm
  have hthree : m = 3 := le_antisymm (hm.2 ⟨⟨1, rfl⟩, by omega⟩) (by
    obtain ⟨⟨k, rfl⟩, hle⟩ := hm.1
    omega)
  rw [htwo, hticks, hthree] at hlen hends
  exact ⟨c₀, c₁, c, c', os, os', hr, hne, h₁, hact₁, run_of_defend hx, run_of_defend hy, hone,
    htwo, hlen, fun hact' => by have := hends.mp hact'; omega⟩

end Chan

end ShadowBrowser
