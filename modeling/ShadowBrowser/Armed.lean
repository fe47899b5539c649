/-
What an armed channel sends, as long as nobody stops the session.

From the moment it is armed, a client-side channel is *underway*: its session is
armed, or it runs and no stop was requested.  Of its own accord (without a call of
its owner) an underway channel does little: it takes steps of the sending and the
receiving side, begins the armed session when the socket becomes writable, and has
START sent again when the other side gave up.  These steps are `Hush`.

* **`Step.hush`** — an event of an underway channel's own is made of such steps;
* `Since b c` — what holds of an underway channel `c` that was armed as `b`;
* **`Since.hush`** — such steps preserve it;
* **`Since.defended`** — what it says about the bytes on the wire.
-/
import ShadowBrowser.DefenseInv
import ShadowBrowser.Proxy

namespace ShadowBrowser

open Checked Runs Relation

namespace Chan

variable {b c c' : Chan} {now : ℕ}

/-- A client-side channel whose session is armed, or runs without a request to stop. -/
structure Underway (c : Chan) : Prop where
  client : c.isClientSide = true
  state : c.defenseInfo.state = .pendingNextSocketSend ∨ c.defenseInfo.state = .active
  notStopped : c.defenseInfo.stopRequested = false

/-- One small step of an underway channel. -/
inductive Hush (c c' : Chan) : Prop
  | out (h : Out c c')
  | aside (h : Aside c c')
  | begun (now : ℕ) (hset : c.Settled) (ht : c.timerRunning = false)
      (hp : c.defenseInfo.state = .pendingNextSocketSend)
      (hlen : c.cellOutbuf.length = c.cellSize) (e : c' = c.begun now)
  | restarting (h : c.defenseInfo.state = .active) (hr : c.defenseInfo.stopRequested = false)
      (hc : c.isClientSide = true) (hn : c.defenseInfo.needStartFlagInNextCell = false)
      (e : c' = c.raiseFlag .start)

/-- Any number of small steps of an underway channel. -/
def Hushes : Chan → Chan → Prop := ReflTransGen Hush

theorem Hush.hushes (h : Hush c c') : Hushes c c' := .single h

theorem Outs.hushes (h : Outs c c') : Hushes c c' :=
  ReflTransGen.mono (fun _ _ => Hush.out) _ _ h

theorem Aside.hushes (h : Aside c c') : Hushes c c' := (Hush.aside h).hushes

/-- They are among the small steps of any channel. -/
theorem Hush.micro (h : Hush c c') : Micro c c' := by
  cases h with
  | out h => exact .out h
  | aside h => exact .aside h
  | begun now hset ht hp hlen e =>
    subst e
    exact .control (.begun c now hset ht (.inr ⟨hp, hlen⟩))
  | restarting h hr hc hn e =>
    subst e
    exact .control (.restarting c h hr hc hn)

theorem Hushes.micros (h : Hushes c c') : Micros c c' :=
  ReflTransGen.mono (fun _ _ => Hush.micro) _ _ h

theorem Hushes.client_eq (h : Hushes c c') : c'.isClientSide = c.isClientSide := by
  have hconf := h.micros.config_eq
  simp only [config, Prod.mk.injEq] at hconf
  exact hconf.1.1

theorem Out.stopRequested_eq (h : Out c c') :
    c'.defenseInfo.stopRequested = c.defenseInfo.stopRequested := by
  cases h <;> rfl

/-- An underway channel stays underway. -/
theorem Hush.underway (h : Hush c c') (hu : Underway c) : Underway c' := by
  have hclient : c'.isClientSide = true := h.hushes.client_eq.trans hu.client
  cases h with
  | out h => exact ⟨hclient, h.state_eq ▸ hu.state, h.stopRequested_eq.trans hu.notStopped⟩
  | aside h =>
    rw [h.same] at hclient ⊢
    exact ⟨hclient, hu.state, hu.notStopped⟩
  | begun now hset ht hp hlen e =>
    subst e
    exact ⟨hclient, .inr rfl, hu.notStopped⟩
  | restarting h hr hc hn e =>
    subst e
    exact ⟨hclient, .inr h, hr⟩

/-! ### The events of an underway channel -/

/-- A cell that a client reads. -/
theorem handleFlags_hushes {flags : UInt8} (hcl : c.isClientSide = true)
    (h : c.handleFlags now flags = .ok c') : Hushes c c' := by
  rcases handleFlags_cases h with ⟨-, rfl⟩ | ⟨c₁, c₂, c₃, ha, -, hs, hp, rfl⟩
  · exact .refl
  · have h₁ : Hushes c c₁ := by
      rcases doIf_eq_ok ha with ⟨-, ha⟩ | ⟨-, rfl⟩
      · obtain ⟨-, ⟨hact, hr, hn, rfl⟩ | ⟨-, rfl⟩⟩ := handleAutoStopped_cases ha
        · exact (Hush.restarting hact hr hcl hn rfl).hushes
        · exact .refl
      · exact .refl
    have hcl₁ : c₁.isClientSide = true := h₁.client_eq.trans hcl
    -- START and STOP are for the server
    have h₂ : c₂ = c₁ := by
      rcases doIf_eq_ok hs with ⟨-, hs⟩ | ⟨-, e⟩
      · exact absurd (handleStart_eq_ok hs).1 (by simp [hcl₁])
      · exact e
    have h₃ : c₃ = c₁ := by
      rcases doIf_eq_ok hp with ⟨-, hp⟩ | ⟨-, e⟩
      · exact absurd (handleStop_eq_ok hp).1 (by simp [h₂, hcl₁])
      · exact e.trans h₂
    have h₄ : Aside c₃ { c₃ with
        defenseInfo := { c₃.defenseInfo with
          numCellsRecv := c₃.defenseInfo.numCellsRecv
            + if testFlag flags .defensive then 1 else 0 } } := ⟨rfl, [], by simp, by simp⟩
    rw [h₃] at h₄ ⊢
    exact h₁.trans h₄.hushes

theorem handleDone_hushes (h : c.handleDone = .ok c') : Hushes c c' := by
  obtain ⟨-, rfl⟩ := handleDone_eq_ok h
  have hdone : Aside c { c with defenseInfo := { c.defenseInfo with doneDefendingRecv := true } } :=
    ⟨rfl, [], by simp, by simp⟩
  exact hdone.hushes.trans (checkNotifyADefenseSessionDone_aside _).hushes

theorem handleInputCell_hushes (hcl : c.isClientSide = true)
    (h : c.handleInputCell now = .ok c') : Hushes c c' := by
  obtain ⟨-, c₁, c₂, c₃, hflags, hdata, hdone, rfl⟩ := handleInputCell_cases h
  have h₀ : Hushes c (c.log (.cellHandled (c.cellInbuf.take c.peerCellSize))) :=
    Aside.hushes ⟨rfl, [.cellHandled _], rfl, by simp [Act.IsAside]⟩
  have h₁ : Hushes _ c₁ := handleFlags_hushes (by exact hcl) hflags
  have h₃ : Hushes c₂ c₃ := by
    rcases doIf_eq_ok hdone with ⟨-, h⟩ | ⟨-, rfl⟩
    · exact handleDone_hushes h
    · exact .refl
  have h₄ : Aside c₃ { c₃ with cellInbuf := c₃.cellInbuf.drop c₃.peerCellSize } :=
    ⟨rfl, [], by simp, by simp⟩
  exact (((h₀.trans h₁).trans (handleData_aside hdata).hushes).trans h₃).trans h₄.hushes

theorem readCells_hushes (hcl : c.isClientSide = true) (h : c.readCells now = .ok c') :
    Hushes c c' := by
  refine readLoop_induct (P := Hushes c) ?_ ?_ .refl (readCells_eq_ok h).2
  · intro d hd _ _
    have haside : Aside d { d with cellReadInfo := CellReadInfo.parse d.cellInbuf } :=
      ⟨rfl, [], by simp, by simp⟩
    exact hd.trans haside.hushes
  · intro d d₁ hd _ _ hcell
    have haside : Aside d₁ { d₁ with cellReadInfo := {} } := ⟨rfl, [], by simp, by simp⟩
    exact (hd.trans (handleInputCell_hushes (hd.client_eq.trans hcl) hcell)).trans haside.hushes

/-- **An event of an underway channel's own** neither ends its session nor starts another. -/
theorem Step.hush {e : Event} (hc : CellMode c) (hset : c.Settled) (hu : Underway c)
    (hown : e.isOwn = true) (h : Step c e c') : Hushes c c' := by
  obtain ⟨-, h⟩ := h.enabled
  cases e with
  | pumpSpdySend sends => exact (pumpSpdySend_outs h).hushes
  | startDefenseSession now => simp [Event.isOwn] at hown
  | setAutoStartDefenseSessionOnNextSend => simp [Event.isOwn] at hown
  | stopDefenseSession rightNow => simp [Event.isOwn] at hown
  | bufloTimerFired now sends sock =>
    obtain ⟨hact, ⟨hdone, -⟩ | ⟨-, -, hsrv, -⟩ | ⟨-, -, htick⟩⟩ := bufloTimerFired_cases h
    · have hreq := isDoneDefendingSend_stopRequested hdone
      exact absurd hreq (by simp [hu.notStopped])
    · exact absurd hsrv (by simp [hu.client])
    · exact (defendOneTick_outs hact htick).hushes
  | socketWritable now sock =>
    obtain ⟨-, ⟨hp, hlen, ht, h⟩ | ⟨hnone, h⟩⟩ := onSocketWritecb_cases hc h
    · have hsend : Outs (c.begun now) c' := sendCellOutbuf_outs (by simp [begun]) h
      exact (Hush.begun now hset ht hp hlen rfl).hushes.trans hsend.hushes
    · rcases hu.state with hp | hact
      · exact absurd hp (by simp [hnone])
      · exact absurd hact (by simp [hnone])
  | socketReadable now res =>
    rcases onSocketReadcb_cases hc h with ⟨_, _, h⟩ | ⟨bs, -, -, -, h⟩ | ⟨-, h⟩
    · exact (handleFailedSocketIo_outs h).hushes
    · exact (readIn_aside c bs).hushes.trans (readCells_hushes hu.client h)
    · exact h.hushes

/-! ### What an underway channel has sent -/

/-- The cells that are kept since the channel was armed as `b`. -/
structure CellsSince (b c : Chan) (ks : List Cell) : Prop where
  kept : keptCells c.journal = keptCells b.journal ++ ks
  defensive : ∀ k ∈ ks, k.has .defensive = true
  start : ∀ k, ks.head? = some k → k.has .start = true
  none_yet : c.defenseInfo.state = .pendingNextSocketSend → c.defenseInfo.numDataCellsAdded = 0 →
    ks = []
  some_yet : (c.defenseInfo.state = .pendingNextSocketSend → c.defenseInfo.numDataCellsAdded ≠ 0) →
    ks ≠ []

/-- What holds of an underway channel `c` that was armed as `b`. -/
structure Since (b c : Chan) : Prop where
  underway : Underway c
  cells : ∃ ks, CellsSince b c ks
  unsent : c.defenseInfo.state = .pendingNextSocketSend → written c.journal = written b.journal

theorem dataCell_defensive (hu : Underway c) : c.dataCell.has .defensive = true := by
  rw [Cell.has, dataCell, testFlag_flaggedByte c _ (getCellFlags_setCellType 0).1]
  simp [mem_defensiveFlag, hu.state.symm]

theorem dummyCell_defensive (hu : Underway c) : c.dummyCell.has .defensive = true := by
  rw [Cell.has, dummyCell, testFlag_flaggedByte c _ (getCellFlags_setCellType 0).2]
  simp [mem_defensiveFlag, hu.state.symm]

namespace CellsSince

variable {ks : List Cell}

/-- A step that keeps the cells and what the defense says about them. -/
theorem of_same (h : CellsSince b c ks) (hkept : keptCells c'.journal = keptCells c.journal)
    (hstate : c'.defenseInfo.state = c.defenseInfo.state)
    (hnum : c'.defenseInfo.numDataCellsAdded = c.defenseInfo.numDataCellsAdded) :
    CellsSince b c' ks := by
  refine ⟨hkept.trans h.kept, h.defensive, h.start, ?_, ?_⟩
  · rw [hstate, hnum]
    exact h.none_yet
  · rw [hstate, hnum]
    exact h.some_yet

/-- One more cell; the first one carries START. -/
theorem appended (h : CellsSince b c ks) {k : Cell}
    (hkept : keptCells c'.journal = keptCells c.journal ++ [k]) (hdef : k.has .defensive = true)
    (hfirst : ks = [] → k.has .start = true)
    (hnum : c'.defenseInfo.state = .pendingNextSocketSend →
      c'.defenseInfo.numDataCellsAdded ≠ 0) : CellsSince b c' (ks ++ [k]) := by
  refine ⟨?_, ?_, ?_, ?_, fun _ => by simp⟩
  · rw [hkept, h.kept, List.append_assoc]
  · intro k' hk'
    rcases List.mem_append.mp hk' with hk' | hk'
    · exact h.defensive k' hk'
    · rw [List.mem_singleton.mp hk']
      exact hdef
  · intro k' hk'
    cases ks with
    | nil =>
      have e : k = k' := by simpa using hk'
      exact e ▸ hfirst rfl
    | cons k₀ ks => exact h.start k' (by simpa using hk')
  · intro hp hzero
    exact absurd hzero (hnum hp)

/-- The dummy cell at the end is dropped; it is not the one that carries START. -/
theorem dropped (h : CellsSince b c ks) (hbuf : OutBufferInv c) (hd : c.HasDummy) (n : ℕ)
    (hact : c.defenseInfo.state = .active) : CellsSince b (c.dropped n) ks.dropLast := by
  obtain ⟨-, ks', k, hks', hplain⟩ := hbuf.dummy hd.marked
  have hne : ks ≠ [] := h.some_yet fun hp => absurd hp (by simp [hact])
  have hlast : ks.getLast hne = k := by
    have hkept := h.kept.symm.trans hks'
    rw [← List.dropLast_append_getLast hne, ← List.append_assoc] at hkept
    exact List.singleton_inj.mp (List.append_inj' hkept rfl).2
  have hks : ks = ks.dropLast ++ [k] := by
    rw [← hlast]
    exact (List.dropLast_append_getLast hne).symm
  have hrest : ks.dropLast ≠ [] := by
    intro hnil
    rw [hnil] at hks
    have hstart := h.start k (by rw [hks]; rfl)
    exact absurd hstart (by simp [hplain.2.2 .start (by decide)])
  refine ⟨?_, ?_, ?_, ?_, fun _ => hrest⟩
  · show keptCells (c.journal ++ [.dummyDropped]) = _
    rw [keptCells_snoc, keepCell, h.kept, List.dropLast_append_of_ne_nil hne]
  · exact fun k' hk' => h.defensive k' (List.dropLast_subset ks hk')
  · intro k' hk'
    refine h.start k' ?_
    rw [hks]
    cases hdrop : ks.dropLast with
    | nil => exact absurd hdrop hrest
    | cons k₀ ks₀ => simpa [hdrop] using hk'
  · intro hp
    exact absurd hp (by simp [Chan.dropped, hact])

end CellsSince

namespace Since

/-- A step that changes neither the cells, nor the bytes sent, nor the defense. -/
theorem of_same (h : Since b c) (hu : Underway c')
    (hkept : keptCells c'.journal = keptCells c.journal)
    (hwritten : written c'.journal = written c.journal)
    (hstate : c'.defenseInfo.state = c.defenseInfo.state)
    (hnum : c'.defenseInfo.numDataCellsAdded = c.defenseInfo.numDataCellsAdded) :
    Since b c' := by
  obtain ⟨ks, hks⟩ := h.cells
  refine ⟨hu, ⟨ks, hks.of_same hkept hstate hnum⟩, fun hp => ?_⟩
  rw [hwritten]
  exact h.unsent (hstate ▸ hp)

theorem out (h : Since b c) (hdef : DefenseInv c) (hbuf : OutBufferInv c) (hout : Out c c') :
    Since b c' := by
  have hu : Underway c' := (Hush.out hout).underway h.underway
  obtain ⟨ks, hks⟩ := h.cells
  cases hout with
  | spdySent bs =>
    refine h.of_same hu ?_ ?_ rfl rfl
    · simp [onSpdylaySendCb, keepCell]
    · simp [onSpdylaySendCb, written]
  | dropped n hd =>
    -- in a pending session nothing marked is there to be dropped
    rcases h.underway.state with hp | hact
    · exact absurd hd.marked (by simp [(hdef.pending hp).2.1])
    · refine ⟨hu, ⟨_, hks.dropped hbuf hd n hact⟩, fun hp => ?_⟩
      exact absurd hp (by simp [Chan.dropped, hact])
  | addedData hadd =>
    refine ⟨hu, ⟨_, hks.appended (k := c.dataCell) ?_ (dataCell_defensive h.underway) ?_ ?_⟩, ?_⟩
    · simp [Chan.addedData, keepCell]
    · intro hnil
      rw [dataCell_has .start (by decide)]
      rcases h.underway.state with hp | hact
      · -- nothing is queued yet, so START is still waiting
        obtain ⟨-, -, ⟨-, hstart, -⟩ | ⟨hone, -⟩⟩ := hdef.pending hp
        · exact hstart
        · exact absurd (hadd.first hp) (by simp [hone])
      · exact absurd hnil (hks.some_yet fun hp => absurd hp (by simp [hact]))
    · intro hp
      have hp' : c.defenseInfo.state = .pendingNextSocketSend := hp
      simp [Chan.addedData, hp']
    · intro hp
      have hp' : c.defenseInfo.state = .pendingNextSocketSend := hp
      rw [← h.unsent hp']
      simp [Chan.addedData, written]
  | addedDummy hd hf hp =>
    -- dummy cells are only added in an active session
    have hact : c.defenseInfo.state = .active := h.underway.state.resolve_left hp
    refine ⟨hu, ⟨_, hks.appended (k := c.dummyCell) ?_ (dummyCell_defensive h.underway) ?_ ?_⟩, ?_⟩
    · simp [Chan.addedDummy, keepCell]
    · intro hnil
      exact absurd hnil (hks.some_yet fun hp' => absurd hp' hp)
    · intro hp'
      exact absurd hp' hp
    · intro hp'
      exact absurd hp' hp
  | took offered n hn hle hi hp =>
    refine ⟨hu, ⟨ks, hks.of_same ?_ rfl rfl⟩, fun hp' => absurd hp' hp⟩
    simp [Chan.took, accounted, keepCell]
  | refused offered rv hrv =>
    refine h.of_same hu ?_ ?_ rfl rfl
    · simp [log, keepCell]
    · simp [log, written]
  | attempted hact => exact h.of_same hu rfl rfl rfl rfl
  | toggled v hv => exact h.of_same hu rfl rfl rfl rfl
  | avoided n => exact h.of_same hu rfl rfl rfl rfl
  | closed =>
    refine h.of_same hu ?_ ?_ rfl rfl
    · simp [onSocketClosed, chStatusCb, log, keepCell]
    · simp [onSocketClosed, chStatusCb, log, written]

theorem aside (h : Since b c) (ha : Aside c c') : Since b c' := by
  have hu : Underway c' := (Hush.aside ha).underway h.underway
  have hout := congrArg Chan.sendPart ha.same
  obtain ⟨as, has, hall⟩ := ha.journal
  have hj : outJournal c'.journal = outJournal c.journal := by
    rw [has]
    refine outJournal_append fun a ha' => ?_
    have := hall a ha'
    cases a <;> simp_all [Act.IsAside, Act.IsOut]
  simp only [outJournal, Prod.mk.injEq] at hj
  obtain ⟨-, hw, -, -, hk⟩ := hj
  refine h.of_same hu hk hw ?_ ?_
  · rw [ha.same]
  · rw [ha.same]

/-- **Every small step of an underway channel preserves it.** -/
theorem hush (h : Since b c) (hdef : DefenseInv c) (hbuf : OutBufferInv c) (hm : Hush c c') :
    Since b c' := by
  have hu : Underway c' := hm.underway h.underway
  obtain ⟨ks, hks⟩ := h.cells
  cases hm with
  | out hout => exact h.out hdef hbuf hout
  | aside ha => exact h.aside ha
  | begun now hset ht hp hlen e =>
    subst e
    -- a cell is queued, so it is the first one
    have hnum : c.defenseInfo.numDataCellsAdded ≠ 0 := by
      obtain ⟨-, -, ⟨-, -, hnil⟩ | ⟨hone, -⟩⟩ := hdef.pending hp
      · have hpos := hbuf.cellSize_pos
        rw [hnil] at hlen
        simp only [List.length_nil] at hlen
        omega
      · omega
    refine ⟨hu, ⟨ks, ?_, hks.defensive, hks.start, ?_, fun _ => hks.some_yet fun _ => hnum⟩, ?_⟩
    · rw [← hks.kept]
      simp [Chan.begun, keepCell]
    · intro hp'
      exact absurd hp' (by simp [Chan.begun])
    · intro hp'
      exact absurd hp' (by simp [Chan.begun])
  | restarting hact hr hc hn e =>
    subst e
    refine h.of_same hu ?_ ?_ rfl rfl
    · simp [raiseFlag, keepCell]
    · simp [raiseFlag, written]

theorem hushes (h : Since b c) (hdef : DefenseInv c) (hbuf : OutBufferInv c)
    (hm : Hushes c c') : Since b c' :=
  (Closed.star (P := fun d => Since b d ∧ DefenseInv d ∧ OutBufferInv d)
    (fun _ _ hd hstep => ⟨hd.1.hush hd.2.1 hd.2.2 hstep, hd.2.1.micro hd.2.2 hstep.micro,
      hd.2.2.micro hstep.micro⟩) _ _ ⟨h, hdef, hbuf⟩ hm).1

end Since

/-- **A channel that has just been armed.** -/
theorem MayArm.since (hmay : c.MayArm) (hdef : DefenseInv c) : Since c.armed c.armed := by
  have hidle := hdef.idle hmay.state
  refine ⟨⟨hmay.client, .inl rfl, ?_⟩, ⟨[], by simp, by simp, by simp, fun _ _ => rfl, ?_⟩,
    fun _ => rfl⟩
  · show c.defenseInfo.stopRequested = false
    by_contra hr
    have hact := hdef.stopRequested (by simpa using hr)
    exact absurd hact (by simp [hmay.state])
  · intro h
    exact absurd hidle.2 (h rfl)

/-! ### What that means on the wire -/

/-- What a channel armed as `b` has sent since then, in the state `c`: nothing, or the bytes
of cells of a session that is running.  Every one of these cells is a cell of the session,
the first of them carries START, and together they are all that was sent and queued. -/
structure Defended (b c : Chan) : Prop where
  sameChannel : c.objId = b.objId ∧ b.journal <+: c.journal
  session : c.defenseInfo.state = .active ∨
    (c.defenseInfo.state = .pendingNextSocketSend ∧ written c.journal = written b.journal)
  cells : ∃ ks : List Cell,
    written c.journal ++ c.cellOutbuf = written b.journal ++ ks.flatMap (Cell.encode c.cellSize) ∧
    given c.journal = given b.journal ++ ks.flatMap Cell.payload ++ c.spdyOutbuf ∧
    (∀ k ∈ ks, k.has .defensive = true) ∧ ∀ k, ks.head? = some k → k.has .start = true

/-- **What was sent since the channel was armed is defended.** -/
theorem Since.defended (h : Since b c) (hm : Micros b c) (hbufb : OutBufferInv b)
    (hbuf : OutBufferInv c) (hspdy : b.spdyOutbuf = []) (hcell : b.cellOutbuf = []) :
    Defended b c := by
  have hconf := hm.config_eq
  simp only [config, Prod.mk.injEq] at hconf
  obtain ⟨⟨-, hsize, -⟩, hobj, -⟩ := hconf
  obtain ⟨ks, hks⟩ := h.cells
  have hbytes : written c.journal ++ c.cellOutbuf
      = written b.journal ++ ks.flatMap (Cell.encode c.cellSize) := by
    have hb := hbufb.bytes
    rw [hcell, List.append_nil, ← hsize] at hb
    rw [hbuf.bytes, hks.kept, List.flatMap_append, hb]
  have huser : given c.journal = given b.journal ++ ks.flatMap Cell.payload ++ c.spdyOutbuf := by
    have hb := hbufb.user
    rw [hspdy, List.append_nil] at hb
    rw [hbuf.user, hks.kept, List.flatMap_append, hb]
  refine ⟨⟨hobj, hm.journal⟩, ?_, ks, hbytes, huser, hks.defensive, hks.start⟩
  rcases h.underway.state with hp | hact
  · exact .inr ⟨hp, h.unsent hp⟩
  · exact .inl hact

end Chan

end ShadowBrowser
