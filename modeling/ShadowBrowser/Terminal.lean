/-
The end of a channel, as its observer is told of it.

The reads for the input buffer, the reads that drop and the writes each find out for
themselves that the socket has ended.  A build that closes the channel then tells its
observer once; one with `IN_SHADOW` keeps the events, and tells it as often as it finds out.

* `Once` — no end, and no new data, is told after an end;
* `Outcome` — what the observer is told in one event;
* `innerOuter` — the `InnerOuterHandler` as the observer;
* **`one_terminal`** — the end is told once, and `set_write_eof` is called once, if the build
  closes the channel or the socket has nothing more to tell.
-/
import ShadowBrowser.Forwarding
import ShadowBrowser.TcpSocket

namespace ShadowBrowser

open Checked Runs

/-- A notice that may follow an end. -/
def Notice.Harmless (n : Notice) : Prop := ¬ n.IsTerminal ∧ n ≠ .newReadDataAvailable

instance (n : Notice) : Decidable n.Harmless := inferInstanceAs (Decidable (_ ∧ _))

/-- After an end, there is neither another one nor new data. -/
def Once (notices : List Notice) : Prop := notices.Pairwise fun n m => n.IsTerminal → m.Harmless

instance (notices : List Notice) : Decidable (Once notices) :=
  inferInstanceAs (Decidable (List.Pairwise _ _))

theorem not_terminal_of_harmless {ns : List Notice} (h : ∀ n ∈ ns, n.Harmless) :
    ∀ n ∈ ns, ¬ n.IsTerminal := fun n hn => (h n hn).1

theorem once_of_not_terminal {ns : List Notice} (h : ∀ n ∈ ns, ¬ n.IsTerminal) : Once ns :=
  List.Pairwise.imp_of_mem (fun ha _ _ hterm => absurd hterm (h _ ha))
    (List.pairwise_of_forall fun _ _ => trivial)

theorem once_append {ns ms : List Notice} (hns : Once ns) (hms : Once ms)
    (h : (∃ n ∈ ns, n.IsTerminal) → ∀ m ∈ ms, m.Harmless) : Once (ns ++ ms) :=
  List.pairwise_append.mpr ⟨hns, hms, fun n hn m hm hterm => h ⟨n, hn, hterm⟩ m hm⟩

/-- Then an end is told at most once. -/
theorem Once.count_le {ns : List Notice} (h : Once ns) :
    ns.countP (fun n => decide n.IsTerminal) ≤ 1 := by
  induction ns with
  | nil => exact Nat.zero_le 1
  | cons n ns ih =>
    obtain ⟨hn, hns⟩ := List.pairwise_cons.mp h
    rw [List.countP_cons]
    by_cases hterm : n.IsTerminal
    · -- nothing that follows is an end
      have hzero : ns.countP (fun n => decide n.IsTerminal) = 0 :=
        List.countP_eq_zero.mpr fun m hm => by simpa using (hn m hm hterm).1
      rw [hzero]
      split <;> omega
    · rw [if_neg (by simpa using hterm)]
      exact ih hns

namespace Conn

variable {χ σ ε : Type} {o : SocketUser χ σ ε} {inShadow : Bool} {s s' : Conn σ}

/-- The observer has been told that the channel has ended. -/
def Ended (s : Conn σ) : Prop := ∃ n ∈ s.notices, n.IsTerminal

/-- The socket has nothing to tell: no read gives bytes or an end, and no write finds an end. -/
def Silent : SocketEvent ε → Prop
  | .readable answers | .timeout answers => ∀ a ∈ answers, a = .failure .eAgain
  | .writable (.failure f) => f = .eAgain
  | _ => True

/-- With `IN_SHADOW`, the socket has nothing to tell once the observer knows of its end. -/
def EndsOnce (inShadow : Bool) (s : Conn σ) (e : SocketEvent ε) : Prop :=
  inShadow = true → s.Ended → Silent e

/-! ### What the observer is told in one event -/

/-- The observer is told of some harmless things, and then perhaps of new data, or of an end; a build
without `IN_SHADOW` has then closed the channel. -/
structure Outcome (inShadow : Bool) (s s' : Conn σ) (quiet last : List Notice) : Prop where
  notices : s'.notices = s.notices ++ (quiet ++ last)
  harmless : ∀ n ∈ quiet, n.Harmless
  last : last = [] ∨ last = [.newReadDataAvailable] ∨
    ∃ n : Notice, n.IsTerminal ∧ last = [n] ∧ (inShadow = false → s'.closed = true)

theorem outcome_refl (s : Conn σ) : Outcome inShadow s s [] [] :=
  ⟨(List.append_nil _).symm, nofun, .inl rfl⟩

theorem notices_respond (r : σ × Option TcpChannel) (s : Conn σ) :
    (s.respond r).notices = s.notices := by
  obtain ⟨u, r⟩ := r
  cases r with
  | none => rfl
  | some ch' =>
    rw [respond]
    dsimp only
    split <;> rfl

theorem closed_respond {r : σ × Option TcpChannel} (h : s.closed = true) :
    (s.respond r).closed = true := by
  obtain ⟨u, r⟩ := r
  cases r with
  | none => rfl
  | some ch' =>
    simp only [respond, h, if_true]

/-- The observer is told of one thing. -/
theorem notify_tells {n : Notice} (h : notify o n s = .ok s') :
    s'.notices = s.notices ++ [n] ∧ (s.closed = true → s'.closed = true) := by
  obtain ⟨r, -, h⟩ := bind_eq_ok.mp h
  cases h
  exact ⟨notices_respond .., fun hclosed => closed_respond hclosed⟩

/-- What a call on the socket that gives no bytes comes to. -/
theorem handle_outcome {f : IoFailure} (h : handleNonSuccessfulSocketIo o inShadow f s = .ok s') :
    ∃ last, Outcome inShadow s s' [] last ∧ last ≠ [.newReadDataAvailable] ∧
      (f = .eAgain → last = []) := by
  have hend : ∀ {n : Notice}, n.IsTerminal →
      notify o n (if inShadow then s else s.close) = .ok s' → Outcome inShadow s s' [] [n] := by
    intro n hn h
    obtain ⟨hnotices, hclosed⟩ := notify_tells h
    refine ⟨?_, nofun, .inr (.inr ⟨n, hn, rfl, fun hshadow => ?_⟩)⟩
    · rw [hnotices]
      cases inShadow <;> rfl
    · subst hshadow
      exact hclosed rfl
  cases f with
  | eof => exact ⟨[.eof], hend (.inl rfl) h, by decide, nofun⟩
  | eAgain =>
    cases h
    exact ⟨[], outcome_refl s, by decide, fun _ => rfl⟩
  | eInProgress => cases h
  | errno => exact ⟨[.error], hend (.inr rfl) h, by decide, nofun⟩

/-- Bytes that have been dropped are told of harmlessly. -/
theorem notifyDropped_tells {len : ℕ} (h : notifyDropped o len s = .ok s') :
    ∃ quiet, s'.notices = s.notices ++ quiet ∧ ∀ n ∈ quiet, n.Harmless := by
  have htold : ∀ {m : ℕ} {t : Conn σ}, tellDropped o m s = .ok t →
      t.notices = s.notices ++ [.inputBytesDropped m] := fun htell => (notify_tells htell).1
  have hharmless : ∀ m : ℕ, ∀ n ∈ [Notice.inputBytesDropped m], n.Harmless := by
    intro m n hn
    rw [List.mem_singleton.mp hn]
    refine ⟨?_, nofun⟩
    rintro (hterm | hterm) <;> cases hterm
  rw [notifyDropped] at h
  split at h
  · obtain ⟨t, htell, h⟩ := bind_eq_ok.mp h
    cases h
    refine ⟨_, ?_, hharmless len⟩
    rw [← htold htell]
    split <;> rfl
  · split at h
    · obtain ⟨t, htell, h⟩ := bind_eq_ok.mp h
      cases h
      have hnotices := htold htell
      exact ⟨_, hnotices, hharmless _⟩
    · cases h
      exact ⟨[], (List.append_nil _).symm, nofun⟩

/-- The answers are all that the read would block. -/
def WouldBlock (answers : List ReadAnswer) : Prop := ∀ a ∈ answers, a = .failure .eAgain

theorem sysRead_wouldBlock (howmuch : ℤ) {answers : List ReadAnswer} (h : WouldBlock answers) :
    (sysRead howmuch answers).1 = .failure .eAgain ∧ WouldBlock (sysRead howmuch answers).2 := by
  cases answers with
  | nil => exact ⟨rfl, nofun⟩
  | cons a answers =>
    obtain rfl := h a (List.mem_cons_self ..)
    exact ⟨rfl, fun a ha => h a (List.mem_cons_of_mem _ ha)⟩

/-- The dropping loop on a socket that has nothing. -/
theorem dropreadLoop_wouldBlock {fuel : ℕ} {d d' : DropRead} (h : WouldBlock d.answers)
    (hloop : dropreadLoop (χ := χ) fuel d = .ok d') (herror : d.readError = none ∨
      d.readError = some .eAgain) :
    d'.droppedThisTime = d.droppedThisTime ∧ WouldBlock d'.answers ∧
      (d'.readError = none ∨ d'.readError = some .eAgain) := by
  induction fuel generalizing d with
  | zero => cases hloop
  | succ fuel ih =>
    rw [dropreadLoop] at hloop
    split at hloop
    · obtain ⟨hnone, hrest⟩ := sysRead_wouldBlock
        (min d.drop.numRemaining dropBufSize : ℕ) h
      dsimp only at hloop
      split at hloop
      · next b bs rest hread =>
        rw [hread] at hnone
        cases hnone
      · next f rest hread =>
        rw [hread] at hnone hrest
        cases hnone
        exact ih (d := { d with maybeTheresMore := false, readError := some .eAgain, answers := rest })
          hrest hloop (.inr rfl)
    · cases hloop
      exact ⟨rfl, h, herror⟩

/-- What the dropping part of a read event comes to. -/
theorem maybeDropread_outcome {answers rest : List ReadAnswer} {more : Bool}
    (h : maybeDropread o inShadow answers s = .ok (s', more, rest)) :
    ∃ quiet last, Outcome inShadow s s' quiet last ∧ last ≠ [.newReadDataAvailable] ∧
      (more = true → last = []) ∧ (WouldBlock answers → last = [] ∧ WouldBlock rest) := by
  obtain ⟨d, bs, hloop, hd⟩ := dropread_spec (χ := χ) s.ch.inputDrop answers
  rw [maybeDropread, hloop, ok_bind] at h
  obtain ⟨s₁, hnotify, h⟩ := bind_eq_ok.mp h
  obtain ⟨s₂, hhandle, h⟩ := bind_eq_ok.mp h
  cases h
  -- the bytes that are dropped are told of without ending anything
  obtain ⟨quiet, hquiet, hharmless⟩ : ∃ quiet, s₁.notices = s.notices ++ quiet ∧
      ∀ n ∈ quiet, n.Harmless := by
    split at hnotify
    · cases hnotify
      exact ⟨[], (List.append_nil _).symm, nofun⟩
    · exact notifyDropped_tells (s := s.dropped d) hnotify
  cases herror : d.readError with
  | none =>
    rw [herror] at hhandle
    cases hhandle
    refine ⟨quiet, [], ⟨?_, hharmless, .inl rfl⟩, nofun, fun _ => rfl, fun hblock => ⟨rfl, ?_⟩⟩
    · rw [List.append_nil]
      exact hquiet
    · exact (dropreadLoop_wouldBlock hblock hloop (.inl rfl)).2.1
  | some f =>
    rw [herror] at hhandle
    -- the error that ended the loop is handled behind them
    obtain ⟨last, hout, hne, hagain⟩ := handle_outcome hhandle
    refine ⟨quiet, last, ⟨?_, hharmless, hout.last⟩, hne, fun hmore => ?_, fun hblock => ?_⟩
    · rw [hout.notices, hquiet, List.nil_append, List.append_assoc]
    · have hnone := (hd.more hmore).2
      rw [herror] at hnone
      cases hnone
    · obtain ⟨-, hrest, hnone | hsome⟩ := dropreadLoop_wouldBlock hblock hloop (.inl rfl)
      · rw [herror] at hnone
        cases hnone
      · rw [herror] at hsome
        exact ⟨hagain (Option.some_inj.mp hsome), hrest⟩

/-- What the read for the input buffer comes to. -/
theorem evbufferRead_outcome {answers : List ReadAnswer}
    (h : evbufferRead o inShadow answers s = .ok s') :
    ∃ last, Outcome inShadow s s' [] last ∧ (WouldBlock answers → last = []) := by
  obtain ⟨_, -, h⟩ := bind_eq_ok.mp h
  split at h
  · next b bs hread =>
    have hnever : ¬ WouldBlock answers := by
      intro hblock
      rw [(sysRead_wouldBlock _ hblock).1] at hread
      cases hread
    dsimp only at h
    split at h
    · exact ⟨[.newReadDataAvailable], ⟨(notify_tells h).1, nofun, .inr (.inl rfl)⟩,
        fun hblock => absurd hblock hnever⟩
    · cases h
      exact ⟨[], ⟨(List.append_nil _).symm, nofun, .inl rfl⟩, fun _ => rfl⟩
  · next f hread =>
    obtain ⟨last, hout, -, hagain⟩ := handle_outcome h
    refine ⟨last, hout, fun hblock => hagain ?_⟩
    rw [(sysRead_wouldBlock _ hblock).1] at hread
    cases hread
    rfl

theorem onSocketReadcb_outcome {answers : List ReadAnswer}
    (h : onSocketReadcb o inShadow answers s = .ok s') :
    ∃ quiet last, Outcome inShadow s s' quiet last ∧ (WouldBlock answers → last = []) := by
  obtain ⟨⟨s₁, more, rest⟩, hdrop, h⟩ := bind_eq_ok.mp h
  obtain ⟨quiet, last, hout, -, hmore, hblock⟩ := maybeDropread_outcome hdrop
  cases more with
  | true =>
    obtain rfl := hmore rfl
    obtain ⟨last, hout', hblock'⟩ := evbufferRead_outcome h
    refine ⟨quiet, last, ⟨?_, hout.harmless, hout'.last⟩, fun hall => hblock' (hblock hall).2⟩
    rw [hout'.notices, hout.notices, List.nil_append, List.append_nil, List.append_assoc]
  | false =>
    cases h
    exact ⟨quiet, last, hout, fun hall => (hblock hall).1⟩

/-- **One event**: what the observer is told, and that it is harmless if the socket is silent. -/
theorem step_outcome {e : SocketEvent ε} (h : Step o inShadow s e s') :
    ∃ quiet last, Outcome inShadow s s' quiet last ∧ (Silent e → last = []) := by
  obtain ⟨-, h⟩ := h
  cases e with
  | readable answers => exact onSocketReadcb_outcome h
  | timeout answers => exact onSocketReadcb_outcome h
  | writable answer =>
    cases answer with
    | accepts n =>
      rw [step, onSocketWritecb] at h
      dsimp only at h
      split at h
      · refine ⟨[.writtenData], [], ⟨(notify_tells h).1, ?_, .inl rfl⟩, fun _ => rfl⟩
        intro n hn
        rw [List.mem_singleton.mp hn]
        decide
      · cases h
        exact ⟨[], [], ⟨(List.append_nil _).symm, nofun, .inl rfl⟩, fun _ => rfl⟩
    | failure f =>
      obtain ⟨last, hout, -, hagain⟩ := handle_outcome h
      exact ⟨[], last, hout, fun hsilent => hagain hsilent⟩
  | act e =>
    obtain ⟨r, -, h⟩ := bind_eq_ok.mp h
    cases h
    refine ⟨[], [], ⟨?_, nofun, .inl rfl⟩, fun _ => rfl⟩
    rw [notices_respond, List.append_nil, List.append_nil]

/-! ### The end is told once -/

/-- The observer has been told of the end at most once, and a build without `IN_SHADOW` has then closed
the channel. -/
def ToldOnce (inShadow : Bool) (s : Conn σ) : Prop :=
  Once s.notices ∧ (inShadow = false → s.Ended → s.closed = true)

theorem ToldOnce.step {e : SocketEvent ε} (h : ToldOnce inShadow s) (honce : EndsOnce inShadow s e)
    (hstep : Step o inShadow s e s') : ToldOnce inShadow s' := by
  obtain ⟨quiet, last, hout, hsilent⟩ := step_outcome hstep
  have hopen := closed_of_enabled hstep.1
  -- after an end the event tells of harmless things only
  have hafter : s.Ended → last = [] := by
    intro hended
    cases hshadow : inShadow with
    | true => exact hsilent (honce hshadow hended)
    | false => exact absurd ((h.2 hshadow hended).symm.trans hopen) (by decide)
  have hlast : Once (quiet ++ last) := by
    refine once_append (once_of_not_terminal (not_terminal_of_harmless hout.harmless)) ?_ ?_
    · rcases hout.last with rfl | rfl | ⟨n, -, rfl, -⟩
      · exact List.Pairwise.nil
      · exact List.pairwise_singleton ..
      · exact List.pairwise_singleton ..
    · rintro ⟨n, hn, hterm⟩
      exact absurd hterm (hout.harmless n hn).1
  refine ⟨?_, fun hshadow hended => ?_⟩
  · rw [hout.notices]
    refine once_append h.1 hlast fun hended m hm => ?_
    rw [hafter hended, List.append_nil] at hm
    exact hout.harmless m hm
  · obtain ⟨n, hn, hterm⟩ := hended
    rw [hout.notices, List.mem_append, List.mem_append] at hn
    rcases hn with hn | hn | hn
    · exact absurd ((h.2 hshadow ⟨n, hn, hterm⟩).symm.trans hopen) (by decide)
    · exact absurd hterm (hout.harmless n hn).1
    · rcases hout.last with rfl | rfl | ⟨m, -, -, hclosed⟩
      · cases hn
      · rw [List.mem_singleton.mp hn] at hterm
        exact absurd hterm (by decide)
      · exact hclosed hshadow

theorem once_of_run {s₀ : Conn σ} {es : List (SocketEvent ε)} (hnone : s₀.notices = [])
    (hrun : Run (Guarded (EndsOnce inShadow) (Step o inShadow)) s₀ es s) : ToldOnce inShadow s := by
  refine hrun.invariant (fun t e t' h hstep => h.step hstep.1 hstep.2) ⟨?_, fun _ hended => ?_⟩
  · rw [hnone]
    exact List.Pairwise.nil
  · obtain ⟨n, hn, -⟩ := hended
    rw [hnone] at hn
    cases hn

/-- What has been told stays told. -/
theorem Ended.step {e : SocketEvent ε} (h : s.Ended) (hstep : Step o inShadow s e s') :
    s'.Ended := by
  obtain ⟨n, hn, hterm⟩ := h
  obtain ⟨quiet, last, hout, -⟩ := step_outcome hstep
  refine ⟨n, ?_, hterm⟩
  rw [hout.notices]
  exact List.mem_append_left _ hn

/-! ### An assertion of the observer -/

/-- An assertion `x` of the observer which holds as long as its state is one of `U`: only an end makes it
leave these states, and harmless notices never fail it. -/
structure Guards (o : SocketUser χ σ ε) (x : χ) (U : σ → Prop) : Prop where
  safe : ∀ {n ch u}, U u ∨ n.Harmless → o.notify n ch u ≠ .error x
  keeps : ∀ {n ch u r}, ¬ n.IsTerminal → U u → o.notify n ch u = .ok r → U r.1
  act_safe : ∀ {e ch u}, o.act e ch u ≠ .error x
  act_keeps : ∀ {e ch u r}, U u → o.act e ch u = .ok r → U r.1

variable {x : χ} {U : σ → Prop}

theorem user_respond (r : σ × Option TcpChannel) (s : Conn σ) : (s.respond r).user = r.1 := by
  obtain ⟨u, r⟩ := r
  cases r with
  | none => rfl
  | some ch' =>
    rw [respond]
    dsimp only
    split <;> rfl

theorem ne_error_of_mapError {α : Type} {y : Except χ α} (h : y ≠ .error x) :
    y.mapError SocketCheck.user ≠ .error (.user x) := by
  intro heq
  cases y with
  | ok a => cases heq
  | error e =>
    cases heq
    exact h rfl

theorem Guards.notify_ne (hg : Guards o x U) {n : Notice} (h : U s.user ∨ n.Harmless) :
    notify o n s ≠ .error (.user x) := by
  intro herr
  rcases bind_eq_error.mp herr with herr | ⟨r, -, herr⟩
  · exact ne_error_of_mapError (hg.safe h) herr
  · cases herr

theorem Guards.notify_keeps (hg : Guards o x U) {n : Notice} (hterm : ¬ n.IsTerminal)
    (hu : U s.user) (h : notify o n s = .ok s') : U s'.user := by
  obtain ⟨r, hr, h⟩ := bind_eq_ok.mp h
  cases h
  rw [user_respond]
  exact hg.keeps hterm hu (eq_ok_of_mapError hr)

/-- Then the state is still one of `U`, or the end has been told. -/
theorem Guards.notify_keeps_or (hg : Guards o x U) {n : Notice} (hu : U s.user)
    (h : notify o n s = .ok s') : U s'.user ∨ s'.Ended := by
  by_cases hterm : n.IsTerminal
  · refine .inr ⟨n, ?_, hterm⟩
    rw [(notify_tells h).1]
    exact List.mem_append_right _ (List.mem_singleton_self n)
  · exact .inl (hg.notify_keeps hterm hu h)

theorem Guards.handle_ne (hg : Guards o x U) {f : IoFailure} (hu : U s.user ∨ f = .eAgain) :
    handleNonSuccessfulSocketIo o inShadow f s ≠ .error (.user x) := by
  have huser : (if inShadow then s else s.close).user = s.user := by
    cases inShadow <;> rfl
  cases f with
  | eAgain => nofun
  | eInProgress => nofun
  | eof =>
    refine hg.notify_ne (.inl ?_)
    rw [huser]
    exact hu.resolve_right nofun
  | errno =>
    refine hg.notify_ne (.inl ?_)
    rw [huser]
    exact hu.resolve_right nofun

theorem Guards.handle_keeps (hg : Guards o x U) {f : IoFailure} (hu : U s.user)
    (h : handleNonSuccessfulSocketIo o inShadow f s = .ok s') : U s'.user ∨ s'.Ended := by
  have huser : U (if inShadow then s else s.close).user := by
    cases inShadow <;> exact hu
  cases f with
  | eAgain =>
    cases h
    exact .inl hu
  | eInProgress => cases h
  | eof => exact hg.notify_keeps_or huser h
  | errno => exact hg.notify_keeps_or huser h

theorem harmless_inputBytesDropped (len : ℕ) : (Notice.inputBytesDropped len).Harmless := by
  refine ⟨?_, nofun⟩
  rintro (hterm | hterm) <;> cases hterm

theorem Guards.tellDropped_ne (hg : Guards o x U) {m : ℕ} : tellDropped o m s ≠ .error (.user x) :=
  hg.notify_ne (.inr (harmless_inputBytesDropped m))

theorem Guards.tellDropped_keeps (hg : Guards o x U) {m : ℕ} (hu : U s.user)
    (h : tellDropped o m s = .ok s') : U s'.user :=
  hg.notify_keeps (s := s.logTold m) (harmless_inputBytesDropped m).1 hu h

theorem Guards.notifyDropped_ne (hg : Guards o x U) {len : ℕ} :
    notifyDropped o len s ≠ .error (.user x) := by
  intro herr
  rw [notifyDropped] at herr
  split at herr
  · rcases bind_eq_error.mp herr with herr | ⟨t, -, herr⟩
    · exact hg.tellDropped_ne herr
    · cases herr
  · split at herr
    · rcases bind_eq_error.mp herr with herr | ⟨t, -, herr⟩
      · exact hg.tellDropped_ne herr
      · cases herr
    · cases herr

theorem Guards.notifyDropped_keeps (hg : Guards o x U) {len : ℕ} (hu : U s.user)
    (h : notifyDropped o len s = .ok s') : U s'.user := by
  rw [notifyDropped] at h
  split at h
  · obtain ⟨t, htell, h⟩ := bind_eq_ok.mp h
    cases h
    have hut := hg.tellDropped_keeps hu htell
    split <;> exact hut
  · split at h
    · obtain ⟨t, htell, h⟩ := bind_eq_ok.mp h
      cases h
      have hut := hg.tellDropped_keeps hu htell
      exact hut
    · cases h
      exact hu

/-- A read event: the state is still one of `U` after what the dropping loop has told. -/
theorem Guards.told_keeps (hg : Guards o x U) {d : DropRead} (hu : U s.user)
    (h : (if d.droppedThisTime = [] then .ok (s.dropped d)
      else notifyDropped o d.droppedThisTime.length (s.dropped d)) = .ok s') : U s'.user := by
  split at h
  · cases h
    exact hu
  · exact hg.notifyDropped_keeps (s := s.dropped d) hu h

theorem Guards.maybeDropread_ne (hg : Guards o x U) {answers : List ReadAnswer}
    (hu : U s.user ∨ WouldBlock answers) :
    maybeDropread o inShadow answers s ≠ .error (.user x) := by
  obtain ⟨d, bs, hloop, hd⟩ := dropread_spec (χ := χ) s.ch.inputDrop answers
  rw [maybeDropread, hloop, ok_bind]
  intro herr
  rcases bind_eq_error.mp herr with herr | ⟨t, ht, herr⟩
  · split at herr
    · cases herr
    · exact hg.notifyDropped_ne herr
  · rcases bind_eq_error.mp herr with herr | ⟨t', -, herr⟩
    · cases herror : d.readError with
      | none =>
        rw [herror] at herr
        cases herr
      | some f =>
        rw [herror] at herr
        refine hg.handle_ne (hu.imp (fun hu => hg.told_keeps hu ht) fun hblock => ?_) herr
        obtain ⟨-, -, hnone | hsome⟩ := dropreadLoop_wouldBlock hblock hloop (.inl rfl)
        · rw [herror] at hnone
          cases hnone
        · rw [herror] at hsome
          exact Option.some_inj.mp hsome
    · cases herr

theorem Guards.maybeDropread_keeps (hg : Guards o x U) {answers rest : List ReadAnswer} {more : Bool}
    (hu : U s.user) (h : maybeDropread o inShadow answers s = .ok (s', more, rest)) :
    (more = true → U s'.user) ∧ (U s'.user ∨ s'.Ended) := by
  obtain ⟨d, bs, hloop, hd⟩ := dropread_spec (χ := χ) s.ch.inputDrop answers
  rw [maybeDropread, hloop, ok_bind] at h
  obtain ⟨t, ht, h⟩ := bind_eq_ok.mp h
  obtain ⟨t', hhandle, h⟩ := bind_eq_ok.mp h
  cases h
  have hut := hg.told_keeps hu ht
  cases herror : d.readError with
  | none =>
    rw [herror] at hhandle
    cases hhandle
    exact ⟨fun _ => hut, .inl hut⟩
  | some f =>
    rw [herror] at hhandle
    refine ⟨fun hmore => ?_, hg.handle_keeps hut hhandle⟩
    have hnone := (hd.more hmore).2
    rw [herror] at hnone
    cases hnone

theorem Guards.evbufferRead_ne (hg : Guards o x U) {answers : List ReadAnswer}
    (hu : U s.user ∨ WouldBlock answers) : evbufferRead o inShadow answers s ≠ .error (.user x) := by
  intro herr
  rcases bind_eq_error.mp herr with herr | ⟨_, -, herr⟩
  · cases (check_eq_error.mp herr).2
  · split at herr
    · next b bs hread =>
      dsimp only at herr
      split at herr
      · refine hg.notify_ne (s := s.append (b :: bs)) (.inl ?_) herr
        refine hu.resolve_right fun hblock => ?_
        rw [(sysRead_wouldBlock _ hblock).1] at hread
        cases hread
      · cases herr
    · next f hread =>
      refine hg.handle_ne (hu.imp_right fun hblock => ?_) herr
      rw [(sysRead_wouldBlock _ hblock).1] at hread
      cases hread
      rfl

theorem Guards.evbufferRead_keeps (hg : Guards o x U) {answers : List ReadAnswer} (hu : U s.user)
    (h : evbufferRead o inShadow answers s = .ok s') : U s'.user ∨ s'.Ended := by
  obtain ⟨_, -, h⟩ := bind_eq_ok.mp h
  split at h
  · next b bs hread =>
    dsimp only at h
    split at h
    · exact hg.notify_keeps_or (s := s.append (b :: bs)) hu h
    · cases h
      exact .inl hu
  · exact hg.handle_keeps hu h

theorem Guards.onSocketReadcb_ne (hg : Guards o x U) {answers : List ReadAnswer}
    (hu : U s.user ∨ WouldBlock answers) :
    onSocketReadcb o inShadow answers s ≠ .error (.user x) := by
  intro herr
  rcases bind_eq_error.mp herr with herr | ⟨⟨t, more, rest⟩, ht, herr⟩
  · exact hg.maybeDropread_ne hu herr
  · cases more with
    | false => cases herr
    | true =>
      refine hg.evbufferRead_ne (hu.imp (fun hu => (hg.maybeDropread_keeps hu ht).1 rfl) ?_) herr
      obtain ⟨quiet, last, -, -, -, hblock⟩ := maybeDropread_outcome ht
      exact fun hall => (hblock hall).2

theorem Guards.onSocketReadcb_keeps (hg : Guards o x U) {answers : List ReadAnswer} (hu : U s.user)
    (h : onSocketReadcb o inShadow answers s = .ok s') : U s'.user ∨ s'.Ended := by
  obtain ⟨⟨t, more, rest⟩, ht, h⟩ := bind_eq_ok.mp h
  obtain ⟨hmore, hor⟩ := hg.maybeDropread_keeps hu ht
  cases more with
  | false =>
    cases h
    exact hor
  | true => exact hg.evbufferRead_keeps (hmore rfl) h

/-- **One event** does not fail the assertion, if the state is one of `U` or the socket is silent. -/
theorem Guards.step_ne (hg : Guards o x U) {e : SocketEvent ε} (hu : U s.user ∨ Silent e) :
    step o inShadow s e ≠ .error (.user x) := by
  cases e with
  | readable answers => exact hg.onSocketReadcb_ne hu
  | timeout answers => exact hg.onSocketReadcb_ne hu
  | writable answer =>
    cases answer with
    | accepts n =>
      rw [step, onSocketWritecb]
      dsimp only
      split
      · exact hg.notify_ne (.inr (by decide))
      · nofun
    | failure f => exact hg.handle_ne hu
  | act e =>
    intro herr
    rcases bind_eq_error.mp herr with herr | ⟨r, -, herr⟩
    · exact ne_error_of_mapError hg.act_safe herr
    · cases herr

/-- After it the state is one of `U`, or the observer has been told of the end. -/
theorem Guards.step_keeps (hg : Guards o x U) {e : SocketEvent ε} (hu : U s.user)
    (h : step o inShadow s e = .ok s') : U s'.user ∨ s'.Ended := by
  cases e with
  | readable answers => exact hg.onSocketReadcb_keeps hu h
  | timeout answers => exact hg.onSocketReadcb_keeps hu h
  | writable answer =>
    cases answer with
    | accepts n =>
      rw [step, onSocketWritecb] at h
      dsimp only at h
      split at h
      · exact hg.notify_keeps_or (s := { s with ch := { s.ch with
          outputEvb := s.ch.outputEvb.drop n } }) hu h
      · cases h
        exact .inl hu
    | failure f => exact hg.handle_keeps hu h
  | act e =>
    obtain ⟨r, hr, h⟩ := bind_eq_ok.mp h
    cases h
    rw [user_respond]
    exact .inl (hg.act_keeps hu (eq_ok_of_mapError hr))

/-- **The assertion never fails**, in a run whose socket has nothing to tell after its end. -/
theorem Guards.never_fails (hg : Guards o x U) {s₀ : Conn σ} {es : List (SocketEvent ε)}
    {e : SocketEvent ε} (hnone : s₀.notices = []) (hu : U s₀.user)
    (hrun : Run (Guarded (EndsOnce inShadow) (Step o inShadow)) s₀ es s)
    (hen : Enabled inShadow s e) (honce : EndsOnce inShadow s e) :
    step o inShadow s e ≠ .error (.user x) := by
  have htold := once_of_run hnone hrun
  have hor : U s.user ∨ s.Ended := by
    refine hrun.invariant (P := fun s => U s.user ∨ s.Ended) ?_ (.inl hu)
    rintro t e t' (hu | hended) ⟨-, hstep⟩
    · exact hg.step_keeps hu hstep.2
    · exact .inr (hended.step hstep)
  refine hg.step_ne (hor.imp_right fun hended => ?_)
  -- a build that closes the channel has closed it by now
  cases hshadow : inShadow with
  | true => exact honce hshadow hended
  | false => exact absurd ((htold.2 hshadow hended).symm.trans (closed_of_enabled hen)) (by decide)

end Conn

/-! ### The handler as the observer -/

namespace Forwarding

open Streams

/-- What happens to the inner stream of a handler. -/
inductive InnerEvent
  | innerData (bs : List UInt8)
  | innerEof
  | innerReads (length : ℕ)
  | streamReset
  deriving DecidableEq, Repr

/-- As an event of the handler. -/
def InnerEvent.toForward : InnerEvent → ForwardEvent
  | .innerData bs => .innerData bs
  | .innerEof => .innerEof
  | .innerReads length => .innerReads length
  | .streamReset => .streamReset

namespace Forwarder

open Conn (EndsOnce once_of_run)

variable {f f' : Forwarder} {inShadow : Bool}

/-- The handler, and what it has made of the outer channel: none, if its owner has closed that. -/
def handBack (f : Forwarder) : Forwarder × Option TcpChannel :=
  (f, if f.outerOpen then some f.outer else none)

/-- A notification of the outer channel `ch`.  The handler asks for no bytes to be dropped. -/
def told (inShadow : Bool) (n : Notice) (ch : TcpChannel) (f : Forwarder) :
    Except ForwardCheck Forwarder :=
  let f := { f with outer := ch }
  match n with
  | .newReadDataAvailable => do
    let f ← f.onNewReadDataAvailable ch.inputEvb
    return { f with outer := ch.drain ch.inputEvb.length }
  | .writtenData => f.onWrittenData
  | .inputBytesDropped _ => .ok f
  | .eof => f.onEOF inShadow
  | .error => f.onError

/-- An event of the inner stream, if it can happen. -/
def innerStep (inShadow : Bool) (e : InnerEvent) (ch : TcpChannel) (f : Forwarder) :
    Except ForwardCheck Forwarder :=
  let f := { f with outer := ch }
  if Enabled f e.toForward then step inShadow f e.toForward else .ok f

/-- What one call makes of the outer channel: nothing, or a write, or it is closed.  What the stream has
been told of its end is as before. -/
structure Calls (f f' : Forwarder) : Prop where
  outer : f'.outerOpen = true → f.outerOpen = true ∧ TcpChannel.Calls f.outer f'.outer
  seenEof : f'.stream.state.inwardHasSeenEof = f.stream.state.inwardHasSeenEof

theorem Calls.refl (f : Forwarder) : Calls f f := ⟨fun h => ⟨h, .refl⟩, rfl⟩

theorem Calls.trans {f₁ : Forwarder} (h : Calls f f₁) (h' : Calls f₁ f') : Calls f f' := by
  refine ⟨fun hopen => ?_, h'.seenEof.trans h.seenEof⟩
  obtain ⟨hopen₁, hcalls'⟩ := h'.outer hopen
  obtain ⟨hopen₀, hcalls⟩ := h.outer hopen₁
  exact ⟨hopen₀, hcalls.trans hcalls'⟩

theorem resume_state {st st' : Stream} (h : st.resume = .ok st') :
    st'.state.inwardHasSeenEof = st.state.inwardHasSeenEof := by
  rw [Stream.resume] at h
  split at h
  · obtain ⟨_, -, h⟩ := bind_eq_ok.mp h
    cases h
    rfl
  · cases h
    rfl

/-- Only `set_write_eof` has an assertion about the end of a stream. -/
theorem resume_avoids (st : Stream) : Avoids .eofTwice st.resume := by
  rw [Stream.resume]
  refine .ite (fun _ => ?_) fun _ => .ok
  exact .check_bind (by decide) fun _ => .ok

theorem Avoids.mapError_stream {α : Type} {x : Except StreamCheck α} (h : Avoids .eofTwice x) :
    Avoids (.stream .eofTwice) (x.mapError ForwardCheck.stream) := by
  intro herr
  cases x with
  | ok a => cases herr
  | error e =>
    cases herr
    exact h rfl

/-- The owner closes, for the first time. -/
theorem close_of_open (h : f.ownerClosed = false) :
    f.close.outerOpen = false ∧ f.close.stream = f.stream := by
  rw [close, if_neg (by simpa using h)]
  dsimp only
  split <;> exact ⟨rfl, rfl⟩

theorem onInnerOuterHandlerDone_calls {b : Bool} (h : f.onInnerOuterHandlerDone b = .ok f') :
    Calls f f' := by
  obtain ⟨_, hcheck, h⟩ := bind_eq_ok.mp h
  have hopen := check_eq_ok.mp hcheck
  have hgone : f'.outerOpen = false ∧ f'.stream = f.stream := by
    cases b with
    | true =>
      cases h
      exact close_of_open (f := { f with bufloChannel := false }) hopen
    | false =>
      cases h
      exact close_of_open hopen
  refine ⟨fun h => ?_, by rw [hgone.2]⟩
  rw [hgone.1] at h
  cases h

theorem beDone_calls {b : Bool} (h : f.beDone b = .ok f') : Calls f f' := by
  have hcalls := onInnerOuterHandlerDone_calls h
  cases b <;> exact ⟨hcalls.outer, hcalls.seenEof⟩

theorem beDone_avoids (b : Bool) (f : Forwarder) : Avoids (.stream .eofTwice) (f.beDone b) := by
  rw [beDone, onInnerOuterHandlerDone]
  refine .check_bind (by decide) fun _ => ?_
  exact .ite (fun _ => .ok) fun _ => .ok

theorem onStreamClose_calls (h : f.onStreamClose = .ok f') : Calls f f' := by
  rw [onStreamClose] at h
  dsimp only at h
  split at h
  · have hcalls := beDone_calls h
    exact ⟨hcalls.outer, hcalls.seenEof⟩
  · cases h
    exact ⟨fun h => ⟨h, .refl⟩, rfl⟩

theorem onStreamClose_avoids (f : Forwarder) : Avoids (.stream .eofTwice) f.onStreamClose :=
  .ite (fun _ => beDone_avoids true _) fun _ => .ok

theorem closeIfShut_calls (h : f.closeIfShut = .ok f') : Calls f f' := by
  rw [closeIfShut] at h
  split at h
  · exact onStreamClose_calls h
  · cases h
    exact .refl f

theorem closeIfShut_avoids (f : Forwarder) : Avoids (.stream .eofTwice) f.closeIfShut :=
  .ite (fun _ => onStreamClose_avoids f) fun _ => .ok

/-- The end of the stream is recorded, once. -/
theorem onDataRecvFin_calls (h : f.onDataRecvFin = .ok f') : Calls f f' := by
  obtain ⟨_, -, h⟩ := bind_eq_ok.mp h
  dsimp only at h
  split at h
  · obtain ⟨_, -, h⟩ := bind_eq_ok.mp h
    cases h
    exact ⟨fun h => ⟨h, .refl⟩, rfl⟩
  · cases h
    exact ⟨fun h => ⟨h, .refl⟩, rfl⟩

theorem onDataRecvFin_avoids (f : Forwarder) : Avoids (.stream .eofTwice) f.onDataRecvFin := by
  refine .check_bind (by decide) fun _ => .ite (fun _ => ?_) fun _ => .ok
  exact .check_bind (by decide) fun _ => .ok

theorem seenEof_read (length : ℕ) (st : Stream) :
    (st.read length).state.inwardHasSeenEof = st.state.inwardHasSeenEof := by
  rw [Stream.read, onSpdylayDataReadCb]
  dsimp only
  split
  · rfl
  · split <;> rfl

/-- An event of the inner stream. -/
theorem step_calls {e : InnerEvent} (h : step inShadow f e.toForward = .ok f') : Calls f f' := by
  cases e with
  | innerData bs =>
    cases h
    rw [onDataChunkRecv]
    dsimp only
    split
    · exact ⟨fun h => ⟨h, .single (.write _)⟩, rfl⟩
    · exact ⟨fun h => ⟨h, .refl⟩, rfl⟩
  | innerEof =>
    obtain ⟨f₁, hfin, h⟩ := bind_eq_ok.mp h
    exact (onDataRecvFin_calls hfin).trans (closeIfShut_calls h)
  | innerReads length =>
    have hshut := closeIfShut_calls h
    exact ⟨hshut.outer, hshut.seenEof.trans (seenEof_read length f.stream)⟩
  | streamReset => exact onStreamClose_calls h

theorem step_avoids (e : InnerEvent) :
    Avoids (.stream .eofTwice) (step inShadow f e.toForward) := by
  cases e with
  | innerData bs => exact .ok
  | innerEof => exact .bind (onDataRecvFin_avoids f) fun f' _ => closeIfShut_avoids f'
  | innerReads length => exact closeIfShut_avoids _
  | streamReset => exact onStreamClose_avoids f

/-- A notification that is no end, or that closes the channel. -/
theorem told_calls {n : Notice} {ch : TcpChannel} (h : told inShadow n ch f = .ok f') :
    (f'.outerOpen = true → TcpChannel.Calls ch f'.outer) ∧
      (¬ n.IsTerminal → f'.stream.state.inwardHasSeenEof = f.stream.state.inwardHasSeenEof) := by
  have hdone : ∀ {b : Bool}, beDone b { f with outer := ch } = .ok f' →
      (f'.outerOpen = true → TcpChannel.Calls ch f'.outer) ∧
        (¬ n.IsTerminal → f'.stream.state.inwardHasSeenEof = f.stream.state.inwardHasSeenEof) :=
    fun h => ⟨fun hopen => ((beDone_calls h).outer hopen).2, fun _ => (beDone_calls h).seenEof⟩
  cases n with
  | newReadDataAvailable =>
    obtain ⟨f₁, hnew, h⟩ := bind_eq_ok.mp h
    cases h
    refine ⟨fun _ => .single (.drain _), fun _ => ?_⟩
    obtain ⟨_, -, hnew⟩ := bind_eq_ok.mp hnew
    obtain ⟨st, hst, hnew⟩ := bind_eq_ok.mp hnew
    cases hnew
    have hseen := resume_state (eq_ok_of_mapError hst)
    exact hseen
  | writtenData =>
    obtain ⟨_, -, h⟩ := bind_eq_ok.mp h
    split at h
    · exact hdone h
    · cases h
      exact ⟨fun _ => .refl, fun _ => rfl⟩
  | inputBytesDropped len =>
    cases h
    exact ⟨fun _ => .refl, fun _ => rfl⟩
  -- the end is passed on, or ends the forwarding when both sides have it
  | eof =>
    refine ⟨fun hopen => ?_, fun hterm => absurd (.inl rfl) hterm⟩
    rw [told, onEOF] at h
    split at h
    · split at h
      · obtain ⟨st, -, h⟩ := bind_eq_ok.mp h
        cases h
        exact .refl
      · cases h
        exact .refl
    · exact (hdone h).1 hopen
  | error => exact hdone h

/-- The end of the stream is not set twice, as long as the stream has not been told. -/
theorem told_avoids {n : Notice} {ch : TcpChannel}
    (h : f.stream.state.inwardHasSeenEof = false ∨ n.Harmless) :
    Avoids (.stream .eofTwice) (told inShadow n ch f) := by
  cases n with
  | newReadDataAvailable =>
    refine .bind (.check_bind (by decide) fun _ => ?_) fun _ _ => .ok
    exact .bind (Avoids.mapError_stream (resume_avoids _)) fun _ _ => .ok
  | writtenData =>
    exact .check_bind (by decide) fun _ => .ite (fun _ => beDone_avoids false _) fun _ => .ok
  | inputBytesDropped len => exact .ok
  | eof =>
    have hunseen := h.resolve_right fun hharmless => hharmless.1 (.inl rfl)
    refine .ite (fun _ => .ite (fun _ => ?_) fun _ => .ok) fun _ => beDone_avoids false _
    refine .bind (Avoids.mapError_stream ?_) fun _ _ => .ok
    exact .check_bind_of hunseen (resume_avoids _)
  | error => exact beDone_avoids false _

theorem innerStep_calls {e : InnerEvent} {ch : TcpChannel} (h : innerStep inShadow e ch f = .ok f') :
    Calls { f with outer := ch } f' := by
  rw [innerStep] at h
  split at h
  · exact step_calls h
  · cases h
    exact .refl _

theorem innerStep_avoids (e : InnerEvent) (ch : TcpChannel) (f : Forwarder) :
    Avoids (.stream .eofTwice) (innerStep inShadow e ch f) :=
  .ite (fun _ => step_avoids e) fun _ => .ok

theorem eq_ok_of_handBack {x : Except ForwardCheck Forwarder} {r : Forwarder × Option TcpChannel}
    (h : x.map handBack = .ok r) : x = .ok r.1 ∧ ∀ ch', r.2 = some ch' →
      r.1.outerOpen = true ∧ ch' = r.1.outer := by
  cases x with
  | error e => cases h
  | ok f₁ =>
    cases h
    refine ⟨rfl, fun ch' hch => ?_⟩
    rw [handBack] at hch
    dsimp only at hch
    split at hch
    · next hopen => exact ⟨hopen, (Option.some_inj.mp hch).symm⟩
    · cases hch

theorem Avoids.map_handBack {e : ForwardCheck} {x : Except ForwardCheck Forwarder}
    (h : Avoids e x) : Avoids e (x.map handBack) := by
  intro herr
  cases x with
  | ok f₁ => cases herr
  | error e' =>
    cases herr
    exact h rfl

/-- `InnerOuterHandler`, with its owner and its inner stream, as the observer of the outer channel. -/
def innerOuter (inShadow : Bool) : SocketUser ForwardCheck Forwarder InnerEvent where
  notify n ch f := (told inShadow n ch f).map handBack
  act e ch f := (innerStep inShadow e ch f).map handBack
  notify_calls h := by
    obtain ⟨htold, hback⟩ := eq_ok_of_handBack h
    obtain ⟨hopen, houter⟩ := hback _ rfl
    rw [houter]
    exact (told_calls htold).1 hopen
  act_calls h := by
    obtain ⟨hstep, hback⟩ := eq_ok_of_handBack h
    obtain ⟨hopen, houter⟩ := hback _ rfl
    rw [houter]
    exact ((innerStep_calls hstep).outer hopen).2

/-- The assertion of `set_write_eof` holds as long as the stream has not been told of its end. -/
theorem innerOuter_guards (inShadow : Bool) :
    Conn.Guards (innerOuter inShadow) (.stream .eofTwice)
      fun f => f.stream.state.inwardHasSeenEof = false where
  safe h := Avoids.map_handBack (told_avoids h)
  keeps hterm hunseen h := ((told_calls (eq_ok_of_handBack h).1).2 hterm).trans hunseen
  act_safe {e ch f} := Avoids.map_handBack (innerStep_avoids e ch f)
  act_keeps hunseen h := (innerStep_calls (eq_ok_of_handBack h).1).seenEof.trans hunseen

/-- **One end.**  In every run of a channel, with any observer, in which the socket of a build with
`IN_SHADOW` has nothing to tell once the observer knows of its end: the observer is told of at
most one end, and of no new data after it.  So the handler, which calls `set_write_eof` when it is
told of `eof`, calls it at most once; and if its stream has not been told of its end before, no
event fails the assertion there. -/
theorem one_terminal (inShadow : Bool) :
    (∀ {χ σ ε : Type} {o : SocketUser χ σ ε} {s₀ s : Conn σ} {es : List (SocketEvent ε)},
      s₀.notices = [] → Run (Guarded (EndsOnce inShadow) (Conn.Step o inShadow)) s₀ es s →
      Once s.notices ∧ s.notices.countP (fun n => decide n.IsTerminal) ≤ 1) ∧
    ∀ {s₀ s : Conn Forwarder} {es : List (SocketEvent InnerEvent)},
      s₀.notices = [] → s₀.user.stream.state.inwardHasSeenEof = false →
      Run (Guarded (EndsOnce inShadow) (Conn.Step (innerOuter inShadow) inShadow)) s₀ es s →
      s.notices.count .eof ≤ 1 ∧ ∀ e, Conn.Enabled inShadow s e → EndsOnce inShadow s e →
        Conn.step (innerOuter inShadow) inShadow s e ≠ .error (.user (.stream .eofTwice)) := by
  refine ⟨fun hnone hrun => ?_, fun hnone hunseen hrun => ⟨?_, fun e hen honce => ?_⟩⟩
  · have honce := (once_of_run hnone hrun).1
    exact ⟨honce, honce.count_le⟩
  · refine Nat.le_trans (List.countP_mono_left fun n _ heq => ?_) (once_of_run hnone hrun).1.count_le
    rw [beq_iff_eq.mp heq]
    rfl
  · exact (innerOuter_guards inShadow).never_fails hnone hunseen hrun hen honce

/-- **With `IN_SHADOW` the end comes twice**: the socket stays open after its end, and the next read event
finds the end again. -/
theorem one_terminal_reads_again : ¬ ∀ (inShadow : Bool) {s₀ s : Conn Forwarder}
    {es : List (SocketEvent InnerEvent)},
    s₀.notices = [] → s₀.user.stream.state.inwardHasSeenEof = false →
    Run (Conn.Step (innerOuter inShadow) inShadow) s₀ es s →
    Once s.notices ∧ ∀ e, Conn.Enabled inShadow s e →
      Conn.step (innerOuter inShadow) inShadow s e ≠ .error (.user (.stream .eofTwice)) := by
  intro h
  have hrun : Run (Conn.Step (innerOuter true) true) { user := {} } [.readable [.failure .eof]] _ :=
    .cons ⟨rfl, rfl⟩ (.nil _)
  exact (h true rfl rfl hrun).2 (.readable [.failure .eof]) rfl rfl

/-- The socket of a build with `IN_SHADOW` ends, and would block afterwards. -/
theorem one_terminal_blocks : ∃ s : Conn Forwarder,
    s.notices = [.newReadDataAvailable, .eof] ∧
    s.notices.countP (fun n => decide n.IsTerminal) ≤ 1 ∧
    Conn.step (innerOuter true) true s (.timeout []) ≠ .error (.user (.stream .eofTwice)) := by
  have hrun : ∃ s : Conn Forwarder, s.notices = [.newReadDataAvailable, .eof] ∧
      s.closed = false ∧
      Run (Guarded (EndsOnce true) (Conn.Step (innerOuter true) true)) { user := {} }
        [.readable [.bytes 1 []], .readable [.failure .eof], .timeout []] s := by
    refine ⟨_, ?_, ?_, .cons ⟨fun _ => ?_, rfl, rfl⟩ (.cons ⟨fun _ => ?_, rfl, rfl⟩
      (.cons ⟨fun _ _ => nofun, ⟨rfl, rfl⟩, rfl⟩ (.nil _)))⟩
    · rfl
    · rfl
    · rintro ⟨n, hn, -⟩
      cases hn
    · rintro ⟨n, hn, hterm⟩
      rw [List.mem_singleton.mp hn] at hterm
      exact absurd hterm (by decide)
  obtain ⟨s, hnotices, hopen, hrun⟩ := hrun
  exact ⟨s, hnotices, ((one_terminal true).1 rfl hrun).2,
    ((one_terminal true).2 rfl rfl hrun).2 _ ⟨hopen, rfl⟩ fun _ _ => nofun⟩

end Forwarder

end Forwarding

end ShadowBrowser
