/-
The driver and the client-side proxy together.

The driver's calls reach the proxy in the order in which they were made, after any
delay.  Between them the channel lives its own life: it reads and writes, its timer
ticks, clients send, the reaper fires.

* `lastSession_eq` — the defense state of a channel, from what has happened to it;
* **`arming_accepted_iff`** — in any reachable state, exactly when the proxy survives
  a call to arm its channel;
* **`arming_accepted_iff_running`** — a driver that arms while the session of the page
  before still runs.
-/
import ShadowBrowser.Arming
import ShadowBrowser.Driver

namespace ShadowBrowser

open Checked Runs

/-! ### The state of the session, from the journal -/

/-- What an entry of the journal says about the session. -/
def sessionAfter (st : DefenseState) : Act → DefenseState
  | .armed => .pendingNextSocketSend
  | .defenseBegun => .active
  | .defenseEnded => .none
  -- a session that has not begun is given up, one that runs goes on to its end
  | .stopCalled => if st = .active then .active else .none
  | _ => st

/-- Where the last session stands after all that has happened. -/
def lastSession (as : List Act) : DefenseState := as.foldl sessionAfter .none

/-- The entry says something about the session. -/
def Act.IsSession : Act → Prop
  | .armed | .defenseBegun | .defenseEnded | .stopCalled => True
  | _ => False

theorem foldl_sessionAfter {as : List Act} (h : ∀ a ∈ as, ¬ a.IsSession) (st : DefenseState) :
    as.foldl sessionAfter st = st := by
  induction as generalizing st with
  | nil => rfl
  | cons a as ih =>
    have hone : sessionAfter st a = st := by
      have ha := h a (by simp)
      cases a <;> first | rfl | exact absurd trivial ha
    rw [List.foldl_cons, hone]
    exact ih (fun b hb => h b (by simp [hb])) st

theorem lastSession_append {as bs : List Act} (h : ∀ b ∈ bs, ¬ b.IsSession) :
    lastSession (as ++ bs) = lastSession as := by
  rw [lastSession, List.foldl_append, foldl_sessionAfter h]
  rfl

@[simp] theorem lastSession_snoc (as : List Act) (a : Act) :
    lastSession (as ++ [a]) = sessionAfter (lastSession as) a := by
  simp [lastSession]

namespace Chan

variable {c c' : Chan}

theorem lastSession_putDefenseInfo (c : Chan) (d : DefenseInfo) :
    lastSession (c.putDefenseInfo d).journal = lastSession c.journal := by
  refine lastSession_append fun a ha => ?_
  obtain ⟨f, -, rfl⟩ := List.mem_map.mp ha
  exact id

theorem lastSession_endDefense (c : Chan) (b : Bool) :
    lastSession (c.endDefense b).journal = .none := by
  simp [endDefense, log, sessionAfter]

/-- **The journal tells the state of the session.** -/
theorem Micro.lastSession_eq (h : Micro c c')
    (hc : lastSession c.journal = c.defenseInfo.state) :
    lastSession c'.journal = c'.defenseInfo.state := by
  -- only a change of the defense state writes acts of a session
  rcases h with h | h | h
  · rw [h.state_eq, ← hc]
    cases h <;> first
      | rfl
      | exact lastSession_append (by simp [Act.IsSession])
  · cases h with
    | begun => simp [Chan.begun, sessionAfter]
    | armed =>
      show lastSession (c.journal ++ [.armed] ++ [.flagRaised .start]) = .pendingNextSocketSend
      rw [lastSession_snoc, lastSession_snoc]
      rfl
    | gaveUp _ h =>
      rw [gaveUp, lastSession_putDefenseInfo, log, lastSession_snoc, hc]
      simp [sessionAfter, h, putDefenseInfo, DefenseInfo.reset]
    | stopping h hr =>
      have hlog : lastSession (c.log .stopCalled).journal = .active := by
        simp [log, sessionAfter, hc, h]
      unfold Chan.stopping
      dsimp only
      split
      · rw [raiseFlag, lastSession_snoc, lastSession_putDefenseInfo, hlog]
        exact h.symm
      · rw [lastSession_putDefenseInfo, hlog]
        exact h.symm
    | finished h hr =>
      unfold Chan.finished
      dsimp only
      split
      · exact lastSession_endDefense c _
      · rw [raiseFlag, lastSession_snoc, lastSession_endDefense]
        rfl
    | autoStopped h hs =>
      rw [Chan.autoStopped, raiseFlag, lastSession_snoc, lastSession_endDefense]
      rfl
    | restarting h hr hc' hn =>
      rw [raiseFlag, lastSession_snoc, hc]
      rfl
  · obtain ⟨as, has, hall⟩ := h.journal
    have hneutral : ∀ a ∈ as, ¬ a.IsSession := by
      intro a ha
      have := hall a ha
      cases a <;> simp_all [Act.IsAside, Act.IsSession]
    rw [has, lastSession_append hneutral, hc, h.same]

theorem Reachable.lastSession_eq (h : Reachable c) :
    lastSession c.journal = c.defenseInfo.state :=
  h.of_closed (P := fun d => lastSession d.journal = d.defenseInfo.state)
    (fun c hest => by simp [hest.unused, hest.defense, lastSession, sessionAfter])
    fun _ _ hd hm => hm.lastSession_eq hd

/-- All that spdylay gave the channel has been written, and so have all cells. -/
structure Drained (c : Chan) : Prop where
  user : given c.journal = (keptCells c.journal).flatMap Cell.payload
  cells : written c.journal = (keptCells c.journal).flatMap (Cell.encode c.cellSize)

theorem OutBufferInv.drained_iff (h : OutBufferInv c) :
    Drained c ↔ c.spdyOutbuf = [] ∧ c.cellOutbuf = [] := by
  constructor
  · rintro ⟨huser, hcells⟩
    have hu := h.user
    have hb := h.bytes
    rw [huser] at hu
    rw [hcells] at hb
    exact ⟨List.self_eq_append_right.mp hu, List.append_right_eq_self.mp hb⟩
  · rintro ⟨hspdy, hcell⟩
    have hu := h.user
    have hb := h.bytes
    rw [hspdy, List.append_nil] at hu
    rw [hcell, List.append_nil] at hb
    exact ⟨hu, hb⟩

/-- **When a channel can be armed.** -/
theorem Reachable.mayArm_iff (h : Reachable c) (hcl : c.isClientSide = true) :
    c.MayArm ↔ lastSession c.journal = .none ∧ Drained c := by
  rw [h.lastSession_eq, h.outBufferInv.drained_iff]
  constructor
  · intro hmay
    exact ⟨hmay.state, hmay.spdyOutbuf, hmay.cellOutbuf⟩
  · rintro ⟨hstate, hspdy, hcell⟩
    exact ⟨hstate, hcl, hspdy, hcell, h.defenseInv.needStart_false hstate⟩

theorem setAutoStart_of_mayArm (h : c.MayArm) :
    c.setAutoStartDefenseSessionOnNextSend = .ok c.armed := by
  have hspdy : c.spdyOutbuf.length = 0 := by rw [h.spdyOutbuf, List.length_nil]
  have hcell : c.cellOutbuf.length = 0 := by rw [h.cellOutbuf, List.length_nil]
  rw [setAutoStartDefenseSessionOnNextSend, check_pos h.state, ok_bind, check_pos h.client, ok_bind,
    check_pos hspdy, ok_bind, check_pos hcell, ok_bind, check_pos h.needStart]
  rfl

end Chan

/-! ### The two processes -/

/-- The driver, the proxy and the time in microseconds. -/
structure Browsing where
  driver : Driver
  csp : ClientSideProxy
  clock : ℕ := 0
  deriving DecidableEq, Repr

/-- A check of the driver or of the proxy. -/
inductive BrowsingCheck
  | notEnabled
  | driver (k : DriverCheck)
  | csp (k : CspCheck)
  deriving DecidableEq, Repr

/-- The events of the driver and the proxy. -/
inductive BrowsingEvent
  | elapse (microseconds : ℕ)
  | driver (e : DriverEvent)
  /-- the proxy's IPC server handles the driver's oldest call -/
  | deliver
  | csp (e : CspEvent)
  deriving DecidableEq, Repr

/-- What the IPC server does about a call. -/
def TproxyCall.event : TproxyCall → CspEvent
  | .setAutoStartDefenseOnNextSend => .setAutoStartDefenseSessionOnNextSend
  | .stopDefense rightNow => .stopDefenseSession rightNow

/-- The event is a call of the driver. -/
def CspEvent.isCall : CspEvent → Bool
  | .setAutoStartDefenseSessionOnNextSend | .stopDefenseSession _ => true
  | _ => false

/-- The time of an event that has one agrees with the clock. -/
def CspEvent.happensAt (clock : ℕ) : CspEvent → Bool
  | .reapBufloChannelTimerFired nowMs => nowMs == clock / 1000
  | .bufloCh (.bufloTimerFired now _ _) => now == clock
  | .bufloCh (.socketWritable now _) => now == clock
  | .bufloCh (.socketReadable now _) => now == clock
  | _ => true

namespace Browsing

variable {s s' s₀ : Browsing}

/-- One step of the two processes. -/
def step (s : Browsing) : BrowsingEvent → Except BrowsingCheck Browsing
  | .elapse us => return { s with clock := s.clock + us }
  | .driver e => do
    let d ← (s.driver.step (s.clock / 1000) e).mapError .driver
    return { s with driver := d }
  | .deliver =>
    match s.driver.tproxyCalls with
    | [] => throw .notEnabled
    | call :: calls => do
      let csp ← (s.csp.step call.event).mapError .csp
      return { s with driver := { s.driver with tproxyCalls := calls }, csp }
  | .csp e => do
    check (e.isCall = false ∧ e.happensAt s.clock = true) .notEnabled
    let csp ← (s.csp.step e).mapError .csp
    return { s with csp }

/-- The steps of the two processes, as a relation. -/
def Step (s : Browsing) (e : BrowsingEvent) (s' : Browsing) : Prop := s.step e = .ok s'

/-- Two processes that have just been started. -/
structure Initial (s : Browsing) : Prop where
  driver : s.driver.state = .initial ∧ s.driver.tproxyCalls = []
  csp : s.csp.Initial

/-- What holds of the proxy alone holds of it here. -/
theorem Step.cspInv {e : BrowsingEvent} (hinv : s.csp.CspInv) (h : Step s e s') :
    s'.csp.CspInv := by
  unfold Step Browsing.step at h
  split at h
  · cases h
    exact hinv
  · obtain ⟨d, -, h⟩ := bind_eq_ok.mp h
    cases h
    exact hinv
  · split at h
    · cases h
    · obtain ⟨csp, hcsp, h⟩ := bind_eq_ok.mp h
      cases h
      exact hinv.step (eq_ok_of_mapError hcsp)
  · obtain ⟨_, -, h⟩ := bind_eq_ok.mp h
    obtain ⟨csp, hcsp, h⟩ := bind_eq_ok.mp h
    cases h
    exact hinv.step (eq_ok_of_mapError hcsp)

/-- The channel can be armed: every session armed on it so far is over, and all that was put
on it has been written. -/
def Idle (s : Browsing) : Prop :=
  ∃ c, s.csp.bufloCh = some c ∧ lastSession c.journal = .none ∧ c.Drained

/-- The proxy arms its channel or returns false. -/
theorem setAutoStart_returns_iff (hinv : s.csp.CspInv) :
    (∃ x, s.csp.setAutoStartDefenseSessionOnNextSend = .ok x) ↔
      0 < s.csp.bufloCellSize ∧ (s.csp.state = .ready → s.Idle) := by
  constructor
  · rintro ⟨x, hx⟩
    obtain ⟨_, hpos, hx⟩ := bind_eq_ok.mp hx
    have hpos' := check_eq_ok.mp hpos
    refine ⟨hpos', fun hready => ?_⟩
    rw [if_neg (not_not.mpr hready)] at hx
    split at hx
    · cases hx
    · next c hc =>
      obtain ⟨c', hcall, -⟩ := bind_eq_ok.mp hx
      obtain ⟨hmay, -⟩ := Chan.setAutoStartDefenseSessionOnNextSend_eq_ok
        (ClientSideProxy.callChannel_eq_ok hcall)
      obtain ⟨hr, hcl, -⟩ := hinv.ready c hc hready hpos'
      exact ⟨c, hc, (hr.mayArm_iff hcl).mp hmay⟩
  · rintro ⟨hpos, hidle⟩
    rw [ClientSideProxy.setAutoStartDefenseSessionOnNextSend, check_pos hpos, ok_bind]
    by_cases hready : s.csp.state = .ready
    · obtain ⟨c, hc, hlast, hdrained⟩ := hidle hready
      obtain ⟨hr, hcl, -⟩ := hinv.ready c hc hready hpos
      have hmay := (hr.mayArm_iff hcl).mpr ⟨hlast, hdrained⟩
      refine ⟨({ s.csp with bufloCh := some c.armed }, true), ?_⟩
      rw [if_neg (not_not.mpr hready), hc]
      simp only [Chan.setAutoStart_of_mayArm hmay]
      rfl
    · exact ⟨(s.csp, false), if_pos hready⟩

/-- **When arming is safe.**  In every state that the two processes can reach and in which
the driver's call to arm the channel is the next to be handled: the proxy arms its channel or
returns false if and only if it uses cells and, should it be ready, every session armed on its
channel so far is over and all that was put on the channel has been written.  Otherwise the
call aborts the proxy. -/
theorem arming_accepted_iff {es : List BrowsingEvent} {calls : List TproxyCall}
    (hinit : Initial s₀) (hrun : Run Step s₀ es s)
    (hcall : s.driver.tproxyCalls = .setAutoStartDefenseOnNextSend :: calls) :
    (∃ s', Step s .deliver s') ↔
      0 < s.csp.bufloCellSize ∧ (s.csp.state = .ready → s.Idle) := by
  have hinv : s.csp.CspInv :=
    hrun.invariant (P := fun t => t.csp.CspInv) (fun _ _ _ hi hstep => hstep.cspInv hi)
      hinit.csp.cspInv
  rw [← setAutoStart_returns_iff hinv]
  have hdeliver : s.step .deliver = (do
      let csp ← (s.csp.step .setAutoStartDefenseSessionOnNextSend).mapError BrowsingCheck.csp
      return { s with driver := { s.driver with tproxyCalls := calls }, csp }) := by
    simp only [step, hcall]
    rfl
  have hstep : s.csp.step .setAutoStartDefenseSessionOnNextSend =
      s.csp.setAutoStartDefenseSessionOnNextSend >>= fun x => .ok (x.1.log (.autoStart x.2)) := by
    have hen : s.csp.Enabled .setAutoStartDefenseSessionOnNextSend := trivial
    rw [ClientSideProxy.step, if_pos hen]
    rfl
  rw [show (∃ s', Step s .deliver s') ↔ ∃ s', s.step .deliver = .ok s' from Iff.rfl, hdeliver,
    hstep]
  constructor
  · rintro ⟨s', h⟩
    obtain ⟨csp, hcsp, -⟩ := bind_eq_ok.mp h
    obtain ⟨x, hx, -⟩ := bind_eq_ok.mp (eq_ok_of_mapError hcsp)
    exact ⟨x, hx⟩
  · rintro ⟨x, hx⟩
    rw [hx]
    exact ⟨_, rfl⟩

/-! ### One run -/

/-- A driver with one page, and a proxy with a packet interval of 125 ms, `L = 1000` and a time
limit of 180 s. -/
def slow : Browsing where
  driver := { numPageModels := 1 }
  csp :=
    { bufloPacketIntvlMs := 125, sspBufloPacketIntvlMs := 125, bufloL := 1000,
      bufloTimeLimitSecs := 180 }

/-- Everything connects, the driver arms the channel, and a client's byte starts the session. -/
def begins : List BrowsingEvent :=
  [.csp .establishTunnel2] ++ (ClientSideProxy.connects 0).map .csp ++
    [.driver (.tproxyIpcChStatus true), .driver (.rendererIpcChStatus true),
      .driver (.resetResp .recv 20000 0), .driver (.loadPageResp .recv), .deliver] ++
    (ClientSideProxy.sends 0).map .csp

/-- `n` ticks of the buflo timer after the time `start`, each in time. -/
def ticks (start n : ℕ) : List BrowsingEvent :=
  (List.range n).flatMap fun i =>
    [.elapse 125000,
      .csp (.bufloCh (.bufloTimerFired (start + (i + 1) * 125000) [] (.accepts 750)))]

/-- The page loads at once; after two seconds the driver resets the renderer, thinks for
twenty seconds, and loads the next page. -/
def browses : List BrowsingEvent :=
  [.driver (.pageLoaded 1 100), .deliver] ++ ticks 0 16 ++
    [.driver .waitForMoreRequestsTimerFired, .driver (.resetResp .recv 20000 0)] ++
    ticks 2000000 160 ++ [.driver (.thinkTimeTimerFired 0)]

/-- The call for the next page is on its way to the proxy. -/
def callsNext (s : Browsing) : Bool :=
  decide (s.driver.tproxyCalls = [.setAutoStartDefenseOnNextSend])

/-- After 176 of the 1000 ticks the session of the first page still runs: the call aborts the
proxy. -/
theorem arming_accepted_iff_running : ∃ s₀ es s, Initial s₀ ∧ Run Step s₀ es s ∧
    s.driver.tproxyCalls = [.setAutoStartDefenseOnNextSend] ∧
      s.step .deliver = .error (.csp (.channel .autoNotNone)) := by
  obtain ⟨s, hs, h⟩ := exists_of_returns
    (x := exec step slow (begins ++ browses))
    (p := fun s => s.callsNext && decide (s.step .deliver = .error (.csp (.channel .autoNotNone))))
    (by decide +kernel)
  obtain ⟨hcalls, herr⟩ := Bool.and_eq_true_iff.mp h
  exact ⟨slow, _, s, ⟨⟨rfl, rfl⟩, rfl, rfl, ⟨rfl, rfl⟩, rfl, rfl⟩, run_of_exec hs,
    of_decide_eq_true hcalls, of_decide_eq_true herr⟩

/-- For the first page nothing is armed or queued yet: the call is accepted. -/
theorem arming_accepted_iff_first : ∃ s₀ es s calls, Initial s₀ ∧ Run Step s₀ es s ∧
    s.driver.tproxyCalls = .setAutoStartDefenseOnNextSend :: calls ∧ s.csp.state = .ready ∧
      ∃ s', Step s .deliver s' := by
  obtain ⟨s, hs, h⟩ := exists_of_returns
    (x := exec step slow (begins.take 7))
    (p := fun s => s.callsNext && (decide (s.csp.state = .ready) && (decide (0 < s.csp.bufloCellSize)
      && ClientSideProxy.channelHas (fun c => decide (c.journal = [.status .ready])) s.csp)))
    (by decide +kernel)
  obtain ⟨hcalls, h⟩ := Bool.and_eq_true_iff.mp h
  obtain ⟨hready, h⟩ := Bool.and_eq_true_iff.mp h
  obtain ⟨hpos, h⟩ := Bool.and_eq_true_iff.mp h
  obtain ⟨c, hc, hj⟩ := ClientSideProxy.exists_of_channelHas h
  have hj' : c.journal = [.status .ready] := of_decide_eq_true hj
  have hinit : Initial slow := ⟨⟨rfl, rfl⟩, rfl, rfl, ⟨rfl, rfl⟩, rfl, rfl⟩
  have hcall := of_decide_eq_true hcalls
  refine ⟨slow, _, s, [], hinit, run_of_exec hs, hcall, of_decide_eq_true hready, ?_⟩
  refine (arming_accepted_iff hinit (run_of_exec hs) hcall).mpr
    ⟨of_decide_eq_true hpos, fun _ => ⟨c, hc, ?_, ?_, ?_⟩⟩
  · rw [hj']
    rfl
  · rw [hj']
    rfl
  · rw [hj']
    rfl

end Browsing

end ShadowBrowser
