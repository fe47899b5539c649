/-
The file getters of a browser.

A browser uses little of a file getter (`BrowserPlugin.Getter`): its socket, and whether it waits for
something to download, is at a download, or has been shut down.  Here that is shown of the file getter
itself, on a persistent connection without a SOCKS server.

* `Busy` — a file getter that is at a download;
* `Filegetter.returns` — **`filegetter_activate` returns what the browser relies on**;
* `Filegetter.view_download` — `filegetter_download`, as the browser sees it.
-/
import ShadowBrowser.BrowserPlugin
import ShadowBrowser.FileGetter

namespace ShadowBrowser

open BrowserPlugin Checked

namespace FileTransfer

namespace Filegetter

/-- The phase of a state. -/
def phaseOf : FilegetterState → BrowserPlugin.Phase
  | .idle => .idle
  | .spec => .spec
  | _ => .busy

/-- What a browser sees of a file getter, whose socket is `fd`. -/
def view (fg : Filegetter) (fd : ℕ) : Getter where
  sockd := if fg.sock = none then 0 else fd
  phase := phaseOf fg.state
  curstats := fg.curstats
  allstats := fg.allstats

/-- A file getter at a download. -/
structure Busy (fg : Filegetter) : Prop where
  phase : phaseOf fg.state = .busy
  next : fg.state = .send ∨ fg.state = .receive → phaseOf fg.nextstate = .busy
  sock : fg.sock ≠ none
  persistent : fg.sspec.persistent = true

/-- A file getter that waits for its socket. -/
structure Waiting (fg : Filegetter) : Prop extends Busy fg where
  state : fg.state = .send ∨ fg.state = .receive

/-- What a case of the state machine may come to; what goes on is as `P` says. -/
def Turn.Lawful (P : Filegetter → Prop) : Turn → Prop
  | .goto fg => P fg
  | .stop fg code =>
    code = .errWouldblock ∧ fg.Busy ∨
      (code = .ok200 ∨ code = .err404) ∧ fg.state = .spec ∧ fg.sock ≠ none ∧ fg.sspec.persistent = true ∨
      code = .errFatal ∧ fg.state = .idle ∧ fg.sock = none
  | .abort _ => True

variable {fg fg' : Filegetter} {answers : List Answer} {code : FilegetterCode} {fd : ℕ}
  {P Q : Filegetter → Prop}

theorem lawful_die (fg : Filegetter) : fg.die.Lawful P := .inr (.inr ⟨rfl, rfl, rfl⟩)

theorem Turn.Lawful.bind {t : Turn} {next : Filegetter → Turn} (h : t.Lawful P)
    (hnext : ∀ fg, P fg → (next fg).Lawful Q) : (t.bind next).Lawful Q := by
  cases t with
  | goto fg => exact hnext fg h
  | stop fg code => exact h
  | abort fault => trivial

theorem Busy.checkDownload (h : fg.Busy) : fg.checkDownload.Lawful Waiting := by
  unfold Filegetter.checkDownload
  simp only
  rw [h.persistent, if_pos rfl]
  split_ifs
  · exact .inr (.inl ⟨.inl rfl, rfl, h.sock, h.persistent⟩)
  · exact ⟨⟨rfl, fun _ => rfl, h.sock, h.persistent⟩, .inr rfl⟩

/-- What is in the buffer is the start of a reply: it goes on with the body, or with more of the
header. -/
theorem Busy.replyHttp (h : fg.Busy) :
    fg.replyHttp.Lawful fun fg => fg.Busy ∧ (fg.state = .checkDownload ∨ fg.Waiting) := by
  unfold Filegetter.replyHttp
  split_ifs
  · trivial
  · simp only
    split
    · exact .inr (.inl ⟨.inr rfl, rfl, h.sock, h.persistent⟩)
    · split
      · split
        · exact lawful_die _
        · refine ⟨⟨rfl, fun h' => ?_, h.sock, h.persistent⟩, .inl rfl⟩
          obtain h' | h' := h' <;> cases h'
      · have hbusy : Busy { fg with state := .receive, nextstate := .replyHttp } :=
          ⟨rfl, fun _ => rfl, h.sock, h.persistent⟩
        exact ⟨hbusy, .inr ⟨hbusy, .inr rfl⟩⟩

/-- The cases that do not use the socket lead to one that does. -/
theorem Busy.enter (h : fg.Busy) : fg.enter.Lawful Waiting := by
  rw [Filegetter.enter]
  cases hs : fg.state with
  | idle =>
    have hphase := h.phase
    rw [hs] at hphase
    cases hphase
  | spec =>
    have hphase := h.phase
    rw [hs] at hphase
    cases hphase
  | send => exact ⟨h, .inl hs⟩
  | receive => exact ⟨h, .inr hs⟩
  | checkDownload => exact h.checkDownload
  | requestHttp =>
    simp only [Filegetter.requestHttp]
    split_ifs
    · trivial
    · exact lawful_die _
    · exact ⟨⟨rfl, fun _ => rfl, h.sock, h.persistent⟩, .inl rfl⟩
  | toreplyHttp => exact ⟨⟨rfl, fun _ => rfl, h.sock, h.persistent⟩, .inr rfl⟩
  | replyHttp =>
    refine h.replyHttp.bind fun fg hnext => ?_
    split_ifs with hcheck
    · exact hnext.1.checkDownload
    · exact hnext.2.resolve_left hcheck

/-- What was waited for has come: the next state is one of a download. -/
theorem Waiting.arrived (h : fg.Waiting) (hstate : fg'.state = fg.nextstate)
    (hnext : fg'.nextstate = fg.nextstate) (hsock : fg'.sock ≠ none) (hsspec : fg'.sspec = fg.sspec) :
    fg'.Busy := by
  refine ⟨?_, fun _ => ?_, hsock, ?_⟩
  · rw [hstate]
    exact h.next h.state
  · rw [hnext]
    exact h.next h.state
  · rw [hsspec]
    exact h.persistent

/-- The cases that use it. -/
theorem Waiting.transfer (h : fg.Waiting) (a : Answer) : (fg.transfer a).Lawful Busy := by
  obtain ⟨sock, hsock⟩ := Option.ne_none_iff_exists'.mp h.sock
  rw [Filegetter.transfer, hsock]
  obtain hs | hs := h.state
  · rw [hs]
    simp only [Filegetter.send]
    split
    · exact .inl ⟨rfl, h.toBusy⟩
    · exact lawful_die _
    · split_ifs
      · exact lawful_die _
      · exact h.arrived rfl rfl (Option.some_ne_none _) rfl
      · exact ⟨h.phase, h.next, Option.some_ne_none _, h.persistent⟩
  · rw [hs]
    simp only [Filegetter.receive]
    split
    · exact .inl ⟨rfl, h.toBusy⟩
    · exact lawful_die _
    · split_ifs
      · exact lawful_die _
      · exact h.arrived rfl rfl (Option.some_ne_none _) rfl

/-- **Once around the state machine.** -/
theorem Waiting.turn (h : fg.Waiting) (a : Answer) : (fg.turn a).Lawful Waiting :=
  (h.transfer a).bind fun _ hbusy => hbusy.enter

/-- Around it until the socket would block: the state machine is left. -/
theorem Waiting.loop : ∀ {answers : List Answer} {fg : Filegetter}, fg.Waiting →
    (loop answers fg).Lawful fun _ => False := by
  intro answers
  induction answers with
  | nil =>
    intro fg h
    obtain ⟨sock, hsock⟩ := Option.ne_none_iff_exists'.mp h.sock
    have hturn : fg.turn .wouldBlock = .stop fg .errWouldblock := by
      rw [Filegetter.turn, Filegetter.transfer, hsock]
      obtain hs | hs := h.state <;> rw [hs] <;> rfl
    rw [Filegetter.loop, hturn]
    exact .inl ⟨rfl, h.toBusy⟩
  | cons a answers ih => exact fun h => (h.turn a).bind fun _ => ih

/-- **`filegetter_activate` returns what the browser relies on**, and leaves a file getter that is at its
download, waits for another one, or has been shut down. -/
theorem returns (hfd : fd ≠ 0) (hfg : fg.state = .spec ∨ fg.Busy)
    (h : fg.activate answers = .ok (fg', code)) :
    (fg.view fd).Returns code (fg'.view fd) ∧
      ((fg'.view fd).sockd = 0 ∨ (fg'.view fd).sockd = (fg.view fd).sockd) ∧
      (fg'.state = .idle ∨ fg'.state = .spec ∨ fg'.Busy) := by
  obtain ⟨_, hasserted, h⟩ := bind_eq_ok.mp h
  obtain ⟨_, hsock, _⟩ := check_eq_ok.mp hasserted
  have hview : ∀ g : Filegetter, g.sock ≠ none → (g.view fd).sockd = fd := fun g hg => if_neg hg
  obtain hspec | hbusy := hfg
  · -- It has nothing to download.
    rw [show fg.enter = .stop fg .errNeedfspec by rw [Filegetter.enter, hspec]] at h
    cases h
    refine ⟨.needfspec (by rw [view, hspec]; rfl), .inr rfl, .inr (.inl hspec)⟩
  · have hlawful : (fg.enter.bind (loop answers)).Lawful fun _ => False :=
      hbusy.enter.bind fun _ hwaiting => hwaiting.loop
    cases ht : fg.enter.bind (loop answers) with
    | goto fg₁ =>
      rw [ht] at hlawful
      exact hlawful.elim
    | abort fault =>
      rw [ht] at h
      cases h
    | stop fg₁ code₁ =>
      rw [ht] at h hlawful
      cases h
      have hphase : (fg.view fd).phase = .busy := hbusy.phase
      obtain ⟨rfl, hb⟩ | ⟨hcode, hst, hs, _⟩ | ⟨rfl, hst, hs⟩ := hlawful
      · refine ⟨.wouldblock hphase hb.phase ?_, .inr ?_, .inr (.inr hb)⟩
        · rwa [hview fg' hb.sock]
        · rw [hview fg' hb.sock, hview fg hsock]
      · refine ⟨.answered hphase hcode ?_ ?_, .inr ?_, .inr (.inl hst)⟩
        · rw [view, hst]
          rfl
        · rwa [hview fg' hs]
        · rw [hview fg' hs, hview fg hsock]
      · have hgone : (fg'.view fd).sockd = 0 := if_pos hs
        refine ⟨.fatal hphase ?_ hgone, .inl hgone, .inl hst⟩
        rw [view, hst]
        rfl

/-- **`filegetter_download`**, of something that is not saved to a file. -/
theorem view_download {sspec : FilegetterServerspec} {fspec : FilegetterFilespec} {opens connects : Bool}
    (hfd : 0 < fd) (hpersistent : sspec.persistent = true) (hsave : fspec.doSave = false)
    (hfg : fg.state = .spec ∨ fg.sspec.persistent = true) :
    ((fg.download sspec fspec opens connects).1.view fd) =
      (fg.view fd).download (if connects then some fd else none) := by
  have hview : ∀ g : Filegetter, g.sock ≠ none → (g.view fd).sockd = fd := fun g hg => if_neg hg
  by_cases hspec : fg.state = .spec
  · have hphase : (fg.view fd).phase = .spec := by
      rw [view, hspec]
      rfl
    rw [Filegetter.download, setSpecs, if_neg (not_not.mpr hspec), hsave]
    by_cases hsock : fg.sock = none
    · have hgone : (fg.view fd).sockd = 0 := if_pos hsock
      unfold Getter.download Getter.setSpecs
      rw [hgone, if_neg (Nat.lt_irrefl 0), if_pos hphase]
      cases connects <;> simp [hsock, hpersistent, view, phaseOf, hspec]
    · unfold Getter.download Getter.setSpecs
      rw [hview fg hsock, if_pos hfd, if_pos hphase]
      simp [hsock, hpersistent, view, phaseOf]
  · have hphase : (fg.view fd).phase ≠ .spec := by
      intro h
      cases hs : fg.state <;> rw [view, hs] at h <;> first | exact hspec hs | cases h
    rw [Filegetter.download, setSpecs, if_pos hspec]
    have hp := hfg.resolve_left hspec
    by_cases hsock : fg.sock = none
    · have hgone : (fg.view fd).sockd = 0 := if_pos hsock
      unfold Getter.download
      rw [hgone, if_neg (Nat.lt_irrefl 0), if_neg hphase]
      simp [hsock, view]
    · unfold Getter.download Getter.setSpecs
      rw [hview fg hsock, if_pos hfd, if_neg hphase]
      simp [hsock, hp, view, phaseOf]

end Filegetter

end FileTransfer

end ShadowBrowser
