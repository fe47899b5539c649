/-
The updates of the render tree.

One update can be scheduled at a time: by a script, or by the body, which schedules the initial one.
It is executed at the end of a task; the next one that is scheduled takes its place.

* `Fits`, `slotAfter` — what can happen next, and what is scheduled then, by what has happened;
* `Slot` — what has happened to the updates of a page fits, and is what the page has scheduled and
  executed;
* `Waits`, `Done`, `Replaced` — what becomes of an update;
* **`render_updates_safe`** — no update is lost exactly when scripts schedule none while the initial
  one waits.
-/
import Mathlib.Data.List.Nodup
import ShadowBrowser.Lifecycle
import ShadowBrowser.ScopeRuns

namespace ShadowBrowser.Blink

open Checked Runs Relation World

namespace UpdateAct

/-- The update that is scheduled then, `0` for none. -/
def slot (initialScopeId : ℕ) : UpdateAct → ℕ
  | .schedule scopeId => scopeId
  | .body => initialScopeId
  | .update _ => 0

/-- The scope that a script schedules. -/
def scheduled : UpdateAct → Option ℕ
  | .schedule scopeId => some scopeId
  | _ => none

/-- What can happen while update `k` is scheduled. -/
def Fits (k : ℕ) : UpdateAct → Prop
  | .schedule scopeId => k ≠ scopeId
  | .body => k = 0
  | .update scopeId => k = scopeId ∧ k ≠ 0

end UpdateAct

/-- The update that is scheduled after all that. -/
def slotAfter (initialScopeId : ℕ) (l : List UpdateAct) : ℕ :=
  match l.getLast? with
  | none => 0
  | some a => a.slot initialScopeId

/-- The scopes that scripts schedule are different from each other, and no scope is executed for
another reason that is scheduled or is that of the initial update. -/
structure Distinct (w : World) : Prop where
  scheduled : (w.updates.filterMap UpdateAct.scheduled).Nodup
  executed : ∀ s ∈ w.engine.executedScopeIds, .update s ∈ w.updates ∨
    (.schedule s ∉ w.updates ∧ s ≠ w.model.initialRenderTreeUpdateScopeId)

/-- No script has scheduled an update while the initial one waited. -/
def Unhindered (w : World) : Prop :=
  w.model.initialRenderTreeUpdateScopeId ≠ 0 →
    ∀ l₁ s l₂, w.updates ≠ l₁ ++ .body :: .schedule s :: l₂

/-- The update still waits. -/
def Waits (s : ℕ) (after : List UpdateAct) (w : World) : Prop :=
  after = [] ∧ w.engine.scheduledRenderTreeUpdateScopeId = s ∧ s ∉ w.engine.executedScopeIds

/-- The update has been executed, once. -/
def Done (s : ℕ) (after : List UpdateAct) (w : World) : Prop :=
  (∃ l, after = .update s :: l) ∧ w.engine.executedScopeIds.count s = 1

/-- A script has scheduled another update before it was executed. -/
def Replaced (after : List UpdateAct) : Prop := ∃ s l, after = .schedule s :: l

/-- The updates of a page.

* `schedules`, `addsBody`, `updates` — the checks that come next hold;
* `each` — an update that is scheduled waits, has been executed once, or was replaced by a script;
* `initial` — the initial update waits or has been executed once. -/
structure UpdatesSafe (w : World) : Prop where
  schedules : ∀ s, 0 < s → .schedule s ∉ w.updates → ∃ w', w.schedRenderUpdateScope s = .ok w'
  addsBody : w.document.hasBodyElement = false →
    w.engine.scheduledRenderTreeUpdateScopeId = 0 → ∃ w', w.addBody = .ok w'
  updates : w.engine.scheduledRenderTreeUpdateScopeId ≠ 0 →
    (∃ statements, w.model.execScopes.lookup w.engine.scheduledRenderTreeUpdateScopeId =
      some statements) →
    ∃ p, w.takeUpdate.prepareScope w.engine.scheduledRenderTreeUpdateScopeId = .ok p
  each : ∀ l₁ s l₂, w.updates = l₁ ++ .schedule s :: l₂ → Waits s l₂ w ∨ Done s l₂ w ∨ Replaced l₂
  initial : ∀ l₁ l₂, w.updates = l₁ ++ .body :: l₂ → w.model.initialRenderTreeUpdateScopeId ≠ 0 →
    Waits w.model.initialRenderTreeUpdateScopeId l₂ w ∨
      Done w.model.initialRenderTreeUpdateScopeId l₂ w

/-! ### What is scheduled -/

section

variable {initialScopeId : ℕ} {l l₁ l₂ : List UpdateAct} {a : UpdateAct}

theorem slotAfter_snoc : slotAfter initialScopeId (l ++ [a]) = a.slot initialScopeId := by
  rw [slotAfter, List.getLast?_concat]

/-- What is scheduled has been scheduled last: by a script, or by the body. -/
theorem last_of_slotAfter {k : ℕ} (h : slotAfter initialScopeId l = k) (hk : k ≠ 0) :
    (∃ l₀, l = l₀ ++ [.schedule k]) ∨ (k = initialScopeId ∧ ∃ l₀, l = l₀ ++ [.body]) := by
  rcases List.eq_nil_or_concat l with rfl | ⟨l₀, a, rfl⟩
  · exact absurd h.symm hk
  · rw [List.concat_eq_append] at h ⊢
    rw [slotAfter_snoc] at h
    cases a with
    | schedule s =>
      cases h
      exact .inl ⟨l₀, rfl⟩
    | body => exact .inr ⟨h.symm, l₀, rfl⟩
    | update s => exact absurd h.symm hk

/-- What has happened fits: each act what was scheduled before it, and the body has come once. -/
def Lawful (initialScopeId : ℕ) (l : List UpdateAct) : Prop :=
  ∀ l₁ a, l₁ ++ [a] <+: l → a.Fits (slotAfter initialScopeId l₁) ∧ (a = .body → .body ∉ l₁)

theorem lawful_nil : Lawful initialScopeId [] := by
  intro l₁ a h
  cases List.append_eq_nil_iff.mp (List.prefix_nil.mp h) with
  | intro _ h => cases h

theorem Lawful.snoc (h : Lawful initialScopeId l) (hfits : a.Fits (slotAfter initialScopeId l))
    (hbody : a = .body → .body ∉ l) : Lawful initialScopeId (l ++ [a]) := by
  intro l₁ b hb
  rcases List.prefix_concat_iff.mp hb with heq | hb
  · obtain ⟨rfl, hlast⟩ := List.append_inj' heq rfl
    rw [(List.cons.inj hlast).1]
    exact ⟨hfits, hbody⟩
  · exact h l₁ b hb

theorem Lawful.split (h : Lawful initialScopeId (l₁ ++ a :: l₂)) :
    a.Fits (slotAfter initialScopeId l₁) ∧ (a = .body → .body ∉ l₁) :=
  h l₁ a ⟨l₂, by rw [List.append_assoc, List.singleton_append]⟩

theorem Lawful.of_snoc (h : Lawful initialScopeId (l ++ [a])) : Lawful initialScopeId l :=
  fun l₁ b hb => h l₁ b (hb.trans (List.prefix_append ..))

/-- An update that has been taken was scheduled before. -/
theorem Lawful.of_update {s : ℕ} (h : Lawful initialScopeId l) (hs : .update s ∈ l) :
    .schedule s ∈ l ∨ (s = initialScopeId ∧ .body ∈ l) := by
  obtain ⟨l₁, l₂, rfl⟩ := List.append_of_mem hs
  obtain ⟨⟨hslot, hne⟩, -⟩ := h.split
  rcases last_of_slotAfter hslot (hslot ▸ hne) with ⟨l₀, rfl⟩ | ⟨hinitial, l₀, rfl⟩
  · exact .inl (by simp)
  · exact .inr ⟨hinitial, by simp⟩

end

/-! ### The slot -/

/-- What has happened to the updates of a page, what is scheduled and what has been executed. -/
structure Slot (w : World) : Prop where
  fromModel : FromModel w
  body : w.document.hasBodyElement = true ↔ .body ∈ w.updates
  scheduled : w.engine.scheduledRenderTreeUpdateScopeId =
    slotAfter w.model.initialRenderTreeUpdateScopeId w.updates
  lawful : Lawful w.model.initialRenderTreeUpdateScopeId w.updates
  notInitial : ∀ s, .schedule s ∈ w.updates → s ≠ w.model.initialRenderTreeUpdateScopeId ∧ 0 < s
  updated : ∀ s, .update s ∈ w.updates → s ∈ w.engine.executedScopeIds
  once : w.engine.executedScopeIds.Nodup

variable {w w' : World} {s : ℕ}

theorem Fresh.slot (h : Fresh w) : Slot w where
  fromModel := h.fromModel
  body := by simp [h.body, h.updates]
  scheduled := by simp [h.scheduled, h.updates, slotAfter]
  lawful := h.updates ▸ lawful_nil
  notInitial := by simp [h.updates]
  updated := by simp [h.updates]
  once := by simp [h.executed]

theorem nodup_snoc {l : List ℕ} (h : l.Nodup) (hs : s ∉ l) : (l ++ [s]).Nodup := by
  refine List.nodup_append.mpr ⟨h, List.pairwise_singleton _ s, ?_⟩
  intro t ht u hu heq
  rw [heq, List.mem_singleton.mp hu] at ht
  exact hs ht

/-- **Each step keeps the slot.** -/
theorem Slot.step : Closed Slot ScopeStep := by
  intro w w' h hstep
  have hfrom := hstep.fromModel h.fromModel
  cases hstep with
  | quiet hq =>
    obtain ⟨hmodel, hscheduled, hexecuted, hupdates, hbody, -⟩ := hq
    refine ⟨hfrom, ?_, ?_, ?_, ?_, ?_, ?_⟩
    · rw [hbody, hupdates]
      exact h.body
    · rw [hscheduled, hmodel, hupdates]
      exact h.scheduled
    · rw [hmodel, hupdates]
      exact h.lawful
    · rw [hmodel, hupdates]
      exact h.notInitial
    · rw [hupdates, hexecuted]
      exact h.updated
    · rw [hexecuted]
      exact h.once
  | execute _ hprepare =>
    obtain ⟨hnew, _, rfl⟩ := prepareScope_cases hprepare
    exact ⟨hfrom, h.body, h.scheduled, h.lawful, h.notInitial,
      fun s hs => List.mem_append_left _ (h.updated s hs), nodup_snoc h.once hnew⟩
  | schedule huses hne hsched =>
    obtain ⟨hpos, hother, rfl⟩ := schedRenderUpdateScope_cases hne hsched
    rw [h.fromModel.initial] at hne
    refine ⟨hfrom, ?_, ?_, h.lawful.snoc ?_ nofun, ?_, ?_, h.once⟩
    · simpa using h.body
    · rw [slotAfter_snoc]
      rfl
    · exact h.scheduled ▸ hother
    · intro s hs
      rcases List.mem_append.mp hs with hs | hs
      · exact h.notInitial s hs
      · cases List.mem_singleton.mp hs
        exact ⟨hne, hpos⟩
    · exact fun s hs => h.updated s (by simpa using hs)
  | body hbody =>
    obtain ⟨hnone, hempty, rfl⟩ := addBody_cases hbody
    refine ⟨hfrom, ?_, ?_, h.lawful.snoc ?_ fun _ hmem => ?_, ?_, ?_, h.once⟩
    · simp
    · rw [slotAfter_snoc]
      rfl
    · exact h.scheduled ▸ hempty
    · rw [h.body.mpr hmem] at hnone
      cases hnone
    · exact fun s hs => h.notInitial s (by simpa using hs)
    · exact fun s hs => h.updated s (by simpa using hs)
  | update hne hprepare =>
    obtain ⟨hnew, _, rfl⟩ := prepareScope_cases hprepare
    refine ⟨hfrom, ?_, ?_, h.lawful.snoc ?_ nofun, ?_, ?_, nodup_snoc h.once hnew⟩
    · simpa [takeUpdate] using h.body
    · rw [takeUpdate, slotAfter_snoc]
      rfl
    · exact ⟨h.scheduled.symm, h.scheduled ▸ hne⟩
    · exact fun s hs => h.notInitial s (by simpa [takeUpdate] using hs)
    · -- the update that is taken is executed in this step
      intro s hs
      rcases List.mem_append.mp hs with hs | hs
      · exact List.mem_append_left _ (h.updated s hs)
      · cases List.mem_singleton.mp hs
        exact List.mem_append_right _ (List.mem_singleton.mpr rfl)

/-- The slot of every page that is reached, also in the middle of an event. -/
theorem slot_of_run {es : List PageEvent} (hrun : Run Renderer.Steps Renderer.start es (.page w))
    (hmid : Acts w w') : Slot w' := by
  obtain ⟨w₀, hfresh, hacts⟩ := Renderer.acts_of_run hrun
  exact Slot.step.star w₀ w' hfresh.slot (hacts.trans hmid)

/-! ### What becomes of an update -/

namespace Slot

/-- A scope that is scheduled twice is not distinct. -/
theorem scheduled_once {l₁ l₂ : List UpdateAct} (hd : Distinct w)
    (h : w.updates = l₁ ++ .schedule s :: l₂) : .schedule s ∉ l₁ := by
  intro hmem
  have hnodup := hd.scheduled
  rw [h, List.filterMap_append, List.nodup_append] at hnodup
  exact hnodup.2.2 s (List.mem_filterMap.mpr ⟨_, hmem, rfl⟩) s
    (List.mem_filterMap.mpr ⟨_, List.mem_cons_self, rfl⟩) rfl

/-- **What is scheduled has not been executed.** -/
theorem waiting (h : Slot w) (hd : Distinct w) (hne : w.engine.scheduledRenderTreeUpdateScopeId ≠ 0) :
    w.engine.scheduledRenderTreeUpdateScopeId ∉ w.engine.executedScopeIds := by
  intro hexecuted
  rcases last_of_slotAfter h.scheduled.symm hne with ⟨l, hl⟩ | ⟨hinitial, l, hl⟩
  · rcases hd.executed _ hexecuted with hupdate | ⟨hnot, -⟩
    · -- an update of that number was taken before, and scheduled before that
      have hbefore := (hl ▸ h.lawful).of_snoc.of_update (by simpa [hl] using hupdate)
      rcases hbefore with hbefore | ⟨hinitial, -⟩
      · have honce := scheduled_once hd hl
        exact honce hbefore
      · exact (h.notInitial _ (hl ▸ by simp)).1 hinitial
    · exact hnot (hl ▸ by simp)
  · rcases hd.executed _ hexecuted with hupdate | ⟨-, hother⟩
    · have hbefore := (hl ▸ h.lawful).of_snoc.of_update (by simpa [hl] using hupdate)
      rcases hbefore with hbefore | ⟨-, hbody⟩
      · exact (h.notInitial _ (hl ▸ List.mem_append_left _ hbefore)).1 hinitial
      · have hlawful : Lawful w.model.initialRenderTreeUpdateScopeId (l ++ .body :: []) := hl ▸ h.lawful
        exact hlawful.split.2 rfl hbody
    · exact hother hinitial

/-- An update that was scheduled and has been taken has been executed once. -/
theorem count_updated (h : Slot w) (hs : .update s ∈ w.updates) :
    w.engine.executedScopeIds.count s = 1 :=
  List.count_eq_one_of_mem h.once (h.updated s hs)

/-- What becomes of an update that a script has scheduled. -/
theorem each (h : Slot w) (hd : Distinct w) {l₁ l₂ : List UpdateAct}
    (heq : w.updates = l₁ ++ .schedule s :: l₂) : Waits s l₂ w ∨ Done s l₂ w ∨ Replaced l₂ := by
  have hpos := (h.notInitial s (heq ▸ by simp)).2
  cases l₂ with
  | nil =>
    have hslot : w.engine.scheduledRenderTreeUpdateScopeId = s := by
      rw [h.scheduled, heq, slotAfter_snoc]
      rfl
    refine .inl ⟨rfl, hslot, hslot ▸ h.waiting hd ?_⟩
    rw [hslot]
    exact Nat.ne_of_gt hpos
  | cons a l =>
    -- what comes next fits the update
    rw [List.append_cons] at heq
    have hfits := (heq ▸ h.lawful).split.1
    rw [slotAfter_snoc] at hfits
    cases a with
    | schedule t => exact .inr (.inr ⟨t, l, rfl⟩)
    | body => exact absurd hfits (Nat.ne_of_gt hpos)
    | update t =>
      have ht : s = t := hfits.1
      subst ht
      exact .inr (.inl ⟨⟨l, rfl⟩, h.count_updated (heq ▸ by simp)⟩)

/-- What becomes of the initial update. -/
theorem initial (h : Slot w) (hd : Distinct w) (hunhindered : Unhindered w) {l₁ l₂ : List UpdateAct}
    (heq : w.updates = l₁ ++ .body :: l₂) (hne : w.model.initialRenderTreeUpdateScopeId ≠ 0) :
    Waits w.model.initialRenderTreeUpdateScopeId l₂ w ∨
      Done w.model.initialRenderTreeUpdateScopeId l₂ w := by
  cases l₂ with
  | nil =>
    have hslot : w.engine.scheduledRenderTreeUpdateScopeId =
        w.model.initialRenderTreeUpdateScopeId := by
      rw [h.scheduled, heq, slotAfter_snoc]
      rfl
    refine .inl ⟨rfl, hslot, hslot ▸ h.waiting hd ?_⟩
    rw [hslot]
    exact hne
  | cons a l =>
    cases a with
    | schedule t => exact absurd heq (hunhindered hne l₁ t l)
    | body =>
      rw [List.append_cons] at heq
      have hfits := (heq ▸ h.lawful).split.1
      rw [slotAfter_snoc] at hfits
      exact absurd hfits hne
    | update t =>
      rw [List.append_cons] at heq
      have hfits := (heq ▸ h.lawful).split.1
      rw [slotAfter_snoc] at hfits
      have ht : w.model.initialRenderTreeUpdateScopeId = t := hfits.1
      rw [← ht] at heq ⊢
      exact .inr ⟨⟨l, rfl⟩, h.count_updated (heq ▸ by simp)⟩

/-- **The updates of a page are safe** exactly when no script hinders the initial one. -/
theorem safe_iff (h : Slot w) (hd : Distinct w) : UpdatesSafe w ↔ Unhindered w := by
  constructor
  · -- behind the body, what a script schedules is in the place of the initial update
    intro hsafe hne l₁ s l₂ heq
    rcases hsafe.initial l₁ _ heq hne with ⟨hnil, -⟩ | ⟨⟨l, hl⟩, -⟩
    · cases hnil
    · cases hl
  · intro hunhindered
    refine ⟨?_, ?_, ?_, fun l₁ s l₂ heq => h.each hd heq,
      fun l₁ l₂ heq hne => h.initial hd hunhindered heq hne⟩
    · -- a new scope can be scheduled, as it differs from the one that waits
      intro s hpos hnew
      rw [schedRenderUpdateScope, check_pos hpos, ok_bind]
      by_cases hinitial : s = w.engine.initialRenderTreeUpdateScopeId
      · exact ⟨w, if_pos hinitial⟩
      · rw [if_neg hinitial]
        have hother : w.engine.scheduledRenderTreeUpdateScopeId ≠ s := by
          intro hsame
          rcases last_of_slotAfter (h.scheduled.symm.trans hsame) (Nat.ne_of_gt hpos) with
            ⟨l, hl⟩ | ⟨heq, -⟩
          · exact hnew (hl ▸ by simp)
          · exact hinitial (heq.trans h.fromModel.initial.symm)
        rw [check_pos hother, ok_bind]
        exact ⟨_, rfl⟩
    · intro hbody hempty
      rw [addBody, check_pos hbody, ok_bind, check_pos hempty, ok_bind]
      exact ⟨_, rfl⟩
    · -- an update that is due finds its scope waiting
      rintro hne ⟨statements, hfound⟩
      have hnew : w.engine.scheduledRenderTreeUpdateScopeId ∉
          w.takeUpdate.engine.executedScopeIds := h.waiting hd hne
      rw [prepareScope, check_pos hnew, ok_bind]
      simp only [takeUpdate, hfound, pure_eq_ok]
      exact ⟨_, rfl⟩

end Slot

theorem ScopeStep.updates_grow (h : ScopeStep w w') : w.updates <+: w'.updates := by
  cases h with
  | quiet h => exact h.updates ▸ List.prefix_refl _
  | execute _ h =>
    obtain ⟨_, _, rfl⟩ := prepareScope_cases h
    exact List.prefix_refl _
  | schedule _ hne h =>
    obtain ⟨_, _, rfl⟩ := schedRenderUpdateScope_cases hne h
    exact List.prefix_append ..
  | body h =>
    obtain ⟨_, _, rfl⟩ := addBody_cases h
    exact List.prefix_append ..
  | update _ h =>
    obtain ⟨_, _, rfl⟩ := prepareScope_cases h
    exact List.prefix_append ..

theorem Acts.updates_grow (h : Acts w w') : w.updates <+: w'.updates := by
  induction h with
  | refl => exact List.prefix_refl _
  | tail _ hstep ih => exact ih.trans hstep.updates_grow

/-- **A message about a pending request** leaves no update waiting that was scheduled before it. -/
theorem not_waits_of_message {m : ResourceMsg} (hw : Slot w)
    (hne : w.engine.scheduledRenderTreeUpdateScopeId ≠ 0)
    (hpending : w.engine.pendingRequests.lookup m.reqId ≠ none)
    (h : Renderer.pageMessage w m = .ok (.page w')) : ∃ a l, w'.updates = w.updates ++ a :: l := by
  rcases pageMessage_endsTask h with ⟨hnone, _⟩ | ⟨v, v₁, hmoves, htask, hrest⟩
  · exact absurd hnone hpending
  · have hacts := hmoves hw.fromModel
    obtain ⟨l, hl⟩ := hacts.updates_grow
    rw [hrest.updates]
    rcases doEndOfTaskWork_cases htask with ⟨hempty, rfl⟩ | ⟨v', _, hslot, hprepare, hcalls⟩
    · -- nothing is scheduled any more, so something has happened to the update
      rw [← hl]
      cases l with
      | nil =>
        rw [List.append_nil] at hl
        have hv := Slot.step.star w _ hw hacts
        rw [hv.scheduled, ← hl, hacts.model, ← hw.scheduled] at hempty
        exact absurd hempty hne
      | cons a l => exact ⟨a, l, rfl⟩
    · obtain ⟨_, _, rfl⟩ := prepareScope_cases hprepare
      have hv := (ScopeStep.update hslot hprepare).fromModel (hacts.fromModel hw.fromModel)
      obtain ⟨l', hl'⟩ := (hcalls hv).updates_grow
      rw [← hl']
      change ∃ a k, (v.updates ++ [.update v.engine.scheduledRenderTreeUpdateScopeId]) ++ l' = _
      rw [← hl, List.append_assoc, List.append_assoc]
      cases l with
      | nil => exact ⟨_, l', rfl⟩
      | cons a l => exact ⟨a, _, rfl⟩

/-- **Render updates are safe** if no script schedules one while the initial update waits, and only
then.

In every page that is reached, also in the middle of an event: of the scopes that have been scheduled
so far each waits, has been executed once, or was replaced by a script, the initial one is not
replaced, and the checks that come next hold.  The body's check fails when an update is scheduled.  A
message about a pending request leaves no update waiting that was scheduled before. -/
theorem render_updates_safe {es : List PageEvent}
    (hrun : Run Renderer.Steps Renderer.start es (.page w)) (hmid : Acts w w') (hd : Distinct w') :
    (UpdatesSafe w' ↔ Unhindered w') ∧
    (w'.engine.scheduledRenderTreeUpdateScopeId ≠ 0 → ∀ v, w'.addBody ≠ .ok v) ∧
    ∀ m v, w.engine.scheduledRenderTreeUpdateScopeId ≠ 0 →
      w.engine.pendingRequests.lookup m.reqId ≠ none →
      Renderer.pageMessage w m = .ok (.page v) → ∃ a l, v.updates = w.updates ++ a :: l := by
  refine ⟨(slot_of_run hrun hmid).safe_iff hd, fun hne v h => hne (addBody_cases h).2.1, ?_⟩
  intro m v hne hpending h
  exact not_waits_of_message (slot_of_run hrun .refl) hne hpending h

/-- A page with a script, the body and another script; each script schedules an update. -/
def updatesPage (htmlElementByteOffsets : List (ℕ × ℕ)) : PageModel where
  resources := [
    (1, { partOfPageLoadedCheck := true, reqChain := [{ respBodySize := 10 }], type := .main })]
  elements := [(5, { tag := .script false true true 3 }), (6, { tag := .body })]
  execScopes := [(3, [.schedRenderUpdateScope 9]), (8, []), (9, [])]
  htmlElementByteOffsets := htmlElementByteOffsets
  initialRenderTreeUpdateScopeId := 8

/-- The body comes first, and what has been received ends there or not. -/
def bodyFirst (received : ℕ) : List PageEvent :=
  [.loadPage 1 (updatesPage [(0, 6), (4, 5)]) 0, .message (.dataReceived 1 received)]

/-- The body comes, and then the script, each in a part of the document of its own. -/
def apart : List PageEvent := bodyFirst 3 ++ [.message (.dataReceived 1 7)]

/-- The initial update has been executed when the script comes, and the update that it schedules after
it. -/
theorem render_updates_safe_apart :
    ∃ w, Run Renderer.Steps Renderer.start apart (.page w) ∧
      w.updates = [.body, .update 8, .schedule 9, .update 9] ∧
      w.engine.executedScopeIds = [8, 3, 9] ∧ Distinct w ∧ Unhindered w ∧ UpdatesSafe w := by
  have hreturns : returns (exec Renderer.step Renderer.start apart)
      (Renderer.isPage fun w => decide (w.engine.executedScopeIds = [8, 3, 9] ∧
        w.updates = [.body, .update 8, .schedule 9, .update 9] ∧
        w.model.initialRenderTreeUpdateScopeId = 8)) = true := by decide
  obtain ⟨w, hrun, htest⟩ := Renderer.exists_of_returns hreturns
  obtain ⟨hexecuted, hupdates, hinitial⟩ := of_decide_eq_true htest
  have hd : Distinct w := by
    refine ⟨?_, ?_⟩
    · rw [hupdates]
      decide
    · rw [hupdates, hexecuted, hinitial]
      decide
  have hunhindered : Unhindered w := by
    intro _ l₁ s l₂ heq
    rw [hupdates] at heq
    rcases l₁ with _ | ⟨_, _ | ⟨_, _ | ⟨_, _ | ⟨_, l₁⟩⟩⟩⟩ <;> simp at heq
  exact ⟨w, hrun, hupdates, hexecuted, hd, hunhindered,
    (render_updates_safe hrun .refl hd).1.mpr hunhindered⟩

/-- A script in front of the body schedules an update, and the body fails the check; or a script behind
it does, and the initial update is lost. -/
theorem render_updates_fail :
    (∃ r, Run Renderer.Steps Renderer.start [.loadPage 1 (updatesPage [(0, 5), (4, 6)]) 0] r ∧
      r.step (.message (.dataReceived 1 10)) = .error .renderScope) ∧
    ∃ w, Run Renderer.Steps Renderer.start (bodyFirst 10) (.page w) ∧
      w.document.hasBodyElement = true ∧ w.model.initialRenderTreeUpdateScopeId = 8 ∧
      w.engine.executedScopeIds = [3, 9] ∧ w.engine.scheduledRenderTreeUpdateScopeId = 0 := by
  constructor
  · refine ⟨_, .cons (u := .page _) rfl (.nil _), ?_⟩
    rfl
  · have hreturns : returns (exec Renderer.step Renderer.start (bodyFirst 10))
        (Renderer.isPage fun w => decide (w.document.hasBodyElement = true ∧
          w.model.initialRenderTreeUpdateScopeId = 8 ∧ w.engine.executedScopeIds = [3, 9] ∧
          w.engine.scheduledRenderTreeUpdateScopeId = 0)) = true := by decide
    obtain ⟨w, hrun, htest⟩ := Renderer.exists_of_returns hreturns
    exact ⟨w, hrun, of_decide_eq_true htest⟩

end ShadowBrowser.Blink
