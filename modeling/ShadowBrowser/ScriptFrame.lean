/-
What scripts leave alone.

The steps of `PageSteps` say what a script can change.  Of the parser and of the elements of the document
they say too little: the parser's place is not a script's business, elements are only put at the end,
and a script that blocks the parser blocks it until the parser itself executes that script.

* `Leaves` — what a script leaves of the parser and the document;
* `executeParsingBlockingScript_leavesPlace` — the script that blocks is executed, and others can
  block then;
* `addElem_added` — an element that is added is the last of the document, or the body;
* `executeScope_leaves` — a scope leaves all that alone.
-/
import ShadowBrowser.Lifecycle

namespace ShadowBrowser.Blink

open Checked Runs Relation World

/-- What is left of the parser and the document by what executes scripts: all but which script blocks
the parser. -/
structure LeavesPlace (w w' : World) : Prop where
  model : w'.model = w.model
  parser : ∃ b, w'.parser = { w.parser with parserBlockingScript := b }
  finished : w'.document.finishedParsing = w.document.finishedParsing
  elements : w.document.elements <+: w'.document.elements
  nodup : w.document.elements.Nodup → w'.document.elements.Nodup
  body : w.document.hasBodyElement = true → w'.document.hasBodyElement = true

/-- What a script leaves of them: the script that blocks the parser goes on doing so. -/
structure Leaves (w w' : World) : Prop extends LeavesPlace w w' where
  blocked : ∀ e, w.parser.parserBlockingScript = some e → w'.parser.parserBlockingScript = some e

namespace LeavesPlace

variable {w w₁ w' : World}

theorem trans (h : LeavesPlace w w₁) (h' : LeavesPlace w₁ w') : LeavesPlace w w' := by
  obtain ⟨b, hparser⟩ := h.parser
  obtain ⟨b', hparser'⟩ := h'.parser
  refine ⟨h'.model.trans h.model, ⟨b', ?_⟩, h'.finished.trans h.finished,
    List.IsPrefix.trans h.elements h'.elements, fun hn => h'.nodup (h.nodup hn),
    fun hbody => h'.body (h.body hbody)⟩
  rw [hparser', hparser]

theorem setBlocking (w : World) (b : Option ℕ) : LeavesPlace w (w.setBlocking b) :=
  ⟨rfl, ⟨b, rfl⟩, rfl, List.prefix_refl _, id, id⟩

/-- Nothing blocked the parser. -/
theorem leaves (h : LeavesPlace w w') (hfree : w.parser.parserBlockingScript = none) :
    Leaves w w' := by
  refine ⟨h, fun e he => ?_⟩
  rw [hfree] at he
  cases he

end LeavesPlace

namespace Leaves

variable {w w₁ w' : World}

/-- What scripts leave alone is not changed at all. -/
theorem same (hmodel : w'.model = w.model) (hparser : w'.parser = w.parser)
    (hfinished : w'.document.finishedParsing = w.document.finishedParsing)
    (helements : w'.document.elements = w.document.elements)
    (hbody : w'.document.hasBodyElement = w.document.hasBodyElement) : Leaves w w' where
  model := hmodel
  parser := ⟨w.parser.parserBlockingScript, hparser⟩
  finished := hfinished
  elements := helements ▸ List.prefix_refl _
  nodup h := helements ▸ h
  body h := hbody ▸ h
  blocked _ h := hparser ▸ h

theorem refl (w : World) : Leaves w w := same rfl rfl rfl rfl rfl

/-- The engine is changed. -/
theorem setEngine (engine : Webengine) : Leaves w { w with engine } := same rfl rfl rfl rfl rfl

/-- A notice is made. -/
theorem note (m : Notice) : Leaves w (w.note m) := same rfl rfl rfl rfl rfl

theorem trans (h : Leaves w w₁) (h' : Leaves w₁ w') : Leaves w w' :=
  ⟨h.toLeavesPlace.trans h'.toLeavesPlace, fun e he => h'.blocked e (h.blocked e he)⟩

/-- Loops leave alone what each turn leaves alone. -/
theorem foldlM {α : Type*} {f : World → α → Except PageCheck World}
    (hf : ∀ a v v', f v a = .ok v' → Leaves v v') {l : List α} :
    ∀ {w w' : World}, l.foldlM f w = .ok w' → Leaves w w' := by
  induction l with
  | nil =>
    intro w w' h
    cases h
    exact refl w
  | cons a l ih =>
    intro w w' h
    obtain ⟨w₁, hw₁, h⟩ := bind_eq_ok.mp h
    exact (hf a w w₁ hw₁).trans (ih h)

end Leaves

/-- Whether it is the body that the element is, for which there is none. -/
def PageModel.isBody (model : PageModel) (e : ℕ) : Bool :=
  match model.elements.lookup e with
  | some info => decide (info.tag = .body)
  | none => false

/-! ### Resources and elements -/

namespace World

variable {w w' : World} {n e : ℕ} {c : ResourceClient} {el : Element} {run : RunScope}

theorem setResource_leaves (n : ℕ) (r : Resource) : Leaves w (w.setResource n r) :=
  .same rfl rfl rfl rfl rfl

theorem getResource_leaves (h : w.getResource n = .ok w') : Leaves w w' := by
  obtain ⟨rfl, _⟩ | ⟨_, info, _, rfl⟩ := getResource_cases h
  · exact .refl _
  · exact setResource_leaves ..

theorem incrementRequestCount_leaves (r : Resource) : Leaves w (w.incrementRequestCount r) := by
  rw [incrementRequestCount]
  split
  · exact .same rfl rfl rfl rfl rfl
  · exact .refl w

theorem loadResource_leaves (h : w.loadResource n = .ok w') : Leaves w w' := by
  obtain ⟨r, info, _, _, _, rfl⟩ := loadResource_cases h
  exact (incrementRequestCount_leaves r).trans (.same rfl rfl rfl rfl rfl)

theorem loadIfInitial_leaves (h : w.loadIfInitial n = .ok w') : Leaves w w' := by
  obtain ⟨r, _, h⟩ := bind_eq_ok.mp h
  split_ifs at h
  · exact loadResource_leaves h
  · cases h
    exact .refl w

theorem fetchRes_leaves (h : w.fetchRes n = .ok w') : Leaves w w' := by
  obtain ⟨w₁, hget, h⟩ := bind_eq_ok.mp h
  exact (getResource_leaves hget).trans (loadIfInitial_leaves h)

theorem addClient_leaves (h : w.addClient n c = .ok w') : Leaves w w' := by
  obtain ⟨r, _, h⟩ := bind_eq_ok.mp h
  obtain ⟨_, _, h⟩ := bind_eq_ok.mp h
  cases h
  exact setResource_leaves ..

theorem removeClient_leaves (h : w.removeClient n c = .ok w') : Leaves w w' := by
  obtain ⟨r, _, h⟩ := bind_eq_ok.mp h
  cases h
  exact (setResource_leaves ..).trans (.note _)

theorem setObject_leaves (e : ℕ) (el : Element) : Leaves w (w.setObject e el) :=
  .same rfl rfl rfl rfl rfl

theorem startBlocking_leaves (h : w.startBlocking e el = .ok w') : Leaves w w' := by
  obtain ⟨_, _, h⟩ := bind_eq_ok.mp h
  cases h
  exact .same rfl rfl rfl rfl rfl

theorem elementNotifyFinished_leaves (h : w.elementNotifyFinished e = .ok w') : Leaves w w' := by
  obtain ⟨el, _, h⟩ := bind_eq_ok.mp h
  split at h
  · obtain ⟨_, _, h⟩ := bind_eq_ok.mp h
    cases h
    exact .same rfl rfl rfl rfl rfl
  · cases h
    exact .refl w

theorem onResInstNumChanged_leaves (h : w.onResInstNumChanged e = .ok w') : Leaves w w' := by
  obtain ⟨el, _, h⟩ := bind_eq_ok.mp h
  split at h
  · obtain ⟨w₁, hget, h⟩ := bind_eq_ok.mp h
    obtain ⟨r, _, h⟩ := bind_eq_ok.mp h
    refine (getResource_leaves hget).trans ?_
    split_ifs at h
    · exact startBlocking_leaves h
    · cases h
      exact .refl _
  · cases h
    exact .refl w

/-! ### What runs scopes -/

/-- Scopes are executed so that all that is left alone. -/
def RunsLeaving (run : RunScope) : Prop := ∀ id w w', run id w = .ok w' → Leaves w w'

theorem fireEventHandlingScopes_leaves (hrun : RunsLeaving run) {scopes : EventScopes}
    {name : EventName} (h : w.fireEventHandlingScopes run scopes name = .ok w') : Leaves w w' :=
  Leaves.foldlM (fun s w w' => hrun s.2 w w') h

theorem detach_leaves (h : w.detach e el n = .ok w') : Leaves w w' := by
  rw [detach] at h
  split_ifs at h
  · obtain ⟨w₁, hget, h⟩ := bind_eq_ok.mp h
    exact (getResource_leaves hget).trans (removeClient_leaves h)
  · cases h
    exact .refl w

theorem attach_leaves (hrun : RunsLeaving run) (h : w.attach run e n = .ok w') :
    Leaves w w' := by
  obtain ⟨r, _, h⟩ := bind_eq_ok.mp h
  split_ifs at h
  · cases h
    exact .refl w
  · obtain ⟨el, _, h⟩ := bind_eq_ok.mp h
    exact fireEventHandlingScopes_leaves hrun h
  · obtain ⟨w₁, hload, h⟩ := bind_eq_ok.mp h
    exact (loadIfInitial_leaves hload).trans (addClient_leaves h)

theorem setResInstNum_leaves (hrun : RunsLeaving run)
    {changed : ℕ → World → Except PageCheck World}
    (hchanged : ∀ e w w', changed e w = .ok w' → Leaves w w')
    (h : w.setResInstNum run changed e n = .ok w') : Leaves w w' := by
  obtain ⟨el, _, h⟩ := bind_eq_ok.mp h
  obtain ⟨w₁, hdetach, h⟩ := bind_eq_ok.mp h
  obtain ⟨w₂, hget, h⟩ := bind_eq_ok.mp h
  obtain ⟨w₃, hattach, h⟩ := bind_eq_ok.mp h
  exact ((((detach_leaves hdetach).trans (setObject_leaves ..)).trans
    (getResource_leaves hget)).trans (attach_leaves hrun hattach)).trans (hchanged _ _ _ h)

theorem setElemRes_leaves (hrun : RunsLeaving run) (h : w.setElemRes run e n = .ok w') :
    Leaves w w' := by
  rw [setElemRes] at h
  split_ifs at h
  · obtain ⟨el, _, h⟩ := bind_eq_ok.mp h
    obtain ⟨_, _, h⟩ := bind_eq_ok.mp h
    exact setResInstNum_leaves hrun (fun _ _ _ => onResInstNumChanged_leaves) h
  · cases h
    exact .refl w

theorem newElement_leaves (hrun : RunsLeaving run) {kind : ElementKind} {info : ElementInfo}
    (h : w.newElement run e kind info = .ok w') : Leaves w w' := by
  obtain ⟨_, _, h⟩ := bind_eq_ok.mp h
  obtain ⟨w₁, hset, h⟩ := bind_eq_ok.mp h
  obtain ⟨el, _, h⟩ := bind_eq_ok.mp h
  cases h
  have hinitial : Leaves (w.setObject e { kind }) w₁ := by
    split_ifs at hset
    · refine setResInstNum_leaves hrun (fun _ _ _ h => ?_) hset
      cases h
      exact .refl _
    · cases hset
      exact .refl _
  exact ((setObject_leaves ..).trans hinitial).trans (setObject_leaves ..)

/-! ### Scripts that block the parser -/

theorem isPendingScriptReady_leaves {ready : Bool}
    (h : w.isPendingScriptReady e = .ok (w', ready)) : Leaves w w' := by
  obtain ⟨el, _, h⟩ := bind_eq_ok.mp h
  split_ifs at h
  · cases h
    exact .refl w
  · obtain ⟨w₁, hget, h⟩ := bind_eq_ok.mp h
    obtain ⟨r, _, h⟩ := bind_eq_ok.mp h
    cases h
    exact getResource_leaves hget
  · cases h
    exact .refl w

/-- No script was being executed. -/
theorem executeScript_leaves (hrun : RunsLeaving run) {scopeId : ℕ}
    (h : w.executeScript run scopeId = .ok w') :
    w.parser.isExecutingScript = false ∧ Leaves w w' := by
  obtain ⟨_, hidle, h⟩ := bind_eq_ok.mp h
  obtain ⟨w₁, hscope, h⟩ := bind_eq_ok.mp h
  cases h
  have hidle := check_eq_ok.mp hidle
  obtain ⟨⟨hmodel, ⟨b, hparser⟩, hfinished, helements, hnodup, hbody⟩, hb⟩ := hrun _ _ _ hscope
  refine ⟨hidle, ⟨hmodel, ⟨b, ?_⟩, hfinished, helements, hnodup, hbody⟩, hb⟩
  dsimp only
  rw [hparser, ← hidle]

/-- The script that blocks the parser is executed, and others can block it then. -/
theorem executeParsingBlockingScript_leavesPlace (hrun : RunsLeaving run)
    (h : w.executeParsingBlockingScript run = .ok w') :
    w.parser.isExecutingScript = false ∧ LeavesPlace w w' := by
  obtain ⟨_, hidle, h⟩ := bind_eq_ok.mp h
  obtain ⟨_, _, h⟩ := bind_eq_ok.mp h
  refine ⟨check_eq_ok.mp hidle, ?_⟩
  split at h
  · cases h
  · obtain ⟨⟨w₁, ready⟩, hready, h⟩ := bind_eq_ok.mp h
    obtain ⟨_, _, h⟩ := bind_eq_ok.mp h
    obtain ⟨el, _, h⟩ := bind_eq_ok.mp h
    split at h
    · exact ((isPendingScriptReady_leaves hready).toLeavesPlace.trans (.setBlocking w₁ none)).trans
        (executeScript_leaves hrun h).2.toLeavesPlace
    · cases h

theorem watchScript_leavesPlace (h : w.watchScript el = .ok w') : LeavesPlace w w' := by
  rw [watchScript] at h
  split_ifs at h
  · obtain ⟨w₁, hget, h⟩ := bind_eq_ok.mp h
    obtain ⟨r, _, h⟩ := bind_eq_ok.mp h
    have hget := (getResource_leaves hget).toLeavesPlace
    split_ifs at h
    · cases h
      exact hget.trans (.setBlocking w₁ none)
    · cases h
      exact hget
    · obtain ⟨_, _, h⟩ := bind_eq_ok.mp h
      exact hget.trans (addClient_leaves h).toLeavesPlace
  · cases h
    exact (Leaves.refl w).toLeavesPlace

/-- A script is to block the parser, when nothing does yet. -/
theorem setParserBlockingScript_leaves (hrun : RunsLeaving run)
    (h : w.setParserBlockingScript run e = .ok w') : Leaves w w' := by
  obtain ⟨_, hfree, h⟩ := bind_eq_ok.mp h
  obtain ⟨el, _, h⟩ := bind_eq_ok.mp h
  refine ((LeavesPlace.setBlocking w (some e)).trans ?_).leaves (check_eq_ok.mp hfree)
  split at h
  · obtain ⟨_, _, h⟩ := bind_eq_ok.mp h
    split_ifs at h
    · obtain ⟨_, _, h⟩ := bind_eq_ok.mp h
      exact (executeParsingBlockingScript_leavesPlace hrun h).2
    · obtain ⟨⟨w₁, ready⟩, hready, h⟩ := bind_eq_ok.mp h
      refine (isPendingScriptReady_leaves hready).toLeavesPlace.trans ?_
      dsimp only at h
      split_ifs at h
      · exact (executeParsingBlockingScript_leavesPlace hrun h).2
      · exact watchScript_leavesPlace h
  · cases h

/-! ### Elements are added -/

/-- The element is put at the end. -/
theorem insertElement_leaves (h : w.insertElement e = .ok w') :
    Leaves w w' ∧ w'.document.elements = w.document.elements ++ [e] := by
  obtain ⟨_, hnew, h⟩ := bind_eq_ok.mp h
  cases h
  have hnew := check_eq_ok.mp hnew
  refine ⟨⟨⟨rfl, ⟨_, rfl⟩, rfl, List.prefix_append _ _, fun hn => ?_, id⟩, fun _ h => h⟩, rfl⟩
  refine List.nodup_append.mpr ⟨hn, List.pairwise_singleton _ e, fun a ha b hb hab => hnew ?_⟩
  rw [← List.mem_singleton.mp hb, ← hab]
  exact ha

theorem blockAtFirst_leaves (h : w.blockAtFirst e = .ok w') : Leaves w w' := by
  obtain ⟨el, _, h⟩ := bind_eq_ok.mp h
  split at h
  · split_ifs at h
    · obtain ⟨w₁, hget, h⟩ := bind_eq_ok.mp h
      obtain ⟨r, _, h⟩ := bind_eq_ok.mp h
      refine (getResource_leaves hget).trans ?_
      split_ifs at h
      · cases h
        exact .refl _
      · exact startBlocking_leaves h
    · cases h
      exact .refl w
  · cases h
    exact .refl w

/-- What has become of an element that was to be added. -/
structure Added (e : ℕ) (w w' : World) : Prop where
  leaves : Leaves w w'
  body : w.model.isBody e = true → w'.document.hasBodyElement = true
  last : w.model.isBody e = false → ∃ l, w'.document.elements = w.document.elements ++ l ++ [e]

theorem added_of_insert {w₁ : World} (hnot : w.model.isBody e = false) (h : Leaves w w₁)
    (hinsert : w₁.insertElement e = .ok w') : Added e w w' := by
  obtain ⟨hleaves, hlast⟩ := insertElement_leaves hinsert
  obtain ⟨l, hl⟩ := h.elements
  refine ⟨h.trans hleaves, fun hbody => absurd (hbody.symm.trans hnot) nofun, fun _ => ⟨l, ?_⟩⟩
  rw [hlast, hl]

/-- **An element is added.** -/
theorem addElem_added (hrun : RunsLeaving run) (h : w.addElem run e = .ok w') : Added e w w' := by
  obtain ⟨_, _, h⟩ := bind_eq_ok.mp h
  split at h
  · cases h
  · -- only a body sets the document's body; every other element is inserted
    next info hinfo =>
    have hbody : w.model.isBody e = decide (info.tag = .body) := by rw [PageModel.isBody, hinfo]
    split at h
    · next htag =>
      obtain ⟨w₁, hnew, h⟩ := bind_eq_ok.mp h
      obtain ⟨_, _, h⟩ := bind_eq_ok.mp h
      obtain ⟨_, _, h⟩ := bind_eq_ok.mp h
      obtain ⟨w₂, hblock, h⟩ := bind_eq_ok.mp h
      -- a script that is not ready blocks the parser
      have hblocking : Leaves w₁ w₂ := by
        rcases doIf_eq_ok hblock with ⟨_, hblock⟩ | ⟨_, rfl⟩
        · exact setParserBlockingScript_leaves hrun hblock
        · exact .refl _
      refine added_of_insert ?_ ((newElement_leaves hrun hnew).trans hblocking) h
      rw [hbody, htag]
      rfl
    · next htag =>
      obtain ⟨w₁, hnew, h⟩ := bind_eq_ok.mp h
      obtain ⟨_, _, h⟩ := bind_eq_ok.mp h
      obtain ⟨w₂, hblock, h⟩ := bind_eq_ok.mp h
      refine added_of_insert ?_ ((newElement_leaves hrun hnew).trans (blockAtFirst_leaves hblock)) h
      rw [hbody, htag]
      rfl
    · next htag =>
      obtain ⟨w₁, hnew, h⟩ := bind_eq_ok.mp h
      refine added_of_insert ?_ (newElement_leaves hrun hnew) h
      rw [hbody, htag]
      rfl
    · next htag =>
      obtain ⟨_, _, h⟩ := bind_eq_ok.mp h
      obtain ⟨_, _, h⟩ := bind_eq_ok.mp h
      cases h
      refine ⟨⟨⟨rfl, ⟨_, rfl⟩, rfl, List.prefix_refl _, id, fun _ => rfl⟩, fun _ h => h⟩,
        fun _ => rfl, fun hnot => ?_⟩
      rw [hbody, htag] at hnot
      cases hnot
    · cases h

/-! ### The calls of a script -/

theorem xhrLoadNextChainEntry_leaves {x : ℕ} {xhr : XMLHttpRequest}
    (h : w.xhrLoadNextChainEntry x xhr = .ok w') : Leaves w w' := by
  obtain ⟨_, _, h⟩ := bind_eq_ok.mp h
  split at h
  · cases h
  · obtain ⟨_, _, h⟩ := bind_eq_ok.mp h
    obtain ⟨w₁, hget, h⟩ := bind_eq_ok.mp h
    obtain ⟨r, _, h⟩ := bind_eq_ok.mp h
    obtain ⟨_, _, h⟩ := bind_eq_ok.mp h
    obtain ⟨w₂, hload, h⟩ := bind_eq_ok.mp h
    obtain ⟨w₃, hclient, h⟩ := bind_eq_ok.mp h
    cases h
    exact (((getResource_leaves hget).trans (loadResource_leaves hload)).trans
      (addClient_leaves hclient)).trans (.same rfl rfl rfl rfl rfl)

theorem statement_leaves (hrun : RunsLeaving run) {s : Statement}
    (h : w.statement run s = .ok w') : Leaves w w' := by
  cases s with
  | msleep =>
    cases h
    exact .refl w
  | addElem e => exact (addElem_added hrun h).leaves
  | schedRenderUpdateScope scopeId =>
    obtain ⟨_, _, h⟩ := bind_eq_ok.mp h
    split_ifs at h
    · cases h
      exact .refl w
    · obtain ⟨_, _, h⟩ := bind_eq_ok.mp h
      cases h
      exact .same rfl rfl rfl rfl rfl
  | startTimer timerID =>
    change w.startTimer timerID = .ok w' at h
    rw [startTimer] at h
    split at h
    · cases h
    · obtain ⟨_, _, h⟩ := bind_eq_ok.mp h
      obtain ⟨_, _, h⟩ := bind_eq_ok.mp h
      obtain ⟨_, _, h⟩ := bind_eq_ok.mp h
      obtain ⟨_, _, h⟩ := bind_eq_ok.mp h
      obtain ⟨_, _, h⟩ := bind_eq_ok.mp h
      cases h
      exact .same rfl rfl rfl rfl rfl
  | cancelTimer timerID =>
    cases h
    exact .same rfl rfl rfl rfl rfl
  | setElemRes e n => exact setElemRes_leaves hrun h
  | sendXhr x =>
    change w.sendXhr x = .ok w' at h
    rw [sendXhr] at h
    split at h
    · cases h
    · obtain ⟨_, _, h⟩ := bind_eq_ok.mp h
      obtain ⟨_, _, h⟩ := bind_eq_ok.mp h
      exact xhrLoadNextChainEntry_leaves h
  | fetchRes n => exact fetchRes_leaves h

/-- **What a scope leaves alone.** -/
theorem executeScope_leaves : RunsLeaving executeScope := by
  intro scopeId w w' h
  obtain ⟨⟨w₁, statements⟩, hprepare, h⟩ := bind_eq_ok.mp h
  have hprepared : Leaves w w₁ := by
    obtain ⟨_, _, hprepare⟩ := bind_eq_ok.mp hprepare
    split at hprepare
    · cases hprepare
    · cases hprepare
      exact .same rfl rfl rfl rfl rfl
  exact hprepared.trans (Leaves.foldlM
    (fun s _ _ => statement_leaves fun _ _ _ h => absurd h nestedScope_ne_ok) h)

/-! ### What else executes scopes -/

theorem parseIfStylesheet_leaves {r : Resource} (h : w.parseIfStylesheet r = .ok w') :
    Leaves w w' := by
  rw [parseIfStylesheet] at h
  split at h
  · exact executeScope_leaves _ _ _ h
  · cases h
    exact .refl w

theorem doEndOfTaskWork_leaves (h : w.doEndOfTaskWork = .ok w') : Leaves w w' := by
  rw [doEndOfTaskWork] at h
  split_ifs at h
  · refine Leaves.trans ?_ (executeScope_leaves _ _ _ h)
    exact .same rfl rfl rfl rfl rfl
  · cases h
    exact .refl w

theorem xhrNotifyFinished_leaves {x : ℕ} {success : Bool}
    (h : w.xhrNotifyFinished x success = .ok w') : Leaves w w' := by
  rw [xhrNotifyFinished] at h
  split at h
  · cases h
  · obtain ⟨_, _, h⟩ := bind_eq_ok.mp h
    split_ifs at h
    · cases h
      exact .refl w
    · obtain ⟨w₁, hdone, h⟩ := bind_eq_ok.mp h
      exact ((Leaves.setEngine _).trans
        (fireEventHandlingScopes_leaves executeScope_leaves hdone)).trans
        (fireEventHandlingScopes_leaves executeScope_leaves h)
    · exact xhrLoadNextChainEntry_leaves h

theorem domTimerFired_leaves {timerID : ℕ} (h : w.domTimerFired timerID = .ok w') :
    Leaves w w' := by
  rw [domTimerFired] at h
  split at h
  · cases h
  · obtain ⟨_, _, h⟩ := bind_eq_ok.mp h
    split at h
    · cases h
    · obtain ⟨w₁, hscope, h⟩ := bind_eq_ok.mp h
      exact ((Leaves.setEngine _).trans (executeScope_leaves _ _ _ hscope)).trans
        (doEndOfTaskWork_leaves h)

theorem checkCompleted_leaves : Leaves w w.checkCompleted := by
  rw [checkCompleted]
  split
  · exact .same rfl rfl rfl rfl rfl
  · exact .refl w

theorem maybeLoadUnloadedResources_leaves (h : w.maybeLoadUnloadedResources = .ok w') :
    Leaves w w' := by
  rw [maybeLoadUnloadedResources] at h
  split_ifs at h
  · refine Leaves.foldlM (fun m v v' h => ?_) h
    obtain ⟨v₁, hget, h⟩ := bind_eq_ok.mp h
    obtain ⟨r, _, h⟩ := bind_eq_ok.mp h
    refine (getResource_leaves hget).trans ?_
    split_ifs at h
    · exact (Leaves.setEngine _).trans (loadResource_leaves h)
    · cases h
      exact .refl _
  · cases h
    exact .refl w

theorem completeDocument_leaves (h : w.completeDocument = .ok w') : Leaves w w' := by
  obtain ⟨w₁, hchange, h⟩ := bind_eq_ok.mp h
  have hready : Leaves w { w with document := { w.document with readyState := .complete } } :=
    .same rfl rfl rfl rfl rfl
  refine (hready.trans ?_).trans (fireEventHandlingScopes_leaves executeScope_leaves h)
  rcases doIf_eq_ok hchange with ⟨_, hchange⟩ | ⟨_, rfl⟩
  · exact fireEventHandlingScopes_leaves executeScope_leaves hchange
  · exact .refl _

theorem checkCompletedTimerFired_leaves (h : w.checkCompletedTimerFired = .ok w') :
    Leaves w w' := by
  obtain ⟨_, _, h⟩ := bind_eq_ok.mp h
  dsimp only at h
  split_ifs at h
  · obtain ⟨w₁, hcomplete, h⟩ := bind_eq_ok.mp h
    obtain ⟨r, _, h⟩ := bind_eq_ok.mp h
    have hcompleted := completeDocument_leaves hcomplete
    have hcompleted := (Leaves.setEngine (w := w) _).trans hcompleted
    exact (hcompleted.trans (Leaves.setEngine _)).trans (maybeLoadUnloadedResources_leaves h)
  · cases h
    exact .setEngine _

end World

end ShadowBrowser.Blink
