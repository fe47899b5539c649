/-
The load events of elements.

An element gets its handling scopes after its first resource has been set, is told nothing when the
resource finishes later, and is given a finished resource only by a script, which cannot execute a
scope.

* `uses_of_executed` — what is executed, something other than the load event of an element uses;
* `setElemRes_fails` — a script that gives an element with load scopes a finished resource fails;
* **`load_events_never_handled`** — the load scopes of an element are never executed for it.
-/
import ShadowBrowser.Lifecycle
import ShadowBrowser.ScopeRuns

namespace ShadowBrowser.Blink

open Checked Runs Relation World

variable {w w' : World}

/-- What is executed is used by something. -/
theorem uses_of_executed {w₀ : World} (hfresh : Fresh w₀) (h : Acts w₀ w) {scopeId : ℕ}
    (hs : scopeId ∈ w.engine.executedScopeIds) : w.model.Uses scopeId := by
  have hkept : Closed (fun w => FromModel w ∧ ∀ s ∈ w.engine.executedScopeIds, w.model.Uses s)
      ScopeStep := by
    rintro w w' ⟨hw, hexecuted⟩ hstep
    refine ⟨hstep.fromModel hw, fun s hs => ?_⟩
    rw [hstep.model]
    cases hstep with
    | quiet h => exact hexecuted s (h.executed ▸ hs)
    | execute huses h =>
      obtain ⟨_, _, rfl⟩ := prepareScope_cases h
      rcases List.mem_append.mp hs with hs | hs
      · exact hexecuted s hs
      · exact List.mem_singleton.mp hs ▸ huses
    | schedule _ hne h =>
      obtain ⟨_, _, rfl⟩ := schedRenderUpdateScope_cases hne h
      exact hexecuted s hs
    | body h =>
      obtain ⟨_, _, rfl⟩ := addBody_cases h
      exact hexecuted s hs
    | update hne h =>
      obtain ⟨_, _, rfl⟩ := prepareScope_cases h
      rcases List.mem_append.mp hs with hs | hs
      · exact hexecuted s hs
      · exact List.mem_singleton.mp hs ▸ hw.scheduled hne
  refine (hkept.star w₀ w ⟨hfresh.fromModel, fun s hs => ?_⟩ h).2 scopeId hs
  rw [hfresh.executed] at hs
  cases hs

namespace World

variable {e n : ℕ} {el : Element} {r : Resource}

/-- An element that leaves its resource leaves the others as they are. -/
theorem detach_resource (hr : w.fetcher.documentResources n = some r)
    (h : w.detach e el n = .ok w') : w'.fetcher.documentResources n = some r := by
  rw [detach] at h
  split_ifs at h with hother
  · obtain ⟨w₁, hget, h⟩ := bind_eq_ok.mp h
    obtain ⟨r', _, h⟩ := bind_eq_ok.mp h
    cases h
    rw [fetcher_note, setResource_of_ne hother.2]
    obtain ⟨rfl, _⟩ | ⟨_, info, _, rfl⟩ := getResource_cases hget
    · exact hr
    · rw [setResource_of_ne hother.2]
      exact hr
  · cases h
    exact hr

/-- **A script cannot give an element a finished resource** if the element has load scopes. -/
theorem setElemRes_fails {scopeId : ℕ} (he : e ∈ w.document.elements)
    (hel : w.document.objects e = some el) (hscope : (.load, scopeId) ∈ el.eventHandlingScopes)
    (hr : w.fetcher.documentResources n = some r) (hfin : r.isFinished)
    (hok : r.errored = false) : w.setElemRes nestedScope e n ≠ .ok w' := by
  intro h
  rw [setElemRes, if_pos he] at h
  obtain ⟨_, _, h⟩ := bind_eq_ok.mp h
  obtain ⟨_, _, h⟩ := bind_eq_ok.mp h
  obtain ⟨el', hel', h⟩ := bind_eq_ok.mp h
  cases hel.symm.trans (object_eq_ok hel')
  obtain ⟨w₁, hdetach, h⟩ := bind_eq_ok.mp h
  obtain ⟨w₂, hget, h⟩ := bind_eq_ok.mp h
  obtain ⟨w₃, hattach, _⟩ := bind_eq_ok.mp h
  have hr₁ : w₁.fetcher.documentResources n = some r := detach_resource hr hdetach
  obtain ⟨rfl, _⟩ | ⟨hnone, _⟩ := getResource_cases hget
  · obtain ⟨r', hr', hattach⟩ := bind_eq_ok.mp hattach
    cases hr₁.symm.trans (resource_eq_ok hr')
    rw [if_pos hfin, if_neg (by rw [hok]; exact Bool.false_ne_true)] at hattach
    obtain ⟨el', hel', hattach⟩ := bind_eq_ok.mp hattach
    have hel₁ : (w₁.setObject e { el with resInstNum := n }).document.objects e =
        some { el with resInstNum := n } := Function.update_self ..
    cases hel₁.symm.trans (object_eq_ok hel')
    -- the first of the load scopes is to be executed
    rw [fireEventHandlingScopes] at hattach
    cases hscopes : el.eventHandlingScopes.filter fun s => s.1 = .load with
    | nil =>
      have hmem : (EventName.load, scopeId) ∈ el.eventHandlingScopes.filter fun s => s.1 = .load :=
        List.mem_filter.mpr ⟨hscope, rfl⟩
      rw [hscopes] at hmem
      cases hmem
    | cons s rest =>
      simp only [hscopes] at hattach
      obtain ⟨w₄, hrun, _⟩ := bind_eq_ok.mp hattach
      exact nestedScope_ne_ok hrun
  · cases hr₁.symm.trans hnone

end World

/-- **Load events are never handled.**  In every run, at every moment and whatever the order in which
the resource of an element finishes and the element is made: a load scope of the element that nothing
else has executed is not executed.  When a script gives the element a resource that has succeeded,
then or again, a check fails. -/
theorem load_events_never_handled {es : List PageEvent} {v : World} {e scopeId : ℕ} {el : Element}
    (hrun : Run Renderer.Steps Renderer.start es (.page w)) (hmid : Acts w v)
    (hel : v.document.objects e = some el) (hscope : (.load, scopeId) ∈ el.eventHandlingScopes) :
    (scopeId ∈ v.engine.executedScopeIds → v.model.Uses scopeId) ∧
      ∀ n r v', e ∈ v.document.elements → v.fetcher.documentResources n = some r →
        r.isFinished → r.errored = false → v.setElemRes nestedScope e n ≠ .ok v' := by
  constructor
  · intro hexecuted
    obtain ⟨w₀, hfresh, hacts⟩ := Renderer.acts_of_run hrun
    exact uses_of_executed hfresh (hacts.trans hmid) hexecuted
  · intro n r v' he hr hfin hok
    exact setElemRes_fails he hel hscope hr hfin hok

/-- A page with two images that have one resource, and a load scope each. -/
def loadScopes : PageModel where
  resources := [
    (1, { partOfPageLoadedCheck := true, reqChain := [{ respBodySize := 10 }], type := .main }),
    (2, { partOfPageLoadedCheck := true, reqChain := [{ respBodySize := 0 }] })]
  elements := [
    (5, { tag := .img, initialResInstNum := 2, eventHandlingScopes := [(.load, 7)] }),
    (6, { tag := .img, initialResInstNum := 2, eventHandlingScopes := [(.load, 8)] })]
  execScopes := [(7, []), (8, [])]
  htmlElementByteOffsets := [(0, 5), (9, 6)]

/-- The first image is made, its resource succeeds, the second one is made, and the page is completed. -/
def bothImages : List PageEvent := [.loadPage 1 loadScopes 0, .message (.dataReceived 1 5),
  .message (.requestComplete 2 true [.fetcher, .element 5]), .message (.dataReceived 1 5),
  .message (.requestComplete 1 true [.fetcher, .document]), .checkCompletedTimer]

/-- An image with a load scope. -/
def imageWith (scopeId : ℕ) : Element where
  kind := .img
  resInstNum := 2
  eventHandlingScopes := [(.load, scopeId)]

theorem bothImages_run :
    ∃ w, Run Renderer.Steps Renderer.start bothImages (.page w) ∧
      w.document.objects 5 = some (imageWith 7) ∧ w.document.objects 6 = some (imageWith 8) ∧
      w.fetcher.documentResources 2 = some { imageLoading with
        loadState := .finished, clients := [.fetcher, .element 5] } ∧
      5 ∈ w.document.elements ∧ w.engine.executedScopeIds = [] ∧ w.engine.state = .idle ∧
      w.engine.pendingRequests = [] := by
  have hreturns : returns (exec Renderer.step Renderer.start bothImages)
      (Renderer.isPage fun w => decide (w.document.objects 5 = some (imageWith 7) ∧
        w.document.objects 6 = some (imageWith 8) ∧
        w.fetcher.documentResources 2 = some { imageLoading with
          loadState := .finished, clients := [.fetcher, .element 5] } ∧
        5 ∈ w.document.elements ∧ w.engine.executedScopeIds = [] ∧ w.engine.state = .idle ∧
        w.engine.pendingRequests = [])) = true := by decide
  obtain ⟨w, hrun, htest⟩ := Renderer.exists_of_returns hreturns
  exact ⟨w, hrun, of_decide_eq_true htest⟩

/-- The resource of the images has succeeded after the one was made and before the other, the page is
complete, and neither load scope has been executed. -/
theorem load_events_never_handled_fails :
    ∃ w, Run Renderer.Steps Renderer.start bothImages (.page w) ∧
      w.document.objects 5 = some (imageWith 7) ∧ w.document.objects 6 = some (imageWith 8) ∧
      (∃ r, w.fetcher.documentResources 2 = some r ∧ r.isFinished ∧ r.errored = false) ∧
      w.engine.state = .idle ∧ w.engine.pendingRequests = [] ∧
      7 ∉ w.engine.executedScopeIds ∧ 8 ∉ w.engine.executedScopeIds := by
  obtain ⟨w, hrun, hfirst, hsecond, hr, _, hnone, hidle, hpending⟩ := bothImages_run
  refine ⟨w, hrun, hfirst, hsecond, ⟨_, hr, rfl, rfl⟩, hidle, hpending, ?_, ?_⟩
  · rw [hnone]
    exact List.not_mem_nil
  · rw [hnone]
    exact List.not_mem_nil

/-- A script that gives the first image its resource again fails. -/
theorem load_events_never_handled_again :
    ∃ w, Run Renderer.Steps Renderer.start bothImages (.page w) ∧
      ∀ w', w.setElemRes nestedScope 5 2 ≠ .ok w' := by
  obtain ⟨w, hrun, hfirst, _, hr, he, _⟩ := bothImages_run
  have hscope : (EventName.load, 7) ∈ (imageWith 7).eventHandlingScopes := by decide
  refine ⟨w, hrun, fun w' => ?_⟩
  exact (load_events_never_handled hrun .refl hfirst hscope).2 2 _ w' he hr rfl rfl

end ShadowBrowser.Blink
