/-
The parser reads the document in order, and reports its end.

* `Reading` — the parser's two cursors, in the bytes and in the list of elements, and the elements of the
  document;
* `Parsing` — and what has become of the end: it is reported, or it is delayed, or not all has come;
* `Settled` — between events a delayed end waits for something;
* **`reads_in_order`** — the elements are added in the order of the list, each once its byte has been
  received, and at the end only elements are missing whose byte is the last one and an earlier
  element's as well;
* **`end_reported`** — the end is reported when there is nothing left to parse, to run or to wait for, and
  never again;
* **`ends_once`** — so it is reported once.
-/
import ShadowBrowser.ScriptFrame

namespace ShadowBrowser.Blink

open Checked Runs Relation World

/-- The elements of the main document are listed in the order of their offsets. -/
def PageModel.InOrder (model : PageModel) : Prop :=
  model.htmlElementByteOffsets.Pairwise fun x y => x.1 ≤ y.1

namespace HTMLDocumentParser

/-- The elements that have been reached. -/
def reached (parser : HTMLDocumentParser) : List (ℕ × ℕ) :=
  parser.elementLocations.take parser.elementLocIdx

/-- The elements that have not. -/
def ahead (parser : HTMLDocumentParser) : List (ℕ × ℕ) :=
  parser.elementLocations.drop parser.elementLocIdx

/-- What has been received: whether that is all, and how much. -/
def input (parser : HTMLDocumentParser) : Bool × ℕ :=
  (parser.doneReceived, parser.numBytesReceived)

end HTMLDocumentParser

/-- The parser's two cursors, and the elements of the document. -/
structure Reading (w : World) : Prop where
  parsed_le : w.parser.numBytesParsed ≤ w.parser.numBytesReceived
  scanned_le : w.parser.numPreloadScannedBytes ≤ w.parser.numBytesReceived
  locations : w.parser.elementLocations = w.model.htmlElementByteOffsets
  received : ∀ x ∈ w.parser.reached, x.1 + 1 ≤ w.parser.numBytesReceived
  parsed : w.model.InOrder → ∀ x ∈ w.parser.reached, x.1 + 1 ≤ w.parser.numBytesParsed
  ahead : w.model.InOrder → ∀ x ∈ w.parser.ahead, w.parser.numBytesParsed < x.1 + 1 ∨
    w.parser.numBytesParsed = x.1 + 1 ∧ ∃ y ∈ w.parser.reached, y.1 = x.1
  added : ((w.parser.reached.map (·.2)).filter fun e => !w.model.isBody e).Sublist
    w.document.elements
  body : ∀ x ∈ w.parser.reached, w.model.isBody x.2 = true → w.document.hasBodyElement = true
  nodup : w.document.elements.Nodup
  lastOnce : w.model.InOrder → w.parser.reached.Pairwise fun x y =>
    x.1 + 1 = w.parser.numBytesReceived → y.1 + 1 ≠ w.parser.numBytesReceived

namespace Reading

variable {w w₁ w' : World}

/-- What executes scripts leaves the cursors alone. -/
theorem leaves (h : Reading w) (hl : LeavesPlace w w') : Reading w' := by
  obtain ⟨hmodel, ⟨b, hparser⟩, hfinished, helements, hnodup, hbody⟩ := hl
  constructor
  · rw [hparser]
    exact h.parsed_le
  · rw [hparser]
    exact h.scanned_le
  · rw [hparser, hmodel]
    exact h.locations
  · rw [hparser]
    exact h.received
  · rw [hparser, hmodel]
    exact h.parsed
  · rw [hparser, hmodel]
    exact h.ahead
  · rw [hparser, hmodel]
    exact h.added.trans helements.sublist
  · rw [hparser, hmodel]
    exact fun x hx hb => hbody (h.body x hx hb)
  · exact hnodup h.nodup
  · rw [hparser, hmodel]
    exact h.lastOnce

/-- What the cursors do not depend on is changed. -/
theorem setParser (h : Reading w) {parser : HTMLDocumentParser}
    (hlocations : parser.elementLocations = w.parser.elementLocations)
    (hidx : parser.elementLocIdx = w.parser.elementLocIdx)
    (hparsed : parser.numBytesParsed = w.parser.numBytesParsed)
    (hreceived : parser.numBytesReceived = w.parser.numBytesReceived)
    (hscanned : parser.numPreloadScannedBytes ≤ w.parser.numBytesReceived) :
    Reading { w with parser } := by
  have hreached : parser.reached = w.parser.reached := by
    rw [HTMLDocumentParser.reached, HTMLDocumentParser.reached, hlocations, hidx]
  have hahead : parser.ahead = w.parser.ahead := by
    rw [HTMLDocumentParser.ahead, HTMLDocumentParser.ahead, hlocations, hidx]
  refine ⟨?_, ?_, hlocations.trans h.locations, ?_, ?_, ?_, ?_, ?_, h.nodup, ?_⟩ <;> dsimp only
  · rw [hparsed, hreceived]
    exact h.parsed_le
  · rw [hreceived]
    exact hscanned
  · rw [hreached, hreceived]
    exact h.received
  · rw [hreached, hparsed]
    exact h.parsed
  · rw [hreached, hahead, hparsed]
    exact h.ahead
  · rw [hreached]
    exact h.added
  · rw [hreached]
    exact h.body
  · rw [hreached, hreceived]
    exact h.lastOnce

/-- The cursor moves on to where the next element is not yet. -/
theorem skip (h : Reading w) {limit : ℕ} (hle : w.parser.numBytesParsed ≤ limit)
    (hlimit : limit ≤ w.parser.numBytesReceived)
    (hahead : w.model.InOrder → ∀ x ∈ w.parser.ahead, limit < x.1 + 1) :
    Reading { w with parser := { w.parser with numBytesParsed := limit } } where
  parsed_le := hlimit
  scanned_le := h.scanned_le
  locations := h.locations
  received := h.received
  parsed hord x hx := Nat.le_trans (h.parsed hord x hx) hle
  ahead hord x hx := .inl (hahead hord x hx)
  added := h.added
  body := h.body
  nodup := h.nodup
  lastOnce := h.lastOnce

/-- The elements ahead have no smaller offsets than the next one. -/
theorem le_ahead (h : Reading w) {offset e : ℕ} {rest : List (ℕ × ℕ)}
    (hrest : w.parser.ahead = (offset, e) :: rest) (hord : w.model.InOrder) :
    ∀ x ∈ rest, offset ≤ x.1 := by
  have hpair : w.parser.ahead.Pairwise fun x y => x.1 ≤ y.1 := by
    rw [HTMLDocumentParser.ahead, h.locations]
    exact hord.sublist (List.drop_sublist _ _)
  rw [hrest] at hpair
  exact (List.pairwise_cons.mp hpair).1

/-- The elements reached have no larger offsets than the next one. -/
theorem reached_le (h : Reading w) {offset e : ℕ} {rest : List (ℕ × ℕ)}
    (hrest : w.parser.ahead = (offset, e) :: rest) (hord : w.model.InOrder) :
    ∀ x ∈ w.parser.reached, x.1 ≤ offset := by
  have hpair : (w.parser.reached ++ w.parser.ahead).Pairwise fun x y => x.1 ≤ y.1 := by
    rw [HTMLDocumentParser.reached, HTMLDocumentParser.ahead, List.take_append_drop, h.locations]
    exact hord
  rw [hrest] at hpair
  intro x hx
  exact (List.pairwise_append.mp hpair).2.2 x hx (offset, e) List.mem_cons_self

/-- The next element has been reached. -/
theorem reached_succ {parser : HTMLDocumentParser} {x : ℕ × ℕ} {rest : List (ℕ × ℕ)}
    (hrest : parser.ahead = x :: rest) (parsed : ℕ) :
    ({ parser with numBytesParsed := parsed, elementLocIdx := parser.elementLocIdx + 1 } :
      HTMLDocumentParser).reached = parser.reached ++ [x] ∧
    ({ parser with numBytesParsed := parsed, elementLocIdx := parser.elementLocIdx + 1 } :
      HTMLDocumentParser).ahead = rest := by
  rw [HTMLDocumentParser.ahead] at hrest
  constructor
  · change parser.elementLocations.take (parser.elementLocIdx + 1) = _
    have hget : parser.elementLocations[parser.elementLocIdx]? = some x := by
      rw [← List.head?_drop, hrest]
      rfl
    rw [List.take_add_one, hget]
    rfl
  · change parser.elementLocations.drop (parser.elementLocIdx + 1) = rest
    rw [← List.drop_drop, hrest]
    rfl

/-- **The next element is added.** -/
theorem add (h : Reading w) {offset e : ℕ} {rest : List (ℕ × ℕ)}
    (hrest : w.parser.ahead = (offset, e) :: rest)
    (hoffset : offset + 1 ≤ w.parser.numBytesReceived)
    (hlt : w.parser.numBytesParsed < w.parser.numBytesReceived)
    (hadded : Added e { w with parser := { w.parser with
      numBytesParsed := offset + 1, elementLocIdx := w.parser.elementLocIdx + 1 } } w') :
    Reading w' ∧ w'.parser.ahead = rest := by
  obtain ⟨⟨⟨hmodel, ⟨b, hparser⟩, -, helements, hnodup, hbody⟩, -⟩, hisBody, hlast⟩ := hadded
  obtain ⟨hreached, hahead⟩ := reached_succ hrest (offset + 1)
  have hreached' : w'.parser.reached = w.parser.reached ++ [(offset, e)] := by
    rw [hparser]
    exact hreached
  have hahead' : w'.parser.ahead = rest := by
    rw [hparser]
    exact hahead
  have hparsed' : w'.parser.numBytesParsed = offset + 1 := by rw [hparser]
  have hreceived' : w'.parser.numBytesReceived = w.parser.numBytesReceived := by rw [hparser]
  have hmodel' : w'.model = w.model := hmodel
  have hmem : ∀ {x}, x ∈ w.parser.reached ++ [(offset, e)] →
      x ∈ w.parser.reached ∨ x = (offset, e) := by
    intro x hx
    exact (List.mem_append.mp hx).imp_right List.mem_singleton.mp
  -- what has been reached is what was reached before and this element
  refine ⟨⟨?_, ?_, ?_, ?_, ?_, ?_, ?_, ?_, hnodup h.nodup, ?_⟩, hahead'⟩
  · rw [hparsed', hreceived']
    exact hoffset
  · rw [hparser]
    exact h.scanned_le
  · rw [hparser, hmodel']
    exact h.locations
  · rw [hreached', hreceived']
    intro x hx
    rcases hmem hx with hx | rfl
    · exact h.received x hx
    · exact hoffset
  · rw [hreached', hparsed', hmodel']
    intro hord x hx
    rcases hmem hx with hx | rfl
    · exact Nat.succ_le_succ (h.reached_le hrest hord x hx)
    · exact Nat.le_refl _
  · rw [hreached', hahead', hparsed', hmodel']
    intro hord x hx
    have hle := h.le_ahead hrest hord x hx
    -- an element at the same byte is already reached, as the byte has now been parsed
    rcases Nat.lt_or_ge offset x.1 with hlt | hge
    · exact .inl (Nat.succ_lt_succ hlt)
    · have heq : offset = x.1 := Nat.le_antisymm hle hge
      exact .inr ⟨congrArg (· + 1) heq, (offset, e),
        List.mem_append_right _ (List.mem_singleton.mpr rfl), heq⟩
  · rw [hreached', hmodel', List.map_append, List.filter_append]
    -- the body is not added, as it is there from the start
    cases hb : w.model.isBody e with
    | true =>
      have hnone : ([(offset, e)].map (·.2)).filter (fun e => !w.model.isBody e) = [] := by
        simp [hb]
      rw [hnone, List.append_nil]
      exact h.added.trans helements.sublist
    | false =>
      obtain ⟨l, hl⟩ := hlast hb
      have hone : ([(offset, e)].map (·.2)).filter (fun e => !w.model.isBody e) = [e] := by
        simp [hb]
      rw [hone, hl]
      exact (h.added.trans (List.sublist_append_left _ l)).append (List.Sublist.refl [e])
  · rw [hreached', hmodel']
    intro x hx hb
    rcases hmem hx with hx | rfl
    · exact hbody (h.body x hx hb)
    · exact hisBody hb
  · rw [hreached', hreceived', hmodel']
    intro hord
    refine List.pairwise_append.mpr ⟨h.lastOnce hord, List.pairwise_singleton _ _, ?_⟩
    -- the last byte has not been parsed, so that none before is on it
    intro x hx y _ hlast
    have := h.parsed hord x hx
    omega

end Reading

/-- What scripts leave alone. -/
theorem LeavesPlace.input {w w' : World} (h : LeavesPlace w w') :
    w'.parser.input = w.parser.input := by
  obtain ⟨b, hparser⟩ := h.parser
  rw [hparser]
  rfl

/-! ### The end of the document -/

/-- What has become of the end: it is reported, or it is delayed, or not all has come. -/
structure Parsing (w : World) : Prop extends Reading w where
  idle : w.parser.isExecutingScript = false
  finished : w.document.finishedParsing = w.parser.doneParsing
  done : w.parser.doneParsing = true → w.parser.endWasDelayed = false ∧
    w.parser.doneReceived = true ∧ w.parser.numBytesParsed = w.parser.numBytesReceived
  delayed : w.parser.endWasDelayed = true → w.parser.doneReceived = true ∧ w.parser.doneParsing = false
  ending : w.parser.doneReceived = true → w.parser.doneParsing = true ∨ w.parser.endWasDelayed = true
  ends : w.parser.ends = if w.parser.doneParsing = true then 1 else 0

/-- Between events a delayed end waits for something. -/
structure Settled (w : World) : Prop extends Parsing w where
  outside : w.parser.pumpSessionNestingLevel = 0
  waits : w.parser.endWasDelayed = true → w.shouldDelayEnd

namespace Parsing

variable {w w₁ w' : World}

theorem leaves (h : Parsing w) (hl : LeavesPlace w w') : Parsing w' := by
  obtain ⟨b, hparser⟩ := hl.parser
  refine ⟨h.toReading.leaves hl, ?_, ?_, ?_, ?_, ?_, ?_⟩
  · rw [hparser]
    exact h.idle
  · rw [hl.finished, hparser]
    exact h.finished
  · rw [hparser]
    exact h.done
  · rw [hparser]
    exact h.delayed
  · rw [hparser]
    exact h.ending
  · rw [hparser]
    exact h.ends

/-- Until the end is reported it has not been. -/
theorem ends_eq_zero (h : Parsing w) (hnotDone : w.parser.doneParsing = false) :
    w.parser.ends = 0 := by
  rw [h.ends, if_neg (by rw [hnotDone]; exact Bool.false_ne_true)]

/-- While not all has come the end is not delayed, nor reported. -/
theorem early (h : Parsing w) (hreceived : w.parser.doneReceived = false) :
    w.parser.doneParsing = false ∧ w.parser.endWasDelayed = false := by
  constructor
  · cases hdone : w.parser.doneParsing with
    | false => rfl
    | true => exact absurd (hreceived.symm.trans (h.done hdone).2.1) Bool.false_ne_true
  · cases hdelayed : w.parser.endWasDelayed with
    | false => rfl
    | true => exact absurd (hreceived.symm.trans (h.delayed hdelayed).1) Bool.false_ne_true

end Parsing

theorem Settled.leaves {w w' : World} (h : Settled w) (hl : Leaves w w') : Settled w' := by
  obtain ⟨b, hparser⟩ := hl.parser
  refine ⟨h.toParsing.leaves hl.toLeavesPlace, ?_, fun hdelayed => ?_⟩
  · rw [hparser]
    exact h.outside
  · rw [hparser] at hdelayed
    obtain hpump | hblocked | hexec | hbytes | htimer := h.waits hdelayed
    · refine .inl ?_
      rw [inPumpSession, hparser]
      exact hpump
    · obtain ⟨e, he⟩ := Option.ne_none_iff_exists'.mp hblocked
      refine .inr (.inl ?_)
      rw [hl.blocked e he]
      nofun
    · exact absurd (h.idle.symm.trans hexec) Bool.false_ne_true
    · refine .inr (.inr (.inr (.inl ?_)))
      rw [hparser]
      exact hbytes
    · refine .inr (.inr (.inr (.inr ?_)))
      rw [hparser]
      exact htimer

/-- Where nothing is left to parse, to run or to wait for, the end has been reported. -/
theorem Settled.doneParsing {w : World} (h : Settled w) (hreceived : w.parser.doneReceived = true)
    (hall : w.parser.numBytesParsed = w.parser.numBytesReceived)
    (hfree : w.parser.parserBlockingScript = none) (htimer : w.parser.timerToResume = false) :
    w.parser.doneParsing = true := by
  refine (h.ending hreceived).resolve_right fun hdelayed => ?_
  -- a delayed end waits for something, and there is nothing
  obtain hpump | hblocked | hexec | hbytes | hresume := h.waits hdelayed
  · rw [inPumpSession, h.outside] at hpump
    exact Nat.lt_irrefl 0 hpump
  · exact hblocked hfree
  · exact absurd (h.idle.symm.trans hexec) Bool.false_ne_true
  · omega
  · exact absurd (htimer.symm.trans hresume) Bool.false_ne_true

namespace World

variable {w w' : World}

/-- The end is reported when all has come and has been parsed. -/
theorem parserEnd_parsing (hr : Reading w) (hidle : w.parser.isExecutingScript = false)
    (hdelayed : w.parser.endWasDelayed = false) (hreceived : w.parser.doneReceived = true)
    (hall : w.parser.numBytesParsed = w.parser.numBytesReceived) (hends : w.parser.ends = 0)
    (h : w.parserEnd = .ok w') :
    Parsing w' ∧ w'.parser.endWasDelayed = false ∧
      w'.parser.pumpSessionNestingLevel = w.parser.pumpSessionNestingLevel ∧
      w'.parser.input = w.parser.input := by
  obtain ⟨w₁, hfire, h⟩ := bind_eq_ok.mp h
  cases h
  have hl : Leaves { w with
      parser := { w.parser with doneParsing := true, ends := w.parser.ends + 1 }
      document := { w.document with finishedParsing := true } } w₁.checkCompleted :=
    (fireEventHandlingScopes_leaves executeScope_leaves hfire).trans checkCompleted_leaves
  have hended : Parsing { w with
      parser := { w.parser with doneParsing := true, ends := w.parser.ends + 1 }
      document := { w.document with finishedParsing := true } } :=
    ⟨⟨hr.parsed_le, hr.scanned_le, hr.locations, hr.received, hr.parsed, hr.ahead, hr.added,
      hr.body, hr.nodup, hr.lastOnce⟩, hidle, rfl, fun _ => ⟨hdelayed, hreceived, hall⟩,
      fun h => absurd (hdelayed.symm.trans h) Bool.false_ne_true, fun _ => .inl rfl,
      congrArg (· + 1) hends⟩
  obtain ⟨b, hparser⟩ := hl.parser
  refine ⟨hended.leaves hl.toLeavesPlace, ?_, ?_, ?_⟩
  · rw [hparser]
    exact hdelayed
  · rw [hparser]
  · rw [hparser]
    rfl

/-- All that has come has been parsed when the end need not be delayed. -/
theorem parsed_of_not_delay (hr : Reading w) (h : ¬ w.shouldDelayEnd) :
    w.parser.numBytesParsed = w.parser.numBytesReceived :=
  Nat.le_antisymm hr.parsed_le (Nat.le_of_not_lt fun hlt => h (.inr (.inr (.inr (.inl hlt)))))

/-- The end has come, and is reported or delayed. -/
theorem finishReceive_settled (hw : Settled w) (h : w.finishReceive = .ok w') :
    Settled w' ∧ w'.parser.input = (true, w.parser.numBytesReceived) := by
  obtain ⟨_, hearly, h⟩ := bind_eq_ok.mp h
  have hearly := check_eq_ok.mp hearly
  obtain ⟨hnotDone, hnotDelayed⟩ := hw.early hearly
  have hr : Reading { w with parser := { w.parser with doneReceived := true } } :=
    hw.toReading.setParser rfl rfl rfl rfl hw.scanned_le
  rw [attemptToEnd] at h
  split_ifs at h with hdelay
  · cases h
    have hr : Reading { w with parser := { w.parser with doneReceived := true, endWasDelayed := true } } :=
      hw.toReading.setParser rfl rfl rfl rfl hw.scanned_le
    exact ⟨⟨⟨hr, hw.idle, hw.finished, fun h => absurd (hnotDone.symm.trans h) Bool.false_ne_true,
      fun _ => ⟨rfl, hnotDone⟩, fun _ => .inr rfl, hw.ends⟩, hw.outside, fun _ => hdelay⟩, rfl⟩
  · obtain ⟨hparsing, hdelayed, hlevel, hinput⟩ := parserEnd_parsing hr hw.idle hnotDelayed rfl
      (parsed_of_not_delay hr hdelay) (hw.ends_eq_zero hnotDone) h
    exact ⟨⟨hparsing, hlevel.trans hw.outside,
      fun h => absurd (hdelayed.symm.trans h) Bool.false_ne_true⟩, hinput⟩

/-- A delayed end is reported once nothing is waited for. -/
theorem endIfDelayed_settled (hw : Parsing w) (hlevel : w.parser.pumpSessionNestingLevel = 0)
    (h : w.endIfDelayed = .ok w') : Settled w' ∧ w'.parser.input = w.parser.input := by
  rw [endIfDelayed] at h
  split_ifs at h with hkeep
  · cases h
    refine ⟨⟨hw, hlevel, fun hdelayed => hkeep.resolve_left fun hnot => ?_⟩, rfl⟩
    exact absurd (hnot.symm.trans hdelayed) Bool.false_ne_true
  · obtain ⟨hdelayed, hnot⟩ := not_or.mp hkeep
    have hdelayed : w.parser.endWasDelayed = true := by simpa using hdelayed
    have hr : Reading { w with parser := { w.parser with endWasDelayed := false } } :=
      hw.toReading.setParser rfl rfl rfl rfl hw.scanned_le
    obtain ⟨hparsing, hdelayed', hlevel', hreceived⟩ := parserEnd_parsing hr hw.idle rfl
      (hw.delayed hdelayed).1 (parsed_of_not_delay (w := w) hw.toReading hnot)
      (hw.ends_eq_zero (hw.delayed hdelayed).2) h
    exact ⟨⟨hparsing, hlevel'.trans hlevel,
      fun h => absurd (hdelayed'.symm.trans h) Bool.false_ne_true⟩, hreceived⟩

/-! ### Pumping -/

end World

/-- In a pump session the end is not reported. -/
structure Pumping (w w' : World) : Prop extends Parsing w' where
  notDone : w'.parser.doneParsing = false
  level : w'.parser.pumpSessionNestingLevel = w.parser.pumpSessionNestingLevel
  input : w'.parser.input = w.parser.input

theorem Pumping.trans {w w₁ w' : World} (h : Pumping w w₁) (h' : Pumping w₁ w') : Pumping w w' :=
  ⟨h'.toParsing, h'.notDone, h'.level.trans h.level, h'.input.trans h.input⟩

theorem Pumping.refl {w : World} (h : Parsing w) (hnotDone : w.parser.doneParsing = false) :
    Pumping w w :=
  ⟨h, hnotDone, rfl, rfl⟩

/-- What does not matter to the end is changed of the parser. -/
theorem Parsing.setParser {w : World} (h : Parsing w) (hnotDone : w.parser.doneParsing = false)
    {parser : HTMLDocumentParser} (hr : Reading { w with parser })
    (hidle : parser.isExecutingScript = w.parser.isExecutingScript)
    (hdone : parser.doneParsing = w.parser.doneParsing)
    (hdelayed : parser.endWasDelayed = w.parser.endWasDelayed)
    (hreceived : parser.doneReceived = w.parser.doneReceived)
    (hends : parser.ends = w.parser.ends) : Parsing { w with parser } := by
  refine ⟨hr, hidle.trans h.idle, h.finished.trans hdone.symm, fun hd => ?_, ?_, ?_, ?_⟩
  · exact absurd ((hdone.trans hnotDone).symm.trans hd) Bool.false_ne_true
  · rw [hdelayed, hreceived, hdone]
    exact h.delayed
  · rw [hdelayed, hreceived, hdone]
    exact h.ending
  · rw [hends, hdone]
    exact h.ends

namespace World

variable {w w' : World} {limit : ℕ}

/-- **The loop**: the elements that the limit leaves room for are added, until a script blocks. -/
theorem pumpLoop_pumping {l : List (ℕ × ℕ)} : ∀ {w w' : World}, Parsing w →
    w.parser.doneParsing = false → w.parser.ahead = l → w.parser.numBytesParsed ≤ limit →
    limit ≤ w.parser.numBytesReceived → pumpLoop limit l w = .ok w' →
    Pumping w w' ∧ w'.parser.numBytesParsed ≤ limit ∧
      (w'.parser.parserBlockingScript = none → w'.parser.numBytesParsed = limit) := by
  -- nothing is to be done
  have hstop : ∀ {v : World}, Parsing v → v.parser.doneParsing = false →
      v.parser.numBytesParsed ≤ limit →
      ¬ (v.parser.numBytesParsed < limit ∧ v.parser.parserBlockingScript = none) →
      Pumping v v ∧ v.parser.numBytesParsed ≤ limit ∧
        (v.parser.parserBlockingScript = none → v.parser.numBytesParsed = limit) := by
    intro v hv hnotDone hle hnot
    refine ⟨.refl hv hnotDone, hle, fun hfree => Nat.le_antisymm hle (Nat.le_of_not_lt fun hlt => ?_)⟩
    exact hnot ⟨hlt, hfree⟩
  -- the limit is before the next element
  have hskip : ∀ {v : World}, Parsing v → v.parser.doneParsing = false →
      v.parser.numBytesParsed ≤ limit → limit ≤ v.parser.numBytesReceived →
      (v.model.InOrder → ∀ x ∈ v.parser.ahead, limit < x.1 + 1) →
      Pumping v { v with parser := { v.parser with numBytesParsed := limit } } ∧ limit ≤ limit ∧
        (v.parser.parserBlockingScript = none → limit = limit) := by
    intro v hv hnotDone hle hlimit hahead
    refine ⟨⟨hv.setParser hnotDone (hv.toReading.skip hle hlimit hahead) rfl rfl rfl rfl rfl, hnotDone,
      rfl, rfl⟩, Nat.le_refl _, fun _ => rfl⟩
  induction l with
  | nil =>
    intro w w' hw hnotDone hahead hle hlimit h
    rw [pumpLoop] at h
    split_ifs at h with hgo
    · cases h
      refine hskip hw hnotDone hle hlimit fun _ x hx => ?_
      rw [hahead] at hx
      cases hx
    · cases h
      exact hstop hw hnotDone hle hgo
  | cons x l ih =>
    intro w w' hw hnotDone hahead hle hlimit h
    obtain ⟨offset, e⟩ := x
    rw [pumpLoop] at h
    split_ifs at h with hgo hroom
    · obtain ⟨w₁, hadd, h⟩ := bind_eq_ok.mp h
      have hadded := addElem_added executeScope_leaves hadd
      obtain ⟨hr, hahead₁⟩ := hw.toReading.add hahead (Nat.le_trans hroom hlimit)
        (Nat.lt_of_lt_of_le hgo.1 hlimit) hadded
      obtain ⟨b, hparser⟩ := hadded.leaves.parser
      have hpumping : Pumping w w₁ := by
        refine ⟨⟨hr, ?_, ?_, ?_, ?_, ?_, ?_⟩, ?_, ?_, ?_⟩
        · rw [hparser]
          exact hw.idle
        · rw [hadded.leaves.finished, hparser]
          exact hw.finished
        · rw [hparser]
          exact fun hd => absurd (hnotDone.symm.trans hd) Bool.false_ne_true
        · rw [hparser]
          exact hw.delayed
        · rw [hparser]
          exact hw.ending
        · rw [hparser]
          exact hw.ends
        · rw [hparser]
          exact hnotDone
        · rw [hparser]
        · rw [hparser]
          rfl
      have hle₁ : w₁.parser.numBytesParsed ≤ limit := by
        rw [hparser]
        exact hroom
      have hlimit₁ : limit ≤ w₁.parser.numBytesReceived := by
        rw [hparser]
        exact hlimit
      obtain ⟨hpumped, hend⟩ := ih hpumping.toParsing hpumping.notDone hahead₁ hle₁ hlimit₁ h
      exact ⟨hpumping.trans hpumped, hend⟩
    · cases h
      refine hskip hw hnotDone hle hlimit fun hord x hx => ?_
      rw [hahead] at hx
      rcases List.mem_cons.mp hx with rfl | hx
      · exact Nat.lt_of_not_le hroom
      · have hoffset := hw.toReading.le_ahead hahead hord x hx
        omega
    · cases h
      exact hstop hw hnotDone hle hgo

/-- In a pump session the end can only be delayed. -/
theorem endOrYield_pumping (hw : Parsing w) (hnotDone : w.parser.doneParsing = false)
    (hpump : w.inPumpSession) (h : w.endOrYield limit = .ok w') : Pumping w w' := by
  rw [endOrYield] at h
  split_ifs at h with hend
  · obtain ⟨_, _, h⟩ := bind_eq_ok.mp h
    rw [attemptToEnd, if_pos (.inl hpump)] at h
    cases h
    refine ⟨⟨hw.toReading.setParser rfl rfl rfl rfl hw.scanned_le, hw.idle, hw.finished, fun hd => ?_,
      fun _ => ⟨hend.2, hnotDone⟩, fun _ => .inr rfl, hw.ends⟩, hnotDone, rfl, rfl⟩
    exact absurd (hnotDone.symm.trans hd) Bool.false_ne_true
  · obtain ⟨_, _, h⟩ := bind_eq_ok.mp h
    cases h
    exact ⟨hw.setParser hnotDone (hw.toReading.setParser rfl rfl rfl rfl hw.scanned_le) rfl rfl rfl rfl
      rfl, hnotDone, rfl, rfl⟩
  · cases h
    exact .refl hw hnotDone

/-! ### Preload scanning -/

/-- The scan does not get further than the bytes received. -/
theorem preloadScan_le {l : List (ℕ × ℕ)} : ∀ {scanned scanned' : ℕ} {noMore : Bool} {ns : List ℕ},
    scanned ≤ w.parser.numBytesReceived → w.preloadScan l scanned = .ok (scanned', noMore, ns) →
    scanned' ≤ w.parser.numBytesReceived := by
  induction l with
  | nil =>
    intro scanned scanned' noMore ns hle h
    rw [preloadScan] at h
    split_ifs at h
    · cases h
      exact Nat.le_refl _
    · cases h
      exact hle
  | cons x l ih =>
    intro scanned scanned' noMore ns hle h
    obtain ⟨offset, e⟩ := x
    rw [preloadScan] at h
    split_ifs at h with hgo hroom
    · split at h
      · cases h
      · obtain ⟨⟨scanned₁, noMore₁, ns₁⟩, hscan, h⟩ := bind_eq_ok.mp h
        cases h
        exact ih hroom hscan
    · cases h
      exact Nat.le_refl _
    · cases h
      exact hle

/-- Scanning moves only the cursor of the scan, and starts loads. -/
theorem preloadIfBlocked_leaves (hr : Reading w) (h : w.preloadIfBlocked = .ok w') :
    ∃ scanned noMore, scanned ≤ w.parser.numBytesReceived ∧ Leaves { w with parser := { w.parser with
      numPreloadScannedBytes := scanned, noMorePreloadScanningNecessary := noMore } } w' := by
  rcases doIf_eq_ok h with ⟨_, h⟩ | ⟨_, rfl⟩
  · obtain ⟨_, _, h⟩ := bind_eq_ok.mp h
    have hle : max w.parser.numPreloadScannedBytes w.parser.numBytesParsed ≤
        w.parser.numBytesReceived := Nat.max_le.mpr ⟨hr.scanned_le, hr.parsed_le⟩
    have hsame : ∃ scanned noMore, scanned ≤ w.parser.numBytesReceived ∧ Leaves { w with
        parser := { w.parser with
          numPreloadScannedBytes := scanned, noMorePreloadScanningNecessary := noMore } } { w with
        parser := { w.parser with
          numPreloadScannedBytes := max w.parser.numPreloadScannedBytes w.parser.numBytesParsed } } :=
      ⟨_, _, hle, .refl _⟩
    -- all that has been received is scanned, or the scan goes on from where it was
    by_cases hall : max w.parser.numPreloadScannedBytes w.parser.numBytesParsed =
        w.parser.numBytesReceived
    · dsimp only at h
      rw [if_pos hall] at h
      cases h
      exact hsame
    · dsimp only at h
      rw [if_neg hall] at h
      obtain ⟨_, _, h⟩ := bind_eq_ok.mp h
      split_ifs at h
      · cases h
        exact hsame
      · rw [scanFrom] at h
        split at h
        · cases h
          exact hsame
        · obtain ⟨⟨scanned, noMore, ns⟩, hscan, h⟩ := bind_eq_ok.mp h
          have hscanned := fun hle => preloadScan_le hle hscan
          exact ⟨scanned, noMore, hscanned hle, Leaves.foldlM (fun _ _ _ => fetchRes_leaves) h⟩
  · exact ⟨_, _, hr.scanned_le, .refl _⟩

/-! ### What the parser does when it is called -/

/-- **A pump session.** -/
theorem pumpTokenizer_pumping (hw : Parsing w) (hnotDone : w.parser.doneParsing = false)
    (h : w.pumpTokenizer = .ok w') : Pumping w w' := by
  obtain ⟨w₁, hloop, h⟩ := bind_eq_ok.mp h
  obtain ⟨w₂, hend, h⟩ := bind_eq_ok.mp h
  obtain ⟨w₃, hpreload, h⟩ := bind_eq_ok.mp h
  cases h
  -- the pump raises the nesting level, which the end looks at, and lowers it again
  have hw₀ : Parsing { w with parser := { w.parser with
      pumpSessionNestingLevel := w.parser.pumpSessionNestingLevel + 1 } } :=
    hw.setParser hnotDone (hw.toReading.setParser rfl rfl rfl rfl hw.scanned_le) rfl rfl rfl rfl rfl
  have hloop := (pumpLoop_pumping hw₀ hnotDone rfl
    (Nat.le_min.mpr ⟨Nat.le_add_right _ _, hw.parsed_le⟩) (Nat.min_le_right _ _) hloop).1
  have hpump : w₁.inPumpSession := by
    rw [inPumpSession, hloop.level]
    exact Nat.succ_pos _
  have hpumped := hloop.trans (endOrYield_pumping hloop.toParsing hloop.notDone hpump hend)
  obtain ⟨scanned, noMore, hscanned, hleaves⟩ := preloadIfBlocked_leaves hpumped.toReading hpreload
  have hscan : Parsing { w₂ with parser := { w₂.parser with
      numPreloadScannedBytes := scanned, noMorePreloadScanningNecessary := noMore } } :=
    hpumped.toParsing.setParser hpumped.notDone
      (hpumped.toReading.setParser rfl rfl rfl rfl hscanned) rfl rfl rfl rfl rfl
  have hw₃ := hscan.leaves hleaves.toLeavesPlace
  obtain ⟨b, hparser⟩ := hleaves.parser
  have hnotDone₃ : w₃.parser.doneParsing = false := by
    rw [hparser]
    exact hpumped.notDone
  refine ⟨hw₃.setParser hnotDone₃ (hw₃.toReading.setParser rfl rfl rfl rfl hw₃.scanned_le) rfl rfl rfl
    rfl rfl, hnotDone₃, ?_, ?_⟩
  · have hlevel : w₃.parser.pumpSessionNestingLevel = w.parser.pumpSessionNestingLevel + 1 := by
      rw [hparser]
      exact hpumped.level
    dsimp only
    rw [hlevel]
    exact Nat.add_sub_cancel _ _
  · dsimp only
    rw [hparser]
    exact hpumped.input

theorem pumpTokenizerIfPossible_parsing (hw : Parsing w) (h : w.pumpTokenizerIfPossible = .ok w') :
    Parsing w' ∧ w'.parser.pumpSessionNestingLevel = w.parser.pumpSessionNestingLevel ∧
      w'.parser.input = w.parser.input := by
  rw [pumpTokenizerIfPossible] at h
  split_ifs at h with hdone
  · cases h
    exact ⟨hw, rfl, rfl⟩
  · cases h
    exact ⟨hw, rfl, rfl⟩
  · have hpumped := pumpTokenizer_pumping hw (by simpa using hdone) h
    exact ⟨hpumped.toParsing, hpumped.level, hpumped.input⟩

theorem pumpAndEnd_settled (hw : Parsing w) (hlevel : w.parser.pumpSessionNestingLevel = 0)
    (h : w.pumpAndEnd = .ok w') :
    Settled w' ∧ w'.parser.input = w.parser.input := by
  obtain ⟨w₁, hpump, h⟩ := bind_eq_ok.mp h
  obtain ⟨hw₁, hlevel₁, hinput₁⟩ := pumpTokenizerIfPossible_parsing hw hpump
  obtain ⟨hsettled, hinput⟩ := endIfDelayed_settled hw₁ (hlevel₁.trans hlevel) h
  exact ⟨hsettled, hinput.trans hinput₁⟩

theorem appendBytes_settled {len : ℕ} (hw : Settled w) (h : w.appendBytes len = .ok w') :
    Settled w' ∧ w'.parser.input = (false, w.parser.numBytesReceived + len) := by
  obtain ⟨_, hearly, h⟩ := bind_eq_ok.mp h
  obtain ⟨w₁, hpreload, h⟩ := bind_eq_ok.mp h
  have hearly := check_eq_ok.mp hearly
  obtain ⟨hnotDone, hnotDelayed⟩ := hw.early hearly
  have hle : w.parser.numBytesReceived ≤ w.parser.numBytesReceived + len := Nat.le_add_right _ _
  have hr : Reading { w with parser := { w.parser with
      numBytesReceived := w.parser.numBytesReceived + len } } := by
    refine ⟨Nat.le_trans hw.parsed_le hle, Nat.le_trans hw.scanned_le hle, hw.locations,
      fun x hx => Nat.le_trans (hw.received x hx) hle, hw.parsed, hw.ahead, hw.added, hw.body, hw.nodup,
      fun hord => (hw.lastOnce hord).imp_of_mem fun {x y} hx _ hne => ?_⟩
    intro hlast
    have hlast : x.1 + 1 = w.parser.numBytesReceived + len := hlast
    have hle := hw.received x hx
    have hsame := hne (by omega)
    dsimp only
    omega
  have hw₀ := hw.toParsing.setParser hnotDone hr rfl rfl rfl rfl rfl
  obtain ⟨scanned, noMore, hscanned, hleaves⟩ := preloadIfBlocked_leaves hr hpreload
  have hscan : Parsing { w with parser := { w.parser with
      numBytesReceived := w.parser.numBytesReceived + len
      numPreloadScannedBytes := scanned, noMorePreloadScanningNecessary := noMore } } :=
    hw₀.setParser hnotDone (hr.setParser rfl rfl rfl rfl hscanned) rfl rfl rfl rfl rfl
  have hw₁ := hscan.leaves hleaves.toLeavesPlace
  obtain ⟨b, hparser⟩ := hleaves.parser
  have hlevel₁ : w₁.parser.pumpSessionNestingLevel = 0 := by
    rw [hparser]
    exact hw.outside
  rw [if_neg (by rw [inPumpSession, hlevel₁]; exact Nat.lt_irrefl 0)] at h
  obtain ⟨hsettled, hinput⟩ := pumpAndEnd_settled hw₁ hlevel₁ h
  refine ⟨hsettled, hinput.trans ?_⟩
  rw [hparser]
  exact congrArg (·, w.parser.numBytesReceived + len) hearly

/-- Data comes for the document. -/
theorem documentDataReceived_settled {len : ℕ} (hw : Settled w)
    (h : w.documentDataReceived len = .ok w') :
    Settled w' ∧ w.parser.doneReceived = false ∧
      w'.parser.input = (false, w.parser.numBytesReceived + len) := by
  obtain ⟨w₁, happend, h⟩ := bind_eq_ok.mp h
  obtain ⟨_, hearly₀, _⟩ := bind_eq_ok.mp happend
  obtain ⟨hw₁, hearly⟩ := appendBytes_settled hw happend
  obtain ⟨hw', hlevel, hinput⟩ := pumpTokenizerIfPossible_parsing hw₁.toParsing h
  have hinput' := hinput.trans hearly
  refine ⟨⟨hw', hlevel.trans hw₁.outside, fun hdelayed => ?_⟩, check_eq_ok.mp hearly₀, hinput'⟩
  exact absurd ((hw'.early (congrArg Prod.fst hinput')).2.symm.trans hdelayed) Bool.false_ne_true

theorem executeParsingBlockingScriptsLoop_leavesPlace {fuel : ℕ} :
    ∀ {w w' : World}, executeParsingBlockingScriptsLoop fuel w = .ok w' → LeavesPlace w w' := by
  induction fuel with
  | zero =>
    intro w w' h
    cases h
  | succ fuel ih =>
    intro w w' h
    rw [executeParsingBlockingScriptsLoop] at h
    split at h
    · cases h
      exact (Leaves.refl w).toLeavesPlace
    · obtain ⟨⟨w₁, ready⟩, hready, h⟩ := bind_eq_ok.mp h
      refine (isPendingScriptReady_leaves hready).toLeavesPlace.trans ?_
      dsimp only at h
      split_ifs at h
      · obtain ⟨w₂, hexec, h⟩ := bind_eq_ok.mp h
        exact (executeParsingBlockingScript_leavesPlace executeScope_leaves hexec).2.trans (ih h)
      · cases h
        exact (Leaves.refl _).toLeavesPlace

theorem executeScriptsAndResume_settled (hw : Settled w) (h : w.executeScriptsAndResume = .ok w') :
    Settled w' ∧ w'.parser.input = w.parser.input := by
  obtain ⟨w₁, hexec, h⟩ := bind_eq_ok.mp h
  have hplace := executeParsingBlockingScriptsLoop_leavesPlace hexec
  have hw₁ := hw.toParsing.leaves hplace
  have hlevel₁ : w₁.parser.pumpSessionNestingLevel = 0 := by
    obtain ⟨b, hparser⟩ := hplace.parser
    rw [hparser]
    exact hw.outside
  split_ifs at h with hfree
  · obtain ⟨_, _, h⟩ := bind_eq_ok.mp h
    exact (pumpAndEnd_settled hw₁ hlevel₁ h).imp_right fun hinput => hinput.trans hplace.input
  · cases h
    exact ⟨⟨hw₁, hlevel₁, fun _ => .inr (.inl hfree)⟩, hplace.input⟩

theorem resumeTimerFired_settled (hw : Settled w) (h : w.resumeTimerFired = .ok w') :
    Settled w' ∧ w'.parser.input = w.parser.input := by
  obtain ⟨_, _, h⟩ := bind_eq_ok.mp h
  have hw₀ : Parsing { w with parser := { w.parser with timerToResume := false } } :=
    ⟨hw.toReading.setParser rfl rfl rfl rfl hw.scanned_le, hw.idle, hw.finished, hw.done, hw.delayed,
      hw.ending, hw.ends⟩
  have hended := pumpAndEnd_settled hw₀ hw.outside h
  exact hended

theorem scriptsTimerFired_settled (hw : Settled w) (h : w.scriptsTimerFired = .ok w') :
    Settled w' ∧ w'.parser.input = w.parser.input := by
  obtain ⟨_, _, h⟩ := bind_eq_ok.mp h
  have hw₀ : Settled { w with document := { w.document with
      executeScriptsWaitingForResourcesTimer := false } } :=
    hw.leaves (.same rfl rfl rfl rfl rfl)
  dsimp only at h
  split_ifs at h
  · have hresumed := executeScriptsAndResume_settled hw₀ h
    exact hresumed
  · cases h
    exact ⟨hw₀, rfl⟩

/-! ### The clients of a resource -/

variable {n : ℕ} {success : Bool} {order : List ResourceClient}

theorem notifyFinished_settled {c : ResourceClient} (hw : Settled w)
    (h : w.notifyFinished n success c = .ok w') : Settled w' := by
  cases c with
  | fetcher =>
    cases h
    exact hw.leaves checkCompleted_leaves
  | document =>
    obtain ⟨_, _, h⟩ := bind_eq_ok.mp h
    obtain ⟨_, _, h⟩ := bind_eq_ok.mp h
    exact (finishReceive_settled hw h).1
  | parser =>
    obtain ⟨_, _, h⟩ := bind_eq_ok.mp h
    obtain ⟨_, _, h⟩ := bind_eq_ok.mp h
    exact (executeScriptsAndResume_settled hw h).1
  | element e => exact hw.leaves (elementNotifyFinished_leaves h)
  | xhr x => exact hw.leaves (xhrNotifyFinished_leaves h)

theorem tellFinished_settled {c : ResourceClient} (hw : Settled w)
    (h : w.tellFinished n success c = .ok w') : Settled w' :=
  notifyFinished_settled (hw.leaves (.note _)) h

theorem dataReceived_settled {len : ℕ} {c : ResourceClient} (hw : Settled w)
    (h : w.dataReceived n len c = .ok w') :
    Settled w' ∧ w'.parser.doneReceived = w.parser.doneReceived := by
  cases c with
  | document =>
    obtain ⟨_, _, h⟩ := bind_eq_ok.mp h
    obtain ⟨hsettled, hearly, hearly'⟩ := documentDataReceived_settled hw h
    exact ⟨hsettled, (congrArg Prod.fst hearly').trans hearly.symm⟩
  | fetcher =>
    cases h
    exact ⟨hw, rfl⟩
  | parser =>
    cases h
    exact ⟨hw, rfl⟩
  | element e =>
    cases h
    exact ⟨hw, rfl⟩
  | xhr x =>
    cases h
    exact ⟨hw, rfl⟩

theorem notifyAllFinished_settled (hw : Settled w)
    (h : w.notifyAllFinished n success order = .ok w') : Settled w' := by
  obtain ⟨r, _, h⟩ := bind_eq_ok.mp h
  obtain ⟨w₁, hcount, h⟩ := bind_eq_ok.mp h
  obtain ⟨_, _, h⟩ := bind_eq_ok.mp h
  refine callClients_invariant tellFinished_settled ?_ h
  rw [decrementRequestCount] at hcount
  split_ifs at hcount
  · obtain ⟨_, _, hcount⟩ := bind_eq_ok.mp hcount
    cases hcount
    exact hw.leaves (.same rfl rfl rfl rfl rfl)
  · cases hcount
    exact hw

theorem finish_settled (hw : Settled w) (h : w.finish n success order = .ok w') : Settled w' := by
  obtain ⟨r, _, _, h⟩ := finish_cases h
  have htold : ∀ m, Settled (w.tellDriver m) := fun m => hw.leaves (.setEngine _)
  cases h with
  | finished _ hparse h =>
    exact notifyAllFinished_settled (((htold _).leaves (setResource_leaves n _)).leaves
      (parseIfStylesheet_leaves hparse)) h
  | next info _ => exact hw.leaves (.same rfl rfl rfl rfl rfl)
  | failed h => exact notifyAllFinished_settled ((htold _).leaves (setResource_leaves n _)) h

/-- Data that is received does not end what is received. -/
theorem appendData_settled {len : ℕ} (hw : Settled w) (h : w.appendData n len = .ok w') :
    Settled w' ∧ w'.parser.doneReceived = w.parser.doneReceived := by
  obtain ⟨r, hr, ⟨_, h⟩ | ⟨_, rfl⟩⟩ := appendData_cases h
  · obtain ⟨_, _, h⟩ := bind_eq_ok.mp h
    refine callClients_invariant (P := fun v => Settled v ∧
      v.parser.doneReceived = w.parser.doneReceived) ?_ ⟨hw.leaves (setResource_leaves n _), rfl⟩ h
    rintro c v v' ⟨hv, hdone⟩ hcall
    obtain ⟨hv', hdone'⟩ := dataReceived_settled (hv.leaves (.note _)) hcall
    exact ⟨hv', hdone'.trans hdone⟩
  · exact ⟨hw.leaves (setResource_leaves n _), rfl⟩

/-! ### The events -/

theorem pageMessage_settled {m : ResourceMsg} (hw : Settled w)
    (h : Renderer.pageMessage w m = .ok (.page w')) : Settled w' := by
  -- each message feeds a resource and ends with the work of the task
  cases m with
  | receivedResponse id firstByteTimeMs =>
    obtain ⟨w₁, hm, h⟩ := bind_eq_ok.mp h
    cases h
    rw [handleReceivedResponse] at hm
    split at hm
    · cases hm
      exact hw
    · obtain ⟨_, _, hm⟩ := bind_eq_ok.mp hm
      obtain ⟨w₂, hmeta, hm⟩ := bind_eq_ok.mp hm
      refine Settled.leaves ?_ (doEndOfTaskWork_leaves hm)
      obtain ⟨r, _, hmeta⟩ := bind_eq_ok.mp hmeta
      split_ifs at hmeta
      · obtain ⟨_, _, hmeta⟩ := bind_eq_ok.mp hmeta
        cases hmeta
        exact hw.leaves (setResource_leaves _ _)
      · cases hmeta
        exact hw
  | dataReceived id length =>
    obtain ⟨w₁, hm, h⟩ := bind_eq_ok.mp h
    cases h
    rw [handleDataReceived] at hm
    split at hm
    · cases hm
      exact hw
    · obtain ⟨_, _, hm⟩ := bind_eq_ok.mp hm
      obtain ⟨w₂, hdata, hm⟩ := bind_eq_ok.mp hm
      exact (appendData_settled hw hdata).1.leaves (doEndOfTaskWork_leaves hm)
  | requestComplete id success order =>
    change w.handleRequestComplete id success order = .ok (.page w') at h
    rw [handleRequestComplete] at h
    split at h
    · cases h
      exact hw
    · obtain ⟨_, _, h⟩ := bind_eq_ok.mp h
      dsimp only at h
      split_ifs at h
      · cases h
      · obtain ⟨w₁, hfinish, h⟩ := bind_eq_ok.mp h
        obtain ⟨w₂, htask, h⟩ := bind_eq_ok.mp h
        obtain ⟨w₃, hforce, h⟩ := bind_eq_ok.mp h
        cases h
        have herased : Settled (w.erasePending id) := hw.leaves (.setEngine _)
        exact ((finish_settled herased hfinish).leaves (doEndOfTaskWork_leaves htask)).leaves
          (maybeLoadUnloadedResources_leaves hforce)

theorem pageStep_settled {e : PageEvent} (hw : Settled w)
    (h : Renderer.pageStep w e = .ok (.page w')) : Settled w' := by
  cases e with
  | loadPage loadId model timeMs => cases h
  | reset => cases h
  | message m => exact pageMessage_settled hw h
  | resumeTimer =>
    obtain ⟨w₁, hw₁, h⟩ := bind_eq_ok.mp h
    cases h
    exact (resumeTimerFired_settled hw hw₁).1
  | scriptsTimer =>
    obtain ⟨w₁, hw₁, h⟩ := bind_eq_ok.mp h
    cases h
    exact (scriptsTimerFired_settled hw hw₁).1
  | checkCompletedTimer =>
    obtain ⟨w₁, hw₁, h⟩ := bind_eq_ok.mp h
    cases h
    exact hw.leaves (checkCompletedTimerFired_leaves hw₁)
  | domTimer timerID =>
    obtain ⟨w₁, hw₁, h⟩ := bind_eq_ok.mp h
    cases h
    exact hw.leaves (domTimerFired_leaves hw₁)

theorem loadPage_settled {engine : Webengine} {loadId timeMs : ℕ} {model : PageModel}
    (h : Renderer.loadPage engine loadId model timeMs = .ok (.page w)) : Settled w := by
  obtain ⟨info, w₁, _, _, hload, heq⟩ := Renderer.loadPage_cases h
  cases heq
  have hnew : Settled (engine.newPage model) := by
    refine ⟨⟨⟨Nat.le_refl 0, Nat.le_refl 0, rfl, nofun, fun _ => nofun, fun _ x _ => ?_, ?_, nofun, ?_, ?_⟩,
      rfl, rfl, nofun, nofun, nofun, rfl⟩, rfl, nofun⟩
    · exact .inl (Nat.succ_pos x.1)
    · exact List.nil_sublist _
    · exact List.nodup_nil
    · exact fun _ => List.Pairwise.nil
  exact (hnew.leaves (setResource_leaves 1 _)).leaves
    ((loadResource_leaves hload).trans (.setEngine _))

end World

/-! ### Runs -/

namespace Renderer

variable {w : World} {es : List PageEvent}

theorem settled_of_run (h : Run Steps start es (.page w)) : Settled w :=
  page_invariant (fun _ => loadPage_settled) pageStep_settled h

/-- **The document is read in order.**  Whatever the chunks in which it comes, the scripts that block the
parser and the times at which it yields, of a list of elements in the order of their offsets:

* a first part has been reached: its elements are in the document in that order, each once, and the
  parser is past the byte of each of them, which has been received;
* the parser is before the byte of every other element, or on it, and then an element with the same
  byte has been reached;
* when the end has been reported all bytes have been received and parsed, so that of the elements inside
  the document only such are missing whose byte is the last one. -/
theorem reads_in_order (h : Run Steps start es (.page w)) (hord : w.model.InOrder) :
    ∃ reached ahead, w.model.htmlElementByteOffsets = reached ++ ahead ∧
      w.parser.numBytesParsed ≤ w.parser.numBytesReceived ∧
      w.document.elements.Nodup ∧
      ((reached.map (·.2)).filter fun e => !w.model.isBody e).Sublist w.document.elements ∧
      (∀ x ∈ reached, x.1 + 1 ≤ w.parser.numBytesParsed ∧
        (w.model.isBody x.2 = true → w.document.hasBodyElement = true)) ∧
      (∀ x ∈ ahead, w.parser.numBytesParsed < x.1 + 1 ∨
        w.parser.numBytesParsed = x.1 + 1 ∧ ∃ y ∈ reached, y.1 = x.1) ∧
      (w.document.finishedParsing = true → w.parser.doneReceived = true ∧
        w.parser.numBytesParsed = w.parser.numBytesReceived ∧
        ∀ x ∈ ahead, x.1 < w.parser.numBytesReceived →
          x.1 + 1 = w.parser.numBytesReceived ∧ ∃ y ∈ reached, y.1 = x.1) := by
  have hw := settled_of_run h
  refine ⟨w.parser.reached, w.parser.ahead, ?_, hw.parsed_le, hw.nodup, hw.added,
    fun x hx => ⟨hw.parsed hord x hx, hw.body x hx⟩, hw.ahead hord, fun hfinished => ?_⟩
  · rw [← hw.locations]
    exact (List.take_append_drop _ _).symm
  · rw [hw.finished] at hfinished
    obtain ⟨-, hreceived, hall⟩ := hw.done hfinished
    refine ⟨hreceived, hall, fun x hx hlt => ?_⟩
    rcases hw.ahead hord x hx with hbefore | ⟨hon, htie⟩
    · omega
    · exact ⟨hon.symm.trans hall, htie⟩

/-- Two images share the last byte of their document. -/
def tiedPage : PageModel where
  resources := [
    (1, { partOfPageLoadedCheck := true, reqChain := [{ respBodySize := 3 }], type := .main })]
  elements := [(4, { tag := .body }), (5, { tag := .img }), (6, { tag := .img })]
  htmlElementByteOffsets := [(0, 4), (2, 5), (2, 6)]

/-- The document comes in two parts. -/
def tiedLoaded : List PageEvent := [.loadPage 1 tiedPage 0, .message (.dataReceived 1 2),
  .message (.dataReceived 1 1), .message (.requestComplete 1 true [.document, .fetcher])]

/-- The second image is missing at the end. -/
theorem reads_in_order_tied : ∃ w reached ahead, Run Steps start tiedLoaded (.page w) ∧
    w.model.htmlElementByteOffsets = reached ++ ahead ∧ w.document.elements = [5] ∧
    (∀ x ∈ ahead, x.1 < w.parser.numBytesReceived →
      x.1 + 1 = w.parser.numBytesReceived ∧ ∃ y ∈ reached, y.1 = x.1) := by
  have hreturns : returns (exec step start tiedLoaded) (isPage fun w =>
      decide (w.model.htmlElementByteOffsets = [(0, 4), (2, 5), (2, 6)]) &&
      w.document.finishedParsing && decide (w.document.elements = [5])) = true := by
    decide
  obtain ⟨w, hrun, htest⟩ := exists_of_returns hreturns
  obtain ⟨htest, helements⟩ := (Bool.and_eq_true _ _).mp htest
  obtain ⟨hlocations, hfinished⟩ := (Bool.and_eq_true _ _).mp htest
  have hord : w.model.InOrder := by
    rw [PageModel.InOrder, of_decide_eq_true hlocations]
    decide
  obtain ⟨reached, ahead, heq, -, -, -, -, -, hend⟩ := reads_in_order hrun hord
  exact ⟨w, reached, ahead, hrun, heq, of_decide_eq_true helements, (hend hfinished).2.2⟩

/-- **The end of the document is reported**, in every order of chunks, the end, scripts that become ready,
stylesheets and timers:

* only when all has been received and parsed;
* as soon as nothing is left to parse, to run or to wait for: between events no document that is parsed
  in full stays unreported;
* never again: what the parser does then does nothing, whatever scripts do before. -/
theorem end_reported (h : Run Steps start es (.page w)) :
    (w.document.finishedParsing = true → w.parser.doneReceived = true ∧
      w.parser.numBytesParsed = w.parser.numBytesReceived) ∧
    (w.parser.doneReceived = true → w.parser.numBytesParsed = w.parser.numBytesReceived →
      w.parser.parserBlockingScript = none → w.parser.timerToResume = false →
      w.document.finishedParsing = true) ∧
    (w.document.finishedParsing = true → ∀ v, Scripted w v →
      v.pumpAndEnd = .ok v ∧ (∀ len, v.appendBytes len = .error .bodyDone) ∧
        v.finishReceive = .error .bodyDone) := by
  have hw := settled_of_run h
  refine ⟨fun hfinished => ?_, fun hreceived hall hfree htimer => ?_, fun hfinished v hv => ?_⟩
  · rw [hw.finished] at hfinished
    exact (hw.done hfinished).2
  · exact hw.finished.trans (hw.doneParsing hreceived hall hfree htimer)
  · rw [hw.finished] at hfinished
    obtain ⟨hdelayed, hreceived, -⟩ := hw.done hfinished
    have hsame : (v.parser.doneParsing, v.parser.endWasDelayed, v.parser.doneReceived) =
        (w.parser.doneParsing, w.parser.endWasDelayed, w.parser.doneReceived) := by
      refine star_invariant (f := fun w : World => (w.parser.doneParsing, w.parser.endWasDelayed,
        w.parser.doneReceived)) (fun s t hst => ?_) hv
      cases hst with
      | @loaded _ r _ _ _ _ =>
        rw [incrementRequestCount]
        split <;> rfl
      | _ => rfl
    rw [hfinished, hdelayed, hreceived] at hsame
    obtain ⟨hdone', hdelayed', hreceived'⟩ := Prod.mk.inj hsame |>.imp_right Prod.mk.inj
    refine ⟨?_, fun len => ?_, ?_⟩
    · rw [pumpAndEnd, pumpTokenizerIfPossible, if_pos hdone', ok_bind, endIfDelayed,
        if_pos (.inl hdelayed')]
    · rw [appendBytes, check_neg (by rw [hreceived']; exact Bool.false_ne_true.symm), error_bind]
    · rw [finishReceive, check_neg (by rw [hreceived']; exact Bool.false_ne_true.symm), error_bind]

/-- The end has been reported, and is not reported again. -/
theorem end_reported_tied : ∃ w, Run Steps start tiedLoaded (.page w) ∧
    w.document.finishedParsing = true ∧ w.parser.numBytesParsed = w.parser.numBytesReceived ∧
    w.pumpAndEnd = .ok w ∧ w.finishReceive = .error .bodyDone := by
  have hreturns : returns (exec step start tiedLoaded) (isPage fun w =>
      w.parser.doneReceived && decide (w.parser.numBytesParsed = w.parser.numBytesReceived) &&
      decide (w.parser.parserBlockingScript = none) &&
      decide (w.parser.timerToResume = false)) = true := by
    decide
  obtain ⟨w, hrun, htest⟩ := exists_of_returns hreturns
  obtain ⟨htest, htimer⟩ := (Bool.and_eq_true _ _).mp htest
  obtain ⟨htest, hfree⟩ := (Bool.and_eq_true _ _).mp htest
  obtain ⟨hreceived, hall⟩ := (Bool.and_eq_true _ _).mp htest
  have hall := of_decide_eq_true hall
  obtain ⟨-, hmissed, hagain⟩ := end_reported hrun
  have hfinished := hmissed hreceived hall (of_decide_eq_true hfree) (of_decide_eq_true htimer)
  obtain ⟨hpump, -, hreceive⟩ := hagain hfinished w .refl
  exact ⟨w, hrun, hfinished, hall, hpump, hreceive⟩

/-- **The end of the document is reported once.**  In every order of chunks, the end, scripts that
become ready, stylesheets and timers: it has been reported at most once, and only when all has been
received and parsed; and it has been reported when all has been received and parsed, no script blocks
the parser or is being executed, and the parser is not about to resume. -/
theorem ends_once (h : Run Steps start es (.page w)) :
    w.parser.ends ≤ 1 ∧
    (w.parser.ends = 1 → w.parser.doneReceived = true ∧
      w.parser.numBytesParsed = w.parser.numBytesReceived) ∧
    (w.parser.doneReceived = true → w.parser.numBytesParsed = w.parser.numBytesReceived →
      w.parser.parserBlockingScript = none → w.parser.isExecutingScript = false →
      w.parser.timerToResume = false → w.parser.ends = 1) := by
  have hw := settled_of_run h
  rw [hw.ends]
  refine ⟨?_, fun hone => ?_, fun hreceived hall hfree _ htimer => ?_⟩
  · split
    · exact Nat.le_refl 1
    · exact Nat.zero_le 1
  · split at hone
    · next hdone => exact (hw.done hdone).2
    · cases hone
  · exact if_pos (hw.doneParsing hreceived hall hfree htimer)

/-- A script that blocks the parser, before the rest of the document. -/
def blockedPage : PageModel where
  resources := [
    (1, { partOfPageLoadedCheck := true, reqChain := [{ respBodySize := 3 }], type := .main }),
    (2, { partOfPageLoadedCheck := true, reqChain := [{ respBodySize := 0 }] })]
  elements := [(5, { tag := .script false false true 3, initialResInstNum := 2 })]
  execScopes := [(3, [])]
  htmlElementByteOffsets := [(0, 5)]

/-- The script comes after the end of the document. -/
def scriptLast : List PageEvent := [.loadPage 1 blockedPage 0, .message (.dataReceived 1 3),
  .message (.requestComplete 1 true [.document, .fetcher]),
  .message (.requestComplete 2 true [.element 5, .fetcher, .parser])]

/-- The end has been delayed until the script had been executed. -/
theorem ends_once_blocked : ∃ w, Run Steps start scriptLast (.page w) ∧
    w.engine.executedScopeIds = [3] ∧ w.parser.ends = 1 := by
  have hreturns : returns (exec step start scriptLast) (isPage fun w =>
      decide (w.engine.executedScopeIds = [3] ∧ w.parser.doneReceived = true ∧
        w.parser.numBytesParsed = w.parser.numBytesReceived ∧ w.parser.parserBlockingScript = none ∧
        w.parser.isExecutingScript = false ∧ w.parser.timerToResume = false)) = true := by
    decide
  obtain ⟨w, hrun, htest⟩ := exists_of_returns hreturns
  obtain ⟨hexecuted, hreceived, hall, hfree, hidle, htimer⟩ := of_decide_eq_true htest
  exact ⟨w, hrun, hexecuted, (ends_once hrun).2.2 hreceived hall hfree hidle htimer⟩

end Renderer

end ShadowBrowser.Blink
