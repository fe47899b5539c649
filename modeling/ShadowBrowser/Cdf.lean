/-
Looking up a percentile in a cumulative distribution.

`cdf_getValue` scans the entries, sorted by their values, from the front when the percentile is at
most a half and from the back otherwise.  From the front it stops at the first entry whose fraction
is at least the percentile; from the back it stops at an entry whose fraction is below it, and
returns the entry before, or stops at once at an entry whose fraction is the percentile.

* `eq_below_tied_above` — a sorted list is cut in three by a key;
* `lookUp_isLeast` — the first entry at or above a percentile has the least such value;
* `scanBack_reverse` — where the scan from the back stops;
* **`cdf_lookup`** — the two scans agree exactly if the percentile is not a fraction that entries
  of different values share; an entry is always found, and the value grows with the percentile.
-/
import Mathlib.Algebra.Order.Field.Rat
import Mathlib.Data.List.Sort
import Mathlib.Order.Bounds.Basic
import Mathlib.Tactic.Linarith
import Mathlib.Tactic.NormNum

namespace ShadowBrowser

namespace Cdf

/-! ### The cut of a sorted list -/

section Cut

variable {α β : Type} [LinearOrder β]

/-- A list sorted by a key is what is below a given key, what has it, and what is above it. -/
theorem eq_below_tied_above (key : α → β) (k : β) {l : List α}
    (h : l.Pairwise fun a b => key a ≤ key b) :
    l = l.filter (key · < k) ++ (l.filter (key · = k) ++ l.filter (k < key ·)) := by
  induction l with
  | nil => rfl
  | cons a l ih =>
    obtain ⟨ha, hl⟩ := List.pairwise_cons.mp h
    rcases lt_trichotomy (key a) k with hlt | heq | hgt
    · rw [List.filter_cons_of_pos (by simpa using hlt),
        List.filter_cons_of_neg (by simpa using hlt.ne),
        List.filter_cons_of_neg (by simpa using hlt.le)]
      exact congrArg (a :: ·) (ih hl)
    · -- nothing after it is below
      have hnone : l.filter (key · < k) = [] := by
        rw [List.filter_eq_nil_iff]
        intro b hb
        simpa using heq ▸ ha b hb
      have hrest := ih hl
      rw [hnone, List.nil_append] at hrest
      rw [List.filter_cons_of_neg (by simpa using heq.ge), hnone,
        List.filter_cons_of_pos (by simpa using heq),
        List.filter_cons_of_neg (by simpa using heq.le)]
      exact congrArg (a :: ·) hrest
    · have habove : ∀ b ∈ l, k < key b := fun b hb => lt_of_lt_of_le hgt (ha b hb)
      have hnone : l.filter (key · < k) = [] := by
        rw [List.filter_eq_nil_iff]
        intro b hb
        simpa using (habove b hb).le
      have htied : l.filter (key · = k) = [] := by
        rw [List.filter_eq_nil_iff]
        intro b hb
        simpa using (habove b hb).ne'
      have hall : l.filter (k < key ·) = l := by
        rw [List.filter_eq_self]
        intro b hb
        simpa using habove b hb
      rw [List.filter_cons_of_neg (by simpa using hgt.le), hnone,
        List.filter_cons_of_neg (by simpa using hgt.ne'), htied,
        List.filter_cons_of_pos (by simpa using hgt), hall]
      rfl

end Cut

/-! ### The distribution -/

/-- `CumulativeDistributionEntry`, with exact numbers. -/
structure CumulativeDistributionEntry where
  fraction : ℚ
  value : ℚ
  deriving DecidableEq

/-- `cdfentry_compare`. -/
def cdfentryCompare (a b : CumulativeDistributionEntry) : ℤ :=
  if a.value > b.value then 1 else if a.value = b.value then 0 else -1

/-- What `g_list_insert_sorted` inserts an entry in front of. -/
def NotAfter (a b : CumulativeDistributionEntry) : Prop := cdfentryCompare a b ≤ 0

instance : DecidableRel NotAfter := fun _ _ => inferInstanceAs (Decidable (_ ≤ _))

/-- `cdf_parse`, given what `fscanf` makes of each line: a value and a fraction, or not both.  In
the latter case the list that is returned has been freed. -/
def cdfParse (lines : List (Option (ℚ × ℚ))) : Option (List CumulativeDistributionEntry) :=
  lines.foldlM (fun entries line => line.map fun scanned =>
    entries.orderedInsert NotAfter { value := scanned.1, fraction := scanned.2 }) []

theorem notAfter_iff {a b : CumulativeDistributionEntry} : NotAfter a b ↔ a.value ≤ b.value := by
  rw [NotAfter, cdfentryCompare]
  split
  · rename_i h
    simpa using h
  · rename_i h
    split <;> simpa using h

instance : Std.Total NotAfter :=
  ⟨fun a b => by simpa only [notAfter_iff] using le_total a.value b.value⟩

instance : IsTrans CumulativeDistributionEntry NotAfter :=
  ⟨fun _ _ _ hab hbc => notAfter_iff.mpr ((notAfter_iff.mp hab).trans (notAfter_iff.mp hbc))⟩

/-- What is read is sorted by value. -/
theorem cdfParse_sorted {lines : List (Option (ℚ × ℚ))}
    {entries : List CumulativeDistributionEntry} (h : cdfParse lines = some entries) :
    entries.Pairwise fun a b => a.value ≤ b.value := by
  have key : ∀ before : List CumulativeDistributionEntry, before.Pairwise NotAfter →
      lines.foldlM (fun entries line => line.map fun scanned =>
        entries.orderedInsert NotAfter { value := scanned.1, fraction := scanned.2 }) before
          = some entries → entries.Pairwise NotAfter := by
    clear h
    induction lines with
    | nil =>
      intro before hs h
      cases h
      exact hs
    | cons line lines ih =>
      intro before hs h
      cases line with
      | none => simp at h
      | some line => exact ih _ (hs.orderedInsert _ _) (by simpa using h)
  exact (key [] List.Pairwise.nil h).imp notAfter_iff.mp

/-- The entries of a distribution: sorted, with fractions that do not decrease and come to one. -/
structure Cumulative (entries : List CumulativeDistributionEntry) : Prop where
  byValue : entries.Pairwise fun a b => a.value ≤ b.value
  byFraction : entries.Pairwise fun a b => a.fraction ≤ b.fraction
  complete : ∃ e, entries.getLast? = some e ∧ 1 ≤ e.fraction

/-! ### The look-up -/

/-- The loop of `cdf_getValue` from the first entry on. -/
def scanFront (percentile : ℚ) : List CumulativeDistributionEntry → Option ℚ
  | [] => none -- g_assert(FALSE)
  | entry :: rest =>
    if entry.fraction ≥ percentile then some entry.value else scanFront percentile rest

/-- The loop from the last entry on, with `prev_entry`. -/
def scanBack (percentile : ℚ) (prevEntry : Option CumulativeDistributionEntry) :
    List CumulativeDistributionEntry → Option ℚ
  | [] => prevEntry.map (·.value)
  | entry :: rest =>
    if entry.fraction = percentile then some entry.value
    else if entry.fraction < percentile then prevEntry.map (·.value)
    else scanBack percentile (some entry) rest

/-- `cdf_getValue`; an assertion that fails, or the value of no entry, is `none`. -/
def cdfGetValue (entries : List CumulativeDistributionEntry) (percentile : ℚ) : Option ℚ :=
  if 0 ≤ percentile ∧ percentile ≤ 1 then
    if percentile > 1 / 2 then scanBack percentile none entries.reverse
    else scanFront percentile entries
  else none

/-- The inverse distribution: the value of the first entry at or above a percentile. -/
def lookUp (entries : List CumulativeDistributionEntry) (percentile : ℚ) : Option ℚ :=
  (entries.find? (percentile ≤ ·.fraction)).map (·.value)

variable {entries : List CumulativeDistributionEntry} {p : ℚ}

theorem scanFront_eq : scanFront p entries = lookUp entries p := by
  induction entries with
  | nil => rfl
  | cons e entries ih =>
    rw [scanFront, lookUp, List.find?_cons]
    by_cases h : p ≤ e.fraction
    · simp [h]
    · simpa [h, lookUp] using ih

/-- The first entry at or above a percentile has the least value of those that are. -/
theorem lookUp_isLeast (hs : entries.Pairwise fun a b => a.value ≤ b.value) {v : ℚ}
    (h : lookUp entries p = some v) :
    IsLeast {w | ∃ e ∈ entries, p ≤ e.fraction ∧ e.value = w} v := by
  obtain ⟨e, he, rfl⟩ := Option.map_eq_some_iff.mp h
  obtain ⟨hp, before, after, rfl, hbefore⟩ := List.find?_eq_some_iff_append.mp he
  refine ⟨⟨e, by simp, by simpa using hp, rfl⟩, ?_⟩
  rintro _ ⟨b, hb, hpb, rfl⟩
  rcases List.mem_append.mp hb with hb | hb
  · have := hbefore b hb
    simp [hpb] at this
  · rcases List.mem_cons.mp hb with rfl | hb
    · exact le_rfl
    · exact (List.pairwise_cons.mp (List.pairwise_append.mp hs).2.1).1 b hb

/-- What is above the percentile is passed by. -/
theorem scanBack_append {passed rest : List CumulativeDistributionEntry}
    {prev : Option CumulativeDistributionEntry} (h : ∀ e ∈ passed, p < e.fraction) :
    scanBack p prev (passed ++ rest) = scanBack p (passed.getLast?.or prev) rest := by
  induction passed generalizing prev with
  | nil => rfl
  | cons e passed ih =>
    have he := h e (by simp)
    rw [List.cons_append, scanBack, if_neg he.ne', if_neg he.not_gt,
      ih fun b hb => h b (List.mem_cons_of_mem e hb), List.getLast?_cons]
    cases passed.getLast? <;> rfl

/-- The scan from the back returns the last entry at the percentile, or else the first above it. -/
theorem scanBack_reverse (h : entries.Pairwise fun a b => a.fraction ≤ b.fraction) :
    scanBack p none entries.reverse =
      ((entries.filter (·.fraction = p)).getLast?.or
        (entries.filter (p < ·.fraction)).head?).map (·.value) := by
  have hpass : ∀ e ∈ (entries.filter (p < ·.fraction)).reverse, p < e.fraction := by
    intro e he
    simpa using (List.mem_filter.mp (List.mem_reverse.mp he)).2
  have hcut := eq_below_tied_above (fun e : CumulativeDistributionEntry => e.fraction) p h
  conv_lhs => rw [hcut]
  rw [List.reverse_append, List.reverse_append, List.append_assoc, scanBack_append hpass,
    List.getLast?_reverse, Option.or_none]
  rcases List.eq_nil_or_concat (entries.filter (·.fraction = p)) with htied | ⟨ts, t, htied⟩
  · rw [htied, List.reverse_nil, List.nil_append, List.getLast?_nil, Option.none_or]
    -- the first entry below the percentile, if there is one, ends the scan
    rcases hbelow : (entries.filter (·.fraction < p)).reverse with _ | ⟨b, bs⟩
    · rw [hbelow]
      rfl
    · have hb : b ∈ (entries.filter (·.fraction < p)).reverse := by rw [hbelow]; simp
      have hlt : b.fraction < p := by
        simpa using (List.mem_filter.mp (List.mem_reverse.mp hb)).2
      rw [hbelow, scanBack, if_neg hlt.ne, if_pos hlt]
  · have ht : t.fraction = p := by
      have : t ∈ entries.filter (·.fraction = p) := by rw [htied]; simp
      simpa using (List.mem_filter.mp this).2
    rw [htied, List.concat_eq_append, List.reverse_append, List.reverse_singleton,
      List.singleton_append, List.cons_append, scanBack, if_pos ht, List.getLast?_append]
    rfl

/-- The first entry at or above the percentile, by the cut. -/
theorem lookUp_eq (h : entries.Pairwise fun a b => a.fraction ≤ b.fraction) :
    lookUp entries p = ((entries.filter (·.fraction = p)).head?.or
      (entries.filter (p < ·.fraction)).head?).map (·.value) := by
  have hnone : (entries.filter (·.fraction < p)).find? (p ≤ ·.fraction) = none := by
    rw [List.find?_eq_none]
    intro e he
    simpa using (List.mem_filter.mp he).2
  have htied : (entries.filter (·.fraction = p)).find? (p ≤ ·.fraction)
      = (entries.filter (·.fraction = p)).head? := by
    rw [List.find?_filter, List.head?_filter]
    congr 1
    funext e
    grind
  have habove : (entries.filter (p < ·.fraction)).find? (p ≤ ·.fraction)
      = (entries.filter (p < ·.fraction)).head? := by
    rw [List.find?_filter, List.head?_filter]
    congr 1
    funext e
    grind
  have hcut := eq_below_tied_above (fun e : CumulativeDistributionEntry => e.fraction) p h
  rw [lookUp]
  conv_lhs => rw [hcut]
  rw [List.find?_append, List.find?_append, hnone, htied, habove, Option.none_or]

/-- Some entry is above every percentile or at it. -/
theorem Cumulative.lookUp_isSome (h : Cumulative entries) (h1 : p ≤ 1) :
    ∃ v, lookUp entries p = some v := by
  obtain ⟨e, hlast, he⟩ := h.complete
  obtain ⟨b, hb⟩ := Option.isSome_iff_exists.mp (List.find?_isSome.mpr
    ⟨e, List.mem_of_getLast? hlast, decide_eq_true (h1.trans he)⟩ :
      (entries.find? (p ≤ ·.fraction)).isSome)
  exact ⟨b.value, by rw [lookUp, hb]; rfl⟩

/-- An entry with a larger fraction has a value that is not smaller. -/
theorem Cumulative.value_le (h : Cumulative entries) {a b : CumulativeDistributionEntry}
    (ha : a ∈ entries) (hb : b ∈ entries) (hlt : a.fraction < b.fraction) : a.value ≤ b.value := by
  have hafter : entries.Pairwise fun a b => a.fraction < b.fraction → a.value ≤ b.value := by
    refine h.byValue.imp ?_
    intro a b hv _
    exact hv
  have hbefore : entries.Pairwise (flip fun a b => a.fraction < b.fraction → a.value ≤ b.value) :=
    h.byFraction.imp fun hf hlt => absurd hlt hf.not_gt
  exact hafter.forall_of_forall_of_flip (fun _ _ _ => le_rfl) hbefore ha hb hlt

/-- Either scan returns the value of an entry at or above the percentile, and at most that of any
entry above it. -/
theorem Cumulative.cdfGetValue_spec (h : Cumulative entries) (h0 : 0 ≤ p) (h1 : p ≤ 1) :
    ∃ v, cdfGetValue entries p = some v ∧ (∃ e ∈ entries, p ≤ e.fraction ∧ e.value = v) ∧
      ∀ b ∈ entries, p < b.fraction → v ≤ b.value := by
  obtain ⟨v, hv⟩ := h.lookUp_isSome h1
  obtain ⟨hmem, hleast⟩ := lookUp_isLeast h.byValue hv
  have hfirst : ∀ b ∈ entries, p < b.fraction → v ≤ b.value :=
    fun b hb hlt => hleast ⟨b, hb, hlt.le, rfl⟩
  rw [cdfGetValue, if_pos ⟨h0, h1⟩]
  split
  · rw [scanBack_reverse h.byFraction]
    rw [lookUp_eq h.byFraction] at hv
    rcases List.eq_nil_or_concat (entries.filter (·.fraction = p)) with htied | ⟨ts, t, htied⟩
    · rw [htied] at hv ⊢
      exact ⟨v, hv, hmem, hfirst⟩
    · have hlast : (entries.filter (·.fraction = p)).getLast? = some t := by
        rw [htied, List.concat_eq_append, List.getLast?_concat]
      obtain ⟨ht, htp⟩ := List.mem_filter.mp (List.mem_of_getLast? hlast)
      have htp : t.fraction = p := by simpa using htp
      refine ⟨t.value, by rw [hlast]; rfl, ⟨t, ht, htp.ge, rfl⟩, ?_⟩
      intro b hb hlt
      exact h.value_le ht hb (htp ▸ hlt)
  · rw [scanFront_eq]
    exact ⟨v, hv, hmem, hfirst⟩

/-- When the scan starts from the back, it agrees with the other exactly if the entries at the
percentile have one value. -/
theorem Cumulative.scanBack_iff (h : Cumulative entries) :
    scanBack p none entries.reverse = lookUp entries p ↔
      ∀ a ∈ entries, ∀ b ∈ entries, a.fraction = p → b.fraction = p → a.value = b.value := by
  have hmem : ∀ e, e ∈ entries.filter (·.fraction = p) ↔ e ∈ entries ∧ e.fraction = p := by
    intro e
    rw [List.mem_filter, decide_eq_true_iff]
  rw [scanBack_reverse h.byFraction, lookUp_eq h.byFraction]
  have hsorted : (entries.filter (·.fraction = p)).Pairwise fun a b => a.value ≤ b.value :=
    h.byValue.filter _
  -- the front scan ends at the first of the entries at `p`, and the back scan at the last
  cases htied : entries.filter (·.fraction = p) with
  | nil =>
    rw [htied] at hmem
    refine ⟨fun _ a ha _ _ hap => ?_, fun _ => rfl⟩
    exact absurd ((hmem a).mpr ⟨ha, hap⟩) List.not_mem_nil
  | cons t ts =>
    rw [htied] at hmem hsorted
    obtain ⟨l, hl⟩ : ∃ l, (t :: ts).getLast? = some l := ⟨_, List.getLast?_cons⟩
    have hl' : l ∈ t :: ts := List.mem_of_getLast? hl
    have hfirst : ∀ e ∈ t :: ts, t.value ≤ e.value := by
      intro e he
      rcases List.mem_cons.mp he with rfl | he
      · exact le_rfl
      · exact (List.pairwise_cons.mp hsorted).1 e he
    have hlast : ∀ e ∈ t :: ts, e.value ≤ l.value := by
      obtain ⟨before, hbefore⟩ := List.getLast?_eq_some_iff.mp hl
      rw [hbefore] at hsorted ⊢
      intro e he
      rcases List.mem_append.mp he with he | he
      · exact (List.pairwise_append.mp hsorted).2.2 e he l (by simp)
      · exact (List.mem_singleton.mp he) ▸ le_rfl
    have hscans : (((t :: ts).getLast?.or (entries.filter (p < ·.fraction)).head?).map (·.value)
        = ((t :: ts).head?.or (entries.filter (p < ·.fraction)).head?).map (·.value)) ↔
          l.value = t.value := by
      rw [hl]
      simp
    rw [hscans]
    constructor
    · intro heq a ha b hb hap hbp
      have ha' := (hmem a).mpr ⟨ha, hap⟩
      have hb' := (hmem b).mpr ⟨hb, hbp⟩
      have := hfirst a ha'
      have := hlast a ha'
      have := hfirst b hb'
      have := hlast b hb'
      linarith
    · intro hall
      obtain ⟨hl, hlp⟩ := (hmem l).mp hl'
      obtain ⟨ht, htp⟩ := (hmem t).mp (by simp)
      exact hall l hl t ht hlp htp

/-- **Looking up a percentile.**  The value is that of the first entry at or above the percentile
exactly if the percentile is at most a half or the entries whose fraction it is have one value.  In
any case the scan ends at an entry, and the values grow with the percentiles. -/
theorem cdf_lookup (h : Cumulative entries) (h0 : 0 ≤ p) (h1 : p ≤ 1) :
    (cdfGetValue entries p = lookUp entries p ↔
      p ≤ 1 / 2 ∨
        ∀ a ∈ entries, ∀ b ∈ entries, a.fraction = p → b.fraction = p → a.value = b.value) ∧
    ∃ v, cdfGetValue entries p = some v ∧
      ∀ q, p ≤ q → q ≤ 1 → ∃ w, cdfGetValue entries q = some w ∧ v ≤ w := by
  constructor
  · rw [cdfGetValue, if_pos ⟨h0, h1⟩]
    by_cases hhalf : p ≤ 1 / 2
    · rw [if_neg hhalf.not_gt]
      exact ⟨fun _ => .inl hhalf, fun _ => scanFront_eq⟩
    · rw [if_pos (not_le.mp hhalf), h.scanBack_iff]
      exact ⟨.inr, fun hor => hor.resolve_left hhalf⟩
  · obtain ⟨v, hv, -, habove⟩ := h.cdfGetValue_spec h0 h1
    refine ⟨v, hv, fun q hpq hq1 => ?_⟩
    obtain ⟨w, hw, ⟨b, hb, hqb, rfl⟩, -⟩ := h.cdfGetValue_spec (h0.trans hpq) hq1
    rcases hpq.eq_or_lt with rfl | hlt
    · rw [hv] at hw
      exact ⟨b.value, hw ▸ hv, (Option.some.inj hw).le⟩
    · exact ⟨b.value, hw, habove b hb (hlt.trans_le hqb)⟩

/-- A distribution whose fraction 7/10 is repeated: the value 1 and then the value 2 have it. -/
def repeated : List CumulativeDistributionEntry :=
  [⟨1 / 5, 0⟩, ⟨7 / 10, 1⟩, ⟨7 / 10, 2⟩, ⟨1, 3⟩]

theorem repeated_cumulative : Cumulative repeated := by
  refine ⟨?_, ?_, ⟨_, rfl, le_rfl⟩⟩ <;> simp [repeated] <;> norm_num

theorem cdf_lookup_repeated :
    (cdfGetValue repeated (4 / 5) = lookUp repeated (4 / 5) ↔
      (4 / 5 : ℚ) ≤ 1 / 2 ∨ ∀ a ∈ repeated, ∀ b ∈ repeated,
        a.fraction = 4 / 5 → b.fraction = 4 / 5 → a.value = b.value) ∧
    ∃ v, cdfGetValue repeated (4 / 5) = some v ∧
      ∀ q, 4 / 5 ≤ q → q ≤ 1 → ∃ w, cdfGetValue repeated q = some w ∧ v ≤ w :=
  cdf_lookup repeated_cumulative (by norm_num) (by norm_num)

/-- Read from a file, the entry with the value 2 is found at 7/10, and not the first one there. -/
theorem cdf_lookup_fails :
    cdfParse [some (0, 1 / 5), some (1, 7 / 10), some (2, 7 / 10), some (3, 1)] = some repeated ∧
      Cumulative repeated ∧
      ¬ ∀ p, 0 ≤ p → p ≤ 1 → cdfGetValue repeated p = lookUp repeated p := by
  refine ⟨by decide +kernel, repeated_cumulative, fun h => ?_⟩
  exact absurd (h (7 / 10) (by norm_num) (by norm_num)) (by decide +kernel)

end Cdf

end ShadowBrowser
