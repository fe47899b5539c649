/-
Counters of the entries of a map.

A program that keeps a map often keeps beside it the number of the entries that are in some state.
`CountIs p f k` says that `k` is the number of the entries of `f` that satisfy `p`:

* `CountIs.set`, `CountIs.clear`, `CountIs.keep` — what the number is after one entry has been
  changed;
* `CountIs.nonneg` — it is not negative.
-/
import Mathlib.Data.Finset.Card
import Mathlib.Data.Int.Notation
import Mathlib.Logic.Function.Basic

namespace Counting

variable {ι α : Type*} [DecidableEq ι] {p : α → Prop} {f : ι → Option α} {k : ℤ} {i : ι}
  {o : Option α}

/-- `k` is the number of the entries of the map that satisfy `p`. -/
def CountIs (p : α → Prop) (f : ι → Option α) (k : ℤ) : Prop :=
  ∃ s : Finset ι, (∀ i, i ∈ s ↔ ∃ a, f i = some a ∧ p a) ∧ k = s.card

omit [DecidableEq ι] in
theorem CountIs.nonneg (h : CountIs p f k) : 0 ≤ k := by
  obtain ⟨s, _, hk⟩ := h
  omega

omit [DecidableEq ι] in
/-- The empty map. -/
theorem countIs_empty : CountIs p (fun _ : ι => none) 0 :=
  ⟨∅, by simp, by simp⟩

/-- An entry is changed to one that counts. -/
theorem CountIs.set (h : CountIs p f k) (ho : ∃ a, o = some a ∧ p a)
    (hi : ¬ ∃ a, f i = some a ∧ p a) : CountIs p (Function.update f i o) (k + 1) := by
  obtain ⟨s, hs, hk⟩ := h
  have hnot : i ∉ s := fun hmem => hi ((hs i).mp hmem)
  refine ⟨insert i s, fun j => ?_, ?_⟩
  · by_cases hj : j = i
    · rw [hj, Function.update_self]
      exact ⟨fun _ => ho, fun _ => Finset.mem_insert_self i s⟩
    · rw [Function.update_of_ne hj, Finset.mem_insert, or_iff_right hj, hs]
  · rw [Finset.card_insert_of_notMem hnot]
    omega

/-- An entry is changed to one that does not count. -/
theorem CountIs.clear (h : CountIs p f k) (ho : ¬ ∃ a, o = some a ∧ p a)
    (hi : ∃ a, f i = some a ∧ p a) : CountIs p (Function.update f i o) (k - 1) := by
  obtain ⟨s, hs, hk⟩ := h
  have hmem : i ∈ s := (hs i).mpr hi
  refine ⟨s.erase i, fun j => ?_, ?_⟩
  · by_cases hj : j = i
    · rw [hj, Function.update_self]
      exact ⟨fun h => absurd rfl (Finset.mem_erase.mp h).1, fun h => absurd h ho⟩
    · rw [Function.update_of_ne hj, Finset.mem_erase, and_iff_right hj, hs]
  · have hcard := Finset.card_erase_of_mem hmem
    have hpos := Finset.card_pos.mpr ⟨i, hmem⟩
    omega

/-- An entry is changed to one that counts as the old one did. -/
theorem CountIs.keep (h : CountIs p f k)
    (hiff : (∃ a, o = some a ∧ p a) ↔ ∃ a, f i = some a ∧ p a) :
    CountIs p (Function.update f i o) k := by
  obtain ⟨s, hs, hk⟩ := h
  refine ⟨s, fun j => ?_, hk⟩
  by_cases hj : j = i
  · rw [hj, Function.update_self, hiff, hs]
  · rw [Function.update_of_ne hj, hs]

end Counting
