/-
Byte streams that are made of blocks of one length.

A sender that emits blocks of `n` bytes, and a receiver that cuts what it gets
into blocks of `n` bytes, agree on the blocks however the stream is segmented:

* `length_flatMap_blocks` — how long a stream of blocks is;
* **`flatten_prefix`** — blocks that make up a prefix of a stream of blocks are
  the first blocks of the stream;
* `drop_flatten` — what is left of a stream behind whole blocks.
-/
import Mathlib.Data.List.Basic
import Mathlib.Tactic.Ring

namespace Blocks

variable {α β : Type*} {n : ℕ}

theorem length_flatMap_blocks {f : β → List α} :
    ∀ {ks : List β}, (∀ k ∈ ks, (f k).length = n) → (ks.flatMap f).length = n * ks.length := by
  intro ks
  induction ks with
  | nil => simp
  | cons k ks ih =>
    intro h
    rw [List.flatMap_cons, List.length_append, h k (by simp),
      ih fun j hj => h j (by simp [hj]), List.length_cons]
    ring

/-- **Blocks that make up a prefix of a stream of blocks are its first blocks.** -/
theorem flatten_prefix {f : β → List α} (hn : 0 < n) :
    ∀ {hs : List (List α)} {ks : List β} {rest : List α},
      (∀ h ∈ hs, h.length = n) → (∀ k ∈ ks, (f k).length = n) →
      hs.flatten ++ rest = ks.flatMap f →
      hs = (ks.take hs.length).map f ∧ rest = (ks.drop hs.length).flatMap f := by
  intro hs
  induction hs with
  | nil =>
    intro ks rest _ _ h
    simpa using h
  | cons b hs ih =>
    intro ks rest hhs hks h
    have hb : b.length = n := hhs b (by simp)
    cases ks with
    | nil =>
      have := congrArg List.length h
      simp [hb] at this
      omega
    | cons k ks =>
      have hk : (f k).length = n := hks k (by simp)
      rw [List.flatten_cons, List.append_assoc, List.flatMap_cons] at h
      obtain ⟨hbk, hrest⟩ := List.append_inj h (by rw [hb, hk])
      obtain ⟨h₁, h₂⟩ := ih (fun x hx => hhs x (by simp [hx]))
        (fun x hx => hks x (by simp [hx])) hrest
      refine ⟨?_, ?_⟩
      · rw [List.length_cons, List.take_succ_cons, List.map_cons, hbk, ← h₁]
      · rw [List.length_cons, List.drop_succ_cons]
        exact h₂

/-- Dropping whole blocks off a stream. -/
theorem drop_flatten : ∀ {hs : List (List α)} (i : ℕ), (∀ h ∈ hs, h.length = n) →
    hs.flatten.drop (i * n) = (hs.drop i).flatten := by
  intro hs
  induction hs with
  | nil =>
    intro i _
    simp
  | cons b hs ih =>
    intro i h
    cases i with
    | zero => simp
    | succ i =>
      have hb : b.length = n := h b (by simp)
      have hsplit : (i + 1) * n = b.length + i * n := by
        rw [hb]
        ring
      rw [List.flatten_cons, hsplit, List.drop_length_add_append,
        ih i fun x hx => h x (by simp [hx]), List.drop_succ_cons]

end Blocks
