/-
Searching a text for a pattern, up to a folding of its letters.

`find f needle hay` is where the first occurrence of `needle` in `hay` begins, when
letters count as the same that `f` maps to the same.  To find a pattern in a text that is
written down as a sequence of parts, skip the parts that have no letter like the
pattern's first:

* `find_skip`, `find_cons_neg` — what is in front of the first occurrence;
* `find_prefix` — the occurrence;
* `find_append` — it stays the first one when the text grows;
* `find_eq_none_of_short` — and so it is not in a part of the text that ends before it does.
-/
import Mathlib.Data.List.Basic
import Mathlib.Data.List.Infix
import Mathlib.Data.Nat.Notation

namespace Texts

variable {α β : Type} [DecidableEq β] (f : α → β)

/-- Where the first occurrence of a pattern begins. -/
def find (needle : List α) : List α → Option ℕ
  | [] => if needle.isEmpty then some 0 else none
  | x :: xs =>
    if (needle.map f).isPrefixOf ((x :: xs).map f) then some 0 else (find needle xs).map (· + 1)

variable {f} {needle hay rest : List α} {x : α} {i : ℕ}

theorem find_cons_pos {xs : List α} (h : needle.map f <+: (x :: xs).map f) :
    find f needle (x :: xs) = some 0 := by
  rw [find, if_pos (List.isPrefixOf_iff_prefix.mpr h)]

theorem find_cons_neg {xs : List α} (h : ¬ needle.map f <+: (x :: xs).map f) :
    find f needle (x :: xs) = (find f needle xs).map (· + 1) := by
  rw [find, if_neg fun hp => h (List.isPrefixOf_iff_prefix.mp hp)]

/-- A pattern is found in front. -/
theorem find_prefix (needle rest : List α) : find f needle (needle ++ rest) = some 0 := by
  cases needle with
  | nil =>
    cases rest with
    | nil => rfl
    | cons x xs => exact find_cons_pos (List.nil_prefix)
  | cons a needle =>
    refine find_cons_pos ?_
    show (a :: needle).map f <+: (a :: needle ++ rest).map f
    rw [List.map_append]
    exact List.prefix_append _ _

omit [DecidableEq β] in
/-- A letter that is not like the pattern's first is not where the pattern begins. -/
theorem not_prefix_of_ne {a : α} {xs : List α} (h : f x ≠ f a) :
    ¬ (a :: needle).map f <+: (x :: xs).map f := fun hp =>
  h (List.cons_prefix_cons.mp hp).1.symm

/-- **Nothing is found in a part that has no letter like the pattern's first.** -/
theorem find_skip {a : α} {l : List α} (rest : List α) (hl : ∀ x ∈ l, f x ≠ f a) :
    find f (a :: needle) (l ++ rest) = (find f (a :: needle) rest).map (l.length + ·) := by
  induction l with
  | nil => simp
  | cons x l ih =>
    have hx : f x ≠ f a := hl x List.mem_cons_self
    rw [List.cons_append, find_cons_neg (not_prefix_of_ne hx),
      ih fun y hy => hl y (List.mem_cons_of_mem x hy), Option.map_map]
    refine congrArg (fun g => Option.map g _) (funext fun k => ?_)
    show l.length + k + 1 = (x :: l).length + k
    rw [List.length_cons]
    omega

/-- An occurrence is within the text. -/
theorem find_le (h : find f needle hay = some i) : i + needle.length ≤ hay.length := by
  induction hay generalizing i with
  | nil =>
    cases needle with
    | nil => cases h; exact Nat.le_refl 0
    | cons a needle => cases h
  | cons x xs ih =>
    by_cases hp : needle.map f <+: (x :: xs).map f
    · rw [find_cons_pos hp] at h
      cases h
      simpa using hp.length_le
    · rw [find_cons_neg hp] at h
      obtain ⟨k, hk, rfl⟩ := Option.map_eq_some_iff.mp h
      have hle := ih hk
      rw [List.length_cons]
      omega

/-- **The first occurrence stays where it is when the text grows.** -/
theorem find_append (rest : List α) (h : find f needle hay = some i) :
    find f needle (hay ++ rest) = some i := by
  induction hay generalizing i with
  | nil =>
    cases needle with
    | nil =>
      cases h
      exact find_prefix [] rest
    | cons a needle => cases h
  | cons x xs ih =>
    rw [List.cons_append]
    by_cases hp : needle.map f <+: (x :: xs).map f
    · rw [find_cons_pos hp] at h
      rw [find_cons_pos, h]
      rw [← List.cons_append, List.map_append]
      exact List.IsPrefix.trans hp (List.prefix_append _ _)
    · have hlong : ¬ needle.map f <+: (x :: (xs ++ rest)).map f := by
        intro hp'
        rw [find_cons_neg hp] at h
        obtain ⟨k, hk, rfl⟩ := Option.map_eq_some_iff.mp h
        have hle := find_le hk
        refine hp (List.prefix_of_prefix_length_le hp' ?_ ?_)
        · rw [← List.cons_append, List.map_append]
          exact List.prefix_append _ _
        · rw [List.length_map, List.length_map, List.length_cons]
          omega
      rw [find_cons_neg hp] at h
      obtain ⟨k, hk, rfl⟩ := Option.map_eq_some_iff.mp h
      rw [find_cons_neg hlong, ih hk, Option.map_some]

/-- **A pattern is not found in a part of the text that ends before its first occurrence does.** -/
theorem find_eq_none_of_short (h : find f needle (hay ++ rest) = some i)
    (hlt : hay.length < i + needle.length) : find f needle hay = none := by
  cases hf : find f needle hay with
  | none => rfl
  | some k =>
    have hle := find_le hf
    rw [find_append rest hf] at h
    cases h
    omega

/-- What is not in a text is not in its beginning. -/
theorem find_eq_none_of_append (h : find f needle (hay ++ rest) = none) : find f needle hay = none := by
  cases hf : find f needle hay with
  | none => rfl
  | some k =>
    rw [find_append rest hf] at h
    cases h

end Texts
