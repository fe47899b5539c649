/-
Lines and decimal numbers, in bytes.

* `readln` — the first line of a buffer, when its end has arrived;
* `readln_append` — a buffer with a part of a text in it has the first line of the
  text, or not enough bytes for it;
* `decimal`, `ofDecimal` — numbers as they are printed and read, and that they are
  read as they were printed.
-/
import Mathlib.Algebra.Group.Nat.Defs
import Mathlib.Data.List.Basic
import Mathlib.Data.Nat.Notation

namespace Texts

/-- The bytes of a text. -/
def ascii (s : String) : List UInt8 := s.toList.map fun c => c.toNat.toUInt8

/-! ### Lines -/

/-- The end of a line. -/
def crlf : List UInt8 := [13, 10]

/-- The first line of a buffer, without its end, and what is behind it. -/
def readln : List UInt8 → Option (List UInt8 × List UInt8)
  | [] => none
  | [_] => none
  | a :: b :: bs =>
    if a = 13 ∧ b = 10 then some ([], bs)
    else (readln (b :: bs)).map fun p => (a :: p.1, p.2)

/-- **The first line of a text of which a part has arrived.**  It is in the buffer, or its end is yet
to come. -/
theorem readln_append {buf future line rest : List UInt8} (hline : 13 ∉ line)
    (h : buf ++ future = line ++ crlf ++ rest) :
    (∃ buf', readln buf = some (line, buf') ∧ buf' ++ future = rest) ∨
      (readln buf = none ∧ future ≠ []) := by
  -- by induction on the line: its bytes are none of them the first of the line's end
  induction line generalizing buf with
  | nil =>
    match buf with
    | [] =>
      refine .inr ⟨rfl, ?_⟩
      rw [show future = crlf ++ rest from h]
      simp [crlf]
    | [a] =>
      simp only [crlf, List.nil_append, List.cons_append, List.cons.injEq] at h
      refine .inr ⟨rfl, ?_⟩
      rw [h.2]
      simp
    | a :: b :: buf =>
      simp only [crlf, List.nil_append, List.cons_append, List.cons.injEq] at h
      obtain ⟨rfl, rfl, h⟩ := h
      exact .inl ⟨buf, rfl, h⟩
  | cons c line ih =>
    match buf with
    | [] =>
      refine .inr ⟨rfl, ?_⟩
      rw [show future = c :: line ++ crlf ++ rest from h]
      simp
    | [a] =>
      simp only [List.cons_append, List.nil_append, List.cons.injEq] at h
      refine .inr ⟨rfl, ?_⟩
      rw [h.2]
      simp [crlf]
    | a :: b :: buf =>
      simp only [List.cons_append, List.cons.injEq] at h
      obtain ⟨rfl, h⟩ := h
      have ha : a ≠ 13 := fun ha => hline (by simp [ha])
      have hrest := @ih (b :: buf) (fun hmem => hline (List.mem_cons_of_mem _ hmem)) h
      rw [readln, if_neg fun hab => ha hab.1]
      rcases hrest with ⟨buf', hread, hbuf'⟩ | ⟨hread, hne⟩
      · exact .inl ⟨buf', by simp [hread], hbuf'⟩
      · exact .inr ⟨by simp [hread], hne⟩

/-- A line that is read leaves the buffer shorter. -/
theorem length_of_readln {buf line rest : List UInt8} (h : readln buf = some (line, rest)) :
    rest.length < buf.length := by
  fun_induction readln buf generalizing line with
  | case1 => simp at h
  | case2 => simp at h
  | case3 a b bs hab =>
    simp only [Option.some.injEq, Prod.mk.injEq] at h
    rw [← h.2, List.length_cons, List.length_cons]
    omega
  | case4 a b bs hab ih =>
    obtain ⟨p, hp, heq⟩ := Option.map_eq_some_iff.mp h
    simp only [Prod.mk.injEq] at heq
    have hlt := @ih p.1 (by rw [hp, ← heq.2])
    simp only [List.length_cons] at hlt ⊢
    omega

/-- The lines of a text, each with its end. -/
def unlines (ls : List (List UInt8)) : List UInt8 := ls.flatMap fun l => l ++ crlf

@[simp] theorem unlines_nil : unlines [] = [] := rfl

@[simp] theorem unlines_cons (l : List UInt8) (ls : List (List UInt8)) :
    unlines (l :: ls) = l ++ crlf ++ unlines ls := rfl

/-! ### Decimal numbers -/

/-- A number as it is printed. -/
def decimal (n : ℕ) : List UInt8 := (Nat.toDigits 10 n).map fun c => c.toNat.toUInt8

/-- A digit. -/
def IsDigit (b : UInt8) : Prop := 48 ≤ b.toNat ∧ b.toNat ≤ 57

instance (b : UInt8) : Decidable (IsDigit b) := inferInstanceAs (Decidable (_ ∧ _))

instance (ds : List UInt8) : Decidable (∀ d ∈ ds, IsDigit d) := List.decidableBAll IsDigit ds

/-- The number that some digits are. -/
def ofDecimal (ds : List UInt8) : ℕ := ds.foldl (fun n d => 10 * n + (d.toNat - 48)) 0

/-- The byte of a digit. -/
theorem toNat_digit {c : Char} (h : c.isDigit = true) :
    c.toNat.toUInt8.toNat = c.toNat ∧ 48 ≤ c.toNat ∧ c.toNat ≤ 57 := by
  have hle : 48 ≤ c.toNat ∧ c.toNat ≤ 57 := by
    simpa [Char.isDigit, UInt32.le_iff_toNat_le] using h
  refine ⟨?_, hle⟩
  simp only [Nat.toUInt8, UInt8.toNat_ofNat']
  omega

theorem isDigit_of_mem_decimal {n : ℕ} {b : UInt8} (h : b ∈ decimal n) : IsDigit b := by
  obtain ⟨c, hc, rfl⟩ := List.mem_map.mp h
  have hdigit := toNat_digit (Nat.isDigit_of_mem_toDigits (by decide) (by decide) hc)
  rw [IsDigit, hdigit.1]
  exact hdigit.2

theorem decimal_ne_nil (n : ℕ) : decimal n ≠ [] := by
  simp [decimal]

/-- The number of digits. -/
theorem length_decimal_le {n k : ℕ} (hk : 0 < k) (h : n < 10 ^ k) : (decimal n).length ≤ k := by
  rw [decimal, List.length_map]
  exact (Nat.length_toDigits_le_iff (by decide) hk).mpr h

/-- **A number is read as it was printed.** -/
theorem ofDecimal_decimal (n : ℕ) : ofDecimal (decimal n) = n := by
  have hfold : ∀ (cs : List Char) (m : ℕ), (∀ c ∈ cs, c.isDigit = true) →
      (cs.map fun c => c.toNat.toUInt8).foldl (fun n d => 10 * n + (d.toNat - 48)) m =
        Nat.ofDigitChars 10 cs m := by
    intro cs
    induction cs with
    | nil =>
      intro m _
      simp
    | cons c cs ih =>
      intro m hcs
      rw [List.map_cons, List.foldl_cons, Nat.ofDigitChars_cons,
        (toNat_digit (hcs c List.mem_cons_self)).1]
      exact ih _ fun c' hc' => hcs c' (List.mem_cons_of_mem _ hc')
  rw [ofDecimal, decimal, hfold _ _ fun c hc =>
    Nat.isDigit_of_mem_toDigits (by decide) (by decide) hc]
  exact Nat.ofDigitChars_ten_toDigits

end Texts
