/-
A hash table whose keys are cells: it holds pointers to numbers that others may change.

A node keeps the hash that its key had when it was put in.  A lookup compares this hash first and
the number that is in the cell now after it, so a node is found only while its cell holds a number with
the hash it was put in with (`Node.Sound`).  A node whose cell has changed is `Stale`: no key finds it, and
it can be neither replaced nor taken out.

* `exists_of_lookup`, `lookup_eq_none` — what is found;
* `steal_eq`, `insert_eq` — what stealing and inserting do to the nodes, and that they leave every
  other node where it is;
* `Node.Dead`, `mem_steal_of_dead` — **a node that no key but 0 finds stays**.
-/
import Mathlib.Data.List.Basic
import Mathlib.Data.Nat.Notation

namespace CellTable

variable {ι α : Type*}

/-- A node of the table: the hash of its key when it was put in, the cell that is its key, and its
value. -/
structure Node (ι α : Type*) where
  hash : ℕ
  key : ι
  value : α
  deriving DecidableEq, Repr

/-- The hash that is kept of a number: 0 and 1 are for nodes that are not used. -/
def realHash (k : ℕ) : ℕ := if k < 2 then 2 else k

variable {cell cell' : ι → ℕ} {k : ℕ} {i : ι} {v : α} {n m : Node ι α} {t : List (Node ι α)}

/-- The node is the one that is looked for. -/
def Node.Matches (cell : ι → ℕ) (k : ℕ) (n : Node ι α) : Prop :=
  n.hash = realHash k ∧ cell n.key = k

instance : Decidable (n.Matches cell k) := inferInstanceAs (Decidable (_ ∧ _))

/-- The node can be found: its hash is that of what its cell holds. -/
def Node.Sound (cell : ι → ℕ) (n : Node ι α) : Prop := n.hash = realHash (cell n.key)

instance : Decidable (n.Sound cell) := inferInstanceAs (Decidable (_ = _))

/-- The value that is found. -/
def lookup (cell : ι → ℕ) (k : ℕ) (t : List (Node ι α)) : Option α :=
  (t.find? fun n => n.Matches cell k).map Node.value

/-- The node is taken out, and its value is left alone. -/
def steal (cell : ι → ℕ) (k : ℕ) (t : List (Node ι α)) : List (Node ι α) :=
  t.eraseP fun n => n.Matches cell k

/-- A value is put in.  A node with the same key gets it in place of its own and keeps the cell it
has. -/
def insert (cell : ι → ℕ) (i : ι) (v : α) : List (Node ι α) → List (Node ι α)
  | [] => [⟨realHash (cell i), i, v⟩]
  | n :: t =>
    if n.Matches cell (cell i) then { n with value := v } :: t else n :: insert cell i v t

/-! ### What is found -/

theorem Node.matches_iff : n.Matches cell k ↔ n.Sound cell ∧ cell n.key = k := by
  constructor
  · rintro ⟨hhash, rfl⟩
    exact ⟨hhash, rfl⟩
  · rintro ⟨hsound, rfl⟩
    exact ⟨hsound, rfl⟩

theorem Node.Sound.matches (h : n.Sound cell) : n.Matches cell (cell n.key) := ⟨h, rfl⟩

/-- What is found is the value of a node that can be found. -/
theorem exists_of_lookup (h : lookup cell k t = some v) :
    ∃ n ∈ t, n.Matches cell k ∧ n.value = v := by
  obtain ⟨n, hn, rfl⟩ := Option.map_eq_some_iff.mp h
  exact ⟨n, List.mem_of_find?_eq_some hn, by simpa using List.find?_some hn, rfl⟩

theorem lookup_eq_none : lookup cell k t = none ↔ ∀ n ∈ t, ¬ n.Matches cell k := by
  rw [lookup, Option.map_eq_none_iff, List.find?_eq_none]
  simp

/-! ### Taking out and putting in -/

/-- **A node that is found is taken out, and nothing else.** -/
theorem steal_eq (h : ∃ n ∈ t, n.Matches cell k) :
    ∃ n t₁ t₂, n.Matches cell k ∧ (∀ m ∈ t₁, ¬ m.Matches cell k) ∧ t = t₁ ++ n :: t₂ ∧
      steal cell k t = t₁ ++ t₂ := by
  obtain ⟨n, hn, hmatch⟩ := h
  obtain ⟨m, t₁, t₂, hne, hm, ht, hsteal⟩ :=
    List.exists_of_eraseP (p := fun a : Node ι α => decide (a.Matches cell k)) hn
      (decide_eq_true hmatch)
  exact ⟨m, t₁, t₂, of_decide_eq_true hm, fun a ha => by simpa using hne a ha, ht, hsteal⟩

theorem insert_of_none (h : ∀ n ∈ t, ¬ n.Matches cell (cell i)) :
    insert cell i v t = t ++ [⟨realHash (cell i), i, v⟩] := by
  induction t with
  | nil => rfl
  | cons n t ih =>
    rw [insert, if_neg (h n List.mem_cons_self), ih fun m hm => h m (List.mem_cons_of_mem _ hm)]
    rfl

/-- A value replaces that of the first node with its key. -/
theorem insert_eq (h : ∃ n ∈ t, n.Matches cell (cell i)) :
    ∃ n t₁ t₂, n.Matches cell (cell i) ∧ t = t₁ ++ n :: t₂ ∧
      insert cell i v t = t₁ ++ { n with value := v } :: t₂ := by
  induction t with
  | nil =>
    obtain ⟨n, hn, _⟩ := h
    cases hn
  | cons m t ih =>
    by_cases hm : m.Matches cell (cell i)
    · exact ⟨m, [], t, hm, rfl, by rw [insert, if_pos hm]; rfl⟩
    · obtain ⟨n, hn, hmatch⟩ := h
      have hn : n ∈ t := by
        cases hn with
        | head => exact absurd hmatch hm
        | tail _ hn => exact hn
      obtain ⟨n, t₁, t₂, hmatch, rfl, hins⟩ := ih ⟨n, hn, hmatch⟩
      exact ⟨n, m :: t₁, t₂, hmatch, rfl, by rw [insert, if_neg hm, hins]; rfl⟩

/-- A node is an old one, an old one with the new value, or new. -/
theorem mem_insert (hn : n ∈ insert cell i v t) :
    n ∈ t ∨ (∃ m ∈ t, m.Matches cell (cell i) ∧ n = { m with value := v }) ∨
      n = ⟨realHash (cell i), i, v⟩ := by
  by_cases hex : ∃ m ∈ t, m.Matches cell (cell i)
  · obtain ⟨m, t₁, t₂, hm, rfl, hins⟩ := insert_eq (v := v) hex
    rw [hins] at hn
    obtain hn | hn := List.mem_append.mp hn
    · exact .inl (List.mem_append_left _ hn)
    · obtain rfl | hn := List.mem_cons.mp hn
      · exact .inr (.inl ⟨m, List.mem_append_right _ List.mem_cons_self, hm, rfl⟩)
      · exact .inl (List.mem_append_right _ (List.mem_cons_of_mem _ hn))
  · rw [insert_of_none fun m hm h => hex ⟨m, hm, h⟩] at hn
    obtain hn | hn := List.mem_append.mp hn
    · exact .inl hn
    · exact .inr (.inr (List.mem_singleton.mp hn))

/-! ### Stale nodes -/

/-- No key finds the node. -/
def Node.Stale (cell : ι → ℕ) (n : Node ι α) : Prop := ¬ n.Sound cell

theorem Node.Stale.not_matches (h : n.Stale cell) : ¬ n.Matches cell k :=
  fun hm => h (n.matches_iff.mp hm).1

/-! ### Nodes that are out of reach -/

/-- No key but 0 finds the node: it is stale, or its cell is empty. -/
def Node.Dead (cell : ι → ℕ) (n : Node ι α) : Prop := cell n.key = 0 ∨ n.Stale cell

theorem Node.Dead.not_matches (h : n.Dead cell) (hk : k ≠ 0) : ¬ n.Matches cell k := by
  rintro hm
  obtain h | h := h
  · exact hk (hm.2.symm.trans h)
  · exact h.not_matches hm

/-- A dead node is not taken out by a key that is not 0. -/
theorem mem_steal_of_dead (h : n.Dead cell) (hk : k ≠ 0) (hn : n ∈ t) : n ∈ steal cell k t :=
  (List.mem_eraseP_of_neg (by simpa using h.not_matches hk)).mpr hn

/-- A dead node stays dead when cells are emptied. -/
theorem Node.Dead.of_cells (h : n.Dead cell) (hcell : cell' n.key = cell n.key ∨ cell' n.key = 0) :
    n.Dead cell' := by
  obtain heq | hzero := hcell
  · obtain h | h := h
    · exact .inl (heq.trans h)
    · refine .inr fun hs => h ?_
      rwa [Node.Sound, heq] at hs
  · exact .inl hzero

/-- Nothing is put in the place of a node but another value. -/
theorem exists_mem_insert (hn : n ∈ t) :
    ∃ m ∈ insert cell i v t, m.hash = n.hash ∧ m.key = n.key := by
  by_cases hex : ∃ n ∈ t, n.Matches cell (cell i)
  · obtain ⟨m, t₁, t₂, _, rfl, hins⟩ := insert_eq (v := v) hex
    rw [hins]
    obtain hn | hn := List.mem_append.mp hn
    · exact ⟨n, List.mem_append_left _ hn, rfl, rfl⟩
    · obtain rfl | hn := List.mem_cons.mp hn
      · exact ⟨_, List.mem_append_right _ List.mem_cons_self, rfl, rfl⟩
      · exact ⟨n, List.mem_append_right _ (List.mem_cons_of_mem _ hn), rfl, rfl⟩
  · rw [insert_of_none fun n hn hm => hex ⟨n, hn, hm⟩]
    exact ⟨n, List.mem_append_left _ hn, rfl, rfl⟩

/-- There is a node for what has been put in. -/
theorem exists_mem_insert_self (cell : ι → ℕ) (i : ι) (v : α) (t : List (Node ι α)) :
    ∃ m ∈ insert cell i v t, m.Matches cell (cell i) := by
  by_cases hex : ∃ n ∈ t, n.Matches cell (cell i)
  · obtain ⟨m, t₁, t₂, hm, rfl, hins⟩ := insert_eq (v := v) hex
    rw [hins]
    exact ⟨_, List.mem_append_right _ List.mem_cons_self, hm⟩
  · rw [insert_of_none fun n hn hm => hex ⟨n, hn, hm⟩]
    exact ⟨_, List.mem_append_right _ (List.mem_singleton_self _), rfl, rfl⟩

end CellTable
