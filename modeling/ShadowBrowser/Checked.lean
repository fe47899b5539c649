/-
Programs with run-time assertions.

A program that aborts when one of its assertions fails is a function into
`Except χ α`, where `χ` names the assertions.  This file has the notions
that proofs about such programs use:

* `check p e` — the assertion `p`, named `e`;
* `bind_eq_ok`, `bind_eq_error` — what a sequence returns, and where it aborts;
* `Avoids e x` — `x` does not abort with `e`, with one rule for each way programs
  are built.

`exec` runs a step function over a list of events, and aborts with the first
event that does; `returns` tests what a closed program returns.
-/
import Mathlib.Logic.Basic
import Mathlib.Tactic.Basic

namespace Checked

universe u
variable {χ : Type u} {α β : Type}

/-- The assertion `p`, named `e`. -/
def check (p : Prop) [Decidable p] (e : χ) : Except χ Unit :=
  if p then .ok () else .error e

@[simp] theorem pure_eq_ok (a : α) : (pure a : Except χ α) = .ok a := rfl

@[simp] theorem ok_bind (a : α) (f : α → Except χ β) :
    ((Except.ok a : Except χ α) >>= f) = f a := rfl

@[simp] theorem error_bind (e : χ) (f : α → Except χ β) :
    ((Except.error e : Except χ α) >>= f) = .error e := rfl

theorem check_pos {p : Prop} [Decidable p] {e : χ} (h : p) : check p e = .ok () :=
  if_pos h

theorem check_neg {p : Prop} [Decidable p] {e : χ} (h : ¬ p) : check p e = .error e :=
  if_neg h

@[simp] theorem check_eq_ok {p : Prop} [Decidable p] {e : χ} {a : Unit} :
    check p e = .ok a ↔ p := by
  unfold check
  split <;> simp_all

@[simp] theorem check_eq_error {p : Prop} [Decidable p] {e e' : χ} :
    check p e = .error e' ↔ ¬ p ∧ e = e' := by
  unfold check
  split <;> simp_all

/-- A sequence returns `b` when its first part returns some `a`, from which the
second returns `b`. -/
theorem bind_eq_ok {x : Except χ α} {f : α → Except χ β} {b : β} :
    (x >>= f) = .ok b ↔ ∃ a, x = .ok a ∧ f a = .ok b := by
  cases x with
  | error e => simp
  | ok a => simp

/-- A sequence aborts in its first part or in its second. -/
theorem bind_eq_error {x : Except χ α} {f : α → Except χ β} {e : χ} :
    (x >>= f) = .error e ↔ x = .error e ∨ ∃ a, x = .ok a ∧ f a = .error e := by
  cases x with
  | error e' => simp
  | ok a => simp

/-- A program whose assertions are renamed returns what it returned. -/
theorem eq_ok_of_mapError {χ' : Type*} {f : χ → χ'} {x : Except χ α} {a : α}
    (h : x.mapError f = .ok a) : x = .ok a := by
  cases x with
  | error k => cases h
  | ok b =>
    cases h
    rfl

/-- `if b then …`, for a program that may change its state. -/
def doIf (b : Bool) (f : α → Except χ α) (a : α) : Except χ α :=
  if b then f a else .ok a

theorem doIf_eq_ok {b : Bool} {f : α → Except χ α} {a a' : α} (h : doIf b f a = .ok a') :
    (b = true ∧ f a = .ok a') ∨ (b = false ∧ a' = a) := by
  cases b with
  | false =>
    cases h
    exact .inr ⟨rfl, rfl⟩
  | true => exact .inl ⟨rfl, h⟩

/-! ### Rules for the assertions that may fail -/

/-- `x` does not abort with `e`. -/
def Avoids (e : χ) (x : Except χ α) : Prop := x ≠ .error e

section

variable {e e' : χ}

theorem Avoids.ok {a : α} : Avoids e (.ok a : Except χ α) := by
  intro h
  cases h

theorem Avoids.error (h : e' ≠ e) : Avoids e (.error e' : Except χ α) := by
  intro h'
  cases h'
  exact h rfl

theorem Avoids.bind {x : Except χ α} {f : α → Except χ β} (hx : Avoids e x)
    (hf : ∀ a, x = .ok a → Avoids e (f a)) : Avoids e (x >>= f) := by
  intro h
  rcases bind_eq_error.mp h with h | ⟨a, ha, h⟩
  · exact hx h
  · exact hf a ha h

/-- An assertion with another name. -/
theorem Avoids.check_bind {p : Prop} [Decidable p] {f : PUnit → Except χ β} (h : e' ≠ e)
    (hf : p → Avoids e (f ⟨⟩)) : Avoids e (check p e' >>= f) := by
  refine .bind (fun h' => h (check_eq_error.mp h').2) fun _ hp => ?_
  exact hf (check_eq_ok.mp hp)

/-- An assertion that holds. -/
theorem Avoids.check_bind_of {p : Prop} [Decidable p] {f : PUnit → Except χ β} (hp : p)
    (hf : Avoids e (f ⟨⟩)) : Avoids e (check p e' >>= f) := by
  rw [check_pos hp]
  exact hf

theorem Avoids.ite {p : Prop} [Decidable p] {x y : Except χ α} (hx : p → Avoids e x)
    (hy : ¬ p → Avoids e y) : Avoids e (if p then x else y) := by
  split
  · next h => exact hx h
  · next h => exact hy h

theorem Avoids.doIf {b : Bool} {f : α → Except χ α} {a : α} (h : b = true → Avoids e (f a)) :
    Avoids e (doIf b f a) := by
  cases b with
  | false => exact .ok
  | true => exact h rfl

/-- A loop whose turns do not abort with `e`. -/
theorem Avoids.foldlM {ι : Type*} {f : α → ι → Except χ α} (hf : ∀ a i, Avoids e (f a i))
    (l : List ι) : ∀ {a : α}, Avoids e (l.foldlM f a) := by
  induction l with
  | nil => exact .ok
  | cons i l ih => exact .bind (hf _ i) fun _ _ => ih

end

/-! ### Running a step function -/

/-- Run `step` over a list of events, from the first to the last. -/
def exec {σ : Type} {ε : Type*} (step : σ → ε → Except χ σ) : σ → List ε → Except χ σ
  | s, [] => .ok s
  | s, e :: es => step s e >>= fun t => exec step t es

/-- `x` returns a value that passes the test `p`. -/
def returns (x : Except χ α) (p : α → Bool) : Bool :=
  match x with
  | .ok a => p a
  | .error _ => false

theorem exists_of_returns {x : Except χ α} {p : α → Bool} (h : returns x p = true) :
    ∃ a, x = .ok a ∧ p a = true := by
  cases x with
  | error e => exact absurd h (by simp [returns])
  | ok a => exact ⟨a, rfl, h⟩

end Checked
