/-
Runs of a labelled transition relation.

`Run R s es t` says that the relation `R : σ → ε → σ → Prop` leads from `s` to
`t` over the events `es`.

* `Run.invariant` — what every step preserves holds in every state reached;
* `Guarded cond R` — the relation `R`, restricted to steps that meet a condition;
* `run_of_exec`, `run_of_exec_guarded` — executing a step function gives a run of it.

Silent steps (those an event is made of) are chained with `Relation.ReflTransGen`;
`Closed P R` says that a predicate is preserved by `R`, and then it is preserved
by any number of steps.
-/
import Mathlib.Logic.Relation
import ShadowBrowser.Checked

namespace Runs

open Checked

variable {σ : Type} {ε : Type*} {χ : Type*}

/-- The relation `R` leads from the first state to the last over a list of events. -/
inductive Run (R : σ → ε → σ → Prop) : σ → List ε → σ → Prop
  | nil (s : σ) : Run R s [] s
  | cons {s t u : σ} {e : ε} {es : List ε} :
      R s e t → Run R t es u → Run R s (e :: es) u

/-- `t` is reached from `s` by some run. -/
def Reaches (R : σ → ε → σ → Prop) (s t : σ) : Prop := ∃ es, Run R s es t

/-- The steps of `R` that meet `cond` before they are taken. -/
def Guarded (cond : σ → ε → Prop) (R : σ → ε → σ → Prop) (s : σ) (e : ε) (t : σ) : Prop :=
  cond s e ∧ R s e t

variable {R R' : σ → ε → σ → Prop} {s t u : σ} {es es' : List ε}

theorem Run.append (h : Run R s es t) (h' : Run R t es' u) : Run R s (es ++ es') u := by
  induction h with
  | nil => exact h'
  | cons hr _ ih => exact .cons hr (ih h')

/-- A run followed by one more step. -/
theorem Run.snoc {e : ε} (h : Run R s es t) (hr : R t e u) : Run R s (es ++ [e]) u :=
  h.append (.cons hr (.nil u))

theorem Run.mono (hRR' : ∀ s e t, R s e t → R' s e t) (h : Run R s es t) :
    Run R' s es t := by
  induction h with
  | nil => exact .nil _
  | cons hr _ ih => exact .cons (hRR' _ _ _ hr) ih

/-- What every step preserves holds in every state reached. -/
theorem Run.invariant {P : σ → Prop} (hstep : ∀ s e t, P s → R s e t → P t)
    (h : Run R s es t) (hs : P s) : P t := by
  induction h with
  | nil => exact hs
  | cons hr _ ih => exact ih (hstep _ _ _ hs hr)

/-- A run splits at every one of its steps. -/
theorem Run.split {e : ε} (h : Run R s (es ++ e :: es') u) :
    ∃ t t', Run R s es t ∧ R t e t' ∧ Run R t' es' u := by
  induction es generalizing s with
  | nil =>
    cases h with
    | cons hr hrest => exact ⟨s, _, .nil s, hr, hrest⟩
  | cons a es ih =>
    cases h with
    | cons hr hrest =>
      obtain ⟨t, t', h₁, h₂, h₃⟩ := ih hrest
      exact ⟨t, t', .cons hr h₁, h₂, h₃⟩

/-- Executing a step function gives a run of it. -/
theorem run_of_exec {step : σ → ε → Except χ σ} :
    ∀ {es : List ε} {s t : σ}, exec step s es = .ok t →
      Run (fun s e t => step s e = .ok t) s es t := by
  intro es
  induction es with
  | nil =>
    intro s t h
    cases h
    exact .nil s
  | cons e es ih =>
    intro s t h
    obtain ⟨u, hu, ht⟩ := bind_eq_ok.mp h
    exact .cons hu (ih ht)

/-- A step function that also checks the condition of each step. -/
def guardedStep (cond : σ → ε → Prop) [∀ s e, Decidable (cond s e)] (x : χ)
    (step : σ → ε → Except χ σ) (s : σ) (e : ε) : Except χ σ :=
  check (cond s e) x >>= fun _ => step s e

theorem run_of_exec_guarded {step : σ → ε → Except χ σ} {cond : σ → ε → Prop}
    [∀ s e, Decidable (cond s e)] {x : χ} :
    ∀ {es : List ε} {s t : σ}, exec (guardedStep cond x step) s es = .ok t →
      Run (Guarded cond fun s e t => step s e = .ok t) s es t := by
  intro es
  induction es with
  | nil =>
    intro s t h
    cases h
    exact .nil s
  | cons e es ih =>
    intro s t h
    obtain ⟨u, hu, ht⟩ := bind_eq_ok.mp h
    obtain ⟨_, hc, hu⟩ := bind_eq_ok.mp hu
    exact .cons ⟨check_eq_ok.mp hc, hu⟩ (ih ht)

/-! ### Silent steps -/

/-- `P` is preserved by `r`. -/
def Closed (P : σ → Prop) (r : σ → σ → Prop) : Prop := ∀ s t, P s → r s t → P t

theorem Closed.star {P : σ → Prop} {r : σ → σ → Prop} (h : Closed P r) :
    Closed P (Relation.ReflTransGen r) := by
  intro s t hs hst
  induction hst with
  | refl => exact hs
  | tail _ hr ih => exact h _ _ ih hr

/-- A function that no step changes is not changed by any number of steps. -/
theorem star_invariant {α : Type*} {f : σ → α} {r : σ → σ → Prop}
    (h : ∀ s t, r s t → f t = f s) {s t : σ} (hst : Relation.ReflTransGen r s t) :
    f t = f s := by
  induction hst with
  | refl => rfl
  | tail _ hr ih => exact (h _ _ hr).trans ih

/-- A loop whose turns are chains of steps is a chain of steps. -/
theorem star_of_foldlM {α : Type*} {r : σ → σ → Prop} {f : σ → α → Except χ σ}
    (hf : ∀ a s t, f s a = .ok t → Relation.ReflTransGen r s t) {l : List α} :
    ∀ {s t : σ}, l.foldlM f s = .ok t → Relation.ReflTransGen r s t := by
  induction l with
  | nil =>
    intro s t h
    cases h
    exact .refl
  | cons a l ih =>
    intro s t h
    obtain ⟨u, hu, h⟩ := bind_eq_ok.mp h
    exact (hf a s u hu).trans (ih h)

end Runs
