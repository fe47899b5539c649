/-
Systems that follow a machine.

A machine reads one input at a time, moves to its next state and answers.  A system
with labelled steps follows a machine if some of its steps carry an input, and these
do what the machine does with the input, while all others leave the machine's state
as it is (`Follows`).

* **`Follows.run`** — the answers of a run are those of the machine;
* **`Follows.noninterference`** — so two runs that read the same inputs, from states
  that look the same to the machine, give the same answers, whatever else they do.
-/
import ShadowBrowser.Runs

namespace Machines

open Runs

variable {σ τ : Type} {ι ο ω : Type*}

/-- A machine that answers every input. -/
structure Machine (σ : Type) (ι ω : Type*) where
  next : σ → ι → σ
  answer : σ → ι → ω

namespace Machine

variable (m : Machine σ ι ω)

/-- The answers to a list of inputs. -/
def answers : σ → List ι → List ω
  | _, [] => []
  | s, i :: is => m.answer s i :: answers (m.next s i) is

/-- The state after a list of inputs. -/
def after (s : σ) (is : List ι) : σ := is.foldl m.next s

end Machine

/-- The steps of `R` from states in `Inv` do what the machine does with their inputs. -/
structure Follows (R : τ → ο → τ → Prop) (Inv : τ → Prop) (m : Machine σ ι ω)
    (look : τ → σ) (input : ο → Option ι) (output : ο → ω) : Prop where
  invariant : ∀ {s o t}, Inv s → R s o t → Inv t
  silent : ∀ {s o t}, Inv s → R s o t → input o = none → look t = look s
  sync : ∀ {s o t i}, Inv s → R s o t → input o = some i →
    look t = m.next (look s) i ∧ output o = m.answer (look s) i

namespace Follows

variable {R : τ → ο → τ → Prop} {Inv : τ → Prop} {m : Machine σ ι ω} {look : τ → σ}
  {input : ο → Option ι} {output : ο → ω}

/-- **The answers of a run are those of the machine.** -/
theorem run (h : Follows R Inv m look input output) {s t : τ} {os : List ο} (hs : Inv s)
    (hrun : Run R s os t) :
    (os.filter fun o => (input o).isSome).map output =
        m.answers (look s) (os.filterMap input) ∧
      look t = m.after (look s) (os.filterMap input) := by
  induction hrun with
  | nil => exact ⟨rfl, rfl⟩
  | @cons s u t o os hstep _ ih =>
    obtain ⟨houts, hafter⟩ := ih (h.invariant hs hstep)
    cases hi : input o with
    | none =>
      rw [h.silent hs hstep hi] at houts hafter
      simp [hi, houts, hafter]
    | some i =>
      obtain ⟨hlook, hout⟩ := h.sync hs hstep hi
      rw [hlook] at houts hafter
      simp [hi, houts, hafter, hout, Machine.answers, Machine.after]

/-- **Two runs with the same inputs give the same answers.** -/
theorem noninterference (h : Follows R Inv m look input output) {s t s' t' : τ}
    {os os' : List ο} (hs : Inv s) (ht : Inv t) (hlook : look s = look t)
    (hrun : Run R s os s') (hrun' : Run R t os' t')
    (hin : os.filterMap input = os'.filterMap input) :
    (os.filter fun o => (input o).isSome).map output =
        (os'.filter fun o => (input o).isSome).map output ∧
      look s' = look t' := by
  obtain ⟨houts, hafter⟩ := h.run hs hrun
  obtain ⟨houts', hafter'⟩ := h.run ht hrun'
  rw [houts, houts', hafter, hafter', hlook, hin]
  exact ⟨rfl, rfl⟩

end Follows

end Machines
