/-
The request queues of an HTTP connection.

A request is submitted to a connection, becomes active when it is written to the
transport, and leaves when its response is complete.  There is no pipelining: a
request is written only when none is active.

* `ReqQueues.write` — what `_maybe_http_write_to_transport` does to the queues;
* `ReqQueues.done` — what `_done_with_resp` does to them.
-/
import Mathlib.Data.List.Basic
import Mathlib.Data.List.Count
import ShadowBrowser.Checked

namespace ShadowBrowser.Http

open Checked

/-- The assertions on the queues. -/
inductive QueueCheck
  | oneActive
  | hasActive
  | noneActive
  deriving DecidableEq, Repr

/-- `submitted_req_queue_` and `active_req_queue_`. -/
structure ReqQueues (ρ : Type) where
  submitted : List ρ := []
  active : List ρ := []
  deriving DecidableEq, Repr

namespace ReqQueues

variable {ρ : Type}

/-- `get_queue_size` -/
def size (q : ReqQueues ρ) : ℕ := q.submitted.length + q.active.length

/-- The requests in the queues. -/
def held (q : ReqQueues ρ) : List ρ := q.active ++ q.submitted

/-- `submitted_req_queue_.push` -/
def push (r : ρ) (q : ReqQueues ρ) : ReqQueues ρ :=
  { q with submitted := q.submitted ++ [r] }

/-- `_maybe_http_write_to_transport`: the queues, and the request that is written if there is
one. -/
def write (q : ReqQueues ρ) : Except QueueCheck (ReqQueues ρ × Option ρ) :=
  match q.submitted with
  | [] => .ok (q, none)
  | r :: rest => do
    check (q.active.length ≤ 1) .oneActive
    return if 0 < q.active.length then (q, none)
      else ({ submitted := rest, active := q.active ++ [r] }, some r)

/-- The active request is taken off its queue in `_done_with_resp`. -/
def done (q : ReqQueues ρ) : Except QueueCheck (ReqQueues ρ × ρ) :=
  match q.active with
  | [] => .error .hasActive
  | r :: rest => do
    check (rest = []) .noneActive
    return ({ q with active := rest }, r)

@[simp] theorem size_push (r : ρ) (q : ReqQueues ρ) : (q.push r).size = q.size + 1 := by
  simp only [size, push, List.length_append, List.length_singleton]
  omega

@[simp] theorem active_push (r : ρ) (q : ReqQueues ρ) : (q.push r).active = q.active := rfl

@[simp] theorem held_push (r : ρ) (q : ReqQueues ρ) : (q.push r).held = q.held ++ [r] := by
  simp [held, push]

/-- A write keeps the requests, in their order, and leaves one active at most. -/
theorem write_spec {q : ReqQueues ρ} (h : q.active.length ≤ 1) :
    ∃ q' o, q.write = .ok (q', o) ∧ q'.held = q.held ∧ q'.active.length ≤ 1 := by
  rw [write]
  split
  · exact ⟨q, none, rfl, rfl, h⟩
  · next r rest hsub =>
    rw [check_pos h]
    by_cases hpos : 0 < q.active.length
    · exact ⟨q, none, by simp [hpos], rfl, h⟩
    · have hnil : q.active = [] := List.eq_nil_of_length_eq_zero (by omega)
      refine ⟨{ submitted := rest, active := q.active ++ [r] }, some r, by simp [hpos], ?_, ?_⟩
      · simp [held, hnil, hsub]
      · simp [hnil]

/-- The size is the number of requests held. -/
theorem length_held (q : ReqQueues ρ) : q.held.length = q.size := by
  simp only [held, size, List.length_append]
  omega

/-- What is taken off is the first of the requests held. -/
theorem done_spec {q : ReqQueues ρ} (h : q.active.length ≤ 1) (hne : q.active ≠ []) :
    ∃ q' r, q.done = .ok (q', r) ∧ q.held = r :: q'.held ∧ q'.active = [] := by
  obtain ⟨r, rest, hact⟩ := List.exists_cons_of_ne_nil hne
  have hrest : rest = [] := by
    rw [hact, List.length_cons] at h
    exact List.eq_nil_of_length_eq_zero (by omega)
  subst hrest
  refine ⟨{ q with active := [] }, r, ?_, ?_, rfl⟩
  · simp [done, hact, check_pos]
  · simp [held, hact]

end ReqQueues

end ShadowBrowser.Http
