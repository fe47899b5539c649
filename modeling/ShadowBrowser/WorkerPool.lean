/-
Workers that take tasks from queues, one queue for each key.

Everything is queued at the start.  A worker belongs to a key from its first task on: it is given one
when it is hired, and when it has done a task it takes the next one of its key, or has none.  A worker
that fails is not replaced.  At most `limit` workers are hired for a key, or one.

* `Pool.start` — what is queued, with nothing asked for;
* `Step` — hiring, the next task, the last one, and a failure;
* `Pool.Kept` — **the invariant**: every task is pending, at a worker, done, missing or failed, each
  queue is taken in its order, and the workers that are neither busy nor failed have no queue left;
* `kept_of_steps` — it holds after any number of steps.
-/
import Mathlib.Data.Int.Notation
import Mathlib.Data.List.Perm.Basic
import Mathlib.Data.List.Nodup
import Mathlib.Logic.Function.Basic
import Mathlib.Logic.Relation

namespace WorkerPool

open scoped List

variable {κ α : Type} [DecidableEq κ]

/-- What is queued at a key. -/
def atKey (k : κ) (l : List (κ × α)) : List α := (l.filter fun t => t.1 = k).map Prod.snd

/-- The pool: `work` is the task that each of the `workers` is at, and `running` how many were hired for
a key. -/
structure Pool (κ α : Type) where
  queued : List (κ × α)
  pending : κ → List α
  running : κ → ℕ
  workers : ℕ
  work : ℕ → Option (κ × α)
  asked : List (κ × α)
  completed : List (κ × α)
  missing : List (κ × α)
  failed : List (κ × α)

namespace Pool

/-- The tasks that workers are at. -/
def inFlight (p : Pool κ α) : List (κ × α) := (List.range p.workers).filterMap p.work

/-- How many workers of a key are at a task. -/
def busy (p : Pool κ α) (k : κ) : ℕ := (atKey k p.inFlight).length

/-- Nothing has been asked for. -/
structure Start (p : Pool κ α) : Prop where
  pending : ∀ k, p.pending k = atKey k p.queued
  distinct : p.queued.Nodup
  running : ∀ k, p.running k = 0
  work : ∀ i, p.work i = none
  asked : p.asked = []
  completed : p.completed = []
  missing : p.missing = []
  failed : p.failed = []

/-- A worker is given a task of a key. -/
def give (p : Pool κ α) (i : ℕ) (k : κ) (a : α) (rest : List α) : Pool κ α :=
  { p with
    pending := Function.update p.pending k rest
    work := Function.update p.work i (some (k, a))
    asked := p.asked ++ [(k, a)] }

/-- A task is done: it was there, or it was missing. -/
def finish (p : Pool κ α) (found : Bool) (t : κ × α) : Pool κ α :=
  if found then { p with completed := p.completed ++ [t] }
  else { p with missing := p.missing ++ [t] }

end Pool

open Pool

/-- What can happen to a pool whose keys may have `limit` workers. -/
inductive Step (limit : ℤ) : Pool κ α → Pool κ α → Prop
  | hire {p : Pool κ α} {k : κ} {a : α} {rest : List α} (pending : p.pending k = a :: rest)
      (room : p.running k < limit) :
      Step limit p { (p.give p.workers k a rest) with
        workers := p.workers + 1, running := Function.update p.running k (p.running k + 1) }
  | keep {p : Pool κ α} {i : ℕ} {k : κ} {a : α} {rest : List α} (pending : p.pending k = a :: rest)
      (first : p.running k = 0) (worker : i < p.workers) (idle : p.work i = none) :
      Step limit p { (p.give i k a rest) with running := Function.update p.running k 1 }
  | next {p : Pool κ α} {i : ℕ} {k : κ} {a a' : α} {rest : List α} {found : Bool}
      (worker : i < p.workers) (work : p.work i = some (k, a)) (pending : p.pending k = a' :: rest) :
      Step limit p ((p.finish found (k, a)).give i k a' rest)
  | last {p : Pool κ α} {i : ℕ} {k : κ} {a : α} {found : Bool}
      (worker : i < p.workers) (work : p.work i = some (k, a)) (pending : p.pending k = []) :
      Step limit p { p.finish found (k, a) with work := Function.update p.work i none }
  | fail {p : Pool κ α} {i : ℕ} {t : κ × α} (worker : i < p.workers) (work : p.work i = some t) :
      Step limit p { p with
        work := Function.update p.work i none
        failed := p.failed ++ [t] }

/-- The workers of a key: those that are neither busy nor have failed have no queue left. -/
structure Pool.Staffed (limit : ℤ) (p : Pool κ α) (k : κ) : Prop where
  room : p.busy k + (atKey k p.failed).length ≤ p.running k
  noneIdle : p.pending k ≠ [] → p.busy k + (atKey k p.failed).length = p.running k
  bound : (p.running k : ℤ) ≤ max limit 1

/-- **What is kept.** -/
structure Pool.Kept (limit : ℤ) (p : Pool κ α) : Prop where
  distinct : p.queued.Nodup
  queues : ∀ k, atKey k p.asked ++ p.pending k = atKey k p.queued
  accounted : p.asked.Perm (p.completed ++ p.missing ++ p.failed ++ p.inFlight)
  staffed : ∀ k, p.Staffed limit k

/-! ### What is at a key -/

variable {limit : ℤ} {p p' : Pool κ α} {k : κ} {l l' : List (κ × α)} {t : κ × α} {i n : ℕ}
  {w : ℕ → Option (κ × α)} {o : Option (κ × α)}

@[simp] theorem atKey_nil : atKey k ([] : List (κ × α)) = [] := rfl

theorem atKey_append : atKey k (l ++ l') = atKey k l ++ atKey k l' := by
  rw [atKey, List.filter_append, List.map_append]
  rfl

theorem atKey_self {a : α} : atKey k [(k, a)] = [a] := by
  rw [atKey, List.filter_cons_of_pos (by simp)]
  rfl

theorem atKey_ne {a : α} {k' : κ} (h : k' ≠ k) : atKey k [(k', a)] = [] := by
  rw [atKey, List.filter_cons_of_neg (by simpa using h)]
  rfl

theorem length_atKey_perm (h : l.Perm l') : (atKey k l).length = (atKey k l').length :=
  ((h.filter _).map _).length_eq

theorem length_atKey_append :
    (atKey k (l ++ l')).length = (atKey k l).length + (atKey k l').length := by
  rw [atKey_append, List.length_append]

theorem length_atKey_one {a : α} {k' : κ} : (atKey k [(k', a)]).length = if k' = k then 1 else 0 := by
  by_cases hk : k' = k
  · rw [hk, atKey_self, if_pos rfl]
    rfl
  · rw [atKey_ne hk, if_neg hk]
    rfl

theorem mem_atKey {a : α} : a ∈ atKey k l ↔ (k, a) ∈ l := by
  rw [atKey, List.mem_map]
  constructor
  · rintro ⟨⟨k', a'⟩, hmem, rfl⟩
    obtain ⟨hmem, hk⟩ := List.mem_filter.mp hmem
    have hk : k' = k := by simpa using hk
    rwa [← hk]
  · intro h
    exact ⟨(k, a), List.mem_filter.mpr ⟨h, by simp⟩, rfl⟩

/-! ### Busy workers -/

omit [DecidableEq κ] in
/-- **One worker is given another task.** -/
theorem filterMap_update (hi : i < n) :
    ((List.range n).filterMap (Function.update w i o) ++ (w i).toList).Perm
      ((List.range n).filterMap w ++ o.toList) := by
  induction n with
  | zero => cases hi
  | succ n ih =>
    rw [List.range_succ, List.filterMap_append, List.filterMap_append]
    have hone : ∀ (f : ℕ → Option (κ × α)) j, [j].filterMap f = (f j).toList := by
      intro f j
      rw [List.filterMap_cons, List.filterMap_nil]
      cases f j <;> rfl
    rw [hone, hone]
    by_cases hn : i = n
    · have hrest : (List.range n).filterMap (Function.update w i o) = (List.range n).filterMap w := by
        refine List.filterMap_congr fun j hj => ?_
        exact Function.update_of_ne (by have := List.mem_range.mp hj; omega) _ _
      rw [hrest, hn, Function.update_self, List.append_assoc, List.append_assoc]
      exact List.perm_append_comm.append_left _
    · rw [Function.update_of_ne (Ne.symm hn)]
      have h := ih (by omega)
      calc _ = (List.range n).filterMap (Function.update w i o) ++ ((w n).toList ++ (w i).toList) :=
            List.append_assoc ..
        _ ~ (List.range n).filterMap (Function.update w i o) ++ ((w i).toList ++ (w n).toList) :=
            List.perm_append_comm.append_left _
        _ = _ := (List.append_assoc ..).symm
        _ ~ (List.range n).filterMap w ++ o.toList ++ (w n).toList := h.append_right _
        _ = (List.range n).filterMap w ++ (o.toList ++ (w n).toList) := List.append_assoc ..
        _ ~ (List.range n).filterMap w ++ ((w n).toList ++ o.toList) :=
            List.perm_append_comm.append_left _
        _ = _ := (List.append_assoc ..).symm

/-! ### Steps -/

namespace Pool

omit [DecidableEq κ] in
/-- The workers of two pools are the same but for one. -/
theorem inFlight_update (p' : Pool κ α) (hi : i < p.workers) (hworkers : p'.workers = p.workers)
    (hwork : p'.work = Function.update p.work i o) :
    (p'.inFlight ++ (p.work i).toList).Perm (p.inFlight ++ o.toList) := by
  rw [inFlight, inFlight, hworkers, hwork]
  exact filterMap_update hi

omit [DecidableEq κ] in
/-- One more worker. -/
theorem inFlight_succ (hworkers : p'.workers = p.workers + 1)
    (hwork : p'.work = Function.update p.work p.workers (some t)) :
    p'.inFlight = p.inFlight ++ [t] := by
  rw [inFlight, inFlight, hworkers, hwork, List.range_succ, List.filterMap_append]
  congr 1
  · refine List.filterMap_congr fun j hj => ?_
    exact Function.update_of_ne (by have := List.mem_range.mp hj; omega) _ _
  · rw [List.filterMap_cons, Function.update_self]
    rfl

section

omit [DecidableEq κ]

@[simp] theorem finish_pending (p : Pool κ α) (found : Bool) (t : κ × α) :
    (p.finish found t).pending = p.pending := by cases found <;> rfl

@[simp] theorem finish_queued (p : Pool κ α) (found : Bool) (t : κ × α) :
    (p.finish found t).queued = p.queued := by cases found <;> rfl

@[simp] theorem finish_running (p : Pool κ α) (found : Bool) (t : κ × α) :
    (p.finish found t).running = p.running := by cases found <;> rfl

@[simp] theorem finish_workers (p : Pool κ α) (found : Bool) (t : κ × α) :
    (p.finish found t).workers = p.workers := by cases found <;> rfl

@[simp] theorem finish_work (p : Pool κ α) (found : Bool) (t : κ × α) :
    (p.finish found t).work = p.work := by cases found <;> rfl

@[simp] theorem finish_asked (p : Pool κ α) (found : Bool) (t : κ × α) :
    (p.finish found t).asked = p.asked := by cases found <;> rfl

@[simp] theorem finish_failed (p : Pool κ α) (found : Bool) (t : κ × α) :
    (p.finish found t).failed = p.failed := by cases found <;> rfl

end

omit [DecidableEq κ] in
/-- What is done is in one of two lists. -/
theorem finish_perm (p : Pool κ α) (found : Bool) (t : κ × α) :
    ((p.finish found t).completed ++ (p.finish found t).missing).Perm
      (p.completed ++ p.missing ++ [t]) := by
  cases found with
  | true =>
    show (p.completed ++ [t] ++ p.missing).Perm _
    rw [List.append_assoc, List.append_assoc]
    exact List.perm_append_comm.append_left _
  | false => exact .of_eq (List.append_assoc ..).symm

omit [DecidableEq κ] in
/-- One more task has ended. -/
theorem done_perm (p : Pool κ α) (found : Bool) (t : κ × α) :
    ((p.finish found t).completed ++ (p.finish found t).missing ++ (p.finish found t).failed).Perm
      (p.completed ++ p.missing ++ p.failed ++ [t]) := by
  rw [finish_failed]
  calc _ ~ p.completed ++ p.missing ++ [t] ++ p.failed := (finish_perm p found t).append_right _
    _ = p.completed ++ p.missing ++ ([t] ++ p.failed) := List.append_assoc ..
    _ ~ p.completed ++ p.missing ++ (p.failed ++ [t]) := List.perm_append_comm.append_left _
    _ = _ := (List.append_assoc ..).symm

/-- **A queue is taken in its order.** -/
theorem queues_give {a : α} {rest : List α} (h : ∀ k, atKey k p.asked ++ p.pending k = atKey k p.queued)
    (hpending : p.pending k = a :: rest) (k' : κ) :
    atKey k' (p.asked ++ [(k, a)]) ++ Function.update p.pending k rest k' = atKey k' p.queued := by
  rw [atKey_append, ← h k']
  by_cases hk : k = k'
  · rw [← hk, Function.update_self, atKey_self, hpending, List.append_assoc]
    rfl
  · rw [Function.update_of_ne (Ne.symm hk), atKey_ne hk, List.append_nil]

/-- A task is put from one list into another: nothing is lost. -/
theorem accounted_of {asked asked' done done' failed failed' inFlight inFlight' new old : List (κ × α)}
    (h : asked.Perm (done ++ failed ++ inFlight)) (hasked : asked' = asked ++ new)
    (hdone : (done' ++ failed').Perm (done ++ failed ++ old))
    (hflight : (inFlight' ++ old).Perm (inFlight ++ new)) :
    asked'.Perm (done' ++ failed' ++ inFlight') := by
  classical
  rw [List.perm_iff_count]
  intro t
  have h₁ := h.count_eq t
  have h₂ := hdone.count_eq t
  have h₃ := hflight.count_eq t
  rw [hasked]
  simp only [List.count_append] at h₁ h₂ h₃ ⊢
  omega

/-- How many workers are busy after a step. -/
theorem busy_eq {old new : List (κ × α)} (h : (p'.inFlight ++ old).Perm (p.inFlight ++ new)) (k : κ) :
    p'.busy k + (atKey k old).length = p.busy k + (atKey k new).length := by
  rw [busy, busy, ← length_atKey_append, ← length_atKey_append]
  exact length_atKey_perm h

/-- As many are hired as there are more at work or failed. -/
theorem Staffed.of_sum (h : p.Staffed limit k)
    (hsum : p'.busy k + (atKey k p'.failed).length + p.running k =
      p.busy k + (atKey k p.failed).length + p'.running k)
    (hpending : p'.pending k ≠ [] → p.pending k ≠ []) (hbound : (p'.running k : ℤ) ≤ max limit 1) :
    p'.Staffed limit k := by
  have hroom := h.room
  refine ⟨by omega, fun hne => ?_, hbound⟩
  have := h.noneIdle (hpending hne)
  omega

theorem Start.kept (h : p.Start) : p.Kept limit := by
  have hflight : p.inFlight = [] := by
    rw [inFlight, List.filterMap_eq_nil_iff]
    exact fun i _ => h.work i
  refine ⟨h.distinct, fun k => ?_, ?_, fun k => ?_⟩
  · rw [h.asked, h.pending]
    rfl
  · rw [h.asked, h.completed, h.missing, h.failed, hflight]
    exact .refl _
  · have hbusy : p.busy k + (atKey k p.failed).length = p.running k := by
      rw [busy, hflight, h.failed, h.running]
      rfl
    refine ⟨Nat.le_of_eq hbusy, fun _ => hbusy, ?_⟩
    rw [h.running]
    exact Int.le_trans (by decide) (Int.le_max_right limit 1)

/-- A queue that is left after one of its tasks was taken was there before. -/
theorem ne_nil_of_update {a : α} {rest : List α} {k' : κ} (hpending : p.pending k = a :: rest)
    (h : Function.update p.pending k rest k' ≠ []) : p.pending k' ≠ [] := by
  by_cases hk : k' = k
  · rw [hk, hpending]
    exact List.cons_ne_nil _ _
  · rwa [Function.update_of_ne hk] at h

/-- A worker is hired, or kept on as the first of its key. -/
theorem Kept.hire {a : α} {rest : List α} (hp : p.Kept limit) (hpending : p.pending k = a :: rest)
    (hroom : (p.running k + 1 : ℤ) ≤ max limit 1) (hqueued : p'.queued = p.queued)
    (hpending' : p'.pending = Function.update p.pending k rest)
    (hrunning : p'.running = Function.update p.running k (p.running k + 1))
    (hflight : (p'.inFlight ++ []).Perm (p.inFlight ++ [(k, a)])) (hasked : p'.asked = p.asked ++ [(k, a)])
    (hdone : p'.completed ++ p'.missing = p.completed ++ p.missing) (hfailed : p'.failed = p.failed) :
    p'.Kept limit := by
  refine ⟨hqueued ▸ hp.distinct, fun k' => ?_, ?_, fun k' => ?_⟩
  · rw [hasked, hpending', hqueued]
    exact queues_give hp.queues hpending k'
  · refine accounted_of hp.accounted hasked (.of_eq ?_) hflight
    rw [hdone, hfailed, List.append_nil]
  · have hbusy := busy_eq hflight k'
    rw [length_atKey_one, atKey_nil, List.length_nil, Nat.add_zero] at hbusy
    refine (hp.staffed k').of_sum ?_ ?_ ?_
    · rw [hbusy, hfailed, hrunning]
      by_cases hk : k = k'
      · rw [hk, Function.update_self, if_pos rfl]
        omega
      · rw [Function.update_of_ne (Ne.symm hk), if_neg hk]
        omega
    · rw [hpending']
      exact ne_nil_of_update hpending
    · rw [hrunning]
      by_cases hk : k' = k
      · rw [hk, Function.update_self]
        exact_mod_cast hroom
      · rw [Function.update_of_ne hk]
        exact (hp.staffed k').bound

/-- A worker is at another task, or at none. -/
theorem Kept.turn (hp : p.Kept limit) (hi : i < p.workers) (hwork : p.work i = some t)
    (hworkers : p'.workers = p.workers) (hwork' : p'.work = Function.update p.work i o)
    (hqueued : p'.queued = p.queued)
    (hqueues : ∀ k, atKey k p'.asked ++ p'.pending k = atKey k p.queued)
    (hasked : p'.asked = p.asked ++ o.toList)
    (hended : (p'.completed ++ p'.missing ++ p'.failed).Perm
      (p.completed ++ p.missing ++ p.failed ++ [t]))
    (hstaffed : ∀ k, p'.busy k + (atKey k [t]).length = p.busy k + (atKey k o.toList).length →
      p'.Staffed limit k) : p'.Kept limit := by
  have hflight := inFlight_update p' hi hworkers hwork'
  rw [hwork] at hflight
  refine ⟨hqueued ▸ hp.distinct, fun k => ?_, accounted_of hp.accounted hasked hended hflight,
    fun k => hstaffed k (busy_eq hflight k)⟩
  rw [hqueues, hqueued]

end Pool

/-- **Every step keeps the invariant.** -/
theorem Step.kept (h : Step limit p p') (hp : p.Kept limit) : p'.Kept limit := by
  cases h with
  -- a new worker is in flight with what it was hired for
  | @hire k a rest hpending hroom =>
    refine hp.hire hpending (by omega) rfl rfl rfl (.of_eq ?_) rfl rfl rfl
    rw [List.append_nil]
    exact inFlight_succ rfl rfl
  | @keep i k a rest hpending hfirst hi hidle =>
    refine hp.hire hpending (by omega) rfl rfl (by rw [hfirst]) ?_ rfl rfl rfl
    have := inFlight_update (p := p) { (p.give i k a rest) with
      running := Function.update p.running k 1 } hi rfl rfl
    rwa [hidle] at this
  -- the worker goes on with the next one of its queue
  | @next i k a a' rest found hi hwork hpending =>
    refine hp.turn (o := some (k, a')) hi hwork (finish_workers p found (k, a))
      (congrArg (Function.update · i _) (finish_work p found (k, a)))
      (finish_queued p found (k, a)) (fun k' => ?_)
      (congrArg (· ++ [(k, a')]) (finish_asked p found (k, a))) (done_perm p found (k, a)) fun k' hbusy => ?_
    · show atKey k' ((p.finish found (k, a)).asked ++ [(k, a')]) ++
        Function.update (p.finish found (k, a)).pending k rest k' = _
      rw [finish_asked, finish_pending]
      exact queues_give hp.queues hpending k'
    · refine (hp.staffed k').of_sum ?_ (fun hne => ?_) ?_
      · show _ + (atKey k' (p.finish found (k, a)).failed).length + p.running k' =
          _ + _ + (p.finish found (k, a)).running k'
        rw [finish_failed, finish_running]
        rw [show (some (k, a')).toList = [(k, a')] from rfl, length_atKey_one, length_atKey_one] at hbusy
        omega
      · refine ne_nil_of_update hpending ?_
        rwa [← finish_pending p found (k, a)]
      · show ((p.finish found (k, a)).running k' : ℤ) ≤ _
        rw [finish_running]
        exact (hp.staffed k').bound
  -- nothing is pending there, so the worker may rest
  | @last i k a found hi hwork hpending =>
    refine hp.turn (o := none) hi hwork (finish_workers p found (k, a)) rfl
      (finish_queued p found (k, a)) (fun k' => ?_)
      ((finish_asked p found (k, a)).trans (List.append_nil _).symm) (done_perm p found (k, a))
      fun k' hbusy => ?_
    · show atKey k' (p.finish found (k, a)).asked ++ (p.finish found (k, a)).pending k' = _
      rw [finish_asked, finish_pending]
      exact hp.queues k'
    · have hroom := (hp.staffed k').room
      rw [show (none : Option (κ × α)).toList = [] from rfl, atKey_nil, List.length_nil,
        length_atKey_one] at hbusy
      refine ⟨?_, fun hne => ?_, ?_⟩
      · show _ + (atKey k' (p.finish found (k, a)).failed).length ≤ (p.finish found (k, a)).running k'
        rw [finish_failed, finish_running]
        omega
      · have hne : p.pending k' ≠ [] := by rwa [← finish_pending p found (k, a)]
        show _ + (atKey k' (p.finish found (k, a)).failed).length = (p.finish found (k, a)).running k'
        rw [finish_failed, finish_running]
        have hk : k ≠ k' := by
          rintro rfl
          exact hne hpending
        rw [if_neg hk] at hbusy
        have := (hp.staffed k').noneIdle hne
        omega
      · show ((p.finish found (k, a)).running k' : ℤ) ≤ _
        rw [finish_running]
        exact (hp.staffed k').bound
  -- a worker that fails still counts among those that were started
  | @fail i t hi hwork =>
    refine hp.turn (o := none) hi hwork rfl rfl rfl hp.queues (List.append_nil _).symm
      (.of_eq (List.append_assoc ..).symm) fun k' hbusy => ?_
    rw [show (none : Option (κ × α)).toList = [] from rfl, atKey_nil, List.length_nil] at hbusy
    refine (hp.staffed k').of_sum ?_ id (hp.staffed k').bound
    show _ + (atKey k' (p.failed ++ [t])).length + p.running k' = _ + _ + p.running k'
    rw [length_atKey_append]
    omega

/-- What was queued stays what it was. -/
theorem Step.queued (h : Step limit p p') : p'.queued = p.queued := by
  cases h with
  | hire => rfl
  | keep => rfl
  | next => exact finish_queued ..
  | last => exact finish_queued ..
  | fail => rfl

/-! ### What follows -/

/-- Tasks are distinct if those of each key are. -/
theorem nodup_of_atKey : ∀ {l : List (κ × α)}, (∀ k, (atKey k l).Nodup) → l.Nodup := by
  intro l
  induction l with
  | nil => exact fun _ => List.nodup_nil
  | cons t l ih =>
    intro h
    have hcons : ∀ k, atKey k (t :: l) = atKey k [t] ++ atKey k l := by
      intro k
      rw [← atKey_append]
      rfl
    refine List.nodup_cons.mpr ⟨fun hmem => ?_, ih fun k => ?_⟩
    · have hself := h t.1
      rw [hcons, show t = (t.1, t.2) from rfl, atKey_self] at hself
      exact (List.nodup_cons.mp hself).1 (mem_atKey.mpr hmem)
    · have hk := h k
      rw [hcons] at hk
      exact hk.of_append_right

theorem nodup_atKey (h : l.Nodup) : (atKey k l).Nodup := by
  refine List.Nodup.map_on ?_ (h.filter _)
  rintro ⟨k₁, a₁⟩ h₁ ⟨k₂, a₂⟩ h₂ rfl
  have h₁ : k₁ = k := by simpa using (List.mem_filter.mp h₁).2
  have h₂ : k₂ = k := by simpa using (List.mem_filter.mp h₂).2
  rw [h₁, h₂]

/-- **No task is asked for twice.** -/
theorem Pool.Kept.nodup_asked (hp : p.Kept limit) : p.asked.Nodup := by
  refine nodup_of_atKey fun k => ?_
  have h := nodup_atKey (k := k) hp.distinct
  rw [← hp.queues k] at h
  exact h.of_append_left

/-- **It holds after any number of steps.** -/
theorem kept_of_steps (h : Relation.ReflTransGen (Step limit) p p') (hp : p.Kept limit) :
    p'.Kept limit := by
  induction h with
  | refl => exact hp
  | tail _ hstep ih => exact hstep.kept ih

end WorkerPool
