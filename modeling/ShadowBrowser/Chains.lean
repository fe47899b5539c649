/-
Chains of requests.

Something is fetched by a chain of requests, each of which is answered in parts.  What can be seen of
that is a list of events: requests are issued, parts of answers come, answers end, and those who wait
are told, of the parts of the last answer as they come, and of the end.

* `Step` — a machine that reads the events one by one;
* `Holds` — what the machine's state says about the events it has read;
* `Kept` — the rules of such a chain, about the events alone;
* `kept_of_run` — what the machine reads is kept to the rules;
* `Partly`, `Kept.thins` — the rules for those who wait only some of the time, and miss what they are
  not there for.

Parts and ends of answers that nothing waits for can come at any time.
-/
import Mathlib.Algebra.BigOperators.Group.List.Basic
import Mathlib.Algebra.Ring.Nat
import ShadowBrowser.Runs

namespace Chains

open Runs

variable {α : Type*}

/-! ### Events -/

/-- What can be seen.  `a` says what is requested, and `id` which request it is. -/
inductive Event (α : Type*)
  | issued (id : ℕ) (a : α)
  | part (id len : ℕ)
  | ended (id : ℕ) (ok : Bool)
  | told (len : ℕ)
  | finished (ok : Bool)
  deriving DecidableEq, Repr

/-- What is requested. -/
def Event.request : Event α → Option α
  | .issued _ a => some a
  | _ => none

/-- How much is told. -/
def Event.telling : Event α → Option ℕ
  | .told len => some len
  | _ => none

/-- What has been requested, in order. -/
def requests (l : List (Event α)) : List α := l.filterMap Event.request

/-- What those who wait have been told, in order. -/
def tellings (l : List (Event α)) : List ℕ := l.filterMap Event.telling

/-- What a request is for. -/
def asked (id : ℕ) (l : List (Event α)) : List α :=
  l.filterMap fun
    | .issued id' a => if id' = id then some a else none
    | _ => none

/-- How much of an answer there is after an event. -/
def Event.receive (id got : ℕ) : Event α → ℕ
  | .issued id' _ => if id' = id then 0 else got
  | .part id' len => if id' = id then got + len else got
  | _ => got

/-- How much of an answer has come since it was last requested. -/
def received (id : ℕ) (l : List (Event α)) : ℕ := l.foldl (Event.receive id) 0

/-- Which request is waited for after an event. -/
def Event.await (cur : Option ℕ) : Event α → Option ℕ
  | .issued id _ => some id
  | .ended id _ => if cur = some id then none else cur
  | _ => cur

/-- The request that is waited for. -/
def awaited (l : List (Event α)) : Option ℕ := l.foldl Event.await none

section

variable (l : List (Event α)) (e : Event α)

@[simp] theorem requests_snoc : requests (l ++ [e]) = requests l ++ e.request.toList := by
  rw [requests, List.filterMap_append]
  rfl

@[simp] theorem tellings_snoc : tellings (l ++ [e]) = tellings l ++ e.telling.toList := by
  rw [tellings, List.filterMap_append]
  rfl

@[simp] theorem received_snoc (id : ℕ) :
    received id (l ++ [e]) = e.receive id (received id l) := List.foldl_concat ..

@[simp] theorem awaited_snoc : awaited (l ++ [e]) = e.await (awaited l) := List.foldl_concat ..

variable {e}

theorem requests_other (h : e.request = none) : requests (l ++ [e]) = requests l := by
  rw [requests_snoc, h, Option.toList_none, List.append_nil]

theorem tellings_other (h : e.telling = none) : tellings (l ++ [e]) = tellings l := by
  rw [tellings_snoc, h, Option.toList_none, List.append_nil]

end

theorem mem_asked {id : ℕ} {a : α} {l : List (Event α)} (h : .issued id a ∈ l) :
    a ∈ asked id l :=
  List.mem_filterMap.mpr ⟨_, h, if_pos rfl⟩

/-! ### The machine -/

/-- Nothing has been requested, request number `k` of the chain is waited for, a part of the last answer
is to be told, the answer to request `k` has ended, or nothing is left to do. -/
inductive State
  | idle
  | waiting (id k got : ℕ)
  | telling (id k got len : ℕ)
  | answered (k : ℕ) (ok : Bool)
  | closed
  deriving DecidableEq, Repr

/-- The answer to a request is none of what is waited for. -/
def State.Ignores (id : ℕ) : State → Prop
  | .idle => True
  | .waiting id' _ _ => id' ≠ id
  | .telling .. => False
  | .answered .. => False
  | .closed => True

/-- The request that is waited for. -/
def State.awaited : State → Option ℕ
  | .waiting id _ _ => some id
  | .telling id _ _ _ => some id
  | _ => none

/-- Nothing has to be done at once. -/
def State.Steady : State → Prop
  | .telling .. => False
  | .answered .. => False
  | _ => True

/-- What the machine reads, where `size` is that of the answer. -/
inductive Step (size : α → ℕ) (chain : List α) : State → Event α → State → Prop
  | first {id : ℕ} {a : α} : chain[0]? = some a →
      Step size chain .idle (.issued id a) (.waiting id 0 0)
  | part {id k got len : ℕ} : k + 1 ≠ chain.length →
      Step size chain (.waiting id k got) (.part id len) (.waiting id k (got + len))
  | lastPart {id k got len : ℕ} : k + 1 = chain.length →
      Step size chain (.waiting id k got) (.part id len) (.telling id k (got + len) len)
  | told {id k got len : ℕ} :
      Step size chain (.telling id k got len) (.told len) (.waiting id k got)
  | ended {id k got : ℕ} {ok : Bool} : (ok = true → ∃ a, chain[k]? = some a ∧ got = size a) →
      Step size chain (.waiting id k got) (.ended id ok) (.answered k ok)
  | next {id k : ℕ} {a : α} : chain[k + 1]? = some a →
      Step size chain (.answered k true) (.issued id a) (.waiting id (k + 1) 0)
  | finished {k : ℕ} {ok : Bool} : (ok = true → k + 1 = chain.length) →
      Step size chain (.answered k ok) (.finished ok) .closed
  | otherPart {st : State} {id len : ℕ} : st.Ignores id → Step size chain st (.part id len) st
  | otherEnd {st : State} {id : ℕ} {ok : Bool} : st.Ignores id →
      Step size chain st (.ended id ok) st

variable {size : α → ℕ} {chain : List α} {l l₁ l₂ : List (Event α)} {st st' : State} {e : Event α}

/-! ### What the state says -/

/-- The chain has been followed up to request `k`. -/
structure Followed (chain : List α) (l : List (Event α)) (k : ℕ) : Prop where
  lt : k < chain.length
  requests : requests l = chain.take (k + 1)
  silent : k + 1 ≠ chain.length → tellings l = []

/-- What the machine's state says about what it has read. -/
def Holds (size : α → ℕ) (chain : List α) (l : List (Event α)) : State → Prop
  | .idle => requests l = [] ∧ tellings l = [] ∧ awaited l = none
  | .waiting id k got => Followed chain l k ∧ awaited l = some id ∧ received id l = got ∧
      (∃ a, chain[k]? = some a ∧ .issued id a ∈ l) ∧
      (k + 1 = chain.length → (tellings l).sum = got)
  | .telling id k got len => Followed chain l k ∧ awaited l = some id ∧ received id l = got ∧
      (∃ a, chain[k]? = some a ∧ .issued id a ∈ l) ∧
      k + 1 = chain.length ∧ (tellings l).sum + len = got ∧
      ∃ l₀, l = l₀ ++ [.part id len] ∧ awaited l₀ = some id
  | .answered k ok => Followed chain l k ∧ awaited l = none ∧
      (ok = true → k + 1 = chain.length → ∃ a, chain[k]? = some a ∧ (tellings l).sum = size a) ∧
      ∃ l₀ id, l = l₀ ++ [.ended id ok] ∧ awaited l₀ = some id
  | .closed => requests l <+: chain ∧ awaited l = none

theorem Followed.snoc {k : ℕ} (h : Followed chain l k) (hrequest : e.request = none)
    (htelling : k + 1 ≠ chain.length → e.telling = none) : Followed chain (l ++ [e]) k where
  lt := h.lt
  requests := (requests_other l hrequest).trans h.requests
  silent hk := (tellings_other l (htelling hk)).trans (h.silent hk)

/-- The next request is issued. -/
theorem Followed.next {id k : ℕ} {a : α} (h : Followed chain l k) (ha : chain[k + 1]? = some a) :
    Followed chain (l ++ [.issued id a]) (k + 1) where
  lt := (List.getElem?_eq_some_iff.mp ha).1
  requests := by
    rw [requests_snoc, h.requests, List.take_add_one (i := k + 1), ha]
    rfl
  silent _ := by
    have hlt := (List.getElem?_eq_some_iff.mp ha).1
    rw [tellings_snoc, h.silent (by omega)]
    rfl

/-- An event that is ignored says nothing about the chain. -/
theorem Holds.ignored {id : ℕ} (h : Holds size chain l st) (hst : st.Ignores id)
    (he : (∃ len, e = .part id len) ∨ ∃ ok, e = .ended id ok) : Holds size chain (l ++ [e]) st := by
  have hrequest : e.request = none := by
    obtain ⟨len, rfl⟩ | ⟨ok, rfl⟩ := he <;> rfl
  have htelling : e.telling = none := by
    obtain ⟨len, rfl⟩ | ⟨ok, rfl⟩ := he <;> rfl
  have hrequests := requests_other l hrequest
  have htellings := tellings_other l htelling
  have hnone : awaited l = none → awaited (l ++ [e]) = none := by
    intro hnone
    rw [awaited_snoc, hnone]
    obtain ⟨len, rfl⟩ | ⟨ok, rfl⟩ := he <;> rfl
  cases st with
  | idle => exact ⟨hrequests.trans h.1, htellings.trans h.2.1, hnone h.2.2⟩
  | waiting id' k got =>
    obtain ⟨hfollowed, hawaited, hreceived, ⟨a, ha, hissued⟩, hsum⟩ := h
    have hne : id' ≠ id := hst
    refine ⟨hfollowed.snoc hrequest fun _ => htelling, ?_, ?_,
      ⟨a, ha, List.mem_append_left _ hissued⟩, fun hk => htellings ▸ hsum hk⟩
    · rw [awaited_snoc, hawaited]
      obtain ⟨len, rfl⟩ | ⟨ok, rfl⟩ := he
      · rfl
      · exact if_neg fun heq => hne (Option.some.inj heq)
    · rw [received_snoc, hreceived]
      obtain ⟨len, rfl⟩ | ⟨ok, rfl⟩ := he
      · exact if_neg hne.symm
      · rfl
  | telling id' k got len => exact hst.elim
  | answered k ok => exact hst.elim
  | closed => exact ⟨hrequests ▸ h.1, hnone h.2⟩

/-- **Each step** keeps the state true. -/
theorem Holds.step (h : Holds size chain l st) (hstep : Step size chain st e st') :
    Holds size chain (l ++ [e]) st' := by
  -- what holds of the log is checked at the event that each step appends
  cases hstep with
  | first ha =>
    obtain ⟨hrequests, htellings, -⟩ := h
    obtain ⟨hlt, hget⟩ := List.getElem?_eq_some_iff.mp ha
    refine ⟨⟨hlt, ?_, fun _ => ?_⟩, ?_, ?_, ⟨_, ha, List.mem_append_right _ List.mem_cons_self⟩,
      fun _ => ?_⟩
    · rw [requests_snoc, hrequests, List.take_add_one, ha]
      rfl
    · rw [tellings_snoc, htellings]
      rfl
    · rw [awaited_snoc]
      rfl
    · rw [received_snoc]
      exact if_pos rfl
    · rw [tellings_snoc, htellings]
      rfl
  | @part id k got len hk =>
    obtain ⟨hfollowed, hawaited, hreceived, ⟨a, ha, hissued⟩, -⟩ := h
    refine ⟨hfollowed.snoc rfl fun _ => rfl, ?_, ?_, ⟨a, ha, List.mem_append_left _ hissued⟩,
      fun heq => absurd heq hk⟩
    · rw [awaited_snoc, hawaited]
      rfl
    · rw [received_snoc, hreceived]
      exact if_pos rfl
  | @lastPart id k got len hk =>
    obtain ⟨hfollowed, hawaited, hreceived, ⟨a, ha, hissued⟩, hsum⟩ := h
    refine ⟨hfollowed.snoc rfl fun _ => rfl, ?_, ?_, ⟨a, ha, List.mem_append_left _ hissued⟩, hk, ?_,
      l, rfl, hawaited⟩
    · rw [awaited_snoc, hawaited]
      rfl
    · rw [received_snoc, hreceived]
      exact if_pos rfl
    · rw [tellings_other l rfl, hsum hk]
  -- the sum of what was read is completed by the telling
  | @told id k got len =>
    obtain ⟨hfollowed, hawaited, hreceived, ⟨a, ha, hissued⟩, hk, hsum, -⟩ := h
    refine ⟨hfollowed.snoc rfl fun hne => absurd hk hne, ?_, ?_,
      ⟨a, ha, List.mem_append_left _ hissued⟩, fun _ => ?_⟩
    · rw [awaited_snoc, hawaited]
      rfl
    · rw [received_snoc, hreceived]
      rfl
    · rw [tellings_snoc, List.sum_append, ← hsum]
      rfl
  | @ended id k got ok hok =>
    obtain ⟨hfollowed, hawaited, -, -, hsum⟩ := h
    refine ⟨hfollowed.snoc rfl fun _ => rfl, ?_, fun htrue hk => ?_, l, id, rfl, hawaited⟩
    · rw [awaited_snoc, hawaited]
      exact if_pos rfl
    · -- a last part that is right has the length that its answer gave
      obtain ⟨a, ha, hgot⟩ := hok htrue
      refine ⟨a, ha, ?_⟩
      rw [tellings_other l rfl, hsum hk, hgot]
  | @next id k a ha =>
    obtain ⟨hfollowed, -⟩ := h
    have hnext : Followed chain (l ++ [.issued id a]) (k + 1) := hfollowed.next ha
    refine ⟨hnext, ?_, ?_, ⟨a, ha, List.mem_append_right _ List.mem_cons_self⟩, fun _ => ?_⟩
    · rw [awaited_snoc]
      rfl
    · rw [received_snoc]
      exact if_pos rfl
    · have hlt := hnext.lt
      rw [tellings_snoc, hfollowed.silent (by omega)]
      rfl
  | finished _ =>
    obtain ⟨hfollowed, hawaited, -⟩ := h
    refine ⟨?_, ?_⟩
    · rw [requests_other l rfl, hfollowed.requests]
      exact List.take_prefix ..
    · rw [awaited_snoc, hawaited]
      rfl
  | otherPart hst => exact h.ignored hst (.inl ⟨_, rfl⟩)
  | otherEnd hst => exact h.ignored hst (.inr ⟨_, rfl⟩)

/-- **Over every run** the state says what has been read. -/
theorem Holds.run (h : Run (Step size chain) st l st') :
    ∀ {l₀ : List (Event α)}, Holds size chain l₀ st → Holds size chain (l₀ ++ l) st' := by
  induction h with
  | nil =>
    intro l₀ hst
    rwa [List.append_nil]
  | cons hstep _ ih =>
    intro l₀ hst
    rw [List.append_cons]
    exact ih (hst.step hstep)

theorem holds_of_run (h : Run (Step size chain) .idle l st) : Holds size chain l st := by
  have hnil : Holds size chain [] .idle := ⟨rfl, rfl, rfl⟩
  exact hnil.run h

/-! ### The rules -/

/-- The rules of a chain.

* `inOrder` — what is requested is the chain from its beginning, each entry once;
* `next` — but for the first request, each is issued as soon as the one before has succeeded;
* `telling` — what is told is a part of the last answer that has just come, and `last` — each is told;
* `ended` — at the end of an answer the next request is issued, or there is none and the end is told, or
  the request has failed and that is told;
* `finished` — the end is told as soon as the answer has ended, and nothing is requested or told
  afterwards; at success the whole chain has been requested, and what has been told adds up. -/
structure Kept (size : α → ℕ) (chain : List α) (l : List (Event α)) : Prop where
  inOrder : requests l <+: chain
  next : ∀ {l₁ l₂ id a}, l = l₁ ++ .issued id a :: l₂ → requests l₁ = [] ∨
    ∃ l₀ id', l₁ = l₀ ++ [.ended id' true] ∧ awaited l₀ = some id'
  telling : ∀ {l₁ l₂ len}, l = l₁ ++ .told len :: l₂ → requests l₁ = chain ∧
    ∃ l₀ id, l₁ = l₀ ++ [.part id len] ∧ awaited l₀ = some id
  last : ∀ {l₁ l₂ id len}, l = l₁ ++ .part id len :: l₂ → awaited l₁ = some id →
    requests l₁ = chain → ∃ l₃, l₂ = .told len :: l₃
  ended : ∀ {l₁ l₂ id ok}, l = l₁ ++ .ended id ok :: l₂ → awaited l₁ = some id →
    (ok = true ∧ ∃ id' a l₃, l₂ = .issued id' a :: l₃) ∨
      (ok = true → requests l₁ = chain) ∧ ∃ l₃, l₂ = .finished ok :: l₃
  finished : ∀ {l₁ l₂ ok}, l = l₁ ++ .finished ok :: l₂ →
    (∃ l₀ id, l₁ = l₀ ++ [.ended id ok] ∧ awaited l₀ = some id) ∧
    (ok = true → requests l₁ = chain ∧ ∃ a, chain.getLast? = some a ∧ (tellings l₁).sum = size a) ∧
    ∀ e ∈ l₂, (∃ id len, e = .part id len) ∨ ∃ id ok, e = .ended id ok

/-- The chain has been followed to its end. -/
theorem Followed.requests_eq {k : ℕ} (h : Followed chain l k) (hk : k + 1 = chain.length) :
    Chains.requests l = chain := by
  rw [h.requests, hk, List.take_length]

theorem Followed.eq_of_requests {k : ℕ} (h : Followed chain l k)
    (heq : Chains.requests l = chain) : k + 1 = chain.length := by
  have hlt := h.lt
  have hlength := congrArg List.length (h.requests.symm.trans heq)
  rw [List.length_take] at hlength
  omega

/-- What the machine ignores is not waited for. -/
theorem Holds.awaited_ne {id : ℕ} (h : Holds size chain l st) (hst : st.Ignores id) :
    awaited l ≠ some id := by
  intro hawaited
  cases st with
  | idle => exact absurd (hawaited.symm.trans h.2.2) (Option.some_ne_none _)
  | waiting id' k got => exact hst (Option.some.inj (h.2.1.symm.trans hawaited))
  | telling id' k got len => exact hst.elim
  | answered k ok => exact hst.elim
  | closed => exact absurd (hawaited.symm.trans h.2) (Option.some_ne_none _)

/-- The answer that is waited for ends. -/
theorem Holds.answered {id : ℕ} {ok : Bool} (h : Holds size chain l st)
    (hawaited : awaited l = some id) (hstep : Step size chain st (.ended id ok) st') :
    ∃ k, st' = .answered k ok ∧ Followed chain l k := by
  cases hstep with
  | @ended _ k got _ hok => exact ⟨k, rfl, h.1⟩
  | otherEnd hst => exact absurd hawaited (h.awaited_ne hst)

/-- Once the machine is closed nothing is requested or told. -/
theorem silent_of_closed (h : Run (Step size chain) .closed l st) :
    ∀ e ∈ l, (∃ id len, e = .part id len) ∨ ∃ id ok, e = .ended id ok := by
  induction l with
  | nil =>
    intro e he
    cases he
  | cons x l ih =>
    cases h with
    | cons hstep hrest =>
      cases hstep with
      | otherPart _ => exact List.forall_mem_cons.mpr ⟨.inl ⟨_, _, rfl⟩, ih hrest⟩
      | otherEnd _ => exact List.forall_mem_cons.mpr ⟨.inr ⟨_, _, rfl⟩, ih hrest⟩

/-- What comes next when something has to be done at once. -/
theorem exists_of_not_steady (h : Run (Step size chain) st l st') (hst : ¬ st.Steady)
    (hst' : st'.Steady) : ∃ e l' t, l = e :: l' ∧ Step size chain st e t := by
  cases h with
  | nil => exact absurd hst' hst
  | cons hstep _ => exact ⟨_, _, _, rfl, hstep⟩

/-- **What the machine reads is kept to the rules**, when nothing is left to be done at once. -/
theorem kept_of_run (h : Run (Step size chain) .idle l st) (hst : st.Steady) :
    Kept size chain l := by
  constructor
  · have hholds := holds_of_run h
    cases st with
    | idle =>
      rw [hholds.1]
      exact List.nil_prefix
    | waiting id k got =>
      rw [hholds.1.requests]
      exact List.take_prefix ..
    | telling id k got len => exact hst.elim
    | answered k ok => exact hst.elim
    | closed => exact hholds.1
  · rintro l₁ l₂ id a rfl
    obtain ⟨s, t, hbefore, hstep, -⟩ := h.split
    have hholds := holds_of_run hbefore
    cases hstep with
    | first _ => exact .inl hholds.1
    | next _ => exact .inr hholds.2.2.2
  · -- it is told of once, behind the last answer of the chain
    rintro l₁ l₂ len rfl
    obtain ⟨s, t, hbefore, hstep, -⟩ := h.split
    have hholds := holds_of_run hbefore
    cases hstep with
    | told =>
      obtain ⟨hfollowed, -, -, -, hk, -, l₀, hl₀⟩ := hholds
      exact ⟨hfollowed.requests_eq hk, l₀, _, hl₀⟩
  · -- only the last action's bytes are told of, and the telling follows at once
    rintro l₁ l₂ id len rfl hawaited hrequests
    obtain ⟨s, t, hbefore, hstep, hafter⟩ := h.split
    have hholds := holds_of_run hbefore
    cases hstep with
    | part hk => exact absurd (hholds.1.eq_of_requests hrequests) hk
    | lastPart _ =>
      obtain ⟨e, l₃, u, rfl, htold⟩ := exists_of_not_steady hafter not_false hst
      cases htold with
      | told => exact ⟨l₃, rfl⟩
      | otherPart hst => exact hst.elim
      | otherEnd hst => exact hst.elim
    | otherPart hs => exact absurd hawaited (hholds.awaited_ne hs)
  · -- an answer that is awaited leads to the next action or to the end
    rintro l₁ l₂ id ok rfl hawaited
    obtain ⟨s, t, hbefore, hstep, hafter⟩ := h.split
    obtain ⟨k, rfl, hfollowed⟩ := (holds_of_run hbefore).answered hawaited hstep
    obtain ⟨e, l₃, u, rfl, hnext⟩ := exists_of_not_steady hafter not_false hst
    cases hnext with
    | next _ => exact .inl ⟨rfl, _, _, l₃, rfl⟩
    | finished hk => exact .inr ⟨fun hok => hfollowed.requests_eq (hk hok), l₃, rfl⟩
    | otherPart hst => exact hst.elim
    | otherEnd hst => exact hst.elim
  · rintro l₁ l₂ ok rfl
    obtain ⟨s, t, hbefore, hstep, hafter⟩ := h.split
    have hholds := holds_of_run hbefore
    cases hstep with
    | @finished k _ hk =>
      obtain ⟨hfollowed, -, hsum, hended⟩ := hholds
      refine ⟨hended, fun hok => ⟨hfollowed.requests_eq (hk hok), ?_⟩, silent_of_closed hafter⟩
      obtain ⟨a, ha, hsum⟩ := hsum hok (hk hok)
      refine ⟨a, ?_, hsum⟩
      rw [List.getLast?_eq_getElem?, ← hk hok]
      exact ha

/-! ### Those who wait only some of the time -/

/-- It is something that those who wait are told. -/
def Event.Tells : Event α → Prop
  | .told _ => True
  | .finished _ => True
  | _ => False

/-- The second list is the first without some of what is told. -/
inductive Thins : List (Event α) → List (Event α) → Prop
  | nil : Thins [] []
  | keep {l l' : List (Event α)} (e : Event α) : Thins l l' → Thins (e :: l) (e :: l')
  | miss {l l' : List (Event α)} {e : Event α} : e.Tells → Thins l l' → Thins (e :: l) l'

variable {l' : List (Event α)}

namespace Thins

theorem refl (l : List (Event α)) : Thins l l := by
  induction l with
  | nil => exact .nil
  | cons e l ih => exact .keep e ih

theorem append {k k' : List (Event α)} (h : Thins l l') (hk : Thins k k') :
    Thins (l ++ k) (l' ++ k') := by
  induction h with
  | nil => exact hk
  | keep e _ ih => exact .keep e ih
  | miss he _ ih => exact .miss he ih

theorem requests_eq (h : Thins l l') : requests l' = requests l := by
  induction h with
  | nil => rfl
  | @keep k k' e _ ih =>
    have hcons : ∀ m : List (Event α), requests (e :: m) = e.request.toList ++ requests m := by
      intro m
      cases e <;> rfl
    rw [hcons, hcons, ih]
  | @miss _ _ e he _ ih =>
    cases e with
    | told len => exact ih
    | finished ok => exact ih
    | issued id a => exact he.elim
    | part id len => exact he.elim
    | ended id ok => exact he.elim

theorem awaited_eq (h : Thins l l') : awaited l' = awaited l := by
  have key : ∀ cur, l'.foldl Event.await cur = l.foldl Event.await cur := by
    induction h with
    | nil => exact fun _ => rfl
    | keep e _ ih => exact fun cur => ih (Event.await cur e)
    | @miss _ _ e he _ ih =>
      intro cur
      cases e with
      | told len => exact ih cur
      | finished ok => exact ih cur
      | issued id a => exact he.elim
      | part id len => exact he.elim
      | ended id ok => exact he.elim
  exact key none

/-- What is left was there before. -/
theorem split (h : Thins l l') : ∀ {l₁ l₂ : List (Event α)}, l' = l₁ ++ e :: l₂ →
    ∃ k₁ k₂, l = k₁ ++ e :: k₂ ∧ Thins k₁ l₁ ∧ Thins k₂ l₂ := by
  induction h with
  | nil =>
    intro l₁ l₂ heq
    cases List.append_eq_nil_iff.mp heq.symm with
    | intro _ h => cases h
  | @keep l l' e' hthin ih =>
    intro l₁ l₂ heq
    cases l₁ with
    | nil =>
      cases heq
      exact ⟨[], l, rfl, .nil, hthin⟩
    | cons x l₁ =>
      cases heq
      obtain ⟨k₁, k₂, rfl, h₁, h₂⟩ := ih rfl
      exact ⟨e' :: k₁, k₂, rfl, .keep e' h₁, h₂⟩
  | miss he _ ih =>
    intro l₁ l₂ heq
    obtain ⟨k₁, k₂, rfl, h₁, h₂⟩ := ih heq
    exact ⟨_ :: k₁, k₂, rfl, .miss he h₁, h₂⟩

/-- What is not told is not missed. -/
theorem snoc (h : Thins (l ++ [e]) l') (he : ¬ e.Tells) : ∃ l₀, l' = l₀ ++ [e] ∧ Thins l l₀ := by
  induction l generalizing l' with
  | nil =>
    cases h with
    | keep _ h =>
      cases h
      exact ⟨[], rfl, .nil⟩
    | miss hmiss _ => exact absurd hmiss he
  | cons x l ih =>
    cases h with
    | keep _ h =>
      obtain ⟨l₀, rfl, hthin⟩ := ih h
      exact ⟨x :: l₀, rfl, .keep x hthin⟩
    | miss hmiss h =>
      obtain ⟨l₀, rfl, hthin⟩ := ih h
      exact ⟨l₀, rfl, .miss hmiss hthin⟩

/-- What is told is missed. -/
theorem of_tells (h : ∀ e ∈ l, e.Tells) : Thins l [] := by
  induction l with
  | nil => exact .nil
  | cons e l ih =>
    obtain ⟨he, hl⟩ := List.forall_mem_cons.mp h
    exact .miss he (ih hl)

/-- Where nothing is told nothing is missed. -/
theorem eq_of_not_tells (h : Thins l l') (hl : ∀ e ∈ l, ¬ e.Tells) : l' = l := by
  induction h with
  | nil => rfl
  | keep e _ ih => rw [ih (List.forall_mem_cons.mp hl).2]
  | miss he _ _ => exact absurd he (hl _ List.mem_cons_self)

theorem subset (h : Thins l l') : l' ⊆ l := by
  induction h with
  | nil => exact List.Subset.refl _
  | keep e _ ih => exact List.cons_subset_cons e ih
  | miss _ _ ih => exact List.subset_cons_of_subset _ ih

end Thins

/-- The rules for those who wait only some of the time: what they are told is a part of the last answer
that has just come, or the end that has just come, and after the end nothing. -/
structure Partly (chain : List α) (l : List (Event α)) : Prop where
  telling : ∀ {l₁ l₂ len}, l = l₁ ++ .told len :: l₂ → requests l₁ = chain ∧
    ∃ l₀ id, l₁ = l₀ ++ [.part id len] ∧ awaited l₀ = some id
  finished : ∀ {l₁ l₂ ok}, l = l₁ ++ .finished ok :: l₂ →
    (∃ l₀ id, l₁ = l₀ ++ [.ended id ok] ∧ awaited l₀ = some id) ∧
    (ok = true → requests l₁ = chain) ∧
    ∀ e ∈ l₂, (∃ id len, e = .part id len) ∨ ∃ id ok, e = .ended id ok

/-- **Who misses some of what is told** is told the rest by the rules. -/
theorem Kept.thins (h : Kept size chain l) (hthin : Thins l l') : Partly chain l' := by
  constructor
  · intro l₁ l₂ len heq
    obtain ⟨k₁, k₂, rfl, h₁, -⟩ := hthin.split heq
    obtain ⟨hrequests, l₀, id, rfl, hawaited⟩ := h.telling rfl
    obtain ⟨l₃, rfl, h₃⟩ := h₁.snoc not_false
    exact ⟨h₁.requests_eq.trans hrequests, l₃, id, rfl, h₃.awaited_eq.trans hawaited⟩
  · intro l₁ l₂ ok heq
    obtain ⟨k₁, k₂, rfl, h₁, h₂⟩ := hthin.split heq
    obtain ⟨⟨l₀, id, rfl, hawaited⟩, hrequests, hafter⟩ := h.finished rfl
    obtain ⟨l₃, rfl, h₃⟩ := h₁.snoc not_false
    exact ⟨⟨l₃, id, rfl, h₃.awaited_eq.trans hawaited⟩,
      fun hok => h₁.requests_eq.trans (hrequests hok).1, fun e he => hafter e (h₂.subset he)⟩

end Chains
