/-
The table of connections.

A connection whose file getter died, was sent to another socket, or never had one leaves a dead node in
the table for ever.

* `Ages` — no operation takes a dead node out, and a connection is lost only with one;
* `Linked` — while no connection is lost, the nodes of the table are the connections that are at work;
* `Raised` — what the connections that are made for a document keep of both;
* `Table` — **the table is linked, or a dead node tells of the connection that is lost**; `Table.ages`,
  `Table.returned` and `Table.giveUp` keep it.
-/
import ShadowBrowser.BrowserAccounts

namespace ShadowBrowser

open CellTable Checked FileTransfer Runs Texts WorkerPool

namespace BrowserPlugin

namespace Browser

variable {lib : Libraries} {b b' b'' : Browser} {i k n : ℕ} {h : List UInt8} {fd : Option ℕ} {t : Task}
  {tasks : DownloadTasks}

/-! ### Dead nodes -/

/-- There is a dead node in the table. -/
def Spoilt (b : Browser) : Prop := ∃ n ∈ b.connections, n.Dead b.sockd

/-- The key of a node is the socket of its connection, or is empty. -/
def Keyed (b : Browser) : Prop :=
  ∀ n ∈ b.connections, n.key < b.made ∧ (n.key = n.value ∨ b.sockd n.key = 0)

/-- Sockets are only closed, dead nodes stay, and a connection is lost only with a dead node. -/
structure Ages (b b' : Browser) : Prop where
  made : b.made ≤ b'.made
  cells : ∀ i < b.made, b'.sockd i = b.sockd i ∨ b'.sockd i = 0
  fds : ∀ i, b.made ≤ i → i < b'.made → b'.sockd i = 0 ∨ 2 < b'.sockd i
  nodes : ∀ n ∈ b.connections, n.key < b.made → n.Dead b.sockd →
    ∃ m ∈ b'.connections, m.hash = n.hash ∧ m.key = n.key
  keyed : Keyed b → Keyed b'
  lost : Keyed b → b'.lost = true → b.lost = true ∨ Spoilt b'
  mono : b.lost = true → b'.lost = true

/-- Whether a node is dead is a matter of its hash and its key. -/
theorem dead_of_eq {cell : ℕ → ℕ} {n m : Node ℕ ℕ} (h : n.Dead cell) (hhash : m.hash = n.hash)
    (hkey : m.key = n.key) : m.Dead cell := by
  rwa [Node.Dead, Node.Stale, Node.Sound, hhash, hkey]

/-- **A dead node stays.** -/
theorem Ages.spoilt (ha : Ages b b') (hk : Keyed b) (hs : Spoilt b) : Spoilt b' := by
  obtain ⟨n, hn, hdead⟩ := hs
  obtain ⟨m, hm, hhash, hkey⟩ := ha.nodes n hn (hk n hn).1 hdead
  exact ⟨m, hm, dead_of_eq (hdead.of_cells (ha.cells n.key (hk n hn).1)) hhash hkey⟩

theorem Ages.refl : Ages b b :=
  ⟨Nat.le_refl _, fun _ _ => .inl rfl, fun _ hle hlt => absurd hlt (Nat.not_lt.mpr hle),
    fun n hn _ _ => ⟨n, hn, rfl, rfl⟩, id, fun _ h => .inl h, id⟩

theorem Ages.trans (h : Ages b b') (h' : Ages b' b'') : Ages b b'' := by
  have hcells : ∀ i < b.made, b''.sockd i = b.sockd i ∨ b''.sockd i = 0 := by
    intro i hi
    obtain heq | hzero := h'.cells i (Nat.lt_of_lt_of_le hi h.made)
    · rw [heq]
      exact h.cells i hi
    · exact .inr hzero
  refine ⟨Nat.le_trans h.made h'.made, hcells, fun i hle hlt => ?_, ?_, fun hk => h'.keyed (h.keyed hk),
    fun hk hlost => ?_, fun hlost => h'.mono (h.mono hlost)⟩
  · by_cases hi : i < b'.made
    · obtain heq | hzero := h'.cells i hi
      · rw [heq]
        exact h.fds i hle hi
      · exact .inl hzero
    · exact h'.fds i (Nat.not_lt.mp hi) hlt
  · intro n hn hin hdead
    obtain ⟨m, hm, hhash, hkey⟩ := h.nodes n hn hin hdead
    have hdead' := dead_of_eq (hdead.of_cells (h.cells n.key hin)) hhash hkey
    obtain ⟨m', hm', hhash', hkey'⟩ := h'.nodes m hm (hkey ▸ Nat.lt_of_lt_of_le hin h.made) hdead'
    exact ⟨m', hm', hhash'.trans hhash, hkey'.trans hkey⟩
  · obtain hlost | hspoilt := h'.lost (h.keyed hk) hlost
    · obtain hlost | hspoilt := h.lost hk hlost
      · exact .inl hlost
      · exact .inr (h'.spoilt (h.keyed hk) hspoilt)
    · exact .inr hspoilt

theorem sockd_setConn (c : Connection) : (b.setConn i c).sockd = Function.update b.sockd i c.fg.sockd := by
  funext j
  rw [sockd]
  by_cases hj : j = i
  · rw [hj, setConn_self, Function.update_self]
  · rw [setConn_ne b c hj, Function.update_of_ne hj]
    rfl

/-- A connection keeps its socket, or loses it. -/
theorem ages_setConn {c : Connection} (hc : c.fg.sockd = b.sockd i ∨ c.fg.sockd = 0) :
    Ages b (b.setConn i c) := by
  have hcell : ∀ j, (b.setConn i c).sockd j = b.sockd j ∨ (b.setConn i c).sockd j = 0 := by
    intro j
    rw [sockd_setConn]
    by_cases hj : j = i
    · rwa [hj, Function.update_self]
    · rw [Function.update_of_ne hj]
      exact .inl rfl
  refine ⟨Nat.le_refl _, fun j _ => hcell j, fun _ hle hlt => absurd hlt (Nat.not_lt.mpr hle),
    fun n hn _ _ => ⟨n, hn, rfl, rfl⟩, fun hk n hn => ?_,
    fun _ h => .inl h, id⟩
  refine ⟨(hk n hn).1, (hk n hn).2.imp_right fun hzero => ?_⟩
  obtain heq | hzero' := hcell n.key
  · exact heq.trans hzero
  · exact hzero'

/-- What is taken out is not dead. -/
theorem ages_steal (hk : k ≠ 0) : Ages b (b.stealConnection k) :=
  ⟨Nat.le_refl _, fun _ _ => .inl rfl, fun _ hle hlt => absurd hlt (Nat.not_lt.mpr hle),
    fun n hn _ hdead => ⟨n, mem_steal_of_dead hdead hk hn, rfl, rfl⟩,
    fun hkeyed n hn => hkeyed n (List.mem_of_mem_eraseP hn), fun _ h => .inl h, id⟩

theorem ages_shut (b : Browser) (i : ℕ) :
    Ages b (b.setConn i { b.conn i with fg := (b.conn i).fg.shutdown }) :=
  ages_setConn (.inr rfl)

theorem ages_shutdownConnection (b : Browser) (i : ℕ) : Ages b (b.shutdownConnection i) := by
  have ha := ages_shut b i
  exact ⟨ha.made, ha.cells, ha.fds, ha.nodes, ha.keyed, ha.lost, ha.mono⟩

theorem ages_remove (hk : k ≠ 0) : Ages b (b.removeConnection k) := by
  rw [removeConnection]
  cases lookup b.sockd k b.connections with
  | none => exact .refl
  | some i => exact (ages_steal hk).trans (ages_shutdownConnection _ i)

theorem ages_giveUp (hk : k ≠ 0) : Ages b (b.giveUp i k) :=
  (ages_steal hk).trans (ages_shut (b.stealConnection k) i)

theorem ages_answered (b : Browser) (i : ℕ) : Ages b (b.answered i) := ages_setConn (.inl rfl)

/-- A socket that is there is kept. -/
theorem download_sockd {g : Getter} (hg : g.sockd ≠ 0) : (g.download fd).sockd = g.sockd := by
  unfold Getter.download Getter.setSpecs
  rw [if_pos (Nat.pos_of_ne_zero hg)]
  split_ifs <;> rfl

theorem ages_ask {path : List UInt8} {pending : List (List UInt8)} (hi : b.sockd i ≠ 0) :
    Ages b (b.ask i tasks path pending fd) := by
  have ha := ages_setConn (b := b) (i := i) (c := { b.conn i with
    remotePath := path.take strSize
    fg := (b.conn i).fg.download fd
    job := some ((b.conn i).httpHostname, path) }) (.inl (download_sockd hi))
  exact ⟨ha.made, ha.cells, ha.fds, ha.nodes, ha.keyed, ha.lost, ha.mono⟩

/-- A connection is put into the table. -/
theorem ages_insertConnection (hi : i < b.made)
    (hkey : ∀ n ∈ b.connections, n.Matches b.sockd (b.sockd i) → n.key = i ∨ b.sockd i = 0) :
    Ages b (b.insertConnection i) := by
  have hins : Ages b (b.inserted i) := by
    refine ⟨Nat.le_refl _, fun _ _ => .inl rfl, fun _ hle hlt => absurd hlt (Nat.not_lt.mpr hle),
      fun n hn _ _ => exists_mem_insert hn, fun hk n hn => ?_,
      fun _ h => .inl h, id⟩
    obtain hn | ⟨m, hm, hmatch, rfl⟩ | rfl := mem_insert hn
    · exact hk n hn
    · exact ⟨(hk m hm).1, (hkey m hm hmatch).imp_right fun hzero => hmatch.2.trans hzero⟩
    · exact ⟨hi, .inl rfl⟩
  rw [insertConnection]
  cases lookup b.sockd (b.sockd i) b.connections with
  | none => exact hins
  | some j => exact hins.trans (ages_shutdownConnection _ j)

theorem connections_insertConnection (b : Browser) (i : ℕ) :
    (b.insertConnection i).connections = CellTable.insert b.sockd i i b.connections := by
  rw [insertConnection]
  cases lookup b.sockd (b.sockd i) b.connections <;> rfl

theorem lost_insertConnection (b : Browser) (i : ℕ) : (b.insertConnection i).lost = b.lost := by
  rw [insertConnection]
  cases lookup b.sockd (b.sockd i) b.connections <;> rfl

theorem sockd_insertConnection (b : Browser) (i j : ℕ) :
    (b.insertConnection i).sockd j = b.sockd j ∨ (b.insertConnection i).sockd j = 0 := by
  rw [insertConnection]
  cases lookup b.sockd (b.sockd i) b.connections with
  | none => exact .inl rfl
  | some m =>
    show ((b.inserted i).setConn m _).sockd j = _ ∨ ((b.inserted i).setConn m _).sockd j = 0
    rw [sockd_setConn]
    by_cases hj : j = m
    · rw [hj, Function.update_self]
      exact .inr rfl
    · rw [Function.update_of_ne hj]
      exact .inl rfl

/-- A connection that is put in without a socket leaves a dead node. -/
theorem spoilt_insertConnection (hi : b.sockd i = 0) : Spoilt (b.insertConnection i) := by
  obtain ⟨m, hm, hmatch⟩ := exists_mem_insert_self b.sockd i i b.connections
  refine ⟨m, by rwa [connections_insertConnection], .inl ?_⟩
  obtain heq | hzero := sockd_insertConnection b i m.key
  · rw [heq, hmatch.2, hi]
  · exact hzero

/-- **A connection is made**: its socket is a new one, or it has none and is lost. -/
theorem ages_newConnection {c : Connection} (hfd : c.fg.sockd = 0 ∨ b.Fresh c.fg.sockd) :
    Ages b (b.newConnection c) := by
  have hother : ∀ j < b.made, (b.make c).sockd j = b.sockd j := by
    intro j hj
    show (b.setConn b.made c).sockd j = b.sockd j
    rw [sockd_setConn, Function.update_of_ne (Nat.ne_of_lt hj)]
  have hself : (b.make c).sockd b.made = c.fg.sockd := by
    show (b.setConn b.made c).sockd b.made = _
    rw [sockd_setConn, Function.update_self]
  have hkeyed : Keyed b → Keyed (b.make c) := by
    intro hk n hn
    refine ⟨Nat.lt_succ_of_lt (hk n hn).1, (hk n hn).2.imp_right fun hzero => ?_⟩
    rw [hother n.key (hk n hn).1, hzero]
  have hdead : ∀ n ∈ b.connections, n.key < b.made → n.Dead b.sockd → n.Dead (b.make c).sockd :=
    fun n _ hin hd => hd.of_cells (.inl (hother n.key hin))
  have hmade : (b.newConnection c).made = b.made + 1 := (frame_insertConnection (b.make c) b.made).made
  -- the new connection has a cell of its own, and the nodes of the others stay what they are
  refine ⟨?_, fun j hj => ?_, fun j hle hlt => ?_, fun n hn hin hd => ?_, fun hk => ?_,
    fun hk hlost => ?_, fun hlost => ?_⟩
  · rw [hmade]
    exact Nat.le_succ _
  · rw [← hother j hj]
    exact sockd_insertConnection ..
  · rw [hmade] at hlt
    obtain rfl := Nat.le_antisymm (Nat.lt_succ_iff.mp hlt) hle
    obtain heq | hzero := sockd_insertConnection (b.make c) b.made b.made
    · refine hfd.imp (fun hzero => ?_) fun hfresh => ?_
      · exact heq.trans (hself.trans hzero)
      · rw [show (b.newConnection c).sockd b.made = c.fg.sockd from heq.trans hself]
        exact hfresh.1
    · exact .inl hzero
  · show ∃ m ∈ ((b.make c).insertConnection b.made).connections, _
    rw [connections_insertConnection]
    exact exists_mem_insert hn
  · refine (ages_insertConnection (b := b.make c) (Nat.lt_succ_self b.made) ?_).keyed (hkeyed hk)
    intro n hn hmatch
    obtain hzero | hfresh := hfd
    · -- a fresh socket is in no cell, so no node matches it
      exact .inr (hself.trans hzero)
    · refine absurd ?_ (hfresh.2 n.key (hk n hn).1)
      rw [← hother n.key (hk n hn).1, hmatch.2, hself]
  · have hlost : ((b.make c).insertConnection b.made).lost = true := hlost
    rw [lost_insertConnection] at hlost
    obtain hlost | hzero := Bool.or_eq_true_iff.mp hlost
    · exact .inl hlost
    · exact .inr (spoilt_insertConnection (hself.trans (of_decide_eq_true hzero)))
  · show ((b.make c).insertConnection b.made).lost = true
    rw [lost_insertConnection, make, hlost]
    rfl

/-- A connection without a socket is lost. -/
theorem lost_newConnection {c : Connection} (h : c.fg.sockd = 0) : (b.newConnection c).lost = true := by
  show ((b.make c).insertConnection b.made).lost = true
  rw [lost_insertConnection, make, h]
  exact Bool.or_true _

/-- Sockets that are fresh stay fresh, but for the one that is used. -/
theorem freshAll_newConnection {c : Connection} {fds : List (Option ℕ)} (hfds : b.FreshAll fds)
    (hne : ∀ fd, some fd ∈ fds → fd ≠ c.fg.sockd) : (b.newConnection c).FreshAll fds := by
  refine ⟨fun fd hfd => ⟨(hfds.1 fd hfd).1, fun j hj => ?_⟩, hfds.2⟩
  rw [show (b.newConnection c).made = b.made + 1 from
    (frame_insertConnection (b.make c) b.made).made] at hj
  have hfresh := hfds.1 fd hfd
  have hmake : (b.make c).sockd j ≠ fd := by
    show (b.setConn b.made c).sockd j ≠ fd
    rw [sockd_setConn]
    obtain hj | rfl := Nat.lt_succ_iff_lt_or_eq.mp hj
    · rw [Function.update_of_ne (Nat.ne_of_lt hj)]
      exact hfresh.2 j hj
    · rw [Function.update_self]
      exact (hne fd hfd).symm
  show ((b.make c).insertConnection b.made).sockd j ≠ fd
  obtain heq | hzero := sockd_insertConnection (b.make c) b.made j
  · rwa [heq]
  · rw [hzero]
    have := hfresh.1
    omega

/-! ### Connections that are not lost -/

/-- The nodes of the table are the connections that are at work, each with its socket. -/
structure Linked (b : Browser) : Prop where
  node : ∀ n ∈ b.connections, n.key = n.value ∧ n.value < b.made ∧ n.hash = b.sockd n.value ∧
    2 < b.sockd n.value
  distinct : (b.connections.map Node.hash).Nodup
  job : ∀ i < b.made, b.job i ≠ none → ∃ n ∈ b.connections, n.value = i

/-- Every connection in the table is at an object. -/
def Working (b : Browser) : Prop := ∀ n ∈ b.connections, b.job n.value ≠ none

theorem realHash_of_lt (hk : 2 < k) : realHash k = k := if_neg (by omega)

theorem Linked.sound (hl : Linked b) {n : Node ℕ ℕ} (hn : n ∈ b.connections) : n.Sound b.sockd := by
  obtain ⟨hkey, _, hhash, hlt⟩ := hl.node n hn
  rw [Node.Sound, hkey, hhash, realHash_of_lt hlt]

/-- A connection of its own is found. -/
theorem Linked.matches_iff (hl : Linked b) {n : Node ℕ ℕ} (hn : n ∈ b.connections) :
    n.Matches b.sockd k ↔ n.hash = k := by
  obtain ⟨hkey, _, hhash, hlt⟩ := hl.node n hn
  rw [n.matches_iff, and_iff_right (hl.sound hn), hkey, hhash]

/-- What is left when a connection is taken out. -/
theorem Linked.mem_steal (hl : Linked b) {n m : Node ℕ ℕ} (hm : m ∈ b.connections) :
    n ∈ steal b.sockd m.hash b.connections ↔ n ∈ b.connections ∧ n.hash ≠ m.hash := by
  obtain ⟨m', t₁, t₂, hmatch, _, ht, hsteal⟩ := steal_eq ⟨m, hm, (hl.matches_iff hm).mpr rfl⟩
  have hm' : m' ∈ b.connections := by
    rw [ht]
    exact List.mem_append_right _ List.mem_cons_self
  have hhash : m'.hash = m.hash := (hl.matches_iff hm').mp hmatch
  have hnodup := hl.distinct
  rw [ht, List.map_append, List.map_cons] at hnodup
  have hnot : ∀ a, a ∈ t₁ ++ t₂ → a.hash ≠ m.hash := by
    intro a ha heq
    have hmid := List.nodup_middle.mp hnodup
    refine (List.nodup_cons.mp hmid).1 ?_
    rw [hhash, ← heq, ← List.map_append]
    exact List.mem_map_of_mem ha
  rw [hsteal]
  constructor
  · intro hn
    refine ⟨?_, hnot n hn⟩
    rw [ht]
    obtain hn | hn := List.mem_append.mp hn
    · exact List.mem_append_left _ hn
    · exact List.mem_append_right _ (List.mem_cons_of_mem _ hn)
  · rintro ⟨hn, hne⟩
    rw [ht] at hn
    obtain hn | hn := List.mem_append.mp hn
    · exact List.mem_append_left _ hn
    · obtain rfl | hn := List.mem_cons.mp hn
      · exact absurd hhash hne
      · exact List.mem_append_right _ hn

/-- Two nodes of one connection are the same. -/
theorem Linked.hash_eq (hl : Linked b) {n m : Node ℕ ℕ} (hn : n ∈ b.connections) (hm : m ∈ b.connections)
    (h : n.value = m.value) : n.hash = m.hash := by
  rw [(hl.node n hn).2.2.1, (hl.node m hm).2.2.1, h]

/-- Two nodes with one hash are the same. -/
theorem Linked.node_eq (hl : Linked b) {n m : Node ℕ ℕ} (hn : n ∈ b.connections) (hm : m ∈ b.connections)
    (h : n.hash = m.hash) : n = m :=
  List.inj_on_of_nodup_map hl.distinct hn hm h

/-- Every connection but one is at an object. -/
def WorkingBut (b : Browser) (i : ℕ) : Prop := ∀ n ∈ b.connections, n.value ≠ i → b.job n.value ≠ none

/-- **A connection is taken out and closed.** -/
theorem Linked.drop (hl : Linked b) {m : Node ℕ ℕ} (hm : m ∈ b.connections) (hmade : b'.made = b.made)
    (hconn : b'.connections = steal b.sockd m.hash b.connections)
    (hcell : ∀ j, j ≠ m.value → b'.sockd j = b.sockd j) (hjob : ∀ j, j ≠ m.value → b'.job j = b.job j)
    (hnone : b'.job m.value = none) : Linked b' ∧ (WorkingBut b m.value → Working b') := by
  have hmem : ∀ n, n ∈ b'.connections ↔ n ∈ b.connections ∧ n.value ≠ m.value := by
    intro n
    rw [hconn, hl.mem_steal hm]
    refine and_congr_right fun hn => not_congr ⟨fun heq => ?_, fun heq => hl.hash_eq hn hm heq⟩
    rw [hl.node_eq hn hm heq]
  refine ⟨⟨fun n hn => ?_, ?_, fun i hi hne => ?_⟩, fun hw n hn => ?_⟩
  · obtain ⟨hn, hne⟩ := (hmem n).mp hn
    obtain ⟨hkey, hlt, hhash, hpos⟩ := hl.node n hn
    rw [hcell n.value hne, hmade]
    exact ⟨hkey, hlt, hhash, hpos⟩
  · rw [hconn]
    exact hl.distinct.sublist (List.Sublist.map _ List.eraseP_sublist)
  · by_cases him : i = m.value
    · rw [him] at hne
      exact absurd hnone hne
    · rw [hjob i him] at hne
      obtain ⟨n, hn, rfl⟩ := hl.job i (hmade ▸ hi) hne
      exact ⟨n, (hmem n).mpr ⟨hn, him⟩, rfl⟩
  · obtain ⟨hn, hne⟩ := (hmem n).mp hn
    rw [hjob n.value hne]
    exact hw n hn hne

/-- Only what connections are asked for is changed. -/
theorem Linked.of_job (hl : Linked b) (hconn : b'.connections = b.connections) (hmade : b'.made = b.made)
    (hcell : b'.sockd = b.sockd) (hjob : ∀ i < b.made, b'.job i ≠ none → ∃ n ∈ b.connections, n.value = i) :
    Linked b' := by
  refine ⟨?_, hconn ▸ hl.distinct, ?_⟩
  · rw [hconn, hmade, hcell]
    exact hl.node
  · rw [hconn, hmade]
    exact hjob

theorem Linked.lookup (hl : Linked b) {m : Node ℕ ℕ} (hm : m ∈ b.connections) :
    lookup b.sockd m.hash b.connections = some m.value := by
  cases hlook : CellTable.lookup b.sockd m.hash b.connections with
  | none => exact absurd ((hl.matches_iff hm).mpr rfl) (lookup_eq_none.mp hlook m hm)
  | some i =>
    obtain ⟨n, hn, hmatch, rfl⟩ := exists_of_lookup hlook
    rw [hl.node_eq hn hm ((hl.matches_iff hn).mp hmatch)]

theorem sockd_shut (b : Browser) {i j : ℕ} (hj : j ≠ i) {c : Connection} :
    (b.setConn i c).sockd j = b.sockd j := by
  rw [sockd_setConn, Function.update_of_ne hj]

/-- A connection without an object is removed. -/
theorem Linked.remove (hl : Linked b) {m : Node ℕ ℕ} (hm : m ∈ b.connections) (hnone : b.job m.value = none) :
    Linked (b.removeConnection m.hash) ∧ (WorkingBut b m.value → Working (b.removeConnection m.hash)) := by
  have hjob := (frame_removeConnection b m.hash).job
  have hmade := (frame_removeConnection b m.hash).made
  have heq : b.removeConnection m.hash = (b.stealConnection m.hash).shutdownConnection m.value := by
    rw [removeConnection, hl.lookup hm]
  refine hl.drop hm hmade (by rw [heq]; rfl) (fun j hj => ?_) (fun j _ => congrFun hjob j)
    ((congrFun hjob m.value).trans hnone)
  rw [heq]
  exact sockd_shut (b.stealConnection m.hash) hj

/-- A connection fails. -/
theorem Linked.giveUp (hl : Linked b) {m : Node ℕ ℕ} (hm : m ∈ b.connections) :
    Linked ((b.answered m.value).giveUp m.value m.hash) ∧
      (WorkingBut b m.value → Working ((b.answered m.value).giveUp m.value m.hash)) := by
  have hconn := conn_giveUp b m.value m.hash
  have hcell : (b.answered m.value).sockd = b.sockd := by
    rw [answered, sockd_setConn]
    exact Function.update_eq_self ..
  refine hl.drop hm rfl ?_ (fun j hj => ?_) (fun j hj => ?_) ?_
  · show steal (b.answered m.value).sockd m.hash b.connections = _
    rw [hcell]
  · rw [sockd, hconn, setConn_ne _ _ hj]
    rfl
  · rw [Browser.job, hconn, setConn_ne _ _ hj]
    rfl
  · rw [Browser.job, hconn, setConn_self]

/-- A connection is at its next object. -/
theorem Linked.ask {path : List UInt8} {pending : List (List UInt8)} (hl : Linked b) {m : Node ℕ ℕ}
    (hm : m ∈ b.connections) :
    Linked (b.ask m.value tasks path pending fd) ∧
      (WorkingBut b m.value → Working (b.ask m.value tasks path pending fd)) := by
  obtain ⟨_, _, _, hpos⟩ := hl.node m hm
  have hcell : (b.ask m.value tasks path pending fd).sockd = b.sockd := by
    show (b.setConn m.value _).sockd = b.sockd
    rw [sockd_setConn, download_sockd (by show b.sockd m.value ≠ 0; omega)]
    exact Function.update_eq_self ..
  have hjob : (b.ask m.value tasks path pending fd).job =
      Function.update b.job m.value (some ((b.conn m.value).httpHostname, path)) := by
    show (b.setConn m.value _).job = _
    rw [job_setConn_eq]
  refine ⟨hl.of_job rfl rfl hcell fun i hi hne => ?_, fun hw n hn => ?_⟩
  · by_cases him : i = m.value
    · exact ⟨m, hm, him.symm⟩
    · rw [hjob, Function.update_of_ne him] at hne
      exact hl.job i hi hne
  · rw [hjob]
    by_cases hnm : n.value = m.value
    · rw [hnm, Function.update_self]
      exact Option.some_ne_none _
    · rw [Function.update_of_ne hnm]
      exact hw n hn hnm

/-! ### An activation -/

/-- A connection goes on, or is removed. -/
theorem ages_goOn (hi : b.sockd i ≠ 0) (hk : k ≠ 0) (hgo : b.goOn i k fd = .ok b') : Ages b b' := by
  obtain ⟨⟨b₁, r⟩, hreuse, hrest⟩ := bind_eq_ok.mp hgo
  obtain ⟨tasks, _, ⟨_, rfl, rfl⟩ | ⟨path, pending, _, rfl, rfl⟩⟩ := reuse_cases hreuse
  · cases hrest
    exact ages_remove hk
  · cases hrest
    exact ages_ask hi

theorem Linked.goOn (hl : Linked b) {m : Node ℕ ℕ} (hm : m ∈ b.connections) (hnone : b.job m.value = none)
    (hgo : b.goOn m.value m.hash fd = .ok b') : Linked b' ∧ (WorkingBut b m.value → Working b') := by
  obtain ⟨⟨b₁, r⟩, hreuse, hrest⟩ := bind_eq_ok.mp hgo
  obtain ⟨tasks, _, ⟨_, rfl, rfl⟩ | ⟨path, pending, _, rfl, rfl⟩⟩ := reuse_cases hreuse
  · cases hrest
    exact hl.remove hm hnone
  · cases hrest
    exact hl.ask hm

/-- A connection has its answer. -/
theorem Linked.answered (hl : Linked b) (i : ℕ) : Linked (b.answered i) := by
  refine hl.of_job rfl rfl ?_ fun j hj hne => hl.job j hj ?_
  · rw [Browser.answered, sockd_setConn]
    exact Function.update_eq_self ..
  · rw [Browser.answered, job_setConn_eq] at hne
    intro hnone
    refine hne ?_
    by_cases hji : j = i
    · rw [hji, Function.update_self]
    · rw [Function.update_of_ne hji, hnone]

theorem Working.answered (hw : Working b) (i : ℕ) : WorkingBut (b.answered i) i := by
  intro n hn hne
  rw [Browser.answered, job_setConn_eq, Function.update_of_ne hne]
  exact hw n hn

/-- **An activation keeps dead nodes.** -/
theorem ages_activateObject {sockfd : ℕ} {code : FilegetterCode} (hk : sockfd ≠ 0)
    (hi : code = .ok200 ∨ code = .err404 → b.sockd i ≠ 0)
    (h : b.activateObject i sockfd code fd = .ok b') : Ages b b' := by
  have hcell : (b.answered i).sockd i = b.sockd i := by
    rw [answered, sockd_setConn, Function.update_self]
    rfl
  rw [activateObject] at h
  split_ifs at h with h200 h404 hfail
  · have ha := ages_answered b i
    have hgo := ages_goOn (b := { b.answered i with
      embeddedDownloadsCompleted := b.embeddedDownloadsCompleted + 1
      completed := b.completed ++ (b.job i).toList })
      (show (b.answered i).sockd i ≠ 0 from hcell ▸ hi (.inl h200))
      (hi (.inl h200)) h
    refine Ages.trans ?_ hgo
    exact ⟨ha.made, ha.cells, ha.fds, ha.nodes, ha.keyed, ha.lost, ha.mono⟩
  · have ha := ages_answered b i
    have hgo := ages_goOn (b := { b.answered i with notFound := b.notFound ++ (b.job i).toList })
      (show (b.answered i).sockd i ≠ 0 from hcell ▸ hi (.inr h404)) hk h
    refine Ages.trans ?_ hgo
    exact ⟨ha.made, ha.cells, ha.fds, ha.nodes, ha.keyed, ha.lost, ha.mono⟩
  · cases h
    have ha := (ages_answered b i).trans (ages_giveUp (i := i) hk)
    exact ⟨ha.made, ha.cells, ha.fds, ha.nodes, ha.keyed, ha.lost, ha.mono⟩
  · cases h
    exact .refl

/-- **An activation keeps the table linked**, if its connection is in it. -/
theorem Linked.activateObject {code : FilegetterCode} (hl : Linked b) (hw : Working b) {m : Node ℕ ℕ}
    (hm : m ∈ b.connections) (h : b.activateObject m.value m.hash code fd = .ok b') :
    Linked b' ∧ Working b' := by
  have hl₁ := hl.answered m.value
  have hw₁ := hw.answered m.value
  have hnone : (b.answered m.value).job m.value = none := by
    rw [Browser.answered, job_setConn_eq, Function.update_self]
  have hhash : m.hash = b.sockd m.value := (hl.node m hm).2.2.1
  rw [Browser.activateObject] at h
  split_ifs at h with h200 h404 hfail
  · rw [downloadedObject, ← hhash] at h
    have hl₂ : Linked { b.answered m.value with
        embeddedDownloadsCompleted := b.embeddedDownloadsCompleted + 1
        completed := b.completed ++ (b.job m.value).toList } := ⟨hl₁.node, hl₁.distinct, hl₁.job⟩
    obtain ⟨hl', hw'⟩ := hl₂.goOn hm hnone h
    exact ⟨hl', hw' hw₁⟩
  · have hl₂ : Linked { b.answered m.value with notFound := b.notFound ++ (b.job m.value).toList } :=
      ⟨hl₁.node, hl₁.distinct, hl₁.job⟩
    obtain ⟨hl', hw'⟩ := hl₂.goOn hm hnone h
    exact ⟨hl', hw' hw₁⟩
  · cases h
    obtain ⟨hl', hw'⟩ := hl.giveUp hm
    exact ⟨⟨hl'.node, hl'.distinct, hl'.job⟩, hw' fun n hn _ => hw n hn⟩
  · cases h
    exact ⟨hl, hw⟩

/-! ### The connections that are made for a document -/

/-- **A connection is made**, and its socket is there. -/
theorem Linked.newConnection {c : Connection} (hl : Linked b) (hfd : b.Fresh c.fg.sockd) :
    Linked (b.newConnection c) ∧ (c.job ≠ none → Working b → Working (b.newConnection c)) := by
  have hcell : ∀ j, (b.make c).sockd j = Function.update b.sockd b.made c.fg.sockd j :=
    congrFun (sockd_setConn c)
  have hself : (b.make c).sockd b.made = c.fg.sockd := by rw [hcell, Function.update_self]
  have hother : ∀ j < b.made, (b.make c).sockd j = b.sockd j := fun j hj => by
    rw [hcell, Function.update_of_ne (Nat.ne_of_lt hj)]
  have hhash : ∀ n ∈ b.connections, n.hash ≠ c.fg.sockd := by
    intro n hn
    obtain ⟨_, hlt, heq, _⟩ := hl.node n hn
    rw [heq]
    exact hfd.2 n.value hlt
  have hnone : ∀ n ∈ b.connections, ¬ n.Matches (b.make c).sockd ((b.make c).sockd b.made) := by
    rintro n hn ⟨heq, _⟩
    rw [hself, realHash_of_lt hfd.1] at heq
    exact hhash n hn heq
  -- No node has the new socket, so the connection gets one of its own.
  have hnew : b.newConnection c = (b.make c).inserted b.made := by
    show (b.make c).insertConnection b.made = _
    rw [insertConnection, show CellTable.lookup (b.make c).sockd _ (b.make c).connections = none from
      lookup_eq_none.mpr hnone]
  have hconn : (b.newConnection c).connections =
      b.connections ++ [⟨c.fg.sockd, b.made, b.made⟩] := by
    rw [hnew]
    show CellTable.insert (b.make c).sockd b.made b.made b.connections = _
    rw [insert_of_none hnone, hself, realHash_of_lt hfd.1]
  have hmade : (b.newConnection c).made = b.made + 1 := by
    rw [hnew]
    rfl
  have hcells : (b.newConnection c).sockd = (b.make c).sockd := by
    rw [hnew]
    rfl
  have hjobs : (b.newConnection c).job = Function.update b.job b.made c.job := by
    rw [hnew]
    exact job_setConn_eq c
  have hjob : ∀ j < b.made, (b.newConnection c).job j = b.job j := fun j hj => by
    rw [hjobs, Function.update_of_ne (Nat.ne_of_lt hj)]
  refine ⟨⟨fun n hn => ?_, ?_, fun i hi hne => ?_⟩, fun hat hw n hn => ?_⟩
  · rw [hconn] at hn
    rw [hcells, hmade]
    obtain hn | hn := List.mem_append.mp hn
    · obtain ⟨hkey, hlt, heq, hpos⟩ := hl.node n hn
      rw [hother n.value hlt]
      exact ⟨hkey, Nat.lt_succ_of_lt hlt, heq, hpos⟩
    · obtain rfl := List.mem_singleton.mp hn
      rw [hself]
      exact ⟨rfl, Nat.lt_succ_self _, rfl, hfd.1⟩
  · rw [hconn, List.map_append]
    refine List.Nodup.append hl.distinct (List.nodup_singleton _) fun k hk hk' => ?_
    obtain ⟨n, hn, rfl⟩ := List.mem_map.mp hk
    exact hhash n hn (List.mem_singleton.mp hk')
  · rw [hconn]
    rw [hmade] at hi
    obtain hi | rfl := Nat.lt_succ_iff_lt_or_eq.mp hi
    · rw [hjob i hi] at hne
      obtain ⟨n, hn, hval⟩ := hl.job i hi hne
      exact ⟨n, List.mem_append_left _ hn, hval⟩
    · exact ⟨_, List.mem_append_right _ (List.mem_singleton_self _), rfl⟩
  · rw [hconn] at hn
    obtain hn | hn := List.mem_append.mp hn
    · rw [hjob n.value (hl.node n hn).2.1]
      exact hw n hn
    · obtain rfl := List.mem_singleton.mp hn
      rw [hjobs, Function.update_self]
      exact hat

/-- Dead nodes stay; and while no connection is lost the table stays linked, with every connection at an
object. -/
structure Raised (b b' : Browser) : Prop where
  ages : Ages b b'
  linked : b'.lost = false → Linked b → Working b → Linked b' ∧ Working b'

theorem Raised.refl : Raised b b := ⟨.refl, fun _ hl hw => ⟨hl, hw⟩⟩

theorem Ages.not_lost (ha : Ages b b') (h : b'.lost = false) : b.lost = false := by
  by_contra hne
  rw [ha.mono (by simpa using hne)] at h
  cases h

theorem Raised.trans (h : Raised b b') (h' : Raised b' b'') : Raised b b'' := by
  refine ⟨h.ages.trans h'.ages, fun hlost hl hw => ?_⟩
  obtain ⟨hl', hw'⟩ := h.linked (h'.ages.not_lost hlost) hl hw
  exact h'.linked hlost hl' hw'

/-- The sockets that are left are fresh, and are not the first one. -/
theorem FreshAll.tail {fds : List (Option ℕ)} (hfds : b.FreshAll fds) :
    b.FreshAll fds.tail ∧ ∀ fd, some fd ∈ fds.tail → some fd ≠ fds.headD none := by
  cases fds with
  | nil => exact ⟨hfds, fun fd hfd => absurd hfd List.not_mem_nil⟩
  | cons fd' fds =>
    refine ⟨⟨fun fd hfd => hfds.1 fd (List.mem_cons_of_mem _ hfd), ?_⟩, fun fd hfd heq => ?_⟩
    · exact hfds.2.sublist ((List.sublist_cons_self fd' fds).filterMap _)
    · obtain rfl : some fd = fd' := heq
      exact (List.nodup_cons.mp hfds.2).1 (List.mem_filterMap.mpr ⟨some fd, hfd, rfl⟩)

theorem FreshAll.head {fds : List (Option ℕ)} (hfds : b.FreshAll fds) (h : fds.headD none = some n) :
    b.Fresh n := by
  cases fds with
  | nil => cases h
  | cons fd fds =>
    obtain rfl : fd = some n := h
    exact hfds.1 n List.mem_cons_self

theorem sockd_start (fd : Option ℕ) : (Getter.start.download fd).sockd = fd.getD 0 := by
  cases fd <;> rfl

/-- A connection is made for the next path of a host. -/
theorem raised_startTask {path : List UInt8} {pending : List (List UInt8)} {fds : List (Option ℕ)}
    (hfds : b.FreshAll fds)
    (h : b.startTask lib h path pending tasks (fds.headD none) = .ok b') :
    Raised b b' ∧ b'.FreshAll fds.tail := by
  rw [startTask] at h
  cases hc : b.prepareFilegetter lib _ 80 path (fds.headD none) with
  | none =>
    rw [hc] at h
    cases h
  | some c =>
    rw [hc] at h
    cases h
    obtain ⟨_, _, _, rfl⟩ := prepare_spec hc
    obtain ⟨htail, hhead⟩ := hfds.tail
    set c : Connection := {
      httpHostname := _
      remotePath := path.take strSize
      saveToMemory := b.state = .document
      fg := Getter.start.download (fds.headD none)
      job := some (_, path) } with hc
    set b₁ : Browser := { b with asked := b.asked ++ [(_, path)] } with hb₁
    have hsockd : c.fg.sockd = (fds.headD none).getD 0 := sockd_start _
    have hfd : c.fg.sockd = 0 ∨ b₁.Fresh c.fg.sockd := by
      rw [hsockd]
      cases hd : fds.headD none with
      | none => exact .inl rfl
      | some fd => exact .inr (hfds.head hd)
    have ha := ages_newConnection hfd
    have hne : ∀ fd, some fd ∈ fds.tail → fd ≠ c.fg.sockd := by
      rw [hsockd]
      intro fd hfd' heq
      cases hd : fds.headD none with
      | none =>
        rw [hd] at heq
        have := (htail.1 fd hfd').1
        rw [heq] at this
        exact absurd this (Nat.not_lt_zero 2)
      | some fd' =>
        rw [hd] at heq
        exact hhead fd hfd' (by rw [hd, heq]; rfl)
    have hf₁ : b₁.FreshAll fds.tail := ⟨fun fd hfd => htail.1 fd hfd, htail.2⟩
    have hfresh := freshAll_newConnection (c := c) hf₁ hne
    refine ⟨⟨⟨ha.made, ha.cells, ha.fds, ha.nodes, ha.keyed, ha.lost, ha.mono⟩, fun hlost hl hw => ?_⟩,
      hfresh⟩
    -- It is not lost, so it has a socket.
    have hlost : (b₁.newConnection c).lost = false := hlost
    have hl₁ : Linked b₁ := ⟨hl.node, hl.distinct, hl.job⟩
    obtain hzero | hfd := hfd
    · rw [lost_newConnection hzero] at hlost
      cases hlost
    · obtain ⟨hl', hw'⟩ := hl₁.newConnection hfd
      exact ⟨⟨hl'.node, hl'.distinct, hl'.job⟩, hw' (Option.some_ne_none _) hw⟩

theorem raised_startTasksLoop : ∀ {paths : List (List UInt8)} {b : Browser} {fds fds' : List (Option ℕ)},
    b.FreshAll fds → startTasksLoop lib h paths b fds = .ok (b', fds') →
      Raised b b' ∧ b'.FreshAll fds' := by
  intro paths
  induction paths with
  | nil =>
    intro b fds fds' hfds hloop
    cases hloop
    exact ⟨.refl, hfds⟩
  | cons path paths ih =>
    intro b fds fds' hfds hloop
    rw [startTasksLoop] at hloop
    cases ht : b.downloadTasks h with
    | none =>
      simp only [ht] at hloop
      cases hloop
    | some tasks =>
      simp only [ht] at hloop
      split_ifs at hloop with hroom
      · obtain ⟨b₁, hstart, hloop⟩ := bind_eq_ok.mp hloop
        obtain ⟨hr, hfds₁⟩ := raised_startTask hfds hstart
        obtain ⟨hr', hfds'⟩ := ih hfds₁ hloop
        exact ⟨hr.trans hr', hfds'⟩
      · cases hloop
        exact ⟨.refl, hfds⟩

/-- **`browser_start_tasks`, for every host.** -/
theorem raised_startAll : ∀ {order : List (List UInt8)} {b : Browser} {fds : List (Option ℕ)},
    b.FreshAll fds → startAll lib order b fds = .ok b' → Raised b b' := by
  intro order
  induction order with
  | nil =>
    intro b fds hfds hall
    cases hall
    exact .refl
  | cons k order ih =>
    intro b fds hfds hall
    obtain ⟨⟨b₁, fds₁⟩, hstart, hall⟩ := bind_eq_ok.mp hall
    rw [startTasks] at hstart
    cases ht : b.downloadTasks k with
    | none =>
      rw [ht] at hstart
      cases hstart
    | some tasks =>
      rw [ht] at hstart
      obtain ⟨hr, hfds₁⟩ := raised_startTasksLoop hfds hstart
      exact hr.trans (ih hfds₁ hall)

/-- **The connection of the document** is at an object, or out of the table. -/
theorem ages_keepDocument (hi : b.sockd i ≠ 0) (h : b.keepDocument i fd = .ok b') :
    Ages b b' ∧ b'.sockd = b.sockd ∧ b'.made = b.made := by
  obtain ⟨⟨b₁, r⟩, hreuse, hrest⟩ := bind_eq_ok.mp h
  obtain ⟨tasks, _, ⟨_, rfl, rfl⟩ | ⟨path, pending, _, rfl, rfl⟩⟩ := reuse_cases hreuse
  · cases hrest
    exact ⟨ages_steal hi, rfl, rfl⟩
  · have ha : Ages b (b.ask i tasks path pending fd) := ages_ask hi
    have hcell : (b.ask i tasks path pending fd).sockd = b.sockd := by
      show (b.setConn i _).sockd = b.sockd
      rw [sockd_setConn, download_sockd hi]
      exact Function.update_eq_self ..
    simp only [if_true] at hrest
    split at hrest
    · cases hrest
    · cases hrest
      exact ⟨⟨ha.made, ha.cells, ha.fds, ha.nodes, ha.keyed, ha.lost, ha.mono⟩, hcell, rfl⟩

theorem Linked.keepDocument (hl : Linked b) {m : Node ℕ ℕ} (hm : m ∈ b.connections)
    (hnone : b.job m.value = none) (h : b.keepDocument m.value fd = .ok b') :
    Linked b' ∧ (WorkingBut b m.value → Working b') := by
  obtain ⟨⟨b₁, r⟩, hreuse, hrest⟩ := bind_eq_ok.mp h
  obtain ⟨tasks, _, ⟨_, rfl, rfl⟩ | ⟨path, pending, _, rfl, rfl⟩⟩ := reuse_cases hreuse
  · cases hrest
    refine hl.drop hm rfl ?_ (fun _ _ => rfl) (fun _ _ => rfl) hnone
    show steal b₁.sockd (b₁.sockd m.value) b₁.connections = _
    rw [← (hl.node m hm).2.2.1]
  · obtain ⟨hl', hw'⟩ : Linked (b.ask m.value tasks path pending fd) ∧
        (WorkingBut b m.value → Working (b.ask m.value tasks path pending fd)) := hl.ask hm
    simp only [if_true] at hrest
    split at hrest
    · cases hrest
    · cases hrest
      exact ⟨⟨hl'.node, hl'.distinct, hl'.job⟩, hw'⟩

/-- The table and its cells are the same. -/
theorem raised_of_eq (hconn : b'.conn = b.conn) (hmade : b'.made = b.made)
    (hconnections : b'.connections = b.connections) (hlost : b'.lost = b.lost) : Raised b b' := by
  have hcell : b'.sockd = b.sockd := by
    funext j
    rw [sockd, hconn]
    rfl
  have hjob : b'.job = b.job := by
    funext j
    rw [job, hconn]
    rfl
  refine ⟨⟨hmade.ge, fun j _ => .inl (congrFun hcell j), fun j hle hlt => ?_, fun n hn _ _ => ?_,
    fun hk n hn => ?_, fun _ h => .inl (hlost ▸ h), fun h => hlost ▸ h⟩, fun _ hl hw => ⟨?_, fun n hn => ?_⟩⟩
  · rw [hmade] at hlt
    exact absurd hlt (Nat.not_lt.mpr hle)
  · exact ⟨n, hconnections ▸ hn, rfl, rfl⟩
  · rw [hmade, hcell]
    exact hk n (hconnections ▸ hn)
  · refine hl.of_job hconnections hmade hcell fun i hi hne => hl.job i hi ?_
    rwa [hjob] at hne
  · rw [hjob]
    exact hw n (hconnections ▸ hn)

theorem FreshAll.of_sockd {fds : List (Option ℕ)} (hfds : b.FreshAll fds) (hcell : b'.sockd = b.sockd)
    (hmade : b'.made = b.made) : b'.FreshAll fds := by
  refine ⟨fun fd hfd => ⟨(hfds.1 fd hfd).1, ?_⟩, hfds.2⟩
  rw [hmade, hcell]
  exact (hfds.1 fd hfd).2

/-- **`browser_downloaded_document`.** -/
theorem ages_downloadedDocument {content : List UInt8} {order : List (List UInt8)} {fds : List (Option ℕ)}
    (he : Early lib b) (hs : Sane lib b) (hfds : b.FreshAll fds) (hi : b.sockd i ≠ 0)
    (h : b.downloadedDocument lib i content order fds = .ok b') : Ages b b' := by
  obtain ⟨⟨b₁, n⟩, hget, h⟩ := bind_eq_ok.mp h
  obtain ⟨b₂, hkeep, h⟩ := bind_eq_ok.mp h
  have hsame := (getEmbeddedObjects_spec he hs hget).same
  have hcell : b₁.sockd = b.sockd := by
    rw [hsame]
    rfl
  have hr₁ : Raised b { b₁ with documentSize := (b₁.conn i).fg.curstats.bodyBytesDownloaded } :=
    raised_of_eq (by rw [hsame]) (by rw [hsame]) (by rw [hsame]) (by rw [hsame])
  have hi₁ : b₁.sockd i ≠ 0 := by rwa [hcell]
  obtain ⟨ha₂, hcell₂, hmade₂⟩ := ages_keepDocument
    (b := { b₁ with documentSize := (b₁.conn i).fg.curstats.bodyBytesDownloaded }) hi₁ hkeep
  have ha := hr₁.ages.trans ha₂
  split_ifs at h with hzero
  · cases h
    exact ⟨ha.made, ha.cells, ha.fds, ha.nodes, ha.keyed, ha.lost, ha.mono⟩
  · have hfds₃ : FreshAll { b₂ with
        state := .embeddedObjects
        embeddedDownloadsExpected := n
        embeddedDownloadsCompleted := 0 } fds :=
      hfds.of_sockd (hcell₂.trans hcell) (hmade₂.trans (by rw [hsame]))
    refine Ages.trans ?_ (raised_startAll hfds₃ h).ages
    exact ⟨ha.made, ha.cells, ha.fds, ha.nodes, ha.keyed, ha.lost, ha.mono⟩

theorem Linked.downloadedDocument {content : List UInt8} {order : List (List UInt8)}
    {fds : List (Option ℕ)} (hl : Linked b) (he : Early lib b) (hs : Sane lib b) (hfds : b.FreshAll fds)
    {m : Node ℕ ℕ} (hm : m ∈ b.connections)
    (h : b.downloadedDocument lib m.value content order fds = .ok b') (hlost : b'.lost = false) :
    Linked b' ∧ Working b' := by
  have hzero : ∀ n ∈ b.connections, n.value = 0 := by
    intro n hn
    have hlt := (hl.node n hn).2.1
    rw [he.made] at hlt
    exact Nat.lt_one_iff.mp hlt
  -- The only connection is that of the document.
  have hw : WorkingBut b m.value := fun n hn hne => absurd ((hzero n hn).trans (hzero m hm).symm) hne
  obtain ⟨⟨b₁, n⟩, hget, h⟩ := bind_eq_ok.mp h
  obtain ⟨b₂, hkeep, h⟩ := bind_eq_ok.mp h
  have hsame := (getEmbeddedObjects_spec he hs hget).same
  have hcell : b₁.sockd = b.sockd := by
    rw [hsame]
    rfl
  have hjob : b₁.job = b.job := by
    rw [hsame]
    rfl
  have hconns : b₁.connections = b.connections := by rw [hsame]
  set b₁' : Browser := { b₁ with documentSize := (b₁.conn m.value).fg.curstats.bodyBytesDownloaded }
    with hb₁'
  have hl₁ : Linked b₁' := by
    refine hl.of_job hconns (by rw [hb₁', hsame]) hcell fun i hi hne => hl.job i hi ?_
    rwa [show b₁'.job = b.job from hjob] at hne
  have hw₁ : WorkingBut b₁' m.value := by
    intro n hn hne
    rw [show b₁'.job = b.job from hjob]
    exact hw n (hconns ▸ hn) hne
  have hm₁ : m ∈ b₁'.connections := hconns ▸ hm
  obtain ⟨hl₂, hw₂⟩ := hl₁.keepDocument hm₁ ((congrFun hjob m.value).trans (he.job m.value)) hkeep
  have hpos : b₁'.sockd m.value ≠ 0 := by
    have := (hl₁.node m hm₁).2.2.2
    omega
  obtain ⟨_, hcell₂, hmade₂⟩ := ages_keepDocument hpos hkeep
  split_ifs at h with hcount
  · cases h
    exact ⟨⟨hl₂.node, hl₂.distinct, hl₂.job⟩, hw₂ hw₁⟩
  · have hfds₃ : FreshAll { b₂ with
        state := .embeddedObjects
        embeddedDownloadsExpected := n
        embeddedDownloadsCompleted := 0 } fds :=
      hfds.of_sockd (hcell₂.trans hcell) (hmade₂.trans (by rw [hb₁', hsame]))
    exact (raised_startAll hfds₃ h).linked hlost ⟨hl₂.node, hl₂.distinct, hl₂.job⟩ (hw₂ hw₁)

/-! ### The table in every state -/

/-- The table is linked, or a connection is lost and a dead node tells of it. -/
structure Table (b : Browser) : Prop where
  keyed : Keyed b
  fds : ∀ i < b.made, b.sockd i = 0 ∨ 2 < b.sockd i
  spoilt : b.lost = true → Spoilt b
  linked : b.lost = false → Linked b

theorem Table.ages (ht : Table b) (ha : Ages b b') (hl : b'.lost = false → Linked b') : Table b' where
  keyed := ha.keyed ht.keyed
  fds i hi := by
    by_cases hlt : i < b.made
    · obtain heq | hzero := ha.cells i hlt
      · rw [heq]
        exact ht.fds i hlt
      · exact .inl hzero
    · exact ha.fds i (Nat.not_lt.mp hlt) hi
  spoilt hlost := (ha.lost ht.keyed hlost).elim (fun h => ha.spoilt ht.keyed (ht.spoilt h)) id
  linked := hl

/-- The node that is found is that of its own connection. -/
theorem Table.node (ht : Table b) {m : Node ℕ ℕ} (hm : m ∈ b.connections) (hmatch : m.Matches b.sockd k)
    (hk : k ≠ 0) : m.key = m.value ∧ b.sockd m.value = k ∧ m.hash = k ∧ 2 < k := by
  obtain ⟨hlt, hkey⟩ := ht.keyed m hm
  have hlarge : 2 < k := by
    have := ht.fds m.key hlt
    rw [hmatch.2] at this
    exact this.resolve_left hk
  have hkey := hkey.resolve_right fun hzero => hk (hmatch.2.symm.trans hzero)
  exact ⟨hkey, hkey ▸ hmatch.2, hmatch.1.trans (realHash_of_lt hlarge), hlarge⟩

section returned

variable {code : FilegetterCode} {fg : Getter} {m : Node ℕ ℕ}

theorem sockd_returned (b : Browser) (i : ℕ) :
    (b.returned i code fg).sockd = Function.update b.sockd i fg.sockd :=
  sockd_setConn (b := b) { b.conn i with fg := fg }

/-- Nothing is lost while the file getter keeps its socket. -/
theorem lost_returned (h : (b.returned i code fg).lost = false) :
    b.lost = false ∧ code ≠ .errFatal ∧ (b.returned i code fg).sockd = b.sockd := by
  have h : ((b.lost || decide (code = .errFatal)) || decide (fg.sockd ≠ b.sockd i)) = false := h
  simp only [Bool.or_eq_false_iff, decide_eq_false_iff_not, not_not] at h
  refine ⟨h.1.1, h.1.2, ?_⟩
  rw [sockd_returned, h.2]
  exact Function.update_eq_self ..

/-- **A file getter has been activated**: if it died or has another socket, its node is dead. -/
theorem Table.returned (ht : Table b) (hm : m ∈ b.connections) (hmatch : m.Matches b.sockd k)
    (hk : k ≠ 0) (hret : (b.conn m.value).fg.Returns code fg)
    (hfd : fg.sockd = 0 ∨ fg.sockd = b.sockd m.value ∨ b.Fresh fg.sockd) :
    Table (b.returned m.value code fg) := by
  obtain ⟨hkey, hsock, hhash, hlarge⟩ := ht.node hm hmatch hk
  have hcell : (b.returned m.value code fg).sockd = Function.update b.sockd m.value fg.sockd :=
    sockd_returned b m.value
  have hself : (b.returned m.value code fg).sockd m.key = fg.sockd := by
    rw [hcell, hkey, Function.update_self]
  have hsame : fg.sockd = b.sockd m.value → (b.returned m.value code fg).sockd = b.sockd := by
    intro heq
    rw [hcell, heq]
    exact Function.update_eq_self ..
  -- a node without its socket is dead, and every other one is as it was
  refine ⟨fun n hn => ⟨(ht.keyed n hn).1, ?_⟩, fun i hi => ?_, fun hlost => ?_, fun hlost => ?_⟩
  · by_cases hnm : n.key = m.value
    · -- The cell is not empty, so the node is that of the connection.
      refine .inl ((ht.keyed n hn).2.resolve_right fun hzero => hk ?_)
      rw [← hsock, ← hnm, hzero]
    · refine (ht.keyed n hn).2.imp_right fun hzero => ?_
      rw [hcell, Function.update_of_ne hnm, hzero]
  · rw [hcell]
    by_cases him : i = m.value
    · rw [him, Function.update_self]
      obtain hzero | heq | hfresh := hfd
      · exact .inl hzero
      · rw [heq, hsock]
        exact .inr hlarge
      · exact .inr hfresh.1
    · rw [Function.update_of_ne him]
      exact ht.fds i hi
  · by_cases hgone : fg.sockd = 0
    · exact ⟨m, hm, .inl (hself.trans hgone)⟩
    · obtain heq | hne := eq_or_ne fg.sockd (b.sockd m.value)
      · -- The socket is the same, so the connection was lost before.
        have hlost : ((b.lost || decide (code = .errFatal)) || decide (fg.sockd ≠ b.sockd m.value)) = true :=
          hlost
        have hcode : code ≠ .errFatal := by
          rintro rfl
          cases hret with
          | answered _ hans =>
            obtain h | h := hans <;> cases h
          | refused _ href =>
            obtain h | h := href <;> cases h
          | fatal _ _ hzero => exact hgone hzero
        simp only [Bool.or_eq_true, decide_eq_true_eq, heq, ne_eq, not_true_eq_false, or_false] at hlost
        obtain ⟨n, hn, hdead⟩ := ht.spoilt (hlost.resolve_right hcode)
        exact ⟨n, hn, by rwa [hsame heq]⟩
      · -- The node keeps the hash of the socket that the connection had.
        have hfresh := (hfd.resolve_left hgone).resolve_left hne
        refine ⟨m, hm, .inr fun hsound => hne ?_⟩
        rw [Node.Sound, hself, realHash_of_lt hfresh.1, hhash] at hsound
        rw [← hsound, hsock]
  · obtain ⟨hlost, _, hcells⟩ := lost_returned hlost
    have hl := ht.linked hlost
    have hjob := job_setConn (b := b) (i := m.value) (c := { b.conn m.value with fg := fg }) rfl
    exact hl.of_job rfl rfl hcells fun i hi hne => hl.job i hi (hjob ▸ hne)

theorem freshAll_returned {fds : List (Option ℕ)} (hfds : b.FreshAll fds)
    (hne : ∀ fd, some fd ∈ fds → fd ≠ fg.sockd) : (b.returned i code fg).FreshAll fds := by
  refine ⟨fun fd hfd => ⟨(hfds.1 fd hfd).1, fun j hj => ?_⟩, hfds.2⟩
  rw [sockd_returned]
  by_cases hji : j = i
  · rw [hji, Function.update_self]
    exact (hne fd hfd).symm
  · rw [Function.update_of_ne hji]
    exact (hfds.1 fd hfd).2 j hj

end returned

/-- A connection that is not at an object has nothing to be answered. -/
theorem answered_of_none (h : b.job i = none) : b.answered i = b := by
  have hc : ({ b.conn i with job := none } : Connection) = b.conn i := by
    rw [← h]
    rfl
  rw [answered, hc, setConn, Function.update_eq_self]

/-- **The document fails**: its connection is taken out of the table, unless it is lost. -/
theorem Table.giveUp {m : Node ℕ ℕ} (ht : Table b) (he : Early lib b) (hm : m ∈ b.connections)
    (hk : 2 < m.hash) (hcell : b.sockd m.value = m.hash ∨ b.sockd m.value = 0 ∧ b.lost = true)
    (hkey : m.key = m.value) : Table (b.giveUp m.value (b.sockd m.value)) ∧
      (b.lost = false → (b.giveUp m.value (b.sockd m.value)).connections = []) := by
  obtain heq | ⟨hzero, hlost⟩ := hcell
  · have hpos : b.sockd m.value ≠ 0 := by omega
    have hanswered := answered_of_none (he.job m.value)
    refine ⟨ht.ages (ages_giveUp hpos) fun hlost => ?_, fun hlost => ?_⟩
    · have hl := (ht.linked hlost).giveUp hm
      rw [hanswered] at hl
      rw [heq]
      exact hl.1
    · -- The only connection is that of the document.
      have hl := ht.linked hlost
      rw [heq]
      refine List.eq_nil_iff_forall_not_mem.mpr fun n hn => ?_
      obtain ⟨hn, hne⟩ := (hl.mem_steal hm).mp hn
      refine hne (hl.hash_eq hn hm ?_)
      have hn := (hl.node n hn).2.1
      have hm := (hl.node m hm).2.1
      rw [he.made] at hn hm
      omega
  · -- The file getter has died: its node has another hash than the key 0.
    have hstay : m ∈ steal b.sockd 0 b.connections := by
      refine (List.mem_eraseP_of_neg ?_).mpr hm
      intro hmatch
      rw [(of_decide_eq_true hmatch).1] at hk
      exact absurd hk (by decide)
    have hshut := ages_shut (b.stealConnection 0) m.value
    rw [hzero]
    refine ⟨⟨?_, fun i hi => ?_, fun _ => ⟨m, hstay, .inl ?_⟩, fun hnot => ?_⟩, fun hnot => ?_⟩
    · refine hshut.keyed fun n hn => ht.keyed n (List.mem_of_mem_eraseP hn)
    · obtain h | h := hshut.cells i hi
      · rw [show (b.giveUp m.value 0).sockd i = b.sockd i from h]
        exact ht.fds i hi
      · exact .inl h
    · rw [Browser.giveUp, sockd_setConn, hkey, Function.update_self]
      rfl
    · rw [show (b.giveUp m.value 0).lost = b.lost from rfl, hlost] at hnot
      cases hnot
    · rw [hlost] at hnot
      cases hnot

end Browser

end BrowserPlugin

end ShadowBrowser
