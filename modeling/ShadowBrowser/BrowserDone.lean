/-
When the browser is done.

`browser_activate` sets `SB_SUCCESS` when the table of connections is empty (`BrowserTable` says what is
left in it).

* `Settled` — **the table in each state of the browser**, kept by every step;
* **`success_iff`** — the browser is done if and only if nothing is in flight and no connection is lost;
  what is then left of the objects are paths of hosts all of whose connections have failed;
* **`lost_for_ever`** — once a connection is lost the browser is never done.
-/
import ShadowBrowser.BrowserTable

namespace ShadowBrowser

open CellTable Checked FileTransfer Runs Texts WorkerPool

namespace BrowserPlugin

namespace Browser

variable {lib : Libraries} {b b' b'' : Browser} {i k n : ℕ} {h : List UInt8} {fd : Option ℕ} {t : Task}
  {tasks : DownloadTasks} {limit : ℤ} {host : List UInt8}

/-- What is known of the table in each state. -/
structure Settled (b : Browser) : Prop where
  table : b.state ≠ .failure → Table b
  working : b.state = .embeddedObjects → b.lost = false → Working b
  asleep : b.state = .hibernate → b.lost = false → b.connections = []
  full : b.state = .embeddedObjects → 0 < b.maxConcurrentDownloads → b.connections ≠ []
  done : b.state = .success → b.objects ≠ [] → b.lost = false ∧ b.connections = []

/-! ### The start, and the sleep -/

/-- **`browser_launch`.** -/
theorem settled_launch {path : List UInt8} {port : ℕ} (hfd : ∀ k, fd = some k → 2 < k)
    (h : launch lib host port path limit fd = .ok b) : Settled b := by
  rw [launch] at h
  cases hc : ({ firstHostname := host, maxConcurrentDownloads := limit : Browser }.initHost
      lib host).prepareFilegetter lib host port path fd with
  | none =>
    rw [hc] at h
    cases h
  | some c =>
    rw [hc] at h
    cases h
    obtain ⟨_, _, _, rfl⟩ := prepare_spec hc
    rw [initHost_of_none rfl]
    set b₀ : Browser := { ({ firstHostname := host, maxConcurrentDownloads := limit } : Browser) with
      hosts := [] ++ [host] }.setTasks host { reachable := lib.resolves host } with hb₀
    set c : Connection := {
      httpHostname := host.take strSize
      remotePath := path.take strSize
      saveToMemory := b₀.state = .document
      fg := Getter.start.download fd } with hc
    have hl₀ : Linked b₀ :=
      ⟨fun n hn => absurd hn List.not_mem_nil, List.nodup_nil, fun i hi => absurd hi (Nat.not_lt_zero i)⟩
    have ht₀ : Table b₀ :=
      ⟨fun n hn => absurd hn List.not_mem_nil, fun i hi => absurd hi (Nat.not_lt_zero i),
        fun hlost => absurd hlost Bool.false_ne_true, fun _ => hl₀⟩
    have hsockd : c.fg.sockd = fd.getD 0 := sockd_start fd
    have hfresh : c.fg.sockd = 0 ∨ b₀.Fresh c.fg.sockd := by
      rw [hsockd]
      cases hd : fd with
      | none => exact .inl rfl
      | some k => exact .inr ⟨hfd k hd, fun i hi => absurd hi (Nat.not_lt_zero i)⟩
    have hst : (b₀.newConnection c).state = .document := (newConnection_same b₀ c).1
    have ht : Table (b₀.newConnection c) := by
      refine ht₀.ages (ages_newConnection hfresh) fun hlost => ?_
      refine (hl₀.newConnection (hfresh.resolve_left fun hzero => ?_)).1
      rw [lost_newConnection hzero] at hlost
      cases hlost
    refine ⟨fun _ => ht, fun h => ?_, fun h => ?_, fun h => ?_, fun h => ?_⟩ <;>
      (rw [hst] at h; cases h)

/-- **`browser_wakeup`**: whatever was left in the table is now dead. -/
theorem Settled.wakeup (hs : Settled b) (hinv : Inv lib limit host b) (hsleep : b.sleeping = true)
    (hfd : ∀ k, fd = some k → b.Fresh k) : Settled (b.wakeup fd) := by
  have hst := hinv.asleep hsleep
  have he : Early lib b := hinv.early (by rintro (h | h) <;> rw [hst] at h <;> cases h)
  have ht := hs.table (by rw [hst]; intro h; cases h)
  -- the document's connection is the only one made, and its socket the only one written
  have hdoc : b.docConn = 0 := he.doc
  have hcell : (b.restart fd).sockd = Function.update b.sockd 0 (fd.getD 0) := by
    show (b.setConn b.docConn _).sockd = _
    rw [sockd_setConn, hdoc, sockd_start]
  have hself : (b.restart fd).sockd 0 = fd.getD 0 := by rw [hcell, Function.update_self]
  have hzero : ∀ n ∈ b.connections, n.key = 0 ∧ n.value = 0 := by
    intro n hn
    have hkey := (ht.keyed n hn).1
    have hvalue := hinv.sane.values n hn
    rw [he.made] at hkey hvalue
    exact ⟨Nat.lt_one_iff.mp hkey, Nat.lt_one_iff.mp hvalue⟩
  have hmade : (b.restart fd).made = 1 := he.made
  have hk : Keyed (b.restart fd) := by
    intro n hn
    obtain ⟨hkey, hvalue⟩ := hzero n hn
    rw [hmade, hkey, hvalue]
    exact ⟨Nat.one_pos, .inl rfl⟩
  have ha : Ages (b.restart fd) ((b.restart fd).insertConnection 0) :=
    ages_insertConnection (by rw [hmade]; exact Nat.one_pos) fun n hn _ => .inl (hzero n hn).1
  have hlost : ((b.restart fd).insertConnection 0).lost = (b.lost || decide (fd = none)) :=
    lost_insertConnection ..
  have hwake : b.wakeup fd = { (b.restart fd).insertConnection 0 with state := .document } := by
    rw [Browser.wakeup, hdoc]
  have htable : Table ((b.restart fd).insertConnection 0) := by
    refine ⟨ha.keyed hk, fun i hi => ?_, fun h => ?_, fun h => ?_⟩
    · -- a socket is the one that came, or it has been freed
      rw [(frame_insertConnection (b.restart fd) 0).made] at hi
      obtain rfl := Nat.lt_one_iff.mp (Nat.lt_of_lt_of_eq hi hmade)
      obtain heq | h := sockd_insertConnection (b.restart fd) 0 0
      · rw [heq, hself]
        cases hd : fd with
        | none => exact .inl rfl
        | some k => exact .inr (hfd k hd).1
      · exact .inl h
    · -- a connection that has been lost leaves a node that cannot be found
      rw [hlost] at h
      cases hd : fd with
      | none =>
        refine spoilt_insertConnection ?_
        rw [← hd, hself, hd]
        rfl
      | some k =>
        rw [hd] at h
        obtain ⟨n, hn, _⟩ := ht.spoilt (by simpa using h)
        rw [← hd]
        by_cases hmatch : n.Matches (b.restart fd).sockd ((b.restart fd).sockd 0)
        · -- It has the hash of the new socket: it is found, and its connection is shut down.
          obtain ⟨m, hm, _, hkey⟩ : ∃ m ∈ CellTable.insert (b.restart fd).sockd 0 0 b.connections,
              m.hash = n.hash ∧ m.key = n.key := exists_mem_insert hn
          refine ⟨m, by rwa [connections_insertConnection], .inl ?_⟩
          rw [hkey, (hzero n hn).1, insertConnection]
          cases hlook : CellTable.lookup (b.restart fd).sockd ((b.restart fd).sockd 0)
              (b.restart fd).connections with
          | none => exact absurd hmatch (lookup_eq_none.mp hlook n hn)
          | some j =>
            obtain ⟨n', hn', _, rfl⟩ := exists_of_lookup hlook
            show (((b.restart fd).inserted 0).setConn n'.value _).sockd 0 = 0
            rw [sockd_setConn, (hzero n' hn').2, Function.update_self]
            rfl
        · -- It has another hash.
          refine ha.spoilt hk ⟨n, hn, .inr fun hsound => hmatch ?_⟩
          have := hsound.matches
          rwa [(hzero n hn).1] at this
    · -- nothing is lost: the table holds the new node alone
      rw [hlost] at h
      obtain ⟨hlost', hsome⟩ := Bool.or_eq_false_iff.mp h
      obtain ⟨k, hd⟩ := Option.ne_none_iff_exists'.mp (of_decide_eq_false hsome)
      have hnil : (b.restart fd).connections = [] := hs.asleep hst hlost'
      have hk : (b.restart fd).sockd 0 = k := by
        rw [hself, hd]
        rfl
      have hnew : (b.restart fd).insertConnection 0 = (b.restart fd).inserted 0 := by
        rw [insertConnection, hnil]
        rfl
      have hconn : ((b.restart fd).insertConnection 0).connections = [⟨k, 0, 0⟩] := by
        rw [connections_insertConnection, hnil, CellTable.insert, hk, realHash_of_lt (hfd k hd).1]
      refine ⟨fun n hn => ?_, ?_, fun i hi hne => ?_⟩
      · rw [hconn] at hn
        obtain rfl := List.mem_singleton.mp hn
        rw [hnew]
        refine ⟨rfl, ?_, hk.symm, ?_⟩
        · show 0 < (b.restart fd).made
          rw [hmade]
          exact Nat.one_pos
        · show 2 < (b.restart fd).sockd 0
          rw [hk]
          exact (hfd k hd).1
      · rw [hconn]
        exact List.nodup_singleton _
      · rw [(frame_insertConnection (b.restart fd) 0).job] at hne
        refine absurd ?_ hne
        show ((b.restart fd).conn i).job = none
        have hjob := job_setConn (b := b) (i := b.docConn)
          (c := { b.conn b.docConn with fg := Getter.start.download fd }) rfl
        exact (congrFun hjob i).trans (he.job i)
  rw [hwake]
  refine ⟨fun _ => ⟨htable.keyed, htable.fds, htable.spoilt, fun h => ?_⟩, fun h => ?_, fun h => ?_,
    fun h => ?_, fun h => ?_⟩
  · have hl := htable.linked h
    exact ⟨hl.node, hl.distinct, hl.job⟩
  all_goals cases h

/-! ### Activations -/

section activate

variable {sockfd : ℕ} {code : FilegetterCode} {fg : Getter} {m : Node ℕ ℕ} {content : List UInt8}
  {order : List (List UInt8)} {fds : List (Option ℕ)}

/-- **A file getter has been activated.** -/
theorem Settled.returned (hs : Settled b) (hm : m ∈ b.connections) (hmatch : m.Matches b.sockd k)
    (hk : k ≠ 0) (hret : (b.conn m.value).fg.Returns code fg)
    (hfd : fg.sockd = 0 ∨ fg.sockd = b.sockd m.value ∨ b.Fresh fg.sockd) :
    Settled (b.returned m.value code fg) where
  table hst := (hs.table hst).returned hm hmatch hk hret hfd
  working hst hlost := by
    have hw := hs.working hst (lost_returned hlost).1
    intro n hn
    rw [(frame_returned hret).job]
    exact hw n hn
  asleep hst hlost := hs.asleep hst (lost_returned hlost).1
  full := hs.full
  done hst hne := by
    -- When the browser is done there is no connection to be activated.
    rw [(hs.done hst hne).2] at hm
    exact absurd hm List.not_mem_nil

/-- A node that is found is found after its activation too, unless its connection is lost. -/
theorem Table.found (ht : Table b) (hm : m ∈ b.connections) (hmatch : m.Matches b.sockd k) (hk : k ≠ 0)
    (hret : (b.conn m.value).fg.Returns code fg) :
    m.key = m.value ∧ m.hash = k ∧ 2 < k ∧
      (code = .ok200 ∨ code = .err404 → (b.returned m.value code fg).sockd m.value ≠ 0) ∧
      (code = .errSocksconn → (b.returned m.value code fg).sockd m.value = k) ∧
      (code = .errFatal → (b.returned m.value code fg).sockd m.value = 0 ∧
        (b.returned m.value code fg).lost = true) := by
  obtain ⟨hkey, hsock, hhash, hlarge⟩ := ht.node hm hmatch hk
  have hself : (b.returned m.value code fg).sockd m.value = fg.sockd := by
    rw [sockd_returned, Function.update_self]
  refine ⟨hkey, hhash, hlarge, fun hcode => ?_, fun hcode => ?_, fun hcode => ?_⟩
  · rw [hself]
    exact (returns_busy hret hcode).2.2
  · subst hcode
    rw [hself]
    cases hret with
    | answered _ hans =>
      obtain h | h := hans <;> cases h
    | refused _ _ _ hsame => exact hsame.trans hsock
  · subst hcode
    rw [hself]
    cases hret with
    | answered _ hans =>
      obtain h | h := hans <;> cases h
    | refused _ href =>
      obtain h | h := href <;> cases h
    | fatal _ _ hzero =>
      refine ⟨hzero, ?_⟩
      show ((b.lost || decide (FilegetterCode.errFatal = .errFatal)) || _) = true
      rw [decide_eq_true rfl, Bool.or_true, Bool.true_or]

/-- The table has the connections of a document that has begun. -/
theorem Begun.full (hb : Begun b) (ht : Table b) (hl : Loaded b) (hst : b.state = .embeddedObjects)
    (hlimit : 0 < b.maxConcurrentDownloads) : b.connections ≠ [] := by
  obtain ⟨h, _⟩ | ⟨_, hne, hcompleted, hnotFound, hfailed⟩ := hb
  · rw [hst] at h
    cases h
  obtain ⟨p, hstart, _, hsteps⟩ := hl.pool
  have hkept := kept_of_steps hsteps hstart.kept
  have hasked : b.asked.Perm b.pool.inFlight := by
    have h := hkept.accounted
    rw [show b.pool.completed = [] from hcompleted, show b.pool.missing = [] from hnotFound,
      show b.pool.failed = [] from hfailed] at h
    exact h
  -- Something is in flight: what was asked for has no answer yet.
  have hflight : b.pool.inFlight ≠ [] := by
    intro hnil
    obtain ⟨t, ht⟩ := List.exists_mem_of_ne_nil _ hne
    have hq := hkept.queues t.1
    have hnil' : b.pool.asked = [] := (hnil ▸ hasked).eq_nil
    rw [hnil', atKey_nil, List.nil_append] at hq
    have hpending : b.pool.pending t.1 ≠ [] := by
      rw [hq]
      exact List.ne_nil_of_mem (mem_atKey.mpr ht)
    have hroom := hl.hired t.1 hpending
    have hbusy := (hkept.staffed t.1).noneIdle hpending
    rw [Pool.busy, hnil, show b.pool.failed = [] from hfailed, atKey_nil, List.length_nil] at hbusy
    omega
  obtain ⟨t, hmem⟩ := List.exists_mem_of_ne_nil _ hflight
  obtain ⟨i, hi, hjob⟩ := List.mem_filterMap.mp hmem
  cases hlost : b.lost with
  | true =>
    obtain ⟨n, hn, _⟩ := ht.spoilt hlost
    exact List.ne_nil_of_mem hn
  | false =>
    obtain ⟨n, hn, _⟩ := (ht.linked hlost).job i (List.mem_range.mp hi) (by
      rw [show b.job i = some t from hjob]
      exact Option.some_ne_none _)
    exact List.ne_nil_of_mem hn

theorem lost_free (h : b.free = .ok b') : b'.lost = b.lost := by
  obtain ⟨_, _, h⟩ := bind_eq_ok.mp h
  cases h
  have hfold : ∀ (ns : List (Node ℕ ℕ)) (b : Browser),
      (ns.foldl (fun b n => b.shutdownConnection n.value) b).lost = b.lost := by
    intro ns
    induction ns with
    | nil => exact fun _ => rfl
    | cons n ns ih => exact fun b => ih (b.shutdownConnection n.value)
  exact hfold b.connections b

/-- `SB_DOCUMENT`. -/
theorem settled_activateDocument (hs : Settled b) (hinv : Inv lib limit host b)
    (hst : b.state = .document) (hm : m ∈ b.connections)
    (hkey : m.key = m.value) (hlarge : 2 < m.hash)
    (hanswer : code = .ok200 ∨ code = .err404 → b.sockd m.value ≠ 0)
    (hsocks : code = .errSocksconn → b.sockd m.value = m.hash)
    (hfatal : code = .errFatal → b.sockd m.value = 0 ∧ b.lost = true)
    (hphase : code = .ok200 → (b.conn m.value).fg.phase ≠ .busy) (hfds : b.FreshAll fds)
    (horder : ∀ b' n, b.getEmbeddedObjects lib content = .ok (b', n) → order.Perm b'.hosts)
    (h : b.activateDocument lib m.value sockfd code content order fds = .ok b') :
    Settled b' ∧ (b.lost = true → b'.lost = true) := by
  have ht := hs.table (by rw [hst]; intro h; cases h)
  have he : Early lib b := hinv.early (by rintro (h | h) <;> rw [hst] at h <;> cases h)
  have hi := hinv.sane.values m hm
  rw [Browser.activateDocument] at h
  split_ifs at h with h200 h404 hfail hother
  · -- the document has come, and the table ages over what it starts
    have ha := ages_downloadedDocument he hinv.sane hfds (hanswer (.inl h200)) h
    have ht' : Table b' := ht.ages ha fun hlost =>
      ((ht.linked (ha.not_lost hlost)).downloadedDocument he hinv.sane hfds hm h hlost).1
    have hwork : b'.lost = false → Working b' := fun hlost =>
      ((ht.linked (ha.not_lost hlost)).downloadedDocument he hinv.sane hfds hm h hlost).2
    rw [he.made] at hi
    rw [Nat.lt_one_iff.mp hi] at h hphase
    obtain ⟨hl, _, _, hb, _⟩ := downloadedDocument_spec he hinv.sane (hphase h200) horder h
    refine ⟨⟨fun _ => ht', fun _ => hwork, fun hst' => ?_, fun hst' => hb.full ht' hl hst',
      fun hst' hne => ?_⟩, ha.mono⟩
    · obtain ⟨h, _⟩ | ⟨h, _⟩ := hb <;> rw [h] at hst' <;> cases hst'
    · obtain ⟨_, hnil⟩ | ⟨h, _⟩ := hb
      · exact absurd hnil hne
      · rw [h] at hst'
        cases hst'
  · cases h
    refine ⟨⟨fun _ => ⟨ht.keyed, ht.fds, ht.spoilt, fun hlost => ?_⟩, fun h => ?_, fun h => ?_,
      fun h => ?_, fun h => ?_⟩, id⟩
    · have hl := ht.linked hlost
      exact ⟨hl.node, hl.distinct, hl.job⟩
    all_goals cases h
  · -- the document's connection is given up, and its node taken out or dead
    cases h
    have hcell : b.sockd m.value = m.hash ∨ b.sockd m.value = 0 ∧ b.lost = true :=
      hfail.elim (fun h => .inr (hfatal h)) fun h => .inl (hsocks h)
    obtain ⟨ht', hnil⟩ := ht.giveUp he hm hlarge hcell hkey
    refine ⟨⟨fun _ => ⟨ht'.keyed, ht'.fds, ht'.spoilt, fun hlost => ?_⟩, fun h => ?_, fun _ => hnil,
      fun h => ?_, fun h => ?_⟩, id⟩
    · have hl := ht'.linked hlost
      exact ⟨hl.node, hl.distinct, hl.job⟩
    all_goals cases h
  · have hst' : b'.state = .failure := (frame_free h).state
    refine ⟨⟨fun hne => absurd hst' hne, fun h => ?_, fun h => ?_, fun h => ?_, fun h => ?_⟩,
      fun hlost => (lost_free h).trans hlost⟩ <;> (rw [hst'] at h; cases h)
  · cases h
    exact ⟨hs, id⟩

/-- `SB_EMBEDDED_OBJECTS`: when the table is empty, no connection is lost. -/
theorem settled_activateObject (hs : Settled b) (hst : b.state = .embeddedObjects) (hm : m ∈ b.connections)
    (hk : m.hash ≠ 0) (hanswer : code = .ok200 ∨ code = .err404 → b.sockd m.value ≠ 0)
    (hstate : b'.state = b.state) (h : b.activateObject m.value m.hash code fd = .ok b') :
    Settled b'.finishIfEmpty ∧ (b.lost = true → b'.finishIfEmpty.lost = true) := by
  have ht := hs.table (by rw [hst]; intro h; cases h)
  have ha := ages_activateObject hk hanswer h
  have hboth : b'.lost = false → Linked b' ∧ Working b' := fun hlost =>
    (ht.linked (ha.not_lost hlost)).activateObject (hs.working hst (ha.not_lost hlost)) hm h
  have ht' : Table b' := ht.ages ha fun hlost => (hboth hlost).1
  rw [finishIfEmpty]
  split_ifs with hzero
  · have hnil : b'.connections = [] := List.length_eq_zero_iff.mp hzero
    refine ⟨⟨fun _ => ⟨ht'.keyed, ht'.fds, ht'.spoilt, fun hlost => ?_⟩, fun h => ?_, fun h => ?_,
      fun h => ?_, fun _ _ => ⟨?_, hnil⟩⟩, ha.mono⟩
    · have hl := ht'.linked hlost
      exact ⟨hl.node, hl.distinct, hl.job⟩
    · cases h
    · cases h
    · cases h
    · -- A connection that is lost has left a node.
      show b'.lost = false
      by_contra hlost
      obtain ⟨n, hn, _⟩ := ht'.spoilt (by simpa using hlost)
      rw [hnil] at hn
      exact absurd hn List.not_mem_nil
  · refine ⟨⟨fun _ => ht', fun _ hlost => (hboth hlost).2, fun h => ?_,
      fun _ _ hnil => hzero (List.length_eq_zero_iff.mpr hnil), fun h => ?_⟩, ha.mono⟩ <;>
      (rw [hstate, hst] at h; cases h)

end activate

/-- **Every step keeps what is known of the table.** -/
theorem Settled.step {e : Event} (hs : Settled b) (hinv : Inv lib limit host b) (hstep : Steps lib b e b') :
    Settled b' ∧ (b.lost = true → b'.lost = true) := by
  obtain ⟨hpossible, h⟩ := hstep
  -- the node that is found is the one of the socket, and what it held is still in the table
  cases e with
  | activate sockfd code fg content order fds =>
    obtain ⟨hk, hfound, hfds, hne⟩ := hpossible
    cases hlook : CellTable.lookup b.sockd sockfd b.connections with
    | none =>
      obtain ⟨_, _, h⟩ := bind_eq_ok.mp h
      rw [hlook] at h
      cases h
      exact ⟨hs, id⟩
    | some i =>
      obtain ⟨hret, hfd, horder⟩ := hfound i hlook
      obtain ⟨m, hm, hmatch, rfl⟩ := exists_of_lookup hlook
      have h := activate_found hlook h
      have hf := frame_returned hret
      have hs₁ := hs.returned hm hmatch hk hret hfd
      have hlost : b.lost = true → (b.returned m.value code fg).lost = true := fun hlost => by
        show ((b.lost || decide (code = .errFatal)) || decide (fg.sockd ≠ b.sockd m.value)) = true
        rw [hlost, Bool.true_or, Bool.true_or]
      have hinv₁ := hinv.frame hf
      rw [activated] at h
      -- the table is only kept up while the browser loads
      cases hst : (b.returned m.value code fg).state with
      | document =>
        rw [hst] at h
        have hst₀ : b.state = .document := hst
        obtain ⟨hkey, hhash, hlarge, hanswer, hsocks, hfatal⟩ :=
          (hs.table (by rw [hst₀]; intro h; cases h)).found hm hmatch hk hret
        subst hhash
        refine (settled_activateDocument hs₁ hinv₁ hst hm hkey hlarge hanswer hsocks hfatal
          (fun hcode => ?_) (freshAll_returned hfds hne) horder h).imp_right (· ∘ hlost)
        rw [show ((b.returned m.value code fg).conn m.value).fg = fg from
          congrArg Connection.fg (setConn_self b m.value { b.conn m.value with fg := fg }),
          -- what has been downloaded in full is no longer busy
          (returns_busy hret (.inl hcode)).2.1]
        exact fun h => by cases h
      | embeddedObjects =>
        rw [hst] at h
        have hst₀ : b.state = .embeddedObjects := hst
        obtain ⟨_, hhash, _, hanswer, _⟩ :=
          (hs.table (by rw [hst₀]; intro h; cases h)).found hm hmatch hk hret
        subst hhash
        obtain ⟨b₁, hact, h⟩ := bind_eq_ok.mp h
        cases h
        refine (settled_activateObject hs₁ hst hm hk hanswer ?_ hact).imp_right (· ∘ hlost)
        refine (activateObject_spec hinv₁.sane (hinv₁.atWork hst) (hinv₁.sane.values m hm)
          (fun hcode => ⟨?_, ?_⟩) hact).1.state
        · rw [hf.job]
          exact hinv.atWork hst₀ m.value (hinv.sane.values m hm) (returns_busy hret hcode).1
        · rw [show ((b.returned m.value code fg).conn m.value).fg = fg from
            congrArg Connection.fg (setConn_self b m.value { b.conn m.value with fg := fg }),
            (returns_busy hret hcode).2.1]
          exact fun h => by cases h
      | hibernate =>
        rw [hst] at h
        cases h
        exact ⟨hs₁, hlost⟩
      | success =>
        rw [hst] at h
        cases h
        exact ⟨hs₁, hlost⟩
      | notFound =>
        rw [hst] at h
        cases h
        exact ⟨hs₁, hlost⟩
      | failure =>
        rw [hst] at h
        cases h
        exact ⟨hs₁, hlost⟩
  | wakeup fd =>
    cases h
    refine ⟨hs.wakeup hinv hpossible.1 hpossible.2, fun hlost => ?_⟩
    show ((b.restart fd).insertConnection b.docConn).lost = true
    rw [lost_insertConnection]
    show (b.lost || decide (fd = none)) = true
    rw [hlost, Bool.true_or]

/-! ### Runs -/

variable {path : List UInt8} {port : ℕ} {es es' : List Event}

theorem settled_of_run (hfd : ∀ k, fd = some k → 2 < k) (hl : launch lib host port path limit fd = .ok b)
    (hr : Run (Steps lib) b es b') : Settled b' :=
  (hr.invariant (P := fun c => Inv lib limit host c ∧ Settled c)
    (fun _ _ _ hi hs => ⟨hi.1.step hs.1 hs.2, (hi.2.step hi.1 hs).1⟩)
    ⟨inv_launch hl, settled_launch hfd hl⟩).2

/-- **When the browser is done**, if at least one connection may run: nothing is in flight, and no
connection is lost.  When nothing is in flight, what was asked for is completed, not found or failed, and
what is left are paths of hosts all of whose connections, as many as may run, have failed. -/
theorem success_iff (hfd : ∀ k, fd = some k → 2 < k) (hlimit : 0 < limit)
    (hl : launch lib host port path limit fd = .ok b) (hr : Run (Steps lib) b es b')
    (hdoc : b'.HasDocument) (hne : b'.objects ≠ []) :
    (b'.state = .success ↔ b'.inFlight = [] ∧ b'.lost = false) ∧
      (b'.inFlight = [] → b'.asked.Perm (b'.completed ++ b'.notFound ++ b'.failed) ∧
        ∀ h, b'.pool.pending h ≠ [] →
          (atKey h b'.failed).length = b'.pool.running h ∧ limit ≤ b'.pool.running h) := by
  have hinv := inv_of_run hl hr
  have hs := settled_of_run hfd hl hr
  have hlive : b'.state ≠ .failure := by
    intro h
    obtain hdoc | hdoc := hdoc <;> rw [hdoc] at h <;> cases h
  have ht := hs.table hlive
  refine ⟨⟨fun hst => ?_, fun ⟨hflight, hlost⟩ => ?_⟩, fun hflight => ⟨?_, fun h hpending => ?_⟩⟩
  · -- The table is empty, and whatever is in flight has a node in it.
    obtain ⟨hlost, hnil⟩ := hs.done hst hne
    refine ⟨List.filterMap_eq_nil_iff.mpr fun i hi => ?_, hlost⟩
    by_contra hjob
    obtain ⟨n, hn, _⟩ := (ht.linked hlost).job i (List.mem_range.mp hi) hjob
    rw [hnil] at hn
    exact absurd hn List.not_mem_nil
  · obtain hst | hst := hdoc
    · -- A connection in the table is at an object.
      obtain ⟨n, hn⟩ := List.exists_mem_of_ne_nil _ (hs.full hst (hinv.limit ▸ hlimit))
      refine absurd ?_ (hs.working hst hlost n hn)
      exact List.filterMap_eq_nil_iff.mp hflight n.value
        (List.mem_range.mpr ((ht.linked hlost).node n hn).2.1)
    · exact hst
  · have h := hinv.kept.accounted
    rw [show b'.pool.inFlight = [] from hflight, List.append_nil] at h
    exact h
  · obtain ⟨_, _, hfull⟩ := connections_bounded hl hr h
    obtain ⟨hsum, hroom⟩ := hfull hpending
    rw [Pool.busy, show b'.pool.inFlight = [] from hflight, atKey_nil, List.length_nil, Nat.zero_add] at hsum
    exact ⟨hsum, hroom⟩

/-- The page comes, then one image, and the other one is not there. -/
theorem twoImages_steps : ∃ b b₁ b₂ b₃ : Browser,
    launch twoImages (ascii "h") 80 (ascii "/") 1 (some 3) = .ok b ∧ Steps twoImages b pageEvent b₁ ∧
      Steps twoImages b₁ pageEvent b₂ ∧
      Steps twoImages b₂ (.activate 3 .err404 served [] [ascii "h"] []) b₃ ∧
      b₃.state = .success ∧ b₃.objects ≠ [] :=
  ⟨_, _, _, _, rfl,
    steps_activate (i := 0) (by decide) rfl (.answered rfl (.inl rfl) rfl (by decide)) (.inr rfl) rfl rfl,
    steps_activate (i := 0) (by decide) rfl (.answered rfl (.inl rfl) rfl (by decide)) (.inr rfl) rfl rfl,
    steps_activate (i := 0) (by decide) rfl (.answered rfl (.inr rfl) rfl (by decide)) (.inr rfl) rfl rfl,
    rfl, List.cons_ne_nil _ _⟩

/-- Both images have been answered. -/
theorem success_iff_images : ∃ b b' : Browser, ∃ es, Run (Steps twoImages) b es b' ∧
    b'.state = .success ∧ b'.inFlight = [] ∧ b'.lost = false := by
  obtain ⟨b, b₁, b₂, b₃, hl, h₁, h₂, h₃, hst, hne⟩ := twoImages_steps
  have hr : Run (Steps twoImages) b _ b₃ := .cons h₁ (.cons h₂ (.cons h₃ (.nil _)))
  exact ⟨b, b₃, _, hr, hst,
    (success_iff (fun k hk => by cases hk; decide) (by decide) hl hr (.inr hst) hne).1.mp hst⟩

/-- **A browser that has lost a connection is never done**, if its document has objects. -/
theorem lost_for_ever (hfd : ∀ k, fd = some k → 2 < k) (hl : launch lib host port path limit fd = .ok b)
    (hr : Run (Steps lib) b es b') (hlost : b'.lost = true) (hr' : Run (Steps lib) b' es' b'')
    (hne : b''.objects ≠ []) : b''.state ≠ .success := by
  have hinv := hr'.invariant (P := fun c => Inv lib limit host c ∧ Settled c ∧ c.lost = true)
    (fun _ _ _ hi hs => ⟨hi.1.step hs.1 hs.2, (hi.2.1.step hi.1 hs).1, (hi.2.1.step hi.1 hs).2 hi.2.2⟩)
    ⟨inv_of_run hl hr, settled_of_run hfd hl hr, hlost⟩
  intro hst
  rw [(hinv.2.1.done hst hne).1] at hinv
  cases hinv.2.2

/-- The connection of the page dies. -/
def dies : Event := .activate 3 .errFatal {} [] [ascii "h"] []

/-- An answer on the socket that is made then. -/
def answer : Event := .activate 4 .ok200 { served with sockd := 4 } [] [ascii "h"] []

theorem twoImages_dies : ∃ b b₁ b₂ b₃ b₄ b₅ : Browser,
    launch twoImages (ascii "h") 80 (ascii "/") 1 (some 3) = .ok b ∧ Steps twoImages b dies b₁ ∧
      Steps twoImages b₁ (.wakeup (some 4)) b₂ ∧ Steps twoImages b₂ answer b₃ ∧
      Steps twoImages b₃ answer b₄ ∧ Steps twoImages b₄ answer b₅ ∧
      b₁.lost = true ∧ b₅.objects = b₅.completed ∧ b₅.completed.length = 2 := by
  refine ⟨_, _, _, _, _, _, rfl,
    steps_activate (i := 0) (by decide) rfl (.fatal rfl rfl rfl) (.inl rfl) rfl rfl,
    ⟨⟨rfl, fun k hk => ?_⟩, rfl⟩,
    steps_activate (i := 0) (by decide) rfl (.answered rfl (.inl rfl) rfl (by decide)) (.inr rfl) rfl rfl,
    steps_activate (i := 0) (by decide) rfl (.answered rfl (.inl rfl) rfl (by decide)) (.inr rfl) rfl rfl,
    steps_activate (i := 0) (by decide) rfl (.answered rfl (.inl rfl) rfl (by decide)) (.inr rfl) rfl rfl,
    rfl, rfl, rfl⟩
  cases hk
  exact ⟨by decide, fun i hi => by cases Nat.lt_one_iff.mp hi; decide⟩

/-- The connection of the page dies, the page is asked for again, and it comes with both images: the
browser is not done. -/
theorem lost_for_ever_images : ∃ b b' b'' : Browser, Run (Steps twoImages) b [dies] b' ∧
    Run (Steps twoImages) b' [.wakeup (some 4), answer, answer, answer] b'' ∧
    b''.objects = b''.completed ∧ b''.completed.length = 2 ∧ b''.state ≠ .success := by
  obtain ⟨b, b₁, b₂, b₃, b₄, b₅, hl, h₁, h₂, h₃, h₄, h₅, hlost, hall, htwo⟩ := twoImages_dies
  have hr : Run (Steps twoImages) b [dies] b₁ := .cons h₁ (.nil _)
  have hr' : Run (Steps twoImages) b₁ [.wakeup (some 4), answer, answer, answer] b₅ :=
    .cons h₂ (.cons h₃ (.cons h₄ (.cons h₅ (.nil _))))
  have hne : b₅.objects ≠ [] := by
    intro hnil
    rw [← hall, hnil] at htwo
    cases htwo
  exact ⟨b, b₁, b₅, hr, hr', hall, htwo,
    lost_for_ever (fun k hk => by cases hk; decide) hl hr hlost hr' hne⟩

end Browser

end BrowserPlugin

end ShadowBrowser
