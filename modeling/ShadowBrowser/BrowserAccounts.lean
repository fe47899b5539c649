/-
What becomes of the objects of a document.

The connections of a browser are the workers of a pool (`WorkerPool`), the hosts its keys and the paths
its tasks (`Browser.pool`).  Every activation after the document is one step of the pool: its connection
takes the next path, has none left, or fails.

* `Frame` — the operations on the table of connections change nothing else;
* `addObjects_spec` — **what is queued**: the reachable objects of the document, each once, in its order;
* `activateObject_spec` — one activation is one step of the pool;
* **`objects_accounted`** — in every state that is reached, each object that was queued is pending, in
  flight, completed, not found or failed, and no object is asked for twice;
* **`connections_bounded`** — how many connections a host has, and that none of them rests while a path
  of the host is pending.
-/
import ShadowBrowser.BrowserPlugin
import ShadowBrowser.WorkerPool

namespace ShadowBrowser

open CellTable Checked FileTransfer Runs Texts WorkerPool

namespace BrowserPlugin

namespace Browser

variable {lib : Libraries} {b b' b'' : Browser} {i k n : ℕ} {h : List UInt8} {fd : Option ℕ} {t : Task}
  {tasks : DownloadTasks}

/-- The browser as a pool: its connections are the workers. -/
def pool (b : Browser) : Pool (List UInt8) (List UInt8) where
  queued := b.objects
  pending h := ((b.downloadTasks h).map DownloadTasks.pending).getD []
  running h := ((b.downloadTasks h).map DownloadTasks.running).getD 0
  workers := b.made
  work := b.job
  asked := b.asked
  completed := b.completed
  missing := b.notFound
  failed := b.failed

/-! ### What the operations on the table leave alone -/

/-- Only file getters, the table of connections and the statistics are changed, and no file getter is at
work that was not before. -/
structure Frame (b b' : Browser) : Prop where
  state : b'.state = b.state
  pool : b'.pool = b.pool
  tasks : b'.downloadTasks = b.downloadTasks
  hosts : b'.hosts = b.hosts
  made : b'.made = b.made
  doc : b'.docConn = b.docConn
  sleeping : b'.sleeping = b.sleeping
  first : b'.firstHostname = b.firstHostname
  limit : b'.maxConcurrentDownloads = b.maxConcurrentDownloads
  expected : b'.embeddedDownloadsExpected = b.embeddedDownloadsExpected
  count : b'.embeddedDownloadsCompleted = b.embeddedDownloadsCompleted
  host : ∀ i, (b'.conn i).httpHostname = (b.conn i).httpHostname
  path : ∀ i, (b'.conn i).remotePath = (b.conn i).remotePath
  busy : ∀ i, (b'.conn i).fg.phase = .busy → (b.conn i).fg.phase = .busy
  values : ∀ n ∈ b'.connections, n ∈ b.connections

theorem Frame.refl : Frame b b :=
  ⟨rfl, rfl, rfl, rfl, rfl, rfl, rfl, rfl, rfl, rfl, rfl, fun _ => rfl, fun _ => rfl, fun _ => id,
    fun _ => id⟩

theorem Frame.trans (h : Frame b b') (h' : Frame b' b'') : Frame b b'' where
  state := h'.state.trans h.state
  pool := h'.pool.trans h.pool
  tasks := h'.tasks.trans h.tasks
  hosts := h'.hosts.trans h.hosts
  made := h'.made.trans h.made
  doc := h'.doc.trans h.doc
  sleeping := h'.sleeping.trans h.sleeping
  first := h'.first.trans h.first
  limit := h'.limit.trans h.limit
  expected := h'.expected.trans h.expected
  count := h'.count.trans h.count
  host i := (h'.host i).trans (h.host i)
  path i := (h'.path i).trans (h.path i)
  busy i hi := h.busy i (h'.busy i hi)
  values n hn := h.values n (h'.values n hn)

/-- A connection keeps what it was asked for when its file getter changes. -/
theorem job_setConn {c : Connection} (hc : c.job = (b.conn i).job) : (b.setConn i c).job = b.job := by
  funext j
  rw [job, job]
  by_cases hj : j = i
  · rw [hj, setConn_self, hc]
  · rw [setConn_ne b c hj]

theorem pool_setConn {c : Connection} (hc : c.job = (b.conn i).job) : (b.setConn i c).pool = b.pool := by
  show ({ b.pool with work := (b.setConn i c).job } : Pool _ _) = b.pool
  rw [job_setConn hc]
  rfl

theorem setConn_field {α : Type*} {c : Connection} (f : Connection → α) (hc : f c = f (b.conn i)) (j : ℕ) :
    f ((b.setConn i c).conn j) = f (b.conn j) := by
  by_cases hj : j = i
  · rw [hj, setConn_self, hc]
  · rw [setConn_ne b c hj]

/-- The file getter of a connection is shut down. -/
theorem frame_shut (b : Browser) (i : ℕ) :
    Frame b (b.setConn i { b.conn i with fg := (b.conn i).fg.shutdown }) where
  state := rfl
  pool := pool_setConn rfl
  tasks := rfl
  hosts := rfl
  made := rfl
  doc := rfl
  sleeping := rfl
  first := rfl
  limit := rfl
  expected := rfl
  count := rfl
  host := setConn_field Connection.httpHostname rfl
  path := setConn_field Connection.remotePath rfl
  busy j := by
    by_cases hj : j = i
    · rw [hj, setConn_self]
      intro hbusy
      cases hbusy
    · rw [setConn_ne b _ hj]
      exact id
  values _ := id

theorem frame_shutdownConnection (b : Browser) (i : ℕ) : Frame b (b.shutdownConnection i) :=
  (frame_shut b i).trans
    ⟨rfl, rfl, rfl, rfl, rfl, rfl, rfl, rfl, rfl, rfl, rfl, fun _ => rfl, fun _ => rfl, fun _ => id,
    fun _ => id⟩

theorem frame_stealConnection (b : Browser) (k : ℕ) : Frame b (b.stealConnection k) :=
  ⟨rfl, rfl, rfl, rfl, rfl, rfl, rfl, rfl, rfl, rfl, rfl, fun _ => rfl, fun _ => rfl, fun _ => id,
    fun _ => List.mem_of_mem_eraseP⟩

theorem frame_removeConnection (b : Browser) (k : ℕ) : Frame b (b.removeConnection k) := by
  rw [removeConnection]
  cases lookup b.sockd k b.connections with
  | none => exact .refl
  | some i => exact (frame_stealConnection b k).trans (frame_shutdownConnection _ i)

theorem frame_giveUp (b : Browser) (i k : ℕ) : Frame b (b.giveUp i k) :=
  (frame_stealConnection b k).trans (frame_shut (b.stealConnection k) i)

/-- Socket and answer of a file getter are what they may be: it is not at work if it was not
before. -/
theorem frame_returned {code : FilegetterCode} {fg : Getter} (h : (b.conn i).fg.Returns code fg) :
    Frame b (b.returned i code fg) where
  state := rfl
  pool := pool_setConn (c := { b.conn i with fg := fg }) rfl
  tasks := rfl
  hosts := rfl
  made := rfl
  doc := rfl
  sleeping := rfl
  first := rfl
  limit := rfl
  expected := rfl
  count := rfl
  host := setConn_field (c := { b.conn i with fg := fg }) Connection.httpHostname rfl
  path := setConn_field (c := { b.conn i with fg := fg }) Connection.remotePath rfl
  busy j := by
    show ((b.setConn i { b.conn i with fg := fg }).conn j).fg.phase = .busy → _
    by_cases hj : j = i
    · rw [hj, setConn_self]
      intro hbusy
      cases h with
      | needfspec hphase => exact hbusy
      | wouldblock hphase => exact hphase
      | answered hphase => exact hphase
      | refused hphase => exact hphase
      | fatal hphase => exact hphase
    · rw [setConn_ne b _ hj]
      exact id
  values _ := id

theorem mem_insert_value {cell : ℕ → ℕ} {t : List (Node ℕ ℕ)} {m : Node ℕ ℕ}
    (hm : m ∈ CellTable.insert cell i i t) : m ∈ t ∨ m.value = i := by
  obtain hm | ⟨m', _, _, rfl⟩ | rfl := mem_insert hm
  · exact .inl hm
  · exact .inr rfl
  · exact .inr rfl

/-- A connection is put into the table: the one that it may replace is shut down. -/
theorem frame_insertConnection (b : Browser) (i : ℕ) :
    Frame (b.inserted i) (b.insertConnection i) := by
  rw [insertConnection]
  cases lookup b.sockd (b.sockd i) b.connections with
  | none => exact .refl
  | some j => exact frame_shutdownConnection _ j

/-! ### Tasks and connections fit together -/

/-- Every connection belongs to a host that has tasks, unless the name of that was cut, and asks for what
it was asked for. -/
structure Sane (lib : Libraries) (b : Browser) : Prop where
  hosts : ∀ h, b.downloadTasks h ≠ none → h ∈ b.hosts
  reachable : ∀ h tasks, b.downloadTasks h = some tasks → tasks.reachable = lib.resolves h
  first : b.downloadTasks b.firstHostname ≠ none
  conns : ∀ i < b.made, (b.conn i).httpHostname.length < strSize →
    b.downloadTasks (b.conn i).httpHostname ≠ none
  jobs : ∀ i < b.made, ∀ t, b.job i = some t →
    (b.conn i).httpHostname = t.1.take strSize ∧ (b.conn i).remotePath = t.2.take strSize
  values : ∀ n ∈ b.connections, n.value < b.made

/-- A connection whose file getter is at work has been asked for an object. -/
def AtWork (b : Browser) : Prop := ∀ i < b.made, (b.conn i).fg.phase = .busy → b.job i ≠ none

theorem Frame.job (hf : Frame b b') : b'.job = b.job := congrArg Pool.work hf.pool

theorem Sane.frame (hs : Sane lib b) (hf : Frame b b') : Sane lib b' where
  hosts := by
    rw [hf.tasks, hf.hosts]
    exact hs.hosts
  reachable := by
    rw [hf.tasks]
    exact hs.reachable
  first := by
    rw [hf.tasks, hf.first]
    exact hs.first
  conns i := by
    rw [hf.tasks, hf.made, hf.host]
    exact hs.conns i
  jobs i := by
    rw [hf.made, hf.job, hf.host, hf.path]
    exact hs.jobs i
  values m hm := by
    rw [hf.made]
    exact hs.values m (hf.values m hm)

/-- A connection is in the table. -/
theorem Sane.inserted (hs : Sane lib b) (hi : i < b.made) : Sane lib (b.inserted i) := by
  refine ⟨hs.hosts, hs.reachable, hs.first, hs.conns, hs.jobs, fun m hm => ?_⟩
  obtain hm | hm := mem_insert_value hm
  · exact hs.values m hm
  · rw [hm]
    exact hi

theorem AtWork.frame (hw : AtWork b) (hf : Frame b b') : AtWork b' := by
  intro i
  rw [hf.made, hf.job]
  exact fun hi hbusy => hw i hi (hf.busy i hbusy)

theorem pool_setTasks (h : List UInt8) (tasks : DownloadTasks) :
    (b.setTasks h tasks).pool = { b.pool with
      pending := Function.update b.pool.pending h tasks.pending
      running := Function.update b.pool.running h tasks.running } := by
  have hpending : (b.setTasks h tasks).pool.pending = Function.update b.pool.pending h tasks.pending := by
    funext h'
    show (((b.setTasks h tasks).downloadTasks h').map DownloadTasks.pending).getD [] = _
    by_cases hh : h' = h
    · rw [hh, setTasks_self, Function.update_self]
      rfl
    · rw [setTasks_ne b tasks hh, Function.update_of_ne hh]
      rfl
  have hrunning : (b.setTasks h tasks).pool.running = Function.update b.pool.running h tasks.running := by
    funext h'
    show (((b.setTasks h tasks).downloadTasks h').map DownloadTasks.running).getD 0 = _
    by_cases hh : h' = h
    · rw [hh, setTasks_self, Function.update_self]
      rfl
    · rw [setTasks_ne b tasks hh, Function.update_of_ne hh]
      rfl
  rw [← hpending, ← hrunning]
  rfl

theorem pool_pending (ht : b.downloadTasks h = some tasks) : b.pool.pending h = tasks.pending := by
  show ((b.downloadTasks h).map DownloadTasks.pending).getD [] = _
  rw [ht]
  rfl

theorem pool_running (ht : b.downloadTasks h = some tasks) : b.pool.running h = tasks.running := by
  show ((b.downloadTasks h).map DownloadTasks.running).getD 0 = _
  rw [ht]
  rfl

theorem job_setConn_eq (c : Connection) :
    (b.setConn i c).job = Function.update b.job i c.job := by
  funext j
  rw [job]
  by_cases hj : j = i
  · rw [hj, setConn_self, Function.update_self]
  · rw [setConn_ne b c hj, Function.update_of_ne hj]
    rfl

/-! ### The next path -/

theorem pool_ask {path : List UInt8} {pending : List (List UInt8)}
    (ht : b.downloadTasks (b.conn i).httpHostname = some tasks) :
    (b.ask i tasks path pending fd).pool = b.pool.give i (b.conn i).httpHostname path pending := by
  have htasks := pool_setTasks (b := b) (b.conn i).httpHostname { tasks with pending := pending }
  have hjob := job_setConn_eq (b := b) (i := i) { b.conn i with
    remotePath := path.take strSize
    fg := (b.conn i).fg.download fd
    job := some ((b.conn i).httpHostname, path) }
  have hrunning : Function.update b.pool.running (b.conn i).httpHostname tasks.running = b.pool.running := by
    rw [← pool_running ht, Function.update_eq_self]
  rw [hrunning] at htasks
  show ({ (b.setTasks (b.conn i).httpHostname { tasks with pending := pending }).pool with
    work := (b.setConn i _).job
    asked := b.asked ++ [((b.conn i).httpHostname, path)] } : Pool _ _) = _
  rw [htasks, hjob]
  rfl

/-- A name that is shorter than the buffer has not been cut. -/
theorem eq_of_take {l l' : List UInt8} (h : l = l'.take strSize) (hlt : l.length < strSize) : l = l' := by
  rw [h, List.length_take] at hlt
  rw [h, List.take_of_length_le]
  omega

/-- `browser_reuse_connection` reads the name of the host. -/
theorem reuse_short {r : Bool} (h : b.reuseConnection i fd = .ok (b', r)) :
    (b.conn i).httpHostname.length < strSize := by
  obtain ⟨_, hshort, _⟩ := bind_eq_ok.mp h
  exact check_eq_ok.mp hshort

/-- `browser_reuse_connection`: the next path is asked for, or there is none. -/
theorem reuse_cases {r : Bool} (h : b.reuseConnection i fd = .ok (b', r)) :
    ∃ tasks, b.downloadTasks (b.conn i).httpHostname = some tasks ∧
      (tasks.pending = [] ∧ r = false ∧ b' = b ∨
        ∃ path pending, tasks.pending = path :: pending ∧ r = true ∧
          b' = b.ask i tasks path pending fd) := by
  obtain ⟨_, _, h⟩ := bind_eq_ok.mp h
  cases ht : b.downloadTasks (b.conn i).httpHostname with
  | none =>
    rw [ht] at h
    cases h
  | some tasks =>
    rw [ht] at h
    refine ⟨tasks, rfl, ?_⟩
    cases hp : tasks.pending with
    | nil =>
      simp only [hp] at h
      cases h
      exact .inl ⟨rfl, rfl, rfl⟩
    | cons path pending =>
      simp only [hp] at h
      cases h
      exact .inr ⟨path, pending, rfl, rfl, rfl⟩

/-- The tasks of a host are changed, but not whether it is reachable. -/
theorem Sane.setTasks (hs : Sane lib b) (hr : tasks.reachable = lib.resolves h)
    (hknown : b.downloadTasks h ≠ none) : Sane lib (b.setTasks h tasks) := by
  have hsome : ∀ h', b.downloadTasks h' ≠ none → (b.setTasks h tasks).downloadTasks h' ≠ none := by
    intro h' hne
    by_cases hh : h' = h
    · rw [hh, setTasks_self]
      exact Option.some_ne_none _
    · rwa [setTasks_ne b tasks hh]
  refine ⟨fun h' hne => ?_, fun h' tasks' ht => ?_, hsome _ hs.first,
    fun i hi hshort => hsome _ (hs.conns i hi hshort), hs.jobs, hs.values⟩
  · by_cases hh : h' = h
    · rw [hh]
      exact hs.hosts h hknown
    · rw [setTasks_ne b tasks hh] at hne
      exact hs.hosts h' hne
  · by_cases hh : h' = h
    · rw [hh, setTasks_self] at ht
      cases ht
      rw [hh]
      exact hr
    · rw [setTasks_ne b tasks hh] at ht
      exact hs.reachable h' tasks' ht

/-- A connection is at another object of its host, or at none. -/
theorem Sane.setConn {c : Connection} (hs : Sane lib b) (hhost : c.httpHostname = (b.conn i).httpHostname)
    (hjob : ∀ t, c.job = some t →
      c.httpHostname = t.1.take strSize ∧ c.remotePath = t.2.take strSize) :
    Sane lib (b.setConn i c) := by
  refine ⟨hs.hosts, hs.reachable, hs.first, fun j hj => ?_, fun j hj t ht => ?_, hs.values⟩
  · rw [setConn_field Connection.httpHostname hhost]
    exact hs.conns j hj
  · by_cases hji : j = i
    · rw [hji, job, setConn_self] at ht
      rw [hji, setConn_self]
      exact hjob t ht
    · rw [job, setConn_ne b c hji] at ht
      rw [setConn_ne b c hji]
      exact hs.jobs j hj t ht

theorem AtWork.setConn {c : Connection} (hw : AtWork b) (hbusy : c.fg.phase = .busy → c.job ≠ none) :
    AtWork (b.setConn i c) := by
  intro j hj hphase
  by_cases hji : j = i
  · rw [hji, setConn_self] at hphase
    rw [hji, job, setConn_self]
    exact hbusy hphase
  · rw [setConn_ne b c hji] at hphase
    rw [job, setConn_ne b c hji]
    exact hw j hj hphase

theorem Sane.ask {path : List UInt8} {pending : List (List UInt8)} (hs : Sane lib b)
    (hshort : (b.conn i).httpHostname.length < strSize)
    (ht : b.downloadTasks (b.conn i).httpHostname = some tasks) :
    Sane lib (b.ask i tasks path pending fd) := by
  have htasks : Sane lib (b.setTasks (b.conn i).httpHostname { tasks with pending := pending }) :=
    hs.setTasks (show tasks.reachable = _ from hs.reachable _ _ ht) (by rw [ht]; exact Option.some_ne_none _)
  have hconn := htasks.setConn (i := i) (c := { b.conn i with
    remotePath := path.take strSize
    fg := (b.conn i).fg.download fd
    job := some ((b.conn i).httpHostname, path) }) rfl
    fun t heq => by cases heq; exact ⟨(List.take_of_length_le (Nat.le_of_lt hshort)).symm, rfl⟩
  exact ⟨hconn.hosts, hconn.reachable, hconn.first, hconn.conns, hconn.jobs, hconn.values⟩

theorem AtWork.ask {path : List UInt8} {pending : List (List UInt8)} (hw : AtWork b) :
    AtWork (b.ask i tasks path pending fd) :=
  AtWork.setConn (b := b) (c := { b.conn i with
    remotePath := path.take strSize
    fg := (b.conn i).fg.download fd
    job := some ((b.conn i).httpHostname, path) }) hw fun _ => Option.some_ne_none _

/-- **A connection has its answer and goes on**: one step of the pool. -/
theorem goOn_pool {p : Pool (List UInt8) (List UInt8)} {found : Bool} {limit : ℤ} (hs : Sane lib b)
    (hpool : b.pool = { p.finish found t with work := Function.update p.work i none })
    (hi : i < p.workers) (hwork : p.work i = some t)
    (hhost : (b.conn i).httpHostname = t.1.take strSize)
    (hgo : b.goOn i k fd = .ok b') :
    Step limit p b'.pool ∧ b'.pool.running = p.running ∧
      (∀ h, b'.pool.pending h ≠ [] → p.pending h ≠ []) ∧ Sane lib b' ∧ (AtWork b → AtWork b') ∧
      b'.state = b.state := by
  have hpending : b.pool.pending = p.pending := by
    rw [hpool]
    exact Pool.finish_pending p found t
  obtain ⟨⟨b₁, r⟩, hreuse, hrest⟩ := bind_eq_ok.mp hgo
  have hshort := reuse_short hreuse
  have hhost : (b.conn i).httpHostname = t.1 := eq_of_take hhost hshort
  obtain ⟨tasks, ht, ⟨hnil, rfl, rfl⟩ | ⟨path, pending, hcons, rfl, rfl⟩⟩ := reuse_cases hreuse
  · -- Nothing is pending at the host: the connection is taken out of the table.
    cases hrest
    have hf := frame_removeConnection b₁ k
    have hnone : p.pending t.1 = [] := by
      rw [← hpending, ← hhost, pool_pending ht, hnil]
    rw [hf.pool, hpool]
    refine ⟨.last hi hwork hnone, Pool.finish_running p found t, fun h hne => ?_, hs.frame hf,
      fun hw => hw.frame hf, hf.state⟩
    rwa [Pool.finish_pending] at hne
  · -- The next path of the host.
    cases hrest
    have hcons' : p.pending t.1 = path :: pending := by
      rw [← hpending, ← hhost, pool_pending ht, hcons]
    have hgive : (b.ask i tasks path pending fd).pool = (p.finish found t).give i t.1 path pending := by
      rw [pool_ask ht, hpool, hhost, Pool.give, Pool.give, Function.update_idem, Pool.finish_work]
    rw [hgive]
    refine ⟨.next hi hwork hcons', Pool.finish_running p found t, fun h hne => ?_,
      hs.ask hshort ht, AtWork.ask, rfl⟩
    refine Pool.ne_nil_of_update hcons' ?_
    rwa [← Pool.finish_pending p found t]

/-- Counters and limits are left alone. -/
theorem goOn_same (hgo : b.goOn i k fd = .ok b') :
    b'.maxConcurrentDownloads = b.maxConcurrentDownloads ∧
      b'.embeddedDownloadsExpected = b.embeddedDownloadsExpected ∧
      b'.embeddedDownloadsCompleted = b.embeddedDownloadsCompleted ∧ b'.completed = b.completed ∧
      b'.sleeping = b.sleeping ∧ b'.firstHostname = b.firstHostname := by
  obtain ⟨⟨b₁, r⟩, hreuse, hrest⟩ := bind_eq_ok.mp hgo
  obtain ⟨tasks, _, ⟨_, rfl, rfl⟩ | ⟨path, pending, _, rfl, rfl⟩⟩ := reuse_cases hreuse
  · cases hrest
    have hf := frame_removeConnection b₁ k
    exact ⟨hf.limit, hf.expected, hf.count, congrArg Pool.completed hf.pool, hf.sleeping,
      hf.first⟩
  · cases hrest
    exact ⟨rfl, rfl, rfl, rfl, rfl, rfl⟩

/-! ### One activation -/

/-- What an activation does to the objects: at most one step of the pool, in which nobody is hired. -/
structure Turned (b b' : Browser) : Prop where
  state : b'.state = b.state
  first : b'.firstHostname = b.firstHostname
  sleeping : b'.sleeping = b.sleeping
  limit : b'.maxConcurrentDownloads = b.maxConcurrentDownloads
  expected : b'.embeddedDownloadsExpected = b.embeddedDownloadsExpected
  pool : b'.pool = b.pool ∨ Step b.maxConcurrentDownloads b.pool b'.pool
  running : b'.pool.running = b.pool.running
  pending : ∀ h, b'.pool.pending h ≠ [] → b.pool.pending h ≠ []
  count : b.embeddedDownloadsCompleted = b.completed.length →
    b'.embeddedDownloadsCompleted = b'.completed.length

theorem Frame.turned (hf : Frame b b') : Turned b b' where
  state := hf.state
  first := hf.first
  sleeping := hf.sleeping
  limit := hf.limit
  expected := hf.expected
  pool := .inl hf.pool
  running := congrArg Pool.running hf.pool
  pending h := by
    rw [hf.pool]
    exact id
  count hcount := by
    rw [hf.count, hcount]
    exact congrArg List.length (congrArg Pool.completed hf.pool).symm

/-- The answer of a connection is noted. -/
theorem pool_answered (found : Bool) :
    ({ b.pool.finish found t with work := (b.answered i).job } : Pool _ _) =
      { b.pool.finish found t with work := Function.update b.pool.work i none } := by
  rw [answered, job_setConn_eq]
  rfl

theorem host_answered (b : Browser) (i : ℕ) :
    ((b.answered i).conn i).httpHostname = (b.conn i).httpHostname :=
  setConn_field (c := { b.conn i with job := none }) Connection.httpHostname rfl i

theorem Sane.answered (hs : Sane lib b) : Sane lib (b.answered i) :=
  hs.setConn rfl fun _ h => by cases h

theorem AtWork.answered (hw : AtWork b) (hphase : (b.conn i).fg.phase ≠ .busy) : AtWork (b.answered i) :=
  hw.setConn fun h => absurd h hphase

/-- The connection fails: its file getter is shut down. -/
theorem conn_giveUp (b : Browser) (i k : ℕ) :
    ((b.answered i).giveUp i k).conn =
      (b.setConn i { b.conn i with job := none, fg := (b.conn i).fg.shutdown }).conn := by
  show Function.update (Function.update b.conn i _) i
    { (b.answered i).conn i with fg := ((b.answered i).conn i).fg.shutdown } = Function.update b.conn i _
  rw [Function.update_idem, answered, setConn_self]

theorem Sane.giveUp (hs : Sane lib b) :
    Sane lib { (b.answered i).giveUp i k with failed := b.failed ++ (b.job i).toList } := by
  have hs₁ := hs.setConn (i := i) (c := { b.conn i with job := none, fg := (b.conn i).fg.shutdown }) rfl
    fun _ h => by cases h
  have hjob : ((b.answered i).giveUp i k).job =
      (b.setConn i { b.conn i with job := none, fg := (b.conn i).fg.shutdown }).job := by
    funext j
    rw [job, job, conn_giveUp]
  refine ⟨hs₁.hosts, hs₁.reachable, hs₁.first, fun j hj => ?_, fun j hj t ht => ?_,
    fun m hm => hs.values m (List.mem_of_mem_eraseP hm)⟩
  · show (((b.answered i).giveUp i k).conn j).httpHostname.length < strSize →
      b.downloadTasks (((b.answered i).giveUp i k).conn j).httpHostname ≠ none
    rw [conn_giveUp]
    exact hs₁.conns j hj
  · show (((b.answered i).giveUp i k).conn j).httpHostname = t.1.take strSize ∧
      (((b.answered i).giveUp i k).conn j).remotePath = t.2.take strSize
    rw [conn_giveUp]
    exact hs₁.jobs j hj t (hjob ▸ ht)

theorem AtWork.giveUp (hw : AtWork b) : AtWork ((b.answered i).giveUp i k) := by
  intro j hj hphase
  rw [conn_giveUp] at hphase
  rw [job, conn_giveUp]
  exact hw.setConn (i := i) (c := { b.conn i with job := none, fg := (b.conn i).fg.shutdown })
    (fun h => by cases h) j hj hphase

theorem turned_giveUp (hi : i < b.made) :
    Turned b { (b.answered i).giveUp i k with failed := b.failed ++ (b.job i).toList } := by
  have hjob : ((b.answered i).giveUp i k).job = Function.update b.job i none := by
    have h := job_setConn_eq (b := b) (i := i) { b.conn i with job := none, fg := (b.conn i).fg.shutdown }
    rw [← h]
    funext j
    rw [job, job, conn_giveUp]
  have hpool : ({ (b.answered i).giveUp i k with failed := b.failed ++ (b.job i).toList } : Browser).pool =
      { b.pool with
        work := Function.update b.pool.work i none
        failed := b.pool.failed ++ (b.job i).toList } := by
    show ({ b.pool with
      work := ((b.answered i).giveUp i k).job
      failed := b.pool.failed ++ (b.job i).toList } : Pool _ _) = _
    rw [hjob]
    rfl
  refine ⟨rfl, rfl, rfl, rfl, rfl, ?_, rfl, fun _ => id, id⟩
  rw [hpool]
  cases ht : b.job i with
  | none =>
    -- It was asked for nothing.
    refine .inl ?_
    rw [show Function.update b.pool.work i none = b.pool.work by
      rw [← ht]
      exact Function.update_eq_self i b.job]
    rw [Option.toList_none, List.append_nil]
  | some t => exact .inr (.fail hi ht)

/-- The answer of a connection is noted, and the connection goes on. -/
theorem turned_of_goOn {b₁ : Browser} (found : Bool) (hgo : b₁.goOn i k fd = .ok b')
    (hs : Sane lib b₁) (hi : i < b.made)
    (ht : b.job i = some t) (hhost : (b₁.conn i).httpHostname = t.1.take strSize)
    (hstate : b₁.state = b.state)
    (hsleeping : b₁.sleeping = b.sleeping) (hfirst : b₁.firstHostname = b.firstHostname)
    (hpool : b₁.pool = { b.pool.finish found t with work := Function.update b.pool.work i none })
    (hlimit : b₁.maxConcurrentDownloads = b.maxConcurrentDownloads)
    (hexpected : b₁.embeddedDownloadsExpected = b.embeddedDownloadsExpected)
    (hcount : b.embeddedDownloadsCompleted = b.completed.length →
      b₁.embeddedDownloadsCompleted = b₁.completed.length) (hw : AtWork b₁) :
    Turned b b' ∧ Sane lib b' ∧ AtWork b' := by
  obtain ⟨hstep, hrunning, hpending, hs', hw', hstate'⟩ := goOn_pool hs hpool hi ht hhost hgo
  obtain ⟨hl, he, hc, hcompleted, hsl, hfi⟩ := goOn_same hgo
  refine ⟨⟨hstate'.trans hstate, hfi.trans hfirst, hsl.trans hsleeping, hl.trans hlimit, he.trans hexpected,
    .inr hstep, hrunning, hpending, fun h => ?_⟩, hs', hw' hw⟩
  rw [hc, hcompleted]
  exact hcount h

/-- **One activation is at most one step of the pool.** -/
theorem activateObject_spec {code : FilegetterCode} {sockfd : ℕ} (hs : Sane lib b) (hw : AtWork b)
    (hi : i < b.made)
    (hcode : code = .ok200 ∨ code = .err404 → b.job i ≠ none ∧ (b.conn i).fg.phase ≠ .busy)
    (h : b.activateObject i sockfd code fd = .ok b') : Turned b b' ∧ Sane lib b' ∧ AtWork b' := by
  rw [activateObject] at h
  split_ifs at h with h200 h404 hfail
  · obtain ⟨hjob, hphase⟩ := hcode (.inl h200)
    obtain ⟨t, ht⟩ := Option.ne_none_iff_exists'.mp hjob
    have hs₁ := hs.answered (i := i)
    rw [downloadedObject, ht] at h
    refine turned_of_goOn true h ⟨hs₁.hosts, hs₁.reachable, hs₁.first, hs₁.conns, hs₁.jobs,
      hs₁.values⟩ hi ht ?_ rfl rfl rfl (pool_answered true) rfl rfl (fun hcount => ?_)
      (hw.answered hphase)
    · exact (host_answered b i).trans (hs.jobs i hi t ht).1
    · show b.embeddedDownloadsCompleted + 1 = (b.completed ++ [t]).length
      rw [List.length_append, hcount]
      rfl
  · obtain ⟨hjob, hphase⟩ := hcode (.inr h404)
    obtain ⟨t, ht⟩ := Option.ne_none_iff_exists'.mp hjob
    have hs₁ := hs.answered (i := i)
    rw [ht] at h
    refine turned_of_goOn false h ⟨hs₁.hosts, hs₁.reachable, hs₁.first, hs₁.conns, hs₁.jobs,
      hs₁.values⟩ hi ht ?_ rfl rfl rfl (pool_answered false) rfl rfl id (hw.answered hphase)
    exact (host_answered b i).trans (hs.jobs i hi t ht).1
  · cases h
    exact ⟨turned_giveUp hi, hs.giveUp, hw.giveUp⟩
  · cases h
    exact ⟨Frame.refl.turned, hs, hw⟩

/-! ### What is queued -/

/-- The objects among some addresses have been queued, each once. -/
structure Queueing (lib : Libraries) (b₀ : Browser) (ts : List Task) (b : Browser) (n : ℕ) : Prop where
  same : b = { b₀ with hosts := b.hosts, downloadTasks := b.downloadTasks, objects := b.objects }
  order : b.objects = (ts.filter fun t => lib.resolves t.1).eraseDups
  distinct : b.objects.Nodup
  mem : ∀ t, t ∈ b.objects ↔ t ∈ ts ∧ lib.resolves t.1 = true
  count : n = b.objects.length
  hosts : ∀ h, b.downloadTasks h ≠ none → h ∈ b.hosts
  known : ∀ h, b₀.downloadTasks h ≠ none → b.downloadTasks h ≠ none
  host : ∀ t ∈ b.objects, b.downloadTasks t.1 ≠ none
  tasks : ∀ h tasks, b.downloadTasks h = some tasks →
    tasks.reachable = lib.resolves h ∧ tasks.running = 0 ∧ tasks.pending = atKey h b.objects ∧
      ∃ added, tasks.added = some added ∧ ∀ path, path ∈ added ↔ (h, path) ∈ b.objects

variable {b₀ : Browser} {ts : List Task}

theorem initHost_of_some (ht : b.downloadTasks h = some tasks) : b.initHost lib h = b := by
  rw [initHost, ht]

theorem initHost_of_none (ht : b.downloadTasks h = none) :
    b.initHost lib h =
      { b with hosts := b.hosts ++ [h] }.setTasks h { reachable := lib.resolves h } := by
  rw [initHost, ht]

/-- The host of an object has tasks. -/
theorem Queueing.initHost (hq : Queueing lib b₀ ts b n) (h : List UInt8) :
    Queueing lib b₀ ts (b.initHost lib h) n ∧ (b.initHost lib h).downloadTasks h ≠ none ∧
      (b.initHost lib h).objects = b.objects := by
  -- the host is known, or it is looked up and starts with an empty queue
  cases ht : b.downloadTasks h with
  | some tasks =>
    rw [initHost_of_some ht]
    refine ⟨hq, ?_, rfl⟩
    rw [ht]
    exact Option.some_ne_none _
  | none =>
    rw [initHost_of_none ht]
    have hkept : ∀ h', b.downloadTasks h' ≠ none →
        ({ b with hosts := b.hosts ++ [h] }.setTasks h { reachable := lib.resolves h }).downloadTasks h' =
          b.downloadTasks h' := by
      intro h' hne
      refine setTasks_ne _ _ ?_
      rintro rfl
      exact hne ht
    refine ⟨⟨?_, hq.order, hq.distinct, hq.mem, hq.count, fun h' hne => ?_, fun h' hne => ?_,
      fun t hmem => ?_, fun h' tasks heq => ?_⟩, ?_, rfl⟩
    · have hsame := hq.same
      rw [hsame]
      rfl
    · by_cases hh : h' = h
      · rw [hh]
        exact List.mem_append_right _ (List.mem_singleton_self h)
      · rw [setTasks_ne _ _ hh] at hne
        exact List.mem_append_left _ (hq.hosts h' hne)
    · rw [hkept h' (hq.known h' hne)]
      exact hq.known h' hne
    · rw [hkept t.1 (hq.host t hmem)]
      exact hq.host t hmem
    · -- none of the new host's paths is an object yet
      by_cases hh : h' = h
      · rw [hh, setTasks_self] at heq
        cases heq
        have hnil : ∀ path, (h, path) ∉ b.objects := fun path hmem => hq.host _ hmem ht
        refine ⟨congrArg lib.resolves hh.symm, rfl, ?_, [], rfl, fun path => ?_⟩
        · rw [hh]
          refine (List.eq_nil_iff_forall_not_mem.mpr fun path hmem => ?_).symm
          exact hnil path (mem_atKey.mp hmem)
        · rw [hh]
          exact ⟨fun hmem => absurd hmem List.not_mem_nil, fun hmem => absurd hmem (hnil path)⟩
      · rw [setTasks_ne _ _ hh] at heq
        exact hq.tasks h' tasks heq
    · rw [setTasks_self]
      exact Option.some_ne_none _

/-- One element more is a first occurrence, or was there before. -/
theorem eraseDups_snoc {α : Type} [BEq α] [LawfulBEq α] {l : List α} {a : α} :
    (a ∉ l → (l ++ [a]).eraseDups = l.eraseDups ++ [a]) ∧
      (a ∈ l → (l ++ [a]).eraseDups = l.eraseDups) := by
  rw [List.eraseDups_append, List.cons_removeAll, List.nil_removeAll]
  refine ⟨fun hnot => ?_, fun hin => ?_⟩
  · rw [if_pos (by simpa using hnot)]
    rfl
  · rw [if_neg (by simpa using hin)]
    exact List.append_nil _

/-- One address more. -/
theorem Queueing.addObject (hq : Queueing lib b₀ ts b n) (t : Task) {m : ℕ}
    (h : b.addObject lib n t = .ok (b', m)) : Queueing lib b₀ (ts ++ [t]) b' m := by
  obtain ⟨hq, hknown, hobjects⟩ := hq.initHost t.1
  rw [Browser.addObject] at h
  obtain ⟨tasks, ht⟩ := Option.ne_none_iff_exists'.mp hknown
  obtain ⟨hreach, hrunning, hpending, added, hadded, hmem⟩ := hq.tasks t.1 tasks ht
  simp only [ht, hadded] at h
  rw [← hobjects] at h
  -- the address is queued when its host is there and it has not been added before
  split_ifs at h with hnew
  · cases h
    obtain ⟨hyes, hnot⟩ := hnew
    have hnot : t ∉ (b.initHost lib t.1).objects := fun hin => hnot ((hmem t.2).mpr hin)
    refine ⟨?_, ?_, ?_, fun t' => ?_, ?_, fun h' hne => ?_,
      fun h' hne => ?_, fun t' hin => ?_, fun h' tasks' heq => ?_⟩
    · have hsame := hq.same
      rw [hsame]
      rfl
    · show (b.initHost lib t.1).objects ++ [t] = _
      rw [hq.order, List.mem_eraseDups] at hnot
      rw [hq.order, List.filter_append, List.filter_cons_of_pos (p := fun t : Task => lib.resolves t.1)
        (hreach ▸ hyes), List.filter_nil, eraseDups_snoc.1 hnot]
    · exact List.nodup_append.mpr ⟨hq.distinct, List.nodup_singleton t, by
        rintro a ha b hb rfl
        exact hnot (List.mem_singleton.mp hb ▸ ha)⟩
    · show t' ∈ (b.initHost lib t.1).objects ++ [t] ↔ _
      rw [List.mem_append, List.mem_append, List.mem_singleton, hq.mem]
      constructor
      · rintro (⟨hin, hr⟩ | rfl)
        · exact ⟨.inl hin, hr⟩
        · exact ⟨.inr rfl, hreach ▸ hyes⟩
      · rintro ⟨hin | rfl, hr⟩
        · exact .inl ⟨hin, hr⟩
        · exact .inr rfl
    · show n + 1 = ((b.initHost lib t.1).objects ++ [t]).length
      rw [List.length_append, hq.count]
      rfl
    · -- of the hosts only its own has new tasks
      by_cases hh : h' = t.1
      · rw [hh]
        exact hq.hosts t.1 hknown
      · exact hq.hosts h' (by rwa [← setTasks_ne _ _ hh])
    · by_cases hh : h' = t.1
      · rw [hh]
        exact fun hnone => by cases (setTasks_self (b.initHost lib t.1) t.1 _).symm.trans hnone
      · exact fun hnone => hq.known h' hne ((setTasks_ne _ _ hh).symm.trans hnone)
    · by_cases hh : t'.1 = t.1
      · rw [hh]
        exact fun hnone => by cases (setTasks_self (b.initHost lib t.1) t.1 _).symm.trans hnone
      · refine fun hnone => hq.host t' ?_ ((setTasks_ne _ _ hh).symm.trans hnone)
        obtain hin | hin := List.mem_append.mp hin
        · exact hin
        · exact absurd (congrArg Prod.fst (List.mem_singleton.mp hin)) hh
    · show _ ∧ _ ∧ _ = atKey h' ((b.initHost lib t.1).objects ++ [t]) ∧ ∃ added, _ ∧
        ∀ path, _ ↔ (h', path) ∈ (b.initHost lib t.1).objects ++ [t]
      -- its path is the last of its host's queue; the other queues are as they were
      by_cases hh : h' = t.1
      · obtain rfl := Option.some_inj.mp
          ((setTasks_self (b.initHost lib t.1) t.1 _).symm.trans (hh ▸ heq))
        rw [hh]
        refine ⟨hreach, hrunning, ?_, _, rfl, fun path => ?_⟩
        · rw [atKey_append, ← hpending, show t = (t.1, t.2) from rfl, atKey_self]
        · rw [List.mem_cons, List.mem_append, List.mem_singleton, hmem]
          constructor
          · rintro (rfl | hin)
            · exact .inr rfl
            · exact .inl hin
          · rintro (hin | heq)
            · exact .inr hin
            · exact .inl (congrArg Prod.snd heq)
      · obtain ⟨hr, hrun, hpend, added', hadd, hm⟩ :=
          hq.tasks h' tasks' ((setTasks_ne _ _ hh).symm.trans heq)
        refine ⟨hr, hrun, ?_, added', hadd, fun path => ?_⟩
        · rw [atKey_append, show t = (t.1, t.2) from rfl, atKey_ne (Ne.symm hh), List.append_nil, hpend]
        · rw [hm, List.mem_append, List.mem_singleton]
          exact ⟨.inl, fun hin => hin.resolve_right fun heq => hh (congrArg Prod.fst heq)⟩
  · cases h
    have hseen : lib.resolves t.1 = true → t ∈ (b.initHost lib t.1).objects := by
      intro hr
      by_contra hnot
      exact hnew ⟨hreach.trans hr, fun hin => hnot ((hmem t.2).mp hin)⟩
    refine ⟨hq.same, ?_, hq.distinct, fun t' => ?_, hq.count, hq.hosts, hq.known, hq.host, hq.tasks⟩
    · rw [hq.order, List.filter_append]
      by_cases hr : lib.resolves t.1 = true
      · have hin := hseen hr
        rw [hq.order, List.mem_eraseDups] at hin
        rw [List.filter_cons_of_pos (p := fun t : Task => lib.resolves t.1) hr, List.filter_nil,
          eraseDups_snoc.2 hin]
      · rw [List.filter_cons_of_neg (p := fun t : Task => lib.resolves t.1) hr, List.filter_nil, List.append_nil]
    rw [hq.mem, List.mem_append, List.mem_singleton]
    constructor
    · rintro ⟨hin, hr⟩
      exact ⟨.inl hin, hr⟩
    · rintro ⟨hin | rfl, hr⟩
      · exact ⟨hin, hr⟩
      · -- It is there already, as it is reachable.
        exact (hq.mem t').mp (hseen hr)

/-- The addresses of a document, as hosts and paths. -/
def Located (lib : Libraries) (b : Browser) (urls : List (List UInt8)) (ts : List Task) : Prop :=
  List.Forall₂ (fun url t => b.locate lib url = .ok t) urls ts

/-- **What is queued.** -/
theorem addObjects_spec : ∀ {urls : List (List UInt8)} {ts : List Task} {b : Browser} {n m : ℕ},
    Queueing lib b₀ ts b n → addObjects lib urls b n = .ok (b', m) →
      ∃ ts', b₀.Located lib urls ts' ∧ Queueing lib b₀ (ts ++ ts') b' m := by
  intro urls
  induction urls with
  | nil =>
    intro ts b n m hq h
    cases h
    exact ⟨[], .nil, by rwa [List.append_nil]⟩
  | cons url urls ih =>
    intro ts b n m hq h
    obtain ⟨t, ht, h⟩ := bind_eq_ok.mp h
    obtain ⟨⟨b₁, n₁⟩, h₁, h⟩ := bind_eq_ok.mp h
    obtain ⟨ts', hts', hq'⟩ := ih (hq.addObject t h₁) h
    have hlocate : b₀.locate lib url = .ok t := by
      rw [hq.same] at ht
      exact ht
    refine ⟨t :: ts', .cons hlocate hts', ?_⟩
    rwa [List.append_assoc] at hq'

/-! ### Connections are made -/

/-- A connection is made. -/
theorem Sane.newConnection {c : Connection} (hs : Sane lib b)
    (hknown : c.httpHostname.length < strSize → b.downloadTasks c.httpHostname ≠ none)
    (hjob : ∀ t, c.job = some t →
      c.httpHostname = t.1.take strSize ∧ c.remotePath = t.2.take strSize) :
    Sane lib (b.newConnection c) := by
  have hother : ∀ i < b.made, (b.make c).conn i = b.conn i := fun i hi =>
    setConn_ne b c (Nat.ne_of_lt hi)
  have hself : (b.make c).conn b.made = c := setConn_self b b.made c
  have hs₁ : Sane lib (b.make c) := by
    refine ⟨hs.hosts, hs.reachable, hs.first, fun i hi => ?_, fun i hi t ht => ?_,
      fun m hm => Nat.lt_succ_of_lt (hs.values m hm)⟩
    · show ((b.make c).conn i).httpHostname.length < strSize →
        b.downloadTasks ((b.make c).conn i).httpHostname ≠ none
      obtain hi | rfl := Nat.lt_succ_iff_lt_or_eq.mp hi
      · rw [hother i hi]
        exact hs.conns i hi
      · rw [hself]
        exact hknown
    · have ht : ((b.make c).conn i).job = some t := ht
      obtain hi | rfl := Nat.lt_succ_iff_lt_or_eq.mp hi
      · rw [hother i hi] at ht ⊢
        exact hs.jobs i hi t ht
      · rw [hself] at ht ⊢
        exact hjob t ht
  exact (hs₁.inserted (i := b.made) (Nat.lt_succ_self b.made)).frame (frame_insertConnection _ _)

theorem AtWork.newConnection {c : Connection} (hw : AtWork b) (hjob : c.job ≠ none) :
    AtWork (b.newConnection c) := by
  have hw₁ : AtWork ((b.make c).inserted b.made) := by
    intro i hi hphase
    have hphase : ((b.make c).conn i).fg.phase = .busy := hphase
    show ((b.make c).conn i).job ≠ none
    obtain hi | rfl := Nat.lt_succ_iff_lt_or_eq.mp hi
    · rw [make, setConn_ne b c (Nat.ne_of_lt hi)] at hphase ⊢
      exact hw i hi hphase
    · rw [make, setConn_self]
      exact hjob
  exact hw₁.frame (frame_insertConnection _ _)

theorem pool_newConnection (b : Browser) (c : Connection) :
    (b.newConnection c).pool =
      { b.pool with workers := b.made + 1, work := Function.update b.pool.work b.made c.job } := by
  refine (frame_insertConnection (b.make c) b.made).pool.trans ?_
  show ({ b.pool with workers := b.made + 1, work := (b.setConn b.made c).job } : Pool _ _) = _
  rw [job_setConn_eq]
  rfl

theorem tasks_newConnection (b : Browser) (c : Connection) :
    (b.newConnection c).downloadTasks = b.downloadTasks :=
  (frame_insertConnection (b.make c) b.made).tasks

theorem newConnection_same (b : Browser) (c : Connection) :
    (b.newConnection c).state = b.state ∧ (b.newConnection c).firstHostname = b.firstHostname ∧
      (b.newConnection c).sleeping = b.sleeping ∧
      (b.newConnection c).hosts = b.hosts ∧
      (b.newConnection c).maxConcurrentDownloads = b.maxConcurrentDownloads ∧
      (b.newConnection c).embeddedDownloadsExpected = b.embeddedDownloadsExpected ∧
      (b.newConnection c).embeddedDownloadsCompleted = b.embeddedDownloadsCompleted := by
  have hf := frame_insertConnection (b.make c) b.made
  exact ⟨hf.state, hf.first, hf.sleeping, hf.hosts, hf.limit, hf.expected, hf.count⟩

theorem prepare_spec {c : Connection} {host path : List UInt8} {port : ℕ}
    (h : b.prepareFilegetter lib host port path fd = some c) :
    path.head? = some slash ∧ lib.resolves host = true ∧ port ≠ 0 ∧ c = {
      httpHostname := host.take strSize
      remotePath := path.take strSize
      saveToMemory := b.state = .document
      fg := Getter.start.download fd } := by
  rw [prepareFilegetter] at h
  split_ifs at h with hslash hport
  obtain ⟨hres, hport⟩ := not_or.mp hport
  exact ⟨not_not.mp hslash, by simpa using hres, hport, (Option.some_inj.mp h).symm⟩

/-- What `browser_start_tasks` leaves alone. -/
structure Hiring (lib : Libraries) (b b' : Browser) : Prop where
  state : b'.state = b.state
  first : b'.firstHostname = b.firstHostname
  sleeping : b'.sleeping = b.sleeping
  limit : b'.maxConcurrentDownloads = b.maxConcurrentDownloads
  expected : b'.embeddedDownloadsExpected = b.embeddedDownloadsExpected
  count : b'.embeddedDownloadsCompleted = b.embeddedDownloadsCompleted
  completed : b'.completed = b.completed
  notFound : b'.notFound = b.notFound
  failed : b'.failed = b.failed
  objects : b'.objects = b.objects
  hosts : b'.hosts = b.hosts
  steps : Relation.ReflTransGen (Step b.maxConcurrentDownloads) b.pool b'.pool
  sane : Sane lib b'
  atWork : AtWork b'

theorem Hiring.refl (hs : Sane lib b) (hw : AtWork b) : Hiring lib b b :=
  ⟨rfl, rfl, rfl, rfl, rfl, rfl, rfl, rfl, rfl, rfl, rfl, .refl, hs, hw⟩

theorem Hiring.trans (h : Hiring lib b b') (h' : Hiring lib b' b'') : Hiring lib b b'' where
  state := h'.state.trans h.state
  first := h'.first.trans h.first
  sleeping := h'.sleeping.trans h.sleeping
  limit := h'.limit.trans h.limit
  expected := h'.expected.trans h.expected
  count := h'.count.trans h.count
  completed := h'.completed.trans h.completed
  notFound := h'.notFound.trans h.notFound
  failed := h'.failed.trans h.failed
  objects := h'.objects.trans h.objects
  hosts := h'.hosts.trans h.hosts
  steps := h.steps.trans (h.limit ▸ h'.steps)
  sane := h'.sane
  atWork := h'.atWork

/-- **A connection is made for the next path of a host**: a worker is hired. -/
theorem startTask_spec {path : List UInt8} {pending : List (List UInt8)} (hs : Sane lib b) (hw : AtWork b)
    (ht : b.downloadTasks h = some tasks) (hcons : tasks.pending = path :: pending)
    (hroom : (tasks.running : ℤ) < b.maxConcurrentDownloads)
    (hstart : b.startTask lib h path pending tasks fd = .ok b') :
    Hiring lib b b' ∧ b'.downloadTasks = Function.update b.downloadTasks h (some { tasks with
      pending := pending, running := tasks.running + 1 }) := by
  rw [startTask] at hstart
  cases hc : b.prepareFilegetter lib h 80 path fd with
  | none =>
    rw [hc] at hstart
    cases hstart
  | some c =>
    rw [hc] at hstart
    cases hstart
    obtain ⟨_, _, _, rfl⟩ := prepare_spec hc
    have hs₁ : Sane lib { b with asked := b.asked ++ [(h, path)] } :=
      ⟨hs.hosts, hs.reachable, hs.first, hs.conns, hs.jobs, hs.values⟩
    have hknown : (h.take strSize).length < strSize → b.downloadTasks (h.take strSize) ≠ none := by
      intro hshort
      rw [eq_of_take rfl hshort, ht]
      exact Option.some_ne_none _
    set c : Connection := {
      httpHostname := h.take strSize
      remotePath := path.take strSize
      saveToMemory := b.state = .document
      fg := Getter.start.download fd
      job := some (h, path) } with hc
    set b₁ : Browser := { b with asked := b.asked ++ [(h, path)] } with hb₁
    have hs₂ : Sane lib (b₁.newConnection c) := hs₁.newConnection hknown fun t heq => by
      cases heq
      exact ⟨rfl, rfl⟩
    have hw₂ : AtWork (b₁.newConnection c) := AtWork.newConnection (b := b₁) hw (Option.some_ne_none _)
    have hpool := pool_newConnection b₁ c
    have htasks := tasks_newConnection b₁ c
    have ht₂ := (congrFun htasks h).trans ht
    obtain ⟨hstate, hfirst, hsleeping, hhosts, hlimit, hexpected, hcount⟩ := newConnection_same b₁ c
    refine ⟨⟨hstate, hfirst, hsleeping, hlimit, hexpected, hcount, congrArg Pool.completed hpool,
      congrArg Pool.missing hpool, congrArg Pool.failed hpool, congrArg Pool.queued hpool, hhosts,
      .single ?_, hs₂.setTasks (show tasks.reachable = _ from hs.reachable h tasks ht) ?_, hw₂⟩,
      congrArg (Function.update · h _) htasks⟩
    · -- the new connection is the new worker
      rw [pool_setTasks, hpool]
      have hrunning := pool_running ht
      have hstep : Step b.maxConcurrentDownloads b.pool _ :=
        Step.hire ((pool_pending ht).trans hcons) (by rwa [hrunning])
      rwa [hrunning] at hstep
    · rw [ht₂]
      exact Option.some_ne_none _

/-- What is left of the queue of a host when no more connections are made for it. -/
theorem startTasksLoop_spec : ∀ {paths : List (List UInt8)} {b : Browser} {fds fds' : List (Option ℕ)}
    {tasks : DownloadTasks}, Sane lib b → AtWork b → b.downloadTasks h = some tasks → tasks.pending = paths →
      startTasksLoop lib h paths b fds = .ok (b', fds') →
      Hiring lib b b' ∧ (∀ h', h' ≠ h → b'.downloadTasks h' = b.downloadTasks h') ∧
        ∃ tasks', b'.downloadTasks h = some tasks' ∧
          (tasks'.pending ≠ [] → b.maxConcurrentDownloads ≤ tasks'.running) := by
  intro paths
  induction paths with
  | nil =>
    intro b fds fds' tasks hs hw ht hpending hloop
    cases hloop
    exact ⟨.refl hs hw, fun _ _ => rfl, tasks, ht, fun hne => absurd hpending hne⟩
  | cons path paths ih =>
    intro b fds fds' tasks hs hw ht hpending hloop
    rw [startTasksLoop] at hloop
    simp only [ht] at hloop
    split_ifs at hloop with hroom
    · obtain ⟨b₁, hstart, hloop⟩ := bind_eq_ok.mp hloop
      obtain ⟨hh, htasks⟩ := startTask_spec hs hw ht hpending hroom hstart
      have ht₁ : b₁.downloadTasks h = some { tasks with
          pending := paths, running := tasks.running + 1 } := by
        rw [htasks, Function.update_self]
      obtain ⟨hh', hother, tasks', ht', hfull⟩ := ih hh.sane hh.atWork ht₁ rfl hloop
      refine ⟨hh.trans hh', fun h' hne => ?_, tasks', ht', hh.limit ▸ hfull⟩
      rw [hother h' hne, htasks, Function.update_of_ne hne]
    · cases hloop
      exact ⟨.refl hs hw, fun _ _ => rfl, tasks, ht, fun _ => Int.not_lt.mp hroom⟩

/-- No more connections are made for a host: it has as many as may run, or no path is left. -/
def Hired (b : Browser) (h : List UInt8) : Prop :=
  b.pool.pending h ≠ [] → b.maxConcurrentDownloads ≤ b.pool.running h

theorem Hired.of_same (hh : Hired b h) (ht : b'.downloadTasks h = b.downloadTasks h)
    (hl : b'.maxConcurrentDownloads = b.maxConcurrentDownloads) : Hired b' h := by
  intro hne
  have hpending : b'.pool.pending h = b.pool.pending h := by
    show ((b'.downloadTasks h).map _).getD _ = _
    rw [ht]
    rfl
  have hrunning : b'.pool.running h = b.pool.running h := by
    show ((b'.downloadTasks h).map _).getD _ = _
    rw [ht]
    rfl
  rw [hl, hrunning]
  exact hh (hpending ▸ hne)

/-- `browser_start_tasks` for every host. -/
theorem startAll_spec : ∀ {order : List (List UInt8)} {b : Browser} {fds : List (Option ℕ)},
    Sane lib b → AtWork b → startAll lib order b fds = .ok b' →
      Hiring lib b b' ∧ (∀ h ∈ order, Hired b' h) ∧ ∀ h, Hired b h → Hired b' h := by
  intro order
  induction order with
  | nil =>
    intro b fds hs hw hall
    cases hall
    exact ⟨.refl hs hw, fun h hmem => absurd hmem List.not_mem_nil, fun h hh => hh⟩
  | cons k order ih =>
    intro b fds hs hw hall
    obtain ⟨⟨b₁, fds₁⟩, hstart, hall⟩ := bind_eq_ok.mp hall
    rw [startTasks] at hstart
    cases ht : b.downloadTasks k with
    | none =>
      rw [ht] at hstart
      cases hstart
    | some tasks =>
      rw [ht] at hstart
      obtain ⟨hh, hother, tasks', ht', hfull⟩ := startTasksLoop_spec hs hw ht rfl hstart
      have hk : Hired b₁ k := by
        intro hne
        rw [pool_pending ht'] at hne
        rw [hh.limit, pool_running ht']
        exact hfull hne
      have hkeep : ∀ h, Hired b h → Hired b₁ h := by
        intro h hb
        by_cases heq : h = k
        · exact heq ▸ hk
        · exact hb.of_same (hother h heq) hh.limit
      obtain ⟨hh', hmem, hkeep'⟩ := ih hh.sane hh.atWork hall
      refine ⟨hh.trans hh', fun h hin => ?_, fun h hb => hkeep' h (hkeep h hb)⟩
      obtain rfl | hin := List.mem_cons.mp hin
      · exact hkeep' h hk
      · exact hmem h hin

/-! ### The document -/

/-- Nothing has been queued yet: the document is on its way, or will not come. -/
structure Early (lib : Libraries) (b : Browser) : Prop where
  objects : b.objects = []
  asked : b.asked = []
  completed : b.completed = []
  notFound : b.notFound = []
  failed : b.failed = []
  expected : b.embeddedDownloadsExpected = 0
  count : b.embeddedDownloadsCompleted = 0
  tasks : ∀ h tasks, b.downloadTasks h = some tasks → tasks = { reachable := lib.resolves h }
  made : b.made = 1
  doc : b.docConn = 0
  host : (b.conn 0).httpHostname = b.firstHostname.take strSize
  job : ∀ i, b.job i = none

/-- The document has come, and its objects have been queued. -/
structure Loaded (b : Browser) : Prop where
  pool : ∃ p : Pool (List UInt8) (List UInt8), p.Start ∧ p.queued = b.objects ∧
    Relation.ReflTransGen (Step b.maxConcurrentDownloads) p b.pool
  hired : ∀ h, Hired b h
  expected : b.embeddedDownloadsExpected = b.objects.length
  count : b.embeddedDownloadsCompleted = b.completed.length

theorem Early.queueing (he : Early lib b) (hs : Sane lib b) : Queueing lib b [] b 0 := by
  refine ⟨rfl, by rw [he.objects]; rfl, by rw [he.objects]; exact List.nodup_nil, fun t => ?_,
    by rw [he.objects]; rfl, hs.hosts, fun _ => id, fun t hmem => ?_, fun h tasks ht => ?_⟩
  · rw [he.objects]
    exact ⟨fun hmem => absurd hmem List.not_mem_nil, fun hmem => absurd hmem.1 List.not_mem_nil⟩
  · rw [he.objects] at hmem
    exact absurd hmem List.not_mem_nil
  · obtain rfl := he.tasks h tasks ht
    rw [he.objects]
    exact ⟨rfl, rfl, rfl, [], rfl, fun path => ⟨fun hmem => absurd hmem List.not_mem_nil,
      fun hmem => absurd hmem List.not_mem_nil⟩⟩

/-- The objects of a document: those that its elements ask for at hosts that can be reached, in the order
in which they first come. -/
def Holds (b : Browser) (lib : Libraries) (content : List UInt8) (objects : List Task) : Prop :=
  ∃ ts, b.Located lib (addresses lib.strdown lib.tidy content) ts ∧
    objects = (ts.filter fun t => lib.resolves t.1).eraseDups

/-- The objects of a document have been queued, and nothing has been asked for. -/
structure Filled (lib : Libraries) (b₀ : Browser) (content : List UInt8) (b : Browser) (n : ℕ) : Prop where
  objects : b₀.Holds lib content b.objects
  count : n = b.objects.length
  start : b.pool.Start
  sane : Sane lib b
  same : b = { b₀ with hosts := b.hosts, downloadTasks := b.downloadTasks, objects := b.objects }

/-- **`browser_get_embedded_objects`.** -/
theorem getEmbeddedObjects_spec {content : List UInt8} (he : Early lib b) (hs : Sane lib b)
    (h : b.getEmbeddedObjects lib content = .ok (b', n)) : Filled lib b content b' n := by
  obtain ⟨⟨b₁, n₁⟩, hadd, h⟩ := bind_eq_ok.mp h
  cases h
  obtain ⟨ts, hts, hq⟩ := addObjects_spec (he.queueing hs) hadd
  rw [htmlParse_eq] at hts
  rw [List.nil_append] at hq
  have hmap : ∀ h, b₁.destroyAddedTasks.downloadTasks h =
      (b₁.downloadTasks h).map fun tasks => { tasks with added := none } := fun _ => rfl
  have hnone : ∀ h, b₁.destroyAddedTasks.downloadTasks h ≠ none ↔ b₁.downloadTasks h ≠ none := by
    intro h
    rw [hmap, ne_eq, ne_eq, Option.map_eq_none_iff]
  have hconn : b₁.conn = b.conn := by rw [hq.same]
  have hmade : b₁.made = b.made := by rw [hq.same]
  -- the queues are those of the addresses, and all else is as it was before the document
  refine ⟨⟨ts, hts, hq.order⟩, hq.count, ⟨fun h => ?_, hq.distinct, fun h => ?_, fun i => ?_,
    ?_, ?_, ?_, ?_⟩, ⟨fun h hne => ?_, fun h tasks ht => ?_, ?_, fun i hi => ?_, fun i hi t ht => ?_,
    fun m hm => ?_⟩, ?_⟩
  · show ((b₁.destroyAddedTasks.downloadTasks h).map DownloadTasks.pending).getD [] = atKey h b₁.objects
    rw [hmap]
    cases ht : b₁.downloadTasks h with
    | some tasks => exact (hq.tasks h tasks ht).2.2.1
    | none =>
      refine (List.eq_nil_iff_forall_not_mem.mpr fun path hmem => ?_).symm
      exact hq.host _ (mem_atKey.mp hmem) ht
  · show ((b₁.destroyAddedTasks.downloadTasks h).map DownloadTasks.running).getD 0 = 0
    rw [hmap]
    cases ht : b₁.downloadTasks h with
    | some tasks => exact (hq.tasks h tasks ht).2.1
    | none => rfl
  · show (b₁.conn i).job = none
    rw [hconn]
    exact he.job i
  · show b₁.asked = []
    rw [hq.same]
    exact he.asked
  · show b₁.completed = []
    rw [hq.same]
    exact he.completed
  · show b₁.notFound = []
    rw [hq.same]
    exact he.notFound
  · show b₁.failed = []
    rw [hq.same]
    exact he.failed
  · exact hq.hosts h ((hnone h).mp hne)
  · rw [hmap] at ht
    obtain ⟨tasks', ht', rfl⟩ := Option.map_eq_some_iff.mp ht
    exact (hq.tasks h tasks' ht').1
  · refine (hnone _).mpr ?_
    show b₁.downloadTasks b₁.firstHostname ≠ none
    rw [show b₁.firstHostname = b.firstHostname by rw [hq.same]]
    exact hq.known _ hs.first
  · rw [show b₁.destroyAddedTasks.conn = b.conn from hconn]
    exact fun hshort => (hnone _).mpr (hq.known _ (hs.conns i (hmade ▸ hi) hshort))
  · show (b₁.conn i).httpHostname = t.1.take strSize ∧ (b₁.conn i).remotePath = t.2.take strSize
    have ht : (b₁.conn i).job = some t := ht
    rw [hconn] at ht ⊢
    exact hs.jobs i (hmade ▸ hi) t ht
  · show m.value < b₁.made
    rw [hmade]
    refine hs.values m ?_
    have hm : m ∈ b₁.connections := hm
    rwa [show b₁.connections = b.connections by rw [hq.same]] at hm
  · have hsame := hq.same
    rw [hsame]
    rfl

theorem Frame.hiring (hf : Frame b b') (hs : Sane lib b) (hw : AtWork b) : Hiring lib b b' where
  state := hf.state
  first := hf.first
  sleeping := hf.sleeping
  limit := hf.limit
  expected := hf.expected
  count := hf.count
  completed := congrArg Pool.completed hf.pool
  notFound := congrArg Pool.missing hf.pool
  failed := congrArg Pool.failed hf.pool
  objects := congrArg Pool.queued hf.pool
  hosts := hf.hosts
  steps := by rw [hf.pool]
  sane := hs.frame hf
  atWork := hw.frame hf

/-- **The connection of the document is kept for the first host**, if anything is pending there. -/
theorem keepDocument_spec (hstart : b.pool.Start) (hs : Sane lib b) (hw : AtWork b) (hi : i < b.made)
    (hhost : (b.conn i).httpHostname = b.firstHostname.take strSize)
    (h : b.keepDocument i fd = .ok b') : Hiring lib b b' := by
  obtain ⟨⟨b₁, r⟩, hreuse, hrest⟩ := bind_eq_ok.mp h
  have hshort := reuse_short hreuse
  have hhost : (b.conn i).httpHostname = b.firstHostname := eq_of_take hhost hshort
  obtain ⟨tasks, ht, ⟨_, rfl, rfl⟩ | ⟨path, pending, hcons, rfl, rfl⟩⟩ := reuse_cases hreuse
  · cases hrest
    exact (frame_stealConnection b₁ _).hiring hs hw
  · have hfirst : (b.ask i tasks path pending fd).downloadTasks b.firstHostname =
        some { tasks with pending := pending } := by
      show (b.setTasks (b.conn i).httpHostname { tasks with pending := pending }).downloadTasks _ = _
      rw [hhost, setTasks_self]
    have hrest : b' = (b.ask i tasks path pending fd).setTasks b.firstHostname
        { { tasks with pending := pending } with running := 1 } := by
      simp only [show (b.ask i tasks path pending fd).firstHostname = b.firstHostname from rfl, hfirst,
        if_true] at hrest
      exact (Except.ok.inj hrest).symm
    have hpool : b'.pool = { (b.pool.give i b.firstHostname path pending) with
        running := Function.update b.pool.running b.firstHostname 1 } := by
      rw [hrest, pool_setTasks, pool_ask ht, hhost]
      show ({ (b.pool.give i b.firstHostname path pending) with
        pending := Function.update (Function.update b.pool.pending b.firstHostname pending)
          b.firstHostname pending
        running := _ } : Pool _ _) = _
      rw [Function.update_idem]
      rfl
    have hknown : (b.ask i tasks path pending fd).downloadTasks b.firstHostname ≠ none := by
      rw [hfirst]
      exact Option.some_ne_none _
    have hs' : Sane lib b' := by
      rw [hrest]
      exact (hs.ask hshort ht).setTasks (show tasks.reachable = _ from hhost ▸ hs.reachable _ _ ht) hknown
    have hstep : Step b.maxConcurrentDownloads b.pool b'.pool := by
      rw [hpool]
      exact .keep ((pool_pending (hhost ▸ ht)).trans hcons) (hstart.running _) hi (hstart.work i)
    have hw' : AtWork b' := by
      rw [hrest]
      exact (AtWork.ask hw : AtWork (b.ask i tasks path pending fd))
    exact ⟨by rw [hrest]; rfl, by rw [hrest]; rfl, by rw [hrest]; rfl, by rw [hrest]; rfl,
      by rw [hrest]; rfl, by rw [hrest]; rfl, by rw [hrest]; rfl, by rw [hrest]; rfl,
      by rw [hrest]; rfl, by rw [hrest]; rfl, by rw [hrest]; rfl, .single hstep, hs', hw'⟩

/-- What a document leads to: it has no objects, or they have been asked for and not been answered. -/
def Begun (b : Browser) : Prop :=
  b.state = .success ∧ b.objects = [] ∨
    b.state = .embeddedObjects ∧ b.objects ≠ [] ∧ b.completed = [] ∧ b.notFound = [] ∧ b.failed = []

/-- **`browser_downloaded_document`.** -/
theorem downloadedDocument_spec {content : List UInt8} {order : List (List UInt8)} {fds : List (Option ℕ)}
    (he : Early lib b) (hs : Sane lib b) (hphase : (b.conn 0).fg.phase ≠ .busy)
    (horder : ∀ b' n, b.getEmbeddedObjects lib content = .ok (b', n) → order.Perm b'.hosts)
    (h : b.downloadedDocument lib 0 content order fds = .ok b') :
    Loaded b' ∧ Sane lib b' ∧ AtWork b' ∧ Begun b' ∧
      b'.sleeping = b.sleeping ∧ b'.maxConcurrentDownloads = b.maxConcurrentDownloads ∧
      b'.firstHostname = b.firstHostname ∧ b.Holds lib content b'.objects := by
  obtain ⟨⟨b₁, n⟩, hget, h⟩ := bind_eq_ok.mp h
  obtain ⟨b₂, hkeep, h⟩ := bind_eq_ok.mp h
  have hf := getEmbeddedObjects_spec he hs hget
  have hmade : b₁.made = b.made := by rw [hf.same]
  have hconn : b₁.conn = b.conn := by rw [hf.same]
  -- the only connection is the document's, and that one is done
  have hw₁ : AtWork b₁ := by
    intro i hi hbusy
    rw [hmade, he.made] at hi
    obtain rfl := Nat.lt_one_iff.mp hi
    rw [hconn] at hbusy
    exact absurd hbusy hphase
  have hs₁ := hf.sane
  have hk := keepDocument_spec (b := { b₁ with
      documentSize := (b₁.conn 0).fg.curstats.bodyBytesDownloaded }) hf.start
    ⟨hs₁.hosts, hs₁.reachable, hs₁.first, hs₁.conns, hs₁.jobs, hs₁.values⟩ hw₁
    (by show 0 < b₁.made; rw [hmade, he.made]; exact Nat.one_pos)
    (by
      show (b₁.conn 0).httpHostname = b₁.firstHostname.take strSize
      rw [hconn, he.host, show b₁.firstHostname = b.firstHostname by rw [hf.same]]) hkeep
  have hexpected : b₁.embeddedDownloadsExpected = 0 := by
    rw [hf.same]
    exact he.expected
  have hcount : b₁.embeddedDownloadsCompleted = 0 := by
    rw [hf.same]
    exact he.count
  -- nothing has been counted before the document came
  have hcompleted : b₁.completed = [] := hf.start.completed
  have hsleeping : b₂.sleeping = b.sleeping := by
    rw [hk.sleeping, show b₁.sleeping = b.sleeping by rw [hf.same]]
  have hlimit : b₂.maxConcurrentDownloads = b.maxConcurrentDownloads := by
    rw [hk.limit, show b₁.maxConcurrentDownloads = b.maxConcurrentDownloads by rw [hf.same]]
  have hfirst : b₂.firstHostname = b.firstHostname := by
    rw [hk.first, show b₁.firstHostname = b.firstHostname by rw [hf.same]]
  have hobjects : b.Holds lib content b₂.objects := hk.objects ▸ hf.objects
  have hsteps := hk.limit ▸ hk.steps
  have hn := hf.count.trans (congrArg List.length hk.objects).symm
  split_ifs at h with hzero
  · -- The document has no objects.
    cases h
    have hnil : b₂.objects = [] := List.length_eq_zero_iff.mp (hn.symm.trans hzero)
    have hkept := kept_of_steps hsteps hf.start.kept
    refine ⟨⟨⟨b₁.pool, hf.start, hk.objects.symm, hsteps⟩, fun h hne => ?_, ?_, ?_⟩,
      ⟨hk.sane.hosts, hk.sane.reachable, hk.sane.first, hk.sane.conns, hk.sane.jobs, hk.sane.values⟩,
      hk.atWork, .inl ⟨rfl, hnil⟩, hsleeping, hlimit, hfirst, hobjects⟩
    · have hq := hkept.queues h
      rw [show b₂.pool.queued = [] from hnil] at hq
      exact absurd (List.append_eq_nil_iff.mp hq).2 hne
    · show b₂.embeddedDownloadsExpected = b₂.objects.length
      rw [hk.expected, hnil]
      exact hexpected
    · show b₂.embeddedDownloadsCompleted = b₂.completed.length
      rw [hk.count, hk.completed]
      show b₁.embeddedDownloadsCompleted = b₁.completed.length
      rw [hcount, hcompleted]
      rfl
  · have hs₃ : Sane lib { b₂ with
        state := .embeddedObjects
        embeddedDownloadsExpected := n
        embeddedDownloadsCompleted := 0 } :=
      ⟨hk.sane.hosts, hk.sane.reachable, hk.sane.first, hk.sane.conns, hk.sane.jobs, hk.sane.values⟩
    obtain ⟨hh, hmem, hkeep⟩ := startAll_spec hs₃ hk.atWork h
    refine ⟨⟨⟨b₁.pool, hf.start, (hh.objects.trans hk.objects).symm, ?_⟩, fun h => ?_, ?_, ?_⟩, hh.sane,
      hh.atWork, .inr ⟨hh.state, ?_, hh.completed.trans (hk.completed.trans hcompleted),
      hh.notFound.trans (hk.notFound.trans hf.start.missing),
      hh.failed.trans (hk.failed.trans hf.start.failed)⟩, hh.sleeping.trans hsleeping,
      hh.limit.trans hlimit, hh.first.trans hfirst, hh.objects ▸ hobjects⟩
    · -- a host that has no tasks has nothing pending; every other one is in the order
      rw [hh.limit]
      exact hsteps.trans hh.steps
    · by_cases hnone : b₂.downloadTasks h = none
      · refine hkeep h fun hne => absurd ?_ hne
        show ((b₂.downloadTasks h).map DownloadTasks.pending).getD [] = []
        rw [hnone]
        rfl
      · refine hmem h ((horder b₁ n hget).mem_iff.mpr ?_)
        rw [← show b₂.hosts = b₁.hosts from hk.hosts]
        exact hk.sane.hosts h hnone
    · rw [hh.expected, hh.objects]
      exact hn
    · rw [hh.count, hh.completed]
      show 0 = b₂.completed.length
      rw [hk.completed]
      exact (congrArg List.length hcompleted).symm
    · rw [hh.objects]
      intro hnil
      exact hzero (hn.trans (congrArg List.length hnil))

/-! ### Runs -/

variable {limit : ℤ} {host : List UInt8}

/-- The document has come. -/
def HasDocument (b : Browser) : Prop := b.state = .embeddedObjects ∨ b.state = .success

theorem Begun.hasDocument (h : Begun b) : b.HasDocument :=
  h.elim (fun h => .inr h.1) fun h => .inl h.1

/-- **What holds in every state that is reached.** -/
structure Inv (lib : Libraries) (limit : ℤ) (host : List UInt8) (b : Browser) : Prop where
  sane : Sane lib b
  limit : b.maxConcurrentDownloads = limit
  first : b.firstHostname = host
  early : ¬ b.HasDocument → Early lib b
  loaded : b.HasDocument → Loaded b
  atWork : b.state = .embeddedObjects → AtWork b
  asleep : b.sleeping = true → b.state = .hibernate

theorem Early.frame (he : Early lib b) (hf : Frame b b') : Early lib b' where
  objects := (congrArg Pool.queued hf.pool).trans he.objects
  asked := (congrArg Pool.asked hf.pool).trans he.asked
  completed := (congrArg Pool.completed hf.pool).trans he.completed
  notFound := (congrArg Pool.missing hf.pool).trans he.notFound
  failed := (congrArg Pool.failed hf.pool).trans he.failed
  expected := hf.expected.trans he.expected
  count := hf.count.trans he.count
  tasks := hf.tasks ▸ he.tasks
  made := hf.made.trans he.made
  doc := hf.doc.trans he.doc
  host := (hf.host 0).trans (he.host.trans (congrArg (List.take strSize) hf.first.symm))
  job i := (congrFun hf.job i).trans (he.job i)

theorem Hired.frame (hh : Hired b h) (hf : Frame b b') : Hired b' h :=
  hh.of_same (congrFun hf.tasks h) hf.limit

theorem Loaded.frame (hl : Loaded b) (hf : Frame b b') : Loaded b' where
  pool := by
    rw [hf.limit, hf.pool]
    have hobjects : b'.objects = b.objects := congrArg Pool.queued hf.pool
    rw [hobjects]
    exact hl.pool
  hired h := (hl.hired h).frame hf
  expected := by
    rw [hf.expected, hl.expected]
    exact congrArg List.length (congrArg Pool.queued hf.pool).symm
  count := by
    rw [hf.count, hl.count]
    exact congrArg List.length (congrArg Pool.completed hf.pool).symm

theorem Inv.frame (hi : Inv lib limit host b) (hf : Frame b b') : Inv lib limit host b' where
  sane := hi.sane.frame hf
  limit := hf.limit.trans hi.limit
  first := hf.first.trans hi.first
  early h := (hi.early fun h' => h (by rwa [HasDocument, hf.state])).frame hf
  loaded h := (hi.loaded (by rwa [HasDocument, hf.state] at h)).frame hf
  atWork h := (hi.atWork (hf.state ▸ h)).frame hf
  asleep h := hf.state.trans (hi.asleep (hf.sleeping ▸ h))

/-- One step of the pool keeps what is known of it. -/
theorem Loaded.turned (hl : Loaded b) (ht : Turned b b') : Loaded b' := by
  obtain ⟨p, hstart, hqueued, hsteps⟩ := hl.pool
  have hobjects : b'.objects = b.objects := by
    obtain heq | hstep := ht.pool
    · exact congrArg Pool.queued heq
    · exact hstep.queued
  refine ⟨⟨p, hstart, hqueued.trans hobjects.symm, ?_⟩, fun h hne => ?_, ?_, ht.count hl.count⟩
  · rw [ht.limit]
    obtain heq | hstep := ht.pool
    · rwa [heq]
    · exact hsteps.tail hstep
  · rw [ht.limit, ht.running]
    exact hl.hired h (ht.pending h hne)
  · rw [ht.expected, hl.expected, hobjects]

theorem frame_free {b' : Browser} (h : b.free = .ok b') : Frame b b' := by
  obtain ⟨_, _, h⟩ := bind_eq_ok.mp h
  cases h
  have hfold : ∀ (ns : List (Node ℕ ℕ)) (b : Browser),
      Frame b (ns.foldl (fun b n => b.shutdownConnection n.value) b) := by
    intro ns
    induction ns with
    | nil => exact fun b => .refl
    | cons n ns ih => exact fun b => (frame_shutdownConnection b n.value).trans (ih _)
  have hf := hfold b.connections b
  exact ⟨hf.state, hf.pool, hf.tasks, hf.hosts, hf.made, hf.doc, hf.sleeping, hf.first, hf.limit,
    hf.expected, hf.count, hf.host, hf.path, hf.busy, fun n hn => absurd hn List.not_mem_nil⟩

/-- An early state in which only the state and the sleep are changed. -/
theorem Early.state (he : Early lib b) (st : BrowserState) (sl : Bool) :
    Early lib { b with state := st, sleeping := sl } :=
  ⟨he.objects, he.asked, he.completed, he.notFound, he.failed, he.expected, he.count, he.tasks, he.made,
    he.doc, he.host, he.job⟩

theorem Sane.state (hs : Sane lib b) (st : BrowserState) (sl : Bool) :
    Sane lib { b with state := st, sleeping := sl } :=
  ⟨hs.hosts, hs.reachable, hs.first, hs.conns, hs.jobs, hs.values⟩

/-- The invariant of a state in which the document is on its way, or will not come. -/
theorem inv_of_early {st : BrowserState} {sl : Bool} (hs : Sane lib b) (he : Early lib b)
    (hlimit : b.maxConcurrentDownloads = limit) (hfirst : b.firstHostname = host)
    (hst : ¬ (st = .embeddedObjects ∨ st = .success)) (hsl : sl = true → st = .hibernate) :
    Inv lib limit host { b with state := st, sleeping := sl } :=
  ⟨hs.state st sl, hlimit, hfirst, fun _ => he.state st sl, fun h => absurd h hst,
    fun h => absurd (.inl h) hst, hsl⟩

/-- `SB_DOCUMENT`. -/
theorem Inv.activateDocument {sockfd : ℕ} {code : FilegetterCode} {content : List UInt8}
    {order : List (List UInt8)} {fds : List (Option ℕ)} (hinv : Inv lib limit host b)
    (hstate : b.state = .document) (hi : i < b.made) (hphase : code = .ok200 → (b.conn i).fg.phase ≠ .busy)
    (horder : ∀ b' n, b.getEmbeddedObjects lib content = .ok (b', n) → order.Perm b'.hosts)
    (h : b.activateDocument lib i sockfd code content order fds = .ok b') : Inv lib limit host b' := by
  have hsl : b.sleeping = false := by
    by_contra hne
    have := hinv.asleep (by simpa using hne)
    rw [hstate] at this
    cases this
  have he : Early lib b := hinv.early (by rintro (h | h) <;> rw [hstate] at h <;> cases h)
  rw [he.made] at hi
  obtain rfl := Nat.lt_one_iff.mp hi
  rw [Browser.activateDocument] at h
  split_ifs at h with h200 h404 hfatal hother
  · obtain ⟨hl, hs, hw, hst, hslp, hlim, hfi, _⟩ :=
      downloadedDocument_spec he hinv.sane (hphase h200) horder h
    refine ⟨hs, hlim.trans hinv.limit, hfi.trans hinv.first, fun hnot => absurd hst.hasDocument hnot,
      fun _ => hl, fun _ => hw, fun hsleep => ?_⟩
    rw [hslp, hsl] at hsleep
    cases hsleep
  · cases h
    refine inv_of_early hinv.sane he hinv.limit hinv.first (by rintro (h | h) <;> cases h) fun h => ?_
    rw [hsl] at h
    cases h
  · cases h
    have hf := frame_giveUp b 0 (b.sockd 0)
    exact inv_of_early (hinv.sane.frame hf) (he.frame hf) (hf.limit.trans hinv.limit)
      (hf.first.trans hinv.first) (by rintro (h | h) <;> cases h) fun _ => rfl
  · have hf := frame_giveUp b 0 sockfd
    have hsl' : (b.giveUp 0 sockfd).sleeping = false := hf.sleeping.trans hsl
    have hinv' : Inv lib limit host { b.giveUp 0 sockfd with state := .failure } := by
      refine inv_of_early (hinv.sane.frame hf) (he.frame hf) (hf.limit.trans hinv.limit)
        (hf.first.trans hinv.first) ?_ fun h => ?_
      · rintro (h | h) <;> cases h
      · rw [hsl'] at h
        cases h
    exact hinv'.frame (frame_free h)
  · cases h
    exact hinv

/-- `SB_EMBEDDED_OBJECTS`. -/
theorem Inv.activateObject {sockfd : ℕ} {code : FilegetterCode} (hinv : Inv lib limit host b)
    (hstate : b.state = .embeddedObjects) (hi : i < b.made)
    (hcode : code = .ok200 ∨ code = .err404 → b.job i ≠ none ∧ (b.conn i).fg.phase ≠ .busy)
    (h : b.activateObject i sockfd code fd = .ok b') : Inv lib limit host b'.finishIfEmpty := by
  obtain ⟨ht, hs, hw⟩ := activateObject_spec hinv.sane (hinv.atWork hstate) hi hcode h
  have hl := (hinv.loaded (.inl hstate)).turned ht
  have hasleep : b'.sleeping = true → False := by
    intro hsl
    have := hinv.asleep (ht.sleeping ▸ hsl)
    rw [hstate] at this
    cases this
  rw [finishIfEmpty]
  split_ifs with hempty
  · exact ⟨hs.state .success b'.sleeping, ht.limit.trans hinv.limit, ht.first.trans hinv.first,
      fun hnot => absurd (.inr rfl) hnot, fun _ => ⟨hl.pool, hl.hired, hl.expected, hl.count⟩,
      (fun h => by cases h), fun h => (hasleep h).elim⟩
  · have hst : b'.HasDocument := .inl (ht.state.trans hstate)
    exact ⟨hs, ht.limit.trans hinv.limit, ht.first.trans hinv.first, fun hnot => absurd hst hnot,
      fun _ => hl, fun _ => hw, fun h => (hasleep h).elim⟩

/-- What `filegetter_activate` returns says what its connection was asked for. -/
theorem returns_busy {code : FilegetterCode} {fg : Getter} (h : (b.conn i).fg.Returns code fg)
    (hcode : code = .ok200 ∨ code = .err404) :
    (b.conn i).fg.phase = .busy ∧ fg.phase = .spec ∧ fg.sockd ≠ 0 := by
  cases h with
  | needfspec => obtain h | h := hcode <;> cases h
  | wouldblock => obtain h | h := hcode <;> cases h
  | answered hphase _ hphase' hsockd => exact ⟨hphase, hphase', hsockd⟩
  | refused _ hrefusal => obtain rfl | rfl := hrefusal <;> obtain h | h := hcode <;> cases h
  | fatal => obtain h | h := hcode <;> cases h

/-- `browser_wakeup`. -/
theorem Inv.wakeup (hinv : Inv lib limit host b) (hsleep : b.sleeping = true) (fd : Option ℕ) :
    Inv lib limit host (b.wakeup fd) := by
  have hst := hinv.asleep hsleep
  have he : Early lib b := hinv.early (by rintro (h | h) <;> rw [hst] at h <;> cases h)
  have hs := hinv.sane
  have hf := frame_insertConnection (b.restart fd) b.docConn
  have hdoc : b.docConn < b.made := by
    rw [he.doc, he.made]
    exact Nat.one_pos
  have hjob : (b.restart fd).job = b.job :=
    job_setConn (c := { b.conn b.docConn with fg := Getter.start.download fd }) rfl
  have hhost : ∀ i, ((b.restart fd).conn i).httpHostname = (b.conn i).httpHostname :=
    setConn_field (c := { b.conn b.docConn with fg := Getter.start.download fd }) Connection.httpHostname rfl
  have hs₁ : Sane lib (b.restart fd) := by
    refine ⟨hs.hosts, hs.reachable, hs.first, fun i hi => ?_, fun i hi t ht => ?_, hs.values⟩
    · rw [hhost]
      exact hs.conns i hi
    · rw [hjob, he.job] at ht
      cases ht
  have he₁ : Early lib ((b.restart fd).inserted b.docConn) :=
    ⟨he.objects, he.asked, he.completed, he.notFound, he.failed, he.expected, he.count, he.tasks,
      he.made, he.doc, (hhost 0).trans he.host, fun i => (congrFun hjob i).trans (he.job i)⟩
  refine inv_of_early ((hs₁.inserted hdoc).frame hf) (he₁.frame hf) (hf.limit.trans hinv.limit)
      (hf.first.trans hinv.first) (by rintro (h | h) <;> cases h)
    fun h => ?_
  rw [hf.sleeping] at h
  cases h

/-- What an activation that finds a connection does. -/
theorem activate_found {sockfd : ℕ} {code : FilegetterCode} {fg : Getter} {content : List UInt8}
    {order : List (List UInt8)} {fds : List (Option ℕ)}
    (hlook : lookup b.sockd sockfd b.connections = some i)
    (h : b.activate lib sockfd code fg content order fds = .ok b') :
    (b.returned i code fg).activated lib i sockfd code content order fds = .ok b' := by
  obtain ⟨_, _, h⟩ := bind_eq_ok.mp h
  rw [hlook] at h
  exact h

/-- **Every step keeps the invariant.** -/
theorem Inv.step {e : Event} (hinv : Inv lib limit host b) (hpossible : b.Possible lib e)
    (h : b.step lib e = .ok b') : Inv lib limit host b' := by
  cases e with
  | activate sockfd code fg content order fds =>
    cases hlook : lookup b.sockd sockfd b.connections with
    | none =>
      obtain ⟨_, _, h⟩ := bind_eq_ok.mp h
      rw [hlook] at h
      cases h
      exact hinv
    | some i =>
      obtain ⟨hret, _, horder⟩ := hpossible.2.1 i hlook
      obtain ⟨m, hm, _, rfl⟩ := exists_of_lookup hlook
      have hf := frame_returned hret
      have hi := hinv.sane.values m hm
      have hinv' := hinv.frame hf
      have hfg : ((b.returned m.value code fg).conn m.value).fg = fg :=
        congrArg Connection.fg (setConn_self b m.value { b.conn m.value with fg := fg })
      have h := activate_found hlook h
      have hphase : code = .ok200 ∨ code = .err404 →
          ((b.returned m.value code fg).conn m.value).fg.phase ≠ .busy := by
        intro hcode
        rw [hfg, (returns_busy hret hcode).2.1]
        exact fun h => by cases h
      rw [activated] at h
      -- a file getter has been activated, and the browser goes on as its own state says
      cases hst : (b.returned m.value code fg).state with
      | document =>
        rw [hst] at h
        exact hinv'.activateDocument hst hi (fun h => hphase (.inl h)) horder h
      | embeddedObjects =>
        rw [hst] at h
        obtain ⟨b₁, hact, h⟩ := bind_eq_ok.mp h
        cases h
        refine hinv'.activateObject hst hi (fun hcode => ⟨?_, hphase hcode⟩) hact
        rw [hf.job]
        exact hinv.atWork hst m.value hi (returns_busy hret hcode).1
      | hibernate =>
        rw [hst] at h
        cases h
        exact hinv'
      | success =>
        rw [hst] at h
        cases h
        exact hinv'
      | notFound =>
        rw [hst] at h
        cases h
        exact hinv'
      | failure =>
        rw [hst] at h
        cases h
        exact hinv'
  | wakeup fd =>
    cases h
    exact hinv.wakeup hpossible.1 fd

/-- **`browser_launch`.** -/
theorem inv_launch {path : List UInt8} {port : ℕ}
    (h : launch lib host port path limit fd = .ok b) : Inv lib limit host b := by
  rw [launch] at h
  cases hc : ({ firstHostname := host, maxConcurrentDownloads := limit : Browser }.initHost
      lib host).prepareFilegetter lib host port path fd with
  | none =>
    rw [hc] at h
    cases h
  | some c =>
    rw [hc] at h
    cases h
    obtain ⟨_, _, _, rfl⟩ := prepare_spec hc
    rw [initHost_of_none rfl]
    set b₀ : Browser := { ({ firstHostname := host, maxConcurrentDownloads := limit } : Browser) with
      hosts := [] ++ [host] }.setTasks host { reachable := lib.resolves host } with hb₀
    have hself : b₀.downloadTasks host = some { reachable := lib.resolves host } := setTasks_self ..
    have hother : ∀ h', h' ≠ host → b₀.downloadTasks h' = none := fun h' hne => setTasks_ne _ _ hne
    have hknown : b₀.downloadTasks host ≠ none := by
      rw [hself]
      exact Option.some_ne_none _
    -- the host of the page is the only one that has tasks, and its queue is empty
    have htasks : ∀ h tasks, b₀.downloadTasks h = some tasks → h = host ∧
        tasks = { reachable := lib.resolves h } := by
      intro h tasks ht
      by_cases hh : h = host
      · rw [hh, hself] at ht
        exact ⟨hh, hh ▸ (Option.some_inj.mp ht).symm⟩
      · rw [hother h hh] at ht
        cases ht
    have hs₀ : Sane lib b₀ := by
      refine ⟨fun h hne => ?_, fun h tasks ht => ?_, hknown, fun i hi => absurd hi (Nat.not_lt_zero i),
        fun i hi => absurd hi (Nat.not_lt_zero i), fun m hm => absurd hm List.not_mem_nil⟩
      · obtain ⟨tasks, ht⟩ := Option.ne_none_iff_exists'.mp hne
        exact (htasks h tasks ht).1 ▸ List.mem_singleton_self host
      · rw [(htasks h tasks ht).2]
    have hs := hs₀.newConnection (c := {
      httpHostname := host.take strSize
      remotePath := path.take strSize
      saveToMemory := b₀.state = .document
      fg := Getter.start.download fd })
      (fun hshort => by
        rw [show (host.take strSize : List UInt8) = host from eq_of_take rfl hshort]
        exact hknown) fun _ h => by cases h
    have hf := frame_insertConnection (b₀.make {
      httpHostname := host.take strSize
      remotePath := path.take strSize
      saveToMemory := b₀.state = .document
      fg := Getter.start.download fd }) 0
    have hjob : ∀ i, (b₀.make {
        httpHostname := host.take strSize
        remotePath := path.take strSize
        saveToMemory := b₀.state = .document
        fg := Getter.start.download fd }).job i = none := by
      intro i
      show ((b₀.setConn 0 _).conn i).job = none
      by_cases hi : i = 0
      · rw [hi, setConn_self]
      · rw [setConn_ne _ _ hi]
        rfl
    -- the only connection is the document's, which asks for no object
    have he : Early lib ((b₀.make {
        httpHostname := host.take strSize
        remotePath := path.take strSize
        saveToMemory := b₀.state = .document
        fg := Getter.start.download fd }).inserted 0) :=
      ⟨rfl, rfl, rfl, rfl, rfl, rfl, rfl, fun h tasks ht => (htasks h tasks ht).2, rfl, rfl,
        congrArg Connection.httpHostname (setConn_self ..), hjob⟩
    have hst : ∀ st : BrowserState, st = .document → ¬ (st = .embeddedObjects ∨ st = .success) := by
      rintro st rfl (h | h) <;> cases h
    refine ⟨hs, hf.limit, hf.first, fun _ => he.frame hf, fun h => absurd h (hst _ hf.state),
      fun h => ?_, fun h => ?_⟩
    · exact absurd (.inl h) (hst _ hf.state)
    · have hsl : false = true := hf.sleeping.symm.trans h
      cases hsl

variable {path : List UInt8} {port : ℕ} {es : List Event}

theorem not_hasDocument_launch (hl : launch lib host port path limit fd = .ok b) : ¬ b.HasDocument := by
  rw [launch] at hl
  cases hc : ({ firstHostname := host, maxConcurrentDownloads := limit : Browser }.initHost
      lib host).prepareFilegetter lib host port path fd with
  | none =>
    rw [hc] at hl
    cases hl
  | some c =>
    rw [hc] at hl
    cases hl
    rintro (h | h) <;> rw [(newConnection_same _ c).1, initHost_of_none rfl] at h <;> cases h

theorem inv_of_run (hl : launch lib host port path limit fd = .ok b) (hr : Run (Steps lib) b es b') :
    Inv lib limit host b' :=
  hr.invariant (fun _ _ _ hi hs => hi.step hs.1 hs.2) (inv_launch hl)

/-- The objects stay what they are once the document has come. -/
theorem Inv.objects_step {e : Event} (hinv : Inv lib limit host b) (hdoc : b.HasDocument)
    (hs : Steps lib b e b') : b'.HasDocument ∧ b'.objects = b.objects := by
  obtain ⟨hpossible, h⟩ := hs
  cases e with
  | activate sockfd code fg content order fds =>
    cases hlook : lookup b.sockd sockfd b.connections with
    | none =>
      obtain ⟨_, _, h⟩ := bind_eq_ok.mp h
      rw [hlook] at h
      cases h
      exact ⟨hdoc, rfl⟩
    | some i =>
      obtain ⟨hret, _, _⟩ := hpossible.2.1 i hlook
      obtain ⟨m, hm, _, rfl⟩ := exists_of_lookup hlook
      have hi := hinv.sane.values m hm
      have h := activate_found hlook h
      have hf := frame_returned hret
      have hinv' := hinv.frame hf
      rw [activated] at h
      -- the document is there, so only objects are still loaded
      obtain hst | hst := hdoc
      · have hst' := hf.state.trans hst
        rw [hst'] at h
        obtain ⟨b₁, hact, h⟩ := bind_eq_ok.mp h
        cases h
        have hcode : code = .ok200 ∨ code = .err404 → (b.returned m.value code fg).job m.value ≠ none ∧
            ((b.returned m.value code fg).conn m.value).fg.phase ≠ .busy := by
          intro hcode
          refine ⟨?_, ?_⟩
          · rw [hf.job]
            exact hinv.atWork hst m.value hi (returns_busy hret hcode).1
          · rw [show ((b.returned m.value code fg).conn m.value).fg = fg from
              congrArg Connection.fg (setConn_self b m.value { b.conn m.value with fg := fg }),
              (returns_busy hret hcode).2.1]
            exact fun h => by cases h
        obtain ⟨ht, _, _⟩ := activateObject_spec hinv'.sane (hinv'.atWork hst') hi hcode hact
        have hobjects : b₁.objects = b.objects := by
          obtain heq | hstep := ht.pool
          · exact congrArg Pool.queued heq
          · exact hstep.queued
        rw [finishIfEmpty]
        split_ifs
        · exact ⟨.inr rfl, hobjects⟩
        · exact ⟨.inl (ht.state.trans hst'), hobjects⟩
      · rw [hf.state.trans hst] at h
        cases h
        exact ⟨.inr hst, rfl⟩
  | wakeup fd =>
    have hst := hinv.asleep hpossible.1
    obtain h | h := hdoc <;> rw [hst] at h <;> cases h

/-- The document has come with this step. -/
theorem Inv.document_step {e : Event} (hinv : Inv lib limit host b) (hdoc : ¬ b.HasDocument)
    (hs : Steps lib b e b') (hdoc' : b'.HasDocument) :
    ∃ sockfd fg content order fds, e = .activate sockfd .ok200 fg content order fds ∧
      b.Holds lib content b'.objects := by
  obtain ⟨hpossible, h⟩ := hs
  cases e with
  | activate sockfd code fg content order fds =>
    cases hlook : lookup b.sockd sockfd b.connections with
    | none =>
      obtain ⟨_, _, h⟩ := bind_eq_ok.mp h
      rw [hlook] at h
      cases h
      exact absurd hdoc' hdoc
    | some i =>
      obtain ⟨hret, _, horder⟩ := hpossible.2.1 i hlook
      obtain ⟨m, hm, _, rfl⟩ := exists_of_lookup hlook
      have hi := hinv.sane.values m hm
      have h := activate_found hlook h
      have hf := frame_returned hret
      have he : Early lib (b.returned m.value code fg) := (hinv.early hdoc).frame hf
      rw [activated] at h
      cases hst : (b.returned m.value code fg).state with
      -- of the document's states only a full download leads to a document
      | document =>
        rw [hst, Browser.activateDocument] at h
        simp only at h
        rw [(hinv.early hdoc).made] at hi
        rw [Nat.lt_one_iff.mp hi] at h hret hf he horder hst
        have hnot : ∀ {st : BrowserState}, b'.state = st → ¬ (st = .embeddedObjects ∨ st = .success) →
            False := by
          rintro _ rfl hnot
          exact hnot hdoc'
        split_ifs at h with h200 h404 hfatal hother
        · have hphase : ((b.returned 0 code fg).conn 0).fg.phase ≠ .busy := by
            rw [show ((b.returned 0 code fg).conn 0).fg = fg from
              congrArg Connection.fg (setConn_self b 0 { b.conn 0 with fg := fg }),
              (returns_busy hret (.inl h200)).2.1]
            exact fun h => by cases h
          obtain ⟨_, _, _, _, _, _, _, hholds⟩ :=
            downloadedDocument_spec he (hinv.sane.frame hf) hphase horder h
          subst h200
          exact ⟨sockfd, fg, content, order, fds, rfl, hholds⟩
        · cases h
          exact (hnot rfl (by rintro (h | h) <;> cases h)).elim
        · cases h
          exact (hnot rfl (by rintro (h | h) <;> cases h)).elim
        · exact (hnot (frame_free h).state (by rintro (h | h) <;> cases h)).elim
        · cases h
          exact absurd hdoc' hdoc
      | embeddedObjects => exact absurd (.inl (hf.state.symm.trans hst)) hdoc
      | hibernate =>
        rw [hst] at h
        cases h
        exact absurd hdoc' hdoc
      | success => exact absurd (.inr (hf.state.symm.trans hst)) hdoc
      | notFound =>
        rw [hst] at h
        cases h
        exact absurd hdoc' hdoc
      | failure =>
        rw [hst] at h
        cases h
        exact absurd hdoc' hdoc
  | wakeup fd =>
    cases h
    obtain h | h := hdoc' <;> cases h

/-- The objects are those of a document that has come in the run. -/
theorem Inv.document_run (hinv : Inv lib limit host b) (hdoc : ¬ b.HasDocument)
    (hr : Run (Steps lib) b es b') (hdoc' : b'.HasDocument) :
    ∃ sockfd fg content order fds, Event.activate sockfd .ok200 fg content order fds ∈ es ∧
      b.Holds lib content b'.objects := by
  induction hr with
  | nil => exact absurd hdoc' hdoc
  | @cons b b₁ b₂ e es hs hr ih =>
    have hinv₁ := hinv.step hs.1 hs.2
    by_cases hdoc₁ : b₁.HasDocument
    · -- It has come with this step.
      obtain ⟨sockfd, fg, content, order, fds, rfl, hholds⟩ := hinv.document_step hdoc hs hdoc₁
      have hsame := (hr.invariant (P := fun c => Inv lib limit host c ∧ c.HasDocument ∧
        c.objects = b₁.objects) (fun c e c' hc hs => ⟨hc.1.step hs.1 hs.2, (hc.1.objects_step hc.2.1 hs).1,
          (hc.1.objects_step hc.2.1 hs).2.trans hc.2.2⟩) ⟨hinv₁, hdoc₁, rfl⟩).2.2
      exact ⟨sockfd, fg, content, order, fds, List.mem_cons_self, hsame ▸ hholds⟩
    · obtain ⟨sockfd, fg, content, order, fds, hmem, ts, hts, hrest⟩ := ih hinv₁ hdoc₁ hdoc'
      refine ⟨sockfd, fg, content, order, fds, List.mem_cons_of_mem _ hmem, ts, ?_, hrest⟩
      refine hts.imp fun url t ht => ?_
      rwa [locate, hinv₁.first, ← hinv.first] at ht

/-- What is known of the pool in every state. -/
theorem Inv.kept (hinv : Inv lib limit host b) : b.pool.Kept b.maxConcurrentDownloads := by
  by_cases hdoc : b.HasDocument
  · obtain ⟨p, hstart, _, hsteps⟩ := (hinv.loaded hdoc).pool
    exact kept_of_steps hsteps hstart.kept
  · have he := hinv.early hdoc
    refine Pool.Start.kept ⟨fun h => ?_, ?_, fun h => ?_, he.job, he.asked, he.completed,
      he.notFound, he.failed⟩
    · show ((b.downloadTasks h).map DownloadTasks.pending).getD [] = atKey h b.objects
      rw [he.objects]
      cases ht : b.downloadTasks h with
      | none => rfl
      | some tasks =>
        rw [he.tasks h tasks ht]
        rfl
    · show b.objects.Nodup
      rw [he.objects]
      exact List.nodup_nil
    · show ((b.downloadTasks h).map DownloadTasks.running).getD 0 = 0
      cases ht : b.downloadTasks h with
      | none => rfl
      | some tasks =>
        rw [he.tasks h tasks ht]
        rfl

/-- A step that makes no socket. -/
theorem steps_activate {sockfd : ℕ} {code : FilegetterCode} {fg : Getter} {content : List UInt8}
    {order : List (List UInt8)} (hk : sockfd ≠ 0) (hlook : lookup b.sockd sockfd b.connections = some i)
    (hret : (b.conn i).fg.Returns code fg) (hsockd : fg.sockd = 0 ∨ fg.sockd = b.sockd i)
    (horder : (((b.returned i code fg).getEmbeddedObjects lib content).toOption.map
      fun p => p.1.hosts).getD order = order)
    (h : b.step lib (.activate sockfd code fg content order []) = .ok b') :
    Steps lib b (.activate sockfd code fg content order []) b' := by
  refine ⟨⟨hk, fun j hj => ?_, ⟨fun fd hfd => absurd hfd List.not_mem_nil, List.nodup_nil⟩,
    fun fd hfd => absurd hfd List.not_mem_nil⟩, h⟩
  rw [hlook] at hj
  obtain rfl := Option.some_inj.mp hj
  refine ⟨hret, hsockd.imp_right .inl, fun b₁ n heq => ?_⟩
  rw [heq] at horder
  exact .of_eq horder.symm

/-- A page with two images. -/
def twoImages : Libraries where
  resolves _ := true
  tidy _ := some (.node none [] [
    .node (some (ascii "img")) [(ascii "src", some (ascii "/i"))] [],
    .node (some (ascii "img")) [(ascii "src", some (ascii "/j"))] []])
  strdown := List.map Torrent.toLower

/-- A file getter that has its answer. -/
def served : Getter := { sockd := 3, phase := .spec }

/-- The page comes. -/
def pageEvent : Event := .activate 3 .ok200 served [] [ascii "h"] []

theorem twoImages_page : ∃ b b', launch twoImages (ascii "h") 80 (ascii "/") 1 (some 3) = .ok b ∧
    Steps twoImages b pageEvent b' ∧ b'.pool.pending (ascii "h") ≠ [] ∧ b'.HasDocument :=
  ⟨_, _, rfl, steps_activate (i := 0) (by decide) rfl (.answered rfl (.inl rfl) rfl (by decide)) (.inr rfl)
    rfl rfl, List.cons_ne_nil _ _, .inl rfl⟩

/-- **What becomes of the objects.**  They are those of the document that has come.  Those that were
asked for at a host are the first of its queue, in its order; each of them is in flight at one connection,
completed, not found, or lost with a connection that failed; and none was asked for twice.  A connection
asks for its object, with host and path cut to their buffers, and the counter that is reported is the
number of those completed. -/
theorem objects_accounted (hl : launch lib host port path limit fd = .ok b)
    (hr : Run (Steps lib) b es b') :
    (b'.HasDocument → ∃ sockfd fg content order fds,
      Event.activate sockfd .ok200 fg content order fds ∈ es ∧ b.Holds lib content b'.objects) ∧
      b'.objects.Nodup ∧ b'.asked.Nodup ∧
      (∀ h, atKey h b'.asked ++ b'.pool.pending h = atKey h b'.objects) ∧
      b'.asked.Perm (b'.completed ++ b'.notFound ++ b'.failed ++ b'.inFlight) ∧
      b'.embeddedDownloadsExpected = b'.objects.length ∧
      b'.embeddedDownloadsCompleted = b'.completed.length ∧
      ∀ i < b'.made, ∀ t, b'.job i = some t →
        (b'.conn i).httpHostname = t.1.take strSize ∧
          (b'.conn i).remotePath = t.2.take strSize := by
  have hinv := inv_of_run hl hr
  have hkept := hinv.kept
  refine ⟨(inv_launch hl).document_run (not_hasDocument_launch hl) hr, hkept.distinct, hkept.nodup_asked,
    hkept.queues, hkept.accounted, ?_, ?_, hinv.sane.jobs⟩
  · by_cases hdoc : b'.HasDocument
    · exact (hinv.loaded hdoc).expected
    · rw [(hinv.early hdoc).expected, (hinv.early hdoc).objects]
      rfl
  · by_cases hdoc : b'.HasDocument
    · exact (hinv.loaded hdoc).count
    · rw [(hinv.early hdoc).count, (hinv.early hdoc).completed]
      rfl

/-- The objects of the page with two images. -/
theorem objects_accounted_images : ∃ b b' : Browser, Steps twoImages b pageEvent b' ∧
    (∃ sockfd fg content order fds,
      Event.activate sockfd .ok200 fg content order fds ∈ [pageEvent] ∧ b.Holds twoImages content b'.objects) ∧
      b'.asked.Perm (b'.completed ++ b'.notFound ++ b'.failed ++ b'.inFlight) := by
  obtain ⟨b, b', hl, hstep, _, hdoc⟩ := twoImages_page
  obtain ⟨hholds, _, _, _, hperm, _⟩ := objects_accounted hl (.cons hstep (.nil _))
  exact ⟨b, b', hstep, hholds hdoc, hperm⟩

/-- **How many connections a host has.**  Never more than may run (or the one of the document), and while
a path of the host is pending there are as many, each in flight with an object of the host or lost with
one. -/
theorem connections_bounded (hl : launch lib host port path limit fd = .ok b)
    (hr : Run (Steps lib) b es b') (h : List UInt8) :
    b'.pool.busy h + (atKey h b'.failed).length ≤ b'.pool.running h ∧
      (b'.pool.running h : ℤ) ≤ max limit 1 ∧
      (b'.pool.pending h ≠ [] →
        b'.pool.busy h + (atKey h b'.failed).length = b'.pool.running h ∧
          limit ≤ b'.pool.running h) := by
  have hinv := inv_of_run hl hr
  have hstaffed := hinv.limit ▸ hinv.kept.staffed h
  refine ⟨hstaffed.room, hstaffed.bound, fun hne => ⟨hstaffed.noneIdle hne, ?_⟩⟩
  by_cases hdoc : b'.HasDocument
  · exact hinv.limit ▸ (hinv.loaded hdoc).hired h hne
  · refine absurd ?_ hne
    have hq := hinv.kept.queues h
    rw [show b'.pool.queued = [] from (hinv.early hdoc).objects] at hq
    exact (List.append_eq_nil_iff.mp hq).2

/-- The second image waits for the first. -/
theorem connections_bounded_images : ∃ b b' : Browser, Steps twoImages b pageEvent b' ∧
    b'.pool.busy (ascii "h") + (atKey (ascii "h") b'.failed).length = b'.pool.running (ascii "h") ∧
      1 ≤ (b'.pool.running (ascii "h") : ℤ) := by
  obtain ⟨b, b', hl, hstep, hpending, _⟩ := twoImages_page
  exact ⟨b, b', hstep, (connections_bounded hl (.cons hstep (.nil _)) (ascii "h")).2.2 hpending⟩

end Browser

end BrowserPlugin

end ShadowBrowser
