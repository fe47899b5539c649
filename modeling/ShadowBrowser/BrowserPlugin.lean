/-
The browser plug-in: `browser.c`.

A browser downloads a document, collects its objects and queues them by host, each path of a host once.
The connection of the document goes on with the objects of the first host, and for every host so many
connections are made as may run at once; a connection that is done takes the next path from the queue of
its host.  When the table of connections is empty the browser is done.

The table is keyed by pointers to the sockets of the file getters (`CellTable`).  A file getter that dies
sets its socket to 0, and one whose SOCKS server sends it elsewhere has another; from then on its
connection is neither found nor taken out.

The file getters are the environment: `Getter.Returns` says what `filegetter_activate` may return, and
what it leaves in the fields that the browser uses (`Filegetter.returns` in `BrowserGetter` shows it of
the file getter itself).  A socket that is made is one that is not open (`Event.Possible`).

`objects`, `asked`, `completed`, `notFound`, `failed`, `lost` and the `job` of a connection are ghosts:
what was queued, what was asked for, how it ended, and whether a connection has lost its place.
-/
import Mathlib.Data.Int.Notation
import Mathlib.Logic.Function.Basic
import ShadowBrowser.CellTable
import ShadowBrowser.FileGetter
import ShadowBrowser.HtmlObjects
import ShadowBrowser.Runs

namespace ShadowBrowser

open CellTable Checked FileTransfer Runs Texts

namespace BrowserPlugin

/-! ### File getters, as the browser sees them -/

/-- The states of a file getter: `FG_IDLE`, `FG_SPEC`, and those of a download. -/
inductive Phase
  | idle | spec | busy
  deriving DecidableEq, Repr

/-- `filegetter_t`: what the browser uses of it, and whether it can be asked for a file. -/
structure Getter where
  sockd : ℕ := 0
  phase : Phase := .idle
  curstats : FilegetterFilestats := {}
  allstats : FilegetterFilestats := {}
  deriving DecidableEq, Repr

namespace Getter

/-- `filegetter_start`. -/
def start : Getter := { phase := .spec }

/-- `filegetter_shutdown`. -/
def shutdown (g : Getter) : Getter := { g with sockd := 0, phase := .idle }

/-- `filegetter_set_specs`: only in `FG_SPEC`. -/
def setSpecs (g : Getter) : Getter := if g.phase = .spec then { g with curstats := {} } else g

/-- `filegetter_download`.  The connections of a browser are persistent, so a socket that is there is
kept; else `fd` is the socket that could be made and connected. -/
def download (g : Getter) (fd : Option ℕ) : Getter :=
  if 0 < g.sockd then { g.setSpecs with phase := .busy }
  else if g.phase = .spec then
    match fd with
    | none => g.setSpecs
    | some fd => { g.setSpecs with sockd := fd, phase := .busy }
  else g

/-- What `filegetter_activate` may return, and what it leaves behind.  The socket is kept, unless the
SOCKS server sends the getter elsewhere; a getter that dies has none. -/
inductive Returns : Getter → FilegetterCode → Getter → Prop
  | needfspec {g : Getter} (phase : g.phase = .spec) : Returns g .errNeedfspec g
  | wouldblock {g g' : Getter} (phase : g.phase = .busy) (phase' : g'.phase = .busy)
      (sockd : g'.sockd ≠ 0) : Returns g .errWouldblock g'
  | answered {g g' : Getter} {code : FilegetterCode} (phase : g.phase = .busy)
      (answer : code = .ok200 ∨ code = .err404) (phase' : g'.phase = .spec) (sockd : g'.sockd ≠ 0) :
      Returns g code g'
  | refused {g g' : Getter} {code : FilegetterCode} (phase : g.phase = .busy)
      (refusal : code = .errSocksinit ∨ code = .errSocksconn) (phase' : g'.phase = .busy)
      (sockd : g'.sockd = g.sockd) : Returns g code g'
  | fatal {g g' : Getter} (phase : g.phase = .busy) (phase' : g'.phase = .idle)
      (sockd : g'.sockd = 0) : Returns g .errFatal g'

end Getter

/-! ### The browser -/

/-- A path at a host. -/
abbrev Task := List UInt8 × List UInt8

/-- What the libraries give: the host names that have an address, what libtidy makes of a document, and
`g_utf8_strdown`. -/
structure Libraries where
  resolves : List UInt8 → Bool
  tidy : List UInt8 → Option TidyNode
  strdown : List UInt8 → List UInt8

/-- `enum browser_state`. -/
inductive BrowserState
  | document | hibernate | embeddedObjects | success | notFound | failure
  deriving DecidableEq, Repr

/-- `browser_download_tasks_t`; the set of the paths that were added is destroyed at the end of the
parse. -/
structure DownloadTasks where
  running : ℕ := 0
  added : Option (List (List UInt8)) := some []
  reachable : Bool
  pending : List (List UInt8) := []
  deriving DecidableEq, Repr

/-- `browser_connection_t`; `job` is the object it was last asked for, as long as there is no
answer. -/
structure Connection where
  httpHostname : List UInt8 := []
  remotePath : List UInt8 := []
  saveToMemory : Bool := false
  fg : Getter := {}
  job : Option Task := none
  deriving DecidableEq, Repr

/-- `browser_t`: `conn` is what the pointers to connections point to, of which `made` have been made,
`hosts` the keys of `download_tasks`; `sleeping` is that `browser_wakeup` has been scheduled, and `freed`
that the table of connections has been destroyed. -/
structure Browser where
  state : BrowserState := .document
  firstHostname : List UInt8
  maxConcurrentDownloads : ℤ
  hosts : List (List UInt8) := []
  downloadTasks : List UInt8 → Option DownloadTasks := fun _ => none
  conn : ℕ → Connection := fun _ => {}
  made : ℕ := 0
  connections : List (Node ℕ ℕ) := []
  docConn : ℕ := 0
  bytesDownloaded : ℕ := 0
  bytesUploaded : ℕ := 0
  cumulativeSize : ℕ := 0
  documentSize : ℕ := 0
  embeddedDownloadsExpected : ℕ := 0
  embeddedDownloadsCompleted : ℕ := 0
  sleeping : Bool := false
  freed : Bool := false
  objects : List Task := []
  asked : List Task := []
  completed : List Task := []
  notFound : List Task := []
  failed : List Task := []
  lost : Bool := false

/-- What ends the program: a pointer that is null or dangling is used, or a text is read whose end did
not fit into its buffer. -/
inductive Fault
  | nullHostname
  | nullConnection
  | nullTasks
  | unterminated
  | freed
  deriving DecidableEq, Repr

namespace Browser

variable (lib : Libraries) (b : Browser)

/-- The cell that is the key of a connection. -/
def sockd (i : ℕ) : ℕ := (b.conn i).fg.sockd

/-- The object that a connection was asked for. -/
def job (i : ℕ) : Option Task := (b.conn i).job

/-- A connection is changed. -/
def setConn (i : ℕ) (c : Connection) : Browser := { b with conn := Function.update b.conn i c }

@[simp] theorem setConn_self (i : ℕ) (c : Connection) : (b.setConn i c).conn i = c :=
  Function.update_self ..

theorem setConn_ne {i j : ℕ} (c : Connection) (h : j ≠ i) : (b.setConn i c).conn j = b.conn j :=
  Function.update_of_ne h ..

/-- The tasks of a host are changed. -/
def setTasks (h : List UInt8) (tasks : DownloadTasks) : Browser :=
  { b with downloadTasks := Function.update b.downloadTasks h (some tasks) }

@[simp] theorem setTasks_self (h : List UInt8) (tasks : DownloadTasks) :
    (b.setTasks h tasks).downloadTasks h = some tasks := Function.update_self ..

theorem setTasks_ne {h h' : List UInt8} (tasks : DownloadTasks) (hne : h' ≠ h) :
    (b.setTasks h tasks).downloadTasks h' = b.downloadTasks h' := Function.update_of_ne hne ..

/-- `browser_init_host`. -/
def initHost (hostname : List UInt8) : Browser :=
  match b.downloadTasks hostname with
  | some _ => b
  | none =>
    { b with hosts := b.hosts ++ [hostname] }.setTasks hostname { reachable := lib.resolves hostname }

/-- Host and path of an address; the host of one that cannot be taken apart stays `NULL`. -/
def locate (url : List UInt8) : Except Fault Task :=
  if UrlIsAbsolute url then
    match urlGetParts lib.strdown url with
    | some parts => .ok parts
    | none => .error .nullHostname
  else if [slash] <+: url then .ok (b.firstHostname, url)
  else .ok (b.firstHostname, slash :: url)

/-- An object is queued at its host, unless it was before. -/
def addObject (objCount : ℕ) (t : Task) : Except Fault (Browser × ℕ) :=
  match (b.initHost lib t.1).downloadTasks t.1 with
  | none => .error .nullTasks
  | some tasks =>
    match tasks.added with
    | none => .error .freed
    | some added =>
      if tasks.reachable = true ∧ t.2 ∉ added then
        .ok ({ (b.initHost lib t.1).setTasks t.1 { tasks with
          pending := tasks.pending ++ [t.2]
          added := some (t.2 :: added) } with
          objects := b.objects ++ [t] }, objCount + 1)
      else .ok (b.initHost lib t.1, objCount)

/-- The loop of `browser_get_embedded_objects`. -/
def addObjects : List (List UInt8) → Browser → ℕ → Except Fault (Browser × ℕ)
  | [], b, objCount => .ok (b, objCount)
  | url :: urls, b, objCount => do
    let t ← b.locate lib url
    let (b, objCount) ← b.addObject lib objCount t
    addObjects urls b objCount

/-- `browser_destroy_added_tasks`, for every host. -/
def destroyAddedTasks : Browser :=
  { b with downloadTasks := fun h => (b.downloadTasks h).map fun tasks => { tasks with added := none } }

/-- `browser_get_embedded_objects`. -/
def getEmbeddedObjects (content : List UInt8) : Except Fault (Browser × ℕ) := do
  let (b, objCount) ← addObjects lib (htmlParse lib.strdown lib.tidy content) b 0
  return (b.destroyAddedTasks, objCount)

/-- `browser_prepare_filegetter`, without the SOCKS proxy.  Host and path are cut to their buffers; the
path is followed by zeros even then. -/
def prepareFilegetter (host : List UInt8) (port : ℕ) (filepath : List UInt8) (fd : Option ℕ) :
    Option Connection :=
  if filepath.head? ≠ some slash then none
  else if lib.resolves host = false ∨ port = 0 then none
  else some {
    httpHostname := host.take strSize
    remotePath := filepath.take strSize
    saveToMemory := b.state = .document
    fg := Getter.start.download fd }

/-- `browser_shutdown_connection`. -/
def shutdownConnection (i : ℕ) : Browser :=
  { b.setConn i { b.conn i with fg := (b.conn i).fg.shutdown } with
    bytesDownloaded := b.bytesDownloaded + (b.conn i).fg.allstats.bytesDownloaded
    bytesUploaded := b.bytesUploaded + (b.conn i).fg.allstats.bytesUploaded
    cumulativeSize := b.cumulativeSize + (b.conn i).fg.allstats.bodyBytesDownloaded }

/-- `g_hash_table_insert`, of a connection. -/
def inserted (i : ℕ) : Browser :=
  { b with connections := CellTable.insert b.sockd i i b.connections }

/-- `g_hash_table_insert`: a connection that is replaced is shut down. -/
def insertConnection (i : ℕ) : Browser :=
  match lookup b.sockd (b.sockd i) b.connections with
  | none => b.inserted i
  | some j => (b.inserted i).shutdownConnection j

/-- A connection is made. -/
def make (c : Connection) : Browser :=
  { b.setConn b.made c with made := b.made + 1, lost := b.lost || c.fg.sockd = 0 }

/-- A connection is made and put into the table. -/
def newConnection (c : Connection) : Browser := (b.make c).insertConnection b.made

/-- `g_hash_table_steal`. -/
def stealConnection (k : ℕ) : Browser := { b with connections := steal b.sockd k b.connections }

/-- `g_hash_table_remove`. -/
def removeConnection (k : ℕ) : Browser :=
  match lookup b.sockd k b.connections with
  | none => b
  | some i => (b.stealConnection k).shutdownConnection i

/-- A connection is asked for a path that is taken from the queue of its host. -/
def ask (i : ℕ) (tasks : DownloadTasks) (path : List UInt8) (pending : List (List UInt8))
    (fd : Option ℕ) : Browser :=
  { (b.setTasks (b.conn i).httpHostname { tasks with pending := pending }).setConn i { b.conn i with
      remotePath := path.take strSize
      fg := (b.conn i).fg.download fd
      job := some ((b.conn i).httpHostname, path) } with
    asked := b.asked ++ [((b.conn i).httpHostname, path)] }

/-- `browser_reuse_connection`. -/
def reuseConnection (i : ℕ) (fd : Option ℕ) : Except Fault (Browser × Bool) := do
  check ((b.conn i).httpHostname.length < strSize) .unterminated
  match b.downloadTasks (b.conn i).httpHostname with
  | none => .error .nullTasks
  | some tasks =>
    match tasks.pending with
    | [] => .ok (b, false)
    | path :: pending => .ok (b.ask i tasks path pending fd, true)

/-- A path of a host is taken from its queue, and a connection is made for it. -/
def startTask (h path : List UInt8) (pending : List (List UInt8)) (tasks : DownloadTasks)
    (fd : Option ℕ) : Except Fault Browser :=
  match b.prepareFilegetter lib h 80 path fd with
  | none => .error .nullConnection
  | some c =>
    .ok ({ b with asked := b.asked ++ [(h, path)] }.newConnection { c with
      job := some (h, path) } |>.setTasks h { tasks with
        pending := pending
        running := tasks.running + 1 })

/-- The loop of `browser_start_tasks`; `fds` are the sockets that are made. -/
def startTasksLoop (h : List UInt8) :
    List (List UInt8) → Browser → List (Option ℕ) → Except Fault (Browser × List (Option ℕ))
  | [], b, fds => .ok (b, fds)
  | path :: pending, b, fds =>
    match b.downloadTasks h with
    | none => .error .nullTasks
    | some tasks =>
      if (tasks.running : ℤ) < b.maxConcurrentDownloads then do
        let b ← b.startTask lib h path pending tasks (fds.headD none)
        startTasksLoop h pending b fds.tail
      else .ok (b, fds)

/-- `browser_start_tasks`. -/
def startTasks (h : List UInt8) (fds : List (Option ℕ)) : Except Fault (Browser × List (Option ℕ)) :=
  match b.downloadTasks h with
  | none => .error .nullTasks
  | some tasks => startTasksLoop lib h tasks.pending b fds

/-- `browser_start_tasks` for every host, in the order in which the table is walked. -/
def startAll : List (List UInt8) → Browser → List (Option ℕ) → Except Fault Browser
  | [], b, _ => .ok b
  | h :: hs, b, fds => do
    let (b, fds) ← b.startTasks lib h fds
    startAll hs b fds

/-- The connection of the document goes on with the first host, or is forgotten. -/
def keepDocument (i : ℕ) (fd : Option ℕ) : Except Fault Browser := do
  let (b, reused) ← b.reuseConnection i fd
  if reused then
    match b.downloadTasks b.firstHostname with
    | none => .error .nullTasks
    | some tasks => .ok (b.setTasks b.firstHostname { tasks with running := 1 })
  else .ok (b.stealConnection (b.sockd i))

/-- `browser_downloaded_document`; `order` is the order of the hosts in their table. -/
def downloadedDocument (i : ℕ) (content : List UInt8) (order : List (List UInt8))
    (fds : List (Option ℕ)) : Except Fault Browser := do
  let (b, objCount) ← b.getEmbeddedObjects lib content
  let b ← { b with
    documentSize := (b.conn i).fg.curstats.bodyBytesDownloaded }.keepDocument i (fds.headD none)
  if objCount = 0 then .ok { b with state := .success }
  else
    startAll lib order { b with
      state := .embeddedObjects
      embeddedDownloadsExpected := objCount
      embeddedDownloadsCompleted := 0 } fds

/-- The answer to what a connection was asked for has come. -/
def answered (i : ℕ) : Browser := b.setConn i { b.conn i with job := none }

/-- A connection takes the next path of its host, or is taken out of the table by the key `k`. -/
def goOn (i k : ℕ) (fd : Option ℕ) : Except Fault Browser := do
  let (b, reused) ← b.reuseConnection i fd
  if reused then .ok b else .ok (b.removeConnection k)

/-- `browser_downloaded_object`. -/
def downloadedObject (i : ℕ) (fd : Option ℕ) : Except Fault Browser :=
  { b.answered i with
    embeddedDownloadsCompleted := b.embeddedDownloadsCompleted + 1
    completed := b.completed ++ (b.job i).toList }.goOn i (b.sockd i) fd

/-- A connection is taken out of the table by the key `k`, and its file getter is shut down. -/
def giveUp (i k : ℕ) : Browser :=
  (b.stealConnection k).setConn i { b.conn i with fg := (b.conn i).fg.shutdown }

/-- `browser_free`. -/
def free : Except Fault Browser := do
  check (b.freed = false) .freed
  return { b.connections.foldl (fun b n => b.shutdownConnection n.value) b with
    connections := []
    freed := true }

/-- The part of `browser_activate` for `SB_DOCUMENT`. -/
def activateDocument (i sockfd : ℕ) (code : FilegetterCode) (content : List UInt8)
    (order : List (List UInt8)) (fds : List (Option ℕ)) : Except Fault Browser :=
  if code = .ok200 then b.downloadedDocument lib i content order fds
  else if code = .err404 then .ok { b with state := .notFound }
  else if code = .errFatal ∨ code = .errSocksconn then
    .ok { b.giveUp i (b.sockd i) with state := .hibernate, sleeping := true }
  else if code ≠ .errWouldblock then { b.giveUp i sockfd with state := .failure }.free
  else .ok b

/-- The part of `browser_activate` for `SB_EMBEDDED_OBJECTS`, up to the last test. -/
def activateObject (i sockfd : ℕ) (code : FilegetterCode) (fd : Option ℕ) : Except Fault Browser :=
  if code = .ok200 then b.downloadedObject i fd
  else if code = .err404 then
    { b.answered i with notFound := b.notFound ++ (b.job i).toList }.goOn i sockfd fd
  else if code = .errFatal ∨ code = .errSocksconn ∨ code ≠ .errWouldblock then
    .ok { (b.answered i).giveUp i sockfd with failed := b.failed ++ (b.job i).toList }
  else .ok b

/-- If there is no connection left, we are done. -/
def finishIfEmpty : Browser := if b.connections.length = 0 then { b with state := .success } else b

/-- `browser_activate` of a connection, after `filegetter_activate` has returned. -/
def activated (i sockfd : ℕ) (code : FilegetterCode) (content : List UInt8)
    (order : List (List UInt8)) (fds : List (Option ℕ)) : Except Fault Browser :=
  match b.state with
  | .document => b.activateDocument lib i sockfd code content order fds
  | .embeddedObjects => do
    let b ← b.activateObject i sockfd code (fds.headD none)
    return b.finishIfEmpty
  | _ => .ok b

/-- A file getter has been activated. -/
def returned (i : ℕ) (code : FilegetterCode) (fg : Getter) : Browser :=
  { b.setConn i { b.conn i with fg := fg } with
    lost := b.lost || code = .errFatal || fg.sockd ≠ b.sockd i }

/-- `browser_activate`: `code` is what `filegetter_activate` returns, which leaves `fg`, and `content`
the document it has saved. -/
def activate (sockfd : ℕ) (code : FilegetterCode) (fg : Getter) (content : List UInt8)
    (order : List (List UInt8)) (fds : List (Option ℕ)) : Except Fault Browser := do
  check (b.freed = false) .freed
  match lookup b.sockd sockfd b.connections with
  | none => return b
  | some i => (b.returned i code fg).activated lib i sockfd code content order fds

/-- The file getter of the document is started again. -/
def restart (fd : Option ℕ) : Browser :=
  { b.setConn b.docConn { b.conn b.docConn with fg := Getter.start.download fd } with
    sleeping := false
    lost := b.lost || fd = none }

/-- `browser_wakeup`. -/
def wakeup (fd : Option ℕ) : Browser :=
  { (b.restart fd).insertConnection b.docConn with state := .document }

/-- `browser_launch`. -/
def launch (host : List UInt8) (port : ℕ) (path : List UInt8) (maxConcurrentDownloads : ℤ)
    (fd : Option ℕ) : Except Fault Browser :=
  let b := { firstHostname := host, maxConcurrentDownloads : Browser }.initHost lib host
  match b.prepareFilegetter lib host port path fd with
  | none => .error .nullConnection
  | some c => .ok (b.newConnection c)

/-! ### Runs -/

/-- What happens to a browser: one of its sockets is ready, or its sleep is over. -/
inductive Event
  | activate (sockfd : ℕ) (code : FilegetterCode) (fg : Getter) (content : List UInt8)
      (order : List (List UInt8)) (fds : List (Option ℕ))
  | wakeup (fd : Option ℕ)

/-- One step. -/
def step : Event → Except Fault Browser
  | .activate sockfd code fg content order fds => b.activate lib sockfd code fg content order fds
  | .wakeup fd => .ok (b.wakeup fd)

/-- The socket is not open: it is not one of the standard streams, and no file getter has it. -/
def Fresh (fd : ℕ) : Prop := 2 < fd ∧ ∀ i < b.made, b.sockd i ≠ fd

/-- The sockets that are made are fresh, and no two are the same. -/
def FreshAll (fds : List (Option ℕ)) : Prop :=
  (∀ fd, some fd ∈ fds → b.Fresh fd) ∧ (fds.filterMap id).Nodup

/-- What can happen. -/
def Possible : Event → Prop
  | .activate sockfd code fg content order fds =>
    sockfd ≠ 0 ∧
    (∀ i, lookup b.sockd sockfd b.connections = some i →
      (b.conn i).fg.Returns code fg ∧
      (fg.sockd = 0 ∨ fg.sockd = b.sockd i ∨ b.Fresh fg.sockd) ∧
      ∀ b' n, (b.returned i code fg).getEmbeddedObjects lib content = .ok (b', n) →
        order.Perm b'.hosts) ∧
    b.FreshAll fds ∧ ∀ fd, some fd ∈ fds → fd ≠ fg.sockd
  | .wakeup fd => b.sleeping = true ∧ ∀ k, fd = some k → b.Fresh k

/-- A possible step. -/
def Steps (b : Browser) (e : Event) (b' : Browser) : Prop :=
  b.Possible lib e ∧ b.step lib e = .ok b'

/-- The objects that were asked for and have no answer yet. -/
def inFlight : List Task := (List.range b.made).filterMap b.job

end Browser

end BrowserPlugin

end ShadowBrowser
