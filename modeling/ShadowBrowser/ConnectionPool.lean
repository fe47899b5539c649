/-
What holds of the connection manager in every run.

* `Accounts` — every submitted request is held in one place or its end has been told;
* `Inv` — the requests of a net location are dispatched in the order of their
  submission, and while requests wait there is a connection and none is idle;
* `Inv.change` — a change at one net location keeps both, when it keeps the account of
  requests and the pool of that location;
* **`request_conserved`** — each request is in exactly one place, or has ended once;
* **`waiting_served`** — no request waits beside an idle connection, the number of
  connections is bounded, and requests are dispatched in order.
-/
import Mathlib.Data.List.Nodup
import ShadowBrowser.ConnectionManager

namespace ShadowBrowser.Http

open Checked Runs

/-! ### One connection -/

namespace Conn

variable {c : Conn} {r : Request}

/-- Sending keeps the requests of a connection. -/
theorem maybeSend_spec (h : c.queues.active.length ≤ 1) :
    ∃ c', c.maybeSend = .ok c' ∧ c'.queues.held = c.queues.held ∧
      c'.queues.active.length ≤ 1 := by
  obtain ⟨q, o, hwrite, hheld, hact⟩ := ReqQueues.write_spec h
  refine ⟨{ c with queues := q }, ?_, hheld, hact⟩
  simp [maybeSend, onQueue, hwrite, Except.mapError]

/-- A connection to which a request is submitted holds it behind the others. -/
theorem submitRequest_spec (h : c.queues.active.length ≤ 1) :
    ∃ c', c.submitRequest r = .ok c' ∧ c'.queues.held = c.queues.held ++ [r] ∧
      c'.queues.active.length ≤ 1 := by
  by_cases hcon : c.connected = true
  · obtain ⟨c', hsend, hheld, hact⟩ :=
      maybeSend_spec (c := { c with queues := c.queues.push r }) (by simpa using h)
    rw [hcon] at hsend
    exact ⟨c', by simp [submitRequest, hcon, hsend], by simpa using hheld, hact⟩
  · exact ⟨{ c with queues := c.queues.push r }, by simp [submitRequest, hcon], by simp, by simpa⟩

end Conn

/-- The size of a connection is positive when it holds a request. -/
theorem size_pos_of_held {q : ReqQueues Request} {rs : List Request} {r : Request}
    (h : q.held = rs ++ [r]) : 0 < q.size := by
  rw [← q.length_held, h, List.length_append, List.length_singleton]
  omega

/-- The requests of some connections. -/
def heldBy (cs : List Conn) : List Request := cs.flatMap fun c => c.queues.held

theorem count_heldBy_set {cs : List Conn} {i : ℕ} {c : Conn} (h : cs[i]? = some c)
    (c' : Conn) (r : Request) :
    (heldBy (cs.set i c')).count r + c.queues.held.count r =
      (heldBy cs).count r + c'.queues.held.count r := by
  induction cs generalizing i with
  | nil => simp at h
  | cons d cs ih =>
    cases i with
    | zero =>
      simp only [List.getElem?_cons_zero, Option.some.injEq] at h
      subst h
      simp only [List.set_cons_zero, heldBy, List.flatMap_cons, List.count_append]
      omega
    | succ i =>
      have hrest := ih (i := i) (by simpa using h)
      simp only [heldBy] at hrest
      simp only [List.set_cons_succ, heldBy, List.flatMap_cons, List.count_append]
      omega

theorem count_heldBy_eraseIdx {cs : List Conn} {i : ℕ} {c : Conn} (h : cs[i]? = some c)
    (r : Request) :
    (heldBy (cs.eraseIdx i)).count r + c.queues.held.count r = (heldBy cs).count r := by
  induction cs generalizing i with
  | nil => simp at h
  | cons d cs ih =>
    cases i with
    | zero =>
      simp only [List.getElem?_cons_zero, Option.some.injEq] at h
      subst h
      simp only [List.eraseIdx_cons_zero, heldBy, List.flatMap_cons, List.count_append]
      omega
    | succ i =>
      have hrest := ih (i := i) (by simpa using h)
      simp only [heldBy] at hrest
      simp only [List.eraseIdx_cons_succ, heldBy, List.flatMap_cons, List.count_append]
      omega

/-! ### The invariant -/

/-- The requests of a server: those that wait, and those of its connections. -/
def Server.held (s : Server) : List Request :=
  s.requests ++ heldBy s.connections

/-- The connections of a server are in order, except that the one at position `ex` may be idle
while requests wait. -/
structure Server.Pool (maxPersist : ℕ) (ex : Option ℕ) (s : Server) : Prop where
  served : s.requests ≠ [] → s.connections ≠ []
  bounded : s.connections.length ≤ maxPersist
  single : ∀ c ∈ s.connections, c.queues.active.length ≤ 1
  busy : s.requests ≠ [] → ∀ i c, s.connections[i]? = some c → some i ≠ ex → 0 < c.queues.size
  focus : ∀ i ∈ ex, i < s.connections.length

namespace ConnectionManager

/-- The requests held at a net location. -/
def held (cm : ConnectionManager) (nl : NetLoc) : List Request := (cm.server nl).held

/-- The requests that wait at a net location. -/
def waiting (cm : ConnectionManager) (nl : NetLoc) : List Request := (cm.server nl).requests

/-- The requests of `rs` for a net location. -/
def ofNetLoc (nl : NetLoc) (rs : List Request) : List Request :=
  rs.filter fun r => r.netloc = nl

/-- Each submitted request is held, or its end has been told, once in all. -/
def Accounts (cm : ConnectionManager) : Prop :=
  ∀ r, (cm.held r.netloc).count r + (cm.notices.map Prod.fst).count r = cm.submitted.count r

/-- The invariant.  At the net locations where `ex` names a connection, that connection may be
idle while requests wait; of the pool at the net location `skip`, whose server is about to be
removed, nothing is said. -/
structure Inv (skip : Option NetLoc) (ex : NetLoc → Option ℕ) (cm : ConnectionManager) :
    Prop where
  pos : 0 < cm.maxPersistCnxPerSrv
  retries : cm.maxRetriesPerResource = 0
  ids : ∀ (i : ℕ) (r : Request), cm.submitted[i]? = some r → r.objId = i
  filed : ∀ nl, ∀ r ∈ cm.held nl, r.netloc = nl ∧ r.numRetries = 0
  order : ∀ nl, (ofNetLoc nl cm.dispatched ++ cm.waiting nl).Sublist (ofNetLoc nl cm.submitted)
  pool : ∀ nl, some nl ≠ skip → (cm.server nl).Pool cm.maxPersistCnxPerSrv (ex nl)

/-- No connection is excepted. -/
def nobody : NetLoc → Option ℕ := fun _ => none

/-- A net location without a server is in order. -/
theorem pool_empty (maxPersist : ℕ) : ({} : Server).Pool maxPersist none :=
  ⟨by simp, by simp, by simp, by simp, by simp⟩

theorem inv_new {maxPersist maxRetries : ℕ} {cm : ConnectionManager}
    (h : new maxPersist maxRetries = .ok cm) : Inv none nobody cm ∧ Accounts cm := by
  obtain ⟨_, hpos, h⟩ := bind_eq_ok.mp h
  obtain ⟨_, hzero, h⟩ := bind_eq_ok.mp h
  cases h
  refine ⟨⟨check_eq_ok.mp hpos, check_eq_ok.mp hzero, by simp, ?_, ?_, fun nl _ => pool_empty _⟩,
    fun r => rfl⟩
  · simp [held, server, Server.held, heldBy]
  · simp [ofNetLoc, waiting, server]

variable {skip : Option NetLoc} {ex ex' : NetLoc → Option ℕ} {cm cm' : ConnectionManager}
  {nl : NetLoc}

theorem server_setServer (nl : NetLoc) (s : Option Server) (cm : ConnectionManager) :
    (cm.setServer nl s).server nl = s.getD {} := by
  simp [server, setServer]

theorem server_setServer_of_ne {nl' : NetLoc} (h : nl' ≠ nl) (s : Option Server)
    (cm : ConnectionManager) : (cm.setServer nl s).server nl' = cm.server nl' := by
  simp [server, setServer, Function.update_of_ne h]

/-- Requests for `nl` are all there is to keep of them at `nl`, and nothing elsewhere. -/
theorem ofNetLoc_of_forall {rs : List Request} (h : ∀ r ∈ rs, r.netloc = nl) (nl' : NetLoc) :
    ofNetLoc nl' rs = if nl' = nl then rs else [] := by
  by_cases hnl : nl' = nl
  · rw [if_pos hnl]
    exact List.filter_eq_self.mpr fun r hr => by simp [hnl, h r hr]
  · rw [if_neg hnl]
    refine List.filter_eq_nil_iff.mpr fun r hr => ?_
    simpa [h r hr] using Ne.symm hnl

/-- **A change at one net location.**  The requests `ds` are submitted there, `dd` are dispatched,
and the end of `dn` is told; then the new server `s'` holds what the old one held and what was
submitted, without what has ended. -/
theorem Inv.change (h : Inv skip ex cm) (nl : NetLoc) (s' : Option Server)
    (ds dd : List Request) (dn : List (Request × Outcome))
    (hcm : cm' = { cm.setServer nl s' with
      submitted := cm.submitted ++ ds
      dispatched := cm.dispatched ++ dd
      notices := cm.notices ++ dn })
    (hids : ∀ (i : ℕ) (r : Request), ds[i]? = some r → r.objId = cm.submitted.length + i)
    (hds : ∀ r ∈ ds, r.netloc = nl ∧ r.numRetries = 0) (hdd : ∀ r ∈ dd, r.netloc = nl)
    (hdn : ∀ n ∈ dn, n.1.netloc = nl)
    (haccount : ∀ r, (s'.getD {}).held.count r + (dn.map Prod.fst).count r =
      (cm.held nl).count r + ds.count r)
    (horder : (dd ++ (s'.getD {}).requests).Sublist (cm.waiting nl ++ ds))
    (hex : ∀ nl', nl' ≠ nl → ex' nl' = ex nl')
    (hpool : some nl ≠ skip → (s'.getD {}).Pool cm.maxPersistCnxPerSrv (ex' nl)) :
    Inv skip ex' cm' ∧ (Accounts cm → Accounts cm') := by
  subst hcm
  have hserver : ({ cm.setServer nl s' with
      submitted := cm.submitted ++ ds
      dispatched := cm.dispatched ++ dd
      notices := cm.notices ++ dn } : ConnectionManager).server nl = s'.getD {} :=
    server_setServer nl s' cm
  have hserver' : ∀ nl', nl' ≠ nl → ({ cm.setServer nl s' with
      submitted := cm.submitted ++ ds
      dispatched := cm.dispatched ++ dd
      notices := cm.notices ++ dn } : ConnectionManager).server nl' = cm.server nl' :=
    fun nl' hne => server_setServer_of_ne hne s' cm
  refine ⟨⟨h.pos, h.retries, ?_, ?_, ?_, ?_⟩, ?_⟩
  · -- the identifiers go on where those of the earlier requests end
    intro i r hr
    by_cases hi : i < cm.submitted.length
    · simp only [List.getElem?_append_left hi] at hr
      exact h.ids i r hr
    · rw [List.getElem?_append_right (by omega)] at hr
      have hid := hids _ r hr
      omega
  · -- what the new server holds was held by the old one, or has been submitted
    intro nl' r hr
    by_cases hnl : nl' = nl
    · subst hnl
      rw [held, hserver] at hr
      have hpos : 0 < (s'.getD {}).held.count r := List.count_pos_iff.mpr hr
      have hnew := haccount r
      by_cases hin : r ∈ ds
      · exact hds r hin
      · rw [List.count_eq_zero.mpr hin] at hnew
        exact h.filed nl' r (List.count_pos_iff.mp (by omega))
    · rw [held, hserver' _ hnl] at hr
      exact h.filed nl' r hr
  · -- at this net location what is sent on comes before what waits, and at others nothing moves
    intro nl'
    have hold := h.order nl'
    have hdd' := ofNetLoc_of_forall hdd nl'
    have hds' := ofNetLoc_of_forall (fun r hr => (hds r hr).1) nl'
    simp only [ofNetLoc] at hold hdd' hds'
    simp only [ofNetLoc, List.filter_append, hdd', hds']
    by_cases hnl : nl' = nl
    · subst hnl
      rw [waiting, hserver, if_pos rfl, if_pos rfl, List.append_assoc]
      refine (List.Sublist.append_left horder _).trans ?_
      rw [← List.append_assoc]
      exact List.Sublist.append_right hold _
    · rw [waiting, hserver' _ hnl, if_neg hnl, if_neg hnl, List.append_nil, List.append_nil]
      exact hold
  · intro nl' hskip
    by_cases hnl : nl' = nl
    · subst hnl
      rw [hserver]
      exact hpool hskip
    · rw [hserver' _ hnl, hex nl' hnl]
      exact h.pool nl' hskip
  · -- the requests are counted one by one
    intro hacc r
    have hold := hacc r
    by_cases hnl : r.netloc = nl
    · have hnew := haccount r
      rw [hnl] at hold
      rw [held, hnl, hserver]
      simp only [List.map_append, List.count_append]
      omega
    · -- none of what has changed is about this request
      have hds' : ds.count r = 0 := List.count_eq_zero.mpr fun hr => hnl (hds r hr).1
      have hdn' : (dn.map Prod.fst).count r = 0 := by
        refine List.count_eq_zero.mpr fun hr => ?_
        obtain ⟨n, hn, rfl⟩ := List.mem_map.mp hr
        exact hnl (hdn n hn)
      rw [held] at hold
      rw [held, hserver' _ hnl]
      simp only [List.map_append, List.count_append]
      omega

/-! ### Submitting -/

/-- The request that the user submits next. -/
def newRequest (cm : ConnectionManager) (nl : NetLoc) : Request :=
  { objId := cm.submitted.length, netloc := nl }

/-- The first waiting request is given to a connection. -/
theorem dispatch_spec {s : Server} {r : Request} {rest : List Request} {i : ℕ} {c : Conn}
    (hs : cm.servers nl = some s) (hr : s.requests = r :: rest) (hc : s.connections[i]? = some c)
    (hact : c.queues.active.length ≤ 1) :
    ∃ c', dispatch nl i cm = .ok { cm.setServer nl
          (some { requests := rest, connections := s.connections.set i c' })
        with dispatched := cm.dispatched ++ [r] } ∧
      c'.queues.held = c.queues.held ++ [r] ∧ c'.queues.active.length ≤ 1 := by
  obtain ⟨c', hsub, hheld, hact'⟩ := Conn.submitRequest_spec (r := r) hact
  refine ⟨c', ?_, hheld, hact'⟩
  simp [dispatch, hs, hr, hc, hsub]

/-- When a connection has taken a request, the pool is in order if the other connections are. -/
theorem pool_set {maxPersist i : ℕ} {o : Option ℕ} {cs : List Conn} {c' : Conn}
    {rest : List Request} (hne : cs ≠ []) (hbound : cs.length ≤ maxPersist)
    (hsingle : ∀ c ∈ cs, c.queues.active.length ≤ 1) (hact : c'.queues.active.length ≤ 1)
    (hpos : 0 < c'.queues.size)
    (hbusy : rest ≠ [] → ∀ j c, j ≠ i → cs[j]? = some c → some j ≠ o → 0 < c.queues.size)
    (hfocus : ∀ j ∈ o, j < cs.length) :
    ({ requests := rest, connections := cs.set i c' } : Server).Pool maxPersist o := by
  refine ⟨fun _ => ?_, ?_, ?_, ?_, ?_⟩
  · simpa using hne
  · simpa using hbound
  · intro c hc
    rcases List.mem_or_eq_of_mem_set hc with hc | rfl
    · exact hsingle c hc
    · exact hact
  · intro hrest j c hj hjo
    by_cases hji : j = i
    · subst hji
      rw [List.getElem?_set_self'] at hj
      obtain ⟨_, _, rfl⟩ := Option.map_eq_some_iff.mp hj
      exact hpos
    · rw [List.getElem?_set_ne (Ne.symm hji)] at hj
      exact hbusy hrest j c hji hj hjo
  · intro j hj
    simpa using hfocus j hj

theorem mem_newRequest {r : Request} (h : r ∈ [cm.newRequest nl]) :
    r.netloc = nl ∧ r.numRetries = 0 := by
  rw [List.mem_singleton.mp h]
  exact ⟨rfl, rfl⟩

theorem objId_newRequest (cm : ConnectionManager) (nl : NetLoc) (i : ℕ) (r : Request)
    (h : [cm.newRequest nl][i]? = some r) : r.objId = cm.submitted.length + i := by
  cases i with
  | zero =>
    simp only [List.getElem?_cons_zero, Option.some.injEq] at h
    rw [← h]
    rfl
  | succ i => simp at h

/-- A new request is submitted, and a connection takes the first that waits. -/
theorem Inv.submit_to {cs : List Conn} {i : ℕ} {c c' : Conn} {f : Request} {rest : List Request}
    (h : Inv skip ex cm) (hcs : heldBy cs = heldBy (cm.server nl).connections)
    (hi : cs[i]? = some c) (hheld : c'.queues.held = c.queues.held ++ [f])
    (hf : (cm.server nl).requests ++ [cm.newRequest nl] = f :: rest)
    (hpool : some nl ≠ skip → ({ requests := rest, connections := cs.set i c' } : Server).Pool
      cm.maxPersistCnxPerSrv (ex nl))
    (hcm : cm' = { cm.setServer nl (some { requests := rest, connections := cs.set i c' }) with
      submitted := cm.submitted ++ [cm.newRequest nl]
      dispatched := cm.dispatched ++ [f] }) :
    Inv skip ex cm' ∧ (Accounts cm → Accounts cm') := by
  have hfnl : f.netloc = nl := by
    have hmem : f ∈ (cm.server nl).requests ++ [cm.newRequest nl] := by simp [hf]
    rcases List.mem_append.mp hmem with hmem | hmem
    · exact (h.filed nl f (List.mem_append_left _ hmem)).1
    · exact (mem_newRequest hmem).1
  refine h.change nl (some { requests := rest, connections := cs.set i c' })
    [cm.newRequest nl] [f] [] (by simp [hcm, setServer]) (objId_newRequest cm nl)
    (fun r => mem_newRequest) (by simp [hfnl]) (by simp) ?_ ?_ (fun _ _ => rfl) hpool
  · intro x
    have hset := count_heldBy_set hi c' x
    have hcons : (cm.server nl).requests ++ [cm.newRequest nl] = [f] ++ rest := hf
    have hcounts := congrArg (List.count x) hcons
    rw [hheld, hcs] at hset
    simp only [List.count_append] at hset hcounts
    simp only [held, Server.held, Option.getD_some, List.count_append, List.map_nil,
      List.count_nil]
    omega
  · rw [waiting, hf]
    exact List.Sublist.refl _

theorem pushed_newRequest (cm : ConnectionManager) (nl : NetLoc) :
    pushed (cm.newRequest nl) { cm with submitted := cm.submitted ++ [cm.newRequest nl] } =
      { cm.server nl with requests := (cm.server nl).requests ++ [cm.newRequest nl] } := rfl

/-- **A request is submitted.**  No assertion fails, and the invariant is kept. -/
theorem Inv.submit (h : Inv skip ex cm) (nl : NetLoc) :
    ∃ cm', cm.submit nl = .ok cm' ∧ Inv skip ex cm' ∧ (Accounts cm → Accounts cm') := by
  obtain ⟨f, rest, hf⟩ := List.exists_cons_of_ne_nil
    (l := (cm.server nl).requests ++ [cm.newRequest nl]) (by simp)
  have hrest : rest ≠ [] → (cm.server nl).requests ≠ [] := by
    intro hne hnil
    rw [hnil] at hf
    simp at hf
    exact hne hf.2
  have hsubmit : cm.submit nl = submitRequest (cm.newRequest nl)
      { cm with submitted := cm.submitted ++ [cm.newRequest nl] } := rfl
  rw [hsubmit]
  simp only [submitRequest, pushed_newRequest, show (cm.newRequest nl).netloc = nl from rfl]
  cases hfind : (cm.server nl).connections.findIdx? fun c => c.queues.size = 0 with
  | some i =>
    -- an idle connection takes the first request that waits
    obtain ⟨hi, hzero, -⟩ := List.findIdx?_eq_some_iff_getElem.mp hfind
    have hact : ((cm.server nl).connections[i]).queues.active.length ≤ 1 := by
      have hsize : ((cm.server nl).connections[i]).queues.size = 0 := by simpa using hzero
      simp only [ReqQueues.size] at hsize
      omega
    have hc : (cm.server nl).connections[i]? = some (cm.server nl).connections[i] :=
      List.getElem?_eq_getElem hi
    obtain ⟨c', hdisp, hheld, hact'⟩ := dispatch_spec (r := f) (i := i)
      (s := { cm.server nl with requests := (cm.server nl).requests ++ [cm.newRequest nl] })
      (show (setServer nl (some { cm.server nl with
          requests := (cm.server nl).requests ++ [cm.newRequest nl] })
        { cm with submitted := cm.submitted ++ [cm.newRequest nl] }).servers nl = _ by
          simp [setServer]) hf hc hact
    refine ⟨_, hdisp, h.submit_to rfl hc hheld hf (fun hskip => ?_) (by simp [setServer])⟩
    have hpool := h.pool nl hskip
    refine pool_set ?_ hpool.bounded hpool.single hact' (size_pos_of_held hheld)
      (fun hne j c _ hj hjex => hpool.busy (hrest hne) j c hj hjex) hpool.focus
    intro hnil
    rw [hnil] at hi
    exact absurd hi (Nat.not_lt_zero i)
  | none =>
    have hnone : ∀ c ∈ (cm.server nl).connections, 0 < c.queues.size := by
      intro c hc
      have hsize := List.findIdx?_eq_none_iff.mp hfind c hc
      simp only [decide_eq_false_iff_not] at hsize
      omega
    by_cases hlt : (cm.server nl).connections.length < cm.maxPersistCnxPerSrv
    · -- a new connection takes the first request that waits
      simp only [if_pos hlt]
      have hc : ((cm.server nl).connections ++ [({} : Conn)])[(cm.server nl).connections.length]? =
          some {} := by simp
      obtain ⟨c', hdisp, hheld, hact'⟩ := dispatch_spec (r := f)
        (i := (cm.server nl).connections.length)
        (s := { requests := (cm.server nl).requests ++ [cm.newRequest nl]
                connections := (cm.server nl).connections ++ [({} : Conn)] }) (c := {})
        (show (setServer nl (some
            { requests := (cm.server nl).requests ++ [cm.newRequest nl]
              connections := (cm.server nl).connections ++ [({} : Conn)] })
          { cm with submitted := cm.submitted ++ [cm.newRequest nl] }).servers nl = _ by
            simp [setServer]) hf hc (by simp)
      refine ⟨_, hdisp, h.submit_to (by simp [heldBy, ReqQueues.held]) hc hheld hf
        (fun hskip => ?_) (by simp [setServer])⟩
      have hpool := h.pool nl hskip
      refine pool_set (by simp) (by simp; omega) ?_ hact' (size_pos_of_held hheld) ?_ ?_
      · intro c hc
        rcases List.mem_append.mp hc with hc | hc
        · exact hpool.single c hc
        · rw [List.mem_singleton.mp hc]
          simp
      · intro _ j c hne hj _
        have hlt' : j < (cm.server nl).connections.length := by
          have := (List.getElem?_eq_some_iff.mp hj).1
          simp at this
          omega
        rw [List.getElem?_append_left hlt'] at hj
        exact hnone c (List.mem_of_getElem? hj)
      · intro j hj
        have := hpool.focus j hj
        simp
        omega
    · -- the request waits
      simp only [if_neg hlt]
      refine ⟨_, rfl, h.change nl
        (some { cm.server nl with requests := (cm.server nl).requests ++ [cm.newRequest nl] })
        [cm.newRequest nl] [] [] (by simp [setServer]) (objId_newRequest cm nl)
        (fun r => mem_newRequest) (by simp) (by simp) ?_ ?_ (fun _ _ => rfl) fun hskip => ?_⟩
      · intro x
        simp only [held, Server.held, Option.getD_some, List.count_append, List.map_nil,
          List.count_nil]
        omega
      · simp only [Option.getD_some, List.nil_append, waiting]
        exact List.Sublist.refl _
      · have hpool := h.pool nl hskip
        refine ⟨fun _ hnil => ?_, hpool.bounded, hpool.single,
          fun _ j c hj _ => hnone c (List.mem_of_getElem? hj), hpool.focus⟩
        have hpos := h.pos
        rw [show (cm.server nl).connections = [] from hnil] at hlt
        exact hlt hpos

/-- The requests that the user submits from inside a callback. -/
theorem Inv.submitAll (inside : List NetLoc) (h : Inv skip ex cm) :
    ∃ cm', exec ConnectionManager.submit cm inside = .ok cm' ∧ Inv skip ex cm' ∧
      (Accounts cm → Accounts cm') := by
  induction inside generalizing cm with
  | nil => exact ⟨cm, rfl, h, id⟩
  | cons nl inside ih =>
    obtain ⟨cm₁, hsub, hinv, hacc⟩ := h.submit nl
    obtain ⟨cm₂, hexec, hinv', hacc'⟩ := ih hinv
    exact ⟨cm₂, by simp only [exec, hsub, ok_bind, hexec], hinv', hacc' ∘ hacc⟩

/-! ### A connection -/

/-- A connection at a position, and its server. -/
theorem conn_eq_some {i : ℕ} {c : Conn} (h : cm.conn nl i = some c) :
    ∃ s, cm.servers nl = some s ∧ cm.server nl = s ∧ s.connections[i]? = some c := by
  obtain ⟨s, hs, hi⟩ := Option.bind_eq_some_iff.mp h
  exact ⟨s, hs, by simp [server, hs], hi⟩

theorem conn_setConn {i : ℕ} {c c' : Conn} (h : cm.conn nl i = some c) :
    (cm.setConn nl i c').conn nl i = some c' := by
  obtain ⟨s, hs, -, hi⟩ := conn_eq_some h
  have hlt : i < s.connections.length := (List.getElem?_eq_some_iff.mp hi).1
  simp [conn, ConnectionManager.setConn, hs, setServer, hlt]

theorem Inv.single {i : ℕ} {c : Conn} (h : Inv none ex cm) (hc : cm.conn nl i = some c) :
    c.queues.active.length ≤ 1 := by
  obtain ⟨s, -, hs, hi⟩ := conn_eq_some hc
  have hpool := h.pool nl (by simp)
  rw [hs] at hpool
  exact hpool.single c (List.mem_of_getElem? hi)

/-- A change of a connection, which may make it idle: the end of the requests `dn` is told. -/
theorem Inv.setConn {i : ℕ} {c : Conn} (c' : Conn) (dn : List (Request × Outcome))
    (h : Inv none ex cm)
    (hc : cm.conn nl i = some c) (hact : c'.queues.active.length ≤ 1)
    (hheld : ∀ r, c'.queues.held.count r + (dn.map Prod.fst).count r = c.queues.held.count r)
    (hdn : ∀ n ∈ dn, n.1.netloc = nl) (hex : ∀ nl', nl' ≠ nl → ex' nl' = ex nl')
    (hself : ∀ j ∈ ex nl, j ∈ ex' nl) (hself' : ∀ j ∈ ex' nl, j ∈ ex nl ∨ j = i)
    (hsize : ex' nl = some i ∨ c'.queues.size = c.queues.size)
    (hcm : cm' = { cm.setConn nl i c' with notices := cm.notices ++ dn }) :
    Inv none ex' cm' ∧ (Accounts cm → Accounts cm') := by
  obtain ⟨s, hs, hserver, hi⟩ := conn_eq_some hc
  have hpool := h.pool nl (by simp)
  rw [hserver] at hpool
  have hlt : i < s.connections.length := (List.getElem?_eq_some_iff.mp hi).1
  refine h.change nl (some { s with connections := s.connections.set i c' }) [] [] dn
    (by simp [hcm, ConnectionManager.setConn, hs, setServer]) (by simp) (by simp) (by simp) hdn
    ?_ ?_ hex fun _ => ⟨?_, ?_, ?_, ?_, ?_⟩
  · intro r
    have hset := count_heldBy_set hi c' r
    have hone := hheld r
    simp only [held, hserver, Option.getD_some, Server.held, List.count_append, List.count_nil]
    omega
  · simp only [waiting, hserver, Option.getD_some, List.nil_append, List.append_nil]
    exact List.Sublist.refl _
  · simpa using hpool.served
  · simpa using hpool.bounded
  · intro d hd
    rcases List.mem_or_eq_of_mem_set hd with hd | rfl
    · exact hpool.single d hd
    · exact hact
  · -- another connection is as busy as it was, and this one keeps its size unless it is in focus
    intro hne j d hj hjex
    have hjex' : some j ≠ ex nl := fun heq => hjex (hself j heq.symm).symm
    by_cases hji : j = i
    · subst hji
      simp only [Option.getD_some] at hj
      rw [List.getElem?_set_self hlt, Option.some.injEq] at hj
      subst hj
      rcases hsize with hsize | hsize
      · exact absurd hsize.symm hjex
      · rw [hsize]
        exact hpool.busy hne j c hi hjex'
    · simp only [Option.getD_some] at hj
      rw [List.getElem?_set_ne (Ne.symm hji)] at hj
      exact hpool.busy hne j d hj hjex'
  · intro j hj
    simp only [Option.getD_some, List.length_set]
    rcases hself' j hj with hj | rfl
    · exact hpool.focus j hj
    · exact hlt

/-- A change of a connection that keeps its requests. -/
theorem Inv.setConn_held {i : ℕ} {c : Conn} (c' : Conn) (h : Inv none ex cm)
    (hc : cm.conn nl i = some c) (hact : c'.queues.active.length ≤ 1)
    (hheld : c'.queues.held = c.queues.held) :
    Inv none ex (cm.setConn nl i c') ∧ (Accounts cm → Accounts (cm.setConn nl i c')) := by
  have hsize : c'.queues.size = c.queues.size := by
    rw [← ReqQueues.length_held, ← ReqQueues.length_held, hheld]
  obtain ⟨s, hs, -, -⟩ := conn_eq_some hc
  exact h.setConn c' [] hc hact (fun r => by simp [hheld]) (by simp) (fun _ _ => rfl)
    (fun j hj => hj) (fun j hj => .inl hj) (.inr hsize)
    (by simp [ConnectionManager.setConn, hs, setServer])

/-- A connection writes what it can. -/
theorem Inv.maybeSend {i : ℕ} {c : Conn} (h : Inv none ex cm) (hc : cm.conn nl i = some c) :
    ∃ cm', maybeSend nl i cm = .ok cm' ∧ Inv none ex cm' ∧ (Accounts cm → Accounts cm') := by
  obtain ⟨c', hsend, hheld, hact⟩ := Conn.maybeSend_spec (h.single hc)
  refine ⟨cm.setConn nl i c', ?_, h.setConn_held c' hc hact hheld⟩
  simp [ConnectionManager.maybeSend, hc, hsend]

/-- A connection is established. -/
theorem Inv.connected {i : ℕ} {c : Conn} (h : Inv none ex cm) (hc : cm.conn nl i = some c) :
    ∃ cm', step cm (.connected nl i) = .ok cm' ∧ Inv none ex cm' ∧
      (Accounts cm → Accounts cm') := by
  have hact := h.single hc
  obtain ⟨hinv, hacc⟩ := h.setConn_held { c with connected := true } hc hact rfl
  obtain ⟨cm', hsend, hinv', hacc'⟩ := hinv.maybeSend (conn_setConn hc)
  exact ⟨cm', by simp only [step, hc, hsend], hinv', hacc' ∘ hacc⟩

/-- **The connection whose response is complete takes the next waiting request.**  Then none is idle
while requests wait. -/
theorem Inv.cnxRequestDoneCb {i : ℕ} (h : Inv none (Function.update nobody nl (some i)) cm) :
    ∃ cm' c, cnxRequestDoneCb nl i cm = .ok cm' ∧ cm'.conn nl i = some c ∧
      Inv none nobody cm' ∧ (Accounts cm → Accounts cm') := by
  have hpool := h.pool nl (by simp)
  rw [Function.update_self] at hpool
  have hlt : i < (cm.server nl).connections.length := hpool.focus i rfl
  obtain ⟨s, hs⟩ : ∃ s, cm.servers nl = some s := by
    cases hs : cm.servers nl with
    | none =>
      simp [server, hs] at hlt
    | some s => exact ⟨s, rfl⟩
  have hserver : cm.server nl = s := by simp [server, hs]
  rw [hserver] at hpool hlt
  have hi : s.connections[i]? = some s.connections[i] := List.getElem?_eq_getElem hlt
  have hex : ∀ nl', nl' ≠ nl → nobody nl' = Function.update nobody nl (some i) nl' :=
    fun nl' hne => (Function.update_of_ne hne ..).symm
  simp only [ConnectionManager.cnxRequestDoneCb, hs]
  -- no request waits, so the connection goes idle; else the first one is dispatched on it
  by_cases hempty : s.requests = []
  · rw [if_pos hempty]
    refine ⟨cm, s.connections[i], rfl, by simp [conn, hs, hi], ?_⟩
    refine h.change nl (some s) [] [] [] ?_ (by simp) (by simp) (by simp) (by simp) ?_ ?_ hex
      fun _ => ⟨hpool.served, hpool.bounded, hpool.single, fun hne => absurd hempty hne, by
        simp [nobody]⟩
    · simp [setServer, ← hs]
    · intro r
      simp [held, hserver]
    · simp [waiting, hserver]
  · rw [if_neg hempty]
    obtain ⟨r, rest, hr⟩ := List.exists_cons_of_ne_nil hempty
    obtain ⟨c', hdisp, hheld, hact⟩ := dispatch_spec hs hr hi
      (hpool.single _ (List.getElem_mem hlt))
    have hfiled : r.netloc = nl := by
      refine (h.filed nl r ?_).1
      simp [held, hserver, Server.held, hr]
    refine ⟨_, c', hdisp, by simp [conn, setServer, hlt], ?_⟩
    refine h.change nl (some { requests := rest, connections := s.connections.set i c' })
      [] [r] [] (by simp [setServer]) (by simp) (by simp) (by simp [hfiled]) (by simp) ?_ ?_ hex
      fun _ => pool_set (hpool.served hempty) hpool.bounded hpool.single hact
        (size_pos_of_held hheld) (fun _ j d hji hj _ => ?_) (by simp [nobody])
    · -- what the connection takes over is what has left the queue
      intro x
      have hset := count_heldBy_set hi c' x
      have hcons : s.requests = [r] ++ rest := hr
      rw [hheld, List.count_append] at hset
      simp only [held, hserver, Option.getD_some, Server.held, hcons, List.count_append,
        List.map_nil, List.count_nil]
      omega
    · simp [waiting, hserver, hr]
    · refine hpool.busy hempty j d hj fun heq => hji ?_
      simpa using heq

/-- **A response is complete.** -/
theorem Inv.doneWithResp {i : ℕ} {c : Conn} (inside : List NetLoc) (h : Inv none nobody cm)
    (hc : cm.conn nl i = some c) (hne : c.queues.active ≠ []) :
    ∃ cm', doneWithResp nl i inside cm = .ok cm' ∧ Inv none nobody cm' ∧
      (Accounts cm → Accounts cm') := by
  obtain ⟨q, r, hdone, hheld, hact⟩ := ReqQueues.done_spec (h.single hc) hne
  obtain ⟨s, hs, hserver, hi⟩ := conn_eq_some hc
  have hnetloc : r.netloc = nl := by
    refine (h.filed nl r ?_).1
    rw [held, hserver]
    refine List.mem_append_right _ (List.mem_flatMap.mpr ⟨c, List.mem_of_getElem? hi, ?_⟩)
    rw [hheld]
    exact List.mem_cons_self
  -- the connection is the one that may be idle, until it has taken the next request
  obtain ⟨hinv, hacc⟩ : Inv none (Function.update nobody nl (some i))
        ((cm.setConn nl i { c with queues := q }).notify r .done) ∧
      (Accounts cm → Accounts ((cm.setConn nl i { c with queues := q }).notify r .done)) := by
    refine h.setConn { c with queues := q } [(r, .done)] hc (by simp [hact]) ?_
      (by simp [hnetloc]) (fun nl' hne => Function.update_of_ne hne ..) (by simp [nobody]) ?_
      (.inl (Function.update_self ..)) (by simp [notify, ConnectionManager.setConn, hs, setServer])
    · intro x
      have hcons : c.queues.held = [r] ++ q.held := hheld
      rw [hcons, List.count_append]
      simp only [List.map_cons, List.map_nil]
      omega
    · intro j hj
      rw [Function.update_self] at hj
      exact .inr (Option.some.inj hj).symm
  obtain ⟨cm₁, hexec, hinv₁, hacc₁⟩ := hinv.submitAll inside
  obtain ⟨cm₂, c₂, hcb, hc₂, hinv₂, hacc₂⟩ := hinv₁.cnxRequestDoneCb
  obtain ⟨cm₃, hsend, hinv₃, hacc₃⟩ := hinv₂.maybeSend hc₂
  refine ⟨cm₃, ?_, hinv₃, fun h => hacc₃ (hacc₂ (hacc₁ (hacc h)))⟩
  simp only [ConnectionManager.doneWithResp, hc, onQueue, hdone, Except.mapError, ok_bind, hexec,
    hcb, hsend]

/-! ### A connection is lost -/

/-- What the user has been told does not matter to the invariant. -/
theorem Inv.setNotices (h : Inv skip ex cm) (ns : List (Request × Outcome)) :
    Inv skip ex { cm with notices := ns } :=
  ⟨h.pos, h.retries, h.ids, h.filed, h.order, h.pool⟩

theorem Inv.skipping (h : Inv none ex cm) (skip : Option NetLoc) : Inv skip ex cm :=
  ⟨h.pos, h.retries, h.ids, h.filed, h.order, fun nl _ => h.pool nl (by simp)⟩

/-- The failed requests `rs`, as they are reported. -/
def failures (rs : List Request) : List (Request × Outcome) := rs.map fun r => (r, .error)

theorem map_fst_failures (rs : List Request) : (failures rs).map Prod.fst = rs := by
  rw [failures, List.map_map]
  exact List.map_id rs

/-- With no retries left, requests fail, and the user may submit others. -/
theorem Inv.retryRequests (rs : List Request) (ins : List (List NetLoc)) (h : Inv skip ex cm)
    (hrs : ∀ r ∈ rs, r.numRetries = 0) :
    ∃ cm' ins', retryRequests rs ins cm = .ok (cm', ins') ∧ Inv skip ex cm' := by
  induction rs generalizing cm ins with
  | nil => exact ⟨cm, ins, rfl, h⟩
  | cons r rs ih =>
    have hzero : r.numRetries = cm.maxRetriesPerResource := by rw [h.retries, hrs r (by simp)]
    obtain ⟨cm₁, hexec, hinv, -⟩ := (h.setNotices (cm.notices ++ [(r, .error)])).submitAll
      (ins.headD [])
    obtain ⟨cm₂, ins₂, hrest, hinv₂⟩ := ih ins.tail hinv fun r' hr' => hrs r' (by simp [hr'])
    refine ⟨cm₂, ins₂, ?_, hinv₂⟩
    simp only [ConnectionManager.retryRequests, if_pos hzero, notifyReqError, notify, hexec,
      ok_bind, hrest]

/-- When the user submits nothing, that is all that happens. -/
theorem retryRequests_nil {rs : List Request} (hmax : cm.maxRetriesPerResource = 0)
    (hrs : ∀ r ∈ rs, r.numRetries = 0) :
    retryRequests rs [] cm = .ok ({ cm with notices := cm.notices ++ failures rs }, []) := by
  induction rs generalizing cm with
  | nil => simp [retryRequests, failures]
  | cons r rs ih =>
    have hzero : r.numRetries = cm.maxRetriesPerResource := by rw [hmax, hrs r (by simp)]
    have hrest := @ih (cm.notify r .error) hmax fun r' hr' => hrs r' (by simp [hr'])
    simp only [retryRequests, if_pos hzero, notifyReqError, List.headD_nil, exec, ok_bind,
      List.tail_nil, hrest]
    simp [notify, failures]

/-- The waiting requests fail, while of the pool at `nl` nothing is said. -/
theorem Inv.failWaiting {fuel k : ℕ} {ins : List (List NetLoc)} {o : List (List NetLoc)}
    (h : Inv skip ex cm) (heq : failWaiting nl fuel k ins cm = .ok (cm', o)) :
    Inv skip ex cm' := by
  induction fuel generalizing cm k ins with
  | zero => cases heq
  | succ fuel ih =>
    simp only [ConnectionManager.failWaiting] at heq
    split at heq
    · cases heq
      exact h
    · next r _ =>
      obtain ⟨cm₁, hone, heq⟩ := bind_eq_ok.mp heq
      obtain ⟨_, _, heq⟩ := bind_eq_ok.mp heq
      obtain ⟨cm₂, hexec, hinv, -⟩ := (h.setNotices (cm.notices ++ [(r, .error)])).submitAll
        (ins.headD [])
      cases hexec.symm.trans hone
      exact ih hinv heq

/-- When the user submits nothing, all of them fail. -/
theorem failWaiting_nil {fuel k : ℕ} (hk : k ≤ (cm.waiting nl).length)
    (hfuel : (cm.waiting nl).length < fuel + k) :
    failWaiting nl fuel k [] cm =
      .ok ({ cm with notices := cm.notices ++ failures ((cm.waiting nl).drop k) }, []) := by
  induction fuel generalizing cm k with
  | zero => omega
  | succ fuel ih =>
    rw [failWaiting]
    by_cases hlt : k < (cm.waiting nl).length
    · have hget : (cm.server nl).requests[k]? = some (cm.waiting nl)[k] :=
        List.getElem?_eq_getElem hlt
      have hrest := @ih (cm.notify (cm.waiting nl)[k] .error) (k + 1) hlt (by
        show (cm.waiting nl).length < fuel + (k + 1)
        omega)
      have hcons : failures ((cm.waiting nl).drop k) =
          ((cm.waiting nl)[k], .error) :: failures ((cm.waiting nl).drop (k + 1)) := by
        rw [List.drop_eq_getElem_cons hlt]
        rfl
      have hnone : ((cm.notify (cm.waiting nl)[k] .error).dispatched.drop
          cm.dispatched.length).countP (fun r => r.netloc = nl) = 0 := by
        simp [notify]
      simp only [hget, notifyReqError, List.headD_nil, exec, ok_bind, List.tail_nil, hnone,
        check_pos (Nat.zero_le k), Nat.sub_zero]
      rw [hrest, hcons, List.append_cons]
      rfl
    · have hnone : (cm.server nl).requests[k]? = none := List.getElem?_eq_none (Nat.not_lt.mp hlt)
      have hdrop : (cm.waiting nl).drop k = [] := List.drop_eq_nil_of_le (Nat.not_lt.mp hlt)
      simp [hnone, hdrop, failures]

/-- A request that is held has not been retried. -/
theorem Inv.numRetries {i : ℕ} {c : Conn} (h : Inv skip ex cm) (hc : cm.conn nl i = some c) :
    ∀ r ∈ c.queues.held, r.netloc = nl ∧ r.numRetries = 0 := by
  intro r hr
  obtain ⟨s, -, hserver, hi⟩ := conn_eq_some hc
  refine h.filed nl r ?_
  rw [held, hserver]
  exact List.mem_append_right _ (List.mem_flatMap.mpr ⟨c, List.mem_of_getElem? hi, hr⟩)

/-- A connection is removed, and the requests in its queues fail.  If it was the last one, nothing
is said of the pool that is left. -/
theorem Inv.eraseConn {i : ℕ} {c : Conn} {s : Server} (h : Inv none nobody cm)
    (hs : cm.servers nl = some s) (hi : s.connections[i]? = some c)
    (hskip : s.connections.eraseIdx i = [] → skip = some nl) :
    Inv skip nobody (cm.setServer nl
      (some { s with connections := s.connections.eraseIdx i })) := by
  have hlt : i < s.connections.length := (List.getElem?_eq_some_iff.mp hi).1
  have hserver : cm.server nl = s := by simp [server, hs]
  have hpool := h.pool nl (by simp)
  have hfiled := h.numRetries (show cm.conn nl i = some c by simp [conn, hs, hi])
  rw [hserver] at hpool
  have hchange := (h.skipping skip).change nl
    (some { s with connections := s.connections.eraseIdx i }) [] [] (failures c.queues.held)
    rfl (by simp) (by simp) (by simp) ?_ ?_ ?_ (fun _ _ => rfl) (fun hne => ?_)
  · have hinv := hchange.1.setNotices cm.notices
    simpa [setServer] using hinv
  · intro n hn
    obtain ⟨r, hr, rfl⟩ := List.mem_map.mp hn
    exact (hfiled r hr).1
  · intro r
    have hone := count_heldBy_eraseIdx hi r
    rw [map_fst_failures]
    simp only [held, hserver, Option.getD_some, Server.held, List.count_append, List.count_nil]
    omega
  · simp [waiting, hserver]
  · have hnil : s.connections.eraseIdx i ≠ [] := fun hnil => hne (hskip hnil).symm
    refine ⟨fun _ => hnil, ?_, ?_, ?_, by simp [nobody]⟩
    · have hbound := hpool.bounded
      simp only [Option.getD_some]
      rw [List.length_eraseIdx, if_pos hlt]
      omega
    · exact fun d hd => hpool.single d (List.mem_of_mem_eraseIdx hd)
    · intro hreq j d hj _
      obtain ⟨j', hj'⟩ := List.mem_iff_getElem?.mp (List.mem_of_mem_eraseIdx
        (List.mem_of_getElem? hj))
      exact hpool.busy hreq j' d hj' (by simp [nobody])

/-- The server whose pool is not in order is removed. -/
theorem Inv.removeServer (h : Inv (some nl) nobody cm) :
    Inv none nobody (cm.setServer nl none) := by
  have hserver := server_setServer nl none cm
  refine ⟨h.pos, h.retries, h.ids, ?_, ?_, ?_⟩
  · intro nl' r hr
    by_cases hnl : nl' = nl
    · subst hnl
      rw [held, hserver] at hr
      simp [Server.held, heldBy] at hr
    · rw [held, server_setServer_of_ne hnl] at hr
      exact h.filed nl' r hr
  · intro nl'
    have hold := h.order nl'
    by_cases hnl : nl' = nl
    · subst hnl
      rw [waiting, hserver]
      show (ofNetLoc nl' cm.dispatched ++ []).Sublist (ofNetLoc nl' cm.submitted)
      rw [List.append_nil]
      exact (List.sublist_append_left _ _).trans hold
    · rw [waiting, server_setServer_of_ne hnl]
      exact hold
  · intro nl' _
    by_cases hnl : nl' = nl
    · subst hnl
      rw [hserver]
      exact pool_empty _
    · rw [server_setServer_of_ne hnl]
      exact h.pool nl' (by simpa using hnl)

/-- **A connection is lost.**  Whatever the user submits meanwhile, the invariant is kept. -/
theorem Inv.handleUnusableConn {i : ℕ} {ins : List (List NetLoc)} (h : Inv none nobody cm)
    (heq : handleUnusableConn nl i ins cm = .ok cm') : Inv none nobody cm' := by
  unfold ConnectionManager.handleUnusableConn at heq
  split at heq
  · cases heq
  · next c hc =>
    obtain ⟨⟨cm₁, ins₁⟩, hrel, heq⟩ := bind_eq_ok.mp heq
    obtain ⟨⟨cm₂, ins₂⟩, hact, heq⟩ := bind_eq_ok.mp heq
    obtain ⟨⟨cm₃, ins₃⟩, hsub, heq⟩ := bind_eq_ok.mp heq
    cases heq
    have hfiled := h.numRetries hc
    obtain ⟨s, hs, -, hi⟩ := conn_eq_some hc
    -- the connection is released
    have hinv₁ : Inv none nobody cm₁ := by
      simp only [releaseConn, hs] at hrel
      obtain ⟨_, _, hrel⟩ := bind_eq_ok.mp hrel
      by_cases hnil : s.connections.eraseIdx i = []
      · rw [if_pos hnil] at hrel
        obtain ⟨⟨cm₀, ins₀⟩, hfail, hrel⟩ := bind_eq_ok.mp hrel
        cases hrel
        have herase : Inv (some nl) nobody (cm.setServer nl
            (some { s with connections := s.connections.eraseIdx i })) :=
          h.eraseConn hs hi fun _ => rfl
        exact (herase.failWaiting hfail).removeServer
      · rw [if_neg hnil] at hrel
        cases hrel
        exact h.eraseConn hs hi fun hnil' => absurd hnil' hnil
    -- the requests in its queues fail
    obtain ⟨cm₂', ins₂', hact', hinv₂⟩ := hinv₁.retryRequests c.queues.active ins₁
      fun r hr => (hfiled r (List.mem_append_left _ hr)).2
    cases hact.symm.trans hact'
    obtain ⟨cm₃', ins₃', hsub', hinv₃⟩ := hinv₂.retryRequests c.queues.submitted ins₂
      fun r hr => (hfiled r (List.mem_append_right _ hr)).2
    cases hsub.symm.trans hsub'
    exact hinv₃

/-- With the last connection, the waiting requests fail and the server is removed. -/
theorem releaseConn_last {i : ℕ} {s : Server} (hs : cm.servers nl = some s)
    (hlt : i < s.connections.length) (hnil : s.connections.eraseIdx i = []) :
    releaseConn nl i [] cm =
      .ok ({ cm.setServer nl none with notices := cm.notices ++ failures s.requests }, []) := by
  have hwaiting : (cm.setServer nl (some { s with connections := [] })).waiting nl =
      s.requests := by
    rw [waiting, server_setServer]
    rfl
  have hfail : failWaiting nl (s.requests.length + 1) 0 []
      (cm.setServer nl (some { s with connections := [] })) = _ :=
    failWaiting_nil (Nat.zero_le _) (by rw [hwaiting]; omega)
  rw [hwaiting, List.drop_zero] at hfail
  simp only [releaseConn, hs, check_pos hlt, ok_bind, hnil, if_true, List.flatten_nil,
    List.length_nil, Nat.add_zero, hfail]
  simp [setServer]

/-- Otherwise they stay, for the other connections. -/
theorem releaseConn_others {i : ℕ} {s : Server} (hs : cm.servers nl = some s)
    (hlt : i < s.connections.length) (hne : s.connections.eraseIdx i ≠ []) :
    releaseConn nl i [] cm = .ok (cm.setServer nl
      (some { s with connections := s.connections.eraseIdx i }), []) := by
  simp only [releaseConn, hs, check_pos hlt, ok_bind, if_neg hne]
  rfl

/-- Then the requests in the queues of the connection fail. -/
theorem handleUnusableConn_eq {i : ℕ} {c : Conn} {cm₁ : ConnectionManager}
    (hc : cm.conn nl i = some c) (hrel : releaseConn nl i [] cm = .ok (cm₁, []))
    (hmax : cm₁.maxRetriesPerResource = 0) (hrs : ∀ r ∈ c.queues.held, r.numRetries = 0) :
    handleUnusableConn nl i [] cm =
      .ok { cm₁ with notices := cm₁.notices ++ failures c.queues.held } := by
  have hactive := retryRequests_nil hmax fun r hr => hrs r (List.mem_append_left _ hr)
  have hsubmitted : retryRequests c.queues.submitted []
      { cm₁ with notices := cm₁.notices ++ failures c.queues.active } = _ :=
    retryRequests_nil hmax fun r hr => hrs r (List.mem_append_right _ hr)
  simp only [ConnectionManager.handleUnusableConn, hc, hrel, ok_bind, hactive, hsubmitted]
  simp [ReqQueues.held, failures]

/-- **A connection is lost, and the user submits nothing meanwhile.**  No assertion fails, and no
request is lost. -/
theorem Inv.handleUnusableConn_nil {i : ℕ} {c : Conn} (h : Inv none nobody cm)
    (hc : cm.conn nl i = some c) :
    ∃ cm', ConnectionManager.handleUnusableConn nl i [] cm = .ok cm' ∧ Inv none nobody cm' ∧
      (Accounts cm → Accounts cm') := by
  obtain ⟨s, hs, hserver, hi⟩ := conn_eq_some hc
  have hlt : i < s.connections.length := (List.getElem?_eq_some_iff.mp hi).1
  have hfiled := h.numRetries hc
  have hfailed : ∀ rs : List Request, (∀ r ∈ rs, r.netloc = nl) →
      ∀ n ∈ failures rs, n.1.netloc = nl := by
    intro rs hrs n hn
    obtain ⟨r, hr, rfl⟩ := List.mem_map.mp hn
    exact hrs r hr
  have hmine : ∀ r ∈ c.queues.held, r.netloc = nl := fun r hr => (hfiled r hr).1
  have hwaits : ∀ r ∈ s.requests, r.netloc = nl := by
    intro r hr
    refine (h.filed nl r ?_).1
    rw [held, hserver]
    exact List.mem_append_left _ hr
  have hskip := h.skipping (some nl)
  -- the last connection takes the waiting requests with it, as the server is removed
  by_cases hnil : s.connections.eraseIdx i = []
  · have heq := handleUnusableConn_eq hc (releaseConn_last hs hlt hnil) h.retries
      fun r hr => (hfiled r hr).2
    refine ⟨_, heq, h.handleUnusableConn heq, ?_⟩
    refine (hskip.change nl none [] [] (failures (s.requests ++ c.queues.held)) ?_ (by simp)
      (by simp) (by simp) (hfailed _ ?_) ?_ (by simp [waiting]) (fun _ _ => rfl)
      fun hne => absurd rfl hne).2
    · simp [setServer, failures]
    · intro r hr
      rcases List.mem_append.mp hr with hr | hr
      · exact hwaits r hr
      · exact hmine r hr
    · intro r
      have hone := count_heldBy_eraseIdx hi r
      rw [hnil] at hone
      rw [map_fst_failures]
      simp only [heldBy, List.flatMap_nil, List.count_nil] at hone
      simp only [held, hserver, Option.getD_none, Server.held, heldBy, List.flatMap_nil,
        List.count_append, List.count_nil]
      omega
  · -- another connection is left, and only what this one held fails
    have heq := handleUnusableConn_eq hc (releaseConn_others hs hlt hnil) h.retries
      fun r hr => (hfiled r hr).2
    refine ⟨_, heq, h.handleUnusableConn heq, ?_⟩
    refine (hskip.change nl (some { s with connections := s.connections.eraseIdx i }) [] []
      (failures c.queues.held) (by simp [setServer]) (by simp) (by simp) (by simp)
      (hfailed _ hmine) ?_ (by simp [waiting, hserver]) (fun _ _ => rfl)
      fun hne => absurd rfl hne).2
    intro r
    have hone := count_heldBy_eraseIdx hi r
    rw [map_fst_failures]
    simp only [held, hserver, Option.getD_some, Server.held, List.count_append, List.count_nil]
    omega

/-- After a reset nothing is held. -/
theorem Inv.reset (h : Inv none nobody cm) : Inv none nobody cm.reset := by
  refine ⟨h.pos, h.retries, h.ids, ?_, ?_, fun nl _ => pool_empty _⟩
  · simp [held, server, Server.held, heldBy, ConnectionManager.reset]
  · intro nl
    have hold := h.order nl
    simp only [waiting, server, ConnectionManager.reset, Option.getD_none, List.append_nil]
    exact (List.sublist_append_left _ _).trans hold

/-! ### All runs -/

/-- **Every step keeps the invariant.** -/
theorem Inv.step {e : CmEvent} (h : Inv none nobody cm) (hstep : Step cm e cm') :
    Inv none nobody cm' := by
  obtain ⟨hen, hstep⟩ := hstep
  cases e with
  | submit nl =>
    obtain ⟨cm₁, hsub, hinv, -⟩ := h.submit nl
    cases hstep.symm.trans hsub
    exact hinv
  | connected nl i =>
    obtain ⟨c, hc, -⟩ := hen
    obtain ⟨cm₁, hcon, hinv, -⟩ := h.connected hc
    cases hstep.symm.trans hcon
    exact hinv
  | writtenData nl i =>
    obtain ⟨c, hc, -⟩ := hen
    obtain ⟨cm₁, hsend, hinv, -⟩ := h.maybeSend hc
    cases hstep.symm.trans hsend
    exact hinv
  | respDone nl i inside =>
    obtain ⟨c, hc, hne⟩ := hen
    obtain ⟨cm₁, hdone, hinv, -⟩ := h.doneWithResp inside hc hne
    cases hstep.symm.trans hdone
    exact hinv
  | unusable nl i ins => exact h.handleUnusableConn hstep
  | reset =>
    cases hstep
    exact h.reset

/-- **Every plain event succeeds, and no request is lost by it.** -/
theorem Inv.plain {e : CmEvent} (h : Inv none nobody cm) (hacc : Accounts cm) (hplain : Plain e)
    (hen : Enabled cm e) : ∃ cm', ConnectionManager.step cm e = .ok cm' ∧ Accounts cm' := by
  cases e with
  | submit nl =>
    obtain ⟨cm₁, hsub, -, hacc₁⟩ := h.submit nl
    exact ⟨cm₁, hsub, hacc₁ hacc⟩
  | connected nl i =>
    obtain ⟨c, hc, -⟩ := hen
    obtain ⟨cm₁, hcon, -, hacc₁⟩ := h.connected hc
    exact ⟨cm₁, hcon, hacc₁ hacc⟩
  | writtenData nl i =>
    obtain ⟨c, hc, -⟩ := hen
    obtain ⟨cm₁, hsend, -, hacc₁⟩ := h.maybeSend hc
    exact ⟨cm₁, hsend, hacc₁ hacc⟩
  | respDone nl i inside =>
    obtain ⟨c, hc, hne⟩ := hen
    obtain ⟨cm₁, hdone, -, hacc₁⟩ := h.doneWithResp inside hc hne
    exact ⟨cm₁, hdone, hacc₁ hacc⟩
  | unusable nl i ins =>
    obtain ⟨c, hc⟩ := hen
    obtain rfl : ins = [] := hplain
    obtain ⟨cm₁, hlost, -, hacc₁⟩ := h.handleUnusableConn_nil hc
    exact ⟨cm₁, hlost, hacc₁ hacc⟩
  | reset => exact hplain.elim

theorem Reachable.inv (h : Reachable cm) : Inv none nobody cm := by
  obtain ⟨maxPersist, maxRetries, cm₀, es, hnew, hrun⟩ := h
  exact hrun.invariant (fun _ _ _ hinv hstep => hinv.step hstep) (inv_new hnew).1

theorem PlainlyReachable.inv (h : PlainlyReachable cm) : Inv none nobody cm ∧ Accounts cm := by
  obtain ⟨maxPersist, maxRetries, cm₀, es, hnew, hrun⟩ := h
  refine hrun.invariant (P := fun cm => Inv none nobody cm ∧ Accounts cm) ?_ (inv_new hnew)
  rintro cm e cm' ⟨hinv, hacc⟩ ⟨hplain, hen, hstep⟩
  obtain ⟨cm₁, hstep₁, hacc₁⟩ := hinv.plain hacc hplain hen
  cases hstep.symm.trans hstep₁
  exact ⟨hinv.step ⟨hen, hstep⟩, hacc₁⟩

/-- Requests are distinct. -/
theorem Inv.nodup (h : Inv skip ex cm) : cm.submitted.Nodup := by
  rw [List.nodup_iff_getElem?_ne_getElem?]
  intro i j hij hj heq
  have hi := List.getElem?_eq_getElem (l := cm.submitted) (by omega : i < cm.submitted.length)
  have hj' := List.getElem?_eq_getElem hj
  have hidi := h.ids i _ hi
  have hidj := h.ids j _ hj'
  rw [hi, hj', Option.some.injEq] at heq
  rw [heq] at hidi
  omega

/-- **Conservation.**  At every moment between events, each submitted request is either held in
exactly one place, at its own net location, and its end has not been told, or it is held nowhere and
its end has been told exactly once.  It has been dispatched once at most. -/
theorem request_conserved {cm : ConnectionManager} (h : PlainlyReachable cm) {r : Request}
    (hr : r ∈ cm.submitted) :
    (((cm.held r.netloc).count r = 1 ∧ (cm.notices.map Prod.fst).count r = 0) ∨
      ((cm.held r.netloc).count r = 0 ∧ (cm.notices.map Prod.fst).count r = 1)) ∧
    (∀ nl, r ∈ cm.held nl → nl = r.netloc) ∧ cm.dispatched.count r ≤ 1 := by
  obtain ⟨hinv, hacc⟩ := h.inv
  have hone : cm.submitted.count r = 1 := List.count_eq_one_of_mem hinv.nodup hr
  refine ⟨?_, fun nl hnl => (hinv.filed nl r hnl).1.symm, ?_⟩
  · have haccount := hacc r
    omega
  · -- the dispatched requests of the net location are some of those submitted
    have hsub : (ofNetLoc r.netloc cm.dispatched).Sublist (ofNetLoc r.netloc cm.submitted) :=
      (List.sublist_append_left ..).trans (hinv.order r.netloc)
    have hcount := hsub.count_le r
    rw [ofNetLoc, ofNetLoc, List.count_filter (by simp), List.count_filter (by simp)] at hcount
    omega

instance (e : CmEvent) : Decidable (Plain e) :=
  match e with
  | .submit _ | .connected .. | .writtenData .. | .respDone .. =>
    inferInstanceAs (Decidable True)
  | .unusable _ _ ins => inferInstanceAs (Decidable (ins = []))
  | .reset => inferInstanceAs (Decidable False)

instance (cm : ConnectionManager) (e : CmEvent) : Decidable (Enabled cm e) :=
  match e with
  | .submit _ | .reset => inferInstanceAs (Decidable True)
  | .connected nl i => inferInstanceAs (Decidable (∃ c ∈ cm.conn nl i, c.connected = false))
  | .writtenData nl i => inferInstanceAs (Decidable (∃ c ∈ cm.conn nl i, c.connected = true))
  | .respDone nl i _ => inferInstanceAs (Decidable (∃ c ∈ cm.conn nl i, c.queues.active ≠ []))
  | .unusable nl i _ => decidable_of_iff ((cm.conn nl i).isSome = true) Option.isSome_iff_exists

/-- Three requests for one net location, over one connection.  From inside the callback of the
first, a fourth is submitted. -/
def rush : List CmEvent :=
  [.submit ("a", 80), .submit ("a", 80), .submit ("a", 80), .connected ("a", 80) 0,
   .respDone ("a", 80) 0 [("a", 80)]]

/-- A manager that allows one connection, and has done `es`. -/
theorem plainlyReachable_of_exec {es : List CmEvent} {cm : ConnectionManager}
    (h : exec (guardedStep (fun cm e => Plain e ∧ Enabled cm e) .noRequest step)
      { maxPersistCnxPerSrv := 1, maxRetriesPerResource := 0 } es = .ok cm) :
    PlainlyReachable cm :=
  ⟨1, 0, _, es, rfl, (run_of_exec_guarded h).mono fun _ _ _ hstep =>
    ⟨hstep.1.1, hstep.1.2, hstep.2⟩⟩

/-- The connection is lost: the requests that are left fail. -/
theorem request_conserved_rush :
    ∃ cm r, PlainlyReachable cm ∧ r ∈ cm.submitted ∧ r.objId = 3 ∧
      (((cm.held r.netloc).count r = 1 ∧ (cm.notices.map Prod.fst).count r = 0) ∨
        ((cm.held r.netloc).count r = 0 ∧ (cm.notices.map Prod.fst).count r = 1)) := by
  obtain ⟨cm, hexec, hcm⟩ := exists_of_returns
    (x := exec (guardedStep (fun cm e => Plain e ∧ Enabled cm e) .noRequest step)
      { maxPersistCnxPerSrv := 1, maxRetriesPerResource := 0 }
      (rush ++ [.unusable ("a", 80) 0 []]))
    (p := fun cm => decide (({ objId := 3, netloc := ("a", 80) } : Request) ∈ cm.submitted))
    (by decide +kernel)
  have hreach := plainlyReachable_of_exec hexec
  have hmem := of_decide_eq_true hcm
  exact ⟨cm, _, hreach, hmem, rfl, (request_conserved hreach hmem).1⟩

/-- **No request is stranded.**  At every moment between events, each net location has at most
`max_persist_cnx_per_srv` connections, each with one active request at most; while requests wait
there is a connection, and every connection has a request; and requests are dispatched in the order
in which they were submitted. -/
theorem waiting_served {cm : ConnectionManager} (h : Reachable cm) (nl : NetLoc) :
    (cm.server nl).connections.length ≤ cm.maxPersistCnxPerSrv ∧
    (∀ c ∈ (cm.server nl).connections, c.queues.active.length ≤ 1) ∧
    (cm.waiting nl ≠ [] → (cm.server nl).connections ≠ [] ∧
      ∀ c ∈ (cm.server nl).connections, 0 < c.queues.size) ∧
    (ofNetLoc nl cm.dispatched ++ cm.waiting nl).Sublist (ofNetLoc nl cm.submitted) := by
  have hinv := h.inv
  have hpool := hinv.pool nl (by simp)
  refine ⟨hpool.bounded, hpool.single, fun hne => ⟨hpool.served hne, fun c hc => ?_⟩,
    hinv.order nl⟩
  obtain ⟨i, hi⟩ := List.mem_iff_getElem?.mp hc
  exact hpool.busy hne i c hi (by simp [nobody])

/-- Of the four requests, one has been answered, one is active, one is next on the connection, and
the last waits. -/
theorem waiting_served_rush :
    ∃ cm, Reachable cm ∧ (cm.waiting ("a", 80)).length = 1 ∧
      (cm.server ("a", 80)).connections.length ≤ cm.maxPersistCnxPerSrv := by
  obtain ⟨cm, hexec, hcm⟩ := exists_of_returns
    (x := exec (guardedStep Enabled .noRequest step)
      { maxPersistCnxPerSrv := 1, maxRetriesPerResource := 0 } rush)
    (p := fun cm => decide ((cm.waiting ("a", 80)).length = 1))
    (by decide +kernel)
  have hreach : Reachable cm := ⟨1, 0, _, rush, rfl, run_of_exec_guarded hexec⟩
  exact ⟨cm, hreach, of_decide_eq_true hcm, (waiting_served hreach ("a", 80)).1⟩

end ConnectionManager

end ShadowBrowser.Http
