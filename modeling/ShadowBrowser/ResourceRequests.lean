/-
The requests of a resource.

A resource is fetched by a chain of requests.  Its place in the chain is a number that is changed when
a request is over; the io service's messages carry the id of a request, and `pending_requests_` leads
from there to the resource.

* `due` — what the clients of a resource are to be told of when the io service says something;
* `At` — where the machine of `Chains` is for a world;
* `Goes`, `Hears` — what happens is read by the machine;
* `pageStep_hears` — so is every event of a page, with what the clients are to be told of in it.
-/
import ShadowBrowser.Chains
import ShadowBrowser.Lifecycle

namespace ShadowBrowser.Blink

open Checked Runs Relation World

/-! ### What can be seen -/

/-- The requests of a resource among what is sent to the io service. -/
def issuedFor (n : ℕ) (sent : List IoServiceMsg) : List (Chains.Event RequestInfo) :=
  sent.filterMap fun
    | .requestResource id m info => if m = n then some (.issued id info) else none
    | .resetSession => none

theorem issuedFor_append {n : ℕ} (l l' : List IoServiceMsg) :
    issuedFor n (l ++ l') = issuedFor n l ++ issuedFor n l' :=
  List.filterMap_append

theorem issuedFor_self {n id : ℕ} {info : RequestInfo} :
    issuedFor n [.requestResource id n info] = [.issued id info] := by
  simp [issuedFor]

theorem issuedFor_other {m n id : ℕ} {info : RequestInfo} (h : m ≠ n) :
    issuedFor n [.requestResource id m info] = [] := by
  simp [issuedFor, h]

/-- What the io service says. -/
def ResourceMsg.heard : ResourceMsg → List (Chains.Event RequestInfo)
  | .receivedResponse _ _ => []
  | .dataReceived id len => [.part id len]
  | .requestComplete id success _ => [.ended id success]

namespace World

/-- The resource, when a request is about it that is pending. -/
def requested (n id : ℕ) (w : World) : Option Resource :=
  match w.engine.pendingRequests.lookup id with
  | some ref => if ref.instNum = n then w.fetcher.documentResources n else none
  | none => none

/-- What the clients of a resource are to be told of, when the io service says something. -/
def due (n : ℕ) (w : World) : ResourceMsg → List (Chains.Event RequestInfo)
  | .receivedResponse _ _ => []
  | .dataReceived id len =>
    match w.requested n id with
    | some r => if r.receivingRealResource then [.told len] else []
    | none => []
  | .requestComplete id success _ =>
    match w.requested n id with
    | some r => if success = true ∧ ¬ r.receivingRealResource then [] else [.finished success]
    | none => []

end World

/-- The requests of a resource, as its model has them. -/
def PageModel.chain (model : PageModel) (n : ℕ) : List RequestInfo :=
  match model.resources.lookup n with
  | some info => info.reqChain
  | none => []

/-- What an event says about requests. -/
def PageEvent.heard : PageEvent → List (Chains.Event RequestInfo)
  | .message m => m.heard
  | _ => []

/-- What the clients of a resource are to be told of in an event. -/
def World.dueIn (n : ℕ) (w : World) : PageEvent → List (Chains.Event RequestInfo)
  | .message m => w.due n m
  | _ => []

/-! ### Where the machine is -/

/-- How far the resource is. -/
def Stands : Option Resource → Chains.State → Prop
  | none, st => st = .idle
  | some r, .idle =>
    r.loadState = .initial ∧ r.currentReqChainIdx = -1 ∧ r.currentReqBodyBytesRecv = 0
  | some r, .waiting _ k got =>
    r.loadState = .loading ∧ r.currentReqChainIdx = k ∧ r.currentReqBodyBytesRecv = got
  | some r, .closed => r.loadState ≠ .initial
  | some _, _ => False

/-- Where the machine is: a request of the resource is pending when the machine waits for it. -/
structure At (n : ℕ) (w : World) (st : Chains.State) : Prop where
  below : ∀ p ∈ w.engine.pendingRequests, p.1 < w.engine.nextRequestId
  chain : ∀ r, w.fetcher.documentResources n = some r → r.info.reqChain = w.model.chain n
  stands : Stands (w.fetcher.documentResources n) st
  pending : ∀ p ∈ w.engine.pendingRequests, p.2.instNum = n ↔ st.awaited = some p.1
  awaited : ∀ id, st.awaited = some id → ∃ ref, (id, ref) ∈ w.engine.pendingRequests

/-- What the machine reads of a page's resource. -/
abbrev Reads (n : ℕ) (w : World) :
    Chains.State → List (Chains.Event RequestInfo) → Chains.State → Prop :=
  Run (Chains.Step RequestInfo.respBodySize (w.model.chain n))

/-- What is sent is read by the machine. -/
structure Goes (n : ℕ) (w w' : World) : Prop where
  model : w'.model = w.model
  sent : ∃ sent, w'.engine.toIoService = w.engine.toIoService ++ sent ∧
    ∀ st, At n w st → ∃ st', Reads n w st (issuedFor n sent) st' ∧ At n w' st'

namespace Goes

variable {n m : ℕ} {w w₁ w' : World} {r r' : Resource}

theorem trans (h : Goes n w w₁) (h' : Goes n w₁ w') : Goes n w w' := by
  obtain ⟨hmodel, sent, hsent, hreads⟩ := h
  obtain ⟨hmodel', sent', hsent', hreads'⟩ := h'
  refine ⟨hmodel'.trans hmodel, sent ++ sent', ?_, fun st hst => ?_⟩
  · rw [hsent', hsent, List.append_assoc]
  · obtain ⟨st₁, hrun, hst₁⟩ := hreads st hst
    obtain ⟨st', hrun', hst'⟩ := hreads' st₁ hst₁
    refine ⟨st', ?_, hst'⟩
    rw [Reads, hmodel] at hrun'
    rw [issuedFor_append]
    exact hrun.append hrun'

/-- Nothing is sent. -/
theorem silent (hmodel : w'.model = w.model)
    (hsent : w'.engine.toIoService = w.engine.toIoService)
    (hat : ∀ st, At n w st → At n w' st) : Goes n w w' :=
  ⟨hmodel, [], by rw [hsent, List.append_nil], fun st hst => ⟨st, .nil st, hat st hst⟩⟩

/-- What the requests do not depend on is changed. -/
theorem frame (hmodel : w'.model = w.model) (hsent : w'.engine.toIoService = w.engine.toIoService)
    (hid : w'.engine.nextRequestId = w.engine.nextRequestId)
    (hpending : w'.engine.pendingRequests = w.engine.pendingRequests)
    (hresource : w'.fetcher.documentResources n = w.fetcher.documentResources n) :
    Goes n w w' := by
  refine silent hmodel hsent fun st hst => ⟨?_, ?_, ?_, ?_, ?_⟩
  · rw [hpending, hid]
    exact hst.below
  · rw [hresource, hmodel]
    exact hst.chain
  · rw [hresource]
    exact hst.stands
  · rw [hpending]
    exact hst.pending
  · rw [hpending]
    exact hst.awaited

theorem refl (w : World) : Goes n w w := frame rfl rfl rfl rfl rfl

/-- A resource is changed, but for how far it is. -/
theorem change (hr : w.fetcher.documentResources m = some r) (hinfo : r'.info = r.info)
    (hload : r'.loadState = r.loadState) (hidx : r'.currentReqChainIdx = r.currentReqChainIdx)
    (hbytes : r'.currentReqBodyBytesRecv = r.currentReqBodyBytesRecv) :
    Goes n w (w.setResource m r') := by
  by_cases hm : m = n
  · subst hm
    refine silent rfl rfl fun st hst => ⟨hst.below, ?_, ?_, hst.pending, hst.awaited⟩
    · intro r₁ hr₁
      rw [setResource_self] at hr₁
      cases hr₁
      rw [hinfo]
      exact hst.chain r hr
    · have hstands := hst.stands
      rw [hr] at hstands
      rw [setResource_self]
      cases st with
      | idle => exact ⟨hload.trans hstands.1, hidx.trans hstands.2.1, hbytes.trans hstands.2.2⟩
      | waiting id k got =>
        exact ⟨hload.trans hstands.1, hidx.trans hstands.2.1, hbytes.trans hstands.2.2⟩
      | telling id k got len => exact hstands
      | answered k ok => exact hstands
      | closed =>
        change r'.loadState ≠ .initial
        rw [hload]
        exact hstands
  · exact frame rfl rfl rfl rfl (setResource_of_ne (Ne.symm hm))

/-- A resource is made. -/
theorem make {info : ResourceInfo} {clients : List ResourceClient}
    (hnone : w.fetcher.documentResources m = none)
    (hinfo : w.model.resources.lookup m = some info) :
    Goes n w (w.setResource m { info, clients }) := by
  by_cases hm : m = n
  · subst hm
    refine silent rfl rfl fun st hst => ⟨hst.below, ?_, ?_, hst.pending, hst.awaited⟩
    · intro r₁ hr₁
      rw [setResource_self] at hr₁
      cases hr₁
      change info.reqChain = w.model.chain m
      rw [PageModel.chain, hinfo]
    · have hstands := hst.stands
      rw [hnone] at hstands
      rw [setResource_self, show st = .idle from hstands]
      exact ⟨rfl, rfl, rfl⟩
  · exact frame rfl rfl rfl rfl (setResource_of_ne (Ne.symm hm))

/-- A request is issued for another resource. -/
theorem issueOther (info : RequestInfo) (hm : m ≠ n) : Goes n w (w.issued m r info) := by
  refine ⟨rfl, _, rfl, fun st hst => ⟨st, ?_, ?_⟩⟩
  · rw [issuedFor_other hm]
    exact .nil st
  · refine ⟨?_, ?_, ?_, ?_, ?_⟩
    · intro p hp
      change p.1 < w.engine.nextRequestId + 1
      rcases List.mem_append.mp hp with hp | hp
      · have := hst.below p hp
        omega
      · cases List.mem_singleton.mp hp
        omega
    · rw [issued_of_ne (Ne.symm hm)]
      exact hst.chain
    · rw [issued_of_ne (Ne.symm hm)]
      exact hst.stands
    · intro p hp
      rcases List.mem_append.mp hp with hp | hp
      · exact hst.pending p hp
      · cases List.mem_singleton.mp hp
        refine iff_of_false hm fun hawaited => ?_
        -- the new id is that of no request that is waited for
        obtain ⟨ref, hmem⟩ := hst.awaited _ hawaited
        exact absurd (hst.below _ hmem) (Nat.lt_irrefl _)
    · intro id hid
      obtain ⟨ref, hmem⟩ := hst.awaited id hid
      exact ⟨ref, List.mem_append_left _ hmem⟩

end Goes

namespace At

variable {n : ℕ} {w : World} {st : Chains.State} {r : Resource}

/-- **A request is issued for the resource**, when none is pending. -/
theorem issue {info : RequestInfo} {k : ℕ} (hst : At n w st) (hnone : st.awaited = none)
    (hchain : r.info.reqChain = w.model.chain n) (hloading : r.loadState = .loading)
    (hidx : r.currentReqChainIdx + 1 = k) (hbytes : r.currentReqBodyBytesRecv = 0) :
    At n (w.issued n r info) (.waiting w.engine.nextRequestId k 0) := by
  refine ⟨?_, ?_, ?_, ?_, ?_⟩
  · intro p hp
    change p.1 < w.engine.nextRequestId + 1
    rcases List.mem_append.mp hp with hp | hp
    · have := hst.below p hp
      omega
    · cases List.mem_singleton.mp hp
      omega
  · intro r₁ hr₁
    rw [issued_self] at hr₁
    cases hr₁
    exact hchain
  · rw [issued_self]
    exact ⟨hloading, hidx, hbytes⟩
  · intro p hp
    rcases List.mem_append.mp hp with hp | hp
    · have hlt := hst.below p hp
      refine iff_of_false (fun hn => ?_) fun hawaited => ?_
      · have hawaited := (hst.pending p hp).mp hn
        rw [hnone] at hawaited
        cases hawaited
      · rw [← Option.some.inj hawaited] at hlt
        exact Nat.lt_irrefl _ hlt
    · cases List.mem_singleton.mp hp
      exact iff_of_true rfl rfl
  · intro id hid
    cases hid
    exact ⟨_, List.mem_append_right _ (List.mem_singleton.mpr rfl)⟩

end At

namespace Goes

variable {n m : ℕ} {w w' : World} {r : Resource}

/-- **A resource starts loading.** -/
theorem load {info : RequestInfo} (hr : w.fetcher.documentResources m = some r)
    (hinitial : r.loadState = .initial)
    (hinfo : r.info.reqChain[(r.currentReqChainIdx + 1).toNat]? = some info) :
    Goes n w (w.issued m { r with loadState := .loading } info) := by
  by_cases hm : m = n
  · subst hm
    refine ⟨rfl, _, rfl, fun st hst => ?_⟩
    have hchain := hst.chain r hr
    have hstands := hst.stands
    rw [hr] at hstands
    cases st with
    | idle =>
      obtain ⟨-, hidx, hbytes⟩ := hstands
      have hnext : r.currentReqChainIdx + 1 = 0 := by omega
      rw [hnext, hchain] at hinfo
      refine ⟨_, ?_, hst.issue rfl hchain rfl hnext hbytes⟩
      rw [issuedFor_self]
      exact .cons (.first hinfo) (.nil _)
    | waiting id k got => exact absurd (hinitial.symm.trans hstands.1) (by decide)
    | telling id k got len => exact hstands.elim
    | answered k ok => exact hstands.elim
    | closed => exact absurd hinitial hstands
  · exact issueOther info hm

theorem incrementRequestCount (r : Resource) : Goes n w (w.incrementRequestCount r) := by
  rw [World.incrementRequestCount]
  split
  · exact frame rfl rfl rfl rfl rfl
  · exact refl w

theorem resources_incrementRequestCount :
    (w.incrementRequestCount r).fetcher.documentResources = w.fetcher.documentResources := by
  rw [World.incrementRequestCount]
  split <;> rfl

theorem checkCompleted : Goes n w w.checkCompleted := by
  rw [World.checkCompleted]
  split
  · exact frame rfl rfl rfl rfl rfl
  · exact refl w

theorem note (m : Notice) : Goes n w (w.note m) := frame rfl rfl rfl rfl rfl

theorem scriptStep (h : ScriptStep w w') : Goes n w w' := by
  cases h with
  | made hnone hinfo => exact make hnone hinfo
  | @loaded m r info hr hinitial hinfo =>
    refine (incrementRequestCount r).trans (load ?_ hinitial hinfo)
    rw [resources_incrementRequestCount]
    exact hr
  | clients _ hr _ _ _ => exact change hr rfl rfl rfl rfl
  | @removed _ r e hr =>
    let r' : Resource := { r with clients := r.clients.filter (· ≠ .element e) }
    have hleft : Goes n w (w.setResource _ r') := change hr rfl rfl rfl rfl
    exact hleft.trans (note _)
  | engine _ _ _ _ => exact frame rfl rfl rfl rfl rfl
  | updates _ => exact frame rfl rfl rfl rfl rfl
  | document _ _ _ _ => exact frame rfl rfl rfl rfl rfl
  | parser _ _ => exact frame rfl rfl rfl rfl rfl

/-- What goes on step by step goes on. -/
theorem star {s : World → World → Prop} (hs : ∀ {v v'}, s v v' → Goes n v v')
    (h : ReflTransGen s w w') : Goes n w w' := by
  induction h with
  | refl => exact refl w
  | tail _ hstep ih => exact ih.trans (hs hstep)

theorem scripted (h : Scripted w w') : Goes n w w' := star scriptStep h

theorem clientStep (h : ClientStep w w') : Goes n w w' := by
  cases h with
  | script h => exact scriptStep h
  | parser _ => exact frame rfl rfl rfl rfl rfl
  | document _ _ _ => exact frame rfl rfl rfl rfl rfl
  | ended h =>
    obtain ⟨w₁, hscripted, rfl⟩ := finishedParsing_cases h
    have hnoted : Goes n w { w with document := { w.document with finishedParsing := true } } :=
      frame rfl rfl rfl rfl rfl
    exact (hnoted.trans (scripted hscripted)).trans checkCompleted
  | checked => exact checkCompleted
  | forced _ => exact frame rfl rfl rfl rfl rfl

theorem told (h : Told w w') : Goes n w w' := star clientStep h

theorem notified (h : Notified w w') : Goes n w w' := by
  refine star (fun hstep => ?_) h
  cases hstep with
  | called m => exact note m
  | client hclient => exact clientStep hclient

theorem notifyAllFinished {success : Bool} {order : List ResourceClient}
    (h : w.notifyAllFinished m success order = .ok w') : Goes n w w' := by
  obtain ⟨r, _, h⟩ := bind_eq_ok.mp h
  obtain ⟨w₁, hcount, h⟩ := bind_eq_ok.mp h
  obtain ⟨_, _, h⟩ := bind_eq_ok.mp h
  refine trans ?_ (notified (callClients_star tellFinished_notified h))
  rw [decrementRequestCount] at hcount
  split_ifs at hcount
  · obtain ⟨_, _, hcount⟩ := bind_eq_ok.mp hcount
    cases hcount
    exact frame rfl rfl rfl rfl rfl
  · cases hcount
    exact refl w

theorem tellDriver (d : DriverMsg) : Goes n w (w.tellDriver d) := frame rfl rfl rfl rfl rfl

/-- Another resource is changed. -/
theorem setOther (hm : m ≠ n) : Goes n w (w.setResource m r) :=
  frame rfl rfl rfl rfl (setResource_of_ne (Ne.symm hm))

/-- A request of another resource is over. -/
theorem finishOther {success : Bool} {order : List ResourceClient} (hm : m ≠ n)
    (h : w.finish m success order = .ok w') : Goes n w w' := by
  obtain ⟨r, _, _, h⟩ := finish_cases h
  cases h with
  | finished _ hparse h =>
    exact (((tellDriver _).trans (setOther hm)).trans
      (scripted (parseIfStylesheet_scripted hparse))).trans (notifyAllFinished h)
  | next info _ => exact ((tellDriver _).trans (setOther hm)).trans (issueOther info hm)
  | failed h => exact ((tellDriver _).trans (setOther hm)).trans (notifyAllFinished h)

theorem checkCompletedTimerFired (h : w.checkCompletedTimerFired = .ok w') : Goes n w w' := by
  obtain ⟨_, _, h⟩ := bind_eq_ok.mp h
  dsimp only at h
  split_ifs at h
  · obtain ⟨w₁, hcomplete, h⟩ := bind_eq_ok.mp h
    obtain ⟨r, _, h⟩ := bind_eq_ok.mp h
    have hcompleted : Goes n w w₁ := by
      refine Goes.trans ?_ (scripted (completeDocument_cases hcomplete))
      exact frame rfl rfl rfl rfl rfl
    have hidle : Goes n w₁ { w₁ with engine := { w₁.engine with state := .idle } } :=
      frame rfl rfl rfl rfl rfl
    exact ((hcompleted.trans hidle).trans (tellDriver _)).trans
      (told (maybeLoadUnloadedResources_told h))
  · cases h
    exact frame rfl rfl rfl rfl rfl

end Goes

/-! ### What the io service says -/

namespace At

variable {n id : ℕ} {w w' : World} {st : Chains.State} {r : Resource}

/-- A pending request is about the resource when the machine waits for it. -/
theorem lookup_iff {ref : ResourceRef} (hst : At n w st)
    (h : w.engine.pendingRequests.lookup id = some ref) :
    ref.instNum = n ↔ st.awaited = some id := by
  obtain ⟨l₁, l₂, heq, -⟩ := List.lookup_eq_some_iff.mp h
  refine hst.pending (id, ref) ?_
  rw [heq]
  exact List.mem_append_right _ List.mem_cons_self

theorem awaited_ne (hst : At n w st) (h : w.engine.pendingRequests.lookup id = none) :
    st.awaited ≠ some id := by
  intro hid
  obtain ⟨ref, hmem⟩ := hst.awaited id hid
  have := List.lookup_eq_none_iff.mp h _ hmem
  simp at this

theorem steady (hst : At n w st) : st.Steady := by
  have hstands := hst.stands
  cases hr : w.fetcher.documentResources n with
  | none =>
    rw [hr] at hstands
    rw [show st = .idle from hstands]
    trivial
  | some r =>
    rw [hr] at hstands
    cases st with
    | idle => trivial
    | waiting id k got => trivial
    | telling id k got len => exact hstands
    | answered k ok => exact hstands
    | closed => trivial

/-- The machine ignores what is said about other requests. -/
theorem ignores (hst : At n w st) (hid : st.awaited ≠ some id) : st.Ignores id := by
  have hsteady := hst.steady
  cases st with
  | idle => trivial
  | waiting id' k got => exact fun heq => hid (congrArg some heq)
  | telling id' k got len => exact hsteady
  | answered k ok => exact hsteady
  | closed => trivial

/-- What the machine waits for. -/
theorem waiting (hst : At n w st) (hid : st.awaited = some id) :
    ∃ r k, w.fetcher.documentResources n = some r ∧ r.loadState = .loading ∧
      r.currentReqChainIdx = (k : ℕ) ∧ st = .waiting id k r.currentReqBodyBytesRecv := by
  have hstands := hst.stands
  cases hr : w.fetcher.documentResources n with
  | none =>
    rw [hr] at hstands
    rw [show st = .idle from hstands] at hid
    cases hid
  | some r =>
    rw [hr] at hstands
    cases st with
    | idle => cases hid
    | waiting id' k got =>
      cases hid
      obtain ⟨hload, hidx, rfl⟩ := hstands
      exact ⟨r, k, rfl, hload, hidx, rfl⟩
    | telling id' k got len => exact hstands.elim
    | answered k ok => exact hstands.elim
    | closed => cases hid

theorem real_iff {k : ℕ} (hst : At n w st) (hr : w.fetcher.documentResources n = some r)
    (hidx : r.currentReqChainIdx = (k : ℕ)) :
    r.receivingRealResource ↔ k + 1 = (w.model.chain n).length := by
  rw [Resource.receivingRealResource, hidx, hst.chain r hr]
  omega

/-- The request that is waited for is over. -/
theorem ended (hst : At n w st) (hid : st.awaited = some id) (d : DriverMsg)
    (hchain : r.info.reqChain = w.model.chain n) (hload : r.loadState ≠ .initial) :
    At n (((w.erasePending id).tellDriver d).setResource n r) .closed := by
  refine ⟨?_, ?_, ?_, ?_, ?_⟩
  · intro p hp
    exact hst.below p (List.mem_filter.mp hp).1
  · intro r₁ hr₁
    rw [setResource_self] at hr₁
    cases hr₁
    exact hchain
  · rw [setResource_self]
    exact hload
  · intro p hp
    obtain ⟨hp, hne⟩ := List.mem_filter.mp hp
    refine iff_of_false (fun hn => ?_) nofun
    have heq := Option.some.inj (hid.symm.trans ((hst.pending p hp).mp hn))
    exact of_decide_eq_true hne heq.symm
  · intro id' hid'
    cases hid'

end At

namespace World

variable {n : ℕ} {w w' : World} {r : Resource} {order : List ResourceClient}

/-- A request that succeeds has been answered in full, and the next one is issued unless it is the
last. -/
theorem finish_success (hr : w.fetcher.documentResources n = some r)
    (h : w.finish n true order = .ok w') :
    (∃ info, r.info.reqChain[r.currentReqChainIdx.toNat]? = some info ∧
      r.currentReqBodyBytesRecv = info.respBodySize) ∧
    (¬ r.receivingRealResource → ∃ info,
      r.info.reqChain[(r.currentReqChainIdx + 1).toNat]? = some info ∧
      w' = ((w.tellDriver (.requestFinished n r.currentReqChainIdx true)).setResource n
        { r with currentReqBodyBytesRecv := 0 }).issued n
          { r with currentReqBodyBytesRecv := 0 } info) := by
  obtain ⟨r', hr', h⟩ := bind_eq_ok.mp h
  rw [resource_eq_ok hr'] at hr
  cases hr
  obtain ⟨_, _, h⟩ := bind_eq_ok.mp h
  dsimp only at h
  rw [if_pos rfl] at h
  split at h
  · cases h
  · next info hinfo =>
    obtain ⟨_, hsize, h⟩ := bind_eq_ok.mp h
    refine ⟨⟨info, hinfo, check_eq_ok.mp hsize⟩, fun hreal => ?_⟩
    rw [if_neg hreal] at h
    obtain ⟨r₁, info', hr₁, _, hinfo', rfl⟩ := loadNextChainEntry_cases h
    rw [setResource_self] at hr₁
    cases hr₁
    exact ⟨info', hinfo', rfl⟩

end World

/-- What is heard, and what is sent then, is read by the machine. -/
structure Hears (n : ℕ) (heard : List (Chains.Event RequestInfo)) (w w' : World) : Prop where
  model : w'.model = w.model
  sent : ∃ sent, w'.engine.toIoService = w.engine.toIoService ++ sent ∧
    ∀ st, At n w st → ∃ st', Reads n w st (heard ++ issuedFor n sent) st' ∧ At n w' st'

namespace Hears

variable {n id : ℕ} {heard : List (Chains.Event RequestInfo)} {w w₁ w' : World} {r : Resource}

theorem of_goes (h : Goes n w w') : Hears n [] w w' := ⟨h.model, h.sent⟩

theorem trans (h : Hears n heard w w₁) (h' : Goes n w₁ w') : Hears n heard w w' := by
  obtain ⟨hmodel, sent, hsent, hreads⟩ := h
  obtain ⟨hmodel', sent', hsent', hreads'⟩ := h'
  refine ⟨hmodel'.trans hmodel, sent ++ sent', ?_, fun st hst => ?_⟩
  · rw [hsent', hsent, List.append_assoc]
  · obtain ⟨st₁, hrun, hst₁⟩ := hreads st hst
    obtain ⟨st', hrun', hst'⟩ := hreads' st₁ hst₁
    refine ⟨st', ?_, hst'⟩
    rw [Reads, hmodel] at hrun'
    rw [issuedFor_append, ← List.append_assoc]
    exact hrun.append hrun'

/-- What has been sent since. -/
theorem reads {st : Chains.State} (h : Hears n heard w w') (hst : At n w st) :
    w'.model = w.model ∧ ∃ st', Reads n w st (heard ++
      issuedFor n (w'.engine.toIoService.drop w.engine.toIoService.length)) st' ∧ At n w' st' := by
  obtain ⟨hmodel, sent, hsent, hreads⟩ := h
  rw [hsent, List.drop_left]
  exact ⟨hmodel, hreads st hst⟩

/-- What is not about the resource is ignored. -/
theorem ignored {e : Chains.Event RequestInfo} (h : Goes n w w')
    (he : (∃ len, e = .part id len) ∨ ∃ ok, e = .ended id ok)
    (hid : ∀ st, At n w st → st.awaited ≠ some id) : Hears n [e] w w' := by
  obtain ⟨hmodel, sent, hsent, hreads⟩ := h
  refine ⟨hmodel, sent, hsent, fun st hst => ?_⟩
  obtain ⟨st', hrun, hst'⟩ := hreads st hst
  have hignores := hst.ignores (hid st hst)
  refine ⟨st', .cons ?_ hrun, hst'⟩
  obtain ⟨len, rfl⟩ | ⟨ok, rfl⟩ := he
  · exact .otherPart hignores
  · exact .otherEnd hignores

/-- A part of the answer is received. -/
theorem received (len : ℕ) (hr : w.fetcher.documentResources n = some r)
    (hid : ∀ st, At n w st → st.awaited = some id) :
    Hears n (.part id len :: if r.receivingRealResource then [.told len] else []) w
      (w.setResource n { r with
        currentReqBodyBytesRecv := r.currentReqBodyBytesRecv + len }) := by
  refine ⟨rfl, [], (List.append_nil _).symm, fun st hst => ?_⟩
  obtain ⟨r', k, hr', hload, hidx, rfl⟩ := hst.waiting (hid st hst)
  rw [hr] at hr'
  cases hr'
  refine ⟨.waiting id k (r.currentReqBodyBytesRecv + len), ?_, ?_⟩
  · have hreal := hst.real_iff hr hidx
    rw [issuedFor, List.filterMap_nil, List.append_nil]
    split
    · next h => exact .cons (.lastPart (hreal.mp h)) (.cons .told (.nil _))
    · next h => exact .cons (.part fun hk => h (hreal.mpr hk)) (.nil _)
  · refine ⟨hst.below, ?_, ?_, hst.pending, hst.awaited⟩
    · intro r₁ hr₁
      rw [setResource_self] at hr₁
      cases hr₁
      exact hst.chain r hr
    · rw [setResource_self]
      exact ⟨hload, hidx, rfl⟩

/-- The answer ends, and the clients are told. -/
theorem finished {ok : Bool} {r' : Resource} (d : DriverMsg)
    (hr : w.fetcher.documentResources n = some r)
    (hid : ∀ st, At n w st → st.awaited = some id)
    (hok : ok = true → r.receivingRealResource ∧
      ∃ info, r.info.reqChain[r.currentReqChainIdx.toNat]? = some info ∧
        r.currentReqBodyBytesRecv = info.respBodySize)
    (hinfo : r'.info = r.info) (hload : r'.loadState ≠ .initial) :
    Hears n [.ended id ok, .finished ok] w
      (((w.erasePending id).tellDriver d).setResource n r') := by
  refine ⟨rfl, [], (List.append_nil _).symm, fun st hst => ?_⟩
  have hawaited := hid st hst
  obtain ⟨r₁, k, hr₁, _, hidx, rfl⟩ := hst.waiting hawaited
  rw [hr] at hr₁
  cases hr₁
  have hchain := hst.chain r hr
  refine ⟨.closed, ?_, hst.ended hawaited d (hinfo ▸ hchain) hload⟩
  refine .cons (.ended fun htrue => ?_) (.cons (.finished fun htrue => ?_) (.nil _))
  · obtain ⟨-, info, hget, hsize⟩ := hok htrue
    rw [hidx, Int.toNat_natCast, hchain] at hget
    exact ⟨info, hget, hsize⟩
  · exact (hst.real_iff hr hidx).mp (hok htrue).1

/-- The answer ends, and the next request is issued. -/
theorem next {info info' : RequestInfo} (d : DriverMsg)
    (hr : w.fetcher.documentResources n = some r)
    (hid : ∀ st, At n w st → st.awaited = some id)
    (hinfo : r.info.reqChain[r.currentReqChainIdx.toNat]? = some info)
    (hsize : r.currentReqBodyBytesRecv = info.respBodySize)
    (hinfo' : r.info.reqChain[(r.currentReqChainIdx + 1).toNat]? = some info') :
    Hears n [.ended id true] w ((((w.erasePending id).tellDriver d).setResource n
      { r with currentReqBodyBytesRecv := 0 }).issued n
        { r with currentReqBodyBytesRecv := 0 } info') := by
  refine ⟨rfl, _, rfl, fun st hst => ?_⟩
  have hawaited := hid st hst
  obtain ⟨r₁, k, hr₁, hload, hidx, rfl⟩ := hst.waiting hawaited
  rw [hr] at hr₁
  cases hr₁
  have hchain := hst.chain r hr
  have hloaded : LoadState.loading ≠ .initial := by decide
  have hended := hst.ended (r := { r with currentReqBodyBytesRecv := 0 }) hawaited d hchain
    (hload ▸ hloaded)
  have hnext : r.currentReqChainIdx + 1 = (k + 1 : ℕ) := by rw [hidx]; rfl
  refine ⟨_, ?_, hended.issue rfl hchain hload hnext rfl⟩
  rw [hidx, Int.toNat_natCast, hchain] at hinfo
  rw [hnext, Int.toNat_natCast, hchain] at hinfo'
  rw [issuedFor_self]
  exact .cons (.ended fun _ => ⟨info, hinfo, hsize⟩) (.cons (.next hinfo') (.nil _))

end Hears

namespace World

variable {n id : ℕ} {w w' : World} {ref : ResourceRef}

theorem requested_of_none (h : w.engine.pendingRequests.lookup id = none) :
    w.requested n id = none := by
  rw [requested, h]

theorem requested_self (h : w.engine.pendingRequests.lookup id = some ref) :
    w.requested ref.instNum id = w.fetcher.documentResources ref.instNum := by
  rw [requested, h]
  exact if_pos rfl

theorem requested_other (h : w.engine.pendingRequests.lookup id = some ref)
    (hn : ref.instNum ≠ n) : w.requested n id = none := by
  rw [requested, h]
  exact if_neg hn

theorem handleReceivedResponse_goes {firstByteTimeMs : ℕ}
    (h : w.handleReceivedResponse id firstByteTimeMs = .ok w') : Goes n w w' := by
  rw [handleReceivedResponse] at h
  split at h
  · cases h
    exact .refl w
  · obtain ⟨_, _, h⟩ := bind_eq_ok.mp h
    obtain ⟨w₁, hmeta, h⟩ := bind_eq_ok.mp h
    refine Goes.trans ?_ (.scripted (doEndOfTaskWork_scripted h))
    obtain ⟨r, hr, hmeta⟩ := bind_eq_ok.mp hmeta
    split_ifs at hmeta
    · obtain ⟨_, _, hmeta⟩ := bind_eq_ok.mp hmeta
      cases hmeta
      exact .change (resource_eq_ok hr) rfl rfl rfl rfl
    · cases hmeta
      exact .refl w

/-- **Data is received.** -/
theorem handleDataReceived_hears {length : ℕ} (h : w.handleDataReceived id length = .ok w') :
    Hears n (.part id length :: w.due n (.dataReceived id length)) w w' := by
  rw [handleDataReceived] at h
  split at h
  · next hlookup =>
    cases h
    rw [due, requested_of_none hlookup]
    exact .ignored (.refl w) (.inl ⟨_, rfl⟩) fun st hst => hst.awaited_ne hlookup
  · next ref hlookup =>
    obtain ⟨_, _, h⟩ := bind_eq_ok.mp h
    obtain ⟨w₁, hdata, h⟩ := bind_eq_ok.mp h
    have htask : Goes n w₁ w' := .scripted (doEndOfTaskWork_scripted h)
    obtain ⟨r, hr, hclients⟩ := appendData_notified hdata
    have hclients : Goes n (w.setResource ref.instNum { r with
        currentReqBodyBytesRecv := r.currentReqBodyBytesRecv + length }) w₁ := .notified hclients
    by_cases hn : ref.instNum = n
    · subst hn
      rw [due, requested_self hlookup, hr]
      exact ((Hears.received length hr fun st hst => (hst.lookup_iff hlookup).mp rfl).trans
        hclients).trans htask
    · rw [due, requested_other hlookup hn]
      refine .ignored (((Goes.setOther hn).trans hclients).trans htask) (.inl ⟨_, rfl⟩) ?_
      exact fun st hst hid => hn ((hst.lookup_iff hlookup).mpr hid)

/-- **A request is over**, and its page goes on. -/
theorem finish_hears {success : Bool} {order : List ResourceClient}
    (hlookup : w.engine.pendingRequests.lookup id = some ref)
    (h : (w.erasePending id).finish ref.instNum success order = .ok w') :
    Hears ref.instNum (.ended id success :: w.due ref.instNum (.requestComplete id success order))
      w w' := by
  have hid : ∀ st, At ref.instNum w st → st.awaited = some id :=
    fun st hst => (hst.lookup_iff hlookup).mp rfl
  obtain ⟨r, hr, hloading, hfinish⟩ := finish_cases h
  have hr' : w.fetcher.documentResources ref.instNum = some r := hr
  rw [due, requested_self hlookup, hr']
  dsimp only
  cases hfinish with
  | @finished w₁ _ hreal hparse hnotify =>
    rw [if_neg fun hall => hall.2 hreal]
    have hsize := (finish_success hr h).1
    refine (Hears.trans ?_ (.scripted (parseIfStylesheet_scripted hparse))).trans
      (.notifyAllFinished hnotify)
    exact .finished _ hr' hid (fun _ => ⟨hreal, hsize⟩) rfl
      (show LoadState.finished ≠ .initial by decide)
  | next info hreal =>
    rw [if_pos ⟨rfl, hreal⟩]
    obtain ⟨⟨info₀, hinfo₀, hsize⟩, hissued⟩ := finish_success hr h
    obtain ⟨info', hinfo', heq⟩ := hissued hreal
    rw [heq]
    exact .next _ hr' hid hinfo₀ hsize hinfo'
  | failed hnotify =>
    rw [if_neg fun hall => absurd hall.1 (by decide)]
    refine Hears.trans ?_ (.notifyAllFinished hnotify)
    refine .finished _ hr' hid nofun rfl ?_
    exact fun hinitial => absurd (hloading.symm.trans hinitial) (by decide)

theorem erasePending_goes (hlookup : w.engine.pendingRequests.lookup id = some ref)
    (hn : ref.instNum ≠ n) : Goes n w (w.erasePending id) := by
  refine .silent rfl rfl fun st hst => ⟨?_, hst.chain, hst.stands, ?_, ?_⟩
  · exact fun p hp => hst.below p (List.mem_filter.mp hp).1
  · exact fun p hp => hst.pending p (List.mem_filter.mp hp).1
  · intro id' hid'
    obtain ⟨ref', hmem⟩ := hst.awaited id' hid'
    refine ⟨ref', List.mem_filter.mpr ⟨hmem, decide_eq_true ?_⟩⟩
    rintro rfl
    exact hn ((hst.lookup_iff hlookup).mpr hid')

theorem handleRequestComplete_hears {success : Bool} {order : List ResourceClient}
    (h : w.handleRequestComplete id success order = .ok (.page w')) :
    Hears n (.ended id success :: w.due n (.requestComplete id success order)) w w' := by
  rw [handleRequestComplete] at h
  split at h
  · next hlookup =>
    cases h
    rw [due, requested_of_none hlookup]
    exact .ignored (.refl w) (.inr ⟨_, rfl⟩) fun st hst => hst.awaited_ne hlookup
  · next ref hlookup =>
    obtain ⟨_, _, h⟩ := bind_eq_ok.mp h
    dsimp only at h
    split_ifs at h
    · cases h
    · obtain ⟨w₁, hfinish, h⟩ := bind_eq_ok.mp h
      obtain ⟨w₂, htask, h⟩ := bind_eq_ok.mp h
      obtain ⟨w₃, hforce, h⟩ := bind_eq_ok.mp h
      cases h
      have hafter : Goes n w₁ w' := (Goes.scripted (doEndOfTaskWork_scripted htask)).trans
        (.told (maybeLoadUnloadedResources_told hforce))
      by_cases hn : ref.instNum = n
      · subst hn
        exact (finish_hears hlookup hfinish).trans hafter
      · rw [due, requested_other hlookup hn]
        refine .ignored (((erasePending_goes hlookup hn).trans (.finishOther hn hfinish)).trans
          hafter) (.inr ⟨_, rfl⟩) ?_
        exact fun st hst hid => hn ((hst.lookup_iff hlookup).mpr hid)

/-- **An event of a page** is read by the machine. -/
theorem pageStep_hears {e : PageEvent} (h : Renderer.pageStep w e = .ok (.page w')) :
    Hears n (e.heard ++ w.dueIn n e) w w' := by
  cases e with
  | loadPage loadId model timeMs => cases h
  | reset => cases h
  | message m =>
    cases m with
    | receivedResponse id firstByteTimeMs =>
      obtain ⟨w₁, hm, h⟩ := bind_eq_ok.mp h
      cases h
      exact .of_goes (handleReceivedResponse_goes hm)
    | dataReceived id length =>
      obtain ⟨w₁, hm, h⟩ := bind_eq_ok.mp h
      cases h
      exact handleDataReceived_hears hm
    | requestComplete id success order => exact handleRequestComplete_hears h
  | resumeTimer =>
    obtain ⟨w₁, hw₁, h⟩ := bind_eq_ok.mp h
    cases h
    exact .of_goes (.told (resumeTimerFired_told hw₁))
  | scriptsTimer =>
    obtain ⟨w₁, hw₁, h⟩ := bind_eq_ok.mp h
    cases h
    exact .of_goes (.told (scriptsTimerFired_told hw₁))
  | checkCompletedTimer =>
    obtain ⟨w₁, hw₁, h⟩ := bind_eq_ok.mp h
    cases h
    exact .of_goes (.checkCompletedTimerFired hw₁)
  | domTimer timerID =>
    obtain ⟨w₁, hw₁, h⟩ := bind_eq_ok.mp h
    cases h
    exact .of_goes (.scripted (domTimerFired_scripted hw₁))

end World

end ShadowBrowser.Blink
