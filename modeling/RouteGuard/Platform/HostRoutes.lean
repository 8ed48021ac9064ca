import RouteGuard.Platform.RouteRows
import RouteGuard.Platform.BestRoute

/-! # The interface of a host route

What a call of `install_domain_route` can do, and over which interface the route
of an address then goes.  `made` is kept beside the session for the proofs: the
row of every addition that returned a handle. -/
set_option autoImplicit false
namespace RouteGuard

open HashTable Fallible GuardedRun

/-! ## Calls -/

structure HostRouteCall where
  ip : IpAddr
  target : RouteTarget
  tunnelIf : Nat
  physicalIf : Nat
  expiresAt : Nat
deriving DecidableEq, Repr

namespace HostRouteCall

def prog (c : HostRouteCall) : RouteProg PUnit :=
  SessionRoutes.installDomainRoute c.ip c.target c.tunnelIf c.physicalIf c.expiresAt

def op (c : HostRouteCall) : RouteOp :=
  .installDomainRoute c.ip c.target c.tunnelIf c.physicalIf c.expiresAt

def route (c : HostRouteCall) : Option (Nat × Nat) :=
  SessionRoutes.hostRoute c.target c.tunnelIf c.physicalIf

/-- The entry is good enough for the call. -/
def Covered (c : HostRouteCall) (existing : DomainRouteHandle) : Prop :=
  c.expiresAt ≤ existing.expiresAt ∧ existing.target = c.target

instance (c : HostRouteCall) (existing : DomainRouteHandle) : Decidable (c.Covered existing) :=
  inferInstanceAs (Decidable (_ ∧ _))

end HostRouteCall

/-! ## Removals, whatever the system answers -/

namespace RouteTableManager

theorem removeRoute_state (handle : Nat) (table : RouteTableManager) :
    (exec (removeRoute handle) table).2 = table.forget handle := by
  cases hget : table.routes.get handle with
  | none => simp only [removeRoute, forget, exec_bind, exec_get, hget, exec_pure]
  | some cidr =>
      simp only [removeRoute, forget, osDelete, exec_bind, exec_get, hget, exec_modify, exec_set]
      split
      · rfl
      · rfl

theorem forget_nextHandle (table : RouteTableManager) (handle : Nat) :
    (table.forget handle).nextHandle = table.nextHandle :=
  run_forget_nextHandle table [handle]

theorem forget_has {table : RouteTableManager} {handle : Nat} {dest : IpNet}
    (h : ∀ cidr, table.routes.get handle = some cidr → osDest cidr ≠ dest) (ifIndex : Nat) :
    (table.forget handle).os.Has dest ifIndex ↔ table.os.Has dest ifIndex := by
  unfold forget
  cases hget : table.routes.get handle with
  | none => exact Iff.rfl
  | some cidr =>
      have hne := h cidr hget
      simp only [Os.Has, mem_delete_rows]
      constructor
      · intro hcase
        obtain ⟨row, ⟨hrow, _⟩, hkey⟩ := hcase
        exact ⟨row, hrow, hkey⟩
      · intro hcase
        obtain ⟨row, hrow, hdest, hif⟩ := hcase
        refine ⟨row, ⟨hrow, fun hdeleted => hne ?_⟩, hdest, hif⟩
        exact hdeleted.2.1.symm.trans hdest

end RouteTableManager

namespace SessionRoutes
variable (st : RouteState) (ip : IpAddr)

theorem removeDomainRoute_state : (exec (removeDomainRoute ip) st).2 = forgetIp st ip := by
  cases hget : st.session.domainRoutes.get ip with
  | none => simp only [removeDomainRoute, forgetIp, exec_bind, exec_get, hget, exec_pure]
  | some entry =>
      simp only [removeDomainRoute, forgetIp, exec_bind, exec_get, hget, modifySession,
        exec_modify, onTable, exec_zoom, RouteTableManager.removeRoute_state]

theorem forgetIp_get (other : IpAddr) :
    (forgetIp st ip).session.domainRoutes.get other =
      if other = ip then none else st.session.domainRoutes.get other := by
  unfold forgetIp
  cases hget : st.session.domainRoutes.get ip with
  | none =>
      by_cases ho : other = ip
      · rw [if_pos ho, ho]
        exact hget
      · rw [if_neg ho]
  | some entry => exact get_remove _ _ _

theorem forgetIp_nextHandle : (forgetIp st ip).table.nextHandle = st.table.nextHandle := by
  unfold forgetIp
  split
  · rfl
  · exact RouteTableManager.forget_nextHandle _ _

end SessionRoutes

/-! ## What a call can do -/

def HostRouteCall.Stale (c : HostRouteCall) (st : RouteState) : Prop :=
  ∀ existing, st.session.domainRoutes.get c.ip = some existing → ¬c.Covered existing

def HostRouteCall.hosting (c : HostRouteCall) (ifIndex metric : Nat) (st : RouteState) :
    RouteState where
  session := { st.session with
    domainRoutes := st.session.domainRoutes.insert c.ip
      ⟨c.ip, st.table.nextHandle, c.expiresAt, c.target⟩ }
  table := st.table.added (IpNet.host c.ip) ifIndex metric

inductive HostRouteCase (c : HostRouteCall) (st : RouteState) :
    Except RouteGuardError PUnit → RouteState → Prop
  | kept {existing : DomainRouteHandle} (found : st.session.domainRoutes.get c.ip = some existing)
      (covered : c.Covered existing) : HostRouteCase c st (.ok ⟨⟩) st
  | stuck {e : RouteGuardError} (stale : c.Stale st) :
      HostRouteCase c st (.error e) (SessionRoutes.forgetIp st c.ip)
  | blocked (stale : c.Stale st) (route : c.route = none) :
      HostRouteCase c st (.ok ⟨⟩) (SessionRoutes.forgetIp st c.ip)
  | refused {e : RouteGuardError} {ifIndex metric : Nat} (stale : c.Stale st)
      (route : c.route = some (ifIndex, metric)) :
      HostRouteCase c st (.error e) { SessionRoutes.forgetIp st c.ip with
        table := (SessionRoutes.forgetIp st c.ip).table.refused }
  | added {ifIndex metric : Nat} (stale : c.Stale st)
      (route : c.route = some (ifIndex, metric))
      (answered : (SessionRoutes.forgetIp st c.ip).table.os.faults
        (SessionRoutes.forgetIp st c.ip).table.os.calls = 0) :
      HostRouteCase c st (.ok ⟨⟩) (c.hosting ifIndex metric (SessionRoutes.forgetIp st c.ip))

section Cases
variable {c : HostRouteCall} {st : RouteState}

theorem addDomainRoute_case (hstale : c.Stale st) :
    HostRouteCase c st
      (exec (SessionRoutes.addDomainRoute c.ip c.target c.tunnelIf c.physicalIf c.expiresAt)
        (SessionRoutes.forgetIp st c.ip)).1
      (exec (SessionRoutes.addDomainRoute c.ip c.target c.tunnelIf c.physicalIf c.expiresAt)
        (SessionRoutes.forgetIp st c.ip)).2 := by
  unfold SessionRoutes.addDomainRoute
  cases hroute : SessionRoutes.hostRoute c.target c.tunnelIf c.physicalIf with
  | none => exact .blocked hstale hroute
  | some route =>
      obtain ⟨ifIndex, metric⟩ := route
      by_cases hanswer : (SessionRoutes.forgetIp st c.ip).table.os.faults
          (SessionRoutes.forgetIp st c.ip).table.os.calls = 0
      · simp only [exec_bind, SessionRoutes.onTable, exec_zoom, addRoute_answered hanswer,
          SessionRoutes.modifySession, exec_modify]
        exact .added hstale hroute hanswer
      · obtain ⟨e, hrefused⟩ := addRoute_refused hanswer (IpNet.host c.ip) ifIndex metric
        simp only [exec_bind, SessionRoutes.onTable, exec_zoom, hrefused]
        exact .refused hstale hroute

theorem hostRoute_case (c : HostRouteCall) (st : RouteState) :
    HostRouteCase c st (exec c.prog st).1 (exec c.prog st).2 := by
  simp only [HostRouteCall.prog, SessionRoutes.installDomainRoute, exec_bind, exec_get]
  cases hget : st.session.domainRoutes.get c.ip with
  | none =>
      have hstale : c.Stale st := by
        intro existing hexisting
        rw [hget] at hexisting
        cases hexisting
      have hforget : SessionRoutes.forgetIp st c.ip = st := by
        simp only [SessionRoutes.forgetIp, hget]
      have hcase := addDomainRoute_case hstale
      rw [hforget] at hcase
      exact hcase
  | some existing =>
      by_cases hcovered : c.expiresAt ≤ existing.expiresAt ∧ existing.target = c.target
      · dsimp only
        rw [if_pos hcovered, exec_pure]
        exact .kept hget hcovered
      · have hstale : c.Stale st := by
          intro other hother
          rw [hget, Option.some.injEq] at hother
          rw [← hother]
          exact hcovered
        dsimp only
        rw [if_neg hcovered, exec_bind]
        have hstate := SessionRoutes.removeDomainRoute_state st c.ip
        cases hremove : exec (SessionRoutes.removeDomainRoute c.ip) st with
        | mk result middle =>
            rw [hremove] at hstate
            dsimp only at hstate
            subst hstate
            cases result with
            | error e => exact .stuck hstale
            | ok _ => exact addDomainRoute_case hstale

end Cases

/-! ## The log of additions -/

@[ext]
structure LoggedRoutes where
  st : RouteState := {}
  made : List (Nat × OsRoute) := []

namespace LoggedRoutes

def step (w : LoggedRoutes) (op : RouteOp) : LoggedRoutes where
  st := op.apply w.st
  made := w.made ++ accepted w.st.table.nextHandle (op.apply w.st).table (op.adds w.st)

/-- A new session over a table manager that other sessions may have used. -/
def start (table : RouteTableManager) : LoggedRoutes := { st := { table := table } }

def call (w : LoggedRoutes) (c : HostRouteCall) : LoggedRoutes := w.step c.op

/-- The route of the entry goes over the interface: its handle was made for it, and the system has
the row. -/
def Via (w : LoggedRoutes) (ip : IpAddr) (entry : DomainRouteHandle) (ifIndex : Nat) : Prop :=
  (∃ row, (entry.routeHandle, row) ∈ w.made ∧ row.dest = osDest (IpNet.host ip) ∧
    row.ifIndex = ifIndex) ∧ w.st.table.os.Has (osDest (IpNet.host ip)) ifIndex

end LoggedRoutes

namespace HostRouteCall

def Returns (w : LoggedRoutes) (c : HostRouteCall) : Prop := (exec c.prog w.st).1 = .ok ⟨⟩

/-- An entry serves the call over the interface that it passes for its target. -/
def Served (c : HostRouteCall) (w : LoggedRoutes) : Prop :=
  ∀ ifIndex ∈ c.route.map Prod.fst, ∃ entry,
    w.st.session.domainRoutes.get c.ip = some entry ∧ c.Covered entry ∧ w.Via c.ip entry ifIndex

/-- An entry that is good enough for the call has its route there already. -/
def KeepsRight (c : HostRouteCall) (w : LoggedRoutes) : Prop :=
  ∀ ifIndex ∈ c.route.map Prod.fst, ∀ existing,
    w.st.session.domainRoutes.get c.ip = some existing → c.Covered existing →
      w.Via c.ip existing ifIndex

end HostRouteCall

section OneCall
variable {w : LoggedRoutes} {c : HostRouteCall}

theorem adds_kept {existing : DomainRouteHandle}
    (hget : w.st.session.domainRoutes.get c.ip = some existing) (hcovered : c.Covered existing) :
    c.op.adds w.st = [] := by
  have hfresh : RouteOp.upToDate w.st c.ip c.target c.expiresAt = true := by
    simp only [RouteOp.upToDate, hget, Option.any_some, decide_eq_true_eq]
    exact hcovered
  simp only [HostRouteCall.op, RouteOp.adds, hfresh, if_true]

theorem adds_stale (hstale : c.Stale w.st) :
    c.op.adds w.st = c.route.toList.map fun route => some ⟨IpNet.host c.ip, route.1, route.2⟩ := by
  have hnot : RouteOp.upToDate w.st c.ip c.target c.expiresAt = false := by
    rw [RouteOp.upToDate, Option.any_eq_false]
    intro existing hget
    rw [decide_eq_false_iff_not]
    exact hstale existing hget
  simp only [HostRouteCall.op, RouteOp.adds, hnot, Bool.false_eq_true, if_false]
  rfl

theorem call_kept {existing : DomainRouteHandle}
    (hget : w.st.session.domainRoutes.get c.ip = some existing) (hcovered : c.Covered existing)
    (hst : (w.call c).st = w.st) : w.call c = w := by
  have hmade : (w.call c).made = w.made := by
    change w.made ++ accepted _ _ (c.op.adds w.st) = w.made
    rw [adds_kept hget hcovered, accepted, List.zipIdx_nil, List.filterMap_nil, List.append_nil]
  exact LoggedRoutes.ext hst hmade

theorem hosting_served {ifIndex metric : Nat} (hstale : c.Stale w.st)
    (hroute : c.route = some (ifIndex, metric))
    (hanswered : (SessionRoutes.forgetIp w.st c.ip).table.os.faults
      (SessionRoutes.forgetIp w.st c.ip).table.os.calls = 0)
    (hst : (w.call c).st = c.hosting ifIndex metric (SessionRoutes.forgetIp w.st c.ip)) :
    c.Served (w.call c) := by
  have hnext := SessionRoutes.forgetIp_nextHandle w.st c.ip
  have hhandle : (w.call c).st.table.routes.get w.st.table.nextHandle = some (IpNet.host c.ip) := by
    rw [hst, ← hnext]
    exact (get_insert _ _ _ _).trans (if_pos rfl)
  have hmade : (w.call c).made =
      w.made ++ [(w.st.table.nextHandle, ⟨osDest (IpNet.host c.ip), ifIndex, metric⟩)] := by
    change w.made ++ accepted w.st.table.nextHandle (w.call c).st.table (c.op.adds w.st) = _
    rw [adds_stale hstale, hroute, Option.toList_some, List.map_singleton,
      accepted_cons _ hhandle]
    rfl
  intro target hmem
  rw [hroute, Option.map_some, Option.mem_some] at hmem
  subst hmem
  refine ⟨⟨c.ip, w.st.table.nextHandle, c.expiresAt, c.target⟩, ?_, ⟨Nat.le_refl _, rfl⟩,
    ⟨⟨osDest (IpNet.host c.ip), ifIndex, metric⟩, ?_, rfl, rfl⟩, ?_⟩
  · rw [hst, ← hnext]
    exact (get_insert _ _ _ _).trans (if_pos rfl)
  · rw [hmade]
    exact List.mem_append_right _ (List.mem_singleton.mpr rfl)
  · rw [hst]
    exact (RowLog.has_create hanswered _ _ _).mpr (Or.inr ⟨rfl, rfl⟩)

/-- A call that returns `Ok` serves its address exactly when it does not keep a route over another
interface. -/
theorem call_served_iff (hreturns : c.Returns w) : c.Served (w.call c) ↔ c.KeepsRight w := by
  have hcase := hostRoute_case c w.st
  have hst : (w.call c).st = (exec c.prog w.st).2 := rfl
  rw [hreturns] at hcase
  generalize (exec c.prog w.st).2 = after at hcase hst
  cases hcase with
  | kept found covered =>
      rw [call_kept found covered hst]
      constructor
      · intro hserved ifIndex hif existing hget _
        obtain ⟨entry, hentry, _, hvia⟩ := hserved ifIndex hif
        obtain rfl : entry = existing := Option.some.inj (hentry.symm.trans hget)
        exact hvia
      · intro hright ifIndex hif
        exact ⟨_, found, covered, hright ifIndex hif _ found covered⟩
  | blocked stale route =>
      have hnone : ∀ ifIndex, ifIndex ∉ c.route.map Prod.fst := by simp [route]
      constructor
      · intro _ ifIndex hif
        exact absurd hif (hnone ifIndex)
      · intro _ ifIndex hif
        exact absurd hif (hnone ifIndex)
  | added stale route answered =>
      constructor
      · intro _ ifIndex _ existing hget hcovered
        exact absurd hcovered (stale existing hget)
      · intro _
        exact hosting_served stale route answered hst

end OneCall

/-! ## What a call leaves alone -/

/-- The handle of an entry has been drawn, and stands for the host network of its address or for
nothing any more. -/
structure RouteState.Anchored (st : RouteState) : Prop where
  older : ∀ ip entry, st.session.domainRoutes.get ip = some entry →
    entry.routeHandle < st.table.nextHandle
  host : ∀ ip entry, st.session.domainRoutes.get ip = some entry → ∀ cidr,
    st.table.routes.get entry.routeHandle = some cidr → cidr = IpNet.host ip

/-- Handles that have been drawn keep their network or lose it. -/
structure RouteTableManager.Follows (table after : RouteTableManager) : Prop where
  next : table.nextHandle ≤ after.nextHandle
  older : ∀ handle, handle < table.nextHandle → ∀ cidr, after.routes.get handle = some cidr →
    table.routes.get handle = some cidr

section Anchors

theorem follows_addRoute (cidr : IpNet) (ifIndex metric : Nat) (table : RouteTableManager) :
    table.Follows (exec (RouteTableManager.addRoute cidr ifIndex metric) table).2 := by
  by_cases hanswer : table.os.faults table.os.calls = 0
  · rw [addRoute_answered hanswer]
    refine ⟨Nat.le_succ _, fun handle hlt other hget => ?_⟩
    have hne : handle ≠ table.nextHandle := by omega
    exact ((get_insert _ _ _ _).trans (if_neg hne)).symm.trans hget
  · obtain ⟨e, hrefused⟩ := addRoute_refused hanswer cidr ifIndex metric
    rw [hrefused]
    exact ⟨Nat.le_succ _, fun _ _ _ hget => hget⟩

theorem follows_removeRoute (handle : Nat) (table : RouteTableManager) :
    table.Follows (exec (RouteTableManager.removeRoute handle) table).2 := by
  rw [RouteTableManager.removeRoute_state]
  refine ⟨Nat.le_of_eq (RouteTableManager.forget_nextHandle table handle).symm, ?_⟩
  intro other _ cidr hget
  rw [RouteTableManager.forget_routes] at hget
  split at hget
  · cases hget
  · exact hget

theorem onTable_anchored {A : Type} {m : Prog RouteTableManager RouteGuardError A}
    (hm : ∀ table : RouteTableManager, table.Follows (exec m table).2) :
    Keeps RouteState.Anchored (SessionRoutes.onTable m) := by
  intro st h
  obtain ⟨hnext, hfollows⟩ := hm st.table
  rw [SessionRoutes.onTable, exec_zoom]
  refine ⟨fun ip entry hget => ?_, fun ip entry hget cidr hroute => ?_⟩
  · exact Nat.lt_of_lt_of_le (h.older ip entry hget) hnext
  · exact h.host ip entry hget cidr (hfollows _ (h.older ip entry hget) cidr hroute)

theorem modifySession_anchored {f : SessionRoutes → SessionRoutes}
    (hf : ∀ session ip entry, (f session).domainRoutes.get ip = some entry →
      session.domainRoutes.get ip = some entry) :
    Keeps RouteState.Anchored (SessionRoutes.modifySession f) := by
  intro st h
  exact ⟨fun ip entry hget => h.older ip entry (hf _ ip entry hget),
    fun ip entry hget => h.host ip entry (hf _ ip entry hget)⟩

theorem push_anchored (cidr : IpNet) (ifIndex metric : Nat)
    (push : Nat → SessionRoutes → SessionRoutes)
    (hpush : ∀ handle session, (push handle session).domainRoutes = session.domainRoutes) :
    Keeps RouteState.Anchored (do
      let handle ← SessionRoutes.onTable (RouteTableManager.addRoute cidr ifIndex metric)
      SessionRoutes.modifySession (push handle)) := by
  refine keeps_bind (onTable_anchored (follows_addRoute cidr ifIndex metric)) fun handle => ?_
  apply modifySession_anchored
  intro session ip entry hget
  rw [hpush] at hget
  exact hget

theorem removeRoutes_anchored (handles : List Nat) :
    Keeps RouteState.Anchored (forEach
      (fun handle => SessionRoutes.onTable (RouteTableManager.removeRoute handle)) handles) :=
  keeps_forEach (fun handle => onTable_anchored (follows_removeRoute handle)) handles

theorem clearSplit_anchored : Keeps RouteState.Anchored SessionRoutes.clearSplit := by
  refine keeps_bind keeps_get fun st => ?_
  refine keeps_bind (modifySession_anchored fun _ _ _ hget => hget) fun _ => ?_
  exact removeRoutes_anchored _

theorem removeDomainRoute_anchored (ip : IpAddr) :
    Keeps RouteState.Anchored (SessionRoutes.removeDomainRoute ip) := by
  refine keeps_bind keeps_get fun st => ?_
  split
  · exact keeps_pure _
  · rename_i entry _
    refine keeps_bind (modifySession_anchored fun session other entry hget => ?_) fun _ =>
      onTable_anchored (follows_removeRoute entry.routeHandle)
    rw [get_remove] at hget
    split at hget
    · cases hget
    · exact hget

theorem forgetIp_anchored {st : RouteState} (h : st.Anchored) (ip : IpAddr) :
    (SessionRoutes.forgetIp st ip).Anchored := by
  rw [← SessionRoutes.removeDomainRoute_state]
  exact removeDomainRoute_anchored ip st h

theorem hosting_anchored {st : RouteState} (h : st.Anchored) (c : HostRouteCall)
    (ifIndex metric : Nat) : (c.hosting ifIndex metric st).Anchored := by
  have hentries : ∀ ip, (c.hosting ifIndex metric st).session.domainRoutes.get ip =
      if ip = c.ip then some ⟨c.ip, st.table.nextHandle, c.expiresAt, c.target⟩
      else st.session.domainRoutes.get ip := fun ip => get_insert _ _ ip _
  have hroutes : ∀ handle, (c.hosting ifIndex metric st).table.routes.get handle =
      if handle = st.table.nextHandle then some (IpNet.host c.ip)
      else st.table.routes.get handle := fun handle => get_insert _ _ handle _
  constructor
  · intro ip entry hget
    change entry.routeHandle < st.table.nextHandle + 1
    rw [hentries] at hget
    split at hget
    · cases hget
      exact Nat.lt_succ_self _
    · exact Nat.lt_succ_of_lt (h.older ip entry hget)
  · intro ip entry hget cidr hroute
    rw [hentries] at hget
    rw [hroutes] at hroute
    split at hget
    · rename_i hip
      cases hget
      rw [if_pos rfl] at hroute
      rw [hip]
      exact (Option.some.inj hroute).symm
    · have hlt := h.older ip entry hget
      rw [if_neg (by omega)] at hroute
      exact h.host ip entry hget cidr hroute

theorem hostRoute_anchored (c : HostRouteCall) : Keeps RouteState.Anchored c.prog := by
  intro st h
  have hcase := hostRoute_case c st
  have hforget := forgetIp_anchored h c.ip
  generalize (exec c.prog st).2 = after at hcase ⊢
  generalize (exec c.prog st).1 = result at hcase
  cases hcase with
  | kept found covered => exact h
  | stuck stale => exact hforget
  | blocked stale route => exact hforget
  | refused stale route =>
      exact ⟨fun ip entry hget => Nat.lt_succ_of_lt (hforget.older ip entry hget), hforget.host⟩
  | added stale route answered => exact hosting_anchored hforget c _ _

theorem installSplitRoutes_anchored (env : Externals) (policy : PolicySnapshot) :
    Keeps RouteState.Anchored (SessionRoutes.installSplitRoutes env policy) := by
  have hadd : ∀ cidr ifIndex metric,
      Keeps RouteState.Anchored (SessionRoutes.addSplit cidr ifIndex metric) :=
    fun cidr ifIndex metric => push_anchored cidr ifIndex metric
      (fun handle session => { session with splitHandles := session.splitHandles ++ [handle] })
      fun _ _ => rfl
  have htext : ∀ label ifIndex metric cidr,
      Keeps RouteState.Anchored (SessionRoutes.addSplitText env label ifIndex metric cidr) := by
    intro label ifIndex metric cidr
    unfold SessionRoutes.addSplitText
    split
    · exact keeps_throw _
    · exact hadd _ _ _
  unfold SessionRoutes.installSplitRoutes
  refine keeps_bind clearSplit_anchored fun _ => ?_
  split
  · refine keeps_bind (hadd _ _ _) fun _ => ?_
    refine keeps_bind (hadd _ _ _) fun _ => ?_
    refine keeps_bind (hadd _ _ _) fun _ => ?_
    refine keeps_bind (hadd _ _ _) fun _ => ?_
    refine keeps_bind (keeps_forEach (htext _ _ _) _) fun _ => ?_
    exact keeps_forEach (htext _ _ _) _
  · exact keeps_pure _

theorem clearDomainRoutes_anchored (o : Order) :
    Keeps RouteState.Anchored (SessionRoutes.clearDomainRoutes o) :=
  keeps_bind keeps_get fun _ => keeps_forEach removeDomainRoute_anchored _

theorem clear_anchored (o : Order) : Keeps RouteState.Anchored (SessionRoutes.clear o) := by
  refine keeps_bind (clearDomainRoutes_anchored o) fun _ => ?_
  refine keeps_bind clearSplit_anchored fun _ => ?_
  refine keeps_bind keeps_get fun st => ?_
  refine keeps_bind (modifySession_anchored fun _ _ _ hget => hget) fun _ => ?_
  refine keeps_bind (removeRoutes_anchored _) fun _ => ?_
  exact modifySession_anchored fun _ _ _ hget => hget

theorem apply_anchored {st : RouteState} (h : st.Anchored) (op : RouteOp) :
    (op.apply st).Anchored := by
  have hwg : ∀ cidr ifIndex metric, Keeps RouteState.Anchored (do
      let handle ← SessionRoutes.onTable (RouteTableManager.addRoute cidr ifIndex metric)
      SessionRoutes.pushWg handle) :=
    fun cidr ifIndex metric => push_anchored cidr ifIndex metric
      (fun handle session => { session with wgHandles := session.wgHandles ++ [handle] })
      fun _ _ => rfl
  cases op with
  | addDefaultRoute cidr ifIndex => exact hwg cidr ifIndex 100 st h
  | addBypass cidr ifIndex => exact hwg cidr ifIndex 5 st h
  | addEndpointBypass endpoint tunnelIfIndex =>
      exact hwg (IpNet.host endpoint.ip) tunnelIfIndex 0 st h
  | installSplitRoutes env policy => exact installSplitRoutes_anchored env policy st h
  | installDomainRoute ip target tunnelIf physicalIf expiresAt =>
      exact hostRoute_anchored ⟨ip, target, tunnelIf, physicalIf, expiresAt⟩ st h
  | removeDomainRoute ip => exact removeDomainRoute_anchored ip st h
  | purgeExpiredDomainRoutes o now =>
      exact keeps_bind keeps_get (fun _ => keeps_bind
        (keeps_forEach removeDomainRoute_anchored _) fun _ => keeps_pure _) st h
  | clearDomainRoutes o => exact clearDomainRoutes_anchored o st h
  | clearSplit => exact clearSplit_anchored st h
  | clear o => exact clear_anchored o st h

theorem run_anchored (table : RouteTableManager) (ops : List RouteOp) :
    (run LoggedRoutes.step (LoggedRoutes.start table) ops).st.Anchored := by
  refine run_keeps LoggedRoutes.step (P := fun w => w.st.Anchored)
    (fun w op h => apply_anchored h op) ops _ ?_
  constructor
  · intro ip entry hget
    cases (get_empty ip).symm.trans hget
  · intro ip entry hget
    cases (get_empty ip).symm.trans hget

end Anchors

namespace LoggedRoutes

structure SameFor (w after : LoggedRoutes) (ip : IpAddr) : Prop where
  entry : after.st.session.domainRoutes.get ip = w.st.session.domainRoutes.get ip
  via : ∀ entry, w.st.session.domainRoutes.get ip = some entry → ∀ ifIndex,
    after.Via ip entry ifIndex ↔ w.Via ip entry ifIndex

end LoggedRoutes

section Frame
variable {w after : LoggedRoutes} {c : HostRouteCall} {ip : IpAddr}

theorem osDest_host_inj {ip other : IpAddr}
    (h : osDest (IpNet.host ip) = osDest (IpNet.host other)) : ip = other := by
  rw [osDest_host, osDest_host, IpNet.host_inj, osAddr_eq_iff, osAddr_osAddr] at h
  exact h

theorem forgetIp_has {st : RouteState} (h : st.Anchored) (hne : ip ≠ c.ip) (ifIndex : Nat) :
    (SessionRoutes.forgetIp st c.ip).table.os.Has (osDest (IpNet.host ip)) ifIndex ↔
      st.table.os.Has (osDest (IpNet.host ip)) ifIndex := by
  unfold SessionRoutes.forgetIp
  split
  · exact Iff.rfl
  · rename_i entry hget
    refine RouteTableManager.forget_has (fun cidr hroute hdest => hne ?_) ifIndex
    rw [h.host c.ip entry hget cidr hroute] at hdest
    exact (osDest_host_inj hdest).symm

/-- A call for another address leaves the entry of this one and the rows of its destination. -/
theorem hostRoute_frame {st last : RouteState} {result : Except RouteGuardError PUnit}
    (hcase : HostRouteCase c st result last) (h : st.Anchored) (hne : ip ≠ c.ip) :
    last.session.domainRoutes.get ip = st.session.domainRoutes.get ip ∧
      ∀ ifIndex, last.table.os.Has (osDest (IpNet.host ip)) ifIndex ↔
        st.table.os.Has (osDest (IpNet.host ip)) ifIndex := by
  have hentry : (SessionRoutes.forgetIp st c.ip).session.domainRoutes.get ip =
      st.session.domainRoutes.get ip := by
    rw [SessionRoutes.forgetIp_get, if_neg hne]
  have hhas := forgetIp_has h hne
  cases hcase with
  | kept found covered => exact ⟨rfl, fun _ => Iff.rfl⟩
  | stuck stale => exact ⟨hentry, hhas⟩
  | blocked stale route => exact ⟨hentry, hhas⟩
  | refused stale route => exact ⟨hentry, hhas⟩
  | added stale route answered =>
      refine ⟨((get_insert _ _ _ _).trans (if_neg hne)).trans hentry, fun ifIndex => ?_⟩
      rw [← hhas]
      refine (RowLog.has_create answered _ _ _).trans (or_iff_left fun hnew => hne ?_)
      exact (osDest_host_inj hnew.1).symm

theorem mem_accepted_le {first : Nat} {table : RouteTableManager} {adds : List (Option Addition)}
    {pair : Nat × OsRoute} (h : pair ∈ accepted first table adds) : first ≤ pair.1 := by
  obtain ⟨slot, hslot, hsome⟩ := List.mem_filterMap.mp h
  have hle := List.le_snd_of_mem_zipIdx hslot
  split at hsome
  · cases hsome
    exact hle
  · cases hsome

theorem call_sameFor (h : w.st.Anchored) (hne : ip ≠ c.ip) : w.SameFor (w.call c) ip := by
  obtain ⟨hentry, hhas⟩ := hostRoute_frame (hostRoute_case c w.st) h hne
  refine ⟨hentry, fun entry hget ifIndex => ?_⟩
  refine and_congr (exists_congr fun row => and_congr_left fun _ => ?_) (hhas ifIndex)
  refine List.mem_append.trans (or_iff_left fun hnew => ?_)
  have hle := mem_accepted_le hnew
  have hlt := h.older ip entry hget
  omega

theorem LoggedRoutes.SameFor.trans {last : LoggedRoutes} (h : w.SameFor after ip)
    (h' : after.SameFor last ip) : w.SameFor last ip := by
  refine ⟨h'.entry.trans h.entry, fun entry hget ifIndex => ?_⟩
  exact (h'.via entry (h.entry.trans hget) ifIndex).trans (h.via entry hget ifIndex)

theorem served_congr (h : w.SameFor after c.ip) : c.Served after ↔ c.Served w := by
  refine forall₂_congr fun ifIndex _ => exists_congr fun entry => ?_
  rw [h.entry]
  refine and_congr_right fun hget => and_congr_right fun _ => ?_
  exact h.via entry hget ifIndex

theorem keepsRight_congr (h : w.SameFor after c.ip) : c.KeepsRight after ↔ c.KeepsRight w := by
  refine forall₂_congr fun ifIndex _ => forall_congr' fun existing => ?_
  rw [h.entry]
  refine imp_congr_right fun hget => imp_congr_right fun _ => ?_
  exact h.via existing hget ifIndex

theorem calls_sameFor {calls : List HostRouteCall} (h : w.st.Anchored)
    (hne : ∀ c ∈ calls, ip ≠ c.ip) : w.SameFor (run LoggedRoutes.call w calls) ip := by
  induction calls generalizing w with
  | nil => exact ⟨rfl, fun _ _ _ => Iff.rfl⟩
  | cons first rest ih =>
      rw [List.forall_mem_cons] at hne
      have hfirst := call_sameFor h hne.1
      exact hfirst.trans (ih (apply_anchored h first.op) hne.2)

theorem calls_anchored {calls : List HostRouteCall} (h : w.st.Anchored) :
    (run LoggedRoutes.call w calls).st.Anchored :=
  run_keeps LoggedRoutes.call (P := fun w => w.st.Anchored)
    (fun _ c h => apply_anchored h c.op) calls w h

/-- Among calls for pairwise different addresses, one that returns `Ok` is served in the end exactly
when it does not keep a route over another interface. -/
theorem calls_served_iff {front back : List HostRouteCall} (h : w.st.Anchored)
    (hnodup : ((front ++ c :: back).map HostRouteCall.ip).Nodup)
    (hreturns : c.Returns (run LoggedRoutes.call w front)) :
    c.Served (run LoggedRoutes.call w (front ++ c :: back)) ↔ c.KeepsRight w := by
  rw [List.map_append, List.map_cons, List.nodup_append] at hnodup
  obtain ⟨_, hback, hfront⟩ := hnodup
  have hbefore : ∀ other ∈ front, c.ip ≠ other.ip := fun other hother =>
    (hfront _ (List.mem_map_of_mem hother) _ List.mem_cons_self).symm
  have hafter : ∀ other ∈ back, c.ip ≠ other.ip := by
    intro other hother heq
    exact (List.nodup_cons.mp hback).1 (heq ▸ List.mem_map_of_mem hother)
  have hreached : (run LoggedRoutes.call w front).st.Anchored := calls_anchored h
  rw [run_append, run_cons, served_congr (calls_sameFor (apply_anchored hreached c.op) hafter)]
  exact (call_served_iff hreturns).trans (keepsRight_congr (calls_sameFor h hbefore))

end Frame

end RouteGuard
