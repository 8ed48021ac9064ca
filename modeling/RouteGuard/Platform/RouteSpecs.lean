import RouteGuard.Platform.Routes

/-! # What the route operations do when no system call fails

With a healthy system every operation returns without error.  The specifications
say what it does to the domain routes of the session and to the rows of the
system's table, and leave handles unspecified. -/
set_option autoImplicit false
namespace RouteGuard

open HashTable Fallible

/-! ## The table manager -/

namespace RouteTableManager

def added (table : RouteTableManager) (cidr : IpNet) (ifIndex metric : Nat) :
    RouteTableManager where
  nextHandle := table.nextHandle + 1
  routes := table.routes.insert table.nextHandle cidr
  os := (table.os.create ⟨osDest cidr, ifIndex, metric⟩).2

section Specs
variable (table : RouteTableManager)

theorem osAdd_exec (h : table.os.Healthy) (cidr : IpNet) (ifIndex metric : Nat) :
    exec (osAdd cidr ifIndex metric) table =
      (.ok ⟨⟩, { table with os := (table.os.create ⟨osDest cidr, ifIndex, metric⟩).2 }) := by
  have hstatus : (table.os.create ⟨osDest cidr, ifIndex, metric⟩).1 = 0 := h table.os.calls
  simp only [osAdd, exec_bind, exec_get, exec_set, hstatus]
  rfl

theorem addRoute_exec (h : table.os.Healthy) (cidr : IpNet) (ifIndex metric : Nat) :
    exec (addRoute cidr ifIndex metric) table =
      (.ok table.nextHandle, table.added cidr ifIndex metric) := by
  have hnext : ({ table with nextHandle := table.nextHandle + 1 } : RouteTableManager).os.Healthy :=
    h
  simp only [addRoute, exec_bind, exec_get, exec_modify, exec_pure, osAdd_exec _ hnext]
  rfl

/-- 1168 is `ERROR_NOT_FOUND`. -/
theorem osDelete_exec
    (h : table.os.faults table.os.calls = 0 ∨ table.os.faults table.os.calls = 1168)
    (cidr : IpNet) : exec (osDelete cidr) table =
      (.ok ⟨⟩, { table with os := (table.os.delete (osDest cidr) 0).2 }) := by
  have hstatus : (table.os.delete (osDest cidr) 0).1 = 0 ∨
      (table.os.delete (osDest cidr) 0).1 = 1168 := by
    unfold Os.delete
    cases h with
    | inl hzero =>
        simp only [hzero, ne_eq, not_true_eq_false, if_false]
        split
        · exact Or.inl rfl
        · exact Or.inr rfl
    | inr hmissing => simp [hmissing]
  rcases hstatus with hs | hs <;>
  · simp only [osDelete, exec_bind, exec_get, exec_set, hs]
    rfl

theorem delete_faults (os : Os) (dest : IpNet) (ifIndex : Nat) :
    (os.delete dest ifIndex).2.faults = os.faults := by
  unfold Os.delete
  simp only
  split
  · rfl
  · split <;> rfl

theorem healthy_delete {os : Os} (h : os.Healthy) (dest : IpNet) (ifIndex : Nat) :
    (os.delete dest ifIndex).2.Healthy := by
  unfold Os.delete
  simp only
  split
  · exact h
  · split <;> exact h

theorem removeRoute_succeeds (handle : Nat) :
    Succeeds (fun table => table.os.Healthy) (removeRoute handle) fun _ table =>
      table.os.Healthy := by
  intro table h
  cases hget : table.routes.get handle with
  | none =>
      refine ⟨⟨⟩, table, ?_, h⟩
      simp only [removeRoute, exec_bind, exec_get, hget, exec_pure]
  | some cidr =>
      have hrest : ({ table with routes := table.routes.remove handle } :
          RouteTableManager).os.Healthy := h
      refine ⟨⟨⟩, { table with
        routes := table.routes.remove handle
        os := (table.os.delete (osDest cidr) 0).2 }, ?_, healthy_delete h (osDest cidr) 0⟩
      simp only [removeRoute, exec_bind, exec_get, hget, exec_modify,
        osDelete_exec _ (Or.inl (hrest _))]

end Specs

end RouteTableManager

/-! ## Domain routes of the session -/

namespace RouteState

def Healthy (st : RouteState) : Prop := st.table.os.Healthy

def routeOf (st : RouteState) (ip : IpAddr) : Option (RouteTarget × Nat) :=
  (st.session.domainRoutes.get ip).map fun handle => (handle.target, handle.expiresAt)

def targetOf (st : RouteState) (ip : IpAddr) : Option RouteTarget := (st.routeOf ip).map Prod.fst

end RouteState

namespace SessionRoutes

section DomainRoutes
variable {st : RouteState}

theorem onTable_succeeds {A : Type} {m : Prog RouteTableManager RouteGuardError A}
    (h : Succeeds (fun table => table.os.Healthy) m fun _ table => table.os.Healthy)
    (hst : st.Healthy) : ∃ a st', exec (onTable m) st = (.ok a, st') ∧ st'.Healthy ∧
      st'.session = st.session := by
  obtain ⟨a, table, hexec, hhealthy⟩ := h st.table hst
  refine ⟨a, { st with table := table }, ?_, hhealthy, rfl⟩
  rw [onTable, exec_zoom, hexec]

theorem onTable_keeps {A : Type} {m : Prog RouteTableManager RouteGuardError A}
    (h : Succeeds (fun table => table.os.Healthy) m fun _ table => table.os.Healthy)
    (routes : Table IpAddr DomainRouteHandle) :
    Keeps (fun st => st.Healthy ∧ st.session.domainRoutes = routes) (onTable m) := by
  intro st hcase
  obtain ⟨hst, hroutes⟩ := hcase
  obtain ⟨a, st', hexec, hhealthy, hsession⟩ := onTable_succeeds h hst
  rw [hexec]
  exact ⟨hhealthy, by rw [hsession, hroutes]⟩

theorem removeDomainRoute_spec (hst : st.Healthy) (ip : IpAddr) :
    ∃ st', exec (removeDomainRoute ip) st = (.ok ⟨⟩, st') ∧ st'.Healthy ∧
      ∀ other, st'.routeOf other = if other = ip then none else st.routeOf other := by
  cases hget : st.session.domainRoutes.get ip with
  | none =>
      refine ⟨st, ?_, hst, ?_⟩
      · simp only [removeDomainRoute, exec_bind, exec_get, hget, exec_pure]
      · intro other
        by_cases ho : other = ip
        · subst ho
          simp [RouteState.routeOf, hget]
        · simp [ho]
  | some entry =>
      have hst' : ({ st with session := { st.session with
          domainRoutes := st.session.domainRoutes.remove ip } } : RouteState).Healthy := hst
      obtain ⟨_, st', hexec, hhealthy, hsession⟩ :=
        onTable_succeeds (RouteTableManager.removeRoute_succeeds entry.routeHandle) hst'
      refine ⟨st', ?_, hhealthy, ?_⟩
      · simp only [removeDomainRoute, exec_bind, exec_get, hget, modifySession, exec_modify, hexec]
      · intro other
        rw [RouteState.routeOf, hsession, get_remove]
        split
        · rfl
        · rfl

def routeFor (target : RouteTarget) (expiresAt : Nat) : Option (RouteTarget × Nat) :=
  if target = .block then none else some (target, expiresAt)

theorem addDomainRoute_spec (hst : st.Healthy) {ip : IpAddr} (hnone : st.routeOf ip = none)
    (target : RouteTarget) (tunnelIf physicalIf expiresAt : Nat) :
    ∃ st', exec (addDomainRoute ip target tunnelIf physicalIf expiresAt) st = (.ok ⟨⟩, st') ∧
      st'.Healthy ∧ ∀ other, st'.routeOf other =
        if other = ip then routeFor target expiresAt else st.routeOf other := by
  cases hhost : hostRoute target tunnelIf physicalIf with
  | none =>
      have hblock : target = .block := by
        cases target <;> simp_all [hostRoute]
      refine ⟨st, ?_, hst, ?_⟩
      · simp only [addDomainRoute, hhost, exec_pure]
      · intro other
        by_cases ho : other = ip
        · subst ho
          simp [hnone, routeFor, hblock]
        · simp [ho]
  | some route =>
      obtain ⟨ifIndex, metric⟩ := route
      have htarget : target ≠ .block := by
        intro h
        subst h
        simp [hostRoute] at hhost
      let handle : DomainRouteHandle := ⟨ip, st.table.nextHandle, expiresAt, target⟩
      refine ⟨⟨{ st.session with domainRoutes := st.session.domainRoutes.insert ip handle },
        st.table.added (IpNet.host ip) ifIndex metric⟩, ?_, hst, ?_⟩
      · simp only [addDomainRoute, hhost, exec_bind, onTable, exec_zoom,
          RouteTableManager.addRoute_exec _ hst, modifySession, exec_modify]
        rfl
      · intro other
        simp only [RouteState.routeOf, get_insert]
        split
        · simp [routeFor, htarget, handle]
        · rfl

def Covered (route : Option (RouteTarget × Nat)) (target : RouteTarget) (expiresAt : Nat) : Prop :=
  ∃ expiry, route = some (target, expiry) ∧ expiresAt ≤ expiry

theorem installDomainRoute_spec (hst : st.Healthy) (ip : IpAddr) (target : RouteTarget)
    (tunnelIf physicalIf expiresAt : Nat) :
    ∃ st', exec (installDomainRoute ip target tunnelIf physicalIf expiresAt) st = (.ok ⟨⟩, st') ∧
      st'.Healthy ∧ (∀ other, other ≠ ip → st'.routeOf other = st.routeOf other) ∧
      (st'.routeOf ip = st.routeOf ip ∧ Covered (st.routeOf ip) target expiresAt ∨
        st'.routeOf ip = routeFor target expiresAt) := by
  cases hget : st.session.domainRoutes.get ip with
  | none =>
      have hnone : st.routeOf ip = none := by
        rw [RouteState.routeOf, hget]
        rfl
      obtain ⟨st', hexec, hhealthy, hroutes⟩ :=
        addDomainRoute_spec hst hnone target tunnelIf physicalIf expiresAt
      refine ⟨st', ?_, hhealthy, ?_, Or.inr ?_⟩
      · simp only [installDomainRoute, exec_bind, exec_get, hget, hexec]
      · intro other ho
        rw [hroutes, if_neg ho]
      · rw [hroutes, if_pos rfl]
  | some existing =>
      by_cases hcover : expiresAt ≤ existing.expiresAt ∧ existing.target = target
      · refine ⟨st, ?_, hst, fun _ _ => rfl, Or.inl ⟨rfl, existing.expiresAt, ?_, hcover.1⟩⟩
        · simp only [installDomainRoute, exec_bind, exec_get, hget, hcover, and_self, if_true,
            exec_pure]
        · rw [RouteState.routeOf, hget, Option.map_some, hcover.2]
      · obtain ⟨removed, hremove, hhealthy, hroutes⟩ := removeDomainRoute_spec hst ip
        have hnone : removed.routeOf ip = none := by
          rw [hroutes, if_pos rfl]
        obtain ⟨st', hexec, hhealthy', hroutes'⟩ :=
          addDomainRoute_spec hhealthy hnone target tunnelIf physicalIf expiresAt
        refine ⟨st', ?_, hhealthy', ?_, Or.inr ?_⟩
        · simp only [installDomainRoute, exec_bind, exec_get, hget, hcover, if_false, hremove,
            hexec]
        · intro other ho
          rw [hroutes', if_neg ho, hroutes, if_neg ho]
        · rw [hroutes', if_pos rfl]

theorem forEach_removeDomainRoute (ips : List IpAddr) (hst : st.Healthy) :
    ∃ st', exec (forEach removeDomainRoute ips) st = (.ok ⟨⟩, st') ∧ st'.Healthy ∧
      ∀ other, st'.routeOf other = if other ∈ ips then none else st.routeOf other := by
  induction ips generalizing st with
  | nil => exact ⟨st, rfl, hst, fun other => by simp⟩
  | cons ip rest ih =>
      obtain ⟨middle, hremove, hhealthy, hroutes⟩ := removeDomainRoute_spec hst ip
      obtain ⟨st', hexec, hhealthy', hroutes'⟩ := ih hhealthy
      refine ⟨st', ?_, hhealthy', ?_⟩
      · simp only [forEach, exec_bind, hremove, hexec]
      · intro other
        rw [hroutes', hroutes]
        by_cases hrest : other ∈ rest
        · simp [hrest]
        · by_cases ho : other = ip <;> simp [ho, hrest]

theorem purgeExpiredDomainRoutes_spec (hst : st.Healthy) (o : Order) (now : Nat) :
    ∃ ips st', exec (purgeExpiredDomainRoutes o now) st = (.ok ips, st') ∧ st'.Healthy ∧
      ∀ ip, st'.routeOf ip = (st.routeOf ip).filter fun route => now < route.2 := by
  set expired := ((o.items st.session.domainRoutes).filter
    fun row => decide (row.2.expiresAt ≤ now)).map Prod.fst with hexpired
  obtain ⟨st', hexec, hhealthy, hroutes⟩ := forEach_removeDomainRoute expired hst
  refine ⟨expired, st', ?_, hhealthy, ?_⟩
  · simp only [purgeExpiredDomainRoutes, exec_bind, exec_get, ← hexpired, hexec, exec_pure]
  · intro ip
    have hmem : ip ∈ expired ↔
        ∃ handle, st.session.domainRoutes.get ip = some handle ∧ handle.expiresAt ≤ now := by
      simp only [hexpired, List.mem_map, List.mem_filter, Prod.exists, exists_and_right,
        exists_eq_right, mem_order_items, decide_eq_true_eq]
    rw [hroutes, RouteState.routeOf]
    cases hget : st.session.domainRoutes.get ip with
    | none => simp
    | some handle =>
        by_cases hlive : handle.expiresAt ≤ now
        · simp [hmem, hget, hlive, Option.filter]
        · simp [hmem, hget, hlive, Option.filter, Nat.lt_of_not_le hlive]

theorem clearDomainRoutes_spec (hst : st.Healthy) (o : Order) :
    ∃ st', exec (clearDomainRoutes o) st = (.ok ⟨⟩, st') ∧ st'.Healthy ∧
      ∀ ip, st'.routeOf ip = none := by
  obtain ⟨st', hexec, hhealthy, hroutes⟩ :=
    forEach_removeDomainRoute (o.keys st.session.domainRoutes) hst
  refine ⟨st', ?_, hhealthy, ?_⟩
  · simp only [clearDomainRoutes, exec_bind, exec_get, hexec]
  · intro ip
    rw [hroutes]
    split
    · rfl
    · rename_i hnot
      rw [mem_order_keys] at hnot
      cases hget : st.session.domainRoutes.get ip with
      | none => simp [RouteState.routeOf, hget]
      | some handle => exact absurd ⟨handle, hget⟩ hnot

end DomainRoutes

/-! ## Split routes -/

section SplitRoutes
variable (routes : Table IpAddr DomainRouteHandle)

theorem modifySplit_keeps (f : List Nat → List Nat) :
    Keeps (fun st => st.Healthy ∧ st.session.domainRoutes = routes)
      (modifySession fun session => { session with splitHandles := f session.splitHandles }) :=
  keeps_modify fun _ h => h

theorem addSplit_keeps (cidr : IpNet) (ifIndex metric : Nat) :
    Keeps (fun st => st.Healthy ∧ st.session.domainRoutes = routes)
      (addSplit cidr ifIndex metric) := by
  refine keeps_bind (onTable_keeps ?_ routes) fun handle =>
    modifySplit_keeps routes fun handles => handles ++ [handle]
  intro table h
  exact ⟨table.nextHandle, table.added cidr ifIndex metric,
    RouteTableManager.addRoute_exec _ h cidr ifIndex metric, h⟩

theorem addSplitText_keeps (env : Externals) (label : String)
    (ifIndex metric : Nat) (cidr : String) :
    Keeps (fun st => st.Healthy ∧ st.session.domainRoutes = routes)
      (addSplitText env label ifIndex metric cidr) := by
  unfold addSplitText
  cases env.parseNet cidr with
  | error e => exact keeps_throw _
  | ok net => exact addSplit_keeps routes net ifIndex metric

theorem clearSplit_keeps :
    Keeps (fun st => st.Healthy ∧ st.session.domainRoutes = routes) clearSplit := by
  refine keeps_bind keeps_get fun st => ?_
  refine keeps_bind (modifySplit_keeps routes fun _ => []) fun _ => ?_
  exact keeps_forEach (fun handle =>
    onTable_keeps (RouteTableManager.removeRoute_succeeds handle) routes) _

/-- Installing the split routes leaves the domain routes alone, whether it succeeds or not. -/
theorem installSplitRoutes_keeps (env : Externals) (policy : PolicySnapshot) :
    Keeps (fun st => st.Healthy ∧ st.session.domainRoutes = routes)
      (installSplitRoutes env policy) := by
  unfold installSplitRoutes
  refine keeps_bind (clearSplit_keeps routes) fun _ => ?_
  split
  · refine keeps_bind (addSplit_keeps routes _ _ _) fun _ => ?_
    refine keeps_bind (addSplit_keeps routes _ _ _) fun _ => ?_
    refine keeps_bind (addSplit_keeps routes _ _ _) fun _ => ?_
    refine keeps_bind (addSplit_keeps routes _ _ _) fun _ => ?_
    refine keeps_bind (keeps_forEach (addSplitText_keeps routes env _ _ _) _) fun _ => ?_
    exact keeps_forEach (addSplitText_keeps routes env _ _ _) _
  · exact keeps_pure _

end SplitRoutes

end SessionRoutes
end RouteGuard
