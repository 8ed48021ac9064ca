import RouteGuard.Platform.HostRoutes
import RouteGuard.Routing.StoreIndex
import RouteGuard.Service.DomainRouting

/-! # Cached routes under new interfaces

`reinstall_routes_from_cache` repeats the calls of all cached entries with the
interfaces of a new policy.  Which of the host routes then go over them. -/
set_option autoImplicit false
namespace RouteGuard

open HashTable Fallible GuardedRun

namespace DomainRouting

/-- The calls of `reinstall_routes_from_cache`, in the order of its walk. -/
def reinstallCalls (d : DomainRouting) (at_ : Moment) (policy : PolicySnapshot) :
    List HostRouteCall :=
  let tunnelIf := policy.tunnelIfIndex.getD 0
  let physicalIf := policy.physicalIfIndex.getD 0
  if tunnelIf = 0 ∧ physicalIf = 0 then []
  else (at_.order.values d.store.byIp).map fun entry =>
    ⟨entry.ip, entry.target, tunnelIf, physicalIf, entry.expiresAt⟩

end DomainRouting

namespace LoggedRoutes

def Reachable (w : LoggedRoutes) : Prop := ∃ table ops, w = run step (start table) ops

def reinstalled (w : LoggedRoutes) (d : DomainRouting) (at_ : Moment) (policy : PolicySnapshot) :
    LoggedRoutes where
  st := (d.reinstallRoutesFromCache at_ policy).routes
  made := (run call w (d.reinstallCalls at_ policy)).made

end LoggedRoutes

section Reinstall
variable {w : LoggedRoutes} {d : DomainRouting} {at_ : Moment} {policy : PolicySnapshot}

theorem reinstallCalls_nodup (h : d.store.Indexed) (at_ : Moment) (policy : PolicySnapshot) :
    ((d.reinstallCalls at_ policy).map HostRouteCall.ip).Nodup := by
  unfold DomainRouting.reinstallCalls
  dsimp only
  split
  · exact List.nodup_nil
  · have hkeys : (at_.order.values d.store.byIp).map ResolvedIpEntry.ip =
        at_.order.keys d.store.byIp := by
      rw [Order.values, Order.keys, List.map_map]
      apply List.map_congr_left
      intro row hrow
      exact h.keyed row.1 row.2 ((mem_order_items _ _ _ _).mp hrow)
    rw [List.map_map]
    have hnodup := order_keys_nodup at_.order d.store.byIp
    rw [← hkeys] at hnodup
    exact hnodup

theorem foldl_installEntry (tunnelIf physicalIf : Nat) (entries : List ResolvedIpEntry)
    (hroutes : d.routes = w.st) :
    (entries.foldl (fun d entry => d.installEntry tunnelIf physicalIf entry) d).routes =
      (run LoggedRoutes.call w (entries.map fun entry =>
        ⟨entry.ip, entry.target, tunnelIf, physicalIf, entry.expiresAt⟩)).st := by
  induction entries generalizing d w with
  | nil => exact hroutes
  | cons entry rest ih =>
      rw [List.foldl_cons, List.map_cons, run_cons]
      apply ih
      change (exec _ d.routes).2 = (exec _ w.st).2
      rw [hroutes]

theorem reinstalled_eq (hroutes : d.routes = w.st) :
    w.reinstalled d at_ policy = run LoggedRoutes.call w (d.reinstallCalls at_ policy) := by
  refine LoggedRoutes.ext ?_ rfl
  simp only [LoggedRoutes.reinstalled, DomainRouting.reinstallRoutesFromCache,
    DomainRouting.reinstallCalls]
  split
  · exact hroutes
  · exact foldl_installEntry _ _ _ hroutes

/-- A call that returns `Ok` serves its address over the interface it passes exactly when no route
over another interface is good enough to be kept; so with each entry of a reinstallation. -/
theorem hostRoutes_move_iff (hw : w.Reachable) :
    (∀ c : HostRouteCall, c.Returns w → (c.Served (w.call c) ↔ c.KeepsRight w)) ∧
    ∀ (d : DomainRouting) (at_ : Moment) (policy : PolicySnapshot), d.routes = w.st →
      d.store.Indexed → ∀ front c back, d.reinstallCalls at_ policy = front ++ c :: back →
        c.Returns (run LoggedRoutes.call w front) →
          (c.Served (w.reinstalled d at_ policy) ↔ c.KeepsRight w) := by
  obtain ⟨table, ops, rfl⟩ := hw
  have hanchored := run_anchored table ops
  refine ⟨fun c => call_served_iff, fun d at_ policy hroutes hindexed front c back hcalls => ?_⟩
  have hnodup := reinstallCalls_nodup hindexed at_ policy
  intro hreturns
  rw [reinstalled_eq hroutes]
  rw [hcalls] at hnodup ⊢
  exact calls_served_iff hanchored hnodup hreturns

end Reinstall

/-! ## A tunnel that moves from interface 7 to interface 9 -/

def movedOps : List RouteOp := [.installDomainRoute (ipv4 93 184 216 34) .tunnel 7 3 100]

def movedSession : LoggedRoutes := run LoggedRoutes.step (LoggedRoutes.start {}) movedOps

def movedCall (expiresAt : Nat) : HostRouteCall := ⟨ipv4 93 184 216 34, .tunnel, 9, 3, expiresAt⟩

def movedPolicy : PolicySnapshot := { tunnelIfIndex := some 9, physicalIfIndex := some 3 }

def movedMoment : Moment := { clock := ⟨0, 0⟩ }

def movedCache (expiresAt : Nat) : DomainRouting where
  store := (DomainRouteStore.new {}).indexEntry
    ⟨ipv4 93 184 216 34, "example.com", "example.com", .tunnel, expiresAt, 100⟩
  engine := ⟨⟨.fullTunnel, ⟨[], []⟩, ⟨[]⟩, ⟨[], ∅, ∅⟩⟩⟩
  routes := movedSession.st

/-- An answer has extended the entry, so the route is made anew. -/
theorem moved_extended :
    (movedCall 200).Served (movedSession.call (movedCall 200)) ∧
      (movedCall 200).Served
        (movedSession.reinstalled (movedCache 200) movedMoment movedPolicy) := by
  have hmoves := hostRoutes_move_iff (w := movedSession) ⟨{}, movedOps, rfl⟩
  have hreturns : (movedCall 200).Returns movedSession := rfl
  have hright : (movedCall 200).KeepsRight movedSession := by
    intro ifIndex _ existing hget hcovered
    have hentry : movedSession.st.session.domainRoutes.get (ipv4 93 184 216 34) =
        some ⟨ipv4 93 184 216 34, 1, 100, .tunnel⟩ := by decide
    cases hentry.symm.trans hget
    exact absurd hcovered (by decide)
  refine ⟨(hmoves.1 _ hreturns).mpr hright, ?_⟩
  have hindexed : (movedCache 200).store.Indexed :=
    DomainRouteStore.indexEntry_indexed (DomainRouteStore.new_indexed {}).1 _
  exact (hmoves.2 (movedCache 200) movedMoment movedPolicy rfl hindexed [] (movedCall 200) [] rfl
    hreturns).mpr hright

/-- The same expiry as before: the call returns `Ok` and the route stays on interface 7. -/
theorem moved_stays :
    (movedCall 100).Returns movedSession ∧
      ¬(movedCall 100).Served (movedSession.call (movedCall 100)) ∧
      ¬(movedCall 100).Served
        (movedSession.reinstalled (movedCache 100) movedMoment movedPolicy) := by
  have hstays : ¬(movedCall 100).Served (movedSession.call (movedCall 100)) := by
    intro hserved
    obtain ⟨entry, _, _, ⟨row, hmade, _, hif⟩, _⟩ := hserved 9 rfl
    have hlog : ∀ pair ∈ (movedSession.call (movedCall 100)).made, pair.2.ifIndex = 7 := by decide
    cases (hlog _ hmade).symm.trans hif
  refine ⟨rfl, hstays, ?_⟩
  rw [reinstalled_eq rfl]
  exact hstays

end RouteGuard
