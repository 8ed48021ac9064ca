import RouteGuard.Platform.BestRoute
import RouteGuard.Platform.TunnelRoutes

/-! # Whether encapsulated packets enter the tunnel again

The packets of a tunnel go to the endpoints of its peers, over the route the
system takes for them once `install_routes` has added the routes of the tunnel. -/
set_option autoImplicit false
namespace RouteGuard

open Fallible Upsert

/-! ## Routes of the endpoints -/

def ParsedConf.endpoints (conf : ParsedConf) : List SocketAddr :=
  conf.peers.filterMap ParsedPeer.endpoint

def BestFor (rows : List OsRoute) (ip : IpAddr) (row : OsRoute) : Prop :=
  LongestPrefix.IsBest (fun row => row.dest.prefixLen) OsRoute.metric
    (rows.filter fun row => row.dest.contains ip) row

def OsRoute.Outranks (row other : OsRoute) : Prop :=
  LongestPrefix.Outranks (fun row => row.dest.prefixLen) OsRoute.metric row other

instance (row other : OsRoute) : Decidable (row.Outranks other) :=
  inferInstanceAs (Decidable (_ ∨ _))

namespace WireGuardNtBackend

/-- No packet to an endpoint takes a row of the tunnel. -/
def NoLoop (tunnelIf : Nat) (conf : ParsedConf) (rows : List OsRoute) : Prop :=
  ∀ ep ∈ conf.endpoints, ∀ row, BestFor rows ep.ip row → row.ifIndex ≠ tunnelIf

/-- The rows of the tunnel interface once the routes are installed: of two additions for one
destination the later. -/
def tunnelRows (tunnelIf : Nat) (conf : ParsedConf) (rows : List OsRoute) : List OsRoute :=
  upsertAll OsRoute.key (rows.filter fun row => row.ifIndex = tunnelIf)
    ((plannedAdditions tunnelIf conf).map Addition.row)

/-- A row that covers an endpoint is outranked by one of another interface that was there before. -/
def EndpointsApart (tunnelIf : Nat) (conf : ParsedConf) (rows : List OsRoute) : Prop :=
  ∀ ep ∈ conf.endpoints, ∀ row ∈ tunnelRows tunnelIf conf rows, row.dest.contains ep.ip = true →
    ∃ other ∈ rows, other.ifIndex ≠ tunnelIf ∧ other.dest.contains ep.ip = true ∧
      other.Outranks row

instance (tunnelIf : Nat) (conf : ParsedConf) (rows : List OsRoute) :
    Decidable (EndpointsApart tunnelIf conf rows) :=
  inferInstanceAs (Decidable (∀ ep ∈ conf.endpoints, ∀ row ∈ tunnelRows tunnelIf conf rows,
    row.dest.contains ep.ip = true → ∃ other ∈ rows, other.ifIndex ≠ tunnelIf ∧
      other.dest.contains ep.ip = true ∧ other.Outranks row))

section Loop
variable {tunnelIf : Nat} {conf : ParsedConf} {st after : RouteState}

/-- The rows of other interfaces stay, and those of the tunnel are `tunnelRows`. -/
theorem mem_installed (hinstall : exec (installRoutes tunnelIf conf) st = (.ok ⟨⟩, after))
    (row : OsRoute) :
    row ∈ after.table.os.rows ↔ row ∈ tunnelRows tunnelIf conf st.table.os.rows ∨
      row ∈ st.table.os.rows ∧ row.ifIndex ≠ tunnelIf := by
  obtain ⟨hrows, hends⟩ := installRoutes_installed tunnelIf conf st
  rw [hinstall] at hrows hends
  rw [hrows, hends.mp rfl, tunnelRows, mem_upsertAll, mem_upsertAll, List.mem_filter,
    decide_eq_true_eq]
  constructor
  · intro h
    rcases h with hlast | ⟨hold, hunwritten⟩
    · exact Or.inl (Or.inl hlast)
    · by_cases hif : row.ifIndex = tunnelIf
      · exact Or.inl (Or.inr ⟨⟨hold, hif⟩, hunwritten⟩)
      · exact Or.inr ⟨hold, hif⟩
  · intro h
    rcases h with (hlast | ⟨⟨hold, _⟩, hunwritten⟩) | ⟨hold, hif⟩
    · exact Or.inl hlast
    · exact Or.inr ⟨hold, hunwritten⟩
    · refine Or.inr ⟨hold, fun new hnew hkey => hif ?_⟩
      exact (congrArg Prod.snd hkey).symm.trans (planned_ifIndex hnew)

theorem tunnelRows_ifIndex {rows : List OsRoute} {row : OsRoute}
    (h : row ∈ tunnelRows tunnelIf conf rows) : row.ifIndex = tunnelIf := by
  rcases (mem_upsertAll OsRoute.key).mp h with hlast | ⟨hold, _⟩
  · exact planned_ifIndex hlast.mem
  · exact of_decide_eq_true (List.mem_filter.mp hold).2

theorem noLoop_of_rows {rows before : List OsRoute}
    (hmem : ∀ row, row ∈ rows ↔
      row ∈ tunnelRows tunnelIf conf before ∨ row ∈ before ∧ row.ifIndex ≠ tunnelIf) :
    NoLoop tunnelIf conf rows ↔ EndpointsApart tunnelIf conf before := by
  refine forall₂_congr fun ep _ => ?_
  have havoids := LongestPrefix.isBest_avoids_iff (fun row : OsRoute => row.dest.prefixLen)
    OsRoute.metric (rows.filter fun row => row.dest.contains ep.ip)
    (fun row => row.ifIndex = tunnelIf)
  refine havoids.trans ?_
  simp only [List.mem_filter]
  constructor
  · intro h row hrow hcovers
    obtain ⟨other, ⟨hother, hcovers'⟩, hif, houtranks⟩ :=
      h row ⟨(hmem row).mpr (Or.inl hrow), hcovers⟩ (tunnelRows_ifIndex hrow)
    rcases (hmem other).mp hother with htunnel | ⟨hold, _⟩
    · exact absurd (tunnelRows_ifIndex htunnel) hif
    · exact ⟨other, hold, hif, hcovers', houtranks⟩
  · intro h row hrow hif
    rcases (hmem row).mp hrow.1 with htunnel | ⟨_, hother⟩
    · obtain ⟨other, hold, hapart, hcovers, houtranks⟩ := h row htunnel hrow.2
      exact ⟨other, ⟨(hmem other).mpr (Or.inr ⟨hold, hapart⟩), hcovers⟩, hapart, houtranks⟩
    · exact absurd hif hother

/-- Packets to the endpoints stay out of the tunnel exactly when each row of the tunnel that covers
one is outranked by a row of another interface. -/
theorem noLoop_iff (hinstall : exec (installRoutes tunnelIf conf) st = (.ok ⟨⟩, after)) :
    NoLoop tunnelIf conf after.table.os.rows ↔ EndpointsApart tunnelIf conf st.table.os.rows :=
  noLoop_of_rows (mem_installed hinstall)

/-- The host route of the first endpoint lies on the tunnel as well: where the system sees the
address as it is, nothing but another host route can outrank it. -/
theorem first_endpoint_loops {ep : SocketAddr} {rows : List OsRoute}
    (hfirst : conf.peers.head?.bind ParsedPeer.endpoint = some ep) (hseen : osAddr ep.ip = ep.ip)
    (hhost : ∀ row ∈ rows, row.dest.prefixLen < ep.ip.width) :
    ¬EndpointsApart tunnelIf conf rows := by
  intro hapart
  have hendpoint : ep ∈ conf.endpoints := by
    obtain ⟨peer, hpeer, hep⟩ := Option.bind_eq_some_iff.mp hfirst
    exact List.mem_filterMap.mpr ⟨peer, List.mem_of_mem_head? hpeer, hep⟩
  have hplanned : (⟨osDest (IpNet.host ep.ip), tunnelIf, 0⟩ : OsRoute) ∈
      (plannedAdditions tunnelIf conf).map Addition.row := by
    simp [plannedAdditions, endpointAdditions, hfirst, Addition.row]
  obtain ⟨final, hfinal, hkey⟩ := exists_lastWrite OsRoute.key hplanned
  have hdest : final.dest = IpNet.host ep.ip := by
    have hosDest : final.dest = osDest (IpNet.host ep.ip) := congrArg Prod.fst hkey
    rw [hosDest, osDest_host, hseen]
  have hrow : final ∈ tunnelRows tunnelIf conf rows :=
    (mem_upsertAll OsRoute.key).mpr (Or.inl hfinal)
  obtain ⟨other, hother, _, _, houtranks⟩ :=
    hapart ep hendpoint final hrow (by rw [hdest, IpNet.contains_host])
  have hshort := hhost other hother
  have hlong : final.dest.prefixLen = ep.ip.width := by rw [hdest, IpNet.prefixLen_host]
  simp only [OsRoute.Outranks, LongestPrefix.Outranks] at houtranks
  omega

end Loop

/-! ## Two configurations -/

def onePeer (endpoint : IpAddr) (allowed : IpNet) : ParsedConf where
  peers := [{ endpoint := some ⟨endpoint, 51820⟩, allowedIps := [allowed] }]

def reachedBy (route : IpNet) : RouteState where
  table := { os := { rows := [⟨route, 3, 25⟩] } }

theorem onePeer_installs (endpoint : IpAddr) (allowed route : IpNet) :
    exec (installRoutes 7 (onePeer endpoint allowed)) (reachedBy route) =
      (.ok ⟨⟩, (exec (installRoutes 7 (onePeer endpoint allowed)) (reachedBy route)).2) := by
  obtain ⟨-, hends⟩ := installRoutes_installed 7 (onePeer endpoint allowed) (reachedBy route)
  exact Prod.ext (hends.mpr rfl) rfl

theorem noLoop_cheaper :
    NoLoop 7 (onePeer (ipv4 203 0 113 5) SessionRoutes.defaultV4)
      (exec (installRoutes 7 (onePeer (ipv4 203 0 113 5) SessionRoutes.defaultV4))
        (reachedBy SessionRoutes.defaultV4)).2.table.os.rows :=
  (noLoop_iff (onePeer_installs _ _ _)).mpr (by decide)

/-- 2001:db8::1, which the host route sends into the tunnel. -/
theorem onePeer_loops :
    (exec (installRoutes 7 (onePeer (.v6 0x20010db8000000000000000000000001#128)
        SessionRoutes.defaultV6)) (reachedBy SessionRoutes.defaultV6)).1 = .ok ⟨⟩ ∧
      ¬NoLoop 7 (onePeer (.v6 0x20010db8000000000000000000000001#128) SessionRoutes.defaultV6)
        (exec (installRoutes 7 (onePeer (.v6 0x20010db8000000000000000000000001#128)
          SessionRoutes.defaultV6)) (reachedBy SessionRoutes.defaultV6)).2.table.os.rows := by
  have hinstall := onePeer_installs (.v6 0x20010db8000000000000000000000001#128)
    SessionRoutes.defaultV6 SessionRoutes.defaultV6
  refine ⟨congrArg Prod.fst hinstall, ?_⟩
  rw [noLoop_of_rows (mem_installed hinstall)]
  exact first_endpoint_loops rfl rfl (by decide)

end WireGuardNtBackend
end RouteGuard
