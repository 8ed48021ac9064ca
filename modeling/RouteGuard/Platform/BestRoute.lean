import RouteGuard.Platform.RouteSpecs
import RouteGuard.Lib.LongestPrefix

/-! # The best route of an address

Which row of the system's table carries a packet, and what the table looks like
after a list of successful additions through one tunnel and one physical
interface. -/
set_option autoImplicit false
namespace RouteGuard

open HashTable Fallible

/-! ## Selection -/

/-- The row that carries packets to the address: longest prefix, then lowest metric. -/
def bestRoute (rows : List OsRoute) (ip : IpAddr) : Option OsRoute :=
  LongestPrefix.best (fun row => row.dest.prefixLen) OsRoute.metric
    (rows.filter fun row => row.dest.contains ip)

section Swap

theorem swapBytes_swapBytes (bits : BitVec 32) : swapBytes (swapBytes bits) = bits := by
  apply BitVec.eq_of_getLsbD_eq
  intro i hi
  simp only [swapBytes, BitVec.getLsbD_append, BitVec.getLsbD_extractLsb']
  grind

def osAddr : IpAddr → IpAddr
  | .v4 bits => .v4 (swapBytes bits)
  | .v6 bits => .v6 bits

@[simp]
theorem osAddr_osAddr (ip : IpAddr) : osAddr (osAddr ip) = ip := by
  cases ip with
  | v4 bits => simp [osAddr, swapBytes_swapBytes]
  | v6 bits => rfl

theorem osAddr_eq_iff (ip other : IpAddr) : osAddr ip = other ↔ ip = osAddr other := by
  constructor
  · intro h
    subst h
    rw [osAddr_osAddr]
  · intro h
    subst h
    rw [osAddr_osAddr]

@[simp]
theorem prefixLen_osDest (net : IpNet) : (osDest net).prefixLen = net.prefixLen := by
  cases net <;> rfl

theorem addr_osDest (net : IpNet) : (osDest net).addr = osAddr net.addr := by
  cases net <;> rfl

theorem osDest_host (ip : IpAddr) : osDest (IpNet.host ip) = IpNet.host (osAddr ip) := by
  cases ip <;> rfl

@[simp]
theorem width_osAddr (ip : IpAddr) : (osAddr ip).width = ip.width := by
  cases ip <;> rfl

/-- A full-length network the system sees as the address is the host of the reversed address. -/
theorem contains_osDest_iff {net : IpNet} {ip : IpAddr} (hlen : net.prefixLen = ip.width) :
    (osDest net).contains ip = true ↔ net = IpNet.host (osAddr ip) := by
  have hfull : (osDest net).prefixLen = ip.width := by
    rw [prefixLen_osDest, hlen]
  rw [IpNet.contains_full hfull, addr_osDest, osAddr_eq_iff, IpNet.eq_host_iff, width_osAddr]
  exact ⟨fun h => ⟨hlen, h⟩, And.right⟩

theorem contains_default (ip : IpAddr) :
    ∃ net, (net = SessionRoutes.defaultV4 ∨ net = SessionRoutes.defaultV6) ∧ net.prefixLen = 0 ∧
      (osDest net).contains ip = true := by
  cases ip with
  | v4 bits => exact ⟨SessionRoutes.defaultV4, Or.inl rfl, rfl, Net.contains_all _ bits rfl⟩
  | v6 bits => exact ⟨SessionRoutes.defaultV6, Or.inr rfl, rfl, Net.contains_all _ bits rfl⟩

end Swap

/-! ## Two interfaces -/

section Dual
variable (tunnelIf physicalIf : Nat)

structure Request where
  net : IpNet
  viaTunnel : Bool
deriving DecidableEq, Repr

/-- Tunnel routes have metric 100 and physical routes metric 1. -/
def Request.row (req : Request) : OsRoute :=
  if req.viaTunnel then ⟨osDest req.net, tunnelIf, 100⟩ else ⟨osDest req.net, physicalIf, 1⟩

/-- The rows are those of the requests. -/
def Carries (reqs : List Request) (rows : List OsRoute) : Prop :=
  ∀ row, row ∈ rows ↔ ∃ req ∈ reqs, req.row tunnelIf physicalIf = row

variable {tunnelIf physicalIf}

@[simp]
theorem Request.row_dest (req : Request) : (req.row tunnelIf physicalIf).dest = osDest req.net := by
  unfold Request.row
  split <;> rfl

/-- With distinct interfaces a row is fixed by its destination and interface. -/
theorem Request.row_eq_of_key (hne : tunnelIf ≠ physicalIf) {req other : Request}
    (hdest : (req.row tunnelIf physicalIf).dest = (other.row tunnelIf physicalIf).dest)
    (hif : (req.row tunnelIf physicalIf).ifIndex = (other.row tunnelIf physicalIf).ifIndex) :
    req.row tunnelIf physicalIf = other.row tunnelIf physicalIf := by
  rw [row_dest, row_dest] at hdest
  obtain ⟨net, viaTunnel⟩ := req
  obtain ⟨net', viaTunnel'⟩ := other
  cases viaTunnel with
  | true => cases viaTunnel' with
    | true => simp_all [Request.row]
    | false => exact absurd hif hne
  | false => cases viaTunnel' with
    | true => exact absurd hif.symm hne
    | false => simp_all [Request.row]

theorem Carries.add {reqs : List Request} {os : Os} (hne : tunnelIf ≠ physicalIf)
    (hos : os.Healthy) (h : Carries tunnelIf physicalIf reqs os.rows) (req : Request) :
    Carries tunnelIf physicalIf (reqs ++ [req])
      (os.create (req.row tunnelIf physicalIf)).2.rows := by
  intro row
  have hstatus := hos os.calls
  simp only [Os.create, hstatus, if_true, List.mem_append, List.mem_filter, List.mem_singleton,
    Os.keyed, Bool.not_eq_eq_eq_not, Bool.not_true, decide_eq_false_iff_not, or_and_right,
    exists_or, exists_eq_left, ← h row]
  constructor
  · intro hcase
    rcases hcase with ⟨hmem, _⟩ | rfl
    · exact Or.inl hmem
    · exact Or.inr rfl
  · intro hcase
    rcases hcase with hmem | rfl
    · by_cases hkey : row.dest = (req.row tunnelIf physicalIf).dest ∧
          row.ifIndex = (req.row tunnelIf physicalIf).ifIndex
      · right
        obtain ⟨other, _, rfl⟩ := (h row).mp hmem
        exact Request.row_eq_of_key hne hkey.1 hkey.2
      · exact Or.inl ⟨hmem, hkey⟩
    · exact Or.inr rfl

/-- With default routes through the physical interface and only defaults and hosts through the
tunnel, packets take the tunnel exactly to its hosts that are not physical hosts as well. -/
theorem bestRoute_dual {reqs : List Request} {rows : List OsRoute}
    (h : Carries tunnelIf physicalIf reqs rows)
    (hv4 : ⟨SessionRoutes.defaultV4, false⟩ ∈ reqs) (hv6 : ⟨SessionRoutes.defaultV6, false⟩ ∈ reqs)
    (htunnel : ∀ net, ⟨net, true⟩ ∈ reqs → net.prefixLen = 0 ∨ ∃ ip, net = IpNet.host ip)
    (ip : IpAddr) : ∃ row, bestRoute rows ip = some row ∧
      row.ifIndex = if ⟨IpNet.host (osAddr ip), true⟩ ∈ reqs ∧
        ⟨IpNet.host (osAddr ip), false⟩ ∉ reqs then tunnelIf else physicalIf := by
  have hrows : ∀ req ∈ reqs, (osDest req.net).contains ip = true →
      req.row tunnelIf physicalIf ∈ rows.filter fun row => row.dest.contains ip := by
    intro req hreq hcontains
    exact List.mem_filter.mpr ⟨(h _).mpr ⟨req, hreq, rfl⟩, by simpa using hcontains⟩
  have hhostContains : (osDest (IpNet.host (osAddr ip))).contains ip = true := by
    refine (contains_osDest_iff ?_).mpr rfl
    rw [IpNet.prefixLen_host, width_osAddr]
  obtain ⟨default, hdefault, hlen0, hcontains0⟩ := contains_default ip
  have hdefaultMem : ⟨default, false⟩ ∈ reqs := by
    rcases hdefault with rfl | rfl
    · exact hv4
    · exact hv6
  have hmem0 := hrows _ hdefaultMem hcontains0
  obtain ⟨row, hbest⟩ := LongestPrefix.exists_best (fun row : OsRoute => row.dest.prefixLen)
    OsRoute.metric hmem0
  obtain ⟨hrow, hbeats⟩ := LongestPrefix.best_beats _ _ hbest
  obtain ⟨hrowMem, hrowContains⟩ := List.mem_filter.mp hrow
  refine ⟨row, hbest, ?_⟩
  obtain ⟨⟨net, viaTunnel⟩, hreq, rfl⟩ := (h row).mp hrowMem
  rw [Request.row_dest] at hrowContains
  cases viaTunnel with
  | true =>
      -- a tunnel row wins: it is a host, and no physical host matches
      have hdefaultBeaten := hbeats _ hmem0
      simp only [LongestPrefix.Beats, Request.row] at hdefaultBeaten
      have hhost : net = IpNet.host (osAddr ip) := by
        rcases htunnel net hreq with hzero | ⟨host, rfl⟩
        · simp [hzero] at hdefaultBeaten
        · have hwidth := IpNet.width_of_contains hrowContains
          rw [addr_osDest, width_osAddr] at hwidth
          refine (contains_osDest_iff ?_).mp hrowContains
          rw [IpNet.prefixLen_host, ← hwidth]
          cases host <;> rfl
      subst hhost
      rw [if_pos]
      · rfl
      · refine ⟨hreq, ?_⟩
        intro hphysical
        have hbeat := hbeats _ (hrows _ hphysical hhostContains)
        simp [LongestPrefix.Beats, Request.row] at hbeat
  | false =>
      -- a physical row wins: no tunnel host matches, or a physical host does too
      rw [if_neg]
      · rfl
      · intro hcase
        obtain ⟨hhost, hnot⟩ := hcase
        have hbeat := hbeats _ (hrows _ hhost hhostContains)
        have hle := IpNet.prefixLen_le hrowContains
        simp only [LongestPrefix.Beats, Request.row, prefixLen_osDest, IpNet.prefixLen_host,
          width_osAddr, Bool.false_eq_true, if_false, if_true] at hbeat hle
        have hfull : net.prefixLen = ip.width := by omega
        rw [(contains_osDest_iff hfull).mp hrowContains] at hreq
        exact hnot hreq

end Dual

end RouteGuard
