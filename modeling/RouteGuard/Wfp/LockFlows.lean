import RouteGuard.Wfp.NetworkLock

/-! # What the network lock lets through

The flows that the filters of `install_network_lock` permit, beside those its
policy asks for. -/
set_option autoImplicit false
namespace RouteGuard

open Fallible Arbitration

/-! ## Flows -/

namespace OutboundFlow
variable (flow : OutboundFlow)

def IsLoopback : Prop :=
  loopbackV4.contains flow.remoteIp = true ∨ loopbackV6.contains flow.remoteIp = true

def IsLan : Prop := ∃ net ∈ lanNets, net.contains flow.remoteIp = true

def IsUdpTo (addr : SocketAddr) : Prop :=
  flow.protocol = .udp ∧ flow.remoteIp = addr.ip ∧ flow.remotePort = addr.port

def IsUdpToHost (ip : IpAddr) : Prop := flow.protocol = .udp ∧ flow.remoteIp = ip

def Matches (permit : TransportPermitRule) : Prop :=
  flow.protocol = permit.protocol.flow ∧ flow.remoteIp = permit.remoteIp ∧
    ∀ port ∈ permit.remotePort, flow.remotePort = port

end OutboundFlow

namespace NetworkLockPolicy
variable (policy : NetworkLockPolicy) (flow : OutboundFlow)

/-- The exceptions of the policy that concern the remote side. -/
def Lists : Prop :=
  flow.IsLoopback ∨ (policy.allowLan = true ∧ flow.IsLan) ∨
    (∃ dns ∈ policy.dnsServers, flow.IsUdpTo dns) ∨ (∃ ep ∈ policy.endpoint, flow.IsUdpTo ep) ∨
    ∃ permit ∈ policy.transportPermits, flow.Matches permit

def ThroughTunnel : Prop := policy.tunnelIfIndex = some flow.egressIf

/-- UDP to the address of a DNS server or of the endpoint. -/
def UdpToKnownHost : Prop :=
  (∃ dns ∈ policy.dnsServers, flow.IsUdpToHost dns.ip) ∨
    ∃ ep ∈ policy.endpoint, flow.IsUdpToHost ep.ip

end NetworkLockPolicy

/-- The filters that `install_network_lock` leaves in an engine without filters. -/
def lockFilters (fromCidr : String → Except String IpNet) (policy : NetworkLockPolicy) :
    Set FilterRule :=
  (exec (installNetworkLock fromCidr policy) { engine := .empty }).2.engine.rules

theorem empty_rules : WfpEngine.empty.rules = ∅ := by
  ext rule
  constructor
  · intro hrule
    obtain ⟨id, hget⟩ := hrule
    cases hget
  · intro hrule
    cases hrule

theorem lockFilters_eq {fromCidr : String → Except String IpNet} (hreads : ReadsLockCidrs fromCidr)
    (policy : NetworkLockPolicy) :
    lockFilters fromCidr policy = {rule | rule ∈ lockRules policy} := by
  obtain ⟨result, after, hexec, hadded, _⟩ :=
    exec_addAll (lockSteps fromCidr policy) { engine := .empty }
  have hall : addedRules (lockSteps fromCidr policy) WfpEngine.empty.faults = lockRules policy :=
    addedRules_of_clear (lockSteps_rules hreads policy) (allClear_nil _)
  rw [hall] at hadded
  rw [lockFilters, installNetworkLock_eq, hexec]
  exact hadded.rules_eq.trans (by rw [empty_rules, Set.empty_union])

/-! ## Which filters apply -/

section Applies
variable {flow : OutboundFlow}

theorem applies_lockPermit (suffix : String) (net : IpNet) :
    (lockPermit suffix net).Applies flow ↔ net.contains flow.remoteIp = true := by
  rw [lockPermit, FilterRule.applies_withRemoteIp rfl]
  simp only [FilterRule.applies_permit, true_and]

theorem applies_hostPermit (suffix : String) (ip : IpAddr) (protocol : FlowProtocol) :
    ((lockPermit suffix (IpNet.host ip)).withProtocol protocol).Applies flow ↔
      flow.remoteIp = ip ∧ flow.protocol = protocol := by
  rw [FilterRule.applies_withProtocol rfl, applies_lockPermit, IpNet.contains_host]
  exact and_congr_left fun _ => eq_comm

theorem applies_transport (suffix : String) (permit : TransportPermitRule) :
    (permit.filter suffix).Applies flow ↔ flow.Matches permit := by
  rw [TransportPermitRule.filter, OutboundFlow.Matches]
  cases hport : permit.remotePort with
  | none =>
      simp only [applies_hostPermit, Option.mem_def, reduceCtorEq, IsEmpty.forall_iff, implies_true,
        and_true]
      exact and_comm
  | some port =>
      have hfree : ((lockPermit suffix (IpNet.host permit.remoteIp)).withProtocol
        permit.protocol.flow).remotePort = none := rfl
      simp only [FilterRule.applies_withRemotePort hfree, applies_hostPermit, Option.mem_def,
        Option.some.injEq, forall_eq']
      rw [and_assoc, and_left_comm]

theorem tier_lockPermit (suffix : String) (net : IpNet) :
    (lockPermit suffix net).tier = .permit := rfl

theorem tier_withProtocol (rule : FilterRule) (protocol : FlowProtocol) :
    (rule.withProtocol protocol).tier = rule.tier := rfl

theorem tier_transport (suffix : String) (permit : TransportPermitRule) :
    (permit.filter suffix).tier = .permit := by
  rw [TransportPermitRule.filter]
  cases permit.remotePort <;> rfl

/-! ### The permits of each group -/

theorem permit_front_iff : (∃ rule ∈ [FilterRule.block (lockName "BLOCK"),
      lockPermit "ALLOW_LOOPBACK_V4" loopbackV4, lockPermit "ALLOW_LOOPBACK_V6" loopbackV6],
    rule.tier = .permit ∧ rule.Applies flow) ↔ flow.IsLoopback := by
  have hblock : (FilterRule.block (lockName "BLOCK")).tier ≠ .permit := by decide
  simp only [List.mem_cons, List.not_mem_nil, or_false, or_and_right, exists_or, exists_eq_left,
    hblock, false_and, false_or, tier_lockPermit, true_and, applies_lockPermit]
  rfl

theorem permit_lan_iff (allowLan : Bool) : (∃ rule ∈ (if allowLan then
        lanCidrs.zipWith (fun row net => lockPermit row.1 net) lanNets else []),
      rule.tier = .permit ∧ rule.Applies flow) ↔ allowLan = true ∧ flow.IsLan := by
  cases allowLan with
  | false => simp
  | true =>
      simp only [if_true, true_and, OutboundFlow.IsLan, lanCidrs, lanNets,
        List.zipWith_cons_cons, List.zipWith_nil_right, List.mem_cons, List.not_mem_nil, or_false,
        or_and_right, exists_or, exists_eq_left, tier_lockPermit, applies_lockPermit]

/-- The port of a DNS server is in no condition. -/
theorem permit_dns_iff (dnsServers : List SocketAddr) :
    (∃ rule ∈ dnsServers.zipIdx.map fun row => (lockPermit
        ("ALLOW_DNS_" ++ ToString.toString row.2) (IpNet.host row.1.ip)).withProtocol .udp,
      rule.tier = .permit ∧ rule.Applies flow) ↔
      ∃ dns ∈ dnsServers, flow.IsUdpToHost dns.ip := by
  apply exists_numbered
  intro row
  simp only [tier_withProtocol, tier_lockPermit, applies_hostPermit, true_and]
  exact and_comm

/-- Nor is that of the endpoint. -/
theorem permit_endpoint_iff (endpoint : Option SocketAddr) :
    (∃ rule ∈ endpoint.toList.map fun ep =>
        (lockPermit "ALLOW_EP" (IpNet.host ep.ip)).withProtocol .udp,
      rule.tier = .permit ∧ rule.Applies flow) ↔
        ∃ ep ∈ endpoint, flow.IsUdpToHost ep.ip := by
  cases endpoint with
  | none => simp
  | some ep =>
      simp only [Option.toList_some, List.map_cons, List.map_nil, List.mem_singleton,
        exists_eq_left, tier_withProtocol, tier_lockPermit, applies_hostPermit, true_and,
        Option.mem_def, Option.some.injEq, exists_eq_left']
      exact and_comm

theorem permit_transport_iff (permits : List TransportPermitRule) :
    (∃ rule ∈ permits.zipIdx.map fun row =>
        row.1.filter ("TRANSPORT_" ++ ToString.toString row.2),
      rule.tier = .permit ∧ rule.Applies flow) ↔ ∃ permit ∈ permits, flow.Matches permit := by
  apply exists_numbered
  intro row
  simp only [tier_transport, applies_transport, true_and]

theorem OutboundFlow.IsUdpTo.toHost {addr : SocketAddr} (h : flow.IsUdpTo addr) :
    flow.IsUdpToHost addr.ip := by
  obtain ⟨hproto, hip, _⟩ := h
  exact ⟨hproto, hip⟩

/-- A permitting rule of the lock applies to the flows the policy lists, and to UDP to the address
of a DNS server or of the endpoint on any port. -/
theorem lockRules_permit_iff (policy : NetworkLockPolicy) :
    Matched FilterRule.tier FilterRule.Applies .permit {rule | rule ∈ lockRules policy} flow ↔
      policy.Lists flow ∨ policy.UdpToKnownHost flow := by
  simp only [Matched, Set.mem_ofPred_eq, lockRules, List.mem_append, or_and_right, exists_or]
  rw [permit_front_iff, permit_lan_iff, permit_dns_iff, permit_endpoint_iff, permit_transport_iff,
    NetworkLockPolicy.Lists, NetworkLockPolicy.UdpToKnownHost]
  constructor
  · intro hmatched
    rcases hmatched with (((hloop | hnet) | hhost) | hhost) | hpermit
    · exact Or.inl (Or.inl hloop)
    · exact Or.inl (Or.inr (Or.inl hnet))
    · exact Or.inr (Or.inl hhost)
    · exact Or.inr (Or.inr hhost)
    · exact Or.inl (Or.inr (Or.inr (Or.inr (Or.inr hpermit))))
  · intro hlisted
    rcases hlisted with (hloop | hnet | ⟨dns, hmem, hto⟩ | ⟨ep, hmem, hto⟩ | hpermit) |
      hhost | hhost
    · exact Or.inl (Or.inl (Or.inl (Or.inl hloop)))
    · exact Or.inl (Or.inl (Or.inl (Or.inr hnet)))
    · exact Or.inl (Or.inl (Or.inr ⟨dns, hmem, hto.toHost⟩))
    · exact Or.inl (Or.inr ⟨ep, hmem, hto.toHost⟩)
    · exact Or.inr hpermit
    · exact Or.inl (Or.inl (Or.inr hhost))
    · exact Or.inl (Or.inr hhost)

/-- The lock blocks whatever it does not permit. -/
theorem permitted_lockRules_iff (policy : NetworkLockPolicy) :
    Permitted {rule | rule ∈ lockRules policy} flow ↔
      policy.Lists flow ∨ policy.UdpToKnownHost flow := by
  have hblock : Matched FilterRule.tier FilterRule.Applies .block {rule | rule ∈ lockRules policy}
      flow := by
    refine ⟨FilterRule.block (lockName "BLOCK"), ?_, rfl, FilterRule.applies_block _ _⟩
    simp [lockRules]
  rw [Permitted, permits_iff_of_blocked hblock, lockRules_permit_iff]

end Applies

/-! ## The flows of the policy -/

/-- The exceptions of the policy: those of the remote side and the tunnel interface. -/
def NetworkLockPolicy.Excepts (policy : NetworkLockPolicy) (flow : OutboundFlow) : Prop :=
  policy.Lists flow ∨ policy.ThroughTunnel flow

/-- The filters permit what the policy excepts, and nothing else, where the flow is listed, or is
UDP to the host of a DNS server or of the endpoint exactly if it leaves through the tunnel. -/
theorem lockFilters_except_iff {fromCidr : String → Except String IpNet}
    (hreads : ReadsLockCidrs fromCidr) (policy : NetworkLockPolicy) (flow : OutboundFlow) :
    (Permitted (lockFilters fromCidr policy) flow ↔ policy.Excepts flow) ↔
      policy.Lists flow ∨ (policy.UdpToKnownHost flow ↔ policy.ThroughTunnel flow) := by
  rw [lockFilters_eq hreads, permitted_lockRules_iff, NetworkLockPolicy.Excepts]
  by_cases hlists : policy.Lists flow
  · simp only [hlists, true_or]
  · simp only [hlists, false_or]

def tunnelLock : NetworkLockPolicy := { enabled := true, tunnelIfIndex := some 42 }

def tunnelFlow : OutboundFlow := ⟨"C:\\app.exe", ipv4 8 8 8 8, 443, .tcp, 42⟩

theorem lockFilters_except_iff_tunnel :
    (Permitted (lockFilters readCidr tunnelLock) tunnelFlow ↔ tunnelLock.Excepts tunnelFlow) ↔
      tunnelLock.Lists tunnelFlow ∨
        (tunnelLock.UdpToKnownHost tunnelFlow ↔ tunnelLock.ThroughTunnel tunnelFlow) :=
  lockFilters_except_iff readsLockCidrs_readCidr tunnelLock tunnelFlow

/-- The lock cuts off a flow that leaves through its own tunnel. -/
theorem tunnelFlow_blocked :
    ¬ (Permitted (lockFilters readCidr tunnelLock) tunnelFlow ↔ tunnelLock.Excepts tunnelFlow) := by
  have hlan : ∀ net ∈ lanNets, net.contains tunnelFlow.remoteIp = false := by decide
  have hloopback : ¬ tunnelFlow.IsLoopback := by
    simp only [OutboundFlow.IsLoopback]
    decide
  rw [lockFilters_eq readsLockCidrs_readCidr, permitted_lockRules_iff]
  intro hsame
  rcases hsame.mpr (Or.inr rfl) with hlists | hhost
  · rcases hlists with hloop | ⟨_, net, hnet, hin⟩ | ⟨dns, hdns, _⟩
      | ⟨ep, hep, _⟩ | ⟨permit, hpermit, _⟩
    · exact hloopback hloop
    · rw [hlan net hnet] at hin
      cases hin
    · cases hdns
    · cases hep
    · cases hpermit
  · rcases hhost with ⟨dns, hdns, _⟩ | ⟨ep, hep, _⟩
    · cases hdns
    · cases hep

end RouteGuard
