import RouteGuard.Core.AddrRoundTrip
import RouteGuard.Service.Sessions
import RouteGuard.Wfp.LockFlows

/-! # The lock policy of a connection

`apply_split_wfp` hands the network lock the policy that `build_policy` made:
the endpoint and the DNS servers go through their texts.  Which flows of the
connection itself the lock then lets out. -/
set_option autoImplicit false
namespace RouteGuard

/-- The policy that `apply_split_wfp` enables the lock with. -/
def PolicySnapshot.networkLockPolicy (policy : PolicySnapshot) : NetworkLockPolicy where
  enabled := true
  allowLan := policy.allowLan
  dnsServers := policy.dnsServers.filterMap SocketAddr.parse
  tunnelIfIndex := policy.tunnelIfIndex
  endpoint := policy.endpoint.bind SocketAddr.parse
  transportPermits := policy.transportPermits

namespace ActiveConnectSession
variable (active : ActiveConnectSession)

def endpoint : SocketAddr := active.transportSession.wireguardEndpoint

def remote : SocketAddr :=
  active.transportSession.remoteTransport.getD active.transportSession.originalEndpoint

/-- A flow the connection itself needs: UDP to its endpoint, and the flow of its transport. -/
def Needs (flow : OutboundFlow) : Prop :=
  flow.IsUdpTo active.endpoint ∨
    (active.transportChoice = .phantun ∧ flow.protocol = .tcp ∧ flow.remoteIp = active.remote.ip ∧
      flow.remotePort = active.remote.port) ∨
    (active.transportChoice = .lwo ∧ flow.IsUdpTo active.remote)

end ActiveConnectSession

def AppConfig.DnsServerAt (cfg : AppConfig) (ip : IpAddr) : Prop :=
  ∃ text, (text ∈ cfg.networkLock.dnsServers ∨ text ∈ cfg.routing.domainDns.upstream) ∧
    ∃ addr, SocketAddr.parse text = some addr ∧ addr.ip = ip

section Build
variable {env : Externals} {o : HashTable.Order} {now : Nat} {view : PolicyView}
  {engine : RoutingEngine} {store : DomainRouteStore} {policy : PolicySnapshot}
  {active : ActiveConnectSession}

theorem withEndpoint_lock {policy' : PolicySnapshot} (h : view.withEndpoint policy = .ok policy') :
    policy'.allowLan = policy.allowLan ∧ policy'.dnsServers = policy.dnsServers := by
  unfold PolicyView.withEndpoint at h
  split at h
  · cases h
    exact ⟨rfl, rfl⟩
  · split at h
    · cases h
    · cases h
      exact ⟨rfl, rfl⟩
  · split at h
    · cases h
      exact ⟨rfl, rfl⟩
    · cases h
      exact ⟨rfl, rfl⟩

theorem buildPolicy_lock (hbuild : buildPolicy env o now view engine store = .ok policy)
    (hactive : view.active = some (policyEndpoints active)) :
    policy.endpoint = some active.endpoint.toString ∧
      policy.transportPermits = (policyEndpoints active).extraPermits ∧
      policy.allowLan = view.cfg.networkLock.allowLan ∧
      policy.dnsServers =
        addMissing view.cfg.networkLock.dnsServers view.cfg.routing.domainDns.upstream := by
  simp only [buildPolicy, bind, Except.bind, pure, Except.pure] at hbuild
  split at hbuild
  · cases hbuild
  · rename_i policy' hendpoint
    obtain ⟨hlan, hdns⟩ := withEndpoint_lock hendpoint
    have hwireguard : (policyEndpoints active).wireguardEndpoint = active.endpoint := by
      rw [policyEndpoints]
      cases active.transportChoice <;> rfl
    cases hbuild
    simp only [PolicyView.withTransport, hactive, hlan, hdns, hwireguard]
    exact ⟨trivial, trivial, rfl, rfl⟩

theorem networkLockPolicy_endpoint (hendpoint : policy.endpoint = some active.endpoint.toString) :
    policy.networkLockPolicy.endpoint = some active.endpoint := by
  rw [PolicySnapshot.networkLockPolicy, hendpoint, Option.bind_some, SocketAddr.parse_toString]

theorem exists_dnsServer {cfg : AppConfig} {ip : IpAddr} (hdns : policy.dnsServers =
      addMissing cfg.networkLock.dnsServers cfg.routing.domainDns.upstream) :
    (∃ dns ∈ policy.networkLockPolicy.dnsServers, dns.ip = ip) ↔ cfg.DnsServerAt ip := by
  simp only [PolicySnapshot.networkLockPolicy, hdns, List.mem_filterMap, mem_addMissing,
    AppConfig.DnsServerAt]
  constructor
  · intro hex
    obtain ⟨dns, ⟨text, hmem, hparse⟩, hip⟩ := hex
    exact ⟨text, hmem, dns, hparse, hip⟩
  · intro hex
    obtain ⟨text, hmem, dns, hparse, hip⟩ := hex
    exact ⟨dns, ⟨text, hmem, hparse⟩, hip⟩

/-- The remote of an LWO relay is let out for another reason: it is loopback, or has the address of
the endpoint or of a DNS server. -/
def LwoRemoteOpen (cfg : AppConfig) (active : ActiveConnectSession) : Prop :=
  (loopbackV4.contains active.remote.ip = true ∨ loopbackV6.contains active.remote.ip = true) ∨
    active.remote.ip = active.endpoint.ip ∨ cfg.DnsServerAt active.remote.ip

/-- The filters of the lock permit every flow the connection needs, unless it runs over LWO to a
remote that nothing else lets out. -/
theorem lockPolicy_permits_iff {fromCidr : String → Except String IpNet}
    (hreads : ReadsLockCidrs fromCidr)
    (hbuild : buildPolicy env o now view engine store = .ok policy)
    (hactive : view.active = some (policyEndpoints active))
    (hlan : view.cfg.networkLock.allowLan = false) :
    (∀ flow, active.Needs flow →
      Permitted (lockFilters fromCidr policy.networkLockPolicy) flow) ↔
      (active.transportChoice = .lwo → LwoRemoteOpen view.cfg active) := by
  obtain ⟨hendpoint, hpermits, hallow, hdns⟩ := buildPolicy_lock hbuild hactive
  have hlockEndpoint := networkLockPolicy_endpoint hendpoint
  have hlockPermits : policy.networkLockPolicy.transportPermits =
      (policyEndpoints active).extraPermits := hpermits
  have hlockLan : policy.networkLockPolicy.allowLan = false := hallow.trans hlan
  have hverdict : ∀ flow, Permitted (lockFilters fromCidr policy.networkLockPolicy) flow ↔
      policy.networkLockPolicy.Lists flow ∨ policy.networkLockPolicy.UdpToKnownHost flow := by
    intro flow
    rw [lockFilters_eq hreads, permitted_lockRules_iff]
  have hdnsHost : ∀ ip, (∃ dns ∈ policy.networkLockPolicy.dnsServers, dns.ip = ip) ↔
      view.cfg.DnsServerAt ip := fun ip => exists_dnsServer hdns
  constructor
  · intro hall hlwo
    have hnone : (policyEndpoints active).extraPermits = [] := by rw [policyEndpoints, hlwo]
    have hneeds : active.Needs ⟨"", active.remote.ip, active.remote.port, .udp, 0⟩ :=
      Or.inr (Or.inr ⟨hlwo, rfl, rfl, rfl⟩)
    rcases (hverdict _).mp (hall _ hneeds) with hlists | hhost
    · rcases hlists with hloop | ⟨hlan', _⟩ | ⟨dns, hmem, _, hip, _⟩ | ⟨ep, hep, _, hip, _⟩ |
        ⟨permit, hmem, _⟩
      · exact Or.inl hloop
      · rw [hlockLan] at hlan'
        cases hlan'
      · exact Or.inr (Or.inr ((hdnsHost _).mp ⟨dns, hmem, hip.symm⟩))
      · rw [hlockEndpoint] at hep
        cases hep
        exact Or.inr (Or.inl hip)
      · rw [hlockPermits, hnone] at hmem
        cases hmem
    · rcases hhost with ⟨dns, hmem, _, hip⟩ | ⟨ep, hep, _, hip⟩
      · exact Or.inr (Or.inr ((hdnsHost _).mp ⟨dns, hmem, hip.symm⟩))
      · rw [hlockEndpoint] at hep
        cases hep
        exact Or.inr (Or.inl hip)
  · intro hopen flow hneeds
    rw [hverdict]
    rcases hneeds with ⟨hproto, hip, _⟩ | ⟨hphantun, hproto, hip, hport⟩ | ⟨hlwo, hproto, hip, _⟩
    · exact Or.inr (Or.inr ⟨active.endpoint, hlockEndpoint, hproto, hip⟩)
    · have hextra : (policyEndpoints active).extraPermits =
          [⟨active.remote.ip, some active.remote.port, .tcp⟩] := by
        rw [policyEndpoints, hphantun]
        rfl
      refine Or.inl (Or.inr (Or.inr (Or.inr (Or.inr
        ⟨⟨active.remote.ip, some active.remote.port, .tcp⟩, ?_, hproto, hip, ?_⟩))))
      · rw [hlockPermits, hextra]
        exact List.mem_cons_self
      · intro port hmem
        cases hmem
        exact hport
    · rcases hopen hlwo with hloop | hsame | hdnsAt
      · refine Or.inl (Or.inl ?_)
        rw [OutboundFlow.IsLoopback, hip]
        exact hloop
      · exact Or.inr (Or.inr ⟨active.endpoint, hlockEndpoint, hproto, hip.trans hsame⟩)
      · obtain ⟨dns, hmem, hdnsIp⟩ := (hdnsHost _).mpr hdnsAt
        exact Or.inr (Or.inl ⟨dns, hmem, hproto, hip.trans hdnsIp.symm⟩)

end Build

/-! ## A connection over LWO -/

def lwoActive : ActiveConnectSession where
  tunnelName := "office"
  sourceConfigPath := "office.conf"
  peerEndpoint := ⟨ipv4 203 0 113 9, 443⟩
  mergedTransport := { preference := .lwo }
  transportSession :=
    { kind := .lwo, handleId := 1, wireguardEndpoint := ⟨ipv4 127 0 0 1, 51821⟩,
      originalEndpoint := ⟨ipv4 203 0 113 9, 443⟩,
      remoteTransport := some ⟨ipv4 203 0 113 9, 443⟩, effectiveMtu := 1420, protocolVersion := 0,
      wireFormat := some "mullvad" }
  transportChoice := .lwo
  resolvedTransport := ⟨.lwo, false, none, some .lwo⟩
  runtimeConfPath := "office.runtime.conf"

def lwoView : PolicyView where
  cfg :=
    { tunnel := some { name := "office", configPath := "office.conf" }
      networkLock := { enabled := true, allowLan := false } }
  handle := some ⟨0, "office", 42, 4200, .wireGuardNt⟩
  external := none
  physicalIf _ := some 5
  confEndpoint _ := some (some "203.0.113.9:443")
  active := some (policyEndpoints lwoActive)

def lwoPolicy : PolicySnapshot where
  tunnelIfIndex := some 42
  tunnelIfLuid := some 4200
  physicalIfIndex := some 5
  endpoint := some "127.0.0.1:51821"
  bypassCidrs := ["203.0.113.9/32"]
  networkLockEnabled := true
  dnsServers := ["1.1.1.1:53", "[2606:4700:4700::1111]:53"]

theorem lwoPolicy_built :
    buildPolicy .asciiIpv4 .identity 0 lwoView AppSplitPolicyCompiler.defaultEngine {} =
      .ok lwoPolicy := by
  decide +kernel

theorem lockPolicy_permits_iff_lwo :
    (∀ flow, lwoActive.Needs flow →
      Permitted (lockFilters readCidr lwoPolicy.networkLockPolicy) flow) ↔
      (lwoActive.transportChoice = .lwo → LwoRemoteOpen lwoView.cfg lwoActive) :=
  lockPolicy_permits_iff readsLockCidrs_readCidr lwoPolicy_built rfl rfl

def relayFlow : OutboundFlow := ⟨"c:\\routeguard-service.exe", ipv4 203 0 113 9, 443, .udp, 5⟩

theorem relayFlow_blocked : lwoActive.Needs relayFlow ∧
    ¬ Permitted (lockFilters readCidr lwoPolicy.networkLockPolicy) relayFlow := by
  refine ⟨Or.inr (Or.inr ⟨rfl, rfl, rfl, rfl⟩), ?_⟩
  rw [lockFilters_eq readsLockCidrs_readCidr, permitted_lockRules_iff]
  have hloopback : ¬ relayFlow.IsLoopback := by
    simp only [OutboundFlow.IsLoopback]
    decide
  have hdns : ∀ dns ∈ lwoPolicy.networkLockPolicy.dnsServers, relayFlow.remoteIp ≠ dns.ip := by
    decide
  have hendpoint : ∀ ep ∈ lwoPolicy.networkLockPolicy.endpoint, relayFlow.remoteIp ≠ ep.ip := by
    decide
  intro hpermitted
  rcases hpermitted with (hloop | ⟨hlan, _⟩ | ⟨dns, hmem, _, hip, _⟩ | ⟨ep, hmem, _, hip, _⟩ |
    ⟨permit, hmem, _⟩) | ⟨dns, hmem, _, hip⟩ | ⟨ep, hmem, _, hip⟩
  · exact hloopback hloop
  · cases hlan
  · exact hdns dns hmem hip
  · exact hendpoint ep hmem hip
  · cases hmem
  · exact hdns dns hmem hip
  · exact hendpoint ep hmem hip

end RouteGuard
