import RouteGuard.Lib.GuardedRun
import RouteGuard.Wfp.Engine

/-! # The network lock

`install_network_lock` of `filters.rs` and `NetworkLock` of `network_lock.rs`:
the filters of a policy, and the state that remembers them. -/
set_option autoImplicit false
namespace RouteGuard

open HashTable Fallible GuardedRun

/-! ## Policy and state -/

structure NetworkLockPolicy where
  enabled : Bool := false
  allowLan : Bool := true
  dnsServers : List SocketAddr := []
  tunnelIfIndex : Option Nat := none
  endpoint : Option SocketAddr := none
  transportPermits : List TransportPermitRule := []
deriving DecidableEq, Repr

structure NetworkLockState where
  enabled : Bool := false
  activeFilterIds : List Nat := []
deriving DecidableEq, Repr

/-! ## Filters of a policy -/

def lockName (suffix : String) : String := "RouteGuard_KS_" ++ suffix

def TransportProtocol.flow : TransportProtocol → FlowProtocol
  | .udp => .udp
  | .tcp => .tcp

def TransportProtocol.debug : TransportProtocol → String
  | .udp => "Udp"
  | .tcp => "Tcp"

/-- The derived `Debug` text. -/
def TransportPermitRule.debug (permit : TransportPermitRule) : String :=
  let port := match permit.remotePort with
    | some port => "Some(" ++ ToString.toString port ++ ")"
    | none => "None"
  "TransportPermitRule \x7b remote_ip: " ++ permit.remoteIp.toString ++ ", remote_port: " ++ port ++
    ", protocol: " ++ permit.protocol.debug ++ " \x7d"

def lockPermit (suffix : String) (net : IpNet) : FilterRule :=
  (FilterRule.permit (lockName suffix)).withRemoteIp net

def TransportPermitRule.filter (suffix : String) (permit : TransportPermitRule) : FilterRule :=
  let rule := (lockPermit suffix (IpNet.host permit.remoteIp)).withProtocol permit.protocol.flow
  match permit.remotePort with
  | some port => rule.withRemotePort port
  | none => rule

def lanCidrs : List (String × String) :=
  [("ALLOW_LAN_10", "10.0.0.0/8"),
   ("ALLOW_LAN_172", "172.16.0.0/12"),
   ("ALLOW_LAN_192", "192.168.0.0/16"),
   ("ALLOW_LAN_LLV4", "169.254.0.0/16"),
   ("ALLOW_LAN_LLV6", "fe80::/10"),
   ("ALLOW_LAN_ULA", "fc00::/7")]

def blockStep : FilterStep where
  rule := .ok (FilterRule.block (lockName "BLOCK"))
  wrap e := .networkLock ("block filter: " ++ e)

def permitDnsStep (suffix : String) (addr : SocketAddr) : FilterStep where
  rule := .ok ((lockPermit suffix (IpNet.host addr.ip)).withProtocol .udp)
  wrap e := .networkLock ("permit dns " ++ addr.toString ++ ": " ++ e)

def permitEndpointStep (ep : SocketAddr) : FilterStep where
  rule := .ok ((lockPermit "ALLOW_EP" (IpNet.host ep.ip)).withProtocol .udp)
  wrap e := .networkLock ("permit endpoint " ++ ep.toString ++ ": " ++ e)

def transportPermitStep (suffix : String) (permit : TransportPermitRule) : FilterStep where
  rule := .ok (permit.filter suffix)
  wrap e := .networkLock ("permit transport " ++ permit.debug ++ ": " ++ e)

def addPermitDns (suffix : String) (addr : SocketAddr) : SessionProg Nat :=
  (permitDnsStep suffix addr).add

def addPermitEndpoint (ep : SocketAddr) : SessionProg Nat := (permitEndpointStep ep).add

def addTransportPermit (suffix : String) (permit : TransportPermitRule) : SessionProg Nat :=
  (transportPermitStep suffix permit).add

def removeFilters (ids : List Nat) : SessionProg Unit := do
  deleteAll (fun id e => .networkLock ("delete filter " ++ ToString.toString id ++ ": " ++ e)) ids
  untrackFilters ids

section Install
variable (fromCidr : String → Except String IpNet)

def permitIpStep (suffix cidr : String) : FilterStep where
  rule := (ipMaskFromStr fromCidr cidr).map (lockPermit suffix)
  wrap e := .networkLock ("permit " ++ cidr ++ ": " ++ e)

def addPermitIp (suffix cidr : String) : SessionProg Nat := (permitIpStep fromCidr suffix cidr).add

def installNetworkLock (policy : NetworkLockPolicy) : SessionProg (List Nat) := do
  let block ← blockStep.add
  let loopbackV4 ← addPermitIp fromCidr "ALLOW_LOOPBACK_V4" "127.0.0.0/8"
  let loopbackV6 ← addPermitIp fromCidr "ALLOW_LOOPBACK_V6" "::1/128"
  let lan ← if policy.allowLan then
      collect (fun row => addPermitIp fromCidr row.1 row.2) lanCidrs
    else pure []
  let dns ← collect (fun row => addPermitDns ("ALLOW_DNS_" ++ ToString.toString row.2) row.1)
    policy.dnsServers.zipIdx
  let endpoint ← match policy.endpoint with
    | some ep => do
        let id ← addPermitEndpoint ep
        pure [id]
    | none => pure []
  let transport ← collect
    (fun row => addTransportPermit ("TRANSPORT_" ++ ToString.toString row.2) row.1)
    policy.transportPermits.zipIdx
  pure ([block, loopbackV4, loopbackV6] ++ lan ++ dns ++ endpoint ++ transport)

/-- The filters in the order in which they are added. -/
def lockSteps (policy : NetworkLockPolicy) : List FilterStep :=
  [blockStep, permitIpStep fromCidr "ALLOW_LOOPBACK_V4" "127.0.0.0/8",
    permitIpStep fromCidr "ALLOW_LOOPBACK_V6" "::1/128"] ++
  (if policy.allowLan then lanCidrs.map fun row => permitIpStep fromCidr row.1 row.2 else []) ++
  (policy.dnsServers.zipIdx.map fun row =>
    permitDnsStep ("ALLOW_DNS_" ++ ToString.toString row.2) row.1) ++
  policy.endpoint.toList.map permitEndpointStep ++
  (policy.transportPermits.zipIdx.map fun row =>
    transportPermitStep ("TRANSPORT_" ++ ToString.toString row.2) row.1)

theorem installNetworkLock_eq (policy : NetworkLockPolicy) :
    installNetworkLock fromCidr policy = addAll (lockSteps fromCidr policy) := by
  cases hlan : policy.allowLan <;> cases hendpoint : policy.endpoint <;>
    simp [installNetworkLock, lockSteps, addAll, collect, collect_append, collect_map, hlan,
      hendpoint, addPermitIp, addPermitDns, addPermitEndpoint, addTransportPermit]

end Install

/-! ## The rules of a policy -/

/-- The network of a prefix no longer than the address. -/
def Net.ofPrefix {width : Nat} (addr : BitVec width) (prefixLen : Nat) : Net width :=
  ⟨addr, min prefixLen width, Nat.min_le_right prefixLen width⟩

def loopbackV4 : IpNet := .v4 (.ofPrefix 0x7f000000 8)

def loopbackV6 : IpNet := .v6 (.ofPrefix 1 128)

def lanNets : List IpNet :=
  [.v4 (.ofPrefix 0x0a000000 8),
   .v4 (.ofPrefix 0xac100000 12),
   .v4 (.ofPrefix 0xc0a80000 16),
   .v4 (.ofPrefix 0xa9fe0000 16),
   .v6 (.ofPrefix 0xfe800000000000000000000000000000 10),
   .v6 (.ofPrefix 0xfc000000000000000000000000000000 7)]

/-- What the lock relies on of `IpAddrMask::from_cidr`: it reads the networks of the source. -/
structure ReadsLockCidrs (fromCidr : String → Except String IpNet) : Prop where
  loopbackV4 : fromCidr "127.0.0.0/8" = .ok loopbackV4
  loopbackV6 : fromCidr "::1/128" = .ok loopbackV6
  lan : lanCidrs.map (fun row => fromCidr row.2) = lanNets.map .ok

theorem readsLockCidrs_readCidr : ReadsLockCidrs readCidr := by
  constructor <;> decide

def lockRules (policy : NetworkLockPolicy) : List FilterRule :=
  [FilterRule.block (lockName "BLOCK"), lockPermit "ALLOW_LOOPBACK_V4" loopbackV4,
    lockPermit "ALLOW_LOOPBACK_V6" loopbackV6] ++
  (if policy.allowLan then
    lanCidrs.zipWith (fun row net => lockPermit row.1 net) lanNets else []) ++
  (policy.dnsServers.zipIdx.map fun row => (lockPermit
    ("ALLOW_DNS_" ++ ToString.toString row.2) (IpNet.host row.1.ip)).withProtocol .udp) ++
  (policy.endpoint.toList.map fun ep =>
    (lockPermit "ALLOW_EP" (IpNet.host ep.ip)).withProtocol .udp) ++
  (policy.transportPermits.zipIdx.map fun row =>
    row.1.filter ("TRANSPORT_" ++ ToString.toString row.2))

section Rules
variable {fromCidr : String → Except String IpNet}

theorem permitIpStep_rule {cidr : String} {net : IpNet} (hslash : '/' ∈ cidr.toList)
    (h : fromCidr cidr = .ok net) (suffix : String) :
    (permitIpStep fromCidr suffix cidr).rule = .ok (lockPermit suffix net) := by
  simp only [permitIpStep, ipMaskFromStr, if_pos hslash, h]
  rfl

/-- Every filter of the lock can be built, and its rule is the one of `lockRules`. -/
theorem lockSteps_rules (hreads : ReadsLockCidrs fromCidr) (policy : NetworkLockPolicy) :
    (lockSteps fromCidr policy).map FilterStep.rule = (lockRules policy).map .ok := by
  have hlan := hreads.lan
  simp only [lanCidrs, lanNets, List.map_cons, List.map_nil, List.cons.injEq, and_true] at hlan
  obtain ⟨h10, h172, h192, hll4, hll6, hula⟩ := hlan
  have hfront : ([blockStep, permitIpStep fromCidr "ALLOW_LOOPBACK_V4" "127.0.0.0/8",
      permitIpStep fromCidr "ALLOW_LOOPBACK_V6" "::1/128"]).map FilterStep.rule =
      [.ok (FilterRule.block (lockName "BLOCK")), .ok (lockPermit "ALLOW_LOOPBACK_V4" loopbackV4),
        .ok (lockPermit "ALLOW_LOOPBACK_V6" loopbackV6)] := by
    simp only [List.map_cons, List.map_nil, permitIpStep_rule (by decide) hreads.loopbackV4,
      permitIpStep_rule (by decide) hreads.loopbackV6]
    rfl
  have hmiddle : (lanCidrs.map fun row => permitIpStep fromCidr row.1 row.2).map FilterStep.rule =
      (lanCidrs.zipWith (fun row net => lockPermit row.1 net) lanNets).map .ok := by
    simp only [lanCidrs, lanNets, List.map_cons, List.map_nil, List.zipWith_cons_cons,
      List.zipWith_nil_right, permitIpStep_rule (by decide) h10, permitIpStep_rule (by decide) h172,
      permitIpStep_rule (by decide) h192, permitIpStep_rule (by decide) hll4,
      permitIpStep_rule (by decide) hll6, permitIpStep_rule (by decide) hula]
  have hdns : (policy.dnsServers.zipIdx.map fun row =>
      permitDnsStep ("ALLOW_DNS_" ++ ToString.toString row.2) row.1).map FilterStep.rule =
      (policy.dnsServers.zipIdx.map fun row => (lockPermit
        ("ALLOW_DNS_" ++ ToString.toString row.2) (IpNet.host row.1.ip)).withProtocol .udp).map
        .ok := by
    rw [List.map_map, List.map_map]
    rfl
  have hendpoint : (policy.endpoint.toList.map permitEndpointStep).map FilterStep.rule =
      (policy.endpoint.toList.map fun ep =>
        (lockPermit "ALLOW_EP" (IpNet.host ep.ip)).withProtocol .udp).map .ok := by
    rw [List.map_map, List.map_map]
    rfl
  have htransport : (policy.transportPermits.zipIdx.map fun row =>
      transportPermitStep ("TRANSPORT_" ++ ToString.toString row.2) row.1).map FilterStep.rule =
      (policy.transportPermits.zipIdx.map fun row =>
        row.1.filter ("TRANSPORT_" ++ ToString.toString row.2)).map .ok := by
    rw [List.map_map, List.map_map]
    rfl
  simp only [lockSteps, lockRules, List.map_append, hfront, hdns, hendpoint, htransport]
  cases policy.allowLan with
  | false => rfl
  | true =>
      simp only [if_true, hmiddle]
      rfl

end Rules

def FilterRule.isLock (rule : FilterRule) : Bool := startsWith rule.name "RouteGuard_KS_"

theorem startsWith_append (start rest : String) : startsWith (start ++ rest) start = true := by
  rw [startsWith, String.toList_append, List.isPrefixOf_iff_prefix]
  exact List.prefix_append _ _

theorem isLock_lockName {rule : FilterRule} (suffix : String) (h : rule.name = lockName suffix) :
    rule.isLock = true := by
  rw [FilterRule.isLock, h]
  exact startsWith_append _ _

theorem isLock_lockRules {policy : NetworkLockPolicy} :
    ∀ rule ∈ lockRules policy, rule.isLock = true := by
  intro rule hmem
  have hfilter : ∀ (suffix : String) (permit : TransportPermitRule),
      (permit.filter suffix).name = lockName suffix := by
    intro suffix permit
    rw [TransportPermitRule.filter]
    cases permit.remotePort <;> rfl
  simp only [lockRules, List.mem_append, List.mem_cons, List.not_mem_nil, or_false,
    List.mem_map] at hmem
  rcases hmem with (((((rfl | rfl | rfl) | hlan) | ⟨row, _, rfl⟩) | ⟨ep, _, rfl⟩) | ⟨row, _, rfl⟩)
  · exact isLock_lockName "BLOCK" rfl
  · exact isLock_lockName "ALLOW_LOOPBACK_V4" rfl
  · exact isLock_lockName "ALLOW_LOOPBACK_V6" rfl
  · cases hallow : policy.allowLan with
    | false => simp [hallow] at hlan
    | true =>
        simp only [hallow, if_true, lanCidrs, lanNets, List.zipWith_cons_cons,
          List.zipWith_nil_right, List.mem_cons, List.not_mem_nil, or_false] at hlan
        rcases hlan with rfl | rfl | rfl | rfl | rfl | rfl <;> exact isLock_lockName _ rfl
  · exact isLock_lockName _ rfl
  · exact isLock_lockName _ rfl
  · exact isLock_lockName _ (hfilter _ _)

theorem lockRules_length_pos (policy : NetworkLockPolicy) : 0 < (lockRules policy).length := by
  simp only [lockRules, List.length_append, List.length_cons]
  omega

/-! ## The lock -/

/-- `file` is what `network_lock.json` holds, if it can be read; `saveFault` is the failure of the
next save. -/
structure LockContext where
  session : WfpSessionInner
  lock : NetworkLockState := {}
  file : Option NetworkLockState := none
  saveFault : Option RouteGuardError := none

abbrev LockProg (A : Type) := Prog LockContext RouteGuardError A

def saveState : LockProg Unit := do
  let ctx ← get
  match ctx.saveFault with
  | some e => throw e
  | none => modify fun ctx => { ctx with file := some ctx.lock }

def onSession {A : Type} (m : SessionProg A) : LockProg A :=
  zoom LockContext.session (fun session ctx => { ctx with session := session }) m

namespace NetworkLock

def enable (fromCidr : String → Except String IpNet) (policy : NetworkLockPolicy) :
    LockProg Unit := do
  let ctx ← get
  if ctx.lock.enabled then
    pure ()
  else do
    let ids ← onSession (installNetworkLock fromCidr policy)
    modify fun ctx => { ctx with lock := ⟨true, ids⟩ }
    saveState

def disable : LockProg Unit := do
  let ctx ← get
  if !ctx.lock.enabled && ctx.lock.activeFilterIds.isEmpty then
    pure ()
  else do
    onSession (removeFilters ctx.lock.activeFilterIds)
    modify fun ctx => { ctx with lock := ⟨false, []⟩ }
    saveState

end NetworkLock

end RouteGuard
