import RouteGuard.Routing.CacheSync

/-! # The routing engine

`engine.rs`: the decision for one flow, and the policy snapshot that
`split_policy.rs` compiles from the same rules for the route table and WFP. -/
set_option autoImplicit false
namespace RouteGuard

open HashTable

inductive Protocol where
  | tcp
  | udp
  | icmp
  | other
deriving DecidableEq, Repr

structure FlowContext where
  appPath : Option String
  remoteIp : IpAddr
  remotePort : UInt16
  protocol : Protocol
  domain : Option String
deriving DecidableEq, Repr

structure RouteDecision where
  target : RouteTarget
  reason : String
deriving DecidableEq, Repr

structure RoutingSnapshot where
  mode : RoutingMode
  appRules : AppRuleSet
  ipTable : IpRuleTable
  domainCache : DomainCache

def RoutingSnapshot.fromConfig (env : Externals) (cfg : AppConfig) :
    Except String RoutingSnapshot :=
  match IpRuleTable.fromRules env cfg.routing.ipRules with
  | .error e => .error e
  | .ok ipTable =>
      .ok {
        mode := cfg.routing.mode
        appRules := AppRuleSet.fromRules env cfg.routing.appRules
        ipTable := ipTable
        domainCache := DomainCache.fromRules cfg.routing.domainRules }

structure RoutingEngine where
  snapshot : RoutingSnapshot

namespace RoutingEngine

def fromConfig (env : Externals) (cfg : AppConfig) : Except String RoutingEngine :=
  match RoutingSnapshot.fromConfig env cfg with
  | .error e => .error e
  | .ok snapshot => .ok ⟨snapshot⟩

def reload (_ : RoutingEngine) (snapshot : RoutingSnapshot) : RoutingEngine := ⟨snapshot⟩

def syncDomainStore (o : Order) (clock : Clock) (engine : RoutingEngine)
    (store : DomainRouteStore) :
    RoutingEngine :=
  ⟨{ engine.snapshot with
    domainCache := store.syncDomainCache o clock engine.snapshot.domainCache }⟩

/-! ## The decision -/

section Decide
variable (env : Externals) (clock : Clock) (engine : RoutingEngine) (ctx : FlowContext)

def explicitBlock : Option RouteDecision :=
  match (engine.snapshot.ipTable.lookup ctx.remoteIp).filter fun e => e.target = .block with
  | some entry => some ⟨.block, "ip block rule priority " ++ toString entry.priority⟩
  | none =>
      if engine.snapshot.domainCache.lookupIp clock ctx.remoteIp = some .block then
        some ⟨.block, "domain-resolved ip block"⟩
      else
        ((ctx.domain.bind (matchDomain env engine.snapshot.domainCache.rules)).filter
          fun rule => rule.target = .block).map fun rule =>
            ⟨.block, "domain block " ++ rule.pattern⟩

def appDecision : Option RouteDecision :=
  (ctx.appPath.bind fun path =>
    engine.snapshot.appRules.matchPath env path engine.snapshot.mode).map fun (mode, pri) =>
      match engine.snapshot.mode, mode with
      | .fullTunnel, .exclude => ⟨.bypass, "app exclude priority " ++ toString pri⟩
      | .splitInclude, .include => ⟨.tunnel, "app include priority " ++ toString pri⟩
      | _, _ => ⟨.tunnel, "app rule default"⟩

def addressDecision : Option RouteDecision :=
  match engine.snapshot.ipTable.lookup ctx.remoteIp with
  | some entry => some ⟨entry.target, "ip rule priority " ++ toString entry.priority⟩
  | none =>
      match ctx.domain.bind (matchDomain env engine.snapshot.domainCache.rules) with
      | some rule => some ⟨rule.target, "domain rule " ++ rule.pattern⟩
      | none =>
          (engine.snapshot.domainCache.lookupIp clock ctx.remoteIp).map fun target =>
            ⟨target, "domain-resolved ip"⟩

def defaultDecision : RouteDecision :=
  match engine.snapshot.mode with
  | .fullTunnel => ⟨.tunnel, "default full tunnel"⟩
  | .splitInclude => ⟨.bypass, "default split include bypass"⟩

def decide : RouteDecision :=
  match engine.explicitBlock env clock ctx with
  | some decision => decision
  | none =>
      match engine.appDecision env ctx with
      | some decision => decision
      | none => (engine.addressDecision env clock ctx).getD engine.defaultDecision

end Decide

/-! ## Flows known by their address only -/

section Bare
variable (env : Externals) (clock : Clock) (engine : RoutingEngine)

def bareFlow (ip : IpAddr) (port : UInt16) (protocol : Protocol) : FlowContext :=
  ⟨none, ip, port, protocol, none⟩

/-- The target of such a flow: an IP rule, else the cached domain entry, else the mode; a cached
`Block` also overrides an IP rule. -/
def bareTarget (ip : IpAddr) : RouteTarget :=
  if engine.snapshot.domainCache.lookupIp clock ip = some .block then .block
  else match engine.snapshot.ipTable.lookup ip with
    | some entry => entry.target
    | none => (engine.snapshot.domainCache.lookupIp clock ip).getD engine.defaultDecision.target

theorem decide_bareFlow (ip : IpAddr) (port : UInt16) (protocol : Protocol) :
    (engine.decide env clock (bareFlow ip port protocol)).target = engine.bareTarget clock ip := by
  simp only [decide, explicitBlock, appDecision, addressDecision, bareFlow, bareTarget,
    Option.bind_none, Option.map_none]
  cases hrule : engine.snapshot.ipTable.lookup ip with
  | none =>
      by_cases hblock : engine.snapshot.domainCache.lookupIp clock ip = some .block
      · simp [hblock]
      · simp only [Option.filter_none, hblock, if_false, Option.map_none]
        cases engine.snapshot.domainCache.lookupIp clock ip <;> rfl
  | some entry =>
      by_cases hblock : engine.snapshot.domainCache.lookupIp clock ip = some .block
      · by_cases htarget : entry.target = .block <;> simp [Option.filter, htarget, hblock]
      · by_cases htarget : entry.target = .block <;> simp [Option.filter, htarget, hblock]

theorem defaultDecision_ne_block : engine.defaultDecision.target ≠ .block := by
  unfold defaultDecision
  cases engine.snapshot.mode <;> decide

theorem bareTarget_eq_block_iff (ip : IpAddr) : engine.bareTarget clock ip = .block ↔
    engine.snapshot.domainCache.lookupIp clock ip = some .block ∨
    ∃ entry, engine.snapshot.ipTable.lookup ip = some entry ∧ entry.target = .block := by
  have hdefault := engine.defaultDecision_ne_block
  unfold bareTarget
  by_cases hblock : engine.snapshot.domainCache.lookupIp clock ip = some .block
  · simp [hblock]
  · cases hrule : engine.snapshot.ipTable.lookup ip with
    | some entry => simp [hblock]
    | none =>
        cases hcached : engine.snapshot.domainCache.lookupIp clock ip with
        | none => simp [hdefault]
        | some target =>
            rw [hcached] at hblock
            simp

end Bare

/-! ## Construction -/

/-- Only the table of IP rules can fail to be built. -/
theorem fromConfig_built {env : Externals} {cfg : AppConfig} {engine : RoutingEngine}
    (h : fromConfig env cfg = .ok engine) :
    ∃ table, IpRuleTable.fromRules env cfg.routing.ipRules = .ok table ∧
      engine = ⟨{
        mode := cfg.routing.mode
        appRules := AppRuleSet.fromRules env cfg.routing.appRules
        ipTable := table
        domainCache := DomainCache.fromRules cfg.routing.domainRules }⟩ := by
  simp only [fromConfig, RoutingSnapshot.fromConfig] at h
  cases htable : IpRuleTable.fromRules env cfg.routing.ipRules with
  | error e => simp [htable] at h
  | ok table =>
      simp only [htable, Except.ok.injEq] at h
      exact ⟨table, rfl, h.symm⟩

theorem fromConfig_ok {env : Externals} {cfg : AppConfig} {engine : RoutingEngine}
    (h : fromConfig env cfg = .ok engine) :
    IpRuleTable.fromRules env cfg.routing.ipRules = .ok engine.snapshot.ipTable ∧
      engine.snapshot.mode = cfg.routing.mode := by
  obtain ⟨table, htable, rfl⟩ := fromConfig_built h
  exact ⟨htable, rfl⟩

theorem fromConfig_lookup {env : Externals} {cfg : AppConfig} {engine : RoutingEngine}
    (h : fromConfig env cfg = .ok engine) (clock : Clock) (ip : IpAddr) :
    engine.snapshot.domainCache.lookupIp clock ip = none := by
  obtain ⟨table, _, rfl⟩ := fromConfig_built h
  simp [DomainCache.lookupIp, DomainCache.fromRules]

@[simp]
theorem syncDomainStore_ipTable (o : Order) (clock : Clock) (engine : RoutingEngine)
    (store : DomainRouteStore) :
    (engine.syncDomainStore o clock store).snapshot.ipTable = engine.snapshot.ipTable := rfl

/-- At the instant of a sync the cache answers as the store does. -/
theorem syncDomainStore_lookup (o : Order) (clock : Clock) (engine : RoutingEngine)
    {store : DomainRouteStore} (hs : store.Reached) (ip : IpAddr) :
    (engine.syncDomainStore o clock store).snapshot.domainCache.lookupIp clock ip =
      store.lookupIp clock.nowUnix ip :=
  DomainRouteStore.synced_lookup_now o clock hs engine.snapshot.domainCache ip

end RoutingEngine
end RouteGuard
