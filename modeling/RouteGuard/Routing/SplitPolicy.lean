import RouteGuard.Routing.Engine

/-! # The compiled policy against the decision

`split_policy.rs` flattens the rules of the engine and the entries of the domain
store into the lists of a policy snapshot.  This module compiles the snapshot
and compares its block list with what the engine decides. -/
set_option autoImplicit false
namespace RouteGuard

open HashTable

/-! ## Compilation -/

/-- `if !texts.contains(&s) { texts.push(s) }`, for each text of a list. -/
def addMissing (texts more : List String) : List String :=
  more.foldl (fun texts s => if s ∈ texts then texts else texts ++ [s]) texts

theorem mem_addMissing (more : List String) (s : String) : ∀ texts,
    s ∈ addMissing texts more ↔ s ∈ texts ∨ s ∈ more := by
  induction more with
  | nil => intro texts; simp [addMissing]
  | cons first rest ih =>
      intro texts
      have hstep : addMissing texts (first :: rest) =
          addMissing (if first ∈ texts then texts else texts ++ [first]) rest := rfl
      rw [hstep, ih, List.mem_cons]
      by_cases hfirst : first ∈ texts
      · rw [if_pos hfirst]
        constructor
        · intro hcase
          rcases hcase with h | h
          · exact Or.inl h
          · exact Or.inr (Or.inr h)
        · intro hcase
          rcases hcase with h | rfl | h
          · exact Or.inl h
          · exact Or.inl hfirst
          · exact Or.inr h
      · rw [if_neg hfirst, List.mem_append, List.mem_singleton, or_assoc]

namespace AppSplitPolicyCompiler

section Compile
variable (env : Externals)

def appEntry (rule : AppRule) : AppFilterEntry :=
  ⟨normalizePath env rule.path, rule.priority, rule.mode⟩

/-- The entries of the rules of one mode, when the configuration is in the mode they act in. -/
def appEntries (cfg : AppConfig) (mode : RoutingMode) (ruleMode : RuleMode) : List AppFilterEntry :=
  if cfg.routing.mode = mode then
    (cfg.routing.appRules.filter fun rule => rule.mode = ruleMode).map (appEntry env)
  else []

def compileWithDomainStore (o : Order) (now : Nat) (cfg : AppConfig) (engine : RoutingEngine)
    (tunnelIfIndex tunnelIfLuid physicalIfIndex : Option Nat)
    (domainStore : Option DomainRouteStore) : PolicySnapshot :=
  let snap := PolicySnapshot.fromConfig cfg tunnelIfIndex tunnelIfLuid
  let cidrs := fun target => (engine.snapshot.ipTable.allCidrs target).map env.netToString
  let bypassApps := appEntries env cfg .fullTunnel .exclude
  let snap := { snap with
    physicalIfIndex := physicalIfIndex
    routingMode := cfg.routing.mode
    bypassCidrs := addMissing snap.bypassCidrs (cidrs .bypass)
    blockCidrs := addMissing snap.blockCidrs (cidrs .block)
    bypassApps := sortByPriority AppFilterEntry.priority bypassApps
    appPermits := bypassApps.map AppFilterEntry.path
    tunnelApps := sortByPriority AppFilterEntry.priority
      (appEntries env cfg .splitInclude .include) }
  match domainStore with
  | none => snap
  | some store =>
      let bypassHosts := store.hostCidrsForTarget o now .bypass
      { snap with
        dynamicBypassHosts := bypassHosts
        dynamicTunnelHosts := store.hostCidrsForTarget o now .tunnel
        domainRouteGeneration := store.generation
        bypassCidrs := addMissing snap.bypassCidrs bypassHosts }

end Compile

/-! ## What the lists cover -/

section Cover
variable {env : Externals} {o : Order} {now : Nat} {cfg : AppConfig} {engine : RoutingEngine}
  {tunnelIfIndex tunnelIfLuid physicalIfIndex : Option Nat} {store : Option DomainRouteStore}

def Covers (env : Externals) (cidrs : List String) (ip : IpAddr) : Prop :=
  ∃ text ∈ cidrs, ∃ net, env.parseNet text = .ok net ∧ net.contains ip = true

theorem mem_blockCidrs (text : String) :
    text ∈ (compileWithDomainStore env o now cfg engine tunnelIfIndex tunnelIfLuid physicalIfIndex
      store).blockCidrs ↔
    text ∈ cidrsFor .block cfg.routing.ipRules ∨
      ∃ net ∈ engine.snapshot.ipTable.allCidrs .block, env.netToString net = text := by
  cases store <;>
    simp only [compileWithDomainStore, PolicySnapshot.fromConfig, mem_addMissing, List.mem_map]

theorem mem_allCidrs (table : IpRuleTable) (target : RouteTarget) (net : IpNet) :
    net ∈ table.allCidrs target ↔
      ∃ entry ∈ table.rules, entry.target = target ∧ entry.cidr = net := by
  simp only [IpRuleTable.allCidrs, List.mem_map, List.mem_filter, decide_eq_true_eq, and_assoc]

theorem mem_cidrsFor (target : RouteTarget) (rules : List IpRule) (text : String) :
    text ∈ cidrsFor target rules ↔ ∃ rule ∈ rules, rule.target = target ∧ rule.cidr = text := by
  simp only [cidrsFor, List.mem_map, List.mem_filter, decide_eq_true_eq, and_assoc]

/-- The block list covers exactly the addresses of the Block rules, shadowed or not. -/
theorem covers_blockCidrs_iff (hengine : IpRuleTable.fromRules env cfg.routing.ipRules =
      .ok engine.snapshot.ipTable)
    (hround : ∀ entry ∈ engine.snapshot.ipTable.rules, env.RoundTrips entry.cidr) (ip : IpAddr) :
    Covers env (compileWithDomainStore env o now cfg engine tunnelIfIndex tunnelIfLuid
      physicalIfIndex store).blockCidrs ip ↔
    ∃ entry ∈ engine.snapshot.ipTable.rules, entry.target = .block ∧
      entry.cidr.contains ip = true := by
  constructor
  · intro h
    obtain ⟨text, htext, net, hparse, hcontains⟩ := h
    rcases (mem_blockCidrs text).mp htext with hstatic | ⟨cidr, hcidr, rfl⟩
    · obtain ⟨rule, hrule, htarget, rfl⟩ := (mem_cidrsFor _ _ _).mp hstatic
      obtain ⟨entry, hentry, _, hentryTarget, hread⟩ := fromRules_entry hengine hrule
      rw [hparse] at hread
      cases hread
      exact ⟨entry, hentry, hentryTarget.trans htarget, hcontains⟩
    · obtain ⟨entry, hentry, htarget, rfl⟩ := (mem_allCidrs _ _ _).mp hcidr
      have hread := (hround entry hentry).parse
      rw [hparse] at hread
      cases hread
      exact ⟨entry, hentry, htarget, hcontains⟩
  · intro h
    obtain ⟨entry, hentry, htarget, hcontains⟩ := h
    refine ⟨env.netToString entry.cidr, ?_, entry.cidr, (hround entry hentry).parse, hcontains⟩
    rw [mem_blockCidrs]
    exact Or.inr ⟨entry.cidr, (mem_allCidrs _ _ _).mpr ⟨entry, hentry, htarget, rfl⟩, rfl⟩

end Cover

/-! ## Blocked flows -/

section Block
variable {env : Externals} {cfg : AppConfig} {engine : RoutingEngine}

def RuleContains (env : Externals) (rule : IpRule) (ip : IpAddr) : Prop :=
  ∃ net, env.parseNet rule.cidr = .ok net ∧ net.contains ip = true

def BlockRuleContains (env : Externals) (cfg : AppConfig) (ip : IpAddr) : Prop :=
  ∃ rule ∈ cfg.routing.ipRules, rule.target = .block ∧ RuleContains env rule ip

theorem ruleContains_of_reads {rule : IpRule} {entry : IpRuleEntry} (h : Reads env rule entry)
    (ip : IpAddr) : RuleContains env rule ip ↔ entry.cidr.contains ip = true := by
  obtain ⟨_, _, hread⟩ := h
  constructor
  · intro hcase
    obtain ⟨net, hnet, hcontains⟩ := hcase
    rw [hread] at hnet
    cases hnet
    exact hcontains
  · intro hcontains
    exact ⟨entry.cidr, hread, hcontains⟩

theorem blockRuleContains_iff
    (h : IpRuleTable.fromRules env cfg.routing.ipRules = .ok engine.snapshot.ipTable)
    (ip : IpAddr) : BlockRuleContains env cfg ip ↔
      ∃ entry ∈ engine.snapshot.ipTable.rules, entry.target = .block ∧
        entry.cidr.contains ip = true := by
  constructor
  · intro hcase
    obtain ⟨rule, hrule, htarget, hcontains⟩ := hcase
    obtain ⟨entry, hentry, hreads⟩ := fromRules_entry h hrule
    exact ⟨entry, hentry, hreads.2.1.trans htarget, (ruleContains_of_reads hreads ip).mp hcontains⟩
  · intro hcase
    obtain ⟨entry, hentry, htarget, hcontains⟩ := hcase
    obtain ⟨rule, hrule, hreads⟩ := fromRules_rule h hentry
    exact ⟨rule, hrule, hreads.2.1.symm.trans htarget,
      (ruleContains_of_reads hreads ip).mpr hcontains⟩

theorem covers_iff_blockRule {o : Order} {now : Nat} {store : Option DomainRouteStore}
    {tunnelIfIndex tunnelIfLuid physicalIfIndex : Option Nat}
    (h : IpRuleTable.fromRules env cfg.routing.ipRules = .ok engine.snapshot.ipTable)
    (hround : ∀ entry ∈ engine.snapshot.ipTable.rules, env.RoundTrips entry.cidr) (ip : IpAddr) :
    Covers env (compileWithDomainStore env o now cfg engine tunnelIfIndex tunnelIfLuid
      physicalIfIndex store).blockCidrs ip ↔ BlockRuleContains env cfg ip := by
  rw [covers_blockCidrs_iff h hround, blockRuleContains_iff h]

variable (walk o : Order) (clock : Clock) (tunnelIfIndex tunnelIfLuid physicalIfIndex : Option Nat)
  (ip : IpAddr) (port : UInt16) (protocol : Protocol)

/-- A blocked flow is covered by the block list unless only the domain store blocks it. -/
theorem blocked_covered_iff {store : DomainRouteStore}
    (hengine : RoutingEngine.fromConfig env cfg = .ok engine)
    (hround : ∀ entry ∈ engine.snapshot.ipTable.rules, env.RoundTrips entry.cidr)
    (hstore : store.Reached) :
    (((engine.syncDomainStore walk clock store).decide env clock
        (RoutingEngine.bareFlow ip port protocol)).target = .block →
      Covers env (compileWithDomainStore env o clock.nowUnix cfg
        (engine.syncDomainStore walk clock store) tunnelIfIndex tunnelIfLuid physicalIfIndex
        (some store)).blockCidrs ip) ↔
    (store.lookupIp clock.nowUnix ip ≠ some .block ∨ BlockRuleContains env cfg ip) := by
  obtain ⟨htable, _⟩ := RoutingEngine.fromConfig_ok hengine
  have htable' : IpRuleTable.fromRules env cfg.routing.ipRules =
      .ok (engine.syncDomainStore walk clock store).snapshot.ipTable := htable
  rw [covers_iff_blockRule htable' hround,
    RoutingEngine.decide_bareFlow, RoutingEngine.bareTarget_eq_block_iff,
    RoutingEngine.syncDomainStore_lookup walk clock engine hstore,
    RoutingEngine.syncDomainStore_ipTable]
  constructor
  · intro h
    by_cases hblock : store.lookupIp clock.nowUnix ip = some .block
    · exact Or.inr (h (Or.inl hblock))
    · exact Or.inl hblock
  · intro hcase hdecision
    rcases hcase with hnot | hcovered
    · rcases hdecision with hblock | ⟨entry, hlookup, htarget⟩
      · exact absurd hblock hnot
      · obtain ⟨hmem, hcontains, _⟩ := lookup_least htable hlookup
        exact (blockRuleContains_iff htable ip).mpr ⟨entry, hmem, htarget, hcontains⟩
    · exact hcovered

/-- The Block rule that decides for the address: no rule containing it has a lower number. -/
def BlockRuleDecides (env : Externals) (cfg : AppConfig) (ip : IpAddr) : Prop :=
  ∃ rule ∈ cfg.routing.ipRules, rule.target = .block ∧ RuleContains env rule ip ∧
    ∀ other ∈ cfg.routing.ipRules, RuleContains env other ip → rule.priority ≤ other.priority

theorem lookup_block_iff (htable : IpRuleTable.fromRules env cfg.routing.ipRules =
      .ok engine.snapshot.ipTable)
    (hdistinct : (cfg.routing.ipRules.map IpRule.priority).Nodup) :
    (∃ entry, engine.snapshot.ipTable.lookup ip = some entry ∧ entry.target = .block) ↔
      BlockRuleDecides env cfg ip := by
  constructor
  · intro h
    obtain ⟨entry, hlookup, htarget⟩ := h
    obtain ⟨hmem, hcontains, hleast⟩ := lookup_least htable hlookup
    obtain ⟨rule, hrule, hreads⟩ := fromRules_rule htable hmem
    refine ⟨rule, hrule, hreads.2.1.symm.trans htarget,
      (ruleContains_of_reads hreads ip).mpr hcontains, ?_⟩
    intro other hother hc
    obtain ⟨entry', hentry', hreads'⟩ := fromRules_entry htable hother
    have hle := hleast entry' hentry' ((ruleContains_of_reads hreads' ip).mp hc)
    rw [hreads.1, hreads'.1] at hle
    exact hle
  · intro h
    obtain ⟨rule, hrule, htarget, hcontains, hleast⟩ := h
    obtain ⟨entry, hentry, hreads⟩ := fromRules_entry htable hrule
    obtain ⟨found, hlookup⟩ := lookup_isSome_of_contains hentry
      ((ruleContains_of_reads hreads ip).mp hcontains)
    obtain ⟨hmem, hfound, hle⟩ := lookup_least htable hlookup
    obtain ⟨rule', hrule', hreads'⟩ := fromRules_rule htable hmem
    have h1 := hle entry hentry ((ruleContains_of_reads hreads ip).mp hcontains)
    have h2 := hleast rule' hrule' ((ruleContains_of_reads hreads' ip).mpr hfound)
    -- both rules have the least number, and the numbers are distinct
    have hsame : rule'.priority = rule.priority := by
      rw [hreads.1, hreads'.1] at h1
      omega
    have heq : rule' = rule := List.inj_on_of_nodup_map hdistinct hrule' hrule hsame
    refine ⟨found, hlookup, ?_⟩
    rw [hreads'.2.1, heq, htarget]

/-- A covered flow is blocked unless another rule is ahead of every Block rule that covers it. -/
theorem covered_blocked_iff (store : Option DomainRouteStore)
    (hengine : RoutingEngine.fromConfig env cfg = .ok engine)
    (hround : ∀ entry ∈ engine.snapshot.ipTable.rules, env.RoundTrips entry.cidr)
    (hdistinct : (cfg.routing.ipRules.map IpRule.priority).Nodup) :
    (Covers env (compileWithDomainStore env o clock.nowUnix cfg engine tunnelIfIndex tunnelIfLuid
        physicalIfIndex store).blockCidrs ip →
      (engine.decide env clock (RoutingEngine.bareFlow ip port protocol)).target = .block) ↔
    (BlockRuleContains env cfg ip → BlockRuleDecides env cfg ip) := by
  obtain ⟨htable, _⟩ := RoutingEngine.fromConfig_ok hengine
  have hempty := RoutingEngine.fromConfig_lookup hengine clock ip
  rw [covers_iff_blockRule htable hround, RoutingEngine.decide_bareFlow,
    RoutingEngine.bareTarget_eq_block_iff, lookup_block_iff ip htable hdistinct]
  simp [hempty]

end Block

/-! ## Two small configurations -/

def blockedDomain : DomainRouteStore :=
  GuardedRun.run DomainRouteStore.step (DomainRouteStore.new {})
    [.single 100 "ads.example" (ipv4 1 2 3 4, 60) ⟨10, "*.example", .block⟩]

theorem blockedDomain_reached : blockedDomain.Reached :=
  ⟨_, _, DomainRouteStore.Initial.new {}, rfl⟩

def defaultEngine : RoutingEngine := ⟨⟨.fullTunnel, ⟨[], []⟩, ⟨[]⟩, ⟨[], ∅, ∅⟩⟩⟩

theorem defaultEngine_eq :
    RoutingEngine.fromConfig .asciiIpv4 {} = .ok defaultEngine := rfl

/-- The engine blocks the cached address, and the block list of the policy is empty. -/
theorem blocked_not_covered :
    ((defaultEngine.syncDomainStore .identity ⟨100 * nanosPerSec, 0⟩ blockedDomain).decide
      .asciiIpv4 ⟨100 * nanosPerSec, 0⟩
      (RoutingEngine.bareFlow (ipv4 1 2 3 4) 443 .tcp)).target = .block ∧
    ¬ Covers .asciiIpv4 (compileWithDomainStore .asciiIpv4 .identity 100 {}
      (defaultEngine.syncDomainStore .identity ⟨100 * nanosPerSec, 0⟩ blockedDomain)
      (some 42) (some 1) (some 5) (some blockedDomain)).blockCidrs (ipv4 1 2 3 4) := by
  refine ⟨by decide, ?_⟩
  intro h
  obtain ⟨text, htext, _⟩ := h
  have hempty : (compileWithDomainStore .asciiIpv4 .identity 100 {}
      (defaultEngine.syncDomainStore .identity ⟨100 * nanosPerSec, 0⟩ blockedDomain)
      (some 42) (some 1) (some 5) (some blockedDomain)).blockCidrs = [] := rfl
  rw [hempty] at htext
  cases htext

theorem blocked_covered_iff_default :
    (((defaultEngine.syncDomainStore .identity ⟨100 * nanosPerSec, 0⟩ blockedDomain).decide
        .asciiIpv4 ⟨100 * nanosPerSec, 0⟩
        (RoutingEngine.bareFlow (ipv4 1 2 3 4) 443 .tcp)).target = .block →
      Covers .asciiIpv4 (compileWithDomainStore .asciiIpv4 .identity
        (Clock.nowUnix ⟨100 * nanosPerSec, 0⟩) {}
        (defaultEngine.syncDomainStore .identity ⟨100 * nanosPerSec, 0⟩ blockedDomain)
        (some 42) (some 1) (some 5) (some blockedDomain)).blockCidrs (ipv4 1 2 3 4)) ↔
    (blockedDomain.lookupIp (Clock.nowUnix ⟨100 * nanosPerSec, 0⟩) (ipv4 1 2 3 4) ≠ some .block ∨
      BlockRuleContains .asciiIpv4 {} (ipv4 1 2 3 4)) := by
  have hround : ∀ entry ∈ defaultEngine.snapshot.ipTable.rules,
      Externals.asciiIpv4.RoundTrips entry.cidr := by
    intro entry hmem
    cases hmem
  exact blocked_covered_iff .identity .identity ⟨100 * nanosPerSec, 0⟩ (some 42) (some 1) (some 5)
    (ipv4 1 2 3 4) 443 .tcp defaultEngine_eq hround blockedDomain_reached

def shadowedBlock : AppConfig :=
  { routing := { ipRules := [⟨10, "10.1.0.0/16", .bypass⟩, ⟨20, "10.0.0.0/8", .block⟩] } }

def shadowedEngine : RoutingEngine :=
  ⟨⟨.fullTunnel, ⟨[], []⟩,
    ⟨[⟨10, .v4 ⟨0x0a010000#32, 16, Net.sixteen_le⟩, .bypass⟩,
      ⟨20, .v4 ⟨0x0a000000#32, 8, Net.eight_le⟩, .block⟩]⟩, ⟨[], ∅, ∅⟩⟩⟩

theorem shadowedEngine_eq :
    RoutingEngine.fromConfig .asciiIpv4 shadowedBlock = .ok shadowedEngine := rfl

theorem shadowedEngine_roundTrips : ∀ entry ∈ shadowedEngine.snapshot.ipTable.rules,
    Externals.asciiIpv4.RoundTrips entry.cidr := by
  intro entry hmem
  rcases List.mem_pair.mp hmem with rfl | rfl
  · exact ⟨rfl, by decide⟩
  · exact ⟨rfl, by decide⟩

theorem shadowed_covered :
    (shadowedEngine.decide .asciiIpv4 ⟨0, 0⟩
      (RoutingEngine.bareFlow (ipv4 10 1 2 3) 443 .tcp)).target = .bypass ∧
    Covers .asciiIpv4 (compileWithDomainStore .asciiIpv4 .identity 0 shadowedBlock shadowedEngine
      (some 42) (some 1) (some 5) none).blockCidrs (ipv4 10 1 2 3) := by
  refine ⟨by decide, "10.0.0.0/8", by decide, .v4 ⟨0x0a000000#32, 8, by decide⟩, ?_, ?_⟩
  · decide
  · decide

theorem covered_blocked_iff_shadowed :
    (Covers .asciiIpv4 (compileWithDomainStore .asciiIpv4 .identity 0 shadowedBlock shadowedEngine
        (some 42) (some 1) (some 5) none).blockCidrs (ipv4 10 1 2 3) →
      (shadowedEngine.decide .asciiIpv4 ⟨0, 0⟩
        (RoutingEngine.bareFlow (ipv4 10 1 2 3) 443 .tcp)).target = .block) ↔
    (BlockRuleContains .asciiIpv4 shadowedBlock (ipv4 10 1 2 3) →
      BlockRuleDecides .asciiIpv4 shadowedBlock (ipv4 10 1 2 3)) :=
  covered_blocked_iff .identity ⟨0, 0⟩ (some 42) (some 1) (some 5) (ipv4 10 1 2 3) 443 .tcp none
    shadowedEngine_eq shadowedEngine_roundTrips (by decide)

end AppSplitPolicyCompiler
end RouteGuard
