import RouteGuard.Platform.BestRoute
import RouteGuard.Routing.SplitPolicy

/-! # Split routes against the decision

The compiled policy is installed in the route table, the live entries of the
domain store get their host routes, and the best route of an address is compared
with what the engine decides for it. -/
set_option autoImplicit false
namespace RouteGuard

open HashTable Fallible

/-! ## Installation -/

section Install
variable (tunnelIf physicalIf : Nat)

/-- What has been added so far, and for which addresses domain routes may exist. -/
structure Installed (reqs : List Request) (hosts : List IpAddr) (st : RouteState) : Prop where
  healthy : st.Healthy
  carries : Carries tunnelIf physicalIf reqs st.table.os.rows
  hosts_of : ∀ ip, ip ∉ hosts → st.session.domainRoutes.get ip = none

def textRequests (env : Externals) (viaTunnel : Bool) (texts : List String) : List Request :=
  texts.filterMap fun text => (env.parseNet text).toOption.map fun net => ⟨net, viaTunnel⟩

theorem textRequests_concat {env : Externals} {text : String} {net : IpNet}
    (h : env.parseNet text = .ok net) (viaTunnel : Bool) (texts : List String) :
    textRequests env viaTunnel (texts ++ [text]) =
      textRequests env viaTunnel texts ++ [⟨net, viaTunnel⟩] := by
  simp [textRequests, h, Except.toOption]

theorem mem_textRequests {env : Externals} {viaTunnel : Bool} {texts : List String}
    {req : Request} : req ∈ textRequests env viaTunnel texts ↔
      req.viaTunnel = viaTunnel ∧ ∃ text ∈ texts, env.parseNet text = .ok req.net := by
  obtain ⟨net, via⟩ := req
  simp only [textRequests, List.mem_filterMap, Option.map_eq_some_iff, Request.mk.injEq]
  constructor
  · intro h
    obtain ⟨text, hmem, found, hread, rfl, rfl⟩ := h
    refine ⟨rfl, text, hmem, ?_⟩
    cases hparse : env.parseNet text with
    | error e => simp [hparse, Except.toOption] at hread
    | ok net =>
        simp only [hparse, Except.toOption, Option.some.injEq] at hread
        rw [hread]
  · intro h
    obtain ⟨rfl, text, hmem, hread⟩ := h
    exact ⟨text, hmem, net, by simp [hread, Except.toOption], rfl, rfl⟩

/-- The interface and metric of a request, as `install_split_routes` passes them. -/
def splitMetric (viaTunnel : Bool) : Nat := if viaTunnel then 100 else 1

def splitInterface (viaTunnel : Bool) : Nat := if viaTunnel then tunnelIf else physicalIf

theorem row_eq_split (req : Request) : req.row tunnelIf physicalIf =
    ⟨osDest req.net, splitInterface tunnelIf physicalIf req.viaTunnel,
      splitMetric req.viaTunnel⟩ := by
  obtain ⟨net, viaTunnel⟩ := req
  cases viaTunnel <;> rfl

variable {tunnelIf physicalIf} (hne : tunnelIf ≠ physicalIf)
include hne

theorem addSplit_installed (req : Request) (reqs : List Request) (hosts : List IpAddr) :
    Succeeds (Installed tunnelIf physicalIf reqs hosts)
      (SessionRoutes.addSplit req.net (splitInterface tunnelIf physicalIf req.viaTunnel)
        (splitMetric req.viaTunnel))
      fun _ => Installed tunnelIf physicalIf (reqs ++ [req]) hosts := by
  intro st h
  have hcarries := h.carries.add hne h.healthy req
  rw [row_eq_split] at hcarries
  refine ⟨⟨⟩, ⟨{ st.session with splitHandles := st.session.splitHandles ++ [st.table.nextHandle] },
    st.table.added req.net (splitInterface tunnelIf physicalIf req.viaTunnel)
      (splitMetric req.viaTunnel)⟩, ?_, h.healthy, hcarries, h.hosts_of⟩
  simp only [SessionRoutes.addSplit, exec_bind, SessionRoutes.onTable, exec_zoom,
    RouteTableManager.addRoute_exec _ h.healthy, SessionRoutes.modifySession, exec_modify]

theorem addSplitTexts_installed (env : Externals) (label : String) (viaTunnel : Bool)
    {texts : List String} (hread : ∀ text ∈ texts, ∃ net, env.parseNet text = .ok net)
    (reqs : List Request) (hosts : List IpAddr) :
    Succeeds (Installed tunnelIf physicalIf reqs hosts)
      (forEach (SessionRoutes.addSplitText env label
        (splitInterface tunnelIf physicalIf viaTunnel) (splitMetric viaTunnel)) texts)
      fun _ => Installed tunnelIf physicalIf (reqs ++ textRequests env viaTunnel texts) hosts := by
  have hloop : Succeeds
      (Installed tunnelIf physicalIf (reqs ++ textRequests env viaTunnel []) hosts)
      (forEach (SessionRoutes.addSplitText env label
        (splitInterface tunnelIf physicalIf viaTunnel) (splitMetric viaTunnel)) texts)
      fun _ => Installed tunnelIf physicalIf (reqs ++ textRequests env viaTunnel texts) hosts := by
    refine succeeds_forEach (P := fun done =>
      Installed tunnelIf physicalIf (reqs ++ textRequests env viaTunnel done) hosts) ?_
    intro done text rest hsplit
    have hmem : text ∈ texts := by
      rw [hsplit]
      exact List.mem_append_right done List.mem_cons_self
    obtain ⟨net, hnet⟩ := hread text hmem
    rw [textRequests_concat hnet, ← List.append_assoc]
    simp only [SessionRoutes.addSplitText, hnet]
    exact addSplit_installed hne ⟨net, viaTunnel⟩ _ hosts
  refine succeeds_weaken hloop ?_ fun _ _ h => h
  intro st h
  rw [textRequests, List.filterMap_nil, List.append_nil]
  exact h

def splitRequests (env : Externals) (policy : PolicySnapshot) : List Request :=
  [⟨SessionRoutes.defaultV4, false⟩, ⟨SessionRoutes.defaultV4, true⟩,
    ⟨SessionRoutes.defaultV6, false⟩, ⟨SessionRoutes.defaultV6, true⟩] ++
  textRequests env false policy.bypassCidrs ++ textRequests env true policy.dynamicTunnelHosts

theorem installSplitRoutes_installed (env : Externals) {policy : PolicySnapshot}
    (htunnel : policy.tunnelIfIndex = some tunnelIf)
    (hphysical : policy.physicalIfIndex = some physicalIf)
    (hbypass : ∀ text ∈ policy.bypassCidrs, ∃ net, env.parseNet text = .ok net)
    (hdynamic : ∀ text ∈ policy.dynamicTunnelHosts, ∃ net, env.parseNet text = .ok net) :
    Succeeds (fun st => Installed tunnelIf physicalIf [] [] st ∧ st.session.splitHandles = [])
      (SessionRoutes.installSplitRoutes env policy)
      fun _ => Installed tunnelIf physicalIf (splitRequests env policy) [] := by
  have hclear : Succeeds
      (fun st => Installed tunnelIf physicalIf [] [] st ∧ st.session.splitHandles = [])
      SessionRoutes.clearSplit fun _ => Installed tunnelIf physicalIf [] [] := by
    intro st h
    refine ⟨⟨⟩, { st with session := { st.session with splitHandles := [] } }, ?_,
      h.1.healthy, h.1.carries, h.1.hosts_of⟩
    simp only [SessionRoutes.clearSplit, exec_bind, exec_get, SessionRoutes.modifySession,
      exec_modify, h.2, forEach, exec_pure]
  simp only [SessionRoutes.installSplitRoutes, htunnel, hphysical]
  refine succeeds_bind hclear fun _ => ?_
  refine succeeds_bind (addSplit_installed hne ⟨SessionRoutes.defaultV4, false⟩ _ _) fun _ => ?_
  refine succeeds_bind (addSplit_installed hne ⟨SessionRoutes.defaultV4, true⟩ _ _) fun _ => ?_
  refine succeeds_bind (addSplit_installed hne ⟨SessionRoutes.defaultV6, false⟩ _ _) fun _ => ?_
  refine succeeds_bind (addSplit_installed hne ⟨SessionRoutes.defaultV6, true⟩ _ _) fun _ => ?_
  refine succeeds_bind (addSplitTexts_installed hne env "bad cidr" false hbypass _ _) fun _ => ?_
  exact addSplitTexts_installed hne env "bad dynamic tunnel" true hdynamic _ _

/-- The request of `install_domain_route`; a Block entry makes none. -/
def hostRequest (e : ResolvedIpEntry) : Option Request :=
  match e.target with
  | .tunnel => some ⟨IpNet.host e.ip, true⟩
  | .bypass => some ⟨IpNet.host e.ip, false⟩
  | .block => none

omit hne in
theorem hostRoute_eq (e : ResolvedIpEntry) :
    SessionRoutes.hostRoute e.target tunnelIf physicalIf = (hostRequest e).map fun req =>
      (splitInterface tunnelIf physicalIf req.viaTunnel, splitMetric req.viaTunnel) := by
  unfold hostRequest
  cases e.target <;> rfl

omit hne in
theorem hostRequest_net {e : ResolvedIpEntry} {req : Request} (h : hostRequest e = some req) :
    req.net = IpNet.host e.ip := by
  unfold hostRequest at h
  cases htarget : e.target <;> simp only [htarget, Option.some.injEq, reduceCtorEq] at h
  · rw [← h]
  · rw [← h]

theorem installDomainRoute_installed (e : ResolvedIpEntry) (reqs : List Request)
    (hosts : List IpAddr) (hfresh : e.ip ∉ hosts) :
    Succeeds (Installed tunnelIf physicalIf reqs hosts)
      (SessionRoutes.installDomainRoute e.ip e.target tunnelIf physicalIf e.expiresAt)
      fun _ => Installed tunnelIf physicalIf (reqs ++ (hostRequest e).toList)
        (hosts ++ [e.ip]) := by
  intro st h
  have hnone := h.hosts_of e.ip hfresh
  cases hreq : hostRequest e with
  | none =>
      refine ⟨⟨⟩, st, ?_, h.healthy, ?_, ?_⟩
      · simp only [SessionRoutes.installDomainRoute, exec_bind, exec_get, hnone,
          SessionRoutes.addDomainRoute, hostRoute_eq, hreq, Option.map_none, exec_pure]
      · simpa using h.carries
      · intro ip hip
        exact h.hosts_of ip fun hmem => hip (List.mem_append_left [e.ip] hmem)
  | some req =>
      have hcarries := h.carries.add hne h.healthy req
      rw [row_eq_split, hostRequest_net hreq] at hcarries
      let handle : DomainRouteHandle := ⟨e.ip, st.table.nextHandle, e.expiresAt, e.target⟩
      refine ⟨⟨⟩, ⟨{ st.session with
          domainRoutes := st.session.domainRoutes.insert e.ip handle },
        st.table.added (IpNet.host e.ip) (splitInterface tunnelIf physicalIf req.viaTunnel)
          (splitMetric req.viaTunnel)⟩, ?_, h.healthy, hcarries, ?_⟩
      · simp only [SessionRoutes.installDomainRoute, exec_bind, exec_get, hnone,
          SessionRoutes.addDomainRoute, hostRoute_eq, hreq, Option.map_some,
          SessionRoutes.onTable, exec_zoom, RouteTableManager.addRoute_exec _ h.healthy,
          SessionRoutes.modifySession, exec_modify]
        rfl
      · intro ip hip
        rw [List.mem_append, List.mem_singleton, not_or] at hip
        simp only [get_insert, if_neg hip.2]
        exact h.hosts_of ip hip.1

def installHosts (tunnelIf physicalIf : Nat) (entries : List ResolvedIpEntry) : RouteProg PUnit :=
  forEach (fun e => SessionRoutes.installDomainRoute e.ip e.target tunnelIf physicalIf e.expiresAt)
    entries

theorem installHosts_installed {entries : List ResolvedIpEntry}
    (hdistinct : (entries.map ResolvedIpEntry.ip).Nodup) (reqs : List Request) :
    Succeeds (Installed tunnelIf physicalIf reqs []) (installHosts tunnelIf physicalIf entries)
      fun _ => Installed tunnelIf physicalIf (reqs ++ entries.filterMap hostRequest)
        (entries.map ResolvedIpEntry.ip) := by
  have hloop : Succeeds
      (Installed tunnelIf physicalIf (reqs ++ [].filterMap hostRequest)
        ([].map ResolvedIpEntry.ip)) (installHosts tunnelIf physicalIf entries)
      fun _ => Installed tunnelIf physicalIf (reqs ++ entries.filterMap hostRequest)
        (entries.map ResolvedIpEntry.ip) := by
    refine succeeds_forEach (P := fun done => Installed tunnelIf physicalIf
      (reqs ++ done.filterMap hostRequest) (done.map ResolvedIpEntry.ip)) ?_
    intro done e rest hsplit
    have hfresh : e.ip ∉ done.map ResolvedIpEntry.ip := by
      rw [hsplit, List.map_append, List.nodup_append] at hdistinct
      intro hmem
      exact hdistinct.2.2 e.ip hmem e.ip List.mem_cons_self rfl
    have hstep := installDomainRoute_installed hne e (reqs ++ done.filterMap hostRequest) _ hfresh
    rw [List.append_assoc] at hstep
    rw [List.filterMap_append, List.map_append]
    refine succeeds_weaken hstep (fun _ h => h) fun _ _ h => ?_
    cases hreq : hostRequest e <;> simpa [hreq] using h
  refine succeeds_weaken hloop ?_ fun _ _ h => h
  intro st h
  rw [List.filterMap_nil, List.append_nil]
  exact h

end Install

/-! ## The requests of a compiled policy -/

section Compiled
variable {env : Externals} {cfg : AppConfig} {engine : RoutingEngine} {store : DomainRouteStore}
  {now : Nat}

def HostBypassRule (env : Externals) (cfg : AppConfig) (ip : IpAddr) : Prop :=
  ∃ rule ∈ cfg.routing.ipRules, rule.target = .bypass ∧
    env.parseNet rule.cidr = .ok (IpNet.host ip)

theorem lookupIp_eq_some_iff (ip : IpAddr) (target : RouteTarget) :
    store.lookupIp now ip = some target ↔
      ∃ e, store.byIp.get ip = some e ∧ e.target = target ∧ now < e.expiresAt := by
  simp only [DomainRouteStore.lookupIp, DomainRouteStore.entryForIp, Option.map_eq_some_iff]
  cases hget : store.byIp.get ip with
  | none => simp
  | some e =>
      by_cases hlive : now < e.expiresAt
      · simp [hlive, Nat.not_le.mpr hlive]
      · simp [hlive, Nat.le_of_not_lt hlive]

theorem mem_hostCidrs (hs : store.Indexed) (o : Order) (target : RouteTarget) (text : String) :
    text ∈ store.hostCidrsForTarget o now target ↔
      ∃ ip, store.lookupIp now ip = some target ∧ ipToHostCidr ip = text := by
  simp only [DomainRouteStore.hostCidrsForTarget, List.mem_map, List.mem_filter,
    mem_order_values, decide_eq_true_eq, lookupIp_eq_some_iff]
  constructor
  · intro h
    obtain ⟨e, ⟨⟨ip, hget⟩, htarget, hlive⟩, rfl⟩ := h
    refine ⟨ip, ⟨e, hget, htarget, hlive⟩, ?_⟩
    rw [hs.keyed ip e hget]
  · intro h
    obtain ⟨ip, ⟨e, hget, htarget, hlive⟩, rfl⟩ := h
    refine ⟨e, ⟨⟨ip, hget⟩, htarget, hlive⟩, ?_⟩
    rw [hs.keyed ip e hget]

theorem parse_hostCidrs (hs : store.Indexed) (o : Order) (target : RouteTarget)
    (hhosts : ∀ ip, store.lookupIp now ip ≠ none → env.RoundTrips (IpNet.host ip)) (net : IpNet) :
    (∃ text ∈ store.hostCidrsForTarget o now target, env.parseNet text = .ok net) ↔
      ∃ ip, store.lookupIp now ip = some target ∧ net = IpNet.host ip := by
  constructor
  · intro h
    obtain ⟨text, htext, hread⟩ := h
    obtain ⟨ip, hlookup, rfl⟩ := (mem_hostCidrs hs o target text).mp htext
    rw [(hhosts ip (by simp [hlookup])).parse_host] at hread
    cases hread
    exact ⟨ip, hlookup, rfl⟩
  · intro h
    obtain ⟨ip, hlookup, rfl⟩ := h
    exact ⟨ipToHostCidr ip, (mem_hostCidrs hs o target _).mpr ⟨ip, hlookup, rfl⟩,
      (hhosts ip (by simp [hlookup])).parse_host⟩

theorem parse_staticCidrs (htable : IpRuleTable.fromRules env cfg.routing.ipRules =
      .ok engine.snapshot.ipTable)
    (hround : ∀ entry ∈ engine.snapshot.ipTable.rules, env.RoundTrips entry.cidr)
    (target : RouteTarget) (net : IpNet) :
    (∃ text ∈ addMissing (cidrsFor target cfg.routing.ipRules)
        ((engine.snapshot.ipTable.allCidrs target).map env.netToString),
      env.parseNet text = .ok net) ↔
    ∃ rule ∈ cfg.routing.ipRules, rule.target = target ∧ env.parseNet rule.cidr = .ok net := by
  simp only [mem_addMissing, AppSplitPolicyCompiler.mem_cidrsFor, List.mem_map,
    AppSplitPolicyCompiler.mem_allCidrs]
  constructor
  · intro h
    obtain ⟨text, ⟨rule, hrule, htarget, rfl⟩ | ⟨cidr, ⟨entry, hentry, htarget, rfl⟩, rfl⟩,
      hread⟩ := h
    · exact ⟨rule, hrule, htarget, hread⟩
    · rw [(hround entry hentry).parse] at hread
      cases hread
      obtain ⟨rule, hrule, _, hruleTarget, hruleRead⟩ := fromRules_rule htable hentry
      exact ⟨rule, hrule, hruleTarget.symm.trans htarget, hruleRead⟩
  · intro h
    obtain ⟨rule, hrule, htarget, hread⟩ := h
    exact ⟨rule.cidr, Or.inl ⟨rule, hrule, htarget, rfl⟩, hread⟩

theorem static_readable (htable : IpRuleTable.fromRules env cfg.routing.ipRules =
      .ok engine.snapshot.ipTable)
    (hround : ∀ entry ∈ engine.snapshot.ipTable.rules, env.RoundTrips entry.cidr)
    {target : RouteTarget} {text : String}
    (hmem : text ∈ addMissing (cidrsFor target cfg.routing.ipRules)
      ((engine.snapshot.ipTable.allCidrs target).map env.netToString)) :
    ∃ net, env.parseNet text = .ok net := by
  simp only [mem_addMissing, AppSplitPolicyCompiler.mem_cidrsFor, List.mem_map,
    AppSplitPolicyCompiler.mem_allCidrs] at hmem
  rcases hmem with ⟨rule, hrule, _, rfl⟩ | ⟨cidr, ⟨entry, hentry, _, rfl⟩, rfl⟩
  · obtain ⟨entry, _, _, _, hread⟩ := fromRules_entry htable hrule
    exact ⟨entry.cidr, hread⟩
  · exact ⟨entry.cidr, (hround entry hentry).parse⟩

theorem mem_liveRequests (hs : store.Indexed) (o : Order) (clock : Clock) (req : Request) :
    req ∈ (store.liveEntries o clock).filterMap hostRequest ↔
      ∃ ip, req = ⟨IpNet.host ip, true⟩ ∧ store.lookupIp clock.nowUnix ip = some .tunnel ∨
        req = ⟨IpNet.host ip, false⟩ ∧ store.lookupIp clock.nowUnix ip = some .bypass := by
  simp only [List.mem_filterMap, DomainRouteStore.mem_liveEntries o clock hs]
  constructor
  · intro h
    obtain ⟨e, hentry, hreq⟩ := h
    refine ⟨e.ip, ?_⟩
    simp only [DomainRouteStore.lookupIp, hentry, Option.map_some, Option.some.injEq]
    unfold hostRequest at hreq
    cases htarget : e.target <;> simp only [htarget, Option.some.injEq, reduceCtorEq] at hreq
    · exact Or.inl ⟨hreq.symm, rfl⟩
    · exact Or.inr ⟨hreq.symm, rfl⟩
  · rintro ⟨ip, ⟨rfl, hlookup⟩ | ⟨rfl, hlookup⟩⟩ <;>
    · obtain ⟨e, hentry, htarget⟩ := Option.map_eq_some_iff.mp hlookup
      have hip := DomainRouteStore.entryForIp_ip hs hentry
      refine ⟨e, by rw [hip]; exact hentry, ?_⟩
      simp only [hostRequest, htarget, hip]

end Compiled

/-! ## Agreement -/

section Agreement
variable (env : Externals) (cfg : AppConfig) (engine : RoutingEngine) (store : DomainRouteStore)
  (walk o : Order) (clock : Clock) (tunnelIf physicalIf : Nat) (tunnelIfLuid : Option Nat)

/-- The policy compiled with both interfaces known, from an engine synced with the store. -/
def splitPolicy : PolicySnapshot :=
  AppSplitPolicyCompiler.compileWithDomainStore env o clock.nowUnix cfg
    (engine.syncDomainStore walk clock store) (some tunnelIf) tunnelIfLuid (some physicalIf)
    (some store)

/-- The split routes of the policy, then a host route for every live entry. -/
def installAll : RouteProg PUnit := do
  SessionRoutes.installSplitRoutes env
    (splitPolicy env cfg engine store walk o clock tunnelIf physicalIf tunnelIfLuid)
  installHosts tunnelIf physicalIf (store.liveEntries o clock)

def allRequests : List Request :=
  splitRequests env
    (splitPolicy env cfg engine store walk o clock tunnelIf physicalIf tunnelIfLuid) ++
  (store.liveEntries o clock).filterMap hostRequest

/-- What the rules and the store ask of an address that nothing blocks. -/
def wantedTarget (now : Nat) (ip : IpAddr) : RouteTarget :=
  match engine.snapshot.ipTable.lookup ip with
  | some entry => entry.target
  | none => (store.lookupIp now ip).getD engine.defaultDecision.target

/-- A Block entry of the store or a first Block rule. -/
def Blocked (now : Nat) (ip : IpAddr) : Prop :=
  store.lookupIp now ip = some .block ∨
    ∃ entry, engine.snapshot.ipTable.lookup ip = some entry ∧ entry.target = .block

/-- A first rule for the tunnel, else a live Tunnel entry, else the mode. -/
def AsksForTunnel (now : Nat) (ip : IpAddr) : Prop :=
  match engine.snapshot.ipTable.lookup ip with
  | some entry => entry.target = .tunnel
  | none => store.lookupIp now ip = some .tunnel ∨
      store.lookupIp now ip = none ∧ cfg.routing.mode = .fullTunnel

/-- The store has a live Tunnel entry for the address, and no Bypass rule names it as a host. -/
def TunnelHost (now : Nat) (ip : IpAddr) : Prop :=
  store.lookupIp now ip = some .tunnel ∧ ¬ HostBypassRule env cfg ip

variable {env cfg engine store} {tunnelIf physicalIf}
  (htable : IpRuleTable.fromRules env cfg.routing.ipRules = .ok engine.snapshot.ipTable)
  (hround : ∀ entry ∈ engine.snapshot.ipTable.rules, env.RoundTrips entry.cidr)
  (hstore : store.Reached)
  (hhosts : ∀ ip, store.lookupIp clock.nowUnix ip ≠ none → env.RoundTrips (IpNet.host ip))
include htable hround hstore hhosts

omit htable hround in
theorem mem_allRequests_tunnel (net : IpNet) :
    ⟨net, true⟩ ∈ allRequests env cfg engine store walk o clock tunnelIf physicalIf tunnelIfLuid ↔
      (net = SessionRoutes.defaultV4 ∨ net = SessionRoutes.defaultV6) ∨
        ∃ ip, store.lookupIp clock.nowUnix ip = some .tunnel ∧ net = IpNet.host ip := by
  obtain ⟨hindexed, _⟩ := hstore.indexed
  have hdynamic : (∃ text ∈ (splitPolicy env cfg engine store walk o clock tunnelIf physicalIf
        tunnelIfLuid).dynamicTunnelHosts, env.parseNet text = .ok net) ↔
      ∃ ip, store.lookupIp clock.nowUnix ip = some .tunnel ∧ net = IpNet.host ip :=
    parse_hostCidrs hindexed o .tunnel hhosts net
  simp only [allRequests, splitRequests, List.mem_append, mem_textRequests,
    mem_liveRequests hindexed, List.mem_cons, List.not_mem_nil, Request.mk.injEq, hdynamic,
    and_true, and_false, false_and, true_and, or_false, false_or, reduceCtorEq]
  constructor
  · intro hcase
    rcases hcase with (h | h) | ⟨ip, rfl, h⟩
    · exact Or.inl h
    · exact Or.inr h
    · exact Or.inr ⟨ip, h, rfl⟩
  · intro hcase
    rcases hcase with h | h
    · exact Or.inl (Or.inl h)
    · exact Or.inl (Or.inr h)

theorem mem_allRequests_physical (net : IpNet) :
    ⟨net, false⟩ ∈ allRequests env cfg engine store walk o clock tunnelIf physicalIf tunnelIfLuid ↔
      (net = SessionRoutes.defaultV4 ∨ net = SessionRoutes.defaultV6) ∨
      (∃ rule ∈ cfg.routing.ipRules, rule.target = .bypass ∧ env.parseNet rule.cidr = .ok net) ∨
        ∃ ip, store.lookupIp clock.nowUnix ip = some .bypass ∧ net = IpNet.host ip := by
  obtain ⟨hindexed, _⟩ := hstore.indexed
  have hstatic := parse_staticCidrs htable hround .bypass net
  have hdynamic := parse_hostCidrs hindexed o .bypass hhosts net
  have hbypass : (∃ text ∈ (splitPolicy env cfg engine store walk o clock tunnelIf physicalIf
        tunnelIfLuid).bypassCidrs, env.parseNet text = .ok net) ↔
      (∃ rule ∈ cfg.routing.ipRules, rule.target = .bypass ∧ env.parseNet rule.cidr = .ok net) ∨
        ∃ ip, store.lookupIp clock.nowUnix ip = some .bypass ∧ net = IpNet.host ip := by
    rw [← hstatic, ← hdynamic]
    simp only [splitPolicy, AppSplitPolicyCompiler.compileWithDomainStore,
      PolicySnapshot.fromConfig, RoutingEngine.syncDomainStore_ipTable,
      mem_addMissing _ _ (addMissing _ _), or_and_right, exists_or]
  simp only [allRequests, splitRequests, List.mem_append, mem_textRequests,
    mem_liveRequests hindexed, List.mem_cons, List.not_mem_nil, Request.mk.injEq, hbypass,
    and_true, and_false, false_and, true_and, or_false, false_or, reduceCtorEq]
  constructor
  · intro hcase
    rcases hcase with (h | h) | ⟨ip, rfl, h⟩
    · exact Or.inl h
    · exact Or.inr h
    · exact Or.inr (Or.inr ⟨ip, h, rfl⟩)
  · intro hcase
    rcases hcase with h | h
    · exact Or.inl (Or.inl h)
    · exact Or.inl (Or.inr h)

/-- The whole installation succeeds and makes exactly these requests. -/
theorem installAll_installed (hne : tunnelIf ≠ physicalIf) :
    Succeeds (fun st => Installed tunnelIf physicalIf [] [] st ∧ st.session.splitHandles = [])
      (installAll env cfg engine store walk o clock tunnelIf physicalIf tunnelIfLuid)
      fun _ st => ∃ hosts, Installed tunnelIf physicalIf
        (allRequests env cfg engine store walk o clock tunnelIf physicalIf tunnelIfLuid)
          hosts st := by
  obtain ⟨hindexed, _⟩ := hstore.indexed
  have hhostText : ∀ target, ∀ text ∈ store.hostCidrsForTarget o clock.nowUnix target,
      ∃ net, env.parseNet text = .ok net := by
    intro target text hmem
    obtain ⟨ip, hlookup, rfl⟩ := (mem_hostCidrs hindexed o target text).mp hmem
    exact ⟨_, (hhosts ip (by simp [hlookup])).parse_host⟩
  refine succeeds_bind (installSplitRoutes_installed hne env rfl rfl ?_ (hhostText .tunnel))
    fun _ => ?_
  · intro text hmem
    simp only [splitPolicy, AppSplitPolicyCompiler.compileWithDomainStore,
      PolicySnapshot.fromConfig, RoutingEngine.syncDomainStore_ipTable,
      mem_addMissing _ _ (addMissing _ _)] at hmem
    rcases hmem with hstatic | hdynamic
    · exact static_readable htable hround hstatic
    · exact hhostText .bypass text hdynamic
  · refine succeeds_weaken (installHosts_installed hne
      (DomainRouteStore.liveEntries_distinct o clock hindexed) _) (fun _ h => h) fun _ _ h => ⟨_, h⟩

omit htable hround hstore hhosts in
theorem host_ne_default (ip : IpAddr) :
    ¬ (IpNet.host ip = SessionRoutes.defaultV4 ∨ IpNet.host ip = SessionRoutes.defaultV6) := by
  have hlen : (IpNet.host ip).prefixLen ≠ 0 := by
    rw [IpNet.prefixLen_host]
    cases ip <;> simp [IpAddr.width]
  rintro (h | h) <;>
  · rw [h] at hlen
    exact hlen rfl

/-- Packets take the tunnel exactly to the tunnel hosts. -/
theorem installAll_bestRoute (hne : tunnelIf ≠ physicalIf) {st : RouteState} (hst : st.Healthy)
    (hrows : st.table.os.rows = []) (hsession : st.session = {}) (ip : IpAddr) :
    ∃ st' row, exec (installAll env cfg engine store walk o clock tunnelIf physicalIf tunnelIfLuid)
        st = (.ok ⟨⟩, st') ∧ bestRoute st'.table.os.rows ip = some row ∧
      (TunnelHost env cfg store clock.nowUnix (osAddr ip) → row.ifIndex = tunnelIf) ∧
      (¬ TunnelHost env cfg store clock.nowUnix (osAddr ip) → row.ifIndex = physicalIf) := by
  have hfirst : Installed tunnelIf physicalIf [] [] st ∧ st.session.splitHandles = [] := by
    refine ⟨⟨hst, ?_, ?_⟩, by rw [hsession]⟩
    · intro row
      simp [hrows]
    · intro other _
      simp [hsession]
  obtain ⟨_, st', hexec, hosts, hinstalled⟩ :=
    installAll_installed walk o clock tunnelIfLuid htable hround hstore hhosts hne st hfirst
  have htunnel : ∀ net,
      ⟨net, true⟩ ∈
        allRequests env cfg engine store walk o clock tunnelIf physicalIf tunnelIfLuid ↔ _ :=
    mem_allRequests_tunnel walk o clock tunnelIfLuid hstore hhosts
  have hphysical : ∀ net,
      ⟨net, false⟩ ∈
        allRequests env cfg engine store walk o clock tunnelIf physicalIf tunnelIfLuid ↔
        _ := mem_allRequests_physical walk o clock tunnelIfLuid htable hround hstore hhosts
  have hhostTunnel : ⟨IpNet.host (osAddr ip), true⟩ ∈ allRequests env cfg engine store walk o clock
      tunnelIf physicalIf tunnelIfLuid ↔
        store.lookupIp clock.nowUnix (osAddr ip) = some .tunnel := by
    rw [htunnel, or_iff_right (host_ne_default _)]
    simp only [IpNet.host_inj, exists_eq_right']
  have hhostPhysical : ⟨IpNet.host (osAddr ip), false⟩ ∈ allRequests env cfg engine store walk o
      clock tunnelIf physicalIf tunnelIfLuid ↔ HostBypassRule env cfg (osAddr ip) ∨
        store.lookupIp clock.nowUnix (osAddr ip) = some .bypass := by
    rw [hphysical, or_iff_right (host_ne_default _)]
    simp only [IpNet.host_inj, exists_eq_right', HostBypassRule]
  have hnets : ∀ net,
      ⟨net, true⟩ ∈ allRequests env cfg engine store walk o clock tunnelIf physicalIf
      tunnelIfLuid → net.prefixLen = 0 ∨ ∃ ip, net = IpNet.host ip := by
    intro net hnet
    rcases (htunnel net).mp hnet with (rfl | rfl) | ⟨host, _, rfl⟩
    · exact Or.inl rfl
    · exact Or.inl rfl
    · exact Or.inr ⟨host, rfl⟩
  obtain ⟨row, hbest, hif⟩ := bestRoute_dual hinstalled.carries
    ((hphysical _).mpr (Or.inl (Or.inl rfl))) ((hphysical _).mpr (Or.inl (Or.inr rfl))) hnets ip
  refine ⟨st', row, hexec, hbest, ?_, ?_⟩
  · intro h
    obtain ⟨hlookup, hnot⟩ := h
    rw [hif, if_pos]
    refine ⟨hhostTunnel.mpr hlookup, ?_⟩
    rw [hhostPhysical, hlookup]
    simpa using hnot
  · intro hnot
    rw [hif, if_neg]
    intro h
    obtain ⟨hlookup, hphys⟩ := h
    exact hnot ⟨hhostTunnel.mp hlookup, fun hrule => hphys (hhostPhysical.mpr (Or.inl hrule))⟩

omit htable hround hhosts in
/-- The engine's decision, read off the rules and the store. -/
theorem synced_decision (ip : IpAddr) (port : UInt16) (protocol : Protocol) :
    ((engine.syncDomainStore walk clock store).decide env clock
        (RoutingEngine.bareFlow ip port protocol)).target =
      if store.lookupIp clock.nowUnix ip = some .block then .block
      else wantedTarget engine store clock.nowUnix ip := by
  rw [RoutingEngine.decide_bareFlow, RoutingEngine.bareTarget,
    RoutingEngine.syncDomainStore_lookup walk clock engine hstore]
  rfl

omit htable hround hstore hhosts in
theorem wantedTarget_eq_block_iff {ip : IpAddr}
    (hblock : store.lookupIp clock.nowUnix ip ≠ some .block) :
    wantedTarget engine store clock.nowUnix ip = .block ↔
      ∃ entry, engine.snapshot.ipTable.lookup ip = some entry ∧ entry.target = .block := by
  unfold wantedTarget
  cases hrule : engine.snapshot.ipTable.lookup ip with
  | some entry => simp
  | none =>
      cases hlookup : store.lookupIp clock.nowUnix ip with
      | some target =>
          rw [hlookup] at hblock
          simpa using hblock
      | none => simp [RoutingEngine.defaultDecision_ne_block]

omit htable hround hstore hhosts in
theorem wantedTarget_eq_tunnel_iff (hmode : engine.snapshot.mode = cfg.routing.mode) (ip : IpAddr) :
    wantedTarget engine store clock.nowUnix ip = .tunnel ↔
      AsksForTunnel cfg engine store clock.nowUnix ip := by
  unfold wantedTarget AsksForTunnel
  cases hrule : engine.snapshot.ipTable.lookup ip with
  | some entry => simp
  | none =>
      cases hlookup : store.lookupIp clock.nowUnix ip with
      | some target => simp
      | none =>
          simp only [Option.getD_none, reduceCtorEq, false_or, true_and, ← hmode]
          unfold RoutingEngine.defaultDecision
          cases engine.snapshot.mode <;> simp

omit htable in
/-- The best route of an unblocked address follows the decision exactly when the rules and the
store ask for the tunnel at the tunnel hosts and nowhere else. -/
theorem bestRoute_decided_iff (hengine : RoutingEngine.fromConfig env cfg = .ok engine)
    (hne : tunnelIf ≠ physicalIf) {st : RouteState} (hst : st.Healthy)
    (hrows : st.table.os.rows = []) (hsession : st.session = {}) (ip : IpAddr) (port : UInt16)
    (protocol : Protocol) :
    ∃ st' row, exec (installAll env cfg engine store walk o clock tunnelIf physicalIf tunnelIfLuid)
        st = (.ok ⟨⟩, st') ∧ bestRoute st'.table.os.rows ip = some row ∧
      ((((engine.syncDomainStore walk clock store).decide env clock
          (RoutingEngine.bareFlow ip port protocol)).target = .tunnel → row.ifIndex = tunnelIf) ∧
        (((engine.syncDomainStore walk clock store).decide env clock
          (RoutingEngine.bareFlow ip port protocol)).target = .bypass → row.ifIndex = physicalIf) ↔
      Blocked engine store clock.nowUnix ip ∨
        (AsksForTunnel cfg engine store clock.nowUnix ip ↔
          TunnelHost env cfg store clock.nowUnix (osAddr ip))) := by
  obtain ⟨htable, hmode⟩ := RoutingEngine.fromConfig_ok hengine
  obtain ⟨st', row, hexec, hbest, htunnel, hphysical⟩ :=
    installAll_bestRoute walk o clock tunnelIfLuid htable hround hstore
      hhosts hne hst hrows hsession ip
  refine ⟨st', row, hexec, hbest, ?_⟩
  rw [synced_decision walk clock hstore, Blocked, ← wantedTarget_eq_tunnel_iff clock hmode]
  by_cases hblock : store.lookupIp clock.nowUnix ip = some .block
  · simp [hblock]
  · have hwanted : wantedTarget engine store clock.nowUnix ip = .block ↔
        ∃ entry, engine.snapshot.ipTable.lookup ip = some entry ∧ entry.target = .block :=
      wantedTarget_eq_block_iff clock hblock
    rw [if_neg hblock, or_iff_right hblock, ← hwanted]
    by_cases hhost : TunnelHost env cfg store clock.nowUnix (osAddr ip)
    · rw [htunnel hhost]
      cases wantedTarget engine store clock.nowUnix ip <;> simp [hhost, hne]
    · rw [hphysical hhost]
      cases wantedTarget engine store clock.nowUnix ip <;> simp [hhost, hne.symm]

end Agreement

/-! ## The default configuration -/

open AppSplitPolicyCompiler in
/-- A full tunnel without rules sends an address through the physical interface. -/
theorem fullTunnel_differs :
    ((defaultEngine.syncDomainStore .identity ⟨0, 0⟩ (DomainRouteStore.new {})).decide .asciiIpv4
      ⟨0, 0⟩ (RoutingEngine.bareFlow (ipv4 8 8 8 8) 443 .tcp)).target = .tunnel ∧
    (bestRoute (exec (installAll .asciiIpv4 {} defaultEngine (DomainRouteStore.new {}) .identity
      .identity ⟨0, 0⟩ 42 5 (some 1)) {}).2.table.os.rows (ipv4 8 8 8 8)).map OsRoute.ifIndex =
        some 5 := by
  exact ⟨by decide, by decide⟩

def tunnelledDomain : DomainRouteStore :=
  GuardedRun.run DomainRouteStore.step (DomainRouteStore.new {})
    [.single 100 "a.example" (ipv4 9 9 9 9, 60) ⟨10, "*.example", .tunnel⟩]

theorem tunnelledDomain_host (now : Nat) (ip : IpAddr)
    (h : tunnelledDomain.lookupIp now ip ≠ none) : ip = ipv4 9 9 9 9 := by
  by_contra hne
  refine h ?_
  have hbyIp : tunnelledDomain.byIp = Table.insert ∅ (ipv4 9 9 9 9)
      ⟨ipv4 9 9 9 9, "a.example", "*.example", .tunnel, 160, 60⟩ := rfl
  have hget : tunnelledDomain.byIp.get ip = none := by
    rw [hbyIp, get_insert, if_neg hne]
    rfl
  rw [DomainRouteStore.lookupIp, DomainRouteStore.entryForIp, hget]
  rfl

open AppSplitPolicyCompiler in
/-- Two IP rules, one within the other, and a live host. -/
theorem bestRoute_decided_iff_cached :
    ∃ st' row, exec (installAll .asciiIpv4 shadowedBlock shadowedEngine tunnelledDomain .identity
        .identity ⟨100 * nanosPerSec, 0⟩ 42 5 (some 1)) {} = (.ok ⟨⟩, st') ∧
      bestRoute st'.table.os.rows (ipv4 9 9 9 9) = some row ∧
      ((((shadowedEngine.syncDomainStore .identity ⟨100 * nanosPerSec, 0⟩ tunnelledDomain).decide
          .asciiIpv4 ⟨100 * nanosPerSec, 0⟩
          (RoutingEngine.bareFlow (ipv4 9 9 9 9) 443 .tcp)).target = .tunnel →
          row.ifIndex = 42) ∧
        (((shadowedEngine.syncDomainStore .identity ⟨100 * nanosPerSec, 0⟩ tunnelledDomain).decide
          .asciiIpv4 ⟨100 * nanosPerSec, 0⟩
          (RoutingEngine.bareFlow (ipv4 9 9 9 9) 443 .tcp)).target = .bypass →
          row.ifIndex = 5) ↔
      Blocked shadowedEngine tunnelledDomain (Clock.nowUnix ⟨100 * nanosPerSec, 0⟩)
          (ipv4 9 9 9 9) ∨
        (AsksForTunnel shadowedBlock shadowedEngine tunnelledDomain
            (Clock.nowUnix ⟨100 * nanosPerSec, 0⟩) (ipv4 9 9 9 9) ↔
          TunnelHost .asciiIpv4 shadowedBlock tunnelledDomain
            (Clock.nowUnix ⟨100 * nanosPerSec, 0⟩) (osAddr (ipv4 9 9 9 9)))) := by
  have hstore : tunnelledDomain.Reached := ⟨_, _, DomainRouteStore.Initial.new {}, rfl⟩
  have hhosts : ∀ ip, tunnelledDomain.lookupIp (Clock.nowUnix ⟨100 * nanosPerSec, 0⟩) ip ≠ none →
      Externals.asciiIpv4.RoundTrips (IpNet.host ip) := by
    intro ip hlookup
    rw [tunnelledDomain_host _ ip hlookup]
    exact ⟨rfl, by decide⟩
  have hst : ({} : RouteState).Healthy := fun _ => rfl
  exact bestRoute_decided_iff .identity .identity ⟨100 * nanosPerSec, 0⟩ (some 1)
    shadowedEngine_roundTrips hstore hhosts shadowedEngine_eq (by decide) hst rfl rfl
    (ipv4 9 9 9 9) 443 .tcp

end RouteGuard
