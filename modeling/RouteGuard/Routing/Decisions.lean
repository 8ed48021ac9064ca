import RouteGuard.Routing.Engine

/-! # Which rules decide a flow

Each lookup of `decide` takes the least of the matching entries of one table.
The priorities of the matches being distinct, the least is found in whatever
order the rules were written, and no other rule takes part. -/
set_option autoImplicit false
namespace RouteGuard

open HashTable

/-! ## The least match -/

section Least
variable {α β : Type} (priority : α → Nat)

def Least (xs : List α) (x : α) : Prop := x ∈ xs ∧ ∀ y ∈ xs, priority x ≤ priority y

def Distinct (xs : List α) : Prop := xs.Pairwise fun x y => priority x ≠ priority y

variable {priority} {xs ys : List α} {x y : α}

theorem Least.perm (h : xs.Perm ys) (hx : Least priority xs x) : Least priority ys x := by
  refine ⟨h.mem_iff.mp hx.1, ?_⟩
  intro y hy
  exact hx.2 y (h.mem_iff.mpr hy)

theorem Distinct.eq_of_priority (h : Distinct priority xs) (hx : x ∈ xs) (hy : y ∈ xs)
    (heq : priority x = priority y) : x = y := by
  by_contra hne
  have hsymm : Std.Symm fun x y : α => priority x ≠ priority y := ⟨fun _ _ hxy => hxy.symm⟩
  exact List.Pairwise.forall h hx hy hne heq

theorem Least.unique (h : Distinct priority xs) (hx : Least priority xs x)
    (hy : Least priority xs y) : x = y := by
  apply h.eq_of_priority hx.1 hy.1
  exact Nat.le_antisymm (hx.2 y hy.1) (hy.2 x hx.1)

/-- A lookup that answers `none` only where nothing matches, and else a least match, answers the
same for two lists with the same matches. -/
theorem least_answers_eq {found found' : Option α} (h : xs.Perm ys)
    (hdistinct : Distinct priority xs)
    (hfound : ∀ x, found = some x → Least priority xs x) (hnone : found = none → xs = [])
    (hfound' : ∀ y, found' = some y → Least priority ys y) (hnone' : found' = none → ys = []) :
    found = found' := by
  cases hf : found with
  | none =>
      have hempty : ys = [] := by
        have hx := hnone hf
        subst hx
        exact List.nil_perm.mp h
      cases hf' : found' with
      | none => rfl
      | some y =>
          have hmem := (hfound' y hf').1
          rw [hempty] at hmem
          exact absurd hmem List.not_mem_nil
  | some x =>
      have hx := hfound x hf
      cases hf' : found' with
      | none =>
          have hempty := hnone' hf'
          have hmem := h.mem_iff.mp hx.1
          rw [hempty] at hmem
          exact absurd hmem List.not_mem_nil
      | some y =>
          have hy := (hfound' y hf').perm h.symm
          rw [hx.unique hdistinct hy]

end Least

section Lookups
variable {α : Type} {priority : α → Nat} {matching : α → Bool} {rules others : List α}

theorem find_sorted_perm (h : (rules.filter matching).Perm (others.filter matching))
    (hdistinct : Distinct priority (rules.filter matching)) :
    (sortByPriority priority rules).find? matching =
      (sortByPriority priority others).find? matching := by
  have hleast : ∀ (table : List α) (x : α),
      (sortByPriority priority table).find? matching = some x →
        Least priority (table.filter matching) x := by
    intro table x hx
    obtain ⟨hmem, hmatch, hle⟩ := find_sorted_least priority matching table x hx
    refine ⟨List.mem_filter.mpr ⟨hmem, hmatch⟩, ?_⟩
    intro y hy
    obtain ⟨hy, hmy⟩ := List.mem_filter.mp hy
    exact hle y hy hmy
  have hnone : ∀ table : List α, (sortByPriority priority table).find? matching = none →
      table.filter matching = [] := by
    intro table hfind
    rw [List.filter_eq_nil_iff]
    intro x hx
    exact List.find?_eq_none.mp hfind x ((mem_sortByPriority priority table x).mpr hx)
  exact least_answers_eq h hdistinct (hleast rules) (hnone rules) (hleast others) (hnone others)

/-- `min_by_key` of the matches, taken in the order of a sorted table. -/
theorem argmin_sorted_perm (h : (rules.filter matching).Perm (others.filter matching))
    (hdistinct : Distinct priority (rules.filter matching)) :
    ((sortByPriority priority rules).filter matching).argmin priority =
      ((sortByPriority priority others).filter matching).argmin priority := by
  have hperm : ∀ table : List α,
      ((sortByPriority priority table).filter matching).Perm (table.filter matching) := by
    intro table
    exact (List.perm_insertionSort _ table).filter matching
  have hleast : ∀ (table : List α) (x : α),
      ((sortByPriority priority table).filter matching).argmin priority = some x →
        Least priority (table.filter matching) x := by
    intro table x hx
    have hsorted : Least priority ((sortByPriority priority table).filter matching) x :=
      ⟨List.argmin_mem hx, fun y hy => List.le_of_mem_argmin hy hx⟩
    exact hsorted.perm (hperm table)
  have hnone : ∀ table : List α,
      ((sortByPriority priority table).filter matching).argmin priority = none →
        table.filter matching = [] := by
    intro table hargmin
    have hempty := List.argmin_eq_none.mp hargmin
    have hp := hperm table
    rw [hempty] at hp
    exact List.nil_perm.mp hp
  exact least_answers_eq h hdistinct (hleast rules) (hnone rules) (hleast others) (hnone others)

end Lookups

/-! ## The rules that match a flow -/

def RoutingMode.activeRules : RoutingMode → RuleMode
  | .fullTunnel => .exclude
  | .splitInclude => .include

section Matching
variable (env : Externals)

def AppRule.applies (mode : RoutingMode) (path : Option String) (rule : AppRule) : Bool :=
  rule.mode = mode.activeRules &&
    path.any fun path => pathMatches (normalizePath env rule.path) (normalizePath env path)

def IpRule.covers (ip : IpAddr) (rule : IpRule) : Bool :=
  match env.parseNet rule.cidr with
  | .ok cidr => cidr.contains ip
  | .error _ => false

def DomainRule.names (host : Option String) (rule : DomainRule) : Bool :=
  host.any fun host => domainMatches env rule.pattern host

/-- The two rule lists have the same rules that match the flow, with distinct priorities. -/
structure SameMatches (ctx : FlowContext) (first second : RoutingConfig) : Prop where
  app : (first.appRules.filter (AppRule.applies env first.mode ctx.appPath)).Perm
    (second.appRules.filter (AppRule.applies env first.mode ctx.appPath))
  appDistinct : Distinct AppRule.priority
    (first.appRules.filter (AppRule.applies env first.mode ctx.appPath))
  ip : (first.ipRules.filter (IpRule.covers env ctx.remoteIp)).Perm
    (second.ipRules.filter (IpRule.covers env ctx.remoteIp))
  ipDistinct : Distinct IpRule.priority (first.ipRules.filter (IpRule.covers env ctx.remoteIp))
  domain : (first.domainRules.filter (DomainRule.names env ctx.domain)).Perm
    (second.domainRules.filter (DomainRule.names env ctx.domain))
  domainDistinct : Distinct DomainRule.priority
    (first.domainRules.filter (DomainRule.names env ctx.domain))

/-! ## Each table -/

variable {env} {first second : RoutingConfig}

theorem matchPath_eq (path : String) (mode : RoutingMode)
    (happ : (first.appRules.filter (AppRule.applies env mode (some path))).Perm
      (second.appRules.filter (AppRule.applies env mode (some path))))
    (hdistinct : Distinct AppRule.priority
      (first.appRules.filter (AppRule.applies env mode (some path)))) :
    (AppRuleSet.fromRules env first.appRules).matchPath env path mode =
      (AppRuleSet.fromRules env second.appRules).matchPath env path mode := by
  let entry : AppRule → AppRuleEntry := fun rule =>
    ⟨rule.priority, rule.path, normalizePath env rule.path⟩
  let hit : AppRuleEntry → Bool := fun rule => pathMatches rule.normalized (normalizePath env path)
  have hentries : ∀ rules : List AppRule,
      ((rules.filter fun rule => rule.mode = mode.activeRules).map entry).filter hit =
        (rules.filter (AppRule.applies env mode (some path))).map entry := by
    intro rules
    rw [List.filter_map, List.filter_filter]
    apply congrArg (List.map entry)
    apply List.filter_congr
    intro rule _
    exact Bool.and_comm _ _
  have hfind : (AppRuleSet.entriesFor env first.appRules mode.activeRules).find? hit =
      (AppRuleSet.entriesFor env second.appRules mode.activeRules).find? hit := by
    apply find_sorted_perm
    · rw [hentries, hentries]
      exact happ.map entry
    · rw [hentries]
      exact List.pairwise_map.mpr hdistinct
  cases mode with
  | fullTunnel =>
      simp only [AppRuleSet.matchPath, AppRuleSet.fromRules]
      exact congrArg _ hfind
  | splitInclude =>
      simp only [AppRuleSet.matchPath, AppRuleSet.fromRules]
      exact congrArg _ hfind

def IpRule.entry? (env : Externals) (rule : IpRule) : Option IpRuleEntry :=
  match env.parseNet rule.cidr with
  | .ok cidr => some ⟨rule.priority, cidr, rule.target⟩
  | .error _ => none

theorem IpRule.entry?_priority {rule : IpRule} {entry : IpRuleEntry}
    (h : rule.entry? env = some entry) : entry.priority = rule.priority := by
  unfold IpRule.entry? at h
  cases hnet : env.parseNet rule.cidr with
  | error e => simp [hnet] at h
  | ok cidr =>
      simp only [hnet, Option.some.injEq] at h
      subst h
      rfl

theorem IpRule.entry?_contains (ip : IpAddr) {rule : IpRule} {entry : IpRuleEntry}
    (h : rule.entry? env = some entry) : entry.cidr.contains ip = rule.covers env ip := by
  unfold IpRule.entry? at h
  unfold IpRule.covers
  cases hnet : env.parseNet rule.cidr with
  | error e => simp [hnet] at h
  | ok cidr =>
      simp only [hnet, Option.some.injEq] at h
      subst h
      rfl

theorem parseIpRules_entries : ∀ (rules : List IpRule) (entries : List IpRuleEntry),
    parseIpRules env rules = .ok entries → entries = rules.filterMap (IpRule.entry? env) := by
  intro rules
  induction rules with
  | nil =>
      intro entries h
      cases h
      rfl
  | cons rule rest ih =>
      intro entries h
      simp only [parseIpRules] at h
      cases hnet : env.parseNet rule.cidr with
      | error e => simp [hnet] at h
      | ok cidr =>
          cases hrest : parseIpRules env rest with
          | error e => simp [hnet, hrest] at h
          | ok tail =>
              simp only [hnet, hrest, Except.ok.injEq] at h
              subst h
              have hentry : rule.entry? env = some ⟨rule.priority, cidr, rule.target⟩ := by
                simp [IpRule.entry?, hnet]
              rw [List.filterMap_cons_some hentry, ← ih tail hrest]

theorem covering_entries (ip : IpAddr) (rules : List IpRule) :
    (rules.filterMap (IpRule.entry? env)).filter (fun entry => entry.cidr.contains ip) =
      (rules.filter (IpRule.covers env ip)).filterMap (IpRule.entry? env) := by
  induction rules with
  | nil => rfl
  | cons rule rest ih =>
      cases hentry : rule.entry? env with
      | none =>
          have huncovered : rule.covers env ip = false := by
            unfold IpRule.entry? at hentry
            unfold IpRule.covers
            cases hnet : env.parseNet rule.cidr with
            | error e => rfl
            | ok cidr => simp [hnet] at hentry
          rw [List.filterMap_cons_none hentry, ih]
          simp [huncovered]
      | some entry =>
          have hcontains := IpRule.entry?_contains ip hentry
          rw [List.filterMap_cons_some hentry]
          cases hcovers : rule.covers env ip with
          | false =>
              rw [hcovers] at hcontains
              simp [hcontains, hcovers, ih]
          | true =>
              rw [hcovers] at hcontains
              simp [hcontains, hcovers, ih, hentry]

theorem ipLookup_eq {table table' : IpRuleTable} (ip : IpAddr)
    (htable : IpRuleTable.fromRules env first.ipRules = .ok table)
    (htable' : IpRuleTable.fromRules env second.ipRules = .ok table')
    (hip : (first.ipRules.filter (IpRule.covers env ip)).Perm
      (second.ipRules.filter (IpRule.covers env ip)))
    (hdistinct : Distinct IpRule.priority (first.ipRules.filter (IpRule.covers env ip))) :
    table.lookup ip = table'.lookup ip := by
  obtain ⟨entries, hparse, rfl⟩ := fromRules_ok htable
  obtain ⟨entries', hparse', rfl⟩ := fromRules_ok htable'
  have hentries := parseIpRules_entries _ _ hparse
  have hentries' := parseIpRules_entries _ _ hparse'
  subst hentries hentries'
  apply find_sorted_perm
  · rw [covering_entries, covering_entries]
    exact hip.filterMap _
  · rw [covering_entries]
    apply List.Pairwise.filterMap (R := fun a b : IpRule => a.priority ≠ b.priority) _ _ hdistinct
    intro a b hab entry ha entry' hb
    rw [IpRule.entry?_priority ha, IpRule.entry?_priority hb]
    exact hab

theorem matchDomain_eq (host : String)
    (hdomain : (first.domainRules.filter (DomainRule.names env (some host))).Perm
      (second.domainRules.filter (DomainRule.names env (some host))))
    (hdistinct : Distinct DomainRule.priority
      (first.domainRules.filter (DomainRule.names env (some host)))) :
    matchDomain env (domainRuleEntries first.domainRules) host =
      matchDomain env (domainRuleEntries second.domainRules) host := by
  have hentries : ∀ rules : List DomainRule,
      (rules.map DomainRuleEntry.ofRule).filter (fun rule => domainMatches env rule.pattern host) =
        (rules.filter (DomainRule.names env (some host))).map DomainRuleEntry.ofRule := by
    intro rules
    rw [List.filter_map]
    rfl
  unfold matchDomain domainRuleEntries
  apply argmin_sorted_perm
  · rw [hentries, hentries]
    exact hdomain.map _
  · rw [hentries]
    exact List.pairwise_map.mpr hdistinct

end Matching

/-! ## Engines built from a rule list -/

namespace RoutingEngine

/-- The rule tables of the engine are those of the configuration; the resolved addresses are
whatever was synced since. -/
structure BuiltFrom (env : Externals) (cfg : RoutingConfig) (engine : RoutingEngine) : Prop where
  mode : engine.snapshot.mode = cfg.mode
  appRules : engine.snapshot.appRules = AppRuleSet.fromRules env cfg.appRules
  ipTable : IpRuleTable.fromRules env cfg.ipRules = .ok engine.snapshot.ipTable
  domainRules : engine.snapshot.domainCache.rules = domainRuleEntries cfg.domainRules

theorem fromConfig_builtFrom {env : Externals} {cfg : AppConfig} {engine : RoutingEngine}
    (h : fromConfig env cfg = .ok engine) : BuiltFrom env cfg.routing engine := by
  obtain ⟨table, htable, rfl⟩ := fromConfig_built h
  exact ⟨rfl, rfl, htable, rfl⟩

theorem insertResolved_rules (clock : Clock) (cache : DomainCache) (domain : String) (ip : IpAddr)
    (target : RouteTarget) (expiresAt : Nat) :
    (cache.insertResolved clock domain ip target expiresAt).rules = cache.rules := by
  by_cases hexpired : expiresAt ≤ clock.nowUnix
  · simp [DomainCache.insertResolved, hexpired]
  · simp [DomainCache.insertResolved, hexpired]

theorem syncDomainCache_rules (o : Order) (clock : Clock) (store : DomainRouteStore)
    (cache : DomainCache) : (store.syncDomainCache o clock cache).rules = cache.rules := by
  have hfold : ∀ (entries : List ResolvedIpEntry) (cache : DomainCache),
      (entries.foldl (fun cache e =>
        cache.insertResolved clock e.domain e.ip e.target e.expiresAt) cache).rules =
          cache.rules := by
    intro entries
    induction entries with
    | nil => intro cache; rfl
    | cons e rest ih =>
        intro cache
        rw [List.foldl_cons, ih, insertResolved_rules]
  exact hfold _ cache.clearResolved

theorem syncDomainStore_builtFrom {env : Externals} {cfg : RoutingConfig} {engine : RoutingEngine}
    (h : BuiltFrom env cfg engine) (o : Order) (clock : Clock) (store : DomainRouteStore) :
    BuiltFrom env cfg (engine.syncDomainStore o clock store) := by
  refine ⟨h.mode, h.appRules, h.ipTable, ?_⟩
  rw [← h.domainRules]
  exact syncDomainCache_rules o clock store engine.snapshot.domainCache

section Congruence
variable {env : Externals} {engine engine' : RoutingEngine}

theorem decide_congr (clock : Clock) (ctx : FlowContext)
    (hmode : engine.snapshot.mode = engine'.snapshot.mode)
    (happ : ctx.appPath.bind (fun path =>
        engine.snapshot.appRules.matchPath env path engine.snapshot.mode) =
      ctx.appPath.bind fun path =>
        engine'.snapshot.appRules.matchPath env path engine'.snapshot.mode)
    (hip : engine.snapshot.ipTable.lookup ctx.remoteIp =
      engine'.snapshot.ipTable.lookup ctx.remoteIp)
    (hdomain : ctx.domain.bind (matchDomain env engine.snapshot.domainCache.rules) =
      ctx.domain.bind (matchDomain env engine'.snapshot.domainCache.rules))
    (hcached : engine.snapshot.domainCache.lookupIp clock ctx.remoteIp =
      engine'.snapshot.domainCache.lookupIp clock ctx.remoteIp) :
    engine.decide env clock ctx = engine'.decide env clock ctx := by
  have hblock : engine.explicitBlock env clock ctx = engine'.explicitBlock env clock ctx := by
    simp only [explicitBlock, hip, hdomain, hcached]
  have happs : engine.appDecision env ctx = engine'.appDecision env ctx := by
    rw [appDecision, appDecision, happ, hmode]
  have haddress : engine.addressDecision env clock ctx = engine'.addressDecision env clock ctx := by
    simp only [addressDecision, hip, hdomain, hcached]
  have hdefault : engine.defaultDecision = engine'.defaultDecision := by
    simp only [defaultDecision, hmode]
  simp only [decide, hblock, happs, haddress, hdefault]

end Congruence

/-- Only the rules that match a flow decide it, in whatever order they are written. -/
theorem decide_of_matches (env : Externals) (clock : Clock) (ctx : FlowContext)
    {first second : RoutingConfig} {engine engine' : RoutingEngine}
    (hbuilt : BuiltFrom env first engine) (hbuilt' : BuiltFrom env second engine')
    (hmode : first.mode = second.mode)
    (hresolved : engine.snapshot.domainCache.resolved = engine'.snapshot.domainCache.resolved)
    (hindex : engine.snapshot.domainCache.ipIndex = engine'.snapshot.domainCache.ipIndex)
    (hmatches : SameMatches env ctx first second) :
    engine.decide env clock ctx = engine'.decide env clock ctx := by
  have hmodes : engine.snapshot.mode = engine'.snapshot.mode := by
    rw [hbuilt.mode, hbuilt'.mode, hmode]
  apply decide_congr clock ctx hmodes
  · rw [← hmodes, hbuilt.mode, hbuilt.appRules, hbuilt'.appRules]
    cases hpath : ctx.appPath with
    | none => rfl
    | some path =>
        have happ := hmatches.app
        have hdistinct := hmatches.appDistinct
        rw [hpath] at happ hdistinct
        exact matchPath_eq path first.mode happ hdistinct
  · exact ipLookup_eq ctx.remoteIp hbuilt.ipTable hbuilt'.ipTable hmatches.ip hmatches.ipDistinct
  · rw [hbuilt.domainRules, hbuilt'.domainRules]
    cases hhost : ctx.domain with
    | none => rfl
    | some host =>
        have hdomain := hmatches.domain
        have hdistinct := hmatches.domainDistinct
        rw [hhost] at hdomain hdistinct
        exact matchDomain_eq host hdomain hdistinct
  · rw [DomainCache.lookupIp, DomainCache.lookupIp, DomainCache.listed, DomainCache.listed,
      hresolved, hindex]

def officeRules : RoutingConfig where
  mode := .splitInclude
  appRules := [⟨10, .include, "mail.exe"⟩]
  ipRules := [⟨20, "10.0.0.0/8", .tunnel⟩, ⟨10, "10.1.0.0/16", .bypass⟩]
  domainRules := [⟨10, "corp.example", .tunnel⟩]

def officeRulesShuffled : RoutingConfig where
  mode := .splitInclude
  appRules := [⟨1, .exclude, "mail.exe"⟩, ⟨10, .include, "mail.exe"⟩]
  ipRules := [⟨10, "10.1.0.0/16", .bypass⟩, ⟨5, "192.168.0.0/16", .block⟩,
    ⟨20, "10.0.0.0/8", .tunnel⟩]
  domainRules := [⟨5, "ads.example", .block⟩, ⟨10, "corp.example", .tunnel⟩]

def officeEngine : RoutingEngine :=
  ⟨⟨.splitInclude, AppRuleSet.fromRules .asciiIpv4 officeRules.appRules,
    ⟨[⟨10, .v4 ⟨0x0a010000#32, 16, by decide⟩, .bypass⟩,
      ⟨20, .v4 ⟨0x0a000000#32, 8, by decide⟩, .tunnel⟩]⟩,
    DomainCache.fromRules officeRules.domainRules⟩⟩

def officeEngineShuffled : RoutingEngine :=
  ⟨⟨.splitInclude, AppRuleSet.fromRules .asciiIpv4 officeRulesShuffled.appRules,
    ⟨[⟨5, .v4 ⟨0xc0a80000#32, 16, by decide⟩, .block⟩,
      ⟨10, .v4 ⟨0x0a010000#32, 16, by decide⟩, .bypass⟩,
      ⟨20, .v4 ⟨0x0a000000#32, 8, by decide⟩, .tunnel⟩]⟩,
    DomainCache.fromRules officeRulesShuffled.domainRules⟩⟩

theorem decide_of_matches_office :
    officeEngine.decide .asciiIpv4 ⟨0, 0⟩
        ⟨some "c:/mail.exe", ipv4 10 1 2 3, 443, .tcp, some "corp.example"⟩ =
      officeEngineShuffled.decide .asciiIpv4 ⟨0, 0⟩
        ⟨some "c:/mail.exe", ipv4 10 1 2 3, 443, .tcp, some "corp.example"⟩ := by
  have hbuilt : BuiltFrom .asciiIpv4 officeRules officeEngine := ⟨rfl, rfl, rfl, rfl⟩
  have hshuffled : BuiltFrom .asciiIpv4 officeRulesShuffled officeEngineShuffled :=
    ⟨rfl, rfl, rfl, rfl⟩
  apply decide_of_matches .asciiIpv4 ⟨0, 0⟩ _ hbuilt hshuffled
  · rfl
  · rfl
  · rfl
  · exact {
      app := by decide
      appDistinct := by unfold Distinct; decide
      ip := by decide
      ipDistinct := by unfold Distinct; decide
      domain := by decide
      domainDistinct := by unfold Distinct; decide }

end RoutingEngine
end RouteGuard
