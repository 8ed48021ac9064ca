import RouteGuard.Lib.GuardedRun
import RouteGuard.Routing.Decisions
import RouteGuard.Service.Requests

/-! # The three copies of the rules

The configuration, the engine and the domain store each hold the routing rules.
When the requests that change them leave the three in step, and when a request
that fails leaves them as they were. -/
set_option autoImplicit false
namespace RouteGuard

open HashTable Fallible GuardedRun

/-! ## Rule tables -/

/-- The rules of an engine, without its mode and the addresses it has cached. -/
structure RuleTables where
  appRules : AppRuleSet
  ipTable : IpRuleTable
  domainRules : List DomainRuleEntry

def RoutingEngine.tables (engine : RoutingEngine) : RuleTables where
  appRules := engine.snapshot.appRules
  ipTable := engine.snapshot.ipTable
  domainRules := engine.snapshot.domainCache.rules

def AppConfig.tables (env : Externals) (cfg : AppConfig) : Except String RuleTables :=
  (RoutingEngine.fromConfig env cfg).map RoutingEngine.tables

theorem tables_syncDomainStore (o : Order) (clock : Clock) (engine : RoutingEngine)
    (store : DomainRouteStore) : (engine.syncDomainStore o clock store).tables = engine.tables := by
  have hrules := RoutingEngine.syncDomainCache_rules o clock store engine.snapshot.domainCache
  rw [RoutingEngine.tables, RoutingEngine.tables]
  exact congrArg (RuleTables.mk engine.snapshot.appRules engine.snapshot.ipTable) hrules

section Built
variable {env : Externals} {cfg cfg' : AppConfig} {engine : RoutingEngine}

theorem tables_of_built (h : RoutingEngine.fromConfig env cfg = .ok engine) :
    cfg.tables env = .ok engine.tables := by
  rw [AppConfig.tables, h]
  rfl

theorem tables_unbuilt {e : String} (h : RoutingEngine.fromConfig env cfg = .error e) :
    cfg.tables env = .error e := by
  rw [AppConfig.tables, h]
  rfl

end Built

/-! ## What applying a policy leaves alone -/

/-- The configuration, the rules, the entries and the other program's tunnel are the same. -/
structure SameRules (s s' : ServiceState) : Prop where
  config : s'.ctx.config = s.ctx.config
  engine : s'.ctx.domain.engine = s.ctx.domain.engine
  store : s'.ctx.domain.store = s.ctx.domain.store
  external : s'.ctx.externalTunnel = s.ctx.externalTunnel

theorem SameRules.refl (s : ServiceState) : SameRules s s := ⟨rfl, rfl, rfl, rfl⟩

theorem installEntry_foldl (tunnelIf physicalIf : Nat) (entries : List ResolvedIpEntry) :
    ∀ w : DomainRouting, ∃ routes,
      entries.foldl (fun w entry => w.installEntry tunnelIf physicalIf entry) w =
        { w with routes := routes } := by
  induction entries with
  | nil => intro w; exact ⟨w.routes, rfl⟩
  | cons entry rest ih =>
      intro w
      obtain ⟨routes, hrest⟩ := ih (w.installEntry tunnelIf physicalIf entry)
      exact ⟨routes, hrest⟩

theorem reinstallRoutes_routes (w : DomainRouting) (at_ : Moment) (policy : PolicySnapshot) :
    ∃ routes, w.reinstallRoutesFromCache at_ policy = { w with routes := routes } := by
  unfold DomainRouting.reinstallRoutesFromCache
  dsimp only
  split
  · exact ⟨w.routes, rfl⟩
  · exact installEntry_foldl _ _ _ w

theorem domainApply_rules (w : DomainRouting) (env : Externals) (at_ : Moment) (view : PolicyView) :
    (w.applySplitPolicy env at_ view).2.engine = w.engine ∧
      (w.applySplitPolicy env at_ view).2.store = w.store := by
  unfold DomainRouting.applySplitPolicy
  split
  · exact ⟨rfl, rfl⟩
  · dsimp only
    split
    · split
      · exact ⟨rfl, rfl⟩
      · obtain ⟨routes, hroutes⟩ := reinstallRoutes_routes _ at_ _
        rw [hroutes]
        exact ⟨rfl, rfl⟩
    · exact ⟨rfl, rfl⟩

theorem applyFullPolicy_domain (answers : PolicyAnswers) (ctx : ServiceContext) :
    (exec (applyFullPolicy answers) ctx).2 = { ctx with
      domain := (ctx.domain.applySplitPolicy answers.env answers.moment
        (ctx.policyView answers)).2 } := by
  simp only [applyFullPolicy, exec_bind, exec_get, exec_set, exec_fromResult]
  split
  · rename_i heq
    rw [← (Prod.ext_iff.mp heq).2]
  · rename_i heq
    rw [← (Prod.ext_iff.mp heq).2]

theorem applyFullPolicy_built {answers : PolicyAnswers} {ctx ctx' : ServiceContext}
    (h : exec (applyFullPolicy answers) ctx = (.ok (), ctx')) :
    ∃ policy, ctx'.domain.cachedPolicy = some policy ∧
      buildPolicy answers.env answers.moment.order answers.moment.now (ctx.policyView answers)
        ctx.domain.engine ctx.domain.store = .ok policy := by
  have hctx' : (exec (applyFullPolicy answers) ctx).2 = ctx' := congrArg Prod.snd h
  have hdomain : (ctx.domain.applySplitPolicy answers.env answers.moment
      (ctx.policyView answers)).1 = .ok () := by
    simp only [applyFullPolicy, exec_bind, exec_get, exec_set, exec_fromResult] at h
    split at h
    · rename_i heq
      exact (Prod.ext_iff.mp heq).1
    · cases h
  rw [applyFullPolicy_domain] at hctx'
  rw [← hctx']
  dsimp only
  revert hdomain
  unfold DomainRouting.applySplitPolicy
  split
  · intro hdomain
    cases hdomain
  · rename_i policy hbuild
    intro hdomain
    refine ⟨policy, ?_, hbuild⟩
    revert hdomain
    dsimp only
    split
    · split
      · intro hdomain
        cases hdomain
      · intro _
        obtain ⟨routes, hroutes⟩ := reinstallRoutes_routes _ answers.moment _
        rw [hroutes]
    · intro _
      rfl

/-- A property in which the DNS manager and the filters have no part. -/
structure FilterFree (P : ServiceState → Prop) : Prop where
  manager : ∀ s manager, P s → P { s with dnsCallout := manager }
  filters : ∀ s filters, P s → P (s.withFilters filters)

section Free
variable {P : ServiceState → Prop} (hP : FilterFree P) (fromCidr : String → Except String IpNet)
  (answers : ApplyAnswers)
include hP

theorem onFilters_free {A : Type} (m : FilterProg A) : Keeps P (onFilters m) := by
  have hany : Keeps (fun _ : FilterState => True) m := fun _ h => h
  exact keeps_zoom hany (fun _ _ => trivial) fun filters s h _ => hP.filters s filters h

theorem onWfp_free {A : Type} (m : SessionProg A) : Keeps P (onWfp m) := onFilters_free hP _

theorem dnsCallout_free {E : Type} (f : ServiceState → DnsCalloutManager) :
    Keeps P (modify fun s => { s with dnsCallout := f s } : StateProg E PUnit) :=
  keeps_modify fun s h => hP.manager s (f s) h

theorem installDnsCallout_free (port : UInt16) (requireKernel : Bool) :
    Keeps P (installDnsCallout fromCidr answers port requireKernel) := by
  have hstart : Keeps P (startKernelRedirect answers requireKernel) := by
    refine keeps_bind (dnsCallout_free hP _) fun _ => ?_
    split
    · exact keeps_throw _
    · split
      · split
        · split
          · exact keeps_throw _
          · exact keeps_pure _
        · exact dnsCallout_free hP _
      · exact keeps_pure _
  refine keeps_bind hstart fun _ => keeps_bind keeps_get fun _ => ?_
  refine keeps_bind (onWfp_free hP _) fun _ => keeps_bind (onWfp_free hP _) fun _ => ?_
  exact dnsCallout_free hP _

theorem removeDnsCallout_free : Keeps P removeDnsCallout := by
  refine keeps_bind keeps_get fun _ => keeps_bind (onWfp_free hP _) fun _ => ?_
  exact dnsCallout_free hP _

theorem applyDomainDnsWfp_free : Keeps P (applyDomainDnsWfp fromCidr answers) := by
  refine keeps_bind keeps_get fun _ => ?_
  dsimp only
  split
  · refine keeps_bind (keeps_caught (installDnsCallout_free hP fromCidr answers _ _))
      fun result => ?_
    split
    · split
      · exact keeps_throw _
      · exact keeps_pure _
    · exact keeps_pure _
  · exact keeps_bind (keeps_caught (removeDnsCallout_free hP)) fun _ => keeps_pure _

theorem applyFilters_free : Keeps P (applyFilters fromCidr answers) := by
  refine keeps_bind (applyDomainDnsWfp_free hP fromCidr answers) fun _ => ?_
  refine keeps_bind keeps_get fun _ => ?_
  dsimp only
  split
  · exact keeps_pure _
  · exact onFilters_free hP _

end Free

section Keeps
variable (s : ServiceState) (env : Externals) (fromCidr : String → Except String IpNet)
  (answers : ApplyAnswers)

theorem sameRules_free : FilterFree (SameRules s) :=
  ⟨fun _ _ h => ⟨h.config, h.engine, h.store, h.external⟩,
    fun _ _ h => ⟨h.config, h.engine, h.store, h.external⟩⟩

theorem applyFilters_sameRules : Keeps (SameRules s) (applyFilters fromCidr answers) :=
  applyFilters_free (sameRules_free s) fromCidr answers

theorem applySplitPolicy_sameRules :
    Keeps (SameRules s) (applySplitPolicy env fromCidr answers) := by
  refine keeps_bind ?_ fun _ => applyFilters_sameRules s fromCidr answers
  intro s' h
  obtain ⟨hengine, hstore⟩ := domainApply_rules s'.ctx.domain env answers.moment
    (s'.ctx.policyView (answers.routes env))
  rw [onCtx, exec_zoom, applyFullPolicy_domain]
  exact ⟨h.config, hengine.trans h.engine, hstore.trans h.store, h.external⟩

end Keeps

/-! ## How a change of the rules ends -/

section Exits
variable (env : Externals) (fromCidr : String → Except String IpNet)

def ServiceState.changed (cfg : AppConfig) (engine : RoutingEngine)
    (rebuild : ServiceContext → ServiceContext) (s : ServiceState) : ServiceState :=
  { s with ctx := rebuild ((s.ctx.setConfig cfg).withEngine engine) }

def ServiceState.restored (previous : AppConfig) (s : ServiceState) : ServiceState :=
  { s with
    ctx := (s.ctx.setConfig previous).withBuilt (RoutingEngine.fromConfig env previous) }

def Applies (answers : ApplyAnswers) (s : ServiceState) : Prop :=
  ∃ s', exec (applySplitPolicy env fromCidr answers) s = (.ok (), s')

/-- The ends of `changeRules`, with the response and the state of each. -/
inductive ChangeExit (cfg : AppConfig) (answers : ChangeAnswers)
    (rebuild : ServiceContext → ServiceContext) (s : ServiceState) :
    Except IpcError Unit → ServiceState → Prop where
  | notSaved {e : RouteGuardError} (hsaved : answers.saved = .error e) :
      ChangeExit cfg answers rebuild s (.error ⟨-32000, e.toString⟩)
        { s with ctx := s.ctx.setConfig cfg }
  | unbuildable {e : String} (hsaved : answers.saved = .ok ())
      (hbuilt : RoutingEngine.fromConfig env cfg = .error e) :
      ChangeExit cfg answers rebuild s (.error ⟨-32000, e⟩) s
  | applied {engine : RoutingEngine} {after : ServiceState} (hsaved : answers.saved = .ok ())
      (hbuilt : RoutingEngine.fromConfig env cfg = .ok engine)
      (hexec : exec (applySplitPolicy env fromCidr answers.apply) (s.changed cfg engine rebuild) =
        (.ok (), after)) :
      ChangeExit cfg answers rebuild s (.ok ()) after
  | rolledBack {engine : RoutingEngine} {e : RouteGuardError} {failed : ServiceState}
      (hsaved : answers.saved = .ok ()) (hbuilt : RoutingEngine.fromConfig env cfg = .ok engine)
      (hexec : exec (applySplitPolicy env fromCidr answers.apply) (s.changed cfg engine rebuild) =
        (.error e, failed)) :
      ChangeExit cfg answers rebuild s (.error ⟨-32000, e.toString⟩)
        (failed.restored env s.ctx.config)

theorem sameRules_of_exec {answers : ApplyAnswers} {s s' : ServiceState}
    {result : Except RouteGuardError Unit}
    (h : exec (applySplitPolicy env fromCidr answers) s = (result, s')) : SameRules s s' := by
  have hsame := applySplitPolicy_sameRules s env fromCidr answers s (SameRules.refl s)
  rw [h] at hsame
  exact hsame

theorem not_applies_of_exec {answers : ApplyAnswers} {s s' : ServiceState} {e : RouteGuardError}
    (h : exec (applySplitPolicy env fromCidr answers) s = (.error e, s')) :
    ¬Applies env fromCidr answers s := by
  intro happlies
  obtain ⟨after, hok⟩ := happlies
  rw [h] at hok
  cases hok

theorem changeRules_exit (cfg : AppConfig) (answers : ChangeAnswers)
    (rebuild : ServiceContext → ServiceContext) (s : ServiceState) :
    ChangeExit env fromCidr cfg answers rebuild s
      (exec (ServiceState.changeRules env fromCidr cfg answers rebuild) s).1
      (exec (ServiceState.changeRules env fromCidr cfg answers rebuild) s).2 := by
  let set : ServiceState := { s with ctx := s.ctx.setConfig cfg }
  unfold ServiceState.changeRules
  rw [exec_bind_ok (exec_get s)]
  dsimp only
  cases hsaved : answers.saved with
  | error e =>
      have hset : exec (orReply (ServiceState.setConfig cfg (.error e))) s =
          (.error ⟨-32000, e.toString⟩, set) := rfl
      rw [exec_bind_error hset]
      exact .notSaved hsaved
  | ok _ =>
      have hset : exec (orReply (ServiceState.setConfig cfg (.ok ()))) s = (.ok (), set) := rfl
      rw [exec_bind_ok hset]
      cases hbuilt : RoutingEngine.fromConfig env cfg with
      | error e => exact .unbuildable hsaved hbuilt
      | ok engine =>
          have hstep : exec (onCtx (modify fun ctx => rebuild (ctx.withEngine engine)) :
              StateProg IpcError PUnit) set =
              (.ok ⟨⟩, s.changed cfg engine rebuild) := rfl
          simp only [exec_bind_ok hstep, ServiceState.applyChange, exec_bind, exec_caught]
          cases hexec : exec (applySplitPolicy env fromCidr answers.apply)
              (s.changed cfg engine rebuild) with
          | mk result failed =>
              cases result with
              | ok _ => exact .applied hsaved hbuilt hexec
              | error e => exact .rolledBack hsaved hbuilt hexec

end Exits

/-! ## What a request asks for -/

/-- The new configuration, the tunnel of another program and when the domain rules are rebuilt. -/
structure RuleChange where
  cfg : AppConfig
  context : Option TunnelContextParams := none
  rebuildAt : Option Moment := none

def RuleChange.rebuild (change : RuleChange) (ctx : ServiceContext) : ServiceContext :=
  match change.rebuildAt with
  | none => ctx
  | some at_ => ServiceState.rebuildDomains at_ change.cfg.routing.domainRules ctx

def RuleChange.taken (change : RuleChange) (s : ServiceState) : ServiceState :=
  { s with ctx := ServiceState.takeTunnelContext change.context s.ctx }

section Asked
variable (env : Externals)

def ChangeRequest.change (cfg : AppConfig) : ChangeRequest → Except IpcError RuleChange
  | .addApp paths params => (addAppChange env paths cfg params).map fun row => { cfg := row.2 }
  | .removeApp params => (removeAppChange env cfg params).map fun row => { cfg := row.2 }
  | .importRules params rebuildAt =>
      match params with
      | .error e => .error ⟨-32602, e⟩
      | .ok p => .ok ⟨cfg.importing p, p.tunnelContext, some rebuildAt⟩

variable {env} {fromCidr : String → Except String IpNet}

theorem exec_change (request : ChangeRequest) (answers : ChangeAnswers) (s : ServiceState) :
    exec (request.program env fromCidr answers) s =
      match request.change env s.ctx.config with
      | .error e => (.error e, s)
      | .ok change => exec (ServiceState.changeRules env fromCidr change.cfg answers change.rebuild)
          (change.taken s) := by
  cases request with
  | addApp paths params =>
      simp only [ChangeRequest.program, ServiceState.handleRoutingAddApp, ChangeRequest.change,
        exec_bind, exec_get, exec_fromResult]
      cases addAppChange env paths s.ctx.config params with
      | error e => rfl
      | ok row =>
          dsimp only [Except.map]
          cases hexec : exec (ServiceState.changeRules env fromCidr row.2 answers id) s with
          | mk result s' => cases result <;> exact hexec.symm
  | removeApp params =>
      simp only [ChangeRequest.program, ServiceState.handleRoutingRemoveApp, ChangeRequest.change,
        exec_bind, exec_get, exec_fromResult]
      cases removeAppChange env s.ctx.config params with
      | error e => rfl
      | ok row =>
          dsimp only [Except.map]
          cases hexec : exec (ServiceState.changeRules env fromCidr row.2 answers id) s with
          | mk result s' => cases result <;> exact hexec.symm
  | importRules params rebuildAt =>
      cases params with
      | error e => rfl
      | ok p =>
          let change : RuleChange := ⟨s.ctx.config.importing p, p.tunnelContext, some rebuildAt⟩
          have htake : exec (onCtx (modify (ServiceState.takeTunnelContext p.tunnelContext)) :
              StateProg IpcError PUnit) s = (.ok ⟨⟩, change.taken s) := rfl
          simp only [ChangeRequest.program, ServiceState.handleRoutingImportRules,
            ChangeRequest.change, exec_bind, exec_get, htake]
          cases hexec : exec (ServiceState.changeRules env fromCidr change.cfg answers
              change.rebuild) (change.taken s) with
          | mk result s' =>
              have hexec' : exec (ServiceState.changeRules env fromCidr
                  (s.ctx.config.importing p) answers (ServiceState.rebuildDomains rebuildAt
                    (s.ctx.config.importing p).routing.domainRules)) (change.taken s) =
                  (result, s') := hexec
              cases result with
              | error e => simp only [hexec']
              | ok _ => simp only [hexec', exec_pure]

end Asked

/-! ## Requests that fail -/

/-- What a request that fails is to leave as it was. -/
structure Untouched (s s' : ServiceState) : Prop where
  config : s'.ctx.config = s.ctx.config
  tables : s'.ctx.domain.engine.tables = s.ctx.domain.engine.tables
  rules : s'.ctx.domain.store.rules = s.ctx.domain.store.rules
  entries : s'.ctx.domain.store.byIp.get = s.ctx.domain.store.byIp.get
  external : s'.ctx.externalTunnel = s.ctx.externalTunnel

/-- Setting these rules changes neither the rules of the store nor its entries. -/
def DomainRouteStore.Obeys (rules : List DomainRuleEntry) (store : DomainRouteStore) : Prop :=
  rules = store.rules ∧ ∀ ip e, store.byIp.get ip = some e → ruled rules e.pattern e.target = true

theorem pruned_untouched_iff (o : Order) (store : DomainRouteStore) (rules : List DomainRule) :
    (((store.setRules rules).pruneUnmatchedRules o).2.rules = store.rules ∧
      ((store.setRules rules).pruneUnmatchedRules o).2.byIp.get = store.byIp.get) ↔
      store.Obeys (domainRuleEntries rules) := by
  set unruled := ((o.items store.byIp).filter fun row =>
    !DomainRouteStore.ruled (domainRuleEntries rules) row.2.pattern row.2.target).map Prod.fst
    with hunruled
  have hmem : ∀ ip, ip ∈ unruled ↔ ∃ e, store.byIp.get ip = some e ∧
      DomainRouteStore.ruled (domainRuleEntries rules) e.pattern e.target = false := by
    intro ip
    simp only [hunruled, List.mem_map, List.mem_filter, mem_order_items, Bool.not_eq_true',
      Prod.exists, exists_and_right, exists_eq_right]
  have hget : ∀ ip, ((store.setRules rules).pruneUnmatchedRules o).2.byIp.get ip =
      if ip ∈ unruled then none else store.byIp.get ip :=
    fun ip => DomainRouteStore.removeIps_get unruled ip (store.setRules rules)
  have hrules : ((store.setRules rules).pruneUnmatchedRules o).2.rules =
      domainRuleEntries rules :=
    (DomainRouteStore.removeIps_rest (store.setRules rules) unruled).1
  rw [hrules]
  apply and_congr_right
  intro _
  constructor
  · intro hsame ip e hentry
    by_contra hnot
    rw [Bool.not_eq_true] at hnot
    have hgone := hget ip
    rw [if_pos ((hmem ip).mpr ⟨e, hentry, hnot⟩), hsame, hentry] at hgone
    cases hgone
  · intro hruled
    funext ip
    rw [hget ip, if_neg]
    intro hin
    obtain ⟨e, hentry, hnot⟩ := (hmem ip).mp hin
    rw [hruled ip e hentry] at hnot
    cases hnot

theorem syncEngine_tables (w : DomainRouting) (at_ : Moment) :
    (w.syncEngine at_).engine.tables = w.engine.tables := by
  unfold DomainRouting.syncEngine
  split
  · exact tables_syncDomainStore _ _ _ _
  · rfl

theorem emitExpired_engine (entries : List ResolvedIpEntry) : ∀ w : DomainRouting,
    (entries.foldl DomainRouting.emitRouteExpired w).engine = w.engine := by
  induction entries with
  | nil => intro w; rfl
  | cons entry rest ih => intro w; exact ih (w.emitRouteExpired entry)

theorem rebuildRules_tables (w : DomainRouting) (at_ : Moment) (rules : List DomainRule) :
    (w.rebuildRules at_ rules).engine.tables = w.engine.tables := by
  unfold DomainRouting.rebuildRules
  dsimp only
  rw [syncEngine_tables, emitExpired_engine]

namespace RuleChange
variable (change : RuleChange)

theorem rebuild_rest (ctx : ServiceContext) : (change.rebuild ctx).config = ctx.config ∧
    (change.rebuild ctx).externalTunnel = ctx.externalTunnel ∧
    (change.rebuild ctx).domain.engine.tables = ctx.domain.engine.tables := by
  unfold rebuild
  cases change.rebuildAt with
  | none => exact ⟨rfl, rfl, rfl⟩
  | some at_ => exact ⟨rfl, rfl, rebuildRules_tables _ at_ _⟩

/-- The rebuild, if there is one, finds nothing to change. -/
def KeepsDomains (store : DomainRouteStore) : Prop :=
  change.rebuildAt = none ∨ store.Obeys (domainRuleEntries change.cfg.routing.domainRules)

theorem rebuild_store_iff (ctx : ServiceContext) :
    ((change.rebuild ctx).domain.store.rules = ctx.domain.store.rules ∧
      (change.rebuild ctx).domain.store.byIp.get = ctx.domain.store.byIp.get) ↔
      change.KeepsDomains ctx.domain.store := by
  unfold rebuild KeepsDomains
  cases change.rebuildAt with
  | none => exact iff_of_true ⟨rfl, rfl⟩ (Or.inl rfl)
  | some at_ =>
      have hstore := (ctx.domain.rebuildRules_effect at_ change.cfg.routing.domainRules).2.store
      have hsame := pruned_untouched_iff at_.order ctx.domain.store change.cfg.routing.domainRules
      simp only [reduceCtorEq, false_or, ← hsame, ServiceState.rebuildDomains, hstore]

section Failing
variable (env : Externals) (fromCidr : String → Except String IpNet)

def Succeeds (answers : ChangeAnswers) (s : ServiceState) : Prop :=
  answers.saved = .ok () ∧ ∃ engine, RoutingEngine.fromConfig env change.cfg = .ok engine ∧
    Applies env fromCidr answers.apply
      ((change.taken s).changed change.cfg engine change.rebuild)

/-- Whichever step fails, there is nothing it would have to take back. -/
def LeavesNothing (answers : ChangeAnswers) (s : ServiceState) : Prop :=
  (change.context = none ∨ change.context = s.ctx.externalTunnel) ∧
    match answers.saved, RoutingEngine.fromConfig env change.cfg with
    | .error _, _ => change.cfg = s.ctx.config
    | .ok _, .error _ => True
    | .ok _, .ok engine => change.KeepsDomains s.ctx.domain.store ∧
        match RoutingEngine.fromConfig env s.ctx.config with
        | .ok previous => previous.tables = s.ctx.domain.engine.tables
        | .error _ => engine.tables = s.ctx.domain.engine.tables

end Failing

theorem taken_external_iff (s : ServiceState) :
    (change.taken s).ctx.externalTunnel = s.ctx.externalTunnel ↔
      change.context = none ∨ change.context = s.ctx.externalTunnel := by
  have htaken : (change.taken s).ctx.externalTunnel = change.context.or s.ctx.externalTunnel := rfl
  rw [htaken]
  cases change.context <;> simp

end RuleChange

section Failed
variable (env : Externals) (fromCidr : String → Except String IpNet)

/-- The request is refused, succeeds, or fails with nothing to take back. -/
def ChangeRequest.FailsCleanly (request : ChangeRequest) (answers : ChangeAnswers)
    (s : ServiceState) : Prop :=
  match request.change env s.ctx.config with
  | .error _ => True
  | .ok change => change.Succeeds env fromCidr answers s ∨ change.LeavesNothing env answers s

variable {env fromCidr}

theorem restored_rest (previous : AppConfig) (s : ServiceState) :
    (s.restored env previous).ctx.config = previous ∧
      (s.restored env previous).ctx.domain.store = s.ctx.domain.store ∧
      (s.restored env previous).ctx.externalTunnel = s.ctx.externalTunnel := by
  rw [ServiceState.restored]
  cases RoutingEngine.fromConfig env previous <;> exact ⟨rfl, rfl, rfl⟩

/-- What a request that fails leaves of its change. -/
def RuleChange.Leaves (env : Externals) (change : RuleChange) (answers : ChangeAnswers)
    (s after : ServiceState) : Prop :=
  after.ctx.externalTunnel = (change.taken s).ctx.externalTunnel ∧
    match answers.saved, RoutingEngine.fromConfig env change.cfg with
    | .error _, _ => after.ctx.config = change.cfg ∧ after.ctx.domain = s.ctx.domain
    | .ok _, .error _ => after.ctx.config = s.ctx.config ∧ after.ctx.domain = s.ctx.domain
    | .ok _, .ok engine => after.ctx.config = s.ctx.config ∧
        ((after.ctx.domain.store.rules = s.ctx.domain.store.rules ∧
            after.ctx.domain.store.byIp.get = s.ctx.domain.store.byIp.get) ↔
          change.KeepsDomains s.ctx.domain.store) ∧
        after.ctx.domain.engine.tables =
          match RoutingEngine.fromConfig env s.ctx.config with
          | .ok previous => previous.tables
          | .error _ => engine.tables

theorem restored_leaves (change : RuleChange) {answers : ChangeAnswers} {engine : RoutingEngine}
    {s failed : ServiceState} (hsaved : answers.saved = .ok ())
    (hbuilt : RoutingEngine.fromConfig env change.cfg = .ok engine)
    (hsame : SameRules ((change.taken s).changed change.cfg engine change.rebuild) failed) :
    change.Leaves env answers s (failed.restored env s.ctx.config) := by
  let ctx := ((change.taken s).ctx.setConfig change.cfg).withEngine engine
  obtain ⟨_, hexternal, htables⟩ := change.rebuild_rest ctx
  have hstore := change.rebuild_store_iff ctx
  obtain ⟨hconfig, hrestored, hleft⟩ := @restored_rest env s.ctx.config failed
  rw [hsame.store] at hrestored
  simp only [RuleChange.Leaves, hsaved, hbuilt]
  refine ⟨hleft.trans (hsame.external.trans hexternal), hconfig, ?_, ?_⟩
  · rw [hrestored]
    exact hstore
  · rw [ServiceState.restored]
    cases RoutingEngine.fromConfig env s.ctx.config with
    | ok previous => rfl
    | error e =>
        have hfailed : failed.ctx.domain.engine.tables = engine.tables := by
          rw [hsame.engine]
          exact htables
        exact hfailed

/-- The answer of a request and the configuration it leaves: the new one after a success, and after
a failure what has not been taken back. -/
theorem change_outcome {request : ChangeRequest} {answers : ChangeAnswers} {s : ServiceState}
    {asked : RuleChange} (hasked : request.change env s.ctx.config = .ok asked) :
    let outcome := exec (request.program env fromCidr answers) s
    (asked.Succeeds env fromCidr answers s ∧ outcome.1 = .ok () ∧
        outcome.2.ctx.config = asked.cfg) ∨
      (¬asked.Succeeds env fromCidr answers s ∧ (∃ e, outcome.1 = .error e) ∧
        asked.Leaves env answers s outcome.2) := by
  rw [exec_change, hasked]
  dsimp only
  have hexit := changeRules_exit env fromCidr asked.cfg answers asked.rebuild (asked.taken s)
  revert hexit
  generalize exec (ServiceState.changeRules env fromCidr asked.cfg answers asked.rebuild)
    (asked.taken s) = outcome
  obtain ⟨answer, after⟩ := outcome
  intro hexit
  dsimp only at hexit ⊢
  cases hexit with
  | notSaved hsaved =>
      refine Or.inr ⟨?_, ⟨_, rfl⟩, ?_⟩
      · intro hsucceeds
        have hok := hsucceeds.1
        rw [hsaved] at hok
        cases hok
      · rw [RuleChange.Leaves, hsaved]
        exact ⟨rfl, rfl, rfl⟩
  | unbuildable hsaved hbuilt =>
      refine Or.inr ⟨?_, ⟨_, rfl⟩, ?_⟩
      · intro hsucceeds
        obtain ⟨_, engine, hengine, _⟩ := hsucceeds
        rw [hbuilt] at hengine
        cases hengine
      · rw [RuleChange.Leaves, hsaved, hbuilt]
        exact ⟨rfl, rfl, rfl⟩
  | @applied engine _ hsaved hbuilt hexec =>
      refine Or.inl ⟨⟨hsaved, engine, hbuilt, _, hexec⟩, rfl, ?_⟩
      obtain ⟨hconfig, _⟩ := asked.rebuild_rest
        (((asked.taken s).ctx.setConfig asked.cfg).withEngine engine)
      exact (sameRules_of_exec env fromCidr hexec).config.trans hconfig
  | rolledBack hsaved hbuilt hexec =>
      refine Or.inr ⟨?_, ⟨_, rfl⟩, ?_⟩
      · intro hsucceeds
        obtain ⟨_, engine, hengine, happlies⟩ := hsucceeds
        rw [hbuilt] at hengine
        cases hengine
        exact not_applies_of_exec env fromCidr hexec happlies
      · exact restored_leaves asked hsaved hbuilt (sameRules_of_exec env fromCidr hexec)

theorem change_config {request : ChangeRequest} {answers : ChangeAnswers} {s : ServiceState}
    {asked : RuleChange} (hasked : request.change env s.ctx.config = .ok asked) :
    let after := (exec (request.program env fromCidr answers) s).2
    (asked.Succeeds env fromCidr answers s ∧ after.ctx.config = asked.cfg) ∨
      (¬asked.Succeeds env fromCidr answers s ∧
        match answers.saved with
        | .error _ => after.ctx.config = asked.cfg
        | .ok _ => after.ctx.config = s.ctx.config) := by
  rcases @change_outcome env fromCidr _ answers s _ hasked with
    ⟨hsucceeds, _, hafter⟩ | ⟨hfails, _, hleaves⟩
  · exact Or.inl ⟨hsucceeds, hafter⟩
  · refine Or.inr ⟨hfails, ?_⟩
    have hleft := hleaves.2
    cases hsaved : answers.saved with
    | error e =>
        rw [hsaved] at hleft
        exact hleft.1
    | ok _ =>
        rw [hsaved] at hleft
        cases hbuilt : RoutingEngine.fromConfig env asked.cfg with
        | error e =>
            rw [hbuilt] at hleft
            exact hleft.1
        | ok engine =>
            rw [hbuilt] at hleft
            exact hleft.1

theorem RuleChange.Leaves.untouched_iff {change : RuleChange} {answers : ChangeAnswers}
    {s after : ServiceState} (h : change.Leaves env answers s after) :
    Untouched s after ↔ change.LeavesNothing env answers s := by
  obtain ⟨hexternal, hleft⟩ := h
  have huntouched : Untouched s after ↔ after.ctx.externalTunnel = s.ctx.externalTunnel ∧
      after.ctx.config = s.ctx.config ∧
      (after.ctx.domain.store.rules = s.ctx.domain.store.rules ∧
        after.ctx.domain.store.byIp.get = s.ctx.domain.store.byIp.get) ∧
      after.ctx.domain.engine.tables = s.ctx.domain.engine.tables :=
    ⟨fun h => ⟨h.external, h.config, ⟨h.rules, h.entries⟩, h.tables⟩,
      fun h => ⟨h.2.1, h.2.2.2, h.2.2.1.1, h.2.2.1.2, h.1⟩⟩
  rw [huntouched, hexternal, change.taken_external_iff s, RuleChange.LeavesNothing]
  cases hsaved : answers.saved with
  | error e =>
      rw [hsaved] at hleft
      simp only [hleft, and_self, and_true]
  | ok _ =>
      cases hbuilt : RoutingEngine.fromConfig env change.cfg with
      | error e =>
          rw [hsaved, hbuilt] at hleft
          simp only [hleft, and_self]
      | ok engine =>
          rw [hsaved, hbuilt] at hleft
          obtain ⟨hconfig, hstore, htables⟩ := hleft
          rw [hstore, htables]
          simp only [hconfig, true_and]
          cases RoutingEngine.fromConfig env s.ctx.config <;> rfl

/-- A request that fails leaves the configuration, the rules, the entries and the other program's
tunnel alone exactly where it has nothing to take back. -/
theorem failed_untouched_iff (request : ChangeRequest) (answers : ChangeAnswers)
    (s : ServiceState) :
    (∀ e, (exec (request.program env fromCidr answers) s).1 = .error e →
      Untouched s (exec (request.program env fromCidr answers) s).2) ↔
      request.FailsCleanly env fromCidr answers s := by
  rw [ChangeRequest.FailsCleanly]
  cases hasked : request.change env s.ctx.config with
  | error e =>
      rw [exec_change, hasked]
      exact iff_of_true (fun _ _ => ⟨rfl, rfl, rfl, rfl, rfl⟩) trivial
  | ok change =>
      dsimp only
      rcases @change_outcome env fromCidr _ answers s _ hasked with
        ⟨hsucceeds, hok, _⟩ | ⟨hfails, ⟨e, he⟩, hleaves⟩
      · refine iff_of_true (fun e he => ?_) (Or.inl hsucceeds)
        rw [hok] at he
        cases he
      · simp only [hfails, false_or, ← hleaves.untouched_iff]
        exact ⟨fun h => h e he, fun h _ _ => h⟩

end Failed

/-! ### A rule that stays behind -/

def midnight : Moment := { clock := ⟨0, 0⟩ }

def calmAnswers : ApplyAnswers where
  moment := midnight
  physicalIf _ := none
  confEndpoint _ := none
  driver := false
  driverConfig := .ok ()
  saveAppRules := .ok ()
  saveSnapshot := .ok ()

def plainService : ServiceState where
  ctx :=
    { config := {}
      domain :=
        { store := { generation := 1 }
          engine := ⟨⟨.fullTunnel, ⟨[], []⟩, ⟨[]⟩, ⟨[], ∅, ∅⟩⟩⟩
          routes := {} } }
  lock := { session := { engine := WfpEngine.empty } }

def addBrowser : ChangeRequest :=
  .addApp ⟨fun _ => true, fun _ => true⟩ (.ok ⟨"c:\\browser.exe", "exclude", none⟩)

def diskFull : ChangeAnswers := ⟨.error (.io "disk full"), calmAnswers⟩

/-- The rule that was refused stays in the configuration. -/
theorem addBrowser_touches :
    ¬∀ e, (exec (addBrowser.program .asciiIpv4 readCidr diskFull) plainService).1 = .error e →
      Untouched plainService
        (exec (addBrowser.program .asciiIpv4 readCidr diskFull) plainService).2 := by
  intro huntouched
  have hconfig := (huntouched ⟨-32000, "disk full"⟩ (by decide)).config
  exact absurd hconfig (by decide)

/-! ## Rules in step -/

section Sync
variable (env : Externals) (fromCidr : String → Except String IpNet)

/-- The engine has the rules that the configuration builds, the domain store those it lists. -/
structure InSync (s : ServiceState) : Prop where
  engine : s.ctx.config.tables env = .ok s.ctx.domain.engine.tables
  store : s.ctx.domain.store.rules = domainRuleEntries s.ctx.config.routing.domainRules

/-- The domain rules of both are the same to the domain store. -/
def AppConfig.SameDomains (cfg cfg' : AppConfig) : Prop :=
  domainRuleEntries cfg'.routing.domainRules = domainRuleEntries cfg.routing.domainRules

/-- A new configuration that reaches the engine has to build one, and its domain rules must be the
old ones where nothing hands them to the store. -/
def RuleRequest.KeepsSync (s : ServiceState) : RuleRequest → Prop
  | .change request answers =>
      match request.change env s.ctx.config with
      | .error _ => True
      | .ok asked =>
          match answers.saved, RoutingEngine.fromConfig env asked.cfg with
          | .error _, _ => asked.cfg.tables env = s.ctx.config.tables env
          | .ok _, .error _ => True
          | .ok _, .ok engine => s.ctx.config.SameDomains asked.cfg ∨
              Applies env fromCidr answers.apply
                ((asked.taken s).changed asked.cfg engine asked.rebuild)
  | .configSet toml answers =>
      ∀ cfg ∈ toml.bind Except.toOption,
        match answers.saved with
        | .error _ => cfg.tables env = s.ctx.config.tables env
        | .ok _ => (∃ engine, RoutingEngine.fromConfig env cfg = .ok engine) ∧
            s.ctx.config.SameDomains cfg
  | .reload load _ =>
      ∀ cfg ∈ load.toOption, (∃ engine, RoutingEngine.fromConfig env cfg = .ok engine) ∧
        s.ctx.config.SameDomains cfg

end Sync

section InSyncSteps
variable {env : Externals} {fromCidr : String → Except String IpNet}

theorem sameDomains_of_tables {cfg cfg' : AppConfig} {tables : RuleTables}
    (h : cfg.tables env = .ok tables) (h' : cfg'.tables env = .ok tables) :
    cfg.SameDomains cfg' := by
  have hread : ∀ c : AppConfig, c.tables env = .ok tables →
      domainRuleEntries c.routing.domainRules = tables.domainRules := by
    intro c hc
    cases hbuilt : RoutingEngine.fromConfig env c with
    | error e =>
        rw [tables_unbuilt hbuilt] at hc
        cases hc
    | ok engine =>
        rw [tables_of_built hbuilt, Except.ok.injEq] at hc
        rw [← hc]
        exact (RoutingEngine.fromConfig_builtFrom hbuilt).domainRules.symm
  exact (hread cfg' h').trans (hread cfg h).symm

theorem exists_built {s : ServiceState} (h : InSync env s) :
    ∃ engine, RoutingEngine.fromConfig env s.ctx.config = .ok engine := by
  cases hbuilt : RoutingEngine.fromConfig env s.ctx.config with
  | error e =>
      have htables := h.engine
      rw [tables_unbuilt hbuilt] at htables
      cases htables
  | ok engine => exact ⟨engine, rfl⟩

/-- A configuration alone changes: its tables have to be those of the old one. -/
theorem inSync_config_iff {s s' : ServiceState} (h : InSync env s)
    (hengine : s'.ctx.domain.engine = s.ctx.domain.engine)
    (hstore : s'.ctx.domain.store = s.ctx.domain.store) :
    InSync env s' ↔ s'.ctx.config.tables env = s.ctx.config.tables env := by
  constructor
  · intro h'
    rw [h.engine, ← hengine]
    exact h'.engine
  · intro htables
    constructor
    · rw [htables, hengine]
      exact h.engine
    · rw [hstore, h.store]
      exact (sameDomains_of_tables h.engine (htables.trans h.engine)).symm

theorem inSync_built_iff {s : ServiceState} {cfg : AppConfig} {engine : RoutingEngine}
    (hconfig : s.ctx.config = cfg) (hbuilt : RoutingEngine.fromConfig env cfg = .ok engine)
    (htables : s.ctx.domain.engine.tables = engine.tables) :
    InSync env s ↔ s.ctx.domain.store.rules = domainRuleEntries cfg.routing.domainRules := by
  subst hconfig
  refine ⟨InSync.store, fun hstore => ⟨?_, hstore⟩⟩
  rw [tables_of_built hbuilt, htables]

section AppRules
variable {paths : PathAnswers} {cfg : AppConfig} {row : AppRule × AppConfig}

theorem addAppChange_ok {params : Except String AddAppRuleParams}
    (h : addAppChange env paths cfg params = .ok row) :
    ∃ rules, row.2 = cfg.withAppRules rules := by
  unfold addAppChange at h
  split at h
  · cases h
  · dsimp only at h
    split at h
    · cases h
    · exact ⟨_, addAppRule_ok (ok_of_mapError h)⟩

theorem removeAppChange_ok {params : Except String String}
    (h : removeAppChange env cfg params = .ok row) : ∃ rules, row.2 = cfg.withAppRules rules := by
  unfold removeAppChange at h
  split at h
  · cases h
  · exact ⟨_, (removeAppRule_ok (ok_of_mapError h)).2⟩

end AppRules

/-- Only an import rebuilds the domain rules, and nothing else changes them. -/
theorem change_domains {request : ChangeRequest} {cfg : AppConfig} {change : RuleChange}
    (h : request.change env cfg = .ok change) :
    change.rebuildAt ≠ none ∨ cfg.SameDomains change.cfg := by
  have hrules : ∀ {row : AppRule × AppConfig}, (∃ rules, row.2 = cfg.withAppRules rules) →
      cfg.SameDomains row.2 := by
    intro row hrow
    obtain ⟨rules, hrow⟩ := hrow
    rw [hrow]
    rfl
  cases request with
  | addApp paths params =>
      obtain ⟨row, hadd, rfl⟩ := ok_of_map h
      exact Or.inr (hrules (addAppChange_ok hadd))
  | removeApp params =>
      obtain ⟨row, hremove, rfl⟩ := ok_of_map h
      exact Or.inr (hrules (removeAppChange_ok hremove))
  | importRules params rebuildAt =>
      cases params with
      | error e => cases h
      | ok p =>
          cases h
          exact Or.inl (Option.some_ne_none _)

theorem inSync_congr {s s' : ServiceState} (h : SameRules s s') : InSync env s' ↔ InSync env s := by
  constructor
  · intro h'
    exact ⟨by rw [← h.config, ← h.engine]; exact h'.engine,
      by rw [← h.config, ← h.store]; exact h'.store⟩
  · intro h'
    exact ⟨by rw [h.config, h.engine]; exact h'.engine,
      by rw [h.config, h.store]; exact h'.store⟩

/-- A configuration and its engine, where it builds one, are taken on together. -/
theorem inSync_installed_iff {s after : ServiceState} (h : InSync env s) (cfg : AppConfig)
    (hsame : SameRules (s.restored env cfg) after) :
    InSync env after ↔ (∃ engine, RoutingEngine.fromConfig env cfg = .ok engine) ∧
      s.ctx.config.SameDomains cfg := by
  obtain ⟨hconfig, hstore, _⟩ := @restored_rest env cfg s
  have hrules : (s.restored env cfg).ctx.domain.store.rules =
      domainRuleEntries s.ctx.config.routing.domainRules := by
    rw [hstore]
    exact h.store
  rw [inSync_congr hsame]
  cases hbuilt : RoutingEngine.fromConfig env cfg with
  | error e =>
      refine iff_of_false (fun h' => ?_) (fun h' => ?_)
      · have htables := h'.engine
        rw [hconfig, tables_unbuilt hbuilt] at htables
        cases htables
      · obtain ⟨⟨engine, hengine⟩, _⟩ := h'
        cases hengine
  | ok engine =>
      have hleft : (s.restored env cfg).ctx.domain.engine = engine := by
        rw [ServiceState.restored, hbuilt]
        rfl
      rw [inSync_built_iff hconfig hbuilt (congrArg RoutingEngine.tables hleft), hrules]
      exact ⟨fun heq => ⟨⟨engine, rfl⟩, heq.symm⟩, fun h' => h'.2.symm⟩

theorem changed_rules {s : ServiceState} (h : InSync env s) {request : ChangeRequest}
    {asked : RuleChange} (hasked : request.change env s.ctx.config = .ok asked)
    (engine : RoutingEngine) :
    ((asked.taken s).changed asked.cfg engine asked.rebuild).ctx.domain.store.rules =
      domainRuleEntries asked.cfg.routing.domainRules := by
  have hdomains := change_domains hasked
  simp only [ServiceState.changed, RuleChange.rebuild]
  cases hrebuild : asked.rebuildAt with
  | none =>
      rw [hrebuild] at hdomains
      rcases hdomains with hnone | hsame
      · exact absurd rfl hnone
      · exact h.store.trans hsame.symm
  | some at_ =>
      have hstore := (DomainRouting.rebuildRules_effect
        (w := (((asked.taken s).ctx.setConfig asked.cfg).withEngine engine).domain) at_
        asked.cfg.routing.domainRules).2.store
      dsimp only [ServiceState.rebuildDomains]
      rw [hstore]
      exact (DomainRouteStore.removeIps_rest _ _).1

theorem change_inSync_iff {s : ServiceState} (h : InSync env s) (request : ChangeRequest)
    (answers : ChangeAnswers) :
    InSync env (exec (request.program env fromCidr answers) s).2 ↔
      RuleRequest.KeepsSync env fromCidr s (.change request answers) := by
  rw [exec_change, RuleRequest.KeepsSync]
  cases hasked : request.change env s.ctx.config with
  | error e => exact iff_of_true h trivial
  | ok asked =>
      dsimp only
      have htaken : InSync env (asked.taken s) := ⟨h.engine, h.store⟩
      have hexit := changeRules_exit env fromCidr asked.cfg answers asked.rebuild (asked.taken s)
      have hrules := changed_rules h hasked
      revert hexit
      generalize (exec (ServiceState.changeRules env fromCidr asked.cfg answers asked.rebuild)
        (asked.taken s)).1 = response
      generalize (exec (ServiceState.changeRules env fromCidr asked.cfg answers asked.rebuild)
        (asked.taken s)).2 = after
      intro hexit
      cases hexit with
      | notSaved hsaved =>
          simp only [hsaved]
          exact inSync_config_iff h rfl rfl
      | unbuildable hsaved hbuilt =>
          simp only [hsaved, hbuilt]
          exact iff_of_true htaken trivial
      | @applied engine _ hsaved hbuilt hexec =>
          simp only [hsaved, hbuilt]
          refine iff_of_true ?_ (Or.inr ⟨_, hexec⟩)
          obtain ⟨hconfig, _, htables⟩ := asked.rebuild_rest
            (((asked.taken s).ctx.setConfig asked.cfg).withEngine engine)
          rw [inSync_congr (sameRules_of_exec env fromCidr hexec),
            inSync_built_iff hconfig hbuilt htables]
          exact hrules engine
      | @rolledBack engine _ failed hsaved hbuilt hexec =>
          have hsame := sameRules_of_exec env fromCidr hexec
          have hfails := not_applies_of_exec env fromCidr hexec
          obtain ⟨previous, hprevious⟩ := exists_built h
          obtain ⟨hconfig, hstore, _⟩ := @restored_rest env s.ctx.config failed
          have hengine : (failed.restored env s.ctx.config).ctx.domain.engine = previous := by
            rw [ServiceState.restored, hprevious]
            rfl
          simp only [hsaved, hbuilt, hfails, or_false]
          exact (inSync_built_iff hconfig hprevious (congrArg RoutingEngine.tables hengine)).trans
            (by rw [hstore, hsame.store, hrules engine]; rfl)

/-- A configuration that cannot be saved is in force all the same. -/
theorem exec_configSet (cfg : AppConfig) (answers : ChangeAnswers) (s : ServiceState) :
    exec (ServiceState.handleConfigSet env fromCidr (some (.ok cfg)) answers) s =
      match answers.saved with
      | .error e => (.error ⟨-32000, e.toString⟩, { s with ctx := s.ctx.setConfig cfg })
      | .ok _ => exec (orReply (applySplitPolicy env fromCidr answers.apply))
          (s.restored env cfg) := by
  obtain ⟨saved, apply⟩ := answers
  cases saved with
  | error e => rfl
  | ok _ => rfl

theorem configSet_inSync_iff {s : ServiceState} (h : InSync env s)
    (toml : Option (Except RouteGuardError AppConfig)) (answers : ChangeAnswers) :
    InSync env (exec (ServiceState.handleConfigSet env fromCidr toml answers) s).2 ↔
      RuleRequest.KeepsSync env fromCidr s (.configSet toml answers) := by
  have hrefused : ∀ toml : Option (Except RouteGuardError AppConfig),
      toml.bind Except.toOption = none →
        RuleRequest.KeepsSync env fromCidr s (.configSet toml answers) := by
    intro toml hnone cfg hmem
    rw [hnone] at hmem
    cases hmem
  match toml with
  | none => exact iff_of_true h (hrefused none rfl)
  | some (.error e) => exact iff_of_true h (hrefused (some (.error e)) rfl)
  | some (.ok cfg) =>
      have hguard : RuleRequest.KeepsSync env fromCidr s (.configSet (some (.ok cfg)) answers) ↔
          match answers.saved with
          | .error _ => cfg.tables env = s.ctx.config.tables env
          | .ok _ => (∃ engine, RoutingEngine.fromConfig env cfg = .ok engine) ∧
              s.ctx.config.SameDomains cfg := by
        refine ⟨fun hall => hall cfg rfl, fun hcase cfg' hmem => ?_⟩
        cases hmem
        exact hcase
      rw [hguard, exec_configSet]
      cases answers.saved with
      | error e => exact inSync_config_iff h rfl rfl
      | ok _ =>
          exact inSync_installed_iff h cfg (applySplitPolicy_sameRules (s.restored env cfg) env
            fromCidr answers.apply _ (SameRules.refl _))

/-- A reload whose configuration builds no engine has changed the configuration all the same. -/
theorem exec_reload (cfg : AppConfig) (answers : ApplyAnswers) (s : ServiceState) :
    exec (ServiceState.reloadRoutingFromDisk env fromCidr (.ok cfg) answers) s =
      match RoutingEngine.fromConfig env cfg with
      | .error e => (.error (.routing e), { s with ctx := s.ctx.setConfig cfg })
      | .ok _ => exec (applySplitPolicy env fromCidr answers) (s.restored env cfg) := by
  have hset : exec (onCtx (modify (ServiceContext.setConfig cfg)) :
      StateProg RouteGuardError PUnit) s = (.ok ⟨⟩, { s with ctx := s.ctx.setConfig cfg }) := rfl
  rw [ServiceState.reloadRoutingFromDisk, exec_bind_ok (exec_fromResult _ s), exec_bind_ok hset,
    ServiceState.restored]
  cases RoutingEngine.fromConfig env cfg with
  | error e => rfl
  | ok engine => rfl

theorem reload_inSync_iff {s : ServiceState} (h : InSync env s)
    (load : Except RouteGuardError AppConfig) (answers : ApplyAnswers) :
    InSync env (exec (ServiceState.handleRoutingReload env fromCidr load answers) s).2 ↔
      RuleRequest.KeepsSync env fromCidr s (.reload load answers) := by
  cases load with
  | error e =>
      refine iff_of_true h ?_
      intro cfg hmem
      cases hmem
  | ok cfg =>
      have hguard : RuleRequest.KeepsSync env fromCidr s (.reload (.ok cfg) answers) ↔
          (∃ engine, RoutingEngine.fromConfig env cfg = .ok engine) ∧
            s.ctx.config.SameDomains cfg := by
        refine ⟨fun hall => hall cfg rfl, fun hcase cfg' hmem => ?_⟩
        cases hmem
        exact hcase
      rw [hguard, ServiceState.handleRoutingReload, orReply, exec_mapError, exec_reload]
      cases hbuilt : RoutingEngine.fromConfig env cfg with
      | error e =>
          refine iff_of_false (fun h' => ?_) (fun h' => ?_)
          · have htables := h'.engine
            have hunbuilt : cfg.tables env = .error e := tables_unbuilt hbuilt
            rw [show AppConfig.tables env (s.ctx.setConfig cfg).config = .error e from hunbuilt]
              at htables
            cases htables
          · obtain ⟨⟨engine, hengine⟩, _⟩ := h'
            cases hengine
      | ok engine =>
          have hinstalled := inSync_installed_iff h cfg (applySplitPolicy_sameRules
            (s.restored env cfg) env fromCidr answers _ (SameRules.refl _))
          rw [hbuilt] at hinstalled
          exact hinstalled

/-- The rules are in step after a request exactly where it keeps them so. -/
theorem program_inSync_iff {s : ServiceState} (h : InSync env s) (request : RuleRequest) :
    InSync env (exec (request.program env fromCidr) s).2 ↔ request.KeepsSync env fromCidr s := by
  cases request with
  | change request answers => exact change_inSync_iff h request answers
  | configSet toml answers => exact configSet_inSync_iff h toml answers
  | reload load answers => exact reload_inSync_iff h load answers

end InSyncSteps

/-! ### Runs -/

section SyncRuns
variable {env : Externals} {fromCidr : String → Except String IpNet}

/-- A service starts with its rules in step. -/
theorem new_inSync {at_ : Moment} {config : AppConfig} {loaded : Option DomainRouteStore} {os : Os}
    {lock : LockContext} {driver : Bool} {s : ServiceState}
    (h : ServiceState.new env at_ config loaded os lock driver = .ok s) : InSync env s := by
  obtain ⟨engine, store, domain, hbuilt, rfl, hdomain⟩ := ServiceState.new_cases h
  have htables : domain.engine.tables = engine.tables := by
    rcases hdomain with ⟨_, -, -, rfl⟩ | ⟨-, rfl⟩
    · rfl
    · exact syncEngine_tables _ at_
  refine (inSync_built_iff rfl hbuilt ((rebuildRules_tables _ _ _).trans htables)).mpr ?_
  have hstore := (domain.rebuildRules_effect at_ config.routing.domainRules).2.store
  dsimp only
  rw [hstore]
  exact (DomainRouteStore.removeIps_rest _ _).1

variable (env fromCidr) in
/-- The request keeps the rules in step, with the failures it faces. -/
def ServiceState.KeepsSync (s : ServiceState) (facing : Facing RuleRequest) : Prop :=
  facing.request.KeepsSync env fromCidr (s.facing facing.faults facing.saveFault)

/-- After every request of a run the three copies of the rules agree exactly where every request
keeps them in step. -/
theorem run_inSync_iff {at_ : Moment} {config : AppConfig} {loaded : Option DomainRouteStore}
    {os : Os} {lock : LockContext} {driver : Bool} {s : ServiceState}
    (h : ServiceState.new env at_ config loaded os lock driver = .ok s)
    (requests : List (Facing RuleRequest)) :
    (∀ first, first <+: requests →
      InSync env (run (ServiceState.serveRules env fromCidr) s first)) ↔
      Guarded (ServiceState.serveRules env fromCidr) (ServiceState.KeepsSync env fromCidr) s
        requests := by
  apply holds_throughout_iff (Q := fun _ => True) _ _ (fun _ _ _ => trivial) _ requests s trivial
    (new_inSync h)
  intro s facing _ hs
  exact program_inSync_iff (s := s.facing facing.faults facing.saveFault)
    ⟨hs.engine, hs.store⟩ facing.request

end SyncRuns

/-! ### Rules out of step -/

theorem plainService_new : ServiceState.new .asciiIpv4 midnight {} none {}
    { session := { engine := WfpEngine.empty } } false = .ok plainService := rfl

theorem run_inSync_iff_plain :
    (∀ first, first <+: [⟨.change addBrowser diskFull, [], none⟩] →
      InSync .asciiIpv4 (run (ServiceState.serveRules .asciiIpv4 readCidr) plainService first)) ↔
      Guarded (ServiceState.serveRules .asciiIpv4 readCidr)
        (ServiceState.KeepsSync .asciiIpv4 readCidr) plainService
        [⟨.change addBrowser diskFull, [], none⟩] :=
  run_inSync_iff plainService_new _

def setDomainRule : RuleRequest :=
  .configSet (some (.ok { routing := { domainRules := [⟨10, "*.example.com", .bypass⟩] } }))
    ⟨.ok (), calmAnswers⟩

/-- The domain store does not learn of it. -/
theorem setDomainRule_separates : ServiceState.new .asciiIpv4 midnight {} none {}
      { session := { engine := WfpEngine.empty } } false = .ok plainService ∧
    (exec (setDomainRule.program .asciiIpv4 readCidr) plainService).1 = .ok () ∧
    ¬InSync .asciiIpv4 (run (ServiceState.serveRules .asciiIpv4 readCidr) plainService
      [⟨setDomainRule, [], none⟩]) := by
  refine ⟨rfl, by decide, fun hsync => ?_⟩
  exact absurd hsync.store (by decide)

end RouteGuard
