import RouteGuard.Routing.RuleOps
import RouteGuard.Service.Connect
import RouteGuard.Service.SplitWfp
import RouteGuard.Wfp.DnsRedirect

/-! # The requests of the service

The handlers of `handler.rs` that change the configuration, the rules or the
filters, over the whole state they share.  The server handles one request at a
time.  Results of saves that a handler drops are not asked for. -/
set_option autoImplicit false
namespace RouteGuard

open HashTable Fallible

/-! ## State -/

structure DnsCalloutManager where
  filterIds : List Nat := []
  kernelActive : Bool := false
  driverPresent : Bool := false
deriving DecidableEq, Repr

/-- The service with its WFP session; `wfp_filter_ids` stands in the session routes of `ctx`. -/
structure ServiceState where
  ctx : ServiceContext
  lock : LockContext
  dnsCallout : DnsCalloutManager := {}

abbrev StateProg (E A : Type) := Prog ServiceState E A

def ServiceContext.withFilterIds (ids : List Nat) (ctx : ServiceContext) : ServiceContext :=
  let routes := ctx.domain.routes
  { ctx with domain := { ctx.domain with
      routes := { routes with session := { routes.session with wfpFilterIds := ids } } } }

namespace ServiceState

def filterIds (s : ServiceState) : List Nat := s.ctx.domain.routes.session.wfpFilterIds

def filters (s : ServiceState) : FilterState := ⟨s.lock, s.filterIds⟩

def withFilters (filters : FilterState) (s : ServiceState) : ServiceState :=
  { s with lock := filters.lock, ctx := s.ctx.withFilterIds filters.wfpFilterIds }

def facing (faults : List (Option String)) (saveFault : Option RouteGuardError)
    (s : ServiceState) : ServiceState :=
  { s with lock := s.lock.facing faults saveFault }

end ServiceState

section Parts
variable {E A : Type}

def onCtx (m : ServiceProg E A) : StateProg E A :=
  zoom ServiceState.ctx (fun ctx s => { s with ctx := ctx }) m

def onFilters (m : FilterProg A) : StateProg RouteGuardError A :=
  zoom ServiceState.filters ServiceState.withFilters m

def onWfp (m : SessionProg A) : StateProg RouteGuardError A :=
  onFilters (FilterState.onLock (onSession m))

/-- `IpcResponse::err(id, -32000, e.to_string())` -/
def orReply (m : StateProg RouteGuardError A) : StateProg IpcError A :=
  mapError (fun e => ⟨-32000, e.toString⟩) m

end Parts

/-! ## Applying the policy -/

/-- What applying the policy meets outside the service. -/
structure ApplyAnswers where
  moment : Moment
  physicalIf : Nat → Option Nat
  confEndpoint : String → Option (Option String)
  /-- `driver_io::probe_driver` -/
  driver : Bool
  /-- `driver_io::set_config` -/
  driverConfig : Except RouteGuardError Unit
  /-- `save_app_rules_state` -/
  saveAppRules : Except RouteGuardError Unit
  /-- `save_session_snapshot` -/
  saveSnapshot : Except RouteGuardError Unit

/-- The answers that `apply_full_policy` of one connection reads; the filters come after it. -/
def ApplyAnswers.routes (env : Externals) (answers : ApplyAnswers) : PolicyAnswers where
  env := env
  moment := answers.moment
  physicalIf := answers.physicalIf
  confEndpoint := answers.confEndpoint
  filters := .ok ()

/-- `listen.split(':').nth(1).and_then(|p| p.parse().ok()).unwrap_or(5353)` -/
def proxyPort (listen : String) : UInt16 :=
  match (listen.toList.splitOn ':')[1]? with
  | none => 5353
  | some text =>
      let digits := (readGivenChar '+' text).getD text
      match readNumber 10 none true 65536 digits with
      | some (port, []) => UInt16.ofNat port
      | _ => 5353

section Apply
variable (env : Externals) (fromCidr : String → Except String IpNet) (answers : ApplyAnswers)

/-- The driver's part of `DnsCalloutManager::install`. -/
def startKernelRedirect (requireKernel : Bool) : StateProg RouteGuardError Unit := do
  modify fun s => { s with dnsCallout := { s.dnsCallout with driverPresent := answers.driver } }
  if requireKernel && !answers.driver then
    throw (.platform "kernel_redirect requires routeguard-callout.sys")
  else if answers.driver then
    match answers.driverConfig with
    | .error e => if requireKernel then throw e else pure ()
    | .ok _ => modify fun s => { s with dnsCallout := { s.dnsCallout with kernelActive := true } }
  else pure ()

def installDnsCallout (port : UInt16) (requireKernel : Bool) : StateProg RouteGuardError Unit := do
  startKernelRedirect answers requireKernel
  let previous := (← get).dnsCallout.filterIds
  onWfp (removeDnsRedirectFilters previous)
  let ids ← onWfp (installDnsRedirectFilters fromCidr port)
  modify fun s => { s with dnsCallout := { s.dnsCallout with filterIds := ids } }

def removeDnsCallout : StateProg RouteGuardError Unit := do
  let previous := (← get).dnsCallout.filterIds
  onWfp (removeDnsRedirectFilters previous)
  modify fun s =>
    { s with dnsCallout := { s.dnsCallout with filterIds := [], kernelActive := false } }

def AppConfig.wantsDnsRedirect (cfg : AppConfig) : Bool :=
  let dns := cfg.routing.domainDns
  dns.enabled && !cfg.routing.domainRules.isEmpty && (dns.redirectPort53 || dns.kernelRedirect)

def applyDomainDnsWfp : StateProg RouteGuardError Unit := do
  let cfg := (← get).ctx.config
  let dns := cfg.routing.domainDns
  if cfg.wantsDnsRedirect then
    match ← caught (installDnsCallout fromCidr answers (proxyPort dns.listen)
        dns.kernelRedirect) with
    | .error e => if dns.kernelRedirect then throw e else pure ()
    | .ok _ => pure ()
  else do
    let _ ← caught removeDnsCallout
    pure ()

/-- The cached policy is the one that `apply_split_policy` has just built. -/
def applyFilters : StateProg RouteGuardError Unit := do
  applyDomainDnsWfp fromCidr answers
  let ctx := (← get).ctx
  match ctx.domain.cachedPolicy with
  | none => pure ()
  | some policy => onFilters (applySplitWfp fromCidr
      ⟨policy, ctx.config.networkLock.enabled, answers.saveAppRules, answers.saveSnapshot⟩)

def applySplitPolicy : StateProg RouteGuardError Unit := do
  onCtx (applyFullPolicy (answers.routes env))
  applyFilters fromCidr answers

end Apply

/-! ## Connections -/

namespace ServiceState

section Connections
variable (env : Externals) (fromCidr : String → Except String IpNet)

/-- The filters are the last step of the policy that the request applies. -/
def handleConnect (req : ConnectRequest) (answers : ApplyAnswers) :
    StateProg IpcError ConnectResult := do
  let result ← onCtx (RouteGuard.handleConnect { req with policy := answers.routes env })
  orReply (applyFilters fromCidr answers)
  pure result

/-- The lock and the split filters go first, whatever becomes of the tunnel. -/
def handleDisconnect (req : DisconnectRequest) : StateProg IpcError Unit := do
  let _ ← caught (onFilters (FilterState.onLock NetworkLock.disable))
  let previous := (← get).filterIds
  let _ ← caught (onWfp (applySplitTunnel fromCidr {} previous))
  onCtx (RouteGuard.handleDisconnect req)

def recover (req : ConnectRequest) (answers : ApplyAnswers) (attempt : Nat)
    (active : ActiveConnectSession) : StateProg String Unit := do
  match (← get).ctx.activeSession with
  | none => pure ()
  | some _ =>
      match ← caught (onCtx (restartTransport req active)) with
      | .ok newActive => do
          onCtx (modify (ServiceContext.publish
            (.transportRecoveryResult active.transportSession.kind attempt true none)))
          onCtx (modify (ServiceContext.publish
            (transportConnected newActive.tunnelName newActive.transportSession)))
          onCtx (modify fun ctx => { ctx with activeSession := some newActive })
          let _ ← caught (applySplitPolicy env fromCidr answers)
          pure ()
      | .error reason => do
          onCtx (modify (ServiceContext.publish
            (.transportRecoveryResult active.transportSession.kind attempt false (some reason))))
          onCtx (modify (ServiceContext.publish (.transportFailed active.tunnelName
            active.transportSession.kind reason (decide (attempt < 3)))))

end Connections

/-! ## The network lock -/

section NetworkLocks
variable (env : Externals) (fromCidr : String → Except String IpNet)

/-- `cfg.network_lock.enabled = on`, set in memory. -/
def switchLock (on : Bool) : StateProg IpcError Unit :=
  onCtx (modify fun ctx => ServiceContext.setConfig
    { ctx.config with networkLock := { ctx.config.networkLock with enabled := on } } ctx)

def handleNlEnable (answers : ApplyAnswers) : StateProg IpcError Unit := do
  switchLock true
  orReply (applySplitPolicy env fromCidr answers)

def handleNlDisable : StateProg IpcError Unit := do
  switchLock false
  orReply (onFilters (FilterState.onLock NetworkLock.disable))

end NetworkLocks

end ServiceState

/-! ## Configurations -/

def ServiceContext.withEngine (engine : RoutingEngine) (ctx : ServiceContext) : ServiceContext :=
  { ctx with domain := { ctx.domain with engine := engine } }

/-- `*self.routing.write().await = engine` where the configuration builds one. -/
def ServiceContext.withBuilt (built : Except String RoutingEngine) (ctx : ServiceContext) :
    ServiceContext :=
  match built with
  | .ok engine => ctx.withEngine engine
  | .error _ => ctx

structure ChangeAnswers where
  /-- `save_config` -/
  saved : Except RouteGuardError Unit
  apply : ApplyAnswers

namespace ServiceState

section Configurations
variable (env : Externals) (fromCidr : String → Except String IpNet)

/-- The configuration changes before the file is written. -/
def setConfig (cfg : AppConfig) (saved : Except RouteGuardError Unit) :
    StateProg RouteGuardError Unit := do
  onCtx (modify (ServiceContext.setConfig cfg))
  fromResult saved

/-- `toml` is the field of that name and what `AppConfig::from_toml` makes of it. -/
def handleConfigSet (toml : Option (Except RouteGuardError AppConfig)) (answers : ChangeAnswers) :
    StateProg IpcError Unit := do
  match toml with
  | none => throw ⟨-32602, "missing toml field"⟩
  | some (.error e) => throw ⟨-32602, e.toString⟩
  | some (.ok cfg) => do
      orReply (setConfig cfg answers.saved)
      onCtx (modify (ServiceContext.withBuilt (RoutingEngine.fromConfig env cfg)))
      orReply (applySplitPolicy env fromCidr answers.apply)

/-- `load` is the configuration read from the file. -/
def reloadRoutingFromDisk (load : Except RouteGuardError AppConfig) (answers : ApplyAnswers) :
    StateProg RouteGuardError Unit := do
  let cfg ← fromResult load
  onCtx (modify (ServiceContext.setConfig cfg))
  let engine ← fromResult ((RoutingEngine.fromConfig env cfg).mapError RouteGuardError.routing)
  onCtx (modify (ServiceContext.withEngine engine))
  applySplitPolicy env fromCidr answers

def handleRoutingReload (load : Except RouteGuardError AppConfig) (answers : ApplyAnswers) :
    StateProg IpcError Unit :=
  orReply (reloadRoutingFromDisk env fromCidr load answers)

end Configurations

end ServiceState

/-! ## Rules -/

structure AddAppRuleParams where
  path : String
  mode : String
  priority : Option Nat
deriving DecidableEq, Repr

structure ImportAppRule where
  path : String
  mode : String
  priority : Option Nat
  enabled : Bool
deriving DecidableEq, Repr

structure ImportIpRule where
  cidr : String
  target : String
  priority : Option Nat
  enabled : Bool
deriving DecidableEq, Repr

structure ImportDomainRule where
  pattern : String
  target : String
  priority : Option Nat
  enabled : Bool
deriving DecidableEq, Repr

structure ImportRulesParams where
  clear : Bool := false
  mode : String := "full_tunnel"
  appRules : List ImportAppRule := []
  ipRules : List ImportIpRule := []
  domainRules : List ImportDomainRule := []
  tunnelContext : Option TunnelContextParams := none
deriving DecidableEq, Repr

structure ImportResult where
  appRules : Nat
  ipRules : Nat
  domainRules : Nat
  domainRoutes : Nat
deriving DecidableEq, Repr

def ImportAppRule.rule? (r : ImportAppRule) : Option AppRule :=
  (parseRuleMode r.mode).toOption.map fun mode => ⟨r.priority.getD 100, mode, r.path⟩

def ImportIpRule.rule? (r : ImportIpRule) : Option IpRule :=
  (parseRouteTarget r.target).toOption.map fun target => ⟨r.priority.getD 100, r.cidr, target⟩

def ImportDomainRule.rule? (r : ImportDomainRule) : Option DomainRule :=
  (parseRouteTarget r.target).toOption.map fun target => ⟨r.priority.getD 100, r.pattern, target⟩

/-- A rule that is switched off or cannot be read is left out without a word. -/
def ImportRulesParams.routing (p : ImportRulesParams) (routing : RoutingConfig) : RoutingConfig :=
  if p.clear then {}
  else
    { routing with
      mode := if toAsciiLowercase p.mode = "split_include" then .splitInclude else .fullTunnel
      appRules := (p.appRules.filter ImportAppRule.enabled).filterMap ImportAppRule.rule?
      ipRules := (p.ipRules.filter ImportIpRule.enabled).filterMap ImportIpRule.rule?
      domainRules :=
        (p.domainRules.filter ImportDomainRule.enabled).filterMap ImportDomainRule.rule? }

def AppConfig.importing (p : ImportRulesParams) (cfg : AppConfig) : AppConfig :=
  { cfg with routing := p.routing cfg.routing }

/-- The rule and the configuration that a request to add it asks for. -/
def addAppChange (env : Externals) (paths : PathAnswers) (cfg : AppConfig)
    (params : Except String AddAppRuleParams) : Except IpcError (AppRule × AppConfig) :=
  match params with
  | .error e => .error ⟨-32602, e⟩
  | .ok p =>
      match parseRuleMode p.mode with
      | .error e => .error ⟨-32602, e.toString⟩
      | .ok mode =>
          let priority := p.priority.getD (defaultPriorityForMode cfg mode)
          (addAppRule env paths cfg ⟨p.path, mode, priority⟩).mapError fun e => ⟨-32602, e⟩

def removeAppChange (env : Externals) (cfg : AppConfig) (params : Except String String) :
    Except IpcError (AppRule × AppConfig) :=
  match params with
  | .error e => .error ⟨-32602, e⟩
  | .ok path => (removeAppRule env cfg path).mapError fun e => ⟨-32602, e⟩

namespace ServiceState

section RuleHandlers
variable (env : Externals) (fromCidr : String → Except String IpNet)

/-- The way back after the policy could not be applied. -/
def rollback (previous : AppConfig) : StateProg IpcError Unit := do
  onCtx (modify (ServiceContext.setConfig previous))
  onCtx (modify (ServiceContext.withBuilt (RoutingEngine.fromConfig env previous)))

def applyChange (previous : AppConfig) (answers : ApplyAnswers) : StateProg IpcError Unit := do
  match ← caught (applySplitPolicy env fromCidr answers) with
  | .error e => do
      rollback env previous
      throw ⟨-32000, e.toString⟩
  | .ok _ => pure ()

/-- What the three handlers do with the new configuration; `rebuild` runs between the engine and
the policy. -/
def changeRules (cfg : AppConfig) (answers : ChangeAnswers)
    (rebuild : ServiceContext → ServiceContext) : StateProg IpcError Unit := do
  let previous := (← get).ctx.config
  orReply (setConfig cfg answers.saved)
  match RoutingEngine.fromConfig env cfg with
  | .error e => do
      onCtx (modify (ServiceContext.setConfig previous))
      throw ⟨-32000, e⟩
  | .ok engine => do
      onCtx (modify fun ctx => rebuild (ctx.withEngine engine))
      applyChange env fromCidr previous answers.apply

def handleRoutingAddApp (paths : PathAnswers) (params : Except String AddAppRuleParams)
    (answers : ChangeAnswers) : StateProg IpcError AppRule := do
  let cfg := (← get).ctx.config
  let (rule, cfg) ← fromResult (addAppChange env paths cfg params)
  changeRules env fromCidr cfg answers id
  pure rule

def handleRoutingRemoveApp (params : Except String String) (answers : ChangeAnswers) :
    StateProg IpcError AppRule := do
  let cfg := (← get).ctx.config
  let (rule, cfg) ← fromResult (removeAppChange env cfg params)
  changeRules env fromCidr cfg answers id
  pure rule

def rebuildDomains (at_ : Moment) (rules : List DomainRule) (ctx : ServiceContext) :
    ServiceContext :=
  { ctx with domain := ctx.domain.rebuildRules at_ rules }

/-- The tunnel of the request is taken on before anything can fail. -/
def takeTunnelContext (context : Option TunnelContextParams) (ctx : ServiceContext) :
    ServiceContext :=
  { ctx with externalTunnel := context.or ctx.externalTunnel }

def handleRoutingImportRules (params : Except String ImportRulesParams) (rebuildAt : Moment)
    (answers : ChangeAnswers) : StateProg IpcError ImportResult := do
  match params with
  | .error e => throw ⟨-32602, e⟩
  | .ok p => do
      let cfg := (← get).ctx.config.importing p
      onCtx (modify (takeTunnelContext p.tunnelContext))
      changeRules env fromCidr cfg answers (rebuildDomains rebuildAt cfg.routing.domainRules)
      let resolved := (← get).ctx.domain.store.byIp.size
      pure ⟨cfg.routing.appRules.length, cfg.routing.ipRules.length,
        cfg.routing.domainRules.length, resolved⟩

def handleRoutingSetTunnelContext (params : Except String TunnelContextParams)
    (answers : ApplyAnswers) : StateProg IpcError Bool := do
  match params with
  | .error e => throw ⟨-32602, e⟩
  | .ok context => do
      onCtx (modify (takeTunnelContext (some context)))
      orReply (applySplitPolicy env fromCidr answers)
      pure context.connected

end RuleHandlers

end ServiceState

/-! ## Start and requests -/

/-- `ServiceContext::new`, once the WFP session is open: `loaded` is the domain store of an earlier
run, if its file can be read. -/
def ServiceState.new (env : Externals) (at_ : Moment) (config : AppConfig)
    (loaded : Option DomainRouteStore) (os : Os) (lock : LockContext) (driver : Bool) :
    Except RouteGuardError ServiceState :=
  match RoutingEngine.fromConfig env config with
  | .error e => .error (.routing e)
  | .ok engine =>
      let dns := config.routing.domainDns
      let empty := DomainRouteStore.new
        ⟨dns.maxResolvedIps, dns.maxDomains, dns.minTtlSecs, dns.maxTtlSecs⟩
      let domain : DomainRouting := ⟨empty, engine, { table := { os := os } }, none, [], []⟩
      let domain := match loaded with
        | none => domain
        | some store => ({ domain with store := store } : DomainRouting).syncEngine at_
      .ok { ctx := { config := config
                     domain := domain.rebuildRules at_ config.routing.domainRules }
            lock := lock
            dnsCallout := { driverPresent := driver } }

/-- A service starts with the engine of its configuration, to which the answers of an earlier run
are synced where there are any. -/
theorem ServiceState.new_cases {env : Externals} {at_ : Moment} {config : AppConfig}
    {loaded : Option DomainRouteStore} {os : Os} {lock : LockContext} {driver : Bool}
    {s : ServiceState} (h : ServiceState.new env at_ config loaded os lock driver = .ok s) :
    ∃ engine store domain, RoutingEngine.fromConfig env config = .ok engine ∧
      s = ⟨{ config := config
             domain := domain.rebuildRules at_ config.routing.domainRules }, lock,
        { driverPresent := driver }⟩ ∧
      ((∃ limits, loaded = none ∧ store = DomainRouteStore.new limits ∧
        domain = ⟨store, engine, { table := { os := os } }, none, [], []⟩) ∨
      (loaded = some store ∧ domain =
        (⟨store, engine, { table := { os := os } }, none, [], []⟩ : DomainRouting).syncEngine
          at_)) := by
  unfold ServiceState.new at h
  cases hbuilt : RoutingEngine.fromConfig env config with
  | error e =>
      rw [hbuilt] at h
      cases h
  | ok engine =>
      rw [hbuilt] at h
      cases loaded with
      | none =>
          cases h
          exact ⟨engine, _, _, rfl, rfl, Or.inl ⟨_, rfl, rfl, rfl⟩⟩
      | some store =>
          cases h
          exact ⟨engine, store, _, rfl, rfl, Or.inr ⟨rfl, rfl⟩⟩

inductive ChangeRequest where
  | addApp (paths : PathAnswers) (params : Except String AddAppRuleParams)
  | removeApp (params : Except String String)
  | importRules (params : Except String ImportRulesParams) (rebuildAt : Moment)

/-- The requests that change the routing rules, with what each meets outside the service. -/
inductive RuleRequest where
  | change (request : ChangeRequest) (answers : ChangeAnswers)
  | configSet (toml : Option (Except RouteGuardError AppConfig)) (answers : ChangeAnswers)
  | reload (load : Except RouteGuardError AppConfig) (answers : ApplyAnswers)

/-- A request, and the failures of the filter engine and of the lock's file during it. -/
structure Facing (R : Type 1) where
  request : R
  faults : List (Option String) := []
  saveFault : Option RouteGuardError := none

section Serve
variable (env : Externals) (fromCidr : String → Except String IpNet)

/-- The result of a request that succeeds is left out. -/
def ChangeRequest.program (answers : ChangeAnswers) : ChangeRequest → StateProg IpcError Unit
  | .addApp paths params => do
      let _ ← ServiceState.handleRoutingAddApp env fromCidr paths params answers
      pure ()
  | .removeApp params => do
      let _ ← ServiceState.handleRoutingRemoveApp env fromCidr params answers
      pure ()
  | .importRules params rebuildAt => do
      let _ ← ServiceState.handleRoutingImportRules env fromCidr params rebuildAt answers
      pure ()

def RuleRequest.program : RuleRequest → StateProg IpcError Unit
  | .change request answers => request.program env fromCidr answers
  | .configSet toml answers => ServiceState.handleConfigSet env fromCidr toml answers
  | .reload load answers => ServiceState.handleRoutingReload env fromCidr load answers

def ServiceState.serveRules (s : ServiceState) (facing : Facing RuleRequest) : ServiceState :=
  (exec (facing.request.program env fromCidr) (s.facing facing.faults facing.saveFault)).2

end Serve

end RouteGuard
