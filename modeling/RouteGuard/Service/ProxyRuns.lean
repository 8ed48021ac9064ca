import RouteGuard.Platform.ProxySockets
import RouteGuard.Service.CalloutRuns
import RouteGuard.Service.RuleSync

/-! # Where redirected queries are sent

The DNS proxy takes its addresses from the configuration that the service starts
with, the driver its port from the configuration of each later change. -/
set_option autoImplicit false
namespace RouteGuard

open HashTable Fallible GuardedRun

/-! ## The addresses -/

def dnsConfigFrom (cfg : DomainDnsConfig) : DnsProxyConfig × DomainRouteStoreConfig :=
  ({ listen := (ScopedSocketAddr.parse cfg.listen).getD (.v4 0x7f000001 5353)
     listenV6 := ScopedSocketAddr.parse cfg.listenV6
     upstream := cfg.upstream.filterMap ScopedSocketAddr.parse
     minTtlSecs := cfg.minTtlSecs
     maxTtlSecs := cfg.maxTtlSecs },
   { maxResolvedIps := cfg.maxResolvedIps
     maxDomains := cfg.maxDomains
     minTtlSecs := cfg.minTtlSecs
     maxTtlSecs := cfg.maxTtlSecs })

/-- The addresses that the callouts write into IPv4 and IPv6 queries. -/
def RgDnsRedirectConfig.targets (config : RgDnsRedirectConfig) : List ScopedSocketAddr :=
  [.v4 (BitVec.ofNat 32 (fromDigits 256 (config.proxyV4.toList.map UInt8.toNat)))
    config.proxyPort,
   .v6 (BitVec.ofNat 128 (fromDigits 256 (config.proxyV6.toList.map UInt8.toNat)))
    config.proxyPort 0]

theorem targets_loopbackV4 (port : UInt16) (enabled : Bool) (excludedPids : List UInt32) :
    (RgDnsRedirectConfig.loopbackV4 port enabled excludedPids).targets =
      [.v4 0x7f000001 port, .v6 1 port 0] := rfl

/-- A socket gets what is sent to its own address or, bound to the unspecified one, to any of its
family: Windows sets `IPV6_V6ONLY`. -/
def ScopedSocketAddr.Gets : ScopedSocketAddr → ScopedSocketAddr → Prop
  | .v4 bits port, .v4 target targetPort => (bits = target ∨ bits = 0) ∧ port = targetPort
  | .v6 bits port _, .v6 target targetPort _ => (bits = target ∨ bits = 0) ∧ port = targetPort
  | _, _ => False

/-- No socket gets what is sent to both targets. -/
theorem no_socket_gets_both (socket : Option ScopedSocketAddr) (port : UInt16) :
    ¬∀ target ∈ (RgDnsRedirectConfig.loopbackV4 port true []).targets,
      ∃ bound ∈ socket.toList, bound.Gets target := by
  rw [targets_loopbackV4]
  intro hall
  obtain ⟨first, hfirst, hv4⟩ := hall _ List.mem_cons_self
  obtain ⟨second, hsecond, hv6⟩ := hall _ (List.mem_cons_of_mem _ List.mem_cons_self)
  rw [Option.mem_toList] at hfirst hsecond
  cases Option.mem_unique hfirst hsecond
  cases first with
  | v4 bits port => exact hv6
  | v6 bits port scopeId => exact hv4

/-! ## The filters after a request -/

/-- There is a driver, and it takes the configuration. -/
def ApplyAnswers.DriverTakes (answers : ApplyAnswers) : Prop :=
  answers.driver = true ∧ answers.driverConfig = .ok ()

theorem refuse_iff (answers : ApplyAnswers) (requireKernel : Bool) :
    answers.driverAnswers.Refuse requireKernel ↔
      requireKernel = true ∧ ¬answers.DriverTakes := by
  obtain ⟨moment, physicalIf, confEndpoint, driver, driverConfig, saveAppRules, saveSnapshot⟩ :=
    answers
  simp only [DriverAnswers.Refuse, ApplyAnswers.driverAnswers, ApplyAnswers.DriverTakes]
  cases driver with
  | false => simp
  | true => cases driverConfig <;> simp

section Filters
variable {env : Externals} (fromCidr : String → Except String IpNet)

def ServiceState.DnsFiltersAre (ids : List Nat) (s : ServiceState) : Prop :=
  s.dnsCallout.filterIds = ids

theorem onFilters_dnsFilters {A : Type} (ids : List Nat) (m : FilterProg A) :
    Keeps (ServiceState.DnsFiltersAre ids) (onFilters m) := by
  have hany : Keeps (fun _ : FilterState => True) m := fun _ h => h
  exact keeps_zoom hany (fun _ _ => trivial) fun _ _ h _ => h

/-- From none, filters come to be listed where the driver does not stand in the way and all three
can be added. -/
theorem installDnsCallout_lists_iff (answers : ApplyAnswers) (port : UInt16)
    (requireKernel : Bool) {s : ServiceState} (h : s.dnsCallout.filterIds = []) :
    (exec (installDnsCallout fromCidr answers port requireKernel) s).2.dnsCallout.filterIds ≠ [] ↔
      (requireKernel = true → answers.DriverTakes) ∧ AllClear s.lock.engine.faults 3 := by
  obtain ⟨accepted, hafter⟩ := installDnsCallout_callout fromCidr answers port [] requireKernel s
    none
  have hmanager := congrArg (fun callout => callout.manager.filterIds) hafter
  have hbefore : (s.callout none).manager.filterIds = [] := h
  dsimp only [ServiceState.callout] at hmanager
  rw [hmanager]
  by_cases hrefuse : answers.driverAnswers.Refuse requireKernel
  · obtain ⟨e, after, hexec, _, hkept, _⟩ := exec_install_refused fromCidr
      (s := s.callout none) port [] hrefuse
    obtain ⟨hrequired, hnot⟩ := (refuse_iff answers requireKernel).mp hrefuse
    have hexec' : exec (DnsCalloutManager.install fromCidr answers.driverAnswers port []
        requireKernel) ⟨s.dnsCallout, s.lock.session, none⟩ = (.error e, after) := hexec
    rw [hexec', hkept, hbefore]
    exact iff_of_false (fun hne => hne rfl) fun hcase => hnot (hcase.1 hrequired)
  · obtain ⟨removed, after, hexec, _, _, hcase⟩ := exec_install_filters fromCidr
      (s := s.callout none) answers.driverAnswers port [] hrefuse
    have hdriver : requireKernel = true → answers.DriverTakes := by
      intro hrequired
      by_contra hnot
      exact hrefuse ((refuse_iff answers requireKernel).mpr ⟨hrequired, hnot⟩)
    have hexec' : exec (DnsCalloutManager.install fromCidr answers.driverAnswers port []
        requireKernel) ⟨s.dnsCallout, s.lock.session, none⟩ = after := hexec
    rw [hexec']
    rw [hbefore, List.length_nil, List.drop_zero] at hcase
    rcases hcase with ⟨hclear, hnew, _⟩ | ⟨k, hk, hfails, hkept, _⟩
    · rw [hnew]
      exact iff_of_true (by simp [List.range']) ⟨hdriver, hclear⟩
    · rw [hkept]
      exact iff_of_false (fun hne => hne rfl) fun hcase => hcase.2.not_failsAfter hk hfails

theorem removeDnsCallout_lists (s : ServiceState) :
    (exec removeDnsCallout s).2.dnsCallout.filterIds = [] := by
  obtain ⟨after, hremove, _⟩ := exec_removeDns s.dnsCallout.filterIds s.lock.session
  obtain ⟨removed, hremoved, _⟩ := exec_onWfp hremove
  rw [removeDnsCallout, exec_bind_ok (exec_get s), exec_bind_ok hremoved, exec_modify]

/-- The configuration asks for a redirection, the driver takes it where it has to, and the three
filters can be added. -/
structure ServiceState.InstallsRedirect (answers : ApplyAnswers) (s : ServiceState) : Prop where
  wanted : s.ctx.config.wantsDnsRedirect = true
  driver : s.ctx.config.routing.domainDns.kernelRedirect = true → answers.DriverTakes
  clear : AllClear s.lock.engine.faults 3

theorem applyDomainDnsWfp_lists_iff (answers : ApplyAnswers) {s : ServiceState}
    (h : s.dnsCallout.filterIds = []) :
    (exec (applyDomainDnsWfp fromCidr answers) s).2.dnsCallout.filterIds ≠ [] ↔
      s.InstallsRedirect answers := by
  rw [applyDomainDnsWfp, exec_bind_ok (exec_get s)]
  dsimp only
  split
  · rename_i hwants
    have hinstall := installDnsCallout_lists_iff fromCidr answers
      (proxyPort s.ctx.config.routing.domainDns.listen)
      s.ctx.config.routing.domainDns.kernelRedirect h
    have hiff : ((s.ctx.config.routing.domainDns.kernelRedirect = true → answers.DriverTakes) ∧
        AllClear s.lock.engine.faults 3) ↔ s.InstallsRedirect answers :=
      ⟨fun hcase => ⟨hwants, hcase.1, hcase.2⟩, fun hcase => ⟨hcase.driver, hcase.clear⟩⟩
    rw [← hiff, ← hinstall, exec_bind_ok (exec_caught _ s)]
    split
    · split <;> exact Iff.rfl
    · exact Iff.rfl
  · rename_i hwants
    rw [exec_bind_ok (exec_caught _ s)]
    exact iff_of_false (fun hne => hne (removeDnsCallout_lists s)) fun hcase => hwants hcase.wanted

theorem applyFilters_lists_iff (answers : ApplyAnswers) {s : ServiceState}
    (h : s.dnsCallout.filterIds = []) :
    (exec (applyFilters fromCidr answers) s).2.dnsCallout.filterIds ≠ [] ↔
      s.InstallsRedirect answers := by
  rw [← applyDomainDnsWfp_lists_iff fromCidr answers h, applyFilters, exec_bind]
  cases hdns : exec (applyDomainDnsWfp fromCidr answers) s with
  | mk result applied =>
      cases result with
      | error e => exact Iff.rfl
      | ok _ =>
          dsimp only
          rw [exec_bind_ok (exec_get applied)]
          split
          · exact Iff.rfl
          · rename_i policy _
            have hkept := onFilters_dnsFilters applied.dnsCallout.filterIds (applySplitWfp fromCidr
              ⟨policy, applied.ctx.config.networkLock.enabled, answers.saveAppRules,
                answers.saveSnapshot⟩) applied rfl
            rw [ServiceState.DnsFiltersAre] at hkept
            rw [hkept]

/-- The policy of the state can be built, its routes can be installed, and behind them the filters
of a redirection. -/
structure ServiceState.StartsRedirect (env : Externals) (answers : ApplyAnswers)
    (s : ServiceState) : Prop where
  routes : (s.ctx.domain.applySplitPolicy env answers.moment
    (s.ctx.policyView (answers.routes env))).1 = .ok ()
  installs : s.InstallsRedirect answers

theorem exec_applyRoutes (answers : ApplyAnswers) (s : ServiceState) :
    exec (onCtx (applyFullPolicy (answers.routes env))) s =
      ((s.ctx.domain.applySplitPolicy env answers.moment
          (s.ctx.policyView (answers.routes env))).1,
        { s with ctx := { s.ctx with domain := (s.ctx.domain.applySplitPolicy env answers.moment
          (s.ctx.policyView (answers.routes env))).2 } }) := by
  have hresult : (exec (applyFullPolicy (answers.routes env)) s.ctx).1 =
      (s.ctx.domain.applySplitPolicy env answers.moment
        (s.ctx.policyView (answers.routes env))).1 := by
    simp only [applyFullPolicy, exec_bind, exec_get, exec_set, exec_fromResult,
      ApplyAnswers.routes]
    split <;> rename_i heq
    · exact (Prod.ext_iff.mp heq).1.symm
    · exact (Prod.ext_iff.mp heq).1.symm
  rw [onCtx, exec_zoom, hresult, applyFullPolicy_domain]
  rfl

theorem applySplitPolicy_lists_iff (answers : ApplyAnswers) {s : ServiceState}
    (h : s.dnsCallout.filterIds = []) :
    (exec (applySplitPolicy env fromCidr answers) s).2.dnsCallout.filterIds ≠ [] ↔
      s.StartsRedirect env answers := by
  rw [applySplitPolicy, exec_bind, exec_applyRoutes]
  cases hroutes : (s.ctx.domain.applySplitPolicy env answers.moment
      (s.ctx.policyView (answers.routes env))).1 with
  | error e =>
      refine iff_of_false (fun hne => hne h) fun hstarts => ?_
      cases hroutes.symm.trans hstarts.routes
  | ok _ =>
      have happlied := @applyFilters_lists_iff fromCidr answers { s with ctx := { s.ctx with
        domain := (s.ctx.domain.applySplitPolicy env answers.moment
          (s.ctx.policyView (answers.routes env))).2 } } h
      refine happlied.trans ⟨fun hinstalls => ⟨hroutes, ?_⟩, fun hstarts => ?_⟩
      · exact ⟨hinstalls.wanted, hinstalls.driver, hinstalls.clear⟩
      · exact ⟨hstarts.installs.wanted, hstarts.installs.driver, hstarts.installs.clear⟩

end Filters

/-! ## Runs -/

/-- The requests that bring a new configuration. -/
inductive NewConfigRequest where
  | configSet (toml : Option (Except RouteGuardError AppConfig)) (answers : ChangeAnswers)
  | reload (load : Except RouteGuardError AppConfig) (answers : ApplyAnswers)

def NewConfigRequest.rules : NewConfigRequest → RuleRequest
  | .configSet toml answers => .configSet toml answers
  | .reload load answers => .reload load answers

inductive ProxyEvent where
  | serve (facing : Facing NewConfigRequest)
  | poll (answers : NetAnswers)

structure ProxiedService where
  service : ServiceState
  proxy : DnsProxy

section Serve
variable (env : Externals) (fromCidr : String → Except String IpNet)

namespace ProxiedService

/-- The end of `ServiceContext::new`. -/
def start (s : ServiceState) : ProxiedService :=
  let dns := s.ctx.config.routing.domainDns
  let proxy : DnsProxy := { config := (dnsConfigFrom dns).1 }
  ⟨s, if dns.enabled then proxy.start else proxy⟩

def step (w : ProxiedService) : ProxyEvent → ProxiedService
  | .serve facing =>
      ⟨w.service.serveRules env fromCidr
        ⟨facing.request.rules, facing.faults, facing.saveFault⟩, w.proxy⟩
  | .poll answers => ⟨w.service, w.proxy.poll answers⟩

/-- Where the driver is told to send queries, with the port that is configured now. -/
def targets (w : ProxiedService) : List ScopedSocketAddr :=
  (RgDnsRedirectConfig.loopbackV4 (proxyPort w.service.ctx.config.routing.domainDns.listen) true
    []).targets

/-- While the filters of a redirection are installed, a socket of the proxy gets what is sent to
each of the addresses. -/
def Served (w : ProxiedService) : Prop :=
  w.service.dnsCallout.filterIds ≠ [] →
    ∀ target ∈ w.targets, ∃ socket ∈ w.proxy.sockets, socket.Gets target

end ProxiedService

/-- The request brings a configuration with which a redirection starts. -/
def NewConfigRequest.Redirects (s : ServiceState) : NewConfigRequest → Prop
  | .configSet toml answers => ∃ cfg, toml = some (.ok cfg) ∧ answers.saved = .ok () ∧
      ServiceState.StartsRedirect env answers.apply { s with
        ctx := (s.ctx.setConfig cfg).withBuilt (RoutingEngine.fromConfig env cfg) }
  | .reload load answers => ∃ cfg engine, load = .ok cfg ∧
      RoutingEngine.fromConfig env cfg = .ok engine ∧
      ServiceState.StartsRedirect env answers { s with
        ctx := (s.ctx.setConfig cfg).withEngine engine }

/-- No redirection starts. -/
def ProxyEvent.Quiet (w : ProxiedService) : ProxyEvent → Prop
  | .serve facing => ¬facing.request.Redirects env
      (w.service.facing facing.faults facing.saveFault)
  | .poll _ => True

end Serve

section Runs
variable {env : Externals} {fromCidr : String → Except String IpNet}

theorem configSet_lists_iff (toml : Option (Except RouteGuardError AppConfig))
    (answers : ChangeAnswers) {s : ServiceState} (h : s.dnsCallout.filterIds = []) :
    (exec (ServiceState.handleConfigSet env fromCidr toml answers)
        s).2.dnsCallout.filterIds ≠ [] ↔
      (NewConfigRequest.configSet toml answers).Redirects env s := by
  have hoff : ¬s.dnsCallout.filterIds ≠ [] := fun hne => hne h
  unfold ServiceState.handleConfigSet
  cases toml with
  | none =>
      refine iff_of_false hoff ?_
      rintro ⟨cfg, htoml, _⟩
      cases htoml
  | some parsed =>
      cases parsed with
      | error e =>
          refine iff_of_false hoff ?_
          rintro ⟨cfg, htoml, _⟩
          cases htoml
      | ok cfg =>
          obtain ⟨saved, apply⟩ := answers
          cases saved with
          | error e =>
              refine iff_of_false hoff ?_
              rintro ⟨cfg, _, hsaved, _⟩
              cases hsaved
          | ok _ =>
              have hset : exec (orReply (ServiceState.setConfig cfg (.ok ()))) s =
                  (.ok (), { s with ctx := s.ctx.setConfig cfg }) := rfl
              have hbuilt : exec (onCtx (modify (ServiceContext.withBuilt
                    (RoutingEngine.fromConfig env cfg))) : StateProg IpcError PUnit)
                  { s with ctx := s.ctx.setConfig cfg } = (.ok ⟨⟩, { s with
                    ctx := (s.ctx.setConfig cfg).withBuilt
                      (RoutingEngine.fromConfig env cfg) }) := rfl
              dsimp only
              rw [exec_bind_ok hset, exec_bind_ok hbuilt, orReply, exec_mapError]
              dsimp only
              rw [applySplitPolicy_lists_iff fromCidr apply (by exact h)]
              constructor
              · intro hstarts
                exact ⟨cfg, rfl, rfl, hstarts⟩
              · rintro ⟨cfg', htoml, _, hstarts⟩
                cases htoml
                exact hstarts

theorem reload_lists_iff (load : Except RouteGuardError AppConfig) (answers : ApplyAnswers)
    {s : ServiceState} (h : s.dnsCallout.filterIds = []) :
    (exec (ServiceState.handleRoutingReload env fromCidr load answers)
        s).2.dnsCallout.filterIds ≠ [] ↔
      (NewConfigRequest.reload load answers).Redirects env s := by
  have hoff : ¬s.dnsCallout.filterIds ≠ [] := fun hne => hne h
  rw [ServiceState.handleRoutingReload, orReply, exec_mapError]
  dsimp only
  unfold ServiceState.reloadRoutingFromDisk
  cases load with
  | error e =>
      refine iff_of_false hoff ?_
      rintro ⟨cfg, engine, hload, _⟩
      cases hload
  | ok cfg =>
      have hset : exec (onCtx (modify (ServiceContext.setConfig cfg)) :
          StateProg RouteGuardError PUnit) s =
          (.ok ⟨⟩, { s with ctx := s.ctx.setConfig cfg }) := rfl
      rw [exec_fromResult_ok rfl, exec_bind_ok hset]
      cases hengine : RoutingEngine.fromConfig env cfg with
      | error e =>
          refine iff_of_false hoff ?_
          rintro ⟨cfg', engine, hload, hbuilt, _⟩
          cases hload
          cases hengine.symm.trans hbuilt
      | ok engine =>
          have hbuilt : exec (onCtx (modify (ServiceContext.withEngine engine)) :
              StateProg RouteGuardError PUnit) { s with ctx := s.ctx.setConfig cfg } =
              (.ok ⟨⟩, { s with ctx := (s.ctx.setConfig cfg).withEngine engine }) := rfl
          have htaken : (Except.ok engine : Except String RoutingEngine).mapError
              RouteGuardError.routing = .ok engine := rfl
          rw [exec_fromResult_ok htaken, exec_bind_ok hbuilt,
            applySplitPolicy_lists_iff fromCidr answers (by exact h)]
          constructor
          · intro hstarts
            exact ⟨cfg, engine, rfl, hengine, hstarts⟩
          · rintro ⟨cfg', engine', hload, hengine', hstarts⟩
            cases hload
            cases hengine.symm.trans hengine'
            exact hstarts

theorem serve_lists_iff {s : ServiceState} (h : s.dnsCallout.filterIds = [])
    (facing : Facing NewConfigRequest) :
    (s.serveRules env fromCidr ⟨facing.request.rules, facing.faults,
        facing.saveFault⟩).dnsCallout.filterIds ≠ [] ↔
      facing.request.Redirects env (s.facing facing.faults facing.saveFault) := by
  obtain ⟨request, faults, saveFault⟩ := facing
  have hfacing : (s.facing faults saveFault).dnsCallout.filterIds = [] := h
  cases request with
  | configSet toml answers => exact configSet_lists_iff toml answers hfacing
  | reload load answers => exact reload_lists_iff load answers hfacing

namespace ProxiedService

theorem start_inOrder (s : ServiceState) : (start s).proxy.InOrder := by
  have hidle : DnsProxy.InOrder { config := (dnsConfigFrom s.ctx.config.routing.domainDns).1 } := by
    rintro task ⟨⟩
  unfold start
  dsimp only
  split
  · exact DnsProxy.start_inOrder hidle
  · exact hidle

theorem step_inOrder (w : ProxiedService) (event : ProxyEvent) (h : w.proxy.InOrder) :
    (w.step env fromCidr event).proxy.InOrder := by
  cases event with
  | serve facing => exact h
  | poll answers => exact DnsProxy.poll_inOrder answers h

theorem served_iff {w : ProxiedService} (h : w.proxy.InOrder) :
    w.Served ↔ w.service.dnsCallout.filterIds = [] := by
  obtain ⟨socket, hsocket⟩ := DnsProxy.sockets_unique h
  constructor
  · intro hserved
    by_contra hinstalled
    have hall := hserved hinstalled
    rw [hsocket] at hall
    exact no_socket_gets_both socket _ hall
  · intro hnone hinstalled
    exact absurd hnone hinstalled

theorem step_served_iff (w : ProxiedService) (event : ProxyEvent) (hproxy : w.proxy.InOrder)
    (h : w.Served) : (w.step env fromCidr event).Served ↔ event.Quiet env w := by
  have hoff := (served_iff hproxy).mp h
  rw [served_iff (step_inOrder w event hproxy)]
  cases event with
  | serve facing =>
      have hlists := not_congr (@serve_lists_iff env fromCidr _ hoff facing)
      rw [not_not] at hlists
      exact hlists
  | poll answers => exact iff_of_true hoff trivial

end ProxiedService

/-- The sockets of the proxy get every redirected query in all states of a run exactly when no
request of it starts a redirection. -/
theorem proxyRun_served_iff {at_ : Moment} {config : AppConfig} {loaded : Option DomainRouteStore}
    {os : Os} {lock : LockContext} {driver : Bool} {s : ServiceState}
    (hnew : ServiceState.new env at_ config loaded os lock driver = .ok s)
    (events : List ProxyEvent) :
    (∀ first, first <+: events →
        (run (ProxiedService.step env fromCidr) (.start s) first).Served) ↔
      Guarded (ProxiedService.step env fromCidr) (fun w event => event.Quiet env w) (.start s)
        events := by
  have hoff : s.dnsCallout.filterIds = [] := by
    obtain ⟨engine, store, domain, _, rfl, _⟩ := ServiceState.new_cases hnew
    rfl
  have hstart : (ProxiedService.start s).Served :=
    (ProxiedService.served_iff (ProxiedService.start_inOrder s)).mpr hoff
  exact holds_throughout_iff (ProxiedService.step env fromCidr) _
    (fun w event h => ProxiedService.step_inOrder w event h)
    (fun w event hproxy h => ProxiedService.step_served_iff w event hproxy h) events _
    (ProxiedService.start_inOrder s) hstart

end Runs

/-! ## A redirection of the default addresses -/

def redirectConfig : AppConfig where
  routing :=
    { domainRules := [⟨100, "example.com", .bypass⟩]
      domainDns := { redirectPort53 := true } }

def setRedirect : ProxyEvent :=
  .serve { request := .configSet (some (.ok redirectConfig)) ⟨.ok (), calmAnswers⟩ }

def bindFirst : ProxyEvent := .poll ⟨.ok 0, .ok ()⟩

theorem proxyRun_served_iff_default :
    (∀ first, first <+: [bindFirst, setRedirect] →
        (run (ProxiedService.step .asciiIpv4 readCidr) (.start plainService) first).Served) ↔
      Guarded (ProxiedService.step .asciiIpv4 readCidr)
        (fun w event => event.Quiet .asciiIpv4 w) (.start plainService) [bindFirst, setRedirect] :=
  proxyRun_served_iff plainService_new _

def ProxyEvent.Works : ProxyEvent → Prop
  | .serve _ => True
  | .poll answers => answers.Work

theorem redirectConfig_starts (proxy : DnsProxy) :
    ¬setRedirect.Quiet .asciiIpv4 ⟨plainService, proxy⟩ := by
  intro hquiet
  apply hquiet
  refine ⟨redirectConfig, rfl, rfl, ⟨rfl, ⟨rfl, ?_, allClear_nil 3⟩⟩⟩
  intro hrequired
  cases hrequired

/-- Nothing is bound to `[::1]:5353`. -/
theorem defaultRedirect_unserved : ¬∀ (env : Externals) (fromCidr : String → Except String IpNet)
    (at_ : Moment) (config : AppConfig) (loaded : Option DomainRouteStore) (os : Os)
    (lock : LockContext) (driver : Bool) (s : ServiceState) (events : List ProxyEvent),
    ServiceState.new env at_ config loaded os lock driver = .ok s →
    (∀ event ∈ events, event.Works) →
      (run (ProxiedService.step env fromCidr) (.start s) events).Served := by
  intro hall
  have hworks : ∀ event ∈ [bindFirst, setRedirect], event.Works := by
    intro event hmem
    simp only [List.mem_cons, List.not_mem_nil, or_false] at hmem
    rcases hmem with rfl | rfl
    · exact ⟨⟨0, rfl⟩, rfl⟩
    · trivial
  have hserved := hall .asciiIpv4 readCidr midnight {} none {} _ false plainService
    [bindFirst, setRedirect] plainService_new hworks
  rw [run_cons, run_cons, run_nil] at hserved
  have hproxy : ((ProxiedService.start plainService).step .asciiIpv4 readCidr
      bindFirst).proxy.InOrder :=
    ProxiedService.step_inOrder _ _ (ProxiedService.start_inOrder plainService)
  have hbefore : ((ProxiedService.start plainService).step .asciiIpv4 readCidr
      bindFirst).Served := (ProxiedService.served_iff hproxy).mpr rfl
  exact redirectConfig_starts _
    ((ProxiedService.step_served_iff _ setRedirect hproxy hbefore).mp hserved)

end RouteGuard
