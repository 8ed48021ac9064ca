import RouteGuard.Service.RuleSync

/-! # The endpoint of another program's tunnel

`routing.set_tunnel_context` and `routing.import_rules` with a tunnel context:
the address of the context on its way through the policy to the network lock. -/
set_option autoImplicit false
namespace RouteGuard

open HashTable Fallible

/-! ## Addresses without a port -/

section Parse
variable {text : String} {ip : IpAddr}

theorem not_digit_bracket (radix : Nat) (allowZeroPrefix : Bool) (maxDigits : Option Nat)
    (bound : Nat) (hbracket : isDigitOf radix '[' = false) (rest : List Char) :
    readNumber radix maxDigits allowZeroPrefix bound ('[' :: rest) = none := by
  have hnone : ('[' :: rest).takeWhile (isDigitOf radix) = [] := by
    rw [List.takeWhile_cons, hbracket]
    rfl
  rw [readNumber, hnone]
  rfl

theorem readIp_bracket (rest : List Char) : readIp ('[' :: rest) = none := by
  have hoctet : readOctet ('[' :: rest) = none :=
    not_digit_bracket 10 false (some 3) 256 (by decide) rest
  have hgroup : readGroup ('[' :: rest) = none :=
    not_digit_bracket 16 true (some 4) 65536 (by decide) rest
  have hv4 : readIpv4 ('[' :: rest) = none := by
    simp only [readIpv4, readSeparator, Nat.lt_irrefl, if_false, hoctet, Option.bind_eq_bind,
      Option.bind_none]
  have hgroups : readGroups 8 0 ('[' :: rest) = ([], false, '[' :: rest) := by
    simp only [readGroups, readSeparator, Nat.lt_irrefl, if_false, hv4, hgroup]
    rfl
  have hv6 : readIpv6 ('[' :: rest) = none := by
    rw [readIpv6, hgroups]
    rfl
  rw [readIp, hv4, hv6]
  rfl

/-- A text that is an address is not one with a port. -/
theorem parse_none_of_ip (h : IpAddr.parse text = some ip) : SocketAddr.parse text = none := by
  have hread : readIp text.toList = some (ip, []) := by
    rw [IpAddr.parse] at h
    split at h
    · rename_i ip' heq
      cases h
      exact heq
    · cases h
  have hv6 : ScopedSocketAddr.readV6 text.toList = none := by
    cases htext : text.toList with
    | nil => rfl
    | cons c rest =>
        by_cases hc : c = '['
        · rw [htext, hc, readIp_bracket] at hread
          cases hread
        · simp only [ScopedSocketAddr.readV6, readGivenChar, if_neg hc, Option.bind_eq_bind,
            Option.bind_none]
  have hv4 : ScopedSocketAddr.readV4 text.toList = none := by
    rw [readIp] at hread
    cases hoctets : readIpv4 text.toList with
    | none => simp only [ScopedSocketAddr.readV4, hoctets, Option.bind_eq_bind, Option.bind_none]
    | some row =>
        obtain ⟨octets, rest⟩ := row
        rw [hoctets] at hread
        obtain ⟨_, hrest⟩ := Prod.mk.inj (Option.some.inj hread)
        simp only [ScopedSocketAddr.readV4, hoctets, hrest, Option.bind_eq_bind, Option.bind_some]
        rfl
  rw [SocketAddr.parse, ScopedSocketAddr.parse, hv4, hv6]
  rfl

end Parse

/-! ## The policy passed to the lock -/

namespace ServiceState

/-- The argument of `enable_network_lock` in `apply_split_wfp`, which ends every application of the
policy: it is made of the policy that was cached before. -/
def passedLockPolicy (s : ServiceState) : Option NetworkLockPolicy :=
  if s.ctx.config.networkLock.enabled then
    s.ctx.domain.cachedPolicy.map PolicySnapshot.networkLockPolicy
  else none

def PermitsEndpoint (s : ServiceState) (ip : IpAddr) : Prop :=
  ∃ policy ep, s.passedLockPolicy = some policy ∧ policy.endpoint = some ep ∧ ep.ip = ip

/-- Another program has a tunnel and the service has none. -/
structure External (s : ServiceState) (context : TunnelContextParams) : Prop where
  handle : s.ctx.handle = none
  active : s.ctx.activeSession = none
  external : s.ctx.externalTunnel = some context
  connected : context.connected = true

end ServiceState

section Policy
variable {env : Externals} {fromCidr : String → Except String IpNet} {context : TunnelContextParams}
  {endpoint : String}

/-- The endpoint of the context goes into the policy as it is. -/
theorem buildPolicy_external {o : Order} {now : Nat} {view : PolicyView} {engine : RoutingEngine}
    {store : DomainRouteStore} {policy : PolicySnapshot} (hhandle : view.handle = none)
    (hactive : view.active = none) (hexternal : view.external = some context)
    (hconnected : context.connected = true) (hendpoint : context.endpointIp = some endpoint)
    (hbuild : buildPolicy env o now view engine store = .ok policy) :
    policy.endpoint = some endpoint := by
  have hfound : view.connectedExternal = some context := by
    rw [PolicyView.connectedExternal, hexternal, Option.filter_some, if_pos hconnected]
  have hctx : view.endpointFromContext = some endpoint := by
    rw [PolicyView.endpointFromContext, hhandle, hfound, Option.bind_some, hendpoint]
  simp only [buildPolicy, PolicyView.withEndpoint, hctx, PolicyView.withTransport, hactive, bind,
    Except.bind, pure, Except.pure] at hbuild
  cases hbuild
  rfl

/-- Everything the lock policy is read from is the same. -/
def LockSource (s s' : ServiceState) : Prop :=
  s'.ctx.config = s.ctx.config ∧ s'.ctx.domain.cachedPolicy = s.ctx.domain.cachedPolicy

theorem lockSource_free (s : ServiceState) : FilterFree (LockSource s) :=
  ⟨fun _ _ h => h, fun _ _ h => h⟩

theorem applySplitWfp_enables {call : SplitWfpCall} {st st' : FilterState}
    (hlock : call.lockEnabled = true)
    (h : exec (applySplitWfp fromCidr call) st = (.ok (), st')) :
    ∃ before, exec (NetworkLock.enable fromCidr call.policy.networkLockPolicy) before =
      (.ok (), st'.lock) := by
  simp only [applySplitWfp, exec_bind, exec_get, FilterState.onLock, exec_zoom] at h
  cases hsplit :
      exec (onSession (applySplitTunnel fromCidr call.policy st.wfpFilterIds)) st.lock with
  | mk result lock =>
      rw [hsplit] at h
      cases result with
      | error e => cases h
      | ok ids =>
          simp only [exec_modify, hlock, if_true, exec_bind, exec_zoom] at h
          cases henable : exec (NetworkLock.enable fromCidr call.policy.networkLockPolicy) lock with
          | mk enabled after =>
              rw [henable] at h
              cases enabled with
              | error e => cases h
              | ok _ =>
                  refine ⟨lock, ?_⟩
                  simp only [exec_fromResult] at h
                  cases hsaved : call.saveAppRules with
                  | error e =>
                      rw [hsaved] at h
                      cases h
                  | ok _ =>
                      rw [hsaved] at h
                      rw [henable, ← (Prod.mk.inj h).2]

/-- Filters that are applied end with `apply_split_wfp` of the cached policy. -/
theorem applyFilters_passes {answers : ApplyAnswers} {s s' : ServiceState}
    {policy : PolicySnapshot} (hcached : s.ctx.domain.cachedPolicy = some policy)
    (hlock : s.ctx.config.networkLock.enabled = true)
    (h : exec (applyFilters fromCidr answers) s = (.ok (), s')) :
    s'.passedLockPolicy = some policy.networkLockPolicy ∧ ∃ before,
      exec (NetworkLock.enable fromCidr policy.networkLockPolicy) before = (.ok (), s'.lock) := by
  have hsource := applyFilters_free (lockSource_free s) fromCidr answers s ⟨rfl, rfl⟩
  rw [h] at hsource
  refine ⟨?_, ?_⟩
  · rw [ServiceState.passedLockPolicy, hsource.1, hsource.2, hlock, hcached]
    rfl
  · have hdns := applyDomainDnsWfp_free (lockSource_free s) fromCidr answers s ⟨rfl, rfl⟩
    rw [applyFilters, exec_bind] at h
    cases hexec : exec (applyDomainDnsWfp fromCidr answers) s with
    | mk result middle =>
        rw [hexec] at h hdns
        cases result with
        | error e => cases h
        | ok _ =>
            have hcached' : middle.ctx.domain.cachedPolicy = some policy := hdns.2.trans hcached
            have hlock' : middle.ctx.config.networkLock.enabled = true := by rw [hdns.1, hlock]
            simp only [exec_bind, exec_get, hcached', hlock', onFilters, exec_zoom] at h
            cases hsplit : exec (applySplitWfp fromCidr ⟨policy, true, answers.saveAppRules,
                answers.saveSnapshot⟩) middle.filters with
            | mk applied st' =>
                rw [hsplit, Prod.mk.injEq] at h
                have happlied : applied = .ok () := h.1
                rw [happlied] at hsplit
                obtain ⟨before, henable⟩ := applySplitWfp_enables rfl hsplit
                rw [← h.2]
                exact ⟨before, henable⟩

/-- What an application of the policy that succeeds has passed to the lock. -/
theorem applySplitPolicy_passes {answers : ApplyAnswers} {s s' : ServiceState}
    (hs : s.External context) (hendpoint : context.endpointIp = some endpoint)
    (hlock : s.ctx.config.networkLock.enabled = true)
    (h : exec (applySplitPolicy env fromCidr answers) s = (.ok (), s')) :
    ∃ policy before, s'.passedLockPolicy = some policy ∧
      policy.endpoint = SocketAddr.parse endpoint ∧
      exec (NetworkLock.enable fromCidr policy) before = (.ok (), s'.lock) := by
  rw [applySplitPolicy, exec_bind, onCtx, exec_zoom] at h
  cases hfull : exec (applyFullPolicy (answers.routes env)) s.ctx with
  | mk result ctx =>
      rw [hfull] at h
      cases result with
      | error e => cases h
      | ok _ =>
          obtain ⟨policy, hcached, hbuild⟩ := applyFullPolicy_built hfull
          have hactive : (s.ctx.policyView (answers.routes env)).active = none := by
            rw [ServiceContext.policyView, hs.active, Option.map_none]
          have hpolicy : policy.endpoint = some endpoint :=
            buildPolicy_external hs.handle hactive hs.external hs.connected hendpoint hbuild
          have hctx : ctx.config = s.ctx.config := by
            have hafter := applyFullPolicy_domain (answers.routes env) s.ctx
            rw [hfull] at hafter
            dsimp only at hafter
            rw [hafter]
          have hlock' : ctx.config.networkLock.enabled = true := by rw [hctx, hlock]
          obtain ⟨hpassed, before, henable⟩ :=
            applyFilters_passes (s := { s with ctx := ctx }) hcached hlock' h
          refine ⟨_, before, hpassed, ?_, henable⟩
          rw [PolicySnapshot.networkLockPolicy, hpolicy, Option.bind_some]

end Policy

/-! ## The two requests -/

/-- A request that brings the context of another program's tunnel. -/
inductive ContextRequest where
  | setTunnelContext (answers : ApplyAnswers)
  | importRules (params : ImportRulesParams) (rebuildAt : Moment) (answers : ChangeAnswers)

section Requests
variable (env : Externals) (fromCidr : String → Except String IpNet)

def ContextRequest.program (context : TunnelContextParams) :
    ContextRequest → StateProg IpcError Unit
  | .setTunnelContext answers => do
      let _ ← ServiceState.handleRoutingSetTunnelContext env fromCidr (.ok context) answers
      pure ()
  | .importRules params rebuildAt answers =>
      (ChangeRequest.importRules (.ok { params with tunnelContext := some context })
        rebuildAt).program env fromCidr answers

variable {env fromCidr} {context : TunnelContextParams} {s s' : ServiceState}

/-- A request that succeeds has applied the policy in a state that holds the context. -/
theorem contextRequest_applies {request : ContextRequest} (hhandle : s.ctx.handle = none)
    (hactive : s.ctx.activeSession = none) (hconnected : context.connected = true)
    (h : exec (request.program env fromCidr context) s = (.ok (), s')) :
    ∃ before answers, before.External context ∧
      before.ctx.config.networkLock = s.ctx.config.networkLock ∧
      exec (applySplitPolicy env fromCidr answers) before = (.ok (), s') := by
  cases request with
  | setTunnelContext answers =>
      let taken : ServiceState :=
        { s with ctx := ServiceState.takeTunnelContext (some context) s.ctx }
      have htake : exec (onCtx (modify (ServiceState.takeTunnelContext (some context))) :
          StateProg IpcError PUnit) s = (.ok ⟨⟩, taken) := rfl
      simp only [ContextRequest.program, ServiceState.handleRoutingSetTunnelContext, exec_bind,
        htake, orReply, exec_mapError] at h
      cases hexec : exec (applySplitPolicy env fromCidr answers) taken with
      | mk result after =>
          rw [hexec] at h
          cases result with
          | error e => cases h
          | ok _ =>
              have hafter : after = s' := congrArg Prod.snd h
              rw [hafter] at hexec
              exact ⟨taken, answers, ⟨hhandle, hactive, rfl, hconnected⟩, rfl, hexec⟩
  | importRules params rebuildAt answers =>
      rw [ContextRequest.program, exec_change] at h
      dsimp only [ChangeRequest.change] at h
      have hexit := changeRules_exit env fromCidr
        (s.ctx.config.importing { params with tunnelContext := some context }) answers
        (RuleChange.rebuild ⟨s.ctx.config.importing { params with tunnelContext := some context },
          some context, some rebuildAt⟩)
        (RuleChange.taken ⟨s.ctx.config.importing { params with tunnelContext := some context },
          some context, some rebuildAt⟩ s)
      rw [h] at hexit
      cases hexit with
      | @applied engine _ hsaved hbuilt hexec =>
          refine ⟨_, answers.apply, ?_, ?_, hexec⟩
          · exact ⟨hhandle, hactive, rfl, hconnected⟩
          · rfl

theorem contextRequest_passes {request : ContextRequest} {endpoint : String}
    (hhandle : s.ctx.handle = none) (hactive : s.ctx.activeSession = none)
    (hlock : s.ctx.config.networkLock.enabled = true) (hconnected : context.connected = true)
    (hendpoint : context.endpointIp = some endpoint)
    (h : exec (request.program env fromCidr context) s = (.ok (), s')) :
    ∃ policy before, s'.passedLockPolicy = some policy ∧
      policy.endpoint = SocketAddr.parse endpoint ∧
      exec (NetworkLock.enable fromCidr policy) before = (.ok (), s'.lock) := by
  obtain ⟨before, answers, hs, hsame, hexec⟩ :=
    contextRequest_applies hhandle hactive hconnected h
  have hlock' : before.ctx.config.networkLock.enabled = true := by rw [hsame, hlock]
  exact applySplitPolicy_passes hs hendpoint hlock' hexec

/-- The lock is passed a policy that has no endpoint permit for the address, whatever it is. -/
theorem externalEndpoint_lost (request : ContextRequest) {endpoint : String} {ip : IpAddr}
    (hhandle : s.ctx.handle = none) (hactive : s.ctx.activeSession = none)
    (hlock : s.ctx.config.networkLock.enabled = true) (hconnected : context.connected = true)
    (hendpoint : context.endpointIp = some endpoint) (hip : IpAddr.parse endpoint = some ip)
    (h : exec (request.program env fromCidr context) s = (.ok (), s')) :
    (∃ policy before, s'.passedLockPolicy = some policy ∧
      exec (NetworkLock.enable fromCidr policy) before = (.ok (), s'.lock)) ∧
    ¬s'.PermitsEndpoint ip := by
  obtain ⟨policy, before, hpassed, hparsed, henable⟩ :=
    contextRequest_passes hhandle hactive hlock hconnected hendpoint h
  refine ⟨⟨policy, before, hpassed, henable⟩, ?_⟩
  rintro ⟨policy', ep, hpassed', hep, _⟩
  cases hpassed.symm.trans hpassed'
  rw [hparsed, parse_none_of_ip hip] at hep
  cases hep

end Requests

/-! ## A VPN client that reports its tunnel -/

def vpnContext : TunnelContextParams := ⟨some 7, some "198.51.100.7", true⟩

def lockedConfig : AppConfig := { networkLock := { enabled := true } }

def lockedService : ServiceState :=
  { plainService with ctx := { plainService.ctx with config := lockedConfig } }

theorem applySplitWfp_calm {policy : PolicySnapshot} {filters : FilterState}
    (hfaults : filters.engine.faults = []) (hsave : filters.lock.saveFault = none)
    (hsteps : splitSteps readCidr policy = []) :
    (exec (applySplitWfp readCidr ⟨policy, true, .ok (), .ok ()⟩) filters).1 = .ok () := by
  obtain ⟨result, after, _, _, _, hsplit, _, _, _, _, hcase⟩ := applySplitWfp_spec
    readsLockCidrs_readCidr ⟨policy, true, .ok (), .ok ()⟩ filters
  rw [hsplit]
  rcases hcase with ⟨_, _, hfails⟩ | ⟨hstopped, _⟩
  · cases result with
    | ok _ => rfl
    | error e =>
        rcases hfails.mp ⟨e, rfl⟩ with ⟨_, _, hnot⟩ | ⟨_, hunsaved⟩ | ⟨_, hunsaved⟩
        · refine absurd ⟨?_, hsave⟩ hnot
          intro fault hmem
          rw [hfaults, List.drop_nil, List.take_nil] at hmem
          cases hmem
        · cases hunsaved
        · cases hunsaved
  · refine absurd ?_ hstopped
    rw [Completes, newRules, hsteps]
    rfl

theorem vpnContext_taken : ∃ s', exec ((ContextRequest.setTunnelContext calmAnswers).program
    .asciiIpv4 readCidr vpnContext) lockedService = (.ok (), s') := by
  let taken : ServiceState :=
    { lockedService with ctx := ServiceState.takeTunnelContext (some vpnContext) lockedService.ctx }
  have htake : exec (onCtx (modify (ServiceState.takeTunnelContext (some vpnContext))) :
      StateProg IpcError PUnit) lockedService = (.ok ⟨⟩, taken) := rfl
  obtain ⟨ctx, hctx⟩ : ∃ ctx, (exec (applyFullPolicy (calmAnswers.routes .asciiIpv4)) taken.ctx).2 =
      ctx := ⟨_, rfl⟩
  have hfull : exec (applyFullPolicy (calmAnswers.routes .asciiIpv4)) taken.ctx = (.ok (), ctx) :=
    Prod.ext rfl hctx
  obtain ⟨policy, hcached, hmode, happs, hblocks⟩ : ∃ policy, ctx.domain.cachedPolicy =
      some policy ∧ policy.routingMode = .fullTunnel ∧ policy.bypassApps = [] ∧
        policy.blockCidrs = [] := by
    rw [← hctx]
    exact ⟨_, rfl, rfl, rfl, rfl⟩
  have hconfig : ctx.config = lockedConfig := by
    rw [← hctx, applyFullPolicy_domain]
    rfl
  let applied : ServiceState := { taken with ctx := ctx }
  have hdns : exec (applyDomainDnsWfp readCidr calmAnswers) applied = (.ok (), applied) := by
    have happlied : applied.ctx.config = lockedConfig := hconfig
    simp only [applyDomainDnsWfp, exec_bind, exec_get, happlied]
    rfl
  have hsteps : splitSteps readCidr policy = [] := by
    simp only [splitSteps, hmode, happs, hblocks]
    split <;> rfl
  have hdone : exec (applySplitWfp readCidr ⟨policy, true, .ok (), .ok ()⟩) applied.filters =
      (.ok (),
        (exec (applySplitWfp readCidr ⟨policy, true, .ok (), .ok ()⟩) applied.filters).2) :=
    Prod.ext (applySplitWfp_calm rfl rfl hsteps) rfl
  obtain ⟨after, hafter⟩ : ∃ after, applied.withFilters (exec (applySplitWfp readCidr
      ⟨policy, true, .ok (), .ok ()⟩) applied.filters).2 = after := ⟨_, rfl⟩
  have hfilters : exec (applyFilters readCidr calmAnswers) applied = (.ok (), after) := by
    have hcached' : applied.ctx.domain.cachedPolicy = some policy := hcached
    have hlock : applied.ctx.config.networkLock.enabled = true := by
      rw [show applied.ctx.config = lockedConfig from hconfig]
      rfl
    rw [applyFilters, exec_bind_ok hdns, exec_bind_ok (exec_get applied)]
    simp only [hcached', hlock, onFilters, exec_zoom, calmAnswers]
    rw [hdone, ← hafter]
  have hpolicy : exec (orReply (applySplitPolicy .asciiIpv4 readCidr calmAnswers)) taken =
      (.ok (), after) := by
    have hroutes : exec (onCtx (applyFullPolicy (calmAnswers.routes .asciiIpv4))) taken =
        (.ok (), applied) := by rw [onCtx, exec_zoom, hfull]
    rw [orReply, exec_mapError, applySplitPolicy, exec_bind_ok hroutes, hfilters]
    rfl
  have hrequest : exec (ServiceState.handleRoutingSetTunnelContext .asciiIpv4 readCidr
      (.ok vpnContext) calmAnswers) lockedService = (.ok true, after) := by
    rw [ServiceState.handleRoutingSetTunnelContext, exec_bind_ok htake, exec_bind_ok hpolicy]
    rfl
  refine ⟨after, ?_⟩
  rw [ContextRequest.program, exec_bind_ok hrequest]
  rfl

theorem externalEndpoint_lost_vpn : ∃ s', exec ((ContextRequest.setTunnelContext
    calmAnswers).program .asciiIpv4 readCidr vpnContext) lockedService = (.ok (), s') ∧
      ¬s'.PermitsEndpoint (ipv4 198 51 100 7) := by
  obtain ⟨s', h⟩ := vpnContext_taken
  exact ⟨s', h, (externalEndpoint_lost (.setTunnelContext calmAnswers) rfl rfl rfl rfl rfl
    (by decide) h).2⟩

/-- The address a VPN client reports is not let out. -/
theorem vpnEndpoint_blocked : ¬∀ (env : Externals) (fromCidr : String → Except String IpNet)
    (request : ContextRequest) (context : TunnelContextParams) (s s' : ServiceState)
    (endpoint : String) (ip : IpAddr), s.ctx.handle = none → s.ctx.activeSession = none →
      s.ctx.config.networkLock.enabled = true → context.connected = true →
      context.ifIndex.isSome = true → context.endpointIp = some endpoint →
      IpAddr.parse endpoint = some ip →
      exec (request.program env fromCidr context) s = (.ok (), s') → s'.PermitsEndpoint ip := by
  intro hall
  obtain ⟨s', h⟩ := vpnContext_taken
  obtain ⟨policy, _, hpassed, hparsed, _⟩ := contextRequest_passes rfl rfl rfl rfl rfl h
  have hpermits := hall _ _ _ _ _ _ _ (ipv4 198 51 100 7) rfl rfl rfl rfl rfl rfl (by decide) h
  obtain ⟨policy', ep, hpassed', hep, _⟩ := hpermits
  cases hpassed.symm.trans hpassed'
  have hip : IpAddr.parse "198.51.100.7" = some (ipv4 198 51 100 7) := by decide
  rw [hparsed, parse_none_of_ip hip] at hep
  cases hep

end RouteGuard
