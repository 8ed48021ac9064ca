import RouteGuard.Routing.SplitPolicy

/-! # The policy of the service

`build_policy` compiles the configuration with the interfaces of the tunnel the
service holds, or of one another program holds, and adds the endpoints of the
active transport. -/
set_option autoImplicit false
namespace RouteGuard

/-- What `build_policy` reads beside the engine and the domain store. -/
structure PolicyView where
  cfg : AppConfig
  handle : Option TunnelHandle
  external : Option TunnelContextParams
  /-- `discover_physical_if_index(idx).ok()` -/
  physicalIf : Nat → Option Nat
  /-- `parse_endpoint_from_config` on the file of that path, if it can be read -/
  confEndpoint : String → Option (Option String)
  /-- the policy endpoints of the active transport session -/
  active : Option PolicyTransportEndpoints

namespace PolicyView
variable (view : PolicyView)

def connectedExternal : Option TunnelContextParams :=
  view.external.filter TunnelContextParams.connected

def tunnelIfIndex : Option Nat :=
  match view.handle with
  | some handle => some handle.ifIndex
  | none => view.connectedExternal.bind TunnelContextParams.ifIndex

def tunnelIfLuid : Option Nat := view.handle.map TunnelHandle.ifLuid

def endpointFromContext : Option String :=
  match view.handle with
  | some _ => none
  | none => view.connectedExternal.bind TunnelContextParams.endpointIp

/-- A failed discovery counts as interface 0, and 0 as unknown. -/
def physicalIfIndex : Option Nat :=
  view.tunnelIfIndex.bind fun index =>
    ((view.physicalIf index).or (some 0)).filter fun found => found ≠ 0

def hasActiveTunnel : Bool :=
  view.handle.isSome || (view.external.map TunnelContextParams.connected).getD false

def withEndpoint (policy : PolicySnapshot) : Except RouteGuardError PolicySnapshot :=
  match view.endpointFromContext, view.handle with
  | some endpoint, _ => .ok { policy with endpoint := some endpoint }
  | none, some handle =>
      match view.cfg.tunnel with
      | none => .error (.config "no tunnel")
      | some tunnel =>
          let endpoint := (view.confEndpoint tunnel.configPath).getD policy.endpoint
          .ok { policy with
            endpoint := endpoint
            tunnelIfIndex := some handle.ifIndex
            tunnelIfLuid := some handle.ifLuid
            physicalIfIndex := view.physicalIfIndex }
  | none, none =>
      match view.connectedExternal with
      | some external =>
          .ok { policy with
            tunnelIfIndex := external.ifIndex
            physicalIfIndex := view.physicalIfIndex }
      | none => .ok policy

def withTransport (policy : PolicySnapshot) : PolicySnapshot :=
  match view.active with
  | none => policy
  | some endpoints =>
      { policy with
        endpoint := some endpoints.wireguardEndpoint.toString
        transportPermits := endpoints.extraPermits
        bypassCidrs := addMissing policy.bypassCidrs (endpoints.bypassIps.map ipToHostCidr) }

end PolicyView

section Build
variable (env : Externals) (o : HashTable.Order) (now : Nat) (view : PolicyView)
  (engine : RoutingEngine) (store : DomainRouteStore)

def buildPolicy : Except RouteGuardError PolicySnapshot := do
  let policy := AppSplitPolicyCompiler.compileWithDomainStore env o now view.cfg engine
    view.tunnelIfIndex view.tunnelIfLuid view.physicalIfIndex (some store)
  let policy ← view.withEndpoint policy
  let policy := { policy with
    dnsServers := addMissing policy.dnsServers view.cfg.routing.domainDns.upstream }
  pure (view.withTransport policy)

/-- The bypass texts that do not come from the domain store. -/
def staticBypassCidrs : List String :=
  addMissing (cidrsFor .bypass view.cfg.routing.ipRules)
    ((engine.snapshot.ipTable.allCidrs .bypass).map env.netToString)

variable {view}

theorem withEndpoint_dynamic {policy policy' : PolicySnapshot}
    (h : view.withEndpoint policy = .ok policy') :
    policy'.dynamicBypassHosts = policy.dynamicBypassHosts ∧
      policy'.dynamicTunnelHosts = policy.dynamicTunnelHosts := by
  unfold PolicyView.withEndpoint at h
  split at h
  · cases h
    exact ⟨rfl, rfl⟩
  · split at h
    · cases h
    · cases h
      exact ⟨rfl, rfl⟩
  · split at h
    · cases h
      exact ⟨rfl, rfl⟩
    · cases h
      exact ⟨rfl, rfl⟩

/-- The dynamic hosts are the live hosts of the store. -/
theorem buildPolicy_dynamic {policy : PolicySnapshot}
    (h : buildPolicy env o now view engine store = .ok policy) :
    policy.dynamicBypassHosts = store.hostCidrsForTarget o now .bypass ∧
      policy.dynamicTunnelHosts = store.hostCidrsForTarget o now .tunnel := by
  simp only [buildPolicy, bind, Except.bind, pure, Except.pure] at h
  split at h
  · cases h
  · rename_i policy' hendpoint
    obtain ⟨hbypass, htunnel⟩ := withEndpoint_dynamic hendpoint
    cases h
    cases hactive : view.active <;>
      simpa only [PolicyView.withTransport, hactive] using ⟨hbypass, htunnel⟩

end Build
end RouteGuard
