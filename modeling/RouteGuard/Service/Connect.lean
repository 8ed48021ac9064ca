import RouteGuard.Service.Sessions

/-! # `tunnel.connect` and `tunnel.disconnect`

The two handlers of `handler.rs`, step by step, and the recovery of a transport.
A response is a result or a code with a message. -/
set_option autoImplicit false
namespace RouteGuard

open HashTable Fallible

structure IpcError where
  code : Int
  message : String
deriving DecidableEq, Repr

structure ConnectResult where
  name : String
  ifIndex : Nat
  backend : String
  fallbackUsed : Bool
  transport : String
  transportFallbackUsed : Bool
  phantunActive : Bool
  lwoActive : Bool
  protocolVersion : Option Nat
  wireFormat : Option String
deriving DecidableEq, Repr

/-! ## Connect -/

structure SelectedTunnel where
  params : ConnectParams
  tunnelCfg : TunnelConfig
  profileTransport : Option TunnelTransportConfig

/-- All that is known before the transport starts. -/
structure ConnectPlan where
  tunnelCfg : TunnelConfig
  confText : String
  peerEndpoint : SocketAddr
  resolved : ResolvedTransport
  choice : TransportChoice
  merged : TunnelTransportConfig

section Connect
variable (req : ConnectRequest)

/-- The profile's name, path, backend and transport replace those of the configuration. -/
def withProfile (profile : TunnelProfile) (tunnelCfg : TunnelConfig) : TunnelConfig :=
  { tunnelCfg with
    name := profile.name
    configPath := profile.configPath
    backend := profile.backend
    transport := profile.transport.getD tunnelCfg.transport }

def selectTunnel (cfg : AppConfig) : Except IpcError SelectedTunnel :=
  match req.params with
  | .error e => .error ⟨-32602, e⟩
  | .ok params =>
      match cfg.tunnel with
      | none => .error ⟨-32602, "no tunnel configured"⟩
      | some tunnel =>
          let tunnel := { tunnel with name := params.name.getD tunnel.name }
          let profile := params.profileName.bind fun _ => req.profile
          let tunnel := (profile.map fun found => withProfile found tunnel).getD tunnel
          let tunnel := { tunnel with configPath := params.configPath.getD tunnel.configPath }
          .ok ⟨params, tunnel, profile.bind TunnelProfile.transport⟩

def readPlan (selected : SelectedTunnel) : Except IpcError ConnectPlan :=
  match req.confText with
  | .error e => .error ⟨-32000, e⟩
  | .ok confText =>
      match parsePeerEndpoint req.parseAddr confText with
      | none => .error ⟨-32602, "missing peer Endpoint"⟩
      | some peerEndpoint =>
          match req.transport with
          | .error e => .error ⟨-32000, e.toString⟩
          | .ok (resolved, choice, merged) =>
              .ok ⟨selected.tunnelCfg, confText, peerEndpoint, resolved, choice, merged⟩

theorem readPlan_ok {selected : SelectedTunnel} {plan : ConnectPlan}
    (h : readPlan req selected = .ok plan) :
    plan.tunnelCfg = selected.tunnelCfg ∧ req.confText = .ok plan.confText ∧
      parsePeerEndpoint req.parseAddr plan.confText = some plan.peerEndpoint ∧
      req.transport = .ok (plan.resolved, plan.choice, plan.merged) := by
  rw [readPlan] at h
  cases hconf : req.confText with
  | error e =>
      rw [hconf] at h
      cases h
  | ok confText =>
      rw [hconf] at h
      dsimp only at h
      cases hpeer : parsePeerEndpoint req.parseAddr confText with
      | none =>
          rw [hpeer] at h
          cases h
      | some peer =>
          rw [hpeer] at h
          dsimp only at h
          cases htransport : req.transport with
          | error e =>
              rw [htransport] at h
              cases h
          | ok found =>
              rw [htransport] at h
              cases h
              exact ⟨rfl, rfl, hpeer, rfl⟩

def announce (plan : ConnectPlan) (ctx : ServiceContext) : ServiceContext :=
  (ctx.publishIf plan.resolved.fallback (.transportFallback plan.tunnelCfg.name
    (plan.resolved.requested.getD plan.resolved.kind) plan.resolved.kind
    (plan.resolved.fallbackReason.getD "transport_unavailable"))).publish
    (.transportStarting plan.tunnelCfg.name plan.resolved.kind)

def transportConnected (name : String) (session : TransportSession) : TunnelEvent :=
  .transportConnected name session.kind session.wireguardEndpoint.toString
    (session.remoteTransport.map SocketAddr.toString)
    (if session.kind = .lwo then some session.protocolVersion else none) session.wireFormat

def rollbackTransport (choice : TransportChoice) (prepared : PreparedConnect)
    (ctx : ServiceContext) : ServiceContext :=
  match prepared.transportSession with
  | none => ctx
  | some session => (transportDown choice session ctx).publish
      (.transportDisconnected prepared.tunnelConfig.name session.kind)

def connectConfig (plan : ConnectPlan) (prepared : PreparedConnect) : TunnelConfig :=
  { plan.tunnelCfg with
    configPath := prepared.runtimeConfPath
    mtu := prepared.effectiveMtu
    transport := plan.merged }

def connectResult (plan : ConnectPlan) (prepared : PreparedConnect) (backend : ResolvedBackend)
    (handle : TunnelHandle) : ConnectResult where
  name := handle.name
  ifIndex := handle.ifIndex
  backend := handle.backend.asStr
  fallbackUsed := backend.fallback
  transport := plan.resolved.kind.asStr
  transportFallbackUsed := plan.resolved.fallback
  phantunActive := decide (plan.resolved.kind = .phantun) && !plan.resolved.fallback
  lwoActive := decide (plan.resolved.kind = .lwo) && !plan.resolved.fallback
  protocolVersion := prepared.transportSession.map TransportSession.protocolVersion
  wireFormat := prepared.transportSession.bind TransportSession.wireFormat

def announceTransport (plan : ConnectPlan) (prepared : PreparedConnect) (ctx : ServiceContext) :
    ServiceContext :=
  match prepared.transportSession with
  | none => ctx
  | some session => ctx.publish (transportConnected plan.tunnelCfg.name session)

def storeActive (plan : ConnectPlan) (prepared : PreparedConnect) (ctx : ServiceContext) :
    ServiceContext :=
  match ActiveConnectSession.fromPrepared prepared plan.choice plan.tunnelCfg.configPath with
  | none => ctx
  | some active => { ctx with activeSession := some active }

/-- After the backend is up: the handle, the active session and the policy. -/
def finishConnect (plan : ConnectPlan) (prepared : PreparedConnect) (backend : ResolvedBackend)
    (handle : TunnelHandle) : ServiceProg IpcError ConnectResult := do
  modify (ServiceContext.completeConnect handle)
  modify (storeActive plan prepared)
  match ← caught (applyFullPolicy req.policy) with
  | .error e => throw ⟨-32000, e.toString⟩
  | .ok _ => pure (connectResult plan prepared backend handle)

def failBackend (plan : ConnectPlan) (prepared : PreparedConnect) (e : RouteGuardError) :
    ServiceProg IpcError ConnectResult := do
  modify (rollbackTransport plan.choice prepared)
  throw ⟨-32000, e.toString⟩

/-- After the transport is up: the backend, with the transport taken back if it fails. -/
def bringUp (plan : ConnectPlan) (prepared : PreparedConnect) :
    ServiceProg IpcError ConnectResult := do
  modify (announceTransport plan prepared)
  match resolveBackend req (connectConfig plan prepared) with
  | .error e => failBackend plan prepared e
  | .ok (backend, choice) => do
      modify (ServiceContext.publishIf backend.fallback (.backendFallback plan.tunnelCfg.name .awg
        backend.kind (backend.fallbackReason.getD "awg_unavailable")))
      modify (ServiceContext.beginConnect plan.tunnelCfg.name)
      match ← caught (backendUp req choice (connectConfig plan prepared)) with
      | .error e => failBackend plan prepared e
      | .ok handle => finishConnect req plan prepared backend handle

def handleConnect : ServiceProg IpcError ConnectResult := do
  let cfg := (← get).config
  let selected ← fromResult (selectTunnel req cfg)
  modify (ServiceContext.setConfig { cfg with tunnel := some selected.tunnelCfg })
  let plan ← fromResult (readPlan req selected)
  modify (announce plan)
  match ← caught (prepare req plan.choice plan.merged plan.peerEndpoint plan.tunnelCfg.name
      plan.confText plan.resolved) with
  | .error e => do
      modify (ServiceContext.publish
        (.transportFailed plan.tunnelCfg.name plan.resolved.kind e.toString false))
      throw ⟨-32000, e.toString⟩
  | .ok prepared => bringUp req plan prepared

end Connect

/-! ## Disconnect -/

/-- The active session leaves its store before its transport goes down. -/
def takeActive (name : String) (ctx : ServiceContext) : ServiceContext :=
  match ctx.activeSession with
  | none => ctx
  | some active => transportDown active.transportChoice active.transportSession
      (({ ctx with activeSession := none } : ServiceContext).publish
        (.transportDisconnected name active.transportSession.kind))

/-- The removal of the network lock and of the split filters comes first; it is not part of
this state. -/
def handleDisconnect (req : DisconnectRequest) : ServiceProg IpcError Unit := do
  match (← get).handle with
  | none => throw ⟨-32000, "no active tunnel"⟩
  | some handle => do
      modify (ServiceContext.publish (.disconnecting handle.name))
      modify (takeActive handle.name)
      match ← caught (backendDown req (choiceFor handle.backend) handle) with
      | .error e => throw ⟨-32000, e.toString⟩
      | .ok _ => do
          modify (ServiceContext.disconnectWithHandle handle)
          modify fun ctx => { ctx with
            domain := ctx.domain.attempt (SessionRoutes.clear req.routeOrder)
            activeSession := none }

/-! ## Recovery of a transport -/

section Recovery
variable (req : ConnectRequest)

def restartTransport (active : ActiveConnectSession) :
    ServiceProg String ActiveConnectSession := do
  let confText ← fromResult (req.confText.mapError fun e => "read source conf: " ++ e)
  match ← caught (restart req active.transportChoice active.mergedTransport active.peerEndpoint
      active.tunnelName confText active.resolvedTransport active.transportSession) with
  | .error e => throw e.toString
  | .ok prepared =>
      match ActiveConnectSession.fromPrepared prepared active.transportChoice
          active.sourceConfigPath with
      | none => throw "transport restart produced no session"
      | some newActive => pure newActive

/-- An attempt of the health monitor, for the session it read before it waited. -/
def recover (attempt : Nat) (active : ActiveConnectSession) : ServiceProg String Unit := do
  match (← get).activeSession with
  | none => pure ()
  | some _ =>
      match ← caught (restartTransport req active) with
      | .ok newActive => do
          modify (ServiceContext.publish
            (.transportRecoveryResult active.transportSession.kind attempt true none))
          modify (ServiceContext.publish
            (transportConnected newActive.tunnelName newActive.transportSession))
          modify fun ctx => { ctx with activeSession := some newActive }
          let _ ← caught (applyFullPolicy req.policy)
          pure ()
      | .error reason => do
          modify (ServiceContext.publish
            (.transportRecoveryResult active.transportSession.kind attempt false (some reason)))
          modify (ServiceContext.publish (.transportFailed active.tunnelName
            active.transportSession.kind reason (decide (attempt < 3))))

end Recovery

/-! ## Runs -/

inductive ServiceRequest where
  | connect (req : ConnectRequest)
  | disconnect (req : DisconnectRequest)

/-- The service handles one request at a time. -/
def serve (ctx : ServiceContext) (request : ServiceRequest) : ServiceContext :=
  match request with
  | .connect req => (exec (handleConnect req) ctx).2
  | .disconnect req => (exec (handleDisconnect req) ctx).2

/-- The states of a service: its requests and recoveries, and whatever else writes only the
configuration, the policy and the events. -/
inductive Reachable : ServiceContext → Prop where
  | start (config : AppConfig) (domain : DomainRouting) :
      Reachable { config := config, domain := domain }
  | request {ctx : ServiceContext} (h : Reachable ctx) (request : ServiceRequest) :
      Reachable (serve ctx request)
  | recovery {ctx : ServiceContext} (h : Reachable ctx) (req : ConnectRequest) (attempt : Nat)
      (active : ActiveConnectSession) : Reachable (exec (recover req attempt active) ctx).2
  | other {ctx : ServiceContext} (h : Reachable ctx) (config : AppConfig)
      (external : Option TunnelContextParams) (domain : DomainRouting)
      (events : List TunnelEvent) :
      Reachable { ctx with config := config, externalTunnel := external, domain := domain,
                           events := events }

end RouteGuard
