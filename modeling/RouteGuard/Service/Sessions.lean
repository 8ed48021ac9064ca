import RouteGuard.Core.Conf
import RouteGuard.Service.DomainRouting

/-! # Sessions of a connection

The owners of one connection: the orchestrator, the tunnel backends, the relays
of the transports and the store of the active session.  What the platform
answers while a request is handled is a record of results. -/
set_option autoImplicit false
namespace RouteGuard

open HashTable Fallible

/-! ## State -/

inductive TransportChoice where
  | directUdp
  | phantun
  | lwo
deriving DecidableEq, Repr

def TransportChoice.kind : TransportChoice → TransportKind
  | .directUdp => .directUdp
  | .phantun => .phantun
  | .lwo => .lwo

inductive BackendChoice where
  | wgnt
  | awg
deriving DecidableEq, Repr

def BackendChoice.kind : BackendChoice → BackendKind
  | .wgnt => .wireGuardNt
  | .awg => .awg

def choiceFor : BackendKind → BackendChoice
  | .awg => .awg
  | .wireGuardNt => .wgnt

structure Relay where
  localAddr : SocketAddr
  remote : SocketAddr
deriving DecidableEq, Repr

/-- `NEXT_ID` and `RUNNING` of a transport. -/
structure Registry where
  nextId : Nat := 1
  running : Table Nat Relay := ∅

def Registry.insert (registry : Registry) (relay : Relay) : Registry where
  nextId := registry.nextId + 1
  running := registry.running.insert registry.nextId relay

def Registry.remove (registry : Registry) (id : Nat) : Registry :=
  { registry with running := registry.running.remove id }

structure ActiveConnectSession where
  tunnelName : String
  sourceConfigPath : String
  peerEndpoint : SocketAddr
  mergedTransport : TunnelTransportConfig
  transportSession : TransportSession
  transportChoice : TransportChoice
  resolvedTransport : ResolvedTransport
  runtimeConfPath : String
deriving DecidableEq, Repr

def ActiveConnectSession.fromPrepared (prepared : PreparedConnect) (choice : TransportChoice)
    (sourceConfigPath : String) : Option ActiveConnectSession :=
  prepared.transportSession.map fun session =>
    { tunnelName := prepared.tunnelConfig.name
      sourceConfigPath := sourceConfigPath
      peerEndpoint := session.originalEndpoint
      mergedTransport := prepared.tunnelConfig.transport
      transportSession := session
      transportChoice := choice
      resolvedTransport := prepared.resolved
      runtimeConfPath := prepared.runtimeConfPath }

/-- A session of a tunnel backend, by the name of its adapter. -/
structure TunnelSession where
  adapter : String
deriving DecidableEq, Repr

/-- `wgnt` and `awg` are the session maps of the two backends. -/
structure ServiceContext where
  config : AppConfig
  state : SessionState := .disconnected
  handle : Option TunnelHandle := none
  nextUuid : Nat := 0
  wgnt : Table Nat TunnelSession := ∅
  awg : Table Nat TunnelSession := ∅
  lwo : Registry := {}
  phantun : Registry := {}
  activeSession : Option ActiveConnectSession := none
  externalTunnel : Option TunnelContextParams := none
  domain : DomainRouting
  events : List TunnelEvent := []

namespace ServiceContext

def publish (event : TunnelEvent) (ctx : ServiceContext) : ServiceContext :=
  { ctx with events := ctx.events ++ [event] }

def publishIf (condition : Bool) (event : TunnelEvent) (ctx : ServiceContext) : ServiceContext :=
  if condition then ctx.publish event else ctx

def sessions (ctx : ServiceContext) : BackendKind → Table Nat TunnelSession
  | .wireGuardNt => ctx.wgnt
  | .awg => ctx.awg

def withSessions (kind : BackendKind) (table : Table Nat TunnelSession) (ctx : ServiceContext) :
    ServiceContext :=
  match kind with
  | .wireGuardNt => { ctx with wgnt := table }
  | .awg => { ctx with awg := table }

/-- Direct UDP runs nothing. -/
def running (ctx : ServiceContext) : TransportKind → Table Nat Relay
  | .directUdp => ∅
  | .phantun => ctx.phantun.running
  | .lwo => ctx.lwo.running

end ServiceContext

abbrev ServiceProg (E A : Type) := Prog ServiceContext E A

/-! ## Answers of the platform -/

/-- What applying a policy reads and meets outside the service. -/
structure PolicyAnswers where
  env : Externals
  moment : Moment
  physicalIf : Nat → Option Nat
  confEndpoint : String → Option (Option String)
  /-- `apply_domain_dns_wfp` and `apply_split_wfp` -/
  filters : Except RouteGuardError Unit

structure ConnectParams where
  name : Option String := none
  configPath : Option String := none
  profileName : Option String := none
  transport : Option TunnelTransportConfig := none
deriving DecidableEq, Repr

/-- A connect request and what happens outside the service while it is handled. -/
structure ConnectRequest where
  params : Except String ConnectParams
  /-- `get_profile` of the named profile, when it is found -/
  profile : Option TunnelProfile
  /-- the text of the configuration file -/
  confText : Except String String
  /-- `<SocketAddr as FromStr>` -/
  parseAddr : String → Option SocketAddr
  /-- `TransportSelector::resolve` -/
  transport : Except RouteGuardError (ResolvedTransport × TransportChoice × TunnelTransportConfig)
  /-- keys, remote, listening address and start of the LWO relay -/
  lwoStart : Except RouteGuardError Relay
  /-- probe, remote and local address of Phantun -/
  phantunSelect : Except RouteGuardError Relay
  phantunSpawn : Except RouteGuardError Unit
  runtimeConfPath : String → String
  /-- `create_dir_all` and `write` of the runtime configuration -/
  storeConf : Except RouteGuardError Unit
  confHasAwg : Bool
  /-- `probe_awg_library`, and its answer where it is asked again -/
  awgLibrary : Bool
  awgLibraryAgain : Bool
  /-- the steps of `up` before its session is stored; interface index and LUID -/
  backendUp : Except RouteGuardError (Nat × Nat)
  policy : PolicyAnswers

structure DisconnectRequest where
  /-- `SessionRoutes::clear` on the routes of the backend session -/
  clearRoutes : Except RouteGuardError Unit
  routeOrder : Order

/-! ## Transports -/

section Transports
variable (req : ConnectRequest)

def transportUp (choice : TransportChoice) (cfg : TunnelTransportConfig) (peer : SocketAddr) :
    ServiceProg RouteGuardError TransportSession :=
  match choice with
  | .directUdp =>
      pure { kind := .directUdp, handleId := 0, wireguardEndpoint := peer, originalEndpoint := peer,
             remoteTransport := none, effectiveMtu := 1500 - 80, protocolVersion := 0,
             wireFormat := none }
  | .lwo => do
      let relay ← fromResult req.lwoStart
      let handleId := (← get).lwo.nextId
      modify fun ctx => { ctx with lwo := ctx.lwo.insert relay }
      pure { kind := .lwo, handleId := handleId, wireguardEndpoint := relay.localAddr,
             originalEndpoint := peer, remoteTransport := some relay.remote,
             effectiveMtu := 1500 - 80,
             protocolVersion := (cfg.lwo.map LwoTransportConfig.protocolVersion).getD 0,
             wireFormat := some "mullvad" }
  | .phantun => do
      let relay ← fromResult req.phantunSelect
      let handleId := (← get).phantun.nextId
      -- `spawn_phantun` draws the identifier before it starts the process
      modify fun ctx => { ctx with phantun := { ctx.phantun with nextId := handleId + 1 } }
      fromResult req.phantunSpawn
      modify fun ctx => { ctx with phantun :=
        { ctx.phantun with running := ctx.phantun.running.insert handleId relay } }
      pure { kind := .phantun, handleId := handleId, wireguardEndpoint := relay.localAddr,
             originalEndpoint := peer, remoteTransport := some relay.remote,
             effectiveMtu := 1500 - (20 + 20 + 32), protocolVersion := 0, wireFormat := none }

/-- `TransportBackend::down`; no transport reports an error. -/
def transportDown (choice : TransportChoice) (session : TransportSession) (ctx : ServiceContext) :
    ServiceContext :=
  match choice with
  | .directUdp => ctx
  | .lwo => { ctx with lwo := ctx.lwo.remove session.handleId }
  | .phantun => { ctx with phantun := ctx.phantun.remove session.handleId }

def policyEndpoints (active : ActiveConnectSession) : PolicyTransportEndpoints :=
  let session := active.transportSession
  let remote := session.remoteTransport.getD session.originalEndpoint
  match active.transportChoice with
  | .directUdp => ⟨session.wireguardEndpoint, session.originalEndpoint,
      [session.originalEndpoint.ip], []⟩
  | .lwo => ⟨session.wireguardEndpoint, session.originalEndpoint, [remote.ip], []⟩
  | .phantun => ⟨session.wireguardEndpoint, session.originalEndpoint, [remote.ip],
      [⟨remote.ip, some remote.port, .tcp⟩]⟩

def prepare (choice : TransportChoice) (merged : TunnelTransportConfig) (peer : SocketAddr)
    (name confText : String) (resolved : ResolvedTransport) :
    ServiceProg RouteGuardError PreparedConnect := do
  let session ← transportUp req choice merged peer
  let _ ← fromResult
    (rewriteConfEndpoint session.wireguardEndpoint (some session.effectiveMtu) confText)
  fromResult req.storeConf
  let path := req.runtimeConfPath name
  pure { tunnelConfig := { name := name, configPath := path, mtu := session.effectiveMtu,
                           transport := merged }
         runtimeConfPath := path
         transportSession := some session
         effectiveMtu := session.effectiveMtu
         resolved := resolved }

/-- `TransportSelector::restart`: the old session goes down first. -/
def restart (choice : TransportChoice) (merged : TunnelTransportConfig) (peer : SocketAddr)
    (name confText : String) (resolved : ResolvedTransport) (old : TransportSession) :
    ServiceProg RouteGuardError PreparedConnect := do
  modify (transportDown choice old)
  prepare req choice merged peer name confText resolved

end Transports

/-! ## Backends -/

section Backends
variable (req : ConnectRequest)

def resolveBackend (config : TunnelConfig) :
    Except RouteGuardError (ResolvedBackend × BackendChoice) :=
  match config.backend with
  | .wireGuardNt => .ok (⟨.wireGuardNt, false, none⟩, .wgnt)
  | .awg =>
      if req.awgLibrary then .ok (⟨.awg, false, none⟩, .awg)
      else .error (.platform "backend=awg requires amneziawg tunnel.dll")
  | .auto =>
      if req.confHasAwg && req.awgLibrary then .ok (⟨.awg, false, none⟩, .awg)
      else if req.confHasAwg && !req.awgLibraryAgain then
        if config.requireAwg then
          .error (.platform "require_awg set but tunnel.dll not available")
        else .ok (⟨.wireGuardNt, true, some "awg_params_present_dll_missing"⟩, .wgnt)
      else .ok (⟨.wireGuardNt, false, none⟩, .wgnt)

/-- `up` stores the session last, under a new identifier. -/
def backendUp (choice : BackendChoice) (config : TunnelConfig) :
    ServiceProg RouteGuardError TunnelHandle := do
  let (ifIndex, ifLuid) ← fromResult req.backendUp
  let id := (← get).nextUuid
  modify fun ctx => ServiceContext.withSessions choice.kind
    ((ctx.sessions choice.kind).insert id ⟨config.name⟩) { ctx with nextUuid := id + 1 }
  pure { id := id, name := config.name, ifIndex := ifIndex, ifLuid := ifLuid,
         backend := choice.kind }

/-- `down` removes the session before it clears the session's routes. -/
def backendDown (req : DisconnectRequest) (choice : BackendChoice) (handle : TunnelHandle) :
    ServiceProg RouteGuardError Unit := do
  match ((← get).sessions choice.kind).get handle.id with
  | none => throw (.tunnel "session not found")
  | some _ =>
      modify fun ctx =>
        ctx.withSessions choice.kind ((ctx.sessions choice.kind).remove handle.id)
      match req.clearRoutes with
      | .error e => throw (.tunnel e.toString)
      | .ok _ => pure ()

end Backends

/-! ## The orchestrator -/

namespace ServiceContext

/-- `set_config`; the handler drops the result of saving the file. -/
def setConfig (config : AppConfig) (ctx : ServiceContext) : ServiceContext :=
  { ctx with config := config }

def beginConnect (name : String) (ctx : ServiceContext) : ServiceContext :=
  { ctx with state := .connecting }.publish (.connecting name)

def completeConnect (handle : TunnelHandle) (ctx : ServiceContext) : ServiceContext :=
  (({ ctx with handle := some handle, state := .connected } : ServiceContext).publishIf
    (handle.backend = .awg) (.awgConnected handle.name handle.ifIndex)).publish
    (.connected handle.name handle.ifIndex handle.backend)

/-- `disconnect_with_handle`, which ends in `clear_handle`. -/
def disconnectWithHandle (handle : TunnelHandle) (ctx : ServiceContext) : ServiceContext :=
  { ctx with handle := none, state := .disconnected }.publish
    (.disconnected handle.name handle.backend)

def policyView (answers : PolicyAnswers) (ctx : ServiceContext) : PolicyView where
  cfg := ctx.config
  handle := ctx.handle
  external := ctx.externalTunnel
  physicalIf := answers.physicalIf
  confEndpoint := answers.confEndpoint
  active := ctx.activeSession.map policyEndpoints

end ServiceContext

/-- `apply_full_policy`: the routes, then the filters. -/
def applyFullPolicy (answers : PolicyAnswers) : ServiceProg RouteGuardError Unit := do
  let ctx ← get
  let (result, domain) :=
    ctx.domain.applySplitPolicy answers.env answers.moment (ctx.policyView answers)
  set { ctx with domain := domain }
  fromResult result
  fromResult answers.filters

end RouteGuard
