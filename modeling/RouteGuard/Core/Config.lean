import RouteGuard.Core.Net

/-! # Configuration, policy and error types of `routeguard-core`

Field names, variants and defaults are those of `config.rs`, `backend.rs`,
`transport/mod.rs`, `policy.rs` and `error.rs`.  A path is its text. -/
set_option autoImplicit false
namespace RouteGuard

/-- `error.rs`; a transparent variant carries the text of the error it wraps. -/
inductive RouteGuardError where
  | config (message : String)
  | tunnel (message : String)
  | routing (message : String)
  | networkLock (message : String)
  | ipc (message : String)
  | platform (message : String)
  | dns (message : String)
  | serviceNotRunning
  | invalidState (message : String)
  | unsupportedPlatform
  | io (message : String)
  | serdeJson (message : String)
  | toml (message : String)
deriving DecidableEq, Repr

def RouteGuardError.toString : RouteGuardError → String
  | .config message => "configuration error: " ++ message
  | .tunnel message => "tunnel error: " ++ message
  | .routing message => "routing error: " ++ message
  | .networkLock message => "network lock error: " ++ message
  | .ipc message => "IPC error: " ++ message
  | .platform message => "platform error: " ++ message
  | .dns message => "DNS error: " ++ message
  | .serviceNotRunning => "service not running"
  | .invalidState message => "invalid state: " ++ message
  | .unsupportedPlatform => "not supported on this platform"
  | .io message => message
  | .serdeJson message => message
  | .toml message => message

/-! ## Routing rules -/

inductive RoutingMode where
  | fullTunnel
  | splitInclude
deriving DecidableEq, Repr, Inhabited

inductive RuleMode where
  | «include»
  | exclude
deriving DecidableEq, Repr

inductive RouteTarget where
  | tunnel
  | bypass
  | block
deriving DecidableEq, Repr

structure AppRule where
  priority : Nat
  mode : RuleMode
  path : String
deriving DecidableEq, Repr

structure IpRule where
  priority : Nat
  cidr : String
  target : RouteTarget
deriving DecidableEq, Repr

structure DomainRule where
  priority : Nat
  pattern : String
  target : RouteTarget
deriving DecidableEq, Repr

structure DomainDnsConfig where
  enabled : Bool := true
  listen : String := "127.0.0.1:5353"
  listenV6 : String := "[::1]:5353"
  upstream : List String := ["1.1.1.1:53", "[2606:4700:4700::1111]:53"]
  redirectPort53 : Bool := false
  kernelRedirect : Bool := false
  explicitProxy : Bool := false
  minTtlSecs : Nat := 30
  maxTtlSecs : Nat := 3600
  maxResolvedIps : Nat := 50000
  maxDomains : Nat := 10000
deriving DecidableEq, Repr

structure RoutingConfig where
  mode : RoutingMode := .fullTunnel
  appRules : List AppRule := []
  ipRules : List IpRule := []
  domainRules : List DomainRule := []
  domainDns : DomainDnsConfig := {}
deriving DecidableEq, Repr

structure NetworkLockConfig where
  enabled : Bool := false
  allowLan : Bool := true
  dnsServers : List String := []
deriving DecidableEq, Repr

/-! ## Tunnel backends and transports -/

inductive BackendKind where
  | wireGuardNt
  | awg
deriving DecidableEq, Repr

def BackendKind.asStr : BackendKind → String
  | .wireGuardNt => "wireguard_nt"
  | .awg => "awg"

inductive TunnelBackendPreference where
  | auto
  | wireGuardNt
  | awg
deriving DecidableEq, Repr

inductive TransportKind where
  | directUdp
  | phantun
  | lwo
deriving DecidableEq, Repr

def TransportKind.asStr : TransportKind → String
  | .directUdp => "direct_udp"
  | .phantun => "phantun"
  | .lwo => "lwo"

inductive TransportPreference where
  | auto
  | directUdp
  | phantun
  | lwo
deriving DecidableEq, Repr

structure PhantunTransportConfig where
  remoteTcp : Option String := none
  localListen : Option String := none
deriving DecidableEq, Repr

structure LwoTransportConfig where
  remoteUdp : Option String := none
  localListen : Option String := none
  protocolVersion : Nat := 0
  mode : Option String := none
deriving DecidableEq, Repr

structure TunnelTransportConfig where
  preference : TransportPreference := .auto
  requirePhantun : Bool := false
  requireLwo : Bool := false
  phantun : Option PhantunTransportConfig := none
  lwo : Option LwoTransportConfig := none
deriving DecidableEq, Repr

inductive TransportProtocol where
  | udp
  | tcp
deriving DecidableEq, Repr

structure TransportPermitRule where
  remoteIp : IpAddr
  remotePort : Option UInt16
  protocol : TransportProtocol
deriving DecidableEq, Repr

structure TunnelConfig where
  name : String
  configPath : String
  mtu : Nat := 1420
  backend : TunnelBackendPreference := .auto
  requireAwg : Bool := false
  transport : TunnelTransportConfig := {}
deriving DecidableEq, Repr

/-- `Uuid::new_v4` never draws an identifier twice; they are numbered as they are drawn. -/
structure TunnelHandle where
  id : Nat
  name : String
  ifIndex : Nat
  ifLuid : Nat
  backend : BackendKind
deriving DecidableEq, Repr

structure PolicyTransportEndpoints where
  wireguardEndpoint : SocketAddr
  originalEndpoint : SocketAddr
  bypassIps : List IpAddr
  extraPermits : List TransportPermitRule
deriving DecidableEq, Repr

structure TunnelContextParams where
  ifIndex : Option Nat
  endpointIp : Option String
  connected : Bool
deriving DecidableEq, Repr

structure TransportSession where
  kind : TransportKind
  handleId : Nat
  wireguardEndpoint : SocketAddr
  originalEndpoint : SocketAddr
  remoteTransport : Option SocketAddr
  effectiveMtu : Nat
  protocolVersion : Nat
  wireFormat : Option String
deriving DecidableEq, Repr

structure ResolvedTransport where
  kind : TransportKind
  fallback : Bool
  fallbackReason : Option String
  requested : Option TransportKind
deriving DecidableEq, Repr

structure PreparedConnect where
  tunnelConfig : TunnelConfig
  runtimeConfPath : String
  transportSession : Option TransportSession
  effectiveMtu : Nat
  resolved : ResolvedTransport
deriving DecidableEq, Repr

structure ResolvedBackend where
  kind : BackendKind
  fallback : Bool
  fallbackReason : Option String
deriving DecidableEq, Repr

structure TunnelProfile where
  name : String
  backend : TunnelBackendPreference
  configPath : String
  transport : Option TunnelTransportConfig
deriving DecidableEq, Repr

structure AppConfig where
  tunnel : Option TunnelConfig := none
  routing : RoutingConfig := {}
  networkLock : NetworkLockConfig := {}
deriving DecidableEq, Repr

/-! ## Compiled policy -/

structure AppFilterEntry where
  path : String
  priority : Nat
  mode : RuleMode
deriving DecidableEq, Repr

structure PolicySnapshot where
  routingMode : RoutingMode := .fullTunnel
  tunnelIfIndex : Option Nat := none
  tunnelIfLuid : Option Nat := none
  physicalIfIndex : Option Nat := none
  endpoint : Option String := none
  appPermits : List String := []
  appBlocks : List String := []
  tunnelApps : List AppFilterEntry := []
  bypassApps : List AppFilterEntry := []
  bypassCidrs : List String := []
  blockCidrs : List String := []
  dynamicBypassHosts : List String := []
  dynamicTunnelHosts : List String := []
  domainRouteGeneration : Nat := 0
  networkLockEnabled : Bool := false
  allowLan : Bool := false
  dnsServers : List String := []
  transportPermits : List TransportPermitRule := []
  wfpFilterIds : List Nat := []
deriving DecidableEq, Repr

def cidrsFor (target : RouteTarget) (rules : List IpRule) : List String :=
  (rules.filter fun rule => rule.target = target).map IpRule.cidr

/-- `PolicySnapshot::from_config`: a `Tunnel` rule leaves no trace. -/
def PolicySnapshot.fromConfig (cfg : AppConfig) (tunnelIfIndex tunnelIfLuid : Option Nat) :
    PolicySnapshot where
  routingMode := cfg.routing.mode
  tunnelIfIndex := tunnelIfIndex
  tunnelIfLuid := tunnelIfLuid
  networkLockEnabled := cfg.networkLock.enabled
  allowLan := cfg.networkLock.allowLan
  dnsServers := cfg.networkLock.dnsServers
  bypassCidrs := cidrsFor .bypass cfg.routing.ipRules
  blockCidrs := cidrsFor .block cfg.routing.ipRules

inductive TunnelEvent where
  | connecting (name : String)
  | connected (name : String) (ifIndex : Nat) (backend : BackendKind)
  | awgConnected (name : String) (ifIndex : Nat)
  | backendFallback (name : String) (requested actual : BackendKind) (reason : String)
  | disconnecting (name : String)
  | disconnected (name : String) (backend : BackendKind)
  | transportStarting (name : String) (kind : TransportKind)
  | transportConnected (name : String) (kind : TransportKind) (localEndpoint : String)
      (remoteTransport : Option String) (protocolVersion : Option Nat) (wireFormat : Option String)
  | transportFailed (name : String) (kind : TransportKind) (reason : String) (recoverable : Bool)
  | transportFallback (name : String) (requested actual : TransportKind) (reason : String)
  | transportDisconnected (name : String) (kind : TransportKind)
  | transportRecovering (name : String) (kind : TransportKind) (attempt maxAttempts : Nat)
  | transportRecoveryResult (kind : TransportKind) (attempt : Nat) (success : Bool)
      (reason : Option String)
deriving DecidableEq, Repr

inductive SessionState where
  | disconnected
  | connecting
  | connected
  | reconnecting
  | disconnecting
  | error
  | lockedDown
deriving DecidableEq, Repr

end RouteGuard
