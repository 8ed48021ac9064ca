import RouteGuard.Core.Events
import RouteGuard.Service.Sessions

/-! # What the service shows of itself

`collect_snapshot` with all sections, the health score of `observability/health.rs`,
and the bridge that records the events of a connection for `events.poll`. -/
set_option autoImplicit false
namespace RouteGuard

open HashTable

/-! ## The snapshot -/

structure TunnelStats where
  rxBytes : Nat := 0
  txBytes : Nat := 0
  lastHandshakeSecsAgo : Option Nat := none
  peerCount : Nat := 0
deriving DecidableEq, Repr

structure TunnelBackendObs where
  kind : String
  active : Bool
  fallbackUsed : Bool
  requested : Option String
deriving DecidableEq, Repr

structure PeerObs where
  publicKey : Option String
  rxBytes : Nat
  txBytes : Nat
  lastHandshakeSecsAgo : Option Nat
deriving DecidableEq, Repr

structure TunnelStatsObs where
  rxBytes : Nat
  txBytes : Nat
  rxRateBps : Nat
  txRateBps : Nat
  rxPackets : Option Nat
  txPackets : Option Nat
  lastHandshakeSecsAgo : Option Nat
  peerCount : Nat
deriving DecidableEq, Repr

structure TunnelObs where
  name : String
  lifecycle : String
  ifIndex : Option Nat
  backend : TunnelBackendObs
  peers : List PeerObs
  stats : TunnelStatsObs
deriving DecidableEq, Repr

structure TransportRecoveryObs where
  attempts : Nat
  maxAttempts : Nat
  lastRecoveryAt : Option String
  lastFailureReason : Option String
deriving DecidableEq, Repr

/-- Without `extensions`, which nothing fills. -/
structure TransportObs where
  kind : String
  active : Bool
  fallbackUsed : Bool
  health : String
  localEndpoint : Option String
  remoteTransport : Option String
  protocolVersion : Option Nat
  wireFormat : Option String
  recovery : TransportRecoveryObs
deriving DecidableEq, Repr

structure RuleCountObs where
  total : Nat
  enabled : Nat
deriving DecidableEq, Repr

structure DomainRoutesObs where
  active : Nat
  resolvedIps : Nat
  generation : Nat
deriving DecidableEq, Repr

structure RoutingObs where
  mode : String
  appRules : RuleCountObs
  ipRules : RuleCountObs
  domainRules : RuleCountObs
  domainRoutes : DomainRoutesObs
  compiledPolicyHash : Option String
deriving DecidableEq, Repr

structure NetworkLockObs where
  configured : Bool
  active : Bool
  wfpFilters : Nat
  violationsBlocked : Nat
  lastRecoveryAt : Option String
deriving DecidableEq, Repr

structure DnsDriverObs where
  present : Bool
  ready : Bool
  version : Option String
deriving DecidableEq, Repr

/-- `S` is what the driver reports as its statistics. -/
structure DnsObs (S : Type) where
  proxyEnabled : Bool
  listen : String
  kernelRedirect : Bool
  redirectActive : Bool
  driver : DnsDriverObs
  redirectStats : Option S
deriving DecidableEq, Repr

structure CapabilitiesObs where
  schemaVersion : Nat
  awg : Bool
  phantun : Bool
  lwo : Bool
  calloutDriver : Bool
  domainRoutingEffective : Bool
  transports : Bool
deriving DecidableEq, Repr

structure ServiceObs where
  version : String
  uptimeSecs : Nat
  elevated : Bool
  sessionState : String
deriving DecidableEq, Repr

/-! ## Health -/

inductive HealthStatus where
  | healthy
  | degraded
  | unhealthy
  | unknown
deriving DecidableEq, Repr

def HealthStatus.fromScore (score : Nat) : HealthStatus :=
  if 90 ≤ score ∧ score ≤ 100 then .healthy
  else if 70 ≤ score ∧ score ≤ 89 then .degraded
  else if 1 ≤ score ∧ score ≤ 69 then .unhealthy
  else .unknown

structure HealthComponent where
  id : String
  score : Nat
  status : HealthStatus
  reason : Option String
deriving DecidableEq, Repr

structure HealthReport where
  score : Nat
  status : HealthStatus
  components : List HealthComponent
deriving DecidableEq, Repr

abbrev ScoreReason := Nat × Option String

def scoreTunnel (tunnel : Option TunnelObs) (sessionState : String) : ScoreReason :=
  if sessionState = "connected" then
    if tunnel.isSome then (100, none) else (80, some "connected_no_tunnel_obs")
  else if sessionState = "connecting" ∨ sessionState = "reconnecting" then (70, some sessionState)
  else if sessionState = "locked_down" ∨ sessionState = "error" then (0, some sessionState)
  else (100, none)

def scoreTransport (transport : Option TransportObs) (sessionState : String) : ScoreReason :=
  if sessionState ≠ "connected" then (100, none)
  else
    match transport with
    | none => (100, none)
    | some t =>
        if t.kind = "direct_udp" then (100, none)
        else if t.health = "healthy" then (100, none)
        else if t.health = "degraded" then (60, some "transport_degraded")
        else if t.health = "failed" then (0, some "transport_failed")
        else (80, some "transport_unknown")

def scoreHandshake (tunnel : Option TunnelObs) : ScoreReason :=
  match tunnel with
  | none => (100, none)
  | some t =>
      if t.stats.peerCount = 0 then (50, some "no_peers")
      else
        match t.stats.lastHandshakeSecsAgo with
        | none => (40, some "no_handshake")
        | some age =>
            let reason := "handshake_age_" ++ toString age ++ "s"
            if age ≤ 30 then (100, none)
            else if 300 ≤ age then (0, some reason)
            else (100 - age * 100 / 300, if 120 < age then some reason else none)

def scoreRouting (_routing : RoutingObs) : ScoreReason := (100, none)

section Scores
variable {S : Type}

def scoreDomain (routing : RoutingObs) (dns : DnsObs S) : ScoreReason :=
  if 0 < routing.domainRules.enabled ∧ !dns.redirectActive ∧ !dns.proxyEnabled then
    (40, some "domain_rules_no_ingress")
  else if dns.kernelRedirect ∧ !dns.driver.present then (30, some "driver_missing")
  else if dns.driver.present ∧ !dns.driver.ready then (40, some "driver_not_ready")
  else (100, none)

def scoreNetworkLock (nl : NetworkLockObs) : ScoreReason :=
  if nl.configured ∧ !nl.active then (50, some "nl_configured_not_active")
  else if 10 < nl.violationsBlocked then (60, some "violation_storm")
  else (100, none)

def scoreDriver (dns : DnsObs S) : ScoreReason :=
  if !dns.kernelRedirect then (100, none)
  else if dns.driver.present ∧ dns.driver.ready then (100, none)
  else if dns.driver.present then (40, some "driver_not_ready")
  else (0, some "driver_absent")

def healthComponent (id : String) (score : ScoreReason) : HealthComponent :=
  ⟨id, score.1, .fromScore score.1, score.2⟩

def computeHealth (tunnel : Option TunnelObs) (transport : Option TransportObs)
    (routing : RoutingObs) (networkLock : NetworkLockObs) (dns : DnsObs S)
    (sessionState : String) : HealthReport :=
  let tunnelScore := scoreTunnel tunnel sessionState
  let transportScore := scoreTransport transport sessionState
  let handshakeScore := scoreHandshake tunnel
  let routingScore := scoreRouting routing
  let domainScore := scoreDomain routing dns
  let nlScore := scoreNetworkLock networkLock
  let driverScore := scoreDriver dns
  let weighted :=
    if tunnel.isSome ∨ sessionState = "connected" then
      (tunnelScore.1 * 25 + transportScore.1 * 20 + handshakeScore.1 * 20 + routingScore.1 * 10 +
        domainScore.1 * 10 + nlScore.1 * 10 + driverScore.1 * 5) / 100
    else if sessionState = "locked_down" then 0
    else 100
  let score := min weighted 100
  { score := score
    status := .fromScore score
    components := [healthComponent "tunnel" tunnelScore, healthComponent "transport" transportScore,
      healthComponent "handshake" handshakeScore, healthComponent "routing" routingScore,
      healthComponent "domain" domainScore, healthComponent "networkLock" nlScore,
      healthComponent "driver" driverScore] }

end Scores

structure ObservabilitySnapshot (S : Type) where
  schemaVersion : Nat
  ts : String
  service : ServiceObs
  tunnel : Option TunnelObs
  transport : Option TransportObs
  routing : RoutingObs
  networkLock : NetworkLockObs
  dns : DnsObs S
  capabilities : CapabilitiesObs
  health : HealthReport
deriving DecidableEq, Repr

/-! ## What is read -/

structure TransportRecoveryState where
  attempts : Nat := 0
  maxAttempts : Nat := 3
  lastRecoveryAt : Option String := none
  lastFailureReason : Option String := none
  lastTransportHealth : String := ""
deriving DecidableEq, Repr

/-- `query` is `MetricsStore::query` at the time of the call, with values in `V`. -/
structure ObservabilityRuntime (V : Type) where
  query : String → String → String → List (String × V)
  transportRecovery : TransportRecoveryState := {}
  violationsBlocked : Nat := 0
  nlLastRecoveryAt : Option String := none
  lastRxRate : Nat := 0
  lastTxRate : Nat := 0

structure Probes (S : Type) where
  /-- `selector.stats` of the active handle, if it answers -/
  stats : Option TunnelStats := none
  lifecycle : String := "Connected"
  lockActive : Bool := false
  kernelActive : Bool := false
  redirectStats : Option S := none
  driverPresent : Bool := false
  dnsRedirectActive : Bool := false
  explicitProxy : Bool := false
  onlyBypassTargets : Bool := false
  awg : Bool := false
  phantun : Bool := false
  lwo : Bool := false
  calloutDriver : Bool := false
  version : String := "0.1.0"
  uptimeSecs : Nat := 0
  nowIso : String := ""

/-- The values of a JSON object; a nested one is its text. -/
inductive JsonValue where
  | null
  | bool (b : Bool)
  | num (n : Nat)
  | str (s : String)
  | nested (text : String)
deriving DecidableEq, Repr

abbrev JsonObject := List (String × JsonValue)

/-- The service as `collect_snapshot` and the export of diagnostics find it. -/
structure ServiceView (V S : Type) where
  ctx : ServiceContext
  answers : PolicyAnswers
  probes : Probes S
  obs : ObservabilityRuntime V
  /-- the lines of the log ring, oldest first -/
  logs : List String
  eventStore : EventStore JsonObject

/-! ## Collecting -/

def sessionStateStr : SessionState → String
  | .disconnected => "disconnected"
  | .connecting => "connecting"
  | .connected => "connected"
  | .disconnecting => "disconnecting"
  | .reconnecting => "reconnecting"
  | .error => "error"
  | .lockedDown => "locked_down"

namespace ServiceView
variable {V S : Type} (view : ServiceView V S)

def tunnelObs : Option TunnelObs :=
  view.ctx.handle.map fun h =>
    let stats := view.probes.stats.getD {}
    { name := h.name
      lifecycle := view.probes.lifecycle
      ifIndex := some h.ifIndex
      backend := ⟨h.backend.asStr, true,
        (view.ctx.activeSession.map fun a => a.resolvedTransport.fallback).getD false, none⟩
      peers := []
      stats := ⟨stats.rxBytes, stats.txBytes, view.obs.lastRxRate, view.obs.lastTxRate, none, none,
        stats.lastHandshakeSecsAgo, stats.peerCount⟩ }

def transportObs : Option TransportObs :=
  view.ctx.activeSession.map fun a =>
    let tr := view.obs.transportRecovery
    { kind := a.transportSession.kind.asStr
      active := true
      fallbackUsed := a.resolvedTransport.fallback
      health := tr.lastTransportHealth
      localEndpoint := some a.transportSession.wireguardEndpoint.toString
      remoteTransport := a.transportSession.remoteTransport.map SocketAddr.toString
      protocolVersion := some a.transportSession.protocolVersion
      wireFormat := a.transportSession.wireFormat
      recovery := ⟨tr.attempts, tr.maxAttempts, tr.lastRecoveryAt, tr.lastFailureReason⟩ }

/-- `simple_hash` of the JSON text of a policy; the standard library does not say how it hashes. -/
abbrev PolicyHash := PolicySnapshot → UInt64

variable (simpleHash : PolicyHash)

def compiledPolicy : Except RouteGuardError PolicySnapshot :=
  buildPolicy view.answers.env view.answers.moment.order view.answers.moment.now
    (view.ctx.policyView view.answers) view.ctx.domain.engine view.ctx.domain.store

/-- The name says SHA-256. -/
def compiledPolicyHash : Option String :=
  view.compiledPolicy.toOption.map fun policy =>
    "sha256:" ++ String.ofList (Nat.toDigits 16 (simpleHash policy).toNat)

def buildRouting : RoutingObs :=
  let routing := view.ctx.config.routing
  let resolved := view.ctx.domain.store.byIp.size
  { mode := match routing.mode with
      | .fullTunnel => "full_tunnel"
      | .splitInclude => "split_include"
    appRules := ⟨routing.appRules.length, routing.appRules.length⟩
    ipRules := ⟨routing.ipRules.length, routing.ipRules.length⟩
    domainRules := ⟨routing.domainRules.length, routing.domainRules.length⟩
    domainRoutes := ⟨resolved, resolved, 0⟩
    compiledPolicyHash := view.compiledPolicyHash simpleHash }

def buildNetworkLock : NetworkLockObs :=
  ⟨view.ctx.config.networkLock.enabled, view.probes.lockActive, 0, view.obs.violationsBlocked,
    view.obs.nlLastRecoveryAt⟩

def buildDns : DnsObs S where
  proxyEnabled := view.ctx.config.routing.domainDns.enabled
  listen := view.ctx.config.routing.domainDns.listen
  kernelRedirect := view.probes.kernelActive
  redirectActive := view.probes.dnsRedirectActive
  driver := ⟨view.probes.driverPresent, view.probes.driverPresent, none⟩
  redirectStats := view.probes.redirectStats

def isEffective (hasDomainRules dnsEnabled tunnelConnected : Bool) : Bool :=
  if !hasDomainRules || !dnsEnabled then false
  else if !(view.probes.dnsRedirectActive || view.probes.explicitProxy) then false
  else tunnelConnected || view.probes.onlyBypassTargets

def buildCapabilities : CapabilitiesObs where
  schemaVersion := 3
  awg := view.probes.awg
  phantun := view.probes.phantun
  lwo := view.probes.lwo
  calloutDriver := view.probes.calloutDriver
  domainRoutingEffective := view.isEffective (!view.ctx.config.routing.domainRules.isEmpty)
    view.ctx.config.routing.domainDns.enabled (view.ctx.policyView view.answers).hasActiveTunnel
  transports := true

def collectSnapshot : ObservabilitySnapshot S :=
  let sessionState := sessionStateStr view.ctx.state
  { schemaVersion := 1
    ts := view.probes.nowIso
    service := ⟨view.probes.version, view.probes.uptimeSecs, true, sessionState⟩
    tunnel := view.tunnelObs
    transport := view.transportObs
    routing := view.buildRouting simpleHash
    networkLock := view.buildNetworkLock
    dns := view.buildDns
    capabilities := view.buildCapabilities
    health := computeHealth view.tunnelObs view.transportObs (view.buildRouting simpleHash)
      view.buildNetworkLock view.buildDns sessionState }

end ServiceView

/-! ## The event bridge -/

def jsonOpt {A : Type} (toJson : A → JsonValue) (value : Option A) : JsonValue :=
  value.elim .null toJson

/-- The type and the payload that `push_tunnel_event` gives to an event of a connection. -/
def bridged : TunnelEvent → String × JsonObject
  | .connecting name => ("tunnel.connecting", [("name", .str name)])
  | .connected name ifIndex backend =>
      ("tunnel.connected",
        [("name", .str name), ("ifIndex", .num ifIndex), ("backend", .str backend.asStr)])
  | .awgConnected name ifIndex =>
      ("tunnel.awg.connected", [("name", .str name), ("ifIndex", .num ifIndex)])
  | .backendFallback name requested actual reason =>
      ("tunnel.backend_fallback",
        [("name", .str name), ("requested", .str requested.asStr), ("actual", .str actual.asStr),
         ("reason", .str reason)])
  | .disconnecting name => ("tunnel.disconnecting", [("name", .str name)])
  | .disconnected name backend =>
      ("tunnel.disconnected", [("name", .str name), ("backend", .str backend.asStr)])
  | .transportStarting name kind =>
      ("transport.starting", [("name", .str name), ("kind", .str kind.asStr)])
  | .transportConnected name kind localEndpoint remoteTransport protocolVersion wireFormat =>
      ("transport.connected",
        [("name", .str name), ("kind", .str kind.asStr), ("localEndpoint", .str localEndpoint),
         ("remoteTransport", jsonOpt .str remoteTransport),
         ("protocolVersion", jsonOpt .num protocolVersion),
         ("wireFormat", jsonOpt .str wireFormat)])
  | .transportFailed name kind reason recoverable =>
      ("transport.failed",
        [("name", .str name), ("kind", .str kind.asStr), ("reason", .str reason),
         ("recoverable", .bool recoverable)])
  | .transportFallback name requested actual reason =>
      ("transport.fallback",
        [("name", .str name), ("requested", .str requested.asStr), ("actual", .str actual.asStr),
         ("reason", .str reason)])
  | .transportDisconnected name kind =>
      ("transport.disconnected", [("name", .str name), ("kind", .str kind.asStr)])
  | .transportRecovering name kind attempt maxAttempts =>
      ("transport.recovering",
        [("name", .str name), ("kind", .str kind.asStr), ("attempt", .num attempt),
         ("maxAttempts", .num maxAttempts)])
  | .transportRecoveryResult kind attempt success reason =>
      ("transport.recovery",
        [("kind", .str kind.asStr), ("attempt", .num attempt), ("success", .bool success),
         ("reason", jsonOpt .str reason)])

/-- `push_tunnel_event`, with no other push between its two parts. -/
def pushTunnelEvent (ts : String) (store : EventStore JsonObject) (event : TunnelEvent) :
    EventStore JsonObject :=
  let (record, store) := store.allocate (bridged event).1 ts (bridged event).2
  store.append record

end RouteGuard
