import RouteGuard.Core.AddrRoundTrip
import RouteGuard.Service.Observability

/-! # Diagnostics bundles

`export_diagnostics` and its tiers, and what the sanitized tier shows of the
endpoints of a session.  A file of the bundle is the value whose JSON or TOML
text it holds. -/
set_option autoImplicit false
namespace RouteGuard

/-! ## The bundle -/

structure DiagnosticsExportParams where
  tier : String := "sanitized"
  includeEvents : Bool := true
  eventLimit : Nat := 500
  includeHistory : Bool := true
  historyWindow : String := "1h"
deriving DecidableEq, Repr

structure Manifest where
  schemaVersion : Nat
  bundleId : String
  tier : String
  ts : String
  serviceVersion : String
deriving DecidableEq, Repr

/-- One field for each file; the files of `history` and `events` are left out on demand. -/
structure Bundle (V S : Type) where
  observability : ObservabilitySnapshot S
  health : HealthReport
  history : Option (List (String × List (String × V)))
  configToml : AppConfig
  capabilities : CapabilitiesObs
  rulesSummary : RoutingObs
  domainStatus : DnsObs S
  events : Option (List (EventRecord JsonObject))
  serviceTail : String
  ping : String × Nat
  manifest : Manifest

def sanitizeConfig (cfg : AppConfig) : AppConfig :=
  { cfg with tunnel := cfg.tunnel.map fun t => { t with configPath := "<redacted>" } }

def configForTier (cfg : AppConfig) (tier : String) : AppConfig :=
  if tier = "full" then cfg
  else if tier = "support" then
    { cfg with tunnel := cfg.tunnel.map fun t =>
        if t.configPath = "" then { t with configPath := "<none>" } else t }
  else sanitizeConfig cfg

def redactTransport (transport : TransportObs) : TransportObs :=
  { transport with remoteTransport := some "<redacted>", localEndpoint := some "<redacted>" }

def redactTunnel (tunnel : TunnelObs) : TunnelObs :=
  { tunnel with peers := tunnel.peers.map fun peer =>
      { peer with publicKey := some "<redacted>" } }

section Export
variable {V S : Type}

def redactSnapshotForTier (snap : ObservabilitySnapshot S) (tier : String) :
    ObservabilitySnapshot S :=
  if tier = "full" ∨ tier = "support" then snap
  else { snap with
    transport := snap.transport.map redactTransport
    tunnel := snap.tunnel.map redactTunnel }

def logTail (lines : List String) (limit : Nat) : List String := (lines.reverse.take limit).reverse

def historyMetrics : List String := ["tunnel.rxRateBps", "tunnel.txRateBps"]

def exportDiagnostics (simpleHash : ServiceView.PolicyHash) (view : ServiceView V S)
    (params : DiagnosticsExportParams) (bundleId : String) : Bundle V S :=
  let snap := view.collectSnapshot simpleHash
  let snapRedacted := redactSnapshotForTier snap params.tier
  { observability := snapRedacted
    health := snapRedacted.health
    history := if params.includeHistory then
        some (historyMetrics.map fun metric =>
          (metric, view.obs.query metric params.historyWindow "auto"))
      else none
    configToml := configForTier view.ctx.config params.tier
    capabilities := snap.capabilities
    rulesSummary := snapRedacted.routing
    domainStatus := snapRedacted.dns
    events := if params.includeEvents then some (view.eventStore.poll 0 params.eventLimit) else none
    serviceTail := "\n".intercalate (logTail view.logs 200)
    ping := (view.probes.version, view.probes.uptimeSecs)
    manifest := ⟨1, bundleId, params.tier, view.probes.nowIso, view.probes.version⟩ }

end Export

/-! ## States that differ in endpoints only -/

def TunnelTransportConfig.withoutRemotes (cfg : TunnelTransportConfig) : TunnelTransportConfig :=
  { cfg with
    phantun := cfg.phantun.map fun p => { p with remoteTcp := none }
    lwo := cfg.lwo.map fun l => { l with remoteUdp := none } }

def TunnelTransportConfig.remotes (cfg : TunnelTransportConfig) : Option String × Option String :=
  (cfg.phantun.bind PhantunTransportConfig.remoteTcp, cfg.lwo.bind LwoTransportConfig.remoteUdp)

def AppConfig.withoutRemotes (cfg : AppConfig) : AppConfig :=
  { cfg with tunnel := cfg.tunnel.map fun t => { t with transport := t.transport.withoutRemotes } }

def AppConfig.remotes (cfg : AppConfig) : Option (Option String × Option String) :=
  cfg.tunnel.map fun t => t.transport.remotes

def noEndpoint : SocketAddr := ⟨.v4 0, 0⟩

def ActiveConnectSession.withoutEndpoints (active : ActiveConnectSession) : ActiveConnectSession :=
  { active with
    peerEndpoint := noEndpoint
    mergedTransport := active.mergedTransport.withoutRemotes
    transportSession := { active.transportSession with
      wireguardEndpoint := noEndpoint
      originalEndpoint := noEndpoint
      remoteTransport := none } }

/-- The relays that run and the events that were published have endpoints too. -/
def ServiceContext.withoutEndpoints (ctx : ServiceContext) : ServiceContext :=
  { ctx with
    config := ctx.config.withoutRemotes
    activeSession := ctx.activeSession.map ActiveConnectSession.withoutEndpoints
    lwo := {}
    phantun := {}
    events := [] }

def isEndpointKey (key : String) : Bool := key == "localEndpoint" || key == "remoteTransport"

def withoutEndpoints (payload : JsonObject) : JsonObject :=
  payload.map fun field => if isEndpointKey field.1 then (field.1, .null) else field

def endpointsOf (payload : JsonObject) : List JsonValue :=
  (payload.filter fun field => isEndpointKey field.1).map Prod.snd

def EventRecord.withoutEndpoints (record : EventRecord JsonObject) : EventRecord JsonObject :=
  { record with payload := RouteGuard.withoutEndpoints record.payload }

section Alike
variable {V S : Type}

/-- The two states differ in endpoints and in log lines only. -/
structure SameButEndpoints (view view' : ServiceView V S) : Prop where
  ctx : view.ctx.withoutEndpoints = view'.ctx.withoutEndpoints
  answers : view.answers = view'.answers
  probes : view.probes = view'.probes
  obs : view.obs = view'.obs
  events : view.eventStore.events.map EventRecord.withoutEndpoints =
    view'.eventStore.events.map EventRecord.withoutEndpoints

/-- The two states agree on what the bundle shows of the endpoints. -/
structure SameShown (simpleHash : ServiceView.PolicyHash) (params : DiagnosticsExportParams)
    (view view' : ServiceView V S) : Prop where
  remotes : view.ctx.config.remotes = view'.ctx.config.remotes
  policy : view.compiledPolicy.toOption.map simpleHash =
    view'.compiledPolicy.toOption.map simpleHash
  events : params.includeEvents = true →
    (view.eventStore.poll 0 params.eventLimit).map (fun e => endpointsOf e.payload) =
      (view'.eventStore.poll 0 params.eventLimit).map fun e => endpointsOf e.payload
  logs : "\n".intercalate (logTail view.logs 200) = "\n".intercalate (logTail view'.logs 200)

end Alike

/-! ## A value is its endpoints and the rest -/

theorem PhantunTransportConfig.eq_of_remote {p p' : PhantunTransportConfig}
    (h : { p with remoteTcp := none } = { p' with remoteTcp := none })
    (hremote : p.remoteTcp = p'.remoteTcp) : p = p' := by
  cases p
  cases p'
  simp_all

theorem LwoTransportConfig.eq_of_remote {l l' : LwoTransportConfig}
    (h : { l with remoteUdp := none } = { l' with remoteUdp := none })
    (hremote : l.remoteUdp = l'.remoteUdp) : l = l' := by
  cases l
  cases l'
  simp_all

theorem option_eq_of_parts {A B R : Type} {f : A → B} {part : A → Option R}
    (hinj : ∀ a a', f a = f a' → part a = part a' → a = a') {o o' : Option A}
    (h : o.map f = o'.map f) (hpart : o.bind part = o'.bind part) : o = o' := by
  cases o with
  | none => exact (Option.map_eq_none_iff.mp h.symm).symm
  | some a =>
      cases o' with
      | none => exact Option.map_eq_none_iff.mp h
      | some a' =>
          have hdropped : f a = f a' := Option.some.inj h
          have hkept : part a = part a' := hpart
          rw [hinj a a' hdropped hkept]

theorem TunnelTransportConfig.eq_iff_remotes {cfg cfg' : TunnelTransportConfig}
    (h : cfg.withoutRemotes = cfg'.withoutRemotes) : cfg = cfg' ↔ cfg.remotes = cfg'.remotes := by
  refine ⟨fun hsame => by rw [hsame], fun hremotes => ?_⟩
  obtain ⟨preference, requirePhantun, requireLwo, phantun, lwo⟩ := cfg
  obtain ⟨preference', requirePhantun', requireLwo', phantun', lwo'⟩ := cfg'
  simp only [withoutRemotes, TunnelTransportConfig.mk.injEq] at h
  simp only [remotes, Prod.mk.injEq] at hremotes
  obtain ⟨rfl, rfl, rfl, hphantun, hlwo⟩ := h
  have hphantun := option_eq_of_parts (fun _ _ => PhantunTransportConfig.eq_of_remote)
    hphantun hremotes.1
  have hlwo := option_eq_of_parts (fun _ _ => LwoTransportConfig.eq_of_remote) hlwo hremotes.2
  rw [hphantun, hlwo]

/-- What the sanitized configuration keeps of the remotes is all of them. -/
theorem sanitizeConfig_eq_iff {cfg cfg' : AppConfig}
    (h : cfg.withoutRemotes = cfg'.withoutRemotes) :
    sanitizeConfig cfg = sanitizeConfig cfg' ↔ cfg.remotes = cfg'.remotes := by
  obtain ⟨tunnel, routing, networkLock⟩ := cfg
  obtain ⟨tunnel', routing', networkLock'⟩ := cfg'
  simp only [AppConfig.withoutRemotes, AppConfig.mk.injEq] at h
  obtain ⟨htunnel, rfl, rfl⟩ := h
  cases tunnel with
  | none =>
      rw [(Option.map_eq_none_iff.mp htunnel.symm)]
      exact ⟨fun _ => rfl, fun _ => rfl⟩
  | some t =>
      cases tunnel' with
      | none => cases htunnel
      | some t' =>
          obtain ⟨name, configPath, mtu, backend, requireAwg, transport⟩ := t
          obtain ⟨name', configPath', mtu', backend', requireAwg', transport'⟩ := t'
          simp only [Option.map_some, Option.some.injEq, TunnelConfig.mk.injEq] at htunnel
          obtain ⟨rfl, rfl, rfl, rfl, rfl, htransport⟩ := htunnel
          have hiff := TunnelTransportConfig.eq_iff_remotes htransport
          simp [sanitizeConfig, AppConfig.remotes, hiff]

theorem payload_eq_iff {payload payload' : JsonObject}
    (h : withoutEndpoints payload = withoutEndpoints payload') :
    payload = payload' ↔ endpointsOf payload = endpointsOf payload' := by
  refine ⟨fun hsame => by rw [hsame], fun hendpoints => ?_⟩
  induction payload generalizing payload' with
  | nil => exact (List.map_eq_nil_iff.mp h.symm).symm
  | cons field rest ih =>
      cases payload' with
      | nil => cases h
      | cons field' rest' =>
          obtain ⟨key, value⟩ := field
          obtain ⟨key', value'⟩ := field'
          simp only [withoutEndpoints, List.map_cons, List.cons.injEq] at h
          obtain ⟨hfield, hrest⟩ := h
          have hkey : key = key' := by
            have hkeys := congrArg Prod.fst hfield
            split at hkeys <;> split at hkeys <;> exact hkeys
          subst hkey
          by_cases hendpoint : isEndpointKey key = true
          · simp only [endpointsOf, List.filter_cons, hendpoint, if_true, List.map_cons,
              List.cons.injEq] at hendpoints
            rw [hendpoints.1, ih hrest hendpoints.2]
          · simp only [endpointsOf, List.filter_cons, hendpoint, if_false, Bool.false_eq_true]
              at hendpoints
            simp only [hendpoint, if_false, Bool.false_eq_true] at hfield
            rw [hfield, ih hrest hendpoints]

theorem records_eq_iff {records records' : List (EventRecord JsonObject)}
    (h : records.map EventRecord.withoutEndpoints = records'.map EventRecord.withoutEndpoints) :
    records = records' ↔ records.map (fun e => endpointsOf e.payload) =
      records'.map fun e => endpointsOf e.payload := by
  refine ⟨fun hsame => by rw [hsame], fun hendpoints => ?_⟩
  induction records generalizing records' with
  | nil => exact (List.map_eq_nil_iff.mp h.symm).symm
  | cons e rest ih =>
      cases records' with
      | nil => cases h
      | cons e' rest' =>
          simp only [List.map_cons, List.cons.injEq] at h hendpoints
          obtain ⟨id, eventType, ts, payload⟩ := e
          obtain ⟨id', eventType', ts', payload'⟩ := e'
          simp only [EventRecord.withoutEndpoints, EventRecord.mk.injEq] at h
          obtain ⟨⟨rfl, rfl, rfl, hpayload⟩, hrest⟩ := h
          rw [(payload_eq_iff hpayload).mpr hendpoints.1, ih hrest hendpoints.2]

/-- A poll looks at the ids. -/
theorem poll_withoutEndpoints (store : EventStore JsonObject) (sinceId limit : Nat) :
    (store.poll sinceId limit).map EventRecord.withoutEndpoints =
      ((store.events.map EventRecord.withoutEndpoints).filter fun e => sinceId < e.id).take
        limit := by
  rw [EventStore.poll, List.map_take, List.filter_map]
  rfl

theorem hexText_inj {n m : UInt64} (h : "sha256:" ++ String.ofList (Nat.toDigits 16 n.toNat) =
    "sha256:" ++ String.ofList (Nat.toDigits 16 m.toNat)) : n = m := by
  have hchars := congrArg String.toList h
  simp only [String.toList_append, String.toList_ofList, List.append_cancel_left_eq] at hchars
  have hvalue := congrArg (digitsValue 16) hchars
  rw [digitsValue_toDigits (by decide) (by decide), digitsValue_toDigits (by decide) (by decide)]
    at hvalue
  exact UInt64.toNat_inj.mp hvalue

/-! ## What each file shows -/

section Shown
variable {V S : Type} {simpleHash : ServiceView.PolicyHash} {view view' : ServiceView V S}

theorem compiledPolicyHash_eq_iff :
    view.compiledPolicyHash simpleHash = view'.compiledPolicyHash simpleHash ↔
      view.compiledPolicy.toOption.map simpleHash =
        view'.compiledPolicy.toOption.map simpleHash := by
  rw [ServiceView.compiledPolicyHash, ServiceView.compiledPolicyHash]
  cases view.compiledPolicy.toOption <;> cases view'.compiledPolicy.toOption
  · simp
  · simp
  · simp
  · rename_i policy policy'
    simp only [Option.map_some, Option.some.injEq]
    exact ⟨hexText_inj, fun hsame => by rw [hsame]⟩

namespace SameButEndpoints

theorem kept {A : Type} (h : SameButEndpoints view view') (f : ServiceContext → A)
    (hf : ∀ ctx : ServiceContext, f ctx.withoutEndpoints = f ctx) : f view.ctx = f view'.ctx := by
  rw [← hf view.ctx, ← hf view'.ctx, h.ctx]

theorem handle (h : SameButEndpoints view view') : view.ctx.handle = view'.ctx.handle :=
  h.kept ServiceContext.handle fun _ => rfl

theorem state (h : SameButEndpoints view view') : view.ctx.state = view'.ctx.state :=
  h.kept ServiceContext.state fun _ => rfl

theorem external (h : SameButEndpoints view view') :
    view.ctx.externalTunnel = view'.ctx.externalTunnel :=
  h.kept ServiceContext.externalTunnel fun _ => rfl

theorem domain (h : SameButEndpoints view view') : view.ctx.domain = view'.ctx.domain :=
  h.kept ServiceContext.domain fun _ => rfl

theorem routing (h : SameButEndpoints view view') :
    view.ctx.config.routing = view'.ctx.config.routing :=
  h.kept (fun ctx => ctx.config.routing) fun _ => rfl

theorem networkLock (h : SameButEndpoints view view') :
    view.ctx.config.networkLock = view'.ctx.config.networkLock :=
  h.kept (fun ctx => ctx.config.networkLock) fun _ => rfl

theorem fallback (h : SameButEndpoints view view') :
    (view.ctx.activeSession.map fun a => a.resolvedTransport.fallback) =
      view'.ctx.activeSession.map fun a => a.resolvedTransport.fallback := by
  refine h.kept (fun ctx => ctx.activeSession.map fun a => a.resolvedTransport.fallback) ?_
  intro ctx
  rw [ServiceContext.withoutEndpoints, Option.map_map]
  rfl

theorem config (h : SameButEndpoints view view') :
    view.ctx.config.withoutRemotes = view'.ctx.config.withoutRemotes := by
  have hconfig := congrArg ServiceContext.config h.ctx
  exact hconfig

theorem tunnelObs (h : SameButEndpoints view view') : view.tunnelObs = view'.tunnelObs := by
  rw [ServiceView.tunnelObs, ServiceView.tunnelObs, h.handle, h.probes, h.obs, h.fallback]

/-- The redaction writes over both endpoints of the snapshot. -/
theorem transportObs (h : SameButEndpoints view view') :
    view.transportObs.map redactTransport = view'.transportObs.map redactTransport := by
  have hkept := h.kept
    (fun ctx => ({ view' with ctx := ctx } : ServiceView V S).transportObs.map redactTransport) ?_
  · have hread : view.transportObs =
        ({ view' with ctx := view.ctx } : ServiceView V S).transportObs := by
      rw [ServiceView.transportObs, ServiceView.transportObs, h.obs]
    rw [hread]
    exact hkept
  · intro ctx
    simp only [ServiceView.transportObs, ServiceContext.withoutEndpoints, Option.map_map]
    rfl

theorem buildRouting (h : SameButEndpoints view view') (simpleHash : ServiceView.PolicyHash) :
    { view.buildRouting simpleHash with compiledPolicyHash := none } =
      { view'.buildRouting simpleHash with compiledPolicyHash := none } := by
  simp only [ServiceView.buildRouting, h.routing, h.domain]

theorem buildNetworkLock (h : SameButEndpoints view view') :
    view.buildNetworkLock = view'.buildNetworkLock := by
  rw [ServiceView.buildNetworkLock, ServiceView.buildNetworkLock, h.networkLock, h.probes, h.obs]

theorem buildDns (h : SameButEndpoints view view') : view.buildDns = view'.buildDns := by
  rw [ServiceView.buildDns, ServiceView.buildDns, h.routing, h.probes]

theorem buildCapabilities (h : SameButEndpoints view view') :
    view.buildCapabilities = view'.buildCapabilities := by
  have htunnel : (view.ctx.policyView view.answers).hasActiveTunnel =
      (view'.ctx.policyView view'.answers).hasActiveTunnel := by
    simp only [PolicyView.hasActiveTunnel, ServiceContext.policyView, h.handle, h.external]
  simp only [ServiceView.buildCapabilities, ServiceView.isEffective, h.routing, h.probes, htunnel]

end SameButEndpoints

/-- The health report reads neither the endpoints nor the hash. -/
theorem computeHealth_redacted (tunnel : Option TunnelObs) (transport : Option TransportObs)
    (routing : RoutingObs) (networkLock : NetworkLockObs) (dns : DnsObs S)
    (sessionState : String) :
    computeHealth tunnel transport routing networkLock dns sessionState =
      computeHealth tunnel (transport.map redactTransport)
        { routing with compiledPolicyHash := none } networkLock dns sessionState := by
  cases transport <;> rfl

theorem redactSnapshotForTier_sanitized (snap : ObservabilitySnapshot S) :
    redactSnapshotForTier snap "sanitized" = { snap with
      transport := snap.transport.map redactTransport
      tunnel := snap.tunnel.map redactTunnel } := by
  have hother : ¬("sanitized" = "full" ∨ "sanitized" = "support") := by decide
  rw [redactSnapshotForTier, if_neg hother]

/-- Of what the tier hides, the snapshot keeps the hash of the policy. -/
theorem sanitizedSnapshot_eq_iff (h : SameButEndpoints view view')
    (simpleHash : ServiceView.PolicyHash) :
    redactSnapshotForTier (view.collectSnapshot simpleHash) "sanitized" =
        redactSnapshotForTier (view'.collectSnapshot simpleHash) "sanitized" ↔
      view.compiledPolicyHash simpleHash = view'.compiledPolicyHash simpleHash := by
  constructor
  · intro hsame
    exact congrArg (fun snap => snap.routing.compiledPolicyHash) hsame
  · intro hhash
    have hrouting : view.buildRouting simpleHash = view'.buildRouting simpleHash := by
      have hrest := h.buildRouting simpleHash
      simp only [RoutingObs.mk.injEq, and_true] at hrest
      simp only [ServiceView.buildRouting, RoutingObs.mk.injEq] at hrest ⊢
      exact ⟨hrest.1, hrest.2.1, hrest.2.2.1, hrest.2.2.2.1, hrest.2.2.2.2, hhash⟩
    have hhealth := computeHealth_redacted view.tunnelObs view.transportObs
      (view.buildRouting simpleHash) view.buildNetworkLock view.buildDns
      (sessionStateStr view.ctx.state)
    rw [h.tunnelObs, h.transportObs, hrouting, h.buildNetworkLock, h.buildDns, h.state,
      ← computeHealth_redacted] at hhealth
    simp only [redactSnapshotForTier_sanitized, ServiceView.collectSnapshot, hhealth, h.tunnelObs,
      h.transportObs, hrouting, h.buildNetworkLock, h.buildDns, h.buildCapabilities, h.state,
      h.probes]

theorem polled_eq_iff (h : SameButEndpoints view view') (sinceId limit : Nat) :
    view.eventStore.poll sinceId limit = view'.eventStore.poll sinceId limit ↔
      (view.eventStore.poll sinceId limit).map (fun e => endpointsOf e.payload) =
        (view'.eventStore.poll sinceId limit).map fun e => endpointsOf e.payload := by
  refine records_eq_iff ?_
  rw [poll_withoutEndpoints, poll_withoutEndpoints, h.events]

/-- The sanitized bundles of two states are the same when the states agree on the endpoints that
the bundle shows. -/
theorem sanitized_same_iff {params : DiagnosticsExportParams} {bundleId : String}
    (htier : params.tier = "sanitized") (h : SameButEndpoints view view') :
    exportDiagnostics simpleHash view params bundleId =
        exportDiagnostics simpleHash view' params bundleId ↔
      SameShown simpleHash params view view' := by
  have hsnapshot := sanitizedSnapshot_eq_iff h simpleHash
  have hconfig := sanitizeConfig_eq_iff h.config
  have hpolled := polled_eq_iff h 0 params.eventLimit
  constructor
  · intro hsame
    have hobs := congrArg Bundle.observability hsame
    have hconf := congrArg Bundle.configToml hsame
    have hevents := congrArg Bundle.events hsame
    have hlogs := congrArg Bundle.serviceTail hsame
    simp only [exportDiagnostics, htier] at hobs hconf hevents hlogs
    refine ⟨hconfig.mp hconf, ?_, ?_, hlogs⟩
    · exact compiledPolicyHash_eq_iff.mp (hsnapshot.mp hobs)
    · intro hinclude
      simp only [hinclude, if_true, Option.some.injEq] at hevents
      exact hpolled.mp hevents
  · intro hshown
    have hobs := hsnapshot.mpr (compiledPolicyHash_eq_iff.mpr hshown.policy)
    have hconf := hconfig.mpr hshown.remotes
    have hevents : (if params.includeEvents then some (view.eventStore.poll 0 params.eventLimit)
        else none) = if params.includeEvents then
          some (view'.eventStore.poll 0 params.eventLimit) else none := by
      split
      · rename_i hinclude
        rw [hpolled.mpr (hshown.events hinclude)]
      · rfl
    have hcapabilities : (view.collectSnapshot simpleHash).capabilities =
        (view'.collectSnapshot simpleHash).capabilities := h.buildCapabilities
    simp only [exportDiagnostics, htier, hobs, hevents, hshown.logs, hcapabilities, h.probes,
      h.obs, Bundle.mk.injEq, and_true, true_and]
    exact hconf

end Shown

/-! ## A Phantun session -/

def phantunSession (remote : SocketAddr) : ActiveConnectSession where
  tunnelName := "wg0"
  sourceConfigPath := "wg0.conf"
  peerEndpoint := remote
  mergedTransport := { phantun := some { remoteTcp := some remote.toString } }
  transportSession := ⟨.phantun, 1, ⟨.v4 0x7f000001, 51821⟩, remote, some remote, 1380, 1, none⟩
  transportChoice := .phantun
  resolvedTransport := ⟨.phantun, false, none, none⟩
  runtimeConfPath := "wg0.run.conf"

def transportConnectedTo (remote : SocketAddr) : EventStore JsonObject :=
  pushTunnelEvent "2025-01-01T00:00:00Z" (.new 1000)
    (.transportConnected "wg0" .phantun "127.0.0.1:51821" (some remote.toString) (some 1) none)

def phantunConfig (transport : TunnelTransportConfig) : AppConfig where
  tunnel := some { name := "wg0", configPath := "wg0.conf", transport := transport }

def phantunView (connected : Bool) (remote : SocketAddr) : ServiceView Nat Unit where
  ctx :=
    { config := phantunConfig (if connected then (phantunSession remote).mergedTransport else {})
      state := if connected then .connected else .disconnected
      activeSession := if connected then some (phantunSession remote) else none
      domain := ⟨.new {}, AppSplitPolicyCompiler.defaultEngine, {}, none, [], []⟩ }
  answers := ⟨.asciiIpv4, { clock := ⟨0, 0⟩ }, fun _ => none, fun _ => none, .ok ()⟩
  probes := {}
  obs := { query := fun _ _ _ => [] }
  logs := []
  eventStore := transportConnectedTo remote

def firstRemote : SocketAddr := ⟨.v4 0xcb007101, 443⟩
def secondRemote : SocketAddr := ⟨.v4 0xc6336407, 443⟩

theorem remote_ne : firstRemote.toString ≠ secondRemote.toString := by
  intro hsame
  have hparsed := congrArg SocketAddr.parse hsame
  rw [SocketAddr.parse_toString, SocketAddr.parse_toString] at hparsed
  exact absurd hparsed (by decide)

theorem phantunView_alike (connected : Bool) (remote remote' : SocketAddr) :
    SameButEndpoints (phantunView connected remote) (phantunView connected remote') := by
  cases connected <;> exact ⟨rfl, rfl, rfl, rfl, rfl⟩

theorem phantunView_policy (remote remote' : SocketAddr) :
    (phantunView false remote).compiledPolicy = (phantunView false remote').compiledPolicy := rfl

/-- After the session the events still tell the remote. -/
theorem sanitized_same_iff_events :
    exportDiagnostics (fun policy => hash policy.endpoint) (phantunView false firstRemote)
        { includeEvents := false } "bundle" =
      exportDiagnostics (fun policy => hash policy.endpoint) (phantunView false secondRemote)
        { includeEvents := false } "bundle" ∧
    exportDiagnostics (fun policy => hash policy.endpoint) (phantunView false firstRemote)
        {} "bundle" ≠
      exportDiagnostics (fun policy => hash policy.endpoint) (phantunView false secondRemote)
        {} "bundle" := by
  constructor
  · refine (sanitized_same_iff rfl (phantunView_alike false _ _)).mpr ⟨rfl, ?_, nofun, rfl⟩
    rw [phantunView_policy firstRemote secondRemote]
  · intro hsame
    have hevents : [[JsonValue.str "127.0.0.1:51821", .str firstRemote.toString]] =
        [[.str "127.0.0.1:51821", .str secondRemote.toString]] :=
      ((sanitized_same_iff rfl (phantunView_alike false _ _)).mp hsame).events rfl
    simp only [List.cons.injEq, JsonValue.str.injEq, true_and, and_true] at hevents
    exact remote_ne hevents

/-- With nothing but the configuration and the snapshot asked for, `remote_tcp` is in the bundle. -/
theorem remoteTcp_exported :
    SameButEndpoints (phantunView true firstRemote) (phantunView true secondRemote) ∧
    exportDiagnostics (fun policy => hash policy.endpoint) (phantunView true firstRemote)
        { includeEvents := false, includeHistory := false } "bundle" ≠
      exportDiagnostics (fun policy => hash policy.endpoint) (phantunView true secondRemote)
        { includeEvents := false, includeHistory := false } "bundle" := by
  refine ⟨phantunView_alike true _ _, fun hsame => ?_⟩
  have hconfig : some (some firstRemote.toString, (none : Option String)) =
      some (some secondRemote.toString, none) :=
    congrArg (fun bundle : Bundle Nat Unit => bundle.configToml.remotes) hsame
  simp only [Option.some.injEq, Prod.mk.injEq, and_true] at hconfig
  exact remote_ne hconfig

end RouteGuard
