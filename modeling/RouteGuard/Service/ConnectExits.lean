import RouteGuard.Service.Connect

/-! # Where a connect request ends

A request can end at each of its fallible steps.  For every exit this module
says what is held afterwards: the handle, the session state, the active
session, the backend sessions and the running transports. -/
set_option autoImplicit false
namespace RouteGuard

open HashTable Fallible

/-! ## What is held -/

/-- The state of one connection, over all its owners. -/
@[ext]
structure Held where
  handle : Option TunnelHandle
  state : SessionState
  active : Option ActiveConnectSession
  sessions : BackendKind → Nat → Option TunnelSession
  running : TransportKind → Nat → Option Relay

def ServiceContext.held (ctx : ServiceContext) : Held where
  handle := ctx.handle
  state := ctx.state
  active := ctx.activeSession
  sessions kind id := (ctx.sessions kind).get id
  running kind id := (ctx.running kind).get id

/-- Identifiers in use lie below the next ones. -/
structure ServiceContext.Numbered (ctx : ServiceContext) : Prop where
  sessions : ∀ kind id, (ctx.sessions kind).get id ≠ none → id < ctx.nextUuid
  lwo : ∀ id, ctx.lwo.running.get id ≠ none → id < ctx.lwo.nextId
  phantun : ∀ id, ctx.phantun.running.get id ≠ none → id < ctx.phantun.nextId

namespace Held

/-- A transport session with its relay; direct UDP has none. -/
def started (held : Held) (kind : TransportKind) (id : Nat) (relay : Option Relay) : Held :=
  match relay with
  | none => held
  | some relay => { held with
      running := fun k i => if k = kind ∧ i = id then some relay else held.running k i }

def stopped (held : Held) (kind : TransportKind) (id : Nat) : Held :=
  { held with running := fun k i => if k = kind ∧ i = id then none else held.running k i }

def opened (held : Held) (kind : BackendKind) (id : Nat) (session : TunnelSession) : Held :=
  { held with sessions := fun k i => if k = kind ∧ i = id then some session else held.sessions k i }

def closed (held : Held) (kind : BackendKind) (id : Nat) : Held :=
  { held with sessions := fun k i => if k = kind ∧ i = id then none else held.sessions k i }

def connecting (held : Held) : Held := { held with state := .connecting }

def connected (held : Held) (handle : TunnelHandle) (active : ActiveConnectSession) : Held :=
  { held with handle := some handle, state := .connected, active := some active }

theorem connecting_sessions (held : Held) : held.connecting.sessions = held.sessions := rfl

theorem stopped_connecting (held : Held) (kind : TransportKind) (id : Nat) :
    held.connecting.stopped kind id = (held.stopped kind id).connecting := rfl

theorem started_sessions (held : Held) (kind : TransportKind) (id : Nat) (relay : Option Relay) :
    (held.started kind id relay).sessions = held.sessions := by
  cases relay <;> rfl

theorem stopped_started (held : Held) {kind : TransportKind} {id : Nat}
    (h : held.running kind id = none) (relay : Option Relay) :
    (held.started kind id relay).stopped kind id = held := by
  obtain ⟨handle, state, active, sessions, running⟩ := held
  have hrunning : ∀ k i, k = kind ∧ i = id → running k i = none := by
    intro k i hcase
    obtain ⟨rfl, rfl⟩ := hcase
    exact h
  cases relay <;>
  · refine Held.ext rfl rfl rfl rfl ?_
    simp only [started, stopped]
    funext k i
    by_cases hk : k = kind ∧ i = id
    · rw [if_pos hk, hrunning k i hk]
    · simp [hk]

end Held

section Frames
variable (ctx : ServiceContext)

@[simp]
theorem held_publish (event : TunnelEvent) : (ctx.publish event).held = ctx.held := rfl

@[simp]
theorem held_publishIf (condition : Bool) (event : TunnelEvent) :
    (ctx.publishIf condition event).held = ctx.held := by
  unfold ServiceContext.publishIf
  split <;> rfl

@[simp]
theorem held_setConfig (config : AppConfig) : (ctx.setConfig config).held = ctx.held := rfl

@[simp]
theorem held_announce (plan : ConnectPlan) : (announce plan ctx).held = ctx.held := by
  simp [announce]

theorem held_beginConnect (name : String) :
    (ctx.beginConnect name).held = ctx.held.connecting := rfl

theorem held_completeConnect (handle : TunnelHandle) : (ctx.completeConnect handle).held =
    { ctx.held with handle := some handle, state := .connected } := by
  simp only [ServiceContext.completeConnect, held_publish, held_publishIf]
  rfl

theorem held_transportDown (choice : TransportChoice) (session : TransportSession) :
    (transportDown choice session ctx).held = ctx.held.stopped choice.kind session.handleId := by
  cases choice <;>
  · refine Held.ext rfl rfl rfl rfl ?_
    funext kind id
    cases kind <;> simp [ServiceContext.held, Held.stopped, transportDown, TransportChoice.kind,
      Registry.remove, ServiceContext.running, get_remove]

theorem held_withSessions_insert (kind : BackendKind) (id : Nat) (session : TunnelSession)
    (nextUuid : Nat) : (ServiceContext.withSessions kind ((ctx.sessions kind).insert id session)
      { ctx with nextUuid := nextUuid }).held = ctx.held.opened kind id session := by
  cases kind <;>
  · refine Held.ext rfl rfl rfl ?_ rfl
    funext k i
    cases k <;> simp [ServiceContext.held, Held.opened, ServiceContext.withSessions,
      ServiceContext.sessions, get_insert]

theorem held_withSessions_remove (kind : BackendKind) (id : Nat) :
    (ctx.withSessions kind ((ctx.sessions kind).remove id)).held = ctx.held.closed kind id := by
  cases kind <;>
  · refine Held.ext rfl rfl rfl ?_ rfl
    funext k i
    cases k <;> simp [ServiceContext.held, Held.closed, ServiceContext.withSessions,
      ServiceContext.sessions, get_remove]

/-- A policy touches nothing that is held. -/
theorem applyFullPolicy_held (answers : PolicyAnswers) :
    (exec (applyFullPolicy answers) ctx).2.held = ctx.held := by
  simp only [applyFullPolicy, exec_bind, exec_get, exec_set, exec_fromResult]
  cases (ctx.domain.applySplitPolicy answers.env answers.moment (ctx.policyView answers)).1 <;> rfl

end Frames

/-! ## Identifiers -/

section Numbers
variable {ctx : ServiceContext}

theorem Numbered.publish (h : ctx.Numbered) (event : TunnelEvent) : (ctx.publish event).Numbered :=
  ⟨h.sessions, h.lwo, h.phantun⟩

theorem Numbered.publishIf (h : ctx.Numbered) (condition : Bool) (event : TunnelEvent) :
    (ctx.publishIf condition event).Numbered := by
  unfold ServiceContext.publishIf
  split
  · exact Numbered.publish h event
  · exact h

theorem Numbered.setConfig (h : ctx.Numbered) (config : AppConfig) :
    (ctx.setConfig config).Numbered :=
  ⟨h.sessions, h.lwo, h.phantun⟩

theorem Numbered.announce (h : ctx.Numbered) (plan : ConnectPlan) : (announce plan ctx).Numbered :=
  Numbered.publish (Numbered.publishIf h _ _) _

theorem Numbered.beginConnect (h : ctx.Numbered) (name : String) :
    (ctx.beginConnect name).Numbered :=
  have hstate : ({ ctx with state := .connecting } : ServiceContext).Numbered :=
    ⟨h.sessions, h.lwo, h.phantun⟩
  Numbered.publish hstate _

theorem Numbered.completeConnect (h : ctx.Numbered) (handle : TunnelHandle) :
    (ctx.completeConnect handle).Numbered :=
  have hstate :
      ({ ctx with handle := some handle, state := .connected } : ServiceContext).Numbered :=
    ⟨h.sessions, h.lwo, h.phantun⟩
  Numbered.publish (Numbered.publishIf hstate _ _) _

/-- Removing a relay or a session takes no identifier back. -/
theorem Numbered.transportDown (h : ctx.Numbered) (choice : TransportChoice)
    (session : TransportSession) : (transportDown choice session ctx).Numbered := by
  have hremove :
      ∀ (registry : Registry), (∀ id, registry.running.get id ≠ none → id < registry.nextId) →
      ∀ id, (registry.remove session.handleId).running.get id ≠ none → id < registry.nextId := by
    intro registry hregistry id hget
    refine hregistry id ?_
    rw [Registry.remove, get_remove] at hget
    split at hget
    · exact absurd rfl hget
    · exact hget
  cases choice with
  | directUdp => exact h
  | lwo => exact ⟨h.sessions, hremove ctx.lwo h.lwo, h.phantun⟩
  | phantun => exact ⟨h.sessions, h.lwo, hremove ctx.phantun h.phantun⟩

theorem Numbered.withSessions (h : ctx.Numbered) (kind : BackendKind) (id : Nat)
    (session : TunnelSession) (hid : id = ctx.nextUuid) :
    (ServiceContext.withSessions kind ((ctx.sessions kind).insert id session)
      { ctx with nextUuid := id + 1 }).Numbered := by
  subst hid
  have hinsert : ∀ k i, (if k = kind ∧ i = ctx.nextUuid then some session
      else (ctx.sessions k).get i) ≠ none → i < ctx.nextUuid + 1 := by
    intro k i hget
    split at hget
    · rename_i hnew
      omega
    · have hlt := h.sessions k i hget
      omega
  have hheld := held_withSessions_insert ctx kind ctx.nextUuid session (ctx.nextUuid + 1)
  cases kind <;>
  · refine ⟨fun k i hget => hinsert k i ?_, h.lwo, h.phantun⟩
    have hsessions := congrFun (congrFun (congrArg Held.sessions hheld) k) i
    exact fun hnone => hget (hsessions.trans hnone)

theorem Numbered.removeSession (h : ctx.Numbered) (kind : BackendKind) (id : Nat) :
    (ctx.withSessions kind ((ctx.sessions kind).remove id)).Numbered := by
  have hheld := held_withSessions_remove ctx kind id
  cases kind <;>
  · refine ⟨fun k i hget => h.sessions k i fun hnone => hget ?_, h.lwo, h.phantun⟩
    have hsessions := congrFun (congrFun (congrArg Held.sessions hheld) k) i
    refine hsessions.trans ?_
    simp only [Held.closed]
    split
    · rfl
    · exact hnone

theorem Numbered.fresh_session (h : ctx.Numbered) (kind : BackendKind) :
    ctx.held.sessions kind ctx.nextUuid = none := by
  by_contra hget
  exact absurd (h.sessions kind ctx.nextUuid hget) (Nat.lt_irrefl _)

end Numbers

/-! ## The transport -/

section Transport
variable (req : ConnectRequest) {ctx : ServiceContext}

/-- How the start of a transport turns out; direct UDP starts no relay. -/
def ConnectRequest.startResult : TransportChoice → Except RouteGuardError (Option Relay)
  | .directUdp => .ok none
  | .lwo => req.lwoStart.map some
  | .phantun =>
      match req.phantunSelect, req.phantunSpawn with
      | .error e, _ => .error e
      | .ok _, .error e => .error e
      | .ok relay, .ok _ => .ok (some relay)

theorem startResult_directUdp {choice : TransportChoice} {relay : Option Relay}
    (h : req.startResult choice = .ok relay) : relay = none ↔ choice = .directUdp := by
  cases choice with
  | directUdp =>
      cases h
      simp
  | lwo =>
      cases hstart : req.lwoStart <;>
        simp_all [ConnectRequest.startResult, Except.map, eq_comm]
  | phantun =>
      cases hselect : req.phantunSelect <;> cases hspawn : req.phantunSpawn <;>
        simp_all [ConnectRequest.startResult, eq_comm]

structure Starts (ctx : ServiceContext) (choice : TransportChoice) (relay : Option Relay)
    (session : TransportSession) (ctx' : ServiceContext) : Prop where
  kind : session.kind = choice.kind
  fresh : ctx.held.running choice.kind session.handleId = none
  held : ctx'.held = ctx.held.started choice.kind session.handleId relay
  numbered : ctx'.Numbered

theorem Starts.of_held {choice : TransportChoice} {relay : Option Relay}
    {session : TransportSession} {before ctx' : ServiceContext}
    (h : Starts ctx choice relay session ctx') (hheld : ctx.held = before.held) :
    Starts before choice relay session ctx' :=
  ⟨h.kind, hheld ▸ h.fresh, hheld ▸ h.held, h.numbered⟩

theorem transportUp_error (hn : ctx.Numbered) {choice : TransportChoice} {e : RouteGuardError}
    (h : req.startResult choice = .error e) (cfg : TunnelTransportConfig) (peer : SocketAddr) :
    ∃ ctx', exec (transportUp req choice cfg peer) ctx = (.error e, ctx') ∧
      ctx'.held = ctx.held ∧ ctx'.Numbered := by
  cases choice with
  | directUdp => cases h
  | lwo =>
      cases hstart : req.lwoStart with
      | ok relay => simp [ConnectRequest.startResult, hstart, Except.map] at h
      | error e' =>
          simp only [ConnectRequest.startResult, hstart, Except.map, Except.error.injEq] at h
          subst h
          refine ⟨ctx, ?_, rfl, hn⟩
          simp only [transportUp, exec_bind, exec_fromResult, hstart]
  | phantun =>
      cases hselect : req.phantunSelect with
      | error e' =>
          simp only [ConnectRequest.startResult, hselect, Except.error.injEq] at h
          subst h
          refine ⟨ctx, ?_, rfl, hn⟩
          simp only [transportUp, exec_bind, exec_fromResult, hselect]
      | ok relay =>
          cases hspawn : req.phantunSpawn with
          | ok _ => simp [ConnectRequest.startResult, hselect, hspawn] at h
          | error e' =>
              simp only [ConnectRequest.startResult, hselect, hspawn, Except.error.injEq] at h
              subst h
              refine ⟨{ ctx with
                phantun := { ctx.phantun with nextId := ctx.phantun.nextId + 1 } }, ?_, ?_, ?_⟩
              · simp only [transportUp, exec_bind, exec_fromResult, exec_get, exec_modify, hselect,
                  hspawn]
              · refine Held.ext rfl rfl rfl rfl ?_
                funext kind id
                cases kind <;> rfl
              · exact ⟨hn.sessions, hn.lwo, fun id hget =>
                  Nat.lt_succ_of_lt (hn.phantun id hget)⟩

theorem transportUp_ok (hn : ctx.Numbered) {choice : TransportChoice} {relay : Option Relay}
    (h : req.startResult choice = .ok relay) (cfg : TunnelTransportConfig) (peer : SocketAddr) :
    ∃ session ctx', exec (transportUp req choice cfg peer) ctx = (.ok session, ctx') ∧
      Starts ctx choice relay session ctx' := by
  have hinsert : ∀ (registry : Registry) (added : Relay),
      (∀ id, registry.running.get id ≠ none → id < registry.nextId) →
      ∀ id, (registry.insert added).running.get id ≠ none → id < registry.nextId + 1 := by
    intro registry added hregistry id hget
    rw [Registry.insert, get_insert] at hget
    split at hget
    · omega
    · exact Nat.lt_succ_of_lt (hregistry id hget)
  cases choice with
  | directUdp =>
      cases h
      exact ⟨_, ctx, rfl, rfl, rfl, rfl, hn⟩
  | lwo =>
      cases hstart : req.lwoStart with
      | error e => simp [ConnectRequest.startResult, hstart, Except.map] at h
      | ok added =>
          simp only [ConnectRequest.startResult, hstart, Except.map, Except.ok.injEq] at h
          subst h
          refine ⟨⟨.lwo, ctx.lwo.nextId, added.localAddr, peer, some added.remote, 1500 - 80,
            (cfg.lwo.map LwoTransportConfig.protocolVersion).getD 0, some "mullvad"⟩,
            { ctx with lwo := ctx.lwo.insert added }, ?_, rfl, ?_, ?_, ?_⟩
          · simp only [transportUp, exec_bind, exec_fromResult, exec_get,
              exec_modify, exec_pure, hstart]
          · by_contra hget
            exact absurd (hn.lwo _ hget) (Nat.lt_irrefl _)
          · refine Held.ext rfl rfl rfl rfl ?_
            funext kind id
            cases kind <;> simp [ServiceContext.held, Held.started, ServiceContext.running,
              Registry.insert, TransportChoice.kind, get_insert]
          · exact ⟨hn.sessions, hinsert ctx.lwo added hn.lwo, hn.phantun⟩
  | phantun =>
      cases hselect : req.phantunSelect with
      | error e => simp [ConnectRequest.startResult, hselect] at h
      | ok added =>
          cases hspawn : req.phantunSpawn with
          | error e => simp [ConnectRequest.startResult, hselect, hspawn] at h
          | ok _ =>
              simp only [ConnectRequest.startResult, hselect, hspawn, Except.ok.injEq] at h
              subst h
              refine ⟨⟨.phantun, ctx.phantun.nextId, added.localAddr, peer, some added.remote,
                1500 - (20 + 20 + 32), 0, none⟩,
                { ctx with phantun := ctx.phantun.insert added }, ?_, rfl, ?_, ?_, ?_⟩
              · simp only [transportUp, exec_bind, exec_fromResult, exec_get, exec_modify,
                  exec_pure, hselect, hspawn]
                rfl
              · by_contra hget
                exact absurd (hn.phantun _ hget) (Nat.lt_irrefl _)
              · refine Held.ext rfl rfl rfl rfl ?_
                funext kind id
                cases kind <;> simp [ServiceContext.held, Held.started, ServiceContext.running,
                  Registry.insert, TransportChoice.kind, get_insert]
              · exact ⟨hn.sessions, hn.lwo, hinsert ctx.phantun added hn.phantun⟩

theorem prepare_error (hn : ctx.Numbered) {choice : TransportChoice} {e : RouteGuardError}
    (h : req.startResult choice = .error e) (merged : TunnelTransportConfig) (peer : SocketAddr)
    (name confText : String) (resolved : ResolvedTransport) :
    ∃ ctx', exec (prepare req choice merged peer name confText resolved) ctx = (.error e, ctx') ∧
      ctx'.held = ctx.held ∧ ctx'.Numbered := by
  obtain ⟨ctx', hup, hheld, hn'⟩ := transportUp_error req hn h merged peer
  exact ⟨ctx', exec_bind_error hup _, hheld, hn'⟩

/-- The relay is up before the configuration is written. -/
theorem prepare_unwritten (hn : ctx.Numbered) {choice : TransportChoice} {relay : Option Relay}
    {e : RouteGuardError} (h : req.startResult choice = .ok relay)
      (hstore : req.storeConf = .error e)
    (merged : TunnelTransportConfig) (peer : SocketAddr) (name confText : String)
    (resolved : ResolvedTransport) :
    ∃ session ctx', exec (prepare req choice merged peer name confText resolved) ctx =
      (.error e, ctx') ∧ Starts ctx choice relay session ctx' := by
  obtain ⟨session, ctx', hup, hstarts⟩ := transportUp_ok req hn h merged peer
  obtain ⟨written, hwritten⟩ :=
    rewriteConfEndpoint_ok session.wireguardEndpoint session.effectiveMtu confText
  refine ⟨session, ctx', ?_, hstarts⟩
  rw [prepare, exec_bind_ok hup]
  simp only [exec_bind, exec_fromResult, hwritten, hstore]

theorem prepare_ok (hn : ctx.Numbered) {choice : TransportChoice} {relay : Option Relay}
    (h : req.startResult choice = .ok relay) (hstore : req.storeConf = .ok ())
    (merged : TunnelTransportConfig) (peer : SocketAddr) (name confText : String)
    (resolved : ResolvedTransport) :
    ∃ session ctx' prepared, exec (prepare req choice merged peer name confText resolved) ctx =
      (.ok prepared, ctx') ∧ prepared.transportSession = some session ∧
      Starts ctx choice relay session ctx' := by
  obtain ⟨session, ctx', hup, hstarts⟩ := transportUp_ok req hn h merged peer
  obtain ⟨written, hwritten⟩ :=
    rewriteConfEndpoint_ok session.wireguardEndpoint session.effectiveMtu confText
  let config : TunnelConfig :=
    { name := name
      configPath := req.runtimeConfPath name
      mtu := session.effectiveMtu
      transport := merged }
  refine ⟨session, ctx', ⟨config, req.runtimeConfPath name, some session, session.effectiveMtu,
    resolved⟩, ?_, rfl, hstarts⟩
  rw [prepare, exec_bind_ok hup]
  simp only [exec_bind, exec_fromResult, exec_pure, hwritten, hstore]
  rfl

end Transport

/-! ## The exits -/

section Exits
variable (req : ConnectRequest) {ctx : ServiceContext}

/-- The tunnel, its configuration and its transport, where a request gets that far. -/
def ConnectRequest.plan (cfg : AppConfig) : Except IpcError ConnectPlan :=
  (selectTunnel req cfg).bind (readPlan req)

structure BroughtUp (held : Held) (plan : ConnectPlan) (choice : BackendChoice)
    (handle : TunnelHandle) (active : ActiveConnectSession) : Prop where
  freshRelay : held.running plan.choice.kind active.transportSession.handleId = none
  freshSession : held.sessions choice.kind handle.id = none
  transport : active.transportChoice = plan.choice
  kind : active.transportSession.kind = plan.choice.kind
  backend : handle.backend = choice.kind

/-- The exits of a request: its response and what is held then. -/
inductive ConnectExit (ctx : ServiceContext) : Except IpcError ConnectResult → Held → Prop where
  | noPlan {e : IpcError} (hplan : req.plan ctx.config = .error e) :
      ConnectExit ctx (.error e) ctx.held
  | noTransport {plan : ConnectPlan} {e : RouteGuardError} (hplan : req.plan ctx.config = .ok plan)
      (hstart : req.startResult plan.choice = .error e) :
      ConnectExit ctx (.error ⟨-32000, e.toString⟩) ctx.held
  | notWritten {plan : ConnectPlan} {relay : Option Relay} {e : RouteGuardError} {id : Nat}
      (hplan : req.plan ctx.config = .ok plan) (hstart : req.startResult plan.choice = .ok relay)
      (hstore : req.storeConf = .error e) (hfresh : ctx.held.running plan.choice.kind id = none) :
      ConnectExit ctx (.error ⟨-32000, e.toString⟩) (ctx.held.started plan.choice.kind id relay)
  | noBackend {plan : ConnectPlan} {relay : Option Relay} {e : RouteGuardError}
      (hplan : req.plan ctx.config = .ok plan) (hstart : req.startResult plan.choice = .ok relay)
      (hstore : req.storeConf = .ok ()) (hresolve : resolveBackend req plan.tunnelCfg = .error e) :
      ConnectExit ctx (.error ⟨-32000, e.toString⟩) ctx.held
  | backendDown {plan : ConnectPlan} {relay : Option Relay} {backend : ResolvedBackend}
      {choice : BackendChoice} {e : RouteGuardError}
      (hplan : req.plan ctx.config = .ok plan) (hstart : req.startResult plan.choice = .ok relay)
      (hstore : req.storeConf = .ok ())
      (hresolve : resolveBackend req plan.tunnelCfg = .ok (backend, choice))
      (hup : req.backendUp = .error e) :
      ConnectExit ctx (.error ⟨-32000, e.toString⟩) ctx.held.connecting
  | connected {plan : ConnectPlan} {relay : Option Relay} {backend : ResolvedBackend}
      {choice : BackendChoice} {link : Nat × Nat} {handle : TunnelHandle}
      {active : ActiveConnectSession} {session : TunnelSession}
      (hplan : req.plan ctx.config = .ok plan) (hstart : req.startResult plan.choice = .ok relay)
      (hstore : req.storeConf = .ok ())
      (hresolve : resolveBackend req plan.tunnelCfg = .ok (backend, choice))
      (hup : req.backendUp = .ok link) (hbrought : BroughtUp ctx.held plan choice handle active)
      (response : Except IpcError ConnectResult) :
      ConnectExit ctx response (((ctx.held.started plan.choice.kind
        active.transportSession.handleId relay).opened choice.kind handle.id session).connected
        handle active)

theorem backendUp_error {e : RouteGuardError} (h : req.backendUp = .error e)
    (choice : BackendChoice) (config : TunnelConfig) :
    exec (backendUp req choice config) ctx = (.error e, ctx) := by
  simp only [backendUp, exec_bind, exec_fromResult, h]

theorem backendUp_ok (hn : ctx.Numbered) {link : Nat × Nat} (h : req.backendUp = .ok link)
    (choice : BackendChoice) (config : TunnelConfig) :
    ∃ ctx', exec (backendUp req choice config) ctx =
        (.ok ⟨ctx.nextUuid, config.name, link.1, link.2, choice.kind⟩, ctx') ∧
      ctx'.held = ctx.held.opened choice.kind ctx.nextUuid ⟨config.name⟩ ∧ ctx'.Numbered := by
  refine ⟨_, ?_, held_withSessions_insert ctx choice.kind ctx.nextUuid ⟨config.name⟩
    (ctx.nextUuid + 1), Numbered.withSessions hn choice.kind ctx.nextUuid ⟨config.name⟩ rfl⟩
  simp only [backendUp, exec_bind, exec_fromResult, exec_get, exec_modify, exec_pure, h]

theorem storeActive_held (ctx : ServiceContext) (plan : ConnectPlan) {prepared : PreparedConnect}
    {session : TransportSession} (h : prepared.transportSession = some session)
    (handle : TunnelHandle) :
    ∃ active, active.transportSession = session ∧ active.transportChoice = plan.choice ∧
      (storeActive plan prepared (ctx.completeConnect handle)).held =
        ctx.held.connected handle active := by
  let active : ActiveConnectSession :=
    { tunnelName := prepared.tunnelConfig.name
      sourceConfigPath := plan.tunnelCfg.configPath
      peerEndpoint := session.originalEndpoint
      mergedTransport := prepared.tunnelConfig.transport
      transportSession := session
      transportChoice := plan.choice
      resolvedTransport := prepared.resolved
      runtimeConfPath := prepared.runtimeConfPath }
  have hactive : ActiveConnectSession.fromPrepared prepared plan.choice plan.tunnelCfg.configPath =
      some active := by
    rw [ActiveConnectSession.fromPrepared, h]
    rfl
  refine ⟨active, rfl, rfl, ?_⟩
  have hcomplete := held_completeConnect ctx handle
  simp only [storeActive, hactive]
  exact congrArg (fun held : Held => { held with active := some active }) hcomplete

theorem finishConnect_held (ctx : ServiceContext) (plan : ConnectPlan) {prepared : PreparedConnect}
    {session : TransportSession} (h : prepared.transportSession = some session)
    (backend : ResolvedBackend) (handle : TunnelHandle) :
    ∃ active, active.transportSession = session ∧ active.transportChoice = plan.choice ∧
      (exec (finishConnect req plan prepared backend handle) ctx).2.held =
        ctx.held.connected handle active := by
  obtain ⟨active, hsession, hchoice, hconnected⟩ := storeActive_held ctx plan h handle
  refine ⟨active, hsession, hchoice, ?_⟩
  have hpolicy := applyFullPolicy_held (storeActive plan prepared (ctx.completeConnect handle))
    req.policy
  simp only [finishConnect, exec_bind, exec_modify, exec_caught]
  cases (exec (applyFullPolicy req.policy)
    (storeActive plan prepared (ctx.completeConnect handle))).1 <;> exact hpolicy.trans hconnected

theorem held_rollbackTransport (choice : TransportChoice) {prepared : PreparedConnect}
    {session : TransportSession} (h : prepared.transportSession = some session) :
    (rollbackTransport choice prepared ctx).held =
      ctx.held.stopped choice.kind session.handleId := by
  rw [rollbackTransport, h]
  exact held_transportDown ctx choice session

/-- From a started transport on, in the context `ctx'` that `prepare` leaves. -/
theorem bringUp_exit {plan : ConnectPlan} {relay : Option Relay} {session : TransportSession}
    {ctx' : ServiceContext} {prepared : PreparedConnect}
    (hplan : req.plan ctx.config = .ok plan) (hstart : req.startResult plan.choice = .ok relay)
    (hstore : req.storeConf = .ok ()) (hprepared : prepared.transportSession = some session)
    (hstarts : Starts ctx plan.choice relay session ctx') :
    ConnectExit req ctx (exec (bringUp req plan prepared) ctx').1
      (exec (bringUp req plan prepared) ctx').2.held := by
  have hback := Held.stopped_started ctx.held hstarts.fresh relay
  have hresolve : resolveBackend req (connectConfig plan prepared) =
      resolveBackend req plan.tunnelCfg := rfl
  simp only [bringUp, announceTransport, failBackend, hprepared, hresolve, exec_bind, exec_modify]
  cases hbackend : resolveBackend req plan.tunnelCfg with
  | error e =>
      simp only [exec_bind, exec_modify, exec_throw, held_rollbackTransport _ hprepared,
        held_publish, hstarts.held, hback]
      exact .noBackend hplan hstart hstore hbackend
  | ok found =>
      obtain ⟨backend, choice⟩ := found
      simp only [exec_bind, exec_modify, exec_caught]
      generalize hbegan : ServiceContext.beginConnect plan.tunnelCfg.name _ = began
      have hheld : began.held = ctx'.held.connecting := by
        rw [← hbegan, held_beginConnect, held_publishIf, held_publish]
      have hnumbered : began.Numbered := by
        rw [← hbegan]
        exact Numbered.beginConnect
          (Numbered.publishIf (Numbered.publish hstarts.numbered _) _ _) _
      cases hup : req.backendUp with
      | error e =>
          rw [backendUp_error req hup]
          simp only [exec_bind, exec_modify, exec_throw, held_rollbackTransport _ hprepared, hheld,
            hstarts.held]
          rw [Held.stopped_connecting, hback]
          exact .backendDown hplan hstart hstore hbackend hup
      | ok link =>
          obtain ⟨ctx'', hexec, hopened, -⟩ :=
            backendUp_ok req hnumbered hup choice (connectConfig plan prepared)
          rw [hexec]
          obtain ⟨active, hsession, htransport, hfinish⟩ := finishConnect_held req ctx'' plan
            hprepared backend ⟨began.nextUuid, (connectConfig plan prepared).name, link.1, link.2,
              choice.kind⟩
          have hfresh := Numbered.fresh_session hnumbered choice.kind
          rw [hheld, hstarts.held] at hopened hfresh
          rw [Held.connecting_sessions, Held.started_sessions] at hfresh
          dsimp only
          rw [hfinish, hopened, ← hsession]
          refine .connected hplan hstart hstore hbackend hup ?_ _
          refine ⟨?_, hfresh, htransport, ?_, rfl⟩
          · rw [hsession]
            exact hstarts.fresh
          · rw [hsession]
            exact hstarts.kind

theorem plan_of_selected {cfg : AppConfig} {selected : SelectedTunnel}
    (h : selectTunnel req cfg = .ok selected) : req.plan cfg = readPlan req selected := by
  rw [ConnectRequest.plan, h]
  rfl

/-- Every request ends at one of the exits. -/
theorem handleConnect_exit (hn : ctx.Numbered) :
    ConnectExit req ctx (exec (handleConnect req) ctx).1 (exec (handleConnect req) ctx).2.held := by
  simp only [handleConnect, exec_bind, exec_get, exec_fromResult, exec_modify]
  cases hselect : selectTunnel req ctx.config with
  | error e =>
      refine .noPlan ?_
      rw [ConnectRequest.plan, hselect]
      rfl
  | ok selected =>
      have hplan := plan_of_selected req hselect
      dsimp only
      cases hread : readPlan req selected with
      | error e => exact .noPlan (hplan.trans hread)
      | ok plan =>
          rw [hread] at hplan
          simp only [exec_caught]
          generalize hannounced : announce plan _ = announced
          have hheld : announced.held = ctx.held := by
            rw [← hannounced, held_announce, held_setConfig]
          have hnumbered : announced.Numbered := by
            rw [← hannounced]
            exact Numbered.announce (Numbered.setConfig hn _) plan
          cases hstart : req.startResult plan.choice with
          | error e =>
              obtain ⟨ctx', hexec, hsame, -⟩ := prepare_error req hnumbered hstart plan.merged
                plan.peerEndpoint plan.tunnelCfg.name plan.confText plan.resolved
              rw [hexec]
              simp only [exec_bind, exec_modify, exec_throw, held_publish, hsame, hheld]
              exact .noTransport hplan hstart
          | ok relay =>
              cases hstore : req.storeConf with
              | error e =>
                  obtain ⟨session, ctx', hexec, hstarts⟩ := prepare_unwritten req hnumbered hstart
                    hstore plan.merged plan.peerEndpoint plan.tunnelCfg.name plan.confText
                    plan.resolved
                  have hstarts := hstarts.of_held hheld
                  rw [hexec]
                  simp only [exec_bind, exec_modify, exec_throw, held_publish, hstarts.held]
                  exact .notWritten hplan hstart hstore hstarts.fresh
              | ok _ =>
                  obtain ⟨session, ctx', prepared, hexec, hprepared, hstarts⟩ := prepare_ok req
                    hnumbered hstart hstore plan.merged plan.peerEndpoint plan.tunnelCfg.name
                    plan.confText plan.resolved
                  rw [hexec]
                  exact bringUp_exit req hplan hstart hstore hprepared (hstarts.of_held hheld)

end Exits

/-! ## Every step keeps the numbering -/

section Keeps
variable (req : ConnectRequest)

theorem applyFullPolicy_numbered (answers : PolicyAnswers) :
    Keeps ServiceContext.Numbered (applyFullPolicy answers) := by
  intro ctx h
  simp only [applyFullPolicy, exec_bind, exec_get, exec_set, exec_fromResult]
  cases (ctx.domain.applySplitPolicy answers.env answers.moment (ctx.policyView answers)).1 <;>
    exact ⟨h.sessions, h.lwo, h.phantun⟩

theorem prepare_numbered (choice : TransportChoice) (merged : TunnelTransportConfig)
    (peer : SocketAddr) (name confText : String) (resolved : ResolvedTransport) :
    Keeps ServiceContext.Numbered (prepare req choice merged peer name confText resolved) := by
  refine keeps_bind ?_ fun session => keeps_bind (keeps_fromResult _) fun _ =>
    keeps_bind (keeps_fromResult _) fun _ => keeps_pure _
  intro ctx h
  cases hstart : req.startResult choice with
  | error e =>
      obtain ⟨ctx', hexec, -, hn⟩ := transportUp_error req h hstart merged peer
      rw [hexec]
      exact hn
  | ok relay =>
      obtain ⟨session, ctx', hexec, hstarts⟩ := transportUp_ok req h hstart merged peer
      rw [hexec]
      exact hstarts.numbered

theorem backendUp_numbered (choice : BackendChoice) (config : TunnelConfig) :
    Keeps ServiceContext.Numbered (backendUp req choice config) := by
  intro ctx h
  cases hup : req.backendUp with
  | error e =>
      rw [backendUp_error req hup]
      exact h
  | ok link =>
      obtain ⟨ctx', hexec, -, hn⟩ := backendUp_ok req h hup choice config
      rw [hexec]
      exact hn

theorem backendDown_numbered (req : DisconnectRequest) (choice : BackendChoice)
    (handle : TunnelHandle) : Keeps ServiceContext.Numbered (backendDown req choice handle) := by
  refine keeps_bind keeps_get fun ctx => ?_
  cases (ctx.sessions choice.kind).get handle.id with
  | none => exact keeps_throw _
  | some session =>
      refine keeps_bind (keeps_modify fun ctx h => Numbered.removeSession h _ _) fun _ => ?_
      cases req.clearRoutes with
      | error e => exact keeps_throw _
      | ok _ => exact keeps_pure _

theorem withActive_numbered {ctx : ServiceContext} (h : ctx.Numbered)
    (active : Option ActiveConnectSession) :
    ({ ctx with activeSession := active } : ServiceContext).Numbered :=
  ⟨h.sessions, h.lwo, h.phantun⟩

theorem finishConnect_numbered (plan : ConnectPlan) (prepared : PreparedConnect)
    (backend : ResolvedBackend) (handle : TunnelHandle) :
    Keeps ServiceContext.Numbered (finishConnect req plan prepared backend handle) := by
  refine keeps_bind (keeps_modify fun ctx h => Numbered.completeConnect h handle) fun _ => ?_
  refine keeps_bind (keeps_modify fun ctx h => ?_) fun _ => ?_
  · unfold storeActive
    split
    · exact h
    · exact withActive_numbered h _
  · refine keeps_bind (keeps_caught (applyFullPolicy_numbered _)) fun result => ?_
    cases result with
    | error e => exact keeps_throw _
    | ok _ => exact keeps_pure _

theorem failBackend_numbered (plan : ConnectPlan) (prepared : PreparedConnect)
    (e : RouteGuardError) : Keeps ServiceContext.Numbered (failBackend plan prepared e) := by
  refine keeps_bind (keeps_modify fun ctx h => ?_) fun _ => keeps_throw _
  unfold rollbackTransport
  split
  · exact h
  · exact Numbered.publish (Numbered.transportDown h _ _) _

theorem bringUp_numbered (plan : ConnectPlan) (prepared : PreparedConnect) :
    Keeps ServiceContext.Numbered (bringUp req plan prepared) := by
  refine keeps_bind (keeps_modify fun ctx h => ?_) fun _ => ?_
  · unfold announceTransport
    split
    · exact h
    · exact Numbered.publish h _
  · cases resolveBackend req (connectConfig plan prepared) with
    | error e => exact failBackend_numbered plan prepared e
    | ok found =>
        refine keeps_bind (keeps_modify fun ctx h => Numbered.publishIf h _ _) fun _ => ?_
        refine keeps_bind (keeps_modify fun ctx h => Numbered.beginConnect h _) fun _ => ?_
        refine keeps_bind (keeps_caught (backendUp_numbered req _ _)) fun result => ?_
        cases result with
        | error e => exact failBackend_numbered plan prepared e
        | ok handle => exact finishConnect_numbered req plan prepared found.1 handle

theorem handleConnect_numbered : Keeps ServiceContext.Numbered (handleConnect req) := by
  refine keeps_bind keeps_get fun ctx => keeps_bind (keeps_fromResult _) fun selected => ?_
  refine keeps_bind (keeps_modify fun ctx h => Numbered.setConfig h _) fun _ => ?_
  refine keeps_bind (keeps_fromResult _) fun plan => ?_
  refine keeps_bind (keeps_modify fun ctx h => Numbered.announce h plan) fun _ => ?_
  refine keeps_bind (keeps_caught (prepare_numbered req _ _ _ _ _ _)) fun result => ?_
  cases result with
  | error e =>
      exact keeps_bind (keeps_modify fun ctx h => Numbered.publish h _) fun _ => keeps_throw _
  | ok prepared => exact bringUp_numbered req plan prepared

theorem handleDisconnect_numbered (req : DisconnectRequest) :
    Keeps ServiceContext.Numbered (handleDisconnect req) := by
  refine keeps_bind keeps_get fun ctx => ?_
  cases ctx.handle with
  | none => exact keeps_throw _
  | some handle =>
      refine keeps_bind (keeps_modify fun ctx h => Numbered.publish h _) fun _ => ?_
      refine keeps_bind (keeps_modify fun ctx h => ?_) fun _ => ?_
      · unfold takeActive
        split
        · exact h
        · exact Numbered.transportDown (Numbered.publish (withActive_numbered h none) _) _ _
      · refine keeps_bind (keeps_caught (backendDown_numbered req _ handle)) fun result => ?_
        cases result with
        | error e => exact keeps_throw _
        | ok _ =>
            refine keeps_bind (keeps_modify fun ctx h => Numbered.publish ?_ _) fun _ =>
              keeps_modify fun ctx h => ⟨h.sessions, h.lwo, h.phantun⟩
            exact ⟨h.sessions, h.lwo, h.phantun⟩

theorem recover_numbered (attempt : Nat) (active : ActiveConnectSession) :
    Keeps ServiceContext.Numbered (recover req attempt active) := by
  refine keeps_bind keeps_get fun ctx => ?_
  cases ctx.activeSession with
  | none => exact keeps_pure _
  | some _ =>
      refine keeps_bind (keeps_caught ?_) fun result => ?_
      · refine keeps_bind (keeps_fromResult _) fun confText => ?_
        refine keeps_bind (keeps_caught ?_) fun prepared => ?_
        · exact keeps_bind (keeps_modify fun ctx h => Numbered.transportDown h _ _) fun _ =>
            prepare_numbered req _ _ _ _ _ _
        · cases prepared with
          | error e => exact keeps_throw _
          | ok prepared =>
              dsimp only
              cases ActiveConnectSession.fromPrepared prepared active.transportChoice
                active.sourceConfigPath with
              | none => exact keeps_throw _
              | some newActive => exact keeps_pure _
      · cases result with
        | error reason =>
            exact keeps_bind (keeps_modify fun ctx h => Numbered.publish h _) fun _ =>
              keeps_modify fun ctx h => Numbered.publish h _
        | ok newActive =>
            refine keeps_bind (keeps_modify fun ctx h => Numbered.publish h _) fun _ => ?_
            refine keeps_bind (keeps_modify fun ctx h => Numbered.publish h _) fun _ => ?_
            refine keeps_bind (keeps_modify fun ctx h => withActive_numbered h _) fun _ => ?_
            exact keeps_bind (keeps_caught (applyFullPolicy_numbered _)) fun _ => keeps_pure _

theorem serve_numbered {ctx : ServiceContext} (h : ctx.Numbered) (request : ServiceRequest) :
    (serve ctx request).Numbered := by
  cases request with
  | connect req => exact handleConnect_numbered req ctx h
  | disconnect req => exact handleDisconnect_numbered req ctx h

theorem start_numbered (config : AppConfig) (domain : DomainRouting) :
    ({ config := config, domain := domain } : ServiceContext).Numbered := by
  refine ⟨fun kind id hget => ?_, fun id hget => ?_, fun id hget => ?_⟩
  · cases kind <;> exact absurd rfl hget
  · exact absurd rfl hget
  · exact absurd rfl hget

theorem Reachable.numbered {ctx : ServiceContext} (h : Reachable ctx) : ctx.Numbered := by
  induction h with
  | start config domain => exact start_numbered config domain
  | request _ request ih => exact serve_numbered ih request
  | recovery _ req attempt active ih => exact recover_numbered req attempt active _ ih
  | other _ config external domain events ih => exact ⟨ih.sessions, ih.lwo, ih.phantun⟩

end Keeps

end RouteGuard
