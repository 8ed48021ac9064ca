import RouteGuard.Service.Connect

/-! # Requests and health monitors, from await to await

The handlers of `handler.rs` and the loop of `transport_health.rs` as steps.  A
step is what a task does from one `.await` to the next; between two of its
steps any other task may run. -/
set_option autoImplicit false
namespace RouteGuard

open HashTable Fallible

/-! ## Connect -/

inductive ConnectPoint where
  | getConfig
  | setConfig (cfg : AppConfig) (selected : SelectedTunnel)
  | readConf (selected : SelectedTunnel)
  | transportUp (plan : ConnectPlan)
  | storeConf (plan : ConnectPlan) (session : TransportSession)
  | beginConnect (plan : ConnectPlan) (prepared : PreparedConnect) (choice : BackendChoice)
  | backendUp (plan : ConnectPlan) (prepared : PreparedConnect) (choice : BackendChoice)
  | setHandle (plan : ConnectPlan) (prepared : PreparedConnect) (handle : TunnelHandle)
  | setConnected (plan : ConnectPlan) (prepared : PreparedConnect) (handle : TunnelHandle)
  | applyPolicy
  | rollback (plan : ConnectPlan) (prepared : PreparedConnect)

/-- The rest of `TransportSelector::prepare`, once its transport is up. -/
def storePrepared (req : ConnectRequest) (merged : TunnelTransportConfig) (name confText : String)
    (resolved : ResolvedTransport) (session : TransportSession) :
    Except RouteGuardError PreparedConnect :=
  match rewriteConfEndpoint session.wireguardEndpoint (some session.effectiveMtu) confText with
  | .error e => .error e
  | .ok _ =>
      match req.storeConf with
      | .error e => .error e
      | .ok _ => .ok
          { tunnelConfig :=
              { name := name
                configPath := req.runtimeConfPath name
                mtu := session.effectiveMtu
                transport := merged }
            runtimeConfPath := req.runtimeConfPath name
            transportSession := some session
            effectiveMtu := session.effectiveMtu
            resolved := resolved }

section Connect
variable (req : ConnectRequest)

def planFailed (plan : ConnectPlan) (e : RouteGuardError) (ctx : ServiceContext) : ServiceContext :=
  ctx.publish (.transportFailed plan.tunnelCfg.name plan.resolved.kind e.toString false)

/-- From the prepared transport to the next await: the backend is resolved. -/
def afterPrepare (plan : ConnectPlan) (prepared : PreparedConnect) (ctx : ServiceContext) :
    Option ConnectPoint × ServiceContext :=
  let ctx := announceTransport plan prepared ctx
  match resolveBackend req (connectConfig plan prepared) with
  | .error _ => (some (.rollback plan prepared), ctx)
  | .ok (backend, choice) =>
      (some (.beginConnect plan prepared choice), ctx.publishIf backend.fallback
        (.backendFallback plan.tunnelCfg.name .awg backend.kind
          (backend.fallbackReason.getD "awg_unavailable")))

def connectStep : ConnectPoint → ServiceContext → Option ConnectPoint × ServiceContext
  | .getConfig, ctx =>
      match selectTunnel req ctx.config with
      | .error _ => (none, ctx)
      | .ok selected =>
          (some (.setConfig { ctx.config with tunnel := some selected.tunnelCfg } selected), ctx)
  | .setConfig cfg selected, ctx => (some (.readConf selected), ctx.setConfig cfg)
  | .readConf selected, ctx =>
      match readPlan req selected with
      | .error _ => (none, ctx)
      | .ok plan => (some (.transportUp plan), announce plan ctx)
  | .transportUp plan, ctx =>
      match exec (RouteGuard.transportUp req plan.choice plan.merged plan.peerEndpoint) ctx with
      | (.error e, ctx) => (none, planFailed plan e ctx)
      | (.ok session, ctx) => (some (.storeConf plan session), ctx)
  | .storeConf plan session, ctx =>
      match storePrepared req plan.merged plan.tunnelCfg.name plan.confText
        plan.resolved session with
      | .error e => (none, planFailed plan e ctx)
      | .ok result => afterPrepare req plan result ctx
  | .beginConnect plan prepared choice, ctx =>
      (some (.backendUp plan prepared choice), ctx.beginConnect plan.tunnelCfg.name)
  | .backendUp plan prepared choice, ctx =>
      match exec (RouteGuard.backendUp req choice (connectConfig plan prepared)) ctx with
      | (.error _, ctx) => (some (.rollback plan prepared), ctx)
      | (.ok handle, ctx) => (some (.setHandle plan prepared handle), ctx)
  -- `complete_connect` takes the locks of the handle and of the state one after the other
  | .setHandle plan prepared handle, ctx =>
      (some (.setConnected plan prepared handle), { ctx with handle := some handle })
  | .setConnected plan prepared handle, ctx =>
      (some .applyPolicy, storeActive plan prepared (ctx.completeConnect handle))
  | .applyPolicy, ctx => (none, (exec (applyFullPolicy req.policy) ctx).2)
  | .rollback plan prepared, ctx => (none, rollbackTransport plan.choice prepared ctx)

end Connect

/-! ## Disconnect -/

inductive DisconnectPoint where
  | activeHandle
  | transportDown (handle : TunnelHandle) (active : ActiveConnectSession)
  | backendDown (handle : TunnelHandle)
  | clearHandle (handle : TunnelHandle)
  | clearState (handle : TunnelHandle)

def disconnectStep (req : DisconnectRequest) :
    DisconnectPoint → ServiceContext → Option DisconnectPoint × ServiceContext
  | .activeHandle, ctx =>
      match ctx.handle with
      | none => (none, ctx)
      | some handle =>
          let ctx := ctx.publish (.disconnecting handle.name)
          match ctx.activeSession with
          | none => (some (.backendDown handle), ctx)
          | some active =>
              (some (.transportDown handle active),
                ({ ctx with activeSession := none } : ServiceContext).publish
                  (.transportDisconnected handle.name active.transportSession.kind))
  | .transportDown handle active, ctx =>
      (some (.backendDown handle),
        RouteGuard.transportDown active.transportChoice active.transportSession ctx)
  | .backendDown handle, ctx =>
      match exec (RouteGuard.backendDown req (choiceFor handle.backend) handle) ctx with
      | (.error _, ctx) => (none, ctx)
      | (.ok _, ctx) => (some (.clearHandle handle), ctx)
  -- `clear_handle` takes the locks of the handle and of the state one after the other
  | .clearHandle handle, ctx => (some (.clearState handle), { ctx with handle := none })
  | .clearState handle, ctx =>
      let ctx := ctx.disconnectWithHandle handle
      (none, { ctx with
        domain := ctx.domain.attempt (SessionRoutes.clear req.routeOrder)
        activeSession := none })

/-! ## The health monitor -/

inductive MonitorPoint where
  | tick
  | health (active : ActiveConnectSession)
  | backoff (active : ActiveConnectSession)
  | readConf (active : ActiveConnectSession)
  | transportDown (active : ActiveConnectSession) (confText : String)
  | transportUp (active : ActiveConnectSession) (confText : String)
  | storeConf (active : ActiveConnectSession) (confText : String) (session : TransportSession)
  | applyPolicy
deriving DecidableEq

def recoveryFailed (attempt : Nat) (active : ActiveConnectSession) (reason : String)
    (ctx : ServiceContext) : ServiceContext :=
  (ctx.publish (.transportRecoveryResult active.transportSession.kind attempt false
    (some reason))).publish (.transportFailed active.tunnelName active.transportSession.kind reason
      (decide (attempt < 3)))

def recovered (attempt : Nat) (active newActive : ActiveConnectSession) (ctx : ServiceContext) :
    ServiceContext :=
  { (ctx.publish (.transportRecoveryResult active.transportSession.kind attempt true none)).publish
      (transportConnected newActive.tunnelName newActive.transportSession) with
    activeSession := some newActive }

def restarted (answers : ConnectRequest) (active : ActiveConnectSession) (confText : String)
    (session : TransportSession) : Except String ActiveConnectSession :=
  match storePrepared answers active.mergedTransport active.tunnelName confText
      active.resolvedTransport session with
  | .error e => .error e.toString
  | .ok prepared =>
      match ActiveConnectSession.fromPrepared prepared active.transportChoice
          active.sourceConfigPath with
      | none => .error "transport restart produced no session"
      | some newActive => .ok newActive

/-- One step of the loop, with the value of `recovery_attempts` before and after it. -/
def monitorStep (answers : ConnectRequest) (healthy : Bool) (attempts : Nat) :
    MonitorPoint → ServiceContext → MonitorPoint × Nat × ServiceContext
  | .tick, ctx =>
      match ctx.activeSession with
      | none => (.tick, 0, ctx)
      | some active =>
          if active.transportChoice = .directUdp then (.tick, 0, ctx)
          else (.health active, attempts, ctx)
  | .health active, ctx =>
      if healthy then (.tick, 0, ctx)
      else if 3 < attempts + 1 then
        (.tick, 0, ctx.publish (.transportFailed active.tunnelName active.transportSession.kind
          "transport health check failed after max recovery attempts" false))
      else
        (.backoff active, attempts + 1, ctx.publish (.transportRecovering active.tunnelName
          active.transportSession.kind (attempts + 1) 3))
  | .backoff active, ctx =>
      match ctx.activeSession with
      | none => (.tick, 0, ctx)
      | some _ => (.readConf active, attempts, ctx)
  | .readConf active, ctx =>
      match answers.confText with
      | .error e =>
          (.tick, attempts, recoveryFailed attempts active ("read source conf: " ++ e) ctx)
      | .ok confText => (.transportDown active confText, attempts, ctx)
  | .transportDown active confText, ctx =>
      (.transportUp active confText, attempts,
        RouteGuard.transportDown active.transportChoice active.transportSession ctx)
  | .transportUp active confText, ctx =>
      match exec (RouteGuard.transportUp answers active.transportChoice active.mergedTransport
          active.peerEndpoint) ctx with
      | (.error e, ctx) => (.tick, attempts, recoveryFailed attempts active e.toString ctx)
      | (.ok session, ctx) => (.storeConf active confText session, attempts, ctx)
  | .storeConf active confText session, ctx =>
      match restarted answers active confText session with
      | .error reason => (.tick, attempts, recoveryFailed attempts active reason ctx)
      | .ok newActive => (.applyPolicy, attempts, recovered attempts active newActive ctx)
  | .applyPolicy, ctx => (.tick, 0, (exec (applyFullPolicy answers.policy) ctx).2)

/-! ## A task on its own -/

def finish {P : Type} (step : P → ServiceContext → Option P × ServiceContext) :
    Nat → P → ServiceContext → ServiceContext
  | 0, _, ctx => ctx
  | fuel + 1, point, ctx =>
      match step point ctx with
      | (none, ctx) => ctx
      | (some next, ctx) => finish step fuel next ctx

section Alone
variable (req : ConnectRequest)

theorem prepare_eq (choice : TransportChoice) (merged : TunnelTransportConfig) (peer : SocketAddr)
    (name confText : String) (resolved : ResolvedTransport) (ctx : ServiceContext) :
    exec (prepare req choice merged peer name confText resolved) ctx =
      match exec (transportUp req choice merged peer) ctx with
      | (.error e, ctx) => (.error e, ctx)
      | (.ok session, ctx) => (storePrepared req merged name confText resolved session, ctx) := by
  rw [prepare, exec_bind]
  cases exec (transportUp req choice merged peer) ctx with
  | mk result after =>
      cases result with
      | error e => rfl
      | ok session =>
          simp only [storePrepared, exec_bind, exec_fromResult]
          cases rewriteConfEndpoint session.wireguardEndpoint (some session.effectiveMtu)
              confText with
          | error e => rfl
          | ok text =>
              cases req.storeConf with
              | error e => rfl
              | ok _ => rfl

def finishFrom {P : Type} (step : P → ServiceContext → Option P × ServiceContext) (fuel : Nat) :
    Option P × ServiceContext → ServiceContext
  | (none, ctx) => ctx
  | (some next, ctx) => finish step fuel next ctx

section Steps
variable {P : Type} (step : P → ServiceContext → Option P × ServiceContext)

theorem finishFrom_none (fuel : Nat) (ctx : ServiceContext) :
    finishFrom step fuel (none, ctx) = ctx := rfl

theorem finishFrom_some (fuel : Nat) (next : P) (ctx : ServiceContext) :
    finishFrom step fuel (some next, ctx) = finish step fuel next ctx := rfl

theorem finish_succ (fuel : Nat) (point : P) (ctx : ServiceContext) :
    finish step (fuel + 1) point ctx = finishFrom step fuel (step point ctx) := by
  rw [finish]
  cases step point ctx with
  | mk next after => cases next <;> rfl

end Steps

theorem finish_rollback (plan : ConnectPlan) (result : PreparedConnect) (e : RouteGuardError)
    (fuel : Nat) (ctx : ServiceContext) :
    finish (connectStep req) (fuel + 1) (.rollback plan result) ctx =
      (exec (failBackend plan result e) ctx).2 := by
  rw [finish_succ, connectStep, finishFrom_none]
  rfl

theorem finish_connected (plan : ConnectPlan) (prepared : PreparedConnect)
    (backend : ResolvedBackend) (handle : TunnelHandle) (ctx : ServiceContext) :
    finish (connectStep req) 3 (.setHandle plan prepared handle) ctx =
      (exec (finishConnect req plan prepared backend handle) ctx).2 := by
  rw [finish_succ, connectStep, finishFrom_some, finish_succ, connectStep, finishFrom_some,
    finish_succ, connectStep, finishFrom_none]
  simp only [finishConnect, exec_bind, exec_modify, exec_caught]
  have hcomplete : ({ ctx with handle := some handle } : ServiceContext).completeConnect handle =
      ctx.completeConnect handle := rfl
  rw [hcomplete]
  cases (exec (applyFullPolicy req.policy)
      (storeActive plan prepared (ctx.completeConnect handle))).1 with
  | error e => rfl
  | ok _ => rfl

theorem finish_prepared (plan : ConnectPlan) (result : PreparedConnect) (ctx : ServiceContext) :
    finishFrom (connectStep req) 5 (afterPrepare req plan result ctx) =
      (exec (bringUp req plan result) ctx).2 := by
  simp only [afterPrepare, bringUp, exec_bind, exec_modify]
  cases resolveBackend req (connectConfig plan result) with
  | error e => exact finish_rollback req plan result e 4 _
  | ok resolved =>
      obtain ⟨backend, choice⟩ := resolved
      simp only [finishFrom_some, exec_bind, exec_modify, exec_caught]
      rw [finish_succ, connectStep, finishFrom_some, finish_succ, connectStep]
      generalize ServiceContext.beginConnect _ _ = begun
      cases exec (backendUp req choice (connectConfig plan result)) begun with
      | mk up after =>
          cases up with
          | error e => exact finish_rollback req plan result e 2 after
          | ok handle => exact finish_connected req plan result backend handle after

/-- A connect request that nothing interrupts is the handler. -/
theorem connect_alone (ctx : ServiceContext) :
    finish (connectStep req) 10 .getConfig ctx = (exec (handleConnect req) ctx).2 := by
  rw [finish_succ, connectStep]
  simp only [handleConnect, exec_bind, exec_get, exec_fromResult]
  cases selectTunnel req ctx.config with
  | error e => rfl
  | ok selected =>
      simp only [finishFrom_some, exec_modify]
      rw [finish_succ, connectStep, finishFrom_some, finish_succ, connectStep]
      cases readPlan req selected with
      | error e => rfl
      | ok plan =>
          simp only [finishFrom_some, exec_caught, prepare_eq]
          rw [finish_succ, connectStep]
          generalize announce plan _ = announced
          cases exec (transportUp req plan.choice plan.merged plan.peerEndpoint) announced with
          | mk up after =>
              cases up with
              | error e => rfl
              | ok session =>
                  simp only [finishFrom_some]
                  rw [finish_succ, connectStep]
                  cases storePrepared req plan.merged plan.tunnelCfg.name plan.confText
                      plan.resolved session with
                  | error e => rfl
                  | ok result => exact finish_prepared req plan result after

theorem disconnect_alone (req : DisconnectRequest) (ctx : ServiceContext) :
    finish (disconnectStep req) 5 .activeHandle ctx = (exec (handleDisconnect req) ctx).2 := by
  have hdown : ∀ (fuel : Nat) (handle : TunnelHandle) (start : ServiceContext),
      finish (disconnectStep req) (fuel + 3) (.backendDown handle) start =
        match exec (backendDown req (choiceFor handle.backend) handle) start with
        | (.error _, after) => after
        | (.ok _, after) => { after.disconnectWithHandle handle with
            domain := after.domain.attempt (SessionRoutes.clear req.routeOrder)
            activeSession := none } := by
    intro fuel handle start
    rw [finish_succ, disconnectStep]
    cases exec (backendDown req (choiceFor handle.backend) handle) start with
    | mk result after => cases result <;> rfl
  cases hheld : ctx.handle with
  | none =>
      simp only [finish_succ, disconnectStep, hheld, handleDisconnect, exec_bind, exec_get,
        exec_throw, finishFrom_none]
  | some handle =>
      let start := takeActive handle.name (ctx.publish (.disconnecting handle.name))
      have htaken : finish (disconnectStep req) 5 .activeHandle ctx =
          match exec (backendDown req (choiceFor handle.backend) handle) start with
          | (.error _, after) => after
          | (.ok _, after) => { after.disconnectWithHandle handle with
              domain := after.domain.attempt (SessionRoutes.clear req.routeOrder)
              activeSession := none } := by
        rw [finish_succ, disconnectStep]
        cases hactive : ctx.activeSession with
        | none =>
            have hstart : start = ctx.publish (.disconnecting handle.name) := by
              simp only [start, takeActive, ServiceContext.publish, hactive]
            rw [hstart]
            simp only [hheld, ServiceContext.publish, hactive]
            exact hdown 1 handle _
        | some active =>
            have hstart : start = transportDown active.transportChoice active.transportSession
                ((({ ctx.publish (.disconnecting handle.name) with
                  activeSession := none } : ServiceContext)).publish
                    (.transportDisconnected handle.name active.transportSession.kind)) := by
              simp only [start, takeActive, ServiceContext.publish, hactive]
            rw [hstart]
            simp only [hheld, ServiceContext.publish, hactive]
            exact hdown 0 handle _
      rw [htaken]
      simp only [handleDisconnect, exec_bind, exec_get, hheld, exec_modify, exec_caught]
      cases exec (backendDown req (choiceFor handle.backend) handle) start with
      | mk result after => cases result <;> rfl

/-- The monitor after its backoff, until its next tick. -/
def recoveryStep (answers : ConnectRequest) (attempt : Nat) (point : MonitorPoint)
    (ctx : ServiceContext) : Option MonitorPoint × ServiceContext :=
  match monitorStep answers false attempt point ctx with
  | (.tick, _, ctx) => (none, ctx)
  | (next, _, ctx) => (some next, ctx)

theorem recovery_alone (attempt : Nat) (active : ActiveConnectSession) (ctx : ServiceContext) :
    finish (recoveryStep req attempt) 6 (.backoff active) ctx =
      (exec (recover req attempt active) ctx).2 := by
  rw [finish_succ, recoveryStep, monitorStep, recover, exec_bind, exec_get]
  cases hactive : ctx.activeSession with
  | none => simp only [hactive]; rfl
  | some current =>
      simp only [hactive, exec_bind, exec_caught, restartTransport,
        exec_fromResult, finishFrom_some]
      rw [finish_succ, recoveryStep, monitorStep]
      cases req.confText with
      | error e => rfl
      | ok confText =>
          simp only [Except.mapError, restart, exec_bind, exec_modify, prepare_eq, finishFrom_some]
          rw [finish_succ, recoveryStep, monitorStep, finishFrom_some, finish_succ,
            recoveryStep, monitorStep]
          generalize transportDown _ _ _ = stopped
          cases exec (transportUp req active.transportChoice active.mergedTransport
              active.peerEndpoint) stopped with
          | mk up after =>
              cases up with
              | error e => rfl
              | ok session =>
                  simp only [finishFrom_some]
                  rw [finish_succ, recoveryStep, monitorStep, restarted]
                  cases storePrepared req active.mergedTransport active.tunnelName confText
                      active.resolvedTransport session with
                  | error e => rfl
                  | ok prepared =>
                      dsimp only
                      cases ActiveConnectSession.fromPrepared prepared active.transportChoice
                          active.sourceConfigPath with
                      | none => rfl
                      | some newActive =>
                          simp only [exec_bind, exec_pure, exec_modify, exec_caught,
                            finishFrom_some]
                          rw [finish_succ, recoveryStep, monitorStep, finishFrom_none]
                          rfl

end Alone

end RouteGuard
