import RouteGuard.Core.ConfRoundTrip
import RouteGuard.Lib.GuardedRun
import RouteGuard.Service.MonitorRuns

/-! # The endpoint the adapter talks to

A connect writes the endpoint of its transport into the configuration that its
adapter is brought up with, and a bring-up that fails may have set it by then.
A recovery starts the transport again and writes the file again, and brings no
adapter up. -/
set_option autoImplicit false
namespace RouteGuard

open HashTable Fallible GuardedRun

/-! ## What a connect brings up -/

/-- Each backend has its own adapters, and opens one that is there under the name. -/
structure Adapter where
  kind : BackendKind
  name : String
deriving DecidableEq, Repr

def TunnelHandle.adapter (handle : TunnelHandle) : Adapter := ⟨handle.backend, handle.name⟩

structure AdapterSetting where
  adapter : Adapter
  endpoint : SocketAddr
  text : String

def Held.current (held : Held) : Option TunnelHandle × Option ActiveConnectSession :=
  (held.handle, held.active)

section Connect
variable (req : ConnectRequest)

/-- Where the tunnel is to send: at the relay, or at the peer itself. -/
def ConnectRequest.localEndpoint (choice : TransportChoice) (peer : SocketAddr) :
    Except RouteGuardError SocketAddr :=
  (req.startResult choice).map fun relay => (relay.map Relay.localAddr).getD peer

def ConnectRequest.adapterSetting (ctx : ServiceContext) : Option AdapterSetting :=
  match selectTunnel req ctx.config with
  | .error _ => none
  | .ok selected =>
      match readPlan req selected with
      | .error _ => none
      | .ok plan =>
          let ctx := announce plan
            (ctx.setConfig { ctx.config with tunnel := some selected.tunnelCfg })
          match (exec (transportUp req plan.choice plan.merged plan.peerEndpoint) ctx).1 with
          | .error _ => none
          | .ok session =>
              match rewriteConfEndpoint session.wireguardEndpoint (some session.effectiveMtu)
                plan.confText with
              | .error _ => none
              | .ok text =>
                  match req.storeConf, resolveBackend req plan.tunnelCfg with
                  | .ok _, .ok (_, choice) =>
                      some ⟨⟨choice.kind, plan.tunnelCfg.name⟩, session.wireguardEndpoint, text⟩
                  | _, _ => none

theorem transportUp_exit (choice : TransportChoice) (cfg : TunnelTransportConfig)
    (peer : SocketAddr) (ctx : ServiceContext) :
    (exec (transportUp req choice cfg peer) ctx).2.held.current = ctx.held.current ∧
    (exec (transportUp req choice cfg peer) ctx).1.map TransportSession.wireguardEndpoint =
      req.localEndpoint choice peer := by
  cases choice with
  | directUdp => exact ⟨rfl, rfl⟩
  | lwo =>
      simp only [transportUp, exec_bind, exec_fromResult, exec_get, exec_modify, exec_pure,
        ConnectRequest.localEndpoint, ConnectRequest.startResult]
      cases req.lwoStart <;> exact ⟨rfl, rfl⟩
  | phantun =>
      simp only [transportUp, exec_bind, exec_fromResult, exec_get, exec_modify, exec_pure,
        ConnectRequest.localEndpoint, ConnectRequest.startResult]
      cases req.phantunSelect with
      | error e => exact ⟨rfl, rfl⟩
      | ok relay => cases req.phantunSpawn <;> exact ⟨rfl, rfl⟩

end Connect

/-! ## What a recovery restarts -/

section Recovery
variable (req : ConnectRequest)

end Recovery

/-- `confs` has the configuration that each adapter was last given. -/
structure AdapterService where
  ctx : ServiceContext
  confs : Table Adapter String := ∅

/-- A bring-up that fails does so before the adapter is `configured` or behind it; `watched` is the
session that a monitor read before it waited. -/
inductive AdapterEvent where
  | connect (req : ConnectRequest) (configured : Bool)
  | disconnect (req : DisconnectRequest)
  | recovery (req : ConnectRequest) (attempt : Nat) (watched : ActiveConnectSession)

namespace AdapterService

/-- `set_configuration` comes before the state, the routes and the handshake, any of which can still
fail. -/
def configure (confs : Table Adapter String) (setting : Option AdapterSetting)
    (backendUp : Except RouteGuardError (Nat × Nat)) (configured : Bool) : Table Adapter String :=
  match setting, backendUp, configured with
  | none, _, _ => confs
  | some _, .error _, false => confs
  | some setting, _, _ => confs.insert setting.adapter setting.text

def step (w : AdapterService) : AdapterEvent → AdapterService
  | .connect req configured =>
      { ctx := (exec (handleConnect req) w.ctx).2
        confs := configure w.confs (req.adapterSetting w.ctx) req.backendUp configured }
  | .disconnect req => { w with ctx := (exec (handleDisconnect req) w.ctx).2 }
  | .recovery req attempt watched =>
      { w with ctx := (exec (recover req attempt watched) w.ctx).2 }

def start (config : AppConfig) (domain : DomainRouting) : AdapterService where
  ctx := { config := config, domain := domain }

/-- The adapter of the handle sends to the transport of the session. -/
def CurrentAgrees (confs : Table Adapter String)
    (current : Option TunnelHandle × Option ActiveConnectSession) : Prop :=
  ∀ active ∈ current.2, ∃ handle ∈ current.1, ∃ conf ∈ confs.get handle.adapter,
    parsePeerEndpoint SocketAddr.parse conf = some active.transportSession.wireguardEndpoint

def Agrees (w : AdapterService) : Prop := CurrentAgrees w.confs w.ctx.held.current

end AdapterService

end RouteGuard
