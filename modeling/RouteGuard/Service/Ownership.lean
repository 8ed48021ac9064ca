import RouteGuard.Lib.GuardedRun
import RouteGuard.Service.ConnectExits

/-! # Who owns a connection

The handle, the active session, the backend sessions and the relays describe
one connection.  This module says when a failed request leaves them as they
were, and when they stay in step over a run. -/
set_option autoImplicit false
namespace RouteGuard

open HashTable Fallible GuardedRun

/-! ## Failed requests -/

section Failures
variable (req : ConnectRequest) {ctx : ServiceContext}

/-- Where a failing request goes no further than the resources it gives back. -/
def ConnectRequest.LeavesNothing (ctx : ServiceContext) : Prop :=
  match req.plan ctx.config with
  | .error _ => True
  | .ok plan =>
      match req.startResult plan.choice with
      | .error _ => True
      | .ok _ =>
          match req.storeConf with
          | .error _ => plan.choice = .directUdp
          | .ok _ =>
              match resolveBackend req plan.tunnelCfg with
              | .error _ => True
              | .ok _ =>
                  match req.backendUp with
                  | .error _ => ctx.state = .connecting
                  | .ok _ => False

theorem started_eq_self_iff {held : Held} {kind : TransportKind} {id : Nat} {relay : Option Relay}
    (h : held.running kind id = none) : held.started kind id relay = held ↔ relay = none := by
  cases relay with
  | none => exact ⟨fun _ => rfl, fun _ => rfl⟩
  | some relay =>
      refine ⟨fun heq => ?_, fun hnone => by cases hnone⟩
      have hrunning := congrFun (congrFun (congrArg Held.running heq) kind) id
      simp only [Held.started, and_self, if_true] at hrunning
      rw [h] at hrunning
      cases hrunning

theorem connecting_eq_self_iff (held : Held) :
    held.connecting = held ↔ held.state = .connecting := by
  refine ⟨fun heq => (congrArg Held.state heq).symm, fun hstate => ?_⟩
  exact Held.ext rfl hstate.symm rfl rfl rfl

theorem connected_ne_self {held : Held} {kind : TransportKind} {id : Nat} {relay : Option Relay}
    {backend : BackendKind} {sid : Nat} (h : held.sessions backend sid = none)
    (session : TunnelSession) (handle : TunnelHandle) (active : ActiveConnectSession) :
    ((held.started kind id relay).opened backend sid session).connected handle active ≠ held := by
  intro heq
  have hsessions := congrFun (congrFun (congrArg Held.sessions heq) backend) sid
  simp only [Held.connected, Held.opened, and_self, if_true] at hsessions
  rw [h] at hsessions
  cases hsessions

/-- A failed request leaves everything as it was exactly where it opened no session, started no
relay it lost, and found the state that it ends in. -/
theorem failed_connect_unchanged_iff (h : Reachable ctx) {e : IpcError}
    (hfailed : (exec (handleConnect req) ctx).1 = .error e) :
    (exec (handleConnect req) ctx).2.held = ctx.held ↔ req.LeavesNothing ctx := by
  have hexit := handleConnect_exit req (Reachable.numbered h)
  revert hexit
  generalize (exec (handleConnect req) ctx).2.held = after
  generalize (exec (handleConnect req) ctx).1 = response at hfailed
  intro hexit
  unfold ConnectRequest.LeavesNothing
  cases hexit with
  | noPlan hplan => simp only [hplan]
  | noTransport hplan hstart => simp only [hplan, hstart]
  | notWritten hplan hstart hstore hfresh =>
      simp only [hplan, hstart, hstore]
      exact (started_eq_self_iff hfresh).trans (startResult_directUdp req hstart)
  | noBackend hplan hstart hstore hresolve => simp only [hplan, hstart, hstore, hresolve]
  | backendDown hplan hstart hstore hresolve hup =>
      simp only [hplan, hstart, hstore, hresolve, hup]
      exact connecting_eq_self_iff ctx.held
  | connected hplan hstart hstore hresolve hup hbrought response =>
      simp only [hplan, hstart, hstore, hresolve, hup, iff_false]
      exact connected_ne_self hbrought.freshSession _ _ _

end Failures

def exampleRouting : DomainRouting where
  store := DomainRouteStore.new {}
  engine := AppSplitPolicyCompiler.defaultEngine
  routes := {}

def exampleService : ServiceContext where
  config := { tunnel := some { name := "wg0", configPath := "wg0.conf" } }
  domain := exampleRouting

def exampleAnswers : PolicyAnswers where
  env := .asciiIpv4
  moment := { clock := ⟨100 * nanosPerSec, 0⟩ }
  physicalIf := fun _ => some 5
  confEndpoint := fun _ => none
  filters := .ok ()

def exampleConnect : ConnectRequest where
  params := .ok {}
  profile := none
  confText := .ok "[Peer]\nEndpoint = 1.2.3.4:51820\n"
  parseAddr text := if text = "1.2.3.4:51820" then some ⟨ipv4 1 2 3 4, 51820⟩ else none
  transport := .ok (⟨.lwo, false, none, none⟩, .lwo, {})
  lwoStart := .ok ⟨⟨ipv4 127 0 0 1, 40000⟩, ⟨ipv4 1 2 3 4, 51820⟩⟩
  phantunSelect := .error (.platform "no phantun")
  phantunSpawn := .ok ()
  runtimeConfPath name := name ++ ".conf"
  storeConf := .ok ()
  confHasAwg := false
  awgLibrary := false
  awgLibraryAgain := false
  backendUp := .ok (42, 7)
  policy := exampleAnswers

theorem failed_connect_changes :
    Reachable exampleService ∧
    (exec (handleConnect { exampleConnect with storeConf := .error (.io "denied") })
      exampleService).1 = .error ⟨-32000, "denied"⟩ ∧
    (exec (handleConnect { exampleConnect with storeConf := .error (.io "denied") })
      exampleService).2.held.running .lwo 1 ≠ exampleService.held.running .lwo 1 ∧
    (exec (handleConnect { exampleConnect with backendUp := .error (.tunnel "timeout") })
      exampleService).1 = .error ⟨-32000, "tunnel error: timeout"⟩ ∧
    (exec (handleConnect { exampleConnect with backendUp := .error (.tunnel "timeout") })
      exampleService).2.held.state ≠ exampleService.held.state ∧
    (exec (handleConnect { exampleConnect with
      policy := { exampleAnswers with filters := .error (.platform "wfp") } })
      exampleService).1 = .error ⟨-32000, "platform error: wfp"⟩ ∧
    (exec (handleConnect { exampleConnect with
      policy := { exampleAnswers with filters := .error (.platform "wfp") } })
      exampleService).2.held.handle ≠ exampleService.held.handle := by
  refine ⟨Reachable.start _ _, ?_⟩
  decide +kernel

theorem failed_relay_unchanged :
    (exec (handleConnect { exampleConnect with lwoStart := .error (.platform "no key") })
      exampleService).2.held = exampleService.held :=
  (failed_connect_unchanged_iff _ (Reachable.start _ _) (e := ⟨-32000, "platform error: no key"⟩)
    (by decide +kernel)).mpr trivial

/-! ## Where a disconnect ends -/

section Disconnects
variable (req : DisconnectRequest) {ctx : ServiceContext}

def Held.released (held : Held) : Held :=
  match held.active with
  | none => held
  | some active => { held.stopped active.transportChoice.kind active.transportSession.handleId with
      active := none }

def Held.disconnected (held : Held) : Held :=
  { held with handle := none, state := .disconnected, active := none }

theorem held_takeActive (name : String) : (takeActive name ctx).held = ctx.held.released := by
  unfold takeActive Held.released
  cases hactive : ctx.activeSession with
  | none =>
      have hheld : ctx.held.active = none := hactive
      rw [hheld]
  | some active =>
      have hheld : ctx.held.active = some active := hactive
      rw [hheld]
      exact held_transportDown _ active.transportChoice active.transportSession

theorem released_sessions (held : Held) : held.released.sessions = held.sessions := by
  unfold Held.released
  cases held.active <;> rfl

theorem choiceFor_kind (kind : BackendKind) : (choiceFor kind).kind = kind := by
  cases kind <;> rfl

theorem handleDisconnect_idle (h : ctx.handle = none) :
    (exec (handleDisconnect req) ctx).2 = ctx := by
  simp only [handleDisconnect, exec_bind, exec_get, h, exec_throw]

theorem handleDisconnect_held {handle : TunnelHandle} (h : ctx.handle = some handle) :
    (exec (handleDisconnect req) ctx).2.held =
      match ctx.held.sessions handle.backend handle.id with
      | none => ctx.held.released
      | some _ =>
          match req.clearRoutes with
          | .error _ => ctx.held.released.closed handle.backend handle.id
          | .ok _ => (ctx.held.released.closed handle.backend handle.id).disconnected := by
  simp only [handleDisconnect, exec_bind, exec_get, h, exec_modify, exec_caught]
  generalize htaken : takeActive handle.name _ = taken
  have hheld : taken.held = ctx.held.released := by
    rw [← htaken, held_takeActive, held_publish]
  have hsessions : (taken.sessions handle.backend).get handle.id =
      ctx.held.sessions handle.backend handle.id := by
    rw [← released_sessions, ← hheld]
    rfl
  simp only [backendDown, choiceFor_kind, exec_bind, exec_get, hsessions]
  cases ctx.held.sessions handle.backend handle.id with
  | none => simpa only [exec_throw] using hheld
  | some session =>
      have hclosed := held_withSessions_remove taken handle.backend handle.id
      rw [hheld] at hclosed
      cases req.clearRoutes with
      | error e => simpa only [exec_bind, exec_modify, exec_throw] using hclosed
      | ok _ =>
          simp only [exec_bind, exec_modify, exec_pure, ← hclosed]
          rfl

end Disconnects

/-! ## In step -/

/-- The live sessions are those of the handle, the relays those of the active session. -/
structure Held.InStep (held : Held) : Prop where
  sessions : ∀ kind id, held.sessions kind id ≠ none ↔
    ∃ handle ∈ held.handle, handle.backend = kind ∧ handle.id = id
  running : ∀ kind id, held.running kind id ≠ none ↔
    ∃ active ∈ held.active, active.transportSession.kind = kind ∧
      active.transportSession.handleId = id ∧ kind ≠ .directUdp
  state : held.state = .connected ↔ held.handle ≠ none

/-- An active session has a handle beside it and names its own transport. -/
structure Held.Owned (held : Held) : Prop where
  handle : held.handle = none → held.active = none
  kind : ∀ active ∈ held.active, active.transportSession.kind = active.transportChoice.kind

/-- No second tunnel is brought up beside one that is held, and no platform step fails where the
handlers do not give back. -/
def ServiceRequest.OneTunnel (ctx : ServiceContext) : ServiceRequest → Prop
  | .connect req =>
      match req.plan ctx.config with
      | .error _ => True
      | .ok plan =>
          match req.startResult plan.choice with
          | .error _ => True
          | .ok _ =>
              match req.storeConf with
              | .error _ => plan.choice = .directUdp
              | .ok _ =>
                  match resolveBackend req plan.tunnelCfg with
                  | .error _ => True
                  | .ok _ => ctx.handle = none
  | .disconnect req => ctx.handle = none ∨ req.clearRoutes = .ok ()

section Owned
variable {held : Held}

theorem Held.Owned.of_same {held' : Held} (h : held.Owned) (hhandle : held'.handle = held.handle)
    (hactive : held'.active = held.active) : held'.Owned := by
  refine ⟨fun hnone => ?_, fun active hmem => ?_⟩
  · rw [hactive]
    exact h.handle (hhandle ▸ hnone)
  · exact h.kind active (hactive ▸ hmem)

theorem Held.owned_of_idle (h : held.active = none) : held.Owned := by
  refine ⟨fun _ => h, fun active hmem => ?_⟩
  rw [h] at hmem
  cases hmem

theorem released_active (held : Held) : held.released.active = none := by
  unfold Held.released
  cases hactive : held.active with
  | none => exact hactive
  | some active => rfl

theorem released_handle (held : Held) : held.released.handle = held.handle := by
  unfold Held.released
  cases held.active <;> rfl

end Owned

theorem serve_owned {ctx : ServiceContext} (hn : ctx.Numbered) (h : ctx.held.Owned)
    (request : ServiceRequest) : (serve ctx request).held.Owned := by
  cases request with
  | connect req =>
      have hexit := handleConnect_exit req hn
      revert hexit
      simp only [serve]
      generalize (exec (handleConnect req) ctx).2.held = after
      generalize (exec (handleConnect req) ctx).1 = response
      intro hexit
      cases hexit with
      | noPlan hplan => exact h
      | noTransport hplan hstart => exact h
      | @notWritten _ relay _ _ hplan hstart hstore hfresh =>
          cases relay <;> exact h.of_same rfl rfl
      | noBackend hplan hstart hstore hresolve => exact h
      | backendDown hplan hstart hstore hresolve hup => exact h.of_same rfl rfl
      | connected hplan hstart hstore hresolve hup hbrought response =>
          refine ⟨fun hnone => (by cases hnone), fun active hmem => ?_⟩
          cases hmem
          rw [hbrought.kind, hbrought.transport]
  | disconnect req =>
      cases hhandle : ctx.handle with
      | none =>
          rw [serve, handleDisconnect_idle req hhandle]
          exact h
      | some handle =>
          have hreleased := released_active ctx.held
          rw [serve, handleDisconnect_held req hhandle]
          cases ctx.held.sessions handle.backend handle.id with
          | none => exact Held.owned_of_idle hreleased
          | some session =>
              cases req.clearRoutes with
              | error e => exact Held.owned_of_idle hreleased
              | ok _ => exact Held.owned_of_idle rfl

section InStep
variable {held : Held}

theorem started_running {kind : TransportKind} {id : Nat} (h : held.running kind id = none)
    (relay : Option Relay) (k : TransportKind) (i : Nat) :
    (held.started kind id relay).running k i =
      if k = kind ∧ i = id then relay else held.running k i := by
  cases relay with
  | none =>
      by_cases hk : k = kind ∧ i = id
      · rw [if_pos hk, hk.1, hk.2]
        exact h
      · rw [if_neg hk]
        rfl
  | some relay => rfl

theorem Held.InStep.no_sessions (h : held.InStep) (hidle : held.handle = none) (kind : BackendKind)
    (id : Nat) : held.sessions kind id = none := by
  by_contra hlive
  obtain ⟨handle, hmem, -⟩ := (h.sessions kind id).mp hlive
  rw [hidle] at hmem
  cases hmem

theorem Held.InStep.no_relays (h : held.InStep) (hidle : held.active = none) (kind : TransportKind)
    (id : Nat) : held.running kind id = none := by
  by_contra hlive
  obtain ⟨active, hmem, -⟩ := (h.running kind id).mp hlive
  rw [hidle] at hmem
  cases hmem

theorem Held.InStep.started_iff (h : held.InStep) {kind : TransportKind} {id : Nat}
    (hfresh : held.running kind id = none) (relay : Option Relay) :
    (held.started kind id relay).InStep ↔ relay = none := by
  cases relay with
  | none => exact ⟨fun _ => rfl, fun _ => h⟩
  | some relay =>
      refine ⟨fun hstep => ?_, fun hnone => by cases hnone⟩
      have hlive : (held.started kind id (some relay)).running kind id ≠ none := by
        simp [Held.started]
      have hactive := (hstep.running kind id).mp hlive
      exact absurd hfresh ((h.running kind id).mpr hactive)

theorem Held.InStep.connecting_iff (h : held.InStep) :
    held.connecting.InStep ↔ held.handle = none := by
  refine ⟨fun hstep => ?_, fun hidle => ⟨h.sessions, h.running, ?_⟩⟩
  · by_contra hhandle
    have hstate : SessionState.connecting = .connected := hstep.state.mpr hhandle
    cases hstate
  · refine ⟨fun hstate => ?_, fun hhandle => absurd hidle hhandle⟩
    have hstate : SessionState.connecting = .connected := hstate
    cases hstate

theorem Held.InStep.connected_iff (h : held.InStep) (ho : held.Owned) {plan : ConnectPlan}
    {choice : BackendChoice} {handle : TunnelHandle} {active : ActiveConnectSession}
    (hb : BroughtUp held plan choice handle active) {relay : Option Relay}
    (hrelay : relay = none ↔ plan.choice = .directUdp) (session : TunnelSession) :
    (((held.started plan.choice.kind active.transportSession.handleId relay).opened choice.kind
      handle.id session).connected handle active).InStep ↔ held.handle = none := by
  refine ⟨fun hstep => ?_, fun hidle => ?_⟩
  · -- a session of an older handle stays live beside the new one
    cases hold : held.handle with
    | none => rfl
    | some old =>
        have hlive := (h.sessions old.backend old.id).mpr ⟨old, hold, rfl, rfl⟩
        have hnew := (hstep.sessions old.backend old.id).mp (by
          simp only [Held.connected, Held.opened, Held.started_sessions]
          split
          · simp
          · exact hlive)
        obtain ⟨handle', hmem, hbackend, hid⟩ := hnew
        cases hmem
        rw [← hbackend, ← hid, hb.backend] at hlive
        exact absurd hb.freshSession hlive
  · have hactive := ho.handle hidle
    refine ⟨fun kind id => ?_, fun kind id => ?_, ?_⟩
    · simp only [Held.connected, Held.opened, Held.started_sessions, h.no_sessions hidle kind id]
      by_cases hnew : kind = choice.kind ∧ id = handle.id
      · rw [if_pos hnew]
        refine ⟨fun _ => ⟨handle, rfl, ?_, hnew.2.symm⟩, fun _ hnone => by cases hnone⟩
        rw [hb.backend, hnew.1]
      · rw [if_neg hnew]
        refine ⟨fun hlive => absurd rfl hlive, ?_⟩
        intro hcase
        obtain ⟨handle', hmem, hbackend, hid⟩ := hcase
        cases hmem
        exact absurd ⟨hbackend ▸ hb.backend, hid.symm⟩ hnew
    · simp only [Held.connected, Held.opened, started_running hb.freshRelay,
        h.no_relays hactive kind id]
      by_cases hnew : kind = plan.choice.kind ∧ id = active.transportSession.handleId
      · rw [if_pos hnew]
        have hdirect : kind = .directUdp ↔ relay = none := by
          rw [hrelay, hnew.1]
          cases plan.choice <;> simp [TransportChoice.kind]
        refine ⟨fun hlive => ⟨active, rfl, ?_, hnew.2.symm,
          fun hkind => hlive (hdirect.mp hkind)⟩, ?_⟩
        · rw [hb.kind, hnew.1]
        · intro hcase hnone
          obtain ⟨active', -, -, -, hkind⟩ := hcase
          exact hkind (hdirect.mpr hnone)
      · rw [if_neg hnew]
        refine ⟨fun hlive => absurd rfl hlive, ?_⟩
        intro hcase
        obtain ⟨active', hmem, hkind, hid, -⟩ := hcase
        cases hmem
        exact absurd ⟨hkind ▸ hb.kind, hid.symm⟩ hnew
    · simp [Held.connected]

theorem not_inStep_closed {handle : TunnelHandle} (h : held.handle = some handle) :
    ¬ (held.released.closed handle.backend handle.id).InStep := by
  intro hstep
  have hmem : handle ∈ (held.released.closed handle.backend handle.id).handle :=
    (released_handle held).trans h
  refine (hstep.sessions handle.backend handle.id).mpr ⟨handle, hmem, rfl, rfl⟩ ?_
  simp [Held.closed]

theorem Held.InStep.released_running (h : held.InStep) (ho : held.Owned) (kind : TransportKind)
    (id : Nat) : held.released.running kind id = none := by
  unfold Held.released
  cases hactive : held.active with
  | none => exact h.no_relays hactive kind id
  | some active =>
      have hkind := ho.kind active hactive
      simp only [Held.stopped]
      by_cases hown : kind = active.transportChoice.kind ∧ id = active.transportSession.handleId
      · rw [if_pos hown]
      · rw [if_neg hown]
        by_contra hlive
        obtain ⟨active', hmem, hkind', hid, -⟩ := (h.running kind id).mp hlive
        rw [hactive] at hmem
        cases hmem
        exact hown ⟨hkind'.symm.trans hkind, hid.symm⟩

theorem Held.InStep.disconnected (h : held.InStep) (ho : held.Owned) {handle : TunnelHandle}
    (hhandle : held.handle = some handle) :
    (held.released.closed handle.backend handle.id).disconnected.InStep := by
  refine ⟨fun kind id => ?_, fun kind id => ?_, ?_⟩
  · simp only [Held.disconnected, Held.closed, released_sessions]
    refine ⟨fun hlive => ?_, fun hnone => ?_⟩
    · split at hlive
      · exact absurd rfl hlive
      · rename_i hother
        obtain ⟨handle', hmem, hbackend, hid⟩ := (h.sessions kind id).mp hlive
        rw [hhandle] at hmem
        cases hmem
        exact absurd ⟨hbackend.symm, hid.symm⟩ hother
    · obtain ⟨handle', hmem, -⟩ := hnone
      cases hmem
  · have hidle :
        (held.released.closed handle.backend handle.id).disconnected.running kind id = none :=
      h.released_running ho kind id
    rw [hidle]
    refine ⟨fun hlive => absurd rfl hlive, ?_⟩
    intro hcase
    obtain ⟨active, hmem, -⟩ := hcase
    cases hmem
  · simp [Held.disconnected]

end InStep

/-- What one request needs to keep the owners in step. -/
theorem serve_inStep_iff {ctx : ServiceContext} (hn : ctx.Numbered) (ho : ctx.held.Owned)
    (h : ctx.held.InStep) (request : ServiceRequest) :
    (serve ctx request).held.InStep ↔ request.OneTunnel ctx := by
  cases request with
  | connect req =>
      have hexit := handleConnect_exit req hn
      revert hexit
      simp only [serve, ServiceRequest.OneTunnel]
      generalize (exec (handleConnect req) ctx).2.held = after
      generalize (exec (handleConnect req) ctx).1 = response
      intro hexit
      cases hexit with
      | noPlan hplan => simp only [hplan, h]
      | noTransport hplan hstart => simp only [hplan, hstart, h]
      | @notWritten _ relay _ _ hplan hstart hstore hfresh =>
          simp only [hplan, hstart, hstore]
          exact (h.started_iff hfresh relay).trans (startResult_directUdp req hstart)
      | noBackend hplan hstart hstore hresolve => simp only [hplan, hstart, hstore, hresolve, h]
      | backendDown hplan hstart hstore hresolve hup =>
          simp only [hplan, hstart, hstore, hresolve]
          exact h.connecting_iff
      | connected hplan hstart hstore hresolve hup hbrought response =>
          simp only [hplan, hstart, hstore, hresolve]
          exact h.connected_iff ho hbrought (startResult_directUdp req hstart) _
  | disconnect req =>
      simp only [serve, ServiceRequest.OneTunnel]
      cases hhandle : ctx.handle with
      | none => simp only [handleDisconnect_idle req hhandle, h, true_or]
      | some handle =>
          have hheld : ctx.held.handle = some handle := hhandle
          have hlive := (h.sessions handle.backend handle.id).mpr ⟨handle, hhandle, rfl, rfl⟩
          rw [handleDisconnect_held req hhandle]
          cases hsession : ctx.held.sessions handle.backend handle.id with
          | none => exact absurd hsession hlive
          | some session =>
              cases hclear : req.clearRoutes with
              | error e => simp [not_inStep_closed hheld]
              | ok _ => simp [h.disconnected ho hheld]

theorem start_inStep (config : AppConfig) (domain : DomainRouting) :
    ({ config := config, domain := domain } : ServiceContext).held.InStep := by
  refine ⟨fun kind id => ?_, fun kind id => ?_, ?_⟩
  · cases kind <;> simp [ServiceContext.held, ServiceContext.sessions]
  · cases kind <;> simp [ServiceContext.held, ServiceContext.running]
  · simp [ServiceContext.held]

/-- Over a run of requests the owners stay in step exactly where no request brings a second tunnel
up. -/
theorem run_inStep_iff (config : AppConfig) (domain : DomainRouting)
    (requests : List ServiceRequest) :
    (∀ served, served <+: requests →
      (run serve { config := config, domain := domain } served).held.InStep) ↔
      Guarded serve (fun ctx request => request.OneTunnel ctx)
        { config := config, domain := domain } requests := by
  refine holds_throughout_iff serve (fun ctx request => request.OneTunnel ctx)
    (P := fun ctx => ctx.held.InStep) (Q := fun ctx => ctx.Numbered ∧ ctx.held.Owned)
    ?_ ?_ requests _ ⟨start_numbered config domain, Held.owned_of_idle rfl⟩
    (start_inStep config domain)
  · intro ctx request hq
    exact ⟨serve_numbered hq.1 request, serve_owned hq.1 hq.2 request⟩
  · intro ctx request hq hp
    exact serve_inStep_iff hq.1 hq.2 hp request

theorem stale_session_out_of_step {ctx : ServiceContext} (handle : TunnelHandle)
    (kind : BackendKind) (id : Nat) (h : ctx.handle = some handle)
    (hlive : (ctx.sessions kind).get id ≠ none) (hid : handle.id ≠ id) : ¬ ctx.held.InStep := by
  intro hstep
  obtain ⟨handle', hmem, -, hid'⟩ := (hstep.sessions kind id).mp hlive
  have hsame : some handle = some handle' := h.symm.trans hmem
  cases hsame
  exact hid hid'

theorem second_connect_out_of_step :
    (exec (handleConnect exampleConnect) exampleService).1.isOk = true ∧
    (exec (handleConnect exampleConnect)
      (run serve exampleService [.connect exampleConnect])).1.isOk = true ∧
    ¬ (run serve exampleService
      [.connect exampleConnect, .connect exampleConnect]).held.InStep := by
  have hstale : (run serve exampleService [.connect exampleConnect, .connect exampleConnect]).handle
        = some ⟨1, "wg0", 42, 7, .wireGuardNt⟩ ∧
      ((run serve exampleService [.connect exampleConnect, .connect exampleConnect]).sessions
        .wireGuardNt).get 0 ≠ none := by
    decide +kernel
  refine ⟨by decide +kernel, by decide +kernel, ?_⟩
  exact stale_session_out_of_step _ .wireGuardNt 0 hstale.1 hstale.2 (by decide)

end RouteGuard
