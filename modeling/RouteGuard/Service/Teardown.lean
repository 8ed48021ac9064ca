import RouteGuard.Platform.RouteRemoval
import RouteGuard.Service.Ownership

/-! # Disconnects that fail on the way

The disconnect handler together with the routes of the backend session, which
`down` clears itself.  Both route lists are entries of one table. -/
set_option autoImplicit false
namespace RouteGuard

open HashTable Fallible GuardedRun

/-! ## The handler -/

/-- `tunnelRoutes` is the `session_routes` of each session of a backend. -/
structure TunnelService where
  ctx : ServiceContext
  tunnelRoutes : BackendKind → Nat → SessionRoutes

/-- A disconnect request: the statuses of the system calls made for it, and the orders in which it
walks the two maps of domain routes. -/
structure DisconnectAttempt where
  faults : Nat → Nat
  tunnelOrder : Order
  routeOrder : Order

def RouteTableManager.answering (faults : Nat → Nat) (table : RouteTableManager) :
    RouteTableManager :=
  { table with os := { table.os with calls := 0, faults := faults } }

def ServiceContext.withTable (table : RouteTableManager) (ctx : ServiceContext) : ServiceContext :=
  { ctx with domain := { ctx.domain with routes := { ctx.domain.routes with table := table } } }

namespace TunnelService

def table (svc : TunnelService) : RouteTableManager := svc.ctx.domain.routes.table

def onCtx (f : ServiceContext → ServiceContext) (svc : TunnelService) : TunnelService :=
  { svc with ctx := f svc.ctx }

/-- `install_routes` of `up_impl`: the host route of the peer, then the routes it allows. -/
def installRoutes (endpoint : Option SocketAddr) (allowedIps : List IpNet) (ifIndex : Nat) :
    RouteProg PUnit := do
  match endpoint with
  | none => pure ⟨⟩
  | some endpoint => SessionRoutes.addEndpointBypass endpoint ifIndex
  forEach (fun cidr =>
    if cidr.prefixLen = 0 then SessionRoutes.addDefaultRoute cidr ifIndex
    else SessionRoutes.addBypass cidr ifIndex) allowedIps

/-- `down_impl`: the session leaves its map before its routes are cleared. -/
def down (attempt : DisconnectAttempt) (choice : BackendChoice) (handle : TunnelHandle) :
    Prog TunnelService RouteGuardError Unit := do
  let svc ← get
  match (svc.ctx.sessions choice.kind).get handle.id with
  | none => throw (.tunnel "session not found")
  | some _ => do
      let routes := svc.tunnelRoutes choice.kind handle.id
      modify (onCtx fun ctx =>
        ctx.withSessions choice.kind ((ctx.sessions choice.kind).remove handle.id))
      mapError (fun e => .tunnel e.toString)
        (zoom (fun svc => ⟨routes, svc.table⟩) (fun st => onCtx (ServiceContext.withTable st.table))
          (SessionRoutes.clear attempt.tunnelOrder))

def handleDisconnect (attempt : DisconnectAttempt) : Prog TunnelService IpcError Unit := do
  match (← get).ctx.handle with
  | none => throw ⟨-32000, "no active tunnel"⟩
  | some handle => do
      modify (onCtx (ServiceContext.publish (.disconnecting handle.name)))
      modify (onCtx (takeActive handle.name))
      match ← caught (down attempt (choiceFor handle.backend) handle) with
      | .error e => throw ⟨-32000, e.toString⟩
      | .ok _ => do
          modify (onCtx (ServiceContext.disconnectWithHandle handle))
          modify (onCtx fun ctx => { ctx with
            domain := ctx.domain.attempt (SessionRoutes.clear attempt.routeOrder)
            activeSession := none })

def answering (attempt : DisconnectAttempt) (svc : TunnelService) : TunnelService :=
  svc.onCtx fun ctx => ctx.withTable (ctx.domain.routes.table.answering attempt.faults)

def answer (svc : TunnelService) (attempt : DisconnectAttempt) : Except IpcError Unit :=
  (exec (handleDisconnect attempt) (svc.answering attempt)).1

def disconnect (svc : TunnelService) (attempt : DisconnectAttempt) : TunnelService :=
  (exec (handleDisconnect attempt) (svc.answering attempt)).2

end TunnelService

/-! ## What a disconnect is to do -/

namespace TunnelService

/-- The handles whose routes an attempt goes through, those of the tunnel first. -/
def listed (svc : TunnelService) (handle : TunnelHandle) (attempt : DisconnectAttempt) : List Nat :=
  (svc.tunnelRoutes handle.backend handle.id).listed attempt.tunnelOrder ++
    svc.ctx.domain.routes.session.listed attempt.routeOrder

/-- No deletion that the attempt comes to is refused. -/
def NothingFails (svc : TunnelService) (attempt : DisconnectAttempt) : Prop :=
  ∀ handle ∈ svc.ctx.handle, (svc.ctx.sessions handle.backend).get handle.id ≠ none →
    Guarded RouteTableManager.forget RouteTableManager.Accepted
      (svc.table.answering attempt.faults) (svc.listed handle attempt)

/-- Nothing of a connection is left.  `foreign` are the rows of the system that are not the
service's. -/
structure Vacant (foreign : List OsRoute) (svc : TunnelService) : Prop where
  handle : svc.ctx.handle = none
  active : svc.ctx.activeSession = none
  state : svc.ctx.state = .disconnected
  sessions : ∀ kind id, (svc.ctx.sessions kind).get id = none
  routes : svc.ctx.domain.routes.session.Cleared
  tracked : ∀ n, svc.table.routes.get n = none
  installed : ∀ row ∈ svc.table.os.rows, row ∈ foreign

/-- After the attempts a last one leaves nothing, and where something failed before it succeeds. -/
def Settles (foreign : List OsRoute) (svc : TunnelService) (attempts : List DisconnectAttempt)
    (last : DisconnectAttempt) : Prop :=
  (¬Guarded disconnect NothingFails svc attempts →
    (run disconnect svc attempts).answer last = .ok ()) ∧
  ((run disconnect svc attempts).disconnect last).Vacant foreign

/-- The state before the first attempt: the session of the handle is the only one, the attempt lists
every tracked route, and each row of the service lies where a deletion finds it. -/
structure Removable (foreign : List OsRoute) (svc : TunnelService) (handle : TunnelHandle)
    (attempt : DisconnectAttempt) : Prop where
  live : (svc.ctx.sessions handle.backend).get handle.id ≠ none
  only : ∀ kind id, (svc.ctx.sessions kind).get id ≠ none → kind = handle.backend ∧ id = handle.id
  tracked : ∀ n, svc.table.routes.get n ≠ none → n ∈ svc.listed handle attempt
  installed : ∀ row ∈ svc.table.os.rows, row ∉ foreign → row.ifIndex = 0 ∧
    row.dest ∈ (svc.table.answering attempt.faults).deleted (svc.listed handle attempt)

end TunnelService

/-! ## Where an attempt ends -/

section Frames
variable (ctx : ServiceContext)

theorem domain_takeActive (name : String) : (takeActive name ctx).domain = ctx.domain := by
  unfold takeActive
  cases ctx.activeSession with
  | none => rfl
  | some active =>
      cases hchoice : active.transportChoice <;>
      simp only [hchoice, transportDown, ServiceContext.publish]

theorem handle_takeActive (name : String) : (takeActive name ctx).handle = ctx.handle := by
  have hheld : (takeActive name ctx).held.handle = ctx.held.released.handle :=
    congrArg Held.handle (held_takeActive name)
  rw [released_handle] at hheld
  exact hheld

theorem sessions_takeActive (name : String) (kind : BackendKind) (id : Nat) :
    ((takeActive name ctx).sessions kind).get id = (ctx.sessions kind).get id := by
  have hheld : (takeActive name ctx).held.sessions = ctx.held.released.sessions :=
    congrArg Held.sessions (held_takeActive name)
  rw [released_sessions] at hheld
  exact congrFun (congrFun hheld kind) id

theorem domain_withSessions (kind : BackendKind) (table : Table Nat TunnelSession) :
    (ctx.withSessions kind table).domain = ctx.domain := by
  cases kind <;> rfl

theorem handle_withSessions (kind : BackendKind) (table : Table Nat TunnelSession) :
    (ctx.withSessions kind table).handle = ctx.handle := by
  cases kind <;> rfl

theorem sessions_withSessions_remove (kind k : BackendKind) (id i : Nat) :
    ((ctx.withSessions kind ((ctx.sessions kind).remove id)).sessions k).get i =
      if k = kind ∧ i = id then none else (ctx.sessions k).get i := by
  have hheld := congrArg Held.sessions (held_withSessions_remove ctx kind id)
  exact congrFun (congrFun hheld k) i

end Frames

namespace TunnelService

section Exits
variable {svc : TunnelService} (attempt : DisconnectAttempt)

def taken (svc : TunnelService) (handle : TunnelHandle) : TunnelService :=
  svc.onCtx fun ctx => takeActive handle.name (ctx.publish (.disconnecting handle.name))

def closed (svc : TunnelService) (handle : TunnelHandle) (table : RouteTableManager) :
    TunnelService :=
  svc.onCtx fun ctx => (ctx.withSessions handle.backend
    ((ctx.sessions handle.backend).remove handle.id)).withTable table

def finished (svc : TunnelService) (handle : TunnelHandle) (attempt : DisconnectAttempt) :
    TunnelService :=
  svc.onCtx fun ctx =>
    let ctx := ctx.disconnectWithHandle handle
    { ctx with
      domain := ctx.domain.attempt (SessionRoutes.clear attempt.routeOrder)
      activeSession := none }

/-- What the clear of the tunnel's routes answers, and the routes and the table it leaves. -/
def tunnelCleared (svc : TunnelService) (handle : TunnelHandle) (attempt : DisconnectAttempt) :
    Except RouteGuardError Unit × RouteState :=
  exec (SessionRoutes.clear attempt.tunnelOrder)
    ⟨svc.tunnelRoutes handle.backend handle.id, svc.table⟩

theorem handleDisconnect_idle (h : svc.ctx.handle = none) :
    exec (handleDisconnect attempt) svc = (.error ⟨-32000, "no active tunnel"⟩, svc) := by
  simp only [handleDisconnect, exec_bind, exec_get, h, exec_throw]

theorem handleDisconnect_steps {handle : TunnelHandle} (h : svc.ctx.handle = some handle) :
    exec (handleDisconnect attempt) svc =
      match exec (down attempt (choiceFor handle.backend) handle) (svc.taken handle) with
      | (.error e, after) => (.error ⟨-32000, e.toString⟩, after)
      | (.ok _, after) => (.ok (), after.finished handle attempt) := by
  have htaken : onCtx (takeActive handle.name)
      (onCtx (ServiceContext.publish (.disconnecting handle.name)) svc) = svc.taken handle := rfl
  simp only [handleDisconnect, exec_bind, exec_get, h, exec_modify, exec_caught, htaken]
  cases exec (down attempt (choiceFor handle.backend) handle) (svc.taken handle) with
  | mk result after =>
      cases result with
      | error e => rfl
      | ok _ => rfl

theorem sessions_taken (handle : TunnelHandle) (kind : BackendKind) (id : Nat) :
    ((svc.taken handle).ctx.sessions kind).get id = (svc.ctx.sessions kind).get id :=
  sessions_takeActive (svc.ctx.publish (.disconnecting handle.name)) handle.name kind id

theorem table_taken (handle : TunnelHandle) : (svc.taken handle).table = svc.table := by
  have hdomain := domain_takeActive (svc.ctx.publish (.disconnecting handle.name)) handle.name
  exact congrArg (fun domain => domain.routes.table) hdomain

theorem down_missing {handle : TunnelHandle}
    (h : (svc.ctx.sessions handle.backend).get handle.id = none) :
    exec (down attempt (choiceFor handle.backend) handle) svc =
      (.error (.tunnel "session not found"), svc) := by
  simp only [down, choiceFor_kind, exec_bind, exec_get, h, exec_throw]

theorem down_live {handle : TunnelHandle}
    (h : (svc.ctx.sessions handle.backend).get handle.id ≠ none) :
    exec (down attempt (choiceFor handle.backend) handle) svc =
      ((svc.tunnelCleared handle attempt).1.mapError fun e => .tunnel e.toString,
        svc.closed handle (svc.tunnelCleared handle attempt).2.table) := by
  obtain ⟨session, hsession⟩ := Option.ne_none_iff_exists'.mp h
  have htable : (svc.onCtx fun ctx => ctx.withSessions handle.backend
      ((ctx.sessions handle.backend).remove handle.id)).table = svc.table := by
    rw [TunnelService.table, onCtx, domain_withSessions]
    rfl
  simp only [down, choiceFor_kind, exec_bind, exec_get, hsession, exec_modify, exec_mapError,
    exec_zoom]
  rw [htable]
  rfl

theorem tunnelCleared_taken (handle : TunnelHandle) :
    (svc.taken handle).tunnelCleared handle attempt = svc.tunnelCleared handle attempt := by
  rw [tunnelCleared, table_taken]
  rfl

theorem handleDisconnect_missing {handle : TunnelHandle} (h : svc.ctx.handle = some handle)
    (hmissing : (svc.ctx.sessions handle.backend).get handle.id = none) :
    exec (handleDisconnect attempt) svc =
      (.error ⟨-32000, "tunnel error: session not found"⟩, svc.taken handle) := by
  have htaken : ((svc.taken handle).ctx.sessions handle.backend).get handle.id = none := by
    rw [sessions_taken, hmissing]
  rw [handleDisconnect_steps attempt h, down_missing attempt htaken]
  rfl

theorem live_taken {handle : TunnelHandle}
    (hlive : (svc.ctx.sessions handle.backend).get handle.id ≠ none) :
    ((svc.taken handle).ctx.sessions handle.backend).get handle.id ≠ none := by
  rw [sessions_taken]
  exact hlive

theorem handleDisconnect_refused {handle : TunnelHandle} (h : svc.ctx.handle = some handle)
    (hlive : (svc.ctx.sessions handle.backend).get handle.id ≠ none) {e : RouteGuardError}
    (hclear : (svc.tunnelCleared handle attempt).1 = .error e) :
    exec (handleDisconnect attempt) svc = (.error ⟨-32000, "tunnel error: " ++ e.toString⟩,
      (svc.taken handle).closed handle (svc.tunnelCleared handle attempt).2.table) := by
  rw [handleDisconnect_steps attempt h, down_live attempt (live_taken hlive),
    tunnelCleared_taken, hclear]
  rfl

theorem handleDisconnect_done {handle : TunnelHandle} (h : svc.ctx.handle = some handle)
    (hlive : (svc.ctx.sessions handle.backend).get handle.id ≠ none)
    (hclear : (svc.tunnelCleared handle attempt).1 = .ok ()) :
    exec (handleDisconnect attempt) svc = (.ok (),
      ((svc.taken handle).closed handle (svc.tunnelCleared handle attempt).2.table).finished
        handle attempt) := by
  rw [handleDisconnect_steps attempt h, down_live attempt (live_taken hlive),
    tunnelCleared_taken, hclear]
  rfl

theorem held_taken (handle : TunnelHandle) :
    (svc.taken handle).ctx.held = svc.ctx.held.released := by
  rw [taken, onCtx, held_takeActive, held_publish]

theorem held_closed (handle : TunnelHandle) (table : RouteTableManager) :
    (svc.closed handle table).ctx.held = svc.ctx.held.closed handle.backend handle.id := by
  rw [← held_withSessions_remove]
  rfl

theorem held_finished (handle : TunnelHandle) :
    (svc.finished handle attempt).ctx.held = svc.ctx.held.disconnected := rfl

/-- What is held afterwards is what the handler without routes leaves, when it is told how the clear
of the tunnel's routes ended. -/
theorem handleDisconnect_refines {handle : TunnelHandle} (h : svc.ctx.handle = some handle) :
    (exec (handleDisconnect attempt) svc).2.ctx.held =
      (exec (RouteGuard.handleDisconnect
        ⟨(svc.tunnelCleared handle attempt).1, attempt.routeOrder⟩) svc.ctx).2.held := by
  rw [handleDisconnect_held _ h]
  cases hsession : (svc.ctx.sessions handle.backend).get handle.id with
  | none =>
      have hheld : svc.ctx.held.sessions handle.backend handle.id = none := hsession
      rw [handleDisconnect_missing attempt h hsession, hheld, held_taken]
  | some session =>
      have hheld : svc.ctx.held.sessions handle.backend handle.id = some session := hsession
      have hlive : (svc.ctx.sessions handle.backend).get handle.id ≠ none := by
        rw [hsession]
        exact Option.some_ne_none session
      rw [hheld]
      cases hclear : (svc.tunnelCleared handle attempt).1 with
      | error e => rw [handleDisconnect_refused attempt h hlive hclear, held_closed, held_taken]
      | ok _ =>
          rw [handleDisconnect_done attempt h hlive hclear, held_finished, held_closed, held_taken]

end Exits

/-! ## After the first attempt -/

section Lost
variable {svc : TunnelService}

/-- The session of the handle, if there is a handle, is gone. -/
def Lost (svc : TunnelService) : Prop :=
  ∀ handle ∈ svc.ctx.handle, (svc.ctx.sessions handle.backend).get handle.id = none

theorem handle_taken (handle : TunnelHandle) : (svc.taken handle).ctx.handle = svc.ctx.handle :=
  handle_takeActive (svc.ctx.publish (.disconnecting handle.name)) handle.name

theorem handle_closed (handle : TunnelHandle) (table : RouteTableManager) :
    (svc.closed handle table).ctx.handle = svc.ctx.handle :=
  handle_withSessions svc.ctx handle.backend _

theorem sessions_closed (handle : TunnelHandle) (table : RouteTableManager) (kind : BackendKind)
    (id : Nat) : ((svc.closed handle table).ctx.sessions kind).get id =
      if kind = handle.backend ∧ id = handle.id then none else (svc.ctx.sessions kind).get id := by
  rw [← sessions_withSessions_remove]
  cases kind <;> rfl

/-- Whatever an attempt meets, it is the last that finds the session. -/
theorem disconnect_lost (attempt : DisconnectAttempt) : (svc.disconnect attempt).Lost := by
  have hanswering : (svc.answering attempt).ctx.handle = svc.ctx.handle := rfl
  intro handle hmem
  rw [disconnect] at hmem ⊢
  generalize svc.answering attempt = start at hmem ⊢
  cases hheld : start.ctx.handle with
  | none =>
      rw [handleDisconnect_idle attempt hheld, hheld] at hmem
      cases hmem
  | some held =>
      by_cases hmissing : (start.ctx.sessions held.backend).get held.id = none
      · rw [handleDisconnect_missing attempt hheld hmissing] at hmem ⊢
        rw [handle_taken, hheld] at hmem
        cases hmem
        rw [sessions_taken, hmissing]
      · cases hclear : (start.tunnelCleared held attempt).1 with
        | error e =>
            rw [handleDisconnect_refused attempt hheld hmissing hclear] at hmem ⊢
            rw [handle_closed, handle_taken, hheld] at hmem
            cases hmem
            rw [sessions_closed, if_pos ⟨rfl, rfl⟩]
        | ok _ =>
            rw [handleDisconnect_done attempt hheld hmissing hclear] at hmem
            cases hmem

theorem answer_of_lost (h : svc.Lost) (attempt : DisconnectAttempt) :
    ∃ e, svc.answer attempt = .error e := by
  rw [answer]
  cases hheld : svc.ctx.handle with
  | none =>
      have hstart : (svc.answering attempt).ctx.handle = none := hheld
      rw [handleDisconnect_idle attempt hstart]
      exact ⟨_, rfl⟩
  | some handle =>
      have hstart : (svc.answering attempt).ctx.handle = some handle := hheld
      have hmissing : ((svc.answering attempt).ctx.sessions handle.backend).get handle.id = none :=
        h handle hheld
      rw [handleDisconnect_missing attempt hstart hmissing]
      exact ⟨_, rfl⟩

theorem run_lost (attempt : DisconnectAttempt) (rest : List DisconnectAttempt) :
    (run disconnect (svc.disconnect attempt) rest).Lost :=
  run_keeps disconnect (fun _ later _ => disconnect_lost later) rest _ (disconnect_lost attempt)

/-- A handle whose session is gone is never given up. -/
theorem disconnect_stuck {handle : TunnelHandle} (h : svc.Lost)
    (hheld : svc.ctx.handle = some handle) (attempt : DisconnectAttempt) :
    (svc.disconnect attempt).ctx.handle = some handle := by
  have hstart : (svc.answering attempt).ctx.handle = some handle := hheld
  have hmissing : ((svc.answering attempt).ctx.sessions handle.backend).get handle.id = none :=
    h handle hheld
  rw [disconnect, handleDisconnect_missing attempt hstart hmissing, handle_taken, hstart]

theorem run_stuck {handle : TunnelHandle} (h : svc.Lost) (hheld : svc.ctx.handle = some handle)
    (attempts : List DisconnectAttempt) :
    (run disconnect svc attempts).ctx.handle = some handle := by
  have hboth := run_keeps disconnect (P := fun svc => svc.Lost ∧ svc.ctx.handle = some handle)
    (fun _ later hs => ⟨disconnect_lost later, disconnect_stuck hs.1 hs.2 later⟩) attempts svc
    ⟨h, hheld⟩
  exact hboth.2

theorem disconnect_idle (h : svc.ctx.handle = none) (attempt : DisconnectAttempt) :
    svc.disconnect attempt = svc.answering attempt := by
  have hstart : (svc.answering attempt).ctx.handle = none := h
  rw [disconnect, handleDisconnect_idle attempt hstart]

theorem vacant_answering (foreign : List OsRoute) (attempt : DisconnectAttempt) :
    (svc.answering attempt).Vacant foreign ↔ svc.Vacant foreign :=
  ⟨fun h => ⟨h.handle, h.active, h.state, h.sessions, h.routes, h.tracked, h.installed⟩,
    fun h => ⟨h.handle, h.active, h.state, h.sessions, h.routes, h.tracked, h.installed⟩⟩

/-- Without a handle no attempt changes what is left. -/
theorem run_idle_vacant (foreign : List OsRoute) (attempts : List DisconnectAttempt)
    (h : svc.ctx.handle = none) :
    (run disconnect svc attempts).Vacant foreign ↔ svc.Vacant foreign := by
  induction attempts generalizing svc with
  | nil => exact Iff.rfl
  | cons attempt rest ih =>
      have hnext : (svc.disconnect attempt).ctx.handle = none := by
        rw [disconnect_idle h]
        exact h
      rw [run_cons, ih hnext, disconnect_idle h]
      exact vacant_answering foreign attempt

end Lost

/-! ## An attempt in which nothing fails -/

section Done
variable {svc : TunnelService} (attempt : DisconnectAttempt)

theorem session_closed (handle held : TunnelHandle) (table : RouteTableManager) :
    ((svc.taken handle).closed held table).ctx.domain.routes =
      ⟨svc.ctx.domain.routes.session, table⟩ := by
  have hclosed : ∀ start : TunnelService, (start.closed held table).ctx.domain.routes =
      ⟨start.ctx.domain.routes.session, table⟩ := by
    intro start
    have hdomain := domain_withSessions start.ctx held.backend
      ((start.ctx.sessions held.backend).remove held.id)
    exact congrArg (fun domain => (⟨domain.routes.session, table⟩ : RouteState)) hdomain
  have htaken := domain_takeActive (svc.ctx.publish (.disconnecting handle.name)) handle.name
  rw [hclosed]
  exact congrArg (fun domain => (⟨domain.routes.session, table⟩ : RouteState)) htaken

structure Done (svc : TunnelService) (handle : TunnelHandle) (attempt : DisconnectAttempt)
    (after : TunnelService) : Prop where
  idle : after.ctx.handle = none
  active : after.ctx.activeSession = none
  state : after.ctx.state = .disconnected
  sessions : ∀ kind id, (after.ctx.sessions kind).get id =
    if kind = handle.backend ∧ id = handle.id then none else (svc.ctx.sessions kind).get id
  routes : after.ctx.domain.routes.session.Cleared
  table : after.table = run RouteTableManager.forget (svc.table.answering attempt.faults)
    (svc.listed handle attempt)

theorem disconnect_done {handle : TunnelHandle} (h : svc.ctx.handle = some handle)
    (hlive : (svc.ctx.sessions handle.backend).get handle.id ≠ none)
    (hnothing : svc.NothingFails attempt) : Done svc handle attempt (svc.disconnect attempt) := by
  have haccepted := hnothing handle h hlive
  rw [listed, guarded_append] at haccepted
  let tunnel := run RouteTableManager.forget (svc.table.answering attempt.faults)
    ((svc.tunnelRoutes handle.backend handle.id).listed attempt.tunnelOrder)
  let closing := ((svc.answering attempt).taken handle).closed handle tunnel
  let own : RouteState :=
    ⟨svc.tunnelRoutes handle.backend handle.id, svc.table.answering attempt.faults⟩
  let shared : RouteState := ⟨svc.ctx.domain.routes.session, tunnel⟩
  have hown : Guarded RouteTableManager.forget RouteTableManager.Accepted own.table
      (own.session.listed attempt.tunnelOrder) := haccepted.1
  have hshared : Guarded RouteTableManager.forget RouteTableManager.Accepted shared.table
      (shared.session.listed attempt.routeOrder) := haccepted.2
  obtain ⟨first, _, htunnel⟩ := SessionRoutes.clear_accepted attempt.tunnelOrder hown
  obtain ⟨second, hsecond, hroutes⟩ := SessionRoutes.clear_accepted attempt.routeOrder hshared
  have hclear : (svc.answering attempt).tunnelCleared handle attempt = (.ok (), ⟨first, tunnel⟩) :=
    htunnel
  have hafter : svc.disconnect attempt = closing.finished handle attempt := by
    have hstart : (svc.answering attempt).ctx.handle = some handle := h
    have hfound : ((svc.answering attempt).ctx.sessions handle.backend).get handle.id ≠ none :=
      hlive
    rw [disconnect, handleDisconnect_done attempt hstart hfound (by rw [hclear]), hclear]
  have hfinal : exec (SessionRoutes.clear attempt.routeOrder) closing.ctx.domain.routes =
      (.ok (), ⟨second, run RouteTableManager.forget tunnel
        (svc.ctx.domain.routes.session.listed attempt.routeOrder)⟩) := by
    have hclosing : closing.ctx.domain.routes = ⟨svc.ctx.domain.routes.session, tunnel⟩ :=
      session_closed handle handle tunnel
    rw [hclosing]
    exact hroutes
  rw [hafter]
  refine ⟨rfl, rfl, rfl, fun kind id => ?_, ?_, ?_⟩
  · have hsessions : (closing.ctx.sessions kind).get id =
        if kind = handle.backend ∧ id = handle.id then none
        else (((svc.answering attempt).taken handle).ctx.sessions kind).get id :=
      sessions_closed handle tunnel kind id
    rw [sessions_taken] at hsessions
    exact hsessions
  · have hcleared : (exec (SessionRoutes.clear attempt.routeOrder)
        closing.ctx.domain.routes).2.session.Cleared := by
      rw [hfinal]
      exact hsecond
    exact hcleared
  · have htable : (exec (SessionRoutes.clear attempt.routeOrder)
        closing.ctx.domain.routes).2.table = run RouteTableManager.forget tunnel
          (svc.ctx.domain.routes.session.listed attempt.routeOrder) := by
      rw [hfinal]
    rw [listed, run_append]
    exact htable

/-- It leaves nothing exactly where the state before it was removable. -/
theorem done_vacant_iff (foreign : List OsRoute) {handle : TunnelHandle} {after : TunnelService}
    (hlive : (svc.ctx.sessions handle.backend).get handle.id ≠ none)
    (h : Done svc handle attempt after) :
    after.Vacant foreign ↔ svc.Removable foreign handle attempt := by
  have htracked : ∀ n, after.table.routes.get n =
      if n ∈ svc.listed handle attempt then none else svc.table.routes.get n := by
    intro n
    rw [h.table]
    exact RouteTableManager.run_forget_routes _ _ n
  have hrows : ∀ row, row ∈ after.table.os.rows ↔ row ∈ svc.table.os.rows ∧
      ¬(row.ifIndex = 0 ∧
        row.dest ∈ (svc.table.answering attempt.faults).deleted (svc.listed handle attempt)) := by
    intro row
    rw [h.table]
    exact RouteTableManager.mem_run_forget_rows _ _ row
  constructor
  · intro hvacant
    refine ⟨hlive, fun kind id hget => ?_, fun n hget => ?_, fun row hrow hforeign => ?_⟩
    · by_contra hother
      have hnone := hvacant.sessions kind id
      rw [h.sessions, if_neg hother] at hnone
      exact hget hnone
    · by_contra hunlisted
      have hnone := hvacant.tracked n
      rw [htracked, if_neg hunlisted] at hnone
      exact hget hnone
    · by_contra hstays
      exact hforeign (hvacant.installed row ((hrows row).mpr ⟨hrow, hstays⟩))
  · intro hremovable
    refine ⟨h.idle, h.active, h.state, fun kind id => ?_, h.routes, fun n => ?_,
      fun row hrow => ?_⟩
    · rw [h.sessions]
      by_cases hown : kind = handle.backend ∧ id = handle.id
      · rw [if_pos hown]
      · rw [if_neg hown]
        by_contra hget
        exact hown (hremovable.only kind id hget)
    · rw [htracked]
      by_cases hlisted : n ∈ svc.listed handle attempt
      · rw [if_pos hlisted]
      · rw [if_neg hlisted]
        by_contra hget
        exact hlisted (hremovable.tracked n hget)
    · obtain ⟨hbefore, hstays⟩ := (hrows row).mp hrow
      by_contra hforeign
      exact hstays (hremovable.installed row hbefore hforeign)

end Done

theorem nothingFails_of_lost {svc : TunnelService} (h : svc.Lost) (attempt : DisconnectAttempt) :
    svc.NothingFails attempt := by
  intro handle hheld hlive
  exact absurd (h handle hheld) hlive

theorem guarded_of_lost {svc : TunnelService} (h : svc.Lost) (attempts : List DisconnectAttempt) :
    Guarded disconnect NothingFails svc attempts := by
  induction attempts generalizing svc with
  | nil => exact trivial
  | cons attempt rest ih => exact ⟨nothingFails_of_lost h attempt, ih (disconnect_lost attempt)⟩

/-- Attempts end well exactly where nothing fails in the first and it finds everything there is. -/
theorem disconnects_settle_iff (foreign : List OsRoute) (svc : TunnelService)
    {handle : TunnelHandle} (h : svc.ctx.handle = some handle) (first : DisconnectAttempt)
    (rest : List DisconnectAttempt) (last : DisconnectAttempt) :
    svc.Settles foreign (first :: rest) last ↔
      svc.NothingFails first ∧ svc.Removable foreign handle first := by
  have hfirst : (svc.disconnect first).Lost := disconnect_lost first
  have hlost : (run disconnect svc (first :: rest)).Lost := run_lost first rest
  have hrest := guarded_of_lost hfirst rest
  have hfailed : svc.Settles foreign (first :: rest) last → svc.NothingFails first := by
    intro hsettles
    by_contra hfails
    have hanswer : (run disconnect svc (first :: rest)).answer last = .ok () :=
      hsettles.1 fun hguarded => hfails hguarded.1
    obtain ⟨e, herror⟩ := answer_of_lost hlost last
    rw [herror] at hanswer
    cases hanswer
  by_cases hnothing : svc.NothingFails first
  · by_cases hmissing : (svc.ctx.sessions handle.backend).get handle.id = none
    · have hstuck : ((run disconnect svc (first :: rest)).disconnect last).ctx.handle =
          some handle := by
        have hbefore : svc.Lost := by
          intro held hheld
          rw [h] at hheld
          cases hheld
          exact hmissing
        have hrun := run_stuck hbefore h (first :: rest)
        exact disconnect_stuck hlost hrun last
      refine ⟨fun hsettles => ?_, fun hremovable => absurd hmissing hremovable.2.live⟩
      have hnone := hsettles.2.handle
      rw [hstuck] at hnone
      cases hnone
    · have hdone := disconnect_done first h hmissing hnothing
      have hvacant : ((run disconnect svc (first :: rest)).disconnect last).Vacant foreign ↔
          svc.Removable foreign handle first := by
        have hconcat : (run disconnect svc (first :: rest)).disconnect last =
            run disconnect (svc.disconnect first) (rest ++ [last]) :=
          (run_concat disconnect (svc.disconnect first) rest last).symm
        rw [hconcat, run_idle_vacant foreign _ hdone.idle]
        exact done_vacant_iff first foreign hmissing hdone
      rw [Settles, hvacant]
      constructor
      · intro hsettles
        exact ⟨hnothing, hsettles.2⟩
      · intro hboth
        exact ⟨fun hfails => absurd ⟨hnothing, hrest⟩ hfails, hboth.2⟩
  · exact ⟨fun hsettles => absurd (hfailed hsettles) hnothing, fun hboth => absurd hboth.1 hnothing⟩

@[irreducible]
def exampleConnected (ifIndex : Nat) : ServiceContext :=
  serve exampleService (.connect { exampleConnect with
    backendUp := .ok (ifIndex, 7)
    policy := { exampleAnswers with physicalIf := fun _ => none } })

def exampleTunnel (ifIndex : Nat) : TunnelService :=
  let routes := (exec (installRoutes (some ⟨ipv4 1 2 3 4, 51820⟩) [] ifIndex)
    ⟨{}, (exampleConnected ifIndex).domain.routes.table⟩).2
  ⟨(exampleConnected ifIndex).withTable routes.table, fun _ _ => routes.session⟩

def exampleAttempt (status : Nat) : DisconnectAttempt := ⟨fun _ => status, .identity, .identity⟩

theorem exampleTunnel_reachable (ifIndex : Nat) : Reachable (exampleTunnel ifIndex).ctx := by
  have hserved : Reachable (exampleConnected ifIndex) := by
    rw [exampleConnected]
    exact Reachable.request (Reachable.start exampleService.config exampleRouting) _
  exact Reachable.other hserved _ _ _ _

/-- After a denied deletion no disconnect gets anywhere. -/
theorem denied_disconnect_stuck :
    Reachable (exampleTunnel 42).ctx ∧ (exampleTunnel 42).ctx.state = .connected ∧
    (exampleTunnel 42).answer (exampleAttempt 5) =
      .error ⟨-32000, "tunnel error: platform error: DeleteIpForwardEntry2 failed: 5"⟩ ∧
    ((exampleTunnel 42).disconnect (exampleAttempt 5)).NothingFails (exampleAttempt 0) ∧
    ((exampleTunnel 42).disconnect (exampleAttempt 5)).answer (exampleAttempt 0) =
      .error ⟨-32000, "tunnel error: session not found"⟩ ∧
    ¬(((exampleTunnel 42).disconnect (exampleAttempt 5)).disconnect
      (exampleAttempt 0)).Vacant [] := by
  have hlost : ((exampleTunnel 42).disconnect (exampleAttempt 5)).Lost :=
    disconnect_lost (exampleAttempt 5)
  obtain ⟨hstate, hfirst, hsecond, hheld⟩ :
      (exampleTunnel 42).ctx.state = .connected ∧
      (exampleTunnel 42).answer (exampleAttempt 5) =
        .error ⟨-32000, "tunnel error: platform error: DeleteIpForwardEntry2 failed: 5"⟩ ∧
      ((exampleTunnel 42).disconnect (exampleAttempt 5)).answer (exampleAttempt 0) =
        .error ⟨-32000, "tunnel error: session not found"⟩ ∧
      (((exampleTunnel 42).disconnect (exampleAttempt 5)).disconnect
        (exampleAttempt 0)).ctx.handle ≠ none := by
    decide +kernel
  refine ⟨exampleTunnel_reachable 42, hstate, hfirst, ?_, hsecond, fun hvacant => ?_⟩
  · exact nothingFails_of_lost hlost (exampleAttempt 0)
  · exact hheld hvacant.handle

theorem oneTunnel_of_idle {ctx : ServiceContext} (h : ctx.handle = none) {req : ConnectRequest}
    (hstore : req.storeConf = .ok ()) : (ServiceRequest.connect req).OneTunnel ctx := by
  simp only [ServiceRequest.OneTunnel, hstore]
  cases req.plan ctx.config with
  | error e => trivial
  | ok plan =>
      cases hstart : req.startResult plan.choice with
      | error e => simp only [hstart]
      | ok relay =>
          cases hresolve : resolveBackend req plan.tunnelCfg with
          | error e => simp only [hstart, hresolve]
          | ok backend => simp only [hstart, hresolve, h]

theorem exampleTunnel_inStep (ifIndex : Nat) : (exampleTunnel ifIndex).ctx.held.InStep := by
  have hserved : (exampleConnected ifIndex).held.InStep := by
    rw [exampleConnected]
    exact (serve_inStep_iff (start_numbered exampleService.config exampleRouting)
      (Held.owned_of_idle rfl) (start_inStep exampleService.config exampleRouting) _).mpr
      (oneTunnel_of_idle rfl rfl)
  have hframe : ∀ table, ((exampleConnected ifIndex).withTable table).held =
      (exampleConnected ifIndex).held := fun _ => rfl
  rw [exampleTunnel, hframe]
  exact hserved

theorem clean_disconnect_settles :
    (exampleTunnel 0).Settles [] [exampleAttempt 0] (exampleAttempt 0) := by
  let row : OsRoute := ⟨.v4 ⟨67305985, 32, by decide⟩, 0, 0⟩
  obtain ⟨hheld, hlive, hlisted, hkeys, hrows, hdeleted⟩ :
      (exampleTunnel 0).ctx.handle = some ⟨0, "wg0", 0, 7, .wireGuardNt⟩ ∧
      ((exampleTunnel 0).ctx.sessions .wireGuardNt).get 0 ≠ none ∧
      (exampleTunnel 0).listed ⟨0, "wg0", 0, 7, .wireGuardNt⟩ (exampleAttempt 0) = [1] ∧
      (exampleTunnel 0).table.routes.keys = [1] ∧
      (exampleTunnel 0).table.os.rows = [row] ∧
      row.dest ∈ ((exampleTunnel 0).table.answering (exampleAttempt 0).faults).deleted [1] := by
    decide +kernel
  have hnothing : (exampleTunnel 0).NothingFails (exampleAttempt 0) := by
    intro handle hmem _
    rw [hheld] at hmem
    cases hmem
    rw [hlisted]
    exact ⟨fun _ => Or.inl rfl, trivial⟩
  have honly : ∀ kind id, ((exampleTunnel 0).ctx.sessions kind).get id ≠ none →
      kind = .wireGuardNt ∧ id = 0 := by
    intro kind id hlive
    obtain ⟨handle, hmem, hkind, hid⟩ := ((exampleTunnel_inStep 0).sessions kind id).mp hlive
    rw [ServiceContext.held, hheld] at hmem
    cases hmem
    exact ⟨hkind.symm, hid.symm⟩
  have htracked : ∀ n, (exampleTunnel 0).table.routes.get n ≠ none → n ∈ [1] := by
    intro n hget
    obtain ⟨cidr, hcidr⟩ := Option.ne_none_iff_exists'.mp hget
    have hmem := AList.mem_keys.mp ((mem_iff_get _ _).mpr ⟨cidr, hcidr⟩)
    rw [hkeys] at hmem
    exact hmem
  rw [← hlisted] at htracked
  apply (disconnects_settle_iff [] (exampleTunnel 0) hheld (exampleAttempt 0) []
    (exampleAttempt 0)).mpr
  constructor
  · exact hnothing
  · constructor
    · exact hlive
    · exact honly
    · exact htracked
    · intro other hother _
      rw [hrows, List.mem_singleton] at hother
      rw [hlisted, hother]
      exact ⟨rfl, hdeleted⟩

end TunnelService
end RouteGuard
