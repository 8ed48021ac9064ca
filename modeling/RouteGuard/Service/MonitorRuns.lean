import Mathlib.Logic.Function.Basic
import RouteGuard.Service.Monitor
import RouteGuard.Service.Ownership

/-! # Requests interleaved with health monitors

The request that the IPC server serves and any number of monitors take their
steps in any order.  A relay that runs belongs to the stored session or to the
task that is about to store it or to stop it. -/
set_option autoImplicit false
namespace RouteGuard

open HashTable Fallible GuardedRun

/-! ## The system -/

inductive RequestTask where
  | connect (req : ConnectRequest) (point : ConnectPoint)
  | disconnect (req : DisconnectRequest) (point : DisconnectPoint)

/-- `startedFor` belongs to the session the iteration has read. -/
structure Monitor where
  attempts : Nat := 0
  point : MonitorPoint := .tick
  startedFor : Option Nat := none

/-- `startedFor` is the identifier of the handle that the stored session was started for. -/
structure MonitoredService where
  ctx : ServiceContext
  startedFor : Option Nat := none
  request : Option RequestTask := none
  monitors : Nat → Monitor := fun _ => {}

inductive TaskEvent where
  | connect (req : ConnectRequest)
  | disconnect (req : DisconnectRequest)
  | request
  | monitor (i : Nat) (answers : ConnectRequest) (healthy : Bool)
  | other (config : AppConfig) (external : Option TunnelContextParams) (domain : DomainRouting)
      (events : List TunnelEvent)

/-! ### Steps -/

def RequestTask.step (ctx : ServiceContext) : RequestTask → Option RequestTask × ServiceContext
  | .connect req point =>
      let (next, ctx) := connectStep req point ctx
      (next.map (.connect req), ctx)
  | .disconnect req point =>
      let (next, ctx) := disconnectStep req point ctx
      (next.map (.disconnect req), ctx)

def RequestTask.started (ctx : ServiceContext) (startedFor : Option Nat) :
    RequestTask → Option Nat
  | .connect _ (.setConnected _ _ handle) => some handle.id
  | .disconnect _ .activeHandle => if ctx.handle = none then startedFor else none
  | .disconnect _ (.clearState _) => none
  | _ => startedFor

/-- For whom the monitor's session and the stored session were started, once the monitor comes to
`next`. -/
def Monitor.started (m : Monitor) (next : MonitorPoint) (startedFor : Option Nat) :
    Option Nat × Option Nat :=
  match m.point, next with
  | .tick, _ => (startedFor, startedFor)
  | .storeConf .., .applyPolicy => (m.startedFor, m.startedFor)
  | _, _ => (m.startedFor, startedFor)

namespace MonitoredService

def requestStep (w : MonitoredService) : MonitoredService :=
  match w.request with
  | none => w
  | some task => { w with
      ctx := (task.step w.ctx).2
      startedFor := task.started w.ctx w.startedFor
      request := (task.step w.ctx).1 }

def monitorTurn (w : MonitoredService) (i : Nat) (answers : ConnectRequest) (healthy : Bool) :
    MonitoredService :=
  let m := w.monitors i
  let turn := monitorStep answers healthy m.attempts m.point w.ctx
  let started := m.started turn.1 w.startedFor
  { w with
    ctx := turn.2.2
    startedFor := started.2
    monitors := Function.update w.monitors i ⟨turn.2.1, turn.1, started.1⟩ }

/-- The server takes a request only when none is in progress. -/
def step (w : MonitoredService) : TaskEvent → MonitoredService
  | .connect req =>
      match w.request with
      | none => { w with request := some (.connect req .getConfig) }
      | some _ => w
  | .disconnect req =>
      match w.request with
      | none => { w with request := some (.disconnect req .activeHandle) }
      | some _ => w
  | .request => w.requestStep
  | .monitor i answers healthy => w.monitorTurn i answers healthy
  | .other config external domain events =>
      { w with ctx := { w.ctx with config := config, externalTunnel := external, domain := domain,
                                   events := events } }

def start (config : AppConfig) (domain : DomainRouting) : MonitoredService where
  ctx := { config := config, domain := domain }

/-! ## What is to hold -/

structure Quiet (w : MonitoredService) : Prop where
  request : w.request = none
  monitors : ∀ i, (w.monitors i).point = .tick

/-- Every running relay is that of the stored session, and a stored session is one of the connection
whose handle is held. -/
structure Matched (w : MonitoredService) : Prop where
  running : ∀ kind id, (w.ctx.running kind).get id ≠ none → ∃ active ∈ w.ctx.activeSession,
    active.transportSession.kind = kind ∧ active.transportSession.handleId = id
  handle : w.ctx.activeSession ≠ none → ∃ handle ∈ w.ctx.handle, w.startedFor = some handle.id

end MonitoredService

/-! ### Undisturbed steps -/

def ServiceContext.StoreStopped (ctx : ServiceContext) : Prop :=
  ∀ active ∈ ctx.activeSession,
    (ctx.running active.transportSession.kind).get active.transportSession.handleId = none

/-- A step that replaces or drops the stored session finds its relay stopped, and a configuration is
written once its relay runs. -/
def RequestTask.Undisturbed (ctx : ServiceContext) : RequestTask → Prop
  | .connect req (.storeConf plan _) => req.storeConf = .ok () ∨ plan.choice = .directUdp
  | .connect _ (.setConnected ..) => ctx.StoreStopped
  | .disconnect _ (.clearState _) => ctx.StoreStopped
  | _ => True

/-- Also, a monitor stores its session for the connection that is held. -/
def Monitor.Undisturbed (answers : ConnectRequest) (ctx : ServiceContext) (m : Monitor) : Prop :=
  match m.point with
  | .storeConf .. => answers.storeConf = .ok () ∧ ctx.StoreStopped ∧
      ∃ handle ∈ ctx.handle, m.startedFor = some handle.id
  | _ => True

def MonitoredService.Undisturbed (w : MonitoredService) : TaskEvent → Prop
  | .request => ∀ task ∈ w.request, task.Undisturbed w.ctx
  | .monitor i answers _ => (w.monitors i).Undisturbed answers w.ctx
  | _ => True

instance decidableStoreStopped (ctx : ServiceContext) : Decidable ctx.StoreStopped :=
  inferInstanceAs (Decidable (∀ active ∈ ctx.activeSession, _ = none))

instance decidableRequestUndisturbed (ctx : ServiceContext) :
    ∀ task : RequestTask, Decidable (task.Undisturbed ctx)
  | .connect req (.storeConf plan _) =>
      inferInstanceAs (Decidable (req.storeConf = .ok () ∨ plan.choice = .directUdp))
  | .connect _ (.setConnected ..) => inferInstanceAs (Decidable ctx.StoreStopped)
  | .disconnect _ (.clearState _) => inferInstanceAs (Decidable ctx.StoreStopped)
  | .connect _ .getConfig | .connect _ (.setConfig ..) | .connect _ (.readConf _)
  | .connect _ (.transportUp _) | .connect _ (.beginConnect ..) | .connect _ (.backendUp ..)
  | .connect _ (.setHandle ..) | .connect _ .applyPolicy | .connect _ (.rollback ..)
  | .disconnect _ .activeHandle | .disconnect _ (.transportDown ..)
  | .disconnect _ (.backendDown _) | .disconnect _ (.clearHandle _) => isTrue trivial

instance decidableMonitorUndisturbed (answers : ConnectRequest) (ctx : ServiceContext) :
    ∀ m : Monitor, Decidable (m.Undisturbed answers ctx)
  | ⟨_, .storeConf .., startedFor⟩ =>
      inferInstanceAs (Decidable (answers.storeConf = .ok () ∧ ctx.StoreStopped ∧
        ∃ handle ∈ ctx.handle, startedFor = some handle.id))
  | ⟨_, .tick, _⟩ | ⟨_, .health _, _⟩ | ⟨_, .backoff _, _⟩ | ⟨_, .readConf _, _⟩
  | ⟨_, .transportDown .., _⟩ | ⟨_, .transportUp .., _⟩ | ⟨_, .applyPolicy, _⟩ => isTrue trivial

instance decidableUndisturbed (w : MonitoredService) :
    ∀ event : TaskEvent, Decidable (w.Undisturbed event)
  | .request => inferInstanceAs (Decidable (∀ task ∈ w.request, task.Undisturbed w.ctx))
  | .monitor i answers _ =>
      inferInstanceAs (Decidable ((w.monitors i).Undisturbed answers w.ctx))
  | .connect _ | .disconnect _ | .other .. => isTrue trivial

/-! ## Relays and their owners -/

def TransportSession.Names (session : TransportSession) (kind : TransportKind) (id : Nat) : Prop :=
  session.kind = kind ∧ session.handleId = id

/-- The session a task has in hand: started and not stored yet, or taken and not stopped yet. -/
def ConnectPoint.inHand : ConnectPoint → Option TransportSession
  | .storeConf _ session => some session
  | .beginConnect _ prepared _ => prepared.transportSession
  | .backendUp _ prepared _ => prepared.transportSession
  | .setHandle _ prepared _ => prepared.transportSession
  | .setConnected _ prepared _ => prepared.transportSession
  | .rollback _ prepared => prepared.transportSession
  | _ => none

def DisconnectPoint.inHand : DisconnectPoint → Option TransportSession
  | .transportDown _ active => some active.transportSession
  | _ => none

def MonitorPoint.inHand : MonitorPoint → Option TransportSession
  | .storeConf _ _ session => some session
  | _ => none

def RequestTask.inHand : RequestTask → Option TransportSession
  | .connect _ point => point.inHand
  | .disconnect _ point => point.inHand

/-- What a step of a task that holds `before`, and `after` when it ends, owes for the relays. -/
structure Accounts (held : Held) (before : Option TransportSession) (held' : Held)
    (after : Option TransportSession) : Prop where
  started : ∀ kind id, held'.running kind id ≠ none →
    held.running kind id ≠ none ∨ ∃ session ∈ after, session.Names kind id
  stored : ∀ active ∈ held.active, ∀ kind id, active.transportSession.Names kind id →
    held'.running kind id ≠ none →
      (∃ active ∈ held'.active, active.transportSession.Names kind id) ∨
        ∃ session ∈ after, session.Names kind id
  hand : ∀ session ∈ before, ∀ kind id, session.Names kind id → held'.running kind id ≠ none →
      (∃ active ∈ held'.active, active.transportSession.Names kind id) ∨
        ∃ session ∈ after, session.Names kind id

section Accounts
variable {held held' : Held} {before after : Option TransportSession}

theorem Accounts.of_fewer
    (hrunning : ∀ kind id, held'.running kind id ≠ none → held.running kind id ≠ none)
    (hactive : held'.active = held.active) (hhand : ∀ session ∈ before, session ∈ after) :
    Accounts held before held' after := by
  constructor
  · intro kind id hlive
    exact Or.inl (hrunning kind id hlive)
  · intro active hmem kind id hnames _
    rw [hactive]
    exact Or.inl ⟨active, hmem, hnames⟩
  · intro session hmem kind id hnames _
    exact Or.inr ⟨session, hhand session hmem, hnames⟩

theorem Accounts.of_same (hrunning : held'.running = held.running)
    (hactive : held'.active = held.active) (hhand : ∀ session ∈ before, session ∈ after) :
    Accounts held before held' after := by
  apply Accounts.of_fewer _ hactive hhand
  intro kind id hlive
  rw [hrunning] at hlive
  exact hlive

theorem stopped_fewer (kind : TransportKind) (id : Nat) (k : TransportKind) (i : Nat)
    (hlive : (held.stopped kind id).running k i ≠ none) :
    held.running k i ≠ none ∧ ¬(k = kind ∧ i = id) := by
  simp only [Held.stopped] at hlive
  by_cases hown : k = kind ∧ i = id
  · rw [if_pos hown] at hlive
    exact absurd rfl hlive
  · rw [if_neg hown] at hlive
    exact ⟨hlive, hown⟩

theorem Accounts.of_stopped {session : TransportSession} {kind : TransportKind}
    (hkind : session.kind = kind) :
    Accounts held (some session) (held.stopped kind session.handleId) none := by
  constructor
  · intro k i hlive
    exact Or.inl (stopped_fewer kind session.handleId k i hlive).1
  · intro active hmem k i hnames _
    exact Or.inl ⟨active, hmem, hnames⟩
  · intro other hmem k i hnames hlive
    cases hmem
    obtain ⟨rfl, rfl⟩ := hnames
    exact absurd ⟨hkind, rfl⟩ (stopped_fewer kind session.handleId _ _ hlive).2

theorem Accounts.of_stored {session : TransportSession} {active : ActiveConnectSession}
    (hactive : active.transportSession = session) (hafter : held'.active = some active)
    (hrunning : held'.running = held.running)
    (hstopped : ∀ old ∈ held.active, held.running old.transportSession.kind
      old.transportSession.handleId = none) :
    Accounts held (some session) held' none := by
  constructor
  · intro kind id hlive
    rw [hrunning] at hlive
    exact Or.inl hlive
  · intro old hmem kind id hnames hlive
    obtain ⟨rfl, rfl⟩ := hnames
    rw [hrunning, hstopped old hmem] at hlive
    exact absurd rfl hlive
  · intro other hmem kind id hnames _
    cases hmem
    rw [hafter]
    exact Or.inl ⟨active, rfl, hactive ▸ hnames⟩

end Accounts

/-! ### The start of a transport -/

/-- What `up` does to the relays, whether it succeeds or not. -/
structure Ups (held : Held) (choice : TransportChoice)
    (result : Except RouteGuardError TransportSession) (held' : Held) : Prop where
  handle : held'.handle = held.handle
  active : held'.active = held.active
  running : ∀ kind id, held'.running kind id ≠ none →
    held.running kind id ≠ none ∨ ∃ session, result = .ok session ∧ session.Names kind id
  kind : ∀ session, result = .ok session → session.kind = choice.kind

theorem transportUp_ups (req : ConnectRequest) (choice : TransportChoice)
    (cfg : TunnelTransportConfig) (peer : SocketAddr) (ctx : ServiceContext) :
    Ups ctx.held choice (exec (transportUp req choice cfg peer) ctx).1
      (exec (transportUp req choice cfg peer) ctx).2.held := by
  cases choice with
  | directUdp =>
      refine ⟨rfl, rfl, fun kind id hlive => Or.inl hlive, fun session hok => ?_⟩
      cases hok
      rfl
  | lwo =>
      simp only [transportUp, exec_bind, exec_fromResult, exec_get, exec_modify, exec_pure]
      cases req.lwoStart with
      | error e =>
          exact ⟨rfl, rfl, fun kind id hlive => Or.inl hlive, fun session hok => by cases hok⟩
      | ok relay =>
          refine ⟨rfl, rfl, fun kind id hlive => ?_, fun session hok => ?_⟩
          · cases kind with
            | lwo =>
                simp only [ServiceContext.held, ServiceContext.running, Registry.insert,
                  get_insert] at hlive
                by_cases hnew : id = ctx.lwo.nextId
                · exact Or.inr ⟨_, rfl, rfl, hnew.symm⟩
                · rw [if_neg hnew] at hlive
                  exact Or.inl hlive
            | phantun => exact Or.inl hlive
            | directUdp => exact Or.inl hlive
          · cases hok
            rfl
  | phantun =>
      simp only [transportUp, exec_bind, exec_fromResult, exec_get, exec_modify, exec_pure]
      cases req.phantunSelect with
      | error e =>
          exact ⟨rfl, rfl, fun kind id hlive => Or.inl hlive, fun session hok => by cases hok⟩
      | ok relay =>
          cases req.phantunSpawn with
          | error e =>
              refine ⟨rfl, rfl, fun kind id hlive => Or.inl ?_, fun session hok => by cases hok⟩
              cases kind <;> exact hlive
          | ok _ =>
              refine ⟨rfl, rfl, fun kind id hlive => ?_, fun session hok => ?_⟩
              · cases kind with
                | phantun =>
                    simp only [ServiceContext.held, ServiceContext.running, get_insert] at hlive
                    by_cases hnew : id = ctx.phantun.nextId
                    · exact Or.inr ⟨_, rfl, rfl, hnew.symm⟩
                    · rw [if_neg hnew] at hlive
                      exact Or.inl hlive
                | lwo => exact Or.inl hlive
                | directUdp => exact Or.inl hlive
              · cases hok
                rfl

theorem Ups.accounts {held held' : Held} {choice : TransportChoice}
    {result : Except RouteGuardError TransportSession} (h : Ups held choice result held') :
    Accounts held none held' result.toOption := by
  constructor
  · intro kind id hlive
    rcases h.running kind id hlive with hold | ⟨started, hok, hnames⟩
    · exact Or.inl hold
    · rw [hok]
      exact Or.inr ⟨started, rfl, hnames⟩
  · intro active hmem kind id hnames _
    rw [h.active]
    exact Or.inl ⟨active, hmem, hnames⟩
  · intro started hmem
    cases hmem

/-! ## One step of a request -/

def PreparedFor (plan : ConnectPlan) (prepared : PreparedConnect) : Prop :=
  ∃ session, prepared.transportSession = some session ∧ session.kind = plan.choice.kind

namespace RequestTask

def Well (handle : Option TunnelHandle) : RequestTask → Prop
  | .connect _ (.storeConf plan session) => session.kind = plan.choice.kind
  | .connect _ (.beginConnect plan prepared _) => PreparedFor plan prepared
  | .connect _ (.backendUp plan prepared _) => PreparedFor plan prepared
  | .connect _ (.setHandle plan prepared _) => PreparedFor plan prepared
  | .connect _ (.setConnected plan prepared held) => PreparedFor plan prepared ∧ handle = some held
  | .connect _ (.rollback plan prepared) => PreparedFor plan prepared
  | .disconnect _ (.transportDown _ active) =>
      active.transportSession.kind = active.transportChoice.kind
  | _ => True

/-- Between the step that replaces the handle and the step that replaces the stored session. -/
def Replacing : RequestTask → Prop
  | .connect _ (.setConnected ..) => True
  | .disconnect _ (.clearState _) => True
  | _ => False

end RequestTask

def Held.Tagged (held : Held) (startedFor : Option Nat) : Prop :=
  held.active ≠ none → ∃ handle ∈ held.handle, startedFor = some handle.id

def Held.Kinds (held : Held) : Prop :=
  ∀ active ∈ held.active, active.transportSession.kind = active.transportChoice.kind

section Ups
variable {held held' : Held} {choice : TransportChoice}
  {result : Except RouteGuardError TransportSession}

theorem Ups.keeps_kinds (h : Ups held choice result held') (hkinds : held.Kinds) :
    held'.Kinds := by
  rw [Held.Kinds, h.active]
  exact hkinds

theorem Ups.keeps_tagged (h : Ups held choice result held') {startedFor : Option Nat}
    (htagged : held.Tagged startedFor) : held'.Tagged startedFor := by
  rw [Held.Tagged, h.active, h.handle]
  exact htagged

end Ups

structure Kept (task : RequestTask) (held : Held) (startedFor : Option Nat)
    (next : Option RequestTask) (held' : Held) (startedFor' : Option Nat) : Prop where
  accounts : Accounts held task.inHand held' (next.bind RequestTask.inHand)
  kinds : held'.Kinds
  well : ∀ after ∈ next, after.Well held'.handle
  tagged : held.Tagged startedFor ∨ task.Replacing →
    held'.Tagged startedFor' ∨ ∃ after ∈ next, after.Replacing

structure Still (held held' : Held) : Prop where
  running : held'.running = held.running
  active : held'.active = held.active
  handle : held'.handle = held.handle

theorem Still.of_eq {held held' : Held} (h : held' = held) : Still held held' := by
  subst h
  exact ⟨rfl, rfl, rfl⟩

section Kept
variable {task : RequestTask} {held held' : Held} {startedFor : Option Nat}
  {next : Option RequestTask}

theorem Kept.of_still (hkinds : held.Kinds) (hstill : Still held held')
    (hhand : ∀ session ∈ task.inHand, session ∈ next.bind RequestTask.inHand)
    (hwell : ∀ after ∈ next, after.Well held.handle) (hreplacing : ¬task.Replacing) :
    Kept task held startedFor next held' startedFor := by
  refine ⟨Accounts.of_same hstill.running hstill.active hhand, ?_, ?_, ?_⟩
  · rw [Held.Kinds, hstill.active]
    exact hkinds
  · rw [hstill.handle]
    exact hwell
  · intro hcase
    rcases hcase with htagged | hreplaced
    · rw [Held.Tagged, hstill.active, hstill.handle]
      exact Or.inl htagged
    · exact absurd hreplaced hreplacing

theorem Kept.of_end (hkinds : held.Kinds) (hstill : Still held held') (hhand : task.inHand = none)
    (hreplacing : ¬task.Replacing) : Kept task held startedFor none held' startedFor := by
  apply Kept.of_still hkinds hstill _ _ hreplacing
  · intro session hmem
    rw [hhand] at hmem
    cases hmem
  · intro after hmem
    cases hmem

end Kept

section ConnectSteps
variable (req : ConnectRequest) {ctx : ServiceContext}

theorem held_announceTransport (plan : ConnectPlan) (prepared : PreparedConnect) :
    (announceTransport plan prepared ctx).held = ctx.held := by
  unfold announceTransport
  cases prepared.transportSession <;> rfl

theorem storePrepared_session {merged : TunnelTransportConfig} {name confText : String}
    {resolved : ResolvedTransport} {session : TransportSession} {prepared : PreparedConnect}
    (h : storePrepared req merged name confText resolved session = .ok prepared) :
    prepared.transportSession = some session := by
  simp only [storePrepared] at h
  cases hrewrite : rewriteConfEndpoint session.wireguardEndpoint (some session.effectiveMtu)
      confText with
  | error e =>
      rw [hrewrite] at h
      cases h
  | ok text =>
      rw [hrewrite] at h
      cases hstore : req.storeConf with
      | error e =>
          rw [hstore] at h
          cases h
      | ok _ =>
          rw [hstore] at h
          cases h
          rfl

theorem storePrepared_ok (hstore : req.storeConf = .ok ()) (merged : TunnelTransportConfig)
    (name confText : String) (resolved : ResolvedTransport) (session : TransportSession) :
    ∃ prepared, storePrepared req merged name confText resolved session = .ok prepared := by
  obtain ⟨text, htext⟩ :=
    rewriteConfEndpoint_ok session.wireguardEndpoint session.effectiveMtu confText
  simp only [storePrepared, htext, hstore]
  exact ⟨_, rfl⟩

theorem still_backendUp (choice : BackendChoice) (config : TunnelConfig) :
    Still ctx.held (exec (backendUp req choice config) ctx).2.held := by
  simp only [backendUp, exec_bind, exec_fromResult, exec_get, exec_modify, exec_pure]
  cases req.backendUp with
  | error e => exact Still.of_eq rfl
  | ok interfaces =>
      obtain ⟨ifIndex, ifLuid⟩ := interfaces
      simp only [held_withSessions_insert]
      exact ⟨rfl, rfl, rfl⟩

theorem accounts_direct {held : Held} {session : TransportSession}
    (hkind : session.kind = .directUdp)
    (hdirect : ∀ id, held.running .directUdp id = none) :
    Accounts held (some session) held none := by
  constructor
  · intro kind id hlive
    exact Or.inl hlive
  · intro active hmem kind id hnames _
    exact Or.inl ⟨active, hmem, hnames⟩
  · intro other hmem kind id hnames hlive
    cases hmem
    obtain ⟨rfl, rfl⟩ := hnames
    rw [hkind, hdirect] at hlive
    exact absurd rfl hlive

theorem storeConf_kept (plan : ConnectPlan) (session : TransportSession) (startedFor : Option Nat)
    (hkinds : ctx.held.Kinds) (hkind : session.kind = plan.choice.kind)
    (hguard : req.storeConf = .ok () ∨ plan.choice = .directUdp) :
    Kept (.connect req (.storeConf plan session)) ctx.held startedFor
      ((RequestTask.connect req (.storeConf plan session)).step ctx).1
      ((RequestTask.connect req (.storeConf plan session)).step ctx).2.held startedFor := by
  simp only [RequestTask.step, connectStep]
  cases hprepared : storePrepared req plan.merged plan.tunnelCfg.name plan.confText plan.resolved
      session with
  | error e =>
      have hdirect : session.kind = .directUdp := by
        rcases hguard with hstore | hchoice
        · obtain ⟨prepared, hok⟩ := storePrepared_ok req hstore plan.merged plan.tunnelCfg.name
            plan.confText plan.resolved session
          rw [hprepared] at hok
          cases hok
        · rw [hkind, hchoice]
          rfl
      refine ⟨accounts_direct hdirect fun _ => rfl, hkinds, fun after hmem => (by cases hmem), ?_⟩
      intro hcase
      rcases hcase with htagged | hreplacing
      · exact Or.inl htagged
      · exact absurd hreplacing id
  | ok prepared =>
      have hsession := storePrepared_session req hprepared
      have hwell : PreparedFor plan prepared := ⟨session, hsession, hkind⟩
      simp only [afterPrepare]
      cases resolveBackend req (connectConfig plan prepared) with
      | error e =>
          apply Kept.of_still hkinds
          · exact Still.of_eq (held_announceTransport plan prepared)
          · intro held hmem
            cases hmem
            exact hsession
          · intro after hmem
            cases hmem
            exact hwell
          · exact id
      | ok resolved =>
          apply Kept.of_still hkinds
          · apply Still.of_eq
            rw [held_publishIf, held_announceTransport]
          · intro held hmem
            cases hmem
            exact hsession
          · intro after hmem
            cases hmem
            exact hwell
          · exact id

theorem transportUp_kept (plan : ConnectPlan) (startedFor : Option Nat) (hkinds : ctx.held.Kinds) :
    Kept (.connect req (.transportUp plan)) ctx.held startedFor
      ((RequestTask.connect req (.transportUp plan)).step ctx).1
      ((RequestTask.connect req (.transportUp plan)).step ctx).2.held startedFor := by
  have hups := transportUp_ups req plan.choice plan.merged plan.peerEndpoint ctx
  simp only [RequestTask.step, connectStep]
  cases hexec : exec (transportUp req plan.choice plan.merged plan.peerEndpoint) ctx with
  | mk result after =>
      rw [hexec] at hups
      have hkinds' := hups.keeps_kinds hkinds
      cases result with
      | error e =>
          refine ⟨hups.accounts, hkinds', fun _ hmem => (by cases hmem), fun hcase => ?_⟩
          exact Or.inl (hups.keeps_tagged (hcase.resolve_right id))
      | ok session =>
          refine ⟨hups.accounts, hkinds', fun next hmem => ?_, fun hcase => ?_⟩
          · cases hmem
            exact hups.kind session rfl
          · exact Or.inl (hups.keeps_tagged (hcase.resolve_right id))

/-- The session is stored beside the handle it was started for. -/
theorem setConnected_kept (plan : ConnectPlan) (prepared : PreparedConnect) (handle : TunnelHandle)
    (startedFor : Option Nat) (hprepared : PreparedFor plan prepared)
    (hstopped : ctx.StoreStopped) :
    Kept (.connect req (.setConnected plan prepared handle)) ctx.held startedFor
      ((RequestTask.connect req (.setConnected plan prepared handle)).step ctx).1
      ((RequestTask.connect req (.setConnected plan prepared handle)).step ctx).2.held
      (some handle.id) := by
  obtain ⟨session, hsession, hkind⟩ := hprepared
  obtain ⟨active, hactive, hchoice, hheld⟩ := storeActive_held ctx plan hsession handle
  have hhand : (RequestTask.connect req (.setConnected plan prepared handle)).inHand =
      some session := hsession
  simp only [RequestTask.step, connectStep, hheld]
  refine ⟨?_, fun stored hmem => ?_, fun next hmem => ?_, fun _ => Or.inl fun _ => ?_⟩
  · rw [hhand]
    exact Accounts.of_stored hactive rfl rfl hstopped
  · cases hmem
    rw [hactive, hchoice]
    exact hkind
  · cases hmem
    trivial
  · exact ⟨handle, rfl, rfl⟩

theorem rollback_kept (plan : ConnectPlan) (prepared : PreparedConnect) (startedFor : Option Nat)
    (hkinds : ctx.held.Kinds) (hprepared : PreparedFor plan prepared) :
    Kept (.connect req (.rollback plan prepared)) ctx.held startedFor
      ((RequestTask.connect req (.rollback plan prepared)).step ctx).1
      ((RequestTask.connect req (.rollback plan prepared)).step ctx).2.held startedFor := by
  obtain ⟨session, hsession, hkind⟩ := hprepared
  have hheld : (rollbackTransport plan.choice prepared ctx).held =
      ctx.held.stopped plan.choice.kind session.handleId := by
    simp only [rollbackTransport, hsession, held_publish, held_transportDown]
  have hhand : (RequestTask.connect req (.rollback plan prepared)).inHand = some session := hsession
  simp only [RequestTask.step, connectStep, hheld]
  refine ⟨?_, hkinds, fun next hmem => (by cases hmem), fun hcase => Or.inl ?_⟩
  · rw [hhand]
    exact Accounts.of_stopped hkind
  · exact hcase.resolve_right id

theorem connectStep_kept (point : ConnectPoint) (startedFor : Option Nat) (hkinds : ctx.held.Kinds)
    (hwell : (RequestTask.connect req point).Well ctx.held.handle)
    (hguard : (RequestTask.connect req point).Undisturbed ctx) :
    Kept (.connect req point) ctx.held startedFor ((RequestTask.connect req point).step ctx).1
      ((RequestTask.connect req point).step ctx).2.held
      ((RequestTask.connect req point).started ctx startedFor) := by
  cases point with
  | getConfig =>
      simp only [RequestTask.step, connectStep]
      cases selectTunnel req ctx.config with
      | error e =>
          exact Kept.of_end hkinds (Still.of_eq rfl) rfl id
      | ok selected =>
          exact Kept.of_still hkinds (Still.of_eq rfl) (fun _ hmem => hmem)
            (fun _ hmem => by cases hmem; trivial) id
  | setConfig cfg selected =>
      exact Kept.of_still hkinds (Still.of_eq rfl) (fun _ hmem => hmem)
        (fun _ hmem => by cases hmem; trivial) id
  | readConf selected =>
      simp only [RequestTask.step, connectStep]
      cases readPlan req selected with
      | error e =>
          exact Kept.of_end hkinds (Still.of_eq rfl) rfl id
      | ok plan =>
          exact Kept.of_still hkinds (Still.of_eq (held_announce ctx plan)) (fun _ hmem => hmem)
            (fun _ hmem => by cases hmem; trivial) id
  | transportUp plan => exact transportUp_kept req plan startedFor hkinds
  | storeConf plan session => exact storeConf_kept req plan session startedFor hkinds hwell hguard
  | beginConnect plan prepared choice =>
      exact Kept.of_still hkinds ⟨rfl, rfl, rfl⟩ (fun _ hmem => hmem)
        (fun _ hmem => by cases hmem; exact hwell) id
  | backendUp plan prepared choice =>
      have hstill : Still ctx.held
          (exec (backendUp req choice (connectConfig plan prepared)) ctx).2.held :=
        still_backendUp req choice (connectConfig plan prepared)
      simp only [RequestTask.step, connectStep]
      cases hexec : exec (backendUp req choice (connectConfig plan prepared)) ctx with
      | mk result after =>
          rw [hexec] at hstill
          cases result with
          | error e =>
              exact Kept.of_still hkinds hstill (fun _ hmem => hmem)
                (fun _ hmem => by cases hmem; exact hwell) id
          | ok handle =>
              exact Kept.of_still hkinds hstill (fun _ hmem => hmem)
                (fun _ hmem => by cases hmem; exact hwell) id
  | setHandle plan prepared handle =>
      refine ⟨Accounts.of_same rfl rfl fun _ hmem => hmem, hkinds, fun _ hmem => ?_, fun _ => ?_⟩
      · cases hmem
        exact ⟨hwell, rfl⟩
      · exact Or.inr ⟨_, rfl, trivial⟩
  | setConnected plan prepared handle =>
      exact setConnected_kept req plan prepared handle startedFor hwell.1 hguard
  | applyPolicy =>
      exact Kept.of_end hkinds (Still.of_eq (applyFullPolicy_held ctx req.policy)) rfl id
  | rollback plan prepared => exact rollback_kept req plan prepared startedFor hkinds hwell

end ConnectSteps

section DisconnectSteps
variable (req : DisconnectRequest) {ctx : ServiceContext}

theorem still_backendDown (choice : BackendChoice) (handle : TunnelHandle) :
    Still ctx.held (exec (backendDown req choice handle) ctx).2.held := by
  simp only [backendDown, exec_bind, exec_get]
  cases (ctx.sessions choice.kind).get handle.id with
  | none => exact Still.of_eq rfl
  | some session =>
      have hclosed := held_withSessions_remove ctx choice.kind handle.id
      have hstill : Still ctx.held
          (ctx.withSessions choice.kind ((ctx.sessions choice.kind).remove handle.id)).held := by
        rw [hclosed]
        exact ⟨rfl, rfl, rfl⟩
      simp only [exec_bind, exec_modify]
      cases req.clearRoutes with
      | error e => exact hstill
      | ok _ => exact hstill

theorem tagged_of_empty {held : Held} (h : held.active = none) (startedFor : Option Nat) :
    held.Tagged startedFor :=
  fun hactive => absurd h hactive

theorem activeHandle_kept (startedFor : Option Nat) (hkinds : ctx.held.Kinds) :
    Kept (.disconnect req .activeHandle) ctx.held startedFor
      ((RequestTask.disconnect req .activeHandle).step ctx).1
      ((RequestTask.disconnect req .activeHandle).step ctx).2.held
      ((RequestTask.disconnect req .activeHandle).started ctx startedFor) := by
  simp only [RequestTask.step, disconnectStep, RequestTask.started]
  cases hheld : ctx.handle with
  | none =>
      exact Kept.of_end hkinds (Still.of_eq rfl) rfl id
  | some handle =>
      rw [if_neg (Option.some_ne_none handle)]
      cases hactive : ctx.activeSession with
      | none =>
          have hempty : ctx.held.active = none := hactive
          simp only [ServiceContext.publish, hactive]
          refine ⟨Accounts.of_same rfl hempty.symm fun _ hmem => hmem, fun active hmem => ?_,
            fun _ hmem => (by cases hmem; trivial), fun _ => Or.inl (tagged_of_empty rfl none)⟩
          cases hmem
      | some active =>
          have hstored : ctx.held.active = some active := hactive
          simp only [ServiceContext.publish, hactive]
          refine ⟨⟨fun kind id hlive => Or.inl hlive, fun old hmem kind id hnames _ => ?_,
            fun _ hmem => (by cases hmem)⟩, fun old hmem => (by cases hmem), fun _ hmem => ?_,
            fun _ => Or.inl (tagged_of_empty rfl none)⟩
          · rw [hstored] at hmem
            cases hmem
            exact Or.inr ⟨active.transportSession, rfl, hnames⟩
          · cases hmem
            exact hkinds active hstored

theorem disconnectStep_kept (point : DisconnectPoint) (startedFor : Option Nat)
    (hkinds : ctx.held.Kinds) (hwell : (RequestTask.disconnect req point).Well ctx.held.handle)
    (hguard : (RequestTask.disconnect req point).Undisturbed ctx) :
    Kept (.disconnect req point) ctx.held startedFor ((RequestTask.disconnect req point).step ctx).1
      ((RequestTask.disconnect req point).step ctx).2.held
      ((RequestTask.disconnect req point).started ctx startedFor) := by
  cases point with
  | activeHandle => exact activeHandle_kept req startedFor hkinds
  | transportDown handle active =>
      have hheld := held_transportDown ctx active.transportChoice active.transportSession
      simp only [RequestTask.step, disconnectStep, hheld]
      refine ⟨Accounts.of_stopped hwell, hkinds, fun _ hmem => ?_, fun hcase => Or.inl ?_⟩
      · cases hmem
        trivial
      · exact hcase.resolve_right id
  | backendDown handle =>
      have hstill : Still ctx.held
          (exec (backendDown req (choiceFor handle.backend) handle) ctx).2.held :=
        still_backendDown req (choiceFor handle.backend) handle
      simp only [RequestTask.step, disconnectStep]
      cases hexec : exec (backendDown req (choiceFor handle.backend) handle) ctx with
      | mk result after =>
          rw [hexec] at hstill
          cases result with
          | error e =>
              exact Kept.of_end hkinds hstill rfl id
          | ok _ =>
              exact Kept.of_still hkinds hstill (fun _ hmem => hmem)
                (fun _ hmem => by cases hmem; trivial) id
  | clearHandle handle =>
      refine ⟨Accounts.of_same rfl rfl fun _ hmem => hmem, hkinds, fun _ hmem => ?_, fun _ => ?_⟩
      · cases hmem
        trivial
      · exact Or.inr ⟨_, rfl, trivial⟩
  | clearState handle =>
      refine ⟨⟨fun kind id hlive => Or.inl hlive, fun old hmem kind id hnames hlive => ?_,
        fun _ hmem => (by cases hmem)⟩, fun old hmem => (by cases hmem),
          fun _ hmem => (by cases hmem),
        fun _ => Or.inl (tagged_of_empty rfl none)⟩
      obtain ⟨rfl, rfl⟩ := hnames
      exact absurd (hguard old hmem) hlive

end DisconnectSteps

theorem taskStep_kept {task : RequestTask} {ctx : ServiceContext} (startedFor : Option Nat)
    (hkinds : ctx.held.Kinds) (hwell : task.Well ctx.held.handle) (hguard : task.Undisturbed ctx) :
    Kept task ctx.held startedFor (task.step ctx).1 (task.step ctx).2.held
      (task.started ctx startedFor) := by
  cases task with
  | connect req point => exact connectStep_kept req point startedFor hkinds hwell hguard
  | disconnect req point => exact disconnectStep_kept req point startedFor hkinds hwell hguard

/-! ## One step of a monitor -/

namespace MonitorPoint

def Well : MonitorPoint → Prop
  | .health active => active.transportSession.kind = active.transportChoice.kind
  | .backoff active => active.transportSession.kind = active.transportChoice.kind
  | .readConf active => active.transportSession.kind = active.transportChoice.kind
  | .transportDown active _ => active.transportSession.kind = active.transportChoice.kind
  | .storeConf active _ session => session.kind = active.transportChoice.kind
  | _ => True

end MonitorPoint

/-- What a step of a monitor keeps; `startedFor` and `startedFor'` belong to the store. -/
structure MonitorKept (point : MonitorPoint) (held : Held) (startedFor : Option Nat)
    (next : MonitorPoint) (held' : Held) (startedFor' : Option Nat) : Prop where
  accounts : Accounts held point.inHand held' next.inHand
  kinds : held'.Kinds
  well : next.Well
  handle : held'.handle = held.handle
  tagged : held.Tagged startedFor → held'.Tagged startedFor'

section MonitorSteps
variable {ctx : ServiceContext} {startedFor : Option Nat}

theorem MonitorKept.of_still {held' : Held} {point next : MonitorPoint} (hkinds : ctx.held.Kinds)
    (hstill : Still ctx.held held') (hhand : ∀ session ∈ point.inHand, session ∈ next.inHand)
    (hwell : next.Well) : MonitorKept point ctx.held startedFor next held' startedFor := by
  refine ⟨Accounts.of_same hstill.running hstill.active hhand, ?_, hwell, hstill.handle, ?_⟩
  · rw [Held.Kinds, hstill.active]
    exact hkinds
  · intro htagged
    rw [Held.Tagged, hstill.active, hstill.handle]
    exact htagged

theorem MonitorKept.of_end {held' : Held} {point : MonitorPoint} (hkinds : ctx.held.Kinds)
    (hstill : Still ctx.held held') (hhand : point.inHand = none) :
    MonitorKept point ctx.held startedFor .tick held' startedFor := by
  apply MonitorKept.of_still hkinds hstill
  · intro session hmem
    rw [hhand] at hmem
    cases hmem
  · trivial

theorem restarted_ok (answers : ConnectRequest) (hstore : answers.storeConf = .ok ())
    (active : ActiveConnectSession) (confText : String) (session : TransportSession) :
    ∃ newActive, restarted answers active confText session = .ok newActive ∧
      newActive.transportSession = session ∧
        newActive.transportChoice = active.transportChoice := by
  obtain ⟨prepared, hprepared⟩ := storePrepared_ok answers hstore active.mergedTransport
    active.tunnelName confText active.resolvedTransport session
  have hsession := storePrepared_session answers hprepared
  simp only [restarted, hprepared, ActiveConnectSession.fromPrepared, hsession, Option.map_some]
  exact ⟨_, rfl, rfl, rfl⟩

theorem monitorStep_kept (answers : ConnectRequest) (healthy : Bool) (m : Monitor)
    (hkinds : ctx.held.Kinds) (hwell : m.point.Well) (hguard : m.Undisturbed answers ctx) :
    MonitorKept m.point ctx.held startedFor (monitorStep answers healthy m.attempts m.point ctx).1
      (monitorStep answers healthy m.attempts m.point ctx).2.2.held
      (m.started (monitorStep answers healthy m.attempts m.point ctx).1 startedFor).2 := by
  obtain ⟨attempts, point, readFor⟩ := m
  cases point with
  | tick =>
      simp only [monitorStep, Monitor.started]
      cases hactive : ctx.activeSession with
      | none => exact MonitorKept.of_end hkinds (Still.of_eq rfl) rfl
      | some active =>
          dsimp only
          by_cases hdirect : active.transportChoice = .directUdp
          · rw [if_pos hdirect]
            exact MonitorKept.of_end hkinds (Still.of_eq rfl) rfl
          · rw [if_neg hdirect]
            exact MonitorKept.of_still hkinds (Still.of_eq rfl) (fun _ hmem => hmem)
              (hkinds active hactive)
  | health active =>
      simp only [monitorStep]
      by_cases hhealthy : healthy
      · rw [if_pos hhealthy]
        exact MonitorKept.of_end hkinds (Still.of_eq rfl) rfl
      · rw [if_neg hhealthy]
        by_cases hmany : 3 < attempts + 1
        · rw [if_pos hmany]
          exact MonitorKept.of_end hkinds (Still.of_eq rfl) rfl
        · rw [if_neg hmany]
          exact MonitorKept.of_still hkinds (Still.of_eq rfl) (fun _ hmem => hmem) hwell
  | backoff active =>
      simp only [monitorStep]
      cases ctx.activeSession with
      | none => exact MonitorKept.of_end hkinds (Still.of_eq rfl) rfl
      | some _ => exact MonitorKept.of_still hkinds (Still.of_eq rfl) (fun _ hmem => hmem) hwell
  | readConf active =>
      simp only [monitorStep]
      cases answers.confText with
      | error e =>
          exact MonitorKept.of_end hkinds (Still.of_eq rfl) rfl
      | ok confText =>
          exact MonitorKept.of_still hkinds (Still.of_eq rfl) (fun _ hmem => hmem) hwell
  | transportDown active confText =>
      have hheld := held_transportDown ctx active.transportChoice active.transportSession
      simp only [monitorStep, hheld]
      refine ⟨Accounts.of_fewer ?_ rfl fun _ hmem => hmem, hkinds,
        trivial, rfl, fun htagged => htagged⟩
      intro kind id hlive
      exact (stopped_fewer _ _ kind id hlive).1
  | transportUp active confText =>
      have hups := transportUp_ups answers active.transportChoice active.mergedTransport
        active.peerEndpoint ctx
      simp only [monitorStep]
      cases hexec : exec (transportUp answers active.transportChoice active.mergedTransport
          active.peerEndpoint) ctx with
      | mk result after =>
          rw [hexec] at hups
          have hkinds' := hups.keeps_kinds hkinds
          cases result with
          | error e => exact ⟨hups.accounts, hkinds', trivial, hups.handle, hups.keeps_tagged⟩
          | ok session =>
              exact ⟨hups.accounts, hkinds', hups.kind session rfl, hups.handle,
                hups.keeps_tagged⟩
  | storeConf active confText session =>
      obtain ⟨hstore, hstopped, hfor⟩ := hguard
      obtain ⟨newActive, hrestarted, hsession, hchoice⟩ :=
        restarted_ok answers hstore active confText session
      simp only [monitorStep, hrestarted]
      refine ⟨Accounts.of_stored hsession rfl rfl hstopped, fun stored hmem => ?_, trivial, rfl,
        fun _ _ => hfor⟩
      cases hmem
      rw [hsession, hchoice]
      exact hwell
  | applyPolicy =>
      exact MonitorKept.of_end hkinds (Still.of_eq (applyFullPolicy_held ctx answers.policy)) rfl

end MonitorSteps

/-! ## Every order of steps -/

/-- The relays that nobody but the store and this task, with `before` in hand, answers for. -/
theorem Accounts.owners {held held' : Held} {before after : Option TransportSession}
    {others : TransportKind → Nat → Prop} (h : Accounts held before held' after)
    (howners : ∀ kind id, held.running kind id ≠ none →
      (∃ active ∈ held.active, active.transportSession.Names kind id) ∨
        (∃ session ∈ before, session.Names kind id) ∨ others kind id)
    (kind : TransportKind) (id : Nat) (hlive : held'.running kind id ≠ none) :
    (∃ active ∈ held'.active, active.transportSession.Names kind id) ∨
      (∃ session ∈ after, session.Names kind id) ∨ others kind id := by
  rcases h.started kind id hlive with hold | hstarted
  · rcases howners kind id hold with ⟨active, hmem, hnames⟩ | ⟨session, hmem, hnames⟩ | hother
    · rcases h.stored active hmem kind id hnames hlive with hstored | hhand
      · exact Or.inl hstored
      · exact Or.inr (Or.inl hhand)
    · rcases h.hand session hmem kind id hnames hlive with hstored | hhand
      · exact Or.inl hstored
      · exact Or.inr (Or.inl hhand)
    · exact Or.inr (Or.inr hother)
  · exact Or.inr (Or.inl hstarted)

namespace MonitoredService

def RequestHas (request : Option RequestTask) (kind : TransportKind) (id : Nat) : Prop :=
  ∃ session ∈ request.bind RequestTask.inHand, session.Names kind id

def MonitorHas (w : MonitoredService) (kind : TransportKind) (id : Nat) (i : Nat) : Prop :=
  ∃ session ∈ (w.monitors i).point.inHand, session.Names kind id

structure WellKept (w : MonitoredService) : Prop where
  running : ∀ kind id, w.ctx.held.running kind id ≠ none →
    (∃ active ∈ w.ctx.held.active, active.transportSession.Names kind id) ∨
      RequestHas w.request kind id ∨ ∃ i, w.MonitorHas kind id i
  kinds : w.ctx.held.Kinds
  tagged : w.ctx.held.Tagged w.startedFor ∨ ∃ task ∈ w.request, task.Replacing
  request : ∀ task ∈ w.request, task.Well w.ctx.held.handle
  monitors : ∀ i, (w.monitors i).point.Well

theorem start_wellKept (config : AppConfig) (domain : DomainRouting) :
    (start config domain).WellKept := by
  refine ⟨fun kind id hlive => ?_, fun active hmem => (by cases hmem), Or.inl fun hactive => ?_,
    fun task hmem => (by cases hmem), fun i => trivial⟩
  · cases kind <;> exact absurd rfl hlive
  · exact absurd rfl hactive

section Steps
variable {w : MonitoredService}

theorem receive_wellKept (h : w.WellKept) (hidle : w.request = none) {task : RequestTask}
    (hwell : task.Well w.ctx.held.handle) :
    ({ w with request := some task } : MonitoredService).WellKept := by
  refine ⟨fun kind id hlive => ?_, h.kinds, Or.inl ?_, fun other hmem => ?_, h.monitors⟩
  · rcases h.running kind id hlive with hstored | hrequest | hmonitor
    · exact Or.inl hstored
    · obtain ⟨session, hmem, _⟩ := hrequest
      rw [hidle] at hmem
      cases hmem
    · exact Or.inr (Or.inr hmonitor)
  · rcases h.tagged with htagged | ⟨other, hmem, _⟩
    · exact htagged
    · rw [hidle] at hmem
      cases hmem
  · cases hmem
    exact hwell

theorem requestStep_wellKept (h : w.WellKept) (hguard : w.Undisturbed .request) :
    w.requestStep.WellKept := by
  unfold requestStep
  cases hrequest : w.request with
  | none => exact h
  | some task =>
      have hkept := taskStep_kept w.startedFor h.kinds (h.request task hrequest)
        (hguard task hrequest)
      have howners : ∀ kind id, w.ctx.held.running kind id ≠ none →
          (∃ active ∈ w.ctx.held.active, active.transportSession.Names kind id) ∨
            (∃ session ∈ task.inHand, session.Names kind id) ∨ ∃ i, w.MonitorHas kind id i := by
        intro kind id hlive
        have hrunning := h.running kind id hlive
        rw [hrequest] at hrunning
        exact hrunning
      refine ⟨hkept.accounts.owners howners, hkept.kinds, ?_, hkept.well, h.monitors⟩
      apply hkept.tagged
      rcases h.tagged with htagged | ⟨other, hmem, hreplacing⟩
      · exact Or.inl htagged
      · rw [hrequest] at hmem
        cases hmem
        exact Or.inr hreplacing

theorem monitorTurn_wellKept (h : w.WellKept) {i : Nat} {answers : ConnectRequest} (healthy : Bool)
    (hguard : (w.monitors i).Undisturbed answers w.ctx) :
    (w.monitorTurn i answers healthy).WellKept := by
  have hkept : MonitorKept _ _ w.startedFor _ _ _ :=
    monitorStep_kept answers healthy (w.monitors i) h.kinds (h.monitors i) hguard
  have howners : ∀ kind id, w.ctx.held.running kind id ≠ none →
      (∃ active ∈ w.ctx.held.active, active.transportSession.Names kind id) ∨
        (∃ session ∈ (w.monitors i).point.inHand, session.Names kind id) ∨
          (RequestHas w.request kind id ∨ ∃ j, j ≠ i ∧ w.MonitorHas kind id j) := by
    intro kind id hlive
    rcases h.running kind id hlive with hstored | hrequest | ⟨j, hmonitor⟩
    · exact Or.inl hstored
    · exact Or.inr (Or.inr (Or.inl hrequest))
    · by_cases hj : j = i
      · subst hj
        exact Or.inr (Or.inl hmonitor)
      · exact Or.inr (Or.inr (Or.inr ⟨j, hj, hmonitor⟩))
  refine ⟨fun kind id hlive => ?_, hkept.kinds, ?_, fun task hmem => ?_, fun j => ?_⟩
  · rcases hkept.accounts.owners howners kind id hlive with
      hstored | hown | hrequest | ⟨j, hj, hmonitor⟩
    · exact Or.inl hstored
    · refine Or.inr (Or.inr ⟨i, ?_⟩)
      simp only [MonitorHas, monitorTurn, Function.update_self]
      exact hown
    · exact Or.inr (Or.inl hrequest)
    · refine Or.inr (Or.inr ⟨j, ?_⟩)
      simp only [MonitorHas, monitorTurn, Function.update_of_ne hj]
      exact hmonitor
  · exact h.tagged.imp_left hkept.tagged
  · have hwell := h.request task hmem
    rw [← hkept.handle] at hwell
    exact hwell
  · by_cases hj : j = i
    · subst hj
      simp only [monitorTurn, Function.update_self]
      exact hkept.well
    · simp only [monitorTurn, Function.update_of_ne hj]
      exact h.monitors j

theorem step_wellKept (h : w.WellKept) {event : TaskEvent} (hguard : w.Undisturbed event) :
    (w.step event).WellKept := by
  cases event with
  | connect req =>
      cases hrequest : w.request with
      | none =>
          simp only [step, hrequest]
          exact receive_wellKept h hrequest trivial
      | some task =>
          simp only [step, hrequest]
          exact h
  | disconnect req =>
      cases hrequest : w.request with
      | none =>
          simp only [step, hrequest]
          exact receive_wellKept h hrequest trivial
      | some task =>
          simp only [step, hrequest]
          exact h
  | request => exact requestStep_wellKept h hguard
  | monitor i answers healthy => exact monitorTurn_wellKept h healthy hguard
  | other config external domain events =>
      exact ⟨h.running, h.kinds, h.tagged, h.request, h.monitors⟩

/-- While nothing is in progress the store answers for every relay. -/
theorem WellKept.matched (h : w.WellKept) (hquiet : w.Quiet) : w.Matched := by
  constructor
  · intro kind id hlive
    rcases h.running kind id hlive with hstored | ⟨session, hmem, _⟩ | ⟨i, session, hmem, _⟩
    · exact hstored
    · rw [hquiet.request] at hmem
      cases hmem
    · rw [hquiet.monitors i] at hmem
      cases hmem
  · rcases h.tagged with htagged | ⟨task, hmem, _⟩
    · exact htagged
    · rw [hquiet.request] at hmem
      cases hmem

end Steps

/-! ### Undisturbed runs -/

def TaskEvent.Spares (i : Nat) : TaskEvent → Prop
  | .monitor j _ _ => j ≠ i
  | _ => True

theorem step_spares {i : Nat} {event : TaskEvent} (h : TaskEvent.Spares i event)
    (w : MonitoredService) : (w.step event).monitors i = w.monitors i := by
  cases event with
  | connect req => cases hrequest : w.request <;> simp only [step, hrequest]
  | disconnect req => cases hrequest : w.request <;> simp only [step, hrequest]
  | request => cases hrequest : w.request <;> simp only [step, requestStep, hrequest]
  | monitor j answers healthy => exact Function.update_of_ne h.symm _ _
  | other config external domain events => rfl

theorem run_spares {i : Nat} {events : List TaskEvent}
    (h : ∀ event ∈ events, TaskEvent.Spares i event) (w : MonitoredService) :
    (run step w events).monitors i = w.monitors i := by
  induction events generalizing w with
  | nil => rfl
  | cons event rest ih =>
      rw [run_cons, ih fun other hmem => h other (List.mem_cons_of_mem event hmem)]
      exact step_spares (h event List.mem_cons_self) w

theorem quiet_of_spared {events : List TaskEvent} {w : MonitoredService}
    (hw : ∀ i, (w.monitors i).point = .tick)
    (hspared : ∀ i ≠ 0, ∀ event ∈ events, TaskEvent.Spares i event)
    (hrequest : (run step w events).request = none)
    (hfirst : ((run step w events).monitors 0).point = .tick) : (run step w events).Quiet := by
  refine ⟨hrequest, fun i => ?_⟩
  by_cases hi : i = 0
  · rw [hi]
    exact hfirst
  · rw [run_spares (hspared i hi) w]
    exact hw i

def connectedInBackoff : List TaskEvent :=
  .connect exampleConnect :: List.replicate 10 .request ++
    List.replicate 2 (.monitor 0 exampleConnect false)

def recoveredInBackoff : List TaskEvent :=
  connectedInBackoff ++ List.replicate 6 (.monitor 0 exampleConnect false)

theorem connectedInBackoff_spares (i : Nat) (hi : i ≠ 0) :
    ∀ event ∈ connectedInBackoff, TaskEvent.Spares i event := by
  simp [connectedInBackoff, TaskEvent.Spares, or_imp, forall_and, hi.symm]

/-- In a run whose steps are undisturbed, store, relays and handle match whenever nothing is in
progress. -/
theorem undisturbed_run_matched (config : AppConfig) (domain : DomainRouting)
    {events : List TaskEvent} (h : Guarded step Undisturbed (start config domain) events)
    {taken : List TaskEvent} (hpre : taken <+: events)
    (hquiet : (run step (start config domain) taken).Quiet) :
    (run step (start config domain) taken).Matched := by
  have hkept : (run step (start config domain) taken).WellKept :=
    reached_invariant step Undisturbed (P := WellKept)
      (fun _ _ hw hguard => step_wellKept hw hguard) (start_wellKept config domain) h hpre
  exact hkept.matched hquiet

theorem recovered_run_matched :
    (run step (start exampleService.config exampleRouting) recoveredInBackoff).Matched ∧
    ((run step (start exampleService.config exampleRouting) recoveredInBackoff).ctx.running
      .lwo).get 2 ≠ none := by
  obtain ⟨hguarded, hidle, htick, hlive⟩ :
      Guarded step Undisturbed (start exampleService.config exampleRouting) recoveredInBackoff ∧
      (run step (start exampleService.config exampleRouting) recoveredInBackoff).request = none ∧
      ((run step (start exampleService.config exampleRouting)
        recoveredInBackoff).monitors 0).point = .tick ∧
      ((run step (start exampleService.config exampleRouting) recoveredInBackoff).ctx.running
        .lwo).get 2 ≠ none := by
    decide +kernel
  have hspares : ∀ i ≠ 0, ∀ event ∈ recoveredInBackoff, TaskEvent.Spares i event := by
    intro i hi
    rw [recoveredInBackoff, List.forall_mem_append]
    exact ⟨connectedInBackoff_spares i hi, by simp [TaskEvent.Spares, hi.symm]⟩
  have hquiet : (run step (start exampleService.config exampleRouting) recoveredInBackoff).Quiet :=
    quiet_of_spared (fun _ => rfl) hspares hidle htick
  refine ⟨?_, hlive⟩
  exact undisturbed_run_matched exampleService.config exampleRouting hguarded
    (List.prefix_refl _) hquiet

/-! ### Disturbed runs -/

def exampleDisconnect : DisconnectRequest := ⟨.ok (), .identity⟩

def reconnectInBackoff : List TaskEvent :=
  connectedInBackoff ++ .disconnect exampleDisconnect :: List.replicate 5 .request ++
    .connect exampleConnect :: List.replicate 10 .request ++
    List.replicate 6 (.monitor 0 exampleConnect false)

def disconnectInRestart : List TaskEvent :=
  connectedInBackoff ++ .monitor 0 exampleConnect false :: .disconnect exampleDisconnect ::
    List.replicate 5 .request ++ List.replicate 5 (.monitor 0 exampleConnect false)

theorem examples_spare (i : Nat) (hi : i ≠ 0) :
    (∀ event ∈ reconnectInBackoff, TaskEvent.Spares i event) ∧
      ∀ event ∈ disconnectInRestart, TaskEvent.Spares i event := by
  have hconnected := connectedInBackoff_spares i hi
  constructor
  · simpa [reconnectInBackoff, TaskEvent.Spares, or_imp, forall_and, hi.symm] using hconnected
  · simpa [disconnectInRestart, TaskEvent.Spares, or_imp, forall_and, hi.symm] using hconnected

/-- A monitor outlives the connection it has read. -/
theorem disturbed_runs_unmatched :
    (run step (start exampleService.config exampleRouting) reconnectInBackoff).Quiet ∧
    ¬(run step (start exampleService.config exampleRouting) reconnectInBackoff).Matched ∧
    (run step (start exampleService.config exampleRouting) disconnectInRestart).Quiet ∧
    ¬(run step (start exampleService.config exampleRouting) disconnectInRestart).Matched := by
  have hticks : ∀ i, ((start exampleService.config exampleRouting).monitors i).point = .tick :=
    fun _ => rfl
  obtain ⟨hidle, htick, hlive, hstored⟩ :
      (run step (start exampleService.config exampleRouting) reconnectInBackoff).request = none ∧
      ((run step (start exampleService.config exampleRouting)
        reconnectInBackoff).monitors 0).point =
        .tick ∧
      ((run step (start exampleService.config exampleRouting) reconnectInBackoff).ctx.running
        .lwo).get 2 ≠ none ∧
      ∀ active ∈ (run step (start exampleService.config exampleRouting)
        reconnectInBackoff).ctx.activeSession, active.transportSession.handleId ≠ 2 := by
    decide +kernel
  obtain ⟨hidle', htick', hrevived, hgone⟩ :
      (run step (start exampleService.config exampleRouting) disconnectInRestart).request = none ∧
      ((run step (start exampleService.config exampleRouting)
        disconnectInRestart).monitors 0).point =
        .tick ∧
      (run step (start exampleService.config exampleRouting)
        disconnectInRestart).ctx.activeSession ≠ none ∧
      (run step (start exampleService.config exampleRouting) disconnectInRestart).ctx.handle =
        none := by
    decide +kernel
  refine ⟨?_, fun hmatched => ?_, ?_, fun hmatched => ?_⟩
  · exact quiet_of_spared hticks (fun i hi => (examples_spare i hi).1) hidle htick
  · obtain ⟨active, hmem, _, hid⟩ := hmatched.running .lwo 2 hlive
    exact hstored active hmem hid
  · exact quiet_of_spared hticks (fun i hi => (examples_spare i hi).2) hidle' htick'
  · obtain ⟨handle, hmem, _⟩ := hmatched.handle hrevived
    rw [hgone] at hmem
    cases hmem

end MonitoredService
end RouteGuard
