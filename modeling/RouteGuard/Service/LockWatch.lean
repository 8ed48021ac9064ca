import RouteGuard.Service.LockRequests

/-! # Runs with the network lock

Requests and attempts of the health monitor, one after the other.  What has
become of the lock filters that a request has installed, and whether the lock is
installed just where the configuration asks for it. -/
set_option autoImplicit false
namespace RouteGuard

open HashTable Fallible GuardedRun

/-! ## Sound states -/

theorem sound_facing {s : ServiceState} (h : s.Sound) (saveFault : Option RouteGuardError) :
    (s.facing [] saveFault).Sound where
  calm := rfl
  tidy := ⟨h.tidy.nodup, h.tidy.idle⟩
  inStep := ⟨h.inStep.listed, h.inStep.enabled_iff, h.inStep.disables⟩
  split := h.split
  others := h.others

theorem sound_rest {s : ServiceState} {ctx : ServiceContext} (h : s.Sound)
    (hlists : SessionRoutes.Lists (fun id => id ∈ s.filterIds) ctx.domain.routes) :
    ServiceState.Sound { s with ctx := ctx } where
  calm := h.calm
  tidy := h.tidy
  inStep := h.inStep
  split id hmem := h.split id (hlists id hmem)
  others := h.others

/-- The state is sound, and a lock that was on has not been touched. -/
structure Secured (base s : ServiceState) : Prop where
  sound : s.Sound
  held : base.lock.lock.enabled = true →
    s.lock.lock = base.lock.lock ∧ LockSame base.lock.engine s.lock.engine

section Stable
variable {fromCidr : String → Except String IpNet} (hreads : ReadsLockCidrs fromCidr)
include hreads

theorem secured_stable (base : ServiceState) : LockStable fromCidr (Secured base) := by
  constructor
  · intro s ctx hview h
    exact ⟨sound_rest h.sound hview.lists, h.held⟩
  · intro answers s h
    have happlied := applyFilters_applied hreads answers h.sound
    refine ⟨happlied.sound, fun hon => ?_⟩
    obtain ⟨hlock, hsame⟩ := h.held hon
    obtain ⟨hlock', hsame'⟩ := happlied.kept.held (by rw [← hon]; exact congrArg _ hlock)
    exact ⟨hlock'.trans hlock, hsame.trans hsame'⟩

end Stable

/-! ## Requests that take the lock away -/

section Disconnect
variable {fromCidr : String → Except String IpNet}

/-- The tunnel has a handle, its backend knows the session, and clears its routes. -/
def ServiceContext.Disconnects (ctx : ServiceContext) (req : DisconnectRequest) : Prop :=
  ∃ handle, ctx.handle = some handle ∧
    (ctx.sessions (choiceFor handle.backend).kind).get handle.id ≠ none ∧
    req.clearRoutes = .ok ()

theorem takeActive_sessions (name : String) (ctx : ServiceContext) (kind : BackendKind) :
    (takeActive name ctx).sessions kind = ctx.sessions kind := by
  unfold takeActive
  split
  · rfl
  · rename_i active _
    cases active.transportChoice <;> cases kind <;> rfl

theorem disconnect_succeeds_iff (req : DisconnectRequest) (ctx : ServiceContext) :
    (exec (RouteGuard.handleDisconnect req) ctx).1 = .ok () ↔ ctx.Disconnects req := by
  cases hhandle : ctx.handle with
  | none =>
      simp only [RouteGuard.handleDisconnect, exec_bind, exec_get, hhandle, exec_throw,
        ServiceContext.Disconnects]
      simp
  | some handle =>
      have hsessions := takeActive_sessions handle.name (ctx.publish (.disconnecting handle.name))
        (choiceFor handle.backend).kind
      have hpublish : (ctx.publish (.disconnecting handle.name)).sessions
          (choiceFor handle.backend).kind = ctx.sessions (choiceFor handle.backend).kind := by
        cases (choiceFor handle.backend).kind <;> rfl
      rw [hpublish] at hsessions
      simp only [RouteGuard.handleDisconnect, exec_bind, exec_get, hhandle, exec_modify,
        exec_caught, backendDown, hsessions, ServiceContext.Disconnects]
      cases hsession : (ctx.sessions (choiceFor handle.backend).kind).get handle.id with
      | none => simp [hsession]
      | some session => cases hclear : req.clearRoutes <;> simp [hsession, exec_bind]

theorem disconnect_view (req : DisconnectRequest) (ctx : ServiceContext) :
    Keeps (LockView ctx) (RouteGuard.handleDisconnect req) := by
  refine handleDisconnect_ofPolicy (lockView_ofPolicy ctx) req fun ctx' h => ⟨?_, h.lock⟩
  exact SessionRoutes.clear_lists req.routeOrder ctx'.domain.routes h.lists

theorem splitCleared_beside {s : ServiceState} (h : s.Sound) :
    ∃ result after, exec (onWfp (applySplitTunnel fromCidr {} s.filterIds)) s = (result, after) ∧
      Beside s after := by
  obtain ⟨hquiet, _⟩ := @applySplitTunnel_quiet fromCidr _ {} h.calm _ h.split
  exact ⟨_, _, rfl, (Beside.refl h).onWfp hquiet⟩

theorem exec_disconnect {s : ServiceState} (h : s.Sound) (req : DisconnectRequest) :
    ∃ after, exec (ServiceState.handleDisconnect fromCidr req) s =
        ((exec (RouteGuard.handleDisconnect req) s.ctx).1, after) ∧
      after.Sound ∧ after.lock.lock.enabled = false := by
  obtain ⟨result, off, hdisable, hoff, hlock, hids, _⟩ := disable_accounted h
  have hsound : (s.withFilters off).Sound := hoff
  have hctx : (s.withFilters off).ctx = s.ctx := by
    rw [ServiceState.withFilters, hids]
    rfl
  have hfirst : exec (caught (onFilters (FilterState.onLock NetworkLock.disable)) :
      StateProg IpcError _) s = (.ok result, s.withFilters off) := by
    rw [exec_caught, onFilters, exec_zoom, hdisable]
  obtain ⟨cleared, middle, hclear, hbeside⟩ := @splitCleared_beside fromCidr _ hsound
  have hsecond : exec (caught (onWfp (applySplitTunnel fromCidr {}
      (s.withFilters off).filterIds)) : StateProg IpcError _) (s.withFilters off) =
      (.ok cleared, middle) := by
    rw [exec_caught, hclear]
  rw [ServiceState.handleDisconnect, exec_bind_ok hfirst, exec_bind_ok (exec_get _),
    exec_bind_ok hsecond]
  refine ⟨(exec (onCtx (RouteGuard.handleDisconnect req)) middle).2, ?_, ?_, ?_⟩
  · rw [onCtx, exec_zoom, hbeside.ctx, hctx]
  · exact sound_rest hbeside.sound
      (disconnect_view req middle.ctx middle.ctx (.of_same rfl rfl)).lists
  · exact (congrArg NetworkLockState.enabled hbeside.lock).trans hlock

/-- Disabling succeeds unless the state of a lock that was on cannot be saved; the lock is gone
either way. -/
theorem exec_nlDisable {s : ServiceState} (h : s.Sound) :
    ∃ result after, exec ServiceState.handleNlDisable s = (result, after) ∧ after.Sound ∧
      after.lock.lock.enabled = false ∧ after.ctx.config.networkLock.enabled = false ∧
      (result = .ok () ↔ s.lock.lock.enabled = true → s.lock.saveFault = none) := by
  let set : ServiceState := (exec (ServiceState.switchLock false) s).2
  have hset : exec (ServiceState.switchLock false) s = (.ok ⟨⟩, set) := rfl
  have hsound : set.Sound := sound_rest h fun _ hmem => hmem
  obtain ⟨result, off, hdisable, hoff, hlock, _, hok⟩ := disable_accounted hsound
  refine ⟨result.mapError fun e => ⟨-32000, e.toString⟩, set.withFilters off, ?_, hoff, hlock, rfl,
    ?_⟩
  · rw [ServiceState.handleNlDisable, exec_bind_ok hset, orReply, exec_mapError, onFilters,
      exec_zoom, hdisable]
  · have hok' : result = .ok () ↔ (s.lock.lock.enabled = true → s.lock.saveFault = none) := hok
    rw [← hok']
    cases result <;> simp [Except.mapError]

end Disconnect

/-! ## Runs -/

/-- The requests, and the attempts of the health monitor, that come after one another. -/
inductive LockRequest where
  | rules (request : RuleRequest)
  | connect (req : ConnectRequest) (answers : ApplyAnswers)
  | disconnect (req : DisconnectRequest)
  | lockEnable (answers : ApplyAnswers)
  | lockDisable
  | tunnelContext (params : Except String TunnelContextParams) (answers : ApplyAnswers)
  | recovery (req : ConnectRequest) (answers : ApplyAnswers) (attempt : Nat)
      (active : ActiveConnectSession)
  /-- the requests that only read this state -/
  | query

/-- A request, and the failure of the lock's file during it; no operation of the filter engine
fails. -/
structure LockEvent where
  request : LockRequest
  saveFault : Option RouteGuardError := none

section Serve
variable (env : Externals) (fromCidr : String → Except String IpNet)

def LockRequest.program : LockRequest → StateProg IpcError Unit
  | .rules request => request.program env fromCidr
  | .connect req answers => do
      let _ ← ServiceState.handleConnect env fromCidr req answers
      pure ()
  | .disconnect req => ServiceState.handleDisconnect fromCidr req
  | .lockEnable answers => ServiceState.handleNlEnable env fromCidr answers
  | .lockDisable => ServiceState.handleNlDisable
  | .tunnelContext params answers => do
      let _ ← ServiceState.handleRoutingSetTunnelContext env fromCidr params answers
      pure ()
  | .recovery req answers attempt active => do
      let _ ← caught (ServiceState.recover env fromCidr req answers attempt active)
      pure ()
  | .query => pure ()

def ServiceState.serveLock (s : ServiceState) (event : LockEvent) :
    Except IpcError Unit × ServiceState :=
  exec (event.request.program env fromCidr) (s.facing [] event.saveFault)

def LockRequest.Removes : LockRequest → Prop
  | .disconnect _ => True
  | .lockDisable => True
  | _ => False

def LockRequest.Installs (current : AppConfig) : LockRequest → AppConfig → Prop
  | .rules (.configSet toml _), cfg => toml = some (.ok cfg)
  | .rules (.reload load _), cfg => load = .ok cfg
  | .lockEnable _, cfg =>
      cfg = { current with networkLock := { current.networkLock with enabled := true } }
  | _, _ => False

/-- A service, and the engine right after the request that enabled the lock, until a request takes
it away. -/
structure Watched where
  service : ServiceState
  armed : Option WfpEngine := none

def Watched.step (w : Watched) (event : LockEvent) : Watched :=
  let (response, after) := w.service.serveLock env fromCidr event
  match event.request, response with
  | .lockEnable _, .ok _ => ⟨after, some (w.armed.getD after.lock.engine)⟩
  | .lockDisable, .ok _ => ⟨after, none⟩
  | .disconnect _, .ok _ => ⟨after, none⟩
  | _, _ => ⟨after, w.armed⟩

end Serve

section Steps
variable {env : Externals} {fromCidr : String → Except String IpNet}

/-- A property survives a request that does not remove the lock, where it survives the
configurations that the request can install. -/
theorem program_stable {P : ServiceState → Prop} (hP : LockStable fromCidr P) {s : ServiceState}
    (h : P s) {request : LockRequest} (hrequest : ¬request.Removes)
    (hset : ∀ cfg, request.Installs s.ctx.config cfg → P { s with ctx := s.ctx.setConfig cfg }) :
    P (exec (request.program env fromCidr) s).2 := by
  cases request with
  | rules request =>
      cases request with
      | change request answers => exact change_stable hP h request answers
      | configSet toml answers => exact configSet_stable hP h toml answers hset
      | reload load answers => exact reload_stable hP h load answers hset
  | connect req answers =>
      exact keeps_bind (handleConnect_stable hP req answers) (fun _ => keeps_pure _) s h
  | disconnect req => exact absurd trivial hrequest
  | lockEnable answers => exact nlEnable_stable hP answers (hset _ rfl)
  | lockDisable => exact absurd trivial hrequest
  | tunnelContext params answers =>
      exact keeps_bind (setTunnelContext_stable hP params answers) (fun _ => keeps_pure _) s h
  | recovery req answers attempt active =>
      exact keeps_bind (keeps_caught (recover_stable hP req answers attempt active))
        (fun _ => keeps_pure _) s h
  | query => exact h

variable (hreads : ReadsLockCidrs fromCidr)
include hreads

theorem program_secured {s : ServiceState} (h : s.Sound) {request : LockRequest}
    (hrequest : ¬request.Removes) : Secured s (exec (request.program env fromCidr) s).2 := by
  have hstart : Secured s s := ⟨h, fun _ => ⟨rfl, LockSame.refl _⟩⟩
  refine program_stable (secured_stable hreads s) hstart hrequest fun cfg _ => ?_
  exact ⟨sound_rest h fun _ hmem => hmem, hstart.held⟩

theorem serveLock_sound {s : ServiceState} (h : s.Sound) (event : LockEvent) :
    (s.serveLock env fromCidr event).2.Sound := by
  have hfacing := sound_facing h event.saveFault
  cases hrequest : event.request with
  | disconnect req =>
      obtain ⟨after, hexec, hafter, _⟩ := @exec_disconnect fromCidr _ hfacing req
      rw [ServiceState.serveLock, hrequest, LockRequest.program, hexec]
      exact hafter
  | lockDisable =>
      obtain ⟨result, after, hexec, hafter, _⟩ := exec_nlDisable hfacing
      rw [ServiceState.serveLock, hrequest, LockRequest.program, hexec]
      exact hafter
  | _ =>
      refine (program_secured hreads hfacing ?_).sound
      rw [hrequest]
      exact not_false

/-- Where the configuration asks for the lock, it is on once the policy has been applied. -/
theorem applySplitPolicy_enabled {answers : ApplyAnswers} {s after : ServiceState} (h : s.Sound)
    (hexec : exec (applySplitPolicy env fromCidr answers) s = (.ok (), after))
    (hwanted : s.ctx.config.networkLock.enabled = true) : after.lock.lock.enabled = true := by
  rw [applySplitPolicy, exec_bind] at hexec
  have hview := applyFullPolicy_view s.ctx (answers.routes env) s.ctx (.of_same rfl rfl)
  cases hpolicy : exec (applyFullPolicy (answers.routes env)) s.ctx with
  | mk result ctx =>
      have hstep : exec (onCtx (applyFullPolicy (answers.routes env))) s =
          (result, { s with ctx := ctx }) := by rw [onCtx, exec_zoom, hpolicy]
      rw [hpolicy] at hview
      rw [hstep] at hexec
      cases result with
      | error e => cases hexec
      | ok _ =>
          have hcached := applyFullPolicy_cached (answers.routes env) s.ctx _ ctx hpolicy
          have happlied := applyFilters_applied hreads answers (sound_rest h hview.lists)
          dsimp only at hexec
          rw [hexec] at happlied
          refine happlied.enabled rfl hcached ?_
          dsimp only
          rw [show ctx.config.networkLock = s.ctx.config.networkLock from hview.lock]
          exact hwanted

theorem nlEnable_enabled {answers : ApplyAnswers} {s after : ServiceState} (h : s.Sound)
    (hexec : exec (ServiceState.handleNlEnable env fromCidr answers) s = (.ok (), after)) :
    after.lock.lock.enabled = true := by
  let set : ServiceState := (exec (ServiceState.switchLock true) s).2
  have hset : exec (ServiceState.switchLock true) s = (.ok ⟨⟩, set) := rfl
  have hsound : set.Sound := sound_rest h fun _ hmem => hmem
  rw [ServiceState.handleNlEnable, exec_bind_ok hset] at hexec
  exact applySplitPolicy_enabled hreads hsound (exec_of_mapError hexec) rfl

end Steps

/-- The lock is installed, with all the filters it was enabled with. -/
def Watched.Held (w : Watched) : Prop := ∀ engine ∈ w.armed,
  (∃ policy, LockedBy policy w.service.lock.engine) ∧
    ∀ id rule, rule.isLock = true → engine.filters.get id = some rule →
      w.service.lock.engine.filters.get id = some rule

/-- The request does not take a lock away with an error: a disconnect finds a tunnel that it can
take down, and the state of a disabled lock can be saved. -/
def Watched.KeepsHeld (w : Watched) (event : LockEvent) : Prop :=
  match event.request with
  | .disconnect req => w.armed = none ∨ w.service.ctx.Disconnects req
  | .lockDisable => w.armed = none ∨ event.saveFault = none
  | _ => True

section Held
variable {env : Externals} {fromCidr : String → Except String IpNet}

theorem on_of_held {w : Watched} (hsound : w.service.Sound) (hheld : w.Held)
    (harmed : w.armed ≠ none) : w.service.lock.lock.enabled = true := by
  obtain ⟨engine, hengine⟩ := Option.ne_none_iff_exists'.mp harmed
  exact hsound.inStep.enabled_iff.mpr (hheld engine hengine).1

theorem held_off_iff {after : ServiceState} (hsound : after.Sound)
    (hoff : after.lock.lock.enabled = false) (armed : Option WfpEngine) :
    Watched.Held ⟨after, armed⟩ ↔ armed = none := by
  constructor
  · intro hheld
    by_contra harmed
    have hon := on_of_held hsound hheld harmed
    rw [hoff] at hon
    cases hon
  · intro hnone engine hengine
    rw [hnone] at hengine
    cases hengine

theorem held_of_secured {w : Watched} (hsound : w.service.Sound) (hheld : w.Held)
    {saveFault : Option RouteGuardError} {after : ServiceState}
    (h : Secured (w.service.facing [] saveFault) after) : Watched.Held ⟨after, w.armed⟩ := by
  intro engine hengine
  have hon := on_of_held hsound hheld (Option.ne_none_iff_exists'.mpr ⟨engine, hengine⟩)
  obtain ⟨⟨policy, hlocked⟩, hfilters⟩ := hheld engine hengine
  obtain ⟨_, hsame⟩ := h.held hon
  refine ⟨⟨policy, (hsame.lockedBy_iff policy).mpr hlocked⟩, fun id rule hlock hget => ?_⟩
  exact (hsame.same id rule hlock).mpr (hfilters id rule hlock hget)

/-- A lock that was enabled stays installed exactly over the requests that do not take it away with
an error. -/
theorem step_held_iff (hreads : ReadsLockCidrs fromCidr) {w : Watched} (event : LockEvent)
    (hsound : w.service.Sound) (hheld : w.Held) :
    (w.step env fromCidr event).Held ↔ w.KeepsHeld event := by
  obtain ⟨request, saveFault⟩ := event
  have hfacing := sound_facing hsound saveFault
  have hkept : ¬request.Removes →
      Watched.Held ⟨(w.service.serveLock env fromCidr ⟨request, saveFault⟩).2, w.armed⟩ :=
    fun hrequest => held_of_secured hsound hheld (program_secured hreads hfacing hrequest)
  cases request with
  | disconnect req =>
      obtain ⟨after, hexec, hafter, hoff⟩ := @exec_disconnect fromCidr _ hfacing req
      have hsucceeds : (exec (RouteGuard.handleDisconnect req) w.service.ctx).1 = .ok () ↔
          w.service.ctx.Disconnects req := disconnect_succeeds_iff req w.service.ctx
      have hctx : (w.service.facing [] saveFault).ctx = w.service.ctx := rfl
      simp only [Watched.step, ServiceState.serveLock, LockRequest.program, hexec, hctx,
        Watched.KeepsHeld, ← hsucceeds]
      cases (exec (RouteGuard.handleDisconnect req) w.service.ctx).1 with
      | ok _ => exact iff_of_true ((held_off_iff hafter hoff none).mpr rfl) (Or.inr rfl)
      | error e => simp [held_off_iff hafter hoff]
  | lockDisable =>
      obtain ⟨result, after, hexec, hafter, hoff, _, hok⟩ := exec_nlDisable hfacing
      simp only [Watched.step, ServiceState.serveLock, LockRequest.program, hexec,
        Watched.KeepsHeld]
      cases result with
      | ok _ =>
          refine iff_of_true ((held_off_iff hafter hoff none).mpr rfl) ?_
          by_cases harmed : w.armed = none
          · exact Or.inl harmed
          · exact Or.inr (hok.mp rfl (on_of_held hsound hheld harmed))
      | error e =>
          have hfault : saveFault ≠ none := by
            intro hnone
            cases hok.mpr fun _ => hnone
          simp [held_off_iff hafter hoff, hfault]
  | lockEnable answers =>
      refine iff_of_true ?_ trivial
      have hheld' := hkept not_false
      have hafter := @serveLock_sound env _ hreads _ hsound ⟨.lockEnable answers, saveFault⟩
      simp only [Watched.step]
      cases hexec : w.service.serveLock env fromCidr ⟨.lockEnable answers, saveFault⟩ with
      | mk result after =>
          rw [hexec] at hheld' hafter
          cases result with
          | error e => exact hheld'
          | ok _ =>
              have hon := nlEnable_enabled hreads hfacing hexec
              cases harmed : w.armed with
              | some engine =>
                  rw [harmed] at hheld'
                  exact hheld'
              | none =>
                  intro engine hengine
                  cases hengine
                  exact ⟨hafter.inStep.enabled_iff.mp hon, fun _ _ _ hget => hget⟩
  | _ => exact iff_of_true (hkept not_false) trivial

theorem step_sound (hreads : ReadsLockCidrs fromCidr) (w : Watched) (event : LockEvent)
    (h : w.service.Sound) : (w.step env fromCidr event).service.Sound := by
  have hservice : (w.step env fromCidr event).service =
      (w.service.serveLock env fromCidr event).2 := by
    unfold Watched.step
    cases w.service.serveLock env fromCidr event with
    | mk response after =>
        dsimp only
        split <;> rfl
  rw [hservice]
  exact serveLock_sound hreads h event

/-- The state read back from `network_lock.json` is that of the filters in the engine. -/
structure LockContext.Restored (lock : LockContext) : Prop where
  tidy : LockTidy lock
  listed : ∀ id, id ∈ lock.lock.activeFilterIds ↔ LockAt lock.engine id
  enabled_iff : lock.lock.enabled = true ↔ ∃ policy, LockedBy policy lock.engine
  calm : Calm lock.session

theorem LockContext.restored_of_none {lock : LockContext} (hoff : lock.lock = {})
    (hnone : ∀ id, ¬LockAt lock.engine id) (hcalm : Calm lock.session) : lock.Restored := by
  have hids : lock.lock.activeFilterIds = [] := by rw [hoff]
  have hinStep : LockInStep lock := inStep_of_none (by rw [hoff]) hids hnone
  exact ⟨⟨by rw [hids]; exact List.nodup_nil, fun _ => hids⟩, hinStep.listed,
    hinStep.enabled_iff, hcalm⟩

theorem ServiceState.Sound.restored {s : ServiceState} (h : s.Sound) : s.lock.Restored :=
  ⟨h.tidy, h.inStep.listed, h.inStep.enabled_iff, h.calm⟩

theorem new_sound {at_ : Moment} {config : AppConfig} {loaded : Option DomainRouteStore} {os : Os}
    {lock : LockContext} {driver : Bool} {s : ServiceState}
    (h : ServiceState.new env at_ config loaded os lock driver = .ok s)
    (hrestored : lock.Restored) : s.Sound := by
  have hinStep : LockInStep lock :=
    inStep_of_listed hrestored.tidy hrestored.listed hrestored.enabled_iff
  obtain ⟨engine, store, domain, -, rfl, hdomain⟩ := ServiceState.new_cases h
  have hroutes : domain.routes = { table := { os := os } } := by
    rcases hdomain with ⟨_, -, -, rfl⟩ | ⟨-, rfl⟩
    · rfl
    · exact DomainRouting.syncEngine_routes _ _
  refine ⟨hrestored.calm, hrestored.tidy, hinStep, fun id hmem => ?_, fun id hmem => ?_⟩
  · have hrebuilt := (domain.rebuildRules_effect at_ config.routing.domainRules).1
    rw [hroutes] at hrebuilt
    have hmem' : id ∈ (domain.rebuildRules at_
      config.routing.domainRules).routes.session.wfpFilterIds := hmem
    rw [hrebuilt] at hmem'
    cases hmem'
  · cases hmem

/-- From a start with the lock as it was saved, with no operation of the engine failing: the lock
stays installed after it was enabled, until it is taken away with success, exactly in the runs in
which no request takes it away with an error. -/
theorem run_held_iff (hreads : ReadsLockCidrs fromCidr) {at_ : Moment} {config : AppConfig}
    {loaded : Option DomainRouteStore} {os : Os} {lock : LockContext} {driver : Bool}
    {s : ServiceState} (h : ServiceState.new env at_ config loaded os lock driver = .ok s)
    (hrestored : lock.Restored) (events : List LockEvent) :
    (∀ first, first <+: events → (run (Watched.step env fromCidr) ⟨s, none⟩ first).Held) ↔
      Guarded (Watched.step env fromCidr) Watched.KeepsHeld ⟨s, none⟩ events := by
  apply holds_throughout_iff (Q := fun w : Watched => w.service.Sound) _ _
    (fun w event hsound => step_sound hreads w event hsound)
    (fun w event hsound hheld => step_held_iff hreads event hsound hheld) events _
    (new_sound h hrestored)
  intro engine hengine
  cases hengine

end Held

/-! ### A disconnect without a tunnel -/

theorem plainLock_restored : LockContext.Restored { session := { engine := WfpEngine.empty } } :=
  LockContext.restored_of_none rfl not_lockAt_idle rfl

def lockThenDisconnect : List LockEvent :=
  [⟨.lockEnable calmAnswers, none⟩, ⟨.disconnect ⟨.ok (), .identity⟩, none⟩]

def enabledLock : LockContext :=
  (plainService.serveLock .asciiIpv4 readCidr ⟨.lockEnable calmAnswers, none⟩).2.lock

theorem enabledLock_restored : enabledLock.Restored :=
  (serveLock_sound readsLockCidrs_readCidr (new_sound plainService_new plainLock_restored)
    _).restored

def restartedService : ServiceState := { plainService with lock := enabledLock }

theorem restartedService_new :
    ServiceState.new .asciiIpv4 midnight {} none {} enabledLock false = .ok restartedService := rfl

theorem run_held_iff_restarted :
    (∀ first, first <+: lockThenDisconnect →
      (run (Watched.step .asciiIpv4 readCidr) ⟨restartedService, none⟩ first).Held) ↔
      Guarded (Watched.step .asciiIpv4 readCidr) Watched.KeepsHeld ⟨restartedService, none⟩
        lockThenDisconnect :=
  run_held_iff readsLockCidrs_readCidr restartedService_new enabledLock_restored _

/-- The disconnect answers that there is no tunnel, and the lock is gone. -/
theorem lockThenDisconnect_drops :
    (plainService.serveLock .asciiIpv4 readCidr ⟨.lockEnable calmAnswers, none⟩).1 = .ok () ∧
    ((plainService.serveLock .asciiIpv4 readCidr
        ⟨.lockEnable calmAnswers, none⟩).2.serveLock .asciiIpv4 readCidr
        ⟨.disconnect ⟨.ok (), .identity⟩, none⟩).1 = .error ⟨-32000, "no active tunnel"⟩ ∧
    ¬(run (Watched.step .asciiIpv4 readCidr) ⟨plainService, none⟩ lockThenDisconnect).Held := by
  refine ⟨by decide +kernel, by decide +kernel, fun hheld => ?_⟩
  have hsound : (run (Watched.step .asciiIpv4 readCidr) ⟨plainService, none⟩
      lockThenDisconnect).service.Sound :=
    run_keeps _ (fun w event h => step_sound readsLockCidrs_readCidr w event h) _ _
      (new_sound plainService_new plainLock_restored)
  have harmed : (run (Watched.step .asciiIpv4 readCidr) ⟨plainService, none⟩
      lockThenDisconnect).armed.isSome = true := by decide +kernel
  have hoff : (run (Watched.step .asciiIpv4 readCidr) ⟨plainService, none⟩
      lockThenDisconnect).service.lock.lock.enabled = false := by decide +kernel
  have hon := on_of_held hsound hheld (Option.isSome_iff_ne_none.mp harmed)
  rw [hoff] at hon
  cases hon

/-! ## The lock as configured -/

inductive ConfigRequest where
  | configSet (toml : Option (Except RouteGuardError AppConfig)) (answers : ChangeAnswers)
  | reload (load : Except RouteGuardError AppConfig) (answers : ApplyAnswers)
  | importRules (params : Except String ImportRulesParams) (rebuildAt : Moment)
      (answers : ChangeAnswers)
  | lockEnable (answers : ApplyAnswers)
  | lockDisable
  | connect (req : ConnectRequest) (answers : ApplyAnswers)

def ConfigRequest.request : ConfigRequest → LockRequest
  | .configSet toml answers => .rules (.configSet toml answers)
  | .reload load answers => .rules (.reload load answers)
  | .importRules params rebuildAt answers =>
      .rules (.change (.importRules params rebuildAt) answers)
  | .lockEnable answers => .lockEnable answers
  | .lockDisable => .lockDisable
  | .connect req answers => .connect req answers

namespace ServiceState

/-- The filters of some policy are installed just where the configuration asks for the lock. -/
def LockAgrees (s : ServiceState) : Prop :=
  (∃ policy, LockedBy policy s.lock.engine) ↔ s.ctx.config.networkLock.enabled = true

theorem lockAgrees_iff {s : ServiceState} (h : s.Sound) : s.LockAgrees ↔
    (s.lock.lock.enabled = true ↔ s.ctx.config.networkLock.enabled = true) :=
  iff_congr h.inStep.enabled_iff.symm Iff.rfl

/-- The lock is on at most where the configuration asks for it. -/
structure Covered (s : ServiceState) : Prop where
  sound : s.Sound
  covered : s.lock.lock.enabled = true → s.ctx.config.networkLock.enabled = true

section Serve
variable (env : Externals) (fromCidr : String → Except String IpNet)

def serveConfig (s : ServiceState) (event : ConfigRequest × Option RouteGuardError) :
    ServiceState := (s.serveLock env fromCidr ⟨event.1.request, event.2⟩).2

end Serve

/-- A configuration without the lock comes only while the lock is off. -/
def KeepsCovered (s : ServiceState) (event : ConfigRequest × Option RouteGuardError) : Prop :=
  ∀ cfg, (event.1.request.Installs s.ctx.config cfg) → s.lock.lock.enabled = true →
    cfg.networkLock.enabled = true

end ServiceState

section Configured
variable {env : Externals} {fromCidr : String → Except String IpNet}
  (hreads : ReadsLockCidrs fromCidr)
include hreads

theorem covered_stable : LockStable fromCidr ServiceState.Covered := by
  constructor
  · intro s ctx hview h
    refine ⟨sound_rest h.sound hview.lists, fun hon => ?_⟩
    rw [hview.lock]
    exact h.covered hon
  · intro answers s h
    have happlied := applyFilters_applied hreads answers h.sound
    have hconfig := (applyFilters_sameRules s fromCidr answers s (SameRules.refl s)).config
    refine ⟨happlied.sound, fun hon => ?_⟩
    rw [hconfig]
    exact (happlied.kept.wanted hon).elim h.covered id

/-- A request that comes while its guard holds keeps the lock within the configuration. -/
theorem serveConfig_covered {s : ServiceState} (event : ConfigRequest × Option RouteGuardError)
    (h : s.Covered) (hguard : s.KeepsCovered event) :
    (s.serveConfig env fromCidr event).Covered := by
  obtain ⟨request, saveFault⟩ := event
  have hfacing : (s.facing [] saveFault).Covered := ⟨sound_facing h.sound saveFault, h.covered⟩
  have hstable : ¬request.request.Removes →
      (s.serveConfig env fromCidr (request, saveFault)).Covered := by
    intro hrequest
    refine program_stable (covered_stable hreads) hfacing hrequest fun cfg hcfg => ?_
    exact ⟨sound_rest hfacing.sound fun _ hmem => hmem, hguard cfg hcfg⟩
  cases request with
  | lockDisable =>
      obtain ⟨result, after, hexec, hafter, hoff, _⟩ := exec_nlDisable hfacing.sound
      rw [ServiceState.serveConfig, ServiceState.serveLock, ConfigRequest.request,
        LockRequest.program, hexec]
      refine ⟨hafter, fun hon => ?_⟩
      rw [hoff] at hon
      cases hon
  | _ => exact hstable not_false

omit hreads in
theorem restored_sound {s : ServiceState} (h : s.Sound) (cfg : AppConfig) :
    (s.restored env cfg).Sound :=
  sound_rest h (withBuilt_view (RoutingEngine.fromConfig env cfg) (s.ctx.setConfig cfg)).lists

theorem applied_enabled {answers : ApplyAnswers} {s after : ServiceState} (h : s.Sound)
    (hexec : exec (applySplitPolicy env fromCidr answers) s = (.ok (), after))
    (hwanted : after.ctx.config.networkLock.enabled = true) : after.lock.lock.enabled = true := by
  rw [(sameRules_of_exec env fromCidr hexec).config] at hwanted
  exact applySplitPolicy_enabled hreads h hexec hwanted

theorem connect_enabled {req : ConnectRequest} {answers : ApplyAnswers} {s after : ServiceState}
    (h : s.Sound)
    (hexec : exec (LockRequest.program env fromCidr (.connect req answers)) s = (.ok (), after))
    (hwanted : after.ctx.config.networkLock.enabled = true) : after.lock.lock.enabled = true := by
  have hview := handleConnect_ofPolicy (lockView_ofPolicy s.ctx)
    { req with policy := answers.routes env } (applyFullPolicy_view s.ctx _) s.ctx
    (.of_same rfl rfl)
  simp only [LockRequest.program, ServiceState.handleConnect, exec_bind] at hexec
  cases hconnect : exec (handleConnect { req with policy := answers.routes env }) s.ctx with
  | mk result ctx =>
      have hstep : exec (onCtx (handleConnect { req with policy := answers.routes env })) s =
          (result, { s with ctx := ctx }) := by rw [onCtx, exec_zoom, hconnect]
      rw [hconnect] at hview
      rw [hstep] at hexec
      cases result with
      | error e => cases hexec
      | ok _ =>
          have hcached := handleConnect_cached _ s.ctx _ ctx hconnect
          have happlied := applyFilters_applied hreads answers (sound_rest h hview.lists)
          have hconfig := (applyFilters_sameRules { s with ctx := ctx } fromCidr answers _
            (SameRules.refl _)).config
          dsimp only at hexec
          cases hfilters : exec (orReply (applyFilters fromCidr answers)) { s with ctx := ctx } with
          | mk reply filtered =>
              rw [hfilters] at hexec
              cases reply with
              | error e => cases hexec
              | ok _ =>
                  cases hexec
                  rw [exec_of_mapError hfilters] at happlied hconfig
                  rw [hconfig] at hwanted
                  exact happlied.enabled rfl hcached hwanted

theorem change_enabled {request : ChangeRequest} {answers : ChangeAnswers} {s after : ServiceState}
    (h : s.Sound) (hexec : exec (request.program env fromCidr answers) s = (.ok (), after))
    (hwanted : after.ctx.config.networkLock.enabled = true) : after.lock.lock.enabled = true := by
  rw [exec_change] at hexec
  cases hasked : request.change env s.ctx.config with
  | error e =>
      rw [hasked] at hexec
      cases hexec
  | ok change =>
      have hexit := changeRules_exit env fromCidr change.cfg answers change.rebuild (change.taken s)
      rw [hasked] at hexec
      dsimp only at hexec
      rw [hexec] at hexit
      cases hexit with
      | @applied engine _ hsaved hbuilt happly =>
          refine applied_enabled hreads (sound_rest h ?_) happly hwanted
          exact (rebuild_view change _).lists

theorem configSet_enabled {toml : Option (Except RouteGuardError AppConfig)}
    {answers : ChangeAnswers} {s after : ServiceState} (h : s.Sound)
    (hexec : exec (ServiceState.handleConfigSet env fromCidr toml answers) s = (.ok (), after))
    (hwanted : after.ctx.config.networkLock.enabled = true) : after.lock.lock.enabled = true := by
  match toml with
  | none => cases hexec
  | some (.error e) => cases hexec
  | some (.ok cfg) =>
      rw [exec_configSet] at hexec
      cases hsaved : answers.saved with
      | error e =>
          rw [hsaved] at hexec
          cases hexec
      | ok _ =>
          rw [hsaved] at hexec
          exact applied_enabled hreads (restored_sound h cfg) (exec_of_mapError hexec) hwanted

theorem reload_enabled {load : Except RouteGuardError AppConfig} {answers : ApplyAnswers}
    {s after : ServiceState} (h : s.Sound)
    (hexec : exec (ServiceState.handleRoutingReload env fromCidr load answers) s = (.ok (), after))
    (hwanted : after.ctx.config.networkLock.enabled = true) : after.lock.lock.enabled = true := by
  cases load with
  | error e => cases hexec
  | ok cfg =>
      have hload := exec_of_mapError hexec
      rw [exec_reload] at hload
      cases hbuilt : RoutingEngine.fromConfig env cfg with
      | error e =>
          rw [hbuilt] at hload
          cases hload
      | ok engine =>
          rw [hbuilt] at hload
          exact applied_enabled hreads (restored_sound h cfg) hload hwanted

/-- After a request that succeeds, the lock is on just where the configuration asks for it. -/
theorem serveConfig_agrees {s : ServiceState} (event : ConfigRequest × Option RouteGuardError)
    (h : s.Covered) (hguard : s.KeepsCovered event)
    (hok : (s.serveLock env fromCidr ⟨event.1.request, event.2⟩).1 = .ok ()) :
    (s.serveConfig env fromCidr event).LockAgrees := by
  have hcovered := @serveConfig_covered env _ hreads _ event h hguard
  obtain ⟨request, saveFault⟩ := event
  have hfacing := sound_facing h.sound saveFault
  have hexec : exec (request.request.program env fromCidr) (s.facing [] saveFault) =
      (.ok (), s.serveConfig env fromCidr (request, saveFault)) := Prod.ext hok rfl
  rw [ServiceState.lockAgrees_iff hcovered.sound]
  refine ⟨hcovered.covered, fun hwanted => ?_⟩
  cases request with
  | configSet toml answers => exact configSet_enabled hreads hfacing hexec hwanted
  | reload load answers => exact reload_enabled hreads hfacing hexec hwanted
  | importRules params rebuildAt answers =>
      have hchange :
          exec ((ChangeRequest.importRules params rebuildAt).program env fromCidr answers)
            (s.facing [] saveFault) = (.ok (), _) := hexec
      exact change_enabled hreads hfacing hchange hwanted
  | lockEnable answers => exact nlEnable_enabled hreads hfacing hexec
  | connect req answers => exact connect_enabled hreads hfacing hexec hwanted
  | lockDisable =>
      obtain ⟨result, after, hdisable, _, _, hoff, _⟩ := exec_nlDisable hfacing
      have hafter : s.serveConfig env fromCidr (.lockDisable, saveFault) = after :=
        congrArg Prod.snd hdisable
      rw [hafter, hoff] at hwanted
      cases hwanted

end Configured

/-! ### Runs -/

namespace ServiceState

section Reached
variable (env : Externals) (fromCidr : String → Except String IpNet)

def serve (s : ServiceState) (event : LockEvent) : ServiceState :=
  (s.serveLock env fromCidr event).2

/-- The states of a service after its start, where no operation of the filter engine fails. -/
def Reached (s : ServiceState) : Prop :=
  ∃ (at_ : Moment) (config : AppConfig) (loaded : Option DomainRouteStore) (os : Os)
    (lock : LockContext) (driver : Bool) (start : ServiceState) (events : List LockEvent),
    ServiceState.new env at_ config loaded os lock driver = .ok start ∧ lock.Restored ∧
      run (serve env fromCidr) start events = s

end Reached

end ServiceState

section Runs
variable {env : Externals} {fromCidr : String → Except String IpNet}
  (hreads : ReadsLockCidrs fromCidr)
include hreads

theorem reached_sound {s : ServiceState} (h : s.Reached env fromCidr) : s.Sound := by
  obtain ⟨at_, config, loaded, os, lock, driver, start, events, hnew, hrestored, rfl⟩ := h
  have hstart : start.Sound := new_sound hnew hrestored
  exact run_keeps (P := ServiceState.Sound) (ServiceState.serve env fromCidr)
    (fun s event hs => serveLock_sound hreads hs event) events start hstart

/-- From a state in which the lock is installed just where the configuration asks for it, every
request that succeeds leaves it so, in the runs in which no configuration without the lock comes
while the lock is on. -/
theorem run_agrees {s : ServiceState} (hreached : s.Reached env fromCidr) (hagrees : s.LockAgrees)
    {events : List (ConfigRequest × Option RouteGuardError)}
    (hguarded : Guarded (ServiceState.serveConfig env fromCidr) ServiceState.KeepsCovered s events)
    {first : List (ConfigRequest × Option RouteGuardError)}
    {event : ConfigRequest × Option RouteGuardError} (hpre : first ++ [event] <+: events)
    (hok : ((run (ServiceState.serveConfig env fromCidr) s first).serveLock env fromCidr
      ⟨event.1.request, event.2⟩).1 = .ok ()) :
    (run (ServiceState.serveConfig env fromCidr) s (first ++ [event])).LockAgrees := by
  have hsound := reached_sound hreads hreached
  have hstart : s.Covered := ⟨hsound, ((ServiceState.lockAgrees_iff hsound).mp hagrees).mp⟩
  have hfront := guarded_front _ _ hpre hguarded
  rw [guarded_append] at hfront
  have hcovered := run_invariant _ _ (P := ServiceState.Covered)
    (fun s event h hguard => serveConfig_covered hreads event h hguard) first s hstart hfront.1
  rw [run_concat]
  exact serveConfig_agrees hreads event hcovered hfront.2.1 hok

end Runs

/-! ### A configuration without the lock -/

theorem plainService_reached : plainService.Reached .asciiIpv4 readCidr :=
  ⟨midnight, {}, none, {}, _, false, plainService, [], plainService_new, plainLock_restored, rfl⟩

theorem plainService_agrees : plainService.LockAgrees :=
  (ServiceState.lockAgrees_iff (reached_sound readsLockCidrs_readCidr plainService_reached)).mpr
    (iff_of_false Bool.false_ne_true Bool.false_ne_true)

def lockOn : ConfigRequest × Option RouteGuardError := (.lockEnable calmAnswers, none)

def resetConfig : ConfigRequest × Option RouteGuardError :=
  (.configSet (some (.ok {})) ⟨.ok (), calmAnswers⟩, none)

theorem run_agrees_lockOn :
    (run (ServiceState.serveConfig .asciiIpv4 readCidr) plainService
      ([] ++ [lockOn])).LockAgrees := by
  have hguarded : Guarded (ServiceState.serveConfig .asciiIpv4 readCidr)
      ServiceState.KeepsCovered plainService ([] ++ [lockOn]) :=
    ⟨fun _ _ hon => absurd hon Bool.false_ne_true, trivial⟩
  exact run_agrees readsLockCidrs_readCidr plainService_reached plainService_agrees hguarded
    (List.prefix_refl _) (by decide +kernel)

/-- Both requests succeed, and the lock stays installed against the configuration. -/
theorem resetConfig_disagrees :
    plainService.Reached .asciiIpv4 readCidr ∧ plainService.LockAgrees ∧
    (plainService.serveLock .asciiIpv4 readCidr ⟨lockOn.1.request, lockOn.2⟩).1 = .ok () ∧
    ((run (ServiceState.serveConfig .asciiIpv4 readCidr) plainService [lockOn]).serveLock .asciiIpv4
      readCidr ⟨resetConfig.1.request, resetConfig.2⟩).1 = .ok () ∧
    ¬(run (ServiceState.serveConfig .asciiIpv4 readCidr) plainService
      [lockOn, resetConfig]).LockAgrees := by
  have hsound : (run (ServiceState.serveConfig .asciiIpv4 readCidr) plainService
      [lockOn, resetConfig]).Sound :=
    run_keeps (P := ServiceState.Sound) (ServiceState.serveConfig .asciiIpv4 readCidr)
      (fun s event h => serveLock_sound readsLockCidrs_readCidr h _) [lockOn, resetConfig]
      plainService (reached_sound readsLockCidrs_readCidr plainService_reached)
  rw [ServiceState.lockAgrees_iff hsound]
  exact ⟨plainService_reached, plainService_agrees, by decide +kernel, by decide +kernel,
    by decide +kernel⟩

end RouteGuard
