import RouteGuard.Service.RuleSync

/-! # Tasks that share the engine

DNS answers, the purge timer, readers of the engine and the handlers that edit
the rules run side by side.  A step of a task is what it does under one lock:
the mutex of the store, or the `RwLock` of the engine, which `sync_to_engine`
only tries.  Routes, filters and events touch neither and are left out. -/
set_option autoImplicit false
namespace RouteGuard

open HashTable Fallible GuardedRun

/-! ## Tasks -/

/-- What a handler does with the rules once its request has been accepted. -/
structure Edit where
  cfg : AppConfig
  previous : AppConfig
  /-- `set_config` -/
  saved : Bool
  /-- `routing.import_rules` rebuilds the domain rules. -/
  rebuilds : Bool := false
  /-- The configuration and the engine come back where a later step fails. -/
  rollsBack : Bool := true
  /-- `config.set` goes on without a new engine. -/
  goesOn : Bool := false

def RuleChange.edit (change : RuleChange) (previous : AppConfig) (saved : Bool) : Edit :=
  { cfg := change.cfg, previous := previous, saved := saved, rebuilds := change.rebuildAt.isSome }

def RuleRequest.edit (env : Externals) (current : AppConfig) : RuleRequest → Option Edit
  | .change request answers => (request.change env current).toOption.map fun change =>
      change.edit current answers.saved.toBool
  | .configSet toml answers => (toml.bind Except.toOption).map fun cfg =>
      { cfg := cfg
        previous := current
        saved := answers.saved.toBool
        rollsBack := false
        goesOn := true }
  | .reload load _ => load.toOption.map fun cfg =>
      { cfg := cfg, previous := current, saved := true, rollsBack := false }

inductive EngineTask where
  /-- `on_dns_response`, about to look for a rule -/
  | answer (domain : String) (records : List (IpAddr × Nat))
  | applyAnswer (domain : String) (records : List (IpAddr × Nat)) (rule : DomainRuleEntry)
      (nonempty : records ≠ [])
  /-- `purge_expired` -/
  | purge
  /-- `sync_to_engine`, about to try the lock; a handler goes on with its edit -/
  | sync (next : Option Edit)
  /-- the lock is held, the store's mutex not yet -/
  | locked (next : Option Edit)
  /-- the copy is made, the lock still held -/
  | synced (next : Option Edit)
  /-- `routing.test` and every other reader of the engine -/
  | read
  | reading
  | request (request : RuleRequest)
  | set (edit : Edit)
  | build (edit : Edit)
  /-- in the queue for the lock, or holding it, with the engine to install -/
  | install (engine : RoutingEngine) (edit : Edit)
  | rebuild (edit : Edit)
  /-- `apply_split_policy`, which reads the engine for the policy -/
  | apply (edit : Edit)
  | applying (edit : Edit)
  | restore (edit : Edit)
  | restored
  | reinstall (engine : RoutingEngine)

/-- What holds the lock of the engine, or waits to write. -/
def EngineTask.holdsRead : EngineTask → Bool
  | .reading => true
  | .applying _ => true
  | _ => false

def EngineTask.holdsWrite : EngineTask → Bool
  | .locked _ => true
  | .synced _ => true
  | _ => false

def EngineTask.awaitsWrite : EngineTask → Bool
  | .install _ _ => true
  | .reinstall _ => true
  | _ => false

def EngineTask.brings : EngineTask → Option RoutingEngine
  | .install engine _ => some engine
  | .reinstall engine => some engine
  | _ => none

/-- The store, the engine and the configuration, and the tasks in progress. -/
structure SharedEngine where
  clock : Clock
  config : AppConfig
  store : DomainRouteStore
  engine : RoutingEngine
  tasks : List EngineTask := []

namespace SharedEngine
variable (s : SharedEngine)

def readable : Bool := s.tasks.all fun task => !task.holdsWrite

def writable : Bool := s.tasks.all fun task => !task.holdsRead && !task.holdsWrite

/-- Whether `try_write` succeeds: a waiting writer has taken the permits that are left. -/
def unlocked : Bool :=
  s.tasks.all fun task => !task.holdsRead && !task.holdsWrite && !task.awaitsWrite

end SharedEngine

/-! ## Steps -/

/-- The walks over the maps, and whether applying the policy fails. -/
structure StepAnswers where
  order : Order := .identity
  walk : Order := .identity
  fails : Bool := false

section Steps
variable (env : Externals) (answers : StepAnswers) (s : SharedEngine)

def EngineTask.advance : EngineTask → SharedEngine × Option EngineTask
  | .answer domain records =>
      if hrecords : records = [] then (s, none)
      else
        match s.store.matchDomain env domain with
        | none => (s, none)
        | some rule => (s, some (.applyAnswer domain records rule hrecords))
  | .applyAnswer domain records rule _ =>
      let store := (s.store.applyResolved answers.order s.clock.nowUnix domain records rule).2
      ({ s with store := store }, some (.sync none))
  | .purge =>
      let (expired, store) := s.store.purgeExpired answers.order s.clock.nowUnix
      ({ s with store := store }, if expired.isEmpty then none else some (.sync none))
  | .sync next => (s, if s.unlocked then some (.locked next) else next.map .apply)
  | .locked next =>
      ({ s with engine := s.engine.syncDomainStore answers.walk s.clock s.store },
        some (.synced next))
  | .synced next => (s, next.map .apply)
  | .read => (s, some (if s.readable then .reading else .read))
  | .reading => (s, none)
  | .request asked => (s, (asked.edit env s.config).map .set)
  | .set edit => ({ s with config := edit.cfg }, if edit.saved then some (.build edit) else none)
  | .build edit =>
      match RoutingEngine.fromConfig env edit.cfg with
      | .ok engine => (s, some (.install engine edit))
      | .error _ =>
          if edit.goesOn then (s, some (.apply edit))
          else ({ s with config := if edit.rollsBack then edit.previous else s.config }, none)
  | .install engine edit =>
      if s.writable then
        ({ s with engine := engine }, some (if edit.rebuilds then .rebuild edit else .apply edit))
      else (s, some (.install engine edit))
  | .rebuild edit =>
      let rules := edit.cfg.routing.domainRules
      ({ s with store := ((s.store.setRules rules).pruneUnmatchedRules answers.order).2 },
        some (.sync (some edit)))
  | .apply edit => (s, some (if s.readable then .applying edit else .apply edit))
  | .applying edit => (s, if answers.fails && edit.rollsBack then some (.restore edit) else none)
  | .restore edit => ({ s with config := edit.previous }, some .restored)
  | .restored => (s, (RoutingEngine.fromConfig env s.config).toOption.map .reinstall)
  | .reinstall engine =>
      if s.writable then ({ s with engine := engine }, none) else (s, some (.reinstall engine))

end Steps

inductive TaskStart where
  | dnsResponse (domain : String) (records : List (IpAddr × Nat))
  | purgeTick
  | routingTest
  | edit (request : RuleRequest)

def TaskStart.task : TaskStart → EngineTask
  | .dnsResponse domain records => .answer domain records
  | .purgeTick => .purge
  | .routingTest => .read
  | .edit request => .request request

inductive SharedEvent where
  | start (start : TaskStart)
  | advance (index : Nat) (answers : StepAnswers)
  | tick (nanos : Nat)

def SharedEngine.left (after : SharedEngine) (rest : Option EngineTask) (others : List EngineTask) :
    SharedEngine :=
  { after with tasks := rest.toList ++ others }

def SharedEngine.step (env : Externals) (s : SharedEngine) : SharedEvent → SharedEngine
  | .start start => { s with tasks := start.task :: s.tasks }
  | .advance index answers =>
      match s.tasks[index]? with
      | none => s
      | some task =>
          let (after, rest) := task.advance env answers s
          after.left rest (s.tasks.eraseIdx index)
  | .tick nanos => { s with clock := s.clock.advance nanos }

theorem step_advance {env : Externals} {s : SharedEngine} {index : Nat} {task : EngineTask}
    (hget : s.tasks[index]? = some task) (answers : StepAnswers) :
    s.step env (.advance index answers) = (task.advance env answers s).1.left
      (task.advance env answers s).2 (s.tasks.eraseIdx index) := by
  simp only [SharedEngine.step, hget]

theorem step_missing {env : Externals} {s : SharedEngine} {index : Nat}
    (hget : s.tasks[index]? = none) (answers : StepAnswers) :
    s.step env (.advance index answers) = s := by
  simp only [SharedEngine.step, hget]

/-! ## A task that runs alone -/

def DomainRouting.shared (w : DomainRouting) (clock : Clock) (config : AppConfig)
    (tasks : List EngineTask) : SharedEngine where
  clock := clock
  config := config
  store := w.store
  engine := w.engine
  tasks := tasks

def Moment.stepAnswers (at_ : Moment) (fails : Bool) : StepAnswers := ⟨at_.order, at_.walk, fails⟩

def ServiceState.shared (service : ServiceState) (clock : Clock) : SharedEngine :=
  service.ctx.domain.shared clock service.ctx.config []

/-- The step answers for a change, whose rebuild knows its own walks. -/
def RuleChange.stepAnswers (asked : RuleChange) (fails : Bool) : StepAnswers :=
  match asked.rebuildAt with
  | none => { fails := fails }
  | some at_ => at_.stepAnswers fails

section Alone
variable (env : Externals) (answers : StepAnswers)

/-- The first task is taken to its end with no other step in between. -/
def EndsAs (s s' : SharedEngine) : Prop :=
  ∃ steps, run (SharedEngine.step env) s (List.replicate steps (.advance 0 answers)) = s'

variable {env answers} {s s' : SharedEngine} {others : List EngineTask}

theorem endsAs_done (h : s = s') : EndsAs env answers s s' := ⟨0, h⟩

theorem endsAs_step {task : EngineTask}
    (h : EndsAs env answers ((task.advance env answers (s.left (some task) others)).1.left
      (task.advance env answers (s.left (some task) others)).2 others) s') :
    EndsAs env answers (s.left (some task) others) s' := by
  obtain ⟨steps, hrun⟩ := h
  exact ⟨steps + 1, hrun⟩

theorem endsAs_next {task : EngineTask} {after : SharedEngine} {rest : Option EngineTask}
    (hnext : task.advance env answers (s.left (some task) others) = (after, rest))
    (h : EndsAs env answers (after.left rest others) s') :
    EndsAs env answers (s.left (some task) others) s' := by
  refine endsAs_step ?_
  rw [hnext]
  exact h

section Manager
variable {w : DomainRouting} {at_ : Moment} {config : AppConfig} {fails : Bool}

/-- A sync that is left alone copies the store if it finds the engine free. -/
theorem sync_endsAs {next : Option Edit}
    (hfree : at_.engineFree = (w.shared at_.clock config others).unlocked)
    (h : EndsAs env (at_.stepAnswers fails)
      (((w.syncEngine at_).shared at_.clock config []).left (next.map .apply) others) s') :
    EndsAs env (at_.stepAnswers fails)
      ((w.shared at_.clock config []).left (some (.sync next)) others) s' := by
  have hunlocked : ((w.shared at_.clock config []).left (some (.sync next)) others).unlocked =
      at_.engineFree := by
    rw [hfree]
    rfl
  unfold DomainRouting.syncEngine at h
  refine endsAs_step ?_
  simp only [EngineTask.advance, hunlocked]
  cases hcase : at_.engineFree with
  | true =>
      rw [hcase, if_pos rfl] at h
      exact endsAs_step (endsAs_step h)
  | false =>
      rw [hcase, if_neg Bool.false_ne_true] at h
      exact h

theorem foldl_cached {f : DomainRouting → ResolvedIpEntry → DomainRouting}
    (hf : ∀ w entry, (f w entry).store = w.store ∧ (f w entry).engine = w.engine)
    (entries : List ResolvedIpEntry) (w : DomainRouting) :
    (entries.foldl f w).store = w.store ∧ (entries.foldl f w).engine = w.engine := by
  induction entries generalizing w with
  | nil => exact ⟨rfl, rfl⟩
  | cons entry rest ih =>
      obtain ⟨hstore, hengine⟩ := ih (f w entry)
      obtain ⟨hstore', hengine'⟩ := hf w entry
      exact ⟨hstore.trans hstore', hengine.trans hengine'⟩

theorem removeEntries_cached (entries : List ResolvedIpEntry) (w : DomainRouting) :
    (entries.foldl DomainRouting.removeEntry w).store = w.store ∧
      (entries.foldl DomainRouting.removeEntry w).engine = w.engine := by
  have hremoved : ∀ (w : DomainRouting) (entry : ResolvedIpEntry),
      (w.removeEntry entry).store = w.store ∧ (w.removeEntry entry).engine = w.engine :=
    fun _ _ => ⟨rfl, rfl⟩
  exact foldl_cached hremoved entries w

theorem applyDiff_cached (w : DomainRouting) (policy : PolicySnapshot) (diff : ApplyDiff) :
    (w.applyDiff policy diff).store = w.store ∧ (w.applyDiff policy diff).engine = w.engine := by
  unfold DomainRouting.applyDiff
  dsimp only
  split
  · obtain ⟨hstore, hengine⟩ := removeEntries_cached diff.removed (diff.added.foldl
      (fun w entry => (w.installEntry (policy.tunnelIfIndex.getD 0)
        (policy.physicalIfIndex.getD 0) entry).emitRouteAdded entry) w)
    have hadded : ∀ (w : DomainRouting) (entry : ResolvedIpEntry),
        ((w.installEntry (policy.tunnelIfIndex.getD 0) (policy.physicalIfIndex.getD 0)
          entry).emitRouteAdded entry).store = w.store ∧
        ((w.installEntry (policy.tunnelIfIndex.getD 0) (policy.physicalIfIndex.getD 0)
          entry).emitRouteAdded entry).engine = w.engine := fun _ _ => ⟨rfl, rfl⟩
    obtain ⟨hstore', hengine'⟩ := foldl_cached hadded diff.added w
    exact ⟨hstore.trans hstore', hengine.trans hengine'⟩
  · exact ⟨rfl, rfl⟩

theorem onDnsResponse_cached {w : DomainRouting} (at_ : Moment) {domain : String}
    {records : List (IpAddr × Nat)} {rule : DomainRuleEntry} (policy : PolicySnapshot)
    (hrecords : records ≠ []) (hmatch : w.store.matchDomain env domain = some rule) :
    (w.onDnsResponse env at_ domain records policy).store =
      (w.store.applyResolved at_.order at_.now domain records rule).2 ∧
    (w.onDnsResponse env at_ domain records policy).engine = (({ w with
      store := (w.store.applyResolved at_.order at_.now domain records rule).2 } :
        DomainRouting).syncEngine at_).engine := by
  unfold DomainRouting.onDnsResponse
  rw [if_neg (by simpa using hrecords), hmatch]
  dsimp only
  obtain ⟨hstore, hengine⟩ := applyDiff_cached (({ w with
      store := (w.store.applyResolved at_.order at_.now domain records rule).2 } :
        DomainRouting).syncEngine at_) policy
    (w.store.applyResolved at_.order at_.now domain records rule).1
  rw [(DomainRouting.syncEngine_frame _ at_).store] at hstore
  split <;> exact ⟨hstore, hengine⟩

/-- A DNS answer that is left alone does what `on_dns_response` does. -/
theorem dnsResponse_endsAs (hfree : at_.engineFree = (w.shared at_.clock config others).unlocked)
    (domain : String) (records : List (IpAddr × Nat)) (policy : PolicySnapshot) :
    EndsAs env (at_.stepAnswers fails)
      ((w.shared at_.clock config others).step env (.start (.dnsResponse domain records)))
      ((w.onDnsResponse env at_ domain records policy).shared at_.clock config others) := by
  have hstart : (w.shared at_.clock config others).step env (.start (.dnsResponse domain records)) =
      (w.shared at_.clock config []).left (some (.answer domain records)) others := rfl
  rw [hstart]
  refine endsAs_step ?_
  rw [EngineTask.advance]
  by_cases hrecords : records = []
  · have hsame : w.onDnsResponse env at_ domain records policy = w := by
      simp [DomainRouting.onDnsResponse, hrecords]
    rw [dif_pos hrecords, hsame]
    exact endsAs_done rfl
  · rw [dif_neg hrecords]
    cases hmatch : w.store.matchDomain env domain with
    | none =>
        have hsame : w.onDnsResponse env at_ domain records policy = w := by
          simp [DomainRouting.onDnsResponse, hmatch]
        simp only [SharedEngine.left, DomainRouting.shared, hmatch]
        rw [hsame]
        exact endsAs_done rfl
    | some rule =>
        obtain ⟨hstore, hengine⟩ := onDnsResponse_cached at_ policy hrecords hmatch
        simp only [SharedEngine.left, DomainRouting.shared, hmatch]
        refine endsAs_step (s := w.shared at_.clock config []) ?_
        refine sync_endsAs (w := { w with
          store := (w.store.applyResolved at_.order at_.now domain records rule).2 }) hfree
          (endsAs_done ?_)
        simp only [SharedEngine.left, DomainRouting.shared, hstore, hengine, Option.map_none,
          Option.toList_none, List.nil_append, (DomainRouting.syncEngine_frame _ at_).store]

theorem purgeExpired_cached (h : (w.store.purgeExpired at_.order at_.now).1.isEmpty = false) :
    (w.purgeExpired at_).store = (w.store.purgeExpired at_.order at_.now).2 ∧
    (w.purgeExpired at_).engine = (({ w with
      store := (w.store.purgeExpired at_.order at_.now).2 } :
        DomainRouting).syncEngine at_).engine := by
  unfold DomainRouting.purgeExpired
  dsimp only
  obtain ⟨hstore, hengine⟩ := removeEntries_cached (w.store.purgeExpired at_.order at_.now).1
    { w with store := (w.store.purgeExpired at_.order at_.now).2 }
  rw [if_pos (by simp [h])]
  refine ⟨((DomainRouting.syncEngine_frame _ at_).store).trans hstore, ?_⟩
  unfold DomainRouting.syncEngine
  split
  · simp only [hstore, hengine]
  · exact hengine

theorem purgeTick_endsAs (hfree : at_.engineFree = (w.shared at_.clock config others).unlocked) :
    EndsAs env (at_.stepAnswers fails)
      ((w.shared at_.clock config others).step env (.start .purgeTick))
      ((w.purgeExpired at_).shared at_.clock config others) := by
  have hstart : (w.shared at_.clock config others).step env (.start .purgeTick) =
      (w.shared at_.clock config []).left (some .purge) others := rfl
  rw [hstart]
  refine endsAs_step ?_
  rw [EngineTask.advance]
  cases hempty : (w.store.purgeExpired at_.order at_.now).1.isEmpty with
  | true =>
      have hpurged : w.purgeExpired at_ = ({ w with
          store := (w.store.purgeExpired at_.order at_.now).2 } : DomainRouting).attempt
            (SessionRoutes.purgeExpiredDomainRoutes at_.routeOrder at_.now) := by
        simp [DomainRouting.purgeExpired, hempty]
      refine endsAs_done ?_
      rw [hpurged]
      simp only [Moment.now] at hempty
      simp only [SharedEngine.left, DomainRouting.shared, Moment.stepAnswers, hempty]
      rfl
  | false =>
      obtain ⟨hstore, hengine⟩ := purgeExpired_cached hempty
      simp only [Moment.now] at hempty
      simp only [SharedEngine.left, DomainRouting.shared, Moment.stepAnswers, hempty]
      refine sync_endsAs (w := { w with store := (w.store.purgeExpired at_.order at_.now).2 })
        hfree (endsAs_done ?_)
      simp only [SharedEngine.left, DomainRouting.shared, hstore, hengine, Option.map_none,
        Option.toList_none, List.nil_append, (DomainRouting.syncEngine_frame _ at_).store]

theorem rebuild_endsAs {edit : Edit} (hfree : at_.engineFree = true)
    (h : EndsAs env (at_.stepAnswers fails)
      (((w.rebuildRules at_ edit.cfg.routing.domainRules).shared at_.clock config []).left
        (some (.apply edit)) []) s') :
    EndsAs env (at_.stepAnswers fails)
      ((w.shared at_.clock config []).left (some (.rebuild edit)) []) s' := by
  let pruned := (w.store.setRules edit.cfg.routing.domainRules).pruneUnmatchedRules at_.order
  refine endsAs_step (sync_endsAs (w := { w with store := pruned.2 }) hfree ?_)
  have hsame : (w.rebuildRules at_ edit.cfg.routing.domainRules).shared at_.clock config [] =
      (({ w with store := pruned.2 } : DomainRouting).syncEngine at_).shared at_.clock config
        [] := by
    obtain ⟨_, hframe⟩ := DomainRouting.emitRouteExpired_foldl pruned.1
      { w with store := pruned.2 }
    have hengine := emitExpired_engine pruned.1 { w with store := pruned.2 }
    simp only [DomainRouting.rebuildRules, DomainRouting.syncEngine, hfree, if_true,
      DomainRouting.shared]
    rw [hframe.store, hengine]
  rw [hsame] at h
  exact h

end Manager

section Requests
variable {fromCidr : String → Except String IpNet} {service : ServiceState} {clock : Clock}

theorem shared_of_same {s s' : ServiceState} (h : SameRules s s') (clock : Clock) :
    s'.shared clock = s.shared clock := by
  simp only [ServiceState.shared, DomainRouting.shared, h.config, h.engine, h.store]

theorem apply_endsAs {edit : Edit} (hfails : (answers.fails && edit.rollsBack) = false) :
    EndsAs env answers (s.left (some (.apply edit)) []) (s.left none []) := by
  have hread : (EngineTask.apply edit).advance env answers (s.left (some (.apply edit)) []) =
      (s.left (some (.apply edit)) [], some (.applying edit)) := rfl
  have happlied : (EngineTask.applying edit).advance env answers
      (s.left (some (.applying edit)) []) = (s.left (some (.applying edit)) [], none) := by
    simp [EngineTask.advance, hfails]
  exact endsAs_next hread (endsAs_next happlied (endsAs_done rfl))

/-- And where that fails, the engine of the previous configuration comes back. -/
theorem rollback_endsAs {edit : Edit} (hfails : (answers.fails && edit.rollsBack) = true) :
    EndsAs env answers ((service.shared clock).left (some (.apply edit)) [])
      ((service.restored env edit.previous).shared clock) := by
  have hread : (EngineTask.apply edit).advance env answers
      ((service.shared clock).left (some (.apply edit)) []) =
        ((service.shared clock).left (some (.apply edit)) [], some (.applying edit)) := rfl
  have hfailed : (EngineTask.applying edit).advance env answers
      ((service.shared clock).left (some (.applying edit)) []) =
        ((service.shared clock).left (some (.applying edit)) [], some (.restore edit)) := by
    simp [EngineTask.advance, hfails]
  refine endsAs_next hread (endsAs_next hfailed (endsAs_step ?_))
  have hrestored : (EngineTask.restored).advance env answers
      (SharedEngine.left { service.shared clock with config := edit.previous }
        (some .restored) []) =
      (SharedEngine.left { service.shared clock with config := edit.previous }
        (some .restored) [],
        (RoutingEngine.fromConfig env edit.previous).toOption.map .reinstall) := rfl
  cases hbuilt : RoutingEngine.fromConfig env edit.previous with
  | error e =>
      rw [hbuilt] at hrestored
      refine endsAs_next hrestored (endsAs_done ?_)
      simp only [ServiceState.restored, ServiceContext.withBuilt, hbuilt]
      rfl
  | ok engine =>
      rw [hbuilt] at hrestored
      refine endsAs_next hrestored (endsAs_step (endsAs_done ?_))
      simp only [ServiceState.restored, ServiceContext.withBuilt, hbuilt]
      rfl

theorem install_endsAs {edit : Edit} {engine : RoutingEngine}
    (hbuilt : RoutingEngine.fromConfig env edit.cfg = .ok engine)
    (h : EndsAs env answers (SharedEngine.left { s with engine := engine }
      (some (if edit.rebuilds then .rebuild edit else .apply edit)) []) s') :
    EndsAs env answers (s.left (some (.build edit)) []) s' := by
  have hbuild : (EngineTask.build edit).advance env answers (s.left (some (.build edit)) []) =
      (s.left (some (.build edit)) [], some (.install engine edit)) := by
    simp [EngineTask.advance, hbuilt]
  exact endsAs_next hbuild (endsAs_step h)

/-- What the configuration builds is installed, if it builds one. -/
theorem unbuildable_endsAs {edit : Edit} {e : String}
    (hbuilt : RoutingEngine.fromConfig env edit.cfg = .error e) (hgoesOn : edit.goesOn = false)
    (h : s' = { s with
      config := if edit.rollsBack then edit.previous else s.config, tasks := [] }) :
    EndsAs env answers (s.left (some (.build edit)) []) s' := by
  refine endsAs_step (endsAs_done ?_)
  rw [h]
  simp [EngineTask.advance, hbuilt, hgoesOn, SharedEngine.left]

theorem changed_endsAs {asked : RuleChange} {engine : RoutingEngine} {fails saved : Bool}
    {previous : AppConfig} (hbuilt : RoutingEngine.fromConfig env asked.cfg = .ok engine)
    (hmoment : ∀ at_, asked.rebuildAt = some at_ → at_.clock = clock ∧ at_.engineFree = true)
    (h : EndsAs env (asked.stepAnswers fails)
      ((((asked.taken service).changed asked.cfg engine asked.rebuild).shared clock).left
        (some (.apply (asked.edit previous saved))) []) s') :
    EndsAs env (asked.stepAnswers fails)
      (SharedEngine.left { service.shared clock with config := asked.cfg }
        (some (.build (asked.edit previous saved))) []) s' := by
  refine install_endsAs hbuilt ?_
  obtain ⟨cfg, context, rebuildAt⟩ := asked
  cases rebuildAt with
  | none => exact h
  | some at_ =>
      obtain ⟨rfl, hfree⟩ := hmoment at_ rfl
      exact rebuild_endsAs (w := { service.ctx.domain with engine := engine }) hfree h

theorem stepAnswers_fails (asked : RuleChange) (fails : Bool) :
    (asked.stepAnswers fails).fails = fails := by
  unfold RuleChange.stepAnswers
  split <;> rfl

/-- A change of the rules that is left alone does what its handler does. -/
theorem change_endsAs (request : ChangeRequest) (answers : ChangeAnswers)
    (hmoment : ∀ asked at_, request.change env service.ctx.config = .ok asked →
      asked.rebuildAt = some at_ → at_.clock = clock ∧ at_.engineFree = true) :
    ∃ steps, EndsAs env steps
      ((service.shared clock).step env (.start (.edit (.change request answers))))
      ((exec (request.program env fromCidr answers) service).2.shared clock) := by
  rw [exec_change]
  have hstart : (service.shared clock).step env (.start (.edit (.change request answers))) =
      (service.shared clock).left (some (.request (.change request answers))) [] := rfl
  rw [hstart]
  cases hasked : request.change env service.ctx.config with
  | error e =>
      refine ⟨{}, endsAs_step (endsAs_done ?_)⟩
      simp [EngineTask.advance, RuleRequest.edit, SharedEngine.left, ServiceState.shared,
        DomainRouting.shared, hasked,
        Except.toOption]
  | ok asked =>
      dsimp only
      let edit := asked.edit service.ctx.config answers.saved.toBool
      have hrequest : ∀ steps : StepAnswers,
          (EngineTask.request (.change request answers)).advance env steps
            ((service.shared clock).left (some (.request (.change request answers))) []) =
          ((service.shared clock).left (some (.request (.change request answers))) [],
            some (.set edit)) := by
        intro steps
        simp [EngineTask.advance, RuleRequest.edit, SharedEngine.left, ServiceState.shared,
        DomainRouting.shared, hasked,
          Except.toOption, edit, RuleChange.edit]
      have hset : ∀ steps : StepAnswers,
          (EngineTask.set edit).advance env steps
            ((service.shared clock).left (some (.set edit)) []) =
          (SharedEngine.left { service.shared clock with config := asked.cfg }
            (some (.set edit)) [], if answers.saved.toBool then some (.build edit) else none) :=
        fun _ => rfl
      have hexit := changeRules_exit env fromCidr asked.cfg answers asked.rebuild
        (asked.taken service)
      revert hexit
      generalize (exec (ServiceState.changeRules env fromCidr asked.cfg answers asked.rebuild)
        (asked.taken service)).1 = response
      generalize (exec (ServiceState.changeRules env fromCidr asked.cfg answers asked.rebuild)
        (asked.taken service)).2 = after
      intro hexit
      cases hexit with
      | notSaved hsaved =>
          rw [hsaved] at hset
          exact ⟨{}, endsAs_next (hrequest _) (endsAs_next (hset _) (endsAs_done rfl))⟩
      | unbuildable hsaved hbuilt =>
          rw [hsaved] at hset
          refine ⟨{}, endsAs_next (hrequest _) (endsAs_next (hset _) ?_)⟩
          exact unbuildable_endsAs hbuilt rfl rfl
      | @applied engine _ hsaved hbuilt hexec =>
          rw [hsaved] at hset
          refine ⟨asked.stepAnswers false, endsAs_next (hrequest _) (endsAs_next (hset _) ?_)⟩
          refine changed_endsAs hbuilt (hmoment asked · hasked) ?_
          rw [shared_of_same (sameRules_of_exec env fromCidr hexec)]
          exact apply_endsAs (by rw [stepAnswers_fails]; rfl)
      | @rolledBack engine _ failed hsaved hbuilt hexec =>
          rw [hsaved] at hset
          refine ⟨asked.stepAnswers true, endsAs_next (hrequest _) (endsAs_next (hset _) ?_)⟩
          refine changed_endsAs hbuilt (hmoment asked · hasked) ?_
          rw [← shared_of_same (sameRules_of_exec env fromCidr hexec)]
          exact rollback_endsAs (by rw [stepAnswers_fails]; rfl)

theorem restored_endsAs {cfg : AppConfig} {edit : Edit} (hcfg : edit.cfg = cfg)
    (hrebuilds : edit.rebuilds = false)
    (hbuilt : (∃ engine, RoutingEngine.fromConfig env cfg = .ok engine) ∨ edit.goesOn = true)
    {after : ServiceState} (hsame : SameRules (service.restored env cfg) after) :
    EndsAs env {} (SharedEngine.left { service.shared clock with config := cfg }
      (some (.build edit)) []) (after.shared clock) := by
  rw [shared_of_same hsame]
  subst hcfg
  cases hcase : RoutingEngine.fromConfig env edit.cfg with
  | ok engine =>
      refine install_endsAs hcase ?_
      rw [hrebuilds]
      have hrestored : (service.restored env edit.cfg).shared clock =
          { service.shared clock with config := edit.cfg, engine := engine } := by
        rw [ServiceState.restored, hcase]
        rfl
      rw [hrestored]
      exact apply_endsAs rfl
  | error e =>
      have hgoesOn : edit.goesOn = true := by
        refine hbuilt.resolve_left fun hex => ?_
        obtain ⟨engine, hengine⟩ := hex
        rw [hcase] at hengine
        cases hengine
      have hrestored : (service.restored env edit.cfg).shared clock =
          { service.shared clock with config := edit.cfg } := by
        rw [ServiceState.restored, hcase]
        rfl
      have hbuild : (EngineTask.build edit).advance env {} (SharedEngine.left
          { service.shared clock with config := edit.cfg } (some (.build edit)) []) =
          (SharedEngine.left { service.shared clock with config := edit.cfg }
            (some (.build edit)) [], some (.apply edit)) := by
        simp [EngineTask.advance, hcase, hgoesOn]
      rw [hrestored]
      exact endsAs_next hbuild (apply_endsAs rfl)

theorem configSet_endsAs (toml : Option (Except RouteGuardError AppConfig))
    (answers : ChangeAnswers) :
    EndsAs env {} ((service.shared clock).step env (.start (.edit (.configSet toml answers))))
      ((exec (ServiceState.handleConfigSet env fromCidr toml answers) service).2.shared clock) := by
  have hstart : (service.shared clock).step env (.start (.edit (.configSet toml answers))) =
      (service.shared clock).left (some (.request (.configSet toml answers))) [] := rfl
  rw [hstart]
  match toml with
  | none => exact endsAs_step (endsAs_done rfl)
  | some (.error e) => exact endsAs_step (endsAs_done rfl)
  | some (.ok cfg) =>
      obtain ⟨saved, apply⟩ := answers
      refine endsAs_step (endsAs_step ?_)
      rw [exec_configSet]
      cases saved with
      | error e => exact endsAs_done rfl
      | ok _ =>
          exact restored_endsAs rfl rfl (Or.inr rfl) (applySplitPolicy_sameRules
            (service.restored env cfg) env fromCidr apply _ (SameRules.refl _))

theorem reload_endsAs (load : Except RouteGuardError AppConfig) (answers : ApplyAnswers) :
    EndsAs env {} ((service.shared clock).step env (.start (.edit (.reload load answers))))
      ((exec (ServiceState.handleRoutingReload env fromCidr load answers) service).2.shared
        clock) := by
  have hstart : (service.shared clock).step env (.start (.edit (.reload load answers))) =
      (service.shared clock).left (some (.request (.reload load answers))) [] := rfl
  rw [hstart]
  cases load with
  | error e => exact endsAs_step (endsAs_done rfl)
  | ok cfg =>
      refine endsAs_step (endsAs_step ?_)
      rw [ServiceState.handleRoutingReload, orReply, exec_mapError, exec_reload]
      cases hbuilt : RoutingEngine.fromConfig env cfg with
      | error e => exact unbuildable_endsAs hbuilt rfl rfl
      | ok engine =>
          exact restored_endsAs rfl rfl (Or.inl ⟨engine, hbuilt⟩) (applySplitPolicy_sameRules
            (service.restored env cfg) env fromCidr answers _ (SameRules.refl _))

end Requests

end Alone
end RouteGuard
