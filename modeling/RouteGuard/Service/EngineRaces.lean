import Mathlib.Data.List.Perm.Basic
import RouteGuard.Service.EngineTasks

/-! # The engine's cache against the domain store

What an interleaving of DNS answers, purges, readers and rule changes does to
the copy of the store that the engine answers from. -/
set_option autoImplicit false
namespace RouteGuard

open HashTable GuardedRun

/-! ## The cache against the store -/

namespace SharedEngine

/-- The cache answers for every address as if it had just been synced. -/
def AsSynced (s : SharedEngine) : Prop := ∀ walk ip,
  s.engine.snapshot.domainCache.lookupIp s.clock ip =
    (s.engine.syncDomainStore walk s.clock s.store).snapshot.domainCache.lookupIp s.clock ip

def Agrees (s : SharedEngine) : Prop := ∀ ip,
  s.engine.snapshot.domainCache.lookupIp s.clock ip = s.store.lookupIp s.clock.nowUnix ip

theorem asSynced_iff {s : SharedEngine} (hs : s.store.Reached) : s.AsSynced ↔ s.Agrees := by
  constructor
  · intro h ip
    rw [h .identity ip, RoutingEngine.syncDomainStore_lookup .identity s.clock s.engine hs]
  · intro h walk ip
    rw [h ip, RoutingEngine.syncDomainStore_lookup walk s.clock s.engine hs]

end SharedEngine

/-- A sync is still to come from the task. -/
def EngineTask.syncs : EngineTask → Bool
  | .applyAnswer _ _ _ _ => true
  | .sync _ => true
  | .locked _ => true
  | .install _ edit => edit.rebuilds
  | .rebuild _ => true
  | _ => false

def Pending (tasks : List EngineTask) : Prop := ∃ task ∈ tasks, task.syncs = true

section Pending
variable {tasks others : List EngineTask} {task : EngineTask} {index : Nat}

theorem pending_split (h : tasks[index]? = some task) :
    Pending tasks ↔ task.syncs = true ∨ Pending (tasks.eraseIdx index) := by
  obtain ⟨hlt, rfl⟩ := List.getElem?_eq_some_iff.mp h
  have hperm := List.getElem_cons_eraseIdx_perm hlt
  simp only [Pending, ← hperm.mem_iff, List.mem_cons, exists_eq_or_imp]

theorem pending_append (first second : List EngineTask) :
    Pending (first ++ second) ↔ Pending first ∨ Pending second := by
  simp only [Pending, List.mem_append, or_and_right, exists_or]

end Pending

namespace SharedEngine

/-- What holds in the middle of things: the cache answers as the store does, or will be synced. -/
def Tracks (s : SharedEngine) : Prop := s.Agrees ∨ Pending s.tasks

/-- The engines that tasks are about to install have cached no address. -/
structure Kept (s : SharedEngine) : Prop where
  reached : s.store.Reached
  fresh : ∀ task ∈ s.tasks, ∀ engine ∈ task.brings, ∀ clock ip,
    engine.snapshot.domainCache.lookupIp clock ip = none

def NothingLive (s : SharedEngine) : Prop := ∀ ip, s.store.entryForIp s.clock.nowUnix ip = none

/-- Up to that time, an entry is live as long as the cache has its address listed. -/
def EndsTogether (s : SharedEngine) (nanos : Nat) : Prop :=
  ∀ ip e, s.store.entryForIp s.clock.nowUnix ip = some e →
    (s.engine.snapshot.domainCache.listed (s.clock.advance nanos) ip = true ↔
      (s.clock.advance nanos).nowUnix < e.expiresAt)

end SharedEngine

/-- The step does no harm that is not repaired: a sync finds the lock free, and an engine that is
installed without a sync to follow finds nothing live, unless another task is still to sync. -/
def EngineTask.Repaired (s : SharedEngine) (others : List EngineTask) : EngineTask → Prop
  | .sync _ => s.unlocked = true ∨ s.Agrees ∨ Pending others
  | .install _ edit => s.writable = true → edit.rebuilds = true ∨ s.NothingLive ∨ Pending others
  | .reinstall _ => s.writable = true → s.NothingLive ∨ Pending others
  | _ => True

def SharedEngine.KeepsTrack (s : SharedEngine) : SharedEvent → Prop
  | .start _ => True
  | .advance index _ =>
      ∀ task, s.tasks[index]? = some task → task.Repaired s (s.tasks.eraseIdx index)
  | .tick nanos => Pending s.tasks ∨ s.EndsTogether nanos

/-! ### Steps of a task -/

section Advance
variable {env : Externals} {answers : StepAnswers} {s : SharedEngine} {task : EngineTask}

theorem advance_reached (hs : s.store.Reached) :
    (task.advance env answers s).1.store.Reached := by
  cases task with
  | applyAnswer domain records rule nonempty =>
      exact hs.step ⟨.applyResolved domain records rule nonempty, s.clock.nowUnix, answers.order⟩
  | purge => exact hs.step ⟨.purgeExpired, s.clock.nowUnix, answers.order⟩
  | rebuild edit =>
      exact (hs.step ⟨.setRules edit.cfg.routing.domainRules, 0, .identity⟩).step
        ⟨.pruneUnmatchedRules, 0, answers.order⟩
  | answer domain records =>
      rw [EngineTask.advance]
      split
      · exact hs
      · split <;> exact hs
  | build edit =>
      rw [EngineTask.advance]
      split
      · exact hs
      · split <;> exact hs
  | install engine edit =>
      rw [EngineTask.advance]
      split <;> exact hs
  | reinstall engine =>
      rw [EngineTask.advance]
      split <;> exact hs
  | _ => exact hs

/-- The engine that a task brings is one it was bringing before, or one it has just built. -/
theorem advance_brings {rest : EngineTask} (hrest : (task.advance env answers s).2 = some rest)
    {engine : RoutingEngine} (hbrings : rest.brings = some engine) :
    task.brings = some engine ∨ ∃ cfg, RoutingEngine.fromConfig env cfg = .ok engine := by
  cases task with
  | build edit =>
      cases hbuilt : RoutingEngine.fromConfig env edit.cfg with
      | ok built =>
          simp only [EngineTask.advance, hbuilt, Option.some.injEq] at hrest
          subst hrest
          cases hbrings
          exact Or.inr ⟨edit.cfg, hbuilt⟩
      | error e =>
          simp only [EngineTask.advance, hbuilt] at hrest
          split at hrest <;> cases hrest
          cases hbrings
  | restored =>
      cases hbuilt : RoutingEngine.fromConfig env s.config with
      | ok built =>
          simp only [EngineTask.advance, hbuilt] at hrest
          cases hrest
          cases hbrings
          exact Or.inr ⟨s.config, hbuilt⟩
      | error e =>
          simp only [EngineTask.advance, hbuilt] at hrest
          cases hrest
  | install built edit =>
      rw [EngineTask.advance] at hrest
      split at hrest
      · split at hrest <;> cases hrest <;> cases hbrings
      · cases hrest
        exact Or.inl hbrings
  | reinstall built =>
      rw [EngineTask.advance] at hrest
      split at hrest
      · cases hrest
      · cases hrest
        exact Or.inl hbrings
  | sync next =>
      simp only [EngineTask.advance] at hrest
      split at hrest
      · cases hrest
        cases hbrings
      · obtain ⟨edit, _, rfl⟩ := Option.map_eq_some_iff.mp hrest
        cases hbrings
  | synced next =>
      obtain ⟨edit, _, rfl⟩ := Option.map_eq_some_iff.mp hrest
      cases hbrings
  | request asked =>
      obtain ⟨edit, _, rfl⟩ := Option.map_eq_some_iff.mp hrest
      cases hbrings
  | _ =>
      simp only [EngineTask.advance] at hrest
      grind [EngineTask.brings]

theorem purgeExpired_entry (o : Order) (now : Nat) (store : DomainRouteStore) (ip : IpAddr) :
    (store.purgeExpired o now).2.entryForIp now ip = store.entryForIp now ip := by
  let call : DomainRouteStore.Call := ⟨.purgeExpired, now, o⟩
  have hop : call.op = .purgeExpired := rfl
  have hget : (store.purgeExpired o now).2.byIp.get ip =
      (store.byIp.get ip).filter fun e => decide (now < e.expiresAt) :=
    DomainRouteStore.purgeExpired_get (s := store) ip hop
  simp only [DomainRouteStore.entryForIp, hget]
  cases store.byIp.get ip with
  | none => rfl
  | some e =>
      simp only [Option.filter]
      by_cases hlive : now < e.expiresAt <;> simp [hlive]

section Rest
variable {after : SharedEngine} {rest : Option EngineTask} {others : List EngineTask} {index : Nat}

theorem tracks_of_syncs {next : EngineTask} (h : next.syncs = true) :
    (after.left (some next) others).Tracks :=
  Or.inr ((pending_append _ _).mpr (Or.inl ⟨next, List.mem_singleton.mpr rfl, h⟩))

theorem pending_rest (hrest : ∀ next, rest = some next → next.syncs = false) :
    Pending (rest.toList ++ others) ↔ Pending others := by
  rw [pending_append]
  refine or_iff_right fun hleft => ?_
  obtain ⟨next, hmem, hsyncs⟩ := hleft
  rw [hrest next (Option.mem_toList.mp hmem)] at hsyncs
  cases hsyncs

/-- A step that shows in no lookup, of a task that was not going to sync. -/
theorem tracks_of_same (htracks : s.Tracks) (hget : s.tasks[index]? = some task)
    (hnot : task.syncs = false) (hclock : after.clock = s.clock) (hengine : after.engine = s.engine)
    (hstore : ∀ ip, after.store.entryForIp s.clock.nowUnix ip =
      s.store.entryForIp s.clock.nowUnix ip) :
    (after.left rest (s.tasks.eraseIdx index)).Tracks := by
  rcases htracks with hagrees | hpending
  · refine Or.inl fun ip => ?_
    have hsame := hagrees ip
    simp only [SharedEngine.left, hclock, hengine, DomainRouteStore.lookupIp, hstore] at hsame ⊢
    exact hsame
  · rw [pending_split hget, hnot] at hpending
    exact Or.inr ((pending_append _ _).mpr (Or.inr (hpending.resolve_left Bool.false_ne_true)))

/-- A new engine agrees with a store in which nothing is live. -/
theorem tracks_fresh_iff {engine : RoutingEngine}
    (hfresh : ∀ clock ip, engine.snapshot.domainCache.lookupIp clock ip = none)
    (hrest : ∀ next, rest = some next → next.syncs = false) :
    (SharedEngine.left { s with engine := engine } rest others).Tracks ↔
      s.NothingLive ∨ Pending others := by
  refine or_congr ?_ (pending_rest hrest)
  refine forall_congr' fun ip => ?_
  simp only [SharedEngine.left, hfresh, DomainRouteStore.lookupIp]
  rw [eq_comm, Option.map_eq_none_iff]

end Rest

/-- After a step of a task the cache is on track exactly where the step does no harm that is not
repaired. -/
theorem advance_tracks_iff {index : Nat} (hkept : s.Kept) (htracks : s.Tracks)
    (hget : s.tasks[index]? = some task) :
    ((task.advance env answers s).1.left (task.advance env answers s).2
      (s.tasks.eraseIdx index)).Tracks ↔ task.Repaired s (s.tasks.eraseIdx index) := by
  cases task with
  | answer domain records =>
      refine iff_of_true ?_ trivial
      rw [EngineTask.advance]
      split
      · exact tracks_of_same htracks hget rfl rfl rfl fun _ => rfl
      · split
        · exact tracks_of_same htracks hget rfl rfl rfl fun _ => rfl
        · exact tracks_of_syncs rfl
  | applyAnswer domain records rule nonempty => exact iff_of_true (tracks_of_syncs rfl) trivial
  | purge =>
      refine iff_of_true ?_ trivial
      exact tracks_of_same htracks hget rfl rfl rfl
        (purgeExpired_entry answers.order s.clock.nowUnix s.store)
  | sync next =>
      simp only [EngineTask.advance, EngineTask.Repaired]
      split
      · rename_i hunlocked
        exact iff_of_true (tracks_of_syncs rfl) (Or.inl hunlocked)
      · rename_i hheld
        rw [or_iff_right hheld]
        refine or_congr Iff.rfl (pending_rest ?_)
        intro later hlater
        obtain ⟨edit, _, rfl⟩ := Option.map_eq_some_iff.mp hlater
        rfl
  | locked next =>
      refine iff_of_true (Or.inl fun ip => ?_) trivial
      exact RoutingEngine.syncDomainStore_lookup answers.walk s.clock s.engine hkept.reached ip
  | install engine edit =>
      have hfresh := hkept.fresh _ (List.mem_of_getElem? hget) engine rfl
      simp only [EngineTask.advance, EngineTask.Repaired]
      cases hrebuilds : edit.rebuilds with
      | true =>
          refine iff_of_true ?_ fun _ => Or.inl rfl
          split <;> exact tracks_of_syncs (by simp [EngineTask.syncs, hrebuilds])
      | false =>
          split
          · rename_i hwritable
            rw [forall_prop_of_true hwritable, or_iff_right Bool.false_ne_true]
            exact tracks_fresh_iff hfresh fun next hnext => by cases hnext; rfl
          · rename_i hheld
            refine iff_of_true ?_ fun hwritable => absurd hwritable hheld
            exact tracks_of_same htracks hget hrebuilds rfl rfl fun _ => rfl
  | reinstall engine =>
      have hfresh := hkept.fresh _ (List.mem_of_getElem? hget) engine rfl
      simp only [EngineTask.advance, EngineTask.Repaired]
      split
      · rename_i hwritable
        rw [forall_prop_of_true hwritable]
        exact tracks_fresh_iff hfresh fun next hnext => by cases hnext
      · rename_i hheld
        refine iff_of_true ?_ fun hwritable => absurd hwritable hheld
        exact tracks_of_same htracks hget rfl rfl rfl fun _ => rfl
  | rebuild edit => exact iff_of_true (tracks_of_syncs rfl) trivial
  | build edit =>
      refine iff_of_true ?_ trivial
      rw [EngineTask.advance]
      split
      · exact tracks_of_same htracks hget rfl rfl rfl fun _ => rfl
      · split <;> exact tracks_of_same htracks hget rfl rfl rfl fun _ => rfl
  | _ => exact iff_of_true (tracks_of_same htracks hget rfl rfl rfl fun _ => rfl) trivial

end Advance

/-! ### Time -/

section Tick
variable {s : SharedEngine}

theorem listed_earlier {cache : DomainCache} {clock : Clock} {nanos : Nat} {ip : IpAddr}
    (h : cache.listed (clock.advance nanos) ip = true) : cache.listed clock ip = true := by
  simp only [DomainCache.listed, List.any_eq_true, Bool.and_eq_true, decide_eq_true_eq] at h ⊢
  obtain ⟨row, hmem, hlive, hip⟩ := h
  exact ⟨row, hmem, (Nat.le_add_right clock.mono nanos).trans_lt hlive, hip⟩

theorem cached_none_later {cache : DomainCache} {clock : Clock} {ip : IpAddr}
    (h : cache.lookupIp clock ip = none) (nanos : Nat) :
    cache.lookupIp (clock.advance nanos) ip = none := by
  unfold DomainCache.lookupIp at h ⊢
  cases hindex : cache.ipIndex.get ip with
  | none => rfl
  | some target =>
      simp only [hindex] at h ⊢
      have hunlisted : ¬ cache.listed clock ip = true := by
        intro hlisted
        rw [if_pos hlisted] at h
        cases h
      rw [if_neg fun hlater => hunlisted (listed_earlier hlater)]

theorem cached_some_later {cache : DomainCache} {clock : Clock} {ip : IpAddr} {target : RouteTarget}
    (h : cache.lookupIp clock ip = some target) (later : Clock) :
    cache.lookupIp later ip = if cache.listed later ip = true then some target else none := by
  unfold DomainCache.lookupIp at h ⊢
  cases hindex : cache.ipIndex.get ip with
  | none => simp [hindex] at h
  | some indexed =>
      simp only [hindex] at h ⊢
      split at h <;> cases h
      rfl

theorem entryForIp_some_later {store : DomainRouteStore} {now : Nat} {ip : IpAddr}
    {e : ResolvedIpEntry} (h : store.entryForIp now ip = some e) (later : Nat) :
    store.entryForIp later ip = if later < e.expiresAt then some e else none := by
  unfold DomainRouteStore.entryForIp at h ⊢
  cases hget : store.byIp.get ip with
  | none => simp [hget] at h
  | some found =>
      simp only [hget] at h ⊢
      split at h <;> cases h
      by_cases hlive : later < e.expiresAt
      · rw [if_pos hlive, if_neg (Nat.not_le.mpr hlive)]
      · rw [if_neg hlive, if_pos (Nat.not_lt.mp hlive)]

/-- Time keeps the cache in agreement exactly where the entries and their records end together. -/
theorem ticked_agrees_iff (hagrees : s.Agrees) (nanos : Nat) :
    SharedEngine.Agrees { s with clock := s.clock.advance nanos } ↔ s.EndsTogether nanos := by
  have hcached : ∀ ip e, s.store.entryForIp s.clock.nowUnix ip = some e →
      s.engine.snapshot.domainCache.lookupIp s.clock ip = some e.target := by
    intro ip e hentry
    rw [hagrees ip, DomainRouteStore.lookupIp, hentry]
    rfl
  constructor
  · intro hafter ip e hentry
    have hsame := hafter ip
    simp only [DomainRouteStore.lookupIp, cached_some_later (hcached ip e hentry),
      entryForIp_some_later hentry] at hsame
    by_cases hlive : (s.clock.advance nanos).nowUnix < e.expiresAt
    · simpa [hlive] using hsame
    · simpa [hlive] using hsame
  · intro hends ip
    cases hentry : s.store.entryForIp s.clock.nowUnix ip with
    | none =>
        have hnone : s.engine.snapshot.domainCache.lookupIp s.clock ip = none := by
          rw [hagrees ip, DomainRouteStore.lookupIp, hentry]
          rfl
        have hle : s.clock.nowUnix ≤ (s.clock.advance nanos).nowUnix :=
          Nat.div_le_div_right (Nat.le_add_right s.clock.wall nanos)
        simp only [cached_none_later hnone, DomainRouteStore.lookupIp,
          DomainRouteStore.entryForIp_none_later hle hentry, Option.map_none]
    | some e =>
        have hiff := hends ip e hentry
        simp only [DomainRouteStore.lookupIp, cached_some_later (hcached ip e hentry),
          entryForIp_some_later hentry, hiff]
        split <;> rfl

end Tick

/-! ## Runs -/

section Runs
variable (env : Externals) {s : SharedEngine}

theorem SharedEngine.step_kept (s : SharedEngine) (event : SharedEvent) (h : s.Kept) :
    (s.step env event).Kept := by
  cases event with
  | start start =>
      refine ⟨h.reached, ?_⟩
      intro task hmem engine hbrings
      rcases List.mem_cons.mp hmem with rfl | hold
      · cases start <;> cases hbrings
      · exact h.fresh task hold engine hbrings
  | tick nanos => exact ⟨h.reached, h.fresh⟩
  | advance index answers =>
      cases hget : s.tasks[index]? with
      | none =>
          rw [step_missing hget]
          exact h
      | some task =>
          rw [step_advance hget]
          refine ⟨advance_reached h.reached, ?_⟩
          intro next hmem engine hbrings clock ip
          rcases List.mem_append.mp hmem with hrest | hold
          · rcases advance_brings (Option.mem_toList.mp hrest) hbrings with hbefore | ⟨cfg, hbuilt⟩
            · exact h.fresh task (List.mem_of_getElem? hget) engine hbefore clock ip
            · exact RoutingEngine.fromConfig_lookup hbuilt clock ip
          · exact h.fresh next (List.mem_of_mem_eraseIdx hold) engine hbrings clock ip

/-- The cache is still on track after a step exactly where the step meets the condition. -/
theorem SharedEngine.step_tracks_iff (s : SharedEngine) (event : SharedEvent) (hkept : s.Kept)
    (htracks : s.Tracks) : (s.step env event).Tracks ↔ s.KeepsTrack event := by
  cases event with
  | start start =>
      refine iff_of_true (htracks.imp (fun hagrees => hagrees) fun hpending => ?_) trivial
      obtain ⟨task, hmem, hsyncs⟩ := hpending
      exact ⟨task, List.mem_cons_of_mem _ hmem, hsyncs⟩
  | tick nanos =>
      by_cases hpending : Pending s.tasks
      · exact iff_of_true (Or.inr hpending) (Or.inl hpending)
      · have hagrees := htracks.resolve_right hpending
        exact (or_iff_left hpending).trans
          ((ticked_agrees_iff hagrees nanos).trans (or_iff_right hpending).symm)
  | advance index answers =>
      cases hget : s.tasks[index]? with
      | none =>
          rw [step_missing hget]
          exact iff_of_true htracks fun task hsome => by simp [hget] at hsome
      | some task =>
          rw [step_advance hget, advance_tracks_iff hkept htracks hget]
          simp only [SharedEngine.KeepsTrack, hget, Option.some.injEq, forall_eq']

variable {env}

/-- A rebuild that finds the engine free ends in agreement. -/
theorem rebuildRules_agrees {at_ : Moment} (hfree : at_.engineFree = true) {w : DomainRouting}
    (hreached : w.store.Reached) (rules : List DomainRule) :
    (w.rebuildRules at_ rules).store.Reached ∧
      ∀ ip, (w.rebuildRules at_ rules).engine.snapshot.domainCache.lookupIp at_.clock ip =
        (w.rebuildRules at_ rules).store.lookupIp at_.clock.nowUnix ip := by
  have hstore := (w.rebuildRules_effect at_ rules).2.store
  have hpruned : ((w.store.setRules rules).pruneUnmatchedRules at_.order).2.Reached :=
    (hreached.step ⟨.setRules rules, 0, .identity⟩).step ⟨.pruneUnmatchedRules, 0, at_.order⟩
  rw [hstore]
  refine ⟨hpruned, fun ip => ?_⟩
  simp only [DomainRouting.rebuildRules, DomainRouting.syncEngine, if_pos hfree,
    (DomainRouting.emitRouteExpired_foldl _ _).2.store]
  exact RoutingEngine.syncDomainStore_lookup at_.walk at_.clock _ hpruned ip

/-- The start ends with a sync, which finds the engine free. -/
theorem new_agrees {at_ : Moment} {config : AppConfig} {loaded : Option DomainRouteStore} {os : Os}
    {lock : LockContext} {driver : Bool} {service : ServiceState}
    (h : ServiceState.new env at_ config loaded os lock driver = .ok service)
    (hfree : at_.engineFree = true)
    (hloaded : ∀ store, loaded = some store → DomainRouteStore.Initial store) :
    (service.shared at_.clock).Kept ∧ (service.shared at_.clock).Agrees := by
  obtain ⟨engine, store, domain, -, rfl, hdomain⟩ := ServiceState.new_cases h
  have hreached : domain.store.Reached := by
    rcases hdomain with ⟨limits, -, rfl, rfl⟩ | ⟨hstore, rfl⟩
    · exact ⟨_, [], .new limits, rfl⟩
    · rw [(DomainRouting.syncEngine_frame _ at_).store]
      exact ⟨store, [], hloaded store hstore, rfl⟩
  obtain ⟨hstore, hlookup⟩ := rebuildRules_agrees hfree hreached config.routing.domainRules
  exact ⟨⟨hstore, fun _ hmem => by cases hmem⟩, hlookup⟩

/-- The steps of a run in which nothing is lost: each sync finds the lock free, and each engine is
synced once it is installed. -/
def EngineTask.safe (s : SharedEngine) : EngineTask → Bool
  | .sync _ => s.unlocked
  | .install _ edit => edit.rebuilds
  | .reinstall _ => false
  | _ => true

def SharedEngine.safe (s : SharedEngine) : SharedEvent → Bool
  | .start _ => true
  | .advance index _ => s.tasks[index]?.all (EngineTask.safe s)
  | .tick _ => s.tasks.any EngineTask.syncs

theorem keepsTrack_of_safe (s : SharedEngine) (event : SharedEvent) (h : s.safe event = true) :
    s.KeepsTrack event := by
  cases event with
  | start start => trivial
  | tick nanos => exact Or.inl (List.any_eq_true.mp h)
  | advance index answers =>
      intro task hget
      simp only [SharedEngine.safe, hget, Option.all_some] at h
      cases task with
      | sync next => exact Or.inl h
      | install engine edit => exact fun _ => Or.inl h
      | reinstall engine => cases h
      | _ => trivial

/-- The cache is on track all along exactly in the runs whose steps meet the condition. -/
theorem run_tracks_iff (hkept : s.Kept) (htracks : s.Tracks) (events : List SharedEvent) :
    (∀ first, first <+: events → (run (SharedEngine.step env) s first).Tracks) ↔
      Guarded (SharedEngine.step env) SharedEngine.KeepsTrack s events :=
  holds_throughout_iff (SharedEngine.step env) SharedEngine.KeepsTrack
    (SharedEngine.step_kept env) (SharedEngine.step_tracks_iff env) events s hkept htracks

/-- Whenever no task is in progress, the cache answers as if it had just been synced. -/
theorem run_asSynced {at_ : Moment} {config : AppConfig} {loaded : Option DomainRouteStore}
    {os : Os} {lock : LockContext} {driver : Bool} {service : ServiceState}
    (h : ServiceState.new env at_ config loaded os lock driver = .ok service)
    (hfree : at_.engineFree = true)
    (hloaded : ∀ store, loaded = some store → DomainRouteStore.Initial store)
    {events : List SharedEvent}
    (hguarded : Guarded (SharedEngine.step env) SharedEngine.KeepsTrack
      (service.shared at_.clock) events) :
    ∀ first, first <+: events →
      (run (SharedEngine.step env) (service.shared at_.clock) first).tasks = [] →
      (run (SharedEngine.step env) (service.shared at_.clock) first).AsSynced := by
  intro first hpre hquiet
  obtain ⟨hkept, hagrees⟩ := new_agrees h hfree hloaded
  have htracks := (run_tracks_iff hkept (Or.inl hagrees) events).mpr hguarded first hpre
  have hkept' := run_keeps _ (SharedEngine.step_kept env) first _ hkept
  refine (SharedEngine.asSynced_iff hkept'.reached).mpr (htracks.resolve_right ?_)
  rintro ⟨task, hmem, _⟩
  rw [hquiet] at hmem
  cases hmem

end Runs

/-! ## An engine installed after an answer -/

def domainConfig : AppConfig := { routing := { domainRules := [⟨10, "*.example.com", .bypass⟩] } }

def domainService : ServiceState where
  ctx :=
    { config := domainConfig
      domain :=
        { store := { rules := [⟨10, "*.example.com", .bypass⟩], generation := 1 }
          engine := ⟨⟨.fullTunnel, ⟨[], []⟩, ⟨[]⟩, ⟨[⟨10, "*.example.com", .bypass⟩], ∅, ∅⟩⟩⟩
          routes := {} } }
  lock := { session := { engine := WfpEngine.empty } }

theorem domainService_new : ServiceState.new .asciiIpv4 midnight domainConfig none {}
    { session := { engine := WfpEngine.empty } } false = .ok domainService := rfl

def answered : List SharedEvent :=
  .start (.dnsResponse "www.example.com" [(ipv4 1 2 3 4, 300)]) :: List.replicate 5 (.advance 0 {})

def ruleAdded : List SharedEvent :=
  .start (.edit (.change addBrowser ⟨.ok (), calmAnswers⟩)) :: List.replicate 6 (.advance 0 {})

def rulesImported : List SharedEvent :=
  .start (.edit (.change (.importRules
      (.ok { domainRules := [⟨"*.example.com", "bypass", some 10, true⟩] }) midnight)
    ⟨.ok (), calmAnswers⟩)) :: List.replicate 10 (.advance 0 {})

theorem run_asSynced_imported :
    (run (SharedEngine.step .asciiIpv4) (domainService.shared midnight.clock)
      (answered ++ rulesImported)).AsSynced :=
  run_asSynced domainService_new rfl (fun _ hsome => by cases hsome)
    (guarded_mono _ (fun s event => s.safe event = true) keepsTrack_of_safe _ _
      (by decide +kernel)) _ (List.prefix_refl _)
    (List.eq_nil_of_length_eq_zero (by decide +kernel))

/-- The new engine has not been told of the answer. -/
theorem ruleAdded_forgets : ServiceState.new .asciiIpv4 midnight domainConfig none {}
      { session := { engine := WfpEngine.empty } } false = .ok domainService ∧
    ¬∀ events : List SharedEvent,
      (run (SharedEngine.step .asciiIpv4) (domainService.shared midnight.clock) events).tasks = [] →
      (run (SharedEngine.step .asciiIpv4) (domainService.shared midnight.clock)
        events).AsSynced := by
  refine ⟨rfl, fun hall => ?_⟩
  have hquiet : (run (SharedEngine.step .asciiIpv4) (domainService.shared midnight.clock)
      (answered ++ ruleAdded)).tasks = [] := List.eq_nil_of_length_eq_zero (by decide +kernel)
  exact absurd (hall _ hquiet .identity (ipv4 1 2 3 4)) (by decide +kernel)

end RouteGuard
