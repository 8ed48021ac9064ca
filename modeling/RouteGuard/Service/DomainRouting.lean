import RouteGuard.Platform.RouteSpecs
import RouteGuard.Routing.AnswerDiff
import RouteGuard.Service.BuildPolicy

/-! # The domain routing manager

The methods of `DomainRoutingManager`, with the host routes of the session and
the policy the service caches.  Route errors are dropped, as `let _ =` drops
them.  The cache file is left out: no method here reads it. -/
set_option autoImplicit false
namespace RouteGuard

open HashTable Fallible

inductive RoutingEvent where
  | domainRouteAdded (ip : IpAddr) (domain : String) (target : RouteTarget) (expiresAt : Nat)
  | domainRouteExpired (ip : IpAddr) (domain : String)
  | dnsResolved (domain : String) (ips : List IpAddr) (ttlSecs : Nat) (pattern : String)
      (target : RouteTarget)
deriving DecidableEq, Repr

/-- The readings one call makes: the clocks, the walks over the maps of the store, the cache
and the session, and whether `try_write` finds the engine unlocked. -/
structure Moment where
  clock : Clock
  order : Order := .identity
  walk : Order := .identity
  routeOrder : Order := .identity
  engineFree : Bool := true

def Moment.now (at_ : Moment) : Nat := at_.clock.nowUnix

/-- `staticBypass` remembers which texts of the cached policy were configured. -/
structure DomainRouting where
  store : DomainRouteStore
  engine : RoutingEngine
  routes : RouteState
  cachedPolicy : Option PolicySnapshot := none
  staticBypass : List String := []
  events : List RoutingEvent := []

namespace DomainRouting

section Methods
variable (w : DomainRouting)

def push (event : RoutingEvent) : DomainRouting := { w with events := w.events ++ [event] }

/-- A route operation whose result is dropped. -/
def attempt {A : Type} (m : RouteProg A) : DomainRouting :=
  { w with routes := (exec m w.routes).2 }

def emitRouteAdded (entry : ResolvedIpEntry) : DomainRouting :=
  w.push (.domainRouteAdded entry.ip entry.domain entry.target entry.expiresAt)

def emitRouteExpired (entry : ResolvedIpEntry) : DomainRouting :=
  w.push (.domainRouteExpired entry.ip entry.domain)

def syncEngine (at_ : Moment) : DomainRouting :=
  if at_.engineFree then { w with engine := w.engine.syncDomainStore at_.walk at_.clock w.store }
  else w

def rebuildRules (at_ : Moment) (rules : List DomainRule) : DomainRouting :=
  let (pruned, store) := (w.store.setRules rules).pruneUnmatchedRules at_.order
  let w := pruned.foldl emitRouteExpired { w with store := store }
  w.syncEngine at_

def installEntry (tunnelIf physicalIf : Nat) (entry : ResolvedIpEntry) : DomainRouting :=
  w.attempt (SessionRoutes.installDomainRoute entry.ip entry.target tunnelIf physicalIf
    entry.expiresAt)

def removeEntry (entry : ResolvedIpEntry) : DomainRouting :=
  (w.attempt (SessionRoutes.removeDomainRoute entry.ip)).emitRouteExpired entry

/-- The host routes of a diff, when some interface is known. -/
def applyDiff (policy : PolicySnapshot) (diff : ApplyDiff) : DomainRouting :=
  let tunnelIf := policy.tunnelIfIndex.getD 0
  let physicalIf := policy.physicalIfIndex.getD 0
  if tunnelIf ≠ 0 ∨ physicalIf ≠ 0 then
    let w := diff.added.foldl
      (fun w entry => (w.installEntry tunnelIf physicalIf entry).emitRouteAdded entry) w
    diff.removed.foldl removeEntry w
  else w

def onDnsResponse (env : Externals) (at_ : Moment) (domain : String)
    (records : List (IpAddr × Nat)) (policy : PolicySnapshot) : DomainRouting :=
  if records.isEmpty then w
  else
    match w.store.matchDomain env domain with
    | none => w
    | some rule =>
        let (diff, store) := w.store.applyResolved at_.order at_.now domain records rule
        let w := ({ w with store := store } : DomainRouting).syncEngine at_
        let w := w.applyDiff policy diff
        if !diff.added.isEmpty || !diff.refreshed.isEmpty then
          w.push (.dnsResolved domain (records.map Prod.fst)
            ((records.head?.map Prod.snd).getD 300) rule.pattern rule.target)
        else w

def purgeExpired (at_ : Moment) : DomainRouting :=
  let (expired, store) := w.store.purgeExpired at_.order at_.now
  let w := { w with store := store }
  if !expired.isEmpty then (expired.foldl removeEntry w).syncEngine at_
  else w.attempt (SessionRoutes.purgeExpiredDomainRoutes at_.routeOrder at_.now)

def clear (at_ : Moment) : DomainRouting :=
  let w := { w with store := w.store.clear }
  (w.attempt (SessionRoutes.clearDomainRoutes at_.routeOrder)).syncEngine at_

/-- Every entry of the store is installed, expired or not. -/
def reinstallRoutesFromCache (at_ : Moment) (policy : PolicySnapshot) : DomainRouting :=
  let tunnelIf := policy.tunnelIfIndex.getD 0
  let physicalIf := policy.physicalIfIndex.getD 0
  if tunnelIf = 0 ∧ physicalIf = 0 then w
  else (at_.order.values w.store.byIp).foldl
    (fun w entry => w.installEntry tunnelIf physicalIf entry) w

/-- The routes of `apply_split_policy` in `handler.rs`; the filters that follow touch none. -/
def applySplitPolicy (env : Externals) (at_ : Moment) (view : PolicyView) :
    Except RouteGuardError Unit × DomainRouting :=
  match buildPolicy env at_.order at_.now view w.engine w.store with
  | .error e => (.error e, w)
  | .ok policy =>
      let w := { w with
        cachedPolicy := some policy
        staticBypass := staticBypassCidrs env view w.engine }
      if view.hasActiveTunnel then
        match exec (SessionRoutes.installSplitRoutes env policy) w.routes with
        | (.error e, routes) => (.error e, { w with routes := routes })
        | (.ok _, routes) =>
            (.ok (), ({ w with routes := routes } : DomainRouting).reinstallRoutesFromCache
              at_ policy)
      else (.ok (), w)

end Methods

/-! ## Runs -/

inductive Op where
  | onDnsResponse (domain : String) (records : List (IpAddr × Nat)) (policy : PolicySnapshot)
  | rebuildRules (rules : List DomainRule)
  | purgeExpired
  | clear
  | reinstallRoutesFromCache (policy : PolicySnapshot)
  | applySplitPolicy (view : PolicyView)

structure Call where
  op : Op
  moment : Moment

def step (env : Externals) (w : DomainRouting) (call : Call) : DomainRouting :=
  match call.op with
  | .onDnsResponse domain records policy => w.onDnsResponse env call.moment domain records policy
  | .rebuildRules rules => w.rebuildRules call.moment rules
  | .purgeExpired => w.purgeExpired call.moment
  | .clear => w.clear call.moment
  | .reinstallRoutesFromCache policy => w.reinstallRoutesFromCache call.moment policy
  | .applySplitPolicy view => (w.applySplitPolicy env call.moment view).2

/-! ## What the methods do to the routes -/

/-- Nothing but routes, engine and events changes. -/
structure Frame (w w' : DomainRouting) : Prop where
  store : w'.store = w.store
  cachedPolicy : w'.cachedPolicy = w.cachedPolicy
  staticBypass : w'.staticBypass = w.staticBypass

theorem Frame.refl (w : DomainRouting) : Frame w w := ⟨rfl, rfl, rfl⟩

theorem Frame.trans {w w' w'' : DomainRouting} (h : Frame w w') (h' : Frame w' w'') : Frame w w'' :=
  ⟨h'.store.trans h.store, h'.cachedPolicy.trans h.cachedPolicy,
    h'.staticBypass.trans h.staticBypass⟩

@[simp]
theorem syncEngine_routes (w : DomainRouting) (at_ : Moment) :
    (w.syncEngine at_).routes = w.routes := by
  unfold syncEngine
  split <;> rfl

theorem syncEngine_frame (w : DomainRouting) (at_ : Moment) : Frame w (w.syncEngine at_) := by
  unfold syncEngine
  split
  · exact ⟨rfl, rfl, rfl⟩
  · exact Frame.refl w

theorem emitRouteExpired_foldl (entries : List ResolvedIpEntry) (w : DomainRouting) :
    (entries.foldl emitRouteExpired w).routes = w.routes ∧
      Frame w (entries.foldl emitRouteExpired w) := by
  induction entries generalizing w with
  | nil => exact ⟨rfl, Frame.refl w⟩
  | cons entry rest ih =>
      obtain ⟨hroutes, hframe⟩ := ih (w.emitRouteExpired entry)
      have hfirst : Frame w (w.emitRouteExpired entry) := ⟨rfl, rfl, rfl⟩
      exact ⟨hroutes, hfirst.trans hframe⟩

/-- The route of an address that has an entry: none for a Block entry. -/
def Serves (route : Option RouteTarget) (target : RouteTarget) : Prop :=
  route = some target ∨ route = none ∧ target = .block

section Effects
variable {w w' : DomainRouting}

structure Installs (w : DomainRouting) (entry : ResolvedIpEntry) (w' : DomainRouting) : Prop where
  healthy : w'.routes.Healthy
  frame : Frame w w'
  others : ∀ ip, ip ≠ entry.ip → w'.routes.targetOf ip = w.routes.targetOf ip
  serves : Serves (w'.routes.targetOf entry.ip) entry.target

theorem installEntry_installs (hw : w.routes.Healthy) (tunnelIf physicalIf : Nat)
    (entry : ResolvedIpEntry) : Installs w entry (w.installEntry tunnelIf physicalIf entry) := by
  obtain ⟨st', hexec, hhealthy, hothers, hroute⟩ := SessionRoutes.installDomainRoute_spec hw
    entry.ip entry.target tunnelIf physicalIf entry.expiresAt
  have hw' : w.installEntry tunnelIf physicalIf entry = { w with routes := st' } := by
    simp only [installEntry, attempt, hexec]
  rw [hw']
  refine ⟨hhealthy, ⟨rfl, rfl, rfl⟩, ?_, ?_⟩
  · intro ip hip
    simp only [RouteState.targetOf, hothers ip hip]
  · rcases hroute with ⟨hsame, expiry, hcovered, _⟩ | hroute
    · exact Or.inl (by simp [RouteState.targetOf, hsame, hcovered])
    · by_cases hblock : entry.target = .block
      · exact Or.inr ⟨by simp [RouteState.targetOf, hroute, SessionRoutes.routeFor, hblock], hblock⟩
      · exact Or.inl (by simp [RouteState.targetOf, hroute, SessionRoutes.routeFor, hblock])

theorem foldl_installs {f : DomainRouting → ResolvedIpEntry → DomainRouting}
    (hf : ∀ w entry, w.routes.Healthy → Installs w entry (f w entry))
    (entries : List ResolvedIpEntry) (hw : w.routes.Healthy) :
    (entries.foldl f w).routes.Healthy ∧ Frame w (entries.foldl f w) ∧
    (∀ ip, ¬ DomainRouteStore.Lists entries ip →
      (entries.foldl f w).routes.targetOf ip = w.routes.targetOf ip) ∧
    ∀ ip target, DomainRouteStore.Lists entries ip →
      (∀ entry ∈ entries, entry.ip = ip → entry.target = target) →
      Serves ((entries.foldl f w).routes.targetOf ip) target := by
  induction entries generalizing w with
  | nil =>
      refine ⟨hw, Frame.refl w, fun _ _ => rfl, ?_⟩
      intro ip target h
      exact absurd h (DomainRouteStore.not_lists_nil ip)
  | cons entry rest ih =>
      have hfirst := hf w entry hw
      obtain ⟨hhealthy, hframe, hsame, hserves⟩ := ih hfirst.healthy
      refine ⟨hhealthy, hfirst.frame.trans hframe, ?_, ?_⟩
      · intro ip hnot
        obtain ⟨hip, hrest⟩ := not_or.mp (mt (DomainRouteStore.lists_cons entry rest ip).mpr hnot)
        have hne : ip ≠ entry.ip := fun heq => hip heq.symm
        rw [List.foldl_cons, hsame ip hrest, hfirst.others ip hne]
      · intro ip target hlists htarget
        by_cases hrest : DomainRouteStore.Lists rest ip
        · refine hserves ip target hrest fun other hmem => ?_
          exact htarget other (List.mem_cons_of_mem _ hmem)
        · have hip : entry.ip = ip :=
            ((DomainRouteStore.lists_cons entry rest ip).mp hlists).resolve_right hrest
          rw [List.foldl_cons, hsame ip hrest, ← hip, ← htarget entry List.mem_cons_self hip]
          exact hfirst.serves

theorem removeEntry_foldl (entries : List ResolvedIpEntry) (hw : w.routes.Healthy) :
    (entries.foldl removeEntry w).routes.Healthy ∧ Frame w (entries.foldl removeEntry w) ∧
    (∀ ip, DomainRouteStore.Lists entries ip →
      (entries.foldl removeEntry w).routes.targetOf ip = none) ∧
    ∀ ip, ¬ DomainRouteStore.Lists entries ip →
      (entries.foldl removeEntry w).routes.targetOf ip = w.routes.targetOf ip := by
  induction entries generalizing w with
  | nil =>
      refine ⟨hw, Frame.refl w, ?_, fun _ _ => rfl⟩
      intro ip h
      exact absurd h (DomainRouteStore.not_lists_nil ip)
  | cons entry rest ih =>
      obtain ⟨st', hexec, hhealthy, hroutes⟩ := SessionRoutes.removeDomainRoute_spec hw entry.ip
      have hstep : (w.removeEntry entry).routes = st' := by
        simp only [removeEntry, attempt, hexec, emitRouteExpired, push]
      obtain ⟨hhealthy', hframe, hnone, hsame⟩ := ih (w := w.removeEntry entry) (hstep ▸ hhealthy)
      have hfirst : Frame w (w.removeEntry entry) := ⟨rfl, rfl, rfl⟩
      refine ⟨hhealthy', hfirst.trans hframe, ?_, ?_⟩
      · intro ip hlists
        by_cases hrest : DomainRouteStore.Lists rest ip
        · exact hnone ip hrest
        · have hip : entry.ip = ip :=
            ((DomainRouteStore.lists_cons entry rest ip).mp hlists).resolve_right hrest
          rw [List.foldl_cons, hsame ip hrest, hstep, RouteState.targetOf, hroutes,
            if_pos hip.symm]
          rfl
      · intro ip hnot
        obtain ⟨hip, hrest⟩ := not_or.mp (mt (DomainRouteStore.lists_cons entry rest ip).mpr hnot)
        have hne : ip ≠ entry.ip := fun heq => hip heq.symm
        rw [List.foldl_cons, hsame ip hrest, hstep, RouteState.targetOf, hroutes, if_neg hne]
        rfl

/-- Both interfaces of the policy are known; 0 stands for an unknown one. -/
def InterfacesKnown (policy : PolicySnapshot) : Prop :=
  ∃ tunnelIf physicalIf, policy.tunnelIfIndex = some tunnelIf ∧
    policy.physicalIfIndex = some physicalIf ∧ tunnelIf ≠ 0 ∧ physicalIf ≠ 0

/-- The routes after a diff whose additions have one target. -/
structure Follows (w : DomainRouting) (diff : ApplyDiff) (target : RouteTarget)
    (w' : DomainRouting) : Prop where
  healthy : w'.routes.Healthy
  frame : Frame w w'
  removed : ∀ ip, DomainRouteStore.Lists diff.removed ip → w'.routes.targetOf ip = none
  added : ∀ ip, ¬ DomainRouteStore.Lists diff.removed ip → DomainRouteStore.Lists diff.added ip →
    Serves (w'.routes.targetOf ip) target
  kept : ∀ ip, ¬ DomainRouteStore.Lists diff.removed ip → ¬ DomainRouteStore.Lists diff.added ip →
    w'.routes.targetOf ip = w.routes.targetOf ip

theorem applyDiff_follows (hw : w.routes.Healthy) {policy : PolicySnapshot}
    (hknown : InterfacesKnown policy) {diff : ApplyDiff} {target : RouteTarget}
    (htarget : ∀ entry ∈ diff.added, entry.target = target) :
    Follows w diff target (w.applyDiff policy diff) := by
  obtain ⟨tunnelIf, physicalIf, htunnel, hphysical, hne, _⟩ := hknown
  have hinstalls : ∀ (w : DomainRouting) (entry : ResolvedIpEntry), w.routes.Healthy →
      Installs w entry ((w.installEntry tunnelIf physicalIf entry).emitRouteAdded entry) := by
    intro w entry hw
    obtain ⟨hhealthy, hframe, hothers, hserves⟩ :=
      installEntry_installs hw tunnelIf physicalIf entry
    exact ⟨hhealthy, ⟨hframe.store, hframe.cachedPolicy, hframe.staticBypass⟩, hothers, hserves⟩
  obtain ⟨hhealthy, hframe, hsame, hserves⟩ := foldl_installs hinstalls diff.added hw
  obtain ⟨hhealthy', hframe', hnone, hkept⟩ := removeEntry_foldl diff.removed hhealthy
  have hdiff : w.applyDiff policy diff = diff.removed.foldl removeEntry (diff.added.foldl
      (fun w entry => (w.installEntry tunnelIf physicalIf entry).emitRouteAdded entry) w) := by
    simp [applyDiff, htunnel, hphysical, hne]
  rw [hdiff]
  refine ⟨hhealthy', hframe.trans hframe', hnone, ?_, ?_⟩
  · intro ip hremoved hadded
    rw [hkept ip hremoved]
    exact hserves ip target hadded fun entry hmem _ => htarget entry hmem
  · intro ip hremoved hadded
    rw [hkept ip hremoved, hsame ip hadded]

theorem onDnsResponse_cases (env : Externals) (at_ : Moment) (domain : String)
    (records : List (IpAddr × Nat)) {policy : PolicySnapshot} (hw : w.routes.Healthy)
    (hknown : InterfacesKnown policy) :
    w.onDnsResponse env at_ domain records policy = w ∨
    ∃ rule answered, w.store.matchDomain env domain = some rule ∧ records ≠ [] ∧
      answered.store = (w.store.applyResolved at_.order at_.now domain records rule).2 ∧
      answered.routes = w.routes ∧ answered.cachedPolicy = w.cachedPolicy ∧
      answered.staticBypass = w.staticBypass ∧
      Follows answered (w.store.applyResolved at_.order at_.now domain records rule).1 rule.target
        (w.onDnsResponse env at_ domain records policy) := by
  unfold onDnsResponse
  by_cases hrecords : records = []
  · simp [hrecords]
  · simp only [List.isEmpty_iff, hrecords, if_false]
    cases hmatch : w.store.matchDomain env domain with
    | none => exact Or.inl rfl
    | some rule =>
        right
        dsimp only
        set diff := (w.store.applyResolved at_.order at_.now domain records rule).1 with hdiff
        set answered := ({ w with
          store := (w.store.applyResolved at_.order at_.now domain records rule).2 } :
            DomainRouting).syncEngine at_ with hanswered
        have hframe := syncEngine_frame { w with
          store := (w.store.applyResolved at_.order at_.now domain records rule).2 } at_
        have hroutes : answered.routes = w.routes := syncEngine_routes _ at_
        have htarget : ∀ entry ∈ diff.added, entry.target = rule.target := by
          intro entry hmem
          exact (DomainRouteStore.applyResolved_added at_.order at_.now domain rule hrecords hmem).1
        have hfollows : Follows answered diff rule.target (answered.applyDiff policy diff) :=
          applyDiff_follows (hroutes ▸ hw) hknown htarget
        refine ⟨rule, answered, rfl, hrecords, hframe.store, hroutes, hframe.cachedPolicy,
          hframe.staticBypass, ?_⟩
        split
        · exact ⟨hfollows.healthy, ⟨hfollows.frame.store, hfollows.frame.cachedPolicy,
            hfollows.frame.staticBypass⟩, hfollows.removed, hfollows.added, hfollows.kept⟩
        · exact hfollows

/-- A purge that finds an expired entry removes the routes of the expired entries; any other
purge removes the routes that have expired themselves. -/
theorem purgeExpired_effect (at_ : Moment) (hindexed : w.store.Indexed) (hw : w.routes.Healthy) :
    (w.purgeExpired at_).routes.Healthy ∧
    (w.purgeExpired at_).store = (w.store.purgeExpired at_.order at_.now).2 ∧
    (w.purgeExpired at_).cachedPolicy = w.cachedPolicy ∧
    (w.purgeExpired at_).staticBypass = w.staticBypass ∧
    ((∃ ip e, w.store.byIp.get ip = some e ∧ e.expiresAt ≤ at_.now) ∧
        (∀ ip e, w.store.byIp.get ip = some e → e.expiresAt ≤ at_.now →
          (w.purgeExpired at_).routes.targetOf ip = none) ∧
        (∀ ip, (∀ e, w.store.byIp.get ip = some e → at_.now < e.expiresAt) →
          (w.purgeExpired at_).routes.targetOf ip = w.routes.targetOf ip) ∨
      (∀ ip e, w.store.byIp.get ip = some e → at_.now < e.expiresAt) ∧
        ∀ ip, (w.purgeExpired at_).routes.routeOf ip =
          (w.routes.routeOf ip).filter fun route => at_.now < route.2) := by
  have hlists : ∀ ip, DomainRouteStore.Lists (w.store.purgeExpired at_.order at_.now).1 ip ↔
      ∃ e, w.store.byIp.get ip = some e ∧ e.expiresAt ≤ at_.now := by
    intro ip
    simp only [DomainRouteStore.Lists, DomainRouteStore.purgeExpired,
      DomainRouteStore.mem_removeIps, List.mem_map, List.mem_filter, Prod.exists,
      exists_and_right, exists_eq_right, mem_order_items, decide_eq_true_eq]
    constructor
    · intro h
      obtain ⟨e, ⟨other, ⟨e', hget', hexpired⟩, hget⟩, hip⟩ := h
      rw [hget'] at hget
      cases hget
      have hkey := hindexed.keyed other e hget'
      rw [hip] at hkey
      exact ⟨e, hkey ▸ hget', hexpired⟩
    · intro h
      obtain ⟨e, hget, hexpired⟩ := h
      exact ⟨e, ⟨ip, ⟨e, hget, hexpired⟩, hget⟩, hindexed.keyed ip e hget⟩
  set expired := (w.store.purgeExpired at_.order at_.now).1 with hexpired
  set purged : DomainRouting :=
    { w with store := (w.store.purgeExpired at_.order at_.now).2 } with hpurged
  by_cases hnone : expired = []
  · obtain ⟨ips, st', hexec, hhealthy, hroutes⟩ :=
      SessionRoutes.purgeExpiredDomainRoutes_spec hw at_.routeOrder at_.now
    have hstep : w.purgeExpired at_ = { purged with routes := st' } := by
      simp only [purgeExpired, ← hexpired, hnone, List.isEmpty_nil, Bool.not_true,
        Bool.false_eq_true, if_false, attempt, hexec, hpurged]
    rw [hstep]
    refine ⟨hhealthy, rfl, rfl, rfl, Or.inr ⟨?_, hroutes⟩⟩
    intro ip e hget
    by_contra hle
    obtain ⟨entry, hmem, _⟩ := (hlists ip).mpr ⟨e, hget, Nat.le_of_not_lt hle⟩
    rw [hnone] at hmem
    cases hmem
  · have hstep : w.purgeExpired at_ = (expired.foldl removeEntry purged).syncEngine at_ := by
      simp only [purgeExpired, ← hexpired, hnone, Bool.not_eq_true', if_true, hpurged,
        List.isEmpty_eq_false_iff, ne_eq, not_false_eq_true]
    obtain ⟨hhealthy, hframe, hremoved, hkept⟩ := removeEntry_foldl (w := purged) expired hw
    have hsync := syncEngine_frame (expired.foldl removeEntry purged) at_
    rw [hstep]
    refine ⟨by rw [syncEngine_routes]; exact hhealthy, hsync.store.trans hframe.store,
      hsync.cachedPolicy.trans hframe.cachedPolicy, hsync.staticBypass.trans hframe.staticBypass,
      Or.inl ⟨?_, ?_, ?_⟩⟩
    · obtain ⟨entry, hmem⟩ := List.exists_mem_of_ne_nil expired hnone
      obtain ⟨e, hget, hle⟩ := (hlists entry.ip).mp ⟨entry, hmem, rfl⟩
      exact ⟨entry.ip, e, hget, hle⟩
    · intro ip e hget hle
      rw [syncEngine_routes]
      exact hremoved ip ((hlists ip).mpr ⟨e, hget, hle⟩)
    · intro ip hlive
      rw [syncEngine_routes]
      refine hkept ip ?_
      intro hmem
      obtain ⟨e, hget, hle⟩ := (hlists ip).mp hmem
      exact absurd (hlive e hget) (Nat.not_lt.mpr hle)

theorem clear_effect (at_ : Moment) (hw : w.routes.Healthy) :
    (w.clear at_).routes.Healthy ∧ Frame { w with store := w.store.clear } (w.clear at_) ∧
      ∀ ip, (w.clear at_).routes.targetOf ip = none := by
  obtain ⟨st', hexec, hhealthy, hroutes⟩ := SessionRoutes.clearDomainRoutes_spec hw at_.routeOrder
  have hstep : w.clear at_ =
      ({ w with store := w.store.clear, routes := st' } : DomainRouting).syncEngine at_ := by
    simp only [clear, attempt, hexec]
  rw [hstep, syncEngine_routes]
  have hframe := syncEngine_frame { w with store := w.store.clear, routes := st' } at_
  refine ⟨hhealthy, ⟨hframe.store, hframe.cachedPolicy, hframe.staticBypass⟩, ?_⟩
  intro ip
  rw [RouteState.targetOf, hroutes]
  rfl

theorem rebuildRules_effect (at_ : Moment) (rules : List DomainRule) :
    (w.rebuildRules at_ rules).routes = w.routes ∧
      Frame { w with store := ((w.store.setRules rules).pruneUnmatchedRules at_.order).2 }
        (w.rebuildRules at_ rules) := by
  obtain ⟨hroutes, hframe⟩ := emitRouteExpired_foldl
    ((w.store.setRules rules).pruneUnmatchedRules at_.order).1
    { w with store := ((w.store.setRules rules).pruneUnmatchedRules at_.order).2 }
  unfold rebuildRules
  rw [syncEngine_routes]
  exact ⟨hroutes, hframe.trans (syncEngine_frame _ at_)⟩

/-- Every entry of the store is served afterwards; no other route changes. -/
theorem reinstall_effect (at_ : Moment) (policy : PolicySnapshot) (hindexed : w.store.Indexed)
    (hw : w.routes.Healthy) :
    (w.reinstallRoutesFromCache at_ policy).routes.Healthy ∧
    Frame w (w.reinstallRoutesFromCache at_ policy) ∧
    (∀ ip, w.store.byIp.get ip = none →
      (w.reinstallRoutesFromCache at_ policy).routes.targetOf ip = w.routes.targetOf ip) ∧
    ∀ ip e, w.store.byIp.get ip = some e →
      (w.reinstallRoutesFromCache at_ policy).routes.targetOf ip = w.routes.targetOf ip ∨
      Serves ((w.reinstallRoutesFromCache at_ policy).routes.targetOf ip) e.target := by
  unfold reinstallRoutesFromCache
  simp only
  split
  · exact ⟨hw, Frame.refl w, fun _ _ => rfl, fun _ _ _ => Or.inl rfl⟩
  · obtain ⟨hhealthy, hframe, hsame, hserves⟩ := foldl_installs
      (fun w entry hw => installEntry_installs hw (policy.tunnelIfIndex.getD 0)
        (policy.physicalIfIndex.getD 0) entry) (at_.order.values w.store.byIp) hw
    have hentry : ∀ entry ∈ at_.order.values w.store.byIp,
        w.store.byIp.get entry.ip = some entry := by
      intro entry hmem
      obtain ⟨ip, hget⟩ := (mem_order_values _ _ _).mp hmem
      rw [hindexed.keyed ip entry hget]
      exact hget
    refine ⟨hhealthy, hframe, ?_, ?_⟩
    · intro ip hnone
      refine hsame ip ?_
      intro h
      obtain ⟨entry, hmem, hip⟩ := h
      have hget := hentry entry hmem
      rw [hip, hnone] at hget
      cases hget
    · intro ip e hget
      refine Or.inr (hserves ip e.target ?_ ?_)
      · exact ⟨e, (mem_order_values _ _ _).mpr ⟨ip, hget⟩, hindexed.keyed ip e hget⟩
      · intro entry hmem hip
        have hget' := hentry entry hmem
        rw [hip, hget] at hget'
        cases hget'
        rfl

end Effects

end DomainRouting
end RouteGuard
