import RouteGuard.Lib.GuardedRun
import RouteGuard.Service.DomainRouting

/-! # Entries and their routes

The domain store and the session keep their own copies of a target and of an
expiry.  This module states when the entries keep their routes, and when the
routes keep their entries, over runs of the manager. -/
set_option autoImplicit false
namespace RouteGuard

open HashTable Fallible

namespace DomainRouting

/-- A start: no entry, no domain route, no policy, and no failing system call. -/
structure Fresh (w : DomainRouting) : Prop where
  byIp : w.store.byIp = ∅
  byDomain : w.store.byDomain = ∅
  domainRoutes : w.routes.session.domainRoutes = ∅
  healthy : w.routes.Healthy
  cachedPolicy : w.cachedPolicy = none

theorem Fresh.indexed {w : DomainRouting} (h : Fresh w) : w.store.Indexed := by
  refine ⟨?_, ?_, ?_⟩
  · intro ip e hget
    simp [h.byIp] at hget
  · intro domain ip
    simp [h.byIp, h.byDomain, InDomain]
  · intro domain ips hget
    simp [h.byDomain] at hget

/-- A start that may bring entries of the cache file. -/
structure Started (w : DomainRouting) : Prop where
  indexed : w.store.Indexed
  domainRoutes : w.routes.session.domainRoutes = ∅
  healthy : w.routes.Healthy
  cachedPolicy : w.cachedPolicy = none

theorem Fresh.started {w : DomainRouting} (h : Fresh w) : Started w :=
  ⟨h.indexed, h.domainRoutes, h.healthy, h.cachedPolicy⟩

theorem Started.targetOf {w : DomainRouting} (h : Started w) (ip : IpAddr) :
    w.routes.targetOf ip = none := by
  simp [RouteState.targetOf, RouteState.routeOf, h.domainRoutes]

def Call.Known (call : Call) : Prop :=
  match call.op with
  | .onDnsResponse _ _ policy => InterfacesKnown policy
  | .reinstallRoutesFromCache policy => InterfacesKnown policy
  | .applySplitPolicy view => ∃ tunnelIf physicalIf, view.tunnelIfIndex = some tunnelIf ∧
      view.physicalIfIndex = some physicalIf ∧ tunnelIf ≠ 0 ∧ physicalIf ≠ 0
  | _ => True

/-! ## The store under the methods -/

section Store
variable {w : DomainRouting} (env : Externals) (at_ : Moment)

theorem applySplitPolicy_effect (view : PolicyView) (hindexed : w.store.Indexed)
    (hw : w.routes.Healthy) :
    (w.applySplitPolicy env at_ view).2.routes.Healthy ∧
    (w.applySplitPolicy env at_ view).2.store = w.store ∧
    ((w.applySplitPolicy env at_ view).2 = w ∨
      ∃ policy, buildPolicy env at_.order at_.now view w.engine w.store = .ok policy ∧
        (w.applySplitPolicy env at_ view).2.cachedPolicy = some policy) ∧
    (∀ ip, w.store.byIp.get ip = none →
      (w.applySplitPolicy env at_ view).2.routes.targetOf ip = w.routes.targetOf ip) ∧
    ∀ ip e, w.store.byIp.get ip = some e →
      (w.applySplitPolicy env at_ view).2.routes.targetOf ip = w.routes.targetOf ip ∨
      Serves ((w.applySplitPolicy env at_ view).2.routes.targetOf ip) e.target := by
  unfold applySplitPolicy
  cases hbuild : buildPolicy env at_.order at_.now view w.engine w.store with
  | error e => exact ⟨hw, rfl, Or.inl rfl, fun _ _ => rfl, fun _ _ _ => Or.inl rfl⟩
  | ok policy =>
      dsimp only
      split
      · have hkeeps :=
          SessionRoutes.installSplitRoutes_keeps w.routes.session.domainRoutes env policy
          w.routes ⟨hw, rfl⟩
        cases hexec : exec (SessionRoutes.installSplitRoutes env policy) w.routes with
        | mk result routes =>
            rw [hexec] at hkeeps
            have hhealthy : routes.Healthy := hkeeps.1
            have hroutes : routes.session.domainRoutes = w.routes.session.domainRoutes := hkeeps.2
            have hsame : ∀ ip, routes.targetOf ip = w.routes.targetOf ip := by
              intro ip
              simp only [RouteState.targetOf, RouteState.routeOf, hroutes]
            cases result with
            | error e =>
                exact ⟨hhealthy, rfl, Or.inr ⟨policy, rfl, rfl⟩, fun ip _ => hsame ip,
                  fun ip _ _ => Or.inl (hsame ip)⟩
            | ok _ =>
                obtain ⟨hhealthy', hframe, hnone, hsome⟩ := reinstall_effect at_ policy
                  (w := { w with
                    routes := routes
                    cachedPolicy := some policy
                    staticBypass := staticBypassCidrs env view w.engine }) hindexed hhealthy
                refine ⟨hhealthy', hframe.store, Or.inr ⟨policy, rfl, hframe.cachedPolicy⟩, ?_, ?_⟩
                · intro ip hget
                  rw [← hsame ip]
                  exact hnone ip hget
                · intro ip e hget
                  rw [← hsame ip]
                  exact hsome ip e hget
      · exact ⟨hw, rfl, Or.inr ⟨policy, rfl, rfl⟩, fun _ _ => rfl, fun _ _ _ => Or.inl rfl⟩

end Store

/-! ## Entries keep their routes -/

/-- Every entry of the store is served by the routes. -/
structure Upkept (w : DomainRouting) : Prop where
  indexed : w.store.Indexed
  healthy : w.routes.Healthy
  served : ∀ ip e, w.store.byIp.get ip = some e → Serves (w.routes.targetOf ip) e.target

/-- If a purge finds no expired entry, no entry has a route that has expired: no answer has
extended an entry beyond its route. -/
def Call.SparesRoutes (w : DomainRouting) (call : Call) : Prop :=
  match call.op with
  | .purgeExpired => (∃ ip e, w.store.byIp.get ip = some e ∧ e.expiresAt ≤ call.moment.now) ∨
      ∀ ip e route, w.store.byIp.get ip = some e → w.routes.routeOf ip = some route →
        call.moment.now < route.2
  | _ => True

section Upkeep
variable {w : DomainRouting} (env : Externals)

theorem Fresh.upkept (h : Fresh w) : Upkept w := by
  refine ⟨h.indexed, h.healthy, ?_⟩
  intro ip e hget
  simp [h.byIp] at hget

theorem Upkept.shrink {w' : DomainRouting} (h : Upkept w) (hindexed : w'.store.Indexed)
    (hhealthy : w'.routes.Healthy)
    (hstore : ∀ ip e, w'.store.byIp.get ip = some e → w.store.byIp.get ip = some e ∧
      (w'.routes.targetOf ip = w.routes.targetOf ip ∨ Serves (w'.routes.targetOf ip) e.target)) :
    Upkept w' := by
  refine ⟨hindexed, hhealthy, ?_⟩
  intro ip e hget
  obtain ⟨hbefore, hsame | hserves⟩ := hstore ip e hget
  · rw [hsame]
    exact h.served ip e hbefore
  · exact hserves

theorem onDnsResponse_upkept (h : Upkept w) (at_ : Moment) (domain : String)
    (records : List (IpAddr × Nat)) {policy : PolicySnapshot} (hknown : InterfacesKnown policy) :
    Upkept (w.onDnsResponse env at_ domain records policy) := by
  rcases onDnsResponse_cases env at_ domain records h.healthy hknown with
    hsame | ⟨rule, answered, _, hrecords, hstore, hroutes, _, _, hfollows⟩
  · rw [hsame]
    exact h
  · have hanswer : (w.onDnsResponse env at_ domain records policy).store =
        (w.store.applyResolved at_.order at_.now domain records rule).2 :=
      hfollows.frame.store.trans hstore
    refine ⟨?_, hfollows.healthy, ?_⟩
    · rw [hanswer]
      exact DomainRouteStore.indexed_applyResolved _ _ h.indexed domain records rule hrecords
    · intro ip e hget
      rw [hanswer] at hget
      have hremoved :=
        DomainRouteStore.applyResolved_removed at_.order at_.now h.indexed domain rule
        hrecords ip
      rcases DomainRouteStore.applyResolved_explained at_.order at_.now h.indexed domain rule
        hrecords
        hget with ⟨hadded, htarget⟩ | ⟨hnot, hkept, old, hold, htarget⟩
      · have hlisted : ¬ DomainRouteStore.Lists
            (w.store.applyResolved at_.order at_.now domain records rule).1.removed ip := by
          obtain ⟨entry, hmem, hip⟩ := hadded
          obtain ⟨_, hanswered⟩ :=
            DomainRouteStore.applyResolved_added at_.order at_.now domain rule
            hrecords hmem
          rw [hremoved, ← hip]
          exact fun hdropped => hdropped.2 hanswered
        rw [htarget]
        exact hfollows.added ip hlisted hadded
      · rw [hfollows.kept ip hkept hnot, hroutes, ← htarget]
        exact h.served ip old hold

theorem purged_get {after : DomainRouting} (at_ : Moment)
    (hstore : after.store = (w.store.purgeExpired at_.order at_.now).2) (ip : IpAddr) :
    after.store.byIp.get ip =
      (w.store.byIp.get ip).filter fun e => decide (at_.now < e.expiresAt) := by
  have hop :
      (⟨.purgeExpired, at_.now, at_.order⟩ : DomainRouteStore.Call).op = .purgeExpired := rfl
  rw [hstore]
  exact DomainRouteStore.purgeExpired_get (s := w.store) ip hop

theorem purgeExpired_upkept (h : Upkept w) (at_ : Moment)
    (hspares : Call.SparesRoutes w ⟨.purgeExpired, at_⟩) : Upkept (w.purgeExpired at_) := by
  obtain ⟨hhealthy, hstore, _, _, heffect⟩ := purgeExpired_effect at_ h.indexed h.healthy
  have hget := purged_get at_ hstore
  refine h.shrink ?_ hhealthy ?_
  · rw [hstore]
    exact DomainRouteStore.removeIps_keeps DomainRouteStore.removeIp_indexed _ _ h.indexed
  · intro ip e hafter
    rw [hget, Option.filter_eq_some_iff, decide_eq_true_eq] at hafter
    obtain ⟨hbefore, hlive⟩ := hafter
    refine ⟨hbefore, Or.inl ?_⟩
    rcases heffect with ⟨_, _, hkept⟩ | ⟨hnone, hroutes⟩
    · apply hkept ip
      intro e' hget'
      rw [hbefore] at hget'
      cases hget'
      exact hlive
    · rcases hspares with ⟨other, e', hget', hle⟩ | hroute
      · exact absurd (hnone other e' hget') (Nat.not_lt.mpr hle)
      · have hkept : (w.routes.routeOf ip).filter (fun route => decide (at_.now < route.2)) =
            w.routes.routeOf ip := by
          cases hrow : w.routes.routeOf ip with
          | none => rfl
          | some route => exact if_pos (by simpa using hroute ip e route hbefore hrow)
        rw [RouteState.targetOf, hroutes, hkept]
        rfl

theorem step_upkept (h : Upkept w) {call : Call} (hknown : call.Known)
    (hspares : call.SparesRoutes w) : Upkept (step env w call) := by
  obtain ⟨op, at_⟩ := call
  cases op with
  | onDnsResponse domain records policy =>
      exact onDnsResponse_upkept env h at_ domain records hknown
  | rebuildRules rules =>
      obtain ⟨hroutes, hframe⟩ := rebuildRules_effect (w := w) at_ rules
      have hindexed : (w.store.setRules rules).Indexed :=
        ⟨h.indexed.keyed, h.indexed.agree, h.indexed.noEmpty⟩
      refine h.shrink ?_ (hroutes ▸ h.healthy) ?_
      · exact hframe.store ▸
          DomainRouteStore.removeIps_keeps DomainRouteStore.removeIp_indexed _ _ hindexed
      · intro ip e hget
        change (w.rebuildRules at_ rules).store.byIp.get ip = some e at hget
        rw [hframe.store, DomainRouteStore.pruneUnmatchedRules, DomainRouteStore.removeIps_get]
          at hget
        split at hget
        · cases hget
        · exact ⟨hget, Or.inl (by rw [← hroutes]; rfl)⟩
  | purgeExpired => exact purgeExpired_upkept h at_ hspares
  | clear =>
      obtain ⟨hhealthy, hframe, _⟩ := clear_effect at_ h.healthy
      refine h.shrink ?_ hhealthy ?_
      · exact hframe.store ▸ (DomainRouteStore.clear_indexed (s := w.store)).1
      · intro ip e hget
        change (w.clear at_).store.byIp.get ip = some e at hget
        simp [hframe.store, DomainRouteStore.clear, DomainRouteStore.bumpGeneration] at hget
  | reinstallRoutesFromCache policy =>
      obtain ⟨hhealthy, hframe, _, hsome⟩ := reinstall_effect at_ policy h.indexed h.healthy
      apply h.shrink (hframe.store ▸ h.indexed) hhealthy
      intro ip e hget
      change (w.reinstallRoutesFromCache at_ policy).store.byIp.get ip = some e at hget
      rw [hframe.store] at hget
      exact ⟨hget, hsome ip e hget⟩
  | applySplitPolicy view =>
      obtain ⟨hhealthy, hstore, _, _, hsome⟩ :=
        applySplitPolicy_effect env at_ view h.indexed h.healthy
      apply h.shrink (hstore ▸ h.indexed) hhealthy
      intro ip e hget
      change (w.applySplitPolicy env at_ view).2.store.byIp.get ip = some e at hget
      rw [hstore] at hget
      exact ⟨hget, hsome ip e hget⟩

/-- In a run whose purges spare the routes of the entries, whatever the store answers has its
host route. -/
theorem run_lookup_routed (h : Fresh w) {calls first : List Call}
    (hguard : GuardedRun.Guarded (step env) (fun w call => call.Known ∧ call.SparesRoutes w)
      w calls)
    (hpre : first <+: calls) {t : Nat} {ip : IpAddr} {target : RouteTarget}
    (hlookup : (GuardedRun.run (step env) w first).store.lookupIp t ip = some target)
    (hne : target ≠ .block) :
    ∃ handle, (GuardedRun.run (step env) w first).routes.session.domainRoutes.get ip = some handle ∧
      handle.target = target := by
  have hupkept := GuardedRun.reached_invariant (step env) _ (P := Upkept)
    (fun w call hw hcall => step_upkept env hw hcall.1 hcall.2) h.upkept hguard hpre
  obtain ⟨e, hentry, rfl⟩ := Option.map_eq_some_iff.mp hlookup
  have hget : (GuardedRun.run (step env) w first).store.byIp.get ip = some e := by
    unfold DomainRouteStore.entryForIp at hentry
    split at hentry
    · cases hentry
    · rename_i found hfound
      split at hentry
      · cases hentry
      · cases hentry
        exact hfound
  rcases hupkept.served ip e hget with hroute | ⟨_, hblock⟩
  · simp only [RouteState.targetOf, RouteState.routeOf, Option.map_map, Option.map_eq_some_iff]
      at hroute
    obtain ⟨handle, hhandle, htarget⟩ := hroute
    exact ⟨handle, hhandle, htarget⟩
  · exact absurd hblock hne

end Upkeep

/-! ## Routes keep their entries -/

def Backs (w : DomainRouting) (ip : IpAddr) (target : RouteTarget) : Prop :=
  ∃ e, w.store.byIp.get ip = some e ∧ e.target = target

/-- A text of the cached policy for which a split route stands because of the domain store. -/
def SplitHost (w : DomainRouting) (text : String) (target : RouteTarget) : Prop :=
  ∃ policy, w.cachedPolicy = some policy ∧
    (target = .tunnel ∧ text ∈ policy.dynamicTunnelHosts ∨
      target = .bypass ∧ text ∈ policy.dynamicBypassHosts ∧ text ∉ w.staticBypass)

structure Backed (w : DomainRouting) : Prop where
  indexed : w.store.Indexed
  healthy : w.routes.Healthy
  routes : ∀ ip target, w.routes.targetOf ip = some target → Backs w ip target
  hosts : ∀ text target, SplitHost w text target → ∃ ip, ipToHostCidr ip = text ∧ Backs w ip target

/-- A property of every address that has a split route. -/
def AllSplitHosts (w : DomainRouting) (p : IpAddr → RouteTarget → Prop) : Prop :=
  ∀ text target, SplitHost w text target → ∀ ip, ipToHostCidr ip = text → p ip target

/-- No call takes an entry from under a route that it leaves standing. -/
def Call.SparesEntries (env : Externals) (w : DomainRouting) (call : Call) : Prop :=
  match call.op with
  | .onDnsResponse domain records _ => ∀ rule, w.store.matchDomain env domain = some rule →
      ∀ hrecords : records ≠ [],
      DomainRouteStore.CallFits w.store
        ⟨.applyResolved domain records rule hrecords, call.moment.now, call.moment.order⟩ ∧
      AllSplitHosts w fun ip target =>
        (ip ∈ records.map Prod.fst → rule.target = target) ∧
        (ip ∉ records.map Prod.fst → ∀ e, w.store.byIp.get ip = some e →
          e.domain ≠ normalizeDomain domain)
  | .rebuildRules rules =>
      (∀ ip target e, w.routes.targetOf ip = some target → w.store.byIp.get ip = some e →
        DomainRouteStore.ruled (domainRuleEntries rules) e.pattern e.target) ∧
      AllSplitHosts w fun ip _ => ∀ e, w.store.byIp.get ip = some e →
        DomainRouteStore.ruled (domainRuleEntries rules) e.pattern e.target
  | .purgeExpired => AllSplitHosts w fun ip _ => ∀ e, w.store.byIp.get ip = some e →
      call.moment.now < e.expiresAt
  | .clear => ∀ text target, ¬ SplitHost w text target
  | _ => True

section Backing
variable {w : DomainRouting} (env : Externals)

theorem Started.backed (h : Started w) : Backed w := by
  refine ⟨h.indexed, h.healthy, ?_, ?_⟩
  · intro ip target hroute
    rw [h.targetOf] at hroute
    cases hroute
  · intro text target hcase
    obtain ⟨policy, hpolicy, _⟩ := hcase
    rw [h.cachedPolicy] at hpolicy
    cases hpolicy

theorem Backed.keep {w' : DomainRouting} (h : Backed w) (hindexed : w'.store.Indexed)
    (hhealthy : w'.routes.Healthy)
    (hpolicy : w'.cachedPolicy = w.cachedPolicy ∧ w'.staticBypass = w.staticBypass)
    (hroutes : ∀ ip target, w'.routes.targetOf ip = some target → Backs w' ip target)
    (hhosts : AllSplitHosts w fun ip target => Backs w ip target → Backs w' ip target) :
    Backed w' := by
  refine ⟨hindexed, hhealthy, hroutes, ?_⟩
  intro text target hsplit
  have hbefore : SplitHost w text target := by
    obtain ⟨policy, hcached, hlisted⟩ := hsplit
    rw [hpolicy.1] at hcached
    rw [hpolicy.2] at hlisted
    exact ⟨policy, hcached, hlisted⟩
  obtain ⟨ip, htext, hbacks⟩ := h.hosts text target hbefore
  exact ⟨ip, htext, hhosts text target hbefore ip htext hbacks⟩

theorem answered_entry {domain : String} {records : List (IpAddr × Nat)} {rule : DomainRuleEntry}
    (hindexed : w.store.Indexed) (at_ : Moment) (hrecords : records ≠ [])
    (hfits : DomainRouteStore.CallFits w.store
      ⟨.applyResolved domain records rule hrecords, at_.now, at_.order⟩) {ip : IpAddr}
    (hlisted : ip ∈ records.map Prod.fst) :
    ∃ e, (w.store.applyResolved at_.order at_.now domain records rule).2.byIp.get ip = some e ∧
      e.target = rule.target := by
  have hop : (⟨.applyResolved domain records rule hrecords, at_.now, at_.order⟩ :
      DomainRouteStore.Call).op = .applyResolved domain records rule hrecords := rfl
  have hget := DomainRouteStore.applyResolved_get ip hindexed hrecords hop hfits
  have hrecord : ∃ record, DomainRouteStore.lastRecord records ip = some record := by
    obtain ⟨record, hmem, hip⟩ := List.mem_map.mp hlisted
    apply Option.ne_none_iff_exists'.mp
    rw [DomainRouteStore.lastRecord, ne_eq, List.getLast?_eq_none_iff, List.filter_eq_nil_iff]
    intro hnone
    exact hnone record hmem (by simpa using hip)
  obtain ⟨record, hrecord⟩ := hrecord
  simp only [DomainRouteStore.Call.answer, hrecord, Option.map_some] at hget
  exact ⟨_, hget, rfl⟩

theorem unlisted_entry {domain : String} {records : List (IpAddr × Nat)} {rule : DomainRuleEntry}
    (hindexed : w.store.Indexed) (at_ : Moment) (hrecords : records ≠ [])
    (hfits : DomainRouteStore.CallFits w.store
      ⟨.applyResolved domain records rule hrecords, at_.now, at_.order⟩) {ip : IpAddr}
    (hlisted : ip ∉ records.map Prod.fst) {e : ResolvedIpEntry}
    (hget : w.store.byIp.get ip = some e) (hdomain : e.domain ≠ normalizeDomain domain) :
    (w.store.applyResolved at_.order at_.now domain records rule).2.byIp.get ip = some e := by
  have hop : (⟨.applyResolved domain records rule hrecords, at_.now, at_.order⟩ :
      DomainRouteStore.Call).op = .applyResolved domain records rule hrecords := rfl
  have hstep := DomainRouteStore.applyResolved_get ip hindexed hrecords hop hfits
  have hrecord : DomainRouteStore.lastRecord records ip = none := by
    rw [DomainRouteStore.lastRecord, List.getLast?_eq_none_iff, List.filter_eq_nil_iff]
    intro record hmem hip
    exact hlisted (List.mem_map.mpr ⟨record, hmem, by simpa using hip⟩)
  simp only [DomainRouteStore.Call.answer, hrecord, Option.map_none,
    DomainRouteStore.Call.spares] at hstep
  have hkept : (w.store.byIp.get ip).filter
      (fun e => decide (normalizeDomain domain ≠ e.domain)) = some e := by
    rw [hget, Option.filter_some, if_pos]
    simpa using fun heq : normalizeDomain domain = e.domain => hdomain heq.symm
  exact hstep.trans hkept

theorem onDnsResponse_backed (h : Backed w) (at_ : Moment) (domain : String)
    (records : List (IpAddr × Nat)) {policy : PolicySnapshot} (hknown : InterfacesKnown policy)
    (hspares : Call.SparesEntries env w ⟨.onDnsResponse domain records policy, at_⟩) :
    Backed (w.onDnsResponse env at_ domain records policy) := by
  rcases onDnsResponse_cases env at_ domain records h.healthy hknown with
    hsame | ⟨rule, answered, hmatch, hrecords, hstore, hroutes, hcached, hstatic, hfollows⟩
  · rw [hsame]
    exact h
  · obtain ⟨hfits, hhosts⟩ := hspares rule hmatch hrecords
    have hanswer : (w.onDnsResponse env at_ domain records policy).store =
        (w.store.applyResolved at_.order at_.now domain records rule).2 :=
      hfollows.frame.store.trans hstore
    have hlistedEntry : ∀ ip ∈ records.map Prod.fst,
        Backs (w.onDnsResponse env at_ domain records policy) ip rule.target := by
      intro ip hlisted
      rw [Backs, hanswer]
      exact answered_entry h.indexed at_ hrecords hfits hlisted
    have hunlistedEntry : ∀ ip e, ip ∉ records.map Prod.fst → w.store.byIp.get ip = some e →
        e.domain ≠ normalizeDomain domain →
        Backs (w.onDnsResponse env at_ domain records policy) ip e.target := by
      intro ip e hlisted hget hdomain
      rw [Backs, hanswer]
      exact ⟨e, unlisted_entry h.indexed at_ hrecords hfits hlisted hget hdomain, rfl⟩
    refine h.keep ?_ hfollows.healthy ⟨hfollows.frame.cachedPolicy.trans hcached,
      hfollows.frame.staticBypass.trans hstatic⟩ ?_ ?_
    · rw [hanswer]
      exact DomainRouteStore.indexed_applyResolved _ _ h.indexed domain records rule hrecords
    · intro ip target hroute
      have hremovedIff := DomainRouteStore.applyResolved_removed at_.order at_.now h.indexed domain
        rule hrecords ip
      by_cases hremoved : DomainRouteStore.Lists
          (w.store.applyResolved at_.order at_.now domain records rule).1.removed ip
      · rw [hfollows.removed ip hremoved] at hroute
        cases hroute
      · by_cases hadded : DomainRouteStore.Lists
            (w.store.applyResolved at_.order at_.now domain records rule).1.added ip
        · obtain ⟨entry, hmem, hip⟩ := hadded
          obtain ⟨_, hlisted⟩ := DomainRouteStore.applyResolved_added at_.order at_.now domain rule
            hrecords hmem
          rw [hip] at hlisted
          rcases hfollows.added ip hremoved ⟨entry, hmem, hip⟩ with hserves | ⟨hnone, _⟩
          · rw [hroute] at hserves
            cases hserves
            exact hlistedEntry ip hlisted
          · rw [hroute] at hnone
            cases hnone
        · rw [hfollows.kept ip hremoved hadded, hroutes] at hroute
          obtain ⟨old, hold, rfl⟩ := h.routes ip target hroute
          by_cases hlisted : ip ∈ records.map Prod.fst
          · -- a listed address that was not added kept the target of its entry
            obtain ⟨e, hget, htarget⟩ := answered_entry h.indexed at_ hrecords hfits hlisted
            rcases DomainRouteStore.applyResolved_explained at_.order at_.now h.indexed domain rule
              hrecords hget with ⟨hnew, _⟩ | ⟨_, _, before, hbefore, hsame⟩
            · exact absurd hnew hadded
            · rw [hold] at hbefore
              cases hbefore
              rw [hsame, htarget]
              exact hlistedEntry ip hlisted
          · refine hunlistedEntry ip old hlisted hold fun hdomain => hremoved ?_
            exact hremovedIff.mpr ⟨⟨old, hold, hdomain⟩, hlisted⟩
    · intro text target hsplit ip htext hbacks
      obtain ⟨hlistedTarget, hunlisted⟩ := hhosts text target hsplit ip htext
      by_cases hlisted : ip ∈ records.map Prod.fst
      · rw [← hlistedTarget hlisted]
        exact hlistedEntry ip hlisted
      · obtain ⟨e, hget, rfl⟩ := hbacks
        exact hunlistedEntry ip e hlisted hget (hunlisted hlisted e hget)

theorem rebuildRules_backed (h : Backed w) (at_ : Moment) (rules : List DomainRule)
    (hspares : Call.SparesEntries env w ⟨.rebuildRules rules, at_⟩) :
    Backed (w.rebuildRules at_ rules) := by
  obtain ⟨hrouted, hhosts⟩ := hspares
  obtain ⟨hroutes, hframe⟩ := rebuildRules_effect (w := w) at_ rules
  have hindexed : (w.store.setRules rules).Indexed :=
    ⟨h.indexed.keyed, h.indexed.agree, h.indexed.noEmpty⟩
  have hget : ∀ ip, (w.rebuildRules at_ rules).store.byIp.get ip = (w.store.byIp.get ip).filter
      fun e => DomainRouteStore.ruled (domainRuleEntries rules) e.pattern e.target := by
    intro ip
    rw [hframe.store]
    exact DomainRouteStore.removeIps_filter_get ip at_.order (w.store.setRules rules)
      fun e => DomainRouteStore.ruled (domainRuleEntries rules) e.pattern e.target
  have hstays : ∀ ip e, w.store.byIp.get ip = some e →
      DomainRouteStore.ruled (domainRuleEntries rules) e.pattern e.target →
      Backs (w.rebuildRules at_ rules) ip e.target := by
    intro ip e hentry hruled
    refine ⟨e, ?_, rfl⟩
    rw [hget, hentry, Option.filter_some, if_pos hruled]
  refine h.keep ?_ (hroutes ▸ h.healthy) ⟨hframe.cachedPolicy, hframe.staticBypass⟩ ?_ ?_
  · exact hframe.store ▸
      DomainRouteStore.removeIps_keeps DomainRouteStore.removeIp_indexed _ _ hindexed
  · intro ip target hroute
    rw [hroutes] at hroute
    obtain ⟨e, hentry, rfl⟩ := h.routes ip target hroute
    exact hstays ip e hentry (hrouted ip e.target e hroute hentry)
  · intro text target hsplit ip htext hcase
    obtain ⟨e, hentry, rfl⟩ := hcase
    exact hstays ip e hentry (hhosts text e.target hsplit ip htext e hentry)

theorem purgeExpired_backed (h : Backed w) (at_ : Moment)
    (hspares : Call.SparesEntries env w ⟨.purgeExpired, at_⟩) : Backed (w.purgeExpired at_) := by
  obtain ⟨hhealthy, hstore, hcached, hstatic, heffect⟩ :=
    purgeExpired_effect at_ h.indexed h.healthy
  have hget := purged_get at_ hstore
  have hstays : ∀ ip e, w.store.byIp.get ip = some e → at_.now < e.expiresAt →
      Backs (w.purgeExpired at_) ip e.target := by
    intro ip e hentry hlive
    refine ⟨e, ?_, rfl⟩
    rw [hget, hentry, Option.filter_some, if_pos (by simpa using hlive)]
  refine h.keep ?_ hhealthy ⟨hcached, hstatic⟩ ?_ ?_
  · rw [hstore]
    exact DomainRouteStore.removeIps_keeps DomainRouteStore.removeIp_indexed _ _ h.indexed
  · intro ip target hroute
    rcases heffect with ⟨_, hremoved, hkept⟩ | ⟨hnone, hroutes⟩
    · by_cases hlive : ∀ e, w.store.byIp.get ip = some e → at_.now < e.expiresAt
      · rw [hkept ip hlive] at hroute
        obtain ⟨e, hentry, rfl⟩ := h.routes ip target hroute
        exact hstays ip e hentry (hlive e hentry)
      · push Not at hlive
        obtain ⟨e, hentry, hexpired⟩ := hlive
        rw [hremoved ip e hentry hexpired] at hroute
        cases hroute
    · have hbefore : w.routes.targetOf ip = some target := by
        simp only [RouteState.targetOf, hroutes, Option.map_eq_some_iff,
          Option.filter_eq_some_iff] at hroute ⊢
        obtain ⟨route, ⟨hrow, _⟩, htarget⟩ := hroute
        exact ⟨route, hrow, htarget⟩
      obtain ⟨e, hentry, rfl⟩ := h.routes ip target hbefore
      exact hstays ip e hentry (hnone ip e hentry)
  · intro text target hsplit ip htext hcase
    obtain ⟨e, hentry, rfl⟩ := hcase
    exact hstays ip e hentry (hspares text e.target hsplit ip htext e hentry)

theorem Backed.reinstall {routes : RouteState} (h : Backed w)
    (hnone : ∀ ip, w.store.byIp.get ip = none → routes.targetOf ip = w.routes.targetOf ip)
    (hsome : ∀ ip e, w.store.byIp.get ip = some e → routes.targetOf ip = w.routes.targetOf ip ∨
      Serves (routes.targetOf ip) e.target) (ip : IpAddr) (target : RouteTarget)
    (hroute : routes.targetOf ip = some target) : Backs w ip target := by
  cases hget : w.store.byIp.get ip with
  | none =>
      rw [hnone ip hget] at hroute
      exact h.routes ip target hroute
  | some e =>
      rcases hsome ip e hget with hsame | hserves | ⟨hempty, _⟩
      · rw [hsame] at hroute
        exact h.routes ip target hroute
      · rw [hroute] at hserves
        cases hserves
        exact ⟨e, hget, rfl⟩
      · rw [hroute] at hempty
        cases hempty

theorem applySplitPolicy_backed (h : Backed w) (at_ : Moment) (view : PolicyView) :
    Backed (w.applySplitPolicy env at_ view).2 := by
  obtain ⟨hhealthy, hstore, hcases, hnone, hsome⟩ :=
    applySplitPolicy_effect env at_ view h.indexed h.healthy
  rcases hcases with hsame | ⟨policy, hbuild, hcached⟩
  · rw [hsame]
    exact h
  · have hbacks : ∀ ip target, Backs (w.applySplitPolicy env at_ view).2 ip target ↔
        Backs w ip target := by
      intro ip target
      rw [Backs, hstore, Backs]
    refine ⟨hstore ▸ h.indexed, hhealthy, ?_, ?_⟩
    · intro ip target hroute
      rw [hbacks]
      exact h.reinstall hnone hsome ip target hroute
    · intro text target hcase
      obtain ⟨policy', hcached', hlisted⟩ := hcase
      obtain ⟨hbypass, htunnel⟩ := buildPolicy_dynamic env at_.order at_.now w.engine w.store hbuild
      rw [hcached, Option.some.injEq] at hcached'
      subst hcached'
      have hhost : text ∈ w.store.hostCidrsForTarget at_.order at_.now target := by
        rcases hlisted with ⟨rfl, hmem⟩ | ⟨rfl, hmem, _⟩
        · exact htunnel ▸ hmem
        · exact hbypass ▸ hmem
      obtain ⟨e, hmem, htext⟩ := List.mem_map.mp hhost
      simp only [List.mem_filter, mem_order_values, decide_eq_true_eq] at hmem
      obtain ⟨⟨ip, hget⟩, htarget, _⟩ := hmem
      refine ⟨e.ip, htext, (hbacks _ _).mpr ⟨e, ?_, htarget⟩⟩
      rw [h.indexed.keyed ip e hget]
      exact hget

theorem step_backed (h : Backed w) {call : Call} (hknown : call.Known)
    (hspares : call.SparesEntries env w) : Backed (step env w call) := by
  obtain ⟨op, at_⟩ := call
  cases op with
  | onDnsResponse domain records policy =>
      exact onDnsResponse_backed env h at_ domain records hknown hspares
  | rebuildRules rules => exact rebuildRules_backed env h at_ rules hspares
  | purgeExpired => exact purgeExpired_backed env h at_ hspares
  | clear =>
      obtain ⟨hhealthy, hframe, hnone⟩ := clear_effect at_ h.healthy
      refine h.keep ?_ hhealthy ⟨hframe.cachedPolicy, hframe.staticBypass⟩ ?_ ?_
      · exact hframe.store ▸ (DomainRouteStore.clear_indexed (s := w.store)).1
      · intro ip target hroute
        have hcleared : (w.clear at_).routes.targetOf ip = some target := hroute
        rw [hnone] at hcleared
        cases hcleared
      · intro text target hsplit
        exact absurd hsplit (hspares text target)
  | reinstallRoutesFromCache policy =>
      obtain ⟨hhealthy, hframe, hnone, hsome⟩ :=
        reinstall_effect at_ policy h.indexed h.healthy
      have hbacks : ∀ ip target, Backs (w.reinstallRoutesFromCache at_ policy) ip target ↔
          Backs w ip target := by
        intro ip target
        rw [Backs, hframe.store, Backs]
      refine h.keep (hframe.store ▸ h.indexed) hhealthy
        ⟨hframe.cachedPolicy, hframe.staticBypass⟩ ?_ ?_
      · intro ip target hroute
        exact (hbacks ip target).mpr (h.reinstall hnone hsome ip target hroute)
      · intro text target _ ip _ hbefore
        exact (hbacks ip target).mpr hbefore
  | applySplitPolicy view => exact applySplitPolicy_backed env h at_ view

/-- In a run whose calls spare the entries of the standing routes, every domain route and every
split route of a dynamic host belongs to an entry with its target. -/
theorem run_routes_backed (h : Started w) {calls first : List Call}
    (hguard : GuardedRun.Guarded (step env)
      (fun w call => call.Known ∧ call.SparesEntries env w) w calls)
    (hpre : first <+: calls) :
    (∀ ip handle, (GuardedRun.run (step env) w first).routes.session.domainRoutes.get ip =
      some handle → Backs (GuardedRun.run (step env) w first) ip handle.target) ∧
    ∀ text target, SplitHost (GuardedRun.run (step env) w first) text target →
      ∃ ip, ipToHostCidr ip = text ∧ Backs (GuardedRun.run (step env) w first) ip target := by
  have hbacked := GuardedRun.reached_invariant (step env) _ (P := Backed)
    (fun w call hw hcall => step_backed env hw hcall.1 hcall.2) h.backed hguard hpre
  refine ⟨?_, hbacked.hosts⟩
  intro ip handle hget
  apply hbacked.routes ip handle.target
  simp only [RouteState.targetOf, RouteState.routeOf, hget, Option.map_some]

end Backing

/-! ## Two small runs -/

def exampleStart : DomainRouting where
  store := (DomainRouteStore.new {}).setRules [⟨10, "*.example", .tunnel⟩]
  engine := AppSplitPolicyCompiler.defaultEngine
  routes := {}

theorem exampleStart_fresh : Fresh exampleStart := ⟨rfl, rfl, rfl, fun _ => rfl, rfl⟩

def examplePolicy : PolicySnapshot := { tunnelIfIndex := some 42, physicalIfIndex := some 5 }

theorem examplePolicy_known : InterfacesKnown examplePolicy :=
  ⟨42, 5, rfl, rfl, by decide, by decide⟩

def atSecond (second : Nat) : Moment := { clock := ⟨second * nanosPerSec, 0⟩ }

def answerAt (second : Nat) (domain : String) (ip : IpAddr) (ttl : Nat) : Call :=
  ⟨.onDnsResponse domain [(ip, ttl)] examplePolicy, atSecond second⟩

/-- A second answer extends the entry and not its route; the next purge removes the route. -/
theorem refreshed_unrouted :
    Fresh exampleStart ∧
    (GuardedRun.run (step .asciiIpv4) exampleStart
      [answerAt 100 "a.example" (ipv4 1 2 3 4) 60, answerAt 150 "a.example" (ipv4 1 2 3 4) 60,
        ⟨.purgeExpired, atSecond 165⟩]).store.lookupIp 165 (ipv4 1 2 3 4) = some .tunnel ∧
    (GuardedRun.run (step .asciiIpv4) exampleStart
      [answerAt 100 "a.example" (ipv4 1 2 3 4) 60, answerAt 150 "a.example" (ipv4 1 2 3 4) 60,
        ⟨.purgeExpired, atSecond 165⟩]).routes.session.domainRoutes.get (ipv4 1 2 3 4) = none :=
  ⟨exampleStart_fresh, by decide, by decide⟩

theorem run_lookup_routed_twoHosts :
    ∃ handle, (GuardedRun.run (step .asciiIpv4) exampleStart
      [answerAt 100 "a.example" (ipv4 1 2 3 4) 60, answerAt 110 "b.example" (ipv4 5 6 7 8) 300,
        ⟨.purgeExpired, atSecond 170⟩]).routes.session.domainRoutes.get (ipv4 5 6 7 8) =
          some handle ∧ handle.target = .tunnel := by
  refine run_lookup_routed .asciiIpv4 exampleStart_fresh (t := 170) ?_ (List.prefix_refl _)
    (by decide) (by decide)
  refine ⟨⟨examplePolicy_known, trivial⟩, ⟨examplePolicy_known, trivial⟩,
    ⟨trivial, Or.inl ?_⟩, trivial⟩
  exact ⟨ipv4 1 2 3 4, ⟨ipv4 1 2 3 4, "a.example", "*.example", .tunnel, 160, 60⟩, by decide,
    by decide⟩

/-- A rule change takes the entry away and leaves its route. -/
theorem pruned_routed :
    Fresh exampleStart ∧
    (GuardedRun.run (step .asciiIpv4) exampleStart
      [answerAt 100 "a.example" (ipv4 1 2 3 4) 60, ⟨.rebuildRules [], atSecond 110⟩]).store.byIp.get
        (ipv4 1 2 3 4) = none ∧
    (GuardedRun.run (step .asciiIpv4) exampleStart
      [answerAt 100 "a.example" (ipv4 1 2 3 4) 60,
        ⟨.rebuildRules [], atSecond 110⟩]).routes.targetOf (ipv4 1 2 3 4) = some .tunnel :=
  ⟨exampleStart_fresh, by decide, by decide⟩

def exampleView : PolicyView where
  cfg := { tunnel := some { name := "wg0", configPath := "wg0.conf" } }
  handle := some ⟨1, "wg0", 42, 7, .wireGuardNt⟩
  external := none
  physicalIf := fun _ => some 5
  confEndpoint := fun _ => none
  active := none

theorem run_routes_backed_split :
    let w := GuardedRun.run (step .asciiIpv4) exampleStart
      [answerAt 100 "a.example" (ipv4 1 2 3 4) 60, ⟨.applySplitPolicy exampleView, atSecond 110⟩]
    (∀ ip handle, w.routes.session.domainRoutes.get ip = some handle →
      Backs w ip handle.target) ∧
    ∀ text target, SplitHost w text target → ∃ ip, ipToHostCidr ip = text ∧ Backs w ip target := by
  refine run_routes_backed .asciiIpv4 exampleStart_fresh.started ?_ (List.prefix_refl _)
  refine ⟨⟨examplePolicy_known, ?_⟩, ⟨⟨42, 5, rfl, rfl, by decide, by decide⟩, trivial⟩, trivial⟩
  intro rule hmatch hrecords
  have hrule : exampleStart.store.matchDomain .asciiIpv4 "a.example" =
      some ⟨10, "*.example", .tunnel⟩ := by decide
  cases hrule.symm.trans hmatch
  refine ⟨⟨fun _ => ⟨Nat.le_of_ble_eq_true rfl, Nat.le_of_ble_eq_true rfl⟩, trivial⟩, ?_⟩
  intro text target h
  obtain ⟨policy, hpolicy, _⟩ := h
  cases hpolicy

end DomainRouting
end RouteGuard
