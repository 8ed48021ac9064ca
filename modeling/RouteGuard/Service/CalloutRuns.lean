import RouteGuard.Driver.CalloutConfig
import RouteGuard.Service.Requests

/-! # Runs of the DNS callout manager

`DnsCalloutManager::install` and `remove` with the driver and the filter engine
they talk to, any of whose operations may fail: when the flag and the list of
the manager say what driver and engine hold. -/
set_option autoImplicit false
namespace RouteGuard

open HashTable Fallible GuardedRun

/-! ## The calls -/

structure CalloutState where
  manager : DnsCalloutManager
  session : WfpSessionInner
  /-- the last configuration that the driver accepted -/
  accepted : Option RgDnsRedirectConfig := none

abbrev CalloutProg (A : Type) := Prog CalloutState RouteGuardError A

structure DriverAnswers where
  probed : Bool
  configured : Except RouteGuardError Unit

namespace CalloutState

def engine (s : CalloutState) : WfpEngine := s.session.engine

def withManager (f : DnsCalloutManager → DnsCalloutManager) (s : CalloutState) : CalloutState :=
  { s with manager := f s.manager }

def facing (faults : List (Option String)) (s : CalloutState) : CalloutState :=
  { s with session := s.session.withEngine { s.engine with faults := faults } }

end CalloutState

def onCalloutSession {A : Type} (m : SessionProg A) : CalloutProg A :=
  zoom CalloutState.session (fun session s => { s with session := session }) m

def DriverAnswers.setConfig (answers : DriverAnswers) (config : RgDnsRedirectConfig) :
    CalloutProg Unit := do
  fromResult answers.configured
  modify fun s => { s with accepted := some config }

namespace DnsCalloutManager

def new (answers : DriverAnswers) : DnsCalloutManager := { driverPresent := answers.probed }

section Calls
variable (fromCidr : String → Except String IpNet) (answers : DriverAnswers)

def probeDriver : CalloutProg Unit :=
  modify (CalloutState.withManager fun manager => { manager with driverPresent := answers.probed })

def configureDriver (proxyPort : UInt16) (excludedPids : List UInt32) (requireKernel : Bool) :
    CalloutProg Unit := do
  probeDriver answers
  let driverPresent := (← get).manager.driverPresent
  if requireKernel && !driverPresent then
    throw (.platform "kernel_redirect requires routeguard-callout.sys")
  else if driverPresent then
    match ← caught (answers.setConfig (.loopbackV4 proxyPort true excludedPids)) with
    | .error e => if requireKernel then throw e else pure ()
    | .ok _ =>
        modify (CalloutState.withManager fun manager => { manager with kernelActive := true })
  else pure ()

def install (proxyPort : UInt16) (excludedPids : List UInt32) (requireKernel : Bool) :
    CalloutProg Bool := do
  configureDriver answers proxyPort excludedPids requireKernel
  let previous := (← get).manager.filterIds
  onCalloutSession (removeDnsRedirectFilters previous)
  let ids ← onCalloutSession (installDnsRedirectFilters fromCidr proxyPort)
  modify (CalloutState.withManager fun manager => { manager with filterIds := ids })
  let manager := (← get).manager
  pure (manager.kernelActive || !manager.filterIds.isEmpty)

/-- The driver is not probed again. -/
def remove : CalloutProg Unit := do
  let manager := (← get).manager
  if manager.driverPresent then
    let _ ← caught (answers.setConfig (.loopbackV4 5353 false []))
  onCalloutSession (removeDnsRedirectFilters manager.filterIds)
  modify (CalloutState.withManager fun manager =>
    { manager with filterIds := [], kernelActive := false })

end Calls

end DnsCalloutManager

inductive CalloutCall where
  | install (answers : DriverAnswers) (faults : List (Option String)) (proxyPort : UInt16)
      (excludedPids : List UInt32) (requireKernel : Bool)
  | remove (answers : DriverAnswers) (faults : List (Option String))

def calloutStep (fromCidr : String → Except String IpNet) (s : CalloutState) :
    CalloutCall → CalloutState
  | .install answers faults proxyPort excludedPids requireKernel =>
      (exec (DnsCalloutManager.install fromCidr answers proxyPort excludedPids requireKernel)
        (s.facing faults)).2
  | .remove answers faults => (exec (DnsCalloutManager.remove answers) (s.facing faults)).2

/-! ## What the manager says -/

/-- The prefix of the names stands in no other rule of the service. -/
def FilterRule.isDns (rule : FilterRule) : Bool := startsWith rule.name "RouteGuard_DNS_"

namespace CalloutState

/-- The `enabled` flag of the last configuration accepted. -/
def redirecting (s : CalloutState) : Bool := s.accepted.any fun config => config.enabled != 0

structure Mirrored (s : CalloutState) : Prop where
  kernel : s.manager.kernelActive = s.redirecting
  filters : ∀ id, id ∈ s.manager.filterIds ↔ FilterAt FilterRule.isDns s.engine id

end CalloutState

theorem isDns_dnsRules : ∀ rule ∈ dnsRules, rule.isDns = true := by decide

/-! ## The filters of one call -/

section Filters
variable (fromCidr : String → Except String IpNet)

theorem exec_removeDns (ids : List Nat) (session : WfpSessionInner) :
    ∃ after, exec (removeDnsRedirectFilters ids) session = (.ok (), after) ∧
      FiltersRemoved (deletable ids session.engine.faults) session.engine after.engine ∧
      after.engine.faults = session.engine.faults.drop ids.length := by
  obtain ⟨engine, hexec, hremoved, hfaults⟩ := exec_deleteIgnored ids session
  refine ⟨⟨engine, session.activeFilters.filter fun id => id ∉ ids⟩, ?_, hremoved, hfaults⟩
  rw [removeDnsRedirectFilters, exec_bind_ok hexec, untrackFilters, exec_modify]
  rfl

/-- All three filters are added, or those before the first failure. -/
theorem exec_installDns_cases (proxyPort : UInt16) (session : WfpSessionInner) :
    ∃ result after, exec (installDnsRedirectFilters fromCidr proxyPort) session = (result, after) ∧
      (AllClear session.engine.faults 3 ∧ result = .ok (List.range' session.engine.nextId 3) ∧
          FiltersAdded dnsRules session.engine after.engine ∨
        ∃ k < 3, FailsAfter session.engine.faults k ∧ (∃ e, result = .error e) ∧
          FiltersAdded (dnsRules.take k) session.engine after.engine) := by
  have hrules := dnsSteps_rules fromCidr
  obtain ⟨hsame, hengine⟩ := addTracked_same (dnsSteps fromCidr) session.engine
    session.activeFilters session.activeFilters
  obtain ⟨result, after, hexec, hadded, hresult⟩ := exec_addAll (dnsSteps fromCidr) session
  have hresult' : (exec (addTracked (dnsSteps fromCidr)) session).1 = result := by
    rw [hsame, hexec]
  have hafter : (exec (addTracked (dnsSteps fromCidr)) session).2.engine = after := by
    rw [hengine, hexec]
    rfl
  rw [installDnsRedirectFilters_eq]
  refine ⟨(exec (addTracked (dnsSteps fromCidr)) session).1,
    (exec (addTracked (dnsSteps fromCidr)) session).2, rfl, ?_⟩
  rw [hresult', hafter]
  rcases clear_or_fails session.engine.faults 3 with hclear | ⟨k, hk, hfails⟩
  · left
    rw [addedRules_of_clear hrules hclear] at hadded hresult
    rcases hresult with ⟨_, hids⟩ | ⟨hlen, _⟩
    · exact ⟨hclear, hids, hadded⟩
    · exact absurd hlen (Nat.lt_irrefl 3)
  · right
    rw [addedRules_of_fails hrules hfails] at hadded hresult
    rcases hresult with ⟨hlen, _⟩ | ⟨_, herror⟩
    · rw [List.length_take] at hlen
      have hfull : (dnsSteps fromCidr).length = 3 := rfl
      omega
    · exact ⟨k, hk, hfails, herror, hadded⟩

end Filters

/-! ## The driver in one call -/

/-- `install` stops before it touches a filter. -/
def DriverAnswers.Refuse (answers : DriverAnswers) (requireKernel : Bool) : Prop :=
  requireKernel = true ∧ (answers.probed = false ∨ ∃ e, answers.configured = .error e)

section Driver
variable (answers : DriverAnswers) (proxyPort : UInt16) (excludedPids : List UInt32)
  (requireKernel : Bool) (s : CalloutState)

/-- Whatever the driver answers, the flag stays that of the configuration accepted last. -/
theorem exec_configureDriver :
    ∃ result manager accepted,
      exec (DnsCalloutManager.configureDriver answers proxyPort excludedPids requireKernel) s =
        (result, ⟨manager, s.session, accepted⟩) ∧
      manager.filterIds = s.manager.filterIds ∧
      (s.manager.kernelActive = s.redirecting →
        manager.kernelActive = (CalloutState.mk manager s.session accepted).redirecting) ∧
      (answers.Refuse requireKernel ∧ (∃ e, result = .error e) ∨
        ¬answers.Refuse requireKernel ∧ result = .ok ()) := by
  obtain ⟨probed, configured⟩ := answers
  have hnot : ¬DriverAnswers.Refuse ⟨probed, configured⟩ false :=
    fun hrefuse => absurd hrefuse.1 Bool.false_ne_true
  cases probed with
  | false =>
      cases requireKernel with
      | true =>
          exact ⟨_, _, s.accepted, rfl, rfl, id, Or.inl ⟨⟨rfl, Or.inl rfl⟩, _, rfl⟩⟩
      | false =>
          exact ⟨_, _, s.accepted, rfl, rfl, id, Or.inr ⟨hnot, rfl⟩⟩
  | true =>
      cases configured with
      | ok _ =>
          refine ⟨.ok (), { s.manager with driverPresent := true, kernelActive := true },
            some (.loopbackV4 proxyPort true excludedPids), ?_, rfl, fun _ => rfl,
            Or.inr ⟨?_, rfl⟩⟩
          · cases requireKernel <;> rfl
          · rintro ⟨_, hprobed | ⟨e, he⟩⟩
            · cases hprobed
            · cases he
      | error e =>
          cases requireKernel with
          | true =>
              exact ⟨_, _, s.accepted, rfl, rfl, id,
                Or.inl ⟨⟨rfl, Or.inr ⟨e, rfl⟩⟩, _, rfl⟩⟩
          | false =>
              exact ⟨_, _, s.accepted, rfl, rfl, id, Or.inr ⟨hnot, rfl⟩⟩

end Driver

/-! ## The manager in the service -/

section Service
variable (fromCidr : String → Except String IpNet) (answers : ApplyAnswers)

def ApplyAnswers.driverAnswers : DriverAnswers := ⟨answers.driver, answers.driverConfig⟩

def ServiceState.callout (accepted : Option RgDnsRedirectConfig) (s : ServiceState) :
    CalloutState := ⟨s.dnsCallout, s.lock.session, accepted⟩

theorem exec_startKernelRedirect (proxyPort : UInt16) (excludedPids : List UInt32)
    (requireKernel : Bool) (s : ServiceState) (accepted : Option RgDnsRedirectConfig) :
    exec (startKernelRedirect answers requireKernel) s =
      ((exec (DnsCalloutManager.configureDriver answers.driverAnswers proxyPort excludedPids
          requireKernel) (s.callout accepted)).1,
        { s with dnsCallout := (exec (DnsCalloutManager.configureDriver answers.driverAnswers
          proxyPort excludedPids requireKernel) (s.callout accepted)).2.manager }) := by
  obtain ⟨moment, physicalIf, confEndpoint, driver, driverConfig, saveAppRules, saveSnapshot⟩ :=
    answers
  cases driver with
  | false => cases requireKernel <;> rfl
  | true =>
      cases driverConfig with
      | error e => cases requireKernel <;> rfl
      | ok _ => cases requireKernel <;> rfl

theorem exec_onWfp {A : Type} {m : SessionProg A} {result : Except RouteGuardError A}
    {after : WfpSessionInner} {s : ServiceState} (h : exec m s.lock.session = (result, after)) :
    ∃ s', exec (onWfp m) s = (result, s') ∧ s'.lock.session = after ∧
      s'.dnsCallout = s.dnsCallout := by
  have hresult : (exec m s.lock.session).1 = result := by rw [h]
  have hafter : (exec m s.lock.session).2 = after := by rw [h]
  exact ⟨(exec (onWfp m) s).2, Prod.ext hresult rfl, hafter, rfl⟩

/-- The service ends with the manager and the filters that the manager's own call leaves. -/
theorem installDnsCallout_callout (proxyPort : UInt16) (excludedPids : List UInt32)
    (requireKernel : Bool) (s : ServiceState) (accepted : Option RgDnsRedirectConfig) :
    ∃ accepted', (exec (installDnsCallout fromCidr answers proxyPort requireKernel) s).2.callout
        accepted' =
      (exec (DnsCalloutManager.install fromCidr answers.driverAnswers proxyPort excludedPids
        requireKernel) (s.callout accepted)).2 := by
  obtain ⟨result, manager, accepted', hdriver, hids, _, hcase⟩ := exec_configureDriver
    answers.driverAnswers proxyPort excludedPids requireKernel (s.callout accepted)
  have hstart := exec_startKernelRedirect answers proxyPort excludedPids requireKernel s accepted
  rw [hdriver] at hstart
  refine ⟨accepted', ?_⟩
  cases result with
  | error e =>
      rw [installDnsCallout, exec_bind_error hstart, DnsCalloutManager.install,
        exec_bind_error hdriver]
      rfl
  | ok _ =>
      obtain ⟨removed, hremove, _⟩ := exec_removeDns manager.filterIds s.lock.session
      obtain ⟨added, after, hadd, _⟩ := exec_installDns_cases fromCidr proxyPort removed
      obtain ⟨cleared, hcleared, hsession, hmanager⟩ :=
        exec_onWfp (s := { s with dnsCallout := manager }) hremove
      rw [← hsession] at hadd
      obtain ⟨filled, hfilled, hfinal, hkept⟩ := exec_onWfp hadd
      rw [installDnsCallout, exec_bind_ok hstart, DnsCalloutManager.install, exec_bind_ok hdriver]
      rw [hsession] at hadd
      have hremove' : exec (removeDnsRedirectFilters manager.filterIds)
          (s.callout accepted).session = (.ok (), removed) := hremove
      simp only [exec_bind, exec_get, hcleared, hfilled, onCalloutSession, exec_zoom, hremove',
        hadd]
      cases added with
      | error e =>
          simp only [ServiceState.callout, hfinal, hkept, hmanager]
      | ok ids =>
          simp only [exec_modify, exec_pure, ServiceState.callout, hfinal, hkept, hmanager]
          rfl

end Service

/-! ## When the manager is right after a call -/

namespace CalloutState

def Tidy (s : CalloutState) : Prop := s.manager.filterIds.Nodup

end CalloutState

section Steps
variable (fromCidr : String → Except String IpNet) {s : CalloutState}

/-- An install that reaches the filters lists the new ones, or keeps its list. -/
theorem exec_install_filters (answers : DriverAnswers) (proxyPort : UInt16)
    (excludedPids : List UInt32) {requireKernel : Bool} (hgo : ¬answers.Refuse requireKernel) :
    ∃ removed after, exec (DnsCalloutManager.install fromCidr answers proxyPort excludedPids
        requireKernel) s = after ∧
      (s.manager.kernelActive = s.redirecting →
        after.2.manager.kernelActive = after.2.redirecting) ∧
      FiltersRemoved (deletable s.manager.filterIds s.engine.faults) s.engine removed ∧
      (AllClear (s.engine.faults.drop s.manager.filterIds.length) 3 ∧
          after.2.manager.filterIds = List.range' removed.nextId 3 ∧
          FiltersAdded dnsRules removed after.2.engine ∨
        ∃ k < 3, FailsAfter (s.engine.faults.drop s.manager.filterIds.length) k ∧
          after.2.manager.filterIds = s.manager.filterIds ∧
          FiltersAdded (dnsRules.take k) removed after.2.engine) := by
  obtain ⟨result, manager, accepted, hdriver, hids, hkernel, hcase⟩ :=
    exec_configureDriver answers proxyPort excludedPids requireKernel s
  have hresult : result = .ok () := by
    rcases hcase with ⟨hrefuse, _⟩ | ⟨_, hok⟩
    · exact absurd hrefuse hgo
    · exact hok
  rw [hresult] at hdriver
  obtain ⟨removed, hremove, hremoved, hfaults⟩ := exec_removeDns manager.filterIds s.session
  obtain ⟨added, after, hadd, hadded⟩ := exec_installDns_cases fromCidr proxyPort removed
  rw [hids] at hremoved hfaults
  rw [hfaults] at hadded
  refine ⟨removed.engine, _, rfl, ?_, hremoved, ?_⟩
  · intro hsame
    have hafter := hkernel hsame
    rw [DnsCalloutManager.install, exec_bind_ok hdriver]
    simp only [exec_bind, exec_get, onCalloutSession, exec_zoom, hremove, hadd]
    cases added with
    | ok ids => exact hafter
    | error e => exact hafter
  · rw [DnsCalloutManager.install, exec_bind_ok hdriver]
    simp only [exec_bind, exec_get, onCalloutSession, exec_zoom, hremove, hadd]
    rcases hadded with ⟨hclear, hnew, hengine⟩ | ⟨k, hk, hfails, ⟨e, he⟩, hengine⟩
    · rw [hnew]
      exact Or.inl ⟨hclear, rfl, hengine⟩
    · rw [he]
      exact Or.inr ⟨k, hk, hfails, hids, hengine⟩

theorem exec_install_refused {answers : DriverAnswers} (proxyPort : UInt16)
    (excludedPids : List UInt32) {requireKernel : Bool} (hrefuse : answers.Refuse requireKernel) :
    ∃ e after, exec (DnsCalloutManager.install fromCidr answers proxyPort excludedPids
        requireKernel) s = (.error e, after) ∧
      after.session = s.session ∧ after.manager.filterIds = s.manager.filterIds ∧
      (s.manager.kernelActive = s.redirecting →
        after.manager.kernelActive = after.redirecting) := by
  obtain ⟨result, manager, accepted, hdriver, hids, hkernel, hcase⟩ :=
    exec_configureDriver answers proxyPort excludedPids requireKernel s
  rcases hcase with ⟨_, e, he⟩ | ⟨hgo, _⟩
  · rw [he] at hdriver
    refine ⟨e, ⟨manager, s.session, accepted⟩, ?_, rfl, hids, hkernel⟩
    rw [DnsCalloutManager.install, exec_bind_error hdriver]
  · exact absurd hrefuse hgo

/-- `remove` always succeeds. -/
theorem exec_remove (answers : DriverAnswers) :
    ∃ after, exec (DnsCalloutManager.remove answers) s = (.ok (), after) ∧
      after.manager.filterIds = [] ∧ after.manager.kernelActive = false ∧
      (after.redirecting = false ↔
        s.redirecting = false ∨ s.manager.driverPresent = true ∧ answers.configured = .ok ()) ∧
      FiltersRemoved (deletable s.manager.filterIds s.engine.faults) s.engine after.engine := by
  obtain ⟨after, hremove, hremoved, _⟩ := exec_removeDns s.manager.filterIds s.session
  obtain ⟨⟨ids, active, present⟩, session, accepted⟩ := s
  have hafter : ∀ config : Option RgDnsRedirectConfig,
      exec (onCalloutSession (removeDnsRedirectFilters ids)) ⟨⟨ids, active, present⟩, session,
        config⟩ = (.ok (), ⟨⟨ids, active, present⟩, after, config⟩) := by
    intro config
    rw [onCalloutSession, exec_zoom, hremove]
  obtain ⟨probed, configured⟩ := answers
  cases present with
  | false =>
      refine ⟨⟨⟨[], false, false⟩, after, accepted⟩, ?_, rfl, rfl, ?_, hremoved⟩
      · simp only [DnsCalloutManager.remove, exec_bind, exec_get, Bool.false_eq_true, if_false,
          hafter, exec_modify]
        rfl
      · simp only [Bool.false_eq_true, false_and, or_false]
        rfl
  | true =>
      cases configured with
      | ok _ =>
          refine ⟨⟨⟨[], false, true⟩, after, some (.loopbackV4 5353 false [])⟩, ?_, rfl, rfl,
            iff_of_true rfl (Or.inr ⟨rfl, rfl⟩), hremoved⟩
          simp only [DnsCalloutManager.remove, exec_bind, exec_get, if_true, exec_caught,
            DriverAnswers.setConfig, exec_fromResult, exec_modify, hafter]
          rfl
      | error e =>
          refine ⟨⟨⟨[], false, true⟩, after, accepted⟩, ?_, rfl, rfl, ?_, hremoved⟩
          · simp only [DnsCalloutManager.remove, exec_bind, exec_get, if_true, exec_caught,
              DriverAnswers.setConfig, exec_fromResult, hafter, exec_modify]
            rfl
          · simp only [reduceCtorEq, and_false, or_false]
            rfl

end Steps

/-- An install is refused by the driver's part, or replaces all the filters, or fails before it has
changed any; a remove deletes all the filters and reaches a driver that redirects. -/
def CalloutCall.Complete (s : CalloutState) : CalloutCall → Prop
  | .install answers faults _ _ requireKernel =>
      answers.Refuse requireKernel ∨
      AllClear faults s.manager.filterIds.length ∧
        AllClear (faults.drop s.manager.filterIds.length) 3 ∨
      deletable s.manager.filterIds faults = [] ∧
        FailsAfter (faults.drop s.manager.filterIds.length) 0
  | .remove answers faults =>
      AllClear faults s.manager.filterIds.length ∧
        (s.redirecting = false ∨ s.manager.driverPresent = true ∧ answers.configured = .ok ())

section Runs
variable (fromCidr : String → Except String IpNet) {s : CalloutState}

theorem calloutStep_tidy (s : CalloutState) (call : CalloutCall) (h : s.Tidy) :
    (calloutStep fromCidr s call).Tidy := by
  cases call with
  | install answers faults proxyPort excludedPids requireKernel =>
      have h' : (s.facing faults).Tidy := h
      by_cases hrefuse : answers.Refuse requireKernel
      · obtain ⟨e, after, hexec, _, hids, _⟩ := exec_install_refused fromCidr
          (s := s.facing faults) proxyPort excludedPids hrefuse
        rw [calloutStep, hexec, CalloutState.Tidy, hids]
        exact h'
      · obtain ⟨removed, after, hexec, _, _, hcase⟩ := exec_install_filters fromCidr
          (s := s.facing faults) answers proxyPort excludedPids hrefuse
        rw [calloutStep, hexec, CalloutState.Tidy]
        rcases hcase with ⟨_, hids, _⟩ | ⟨k, _, _, hids, _⟩
        · rw [hids]
          exact List.nodup_range'
        · rw [hids]
          exact h'
  | remove answers faults =>
      obtain ⟨after, hexec, hids, _⟩ := exec_remove (s := s.facing faults) answers
      rw [calloutStep, hexec, CalloutState.Tidy, hids]
      exact List.nodup_nil

section Install
variable {faults : List (Option String)} {removed : WfpEngine} {after : CalloutState}

theorem filterAt_left (h : s.Mirrored)
    (hremoved : FiltersRemoved (deletable s.manager.filterIds faults) (s.facing faults).engine
      removed) (id : Nat) :
    FilterAt FilterRule.isDns removed id ↔
      id ∈ s.manager.filterIds ∧ id ∉ deletable s.manager.filterIds faults := by
  rw [filterAt_removed hremoved]
  exact and_congr_left fun _ => (h.filters id).symm

theorem lt_nextId_left (h : s.Mirrored)
    (hremoved : FiltersRemoved (deletable s.manager.filterIds faults) (s.facing faults).engine
      removed) {id : Nat} (hmem : id ∈ s.manager.filterIds) : id < removed.nextId := by
  rw [hremoved.nextId]
  exact ((h.filters id).mp hmem).lt_nextId

/-- New filters are listed instead of the old ones: none of these may be left. -/
theorem replaced_mirrored_iff (htidy : s.Tidy) (h : s.Mirrored)
    (hkernel : after.manager.kernelActive = after.redirecting)
    (hremoved : FiltersRemoved (deletable s.manager.filterIds faults) (s.facing faults).engine
      removed)
    (hids : after.manager.filterIds = List.range' removed.nextId 3)
    (hadded : FiltersAdded dnsRules removed after.engine) :
    after.Mirrored ↔ AllClear faults s.manager.filterIds.length := by
  have hat := filterAt_added hadded isDns_dnsRules
  have hlen : dnsRules.length = 3 := rfl
  rw [hlen] at hat
  rw [← deletable_all_iff htidy]
  constructor
  · intro hmirrored id hmem
    by_contra hkept
    have hstill := (filterAt_left h hremoved id).mpr ⟨hmem, hkept⟩
    have hlisted := (hmirrored.filters id).mpr ((hat id).mpr (Or.inl hstill))
    rw [hids] at hlisted
    have hge := (List.mem_range'_1.mp hlisted).1
    have hlt := lt_nextId_left h hremoved hmem
    omega
  · intro hall
    refine ⟨hkernel, fun id => ?_⟩
    rw [hids, hat, filterAt_left h hremoved]
    constructor
    · exact Or.inr
    · rintro (⟨hmem, hkept⟩ | hnew)
      · exact absurd (hall id hmem) hkept
      · exact hnew

/-- The old filters stay listed: all of them must be left, and none added. -/
theorem stopped_mirrored_iff {k : Nat} (hk : k < 3) (h : s.Mirrored)
    (hkernel : after.manager.kernelActive = after.redirecting)
    (hremoved : FiltersRemoved (deletable s.manager.filterIds faults) (s.facing faults).engine
      removed)
    (hids : after.manager.filterIds = s.manager.filterIds)
    (hadded : FiltersAdded (dnsRules.take k) removed after.engine) :
    after.Mirrored ↔ deletable s.manager.filterIds faults = [] ∧ k = 0 := by
  have hat := filterAt_added hadded fun rule hmem =>
    isDns_dnsRules rule (List.mem_of_mem_take hmem)
  have hlen : (dnsRules.take k).length = k := by
    rw [List.length_take]
    have hfull : dnsRules.length = 3 := rfl
    omega
  rw [hlen] at hat
  constructor
  · intro hmirrored
    refine ⟨List.eq_nil_iff_forall_not_mem.mpr fun id hdeleted => ?_, ?_⟩
    · have hmem := mem_of_mem_deletable hdeleted
      have hpresent := (hmirrored.filters id).mp (by rw [hids]; exact hmem)
      rcases (hat id).mp hpresent with hstill | hnew
      · exact ((filterAt_left h hremoved id).mp hstill).2 hdeleted
      · have hge := (List.mem_range'_1.mp hnew).1
        have hlt := lt_nextId_left h hremoved hmem
        omega
    · -- a filter that was added is in no list
      by_contra hpos
      have hlisted := (hmirrored.filters removed.nextId).mpr ((hat _).mpr (Or.inr
        (List.mem_range'_1.mpr ⟨Nat.le_refl _, by omega⟩)))
      rw [hids] at hlisted
      exact absurd (lt_nextId_left h hremoved hlisted) (Nat.lt_irrefl _)
  · rintro ⟨hnone, hzero⟩
    refine ⟨hkernel, fun id => ?_⟩
    rw [hids, hat, filterAt_left h hremoved, hnone, hzero, List.range'_zero]
    simp only [List.not_mem_nil, not_false_eq_true, and_true, or_false]

end Install

theorem install_mirrored_iff (answers : DriverAnswers) (faults : List (Option String))
    (proxyPort : UInt16) (excludedPids : List UInt32) (requireKernel : Bool) (htidy : s.Tidy)
    (h : s.Mirrored) :
    (calloutStep fromCidr s
        (.install answers faults proxyPort excludedPids requireKernel)).Mirrored ↔
      (CalloutCall.install answers faults proxyPort excludedPids requireKernel).Complete s := by
  by_cases hrefuse : answers.Refuse requireKernel
  · obtain ⟨e, after, hexec, hsession, hids, hkernel⟩ := exec_install_refused
      fromCidr (s := s.facing faults) proxyPort excludedPids hrefuse
    rw [calloutStep, hexec]
    refine iff_of_true ⟨hkernel h.kernel, fun id => ?_⟩ (Or.inl hrefuse)
    rw [hids, CalloutState.engine, hsession]
    exact h.filters id
  · obtain ⟨removed, after, hexec, hkernel, hremoved, hcase⟩ := exec_install_filters
      fromCidr (s := s.facing faults) answers proxyPort excludedPids hrefuse
    rw [calloutStep, hexec]
    rcases hcase with ⟨hclear, hids, hadded⟩ | ⟨k, hk, hfails, hids, hadded⟩
    · rw [replaced_mirrored_iff htidy h (hkernel h.kernel) hremoved hids hadded]
      constructor
      · intro hdeleted
        exact Or.inr (Or.inl ⟨hdeleted, hclear⟩)
      · rintro (hno | ⟨hdeleted, _⟩ | ⟨_, hfirst⟩)
        · exact absurd hno hrefuse
        · exact hdeleted
        · exact absurd hfirst (hclear.not_failsAfter (by decide))
    · rw [stopped_mirrored_iff hk h (hkernel h.kernel) hremoved hids hadded]
      constructor
      · rintro ⟨hnone, hzero⟩
        rw [hzero] at hfails
        exact Or.inr (Or.inr ⟨hnone, hfails⟩)
      · rintro (hno | ⟨_, hclear⟩ | ⟨hnone, hfirst⟩)
        · exact absurd hno hrefuse
        · exact absurd hfails (hclear.not_failsAfter hk)
        · exact ⟨hnone, FailsAfter.unique hfails hfirst⟩

theorem remove_mirrored_iff (answers : DriverAnswers) (faults : List (Option String))
    (htidy : s.Tidy) (h : s.Mirrored) :
    (calloutStep fromCidr s (.remove answers faults)).Mirrored ↔
      (CalloutCall.remove answers faults).Complete s := by
  obtain ⟨after, hexec, hids, hactive, hredirecting, hremoved⟩ :=
    exec_remove (s := s.facing faults) answers
  have hat (id : Nat) : FilterAt FilterRule.isDns after.engine id ↔
      id ∈ s.manager.filterIds ∧ id ∉ deletable s.manager.filterIds faults := by
    rw [filterAt_removed hremoved, h.filters]
    rfl
  rw [calloutStep, hexec, CalloutCall.Complete, ← deletable_all_iff htidy]
  constructor
  · intro hmirrored
    refine ⟨fun id hmem => ?_, hredirecting.mp ?_⟩
    · by_contra hkept
      have hlisted := (hmirrored.filters id).mpr ((hat id).mpr ⟨hmem, hkept⟩)
      rw [hids] at hlisted
      cases hlisted
    · rw [← hmirrored.kernel]
      exact hactive
  · rintro ⟨hall, hreached⟩
    refine ⟨hactive.trans (hredirecting.mpr hreached).symm, fun id => ?_⟩
    rw [hids, hat]
    refine iff_of_false List.not_mem_nil ?_
    rintro ⟨hmem, hkept⟩
    exact hkept (hall id hmem)

def CalloutState.start (answers : DriverAnswers) (session : WfpSessionInner) : CalloutState :=
  ⟨.new answers, session, none⟩

/-- The manager is right in every state of a run exactly when every call of it is complete. -/
theorem calloutRun_mirrored_iff (answers : DriverAnswers) {session : WfpSessionInner}
    (hnone : ∀ id, ¬FilterAt FilterRule.isDns session.engine id) (calls : List CalloutCall) :
    (∀ first, first <+: calls →
        (run (calloutStep fromCidr) (.start answers session) first).Mirrored) ↔
      Guarded (calloutStep fromCidr) CalloutCall.Complete (.start answers session) calls := by
  have hstart : (CalloutState.start answers session).Mirrored :=
    ⟨rfl, fun id => iff_of_false List.not_mem_nil (hnone id)⟩
  have htidy : (CalloutState.start answers session).Tidy := List.nodup_nil
  refine holds_throughout_iff (calloutStep fromCidr) CalloutCall.Complete
    (calloutStep_tidy fromCidr) ?_ calls _ htidy hstart
  intro s call htidy h
  cases call with
  | install answers faults proxyPort excludedPids requireKernel =>
      exact install_mirrored_iff fromCidr answers faults proxyPort excludedPids requireKernel
        htidy h
  | remove answers faults => exact remove_mirrored_iff fromCidr answers faults htidy h

end Runs

def absent : DriverAnswers := ⟨false, .error (.platform "IOCTL_RG_DNS_SET_CONFIG failed")⟩

def emptySession : WfpSessionInner := ⟨.empty, []⟩

theorem emptySession_none (id : Nat) : ¬FilterAt FilterRule.isDns emptySession.engine id := by
  rintro ⟨rule, hget, _⟩
  cases hget

theorem calloutRun_mirrored_iff_twice :
    (∀ first, first <+: [CalloutCall.install absent [] 5353 [] false, .remove absent []] →
        (run (calloutStep readCidr) (.start absent emptySession) first).Mirrored) ↔
      Guarded (calloutStep readCidr) CalloutCall.Complete (.start absent emptySession)
        [.install absent [] 5353 [] false, .remove absent []] :=
  calloutRun_mirrored_iff readCidr absent emptySession_none _

/-- The engine takes the first filter and refuses the second: the first stays, and is in no list. -/
theorem refusedFilter_unlisted : ¬∀ (fromCidr : String → Except String IpNet)
    (answers : DriverAnswers) (session : WfpSessionInner) (calls : List CalloutCall),
    (∀ id, ¬FilterAt FilterRule.isDns session.engine id) →
      (run (calloutStep fromCidr) (.start answers session) calls).Mirrored := by
  intro hall
  have hmirrored := hall readCidr absent emptySession
    [.install absent [none, some "FWP_E_TIMEOUT"] 5353 [] false] emptySession_none
  have hfilter : FilterAt FilterRule.isDns (run (calloutStep readCidr) (.start absent emptySession)
      [.install absent [none, some "FWP_E_TIMEOUT"] 5353 [] false]).engine 1 := ⟨_, rfl, rfl⟩
  exact absurd ((hmirrored.filters 1).mpr hfilter) List.not_mem_nil

end RouteGuard
