import RouteGuard.Service.KernelRedirect
import RouteGuard.Service.LockWatch
import RouteGuard.Service.ProxyRuns

/-! # Requests that need the kernel

A configuration can require the redirection in the kernel.  Every request that
applies the policy asks the driver for it then, and this driver refuses. -/
set_option autoImplicit false
namespace RouteGuard

open Fallible GuardedRun

/-! ## The requests -/

/-- `kernel_redirect` of a configuration that wants a redirection at all. -/
def AppConfig.requiresKernel (cfg : AppConfig) : Bool :=
  cfg.wantsDnsRedirect && cfg.routing.domainDns.kernelRedirect

/-- What this driver answers, loaded or not, whatever the port and the clients. -/
def ApplyAnswers.OfDriver (answers : ApplyAnswers) : Prop :=
  ∃ (driver : Option DriverDevice) (port : UInt16) (excludedPids : List UInt32),
    answers.driver = driver.isSome ∧
    answers.driverConfig = driverIoSetConfig driver (.loopbackV4 port true excludedPids)

def LockRequest.answers : LockRequest → Option ApplyAnswers
  | .rules (.change _ answers) => some answers.apply
  | .rules (.configSet _ answers) => some answers.apply
  | .rules (.reload _ answers) => some answers
  | .connect _ answers => some answers
  | .lockEnable answers => some answers
  | .tunnelContext _ answers => some answers
  | .recovery _ answers _ _ => some answers
  | .disconnect _ => none
  | .lockDisable => none
  | .query => none

/-- A recovery drops the result of the policy. -/
def LockRequest.ReportsPolicy : LockRequest → Prop
  | .recovery _ _ _ _ => False
  | request => request.answers.isSome

/-- A service and, for each request it has served, the response and the configuration then. -/
structure KernelService where
  service : ServiceState
  served : List (LockRequest × Except IpcError Unit × AppConfig) := []

section Serve
variable (env : Externals) (fromCidr : String → Except String IpNet)

def KernelService.step (w : KernelService) (facing : Facing LockRequest) : KernelService :=
  let ran := exec (facing.request.program env fromCidr)
    (w.service.facing facing.faults facing.saveFault)
  ⟨ran.2, w.served ++ [(facing.request, ran.1, ran.2.ctx.config)]⟩

end Serve

theorem not_driverTakes {answers : ApplyAnswers} (h : answers.OfDriver) :
    ¬answers.DriverTakes := by
  rintro ⟨-, haccepted⟩
  obtain ⟨driver, port, excludedPids, -, hanswer⟩ := h
  obtain ⟨e, he⟩ := driverIoSetConfig_fails port true excludedPids driver
  rw [haccepted, he] at hanswer
  cases hanswer

/-! ## The flag -/

section Flag
variable {env : Externals} (fromCidr : String → Except String IpNet) {answers : ApplyAnswers}

def ServiceState.KernelIs (active : Bool) (s : ServiceState) : Prop :=
  s.dnsCallout.kernelActive = active

theorem onCtx_kernel {E A : Type} (active : Bool) (m : ServiceProg E A) :
    Keeps (ServiceState.KernelIs active) (onCtx m) := fun _ h => h

theorem onFilters_kernel {A : Type} (active : Bool) (m : FilterProg A) :
    Keeps (ServiceState.KernelIs active) (onFilters m) := by
  have hany : Keeps (fun _ : FilterState => True) m := fun _ h => h
  exact keeps_zoom hany (fun _ _ => trivial) fun _ _ h _ => h

theorem removeDnsCallout_off : Keeps (ServiceState.KernelIs false) removeDnsCallout := by
  refine keeps_bind keeps_get fun _ => keeps_bind (onFilters_kernel false _) fun _ => ?_
  exact keeps_modify fun _ _ => rfl

variable (hrefuses : ¬answers.DriverTakes)
include hrefuses

theorem startKernelRedirect_off (requireKernel : Bool) :
    Keeps (ServiceState.KernelIs false) (startKernelRedirect answers requireKernel) := by
  refine keeps_bind (keeps_modify fun _ h => h) fun _ => ?_
  split
  · exact keeps_throw _
  · split
    · rename_i hdriver
      split
      · split
        · exact keeps_throw _
        · exact keeps_pure _
      · rename_i hconfig
        exact absurd ⟨hdriver, hconfig⟩ hrefuses
    · exact keeps_pure _

theorem installDnsCallout_off (port : UInt16) (requireKernel : Bool) :
    Keeps (ServiceState.KernelIs false)
      (installDnsCallout fromCidr answers port requireKernel) := by
  refine keeps_bind (startKernelRedirect_off hrefuses requireKernel) fun _ => ?_
  refine keeps_bind keeps_get fun _ => keeps_bind (onFilters_kernel false _) fun _ => ?_
  exact keeps_bind (onFilters_kernel false _) fun _ => keeps_modify fun _ h => h

theorem applyDomainDnsWfp_off :
    Keeps (ServiceState.KernelIs false) (applyDomainDnsWfp fromCidr answers) := by
  refine keeps_bind keeps_get fun s => ?_
  dsimp only
  split
  · refine keeps_bind (keeps_caught (installDnsCallout_off fromCidr hrefuses _ _)) fun result => ?_
    split
    · split
      · exact keeps_throw _
      · exact keeps_pure _
    · exact keeps_pure _
  · exact keeps_bind (keeps_caught removeDnsCallout_off) fun _ => keeps_pure _

theorem applyFilters_off : Keeps (ServiceState.KernelIs false) (applyFilters fromCidr answers) := by
  refine keeps_bind (applyDomainDnsWfp_off fromCidr hrefuses) fun _ => ?_
  refine keeps_bind keeps_get fun _ => ?_
  dsimp only
  split
  · exact keeps_pure _
  · exact onFilters_kernel false _

theorem applySplitPolicy_off :
    Keeps (ServiceState.KernelIs false) (applySplitPolicy env fromCidr answers) :=
  keeps_bind (onCtx_kernel false _) fun _ => applyFilters_off fromCidr hrefuses

theorem changeRules_off (cfg : AppConfig) (saved : Except RouteGuardError Unit)
    (rebuild : ServiceContext → ServiceContext) : Keeps (ServiceState.KernelIs false)
      (ServiceState.changeRules env fromCidr cfg ⟨saved, answers⟩ rebuild) := by
  have hset : Keeps (ServiceState.KernelIs false) (orReply (ServiceState.setConfig cfg saved)) :=
    keeps_mapError _ (keeps_bind (onCtx_kernel false _) fun _ => keeps_fromResult _)
  refine keeps_bind keeps_get fun _ => keeps_bind hset fun _ => ?_
  split
  · exact keeps_bind (onCtx_kernel false _) fun _ => keeps_throw _
  · refine keeps_bind (onCtx_kernel false _) fun _ => ?_
    refine keeps_bind (keeps_caught (applySplitPolicy_off fromCidr hrefuses)) fun result => ?_
    split
    · refine keeps_bind ?_ fun _ => keeps_throw _
      exact keeps_bind (onCtx_kernel false _) fun _ => onCtx_kernel false _
    · exact keeps_pure _

end Flag

theorem program_off {env : Externals} {fromCidr : String → Except String IpNet}
    (request : LockRequest) (h : ∀ answers ∈ request.answers, ¬answers.DriverTakes) :
    Keeps (ServiceState.KernelIs false) (request.program env fromCidr) := by
  cases request with
  | rules request =>
      cases request with
      | change request answers =>
          have hrules := @changeRules_off env fromCidr _ (h _ rfl)
          cases request with
          | addApp paths params =>
              refine keeps_bind (keeps_bind keeps_get fun _ => ?_) fun _ => keeps_pure _
              exact keeps_bind (keeps_fromResult _) fun _ =>
                keeps_bind (hrules _ answers.saved _) fun _ => keeps_pure _
          | removeApp params =>
              refine keeps_bind (keeps_bind keeps_get fun _ => ?_) fun _ => keeps_pure _
              exact keeps_bind (keeps_fromResult _) fun _ =>
                keeps_bind (hrules _ answers.saved _) fun _ => keeps_pure _
          | importRules params rebuildAt =>
              refine keeps_bind ?_ fun _ => keeps_pure _
              unfold ServiceState.handleRoutingImportRules
              split
              · exact keeps_throw _
              · refine keeps_bind keeps_get fun _ => keeps_bind (onCtx_kernel false _) fun _ => ?_
                refine keeps_bind (hrules _ answers.saved _) fun _ => ?_
                exact keeps_bind keeps_get fun _ => keeps_pure _
      | configSet toml answers =>
          unfold LockRequest.program RuleRequest.program ServiceState.handleConfigSet
          dsimp only
          split
          · exact keeps_throw _
          · exact keeps_throw _
          · refine keeps_bind (keeps_mapError _ (keeps_bind (onCtx_kernel false _)
              fun _ => keeps_fromResult _)) fun _ => ?_
            refine keeps_bind (onCtx_kernel false _) fun _ => ?_
            exact keeps_mapError _ (applySplitPolicy_off fromCidr (h _ rfl))
      | reload load answers =>
          refine keeps_mapError _ (keeps_bind (keeps_fromResult _) fun _ => ?_)
          refine keeps_bind (onCtx_kernel false _) fun _ => ?_
          refine keeps_bind (keeps_fromResult _) fun _ => ?_
          refine keeps_bind (onCtx_kernel false _) fun _ => ?_
          exact applySplitPolicy_off fromCidr (h _ rfl)
  | connect req answers =>
      refine keeps_bind (keeps_bind (onCtx_kernel false _) fun _ => ?_) fun _ => keeps_pure _
      exact keeps_bind (keeps_mapError _ (applyFilters_off fromCidr (h _ rfl))) fun _ =>
        keeps_pure _
  | disconnect req =>
      refine keeps_bind (keeps_caught (onFilters_kernel false _)) fun _ => ?_
      refine keeps_bind keeps_get fun _ => ?_
      exact keeps_bind (keeps_caught (onFilters_kernel false _)) fun _ => onCtx_kernel false _
  | lockEnable answers =>
      refine keeps_bind (onCtx_kernel false _) fun _ => ?_
      exact keeps_mapError _ (applySplitPolicy_off fromCidr (h _ rfl))
  | lockDisable =>
      exact keeps_bind (onCtx_kernel false _) fun _ => keeps_mapError _ (onFilters_kernel false _)
  | tunnelContext params answers =>
      refine keeps_bind ?_ fun _ => keeps_pure _
      unfold ServiceState.handleRoutingSetTunnelContext
      split
      · exact keeps_throw _
      · refine keeps_bind (onCtx_kernel false _) fun _ => ?_
        exact keeps_bind (keeps_mapError _ (applySplitPolicy_off fromCidr (h _ rfl)))
          fun _ => keeps_pure _
  | recovery req answers attempt active =>
      refine keeps_bind (keeps_caught ?_) fun _ => keeps_pure _
      refine keeps_bind keeps_get fun _ => ?_
      split
      · exact keeps_pure _
      · refine keeps_bind (keeps_caught (onCtx_kernel false _)) fun result => ?_
        cases result with
        | error reason => exact keeps_bind (onCtx_kernel false _) fun _ => onCtx_kernel false _
        | ok newActive =>
            refine keeps_bind (onCtx_kernel false _) fun _ => ?_
            refine keeps_bind (onCtx_kernel false _) fun _ => ?_
            refine keeps_bind (onCtx_kernel false _) fun _ => ?_
            exact keeps_bind (keeps_caught (applySplitPolicy_off fromCidr (h _ rfl)))
              fun _ => keeps_pure _
  | query => exact keeps_pure _

/-! ## Responses -/

def ServiceState.NotRequired (s : ServiceState) : Prop := s.ctx.config.requiresKernel = false

section Responses
variable {env : Externals} (fromCidr : String → Except String IpNet) {answers : ApplyAnswers}

theorem notRequired_free : FilterFree ServiceState.NotRequired := ⟨fun _ _ h => h, fun _ _ h => h⟩

variable (hrefuses : ¬answers.DriverTakes)
include hrefuses

theorem installDnsCallout_refused (port : UInt16) (s : ServiceState) :
    ∃ e after, exec (installDnsCallout fromCidr answers port true) s = (.error e, after) := by
  have hstart : ∃ e after, exec (startKernelRedirect answers true) s = (.error e, after) := by
    rw [exec_startKernelRedirect answers 0 [] true s none]
    obtain ⟨moment, physicalIf, confEndpoint, driver, driverConfig, saveAppRules, saveSnapshot⟩ :=
      answers
    cases driver with
    | false => exact ⟨_, _, rfl⟩
    | true =>
        cases driverConfig with
        | error e => exact ⟨_, _, rfl⟩
        | ok _ => exact absurd ⟨rfl, rfl⟩ hrefuses
  obtain ⟨e, after, hexec⟩ := hstart
  exact ⟨e, after, by rw [installDnsCallout, exec_bind_error hexec]⟩

theorem applyDomainDnsWfp_ends :
    EndsIn (applyDomainDnsWfp fromCidr answers) ServiceState.NotRequired := by
  intro s u after hexec
  by_cases hrequired : s.ctx.config.requiresKernel = true
  · -- the error of the manager is passed on
    obtain ⟨hwants, hkernel⟩ := Bool.and_eq_true_iff.mp hrequired
    obtain ⟨e, failed, hinstall⟩ := installDnsCallout_refused fromCidr hrefuses
      (proxyPort s.ctx.config.routing.domainDns.listen) s
    rw [applyDomainDnsWfp, exec_bind_ok (exec_get s)] at hexec
    simp only [hwants, if_true, hkernel, exec_bind, exec_caught, hinstall, exec_throw] at hexec
    cases hexec
  · have hkept := applyDomainDnsWfp_free notRequired_free fromCidr answers s
      (Bool.eq_false_of_not_eq_true hrequired)
    rw [hexec] at hkept
    exact hkept

theorem applyFilters_ends : EndsIn (applyFilters fromCidr answers) ServiceState.NotRequired := by
  refine endsIn_keeps (applyDomainDnsWfp_ends fromCidr hrefuses) fun _ => ?_
  refine keeps_bind keeps_get fun _ => ?_
  dsimp only
  split
  · exact keeps_pure _
  · exact onFilters_free notRequired_free _

theorem applySplitPolicy_ends :
    EndsIn (applySplitPolicy env fromCidr answers) ServiceState.NotRequired :=
  endsIn_bind fun _ => applyFilters_ends fromCidr hrefuses

theorem changeRules_ends (cfg : AppConfig) (saved : Except RouteGuardError Unit)
    (rebuild : ServiceContext → ServiceContext) :
    EndsIn (ServiceState.changeRules env fromCidr cfg ⟨saved, answers⟩ rebuild)
      ServiceState.NotRequired := by
  refine endsIn_bind fun _ => endsIn_bind fun _ => ?_
  split
  · exact endsIn_bind fun _ => endsIn_throw _
  · refine endsIn_bind fun _ => ?_
    exact endsIn_caught (applySplitPolicy_ends fromCidr hrefuses)
      (fun _ => endsIn_bind fun _ => endsIn_throw _) fun _ => keeps_pure _

end Responses

/-- A request that applies the policy and reports it answers with success under a configuration
that does not require the kernel. -/
theorem program_ends {env : Externals} {fromCidr : String → Except String IpNet}
    {request : LockRequest} (hreports : request.ReportsPolicy)
    (h : ∀ answers ∈ request.answers, ¬answers.DriverTakes) :
    EndsIn (request.program env fromCidr) ServiceState.NotRequired := by
  cases request with
  | rules request =>
      cases request with
      | change request answers =>
          have hrules := @changeRules_ends env fromCidr _ (h _ rfl)
          cases request with
          | addApp paths params =>
              refine endsIn_keeps ?_ fun _ => keeps_pure _
              refine endsIn_bind fun _ => endsIn_bind fun _ => ?_
              exact endsIn_keeps (hrules _ answers.saved _) fun _ => keeps_pure _
          | removeApp params =>
              refine endsIn_keeps ?_ fun _ => keeps_pure _
              refine endsIn_bind fun _ => endsIn_bind fun _ => ?_
              exact endsIn_keeps (hrules _ answers.saved _) fun _ => keeps_pure _
          | importRules params rebuildAt =>
              refine endsIn_keeps ?_ fun _ => keeps_pure _
              unfold ServiceState.handleRoutingImportRules
              split
              · exact endsIn_throw _
              · refine endsIn_bind fun _ => endsIn_bind fun _ => ?_
                refine endsIn_keeps (hrules _ answers.saved _) fun _ => ?_
                exact keeps_bind keeps_get fun _ => keeps_pure _
      | configSet toml answers =>
          unfold LockRequest.program RuleRequest.program ServiceState.handleConfigSet
          dsimp only
          split
          · exact endsIn_throw _
          · exact endsIn_throw _
          · refine endsIn_bind fun _ => endsIn_bind fun _ => ?_
            exact endsIn_mapError _ (applySplitPolicy_ends fromCidr (h _ rfl))
      | reload load answers =>
          refine endsIn_mapError _ (endsIn_bind fun _ => endsIn_bind fun _ => ?_)
          exact endsIn_bind fun _ => endsIn_bind fun _ => applySplitPolicy_ends fromCidr (h _ rfl)
  | connect req answers =>
      refine endsIn_keeps (endsIn_bind fun _ => ?_) fun _ => keeps_pure _
      exact endsIn_keeps (endsIn_mapError _ (applyFilters_ends fromCidr (h _ rfl)))
        fun _ => keeps_pure _
  | lockEnable answers =>
      refine endsIn_bind fun _ => ?_
      exact endsIn_mapError _ (applySplitPolicy_ends fromCidr (h _ rfl))
  | tunnelContext params answers =>
      refine endsIn_keeps ?_ fun _ => keeps_pure _
      unfold ServiceState.handleRoutingSetTunnelContext
      split
      · exact endsIn_throw _
      · refine endsIn_bind fun _ => ?_
        exact endsIn_keeps (endsIn_mapError _ (applySplitPolicy_ends fromCidr (h _ rfl)))
          fun _ => keeps_pure _
  | recovery req answers attempt active => exact absurd hreports not_false
  | disconnect req | lockDisable | query => cases hreports

/-! ## Runs -/

namespace KernelService

/-- The flag is off, and no request that applied the policy under a configuration that requires the
kernel has answered with success. -/
structure NeverKernel (w : KernelService) : Prop where
  inactive : w.service.dnsCallout.kernelActive = false
  refused : ∀ request response cfg, (request, response, cfg) ∈ w.served →
    request.ReportsPolicy → cfg.requiresKernel = true → ∃ e, response = .error e

variable {env : Externals} {fromCidr : String → Except String IpNet}

theorem step_neverKernel (w : KernelService) (facing : Facing LockRequest) (h : w.NeverKernel)
    (hdriver : ∀ answers ∈ facing.request.answers, answers.OfDriver) :
    (w.step env fromCidr facing).NeverKernel := by
  have hrefuses : ∀ answers ∈ facing.request.answers, ¬answers.DriverTakes :=
    fun answers hmem => not_driverTakes (hdriver answers hmem)
  refine ⟨program_off facing.request hrefuses _ h.inactive, ?_⟩
  intro request response cfg hmem hreports hrequired
  rcases List.mem_append.mp hmem with hold | hnew
  · exact h.refused request response cfg hold hreports hrequired
  · obtain ⟨rfl, hserved⟩ := Prod.mk.inj (List.mem_singleton.mp hnew)
    obtain ⟨rfl, rfl⟩ := Prod.mk.inj hserved
    have hends := @program_ends env fromCidr facing.request hreports hrefuses
      (w.service.facing facing.faults facing.saveFault)
    generalize exec (facing.request.program env fromCidr)
      (w.service.facing facing.faults facing.saveFault) = ran at hends hrequired ⊢
    obtain ⟨result, after⟩ := ran
    cases result with
    | error e => exact ⟨e, rfl⟩
    | ok u => exact absurd (hrequired.symm.trans (hends u after rfl)) Bool.false_ne_true.symm

/-- With this driver a configuration that requires the kernel stops every request that applies the
policy, also the one that is to enable the network lock. -/
theorem run_neverKernel {at_ : Moment} {config : AppConfig} {loaded : Option DomainRouteStore}
    {os : Os} {lock : LockContext} {driver : Bool} {s : ServiceState}
    (hnew : ServiceState.new env at_ config loaded os lock driver = .ok s)
    (requests : List (Facing LockRequest))
    (hdriver : ∀ facing ∈ requests, ∀ answers ∈ facing.request.answers, answers.OfDriver) :
    (run (step env fromCidr) ⟨s, []⟩ requests).NeverKernel := by
  obtain ⟨engine, store, domain, -, rfl, -⟩ := ServiceState.new_cases hnew
  refine run_invariant (step env fromCidr)
    (fun _ facing => ∀ answers ∈ facing.request.answers, answers.OfDriver)
    (fun w facing h hfacing => step_neverKernel w facing h hfacing) requests _ ⟨rfl, ?_⟩ ?_
  · intro request response cfg hmem
    cases hmem
  · exact guarded_of_forall _ _ (fun facing hmem _ => hdriver facing hmem) _

def refusedAnswers : ApplyAnswers :=
  { calmAnswers with
    driver := true
    driverConfig := .error (.platform "IOCTL_RG_DNS_SET_CONFIG failed") }

theorem refusedAnswers_ofDriver : refusedAnswers.OfDriver := by
  refine ⟨some {}, 5353, [4], rfl, ?_⟩
  simp only [driverIoSetConfig, answer_setRequest, IoctlStatus.nt.injEq, reduceCtorEq, if_false]
  rfl

theorem run_neverKernel_lockEnable :
    (run (step .asciiIpv4 readCidr) ⟨plainService, []⟩
      [⟨.lockEnable refusedAnswers, [], none⟩]).NeverKernel := by
  refine run_neverKernel plainService_new _ fun facing hmem answers hanswers => ?_
  rw [List.mem_singleton.mp hmem] at hanswers
  cases hanswers
  exact refusedAnswers_ofDriver

end KernelService

end RouteGuard
