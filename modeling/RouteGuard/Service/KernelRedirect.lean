import RouteGuard.Driver.DeviceControl
import RouteGuard.Service.CalloutRuns

/-! # The redirection against this driver

`DnsCalloutManager` with `RgDeviceControl` behind `driver_io`: calls of the
manager, loads and unloads of the driver, its classify calls and the requests of
other programs in any order. -/
set_option autoImplicit false
namespace RouteGuard

open Fallible GuardedRun

/-! ## The driver behind the manager -/

/-- What `driver_io::set_config` asks of the device: there is no output buffer. -/
def RgDnsRedirectConfig.setRequest (config : RgDnsRedirectConfig) : IoctlRequest :=
  ⟨ioctlRgDnsSetConfig, config.image, 0⟩

def driverIoSetConfig (driver : Option DriverDevice) (config : RgDnsRedirectConfig) :
    Except RouteGuardError Unit :=
  match driver with
  | none => .error (.platform "RouteGuardCallout device not available")
  | some device =>
      if (device.answer config.setRequest).status = .nt .success then .ok ()
      else .error (.platform "IOCTL_RG_DNS_SET_CONFIG failed")

/-- `past` lists the classify calls of drivers that were unloaded. -/
structure RedirectWorld where
  callout : CalloutState
  driver : Option DriverDevice := none
  past : List ClassifyResult := []

/-- `device` is a step of a classify call, or a request of another program. -/
inductive RedirectStep where
  | load
  | unload
  | device (event : DeviceStep)
  | install (faults : List (Option String)) (proxyPort : UInt16) (excludedPids : List UInt32)
      (requireKernel : Bool)
  | remove (faults : List (Option String))

namespace RedirectWorld

def results (w : RedirectWorld) : List ClassifyResult :=
  w.past ++ (w.driver.map fun device => device.callout.results).getD []

def answers (w : RedirectWorld) (config : RgDnsRedirectConfig) : DriverAnswers :=
  ⟨w.driver.isSome, driverIoSetConfig w.driver config⟩

def sent (w : RedirectWorld) (config : RgDnsRedirectConfig) : Option DriverDevice :=
  w.driver.map fun device => device.step (.ioctl config.setRequest)

def start (earlier : Option (List DeviceStep)) (session : WfpSessionInner) : RedirectWorld where
  callout := .start ⟨earlier.isSome, .ok ()⟩ session
  driver := earlier.map (run DriverDevice.step {})

/-- `install` asks a driver that it finds, `remove` one that was found before. -/
def step (fromCidr : String → Except String IpNet) (w : RedirectWorld) :
    RedirectStep → RedirectWorld
  | .load => { w with driver := some (w.driver.getD {}) }
  | .unload => { w with driver := none, past := w.results }
  | .device event => { w with driver := w.driver.map fun device => device.step event }
  | .install faults proxyPort excludedPids requireKernel =>
      let config := RgDnsRedirectConfig.loopbackV4 proxyPort true excludedPids
      { w with
        callout := calloutStep fromCidr w.callout
          (.install (w.answers config) faults proxyPort excludedPids requireKernel)
        driver := w.sent config }
  | .remove faults =>
      let config := RgDnsRedirectConfig.loopbackV4 5353 false []
      { w with
        callout := calloutStep fromCidr w.callout (.remove (w.answers config) faults)
        driver := if w.callout.manager.driverPresent then w.sent config else w.driver }

end RedirectWorld

/-! ## What the manager gets from this driver -/

section Refused
variable (proxyPort : UInt16) (enabled : Bool) (excludedPids : List UInt32)

/-- The driver refuses every record of the service. -/
theorem answer_setRequest (device : DriverDevice) :
    (device.answer (RgDnsRedirectConfig.loopbackV4 proxyPort enabled
      excludedPids).setRequest).status = .nt .invalidParameter := by
  rw [DriverDevice.answer, rgDeviceControl, RgDnsRedirectConfig.setRequest, if_pos rfl,
    rgSetConfig_loopbackV4]

theorem driverIoSetConfig_fails (driver : Option DriverDevice) :
    ∃ e, driverIoSetConfig driver (.loopbackV4 proxyPort enabled excludedPids) = .error e := by
  cases driver with
  | none => exact ⟨_, rfl⟩
  | some device =>
      refine ⟨.platform "IOCTL_RG_DNS_SET_CONFIG failed", ?_⟩
      simp only [driverIoSetConfig, answer_setRequest, IoctlStatus.nt.injEq, reduceCtorEq, if_false]

/-- The request of the manager changes no configuration. -/
theorem setRequest_callout (device : DriverDevice) :
    (device.step (.ioctl (RgDnsRedirectConfig.loopbackV4 proxyPort enabled
      excludedPids).setRequest)).callout = device.callout := by
  have hrefused := rgSetConfig_loopbackV4 proxyPort enabled excludedPids device.callout.config
  simp [DriverDevice.step, DeviceStep.callout, RgDnsRedirectConfig.setRequest, Callout.step,
    hrefused]

end Refused

/-! ## The manager without a driver that accepts -/

/-- The driver has accepted nothing, and the manager does not say otherwise. -/
structure CalloutState.Idle (s : CalloutState) : Prop where
  inactive : s.manager.kernelActive = false
  unaccepted : s.accepted = none

section Manager
variable (fromCidr : String → Except String IpNet) {answers : DriverAnswers} {e : RouteGuardError}
  {s : CalloutState}

theorem exec_configureDriver_fails (hfails : answers.configured = .error e) (proxyPort : UInt16)
    (excludedPids : List UInt32) (requireKernel : Bool) :
    ∃ result, exec (DnsCalloutManager.configureDriver answers proxyPort excludedPids
        requireKernel) s =
      (result, s.withManager fun manager => { manager with driverPresent := answers.probed }) := by
  obtain ⟨probed, configured⟩ := answers
  dsimp only at hfails
  subst hfails
  cases probed <;> cases requireKernel <;> exact ⟨_, rfl⟩

theorem install_idle (h : s.Idle) (hfails : answers.configured = .error e) (proxyPort : UInt16)
    (excludedPids : List UInt32) (requireKernel : Bool) :
    (exec (DnsCalloutManager.install fromCidr answers proxyPort excludedPids requireKernel)
      s).2.Idle := by
  obtain ⟨result, hdriver⟩ :=
    exec_configureDriver_fails (s := s) hfails proxyPort excludedPids requireKernel
  cases result with
  | error e =>
      rw [DnsCalloutManager.install, exec_bind_error hdriver]
      exact ⟨h.inactive, h.unaccepted⟩
  | ok _ =>
      obtain ⟨removed, hremove, _⟩ := exec_removeDns s.manager.filterIds s.session
      obtain ⟨added, after, hadd, _⟩ := exec_installDns_cases fromCidr proxyPort removed
      rw [DnsCalloutManager.install, exec_bind_ok hdriver]
      simp only [exec_bind, exec_get, onCalloutSession, exec_zoom, CalloutState.withManager,
        hremove, hadd]
      cases added with
      | error e => exact ⟨h.inactive, h.unaccepted⟩
      | ok ids => exact ⟨h.inactive, h.unaccepted⟩

theorem remove_idle (h : s.Idle) (hfails : answers.configured = .error e) :
    (exec (DnsCalloutManager.remove answers) s).2.Idle := by
  obtain ⟨removed, hremove, _⟩ := exec_removeDns s.manager.filterIds s.session
  obtain ⟨⟨ids, active, present⟩, session, accepted⟩ := s
  obtain ⟨probed, configured⟩ := answers
  dsimp only at hfails
  subst hfails
  cases present with
  | false =>
      simp only [DnsCalloutManager.remove, exec_bind, exec_get, Bool.false_eq_true, if_false,
        onCalloutSession, exec_zoom, hremove, exec_modify]
      exact ⟨rfl, h.unaccepted⟩
  | true =>
      simp only [DnsCalloutManager.remove, exec_bind, exec_get, if_true, exec_caught,
        DriverAnswers.setConfig, exec_fromResult, onCalloutSession, exec_zoom, hremove,
        exec_modify]
      exact ⟨rfl, h.unaccepted⟩

end Manager

/-! ## Runs -/

def RedirectStep.accepted : RedirectStep → Option DriverConfig
  | .device event => event.accepted
  | _ => none

namespace RedirectWorld
variable (fromCidr : String → Except String IpNet)

def otherConfigs (earlier : Option (List DeviceStep)) (steps : List RedirectStep) :
    List DriverConfig :=
  (earlier.getD []).filterMap DeviceStep.accepted ++ steps.filterMap RedirectStep.accepted

/-- An install that requires the kernel answers with an error and leaves the filters. -/
def Refuses (w : RedirectWorld) : Prop := ∀ faults proxyPort excludedPids,
  let answers := w.answers (.loopbackV4 proxyPort true excludedPids)
  ∃ e after, exec (DnsCalloutManager.install fromCidr answers proxyPort excludedPids true)
      (w.callout.facing faults) = (.error e, after) ∧
    after.session = (w.callout.facing faults).session ∧
    after.manager.filterIds = w.callout.manager.filterIds

/-- The service redirects nothing: what is redirected goes where another program wants it. -/
structure Unredirected (others : List DriverConfig) (w : RedirectWorld) : Prop where
  inactive : w.callout.manager.kernelActive = false
  config : ∀ device, w.driver = some device →
    device.callout.config = driverEntryConfig ∨ device.callout.config ∈ others
  refuses : w.Refuses fromCidr
  results : ∀ result ∈ w.results, ClassifyResult.DrawnFrom (fun config => config ∈ others) result

/-- The manager and the driver go their own ways. -/
structure Apart (others : List DriverConfig) (w : RedirectWorld) : Prop where
  idle : w.callout.Idle
  driver : ∀ device ∈ w.driver, Callout.Drawn (DriverConfig.OneOf others) device.callout
  past : ∀ result ∈ w.past, ClassifyResult.DrawnFrom
    (fun config => config ∈ result.inForce ∧ config.OneOf others) result

section Steps
variable {others : List DriverConfig} {w : RedirectWorld}

theorem Apart.results (h : w.Apart others) {result : ClassifyResult} (hmem : result ∈ w.results) :
    ClassifyResult.DrawnFrom (fun config => config ∈ result.inForce ∧ config.OneOf others)
      result := by
  rcases List.mem_append.mp hmem with hpast | hnow
  · exact h.past result hpast
  · cases hdriver : w.driver with
    | none =>
        rw [hdriver] at hnow
        cases hnow
    | some device =>
        rw [hdriver] at hnow
        exact (h.driver device hdriver).results result hnow

theorem refuses (w : RedirectWorld) : w.Refuses fromCidr := by
  intro faults proxyPort excludedPids
  have hrefuse : (w.answers (.loopbackV4 proxyPort true excludedPids)).Refuse true :=
    ⟨rfl, Or.inr (driverIoSetConfig_fails proxyPort true excludedPids w.driver)⟩
  obtain ⟨e, after, hexec, hsession, hids, _⟩ := exec_install_refused fromCidr
    (s := w.callout.facing faults) proxyPort excludedPids hrefuse
  exact ⟨e, after, hexec, hsession, hids⟩

/-- A request of the manager leaves the driver as it was. -/
theorem sent_drawn (h : w.Apart others) (proxyPort : UInt16) (enabled : Bool)
    (excludedPids : List UInt32) :
    ∀ device ∈ w.sent (.loopbackV4 proxyPort enabled excludedPids),
      Callout.Drawn (DriverConfig.OneOf others) device.callout := by
  intro device hdevice
  obtain ⟨earlier, hearlier, rfl⟩ := Option.map_eq_some_iff.mp hdevice
  rw [setRequest_callout]
  exact h.driver earlier hearlier

theorem step_apart (event : RedirectStep) (h : w.Apart others)
    (haccepted : ∀ config ∈ event.accepted, config ∈ others) :
    (w.step fromCidr event).Apart others := by
  cases event with
  | load =>
      refine ⟨h.idle, ?_, h.past⟩
      intro device hdevice
      cases hdriver : w.driver with
      | none =>
          rw [step, hdriver] at hdevice
          cases hdevice
          exact (DriverDevice.new_kept others).drawn
      | some earlier =>
          rw [step, hdriver] at hdevice
          cases hdevice
          exact h.driver earlier hdriver
  | unload =>
      refine ⟨h.idle, ?_, fun result hmem => h.results hmem⟩
      intro device hdevice
      cases hdevice
  | device event =>
      refine ⟨h.idle, ?_, h.past⟩
      intro device hdevice
      obtain ⟨earlier, hearlier, rfl⟩ := Option.map_eq_some_iff.mp hdevice
      exact DriverDevice.step_drawn (h.driver earlier hearlier) event fun config hconfig =>
        Or.inr (haccepted config hconfig)
  | install faults proxyPort excludedPids requireKernel =>
      obtain ⟨e, hfails⟩ := driverIoSetConfig_fails proxyPort true excludedPids w.driver
      have hidle : (w.callout.facing faults).Idle := ⟨h.idle.inactive, h.idle.unaccepted⟩
      exact ⟨install_idle fromCidr hidle hfails proxyPort excludedPids requireKernel,
        sent_drawn h proxyPort true excludedPids, h.past⟩
  | remove faults =>
      obtain ⟨e, hfails⟩ := driverIoSetConfig_fails 5353 false [] w.driver
      have hidle : (w.callout.facing faults).Idle := ⟨h.idle.inactive, h.idle.unaccepted⟩
      refine ⟨remove_idle hidle hfails, ?_, h.past⟩
      intro device hdevice
      rw [step] at hdevice
      dsimp only at hdevice
      split at hdevice
      · exact sent_drawn h 5353 false [] device hdevice
      · exact h.driver device hdevice

end Steps

theorem start_apart {others : List DriverConfig} (earlier : Option (List DeviceStep))
    (session : WfpSessionInner)
    (haccepted : ∀ event ∈ earlier.getD [], ∀ config ∈ event.accepted, config ∈ others) :
    (start earlier session).Apart others := by
  refine ⟨⟨rfl, rfl⟩, ?_, ?_⟩
  · intro device hdevice
    obtain ⟨events, rfl, rfl⟩ := Option.map_eq_some_iff.mp hdevice
    exact (DriverDevice.run_kept haccepted).drawn
  · intro result hmem
    cases hmem

/-- However the manager is called while the driver is loaded, asked and unloaded. -/
theorem run_unredirected (earlier : Option (List DeviceStep)) (session : WfpSessionInner)
    (steps : List RedirectStep) :
    (run (step fromCidr) (start earlier session) steps).Unredirected fromCidr
      (otherConfigs earlier steps) := by
  have hapart : (run (step fromCidr) (start earlier session) steps).Apart
      (otherConfigs earlier steps) := by
    refine run_invariant (step fromCidr)
      (fun _ event => ∀ config ∈ event.accepted, config ∈ otherConfigs earlier steps)
      (fun w event h hevent => step_apart fromCidr event h hevent) steps _ ?_ ?_
    · refine start_apart earlier session fun event hmem config hconfig => ?_
      exact List.mem_append_left _ (List.mem_filterMap.mpr ⟨event, hmem, hconfig⟩)
    · refine guarded_of_forall _ _ (fun event hmem _ config hconfig => ?_) _
      exact List.mem_append_right _ (List.mem_filterMap.mpr ⟨event, hmem, hconfig⟩)
  exact ⟨hapart.idle.inactive, fun device hdevice => (hapart.driver device hdevice).config,
    refuses fromCidr _,
    fun result hmem => (hapart.results hmem).of_oneOf.mono fun _ hconfig => hconfig.2⟩

end RedirectWorld

end RouteGuard
