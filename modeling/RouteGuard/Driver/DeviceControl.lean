import RouteGuard.Driver.Classify
import Mathlib.Data.List.GetD
import Mathlib.Data.List.Induction

/-! # The device of the driver

`DriverEntry` as far as the configuration goes, `RgDeviceControl` of `device.c`
and the records of `rg_callout_ioctl.h` as the service reads them.  A run
interleaves requests of any program with classify calls of the datagram layers. -/
set_option autoImplicit false
namespace RouteGuard

open GuardedRun LittleEndian

/-! ## Requests -/

def ctlCode (deviceType function method access : UInt32) : UInt32 :=
  (deviceType <<< 16) ||| (access <<< 14) ||| (function <<< 2) ||| method

def rgIoctlDeviceType : UInt32 := 0x8000

def ioctlRgDnsSetConfig : UInt32 := ctlCode rgIoctlDeviceType 0x800 0 2

def ioctlRgDnsGetStatus : UInt32 := ctlCode rgIoctlDeviceType 0x801 0 1

def ioctlRgDnsGetStats : UInt32 := ctlCode rgIoctlDeviceType 0x802 0 1

/-- The system buffer holds the input and is as long as the longer of input and output. -/
structure IoctlRequest where
  code : UInt32
  input : List UInt8
  outLen : Nat

inductive IoctlStatus where
  | nt (status : NtStatus)
  | invalidDeviceRequest
deriving DecidableEq, Repr

/-- `output` is what the I/O manager copies back: the first `information` bytes of the buffer. -/
structure IoctlResponse where
  status : IoctlStatus
  information : Nat := 0
  output : List UInt8 := []
deriving DecidableEq, Repr

/-! ## Records -/

structure RgDnsRedirectStatus where
  version : UInt32
  enabled : UInt8
  driverReady : UInt8
  proxyPort : UInt16
  driverVersionMajor : UInt32
  driverVersionMinor : UInt32
deriving DecidableEq, Repr

namespace RgDnsRedirectStatus

def layout : List Nat := [4, 1, 1, 2, 4, 4]

def size : Nat := layout.sum

def parts (status : RgDnsRedirectStatus) : List (List UInt8) :=
  [bytes 4 status.version.toNat,
   [status.enabled],
   [status.driverReady],
   bytes 2 status.proxyPort.toNat,
   bytes 4 status.driverVersionMajor.toNat,
   bytes 4 status.driverVersionMinor.toNat]

def image (status : RgDnsRedirectStatus) : List UInt8 := status.parts.flatten

def read (buffer : List UInt8) : RgDnsRedirectStatus where
  version := UInt32.ofNat (value (field layout 0 buffer))
  enabled := (field layout 1 buffer).getD 0 0
  driverReady := (field layout 2 buffer).getD 0 0
  proxyPort := UInt16.ofNat (value (field layout 3 buffer))
  driverVersionMajor := UInt32.ofNat (value (field layout 4 buffer))
  driverVersionMinor := UInt32.ofNat (value (field layout 5 buffer))

theorem parts_layout (status : RgDnsRedirectStatus) : status.parts.map List.length = layout := by
  simp only [parts, layout, List.map_cons, List.map_nil, length_bytes, List.length_singleton]

theorem length_image (status : RgDnsRedirectStatus) : status.image.length = size := by
  rw [image, List.length_flatten, parts_layout]
  rfl

theorem read_image (status : RgDnsRedirectStatus) : read status.image = status := by
  have hfield : ∀ i, i < 6 → field layout i status.image = status.parts.getD i [] := by
    intro i hi
    rw [← parts_layout status, image, ← List.append_nil status.parts.flatten]
    exact field_flatten status.parts [] i hi
  simp only [read, hfield _ (by decide : 0 < 6), hfield _ (by decide : 1 < 6),
    hfield _ (by decide : 2 < 6), hfield _ (by decide : 3 < 6), hfield _ (by decide : 4 < 6),
    hfield _ (by decide : 5 < 6), parts, List.getD_cons_zero, List.getD_cons_succ, u32_bytes,
    u16_bytes]

end RgDnsRedirectStatus

namespace RgDnsRedirectStats

def counters (stats : RgDnsRedirectStats) : List UInt64 :=
  [stats.redirectedV4, stats.redirectedV6, stats.redirectedTcpV4, stats.redirectedTcpV6,
   stats.skippedLoopback, stats.skippedExcluded, stats.skippedDisabled, stats.errors]

def size : Nat := 64

def image (stats : RgDnsRedirectStats) : List UInt8 :=
  (stats.counters.map UInt64.toNat).flatMap (bytes 8)

def read (buffer : List UInt8) : RgDnsRedirectStats :=
  let counters := (values 8 8 buffer).map UInt64.ofNat
  ⟨counters.getD 0 0, counters.getD 1 0, counters.getD 2 0, counters.getD 3 0, counters.getD 4 0,
    counters.getD 5 0, counters.getD 6 0, counters.getD 7 0⟩

theorem length_image (stats : RgDnsRedirectStats) : stats.image.length = size := by
  rw [image, length_flatMap_bytes]
  rfl

theorem read_image (stats : RgDnsRedirectStats) : read stats.image = stats := by
  have hlt : ∀ n ∈ stats.counters.map UInt64.toNat, n < 256 ^ 8 := by
    intro n hn
    obtain ⟨m, _, rfl⟩ := List.mem_map.mp hn
    exact m.toNat_lt
  have hread : (values 8 8 stats.image).map UInt64.ofNat = stats.counters := by
    have hid : UInt64.ofNat ∘ UInt64.toNat = id := funext fun n => UInt64.ofNat_toNat
    have hvalues := values_flatMap (stats.counters.map UInt64.toNat) hlt
    rw [List.length_map] at hvalues
    exact (congrArg (List.map UInt64.ofNat) hvalues).trans (by rw [List.map_map, hid, List.map_id])
  rw [read, hread]
  rfl

end RgDnsRedirectStats

/-! ## The device -/

def deviceStatus (config : DriverConfig) : RgDnsRedirectStatus :=
  ⟨rgDnsConfigVersion, config.enabled, 1, config.proxyPort, 1, 0⟩

def rgDeviceControl (config : DriverConfig) (stats : RgDnsRedirectStats) (req : IoctlRequest) :
    IoctlResponse × DriverConfig :=
  if req.code = ioctlRgDnsSetConfig then
    let (status, config) := rgSetConfig config req.input
    ({ status := .nt status }, config)
  else if req.code = ioctlRgDnsGetStatus then
    if req.outLen < RgDnsRedirectStatus.size then ({ status := .nt .bufferTooSmall }, config)
    else (⟨.nt .success, RgDnsRedirectStatus.size, (deviceStatus config).image⟩, config)
  else if req.code = ioctlRgDnsGetStats then
    if req.outLen < RgDnsRedirectStats.size then ({ status := .nt .bufferTooSmall }, config)
    else (⟨.nt .success, RgDnsRedirectStats.size, stats.image⟩, config)
  else ({ status := .invalidDeviceRequest }, config)

structure DriverDevice where
  callout : Callout := {}
  stats : RgDnsRedirectStats := {}
  responses : List (IoctlRequest × IoctlResponse) := []

inductive DeviceStep where
  | enter (call : Nat) (datagram : Datagram)
  | copy (call : Nat)
  | checkPid (call : Nat)
  | leave (call : Nat)
  | ioctl (req : IoctlRequest)

/-- What the step is for the classify calls; only one request matters to them. -/
def DeviceStep.callout : DeviceStep → Option CalloutStep
  | .enter call datagram => some (.enter call datagram)
  | .copy call => some (.copy call)
  | .checkPid call => some (.checkPid call)
  | .leave call => some (.leave call)
  | .ioctl req => if req.code = ioctlRgDnsSetConfig then some (.setConfig req.input) else none

namespace DriverDevice

/-- A call counts itself up, beside no lock, and returns. -/
def count (w : DriverDevice) : DeviceStep → RgDnsRedirectStats
  | .leave call =>
      match w.callout.calls call with
      | some c =>
          match c.copied, c.verdict with
          | some copied, some verdict => w.stats.count copied c.datagram verdict
          | _, _ => w.stats
      | none => w.stats
  | _ => w.stats

def answer (w : DriverDevice) (req : IoctlRequest) : IoctlResponse :=
  (rgDeviceControl w.callout.config w.stats req).1

def step (w : DriverDevice) (event : DeviceStep) : DriverDevice where
  callout := event.callout.elim w.callout w.callout.step
  stats := w.count event
  responses := match event with
    | .ioctl req => w.responses ++ [(req, w.answer req)]
    | _ => w.responses

end DriverDevice

/-! ## Where datagrams are sent -/

/-- The second address is `::100`, which the driver takes for `::1`. -/
def ToProxy (remote : RemoteAddr) (addr : List UInt8) (port : UInt16) : Prop :=
  port ≠ 0 ∧ port ≠ 53 ∧
    match remote with
    | .v4 _ => addr.length = 4 ∧ rgIsLoopbackAddrV4 addr = true
    | .v6 _ => addr = List.replicate 14 0 ++ [1, 0]

/-- A redirected datagram was for port 53 of another host. -/
def ClassifyResult.Directed (result : ClassifyResult) : Prop :=
  ∀ addr port, result.verdict = .rewrite addr port → result.datagram.remotePort = 53 ∧
    result.datagram.remote.isLoopback = false ∧ ToProxy result.datagram.remote addr port

/-- A redirect is that of a configuration with the property. -/
def ClassifyResult.DrawnFrom (P : DriverConfig → Prop) (result : ClassifyResult) : Prop :=
  ∀ addr port, result.verdict = .rewrite addr port → ∃ config, P config ∧
    beforePid config result.datagram = none ∧
    config.proxy result.datagram.remote = addr ∧ config.proxyPort = port

theorem ClassifyResult.DrawnFrom.mono {P Q : DriverConfig → Prop} {result : ClassifyResult}
    (h : ClassifyResult.DrawnFrom P result) (himp : ∀ config, P config → Q config) :
    ClassifyResult.DrawnFrom Q result := by
  intro addr port hrewrite
  obtain ⟨config, hconfig, hdrawn⟩ := h addr port hrewrite
  exact ⟨config, himp config hconfig, hdrawn⟩

def DriverConfig.OneOf (configs : List DriverConfig) (config : DriverConfig) : Prop :=
  config = driverEntryConfig ∨ config ∈ configs

/-- The configuration of the start redirects nothing. -/
theorem ClassifyResult.DrawnFrom.of_oneOf {P : DriverConfig → Prop} {configs : List DriverConfig}
    {result : ClassifyResult}
    (h : ClassifyResult.DrawnFrom (fun config => P config ∧ config.OneOf configs) result) :
    ClassifyResult.DrawnFrom (fun config => P config ∧ config ∈ configs) result := by
  intro addr port hrewrite
  obtain ⟨config, ⟨hP, rfl | hmem⟩, hbefore, hproxy⟩ := h addr port hrewrite
  · exact absurd rfl ((Callout.beforePid_eq_none_iff _ _).mp hbefore).1
  · exact ⟨config, ⟨hP, hmem⟩, hbefore, hproxy⟩

section Usable
variable {buffer : List UInt8}

theorem rgSetConfig_cases (config : DriverConfig) (buffer : List UInt8) :
    (DriverConfig.size ≤ buffer.length ∧ rgValidateConfig (DriverConfig.read buffer) = true ∧
      rgSetConfig config buffer = (.success, DriverConfig.read buffer)) ∨
    ((buffer.length < DriverConfig.size ∨ rgValidateConfig (DriverConfig.read buffer) = false) ∧
      ∃ status, status ≠ .success ∧ rgSetConfig config buffer = (status, config)) := by
  rw [rgSetConfig]
  split
  · rename_i hshort
    exact Or.inr ⟨Or.inl hshort, _, NtStatus.noConfusion, rfl⟩
  · rename_i hlong
    cases hvalid : rgValidateConfig (DriverConfig.read buffer) with
    | true => exact Or.inl ⟨by omega, rfl, rfl⟩
    | false => exact Or.inr ⟨Or.inr rfl, _, NtStatus.noConfusion, rfl⟩

end Usable

namespace Callout

/-- Every configuration that a call may act on has the property, and every redirect is drawn from
one in force during the call. -/
structure Drawn (P : DriverConfig → Prop) (w : Callout) : Prop where
  traced : w.Traced
  config : P w.config
  inForce : ∀ call c, w.calls call = some c → ∀ config ∈ c.inForce, P config
  results : ∀ result ∈ w.results,
    ClassifyResult.DrawnFrom (fun config => config ∈ result.inForce ∧ P config) result

section Steps
variable {P : DriverConfig → Prop} {w : Callout}

theorem setConfig_cases (w : Callout) (buffer : List UInt8) :
    (DriverConfig.size ≤ buffer.length ∧ rgValidateConfig (DriverConfig.read buffer) = true ∧
      w.step (.setConfig buffer) = { w with
        config := DriverConfig.read buffer
        calls := fun call => (w.calls call).map fun c =>
          { c with inForce := c.inForce ++ [DriverConfig.read buffer] } }) ∨
    ((buffer.length < DriverConfig.size ∨ rgValidateConfig (DriverConfig.read buffer) = false) ∧
      w.step (.setConfig buffer) = w) := by
  rcases rgSetConfig_cases w.config buffer with ⟨hlong, hvalid, hset⟩ | ⟨hbad, status, hne, hset⟩
  · exact Or.inl ⟨hlong, hvalid, by rw [step, hset]⟩
  · refine Or.inr ⟨hbad, ?_⟩
    rw [step, hset]
    cases status with
    | success => exact absurd rfl hne
    | bufferTooSmall => rfl
    | invalidParameter => rfl

theorem inForce_update (h : w.Drawn P) (call : Nat) (next : Option ClassifyCall)
    (hnext : ∀ c, next = some c → ∀ config ∈ c.inForce, P config) (id : Nat)
    (c : ClassifyCall) (hc : Function.update w.calls call next id = some c) :
    ∀ config ∈ c.inForce, P config := by
  by_cases hid : id = call
  · rw [hid, Function.update_self] at hc
    exact hnext c hc
  · rw [Function.update_of_ne hid] at hc
    exact h.inForce id c hc

/-- A call that ends in a redirect sends the datagram to the proxy of its copy. -/
theorem drawn_of_call (h : w.Drawn P) {call : Nat} {c : ClassifyCall} {verdict : Verdict}
    (hc : w.calls call = some c) (hverdict : c.verdict = some verdict) :
    ClassifyResult.DrawnFrom (fun config => config ∈ c.inForce ∧ P config)
      ⟨c.datagram, verdict, c.inForce, c.copied⟩ := by
  intro addr port hrewrite
  have htraced := (h.traced.calls call c hc).1
  dsimp only at hrewrite
  subst hrewrite
  cases hchecked : c.checked with
  | none =>
      obtain ⟨config, _, hbefore⟩ := htraced.early _ hverdict hchecked
      cases beforePid_permits hbefore
  | some checked =>
      obtain ⟨config, hcopied, hbefore, hafter⟩ := htraced.late _ checked hverdict hchecked
      have hmem := htraced.copied_inForce config hcopied
      have hdrawn := h.inForce call c hc config hmem
      rw [afterPid] at hafter
      split at hafter
      · cases hafter
      · cases hafter
        exact ⟨config, ⟨hmem, hdrawn⟩, hbefore, rfl, rfl⟩

theorem step_drawn (h : w.Drawn P) (event : CalloutStep)
    (hset : ∀ buffer, event = .setConfig buffer → DriverConfig.size ≤ buffer.length →
      rgValidateConfig (DriverConfig.read buffer) = true → P (DriverConfig.read buffer)) :
    (w.step event).Drawn P := by
  have htraced := step_traced w event h.traced
  cases event with
  | enter call datagram =>
      cases hbusy : w.calls call with
      | some c => simpa [step, hbusy] using h
      | none =>
          simp only [step, hbusy] at htraced ⊢
          refine ⟨htraced, h.config, inForce_update h call _ fun c hc => ?_, h.results⟩
          cases hc
          intro config hmem
          rw [List.mem_singleton.mp hmem]
          exact h.config
  | copy call =>
      refine ⟨htraced, h.config, inForce_update h call _ fun c hc => ?_, h.results⟩
      obtain ⟨earlier, hearlier, rfl⟩ := Option.map_eq_some_iff.mp hc
      rw [copy_inForce]
      exact h.inForce call earlier hearlier
  | checkPid call =>
      refine ⟨htraced, h.config, inForce_update h call _ fun c hc => ?_, h.results⟩
      obtain ⟨earlier, hearlier, rfl⟩ := Option.map_eq_some_iff.mp hc
      rw [checkPid_inForce]
      exact h.inForce call earlier hearlier
  | leave call =>
      cases hc : w.calls call with
      | none => simpa [step, hc] using h
      | some c =>
          cases hverdict : c.verdict with
          | none => simpa [step, hc, hverdict] using h
          | some verdict =>
              simp only [step, hc, hverdict] at htraced ⊢
              refine ⟨htraced, h.config, inForce_update h call none ?_, ?_⟩
              · intro c hc
                cases hc
              · intro result hmem
                rcases List.mem_append.mp hmem with hold | hnew
                · exact h.results result hold
                · rw [List.mem_singleton.mp hnew]
                  exact drawn_of_call h hc hverdict
  | setConfig buffer =>
      rcases setConfig_cases w buffer with ⟨hlong, hvalid, heq⟩ | ⟨_, heq⟩
      · rw [heq] at htraced ⊢
        have hread := hset buffer rfl hlong hvalid
        refine ⟨htraced, hread, ?_, h.results⟩
        intro call c hc config hmem
        obtain ⟨earlier, hearlier, rfl⟩ := Option.map_eq_some_iff.mp hc
        rcases List.mem_append.mp hmem with hold | hnew
        · exact h.inForce call earlier hearlier config hold
        · rw [List.mem_singleton.mp hnew]
          exact hread
      · rw [heq]
        exact h

end Steps

end Callout

/-! ## What the calls have counted -/

def ClassifyResult.redirected (result : ClassifyResult) : Bool := result.verdict != .permit

def ClassifyResult.query (result : ClassifyResult) : Bool :=
  result.copied.any (fun config => config.enabled != 0) && result.datagram.remotePort == 53

def RemoteAddr.isV4 : RemoteAddr → Bool
  | .v4 _ => true
  | .v6 _ => false

/-- Each counter is the number of finished calls of its kind, modulo 2^64. -/
structure CountsCalls (results : List ClassifyResult) (stats : RgDnsRedirectStats) : Prop where
  redirectedV4 : stats.redirectedV4 = UInt64.ofNat (results.countP fun result =>
    result.redirected && result.datagram.remote.isV4)
  redirectedV6 : stats.redirectedV6 = UInt64.ofNat (results.countP fun result =>
    result.redirected && !result.datagram.remote.isV4)
  skippedLoopback : stats.skippedLoopback = UInt64.ofNat (results.countP fun result =>
    result.query && result.datagram.remote.isLoopback)
  skippedExcluded : stats.skippedExcluded = UInt64.ofNat (results.countP fun result =>
    result.query && !result.datagram.remote.isLoopback && !result.redirected)
  skippedDisabled : stats.skippedDisabled = UInt64.ofNat (results.countP fun result =>
    !result.copied.any fun config => config.enabled != 0)
  others : stats.redirectedTcpV4 = 0 ∧ stats.redirectedTcpV6 = 0 ∧ stats.errors = 0

/-- The result is counted where it belongs: only a query of the copy's concern is redirected. -/
theorem CountsCalls.count {results : List ClassifyResult} {stats : RgDnsRedirectStats}
    (h : CountsCalls results stats) {result : ClassifyResult} {copied : DriverConfig}
    (hcopied : result.copied = some copied)
    (hverdict : beforePid copied result.datagram = none ∨ result.verdict = .permit) :
    CountsCalls (results ++ [result]) (stats.count copied result.datagram result.verdict) := by
  obtain ⟨hv4, hv6, hloopback, hexcluded, hdisabled, hothers⟩ := h
  rw [Callout.beforePid_eq_none_iff] at hverdict
  unfold RgDnsRedirectStats.count
  by_cases henabled : copied.enabled = 0
  · constructor <;> simp_all [ClassifyResult.redirected, ClassifyResult.query]
  by_cases hport : result.datagram.remotePort = 53
  · cases hlocal : result.datagram.remote.isLoopback with
    | true => constructor <;> simp_all [ClassifyResult.redirected, ClassifyResult.query]
    | false =>
        -- the verdict tells what the PID decided
        cases hdecided : result.verdict <;> cases hremote : result.datagram.remote <;>
          constructor <;>
            simp_all [ClassifyResult.redirected, ClassifyResult.query, RemoteAddr.isV4]
  · constructor <;> simp_all [ClassifyResult.redirected, ClassifyResult.query]

/-! ## What the service reads -/

def DeviceStep.accepted : DeviceStep → Option DriverConfig
  | .ioctl req =>
      if req.code = ioctlRgDnsSetConfig ∧ DriverConfig.size ≤ req.input.length ∧
        rgValidateConfig (DriverConfig.read req.input) = true then
          some (DriverConfig.read req.input)
      else none
  | _ => none

def lastAccepted (events : List DeviceStep) : DriverConfig :=
  (events.filterMap DeviceStep.accepted).getLastD driverEntryConfig

def IoctlResponse.Fits (response : IoctlResponse) (req : IoctlRequest) : Prop :=
  response.information ≤ req.outLen ∧ response.output.length = response.information

namespace DriverDevice

structure Sound (events : List DeviceStep) (w : DriverDevice) : Prop where
  inForce : w.callout.config = lastAccepted events
  drawn : ∀ result ∈ w.callout.results, ClassifyResult.DrawnFrom
    (fun config => config ∈ result.inForce ∧ config ∈ events.filterMap DeviceStep.accepted) result
  directed : ∀ result ∈ w.callout.results, result.Directed
  noLoop : ∀ result ∈ w.callout.results, ∀ addr port, result.verdict = .rewrite addr port →
    ∀ other ∈ w.callout.results, other.datagram.remotePort = port → other.verdict = .permit
  fits : ∀ answered ∈ w.responses, answered.2.Fits answered.1
  status : ∀ input outLen,
    let response := w.answer ⟨ioctlRgDnsGetStatus, input, outLen⟩
    if outLen < RgDnsRedirectStatus.size then response = { status := .nt .bufferTooSmall }
    else response.status = .nt .success ∧
      RgDnsRedirectStatus.read response.output = deviceStatus (lastAccepted events)
  counted : CountsCalls w.callout.results w.stats
  stats : ∀ input outLen,
    let response := w.answer ⟨ioctlRgDnsGetStats, input, outLen⟩
    if outLen < RgDnsRedirectStats.size then response = { status := .nt .bufferTooSmall }
    else response.status = .nt .success ∧ RgDnsRedirectStats.read response.output = w.stats

section Answers
variable (config : DriverConfig) (stats : RgDnsRedirectStats)

theorem rgDeviceControl_fits (req : IoctlRequest) :
    (rgDeviceControl config stats req).1.Fits req := by
  have hnone : ∀ status, ({ status := status } : IoctlResponse).Fits req :=
    fun status => ⟨Nat.zero_le _, rfl⟩
  rw [rgDeviceControl]
  split
  · exact hnone _
  · split
    · split
      · exact hnone _
      · exact ⟨Nat.not_lt.mp ‹_›, RgDnsRedirectStatus.length_image _⟩
    · split
      · split
        · exact hnone _
        · exact ⟨Nat.not_lt.mp ‹_›, RgDnsRedirectStats.length_image stats⟩
      · exact hnone _

end Answers

theorem step_config (w : DriverDevice) (event : DeviceStep) :
    (w.step event).callout.config = event.accepted.getD w.callout.config := by
  cases event with
  | enter call datagram =>
      show (w.callout.step (.enter call datagram)).config = w.callout.config
      rw [Callout.step]
      split <;> rfl
  | copy call | checkPid call => rfl
  | leave call =>
      show (w.callout.step (.leave call)).config = w.callout.config
      rw [Callout.step]
      repeat' split
      all_goals rfl
  | ioctl req =>
      rw [step, DeviceStep.callout, DeviceStep.accepted]
      by_cases hcode : req.code = ioctlRgDnsSetConfig
      · rw [if_pos hcode, Option.elim_some]
        rcases Callout.setConfig_cases w.callout req.input with ⟨hlong, hvalid, heq⟩ | ⟨hbad, heq⟩
        · rw [heq, if_pos ⟨hcode, hlong, hvalid⟩]
          rfl
        · rw [heq, if_neg]
          · rfl
          · rintro ⟨_, hlong, hvalid⟩
            rcases hbad with hshort | hinvalid
            · omega
            · rw [hvalid] at hinvalid
              cases hinvalid
      · rw [if_neg hcode, if_neg fun h => hcode h.1]
        rfl

theorem run_config (events : List DeviceStep) :
    (run step {} events).callout.config = lastAccepted events := by
  induction events using List.reverseRecOn with
  | nil => rfl
  | append_singleton events event ih =>
      rw [run_concat, step_config, ih, lastAccepted, lastAccepted, List.filterMap_append]
      cases haccepted : event.accepted with
      | none => simp [haccepted]
      | some config => simp [haccepted]

/-- The calls have kept to configurations with the property and are counted, and every answer
fits. -/
structure Kept (P : DriverConfig → Prop) (w : DriverDevice) : Prop where
  drawn : w.callout.Drawn P
  counted : CountsCalls w.callout.results w.stats
  fits : ∀ answered ∈ w.responses, answered.2.Fits answered.1

section Steps
variable {P : DriverConfig → Prop} {w : DriverDevice}

theorem step_drawn (h : w.callout.Drawn P) (event : DeviceStep)
    (haccepted : ∀ config, event.accepted = some config → P config) :
    (w.step event).callout.Drawn P := by
  cases event with
  | enter call datagram =>
      exact Callout.step_drawn h (.enter call datagram) fun _ hset => by cases hset
  | copy call => exact Callout.step_drawn h (.copy call) fun _ hset => by cases hset
  | checkPid call => exact Callout.step_drawn h (.checkPid call) fun _ hset => by cases hset
  | leave call => exact Callout.step_drawn h (.leave call) fun _ hset => by cases hset
  | ioctl req =>
      show Callout.Drawn P ((DeviceStep.ioctl req).callout.elim w.callout w.callout.step)
      rw [DeviceStep.callout]
      by_cases hcode : req.code = ioctlRgDnsSetConfig
      · rw [if_pos hcode]
        refine Callout.step_drawn h (.setConfig req.input) fun buffer hset hlong hvalid => ?_
        cases hset
        exact haccepted _ (if_pos ⟨hcode, hlong, hvalid⟩)
      · rw [if_neg hcode]
        exact h

/-- Nothing is counted while a call has not returned. -/
theorem step_counted (h : w.callout.Traced) (hcounted : CountsCalls w.callout.results w.stats)
    (event : DeviceStep) :
    CountsCalls (w.step event).callout.results (w.step event).stats := by
  cases event with
  | enter call datagram =>
      show CountsCalls (w.callout.step (.enter call datagram)).results w.stats
      rw [Callout.step]
      split <;> exact hcounted
  | copy call | checkPid call => exact hcounted
  | leave call =>
      show CountsCalls (w.callout.step (.leave call)).results (w.count (.leave call))
      cases hc : w.callout.calls call with
      | none => simpa [Callout.step, count, hc] using hcounted
      | some c =>
          cases hverdict : c.verdict with
          | none => simpa [Callout.step, count, hc, hverdict] using hcounted
          | some verdict =>
              have htraced := (h.calls call c hc).1
              cases hchecked : c.checked with
              | none =>
                  obtain ⟨copied, hcopied, hbefore⟩ := htraced.early verdict hverdict hchecked
                  simp only [Callout.step, count, hc, hverdict, hcopied]
                  exact hcounted.count rfl (Or.inr (Callout.beforePid_permits hbefore))
              | some checked =>
                  obtain ⟨copied, hcopied, hbefore, _⟩ :=
                    htraced.late verdict checked hverdict hchecked
                  simp only [Callout.step, count, hc, hverdict, hcopied]
                  exact hcounted.count rfl (Or.inl hbefore)
  | ioctl req =>
      show CountsCalls ((DeviceStep.ioctl req).callout.elim w.callout w.callout.step).results
        w.stats
      rw [DeviceStep.callout]
      split
      · rw [Option.elim_some]
        rcases Callout.setConfig_cases w.callout req.input with ⟨_, _, heq⟩ | ⟨_, heq⟩ <;>
        · rw [heq]
          exact hcounted
      · exact hcounted

theorem step_kept (h : w.Kept P) (event : DeviceStep)
    (haccepted : ∀ config, event.accepted = some config → P config) : (w.step event).Kept P where
  drawn := step_drawn h.drawn event haccepted
  counted := step_counted h.drawn.traced h.counted event
  fits := by
    cases event with
    | enter call datagram | copy call | checkPid call | leave call => exact h.fits
    | ioctl req =>
        intro answered hmem
        rcases List.mem_append.mp hmem with hold | hnew
        · exact h.fits answered hold
        · rw [List.mem_singleton.mp hnew]
          exact rgDeviceControl_fits w.callout.config w.stats req

end Steps

theorem new_kept (configs : List DriverConfig) : Kept (DriverConfig.OneOf configs) {} := by
  refine ⟨⟨⟨?_⟩, Or.inl rfl, ?_, ?_⟩, ?_, ?_⟩
  · intro call c hc
    cases hc
  · intro call c hc
    cases hc
  · intro result hmem
    cases hmem
  · constructor <;> first | rfl | exact ⟨rfl, rfl, rfl⟩
  · intro answered hmem
    cases hmem

theorem run_kept {configs : List DriverConfig} {events : List DeviceStep}
    (haccepted : ∀ event ∈ events, ∀ config, event.accepted = some config → config ∈ configs) :
    (run step {} events).Kept (DriverConfig.OneOf configs) := by
  refine run_invariant step
    (fun _ event => ∀ config, event.accepted = some config → config ∈ configs) ?_ events {}
    (new_kept configs) ?_
  · intro w event h hevent
    exact step_kept h event fun config hconfig => Or.inr (hevent config hconfig)
  · exact guarded_of_forall step _ (fun event hmem _ => haccepted event hmem) {}

end DriverDevice
end RouteGuard
