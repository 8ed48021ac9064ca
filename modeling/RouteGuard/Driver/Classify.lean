import RouteGuard.Driver.CalloutConfig
import RouteGuard.Lib.GuardedRun
import Mathlib.Logic.Function.Basic

/-! # Classify calls beside configuration changes

`RgDatagramClassifyV4` and `RgDatagramClassifyV6` take the configuration lock
once to copy the record and, inside `RgIsExcludedPid`, once more to compare the
PID.  A run interleaves the steps of any number of calls with requests to set
the configuration. -/
set_option autoImplicit false
namespace RouteGuard

open GuardedRun

/-! ## One call -/

/-- The remote address as the layer hands it over: a 32-bit value or 16 bytes. -/
inductive RemoteAddr where
  | v4 (addr : UInt32)
  | v6 (addr : List UInt8)
deriving DecidableEq, Repr

structure Datagram where
  remote : RemoteAddr
  remotePort : UInt16
  processId : Option UInt32
deriving DecidableEq, Repr

inductive Verdict where
  | permit
  | rewrite (addr : List UInt8) (port : UInt16)
deriving DecidableEq, Repr

/-- The number stored as an `IN_ADDR` on a little-endian machine. -/
def rgIsLoopbackV4 (addr : UInt32) : Bool := rgIsLoopbackAddrV4 (LittleEndian.bytes 4 addr.toNat)

def RemoteAddr.isLoopback : RemoteAddr → Bool
  | .v4 addr => rgIsLoopbackV4 addr
  | .v6 addr => rgIsLoopbackV6 addr

/-- 0 without the metadata field. -/
def Datagram.pid (d : Datagram) : UInt32 := d.processId.getD 0

def DriverConfig.proxy (config : DriverConfig) : RemoteAddr → List UInt8
  | .v4 _ => config.proxyV4
  | .v6 _ => config.proxyV6

def rgIsExcludedPid (config : DriverConfig) (pid : UInt32) : Bool := config.listed.contains pid

/-- The part of the call that reads the copy; `none` leaves the decision to the PID. -/
def beforePid (config : DriverConfig) (d : Datagram) : Option Verdict :=
  if config.enabled = 0 then some .permit
  else if d.remotePort ≠ 53 then some .permit
  else if d.remote.isLoopback then some .permit
  else none

def afterPid (config : DriverConfig) (d : Datagram) (excluded : Bool) : Verdict :=
  if excluded then .permit else .rewrite (config.proxy d.remote) config.proxyPort

def verdictOf (config : DriverConfig) (d : Datagram) : Verdict :=
  match beforePid config d with
  | some verdict => verdict
  | none => afterPid config d (rgIsExcludedPid config d.pid)

structure RgDnsRedirectStats where
  redirectedV4 : UInt64 := 0
  redirectedV6 : UInt64 := 0
  redirectedTcpV4 : UInt64 := 0
  redirectedTcpV6 : UInt64 := 0
  skippedLoopback : UInt64 := 0
  skippedExcluded : UInt64 := 0
  skippedDisabled : UInt64 := 0
  errors : UInt64 := 0
deriving DecidableEq, Repr

def RgDnsRedirectStats.count (stats : RgDnsRedirectStats) (copied : DriverConfig) (d : Datagram)
    (verdict : Verdict) : RgDnsRedirectStats :=
  if copied.enabled = 0 then { stats with skippedDisabled := stats.skippedDisabled + 1 }
  else if d.remotePort ≠ 53 then stats
  else if d.remote.isLoopback then { stats with skippedLoopback := stats.skippedLoopback + 1 }
  else
    match verdict, d.remote with
    | .permit, _ => { stats with skippedExcluded := stats.skippedExcluded + 1 }
    | .rewrite .., .v4 _ => { stats with redirectedV4 := stats.redirectedV4 + 1 }
    | .rewrite .., .v6 _ => { stats with redirectedV6 := stats.redirectedV6 + 1 }

/-! ## Interleaved calls -/

/-- A call under way.  `inForce` lists the configurations in force since it began and `checked`
is the one its PID was compared with; both are kept for the proofs. -/
structure ClassifyCall where
  datagram : Datagram
  inForce : List DriverConfig
  copied : Option DriverConfig := none
  checked : Option DriverConfig := none
  verdict : Option Verdict := none

structure ClassifyResult where
  datagram : Datagram
  verdict : Verdict
  inForce : List DriverConfig
  copied : Option DriverConfig

structure Callout where
  config : DriverConfig := driverEntryConfig
  calls : Nat → Option ClassifyCall := fun _ => none
  results : List ClassifyResult := []

inductive CalloutStep where
  | enter (call : Nat) (datagram : Datagram)
  | copy (call : Nat)
  | checkPid (call : Nat)
  | leave (call : Nat)
  | setConfig (buffer : List UInt8)

def ClassifyCall.copy (call : ClassifyCall) (config : DriverConfig) : ClassifyCall :=
  match call.copied with
  | some _ => call
  | none => { call with copied := some config, verdict := beforePid config call.datagram }

def ClassifyCall.checkPid (call : ClassifyCall) (config : DriverConfig) : ClassifyCall :=
  match call.copied, call.verdict with
  | some copied, none => { call with
      checked := some config
      verdict := some (afterPid copied call.datagram (rgIsExcludedPid config call.datagram.pid)) }
  | _, _ => call

namespace Callout

def step (w : Callout) : CalloutStep → Callout
  | .enter call datagram =>
      match w.calls call with
      | some _ => w
      | none => { w with
          calls := Function.update w.calls call
            (some { datagram := datagram, inForce := [w.config] }) }
  | .copy call =>
      { w with calls := Function.update w.calls call ((w.calls call).map fun c => c.copy w.config) }
  | .checkPid call =>
      { w with
        calls := Function.update w.calls call ((w.calls call).map fun c => c.checkPid w.config) }
  | .leave call =>
      match w.calls call with
      | none => w
      | some c =>
          match c.verdict with
          | none => w
          | some verdict => { w with
              calls := Function.update w.calls call none
              results := w.results ++ [⟨c.datagram, verdict, c.inForce, c.copied⟩] }
  | .setConfig buffer =>
      match rgSetConfig w.config buffer with
      | (.success, config) => { w with
          config := config
          calls := fun call => (w.calls call).map fun c =>
            { c with inForce := c.inForce ++ [config] } }
      | _ => w

/-! ## One configuration for each verdict -/

def ClassifyResult.Explained (result : ClassifyResult) : Prop :=
  ∃ config ∈ result.inForce, verdictOf config result.datagram = result.verdict

def Explained (w : Callout) : Prop := ∀ result ∈ w.results, ClassifyResult.Explained result

/-- If the copy excludes the PID and the configuration at the comparison does not, then some
configuration in force meanwhile redirects the datagram to the proxy of the copy. -/
def ClassifyCall.Whole (call : ClassifyCall) : Prop :=
  ∀ copied checked, call.copied = some copied → call.checked = some checked →
    rgIsExcludedPid copied call.datagram.pid = true →
    rgIsExcludedPid checked call.datagram.pid = false →
    ∃ config ∈ call.inForce, config.enabled ≠ 0 ∧
      rgIsExcludedPid config call.datagram.pid = false ∧
      config.proxy call.datagram.remote = copied.proxy call.datagram.remote ∧
      config.proxyPort = copied.proxyPort

def KeepsWhole (w : Callout) : CalloutStep → Prop
  | .leave call => ∀ c, w.calls call = some c → ClassifyCall.Whole c
  | _ => True

/-! ## Verdicts -/

theorem beforePid_eq_none_iff (config : DriverConfig) (d : Datagram) : beforePid config d = none ↔
    config.enabled ≠ 0 ∧ d.remotePort = 53 ∧ d.remote.isLoopback = false := by
  unfold beforePid
  grind

theorem beforePid_permits {config : DriverConfig} {d : Datagram} {verdict : Verdict}
    (h : beforePid config d = some verdict) : verdict = .permit := by
  unfold beforePid at h
  grind

/-- Whether the PID decides depends on the configuration through the flag alone. -/
theorem beforePid_none_of_enabled {config other : DriverConfig} {d : Datagram}
    (h : beforePid config d = none) (hother : other.enabled ≠ 0) : beforePid other d = none := by
  rw [beforePid_eq_none_iff] at h ⊢
  exact ⟨hother, h.2⟩

theorem verdictOf_excluded {config : DriverConfig} {d : Datagram}
    (h : rgIsExcludedPid config d.pid = true) : verdictOf config d = .permit := by
  unfold verdictOf
  split
  · rename_i verdict hbefore
    exact beforePid_permits hbefore
  · rw [afterPid, if_pos h]

theorem verdictOf_eq_rewrite_iff (config : DriverConfig) (d : Datagram) (addr : List UInt8)
    (port : UInt16) : verdictOf config d = .rewrite addr port ↔
      beforePid config d = none ∧ rgIsExcludedPid config d.pid = false ∧
      config.proxy d.remote = addr ∧ config.proxyPort = port := by
  cases hbefore : beforePid config d with
  | some verdict => simp [verdictOf, hbefore, beforePid_permits hbefore]
  | none =>
      simp only [verdictOf, hbefore, afterPid, true_and]
      cases rgIsExcludedPid config d.pid <;> simp

/-! ## Calls under way -/

structure ClassifyCall.Traced (call : ClassifyCall) : Prop where
  copied_inForce : ∀ config, call.copied = some config → config ∈ call.inForce
  checked_inForce : ∀ config, call.checked = some config → config ∈ call.inForce
  undecided : ∀ config, call.copied = some config → call.verdict = none →
    beforePid config call.datagram = none
  fresh : call.copied = none → call.verdict = none ∧ call.checked = none
  early : ∀ verdict, call.verdict = some verdict → call.checked = none →
    ∃ config, call.copied = some config ∧ beforePid config call.datagram = some verdict
  late : ∀ verdict checked, call.verdict = some verdict → call.checked = some checked →
    ∃ config, call.copied = some config ∧ beforePid config call.datagram = none ∧
      verdict = afterPid config call.datagram (rgIsExcludedPid checked call.datagram.pid)
  open_checked : call.verdict = none → call.checked = none

structure Traced (w : Callout) : Prop where
  calls : ∀ call c, w.calls call = some c → ClassifyCall.Traced c ∧ w.config ∈ c.inForce

theorem ClassifyCall.Traced.copy {c : ClassifyCall} (h : ClassifyCall.Traced c)
    {config : DriverConfig} (hin : config ∈ c.inForce) : ClassifyCall.Traced (c.copy config) := by
  cases hcopied : c.copied with
  | some earlier => simpa [ClassifyCall.copy, hcopied] using h
  | none =>
      obtain ⟨hverdict, hchecked⟩ := h.fresh hcopied
      simp only [ClassifyCall.copy, hcopied]
      constructor <;> simp_all

theorem ClassifyCall.Traced.checkPid {c : ClassifyCall} (h : ClassifyCall.Traced c)
    {config : DriverConfig} (hin : config ∈ c.inForce) :
    ClassifyCall.Traced (c.checkPid config) := by
  cases hcopied : c.copied with
  | none => simpa [ClassifyCall.checkPid, hcopied] using h
  | some copied =>
      cases hverdict : c.verdict with
      | some verdict => simpa [ClassifyCall.checkPid, hcopied, hverdict] using h
      | none =>
          have hbefore := h.undecided copied hcopied hverdict
          have hmem := h.copied_inForce copied hcopied
          simp only [ClassifyCall.checkPid, hcopied, hverdict]
          constructor <;> simp_all

theorem ClassifyCall.Traced.grown {c : ClassifyCall} (h : ClassifyCall.Traced c)
    (config : DriverConfig) :
    ClassifyCall.Traced { c with inForce := c.inForce ++ [config] } where
  copied_inForce := fun other ho => List.mem_append_left _ (h.copied_inForce other ho)
  checked_inForce := fun other ho => List.mem_append_left _ (h.checked_inForce other ho)
  undecided := h.undecided
  fresh := h.fresh
  early := h.early
  late := h.late
  open_checked := h.open_checked

/-- The verdict of a finished call, against the configurations in force meanwhile. -/
theorem ClassifyCall.Traced.explained_iff {c : ClassifyCall} (h : ClassifyCall.Traced c)
    {verdict : Verdict} (hverdict : c.verdict = some verdict) :
    (∃ config ∈ c.inForce, verdictOf config c.datagram = verdict) ↔ ClassifyCall.Whole c := by
  cases hchecked : c.checked with
  | none =>
      obtain ⟨config, hcopied, hbefore⟩ := h.early verdict hverdict hchecked
      refine iff_of_true ⟨config, h.copied_inForce config hcopied, by simp [verdictOf, hbefore]⟩ ?_
      intro copied checked _ hnone
      rw [hchecked] at hnone
      cases hnone
  | some checked =>
      obtain ⟨copied, hcopied, hbefore, rfl⟩ := h.late verdict checked hverdict hchecked
      have hwhole : ClassifyCall.Whole c ↔
          (rgIsExcludedPid copied c.datagram.pid = true →
            rgIsExcludedPid checked c.datagram.pid = false →
            ∃ config ∈ c.inForce, config.enabled ≠ 0 ∧
              rgIsExcludedPid config c.datagram.pid = false ∧
              config.proxy c.datagram.remote = copied.proxy c.datagram.remote ∧
              config.proxyPort = copied.proxyPort) := by
        simp [ClassifyCall.Whole, hcopied, hchecked]
      rw [hwhole]
      cases hlater : rgIsExcludedPid checked c.datagram.pid with
      | true =>
          refine iff_of_true ⟨checked, h.checked_inForce checked hchecked, ?_⟩ (by simp)
          rw [verdictOf_excluded hlater, afterPid, if_pos rfl]
      | false =>
          cases hearlier : rgIsExcludedPid copied c.datagram.pid with
          | false =>
              refine iff_of_true ⟨copied, h.copied_inForce copied hcopied, ?_⟩ (by simp)
              simp [verdictOf, hbefore, hearlier]
          | true =>
              have hrewrite : afterPid copied c.datagram false =
                  .rewrite (copied.proxy c.datagram.remote) copied.proxyPort := rfl
              simp only [hrewrite, verdictOf_eq_rewrite_iff, true_imp_iff]
              refine exists_congr fun config => and_congr_right fun _ => and_congr_left fun _ => ?_
              refine ⟨fun hnone => ?_, fun henabled => beforePid_none_of_enabled hbefore henabled⟩
              exact ((beforePid_eq_none_iff config c.datagram).mp hnone).1

/-! ## Runs -/

section Steps
variable (w : Callout)

theorem traced_update {w : Callout} (h : w.Traced) (call : Nat) (next : Option ClassifyCall)
    (hnext : ∀ c, next = some c → ClassifyCall.Traced c ∧ w.config ∈ c.inForce) (id : Nat)
    (c : ClassifyCall) (hc : Function.update w.calls call next id = some c) :
    ClassifyCall.Traced c ∧ w.config ∈ c.inForce := by
  by_cases hid : id = call
  · rw [hid, Function.update_self] at hc
    exact hnext c hc
  · rw [Function.update_of_ne hid] at hc
    exact h.calls id c hc

theorem copy_inForce (c : ClassifyCall) (config : DriverConfig) :
    (c.copy config).inForce = c.inForce := by
  unfold ClassifyCall.copy
  split <;> rfl

theorem checkPid_inForce (c : ClassifyCall) (config : DriverConfig) :
    (c.checkPid config).inForce = c.inForce := by
  unfold ClassifyCall.checkPid
  split <;> rfl

theorem step_traced (event : CalloutStep) (h : w.Traced) : (w.step event).Traced := by
  cases event with
  | enter call datagram =>
      cases hbusy : w.calls call with
      | some c => simpa [step, hbusy] using h
      | none =>
          simp only [step, hbusy]
          refine ⟨traced_update h call _ fun c hc => ?_⟩
          cases hc
          refine ⟨?_, List.mem_singleton_self _⟩
          constructor <;> simp
  | copy call =>
      refine ⟨traced_update h call _ fun c hc => ?_⟩
      obtain ⟨earlier, hearlier, rfl⟩ := Option.map_eq_some_iff.mp hc
      obtain ⟨htraced, hin⟩ := h.calls call earlier hearlier
      exact ⟨htraced.copy hin, by rw [copy_inForce]; exact hin⟩
  | checkPid call =>
      refine ⟨traced_update h call _ fun c hc => ?_⟩
      obtain ⟨earlier, hearlier, rfl⟩ := Option.map_eq_some_iff.mp hc
      obtain ⟨htraced, hin⟩ := h.calls call earlier hearlier
      exact ⟨htraced.checkPid hin, by rw [checkPid_inForce]; exact hin⟩
  | leave call =>
      cases hc : w.calls call with
      | none => simpa [step, hc] using h
      | some c =>
          cases hverdict : c.verdict with
          | none => simpa [step, hc, hverdict] using h
          | some verdict =>
              simp only [step, hc, hverdict]
              exact ⟨traced_update h call none fun c hc => by cases hc⟩
  | setConfig buffer =>
      rcases hset : rgSetConfig w.config buffer with ⟨status, config⟩
      cases status with
      | success =>
          simp only [step, hset]
          refine ⟨fun call c hc => ?_⟩
          obtain ⟨earlier, hearlier, rfl⟩ := Option.map_eq_some_iff.mp hc
          exact ⟨(h.calls call earlier hearlier).1.grown config,
            List.mem_append_right _ (List.mem_singleton_self config)⟩
      | bufferTooSmall => simpa [step, hset] using h
      | invalidParameter => simpa [step, hset] using h

theorem step_explained_iff (event : CalloutStep) (h : w.Traced) (he : w.Explained) :
    (w.step event).Explained ↔ w.KeepsWhole event := by
  cases event with
  | enter call datagram =>
      refine iff_of_true ?_ trivial
      cases hbusy : w.calls call <;>
      · simp only [step, hbusy]
        exact he
  | copy call => exact iff_of_true he trivial
  | checkPid call => exact iff_of_true he trivial
  | leave call =>
      cases hc : w.calls call with
      | none => exact iff_of_true (by simpa [step, hc] using he) (by simp [KeepsWhole, hc])
      | some c =>
          have htraced := (h.calls call c hc).1
          cases hverdict : c.verdict with
          | none =>
              refine iff_of_true (by simpa [step, hc, hverdict] using he) ?_
              intro c' hc' copied checked _ hchecked
              rw [hc] at hc'
              cases hc'
              rw [htraced.open_checked hverdict] at hchecked
              cases hchecked
          | some verdict =>
              have hlast := htraced.explained_iff hverdict
              have hguard : w.KeepsWhole (.leave call) ↔ ClassifyCall.Whole c := by
                simp [KeepsWhole, hc]
              rw [hguard, ← hlast]
              simp only [step, hc, hverdict, Explained, List.mem_append, List.mem_singleton]
              constructor
              · intro hall
                exact hall _ (Or.inr rfl)
              · intro hnew result hresult
                rcases hresult with hold | rfl
                · exact he result hold
                · exact hnew
  | setConfig buffer =>
      refine iff_of_true ?_ trivial
      rcases hset : rgSetConfig w.config buffer with ⟨status, config⟩
      cases status <;>
      · simp only [step, hset]
        exact he

end Steps

/-- Every verdict is that of one configuration in force during its call exactly when every call
that is finished was whole. -/
theorem run_explained_iff (events : List CalloutStep) :
    (∀ front, front <+: events → (run step ({} : Callout) front).Explained) ↔
      Guarded step KeepsWhole {} events := by
  refine holds_throughout_iff step KeepsWhole (P := Explained) (Q := Traced) step_traced
    step_explained_iff events {} ⟨fun call c hc => by cases hc⟩ ?_
  intro result hresult
  cases hresult

def acceptedConfig (enabled : Bool) (pids : List UInt32) : RgDnsRedirectConfig :=
  { RgDnsRedirectConfig.loopbackV4 5353 enabled pids with
    proxyV6 := (Vector.replicate 16 0).set 14 1 }

/-- Redirection is switched off, and the PID list emptied, between the two locks. -/
theorem switchedOff_redirected : ¬ (run step ({} : Callout)
    [.setConfig (acceptedConfig true [1234]).image,
      .enter 0 ⟨.v4 0x08080808, 53, some 1234⟩, .copy 0,
      .setConfig (acceptedConfig false []).image, .checkPid 0, .leave 0]).Explained := by
  unfold Explained ClassifyResult.Explained
  decide

end Callout
end RouteGuard
