import RouteGuard.Core.Net
import RouteGuard.Driver.Classify

/-! # Loopback addresses in two byte orders

`RgDatagramClassifyV4` and `RgConnectRedirectClassifyV4` of the driver with all
they write.  The remote address arrives as a host-order number, the proxy of the
configuration as bytes in network order; one test looks at both. -/
set_option autoImplicit false
namespace RouteGuard

open LittleEndian

/-! ## The classify functions -/

inductive FwpAction where
  | none
  | permit
  | block
deriving DecidableEq, Repr

/-- What the two functions write of `FWPS_CLASSIFY_OUT0`; `rightsWrite` is the bit
`FWPS_RIGHT_ACTION_WRITE`, `absorb` the flag `FWPS_CLASSIFY_OUT_FLAG_ABSORB`. -/
structure ClassifyOut where
  actionType : FwpAction := .none
  type : FwpAction := .none
  rightsWrite : Bool := true
  absorb : Bool := false
deriving DecidableEq, Repr

structure FlowValues where
  remoteAddr : UInt32
  remotePort : UInt16
  processId : Option UInt32
deriving DecidableEq, Repr

/-- `rewrite` is the proxy a datagram was sent to instead. -/
structure ClassifyEffect where
  out : ClassifyOut
  stats : RgDnsRedirectStats
  rewrite : Option (List UInt8 × UInt16) := none
deriving DecidableEq, Repr

def rgPermitClassify (out : ClassifyOut) : ClassifyOut :=
  { out with actionType := .permit, rightsWrite := false }

section Classify
variable (cfg current : DriverConfig) (flow : FlowValues) (out : ClassifyOut)
  (stats : RgDnsRedirectStats)

/-- `cfg` is the copy; the PID is compared with the configuration `current` at that moment. -/
def rgDatagramClassifyV4 : ClassifyEffect :=
  if cfg.enabled = 0 then
    ⟨rgPermitClassify out, { stats with skippedDisabled := stats.skippedDisabled + 1 }, none⟩
  else if flow.remotePort ≠ 53 then ⟨rgPermitClassify out, stats, none⟩
  else if rgIsLoopbackV4 flow.remoteAddr then
    ⟨rgPermitClassify out, { stats with skippedLoopback := stats.skippedLoopback + 1 }, none⟩
  else if rgIsExcludedPid current (flow.processId.getD 0) then
    ⟨rgPermitClassify out, { stats with skippedExcluded := stats.skippedExcluded + 1 }, none⟩
  else
    ⟨{ rgPermitClassify out with absorb := true },
      { stats with redirectedV4 := stats.redirectedV4 + 1 }, some (cfg.proxyV4, cfg.proxyPort)⟩

/-- The address of the proxy is made up and then left to the redirect handle. -/
def rgConnectRedirectV4 (isTcp : Bool) : ClassifyEffect :=
  ⟨{ actionType := .block, type := .block, rightsWrite := false, absorb := true },
    if isTcp then { stats with redirectedTcpV4 := stats.redirectedTcpV4 + 1 } else stats, none⟩

def rgConnectRedirectClassifyV4 : ClassifyEffect :=
  let permitted := { out with actionType := .permit }
  if cfg.enabled = 0 then
    ⟨permitted, { stats with skippedDisabled := stats.skippedDisabled + 1 }, none⟩
  else if flow.remotePort ≠ 53 then ⟨permitted, stats, none⟩
  else if rgIsLoopbackV4 flow.remoteAddr then
    ⟨permitted, { stats with skippedLoopback := stats.skippedLoopback + 1 }, none⟩
  else if rgIsExcludedPid current (flow.processId.getD 0) then
    ⟨permitted, { stats with skippedExcluded := stats.skippedExcluded + 1 }, none⟩
  else rgConnectRedirectV4 stats true

/-- A datagram is rewritten and counted as the verdict on it says. -/
theorem rgDatagramClassifyV4_verdict :
    let datagram : Datagram := ⟨.v4 flow.remoteAddr, flow.remotePort, flow.processId⟩
    let verdict := (beforePid cfg datagram).getD
      (afterPid cfg datagram (rgIsExcludedPid current datagram.pid))
    let effect := rgDatagramClassifyV4 cfg current flow out stats
    effect.stats = stats.count cfg datagram verdict ∧
      effect.rewrite = match verdict with
        | .permit => none
        | .rewrite addr port => some (addr, port) := by
  unfold rgDatagramClassifyV4 RgDnsRedirectStats.count beforePid
  by_cases henabled : cfg.enabled = 0
  · simp [henabled]
  · by_cases hport : flow.remotePort = 53
    · cases hloop : rgIsLoopbackV4 flow.remoteAddr with
      | true => simp [henabled, hport, RemoteAddr.isLoopback, hloop]
      | false =>
          cases hpid : rgIsExcludedPid current (flow.processId.getD 0) <;>
            simp [henabled, hport, RemoteAddr.isLoopback, hloop, hpid, afterPid, Datagram.pid,
              DriverConfig.proxy]
    · simp [henabled, hport]

end Classify

/-! ## What counts as loopback -/

def loopbackBlock : Net 32 := ⟨0x7f000000, 8, Net.eight_le⟩

def inAddr (addr : UInt32) : List UInt8 := (bytes 4 addr.toNat).reverse

def ClassifyEffect.AsLoopback (stats : RgDnsRedirectStats) (effect : ClassifyEffect) : Prop :=
  effect.stats = { stats with skippedLoopback := stats.skippedLoopback + 1 } ∧
    effect.out.actionType = .permit ∧ effect.rewrite = none

/-- Of the queries to the address, both functions let pass as loopback those of `127.0.0.0/8`, and
the validation of the configuration takes the same addresses for loopback. -/
structure LoopbackAgrees (cfg current : DriverConfig) (out : ClassifyOut)
    (stats : RgDnsRedirectStats) (processId : Option UInt32) (addr : UInt32) : Prop where
  datagram : (rgDatagramClassifyV4 cfg current ⟨addr, 53, processId⟩ out stats).AsLoopback stats ↔
    loopbackBlock.contains addr.toBitVec = true
  connect :
    (rgConnectRedirectClassifyV4 cfg current ⟨addr, 53, processId⟩ out stats).AsLoopback stats ↔
      loopbackBlock.contains addr.toBitVec = true
  proxy : rgIsLoopbackAddrV4 (inAddr addr) = true ↔ loopbackBlock.contains addr.toBitVec = true

/-! ## Octets -/

section Octets
variable (addr : UInt32)

theorem loopbackBlock_iff :
    loopbackBlock.contains addr.toBitVec = true ↔ addr.toNat / 2 ^ 24 = 127 := by
  have hblock : loopbackBlock.addr.toNat / 2 ^ (32 - loopbackBlock.prefixLen) = 127 := by decide
  have hshift : 32 - loopbackBlock.prefixLen = 24 := rfl
  rw [Net.contains, beq_iff_eq, hblock, hshift, UInt32.toNat_toBitVec]
  exact eq_comm

theorem ofNat_eq_iff (n : Nat) : UInt8.ofNat n = 127 ↔ n % 256 = 127 := by
  rw [← UInt8.toNat_inj, UInt8.toNat_ofNat']
  rfl

/-- A host-order number has its last octet first in memory. -/
theorem rgIsLoopbackV4_iff : rgIsLoopbackV4 addr = true ↔ addr.toNat % 256 = 127 := by
  rw [rgIsLoopbackV4, rgIsLoopbackAddrV4, beq_iff_eq]
  exact ofNat_eq_iff addr.toNat

theorem rgIsLoopbackAddrV4_inAddr :
    rgIsLoopbackAddrV4 (inAddr addr) = true ↔ addr.toNat / 2 ^ 24 = 127 := by
  have hlt : addr.toNat < 2 ^ 32 := addr.toNat_lt
  have hfirst : (inAddr addr).getD 0 0 = UInt8.ofNat (addr.toNat / 256 / 256 / 256) := rfl
  rw [rgIsLoopbackAddrV4, beq_iff_eq, hfirst, ofNat_eq_iff]
  omega

end Octets

/-! ## Both functions -/

section Agree
variable {cfg : DriverConfig} (current : DriverConfig) (out : ClassifyOut)
  (stats : RgDnsRedirectStats) (processId : Option UInt32) (addr : UInt32)

theorem counted_ne (counter : UInt64) : counter ≠ counter + 1 := by
  intro hsame
  have hone : (1 : UInt64) = 0 := by
    have hcancel : counter + 0 = counter + 1 := by rw [UInt64.add_zero]; exact hsame
    exact (UInt64.add_right_inj counter).mp hcancel.symm
  exact absurd hone (by decide)

theorem not_asLoopback {stats : RgDnsRedirectStats} {effect : ClassifyEffect}
    (h : effect.stats.skippedLoopback = stats.skippedLoopback) : ¬effect.AsLoopback stats := by
  intro hloopback
  have hcounted := congrArg RgDnsRedirectStats.skippedLoopback hloopback.1
  exact counted_ne _ (h.symm.trans hcounted)

theorem rgDatagramClassifyV4_asLoopback (henabled : cfg.enabled ≠ 0) :
    (rgDatagramClassifyV4 cfg current ⟨addr, 53, processId⟩ out stats).AsLoopback stats ↔
      rgIsLoopbackV4 addr = true := by
  unfold rgDatagramClassifyV4
  rw [if_neg henabled, if_neg (by simp)]
  split_ifs with hloop hpid
  · exact iff_of_true ⟨rfl, rfl, rfl⟩ hloop
  · exact iff_of_false (not_asLoopback rfl) hloop
  · exact iff_of_false (not_asLoopback rfl) hloop

theorem rgConnectRedirectClassifyV4_asLoopback (henabled : cfg.enabled ≠ 0) :
    (rgConnectRedirectClassifyV4 cfg current ⟨addr, 53, processId⟩ out stats).AsLoopback stats ↔
      rgIsLoopbackV4 addr = true := by
  unfold rgConnectRedirectClassifyV4
  rw [if_neg henabled, if_neg (by simp)]
  split_ifs with hloop hpid
  · exact iff_of_true ⟨rfl, rfl, rfl⟩ hloop
  · exact iff_of_false (not_asLoopback rfl) hloop
  · exact iff_of_false (not_asLoopback rfl) hloop

/-- The checks are right for an address whose first octet is 127 exactly where its last one is. -/
theorem loopbackAgrees_iff (henabled : cfg.enabled ≠ 0) :
    LoopbackAgrees cfg current out stats processId addr ↔
      (addr.toNat / 2 ^ 24 = 127 ↔ addr.toNat % 256 = 127) := by
  have hdatagram := rgDatagramClassifyV4_asLoopback current out stats processId addr henabled
  have hconnect := rgConnectRedirectClassifyV4_asLoopback current out stats processId addr henabled
  rw [rgIsLoopbackV4_iff] at hdatagram hconnect
  constructor
  · intro h
    have hagree := h.datagram
    rw [hdatagram, loopbackBlock_iff] at hagree
    exact hagree.symm
  · intro hoctets
    constructor
    · rw [hdatagram, loopbackBlock_iff]
      exact hoctets.symm
    · rw [hconnect, loopbackBlock_iff]
      exact hoctets.symm
    · rw [rgIsLoopbackAddrV4_inAddr, loopbackBlock_iff]

end Agree

theorem loopbackAgrees_iff_public :
    LoopbackAgrees { enabled := 1, proxyPort := 5353 } {} {} {} none 0xc6336407 ↔
      ((0xc6336407 : UInt32).toNat / 2 ^ 24 = 127 ↔ (0xc6336407 : UInt32).toNat % 256 = 127) :=
  loopbackAgrees_iff {} {} {} none 0xc6336407 (by decide)

/-- A query to `127.0.0.1` is redirected. -/
theorem localQuery_redirected : ¬∀ (cfg current : DriverConfig) (out : ClassifyOut)
    (stats : RgDnsRedirectStats) (processId : Option UInt32) (addr : UInt32), cfg.enabled ≠ 0 →
      LoopbackAgrees cfg current out stats processId addr := by
  intro hall
  have hagrees := hall { enabled := 1, proxyPort := 5353 } {} {} {} none 0x7f000001 (by decide)
  have hskipped := hagrees.datagram.mpr (by decide)
  exact absurd hskipped.2.2 (by decide)

end RouteGuard
