import RouteGuard.Lib.LittleEndian

/-! # The DNS redirect configuration between service and driver

`RgDnsRedirectConfig` of `dns_callout_ioctl.rs` and the driver's side of
`IOCTL_RG_DNS_SET_CONFIG`: `config.c`, `device.c` and the packed record of
`rg_callout_ioctl.h`, read on a little-endian machine. -/
set_option autoImplicit false
namespace RouteGuard

open LittleEndian

/-! ## The service's record -/

def rgDnsConfigVersion : UInt32 := 1

def rgDnsMaxExcludedPids : Nat := 16

structure RgDnsRedirectConfig where
  version : UInt32
  enabled : UInt8
  proxyPort : UInt16
  proxyV4 : Vector UInt8 4
  proxyV6 : Vector UInt8 16
  excludedPidCount : UInt32
  excludedPids : Vector UInt32 16
  upstreamPermitCount : UInt32
deriving DecidableEq

namespace RgDnsRedirectConfig

def loopbackV6 : Vector UInt8 16 := (Vector.replicate 16 0).set 15 1

/-- The loop writes the first 16 PIDs over zeros. -/
def loopbackV4 (proxyPort : UInt16) (enabled : Bool) (excludedPids : List UInt32) :
    RgDnsRedirectConfig where
  version := rgDnsConfigVersion
  enabled := if enabled then 1 else 0
  proxyPort := proxyPort
  proxyV4 := Vector.ofFn fun i => ([127, 0, 0, 1] : List UInt8).getD i 0
  proxyV6 := loopbackV6
  excludedPidCount := UInt32.ofNat (min excludedPids.length rgDnsMaxExcludedPids)
  excludedPids := Vector.ofFn fun i => excludedPids.getD i 0
  upstreamPermitCount := 0

def parts (config : RgDnsRedirectConfig) : List (List UInt8) :=
  [bytes 4 config.version.toNat,
   [config.enabled],
   bytes 2 config.proxyPort.toNat,
   config.proxyV4.toList,
   config.proxyV6.toList,
   bytes 4 config.excludedPidCount.toNat,
   (config.excludedPids.toList.map UInt32.toNat).flatMap (bytes 4),
   bytes 4 config.upstreamPermitCount.toNat]

def image (config : RgDnsRedirectConfig) : List UInt8 := config.parts.flatten

end RgDnsRedirectConfig

/-! ## The driver's record -/

/-- `RG_DNS_REDIRECT_CONFIG`; an address is its bytes in memory. -/
structure DriverConfig where
  version : UInt32 := 0
  enabled : UInt8 := 0
  proxyPort : UInt16 := 0
  proxyV4 : List UInt8 := List.replicate 4 0
  proxyV6 : List UInt8 := List.replicate 16 0
  excludedPidCount : UInt32 := 0
  excludedPids : List UInt32 := List.replicate 16 0
  upstreamPermitCount : UInt32 := 0
deriving DecidableEq, Repr

/-- `g_RgDnsConfig` after `DriverEntry`. -/
def driverEntryConfig : DriverConfig where
  version := rgDnsConfigVersion
  proxyPort := 5353
  proxyV4 := [127, 0, 0, 1]
  proxyV6 := RgDnsRedirectConfig.loopbackV6.toList

namespace DriverConfig

/-- `sizeof` of each member under `#pragma pack(push, 1)`. -/
def layout : List Nat := [4, 1, 2, 4, 16, 4, 64, 4]

def size : Nat := layout.sum

def read (buffer : List UInt8) : DriverConfig where
  version := UInt32.ofNat (value (field layout 0 buffer))
  enabled := (field layout 1 buffer).getD 0 0
  proxyPort := UInt16.ofNat (value (field layout 2 buffer))
  proxyV4 := field layout 3 buffer
  proxyV6 := field layout 4 buffer
  excludedPidCount := UInt32.ofNat (value (field layout 5 buffer))
  excludedPids := (values 4 16 (field layout 6 buffer)).map UInt32.ofNat
  upstreamPermitCount := UInt32.ofNat (value (field layout 7 buffer))

def listed (config : DriverConfig) : List UInt32 :=
  config.excludedPids.take (min config.excludedPidCount.toNat rgDnsMaxExcludedPids)

end DriverConfig

/-- `s_b1`, the lowest byte in memory. -/
def rgIsLoopbackAddrV4 (addr : List UInt8) : Bool := addr.getD 0 0 == 127

def word (addr : List UInt8) (i : Nat) : Nat :=
  (addr.getD (2 * i) 0).toNat + 256 * (addr.getD (2 * i + 1) 0).toNat

def rgIsLoopbackV6 (addr : List UInt8) : Bool :=
  (List.range 7).all (fun i => word addr i == 0) && word addr 7 == 1

def rgValidateConfig (config : DriverConfig) : Bool :=
  if config.version ≠ rgDnsConfigVersion then false
  else if config.proxyPort = 0 ∨ config.proxyPort = 53 then false
  else if !rgIsLoopbackAddrV4 config.proxyV4 then false
  else if !rgIsLoopbackV6 config.proxyV6 then false
  else if rgDnsMaxExcludedPids < config.excludedPidCount.toNat then false
  else true

inductive NtStatus where
  | success
  | bufferTooSmall
  | invalidParameter
deriving DecidableEq, Repr

/-- `IOCTL_RG_DNS_SET_CONFIG` in `RgDeviceControl`, with the configuration in force. -/
def rgSetConfig (config : DriverConfig) (buffer : List UInt8) : NtStatus × DriverConfig :=
  if buffer.length < DriverConfig.size then (.bufferTooSmall, config)
  else if !rgValidateConfig (DriverConfig.read buffer) then (.invalidParameter, config)
  else (.success, DriverConfig.read buffer)

/-! ## The two layouts agree -/

section Layout
variable (config : RgDnsRedirectConfig)

theorem parts_layout : config.parts.map List.length = DriverConfig.layout := by
  simp only [RgDnsRedirectConfig.parts, DriverConfig.layout, List.map_cons, List.map_nil,
    length_bytes, length_flatMap_bytes, List.length_map, Vector.length_toList,
    List.length_singleton]

theorem field_image (rest : List UInt8) (i : Nat) (hi : i < 8) :
    field DriverConfig.layout i (config.image ++ rest) = config.parts.getD i [] := by
  rw [← parts_layout config]
  exact field_flatten config.parts rest i hi

theorem length_image : config.image.length = DriverConfig.size := by
  rw [RgDnsRedirectConfig.image, List.length_flatten, parts_layout]
  rfl

theorem u32_bytes (n : UInt32) : UInt32.ofNat (value (bytes 4 n.toNat)) = n := by
  have hlt : n.toNat < 256 ^ 4 := n.toNat_lt
  rw [value_bytes_of_lt hlt, UInt32.ofNat_toNat]

theorem u16_bytes (n : UInt16) : UInt16.ofNat (value (bytes 2 n.toNat)) = n := by
  have hlt : n.toNat < 256 ^ 2 := n.toNat_lt
  rw [value_bytes_of_lt hlt, UInt16.ofNat_toNat]

theorem u32_values (ns : List UInt32) :
    (values 4 ns.length ((ns.map UInt32.toNat).flatMap (bytes 4))).map UInt32.ofNat = ns := by
  have hlt : ∀ n ∈ ns.map UInt32.toNat, n < 256 ^ 4 := by
    intro n hn
    obtain ⟨m, _, rfl⟩ := List.mem_map.mp hn
    exact m.toNat_lt
  have hread := values_flatMap (ns.map UInt32.toNat) hlt
  rw [List.length_map] at hread
  have hid : UInt32.ofNat ∘ UInt32.toNat = id := funext fun n => UInt32.ofNat_toNat
  rw [hread, List.map_map, hid, List.map_id]

theorem read_image (rest : List UInt8) : DriverConfig.read (config.image ++ rest) =
    { version := config.version
      enabled := config.enabled
      proxyPort := config.proxyPort
      proxyV4 := config.proxyV4.toList
      proxyV6 := config.proxyV6.toList
      excludedPidCount := config.excludedPidCount
      excludedPids := config.excludedPids.toList
      upstreamPermitCount := config.upstreamPermitCount } := by
  have hpids := u32_values config.excludedPids.toList
  rw [Vector.length_toList] at hpids
  simp only [DriverConfig.read, field_image config rest _ (by decide : 0 < 8),
    field_image config rest _ (by decide : 1 < 8), field_image config rest _ (by decide : 2 < 8),
    field_image config rest _ (by decide : 3 < 8), field_image config rest _ (by decide : 4 < 8),
    field_image config rest _ (by decide : 5 < 8), field_image config rest _ (by decide : 6 < 8),
    field_image config rest _ (by decide : 7 < 8), RgDnsRedirectConfig.parts,
    List.getD_cons_zero, List.getD_cons_succ, u32_bytes, u16_bytes, hpids]

end Layout

/-! ## What the validation accepts -/

theorem word_eq_zero_iff (addr : List UInt8) (i : Nat) :
    word addr i = 0 ↔ addr.getD (2 * i) 0 = 0 ∧ addr.getD (2 * i + 1) 0 = 0 := by
  rw [word, ← UInt8.toNat_inj, ← UInt8.toNat_inj, UInt8.toNat_zero]
  omega

/-- A word is 1 when its first byte is: `u.Word` is not in network order. -/
theorem word_eq_one_iff (addr : List UInt8) (i : Nat) :
    word addr i = 1 ↔ addr.getD (2 * i) 0 = 1 ∧ addr.getD (2 * i + 1) 0 = 0 := by
  have hlow := (addr.getD (2 * i) 0).toNat_lt
  rw [word, ← UInt8.toNat_inj, ← UInt8.toNat_inj, UInt8.toNat_zero, UInt8.toNat_one]
  omega

theorem rgIsLoopbackV6_iff (addr : List UInt8) : rgIsLoopbackV6 addr = true ↔
    (∀ i, i < 14 → addr.getD i 0 = 0) ∧ addr.getD 14 0 = 1 ∧ addr.getD 15 0 = 0 := by
  simp only [rgIsLoopbackV6, Bool.and_eq_true, List.all_eq_true, List.mem_range, beq_iff_eq,
    word_eq_zero_iff, word_eq_one_iff]
  refine and_congr_left fun _ => ⟨fun hwords i hi => ?_, fun hbytes i hi => ?_⟩
  · obtain ⟨heven, hodd⟩ := hwords (i / 2) (by omega)
    rcases Nat.mod_two_eq_zero_or_one i with hmod | hmod
    · rwa [show 2 * (i / 2) = i by omega] at heven
    · rwa [show 2 * (i / 2) + 1 = i by omega] at hodd
  · exact ⟨hbytes (2 * i) (by omega), hbytes (2 * i + 1) (by omega)⟩

theorem rgValidateConfig_iff (config : DriverConfig) : rgValidateConfig config = true ↔
    config.version = rgDnsConfigVersion ∧ (config.proxyPort ≠ 0 ∧ config.proxyPort ≠ 53) ∧
    rgIsLoopbackAddrV4 config.proxyV4 = true ∧ rgIsLoopbackV6 config.proxyV6 = true ∧
    config.excludedPidCount.toNat ≤ rgDnsMaxExcludedPids := by
  unfold rgValidateConfig
  grind

/-! ## The record of the service -/

structure Decoded (proxyPort : UInt16) (enabled : Bool) (excludedPids : List UInt32)
    (config : DriverConfig) : Prop where
  port : config.proxyPort = proxyPort
  flag : config.enabled ≠ 0 ↔ enabled = true
  v4 : config.proxyV4 = [127, 0, 0, 1]
  v6 : config.proxyV6 = List.replicate 15 0 ++ [1]
  pids : config.listed = excludedPids.take rgDnsMaxExcludedPids

section Loopback
variable (proxyPort : UInt16) (enabled : Bool) (excludedPids : List UInt32)

def received : DriverConfig :=
  DriverConfig.read (RgDnsRedirectConfig.loopbackV4 proxyPort enabled excludedPids).image

theorem take_padded (n : Nat) (pids : List UInt32) :
    (List.ofFn fun i : Fin n => pids.getD i 0).take (min (min pids.length n) n) =
      pids.take n := by
  apply List.ext_getElem
  · simp only [List.length_take, List.length_ofFn]
    omega
  · intro i hi _
    have hlt : i < pids.length := by
      rw [List.length_take] at hi
      omega
    simp [List.getElem_take, hlt]

theorem loopbackV4_decoded :
    Decoded proxyPort enabled excludedPids (received proxyPort enabled excludedPids) := by
  rw [received, ← List.append_nil (RgDnsRedirectConfig.image _), read_image]
  refine ⟨rfl, ?_, rfl, rfl, ?_⟩
  · cases enabled <;> simp [RgDnsRedirectConfig.loopbackV4]
  · have hcount : (UInt32.ofNat (min excludedPids.length rgDnsMaxExcludedPids)).toNat =
        min excludedPids.length rgDnsMaxExcludedPids := by
      refine UInt32.toNat_ofNat_of_lt' ?_
      show min excludedPids.length 16 < 2 ^ 32
      omega
    simp only [DriverConfig.listed, RgDnsRedirectConfig.loopbackV4, hcount, Vector.toList_ofFn]
    exact take_padded 16 excludedPids

/-- The last word of `::1` is 256 to the driver. -/
theorem loopbackV4_rejected :
    rgValidateConfig (received proxyPort enabled excludedPids) = false := by
  rw [received, ← List.append_nil (RgDnsRedirectConfig.image _), read_image, ← Bool.not_eq_true,
    rgValidateConfig_iff]
  intro hvalid
  obtain ⟨_, hlast, _⟩ := (rgIsLoopbackV6_iff RgDnsRedirectConfig.loopbackV6.toList).mp
    hvalid.2.2.2.1
  exact absurd hlast (by decide)

/-- No record of the service is accepted, and the configuration in force stays. -/
theorem rgSetConfig_loopbackV4 (config : DriverConfig) :
    rgSetConfig config (RgDnsRedirectConfig.loopbackV4 proxyPort enabled excludedPids).image =
      (.invalidParameter, config) := by
  have hrejected := loopbackV4_rejected proxyPort enabled excludedPids
  rw [received] at hrejected
  simp [rgSetConfig, length_image, hrejected]

theorem loopbackV4_undelivered :
    ¬ (rgValidateConfig (received proxyPort enabled excludedPids) = true ∧
      Decoded proxyPort enabled excludedPids (received proxyPort enabled excludedPids)) := by
  intro hdelivered
  rw [loopbackV4_rejected] at hdelivered
  exact absurd hdelivered.1 (by decide)

end Loopback

theorem oneClient_rejected :
    ¬ (rgValidateConfig (received 5353 true [1234]) = true ∧
      Decoded 5353 true [1234] (received 5353 true [1234])) := by
  intro hdelivered
  exact absurd hdelivered.1 (by decide)

end RouteGuard
