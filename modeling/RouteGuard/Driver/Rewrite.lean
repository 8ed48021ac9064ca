import RouteGuard.Lib.LittleEndian
import RouteGuard.Lib.TracedMemory

/-! # Rewriting a datagram

`RgRewriteDatagramV4` and `RgRewriteDatagramV6` of the driver, on the memory from
the current start of the data on.  `NdisGetDataBuffer` promises only the bytes it
was asked for; what lies behind them is memory all the same. -/
set_option autoImplicit false
namespace RouteGuard

open LittleEndian TracedMemory

/-! ## The functions -/

/-- A `NET_BUFFER`.  `contiguous n` says that `NdisGetDataBuffer(nb, n, NULL, 1, 0)` returns the
pointer to `bytes` and not `NULL`. -/
structure NetBuffer where
  dataOffset : UInt32
  bytes : Nat → UInt8
  contiguous : UInt32 → Bool

structure NetBufferList where
  firstNb : Option NetBuffer

/-- The memory afterwards; `rewrote` says that the call came to its stores. -/
structure RewriteResult where
  region : Region
  rewrote : Bool

def rtlUshortByteSwap (value : UInt16) : UInt16 :=
  UInt16.ofNat (value.toNat % 256 * 256 + value.toNat / 256)

/-- `*portField = RtlUshortByteSwap(proxyPort)` on a little-endian machine. -/
def portBytes (proxyPort : UInt16) : List UInt8 := bytes 2 (rtlUshortByteSwap proxyPort).toNat

def ipHeaderLen (memory : Nat → UInt8) (start : Nat) : Nat := (memory start &&& 0x0f).toNat * 4

/-- `p` stands `offset` bytes behind the start of the data. -/
def rewriteV4 (nb : NetBuffer) (proxyPort : UInt16) (proxyAddr : Vector UInt8 4) : RewriteResult :=
  let offset := nb.dataOffset
  if !nb.contiguous (offset + 28) then ⟨⟨nb.bytes, []⟩, false⟩
  else
    let p := offset.toNat
    let region := Region.read p ⟨nb.bytes, []⟩
    let headerLen := ipHeaderLen nb.bytes p
    if headerLen < 20 then ⟨region, false⟩
    else
      let region := region.store (p + 16) proxyAddr.toList
      let region := region.store (p + headerLen + 2) (portBytes proxyPort)
      let region := region.store (p + 10) [0, 0]
      ⟨region.store (p + headerLen + 6) [0, 0], true⟩

def rewriteV6 (nb : NetBuffer) (proxyPort : UInt16) (proxyAddr : Vector UInt8 16) :
    RewriteResult :=
  let offset := nb.dataOffset
  if !nb.contiguous (offset + 48) then ⟨⟨nb.bytes, []⟩, false⟩
  else
    let p := offset.toNat
    let region := Region.store (p + 24) proxyAddr.toList ⟨nb.bytes, []⟩
    ⟨region.store (p + 40 + 2) (portBytes proxyPort), true⟩

/-- `NULL` layer data or an empty list ends the call at once. -/
def rgRewriteDatagramV4 (layerData : Option NetBufferList) (proxyPort : UInt16)
    (proxyAddr : Vector UInt8 4) : Option RewriteResult :=
  match layerData with
  | none => none
  | some nbl => nbl.firstNb.map fun nb => rewriteV4 nb proxyPort proxyAddr

def rgRewriteDatagramV6 (layerData : Option NetBufferList) (proxyPort : UInt16)
    (proxyAddr : Option (Vector UInt8 16)) : Option RewriteResult :=
  match layerData, proxyAddr with
  | some nbl, some proxyAddr => nbl.firstNb.map fun nb => rewriteV6 nb proxyPort proxyAddr
  | _, _ => none

/-! ## What a rewrite should do -/

/-- Where the fields of the datagram stand, counted from its first byte. -/
structure DatagramFields where
  address : Nat
  port : Nat
  checksums : List Nat
deriving DecidableEq, Repr

def fieldsV4 (memory : Nat → UInt8) : DatagramFields :=
  let udp := ipHeaderLen memory 0
  ⟨16, udp + 2, [10, 11, udp + 6, udp + 7]⟩

/-- An IPv6 datagram whose UDP header stands at `udp`: at 40, or behind extension headers. -/
def fieldsV6 (udp : Nat) : DatagramFields := ⟨24, udp + 2, [udp + 6, udp + 7]⟩

/-- The datagram goes to the proxy and is otherwise, but for checksums, as it was. -/
structure SentToProxy (fields : DatagramFields) (proxyAddr : List UInt8) (proxyPort : UInt16)
    (before after : Nat → UInt8) : Prop where
  address : ∀ i value, proxyAddr[i]? = some value → after (fields.address + i) = value
  port : after fields.port = UInt8.ofNat (proxyPort.toNat / 256) ∧
    after (fields.port + 1) = UInt8.ofNat proxyPort.toNat
  rest : ∀ pos, pos ∉ fields.checksums →
    (pos < fields.address ∨ fields.address + proxyAddr.length ≤ pos) →
    pos ≠ fields.port → pos ≠ fields.port + 1 → after pos = before pos

/-- The call keeps to the `count` bytes it was given, and its rewrite is one of the datagram. -/
structure SafeRewrite (count : UInt32) (fields : DatagramFields) (proxyAddr : List UInt8)
    (proxyPort : UInt16) (before : Nat → UInt8) (result : RewriteResult) : Prop where
  within : result.region.Within count.toNat
  readdressed : result.rewrote = true →
    SentToProxy fields proxyAddr proxyPort before result.region.bytes

def RewritesV4 (nb : NetBuffer) : Prop :=
  ∀ port addr result, rgRewriteDatagramV4 (some ⟨some nb⟩) port addr = some result →
    SafeRewrite (nb.dataOffset + 28) (fieldsV4 nb.bytes) addr.toList port nb.bytes result

def RewritesV6 (nb : NetBuffer) (udp : Nat) : Prop :=
  ∀ port addr result, rgRewriteDatagramV6 (some ⟨some nb⟩) port (some addr) = some result →
    SafeRewrite (nb.dataOffset + 48) (fieldsV6 udp) addr.toList port nb.bytes result

/-- The offset with the header added is a `ULONG` that did not wrap. -/
def NoWrap (offset : UInt32) (header : Nat) : Prop := offset.toNat + header < 2 ^ 32

/-! ## The memory after the stores -/

section Bytes

theorem portBytes_eq (port : UInt16) :
    portBytes port = [UInt8.ofNat (port.toNat / 256), UInt8.ofNat port.toNat] := by
  have hlt : port.toNat < 2 ^ 16 := port.toNat_lt
  have hhigh : port.toNat / 256 < 256 := by omega
  have hswap : (rtlUshortByteSwap port).toNat = port.toNat % 256 * 256 + port.toNat / 256 := by
    rw [rtlUshortByteSwap, UInt16.toNat_ofNat']
    exact Nat.mod_eq_of_lt (by omega)
  have hquot : (port.toNat % 256 * 256 + port.toNat / 256) / 256 = port.toNat % 256 := by omega
  have hmod : (port.toNat % 256 * 256 + port.toNat / 256) % 256 = port.toNat / 256 := by omega
  rw [portBytes, hswap]
  simp only [bytes, hquot, List.cons.injEq, and_true]
  constructor
  · rw [← UInt8.toNat_inj, UInt8.toNat_ofNat', UInt8.toNat_ofNat', hmod, Nat.mod_eq_of_lt hhigh]
  · rw [← UInt8.toNat_inj, UInt8.toNat_ofNat', UInt8.toNat_ofNat', Nat.mod_mod]

@[simp]
theorem length_portBytes (port : UInt16) : (portBytes port).length = 2 := by
  rw [portBytes, length_bytes]

theorem exists_other (b : UInt8) : ∃ y : UInt8, y ≠ 0 ∧ y ≠ b := by
  by_cases hone : b = 1
  · exact ⟨2, by decide, by rw [hone]; decide⟩
  · exact ⟨1, by decide, fun h => hone h.symm⟩

variable {offset header : UInt32}

theorem toNat_add_of_noWrap (h : NoWrap offset header.toNat) :
    (offset + header).toNat = offset.toNat + header.toNat := by
  rw [UInt32.toNat_add]
  exact Nat.mod_eq_of_lt h

theorem toNat_add_of_wrap (h : ¬NoWrap offset header.toNat) :
    (offset + header).toNat < offset.toNat := by
  have hoffset := offset.toNat_lt
  have hheader := header.toNat_lt
  rw [NoWrap] at h
  rw [UInt32.toNat_add]
  omega

end Bytes

section V4
variable {nb : NetBuffer} (port : UInt16) (addr : Vector UInt8 4)

def storesV4 (memory : Nat → UInt8) (p : Nat) : Region :=
  let h := ipHeaderLen memory p
  ((((Region.read p ⟨memory, []⟩).store (p + 16) addr.toList).store (p + h + 2)
    (portBytes port)).store (p + 10) [0, 0]).store (p + h + 6) [0, 0]

theorem rewriteV4_of_short (hgot : nb.contiguous (nb.dataOffset + 28) = true)
    (hshort : ipHeaderLen nb.bytes nb.dataOffset.toNat < 20) :
    rewriteV4 nb port addr = ⟨Region.read nb.dataOffset.toNat ⟨nb.bytes, []⟩, false⟩ := by
  simp [rewriteV4, hgot, hshort]

theorem rewriteV4_of_le (hgot : nb.contiguous (nb.dataOffset + 28) = true)
    (hlong : 20 ≤ ipHeaderLen nb.bytes nb.dataOffset.toNat) :
    rewriteV4 nb port addr = ⟨storesV4 port addr nb.bytes nb.dataOffset.toNat, true⟩ := by
  have hnot : ¬ipHeaderLen nb.bytes nb.dataOffset.toNat < 20 := Nat.not_lt.mpr hlong
  simp [rewriteV4, hgot, hnot, storesV4]

theorem storesV4_within (memory : Nat → UInt8) (p count : Nat) :
    (storesV4 port addr memory p).Within count ↔
      p + 20 ≤ count ∧ p + ipHeaderLen memory p + 8 ≤ count := by
  have hport : 0 < (portBytes port).length := by simp
  have haddr : 0 < addr.toList.length := by simp
  have hnone : (⟨memory, []⟩ : Region).Within count := by simp [Region.Within]
  rw [storesV4, Region.within_store (by decide), Region.within_store (by decide),
    Region.within_store hport, Region.within_store haddr, Region.within_read]
  simp only [Vector.length_toList, length_portBytes, List.length_cons, List.length_nil, hnone,
    true_and]
  omega

/-- Behind the start of the data the last byte of the address is not stored where it belongs. -/
theorem storesV4_misplaced (memory : Nat → UInt8) {p : Nat} (y : UInt8) (hp : p ≠ 0)
    (hlong : 20 ≤ ipHeaderLen memory p) :
    (storesV4 port #v[0, 0, 0, y] memory p).bytes 19 = 0 ∨
      (storesV4 port #v[0, 0, 0, y] memory p).bytes 19 = memory 19 := by
  rw [storesV4, Region.store_outside (by omega)]
  rcases Region.store_cases (p + 10) [0, 0] (((Region.read p ⟨memory, []⟩).store (p + 16)
    (#v[0, 0, 0, y] : Vector UInt8 4).toList).store (p + ipHeaderLen memory p + 2)
      (portBytes port)) 19 with hkept | hzero
  · rw [hkept, Region.store_outside (by omega)]
    rcases Region.store_cases (p + 16) (#v[0, 0, 0, y] : Vector UInt8 4).toList
      (Region.read p ⟨memory, []⟩) 19 with hold | hnew
    · right
      rw [hold, Region.read_bytes]
    · left
      obtain ⟨i, value, hpos, hvalue, hstored⟩ := hnew
      have hbytes : (#v[0, 0, 0, y] : Vector UInt8 4).toList = [0, 0, 0, y] := rfl
      rw [hbytes] at hvalue
      rw [hstored]
      have hi : i = 0 ∨ i = 1 ∨ i = 2 := by omega
      rcases hi with rfl | rfl | rfl
      · exact (Option.some.inj hvalue).symm
      · exact (Option.some.inj hvalue).symm
      · exact (Option.some.inj hvalue).symm
  · left
    obtain ⟨i, value, -, hvalue, hstored⟩ := hzero
    rw [hstored]
    have hmem : value ∈ [(0 : UInt8), 0] := List.mem_of_getElem? hvalue
    simpa using hmem

/-- The datagram stands at the start of the data and its header has no options. -/
theorem storesV4_readdressed {memory : Nat → UInt8} (hlen : ipHeaderLen memory 0 = 20) :
    SentToProxy (fieldsV4 memory) addr.toList port memory (storesV4 port addr memory 0).bytes := by
  have hport := portBytes_eq port
  constructor
  · intro i value hvalue
    have hi : i < 4 := by
      have hlt := (List.getElem?_eq_some_iff.mp hvalue).1
      simpa using hlt
    simp only [storesV4, fieldsV4, hlen]
    rw [Region.store_outside (by omega),
      Region.store_outside (by simp only [List.length_cons, List.length_nil]; omega),
      Region.store_outside (by omega)]
    exact Region.store_inside 16 hvalue
  · have hhigh : (portBytes port)[0]? = some (UInt8.ofNat (port.toNat / 256)) := by rw [hport]; rfl
    have hlow : (portBytes port)[1]? = some (UInt8.ofNat port.toNat) := by rw [hport]; rfl
    simp only [storesV4, fieldsV4, hlen]
    constructor
    · rw [Region.store_outside (by omega),
        Region.store_outside (by simp only [List.length_cons, List.length_nil]; omega)]
      exact Region.store_inside 22 hhigh
    · rw [Region.store_outside (by omega),
        Region.store_outside (by simp only [List.length_cons, List.length_nil]; omega)]
      exact Region.store_inside 22 hlow
  · intro pos hsum haddr hhigh hlow
    simp only [fieldsV4, hlen, List.mem_cons, List.not_mem_nil, or_false, not_or,
      Vector.length_toList] at hsum haddr hhigh hlow
    simp only [storesV4, hlen]
    rw [Region.store_outside (by simp only [List.length_cons, List.length_nil]; omega),
      Region.store_outside (by simp only [List.length_cons, List.length_nil]; omega),
      Region.store_outside (by simp only [length_portBytes]; omega),
      Region.store_outside (by simp only [Vector.length_toList]; omega), Region.read_bytes]

end V4

section V6
variable {nb : NetBuffer} (port : UInt16) (addr : Vector UInt8 16)

def storesV6 (memory : Nat → UInt8) (p : Nat) : Region :=
  (Region.store (p + 24) addr.toList ⟨memory, []⟩).store (p + 40 + 2) (portBytes port)

theorem rewriteV6_of_got (hgot : nb.contiguous (nb.dataOffset + 48) = true) :
    rewriteV6 nb port addr = ⟨storesV6 port addr nb.bytes nb.dataOffset.toNat, true⟩ := by
  simp [rewriteV6, hgot, storesV6]

theorem storesV6_within (memory : Nat → UInt8) (p count : Nat) :
    (storesV6 port addr memory p).Within count ↔ p + 44 ≤ count := by
  have hport : 0 < (portBytes port).length := by simp
  have haddr : 0 < addr.toList.length := by simp
  have hnone : (⟨memory, []⟩ : Region).Within count := by simp [Region.Within]
  rw [storesV6, Region.within_store hport, Region.within_store haddr]
  simp only [Vector.length_toList, length_portBytes, hnone, true_and]
  omega

theorem storesV6_readdressed (memory : Nat → UInt8) :
    SentToProxy (fieldsV6 40) addr.toList port memory (storesV6 port addr memory 0).bytes := by
  have hport := portBytes_eq port
  simp only [storesV6, fieldsV6]
  constructor
  · intro i value hvalue
    have hi : i < 16 := by
      have hlt := (List.getElem?_eq_some_iff.mp hvalue).1
      simpa using hlt
    rw [Region.store_outside (by simp only [length_portBytes]; omega)]
    exact Region.store_inside 24 hvalue
  · have hhigh : (portBytes port)[0]? = some (UInt8.ofNat (port.toNat / 256)) := by rw [hport]; rfl
    have hlow : (portBytes port)[1]? = some (UInt8.ofNat port.toNat) := by rw [hport]; rfl
    exact ⟨Region.store_inside 42 hhigh, Region.store_inside 42 hlow⟩
  · intro pos hsum haddr hhigh hlow
    simp only [Vector.length_toList] at haddr hhigh hlow
    rw [Region.store_outside (by simp only [length_portBytes]; omega),
      Region.store_outside (by simp only [Vector.length_toList]; omega)]

def lastByte (y : UInt8) : Vector UInt8 16 := ⟨(List.replicate 15 0 ++ [y]).toArray, by simp⟩

theorem lastByte_init {y value : UInt8} {i : Nat} (hi : i < 15)
    (hvalue : (lastByte y).toList[i]? = some value) : value = 0 := by
  have hbytes : (lastByte y).toList = List.replicate 15 0 ++ [y] := rfl
  rw [hbytes, List.getElem?_append_left (by simpa using hi), List.getElem?_replicate,
    if_pos hi] at hvalue
  exact (Option.some.inj hvalue).symm

theorem storesV6_misplaced (memory : Nat → UInt8) {p : Nat} (y : UInt8) (hp : p ≠ 0) :
    (storesV6 port (lastByte y) memory p).bytes 39 = 0 ∨
      (storesV6 port (lastByte y) memory p).bytes 39 = memory 39 := by
  rw [storesV6, Region.store_outside (by omega)]
  rcases Region.store_cases (p + 24) (lastByte y).toList ⟨memory, []⟩ 39 with hold | hnew
  · exact Or.inr hold
  · left
    obtain ⟨i, value, hpos, hvalue, hstored⟩ := hnew
    rw [hstored]
    exact lastByte_init (by omega) hvalue

/-- Behind an extension header the high byte of the port is not stored where it belongs. -/
theorem storesV6_extension (memory : Nat → UInt8) {udp : Nat} (y : UInt8) (hudp : udp ≠ 40) :
    (storesV6 (UInt16.ofNat (y.toNat * 256)) (Vector.replicate 16 0) memory 0).bytes (udp + 2) =
        0 ∨
      (storesV6 (UInt16.ofNat (y.toNat * 256)) (Vector.replicate 16 0) memory 0).bytes (udp + 2) =
        memory (udp + 2) := by
  have hy := y.toNat_lt
  have hnat : (UInt16.ofNat (y.toNat * 256)).toNat = y.toNat * 256 := by
    rw [UInt16.toNat_ofNat']
    exact Nat.mod_eq_of_lt (by omega)
  rw [storesV6]
  rcases Region.store_cases 42 (portBytes (UInt16.ofNat (y.toNat * 256)))
    (Region.store 24 (Vector.replicate 16 0).toList ⟨memory, []⟩) (udp + 2) with hold | hnew
  · rcases Region.store_cases 24 (Vector.replicate 16 (0 : UInt8)).toList ⟨memory, []⟩
      (udp + 2) with hkept | hzero
    · exact Or.inr (hold.trans hkept)
    · left
      obtain ⟨i, value, -, hvalue, hstored⟩ := hzero
      rw [hold, hstored]
      have hmem := List.mem_of_getElem? hvalue
      simpa using hmem
  · left
    obtain ⟨i, value, hpos, hvalue, hstored⟩ := hnew
    rw [hstored]
    rw [portBytes_eq, hnat] at hvalue
    have hi : i = 1 := by
      have hlt := (List.getElem?_eq_some_iff.mp hvalue).1
      simp only [List.length_cons, List.length_nil] at hlt
      omega
    rw [hi] at hvalue
    have hzero : UInt8.ofNat (y.toNat * 256) = 0 := by
      rw [← UInt8.toNat_inj, UInt8.toNat_ofNat', Nat.mul_mod_left]
      rfl
    exact (Option.some.inj hvalue).symm.trans hzero

end V6

/-! ## When a rewrite is safe -/

section Safe
variable {nb : NetBuffer}

theorem rewritesV4_iff : RewritesV4 nb ↔ ∀ port addr,
    SafeRewrite (nb.dataOffset + 28) (fieldsV4 nb.bytes) addr.toList port nb.bytes
      (rewriteV4 nb port addr) := by
  constructor
  · intro h port addr
    exact h port addr _ rfl
  · intro h port addr result hcall
    have hresult : rewriteV4 nb port addr = result := Option.some.inj hcall
    rw [← hresult]
    exact h port addr

theorem rewritesV6_iff {udp : Nat} : RewritesV6 nb udp ↔ ∀ port addr,
    SafeRewrite (nb.dataOffset + 48) (fieldsV6 udp) addr.toList port nb.bytes
      (rewriteV6 nb port addr) := by
  constructor
  · intro h port addr
    exact h port addr _ rfl
  · intro h port addr result hcall
    have hresult : rewriteV6 nb port addr = result := Option.some.inj hcall
    rw [← hresult]
    exact h port addr

theorem rewritesV4_of_null (hnull : nb.contiguous (nb.dataOffset + 28) = false) :
    RewritesV4 nb := by
  rw [rewritesV4_iff]
  intro port addr
  have hcall : rewriteV4 nb port addr = ⟨⟨nb.bytes, []⟩, false⟩ := by
    rw [rewriteV4, hnull]
    rfl
  rw [hcall]
  exact ⟨by simp [Region.Within], fun hrewrote => Bool.noConfusion hrewrote⟩

theorem rewritesV4_of_short (hgot : nb.contiguous (nb.dataOffset + 28) = true)
    (hshort : ipHeaderLen nb.bytes nb.dataOffset.toNat < 20) :
    RewritesV4 nb ↔ NoWrap nb.dataOffset 28 := by
  have hread (count : Nat) : (Region.read nb.dataOffset.toNat ⟨nb.bytes, []⟩).Within count ↔
      nb.dataOffset.toNat < count := by
    rw [Region.within_read]
    simp [Region.Within]
  rw [rewritesV4_iff]
  constructor
  · intro hsafe
    have hwithin := (hsafe 0 #v[0, 0, 0, 0]).within
    rw [rewriteV4_of_short 0 _ hgot hshort, hread] at hwithin
    by_contra hwrap
    have hbelow : (nb.dataOffset + 28).toNat < nb.dataOffset.toNat := toNat_add_of_wrap hwrap
    omega
  · intro hwrap port addr
    rw [rewriteV4_of_short port addr hgot hshort]
    refine ⟨(hread _).mpr ?_, fun hrewrote => Bool.noConfusion hrewrote⟩
    rw [toNat_add_of_noWrap hwrap]
    exact Nat.lt_add_of_pos_right (by decide)

theorem rewritesV4_of_le (hgot : nb.contiguous (nb.dataOffset + 28) = true)
    (hlong : 20 ≤ ipHeaderLen nb.bytes nb.dataOffset.toNat) :
    RewritesV4 nb ↔ ipHeaderLen nb.bytes nb.dataOffset.toNat = 20 ∧ nb.dataOffset = 0 := by
  rw [rewritesV4_iff]
  constructor
  · intro hsafe
    obtain ⟨y, hzero, hbefore⟩ := exists_other (nb.bytes 19)
    have hcall := hsafe 0 #v[0, 0, 0, y]
    rw [rewriteV4_of_le 0 _ hgot hlong] at hcall
    have hwithin := (storesV4_within 0 _ _ _ _).mp hcall.within
    have hnowrap : NoWrap nb.dataOffset 28 := by
      by_contra hwrap
      have hbelow : (nb.dataOffset + 28).toNat < nb.dataOffset.toNat := toNat_add_of_wrap hwrap
      omega
    have hcount : (nb.dataOffset + 28).toNat = nb.dataOffset.toNat + 28 :=
      toNat_add_of_noWrap hnowrap
    refine ⟨by omega, ?_⟩
    by_contra hoffset
    have hp : nb.dataOffset.toNat ≠ 0 := fun h => hoffset (UInt32.toNat_inj.mp h)
    have hlast := (hcall.readdressed rfl).address 3 y rfl
    rcases storesV4_misplaced 0 nb.bytes y hp hlong with hclear | hkept
    · exact hzero (hlast.symm.trans hclear)
    · exact hbefore (hlast.symm.trans hkept)
  · rintro ⟨hlen, hoffset⟩ port addr
    have hp : nb.dataOffset.toNat = 0 := by rw [hoffset]; rfl
    rw [rewriteV4_of_le port addr hgot hlong, hp]
    rw [hp] at hlen
    constructor
    · rw [storesV4_within, hlen, hoffset]
      decide
    · intro _
      exact storesV4_readdressed port addr hlen

theorem rewritesV6_of_null {udp : Nat} (hnull : nb.contiguous (nb.dataOffset + 48) = false) :
    RewritesV6 nb udp := by
  rw [rewritesV6_iff]
  intro port addr
  have hcall : rewriteV6 nb port addr = ⟨⟨nb.bytes, []⟩, false⟩ := by
    rw [rewriteV6, hnull]
    rfl
  rw [hcall]
  exact ⟨by simp [Region.Within], fun hrewrote => Bool.noConfusion hrewrote⟩

theorem rewritesV6_of_got {udp : Nat} (hgot : nb.contiguous (nb.dataOffset + 48) = true) :
    RewritesV6 nb udp ↔ nb.dataOffset = 0 ∧ udp = 40 := by
  rw [rewritesV6_iff]
  constructor
  · intro hsafe
    have hoffset : nb.dataOffset = 0 := by
      by_contra hoffset
      have hp : nb.dataOffset.toNat ≠ 0 := fun h => hoffset (UInt32.toNat_inj.mp h)
      obtain ⟨y, hzero, hbefore⟩ := exists_other (nb.bytes 39)
      have hcall := hsafe 0 (lastByte y)
      rw [rewriteV6_of_got 0 _ hgot] at hcall
      have hlast := (hcall.readdressed rfl).address 15 y rfl
      rcases storesV6_misplaced 0 nb.bytes y hp with hclear | hkept
      · exact hzero (hlast.symm.trans hclear)
      · exact hbefore (hlast.symm.trans hkept)
    refine ⟨hoffset, ?_⟩
    by_contra hudp
    have hp : nb.dataOffset.toNat = 0 := by rw [hoffset]; rfl
    obtain ⟨y, hzero, hbefore⟩ := exists_other (nb.bytes (udp + 2))
    have hcall := hsafe (UInt16.ofNat (y.toNat * 256)) (Vector.replicate 16 0)
    rw [rewriteV6_of_got _ _ hgot, hp] at hcall
    have hhigh := (hcall.readdressed rfl).port.1
    have hy := y.toNat_lt
    have hbyte : UInt8.ofNat ((UInt16.ofNat (y.toNat * 256)).toNat / 256) = y := by
      rw [UInt16.toNat_ofNat', Nat.mod_eq_of_lt (by omega), Nat.mul_div_cancel _ (by decide),
        UInt8.ofNat_toNat]
    rw [hbyte] at hhigh
    rcases storesV6_extension nb.bytes y hudp with hclear | hkept
    · exact hzero (hhigh.symm.trans hclear)
    · exact hbefore (hhigh.symm.trans hkept)
  · rintro ⟨hoffset, rfl⟩ port addr
    have hp : nb.dataOffset.toNat = 0 := by rw [hoffset]; rfl
    rw [rewriteV6_of_got port addr hgot, hp]
    constructor
    · rw [storesV6_within, hoffset]
      decide
    · intro _
      exact storesV6_readdressed port addr nb.bytes

end Safe

/-- A buffer whose bytes are got is rewritten safely where its data begin at offset zero and the
UDP header follows the bare IP header; an IPv4 header too short to be one is left alone. -/
theorem rewrites_iff (nb : NetBuffer) (udp : Nat) :
    (RewritesV4 nb ↔ (nb.contiguous (nb.dataOffset + 28) = true →
      NoWrap nb.dataOffset 28 ∧ ipHeaderLen nb.bytes nb.dataOffset.toNat < 20 ∨
        nb.dataOffset = 0 ∧ ipHeaderLen nb.bytes 0 = 20)) ∧
    (RewritesV6 nb udp ↔ (nb.contiguous (nb.dataOffset + 48) = true →
      nb.dataOffset = 0 ∧ udp = 40)) := by
  constructor
  · by_cases hgot : nb.contiguous (nb.dataOffset + 28) = true
    · by_cases hshort : ipHeaderLen nb.bytes nb.dataOffset.toNat < 20
      · rw [rewritesV4_of_short hgot hshort]
        constructor
        · intro hwrap _
          exact Or.inl ⟨hwrap, hshort⟩
        · intro h
          rcases h hgot with hwrap | ⟨hoffset, hlen⟩
          · exact hwrap.1
          · have hp : nb.dataOffset.toNat = 0 := by rw [hoffset]; rfl
            rw [hp, hlen] at hshort
            exact absurd hshort (by decide)
      · rw [rewritesV4_of_le hgot (Nat.not_lt.mp hshort)]
        constructor
        · rintro ⟨hlen, hoffset⟩ _
          have hp : nb.dataOffset.toNat = 0 := by rw [hoffset]; rfl
          rw [hp] at hlen
          exact Or.inr ⟨hoffset, hlen⟩
        · intro h
          rcases h hgot with hwrap | ⟨hoffset, hlen⟩
          · exact absurd hwrap.2 hshort
          · have hp : nb.dataOffset.toNat = 0 := by rw [hoffset]; rfl
            rw [hp]
            exact ⟨hlen, hoffset⟩
    · exact iff_of_true (rewritesV4_of_null (Bool.eq_false_iff.mpr hgot))
        fun hyes => absurd hyes hgot
  · by_cases hgot : nb.contiguous (nb.dataOffset + 48) = true
    · rw [rewritesV6_of_got hgot]
      exact ⟨fun h _ => h, fun h => h hgot⟩
    · exact iff_of_true (rewritesV6_of_null (Bool.eq_false_iff.mpr hgot))
        fun hyes => absurd hyes hgot

def optionsPacket : NetBuffer where
  dataOffset := 0
  bytes pos := if pos = 0 then 0x46 else 0
  contiguous count := count ≤ 28

/-- Its port and checksum are stored behind the 28 bytes. -/
theorem optionsPacket_outside : ¬∀ nb udp, RewritesV4 nb ∧ RewritesV6 nb udp := by
  intro hall
  have hsafe := (hall optionsPacket 40).1 5353 #v[127, 0, 0, 1] _ rfl
  have hbehind := hsafe.within 30 (by decide)
  exact absurd hbehind (by decide)

end RouteGuard
