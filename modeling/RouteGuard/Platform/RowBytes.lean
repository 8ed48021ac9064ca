import RouteGuard.Platform.BestRoute
import RouteGuard.Platform.WgBuffer

/-! # The bytes of a forwarding row

The destination that `add_route` and `delete_route` write into a
`MIB_IPFORWARD_ROW2`, in the memory of a little-endian machine, beside the bytes
that the driver's configuration has for the same network. -/
set_option autoImplicit false
namespace RouteGuard

open LittleEndian

/-! ## Rows -/

def IpAddr.octets : IpAddr → List UInt8
  | .v4 bits => bigEndian 4 bits.toNat
  | .v6 bits => bigEndian 16 bits.toNat

def fromBeBytes (octets : List UInt8) : Nat := value octets.reverse

/-- `IP_ADDRESS_PREFIX`: the 28 bytes of a `SOCKADDR_INET`, and the length. -/
structure AddressPrefix where
  sockaddr : List UInt8 := List.replicate 28 0
  prefixLength : Nat := 0
deriving DecidableEq, Repr

/-- The fields of `MIB_IPFORWARD_ROW2` that the code writes, over a zeroed row. -/
structure ForwardRow where
  interfaceIndex : Nat := 0
  metric : Nat := 0
  protocol : Nat := 0
  destination : AddressPrefix := {}
  nextHop : List UInt8 := List.replicate 28 0
deriving DecidableEq, Repr

namespace WindowsRoutes

/-- Port, `sin_zero`, flow and scope stay zero. -/
def destinationPrefix : IpNet → AddressPrefix
  | .v4 net => ⟨bytes 2 afInet ++ bytes 2 0 ++ bytes 4 (fromBeBytes (IpAddr.v4 net.addr).octets) ++
      List.replicate 20 0, net.prefixLen⟩
  | .v6 net => ⟨bytes 2 afInet6 ++ bytes 2 0 ++ bytes 4 0 ++ (IpAddr.v6 net.addr).octets ++
      bytes 4 0, net.prefixLen⟩

def nextHopOf : IpNet → List UInt8
  | .v4 _ => bytes 2 afInet ++ List.replicate 26 0
  | .v6 _ => List.replicate 28 0

/-- 3 is `MIB_IPPROTO_NETMGMT`. -/
def addRoute (cidr : IpNet) (ifIndex metric : Nat) : ForwardRow where
  interfaceIndex := ifIndex
  metric := metric
  protocol := 3
  destination := destinationPrefix cidr
  nextHop := nextHopOf cidr

def deleteRoute (cidr : IpNet) : ForwardRow where
  destination := destinationPrefix cidr

end WindowsRoutes

/-! ## Reading -/

def sockaddrToRust (addr : List UInt8) (family : Nat) : Option SocketAddr :=
  let port := UInt16.ofNat (fromBeBytes ((addr.drop 2).take 2))
  if family = afInet then
    some ⟨.v4 (BitVec.ofNat 32 (fromBeBytes ((addr.drop 4).take 4))), port⟩
  else if family = afInet6 then
    some ⟨.v6 (BitVec.ofNat 128 (fromBeBytes ((addr.drop 8).take 16))), port⟩
  else none

namespace AddressPrefix

def family (p : AddressPrefix) : Nat := value (p.sockaddr.take 2)

def addressBytes (p : AddressPrefix) : List UInt8 :=
  if p.family = afInet then (p.sockaddr.drop 4).take 4 else (p.sockaddr.drop 8).take 16

def seen (p : AddressPrefix) : Option IpNet :=
  match (sockaddrToRust p.sockaddr p.family).map SocketAddr.ip with
  | some (.v4 addr) =>
      if h : p.prefixLength ≤ 32 then some (.v4 ⟨addr, p.prefixLength, h⟩) else none
  | some (.v6 addr) =>
      if h : p.prefixLength ≤ 128 then some (.v6 ⟨addr, p.prefixLength, h⟩) else none
  | none => none

end AddressPrefix

/-! ## What is written -/

theorem byteAt (x : BitVec 32) {start n : Nat} (h : n = x.toNat / 2 ^ start) :
    UInt8.ofNat n = ⟨x.extractLsb' start 8⟩ := by
  rw [h, ← Nat.shiftRight_eq_div_pow]
  rfl

theorem bytes_four (x : BitVec 32) : bytes 4 x.toNat =
    [⟨x.extractLsb' 0 8⟩, ⟨x.extractLsb' 8 8⟩, ⟨x.extractLsb' 16 8⟩, ⟨x.extractLsb' 24 8⟩] := by
  have h0 : x.toNat = x.toNat / 2 ^ 0 := by omega
  have h1 : x.toNat / 256 = x.toNat / 2 ^ 8 := by omega
  have h2 : x.toNat / 256 / 256 = x.toNat / 2 ^ 16 := by omega
  have h3 : x.toNat / 256 / 256 / 256 = x.toNat / 2 ^ 24 := by omega
  simp only [bytes]
  rw [byteAt x h0, byteAt x h1, byteAt x h2, byteAt x h3]

theorem extract_swapBytes (x : BitVec 32) {start : Nat}
    (h : start = 0 ∨ start = 8 ∨ start = 16 ∨ start = 24) :
    (swapBytes x).extractLsb' start 8 = x.extractLsb' (24 - start) 8 := by
  apply BitVec.eq_of_getLsbD_eq
  intro i hi
  simp only [swapBytes, BitVec.getLsbD_append, BitVec.getLsbD_extractLsb']
  grind

/-- The bytes of a number as they lie in memory, read the other way round. -/
theorem bytes_swapBytes (x : BitVec 32) :
    bytes 4 (swapBytes x).toNat = (bytes 4 x.toNat).reverse := by
  rw [bytes_four, bytes_four, extract_swapBytes x (by omega), extract_swapBytes x (by omega),
    extract_swapBytes x (by omega), extract_swapBytes x (by omega)]
  rfl

/-- `from_be_bytes` of the octets is the number of the address, whose lowest byte comes first in
memory. -/
theorem fromBeBytes_octets (x : BitVec 32) :
    bytes 4 (fromBeBytes (IpAddr.v4 x).octets) = (IpAddr.v4 x).octets.reverse := by
  have hvalue : fromBeBytes (IpAddr.v4 x).octets = x.toNat := by
    rw [fromBeBytes, IpAddr.octets, bigEndian, List.reverse_reverse]
    exact value_bytes_of_lt x.isLt
  rw [hvalue, IpAddr.octets, bigEndian, List.reverse_reverse]

theorem fromBeBytes_reverse (x : BitVec 32) :
    fromBeBytes (IpAddr.v4 x).octets.reverse = (swapBytes x).toNat := by
  rw [fromBeBytes, List.reverse_reverse, IpAddr.octets, bigEndian, ← bytes_swapBytes]
  exact value_bytes_of_lt (swapBytes x).isLt

theorem fromBeBytes_v6 (x : BitVec 128) : fromBeBytes (IpAddr.v6 x).octets = x.toNat := by
  rw [fromBeBytes, IpAddr.octets, bigEndian, List.reverse_reverse]
  exact value_bytes_of_lt x.isLt

@[simp]
theorem length_octets_v4 (x : BitVec 32) : (IpAddr.v4 x).octets.length = 4 := length_bigEndian 4 _

@[simp]
theorem length_octets_v6 (x : BitVec 128) : (IpAddr.v6 x).octets.length = 16 :=
  length_bigEndian 16 _

theorem take_drop_middle {front middle back : List UInt8} {n m : Nat} (hn : front.length = n)
    (hm : middle.length = m) : ((front ++ middle ++ back).drop n).take m = middle := by
  rw [List.append_assoc, List.drop_left' hn, List.take_left' hm]

namespace WindowsRoutes

section Fields
variable (net : Net 32) (net6 : Net 128)

theorem family_v4 : (destinationPrefix (.v4 net)).family = afInet := rfl

theorem family_v6 : (destinationPrefix (.v6 net6)).family = afInet6 := rfl

theorem sockaddr_v4 :
    ((destinationPrefix (.v4 net)).sockaddr.drop 4).take 4 = (IpAddr.v4 net.addr).octets.reverse :=
  (take_drop_middle (n := 4) (m := 4) rfl (by simp)).trans (fromBeBytes_octets net.addr)

theorem sockaddr_v6 :
    ((destinationPrefix (.v6 net6)).sockaddr.drop 8).take 16 = (IpAddr.v6 net6.addr).octets :=
  take_drop_middle rfl (by simp)

theorem addressBytes_v4 : (destinationPrefix (.v4 net)).addressBytes =
    (IpAddr.v4 net.addr).octets.reverse := by
  rw [AddressPrefix.addressBytes, if_pos (family_v4 net), sockaddr_v4]

theorem addressBytes_v6 : (destinationPrefix (.v6 net6)).addressBytes =
    (IpAddr.v6 net6.addr).octets := by
  rw [AddressPrefix.addressBytes, family_v6, if_neg (by decide), sockaddr_v6]

theorem seen_destination (net : IpNet) : (destinationPrefix net).seen = some (osDest net) := by
  cases net with
  | v4 net =>
      have hread : (sockaddrToRust (destinationPrefix (.v4 net)).sockaddr
          (destinationPrefix (.v4 net)).family).map SocketAddr.ip =
            some (.v4 (swapBytes net.addr)) := by
        rw [sockaddrToRust, if_pos (family_v4 net), sockaddr_v4, fromBeBytes_reverse]
        simp
      rw [AddressPrefix.seen, hread]
      exact dif_pos net.le_width
  | v6 net =>
      have hread : (sockaddrToRust (destinationPrefix (.v6 net)).sockaddr
          (destinationPrefix (.v6 net)).family).map SocketAddr.ip = some (.v6 net.addr) := by
        rw [sockaddrToRust, family_v6, if_neg (by decide), if_pos rfl, sockaddr_v6, fromBeBytes_v6]
        simp
      rw [AddressPrefix.seen, hread]
      exact dif_pos net.le_width

end Fields
end WindowsRoutes

/-! ## Three encoders -/

/-- Both networks hold the same addresses, and are of one length. -/
def IpNet.SamePrefix (net other : IpNet) : Prop :=
  net.prefixLen = other.prefixLen ∧ ∀ ip, net.contains ip = other.contains ip

def allowedBytes (mem : Nat → UInt8) (offset : Nat) (net : IpNet) : List UInt8 :=
  (ipnetToAllowedIp mem offset net).take (net.addr.width / 8)

/-- Windows reads the network from the row, whose address bytes are those of the driver. -/
structure ForwardRow.Denotes (mem : Nat → UInt8) (offset : Nat) (net : IpNet)
    (row : ForwardRow) : Prop where
  seen : ∃ other, row.destination.seen = some other ∧ other.SamePrefix net
  bytes : row.destination.addressBytes = allowedBytes mem offset net

/-- IPv6, or an IPv4 address whose four octets read the same backwards. -/
def IpNet.Mirrored : IpNet → Prop
  | .v4 net => (IpAddr.v4 net.addr).octets.reverse = (IpAddr.v4 net.addr).octets
  | .v6 _ => True

section Encoders
variable (mem : Nat → UInt8) (offset : Nat) (net : IpNet)

theorem allowedBytes_eq : allowedBytes mem offset net = net.addr.octets := by
  cases net with
  | v4 net =>
      have hlen : (bigEndian 4 net.addr.toNat).length = (IpNet.v4 net).addr.width / 8 := by
        simp [IpNet.addr, IpAddr.width]
      simp only [allowedBytes, ipnetToAllowedIp, allowedIpParts, allowedAddress, List.flatten_cons,
        List.append_assoc]
      exact List.take_left' hlen
  | v6 net =>
      have hlen : (bigEndian 16 net.addr.toNat).length = (IpNet.v6 net).addr.width / 8 := by
        simp [IpNet.addr, IpAddr.width]
      simp only [allowedBytes, ipnetToAllowedIp, allowedIpParts, allowedAddress, List.flatten_cons]
      exact List.take_left' hlen

theorem addressBytes_eq_iff :
    (WindowsRoutes.destinationPrefix net).addressBytes = net.addr.octets ↔ net.Mirrored := by
  cases net with
  | v4 net =>
      rw [WindowsRoutes.addressBytes_v4]
      exact Iff.rfl
  | v6 net =>
      rw [WindowsRoutes.addressBytes_v6]
      exact ⟨fun _ => trivial, fun _ => rfl⟩

theorem osDest_of_mirrored {net : IpNet} (h : net.Mirrored) : osDest net = net := by
  cases net with
  | v4 net =>
      have hbytes : bigEndian 4 (swapBytes net.addr).toNat = bigEndian 4 net.addr.toNat := by
        rw [bigEndian, bytes_swapBytes]
        exact h
      have haddr : swapBytes net.addr = net.addr := addr_inj (w := 4) hbytes
      rw [osDest, haddr]
  | v6 net => rfl

theorem destination_denotes_iff {row : ForwardRow}
    (hrow : row.destination = WindowsRoutes.destinationPrefix net) :
    row.Denotes mem offset net ↔ net.Mirrored := by
  rw [← addressBytes_eq_iff]
  constructor
  · intro h
    rw [← hrow, h.bytes, allowedBytes_eq]
  · intro h
    have hmirrored := (addressBytes_eq_iff net).mp h
    refine ⟨⟨net, ?_, rfl, fun _ => rfl⟩, ?_⟩
    · rw [hrow, WindowsRoutes.seen_destination, osDest_of_mirrored hmirrored]
    · rw [hrow, h, allowedBytes_eq]

/-- The rows of both functions stand for the network, with the bytes that the driver is given,
exactly when its octets are mirrored. -/
theorem rows_denote_iff (ifIndex metric : Nat) :
    (WindowsRoutes.addRoute net ifIndex metric).Denotes mem offset net ∧
      (WindowsRoutes.deleteRoute net).Denotes mem offset net ↔ net.Mirrored := by
  rw [destination_denotes_iff mem offset net rfl, destination_denotes_iff mem offset net rfl,
    and_self]

end Encoders

/-- Both rows of 10.0.0.0/8 stand for 0.0.0.10/8. -/
theorem ten_not_denoted :
    ¬((WindowsRoutes.addRoute (.v4 ⟨0x0a000000#32, 8, by decide⟩) 7 5).Denotes (fun _ => 0) 0
        (.v4 ⟨0x0a000000#32, 8, by decide⟩) ∧
      (WindowsRoutes.deleteRoute (.v4 ⟨0x0a000000#32, 8, by decide⟩)).Denotes (fun _ => 0) 0
        (.v4 ⟨0x0a000000#32, 8, by decide⟩)) ∧
    (WindowsRoutes.addRoute (.v4 ⟨0x0a000000#32, 8, by decide⟩) 7 5).destination.seen =
      some (.v4 ⟨0x0000000a#32, 8, by decide⟩) := by
  refine ⟨fun ⟨h, _⟩ => absurd h.bytes (by decide), ?_⟩
  decide

end RouteGuard
