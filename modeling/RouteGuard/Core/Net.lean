import Mathlib.Algebra.Group.Nat.Defs
import Mathlib.Data.Nat.Bits

/-! # Addresses and networks

`std::net::IpAddr`, `std::net::SocketAddr` and the networks of the `ipnet` crate.
The text form of a network is `ipnet`'s own; it enters as a parameter. -/
set_option autoImplicit false
namespace RouteGuard

inductive IpAddr where
  | v4 (bits : BitVec 32)
  | v6 (bits : BitVec 128)
deriving DecidableEq, Repr

def ipv4 (a b c d : Nat) : IpAddr :=
  .v4 (BitVec.ofNat 8 a ++ BitVec.ofNat 8 b ++ BitVec.ofNat 8 c ++ BitVec.ofNat 8 d)

structure SocketAddr where
  ip : IpAddr
  port : UInt16
deriving DecidableEq, Repr

/-- A network of `width`-bit addresses; host bits of `addr` may be set, as in `10.1.2.3/8`. -/
structure Net (width : Nat) where
  addr : BitVec width
  prefixLen : Nat
  le_width : prefixLen ≤ width
deriving DecidableEq, Repr

-- the lengths of the example networks
theorem Net.zero_le : 0 ≤ 32 := by decide

theorem Net.eight_le : 8 ≤ 32 := by decide

theorem Net.sixteen_le : 16 ≤ 32 := by decide

def Net.contains {width : Nat} (net : Net width) (addr : BitVec width) : Bool :=
  net.addr.toNat / 2 ^ (width - net.prefixLen) == addr.toNat / 2 ^ (width - net.prefixLen)

inductive IpNet where
  | v4 (net : Net 32)
  | v6 (net : Net 128)
deriving DecidableEq, Repr

def IpNet.contains : IpNet → IpAddr → Bool
  | .v4 net, .v4 addr => net.contains addr
  | .v6 net, .v6 addr => net.contains addr
  | _, _ => false

def IpNet.prefixLen : IpNet → Nat
  | .v4 net => net.prefixLen
  | .v6 net => net.prefixLen

def IpNet.addr : IpNet → IpAddr
  | .v4 net => .v4 net.addr
  | .v6 net => .v6 net.addr

def IpNet.host : IpAddr → IpNet
  | .v4 addr => .v4 ⟨addr, 32, Nat.le_refl 32⟩
  | .v6 addr => .v6 ⟨addr, 128, Nat.le_refl 128⟩

def IpAddr.width : IpAddr → Nat
  | .v4 _ => 32
  | .v6 _ => 128

theorem Net.contains_host {width : Nat} (addr other : BitVec width) :
    Net.contains ⟨addr, width, Nat.le_refl width⟩ other = true ↔ addr = other := by
  simp [Net.contains, BitVec.toNat_inj]

theorem Net.contains_all {width : Nat} (net : Net width) (other : BitVec width)
    (hlen : net.prefixLen = 0) : net.contains other = true := by
  simp [Net.contains, hlen, Nat.div_eq_of_lt net.addr.isLt, Nat.div_eq_of_lt other.isLt]

theorem Net.contains_full {width : Nat} (net : Net width) (other : BitVec width)
    (hlen : net.prefixLen = width) : net.contains other = true ↔ net.addr = other := by
  simp [Net.contains, hlen, BitVec.toNat_inj]

@[simp]
theorem IpNet.contains_host (ip other : IpAddr) :
    (IpNet.host ip).contains other = true ↔ ip = other := by
  cases ip <;> cases other <;>
    simp [IpNet.host, IpNet.contains, Net.contains_host]

@[simp]
theorem IpNet.prefixLen_host (ip : IpAddr) : (IpNet.host ip).prefixLen = ip.width := by
  cases ip <;> rfl

theorem IpNet.width_of_contains {net : IpNet} {ip : IpAddr} (h : net.contains ip = true) :
    net.addr.width = ip.width := by
  cases net <;> cases ip <;> simp_all [IpNet.contains, IpNet.addr, IpAddr.width]

theorem IpNet.prefixLen_le {net : IpNet} {ip : IpAddr} (h : net.contains ip = true) :
    net.prefixLen ≤ ip.width := by
  cases net with
  | v4 net => cases ip with
    | v4 addr => exact net.le_width
    | v6 addr => simp [IpNet.contains] at h
  | v6 net => cases ip with
    | v4 addr => simp [IpNet.contains] at h
    | v6 addr => exact net.le_width

theorem IpNet.contains_full {net : IpNet} {ip : IpAddr} (hlen : net.prefixLen = ip.width) :
    net.contains ip = true ↔ net.addr = ip := by
  cases net with
  | v4 net => cases ip with
    | v4 addr => simpa [IpNet.contains, IpNet.addr] using net.contains_full addr hlen
    | v6 addr => simp [IpNet.contains, IpNet.addr]
  | v6 net => cases ip with
    | v4 addr => simp [IpNet.contains, IpNet.addr]
    | v6 addr => simpa [IpNet.contains, IpNet.addr] using net.contains_full addr hlen

theorem IpNet.host_inj {ip other : IpAddr} : IpNet.host ip = IpNet.host other ↔ ip = other := by
  constructor
  · intro h
    rw [← IpNet.contains_host, h, IpNet.contains_host]
  · intro hcase
    subst hcase
    rfl

theorem IpNet.eq_host_iff (net : IpNet) (ip : IpAddr) :
    net = IpNet.host ip ↔ net.prefixLen = ip.width ∧ net.addr = ip := by
  constructor
  · intro h
    subst h
    cases ip <;> exact ⟨rfl, rfl⟩
  · intro h
    obtain ⟨hlen, rfl⟩ := h
    cases net with
    | v4 net =>
        obtain ⟨addr, prefixLen, hle⟩ := net
        have hfull : prefixLen = 32 := hlen
        subst hfull
        rfl
    | v6 net =>
        obtain ⟨addr, prefixLen, hle⟩ := net
        have hfull : prefixLen = 128 := hlen
        subst hfull
        rfl

end RouteGuard
