import RouteGuard.Core.Net
import Mathlib.Data.List.DropRight

/-! # Text operations

The `str` methods the routing crate calls, on the characters of a string, and
the text form of addresses.  Unicode lower case (`str::to_lowercase`) and the
text form of networks (the `ipnet` crate) are `Externals`. -/
set_option autoImplicit false
namespace RouteGuard

structure Externals where
  /-- `str::to_lowercase` -/
  toLowercase : String → String
  /-- `<IpNet as FromStr>::from_str`, with the text of its error -/
  parseNet : String → Except String IpNet
  /-- `<IpNet as Display>` -/
  netToString : IpNet → String

section Str

def toAsciiLowercase (s : String) : String := String.ofList (s.toList.map Char.toLower)

def trimEndMatches (c : Char) (s : String) : String :=
  String.ofList (s.toList.rdropWhile fun d => d == c)

def startsWith (s start : String) : Bool := start.toList.isPrefixOf s.toList

def endsWith (s tail : String) : Bool := tail.toList.isSuffixOf s.toList

def dropFirst (s : String) : String := String.ofList (s.toList.drop 1)

end Str

/-! ## Case -/

section Case

theorem toLower_eq_or (c : Char) :
    c.toLower = c ∨ (65 ≤ c.toNat ∧ c.toNat ≤ 90 ∧ c.toLower.toNat = c.toNat + 32) := by
  unfold Char.toLower
  split
  · next h =>
      have hlow : 65 ≤ c.toNat := h.1
      have hhigh : c.toNat ≤ 90 := h.2
      refine Or.inr ⟨hlow, hhigh, ?_⟩
      show (c.val + 32).toNat = c.val.toNat + 32
      have hval : c.val.toNat ≤ 90 := hhigh
      rw [UInt32.toNat_add]
      exact Nat.mod_eq_of_lt (Nat.lt_of_le_of_lt (Nat.add_le_add_right hval 32) (by decide))
  · exact Or.inl rfl

theorem toLower_eq_iff {d : Char} (hd : d.toNat < 65 ∨ 90 < d.toNat ∧ d.toNat < 97) (c : Char) :
    c.toLower = d ↔ c = d := by
  rcases toLower_eq_or c with h | ⟨hlow, hhigh, h⟩
  · rw [h]
  · constructor
    · intro heq
      rw [heq] at h
      omega
    · intro heq
      rw [heq] at hlow hhigh
      omega

theorem toLower_toLower (c : Char) : c.toLower.toLower = c.toLower := by
  rcases toLower_eq_or c with h | ⟨hlow, hhigh, h⟩
  · rw [h, h]
  · rcases toLower_eq_or c.toLower with h' | ⟨hlow', hhigh', h'⟩
    · exact h'
    · omega

end Case

/-! ## Addresses as text -/

def octets (bits : BitVec 32) : List Nat :=
  (List.range 4).map fun i => bits.toNat / 256 ^ (3 - i) % 256

def segments (bits : BitVec 128) : List Nat :=
  (List.range 8).map fun i => bits.toNat / 65536 ^ (7 - i) % 65536

def dottedQuad (bytes : List Nat) : List Char :=
  ['.'].intercalate (bytes.map (Nat.toDigits 10))

def hexGroups (groups : List Nat) : List Char :=
  [':'].intercalate (groups.map (Nat.toDigits 16))

structure ZeroSpan where
  start : Nat
  len : Nat
deriving DecidableEq, Repr

/-- The first longest run of zero segments, scanning from index `i`. -/
def longestZeroSpan : Nat → List Nat → ZeroSpan → ZeroSpan → ZeroSpan
  | _, [], _, longest => longest
  | i, segment :: rest, current, longest =>
      if segment = 0 then
        let current' : ZeroSpan :=
          ⟨if current.len = 0 then i else current.start, current.len + 1⟩
        longestZeroSpan (i + 1) rest current'
          (if longest.len < current'.len then current' else longest)
      else longestZeroSpan (i + 1) rest ⟨0, 0⟩ longest

/-- `<Ipv6Addr as Display>`: an IPv4-mapped address shows its last 32 bits as a dotted quad,
any other has its longest run of two or more zero segments replaced by `::`. -/
def ipv6Chars (groups : List Nat) : List Char :=
  if groups.take 6 = [0, 0, 0, 0, 0, 65535] then
    "::ffff:".toList ++ dottedQuad ((groups.drop 6).flatMap fun group => [group / 256, group % 256])
  else
    let zeroes := longestZeroSpan 0 groups ⟨0, 0⟩ ⟨0, 0⟩
    if 1 < zeroes.len then
      hexGroups (groups.take zeroes.start) ++ "::".toList ++
        hexGroups (groups.drop (zeroes.start + zeroes.len))
    else hexGroups groups

def IpAddr.toChars : IpAddr → List Char
  | .v4 bits => dottedQuad (octets bits)
  | .v6 bits => ipv6Chars (segments bits)

def IpAddr.toString (ip : IpAddr) : String := String.ofList ip.toChars

def SocketAddr.toString (endpoint : SocketAddr) : String :=
  match endpoint.ip with
  | .v4 _ => endpoint.ip.toString ++ ":" ++ ToString.toString endpoint.port
  | .v6 _ => "[" ++ endpoint.ip.toString ++ "]:" ++ ToString.toString endpoint.port

instance : ToString SocketAddr := ⟨SocketAddr.toString⟩

def ipToHostCidr (ip : IpAddr) : String :=
  match ip with
  | .v4 _ => ip.toString ++ "/32"
  | .v6 _ => ip.toString ++ "/128"

/-! ## Networks as text -/

/-- One octet of `Ipv4Addr::from_str`: one to three digits without a leading zero. -/
def parseOctet (digits : List Char) : Option Nat :=
  if digits ≠ [] ∧ digits.length ≤ 3 ∧ digits.all Char.isDigit ∧
      (digits.head? = some '0' → digits.length = 1) then
    let value := digits.foldl (fun n c => 10 * n + (c.toNat - '0'.toNat)) 0
    if value < 256 then some value else none
  else none

def parseIpv4Net (s : String) : Except String IpNet :=
  match s.toList.splitOn '/' with
  | [addr, len] =>
      match (addr.splitOn '.').map parseOctet, parseOctet len with
      | [some a, some b, some c, some d], some n =>
          if h : n ≤ 32 then
            .ok (.v4 ⟨BitVec.ofNat 8 a ++ BitVec.ofNat 8 b ++
              BitVec.ofNat 8 c ++ BitVec.ofNat 8 d, n, h⟩)
          else .error "invalid IP address syntax"
      | _, _ => .error "invalid IP address syntax"
  | _ => .error "invalid IP address syntax"

def Externals.asciiIpv4 : Externals where
  toLowercase := toAsciiLowercase
  parseNet := parseIpv4Net
  netToString net := net.addr.toString ++ "/" ++ ToString.toString net.prefixLen

example : Externals.asciiIpv4.parseNet "10.1.2.3/8" =
    .ok (.v4 ⟨BitVec.ofNat 32 0x0a010203, 8, by decide⟩) := by decide

/-- What `ipnet` documents of the text form of a network: an address and a prefix length
separated by a slash, and reading what was written gives the network back. -/
structure Externals.RoundTrips (env : Externals) (net : IpNet) : Prop where
  text : env.netToString net = net.addr.toString ++ "/" ++ ToString.toString net.prefixLen
  parse : env.parseNet (env.netToString net) = .ok net

theorem ipToHostCidr_eq (ip : IpAddr) : ipToHostCidr ip =
    (IpNet.host ip).addr.toString ++ "/" ++ ToString.toString (IpNet.host ip).prefixLen := by
  rw [String.append_assoc]
  cases ip with
  | v4 bits =>
      have hlen : "/32" = "/" ++ ToString.toString 32 := by decide
      exact congrArg (IpAddr.toString (.v4 bits) ++ ·) hlen
  | v6 bits =>
      have hlen : "/128" = "/" ++ ToString.toString 128 := by decide
      exact congrArg (IpAddr.toString (.v6 bits) ++ ·) hlen

theorem Externals.RoundTrips.parse_host {env : Externals} {ip : IpAddr}
    (h : env.RoundTrips (IpNet.host ip)) :
    env.parseNet (ipToHostCidr ip) = .ok (IpNet.host ip) := by
  rw [ipToHostCidr_eq, ← h.text]
  exact h.parse

end RouteGuard
