import RouteGuard.Core.Text
import Mathlib.Data.Nat.Digits.Defs

/-! # Reading addresses

`<IpAddr as FromStr>` and `<SocketAddr as FromStr>`, as `core::net::parser`
reads them: a reader takes what it accepts off the front of the text and leaves
the text alone where it fails. -/
set_option autoImplicit false
namespace RouteGuard

/-! ## Numbers -/

def toDigit (radix : Nat) (c : Char) : Option Nat :=
  let value :=
    if '0' ≤ c ∧ c ≤ '9' then c.toNat - '0'.toNat
    else if 'a' ≤ c ∧ c ≤ 'z' then c.toNat - 'a'.toNat + 10
    else if 'A' ≤ c ∧ c ≤ 'Z' then c.toNat - 'A'.toNat + 10
    else radix
  if value < radix then some value else none

def isDigitOf (radix : Nat) (c : Char) : Bool := (toDigit radix c).isSome

def digitsValue (radix : Nat) (digits : List Char) : Nat :=
  digits.foldl (fun n c => n * radix + (toDigit radix c).getD 0) 0

/-- `read_number`, for a type of the values below `bound`. -/
def readNumber (radix : Nat) (maxDigits : Option Nat) (allowZeroPrefix : Bool) (bound : Nat)
    (input : List Char) : Option (Nat × List Char) :=
  let digits := input.takeWhile (isDigitOf radix)
  if digits = [] then none
  else if maxDigits.any fun most => decide (most < digits.length) then none
  else if !allowZeroPrefix && decide (digits.head? = some '0') && decide (1 < digits.length) then
    none
  else if digitsValue radix digits < bound then
    some (digitsValue radix digits, input.dropWhile (isDigitOf radix))
  else none

def readGivenChar (target : Char) : List Char → Option (List Char)
  | [] => none
  | c :: rest => if c = target then some rest else none

/-- `read_separator`: nothing before the first item. -/
def readSeparator {A : Type} (separator : Char) (index : Nat)
    (inner : List Char → Option (A × List Char)) (input : List Char) : Option (A × List Char) :=
  if 0 < index then (readGivenChar separator input).bind inner else inner input

/-! ## Addresses -/

def readOctet (input : List Char) : Option (Nat × List Char) :=
  readNumber 10 (some 3) false 256 input

/-- `read_ipv4_addr`, as its octets. -/
def readIpv4 (input : List Char) : Option (List Nat × List Char) := do
  let (a, input) ← readSeparator '.' 0 readOctet input
  let (b, input) ← readSeparator '.' 1 readOctet input
  let (c, input) ← readSeparator '.' 2 readOctet input
  let (d, input) ← readSeparator '.' 3 readOctet input
  pure ([a, b, c, d], input)

def readGroup (input : List Char) : Option (Nat × List Char) :=
  readNumber 16 (some 4) true 65536 input

def embeddedGroups (octets : List Nat) : List Nat :=
  [octets.getD 0 0 * 256 + octets.getD 1 0, octets.getD 2 0 * 256 + octets.getD 3 0]

/-- `read_groups` from group `index` on, with room for `room` more groups: the groups read, whether
an IPv4 address ends them, and the rest. -/
def readGroups : Nat → Nat → List Char → List Nat × Bool × List Char
  | 0, _, input => ([], false, input)
  | room + 1, index, input =>
      -- an embedded IPv4 address needs room for two groups
      match if 0 < room then readSeparator ':' index readIpv4 input else none with
      | some (octets, rest) => (embeddedGroups octets, true, rest)
      | none =>
          match readSeparator ':' index readGroup input with
          | none => ([], false, input)
          | some (group, rest) =>
              let (groups, ipv4, rest) := readGroups room (index + 1) rest
              (group :: groups, ipv4, rest)

def readIpv6 (input : List Char) : Option (List Nat × List Char) :=
  match readGroups 8 0 input with
  | (head, ipv4, rest) =>
      if head.length = 8 then some (head, rest)
      else if ipv4 then none
      else do
        let rest ← readGivenChar ':' rest
        let rest ← readGivenChar ':' rest
        let (tail, _, rest) := readGroups (8 - (head.length + 1)) 0 rest
        pure (head ++ List.replicate (8 - head.length - tail.length) 0 ++ tail, rest)

def fromDigits (base : Nat) (digits : List Nat) : Nat := digits.foldl (fun n d => n * base + d) 0

def ipv4OfOctets (octets : List Nat) : IpAddr := .v4 (BitVec.ofNat 32 (fromDigits 256 octets))

def ipv6OfGroups (groups : List Nat) : IpAddr := .v6 (BitVec.ofNat 128 (fromDigits 65536 groups))

def readIp (input : List Char) : Option (IpAddr × List Char) :=
  match readIpv4 input with
  | some (octets, rest) => some (ipv4OfOctets octets, rest)
  | none => (readIpv6 input).map fun (groups, rest) => (ipv6OfGroups groups, rest)

def IpAddr.parse (s : String) : Option IpAddr :=
  match readIp s.toList with
  | some (ip, []) => some ip
  | _ => none

/-! ## Socket addresses -/

def readPort (input : List Char) : Option (UInt16 × List Char) := do
  let rest ← readGivenChar ':' input
  let (port, rest) ← readNumber 10 none true 65536 rest
  pure (UInt16.ofNat port, rest)

/-- `std::net::SocketAddr`; an IPv4 address has no scope. -/
inductive ScopedSocketAddr where
  | v4 (bits : BitVec 32) (port : UInt16)
  | v6 (bits : BitVec 128) (port : UInt16) (scopeId : UInt32)
deriving DecidableEq, Repr

namespace ScopedSocketAddr

def unscoped : ScopedSocketAddr → SocketAddr
  | .v4 bits port => ⟨.v4 bits, port⟩
  | .v6 bits port _ => ⟨.v6 bits, port⟩

/-- `read_scope_id`, which leaves the text alone where there is none. -/
def readScopeId (input : List Char) : UInt32 × List Char :=
  match (readGivenChar '%' input).bind (readNumber 10 none true (2 ^ 32)) with
  | some (scopeId, rest) => (UInt32.ofNat scopeId, rest)
  | none => (0, input)

def readV4 (input : List Char) : Option (ScopedSocketAddr × List Char) := do
  let (octets, rest) ← readIpv4 input
  let (port, rest) ← readPort rest
  pure (.v4 (BitVec.ofNat 32 (fromDigits 256 octets)) port, rest)

def readV6 (input : List Char) : Option (ScopedSocketAddr × List Char) := do
  let rest ← readGivenChar '[' input
  let (groups, rest) ← readIpv6 rest
  let (scopeId, rest) := readScopeId rest
  let rest ← readGivenChar ']' rest
  let (port, rest) ← readPort rest
  pure (.v6 (BitVec.ofNat 128 (fromDigits 65536 groups)) port scopeId, rest)

/-- `<SocketAddr as FromStr>`. -/
def parse (s : String) : Option ScopedSocketAddr :=
  match (readV4 s.toList).or (readV6 s.toList) with
  | some (endpoint, []) => some endpoint
  | _ => none

example : parse "[fe80::1%3]:51820" = some (.v6 0xfe800000000000000000000000000001 51820 3) := by
  decide

end ScopedSocketAddr

/-- `<SocketAddr as FromStr>`, for callers that look at address and port alone. -/
def SocketAddr.parse (s : String) : Option SocketAddr :=
  (ScopedSocketAddr.parse s).map ScopedSocketAddr.unscoped

example : SocketAddr.parse "[2606:4700:4700::1111]:53" =
    some ⟨.v6 0x26064700470000000000000000001111, 53⟩ := by decide

example : IpAddr.parse "256.0.0.1" = none := by decide

end RouteGuard
