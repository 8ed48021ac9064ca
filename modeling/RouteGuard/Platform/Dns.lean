import RouteGuard.Core.AddrParse
import RouteGuard.Core.ScopedAddr
import RouteGuard.Lib.ByteAccess

/-! # The DNS proxy

`dns.rs`: a query of a local client is forwarded, and the addresses in the reply
go to the callback.  Every index into a packet and every sum of offsets is
checked as the source's are. -/
set_option autoImplicit false
namespace RouteGuard

open ByteAccess

/-! ## The text of a label -/

def replacementChar : Char := Char.ofNat 0xFFFD

/-- `utf8_char_width`: zero for a byte that begins no character. -/
def utf8CharWidth (b : UInt8) : Nat :=
  if b < 0x80 then 1
  else if b < 0xC2 then 0
  else if b < 0xE0 then 2
  else if b < 0xF0 then 3
  else if b < 0xF5 then 4
  else 0

def isContinuation (b : UInt8) : Bool := b &&& 0xC0 == 0x80

def isSecondByte (b0 b1 : UInt8) : Bool :=
  if b0 = 0xE0 then 0xA0 ≤ b1 && b1 ≤ 0xBF
  else if b0 = 0xED then 0x80 ≤ b1 && b1 ≤ 0x9F
  else if b0 = 0xF0 then 0x90 ≤ b1 && b1 ≤ 0xBF
  else if b0 = 0xF4 then 0x80 ≤ b1 && b1 ≤ 0x8F
  else isContinuation b1

/-- The number that the lower bits of the bytes spell. -/
def codePoint (first : Nat) (continuations : List UInt8) : Nat :=
  continuations.foldl (fun n b => n * 64 + b.toNat % 64) first

/-- The next character, with the number of bytes behind the first that belong to it. -/
def nextLossy (b0 : UInt8) (rest : List UInt8) : Char × Nat :=
  -- `safe_get`: behind the end stands a zero, which continues nothing
  let b1 := rest.getD 0 0
  let b2 := rest.getD 1 0
  let b3 := rest.getD 2 0
  match utf8CharWidth b0 with
  | 1 => (Char.ofNat b0.toNat, 0)
  | 2 =>
      if isContinuation b1 then (Char.ofNat (codePoint (b0.toNat % 32) [b1]), 1)
      else (replacementChar, 0)
  | 3 =>
      if !isSecondByte b0 b1 then (replacementChar, 0)
      else if !isContinuation b2 then (replacementChar, 1)
      else (Char.ofNat (codePoint (b0.toNat % 16) [b1, b2]), 2)
  | 4 =>
      if !isSecondByte b0 b1 then (replacementChar, 0)
      else if !isContinuation b2 then (replacementChar, 1)
      else if !isContinuation b3 then (replacementChar, 2)
      else (Char.ofNat (codePoint (b0.toNat % 8) [b1, b2, b3]), 3)
  | _ => (replacementChar, 0)

def lossyChars : Nat → List UInt8 → List Char
  | _, [] => []
  | skip + 1, _ :: rest => lossyChars skip rest
  | 0, b0 :: rest => (nextLossy b0 rest).1 :: lossyChars (nextLossy b0 rest).2 rest

def fromUtf8Lossy (bytes : List UInt8) : String := String.ofList (lossyChars 0 bytes)

example : fromUtf8Lossy [0x61, 0xE2, 0x82, 0xAC, 0xE2, 0x82, 0xFF, 0x62] =
    String.ofList ['a', '€', replacementChar, replacementChar, 'b'] := by
  decide

/-! ## Names -/

/-- The loop of `parse_qname`; a label that leaves the message ends it without a name. -/
def qnameLabels (msg : Bytes) (off : Nat) (labels : List String) :
    Run (Option (List String)) :=
  if off < msg.length then
    match msg.byteAt off with
    | .error fault => .error fault
    | .ok len =>
        if len = 0 then .ok (some labels)
        else if len &&& 0xC0 = 0xC0 then .ok (some labels)
        else
          match _hstart : addOffset off 1 with
          | .error fault => .error fault
          | .ok start =>
              match _hstop : addOffset start len.toNat with
              | .error fault => .error fault
              | .ok stop =>
                  if msg.length < stop then .ok none
                  else
                    match msg.slice start stop with
                    | .error fault => .error fault
                    | .ok label => qnameLabels msg stop (labels ++ [fromUtf8Lossy label])
  else .ok (some labels)
termination_by msg.length - off
decreasing_by
  have hstart := addOffset_eq_ok _hstart
  have hstop := addOffset_eq_ok _hstop
  omega

def parseQname (msg : Bytes) (off : Nat) : Run (Option String) :=
  (qnameLabels msg off []).map fun read =>
    match read with
    | none => none
    | some labels => if labels.isEmpty then none else some (".".intercalate labels)

/-- The offset behind the name, and whether a pointer ends it. -/
def skipQname (msg : Bytes) (off : Nat) : Run (Option (Nat × Bool)) :=
  if off < msg.length then
    match msg.byteAt off with
    | .error fault => .error fault
    | .ok len =>
        if len = 0 then (addOffset off 1).map fun off => some (off, false)
        else if len &&& 0xC0 = 0xC0 then (addOffset off 2).map fun off => some (off, true)
        else
          match _hnext : addOffset off (1 + len.toNat) with
          | .error fault => .error fault
          | .ok next => skipQname msg next
  else .ok none
termination_by msg.length - off
decreasing_by
  have hnext := addOffset_eq_ok _hnext
  omega

/-! ## Answers -/

structure DnsParsedEvent where
  domain : String
  records : List (IpAddr × UInt32)
deriving DecidableEq, Repr

/-- `parse_cname_chain`: the chain is not followed. -/
def parseCnameChain (_response : Bytes) (_target : String) (_minTtl _maxTtl : UInt32)
    (_depth : Nat) : Option (List (IpAddr × UInt32)) :=
  none

section Response
variable (response : Bytes) (minTtl maxTtl : UInt32)

/-- What one resource record adds, from its type and data. -/
def answerRecords (rtype : UInt16) (ttl : UInt32) (off rdlen : Nat) :
    Run (List (IpAddr × UInt32)) :=
  if rtype = 1 ∧ rdlen = 4 then do
    let b0 ← response.byteAt off
    let b1 ← response.byteAt (← addOffset off 1)
    let b2 ← response.byteAt (← addOffset off 2)
    let b3 ← response.byteAt (← addOffset off 3)
    .ok [(ipv4OfOctets [b0.toNat, b1.toNat, b2.toNat, b3.toNat], ttl)]
  else if rtype = 28 ∧ rdlen = 16 then do
    let octets ← response.slice off (← addOffset off 16)
    .ok [(.v6 (BitVec.ofNat 128 (fromDigits 256 (octets.map UInt8.toNat))), ttl)]
  else if rtype = 5 ∧ 0 < rdlen then do
    match ← parseQname response off with
    | none => .ok []
    | some cname => .ok ((parseCnameChain response cname minTtl maxTtl 5).getD [])
  else .ok []

/-- One turn of the loop over the answers; `none` leaves it. -/
def answerStep (off : Nat) : Run (Option (List (IpAddr × UInt32) × Nat)) := do
  let off := ((← skipQname response off).map Prod.fst).getD off
  if response.length < (← addOffset off 10) then .ok none
  else
    let rtype := be16 (← response.byteAt off) (← response.byteAt (← addOffset off 1))
    let ttl := be32 (← response.byteAt (← addOffset off 4)) (← response.byteAt (← addOffset off 5))
      (← response.byteAt (← addOffset off 6)) (← response.byteAt (← addOffset off 7))
    let ttl := min (max ttl minTtl) maxTtl
    let rdlen := (be16 (← response.byteAt (← addOffset off 8))
      (← response.byteAt (← addOffset off 9))).toNat
    let off ← addOffset off 10
    if response.length < (← addOffset off rdlen) then .ok none
    else
      let records ← answerRecords response minTtl maxTtl rtype ttl off rdlen
      .ok (some (records, ← addOffset off rdlen))

def answers : Nat → Nat → List (IpAddr × UInt32) → Run (List (IpAddr × UInt32))
  | 0, _, records => .ok records
  | count + 1, off, records => do
      match ← answerStep response minTtl maxTtl off with
      | none => .ok records
      | some (added, next) => answers count next (records ++ added)

def parseDnsResponse (query : Bytes) : Run (Option DnsParsedEvent) :=
  if query.length < 12 ∨ response.length < 12 then .ok none
  else do
    let qdCount := be16 (← query.byteAt 4) (← query.byteAt 5)
    if qdCount = 0 then .ok none
    else
      match ← parseQname query 12 with
      | none => .ok none
      | some domain =>
          match ← skipQname query 12 with
          | none => .ok none
          | some (off, _) =>
              let off ← addOffset off 4
              if response.length < (← addOffset off 10) then .ok none
              else
                let ansCount := be16 (← response.byteAt 6) (← response.byteAt 7)
                let records ← answers response minTtl maxTtl ansCount.toNat off []
                if records.isEmpty then .ok none else .ok (some ⟨domain, records⟩)

end Response

/-! ## The socket -/

def receiveBuffer : Nat := 512

structure Received where
  source : ScopedSocketAddr
  payload : Bytes
  length_le : payload.length ≤ receiveBuffer
deriving DecidableEq, Repr

def isLoopbackPeer : ScopedSocketAddr → Bool
  | .v4 bits _ => bits.toNat / 2 ^ 24 == 127
  | .v6 bits _ _ => bits == 1

/-- The first upstream of the configuration, else `1.1.1.1:53`. -/
def upstreamAddr (upstream : List ScopedSocketAddr) : ScopedSocketAddr :=
  upstream.head?.getD (.v4 0x01010101 53)

/-- `forward_dns` on the datagram that arrives in time, if any: its source is dropped. -/
def forwardDns (reply : Option Received) : Option Bytes := reply.map Received.payload

inductive ProxyEffect where
  | forward (query : Bytes) (upstream : ScopedSocketAddr)
  | sendTo (response : Bytes) (peer : ScopedSocketAddr)
  | onResponse (domain : String) (records : List (IpAddr × UInt32))
deriving DecidableEq, Repr

/-- One turn of `run_dns_socket` with the task it spawns. -/
def answerQuery (upstream : List ScopedSocketAddr) (minTtl maxTtl : UInt32) (query : Received)
    (reply : Option Received) : Run (List ProxyEffect) :=
  if !isLoopbackPeer query.source then .ok []
  else
    let forwarded := ProxyEffect.forward query.payload (upstreamAddr upstream)
    match forwardDns reply with
    | none => .ok [forwarded]
    | some response => do
        match ← parseDnsResponse response minTtl maxTtl query.payload with
        | none => .ok [forwarded, .sendTo response query.source]
        | some event =>
            .ok [forwarded, .sendTo response query.source, .onResponse event.domain event.records]

end RouteGuard
