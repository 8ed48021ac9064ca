import Mathlib.Data.List.Basic

/-! # The LWO wire format

`wire.rs`: the header of a WireGuard packet is combined with a key, byte by
byte, and the second byte is marked.  A packet is the list of its bytes; what
`rng.next_u32()` returns is an argument. -/
set_option autoImplicit false
namespace RouteGuard.Lwo

def obfuscationBit : UInt8 := 0b10000000

def headerSize (messageType : UInt8) : Option Nat :=
  if messageType = 1 then some 148
  else if messageType = 2 then some 92
  else if messageType = 3 then some 64
  else if messageType = 4 then some 32
  else none

/-- `header_mut`: the length of the header, `none` for other types and shorter packets. -/
def headerMut (packet : List UInt8) (keyByte : UInt8) : Option Nat :=
  match packet with
  | [] => none
  | headerType :: _ =>
      match headerSize (headerType ^^^ keyByte) with
      | none => none
      | some size => if size ≤ packet.length then some size else none

def xorBytes (data : List UInt8) (key : Vector UInt8 32) : List UInt8 :=
  data.mapIdx fun i byte => byte ^^^ key[i % 32]

def obfuscate (random : UInt32) (packet : List UInt8) (key : Vector UInt8 32) : List UInt8 :=
  match headerMut packet 0 with
  | none => packet
  | some size =>
      let randByte := (random % 255).toUInt8
      (xorBytes (packet.take size) key).set 1 (randByte ||| obfuscationBit) ++ packet.drop size

def deobfuscate (packet : List UInt8) (key : Vector UInt8 32) : List UInt8 :=
  match headerMut packet key[0] with
  | none => packet
  | some size => (xorBytes (packet.take size) key).set 1 0 ++ packet.drop size

/-! ## There and back -/

/-- A packet of a known type, with its whole header; the byte behind the type is zero. -/
structure Message where
  messageType : UInt8
  body : List UInt8
  size : Nat
  known : headerSize messageType = some size
  complete : size ≤ body.length + 2

namespace Message

def bytes (message : Message) : List UInt8 := message.messageType :: 0 :: message.body

variable (message : Message) (random : UInt32) (key : Vector UInt8 32)

def header : List UInt8 := message.bytes.take message.size

end Message

end RouteGuard.Lwo
