import RouteGuard.Lib.LittleEndian
import RouteGuard.Platform.WgConf

/-! # The configuration buffer of the driver

`serialize_interface` of `wgnt/config.rs`, with the `#[repr(C)]` layouts of
`wgnt/bindings.rs` on a little-endian machine.  A byte that the code never
writes (the rest of a union, the tail of a record) holds what `mem` has at its
offset in the buffer. -/
set_option autoImplicit false
namespace RouteGuard

open LittleEndian

/-! ## Records -/

def bigEndian (w n : Nat) : List UInt8 := (bytes w n).reverse

def unwritten (mem : Nat → UInt8) (offset w : Nat) : List UInt8 :=
  (List.range w).map fun i => mem (offset + i)

def flagIf (present : Bool) (bit : UInt32) : UInt32 := if present then bit else 0

def afInet : Nat := 2

def afInet6 : Nat := 23

def keyBytes (key : Option WireguardKey) : List UInt8 := (key.getD (Vector.replicate 32 0)).toList

def interfaceSize : Nat := 76

/-- `REPLACE_PEERS`, `HAS_PRIVATE_KEY` and `HAS_LISTEN_PORT`. -/
def interfaceFlags (privateKey listenPort : Bool) : UInt32 :=
  8 ||| flagIf privateKey 2 ||| flagIf listenPort 4

/-- The public key stays zero; the count is cut to 32 bits. -/
def interfaceParts (conf : ParsedConf) : List (List UInt8) :=
  [bytes 4 (interfaceFlags conf.privateKey.isSome conf.listenPort.isSome).toNat,
   bytes 2 (conf.listenPort.getD 0).toNat,
   bytes 2 0,
   keyBytes conf.privateKey,
   List.replicate 32 0,
   bytes 4 conf.peers.length]

section Records
variable (mem : Nat → UInt8) (offset : Nat)

/-- `SOCKADDR_INET`, a union of 28 bytes; no endpoint is the zeroed union. -/
def sockaddrInet : Option SocketAddr → List UInt8
  | none => List.replicate 28 0
  | some ⟨.v4 addr, port⟩ =>
      bytes 2 afInet ++ (bigEndian 2 port.toNat ++ bigEndian 4 addr.toNat ++ List.replicate 8 0 ++
        unwritten mem (offset + 16) 12)
  | some ⟨.v6 addr, port⟩ =>
      bytes 2 afInet6 ++ (bigEndian 2 port.toNat ++ bytes 4 0 ++ bigEndian 16 addr.toNat ++
        bytes 4 0)

def allowedIpSize : Nat := 24

/-- `WIREGUARD_ALLOWED_IP_ADDRESS`, a union of 16 bytes. -/
def allowedAddress : IpNet → List UInt8
  | .v4 net => bigEndian 4 net.addr.toNat ++ unwritten mem (offset + 4) 12
  | .v6 net => bigEndian 16 net.addr.toNat

def addressFamily : IpNet → Nat
  | .v4 _ => afInet
  | .v6 _ => afInet6

def allowedIpParts (net : IpNet) : List (List UInt8) :=
  [allowedAddress mem offset net, bytes 2 (addressFamily net), bytes 1 net.prefixLen, [0],
    bytes 4 0]

def ipnetToAllowedIp (net : IpNet) : List UInt8 := (allowedIpParts mem offset net).flatten

/-- `WIREGUARD_PEER`, aligned to eight bytes. -/
def peerSize : Nat := 136

/-- `REPLACE_ALLOWED_IPS` and a flag for each field that is there. -/
def peerFlags (publicKey presharedKey keepalive endpoint : Bool) : UInt32 :=
  32 ||| flagIf publicKey 1 ||| flagIf presharedKey 2 ||| flagIf keepalive 4 ||| flagIf endpoint 8

/-- `Flags`, `Reserved`, the keys, the keepalive, the endpoint, the three counters of the driver
and `AllowedIPsCount`, cut to 32 bits. -/
def peerParts (peer : ParsedPeer) : List (List UInt8) :=
  [bytes 4 (peerFlags peer.publicKey.isSome peer.presharedKey.isSome
     peer.persistentKeepalive.isSome peer.endpoint.isSome).toNat,
   bytes 4 0,
   keyBytes peer.publicKey,
   keyBytes peer.presharedKey,
   bytes 2 (peer.persistentKeepalive.getD 0).toNat,
   bytes 2 0,
   sockaddrInet mem (offset + 76) peer.endpoint,
   bytes 8 0, bytes 8 0, bytes 8 0,
   bytes 4 peer.allowedIps.length,
   unwritten mem (offset + 132) 4]

def peerToNative (peer : ParsedPeer) : List UInt8 := (peerParts mem offset peer).flatten

end Records

/-! ## The buffer -/

/-- `copy_nonoverlapping` to `buf` at `offset`. -/
def copyTo (buf : List UInt8) (offset : Nat) (record : List UInt8) : List UInt8 :=
  buf.take offset ++ record ++ buf.drop (offset + record.length)

abbrev BufferCursor := List UInt8 × Nat

section Buffer
variable (mem : Nat → UInt8)

def writeAllowed (cursor : BufferCursor) (net : IpNet) : BufferCursor :=
  (copyTo cursor.1 cursor.2 (ipnetToAllowedIp mem cursor.2 net), cursor.2 + allowedIpSize)

def writePeer (cursor : BufferCursor) (peer : ParsedPeer) : BufferCursor :=
  peer.allowedIps.foldl (writeAllowed mem)
    (copyTo cursor.1 cursor.2 (peerToNative mem cursor.2 peer), cursor.2 + peerSize)

def bufferSize (peers : List ParsedPeer) : Nat :=
  interfaceSize + peers.length * peerSize +
    (peers.map fun peer => peer.allowedIps.length).sum * allowedIpSize

def serializeInterface (conf : ParsedConf) : WgntResult (List UInt8) :=
  if conf.peers.isEmpty then wgntConfig "no peers defined"
  else
    let buf := copyTo (List.replicate (bufferSize conf.peers) 0) 0 (interfaceParts conf).flatten
    .ok (conf.peers.foldl (writePeer mem) (buf, interfaceSize)).1

/-! ## What is in it -/

def allowedImage : Nat → List IpNet → List UInt8
  | _, [] => []
  | offset, net :: rest =>
      ipnetToAllowedIp mem offset net ++ allowedImage (offset + allowedIpSize) rest

def peersImage : Nat → List ParsedPeer → List UInt8
  | _, [] => []
  | offset, peer :: rest =>
      peerToNative mem offset peer ++
        (allowedImage mem (offset + peerSize) peer.allowedIps ++
          peersImage (offset + peerSize + peer.allowedIps.length * allowedIpSize) rest)

end Buffer

section Lengths
variable (mem : Nat → UInt8) (offset : Nat)

@[simp]
theorem length_bigEndian (w n : Nat) : (bigEndian w n).length = w := by
  rw [bigEndian, List.length_reverse, length_bytes]

@[simp]
theorem length_unwritten (w : Nat) : (unwritten mem offset w).length = w := by
  rw [unwritten, List.length_map, List.length_range]

@[simp]
theorem length_keyBytes (key : Option WireguardKey) : (keyBytes key).length = 32 := by
  rw [keyBytes, Vector.length_toList]

theorem length_sockaddrInet (endpoint : Option SocketAddr) :
    (sockaddrInet mem offset endpoint).length = 28 := by
  match endpoint with
  | none => rfl
  | some ⟨.v4 addr, port⟩ =>
      simp only [sockaddrInet, List.length_append, length_bytes, length_bigEndian,
        List.length_replicate, length_unwritten]
  | some ⟨.v6 addr, port⟩ =>
      simp only [sockaddrInet, List.length_append, length_bytes, length_bigEndian]

theorem length_allowedAddress (net : IpNet) : (allowedAddress mem offset net).length = 16 := by
  cases net with
  | v4 net =>
      simp only [allowedAddress, List.length_append, length_bigEndian, length_unwritten]
  | v6 net => simp only [allowedAddress, length_bigEndian]

def interfaceLayout : List Nat := [4, 2, 2, 32, 32, 4]

def allowedIpLayout : List Nat := [16, 2, 1, 1, 4]

def peerLayout : List Nat := [4, 4, 32, 32, 2, 2, 28, 8, 8, 8, 4, 4]

theorem interfaceParts_layout (conf : ParsedConf) :
    (interfaceParts conf).map List.length = interfaceLayout := by
  simp only [interfaceParts, interfaceLayout, List.map_cons, List.map_nil, length_bytes,
    length_keyBytes, List.length_replicate]

theorem allowedIpParts_layout (net : IpNet) :
    (allowedIpParts mem offset net).map List.length = allowedIpLayout := by
  simp only [allowedIpParts, allowedIpLayout, List.map_cons, List.map_nil, length_bytes,
    length_allowedAddress, List.length_singleton]

theorem peerParts_layout (peer : ParsedPeer) :
    (peerParts mem offset peer).map List.length = peerLayout := by
  simp only [peerParts, peerLayout, List.map_cons, List.map_nil, length_bytes, length_keyBytes,
    length_sockaddrInet, length_unwritten]

theorem length_interface (conf : ParsedConf) :
    (interfaceParts conf).flatten.length = interfaceSize := by
  rw [List.length_flatten, interfaceParts_layout]
  rfl

@[simp]
theorem length_ipnetToAllowedIp (net : IpNet) :
    (ipnetToAllowedIp mem offset net).length = allowedIpSize := by
  rw [ipnetToAllowedIp, List.length_flatten, allowedIpParts_layout]
  rfl

@[simp]
theorem length_peerToNative (peer : ParsedPeer) :
    (peerToNative mem offset peer).length = peerSize := by
  rw [peerToNative, List.length_flatten, peerParts_layout]
  rfl

@[simp]
theorem length_allowedImage (nets : List IpNet) :
    (allowedImage mem offset nets).length = nets.length * allowedIpSize := by
  induction nets generalizing offset with
  | nil => simp [allowedImage]
  | cons net rest ih =>
      rw [allowedImage, List.length_append, length_ipnetToAllowedIp, ih, List.length_cons,
        Nat.succ_mul]
      omega

end Lengths

/-! ## The copies fill the buffer from the front -/

section Fill
variable (mem : Nat → UInt8)

/-- The cursor after `written`, with `room` zeros left. -/
def cursorAt (written : List UInt8) (room : Nat) : BufferCursor :=
  (written ++ List.replicate room 0, written.length)

theorem copyTo_front (written record : List UInt8) (room : Nat) :
    copyTo (written ++ List.replicate (record.length + room) 0) written.length record =
      written ++ record ++ List.replicate room 0 := by
  have hrest : (List.replicate (record.length + room) (0 : UInt8)).drop record.length =
      List.replicate room 0 := by
    rw [List.drop_replicate, Nat.add_sub_cancel_left]
  rw [copyTo, List.take_left, ← List.drop_drop, List.drop_left, hrest]

theorem writeAllowed_front (written : List UInt8) (room : Nat) (net : IpNet) :
    writeAllowed mem (cursorAt written (allowedIpSize + room)) net =
      cursorAt (written ++ ipnetToAllowedIp mem written.length net) room := by
  have hcopy := copyTo_front written (ipnetToAllowedIp mem written.length net) room
  rw [length_ipnetToAllowedIp] at hcopy
  simp only [writeAllowed, cursorAt, hcopy, List.length_append, length_ipnetToAllowedIp]

theorem foldl_writeAllowed (nets : List IpNet) (written : List UInt8) (room : Nat) :
    nets.foldl (writeAllowed mem) (cursorAt written (nets.length * allowedIpSize + room)) =
      cursorAt (written ++ allowedImage mem written.length nets) room := by
  induction nets generalizing written with
  | nil => simp [allowedImage]
  | cons net rest ih =>
      have hroom : (net :: rest).length * allowedIpSize + room =
          allowedIpSize + (rest.length * allowedIpSize + room) := by
        rw [List.length_cons, Nat.succ_mul]
        omega
      rw [List.foldl_cons, hroom, writeAllowed_front, ih, List.length_append,
        length_ipnetToAllowedIp, allowedImage, List.append_assoc]

def blockSize (peer : ParsedPeer) : Nat := peerSize + peer.allowedIps.length * allowedIpSize

theorem writePeer_front (written : List UInt8) (room : Nat) (peer : ParsedPeer) :
    writePeer mem (cursorAt written (blockSize peer + room)) peer =
      cursorAt (written ++ (peerToNative mem written.length peer ++
        allowedImage mem (written.length + peerSize) peer.allowedIps)) room := by
  have hcopy := copyTo_front written (peerToNative mem written.length peer)
    (peer.allowedIps.length * allowedIpSize + room)
  have hnets := foldl_writeAllowed mem peer.allowedIps
    (written ++ peerToNative mem written.length peer) room
  rw [length_peerToNative] at hcopy
  simp only [cursorAt, List.length_append, length_peerToNative, List.append_assoc] at hcopy hnets ⊢
  rw [writePeer, blockSize, Nat.add_assoc, hcopy]
  exact hnets

theorem foldl_writePeer (peers : List ParsedPeer) (written : List UInt8) :
    peers.foldl (writePeer mem) (cursorAt written (peers.map blockSize).sum) =
      cursorAt (written ++ peersImage mem written.length peers) 0 := by
  induction peers generalizing written with
  | nil => simp [peersImage]
  | cons peer rest ih =>
      rw [List.foldl_cons, List.map_cons, List.sum_cons, writePeer_front, ih, peersImage]
      simp only [List.length_append, length_peerToNative, length_allowedImage, List.append_assoc,
        Nat.add_assoc]

theorem bufferSize_eq (peers : List ParsedPeer) :
    bufferSize peers = interfaceSize + (peers.map blockSize).sum := by
  induction peers with
  | nil => rfl
  | cons peer rest ih =>
      simp only [bufferSize, blockSize, List.map_cons, List.sum_cons, List.length_cons,
        Nat.succ_mul, Nat.add_mul] at ih ⊢
      omega

theorem serializeInterface_nil (conf : ParsedConf) (hpeers : conf.peers = []) :
    serializeInterface mem conf = wgntConfig "no peers defined" := by
  rw [serializeInterface, hpeers, List.isEmpty_nil, if_pos rfl]

/-- Every byte of the buffer is written once, and the size is the size written. -/
theorem serializeInterface_eq (conf : ParsedConf) (hpeers : conf.peers ≠ []) :
    serializeInterface mem conf =
      .ok ((interfaceParts conf).flatten ++ peersImage mem interfaceSize conf.peers) := by
  have hcopy := copyTo_front [] (interfaceParts conf).flatten (conf.peers.map blockSize).sum
  have hfill := foldl_writePeer mem conf.peers (interfaceParts conf).flatten
  rw [List.nil_append, List.nil_append, List.length_nil, length_interface,
    ← bufferSize_eq] at hcopy
  rw [cursorAt, cursorAt, length_interface] at hfill
  have hempty : conf.peers.isEmpty = false := by
    rw [List.isEmpty_eq_false_iff]
    exact hpeers
  simp only [serializeInterface, hempty, hcopy, hfill]
  simp

end Fill

/-! ## The bytes determine what was written -/

theorem getD_inj {A : Type} {a b : Option A} {d : A} (hsome : a.isSome = b.isSome)
    (h : a.getD d = b.getD d) : a = b := by
  cases a with
  | none => cases b with
    | none => rfl
    | some y => cases hsome
  | some x => cases b with
    | none => cases hsome
    | some y => exact congrArg some h

theorem bigEndian_inj {w n m : Nat} (hn : n < 256 ^ w) (hm : m < 256 ^ w)
    (h : bigEndian w n = bigEndian w m) : n = m :=
  bytes_inj hn hm (List.reverse_injective h)

theorem u32_inj {n m : UInt32} (h : bytes 4 n.toNat = bytes 4 m.toNat) : n = m :=
  UInt32.toNat_inj.mp (bytes_inj n.toNat_lt m.toNat_lt h)

theorem u16_inj {n m : UInt16} (h : bytes 2 n.toNat = bytes 2 m.toNat) : n = m :=
  UInt16.toNat_inj.mp (bytes_inj n.toNat_lt m.toNat_lt h)

theorem port_inj {n m : UInt16} (h : bigEndian 2 n.toNat = bigEndian 2 m.toNat) : n = m :=
  UInt16.toNat_inj.mp (bigEndian_inj n.toNat_lt m.toNat_lt h)

theorem addr_inj {w : Nat} {a b : BitVec (8 * w)} (h : bigEndian w a.toNat = bigEndian w b.toNat) :
    a = b := by
  have hbound : 256 ^ w = 2 ^ (8 * w) := by rw [Nat.pow_mul]
  exact BitVec.toNat_inj.mp (bigEndian_inj (hbound ▸ a.isLt) (hbound ▸ b.isLt) h)

theorem keyBytes_inj {key key' : Option WireguardKey} (hsome : key.isSome = key'.isSome)
    (h : keyBytes key = keyBytes key') : key = key' :=
  getD_inj hsome (Vector.toList_inj.mp h)

theorem interfaceFlags_inj {key port key' port' : Bool}
    (h : interfaceFlags key port = interfaceFlags key' port') : key = key' ∧ port = port' := by
  revert key port key' port'
  decide

theorem peerFlags_inj {key shared alive endpoint key' shared' alive' endpoint' : Bool}
    (h : peerFlags key shared alive endpoint = peerFlags key' shared' alive' endpoint') :
    key = key' ∧ shared = shared' ∧ alive = alive' ∧ endpoint = endpoint' := by
  revert key shared alive endpoint key' shared' alive' endpoint'
  decide

section Records
variable {mem mem' : Nat → UInt8} {offset : Nat}

theorem sockaddrInet_inj {endpoint endpoint' : Option SocketAddr}
    (hsome : endpoint.isSome = endpoint'.isSome)
    (h : sockaddrInet mem offset endpoint = sockaddrInet mem' offset endpoint') :
    endpoint = endpoint' := by
  match endpoint, endpoint' with
  | none, none => rfl
  | some _, none => cases hsome
  | none, some _ => cases hsome
  | some ⟨.v4 addr, port⟩, some ⟨.v4 addr', port'⟩ =>
      simp only [sockaddrInet, List.append_assoc] at h
      obtain ⟨_, h⟩ := List.append_inj h rfl
      obtain ⟨hport, h⟩ := List.append_inj h (by simp)
      obtain ⟨haddr, _⟩ := List.append_inj h (by simp)
      rw [port_inj hport, addr_inj (w := 4) haddr]
  | some ⟨.v6 addr, port⟩, some ⟨.v6 addr', port'⟩ =>
      simp only [sockaddrInet, List.append_assoc] at h
      obtain ⟨_, h⟩ := List.append_inj h rfl
      obtain ⟨hport, h⟩ := List.append_inj h (by simp)
      obtain ⟨_, h⟩ := List.append_inj h rfl
      obtain ⟨haddr, _⟩ := List.append_inj h (by simp)
      rw [port_inj hport, addr_inj (w := 16) haddr]
  -- the families differ
  | some ⟨.v4 addr, port⟩, some ⟨.v6 addr', port'⟩ =>
      obtain ⟨hfamily, _⟩ := List.append_inj h rfl
      exact absurd hfamily (by decide)
  | some ⟨.v6 addr, port⟩, some ⟨.v4 addr', port'⟩ =>
      obtain ⟨hfamily, _⟩ := List.append_inj h rfl
      exact absurd hfamily (by decide)

theorem Net.ext_of_prefixLen {width : Nat} {net net' : Net width} (haddr : net.addr = net'.addr)
    (hlen : net.prefixLen = net'.prefixLen) : net = net' := by
  cases net
  cases net'
  cases haddr
  cases hlen
  rfl

theorem prefixLen_lt (net : IpNet) : net.prefixLen < 256 ^ 1 := by
  cases net with
  | v4 net =>
      have hle := net.le_width
      simp only [IpNet.prefixLen]
      omega
  | v6 net =>
      have hle := net.le_width
      simp only [IpNet.prefixLen]
      omega

theorem ipnetToAllowedIp_inj {net net' : IpNet}
    (h : ipnetToAllowedIp mem offset net = ipnetToAllowedIp mem' offset net') : net = net' := by
  have hparts : allowedIpParts mem offset net = allowedIpParts mem' offset net' := by
    rw [List.eq_iff_flatten_eq, allowedIpParts_layout, allowedIpParts_layout]
    exact ⟨h, rfl⟩
  simp only [allowedIpParts, List.cons.injEq] at hparts
  obtain ⟨haddr, hfamily, hcidr, _⟩ := hparts
  have hlen := bytes_inj (prefixLen_lt net) (prefixLen_lt net') hcidr
  match net, net' with
  | .v4 a, .v4 b =>
      obtain ⟨haddr, _⟩ := List.append_inj haddr (by simp)
      rw [Net.ext_of_prefixLen (addr_inj (w := 4) haddr) hlen]
  | .v6 a, .v6 b => rw [Net.ext_of_prefixLen (addr_inj (w := 16) haddr) hlen]
  | .v4 _, .v6 _ => cases hfamily
  | .v6 _, .v4 _ => cases hfamily

theorem peerParts_inj {peer peer' : ParsedPeer}
    (h : peerToNative mem offset peer = peerToNative mem' offset peer') :
    peerParts mem offset peer = peerParts mem' offset peer' := by
  rw [List.eq_iff_flatten_eq, peerParts_layout, peerParts_layout]
  exact ⟨h, rfl⟩

/-- The record of a peer determines the fields, and the count up to the cut. -/
theorem peerToNative_inj {peer peer' : ParsedPeer}
    (h : peerToNative mem offset peer = peerToNative mem' offset peer')
    (hnets : peer.allowedIps = peer'.allowedIps) : peer = peer' := by
  have hparts := peerParts_inj h
  simp only [peerParts, List.cons.injEq] at hparts
  obtain ⟨hflags, _, hpublic, hshared, halive, _, hendpoint, _⟩ := hparts
  obtain ⟨hsomePublic, hsomeShared, hsomeAlive, hsomeEndpoint⟩ := peerFlags_inj (u32_inj hflags)
  ext1
  · exact keyBytes_inj hsomePublic hpublic
  · exact keyBytes_inj hsomeShared hshared
  · exact sockaddrInet_inj hsomeEndpoint hendpoint
  · exact hnets
  · exact getD_inj hsomeAlive (u16_inj halive)

theorem peerToNative_count {peer peer' : ParsedPeer}
    (h : peerToNative mem offset peer = peerToNative mem' offset peer') :
    peer.allowedIps.length % 2 ^ 32 = peer'.allowedIps.length % 2 ^ 32 := by
  have hparts := peerParts_inj h
  simp only [peerParts, List.cons.injEq] at hparts
  obtain ⟨_, _, _, _, _, _, _, _, _, _, hcount, _⟩ := hparts
  exact mod_eq_of_bytes_eq hcount

end Records

/-! ## The count of networks is cut, and the buffer is still read one way only

Where two buffers disagree on the end of a list of networks, one of them has
2^32 more.  Five of those cover the counters of the peer that the other buffer
has there, and a counter of zero is no address family. -/

section Counters
variable (mem : Nat → UInt8)

theorem drop_allowedImage (nets : List IpNet) (rest : List UInt8) (count offset : Nat)
    (hcount : count ≤ nets.length) :
    (allowedImage mem offset nets ++ rest).drop (count * allowedIpSize) =
      allowedImage mem (offset + count * allowedIpSize) (nets.drop count) ++ rest := by
  induction count generalizing nets offset with
  | zero => simp
  | succ count ih =>
      cases nets with
      | nil => simp at hcount
      | cons net others =>
          have hsize : (count + 1) * allowedIpSize = allowedIpSize + count * allowedIpSize := by
            rw [Nat.succ_mul, Nat.add_comm]
          rw [hsize, ← List.drop_drop, allowedImage, List.append_assoc,
            List.drop_left' (length_ipnetToAllowedIp mem offset net),
            ih others (offset + allowedIpSize) (Nat.le_of_succ_le_succ hcount), List.drop_succ_cons,
            Nat.add_assoc]

theorem family_allowedIp (net : IpNet) (rest : List UInt8) (offset : Nat) :
    ((ipnetToAllowedIp mem offset net ++ rest).drop 16).take 2 = bytes 2 (addressFamily net) := by
  have hfield := field_flatten (allowedIpParts mem offset net) rest 1 (Nat.le_add_left 2 3)
  rw [allowedIpParts_layout] at hfield
  exact hfield

theorem rxBytes_peer (peer : ParsedPeer) (rest : List UInt8) (offset : Nat) :
    ((peerToNative mem offset peer ++ rest).drop 112).take 8 = bytes 8 0 := by
  have hfield := field_flatten (peerParts mem offset peer) rest 8 (Nat.le_add_left 9 3)
  rw [peerParts_layout] at hfield
  exact hfield

theorem family_ne_zero (net : IpNet) : bytes 2 (addressFamily net) ≠ [0, 0] := by
  cases net with
  | v4 net => exact of_decide_eq_true rfl
  | v6 net => exact of_decide_eq_true rfl

end Counters

section Blocks
variable {mem mem' : Nat → UInt8}

/-- Five networks do not stand where a peer or the end of the buffer does. -/
theorem peersImage_ne_allowed (peers : List ParsedPeer) (nets : List IpNet) (rest : List UInt8)
    (offset : Nat) (hfive : 5 ≤ nets.length) :
    peersImage mem offset peers ≠ allowedImage mem' offset nets ++ rest := by
  intro heq
  have hdrop := drop_allowedImage mem' nets rest 4 offset (by omega)
  cases hnets : nets.drop 4 with
  | nil =>
      rw [List.drop_eq_nil_iff] at hnets
      omega
  | cons net others =>
      rw [hnets, allowedImage, List.append_assoc] at hdrop
      have hfamily := family_allowedIp mem' net
        (allowedImage mem' (offset + 4 * allowedIpSize + allowedIpSize) others ++ rest)
        (offset + 4 * allowedIpSize)
      rw [← hdrop, ← heq, List.drop_drop] at hfamily
      cases peers with
      | nil =>
          rw [peersImage, List.drop_nil, List.take_nil] at hfamily
          exact absurd (congrArg List.length hfamily) (by simp)
      | cons peer others =>
          have hrx := congrArg (List.take 2) (rxBytes_peer mem peer
            (allowedImage mem (offset + peerSize) peer.allowedIps ++
              peersImage mem (offset + peerSize + peer.allowedIps.length * allowedIpSize) others)
            offset)
          rw [List.take_take] at hrx
          exact family_ne_zero net (hfamily ▸ hrx)

theorem five_le_of_mod {net : IpNet} {rest : List IpNet}
    (hcount : (net :: rest).length % 2 ^ 32 = ([] : List IpNet).length % 2 ^ 32) :
    5 ≤ (net :: rest).length := by
  simp only [List.length_cons, List.length_nil] at hcount ⊢
  omega

theorem allowedImage_inj (nets nets' : List IpNet) (peers peers' : List ParsedPeer) (offset : Nat)
    (hcount : nets.length % 2 ^ 32 = nets'.length % 2 ^ 32)
    (h : allowedImage mem offset nets ++
        peersImage mem (offset + nets.length * allowedIpSize) peers =
      allowedImage mem' offset nets' ++
        peersImage mem' (offset + nets'.length * allowedIpSize) peers') : nets = nets' := by
  induction nets generalizing nets' offset with
  | nil =>
      cases nets' with
      | nil => rfl
      | cons net' rest' =>
          rw [allowedImage, List.nil_append, List.length_nil, Nat.zero_mul, Nat.add_zero] at h
          have hfive : 5 ≤ (net' :: rest').length := five_le_of_mod hcount.symm
          exact absurd h (peersImage_ne_allowed peers (net' :: rest') _ offset hfive)
  | cons net rest ih =>
      cases nets' with
      | nil =>
          rw [allowedImage.eq_1, List.nil_append, List.length_nil, Nat.zero_mul, Nat.add_zero] at h
          have hfive : 5 ≤ (net :: rest).length := five_le_of_mod hcount
          exact absurd h.symm (peersImage_ne_allowed peers' (net :: rest) _ offset hfive)
      | cons net' rest' =>
          rw [allowedImage, allowedImage, List.append_assoc, List.append_assoc] at h
          obtain ⟨hnet, h⟩ := List.append_inj h (by simp)
          rw [List.length_cons, List.length_cons, Nat.succ_mul, Nat.succ_mul,
            Nat.add_comm (rest.length * _), Nat.add_comm (rest'.length * _), ← Nat.add_assoc,
            ← Nat.add_assoc] at h
          rw [List.length_cons, List.length_cons] at hcount
          rw [ipnetToAllowedIp_inj hnet, ih rest' (offset + allowedIpSize) (by omega) h]

theorem peersImage_ne_nil (peer : ParsedPeer) (rest : List ParsedPeer) (offset : Nat) :
    peersImage mem offset (peer :: rest) ≠ [] := by
  intro hnil
  have hlength := congrArg List.length hnil
  rw [peersImage, List.length_append, length_peerToNative, List.length_nil, peerSize] at hlength
  omega

theorem peersImage_inj (peers peers' : List ParsedPeer) (offset : Nat)
    (h : peersImage mem offset peers = peersImage mem' offset peers') : peers = peers' := by
  induction peers generalizing peers' offset with
  | nil =>
      cases peers' with
      | nil => rfl
      | cons peer' rest' => exact absurd h.symm (peersImage_ne_nil peer' rest' offset)
  | cons peer rest ih =>
      cases peers' with
      | nil => exact absurd h (peersImage_ne_nil peer rest offset)
      | cons peer' rest' =>
          rw [peersImage, peersImage] at h
          obtain ⟨hpeer, h⟩ := List.append_inj h (by simp)
          have hnets := allowedImage_inj peer.allowedIps peer'.allowedIps rest rest'
            (offset + peerSize) (peerToNative_count hpeer) h
          rw [hnets] at h
          obtain ⟨_, h⟩ := List.append_inj h (by simp)
          rw [peerToNative_inj hpeer hnets, ih rest' _ h]

end Blocks

def ParsedConf.wireguard (conf : ParsedConf) :
    Option WireguardKey × Option UInt16 × List ParsedPeer :=
  (conf.privateKey, conf.listenPort, conf.peers)

theorem interfaceParts_inj {conf conf' : ParsedConf}
    (h : (interfaceParts conf).flatten = (interfaceParts conf').flatten) :
    conf.privateKey = conf'.privateKey ∧ conf.listenPort = conf'.listenPort := by
  have hparts : interfaceParts conf = interfaceParts conf' := by
    rw [List.eq_iff_flatten_eq, interfaceParts_layout, interfaceParts_layout]
    exact ⟨h, rfl⟩
  simp only [interfaceParts, List.cons.injEq] at hparts
  obtain ⟨hflags, hport, _, hkey, _⟩ := hparts
  obtain ⟨hsomeKey, hsomePort⟩ := interfaceFlags_inj (u32_inj hflags)
  exact ⟨keyBytes_inj hsomeKey hkey, getD_inj hsomePort (u16_inj hport)⟩

/-- Whatever the bytes that are not written hold, one buffer is made of one set of fields. -/
theorem serializeInterface_inj {mem mem' : Nat → UInt8} {conf conf' : ParsedConf}
    (hpeers : conf.peers ≠ []) (hpeers' : conf'.peers ≠ [])
    (h : serializeInterface mem conf = serializeInterface mem' conf') :
    conf.wireguard = conf'.wireguard := by
  rw [serializeInterface_eq mem conf hpeers, serializeInterface_eq mem' conf' hpeers',
    Except.ok.injEq] at h
  obtain ⟨hinterface, hblocks⟩ := List.append_inj h
    ((length_interface conf).trans (length_interface conf').symm)
  obtain ⟨hkey, hport⟩ := interfaceParts_inj hinterface
  rw [ParsedConf.wireguard, ParsedConf.wireguard, hkey, hport, peersImage_inj _ _ _ hblocks]

theorem serializeInterface_congr (mem : Nat → UInt8) {conf conf' : ParsedConf}
    (h : conf.wireguard = conf'.wireguard) :
    serializeInterface mem conf = serializeInterface mem conf' := by
  simp only [ParsedConf.wireguard, Prod.mk.injEq] at h
  obtain ⟨hkey, hport, hpeers⟩ := h
  simp only [serializeInterface, interfaceParts, hkey, hport, hpeers]

end RouteGuard
