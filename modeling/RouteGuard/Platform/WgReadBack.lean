import RouteGuard.Platform.RowBytes
import RouteGuard.Platform.WgStats

/-! # Reading the configuration buffer back

The buffer of `serialize_interface`, walked as `parse_config_buffer` walks the
answer of the driver, with every field of a peer and its networks decoded. -/
set_option autoImplicit false
namespace RouteGuard

open LittleEndian

/-! ## Records -/

def keyOf (bytes : List UInt8) : WireguardKey := Vector.ofFn fun i => bytes.getD i 0

def networkOf (address : List UInt8) (family cidr : Nat) : Option IpNet :=
  if family = afInet then
    if h : cidr ≤ 32 then some (.v4 ⟨BitVec.ofNat 32 (fromBeBytes (address.take 4)), cidr, h⟩)
    else none
  else if family = afInet6 then
    if h : cidr ≤ 128 then some (.v6 ⟨BitVec.ofNat 128 (fromBeBytes address), cidr, h⟩) else none
  else none

def allowedIpOf (record : List UInt8) : Option IpNet :=
  networkOf (field allowedIpLayout 0 record) (value (field allowedIpLayout 1 record))
    (value (field allowedIpLayout 2 record))

def readAllowed : Nat → List UInt8 → List (Option IpNet)
  | 0, _ => []
  | count + 1, records => allowedIpOf records :: readAllowed count (records.drop allowedIpSize)

@[ext]
structure PeerRecord where
  flags : Nat
  publicKey : Option WireguardKey
  presharedKey : Option WireguardKey
  persistentKeepalive : Option UInt16
  endpoint : Option SocketAddr
  counters : List Nat
  allowedIps : List (Option IpNet)
deriving DecidableEq

/-- A field is there where its flag is set. -/
def readPeer (record : List UInt8) : PeerRecord :=
  let flags := value (field peerLayout 0 record)
  let sockaddr := field peerLayout 6 record
  { flags := flags
    publicKey := if flags.testBit 0 then some (keyOf (field peerLayout 2 record)) else none
    presharedKey := if flags.testBit 1 then some (keyOf (field peerLayout 3 record)) else none
    persistentKeepalive :=
      if flags.testBit 2 then some (UInt16.ofNat (value (field peerLayout 4 record))) else none
    endpoint :=
      if flags.testBit 3 then sockaddrToRust sockaddr (value (sockaddr.take 2)) else none
    counters := [7, 8, 9].map fun i => value (field peerLayout i record)
    allowedIps := readAllowed (allowedIpsCount record) (record.drop peerSize) }

def readPeers (buf : List UInt8) : List PeerRecord :=
  (peerRefs buf).map fun offset => readPeer (buf.drop offset)

def ParsedPeer.record (peer : ParsedPeer) : PeerRecord where
  flags := (peerFlags peer.publicKey.isSome peer.presharedKey.isSome
    peer.persistentKeepalive.isSome peer.endpoint.isSome).toNat
  publicKey := peer.publicKey
  presharedKey := peer.presharedKey
  persistentKeepalive := peer.persistentKeepalive
  endpoint := peer.endpoint
  counters := [0, 0, 0]
  allowedIps := peer.allowedIps.map some

/-! ## A field -/

theorem keyOf_keyBytes (key : WireguardKey) : keyOf (keyBytes (some key)) = key := by
  ext i hi
  simp [keyOf, keyBytes]

theorem fromBeBytes_bigEndian {w n : Nat} (h : n < 256 ^ w) : fromBeBytes (bigEndian w n) = n := by
  rw [fromBeBytes, bigEndian, List.reverse_reverse, value_bytes_of_lt h]

theorem fromBeBytes_port (port : UInt16) :
    UInt16.ofNat (fromBeBytes (bigEndian 2 port.toNat)) = port := by
  rw [fromBeBytes_bigEndian port.toNat_lt, UInt16.ofNat_toNat]

theorem fromBeBytes_addr {w : Nat} (addr : BitVec (8 * w)) :
    BitVec.ofNat (8 * w) (fromBeBytes (bigEndian w addr.toNat)) = addr := by
  have hbound : 256 ^ w = 2 ^ (8 * w) := by rw [Nat.pow_mul]
  rw [fromBeBytes_bigEndian (hbound ▸ addr.isLt), BitVec.ofNat_toNat, BitVec.setWidth_eq]

section Fields
variable (mem : Nat → UInt8) (offset : Nat)

theorem sockaddrToRust_sockaddrInet (endpoint : SocketAddr) :
    sockaddrToRust (sockaddrInet mem offset (some endpoint))
      (value ((sockaddrInet mem offset (some endpoint)).take 2)) = some endpoint := by
  obtain ⟨ip, port⟩ := endpoint
  cases ip with
  | v4 addr =>
      have hfamily : value ((sockaddrInet mem offset (some ⟨.v4 addr, port⟩)).take 2) =
          afInet := rfl
      have hport : ((sockaddrInet mem offset (some ⟨.v4 addr, port⟩)).drop 2).take 2 =
          bigEndian 2 port.toNat := rfl
      have haddr : ((sockaddrInet mem offset (some ⟨.v4 addr, port⟩)).drop 4).take 4 =
          bigEndian 4 addr.toNat := rfl
      rw [sockaddrToRust, hfamily, hport, haddr, fromBeBytes_port, if_pos rfl]
      exact congrArg (fun a => some (SocketAddr.mk (.v4 a) port)) (fromBeBytes_addr (w := 4) addr)
  | v6 addr =>
      have hfamily : value ((sockaddrInet mem offset (some ⟨.v6 addr, port⟩)).take 2) =
          afInet6 := rfl
      have hport : ((sockaddrInet mem offset (some ⟨.v6 addr, port⟩)).drop 2).take 2 =
          bigEndian 2 port.toNat := rfl
      have haddr : ((sockaddrInet mem offset (some ⟨.v6 addr, port⟩)).drop 8).take 16 =
          bigEndian 16 addr.toNat := rfl
      rw [sockaddrToRust, hfamily, hport, haddr, fromBeBytes_port, if_neg (by decide), if_pos rfl]
      exact congrArg (fun a => some (SocketAddr.mk (.v6 a) port)) (fromBeBytes_addr (w := 16) addr)

theorem networkOf_allowedAddress (net : IpNet) :
    networkOf (allowedAddress mem offset net) (value (bytes 2 (addressFamily net))) net.prefixLen =
      some net := by
  cases net with
  | v4 net =>
      have hfamily : value (bytes 2 (addressFamily (.v4 net))) = afInet :=
        value_bytes_of_lt (by decide : afInet < 256 ^ 2)
      have haddr : (allowedAddress mem offset (.v4 net)).take 4 = bigEndian 4 net.addr.toNat := rfl
      have hbits := fromBeBytes_addr (w := 4) net.addr
      have hlen : (IpNet.v4 net).prefixLen ≤ 32 := net.le_width
      rw [networkOf, hfamily, haddr, if_pos rfl, dif_pos hlen]
      exact congrArg some (congrArg IpNet.v4 (Net.ext_of_prefixLen hbits rfl))
  | v6 net =>
      have hfamily : value (bytes 2 (addressFamily (.v6 net))) = afInet6 :=
        value_bytes_of_lt (by decide : afInet6 < 256 ^ 2)
      have hbits := fromBeBytes_addr (w := 16) net.addr
      have hlen : (IpNet.v6 net).prefixLen ≤ 128 := net.le_width
      rw [networkOf, hfamily, if_neg (by decide), if_pos rfl, dif_pos hlen]
      exact congrArg some (congrArg IpNet.v6 (Net.ext_of_prefixLen hbits rfl))

theorem allowedIpOf_ipnetToAllowedIp (net : IpNet) (rest : List UInt8) :
    allowedIpOf (ipnetToAllowedIp mem offset net ++ rest) = some net := by
  have hfield : ∀ i, i < 5 → field allowedIpLayout i (ipnetToAllowedIp mem offset net ++ rest) =
      (allowedIpParts mem offset net).getD i [] := by
    intro i hi
    have hparts := field_flatten (allowedIpParts mem offset net) rest i hi
    rwa [allowedIpParts_layout] at hparts
  have hcidr : value (bytes 1 net.prefixLen) = net.prefixLen :=
    value_bytes_of_lt (prefixLen_lt net)
  rw [allowedIpOf, hfield 0 (by omega), hfield 1 (by omega), hfield 2 (by omega)]
  refine Eq.trans ?_ (networkOf_allowedAddress mem offset net)
  exact congrArg (networkOf _ _) hcidr

theorem length_readAllowed (count : Nat) (records : List UInt8) :
    (readAllowed count records).length = count := by
  induction count generalizing records with
  | zero => rfl
  | succ count ih => rw [readAllowed, List.length_cons, ih]

theorem readAllowed_allowedImage (nets : List IpNet) (rest : List UInt8) :
    readAllowed nets.length (allowedImage mem offset nets ++ rest) = nets.map some := by
  induction nets generalizing offset with
  | nil => rfl
  | cons net others ih =>
      rw [allowedImage, List.append_assoc, List.length_cons, readAllowed,
        allowedIpOf_ipnetToAllowedIp, List.drop_left' (length_ipnetToAllowedIp mem offset net), ih,
        List.map_cons]

/-! ## A peer -/

theorem testBit_peerFlags (publicKey presharedKey keepalive endpoint : Bool) :
    (peerFlags publicKey presharedKey keepalive endpoint).toNat.testBit 0 = publicKey ∧
    (peerFlags publicKey presharedKey keepalive endpoint).toNat.testBit 1 = presharedKey ∧
    (peerFlags publicKey presharedKey keepalive endpoint).toNat.testBit 2 = keepalive ∧
    (peerFlags publicKey presharedKey keepalive endpoint).toNat.testBit 3 = endpoint := by
  revert publicKey presharedKey keepalive endpoint
  decide

theorem if_isSome {A : Type} {a : Option A} {b : A} (h : ∀ x, a = some x → b = x) :
    (if a.isSome then some b else none) = a := by
  cases a with
  | none => rfl
  | some x => rw [h x rfl, Option.isSome_some, if_pos rfl]

section Peer
variable (peer : ParsedPeer) (rest : List UInt8)

theorem field_peerToNative {i : Nat} (hi : i < 12) :
    field peerLayout i (peerToNative mem offset peer ++ rest) =
      (peerParts mem offset peer).getD i [] := by
  have hparts := field_flatten (peerParts mem offset peer) rest i hi
  rwa [peerParts_layout] at hparts

theorem allowedIpsCount_peerToNative :
    allowedIpsCount (peerToNative mem offset peer ++ rest) = peer.allowedIps.length % 2 ^ 32 := by
  rw [allowedIpsCount, field_peerToNative mem offset peer rest (by omega)]
  exact value_bytes 4 _

/-- Everything but the networks is read as it was given. -/
theorem readPeer_peerToNative :
    readPeer (peerToNative mem offset peer ++ rest) =
      { peer.record with
        allowedIps := readAllowed (peer.allowedIps.length % 2 ^ 32) rest } := by
  have hfield := fun i => field_peerToNative mem offset peer rest (i := i)
  have hflags : value (field peerLayout 0 (peerToNative mem offset peer ++ rest)) =
      peer.record.flags := by
    rw [hfield 0 (by omega)]
    exact value_bytes_of_lt (UInt32.toNat_lt _)
  have hcounters : [7, 8, 9].map (fun i =>
      value (field peerLayout i (peerToNative mem offset peer ++ rest))) = [0, 0, 0] := by
    simp only [List.map_cons, List.map_nil, hfield 7 (by omega), hfield 8 (by omega),
      hfield 9 (by omega)]
    rfl
  have hdrop : (peerToNative mem offset peer ++ rest).drop peerSize = rest :=
    List.drop_left' (length_peerToNative mem offset peer)
  obtain ⟨hpublic, hshared, halive, hendpoint⟩ := testBit_peerFlags peer.publicKey.isSome
    peer.presharedKey.isSome peer.persistentKeepalive.isSome peer.endpoint.isSome
  rw [readPeer, hflags, hcounters, hdrop, allowedIpsCount_peerToNative, hfield 2 (by omega),
    hfield 3 (by omega), hfield 4 (by omega), hfield 6 (by omega), ParsedPeer.record, hpublic,
    hshared, halive, hendpoint]
  ext1
  · rfl
  · apply if_isSome
    intro key hkey
    rw [← keyOf_keyBytes key, ← hkey]
    rfl
  · apply if_isSome
    intro key hkey
    rw [← keyOf_keyBytes key, ← hkey]
    rfl
  · apply if_isSome
    intro keepalive hkeepalive
    have hvalue : value (bytes 2 keepalive.toNat) = keepalive.toNat :=
      value_bytes_of_lt keepalive.toNat_lt
    have hpart : (peerParts mem offset peer).getD 4 [] = bytes 2 keepalive.toNat := by
      simp [peerParts, hkeepalive]
    rw [hpart, hvalue, UInt16.ofNat_toNat]
  · have hpart : (peerParts mem offset peer).getD 6 [] =
        sockaddrInet mem (offset + 76) peer.endpoint := rfl
    rw [hpart]
    cases hsome : peer.endpoint with
    | none => rfl
    | some endpoint => exact sockaddrToRust_sockaddrInet mem (offset + 76) endpoint
  · rfl
  · rfl

end Peer
end Fields

/-! ## The walk over the image -/

section Walk
variable (mem : Nat → UInt8)

/-- The peers that a walk from an offset reads, and where it stops. -/
def readFrom (buf : List UInt8) (count offset : Nat) : List PeerRecord × Nat :=
  ((walkPeers buf count offset).1.map fun start => readPeer (buf.drop start),
    (walkPeers buf count offset).2)

theorem length_readFrom_le (buf : List UInt8) (count offset : Nat) :
    (readFrom buf count offset).1.length ≤ count := by
  rw [readFrom, List.length_map]
  induction count generalizing offset with
  | zero => simp [walkPeers]
  | succ count ih =>
      rw [walkPeers]
      split_ifs with hroom
      · exact Nat.zero_le _
      · exact Nat.succ_le_succ (ih _)

theorem readFrom_cons (front rest : List UInt8) (count : Nat) (peer : ParsedPeer) :
    readFrom (front ++ (peerToNative mem front.length peer ++ rest)) (count + 1) front.length =
      let others := readFrom (front ++ (peerToNative mem front.length peer ++ rest)) count
        (front.length + (peerSize + peer.allowedIps.length % 2 ^ 32 * allowedIpSize))
      ({ peer.record with
          allowedIps := readAllowed (peer.allowedIps.length % 2 ^ 32) rest } :: others.1,
        others.2) := by
  have hroom : ¬(front ++ (peerToNative mem front.length peer ++ rest)).length <
      front.length + peerSize := by
    rw [List.length_append, List.length_append, length_peerToNative]
    omega
  rw [readFrom, walkPeers, if_neg hroom, List.drop_left, allowedIpsCount_peerToNative]
  dsimp only
  rw [List.map_cons, List.drop_left, readPeer_peerToNative]
  rfl

/-- Peers whose networks are counted in full. -/
def Counted (peers : List ParsedPeer) : Prop :=
  ∀ peer ∈ peers, peer.allowedIps.length < 2 ^ 32

theorem image_shift (front : List UInt8) (peer : ParsedPeer) (others : List ParsedPeer) :
    ∃ block, front ++ peersImage mem front.length (peer :: others) =
        front ++ block ++ peersImage mem (front ++ block).length others ∧
      (front ++ block).length =
        front.length + (peerSize + peer.allowedIps.length * allowedIpSize) := by
  have hlength : (front ++ (peerToNative mem front.length peer ++
      allowedImage mem (front.length + peerSize) peer.allowedIps)).length =
        front.length + peerSize + peer.allowedIps.length * allowedIpSize := by
    simp only [List.length_append, length_peerToNative, length_allowedImage]
    omega
  refine ⟨peerToNative mem front.length peer ++
    allowedImage mem (front.length + peerSize) peer.allowedIps, ?_, ?_⟩
  · rw [hlength, peersImage]
    simp only [List.append_assoc]
  · rw [hlength, Nat.add_assoc]

/-- A walk over counted peers reads them all and stops at the end. -/
theorem readFrom_image (peers : List ParsedPeer) (h : Counted peers) (front : List UInt8) :
    readFrom (front ++ peersImage mem front.length peers) peers.length front.length =
      (peers.map ParsedPeer.record, (front ++ peersImage mem front.length peers).length) := by
  induction peers generalizing front with
  | nil =>
      rw [peersImage, List.append_nil]
      rfl
  | cons peer others ih =>
      have hcount : peer.allowedIps.length % 2 ^ 32 = peer.allowedIps.length :=
        Nat.mod_eq_of_lt (h peer List.mem_cons_self)
      obtain ⟨block, himage, hlength⟩ := image_shift mem front peer others
      have hothers := ih (fun other hother => h other (List.mem_cons_of_mem _ hother))
        (front ++ block)
      rw [← himage, hlength] at hothers
      have hstep := readFrom_cons mem front
        (allowedImage mem (front.length + peerSize) peer.allowedIps ++
          peersImage mem (front.length + peerSize + peer.allowedIps.length * allowedIpSize) others)
        others.length peer
      rw [← peersImage, hcount, readAllowed_allowedImage] at hstep
      rw [List.length_cons, hstep, hothers]
      rfl

/-- A walk that reads every peer as it was given has counted them. -/
theorem counted_of_readFrom (peers : List ParsedPeer) (front : List UInt8)
    (h : (readFrom (front ++ peersImage mem front.length peers) peers.length front.length).1 =
      peers.map ParsedPeer.record) : Counted peers := by
  induction peers generalizing front with
  | nil => simp [Counted]
  | cons peer others ih =>
      have hstep := readFrom_cons mem front
        (allowedImage mem (front.length + peerSize) peer.allowedIps ++
          peersImage mem (front.length + peerSize + peer.allowedIps.length * allowedIpSize) others)
        others.length peer
      rw [← peersImage] at hstep
      rw [List.length_cons, hstep, List.map_cons] at h
      obtain ⟨hhead, htail⟩ := List.cons.inj h
      have hlengths := congrArg (fun record => record.allowedIps.length) hhead
      simp only [length_readAllowed, ParsedPeer.record, List.length_map] at hlengths
      obtain ⟨block, himage, hlength⟩ := image_shift mem front peer others
      rw [hlengths, himage, ← hlength] at htail
      have hothers := ih (front ++ block) htail
      intro other hother
      rcases List.mem_cons.mp hother with rfl | hother
      · omega
      · exact hothers other hother

end Walk

/-! ## The buffer -/

theorem peersCount_interface (conf : ParsedConf) (rest : List UInt8) :
    peersCount ((interfaceParts conf).flatten ++ rest) = conf.peers.length % 2 ^ 32 := by
  have hfield := field_flatten (interfaceParts conf) rest 5 (Nat.lt_succ_self 5)
  rw [interfaceParts_layout] at hfield
  rw [peersCount, hfield]
  exact value_bytes 4 _

/-- The walk over a buffer yields the peers as they were given and ends with the buffer. -/
structure ReadBack (conf : ParsedConf) (buf : List UInt8) : Prop where
  peers : readPeers buf = conf.peers.map ParsedPeer.record
  consumed : (walkPeers buf (peersCount buf) interfaceSize).2 = buf.length

theorem readBack_iff_readFrom (mem : Nat → UInt8) (conf : ParsedConf) :
    ReadBack conf ((interfaceParts conf).flatten ++ peersImage mem interfaceSize conf.peers) ↔
      readFrom ((interfaceParts conf).flatten ++ peersImage mem interfaceSize conf.peers)
        (conf.peers.length % 2 ^ 32) interfaceSize =
      (conf.peers.map ParsedPeer.record,
        ((interfaceParts conf).flatten ++ peersImage mem interfaceSize conf.peers).length) := by
  have hlong : ¬((interfaceParts conf).flatten ++
      peersImage mem interfaceSize conf.peers).length < interfaceSize := by
    rw [List.length_append, length_interface]
    omega
  constructor
  · rintro ⟨hpeers, hconsumed⟩
    rw [readPeers, peerRefs, if_neg hlong, peersCount_interface] at hpeers
    rw [peersCount_interface] at hconsumed
    rw [readFrom, hpeers, hconsumed]
  · intro h
    obtain ⟨hpeers, hconsumed⟩ := Prod.mk.inj h
    constructor
    · rw [readPeers, peerRefs, if_neg hlong, peersCount_interface]
      exact hpeers
    · rw [peersCount_interface]
      exact hconsumed

theorem ReadBack.counts {mem : Nat → UInt8} {conf : ParsedConf} {buf : List UInt8}
    (hpeers : conf.peers ≠ []) (hbuf : serializeInterface mem conf = .ok buf)
    (h : ReadBack conf buf) : conf.peers.length < 2 ^ 32 ∧ Counted conf.peers := by
  rw [serializeInterface_eq mem conf hpeers] at hbuf
  cases hbuf
  rw [readBack_iff_readFrom] at h
  have hcount : conf.peers.length % 2 ^ 32 = conf.peers.length := by
    have hle := length_readFrom_le ((interfaceParts conf).flatten ++
      peersImage mem interfaceSize conf.peers) (conf.peers.length % 2 ^ 32) interfaceSize
    rw [h, List.length_map] at hle
    exact Nat.le_antisymm (Nat.mod_le _ _) hle
  rw [hcount, ← length_interface conf] at h
  exact ⟨by omega, counted_of_readFrom mem conf.peers _ (congrArg Prod.fst h)⟩

/-- The buffer is read back as long as every list fits the count it is written with. -/
theorem serializeInterface_readBack (mem : Nat → UInt8) (conf : ParsedConf)
    (hpeers : conf.peers ≠ []) :
    (∃ buf, serializeInterface mem conf = .ok buf ∧ ReadBack conf buf) ↔
      conf.peers.length < 2 ^ 32 ∧ ∀ peer ∈ conf.peers, peer.allowedIps.length < 2 ^ 32 := by
  constructor
  · rintro ⟨buf, hbuf, hback⟩
    exact hback.counts hpeers hbuf
  · rintro ⟨hcount, hcounted⟩
    refine ⟨_, serializeInterface_eq mem conf hpeers, (readBack_iff_readFrom mem conf).mpr ?_⟩
    rw [Nat.mod_eq_of_lt hcount, ← length_interface conf]
    exact readFrom_image mem conf.peers hcounted _

theorem onePeer_readBack :
    ∃ buf, serializeInterface (fun _ => 0)
        { peers := [{ allowedIps := [.host (ipv4 10 0 0 2)] }] } = .ok buf ∧
      ReadBack { peers := [{ allowedIps := [.host (ipv4 10 0 0 2)] }] } buf := by
  apply (serializeInterface_readBack _ _ (by simp)).mpr
  refine ⟨by decide, ?_⟩
  intro peer hpeer
  rw [List.mem_singleton.mp hpeer]
  decide

/-- 2^32 peers are written with the count zero. -/
theorem manyPeers_not_readBack : ¬∀ (mem : Nat → UInt8) (conf : ParsedConf), conf.peers ≠ [] →
    ∃ buf, serializeInterface mem conf = .ok buf ∧ ReadBack conf buf := by
  intro h
  have hlength : (List.replicate (2 ^ 32) ({} : ParsedPeer)).length = 2 ^ 32 :=
    List.length_replicate
  have hne : List.replicate (2 ^ 32) ({} : ParsedPeer) ≠ [] := by
    intro hnil
    rw [hnil, List.length_nil] at hlength
    omega
  obtain ⟨buf, hbuf, hback⟩ := h (fun _ => 0) { peers := List.replicate (2 ^ 32) {} } hne
  have hcounts := (hback.counts hne hbuf).1
  rw [hlength] at hcounts
  omega

end RouteGuard
