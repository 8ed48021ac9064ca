import RouteGuard.Core.ScopedAddr
import RouteGuard.Lwo.Keys
import RouteGuard.Platform.WrittenConf

/-! # The LWO backend

`parse_lwo_keys` keeps the last public key of a configuration, the relay sends
to the first endpoint.  They are of one peer if the first section with an
endpoint is the last one with a public key. -/
set_option autoImplicit false
namespace RouteGuard.Lwo

open Sections

/-! ## Keys -/

structure LwoScan where
  privateKey : Option WireguardKey := none
  peerPublic : Option WireguardKey := none
  sectionName : String := ""

section Keys
variable (standard : String → Except String (List UInt8))

def lwoLine (scan : LwoScan) (line : String) : Except RouteGuardError LwoScan :=
  let line := trim (beforeComment line)
  if line = "" then .ok scan
  else if isSectionLine line then .ok { scan with sectionName := sectionOf line }
  else
    match splitOnce '=' line with
    | none => .ok scan
    | some (k, v) =>
        let key := toAsciiLowercase (trim k)
        let val := trim v
        let name := toAsciiLowercase scan.sectionName
        if name = "interface" ∧ key = "privatekey" then
          (decodeKey standard val).map fun decoded => { scan with privateKey := some decoded }
        else if name = "peer" ∧ key = "publickey" then
          (decodeKey standard val).map fun decoded => { scan with peerPublic := some decoded }
        else .ok scan

-- `derive_public_key`, with the arithmetic of `x25519_dalek`.
variable (derivePublicKey : WireguardKey → WireguardKey)

def parseLwoKeys (confText : String) : Except RouteGuardError LwoKeys :=
  match (lines confText).foldlM (lwoLine standard) {} with
  | .error e => .error e
  | .ok scan =>
      match scan.privateKey with
      | none => .error (.config "LWO requires Interface PrivateKey")
      | some privateKey =>
          match scan.peerPublic with
          | none => .error (.config "LWO requires Peer PublicKey")
          | some server => .ok ⟨derivePublicKey privateKey, server⟩

/-! ## The checks and the remote of the relay -/

structure TransportValidationIssue where
  field : String
  message : String
deriving DecidableEq, Repr

structure TransportValidateResult where
  valid : Bool
  issues : List TransportValidationIssue
deriving DecidableEq, Repr

def validate (confText : String) (cfg : TunnelTransportConfig) : TransportValidateResult :=
  let keys := parseLwoKeys standard derivePublicKey confText
  let peer := parsePeerEndpoint ScopedSocketAddr.parse confText
  let hasRemote := (cfg.lwo.bind LwoTransportConfig.remoteUdp).isSome || peer.isSome
  let issues :=
    (if keys.isOk then []
      else [⟨"lwo.keys", "LWO requires valid Interface PrivateKey and Peer PublicKey"⟩]) ++
    (if hasRemote then []
      else [⟨"transport.lwo.remoteUdp", "LWO requires RemoteUDP or peer Endpoint"⟩]) ++
    (if cfg.requireLwo && !keys.isOk then
      [⟨"transport.requireLwo", "require_lwo set but keys invalid"⟩] else [])
  { valid := issues.isEmpty, issues := issues }

end Keys

def resolveLwoRemoteUdp (cfg : TunnelTransportConfig) (peerEndpoint : ScopedSocketAddr) :
    Except RouteGuardError ScopedSocketAddr :=
  match cfg.lwo.bind LwoTransportConfig.remoteUdp with
  | none => .ok peerEndpoint
  | some s =>
      match ScopedSocketAddr.parse s with
      | some remote => .ok remote
      | none => .error (.config "invalid remote_udp: invalid socket address syntax")

/-! ## What the runs write last -/

section Runs
variable {standard : String → Except String (List UInt8)}

/-- A step of the key scan, by what stands in its line. -/
theorem lwoLine_event (scan : LwoScan) (line : String) :
    lwoLine standard scan line =
      match confEvent line with
      | none => .ok scan
      | some (.header name) => .ok { scan with sectionName := name }
      | some (.entry key val) =>
          if toAsciiLowercase scan.sectionName = "interface" ∧ key = "privatekey" then
            (decodeKey standard val).map fun decoded => { scan with privateKey := some decoded }
          else if toAsciiLowercase scan.sectionName = "peer" ∧ key = "publickey" then
            (decodeKey standard val).map fun decoded => { scan with peerPublic := some decoded }
          else .ok scan := by
  rw [lwoLine, confEvent]
  dsimp only
  by_cases hempty : trim (beforeComment line) = ""
  · rw [if_pos hempty, if_pos hempty]
  · rw [if_neg hempty, if_neg hempty]
    by_cases hsection : isSectionLine (trim (beforeComment line)) = true
    · rw [if_pos hsection, if_pos hsection]
    · rw [if_neg hsection, if_neg hsection]
      cases splitOnce '=' (trim (beforeComment line)) with
      | none => rfl
      | some pair => rfl

theorem lwoLine_writes {scan scan' : LwoScan} {line : String}
    (h : lwoLine standard scan line = .ok scan') :
    toAsciiLowercase scan'.sectionName = nextName (toAsciiLowercase scan.sectionName) line ∧
    LastWritten (decodeKey standard)
      (valueOf "interface" "privatekey" (toAsciiLowercase scan.sectionName) line).toList
      scan.privateKey scan'.privateKey ∧
    LastWritten (decodeKey standard)
      (valueOf "peer" "publickey" (toAsciiLowercase scan.sectionName) line).toList
      scan.peerPublic scan'.peerPublic := by
  rw [lwoLine_event] at h
  rw [nextName, valueOf, valueOf]
  generalize hname : toAsciiLowercase scan.sectionName = name at h ⊢
  generalize confEvent line = event at h ⊢
  rcases event with _ | ⟨next | ⟨key, val⟩⟩
  · dsimp only at h ⊢
    cases h
    exact ⟨hname, .nothing _, .nothing _⟩
  · dsimp only at h ⊢
    cases h
    exact ⟨rfl, .nothing _, .nothing _⟩
  · dsimp only at h ⊢
    split_ifs at h with hprivate hpeer
    · obtain ⟨rfl, rfl⟩ := hprivate
      obtain ⟨decoded, hdecoded, rfl⟩ := FirstError.map_ok h
      rw [if_pos ⟨rfl, rfl⟩, if_neg (by decide)]
      exact ⟨hname, .single hdecoded _, .nothing _⟩
    · obtain ⟨rfl, rfl⟩ := hpeer
      obtain ⟨decoded, hdecoded, rfl⟩ := FirstError.map_ok h
      rw [if_neg (by decide), if_pos ⟨rfl, rfl⟩]
      exact ⟨hname, .nothing _, .single hdecoded _⟩
    · cases h
      rw [if_neg hprivate, if_neg hpeer]
      exact ⟨hname, .nothing _, .nothing _⟩

/-- What a whole run of the key scan leaves in the two keys. -/
theorem foldlM_lwoLine {scan scan' : LwoScan} {confLines : List String}
    (h : confLines.foldlM (lwoLine standard) scan = .ok scan') :
    LastWritten (decodeKey standard)
      (outputs nextName (valueOf "interface" "privatekey") (toAsciiLowercase scan.sectionName)
        confLines) scan.privateKey scan'.privateKey ∧
    LastWritten (decodeKey standard)
      (outputs nextName (valueOf "peer" "publickey") (toAsciiLowercase scan.sectionName)
        confLines) scan.peerPublic scan'.peerPublic := by
  constructor
  · exact foldlM_lastWritten nextName (valueOf "interface" "privatekey")
      (fun scan : LwoScan => toAsciiLowercase scan.sectionName) LwoScan.privateKey
      (fun _ _ _ hline => (lwoLine_writes hline).1)
      (fun _ _ _ hline => (lwoLine_writes hline).2.1) confLines h
  · exact foldlM_lastWritten nextName (valueOf "peer" "publickey")
      (fun scan : LwoScan => toAsciiLowercase scan.sectionName) LwoScan.peerPublic
      (fun _ _ _ hline => (lwoLine_writes hline).1)
      (fun _ _ _ hline => (lwoLine_writes hline).2.2) confLines h

theorem setKey_writes {parseNet : String → Except String IpNet} {conf conf' : ParsedConf}
    {key val : String} (h : conf.setKey parseNet key val = .ok conf') :
    LastWritten RouteGuard.decodeKey
      (if key = "privatekey" then some val else none).toList conf.privateKey conf'.privateKey := by
  rw [ParsedConf.setKey] at h
  split_ifs at h with hprivate hport haddress hdns hmtu
  · obtain ⟨decoded, hdecoded, rfl⟩ := FirstError.map_ok h
    rw [if_pos hprivate]
    exact .single hdecoded _
  all_goals rw [if_neg hprivate]
  · cases h
    exact .nothing _
  · obtain ⟨nets, -, rfl⟩ := FirstError.map_ok h
    exact .nothing _
  · obtain ⟨servers, -, rfl⟩ := FirstError.map_ok h
    exact .nothing _
  · cases h
    exact .nothing _
  · cases h
    exact .nothing _

/-- The driver's parser writes its private key at the same lines. -/
theorem confLine_writes {parseNet : String → Except String IpNet} {scan scan' : ConfScan}
    {line : String} (h : confLine parseNet scan line = .ok scan') :
    toAsciiLowercase scan'.sectionName = nextName (toAsciiLowercase scan.sectionName) line ∧
    LastWritten RouteGuard.decodeKey
      (valueOf "interface" "privatekey" (toAsciiLowercase scan.sectionName) line).toList
      scan.conf.privateKey scan'.conf.privateKey := by
  rw [confLine_event] at h
  rw [nextName, valueOf]
  generalize confEvent line = event at h ⊢
  rcases event with _ | ⟨next | ⟨key, val⟩⟩
  · cases h
    exact ⟨rfl, .nothing _⟩
  · cases h
    exact ⟨rfl, .nothing _⟩
  · dsimp only at h ⊢
    rw [confStep] at h
    generalize hname : toAsciiLowercase scan.sectionName = name at h ⊢
    split_ifs at h with hinterface hpeer
    · obtain ⟨conf, hset, rfl⟩ := FirstError.map_ok h
      refine ⟨hname, ?_⟩
      have hwrites := setKey_writes hset
      simp only [hinterface, true_and]
      exact hwrites
    · obtain ⟨peer, -, rfl⟩ := FirstError.map_ok h
      rw [if_neg fun h => hinterface h.1]
      exact ⟨hname, .nothing _⟩
    · cases h
      rw [if_neg fun h => hinterface h.1]
      exact ⟨hname, .nothing _⟩

theorem foldlM_confLine_privateKey {parseNet : String → Except String IpNet}
    {scan scan' : ConfScan} {confLines : List String}
    (h : confLines.foldlM (confLine parseNet) scan = .ok scan') :
    LastWritten RouteGuard.decodeKey
      (outputs nextName (valueOf "interface" "privatekey") (toAsciiLowercase scan.sectionName)
        confLines) scan.conf.privateKey scan'.conf.privateKey :=
  foldlM_lastWritten nextName (valueOf "interface" "privatekey")
    (fun scan : ConfScan => toAsciiLowercase scan.sectionName) (fun scan => scan.conf.privateKey)
    (fun _ _ _ hline => (confLine_writes hline).1)
    (fun _ _ _ hline => (confLine_writes hline).2) confLines h

/-- The keys that `parse_lwo_keys` returns are the last of their sections. -/
theorem parseLwoKeys_ok {derivePublicKey : WireguardKey → WireguardKey} {confText : String}
    {keys : LwoKeys} (h : parseLwoKeys standard derivePublicKey confText = .ok keys) :
    (∃ text privateKey,
      (valuesOf "interface" "privatekey" (lines confText)).getLast? = some text ∧
      decodeKey standard text = .ok privateKey ∧ keys.clientPublic = derivePublicKey privateKey) ∧
    ∃ text, (valuesOf "peer" "publickey" (lines confText)).getLast? = some text ∧
      decodeKey standard text = .ok keys.serverPublic := by
  rw [parseLwoKeys] at h
  cases hrun : (lines confText).foldlM (lwoLine standard) {} with
  | error e =>
      rw [hrun] at h
      cases h
  | ok scan =>
      rw [hrun] at h
      dsimp only at h
      obtain ⟨hprivate, hpeer⟩ := foldlM_lwoLine hrun
      rw [show toAsciiLowercase ({} : LwoScan).sectionName = "" from rfl] at hprivate hpeer
      split at h
      · cases h
      · rename_i privateKey hkey
        split at h
        · cases h
        · rename_i server hserver
          cases h
          rw [hkey] at hprivate
          rw [hserver] at hpeer
          obtain ⟨text, hlast, hdecoded⟩ := hprivate.read_last
          exact ⟨⟨text, privateKey, hlast, hdecoded, rfl⟩, hpeer.read_last⟩

theorem parseConfText_privateKey {parseNet : String → Except String IpNet} {confText : String}
    {conf : ParsedConf} (h : parseConfText parseNet confText = .ok conf) :
    ∃ text privateKey,
      (valuesOf "interface" "privatekey" (lines confText)).getLast? = some text ∧
      RouteGuard.decodeKey text = .ok privateKey ∧ conf.privateKey = some privateKey := by
  rw [parseConfText] at h
  cases hrun : (lines confText).foldlM (confLine parseNet) {} with
  | error e =>
      rw [hrun] at h
      cases h
  | ok scan =>
      rw [hrun] at h
      dsimp only at h
      split_ifs at h with hnone
      · cases h
      have hconf : scan.closed = conf := Except.ok.inj h
      have hprivate := foldlM_confLine_privateKey hrun
      rw [show toAsciiLowercase ({} : ConfScan).sectionName = "" from rfl] at hprivate
      have hclosed : scan.closed.privateKey = scan.conf.privateKey := rfl
      rw [hclosed] at hnone
      rw [← hconf, hclosed]
      cases hkey : scan.conf.privateKey with
      | none =>
          rw [hkey] at hnone
          exact absurd rfl hnone
      | some privateKey =>
          rw [hkey] at hprivate
          obtain ⟨text, hlast, hdecoded⟩ := hprivate.read_last
          exact ⟨text, privateKey, hlast, hdecoded, rfl⟩

end Runs

/-! ## The section of the key and the section of the endpoint -/

section Relay
variable (standard : String → Except String (List UInt8))
  (derivePublicKey : WireguardKey → WireguardKey) (parseNet : String → Except String IpNet)

/-- The last key text that the key scan comes upon stands in this section. -/
def KeyReadIn (confText : String) (part : Nat) (key : WireguardKey) : Prop :=
  ∃ text, (tagged (valuesOf "peer" "publickey") (confParts confText)).getLast? =
      some (part, text) ∧ decodeKey standard text = .ok key

def EndpointReadIn (confText : String) (part : Nat) (endpoint : ScopedSocketAddr) : Prop :=
  ∃ text, (tagged endpointTexts (confParts confText)).head? = some (part, text) ∧
    ScopedSocketAddr.parse (trim text) = some endpoint

/-- The relay obfuscates with the key of the peer it sends to, and derives its own public key
from the adapter's private key. -/
structure RelayFits (confText : String) (cfg : TunnelTransportConfig) : Prop where
  onePeer : ∃ keys endpoint remote part,
    parseLwoKeys standard derivePublicKey confText = .ok keys ∧
    parsePeerEndpoint ScopedSocketAddr.parse confText = some endpoint ∧
    resolveLwoRemoteUdp cfg endpoint = .ok remote ∧
    KeyReadIn standard confText part keys.serverPublic ∧ EndpointReadIn confText part remote
  adapterKey : ∀ keys conf, parseLwoKeys standard derivePublicKey confText = .ok keys →
    parseConfText parseNet confText = .ok conf →
    ∃ privateKey, conf.privateKey = some privateKey ∧
      keys.clientPublic = derivePublicKey privateKey

/-- The first section with an endpoint line is the last one with a public key. -/
def KeyAtFirstEndpoint (confText : String) : Prop :=
  ∃ before part after, confParts confText = before ++ part :: after ∧
    (∀ other ∈ before, endpointTexts other = []) ∧ endpointTexts part ≠ [] ∧
    valuesOf "peer" "publickey" part ≠ [] ∧
    ∀ other ∈ after, valuesOf "peer" "publickey" other = []

variable {standard derivePublicKey parseNet}

theorem keyReadIn_of_ok {confText : String} {keys : LwoKeys}
    (h : parseLwoKeys standard derivePublicKey confText = .ok keys) :
    ∃ part, KeyReadIn standard confText part keys.serverPublic := by
  obtain ⟨-, text, hlast, hdecoded⟩ := parseLwoKeys_ok h
  rw [← valuesOf_parts, List.getLast?_map] at hlast
  obtain ⟨⟨part, text'⟩, htagged, rfl⟩ := Option.map_eq_some_iff.mp hlast
  exact ⟨part, text', htagged, hdecoded⟩

theorem endpointReadIn_of_some {confText : String} {endpoint : ScopedSocketAddr}
    (h : parsePeerEndpoint ScopedSocketAddr.parse confText = some endpoint) :
    ∃ part, EndpointReadIn confText part endpoint := by
  rw [parsePeerEndpoint, scanPeerEndpoint_eq] at h
  obtain ⟨text, hfirst, hparse⟩ := Option.bind_eq_some_iff.mp h
  have htexts : (endpointTexts (lines confText)).head? = some text := hfirst
  rw [← endpointTexts_parts, List.head?_map] at htexts
  obtain ⟨⟨part, text'⟩, htagged, rfl⟩ := Option.map_eq_some_iff.mp htexts
  exact ⟨part, text', htagged, hparse⟩

theorem adapterKey_of_ok (hstandard : Rfc4648 standard) {confText : String} {keys : LwoKeys}
    {conf : ParsedConf} (hkeys : parseLwoKeys standard derivePublicKey confText = .ok keys)
    (hconf : parseConfText parseNet confText = .ok conf) :
    ∃ privateKey, conf.privateKey = some privateKey ∧
      keys.clientPublic = derivePublicKey privateKey := by
  obtain ⟨⟨text, privateKey, hlast, hdecoded, hclient⟩, -⟩ := parseLwoKeys_ok hkeys
  obtain ⟨text', privateKey', hlast', hdecoded', hadapter⟩ := parseConfText_privateKey hconf
  rw [hlast] at hlast'
  cases hlast'
  rw [decodeKey_adapter hstandard hdecoded] at hdecoded'
  cases hdecoded'
  exact ⟨privateKey, hadapter, hclient⟩

theorem validate_issues_nil_iff {confText : String} {cfg : TunnelTransportConfig}
    (hremote : cfg.lwo.bind LwoTransportConfig.remoteUdp = none) :
    (validate standard derivePublicKey confText cfg).issues = [] ↔
      (∃ keys, parseLwoKeys standard derivePublicKey confText = .ok keys) ∧
      ∃ endpoint, parsePeerEndpoint ScopedSocketAddr.parse confText = some endpoint := by
  rw [validate]
  dsimp only
  rw [hremote]
  cases parseLwoKeys standard derivePublicKey confText with
  | error e => simp [Except.isOk, Except.toBool]
  | ok keys =>
      cases parsePeerEndpoint ScopedSocketAddr.parse confText with
      | none => simp
      | some endpoint => simp [Except.isOk, Except.toBool]

/-- Key and remote of the relay, for a text that the backend finds nothing wrong with. -/
theorem relay_fits_iff (standard : String → Except String (List UInt8))
    (hstandard : Rfc4648 standard) (derivePublicKey : WireguardKey → WireguardKey)
    (parseNet : String → Except String IpNet) (confText : String) (cfg : TunnelTransportConfig)
    (hremote : cfg.lwo.bind LwoTransportConfig.remoteUdp = none)
    (hvalid : (validate standard derivePublicKey confText cfg).issues = []) :
    RelayFits standard derivePublicKey parseNet confText cfg ↔ KeyAtFirstEndpoint confText := by
  constructor
  · rintro ⟨⟨keys, endpoint, remote, part, -, -, -, ⟨keyText, hkey, -⟩, ⟨text, htext, -⟩⟩, -⟩
    obtain ⟨before, p, after, hsplit, hlength, hlast, hafter⟩ := getLast?_tagged.mp hkey
    obtain ⟨before', p', after', hsplit', hlength', hfirst, hbefore⟩ := head?_tagged.mp htext
    have hsame := hsplit.symm.trans hsplit'
    obtain ⟨rfl, hrest⟩ := List.append_inj hsame (hlength.trans hlength'.symm)
    obtain ⟨rfl, -⟩ := List.cons.inj hrest
    refine ⟨before, p, after, hsplit, hbefore, ?_, ?_, hafter⟩
    · intro hnil
      rw [hnil] at hfirst
      cases hfirst
    · intro hnil
      rw [hnil] at hlast
      cases hlast
  · rintro ⟨before, p, after, hsplit, hbefore, htexts, hkeyTexts, hafter⟩
    obtain ⟨⟨keys, hkeys⟩, endpoint, hendpoint⟩ := (validate_issues_nil_iff hremote).mp hvalid
    obtain ⟨part, keyText, hkey, hdecoded⟩ := keyReadIn_of_ok hkeys
    obtain ⟨part', text, htext, hparse⟩ := endpointReadIn_of_some hendpoint
    have hpart : part = before.length := by
      have hlast := getLast?_tagged.mpr ⟨before, p, after, hsplit, rfl,
        List.getLast?_eq_getLast_of_ne_nil hkeyTexts, hafter⟩
      rw [hkey] at hlast
      cases hlast
      rfl
    have hpart' : part' = before.length := by
      have hfirst := head?_tagged.mpr ⟨before, p, after, hsplit, rfl,
        List.head?_eq_some_head htexts, hbefore⟩
      rw [htext] at hfirst
      cases hfirst
      rfl
    have hresolved : resolveLwoRemoteUdp cfg endpoint = .ok endpoint := by
      rw [resolveLwoRemoteUdp, hremote]
    constructor
    · refine ⟨keys, endpoint, endpoint, before.length, hkeys, hendpoint, hresolved, ?_, ?_⟩
      · exact ⟨keyText, hpart ▸ hkey, hdecoded⟩
      · exact ⟨text, hpart' ▸ htext, hparse⟩
    · intro keys' conf hkeys' hconf
      exact adapterKey_of_ok hstandard hkeys' hconf

end Relay

/-! ## One peer and two -/

section Example
variable {standard : String → Except String (List UInt8)}

def firstPeer (publicKey : WireguardKey) : List String :=
  ["[Peer]", keyLine "PublicKey" publicKey, "Endpoint = 1.2.3.4:51820"]

def secondPeer (publicKey : WireguardKey) : List String :=
  ["[Peer]", keyLine "PublicKey" publicKey]

theorem fixed_events : confEvent "[Peer]" = some (.header "Peer") ∧
    confEvent "Endpoint = 1.2.3.4:51820" = some (.entry "endpoint" "1.2.3.4:51820") ∧
    toAsciiLowercase "Peer" = "peer" ∧ toAsciiLowercase "PublicKey" = "publickey" := by
  decide +kernel

theorem written_peers (publicKey : WireguardKey) :
    WrittenPart (firstPeer publicKey) ∧ WrittenPart (secondPeer publicKey) := by
  obtain ⟨hpeer, hendpoint, -, -⟩ := fixed_events
  have hkept : KeptLine "[Peer]" ∧ KeptLine "Endpoint = 1.2.3.4:51820" := by
    unfold KeptLine
    decide
  have hkey := keptLine_keyLine plain_publicKey publicKey
  refine ⟨⟨?_, _, _, rfl, ?_, ?_⟩, ⟨?_, _, _, rfl, ?_, ?_⟩⟩
  · simp [firstPeer, hkept, hkey]
  · simp [isHeaderLine, hpeer]
  · simp [isHeaderLine, hendpoint, confEvent_keyLine plain_publicKey]
  · simp [secondPeer, hkept, hkey]
  · simp [isHeaderLine, hpeer]
  · simp [isHeaderLine, confEvent_keyLine plain_publicKey]

theorem fixed_texts : endpointText false "[Peer]" = none ∧ nextInPeer false "[Peer]" = true ∧
    endpointText true "Endpoint = 1.2.3.4:51820" = some " 1.2.3.4:51820" := by
  decide +kernel

theorem endpointTexts_firstPeer (publicKey : WireguardKey) :
    endpointTexts (firstPeer publicKey) = [" 1.2.3.4:51820"] := by
  obtain ⟨htext, hpeer, hendpoint⟩ := fixed_texts
  obtain ⟨hpublic, hpublic'⟩ := endpointText_keyLine true
    (show "PublicKey".toList = 'P' :: "ublicKey".toList by decide) publicKey
  simp [endpointTexts, firstPeer, outputs, htext, hpeer, hendpoint, hpublic, hpublic']

theorem publicKeys_of (publicKey : WireguardKey) :
    valuesOf "peer" "publickey" (firstPeer publicKey) =
        [String.ofList (Base64.encode publicKey.toList)] ∧
      valuesOf "peer" "publickey" (secondPeer publicKey) =
        [String.ofList (Base64.encode publicKey.toList)] := by
  obtain ⟨hpeer, hendpoint, hname, hkey⟩ := fixed_events
  simp [valuesOf, firstPeer, secondPeer, outputs, nextName, valueOf, hpeer, hendpoint, hname, hkey,
    confEvent_keyLine plain_publicKey]

theorem lwoScan_of (hstandard : Rfc4648 standard) (privateKey publicKey otherKey : WireguardKey) :
    (interfacePart privateKey ++ firstPeer publicKey).foldlM (lwoLine standard) {} =
        .ok ⟨some privateKey, some publicKey, "Peer"⟩ ∧
      (secondPeer otherKey).foldlM (lwoLine standard) ⟨some privateKey, some publicKey, "Peer"⟩ =
        .ok ⟨some privateKey, some otherKey, "Peer"⟩ := by
  obtain ⟨h1, h2, h3⟩ := confEvent_interface
  obtain ⟨h4, h5, h6, h7⟩ := fixed_events
  have hdecode : ∀ key : WireguardKey,
      decodeKey standard (String.ofList (Base64.encode key.toList)) = .ok key :=
    fun key => decodeKey_encode hstandard String.toList_ofList
  simp [interfacePart, firstPeer, secondPeer, List.foldlM_cons, lwoLine_event,
    confEvent_keyLine plain_privateKey, confEvent_keyLine plain_publicKey, h1, h2, h3, h4, h5, h6,
    h7, hdecode, Except.map, bind, Except.bind, pure, Except.pure]

theorem endpoint_of {confText : String} {privateKey publicKey : WireguardKey}
    {others : List (List String)}
    (h : confParts confText = [] :: interfacePart privateKey :: firstPeer publicKey :: others) :
    parsePeerEndpoint ScopedSocketAddr.parse confText = some (.v4 0x01020304 51820) := by
  have hinterface := endpointTexts_interface privateKey
  have hpeer := endpointTexts_firstPeer publicKey
  have htexts : (endpointTexts (lines confText)).head? = some " 1.2.3.4:51820" := by
    rw [← endpointTexts_parts, map_snd_tagged, h]
    simp [hinterface, hpeer, endpointTexts_nil]
  rw [parsePeerEndpoint, scanPeerEndpoint_eq]
  rw [endpointTexts] at htexts
  rw [htexts]
  decide +kernel

theorem onePeer_fits :
    RelayFits referenceEngine id (fun _ => .error "no network")
      (textOf [interfacePart (Vector.replicate 32 0), firstPeer (Vector.replicate 32 1)]) {} := by
  generalize Vector.replicate 32 (0 : UInt8) = privateKey
  generalize Vector.replicate 32 (1 : UInt8) = publicKey
  have hinterface := endpointTexts_interface privateKey
  have hfirst := endpointTexts_firstPeer publicKey
  obtain ⟨hscan, -⟩ := lwoScan_of referenceEngine_rfc4648 privateKey publicKey publicKey
  have hwritten : ∀ part ∈ [interfacePart privateKey, firstPeer publicKey], WrittenPart part := by
    simp [written_interface, written_peers]
  have hparts := confParts_textOf (by simp) hwritten
  have hkeys : parseLwoKeys referenceEngine id
      (textOf [interfacePart privateKey, firstPeer publicKey]) = .ok ⟨privateKey, publicKey⟩ := by
    rw [parseLwoKeys, lines_textOf (by simp) hwritten, List.flatten_cons, List.flatten_cons,
      List.flatten_nil, List.append_nil, hscan]
    rfl
  apply (relay_fits_iff referenceEngine referenceEngine_rfc4648 id (fun _ => .error "no network")
    _ {} rfl ((validate_issues_nil_iff rfl).mpr ⟨⟨_, hkeys⟩, _, endpoint_of hparts⟩)).mpr
  refine ⟨[[], interfacePart privateKey], firstPeer publicKey, [], hparts, ?_, ?_, ?_, by simp⟩
  · simp [hinterface, endpointTexts_nil]
  · simp [hfirst]
  · simp [(publicKeys_of publicKey).1]

/-- A second peer: its key is used with the endpoint of the first. -/
theorem twoPeers_not_fits :
    ¬∀ standard, Rfc4648 standard → ∀ derivePublicKey parseNet confText cfg,
      cfg.lwo.bind LwoTransportConfig.remoteUdp = none →
      (validate standard derivePublicKey confText cfg).issues = [] →
      RelayFits standard derivePublicKey parseNet confText cfg := by
  intro h
  have privateKey : WireguardKey := Vector.replicate 32 0
  have publicKey : WireguardKey := Vector.replicate 32 1
  have otherKey : WireguardKey := Vector.replicate 32 2
  have hinterface := endpointTexts_interface privateKey
  have hfirst := endpointTexts_firstPeer publicKey
  obtain ⟨hscan, hrest⟩ := lwoScan_of referenceEngine_rfc4648 privateKey publicKey otherKey
  have hwritten : ∀ part ∈ [interfacePart privateKey, firstPeer publicKey, secondPeer otherKey],
      WrittenPart part := by
    simp [written_interface, written_peers]
  have hparts := confParts_textOf (by simp) hwritten
  have hkeys : parseLwoKeys referenceEngine id
      (textOf [interfacePart privateKey, firstPeer publicKey, secondPeer otherKey]) =
        .ok ⟨privateKey, otherKey⟩ := by
    rw [parseLwoKeys, lines_textOf (by simp) hwritten, List.flatten_cons, List.flatten_cons,
      List.flatten_cons, List.flatten_nil, List.append_nil, ← List.append_assoc,
      FirstError.foldlM_append_ok _ hscan, hrest]
    rfl
  have htwo := h referenceEngine referenceEngine_rfc4648 id (fun _ => .error "no network")
    (textOf [interfacePart privateKey, firstPeer publicKey, secondPeer otherKey]) {} rfl
    ((validate_issues_nil_iff rfl).mpr ⟨⟨_, hkeys⟩, _, endpoint_of hparts⟩)
  obtain ⟨⟨keys, endpoint, remote, part, -, -, -, ⟨keyText, hkey, -⟩, ⟨text, htext, -⟩⟩, -⟩ := htwo
  -- The key stands in the third section of the text, the endpoint in the second.
  have hthird : part = 3 := by
    have hlast := getLast?_tagged.mpr ⟨[[], interfacePart privateKey, firstPeer publicKey],
      secondPeer otherKey, [], hparts, rfl, congrArg List.getLast? (publicKeys_of otherKey).2,
      by simp⟩
    rw [hkey] at hlast
    cases hlast
    rfl
  have hsecond : part = 2 := by
    have hhead := head?_tagged.mpr ⟨[[], interfacePart privateKey], firstPeer publicKey,
      [secondPeer otherKey], hparts, rfl, congrArg List.head? hfirst,
      by simp [hinterface, endpointTexts_nil]⟩
    rw [htext] at hhead
    cases hhead
    rfl
  omega

end Example
end RouteGuard.Lwo
