import RouteGuard.Awg.Params

/-! # The configuration as the driver stack reads it

`parse_conf_text` of `wgnt/config.rs`.  Slices of the source panic where they
leave the text or split a character; a call that panics is its own outcome. -/
set_option autoImplicit false
namespace RouteGuard

inductive WgntError where
  | config (message : String)
deriving DecidableEq, Repr

def WgntError.toString : WgntError → String
  | .config message => "invalid configuration: " ++ message

inductive Abort (E : Type) where
  | error (e : E)
  | panicked
deriving DecidableEq, Repr

abbrev WgntResult (A : Type) := Except (Abort WgntError) A

def wgntConfig {A : Type} (message : String) : WgntResult A := .error (.error (.config message))

/-! ## Keys -/

abbrev WireguardKey := Vector UInt8 32

theorem size_toArray_key {bytes : List UInt8} (h : bytes.length = 32) :
    bytes.toArray.size = 32 := by
  rw [List.size_toArray, h]

def b64Table : List Char :=
  "ABCDEFGHIJKLMNOPQRSTUVWXYZabcdefghijklmnopqrstuvwxyz0123456789+/".toList

/-- The loop of `decode_b64`: the bytes pushed, and `bits` bits of `buf` not yet pushed. -/
def decodeB64Loop (out : List UInt8) (buf bits : Nat) : List Char → WgntResult (List UInt8)
  | [] => .ok out
  | c :: rest =>
      if c = '=' then .ok out
      else
        match b64Table.idxOf? c with
        | none => wgntConfig ("invalid base64 char " ++ c.toString)
        | some val =>
            let buf := (buf <<< 6) ||| val
            let bits := bits + 6
            if 8 ≤ bits then
              decodeB64Loop (out ++ [UInt8.ofNat (buf >>> (bits - 8))])
                (buf &&& (2 ^ (bits - 8) - 1)) (bits - 8) rest
            else decodeB64Loop out buf bits rest

def decodeB64 (s : String) : WgntResult (List UInt8) :=
  decodeB64Loop [] 0 0 (s.toList.filter fun c => !isWhitespace c)

def decodeKey (s : String) : WgntResult WireguardKey :=
  match decodeB64 (trim s) with
  | .error e => .error e
  | .ok bytes =>
      if h : bytes.length = 32 then .ok ⟨bytes.toArray, size_toArray_key h⟩
      else wgntConfig "key must be 32 bytes"

/-! ## Endpoints and networks -/

/-- `&s[end + 2..]`, given what stands behind the bracket at `end`. -/
def afterNextByte : List Char → WgntResult String
  | [] => .error .panicked
  | c :: rest => if c.utf8Size = 1 then .ok (String.ofList rest) else .error .panicked

def parseBracketed (s : String) : WgntResult SocketAddr :=
  match s.toList.span fun c => c != ']' with
  | (_, []) => wgntConfig "bad ipv6 endpoint"
  | (before, _ :: behind) =>
      match IpAddr.parse (String.ofList (before.drop 1)) with
      | none => wgntConfig "endpoint ip: invalid IP address syntax"
      | some ip =>
          match afterNextByte behind with
          | .error e => .error e
          | .ok portText =>
              match parseU16 portText with
              | .error e => wgntConfig ("endpoint port: " ++ e.toString)
              | .ok port => .ok ⟨ip, port⟩

/-- `parse_endpoint`; a scope is read by neither branch. -/
def parseEndpoint (s : String) : WgntResult SocketAddr :=
  if startsWith s "[" then parseBracketed s
  else
    match SocketAddr.parse s with
    | some endpoint => .ok endpoint
    | none => wgntConfig "endpoint: invalid socket address syntax"

section Parse
variable (parseNet : String → Except String IpNet)

def parseIpnet (s : String) : WgntResult IpNet :=
  match parseNet s with
  | .ok net => .ok net
  | .error e => wgntConfig ("invalid cidr " ++ s ++ ": " ++ e)

def parseIpnets (val : String) : WgntResult (List IpNet) :=
  (splitOnChar ',' val).mapM fun cidr => parseIpnet parseNet (trim cidr)

def parseDns (val : String) : WgntResult (List IpAddr) :=
  (splitOnChar ',' val).mapM fun dns =>
    match IpAddr.parse (trim dns) with
    | some ip => .ok ip
    | none => wgntConfig "dns: invalid IP address syntax"

/-! ## Sections and keys -/

@[ext]
structure ParsedPeer where
  publicKey : Option WireguardKey := none
  presharedKey : Option WireguardKey := none
  endpoint : Option SocketAddr := none
  allowedIps : List IpNet := []
  persistentKeepalive : Option UInt16 := none
deriving DecidableEq

structure ParsedConf where
  privateKey : Option WireguardKey := none
  listenPort : Option UInt16 := none
  addresses : List IpNet := []
  dns : List IpAddr := []
  mtu : Option UInt16 := none
  peers : List ParsedPeer := []
deriving DecidableEq

def ParsedConf.setKey (conf : ParsedConf) (key val : String) : WgntResult ParsedConf :=
  if key = "privatekey" then
    (decodeKey val).map fun decoded => { conf with privateKey := some decoded }
  else if key = "listenport" then .ok { conf with listenPort := (parseU16 val).toOption }
  else if key = "address" then
    (parseIpnets parseNet val).map fun nets => { conf with addresses := conf.addresses ++ nets }
  else if key = "dns" then
    (parseDns val).map fun servers => { conf with dns := conf.dns ++ servers }
  else if key = "mtu" then .ok { conf with mtu := (parseU16 val).toOption }
  else .ok conf

def ParsedPeer.setKey (peer : ParsedPeer) (key val : String) : WgntResult ParsedPeer :=
  if key = "publickey" then
    (decodeKey val).map fun decoded => { peer with publicKey := some decoded }
  else if key = "presharedkey" then
    (decodeKey val).map fun decoded => { peer with presharedKey := some decoded }
  else if key = "endpoint" then
    (parseEndpoint val).map fun endpoint => { peer with endpoint := some endpoint }
  else if key = "allowedips" then
    (parseIpnets parseNet val).map fun nets => { peer with allowedIps := peer.allowedIps ++ nets }
  else if key = "persistentkeepalive" then
    .ok { peer with persistentKeepalive := (parseU16 val).toOption }
  else .ok peer

structure ConfScan where
  conf : ParsedConf := {}
  sectionName : String := ""
  curPeer : Option ParsedPeer := none
deriving DecidableEq

def ConfScan.closed (scan : ConfScan) : ParsedConf :=
  { scan.conf with peers := scan.conf.peers ++ scan.curPeer.toList }

/-- `&line[1..line.len() - 1]` of a section line, whose two ends are brackets. -/
def sectionOf (line : String) : String := String.ofList ((line.toList.drop 1).dropLast)

/-- Any key of a peer section opens the peer. -/
def confLine (scan : ConfScan) (line : String) : WgntResult ConfScan :=
  let line := trim (beforeComment line)
  if line = "" then .ok scan
  else if isSectionLine line then
    .ok { conf := scan.closed, sectionName := sectionOf line, curPeer := none }
  else
    match splitOnce '=' line with
    | none => .ok scan
    | some (k, v) =>
        let key := toAsciiLowercase (trim k)
        let val := trim v
        if toAsciiLowercase scan.sectionName = "interface" then
          (scan.conf.setKey parseNet key val).map fun conf => { scan with conf := conf }
        else if toAsciiLowercase scan.sectionName = "peer" then
          ((scan.curPeer.getD {}).setKey parseNet key val).map fun peer =>
            { scan with curPeer := some peer }
        else .ok scan

def parseConfText (text : String) : WgntResult ParsedConf :=
  match (lines text).foldlM (confLine parseNet) {} with
  | .error e => .error e
  | .ok scan =>
      if scan.closed.privateKey.isNone then wgntConfig "missing PrivateKey" else .ok scan.closed

end Parse

example : parseEndpoint "[::1]" = .error .panicked := by decide

end RouteGuard
