import RouteGuard.Core.BytePositions
import RouteGuard.Lib.FirstError
import RouteGuard.Platform.ConfSections

/-! # The driver stack's parser on bytes

`parse_conf_text` slices at byte positions and shifts 32-bit words.  Written
with every slice and every shift checked it is the parser of `WgConf`, and it
panics in one place: the port behind a bracketed address. -/
set_option autoImplicit false
namespace RouteGuard

/-! ## Checked steps -/

def panicked {A : Type} : WgntResult A := .error .panicked

/-- `decode_b64` with `u32` steps: no bit is shifted out, and no shift is 32 or more. -/
def decodeB64LoopBytes (out : List UInt8) (buf bits : Nat) : List Char → WgntResult (List UInt8)
  | [] => .ok out
  | c :: rest =>
      if c = '=' then .ok out
      else
        match b64Table.idxOf? c with
        | none => wgntConfig ("invalid base64 char " ++ c.toString)
        | some val =>
            if 2 ^ 32 ≤ buf <<< 6 then panicked
            else
              let buf := (buf <<< 6) ||| val
              let bits := bits + 6
              if 8 ≤ bits then
                if 32 ≤ bits - 8 ∨ 1 <<< (bits - 8) = 0 then panicked
                else
                  decodeB64LoopBytes (out ++ [UInt8.ofNat (buf >>> (bits - 8))])
                    (buf &&& (1 <<< (bits - 8) - 1)) (bits - 8) rest
              else decodeB64LoopBytes out buf bits rest

def decodeKeyBytes (s : String) : WgntResult WireguardKey :=
  match decodeB64LoopBytes [] 0 0 ((trim s).toList.filter fun c => !isWhitespace c) with
  | .error e => .error e
  | .ok bytes =>
      if h : bytes.length = 32 then .ok ⟨bytes.toArray, size_toArray_key h⟩
      else wgntConfig "key must be 32 bytes"

def parseBracketedBytes (s : String) : WgntResult SocketAddr :=
  match findChar ']' s.toList with
  | none => wgntConfig "bad ipv6 endpoint"
  | some stop =>
      match slice s.toList 1 stop with
      | none => panicked
      | some inner =>
          match IpAddr.parse (String.ofList inner) with
          | none => wgntConfig "endpoint ip: invalid IP address syntax"
          | some ip =>
              match sliceFrom s.toList (stop + 2) with
              | none => panicked
              | some portText =>
                  match parseU16 (String.ofList portText) with
                  | .error e => wgntConfig ("endpoint port: " ++ e.toString)
                  | .ok port => .ok ⟨ip, port⟩

def parseEndpointBytes (s : String) : WgntResult SocketAddr :=
  if startsWith s "[" then parseBracketedBytes s
  else
    match SocketAddr.parse s with
    | some endpoint => .ok endpoint
    | none => wgntConfig "endpoint: invalid socket address syntax"

def sectionOfBytes (line : String) : WgntResult String :=
  match slice line.toList 1 (utf8Len line.toList - 1) with
  | none => panicked
  | some name => .ok (String.ofList name)

section Parse
variable (parseNet : String → Except String IpNet)

def ParsedConf.setKeyBytes (conf : ParsedConf) (key val : String) : WgntResult ParsedConf :=
  if key = "privatekey" then
    (decodeKeyBytes val).map fun decoded => { conf with privateKey := some decoded }
  else conf.setKey parseNet key val

def ParsedPeer.setKeyBytes (peer : ParsedPeer) (key val : String) : WgntResult ParsedPeer :=
  if key = "publickey" then
    (decodeKeyBytes val).map fun decoded => { peer with publicKey := some decoded }
  else if key = "presharedkey" then
    (decodeKeyBytes val).map fun decoded => { peer with presharedKey := some decoded }
  else if key = "endpoint" then
    (parseEndpointBytes val).map fun endpoint => { peer with endpoint := some endpoint }
  else peer.setKey parseNet key val

def confLineBytes (scan : ConfScan) (line : String) : WgntResult ConfScan :=
  let line := trim (beforeComment line)
  if line = "" then .ok scan
  else if isSectionLine line then
    (sectionOfBytes line).map fun name =>
      { conf := scan.closed, sectionName := name, curPeer := none }
  else
    match splitOnce '=' line with
    | none => .ok scan
    | some (k, v) =>
        let key := toAsciiLowercase (trim k)
        let val := trim v
        if toAsciiLowercase scan.sectionName = "interface" then
          (scan.conf.setKeyBytes parseNet key val).map fun conf => { scan with conf := conf }
        else if toAsciiLowercase scan.sectionName = "peer" then
          ((scan.curPeer.getD {}).setKeyBytes parseNet key val).map fun peer =>
            { scan with curPeer := some peer }
        else .ok scan

def parseConfTextBytes (text : String) : WgntResult ParsedConf :=
  match (lines text).foldlM (confLineBytes parseNet) {} with
  | .error e => .error e
  | .ok scan =>
      if scan.closed.privateKey.isNone then wgntConfig "missing PrivateKey" else .ok scan.closed

end Parse

/-! ## The accumulator stays below eight bits -/

theorem b64Table_lt {c : Char} {val : Nat} (h : b64Table.idxOf? c = some val) : val < 64 :=
  (List.idxOf?_eq_some_iff.mp h).1

/-- `bits` bits are in `buf`, and fewer than eight. -/
theorem decodeB64LoopBytes_eq (out : List UInt8) (buf bits : Nat) (chars : List Char)
    (hbits : bits < 8) (hbuf : buf < 2 ^ bits) :
    decodeB64LoopBytes out buf bits chars = decodeB64Loop out buf bits chars := by
  induction chars generalizing out buf bits with
  | nil => rfl
  | cons c rest ih =>
      rw [decodeB64LoopBytes, decodeB64Loop]
      by_cases hpad : c = '='
      · rw [if_pos hpad, if_pos hpad]
      · rw [if_neg hpad, if_neg hpad]
        cases hval : b64Table.idxOf? c with
        | none => rfl
        | some val =>
            have hval64 := b64Table_lt hval
            have hpow : 2 ^ bits ≤ 2 ^ 7 := Nat.pow_le_pow_right (by omega) (by omega)
            have hshift : buf <<< 6 = buf * 64 := Nat.shiftLeft_eq buf 6
            have hsum : buf <<< 6 ||| val = buf * 64 + val := by
              rw [← Nat.shiftLeft_add_eq_or_of_lt (by omega), hshift]
            have hgrown : buf * 64 + val < 2 ^ (bits + 6) := by
              rw [Nat.pow_add]
              omega
            dsimp only
            rw [if_neg (by omega), hsum]
            by_cases hfull : 8 ≤ bits + 6
            · have hmask : 1 <<< (bits + 6 - 8) = 2 ^ (bits + 6 - 8) := Nat.one_shiftLeft _
              have hpos : 0 < 2 ^ (bits + 6 - 8) := Nat.two_pow_pos _
              rw [if_pos hfull, if_pos hfull, hmask, if_neg (by omega)]
              apply ih _ _ _ (by omega)
              rw [Nat.and_two_pow_sub_one_eq_mod]
              exact Nat.mod_lt _ hpos
            · rw [if_neg hfull, if_neg hfull]
              exact ih _ _ _ (by omega) hgrown

theorem decodeKeyBytes_eq (s : String) : decodeKeyBytes s = decodeKey s := by
  have hloop : decodeB64LoopBytes [] 0 0 ((trim s).toList.filter fun c => !isWhitespace c) =
      decodeB64 (trim s) :=
    decodeB64LoopBytes_eq _ _ _ _ (by omega) (by omega)
  cases hread : decodeB64 (trim s) with
  | error e => simp only [decodeKeyBytes, decodeKey, hloop, hread]
  | ok bytes => simp only [decodeKeyBytes, decodeKey, hloop, hread]

/-! ## The slices -/

/-- A section line has two different ends, so its slice keeps what stands between them. -/
theorem sectionOfBytes_eq {line : String} (h : isSectionLine line = true) :
    sectionOfBytes line = .ok (sectionOf line) := by
  obtain ⟨hstart, hstop⟩ := Bool.and_eq_true_iff.mp h
  obtain ⟨rest, hrest⟩ := startsWith_bracket hstart
  obtain ⟨front, hfront⟩ := List.isSuffixOf_iff_suffix.mp hstop
  have hends : ∃ name, line.toList = ['['] ++ name ++ [']'] := by
    rw [hrest] at hfront
    cases front with
    | nil => cases hfront
    | cons c name =>
        obtain ⟨rfl, hname⟩ := List.cons.inj hfront
        exact ⟨name, by rw [hrest, ← hname]; rfl⟩
  obtain ⟨name, hname⟩ := hends
  have hstop : utf8Len line.toList - 1 = utf8Len (['['] ++ name) := by
    rw [hname, utf8Len_append (['['] ++ name)]
    rfl
  have hone : utf8Len ['['] = 1 := rfl
  have hslice := slice_append ['['] name [']']
  rw [← hname, ← hstop, hone] at hslice
  have hname' : (line.toList.drop 1).dropLast = name := by
    rw [hname, List.append_assoc, List.singleton_append, List.drop_one, List.tail_cons,
      List.dropLast_concat]
  rw [sectionOfBytes, hslice, sectionOf, hname']

theorem afterNextByte_error {behind : List Char} {e : Abort WgntError}
    (h : afterNextByte behind = .error e) : e = .panicked := by
  cases behind with
  | nil =>
      cases h
      rfl
  | cons c rest =>
      rw [afterNextByte] at h
      split_ifs at h
      cases h
      rfl

/-- The slice behind a bracket skips one byte more, whatever stands there. -/
theorem sliceFrom_afterNextByte (front behind : List Char) :
    (sliceFrom (front ++ ']' :: behind) (utf8Len front + 2)).map String.ofList =
      (afterNextByte behind).toOption := by
  have hbehind : sliceFrom (']' :: behind) 2 = sliceFrom behind 1 := by
    rw [sliceFrom, if_pos (by decide)]
    rfl
  rw [sliceFrom_add, hbehind]
  cases behind with
  | nil => rfl
  | cons c rest =>
      rw [sliceFrom, afterNextByte]
      by_cases hone : c.utf8Size = 1
      · rw [if_pos (by omega), if_pos hone, hone, sliceFrom]
        rfl
      · have hpos := Char.utf8Size_pos c
        rw [if_neg (by omega), if_neg hone]
        rfl

theorem parseBracketedBytes_eq {s : String} (h : startsWith s "[" = true) :
    parseBracketedBytes s = parseBracketed s := by
  obtain ⟨rest, hrest⟩ := startsWith_bracket h
  rw [parseBracketedBytes, parseBracketed, findChar_span]
  have hcut := List.takeWhile_append_dropWhile (p := fun d => d != ']') (l := s.toList)
  rw [List.span_eq_takeWhile_dropWhile]
  have hfront : ∃ inner, s.toList.takeWhile (fun d => d != ']') = ['['] ++ inner := by
    rw [hrest]
    exact ⟨_, List.takeWhile_cons_of_pos (by decide)⟩
  obtain ⟨inner, hinner⟩ := hfront
  cases hdrop : s.toList.dropWhile fun d => d != ']' with
  | nil => rfl
  | cons c behind =>
      have hc : c = ']' := by
        have hhead := List.head?_dropWhile_not (fun d => d != ']') s.toList
        rw [hdrop, List.head?_cons] at hhead
        simpa using hhead
      subst hc
      rw [hdrop, hinner] at hcut
      have hslice : slice s.toList 1 (utf8Len (['['] ++ inner)) = some inner := by
        rw [← hcut]
        exact slice_append ['['] inner (']' :: behind)
      have hport := sliceFrom_afterNextByte (['['] ++ inner) behind
      rw [hcut] at hport
      dsimp only
      rw [hinner, hslice]
      dsimp only
      rw [show (['['] ++ inner).drop 1 = inner from rfl]
      cases IpAddr.parse (String.ofList inner) with
      | none => rfl
      | some ip =>
          dsimp only
          cases hafter : afterNextByte behind with
          | error e =>
              rw [hafter, Except.toOption, Option.map_eq_none_iff] at hport
              rw [hport, afterNextByte_error hafter]
              rfl
          | ok portText =>
              rw [hafter, Except.toOption, Option.map_eq_some_iff] at hport
              obtain ⟨chars, hchars, rfl⟩ := hport
              cases hread : parseU16 (String.ofList chars) with
              | error e => simp only [hchars, hread]
              | ok port => simp only [hchars, hread]

theorem parseEndpointBytes_eq (s : String) : parseEndpointBytes s = parseEndpoint s := by
  rw [parseEndpointBytes, parseEndpoint]
  by_cases hbracket : startsWith s "[" = true
  · rw [if_pos hbracket, if_pos hbracket, parseBracketedBytes_eq hbracket]
  · exact (if_neg hbracket).trans (if_neg hbracket).symm

/-! ## The two parsers -/

section Equal
variable (parseNet : String → Except String IpNet)

theorem ParsedConf.setKeyBytes_eq (conf : ParsedConf) (key val : String) :
    conf.setKeyBytes parseNet key val = conf.setKey parseNet key val := by
  rw [ParsedConf.setKeyBytes, decodeKeyBytes_eq]
  split
  · rename_i hkey
    rw [ParsedConf.setKey, if_pos hkey]
  · rfl

theorem ParsedPeer.setKeyBytes_eq (peer : ParsedPeer) (key val : String) :
    peer.setKeyBytes parseNet key val = peer.setKey parseNet key val := by
  rw [ParsedPeer.setKeyBytes, decodeKeyBytes_eq, parseEndpointBytes_eq, ParsedPeer.setKey]
  split_ifs <;> rfl

theorem confLineBytes_eq (scan : ConfScan) (line : String) :
    confLineBytes parseNet scan line = confLine parseNet scan line := by
  rw [confLineBytes, confLine]
  dsimp only
  by_cases hempty : trim (beforeComment line) = ""
  · rw [if_pos hempty, if_pos hempty]
  · rw [if_neg hempty, if_neg hempty]
    by_cases hsection : isSectionLine (trim (beforeComment line)) = true
    · rw [if_pos hsection, if_pos hsection, sectionOfBytes_eq hsection]
      rfl
    · rw [if_neg hsection, if_neg hsection]
      cases splitOnce '=' (trim (beforeComment line)) with
      | none => rfl
      | some pair =>
          dsimp only
          rw [ParsedConf.setKeyBytes_eq, ParsedPeer.setKeyBytes_eq]

theorem parseConfTextBytes_eq (text : String) :
    parseConfTextBytes parseNet text = parseConfText parseNet text := by
  have hline : confLineBytes parseNet = confLine parseNet := by
    funext scan line
    exact confLineBytes_eq parseNet scan line
  cases hscan : (lines text).foldlM (confLine parseNet) {} with
  | error e => simp only [parseConfTextBytes, parseConfText, hline, hscan]
  | ok scan => simp only [parseConfTextBytes, parseConfText, hline, hscan]

end Equal

/-! ## Where the parser panics -/

open FirstError

/-- An address in brackets with nothing, or a character of several bytes, behind it. -/
def PortMissing (val : String) : Prop :=
  ∃ inner behind, val.toList = '[' :: (inner ++ ']' :: behind) ∧ ']' ∉ inner ∧
    (IpAddr.parse (String.ofList inner)).isSome ∧ ∀ c ∈ behind.head?, c.utf8Size ≠ 1

section Readers

theorem decodeB64Loop_ne_panicked (out : List UInt8) (buf bits : Nat) (chars : List Char) :
    decodeB64Loop out buf bits chars ≠ .error .panicked := by
  induction chars generalizing out buf bits with
  | nil => intro h; cases h
  | cons c rest ih =>
      rw [decodeB64Loop]
      split_ifs
      · intro h; cases h
      · split
        · intro h; cases h
        · dsimp only
          split_ifs
          · exact ih _ _ _
          · exact ih _ _ _

theorem decodeKey_ne_panicked (s : String) : decodeKey s ≠ .error .panicked := by
  rw [decodeKey]
  cases hbytes : decodeB64 (trim s) with
  | error e =>
      rintro h
      cases h
      exact decodeB64Loop_ne_panicked _ _ _ _ hbytes
  | ok bytes =>
      dsimp only
      split_ifs <;> intro h <;> cases h

theorem parseIpnets_ne_panicked (parseNet : String → Except String IpNet) (val : String) :
    parseIpnets parseNet val ≠ .error .panicked := by
  intro h
  obtain ⟨cidr, _, hcidr⟩ := mapM_error h
  rw [parseIpnet] at hcidr
  split at hcidr <;> cases hcidr

theorem parseDns_ne_panicked (val : String) : parseDns val ≠ .error .panicked := by
  intro h
  obtain ⟨dns, _, hdns⟩ := mapM_error h
  split at hdns <;> cases hdns

theorem span_bracket {inner behind : List Char} (h : ']' ∉ inner) :
    ('[' :: (inner ++ ']' :: behind)).span (fun d => d != ']') = ('[' :: inner, ']' :: behind) := by
  have hall : ∀ c ∈ '[' :: inner, (c != ']') = true := by
    intro c hc
    rcases List.mem_cons.mp hc with rfl | hc
    · decide
    · rw [bne_iff_ne]
      rintro rfl
      exact h hc
  rw [← List.cons_append, List.span_eq_takeWhile_dropWhile,
    List.takeWhile_append_of_pos hall, List.dropWhile_append_of_pos hall,
    List.takeWhile_cons_of_neg (by decide), List.dropWhile_cons_of_neg (by decide),
    List.append_nil]

theorem afterNextByte_panicked_iff (behind : List Char) :
    afterNextByte behind = .error .panicked ↔ ∀ c ∈ behind.head?, c.utf8Size ≠ 1 := by
  cases behind with
  | nil => simp [afterNextByte]
  | cons c rest => simp [afterNextByte]

theorem parseEndpoint_panicked_iff (val : String) :
    parseEndpoint val = .error .panicked ↔ PortMissing val := by
  constructor
  · intro h
    rw [parseEndpoint] at h
    split_ifs at h with hbracket
    · obtain ⟨rest, hrest⟩ := startsWith_bracket hbracket
      by_cases hclosed : ']' ∈ rest
      · obtain ⟨inner, behind, hcut, hinner⟩ := List.eq_append_cons_of_mem hclosed
        rw [parseBracketed, hrest, hcut, span_bracket hinner] at h
        dsimp only at h
        rw [List.drop_one, List.tail_cons] at h
        cases hip : IpAddr.parse (String.ofList inner) with
        | none =>
            rw [hip] at h
            cases h
        | some ip =>
            rw [hip] at h
            dsimp only at h
            refine ⟨inner, behind, by rw [hrest, hcut], hinner, by rw [hip]; rfl, ?_⟩
            apply (afterNextByte_panicked_iff behind).mp
            cases hafter : afterNextByte behind with
            | error e => rw [afterNextByte_error hafter]
            | ok portText =>
                rw [hafter] at h
                dsimp only at h
                split at h <;> cases h
      · have hall : ∀ c ∈ val.toList, (c != ']') = true := by
          intro c hc
          rw [hrest] at hc
          rw [bne_iff_ne]
          rintro rfl
          rcases List.mem_cons.mp hc with hc | hc
          · cases hc
          · exact hclosed hc
        rw [parseBracketed, List.span_eq_takeWhile_dropWhile,
          List.dropWhile_eq_nil_iff.mpr hall] at h
        cases h
    · split at h <;> cases h
  · rintro ⟨inner, behind, hval, hinner, hip, hport⟩
    obtain ⟨ip, hip⟩ := Option.isSome_iff_exists.mp hip
    have hbracket : startsWith val "[" = true := by
      rw [startsWith, hval]
      rfl
    rw [parseEndpoint, if_pos hbracket, parseBracketed, hval, span_bracket hinner]
    dsimp only
    rw [List.drop_one, List.tail_cons, hip]
    dsimp only
    rw [(afterNextByte_panicked_iff behind).mpr hport]

end Readers

section Panics
variable (parseNet : String → Except String IpNet)

/-- The value of an entry reads without error in a section of this name. -/
@[mk_iff]
structure Readable (name key val : String) : Prop where
  privateKey : name = "interface" → key = "privatekey" → ∃ decoded, decodeKey val = .ok decoded
  address : name = "interface" → key = "address" →
    ∀ cidr ∈ splitOnChar ',' val, ∃ net, parseNet (trim cidr) = .ok net
  dns : name = "interface" → key = "dns" →
    ∀ dns ∈ splitOnChar ',' val, (IpAddr.parse (trim dns)).isSome
  peerKey : name = "peer" → key = "publickey" ∨ key = "presharedkey" →
    ∃ decoded, decodeKey val = .ok decoded
  endpoint : name = "peer" → key = "endpoint" → ∃ endpoint, parseEndpoint val = .ok endpoint
  allowedIps : name = "peer" → key = "allowedips" →
    ∀ cidr ∈ splitOnChar ',' val, ∃ net, parseNet (trim cidr) = .ok net

/-- An endpoint whose port is missing stands in a peer section, behind entries that all read
without error. -/
inductive ReachesMissingPort : String → List ConfEvent → Prop where
  | here {val : String} {rest : List ConfEvent} (h : PortMissing val) :
      ReachesMissingPort "peer" (.entry "endpoint" val :: rest)
  | header {name next : String} {rest : List ConfEvent}
      (h : ReachesMissingPort (toAsciiLowercase next) rest) :
      ReachesMissingPort name (.header next :: rest)
  | entry {name key val : String} {rest : List ConfEvent} (hread : Readable parseNet name key val)
      (h : ReachesMissingPort name rest) : ReachesMissingPort name (.entry key val :: rest)

theorem parseIpnets_isOk_iff (val : String) :
    (∃ nets, parseIpnets parseNet val = .ok nets) ↔
      ∀ cidr ∈ splitOnChar ',' val, ∃ net, parseNet (trim cidr) = .ok net := by
  rw [parseIpnets, mapM_isOk_iff]
  have hone : ∀ cidr, (∃ net, parseIpnet parseNet (trim cidr) = .ok net) ↔
      ∃ net, parseNet (trim cidr) = .ok net := by
    intro cidr
    rw [parseIpnet]
    cases parseNet (trim cidr) with
    | error e => simp [wgntConfig]
    | ok net => simp
  simp only [hone]

theorem parseDns_isOk_iff (val : String) :
    (∃ servers, parseDns val = .ok servers) ↔
      ∀ dns ∈ splitOnChar ',' val, (IpAddr.parse (trim dns)).isSome := by
  rw [parseDns, mapM_isOk_iff]
  apply forall₂_congr
  intro dns _
  cases IpAddr.parse (trim dns) with
  | none => simp [wgntConfig]
  | some ip => simp

theorem ParsedConf.setKey_isOk_iff (conf : ParsedConf) (key val : String) :
    (∃ conf', conf.setKey parseNet key val = .ok conf') ↔
      Readable parseNet "interface" key val := by
  rw [readable_iff, ParsedConf.setKey]
  split_ifs with hkey hkey hkey hkey hkey
  · subst hkey
    simp [map_isOk_iff]
  · subst hkey
    simp
  · subst hkey
    simp [map_isOk_iff, parseIpnets_isOk_iff]
  · subst hkey
    simp [map_isOk_iff, parseDns_isOk_iff]
  · subst hkey
    simp
  · simp [*]

theorem ParsedPeer.setKey_isOk_iff (peer : ParsedPeer) (key val : String) :
    (∃ peer', peer.setKey parseNet key val = .ok peer') ↔ Readable parseNet "peer" key val := by
  rw [readable_iff, ParsedPeer.setKey]
  split_ifs with hkey hkey hkey hkey hkey
  · subst hkey
    simp [map_isOk_iff]
  · subst hkey
    simp [map_isOk_iff]
  · subst hkey
    simp [map_isOk_iff]
  · subst hkey
    simp [map_isOk_iff, parseIpnets_isOk_iff]
  · subst hkey
    simp
  · simp [*]

theorem readable_elsewhere {name key val : String} (hinterface : name ≠ "interface")
    (hpeer : name ≠ "peer") : Readable parseNet name key val := by
  rw [readable_iff]
  simp [hinterface, hpeer]

theorem ParsedConf.setKey_ne_panicked (conf : ParsedConf) (key val : String) :
    conf.setKey parseNet key val ≠ .error .panicked := by
  rw [ParsedConf.setKey]
  split_ifs
  · rw [Ne, map_eq_error_iff]
    exact decodeKey_ne_panicked val
  · intro h; cases h
  · rw [Ne, map_eq_error_iff]
    exact parseIpnets_ne_panicked parseNet val
  · rw [Ne, map_eq_error_iff]
    exact parseDns_ne_panicked val
  · intro h; cases h
  · intro h; cases h

theorem ParsedPeer.setKey_panicked_iff (peer : ParsedPeer) (key val : String) :
    peer.setKey parseNet key val = .error .panicked ↔ key = "endpoint" ∧ PortMissing val := by
  rw [ParsedPeer.setKey]
  split_ifs with hkey hkey hkey hkey hkey
  · subst hkey
    simp [map_eq_error_iff, decodeKey_ne_panicked]
  · subst hkey
    simp [map_eq_error_iff, decodeKey_ne_panicked]
  · subst hkey
    simp [map_eq_error_iff, parseEndpoint_panicked_iff]
  · subst hkey
    simp [map_eq_error_iff, parseIpnets_ne_panicked]
  · subst hkey
    simp
  · simp [*]

theorem reaches_header_iff (name next : String) (rest : List ConfEvent) :
    ReachesMissingPort parseNet name (.header next :: rest) ↔
      ReachesMissingPort parseNet (toAsciiLowercase next) rest := by
  constructor
  · intro h
    cases h with
    | header h => exact h
  · exact .header

theorem reaches_entry_iff (name key val : String) (rest : List ConfEvent) :
    ReachesMissingPort parseNet name (.entry key val :: rest) ↔
      (name = "peer" ∧ key = "endpoint" ∧ PortMissing val) ∨
      (Readable parseNet name key val ∧ ReachesMissingPort parseNet name rest) := by
  constructor
  · intro h
    cases h with
    | here h => exact Or.inl ⟨rfl, rfl, h⟩
    | entry hread h => exact Or.inr ⟨hread, h⟩
  · rintro (⟨rfl, rfl, h⟩ | ⟨hread, h⟩)
    · exact .here h
    · exact .entry hread h

/-- What a step makes of an entry: it panics, it fails, or the entry is read. -/
theorem confStep_entry (scan : ConfScan) (key val : String) :
    (confStep parseNet scan (.entry key val) = .error .panicked ↔
      toAsciiLowercase scan.sectionName = "peer" ∧ key = "endpoint" ∧ PortMissing val) ∧
    ((∃ scan', confStep parseNet scan (.entry key val) = .ok scan') ↔
      Readable parseNet (toAsciiLowercase scan.sectionName) key val) ∧
    ∀ scan', confStep parseNet scan (.entry key val) = .ok scan' →
      scan'.sectionName = scan.sectionName := by
  rw [confStep]
  split_ifs with hinterface hpeer
  · rw [hinterface, map_eq_error_iff, map_isOk_iff, ParsedConf.setKey_isOk_iff]
    refine ⟨?_, Iff.rfl, ?_⟩
    · simp [ParsedConf.setKey_ne_panicked]
    · intro scan' hscan
      cases hset : scan.conf.setKey parseNet key val with
      | error e =>
          rw [hset] at hscan
          cases hscan
      | ok conf =>
          rw [hset] at hscan
          cases hscan
          rfl
  · rw [hpeer, map_eq_error_iff, map_isOk_iff, ParsedPeer.setKey_isOk_iff,
      ParsedPeer.setKey_panicked_iff]
    refine ⟨?_, Iff.rfl, ?_⟩
    · simp
    · intro scan' hscan
      cases hset : (scan.curPeer.getD {}).setKey parseNet key val with
      | error e =>
          rw [hset] at hscan
          cases hscan
      | ok peer =>
          rw [hset] at hscan
          cases hscan
          rfl
  · refine ⟨?_, ?_, ?_⟩
    · simp [hpeer]
    · simp [readable_elsewhere parseNet hinterface hpeer]
    · intro scan' hscan
      cases hscan
      rfl

/-- The entries before the one that panics are read, and those after it are not looked at. -/
theorem foldlM_confStep_panicked_iff (events : List ConfEvent) (scan : ConfScan) :
    events.foldlM (confStep parseNet) scan = .error .panicked ↔
      ReachesMissingPort parseNet (toAsciiLowercase scan.sectionName) events := by
  induction events generalizing scan with
  | nil =>
      constructor
      · intro h
        cases h
      · generalize toAsciiLowercase scan.sectionName = name
        intro h
        cases h
  | cons event rest ih =>
      cases event with
      | header next =>
          have hstep : confStep parseNet scan (.header next) =
              .ok { conf := scan.closed, sectionName := next, curPeer := none } := rfl
          rw [foldlM_cons_ok _ hstep, ih, reaches_header_iff]
      | entry key val =>
          obtain ⟨hpanics, hreads, hname⟩ := confStep_entry parseNet scan key val
          rw [reaches_entry_iff, ← hpanics, ← hreads]
          cases hstep : confStep parseNet scan (.entry key val) with
          | error e =>
              rw [foldlM_cons_error _ hstep]
              simp
          | ok scan' =>
              rw [foldlM_cons_ok _ hstep, ih, hname scan' hstep]
              simp

/-- The parser panics exactly where it reaches an endpoint without a port. -/
theorem parseConfTextBytes_ne_panicked_iff (text : String) :
    parseConfTextBytes parseNet text ≠ .error .panicked ↔
      ¬ReachesMissingPort parseNet "" (confEvents text) := by
  have hfold := foldlM_confStep_panicked_iff parseNet (confEvents text) {}
  rw [show toAsciiLowercase ({} : ConfScan).sectionName = "" from rfl] at hfold
  rw [Ne, not_iff_not, ← hfold, parseConfTextBytes_eq, parseConfText_events]
  cases (confEvents text).foldlM (confStep parseNet) {} with
  | error e => simp
  | ok scan =>
      dsimp only
      split_ifs <;> simp [wgntConfig]

end Panics

theorem bracketed_endpoint_panics :
    ¬∀ parseNet text, parseConfTextBytes parseNet text ≠ .error .panicked := by
  intro h
  apply h (fun _ => .error "") "[Peer]\nEndpoint = [::1]\n"
  decide +kernel

end RouteGuard
