import RouteGuard.Core.TransportHints
import RouteGuard.Platform.WrittenConf

/-! # The readers of the peer endpoint

The transport layer, the driver's configuration and the permit of the network
lock each take the endpoint from the text with a scanner of their own.  Each
stops at one line; they agree if these lines carry one address. -/
set_option autoImplicit false
namespace RouteGuard

open Sections FirstError

/-! ## The readers -/

section Reader
variable {A : Type} (parseAddr : String → Option A)

/-- The loop of `parse_endpoint_from_config`, as built for Windows. -/
def scanConfigEndpoint : List String → Option A
  | [] => none
  | line :: rest =>
      let line := trim line
      if startsWith (toAsciiLowercase line) "endpoint" then
        match splitOnce '=' line with
        | some (_, v) => parseAddr (trim v)
        | none => scanConfigEndpoint rest
      else scanConfigEndpoint rest

def parseEndpointFromConfig (text : String) : Option A := scanConfigEndpoint parseAddr (lines text)

end Reader

def ParsedConf.firstEndpoint (conf : ParsedConf) : Option ScopedSocketAddr :=
  (conf.peers.head?.bind ParsedPeer.endpoint).map SocketAddr.scopeless

/-! ## The lines they stop at -/

def endpointValue (line : String) : Option String :=
  if startsWith (toAsciiLowercase (trim line)) "endpoint" then
    (splitOnce '=' (trim line)).map Prod.snd
  else none

/-- From a line `[Peer]`, with nothing behind it, up to the next line with a bracket. -/
def peerRegions (text : String) : List (List String) :=
  (parts isBracketLine (lines text)).filter fun region =>
    region.head?.any fun line => eqIgnoreAsciiCase (trim line) "[peer]"

def firstText (text : String) : Option String := ((lines text).filterMap endpointValue).head?

def regionText (text : String) : Option String :=
  ((peerRegions text).flatMap fun region => region.filterMap endpointValue).head?

def endpointEntry (entry : String × String) : Option String :=
  if entry.1 = "endpoint" then some entry.2 else none

/-- The last endpoint entry of the first section that makes a peer. -/
def configuredText (text : String) : Option String :=
  ((confParts text).find? fun part => decide (IsPeerBlock part)).bind fun part =>
    ((entriesOf part).filterMap endpointEntry).getLast?

/-- The three lines carry one address, or none carries any. -/
def OneEndpoint (text : String) : Prop :=
  ∃ address : Option ScopedSocketAddr,
    ((firstText text).bind fun v => ScopedSocketAddr.parse (trim v)) = address ∧
    ((regionText text).bind fun v => ScopedSocketAddr.parse (trim v)) = address ∧
    ((configuredText text).bind fun v => (parseEndpoint v).toOption.map SocketAddr.scopeless) =
      address

/-! ## What they read -/

theorem scanConfigEndpoint_eq {A : Type} (parseAddr : String → Option A)
    (confLines : List String) :
    scanConfigEndpoint parseAddr confLines =
      (confLines.filterMap endpointValue).head?.bind fun v => parseAddr (trim v) := by
  induction confLines with
  | nil => rfl
  | cons line rest ih =>
      rw [scanConfigEndpoint, List.filterMap_cons, endpointValue]
      by_cases hkey : startsWith (toAsciiLowercase (trim line)) "endpoint" = true
      · rw [if_pos hkey, if_pos hkey]
        cases splitOnce '=' (trim line) with
        | none => exact ih
        | some pair => rfl
      · rw [if_neg hkey, if_neg hkey]
        exact ih

theorem endpointValue_bracket {line : String} (h : isBracketLine line = true) :
    endpointValue line = none := by
  obtain ⟨rest, hrest⟩ := startsWith_bracket h
  have hkey : startsWith (toAsciiLowercase (trim line)) "endpoint" = false := by
    simp [startsWith, toAsciiLowercase, hrest, List.isPrefixOf]
  rw [endpointValue, hkey]
  rfl

theorem endpointText_of_body {line : String} (h : isBracketLine line = false) (inPeer : Bool) :
    endpointText inPeer line = (if inPeer then endpointValue line else none) ∧
      nextInPeer inPeer line = inPeer := by
  rw [isBracketLine] at h
  cases inPeer <;> simp [endpointText, nextInPeer, endpointValue, h]

theorem outputs_body {body : List String} (hbody : ∀ line ∈ body, isBracketLine line = false)
    (inPeer : Bool) :
    outputs nextInPeer endpointText inPeer body =
      if inPeer then body.filterMap endpointValue else [] := by
  induction body with
  | nil => cases inPeer <;> rfl
  | cons line rest ih =>
      obtain ⟨htext, hnext⟩ := endpointText_of_body (hbody line List.mem_cons_self) inPeer
      rw [outputs, htext, hnext, ih fun other hother => hbody other (List.mem_cons_of_mem _ hother)]
      cases inPeer with
      | false => rfl
      | true =>
          rw [List.filterMap_cons]
          cases endpointValue line <;> rfl

theorem endpointTexts_restart_brackets :
    Restarts nextInPeer endpointText isBracketLine false where
  next_eq inPeer line hheader := by
    rw [isBracketLine] at hheader
    rw [nextInPeer, nextInPeer, if_pos hheader, if_pos hheader]
  out_eq inPeer line hheader := by
    rw [isBracketLine] at hheader
    rw [endpointText, endpointText, if_pos hheader, if_pos hheader]

theorem outputs_region {region : List String} (h : IsSection isBracketLine region) :
    outputs nextInPeer endpointText false region =
      if region.head?.any (fun line => eqIgnoreAsciiCase (trim line) "[peer]") then
        region.filterMap endpointValue
      else [] := by
  obtain ⟨header, body, rfl, hheader, hbody⟩ := h.split
  have htext : endpointText false header = none := by
    rw [isBracketLine] at hheader
    rw [endpointText, if_pos hheader]
  have hnext : nextInPeer false header = eqIgnoreAsciiCase (trim header) "[peer]" := by
    rw [isBracketLine] at hheader
    rw [nextInPeer, if_pos hheader]
  rw [outputs, htext, hnext, outputs_body hbody, List.filterMap_cons_none
    (endpointValue_bracket hheader), Option.toList_none, List.nil_append, List.head?_cons,
    Option.any_some]

theorem flatMap_regions {regions : List (List String)}
    (h : ∀ region ∈ regions, IsSection isBracketLine region) :
    regions.flatMap (outputs nextInPeer endpointText false) =
      (regions.filter fun region =>
        region.head?.any fun line => eqIgnoreAsciiCase (trim line) "[peer]").flatMap
          fun region => region.filterMap endpointValue := by
  induction regions with
  | nil => rfl
  | cons region rest ih =>
      rw [List.flatMap_cons, outputs_region (h region List.mem_cons_self),
        ih fun other hother => h other (List.mem_cons_of_mem _ hother), List.filter_cons]
      split
      · rw [List.flatMap_cons]
      · rfl

theorem endpointTexts_regions (text : String) :
    endpointTexts (lines text) =
      (peerRegions text).flatMap fun region => region.filterMap endpointValue := by
  have hfront : ∀ line ∈ (cut isBracketLine (lines text)).1, isBracketLine line = false :=
    front_not_header (lines text)
  have hnone : outputs nextInPeer endpointText false (cut isBracketLine (lines text)).1 = [] := by
    rw [outputs_body hfront]
    rfl
  have hnot : (cut isBracketLine (lines text)).1.head?.any
      (fun line => eqIgnoreAsciiCase (trim line) "[peer]") = false := by
    cases hlines : (cut isBracketLine (lines text)).1 with
    | nil => rfl
    | cons line rest =>
        have hline := hfront line (by rw [hlines]; exact List.mem_cons_self)
        rw [List.head?_cons, Option.any_some, ← Bool.not_eq_true]
        intro hpeer
        rw [isBracketLine, (peer_header hpeer).1] at hline
        cases hline
  rw [endpointTexts, outputs_cut endpointTexts_restart_brackets, hnone, List.nil_append,
    peerRegions, parts, List.filter_cons_of_neg (by simp [hnot]),
    flatMap_regions (isSection_of_mem_cut (lines text))]

theorem parseEndpointFromConfig_eq (text : String) :
    parseEndpointFromConfig ScopedSocketAddr.parse text =
      (firstText text).bind fun v => ScopedSocketAddr.parse (trim v) := by
  rw [parseEndpointFromConfig, scanConfigEndpoint_eq, firstText]

theorem parsePeerEndpoint_eq (text : String) :
    parsePeerEndpoint ScopedSocketAddr.parse text =
      (regionText text).bind fun v => ScopedSocketAddr.parse (trim v) := by
  rw [parsePeerEndpoint, scanPeerEndpoint_eq, regionText, ← endpointTexts_regions, endpointTexts]

/-! ## The driver's reading -/

section Driver
variable {parseNet : String → Except String IpNet}

theorem setKey_endpoint {peer peer' : ParsedPeer} {entry : String × String}
    (h : peer.setKey parseNet entry.1 entry.2 = .ok peer') :
    LastWritten parseEndpoint (endpointEntry entry).toList peer.endpoint peer'.endpoint := by
  rw [ParsedPeer.setKey] at h
  rw [endpointEntry]
  split_ifs at h with hpublic hshared hendpoint hips hkeepalive
  · obtain ⟨decoded, -, rfl⟩ := map_ok h
    rw [hpublic, if_neg (by decide)]
    exact .nothing _
  · obtain ⟨decoded, -, rfl⟩ := map_ok h
    rw [hshared, if_neg (by decide)]
    exact .nothing _
  · obtain ⟨endpoint, hread, rfl⟩ := map_ok h
    rw [if_pos hendpoint]
    exact .single hread _
  all_goals rw [if_neg hendpoint]
  · obtain ⟨nets, -, rfl⟩ := map_ok h
    exact .nothing _
  · cases h
    exact .nothing _
  · cases h
    exact .nothing _

theorem setPeerEntries_endpoint {entries : List (String × String)} {peer peer' : ParsedPeer}
    (h : setPeerEntries parseNet peer entries = .ok peer') :
    LastWritten parseEndpoint (entries.filterMap endpointEntry) peer.endpoint peer'.endpoint := by
  induction entries generalizing peer with
  | nil =>
      cases h
      exact .nothing _
  | cons entry rest ih =>
      cases hset : peer.setKey parseNet entry.1 entry.2 with
      | error e =>
          rw [setPeerEntries, foldlM_cons_error _ hset] at h
          cases h
      | ok middle =>
          rw [setPeerEntries, foldlM_cons_ok _ hset] at h
          have hwritten := (setKey_endpoint hset).append (ih h)
          rw [List.filterMap_cons]
          cases hentry : endpointEntry entry with
          | none =>
              rw [hentry] at hwritten
              exact hwritten
          | some val =>
              rw [hentry] at hwritten
              exact hwritten

theorem firstEndpoint_eq {text : String} {conf : ParsedConf}
    (h : parseConfText parseNet text = .ok conf) :
    conf.firstEndpoint = (configuredText text).bind fun v =>
      (parseEndpoint v).toOption.map SocketAddr.scopeless := by
  have hpeers := parseConfText_peers h
  rw [ParsedConf.firstEndpoint, configuredText, ← List.head?_filter]
  cases hblocks : (confParts text).filter fun part => decide (IsPeerBlock part) with
  | nil =>
      rw [hblocks] at hpeers
      cases hconf : conf.peers with
      | nil => rfl
      | cons peer others =>
          rw [hconf] at hpeers
          cases hpeers
  | cons part rest =>
      rw [hblocks] at hpeers
      cases hconf : conf.peers with
      | nil =>
          rw [hconf] at hpeers
          cases hpeers
      | cons peer others =>
          rw [hconf] at hpeers
          obtain ⟨hpeer, -⟩ := List.forall₂_cons.mp hpeers
          have hwritten := setPeerEntries_endpoint hpeer
          rw [List.head?_cons, List.head?_cons, Option.bind_some, Option.bind_some]
          cases hlast : ((entriesOf part).filterMap endpointEntry).getLast? with
          | none => rw [hwritten.kept hlast]; rfl
          | some v =>
              obtain ⟨endpoint, hread, hendpoint⟩ := hwritten.last v hlast
              rw [hendpoint, Option.bind_some, hread]
              rfl

end Driver

def ReadersAgree (text : String) (conf : ParsedConf) : Prop :=
  parsePeerEndpoint ScopedSocketAddr.parse text = conf.firstEndpoint ∧
    parseEndpointFromConfig ScopedSocketAddr.parse text = conf.firstEndpoint

theorem readersAgree_iff (parseNet : String → Except String IpNet) (text : String)
    (conf : ParsedConf) (hconf : parseConfText parseNet text = .ok conf) :
    ReadersAgree text conf ↔ OneEndpoint text := by
  rw [ReadersAgree, parsePeerEndpoint_eq, parseEndpointFromConfig_eq, firstEndpoint_eq hconf]
  constructor
  · rintro ⟨hregion, hfirst⟩
    exact ⟨_, hfirst, hregion, rfl⟩
  · rintro ⟨address, hfirst, hregion, hconfigured⟩
    rw [hfirst, hregion, hconfigured]
    exact ⟨rfl, rfl⟩

/-! ## Without and with a comment -/

section Example

def plainPeer : List String := ["[Peer]", "Endpoint = 1.2.3.4:51820"]

def commentedPeer : List String := ["[Peer]", "Endpoint = 1.2.3.4:51820 # home"]

theorem written_plainPeer : WrittenPart plainPeer ∧ WrittenPart commentedPeer := by
  have hkept : (∀ line ∈ plainPeer, KeptLine line) ∧ ∀ line ∈ commentedPeer, KeptLine line := by
    unfold KeptLine
    decide +kernel
  have hheader : isHeaderLine "[Peer]" = true ∧
      isHeaderLine "Endpoint = 1.2.3.4:51820" = false ∧
      isHeaderLine "Endpoint = 1.2.3.4:51820 # home" = false := by
    decide +kernel
  exact ⟨⟨hkept.1, _, _, rfl, hheader.1, by simpa using hheader.2.1⟩,
    ⟨hkept.2, _, _, rfl, hheader.1, by simpa using hheader.2.2⟩⟩

/-- The driver reads the entry without its comment. -/
theorem block_plainPeer : IsPeerBlock plainPeer ∧ IsPeerBlock commentedPeer ∧
    entriesOf plainPeer = [("endpoint", "1.2.3.4:51820")] ∧
    entriesOf commentedPeer = [("endpoint", "1.2.3.4:51820")] := by
  decide +kernel

def oneEndpoint (privateKey : WireguardKey) : ParsedConf :=
  { privateKey := some privateKey, peers := [{ endpoint := some ⟨.v4 0x01020304, 51820⟩ }] }

theorem parseConfText_peer (parseNet : String → Except String IpNet) (privateKey : WireguardKey)
    {part : List String} (hpart : WrittenPart part) (hblock : IsPeerBlock part)
    (hentries : entriesOf part = [("endpoint", "1.2.3.4:51820")]) :
    parseConfText parseNet (textOf [interfacePart privateKey, part]) =
      .ok (oneEndpoint privateKey) := by
  have hread : parseEndpoint "1.2.3.4:51820" = .ok ⟨.v4 0x01020304, 51820⟩ := by decide +kernel
  have hpeer : setPeerEntries parseNet {} [("endpoint", "1.2.3.4:51820")] =
      .ok { endpoint := some ⟨.v4 0x01020304, 51820⟩ } := by
    simp [setPeerEntries, ParsedPeer.setKey, hread, Except.map, pure, Except.pure, bind,
      Except.bind]
  have hinterface : nameOf part ≠ "interface" := by
    rw [hblock.1]
    decide
  have heffect : sectionEffect parseNet { privateKey := some privateKey } part =
      .ok (oneEndpoint privateKey) := by
    rw [sectionEffect, if_neg hinterface, if_pos hblock, hentries, hpeer]
    rfl
  rw [parseConfText_textOf parseNet privateKey (by simpa using hpart),
    foldlM_cons_ok _ heffect]
  rfl

theorem not_block_before (privateKey : WireguardKey) :
    ¬IsPeerBlock [] ∧ ¬IsPeerBlock (interfacePart privateKey) := by
  have hname := name_interface privateKey
  constructor
  · decide
  · rw [IsPeerBlock, hname]
    rintro ⟨hpeer, -⟩
    revert hpeer
    decide

theorem plainPeer_agrees : ReadersAgree (textOf [interfacePart (Vector.replicate 32 0), plainPeer])
    (oneEndpoint (Vector.replicate 32 0)) := by
  generalize Vector.replicate 32 (0 : UInt8) = privateKey
  have hwritten : ∀ part ∈ [interfacePart privateKey, plainPeer], WrittenPart part := by
    simp [written_interface, written_plainPeer]
  have hparts := confParts_textOf (by simp) hwritten
  obtain ⟨hblock, -, hentries, -⟩ := block_plainPeer
  obtain ⟨hfront, hinterface⟩ := not_block_before privateKey
  apply (readersAgree_iff (fun _ => .error "no network") _ _
    (parseConfText_peer _ privateKey written_plainPeer.1 hblock hentries)).mpr
  refine ⟨some (.v4 0x01020304 51820), ?_, ?_, ?_⟩
  · have hkey := (passed_keyLine true
      (show "PrivateKey".toList = 'P' :: "rivateKey".toList by decide) privateKey).2
    rw [Bool.true_and] at hkey
    have hkeyLine : endpointValue (keyLine "PrivateKey" privateKey) = none := by
      rw [endpointValue, hkey]
      rfl
    have hlines : endpointValue "[Interface]" = none ∧ endpointValue "[Peer]" = none ∧
        endpointValue "Endpoint = 1.2.3.4:51820" = some " 1.2.3.4:51820" := by
      decide +kernel
    have hfirst : firstText (textOf [interfacePart privateKey, plainPeer]) =
        some " 1.2.3.4:51820" := by
      rw [firstText, lines_textOf (by simp) hwritten]
      simp [interfacePart, plainPeer, hkeyLine, hlines]
    rw [hfirst]
    decide +kernel
  · have htexts : endpointTexts plainPeer = [" 1.2.3.4:51820"] := by decide +kernel
    have hregion : regionText (textOf [interfacePart privateKey, plainPeer]) =
        some " 1.2.3.4:51820" := by
      rw [regionText, ← endpointTexts_regions, ← endpointTexts_parts, Sections.map_snd_tagged,
        hparts]
      simp [endpointTexts_interface, endpointTexts_nil, htexts]
    rw [hregion]
    decide +kernel
  · have hconfigured : configuredText (textOf [interfacePart privateKey, plainPeer]) =
        some "1.2.3.4:51820" := by
      rw [configuredText, hparts]
      simp [hfront, hinterface, hblock, hentries, endpointEntry]
    rw [hconfigured]
    decide +kernel

/-- Behind a comment on the endpoint the driver alone finds the peer. -/
theorem commentedPeer_not_agrees :
    ¬∀ parseNet text conf, parseConfText parseNet text = .ok conf → conf.peers ≠ [] →
      ReadersAgree text conf := by
  intro h
  have privateKey : WireguardKey := Vector.replicate 32 0
  have hwritten : ∀ part ∈ [interfacePart privateKey, commentedPeer], WrittenPart part := by
    simp [written_interface, written_plainPeer]
  have hparts := confParts_textOf (by simp) hwritten
  obtain ⟨-, hblock, -, hentries⟩ := block_plainPeer
  obtain ⟨hregion, -⟩ := h (fun _ => .error "no network") _ _
    (parseConfText_peer _ privateKey written_plainPeer.2 hblock hentries) (by simp [oneEndpoint])
  have htexts : endpointTexts commentedPeer = [" 1.2.3.4:51820 # home"] := by decide +kernel
  have hnone : ScopedSocketAddr.parse (trim " 1.2.3.4:51820 # home") = none := by decide +kernel
  rw [parsePeerEndpoint_eq, regionText, ← endpointTexts_regions, ← endpointTexts_parts,
    Sections.map_snd_tagged, hparts] at hregion
  simp [endpointTexts_interface, endpointTexts_nil, htexts, hnone, oneEndpoint,
    ParsedConf.firstEndpoint] at hregion

end Example
end RouteGuard
