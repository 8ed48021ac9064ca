import RouteGuard.Lwo.Backend
import RouteGuard.Platform.CopyReading

/-! # The runtime copy and its source

The driver reads the copy of a text as it reads the text, but for the MTU and the
first peer's endpoint, exactly if every peer section fits and the MTU line comes
into an interface section. -/
set_option autoImplicit false
namespace RouteGuard

open Sections FirstError

section Copy
variable {parseNet : String → Except String IpNet} {endpoint : ScopedSocketAddr}

/-! ## The reading of the copy -/

/-- The MTU line of the copy stands in an interface section. -/
def MtuFits (ps : List (List String)) : Prop :=
  (MtuBehind ps ∧ ∃ part ∈ ps, nameOf part = "interface" ∧ part.any isMtuLine = true) ∨
    (¬MtuBehind ps ∧ Lands ps)

structure IsCopy (endpoint : ScopedSocketAddr) (mtu : Nat) (ps copied : List (List String)) :
    Prop where
  behind : MtuBehind ps → copied = copyParts endpoint mtu false ps
  inserted : ¬MtuBehind ps →
    EntryAdded ("mtu", toString mtu) (copyParts endpoint mtu false ps) copied (Lands ps)

theorem readLines_flatten {ps : List (List String)} (h : IsCut ps) :
    readLines parseNet ps.flatten = ps.foldlM (sectionEffect parseNet) {} := by
  rw [readLines_parts, h.parts_flatten]

theorem readLines_copy {confLines : List String} {ps : List (List String)} (mtu : Nat)
    (hps : ps = plainParts (parts isHeaderLine confLines))
    (hfree : StrayFree (parts isHeaderLine confLines)) :
    ∃ copied, readLines parseNet (rewriteLines endpoint (some mtu) confLines) =
        copied.foldlM (sectionEffect parseNet) {} ∧ IsCopy endpoint mtu ps copied := by
  have hcut := isCut_parts confLines
  have hplain : ∀ part ∈ ps, isNamed "[routeguard]" part = false := by
    rw [hps]
    exact plainParts_plain _
  have hkept : IsCut ps := by
    rw [hps]
    exact isCut_plainParts hcut
  have hcopied : IsCut (copyParts endpoint mtu false ps) := isCut_copyParts hkept hplain false
  have hfilter : (copyParts endpoint mtu false (parts isHeaderLine confLines)).flatten.filter
      isEvent = (copyParts endpoint mtu false ps).flatten.filter isEvent := by
    rw [hps]
    exact filter_copyParts hcut.tail hfree false
  have hwrote : (parts isHeaderLine confLines).foldl mtuWritten false = true ↔ MtuBehind ps := by
    rw [mtuWritten_plainParts hfree, ← hps, foldl_mtuWritten hplain]
    simp
  rw [rewriteLines_parts]
  by_cases hbehind : MtuBehind ps
  · refine ⟨copyParts endpoint mtu false ps, ?_, fun _ => rfl, fun h => absurd hbehind h⟩
    rw [if_pos (hwrote.mpr hbehind), ← readLines_flatten hcopied]
    apply readLines_congr
    rw [← filterMap_isEvent, hfilter, filterMap_isEvent]
  · obtain ⟨copied, hflatten, hadded⟩ := entryAdded_insertMtu hcopied mtu
    rw [lands_copyParts ⟨hkept.tail, hplain⟩] at hadded
    refine ⟨copied, ?_, fun h => absurd h hbehind, fun _ => hadded⟩
    rw [if_neg fun h => hbehind (hwrote.mp h), ← readLines_flatten hadded.isCut, ← hflatten]
    exact readLines_congr parseNet (events_insertMtu hfilter mtu)

def ParsedConf.readdressed (conf : ParsedConf) (address : SocketAddr) (mtu : UInt16) : ParsedConf :=
  { conf with
    mtu := some mtu
    peers := conf.peers.modifyHead fun peer => { peer with endpoint := some address } }

theorem foldlM_readdressed_iff {ps copied : List (List String)} {conf : ParsedConf}
    {address : SocketAddr} {mtu : UInt16}
    (hread : ps.foldlM (sectionEffect parseNet) {} = .ok conf)
    (hadapter : (interfaceEntries copied).filter isAdapterEntry =
      (interfaceEntries ps).filter isAdapterEntry) :
    copied.foldlM (sectionEffect parseNet) {} = .ok (conf.readdressed address mtu) ↔
      ((interfaceEntries copied).filter (isKey "mtu")).foldlM (fun _ entry => readMtu entry) none =
          .ok (some mtu) ∧
        PeersRead parseNet copied (readdressed address false conf.peers) := by
  obtain ⟨read, added, hset, -, rfl⟩ := foldlM_sectionEffect_iff.mp hread
  have hnone : read.peers = [] := setEntries_peers hset
  have hmtu := @setEntries_withMtu_iff parseNet _ _ {} _ hadapter hset (some mtu)
  rw [foldlM_sectionEffect_iff]
  refine Iff.trans ?_ (and_congr hmtu Iff.rfl)
  constructor
  · rintro ⟨read', added', hset', hpeers', hconf⟩
    have hnone' : read'.peers = [] := setEntries_peers hset'
    obtain ⟨privateKey, listenPort, addresses, dns, mtu, peers⟩ := read
    obtain ⟨privateKey', listenPort', addresses', dns', mtu', peers'⟩ := read'
    cases hconf
    cases hnone
    cases hnone'
    exact ⟨hset', hpeers'⟩
  · rintro ⟨hset', hpeers'⟩
    exact ⟨_, _, hset', hpeers', rfl⟩

section Sections
variable {ps copied : List (List String)} {mtu : UInt16}

theorem IsCopy.adapter (h : IsCopy endpoint mtu.toNat ps copied) (hps : Copyable ps) :
    (interfaceEntries copied).filter isAdapterEntry =
      (interfaceEntries ps).filter isAdapterEntry := by
  rw [← @adapter_copyParts endpoint mtu.toNat ps hps false]
  by_cases hbehind : MtuBehind ps
  · rw [h.behind hbehind]
  · obtain ⟨hinside, houtside⟩ := (h.inserted hbehind).interfaceEntries_eq
    by_cases hlands : Lands ps
    · obtain ⟨front, rest, hold, hnew⟩ := hinside hlands
      rw [hold, hnew, List.filter_append, List.filter_append, List.filter_cons_of_neg]
      change ¬decide ("mtu" ∈ ["privatekey", "listenport", "address", "dns"]) = true
      decide
    · rw [houtside hlands]

theorem IsCopy.mtu_iff (h : IsCopy endpoint mtu.toNat ps copied) (hps : Copyable ps) :
    ((interfaceEntries copied).filter (isKey "mtu")).foldlM (fun _ entry => readMtu entry) none =
      .ok (some mtu) ↔ MtuFits ps := by
  have hlines := @mtu_copyParts endpoint mtu.toNat ps hps false
  have hwritten : ∀ entry ∈ (interfaceEntries (copyParts endpoint mtu.toNat false ps)).filter
      (isKey "mtu"), entry = ("mtu", toString mtu.toNat) := by
    intro entry hentry
    rw [hlines] at hentry
    obtain ⟨line, -, rfl⟩ := List.mem_map.mp hentry
    rfl
  have hne : (interfaceEntries (copyParts endpoint mtu.toNat false ps)).filter (isKey "mtu") ≠ [] ↔
      ∃ part ∈ ps, nameOf part = "interface" ∧ part.any isMtuLine = true := by
    rw [hlines, ne_eq, List.map_eq_nil_iff, List.flatMap_eq_nil_iff]
    simp only [List.mem_filter, decide_eq_true_eq, List.filter_eq_nil_iff, List.any_eq_true]
    push Not
    simp only [and_assoc]
  by_cases hbehind : MtuBehind ps
  · rw [h.behind hbehind, readMtu_run hwritten, hne, MtuFits]
    simp only [hbehind, true_and, not_true_eq_false, false_and, or_false]
  · obtain ⟨hinside, houtside⟩ := (h.inserted hbehind).interfaceEntries_eq
    rw [MtuFits]
    simp only [hbehind, false_and, not_false_eq_true, true_and, false_or]
    by_cases hlands : Lands ps
    · obtain ⟨front, rest, hold, hnew⟩ := hinside hlands
      rw [hold, List.filter_append, List.forall_mem_append] at hwritten
      have hkey : isKey "mtu" ("mtu", toString mtu.toNat) = true := by simp [isKey]
      rw [hnew, List.filter_append, List.filter_cons_of_pos hkey, readMtu_run]
      · simp [hlands]
      · rw [List.forall_mem_append, List.forall_mem_cons]
        exact ⟨hwritten.1, rfl, hwritten.2⟩
    · have hnone : ∀ part ∈ ps, isNamed "[interface]" part = false := by
        intro part hpart
        rw [← Bool.not_eq_true]
        exact fun hnamed => hlands (Or.inl ⟨part, hpart, hnamed⟩)
      rw [houtside hlands, readMtu_run hwritten, hne]
      refine ⟨?_, fun h => absurd h hlands⟩
      rintro ⟨part, hpart, -, hmtu⟩
      rw [no_mtuLine hbehind hnone part hpart] at hmtu
      cases hmtu

theorem IsCopy.peers_iff (h : IsCopy endpoint mtu.toNat ps copied) (hfits : MtuFits ps)
    {peers : List ParsedPeer} :
    PeersRead parseNet copied peers ↔
      PeersRead parseNet (copyParts endpoint mtu.toNat false ps) peers := by
  rcases hfits with ⟨hbehind, -⟩ | ⟨hbehind, hlands⟩
  · rw [h.behind hbehind]
  · exact (h.inserted hbehind).peersRead_iff hlands

/-- The sections of the copy are read as those of the source, with the two fields changed. -/
theorem IsCopy.read_iff (h : IsCopy endpoint mtu.toNat ps copied) (hps : Copyable ps)
    {address : SocketAddr} (haddress : address.scopeless = endpoint) {conf : ParsedConf}
    (hread : ps.foldlM (sectionEffect parseNet) {} = .ok conf)
    (hstays : ∀ before part after, ps = before ++ part :: after → StaysPeer before part) :
    copied.foldlM (sectionEffect parseNet) {} = .ok (conf.readdressed address mtu) ↔
      MtuFits ps ∧ ∀ before part after, ps = before ++ part :: after → nameOf part = "peer" →
        PeerFits endpoint before part := by
  obtain ⟨read, added, -, hpeers, rfl⟩ := foldlM_sectionEffect_iff.mp hread
  have hcopied := @peersRead_copyParts parseNet endpoint mtu.toNat address haddress ps hps [] added
    hpeers hstays
  rw [foldlM_readdressed_iff hread (h.adapter hps), h.mtu_iff hps]
  refine and_congr_right fun hfits => ?_
  rw [h.peers_iff hfits]
  exact hcopied

end Sections

/-! ## The text of the copy -/

section Text
variable {text : String}

/-- A carriage return at the end of a line is lost, and was no part of what it says. -/
theorem events_copy {mtu : Option Nat} {copy : String}
    (hcopy : rewriteConfEndpoint endpoint mtu text = .ok copy) :
    (lines copy).filterMap confEvent =
      (rewriteLines endpoint mtu (lines text)).filterMap confEvent := by
  have hlines : ∀ line ∈ rewriteLines endpoint mtu (lines text), '\n' ∉ line.toList := by
    intro line hline
    rcases mem_rewriteLines hline with (rfl | ⟨m, rfl⟩) | ⟨hsource, -⟩
    · exact not_newline_endpointLine ScopedSocketAddr.readsBack endpoint
    · exact not_newline_mtuLine m
    · exact not_newline_of_lines hsource
  unfold rewriteConfEndpoint at hcopy
  generalize rewriteLines endpoint mtu (lines text) = out at hcopy hlines ⊢
  cases out with
  | nil => cases hcopy
  | cons line rest =>
      have htext : "\n".intercalate (line :: rest) ++ "\n" = copy := Except.ok.inj hcopy
      rw [← htext, lines_written _ (by simp) hlines, List.filterMap_map]
      apply List.filterMap_congr
      intro line _
      rw [Function.comp_apply]
      exact confEvent_stripReturn line

theorem parseConfText_ok_iff {conf : ParsedConf} :
    parseConfText parseNet text = .ok conf ↔
      readLines parseNet (lines text) = .ok conf ∧ conf.privateKey ≠ none := by
  rw [parseConfText_readLines]
  cases readLines parseNet (lines text) with
  | error e => simp
  | ok read =>
      dsimp only
      cases hkey : read.privateKey with
      | none =>
          simp only [Option.isNone_none, if_true, wgntConfig, Except.ok.injEq]
          constructor
          · intro h
            cases h
          · rintro ⟨rfl, hne⟩
            exact absurd hkey hne
      | some key =>
          simp only [Option.isNone_some, Bool.false_eq_true, if_false, Except.ok.injEq]
          constructor
          · rintro rfl
            exact ⟨rfl, by simp [hkey]⟩
          · exact fun h => h.1

/-- A `[RouteGuard]` section sets nothing. -/
theorem foldlM_plainParts {ps : List (List String)} (h : IsCut ps) (conf : ParsedConf) :
    ps.foldlM (sectionEffect parseNet) conf =
      (plainParts ps).foldlM (sectionEffect parseNet) conf := by
  apply foldlM_filter
  intro conf part hpart hnamed
  have hname : nameOf part = "routeguard" :=
    nameOf_named bracket_routeguard (h.tail part hpart) (by simpa using hnamed)
  have hblock : ¬IsPeerBlock part := by
    rw [IsPeerBlock, hname]
    rintro ⟨hpeer, -⟩
    revert hpeer
    decide
  rw [sectionEffect, hname, if_neg (by decide), if_neg hblock]

/-- The sections of a configuration whose copy has all entries that it is to have: no line of a
`[RouteGuard]` section gets into the copy, and no peer loses its last entry. -/
structure EntriesStay (ps : List (List String)) : Prop where
  strayFree : StrayFree ps
  staysPeer : ∀ before part after, plainParts ps = before ++ part :: after → StaysPeer before part

/-- The peers of the source get their endpoints in the copy, and the adapter its MTU. -/
structure CopyFits (endpoint : ScopedSocketAddr) (ps : List (List String)) : Prop where
  readable : ∃ address : SocketAddr, address.scopeless = endpoint
  mtu : MtuFits ps
  peers : ∀ before part after, ps = before ++ part :: after → nameOf part = "peer" →
    PeerFits endpoint before part

theorem parseConfText_copy_iff {conf : ParsedConf} (hread : parseConfText parseNet text = .ok conf)
    (hstay : EntriesStay (confParts text)) {address : SocketAddr}
    (haddress : address.scopeless = endpoint) {mtu : UInt16} {copy : String}
    (hcopy : rewriteConfEndpoint endpoint (some mtu.toNat) text = .ok copy) :
    parseConfText parseNet copy = .ok (conf.readdressed address mtu) ↔
      MtuFits (plainParts (confParts text)) ∧
        ∀ before part after, plainParts (confParts text) = before ++ part :: after →
          nameOf part = "peer" → PeerFits endpoint before part := by
  have hcut : IsCut (confParts text) := isCut_parts (lines text)
  have hps : Copyable (plainParts (confParts text)) :=
    ⟨(isCut_plainParts hcut).tail, plainParts_plain _⟩
  obtain ⟨hlines, hkey⟩ := parseConfText_ok_iff.mp hread
  have hsections : (plainParts (confParts text)).foldlM (sectionEffect parseNet) {} = .ok conf := by
    rw [← foldlM_plainParts hcut, confParts, ← readLines_parts]
    exact hlines
  obtain ⟨copied, hcopied, hsame⟩ :=
    @readLines_copy parseNet endpoint (lines text) _ mtu.toNat rfl hstay.strayFree
  rw [parseConfText_ok_iff, readLines_congr parseNet (events_copy hcopy), hcopied,
    hsame.read_iff hps haddress hsections hstay.staysPeer]
  exact and_iff_left hkey

/-- The copy is read as its source, with the new MTU and the new endpoint of the first peer. -/
theorem copy_readdressed_iff {conf : ParsedConf} (hread : parseConfText parseNet text = .ok conf)
    (hstay : EntriesStay (confParts text)) (mtu : UInt16) :
    (∃ copy address, rewriteConfEndpoint endpoint (some mtu.toNat) text = .ok copy ∧
      address.scopeless = endpoint ∧
      parseConfText parseNet copy = .ok (conf.readdressed address mtu)) ↔
    CopyFits endpoint (plainParts (confParts text)) := by
  constructor
  · rintro ⟨copy, address, hcopy, haddress, hsame⟩
    obtain ⟨hmtu, hpeers⟩ := (parseConfText_copy_iff hread hstay haddress hcopy).mp hsame
    exact ⟨⟨address, haddress⟩, hmtu, hpeers⟩
  · rintro ⟨⟨address, haddress⟩, hmtu, hpeers⟩
    obtain ⟨copy, hcopy⟩ := rewriteConfEndpoint_ok endpoint mtu.toNat text
    exact ⟨copy, address, hcopy, haddress,
      (parseConfText_copy_iff hread hstay haddress hcopy).mpr ⟨hmtu, hpeers⟩⟩

end Text

/-! ## With one peer, and with two -/

section Example
variable (privateKey publicKey otherKey : WireguardKey)

theorem firstPeer_entries :
    nameOf (Lwo.firstPeer publicKey) = "peer" ∧
      entriesOf (Lwo.firstPeer publicKey) =
        [("publickey", String.ofList (Base64.encode publicKey.toList)),
          ("endpoint", "1.2.3.4:51820")] := by
  obtain ⟨hpeer, hendpoint, hname, hkey⟩ := Lwo.fixed_events
  have hpublic := confEvent_keyLine plain_publicKey publicKey
  constructor
  · simp [nameOf, Lwo.firstPeer, nextName, hpeer, hendpoint, hname, hpublic]
  · simp [entriesOf, Lwo.firstPeer, entryOf, hpeer, hendpoint, hkey, hpublic]

def keyedPeer : ParsedPeer :=
  { publicKey := some publicKey, endpoint := some ⟨.v4 0x01020304, 51820⟩ }

theorem setPeerEntries_firstPeer :
    setPeerEntries parseNet {} (entriesOf (Lwo.firstPeer publicKey)) =
      .ok (keyedPeer publicKey) := by
  have hread : parseEndpoint "1.2.3.4:51820" = .ok ⟨.v4 0x01020304, 51820⟩ := by decide +kernel
  have hdecode : decodeKey (String.ofList (Base64.encode publicKey.toList)) = .ok publicKey :=
    decodeKey_encode String.toList_ofList
  rw [(firstPeer_entries publicKey).2]
  simp [setPeerEntries, ParsedPeer.setKey, keyedPeer, hread, hdecode, Except.map, pure, Except.pure,
    bind, Except.bind]

theorem keyLine_kinds {name : String} {rest : List Char} (hname : name.toList = 'P' :: rest)
    (key : WireguardKey) :
    isBracketLine (keyLine name key) = false ∧ isMtuLine (keyLine name key) = false := by
  have hhead : (trim (keyLine name key)).toList.head? = some 'P' :=
    head_trim (by simp [keyLine, hname]) (by decide)
  have hfirst : firstOf (keyLine name key) = some 'p' := by
    rw [firstOf, toAsciiLowercase, String.toList_ofList, List.head?_map, hhead]
    rfl
  refine ⟨?_, not_mtu_of_first hfirst (by decide)⟩
  rw [← Bool.not_eq_true]
  intro hbracket
  rw [first_bracket hbracket] at hfirst
  cases hfirst

theorem fixed_kinds : isBracketLine "Endpoint = 1.2.3.4:51820" = false ∧
    isEndpointLine "Endpoint = 1.2.3.4:51820" = true ∧
    isMtuLine "Endpoint = 1.2.3.4:51820" = false ∧ isMtuLine "[Peer]" = false ∧
    isMtuLine "[Interface]" = false := by
  decide +kernel

theorem fixed_names : eqIgnoreAsciiCase (trim "[Peer]") "[peer]" = true ∧
    eqIgnoreAsciiCase (trim "[Peer]") "[routeguard]" = false ∧
    eqIgnoreAsciiCase (trim "[Peer]") "[interface]" = false ∧
    eqIgnoreAsciiCase (trim "[Interface]") "[interface]" = true ∧
    eqIgnoreAsciiCase (trim "[Interface]") "[routeguard]" = false := by
  decide +kernel

theorem firstPeer_lines :
    ownLines (Lwo.firstPeer publicKey) = (Lwo.firstPeer publicKey).tail ∧
      strayLines (Lwo.firstPeer publicKey) = [] ∧
      (Lwo.firstPeer publicKey).any isMtuLine = false ∧
      (ownLines (Lwo.firstPeer publicKey)).any isEndpointLine = true := by
  obtain ⟨hbracket, hendpoint, hmtu, hheader, -⟩ := fixed_kinds
  obtain ⟨hkey, hkeyMtu⟩ := keyLine_kinds
    (show "PublicKey".toList = 'P' :: "ublicKey".toList by decide) publicKey
  refine ⟨?_, ?_, ?_, ?_⟩
  · simp [ownLines, Lwo.firstPeer, hkey, hbracket]
  · simp [strayLines, Lwo.firstPeer, hkey, hbracket]
  · simp [Lwo.firstPeer, hkeyMtu, hmtu, hheader]
  · simp [ownLines, Lwo.firstPeer, hkey, hbracket, hendpoint]

/-- Wherever it stands, the peer gets the new endpoint. -/
theorem readdressed_firstPeer (wrote : Bool) : Readdressed wrote (Lwo.firstPeer publicKey) := by
  obtain ⟨-, hstray, -, hendpoint⟩ := firstPeer_lines publicKey
  refine ⟨⟨fixed_names.1, Or.inl hendpoint⟩, ?_⟩
  rw [hstray]
  rfl

def keyedConf (keys : List WireguardKey) : List (List String) :=
  interfacePart privateKey :: keys.map Lwo.firstPeer

theorem written_keyedConf (keys : List WireguardKey) :
    ∀ part ∈ keyedConf privateKey keys, WrittenPart part := by
  rw [keyedConf, List.forall_mem_cons]
  refine ⟨written_interface privateKey, ?_⟩
  intro part hpart
  obtain ⟨key, -, rfl⟩ := List.mem_map.mp hpart
  exact (Lwo.written_peers key).1

theorem confParts_keyedConf (keys : List WireguardKey) :
    confParts (textOf (keyedConf privateKey keys)) = [] :: keyedConf privateKey keys :=
  confParts_textOf (by simp [keyedConf]) (written_keyedConf privateKey keys)

theorem plain_keyedConf (keys : List WireguardKey) :
    ∀ part ∈ [] :: keyedConf privateKey keys, isNamed "[routeguard]" part = false := by
  obtain ⟨-, hpeer, -, -, hinterface⟩ := fixed_names
  rw [List.forall_mem_cons, keyedConf, List.forall_mem_cons]
  refine ⟨rfl, hinterface, ?_⟩
  intro part hpart
  obtain ⟨key, -, rfl⟩ := List.mem_map.mp hpart
  exact hpeer

theorem plainParts_keyedConf (keys : List WireguardKey) :
    plainParts (confParts (textOf (keyedConf privateKey keys))) =
      [] :: keyedConf privateKey keys := by
  rw [confParts_keyedConf, plainParts, List.filter_eq_self]
  intro part hpart
  rw [plain_keyedConf privateKey keys part hpart]
  rfl

theorem entriesStay_keyedConf (keys : List WireguardKey) :
    EntriesStay (confParts (textOf (keyedConf privateKey keys))) := by
  constructor
  · intro part hpart hnamed
    rw [confParts_keyedConf] at hpart
    rw [plain_keyedConf privateKey keys part hpart] at hnamed
    cases hnamed
  · intro before part after hsplit hblock
    rw [plainParts_keyedConf] at hsplit
    have hpart : part ∈ [] :: keyedConf privateKey keys := by
      rw [hsplit]
      exact List.mem_append_right _ List.mem_cons_self
    rw [List.mem_cons, keyedConf, List.mem_cons] at hpart
    rcases hpart with rfl | rfl | hpeer
    · exact absurd hblock (by decide : ¬IsPeerBlock [])
    · exact absurd hblock (interface_not_block (name_interface privateKey))
    · obtain ⟨key, -, rfl⟩ := List.mem_map.mp hpeer
      exact Or.inl (readdressed_firstPeer key _).1

theorem parseConfText_keyedConf (keys : List WireguardKey) :
    parseConfText parseNet (textOf (keyedConf privateKey keys)) =
      .ok { privateKey := some privateKey, peers := keys.map keyedPeer } := by
  have hsections : ∀ conf : ParsedConf,
      (keys.map Lwo.firstPeer).foldlM (sectionEffect parseNet) conf =
        .ok { conf with peers := conf.peers ++ keys.map keyedPeer } := by
    intro conf
    induction keys generalizing conf with
    | nil => rw [List.map_nil, List.map_nil, List.append_nil]; rfl
    | cons key rest ih =>
        obtain ⟨hname, hentries⟩ := firstPeer_entries key
        have hblock : IsPeerBlock (Lwo.firstPeer key) := ⟨hname, by simp [hentries]⟩
        have heffect : sectionEffect parseNet conf (Lwo.firstPeer key) =
            .ok { conf with peers := conf.peers ++ [keyedPeer key] } := by
          rw [sectionEffect, if_neg (by rw [hname]; decide), if_pos hblock,
            setPeerEntries_firstPeer]
          rfl
        rw [List.map_cons, foldlM_cons_ok _ heffect, ih, List.map_cons, List.append_assoc]
        rfl
  rw [keyedConf, parseConfText_textOf parseNet privateKey, hsections]
  · rfl
  · intro part hpart
    exact written_keyedConf privateKey keys part (List.mem_cons_of_mem _ hpart)

theorem mtuFits_keyedConf (keys : List WireguardKey) :
    MtuFits ([] :: keyedConf privateKey keys) := by
  obtain ⟨-, -, -, -, hheader⟩ := fixed_kinds
  obtain ⟨-, -, -, hinterface, -⟩ := fixed_names
  obtain ⟨-, hkey⟩ := keyLine_kinds
    (show "PrivateKey".toList = 'P' :: "rivateKey".toList by decide) privateKey
  have hnone : ∀ part ∈ [] :: keyedConf privateKey keys, part.any isMtuLine = false := by
    rw [List.forall_mem_cons, keyedConf, List.forall_mem_cons]
    refine ⟨rfl, by simp [interfacePart, hkey, hheader], ?_⟩
    intro part hpart
    obtain ⟨key, -, rfl⟩ := List.mem_map.mp hpart
    exact (firstPeer_lines key).2.2.1
  refine Or.inr ⟨?_, Or.inl ⟨interfacePart privateKey, by simp [keyedConf], hinterface⟩⟩
  rintro ⟨before, part, after, hsplit, hmtu, -⟩
  rw [hnone part (by rw [hsplit]; exact List.mem_append_right _ List.mem_cons_self)] at hmtu
  cases hmtu

theorem block_firstPeer : IsPeerBlock (Lwo.firstPeer publicKey) := by
  obtain ⟨hname, hentries⟩ := firstPeer_entries publicKey
  exact ⟨hname, by simp [hentries]⟩

theorem onePeer_readdressed :
    ∃ copy address,
      rewriteConfEndpoint (.v4 0x05060708 443 : ScopedSocketAddr) (some (1280 : UInt16).toNat)
        (textOf (keyedConf (Vector.replicate 32 0) [Vector.replicate 32 1])) = .ok copy ∧
      address.scopeless = .v4 0x05060708 443 ∧
      parseConfText (fun _ => .error "no network") copy =
        .ok (ParsedConf.readdressed
          { privateKey := some (Vector.replicate 32 0)
            peers := [keyedPeer (Vector.replicate 32 1)] }
          address 1280) := by
  generalize Vector.replicate 32 (0 : UInt8) = privateKey
  generalize Vector.replicate 32 (1 : UInt8) = publicKey
  refine (copy_readdressed_iff (parseConfText_keyedConf privateKey [publicKey])
    (entriesStay_keyedConf privateKey [publicKey]) 1280).mpr ⟨⟨⟨.v4 0x05060708, 443⟩, rfl⟩, ?_, ?_⟩
  · rw [plainParts_keyedConf]
    exact mtuFits_keyedConf privateKey [publicKey]
  · rw [plainParts_keyedConf, keyedConf, List.map_singleton]
    simp only [forall_splits_cons]
    have hinterface := interface_not_block (name_interface privateKey)
    have hblock := block_firstPeer publicKey
    refine ⟨fun hname => ?_, fun hname => ?_, fun _ => ?_, by simp⟩
    · exact absurd hname (by decide)
    · rw [name_interface] at hname
      exact absurd hname (by decide)
    · refine ⟨fun hempty => absurd hblock hempty,
        fun _ _ => Or.inl (readdressed_firstPeer publicKey _), fun _ hlater => ?_⟩
      have hnot : ¬IsPeerBlock [] := by decide
      simp [peerIn, hinterface, hnot] at hlater

/-- A second peer with an endpoint gets the new one too. -/
theorem twoPeers_not_readdressed :
    ¬∀ parseNet text conf (address : SocketAddr) (mtu : UInt16),
      parseConfText parseNet text = .ok conf → conf.peers ≠ [] →
      ∃ copy, rewriteConfEndpoint address.scopeless (some mtu.toNat) text = .ok copy ∧
        parseConfText parseNet copy = .ok (conf.readdressed address mtu) := by
  intro h
  have privateKey : WireguardKey := Vector.replicate 32 0
  have publicKey : WireguardKey := Vector.replicate 32 1
  have otherKey : WireguardKey := Vector.replicate 32 2
  have hread : parseConfText (fun _ => .error "no network")
      (textOf (keyedConf privateKey [publicKey, otherKey])) = _ :=
    parseConfText_keyedConf privateKey [publicKey, otherKey]
  obtain ⟨copy, hcopy, hsame⟩ := h _ _ _ ⟨.v4 0x05060708, 443⟩ 1280 hread (by simp)
  obtain ⟨-, hpeers⟩ := (parseConfText_copy_iff hread
    (entriesStay_keyedConf privateKey [publicKey, otherKey]) rfl hcopy).mp hsame
  rw [plainParts_keyedConf] at hpeers
  have hsecond := hpeers [[], interfacePart privateKey, Lwo.firstPeer publicKey]
    (Lwo.firstPeer otherKey) [] rfl (block_firstPeer otherKey).1
  have hseen : peerIn [[], interfacePart privateKey, Lwo.firstPeer publicKey] = true := by
    simp [peerIn, block_firstPeer publicKey]
  have hnamed := hsecond.later (block_firstPeer otherKey) hseen (readdressed_firstPeer otherKey _)
  have hendpoint := (namesEndpoint_iff rfl
    (@setPeerEntries_firstPeer (fun _ => .error "no network") otherKey)).mp hnamed
  have hne : (⟨.v4 0x01020304, 51820⟩ : SocketAddr) ≠ ⟨.v4 0x05060708, 443⟩ := by decide
  exact hne (Option.some.inj hendpoint)

end Example

end Copy
end RouteGuard
