import RouteGuard.Core.Numbers
import RouteGuard.Core.ScopedAddr

/-! # What a runtime copy tells its readers

`parse_routeguard_section` and `transport_hints_from_conf`, and what they and
`parse_peer_endpoint` read from a copy: the new endpoint and no hints. -/
set_option autoImplicit false
namespace RouteGuard

/-! ## The `[RouteGuard]` section -/

structure RouteGuardConfSection where
  transport : Option TransportPreference := none
  remoteTcp : Option String := none
  remoteUdp : Option String := none
  localListen : Option String := none
  lwoEnabled : Bool := false
  protocolVersion : Option Nat := none
deriving DecidableEq, Repr

def parseTransportPref (s : String) : TransportPreference :=
  let lower := toAsciiLowercase s
  if lower = "phantun" then .phantun
  else if lower = "lwo" then .lwo
  else if lower = "direct_udp" ∨ lower = "direct" ∨ lower = "udp" then .directUdp
  else .auto

def RouteGuardConfSection.setKey (rg : RouteGuardConfSection) (key val : String) :
    RouteGuardConfSection :=
  if key = "transport" then { rg with transport := some (parseTransportPref val) }
  else if key = "remotetcp" then { rg with remoteTcp := some val }
  else if key = "remoteudp" then { rg with remoteUdp := some val }
  else if key = "locallisten" then { rg with localListen := some val }
  else if key = "lwo" then
    { rg with lwoEnabled := ["true", "1", "yes"].contains (toAsciiLowercase val) }
  else if key = "protocolversion" then
    { rg with protocolVersion := (parseUnsigned (2 ^ 8) val).toOption }
  else rg

def routeguardLine (scan : RouteGuardConfSection × Bool) (line : String) :
    RouteGuardConfSection × Bool :=
  let trimmed := trim line
  if startsWith trimmed "[" then (scan.1, eqIgnoreAsciiCase trimmed "[routeguard]")
  else if !scan.2 then scan
  else
    match splitOnce '=' trimmed with
    | none => scan
    | some (key, val) => (scan.1.setKey (toAsciiLowercase (trim key)) (trim val), true)

def parseRouteguardSection (confText : String) : RouteGuardConfSection :=
  ((lines confText).foldl routeguardLine ({}, false)).1

def transportHintsFromConf (confText : String) : TunnelTransportConfig :=
  let rg := parseRouteguardSection confText
  let cfg : TunnelTransportConfig := { preference := rg.transport.getD .auto }
  let cfg :=
    if rg.remoteTcp.isSome then
      { cfg with
        phantun := some { remoteTcp := rg.remoteTcp, localListen := rg.localListen }
        preference := if cfg.preference = .auto then .phantun else cfg.preference }
    else cfg
  if rg.lwoEnabled || rg.remoteUdp.isSome || rg.transport == some .lwo then
    { cfg with
      lwo := some { remoteUdp := rg.remoteUdp, localListen := rg.localListen,
                    protocolVersion := rg.protocolVersion.getD 0, mode := some "mullvad" }
      preference :=
        if cfg.preference = .auto ∧ rg.remoteTcp.isNone then .lwo else cfg.preference }
  else cfg

/-! ## Section lines -/

section Headers

/-- A line that is a section name up to case starts with a bracket. -/
theorem startsWith_of_eqIgnoreAsciiCase {trimmed name : String} {rest : List Char}
    (hname : (toAsciiLowercase name).toList = '[' :: rest)
    (h : eqIgnoreAsciiCase trimmed name = true) : startsWith trimmed "[" = true := by
  have hlower : (toAsciiLowercase trimmed).toList = '[' :: rest := by
    rw [eq_of_beq h, hname]
  rw [toAsciiLowercase, String.toList_ofList] at hlower
  cases htext : trimmed.toList with
  | nil =>
      rw [htext] at hlower
      cases hlower
  | cons c others =>
      rw [htext] at hlower
      obtain ⟨hc, -⟩ := List.cons.inj hlower
      rw [(toLower_eq_iff (by decide) c).mp hc] at htext
      rw [startsWith, htext]
      rfl

theorem not_routeguard {trimmed : String} (h : startsWith trimmed "[" = false) :
    eqIgnoreAsciiCase trimmed "[routeguard]" = false := by
  rw [← Bool.not_eq_true]
  intro hname
  rw [startsWith_of_eqIgnoreAsciiCase (by decide : _ = '[' :: "routeguard]".toList) hname] at h
  cases h

theorem peer_header {trimmed : String} (h : eqIgnoreAsciiCase trimmed "[peer]" = true) :
    startsWith trimmed "[" = true ∧ eqIgnoreAsciiCase trimmed "[routeguard]" = false := by
  constructor
  · exact startsWith_of_eqIgnoreAsciiCase (by decide : _ = '[' :: "peer]".toList) h
  · rw [← Bool.not_eq_true]
    intro hrg
    rw [not_peer_of_routeguard hrg] at h
    cases h

end Headers

/-! ## The lines of a copy -/

section Copy
variable {A : Type} [ToString A] {endpoint : A} {mtu : Option Nat}

/-- What a header and the end of the text do to a peer section without endpoint. -/
def closePeer (endpoint : A) (st : RewriteState) : RewriteState :=
  if st.inPeer && !st.wroteEndpoint then
    { st with out := st.out ++ [endpointLine endpoint], wroteEndpoint := true }
  else st

theorem closePeer_out (st : RewriteState) : (closePeer endpoint st).out =
    if st.inPeer && !st.wroteEndpoint then st.out ++ [endpointLine endpoint] else st.out := by
  unfold closePeer
  split <;> rfl

theorem rewriteHeader_eq (st : RewriteState) (line trimmed : String) :
    rewriteHeader endpoint st line trimmed =
      { closePeer endpoint st with
        inRg := eqIgnoreAsciiCase trimmed "[routeguard]"
        inPeer := eqIgnoreAsciiCase trimmed "[peer]"
        wroteMtu := if eqIgnoreAsciiCase trimmed "[interface]" then false
          else (closePeer endpoint st).wroteMtu
        out := if eqIgnoreAsciiCase trimmed "[routeguard]" then (closePeer endpoint st).out
          else (closePeer endpoint st).out ++ [line] } := rfl

theorem rewriteLines_eq (confLines : List String) :
    rewriteLines endpoint mtu confLines =
      let st := confLines.foldl (rewriteLine endpoint mtu) {}
      match mtu with
      | some m =>
          if st.wroteMtu then (closePeer endpoint st).out
          else insertMtu (closePeer endpoint st).out (mtuLine m)
      | none => (closePeer endpoint st).out := by
  simp only [closePeer_out]
  rfl

def Written (endpoint : A) (line : String) : Prop :=
  line = endpointLine endpoint ∨ ∃ m, line = mtuLine m

def FromSource (endpoint : A) (confLines : List String) (line : String) : Prop :=
  Written endpoint line ∨
    line ∈ confLines ∧ eqIgnoreAsciiCase (trim line) "[routeguard]" = false

theorem FromSource.self {line : String}
    (h : eqIgnoreAsciiCase (trim line) "[routeguard]" = false) : FromSource endpoint [line] line :=
  Or.inr ⟨List.mem_singleton_self line, h⟩

theorem mem_concat {out : List String} {line other : String} (h : other ∈ out ++ [line]) :
    other ∈ out ∨ other = line := by
  rcases List.mem_append.mp h with h | h
  · exact Or.inl h
  · exact Or.inr (List.mem_singleton.mp h)

theorem mem_closePeer {st : RewriteState} {other : String}
    (h : other ∈ (closePeer endpoint st).out) : other ∈ st.out ∨ other = endpointLine endpoint := by
  unfold closePeer at h
  split at h
  · exact mem_concat h
  · exact Or.inl h

theorem mem_rewriteHeader {st : RewriteState} {line other : String}
    (h : other ∈ (rewriteHeader endpoint st line (trim line)).out) :
    other ∈ st.out ∨ FromSource endpoint [line] other := by
  have hclosed : other ∈ (closePeer endpoint st).out →
      other ∈ st.out ∨ FromSource endpoint [line] other := by
    intro hother
    rcases mem_closePeer hother with hother | hother
    · exact Or.inl hother
    · exact Or.inr (Or.inl (Or.inl hother))
  rw [rewriteHeader_eq] at h
  dsimp only at h
  cases hrg : eqIgnoreAsciiCase (trim line) "[routeguard]" with
  | true =>
      rw [hrg, if_pos rfl] at h
      exact hclosed h
  | false =>
      rw [hrg, if_neg (by decide)] at h
      rcases mem_concat h with hother | rfl
      · exact hclosed hother
      · exact Or.inr (.self hrg)

/-- One line of the source leaves what is written, and adds itself or a line of the rewriter. -/
theorem mem_rewriteLine {st : RewriteState} {line other : String}
    (h : other ∈ (rewriteLine endpoint mtu st line).out) :
    other ∈ st.out ∨ FromSource endpoint [line] other := by
  unfold rewriteLine at h
  dsimp only at h
  split at h
  · exact mem_rewriteHeader h
  · rename_i hheader
    have hself : FromSource endpoint [line] line :=
      .self (not_routeguard (Bool.eq_false_iff.mpr hheader))
    have hkept : other ∈ st.out ++ [line] → other ∈ st.out ∨ FromSource endpoint [line] other := by
      intro hother
      rcases mem_concat hother with hother | rfl
      · exact Or.inl hother
      · exact Or.inr hself
    split at h
    · exact Or.inl h
    · split at h
      · rcases mem_concat h with hother | hother
        · exact Or.inl hother
        · exact Or.inr (Or.inl (Or.inl hother))
      · split at h
        · exact Or.inl h
        · split at h
          · split at h
            · rcases mem_concat h with hother | hother
              · exact Or.inl hother
              · exact Or.inr (Or.inl (Or.inr ⟨_, hother⟩))
            · exact hkept h
          · exact hkept h

theorem FromSource.mono {confLines more : List String} {line : String}
    (h : FromSource endpoint confLines line) (hsub : ∀ l ∈ confLines, l ∈ more) :
    FromSource endpoint more line := by
  rcases h with hwritten | ⟨hmem, hrg⟩
  · exact Or.inl hwritten
  · exact Or.inr ⟨hsub line hmem, hrg⟩

theorem mem_foldl_rewriteLine (confLines : List String) (st : RewriteState) {other : String}
    (h : other ∈ (confLines.foldl (rewriteLine endpoint mtu) st).out) :
    other ∈ st.out ∨ FromSource endpoint confLines other := by
  induction confLines generalizing st with
  | nil => exact Or.inl h
  | cons line rest ih =>
      rw [List.foldl_cons] at h
      rcases ih _ h with hother | hother
      · rcases mem_rewriteLine hother with hother | hother
        · exact Or.inl hother
        · exact Or.inr (hother.mono (by simp))
      · exact Or.inr (hother.mono fun l hl => List.mem_cons_of_mem line hl)

theorem mem_rewriteLines {confLines : List String} {other : String}
    (h : other ∈ rewriteLines endpoint mtu confLines) : FromSource endpoint confLines other := by
  have hfold : ∀ out, out = (confLines.foldl (rewriteLine endpoint mtu) {}).out →
      other ∈ out → FromSource endpoint confLines other := by
    rintro _ rfl hother
    rcases mem_foldl_rewriteLine confLines {} hother with hother | hother
    · cases hother
    · exact hother
  have hclosed : ∀ out, out =
      (closePeer endpoint (confLines.foldl (rewriteLine endpoint mtu) {})).out →
      other ∈ out → FromSource endpoint confLines other := by
    rintro _ rfl hother
    rcases mem_closePeer hother with hother | hother
    · exact hfold _ rfl hother
    · exact Or.inl (Or.inl hother)
  rw [rewriteLines_eq] at h
  cases mtu with
  | none => exact hclosed _ rfl h
  | some m =>
      dsimp only at h
      split at h
      · exact hclosed _ rfl h
      · rcases mem_insertMtu h with hother | hother
        · exact Or.inl (Or.inr ⟨m, hother⟩)
        · exact hclosed _ rfl hother

/-! ## Headers are kept -/

theorem mem_closePeer_of_mem {st : RewriteState} {other : String} (h : other ∈ st.out) :
    other ∈ (closePeer endpoint st).out := by
  rw [closePeer_out]
  split
  · exact List.mem_append_left _ h
  · exact h

theorem mem_rewriteLine_of_mem {st : RewriteState} {other : String} (h : other ∈ st.out)
    (line : String) : other ∈ (rewriteLine endpoint mtu st line).out := by
  have hmore : ∀ text, other ∈ st.out ++ [text] := fun text => List.mem_append_left _ h
  unfold rewriteLine
  dsimp only
  split
  · rw [rewriteHeader_eq]
    dsimp only
    split
    · exact mem_closePeer_of_mem h
    · exact List.mem_append_left _ (mem_closePeer_of_mem h)
  · split
    · exact h
    · split
      · exact hmore _
      · split
        · exact h
        · split
          · split
            · exact hmore _
            · exact hmore _
          · exact hmore _

theorem mem_foldl_rewriteLine_of_mem (confLines : List String) {st : RewriteState}
    {other : String} (h : other ∈ st.out) :
    other ∈ (confLines.foldl (rewriteLine endpoint mtu) st).out := by
  induction confLines generalizing st with
  | nil => exact h
  | cons line rest ih =>
      rw [List.foldl_cons]
      exact ih (mem_rewriteLine_of_mem h line)

theorem mem_insertMtu_of_mem {out : List String} {other : String} (h : other ∈ out)
    (line : String) : other ∈ insertMtu out line := by
  unfold insertMtu
  split
  · rename_i i _
    rw [← List.take_append_drop (i + 1) out] at h
    rcases List.mem_append.mp h with h | h
    · exact List.mem_append_left _ h
    · exact List.mem_append_right _ (List.mem_cons_of_mem _ h)
  · exact List.mem_append_left _ h

theorem header_mem_rewriteLines {confLines : List String} {line : String} (hmem : line ∈ confLines)
    (hheader : startsWith (trim line) "[" = true)
    (hrg : eqIgnoreAsciiCase (trim line) "[routeguard]" = false) :
    line ∈ rewriteLines endpoint mtu confLines := by
  obtain ⟨before, after, rfl⟩ := List.append_of_mem hmem
  have hstep : ∀ st, line ∈ (rewriteLine endpoint mtu st line).out := by
    intro st
    unfold rewriteLine
    dsimp only
    rw [if_pos hheader, rewriteHeader_eq]
    dsimp only
    rw [hrg, if_neg (by decide)]
    exact List.mem_append_right _ (List.mem_singleton_self line)
  have hfold : line ∈ ((before ++ line :: after).foldl (rewriteLine endpoint mtu) {}).out := by
    rw [List.foldl_append, List.foldl_cons]
    exact mem_foldl_rewriteLine_of_mem after (hstep _)
  have hclosed : line ∈ (closePeer endpoint
      ((before ++ line :: after).foldl (rewriteLine endpoint mtu) {})).out :=
    mem_closePeer_of_mem hfold
  rw [rewriteLines_eq]
  dsimp only
  split
  · split
    · exact hclosed
    · exact mem_insertMtu_of_mem hclosed _
  · exact hclosed

theorem promised_of_header {confLines : List String} {line : String} (hmem : line ∈ confLines)
    (hpeer : eqIgnoreAsciiCase (trim line) "[peer]" = true) :
    Promised (confLines.foldl (rewriteLine endpoint mtu) {}) := by
  obtain ⟨hheader, -⟩ := peer_header hpeer
  obtain ⟨before, after, rfl⟩ := List.append_of_mem hmem
  rw [List.foldl_append, List.foldl_cons]
  apply foldl_promised
  left
  simp only [rewriteLine, hheader, if_true, rewriteHeader_eq]
  exact hpeer

end Copy

/-! ## The readings -/

section Readings

theorem foldl_routeguardLine {confLines : List String}
    (h : ∀ line ∈ confLines, eqIgnoreAsciiCase (trim line) "[routeguard]" = false) :
    confLines.foldl routeguardLine ({}, false) = ({}, false) := by
  induction confLines with
  | nil => rfl
  | cons line rest ih =>
      have hline : routeguardLine ({}, false) line = ({}, false) := by
        unfold routeguardLine
        dsimp only
        split
        · rw [h line List.mem_cons_self]
        · rfl
      rw [List.foldl_cons, hline, ih fun other hother => h other (List.mem_cons_of_mem _ hother)]

theorem transportHintsFromConf_default {confText : String}
    (h : ∀ line ∈ lines confText, eqIgnoreAsciiCase (trim line) "[routeguard]" = false) :
    transportHintsFromConf confText = {} := by
  have hsection : parseRouteguardSection confText = {} := by
    rw [parseRouteguardSection, foldl_routeguardLine h]
  rw [transportHintsFromConf, hsection]
  rfl

variable {A : Type} [ToString A] {parse : String → Option A} {endpoint : A} {mtu : Option Nat}

theorem not_routeguard_written (hparse : ReadsBack parse) {line : String}
    (h : Written endpoint line) : eqIgnoreAsciiCase (trim line) "[routeguard]" = false := by
  apply not_routeguard
  rcases h with rfl | ⟨m, rfl⟩
  · rw [trim_endpointLine hparse]
    simp [startsWith, endpointLine, List.isPrefixOf]
  · exact (passed_mtuLine false m).1

/-- The lines of a text with a `[Peer]` section, read back from its copy. -/
theorem lines_copy (hparse : ReadsBack parse) {confText text : String}
    (hpeer : ∃ line ∈ lines confText, eqIgnoreAsciiCase (trim line) "[peer]" = true)
    (htext : rewriteConfEndpoint endpoint mtu confText = .ok text) :
    lines text = (rewriteLines endpoint mtu (lines confText)).map fun line =>
      String.ofList (stripReturn line.toList) := by
  obtain ⟨line, hmem, hname⟩ := hpeer
  have hpromised : Promised ((lines confText).foldl (rewriteLine endpoint mtu) {}) :=
    promised_of_header hmem hname
  have hlines := (rewriteLines_finds mtu hparse hpromised).1
  unfold rewriteConfEndpoint at htext
  generalize rewriteLines endpoint mtu (lines confText) = out at htext hlines ⊢
  cases out with
  | nil => cases htext
  | cons line rest =>
      cases htext
      exact lines_written _ (by simp) hlines

theorem trim_stripped (line : String) :
    trim (String.ofList (stripReturn line.toList)) = trim line := by
  rw [trim_stripReturn, String.ofList_toList]

def HasPeerSection (confText : String) : Prop :=
  ∃ line ∈ lines confText, eqIgnoreAsciiCase (trim line) "[peer]" = true

/-- The copy of a text with a `[Peer]` section has one, and names the new endpoint and no hints. -/
theorem copy_readings (hparse : ReadsBack parse) {confText text : String}
    (hpeer : HasPeerSection confText)
    (htext : rewriteConfEndpoint endpoint mtu confText = .ok text) :
    HasPeerSection text ∧ parsePeerEndpoint parse text = some endpoint ∧
      transportHintsFromConf text = {} := by
  have hlines := lines_copy hparse hpeer htext
  obtain ⟨line, hmem, hname⟩ := hpeer
  refine ⟨?_, ?_, ?_⟩
  · obtain ⟨hheader, hrg⟩ := peer_header hname
    refine ⟨String.ofList (stripReturn line.toList), ?_, ?_⟩
    · rw [hlines]
      exact List.mem_map_of_mem (header_mem_rewriteLines hmem hheader hrg)
    · rw [trim_stripped]
      exact hname
  · exact parsePeerEndpoint_promised mtu hparse (promised_of_header hmem hname) htext
  · apply transportHintsFromConf_default
    intro other hother
    rw [hlines] at hother
    obtain ⟨source, hsource, rfl⟩ := List.mem_map.mp hother
    rw [trim_stripped]
    rcases mem_rewriteLines hsource with hwritten | ⟨_, hrg⟩
    · exact not_routeguard_written hparse hwritten
    · exact hrg

theorem rewriteConfEndpoint_isOk {confText : String} (hpeer : HasPeerSection confText) :
    ∃ text, rewriteConfEndpoint endpoint mtu confText = .ok text := by
  obtain ⟨line, hmem, hname⟩ := hpeer
  obtain ⟨hheader, hrg⟩ := peer_header hname
  have hkept : line ∈ rewriteLines endpoint mtu (lines confText) :=
    header_mem_rewriteLines hmem hheader hrg
  unfold rewriteConfEndpoint
  generalize rewriteLines endpoint mtu (lines confText) = out at hkept
  cases out with
  | nil => cases hkept
  | cons first rest => exact ⟨_, rfl⟩

/-- What the readers of a copy find, and find again in the copy of the copy. -/
theorem rewritten_readings (confText : String) (hpeer : HasPeerSection confText)
    (endpoint : ScopedSocketAddr) (mtu : Option Nat) :
    ∃ copy, rewriteConfEndpoint endpoint mtu confText = .ok copy ∧
      parsePeerEndpoint ScopedSocketAddr.parse copy = some endpoint ∧
      transportHintsFromConf copy = {} ∧
      ∃ again, rewriteConfEndpoint endpoint mtu copy = .ok again ∧
        parsePeerEndpoint ScopedSocketAddr.parse again =
          parsePeerEndpoint ScopedSocketAddr.parse copy ∧
        transportHintsFromConf again = transportHintsFromConf copy := by
  obtain ⟨copy, hcopy⟩ : ∃ copy, rewriteConfEndpoint endpoint mtu confText = .ok copy :=
    rewriteConfEndpoint_isOk hpeer
  obtain ⟨hpeer', hendpoint, hhints⟩ := copy_readings ScopedSocketAddr.readsBack hpeer hcopy
  obtain ⟨again, hagain⟩ : ∃ again, rewriteConfEndpoint endpoint mtu copy = .ok again :=
    rewriteConfEndpoint_isOk hpeer'
  obtain ⟨-, hendpoint', hhints'⟩ := copy_readings ScopedSocketAddr.readsBack hpeer' hagain
  refine ⟨copy, hcopy, hendpoint, hhints, again, hagain, ?_, ?_⟩
  · rw [hendpoint, hendpoint']
  · rw [hhints, hhints']

/-- A link-local endpoint, in a text whose peer has none. -/
theorem rewritten_linkLocal :
    ∃ copy, rewriteConfEndpoint (ScopedSocketAddr.v6 1 51820 3) none "[Peer]" = .ok copy ∧
      transportHintsFromConf copy = {} := by
  have hpeer : HasPeerSection "[Peer]" := ⟨"[Peer]", by decide, by decide⟩
  obtain ⟨copy, hcopy, -, hhints, -⟩ := rewritten_readings "[Peer]" hpeer (.v6 1 51820 3) none
  exact ⟨copy, hcopy, hhints⟩

end Readings
end RouteGuard
