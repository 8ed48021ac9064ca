import RouteGuard.Lib.FirstError
import RouteGuard.Platform.ConfSections

/-! # What the sections of a configuration do

`parse_conf_text` section by section: an interface section sets fields of the
adapter, a peer section with an entry adds a peer, other sections do nothing. -/
set_option autoImplicit false
namespace RouteGuard

open Sections FirstError

def nameOf (part : List String) : String := part.foldl nextName ""

def entryOf (line : String) : Option (String × String) :=
  match confEvent line with
  | some (.entry key val) => some (key, val)
  | _ => none

def entriesOf (part : List String) : List (String × String) := part.filterMap entryOf

/-- A peer section without entries is not taken for a peer. -/
def IsPeerBlock (part : List String) : Prop := nameOf part = "peer" ∧ entriesOf part ≠ []

instance (part : List String) : Decidable (IsPeerBlock part) :=
  inferInstanceAs (Decidable (nameOf part = "peer" ∧ entriesOf part ≠ []))

section Blocks
variable (parseNet : String → Except String IpNet)

def setEntries (conf : ParsedConf) (entries : List (String × String)) : WgntResult ParsedConf :=
  entries.foldlM (fun conf entry => conf.setKey parseNet entry.1 entry.2) conf

def setPeerEntries (peer : ParsedPeer) (entries : List (String × String)) :
    WgntResult ParsedPeer :=
  entries.foldlM (fun peer entry => peer.setKey parseNet entry.1 entry.2) peer

def sectionEffect (conf : ParsedConf) (part : List String) : WgntResult ParsedConf :=
  if nameOf part = "interface" then setEntries parseNet conf (entriesOf part)
  else if IsPeerBlock part then
    (setPeerEntries parseNet {} (entriesOf part)).map fun peer =>
      { conf with peers := conf.peers ++ [peer] }
  else .ok conf

/-! ## Behind a header -/

def entryStep (scan : ConfScan) (entry : String × String) : WgntResult ConfScan :=
  confStep parseNet scan (.entry entry.1 entry.2)

variable {parseNet}

theorem foldlM_body {body : List String} (hbody : ∀ line ∈ body, isHeaderLine line = false)
    (scan : ConfScan) :
    body.foldlM (confLine parseNet) scan =
      (entriesOf body).foldlM (entryStep parseNet) scan := by
  induction body generalizing scan with
  | nil => rfl
  | cons line rest ih =>
      have hrest := ih fun other hother => hbody other (List.mem_cons_of_mem _ hother)
      have hline := hbody line List.mem_cons_self
      rw [List.foldlM_cons, confLine_event, entriesOf, List.filterMap_cons, entryOf]
      rw [isHeaderLine] at hline
      generalize confEvent line = event at hline ⊢
      rcases event with _ | ⟨name | ⟨key, val⟩⟩
      · exact hrest scan
      · cases hline
      · exact bind_congr fun scan' => hrest scan'

theorem foldlM_interface {scan : ConfScan} (hname : toAsciiLowercase scan.sectionName = "interface")
    (entries : List (String × String)) :
    entries.foldlM (entryStep parseNet) scan =
      (setEntries parseNet scan.conf entries).map fun conf => { scan with conf := conf } := by
  induction entries generalizing scan with
  | nil => rfl
  | cons entry rest ih =>
      have hstep : entryStep parseNet scan entry =
          (scan.conf.setKey parseNet entry.1 entry.2).map fun conf =>
            { scan with conf := conf } := by
        rw [entryStep, confStep, if_pos hname]
      rw [setEntries, List.foldlM_cons, List.foldlM_cons, hstep]
      cases scan.conf.setKey parseNet entry.1 entry.2 with
      | error e => rfl
      | ok conf => exact ih hname

theorem foldlM_peer {scan : ConfScan} (hname : toAsciiLowercase scan.sectionName = "peer")
    {entries : List (String × String)} (hne : entries ≠ []) :
    entries.foldlM (entryStep parseNet) scan =
      (setPeerEntries parseNet (scan.curPeer.getD {}) entries).map fun peer =>
        { scan with curPeer := some peer } := by
  induction entries generalizing scan with
  | nil => exact absurd rfl hne
  | cons entry rest ih =>
      have hstep : entryStep parseNet scan entry =
          ((scan.curPeer.getD {}).setKey parseNet entry.1 entry.2).map fun peer =>
            { scan with curPeer := some peer } := by
        rw [entryStep, confStep, if_neg (by rw [hname]; decide), if_pos hname]
      rw [setPeerEntries, List.foldlM_cons, List.foldlM_cons, hstep]
      cases (scan.curPeer.getD {}).setKey parseNet entry.1 entry.2 with
      | error e => rfl
      | ok peer =>
          cases hrest : rest with
          | nil => rfl
          | cons next others =>
              rw [← hrest]
              exact ih hname (by simp [hrest])

theorem foldlM_elsewhere {scan : ConfScan}
    (hinterface : toAsciiLowercase scan.sectionName ≠ "interface")
    (hpeer : toAsciiLowercase scan.sectionName ≠ "peer") (entries : List (String × String)) :
    entries.foldlM (entryStep parseNet) scan = .ok scan := by
  induction entries with
  | nil => rfl
  | cons entry rest ih =>
      have hstep : entryStep parseNet scan entry = .ok scan := by
        rw [entryStep, confStep, if_neg hinterface, if_neg hpeer]
      rw [foldlM_cons_ok _ hstep, ih]

/-! ## Sections -/

theorem foldl_nextName {body : List String} (hbody : ∀ line ∈ body, isHeaderLine line = false)
    (name : String) : body.foldl nextName name = name := by
  induction body with
  | nil => rfl
  | cons line rest ih =>
      have hline := hbody line List.mem_cons_self
      have hsame : nextName name line = name := by
        rw [isHeaderLine] at hline
        rw [nextName]
        generalize confEvent line = event at hline ⊢
        rcases event with _ | ⟨next | ⟨key, val⟩⟩
        · rfl
        · cases hline
        · rfl
      have hrest := ih fun other hother => hbody other (List.mem_cons_of_mem _ hother)
      rw [List.foldl_cons, hsame, hrest]

def ConfScan.opened (conf : ParsedConf) (name : String) : ConfScan :=
  { conf := conf, sectionName := name }

theorem ConfScan.closed_opened (conf : ParsedConf) (name : String) :
    (ConfScan.opened conf name).closed = conf := by
  rw [ConfScan.closed, ConfScan.opened, Option.toList_none, List.append_nil]

/-- What is open behind a section is closed by the next one. -/
theorem foldlM_section {part : List String} (hpart : IsSection isHeaderLine part)
    (scan : ConfScan) :
    (part.foldlM (confLine parseNet) scan).map ConfScan.closed =
      sectionEffect parseNet scan.closed part := by
  obtain ⟨header, body, rfl, hheader, hbody⟩ := hpart.split
  obtain ⟨name, hevent⟩ := isHeaderLine_iff.mp hheader
  have hstep : confLine parseNet scan header = .ok (.opened scan.closed name) := by
    rw [confLine_event, hevent]
    rfl
  have hname : nameOf (header :: body) = toAsciiLowercase name := by
    rw [nameOf, List.foldl_cons, foldl_nextName hbody, nextName, hevent]
  have hentries : entriesOf (header :: body) = entriesOf body := by
    rw [entriesOf, List.filterMap_cons, entryOf, hevent]
    rfl
  have hblock : IsPeerBlock (header :: body) ↔
      toAsciiLowercase name = "peer" ∧ entriesOf body ≠ [] := by
    rw [IsPeerBlock, hname, hentries]
  rw [foldlM_cons_ok _ hstep, foldlM_body hbody, sectionEffect, hname, hentries]
  by_cases hinterface : toAsciiLowercase name = "interface"
  · rw [if_pos hinterface, @foldlM_interface parseNet (.opened scan.closed name) hinterface]
    change Except.map _ (Except.map _ (setEntries parseNet scan.closed (entriesOf body))) = _
    cases setEntries parseNet scan.closed (entriesOf body) with
    | error e => rfl
    | ok conf => exact congrArg Except.ok (ConfScan.closed_opened conf name)
  · rw [if_neg hinterface]
    by_cases hpeer : toAsciiLowercase name = "peer"
    · by_cases hne : entriesOf body = []
      · rw [if_neg fun h => (hblock.mp h).2 hne, hne]
        exact congrArg Except.ok (ConfScan.closed_opened scan.closed name)
      · rw [if_pos (hblock.mpr ⟨hpeer, hne⟩),
          @foldlM_peer parseNet (.opened scan.closed name) hpeer _ hne]
        change Except.map _ (Except.map _ (setPeerEntries parseNet {} (entriesOf body))) = _
        cases setPeerEntries parseNet {} (entriesOf body) with
        | error e => rfl
        | ok peer => rfl
    · rw [if_neg fun h => hpeer (hblock.mp h).1,
        @foldlM_elsewhere parseNet (.opened scan.closed name) hinterface hpeer]
      exact congrArg Except.ok (ConfScan.closed_opened scan.closed name)

theorem foldlM_sections {parts : List (List String)}
    (hparts : ∀ part ∈ parts, IsSection isHeaderLine part) (scan : ConfScan) :
    (parts.flatten.foldlM (confLine parseNet) scan).map ConfScan.closed =
      parts.foldlM (sectionEffect parseNet) scan.closed := by
  induction parts generalizing scan with
  | nil => rfl
  | cons part rest ih =>
      have hpart : (part.foldlM (confLine parseNet) scan).map ConfScan.closed = _ :=
        foldlM_section (hparts part List.mem_cons_self) scan
      rw [List.flatten_cons, List.foldlM_cons, ← hpart]
      cases hrun : part.foldlM (confLine parseNet) scan with
      | error e =>
          rw [foldlM_append_error _ hrun]
          rfl
      | ok scan' =>
          rw [foldlM_append_ok _ hrun]
          exact ih (fun other hother => hparts other (List.mem_cons_of_mem _ hother)) scan'

def readLines (parseNet : String → Except String IpNet) (confLines : List String) :
    WgntResult ParsedConf :=
  (confLines.foldlM (confLine parseNet) {}).map ConfScan.closed

variable (parseNet) in
theorem readLines_parts (confLines : List String) :
    readLines parseNet confLines =
      (parts isHeaderLine confLines).foldlM (sectionEffect parseNet) {} := by
  have hfront : ∀ line ∈ (cut isHeaderLine confLines).1, isHeaderLine line = false :=
    front_not_header confLines
  have hstart : toAsciiLowercase ({} : ConfScan).sectionName = "" := rfl
  have hread : (cut isHeaderLine confLines).1.foldlM (confLine parseNet) {} = .ok {} := by
    rw [foldlM_body hfront, foldlM_elsewhere (by rw [hstart]; decide) (by rw [hstart]; decide)]
  have hskip : sectionEffect parseNet {} (cut isHeaderLine confLines).1 = .ok {} := by
    have hname : nameOf (cut isHeaderLine confLines).1 = "" := foldl_nextName hfront ""
    have hblock : ¬IsPeerBlock (cut isHeaderLine confLines).1 := by
      rw [IsPeerBlock, hname]
      rintro ⟨hpeer, -⟩
      revert hpeer
      decide
    rw [sectionEffect, hname, if_neg (by decide), if_neg hblock]
  have hsections : ((cut isHeaderLine confLines).2.flatten.foldlM (confLine parseNet) {}).map
      ConfScan.closed = _ := foldlM_sections (isSection_of_mem_cut confLines) {}
  have hlines : confLines =
      (cut isHeaderLine confLines).1 ++ (cut isHeaderLine confLines).2.flatten := by
    rw [← List.flatten_cons]
    exact (flatten_parts confLines).symm
  rw [show ({} : ConfScan).closed = {} from rfl] at hsections
  rw [parts, foldlM_cons_ok _ hskip, readLines]
  rw [hlines, foldlM_append_ok _ hread, ← hlines]
  exact hsections

variable (parseNet) in
/-- A reading without private key is refused. -/
theorem parseConfText_readLines (text : String) :
    parseConfText parseNet text =
      match readLines parseNet (lines text) with
      | .error e => .error e
      | .ok conf =>
          if conf.privateKey.isNone then wgntConfig "missing PrivateKey" else .ok conf := by
  rw [parseConfText, readLines]
  cases (lines text).foldlM (confLine parseNet) {} with
  | error e => rfl
  | ok scan => rfl

variable (parseNet) in
theorem parseConfText_sections (text : String) :
    parseConfText parseNet text =
      match (confParts text).foldlM (sectionEffect parseNet) {} with
      | .error e => .error e
      | .ok conf =>
          if conf.privateKey.isNone then wgntConfig "missing PrivateKey" else .ok conf := by
  rw [parseConfText_readLines, readLines_parts]
  rfl

variable (parseNet) in
theorem readLines_congr {first second : List String}
    (h : first.filterMap confEvent = second.filterMap confEvent) :
    readLines parseNet first = readLines parseNet second := by
  rw [readLines, readLines, foldlM_confLine, foldlM_confLine, h]

/-! ## The peers -/

theorem ParsedConf.setKey_peers {conf conf' : ParsedConf} {key val : String}
    (h : conf.setKey parseNet key val = .ok conf') : conf'.peers = conf.peers := by
  rw [ParsedConf.setKey] at h
  split_ifs at h
  · obtain ⟨decoded, -, rfl⟩ := map_ok h
    rfl
  · cases h
    rfl
  · obtain ⟨nets, -, rfl⟩ := map_ok h
    rfl
  · obtain ⟨servers, -, rfl⟩ := map_ok h
    rfl
  · cases h
    rfl
  · cases h
    rfl

theorem setEntries_peers {conf conf' : ParsedConf} {entries : List (String × String)}
    (h : setEntries parseNet conf entries = .ok conf') : conf'.peers = conf.peers := by
  induction entries generalizing conf with
  | nil =>
      cases h
      rfl
  | cons entry rest ih =>
      cases hset : conf.setKey parseNet entry.1 entry.2 with
      | error e =>
          rw [setEntries, foldlM_cons_error _ hset] at h
          cases h
      | ok middle =>
          rw [setEntries, foldlM_cons_ok _ hset] at h
          rw [ih h, ParsedConf.setKey_peers hset]

/-- The peers are those of the peer blocks, in their order. -/
theorem foldlM_sectionEffect_peers {parts : List (List String)} {conf conf' : ParsedConf}
    (h : parts.foldlM (sectionEffect parseNet) conf = .ok conf') :
    ∃ added, conf'.peers = conf.peers ++ added ∧
      List.Forall₂ (fun part peer => setPeerEntries parseNet {} (entriesOf part) = .ok peer)
        (parts.filter fun part => decide (IsPeerBlock part)) added := by
  induction parts generalizing conf with
  | nil =>
      cases h
      exact ⟨[], (List.append_nil _).symm, .nil⟩
  | cons part rest ih =>
      cases heffect : sectionEffect parseNet conf part with
      | error e =>
          rw [foldlM_cons_error _ heffect] at h
          cases h
      | ok middle =>
          rw [foldlM_cons_ok _ heffect] at h
          obtain ⟨added, hadded, hpeers⟩ := ih h
          rw [sectionEffect] at heffect
          split_ifs at heffect with hinterface hblock
          · have hnot : ¬IsPeerBlock part := by
              intro hblock
              rw [hblock.1] at hinterface
              revert hinterface
              decide
            rw [setEntries_peers heffect] at hadded
            rw [List.filter_cons_of_neg (by simpa using hnot)]
            exact ⟨added, hadded, hpeers⟩
          · obtain ⟨peer, hpeer, rfl⟩ := map_ok heffect
            rw [List.filter_cons_of_pos (by simpa using hblock)]
            refine ⟨peer :: added, ?_, .cons hpeer hpeers⟩
            rw [hadded, List.append_assoc]
            rfl
          · cases heffect
            rw [List.filter_cons_of_neg (by simpa using hblock)]
            exact ⟨added, hadded, hpeers⟩

theorem parseConfText_peers {text : String} {conf : ParsedConf}
    (h : parseConfText parseNet text = .ok conf) :
    List.Forall₂ (fun part peer => setPeerEntries parseNet {} (entriesOf part) = .ok peer)
      ((confParts text).filter fun part => decide (IsPeerBlock part)) conf.peers := by
  rw [parseConfText_sections] at h
  cases hrun : (confParts text).foldlM (sectionEffect parseNet) {} with
  | error e =>
      rw [hrun] at h
      cases h
  | ok conf' =>
      rw [hrun] at h
      dsimp only at h
      split_ifs at h
      · cases h
      have hconf : conf' = conf := Except.ok.inj h
      obtain ⟨added, hadded, hpeers⟩ := foldlM_sectionEffect_peers hrun
      rw [← hconf, hadded]
      exact hpeers

end Blocks
end RouteGuard
