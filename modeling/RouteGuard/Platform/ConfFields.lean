import Mathlib.Data.List.Forall2
import RouteGuard.Platform.ConfBlocks

/-! # The fields of a reading

The interface sections together set the fields of the adapter, each peer section
those of its peer.  The MTU and the endpoint of a peer are each written by one
key, and the entries of that key leave the other fields alone. -/
set_option autoImplicit false
namespace RouteGuard

open Sections FirstError

section Fields
variable {parseNet : String → Except String IpNet}

/-! ## The adapter -/

def interfaceEntries (sections : List (List String)) : List (String × String) :=
  (sections.filter fun part => nameOf part = "interface").flatMap entriesOf

theorem interface_not_block {part : List String} (h : nameOf part = "interface") :
    ¬IsPeerBlock part := by
  rw [IsPeerBlock, h]
  rintro ⟨hpeer, -⟩
  revert hpeer
  decide

theorem setEntries_append {conf conf' : ParsedConf} {entries : List (String × String)}
    (h : setEntries parseNet conf entries = .ok conf') (more : List (String × String)) :
    setEntries parseNet conf (entries ++ more) = setEntries parseNet conf' more :=
  foldlM_append_ok _ h more

theorem setEntries_withPeers (conf : ParsedConf) (peers : List ParsedPeer)
    (entries : List (String × String)) :
    setEntries parseNet { conf with peers := peers } entries =
      (setEntries parseNet conf entries).map fun conf => { conf with peers := peers } := by
  have hstep : ∀ conf : ParsedConf, ∀ entry ∈ entries,
      ({ conf with peers := peers } : ParsedConf).setKey parseNet entry.1 entry.2 =
        (conf.setKey parseNet entry.1 entry.2).map fun conf => { conf with peers := peers } := by
    intro conf entry _
    rw [ParsedConf.setKey, ParsedConf.setKey]
    split_ifs
    · cases decodeKey entry.2 <;> rfl
    · rfl
    · cases parseIpnets parseNet entry.2 <;> rfl
    · cases parseDns entry.2 <;> rfl
    · rfl
    · rfl
  exact @foldlM_map _ _ _ _ (fun conf : ParsedConf => { conf with peers := peers }) _ hstep conf

/-- The peer sections of a list that make a peer, read into these peers. -/
def PeersRead (parseNet : String → Except String IpNet) (sections : List (List String))
    (peers : List ParsedPeer) : Prop :=
  List.Forall₂ (fun part peer => setPeerEntries parseNet {} (entriesOf part) = .ok peer)
    (sections.filter fun part => decide (IsPeerBlock part)) peers

theorem peersRead_block {part : List String} (h : IsPeerBlock part) (rest : List (List String))
    (peers : List ParsedPeer) :
    PeersRead parseNet (part :: rest) peers ↔
      ∃ peer others, setPeerEntries parseNet {} (entriesOf part) = .ok peer ∧
        PeersRead parseNet rest others ∧ peers = peer :: others := by
  rw [PeersRead, List.filter_cons_of_pos (by simpa using h), List.forall₂_cons_left_iff]
  rfl

theorem peersRead_other {part : List String} (h : ¬IsPeerBlock part) (rest : List (List String))
    (peers : List ParsedPeer) :
    PeersRead parseNet (part :: rest) peers ↔ PeersRead parseNet rest peers := by
  rw [PeersRead, List.filter_cons_of_neg (by simpa using h)]
  rfl

/-- The sections are read if the interface entries and the peer sections are. -/
theorem foldlM_sectionEffect_iff {sections : List (List String)} {conf conf' : ParsedConf} :
    sections.foldlM (sectionEffect parseNet) conf = .ok conf' ↔
      ∃ read added, setEntries parseNet conf (interfaceEntries sections) = .ok read ∧
        PeersRead parseNet sections added ∧ conf' = { read with peers := conf.peers ++ added } := by
  induction sections generalizing conf with
  | nil =>
      constructor
      · intro h
        obtain rfl : conf = conf' := Except.ok.inj h
        exact ⟨conf, [], rfl, .nil, by rw [List.append_nil]⟩
      · rintro ⟨read, added, hread, hpeers, rfl⟩
        obtain rfl : conf = read := Except.ok.inj hread
        cases hpeers
        rw [List.append_nil]
        rfl
  | cons part rest ih =>
      rw [interfaceEntries]
      by_cases hinterface : nameOf part = "interface"
      · have heffect : sectionEffect parseNet conf part =
            setEntries parseNet conf (entriesOf part) := by
          rw [sectionEffect, if_pos hinterface]
        rw [List.filter_cons_of_pos (by simpa using hinterface), List.flatMap_cons]
        simp only [peersRead_other (interface_not_block hinterface)]
        cases hset : setEntries parseNet conf (entriesOf part) with
        | error e =>
            rw [hset] at heffect
            rw [foldlM_cons_error _ heffect]
            constructor
            · intro h
              cases h
            · rintro ⟨read, added, hread, -⟩
              rw [setEntries, foldlM_append_error _ hset] at hread
              cases hread
        | ok middle =>
            rw [hset] at heffect
            rw [foldlM_cons_ok _ heffect, ih, setEntries_peers hset, setEntries_append hset]
            rfl
      · rw [List.filter_cons_of_neg (by simpa using hinterface), ← interfaceEntries]
        by_cases hblock : IsPeerBlock part
        · have heffect : sectionEffect parseNet conf part =
              (setPeerEntries parseNet {} (entriesOf part)).map fun peer =>
                { conf with peers := conf.peers ++ [peer] } := by
            rw [sectionEffect, if_neg hinterface, if_pos hblock]
          simp only [peersRead_block hblock]
          cases hpeer : setPeerEntries parseNet {} (entriesOf part) with
          | error e =>
              rw [hpeer] at heffect
              rw [foldlM_cons_error _ heffect]
              constructor
              · intro h
                cases h
              · rintro ⟨read, added, -, ⟨peer, others, hread, -⟩, -⟩
                cases hread
          | ok peer =>
              rw [hpeer] at heffect
              rw [foldlM_cons_ok _ heffect, ih, setEntries_withPeers]
              constructor
              · rintro ⟨read, added, hread, hpeers, rfl⟩
                obtain ⟨before, hbefore, rfl⟩ := map_ok hread
                refine ⟨before, peer :: added, hbefore, ⟨peer, added, rfl, hpeers, rfl⟩, ?_⟩
                rw [List.append_assoc]
                rfl
              · rintro ⟨read, added, hread, ⟨peer', others, hpeer', hothers, rfl⟩, rfl⟩
                obtain rfl : peer = peer' := Except.ok.inj hpeer'
                rw [hread]
                refine ⟨_, others, rfl, hothers, ?_⟩
                rw [List.append_assoc]
                rfl
        · have heffect : sectionEffect parseNet conf part = .ok conf := by
            rw [sectionEffect, if_neg hinterface, if_neg hblock]
          simp only [peersRead_other hblock]
          rw [foldlM_cons_ok _ heffect, ih]

/-! ## The MTU -/

def isKey (key : String) (entry : String × String) : Bool := decide (entry.1 = key)

/-- A number that does not fit is no MTU. -/
def readMtu (entry : String × String) : WgntResult (Option UInt16) :=
  .ok (parseU16 entry.2).toOption

theorem separates_mtu :
    Separates (fun (conf : ParsedConf) entry => conf.setKey parseNet entry.1 entry.2)
      (isKey "mtu") readMtu ParsedConf.mtu fun mtu conf => { conf with mtu := mtu } where
  var_withVar _ _ := rfl
  withVar_var _ := rfl
  withVar_withVar _ _ _ := rfl
  step_write conf entry hkey := by
    have hmtu : entry.1 = "mtu" := by simpa [isKey] using hkey
    rw [ParsedConf.setKey, hmtu, if_neg (by decide), if_neg (by decide), if_neg (by decide),
      if_neg (by decide), if_pos rfl]
    rfl
  step_other mtu conf entry hkey := by
    have hmtu : entry.1 ≠ "mtu" := by simpa [isKey] using hkey
    rw [ParsedConf.setKey, ParsedConf.setKey, if_neg hmtu]
    split_ifs
    · cases decodeKey entry.2 <;> rfl
    · rfl
    · cases parseIpnets parseNet entry.2 <;> rfl
    · cases parseDns entry.2 <;> rfl
    · rfl

def isAdapterEntry (entry : String × String) : Bool :=
  decide (entry.1 ∈ ["privatekey", "listenport", "address", "dns"])

/-- Two lists with the same entries of the adapter set the same fields but the MTU. -/
theorem setEntries_withMtu_iff {entries entries' : List (String × String)} {conf conf' : ParsedConf}
    (hsame : entries'.filter isAdapterEntry = entries.filter isAdapterEntry)
    (hrun : setEntries parseNet conf entries = .ok conf') (mtu : Option UInt16) :
    setEntries parseNet conf entries' = .ok { conf' with mtu := mtu } ↔
      (entries'.filter (isKey "mtu")).foldlM (fun _ entry => readMtu entry) conf.mtu =
        .ok mtu := by
  apply separates_mtu.foldlM_withVar_iff _ _ hsame hrun
  · intro entry hentry
    rw [isKey, decide_eq_false_iff_not]
    intro hmtu
    rw [isAdapterEntry, hmtu] at hentry
    revert hentry
    decide
  · intro conf entry hkey hother
    have hmtu : entry.1 ≠ "mtu" := by simpa [isKey] using hkey
    simp only [isAdapterEntry, decide_eq_false_iff_not, List.mem_cons, List.not_mem_nil, or_false,
      not_or] at hother
    obtain ⟨hprivate, hport, haddress, hdns⟩ := hother
    rw [ParsedConf.setKey, if_neg hprivate, if_neg hport, if_neg haddress, if_neg hdns,
      if_neg hmtu]

/-! ## The endpoint of a peer -/

def readEndpoint (entry : String × String) : WgntResult (Option SocketAddr) :=
  (parseEndpoint entry.2).map some

theorem separates_endpoint :
    Separates (fun (peer : ParsedPeer) entry => peer.setKey parseNet entry.1 entry.2)
      (isKey "endpoint") readEndpoint ParsedPeer.endpoint
      fun endpoint peer => { peer with endpoint := endpoint } where
  var_withVar _ _ := rfl
  withVar_var _ := rfl
  withVar_withVar _ _ _ := rfl
  step_write peer entry hkey := by
    have hendpoint : entry.1 = "endpoint" := by simpa [isKey] using hkey
    rw [ParsedPeer.setKey, hendpoint, if_neg (by decide), if_neg (by decide), if_pos rfl,
      readEndpoint]
    cases parseEndpoint entry.2 <;> rfl
  step_other endpoint peer entry hkey := by
    have hendpoint : entry.1 ≠ "endpoint" := by simpa [isKey] using hkey
    rw [ParsedPeer.setKey, ParsedPeer.setKey, if_neg hendpoint]
    split_ifs
    · cases decodeKey entry.2 <;> rfl
    · cases decodeKey entry.2 <;> rfl
    · cases parseIpnets parseNet entry.2 <;> rfl
    · rfl
    · rfl

def isPeerEntry (entry : String × String) : Bool :=
  decide (entry.1 ∈ ["publickey", "presharedkey", "allowedips", "persistentkeepalive"])

/-- Two lists with the same entries of a peer set the same fields but the endpoint. -/
theorem setPeerEntries_withEndpoint_iff {entries entries' : List (String × String)}
    {peer peer' : ParsedPeer}
    (hsame : entries'.filter isPeerEntry = entries.filter isPeerEntry)
    (hrun : setPeerEntries parseNet peer entries = .ok peer') (endpoint : Option SocketAddr) :
    setPeerEntries parseNet peer entries' = .ok { peer' with endpoint := endpoint } ↔
      (entries'.filter (isKey "endpoint")).foldlM (fun _ entry => readEndpoint entry)
        peer.endpoint = .ok endpoint := by
  apply separates_endpoint.foldlM_withVar_iff _ _ hsame hrun
  · intro entry hentry
    rw [isKey, decide_eq_false_iff_not]
    intro hendpoint
    rw [isPeerEntry, hendpoint] at hentry
    revert hentry
    decide
  · intro peer entry hkey hother
    have hendpoint : entry.1 ≠ "endpoint" := by simpa [isKey] using hkey
    simp only [isPeerEntry, decide_eq_false_iff_not, List.mem_cons, List.not_mem_nil, or_false,
      not_or] at hother
    obtain ⟨hpublic, hshared, hips, hkeepalive⟩ := hother
    rw [ParsedPeer.setKey, if_neg hpublic, if_neg hshared, if_neg hendpoint, if_neg hips,
      if_neg hkeepalive]

end Fields
end RouteGuard
