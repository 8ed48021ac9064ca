import RouteGuard.Platform.CopyFields

/-! # The driver's reading of a runtime copy

The copy of a configuration is read as the configuration is, with the new MTU and
the new endpoint for the first peer, exactly if the first peer's section gets the
new endpoint, every other peer's keeps its own, and the MTU line comes into an
interface section. -/
set_option autoImplicit false
namespace RouteGuard

open Sections FirstError

/-! ## The adapter in the copy -/

section Adapter
variable {endpoint : ScopedSocketAddr} {mtu : Nat}

theorem adapter_kept (entry : String × String) (h : isAdapterEntry entry = true) :
    isKeptKey entry.1 = true ∧ startsWith entry.1 "endpoint" = false := by
  have hall : ∀ key ∈ ["privatekey", "listenport", "address", "dns"],
      isKeptKey key = true ∧ startsWith key "endpoint" = false := by decide
  rw [isAdapterEntry, decide_eq_true_eq] at h
  exact hall entry.1 h

theorem peer_kept (entry : String × String) (h : isPeerEntry entry = true) :
    isKeptKey entry.1 = true ∧ startsWith entry.1 "endpoint" = false := by
  have hall : ∀ key ∈ ["publickey", "presharedkey", "allowedips", "persistentkeepalive"],
      isKeptKey key = true ∧ startsWith key "endpoint" = false := by decide
  rw [isPeerEntry, decide_eq_true_eq] at h
  exact hall entry.1 h

theorem interfaceEntries_cons (part : List String) (rest : List (List String)) :
    interfaceEntries (part :: rest) =
      (if nameOf part = "interface" then entriesOf part else []) ++ interfaceEntries rest := by
  rw [interfaceEntries, List.filter_cons]
  by_cases hname : nameOf part = "interface"
  · rw [if_pos (by simpa using hname), if_pos hname, List.flatMap_cons]
    rfl
  · rw [if_neg (by simpa using hname), if_neg hname]
    rfl

structure Copyable (ps : List (List String)) : Prop where
  tail : ∀ part ∈ ps, ∀ line ∈ part.tail, isHeaderLine line = false
  plain : ∀ part ∈ ps, isNamed "[routeguard]" part = false

theorem Copyable.head {part : List String} {rest : List (List String)}
    (h : Copyable (part :: rest)) :
    (∀ line ∈ part.tail, isHeaderLine line = false) ∧ isNamed "[routeguard]" part = false :=
  ⟨h.tail part List.mem_cons_self, h.plain part List.mem_cons_self⟩

theorem Copyable.rest {part : List String} {rest : List (List String)}
    (h : Copyable (part :: rest)) : Copyable rest :=
  ⟨fun other hother => h.tail other (List.mem_cons_of_mem _ hother),
    fun other hother => h.plain other (List.mem_cons_of_mem _ hother)⟩

theorem adapter_copyParts {ps : List (List String)} (h : Copyable ps) (wrote : Bool) :
    (interfaceEntries (copyParts endpoint mtu wrote ps)).filter isAdapterEntry =
      (interfaceEntries ps).filter isAdapterEntry := by
  induction ps generalizing wrote with
  | nil => rfl
  | cons part rest ih =>
      obtain ⟨htail, hplain⟩ := h.head
      rw [copyParts, interfaceEntries_cons, interfaceEntries_cons, nameOf_copy htail hplain,
        List.filter_append, List.filter_append, ih h.rest]
      split
      · rw [filter_copyPart adapter_kept hplain]
      · rfl

/-- Every MTU line of the interface sections is one with the new MTU. -/
theorem mtu_copyParts {ps : List (List String)} (h : Copyable ps) (wrote : Bool) :
    (interfaceEntries (copyParts endpoint mtu wrote ps)).filter (isKey "mtu") =
      ((ps.filter fun part => nameOf part = "interface").flatMap fun part =>
        part.filter isMtuLine).map fun _ => ("mtu", toString mtu) := by
  induction ps generalizing wrote with
  | nil => rfl
  | cons part rest ih =>
      obtain ⟨htail, hplain⟩ := h.head
      rw [copyParts, interfaceEntries_cons, nameOf_copy htail hplain, List.filter_append,
        ih h.rest, List.filter_cons]
      by_cases hname : nameOf part = "interface"
      · have hpeer : isNamed "[peer]" part = false := by
          rw [← Bool.not_eq_true]
          intro hnamed
          rw [nameOf_named bracket_peer htail hnamed] at hname
          revert hname
          decide
        rw [if_pos hname, if_pos (by simpa using hname), copyPart_other hplain hpeer,
          mtu_copyLines, List.flatMap_cons, List.map_append]
      · rw [if_neg hname, if_neg (by simpa using hname)]
        rfl

end Adapter

/-! ## One peer in the copy -/

def NamesEndpoint (endpoint : ScopedSocketAddr) (part : List String) : Prop :=
  ∃ entry address, ((entriesOf part).filter (isKey "endpoint")).getLast? = some entry ∧
    parseEndpoint entry.2 = .ok address ∧ address.scopeless = endpoint

section Peer
variable {parseNet : String → Except String IpNet} {endpoint : ScopedSocketAddr} {mtu : Nat}
  {part : List String} {peer : ParsedPeer} {address : SocketAddr}

theorem endpoint_run (hread : setPeerEntries parseNet {} (entriesOf part) = .ok peer) :
    ((entriesOf part).filter (isKey "endpoint")).foldlM (fun _ entry => readEndpoint entry) none =
      .ok peer.endpoint :=
  (setPeerEntries_withEndpoint_iff rfl hread peer.endpoint).mp hread

theorem namesEndpoint_iff (haddress : address.scopeless = endpoint)
    (hread : setPeerEntries parseNet {} (entriesOf part) = .ok peer) :
    NamesEndpoint endpoint part ↔ peer.endpoint = some address := by
  have hlast := foldlM_write_getLast (endpoint_run hread)
  constructor
  · rintro ⟨entry, other, hentry, hparse, hother⟩
    obtain rfl : other = address :=
      SocketAddr.scopeless_injective (hother.trans haddress.symm)
    rcases hlast with ⟨hnone, -⟩ | ⟨entry', hentry', hwrite⟩
    · rw [hentry] at hnone
      cases hnone
    · rw [hentry] at hentry'
      cases hentry'
      rw [readEndpoint, hparse] at hwrite
      exact (Except.ok.inj hwrite).symm
  · intro hendpoint
    rw [hendpoint] at hlast
    rcases hlast with ⟨-, hnone⟩ | ⟨entry, hentry, hwrite⟩
    · cases hnone
    · obtain ⟨other, hparse, hother⟩ := map_ok hwrite
      cases hother
      exact ⟨entry, address, hentry, hparse, haddress⟩

theorem setPeerEntries_copyPart (haddress : address.scopeless = endpoint)
    (hplain : isNamed "[routeguard]" part = false)
    (hread : setPeerEntries parseNet {} (entriesOf part) = .ok peer) (wrote : Bool)
    (read : Option SocketAddr) :
    setPeerEntries parseNet {} (entriesOf (copyPart endpoint mtu wrote part)) =
        .ok { peer with endpoint := read } ↔
      (Readdressed wrote part ∧ read = some address) ∨
        (¬Readdressed wrote part ∧ read = peer.endpoint) := by
  rw [setPeerEntries_withEndpoint_iff (filter_copyPart peer_kept hplain wrote) hread]
  obtain ⟨hnew, hold⟩ := @endpoint_copyPart endpoint mtu part address haddress hplain wrote _
    (endpoint_run hread)
  by_cases h : Readdressed wrote part
  · rw [hnew h]
    simp only [Except.ok.injEq, h, true_and, not_true_eq_false, false_and, or_false]
    exact eq_comm
  · rw [hold h]
    simp only [Except.ok.injEq, h, not_false_eq_true, true_and, false_and, false_or]
    exact eq_comm

theorem block_copyPart (htail : ∀ line ∈ part.tail, isHeaderLine line = false)
    (hplain : isNamed "[routeguard]" part = false) (wrote : Bool) :
    IsPeerBlock (copyPart endpoint mtu wrote part) ↔
      nameOf part = "peer" ∧ (Touched wrote part ∨ part.any isCopiedEntry = true) := by
  rw [IsPeerBlock, nameOf_copy htail hplain, ne_eq, entriesOf_copyPart_eq_nil_iff hplain]
  refine and_congr Iff.rfl ?_
  rw [not_and_or, not_not, Bool.not_eq_false]

end Peer

/-! ## All peers in the copy -/

def wroteIn (sections : List (List String)) : Bool := sections.any (isNamed "[peer]")

def peerIn (sections : List (List String)) : Bool :=
  sections.any fun part => decide (IsPeerBlock part)

/-- A peer section, where it stands, gets the endpoint that its peer is to have: the first the new
one, the others their own.  A section without a peer stays one. -/
structure PeerFits (endpoint : ScopedSocketAddr) (before : List (List String))
    (part : List String) : Prop where
  other : ¬IsPeerBlock part → ¬Touched (wroteIn before) part ∧ part.any isMtuLine = false
  first : IsPeerBlock part → peerIn before = false →
    Readdressed (wroteIn before) part ∨ NamesEndpoint endpoint part
  later : IsPeerBlock part → peerIn before = true → Readdressed (wroteIn before) part →
    NamesEndpoint endpoint part

def StaysPeer (before : List (List String)) (part : List String) : Prop :=
  IsPeerBlock part → Touched (wroteIn before) part ∨ part.any isCopiedEntry = true

section Peers
variable {parseNet : String → Except String IpNet} {endpoint : ScopedSocketAddr} {mtu : Nat}
  {address : SocketAddr}

theorem wroteIn_concat (done : List (List String)) (part : List String) :
    wroteIn (done ++ [part]) = (wroteIn done || isNamed "[peer]" part) := by
  rw [wroteIn, wroteIn, List.any_append, List.any_cons, List.any_nil, Bool.or_false]

theorem peerIn_concat (done : List (List String)) (part : List String) :
    peerIn (done ++ [part]) = (peerIn done || decide (IsPeerBlock part)) := by
  rw [peerIn, peerIn, List.any_append, List.any_cons, List.any_nil, Bool.or_false]

/-- The first section and the others, with the sections before them. -/
theorem splits_from_cons {P : List (List String) → List String → Prop}
    {done : List (List String)} {part : List String} {rest : List (List String)} :
    (∀ before other after, part :: rest = before ++ other :: after → P (done ++ before) other) ↔
      P done part ∧ ∀ before other after, rest = before ++ other :: after →
        P ((done ++ [part]) ++ before) other := by
  rw [@forall_splits_cons _ (fun before other => P (done ++ before) other), List.append_nil]
  simp only [List.append_assoc, List.singleton_append]

/-- If every peer keeps an entry, the copy has no fewer peers. -/
theorem length_copyParts {ps : List (List String)} (h : Copyable ps)
    (done : List (List String))
    (hstays : ∀ before part after, ps = before ++ part :: after → StaysPeer (done ++ before) part) :
    (ps.filter fun part => decide (IsPeerBlock part)).length ≤
      ((copyParts endpoint mtu (wroteIn done) ps).filter fun part =>
        decide (IsPeerBlock part)).length := by
  induction ps generalizing done with
  | nil => exact Nat.le_refl 0
  | cons part rest ih =>
      obtain ⟨htail, hplain⟩ := h.head
      rw [splits_from_cons] at hstays
      obtain ⟨hfirst, hrest⟩ := hstays
      have hlater := ih h.rest (done ++ [part]) hrest
      rw [wroteIn_concat] at hlater
      rw [copyParts]
      by_cases hblock : IsPeerBlock part
      · have hcopy : IsPeerBlock (copyPart endpoint mtu (wroteIn done) part) :=
          (block_copyPart htail hplain _).mpr ⟨hblock.1, hfirst hblock⟩
        rw [List.filter_cons_of_pos (by simpa using hblock),
          List.filter_cons_of_pos (by simpa using hcopy), List.length_cons, List.length_cons]
        omega
      · rw [List.filter_cons_of_neg (by simpa using hblock), List.filter_cons]
        split
        · rw [List.length_cons]
          omega
        · exact hlater

theorem peersRead_length {ps : List (List String)} {peers : List ParsedPeer}
    (h : PeersRead parseNet ps peers) :
    (ps.filter fun part => decide (IsPeerBlock part)).length = peers.length :=
  List.Forall₂.length_eq h

def readdressed (address : SocketAddr) (seen : Bool) (peers : List ParsedPeer) : List ParsedPeer :=
  if seen then peers
  else peers.modifyHead fun peer => { peer with endpoint := some address }

theorem length_readdressed (address : SocketAddr) (seen : Bool) (peers : List ParsedPeer) :
    (readdressed address seen peers).length = peers.length := by
  rw [readdressed]
  split
  · rfl
  · exact List.length_modifyHead

theorem any_isCopiedEntry {part : List String} (h : entriesOf part = []) :
    part.any isCopiedEntry = part.any isMtuLine := by
  have hnone : ∀ line ∈ part, entryOf line = none := List.filterMap_eq_nil_iff.mp h
  rw [Bool.eq_iff_iff, List.any_eq_true, List.any_eq_true]
  refine exists_congr fun line => and_congr_right fun hline => ?_
  rw [isCopiedEntry, hnone line hline]
  simp

theorem peerFits_empty {done : List (List String)} {part : List String}
    (htail : ∀ line ∈ part.tail, isHeaderLine line = false)
    (hplain : isNamed "[routeguard]" part = false) (hname : nameOf part = "peer")
    (hempty : ¬IsPeerBlock part) :
    PeerFits endpoint done part ↔ ¬IsPeerBlock (copyPart endpoint mtu (wroteIn done) part) := by
  have hentries : entriesOf part = [] := by
    by_contra hne
    exact hempty ⟨hname, hne⟩
  rw [block_copyPart htail hplain, any_isCopiedEntry hentries, and_iff_right hname, not_or,
    Bool.not_eq_true]
  exact ⟨fun h => h.other hempty, fun h => ⟨fun _ => h, fun hblock => absurd hblock hempty,
    fun hblock => absurd hblock hempty⟩⟩

theorem peerFits_block {done : List (List String)} {part : List String} {peer : ParsedPeer}
    (haddress : address.scopeless = endpoint) (hplain : isNamed "[routeguard]" part = false)
    (hblock : IsPeerBlock part)
    (hread : setPeerEntries parseNet {} (entriesOf part) = .ok peer) :
    PeerFits endpoint done part ↔
      setPeerEntries parseNet {} (entriesOf (copyPart endpoint mtu (wroteIn done) part)) =
        .ok { peer with endpoint := if peerIn done then peer.endpoint else some address } := by
  have hnames := namesEndpoint_iff haddress hread
  rw [setPeerEntries_copyPart haddress hplain hread]
  cases hseen : peerIn done with
  | false =>
      rw [if_neg (by decide)]
      constructor
      · intro h
        rcases h.first hblock hseen with hwritten | hnamed
        · exact Or.inl ⟨hwritten, rfl⟩
        · by_cases hwritten : Readdressed (wroteIn done) part
          · exact Or.inl ⟨hwritten, rfl⟩
          · exact Or.inr ⟨hwritten, (hnames.mp hnamed).symm⟩
      · intro h
        refine ⟨fun hempty => absurd hblock hempty, fun _ _ => ?_, fun _ hlater => ?_⟩
        · rcases h with ⟨hwritten, -⟩ | ⟨-, hsame⟩
          · exact Or.inl hwritten
          · exact Or.inr (hnames.mpr hsame.symm)
        · rw [hseen] at hlater
          cases hlater
  | true =>
      rw [if_pos rfl]
      constructor
      · intro h
        by_cases hwritten : Readdressed (wroteIn done) part
        · exact Or.inl ⟨hwritten, hnames.mp (h.later hblock hseen hwritten)⟩
        · exact Or.inr ⟨hwritten, rfl⟩
      · intro h
        refine ⟨fun hempty => absurd hblock hempty, fun _ hfirst => ?_, fun _ _ hwritten => ?_⟩
        · rw [hseen] at hfirst
          cases hfirst
        · rcases h with ⟨-, hsame⟩ | ⟨hnot, -⟩
          · exact hnames.mpr hsame
          · exact absurd hwritten hnot

theorem peersRead_copyParts (haddress : address.scopeless = endpoint) {ps : List (List String)}
    (h : Copyable ps) (done : List (List String)) {peers : List ParsedPeer}
    (hread : PeersRead parseNet ps peers)
    (hstays : ∀ before part after, ps = before ++ part :: after → StaysPeer (done ++ before) part) :
    PeersRead parseNet (copyParts endpoint mtu (wroteIn done) ps)
        (readdressed address (peerIn done) peers) ↔
      ∀ before part after, ps = before ++ part :: after → nameOf part = "peer" →
        PeerFits endpoint (done ++ before) part := by
  induction ps generalizing done peers with
  | nil =>
      cases hread
      constructor
      · intro _ before part after hsplit
        simp at hsplit
      · intro _
        rw [readdressed]
        split
        · exact .nil
        · exact .nil
  | cons part rest ih =>
      obtain ⟨htail, hplain⟩ := h.head
      rw [splits_from_cons] at hstays
      obtain ⟨hfirst, hrest⟩ := hstays
      rw [@splits_from_cons fun before part => nameOf part = "peer" → PeerFits endpoint before part]
      have hcopy := @block_copyPart endpoint mtu part htail hplain (wroteIn done)
      have hseen := peerIn_concat done part
      by_cases hblock : IsPeerBlock part
      · -- the section's peer is the next of both
        obtain ⟨peer, others, hpeer, hothers, rfl⟩ := (peersRead_block hblock _ _).mp hread
        have hlater := ih h.rest (done ++ [part]) hothers hrest
        rw [decide_eq_true hblock, Bool.or_true] at hseen
        rw [hseen, readdressed, if_pos rfl, wroteIn_concat] at hlater
        have htarget : readdressed address (peerIn done) (peer :: others) =
            { peer with endpoint := if peerIn done then peer.endpoint else some address } ::
              others := by
          rw [readdressed]
          cases peerIn done <;> rfl
        rw [copyParts, peersRead_block (hcopy.mpr ⟨hblock.1, hfirst hblock⟩), htarget, ← hlater,
          @peerFits_block _ _ mtu _ _ _ _ haddress hplain hblock hpeer]
        constructor
        · rintro ⟨peer', others', hpeer', hothers', hcons⟩
          obtain ⟨rfl, rfl⟩ := List.cons.inj hcons
          exact ⟨fun _ => hpeer', hothers'⟩
        · rintro ⟨hpeer', hothers'⟩
          exact ⟨_, _, hpeer' hblock.1, hothers', rfl⟩
      · have hothers := (peersRead_other hblock _ _).mp hread
        have hlater := ih h.rest (done ++ [part]) hothers hrest
        rw [decide_eq_false hblock, Bool.or_false] at hseen
        rw [hseen, wroteIn_concat] at hlater
        by_cases hcopied : IsPeerBlock (copyPart endpoint mtu (wroteIn done) part)
        · -- one peer more than there is to be
          have hname := (hcopy.mp hcopied).1
          constructor
          · intro hcopies
            rw [copyParts, peersRead_block hcopied] at hcopies
            obtain ⟨peer, others', -, hothers', hcons⟩ := hcopies
            have hlength := congrArg List.length hcons
            rw [length_readdressed, List.length_cons, ← peersRead_length hothers,
              ← peersRead_length hothers', ← wroteIn_concat] at hlength
            have hmore := @length_copyParts endpoint mtu _ h.rest (done ++ [part]) hrest
            omega
          · rintro ⟨hfits, -⟩
            exact absurd hcopied ((peerFits_empty htail hplain hname hblock).mp (hfits hname))
        · rw [copyParts, peersRead_other hcopied, hlater]
          refine ⟨fun hfits => ⟨fun hname => ?_, hfits⟩, fun hfits => hfits.2⟩
          exact (peerFits_empty htail hplain hname hblock).mpr hcopied

end Peers
end RouteGuard
