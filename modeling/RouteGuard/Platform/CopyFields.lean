import RouteGuard.Platform.CopySections

/-! # What the copy of a section sets

An interface section and its copy set the same fields but the MTU, a peer section
and its copy the same fields but the endpoint.  The endpoint of the copy is the
new one where it is written and no other comes behind it. -/
set_option autoImplicit false
namespace RouteGuard

open Sections FirstError

section Part
variable {endpoint : ScopedSocketAddr} {mtu : Nat} {part : List String}

/-! ## Sections of any name -/

theorem nameOf_copy (htail : ∀ line ∈ part.tail, isHeaderLine line = false)
    (hrg : isNamed "[routeguard]" part = false) (wrote : Bool) :
    nameOf (copyPart endpoint mtu wrote part) = nameOf part := by
  cases part with
  | nil => rfl
  | cons header body =>
      cases hheader : isHeaderLine header with
      | true => exact (nameOf_copyPart ⟨header, body, rfl, hheader, htail⟩ hrg wrote).1
      | false =>
          have hall : ∀ line ∈ header :: body, isHeaderLine line = false :=
            List.forall_mem_cons.mpr ⟨hheader, htail⟩
          rw [copyPart, hrg, (isNamed_of_body hall).2.1, if_neg (by decide), if_neg (by decide),
            nameOf, nameOf, foldl_nextName hall, foldl_nextName (not_header_copyLines hall)]

theorem copyPart_other (hrg : isNamed "[routeguard]" part = false)
    (hpeer : isNamed "[peer]" part = false) (wrote : Bool) :
    copyPart endpoint mtu wrote part = part.flatMap (copyLine mtu) := by
  rw [copyPart, hrg, hpeer, if_neg (by decide), if_neg (by decide)]

theorem copyPart_peer (hrg : isNamed "[routeguard]" part = false)
    (hpeer : isNamed "[peer]" part = true) (wrote : Bool) :
    copyPart endpoint mtu wrote part =
      part.take 1 ++ (ownLines part).flatMap (copyPeerLine endpoint mtu) ++
        (if wrote || (ownLines part).any isEndpointLine then [] else [endpointLine endpoint]) ++
        (strayLines part).flatMap (copyLine mtu) := by
  rw [copyPart, hrg, hpeer, if_neg (by decide), if_pos rfl]

/-- A named section: its header, its own lines, and those behind a stray bracket. -/
theorem part_split {name : String} (hname : isNamed name part = true) :
    ∃ header, part.take 1 = [header] ∧ eqIgnoreAsciiCase (trim header) name = true ∧
      part = [header] ++ ownLines part ++ strayLines part := by
  cases part with
  | nil => cases hname
  | cons header body =>
      refine ⟨header, rfl, hname, ?_⟩
      rw [List.append_assoc, ownLines, strayLines, List.takeWhile_append_dropWhile]
      rfl

theorem entriesOf_peer_header {header : String}
    (h : eqIgnoreAsciiCase (trim header) "[peer]" = true) : entriesOf [header] = [] := by
  obtain ⟨text, hevent, -⟩ := confEvent_named bracket_peer h
  rw [entriesOf, List.filterMap_cons, entryOf, hevent]
  rfl

theorem filter_copyPart {p : String × String → Bool} (hp : ∀ entry, p entry = true →
      isKeptKey entry.1 = true ∧ startsWith entry.1 "endpoint" = false)
    (hrg : isNamed "[routeguard]" part = false) (wrote : Bool) :
    (entriesOf (copyPart endpoint mtu wrote part)).filter p = (entriesOf part).filter p := by
  have hkept : ∀ entry, p entry = true → isKeptKey entry.1 = true := fun entry h => (hp entry h).1
  cases hpeer : isNamed "[peer]" part with
  | false => rw [copyPart_other hrg hpeer, filter_copyLines hkept]
  | true =>
      obtain ⟨header, htake, -, hsplit⟩ := part_split hpeer
      have hinserted : (entriesOf (if wrote || (ownLines part).any isEndpointLine then []
          else [endpointLine endpoint])).filter p = [] := by
        split
        · rfl
        · rw [entriesOf_endpointLine]
          apply List.filter_cons_of_neg
          intro hwritten
          have hkey := (hp _ hwritten).2
          revert hkey
          dsimp only
          decide
      rw [copyPart_peer hrg hpeer, htake]
      conv_rhs => rw [hsplit]
      simp only [entriesOf_append, List.filter_append]
      rw [filter_copyPeerLines hp, hinserted, filter_copyLines hkept, List.append_nil]

/-! ## The endpoint of a peer -/

/-- An endpoint is written into the section, in place of its own or as the first of all. -/
def Touched (wrote : Bool) (part : List String) : Prop :=
  isNamed "[peer]" part = true ∧ ((ownLines part).any isEndpointLine = true ∨ wrote = false)

/-- No other endpoint comes behind the written one. -/
def Readdressed (wrote : Bool) (part : List String) : Prop :=
  Touched wrote part ∧ (entriesOf (strayLines part)).filter (isKey "endpoint") = []

variable (endpoint) in
def writtenEndpoints (wrote : Bool) (part : List String) : List (String × String) :=
  ((ownLines part).filter isEndpointLine).map (fun _ => ("endpoint", endpoint.toString)) ++
    if wrote || (ownLines part).any isEndpointLine then [] else [("endpoint", endpoint.toString)]

theorem writtenEndpoints_eq {wrote : Bool} :
    ∀ entry ∈ writtenEndpoints endpoint wrote part, entry = ("endpoint", endpoint.toString) := by
  intro entry hentry
  rcases List.mem_append.mp hentry with hentry | hentry
  · obtain ⟨line, -, rfl⟩ := List.mem_map.mp hentry
    rfl
  · split at hentry
    · cases hentry
    · exact List.mem_singleton.mp hentry

theorem writtenEndpoints_ne_nil {wrote : Bool} (hpeer : isNamed "[peer]" part = true) :
    writtenEndpoints endpoint wrote part ≠ [] ↔ Touched wrote part := by
  rw [Touched, writtenEndpoints]
  cases hown : (ownLines part).any isEndpointLine with
  | true =>
      obtain ⟨line, hline, hendpoint⟩ := List.any_eq_true.mp hown
      have hmem : line ∈ (ownLines part).filter isEndpointLine :=
        List.mem_filter.mpr ⟨hline, hendpoint⟩
      have hne : (ownLines part).filter isEndpointLine ≠ [] := List.ne_nil_of_mem hmem
      simp [hpeer, hne]
  | false =>
      have hnone : (ownLines part).filter isEndpointLine = [] := by
        rw [List.filter_eq_nil_iff]
        exact List.any_eq_false.mp hown
      cases wrote <;> simp [hpeer, hnone]

theorem filter_endpoint_copyPart (hrg : isNamed "[routeguard]" part = false)
    (hpeer : isNamed "[peer]" part = true) (wrote : Bool) :
    (entriesOf (copyPart endpoint mtu wrote part)).filter (isKey "endpoint") =
      writtenEndpoints endpoint wrote part ++
        (entriesOf (strayLines part)).filter (isKey "endpoint") := by
  obtain ⟨header, htake, hheader, -⟩ := part_split hpeer
  have hinserted : (entriesOf (if wrote || (ownLines part).any isEndpointLine then []
      else [endpointLine endpoint])).filter (isKey "endpoint") =
        if wrote || (ownLines part).any isEndpointLine then []
        else [("endpoint", endpoint.toString)] := by
    split
    · rfl
    · rw [entriesOf_endpointLine]
      exact List.filter_cons_of_pos (by simp [isKey])
  rw [copyPart_peer hrg hpeer, htake]
  simp only [entriesOf_append, List.filter_append]
  rw [entriesOf_peer_header hheader, endpoint_copyPeerLines, hinserted,
    filter_copyLines isKeptKey_endpoint, writtenEndpoints]
  rfl

theorem endpoint_copyPart {address : SocketAddr} (haddress : address.scopeless = endpoint)
    (hrg : isNamed "[routeguard]" part = false) (wrote : Bool) {before : Option SocketAddr}
    (hread : ((entriesOf part).filter (isKey "endpoint")).foldlM
      (fun _ entry => readEndpoint entry) none = .ok before) :
    (Readdressed wrote part →
      ((entriesOf (copyPart endpoint mtu wrote part)).filter (isKey "endpoint")).foldlM
        (fun _ entry => readEndpoint entry) none = .ok (some address)) ∧
    (¬Readdressed wrote part →
      ((entriesOf (copyPart endpoint mtu wrote part)).filter (isKey "endpoint")).foldlM
        (fun _ entry => readEndpoint entry) none = .ok before) := by
  cases hpeer : isNamed "[peer]" part with
  | false =>
      constructor
      · rintro ⟨⟨hnamed, -⟩, -⟩
        rw [hpeer] at hnamed
        cases hnamed
      · intro _
        rw [copyPart_other hrg hpeer, filter_copyLines isKeptKey_endpoint]
        exact hread
  | true =>
      have hwritten : ∀ entry ∈ writtenEndpoints endpoint wrote part,
          readEndpoint entry = .ok (some address) := by
        intro entry hentry
        rw [writtenEndpoints_eq entry hentry, readEndpoint, ← haddress, parseEndpoint_scopeless]
        rfl
      rw [filter_endpoint_copyPart hrg hpeer]
      constructor
      · rintro ⟨htouched, hstray⟩
        rw [hstray, List.append_nil]
        exact foldlM_write_same hwritten ((writtenEndpoints_ne_nil hpeer).mpr htouched) none
      · intro hnot
        obtain ⟨header, -, hheader, hsplit⟩ := part_split hpeer
        rw [hsplit, entriesOf_append, entriesOf_append, entriesOf_peer_header hheader,
          List.nil_append, List.filter_append] at hread
        by_cases hstray : (entriesOf (strayLines part)).filter (isKey "endpoint") = []
        · -- nothing is written, and nothing was there
          have hnone : writtenEndpoints endpoint wrote part = [] := by
            by_contra hne
            exact hnot ⟨(writtenEndpoints_ne_nil hpeer).mp hne, hstray⟩
          have hown : (entriesOf (ownLines part)).filter (isKey "endpoint") = [] := by
            rw [filter_entriesOf, List.flatMap_eq_nil_iff]
            intro line hline
            apply not_endpoint_entry
            rw [← Bool.not_eq_true]
            intro hendpoint
            have hmem : line ∈ (ownLines part).filter isEndpointLine :=
              List.mem_filter.mpr ⟨hline, hendpoint⟩
            rw [List.map_eq_nil_iff.mp (List.append_eq_nil_iff.mp hnone).1] at hmem
            cases hmem
          rw [hown, hstray] at hread
          rw [hnone, hstray]
          exact hread
        · -- the last one decides, and it is copied as it was
          have hfirst : ∃ middle, (writtenEndpoints endpoint wrote part).foldlM
              (fun _ entry => readEndpoint entry) none = .ok middle := by
            by_cases hnone : writtenEndpoints endpoint wrote part = []
            · rw [hnone]
              exact ⟨none, rfl⟩
            · exact ⟨_, foldlM_write_same hwritten hnone none⟩
          obtain ⟨middle, hmiddle⟩ := hfirst
          rw [foldlM_append_ok _ hmiddle]
          cases hown : ((entriesOf (ownLines part)).filter (isKey "endpoint")).foldlM
              (fun _ entry => readEndpoint entry) none with
          | error e =>
              rw [foldlM_append_error _ hown] at hread
              cases hread
          | ok own =>
              rw [foldlM_append_ok _ hown] at hread
              rw [foldlM_write_start _ hstray middle own]
              exact hread

/-! ## Sections without entries -/

def isCopiedEntry (line : String) : Bool :=
  isMtuLine line || ((entryOf line).isSome && !isTransportLine line)

theorem entriesOf_copyLine_eq_nil_iff {line : String} :
    entriesOf (copyLine mtu line) = [] ↔ isCopiedEntry line = false := by
  rw [copyLine, isCopiedEntry]
  cases htransport : isTransportLine line with
  | true =>
      rw [if_pos rfl, isMtuLine_transport htransport, Bool.not_true, Bool.and_false, Bool.or_false]
      exact ⟨fun _ => rfl, fun _ => rfl⟩
  | false =>
      cases hmtu : isMtuLine line with
      | true =>
          rw [if_neg (by decide), if_pos rfl, entriesOf_mtuLine]
          simp
      | false =>
          rw [if_neg (by decide), if_neg (by decide), entriesOf, List.filterMap_cons]
          cases entryOf line <;> simp

theorem entriesOf_flatMap_eq_nil_iff {f : String → List String} {body : List String} :
    entriesOf (body.flatMap f) = [] ↔ ∀ line ∈ body, entriesOf (f line) = [] := by
  induction body with
  | nil => exact ⟨(fun _ line hline => by cases hline), fun _ => rfl⟩
  | cons line rest ih =>
      rw [List.flatMap_cons, entriesOf_append, List.append_eq_nil_iff, ih, List.forall_mem_cons]

theorem entriesOf_copyPeerLine_eq_nil_iff {line : String} :
    entriesOf (copyPeerLine endpoint mtu line) = [] ↔
      isEndpointLine line = false ∧ isCopiedEntry line = false := by
  rw [copyPeerLine]
  cases hendpoint : isEndpointLine line with
  | true =>
      rw [if_pos rfl, entriesOf_endpointLine]
      simp
  | false =>
      rw [if_neg (by decide), entriesOf_copyLine_eq_nil_iff]
      simp

/-- A section without entry in the copy: nothing is written into it, and no entry kept. -/
theorem entriesOf_copyPart_eq_nil_iff (hrg : isNamed "[routeguard]" part = false) (wrote : Bool) :
    entriesOf (copyPart endpoint mtu wrote part) = [] ↔
      ¬Touched wrote part ∧ part.any isCopiedEntry = false := by
  rw [List.any_eq_false]
  simp only [Bool.not_eq_true]
  cases hpeer : isNamed "[peer]" part with
  | false =>
      have htouched : ¬Touched wrote part := by
        rintro ⟨hnamed, -⟩
        rw [hpeer] at hnamed
        cases hnamed
      rw [copyPart_other hrg hpeer, entriesOf_flatMap_eq_nil_iff]
      simp only [entriesOf_copyLine_eq_nil_iff, htouched, not_false_eq_true, true_and]
  | true =>
      obtain ⟨header, htake, hheader, hsplit⟩ := part_split hpeer
      have hentries := entriesOf_peer_header hheader
      have hbracket : isBracketLine header = true := (peer_header hheader).1
      have hcopied : isCopiedEntry header = false := by
        rw [← @entriesOf_copyLine_eq_nil_iff mtu, (copyLine_bracket mtu hbracket).1, hentries]
      have hinserted : entriesOf (if wrote || (ownLines part).any isEndpointLine then []
          else [endpointLine endpoint]) = [] ↔
            (wrote || (ownLines part).any isEndpointLine) = true := by
        split
        · rename_i hwrote
          exact ⟨fun _ => hwrote, fun _ => rfl⟩
        · rename_i hwrote
          rw [entriesOf_endpointLine]
          exact ⟨(fun h => by cases h), fun h => absurd h hwrote⟩
      have hlines : (∀ line ∈ part, isCopiedEntry line = false) ↔
          (∀ line ∈ ownLines part, isCopiedEntry line = false) ∧
            ∀ line ∈ strayLines part, isCopiedEntry line = false := by
        conv_lhs => rw [hsplit]
        simp only [List.forall_mem_append, List.forall_mem_singleton, hcopied, true_and]
      rw [copyPart_peer hrg hpeer, htake, entriesOf_append, entriesOf_append, entriesOf_append,
        hentries, List.nil_append, List.append_eq_nil_iff, List.append_eq_nil_iff,
        entriesOf_flatMap_eq_nil_iff, entriesOf_flatMap_eq_nil_iff, hinserted, hlines, Touched]
      simp only [entriesOf_copyPeerLine_eq_nil_iff, entriesOf_copyLine_eq_nil_iff]
      constructor
      · rintro ⟨⟨hown, hwrote⟩, hstray⟩
        have hnone : (ownLines part).any isEndpointLine = false := by
          rw [List.any_eq_false]
          intro line hline
          simp [(hown line hline).1]
        rw [hnone, Bool.or_false] at hwrote
        refine ⟨?_, fun line hline => (hown line hline).2, hstray⟩
        rintro ⟨-, hendpoint | hfresh⟩
        · rw [hnone] at hendpoint
          cases hendpoint
        · rw [hwrote] at hfresh
          cases hfresh
      · rintro ⟨hnot, hown, hstray⟩
        have hnone : (ownLines part).any isEndpointLine = false := by
          rw [← Bool.not_eq_true]
          intro hendpoint
          exact hnot ⟨hpeer, Or.inl hendpoint⟩
        have hwrote : wrote = true := by
          rw [← Bool.not_eq_false]
          intro hfresh
          exact hnot ⟨hpeer, Or.inr hfresh⟩
        refine ⟨⟨fun line hline => ⟨?_, hown line hline⟩, by rw [hwrote]; rfl⟩, hstray⟩
        simpa using List.any_eq_false.mp hnone line hline

end Part
end RouteGuard
