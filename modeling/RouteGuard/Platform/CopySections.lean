import RouteGuard.Platform.CopyEntries

/-! # The sections of a runtime copy

The driver cuts the copy of a text into the copies of its sections, those of
`[RouteGuard]` left out, with the inserted MTU line in one of them. -/
set_option autoImplicit false
namespace RouteGuard

open Sections FirstError

/-! ## Cuts -/

/-- A front without headers and sections, as the driver cuts a text. -/
structure IsCut (ps : List (List String)) : Prop where
  split : ∃ front sections, ps = front :: sections ∧ (∀ line ∈ front, isHeaderLine line = false) ∧
    ∀ part ∈ sections, IsSection isHeaderLine part

section Cuts

theorem isCut_parts (confLines : List String) : IsCut (parts isHeaderLine confLines) :=
  ⟨_, _, rfl, front_not_header confLines, isSection_of_mem_cut confLines⟩

theorem IsCut.parts_flatten {ps : List (List String)} (h : IsCut ps) :
    parts isHeaderLine ps.flatten = ps := by
  obtain ⟨front, sections, rfl, hfront, hsections⟩ := h.split
  rw [List.flatten_cons, parts, cut_flatten hfront hsections]

theorem IsCut.tail {ps : List (List String)} (h : IsCut ps) :
    ∀ part ∈ ps, ∀ line ∈ part.tail, isHeaderLine line = false := by
  obtain ⟨front, sections, rfl, hfront, hsections⟩ := h.split
  intro part hpart line hline
  rcases List.mem_cons.mp hpart with rfl | hpart
  · exact hfront line (List.mem_of_mem_tail hline)
  · obtain ⟨header, body, rfl, -, hbody⟩ := (hsections part hpart).split
    exact hbody line hline

theorem nameOf_section {header : String} {body : List String}
    (hbody : ∀ line ∈ body, isHeaderLine line = false) :
    nameOf (header :: body) = nextName "" header := by
  rw [nameOf, List.foldl_cons, foldl_nextName hbody]

/-- A section is named after its header, whatever the comment behind it. -/
theorem nameOf_named {name inner : String} (hname : BracketName name inner) {part : List String}
    (htail : ∀ line ∈ part.tail, isHeaderLine line = false) (h : isNamed name part = true) :
    nameOf part = inner := by
  cases part with
  | nil => cases h
  | cons header body =>
      rw [isNamed_cons] at h
      obtain ⟨text, hevent, htext⟩ := confEvent_named hname h
      have hbody : ∀ line ∈ body, isHeaderLine line = false := htail
      rw [nameOf_section hbody, nextName, hevent]
      exact htext

end Cuts

/-! ## The copies of sections -/

section Kept
variable {endpoint : ScopedSocketAddr} {mtu : Nat}

theorem not_header_mtuLine : isHeaderLine (mtuLine mtu) = false := by
  rw [isHeaderLine, confEvent_mtuLine]

theorem not_header_endpointLine : isHeaderLine (endpointLine endpoint) = false := by
  rw [isHeaderLine, confEvent_endpointLine]

theorem not_header_copyLines {body : List String}
    (hbody : ∀ line ∈ body, isHeaderLine line = false) :
    ∀ line ∈ body.flatMap (copyLine mtu), isHeaderLine line = false := by
  intro line hline
  obtain ⟨source, hsource, hcopy⟩ := List.mem_flatMap.mp hline
  rw [copyLine] at hcopy
  split_ifs at hcopy
  · cases hcopy
  · rw [List.mem_singleton.mp hcopy]
    exact not_header_mtuLine
  · rw [List.mem_singleton.mp hcopy]
    exact hbody source hsource

theorem not_header_copyPeerLines {body : List String}
    (hbody : ∀ line ∈ body, isHeaderLine line = false) :
    ∀ line ∈ body.flatMap (copyPeerLine endpoint mtu), isHeaderLine line = false := by
  intro line hline
  obtain ⟨source, hsource, hcopy⟩ := List.mem_flatMap.mp hline
  rw [copyPeerLine] at hcopy
  split_ifs at hcopy
  · rw [List.mem_singleton.mp hcopy]
    exact not_header_endpointLine
  · apply @not_header_copyLines mtu [source]
    · intro other hother
      rw [List.mem_singleton.mp hother]
      exact hbody source hsource
    · rw [List.flatMap_singleton]
      exact hcopy

variable (endpoint mtu) in
def copyBody (wrote : Bool) (part : List String) : List String :=
  if isNamed "[peer]" part then
    (ownLines part).flatMap (copyPeerLine endpoint mtu) ++
      (if wrote || (ownLines part).any isEndpointLine then [] else [endpointLine endpoint]) ++
      (strayLines part).flatMap (copyLine mtu)
  else part.tail.flatMap (copyLine mtu)

theorem copyPart_section {header : String} {body : List String}
    (hheader : isHeaderLine header = true)
    (hrg : isNamed "[routeguard]" (header :: body) = false) (wrote : Bool) :
    copyPart endpoint mtu wrote (header :: body) =
      header :: copyBody endpoint mtu wrote (header :: body) := by
  have hbracket : isBracketLine header = true := startsWith_of_isHeaderLine hheader
  rw [copyPart, copyBody, hrg, if_neg (by decide)]
  split
  · simp
  · rw [List.flatMap_cons, (copyLine_bracket mtu hbracket).1]
    rfl

theorem not_header_copyBody {part : List String}
    (htail : ∀ line ∈ part.tail, isHeaderLine line = false) (wrote : Bool) :
    ∀ line ∈ copyBody endpoint mtu wrote part, isHeaderLine line = false := by
  have hown : ∀ line ∈ ownLines part, isHeaderLine line = false := fun line hline =>
    htail line ((List.takeWhile_sublist _).subset hline)
  have hstray : ∀ line ∈ strayLines part, isHeaderLine line = false := fun line hline =>
    htail line ((List.dropWhile_sublist _).subset hline)
  rw [copyBody]
  split
  · rw [List.forall_mem_append, List.forall_mem_append]
    refine ⟨⟨not_header_copyPeerLines hown, ?_⟩, not_header_copyLines hstray⟩
    split
    · intro line hline
      cases hline
    · intro line hline
      rw [List.mem_singleton.mp hline]
      exact not_header_endpointLine
  · exact not_header_copyLines htail

theorem copyPart_isSection {part : List String} (hpart : IsSection isHeaderLine part)
    (hrg : isNamed "[routeguard]" part = false) (wrote : Bool) :
    IsSection isHeaderLine (copyPart endpoint mtu wrote part) := by
  obtain ⟨header, body, rfl, hheader, hbody⟩ := hpart.split
  rw [copyPart_section hheader hrg]
  have htail : ∀ line ∈ (header :: body).tail, isHeaderLine line = false := hbody
  exact ⟨header, _, rfl, hheader, not_header_copyBody htail wrote⟩

theorem nameOf_copyPart {part : List String} (hpart : IsSection isHeaderLine part)
    (hrg : isNamed "[routeguard]" part = false) (wrote : Bool) :
    nameOf (copyPart endpoint mtu wrote part) = nameOf part ∧
      ∀ name, isNamed name (copyPart endpoint mtu wrote part) = isNamed name part := by
  obtain ⟨header, body, rfl, hheader, hbody⟩ := hpart.split
  have htail : ∀ line ∈ (header :: body).tail, isHeaderLine line = false := hbody
  rw [copyPart_section hheader hrg, nameOf_section hbody,
    nameOf_section (not_header_copyBody htail wrote)]
  refine ⟨rfl, fun name => ?_⟩
  rw [isNamed_cons, isNamed_cons]

/-- Sections other than `[RouteGuard]` are copied to a cut. -/
theorem isCut_copyParts {ps : List (List String)} (h : IsCut ps)
    (hrg : ∀ part ∈ ps, isNamed "[routeguard]" part = false) (wrote : Bool) :
    IsCut (copyParts endpoint mtu wrote ps) := by
  obtain ⟨front, sections, rfl, hfront, hsections⟩ := h.split
  obtain ⟨hfirst, hpeer, -⟩ := isNamed_of_body hfront
  have hrest : ∀ wrote, ∀ part ∈ copyParts endpoint mtu wrote sections,
      IsSection isHeaderLine part := by
    clear h
    induction sections with
    | nil =>
        intro wrote part hpart
        cases hpart
    | cons first rest ih =>
        rw [List.forall_mem_cons, List.forall_mem_cons] at hrg
        have ih := ih (List.forall_mem_cons.mpr ⟨hrg.1, hrg.2.2⟩)
          fun part hpart => hsections part (List.mem_cons_of_mem _ hpart)
        intro wrote part hpart
        rcases List.mem_cons.mp hpart with rfl | hpart
        · exact copyPart_isSection (hsections first List.mem_cons_self) hrg.2.1 wrote
        · exact ih _ part hpart
  refine ⟨front.flatMap (copyLine mtu), copyParts endpoint mtu wrote sections, ?_,
    not_header_copyLines hfront, hrest wrote⟩
  rw [copyParts, copyPart, hfirst, hpeer, Bool.or_false]
  rfl

/-! ## Lines that are dropped -/

def plainParts (ps : List (List String)) : List (List String) :=
  ps.filter fun part => !isNamed "[routeguard]" part

theorem plainParts_dropped {part : List String} (h : isNamed "[routeguard]" part = true)
    (rest : List (List String)) : plainParts (part :: rest) = plainParts rest :=
  List.filter_cons_of_neg (by rw [h]; decide)

theorem plainParts_kept {part : List String} (h : isNamed "[routeguard]" part = false)
    (rest : List (List String)) : plainParts (part :: rest) = part :: plainParts rest :=
  List.filter_cons_of_pos (by rw [h]; rfl)

theorem plainParts_plain (ps : List (List String)) :
    ∀ part ∈ plainParts ps, isNamed "[routeguard]" part = false := by
  intro part hpart
  simpa using (List.mem_filter.mp hpart).2

theorem isCut_plainParts {ps : List (List String)} (h : IsCut ps) : IsCut (plainParts ps) := by
  obtain ⟨front, sections, rfl, hfront, hsections⟩ := h.split
  obtain ⟨hrg, -, -⟩ := isNamed_of_body hfront
  refine ⟨front, plainParts sections, ?_, hfront, ?_⟩
  · rw [plainParts_kept hrg]
  · intro part hpart
    exact hsections part (List.mem_filter.mp hpart).1

/-- No line behind a stray bracket of a `[RouteGuard]` section is an entry in the copy. -/
def StrayFree (ps : List (List String)) : Prop :=
  ∀ part ∈ ps, isNamed "[routeguard]" part = true → ∀ line ∈ strayLines part,
    isTransportLine line = true ∨ entryOf line = none ∧ isMtuLine line = false

def isEvent (line : String) : Bool := (confEvent line).isSome

theorem filterMap_isEvent (confLines : List String) :
    (confLines.filter isEvent).filterMap confEvent = confLines.filterMap confEvent := by
  rw [List.filterMap_filter]
  apply List.filterMap_congr
  intro line _
  rw [isEvent]
  cases confEvent line <;> rfl

theorem stray_not_event {body : List String} (hbody : ∀ line ∈ body, isHeaderLine line = false)
    (hfree : ∀ line ∈ body,
      isTransportLine line = true ∨ entryOf line = none ∧ isMtuLine line = false) :
    (body.flatMap (copyLine mtu)).filter isEvent = [] := by
  rw [List.filter_eq_nil_iff]
  intro line hline
  obtain ⟨source, hsource, hcopy⟩ := List.mem_flatMap.mp hline
  rw [copyLine] at hcopy
  rcases hfree source hsource with htransport | ⟨hentry, hmtu⟩
  · rw [if_pos htransport] at hcopy
    cases hcopy
  · have hheader := hbody source hsource
    rw [hmtu, if_neg (by decide : ¬false = true)] at hcopy
    split_ifs at hcopy
    · cases hcopy
    · rw [List.mem_singleton.mp hcopy, isEvent]
      rw [entryOf] at hentry
      rw [isHeaderLine] at hheader
      generalize confEvent source = event at hentry hheader ⊢
      rcases event with _ | ⟨name | ⟨key, val⟩⟩
      · decide
      · cases hheader
      · cases hentry

theorem not_peer_of_isNamed {part : List String} (h : isNamed "[routeguard]" part = true) :
    isNamed "[peer]" part = false := by
  cases part with
  | nil => rfl
  | cons header body =>
      rw [isNamed_cons] at h ⊢
      exact not_peer_of_routeguard h

/-- What is written for the dropped sections says nothing to the driver. -/
theorem filter_copyParts {ps : List (List String)}
    (htail : ∀ part ∈ ps, ∀ line ∈ part.tail, isHeaderLine line = false) (hfree : StrayFree ps)
    (wrote : Bool) :
    (copyParts endpoint mtu wrote ps).flatten.filter isEvent =
      (copyParts endpoint mtu wrote (plainParts ps)).flatten.filter isEvent := by
  induction ps generalizing wrote with
  | nil => rfl
  | cons part rest ih =>
      have ih := ih (fun other hother => htail other (List.mem_cons_of_mem _ hother))
        fun other hother => hfree other (List.mem_cons_of_mem _ hother)
      rw [copyParts, List.flatten_cons, List.filter_append, ih]
      cases hrg : isNamed "[routeguard]" part with
      | true =>
          have hstray : ∀ line ∈ strayLines part, isHeaderLine line = false := fun line hline =>
            htail part List.mem_cons_self line ((List.dropWhile_sublist _).subset hline)
          rw [plainParts_dropped hrg, copyPart, hrg, if_pos rfl,
            stray_not_event hstray (hfree part List.mem_cons_self hrg), not_peer_of_isNamed hrg,
            Bool.or_false, List.nil_append]
      | false =>
          rw [plainParts_kept hrg, copyParts, List.flatten_cons, List.filter_append]

theorem mtuWritten_plainParts {ps : List (List String)} (hfree : StrayFree ps) (wrote : Bool) :
    ps.foldl mtuWritten wrote = (plainParts ps).foldl mtuWritten wrote := by
  induction ps generalizing wrote with
  | nil => rfl
  | cons part rest ih =>
      have ih := ih fun other hother => hfree other (List.mem_cons_of_mem _ hother)
      rw [List.foldl_cons, ih]
      cases hrg : isNamed "[routeguard]" part with
      | true =>
          have hnone : (strayLines part).any isMtuLine = false := by
            rw [List.any_eq_false]
            intro line hline
            rcases hfree part List.mem_cons_self hrg line hline with htransport | ⟨-, hmtu⟩
            · simp [isMtuLine_transport htransport]
            · simp [hmtu]
          rw [plainParts_dropped hrg, mtuWritten, hrg, if_pos rfl, hnone, Bool.or_false]
      | false => rw [plainParts_kept hrg, List.foldl_cons]

end Kept

/-! ## The inserted line -/

section Inserted
variable {written : String}

def isInterfaceLine (line : String) : Bool := eqIgnoreAsciiCase (trim line) "[interface]"

theorem insertMtu_cons (line : String) (rest : List String) :
    insertMtu (line :: rest) written =
      if isInterfaceLine line then line :: written :: rest else line :: insertMtu rest written := by
  rw [insertMtu, List.findIdx?_cons]
  cases hline : isInterfaceLine line with
  | true =>
      rw [isInterfaceLine] at hline
      rw [hline]
      rfl
  | false =>
      rw [isInterfaceLine] at hline
      rw [hline, if_neg (by decide), if_neg (by decide), insertMtu]
      cases rest.findIdx? fun l => eqIgnoreAsciiCase (trim l) "[interface]" with
      | none => rfl
      | some i => rfl

theorem insertMtu_append {front : List String}
    (hfront : ∀ line ∈ front, isInterfaceLine line = false) (rest : List String) :
    insertMtu (front ++ rest) written = front ++ insertMtu rest written := by
  induction front with
  | nil => rfl
  | cons line others ih =>
      rw [List.cons_append, insertMtu_cons, hfront line List.mem_cons_self, if_neg (by decide),
        ih fun other hother => hfront other (List.mem_cons_of_mem _ hother), List.cons_append]

theorem insertMtu_split (out : List String) :
    ∃ front rest, out = front ++ rest ∧ insertMtu out written = front ++ written :: rest ∧
      (out ≠ [] → front ≠ []) := by
  induction out with
  | nil => exact ⟨[], [], rfl, rfl, fun h => absurd rfl h⟩
  | cons line others ih =>
      rw [insertMtu_cons]
      cases hline : isInterfaceLine line with
      | true => exact ⟨[line], others, rfl, rfl, fun _ => by simp⟩
      | false =>
          obtain ⟨front, rest, rfl, hinsert, -⟩ := ih
          exact ⟨line :: front, rest, rfl, by rw [hinsert]; rfl, fun _ => by simp⟩

theorem filter_insertMtu {p : String → Bool}
    (hp : ∀ line, isInterfaceLine line = true → p line = true)
    (hwritten : p written = true) (out : List String) :
    (insertMtu out written).filter p = insertMtu (out.filter p) written := by
  induction out with
  | nil =>
      rw [List.filter_nil]
      exact List.filter_cons_of_pos hwritten
  | cons line rest ih =>
      rw [insertMtu_cons]
      cases hline : isInterfaceLine line with
      | true =>
          rw [if_pos rfl, List.filter_cons_of_pos (hp line hline), List.filter_cons_of_pos hwritten,
            List.filter_cons_of_pos (hp line hline), insertMtu_cons, if_pos hline]
      | false =>
          rw [if_neg (by decide)]
          cases hkept : p line with
          | true =>
              rw [List.filter_cons_of_pos hkept, List.filter_cons_of_pos hkept, insertMtu_cons,
                hline, if_neg (by decide), ih]
          | false =>
              rw [List.filter_cons_of_neg (by simp [hkept]),
                List.filter_cons_of_neg (by simp [hkept]), ih]

/-- Where the lines that say nothing stand does not matter. -/
theorem events_insertMtu {first second : List String}
    (h : first.filter isEvent = second.filter isEvent) (mtu : Nat) :
    (insertMtu first (mtuLine mtu)).filterMap confEvent =
      (insertMtu second (mtuLine mtu)).filterMap confEvent := by
  have hnamed : ∀ line, isInterfaceLine line = true → isEvent line = true := by
    intro line hline
    obtain ⟨text, hevent, -⟩ := confEvent_named bracket_interface hline
    rw [isEvent, hevent]
    rfl
  have hwritten : isEvent (mtuLine mtu) = true := by
    rw [isEvent, confEvent_mtuLine]
    rfl
  rw [← filterMap_isEvent, filter_insertMtu hnamed hwritten, h, ← filter_insertMtu hnamed hwritten,
    filterMap_isEvent]

/-- The line that is inserted comes into an interface section. -/
def Lands (ps : List (List String)) : Prop :=
  (∃ part ∈ ps, isNamed "[interface]" part = true) ∨
    ∃ last, ps.getLast? = some last ∧ nameOf last = "interface"

theorem lands_cons {part : List String} (h : isNamed "[interface]" part = false)
    {ps : List (List String)} (hne : ps ≠ []) : Lands (part :: ps) ↔ Lands ps := by
  have hlast : (part :: ps).getLast? = ps.getLast? := by
    cases ps with
    | nil => exact absurd rfl hne
    | cons other rest => rfl
  rw [Lands, Lands, hlast]
  refine or_congr ?_ Iff.rfl
  constructor
  · rintro ⟨other, hother, hnamed⟩
    rcases List.mem_cons.mp hother with rfl | hother
    · rw [h] at hnamed
      cases hnamed
    · exact ⟨other, hother, hnamed⟩
  · rintro ⟨other, hother, hnamed⟩
    exact ⟨other, List.mem_cons_of_mem _ hother, hnamed⟩

theorem insertMtu_part {part : List String}
    (htail : ∀ line ∈ part.tail, isHeaderLine line = false) :
    (isNamed "[interface]" part = true →
      ∀ rest, insertMtu (part ++ rest) written = insertMtu part written ++ rest) ∧
    (isNamed "[interface]" part = false →
      ∀ rest, insertMtu (part ++ rest) written = part ++ insertMtu rest written) := by
  have hbody : ∀ line ∈ part.tail, isInterfaceLine line = false := fun line hline =>
    (not_named (htail line hline)).2.2
  cases part with
  | nil => exact ⟨(fun h => by cases h), fun _ rest => rfl⟩
  | cons header body =>
      rw [isNamed_cons]
      constructor
      · intro hnamed rest
        have hheader : isInterfaceLine header = true := hnamed
        rw [List.cons_append, insertMtu_cons, insertMtu_cons, hheader]
        rfl
      · intro hnamed rest
        apply insertMtu_append
        intro line hline
        rcases List.mem_cons.mp hline with rfl | hline
        · exact hnamed
        · exact hbody line hline

/-- The line comes into one part, an interface section if there is one to find. -/
theorem insertMtu_flatten {ps : List (List String)} (hne : ps ≠ [])
    (htail : ∀ part ∈ ps, ∀ line ∈ part.tail, isHeaderLine line = false) :
    ∃ before part after, ps = before ++ part :: after ∧
      insertMtu ps.flatten written = (before ++ insertMtu part written :: after).flatten ∧
      (nameOf part = "interface" ↔ Lands ps) := by
  induction ps with
  | nil => exact absurd rfl hne
  | cons part rest ih =>
      obtain ⟨hhere, hlater⟩ := @insertMtu_part written part (htail part List.mem_cons_self)
      cases hnamed : isNamed "[interface]" part with
      | true =>
          have hname : nameOf part = "interface" :=
            nameOf_named bracket_interface (htail part List.mem_cons_self) hnamed
          refine ⟨[], part, rest, rfl, ?_, fun _ => Or.inl ⟨part, List.mem_cons_self, hnamed⟩,
            fun _ => hname⟩
          rw [List.flatten_cons, hhere hnamed]
          rfl
      | false =>
          cases rest with
          | nil =>
              refine ⟨[], part, [], rfl, by simp, fun hname => Or.inr ⟨part, rfl, hname⟩, ?_⟩
              rintro (⟨other, hother, hinterface⟩ | ⟨last, hlast, hname⟩)
              · rw [List.mem_singleton.mp hother, hnamed] at hinterface
                cases hinterface
              · cases hlast
                exact hname
          | cons second others =>
              obtain ⟨before, target, after, hsplit, hinsert, hlands⟩ := ih (by simp)
                fun other hother => htail other (List.mem_cons_of_mem _ hother)
              refine ⟨part :: before, target, after, by rw [hsplit]; rfl, ?_, ?_⟩
              · rw [List.flatten_cons, hlater hnamed, hinsert]
                rfl
              · rw [hlands, lands_cons hnamed (by simp)]

/-- A cut with one entry more in one of its parts. -/
structure EntryAdded (entry : String × String) (ps ps' : List (List String)) (inInterface : Prop) :
    Prop where
  isCut : IsCut ps'
  split : ∃ before part part' after, ps = before ++ part :: after ∧
    ps' = before ++ part' :: after ∧ nameOf part' = nameOf part ∧
    (nameOf part = "interface" ↔ inInterface) ∧
    ∃ front rest, entriesOf part = front ++ rest ∧ entriesOf part' = front ++ entry :: rest

theorem entryAdded_insertMtu {ps : List (List String)} (h : IsCut ps) (mtu : Nat) :
    ∃ ps', insertMtu ps.flatten (mtuLine mtu) = ps'.flatten ∧
      EntryAdded ("mtu", toString mtu) ps ps' (Lands ps) := by
  have hne : ps ≠ [] := by
    obtain ⟨front, sections, rfl, -⟩ := h.split
    simp
  obtain ⟨before, part, after, hps, hinsert, hlands⟩ :=
    @insertMtu_flatten (mtuLine mtu) ps hne h.tail
  obtain ⟨first, rest, hpart, hwritten, hfirst⟩ := @insertMtu_split (mtuLine mtu) part
  refine ⟨_, hinsert, ?_, before, part, insertMtu part (mtuLine mtu), after, hps, rfl, ?_, hlands,
    entriesOf first, entriesOf rest, ?_, ?_⟩
  · obtain ⟨front, sections, hcut, hfront, hsections⟩ := h.split
    rw [hps] at hcut
    cases before with
    | nil =>
        cases hcut
        refine ⟨_, _, rfl, ?_, hsections⟩
        rw [hwritten]
        rw [hpart] at hfront
        rw [List.forall_mem_append] at hfront ⊢
        rw [List.forall_mem_cons]
        exact ⟨hfront.1, not_header_mtuLine, hfront.2⟩
    | cons other before =>
        rw [List.cons_append] at hcut
        obtain ⟨rfl, rfl⟩ := List.cons.inj hcut
        refine ⟨other, before ++ insertMtu part (mtuLine mtu) :: after, rfl, hfront, ?_⟩
        rw [List.forall_mem_append, List.forall_mem_cons] at hsections ⊢
        obtain ⟨hbefore, hsection, hafter⟩ := hsections
        refine ⟨hbefore, ?_, hafter⟩
        obtain ⟨header, body, hsplit, hheader, hbody⟩ := hsection.split
        rw [hwritten]
        cases first with
        | nil => exact absurd rfl (hfirst (by simp [hsplit]))
        | cons header' others =>
            rw [hpart, List.cons_append] at hsplit
            obtain ⟨rfl, rfl⟩ := List.cons.inj hsplit
            refine ⟨header', others ++ mtuLine mtu :: rest, rfl, hheader, ?_⟩
            rw [List.forall_mem_append] at hbody ⊢
            rw [List.forall_mem_cons]
            exact ⟨hbody.1, not_header_mtuLine, hbody.2⟩
  · have hskip : ∀ name, nextName name (mtuLine mtu) = name := by
      intro name
      rw [nextName, confEvent_mtuLine]
    rw [hwritten, hpart, nameOf, nameOf, List.foldl_append, List.foldl_cons, hskip,
      List.foldl_append]
  · rw [hpart, entriesOf_append]
  · rw [hwritten, entriesOf_append]
    conv_lhs => rw [← List.singleton_append, entriesOf_append, entriesOf_mtuLine]
    rfl

end Inserted
end RouteGuard
