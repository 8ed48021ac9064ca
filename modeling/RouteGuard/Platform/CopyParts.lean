import RouteGuard.Platform.ConfBlocks
import RouteGuard.Platform.ConfKeys

/-! # The runtime copy, section by section

The rewriter starts anew at each header of the driver, but for two flags: whether
an endpoint is written, and whether an MTU.  What it writes for a section is the
header and its lines, some left out, some replaced. -/
set_option autoImplicit false
namespace RouteGuard

open Sections

/-! ## Lines and sections as the rewriter takes them -/

def isEndpointLine (line : String) : Bool :=
  startsWith (toAsciiLowercase (trim line)) "endpoint"

def isTransportLine (line : String) : Bool :=
  transportKeys.any (startsWith (toAsciiLowercase (trim line)))

def isMtuLine (line : String) : Bool := startsWith (toAsciiLowercase (trim line)) "mtu"

/-- The first line is the section name, up to case and without a comment. -/
def isNamed (name : String) (part : List String) : Bool :=
  part.head?.any fun line => eqIgnoreAsciiCase (trim line) name

theorem isNamed_cons (name header : String) (body : List String) :
    isNamed name (header :: body) = eqIgnoreAsciiCase (trim header) name := rfl

def ownLines (part : List String) : List String :=
  part.tail.takeWhile fun line => !isBracketLine line

def strayLines (part : List String) : List String :=
  part.tail.dropWhile fun line => !isBracketLine line

section Copy
variable {A : Type} [ToString A] (endpoint : A) (mtu : Nat)

/-- A line outside peer sections and `[RouteGuard]` sections. -/
def copyLine (line : String) : List String :=
  if isTransportLine line then [] else if isMtuLine line then [mtuLine mtu] else [line]

def copyPeerLine (line : String) : List String :=
  if isEndpointLine line then [endpointLine endpoint] else copyLine mtu line

/-- What is written for a section, where `wrote` says that an endpoint was written before. -/
def copyPart (wrote : Bool) (part : List String) : List String :=
  if isNamed "[routeguard]" part then (strayLines part).flatMap (copyLine mtu)
  else if isNamed "[peer]" part then
    part.take 1 ++ (ownLines part).flatMap (copyPeerLine endpoint mtu) ++
      (if wrote || (ownLines part).any isEndpointLine then [] else [endpointLine endpoint]) ++
      (strayLines part).flatMap (copyLine mtu)
  else part.flatMap (copyLine mtu)

def copyParts : Bool → List (List String) → List (List String)
  | _, [] => []
  | wrote, part :: rest =>
      copyPart endpoint mtu wrote part :: copyParts (wrote || isNamed "[peer]" part) rest

def mtuWritten (wrote : Bool) (part : List String) : Bool :=
  if isNamed "[routeguard]" part then wrote || (strayLines part).any isMtuLine
  else (if isNamed "[interface]" part then false else wrote) || part.any isMtuLine

end Copy

/-! ## Kinds of lines -/

section Kinds
variable {line : String}

theorem startsWith_head {s start : String} {c : Char} (hstart : start.toList.head? = some c)
    (h : startsWith s start = true) : s.toList.head? = some c := by
  obtain ⟨rest, hrest⟩ := List.isPrefixOf_iff_prefix.mp h
  rw [← hrest, List.head?_append, hstart]
  rfl

def firstOf (line : String) : Option Char := (toAsciiLowercase (trim line)).toList.head?

theorem first_mtu (h : isMtuLine line = true) : firstOf line = some 'm' :=
  startsWith_head (by decide) h

theorem first_endpoint (h : isEndpointLine line = true) : firstOf line = some 'e' :=
  startsWith_head (by decide) h

def transportFirsts : List Char := ['t', 'r', 'l', 'p']

theorem first_transport (h : isTransportLine line = true) :
    ∃ c ∈ transportFirsts, firstOf line = some c := by
  have hkeys : (transportKeys.all fun key =>
      transportFirsts.any fun c => key.toList.head? == some c) = true := by decide
  obtain ⟨key, hkey, hstart⟩ := List.any_eq_true.mp h
  obtain ⟨c, hc, hhead⟩ := List.any_eq_true.mp (List.all_eq_true.mp hkeys key hkey)
  exact ⟨c, hc, startsWith_head (eq_of_beq hhead) hstart⟩

theorem first_bracket (h : isBracketLine line = true) : firstOf line = some '[' := by
  obtain ⟨rest, hrest⟩ := startsWith_bracket h
  rw [firstOf, toAsciiLowercase, String.toList_ofList, hrest]
  rfl

theorem not_transport_of_first {c : Char} (hc : firstOf line = some c)
    (hnot : c ∉ transportFirsts) : isTransportLine line = false := by
  rw [← Bool.not_eq_true]
  intro h
  obtain ⟨d, hd, hfirst⟩ := first_transport h
  rw [hc] at hfirst
  cases hfirst
  exact hnot hd

theorem not_mtu_of_first {c : Char} (hc : firstOf line = some c) (hnot : c ≠ 'm') :
    isMtuLine line = false := by
  rw [← Bool.not_eq_true]
  intro h
  rw [first_mtu h] at hc
  exact hnot (Option.some.inj hc).symm

theorem copyLine_bracket (mtu : Nat) (h : isBracketLine line = true) :
    copyLine mtu line = [line] ∧ isMtuLine line = false := by
  have htransport := not_transport_of_first (first_bracket h) (by decide)
  have hmtu := not_mtu_of_first (first_bracket h) (by decide)
  rw [copyLine, htransport, hmtu]
  exact ⟨rfl, rfl⟩

theorem isMtuLine_transport (h : isTransportLine line = true) : isMtuLine line = false := by
  obtain ⟨c, hc, hfirst⟩ := first_transport h
  apply not_mtu_of_first hfirst
  rintro rfl
  revert hc
  decide

end Kinds

/-! ## One line -/

section Line
variable {A : Type} [ToString A] {endpoint : A} {mtu : Nat} {line : String}

/-- The state at a header and at the end of the text: a peer section without endpoint is closed. -/
def settled (endpoint : A) (st : RewriteState) : RewriteState :=
  { closePeer endpoint st with inPeer := false, inRg := false }

theorem rewriteLine_eq (st : RewriteState) :
    rewriteLine endpoint (some mtu) st line =
      if isBracketLine line then rewriteHeader endpoint st line (trim line)
      else if st.inRg then st
      else if st.inPeer && isEndpointLine line then
        { st with out := st.out ++ [endpointLine endpoint], wroteEndpoint := true }
      else if isTransportLine line then st
      else if isMtuLine line then { st with out := st.out ++ [mtuLine mtu], wroteMtu := true }
      else { st with out := st.out ++ [line] } := rfl

theorem rewriteLine_bracket (h : isBracketLine line = true) (st : RewriteState) :
    rewriteLine endpoint (some mtu) st line =
      { settled endpoint st with
        inRg := eqIgnoreAsciiCase (trim line) "[routeguard]"
        inPeer := eqIgnoreAsciiCase (trim line) "[peer]"
        wroteMtu := if eqIgnoreAsciiCase (trim line) "[interface]" then false
          else (settled endpoint st).wroteMtu
        out := if eqIgnoreAsciiCase (trim line) "[routeguard]" then (settled endpoint st).out
          else (settled endpoint st).out ++ [line] } := by
  rw [rewriteLine_eq, if_pos h, rewriteHeader_eq]
  rfl

theorem rewriteLine_stray (hbracket : isBracketLine line = true) (hline : isHeaderLine line = false)
    (st : RewriteState) :
    rewriteLine endpoint (some mtu) st line =
      { settled endpoint st with out := (settled endpoint st).out ++ [line] } := by
  obtain ⟨hrg, hpeer, hinterface⟩ := not_named hline
  rw [rewriteLine_bracket hbracket, hrg, hpeer, hinterface]
  rfl

theorem settled_of_not_peer {st : RewriteState} (hpeer : st.inPeer = false) :
    settled endpoint st = { st with inPeer := false, inRg := false } := by
  rw [settled, closePeer, hpeer]
  rfl

theorem settled_of_outside {st : RewriteState} (hpeer : st.inPeer = false)
    (hrg : st.inRg = false) : settled endpoint st = st := by
  obtain ⟨inPeer, inRg, wroteEndpoint, wroteMtu, out⟩ := st
  dsimp only at hpeer hrg
  rw [hpeer, hrg]
  rfl

theorem rewriteLine_copied (hbracket : isBracketLine line = false) {st : RewriteState}
    (hrg : st.inRg = false) (hkey : (st.inPeer && isEndpointLine line) = false) :
    rewriteLine endpoint (some mtu) st line =
      { st with
        wroteMtu := st.wroteMtu || isMtuLine line
        out := st.out ++ copyLine mtu line } := by
  rw [rewriteLine_eq, if_neg (by simp [hbracket]), if_neg (by simp [hrg]), hkey, copyLine]
  cases htransport : isTransportLine line with
  | true =>
      rw [isMtuLine_transport htransport, Bool.or_false, if_neg (by decide), if_pos rfl, if_pos rfl,
        List.append_nil]
  | false =>
      cases hmtu : isMtuLine line with
      | true => rw [Bool.or_true]; rfl
      | false => rw [Bool.or_false]; rfl

theorem rewriteLine_outside (hline : isHeaderLine line = false) {st : RewriteState}
    (hpeer : st.inPeer = false) (hrg : st.inRg = false) :
    rewriteLine endpoint (some mtu) st line =
      { st with
        wroteMtu := st.wroteMtu || isMtuLine line
        out := st.out ++ copyLine mtu line } := by
  cases hbracket : isBracketLine line with
  | true =>
      obtain ⟨hcopy, hmtu⟩ := copyLine_bracket mtu hbracket
      rw [rewriteLine_stray hbracket hline, settled_of_outside hpeer hrg, hcopy, hmtu,
        Bool.or_false]
  | false => exact rewriteLine_copied hbracket hrg (by rw [hpeer, Bool.false_and])

theorem rewriteLine_peer (hbracket : isBracketLine line = false) {st : RewriteState}
    (hpeer : st.inPeer = true) (hrg : st.inRg = false) :
    rewriteLine endpoint (some mtu) st line =
      { st with
        wroteEndpoint := st.wroteEndpoint || isEndpointLine line
        wroteMtu := st.wroteMtu || isMtuLine line
        out := st.out ++ copyPeerLine endpoint mtu line } := by
  rw [copyPeerLine]
  cases hendpoint : isEndpointLine line with
  | true =>
      have hmtu := not_mtu_of_first (first_endpoint hendpoint) (by decide)
      rw [rewriteLine_eq, hbracket, hrg, hpeer, hendpoint, hmtu, Bool.or_true, Bool.or_false]
      rfl
  | false =>
      rw [rewriteLine_copied hbracket hrg (by rw [hendpoint, Bool.and_false]), Bool.or_false,
        if_neg (by decide)]

theorem rewriteLine_routeguard (hbracket : isBracketLine line = false) {st : RewriteState}
    (hrg : st.inRg = true) : rewriteLine endpoint (some mtu) st line = st := by
  rw [rewriteLine_eq, hbracket, hrg]
  rfl

theorem settled_peer {st : RewriteState} (hpeer : st.inPeer = true) :
    settled endpoint st =
      { st with
        inPeer := false
        inRg := false
        wroteEndpoint := true
        out := st.out ++ if st.wroteEndpoint then [] else [endpointLine endpoint] } := by
  rw [settled, closePeer, hpeer]
  cases hwrote : st.wroteEndpoint with
  | true => simp [hwrote]
  | false => rfl

end Line

/-! ## One section -/

section Part
variable {A : Type} [ToString A] {endpoint : A} {mtu : Nat}

theorem foldl_outside {body : List String} (hbody : ∀ line ∈ body, isHeaderLine line = false)
    {st : RewriteState} (hpeer : st.inPeer = false) (hrg : st.inRg = false) :
    body.foldl (rewriteLine endpoint (some mtu)) st =
      { st with
        wroteMtu := st.wroteMtu || body.any isMtuLine
        out := st.out ++ body.flatMap (copyLine mtu) } := by
  induction body generalizing st with
  | nil => rw [List.foldl_nil, List.any_nil, Bool.or_false, List.flatMap_nil, List.append_nil]
  | cons line rest ih =>
      rw [List.foldl_cons, rewriteLine_outside (hbody line List.mem_cons_self) hpeer hrg,
        ih (fun other hother => hbody other (List.mem_cons_of_mem _ hother)) (by exact hpeer)
          (by exact hrg),
        List.any_cons, List.flatMap_cons, Bool.or_assoc, List.append_assoc]

theorem foldl_peerLines {own : List String} (hown : ∀ line ∈ own, isBracketLine line = false)
    {st : RewriteState} (hpeer : st.inPeer = true) (hrg : st.inRg = false) :
    own.foldl (rewriteLine endpoint (some mtu)) st =
      { st with
        wroteEndpoint := st.wroteEndpoint || own.any isEndpointLine
        wroteMtu := st.wroteMtu || own.any isMtuLine
        out := st.out ++ own.flatMap (copyPeerLine endpoint mtu) } := by
  induction own generalizing st with
  | nil =>
      rw [List.foldl_nil, List.any_nil, List.any_nil, Bool.or_false, Bool.or_false,
        List.flatMap_nil, List.append_nil]
  | cons line rest ih =>
      rw [List.foldl_cons, rewriteLine_peer (hown line List.mem_cons_self) hpeer hrg,
        ih (fun other hother => hown other (List.mem_cons_of_mem _ hother)) (by exact hpeer)
          (by exact hrg),
        List.any_cons, List.any_cons, List.flatMap_cons, Bool.or_assoc, Bool.or_assoc,
        List.append_assoc]

theorem foldl_routeguardLines {own : List String}
    (hown : ∀ line ∈ own, isBracketLine line = false) {st : RewriteState}
    (hrg : st.inRg = true) : own.foldl (rewriteLine endpoint (some mtu)) st = st := by
  induction own with
  | nil => rfl
  | cons line rest ih =>
      rw [List.foldl_cons, rewriteLine_routeguard (hown line List.mem_cons_self) hrg,
        ih fun other hother => hown other (List.mem_cons_of_mem _ hother)]

/-- Behind a line with a bracket the rewriter is in no section that it knows. -/
theorem settled_stray {stray : List String}
    (hfirst : ∀ line ∈ stray.head?, isBracketLine line = true)
    (hstray : ∀ line ∈ stray, isHeaderLine line = false) (st : RewriteState) :
    settled endpoint (stray.foldl (rewriteLine endpoint (some mtu)) st) =
      { settled endpoint st with
        wroteMtu := (settled endpoint st).wroteMtu || stray.any isMtuLine
        out := (settled endpoint st).out ++ stray.flatMap (copyLine mtu) } := by
  cases stray with
  | nil => rw [List.foldl_nil, List.any_nil, Bool.or_false, List.flatMap_nil, List.append_nil]
  | cons line rest =>
      have hbracket := hfirst line rfl
      obtain ⟨hcopy, hmtu⟩ := copyLine_bracket mtu hbracket
      rw [List.foldl_cons, rewriteLine_stray hbracket (hstray line List.mem_cons_self),
        foldl_outside (fun other hother => hstray other (List.mem_cons_of_mem _ hother)) rfl rfl,
        settled_of_outside rfl rfl, List.any_cons, hmtu, Bool.false_or, List.flatMap_cons, hcopy,
        List.append_assoc]

variable (endpoint mtu) in
def copyStep (st : RewriteState) (part : List String) : RewriteState :=
  { st with
    wroteEndpoint := st.wroteEndpoint || isNamed "[peer]" part
    wroteMtu := mtuWritten st.wroteMtu part
    out := st.out ++ copyPart endpoint mtu st.wroteEndpoint part }

theorem settled_section {part : List String} (hpart : IsSection isHeaderLine part)
    (st : RewriteState) :
    settled endpoint (part.foldl (rewriteLine endpoint (some mtu)) st) =
      copyStep endpoint mtu (settled endpoint st) part := by
  obtain ⟨header, body, rfl, hheader, hbody⟩ := hpart.split
  have hbracket : isBracketLine header = true := startsWith_of_isHeaderLine hheader
  obtain ⟨hcopy, hmtu⟩ := copyLine_bracket mtu hbracket
  have hsplit : ownLines (header :: body) ++ strayLines (header :: body) = body :=
    List.takeWhile_append_dropWhile
  have hown : ∀ line ∈ ownLines (header :: body), isBracketLine line = false := by
    intro line hmem
    simpa using List.mem_takeWhile_imp hmem
  have hstray : ∀ line ∈ strayLines (header :: body), isHeaderLine line = false := by
    intro line hmem
    exact hbody line ((List.dropWhile_sublist _).subset hmem)
  have hfirst : ∀ line ∈ (strayLines (header :: body)).head?, isBracketLine line = true := by
    intro line hmem
    have hnot := List.head?_dropWhile_not (fun line => !isBracketLine line) body
    rw [show (body.dropWhile fun line => !isBracketLine line).head? = some line from hmem] at hnot
    simpa using hnot
  have hpeerOut : (settled endpoint st).inPeer = false := rfl
  have hrgOut : (settled endpoint st).inRg = false := rfl
  rw [List.foldl_cons, rewriteLine_bracket hbracket, copyStep, copyPart, mtuWritten,
    isNamed_cons, isNamed_cons, isNamed_cons]
  generalize settled endpoint st = s at hpeerOut hrgOut ⊢
  obtain ⟨inPeer, inRg, wroteEndpoint, wroteMtu, out⟩ := s
  dsimp only at hpeerOut hrgOut ⊢
  subst hpeerOut hrgOut
  cases hrg : eqIgnoreAsciiCase (trim header) "[routeguard]" with
  | true =>
      have hpeer := not_peer_of_routeguard hrg
      have hinterface : eqIgnoreAsciiCase (trim header) "[interface]" = false := by
        rw [eqIgnoreAsciiCase, eq_of_beq hrg]
        decide
      rw [← hsplit, List.foldl_append, foldl_routeguardLines hown rfl, settled_stray hfirst hstray,
        hpeer, hinterface, settled_of_not_peer rfl, hsplit, Bool.or_false]
      rfl
  | false =>
      cases hpeer : eqIgnoreAsciiCase (trim header) "[peer]" with
      | true =>
          have hinterface : eqIgnoreAsciiCase (trim header) "[interface]" = false := by
            rw [eqIgnoreAsciiCase, eq_of_beq hpeer]
            decide
          have hany : (header :: body).any isMtuLine =
              ((ownLines (header :: body)).any isMtuLine ||
                (strayLines (header :: body)).any isMtuLine) := by
            rw [← List.any_append, hsplit, List.any_cons, hmtu, Bool.false_or]
          rw [hany, ← hsplit, List.foldl_append, foldl_peerLines hown rfl rfl,
            settled_stray hfirst hstray, hinterface, settled_peer rfl, hsplit]
          simp [Bool.or_assoc]
      | false =>
          rw [foldl_outside hbody rfl rfl, settled_of_outside rfl rfl, List.any_cons, hmtu,
            List.flatMap_cons, hcopy]
          simp

theorem settled_sections {sections : List (List String)}
    (h : ∀ part ∈ sections, IsSection isHeaderLine part) (st : RewriteState) :
    settled endpoint (sections.flatten.foldl (rewriteLine endpoint (some mtu)) st) =
      sections.foldl (copyStep endpoint mtu) (settled endpoint st) := by
  induction sections generalizing st with
  | nil => rfl
  | cons part rest ih =>
      rw [List.flatten_cons, List.foldl_append,
        ih fun other hother => h other (List.mem_cons_of_mem _ hother),
        settled_section (h part List.mem_cons_self), List.foldl_cons]

theorem isNamed_of_body {part : List String} (h : ∀ line ∈ part, isHeaderLine line = false) :
    isNamed "[routeguard]" part = false ∧ isNamed "[peer]" part = false ∧
      isNamed "[interface]" part = false := by
  cases part with
  | nil => exact ⟨rfl, rfl, rfl⟩
  | cons line rest => exact not_named (h line List.mem_cons_self)

theorem foldl_copyStep (parts : List (List String)) (st : RewriteState) :
    parts.foldl (copyStep endpoint mtu) st =
      { st with
        wroteEndpoint := st.wroteEndpoint || parts.any (isNamed "[peer]")
        wroteMtu := parts.foldl mtuWritten st.wroteMtu
        out := st.out ++ (copyParts endpoint mtu st.wroteEndpoint parts).flatten } := by
  induction parts generalizing st with
  | nil =>
      rw [copyParts, List.flatten_nil, List.append_nil, List.any_nil, Bool.or_false]
      rfl
  | cons part rest ih =>
      rw [List.foldl_cons, ih, List.any_cons, List.foldl_cons, copyParts, List.flatten_cons,
        ← Bool.or_assoc, ← List.append_assoc]
      rfl

theorem rewriteLines_parts (confLines : List String) :
    rewriteLines endpoint (some mtu) confLines =
      if (parts isHeaderLine confLines).foldl mtuWritten false then
        (copyParts endpoint mtu false (parts isHeaderLine confLines)).flatten
      else insertMtu (copyParts endpoint mtu false (parts isHeaderLine confLines)).flatten
        (mtuLine mtu) := by
  have hfront : ∀ line ∈ (cut isHeaderLine confLines).1, isHeaderLine line = false :=
    front_not_header confLines
  obtain ⟨hrg, hpeer, hinterface⟩ := isNamed_of_body hfront
  have hstart : settled endpoint
      ((cut isHeaderLine confLines).1.foldl (rewriteLine endpoint (some mtu)) {}) =
        copyStep endpoint mtu {} (cut isHeaderLine confLines).1 := by
    rw [foldl_outside hfront rfl rfl, settled_of_outside rfl rfl, copyStep, copyPart, mtuWritten,
      hrg, hpeer, hinterface]
    rfl
  have hrun : settled endpoint (confLines.foldl (rewriteLine endpoint (some mtu)) {}) =
      (parts isHeaderLine confLines).foldl (copyStep endpoint mtu) {} := by
    have hlines : confLines = (parts isHeaderLine confLines).flatten :=
      (flatten_parts confLines).symm
    conv_lhs => rw [hlines]
    rw [parts, List.flatten_cons, List.foldl_append,
      settled_sections (isSection_of_mem_cut confLines), hstart, List.foldl_cons]
  rw [foldl_copyStep] at hrun
  have hwrote : (confLines.foldl (rewriteLine endpoint (some mtu)) {}).wroteMtu =
      (parts isHeaderLine confLines).foldl mtuWritten false := by
    have hsettled := congrArg RewriteState.wroteMtu hrun
    rw [settled, closePeer] at hsettled
    split at hsettled
    · exact hsettled
    · exact hsettled
  have hout : (closePeer endpoint (confLines.foldl (rewriteLine endpoint (some mtu)) {})).out =
      (copyParts endpoint mtu false (parts isHeaderLine confLines)).flatten :=
    congrArg RewriteState.out hrun
  rw [rewriteLines_eq]
  dsimp only
  rw [hwrote, hout]

end Part
end RouteGuard
