import RouteGuard.Lib.Segments
import RouteGuard.Core.AddrRoundTrip
import RouteGuard.Core.Conf

/-! # The endpoint of a runtime copy

The runtime copy of a configuration that names a peer endpoint names the new
endpoint, in whatever order the sections of the source come. -/
set_option autoImplicit false
namespace RouteGuard

/-! ## Characters of an address -/

section Graphic

def Graphic (text : List Char) : Prop := ∀ c ∈ text, isWhitespace c = false

theorem not_digit_of_isWhitespace {c : Char} (h : isWhitespace c = true) :
    isDigitOf 16 c = false := by
  have hvalue : ∀ low high : Char, 48 ≤ low.toNat → high.toNat ≤ 122 → ¬ (low ≤ c ∧ c ≤ high) := by
    intro low high hlow hhigh hrange
    have hlow' : low.toNat ≤ c.toNat := hrange.1
    have hhigh' : c.toNat ≤ high.toNat := hrange.2
    simp only [isWhitespace, decide_eq_true_eq] at h
    omega
  have hnumber := hvalue '0' '9' (by decide) (by decide)
  have hlower := hvalue 'a' 'z' (by decide) (by decide)
  have hupper := hvalue 'A' 'Z' (by decide) (by decide)
  simp [isDigitOf, toDigit, hnumber, hlower, hupper]

theorem graphic_of_all {text : List Char} (h : text.all (fun c => !isWhitespace c) = true) :
    Graphic text := by
  intro c hmem
  simpa using List.all_eq_true.mp h c hmem

/-! ### The characters that an address is written with -/

structure AddressChars (P : Char → Prop) : Prop where
  digit : ∀ c, isDigitOf 16 c = true → P c
  dot : P '.'
  colon : P ':'

section Chars
variable {P : Char → Prop}

theorem forall_intercalate {sep : Char} (hsep : P sep) :
    ∀ (texts : List (List Char)), (∀ text ∈ texts, ∀ c ∈ text, P c) →
      ∀ c ∈ [sep].intercalate texts, P c := by
  intro texts
  induction texts with
  | nil => intro _ c hmem; cases hmem
  | cons text rest ih =>
      intro h
      cases rest with
      | nil =>
          rw [List.intercalate_singleton]
          exact h text List.mem_cons_self
      | cons second rest =>
          rw [List.intercalate_cons_cons, List.forall_mem_append, List.forall_mem_append,
            List.forall_mem_singleton]
          exact ⟨⟨h text List.mem_cons_self, hsep⟩,
            ih fun text' hmem => h text' (List.mem_cons_of_mem _ hmem)⟩

variable (hP : AddressChars P)
include hP

theorem forall_hex (n : Nat) : ∀ c ∈ Nat.toDigits 16 n, P c := fun c hmem =>
  hP.digit c (isDigitOf_toDigits (by omega) (by omega) n c hmem)

theorem forall_decimal (n : Nat) : ∀ c ∈ Nat.toDigits 10 n, P c := by
  intro c hmem
  have hdigit := isDigitOf_toDigits (by omega) (by omega) n c hmem
  apply hP.digit
  by_contra hhex
  rw [isDigitOf_ten (Bool.eq_false_iff.mpr hhex)] at hdigit
  cases hdigit

theorem forall_dottedQuad (bytes : List Nat) : ∀ c ∈ dottedQuad bytes, P c := by
  apply forall_intercalate hP.dot
  intro text hmem
  obtain ⟨byte, -, rfl⟩ := List.mem_map.mp hmem
  exact forall_decimal hP byte

theorem forall_hexGroups (groups : List Nat) : ∀ c ∈ hexGroups groups, P c := by
  apply forall_intercalate hP.colon
  intro text hmem
  obtain ⟨group, -, rfl⟩ := List.mem_map.mp hmem
  exact forall_hex hP group

theorem forall_toChars (ip : IpAddr) : ∀ c ∈ ip.toChars, P c := by
  have hcolon := hP.colon
  have hdigit := hP.digit 'f' (by decide)
  cases ip with
  | v4 bits => exact forall_dottedQuad hP (octets bits)
  | v6 bits =>
      simp only [IpAddr.toChars, ipv6Chars]
      split
      · rw [List.forall_mem_append]
        exact ⟨by simp [hcolon, hdigit], forall_dottedQuad hP _⟩
      · split
        · rw [List.forall_mem_append, List.forall_mem_append]
          exact ⟨⟨forall_hexGroups hP _, by simp [hcolon]⟩, forall_hexGroups hP _⟩
        · exact forall_hexGroups hP _

theorem forall_toString (ip : IpAddr) : ∀ c ∈ ip.toString.toList, P c := by
  rw [IpAddr.toString, String.toList_ofList]
  exact forall_toChars hP ip

theorem forall_port (port : UInt16) : ∀ c ∈ (ToString.toString port).toList, P c := by
  have htext : (ToString.toString port).toList = Nat.toDigits 10 port.toNat := Nat.toList_repr
  rw [htext]
  exact forall_decimal hP port.toNat

theorem forall_endpoint (hbrackets : ∀ c ∈ ['[', ']'], P c) (endpoint : SocketAddr) :
    ∀ c ∈ endpoint.toString.toList, P c := by
  have hopen : ∀ c ∈ "[".toList, P c := by simpa using hbrackets '[' (by simp)
  have hcolon : ∀ c ∈ ":".toList, P c := by simpa using hP.colon
  have hclose : ∀ c ∈ "]:".toList, P c := by simpa using ⟨hbrackets ']' (by simp), hP.colon⟩
  unfold SocketAddr.toString
  split
  · simp only [String.toList_append, List.forall_mem_append]
    exact ⟨⟨forall_toString hP _, hcolon⟩, forall_port hP _⟩
  · simp only [String.toList_append, List.forall_mem_append]
    exact ⟨⟨⟨hopen, forall_toString hP _⟩, hclose⟩, forall_port hP _⟩

end Chars

theorem graphic_addressChars : AddressChars fun c => isWhitespace c = false where
  digit c hdigit := by
    by_contra hspace
    rw [not_digit_of_isWhitespace (by simpa using hspace)] at hdigit
    cases hdigit
  dot := by decide
  colon := by decide

theorem addressChars_ne {d : Char} (hdigit : isDigitOf 16 d = false) (hdot : d ≠ '.')
    (hcolon : d ≠ ':') : AddressChars fun c => c ≠ d where
  digit := by
    rintro c hc rfl
    rw [hdigit] at hc
    cases hc
  dot := hdot.symm
  colon := hcolon.symm

theorem graphic_decimal (n : Nat) : Graphic (Nat.toDigits 10 n) :=
  forall_decimal graphic_addressChars n

theorem graphic_endpoint (endpoint : SocketAddr) : Graphic endpoint.toString.toList :=
  forall_endpoint graphic_addressChars (by simp; decide) endpoint

theorem endpoint_ne_nil (endpoint : SocketAddr) : endpoint.toString.toList ≠ [] := by
  unfold SocketAddr.toString
  split <;> simp

end Graphic

/-! ## Trimming -/

section Trimming

def Trimmed (text : List Char) : Prop :=
  (∀ c ∈ text.head?, isWhitespace c = false) ∧ ∀ c ∈ text.getLast?, isWhitespace c = false

theorem Graphic.trimmed {text : List Char} (h : Graphic text) : Trimmed text :=
  ⟨fun c hmem => h c (List.mem_of_mem_head? hmem),
    fun c hmem => h c (List.mem_of_mem_getLast? hmem)⟩

theorem dropWhile_of_head {text : List Char} (h : ∀ c ∈ text.head?, isWhitespace c = false) :
    text.dropWhile isWhitespace = text := by
  cases text with
  | nil => rfl
  | cons c rest => exact List.dropWhile_cons_of_neg (by simp [h c rfl])

theorem rdropWhile_of_last {text : List Char}
    (h : ∀ c ∈ text.getLast?, isWhitespace c = false) : text.rdropWhile isWhitespace = text := by
  refine List.rdropWhile_eq_self_iff.mpr fun hne => ?_
  rw [h (text.getLast hne) (List.getLast?_eq_getLast_of_ne_nil hne)]
  decide

theorem trim_of_trimmed {text : List Char} (h : Trimmed text) :
    trim (String.ofList text) = String.ofList text := by
  rw [trim, String.toList_ofList, dropWhile_of_head h.1, rdropWhile_of_last h.2]

theorem trim_blank {c : Char} (hc : isWhitespace c = true) (text : List Char) :
    trim (String.ofList (c :: text)) = trim (String.ofList text) := by
  rw [trim, trim, String.toList_ofList, String.toList_ofList, List.dropWhile_cons_of_pos hc]

theorem head?_trim (s : String) :
    (trim s).toList.head? = (s.toList.dropWhile isWhitespace).head? := by
  rw [trim, String.toList_ofList]
  cases hs : s.toList.dropWhile isWhitespace with
  | nil => rfl
  | cons c rest =>
      have hc : isWhitespace c = false := by
        have hfirst := List.head?_dropWhile_not isWhitespace s.toList
        rw [hs] at hfirst
        simpa using hfirst
      obtain ⟨dropped, hdropped⟩ := List.rdropWhile_prefix isWhitespace (c :: rest)
      cases hkept : (c :: rest).rdropWhile isWhitespace with
      | nil =>
          have hall := List.rdropWhile_eq_nil_iff.mp hkept c List.mem_cons_self
          rw [hc] at hall
          cases hall
      | cons d kept =>
          rw [hkept] at hdropped
          cases hdropped
          rfl

theorem head_trim {s : String} {c : Char} (h : s.toList.head? = some c)
    (hc : isWhitespace c = false) : (trim s).toList.head? = some c := by
  have hfirst : ∀ d ∈ s.toList.head?, isWhitespace d = false := by
    intro d hd
    rw [h] at hd
    cases hd
    exact hc
  rw [head?_trim, dropWhile_of_head hfirst, h]

theorem trim_stripReturn (text : List Char) :
    trim (String.ofList (stripReturn text)) = trim (String.ofList text) := by
  unfold stripReturn
  split
  · rename_i hlast
    obtain ⟨front, rfl⟩ := List.getLast?_eq_some_iff.mp hlast
    rw [List.dropLast_concat]
    simp only [trim, String.toList_ofList, List.dropWhile_append]
    split
    · rename_i hempty
      rw [List.isEmpty_iff.mp hempty]
      rfl
    · rw [List.rdropWhile_concat_pos _ _ _ (by decide)]
  · rfl

end Trimming

/-! ## Lines read back -/

section ReadBack

theorem mem_stripReturn {text : List Char} {c : Char} (h : c ∈ stripReturn text) : c ∈ text := by
  unfold stripReturn at h
  split at h
  · exact (List.dropLast_sublist text).subset h
  · exact h

theorem not_newline_of_linePieces :
    ∀ (pieces : List (List Char)), (∀ piece ∈ pieces, '\n' ∉ piece) →
      ∀ line ∈ linePieces pieces, '\n' ∉ line := by
  intro pieces
  induction pieces with
  | nil => intro _ line hmem; cases hmem
  | cons piece rest ih =>
      intro h line hmem
      cases rest with
      | nil =>
          simp only [linePieces] at hmem
          split at hmem
          · cases hmem
          · rw [List.mem_singleton] at hmem
            exact hmem ▸ h piece List.mem_cons_self
      | cons second rest =>
          simp only [linePieces] at hmem
          rcases List.mem_cons.mp hmem with rfl | hmem
          · exact fun hc => h piece List.mem_cons_self (mem_stripReturn hc)
          · exact ih (fun other hother => h other (List.mem_cons_of_mem _ hother)) line hmem

theorem not_newline_of_lines {text line : String} (h : line ∈ lines text) :
    '\n' ∉ line.toList := by
  obtain ⟨piece, hmem, rfl⟩ := List.mem_map.mp h
  rw [String.toList_ofList]
  exact not_newline_of_linePieces _ (Segments.not_mem_of_mem_splitOn text.toList) piece hmem

theorem linePieces_ended (pieces : List (List Char)) :
    linePieces (pieces ++ [[]]) = pieces.map stripReturn := by
  induction pieces with
  | nil => rfl
  | cons piece rest ih =>
      cases rest with
      | nil => rfl
      | cons second rest =>
          simp only [List.cons_append, linePieces, List.map_cons] at ih ⊢
          rw [ih]

/-- Lines that are written each with a line feed are read back, up to a carriage return at the
end. -/
theorem lines_written (out : List String) (hout : out ≠ [])
    (hlines : ∀ line ∈ out, '\n' ∉ line.toList) :
    lines ("\n".intercalate out ++ "\n") =
      out.map fun line => String.ofList (stripReturn line.toList) := by
  have hpieces : ("\n".intercalate out ++ "\n").toList.splitOn '\n' =
      out.map String.toList ++ [[]] := by
    rw [String.toList_append, String.toList_intercalate,
      show "\n".toList = ['\n'] from rfl, List.splitOn_append_cons_self, List.splitOn_nil,
      List.splitOn_intercalate]
    · intro piece hmem
      obtain ⟨line, hline, rfl⟩ := List.mem_map.mp hmem
      exact hlines line hline
    · simp [hout]
  rw [lines, hpieces, linePieces_ended, List.map_map, List.map_map]
  rfl

end ReadBack

/-! ## The scan -/

section Scan
variable {A : Type} (parseAddr : String → Option A)

/-- The scan looks at trimmed lines only. -/
theorem scan_stripReturn (inPeer : Bool) (out : List String) :
    scanPeerEndpoint parseAddr inPeer
      (out.map fun line => String.ofList (stripReturn line.toList)) =
    scanPeerEndpoint parseAddr inPeer out := by
  induction out generalizing inPeer with
  | nil => rfl
  | cons line rest ih =>
      have htrim : trim (String.ofList (stripReturn line.toList)) = trim line := by
        rw [trim_stripReturn, String.ofList_toList]
      simp only [List.map_cons, scanPeerEndpoint, htrim, ih]

/-- A line that is no section header and no endpoint of a peer. -/
def Passed (inPeer : Bool) (line : String) : Prop :=
  startsWith (trim line) "[" = false ∧
    (inPeer && startsWith (toAsciiLowercase (trim line)) "endpoint") = false

theorem passed_of_head (inPeer : Bool) {line : String} {c : Char}
    (hfirst : (trim line).toList.head? = some c) (hbracket : c ≠ '[')
    (hkey : c.toLower ≠ 'e') : Passed inPeer line := by
  obtain ⟨rest, hrest⟩ := List.head?_eq_some_iff.mp hfirst
  have hheader : startsWith (trim line) "[" = false := by
    simp [startsWith, hrest, List.isPrefixOf, hbracket.symm]
  have hendpoint : startsWith (toAsciiLowercase (trim line)) "endpoint" = false := by
    simp [startsWith, toAsciiLowercase, hrest, List.isPrefixOf, hkey.symm]
  exact ⟨hheader, by rw [hendpoint, Bool.and_false]⟩

theorem scan_passed {inPeer : Bool} {line : String} (h : Passed inPeer line)
    (rest : List String) :
    scanPeerEndpoint parseAddr inPeer (line :: rest) = scanPeerEndpoint parseAddr inPeer rest := by
  simp only [scanPeerEndpoint, h.1, h.2, Bool.false_eq_true, if_false]

theorem scan_header {inPeer : Bool} {line : String} (h : startsWith (trim line) "[" = true)
    (rest : List String) :
    scanPeerEndpoint parseAddr inPeer (line :: rest) =
      scanPeerEndpoint parseAddr (eqIgnoreAsciiCase (trim line) "[peer]") rest := by
  simp only [scanPeerEndpoint, h, if_true]

end Scan

/-! ## Written lines -/

structure ReadsBack {A : Type} [ToString A] (parse : String → Option A) : Prop where
  graphic : ∀ endpoint : A, Graphic (toString endpoint).toList
  ne_nil : ∀ endpoint : A, (toString endpoint).toList ≠ []
  parse_toString : ∀ endpoint : A, parse (toString endpoint) = some endpoint

theorem SocketAddr.readsBack : ReadsBack SocketAddr.parse where
  graphic := graphic_endpoint
  ne_nil := endpoint_ne_nil
  parse_toString := SocketAddr.parse_toString

section Written
variable {A : Type} [ToString A] {parse : String → Option A}

theorem trim_endpointLine (hparse : ReadsBack parse) (endpoint : A) :
    trim (endpointLine endpoint) = endpointLine endpoint := by
  have htext : endpointLine endpoint =
      String.ofList ("Endpoint = ".toList ++ (toString endpoint).toList) := by
    rw [String.ofList_append, String.ofList_toList, String.ofList_toList, endpointLine]
  rw [htext]
  apply trim_of_trimmed
  refine ⟨fun c hc => ?_, fun c hc => ?_⟩
  · cases hc
    decide
  · rw [List.getLast?_append_of_ne_nil _ (hparse.ne_nil endpoint)] at hc
    exact (hparse.graphic endpoint).trimmed.2 c hc

theorem scan_endpointLine (hparse : ReadsBack parse) (endpoint : A) (rest : List String) :
    scanPeerEndpoint parse true (endpointLine endpoint :: rest) = some endpoint := by
  have hvalue : splitOnce '=' (endpointLine endpoint) =
      some ("Endpoint ", String.ofList (' ' :: (toString endpoint).toList)) := by
    simp [splitOnce, endpointLine, List.span, List.span.loop]
  have htrim : trim (String.ofList (' ' :: (toString endpoint).toList)) = toString endpoint := by
    rw [trim_blank (by decide), trim_of_trimmed (hparse.graphic endpoint).trimmed,
      String.ofList_toList]
  have hheader : startsWith (endpointLine endpoint) "[" = false := by
    simp [startsWith, endpointLine, List.isPrefixOf]
  have hkey : startsWith (toAsciiLowercase (endpointLine endpoint)) "endpoint" = true := by
    simp [startsWith, toAsciiLowercase, endpointLine]
  simp only [scanPeerEndpoint, trim_endpointLine hparse, hheader, hkey, hvalue, htrim,
    hparse.parse_toString, Bool.false_eq_true, if_false, Bool.and_self, if_true]

theorem passed_mtuLine (inPeer : Bool) (mtu : Nat) : Passed inPeer (mtuLine mtu) := by
  have hfirst : (trim (mtuLine mtu)).toList.head? = some 'M' :=
    head_trim (by simp [mtuLine]) (by decide)
  exact passed_of_head inPeer hfirst (by decide) (by decide)

theorem not_newline_endpointLine (hparse : ReadsBack parse) (endpoint : A) :
    '\n' ∉ (endpointLine endpoint).toList := by
  rw [endpointLine, String.toList_append, List.mem_append]
  rintro (hmem | hmem)
  · revert hmem
    decide
  · have hspace := hparse.graphic endpoint '\n' hmem
    revert hspace
    decide

theorem not_newline_mtuLine (mtu : Nat) : '\n' ∉ (mtuLine mtu).toList := by
  rw [mtuLine, String.toList_append, List.mem_append]
  rintro (hmem | hmem)
  · revert hmem
    decide
  · have htext : (toString mtu).toList = Nat.toDigits 10 mtu := Nat.toList_repr
    have hspace := graphic_decimal mtu '\n' (htext ▸ hmem)
    revert hspace
    decide

end Written

/-! ## The rewrite -/

section Rewriting
variable {A : Type} [ToString A] {parse : String → Option A} {endpoint : A}

/-- The scan ends within `out`, with the new endpoint. -/
def Finds (parse : String → Option A) (endpoint : A) (out : List String) : Prop :=
  ∀ rest, scanPeerEndpoint parse false (out ++ rest) = some endpoint

/-- The scan passes `out`, and goes on inside or outside a peer section. -/
def Reaches (parse : String → Option A) (inPeer : Bool) (out : List String) : Prop :=
  ∀ rest, scanPeerEndpoint parse false (out ++ rest) = scanPeerEndpoint parse inPeer rest

omit [ToString A] in
theorem Finds.append {out : List String} (h : Finds parse endpoint out) (line : String) :
    Finds parse endpoint (out ++ [line]) := by
  intro rest
  rw [List.append_assoc]
  exact h ([line] ++ rest)

theorem Reaches.finds (hparse : ReadsBack parse) {out : List String}
    (h : Reaches parse true out) (endpoint : A) :
    Finds parse endpoint (out ++ [endpointLine endpoint]) := by
  intro rest
  rw [List.append_assoc, h, List.singleton_append, scan_endpointLine hparse]

omit [ToString A] in
theorem Reaches.passed {inPeer : Bool} {out : List String} (h : Reaches parse inPeer out)
    {line : String} (hline : Passed inPeer line) : Reaches parse inPeer (out ++ [line]) := by
  intro rest
  rw [List.append_assoc, h, List.singleton_append, scan_passed _ hline]

omit [ToString A] in
theorem Reaches.header {inPeer : Bool} {out : List String} (h : Reaches parse inPeer out)
    {line : String} (hline : startsWith (trim line) "[" = true) :
    Reaches parse (eqIgnoreAsciiCase (trim line) "[peer]") (out ++ [line]) := by
  intro rest
  rw [List.append_assoc, h, List.singleton_append, scan_header _ hline]

/-- The written lines are lines, and up to the first written endpoint the scan of them stands where
the rewrite stands; lines of a `[RouteGuard]` section are not written. -/
structure Rewriting (parse : String → Option A) (endpoint : A) (st : RewriteState) : Prop where
  lines : ∀ line ∈ st.out, '\n' ∉ line.toList
  written : st.wroteEndpoint = true → Finds parse endpoint st.out
  reading : st.wroteEndpoint = false → ∃ inPeer, Reaches parse inPeer st.out ∧
    (st.inPeer = true → inPeer = true) ∧ (st.inRg = false → inPeer = st.inPeer)

omit [ToString A] in
theorem Rewriting.start : Rewriting parse endpoint {} := by
  refine ⟨by simp, by simp, fun _ => ⟨false, fun _ => rfl, by simp, by simp⟩⟩

theorem not_newline_concat {out : List String} (h : ∀ line ∈ out, '\n' ∉ line.toList)
    {line : String} (hline : '\n' ∉ line.toList) : ∀ l ∈ out ++ [line], '\n' ∉ l.toList := by
  intro l hmem
  rcases List.mem_append.mp hmem with hmem | hmem
  · exact h l hmem
  · rw [List.mem_singleton] at hmem
    exact hmem ▸ hline

theorem Rewriting.withEndpoint (hparse : ReadsBack parse) {st st' : RewriteState}
    (h : Rewriting parse endpoint st) (hpeer : st.inPeer = true)
    (hout : st'.out = st.out ++ [endpointLine endpoint]) (hwrote : st'.wroteEndpoint = true) :
    Rewriting parse endpoint st' := by
  refine ⟨?_, fun _ => ?_, fun hnot => ?_⟩
  · rw [hout]
    exact not_newline_concat h.lines (not_newline_endpointLine hparse endpoint)
  · rw [hout]
    cases hfound : st.wroteEndpoint with
    | true => exact (h.written hfound).append _
    | false =>
        obtain ⟨inPeer, hreaches, htrue, -⟩ := h.reading hfound
        rw [htrue hpeer] at hreaches
        exact hreaches.finds hparse endpoint
  · rw [hwrote] at hnot
    cases hnot

omit [ToString A] in
theorem Rewriting.passed {st st' : RewriteState} (h : Rewriting parse endpoint st)
    (hrg : st.inRg = false) {line : String} (hline : '\n' ∉ line.toList)
    (hpassed : Passed st.inPeer line) (hout : st'.out = st.out ++ [line])
    (hpeer' : st'.inPeer = st.inPeer) (hwrote : st'.wroteEndpoint = st.wroteEndpoint) :
    Rewriting parse endpoint st' := by
  refine ⟨?_, fun hfound => ?_, fun hnot => ?_⟩
  · rw [hout]
    exact not_newline_concat h.lines hline
  · rw [hout]
    exact (h.written (hwrote ▸ hfound)).append _
  · obtain ⟨inPeer, hreaches, -, hsame⟩ := h.reading (hwrote ▸ hnot)
    have hpeer := hsame hrg
    subst hpeer
    rw [hout, hpeer']
    exact ⟨st.inPeer, hreaches.passed hpassed, id, fun _ => rfl⟩

theorem not_peer_of_routeguard {trimmed : String}
    (h : eqIgnoreAsciiCase trimmed "[routeguard]" = true) :
    eqIgnoreAsciiCase trimmed "[peer]" = false := by
  simp only [eqIgnoreAsciiCase, beq_iff_eq] at h
  rw [eqIgnoreAsciiCase, h]
  decide

theorem Rewriting.header (hparse : ReadsBack parse) {st : RewriteState}
    (h : Rewriting parse endpoint st) {line : String} (hline : '\n' ∉ line.toList)
    (hheader : startsWith (trim line) "[" = true) :
    Rewriting parse endpoint (rewriteHeader endpoint st line (trim line)) := by
  have hclosed : ∀ st' : RewriteState, Rewriting parse endpoint st' →
      (st'.inPeer = true → st'.wroteEndpoint = true) → ∀ wroteMtu : Bool,
      Rewriting parse endpoint { st' with
        inRg := eqIgnoreAsciiCase (trim line) "[routeguard]"
        inPeer := eqIgnoreAsciiCase (trim line) "[peer]"
        wroteMtu := wroteMtu
        out := if eqIgnoreAsciiCase (trim line) "[routeguard]" then st'.out
          else st'.out ++ [line] } := by
    intro st' h' hdone wroteMtu
    cases hrg : eqIgnoreAsciiCase (trim line) "[routeguard]" with
    | true =>
        refine ⟨h'.lines, h'.written, fun hnot => ?_⟩
        obtain ⟨inPeer, hreaches, -⟩ := h'.reading hnot
        refine ⟨inPeer, hreaches, fun hpeer => ?_, fun hfalse => ?_⟩
        · rw [not_peer_of_routeguard hrg] at hpeer
          cases hpeer
        · cases hfalse
    | false =>
        refine ⟨not_newline_concat h'.lines hline, fun hfound => (h'.written hfound).append _,
          fun hnot => ?_⟩
        obtain ⟨inPeer, hreaches, -⟩ := h'.reading hnot
        exact ⟨_, hreaches.header hheader, id, fun _ => rfl⟩
  unfold rewriteHeader
  by_cases hopen : (st.inPeer && !st.wroteEndpoint) = true
  · rw [Bool.and_eq_true] at hopen
    have hwritten : Rewriting parse endpoint { st with
        out := st.out ++ [endpointLine endpoint], wroteEndpoint := true } :=
      h.withEndpoint hparse hopen.1 rfl rfl
    simp only [hopen.1, hopen.2, Bool.and_self, if_true]
    exact hclosed _ hwritten (fun _ => rfl) _
  · have hdone : st.inPeer = true → st.wroteEndpoint = true := by
      intro hpeer
      simpa [hpeer] using hopen
    simp only [hopen, Bool.false_eq_true, if_false]
    exact hclosed st h hdone _

theorem rewriteLine_rewriting (hparse : ReadsBack parse) {st : RewriteState}
    (h : Rewriting parse endpoint st) (mtu : Option Nat) {line : String}
    (hline : '\n' ∉ line.toList) :
    Rewriting parse endpoint (rewriteLine endpoint mtu st line) := by
  unfold rewriteLine
  dsimp only
  split
  · exact h.header hparse hline (by assumption)
  · rename_i hheader
    rw [Bool.not_eq_true] at hheader
    split
    · exact h
    · rename_i hrg
      rw [Bool.not_eq_true] at hrg
      split
      · rename_i hkey
        rw [Bool.and_eq_true] at hkey
        exact h.withEndpoint hparse hkey.1 rfl rfl
      · rename_i hkey
        have hpassed : Passed st.inPeer line := ⟨hheader, by simpa using hkey⟩
        split
        · exact h
        · split
          · rename_i m
            split
            · exact h.passed hrg (not_newline_mtuLine m) (passed_mtuLine st.inPeer m) rfl rfl rfl
            · exact h.passed hrg hline hpassed rfl rfl rfl
          · exact h.passed hrg hline hpassed rfl rfl rfl

theorem foldl_rewriting (hparse : ReadsBack parse) (mtu : Option Nat) :
    ∀ (confLines : List String), (∀ line ∈ confLines, '\n' ∉ line.toList) →
      ∀ st, Rewriting parse endpoint st →
        Rewriting parse endpoint (confLines.foldl (rewriteLine endpoint mtu) st) := by
  intro confLines
  induction confLines with
  | nil => intro _ st h; exact h
  | cons line rest ih =>
      intro hlines st h
      rw [List.foldl_cons]
      apply ih fun other hother => hlines other (List.mem_cons_of_mem _ hother)
      exact rewriteLine_rewriting hparse h mtu (hlines line List.mem_cons_self)

end Rewriting

/-! ## The copy -/

section Copy
variable {A : Type} [ToString A] {parse : String → Option A} {endpoint : A} (mtu : Option Nat)

/-- An endpoint is written, or will be at the end of the peer section. -/
def Promised (st : RewriteState) : Prop := st.inPeer = true ∨ st.wroteEndpoint = true

theorem rewriteHeader_promised {st : RewriteState} (h : Promised st) (line trimmed : String) :
    Promised (rewriteHeader endpoint st line trimmed) := by
  right
  unfold rewriteHeader
  rcases h with hpeer | hwrote
  · cases hwrote : st.wroteEndpoint <;> simp [hpeer, hwrote]
  · simp [hwrote]

theorem rewriteLine_promised {st : RewriteState} (h : Promised st) (line : String) :
    Promised (rewriteLine endpoint mtu st line) := by
  have hsame : ∀ st' : RewriteState, st'.inPeer = st.inPeer →
      st'.wroteEndpoint = st.wroteEndpoint → Promised st' := by
    intro st' hpeer hwrote
    rw [Promised, hpeer, hwrote]
    exact h
  unfold rewriteLine
  dsimp only
  split
  · exact rewriteHeader_promised h line (trim line)
  · cases mtu with
    | none => split_ifs <;> first | exact .inr rfl | exact hsame _ rfl rfl
    | some m =>
        dsimp only
        split_ifs <;> first | exact .inr rfl | exact hsame _ rfl rfl

theorem foldl_promised (confLines : List String) {st : RewriteState} (h : Promised st) :
    Promised (confLines.foldl (rewriteLine endpoint mtu) st) := by
  induction confLines generalizing st with
  | nil => exact h
  | cons line rest ih =>
      rw [List.foldl_cons]
      exact ih (rewriteLine_promised mtu h line)

omit [ToString A] in
theorem scan_insertMtu (m : Nat) (out : List String) :
    scanPeerEndpoint parse false (insertMtu out (mtuLine m)) =
      scanPeerEndpoint parse false out := by
  have hanywhere : ∀ (first second : List String) (inPeer : Bool),
      scanPeerEndpoint parse inPeer (first ++ mtuLine m :: second) =
        scanPeerEndpoint parse inPeer (first ++ second) := by
    intro first second
    induction first with
    | nil =>
        intro inPeer
        exact scan_passed _ (passed_mtuLine inPeer m) second
    | cons line rest ih =>
        intro inPeer
        simp only [List.cons_append, scanPeerEndpoint, ih]
  unfold insertMtu
  split
  · rw [hanywhere, List.take_append_drop]
  · rw [hanywhere, List.append_nil]

theorem mem_insertMtu {out : List String} {written line : String}
    (h : line ∈ insertMtu out written) : line = written ∨ line ∈ out := by
  unfold insertMtu at h
  split at h
  · rcases List.mem_append.mp h with hmem | hmem
    · exact .inr (List.mem_of_mem_take hmem)
    · rcases List.mem_cons.mp hmem with hmem | hmem
      · exact .inl hmem
      · exact .inr (List.mem_of_mem_drop hmem)
  · rcases List.mem_append.mp h with hmem | hmem
    · exact .inr hmem
    · exact .inl (List.mem_singleton.mp hmem)

theorem rewriteLines_finds (hparse : ReadsBack parse) {confText : String}
    (hpromised : Promised ((lines confText).foldl (rewriteLine endpoint mtu) {})) :
    (∀ line ∈ rewriteLines endpoint mtu (lines confText), '\n' ∉ line.toList) ∧
      scanPeerEndpoint parse false (rewriteLines endpoint mtu (lines confText)) =
        some endpoint := by
  have hrewriting : Rewriting parse endpoint
      ((lines confText).foldl (rewriteLine endpoint mtu) {}) :=
    foldl_rewriting hparse mtu (lines confText) (fun line hmem => not_newline_of_lines hmem) {}
      Rewriting.start
  unfold rewriteLines
  generalize (lines confText).foldl (rewriteLine endpoint mtu) {} = st at hpromised hrewriting
  have hclosed : ∃ out, out = (if st.inPeer && !st.wroteEndpoint then
        st.out ++ [endpointLine endpoint] else st.out) ∧
      (∀ line ∈ out, '\n' ∉ line.toList) ∧ Finds parse endpoint out := by
    refine ⟨_, rfl, ?_⟩
    by_cases hopen : (st.inPeer && !st.wroteEndpoint) = true
    · rw [if_pos hopen]
      rw [Bool.and_eq_true] at hopen
      have hlast : Rewriting parse endpoint { st with
          out := st.out ++ [endpointLine endpoint], wroteEndpoint := true } :=
        hrewriting.withEndpoint hparse hopen.1 rfl rfl
      exact ⟨hlast.lines, hlast.written rfl⟩
    · rw [if_neg hopen]
      refine ⟨hrewriting.lines, hrewriting.written ?_⟩
      rcases hpromised with hpeer | hwrote
      · simpa [hpeer] using hopen
      · exact hwrote
  obtain ⟨out, hout, hlines, hfinds⟩ := hclosed
  have hscan := hfinds []
  rw [List.append_nil] at hscan
  dsimp only
  rw [← hout]
  cases mtu with
  | none => exact ⟨hlines, hscan⟩
  | some m =>
      dsimp only
      split
      · exact ⟨hlines, hscan⟩
      · refine ⟨fun line hmem => ?_, (scan_insertMtu m out).trans hscan⟩
        rcases mem_insertMtu hmem with rfl | hmem
        · exact not_newline_mtuLine m
        · exact hlines line hmem

theorem parsePeerEndpoint_promised (hparse : ReadsBack parse) {confText text : String}
    (hpromised : Promised ((lines confText).foldl (rewriteLine endpoint mtu) {}))
    (htext : rewriteConfEndpoint endpoint mtu confText = .ok text) :
    parsePeerEndpoint parse text = some endpoint := by
  obtain ⟨hlines, hscan⟩ := rewriteLines_finds mtu hparse hpromised
  unfold rewriteConfEndpoint at htext
  generalize rewriteLines endpoint mtu (lines confText) = out at htext hlines hscan
  cases out with
  | nil => cases htext
  | cons line rest =>
      cases htext
      rw [parsePeerEndpoint, lines_written _ (by simp) hlines, scan_stripReturn, hscan]

end Copy

end RouteGuard
