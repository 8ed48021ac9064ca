import RouteGuard.Core.ScopedAddr
import RouteGuard.Platform.ConfFields
import RouteGuard.Platform.CopyParts
import RouteGuard.Platform.WgKeys

/-! # What the driver finds in a runtime copy

The lines that the rewriter writes are entries of the driver, and read back.  The
entries of a section are in its copy, but for those of the keys the rewriter
looks for. -/
set_option autoImplicit false
namespace RouteGuard

open Sections FirstError

/-! ## Written lines -/

section Written

theorem plain_endpoint : PlainKey "Endpoint".toList where
  graphic := graphic_of_all (by decide)
  ne_nil := by decide
  no_comment := by decide
  no_sign := by decide
  no_header := by decide

theorem plain_mtu : PlainKey "MTU".toList where
  graphic := graphic_of_all (by decide)
  ne_nil := by decide
  no_comment := by decide
  no_sign := by decide
  no_header := by decide

theorem confEvent_endpointLine (endpoint : ScopedSocketAddr) :
    confEvent (endpointLine endpoint) = some (.entry "endpoint" endpoint.toString) := by
  have hcomment : '#' ∉ endpoint.toString.toList := by
    intro hmem
    exact ScopedSocketAddr.forall_chars
      (addressChars_ne (by decide : isDigitOf 16 '#' = false) (by decide) (by decide))
      (by simp) endpoint '#' hmem rfl
  have htext : endpointLine endpoint =
      String.ofList ("Endpoint".toList ++ ' ' :: '=' :: ' ' :: endpoint.toString.toList) := by
    rw [endpointLine, ← String.toList_inj, String.toList_append, String.toList_ofList,
      String.toList_ofList]
    rfl
  rw [htext, confEvent_entry plain_endpoint (ScopedSocketAddr.graphic_toString endpoint)
    (ScopedSocketAddr.readsBack.ne_nil endpoint) hcomment, String.ofList_toList,
    String.ofList_toList, show toAsciiLowercase "Endpoint" = "endpoint" by decide]

theorem confEvent_mtuLine (mtu : Nat) :
    confEvent (mtuLine mtu) = some (.entry "mtu" (toString mtu)) := by
  have hdigits : (toString mtu).toList = Nat.toDigits 10 mtu := Nat.toList_repr
  have hcomment : '#' ∉ Nat.toDigits 10 mtu := by
    intro hmem
    exact forall_decimal (addressChars_ne (by decide : isDigitOf 16 '#' = false) (by decide)
      (by decide)) mtu '#' hmem rfl
  have htext : mtuLine mtu =
      String.ofList ("MTU".toList ++ ' ' :: '=' :: ' ' :: Nat.toDigits 10 mtu) := by
    rw [mtuLine, ← String.toList_inj, String.toList_append, String.toList_ofList,
      String.toList_ofList, hdigits]
    rfl
  rw [htext, confEvent_entry plain_mtu (graphic_decimal mtu) Nat.toDigits_ne_nil hcomment,
    ← hdigits, String.ofList_toList, String.ofList_toList,
    show toAsciiLowercase "MTU" = "mtu" by decide]

/-- An address without a scope is read by the driver. -/
theorem parseEndpoint_scopeless (endpoint : SocketAddr) :
    parseEndpoint endpoint.scopeless.toString = .ok endpoint := by
  rw [SocketAddr.scopeless_toString]
  obtain ⟨ip, port⟩ := endpoint
  cases ip with
  | v4 bits =>
      have hbracket : AddressChars fun c => c ≠ '[' :=
        addressChars_ne (by decide) (by decide) (by decide)
      have hplain : startsWith (SocketAddr.toString ⟨.v4 bits, port⟩) "[" = false := by
        rw [← Bool.not_eq_true]
        intro hstart
        obtain ⟨rest, hrest⟩ := startsWith_bracket hstart
        have hmem : '[' ∈ (SocketAddr.toString ⟨.v4 bits, port⟩).toList := by
          rw [hrest]
          exact List.mem_cons_self
        simp only [SocketAddr.toString, String.toList_append, List.mem_append] at hmem
        rcases hmem with (hmem | hmem) | hmem
        · exact forall_toString hbracket _ '[' hmem rfl
        · revert hmem
          decide
        · exact forall_port hbracket _ '[' hmem rfl
      rw [parseEndpoint, if_neg (by simp [hplain]), SocketAddr.parse_toString]
  | v6 bits =>
      have htext : (SocketAddr.toString ⟨.v6 bits, port⟩).toList =
          ('[' :: (IpAddr.v6 bits).toString.toList) ++
            ']' :: ':' :: (ToString.toString port).toList := by
        simp [SocketAddr.toString]
      have hplain : ∀ c ∈ '[' :: (IpAddr.v6 bits).toString.toList, (c != ']') = true := by
        have hbracket : AddressChars fun c => c ≠ ']' :=
          addressChars_ne (by decide) (by decide) (by decide)
        intro c hc
        rw [bne_iff_ne]
        rcases List.mem_cons.mp hc with rfl | hc
        · decide
        · exact forall_toString hbracket _ c hc
      have hspan : ((SocketAddr.toString ⟨.v6 bits, port⟩).toList.span fun c => c != ']') =
          ('[' :: (IpAddr.v6 bits).toString.toList,
            ']' :: ':' :: (ToString.toString port).toList) := by
        rw [htext, List.span_eq_takeWhile_dropWhile, List.takeWhile_append_of_pos hplain,
          List.dropWhile_append_of_pos hplain, List.takeWhile_cons_of_neg (by simp),
          List.dropWhile_cons_of_neg (by simp), List.append_nil]
      have hstart : startsWith (SocketAddr.toString ⟨.v6 bits, port⟩) "[" = true := by
        apply startsWith_of_head
        rw [htext]
        rfl
      have hport : afterNextByte (':' :: (ToString.toString port).toList) =
          .ok (ToString.toString port) := by
        rw [afterNextByte, if_pos (by decide), String.ofList_toList]
      rw [parseEndpoint, if_pos hstart, parseBracketed, hspan]
      dsimp only
      rw [List.drop_one, List.tail_cons, String.ofList_toList, IpAddr.parse_toString]
      dsimp only
      rw [hport]
      dsimp only
      rw [parseU16_toString]

theorem readMtu_written (mtu : UInt16) :
    readMtu ("mtu", toString mtu.toNat) = .ok (some mtu) := by
  have hread := parseU16_toString mtu
  rw [readMtu]
  exact congrArg (fun result : Except ParseIntError UInt16 => Except.ok result.toOption) hread

end Written

/-! ## Keys of entries -/

section Keys
variable {line key val : String}

theorem keyStart_of_all {start : List Char}
    (h : start.all (fun c => !isWhitespace c && c != '=') = true) : KeyStart start := by
  have hall : ∀ c ∈ start, isWhitespace c = false ∧ c ≠ '=' := by
    intro c hc
    simpa using List.all_eq_true.mp h c hc
  exact ⟨fun c hc => (hall c hc).1, fun hmem => (hall '=' hmem).2 rfl⟩

theorem isEndpointLine_entry (h : confEvent line = some (.entry key val)) :
    isEndpointLine line = startsWith key "endpoint" :=
  startsWith_entry h (keyStart_of_all (by decide))

theorem isMtuLine_entry (h : confEvent line = some (.entry key val)) :
    isMtuLine line = startsWith key "mtu" :=
  startsWith_entry h (keyStart_of_all (by decide))

theorem isTransportLine_entry (h : confEvent line = some (.entry key val)) :
    isTransportLine line = transportKeys.any (startsWith key) := by
  have hkeys : (transportKeys.all fun start =>
      start.toList.all fun c => !isWhitespace c && c != '=') = true := by decide
  rw [Bool.eq_iff_iff, isTransportLine, List.any_eq_true, List.any_eq_true]
  refine exists_congr fun start => and_congr_right fun hmem => ?_
  rw [startsWith_entry h (keyStart_of_all (List.all_eq_true.mp hkeys start hmem))]

theorem entryOf_eq_some_iff {entry : String × String} :
    entryOf line = some entry ↔ confEvent line = some (.entry entry.1 entry.2) := by
  rw [entryOf]
  generalize confEvent line = event
  rcases event with _ | ⟨name | ⟨key, val⟩⟩
  · simp
  · simp
  · simp [Prod.ext_iff]

/-- The rewriter neither drops an entry of the key nor writes it anew. -/
def isKeptKey (key : String) : Bool :=
  !transportKeys.any (startsWith key) && !startsWith key "mtu"

end Keys

/-! ## Entries of copied lines -/

section Entries
variable {p : String × String → Bool} {mtu : Nat}

theorem entriesOf_append (first second : List String) :
    entriesOf (first ++ second) = entriesOf first ++ entriesOf second := List.filterMap_append

theorem entriesOf_mtuLine : entriesOf [mtuLine mtu] = [("mtu", toString mtu)] := by
  rw [entriesOf, List.filterMap_cons, entryOf, confEvent_mtuLine]
  rfl

theorem entriesOf_endpointLine (endpoint : ScopedSocketAddr) :
    entriesOf [endpointLine endpoint] = [("endpoint", endpoint.toString)] := by
  rw [entriesOf, List.filterMap_cons, entryOf, confEvent_endpointLine]
  rfl

theorem filter_entry_eq_nil {line : String}
    (h : ∀ entry, entryOf line = some entry → p entry = false) :
    (entriesOf [line]).filter p = [] := by
  rw [entriesOf, List.filterMap_cons]
  cases hentry : entryOf line with
  | none => rfl
  | some entry => simp [h entry hentry]

theorem filter_copyLine (hp : ∀ entry, p entry = true → isKeptKey entry.1 = true) (line : String) :
    (entriesOf (copyLine mtu line)).filter p = (entriesOf [line]).filter p := by
  have hdropped : isTransportLine line = true ∨ isMtuLine line = true →
      (entriesOf [line]).filter p = [] := by
    intro h
    apply filter_entry_eq_nil
    intro entry hentry
    rw [entryOf_eq_some_iff] at hentry
    rw [isTransportLine_entry hentry, isMtuLine_entry hentry] at h
    rw [← Bool.not_eq_true]
    intro hkept
    have hkey := hp entry hkept
    rw [isKeptKey, Bool.and_eq_true, Bool.not_eq_true', Bool.not_eq_true'] at hkey
    rcases h with h | h
    · rw [hkey.1] at h
      cases h
    · rw [hkey.2] at h
      cases h
  have hmtuEntry : p ("mtu", toString mtu) = false := by
    rw [← Bool.not_eq_true]
    intro hkept
    have hkey := hp _ hkept
    revert hkey
    dsimp only
    decide
  rw [copyLine]
  cases htransport : isTransportLine line with
  | true =>
      rw [if_pos rfl, hdropped (Or.inl htransport)]
      rfl
  | false =>
      cases hmtu : isMtuLine line with
      | true =>
          rw [if_neg (by decide), if_pos rfl, hdropped (Or.inr hmtu), entriesOf_mtuLine,
            List.filter_cons_of_neg (by rw [hmtuEntry]; decide)]
          rfl
      | false => rw [if_neg (by decide), if_neg (by decide)]

theorem entriesOf_flatMap_filter {f : String → List String} {g : String → List (String × String)}
    (h : ∀ line, (entriesOf (f line)).filter p = g line) (body : List String) :
    (entriesOf (body.flatMap f)).filter p = body.flatMap g := by
  induction body with
  | nil => rfl
  | cons line rest ih =>
      rw [List.flatMap_cons, entriesOf_append, List.filter_append, h, ih, List.flatMap_cons]

theorem filter_entriesOf (body : List String) :
    (entriesOf body).filter p = body.flatMap fun line => (entriesOf [line]).filter p := by
  conv_lhs => rw [← List.flatMap_singleton' body]
  exact entriesOf_flatMap_filter (fun line => rfl) body

theorem flatMap_ite {X : Type} (q : String → Bool) (x : X) (body : List String) :
    (body.flatMap fun line => if q line then [x] else []) = (body.filter q).map fun _ => x := by
  induction body with
  | nil => rfl
  | cons line rest ih =>
      rw [List.flatMap_cons, List.filter_cons, ih]
      split <;> rfl

theorem filter_copyLines (hp : ∀ entry, p entry = true → isKeptKey entry.1 = true)
    (body : List String) :
    (entriesOf (body.flatMap (copyLine mtu))).filter p = (entriesOf body).filter p := by
  rw [filter_entriesOf body, entriesOf_flatMap_filter fun line => filter_copyLine hp line]

theorem mtu_copyLines (body : List String) :
    (entriesOf (body.flatMap (copyLine mtu))).filter (isKey "mtu") =
      (body.filter isMtuLine).map fun _ => ("mtu", toString mtu) := by
  have hline : ∀ line, (entriesOf (copyLine mtu line)).filter (isKey "mtu") =
      if isMtuLine line then [("mtu", toString mtu)] else [] := by
    intro line
    rw [copyLine]
    cases htransport : isTransportLine line with
    | true =>
        rw [if_pos rfl, isMtuLine_transport htransport]
        rfl
    | false =>
        cases hmtu : isMtuLine line with
        | true =>
            rw [if_neg (by decide), if_pos rfl, if_pos rfl, entriesOf_mtuLine]
            simp [isKey]
        | false =>
            rw [if_neg (by decide), if_neg (by decide), if_neg (by decide)]
            apply filter_entry_eq_nil
            intro entry hentry
            rw [entryOf_eq_some_iff] at hentry
            rw [isMtuLine_entry hentry] at hmtu
            rw [isKey, decide_eq_false_iff_not]
            intro hkey
            rw [hkey] at hmtu
            revert hmtu
            decide
  rw [entriesOf_flatMap_filter hline, flatMap_ite]

/-! ## Entries of copied peer lines -/

variable {endpoint : ScopedSocketAddr}

theorem filter_copyPeerLines (hp : ∀ entry, p entry = true →
      isKeptKey entry.1 = true ∧ startsWith entry.1 "endpoint" = false) (body : List String) :
    (entriesOf (body.flatMap (copyPeerLine endpoint mtu))).filter p =
      (entriesOf body).filter p := by
  have hline : ∀ line, (entriesOf (copyPeerLine endpoint mtu line)).filter p =
      (entriesOf [line]).filter p := by
    intro line
    rw [copyPeerLine]
    cases hendpoint : isEndpointLine line with
    | true =>
        have hwritten : p ("endpoint", endpoint.toString) = false := by
          rw [← Bool.not_eq_true]
          intro hkept
          have hkey := (hp _ hkept).2
          revert hkey
          dsimp only
          decide
        have hdropped : (entriesOf [line]).filter p = [] := by
          apply filter_entry_eq_nil
          intro entry hentry
          rw [entryOf_eq_some_iff] at hentry
          rw [isEndpointLine_entry hentry] at hendpoint
          rw [← Bool.not_eq_true]
          intro hkept
          rw [(hp entry hkept).2] at hendpoint
          cases hendpoint
        rw [if_pos rfl, hdropped, entriesOf_endpointLine,
          List.filter_cons_of_neg (by rw [hwritten]; decide)]
        rfl
    | false =>
        rw [if_neg (by decide)]
        exact filter_copyLine (fun entry hentry => (hp entry hentry).1) line
  rw [filter_entriesOf body, entriesOf_flatMap_filter hline]

theorem isKeptKey_endpoint (entry : String × String) (h : isKey "endpoint" entry = true) :
    isKeptKey entry.1 = true := by
  rw [isKey, decide_eq_true_eq] at h
  rw [h]
  decide

theorem not_endpoint_entry {line : String} (h : isEndpointLine line = false) :
    (entriesOf [line]).filter (isKey "endpoint") = [] := by
  apply filter_entry_eq_nil
  intro entry hentry
  rw [entryOf_eq_some_iff] at hentry
  rw [isEndpointLine_entry hentry] at h
  rw [isKey, decide_eq_false_iff_not]
  intro hkey
  rw [hkey] at h
  revert h
  decide

/-- Every endpoint line is written anew, and no other line is an endpoint entry. -/
theorem endpoint_copyPeerLines (body : List String) :
    (entriesOf (body.flatMap (copyPeerLine endpoint mtu))).filter (isKey "endpoint") =
      (body.filter isEndpointLine).map fun _ => ("endpoint", endpoint.toString) := by
  have hline : ∀ line,
      (entriesOf (copyPeerLine endpoint mtu line)).filter (isKey "endpoint") =
        if isEndpointLine line then [("endpoint", endpoint.toString)] else [] := by
    intro line
    rw [copyPeerLine]
    cases hendpoint : isEndpointLine line with
    | true =>
        rw [if_pos rfl, if_pos rfl, entriesOf_endpointLine]
        simp [isKey]
    | false =>
        rw [if_neg (by decide), if_neg (by decide), filter_copyLine isKeptKey_endpoint,
          not_endpoint_entry hendpoint]
  rw [entriesOf_flatMap_filter hline, flatMap_ite]

end Entries
end RouteGuard
