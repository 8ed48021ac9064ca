import RouteGuard.Lib.DnsMessage
import RouteGuard.Platform.Dns

/-! # What the DNS proxy reads from a reply

No packet makes `parse_dns_response` leave its buffers, and every TTL it returns
is within the bounds.  On an exchange in the wire format it returns the addresses
of the records. -/
set_option autoImplicit false
namespace RouteGuard

open ByteAccess DnsMessage

/-! ## The loops over a name -/

section Loops
variable {msg : Bytes} {off : Nat} {len : UInt8}

theorem offset_room (h : off < msg.length) (len : UInt8) : off + 1 + len.toNat < 2 ^ 64 := by
  have hlength := msg.length_bound
  have hbyte := len.toNat_lt
  omega

theorem qnameLabels_end (h : msg.length ≤ off) (labels : List String) :
    qnameLabels msg off labels = .ok (some labels) := by
  rw [qnameLabels, if_neg (by omega)]

theorem qnameLabels_step (h : msg.byteAt off = .ok len) (labels : List String) :
    qnameLabels msg off labels =
      if len = 0 ∨ len &&& 0xC0 = 0xC0 then .ok (some labels)
      else if msg.length < off + 1 + len.toNat then .ok none
      else qnameLabels msg (off + 1 + len.toNat)
        (labels ++ [fromUtf8Lossy ((msg.bytes.drop (off + 1)).take len.toNat)]) := by
  have hlt := (byteAt_eq_ok h).2
  have hroom := offset_room hlt len
  have hstart : addOffset off 1 = .ok (off + 1) := addOffset_ok (by omega)
  have hstop : addOffset (off + 1) len.toNat = .ok (off + 1 + len.toNat) := addOffset_ok hroom
  rw [qnameLabels, if_pos hlt, h]
  dsimp only
  by_cases hzero : len = 0
  · rw [if_pos hzero, if_pos (Or.inl hzero)]
  · by_cases hpointer : len &&& 0xC0 = 0xC0
    · rw [if_neg hzero, if_pos hpointer, if_pos (Or.inr hpointer)]
    · rw [if_neg hzero, if_neg hpointer, if_neg (not_or.mpr ⟨hzero, hpointer⟩)]
      split
      · rename_i fault hfault
        rw [hstart] at hfault
        cases hfault
      · rename_i start hok
        rw [hstart] at hok
        cases hok
        split
        · rename_i fault hfault
          rw [hstop] at hfault
          cases hfault
        · rename_i stop hok
          rw [hstop] at hok
          cases hok
          split
          · rfl
          · rename_i hinside
            rw [slice_ok (by omega) (by omega), Nat.add_sub_cancel_left]

theorem skipQname_end (h : msg.length ≤ off) : skipQname msg off = .ok none := by
  rw [skipQname, if_neg (by omega)]

theorem skipQname_step (h : msg.byteAt off = .ok len) :
    skipQname msg off =
      if len = 0 then .ok (some (off + 1, false))
      else if len &&& 0xC0 = 0xC0 then .ok (some (off + 2, true))
      else skipQname msg (off + 1 + len.toNat) := by
  have hlt := (byteAt_eq_ok h).2
  have hroom := offset_room hlt len
  have hlength := msg.length_bound
  have hnext : addOffset off (1 + len.toNat) = .ok (off + 1 + len.toNat) := by
    rw [addOffset_ok (by omega), Nat.add_assoc]
  rw [skipQname, if_pos hlt, h]
  dsimp only
  split_ifs with hzero hpointer
  · rw [addOffset_ok (by omega)]
    rfl
  · rw [addOffset_ok (by omega)]
    rfl
  · split
    · rename_i fault hfault
      rw [hnext] at hfault
      cases hfault
    · rename_i next hok
      rw [hnext] at hok
      cases hok
      rfl

end Loops

/-! ## Arbitrary packets -/

section Safe
variable {msg : Bytes}

theorem qnameLabels_returns (off : Nat) (labels : List String) :
    Returns (qnameLabels msg off labels) fun _ => True := by
  induction hleft : msg.length - off using Nat.strong_induction_on generalizing off labels with
  | _ left ih =>
      by_cases hlt : off < msg.length
      · obtain ⟨len, hlen⟩ := byteAt_of_lt hlt
        rw [qnameLabels_step hlen]
        split_ifs
        · exact returns_ok trivial
        · exact returns_ok trivial
        · exact ih _ (by omega) _ _ rfl
      · rw [qnameLabels_end (by omega)]
        exact returns_ok trivial

theorem parseQname_returns (off : Nat) : Returns (parseQname msg off) fun _ => True :=
  (qnameLabels_returns off []).map fun _ _ => trivial

/-- The offset behind a name is at most one byte behind the message. -/
theorem skipQname_returns (off : Nat) :
    Returns (skipQname msg off) fun found => ∀ next compressed,
      found = some (next, compressed) → off ≤ next ∧ next ≤ msg.length + 1 := by
  induction hleft : msg.length - off using Nat.strong_induction_on generalizing off with
  | _ left ih =>
      by_cases hlt : off < msg.length
      · obtain ⟨len, hlen⟩ := byteAt_of_lt hlt
        rw [skipQname_step hlen]
        split_ifs
        · apply returns_ok
          rintro next compressed ⟨⟩
          omega
        · apply returns_ok
          rintro next compressed ⟨⟩
          omega
        · refine (ih _ (by omega) _ rfl).mono fun found hfound next compressed hnext => ?_
          obtain ⟨hstart, hstop⟩ := hfound next compressed hnext
          omega
      · rw [skipQname_end (by omega)]
        apply returns_ok
        rintro next compressed ⟨⟩

/-- The data of a record of an address type, with the length of such an address. -/
def IsAddressData (rtype : UInt16) (data : List UInt8) (address : IpAddr) : Prop :=
  (rtype = 1 ∧ data.length = 4 ∧ address = ipv4OfOctets (data.map UInt8.toNat)) ∨
    (rtype = 28 ∧ data.length = 16 ∧
      address = .v6 (BitVec.ofNat 128 (fromDigits 256 (data.map UInt8.toNat))))

theorem take_four {bytes : List UInt8} {off : Nat} {b0 b1 b2 b3 : UInt8}
    (h0 : bytes[off]? = some b0) (h1 : bytes[off + 1]? = some b1) (h2 : bytes[off + 2]? = some b2)
    (h3 : bytes[off + 3]? = some b3) : (bytes.drop off).take 4 = [b0, b1, b2, b3] := by
  apply List.ext_getElem?
  intro i
  rw [List.getElem?_take, List.getElem?_drop]
  match i with
  | 0 => exact h0
  | 1 => exact h1
  | 2 => exact h2
  | 3 => exact h3
  | i + 4 => simp

variable {minTtl maxTtl : UInt32}

theorem answerRecords_returns (rtype : UInt16) (ttl : UInt32) {off rdlen : Nat}
    (h : off + rdlen ≤ msg.length) :
    Returns (answerRecords msg minTtl maxTtl rtype ttl off rdlen) fun records =>
      ∀ record ∈ records, record.2 = ttl ∧
        IsAddressData rtype ((msg.bytes.drop off).take rdlen) record.1 := by
  have hlength := msg.length_bound
  rw [answerRecords]
  split_ifs with ha haaaa hcname
  · obtain ⟨htype, hfour⟩ := ha
    refine (returns_byteAt (by omega)).bind fun b0 h0 => ?_
    refine (returns_addOffset (by omega)).bind fun i1 hi1 => ?_
    refine (returns_byteAt (by omega)).bind fun b1 h1 => ?_
    refine (returns_addOffset (by omega)).bind fun i2 hi2 => ?_
    refine (returns_byteAt (by omega)).bind fun b2 h2 => ?_
    refine (returns_addOffset (by omega)).bind fun i3 hi3 => ?_
    refine (returns_byteAt (by omega)).bind fun b3 h3 => ?_
    rw [hi1] at h1
    rw [hi2] at h2
    rw [hi3] at h3
    apply returns_ok
    intro record hrecord
    rw [List.mem_singleton.mp hrecord, hfour, take_four h0 h1 h2 h3]
    exact ⟨rfl, Or.inl ⟨htype, rfl, rfl⟩⟩
  · obtain ⟨htype, hsixteen⟩ := haaaa
    refine (returns_addOffset (by omega)).bind fun stop hstop => ?_
    refine (returns_slice (by omega) (by omega)).bind fun octets hoctets => ?_
    rw [hstop, Nat.add_sub_cancel_left] at hoctets
    apply returns_ok
    intro record hrecord
    rw [List.mem_singleton.mp hrecord, hsixteen, ← hoctets]
    refine ⟨rfl, Or.inr ⟨htype, ?_, rfl⟩⟩
    rw [hoctets, List.length_take, List.length_drop]
    rw [Bytes.length] at h
    omega
  · refine (parseQname_returns off).bind fun cname _ => ?_
    cases cname with
    | none => exact returns_ok (by simp)
    | some name => exact returns_ok (by simp [parseCnameChain])
  · exact returns_ok (by simp)

/-- The fixed fields of a record with an address stand at the position, whatever its owner. -/
def AddressAt (msg : Bytes) (pos : Nat) (address : IpAddr) : Prop :=
  ∃ t0 t1 l0 l1, msg.bytes[pos]? = some t0 ∧ msg.bytes[pos + 1]? = some t1 ∧
    msg.bytes[pos + 8]? = some l0 ∧ msg.bytes[pos + 9]? = some l1 ∧
    IsAddressData (be16 t0 t1) ((msg.bytes.drop (pos + 10)).take (be16 l0 l1).toNat) address

/-- What holds of each address that is returned, for records from an offset on. -/
structure AnswerFrom (msg : Bytes) (minTtl maxTtl : UInt32) (base : Nat)
    (record : IpAddr × UInt32) : Prop where
  bounded : minTtl ≤ maxTtl → minTtl ≤ record.2 ∧ record.2 ≤ maxTtl
  stands : ∃ pos, base ≤ pos ∧ AddressAt msg pos record.1

theorem clamped (h : minTtl ≤ maxTtl) (ttl : UInt32) :
    minTtl ≤ min (max ttl minTtl) maxTtl ∧ min (max ttl minTtl) maxTtl ≤ maxTtl := by
  have hmin : ∀ a b : UInt32, min a b = if a ≤ b then a else b := fun _ _ => rfl
  have hmax : ∀ a b : UInt32, max a b = if a ≤ b then b else a := fun _ _ => rfl
  rw [hmin, hmax]
  simp only [UInt32.le_iff_toNat_le] at h ⊢
  split_ifs <;> constructor <;> omega

theorem answerStep_returns {base off : Nat} (hbase : base ≤ off) (hoff : off ≤ msg.length + 5) :
    Returns (answerStep msg minTtl maxTtl off) fun turn => ∀ added next,
      turn = some (added, next) → base ≤ next ∧ next ≤ msg.length ∧
        ∀ record ∈ added, AnswerFrom msg minTtl maxTtl base record := by
  have hlength := msg.length_bound
  rw [answerStep]
  refine (skipQname_returns off).bind fun found hfound => ?_
  have hname : base ≤ (found.map Prod.fst).getD off ∧
      (found.map Prod.fst).getD off ≤ msg.length + 5 := by
    rcases found with _ | ⟨next, compressed⟩
    · exact ⟨hbase, hoff⟩
    · obtain ⟨hstart, hstop⟩ := hfound next compressed rfl
      rw [Option.map_some, Option.getD_some]
      omega
  dsimp only
  generalize (found.map Prod.fst).getD off = start at hname ⊢
  refine (returns_addOffset (by omega)).bind fun fixed hfixed => ?_
  split_ifs with hshort
  · apply returns_ok
    rintro added next ⟨⟩
  · refine (returns_byteAt (by omega)).bind fun t0 h0 => ?_
    refine (returns_addOffset (by omega)).bind fun i1 hi1 => ?_
    refine (returns_byteAt (by omega)).bind fun t1 h1 => ?_
    refine (returns_addOffset (by omega)).bind fun i4 hi4 => ?_
    refine (returns_byteAt (by omega)).bind fun _ _ => ?_
    refine (returns_addOffset (by omega)).bind fun i5 hi5 => ?_
    refine (returns_byteAt (by omega)).bind fun _ _ => ?_
    refine (returns_addOffset (by omega)).bind fun i6 hi6 => ?_
    refine (returns_byteAt (by omega)).bind fun _ _ => ?_
    refine (returns_addOffset (by omega)).bind fun i7 hi7 => ?_
    refine (returns_byteAt (by omega)).bind fun _ _ => ?_
    refine (returns_addOffset (by omega)).bind fun i8 hi8 => ?_
    refine (returns_byteAt (by omega)).bind fun l0 h8 => ?_
    refine (returns_addOffset (by omega)).bind fun i9 hi9 => ?_
    refine (returns_byteAt (by omega)).bind fun l1 h9 => ?_
    have hrdlen := (be16 l0 l1).toNat_lt
    refine (returns_addOffset (by omega)).bind fun data hdata => ?_
    refine (returns_addOffset (by omega)).bind fun behind hbehind => ?_
    split_ifs with hcut
    · apply returns_ok
      rintro added next ⟨⟩
    · refine (answerRecords_returns _ _ (by omega)).bind fun added hadded => ?_
      refine (returns_addOffset (by omega)).bind fun next hnext => ?_
      apply returns_ok
      rintro added' next' ⟨⟩
      refine ⟨by omega, by omega, fun record hrecord => ?_⟩
      obtain ⟨httl, haddress⟩ := hadded record hrecord
      rw [hi1] at h1
      rw [hi8] at h8
      rw [hi9] at h9
      rw [hdata] at haddress
      refine ⟨fun h => ?_, start, hname.1, t0, t1, l0, l1, h0, h1, h8, h9, haddress⟩
      rw [httl]
      exact clamped h _

theorem answers_returns (count : Nat) {base off : Nat} (hbase : base ≤ off)
    (hoff : off ≤ msg.length + 5) {records : List (IpAddr × UInt32)}
    (hrecords : ∀ record ∈ records, AnswerFrom msg minTtl maxTtl base record) :
    Returns (answers msg minTtl maxTtl count off records) fun read =>
      ∀ record ∈ read, AnswerFrom msg minTtl maxTtl base record := by
  induction count generalizing off records with
  | zero => exact returns_ok hrecords
  | succ count ih =>
      rw [answers]
      refine (answerStep_returns hbase hoff).bind fun turn hturn => ?_
      rcases turn with _ | ⟨added, next⟩
      · exact returns_ok hrecords
      · obtain ⟨hstart, hstop, hadded⟩ := hturn added next rfl
        exact ih hstart (by omega) (List.forall_mem_append.mpr ⟨hrecords, hadded⟩)

/-- The offset at which the records of a response to the query are looked for. -/
def QuestionEnd (query : Bytes) (base : Nat) : Prop :=
  ∃ next compressed, skipQname query 12 = .ok (some (next, compressed)) ∧ base = next + 4

/-- The event of any two packets. -/
theorem parseDnsResponse_event (query response : Bytes) :
    Returns (parseDnsResponse response minTtl maxTtl query) fun result => ∀ event,
      result = some event → parseQname query 12 = .ok (some event.domain) ∧
        ∃ base, QuestionEnd query base ∧
          ∀ record ∈ event.records, AnswerFrom response minTtl maxTtl base record := by
  have hquery := query.length_bound
  have hresponse := response.length_bound
  rw [parseDnsResponse]
  split_ifs with hshort
  · apply returns_ok
    rintro event ⟨⟩
  · refine (returns_byteAt (by omega)).bind fun _ _ => ?_
    refine (returns_byteAt (by omega)).bind fun _ _ => ?_
    dsimp only
    split_ifs
    · apply returns_ok
      rintro event ⟨⟩
    · obtain ⟨domain, hdomain, -⟩ := @parseQname_returns query 12
      rw [bind_of_ok hdomain]
      rcases domain with _ | domain
      · apply returns_ok
        rintro event ⟨⟩
      · obtain ⟨found, hskip, hfound⟩ := @skipQname_returns query 12
        dsimp only
        rw [bind_of_ok hskip]
        rcases found with _ | ⟨next, compressed⟩
        · apply returns_ok
          rintro event ⟨⟩
        · obtain ⟨hstart, hstop⟩ := hfound next compressed rfl
          refine (returns_addOffset (by omega)).bind fun base hbase => ?_
          refine (returns_addOffset (by omega)).bind fun fixed hfixed => ?_
          split_ifs with hcut
          · apply returns_ok
            rintro event ⟨⟩
          · refine (returns_byteAt (by omega)).bind fun _ _ => ?_
            refine (returns_byteAt (by omega)).bind fun _ _ => ?_
            refine (answers_returns _ (Nat.le_refl base) (by omega) (by simp)).bind
              fun records hrecords => ?_
            split_ifs
            · apply returns_ok
              rintro event ⟨⟩
            · apply returns_ok
              rintro event ⟨⟩
              exact ⟨hdomain, base, ⟨next, compressed, hskip, hbase⟩, hrecords⟩

/-- No query and no reply makes the parser fail, and the TTLs it returns are bounded. -/
theorem parseDnsResponse_returns (query response : Bytes) (h : minTtl ≤ maxTtl) :
    ∃ result, parseDnsResponse response minTtl maxTtl query = .ok result ∧
      ∀ event, result = some event → ∀ record ∈ event.records,
        minTtl ≤ record.2 ∧ record.2 ≤ maxTtl := by
  obtain ⟨result, hrun, hresult⟩ := @parseDnsResponse_event minTtl maxTtl query response
  refine ⟨result, hrun, fun event hevent record hrecord => ?_⟩
  obtain ⟨-, base, -, hrecords⟩ := hresult event hevent
  exact (hrecords record hrecord).bounded h

end Safe

/-! ## Messages in the wire format -/

section Wire
variable {msg : Bytes} {front rest : List UInt8}

theorem skipQname_labels {labels : List Label}
    (h : msg.bytes = front ++ (labelsWire labels ++ rest)) :
    skipQname msg front.length = skipQname msg (front ++ labelsWire labels).length := by
  induction labels generalizing front with
  | nil => rw [labelsWire, List.flatMap_nil, List.append_nil]
  | cons label others ih =>
      obtain ⟨hlength, hzero, hpointer⟩ := label.length_byte
      have hbyte : msg.bytes = front ++ UInt8.ofNat label.bytes.length ::
          (label.bytes ++ (labelsWire others ++ rest)) := by
        rw [h, labelsWire, List.flatMap_cons, List.append_assoc]
        rfl
      have hnext : msg.bytes = (front ++ label.wire) ++ (labelsWire others ++ rest) := by
        rw [hbyte, Label.wire]
        simp
      have hoff : front.length + 1 + label.bytes.length = (front ++ label.wire).length := by
        rw [List.length_append, Label.wire, List.length_cons]
        omega
      rw [skipQname_step (byteAt_behind hbyte), if_neg hzero, if_neg hpointer, hlength, hoff,
        ih hnext, List.append_assoc]
      rfl

theorem skipQname_name {name : Name} (h : msg.bytes = front ++ (name.wire ++ rest)) :
    ∃ compressed, skipQname msg front.length =
      .ok (some (front.length + name.wire.length, compressed)) := by
  have hlabels : msg.bytes = front ++ (labelsWire name.labels ++ (name.ending.wire ++ rest)) := by
    rw [h, Name.wire, List.append_assoc]
  have hending : msg.bytes = (front ++ labelsWire name.labels) ++ (name.ending.wire ++ rest) := by
    rw [hlabels, List.append_assoc]
  rw [skipQname_labels hlabels, Name.wire, List.length_append, List.length_append, ← Nat.add_assoc]
  cases hend : name.ending with
  | root =>
      rw [hend] at hending
      refine ⟨false, ?_⟩
      rw [← List.length_append, skipQname_step (byteAt_behind hending), if_pos rfl]
      rfl
  | pointer offset =>
      obtain ⟨hzero, hpointer⟩ := pointer_byte offset
      rw [hend] at hending
      refine ⟨true, ?_⟩
      rw [← List.length_append, skipQname_step (byteAt_behind hending), if_neg hzero,
        if_pos hpointer]
      rfl

/-- The labels of an uncompressed name, as text. -/
theorem qnameLabels_root {labels : List Label}
    (h : msg.bytes = front ++ (labelsWire labels ++ 0 :: rest)) (before : List String) :
    qnameLabels msg front.length before =
      .ok (some (before ++ labels.map fun label => fromUtf8Lossy label.bytes)) := by
  induction labels generalizing front before with
  | nil =>
      have hbyte : msg.bytes = front ++ 0 :: rest := h
      rw [qnameLabels_step (byteAt_behind hbyte), if_pos (Or.inl rfl), List.map_nil,
        List.append_nil]
  | cons label others ih =>
      obtain ⟨hlength, hzero, hpointer⟩ := label.length_byte
      have hbyte : msg.bytes = front ++ UInt8.ofNat label.bytes.length ::
          (label.bytes ++ (labelsWire others ++ 0 :: rest)) := by
        rw [h, labelsWire, List.flatMap_cons, List.append_assoc]
        rfl
      have hnext : msg.bytes = (front ++ label.wire) ++ (labelsWire others ++ 0 :: rest) := by
        rw [hbyte, Label.wire]
        simp
      have hoff : front.length + 1 + label.bytes.length = (front ++ label.wire).length := by
        rw [List.length_append, Label.wire, List.length_cons]
        omega
      have hinside : ¬msg.length < (front ++ label.wire).length := by
        rw [Bytes.length, hnext, List.length_append]
        omega
      have hlabel : (msg.bytes.drop (front.length + 1)).take label.bytes.length = label.bytes := by
        rw [hbyte, ← List.drop_drop, List.drop_left, List.drop_one, List.tail_cons, List.take_left]
      rw [qnameLabels_step (byteAt_behind hbyte), if_neg (not_or.mpr ⟨hzero, hpointer⟩), hlength,
        hoff, if_neg hinside, hlabel, ih hnext, List.map_cons, List.append_assoc]
      rfl

/-! ## Records -/

def addressOf (record : ResourceRecord) : Option IpAddr :=
  if record.rtype = 1 ∧ record.data.length = 4 then
    some (ipv4OfOctets (record.data.map UInt8.toNat))
  else if record.rtype = 28 ∧ record.data.length = 16 then
    some (.v6 (BitVec.ofNat 128 (fromDigits 256 (record.data.map UInt8.toNat))))
  else none

def addressAnswer (minTtl maxTtl : UInt32) (record : ResourceRecord) : Option (IpAddr × UInt32) :=
  (addressOf record).map fun address => (address, min (max record.ttl minTtl) maxTtl)

variable (minTtl maxTtl : UInt32)

theorem exists_four {data : List UInt8} (h : data.length = 4) :
    ∃ b0 b1 b2 b3, data = [b0, b1, b2, b3] := by
  match data, h with
  | [b0, b1, b2, b3], _ => exact ⟨b0, b1, b2, b3, rfl⟩

theorem answerRecords_data {record : ResourceRecord}
    (h : msg.bytes = front ++ (record.data ++ rest)) :
    answerRecords msg minTtl maxTtl record.rtype (min (max record.ttl minTtl) maxTtl) front.length
      record.data.length = .ok (addressAnswer minTtl maxTtl record).toList := by
  have hbound := msg.length_bound
  have hinside : front.length + record.data.length ≤ msg.length := by
    rw [Bytes.length, h, List.length_append, List.length_append]
    omega
  rw [answerRecords, addressAnswer, addressOf]
  split_ifs with ha haaaa hcname
  · obtain ⟨b0, b1, b2, b3, hdata⟩ := exists_four ha.2
    rw [hdata] at h
    have hbyte : ∀ i b, [b0, b1, b2, b3][i]? = some b → msg.byteAt (front.length + i) = .ok b :=
      fun i b => byteAt_within h
    rw [bind_of_ok (byteAt_behind h), bind_of_ok (addOffset_ok (by omega)),
      bind_of_ok (hbyte 1 b1 rfl), bind_of_ok (addOffset_ok (by omega)),
      bind_of_ok (hbyte 2 b2 rfl), bind_of_ok (addOffset_ok (by omega)),
      bind_of_ok (hbyte 3 b3 rfl), hdata]
    rfl
  · have hslice := slice_behind h
    rw [haaaa.2] at hslice
    rw [bind_of_ok (addOffset_ok (by omega)), bind_of_ok hslice]
    rfl
  · -- the name of a CNAME record is read, and not followed
    obtain ⟨cname, hcname, -⟩ := @parseQname_returns msg front.length
    rw [bind_of_ok hcname]
    cases cname with
    | none => rfl
    | some name => rfl
  · rfl

/-- The turn of the loop that stands before a record passes it. -/
theorem answerStep_record {record : ResourceRecord}
    (h : msg.bytes = front ++ (record.wire ++ rest)) :
    answerStep msg minTtl maxTtl front.length =
      .ok (some ((addressAnswer minTtl maxTtl record).toList,
        front.length + record.wire.length)) := by
  have hbound := msg.length_bound
  have howner : msg.bytes =
      front ++ (record.owner.wire ++ (record.fields ++ record.data ++ rest)) := by
    rw [h, ResourceRecord.wire]
    simp only [List.append_assoc]
  have hfields : msg.bytes =
      (front ++ record.owner.wire) ++ (record.fields ++ (record.data ++ rest)) := by
    rw [howner]
    simp only [List.append_assoc]
  have hdata : msg.bytes =
      (front ++ record.owner.wire ++ record.fields) ++ (record.data ++ rest) := by
    rw [hfields]
    simp only [List.append_assoc]
  have hwire : record.wire.length = record.owner.wire.length + 10 + record.data.length := by
    rw [ResourceRecord.wire, List.length_append, List.length_append, record.fields_length]
    omega
  have hinside : front.length + record.wire.length ≤ msg.length := by
    rw [Bytes.length, h, List.length_append, List.length_append]
    omega
  have hbyte : ∀ i b, record.fields[i]? = some b →
      msg.byteAt (front.length + record.owner.wire.length + i) = .ok b := by
    intro i b hb
    have hread := byteAt_within hfields hb
    rwa [List.length_append] at hread
  have hrecords := answerRecords_data minTtl maxTtl hdata
  rw [List.length_append, List.length_append, record.fields_length] at hrecords
  obtain ⟨compressed, hskip⟩ := skipQname_name howner
  rw [answerStep, bind_of_ok hskip]
  dsimp only [Option.map_some, Option.getD_some]
  have hend : front.length + record.wire.length =
      front.length + record.owner.wire.length + 10 + record.data.length := by omega
  rw [hend] at hinside ⊢
  generalize front.length + record.owner.wire.length = fixed at hbyte hrecords hinside ⊢
  have hfirst : msg.byteAt fixed = .ok (UInt8.ofNat (record.rtype.toNat / 256)) := hbyte 0 _ rfl
  have htype := be16_bytes16 record.rtype
  have httl := be32_bytes32 record.ttl
  have hrdlen := be16_bytes16 (UInt16.ofNat record.data.length)
  rw [bind_of_ok (addOffset_ok (by omega)), if_neg (by omega), bind_of_ok hfirst,
    bind_of_ok (addOffset_ok (by omega)), bind_of_ok (hbyte 1 _ rfl), htype]
  rw [bind_of_ok (addOffset_ok (by omega)), bind_of_ok (hbyte 4 _ rfl),
    bind_of_ok (addOffset_ok (by omega)), bind_of_ok (hbyte 5 _ rfl),
    bind_of_ok (addOffset_ok (by omega)), bind_of_ok (hbyte 6 _ rfl),
    bind_of_ok (addOffset_ok (by omega)), bind_of_ok (hbyte 7 _ rfl), httl]
  rw [bind_of_ok (addOffset_ok (by omega)), bind_of_ok (hbyte 8 _ rfl),
    bind_of_ok (addOffset_ok (by omega)), bind_of_ok (hbyte 9 _ rfl), hrdlen,
    record.length_toNat]
  rw [bind_of_ok (addOffset_ok (by omega)), bind_of_ok (addOffset_ok (by omega)),
    if_neg (by omega), bind_of_ok hrecords, bind_of_ok (addOffset_ok (by omega))]

/-- The loop passes the records of the message one by one. -/
theorem answers_records {records : List ResourceRecord}
    (h : msg.bytes = front ++ (records.flatMap ResourceRecord.wire ++ rest))
    (before : List (IpAddr × UInt32)) :
    answers msg minTtl maxTtl records.length front.length before =
      .ok (before ++ records.filterMap (addressAnswer minTtl maxTtl)) := by
  induction records generalizing front before with
  | nil => rw [List.length_nil, answers, List.filterMap_nil, List.append_nil]
  | cons record others ih =>
      have hrecord : msg.bytes =
          front ++ (record.wire ++ (others.flatMap ResourceRecord.wire ++ rest)) := by
        rw [h, List.flatMap_cons, List.append_assoc]
      have hothers : msg.bytes =
          (front ++ record.wire) ++ (others.flatMap ResourceRecord.wire ++ rest) := by
        rw [hrecord, List.append_assoc]
      rw [List.length_cons, answers, bind_of_ok (answerStep_record minTtl maxTtl hrecord)]
      dsimp only
      rw [← List.length_append, ih hothers, List.append_assoc, List.filterMap_cons]
      cases addressAnswer minTtl maxTtl record with
      | none => rfl
      | some answer => rfl

end Wire

/-! ## Exchanges -/

def questionName (question : Question) : String :=
  ".".intercalate (question.labels.map fun label => fromUtf8Lossy label.bytes)

def eventOf (question : Question) : List (IpAddr × UInt32) → Option DnsParsedEvent
  | [] => none
  | answer :: others => some ⟨questionName question, answer :: others⟩

section Questions
variable {query : Bytes} {header : Header} {question : Question} {queryRest : List UInt8}

theorem parseQname_question
    (h : query.bytes = header.wire ++ (question.wire ++ queryRest)) :
    parseQname query 12 = .ok (some (questionName question)) := by
  have hlabels : query.bytes = header.wire ++ (labelsWire question.labels ++ 0 ::
      (bytes16 question.qtype ++ bytes16 question.qclass ++ queryRest)) := by
    rw [h, Question.wire, Question.name, Name.wire, NameEnd.wire]
    simp only [List.append_assoc, List.cons_append, List.nil_append]
  have hread := qnameLabels_root hlabels []
  rw [Header.wire_length, List.nil_append] at hread
  have hne : (question.labels.map fun label => fromUtf8Lossy label.bytes).isEmpty = false := by
    simp [question.labels_ne]
  rw [parseQname, hread, Except.map]
  dsimp only
  rw [hne, if_neg (by decide)]
  rfl

theorem skipQname_question
    (h : query.bytes = header.wire ++ (question.wire ++ queryRest)) :
    ∃ compressed,
      skipQname query 12 = .ok (some (12 + question.name.wire.length, compressed)) := by
  have hname : query.bytes = header.wire ++ (question.name.wire ++
      (bytes16 question.qtype ++ bytes16 question.qclass ++ queryRest)) := by
    rw [h, Question.wire]
    simp only [List.append_assoc]
  obtain ⟨compressed, hskip⟩ := skipQname_name hname
  rw [Header.wire_length] at hskip
  exact ⟨compressed, hskip⟩

end Questions

theorem records_nil_of_short {records : List ResourceRecord}
    (h : (records.flatMap ResourceRecord.wire).length < 10) : records = [] := by
  cases records with
  | nil => rfl
  | cons record others =>
      rw [List.flatMap_cons, List.length_append, ResourceRecord.wire, List.length_append,
        List.length_append, record.fields_length] at h
      omega

/-- The records of a response are read behind as many bytes as the query's question takes. -/
theorem parseDnsResponse_records {query response : Bytes} {header : Header} {question : Question}
    {queryRest front responseRest : List UInt8} {records : List ResourceRecord} {c0 c1 : UInt8}
    (hheader : header.qdcount ≠ 0)
    (hquery : query.bytes = header.wire ++ (question.wire ++ queryRest))
    (hresponse : response.bytes = front ++ (records.flatMap ResourceRecord.wire ++ responseRest))
    (hfront : front.length = 12 + question.wire.length) (h6 : front[6]? = some c0)
    (h7 : front[7]? = some c1) (hcount : (be16 c0 c1).toNat = records.length)
    (minTtl maxTtl : UInt32) :
    parseDnsResponse response minTtl maxTtl query =
      .ok (eventOf question (records.filterMap (addressAnswer minTtl maxTtl))) := by
  have hqueryBound := query.length_bound
  have hquestion : question.wire.length = question.name.wire.length + 4 := by
    rw [Question.wire, List.length_append]
    rfl
  have hafter : 12 + question.name.wire.length + 4 = front.length := by omega
  have hqueryLength : 12 + question.wire.length ≤ query.length := by
    rw [Bytes.length, hquery, List.length_append, List.length_append, Header.wire_length]
    omega
  have hresponseLength : front.length + (records.flatMap ResourceRecord.wire).length ≤
      response.length := by
    rw [Bytes.length, hresponse, List.length_append, List.length_append]
    omega
  have hshort : ¬(query.length < 12 ∨ response.length < 12) := by omega
  have hqueryByte : ∀ i b, header.wire[i]? = some b → query.byteAt i = .ok b := by
    intro i b hb
    rw [← Nat.zero_add i]
    exact @byteAt_within query [] _ _ hquery i b hb
  have hresponseByte : ∀ i b, front[i]? = some b → response.byteAt i = .ok b := by
    intro i b hb
    rw [← Nat.zero_add i]
    exact @byteAt_within response [] _ _ hresponse i b hb
  obtain ⟨compressed, hskip⟩ := skipQname_question hquery
  have hanswers := answers_records minTtl maxTtl hresponse []
  rw [List.nil_append] at hanswers
  have hcounted : be16 (UInt8.ofNat (header.qdcount.toNat / 256))
      (UInt8.ofNat header.qdcount.toNat) ≠ 0 := by
    rw [be16_bytes16]
    exact hheader
  rw [parseDnsResponse, if_neg hshort, bind_of_ok (hqueryByte 4 _ rfl),
    bind_of_ok (hqueryByte 5 _ rfl)]
  dsimp only
  rw [if_neg hcounted, bind_of_ok (parseQname_question hquery)]
  dsimp only
  rw [bind_of_ok hskip]
  dsimp only
  rw [bind_of_ok (addOffset_ok (by omega)), bind_of_ok (addOffset_ok (by omega)), hafter]
  split_ifs with hcut
  · have hnone : records = [] := records_nil_of_short (by omega)
    rw [hnone]
    rfl
  · rw [bind_of_ok (hresponseByte 6 _ h6), bind_of_ok (hresponseByte 7 _ h7), hcount,
      bind_of_ok hanswers]
    cases records.filterMap (addressAnswer minTtl maxTtl) with
    | nil => rfl
    | cons answer others => rfl

/-- On an exchange in the wire format the parser returns the name of the question and the
addresses of the records, in their order. -/
theorem parseDnsResponse_exchange (ex : Exchange) (query response : Bytes)
    (hquery : query.bytes = ex.query) (hresponse : response.bytes = ex.response)
    (minTtl maxTtl : UInt32) :
    parseDnsResponse response minTtl maxTtl query =
      .ok (eventOf ex.question (ex.records.filterMap (addressAnswer minTtl maxTtl))) := by
  have hone : ex.queryHeader.qdcount ≠ 0 := by
    rw [ex.one_question]
    decide
  have hrecords : response.bytes = (ex.responseHeader.wire ++ ex.question.wire) ++
      (ex.records.flatMap ResourceRecord.wire ++ ex.responseRest) := by
    rw [hresponse, Exchange.response, List.append_assoc]
  have hfront : (ex.responseHeader.wire ++ ex.question.wire).length =
      12 + ex.question.wire.length := by
    rw [List.length_append, Header.wire_length]
  have hcount := ex.count_records
  rw [← be16_bytes16 ex.responseHeader.ancount] at hcount
  exact parseDnsResponse_records hone hquery hrecords hfront rfl rfl hcount minTtl maxTtl

/-! ## One exchange -/

section Example

def wwwLabels : List Label :=
  [⟨[0x77, 0x77, 0x77], by decide, by decide⟩, ⟨[0x72, 0x67], by decide, by decide⟩]

def aliasExchange : Exchange where
  queryHeader := ⟨0x1234, 0x0100, 1, 0, 0, 0⟩
  one_question := rfl
  question := ⟨wwwLabels, by decide, 1, 1⟩
  queryRest := []
  responseHeader := ⟨0x1234, 0x8180, 1, 3, 0, 0⟩
  records :=
    [⟨⟨[], .pointer 12⟩, 5, 1, 300, [0x01, 0x61, 0xC0, 0x10], by decide⟩,
      ⟨⟨[⟨[0x61], by decide, by decide⟩], .pointer 16⟩, 1, 1, 5, [1, 2, 3, 4], by decide⟩,
      ⟨⟨[⟨[0x61], by decide, by decide⟩], .pointer 16⟩, 1, 1, 7200, [5, 6, 7, 8], by decide⟩]
  count_records := rfl
  responseRest := []

theorem parseDnsResponse_alias :
    parseDnsResponse ⟨aliasExchange.response, by decide⟩ 30 3600 ⟨aliasExchange.query, by decide⟩ =
      .ok (some ⟨"www.rg", [(.v4 0x01020304, 30), (.v4 0x05060708, 3600)]⟩) := by
  rw [parseDnsResponse_exchange aliasExchange _ _ rfl rfl]
  decide +kernel

theorem parseDnsResponse_alias_returns :
    ∃ result, parseDnsResponse ⟨aliasExchange.response, by decide⟩ 30 3600
        ⟨aliasExchange.query, by decide⟩ = .ok result ∧
      ∀ event, result = some event → ∀ record ∈ event.records,
        (30 : UInt32) ≤ record.2 ∧ record.2 ≤ 3600 :=
  parseDnsResponse_returns _ _ (by decide)

end Example

end RouteGuard
