import RouteGuard.Platform.DnsAnswers

/-! # What the callback is given

The callback hears of the client's own question, and of addresses in the records
of the first datagram that arrives.  Who sent it, its transaction ID, its question
and the owners of its records are not looked at. -/
set_option autoImplicit false
namespace RouteGuard

open ByteAccess DnsMessage

/-! ## Replies that are read alike -/

section Alike
variable {base : Nat} {msg other : Bytes} {minTtl maxTtl : UInt32}

theorem qnameLabels_congr (h : SameFrom base msg other) {off : Nat} (hoff : base ≤ off)
    (labels : List String) : qnameLabels msg off labels = qnameLabels other off labels := by
  induction hleft : msg.length - off using Nat.strong_induction_on generalizing off labels with
  | _ left ih =>
      by_cases hlt : off < msg.length
      · obtain ⟨len, hlen⟩ := byteAt_of_lt hlt
        have hother : other.byteAt off = .ok len := by rw [← h.byteAt hoff, hlen]
        have hlabel : msg.bytes.drop (off + 1) = other.bytes.drop (off + 1) := by
          apply List.ext_getElem?
          intro i
          rw [List.getElem?_drop, List.getElem?_drop, h.bytes _ (by omega)]
        rw [qnameLabels_step hlen, qnameLabels_step hother, h.length, hlabel]
        split_ifs
        · rfl
        · rfl
        · exact ih _ (by omega) (by omega) _ rfl
      · rw [qnameLabels_end (by omega), qnameLabels_end (by rw [← h.length]; omega)]

theorem parseQname_congr (h : SameFrom base msg other) {off : Nat} (hoff : base ≤ off) :
    parseQname msg off = parseQname other off := by
  rw [parseQname, parseQname, qnameLabels_congr h hoff]

theorem skipQname_congr (h : SameFrom base msg other) {off : Nat} (hoff : base ≤ off) :
    skipQname msg off = skipQname other off := by
  induction hleft : msg.length - off using Nat.strong_induction_on generalizing off with
  | _ left ih =>
      by_cases hlt : off < msg.length
      · obtain ⟨len, hlen⟩ := byteAt_of_lt hlt
        have hother : other.byteAt off = .ok len := by rw [← h.byteAt hoff, hlen]
        rw [skipQname_step hlen, skipQname_step hother]
        split_ifs
        · rfl
        · rfl
        · exact ih _ (by omega) (by omega) rfl
      · rw [skipQname_end (by omega), skipQname_end (by rw [← h.length]; omega)]

theorem byteAt_add_congr {B : Type} (h : SameFrom base msg other) {off : Nat} (hoff : base ≤ off)
    (i : Nat) {next next' : UInt8 → Run B} (hnext : ∀ b, next b = next' b) :
    (addOffset off i >>= fun index => msg.byteAt index >>= next) =
      addOffset off i >>= fun index => other.byteAt index >>= next' := by
  refine bind_congr_of_ok fun index hindex => ?_
  have hsum := addOffset_eq_ok hindex
  rw [h.byteAt (by omega)]
  exact bind_congr hnext

theorem answerRecords_congr (h : SameFrom base msg other) {off : Nat} (hoff : base ≤ off)
    (rtype : UInt16) (ttl : UInt32) (rdlen : Nat) :
    answerRecords msg minTtl maxTtl rtype ttl off rdlen =
      answerRecords other minTtl maxTtl rtype ttl off rdlen := by
  rw [answerRecords, answerRecords]
  split_ifs
  · rw [h.byteAt hoff]
    refine bind_congr fun _ => ?_
    refine byteAt_add_congr h hoff 1 fun _ => ?_
    refine byteAt_add_congr h hoff 2 fun _ => ?_
    exact byteAt_add_congr h hoff 3 fun _ => rfl
  · refine bind_congr fun stop => ?_
    rw [h.slice hoff]
  · rw [parseQname_congr h hoff]
    refine bind_congr fun cname => ?_
    cases cname with
    | none => rfl
    | some name => rfl
  · rfl

theorem answerStep_congr (h : SameFrom base msg other) {off : Nat} (hoff : base ≤ off) :
    answerStep msg minTtl maxTtl off = answerStep other minTtl maxTtl off := by
  obtain ⟨found, hskip, hfound⟩ := @skipQname_returns msg off
  have hname : base ≤ (found.map Prod.fst).getD off := by
    rcases found with _ | ⟨next, compressed⟩
    · exact hoff
    · exact hoff.trans (hfound next compressed rfl).1
  rw [answerStep, answerStep, ← skipQname_congr h hoff, bind_of_ok hskip, bind_of_ok hskip,
    h.length]
  dsimp only
  generalize (found.map Prod.fst).getD off = start at hname ⊢
  refine bind_congr fun fixed => ?_
  split_ifs
  · rfl
  · rw [h.byteAt hname]
    refine bind_congr fun _ => ?_
    refine byteAt_add_congr h hname 1 fun _ => ?_
    refine byteAt_add_congr h hname 4 fun _ => ?_
    refine byteAt_add_congr h hname 5 fun _ => ?_
    refine byteAt_add_congr h hname 6 fun _ => ?_
    refine byteAt_add_congr h hname 7 fun _ => ?_
    refine byteAt_add_congr h hname 8 fun _ => ?_
    refine byteAt_add_congr h hname 9 fun _ => ?_
    refine bind_congr_of_ok fun data hdata => ?_
    have hsum := addOffset_eq_ok hdata
    refine bind_congr fun behind => ?_
    split_ifs
    · rfl
    · rw [answerRecords_congr h (by omega)]

theorem answers_congr (h : SameFrom base msg other) (count : Nat) {off : Nat} (hoff : base ≤ off)
    (hlength : off ≤ msg.length + 5) (records : List (IpAddr × UInt32)) :
    answers msg minTtl maxTtl count off records =
      answers other minTtl maxTtl count off records := by
  induction count generalizing off records with
  | zero => rfl
  | succ count ih =>
      obtain ⟨turn, hstep, hturn⟩ := @answerStep_returns msg minTtl maxTtl base off hoff hlength
      rw [answers, answers, ← answerStep_congr h hoff, bind_of_ok hstep, bind_of_ok hstep]
      rcases turn with _ | ⟨added, next⟩
      · rfl
      · obtain ⟨hstart, hstop, -⟩ := hturn added next rfl
        exact ih hstart (by omega) _

/-- Two replies with as many answers, the same from the end of the question on. -/
structure SameAnswers (base : Nat) (response other : Bytes) : Prop where
  sameFrom : SameFrom base response other
  count6 : response.bytes[6]? = other.bytes[6]?
  count7 : response.bytes[7]? = other.bytes[7]?

theorem parseDnsResponse_congr {query : Bytes} (hend : QuestionEnd query base)
    (h : SameAnswers base msg other) :
    parseDnsResponse msg minTtl maxTtl query = parseDnsResponse other minTtl maxTtl query := by
  obtain ⟨next, compressed, hskip, hbase⟩ := hend
  have hlength := h.sameFrom.length
  have h6 : msg.byteAt 6 = other.byteAt 6 := by rw [Bytes.byteAt, Bytes.byteAt, h.count6]
  have h7 : msg.byteAt 7 = other.byteAt 7 := by rw [Bytes.byteAt, Bytes.byteAt, h.count7]
  rw [parseDnsResponse, parseDnsResponse, hlength, h6, h7]
  split_ifs
  · rfl
  · refine bind_congr fun _ => ?_
    refine bind_congr fun _ => ?_
    dsimp only
    split_ifs
    · rfl
    · refine bind_congr fun domain => ?_
      rcases domain with _ | domain
      · rfl
      · dsimp only
        rw [bind_of_ok hskip, bind_of_ok hskip]
        dsimp only
        refine bind_congr_of_ok fun off hoff => ?_
        have hsum := addOffset_eq_ok hoff
        refine bind_congr_of_ok fun fixed hfixed => ?_
        have hfixed := addOffset_eq_ok hfixed
        split_ifs with hcut
        · rfl
        · refine bind_congr fun _ => ?_
          refine bind_congr fun _ => ?_
          rw [answers_congr h.sameFrom _ (by omega) (by omega)]

end Alike

/-! ## The callback -/

section Callback
variable {upstream : List ScopedSocketAddr} {minTtl maxTtl : UInt32} {query reply : Received}
  {effects : List ProxyEffect} {domain : String} {records : List (IpAddr × UInt32)}

/-- The callback hears what the parser returns on the payload, for a local client. -/
theorem onResponse_mem_iff :
    (∃ effects, answerQuery upstream minTtl maxTtl query (some reply) = .ok effects ∧
        .onResponse domain records ∈ effects) ↔
      isLoopbackPeer query.source = true ∧
        parseDnsResponse reply.payload minTtl maxTtl query.payload =
          .ok (some ⟨domain, records⟩) := by
  rw [answerQuery]
  cases hpeer : isLoopbackPeer query.source with
  | false => simp
  | true =>
      obtain ⟨result, hrun, -⟩ := @parseDnsResponse_event minTtl maxTtl query.payload reply.payload
      simp only [forwardDns, Option.map_some, Bool.not_true, Bool.false_eq_true, if_false]
      rw [bind_of_ok hrun, hrun]
      rcases result with _ | ⟨domain', records'⟩
      · simp
      · simp [eq_comm]

/-- The name is the client's own, and each address stands in a record of the datagram behind the
length of the client's question.  Any other datagram that is the same from there on, and counts as
many answers, gives the same. -/
theorem onResponse_given
    (h : answerQuery upstream minTtl maxTtl query (some reply) = .ok effects)
    (hmem : .onResponse domain records ∈ effects) :
    parseQname query.payload 12 = .ok (some domain) ∧
      ∃ base, QuestionEnd query.payload base ∧
        (∀ record ∈ records, ∃ pos, base ≤ pos ∧ AddressAt reply.payload pos record.1) ∧
        ∀ other : Received, SameAnswers base reply.payload other.payload →
          ∃ effects', answerQuery upstream minTtl maxTtl query (some other) = .ok effects' ∧
            .onResponse domain records ∈ effects' := by
  obtain ⟨hpeer, hparse⟩ := onResponse_mem_iff.mp ⟨effects, h, hmem⟩
  obtain ⟨result, hrun, hresult⟩ :=
    @parseDnsResponse_event minTtl maxTtl query.payload reply.payload
  rw [hrun] at hparse
  obtain rfl : result = some ⟨domain, records⟩ := Except.ok.inj hparse
  obtain ⟨hdomain, base, hend, hrecords⟩ := hresult _ rfl
  refine ⟨hdomain, base, hend, fun record hrecord => (hrecords record hrecord).stands, ?_⟩
  intro other hsame
  apply onResponse_mem_iff.mpr
  rw [← parseDnsResponse_congr hend hsame]
  exact ⟨hpeer, hrun⟩

end Callback

/-! ## A datagram from elsewhere -/

section Example

def localQuery : Received where
  source := .v4 0x7F000001 40000
  payload := ⟨aliasExchange.query, by decide⟩
  length_le := by decide

theorem zone_pos : 0 < ([0x72, 0x67] : List UInt8).length := by decide

theorem zone_le : ([0x72, 0x67] : List UInt8).length ≤ 63 := by decide

def strayQuestion : Question :=
  ⟨[⟨[0x78, 0x78, 0x78], by decide, by decide⟩, ⟨[0x72, 0x67], zone_pos, zone_le⟩], by decide,
    1, 1⟩

def strayHeader : Header := ⟨0x6666, 0x8180, 1, 1, 0, 0⟩

def strayRecords : List ResourceRecord :=
  [⟨⟨[⟨[0x78], by decide, by decide⟩], .root⟩, 1, 1, 60, [6, 6, 6, 6], by decide⟩]

def strayReply : Received where
  source := .v4 0x0A000042 53
  payload :=
    ⟨strayHeader.wire ++ strayQuestion.wire ++ (strayRecords.flatMap ResourceRecord.wire ++ []),
      by decide⟩
  length_le := by decide

theorem strayReply_effects :
    ∃ effects, answerQuery [.v4 0x01010101 53] 30 3600 localQuery (some strayReply) = .ok effects ∧
      .onResponse "www.rg" [(.v4 0x06060606, 60)] ∈ effects := by
  have hread := @parseDnsResponse_records localQuery.payload strayReply.payload
    aliasExchange.queryHeader aliasExchange.question [] (strayHeader.wire ++ strayQuestion.wire) []
    strayRecords 0 1 (by decide) rfl rfl (by decide) (by decide) (by decide) (by decide) 30 3600
  refine onResponse_mem_iff.mpr ⟨by decide, ?_⟩
  rw [hread]
  decide +kernel

/-- The source is not the upstream, the transaction ID and the question are not those of the query,
and the only record is not of the name that is asked for; the callback is given its address. -/
theorem strayReply_given :
    (∃ effects, answerQuery [.v4 0x01010101 53] 30 3600 localQuery (some strayReply) = .ok effects ∧
      .onResponse "www.rg" [(.v4 0x06060606, 60)] ∈ effects) ∧
    strayReply.source ≠ upstreamAddr [.v4 0x01010101 53] ∧
    strayHeader.id ≠ aliasExchange.queryHeader.id ∧ strayQuestion ≠ aliasExchange.question ∧
    ∀ record ∈ strayRecords, record.owner ≠ aliasExchange.question.name ∧ record.rtype ≠ 5 :=
  ⟨strayReply_effects, by decide, by decide, by decide, by decide⟩

theorem onResponse_given_stray :
    parseQname localQuery.payload 12 = .ok (some "www.rg") ∧
      ∃ base, QuestionEnd localQuery.payload base ∧
        ∃ pos, base ≤ pos ∧ AddressAt strayReply.payload pos (.v4 0x06060606) := by
  obtain ⟨effects, hrun, hmem⟩ := strayReply_effects
  obtain ⟨hdomain, base, hend, hrecords, -⟩ := onResponse_given hrun hmem
  exact ⟨hdomain, base, hend, hrecords _ (List.mem_singleton_self _)⟩

end Example

end RouteGuard
