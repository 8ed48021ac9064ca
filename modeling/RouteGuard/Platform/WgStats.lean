import RouteGuard.Platform.WgBuffer

/-! # What the driver reports

`query_stats` of `wgnt/statistics.rs`, the handshake times of `wgnt/bindings.rs`
and what `stats` of `tunnel.rs` makes of them.  A step that leaves the range of
its type panics. -/
set_option autoImplicit false
namespace RouteGuard

open LittleEndian

/-- A call of the driver's library: `WgntError::Api` has the code. -/
abbrev ApiResult (A : Type) := Except (Abort UInt32) A

/-! ## Times -/

/-- `std::time::SystemTime` on Windows, in units of 100 ns since 1601. -/
structure SystemTime where
  intervals : Nat
deriving DecidableEq, Repr

namespace SystemTime

def unixEpoch : SystemTime := ⟨116444736000000000⟩

/-- `+` of a duration in ns; the units are kept in an `i64`. -/
def add (time : SystemTime) (ns : Nat) : Option SystemTime :=
  if time.intervals + ns / 100 < 2 ^ 63 then some ⟨time.intervals + ns / 100⟩ else none

/-- `duration_since`, in ns. -/
def durationSince (time earlier : SystemTime) : Option Nat :=
  if earlier.intervals ≤ time.intervals then some ((time.intervals - earlier.intervals) * 100)
  else none

end SystemTime

def windowsEpochDiff : Nat := 11644473600000000000

def wireguardEpochToSystemTime (epoch100ns : UInt64) : ApiResult (Option SystemTime) :=
  if epoch100ns = 0 then .ok none
  else
    let unixNs := (epoch100ns.toNat - windowsEpochDiff) * 100
    if 2 ^ 64 ≤ unixNs then .error .panicked
    else
      match SystemTime.unixEpoch.add unixNs with
      | some time => .ok (some time)
      | none => .error .panicked

structure PeerStats where
  rxBytes : UInt64
  txBytes : UInt64
  lastHandshake : Option SystemTime
deriving DecidableEq, Repr

def handshakeAge (now time : SystemTime) : Option Nat :=
  (time.durationSince .unixEpoch).map fun d =>
    ((now.durationSince .unixEpoch).getD 0 - d) / 10 ^ 9

/-- `last_handshake_secs_ago` of `stats`; the clock is read for each peer. -/
def lastHandshakeSecsAgo (now : Nat → SystemTime) (peers : List PeerStats) : Option Nat :=
  (peers.zipIdx.filterMap fun peer =>
    peer.1.lastHandshake.bind (handshakeAge (now peer.2))).min?

/-! ## The answer of the driver -/

def errorMoreData : UInt32 := 234

structure DriverReply where
  /-- `GetLastError`, where the call fails -/
  lastError : Option UInt32
  size : UInt32
  contents : Nat → UInt8

def getConfiguration (reply : DriverReply) (length : Nat) : ApiResult (Nat × List UInt8) :=
  let answer := (reply.size.toNat, (List.range length).map reply.contents)
  match reply.lastError with
  | none => .ok answer
  | some code => if code = errorMoreData then .ok answer else .error (.error code)

/-! ## Walking the peers -/

def peersCount (buf : List UInt8) : Nat := value (field interfaceLayout 5 buf)

/-- `AllowedIPsCount` of the peer that starts the bytes. -/
def allowedIpsCount (peer : List UInt8) : Nat := value (field peerLayout 10 peer)

/-- The offsets at which the loop takes a `WIREGUARD_PEER`, and where it stops. -/
def walkPeers (buf : List UInt8) : Nat → Nat → List Nat × Nat
  | 0, offset => ([], offset)
  | count + 1, offset =>
      if buf.length < offset + peerSize then ([], offset)
      else
        let size := peerSize + allowedIpsCount (buf.drop offset) * allowedIpSize
        let rest := walkPeers buf count (offset + size)
        (offset :: rest.1, rest.2)

/-- The peers taken from a buffer; a short one is not looked into. -/
def peerRefs (buf : List UInt8) : List Nat :=
  if buf.length < interfaceSize then [] else (walkPeers buf (peersCount buf) interfaceSize).1

def peerStats (peer : List UInt8) : ApiResult PeerStats :=
  (wireguardEpochToSystemTime (UInt64.ofNat (value (field peerLayout 9 peer)))).map fun time =>
    { rxBytes := UInt64.ofNat (value (field peerLayout 8 peer))
      txBytes := UInt64.ofNat (value (field peerLayout 7 peer))
      lastHandshake := time }

def parseConfigBuffer (buf : List UInt8) : ApiResult (List PeerStats) :=
  (peerRefs buf).mapM fun offset => peerStats (buf.drop offset)

/-- The two calls of `query_stats`: the buffer and the size it is cut to. -/
def queryBuffer (first second : DriverReply) : ApiResult (List UInt8 × Nat) :=
  let needed : ApiResult Nat :=
    match getConfiguration first 4096 with
    | .ok answer => .ok answer.1
    | .error (.error code) => if code = errorMoreData then .ok 8192 else .error (.error code)
    | .error .panicked => .error .panicked
  match needed with
  | .error e => .error e
  | .ok needed =>
      match getConfiguration second (max 4096 needed) with
      | .error e => .error e
      | .ok (used, buf) => .ok (buf, used)

def queryStats (first second : DriverReply) : ApiResult (List PeerStats) :=
  match queryBuffer first second with
  | .error e => .error e
  | .ok (buf, used) =>
      if buf.length < used then .error .panicked else parseConfigBuffer (buf.take used)

/-! ## The age of a handshake -/

/-- Up to here the conversion stays in its types. -/
def lastConverted : Nat := 11644473600000000000 + 184467440737095516

theorem wireguardEpochToSystemTime_eq {epoch100ns : UInt64} (hne : epoch100ns ≠ 0)
    (h : epoch100ns.toNat ≤ lastConverted) : wireguardEpochToSystemTime epoch100ns =
      .ok (some ⟨116444736000000000 + (epoch100ns.toNat - windowsEpochDiff)⟩) := by
  have hunits : (epoch100ns.toNat - windowsEpochDiff) * 100 / 100 =
      epoch100ns.toNat - windowsEpochDiff := Nat.mul_div_cancel _ (by omega)
  have hmul : ¬2 ^ 64 ≤ (epoch100ns.toNat - windowsEpochDiff) * 100 := by
    simp only [lastConverted, windowsEpochDiff] at h ⊢
    omega
  have hadd : 116444736000000000 + (epoch100ns.toNat - windowsEpochDiff) < 2 ^ 63 := by
    simp only [lastConverted, windowsEpochDiff] at h ⊢
    omega
  rw [wireguardEpochToSystemTime, if_neg hne]
  dsimp only
  rw [if_neg hmul, SystemTime.add, hunits, SystemTime.unixEpoch, if_pos hadd]

/-- The conversion panics above `lastConverted` and nowhere else. -/
theorem wireguardEpochToSystemTime_ok_iff (epoch100ns : UInt64) :
    (∃ time, wireguardEpochToSystemTime epoch100ns = .ok time) ↔
      epoch100ns.toNat ≤ lastConverted := by
  constructor
  · rintro ⟨time, htime⟩
    by_contra hlarge
    have hne : epoch100ns ≠ 0 := by
      rintro rfl
      exact hlarge (Nat.zero_le _)
    have hmul : 2 ^ 64 ≤ (epoch100ns.toNat - windowsEpochDiff) * 100 := by
      simp only [lastConverted, windowsEpochDiff] at hlarge ⊢
      omega
    rw [wireguardEpochToSystemTime, if_neg hne] at htime
    dsimp only at htime
    rw [if_pos hmul] at htime
    cases htime
  · intro h
    by_cases hne : epoch100ns = 0
    · exact ⟨none, by rw [wireguardEpochToSystemTime, if_pos hne]⟩
    · exact ⟨_, wireguardEpochToSystemTime_eq hne h⟩

theorem lastHandshakeSecsAgo_single (now : SystemTime) (peer : PeerStats) :
    lastHandshakeSecsAgo (fun _ => now) [peer] = peer.lastHandshake.bind (handshakeAge now) := by
  cases hage : peer.lastHandshake.bind (handshakeAge now) with
  | none => simp [lastHandshakeSecsAgo, hage]
  | some age => simp [lastHandshakeSecsAgo, hage]

theorem handshakeAge_eq {now : SystemTime} {units : Nat} (h : 116444736000000000 ≤ now.intervals) :
    handshakeAge now ⟨116444736000000000 + units⟩ =
      some ((now.intervals - 116444736000000000 - units) / 10 ^ 7) := by
  have hsince : (now.intervals - 116444736000000000) * 100 - units * 100 =
      (now.intervals - 116444736000000000 - units) * 100 := by omega
  rw [handshakeAge, SystemTime.durationSince, SystemTime.durationSince, SystemTime.unixEpoch,
    if_pos (Nat.le_add_right _ _), if_pos h, Nat.add_sub_cancel_left]
  rw [Option.map_some, Option.getD_some, hsince]
  congr 1
  omega

/-- What is said of a timestamp and a time: the age is right, and nothing overflows. -/
structure AgeReported (epoch100ns : UInt64) (now : SystemTime) : Prop where
  age : 116444736000000000 ≤ epoch100ns.toNat → epoch100ns.toNat ≤ now.intervals →
    ∀ rx tx time, wireguardEpochToSystemTime epoch100ns = .ok time →
      lastHandshakeSecsAgo (fun _ => now) [⟨rx, tx, time⟩] =
        some ((now.intervals - epoch100ns.toNat) / 10 ^ 7)
  converted : ∃ time, wireguardEpochToSystemTime epoch100ns = .ok time

/-- The age is that of 1970 for every timestamp that a clock shows. -/
theorem ageReported_iff (epoch100ns : UInt64) (now : SystemTime) :
    AgeReported epoch100ns now ↔
      epoch100ns.toNat ≤ 11644473600000000000 + 184467440737095516 ∧
      (epoch100ns.toNat < 116444736000000000 ∨ now.intervals < epoch100ns.toNat ∨
        epoch100ns.toNat - 116444736000000000 ≤ (now.intervals - 116444736000000000) % 10 ^ 7) := by
  rw [← lastConverted]
  by_cases hconverted : epoch100ns.toNat ≤ lastConverted
  · have hok := (wireguardEpochToSystemTime_ok_iff epoch100ns).mpr hconverted
    by_cases hrange : 116444736000000000 ≤ epoch100ns.toNat ∧ epoch100ns.toNat ≤ now.intervals
    · have hne : epoch100ns ≠ 0 := by
        rintro rfl
        exact absurd hrange.1 (by decide)
      have htime := wireguardEpochToSystemTime_eq hne hconverted
      have hage : ∀ rx tx, lastHandshakeSecsAgo (fun _ => now) [⟨rx, tx,
          some ⟨116444736000000000 + (epoch100ns.toNat - windowsEpochDiff)⟩⟩] =
          some ((now.intervals - 116444736000000000 - (epoch100ns.toNat - windowsEpochDiff)) /
            10 ^ 7) := by
        intro rx tx
        rw [lastHandshakeSecsAgo_single, Option.bind_some, handshakeAge_eq (by omega)]
      have hsame : (now.intervals - 116444736000000000 - (epoch100ns.toNat - windowsEpochDiff)) /
            10 ^ 7 = (now.intervals - epoch100ns.toNat) / 10 ^ 7 ↔
          epoch100ns.toNat - 116444736000000000 ≤
            (now.intervals - 116444736000000000) % 10 ^ 7 := by
        rw [windowsEpochDiff]
        omega
      constructor
      · intro h
        refine ⟨hconverted, Or.inr (Or.inr (hsame.mp ?_))⟩
        have hreported := h.age hrange.1 hrange.2 0 0 _ htime
        rw [hage] at hreported
        exact Option.some.inj hreported
      · rintro ⟨-, hcase⟩
        refine ⟨fun _ _ rx tx time hread => ?_, hok⟩
        rw [htime] at hread
        cases hread
        rw [hage, hsame.mpr (by omega)]
    · constructor
      · intro _
        exact ⟨hconverted, by omega⟩
      · intro _
        exact ⟨fun hlow hhigh => absurd ⟨hlow, hhigh⟩ hrange, hok⟩
  · constructor
    · intro h
      exact absurd ((wireguardEpochToSystemTime_ok_iff epoch100ns).mp h.converted) hconverted
    · rintro ⟨h, -⟩
      exact absurd h hconverted

/-- A handshake at 2024-01-01 00:00, seen at that moment. -/
theorem handshake_age_wrong : ¬∀ epoch100ns now, AgeReported epoch100ns now := by
  intro h
  have hage := (h 133485408000000000 ⟨133485408000000000⟩).age (by decide) (by decide) 0 0
    (some .unixEpoch) (by decide)
  exact absurd hage (by decide)

/-! ## The accesses of a query -/

/-- The first peer stands behind the interface, where no peer may stand. -/
theorem mem_peerRefs {buf : List UInt8} {offset : Nat} (h : offset ∈ peerRefs buf) :
    interfaceSize ∈ peerRefs buf := by
  rw [peerRefs] at h ⊢
  by_cases hshort : buf.length < interfaceSize
  · rw [if_pos hshort] at h
    cases h
  · rw [if_neg hshort] at h ⊢
    cases hcount : peersCount buf with
    | zero =>
        rw [hcount, walkPeers] at h
        cases h
    | succ count =>
        rw [hcount, walkPeers] at h
        rw [walkPeers]
        split_ifs at h ⊢
        · cases h
        · exact List.mem_cons_self

theorem peerRefs_eq_nil_iff (buf : List UInt8) :
    peerRefs buf = [] ↔ buf.length < interfaceSize + peerSize ∨ peersCount buf = 0 := by
  rw [peerRefs]
  by_cases hshort : buf.length < interfaceSize
  · rw [if_pos hshort]
    simp only [true_iff]
    exact Or.inl (Nat.lt_add_right _ hshort)
  · rw [if_neg hshort]
    cases hcount : peersCount buf with
    | zero => simp [walkPeers]
    | succ count =>
        rw [walkPeers]
        split_ifs with hroom
        · simp [hroom]
        · simp [hroom]

namespace DriverReply

def Answers (reply : DriverReply) : Prop :=
  reply.lastError = none ∨ reply.lastError = some errorMoreData

def header (reply : DriverReply) : List UInt8 := (List.range interfaceSize).map reply.contents

end DriverReply

theorem getConfiguration_ok_iff (reply : DriverReply) (length : Nat) (answer : Nat × List UInt8) :
    getConfiguration reply length = .ok answer ↔
      reply.Answers ∧ answer = (reply.size.toNat, (List.range length).map reply.contents) := by
  rw [getConfiguration, DriverReply.Answers]
  cases reply.lastError with
  | none => simp [eq_comm]
  | some code =>
      by_cases hmore : code = errorMoreData
      · simp [hmore, eq_comm]
      · simp [hmore]

theorem getConfiguration_error {reply : DriverReply} {length : Nat} {e : Abort UInt32}
    (h : getConfiguration reply length = .error e) :
    ∃ code, code ≠ errorMoreData ∧ e = .error code := by
  rw [getConfiguration] at h
  split at h
  · cases h
  · rename_i code _
    split_ifs at h with hmore
    cases h
    exact ⟨code, hmore, rfl⟩

/-- The fallback size of `query_stats` is never taken. -/
theorem queryBuffer_ok_iff (first second : DriverReply) (buf : List UInt8) (used : Nat) :
    queryBuffer first second = .ok (buf, used) ↔
      first.Answers ∧ second.Answers ∧ used = second.size.toNat ∧
      buf = (List.range (max 4096 first.size.toNat)).map second.contents := by
  rw [queryBuffer]
  cases hfirst : getConfiguration first 4096 with
  | error e =>
      obtain ⟨code, hcode, rfl⟩ := getConfiguration_error hfirst
      have hno : ¬first.Answers := by
        intro hanswers
        rw [(getConfiguration_ok_iff first 4096 _).mpr ⟨hanswers, rfl⟩] at hfirst
        cases hfirst
      simp [hcode, hno]
  | ok answer =>
      obtain ⟨hanswers, rfl⟩ := (getConfiguration_ok_iff first 4096 answer).mp hfirst
      dsimp only
      cases hsecond : getConfiguration second (max 4096 first.size.toNat) with
      | error e =>
          have hno : ¬second.Answers := by
            intro hanswers
            rw [(getConfiguration_ok_iff second _ _).mpr ⟨hanswers, rfl⟩] at hsecond
            cases hsecond
          simp [hno]
      | ok answer =>
          obtain ⟨hsecondAnswers, rfl⟩ := (getConfiguration_ok_iff second _ answer).mp hsecond
          simp [hanswers, hsecondAnswers, eq_comm, and_comm]

theorem peersCount_take {contents : Nat → UInt8} {length used : Nat} (hused : used ≤ length)
    (hlong : interfaceSize ≤ used) :
    peersCount (((List.range length).map contents).take used) =
      peersCount ((List.range interfaceSize).map contents) := by
  have hbytes : ∀ n, interfaceSize ≤ n → field interfaceLayout 5 ((List.range n).map contents) =
      [contents 72, contents 73, contents 74, contents 75] := by
    intro n hn
    obtain ⟨extra, rfl⟩ := Nat.exists_eq_add_of_le hn
    rw [List.range_add, List.map_append]
    rfl
  have htake : ((List.range length).map contents).take used = (List.range used).map contents := by
    rw [← List.map_take, List.take_range, Nat.min_eq_left hused]
  rw [htake, peersCount, peersCount, hbytes used hlong, hbytes interfaceSize (Nat.le_refl _)]

/-- The slice is in range, and so is every `WIREGUARD_PEER`, which is aligned to eight bytes in
a buffer that is. -/
structure AccessesSound (first second : DriverReply) : Prop where
  slice : ∀ buf used, queryBuffer first second = .ok (buf, used) → used ≤ buf.length
  peers : ∀ buf used, queryBuffer first second = .ok (buf, used) →
    ∀ offset ∈ peerRefs (buf.take used),
      offset + peerSize ≤ (buf.take used).length ∧ offset % 8 = 0

def DriverReply.answer (second first : DriverReply) : List UInt8 :=
  ((List.range (max 4096 first.size.toNat)).map second.contents).take second.size.toNat

theorem peerRefs_answer {first second : DriverReply}
    (hfits : second.size.toNat ≤ max 4096 first.size.toNat) :
    peerRefs (second.answer first) = [] ↔
      second.size.toNat < interfaceSize + peerSize ∨ peersCount second.header = 0 := by
  have hlength : (second.answer first).length = second.size.toNat := by
    rw [DriverReply.answer, List.length_take, List.length_map, List.length_range,
      Nat.min_eq_left hfits]
  rw [peerRefs_eq_nil_iff, hlength]
  by_cases hshort : second.size.toNat < interfaceSize + peerSize
  · simp [hshort]
  · rw [DriverReply.answer, peersCount_take hfits (by omega), DriverReply.header]

theorem AccessesSound.noPeer {first second : DriverReply} (h : AccessesSound first second)
    (hfirst : first.Answers) (hsecond : second.Answers) :
    second.size.toNat ≤ max 4096 first.size.toNat ∧
      (second.size.toNat < interfaceSize + peerSize ∨ peersCount second.header = 0) := by
  have hquery := (queryBuffer_ok_iff _ _ _ _).mpr ⟨hfirst, hsecond, rfl, rfl⟩
  have hfits := h.slice _ _ hquery
  rw [List.length_map, List.length_range] at hfits
  refine ⟨hfits, (peerRefs_answer hfits).mp ?_⟩
  by_contra hsome
  obtain ⟨offset, hoffset⟩ := List.exists_mem_of_ne_nil _ hsome
  have haligned := (h.peers _ _ hquery _ (mem_peerRefs hoffset)).2
  exact absurd haligned (by decide)

theorem queryBuffer_error {first second : DriverReply} {e : Abort UInt32}
    (h : queryBuffer first second = .error e) : ∃ code, e = .error code := by
  rw [queryBuffer] at h
  cases hfirst : getConfiguration first 4096 with
  | error refused =>
      obtain ⟨code, hcode, rfl⟩ := getConfiguration_error hfirst
      simp only [hfirst, if_neg hcode] at h
      cases h
      exact ⟨code, rfl⟩
  | ok answer =>
      simp only [hfirst] at h
      split at h
      · rename_i refused hsecond
        obtain ⟨code, _, rfl⟩ := getConfiguration_error hsecond
        cases h
        exact ⟨code, rfl⟩
      · cases h

/-- A query is sound only by reporting no peer: it succeeds without one or ends in an error of the
driver, and does not panic. -/
theorem AccessesSound.queryStats_none {first second : DriverReply}
    (h : AccessesSound first second) :
    queryStats first second = .ok [] ∨ ∃ code, queryStats first second = .error (.error code) := by
  rw [queryStats]
  cases hquery : queryBuffer first second with
  | error e =>
      obtain ⟨code, rfl⟩ := queryBuffer_error hquery
      exact Or.inr ⟨code, rfl⟩
  | ok answer =>
      obtain ⟨buf, used⟩ := answer
      obtain ⟨hfirst, hsecond, rfl, rfl⟩ := (queryBuffer_ok_iff _ _ _ _).mp hquery
      obtain ⟨hfits, hnone⟩ := h.noPeer hfirst hsecond
      have hlength := h.slice _ _ hquery
      refine Or.inl ?_
      dsimp only
      rw [if_neg (Nat.not_lt.mpr hlength), parseConfigBuffer, ← DriverReply.answer,
        (peerRefs_answer hfits).mpr hnone]
      rfl

/-- A query is sound where the driver has no peer to report and the buffer is large enough. -/
theorem accessesSound_iff (first second : DriverReply) :
    AccessesSound first second ↔
      (first.Answers → second.Answers →
        second.size.toNat ≤ max 4096 first.size.toNat ∧
        (second.size.toNat < interfaceSize + peerSize ∨ peersCount second.header = 0)) := by
  constructor
  · intro h hfirst hsecond
    exact h.noPeer hfirst hsecond
  · intro h
    constructor
    · intro buf used hquery
      obtain ⟨hfirst, hsecond, rfl, rfl⟩ := (queryBuffer_ok_iff _ _ _ _).mp hquery
      rw [List.length_map, List.length_range]
      exact (h hfirst hsecond).1
    · intro buf used hquery
      obtain ⟨hfirst, hsecond, rfl, rfl⟩ := (queryBuffer_ok_iff _ _ _ _).mp hquery
      obtain ⟨hfits, hnone⟩ := h hfirst hsecond
      intro offset hoffset
      rw [← DriverReply.answer, (peerRefs_answer hfits).mpr hnone] at hoffset
      cases hoffset

/-- A driver with one peer: 212 bytes, the peer at offset 76. -/
theorem onePeer_not_sound : ¬∀ first second, AccessesSound first second := by
  intro h
  let reply : DriverReply :=
    { lastError := none, size := 212, contents := fun i => if i = 72 then 1 else 0 }
  have hnone := (h reply reply).noPeer (Or.inl rfl) (Or.inl rfl)
  exact absurd hnone.2 (by decide)

end RouteGuard
