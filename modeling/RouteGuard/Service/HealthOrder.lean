import RouteGuard.Service.Observability
import Mathlib.Algebra.GroupWithZero.Nat
import Mathlib.Data.Option.Defs

/-! # Worse inputs and the health score

`compute_health` with each arithmetic step of its fixed-width numbers checked,
and what becomes of the report when an input gets worse. -/
set_option autoImplicit false
namespace RouteGuard

/-! ## Checked arithmetic -/

def checkedMul (width a b : Nat) : Option Nat := if a * b < 2 ^ width then some (a * b) else none

def checkedAdd (width a b : Nat) : Option Nat := if a + b < 2 ^ width then some (a + b) else none

/-- `100u8.saturating_sub(((age * 100) / 300) as u8)`; the cast keeps the low eight bits. -/
def agedScore (age : Nat) : Option Nat := do
  let scaled ← checkedMul 64 age 100
  pure (100 - scaled / 300 % 2 ^ 8)

/-- `sum + score as u16 * weight` -/
def addWeighted (sum : Nat) (part : Nat × Nat) : Option Nat := do
  let scaled ← checkedMul 16 part.1 part.2
  checkedAdd 16 sum scaled

/-- The weighted sum of the scores in `u16`, from the left. -/
def weightedSum : List (Nat × Nat) → Option Nat
  | [] => some 0
  | (score, weight) :: rest => do
      let first ← checkedMul 16 score weight
      rest.foldlM addWeighted first

structure HealthInput (S : Type) where
  tunnel : Option TunnelObs
  transport : Option TransportObs
  routing : RoutingObs
  networkLock : NetworkLockObs
  dns : DnsObs S
  sessionState : String

def scoreHandshakeChecked (tunnel : Option TunnelObs) : Option ScoreReason :=
  match tunnel with
  | none => some (100, none)
  | some t =>
      if t.stats.peerCount = 0 then some (50, some "no_peers")
      else
        match t.stats.lastHandshakeSecsAgo with
        | none => some (40, some "no_handshake")
        | some age =>
            let reason := "handshake_age_" ++ toString age ++ "s"
            if age ≤ 30 then some (100, none)
            else if 300 ≤ age then some (0, some reason)
            else (agedScore age).map fun score => (score, if 120 < age then some reason else none)

namespace HealthInput
variable {S : Type} (i : HealthInput S)

def report : HealthReport :=
  computeHealth i.tunnel i.transport i.routing i.networkLock i.dns i.sessionState

/-- `compute_health`; an overflow is `none`. -/
def checkedReport : Option HealthReport := do
  let tunnelScore := scoreTunnel i.tunnel i.sessionState
  let transportScore := scoreTransport i.transport i.sessionState
  let handshakeScore ← scoreHandshakeChecked i.tunnel
  let routingScore := scoreRouting i.routing
  let domainScore := scoreDomain i.routing i.dns
  let nlScore := scoreNetworkLock i.networkLock
  let driverScore := scoreDriver i.dns
  let weighted ←
    if i.tunnel.isSome ∨ i.sessionState = "connected" then do
      let sum ← weightedSum [(tunnelScore.1, 25), (transportScore.1, 20), (handshakeScore.1, 20),
        (routingScore.1, 10), (domainScore.1, 10), (nlScore.1, 10), (driverScore.1, 5)]
      pure (sum / 100)
    else if i.sessionState = "locked_down" then pure 0
    else pure 100
  let score := min weighted 100 % 2 ^ 8
  pure
    { score := score
      status := .fromScore score
      components := [healthComponent "tunnel" tunnelScore,
        healthComponent "transport" transportScore, healthComponent "handshake" handshakeScore,
        healthComponent "routing" routingScore, healthComponent "domain" domainScore,
        healthComponent "networkLock" nlScore, healthComponent "driver" driverScore] }

end HealthInput

/-! ## Worse inputs -/

/-- `TransportHealth`, by the names `transport_health_str` gives it. -/
def NoBetterHealth (health health' : String) : Prop :=
  health' = health ∨ (health, health') ∈
    [("healthy", "degraded"), ("healthy", "failed"), ("degraded", "failed")]

/-- The same tunnel, or its last handshake lies further back. -/
def TunnelObs.Worsens (t t' : TunnelObs) : Prop :=
  t' = t ∨ ∃ age age', t.stats.lastHandshakeSecsAgo = some age ∧ age ≤ age' ∧
    t' = { t with stats := { t.stats with lastHandshakeSecsAgo := some age' } }

def TransportObs.Worsens (t t' : TransportObs) : Prop :=
  ∃ health, NoBetterHealth t.health health ∧ t' = { t with health := health }

def NetworkLockObs.Worsens (nl nl' : NetworkLockObs) : Prop :=
  ∃ blocked, nl.violationsBlocked ≤ blocked ∧ nl' = { nl with violationsBlocked := blocked }

/-- The two inputs differ only in that the second is worse. -/
structure HealthInput.Worsens {S : Type} (i i' : HealthInput S) : Prop where
  tunnel : Option.Rel TunnelObs.Worsens i.tunnel i'.tunnel
  transport : Option.Rel TransportObs.Worsens i.transport i'.transport
  routing : i'.routing = i.routing
  networkLock : i.networkLock.Worsens i'.networkLock
  dns : i'.dns = i.dns
  sessionState : i'.sessionState = i.sessionState

/-- The place in the order healthy, degraded, unhealthy. -/
def HealthStatus.rank : HealthStatus → Option Nat
  | .healthy => some 0
  | .degraded => some 1
  | .unhealthy => some 2
  | .unknown => none

def HealthStatus.Falls (status status' : HealthStatus) : Prop :=
  ∃ r r', status.rank = some r ∧ status'.rank = some r' ∧ r ≤ r'

/-- No step of either call overflows, and the second report is no better than the first. -/
structure HealthFalls {S : Type} (i i' : HealthInput S) : Prop where
  exact : i.checkedReport = some i.report ∧ i'.checkedReport = some i'.report
  bounded : i.report.score ≤ 100 ∧ i'.report.score ≤ 100
  score : i'.report.score ≤ i.report.score
  status : i.report.status.Falls i'.report.status
  components : List.Forall₂ (fun c c' => c.id = c'.id ∧ c.status.Falls c'.status)
    i.report.components i'.report.components

/-- Something is at its worst: its score is 0. -/
def HealthInput.AtBottom {S : Type} (i : HealthInput S) : Prop :=
  (i.sessionState = "locked_down" ∨ i.sessionState = "error") ∨
    (i.sessionState = "connected" ∧
      ∃ t, i.transport = some t ∧ t.kind ≠ "direct_udp" ∧ t.health = "failed") ∨
    (∃ t age, i.tunnel = some t ∧ t.stats.peerCount ≠ 0 ∧
      t.stats.lastHandshakeSecsAgo = some age ∧ 300 ≤ age) ∨
    (i.dns.kernelRedirect = true ∧ i.dns.driver.present = false)

/-! ## No overflow -/

section Arithmetic

theorem checkedMul_ok {width a b : Nat} (h : a * b < 2 ^ width) :
    checkedMul width a b = some (a * b) := if_pos h

theorem checkedAdd_ok {width a b : Nat} (h : a + b < 2 ^ width) :
    checkedAdd width a b = some (a + b) := if_pos h

theorem agedScore_eq {age : Nat} (h : age < 300) :
    agedScore age = some (100 - age * 100 / 300) := by
  have hscaled : age * 100 < 2 ^ 64 := by omega
  have hnarrow : age * 100 / 300 % 2 ^ 8 = age * 100 / 300 := Nat.mod_eq_of_lt (by omega)
  rw [agedScore, checkedMul_ok hscaled]
  show some (100 - age * 100 / 300 % 2 ^ 8) = _
  rw [hnarrow]

theorem scoreHandshakeChecked_eq (tunnel : Option TunnelObs) :
    scoreHandshakeChecked tunnel = some (scoreHandshake tunnel) := by
  unfold scoreHandshakeChecked scoreHandshake
  cases tunnel with
  | none => rfl
  | some t =>
      dsimp only
      split
      · rfl
      · cases t.stats.lastHandshakeSecsAgo with
        | none => rfl
        | some age =>
            dsimp only
            split
            · rfl
            · split
              · rfl
              · rw [agedScore_eq (by omega)]
                rfl

theorem addWeighted_ok {sum : Nat} {part : Nat × Nat} (h : sum + part.1 * part.2 < 2 ^ 16) :
    addWeighted sum part = some (sum + part.1 * part.2) := by
  have hpart : part.1 * part.2 < 2 ^ 16 := by omega
  rw [addWeighted, checkedMul_ok hpart]
  exact checkedAdd_ok h

theorem foldlM_weighted : ∀ (parts : List (Nat × Nat)) (sum : Nat),
    sum + (parts.map fun part => part.1 * part.2).sum < 2 ^ 16 →
      parts.foldlM addWeighted sum =
        some (sum + (parts.map fun part => part.1 * part.2).sum) := by
  intro parts
  induction parts with
  | nil => intro sum _; rfl
  | cons part rest ih =>
      intro sum hsum
      rw [List.map_cons, List.sum_cons] at hsum ⊢
      have hnext : sum + part.1 * part.2 < 2 ^ 16 := by omega
      rw [List.foldlM_cons, addWeighted_ok hnext]
      show rest.foldlM addWeighted (sum + part.1 * part.2) = _
      rw [ih _ (by omega), Nat.add_assoc]

theorem weightedSum_eq (parts : List (Nat × Nat))
    (h : (parts.map fun part => part.1 * part.2).sum < 2 ^ 16) :
    weightedSum parts = some (parts.map fun part => part.1 * part.2).sum := by
  cases parts with
  | nil => rfl
  | cons part rest =>
      rw [List.map_cons, List.sum_cons] at h ⊢
      have hpart : part.1 * part.2 < 2 ^ 16 := by omega
      simp only [weightedSum, checkedMul_ok hpart, Option.bind_eq_bind, Option.bind_some]
      exact foldlM_weighted rest (part.1 * part.2) h

end Arithmetic

/-! ## The component scores -/

section Scores
variable {S : Type}

theorem scoreTunnel_le (tunnel : Option TunnelObs) (state : String) :
    (scoreTunnel tunnel state).1 ≤ 100 := by
  unfold scoreTunnel
  split_ifs <;> simp

theorem scoreTransport_le (transport : Option TransportObs) (state : String) :
    (scoreTransport transport state).1 ≤ 100 := by
  unfold scoreTransport
  split_ifs
  · simp
  · cases transport with
    | none => simp
    | some t =>
        dsimp only
        split_ifs <;> simp

theorem scoreHandshake_le (tunnel : Option TunnelObs) : (scoreHandshake tunnel).1 ≤ 100 := by
  unfold scoreHandshake
  cases tunnel with
  | none => simp
  | some t =>
      dsimp only
      split_ifs
      · simp
      · cases t.stats.lastHandshakeSecsAgo with
        | none => simp
        | some age =>
            dsimp only
            split_ifs <;> simp

theorem scoreDomain_pos (routing : RoutingObs) (dns : DnsObs S) :
    0 < (scoreDomain routing dns).1 ∧ (scoreDomain routing dns).1 ≤ 100 := by
  unfold scoreDomain
  split_ifs <;> simp

theorem scoreNetworkLock_pos (nl : NetworkLockObs) :
    0 < (scoreNetworkLock nl).1 ∧ (scoreNetworkLock nl).1 ≤ 100 := by
  unfold scoreNetworkLock
  split_ifs <;> simp

theorem scoreDriver_le (dns : DnsObs S) : (scoreDriver dns).1 ≤ 100 := by
  unfold scoreDriver
  split_ifs <;> simp

theorem scoreTunnel_eq_zero_iff (tunnel : Option TunnelObs) (state : String) :
    (scoreTunnel tunnel state).1 = 0 ↔ state = "locked_down" ∨ state = "error" := by
  unfold scoreTunnel
  split_ifs with hconnected htunnel hbusy hdown
  · simp [hconnected]
  · simp [hconnected]
  · rcases hbusy with rfl | rfl <;> simp
  · simp [hdown]
  · simp [hdown]

theorem scoreTransport_eq_zero_iff (transport : Option TransportObs) (state : String) :
    (scoreTransport transport state).1 = 0 ↔ state = "connected" ∧
      ∃ t, transport = some t ∧ t.kind ≠ "direct_udp" ∧ t.health = "failed" := by
  unfold scoreTransport
  by_cases hstate : state = "connected"
  · rw [if_neg (by simp [hstate])]
    cases transport with
    | none => simp
    | some t =>
        dsimp only
        split_ifs <;> simp_all
  · simp [hstate]

theorem scoreHandshake_eq_zero_iff (tunnel : Option TunnelObs) :
    (scoreHandshake tunnel).1 = 0 ↔ ∃ t age, tunnel = some t ∧ t.stats.peerCount ≠ 0 ∧
      t.stats.lastHandshakeSecsAgo = some age ∧ 300 ≤ age := by
  unfold scoreHandshake
  cases tunnel with
  | none => simp
  | some t =>
      dsimp only
      split_ifs with hpeers
      · simp [hpeers]
      · cases hage : t.stats.lastHandshakeSecsAgo with
        | none => simp [hage]
        | some age =>
            dsimp only
            by_cases hold : 300 ≤ age
            · have hstale : ¬age ≤ 30 := by omega
              rw [if_neg hstale, if_pos hold]
              exact iff_of_true rfl ⟨t, age, rfl, hpeers, hage, hold⟩
            · have hscore : 0 < 100 - age * 100 / 300 := by omega
              rw [if_neg hold]
              split_ifs <;> simp [hage, hold] <;> omega

theorem scoreDriver_eq_zero_iff (dns : DnsObs S) :
    (scoreDriver dns).1 = 0 ↔ dns.kernelRedirect = true ∧ dns.driver.present = false := by
  unfold scoreDriver
  split_ifs <;> simp_all

end Scores

/-! ## Order -/

section Order

theorem fromScore_falls {score score' : Nat} (hle : score' ≤ score) (hbound : score ≤ 100)
    (hpos : 0 < score') : (HealthStatus.fromScore score).Falls (.fromScore score') := by
  unfold HealthStatus.fromScore
  split_ifs <;> first
    | omega
    | exact ⟨_, _, rfl, rfl, by decide⟩

theorem pos_of_falls {status : HealthStatus} {score : Nat}
    (h : status.Falls (.fromScore score)) : 0 < score := by
  obtain ⟨_, r, _, hr, _⟩ := h
  by_contra hzero
  have hnone : score = 0 := by omega
  rw [hnone] at hr
  cases hr

theorem isSome_of_rel {A : Type} {r : A → A → Prop} {a a' : Option A} (h : Option.Rel r a a') :
    a'.isSome = a.isSome := by
  cases h <;> rfl

theorem scoreTunnel_same {tunnel tunnel' : Option TunnelObs} (state : String)
    (h : Option.Rel TunnelObs.Worsens tunnel tunnel') :
    scoreTunnel tunnel' state = scoreTunnel tunnel state := by
  cases h <;> rfl

theorem scoreTransport_known {t : TransportObs} {state : String} (hstate : state = "connected")
    (hkind : t.kind ≠ "direct_udp") :
    (t.health = "healthy" → (scoreTransport (some t) state).1 = 100) ∧
      (t.health = "degraded" → (scoreTransport (some t) state).1 = 60) ∧
      (t.health = "failed" → (scoreTransport (some t) state).1 = 0) := by
  simp only [scoreTransport, hstate, ne_eq, not_true_eq_false, if_false, if_neg hkind]
  refine ⟨fun h => ?_, fun h => ?_, fun h => ?_⟩
  · rw [if_pos h]
  · rw [h, if_neg (by decide), if_pos rfl]
  · rw [h, if_neg (by decide), if_neg (by decide), if_pos rfl]

/-- Only over a transport of its own is the health looked at. -/
theorem scoreTransport_plain {t : TransportObs} {state : String} (health : String)
    (h : state ≠ "connected" ∨ t.kind = "direct_udp") :
    scoreTransport (some { t with health := health }) state = (100, none) := by
  unfold scoreTransport
  rcases h with hstate | hkind
  · rw [if_pos hstate]
  · split_ifs
    · rfl
    · simp only [hkind, if_true]

theorem scoreTransport_antitone {transport transport' : Option TransportObs} (state : String)
    (h : Option.Rel TransportObs.Worsens transport transport') :
    (scoreTransport transport' state).1 ≤ (scoreTransport transport state).1 := by
  cases h with
  | none => exact Nat.le_refl _
  | @some t t' h =>
      obtain ⟨health, horder, rfl⟩ := h
      rcases horder with rfl | horder
      · exact Nat.le_refl _
      · by_cases hlooked : state = "connected" ∧ t.kind ≠ "direct_udp"
        · obtain ⟨hstate, hkind⟩ := hlooked
          obtain ⟨hhealthy, _, _⟩ := scoreTransport_known (t := t) hstate hkind
          obtain ⟨_, hdegraded', hfailed'⟩ :=
            scoreTransport_known (t := { t with health := health }) hstate hkind
          simp only [List.mem_cons, List.not_mem_nil, or_false, Prod.mk.injEq] at horder
          rcases horder with ⟨hold, hnew⟩ | ⟨_, hnew⟩ | ⟨_, hnew⟩
          · rw [hhealthy hold, hdegraded' hnew]
            decide
          · rw [hfailed' hnew]
            exact Nat.zero_le _
          · rw [hfailed' hnew]
            exact Nat.zero_le _
        · have hplain : state ≠ "connected" ∨ t.kind = "direct_udp" := by
            by_contra hboth
            rw [not_or, not_not] at hboth
            exact hlooked hboth
          rw [scoreTransport_plain health hplain, scoreTransport_plain t.health hplain]

theorem scoreHandshake_antitone {tunnel tunnel' : Option TunnelObs}
    (h : Option.Rel TunnelObs.Worsens tunnel tunnel') :
    (scoreHandshake tunnel').1 ≤ (scoreHandshake tunnel).1 := by
  cases h with
  | none => exact Nat.le_refl _
  | @some t t' h =>
      rcases h with rfl | ⟨age, age', hage, hle, rfl⟩
      · exact Nat.le_refl _
      · simp only [scoreHandshake, hage]
        split_ifs <;> simp <;> omega

theorem scoreNetworkLock_antitone {nl nl' : NetworkLockObs} (h : nl.Worsens nl') :
    (scoreNetworkLock nl').1 ≤ (scoreNetworkLock nl).1 := by
  obtain ⟨blocked, hle, rfl⟩ := h
  unfold scoreNetworkLock
  dsimp only
  split_ifs <;> simp
  omega

end Order

/-! ## The report -/

namespace HealthInput
variable {S : Type}

theorem checkedReport_eq (i : HealthInput S) : i.checkedReport = some i.report := by
  have htunnel := scoreTunnel_le i.tunnel i.sessionState
  have htransport := scoreTransport_le i.transport i.sessionState
  have hhandshake := scoreHandshake_le i.tunnel
  have hdomain := (scoreDomain_pos i.routing i.dns).2
  have hnl := (scoreNetworkLock_pos i.networkLock).2
  have hdriver := scoreDriver_le i.dns
  have hnarrow : ∀ weighted : Nat, min weighted 100 % 2 ^ 8 = min weighted 100 :=
    fun weighted => Nat.mod_eq_of_lt (by omega)
  simp only [checkedReport, scoreHandshakeChecked_eq, report, computeHealth, hnarrow,
    Option.bind_eq_bind, Option.bind_some]
  split_ifs
  · rw [weightedSum_eq _ (by
      simp only [List.map_cons, List.map_nil, List.sum_cons, List.sum_nil, scoreRouting]
      omega)]
    simp only [List.map_cons, List.map_nil, List.sum_cons, List.sum_nil, Option.bind_some,
      Nat.add_assoc, Nat.add_zero]
    rfl
  · rfl
  · rfl

theorem report_score_le (i : HealthInput S) : i.report.score ≤ 100 := Nat.min_le_right _ _

theorem report_score_antitone {i i' : HealthInput S} (h : i.Worsens i') :
    i'.report.score ≤ i.report.score := by
  have htunnel := scoreTunnel_same i.sessionState h.tunnel
  have htransport := scoreTransport_antitone i.sessionState h.transport
  have hhandshake := scoreHandshake_antitone h.tunnel
  have hnl := scoreNetworkLock_antitone h.networkLock
  have hsome := isSome_of_rel h.tunnel
  simp only [report, computeHealth, h.routing, h.dns, h.sessionState, htunnel, hsome, scoreRouting]
  split_ifs
  · omega
  · omega
  · omega

/-- The routing component alone keeps a weighted score above 0. -/
theorem report_score_pos {i : HealthInput S} (h : ¬i.AtBottom) : 0 < i.report.score := by
  have hstate : i.sessionState ≠ "locked_down" := fun hlocked => h (Or.inl (Or.inl hlocked))
  simp only [report, computeHealth, scoreRouting, if_neg hstate]
  split_ifs <;> omega

theorem atBottom_iff (i : HealthInput S) : i.AtBottom ↔
    (scoreTunnel i.tunnel i.sessionState).1 = 0 ∨
      (scoreTransport i.transport i.sessionState).1 = 0 ∨ (scoreHandshake i.tunnel).1 = 0 ∨
      (scoreDriver i.dns).1 = 0 := by
  rw [scoreTunnel_eq_zero_iff, scoreTransport_eq_zero_iff, scoreHandshake_eq_zero_iff,
    scoreDriver_eq_zero_iff]
  rfl

theorem components_fall_iff {i i' : HealthInput S} (h : i.Worsens i') :
    List.Forall₂ (fun c c' => c.id = c'.id ∧ c.status.Falls c'.status)
      i.report.components i'.report.components ↔ ¬i'.AtBottom := by
  simp only [report, computeHealth, healthComponent, List.forall₂_cons, List.forall₂_nil_left_iff,
    true_and, and_true, atBottom_iff, not_or]
  constructor
  · intro hfalls
    obtain ⟨htunnel, htransport, hhandshake, _, _, _, hdriver⟩ := hfalls
    exact ⟨(pos_of_falls htunnel).ne', (pos_of_falls htransport).ne',
      (pos_of_falls hhandshake).ne', (pos_of_falls hdriver).ne'⟩
  · intro hpos
    obtain ⟨htunnel, htransport, hhandshake, hdriver⟩ := hpos
    have hstate := h.sessionState
    have hsame := scoreTunnel_same i.sessionState h.tunnel
    have hdomain := scoreDomain_pos i.routing i.dns
    rw [hstate] at htunnel htransport ⊢
    rw [h.dns] at hdriver ⊢
    rw [h.routing]
    refine ⟨?_, ?_, ?_, ?_, ?_, ?_, ?_⟩
    · exact fromScore_falls (by rw [hsame]) (scoreTunnel_le _ _) (Nat.pos_of_ne_zero htunnel)
    · exact fromScore_falls (scoreTransport_antitone _ h.transport) (scoreTransport_le _ _)
        (Nat.pos_of_ne_zero htransport)
    · exact fromScore_falls (scoreHandshake_antitone h.tunnel) (scoreHandshake_le _)
        (Nat.pos_of_ne_zero hhandshake)
    · exact fromScore_falls (Nat.le_refl _) (by simp [scoreRouting]) (by simp [scoreRouting])
    · exact fromScore_falls (Nat.le_refl _) hdomain.2 hdomain.1
    · exact fromScore_falls (scoreNetworkLock_antitone h.networkLock)
        (scoreNetworkLock_pos _).2 (scoreNetworkLock_pos _).1
    · exact fromScore_falls (Nat.le_refl _) (scoreDriver_le _) (Nat.pos_of_ne_zero hdriver)

/-- A worse input makes no better report, and no report of something unknown, exactly where it is
not at its worst. -/
theorem falls_iff {i i' : HealthInput S} (h : i.Worsens i') :
    HealthFalls i i' ↔ ¬i'.AtBottom := by
  constructor
  · intro hfalls
    exact (components_fall_iff h).mp hfalls.components
  · intro hbottom
    have hscore := report_score_antitone h
    exact
      { exact := ⟨checkedReport_eq i, checkedReport_eq i'⟩
        bounded := ⟨report_score_le i, report_score_le i'⟩
        score := hscore
        status := fromScore_falls hscore (report_score_le i) (report_score_pos hbottom)
        components := (components_fall_iff h).mpr hbottom }

/-! ## A handshake that grows old -/

def aging (age : Nat) : HealthInput Unit where
  tunnel := some
    { name := "t", lifecycle := "connected", ifIndex := some 1
      backend := ⟨"wireguard_nt", true, false, none⟩, peers := []
      stats := ⟨0, 0, 0, 0, none, none, some age, 1⟩ }
  transport := none
  routing := ⟨"full_tunnel", ⟨0, 0⟩, ⟨0, 0⟩, ⟨0, 0⟩, ⟨0, 0, 0⟩, none⟩
  networkLock := ⟨false, false, 0, 0, none⟩
  dns := ⟨false, "", false, false, ⟨false, false, none⟩, none⟩
  sessionState := "connected"

theorem aging_worsens {age age' : Nat} (h : age ≤ age') : (aging age).Worsens (aging age') where
  tunnel := .some (Or.inr ⟨age, age', rfl, h, rfl⟩)
  transport := .none
  routing := rfl
  networkLock := ⟨0, Nat.le_refl _, rfl⟩
  dns := rfl
  sessionState := rfl

theorem falls_iff_aging : HealthFalls (aging 40) (aging 150) ↔ ¬(aging 150).AtBottom :=
  falls_iff (aging_worsens (by decide))

/-- The worst age of a handshake is reported as unknown. -/
theorem aged_unknown : ¬∀ i i' : HealthInput Unit, i.Worsens i' → HealthFalls i i' := by
  intro hall
  have hworse : (aging 150).Worsens (aging 300) := aging_worsens (by decide)
  have hfalls := (components_fall_iff hworse).mp (hall _ _ hworse).components
  exact hfalls (Or.inr (Or.inr (Or.inl ⟨_, 300, rfl, by decide, rfl, by decide⟩)))

end HealthInput
end RouteGuard
