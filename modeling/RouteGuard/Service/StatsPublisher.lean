import RouteGuard.Lib.Deadband
import RouteGuard.Service.EventBridge

/-! # The statistics publisher

`spawn_stats_publisher` of `publisher.rs` with `update_rates` of `collectors.rs`:
what the task remembers from one second to the next and what it publishes.  Its
part of `ObservabilityRuntime` is written by nobody else. -/
set_option autoImplicit false
namespace RouteGuard

open Deadband GuardedRun

inductive TransportHealth where
  | healthy
  | degraded
  | failed
deriving DecidableEq, Repr

def transportHealthStr : TransportHealth → String
  | .healthy => "healthy"
  | .degraded => "degraded"
  | .failed => "failed"

/-- `format!("{:?}", status).to_lowercase()` -/
def HealthStatus.lowercase : HealthStatus → String
  | .healthy => "healthy"
  | .degraded => "degraded"
  | .unhealthy => "unhealthy"
  | .unknown => "unknown"

def absDiff (a b : Nat) : Nat := (a - b) + (b - a)

/-- The score has left the band of the last one told, or is ten points from it. -/
def FarScore (told score : Nat) : Prop :=
  HealthStatus.fromScore score ≠ HealthStatus.fromScore told ∨ 10 ≤ absDiff score told

instance (told score : Nat) : Decidable (FarScore told score) :=
  inferInstanceAs (Decidable (_ ∨ _))

/-- `rate * 8` in `u64`, as the release build computes it. -/
def bitRate (rate : Nat) : Nat := rate * 8 % 2 ^ 64

/-! ## A tick -/

/-- What a tick finds: the handle, the statistics of its backend, the session whose transport is
asked and its answer, and the service when the snapshot is made. -/
structure PublisherTick (V S : Type) where
  handle : Option TunnelHandle
  stats : Option TunnelStats
  session : Option ActiveConnectSession
  health : TransportHealth
  view : ServiceView V S

/-- Without a tunnel or its statistics the tick does nothing. -/
def PublisherTick.reading {V S : Type} (t : PublisherTick V S) : Option StatsTick :=
  t.handle.bind fun h => t.stats.map fun stats => ⟨h.name, stats⟩

/-- `recorded` lists the numbers handed to `MetricsStore::record` before they become `f64`; for the
proofs, `scores` lists the scores of the snapshots. -/
structure StatsPublisher where
  lastRxBytes : Nat := 0
  lastTxBytes : Nat := 0
  lastRxRate : Nat := 0
  lastTxRate : Nat := 0
  lastHandshakeThreshold : Option Nat := none
  lastTransportKindHealth : Option (TransportKind × String) := none
  lastTransportHealth : String := ""
  lastHealthScore : Nat := 100
  published : List ServiceEvent := []
  recorded : List (String × Nat) := []
  scores : List Nat := []

namespace StatsPublisher

def publish (w : StatsPublisher) (event : ServiceEvent) : StatsPublisher :=
  { w with published := w.published ++ [event] }

def updateRates (w : StatsPublisher) (stats : TunnelStats) : StatsPublisher :=
  let rxRate := stats.rxBytes - w.lastRxBytes
  let txRate := stats.txBytes - w.lastTxBytes
  { w with
    lastRxBytes := stats.rxBytes
    lastTxBytes := stats.txBytes
    lastRxRate := rxRate
    lastTxRate := txRate
    recorded := w.recorded ++ [("tunnel.rxRateBps", rxRate * 8), ("tunnel.txRateBps", txRate * 8),
      ("tunnel.rxBytes", stats.rxBytes), ("tunnel.txBytes", stats.txBytes)] }

def publishStats (w : StatsPublisher) (name : String) (stats : TunnelStats) : StatsPublisher :=
  w.publish (.stats name stats.rxBytes stats.txBytes (bitRate w.lastRxRate) (bitRate w.lastTxRate)
    stats.peerCount)

def publishHandshake (w : StatsPublisher) (name : String) (stats : TunnelStats) :
    StatsPublisher :=
  match stats.lastHandshakeSecsAgo with
  | none => w
  | some age =>
      let (last, event) :=
        crossThreshold w.lastHandshakeThreshold ⟨name, age, stats.peerCount⟩ handshakeThresholds
      { w with
        lastHandshakeThreshold := if age < 30 then none else last
        published := w.published ++ (event.map ServiceEvent.handshakeThreshold).toList }

def setTransportHealth (w : StatsPublisher) (kind : TransportKind) (health : String) :
    StatsPublisher :=
  { w with lastTransportKindHealth := some (kind, health), lastTransportHealth := health }

def publishTransport (w : StatsPublisher) (session : Option ActiveConnectSession)
    (health : TransportHealth) : StatsPublisher :=
  match session with
  | none => w
  | some active =>
      if active.transportChoice = .directUdp then w
      else
        let kind := active.transportSession.kind
        let healthStr := transportHealthStr health
        if w.lastTransportKindHealth.map Prod.snd ≠ some healthStr then
          (w.setTransportHealth kind healthStr).publish (.transportHealthChanged kind healthStr
            (some active.transportSession.wireguardEndpoint.toString))
        else w

def publishHealth (w : StatsPublisher) (health : HealthReport) : StatsPublisher :=
  let previous := w.lastHealthScore
  let w := { w with scores := w.scores ++ [health.score] }
  if FarScore previous health.score then
    { w.publish (.observabilityHealthChanged health.score health.status.lowercase previous) with
      lastHealthScore := health.score }
  else w

section Tick
variable {V S : Type} (simpleHash : ServiceView.PolicyHash)

def runtime (w : StatsPublisher) (view : ServiceView V S) : ServiceView V S :=
  { view with
    obs := { view.obs with
      lastRxRate := w.lastRxRate
      lastTxRate := w.lastTxRate
      transportRecovery := { view.obs.transportRecovery with
        lastTransportHealth := w.lastTransportHealth } } }

def tick (w : StatsPublisher) (t : PublisherTick V S) : StatsPublisher :=
  match t.handle, t.stats with
  | some h, some stats =>
      let w := (((w.updateRates stats).publishStats h.name stats).publishHandshake h.name
        stats).publishTransport t.session t.health
      w.publishHealth ((w.runtime t.view).collectSnapshot simpleHash).health
  | _, _ => w

end Tick

/-! ## What the events tell -/

def isStats : ServiceEvent → Bool
  | .stats _ _ _ _ _ _ => true
  | _ => false

def isScore : ServiceEvent → Bool
  | .observabilityHealthChanged _ _ _ => true
  | _ => false

def handshakeTold : ServiceEvent → Option HandshakeThreshold
  | .handshakeThreshold event => some event
  | _ => none

def transportTold : ServiceEvent → Option String
  | .transportHealthChanged _ health _ => some health
  | _ => none

section Ticks
variable {V S : Type}

/-- The answer of a transport other than the direct one. -/
def asked (session : Option ActiveConnectSession) (health : TransportHealth) : Option String :=
  session.bind fun active =>
    if active.transportChoice = .directUdp then none else some (transportHealthStr health)

def readings (ticks : List (PublisherTick V S)) : List StatsTick :=
  ticks.filterMap PublisherTick.reading

def healths (ticks : List (PublisherTick V S)) : List String :=
  ticks.filterMap fun t => t.reading.bind fun _ => asked t.session t.health

end Ticks

/-- Each rate is what a counter has gained since the reading before, and 0 when it fell. -/
def statsFrom (rxBytes txBytes : Nat) : List StatsTick → List ServiceEvent
  | [] => []
  | t :: rest =>
      .stats t.name t.stats.rxBytes t.stats.txBytes (bitRate (t.stats.rxBytes - rxBytes))
        (bitRate (t.stats.txBytes - txBytes)) t.stats.peerCount ::
        statsFrom t.stats.rxBytes t.stats.txBytes rest

def scoreEvent (change : Nat × Nat) : ServiceEvent :=
  .observabilityHealthChanged change.2 (HealthStatus.fromScore change.2).lowercase change.1

def countersOf (w : StatsPublisher) : Nat × Nat × List ServiceEvent :=
  (w.lastRxBytes, w.lastTxBytes, w.published.filter isStats)

def handshakesOf (w : StatsPublisher) : Option Nat × List HandshakeThreshold :=
  (w.lastHandshakeThreshold, w.published.filterMap handshakeTold)

def transportsOf (w : StatsPublisher) : Option String × String × List String :=
  (w.lastTransportKindHealth.map Prod.snd, w.lastTransportHealth,
    w.published.filterMap transportTold)

def scoresOf (w : StatsPublisher) : Nat × List Nat × List ServiceEvent :=
  (w.lastHealthScore, w.scores, w.published.filter isScore)

section Parts
variable (w : StatsPublisher) (name : String) (stats : TunnelStats)
  (session : Option ActiveConnectSession) (health : TransportHealth) (report : HealthReport)

theorem publishStats_frame :
    handshakesOf ((w.updateRates stats).publishStats name stats) = handshakesOf w ∧
      transportsOf ((w.updateRates stats).publishStats name stats) = transportsOf w ∧
      scoresOf ((w.updateRates stats).publishStats name stats) = scoresOf w := by
  simp [handshakesOf, transportsOf, scoresOf, updateRates, publishStats, publish, handshakeTold,
    transportTold, isScore]

theorem publishHandshake_frame :
    countersOf (w.publishHandshake name stats) = countersOf w ∧
      transportsOf (w.publishHandshake name stats) = transportsOf w ∧
      scoresOf (w.publishHandshake name stats) = scoresOf w := by
  rw [publishHandshake]
  cases stats.lastHandshakeSecsAgo with
  | none => exact ⟨rfl, rfl, rfl⟩
  | some age =>
      cases hevent : (crossThreshold w.lastHandshakeThreshold ⟨name, age, stats.peerCount⟩
        handshakeThresholds).2 with
      | none => simp [countersOf, transportsOf, scoresOf, hevent]
      | some event =>
          simp [countersOf, transportsOf, scoresOf, hevent, isStats, transportTold, isScore]

theorem publishTransport_cases :
    (asked session health = none ∨ w.lastTransportKindHealth.map Prod.snd = asked session health) ∧
      w.publishTransport session health = w ∨
    ∃ kind text endpoint, asked session health = some text ∧
      w.lastTransportKindHealth.map Prod.snd ≠ some text ∧
      w.publishTransport session health =
        (w.setTransportHealth kind text).publish (.transportHealthChanged kind text endpoint) := by
  unfold publishTransport asked
  cases session with
  | none => exact Or.inl ⟨Or.inl rfl, rfl⟩
  | some active =>
      dsimp only [Option.bind_some]
      split
      · exact Or.inl ⟨Or.inl rfl, rfl⟩
      · split
        · rename_i hnew
          exact Or.inr ⟨_, _, _, rfl, hnew, rfl⟩
        · rename_i hsame
          exact Or.inl ⟨Or.inr (not_not.mp hsame), rfl⟩

theorem publishTransport_frame :
    countersOf (w.publishTransport session health) = countersOf w ∧
      handshakesOf (w.publishTransport session health) = handshakesOf w ∧
      scoresOf (w.publishTransport session health) = scoresOf w := by
  rcases publishTransport_cases w session health with ⟨_, heq⟩ | ⟨kind, text, endpoint, _, _, heq⟩
  · rw [heq]
    exact ⟨rfl, rfl, rfl⟩
  · rw [heq]
    simp [countersOf, handshakesOf, scoresOf, setTransportHealth, publish, isStats, handshakeTold,
      isScore]

theorem publishHealth_frame :
    countersOf (w.publishHealth report) = countersOf w ∧
      handshakesOf (w.publishHealth report) = handshakesOf w ∧
      transportsOf (w.publishHealth report) = transportsOf w := by
  rw [publishHealth]
  dsimp only
  split
  · simp [countersOf, handshakesOf, transportsOf, publish, isStats, handshakeTold, transportTold]
  · exact ⟨rfl, rfl, rfl⟩

end Parts

section Effects
variable {w : StatsPublisher}

theorem statsFrom_concat (rxBytes txBytes : Nat) (past : List StatsTick) (t : StatsTick) :
    statsFrom rxBytes txBytes (past ++ [t]) = statsFrom rxBytes txBytes past ++
      statsFrom ((past.getLast?.map fun t => t.stats.rxBytes).getD rxBytes)
        ((past.getLast?.map fun t => t.stats.txBytes).getD txBytes) [t] := by
  induction past generalizing rxBytes txBytes with
  | nil => rfl
  | cons first rest ih =>
      rw [List.cons_append, statsFrom, statsFrom, ih, List.getLast?_cons]
      cases rest.getLast? <;> rfl

/-- The counters of the last reading, and the events of all. -/
def CountersFollow (past : List StatsTick) (w : StatsPublisher) : Prop :=
  countersOf w = ((past.getLast?.map fun t => t.stats.rxBytes).getD 0,
    (past.getLast?.map fun t => t.stats.txBytes).getD 0, statsFrom 0 0 past)

theorem publishStats_counters {past : List StatsTick} (h : CountersFollow past w) (name : String)
    (stats : TunnelStats) :
    CountersFollow (past ++ [⟨name, stats⟩]) ((w.updateRates stats).publishStats name stats) := by
  obtain ⟨hrx, htx, htold⟩ := Prod.mk.inj h |>.imp id Prod.mk.inj
  rw [CountersFollow, statsFrom_concat, ← htold, ← hrx, ← htx, List.getLast?_concat]
  simp [countersOf, updateRates, publishStats, publish, isStats, statsFrom]

theorem publishHandshake_handshakes {watch : HandshakeWatch}
    (h : handshakesOf w = (watch.last, watch.events)) (name : String) (stats : TunnelStats) :
    handshakesOf (w.publishHandshake name stats) =
      ((watch.tick (some ⟨name, stats⟩)).last, (watch.tick (some ⟨name, stats⟩)).events) := by
  obtain ⟨hlast, htold⟩ := Prod.mk.inj h
  rw [publishHandshake, HandshakeWatch.tick]
  cases hage : stats.lastHandshakeSecsAgo with
  | none => simpa [hage] using h
  | some age =>
      simp only [handshakesOf, HandshakeWatch.observe, hlast, List.filterMap_append, htold]
      cases (crossThreshold watch.last ⟨name, age, stats.peerCount⟩ handshakeThresholds).2 <;> rfl

def TransportsFollow (past : List String) (w : StatsPublisher) : Prop :=
  transportsOf w = (past.getLast?, past.getLast?.getD "", past.destutter (· ≠ ·))

theorem publishTransport_transports {past : List String} (h : TransportsFollow past w)
    (session : Option ActiveConnectSession) (health : TransportHealth) :
    TransportsFollow (past ++ (asked session health).toList)
      (w.publishTransport session health) := by
  obtain ⟨hlast, hshown, htold⟩ := Prod.mk.inj h |>.imp id Prod.mk.inj
  rcases publishTransport_cases w session health with
    ⟨hsame, heq⟩ | ⟨kind, text, endpoint, hasked, hnew, heq⟩
  · rw [heq]
    rcases hsame with hnone | hsame
    · rw [hnone, Option.toList_none, List.append_nil]
      exact h
    · cases hasked : asked session health with
      | none =>
          rw [Option.toList_none, List.append_nil]
          exact h
      | some text =>
          have hrepeat : past.getLast? = some text := by rw [← hlast, hsame, hasked]
          rw [TransportsFollow, Option.toList_some, destutter_ne_concat, if_pos hrepeat,
            List.getLast?_concat, ← hrepeat]
          exact h
  · rw [heq, hasked]
    rw [hlast] at hnew
    rw [TransportsFollow, Option.toList_some, destutter_ne_concat, if_neg hnew,
      List.getLast?_concat, ← htold]
    simp [transportsOf, setTransportHealth, publish, transportTold]

def ScoresFollow (w : StatsPublisher) : Prop :=
  w.lastHealthScore = latest FarScore 100 w.scores ∧
    w.published.filter isScore = (changes FarScore 100 w.scores).map scoreEvent

theorem publishHealth_scores (h : ScoresFollow w) {report : HealthReport}
    (hstatus : report.status = .fromScore report.score) :
    ScoresFollow (w.publishHealth report) ∧
      (w.publishHealth report).scores = w.scores ++ [report.score] := by
  obtain ⟨hlast, htold⟩ := h
  rw [publishHealth]
  dsimp only
  split
  · rename_i hfar
    rw [hlast] at hfar
    refine ⟨⟨?_, ?_⟩, rfl⟩
    · dsimp only [publish]
      rw [latest_concat, if_pos hfar]
    · dsimp only [publish]
      rw [List.filter_append, htold, changes_concat, if_pos hfar, List.map_append, hlast, hstatus]
      rfl
  · rename_i hnear
    rw [hlast] at hnear
    refine ⟨⟨?_, ?_⟩, rfl⟩
    · dsimp only
      rw [latest_concat, if_neg hnear, hlast]
    · dsimp only
      rw [changes_concat, if_neg hnear, htold]

end Effects

/-! ## Any ticks -/

section Run
variable {V S : Type} (simpleHash : ServiceView.PolicyHash)

structure Follows (ticks : List (PublisherTick V S)) (w : StatsPublisher) : Prop where
  counters : CountersFollow (readings ticks) w
  handshakes : handshakesOf w = ((run HandshakeWatch.tick {} ((readings ticks).map some)).last,
    (run HandshakeWatch.tick {} ((readings ticks).map some)).events)
  transports : TransportsFollow (healths ticks) w
  scores : ScoresFollow w
  eachTick : w.scores.length = (readings ticks).length

theorem tick_idle (w : StatsPublisher) (t : PublisherTick V S) (h : t.reading = none) :
    w.tick simpleHash t = w := by
  rw [PublisherTick.reading] at h
  rw [tick]
  cases hhandle : t.handle with
  | none => rfl
  | some handle =>
      cases hstats : t.stats with
      | none => rfl
      | some stats => simp [hhandle, hstats] at h

theorem tick_reading (w : StatsPublisher) (t : PublisherTick V S) {reading : StatsTick}
    (h : t.reading = some reading) : ∃ report : HealthReport,
      report.status = .fromScore report.score ∧ w.tick simpleHash t =
        ((((w.updateRates reading.stats).publishStats reading.name reading.stats).publishHandshake
          reading.name reading.stats).publishTransport t.session
            t.health).publishHealth report := by
  rw [PublisherTick.reading] at h
  rw [tick]
  cases hhandle : t.handle with
  | none => simp [hhandle] at h
  | some handle =>
      cases hstats : t.stats with
      | none => simp [hhandle, hstats] at h
      | some stats =>
          simp only [hhandle, hstats, Option.bind_some, Option.map_some, Option.some.injEq] at h
          subst h
          exact ⟨_, rfl, rfl⟩

theorem tick_follows {ticks : List (PublisherTick V S)} {w : StatsPublisher}
    (h : Follows ticks w) (t : PublisherTick V S) :
    Follows (ticks ++ [t]) (w.tick simpleHash t) := by
  cases hreading : t.reading with
  | none =>
      have hreadings : readings (ticks ++ [t]) = readings ticks := by
        simp [readings, hreading]
      have hhealths : healths (ticks ++ [t]) = healths ticks := by
        simp [healths, hreading]
      rw [tick_idle simpleHash w t hreading]
      refine ⟨?_, ?_, ?_, h.scores, ?_⟩
      · rw [hreadings]
        exact h.counters
      · rw [hreadings]
        exact h.handshakes
      · rw [hhealths]
        exact h.transports
      · rw [hreadings]
        exact h.eachTick
  | some reading =>
      have hreadings : readings (ticks ++ [t]) = readings ticks ++ [reading] := by
        simp [readings, hreading]
      have hhealths : healths (ticks ++ [t]) =
          healths ticks ++ (asked t.session t.health).toList := by
        simp only [healths, List.filterMap_append, List.filterMap_cons, hreading, Option.bind_some,
          List.filterMap_nil]
        cases asked t.session t.health <;> rfl
      obtain ⟨report, hstatus, htick⟩ := tick_reading simpleHash w t hreading
      let w₁ := (w.updateRates reading.stats).publishStats reading.name reading.stats
      let w₂ := w₁.publishHandshake reading.name reading.stats
      let w₃ := w₂.publishTransport t.session t.health
      obtain ⟨hhandshakes₁, htransports₁, hscores₁⟩ :=
        publishStats_frame w reading.name reading.stats
      obtain ⟨hcounters₂, htransports₂, hscores₂⟩ :=
        publishHandshake_frame w₁ reading.name reading.stats
      obtain ⟨hcounters₃, hhandshakes₃, hscores₃⟩ :=
        publishTransport_frame w₂ t.session t.health
      obtain ⟨hcounters₄, hhandshakes₄, htransports₄⟩ := publishHealth_frame w₃ report
      have hscores : ScoresFollow w₃ ∧ w₃.scores = w.scores := by
        have hsame : scoresOf w₃ = scoresOf w := hscores₃.trans (hscores₂.trans hscores₁)
        obtain ⟨hlast, hlist, htold⟩ := Prod.mk.inj hsame |>.imp id Prod.mk.inj
        refine ⟨⟨?_, ?_⟩, hlist⟩
        · rw [hlast, hlist, h.scores.1]
        · rw [htold, hlist, h.scores.2]
      obtain ⟨hfollow, hlist⟩ := publishHealth_scores hscores.1 hstatus
      rw [htick]
      refine ⟨?_, ?_, ?_, hfollow, ?_⟩
      · rw [CountersFollow, hcounters₄, hcounters₃, hcounters₂, hreadings]
        exact publishStats_counters h.counters reading.name reading.stats
      · rw [hhandshakes₄, hhandshakes₃, hreadings, List.map_append, List.map_singleton, run_concat]
        exact publishHandshake_handshakes (hhandshakes₁.trans h.handshakes) reading.name
          reading.stats
      · rw [TransportsFollow, htransports₄, hhealths]
        refine publishTransport_transports ?_ t.session t.health
        rw [TransportsFollow, htransports₂, htransports₁]
        exact h.transports
      · rw [hlist, hscores.2, hreadings, List.length_append, List.length_append, h.eachTick]
        rfl

theorem run_follows (ticks : List (PublisherTick V S)) :
    Follows ticks (run (tick simpleHash) {} ticks) := by
  induction ticks using List.reverseRecOn with
  | nil => exact ⟨rfl, rfl, rfl, ⟨rfl, rfl⟩, rfl⟩
  | append_singleton ticks t ih =>
      rw [run_concat]
      exact tick_follows simpleHash ih t

end Run

end StatsPublisher
end RouteGuard
