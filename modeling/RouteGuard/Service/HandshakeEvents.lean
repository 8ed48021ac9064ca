import RouteGuard.Lib.GuardedRun
import RouteGuard.Service.Observability

/-! # Handshake ages and the events about them

The part of `spawn_stats_publisher` that announces a stalling tunnel, one tick
after another.  A stall is a stretch of ages without one below 30. -/
set_option autoImplicit false
namespace RouteGuard

open GuardedRun

def handshakeThresholds : List Nat := [30, 120, 300]

structure HandshakeThreshold where
  name : String
  lastHandshakeSecsAgo : Nat
  peerCount : Nat
deriving DecidableEq, Repr

/-- What a tick finds: the tunnel and the statistics of its backend. -/
structure StatsTick where
  name : String
  stats : TunnelStats
deriving DecidableEq, Repr

/-- The highest threshold that is not above the age, or 0. -/
def stage (age : Nat) : Nat := (handshakeThresholds.filter fun t => t ≤ age).foldr max 0

/-- `last_handshake_threshold` and what was published.  `announced` keeps, for the law, the
thresholds of the events since the last age below 30. -/
structure HandshakeWatch where
  last : Option Nat := none
  events : List HandshakeThreshold := []
  announced : List Nat := []
deriving DecidableEq, Repr

/-- The loop over the thresholds: the first one that the age has reached ends it. -/
def crossThreshold (last : Option Nat) (event : HandshakeThreshold) :
    List Nat → Option Nat × Option HandshakeThreshold
  | [] => (last, none)
  | t :: rest =>
      if t ≤ event.lastHandshakeSecsAgo then
        if (last.map fun l => decide (l < t)).getD true then (some t, some event) else (last, none)
      else crossThreshold last event rest

namespace HandshakeWatch

def observe (w : HandshakeWatch) (name : String) (peerCount age : Nat) : HandshakeWatch :=
  let (last, published) := crossThreshold w.last ⟨name, age, peerCount⟩ handshakeThresholds
  { last := if age < 30 then none else last
    events := w.events ++ published.toList
    announced := if age < 30 then []
      else w.announced ++ (published.map fun event => stage event.lastHandshakeSecsAgo).toList }

/-- Without a tunnel, without statistics or without a handshake the tick announces nothing. -/
def tick (w : HandshakeWatch) : Option StatsTick → HandshakeWatch
  | none => w
  | some t =>
      match t.stats.lastHandshakeSecsAgo with
      | none => w
      | some age => w.observe t.name t.stats.peerCount age

end HandshakeWatch

/-! ## The law -/

def StatsTick.withAge (age : Nat) (t : StatsTick) : StatsTick :=
  { t with stats := { t.stats with lastHandshakeSecsAgo := some age } }

/-- The tick announces the age exactly where its stage is above all that were announced. -/
def HandshakeWatch.Lawful (w : HandshakeWatch) (t : StatsTick) (age : Nat) : Prop :=
  (w.tick (some (t.withAge age))).events = w.events ++ [⟨t.name, age, t.stats.peerCount⟩] ↔
    0 < stage age ∧ ∀ reached ∈ w.announced, reached < stage age

def agesOf (ticks : List (Option StatsTick)) : List Nat :=
  ticks.filterMap fun t => t.bind fun t => t.stats.lastHandshakeSecsAgo

def stall (ages : List Nat) : List Nat :=
  (ages.reverse.takeWhile fun age => decide (30 ≤ age)).reverse

/-! ## Stages and stalls -/

section Stall
variable (age : Nat)

theorem stage_pos_iff : 0 < stage age ↔ 30 ≤ age := by
  unfold stage handshakeThresholds
  simp only [List.filter_cons, List.filter_nil]
  split <;> split <;> split <;> simp_all <;> omega

theorem stall_concat_low (ages : List Nat) (h : age < 30) : stall (ages ++ [age]) = [] := by
  have hlow : ¬30 ≤ age := by omega
  simp [stall, hlow]

theorem stall_concat_high (ages : List Nat) (h : 30 ≤ age) :
    stall (ages ++ [age]) = stall ages ++ [age] := by
  simp [stall, h]

end Stall

/-! ## One tick -/

section Tick
variable (event : HandshakeThreshold)

/-- The lowest threshold decides for every age that has reached it. -/
theorem announce_first (h : 30 ≤ event.lastHandshakeSecsAgo) :
    crossThreshold none event handshakeThresholds = (some 30, some event) := by
  rw [handshakeThresholds, crossThreshold, if_pos h]
  rfl

theorem announce_again (h : 30 ≤ event.lastHandshakeSecsAgo) :
    crossThreshold (some 30) event handshakeThresholds = (some 30, none) := by
  rw [handshakeThresholds, crossThreshold, if_pos h]
  rfl

theorem announce_low (last : Option Nat) (h : event.lastHandshakeSecsAgo < 30) :
    crossThreshold last event handshakeThresholds = (last, none) := by
  have h30 : ¬30 ≤ event.lastHandshakeSecsAgo := by omega
  have h120 : ¬120 ≤ event.lastHandshakeSecsAgo := by omega
  have h300 : ¬300 ≤ event.lastHandshakeSecsAgo := by omega
  rw [handshakeThresholds, crossThreshold, if_neg h30, crossThreshold, if_neg h120,
    crossThreshold, if_neg h300, crossThreshold]

end Tick

namespace HandshakeWatch

/-- In a stall, the lowest threshold is remembered and the stage of its first age announced. -/
structure Follows (ages : List Nat) (w : HandshakeWatch) : Prop where
  last : w.last = (stall ages).head?.map fun _ => 30
  announced : w.announced = ((stall ages).head?.map stage).toList

section Observe
variable {ages : List Nat} {w : HandshakeWatch} (name : String) (peerCount : Nat) {age : Nat}

theorem observe_low (w : HandshakeWatch) (h : age < 30) :
    w.observe name peerCount age = { events := w.events } := by
  simp only [observe, announce_low ⟨name, age, peerCount⟩ w.last h, if_pos h]
  simp

theorem observe_first (hw : w.Follows ages) (hnone : stall ages = []) (h : 30 ≤ age) :
    w.observe name peerCount age =
      ⟨some 30, w.events ++ [⟨name, age, peerCount⟩], [stage age]⟩ := by
  have hlast : w.last = none := by rw [hw.last, hnone]; rfl
  have hquiet : w.announced = [] := by rw [hw.announced, hnone]; rfl
  have hhigh : ¬age < 30 := by omega
  simp only [observe, hlast, hquiet, announce_first ⟨name, age, peerCount⟩ h, if_neg hhigh]
  rfl

theorem observe_later (hw : w.Follows ages) {first : Nat} (hfirst : (stall ages).head? = some first)
    (h : 30 ≤ age) : w.observe name peerCount age = w := by
  have hlast : w.last = some 30 := by rw [hw.last, hfirst]; rfl
  have hhigh : ¬age < 30 := by omega
  simp only [observe, hlast, announce_again ⟨name, age, peerCount⟩ h, if_neg hhigh]
  obtain ⟨last, events, announced⟩ := w
  cases hlast
  simp

theorem observe_follows (hw : w.Follows ages) (age : Nat) :
    (w.observe name peerCount age).Follows (ages ++ [age]) := by
  by_cases hlow : age < 30
  · rw [observe_low name peerCount w hlow]
    constructor <;> rw [stall_concat_low age ages hlow] <;> rfl
  · have hhigh : 30 ≤ age := by omega
    cases hstall : stall ages with
    | nil =>
        rw [observe_first name peerCount hw hstall hhigh]
        constructor <;> rw [stall_concat_high age ages hhigh, hstall] <;> rfl
    | cons first rest =>
        have hfirst : (stall ages).head? = some first := by rw [hstall]; rfl
        rw [observe_later name peerCount hw hfirst hhigh]
        constructor
        · rw [stall_concat_high age ages hhigh, hw.last, hstall]
          rfl
        · rw [stall_concat_high age ages hhigh, hw.announced, hstall]
          rfl

end Observe

theorem run_follows (ticks : List (Option StatsTick)) :
    (run tick {} ticks).Follows (agesOf ticks) := by
  induction ticks using List.reverseRecOn with
  | nil => exact ⟨rfl, rfl⟩
  | append_singleton ticks t ih =>
      rw [run_concat, agesOf, List.filterMap_append]
      change ((run tick {} ticks).tick t).Follows (agesOf ticks ++ agesOf [t])
      cases t with
      | none => simpa [agesOf, tick] using ih
      | some t =>
          cases hage : t.stats.lastHandshakeSecsAgo with
          | none => simpa [agesOf, tick, hage] using ih
          | some age =>
              have hages : agesOf [some t] = [age] := by simp [agesOf, hage]
              rw [hages, tick, hage]
              exact observe_follows t.name t.stats.peerCount ih age

theorem tick_withAge (w : HandshakeWatch) (t : StatsTick) (age : Nat) :
    w.tick (some (t.withAge age)) = w.observe t.name t.stats.peerCount age := rfl

/-- After any ticks, the next one obeys the law exactly where its age is at no later stage than the
first age of the stall it is in. -/
theorem run_lawful_iff (ticks : List (Option StatsTick)) (t : StatsTick) (age : Nat) :
    (run tick {} ticks).Lawful t age ↔
      ∀ first, (stall (agesOf ticks)).head? = some first → stage age ≤ stage first := by
  have hw := run_follows ticks
  generalize run tick {} ticks = w at hw
  have hsilent : w.events ≠ w.events ++ [⟨t.name, age, t.stats.peerCount⟩] := by simp
  rw [Lawful, tick_withAge]
  by_cases hlow : age < 30
  · have hstage : stage age = 0 := by
      have hpos := stage_pos_iff age
      omega
    rw [observe_low t.name t.stats.peerCount w hlow, hstage]
    exact iff_of_true (iff_of_false hsilent (by simp)) fun _ _ => Nat.zero_le _
  · have hhigh : 30 ≤ age := by omega
    have hpos := (stage_pos_iff age).mpr hhigh
    cases hfirst : (stall (agesOf ticks)).head? with
    | none =>
        have hnone : stall (agesOf ticks) = [] := List.head?_eq_none_iff.mp hfirst
        rw [observe_first t.name t.stats.peerCount hw hnone hhigh, hw.announced, hfirst]
        simp [hpos]
    | some first =>
        rw [observe_later t.name t.stats.peerCount hw hfirst hhigh, hw.announced, hfirst]
        simp [hpos]

/-- The second stage of a stall is not announced. -/
theorem secondStage_silent :
    ¬(run tick {} [some ⟨"office", { lastHandshakeSecsAgo := some 30 }⟩]).Lawful
      ⟨"office", {}⟩ 120 := by
  unfold Lawful
  decide

end HandshakeWatch
end RouteGuard
