import RouteGuard.Service.Ownership
import RouteGuard.Service.Monitor

/-! # The recovery events of one health monitor

One monitor takes its steps while any other task changes the service between
them.  `since` is what the monitor has published since the transport was last
seen healthy, a restart succeeded or the session ended. -/
set_option autoImplicit false
namespace RouteGuard

open Fallible GuardedRun

/-! ## Events of a step -/

def TunnelEvent.isRecovering : TunnelEvent → Bool
  | .transportRecovering _ _ _ _ => true
  | _ => false

/-- `TransportFailed` with `recoverable: false`. -/
def TunnelEvent.isFinal : TunnelEvent → Bool
  | .transportFailed _ _ _ recoverable => !recoverable
  | _ => false

def published (before after : ServiceContext) : List TunnelEvent :=
  after.events.drop before.events.length

theorem published_of_events {before after : ServiceContext} (h : after.events = before.events) :
    published before after = [] := by
  rw [published, h, List.drop_length]

theorem published_publish {before after : ServiceContext} (h : after.events = before.events)
    (event : TunnelEvent) : published before (after.publish event) = [event] := by
  simp [published, ServiceContext.publish, h]

/-- At most three recoveries, and none after a final failure. -/
structure Bounded (since : List TunnelEvent) : Prop where
  few : (since.filter TunnelEvent.isRecovering).length ≤ 3
  last : since.Pairwise fun earlier later => earlier.isFinal → ¬later.isRecovering

namespace Bounded
variable {since : List TunnelEvent}

theorem nil : Bounded [] := ⟨Nat.zero_le 3, List.Pairwise.nil⟩

theorem front {more : List TunnelEvent} (h : Bounded (since ++ more)) : Bounded since := by
  refine ⟨?_, (List.pairwise_append.mp h.last).1⟩
  have hfew := h.few
  rw [List.filter_append, List.length_append] at hfew
  omega

theorem append_others {more : List TunnelEvent} (h : Bounded since)
    (hmore : ∀ event ∈ more, event.isRecovering = false) : Bounded (since ++ more) := by
  have hnone : more.filter TunnelEvent.isRecovering = [] := by
    rw [List.filter_eq_nil_iff]
    intro event hmem
    simp [hmore event hmem]
  constructor
  · rw [List.filter_append, hnone, List.append_nil]
    exact h.few
  · rw [List.pairwise_append]
    refine ⟨h.last, ?_, ?_⟩
    · apply List.pairwise_of_forall_mem_list
      intro earlier _ later hmem _
      simp [hmore later hmem]
    · intro earlier _ later hmem _
      simp [hmore later hmem]

theorem append_recovering {event : TunnelEvent} (h : Bounded since)
    (hfew : (since.filter TunnelEvent.isRecovering).length < 3)
    (hfinal : ∀ earlier ∈ since, earlier.isFinal = false) : Bounded (since ++ [event]) := by
  constructor
  · rw [List.filter_append, List.length_append]
    have hone := List.length_filter_le TunnelEvent.isRecovering [event]
    rw [List.length_singleton] at hone
    omega
  · rw [List.pairwise_append]
    refine ⟨h.last, List.pairwise_singleton _ _, ?_⟩
    intro earlier hmem later _ hcontra
    rw [hfinal earlier hmem] at hcontra
    exact absurd hcontra Bool.false_ne_true

theorem no_recovery_after {final event : TunnelEvent} (hmem : final ∈ since)
    (hfinal : final.isFinal = true) (hevent : event.isRecovering = true) :
    ¬Bounded (since ++ [event]) := by
  intro h
  have hcross := (List.pairwise_append.mp h.last).2.2
  exact hcross final hmem event (List.mem_singleton.mpr rfl) hfinal hevent

end Bounded

/-! ## Steps of the monitor -/

section Steps
variable (answers : ConnectRequest) (healthy : Bool) (attempts : Nat)

/-- The moments the monitor itself meets: no relay left to watch, a healthy transport, a restart
that succeeded.  `applyPolicy` is the rest of the branch of such a restart; a direct session in
the place of a relayed one means that the relayed one has ended. -/
def closes (ctx : ServiceContext) : MonitorPoint → Bool
  | .tick =>
      match ctx.activeSession with
      | none => true
      | some active => active.transportChoice = .directUdp
  | .health _ => healthy
  | .backoff _ => ctx.activeSession.isNone
  | .storeConf active confText session =>
      match restarted answers active confText session with
      | .ok _ => true
      | .error _ => false
  | .applyPolicy => true
  | .readConf _ | .transportDown _ _ | .transportUp _ _ => false

def failsCheck : MonitorPoint → Bool
  | .health _ => !healthy
  | _ => false

/-- The counter after a step that is no such moment, and what the step publishes. -/
inductive OpenStep : Bool → Nat → List TunnelEvent → Prop
  | quiet : OpenStep false attempts []
  | failed (active : ActiveConnectSession) (reason : String) :
      OpenStep false attempts
        [.transportRecoveryResult active.transportSession.kind attempts false (some reason),
          .transportFailed active.tunnelName active.transportSession.kind reason
            (decide (attempts < 3))]
  | recovering (active : ActiveConnectSession) (h : attempts < 3) :
      OpenStep true (attempts + 1)
        [.transportRecovering active.tunnelName active.transportSession.kind (attempts + 1) 3]
  | gaveUp (active : ActiveConnectSession) (h : 3 ≤ attempts) :
      OpenStep true 0
        [.transportFailed active.tunnelName active.transportSession.kind
          "transport health check failed after max recovery attempts" false]

theorem transportDown_events (choice : TransportChoice) (session : TransportSession)
    (ctx : ServiceContext) : (transportDown choice session ctx).events = ctx.events := by
  cases choice <;> rfl

theorem transportUp_events (choice : TransportChoice) (cfg : TunnelTransportConfig)
    (peer : SocketAddr) (ctx : ServiceContext) :
    (exec (transportUp answers choice cfg peer) ctx).2.events = ctx.events := by
  cases choice with
  | directUdp => rfl
  | lwo =>
      simp only [transportUp, exec_bind, exec_fromResult]
      cases answers.lwoStart <;> rfl
  | phantun =>
      simp only [transportUp, exec_bind, exec_fromResult]
      cases answers.phantunSelect with
      | error e => rfl
      | ok relay =>
          simp only [exec_get, exec_modify]
          cases answers.phantunSpawn <;> rfl

theorem published_recoveryFailed (active : ActiveConnectSession) (reason : String)
    {before after : ServiceContext} (h : after.events = before.events) :
    published before (recoveryFailed attempts active reason after) =
      [.transportRecoveryResult active.transportSession.kind attempts false (some reason),
        .transportFailed active.tunnelName active.transportSession.kind reason
          (decide (attempts < 3))] := by
  simp [published, recoveryFailed, ServiceContext.publish, h]

theorem monitorStep_open (point : MonitorPoint) (ctx : ServiceContext)
    (h : closes answers healthy ctx point = false) :
    OpenStep attempts (failsCheck healthy point)
      (monitorStep answers healthy attempts point ctx).2.1
      (published ctx (monitorStep answers healthy attempts point ctx).2.2) := by
  have hsame : published ctx ctx = [] := published_of_events rfl
  cases point with
  | tick =>
      simp only [closes] at h
      simp only [monitorStep]
      cases hactive : ctx.activeSession with
      | none => simp [hactive] at h
      | some active =>
          simp only [hactive, decide_eq_false_iff_not] at h
          simp only [h, if_false, hsame]
          exact .quiet
  | health active =>
      simp only [closes] at h
      subst h
      by_cases hattempts : attempts < 3
      · have hle : ¬3 < attempts + 1 := by omega
        simp only [monitorStep, Bool.false_eq_true, if_false, hle, published_publish rfl]
        exact .recovering active hattempts
      · have hlt : 3 < attempts + 1 := by omega
        simp only [monitorStep, Bool.false_eq_true, if_false, hlt, if_true, published_publish rfl]
        exact .gaveUp active (Nat.not_lt.mp hattempts)
  | backoff active =>
      simp only [closes] at h
      simp only [monitorStep]
      cases hactive : ctx.activeSession with
      | none => simp [hactive] at h
      | some current =>
          simp only [hsame]
          exact .quiet
  | readConf active =>
      simp only [monitorStep]
      cases answers.confText with
      | error e =>
          simp only [published_recoveryFailed attempts active _ rfl]
          exact .failed active _
      | ok confText =>
          simp only [hsame]
          exact .quiet
  | transportDown active confText =>
      simp only [monitorStep, published_of_events (transportDown_events _ _ ctx)]
      exact .quiet
  | transportUp active confText =>
      have hevents := transportUp_events answers active.transportChoice active.mergedTransport
        active.peerEndpoint ctx
      simp only [monitorStep]
      cases hup : exec (RouteGuard.transportUp answers active.transportChoice
          active.mergedTransport active.peerEndpoint) ctx with
      | mk result after =>
          rw [hup] at hevents
          cases result with
          | error e =>
              simp only [published_recoveryFailed attempts active _ hevents]
              exact .failed active _
          | ok session =>
              simp only [published_of_events hevents]
              exact .quiet
  | storeConf active confText session =>
      simp only [closes] at h
      simp only [monitorStep]
      cases hrestarted : restarted answers active confText session with
      | ok newActive => simp [hrestarted] at h
      | error reason =>
          simp only [published_recoveryFailed attempts active _ rfl]
          exact .failed active reason
  | applyPolicy => simp [closes] at h

theorem monitorStep_closed (point : MonitorPoint) (ctx : ServiceContext)
    (h : closes answers healthy ctx point = true) :
    (monitorStep answers healthy attempts point ctx).2.1 ≤ attempts := by
  cases point with
  | tick =>
      simp only [closes] at h
      simp only [monitorStep]
      cases hactive : ctx.activeSession with
      | none => exact Nat.zero_le attempts
      | some active =>
          simp only [hactive, decide_eq_true_eq] at h
          simp only [h, if_true]
          exact Nat.zero_le attempts
  | health active =>
      simp only [closes] at h
      subst h
      exact Nat.zero_le attempts
  | backoff active =>
      simp only [closes, Option.isNone_iff_eq_none] at h
      simp only [monitorStep, h]
      exact Nat.zero_le attempts
  | storeConf active confText session =>
      simp only [monitorStep]
      cases restarted answers active confText session <;> exact Nat.le_refl attempts
  | applyPolicy => exact Nat.zero_le attempts
  | readConf active => simp [closes] at h
  | transportDown active confText => simp [closes] at h
  | transportUp active confText => simp [closes] at h

end Steps

/-! ## Runs -/

/-- `carried` is the counter at the last moment, `checks` the failed checks since. -/
structure RecoveryRun where
  point : MonitorPoint := .tick
  attempts : Nat := 0
  ctx : ServiceContext
  since : List TunnelEvent := []
  carried : Nat := 0
  checks : Nat := 0

inductive RecoveryTurn where
  | monitor (answers : ConnectRequest) (healthy : Bool)
  /-- whatever requests and other tasks do to the service -/
  | others (after : ServiceContext)

/-- The active session is gone, or another one has taken its place. -/
def SessionEnds (before after : ServiceContext) : Prop :=
  before.activeSession ≠ none ∧ after.activeSession ≠ before.activeSession

instance (before after : ServiceContext) : Decidable (SessionEnds before after) :=
  inferInstanceAs (Decidable (before.activeSession ≠ none ∧
    after.activeSession ≠ before.activeSession))

namespace RecoveryRun

def step (w : RecoveryRun) : RecoveryTurn → RecoveryRun
  | .others after =>
      if SessionEnds w.ctx after then
        { w with ctx := after, since := [], carried := w.attempts, checks := 0 }
      else { w with ctx := after }
  | .monitor answers healthy =>
      let (point, attempts, ctx) := monitorStep answers healthy w.attempts w.point w.ctx
      if closes answers healthy w.ctx w.point then
        { point, attempts, ctx, since := [], carried := attempts, checks := 0 }
      else
        { point, attempts, ctx
          since := w.since ++ published w.ctx ctx
          carried := w.carried
          checks := if failsCheck healthy w.point then w.checks + 1 else w.checks }

/-- No more than four failed checks between two moments, less what the counter stood at on the
first of them. -/
def WithinBudget (w : RecoveryRun) : RecoveryTurn → Prop
  | .others _ => True
  | .monitor _ healthy => failsCheck healthy w.point = true → w.carried + w.checks < 4

instance (w : RecoveryRun) (turn : RecoveryTurn) : Decidable (w.WithinBudget turn) := by
  cases turn with
  | others after => exact inferInstanceAs (Decidable True)
  | monitor answers healthy =>
      exact inferInstanceAs (Decidable (failsCheck healthy w.point = true →
        w.carried + w.checks < 4))

/-- The counter follows the failed checks until the monitor gives up. -/
structure Counted (w : RecoveryRun) : Prop where
  attempts_le : w.attempts ≤ 3
  counter : w.carried + w.checks ≤ 3 → w.attempts = w.carried + w.checks
  few : w.carried + w.checks ≤ 3 →
    (w.since.filter TunnelEvent.isRecovering).length ≤ w.checks
  unfinished : w.carried + w.checks < 3 → ∀ event ∈ w.since, event.isFinal = false
  given_up : 4 ≤ w.carried + w.checks → ∃ event ∈ w.since, event.isFinal = true
  restarting : 4 ≤ w.carried + w.checks → Bounded w.since → w.attempts = 0

theorem counted_fresh {w : RecoveryRun} (hle : w.attempts ≤ 3) (hsince : w.since = [])
    (hcarried : w.carried = w.attempts) (hchecks : w.checks = 0) : w.Counted where
  attempts_le := hle
  counter _ := by omega
  few _ := by simp [hsince]
  unfinished _ := by simp [hsince]
  given_up h := by omega
  restarting h := by omega

theorem filter_recovering_others {since more : List TunnelEvent}
    (hmore : ∀ event ∈ more, event.isRecovering = false) :
    ((since ++ more).filter TunnelEvent.isRecovering).length =
      (since.filter TunnelEvent.isRecovering).length := by
  have hnone : more.filter TunnelEvent.isRecovering = [] := by
    rw [List.filter_eq_nil_iff]
    intro event hmem
    simp [hmore event hmem]
  rw [List.filter_append, hnone, List.append_nil]

theorem counted_others {w w' : RecoveryRun} (h : w.Counted) (hattempts : w'.attempts = w.attempts)
    (hcarried : w'.carried = w.carried) (hchecks : w'.checks = w.checks) {more : List TunnelEvent}
    (hsince : w'.since = w.since ++ more) (hmore : ∀ event ∈ more, event.isRecovering = false)
    (hfinal : w.attempts < 3 → ∀ event ∈ more, event.isFinal = false) : w'.Counted where
  attempts_le := by rw [hattempts]; exact h.attempts_le
  counter hn := by
    rw [hcarried, hchecks] at hn
    rw [hattempts, hcarried, hchecks]
    exact h.counter hn
  few hn := by
    rw [hcarried, hchecks] at hn
    rw [hsince, hchecks, filter_recovering_others hmore]
    exact h.few hn
  unfinished hn := by
    rw [hcarried, hchecks] at hn
    have hcount := h.counter (by omega)
    intro event hmem
    rw [hsince, List.mem_append] at hmem
    rcases hmem with hmem | hmem
    · exact h.unfinished hn event hmem
    · exact hfinal (by omega) event hmem
  given_up hn := by
    rw [hcarried, hchecks] at hn
    obtain ⟨event, hmem, hevent⟩ := h.given_up hn
    refine ⟨event, ?_, hevent⟩
    rw [hsince]
    exact List.mem_append_left more hmem
  restarting hn hbounded := by
    rw [hcarried, hchecks] at hn
    rw [hsince] at hbounded
    rw [hattempts]
    exact h.restarting hn hbounded.front

theorem counted_recovering {w w' : RecoveryRun} (h : w.Counted) (hlt : w.attempts < 3)
    {event : TunnelEvent} (hevent : event.isRecovering = true) (hquiet : event.isFinal = false)
    (hattempts : w'.attempts = w.attempts + 1) (hcarried : w'.carried = w.carried)
    (hchecks : w'.checks = w.checks + 1) (hsince : w'.since = w.since ++ [event]) :
    w'.Counted where
  attempts_le := by omega
  counter hn := by
    have hcount := h.counter (by omega)
    omega
  few hn := by
    have hfew := h.few (by omega)
    rw [hsince, List.filter_append, List.length_append, hchecks]
    have hone := List.length_filter_le TunnelEvent.isRecovering [event]
    rw [List.length_singleton] at hone
    omega
  unfinished hn := by
    intro other hmem
    rw [hsince, List.mem_append, List.mem_singleton] at hmem
    rcases hmem with hmem | rfl
    · exact h.unfinished (by omega) other hmem
    · exact hquiet
  given_up hn := by
    by_cases hbefore : 4 ≤ w.carried + w.checks
    · obtain ⟨final, hmem, hfinal⟩ := h.given_up hbefore
      refine ⟨final, ?_, hfinal⟩
      rw [hsince]
      exact List.mem_append_left [event] hmem
    · have hcount := h.counter (by omega)
      omega
  restarting hn hbounded := by
    exfalso
    by_cases hbefore : 4 ≤ w.carried + w.checks
    · obtain ⟨final, hmem, hfinal⟩ := h.given_up hbefore
      rw [hsince] at hbounded
      exact Bounded.no_recovery_after hmem hfinal hevent hbounded
    · have hcount := h.counter (by omega)
      omega

theorem counted_gaveUp {w w' : RecoveryRun} (h : w.Counted) (hle : 3 ≤ w.attempts)
    {event : TunnelEvent} (hfinal : event.isFinal = true) (hattempts : w'.attempts = 0)
    (hcarried : w'.carried = w.carried) (hchecks : w'.checks = w.checks + 1)
    (hsince : w'.since = w.since ++ [event]) : w'.Counted := by
  have hfull : 3 ≤ w.carried + w.checks := by
    by_contra hlt
    have hcount := h.counter (by omega)
    omega
  refine ⟨by omega, fun hn => by omega, fun hn => by omega, fun hn => by omega, fun _ => ?_,
    fun _ _ => hattempts⟩
  refine ⟨event, ?_, hfinal⟩
  rw [hsince]
  exact List.mem_append_right w.since (List.mem_singleton.mpr rfl)

theorem step_open {w : RecoveryRun} {answers : ConnectRequest} {healthy : Bool}
    (h : closes answers healthy w.ctx w.point = false) :
    ∃ fails attempts more, failsCheck healthy w.point = fails ∧
      OpenStep w.attempts fails attempts more ∧
      (w.step (.monitor answers healthy)).attempts = attempts ∧
      (w.step (.monitor answers healthy)).carried = w.carried ∧
      (w.step (.monitor answers healthy)).checks = (if fails then w.checks + 1 else w.checks) ∧
      (w.step (.monitor answers healthy)).since = w.since ++ more := by
  have hopen := monitorStep_open answers healthy w.attempts w.point w.ctx h
  refine ⟨_, _, _, rfl, hopen, ?_⟩
  simp only [step, h, Bool.false_eq_true, if_false, and_self]

theorem step_counted (w : RecoveryRun) (turn : RecoveryTurn) (h : w.Counted) :
    (w.step turn).Counted := by
  cases turn with
  | others after =>
      by_cases hends : SessionEnds w.ctx after
      · simp only [step, hends, if_true]
        exact counted_fresh h.attempts_le rfl rfl rfl
      · simp only [step, hends, if_false]
        exact ⟨h.attempts_le, h.counter, h.few, h.unfinished, h.given_up, h.restarting⟩
  | monitor answers healthy =>
      cases hcloses : closes answers healthy w.ctx w.point with
      | true =>
          have hle := monitorStep_closed answers healthy w.attempts w.point w.ctx hcloses
          simp only [step, hcloses, if_true]
          exact counted_fresh (Nat.le_trans hle h.attempts_le) rfl rfl rfl
      | false =>
          obtain ⟨fails, attempts, more, _, hopen, hattempts, hcarried, hchecks, hsince⟩ :=
            step_open hcloses
          cases hopen with
          | quiet =>
              exact counted_others h hattempts hcarried hchecks hsince (by simp) (by simp)
          | failed active reason =>
              refine counted_others h hattempts hcarried hchecks hsince ?_ ?_
              · simp [TunnelEvent.isRecovering]
              · intro hlt
                simp [TunnelEvent.isFinal, hlt]
          | recovering active hlt =>
              exact counted_recovering h hlt rfl rfl hattempts hcarried hchecks hsince
          | gaveUp active hle =>
              exact counted_gaveUp h hle rfl hattempts hcarried hchecks hsince

/-- A step keeps the bound exactly within the budget. -/
theorem step_bounded_iff (w : RecoveryRun) (turn : RecoveryTurn) (h : w.Counted)
    (hbounded : Bounded w.since) : Bounded (w.step turn).since ↔ w.WithinBudget turn := by
  cases turn with
  | others after =>
      refine ⟨fun _ => trivial, fun _ => ?_⟩
      by_cases hends : SessionEnds w.ctx after
      · simp only [step, hends, if_true]
        exact Bounded.nil
      · simp only [step, hends, if_false]
        exact hbounded
  | monitor answers healthy =>
      simp only [WithinBudget]
      cases hcloses : closes answers healthy w.ctx w.point with
      | true =>
          have hpasses : failsCheck healthy w.point = false := by
            cases hpoint : w.point with
            | health active =>
                rw [hpoint] at hcloses
                simp only [closes] at hcloses
                simp [failsCheck, hcloses]
            | _ => rfl
          simp only [step, hcloses, if_true, hpasses, Bool.false_eq_true, false_implies, iff_true]
          exact Bounded.nil
      | false =>
          obtain ⟨fails, attempts, more, hfails, hopen, _, _, _, hsince⟩ := step_open hcloses
          rw [hfails, hsince]
          cases hopen with
          | quiet => simpa using hbounded
          | failed active reason =>
              simp only [Bool.false_eq_true, false_implies, iff_true]
              exact hbounded.append_others (by simp [TunnelEvent.isRecovering])
          | recovering active hlt =>
              simp only [true_implies]
              constructor
              · intro hafter
                by_contra hover
                obtain ⟨final, hmem, hfinal⟩ := h.given_up (by omega)
                exact Bounded.no_recovery_after hmem hfinal rfl hafter
              · intro hbudget
                have hcount := h.counter (by omega)
                have hfew := h.few (by omega)
                apply hbounded.append_recovering
                · omega
                · exact h.unfinished (by omega)
          | gaveUp active hle =>
              simp only [true_implies]
              constructor
              · intro _
                by_contra hover
                have hzero := h.restarting (by omega) hbounded
                omega
              · intro _
                exact hbounded.append_others (by simp [TunnelEvent.isRecovering])

def start (ctx : ServiceContext) : RecoveryRun := { ctx := ctx }

theorem run_bounded_iff (ctx : ServiceContext) (turns : List RecoveryTurn) :
    (∀ first, first <+: turns → Bounded (run step (start ctx) first).since) ↔
      Guarded step WithinBudget (start ctx) turns :=
  holds_throughout_iff step WithinBudget step_counted
    (fun w turn hcounted hbounded => step_bounded_iff w turn hcounted hbounded) turns (start ctx)
    (counted_fresh (Nat.zero_le 3) rfl rfl rfl) Bounded.nil

/-! ### A long outage -/

def failedRound : List RecoveryTurn :=
  List.replicate 4 (.monitor { exampleConnect with confText := .error "denied" } false)

def longOutage : List RecoveryTurn :=
  failedRound ++ failedRound ++ failedRound ++
    List.replicate 4 (.monitor { exampleConnect with confText := .error "denied" } false)

theorem longOutage_unbounded :
    ¬∀ first, first <+: longOutage →
      Bounded (run step (start (exec (handleConnect exampleConnect) exampleService).2)
        first).since := by
  intro hall
  have hbounded := hall longOutage (List.prefix_refl _)
  have hfew : ((run step (start (exec (handleConnect exampleConnect) exampleService).2)
      longOutage).since.filter TunnelEvent.isRecovering).length = 4 := by decide +kernel
  have hle := hbounded.few
  omega

end RecoveryRun
end RouteGuard
