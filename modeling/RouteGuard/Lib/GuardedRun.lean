import Mathlib.Data.List.Basic

/-! # Runs whose steps meet a condition

`run` executes a list of events.  `Guarded` says that every event meets a
condition on the state it starts from; an invariant that each such step keeps
then holds in every state the run reaches. -/
set_option autoImplicit false
namespace GuardedRun

universe u v
variable {S : Type u} {E : Type v} (step : S → E → S) (guard : S → E → Prop)

def run (s : S) (events : List E) : S := events.foldl step s

def Guarded : S → List E → Prop
  | _, [] => True
  | s, event :: rest => guard s event ∧ Guarded (step s event) rest

instance decidableGuarded [∀ s event, Decidable (guard s event)] :
    ∀ (s : S) (events : List E), Decidable (Guarded step guard s events)
  | _, [] => inferInstanceAs (Decidable True)
  | s, event :: rest =>
      have := decidableGuarded (step s event) rest
      inferInstanceAs (Decidable (guard s event ∧ Guarded step guard (step s event) rest))

@[simp]
theorem run_nil (s : S) : run step s [] = s := rfl

@[simp]
theorem run_cons (s : S) (event : E) (rest : List E) :
    run step s (event :: rest) = run step (step s event) rest := rfl

theorem run_append (s : S) (first second : List E) :
    run step s (first ++ second) = run step (run step s first) second := by
  simp [run]

theorem run_concat (s : S) (events : List E) (event : E) :
    run step s (events ++ [event]) = step (run step s events) event := by
  rw [run_append]
  rfl

theorem guarded_append (s : S) (first second : List E) :
    Guarded step guard s (first ++ second) ↔
      Guarded step guard s first ∧ Guarded step guard (run step s first) second := by
  induction first generalizing s with
  | nil => simp [Guarded]
  | cons event rest ih => simp [Guarded, ih, and_assoc]

theorem guarded_front {s : S} {first events : List E} (hpre : first <+: events)
    (h : Guarded step guard s events) : Guarded step guard s first := by
  obtain ⟨rest, rfl⟩ := hpre
  exact ((guarded_append step guard s first rest).mp h).1

theorem guarded_mono {weaker : S → E → Prop} (h : ∀ s event, guard s event → weaker s event) :
    ∀ (events : List E) (s : S), Guarded step guard s events → Guarded step weaker s events := by
  intro events
  induction events with
  | nil => intro s _; trivial
  | cons event rest ih =>
      intro s hg
      exact ⟨h s event hg.1, ih (step s event) hg.2⟩

theorem run_keeps {P : S → Prop} (hstep : ∀ s event, P s → P (step s event)) :
    ∀ (events : List E) (s : S), P s → P (run step s events) := by
  intro events
  induction events with
  | nil => intro s h; exact h
  | cons event rest ih => intro s h; exact ih (step s event) (hstep s event h)

/-- Invariant rule: one guarded step keeps `P`, so a guarded run does. -/
theorem run_invariant {P : S → Prop}
    (hstep : ∀ s event, P s → guard s event → P (step s event)) :
    ∀ (events : List E) (s : S), P s → Guarded step guard s events → P (run step s events) := by
  intro events
  induction events with
  | nil => intro s h _; exact h
  | cons event rest ih =>
      intro s h hg
      exact ih (step s event) (hstep s event h hg.1) hg.2

/-- The invariant holds in every state a guarded run passes through. -/
theorem reached_invariant {P : S → Prop}
    (hstep : ∀ s event, P s → guard s event → P (step s event))
    {s : S} {events first : List E} (h : P s) (hg : Guarded step guard s events)
    (hpre : first <+: events) : P (run step s first) :=
  run_invariant step guard hstep first s h (guarded_front step guard hpre hg)

/-- Where the guard is what a step from `P` needs for `P`, a run is guarded exactly when `P` holds
throughout.  `Q` is what every step keeps that meets the assumption made about the run. -/
theorem holds_throughout_iff_of_assumed {assumed : S → E → Prop} {P Q : S → Prop}
    (hkeep : ∀ s event, Q s → assumed s event → Q (step s event))
    (hstep : ∀ s event, Q s → P s → assumed s event → (P (step s event) ↔ guard s event)) :
    ∀ (events : List E) (s : S), Guarded step assumed s events → Q s → P s →
      ((∀ first, first <+: events → P (run step s first)) ↔ Guarded step guard s events) := by
  intro events
  induction events with
  | nil =>
      intro s _ _ hp
      refine ⟨fun _ => trivial, fun _ first hpre => ?_⟩
      rw [List.prefix_nil.mp hpre]
      exact hp
  | cons event rest ih =>
      intro s hassumed hq hp
      have hnext := ih (step s event) hassumed.2 (hkeep s event hq hassumed.1)
      have hiff := hstep s event hq hp hassumed.1
      refine ⟨fun hall => ?_, fun hguarded first hpre => ?_⟩
      · have hp' : P (step s event) := hall [event] ⟨rest, rfl⟩
        refine ⟨hiff.mp hp', (hnext hp').mp fun first hpre => ?_⟩
        obtain ⟨others, rfl⟩ := hpre
        exact hall (event :: first) ⟨others, rfl⟩
      · have hp' := hiff.mpr hguarded.1
        rcases List.prefix_cons_iff.mp hpre with rfl | ⟨first', rfl, hpre'⟩
        · exact hp
        · exact (hnext hp').mpr hguarded.2 first' hpre'

theorem guarded_of_forall {events : List E} (h : ∀ event ∈ events, ∀ s, guard s event) :
    ∀ s : S, Guarded step guard s events := by
  induction events with
  | nil => intro s; trivial
  | cons event rest ih =>
      intro s
      exact ⟨h event List.mem_cons_self s,
        ih (fun event hmem => h event (List.mem_cons_of_mem _ hmem)) (step s event)⟩

theorem guarded_true (events : List E) (s : S) : Guarded step (fun _ _ => True) s events :=
  guarded_of_forall step _ (fun _ _ _ => trivial) s

/-- The same for runs about which nothing is assumed. -/
theorem holds_throughout_iff {P Q : S → Prop} (hkeep : ∀ s event, Q s → Q (step s event))
    (hstep : ∀ s event, Q s → P s → (P (step s event) ↔ guard s event)) :
    ∀ (events : List E) (s : S), Q s → P s →
      ((∀ first, first <+: events → P (run step s first)) ↔ Guarded step guard s events) :=
  fun events s => holds_throughout_iff_of_assumed step guard (fun s event hq _ => hkeep s event hq)
    (fun s event hq hp _ => hstep s event hq hp) events s (guarded_true step events s)

end GuardedRun
