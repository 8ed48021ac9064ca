import RouteGuard.Lib.GuardedRun
import RouteGuard.Lib.Rollup
import Mathlib.Logic.Function.Basic
import Mathlib.Data.List.Nodup

/-! # The event buffer and a client that polls it

`EventStore` of `events.rs` and `handle_events_poll` of `handler.rs`.  A push
takes its id from the counter before it waits for the lock of the queue, so
other threads may append in between.  Each step below is one of the atomic
parts: taking an id, appending under the lock, one poll. -/
set_option autoImplicit false
namespace RouteGuard

open GuardedRun Rollup

/-- `J` is what a payload is. -/
structure EventRecord (J : Type) where
  id : Nat
  eventType : String
  ts : String
  payload : J
deriving DecidableEq, Repr

structure EventStore (J : Type) where
  nextId : Nat := 1
  events : List (EventRecord J) := []
  maxSize : Nat

namespace EventStore
variable {J : Type}

def new (maxSize : Nat) : EventStore J := { maxSize := maxSize }

/-- `fetch_add` and the record built with its result; no run comes to `2^64` pushes. -/
def allocate (s : EventStore J) (eventType ts : String) (payload : J) :
    EventRecord J × EventStore J :=
  (⟨s.nextId, eventType, ts, payload⟩, { s with nextId := s.nextId + 1 })

def append (s : EventStore J) (record : EventRecord J) : EventStore J :=
  { s with events := popExcess s.maxSize (s.events ++ [record]) }

def poll (s : EventStore J) (sinceId limit : Nat) : List (EventRecord J) :=
  (s.events.filter fun e => sinceId < e.id).take limit

def latestId (s : EventStore J) : Nat := s.nextId - 1

end EventStore

def handleEventsPoll {J : Type} (store : EventStore J) (sinceId limit : Nat) :
    List (EventRecord J) × Nat :=
  (store.poll sinceId (min limit 256), store.latestId)

/-! ## Producers and one client -/

/-- The client passes the largest id it has received. -/
structure PollClient (J : Type) where
  since : Nat := 0
  given : List (EventRecord J) := []

def PollClient.receive {J : Type} (client : PollClient J) (events : List (EventRecord J)) :
    PollClient J :=
  ⟨events.foldl (fun since e => max since e.id) client.since, client.given ++ events⟩

/-- `pending` holds the record of each thread that has its id and not yet the lock.  For the
proofs, `appended` and `evicted` list what has entered and left the queue. -/
structure EventRun (J : Type) where
  store : EventStore J
  pending : Nat → Option (EventRecord J) := fun _ => none
  client : PollClient J := {}
  appended : List (EventRecord J) := []
  evicted : List (EventRecord J) := []

inductive EventStep (J : Type) where
  | allocate (thread : Nat) (eventType ts : String) (payload : J)
  | append (thread : Nat)
  | poll (limit : Nat)

namespace EventRun
variable {J : Type}

def new (maxSize : Nat) : EventRun J := { store := .new maxSize }

/-- A thread is in one push at a time. -/
def step (w : EventRun J) : EventStep J → EventRun J
  | .allocate thread eventType ts payload =>
      match w.pending thread with
      | some _ => w
      | none =>
          let (record, store) := w.store.allocate eventType ts payload
          { w with store := store, pending := Function.update w.pending thread (some record) }
  | .append thread =>
      match w.pending thread with
      | none => w
      | some record =>
          let entered := w.store.events ++ [record]
          { w with
            store := w.store.append record
            pending := Function.update w.pending thread none
            appended := w.appended ++ [record]
            evicted := w.evicted ++
              entered.take (entered.length - (w.store.append record).events.length) }
  | .poll limit =>
      { w with client := w.client.receive (handleEventsPoll w.store w.client.since limit).1 }

/-! ## What the client relies on -/

/-- What a poll at this moment would show of the past. -/
structure Followed (w : EventRun J) : Prop where
  seen : ∀ e ∈ w.store.events, e.id ≤ w.client.since → e ∈ w.client.given
  once : w.client.given.Nodup
  lost : ∀ e ∈ w.appended, e ∈ w.client.given ∨
    (e ∈ w.store.events ∧ w.client.since < e.id) ∨ e ∈ w.evicted

/-- What a poll leaves behind of the events above the client's id. -/
def left (w : EventRun J) (limit : Nat) : List (EventRecord J) :=
  (w.store.events.filter fun e => w.client.since < e.id).drop (min limit 256)

/-- An event enters above the ids the client has received, and a poll that is cut short leaves
only larger ids behind. -/
def InTurn (w : EventRun J) : EventStep J → Prop
  | .allocate _ _ _ _ => True
  | .append thread => ∀ record, w.pending thread = some record →
      w.store.maxSize = 0 ∨ w.client.since < record.id
  | .poll limit => ∀ given ∈ (handleEventsPoll w.store w.client.since limit).1,
      ∀ e ∈ w.left limit, given.id < e.id

/-! ## Eviction and reception -/

section Parts
open EventStore

theorem le_foldl_max (events : List (EventRecord J)) (since : Nat) :
    since ≤ events.foldl (fun m e => max m e.id) since ∧
    ∀ e ∈ events, e.id ≤ events.foldl (fun m e => max m e.id) since := by
  induction events generalizing since with
  | nil => simp
  | cons first rest ih =>
      obtain ⟨hstart, hrest⟩ := ih (max since first.id)
      rw [List.foldl_cons]
      refine ⟨by omega, ?_⟩
      intro e he
      rcases List.mem_cons.mp he with rfl | hmem
      · omega
      · exact hrest e hmem

theorem foldl_max_reached (events : List (EventRecord J)) (since : Nat) :
    events.foldl (fun m e => max m e.id) since = since ∨
    ∃ e ∈ events, events.foldl (fun m e => max m e.id) since = e.id := by
  induction events generalizing since with
  | nil => exact Or.inl rfl
  | cons first rest ih =>
      rw [List.foldl_cons]
      rcases ih (max since first.id) with hsame | ⟨e, he, heq⟩
      · rw [hsame]
        rcases Nat.le_total first.id since with hle | hle
        · exact Or.inl (Nat.max_eq_left hle)
        · exact Or.inr ⟨first, List.mem_cons_self, Nat.max_eq_right hle⟩
      · exact Or.inr ⟨e, List.mem_cons_of_mem _ he, heq⟩

end Parts

/-! ## What every step keeps -/

structure Accounted (w : EventRun J) : Prop where
  pending_lt : ∀ thread e, w.pending thread = some e → e.id < w.store.nextId
  pending_inj : ∀ thread thread' e e', w.pending thread = some e → w.pending thread' = some e' →
    e.id = e'.id → thread = thread'
  pending_new : ∀ thread e, w.pending thread = some e → ∀ other ∈ w.appended, other.id ≠ e.id
  appended_lt : ∀ e ∈ w.appended, e.id < w.store.nextId
  appended_eq : w.appended = w.evicted ++ w.store.events
  distinct : (w.appended.map EventRecord.id).Nodup
  given_appended : ∀ e ∈ w.client.given, e ∈ w.appended
  given_le : ∀ e ∈ w.client.given, e.id ≤ w.client.since
  once : w.client.given.Nodup

theorem Accounted.queued {w : EventRun J} (h : w.Accounted) {e : EventRecord J}
    (he : e ∈ w.store.events) : e ∈ w.appended := by
  rw [h.appended_eq]
  exact List.mem_append_right _ he

theorem Accounted.events_nodup {w : EventRun J} (h : w.Accounted) : w.store.events.Nodup := by
  have happended : w.appended.Nodup := List.Nodup.of_map EventRecord.id h.distinct
  rw [h.appended_eq] at happended
  exact (List.nodup_append.mp happended).2.1

section Steps
variable {w : EventRun J} (h : w.Accounted)
include h

/-- An id comes from the counter, which then passes it. -/
theorem allocate_accounted (thread : Nat) (eventType ts : String) (payload : J) :
    (w.step (.allocate thread eventType ts payload)).Accounted := by
  cases hbusy : w.pending thread with
  | some record => simpa [step, hbusy] using h
  | none =>
      simp only [step, hbusy, EventStore.allocate]
      have hcases : ∀ other e, Function.update w.pending thread
          (some ⟨w.store.nextId, eventType, ts, payload⟩) other = some e →
          (other = thread ∧ e.id = w.store.nextId) ∨ w.pending other = some e := by
        intro other e he
        by_cases hother : other = thread
        · subst hother
          rw [Function.update_self] at he
          cases he
          exact Or.inl ⟨rfl, rfl⟩
        · rw [Function.update_of_ne hother] at he
          exact Or.inr he
      refine ⟨?_, ?_, ?_, ?_, h.appended_eq, h.distinct, h.given_appended, h.given_le, h.once⟩
      · intro other e he
        show e.id < w.store.nextId + 1
        rcases hcases other e he with ⟨_, hid⟩ | hold
        · omega
        · have hlt := h.pending_lt other e hold
          omega
      · intro one two e e' he he' hid
        rcases hcases one e he with ⟨hone, hnew⟩ | hold
        · rcases hcases two e' he' with ⟨htwo, _⟩ | hold'
          · rw [hone, htwo]
          · have hlt := h.pending_lt two e' hold'
            omega
        · rcases hcases two e' he' with ⟨_, hnew'⟩ | hold'
          · have hlt := h.pending_lt one e hold
            omega
          · exact h.pending_inj one two e e' hold hold' hid
      · intro other e he later hlater
        rcases hcases other e he with ⟨_, hnew⟩ | hold
        · have hlt := h.appended_lt later hlater
          omega
        · exact h.pending_new other e hold later hlater
      · intro e he
        have hlt := h.appended_lt e he
        show e.id < w.store.nextId + 1
        omega

theorem append_accounted (thread : Nat) : (w.step (.append thread)).Accounted := by
  cases hpending : w.pending thread with
  | none => simpa [step, hpending] using h
  | some record =>
      simp only [step, hpending, EventStore.append]
      have hold : ∀ other e, Function.update w.pending thread none other = some e →
          other ≠ thread ∧ w.pending other = some e := by
        intro other e he
        by_cases hother : other = thread
        · rw [hother, Function.update_self] at he
          cases he
        · rw [Function.update_of_ne hother] at he
          exact ⟨hother, he⟩
      refine ⟨?_, ?_, ?_, ?_, ?_, ?_, ?_, h.given_le, h.once⟩
      · intro other e he
        exact h.pending_lt other e (hold other e he).2
      · intro one two e e' he he' hid
        exact h.pending_inj one two e e' (hold one e he).2 (hold two e' he').2 hid
      · intro other e he later hlater
        obtain ⟨hne, hother⟩ := hold other e he
        rcases List.mem_append.mp hlater with hbefore | hlast
        · exact h.pending_new other e hother later hbefore
        · rw [List.mem_singleton] at hlast
          subst hlast
          exact fun hid => hne (h.pending_inj thread other later e hpending hother hid).symm
      · intro e he
        rcases List.mem_append.mp he with hbefore | hlast
        · exact h.appended_lt e hbefore
        · rw [List.mem_singleton] at hlast
          subst hlast
          exact h.pending_lt thread e hpending
      · rw [h.appended_eq, List.append_assoc, List.append_assoc, take_popExcess]
      · rw [List.map_append, List.nodup_append]
        refine ⟨h.distinct, by simp, ?_⟩
        intro id hid id' hid'
        obtain ⟨e, he, rfl⟩ := List.mem_map.mp hid
        simp only [List.map_cons, List.map_nil, List.mem_singleton] at hid'
        rw [hid']
        exact h.pending_new thread record hpending e he
      · intro e he
        exact List.mem_append_left _ (h.given_appended e he)

theorem poll_accounted (limit : Nat) : (w.step (.poll limit)).Accounted := by
  simp only [step, PollClient.receive, handleEventsPoll, EventStore.poll]
  obtain ⟨hsince, hreturned⟩ := le_foldl_max
    ((w.store.events.filter fun e => w.client.since < e.id).take (min limit 256)) w.client.since
  have hfresh : ∀ e ∈ (w.store.events.filter fun e => w.client.since < e.id).take (min limit 256),
      e ∈ w.store.events ∧ w.client.since < e.id := by
    intro e he
    simpa using List.mem_filter.mp (List.mem_of_mem_take he)
  refine ⟨h.pending_lt, h.pending_inj, h.pending_new, h.appended_lt, h.appended_eq, h.distinct,
    ?_, ?_, ?_⟩
  · intro e he
    rcases List.mem_append.mp he with hold | hnew
    · exact h.given_appended e hold
    · exact h.queued (hfresh e hnew).1
  · intro e he
    rcases List.mem_append.mp he with hold | hnew
    · exact Nat.le_trans (h.given_le e hold) hsince
    · exact hreturned e hnew
  · refine List.nodup_append.mpr ⟨h.once, ?_, ?_⟩
    · exact (h.events_nodup.filter _).sublist (List.take_sublist _ _)
    · intro e hold e' hnew heq
      have hle := h.given_le e hold
      have hlt := (hfresh e' hnew).2
      rw [heq] at hle
      omega

omit h in
theorem step_accounted (w : EventRun J) (event : EventStep J) (h : w.Accounted) :
    (w.step event).Accounted := by
  cases event with
  | allocate thread eventType ts payload => exact allocate_accounted h thread eventType ts payload
  | append thread => exact append_accounted h thread
  | poll limit => exact poll_accounted h limit

/-- The cursor alone decides: what a poll cannot show any more must have been given. -/
theorem followed_iff : w.Followed ↔
    ∀ e ∈ w.store.events, e.id ≤ w.client.since → e ∈ w.client.given := by
  refine ⟨Followed.seen, fun hseen => ⟨hseen, h.once, ?_⟩⟩
  intro e he
  rw [h.appended_eq] at he
  rcases List.mem_append.mp he with hevicted | hqueued
  · exact Or.inr (Or.inr hevicted)
  · by_cases hlt : w.client.since < e.id
    · exact Or.inr (Or.inl ⟨hqueued, hlt⟩)
    · exact Or.inl (hseen e hqueued (by omega))

theorem append_seen_iff {thread : Nat} {record : EventRecord J}
    (hpending : w.pending thread = some record)
    (hseen : ∀ e ∈ w.store.events, e.id ≤ w.client.since → e ∈ w.client.given) :
    (∀ e ∈ (w.store.append record).events, e.id ≤ w.client.since → e ∈ w.client.given) ↔
      w.store.maxSize = 0 ∨ w.client.since < record.id := by
  constructor
  · intro hafter
    by_contra hnot
    rw [not_or] at hnot
    have hstays := last_mem_popExcess w.store.maxSize w.store.events record hnot.1
    have hgiven := hafter record hstays (by omega)
    exact h.pending_new thread record hpending record (h.given_appended record hgiven) rfl
  · intro hturn e he hle
    rcases List.mem_append.mp (mem_popExcess he) with hold | hlast
    · exact hseen e hold hle
    · rw [List.mem_singleton] at hlast
      subst hlast
      rcases hturn with hnone | hlt
      · simp [EventStore.append, popExcess_eq_rtake, hnone] at he
      · omega

theorem poll_seen_iff (limit : Nat)
    (hseen : ∀ e ∈ w.store.events, e.id ≤ w.client.since → e ∈ w.client.given) :
    (∀ e ∈ w.store.events, e.id ≤ (w.step (.poll limit)).client.since →
      e ∈ (w.step (.poll limit)).client.given) ↔ w.InTurn (.poll limit) := by
  have hsplit : (handleEventsPoll w.store w.client.since limit).1 ++ w.left limit =
      w.store.events.filter fun e => w.client.since < e.id := List.take_append_drop _ _
  have hfresh : ∀ e, e ∈ (handleEventsPoll w.store w.client.since limit).1 ++ w.left limit ↔
      e ∈ w.store.events ∧ w.client.since < e.id := by
    intro e
    rw [hsplit, List.mem_filter, decide_eq_true_eq]
  have hapart := List.nodup_append.mp (hsplit ▸ h.events_nodup.filter _)
  have hgiven : (w.step (.poll limit)).client.given =
      w.client.given ++ (handleEventsPoll w.store w.client.since limit).1 := rfl
  have hsince := le_foldl_max (handleEventsPoll w.store w.client.since limit).1 w.client.since
  rw [hgiven]
  constructor
  · intro hafter given hreturned e hleft
    by_contra hlt
    obtain ⟨hqueued, habove⟩ := (hfresh e).mp (List.mem_append_right _ hleft)
    have hle : e.id ≤ given.id := by omega
    rcases List.mem_append.mp (hafter e hqueued (Nat.le_trans hle (hsince.2 given hreturned)))
      with hold | hnew
    · have hpast := h.given_le e hold
      omega
    · exact hapart.2.2 e hnew e hleft rfl
  · intro hturn e hqueued hle
    by_cases hpast : e.id ≤ w.client.since
    · exact List.mem_append_left _ (hseen e hqueued hpast)
    · rcases List.mem_append.mp ((hfresh e).mpr ⟨hqueued, by omega⟩) with hnew | hleft
      · exact List.mem_append_right _ hnew
      · -- the new cursor is the id of an event that was returned, and `e` lies above it
        have hle : e.id ≤ (handleEventsPoll w.store w.client.since limit).1.foldl
            (fun m e => max m e.id) w.client.since := hle
        rcases foldl_max_reached (handleEventsPoll w.store w.client.since limit).1 w.client.since
          with hsame | ⟨given, hreturned, hlast⟩
        · omega
        · have hlt := hturn given hreturned e hleft
          omega

omit h in
theorem step_followed_iff (w : EventRun J) (event : EventStep J) (h : w.Accounted)
    (hf : w.Followed) : (w.step event).Followed ↔ w.InTurn event := by
  rw [followed_iff (step_accounted w event h)]
  have hseen := hf.seen
  cases event with
  | allocate thread eventType ts payload =>
      refine iff_of_true ?_ trivial
      cases hbusy : w.pending thread with
      | none => simpa [step, hbusy, EventStore.allocate] using hseen
      | some record => simpa [step, hbusy] using hseen
  | append thread =>
      cases hpending : w.pending thread with
      | none =>
          refine iff_of_true (by simpa [step, hpending] using hseen) ?_
          intro record hrecord
          rw [hpending] at hrecord
          cases hrecord
      | some record =>
          simp only [step, hpending]
          refine (append_seen_iff h hpending hseen).trans ?_
          simp [InTurn, hpending]
  | poll limit => exact poll_seen_iff h limit hseen

end Steps

theorem new_accounted (maxSize : Nat) : (new maxSize : EventRun J).Accounted := by
  refine ⟨?_, ?_, ?_, ?_, rfl, List.nodup_nil, ?_, ?_, List.nodup_nil⟩ <;> simp [new]

/-- A client can rely on its cursor at every moment of a run exactly when no event enters at or
below the ids it has received and no poll is cut short among ids out of order. -/
theorem run_followed_iff (maxSize : Nat) (events : List (EventStep J)) :
    (∀ front, front <+: events → (run step (new maxSize) front).Followed) ↔
      Guarded step InTurn (new maxSize) events := by
  refine holds_throughout_iff step InTurn (P := Followed) (Q := Accounted) step_accounted
    step_followed_iff events (new maxSize) (new_accounted maxSize) ?_
  constructor <;> simp [new, EventStore.new]

/-- Two threads; the one that took its id first appends after the client has polled. -/
theorem overtaken_lost : ¬ (run step (new 512) [.allocate 1 "tunnel.connecting" "t1" (),
    .allocate 2 "tunnel.connected" "t2" (), .append 2, .poll 64, .append 1]).Followed := by
  intro hf
  have hgiven := hf.seen ⟨1, "tunnel.connecting", "t1", ()⟩ (by decide) (by decide)
  exact absurd hgiven (by decide)

end EventRun
end RouteGuard
