import RouteGuard.Lib.GuardedRun
import Mathlib.Data.List.Perm.Subperm

/-! # A broadcast channel that forgets the oldest

A channel keeps a number of messages for a receiver.  One that falls behind by
more is told how many messages it missed and goes on with the oldest one left.
A `Channel` is any implementation for which this holds of one receiver. -/
set_option autoImplicit false
namespace Broadcast

open GuardedRun

inductive Answer (M : Type) where
  | value (message : M)
  | lagged (skipped : Nat)
  | waiting
deriving DecidableEq, Repr

/-- `sent` lists the messages since the subscription and `next` is the position of the one that the
receiver reads next. -/
structure Channel (M : Type) (capacity : Nat) where
  State : Type
  subscribed : State
  send : M → State → State
  recv : State → Answer M × State
  sent : State → List M
  next : State → Nat
  sent_subscribed : sent subscribed = []
  next_subscribed : next subscribed = 0
  sent_send : ∀ m s, sent (send m s) = sent s ++ [m]
  next_send : ∀ m s, next (send m s) = next s
  sent_recv : ∀ s, sent (recv s).2 = sent s
  recv_value : ∀ s m, (recv s).1 = .value m →
    (sent s)[next s]? = some m ∧ next (recv s).2 = next s + 1
  recv_lagged : ∀ s n, (recv s).1 = .lagged n →
    capacity < (sent s).length - next s ∧ next (recv s).2 = next s + n ∧
      next s + n + capacity ≤ (sent s).length
  recv_waiting : ∀ s, (recv s).1 = .waiting →
    next s = (sent s).length ∧ next (recv s).2 = next s

/-! ## One receiver -/

structure Receiver {M : Type} {capacity : Nat} (channel : Channel M capacity) where
  state : channel.State
  received : List M := []
  skipped : Nat := 0

inductive ChannelStep (M : Type) where
  | send (message : M)
  | recv

namespace Receiver
variable {M : Type} {capacity : Nat} {channel : Channel M capacity}

def new (channel : Channel M capacity) : Receiver channel := ⟨channel.subscribed, [], 0⟩

def send (r : Receiver channel) (message : M) : Receiver channel :=
  { r with state := channel.send message r.state }

def answer (r : Receiver channel) : Answer M := (channel.recv r.state).1

def recv (r : Receiver channel) : Receiver channel :=
  { state := (channel.recv r.state).2
    received := match r.answer with
      | .value message => r.received ++ [message]
      | _ => r.received
    skipped := match r.answer with
      | .lagged n => r.skipped + n
      | _ => r.skipped }

def step (r : Receiver channel) : ChannelStep M → Receiver channel
  | .send message => r.send message
  | .recv => r.recv

def sent (r : Receiver channel) : List M := channel.sent r.state

def next (r : Receiver channel) : Nat := channel.next r.state

/-- What was received was sent, in this order and once, and the rest of it was skipped. -/
structure Follows (r : Receiver channel) : Prop where
  within : r.next ≤ r.sent.length
  ordered : r.received.Sublist (r.sent.take r.next)
  counted : r.received.length + r.skipped = r.next

/-- The receiver is not further behind than the channel reaches. -/
def InTime (r : Receiver channel) : ChannelStep M → Prop
  | .send _ => True
  | .recv => r.sent.length - r.next ≤ capacity

theorem follows_new : (new channel).Follows where
  within := by rw [next, sent, new, channel.next_subscribed]; exact Nat.zero_le _
  ordered := List.nil_sublist _
  counted := by rw [next, new, channel.next_subscribed]; rfl

@[simp]
theorem sent_send (r : Receiver channel) (message : M) :
    (r.send message).sent = r.sent ++ [message] := channel.sent_send message r.state

@[simp]
theorem next_send (r : Receiver channel) (message : M) : (r.send message).next = r.next :=
  channel.next_send message r.state

@[simp]
theorem sent_recv (r : Receiver channel) : r.recv.sent = r.sent := channel.sent_recv r.state

theorem send_follows {r : Receiver channel} (h : r.Follows) (message : M) :
    (r.send message).Follows where
  within := by
    rw [sent_send, next_send, List.length_append]
    exact Nat.le_add_right_of_le h.within
  ordered := by
    rw [sent_send, next_send, List.take_append_of_le_length h.within]
    exact h.ordered
  counted := by
    rw [next_send]
    exact h.counted

theorem recv_cases (r : Receiver channel) :
    (∃ message, r.answer = .value message ∧ r.sent[r.next]? = some message ∧
      r.recv.next = r.next + 1 ∧ r.recv.received = r.received ++ [message] ∧
      r.recv.skipped = r.skipped) ∨
    (∃ n, r.answer = .lagged n ∧ capacity < r.sent.length - r.next ∧
      r.recv.next = r.next + n ∧ r.next + n + capacity ≤ r.sent.length ∧
      r.recv.received = r.received ∧ r.recv.skipped = r.skipped + n) ∨
    (r.answer = .waiting ∧ r.next = r.sent.length ∧ r.recv.next = r.next ∧
      r.recv.received = r.received ∧ r.recv.skipped = r.skipped) := by
  cases hanswer : r.answer with
  | value message =>
      obtain ⟨hnext, hmoved⟩ := channel.recv_value r.state message hanswer
      exact Or.inl ⟨message, rfl, hnext, hmoved, by simp [recv, hanswer], by simp [recv, hanswer]⟩
  | lagged n =>
      obtain ⟨hbehind, hmoved, hleft⟩ := channel.recv_lagged r.state n hanswer
      exact Or.inr (Or.inl ⟨n, rfl, hbehind, hmoved, hleft, by simp [recv, hanswer],
        by simp [recv, hanswer]⟩)
  | waiting =>
      obtain ⟨hend, hmoved⟩ := channel.recv_waiting r.state hanswer
      exact Or.inr (Or.inr ⟨rfl, hend, hmoved, by simp [recv, hanswer], by simp [recv, hanswer]⟩)

theorem recv_follows {r : Receiver channel} (h : r.Follows) : r.recv.Follows := by
  rcases r.recv_cases with ⟨message, -, hmessage, hnext, hreceived, hskipped⟩ |
    ⟨n, -, -, hnext, hleft, hreceived, hskipped⟩ | ⟨-, -, hnext, hreceived, hskipped⟩
  · obtain ⟨hlt, rfl⟩ := List.getElem?_eq_some_iff.mp hmessage
    refine ⟨by rw [hnext, sent_recv]; omega, ?_, ?_⟩
    · rw [hnext, sent_recv, hreceived, List.take_succ_eq_append_getElem hlt]
      exact h.ordered.append_right _
    · have hcounted := h.counted
      rw [hnext, hreceived, hskipped, List.length_append, List.length_singleton]
      omega
  · refine ⟨by rw [hnext, sent_recv]; omega, ?_, ?_⟩
    · rw [hnext, sent_recv, hreceived]
      exact h.ordered.trans (List.take_sublist_take_left (Nat.le_add_right _ _))
    · have hcounted := h.counted
      rw [hnext, hreceived, hskipped]
      omega
  · exact ⟨by rw [hnext, sent_recv]; exact h.within,
      by rw [hnext, sent_recv, hreceived]; exact h.ordered,
      by rw [hnext, hreceived, hskipped]; exact h.counted⟩

/-- A receiver that is in time is told of nothing it missed. -/
theorem step_skipped {r : Receiver channel} {event : ChannelStep M} (hin : r.InTime event) :
    (r.step event).skipped = r.skipped := by
  cases event with
  | send message => rfl
  | recv =>
      rcases r.recv_cases with ⟨_, -, -, -, -, hskipped⟩ | ⟨n, -, hbehind, -⟩ |
        ⟨-, -, -, -, hskipped⟩
      · exact hskipped
      · exact absurd hin (by simp only [InTime]; omega)
      · exact hskipped

end Receiver

/-! ## A channel -/

/-- A log and a position; `capacity` messages are kept. -/
structure LogChannel (M : Type) where
  log : List M := []
  position : Nat := 0
deriving DecidableEq, Repr

namespace LogChannel
variable {M : Type} (capacity : Nat)

def answerOf (s : LogChannel M) : Answer M :=
  if capacity < s.log.length - s.position then .lagged (s.log.length - s.position - capacity)
  else match s.log[s.position]? with
    | some m => .value m
    | none => .waiting

def recv (s : LogChannel M) : Answer M × LogChannel M :=
  match s.answerOf capacity with
  | .lagged n => (.lagged n, { s with position := s.position + n })
  | .value m => (.value m, { s with position := s.position + 1 })
  | .waiting => (.waiting, { s with position := s.log.length })

end LogChannel

def logChannel (M : Type) (capacity : Nat) : Channel M capacity where
  State := { s : LogChannel M // s.position ≤ s.log.length }
  subscribed := ⟨{}, Nat.le_refl _⟩
  send := fun m s => ⟨{ s.1 with log := s.1.log ++ [m] }, by
    rw [List.length_append]
    exact Nat.le_add_right_of_le s.2⟩
  recv := fun s => ((s.1.recv capacity).1, ⟨(s.1.recv capacity).2, by
    have hwithin := s.2
    rw [LogChannel.recv, LogChannel.answerOf]
    split
    · rename_i n hanswer
      split at hanswer
      · cases hanswer
        dsimp only
        omega
      · split at hanswer <;> cases hanswer
    · rename_i m hanswer
      split at hanswer
      · cases hanswer
      · split at hanswer
        · rename_i hmessage
          have hlt := (List.getElem?_eq_some_iff.mp hmessage).1
          dsimp only
          omega
        · cases hanswer
    · exact Nat.le_refl _⟩)
  sent := fun s => s.1.log
  next := fun s => s.1.position
  sent_subscribed := rfl
  next_subscribed := rfl
  sent_send := fun _ _ => rfl
  next_send := fun _ _ => rfl
  sent_recv := by
    intro s
    simp only [LogChannel.recv]
    split <;> rfl
  recv_value := by
    intro s m h
    simp only [LogChannel.recv, LogChannel.answerOf] at h ⊢
    grind
  recv_lagged := by
    intro s n h
    simp only [LogChannel.recv, LogChannel.answerOf] at h ⊢
    grind
  recv_waiting := by
    intro s h
    have hwithin := s.2
    simp only [LogChannel.recv, LogChannel.answerOf] at h ⊢
    grind

end Broadcast
