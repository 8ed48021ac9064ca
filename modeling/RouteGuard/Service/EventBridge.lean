import RouteGuard.Lib.Broadcast
import RouteGuard.Service.HandshakeEvents
import RouteGuard.Service.ProfileImport
import Mathlib.Data.List.Sort

/-! # From the event bus to a polling client

`EventBus` of `events.rs`, the task of `spawn_event_bridge` and the event store.
Publishers send the JSON text of an event; the task receives the texts one after
the other, reads each as a `TunnelEvent` or a `NetworkLockEvent` and pushes a
record, while other threads push records of their own and a client polls. -/
set_option autoImplicit false
namespace RouteGuard

open Broadcast GuardedRun

/-! ## The events -/

inductive NetworkLockEvent where
  | enabled
  | disabled
  | recovered (staleFiltersRemoved : Nat)
  | violationBlocked (remoteIp : IpAddr)
deriving DecidableEq, Repr

/-- `TunnelEvent` with all its variants; `session` are those of a connection.  The statistics of the
driver are their JSON text. -/
inductive ServiceEvent where
  | session (event : TunnelEvent)
  | profileImported (name : String) (kind : ProfileKind)
  | profileValidationFailed (name : String) (errors : List String)
  | error (name message : String)
  | stats (name : String) (rxBytes txBytes rxRateBps txRateBps peerCount : Nat)
  | sessionStateChanged (name state : String)
  | handshakeThreshold (event : HandshakeThreshold)
  | observabilityHealthChanged (score : Nat) (status : String) (previousScore : Nat)
  | transportHealthChanged (kind : TransportKind) (health : String) (localEndpoint : Option String)
  | dnsRedirectStats (stats : String)
deriving DecidableEq, Repr

inductive BusMessage where
  | tunnel (event : ServiceEvent)
  | lock (event : NetworkLockEvent)
deriving DecidableEq, Repr

/-- `#[serde(rename_all = "snake_case")]` -/
def ProfileKind.serdeName : ProfileKind → String
  | .standard => "standard"
  | .awg => "awg"

abbrev Pushed := String × JsonObject

def pushNetworkLockEvent : NetworkLockEvent → Pushed
  | .enabled => ("network_lock.enabled", [("active", .bool true)])
  | .disabled => ("network_lock.disabled", [("active", .bool false)])
  | .recovered removed => ("network_lock.recovered", [("staleFiltersRemoved", .num removed)])
  | .violationBlocked remoteIp =>
      ("network_lock.violation_blocked", [("remoteIp", .str remoteIp.toString)])

/-- `jsonArray` is the JSON text of a list of strings. -/
def pushServiceEvent (jsonArray : List String → String) : ServiceEvent → Pushed
  | .session event => bridged event
  | .profileImported name kind =>
      ("tunnel.profile.imported", [("name", .str name), ("kind", .str kind.serdeName)])
  | .profileValidationFailed name errors =>
      ("tunnel.profile.validation_failed",
        [("name", .str name), ("errors", .nested (jsonArray errors))])
  | .error name message => ("tunnel.error", [("name", .str name), ("message", .str message)])
  | .stats name rxBytes txBytes rxRateBps txRateBps peerCount =>
      ("tunnel.stats",
        [("name", .str name), ("rxBytes", .num rxBytes), ("txBytes", .num txBytes),
         ("rxRateBps", .num rxRateBps), ("txRateBps", .num txRateBps),
         ("peerCount", .num peerCount)])
  | .sessionStateChanged name state =>
      ("tunnel.session_state", [("name", .str name), ("state", .str state)])
  | .handshakeThreshold event =>
      ("tunnel.handshake",
        [("name", .str event.name), ("lastHandshakeSecsAgo", .num event.lastHandshakeSecsAgo),
         ("peerCount", .num event.peerCount)])
  | .observabilityHealthChanged score status previousScore =>
      ("observability.health_changed",
        [("score", .num score), ("status", .str status), ("previousScore", .num previousScore)])
  | .transportHealthChanged kind health localEndpoint =>
      ("transport.health_changed",
        [("kind", .str kind.asStr), ("health", .str health),
         ("localEndpoint", jsonOpt .str localEndpoint)])
  | .dnsRedirectStats stats => ("dns.redirect_stats", [("stats", .nested stats)])

/-- `serde_json` for the two enums.  A variant is written with its name as the tag, and the names of
the two differ. -/
structure BusCodec where
  encode : BusMessage → Option String
  decodeTunnel : String → Option ServiceEvent
  decodeLock : String → Option NetworkLockEvent
  jsonArray : List String → String
  tunnel : ∀ event text, encode (.tunnel event) = some text → decodeTunnel text = some event
  lock : ∀ event text, encode (.lock event) = some text →
    decodeTunnel text = none ∧ decodeLock text = some event

namespace BusCodec
variable (codec : BusCodec)

/-- What the task does with a text; it ignores one that is neither. -/
def pushOf (text : String) : Option Pushed :=
  match codec.decodeTunnel text with
  | some event => some (pushServiceEvent codec.jsonArray event)
  | none => (codec.decodeLock text).map pushNetworkLockEvent

/-- What is meant to be recorded of a message. -/
def recordOf : BusMessage → Pushed
  | .tunnel event => pushServiceEvent codec.jsonArray event
  | .lock event => pushNetworkLockEvent event

theorem pushOf_encode {message : BusMessage} {text : String}
    (h : codec.encode message = some text) :
    codec.pushOf text = some (codec.recordOf message) := by
  cases message with
  | tunnel event => rw [pushOf, codec.tunnel event text h]; rfl
  | lock event =>
      obtain ⟨hnone, hsome⟩ := codec.lock event text h
      rw [pushOf, hnone, hsome]
      rfl

end BusCodec

/-! ## The steps -/

def busCapacity : Nat := 256

/-- `EventStore::new` in the service. -/
def storeSize : Nat := 512

/-- Where the task stands: before `recv`, before it takes an id, before it has the lock. -/
inductive BridgePhase where
  | receiving
  | pushing (push : Pushed)
  | appending
deriving DecidableEq, Repr

/-- The task is thread 0 of the event store.  For the proofs, `published` lists the messages sent
and `bridgeRecords` the records of the task. -/
structure EventPipeline (channel : Channel String busCapacity) where
  receiver : Receiver channel
  phase : BridgePhase := .receiving
  events : EventRun JsonObject := .new storeSize
  published : List BusMessage := []
  bridgeRecords : List (EventRecord JsonObject) := []

/-- `allocate` and `append` are those of the task, `push` and `pushed` those of other threads. -/
inductive PipelineStep where
  | publish (message : BusMessage)
  | receive
  | allocate (ts : String)
  | append
  | push (thread : Nat) (eventType ts : String) (payload : JsonObject)
  | pushed (thread : Nat)
  | poll (limit : Nat)

namespace EventPipeline
variable {channel : Channel String busCapacity}

def new (channel : Channel String busCapacity) : EventPipeline channel :=
  { receiver := .new channel }

variable (codec : BusCodec)

/-- After a lag the task goes on with the next `recv`. -/
def step (w : EventPipeline channel) : PipelineStep → EventPipeline channel
  | .publish message =>
      match codec.encode message with
      | none => w
      | some text =>
          { w with receiver := w.receiver.send text, published := w.published ++ [message] }
  | .receive =>
      match w.phase with
      | .receiving =>
          { w with
            receiver := w.receiver.recv
            phase := match w.receiver.answer with
              | .value text => (codec.pushOf text).elim .receiving .pushing
              | _ => .receiving }
      | _ => w
  | .allocate ts =>
      match w.phase with
      | .pushing push =>
          { w with
            events := w.events.step (.allocate 0 push.1 ts push.2)
            phase := .appending
            bridgeRecords := w.bridgeRecords ++ [⟨w.events.store.nextId, push.1, ts, push.2⟩] }
      | _ => w
  | .append =>
      match w.phase with
      | .appending => { w with events := w.events.step (.append 0), phase := .receiving }
      | _ => w
  | .push thread eventType ts payload =>
      { w with events := w.events.step (.allocate (thread + 1) eventType ts payload) }
  | .pushed thread => { w with events := w.events.step (.append (thread + 1)) }
  | .poll limit => { w with events := w.events.step (.poll limit) }

def inHand (w : EventPipeline channel) : List Pushed :=
  match w.phase with
  | .pushing push => [push]
  | _ => []

/-- The records of the task that the client was given, in the order in which it was given them. -/
def givenByBridge (w : EventPipeline channel) : List (EventRecord JsonObject) :=
  w.events.client.given.filter fun e => e ∈ w.bridgeRecords

def contentOf (e : EventRecord JsonObject) : Pushed := (e.eventType, e.payload)

/-! ## What holds of the whole pipeline -/

/-- The task records the messages in the order in which they were published, each at most once, and
so the client is given them. -/
structure Delivers (w : EventPipeline channel) : Prop where
  recorded : (w.bridgeRecords.map contentOf ++ w.inHand).Sublist
    ((w.published.take w.receiver.next).map codec.recordOf)
  given : w.givenByBridge.Sublist w.bridgeRecords
  missed : w.bridgeRecords.length + w.inHand.length + w.receiver.skipped = w.receiver.next
  within : w.receiver.next ≤ w.published.length

/-! ## What every step keeps -/

abbrev Ascending (events : List (EventRecord JsonObject)) : Prop :=
  events.Pairwise fun a b => a.id < b.id

def ofBridge (w : EventPipeline channel) (events : List (EventRecord JsonObject)) :
    List (EventRecord JsonObject) :=
  events.filter fun e => e ∈ w.bridgeRecords

structure Flows (w : EventPipeline channel) : Prop where
  follows : w.receiver.Follows
  texts : w.published.map codec.encode = w.receiver.sent.map some
  pushes : w.receiver.received.filterMap codec.pushOf =
    w.bridgeRecords.map contentOf ++ w.inHand
  accounted : w.events.Accounted
  ascending : Ascending w.bridgeRecords
  numbered : ∀ e ∈ w.bridgeRecords, e.id < w.events.store.nextId
  waiting : w.events.pending 0 =
    if w.phase = .appending then w.bridgeRecords.getLast? else none
  entered : ∀ e ∈ w.bridgeRecords, e ∈ w.events.appended ∨ w.events.pending 0 = some e
  queued : Ascending (w.ofBridge w.events.appended)
  asked : Ascending (w.ofBridge w.events.client.given)

section Steps
variable {codec} {w : EventPipeline channel} (h : w.Flows codec)
include h

theorem publish_flows (message : BusMessage) : (w.step codec (.publish message)).Flows codec := by
  rw [step]
  cases htext : codec.encode message with
  | none => exact h
  | some text =>
      refine { h with follows := Receiver.send_follows h.follows text, texts := ?_ }
      rw [List.map_append, h.texts, Receiver.sent_send, List.map_append, List.map_singleton, htext]
      rfl

/-- A text that was received is one of a message. -/
theorem Flows.pushOf_received {text : String} (hmem : text ∈ w.receiver.sent) :
    ∃ push, codec.pushOf text = some push := by
  have hsome : some text ∈ w.published.map codec.encode := by
    rw [h.texts]
    exact List.mem_map_of_mem hmem
  obtain ⟨message, -, hencode⟩ := List.mem_map.mp hsome
  exact ⟨_, codec.pushOf_encode hencode⟩

theorem receive_flows : (w.step codec .receive).Flows codec := by
  rw [step]
  cases hphase : w.phase with
  | pushing push => exact h
  | appending => exact h
  | receiving =>
      have hhand : w.inHand = [] := by rw [inHand, hphase]
      have hidle : w.events.pending 0 = none := by rw [h.waiting, hphase]; rfl
      have hpushes := h.pushes
      rw [hhand, List.append_nil] at hpushes
      have htexts : w.published.map codec.encode = w.receiver.recv.sent.map some := by
        rw [Receiver.sent_recv, h.texts]
      have hfollows := Receiver.recv_follows h.follows
      rcases w.receiver.recv_cases with ⟨text, hanswer, htext, -, hreceived, -⟩ |
        ⟨n, hanswer, -, -, -, hreceived, -⟩ | ⟨hanswer, -, -, hreceived, -⟩
      · obtain ⟨push, hpush⟩ := h.pushOf_received (List.mem_of_getElem? htext)
        simp only [hanswer, hpush, Option.elim_some]
        refine { h with follows := hfollows, texts := htexts, pushes := ?_, waiting := ?_ }
        · rw [hreceived, List.filterMap_append, hpushes, inHand]
          simp [hpush]
        · simp [hidle]
      · simp only [hanswer]
        refine { h with follows := hfollows, texts := htexts, pushes := ?_, waiting := ?_ }
        · rw [hreceived, hpushes, inHand, List.append_nil]
        · simp [hidle]
      · simp only [hanswer]
        refine { h with follows := hfollows, texts := htexts, pushes := ?_, waiting := ?_ }
        · rw [hreceived, hpushes, inHand, List.append_nil]
        · simp [hidle]

theorem allocate_flows (ts : String) : (w.step codec (.allocate ts)).Flows codec := by
  rw [step]
  cases hphase : w.phase with
  | receiving => exact h
  | appending => exact h
  | pushing push =>
      have hidle : w.events.pending 0 = none := by rw [h.waiting, hphase]; rfl
      have haccounted := w.events.step_accounted (.allocate 0 push.1 ts push.2) h.accounted
      -- the new record is behind all that the task has recorded, and not in the queue
      have hfresh : ∀ events : List (EventRecord JsonObject),
          (∀ e ∈ events, e.id < w.events.store.nextId) →
          (events.filter fun e =>
              e ∈ w.bridgeRecords ++ [⟨w.events.store.nextId, push.1, ts, push.2⟩]) =
            w.ofBridge events := by
        intro events hbelow
        refine List.filter_congr fun e he => ?_
        have hne : e ≠ ⟨w.events.store.nextId, push.1, ts, push.2⟩ := by
          rintro rfl
          exact absurd (hbelow _ he) (Nat.lt_irrefl _)
        simp [hne]
      have hgiven : ∀ e ∈ w.events.client.given, e.id < w.events.store.nextId := fun e he =>
        h.accounted.appended_lt e (h.accounted.given_appended e he)
      simp only [EventRun.step, hidle, EventStore.allocate] at haccounted ⊢
      refine ⟨h.follows, h.texts, ?_, haccounted, ?_, ?_, ?_, ?_, ?_, ?_⟩
      · rw [h.pushes, inHand, inHand, hphase]
        simp [contentOf]
      · rw [Ascending, List.pairwise_append]
        refine ⟨h.ascending, List.pairwise_singleton _ _, ?_⟩
        intro e he last hlast
        rw [List.mem_singleton.mp hlast]
        exact h.numbered e he
      · intro e he
        show e.id < w.events.store.nextId + 1
        rcases List.mem_append.mp he with hold | hlast
        · exact Nat.lt_succ_of_lt (h.numbered e hold)
        · rw [List.mem_singleton.mp hlast]
          exact Nat.lt_succ_self _
      · simp
      · intro e he
        rcases List.mem_append.mp he with hold | hlast
        · rcases h.entered e hold with hqueued | hpending
          · exact Or.inl hqueued
          · rw [hidle] at hpending
            cases hpending
        · rw [List.mem_singleton.mp hlast]
          exact Or.inr (by simp)
      · rw [ofBridge, hfresh _ h.accounted.appended_lt]
        exact h.queued
      · rw [ofBridge, hfresh _ hgiven]
        exact h.asked

theorem append_flows : (w.step codec .append).Flows codec := by
  rw [step]
  cases hphase : w.phase with
  | receiving => exact h
  | pushing push => exact h
  | appending =>
      have hwaiting := h.waiting
      rw [hphase, if_pos rfl] at hwaiting
      have haccounted := w.events.step_accounted (.append 0) h.accounted
      have hhand : w.inHand = [] := by rw [inHand, hphase]
      cases hlast : w.bridgeRecords.getLast? with
      | none =>
          -- without a record the step of the store does nothing
          have hnone : w.bridgeRecords = [] := List.getLast?_eq_none_iff.mp hlast
          rw [hlast] at hwaiting
          simp only [EventRun.step, hwaiting]
          refine { h with pushes := ?_, waiting := by simp [hwaiting] }
          rw [h.pushes, hhand, inHand]
      | some record =>
          rw [hlast] at hwaiting
          obtain ⟨front, hsplit⟩ := List.getLast?_eq_some_iff.mp hlast
          have hbelow : ∀ e ∈ w.ofBridge w.events.appended, e.id < record.id := by
            intro e he
            obtain ⟨hqueued, hmine⟩ := List.mem_filter.mp he
            have hmem := of_decide_eq_true hmine
            have hne : e.id ≠ record.id := h.accounted.pending_new 0 record hwaiting e hqueued
            have hascending := h.ascending
            rw [hsplit] at hmem
            rw [hsplit, Ascending, List.pairwise_append] at hascending
            rcases List.mem_append.mp hmem with hfront | hrecord
            · exact hascending.2.2 e hfront record (List.mem_singleton_self _)
            · exact absurd (congrArg EventRecord.id (List.mem_singleton.mp hrecord)) hne
          have hmine : record ∈ w.bridgeRecords := List.mem_of_getLast? hlast
          simp only [EventRun.step, hwaiting] at haccounted ⊢
          refine ⟨h.follows, h.texts, ?_, haccounted, h.ascending, h.numbered, ?_, ?_, ?_, h.asked⟩
          · rw [h.pushes, hhand, inHand]
          · simp
          · intro e he
            rcases h.entered e he with hqueued | hpending
            · exact Or.inl (List.mem_append_left _ hqueued)
            · rw [hwaiting] at hpending
              cases hpending
              exact Or.inl (List.mem_append_right _ (List.mem_singleton_self _))
          · rw [ofBridge, List.filter_append, Ascending, List.pairwise_append]
            refine ⟨h.queued, by simp [hmine], ?_⟩
            intro e he last hlast
            rw [List.mem_singleton.mp (List.mem_of_mem_filter hlast)]
            exact hbelow e he

theorem push_flows (thread : Nat) (eventType ts : String) (payload : JsonObject) :
    (w.step codec (.push thread eventType ts payload)).Flows codec := by
  have haccounted := w.events.step_accounted (.allocate (thread + 1) eventType ts payload)
    h.accounted
  cases hbusy : w.events.pending (thread + 1) with
  | some record => simpa [step, EventRun.step, hbusy] using h
  | none =>
      have hzero : Function.update w.events.pending (thread + 1)
          (some ⟨w.events.store.nextId, eventType, ts, payload⟩) 0 = w.events.pending 0 :=
        Function.update_of_ne (Nat.succ_ne_zero thread).symm _ _
      simp only [step, EventRun.step, hbusy, EventStore.allocate] at haccounted ⊢
      refine { h with accounted := haccounted, numbered := ?_, waiting := ?_, entered := ?_ }
      · intro e he
        exact Nat.lt_succ_of_lt (h.numbered e he)
      · exact hzero.trans h.waiting
      · intro e he
        rcases h.entered e he with hqueued | hmine
        · exact Or.inl hqueued
        · exact Or.inr (hzero.trans hmine)

theorem pushed_flows (thread : Nat) : (w.step codec (.pushed thread)).Flows codec := by
  have haccounted := w.events.step_accounted (.append (thread + 1)) h.accounted
  cases hpending : w.events.pending (thread + 1) with
  | none => simpa [step, EventRun.step, hpending] using h
  | some record =>
      have hother : (0 : Nat) ≠ thread + 1 := (Nat.succ_ne_zero thread).symm
      have hzero : Function.update w.events.pending (thread + 1) none 0 = w.events.pending 0 :=
        Function.update_of_ne hother none _
      -- the record of another thread has an id of its own
      have hforeign : record ∉ w.bridgeRecords := by
        intro hmem
        rcases h.entered record hmem with hqueued | hmine
        · exact h.accounted.pending_new (thread + 1) record hpending record hqueued rfl
        · exact hother (h.accounted.pending_inj 0 (thread + 1) record record hmine hpending rfl)
      simp only [step, EventRun.step, hpending] at haccounted ⊢
      refine { h with accounted := haccounted, waiting := ?_, entered := ?_, queued := ?_ }
      · exact hzero.trans h.waiting
      · intro e he
        rcases h.entered e he with hqueued | hmine
        · exact Or.inl (List.mem_append_left _ hqueued)
        · exact Or.inr (hzero.trans hmine)
      · have hlast : ([record].filter fun e => e ∈ w.bridgeRecords) = [] := by simp [hforeign]
        rw [ofBridge, List.filter_append, hlast, List.append_nil]
        exact h.queued

theorem poll_flows (limit : Nat) : (w.step codec (.poll limit)).Flows codec := by
  have haccounted := w.events.step_accounted (.poll limit) h.accounted
  refine { h with accounted := haccounted, asked := ?_ }
  have hqueue : (w.ofBridge w.events.store.events).Sublist (w.ofBridge w.events.appended) := by
    rw [h.accounted.appended_eq]
    exact (List.sublist_append_right _ _).filter _
  simp only [step, EventRun.step, PollClient.receive, handleEventsPoll, EventStore.poll]
  rw [ofBridge, List.filter_append, Ascending, List.pairwise_append]
  refine ⟨h.asked, h.queued.sublist (List.Sublist.trans ?_ hqueue), ?_⟩
  · exact ((List.take_sublist _ _).trans List.filter_sublist).filter _
  · intro e he later hlater
    have hgiven := h.accounted.given_le e (List.mem_of_mem_filter he)
    have hasked := List.mem_of_mem_take (List.mem_of_mem_filter hlater)
    have hlt : w.events.client.since < later.id := by
      simpa using (List.mem_filter.mp hasked).2
    omega

end Steps

theorem step_flows (w : EventPipeline channel) (event : PipelineStep) (h : w.Flows codec) :
    (w.step codec event).Flows codec := by
  cases event with
  | publish message => exact publish_flows h message
  | receive => exact receive_flows h
  | allocate ts => exact allocate_flows h ts
  | append => exact append_flows h
  | push thread eventType ts payload => exact push_flows h thread eventType ts payload
  | pushed thread => exact pushed_flows h thread
  | poll limit => exact poll_flows h limit

theorem new_flows : (new channel).Flows codec where
  follows := Receiver.follows_new
  texts := by simp [new, Receiver.new, Receiver.sent, channel.sent_subscribed]
  pushes := rfl
  accounted := EventRun.new_accounted storeSize
  ascending := List.Pairwise.nil
  numbered := by simp [new]
  waiting := rfl
  entered := by simp [new]
  queued := List.Pairwise.nil
  asked := List.Pairwise.nil

/-! ## The client -/

/-- Two ascending lists of which one holds the records of the other. -/
theorem sublist_of_ascending {xs ys : List (EventRecord JsonObject)} (hxs : Ascending xs)
    (hys : Ascending ys) (hsubset : xs ⊆ ys) : xs.Sublist ys := by
  have hantisymm : Std.Antisymm fun a b : EventRecord JsonObject => a.id < b.id :=
    ⟨fun a b hab hba => absurd hba (Nat.lt_asymm hab)⟩
  have hnodup : xs.Nodup := by
    refine List.Pairwise.imp ?_ hxs
    intro a b hlt heq
    rw [heq] at hlt
    exact Nat.lt_irrefl _ hlt
  exact List.sublist_of_subperm_of_pairwise (List.subperm_of_subset hnodup hsubset) hxs hys

theorem filterMap_pushOf (messages : List BusMessage) (texts : List String)
    (h : messages.map codec.encode = texts.map some) :
    texts.filterMap codec.pushOf = messages.map codec.recordOf := by
  induction messages generalizing texts with
  | nil =>
      rw [List.map_nil, eq_comm, List.map_eq_nil_iff] at h
      rw [h]
      rfl
  | cons message rest ih =>
      cases texts with
      | nil => cases h
      | cons text others =>
          simp only [List.map_cons, List.cons.injEq] at h
          rw [List.filterMap_cons_some (codec.pushOf_encode h.1), List.map_cons, ih others h.2]

theorem Flows.delivers {w : EventPipeline channel} (h : w.Flows codec) : w.Delivers codec where
  recorded := by
    rw [← h.pushes]
    have htaken := h.follows.ordered.filterMap codec.pushOf
    have hmessages : (w.receiver.sent.take w.receiver.next).filterMap codec.pushOf =
        (w.published.take w.receiver.next).map codec.recordOf := by
      refine filterMap_pushOf codec _ _ ?_
      rw [List.map_take, List.map_take, h.texts]
    rwa [hmessages] at htaken
  given := by
    refine sublist_of_ascending h.asked h.ascending fun e he => ?_
    exact of_decide_eq_true (List.mem_filter.mp he).2
  missed := by
    have hall : (w.receiver.received.filterMap codec.pushOf).length =
        w.receiver.received.length := by
      refine List.filterMap_length_eq_length.mpr fun text htext => ?_
      have hsent := List.mem_of_mem_take (h.follows.ordered.subset htext)
      obtain ⟨push, hpush⟩ := h.pushOf_received hsent
      rw [hpush]
      rfl
    have hcounted := h.follows.counted
    rw [h.pushes, List.length_append, List.length_map] at hall
    omega
  within := by
    have hlength := congrArg List.length h.texts
    rw [List.length_map, List.length_map] at hlength
    rw [hlength]
    exact h.follows.within

/-- However publishers, the task, other threads and the client take turns, the client is given the
published events in the order of their publication. -/
theorem run_delivers (steps : List PipelineStep) :
    Delivers codec (run (step codec) (new channel) steps) :=
  (run_keeps (step codec) (step_flows codec) steps (new channel) (new_flows codec)).delivers

/-! ## Without a lag -/

/-- No more than the capacity of the bus is waiting when the task receives. -/
def InTime (w : EventPipeline channel) : PipelineStep → Prop
  | .receive => w.phase = .receiving → w.receiver.InTime .recv
  | _ => True

instance decidableInTime (w : EventPipeline channel) : ∀ event, Decidable (w.InTime event)
  | .receive => inferInstanceAs (Decidable (w.phase = .receiving →
      w.receiver.sent.length - w.receiver.next ≤ busCapacity))
  | .publish _ => inferInstanceAs (Decidable True)
  | .allocate _ => inferInstanceAs (Decidable True)
  | .append => inferInstanceAs (Decidable True)
  | .push _ _ _ _ => inferInstanceAs (Decidable True)
  | .pushed _ => inferInstanceAs (Decidable True)
  | .poll _ => inferInstanceAs (Decidable True)

theorem step_skipped (w : EventPipeline channel) (event : PipelineStep) (h : w.InTime event) :
    (w.step codec event).receiver.skipped = w.receiver.skipped := by
  cases event with
  | publish message =>
      rw [step]
      cases codec.encode message <;> rfl
  | receive =>
      rw [step]
      cases hphase : w.phase with
      | receiving => exact Receiver.step_skipped (h hphase)
      | pushing push => rfl
      | appending => rfl
  | allocate ts =>
      rw [step]
      cases w.phase <;> rfl
  | append =>
      rw [step]
      cases w.phase <;> rfl
  | push thread eventType ts payload => rfl
  | pushed thread => rfl
  | poll limit => rfl

/-- Then every message that was received, and none besides, is recorded. -/
theorem run_complete (steps : List PipelineStep)
    (hin : Guarded (step codec) InTime (new channel) steps) :
    let w := run (step codec) (new channel) steps
    w.bridgeRecords.map contentOf ++ w.inHand =
      (w.published.take w.receiver.next).map codec.recordOf := by
  intro w
  have hdelivers : w.Delivers codec := run_delivers codec steps
  have hnone : w.receiver.skipped = 0 :=
    run_invariant (step codec) InTime (P := fun w : EventPipeline channel => w.receiver.skipped = 0)
      (fun w event h hin => by rw [step_skipped codec w event hin, h]) steps (new channel) rfl hin
  refine hdelivers.recorded.eq_of_length ?_
  have hmissed := hdelivers.missed
  have hwithin := hdelivers.within
  rw [List.length_append, List.length_map, List.length_map, List.length_take]
  omega

def enabledCodec : BusCodec where
  encode := fun message => if message = .lock .enabled then some "\"Enabled\"" else none
  decodeTunnel := fun _ => none
  decodeLock := fun text => if text = "\"Enabled\"" then some .enabled else none
  jsonArray := fun _ => "[]"
  tunnel := by
    intro event text h
    simp at h
  lock := by
    intro event text h
    obtain ⟨hmessage, htext⟩ := Option.ite_none_right_eq_some.mp h
    cases hmessage
    cases htext
    exact ⟨rfl, if_pos rfl⟩

theorem run_complete_enabled :
    let w := run (step enabledCodec) (new (logChannel String busCapacity))
      [.publish (.lock .enabled), .push 3 "routing.reloaded" "t0" [], .receive, .allocate "t1",
       .append, .pushed 3, .poll 64]
    w.bridgeRecords.map contentOf ++ w.inHand =
      (w.published.take w.receiver.next).map enabledCodec.recordOf :=
  run_complete enabledCodec _ (by decide)

end EventPipeline
end RouteGuard
