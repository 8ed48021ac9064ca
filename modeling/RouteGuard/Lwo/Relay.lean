import RouteGuard.Core.Net
import RouteGuard.Lib.GuardedRun
import RouteGuard.Lwo.Wire

/-! # The LWO relay

`relay.rs`: two connected UDP sockets and a loop for each direction.  A
connected socket takes datagrams from its peer only and sends to its peer only;
datagrams from anywhere else are discarded and left out of the runs, WireGuard's
own apart.  Every datagram carries its origin, which only the proofs look at. -/
set_option autoImplicit false
namespace RouteGuard.Lwo

open GuardedRun

structure LwoKeys where
  clientPublic : Vector UInt8 32
  serverPublic : Vector UInt8 32

/-- The `n`-th datagram of the WireGuard socket or of the remote. -/
inductive Origin where
  | wireguard (n : Nat)
  | server (n : Nat)
deriving DecidableEq, Repr

structure Packet where
  origin : Origin
  bytes : List UInt8
deriving DecidableEq, Repr

/-! ## Sockets -/

structure UdpSocket where
  addr : SocketAddr
  peer : Option SocketAddr := none
  inbox : List Packet := []

namespace UdpSocket

def connect (socket : UdpSocket) (peer : SocketAddr) : UdpSocket :=
  { socket with peer := some peer }

def arrive (socket : UdpSocket) (source : SocketAddr) (packet : Packet) : UdpSocket :=
  if socket.peer = none ∨ socket.peer = some source then
    { socket with inbox := socket.inbox ++ [packet] }
  else socket

end UdpSocket

/-! ## The relay -/

structure Sent where
  dest : SocketAddr
  packet : Packet
deriving DecidableEq, Repr

structure LwoRelay where
  txKey : Vector UInt8 32
  rxKey : Vector UInt8 32
  client : UdpSocket
  remote : UdpSocket
  sendRunning : Bool := true
  recvRunning : Bool := true
  cancelled : Bool := false
  sentByRemote : List Sent := []
  sentByClient : List Sent := []

namespace LwoRelay

/-- `LwoRelay::start` once both sockets are bound: `local_addr` is the address of the first. -/
def start (keys : LwoKeys) (remote localAddr remoteLocal : SocketAddr) : LwoRelay where
  txKey := keys.serverPublic
  rxKey := keys.clientPublic
  remote := ({ addr := remoteLocal } : UdpSocket).connect remote
  client := ({ addr := localAddr } : UdpSocket).connect localAddr

/-- The socket sends to its peer; the client socket may be its own peer. -/
def clientSend (relay : LwoRelay) (packet : Packet) : LwoRelay :=
  match relay.client.peer with
  | none => relay
  | some peer => { relay with
      sentByClient := relay.sentByClient ++ [⟨peer, packet⟩]
      client := if peer = relay.client.addr then relay.client.arrive relay.client.addr packet
        else relay.client }

def remoteSend (relay : LwoRelay) (packet : Packet) : LwoRelay :=
  match relay.remote.peer with
  | none => relay
  | some peer => { relay with sentByRemote := relay.sentByRemote ++ [⟨peer, packet⟩] }

/-- One round of `run_loop` with `sending` true that has a datagram to read; `fails` is the
result of `write_socket.send`. -/
def sendLoop (relay : LwoRelay) (random : UInt32) (fails : Bool) : LwoRelay :=
  if relay.cancelled || !relay.sendRunning then relay
  else
    match relay.client.inbox with
    | [] => relay
    | packet :: rest =>
        let relay := { relay with client := { relay.client with inbox := rest } }
        if fails then { relay with sendRunning := false }
        else relay.remoteSend { packet with bytes := obfuscate random packet.bytes relay.txKey }

def recvLoop (relay : LwoRelay) (fails : Bool) : LwoRelay :=
  if relay.cancelled || !relay.recvRunning then relay
  else
    match relay.remote.inbox with
    | [] => relay
    | packet :: rest =>
        let relay := { relay with remote := { relay.remote with inbox := rest } }
        if fails then { relay with recvRunning := false }
        else relay.clientSend { packet with bytes := deobfuscate packet.bytes relay.rxKey }

end LwoRelay

/-! ## Runs -/

/-- The relay with, for the proofs, what the WireGuard socket and the remote have sent it. -/
structure RelayRun where
  relay : LwoRelay
  fromWireguard : List (List UInt8) := []
  fromServer : List (List UInt8) := []

inductive RelayStep where
  | wireguardSends (bytes : List UInt8)
  | serverSends (bytes : List UInt8)
  | sendLoop (random : UInt32) (fails : Bool)
  | recvLoop (fails : Bool)
  | readFails (sending : Bool)
  | cancel
deriving DecidableEq, Repr

namespace RelayRun

def started (keys : LwoKeys) (remote localAddr remoteLocal : SocketAddr) : RelayRun :=
  ⟨.start keys remote localAddr remoteLocal, [], []⟩

section Steps
variable (wireguard remote : SocketAddr)

/-- What is sent after the cancellation is not recorded. -/
def record (cancelled : Bool) (sent : List (List UInt8)) (bytes : List UInt8) : List (List UInt8) :=
  if cancelled then sent else sent ++ [bytes]

def step (w : RelayRun) : RelayStep → RelayRun
  | .wireguardSends bytes => { w with
      relay := { w.relay with
        client := w.relay.client.arrive wireguard ⟨.wireguard w.fromWireguard.length, bytes⟩ }
      fromWireguard := record w.relay.cancelled w.fromWireguard bytes }
  | .serverSends bytes => { w with
      relay := { w.relay with
        remote := w.relay.remote.arrive remote ⟨.server w.fromServer.length, bytes⟩ }
      fromServer := record w.relay.cancelled w.fromServer bytes }
  | .sendLoop random fails => { w with relay := w.relay.sendLoop random fails }
  | .recvLoop fails => { w with relay := w.relay.recvLoop fails }
  | .readFails sending => { w with
      relay :=
        if sending then { w.relay with sendRunning := false }
        else { w.relay with recvRunning := false } }
  | .cancel => { w with relay := { w.relay with cancelled := true } }

/-- Until the cancellation every datagram of WireGuard has been obfuscated and sent to the remote
or waits for a running loop, and likewise every datagram of the remote. -/
structure Relays (w : RelayRun) : Prop where
  outward : w.relay.cancelled = false → ∀ n bytes, w.fromWireguard[n]? = some bytes →
    (∃ random, ⟨remote, .wireguard n, obfuscate random bytes w.relay.txKey⟩ ∈
      w.relay.sentByRemote) ∨
    (w.relay.sendRunning = true ∧ ⟨.wireguard n, bytes⟩ ∈ w.relay.client.inbox)
  inward : w.relay.cancelled = false → ∀ n bytes, w.fromServer[n]? = some bytes →
    ⟨wireguard, .server n, deobfuscate bytes w.relay.rxKey⟩ ∈ w.relay.sentByClient ∨
    (w.relay.recvRunning = true ∧ ⟨.server n, bytes⟩ ∈ w.relay.remote.inbox)

end Steps

/-- WireGuard sends nothing, and the remote nothing that the relay takes up or leaves for good. -/
def Silent (w : RelayRun) (event : RelayStep) : Prop :=
  w.relay.cancelled = true ∨
  match event with
  | .wireguardSends _ => False
  | .serverSends _ => w.relay.recvRunning = true
  | .recvLoop _ => w.relay.recvRunning = false ∨ w.relay.remote.inbox = []
  | .readFails sending => sending = true ∨ w.relay.recvRunning = false ∨ w.relay.remote.inbox = []
  | _ => True

/-! ## What every step keeps -/

section Wires
variable (wireguard remote localAddr : SocketAddr)

/-- The client socket is connected to itself, so all it ever holds or sends are reflections. -/
structure Wired (w : RelayRun) : Prop where
  client_addr : w.relay.client.addr = localAddr
  client_peer : w.relay.client.peer = some localAddr
  remote_peer : w.relay.remote.peer = some remote
  client_inbox : ∀ packet ∈ w.relay.client.inbox, ∃ n, packet.origin = .server n
  client_sent : ∀ sent ∈ w.relay.sentByClient, sent.dest = localAddr
  remote_sent : ∀ sent ∈ w.relay.sentByRemote, ∃ n, sent.packet.origin = .server n
  server_inbox : ∀ packet ∈ w.relay.remote.inbox, ∃ n, packet.origin = .server n
  server_known : w.relay.cancelled = false → ∀ packet ∈ w.relay.remote.inbox, ∀ n,
    packet.origin = .server n → w.fromServer[n]? = some packet.bytes
  server_once : w.relay.cancelled = false → (w.relay.remote.inbox.map Packet.origin).Nodup

variable {wireguard remote localAddr}

/-- Nothing of WireGuard, and everything of the remote still to be read. -/
structure Waiting (w : RelayRun) : Prop where
  outward : w.fromWireguard = []
  inward : ∀ n bytes, w.fromServer[n]? = some bytes →
    w.relay.recvRunning = true ∧ ⟨.server n, bytes⟩ ∈ w.relay.remote.inbox

theorem Wired.relays_iff {w : RelayRun} (h : Wired remote localAddr w) (hwg : wireguard ≠ localAddr)
    (hc : w.relay.cancelled = false) : Relays wireguard remote w ↔ w.Waiting := by
  constructor
  · intro hrelays
    constructor
    · by_contra hsent
      obtain ⟨bytes, rest, hcons⟩ := List.exists_cons_of_ne_nil hsent
      rcases hrelays.outward hc 0 bytes (by rw [hcons]; rfl) with ⟨random, hmem⟩ | ⟨_, hmem⟩
      · obtain ⟨n, hn⟩ := h.remote_sent _ hmem
        cases hn
      · obtain ⟨n, hn⟩ := h.client_inbox _ hmem
        cases hn
    · intro n bytes hget
      rcases hrelays.inward hc n bytes hget with hmem | hwaits
      · exact absurd (h.client_sent _ hmem) hwg
      · exact hwaits
  · intro hwaiting
    constructor
    · intro _ n bytes hget
      rw [hwaiting.outward] at hget
      cases hget
    · intro _ n bytes hget
      exact Or.inr (hwaiting.inward n bytes hget)

theorem relays_of_cancelled {w : RelayRun} (hc : w.relay.cancelled = true) :
    Relays wireguard remote w := by
  constructor <;> simp [hc]

end Wires

/-! ## The loops -/

section Loops
variable (relay : LwoRelay)

/-- What the other direction of the relay does not touch. -/
theorem sendLoop_rest (random : UInt32) (fails : Bool) :
    (relay.sendLoop random fails).cancelled = relay.cancelled ∧
    (relay.sendLoop random fails).recvRunning = relay.recvRunning ∧
    (relay.sendLoop random fails).remote = relay.remote ∧
    (relay.sendLoop random fails).sentByClient = relay.sentByClient := by
  unfold LwoRelay.sendLoop LwoRelay.remoteSend
  grind

theorem sendLoop_client (random : UInt32) (fails : Bool) :
    (relay.sendLoop random fails).client.addr = relay.client.addr ∧
    (relay.sendLoop random fails).client.peer = relay.client.peer ∧
    ∀ packet ∈ (relay.sendLoop random fails).client.inbox, packet ∈ relay.client.inbox := by
  unfold LwoRelay.sendLoop LwoRelay.remoteSend
  grind

theorem sendLoop_sent (random : UInt32) (fails : Bool) :
    ∀ sent ∈ (relay.sendLoop random fails).sentByRemote, sent ∈ relay.sentByRemote ∨
      ∃ packet ∈ relay.client.inbox, sent.packet.origin = packet.origin := by
  unfold LwoRelay.sendLoop LwoRelay.remoteSend
  grind

theorem recvLoop_idle (fails : Bool)
    (h : relay.cancelled = true ∨ relay.recvRunning = false ∨ relay.remote.inbox = []) :
    relay.recvLoop fails = relay := by
  unfold LwoRelay.recvLoop
  grind

/-- One datagram read: it is dropped with the loop or sent from the client socket to itself. -/
theorem recvLoop_takes {relay : LwoRelay} {packet : Packet} {rest : List Packet}
    {localAddr : SocketAddr} (hc : relay.cancelled = false) (hr : relay.recvRunning = true)
    (hinbox : relay.remote.inbox = packet :: rest) (haddr : relay.client.addr = localAddr)
    (hpeer : relay.client.peer = some localAddr) (fails : Bool) :
    relay.recvLoop fails =
      if fails then { relay with
        remote := { relay.remote with inbox := rest }
        recvRunning := false }
      else
        let reflected : Packet := { packet with bytes := deobfuscate packet.bytes relay.rxKey }
        { relay with
          remote := { relay.remote with inbox := rest }
          sentByClient := relay.sentByClient ++ [⟨localAddr, reflected⟩]
          client := { relay.client with inbox := relay.client.inbox ++ [reflected] } } := by
  cases fails <;>
    simp [LwoRelay.recvLoop, LwoRelay.clientSend, UdpSocket.arrive, hc, hr, hinbox, haddr, hpeer]

end Loops

/-! ## One step -/

section Step
variable {wireguard remote localAddr : SocketAddr} {w : RelayRun}

theorem wireguardSends_discarded (h : Wired remote localAddr w) (hwg : wireguard ≠ localAddr)
    (packet : Packet) : w.relay.client.arrive wireguard packet = w.relay.client := by
  have hne : ¬ (w.relay.client.peer = none ∨ w.relay.client.peer = some wireguard) := by
    rw [h.client_peer]
    simpa using fun heq => hwg heq.symm
  exact if_neg hne

theorem serverSends_accepted (h : Wired remote localAddr w) (packet : Packet) :
    w.relay.remote.arrive remote packet =
      { w.relay.remote with inbox := w.relay.remote.inbox ++ [packet] } :=
  if_pos (Or.inr h.remote_peer)

theorem known_lt (h : Wired remote localAddr w) (hc : w.relay.cancelled = false) {packet : Packet}
    (hmem : packet ∈ w.relay.remote.inbox) :
    packet.origin ≠ .server w.fromServer.length := by
  intro horigin
  have hknown := h.server_known hc packet hmem _ horigin
  rw [List.getElem?_eq_none (Nat.le_refl _)] at hknown
  cases hknown

theorem serverSends_wired (h : Wired remote localAddr w) (bytes : List UInt8) :
    Wired remote localAddr (w.step wireguard remote (.serverSends bytes)) := by
  simp only [step, serverSends_accepted h]
  refine ⟨h.client_addr, h.client_peer, h.remote_peer, h.client_inbox, h.client_sent,
    h.remote_sent, ?_, ?_, ?_⟩
  · intro packet hmem
    rcases List.mem_append.mp hmem with hold | hnew
    · exact h.server_inbox packet hold
    · rw [List.mem_singleton.mp hnew]
      exact ⟨_, rfl⟩
  · intro hc packet hmem n horigin
    have hc : w.relay.cancelled = false := hc
    simp only [record, hc, Bool.false_eq_true, if_false]
    rcases List.mem_append.mp hmem with hold | hnew
    · have hknown := h.server_known hc packet hold n horigin
      have hlt : n < w.fromServer.length := (List.getElem?_eq_some_iff.mp hknown).1
      rw [List.getElem?_append_left hlt]
      exact hknown
    · rw [List.mem_singleton.mp hnew] at horigin ⊢
      cases horigin
      rw [List.getElem?_concat_length]
  · intro hc
    rw [List.map_append, List.nodup_append]
    refine ⟨h.server_once hc, by simp, ?_⟩
    intro origin horigin other hother
    obtain ⟨packet, hmem, rfl⟩ := List.mem_map.mp horigin
    simp only [List.map_cons, List.map_nil, List.mem_singleton] at hother
    rw [hother]
    exact known_lt h hc hmem

theorem sendLoop_wired (h : Wired remote localAddr w) (random : UInt32) (fails : Bool) :
    Wired remote localAddr (w.step wireguard remote (.sendLoop random fails)) := by
  obtain ⟨hc, _, hremote, hclient⟩ := sendLoop_rest w.relay random fails
  obtain ⟨haddr, hpeer, hinbox⟩ := sendLoop_client w.relay random fails
  constructor <;> simp only [step, hc, hremote, hclient, haddr, hpeer]
  · exact h.client_addr
  · exact h.client_peer
  · exact h.remote_peer
  · exact fun packet hmem => h.client_inbox packet (hinbox packet hmem)
  · exact h.client_sent
  · intro sent hmem
    rcases sendLoop_sent w.relay random fails sent hmem with hold | ⟨packet, hpacket, horigin⟩
    · exact h.remote_sent sent hold
    · rw [horigin]
      exact h.client_inbox packet hpacket
  · exact h.server_inbox
  · exact h.server_known
  · exact h.server_once

theorem recvLoop_wired (h : Wired remote localAddr w) (fails : Bool) :
    Wired remote localAddr (w.step wireguard remote (.recvLoop fails)) := by
  by_cases hidle : w.relay.cancelled = true ∨ w.relay.recvRunning = false ∨
      w.relay.remote.inbox = []
  · simpa only [step, recvLoop_idle w.relay fails hidle] using h
  · simp only [not_or, Bool.not_eq_true, Bool.not_eq_false] at hidle
    obtain ⟨hc, hr, hinbox⟩ := hidle
    obtain ⟨packet, rest, hcons⟩ := List.exists_cons_of_ne_nil hinbox
    have hrest : ∀ p ∈ rest, p ∈ w.relay.remote.inbox := fun p hp => by
      rw [hcons]
      exact List.mem_cons_of_mem _ hp
    have honce := h.server_once hc
    rw [hcons, List.map_cons, List.nodup_cons] at honce
    obtain ⟨n, hn⟩ := h.server_inbox packet (by rw [hcons]; exact List.mem_cons_self)
    have htakes := recvLoop_takes hc hr hcons h.client_addr h.client_peer fails
    simp only [step, htakes]
    cases fails with
    | true =>
        exact ⟨h.client_addr, h.client_peer, h.remote_peer, h.client_inbox, h.client_sent,
          h.remote_sent, fun p hp => h.server_inbox p (hrest p hp),
          fun hc p hp => h.server_known hc p (hrest p hp), fun _ => honce.2⟩
    | false =>
        refine ⟨h.client_addr, h.client_peer, h.remote_peer, ?_, ?_, h.remote_sent,
          fun p hp => h.server_inbox p (hrest p hp),
          fun hc p hp => h.server_known hc p (hrest p hp), fun _ => honce.2⟩
        · intro p hp
          rcases List.mem_append.mp hp with hold | hnew
          · exact h.client_inbox p hold
          · rw [List.mem_singleton.mp hnew]
            exact ⟨n, hn⟩
        · intro sent hmem
          rcases List.mem_append.mp hmem with hold | hnew
          · exact h.client_sent sent hold
          · rw [List.mem_singleton.mp hnew]

theorem step_wired (hwg : wireguard ≠ localAddr) (w : RelayRun) (event : RelayStep)
    (h : Wired remote localAddr w) : Wired remote localAddr (w.step wireguard remote event) := by
  cases event with
  | wireguardSends bytes =>
      simp only [step, wireguardSends_discarded h hwg]
      exact ⟨h.client_addr, h.client_peer, h.remote_peer, h.client_inbox, h.client_sent,
        h.remote_sent, h.server_inbox, h.server_known, h.server_once⟩
  | serverSends bytes => exact serverSends_wired h bytes
  | sendLoop random fails => exact sendLoop_wired h random fails
  | recvLoop fails => exact recvLoop_wired h fails
  | readFails sending =>
      cases sending <;>
        exact ⟨h.client_addr, h.client_peer, h.remote_peer, h.client_inbox, h.client_sent,
          h.remote_sent, h.server_inbox, h.server_known, h.server_once⟩
  | cancel =>
      exact ⟨h.client_addr, h.client_peer, h.remote_peer, h.client_inbox, h.client_sent,
        h.remote_sent, h.server_inbox, fun hc => absurd hc (by simp [step]),
        fun hc => absurd hc (by simp [step])⟩

/-- The first datagram in the inbox is one of the remote's, and no other waits under its number. -/
theorem head_known (h : Wired remote localAddr w) (hc : w.relay.cancelled = false)
    {packet : Packet} {rest : List Packet} (hcons : w.relay.remote.inbox = packet :: rest) :
    ∃ n, w.fromServer[n]? = some packet.bytes ∧ ∀ bytes, ⟨.server n, bytes⟩ ∉ rest := by
  have hmem : packet ∈ w.relay.remote.inbox := by
    rw [hcons]
    exact List.mem_cons_self
  obtain ⟨n, hn⟩ := h.server_inbox packet hmem
  refine ⟨n, h.server_known hc packet hmem n hn, fun bytes hrest => ?_⟩
  have honce := h.server_once hc
  rw [hcons, List.map_cons, List.nodup_cons, hn] at honce
  exact honce.1 (List.mem_map.mpr ⟨_, hrest, rfl⟩)

theorem recvLoop_waiting_iff (h : Wired remote localAddr w) (hc : w.relay.cancelled = false)
    (hw : w.Waiting) (fails : Bool) : (w.step wireguard remote (.recvLoop fails)).Waiting ↔
      w.relay.recvRunning = false ∨ w.relay.remote.inbox = [] := by
  by_cases hidle : w.relay.recvRunning = false ∨ w.relay.remote.inbox = []
  · rw [step, recvLoop_idle w.relay fails (Or.inr hidle)]
    exact iff_of_true hw hidle
  · refine iff_of_false (fun hafter => ?_) hidle
    simp only [not_or, Bool.not_eq_false] at hidle
    obtain ⟨packet, rest, hcons⟩ := List.exists_cons_of_ne_nil hidle.2
    obtain ⟨n, hknown, honce⟩ := head_known h hc hcons
    have hstill := (hafter.inward n packet.bytes hknown).2
    rw [step, recvLoop_takes hc hidle.1 hcons h.client_addr h.client_peer fails] at hstill
    cases fails <;> exact honce packet.bytes hstill

theorem readFails_waiting_iff (h : Wired remote localAddr w) (hc : w.relay.cancelled = false)
    (hw : w.Waiting) : (w.step wireguard remote (.readFails false)).Waiting ↔
      w.relay.recvRunning = false ∨ w.relay.remote.inbox = [] := by
  constructor
  · intro hafter
    by_contra hnot
    rw [not_or] at hnot
    obtain ⟨packet, rest, hcons⟩ := List.exists_cons_of_ne_nil hnot.2
    obtain ⟨n, hknown, _⟩ := head_known h hc hcons
    exact absurd (hafter.inward n packet.bytes hknown).1 (by simp [step])
  · intro hidle
    refine ⟨hw.outward, fun n bytes hget => ?_⟩
    obtain ⟨hr, hmem⟩ := hw.inward n bytes hget
    rcases hidle with hdead | hempty
    · rw [hdead] at hr
      cases hr
    · rw [hempty] at hmem
      cases hmem

theorem serverSends_waiting_iff (h : Wired remote localAddr w) (hc : w.relay.cancelled = false)
    (hw : w.Waiting) (bytes : List UInt8) :
    (w.step wireguard remote (.serverSends bytes)).Waiting ↔ w.relay.recvRunning = true := by
  have hstep : w.step wireguard remote (.serverSends bytes) = { w with
      relay := { w.relay with remote := { w.relay.remote with
        inbox := w.relay.remote.inbox ++ [⟨.server w.fromServer.length, bytes⟩] } }
      fromServer := w.fromServer ++ [bytes] } := by
    simp only [step, serverSends_accepted h, record, hc, Bool.false_eq_true, if_false]
  rw [hstep]
  constructor
  · intro hafter
    exact (hafter.inward w.fromServer.length bytes List.getElem?_concat_length).1
  · intro hr
    refine ⟨hw.outward, fun n other hget => ⟨hr, ?_⟩⟩
    by_cases hlt : n < w.fromServer.length
    · simp only [List.getElem?_append_left hlt] at hget
      exact List.mem_append_left _ (hw.inward n other hget).2
    · have hn : n = w.fromServer.length := by
        have hlt' := (List.getElem?_eq_some_iff.mp hget).1
        simp only [List.length_append, List.length_singleton] at hlt'
        omega
      subst hn
      simp only [List.getElem?_concat_length, Option.some.injEq] at hget
      exact List.mem_append_right _ (by rw [hget]; exact List.mem_singleton_self _)

theorem step_relays_iff (hwg : wireguard ≠ localAddr) (w : RelayRun) (event : RelayStep)
    (h : Wired remote localAddr w) (hrelays : Relays wireguard remote w) :
    Relays wireguard remote (w.step wireguard remote event) ↔ w.Silent event := by
  have hafter := step_wired hwg w event h
  cases hc : w.relay.cancelled with
  | true =>
      refine iff_of_true (relays_of_cancelled ?_) (Or.inl hc)
      cases event with
      | sendLoop random fails => exact (sendLoop_rest w.relay random fails).1.trans hc
      | recvLoop fails =>
          rw [step, recvLoop_idle w.relay fails (Or.inl hc)]
          exact hc
      | readFails sending => cases sending <;> exact hc
      | cancel => rfl
      | _ => exact hc
  | false =>
      have hw := (h.relays_iff hwg hc).mp hrelays
      simp only [Silent, hc, Bool.false_eq_true, false_or]
      cases event with
      | wireguardSends bytes =>
          rw [hafter.relays_iff hwg hc]
          refine iff_of_false (fun hwaiting => ?_) not_false
          exact absurd hwaiting.outward (by simp [step, record, hc])
      | serverSends bytes =>
          rw [hafter.relays_iff hwg hc]
          exact serverSends_waiting_iff h hc hw bytes
      | sendLoop random fails =>
          obtain ⟨hcancelled, hrunning, hremote, _⟩ := sendLoop_rest w.relay random fails
          rw [hafter.relays_iff hwg (hcancelled.trans hc)]
          refine iff_of_true ⟨hw.outward, ?_⟩ trivial
          simp only [step, hrunning, hremote]
          exact hw.inward
      | recvLoop fails =>
          have hcancelled : (w.relay.recvLoop fails).cancelled = w.relay.cancelled := by
            unfold LwoRelay.recvLoop LwoRelay.clientSend
            grind
          rw [hafter.relays_iff hwg (hcancelled.trans hc)]
          exact recvLoop_waiting_iff h hc hw fails
      | readFails sending =>
          cases sending with
          | true =>
              rw [hafter.relays_iff hwg hc]
              exact iff_of_true ⟨hw.outward, hw.inward⟩ (Or.inl rfl)
          | false =>
              rw [hafter.relays_iff hwg hc, readFails_waiting_iff h hc hw]
              simp
      | cancel => exact iff_of_true (relays_of_cancelled rfl) trivial

end Step

theorem started_wired (keys : LwoKeys) (remote localAddr remoteLocal : SocketAddr) :
    Wired remote localAddr (started keys remote localAddr remoteLocal) := by
  constructor <;> simp [started, LwoRelay.start, UdpSocket.connect]

/-- The relay passes everything on exactly in the runs in which there is nothing to pass on. -/
theorem run_relays_iff (keys : LwoKeys) {wireguard remote localAddr remoteLocal : SocketAddr}
    (hwg : wireguard ≠ localAddr) (events : List RelayStep) :
    (∀ front, front <+: events → Relays wireguard remote
      (run (step wireguard remote) (started keys remote localAddr remoteLocal) front)) ↔
    Guarded (step wireguard remote) Silent (started keys remote localAddr remoteLocal) events := by
  refine holds_throughout_iff (step wireguard remote) Silent (P := Relays wireguard remote)
    (Q := Wired remote localAddr) (step_wired hwg) (step_relays_iff hwg) events _
    (started_wired keys remote localAddr remoteLocal) ?_
  constructor <;> simp [started]

def exampleRelay : RelayRun :=
  started ⟨Vector.replicate 32 7, Vector.replicate 32 9⟩ ⟨ipv4 203 0 113 5, 51820⟩
    ⟨ipv4 127 0 0 1, 40000⟩ ⟨ipv4 0 0 0 0, 40001⟩

def exampleWireguard : SocketAddr := ⟨ipv4 127 0 0 1, 51820⟩

theorem run_relays_iff_waiting :
    (∀ front, front <+: [.serverSends [4, 0, 0, 0], .sendLoop 5 false, .cancel] →
      Relays exampleWireguard ⟨ipv4 203 0 113 5, 51820⟩
        (run (step exampleWireguard ⟨ipv4 203 0 113 5, 51820⟩) exampleRelay front)) ↔
    Guarded (step exampleWireguard ⟨ipv4 203 0 113 5, 51820⟩) Silent exampleRelay
      [.serverSends [4, 0, 0, 0], .sendLoop 5 false, .cancel] :=
  run_relays_iff _ (by decide) _

/-- A data packet of WireGuard is discarded; one of the remote goes back to the relay. -/
theorem dataPackets_lost :
    ¬ Relays exampleWireguard ⟨ipv4 203 0 113 5, 51820⟩
      (run (step exampleWireguard ⟨ipv4 203 0 113 5, 51820⟩) exampleRelay
        [.wireguardSends (4 :: List.replicate 31 0)]) ∧
    ¬ Relays exampleWireguard ⟨ipv4 203 0 113 5, 51820⟩
      (run (step exampleWireguard ⟨ipv4 203 0 113 5, 51820⟩) exampleRelay
        [.serverSends (4 :: List.replicate 31 0), .recvLoop false]) := by
  constructor
  · intro hrelays
    rcases hrelays.outward rfl 0 _ rfl with ⟨_, hmem⟩ | ⟨_, hmem⟩
    · cases hmem
    · exact absurd hmem (by decide)
  · intro hrelays
    rcases hrelays.inward rfl 0 _ rfl with hmem | ⟨_, hmem⟩
    · exact absurd hmem (by decide)
    · exact absurd hmem (by decide)

end RelayRun
end RouteGuard.Lwo
