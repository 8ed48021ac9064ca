import RouteGuard.Core.ScopedAddr
import RouteGuard.Lib.GuardedRun

/-! # Sockets of the DNS proxy

`DnsProxy::start` spawns one task, which awaits `run_dns_socket` for the first
address and only after its return for the second.  The service never calls
`stop`. -/
set_option autoImplicit false
namespace RouteGuard

open GuardedRun

/-! ## The task -/

structure DnsProxyConfig where
  listen : ScopedSocketAddr
  listenV6 : Option ScopedSocketAddr
  upstream : List ScopedSocketAddr
  minTtlSecs : Nat
  maxTtlSecs : Nat
deriving DecidableEq, Repr

structure NetAnswers where
  /-- `UdpSocket::bind`, with the port the system picks for port 0 -/
  bind : Except String UInt16
  /-- `recv_from`; a timeout is no failure -/
  receive : Except String Unit

/-- A call of `run_dns_socket`, which does nothing before it is polled. -/
inductive SocketFuture where
  | unpolled (listen : ScopedSocketAddr)
  | receiving (socket : ScopedSocketAddr)
  | returned
deriving DecidableEq, Repr

def ScopedSocketAddr.bound (picked : UInt16) : ScopedSocketAddr → ScopedSocketAddr
  | .v4 bits port => .v4 bits (if port = 0 then picked else port)
  | .v6 bits port scopeId => .v6 bits (if port = 0 then picked else port) scopeId

namespace SocketFuture

/-- `run_dns_socket` up to its next wait. -/
def poll (running : Bool) (answers : NetAnswers) : SocketFuture → SocketFuture
  | .unpolled listen =>
      match answers.bind with
      | .error _ => .returned
      | .ok picked => .receiving (listen.bound picked)
  | .receiving socket =>
      if !running then .returned
      else
        match answers.receive with
        | .error _ => .returned
        | .ok _ => .receiving socket
  | .returned => .returned

def socket : SocketFuture → Option ScopedSocketAddr
  | .receiving socket => some socket
  | _ => none

end SocketFuture

structure ProxyTask where
  v4 : SocketFuture
  v6 : Option SocketFuture
deriving DecidableEq, Repr

structure DnsProxy where
  config : DnsProxyConfig
  running : Bool := false
  task : Option ProxyTask := none
deriving DecidableEq, Repr

namespace DnsProxy

def start (proxy : DnsProxy) : DnsProxy :=
  if proxy.running then proxy
  else
    { proxy with
      running := true
      task := some ⟨.unpolled proxy.config.listen,
        proxy.config.listenV6.map SocketFuture.unpolled⟩ }

def poll (answers : NetAnswers) (proxy : DnsProxy) : DnsProxy :=
  match proxy.task with
  | none => proxy
  | some ⟨.returned, none⟩ => { proxy with running := false }
  | some ⟨.returned, some .returned⟩ => { proxy with running := false }
  | some ⟨.returned, some v6⟩ =>
      { proxy with task := some ⟨.returned, some (v6.poll proxy.running answers)⟩ }
  | some ⟨v4, v6⟩ => { proxy with task := some ⟨v4.poll proxy.running answers, v6⟩ }

end DnsProxy

/-! ## One socket at a time -/

namespace ProxyTask

def sockets (task : ProxyTask) : List ScopedSocketAddr :=
  task.v4.socket.toList ++ (task.v6.bind SocketFuture.socket).toList

/-- The second call has no socket before the first has returned. -/
def InOrder (task : ProxyTask) : Prop :=
  task.v4 = .returned ∨ task.v6.bind SocketFuture.socket = none

theorem sockets_unique {task : ProxyTask} (h : task.InOrder) :
    ∃ socket : Option ScopedSocketAddr, task.sockets = socket.toList := by
  rcases h with hreturned | hnone
  · refine ⟨task.v6.bind SocketFuture.socket, ?_⟩
    rw [sockets, hreturned]
    rfl
  · refine ⟨task.v4.socket, ?_⟩
    rw [sockets, hnone, Option.toList_none, List.append_nil]

end ProxyTask

namespace DnsProxy

def sockets (proxy : DnsProxy) : List ScopedSocketAddr :=
  (proxy.task.map ProxyTask.sockets).getD []

def InOrder (proxy : DnsProxy) : Prop := ∀ task ∈ proxy.task, task.InOrder

theorem start_inOrder {proxy : DnsProxy} (h : proxy.InOrder) : proxy.start.InOrder := by
  unfold start
  split
  · exact h
  · rintro task ⟨⟩
    right
    cases proxy.config.listenV6 with
    | none => rfl
    | some addr => rfl

theorem poll_inOrder {proxy : DnsProxy} (answers : NetAnswers) (h : proxy.InOrder) :
    (proxy.poll answers).InOrder := by
  unfold poll
  split
  · exact h
  · exact h
  · exact h
  · rintro task ⟨⟩
    exact Or.inl rfl
  · rename_i v4 v6 _ _ _ htask
    rintro task ⟨⟩
    rcases h _ htask with hreturned | hnone
    · left
      have hv4 : v4 = .returned := hreturned
      rw [hv4]
      rfl
    · exact Or.inr hnone

theorem sockets_unique {proxy : DnsProxy} (h : proxy.InOrder) :
    ∃ socket : Option ScopedSocketAddr, proxy.sockets = socket.toList := by
  cases htask : proxy.task with
  | none =>
      refine ⟨none, ?_⟩
      rw [sockets, htask]
      rfl
  | some task =>
      obtain ⟨socket, hsocket⟩ := ProxyTask.sockets_unique (h task htask)
      refine ⟨socket, ?_⟩
      rw [sockets, htask, ← hsocket]
      rfl

end DnsProxy

/-! ## Without a failure -/

def NetAnswers.Work (answers : NetAnswers) : Prop :=
  (∃ picked, answers.bind = .ok picked) ∧ answers.receive = .ok ()

namespace DnsProxy

/-- The first call goes on, and the second has not been polled. -/
def ServesFirst (config : DnsProxyConfig) (proxy : DnsProxy) : Prop :=
  proxy.running = true ∧ ∃ v4, proxy.task = some ⟨v4, config.listenV6.map SocketFuture.unpolled⟩ ∧
    (v4 = .unpolled config.listen ∨ ∃ picked, v4 = .receiving (config.listen.bound picked))

theorem start_servesFirst (config : DnsProxyConfig) :
    (start { config := config }).ServesFirst config := ⟨rfl, _, rfl, Or.inl rfl⟩

theorem poll_servesFirst {config : DnsProxyConfig} {proxy : DnsProxy} {answers : NetAnswers}
    (hwork : answers.Work) (h : proxy.ServesFirst config) :
    (proxy.poll answers).ServesFirst config := by
  obtain ⟨hrunning, v4, htask, hv4⟩ := h
  obtain ⟨⟨port, hbind⟩, hreceive⟩ := hwork
  rcases hv4 with rfl | ⟨picked, rfl⟩
  · refine ⟨?_, .receiving (config.listen.bound port), ?_, Or.inr ⟨port, rfl⟩⟩
    · simp only [poll, htask, hrunning]
    · simp only [poll, htask, SocketFuture.poll, hbind]
  · refine ⟨?_, .receiving (config.listen.bound picked), ?_, Or.inr ⟨picked, rfl⟩⟩
    · simp only [poll, htask, hrunning]
    · simp only [poll, htask, SocketFuture.poll, hrunning, hreceive]
      rfl

/-- The second address is never bound while the network works. -/
theorem run_firstOnly (config : DnsProxyConfig) (polls : List NetAnswers)
    (hwork : ∀ answers ∈ polls, answers.Work) {socket : ScopedSocketAddr}
    (hmem : socket ∈ (run (fun proxy answers => proxy.poll answers)
      (start { config := config }) polls).sockets) :
    ∃ picked, socket = config.listen.bound picked := by
  have hserves : (run (fun proxy answers => proxy.poll answers)
      (start { config := config }) polls).ServesFirst config :=
    run_invariant _ (fun _ answers => answers.Work)
      (fun proxy answers h hanswers => poll_servesFirst hanswers h) polls _
      (start_servesFirst config)
      (guarded_of_forall _ _ (fun answers hanswers _ => hwork answers hanswers) _)
  obtain ⟨_, v4, htask, hv4⟩ := hserves
  have hsecond : (config.listenV6.map SocketFuture.unpolled).bind SocketFuture.socket = none := by
    cases config.listenV6 <;> rfl
  rw [sockets, htask, Option.map_some, Option.getD_some, ProxyTask.sockets, hsecond,
    Option.toList_none, List.append_nil] at hmem
  rcases hv4 with rfl | ⟨picked, rfl⟩
  · cases hmem
  · exact ⟨picked, List.mem_singleton.mp hmem⟩

end DnsProxy

end RouteGuard
