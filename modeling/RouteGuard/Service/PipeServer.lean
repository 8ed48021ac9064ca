import RouteGuard.Service.IpcCall

/-! # The pipe server and its clients

`PipeServer::run` makes an instance of the pipe, serves the client that connects
to it and only then makes the next one; `rpc` of the command line tool is such a
client.  A client that finds no instance cannot connect.  A step of the server
that fails before it serves the client leaves the handle open, or closes it. -/
set_option autoImplicit false
namespace RouteGuard

open Framing GuardedRun

/-! ## Connections -/

/-- The bytes that a client came to write, and its connection. -/
structure PipeClient (J : Type) where
  script : List UInt8
  session : IpcSession J

/-- Where `serve_secure_instance` stands, with the client that has come. -/
inductive ServerPoint (J : Type) where
  /-- in `serve_one`, and when that is over before `create_secure_pipe` -/
  | serving
  | connecting (client : Option (PipeClient J))
  /-- before `from_raw_handle` -/
  | adopting (client : PipeClient J)

/-- `clients` are those that came to `serve_one`.  An instance whose handle `connect_pipe` has left
open can still take a client: `stray` are without one, `stranded` have one that nobody serves.
`handled` lists the answers of the handler with the position of the client, for the proofs. -/
structure PipeServer (J : Type) where
  point : ServerPoint J := .serving
  clients : List (PipeClient J) := []
  handled : List (Nat × IpcRequest J × IpcResponse J) := []
  stray : Nat := 0
  stranded : Nat := 0

/-- `coming` is a step of the client that is not yet served; of the steps of the server any may
fail. -/
inductive ServerStep (J : Type) where
  | create (fails : Bool)
  | connect (script : List UInt8) (stray : Bool)
  | accept (fails : Bool)
  | adopt (fails : Bool)
  | coming (event : SessionStep J)
  | session (i : Nat) (event : SessionStep J)

def SessionStep.ofClient {J : Type} : SessionStep J → Bool
  | .clientWrite _ | .clientRead _ | .clientBroken _ | .clientClose => true
  | _ => false

namespace ServerPoint
variable {J : Type}

def client : ServerPoint J → Option (PipeClient J)
  | serving => none
  | connecting c => c
  | adopting c => some c

def isServing : ServerPoint J → Bool
  | serving => true
  | _ => false

def onClient (f : PipeClient J → PipeClient J) : ServerPoint J → ServerPoint J
  | serving => serving
  | connecting c => connecting (c.map f)
  | adopting c => adopting (f c)

@[simp] theorem client_onClient (f : PipeClient J → PipeClient J) (point : ServerPoint J) :
    (point.onClient f).client = point.client.map f := by cases point <;> rfl

@[simp] theorem isServing_onClient (f : PipeClient J → PipeClient J) (point : ServerPoint J) :
    (point.onClient f).isServing = point.isServing := by cases point <;> rfl

end ServerPoint

namespace PipeServer
variable {J : Type} (codec : IpcCodec J)

def idle (w : PipeServer J) : Bool :=
  w.point.isServing && w.clients.all fun c => c.session.serverClosed

def listening (w : PipeServer J) : Bool :=
  match w.point with
  | .connecting none => true
  | _ => false

def newAnswers (s : IpcSession J) (event : SessionStep J) : List (IpcRequest J × IpcResponse J) :=
  (s.step codec event).answered.drop s.answered.length

/-- `connect_pipe`, which fails with the handle open. -/
def accept (w : PipeServer J) (fails : Bool) : PipeServer J :=
  match w.point, fails with
  | .connecting (some c), false => { w with point := .adopting c }
  | .connecting (some _), true => { w with point := .serving, stranded := w.stranded + 1 }
  | .connecting none, true => { w with point := .serving, stray := w.stray + 1 }
  | _, _ => w

/-- `NamedPipeServer::from_raw_handle`, which closes the handle when it fails. -/
def adopt (w : PipeServer J) (fails : Bool) : PipeServer J :=
  match w.point, fails with
  | .adopting c, false => { w with point := .serving, clients := w.clients ++ [c] }
  | .adopting _, true => { w with point := .serving }
  | _, _ => w

def step (w : PipeServer J) : ServerStep J → PipeServer J
  | .create fails => if w.idle && !fails then { w with point := .connecting none } else w
  | .connect script false =>
      if w.listening then { w with point := .connecting (some ⟨script, .start script⟩) } else w
  | .connect _ true =>
      if 0 < w.stray then { w with stray := w.stray - 1, stranded := w.stranded + 1 } else w
  | .accept fails => w.accept fails
  | .adopt fails => w.adopt fails
  | .coming event =>
      if event.ofClient then
        { w with
          point := w.point.onClient fun c => { c with session := c.session.step codec event } }
      else w
  | .session i event =>
      match w.clients[i]? with
      | none => w
      | some c =>
          { w with
            clients := w.clients.set i { c with session := c.session.step codec event }
            handled := w.handled ++
              (newAnswers codec c.session event).map fun answer => (i, answer.1, answer.2) }

/-! ## One after the other -/

/-- The answers of all connections, in the order in which the clients connected. -/
def inOrder : Nat → List (PipeClient J) → List (Nat × IpcRequest J × IpcResponse J)
  | _, [] => []
  | i, c :: rest =>
      (c.session.answered.map fun answer => (i, answer.1, answer.2)) ++ inOrder (i + 1) rest

/-- All connections but the last are over for the server. -/
def Earlier (w : PipeServer J) : Prop :=
  ∀ i c, w.clients[i]? = some c → i + 1 < w.clients.length → c.session.serverClosed = true

/-- Each connection is as if it were alone, and the handler has answered the clients in the order in
which they connected. -/
structure Serial (w : PipeServer J) : Prop where
  wired : ∀ c ∈ w.clients, c.session.Wired codec c.script
  earlier : w.Earlier
  ordered : w.handled = inOrder 0 w.clients
  coming : ∀ c ∈ w.point.client, c.session.Wired codec c.script ∧ c.session.answered = []
  ended : w.point.isServing = false → ∀ c ∈ w.clients, c.session.serverClosed = true

/-- What a reader of the log can rely on: a client is asked for at most once and with its own
frame. -/
structure OneByOne (w : PipeServer J) : Prop where
  askedOnce : ∀ c ∈ w.clients, c.session.AskedOnce codec c.script
  earlier : w.Earlier
  ordered : w.handled = inOrder 0 w.clients

section Closed
variable (s : IpcSession J)

theorem serverClosed_iff : s.serverClosed = true ↔ ∃ result, s.server = .closed result := by
  rw [IpcSession.serverClosed]
  cases s.server with
  | closed result => exact ⟨fun _ => ⟨result, rfl⟩, fun _ => rfl⟩
  | reading | handling _ | writing _ =>
      refine ⟨?_, ?_⟩
      · intro h
        cases h
      · rintro ⟨_, h⟩
        cases h

theorem step_server_of_closed (event : SessionStep J) (h : s.serverClosed = true) :
    (s.step codec event).server = s.server := by
  obtain ⟨result, hserver⟩ := (serverClosed_iff s).mp h
  cases event with
  | clientRead n =>
      rw [IpcSession.step]
      cases s.client with
      | writing _ | done _ => rfl
      | reading =>
          dsimp only
          rcases IpcSession.clientReceived_cases codec (s.pullReply n) with
            ⟨_, _, _, heq⟩ | ⟨_, heq⟩ <;> rw [heq] <;> rfl
  | clientWrite n | clientBroken text | clientClose =>
      rw [IpcSession.step]
      repeat' split
      all_goals rfl
  | serverRead n | handle resp | serverWrite n => rw [IpcSession.step, hserver, hserver]
  | serverBroken text =>
      rw [IpcSession.step]
      split
      · rfl
      · rw [hserver, hserver]

theorem step_serverClosed (event : SessionStep J) (h : s.serverClosed = true) :
    (s.step codec event).serverClosed = true := by
  rw [IpcSession.serverClosed, step_server_of_closed codec s event h]
  exact h

theorem newAnswers_of_closed (event : SessionStep J) (h : s.serverClosed = true) :
    newAnswers codec s event = [] := by
  rw [newAnswers]
  rcases IpcSession.step_answered codec s event with hsame | ⟨req, resp, rfl, _⟩
  · rw [hsame, List.drop_length]
  · obtain ⟨result, hserver⟩ := (serverClosed_iff s).mp h
    rw [IpcSession.step, hserver, List.drop_length]

theorem answered_append (event : SessionStep J) :
    (s.step codec event).answered = s.answered ++ newAnswers codec s event := by
  rw [newAnswers]
  rcases IpcSession.step_answered codec s event with hsame | ⟨req, resp, _, hmore⟩
  · rw [hsame, List.drop_length, List.append_nil]
  · rw [hmore, List.drop_left]

end Closed

section Order

theorem inOrder_append (first second : List (PipeClient J)) (k : Nat) :
    inOrder k (first ++ second) = inOrder k first ++ inOrder (k + first.length) second := by
  induction first generalizing k with
  | nil => rfl
  | cons c rest ih =>
      rw [List.cons_append, inOrder, inOrder, ih, List.append_assoc, List.length_cons,
        Nat.add_right_comm, Nat.add_assoc]

theorem inOrder_set {extra : List (IpcRequest J × IpcResponse J)} {c d : PipeClient J}
    (hadd : d.session.answered = c.session.answered ++ extra) (clients : List (PipeClient J))
    (k i : Nat) (hget : clients[i]? = some c) (hlast : extra = [] ∨ i + 1 = clients.length) :
    inOrder k (clients.set i d) =
      inOrder k clients ++ extra.map fun answer => (k + i, answer.1, answer.2) := by
  induction clients generalizing k i with
  | nil => cases hget
  | cons head rest ih =>
      cases i with
      | zero =>
          cases hget
          rw [List.set_cons_zero, inOrder, inOrder, hadd, List.map_append]
          rcases hlast with rfl | hlast
          · simp only [List.map_nil, List.append_nil]
          · have hrest : rest = [] := List.length_eq_zero_iff.mp (Nat.succ.inj hlast).symm
            rw [hrest, inOrder, List.append_nil, List.append_nil, Nat.add_zero]
      | succ i =>
          rw [List.set_cons_succ, inOrder, inOrder, List.append_assoc]
          rw [ih (k + 1) i hget (hlast.imp_right Nat.succ.inj), Nat.add_right_comm, Nat.add_assoc]

end Order

section Steps
variable {codec} {w : PipeServer J}

theorem Serial.withPoint (h : w.Serial codec) {point : ServerPoint J} {stray stranded : Nat}
    (hcoming : ∀ c ∈ point.client, c.session.Wired codec c.script ∧ c.session.answered = [])
    (hended : point.isServing = false → ∀ c ∈ w.clients, c.session.serverClosed = true) :
    Serial codec { w with point := point, stray := stray, stranded := stranded } :=
  ⟨h.wired, h.earlier, h.ordered, hcoming, hended⟩

theorem Serial.toServing (h : w.Serial codec) (stray stranded : Nat) :
    Serial codec { w with point := .serving, stray := stray, stranded := stranded } :=
  h.withPoint (fun c hmem => absurd hmem (Option.not_mem_none c)) fun hserving => by cases hserving

theorem create_serial (h : w.Serial codec) (fails : Bool) :
    (w.step codec (.create fails)).Serial codec := by
  rw [step]
  split
  · rename_i hidle
    refine h.withPoint (fun c hmem => absurd hmem (Option.not_mem_none c)) fun _ => ?_
    exact List.all_eq_true.mp (Bool.and_eq_true_iff.mp (Bool.and_eq_true_iff.mp hidle).1).2
  · exact h

theorem over_of_listening (h : w.Serial codec) (hlistening : w.listening = true) :
    ∀ c ∈ w.clients, c.session.serverClosed = true := by
  apply h.ended
  rw [listening] at hlistening
  split at hlistening
  · rename_i hpoint
    rw [hpoint]
    rfl
  · cases hlistening

theorem connect_serial (h : w.Serial codec) (script : List UInt8) (stray : Bool) :
    (w.step codec (.connect script stray)).Serial codec := by
  cases stray with
  | false =>
      rw [step]
      split
      · rename_i hlistening
        refine h.withPoint ?_ fun _ => over_of_listening h hlistening
        intro c hmem
        cases hmem
        exact ⟨IpcSession.start_wired codec script, rfl⟩
      · exact h
  | true =>
      rw [step]
      split
      · exact h.withPoint h.coming h.ended
      · exact h

theorem accept_serial (h : w.Serial codec) (fails : Bool) :
    (w.step codec (.accept fails)).Serial codec := by
  rw [step]
  unfold accept
  split
  · rename_i c hpoint
    have hcoming := h.coming
    have hended := h.ended
    rw [hpoint] at hcoming hended
    exact h.withPoint hcoming hended
  · exact h.toServing _ _
  · exact h.toServing _ _
  · exact h

theorem adopt_serial (h : w.Serial codec) (fails : Bool) :
    (w.step codec (.adopt fails)).Serial codec := by
  rw [step]
  unfold adopt
  split
  · rename_i c hpoint
    have hcoming := h.coming
    have hended := h.ended
    rw [hpoint] at hcoming hended
    obtain ⟨hwired, hanswered⟩ := hcoming c rfl
    refine ⟨?_, ?_, ?_, fun d hmem => absurd hmem (Option.not_mem_none d), ?_⟩
    · intro d hmem
      rcases List.mem_append.mp hmem with hold | hnew
      · exact h.wired d hold
      · rw [List.mem_singleton.mp hnew]
        exact hwired
    · intro i d hget hlt
      have hlt' : i < w.clients.length := by
        simp only [List.length_append, List.length_singleton] at hlt
        omega
      rw [List.getElem?_append_left hlt'] at hget
      exact hended rfl d (List.mem_of_getElem? hget)
    · rw [inOrder_append, ← h.ordered, inOrder, inOrder, hanswered]
      exact (List.append_nil _).symm
    · intro hserving
      cases hserving
  · exact h.toServing _ _
  · exact h

theorem coming_serial (h : w.Serial codec) (event : SessionStep J) :
    (w.step codec (.coming event)).Serial codec := by
  rw [step]
  split
  · rename_i hclient
    refine h.withPoint ?_ ?_
    · intro d hmem
      rw [ServerPoint.client_onClient] at hmem
      obtain ⟨c, hc, rfl⟩ := Option.map_eq_some_iff.mp hmem
      obtain ⟨hwired, hanswered⟩ := h.coming c hc
      refine ⟨IpcSession.step_wired codec c.script c.session event hwired, ?_⟩
      rcases IpcSession.step_answered codec c.session event with hsame | ⟨_, _, rfl, _⟩
      · rw [hsame, hanswered]
      · cases hclient
    · rw [ServerPoint.isServing_onClient]
      exact h.ended
  · exact h

theorem session_serial (h : w.Serial codec) (i : Nat) (event : SessionStep J) :
    (w.step codec (.session i event)).Serial codec := by
  rw [step]
  cases hget : w.clients[i]? with
  | none => exact h
  | some c =>
      have hwired := h.wired c (List.mem_of_getElem? hget)
      refine ⟨?_, ?_, ?_, h.coming, ?_⟩
      · intro d hmem
        rcases List.mem_or_eq_of_mem_set hmem with hold | rfl
        · exact h.wired d hold
        · exact IpcSession.step_wired codec c.script c.session event hwired
      · intro j d hd hlt
        rw [List.length_set] at hlt
        rw [List.getElem?_set] at hd
        split at hd
        · rename_i hij
          subst hij
          split at hd
          · cases hd
            exact step_serverClosed codec c.session event (h.earlier i c hget hlt)
          · cases hd
        · exact h.earlier j d hd hlt
      · have hlast : newAnswers codec c.session event = [] ∨ i + 1 = w.clients.length := by
          by_cases hend : i + 1 = w.clients.length
          · exact Or.inr hend
          · have hi := (List.getElem?_eq_some_iff.mp hget).1
            exact Or.inl (newAnswers_of_closed codec c.session event
              (h.earlier i c hget (by omega)))
        have hset := inOrder_set (d := { c with session := c.session.step codec event })
          (answered_append codec c.session event) w.clients 0 i hget hlast
        rw [hset, h.ordered]
        simp only [Nat.zero_add]
      · intro hserving d hmem
        rcases List.mem_or_eq_of_mem_set hmem with hold | rfl
        · exact h.ended hserving d hold
        · exact step_serverClosed codec c.session event
            (h.ended hserving c (List.mem_of_getElem? hget))

end Steps

theorem step_serial (w : PipeServer J) (event : ServerStep J) (h : w.Serial codec) :
    (w.step codec event).Serial codec := by
  cases event with
  | create fails => exact create_serial h fails
  | connect script stray => exact connect_serial h script stray
  | accept fails => exact accept_serial h fails
  | adopt fails => exact adopt_serial h fails
  | coming event => exact coming_serial h event
  | session i event => exact session_serial h i event

theorem run_serial (events : List (ServerStep J)) :
    (run (step codec) ({} : PipeServer J) events).Serial codec := by
  refine run_keeps (step codec) (step_serial codec) events _ ⟨?_, ?_, rfl, ?_, ?_⟩
  · intro c hmem
    cases hmem
  · intro i c hget
    cases hget
  · intro c hmem
    cases hmem
  · intro hserving
    cases hserving

/-- However the clients and the server take turns, and whatever fails on the way to a client. -/
theorem run_oneByOne (events : List (ServerStep J)) :
    (run (step codec) ({} : PipeServer J) events).OneByOne codec := by
  have h := run_serial codec events
  exact ⟨fun c hmem => (h.wired c hmem).askedOnce, h.earlier, h.ordered⟩

/-! ## A client that says nothing -/

/-- `serve_one` waits for bytes that the client has not written, and the client holds the pipe. -/
structure Silent (s : IpcSession J) : Prop where
  reading : s.server = .reading
  up : s.up = []
  isOpen : s.clientOpen = true

def StaysSilent (i : Nat) (_ : PipeServer J) : ServerStep J → Prop
  | .session j (.clientWrite _) => j ≠ i
  | .session j .clientClose => j ≠ i
  | _ => True

/-- What the others find while client `i` is silent: only instances that were lost before. -/
structure Held (i lost : Nat) (handled : List (Nat × IpcRequest J × IpcResponse J))
    (w : PipeServer J) : Prop where
  serial : w.Serial codec
  last : w.clients.length = i + 1
  silent : ∃ c, w.clients[i]? = some c ∧ Silent c.session
  handled : w.handled = handled
  lost : w.stray + w.stranded = lost

section Blocked
variable {codec}

theorem silent_step {script : List UInt8} {s : IpcSession J} (hwired : s.Wired codec script)
    (h : Silent s) (event : SessionStep J) (hwrite : ∀ n, event ≠ .clientWrite n)
    (hclose : event ≠ .clientClose) :
    Silent (s.step codec event) ∧ newAnswers codec s event = [] := by
  have hunread : ∀ head payload, s.request ≠ .done head payload := by
    cases hwired.stage with
    | reading _ _ _ _ hunread => exact hunread
    | refused _ hserver | handling _ hserver | writing _ _ _ _ hserver | served _ _ _ hserver
    | broken _ _ _ _ _ hserver | unencodable _ _ _ hserver =>
        rw [h.reading] at hserver
        cases hserver
  have hsame : s.step codec event = s → Silent (s.step codec event) ∧
      newAnswers codec s event = [] := by
    intro heq
    refine ⟨by rw [heq]; exact h, ?_⟩
    rw [newAnswers, heq, List.drop_length]
  cases event with
  | clientWrite n => exact absurd rfl (hwrite n)
  | clientClose => exact absurd rfl hclose
  | serverBroken text => exact hsame (by rw [IpcSession.step, if_pos h.isOpen])
  | handle resp | serverWrite n => exact hsame (by rw [IpcSession.step, h.reading])
  | clientBroken text =>
      have hopen : s.serverClosed = false := by rw [IpcSession.serverClosed, h.reading]
      refine hsame ?_
      rw [IpcSession.step]
      cases s.client with
      | writing _ | reading => simp [hopen]
      | done _ => rfl
  | serverRead n =>
      refine hsame ?_
      have hpull : s.pullRequest n = s := by
        rcases IpcSession.pullRequest_cases n s with hsame | hless
        · exact hsame
        · rw [h.up] at hless
          exact absurd hless (Nat.not_lt_zero _)
      rw [IpcSession.step, h.reading]
      dsimp only
      rw [hpull]
      rcases IpcSession.serverReceived_cases codec s with
        ⟨head, payload, _, hdone, _⟩ | ⟨head, payload, _, hdone, _⟩ | ⟨_, heq⟩
      · exact absurd hdone (hunread head payload)
      · exact absurd hdone (hunread head payload)
      · exact heq
  | clientRead n =>
      rw [newAnswers, IpcSession.step]
      cases s.client with
      | writing _ | done _ => exact ⟨h, List.drop_length⟩
      | reading =>
          dsimp only
          rcases IpcSession.clientReceived_cases codec (s.pullReply n) with
            ⟨_, _, _, heq⟩ | ⟨_, heq⟩
          · rw [heq]
            exact ⟨⟨h.reading, h.up, h.isOpen⟩, List.drop_length⟩
          · rw [heq]
            exact ⟨⟨h.reading, h.up, h.isOpen⟩, List.drop_length⟩

variable {i lost : Nat} {handled : List (Nat × IpcRequest J × IpcResponse J)} {w : PipeServer J}

theorem Held.serving (h : Held codec i lost handled w) :
    w.point = .serving ∧ w.idle = false := by
  obtain ⟨c, hget, hsilent⟩ := h.silent
  have hmem := List.mem_of_getElem? hget
  have hopen : c.session.serverClosed = false := by
    rw [IpcSession.serverClosed, hsilent.reading]
  constructor
  · cases hpoint : w.point with
    | serving => rfl
    | connecting client | adopting client =>
        have hended := h.serial.ended
        rw [hpoint] at hended
        cases hopen.symm.trans (hended rfl c hmem)
  · rw [idle, Bool.and_eq_false_iff]
    refine Or.inr (List.all_eq_false.mpr ⟨c, hmem, ?_⟩)
    rw [hopen]
    exact Bool.false_ne_true

theorem session_held (h : Held codec i lost handled w) {j : Nat} {event : SessionStep J}
    (hguard : StaysSilent i w (.session j event)) :
    Held codec i lost handled (w.step codec (.session j event)) := by
  have hserial := step_serial codec w (.session j event) h.serial
  have hlast := h.last
  obtain ⟨c, hget, hsilent⟩ := h.silent
  rw [step] at hserial ⊢
  cases hj : w.clients[j]? with
  | none => exact h
  | some d =>
      rw [hj] at hserial
      have hlength : (w.clients.set j { d with session := d.session.step codec event }).length =
          i + 1 := by rw [List.length_set, hlast]
      by_cases hij : j = i
      · subst hij
        have hcd : d = c := Option.some.inj (hj.symm.trans hget)
        subst hcd
        have hmem := List.mem_of_getElem? hget
        obtain ⟨hstill, hnone⟩ := silent_step (h.serial.wired d hmem) hsilent event
          (by rintro n rfl; exact hguard rfl) (by rintro rfl; exact hguard rfl)
        refine ⟨hserial, hlength, ⟨_, List.getElem?_set_self (by omega), hstill⟩, ?_, h.lost⟩
        dsimp only
        rw [hnone, List.map_nil, List.append_nil, h.handled]
      · have hlt := (List.getElem?_eq_some_iff.mp hj).1
        have hclosed := h.serial.earlier j d hj (by omega)
        refine ⟨hserial, hlength, ⟨c, ?_, hsilent⟩, ?_, h.lost⟩
        · rw [List.getElem?_set_ne hij, hget]
        · dsimp only
          rw [newAnswers_of_closed codec d.session event hclosed, List.map_nil, List.append_nil,
            h.handled]

theorem step_held (w : PipeServer J) (event : ServerStep J) (h : Held codec i lost handled w)
    (hguard : StaysSilent i w event) : Held codec i lost handled (w.step codec event) := by
  have hserial := step_serial codec w event h.serial
  have hlast := h.last
  obtain ⟨hpoint, hidle⟩ := h.serving
  obtain ⟨c, hget, hsilent⟩ := h.silent
  cases event with
  | create fails =>
      rw [step, hidle, Bool.false_and, if_neg Bool.false_ne_true]
      exact h
  | connect script stray =>
      cases stray with
      | false =>
          rw [step, listening, hpoint, if_neg Bool.false_ne_true]
          exact h
      | true =>
          rw [step] at hserial ⊢
          split at hserial
          · rename_i hstray
            have hlost := h.lost
            rw [if_pos hstray]
            exact ⟨hserial, hlast, ⟨c, hget, hsilent⟩, h.handled, by dsimp only; omega⟩
          · rename_i hnone
            rw [if_neg hnone]
            exact h
  | accept fails =>
      have hsame : w.accept fails = w := by
        unfold accept
        rw [hpoint]
      rw [step, hsame]
      exact h
  | adopt fails =>
      have hsame : w.adopt fails = w := by
        unfold adopt
        rw [hpoint]
      rw [step, hsame]
      exact h
  | coming event =>
      rw [step] at hserial ⊢
      split at hserial
      · rename_i hclient
        rw [if_pos hclient]
        exact ⟨hserial, hlast, ⟨c, hget, hsilent⟩, h.handled, h.lost⟩
      · rename_i hserver
        rw [if_neg hserver]
        exact h
  | session j event => exact session_held h hguard

def releaseSteps (i : Nat) (text : String) : List (ServerStep J) :=
  [.session i .clientClose, .session i (.serverBroken text), .create false]

theorem Held.released (h : Held codec i lost handled w) (text : String) :
    (run (step codec) w (releaseSteps i text)).listening = true := by
  obtain ⟨hpoint, -⟩ := h.serving
  obtain ⟨c, hget, hsilent⟩ := h.silent
  have hlast := h.last
  have hlt : i < w.clients.length := by omega
  have hclose : w.step codec (.session i .clientClose) = { w with
      clients := w.clients.set i { c with session := { c.session with clientOpen := false } }
      handled := (w.step codec (.session i .clientClose)).handled } := by
    rw [step, hget]
    rfl
  have hidle : ((w.step codec (.session i .clientClose)).step codec
      (.session i (.serverBroken text))).idle = true := by
    rw [hclose, step, List.getElem?_set_self hlt, idle, hpoint]
    refine List.all_eq_true.mpr fun d hmem => ?_
    dsimp only at hmem
    obtain ⟨j, hj⟩ := List.mem_iff_getElem?.mp hmem
    rw [List.set_set, List.getElem?_set] at hj
    split at hj
    · cases hj
      simp [IpcSession.step, IpcSession.serverClosed, hsilent.reading, hsilent.up]
    · rename_i hij
      have hjlt := (List.getElem?_eq_some_iff.mp hj).1
      exact h.serial.earlier j d hj (by omega)
  rw [releaseSteps, run_cons, run_cons, run_cons, run_nil, step, hidle]
  rfl

end Blocked

/-- A client that the server has taken up and that says nothing keeps everybody else from being
served for as long as it likes: no instance is made, nobody is taken up and nothing is handled.  Who
still connects finds an instance that was lost before. -/
theorem run_blocked (events rest : List (ServerStep J)) (i : Nat) (c : PipeClient J)
    (hget : (run (step codec) {} events).clients[i]? = some c) (hsilent : Silent c.session)
    (hguard : Guarded (step codec) (StaysSilent i) (run (step codec) {} events) rest) :
    let w := run (step codec) {} events
    let w' := run (step codec) w rest
    w'.point = .serving ∧ w'.clients.length = w.clients.length ∧ w'.handled = w.handled ∧
      w'.stray + w'.stranded = w.stray + w.stranded ∧
      ∀ text, (run (step codec) w' (releaseSteps i text)).listening = true := by
  intro w w'
  have hserial : w.Serial codec := run_serial codec events
  have hlast : w.clients.length = i + 1 := by
    have hlt : i < w.clients.length := (List.getElem?_eq_some_iff.mp hget).1
    by_contra hmore
    obtain ⟨result, hserver⟩ := (serverClosed_iff c.session).mp
      (hserial.earlier i c hget (by omega))
    rw [hsilent.reading] at hserver
    cases hserver
  have hheld : Held codec i (w.stray + w.stranded) w.handled w' :=
    run_invariant (step codec) (StaysSilent i) (P := Held codec i (w.stray + w.stranded) w.handled)
      (fun w event h hguard => step_held w event h hguard) rest w
      ⟨hserial, hlast, ⟨c, hget, hsilent⟩, rfl, rfl⟩ hguard
  exact ⟨hheld.serving.1, by rw [hheld.last, hlast], hheld.handled, hheld.lost, hheld.released⟩

def takeUp (script : List UInt8) : List (ServerStep J) :=
  [.create false, .connect script false, .accept false, .adopt false]

theorem run_blocked_connect :
    let w := run (step pingCodec) {} (takeUp [])
    let w' := run (step pingCodec) w [.create false, .connect pingRequestText false]
    w'.point = .serving ∧ w'.clients.length = w.clients.length ∧ w'.handled = w.handled ∧
      w'.stray + w'.stranded = w.stray + w.stranded ∧
      ∀ text, (run (step pingCodec) w' (releaseSteps 0 text)).listening = true :=
  run_blocked pingCodec (takeUp []) [.create false, .connect pingRequestText false] 0
    ⟨[], .start []⟩ rfl ⟨rfl, rfl, rfl⟩ ⟨trivial, trivial, trivial⟩

/-! ## A client among others -/

section OwnAnswer
variable {codec} {req : IpcRequest J} {payload : List UInt8} {i : Nat} {w : PipeServer J}
  (hencode : codec.encodeRequest req = .ok payload) (hfits : IpcSession.FitsFrame payload)

/-- If client `i` calls, its connection is a call under way, also before the server takes it up. -/
structure CallingAt (codec : IpcCodec J) (payload : List UInt8) (i : Nat) (w : PipeServer J) :
    Prop where
  served : ∀ c, w.clients[i]? = some c → c.script = frame lengthBytes payload →
    c.session.Calling codec payload
  coming : w.clients.length = i → ∀ c ∈ w.point.client, c.script = frame lengthBytes payload →
    c.session.Calling codec payload

theorem CallingAt.withPoint (h : w.CallingAt codec payload i) {point : ServerPoint J}
    (stray stranded : Nat) (hsub : ∀ c ∈ point.client, c ∈ w.point.client) :
    CallingAt codec payload i { w with point := point, stray := stray, stranded := stranded } :=
  ⟨h.served, fun hlength c hmem => h.coming hlength c (hsub c hmem)⟩

include hencode hfits

end OwnAnswer

end PipeServer
end RouteGuard
