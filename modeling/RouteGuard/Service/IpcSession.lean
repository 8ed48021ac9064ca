import RouteGuard.Lib.Framing
import RouteGuard.Lib.GuardedRun
import RouteGuard.Service.Connect

/-! # One connection of the named pipe

`client::call` and `PipeServer::serve_one` of `ipc.rs`.  Both ends write the
length of a JSON text in four bytes and then the text, and read with
`read_exact`; the pipe hands bytes over in pieces of any size. -/
set_option autoImplicit false
namespace RouteGuard

open Framing GuardedRun

/-! ## Envelopes -/

/-- `J` is what a JSON value is. -/
structure IpcRequest (J : Type) where
  jsonrpc : String
  id : Nat
  method : String
  params : J
deriving DecidableEq, Repr

structure IpcResponse (J : Type) where
  jsonrpc : String
  id : Nat
  result : Option J
  error : Option IpcError
deriving DecidableEq, Repr

def IpcRequest.new {J : Type} (id : Nat) (method : String) (params : J) : IpcRequest J :=
  ⟨"2.0", id, method, params⟩

def IpcResponse.ok {J : Type} (id : Nat) (result : J) : IpcResponse J :=
  ⟨"2.0", id, some result, none⟩

/-- `serde_json::to_vec` and `from_slice`.  A number may be read back rounded, and a `null` result
is read back as none; the other fields come back as they were. -/
structure IpcCodec (J : Type) where
  encodeRequest : IpcRequest J → Except String (List UInt8)
  decodeRequest : List UInt8 → Except String (IpcRequest J)
  encodeResponse : IpcResponse J → Except String (List UInt8)
  decodeResponse : List UInt8 → Except String (IpcResponse J)
  rereadParams : J → J
  rereadResult : Option J → Option J
  request : ∀ req text, encodeRequest req = .ok text →
    decodeRequest text = .ok { req with params := rereadParams req.params }
  response : ∀ resp text, encodeResponse resp = .ok text →
    decodeResponse text = .ok { resp with result := rereadResult resp.result }

namespace IpcCodec
variable {J : Type} (codec : IpcCodec J)

def received (req : IpcRequest J) : IpcRequest J :=
  { req with params := codec.rereadParams req.params }

def returned (resp : IpcResponse J) : IpcResponse J :=
  { resp with result := codec.rereadResult resp.result }

end IpcCodec

/-! ## The two ends -/

/-- `(payload.len() as u32).to_le_bytes()` -/
def lengthBytes : Nat := 4

inductive ClientPhase (J : Type) where
  | writing (rest : List UInt8)
  | reading
  | done (result : Except RouteGuardError (IpcResponse J))

inductive ServerPhase (J : Type) where
  | reading
  | handling (req : IpcRequest J)
  | writing (rest : List UInt8)
  | closed (result : Except RouteGuardError Unit)

/-- `up` and `down` are the bytes in the pipe.  For the proofs, `asked` lists the requests handed to
the handler and `answered` those it has answered. -/
structure IpcSession (J : Type) where
  client : ClientPhase J
  server : ServerPhase J := .reading
  clientOpen : Bool := true
  up : List UInt8 := []
  down : List UInt8 := []
  request : Reader := .start lengthBytes
  reply : Reader := .start lengthBytes
  asked : List (IpcRequest J) := []
  answered : List (IpcRequest J × IpcResponse J) := []

/-- A number says how many bytes the pipe takes or gives at once.  A read or a write fails when the
other end is closed; what was written before can still be read. -/
inductive SessionStep (J : Type) where
  | clientWrite (n : Nat)
  | clientRead (n : Nat)
  | clientBroken (text : String)
  | clientClose
  | serverRead (n : Nat)
  | handle (resp : IpcResponse J)
  | serverWrite (n : Nat)
  | serverBroken (text : String)

namespace IpcSession
variable {J : Type}

def start (script : List UInt8) : IpcSession J :=
  { client := if script = [] then .reading else .writing script }

def serverClosed (s : IpcSession J) : Bool :=
  match s.server with
  | .closed _ => true
  | _ => false

def pullRequest (n : Nat) (s : IpcSession J) : IpcSession J :=
  let (request, up) := s.request.pull lengthBytes n s.up
  { s with request := request, up := up }

def pullReply (n : Nat) (s : IpcSession J) : IpcSession J :=
  let (reply, down) := s.reply.pull lengthBytes n s.down
  { s with reply := reply, down := down }

variable (codec : IpcCodec J)

/-- `serde_json::from_slice(&buf)?` and the call of the handler. -/
def serverReceived (s : IpcSession J) : IpcSession J :=
  match s.request with
  | .done _ payload =>
      match codec.decodeRequest payload with
      | .ok req => { s with server := .handling req, asked := s.asked ++ [req] }
      | .error e => { s with server := .closed (.error (.serdeJson e)) }
  | _ => s

def clientReceived (s : IpcSession J) : IpcSession J :=
  match s.reply with
  | .done _ payload =>
      { s with client := .done ((codec.decodeResponse payload).mapError RouteGuardError.serdeJson) }
  | _ => s

def step (s : IpcSession J) : SessionStep J → IpcSession J
  | .clientWrite n =>
      match s.client with
      | .writing rest =>
          if s.serverClosed then s
          else
            { s with
              client := if rest.drop n = [] then .reading else .writing (rest.drop n)
              up := s.up ++ rest.take n }
      | _ => s
  | .clientRead n =>
      match s.client with
      | .reading => clientReceived codec (s.pullReply n)
      | _ => s
  | .clientBroken text =>
      match s.client with
      | .writing _ =>
          if s.serverClosed then { s with client := .done (.error (.io text)) } else s
      | .reading =>
          if s.serverClosed && s.down.isEmpty then { s with client := .done (.error (.io text)) }
          else s
      | .done _ => s
  | .clientClose => { s with clientOpen := false }
  | .serverRead n =>
      match s.server with
      | .reading => serverReceived codec (s.pullRequest n)
      | _ => s
  | .handle resp =>
      match s.server with
      | .handling req =>
          { s with
            server := match codec.encodeResponse resp with
              | .ok payload => .writing (frame lengthBytes payload)
              | .error e => .closed (.error (.serdeJson e))
            answered := s.answered ++ [(req, resp)] }
      | _ => s
  | .serverWrite n =>
      match s.server with
      | .writing rest =>
          if s.clientOpen then
            { s with
              server := if rest.drop n = [] then .closed (.ok ()) else .writing (rest.drop n)
              down := s.down ++ rest.take n }
          else s
      | _ => s
  | .serverBroken text =>
      if s.clientOpen then s
      else
        match s.server with
        | .reading =>
            if s.up.isEmpty then { s with server := .closed (.error (.io text)) } else s
        | .writing _ => { s with server := .closed (.error (.io text)) }
        | _ => s

/-! ## What holds of every connection -/

def told (s : IpcSession J) : List UInt8 := s.reply.consumed ++ s.down

/-- The request that was handed to the handler was read as one frame. -/
def Heard (s : IpcSession J) (req : IpcRequest J) : Prop :=
  ∃ head payload, s.request = .done head payload ∧ codec.decodeRequest payload = .ok req

/-- Where the server stands, and what it has done until then. -/
inductive Stage (s : IpcSession J) : Prop where
  | reading (hserver : s.server = .reading) (hasked : s.asked = []) (hanswered : s.answered = [])
      (htold : s.told = []) (hunread : ∀ head payload, s.request ≠ .done head payload)
  | refused (e : RouteGuardError) (hserver : s.server = .closed (.error e)) (hasked : s.asked = [])
      (hanswered : s.answered = []) (htold : s.told = [])
      (hcause : (∃ head payload e', s.request = .done head payload ∧
        codec.decodeRequest payload = .error e') ∨ s.clientOpen = false)
  | handling (req : IpcRequest J) (hserver : s.server = .handling req) (hasked : s.asked = [req])
      (hanswered : s.answered = []) (htold : s.told = []) (hheard : s.Heard codec req)
  | writing (req : IpcRequest J) (resp : IpcResponse J) (payload rest : List UInt8)
      (hserver : s.server = .writing rest) (hasked : s.asked = [req])
      (hanswered : s.answered = [(req, resp)]) (hpayload : codec.encodeResponse resp = .ok payload)
      (htold : s.told ++ rest = frame lengthBytes payload) (hrest : rest ≠ [])
      (hheard : s.Heard codec req)
  | served (req : IpcRequest J) (resp : IpcResponse J) (payload : List UInt8)
      (hserver : s.server = .closed (.ok ())) (hasked : s.asked = [req])
      (hanswered : s.answered = [(req, resp)]) (hpayload : codec.encodeResponse resp = .ok payload)
      (htold : s.told = frame lengthBytes payload) (hheard : s.Heard codec req)
  | broken (req : IpcRequest J) (resp : IpcResponse J) (payload rest : List UInt8) (text : String)
      (hserver : s.server = .closed (.error (.io text))) (hasked : s.asked = [req])
      (hanswered : s.answered = [(req, resp)]) (hpayload : codec.encodeResponse resp = .ok payload)
      (htold : s.told ++ rest = frame lengthBytes payload) (hheard : s.Heard codec req)
      (hgone : s.clientOpen = false)
  | unencodable (req : IpcRequest J) (resp : IpcResponse J) (e : String)
      (hserver : s.server = .closed (.error (.serdeJson e))) (hasked : s.asked = [req])
      (hanswered : s.answered = [(req, resp)]) (hpayload : codec.encodeResponse resp = .error e)
      (htold : s.told = []) (hheard : s.Heard codec req)

/-- What the client has still to write; after a broken write nothing is known of it. -/
def Unsent (s : IpcSession J) (unsent : List UInt8) : Prop :=
  match s.client with
  | .writing rest => unsent = rest ∧ rest ≠ []
  | .reading => unsent = []
  | .done _ => True

/-- What a client that is done has been told. -/
def Finished (s : IpcSession J) (result : Except RouteGuardError (IpcResponse J)) : Prop :=
  (∃ head payload, s.reply = .done head payload ∧
    result = (codec.decodeResponse payload).mapError RouteGuardError.serdeJson) ∨
  ∃ text, result = .error (.io text)

structure Wired (script : List UInt8) (s : IpcSession J) : Prop where
  requestValid : s.request.Valid lengthBytes
  replyValid : s.reply.Valid lengthBytes
  sent : ∃ unsent, s.request.consumed ++ (s.up ++ unsent) = script ∧ s.Unsent unsent
  stage : s.Stage codec
  finished : ∀ result, s.client = .done result → s.Finished codec result
  replied : ∀ head payload, s.reply = .done head payload → ∃ result, s.client = .done result

section Steps
variable {codec} {script : List UInt8} {s : IpcSession J}

theorem Stage.congr {s' : IpcSession J} (h : s.Stage codec) (hserver : s'.server = s.server)
    (hrequest : s'.request = s.request) (hasked : s'.asked = s.asked)
    (hanswered : s'.answered = s.answered) (htold : s'.told = s.told)
    (hopen : s.clientOpen = false → s'.clientOpen = false) : s'.Stage codec := by
  have hheard : ∀ req, s.Heard codec req → s'.Heard codec req := by
    intro req hreq
    rwa [Heard, hrequest]
  cases h with
  | reading h1 h2 h3 h4 h5 =>
      exact .reading (hserver.trans h1) (hasked.trans h2) (hanswered.trans h3) (htold.trans h4)
        (by rwa [hrequest])
  | refused e h1 h2 h3 h4 h5 =>
      exact .refused e (hserver.trans h1) (hasked.trans h2) (hanswered.trans h3) (htold.trans h4)
        (by rw [hrequest]; exact h5.imp_right hopen)
  | handling req h1 h2 h3 h4 h5 =>
      exact .handling req (hserver.trans h1) (hasked.trans h2) (hanswered.trans h3)
        (htold.trans h4) (hheard req h5)
  | writing req resp payload rest h1 h2 h3 h4 h5 h6 h7 =>
      exact .writing req resp payload rest (hserver.trans h1) (hasked.trans h2)
        (hanswered.trans h3) h4 (by rwa [htold]) h6 (hheard req h7)
  | served req resp payload h1 h2 h3 h4 h5 h6 =>
      exact .served req resp payload (hserver.trans h1) (hasked.trans h2) (hanswered.trans h3) h4
        (htold.trans h5) (hheard req h6)
  | broken req resp payload rest text h1 h2 h3 h4 h5 h6 h7 =>
      exact .broken req resp payload rest text (hserver.trans h1) (hasked.trans h2)
        (hanswered.trans h3) h4 (by rwa [htold]) (hheard req h6) (hopen h7)
  | unencodable req resp e h1 h2 h3 h4 h5 h6 =>
      exact .unencodable req resp e (hserver.trans h1) (hasked.trans h2) (hanswered.trans h3) h4
        (htold.trans h5) (hheard req h6)

theorem clientReceived_cases (codec : IpcCodec J) (s : IpcSession J) :
    (∃ head payload, s.reply = .done head payload ∧ clientReceived codec s = { s with
      client := .done ((codec.decodeResponse payload).mapError RouteGuardError.serdeJson) }) ∨
    (∀ head payload, s.reply ≠ .done head payload) ∧ clientReceived codec s = s := by
  rw [clientReceived]
  cases hreply : s.reply with
  | done head payload => exact Or.inl ⟨head, payload, rfl, rfl⟩
  | header got => exact Or.inr ⟨by simp, rfl⟩
  | body head got => exact Or.inr ⟨by simp, rfl⟩

theorem serverReceived_cases (codec : IpcCodec J) (s : IpcSession J) :
    (∃ head payload req, s.request = .done head payload ∧
      codec.decodeRequest payload = .ok req ∧
      serverReceived codec s = { s with server := .handling req, asked := s.asked ++ [req] }) ∨
    (∃ head payload e, s.request = .done head payload ∧ codec.decodeRequest payload = .error e ∧
      serverReceived codec s = { s with server := .closed (.error (.serdeJson e)) }) ∨
    (∀ head payload, s.request ≠ .done head payload) ∧ serverReceived codec s = s := by
  rw [serverReceived]
  cases hrequest : s.request with
  | done head payload =>
      cases hdecode : codec.decodeRequest payload with
      | ok req => exact Or.inl ⟨head, payload, req, rfl, hdecode, by simp [hdecode]⟩
      | error e => exact Or.inr (Or.inl ⟨head, payload, e, rfl, hdecode, by simp [hdecode]⟩)
  | header got => exact Or.inr (Or.inr ⟨by simp, rfl⟩)
  | body head got => exact Or.inr (Or.inr ⟨by simp, rfl⟩)

variable (h : s.Wired codec script)
include h

theorem clientWrite_wired (n : Nat) : (s.step codec (.clientWrite n)).Wired codec script := by
  rw [step]
  cases hclient : s.client with
  | reading => exact h
  | done result => exact h
  | writing rest =>
      dsimp only
      split
      · exact h
      · obtain ⟨unsent, hscript, hunsent⟩ := h.sent
        rw [Unsent, hclient] at hunsent
        have hnotDone : ∀ head payload, s.reply ≠ .done head payload := by
          intro head payload hdone
          obtain ⟨result, hresult⟩ := h.replied head payload hdone
          rw [hclient] at hresult
          cases hresult
        refine ⟨h.requestValid, h.replyValid, ⟨rest.drop n, ?_, ?_⟩,
          h.stage.congr rfl rfl rfl rfl rfl id, ?_, ?_⟩
        · rw [List.append_assoc, List.take_append_drop, ← hunsent.1, hscript]
        · rw [Unsent]
          by_cases hlast : rest.drop n = []
          · simp [hlast]
          · simp [hlast]
        · intro result hresult
          dsimp only at hresult
          split at hresult <;> cases hresult
        · intro head payload hdone
          exact absurd hdone (hnotDone head payload)

theorem clientRead_wired (n : Nat) : (s.step codec (.clientRead n)).Wired codec script := by
  rw [step]
  cases hclient : s.client with
  | writing rest => exact h
  | done result => exact h
  | reading =>
      dsimp only
      obtain ⟨unsent, hscript, hunsent⟩ := h.sent
      rw [Unsent, hclient] at hunsent
      have htold : (s.pullReply n).told = s.told := Reader.pull_consumed n s.reply s.down
      have hvalid : (s.pullReply n).reply.Valid lengthBytes := Reader.pull_valid h.replyValid
      rcases clientReceived_cases codec (s.pullReply n) with
        ⟨head, payload, hreply, heq⟩ | ⟨hunread, heq⟩
      · rw [heq]
        refine ⟨h.requestValid, hvalid, ⟨unsent, hscript, trivial⟩,
          h.stage.congr rfl rfl rfl rfl htold id, ?_, fun _ _ _ => ⟨_, rfl⟩⟩
        intro result hresult
        cases hresult
        exact Or.inl ⟨head, payload, hreply, rfl⟩
      · rw [heq]
        refine ⟨h.requestValid, hvalid, ⟨unsent, hscript, ?_⟩,
          h.stage.congr rfl rfl rfl rfl htold id, ?_, ?_⟩
        · simpa [Unsent, pullReply, hclient] using hunsent
        · intro result hresult
          exact absurd (hclient.symm.trans hresult) (by simp)
        · intro head payload hdone
          exact absurd hdone (hunread head payload)

theorem clientBroken_wired (text : String) :
    (s.step codec (.clientBroken text)).Wired codec script := by
  have hbroken : Wired codec script { s with client := .done (.error (.io text)) } := by
    obtain ⟨unsent, hscript, -⟩ := h.sent
    refine ⟨h.requestValid, h.replyValid, ⟨unsent, hscript, trivial⟩,
      h.stage.congr rfl rfl rfl rfl rfl id, ?_, fun _ _ _ => ⟨_, rfl⟩⟩
    intro result hresult
    cases hresult
    exact Or.inr ⟨text, rfl⟩
  rw [step]
  cases s.client with
  | writing rest =>
      dsimp only
      split
      · exact hbroken
      · exact h
  | reading =>
      dsimp only
      split
      · exact hbroken
      · exact h
  | done result => exact h

theorem clientClose_wired : (s.step codec .clientClose).Wired codec script :=
  ⟨h.requestValid, h.replyValid, h.sent, h.stage.congr rfl rfl rfl rfl rfl fun _ => rfl, h.finished,
    h.replied⟩

theorem Wired.of_server {s' : IpcSession J} (hvalid : s'.request.Valid lengthBytes)
    (hconsumed : s'.request.consumed ++ s'.up = s.request.consumed ++ s.up)
    (hclient : s'.client = s.client) (hreply : s'.reply = s.reply) (hstage : s'.Stage codec) :
    s'.Wired codec script := by
  obtain ⟨unsent, hscript, hunsent⟩ := h.sent
  refine ⟨hvalid, by rw [hreply]; exact h.replyValid, ⟨unsent, ?_, ?_⟩, hstage, ?_, ?_⟩
  · rw [← List.append_assoc, hconsumed, List.append_assoc, hscript]
  · rwa [Unsent, hclient]
  · intro result hresult
    rw [hclient] at hresult
    rw [Finished, hreply]
    exact h.finished result hresult
  · intro head payload hdone
    rw [hreply] at hdone
    rw [hclient]
    exact h.replied head payload hdone

theorem serverRead_wired (n : Nat) : (s.step codec (.serverRead n)).Wired codec script := by
  rw [step]
  cases h.stage with
  | reading hserver hasked hanswered htold hunread =>
      rw [hserver]
      dsimp only
      have hvalid : (s.pullRequest n).request.Valid lengthBytes := Reader.pull_valid h.requestValid
      have hconsumed : (s.pullRequest n).request.consumed ++ (s.pullRequest n).up =
          s.request.consumed ++ s.up := Reader.pull_consumed n s.request s.up
      rcases serverReceived_cases codec (s.pullRequest n) with
        ⟨head, payload, req, hrequest, hdecode, heq⟩ |
        ⟨head, payload, e, hrequest, hdecode, heq⟩ | ⟨hunread', heq⟩
      · rw [heq]
        refine h.of_server hvalid hconsumed rfl rfl ?_
        refine .handling req rfl ?_ hanswered htold ⟨head, payload, hrequest, hdecode⟩
        show s.asked ++ [req] = [req]
        rw [hasked, List.nil_append]
      · rw [heq]
        exact h.of_server hvalid hconsumed rfl rfl (.refused _ rfl hasked hanswered htold
          (Or.inl ⟨head, payload, e, hrequest, hdecode⟩))
      · rw [heq]
        exact h.of_server hvalid hconsumed rfl rfl
          (.reading hserver hasked hanswered htold hunread')
  | refused e hserver | handling req hserver | writing req resp payload rest hserver
  | served req resp payload hserver | broken req resp payload rest text hserver
  | unencodable req resp e hserver =>
      rw [hserver]
      exact h

theorem handle_wired (resp : IpcResponse J) : (s.step codec (.handle resp)).Wired codec script := by
  rw [step]
  cases h.stage with
  | handling req hserver hasked hanswered htold hheard =>
      rw [hserver]
      dsimp only
      refine h.of_server h.requestValid rfl rfl rfl ?_
      have hlist : s.answered ++ [(req, resp)] = [(req, resp)] := by
        rw [hanswered, List.nil_append]
      cases hpayload : codec.encodeResponse resp with
      | ok payload =>
          refine .writing req resp payload _ rfl hasked hlist hpayload ?_ ?_ hheard
          · show s.told ++ _ = _
            rw [htold, List.nil_append]
          · simp [frame, lengthBytes, LittleEndian.bytes]
      | error e => exact .unencodable req resp e rfl hasked hlist hpayload htold hheard
  | reading hserver | refused e hserver | writing req resp payload rest hserver
  | served req resp payload hserver | broken req resp payload rest text hserver
  | unencodable req resp e hserver =>
      rw [hserver]
      exact h

theorem serverWrite_wired (n : Nat) : (s.step codec (.serverWrite n)).Wired codec script := by
  rw [step]
  cases h.stage with
  | writing req resp payload rest hserver hasked hanswered hpayload htold hrest hheard =>
      rw [hserver]
      dsimp only
      split
      · refine h.of_server h.requestValid rfl rfl rfl ?_
        have htold' : s.reply.consumed ++ (s.down ++ rest.take n) ++ rest.drop n =
            frame lengthBytes payload := by
          rw [← List.append_assoc, List.append_assoc, List.take_append_drop]
          exact htold
        by_cases hlast : rest.drop n = []
        · simp only [hlast, if_true]
          rw [hlast, List.append_nil] at htold'
          exact .served req resp payload rfl hasked hanswered hpayload htold' hheard
        · simp only [hlast, if_false]
          exact .writing req resp payload _ rfl hasked hanswered hpayload htold' hlast hheard
      · exact h
  | reading hserver | refused e hserver | handling req hserver
  | served req resp payload hserver | broken req resp payload rest text hserver
  | unencodable req resp e hserver =>
      rw [hserver]
      exact h

theorem serverBroken_wired (text : String) :
    (s.step codec (.serverBroken text)).Wired codec script := by
  rw [step]
  split
  · exact h
  · rename_i hopen
    rw [Bool.not_eq_true] at hopen
    cases h.stage with
    | reading hserver hasked hanswered htold hunread =>
        rw [hserver]
        dsimp only
        split
        · exact h.of_server h.requestValid rfl rfl rfl
            (.refused _ rfl hasked hanswered htold (Or.inr hopen))
        · exact h
    | writing req resp payload rest hserver hasked hanswered hpayload htold hrest hheard =>
        rw [hserver]
        exact h.of_server h.requestValid rfl rfl rfl
          (.broken req resp payload rest text rfl hasked hanswered hpayload htold hheard hopen)
    | refused e hserver | handling req hserver | served req resp payload hserver
    | broken req resp payload rest text hserver | unencodable req resp e hserver =>
        rw [hserver]
        exact h

end Steps

theorem step_wired (script : List UInt8) (s : IpcSession J) (event : SessionStep J)
    (h : s.Wired codec script) : (s.step codec event).Wired codec script := by
  cases event with
  | clientWrite n => exact clientWrite_wired h n
  | clientRead n => exact clientRead_wired h n
  | clientBroken text => exact clientBroken_wired h text
  | clientClose => exact clientClose_wired h
  | serverRead n => exact serverRead_wired h n
  | handle resp => exact handle_wired h resp
  | serverWrite n => exact serverWrite_wired h n
  | serverBroken text => exact serverBroken_wired h text

theorem start_wired (script : List UInt8) : (start script : IpcSession J).Wired codec script where
  requestValid := Reader.start_valid
  replyValid := Reader.start_valid
  sent := by
    refine ⟨script, rfl, ?_⟩
    rw [Unsent, start]
    by_cases hempty : script = []
    · simp [hempty]
    · simp [hempty]
  stage := .reading rfl rfl rfl rfl fun head payload h => by cases h
  finished := by
    intro result hresult
    rw [start] at hresult
    dsimp only at hresult
    split at hresult <;> cases hresult
  replied := fun head payload h => by cases h

/-! ## Any client -/

/-- The handler is called at most once, and only with what a complete frame at the beginning of the
bytes decodes to. -/
def AskedOnce (script : List UInt8) (s : IpcSession J) : Prop :=
  s.asked = [] ∨ ∃ req head payload rest, s.asked = [req] ∧ script = head ++ (payload ++ rest) ∧
    head.length = lengthBytes ∧ payload.length = LittleEndian.value head ∧
    codec.decodeRequest payload = .ok req

theorem Wired.askedOnce {script : List UInt8} {s : IpcSession J} (h : s.Wired codec script) :
    s.AskedOnce codec script := by
  have hone : ∀ req, s.asked = [req] → s.Heard codec req → s.AskedOnce codec script := by
    intro req hasked hheard
    obtain ⟨head, payload, hrequest, hdecode⟩ := hheard
    obtain ⟨unsent, hscript, -⟩ := h.sent
    have hvalid := h.requestValid
    rw [hrequest] at hvalid hscript
    refine Or.inr ⟨req, head, payload, s.up ++ unsent, hasked, ?_, hvalid.1, hvalid.2, hdecode⟩
    rw [← hscript, Reader.consumed, List.append_assoc]
  cases h.stage with
  | reading _ hasked => exact Or.inl hasked
  | refused _ _ hasked => exact Or.inl hasked
  | handling req _ hasked _ _ hheard => exact hone req hasked hheard
  | writing req _ _ _ _ hasked _ _ _ _ hheard => exact hone req hasked hheard
  | served req _ _ _ hasked _ _ _ hheard => exact hone req hasked hheard
  | broken req _ _ _ _ _ hasked _ _ _ hheard => exact hone req hasked hheard
  | unencodable req _ _ _ hasked _ _ _ hheard => exact hone req hasked hheard

end IpcSession
end RouteGuard
