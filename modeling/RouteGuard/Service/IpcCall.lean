import RouteGuard.Service.IpcSession

/-! # A client that calls

`client::call` writes the frame of one request and waits for the frame of one
response.  While the client stays, it is given the handler's response to its own
request, and the connection comes to no other end. -/
set_option autoImplicit false
namespace RouteGuard

open Framing GuardedRun

namespace IpcSession
variable {J : Type} (codec : IpcCodec J)

/-- The text fits the four bytes of its length. -/
def FitsFrame (payload : List UInt8) : Prop := payload.length < 256 ^ lengthBytes

/-- The client stays, and the handler's response can be written. -/
def Calls (_ : IpcSession J) : SessionStep J → Prop
  | .clientClose => False
  | .handle resp => ∃ payload, codec.encodeResponse resp = .ok payload ∧ FitsFrame payload
  | _ => True

/-- The handler was given the client's own request, and the client has got what the handler said to
it or nothing. -/
structure OwnAnswer (req : IpcRequest J) (s : IpcSession J) : Prop where
  asked : s.asked = [] ∨ s.asked = [codec.received req]
  answered : ∀ result, s.client = .done result → ∃ resp,
    s.answered = [(codec.received req, resp)] ∧ result = .ok (codec.returned resp)

structure Calling (payload : List UInt8) (s : IpcSession J) : Prop where
  wired : s.Wired codec (frame lengthBytes payload)
  isOpen : s.clientOpen = true
  fits : ∀ pair ∈ s.answered, ∃ text, codec.encodeResponse pair.2 = .ok text ∧ FitsFrame text
  alive : ∀ text, s.client ≠ .done (.error (.io text))

section Call
variable {codec} {req : IpcRequest J} {payload : List UInt8} {s : IpcSession J}

/-- What the handler was given is the request, and nothing is left in the pipe. -/
theorem Wired.heard (h : s.Wired codec (frame lengthBytes payload))
    (hencode : codec.encodeRequest req = .ok payload) (hfits : FitsFrame payload)
    {req' : IpcRequest J} (hheard : s.Heard codec req') :
    req' = codec.received req ∧ s.up = [] ∧ s.Unsent [] := by
  obtain ⟨head, payload', hrequest, hdecode⟩ := hheard
  obtain ⟨unsent, hscript, hunsent⟩ := h.sent
  have hvalid := h.requestValid
  rw [hrequest] at hvalid hscript
  rw [← List.append_nil (frame _ _)] at hscript
  obtain ⟨hpayload, hrest⟩ := Reader.done_of_frame hvalid hfits hscript
  obtain ⟨hup, hnone⟩ := List.append_eq_nil_iff.mp hrest
  rw [hpayload, codec.request req payload hencode] at hdecode
  rw [hnone] at hunsent
  exact ⟨(Except.ok.inj hdecode).symm, hup, hunsent⟩

/-- A reply that was read in full is the response that was written. -/
theorem Wired.told_done {script : List UInt8} (h : s.Wired codec script) {head payload' text rest :
    List UInt8} (hreply : s.reply = .done head payload')
    (hfits : FitsFrame text) (htold : s.told ++ rest = frame lengthBytes text) :
    payload' = text := by
  have hvalid := h.replyValid
  rw [hreply] at hvalid
  rw [told, hreply, List.append_assoc, ← List.append_nil (frame _ _)] at htold
  exact (Reader.done_of_frame hvalid hfits htold).1

theorem Wired.not_done_of_told {script : List UInt8} (h : s.Wired codec script)
    (htold : s.told = []) (head payload' : List UInt8) : s.reply ≠ .done head payload' := by
  intro hreply
  have hvalid := h.replyValid
  rw [hreply] at hvalid
  rw [told, hreply, Reader.consumed, List.append_assoc] at htold
  have hhead := hvalid.1
  rw [(List.append_eq_nil_iff.mp htold).1] at hhead
  cases hhead

theorem Calling.response (h : s.Calling codec payload)
    (hencode : codec.encodeRequest req = .ok payload) (hfits : FitsFrame payload)
    {head payload' : List UInt8} (hreply : s.reply = .done head payload') :
    ∃ resp, s.answered = [(codec.received req, resp)] ∧
      codec.decodeResponse payload' = .ok (codec.returned resp) := by
  have hanswer : ∀ req' resp text rest, s.answered = [(req', resp)] →
      codec.encodeResponse resp = .ok text → s.told ++ rest = frame lengthBytes text →
      s.Heard codec req' → ∃ resp, s.answered = [(codec.received req, resp)] ∧
        codec.decodeResponse payload' = .ok (codec.returned resp) := by
    intro req' resp text rest hanswered htext htold hheard
    obtain ⟨text', htext', hshort⟩ :=
      h.fits (req', resp) (by rw [hanswered]; exact List.mem_cons_self)
    have hsame : text' = text := Except.ok.inj (htext'.symm.trans htext)
    rw [hsame] at hshort
    refine ⟨resp, ?_, ?_⟩
    · rw [hanswered, (h.wired.heard hencode hfits hheard).1]
    · rw [h.wired.told_done hreply hshort htold]
      exact codec.response resp text htext
  cases h.wired.stage with
  | reading _ _ _ htold => exact absurd hreply (h.wired.not_done_of_told htold _ _)
  | refused _ _ _ _ htold => exact absurd hreply (h.wired.not_done_of_told htold _ _)
  | handling _ _ _ _ htold => exact absurd hreply (h.wired.not_done_of_told htold _ _)
  | unencodable _ _ _ _ _ _ _ htold => exact absurd hreply (h.wired.not_done_of_told htold _ _)
  | writing req' resp text rest _ _ hanswered htext htold _ hheard =>
      exact hanswer req' resp text rest hanswered htext htold hheard
  | served req' resp text _ _ hanswered htext htold hheard =>
      exact hanswer req' resp text [] hanswered htext (by rw [List.append_nil, htold]) hheard
  | broken req' resp text rest _ _ _ hanswered htext htold hheard =>
      exact hanswer req' resp text rest hanswered htext htold hheard

/-- While the client stays, the server closes only after it has written the whole response. -/
theorem Calling.closed (h : s.Calling codec payload)
    (hencode : codec.encodeRequest req = .ok payload) (hfits : FitsFrame payload)
    (hclosed : s.serverClosed = true) :
    ∃ text, s.told = frame lengthBytes text ∧ FitsFrame text ∧ s.Unsent [] ∧
      s.server = .closed (.ok ()) := by
  cases h.wired.stage with
  | reading hserver => rw [serverClosed, hserver] at hclosed; cases hclosed
  | handling _ hserver => rw [serverClosed, hserver] at hclosed; cases hclosed
  | writing _ _ _ _ hserver => rw [serverClosed, hserver] at hclosed; cases hclosed
  | refused e hserver _ _ _ hcause =>
      rcases hcause with ⟨head, payload', e', hrequest, hdecode⟩ | hgone
      · obtain ⟨unsent, hscript, -⟩ := h.wired.sent
        have hvalid := h.wired.requestValid
        rw [hrequest] at hvalid hscript
        rw [← List.append_nil (frame _ _)] at hscript
        rw [(Reader.done_of_frame hvalid hfits hscript).1, codec.request req payload hencode]
          at hdecode
        cases hdecode
      · rw [h.isOpen] at hgone
        cases hgone
  | served req' resp text hserver _ hanswered htext htold hheard =>
      obtain ⟨text', htext', hshort⟩ :=
        h.fits (req', resp) (by rw [hanswered]; exact List.mem_cons_self)
      have hsame : text' = text := Except.ok.inj (htext'.symm.trans htext)
      rw [hsame] at hshort
      exact ⟨text, htold, hshort, (h.wired.heard hencode hfits hheard).2.2, hserver⟩
  | broken _ _ _ _ _ _ _ _ _ _ _ hgone =>
      rw [h.isOpen] at hgone
      cases hgone
  | unencodable req' resp e _ _ hanswered htext =>
      obtain ⟨text', htext', -⟩ :=
        h.fits (req', resp) (by rw [hanswered]; exact List.mem_cons_self)
      rw [htext] at htext'
      cases htext'

theorem Calling.read_all (h : s.Calling codec payload) {text : List UInt8}
    (hshort : FitsFrame text) (htold : s.told = frame lengthBytes text) (hdown : s.down = []) :
    ∃ result, s.client = .done result := by
  rw [told, hdown, List.append_nil] at htold
  obtain ⟨head, payload', hdone⟩ := Reader.exists_done h.wired.replyValid hshort htold
  exact h.wired.replied head payload' hdone

end Call

/-! ## A call under way -/

theorem clientReceived_frame (s : IpcSession J) :
    (clientReceived codec s).clientOpen = s.clientOpen ∧
      (clientReceived codec s).answered = s.answered := by
  rcases clientReceived_cases codec s with ⟨_, _, _, heq⟩ | ⟨_, heq⟩ <;>
    exact ⟨by rw [heq], by rw [heq]⟩

theorem serverReceived_frame (s : IpcSession J) :
    (serverReceived codec s).client = s.client ∧
      (serverReceived codec s).clientOpen = s.clientOpen ∧
      (serverReceived codec s).answered = s.answered := by
  rcases serverReceived_cases codec s with ⟨_, _, _, _, _, heq⟩ | ⟨_, _, _, _, _, heq⟩ |
    ⟨_, heq⟩ <;> exact ⟨by rw [heq], by rw [heq], by rw [heq]⟩

theorem step_answered (s : IpcSession J) (event : SessionStep J) :
    (s.step codec event).answered = s.answered ∨ ∃ req resp, event = .handle resp ∧
      (s.step codec event).answered = s.answered ++ [(req, resp)] := by
  cases event with
  | handle resp =>
      rw [step]
      cases s.server with
      | handling req => exact Or.inr ⟨req, resp, rfl, rfl⟩
      | reading | writing _ | closed _ => exact Or.inl rfl
  | clientRead n =>
      rw [step]
      cases s.client with
      | reading => exact Or.inl (clientReceived_frame codec _).2
      | writing _ | done _ => exact Or.inl rfl
  | serverRead n =>
      rw [step]
      cases s.server with
      | reading => exact Or.inl (serverReceived_frame codec _).2.2
      | writing _ | handling _ | closed _ => exact Or.inl rfl
  | clientWrite n | clientBroken text | clientClose | serverWrite n | serverBroken text =>
      refine Or.inl ?_
      rw [step]
      repeat' split
      all_goals rfl

theorem step_open (s : IpcSession J) (event : SessionStep J) (h : event ≠ .clientClose) :
    (s.step codec event).clientOpen = s.clientOpen := by
  cases event with
  | clientClose => exact absurd rfl h
  | clientRead n =>
      rw [step]
      cases s.client with
      | reading => exact (clientReceived_frame codec _).1
      | writing _ | done _ => rfl
  | serverRead n =>
      rw [step]
      cases s.server with
      | reading => exact (serverReceived_frame codec _).2.1
      | writing _ | handling _ | closed _ => rfl
  | clientWrite n | clientBroken text | handle resp | serverWrite n | serverBroken text =>
      rw [step]
      repeat' split
      all_goals rfl

section Call
variable {codec} {req : IpcRequest J} {payload : List UInt8} {s : IpcSession J}
  (hencode : codec.encodeRequest req = .ok payload) (hfits : FitsFrame payload)
include hencode hfits

/-- A client that has written and waits is not told that the pipe is broken. -/
theorem clientBroken_idle (h : s.Calling codec payload) (text : String) :
    s.step codec (.clientBroken text) = s := by
  rw [step]
  cases hclient : s.client with
  | done result => rfl
  | writing rest =>
      refine if_neg fun hclosed => ?_
      obtain ⟨_, _, _, hunsent, _⟩ := h.closed hencode hfits hclosed
      rw [Unsent, hclient] at hunsent
      exact hunsent.2 hunsent.1.symm
  | reading =>
      refine if_neg fun hboth => ?_
      obtain ⟨hclosed, hdown⟩ := Bool.and_eq_true_iff.mp hboth
      obtain ⟨text, htold, hshort, _⟩ := h.closed hencode hfits hclosed
      obtain ⟨result, hresult⟩ := h.read_all hshort htold (List.isEmpty_iff.mp hdown)
      rw [hclient] at hresult
      cases hresult

theorem step_alive (h : s.Calling codec payload) (event : SessionStep J) (text : String) :
    (s.step codec event).client ≠ .done (.error (.io text)) := by
  cases event with
  | clientBroken text' =>
      rw [clientBroken_idle hencode hfits h]
      exact h.alive text
  | clientRead n =>
      rw [step]
      cases hclient : s.client with
      | writing _ | done _ => exact h.alive text
      | reading =>
          rcases clientReceived_cases codec (s.pullReply n) with
            ⟨head, payload', _, heq⟩ | ⟨_, heq⟩
          · dsimp only
            rw [heq]
            cases codec.decodeResponse payload' <;> simp [Except.mapError]
          · dsimp only
            rw [heq]
            exact h.alive text
  | clientWrite n =>
      rw [step]
      cases hclient : s.client with
      | reading | done _ => exact h.alive text
      | writing rest =>
          dsimp only
          split
          · exact h.alive text
          · split <;> simp
  | serverRead n =>
      rw [step]
      cases s.server with
      | reading =>
          dsimp only
          rw [(serverReceived_frame codec _).1]
          exact h.alive text
      | writing _ | handling _ | closed _ => exact h.alive text
  | clientClose | handle resp | serverWrite n | serverBroken text' =>
      have hsame : ∀ event, (event = .clientClose ∨ (∃ resp, event = .handle resp) ∨
          (∃ n, event = .serverWrite n) ∨ ∃ text', event = .serverBroken text') →
          (s.step codec event).client = s.client := by
        intro event hevent
        rcases hevent with rfl | ⟨_, rfl⟩ | ⟨_, rfl⟩ | ⟨_, rfl⟩
        all_goals
          rw [step]
          repeat' split
          all_goals rfl
      rw [hsame _ (by simp)]
      exact h.alive text

theorem step_calling (h : s.Calling codec payload) (event : SessionStep J)
    (hcalls : s.Calls codec event) : (s.step codec event).Calling codec payload where
  wired := step_wired codec _ s event h.wired
  isOpen := by
    rw [step_open codec s event (by rintro rfl; exact hcalls)]
    exact h.isOpen
  fits := by
    intro pair hpair
    rcases step_answered codec s event with hsame | ⟨req', resp, rfl, hmore⟩
    · rw [hsame] at hpair
      exact h.fits pair hpair
    · rw [hmore] at hpair
      rcases List.mem_append.mp hpair with hold | hnew
      · exact h.fits pair hold
      · rw [List.mem_singleton.mp hnew]
        exact hcalls
  alive := step_alive hencode hfits h event

omit hencode hfits in
theorem start_calling :
    (start (frame lengthBytes payload) : IpcSession J).Calling codec payload where
  wired := start_wired codec _
  isOpen := rfl
  fits := by
    intro pair hpair
    cases hpair
  alive := by
    intro text
    rw [start]
    dsimp only
    split <;> simp

theorem run_calling (events : List (SessionStep J))
    (hcalls : Guarded (step codec) (Calls codec) (start (frame lengthBytes payload)) events) :
    (run (step codec) (start (frame lengthBytes payload)) events).Calling codec payload :=
  run_invariant (step codec) (Calls codec) (P := Calling codec payload)
    (fun _ event h hcalls => step_calling hencode hfits h event hcalls) events _
    start_calling hcalls

theorem Calling.ownAnswer (h : s.Calling codec payload) : s.OwnAnswer codec req where
  asked := by
    have hone : ∀ req', s.asked = [req'] → s.Heard codec req' → s.asked = [codec.received req] := by
      intro req' hasked hheard
      rw [hasked, (h.wired.heard hencode hfits hheard).1]
    cases h.wired.stage with
    | reading _ hasked => exact Or.inl hasked
    | refused _ _ hasked => exact Or.inl hasked
    | handling _ _ hasked _ _ hheard => exact Or.inr (hone _ hasked hheard)
    | writing _ _ _ _ _ hasked _ _ _ _ hheard => exact Or.inr (hone _ hasked hheard)
    | served _ _ _ _ hasked _ _ _ hheard => exact Or.inr (hone _ hasked hheard)
    | broken _ _ _ _ _ _ hasked _ _ _ hheard => exact Or.inr (hone _ hasked hheard)
    | unencodable _ _ _ _ hasked _ _ _ hheard => exact Or.inr (hone _ hasked hheard)
  answered := by
    intro result hresult
    rcases h.wired.finished result hresult with ⟨head, payload', hreply, heq⟩ | ⟨text, heq⟩
    · obtain ⟨resp, hanswered, hdecode⟩ := h.response hencode hfits hreply
      refine ⟨resp, hanswered, ?_⟩
      rw [heq, hdecode]
      rfl
    · rw [heq] at hresult
      exact absurd hresult (h.alive text)

end Call

/-! ## A call comes to an end -/

/-- The bytes on their way, each counted once for every step it has to take, and the ends that are
not done. -/
def bytesLeft (s : IpcSession J) : Nat :=
  s.up.length + s.down.length +
    (match s.client with
      | .writing rest => 2 * rest.length + 1
      | .reading => 1
      | .done _ => 0) +
    match s.server with
      | .writing rest => 2 * rest.length + 1
      | _ => 0

/-- The request is read, then handled, then answered. -/
def serverStage (s : IpcSession J) : Nat :=
  match s.server with
  | .reading => 2
  | .handling _ => 1
  | _ => 0

def Shorter (s' s : IpcSession J) : Prop :=
  s'.serverStage < s.serverStage ∨ s'.serverStage = s.serverStage ∧ s'.bytesLeft < s.bytesLeft

theorem shorter_wellFounded : WellFounded (Shorter : IpcSession J → IpcSession J → Prop) := by
  have hlex := (Prod.lex (α := Nat) (β := Nat) inferInstance inferInstance).wf
  refine Subrelation.wf ?_ (InvImage.wf (fun s : IpcSession J => (s.serverStage, s.bytesLeft)) hlex)
  intro s' s h
  rcases h with hlt | ⟨heq, hlt⟩
  · exact Prod.Lex.left _ _ hlt
  · show Prod.Lex _ _ (s'.serverStage, s'.bytesLeft) (s.serverStage, s.bytesLeft)
    rw [heq]
    exact Prod.Lex.right _ hlt

/-- No read or write can move a byte, and the handler is not at work. -/
structure Quiet (s : IpcSession J) : Prop where
  idle : ∀ req, s.server ≠ .handling req
  clientWrite : ∀ n, s.step codec (.clientWrite n) = s
  clientRead : ∀ n, s.step codec (.clientRead n) = s
  serverRead : ∀ n, s.step codec (.serverRead n) = s
  serverWrite : ∀ n, s.step codec (.serverWrite n) = s

section Pull
variable (n : Nat) (s : IpcSession J)

theorem pullReply_cases : s.pullReply n = s ∨ (s.pullReply n).down.length < s.down.length := by
  by_cases hzero : min n (min (s.reply.wanted lengthBytes) s.down.length) = 0
  · have hpull : s.reply.pull lengthBytes n s.down = (s.reply, s.down) := if_pos hzero
    exact Or.inl (by rw [pullReply, hpull])
  · refine Or.inr ?_
    have hlength := Reader.pull_length (w := lengthBytes) n s.reply s.down
    show (s.reply.pull lengthBytes n s.down).2.length < s.down.length
    omega

theorem pullRequest_cases : s.pullRequest n = s ∨ (s.pullRequest n).up.length < s.up.length := by
  by_cases hzero : min n (min (s.request.wanted lengthBytes) s.up.length) = 0
  · have hpull : s.request.pull lengthBytes n s.up = (s.request, s.up) := if_pos hzero
    exact Or.inl (by rw [pullRequest, hpull])
  · refine Or.inr ?_
    have hlength := Reader.pull_length (w := lengthBytes) n s.request s.up
    show (s.request.pull lengthBytes n s.up).2.length < s.up.length
    omega

end Pull

section Call
variable {codec} {req : IpcRequest J} {payload : List UInt8} {s : IpcSession J}

theorem clientWrite_shorter (h : s.Wired codec (frame lengthBytes payload)) (n : Nat) :
    s.step codec (.clientWrite n) = s ∨ (s.step codec (.clientWrite n)).Shorter s := by
  cases hclient : s.client with
  | reading | done _ => exact Or.inl (by rw [step, hclient])
  | writing rest =>
      obtain ⟨unsent, -, hunsent⟩ := h.sent
      rw [Unsent, hclient] at hunsent
      have hrest := List.length_pos_iff.mpr hunsent.2
      rw [step, hclient]
      dsimp only
      split
      · exact Or.inl rfl
      · rcases Nat.eq_zero_or_pos n with rfl | hpos
        · refine Or.inl ?_
          rw [List.drop_zero, if_neg hunsent.2, List.take_zero, List.append_nil, ← hclient]
        · refine Or.inr (Or.inr ⟨rfl, ?_⟩)
          simp only [bytesLeft, hclient, List.length_append, List.length_take]
          by_cases hlast : rest.drop n = []
          · rw [if_pos hlast]
            dsimp only
            omega
          · rw [if_neg hlast]
            simp only [List.length_drop]
            omega

theorem clientRead_shorter (h : s.Wired codec (frame lengthBytes payload)) (n : Nat) :
    s.step codec (.clientRead n) = s ∨ (s.step codec (.clientRead n)).Shorter s := by
  cases hclient : s.client with
  | writing _ | done _ => exact Or.inl (by rw [step, hclient])
  | reading =>
      have hnotDone : ∀ head payload', s.reply ≠ .done head payload' := by
        intro head payload' hdone
        obtain ⟨result, hresult⟩ := h.replied head payload' hdone
        rw [hclient] at hresult
        cases hresult
      rw [step, hclient]
      dsimp only
      rcases clientReceived_cases codec (s.pullReply n) with
        ⟨head, payload', hdone, heq⟩ | ⟨_, heq⟩
      · rw [heq]
        rcases pullReply_cases n s with hsame | hless
        · rw [hsame] at hdone
          exact absurd hdone (hnotDone head payload')
        · refine Or.inr (Or.inr ⟨rfl, ?_⟩)
          have hup : (s.pullReply n).up = s.up := rfl
          have hserver : (s.pullReply n).server = s.server := rfl
          simp only [bytesLeft, hclient, hup, hserver]
          omega
      · rw [heq]
        rcases pullReply_cases n s with hsame | hless
        · exact Or.inl hsame
        · refine Or.inr (Or.inr ⟨rfl, ?_⟩)
          have hup : (s.pullReply n).up = s.up := rfl
          have hserver : (s.pullReply n).server = s.server := rfl
          have hsame : (s.pullReply n).client = s.client := rfl
          simp only [bytesLeft, hup, hserver, hsame]
          omega

theorem serverRead_shorter (h : s.Wired codec (frame lengthBytes payload)) (n : Nat) :
    s.step codec (.serverRead n) = s ∨ (s.step codec (.serverRead n)).Shorter s := by
  cases h.stage with
  | refused e hserver | handling req hserver | writing req resp payload rest hserver
  | served req resp payload hserver | broken req resp payload rest text hserver
  | unencodable req resp e hserver => exact Or.inl (by rw [step, hserver])
  | reading hserver _ _ _ hunread =>
      rw [step, hserver]
      dsimp only
      rcases serverReceived_cases codec (s.pullRequest n) with
        ⟨head, payload', req, _, _, heq⟩ | ⟨head, payload', e, _, _, heq⟩ | ⟨_, heq⟩
      · rw [heq]
        exact Or.inr (Or.inl (by simp [serverStage, hserver]))
      · rw [heq]
        exact Or.inr (Or.inl (by simp [serverStage, hserver]))
      · rw [heq]
        rcases pullRequest_cases n s with hsame | hless
        · exact Or.inl hsame
        · refine Or.inr (Or.inr ⟨rfl, ?_⟩)
          have hdown : (s.pullRequest n).down = s.down := rfl
          have hsame : (s.pullRequest n).server = s.server := rfl
          have hclient : (s.pullRequest n).client = s.client := rfl
          simp only [bytesLeft, hdown, hsame, hclient]
          omega

theorem serverWrite_shorter (h : s.Wired codec (frame lengthBytes payload)) (n : Nat) :
    s.step codec (.serverWrite n) = s ∨ (s.step codec (.serverWrite n)).Shorter s := by
  cases h.stage with
  | reading hserver | refused e hserver | handling req hserver | served req resp payload hserver
  | broken req resp payload rest text hserver | unencodable req resp e hserver =>
      exact Or.inl (by rw [step, hserver])
  | writing req resp payload rest hserver _ _ _ _ hrest =>
      have hlength := List.length_pos_iff.mpr hrest
      rw [step, hserver]
      dsimp only
      split
      · rcases Nat.eq_zero_or_pos n with rfl | hpos
        · refine Or.inl ?_
          rw [List.drop_zero, if_neg hrest, List.take_zero, List.append_nil, ← hserver]
        · refine Or.inr (Or.inr ⟨?_, ?_⟩)
          · simp only [serverStage, hserver]
            by_cases hlast : rest.drop n = []
            · rw [if_pos hlast]
            · rw [if_neg hlast]
          · simp only [bytesLeft, hserver, List.length_append, List.length_take]
            by_cases hlast : rest.drop n = []
            · rw [if_pos hlast]
              dsimp only
              omega
            · rw [if_neg hlast]
              simp only [List.length_drop]
              omega
      · exact Or.inl rfl

theorem handle_shorter (s : IpcSession J) (resp : IpcResponse J) :
    s.step codec (.handle resp) = s ∨ (s.step codec (.handle resp)).Shorter s := by
  cases hserver : s.server with
  | reading | writing _ | closed _ => exact Or.inl (by rw [step, hserver])
  | handling req' =>
      refine Or.inr (Or.inl ?_)
      rw [step, hserver]
      simp only [serverStage, hserver]
      cases codec.encodeResponse resp <;> simp

variable (hencode : codec.encodeRequest req = .ok payload) (hfits : FitsFrame payload)
include hencode hfits

/-- A step that changes anything brings the end nearer. -/
theorem step_shorter (h : s.Calling codec payload) (event : SessionStep J)
    (hcalls : s.Calls codec event) : s.step codec event = s ∨ (s.step codec event).Shorter s := by
  cases event with
  | clientWrite n => exact clientWrite_shorter h.wired n
  | clientRead n => exact clientRead_shorter h.wired n
  | clientBroken text => exact Or.inl (clientBroken_idle hencode hfits h text)
  | clientClose => exact absurd hcalls id
  | serverRead n => exact serverRead_shorter h.wired n
  | handle resp => exact handle_shorter s resp
  | serverWrite n => exact serverWrite_shorter h.wired n
  | serverBroken text => exact Or.inl (by rw [step, if_pos h.isOpen])

omit hencode hfits in
theorem Quiet.up_empty (hquiet : s.Quiet codec) (hserver : s.server = .reading)
    (hvalid : s.request.Valid lengthBytes)
    (hunread : ∀ head payload', s.request ≠ .done head payload') : s.up = [] := by
  have hstuck : ∀ n, (s.request.pull lengthBytes n s.up).2.length = s.up.length := by
    intro n
    have hstep := hquiet.serverRead n
    rw [step, hserver] at hstep
    have hup : (serverReceived codec (s.pullRequest n)).up = (s.pullRequest n).up := by
      rcases serverReceived_cases codec (s.pullRequest n) with
        ⟨_, _, _, _, _, heq⟩ | ⟨_, _, _, _, _, heq⟩ | ⟨_, heq⟩ <;> rw [heq]
    exact congrArg List.length (hup.symm.trans (congrArg IpcSession.up hstep))
  rcases Reader.pull_stuck hvalid hstuck with ⟨head, payload', hdone⟩ | hempty
  · exact absurd hdone (hunread head payload')
  · exact hempty

omit hencode hfits in
theorem Quiet.down_empty (hquiet : s.Quiet codec) (hclient : s.client = .reading)
    (h : s.Wired codec (frame lengthBytes payload)) : s.down = [] := by
  have hstuck : ∀ n, (s.reply.pull lengthBytes n s.down).2.length = s.down.length := by
    intro n
    have hstep := hquiet.clientRead n
    rw [step, hclient] at hstep
    have hdown : (clientReceived codec (s.pullReply n)).down = (s.pullReply n).down := by
      rcases clientReceived_cases codec (s.pullReply n) with ⟨_, _, _, heq⟩ | ⟨_, heq⟩ <;>
        rw [heq]
    exact congrArg List.length (hdown.symm.trans (congrArg IpcSession.down hstep))
  rcases Reader.pull_stuck h.replyValid hstuck with ⟨head, payload', hdone⟩ | hempty
  · obtain ⟨result, hresult⟩ := h.replied head payload' hdone
    rw [hclient] at hresult
    cases hresult
  · exact hempty

omit hencode hfits in
theorem Quiet.not_writing (hquiet : s.Quiet codec) (h : s.Wired codec (frame lengthBytes payload))
    (hclosed : s.serverClosed = false) (rest : List UInt8) : s.client ≠ .writing rest := by
  intro hclient
  obtain ⟨unsent, -, hunsent⟩ := h.sent
  rw [Unsent, hclient] at hunsent
  have hstep := congrArg (fun s => s.up.length) (hquiet.clientWrite 1)
  rw [step, hclient] at hstep
  simp only [hclosed, Bool.false_eq_true, if_false, List.length_append, List.length_take] at hstep
  have hpos := List.length_pos_iff.mpr hunsent.2
  omega

/-- A call that comes to rest has the response of the handler to its own request. -/
theorem Calling.answered_of_quiet (h : s.Calling codec payload) (hquiet : s.Quiet codec) :
    ∃ resp, s.client = .done (.ok (codec.returned resp)) ∧
      s.answered = [(codec.received req, resp)] ∧ s.server = .closed (.ok ()) := by
  have hnotClosed : ∀ e, s.server ≠ .closed (.error e) := by
    intro e hserver
    obtain ⟨_, _, _, _, hok⟩ := h.closed hencode hfits (by rw [serverClosed, hserver])
    rw [hok] at hserver
    cases hserver
  cases h.wired.stage with
  | refused e hserver => exact absurd hserver (hnotClosed e)
  | broken _ _ _ _ text hserver => exact absurd hserver (hnotClosed _)
  | unencodable _ _ e hserver => exact absurd hserver (hnotClosed _)
  | handling req' hserver => exact absurd hserver (hquiet.idle req')
  | writing _ _ _ rest hserver _ _ _ _ hrest =>
      have hstep := congrArg (fun s => s.down.length) (hquiet.serverWrite 1)
      rw [step, hserver] at hstep
      simp only [h.isOpen, if_true, List.length_append, List.length_take] at hstep
      have hpos := List.length_pos_iff.mpr hrest
      omega
  | reading hserver _ _ htold hunread =>
      have hup := hquiet.up_empty hserver h.wired.requestValid hunread
      obtain ⟨unsent, hscript, hunsent⟩ := h.wired.sent
      cases hclient : s.client with
      | writing rest =>
          exact absurd hclient (hquiet.not_writing h.wired (by rw [serverClosed, hserver]) rest)
      | done result =>
          rcases h.wired.finished result hclient with ⟨head, payload', hreply, _⟩ | ⟨text, heq⟩
          · exact absurd hreply (h.wired.not_done_of_told htold head payload')
          · rw [heq] at hclient
            exact absurd hclient (h.alive text)
      | reading =>
          rw [Unsent, hclient] at hunsent
          rw [hup, hunsent, List.append_nil, List.append_nil] at hscript
          obtain ⟨head, payload', hdone⟩ := Reader.exists_done h.wired.requestValid hfits hscript
          exact absurd hdone (hunread head payload')
  | served _ _ _ hserver =>
      have hclosed : s.serverClosed = true := by rw [serverClosed, hserver]
      obtain ⟨text, htold, hshort, hunsent, _⟩ := h.closed hencode hfits hclosed
      have hdone : ∃ result, s.client = .done result := by
        cases hclient : s.client with
        | writing rest =>
            rw [Unsent, hclient] at hunsent
            exact absurd hunsent.1.symm hunsent.2
        | done result => exact ⟨result, rfl⟩
        | reading =>
            rw [← hclient]
            exact h.read_all hshort htold (hquiet.down_empty hclient h.wired)
      obtain ⟨result, hresult⟩ := hdone
      obtain ⟨resp, hanswered, heq⟩ := (h.ownAnswer hencode hfits).answered result hresult
      exact ⟨resp, by rw [hresult, heq], hanswered, hserver⟩

/-- In whatever pieces the bytes come, a call gets the response to its own request and no other, and
it gets one: every step that does anything brings the end nearer, and there is no other end. -/
theorem run_call (events : List (SessionStep J))
    (hcalls : Guarded (step codec) (Calls codec) (start (frame lengthBytes payload)) events) :
    let s := run (step codec) (start (frame lengthBytes payload)) events
    s.OwnAnswer codec req ∧ WellFounded (Shorter : IpcSession J → IpcSession J → Prop) ∧
      (∀ event, s.Calls codec event → s.step codec event = s ∨ (s.step codec event).Shorter s) ∧
      (s.Quiet codec → ∃ resp, s.client = .done (.ok (codec.returned resp)) ∧
        s.answered = [(codec.received req, resp)] ∧ s.server = .closed (.ok ())) := by
  intro s
  have h : s.Calling codec payload := run_calling hencode hfits events hcalls
  exact ⟨h.ownAnswer hencode hfits, shorter_wellFounded, step_shorter hencode hfits h,
    h.answered_of_quiet hencode hfits⟩

end Call

end IpcSession

/-! ## One exchange -/

def textBytes (text : String) : List UInt8 := text.toList.map fun c => UInt8.ofNat c.toNat

def pingRequest : IpcRequest String := .new 1 "service.ping" "\x7b\x7d"

def pingResponse : IpcResponse String := .ok 1 "\x7b\"version\":\"0.1.0\"\x7d"

def pingRequestText : List UInt8 :=
  textBytes "\x7b\"jsonrpc\":\"2.0\",\"id\":1,\"method\":\"service.ping\",\"params\":\x7b\x7d\x7d"

def pingResponseText : List UInt8 :=
  textBytes
    "\x7b\"jsonrpc\":\"2.0\",\"id\":1,\"result\":\x7b\"version\":\"0.1.0\"\x7d\x7d"

def pingCodec : IpcCodec String where
  encodeRequest := fun req => if req = pingRequest then .ok pingRequestText else .error ""
  decodeRequest := fun text => if text = pingRequestText then .ok pingRequest else .error ""
  encodeResponse := fun resp => if resp = pingResponse then .ok pingResponseText else .error ""
  decodeResponse := fun text => if text = pingResponseText then .ok pingResponse else .error ""
  rereadParams := id
  rereadResult := id
  request := by
    intro req text h
    split at h
    · rename_i hreq
      cases h
      rw [if_pos rfl, hreq]
      rfl
    · cases h
  response := by
    intro resp text h
    split at h
    · rename_i hresp
      cases h
      rw [if_pos rfl, hresp]
      rfl
    · cases h

def pingSteps : List (SessionStep String) :=
  [.clientWrite 3, .serverRead 2, .clientWrite 100, .serverRead 9, .serverRead 100,
   .handle pingResponse, .serverWrite 9, .clientRead 9, .clientRead 9, .serverWrite 100,
   .clientRead 100]

namespace IpcSession

theorem pingRequestText_fits : FitsFrame pingRequestText := by
  show pingRequestText.length < 256 ^ 4
  decide

theorem pingSteps_calls :
    ∀ event ∈ pingSteps, ∀ s : IpcSession String, s.Calls pingCodec event := by
  intro event hmem s
  have hresponse : s.Calls pingCodec (.handle pingResponse) :=
    ⟨pingResponseText, by simp [pingCodec], by show pingResponseText.length < 256 ^ 4; decide⟩
  simp only [pingSteps, List.mem_cons, List.not_mem_nil, or_false] at hmem
  rcases hmem with rfl | rfl | rfl | rfl | rfl | rfl | rfl | rfl | rfl | rfl | rfl <;>
    first | exact hresponse | trivial

theorem run_call_ping :
    let s := run (step pingCodec) (start (frame lengthBytes pingRequestText)) pingSteps
    s.OwnAnswer pingCodec pingRequest ∧
      WellFounded (Shorter : IpcSession String → IpcSession String → Prop) ∧
      (∀ event, s.Calls pingCodec event →
        s.step pingCodec event = s ∨ (s.step pingCodec event).Shorter s) ∧
      (s.Quiet pingCodec → ∃ resp, s.client = .done (.ok (pingCodec.returned resp)) ∧
        s.answered = [(pingCodec.received pingRequest, resp)] ∧ s.server = .closed (.ok ())) := by
  have hencode : pingCodec.encodeRequest pingRequest = .ok pingRequestText := by simp [pingCodec]
  exact run_call hencode pingRequestText_fits pingSteps
    (guarded_of_forall _ _ pingSteps_calls _)

end IpcSession
end RouteGuard
