import RouteGuard.Lib.LittleEndian

/-! # Length-prefixed frames on a byte stream

A frame is the length of its payload in `w` bytes and the payload.  A stream
hands its bytes over in pieces of any size; a `Reader` takes what it still needs
of each piece and is done when the frame is complete. -/
set_option autoImplicit false
namespace Framing

open LittleEndian

/-- The length is cut to `w` bytes. -/
def frame (w : Nat) (payload : List UInt8) : List UInt8 := bytes w payload.length ++ payload

/-- `header` and `body` hold the bytes read so far of the length and of the payload. -/
inductive Reader where
  | header (got : List UInt8)
  | body (head got : List UInt8)
  | done (head payload : List UInt8)
deriving DecidableEq, Repr

namespace Reader
variable (w : Nat)

def startBody (head : List UInt8) : Reader :=
  if value head = 0 then .done head [] else .body head []

def start : Reader := if w = 0 then startBody [] else .header []

def wanted : Reader → Nat
  | .header got => w - got.length
  | .body head got => value head - got.length
  | .done _ _ => 0

/-- The reader after a piece that is not longer than it wants. -/
def absorb (piece : List UInt8) : Reader → Reader
  | .header got =>
      if (got ++ piece).length < w then .header (got ++ piece) else startBody (got ++ piece)
  | .body head got =>
      if (got ++ piece).length < value head then .body head (got ++ piece)
      else .done head (got ++ piece)
  | .done head payload => .done head payload

def pull (n : Nat) (r : Reader) (stream : List UInt8) : Reader × List UInt8 :=
  let k := min n (min (r.wanted w) stream.length)
  if k = 0 then (r, stream) else (r.absorb w (stream.take k), stream.drop k)

def consumed : Reader → List UInt8
  | .header got => got
  | .body head got => head ++ got
  | .done head payload => head ++ payload

/-- A reader that is not done wants at least one byte. -/
def Valid : Reader → Prop
  | .header got => got.length < w
  | .body head got => head.length = w ∧ got.length < value head
  | .done head payload => head.length = w ∧ payload.length = value head

section Laws
variable {w}

theorem startBody_valid {head : List UInt8} (h : head.length = w) :
    (startBody head).Valid w := by
  rw [startBody]
  split
  · rename_i hzero
    exact ⟨h, hzero.symm⟩
  · exact ⟨h, by simp; omega⟩

@[simp]
theorem startBody_consumed (head : List UInt8) : (startBody head).consumed = head := by
  rw [startBody]
  split <;> simp [consumed]

theorem start_valid : (start w).Valid w := by
  rw [start]
  split
  · rename_i hzero
    exact startBody_valid hzero.symm
  · exact Nat.pos_of_ne_zero ‹_›

theorem absorb_consumed {r : Reader} {piece : List UInt8} (h : piece.length ≤ r.wanted w) :
    (r.absorb w piece).consumed = r.consumed ++ piece := by
  cases r with
  | header got =>
      rw [absorb]
      split
      · rfl
      · rw [startBody_consumed]
        rfl
  | body head got =>
      rw [absorb]
      split <;> simp [consumed]
  | done head payload =>
      rw [List.length_eq_zero_iff.mp (Nat.le_zero.mp h), List.append_nil]
      rfl

theorem absorb_valid {r : Reader} {piece : List UInt8} (hr : r.Valid w)
    (h : piece.length ≤ r.wanted w) : (r.absorb w piece).Valid w := by
  cases r with
  | header got =>
      simp only [wanted, Valid] at h hr
      rw [absorb]
      split
      · assumption
      · rename_i hlong
        rw [List.length_append] at hlong
        exact startBody_valid (by rw [List.length_append]; omega)
  | body head got =>
      simp only [wanted, Valid] at h hr
      rw [absorb]
      split
      · exact ⟨hr.1, ‹_›⟩
      · rename_i hlong
        rw [List.length_append] at hlong
        exact ⟨hr.1, by rw [List.length_append]; omega⟩
  | done head payload => exact hr

theorem pull_consumed (n : Nat) (r : Reader) (stream : List UInt8) :
    (r.pull w n stream).1.consumed ++ (r.pull w n stream).2 = r.consumed ++ stream := by
  rw [pull]
  split
  · rfl
  · have hle : (stream.take (min n (min (r.wanted w) stream.length))).length ≤ r.wanted w := by
      rw [List.length_take]
      omega
    rw [absorb_consumed hle, List.append_assoc, List.take_append_drop]

theorem pull_valid {n : Nat} {r : Reader} {stream : List UInt8} (hr : r.Valid w) :
    (r.pull w n stream).1.Valid w := by
  rw [pull]
  split
  · exact hr
  · refine absorb_valid hr ?_
    rw [List.length_take]
    omega

theorem pull_length (n : Nat) (r : Reader) (stream : List UInt8) :
    (r.pull w n stream).2.length = stream.length - min n (min (r.wanted w) stream.length) := by
  rw [pull]
  split
  · rename_i hzero
    rw [hzero, Nat.sub_zero]
  · rw [List.length_drop]

/-- Where a read moves nothing, the reader is done or the stream is empty. -/
theorem pull_stuck {r : Reader} {stream : List UInt8} (hr : r.Valid w)
    (h : ∀ n, (r.pull w n stream).2.length = stream.length) :
    (∃ head payload, r = .done head payload) ∨ stream = [] := by
  have hone := h 1
  rw [pull_length] at hone
  cases r with
  | done head payload => exact Or.inl ⟨head, payload, rfl⟩
  | header got =>
      simp only [wanted, Valid] at hone hr
      exact Or.inr (List.length_eq_zero_iff.mp (by omega))
  | body head got =>
      simp only [wanted, Valid] at hone hr
      exact Or.inr (List.length_eq_zero_iff.mp (by omega))

/-- A complete frame is cut off at its end, whatever follows it. -/
theorem done_of_frame {head payload rest sent more : List UInt8}
    (hr : (Reader.done head payload).Valid w) (hlt : sent.length < 256 ^ w)
    (h : (Reader.done head payload).consumed ++ rest = frame w sent ++ more) :
    payload = sent ∧ rest = more := by
  simp only [consumed, frame, List.append_assoc] at h
  obtain ⟨hhead, hrest⟩ := List.append_inj h (by rw [hr.1, length_bytes])
  have hlength : payload.length = sent.length := by
    rw [hr.2, hhead, value_bytes_of_lt hlt]
  exact List.append_inj hrest hlength

theorem exists_done {r : Reader} {sent : List UInt8} (hr : r.Valid w)
    (hlt : sent.length < 256 ^ w) (h : r.consumed = frame w sent) :
    ∃ head payload, r = .done head payload := by
  have hlength := congrArg List.length h
  cases r with
  | done head payload => exact ⟨head, payload, rfl⟩
  | header got =>
      simp only [consumed, frame, Valid, List.length_append, length_bytes] at hlength hr
      omega
  | body head got =>
      simp only [consumed, frame, Valid] at h hr
      obtain ⟨hhead, hgot⟩ := List.append_inj h (by rw [hr.1, length_bytes])
      rw [hhead, value_bytes_of_lt hlt, hgot] at hr
      exact absurd hr.2 (Nat.lt_irrefl _)

end Laws
end Reader
end Framing
