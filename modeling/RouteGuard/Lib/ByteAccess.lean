import Mathlib.Algebra.Group.Nat.Defs
import Mathlib.Data.List.TakeDrop

/-! # Checked access to bytes

Programs that read byte strings at computed offsets.  An index outside the string
and an offset outside the machine's range are faults, and a run without one is a
run in which each access was guarded. -/
set_option autoImplicit false
namespace ByteAccess

inductive Fault where
  | outOfRange
  | overflow
deriving DecidableEq, Repr

abbrev Run (A : Type) := Except Fault A

/-- A byte string in memory: its length is an offset, with room for as much again. -/
structure Bytes where
  bytes : List UInt8
  length_lt : bytes.length < 2 ^ 63
deriving DecidableEq, Repr

def Bytes.length (msg : Bytes) : Nat := msg.bytes.length

theorem Bytes.length_bound (msg : Bytes) : msg.length < 2 ^ 63 := msg.length_lt

def Bytes.byteAt (msg : Bytes) (i : Nat) : Run UInt8 :=
  match msg.bytes[i]? with
  | some b => .ok b
  | none => .error .outOfRange

def Bytes.slice (msg : Bytes) (start stop : Nat) : Run (List UInt8) :=
  if start ≤ stop ∧ stop ≤ msg.length then .ok ((msg.bytes.drop start).take (stop - start))
  else .error .outOfRange

def addOffset (a b : Nat) : Run Nat := if a + b < 2 ^ 64 then .ok (a + b) else .error .overflow

/-! ## Guarded accesses -/

section Guarded
variable {msg : Bytes}

theorem addOffset_ok {a b : Nat} (h : a + b < 2 ^ 64) : addOffset a b = .ok (a + b) := if_pos h

theorem addOffset_eq_ok {a b c : Nat} (h : addOffset a b = .ok c) : c = a + b := by
  rw [addOffset] at h
  split at h
  · exact (Except.ok.inj h).symm
  · cases h

theorem byteAt_of_getElem? {i : Nat} {b : UInt8} (h : msg.bytes[i]? = some b) :
    msg.byteAt i = .ok b := by
  rw [Bytes.byteAt, h]

theorem byteAt_of_lt {i : Nat} (h : i < msg.length) : ∃ b, msg.byteAt i = .ok b :=
  ⟨msg.bytes[i], byteAt_of_getElem? (List.getElem?_eq_getElem h)⟩

theorem byteAt_eq_ok {i : Nat} {b : UInt8} (h : msg.byteAt i = .ok b) :
    msg.bytes[i]? = some b ∧ i < msg.length := by
  rw [Bytes.byteAt] at h
  cases hb : msg.bytes[i]? with
  | none =>
      rw [hb] at h
      cases h
  | some b' =>
      rw [hb] at h
      cases h
      exact ⟨rfl, (List.getElem?_eq_some_iff.mp hb).1⟩

theorem slice_ok {start stop : Nat} (hstart : start ≤ stop) (hstop : stop ≤ msg.length) :
    msg.slice start stop = .ok ((msg.bytes.drop start).take (stop - start)) :=
  if_pos ⟨hstart, hstop⟩

end Guarded

/-! ## Runs without a fault -/

section Returns
variable {A B : Type} {P : A → Prop} {Q : B → Prop} {msg : Bytes}

/-- The run has no fault, and its result is as said. -/
def Returns (run : Run A) (P : A → Prop) : Prop := ∃ a, run = .ok a ∧ P a

theorem bind_of_ok {run : Run A} {a : A} (h : run = .ok a) (next : A → Run B) :
    (run >>= next) = next a := by
  rw [h]
  rfl

theorem returns_ok {a : A} (h : P a) : Returns (.ok a) P := ⟨a, rfl, h⟩

theorem Returns.bind {run : Run A} (h : Returns run P) {next : A → Run B}
    (hnext : ∀ a, P a → Returns (next a) Q) : Returns (run >>= next) Q := by
  obtain ⟨a, rfl, ha⟩ := h
  exact hnext a ha

theorem Returns.map {run : Run A} (h : Returns run P) {f : A → B} (hf : ∀ a, P a → Q (f a)) :
    Returns (run.map f) Q := by
  obtain ⟨a, rfl, ha⟩ := h
  exact ⟨f a, rfl, hf a ha⟩

theorem Returns.mono {run : Run A} {P' : A → Prop} (h : Returns run P) (hmono : ∀ a, P a → P' a) :
    Returns run P' := by
  obtain ⟨a, hrun, ha⟩ := h
  exact ⟨a, hrun, hmono a ha⟩

theorem returns_byteAt {i : Nat} (h : i < msg.length) :
    Returns (msg.byteAt i) fun b => msg.bytes[i]? = some b := by
  obtain ⟨b, hb⟩ := byteAt_of_lt h
  exact ⟨b, hb, (byteAt_eq_ok hb).1⟩

theorem returns_addOffset {a b : Nat} (h : a + b < 2 ^ 64) :
    Returns (addOffset a b) fun sum => sum = a + b :=
  ⟨a + b, addOffset_ok h, rfl⟩

theorem returns_slice {start stop : Nat} (hstart : start ≤ stop) (hstop : stop ≤ msg.length) :
    Returns (msg.slice start stop) fun field =>
      field = (msg.bytes.drop start).take (stop - start) :=
  ⟨_, slice_ok hstart hstop, rfl⟩

end Returns

/-! ## Messages that agree from an offset on -/

structure SameFrom (base : Nat) (msg other : Bytes) : Prop where
  length : msg.length = other.length
  bytes : ∀ i, base ≤ i → msg.bytes[i]? = other.bytes[i]?

section SameFrom
variable {A B : Type} {base : Nat} {msg other : Bytes}

theorem bind_congr_of_ok {run : Run A} {next next' : A → Run B}
    (h : ∀ a, run = .ok a → next a = next' a) : (run >>= next) = (run >>= next') := by
  cases run with
  | error fault => rfl
  | ok a => exact h a rfl

theorem SameFrom.byteAt (h : SameFrom base msg other) {i : Nat} (hi : base ≤ i) :
    msg.byteAt i = other.byteAt i := by
  rw [Bytes.byteAt, Bytes.byteAt, h.bytes i hi]

theorem SameFrom.slice (h : SameFrom base msg other) {start : Nat} (hstart : base ≤ start)
    (stop : Nat) : msg.slice start stop = other.slice start stop := by
  have hdrop : msg.bytes.drop start = other.bytes.drop start := by
    apply List.ext_getElem?
    intro i
    rw [List.getElem?_drop, List.getElem?_drop, h.bytes (start + i) (by omega)]
  rw [Bytes.slice, Bytes.slice, hdrop, h.length]

end SameFrom

/-! ## Behind a known front -/

section Behind
variable {msg : Bytes} {front rest : List UInt8}

theorem byteAt_behind {b : UInt8} (h : msg.bytes = front ++ b :: rest) :
    msg.byteAt front.length = .ok b := by
  apply byteAt_of_getElem?
  rw [h, List.getElem?_append_right (Nat.le_refl _), Nat.sub_self]
  rfl

theorem byteAt_within {field : List UInt8} (h : msg.bytes = front ++ (field ++ rest)) {i : Nat}
    {b : UInt8} (hfield : field[i]? = some b) : msg.byteAt (front.length + i) = .ok b := by
  apply byteAt_of_getElem?
  have hi : i < field.length := (List.getElem?_eq_some_iff.mp hfield).1
  rw [h, List.getElem?_append_right (by omega), Nat.add_sub_cancel_left,
    List.getElem?_append_left hi, hfield]

theorem slice_behind {field : List UInt8} (h : msg.bytes = front ++ (field ++ rest)) :
    msg.slice front.length (front.length + field.length) = .ok field := by
  have hlength : front.length + field.length ≤ msg.length := by
    rw [Bytes.length, h, List.length_append, List.length_append]
    omega
  rw [slice_ok (by omega) hlength, h, List.drop_left, Nat.add_sub_cancel_left, List.take_left]

end Behind

/-! ## Numbers in network order -/

def be16 (b0 b1 : UInt8) : UInt16 := UInt16.ofNat (b0.toNat * 256 + b1.toNat)

def be32 (b0 b1 b2 b3 : UInt8) : UInt32 :=
  UInt32.ofNat (((b0.toNat * 256 + b1.toNat) * 256 + b2.toNat) * 256 + b3.toNat)

def bytes16 (n : UInt16) : List UInt8 := [UInt8.ofNat (n.toNat / 256), UInt8.ofNat n.toNat]

def bytes32 (n : UInt32) : List UInt8 :=
  [UInt8.ofNat (n.toNat / 16777216), UInt8.ofNat (n.toNat / 65536), UInt8.ofNat (n.toNat / 256),
    UInt8.ofNat n.toNat]

theorem be16_bytes16 (n : UInt16) :
    be16 (UInt8.ofNat (n.toNat / 256)) (UInt8.ofNat n.toNat) = n := by
  have hlt : n.toNat < 2 ^ 16 := n.toNat_lt
  apply UInt16.toNat_inj.mp
  rw [be16, UInt16.toNat_ofNat', UInt8.toNat_ofNat', UInt8.toNat_ofNat']
  omega

theorem be32_bytes32 (n : UInt32) :
    be32 (UInt8.ofNat (n.toNat / 16777216)) (UInt8.ofNat (n.toNat / 65536))
      (UInt8.ofNat (n.toNat / 256)) (UInt8.ofNat n.toNat) = n := by
  have hlt : n.toNat < 2 ^ 32 := n.toNat_lt
  apply UInt32.toNat_inj.mp
  rw [be32, UInt32.toNat_ofNat', UInt8.toNat_ofNat', UInt8.toNat_ofNat', UInt8.toNat_ofNat',
    UInt8.toNat_ofNat']
  omega

end ByteAccess
