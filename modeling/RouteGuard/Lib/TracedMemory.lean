import Mathlib.Data.List.Range

/-! # Memory behind a pointer

The bytes from a pointer on, with a record of the positions that a program has
read or written.  The memory goes on behind what the program was given; whether
it kept to that is a statement about the record. -/
set_option autoImplicit false
namespace TracedMemory

structure Region where
  bytes : Nat → UInt8
  touched : List Nat := []

namespace Region

def read (start : Nat) (r : Region) : Region := { r with touched := r.touched ++ [start] }

def store (start : Nat) (values : List UInt8) (r : Region) : Region where
  bytes pos := if start ≤ pos then (values[pos - start]?).getD (r.bytes pos) else r.bytes pos
  touched := r.touched ++ List.range' start values.length

/-- Only the first `count` bytes were touched. -/
def Within (count : Nat) (r : Region) : Prop := ∀ pos ∈ r.touched, pos < count

section Laws
variable {r : Region} {start count : Nat} {values : List UInt8}

@[simp]
theorem read_bytes (start : Nat) (r : Region) : (r.read start).bytes = r.bytes := rfl

theorem store_inside (start : Nat) {i : Nat} {value : UInt8} (h : values[i]? = some value) :
    (r.store start values).bytes (start + i) = value := by
  simp [store, h]

theorem store_outside {pos : Nat} (h : pos < start ∨ start + values.length ≤ pos) :
    (r.store start values).bytes pos = r.bytes pos := by
  rcases h with hbefore | hbehind
  · have hnot : ¬start ≤ pos := by omega
    simp only [store, if_neg hnot]
  · have hnone : values[pos - start]? = none := List.getElem?_eq_none (by omega)
    have hle : start ≤ pos := by omega
    simp only [store, if_pos hle, hnone, Option.getD_none]

/-- A position holds what it held, or one of the stored values. -/
theorem store_cases (start : Nat) (values : List UInt8) (r : Region) (pos : Nat) :
    (r.store start values).bytes pos = r.bytes pos ∨
    ∃ i value, pos = start + i ∧ values[i]? = some value ∧
      (r.store start values).bytes pos = value := by
  by_cases hin : start ≤ pos ∧ pos < start + values.length
  · right
    have hi : pos - start < values.length := by omega
    have hpos : pos = start + (pos - start) := by omega
    have hvalue : values[pos - start]? = some values[pos - start] := List.getElem?_eq_getElem hi
    refine ⟨pos - start, values[pos - start], hpos, hvalue, ?_⟩
    have hstored := store_inside (r := r) start hvalue
    rwa [← hpos] at hstored
  · left
    exact store_outside (by omega)

theorem within_read : (r.read start).Within count ↔ r.Within count ∧ start < count := by
  simp only [Within, read, List.mem_append, List.mem_singleton]
  constructor
  · intro h
    exact ⟨fun pos hpos => h pos (Or.inl hpos), h start (Or.inr rfl)⟩
  · intro h pos hpos
    rcases hpos with hold | rfl
    · exact h.1 pos hold
    · exact h.2

theorem within_store (hpos : 0 < values.length) :
    (r.store start values).Within count ↔ r.Within count ∧ start + values.length ≤ count := by
  simp only [Within, store, List.mem_append, List.mem_range'_1]
  constructor
  · intro h
    refine ⟨fun pos hold => h pos (Or.inl hold), ?_⟩
    have hlast := h (start + (values.length - 1)) (Or.inr (by omega))
    omega
  · intro h pos hmem
    rcases hmem with hold | hnew
    · exact h.1 pos hold
    · omega

end Laws

end Region
end TracedMemory
