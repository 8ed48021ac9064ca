import Mathlib.Algebra.BigOperators.Group.List.Basic
import Mathlib.Algebra.GroupWithZero.Nat

/-! # Packed little-endian layouts

`bytes w n` is the number `n` in `w` bytes, the lowest byte first; `value` reads
it back.  A packed record is the concatenation of its fields: field `i` starts
where the fields before it end. -/
set_option autoImplicit false
namespace LittleEndian

def bytes : Nat → Nat → List UInt8
  | 0, _ => []
  | w + 1, n => UInt8.ofNat n :: bytes w (n / 256)

def value : List UInt8 → Nat
  | [] => 0
  | byte :: rest => byte.toNat + 256 * value rest

@[simp]
theorem length_bytes (w n : Nat) : (bytes w n).length = w := by
  induction w generalizing n with
  | zero => rfl
  | succ w ih => simp [bytes, ih]

theorem value_bytes (w n : Nat) : value (bytes w n) = n % 256 ^ w := by
  induction w generalizing n with
  | zero => simp [bytes, value, Nat.mod_one]
  | succ w ih =>
      have hbyte : (UInt8.ofNat n).toNat = n % 256 := by simp
      rw [bytes, value, hbyte, ih, Nat.pow_succ, Nat.mul_comm (256 ^ w) 256, Nat.mod_mul]

theorem value_bytes_of_lt {w n : Nat} (h : n < 256 ^ w) : value (bytes w n) = n := by
  rw [value_bytes, Nat.mod_eq_of_lt h]

theorem mod_eq_of_bytes_eq {w n m : Nat} (h : bytes w n = bytes w m) :
    n % 256 ^ w = m % 256 ^ w := by
  rw [← value_bytes, ← value_bytes, h]

theorem bytes_inj {w n m : Nat} (hn : n < 256 ^ w) (hm : m < 256 ^ w) (h : bytes w n = bytes w m) :
    n = m := by
  rw [← value_bytes_of_lt hn, ← value_bytes_of_lt hm, h]

/-! ## Arrays of numbers -/

def values (w : Nat) : Nat → List UInt8 → List Nat
  | 0, _ => []
  | count + 1, input => value (input.take w) :: values w count (input.drop w)

theorem length_flatMap_bytes (w : Nat) (ns : List Nat) :
    (ns.flatMap (bytes w)).length = w * ns.length := by
  induction ns with
  | nil => simp
  | cons n rest ih =>
      rw [List.flatMap_cons, List.length_append, length_bytes, ih, List.length_cons, Nat.mul_succ]
      omega

theorem values_flatMap {w : Nat} (ns : List Nat) (h : ∀ n ∈ ns, n < 256 ^ w) :
    values w ns.length (ns.flatMap (bytes w)) = ns := by
  induction ns with
  | nil => rfl
  | cons n rest ih =>
      have hn := value_bytes_of_lt (h n List.mem_cons_self)
      have hrest := ih fun m hm => h m (List.mem_cons_of_mem _ hm)
      rw [List.flatMap_cons, List.length_cons, values, List.take_left' (length_bytes w n),
        List.drop_left' (length_bytes w n), hn, hrest]

/-! ## Packed records -/

/-- The bytes of field `i`; `layout` lists the widths of the fields. -/
def field (layout : List Nat) (i : Nat) (input : List UInt8) : List UInt8 :=
  (input.drop (layout.take i).sum).take (layout.getD i 0)

/-- Cutting by the widths undoes the concatenation, whatever follows the record. -/
theorem field_flatten (parts : List (List UInt8)) (rest : List UInt8) : ∀ i, i < parts.length →
    field (parts.map List.length) i (parts.flatten ++ rest) = parts.getD i [] := by
  induction parts with
  | nil => intro i hi; simp at hi
  | cons part others ih =>
      intro i hi
      cases i with
      | zero => simp [field]
      | succ i =>
          have hnext := ih i (Nat.lt_of_succ_lt_succ hi)
          simp only [field, List.map_cons, List.take_succ_cons, List.sum_cons,
            List.getD_cons_succ, List.flatten_cons, List.append_assoc] at hnext ⊢
          rw [← List.drop_drop, List.drop_left]
          exact hnext

end LittleEndian
