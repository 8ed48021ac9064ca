import Mathlib.Data.List.Basic
import Mathlib.Tactic.SplitIfs

/-! # Base64 with canonical padding

Three bytes are four characters of the RFC 4648 alphabet.  The last group is
filled with `=`, and the bits that `=` stands for are zero. -/
set_option autoImplicit false
namespace Base64

def alphabet : List Char :=
  "ABCDEFGHIJKLMNOPQRSTUVWXYZabcdefghijklmnopqrstuvwxyz0123456789+/".toList

def char (n : Nat) : Char := alphabet.getD n '='

def value (c : Char) : Option Nat := alphabet.idxOf? c

theorem value_char {n : Nat} (h : n < 64) : value (char n) = some n := by
  have hall : ∀ i : Fin 64, value (char i) = some i.val := by decide +kernel
  exact hall ⟨n, h⟩

theorem char_ne_pad {n : Nat} (h : n < 64) : char n ≠ '=' := by
  intro hpad
  have hvalue := value_char h
  have hnone : value '=' = none := by decide
  rw [hpad, hnone] at hvalue
  cases hvalue

/-! ## Writing -/

def encode : List UInt8 → List Char
  | [] => []
  | [a] => [char (a.toNat / 4), char (a.toNat % 4 * 16), '=', '=']
  | [a, b] =>
      [char (a.toNat / 4), char (a.toNat % 4 * 16 + b.toNat / 16), char (b.toNat % 16 * 4), '=']
  | a :: b :: c :: rest =>
      char (a.toNat / 4) :: char (a.toNat % 4 * 16 + b.toNat / 16) ::
        char (b.toNat % 16 * 4 + c.toNat / 64) :: char (c.toNat % 64) :: encode rest

theorem char_mem (n : Nat) : char n = '=' ∨ char n ∈ alphabet := by
  rw [char, List.getD_eq_getElem?_getD]
  cases hc : alphabet[n]? with
  | none => exact Or.inl rfl
  | some c => exact Or.inr (List.mem_of_getElem? hc)

theorem mem_encode (bytes : List UInt8) : ∀ c ∈ encode bytes, c = '=' ∨ c ∈ alphabet := by
  induction bytes using encode.induct with
  | case1 => intro c hc; cases hc
  | case2 a => simp [encode, char_mem]
  | case3 a b => simp [encode, char_mem]
  | case4 a b c rest ih =>
      simp only [encode, List.forall_mem_cons]
      exact ⟨char_mem _, char_mem _, char_mem _, char_mem _, ih⟩

/-! ## The bytes of a group -/

theorem first_byte (a : UInt8) {low : Nat} (h : low < 16) :
    UInt8.ofNat (a.toNat / 4 * 4 + (a.toNat % 4 * 16 + low) / 16) = a := by
  have hsum : a.toNat / 4 * 4 + (a.toNat % 4 * 16 + low) / 16 = a.toNat := by omega
  rw [hsum, UInt8.ofNat_toNat]

theorem second_byte (high : Nat) (b : UInt8) {low : Nat} (h : low < 4) :
    UInt8.ofNat ((high * 16 + b.toNat / 16) % 16 * 16 + (b.toNat % 16 * 4 + low) / 4) = b := by
  have hb := b.toNat_lt
  have hsum : (high * 16 + b.toNat / 16) % 16 * 16 + (b.toNat % 16 * 4 + low) / 4 =
      b.toNat := by omega
  rw [hsum, UInt8.ofNat_toNat]

theorem third_byte (high : Nat) (c : UInt8) :
    UInt8.ofNat ((high * 4 + c.toNat / 64) % 4 * 64 + c.toNat % 64) = c := by
  have hc := c.toNat_lt
  have hsum : (high * 4 + c.toNat / 64) % 4 * 64 + c.toNat % 64 = c.toNat := by omega
  rw [hsum, UInt8.ofNat_toNat]

/-! ## Reading -/

def digit (c : Char) : Nat := (value c).getD 0

theorem digit_char {n : Nat} (h : n < 64) : digit (char n) = n := by
  rw [digit, value_char h, Option.getD_some]

def groups : List Char → List UInt8
  | w :: x :: y :: z :: rest =>
      let bytes := [UInt8.ofNat (digit w * 4 + digit x / 16),
        UInt8.ofNat (digit x % 16 * 16 + digit y / 4), UInt8.ofNat (digit y % 4 * 64 + digit z)]
      bytes.take (if y = '=' then 1 else if z = '=' then 2 else 3) ++ groups rest
  | _ => []

/-- A text that is not what its bytes are written as is not read. -/
def decode (text : List Char) : Option (List UInt8) :=
  if encode (groups text) = text then some (groups text) else none

theorem groups_encode (bytes : List UInt8) : groups (encode bytes) = bytes := by
  induction bytes using encode.induct with
  | case1 => rfl
  | case2 a =>
      have ha := a.toNat_lt
      have hfirst := first_byte a (show 0 < 16 by omega)
      simp only [encode, groups, digit_char (show a.toNat / 4 < 64 by omega),
        digit_char (show a.toNat % 4 * 16 < 64 by omega), if_true]
      rw [Nat.add_zero] at hfirst
      rw [hfirst]
      rfl
  | case3 a b =>
      have ha := a.toNat_lt
      have hb := b.toNat_lt
      have hlow : b.toNat % 16 * 4 < 64 := by omega
      have hfirst := first_byte a (show b.toNat / 16 < 16 by omega)
      have hsecond := second_byte (a.toNat % 4) b (show 0 < 4 by omega)
      simp only [encode, groups, digit_char (show a.toNat / 4 < 64 by omega),
        digit_char (show a.toNat % 4 * 16 + b.toNat / 16 < 64 by omega), digit_char hlow,
        if_neg (char_ne_pad hlow), if_true]
      rw [Nat.add_zero] at hsecond
      rw [hfirst, hsecond]
      rfl
  | case4 a b c rest ih =>
      have ha := a.toNat_lt
      have hb := b.toNat_lt
      have hc := c.toNat_lt
      have hlow : b.toNat % 16 * 4 + c.toNat / 64 < 64 := by omega
      have hlast : c.toNat % 64 < 64 := by omega
      simp only [encode, groups, digit_char (show a.toNat / 4 < 64 by omega),
        digit_char (show a.toNat % 4 * 16 + b.toNat / 16 < 64 by omega), digit_char hlow,
        digit_char hlast, if_neg (char_ne_pad hlow), if_neg (char_ne_pad hlast), ih]
      rw [first_byte a (show b.toNat / 16 < 16 by omega),
        second_byte (a.toNat % 4) b (show c.toNat / 64 < 4 by omega), third_byte]
      rfl

theorem decode_eq_some_iff (text : List Char) (bytes : List UInt8) :
    decode text = some bytes ↔ text = encode bytes := by
  constructor
  · intro h
    rw [decode] at h
    split_ifs at h with hcanonical
    cases h
    exact hcanonical.symm
  · rintro rfl
    rw [decode, groups_encode, if_pos rfl]

example : decode "AQID/w==".toList = some [1, 2, 3, 255] := by decide

end Base64
