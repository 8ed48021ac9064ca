import Mathlib.Algebra.BigOperators.Group.List.Basic
import Mathlib.Algebra.GroupWithZero.Nat

/-! # Byte positions in a text

The source slices strings at byte positions.  A text is the list of its
characters, and a slice off a character boundary is none. -/
set_option autoImplicit false
namespace RouteGuard

/-- `str::len`, in bytes. -/
def utf8Len (text : List Char) : Nat := (text.map Char.utf8Size).sum

/-- `&text[pos..]`, which panics past the end and inside a character. -/
def sliceFrom : List Char → Nat → Option (List Char)
  | text, 0 => some text
  | [], _ + 1 => none
  | c :: rest, pos + 1 =>
      if c.utf8Size ≤ pos + 1 then sliceFrom rest (pos + 1 - c.utf8Size) else none

def sliceTo : List Char → Nat → Option (List Char)
  | _, 0 => some []
  | [], _ + 1 => none
  | c :: rest, pos + 1 =>
      if c.utf8Size ≤ pos + 1 then (sliceTo rest (pos + 1 - c.utf8Size)).map (c :: ·) else none

def slice (text : List Char) (start stop : Nat) : Option (List Char) :=
  (sliceTo text stop).bind fun front => sliceFrom front start

/-- `text.find(c)`, a byte index. -/
def findChar (c : Char) : List Char → Option Nat
  | [] => none
  | d :: rest => if d = c then some 0 else (findChar c rest).map fun idx => d.utf8Size + idx

/-! ## Boundaries -/

theorem utf8Len_append (before after : List Char) :
    utf8Len (before ++ after) = utf8Len before + utf8Len after := by
  rw [utf8Len, List.map_append, List.sum_append]
  rfl

theorem sliceFrom_append (before after : List Char) :
    sliceFrom (before ++ after) (utf8Len before) = some after := by
  induction before with
  | nil => cases after <;> rfl
  | cons c rest ih =>
      have hlen : utf8Len (c :: rest) = c.utf8Size + utf8Len rest := rfl
      obtain ⟨pos, hpos⟩ : ∃ pos, utf8Len (c :: rest) = pos + 1 := by
        have := Char.utf8Size_pos c
        exact ⟨utf8Len (c :: rest) - 1, by omega⟩
      rw [hpos, List.cons_append, sliceFrom, if_pos (by omega)]
      have hrest : pos + 1 - c.utf8Size = utf8Len rest := by omega
      rw [hrest]
      exact ih

theorem utf8Len_cons (c : Char) (rest : List Char) :
    utf8Len (c :: rest) = c.utf8Size + utf8Len rest := rfl

theorem sliceFrom_add (before after : List Char) (pos : Nat) :
    sliceFrom (before ++ after) (utf8Len before + pos) = sliceFrom after pos := by
  induction before with
  | nil => rw [List.nil_append, show utf8Len [] = 0 from rfl, Nat.zero_add]
  | cons c rest ih =>
      have hpos := Char.utf8Size_pos c
      obtain ⟨n, hn⟩ : ∃ n, utf8Len (c :: rest) + pos = n + 1 :=
        ⟨utf8Len (c :: rest) + pos - 1, by rw [utf8Len_cons]; omega⟩
      have hrest : n + 1 - c.utf8Size = utf8Len rest + pos := by
        rw [← hn, utf8Len_cons]
        omega
      have hfits : c.utf8Size ≤ n + 1 := by
        rw [← hn, utf8Len_cons]
        omega
      rw [hn, List.cons_append, sliceFrom, if_pos hfits, hrest, ih]

theorem sliceTo_append (before after : List Char) :
    sliceTo (before ++ after) (utf8Len before) = some before := by
  induction before with
  | nil => cases after <;> rfl
  | cons c rest ih =>
      obtain ⟨pos, hpos⟩ : ∃ pos, utf8Len (c :: rest) = pos + 1 := by
        have := Char.utf8Size_pos c
        exact ⟨utf8Len (c :: rest) - 1, by rw [utf8Len_cons]; omega⟩
      have hrest : pos + 1 - c.utf8Size = utf8Len rest := by
        rw [← hpos, utf8Len_cons]
        omega
      have hfits : c.utf8Size ≤ pos + 1 := by
        rw [← hpos, utf8Len_cons]
        omega
      rw [hpos, List.cons_append, sliceTo, if_pos hfits, hrest, ih]
      rfl

theorem slice_append (front middle back : List Char) :
    slice (front ++ middle ++ back) (utf8Len front) (utf8Len (front ++ middle)) = some middle := by
  rw [slice, sliceTo_append, Option.bind_some, sliceFrom_append]

theorem findChar_span (c : Char) (text : List Char) :
    findChar c text =
      match text.span fun d => d != c with
      | (_, []) => none
      | (before, _ :: _) => some (utf8Len before) := by
  rw [List.span_eq_takeWhile_dropWhile]
  induction text with
  | nil => rfl
  | cons d rest ih =>
      rw [findChar]
      by_cases hd : d = c
      · rw [if_pos hd, List.takeWhile_cons_of_neg (by simp [hd]),
          List.dropWhile_cons_of_neg (by simp [hd])]
        rfl
      · rw [if_neg hd, ih, List.takeWhile_cons_of_pos (by simp [hd]),
          List.dropWhile_cons_of_pos (by simp [hd])]
        cases rest.dropWhile fun e => e != c with
        | nil => rfl
        | cons e after => rfl

end RouteGuard
