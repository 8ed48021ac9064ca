import Mathlib.Data.List.Infix

/-! # Segments of a separated text

A text over an arbitrary alphabet cut at a separator.  A suffix that begins
after a separator is a proper suffix of the list of segments, and the other way
round. -/
set_option autoImplicit false
namespace Segments

def ProperSuffix {β : Type} (ys xs : List β) : Prop := ys <:+ xs ∧ ys ≠ xs

instance {β : Type} [DecidableEq β] (ys xs : List β) : Decidable (ProperSuffix ys xs) :=
  inferInstanceAs (Decidable (ys <:+ xs ∧ ys ≠ xs))

theorem properSuffix_iff {β : Type} (ys xs : List β) :
    ProperSuffix ys xs ↔ ∃ before, before ≠ [] ∧ xs = before ++ ys := by
  constructor
  · rintro ⟨⟨before, rfl⟩, hne⟩
    refine ⟨before, ?_, rfl⟩
    intro hnil
    rw [hnil] at hne
    exact hne rfl
  · rintro ⟨before, hne, rfl⟩
    refine ⟨List.suffix_append before ys, ?_⟩
    intro h
    have hlen := congrArg List.length h
    rw [List.length_append] at hlen
    have := List.length_pos_iff.mpr hne
    omega

variable {α : Type} [DecidableEq α] {sep : α}

theorem splitOn_inj {xs ys : List α} (h : xs.splitOn sep = ys.splitOn sep) : xs = ys := by
  have hxs := congrArg ([sep].intercalate ·) h
  simpa only [List.intercalate_splitOn] using hxs

theorem not_mem_of_mem_splitOn (text : List α) : ∀ piece ∈ text.splitOn sep, sep ∉ piece := by
  induction text with
  | nil =>
      intro piece hmem
      rw [List.splitOn_nil, List.mem_singleton] at hmem
      rw [hmem]
      simp
  | cons c rest ih =>
      intro piece hmem
      rw [List.splitOn_cons_eq_if_modifyHead] at hmem
      by_cases hc : c = sep
      · rw [if_pos (by simpa using hc)] at hmem
        rcases List.mem_cons.mp hmem with rfl | hmem
        · simp
        · exact ih piece hmem
      · rw [if_neg (by simpa using hc)] at hmem
        cases hpieces : rest.splitOn sep with
        | nil => exact absurd hpieces (List.splitOn_ne_nil _ _)
        | cons head tail =>
            rw [hpieces, List.modifyHead_cons] at hmem
            rcases List.mem_cons.mp hmem with rfl | hmem
            · have hhead := ih head (by rw [hpieces]; exact List.mem_cons_self)
              rw [List.mem_cons]
              rintro (h | h)
              · exact hc h.symm
              · exact hhead h
            · exact ih piece (by rw [hpieces]; exact List.mem_cons_of_mem _ hmem)

/-- Pieces without the separator are found again in their intercalation. -/
theorem intercalate_inj {xs ys : List (List α)} (hxs : ∀ piece ∈ xs, sep ∉ piece)
    (hys : ∀ piece ∈ ys, sep ∉ piece) (hlen : xs.length = ys.length)
    (h : [sep].intercalate xs = [sep].intercalate ys) : xs = ys := by
  by_cases hne : xs = []
  · rw [hne, List.length_nil] at hlen
    rw [hne, List.length_eq_zero_iff.mp hlen.symm]
  · have hne' : ys ≠ [] := by
      rw [← List.length_pos_iff, ← hlen]
      exact List.length_pos_iff.mpr hne
    rw [← List.splitOn_intercalate sep hxs hne, h, List.splitOn_intercalate sep hys hne']

theorem sep_suffix_iff (xs ys : List α) :
    sep :: ys <:+ xs ↔ ProperSuffix (ys.splitOn sep) (xs.splitOn sep) := by
  rw [properSuffix_iff]
  constructor
  · rintro ⟨before, rfl⟩
    exact ⟨before.splitOn sep, List.splitOn_ne_nil _ _, List.splitOn_append_cons_self before ys⟩
  · rintro ⟨before, hne, hsplit⟩
    have hsep : ∀ piece ∈ before, sep ∉ piece := by
      intro piece hmem
      apply not_mem_of_mem_splitOn xs
      rw [hsplit]
      exact List.mem_append_left _ hmem
    have hbefore : ([sep].intercalate before).splitOn sep = before :=
      List.splitOn_intercalate sep hsep hne
    have hxs : xs.splitOn sep = ([sep].intercalate before ++ sep :: ys).splitOn sep := by
      rw [List.splitOn_append_cons_self, hbefore, hsplit]
    rw [splitOn_inj hxs]
    exact List.suffix_append _ _

theorem splitOn_suffix_iff (xs ys : List α) :
    ys.splitOn sep <:+ xs.splitOn sep ↔ xs = ys ∨ sep :: ys <:+ xs := by
  rw [sep_suffix_iff, ProperSuffix]
  constructor
  · intro h
    by_cases heq : ys.splitOn sep = xs.splitOn sep
    · exact Or.inl (splitOn_inj heq.symm)
    · exact Or.inr ⟨h, heq⟩
  · rintro (rfl | h)
    · exact List.suffix_refl _
    · exact h.1

end Segments
