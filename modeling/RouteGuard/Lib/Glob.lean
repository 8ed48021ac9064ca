import Mathlib.Data.List.Infix

/-! # Patterns with gaps

A pattern over an arbitrary alphabet whose `star` letters stand for arbitrary
texts.  Cut at the stars it is a list of parts that a text contains one after
another; searching each part at its leftmost occurrence misses no text, since
what the leftmost occurrence leaves is the longest remainder. -/
set_option autoImplicit false
namespace Glob

variable {α : Type}

/-- `text` is `pattern` with each `star` replaced by some text. -/
inductive Replaces (star : α) : List α → List α → Prop
  | nil : Replaces star [] []
  | letter {c : α} {pattern text : List α} (hc : c ≠ star) (h : Replaces star pattern text) :
      Replaces star (c :: pattern) (c :: text)
  | star {pattern text : List α} (fill : List α) (h : Replaces star pattern text) :
      Replaces star (star :: pattern) (fill ++ text)

/-- The parts stand in the text in this order, each after a gap, and the text ends with the
last. -/
def Follows : List (List α) → List α → Prop
  | [], text => text = []
  | part :: rest, text => ∃ gap after, text = gap ++ (part ++ after) ∧ Follows rest after

theorem follows_singleton (last text : List α) : Follows [last] text ↔ last <:+ text := by
  constructor
  · rintro ⟨gap, after, rfl, rfl⟩
    rw [List.append_nil]
    exact List.suffix_append gap last
  · rintro ⟨gap, rfl⟩
    exact ⟨gap, [], by rw [List.append_nil], rfl⟩

theorem Follows.mono {parts : List (List α)} {text longer : List α} (hparts : parts ≠ [])
    (h : Follows parts text) (hsuffix : text <:+ longer) : Follows parts longer := by
  cases parts with
  | nil => exact absurd rfl hparts
  | cons part rest =>
      obtain ⟨gap, after, rfl, hrest⟩ := h
      obtain ⟨before, rfl⟩ := hsuffix
      exact ⟨before ++ gap, after, by rw [List.append_assoc], hrest⟩

theorem follows_nil_cons {rest : List (List α)} (hrest : rest ≠ []) (text : List α) :
    Follows ([] :: rest) text ↔ Follows rest text := by
  constructor
  · rintro ⟨gap, after, rfl, h⟩
    exact h.mono hrest (List.suffix_append gap after)
  · intro h
    exact ⟨[], text, rfl, h⟩

/-! ## The leftmost occurrence -/

/-- What follows the leftmost occurrence of `part`, or `none` when it does not occur. -/
def Leftmost (part text : List α) : Option (List α) → Prop
  | none => ∀ gap after, text ≠ gap ++ (part ++ after)
  | some remainder => (∃ gap, text = gap ++ (part ++ remainder)) ∧
      ∀ gap after, text = gap ++ (part ++ after) → after <:+ remainder

/-- The exchange: a text in which the parts follow one another anyhow is also matched with the
first part at its leftmost occurrence. -/
theorem Leftmost.follows_iff {part text remainder : List α} {rest : List (List α)}
    (h : Leftmost part text (some remainder)) (hrest : rest ≠ []) :
    Follows (part :: rest) text ↔ Follows rest remainder := by
  obtain ⟨⟨gap, htext⟩, hlongest⟩ := h
  constructor
  · rintro ⟨gap', after, htext', hfollows⟩
    exact hfollows.mono hrest (hlongest gap' after htext')
  · intro hfollows
    exact ⟨gap, remainder, htext, hfollows⟩

theorem Leftmost.not_follows {part text : List α} {rest : List (List α)}
    (h : Leftmost part text none) : ¬ Follows (part :: rest) text := by
  rintro ⟨gap, after, htext, _⟩
  exact h gap after htext

theorem leftmost_front (part after : List α) : Leftmost part (part ++ after) (some after) := by
  refine ⟨⟨[], rfl⟩, ?_⟩
  intro gap after' htext
  have hafter : after' <:+ part ++ after := by
    rw [htext, ← List.append_assoc]
    exact List.suffix_append (gap ++ part) after'
  apply List.suffix_of_suffix_length_le hafter (List.suffix_append part after)
  have hlen := congrArg List.length htext
  simp only [List.length_append] at hlen
  omega

theorem Leftmost.cons {part text : List α} {c : α} {found : Option (List α)}
    (hfront : ¬ part <+: c :: text) (h : Leftmost part text found) :
    Leftmost part (c :: text) found := by
  have hgap : ∀ gap after, c :: text = gap ++ (part ++ after) →
      ∃ gap', text = gap' ++ (part ++ after) := by
    intro gap after htext
    cases gap with
    | nil => exact absurd ⟨after, htext.symm⟩ hfront
    | cons d gap =>
        injection htext with _ htext
        exact ⟨gap, htext⟩
  cases found with
  | none =>
      intro gap after htext
      obtain ⟨gap', htext'⟩ := hgap gap after htext
      exact h gap' after htext'
  | some remainder =>
      obtain ⟨⟨gap, hremainder⟩, hlongest⟩ := h
      refine ⟨⟨c :: gap, by rw [hremainder, List.cons_append]⟩, ?_⟩
      intro gap' after htext
      obtain ⟨gap'', htext'⟩ := hgap gap' after htext
      exact hlongest gap'' after htext'

/-! ## Parts of a pattern -/

section Parts
variable [DecidableEq α] {star : α}

/-- A text matches when it starts with the first part and the others follow. -/
theorem replaces_iff (pattern : List α) : ∀ (first : List α) (more : List (List α)),
    pattern.splitOn star = first :: more → ∀ text : List α,
      (Replaces star pattern text ↔ ∃ after, text = first ++ after ∧ Follows more after) := by
  induction pattern with
  | nil =>
      intro first more hsplit text
      rw [List.splitOn_nil] at hsplit
      injection hsplit with hfirst hmore
      subst hfirst hmore
      constructor
      · intro h
        cases h
        exact ⟨[], rfl, rfl⟩
      · rintro ⟨after, rfl, rfl⟩
        exact .nil
  | cons c rest ih =>
      intro first more hsplit text
      obtain ⟨head, tail, hrest⟩ := List.exists_cons_of_ne_nil (List.splitOn_ne_nil star rest)
      rw [List.splitOn_cons_eq_if_modifyHead, hrest] at hsplit
      by_cases hc : c = star
      · subst hc
        rw [if_pos (beq_self_eq_true c)] at hsplit
        injection hsplit with hfirst hmore
        subst hfirst hmore
        constructor
        · intro h
          cases h with
          | letter hne _ => exact absurd rfl hne
          | star fill h =>
              obtain ⟨after, rfl, hfollows⟩ := (ih head tail hrest _).mp h
              exact ⟨_, rfl, fill, after, rfl, hfollows⟩
        · rintro ⟨_, rfl, gap, after, rfl, hfollows⟩
          exact .star gap ((ih head tail hrest _).mpr ⟨after, rfl, hfollows⟩)
      · rw [if_neg (by simpa using hc), List.modifyHead_cons] at hsplit
        injection hsplit with hfirst hmore
        subst hfirst hmore
        constructor
        · intro h
          cases h with
          | letter _ h =>
              obtain ⟨after, rfl, hfollows⟩ := (ih head tail hrest _).mp h
              exact ⟨after, rfl, hfollows⟩
          | star fill h => exact absurd rfl hc
        · rintro ⟨after, rfl, hfollows⟩
          exact .letter hc ((ih head tail hrest _).mpr ⟨after, rfl, hfollows⟩)

theorem splitOn_more_ne_nil {pattern first : List α} {more : List (List α)}
    (hstar : star ∈ pattern) (hsplit : pattern.splitOn star = first :: more) : more ≠ [] := by
  obtain ⟨before, after, rfl⟩ := List.append_of_mem hstar
  rw [List.splitOn_append_cons_self] at hsplit
  have hlen := congrArg List.length hsplit
  rw [List.length_append, List.length_cons] at hlen
  have hbefore := List.length_pos_iff.mpr (List.splitOn_ne_nil star before)
  have hafter := List.length_pos_iff.mpr (List.splitOn_ne_nil star after)
  apply List.length_pos_iff.mp
  omega

end Parts
end Glob
