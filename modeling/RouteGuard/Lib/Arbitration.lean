import Mathlib.Data.Set.Basic

/-! # Arbitration between two tiers of rules

A set of rules decides about a value.  A rule applies to it or not and belongs
to one of two tiers: a permitting rule that applies wins, otherwise a blocking
rule that applies wins, and where no rule applies the value is permitted. -/
set_option autoImplicit false
namespace Arbitration

inductive Tier where
  | permit
  | block
deriving DecidableEq, Repr

universe u v
variable {R : Type u} {X : Type v} (tier : R → Tier) (applies : R → X → Prop)

def Matched (wanted : Tier) (rules : Set R) (x : X) : Prop :=
  ∃ rule ∈ rules, tier rule = wanted ∧ applies rule x

def Permits (rules : Set R) (x : X) : Prop :=
  Matched tier applies .permit rules x ∨ ¬ Matched tier applies .block rules x

/-- All that an arbitration of any kind goes by. -/
def applying (rules : Set R) (x : X) : Set R := {rule | rule ∈ rules ∧ applies rule x}

theorem applying_congr {rules : Set R} {x y : X}
    (h : ∀ rule ∈ rules, applies rule x ↔ applies rule y) :
    applying applies rules x = applying applies rules y := by
  ext rule
  exact and_congr_right (h rule)

section Union
variable {tier applies} {rules added : Set R} {x : X} {wanted : Tier}

theorem matched_union : Matched tier applies wanted (rules ∪ added) x ↔
    Matched tier applies wanted rules x ∨ Matched tier applies wanted added x := by
  simp only [Matched, Set.mem_union, or_and_right, exists_or]

theorem permits_union : Permits tier applies (rules ∪ added) x ↔
    Matched tier applies .permit rules x ∨ Matched tier applies .permit added x ∨
      (¬ Matched tier applies .block rules x ∧ ¬ Matched tier applies .block added x) := by
  simp only [Permits, matched_union, not_or, or_assoc]

theorem permits_of_matched (h : Matched tier applies .permit rules x) :
    Permits tier applies rules x := Or.inl h

/-- Where a blocking rule applies, only a permitting one helps. -/
theorem permits_iff_of_blocked (h : Matched tier applies .block rules x) :
    Permits tier applies rules x ↔ Matched tier applies .permit rules x := by
  simp only [Permits, h, not_true_eq_false, or_false]

/-- Added rules of which none blocks change nothing exactly where they do not apply or the value
was permitted before. -/
theorem permits_union_eq_iff (hblock : ¬ Matched tier applies .block added x) :
    (Permits tier applies (rules ∪ added) x ↔ Permits tier applies rules x) ↔
      (Matched tier applies .permit added x → Permits tier applies rules x) := by
  rw [permits_union]
  constructor
  · intro h hadded
    exact h.mp (Or.inr (Or.inl hadded))
  · intro h
    constructor
    · intro hafter
      rcases hafter with hbefore | hadded | ⟨hnot, _⟩
      · exact Or.inl hbefore
      · exact h hadded
      · exact Or.inr hnot
    · intro hbefore
      rcases hbefore with hmatched | hnot
      · exact Or.inl hmatched
      · exact Or.inr (Or.inr ⟨hnot, hblock⟩)

end Union
end Arbitration
