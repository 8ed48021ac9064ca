import Mathlib.Data.List.MinMax
import Mathlib.Data.Prod.Lex
import Mathlib.Order.OrderDual

/-! # Longest prefix, lowest metric

Selection of a row among those that match: the greatest length wins, and among
rows of that length the lowest metric. -/
set_option autoImplicit false
namespace LongestPrefix

variable {R : Type} (len metric : R → Nat)

/-- Order of preference: longer first, then cheaper. -/
def rank (row : R) : Nat ×ₗ Natᵒᵈ := toLex (len row, OrderDual.toDual (metric row))

def best (rows : List R) : Option R := rows.argmax (rank len metric)

def Beats (row other : R) : Prop :=
  len other < len row ∨ len other = len row ∧ metric row ≤ metric other

theorem rank_le_iff (row other : R) :
    rank len metric other ≤ rank len metric row ↔ Beats len metric row other := by
  rw [rank, rank, Prod.Lex.toLex_le_toLex]
  rfl

theorem best_beats {rows : List R} {row : R} (h : best len metric rows = some row) :
    row ∈ rows ∧ ∀ other ∈ rows, Beats len metric row other := by
  refine ⟨List.argmax_mem h, ?_⟩
  intro other hother
  exact (rank_le_iff len metric row other).mp (List.le_of_mem_argmax hother h)

theorem exists_best {rows : List R} {row : R} (h : row ∈ rows) :
    ∃ found, best len metric rows = some found := by
  cases hbest : best len metric rows with
  | none =>
      rw [best, List.argmax_eq_none] at hbest
      rw [hbest] at h
      cases h
  | some found => exact ⟨found, rfl⟩

/-! ## Every best row -/

/-- Rows of one length and metric are equally good, and any of them may be taken. -/
def IsBest (rows : List R) (row : R) : Prop :=
  row ∈ rows ∧ ∀ other ∈ rows, Beats len metric row other

def Outranks (row other : R) : Prop :=
  len other < len row ∨ len other = len row ∧ metric row < metric other

theorem not_beats_iff (row other : R) :
    ¬Beats len metric row other ↔ Outranks len metric other row := by
  unfold Beats Outranks
  omega

theorem beats_trans {a b c : R} (hab : Beats len metric a b) (hbc : Beats len metric b c) :
    Beats len metric a c := by
  unfold Beats at *
  omega

/-- The best rows avoid `T` exactly when every row of `T` is outranked by a row outside of it. -/
theorem isBest_avoids_iff (rows : List R) (T : R → Prop) :
    (∀ row, IsBest len metric rows row → ¬T row) ↔
      ∀ row ∈ rows, T row → ∃ other ∈ rows, ¬T other ∧ Outranks len metric other row := by
  constructor
  · intro havoids row hrow htaken
    obtain ⟨found, hfound⟩ := exists_best len metric hrow
    have hbest := best_beats len metric hfound
    refine ⟨found, hbest.1, havoids found hbest, ?_⟩
    rw [← not_beats_iff]
    intro hbeats
    refine havoids row ⟨hrow, fun other hother => ?_⟩ htaken
    exact beats_trans len metric hbeats (hbest.2 other hother)
  · intro houtranked row hbest htaken
    obtain ⟨other, hother, _, houtranks⟩ := houtranked row hbest.1 htaken
    exact (not_beats_iff len metric row other).mpr houtranks (hbest.2 other hother)

end LongestPrefix
