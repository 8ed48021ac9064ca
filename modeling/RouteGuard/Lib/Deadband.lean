import Mathlib.Data.List.Destutter

/-! # Reports of what has changed enough

A value is reported when it is far from the one reported last.  The values
reported are those that `List.destutter'` keeps. -/
set_option autoImplicit false
namespace Deadband

variable {A : Type} (far : A → A → Prop) [DecidableRel far]

def latest (told : A) (readings : List A) : A :=
  readings.foldl (fun told reading => if far told reading then reading else told) told

def changes (told : A) (readings : List A) : List (A × A) :=
  (readings.destutter' far told).dropLast.zip (readings.destutter' far told).tail

theorem latest_concat (told : A) (readings : List A) (reading : A) :
    latest far told (readings ++ [reading]) =
      if far (latest far told readings) reading then reading else latest far told readings := by
  rw [latest, List.foldl_append]
  rfl

theorem destutter'_concat (told : A) (readings : List A) (reading : A) :
    (readings ++ [reading]).destutter' far told =
      if far (latest far told readings) reading then readings.destutter' far told ++ [reading]
      else readings.destutter' far told := by
  induction readings generalizing told with
  | nil =>
      rw [List.nil_append, List.destutter'_singleton]
      rfl
  | cons first rest ih =>
      rw [List.cons_append, List.destutter'_cons, List.destutter'_cons, latest, List.foldl_cons]
      split
      · rw [ih, latest]
        split <;> rfl
      · exact ih told

theorem getLast?_destutter' (told : A) (readings : List A) :
    (readings.destutter' far told).getLast? = some (latest far told readings) := by
  induction readings using List.reverseRecOn with
  | nil => rfl
  | append_singleton readings reading ih =>
      rw [destutter'_concat, latest_concat]
      split
      · exact List.getLast?_concat
      · exact ih

theorem pairs_concat (front : List A) (a b : A) :
    (front ++ [a] ++ [b]).dropLast.zip (front ++ [a] ++ [b]).tail =
      (front ++ [a]).dropLast.zip (front ++ [a]).tail ++ [(a, b)] := by
  have hlength : front.length = (front ++ [a]).tail.length := by
    rw [List.length_tail, List.length_append, List.length_singleton, Nat.add_sub_cancel]
  rw [List.dropLast_concat, List.dropLast_concat, List.tail_append_of_ne_nil (by simp),
    List.zip_append hlength]
  rfl

theorem changes_concat (told : A) (readings : List A) (reading : A) :
    changes far told (readings ++ [reading]) =
      if far (latest far told readings) reading
        then changes far told readings ++ [(latest far told readings, reading)]
      else changes far told readings := by
  rw [changes, destutter'_concat]
  split
  · obtain ⟨front, hfront⟩ := List.getLast?_eq_some_iff.mp (getLast?_destutter' far told readings)
    rw [changes, hfront, pairs_concat]
  · rfl

/-- Where every difference is reported, a reading is reported unless it repeats the one before. -/
theorem destutter_ne_concat [DecidableEq A] (readings : List A) (reading : A) :
    (readings ++ [reading]).destutter (· ≠ ·) =
      if readings.getLast? = some reading then readings.destutter (· ≠ ·)
      else readings.destutter (· ≠ ·) ++ [reading] := by
  cases readings with
  | nil => rfl
  | cons first rest =>
      have hlast : (first :: rest).getLast? = some (latest (· ≠ ·) first rest) := by
        induction rest using List.reverseRecOn with
        | nil => rfl
        | append_singleton rest next ih =>
            rw [← List.cons_append, List.getLast?_concat, latest_concat]
            split
            · rfl
            · rename_i heq
              rw [not_not.mp heq]
      rw [hlast, List.cons_append, List.destutter_cons', List.destutter_cons', destutter'_concat]
      by_cases heq : latest (· ≠ ·) first rest = reading
      · rw [if_neg (not_not.mpr heq), if_pos (congrArg some heq)]
      · rw [if_pos heq, if_neg fun h => heq (Option.some.inj h)]

end Deadband
