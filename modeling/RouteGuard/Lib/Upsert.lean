import Mathlib.Data.List.Basic

/-! # Rows that are written over by key

A table holds rows under keys.  Writing a row takes the rows of its key out and
puts it at the end; of a list of writes each key keeps the last. -/
set_option autoImplicit false
namespace Upsert

variable {K R : Type} (key : R → K)

/-- The row is the last of its key among the writes. -/
def LastWrite (news : List R) (row : R) : Prop :=
  ∃ front back, news = front ++ row :: back ∧ ∀ later ∈ back, key later ≠ key row

section LastWrites
variable {news : List R} {row : R}

theorem not_lastWrite_nil : ¬LastWrite key [] row := by
  intro h
  obtain ⟨front, back, hsplit, _⟩ := h
  exact List.append_ne_nil_of_right_ne_nil front (List.cons_ne_nil row back) hsplit.symm

theorem lastWrite_cons (first : R) :
    LastWrite key (first :: news) row ↔
      LastWrite key news row ∨ row = first ∧ ∀ later ∈ news, key later ≠ key row := by
  constructor
  · intro h
    obtain ⟨front, back, hsplit, hback⟩ := h
    cases front with
    | nil =>
        obtain ⟨rfl, rfl⟩ := List.cons.inj hsplit
        exact Or.inr ⟨rfl, hback⟩
    | cons head front =>
        obtain ⟨_, hrest⟩ := List.cons.inj hsplit
        exact Or.inl ⟨front, back, hrest, hback⟩
  · intro h
    rcases h with ⟨front, back, rfl, hback⟩ | ⟨rfl, hback⟩
    · exact ⟨first :: front, back, rfl, hback⟩
    · exact ⟨[], news, rfl, hback⟩

theorem LastWrite.mem (h : LastWrite key news row) : row ∈ news := by
  obtain ⟨front, back, rfl, _⟩ := h
  exact List.mem_append_right front List.mem_cons_self

theorem lastWrite_unique {other : R} (h : LastWrite key news row) (h' : LastWrite key news other)
    (hkey : key row = key other) : row = other := by
  induction news with
  | nil => exact absurd h (not_lastWrite_nil key)
  | cons first rest ih =>
      rcases (lastWrite_cons key first).mp h with hlast | ⟨hfirst, hrest⟩
      · rcases (lastWrite_cons key first).mp h' with hlast' | ⟨_, hrest'⟩
        · exact ih hlast hlast'
        · exact absurd hkey (hrest' row hlast.mem)
      · rcases (lastWrite_cons key first).mp h' with hlast' | ⟨hfirst', _⟩
        · exact absurd hkey.symm (hrest other hlast'.mem)
        · exact hfirst.trans hfirst'.symm

/-- Every key that is written has a last write. -/
theorem exists_lastWrite (h : row ∈ news) :
    ∃ final, LastWrite key news final ∧ key final = key row := by
  induction news generalizing row with
  | nil => exact absurd h List.not_mem_nil
  | cons first rest ih =>
      by_cases hlater : ∃ later ∈ rest, key later = key row
      · obtain ⟨later, hmem, hkey⟩ := hlater
        obtain ⟨final, hfinal, hsame⟩ := ih hmem
        exact ⟨final, (lastWrite_cons key first).mpr (Or.inl hfinal), hsame.trans hkey⟩
      · have hfirst : row = first := by
          rcases List.mem_cons.mp h with hfirst | hrest
          · exact hfirst
          · exact absurd ⟨row, hrest, rfl⟩ hlater
        refine ⟨row, (lastWrite_cons key first).mpr (Or.inr ⟨hfirst, ?_⟩), rfl⟩
        intro later hmem hkey
        exact hlater ⟨later, hmem, hkey⟩

/-- The writes change nothing: each last write was there, as the only row of its key. -/
def Kept (rows news : List R) : Prop :=
  ∀ row, LastWrite key news row → row ∈ rows ∧ ∀ other ∈ rows, key other = key row → other = row

end LastWrites

/-! ## Tables -/

variable [DecidableEq K]

def upsert (rows : List R) (row : R) : List R :=
  rows.filter (fun other => !decide (key other = key row)) ++ [row]

def upsertAll (rows news : List R) : List R := news.foldl (upsert key) rows

section Tables
variable {rows news : List R} {row : R}

theorem mem_upsert (new : R) :
    row ∈ upsert key rows new ↔ row = new ∨ row ∈ rows ∧ key row ≠ key new := by
  simp only [upsert, List.mem_append, List.mem_filter, List.mem_singleton, Bool.not_eq_true',
    decide_eq_false_iff_not]
  exact or_comm

/-- After the writes: the last write of each key, and the rows whose key is not written. -/
theorem mem_upsertAll :
    row ∈ upsertAll key rows news ↔
      LastWrite key news row ∨ row ∈ rows ∧ ∀ new ∈ news, key new ≠ key row := by
  induction news generalizing rows with
  | nil => simp [upsertAll, not_lastWrite_nil]
  | cons first rest ih =>
      have hrest : upsertAll key rows (first :: rest) =
          upsertAll key (upsert key rows first) rest := rfl
      rw [hrest, ih, mem_upsert, lastWrite_cons, List.forall_mem_cons]
      constructor
      · intro h
        rcases h with hlast | ⟨hfirst | ⟨hold, hkey⟩, hunwritten⟩
        · exact Or.inl (Or.inl hlast)
        · exact Or.inl (Or.inr ⟨hfirst, hunwritten⟩)
        · exact Or.inr ⟨hold, fun h => hkey h.symm, hunwritten⟩
      · intro h
        rcases h with (hlast | ⟨hfirst, hunwritten⟩) | ⟨hold, hkey, hunwritten⟩
        · exact Or.inl hlast
        · exact Or.inr ⟨Or.inl hfirst, hunwritten⟩
        · exact Or.inr ⟨Or.inr ⟨hold, fun h => hkey h.symm⟩, hunwritten⟩

theorem upsertAll_same_iff :
    (∀ row, row ∈ upsertAll key rows news ↔ row ∈ rows) ↔ Kept key rows news := by
  constructor
  · intro hsame row hlast
    refine ⟨(hsame row).mp ((mem_upsertAll key).mpr (Or.inl hlast)), ?_⟩
    intro other hother hkey
    rcases (mem_upsertAll key).mp ((hsame other).mpr hother) with hlast' | ⟨_, hunwritten⟩
    · exact lastWrite_unique key hlast' hlast hkey
    · exact absurd hkey.symm (hunwritten row hlast.mem)
  · intro hkept row
    rw [mem_upsertAll]
    constructor
    · intro h
      rcases h with hlast | ⟨hold, _⟩
      · exact (hkept row hlast).1
      · exact hold
    · intro hold
      by_cases hwritten : ∃ new ∈ news, key new = key row
      · obtain ⟨new, hmem, hkey⟩ := hwritten
        obtain ⟨final, hfinal, hsame⟩ := exists_lastWrite key hmem
        have hrow : row = final := (hkept final hfinal).2 row hold (hkey.symm.trans hsame.symm)
        rw [hrow]
        exact Or.inl hfinal
      · refine Or.inr ⟨hold, ?_⟩
        intro new hmem hkey
        exact hwritten ⟨new, hmem, hkey⟩

end Tables
end Upsert
