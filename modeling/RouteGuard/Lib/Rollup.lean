import Mathlib.Data.List.DropRight
import Mathlib.Data.List.SplitBy

/-! # Rolling up a log

A log is kept in two forms: the newest entries as they are, and one entry for
each run of equal keys that is over.  Both can be found from what was kept
before the last entry. -/
set_option autoImplicit false
namespace Rollup

variable {A K : Type}

/-! ## The newest entries -/

section Newest
variable (n : Nat) (xs : List A) (a : A)

/-- `while q.len() > n { q.pop_front(); }` -/
def popExcess (n : Nat) : List A → List A
  | [] => []
  | a :: rest => if n < (a :: rest).length then popExcess n rest else a :: rest

theorem popExcess_eq_rtake : popExcess n xs = xs.rtake n := by
  induction xs with
  | nil => simp [popExcess]
  | cons first rest ih =>
      rw [popExcess, ih, List.rtake.eq_1, List.rtake.eq_1, List.length_cons]
      split
      · have hsplit : rest.length + 1 - n = rest.length - n + 1 := by omega
        rw [hsplit, List.drop_succ_cons]
      · have hzero : rest.length + 1 - n = 0 := by omega
        rw [hzero, List.drop_zero]

theorem take_popExcess : xs.take (xs.length - (popExcess n xs).length) ++ popExcess n xs = xs := by
  have hlength : xs.length - (popExcess n xs).length = xs.length - n := by
    rw [popExcess_eq_rtake, List.rtake.eq_1, List.length_drop]
    omega
  rw [hlength, popExcess_eq_rtake, List.rtake.eq_1, List.take_append_drop]

theorem mem_popExcess {n : Nat} {xs : List A} {a : A} (h : a ∈ popExcess n xs) : a ∈ xs := by
  rw [popExcess_eq_rtake, List.rtake.eq_1] at h
  exact List.mem_of_mem_drop h

/-- The newest entry stays unless there is room for none. -/
theorem last_mem_popExcess (hroom : n ≠ 0) : a ∈ popExcess n (xs ++ [a]) := by
  rw [popExcess_eq_rtake, List.rtake.eq_1, List.drop_append_of_le_length]
  · exact List.mem_append_right _ (List.mem_singleton_self a)
  · simp only [List.length_append, List.length_singleton]
    omega

theorem rtake_drop (k : Nat) (hk : k ≤ xs.length - n) : (xs.drop k).rtake n = xs.rtake n := by
  rw [List.rtake.eq_1, List.rtake.eq_1, List.length_drop, List.drop_drop]
  congr 1
  omega

/-- What was dropped before is not missed. -/
theorem rtake_rtake_concat : (xs.rtake n ++ [a]).rtake n = (xs ++ [a]).rtake n := by
  have hkept : xs.rtake n ++ [a] = (xs ++ [a]).drop (xs.length - n) := by
    rw [List.rtake.eq_1, List.drop_append_of_le_length (by omega)]
  rw [hkept, rtake_drop]
  rw [List.length_append, List.length_singleton]
  omega

theorem popExcess_push : popExcess n (xs.rtake n ++ [a]) = (xs ++ [a]).rtake n := by
  rw [popExcess_eq_rtake, rtake_rtake_concat]

theorem getLast?_rtake : (xs.rtake (n + 1)).getLast? = xs.getLast? := by
  rcases List.eq_nil_or_concat' xs with rfl | ⟨front, last, rfl⟩
  · simp
  · rw [List.rtake_concat_succ, List.getLast?_concat, List.getLast?_concat]

end Newest

/-! ## Runs of equal keys -/

section Runs
variable [DecidableEq K] (key : A → K)

def runs (xs : List A) : List (List A) := xs.splitBy fun a b => key a == key b

def closedRuns (xs : List A) : List (List A) := (runs key xs).dropLast

def openRun (xs : List A) : List A := (runs key xs).getLastD []

theorem closed_append_open (xs : List A) (hne : xs ≠ []) :
    closedRuns key xs ++ [openRun key xs] = runs key xs := by
  have hruns : runs key xs ≠ [] := List.splitBy_ne_nil.mpr hne
  rw [closedRuns, openRun, List.getLastD_eq_getLast?, List.getLast?_eq_some_getLast hruns,
    Option.getD_some, List.dropLast_append_getLast]

theorem flatten_runs (xs : List A) : (closedRuns key xs).flatten ++ openRun key xs = xs := by
  by_cases hne : xs = []
  · subst hne
    rfl
  · have hsplit := congrArg List.flatten (closed_append_open key xs hne)
    rw [List.flatten_append, List.flatten_singleton] at hsplit
    rw [hsplit]
    exact List.flatten_splitBy _ xs

theorem openRun_ne_nil (xs : List A) (hne : xs ≠ []) : openRun key xs ≠ [] := by
  have hmem : openRun key xs ∈ runs key xs := by
    rw [← closed_append_open key xs hne]
    exact List.mem_append_right _ (List.mem_singleton_self _)
  exact List.ne_nil_of_mem_splitBy hmem

theorem isChain_of_mem_runs {xs run : List A} (hmem : run ∈ runs key xs) :
    run.IsChain fun a b => key a = key b := by
  have hchain := List.isChain_of_mem_splitBy hmem
  simpa only [beq_iff_eq] using hchain

theorem key_of_mem_runs {xs run : List A} (hmem : run ∈ runs key xs) {a b : A} (ha : a ∈ run)
    (hb : b ∈ run) : key a = key b := by
  have hpair : run.Pairwise fun a b => key a = key b := by
    have : IsTrans A fun a b => key a = key b := ⟨fun _ _ _ h h' => h.trans h'⟩
    exact (isChain_of_mem_runs key hmem).pairwise
  have hsymm : Std.Symm fun a b => key a = key b := ⟨fun _ _ h => h.symm⟩
  exact List.Pairwise.forall_of_forall (R := fun a b => key a = key b) (fun _ _ => rfl) hpair ha hb

theorem openRun_key {xs : List A} {a b : A} (ha : a ∈ openRun key xs) (hb : b ∈ openRun key xs) :
    key a = key b := by
  have hne : xs ≠ [] := by
    rintro rfl
    cases ha
  have hmem : openRun key xs ∈ runs key xs := by
    rw [← closed_append_open key xs hne]
    exact List.mem_append_right _ (List.mem_singleton_self _)
  exact key_of_mem_runs key hmem ha hb

/-- An entry with another key ends the open run. -/
theorem runs_concat_other (xs : List A) (a : A) (hne : ∀ b ∈ openRun key xs, key b ≠ key a) :
    runs key (xs ++ [a]) = runs key xs ++ [[a]] := by
  refine List.splitBy_append_cons [] fun b hb => ?_
  have hxs : xs ≠ [] := by
    rintro rfl
    cases hb
  have hlast : b ∈ (openRun key xs).getLast? := by
    rw [← flatten_runs key xs, List.getLast?_append_of_ne_nil _ (openRun_ne_nil key xs hxs)] at hb
    exact hb
  exact beq_false_of_ne (hne b (List.mem_of_getLast? hlast))

/-- An entry with the key of the open run joins it. -/
theorem runs_concat_same (xs : List A) (a : A) (hxs : xs ≠ [])
    (hsame : ∀ b ∈ openRun key xs, key b = key a) :
    runs key (xs ++ [a]) = closedRuns key xs ++ [openRun key xs ++ [a]] := by
  have hsplit := closed_append_open key xs hxs
  have hopen := openRun_ne_nil key xs hxs
  obtain ⟨_, hnil, hchains, hborders⟩ := (List.splitBy_eq_iff (l := runs key xs)).mp rfl
  rw [runs, List.splitBy_eq_iff]
  rw [← hsplit] at hnil hchains hborders
  refine ⟨?_, ?_, ?_, ?_⟩
  · rw [List.flatten_append, List.flatten_singleton, ← List.append_assoc, flatten_runs]
  · simp only [List.mem_append, List.mem_singleton, not_or] at hnil ⊢
    exact ⟨hnil.1, by simp⟩
  · intro run hrun
    rcases List.mem_append.mp hrun with hclosed | hlast
    · exact hchains run (List.mem_append_left _ hclosed)
    · rw [List.mem_singleton.mp hlast, List.isChain_append]
      refine ⟨hchains _ (List.mem_append_right _ (List.mem_singleton_self _)),
        List.isChain_singleton a, ?_⟩
      intro b hb c hc
      rw [List.head?_cons, Option.mem_some_iff] at hc
      rw [← hc, hsame b (List.mem_of_getLast? hb), beq_self_eq_true]
  · rw [List.isChain_append] at hborders ⊢
    refine ⟨hborders.1, List.isChain_singleton _, ?_⟩
    intro before hbefore last hlast
    rw [List.head?_cons, Option.mem_some_iff] at hlast
    obtain ⟨ha, hb, hdiffer⟩ := hborders.2.2 before hbefore (openRun key xs) rfl
    subst hlast
    exact ⟨ha, by simp, by rw [List.head_append_of_ne_nil]; exact hdiffer⟩

theorem closedRuns_concat_other (xs : List A) (a : A) (hxs : xs ≠ [])
    (hne : ∀ b ∈ openRun key xs, key b ≠ key a) :
    closedRuns key (xs ++ [a]) = closedRuns key xs ++ [openRun key xs] ∧
      openRun key (xs ++ [a]) = [a] := by
  have hruns := runs_concat_other key xs a hne
  constructor
  · rw [closedRuns, hruns, List.dropLast_concat, closed_append_open key xs hxs]
  · rw [openRun, hruns, List.getLastD_concat]

theorem closedRuns_concat_same (xs : List A) (a : A) (hxs : xs ≠ [])
    (hsame : ∀ b ∈ openRun key xs, key b = key a) :
    closedRuns key (xs ++ [a]) = closedRuns key xs ∧
      openRun key (xs ++ [a]) = openRun key xs ++ [a] := by
  have hruns := runs_concat_same key xs a hxs hsame
  constructor
  · rw [closedRuns, hruns, List.dropLast_concat]
  · rw [openRun, hruns, List.getLastD_concat]

end Runs

end Rollup
