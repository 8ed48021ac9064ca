import Mathlib.Data.List.Sort
import Mathlib.Data.List.MinMax

/-! # The first of least key

Selection from a list under a filter: among the elements that match, one of
least key, and of those the first.  `argmin` computes it, and a stable sort of
the list by the key does not change it. -/
set_option autoImplicit false
namespace LeastFirst

variable {α β : Type} (key : α → Nat) (matching : α → Bool)

/-- The outcome of a selection: the first, in list order, of the matching elements of least
key, or `none` when nothing matches. -/
def Selects (list : List α) : Option α → Prop
  | none => ∀ other ∈ list, matching other = false
  | some found => ∃ before after, list = before ++ found :: after ∧ matching found = true ∧
      (∀ other ∈ before, matching other = true → key found < key other) ∧
      (∀ other ∈ after, matching other = true → key found ≤ key other)

def select (list : List α) : Option α := (list.filter matching).argmin key

variable {key matching}

theorem select_cons_neg {a : α} (h : matching a = false) (list : List α) :
    select key matching (a :: list) = select key matching list := by
  rw [select, List.filter_cons_of_neg (by simp [h]), select]

theorem select_cons_pos {a : α} (h : matching a = true) (list : List α) :
    select key matching (a :: list) =
      match select key matching list with
      | none => some a
      | some c => if key c < key a then some c else some a := by
  rw [select, List.filter_cons_of_pos h, List.argmin_cons, select]
  cases (list.filter matching).argmin key <;> rfl

theorem select_selects (list : List α) : Selects key matching list (select key matching list) := by
  induction list with
  | nil => intro other hother; cases hother
  | cons a rest ih =>
      cases ha : matching a with
      | false =>
          rw [select_cons_neg ha]
          cases hsel : select key matching rest with
          | none =>
              rw [hsel] at ih
              intro other hother
              rcases List.mem_cons.mp hother with rfl | hother
              · exact ha
              · exact ih other hother
          | some found =>
              rw [hsel] at ih
              obtain ⟨before, after, hsplit, hmatch, hbefore, hafter⟩ := ih
              refine ⟨a :: before, after, by rw [hsplit, List.cons_append], hmatch, ?_, hafter⟩
              intro other hother hm
              rcases List.mem_cons.mp hother with rfl | hother
              · rw [ha] at hm
                cases hm
              · exact hbefore other hother hm
      | true =>
          rw [select_cons_pos ha]
          cases hsel : select key matching rest with
          | none =>
              rw [hsel] at ih
              refine ⟨[], rest, rfl, ha, by simp, ?_⟩
              intro other hother hm
              rw [ih other hother] at hm
              cases hm
          | some found =>
              rw [hsel] at ih
              obtain ⟨before, after, hsplit, hmatch, hbefore, hafter⟩ := ih
              by_cases hlt : key found < key a
              · simp only [if_pos hlt]
                refine ⟨a :: before, after, by rw [hsplit, List.cons_append], hmatch, ?_, hafter⟩
                intro other hother hm
                rcases List.mem_cons.mp hother with rfl | hother
                · exact hlt
                · exact hbefore other hother hm
              · simp only [if_neg hlt]
                refine ⟨[], rest, rfl, ha, by simp, ?_⟩
                intro other hother hm
                rw [hsplit] at hother
                rcases List.mem_append.mp hother with hother | hother
                · have := hbefore other hother hm
                  omega
                · rcases List.mem_cons.mp hother with rfl | hother
                  · omega
                  · have := hafter other hother hm
                    omega

theorem selects_of_eq {list : List α} {outcome : Option α}
    (h : select key matching list = outcome) : Selects key matching list outcome := by
  rw [← h]
  exact select_selects list

theorem select_swap {a b : α} (h : key b < key a) (list : List α) :
    select key matching (a :: b :: list) = select key matching (b :: a :: list) := by
  cases ha : matching a with
  | false =>
      cases hb : matching b with
      | false => rw [select_cons_neg ha, select_cons_neg hb, select_cons_neg hb, select_cons_neg ha]
      | true =>
          rw [select_cons_neg ha, select_cons_pos hb, select_cons_pos hb, select_cons_neg ha]
  | true =>
      cases hb : matching b with
      | false => rw [select_cons_pos ha, select_cons_neg hb, select_cons_neg hb, select_cons_pos ha]
      | true =>
          rw [select_cons_pos ha, select_cons_pos hb, select_cons_pos hb, select_cons_pos ha]
          cases select key matching list with
          | none => simp only [if_pos h, if_neg (Nat.not_lt.mpr (Nat.le_of_lt h))]
          | some c => grind

theorem select_congr_cons (a : α) {list other : List α}
    (h : select key matching list = select key matching other) :
    select key matching (a :: list) = select key matching (a :: other) := by
  cases ha : matching a with
  | false => rw [select_cons_neg ha, select_cons_neg ha, h]
  | true => rw [select_cons_pos ha, select_cons_pos ha, h]

theorem select_orderedInsert (a : α) (list : List α) :
    select key matching (list.orderedInsert (fun x y => key x ≤ key y) a) =
      select key matching (a :: list) := by
  induction list with
  | nil => rfl
  | cons b rest ih =>
      by_cases hle : key a ≤ key b
      · rw [List.orderedInsert_cons, if_pos hle]
      · rw [List.orderedInsert_cons, if_neg hle, select_congr_cons b ih]
        exact (select_swap (Nat.lt_of_not_le hle) rest).symm

/-- A stable sort by the key leaves the selection as it is. -/
theorem select_insertionSort (list : List α) :
    select key matching (list.insertionSort fun x y => key x ≤ key y) =
      select key matching list := by
  induction list with
  | nil => rfl
  | cons a rest ih =>
      rw [List.insertionSort_cons, select_orderedInsert]
      exact select_congr_cons a ih

theorem select_map (f : β → α) (list : List β) :
    select key matching (list.map f) =
      (select (fun b => key (f b)) (fun b => matching (f b)) list).map f := by
  induction list with
  | nil => rfl
  | cons b rest ih =>
      rw [List.map_cons]
      cases hb : matching (f b) with
      | false =>
          rw [select_cons_neg hb, ih]
          exact (congrArg _ (@select_cons_neg _ (fun b => key (f b)) _ _ hb rest)).symm
      | true =>
          rw [select_cons_pos hb, @select_cons_pos _ (fun b => key (f b)) _ _ hb rest, ih]
          cases select (fun b => key (f b)) (fun b => matching (f b)) rest with
          | none => rfl
          | some c =>
              simp only [Option.map_some]
              by_cases hlt : key (f c) < key (f b)
              · rw [if_pos hlt, if_pos hlt, Option.map_some]
              · rw [if_neg hlt, if_neg hlt, Option.map_some]

/-! ## In sorted lists -/

theorem select_mem {list : List α} {found : α} (h : select key matching list = some found) :
    found ∈ list ∧ matching found = true ∧
      ∀ other ∈ list, matching other = true → key found ≤ key other := by
  obtain ⟨before, after, rfl, hmatch, hbefore, hafter⟩ := selects_of_eq h
  refine ⟨by simp, hmatch, ?_⟩
  intro other hother hm
  rcases List.mem_append.mp hother with hother | hother
  · exact Nat.le_of_lt (hbefore other hother hm)
  · rcases List.mem_cons.mp hother with rfl | hother
    · exact Nat.le_refl _
    · exact hafter other hother hm

theorem find_sorted {list : List α} (h : list.Pairwise fun x y => key x ≤ key y) :
    list.find? matching = select key matching list := by
  induction list with
  | nil => rfl
  | cons a rest ih =>
      obtain ⟨hhead, htail⟩ := List.pairwise_cons.mp h
      cases ha : matching a with
      | false => rw [List.find?_cons_of_neg (by simp [ha]), select_cons_neg ha, ih htail]
      | true =>
          rw [List.find?_cons_of_pos ha, select_cons_pos ha]
          cases hsel : select key matching rest with
          | none => rfl
          | some c =>
              have hle := hhead c (select_mem hsel).1
              simp only [if_neg (Nat.not_lt.mpr hle)]

theorem select_eq_none {list : List α} (h : select key matching list = none) :
    ∀ other ∈ list, matching other = false :=
  selects_of_eq h

theorem select_key (list : List α) :
    (select key matching list).map key = ((list.filter matching).map key).min? := by
  cases hsel : select key matching list with
  | none =>
      have hempty : list.filter matching = [] := by
        rw [List.filter_eq_nil_iff]
        intro other hother
        rw [select_eq_none hsel other hother]
        exact Bool.false_ne_true
      rw [hempty]
      rfl
  | some found =>
      obtain ⟨hmem, hmatch, hleast⟩ := select_mem hsel
      symm
      rw [Option.map_some, List.min?_eq_some_iff]
      refine ⟨List.mem_map.mpr ⟨found, List.mem_filter.mpr ⟨hmem, hmatch⟩, rfl⟩, ?_⟩
      intro k hk
      obtain ⟨other, hother, rfl⟩ := List.mem_map.mp hk
      obtain ⟨hother, hm⟩ := List.mem_filter.mp hother
      exact hleast other hother hm

/-- A wider test selects an element of the same key just when each element it adds is no better
than one that already matched. -/
theorem select_key_eq_iff {wider : α → Bool} (hwider : ∀ a, matching a = true → wider a = true)
    (list : List α) :
    (select key wider list).map key = (select key matching list).map key ↔
      ∀ a ∈ list, wider a = true → matching a = false →
        ∃ b ∈ list, matching b = true ∧ key b ≤ key a := by
  constructor
  · intro heq a hmem hwide hnot
    cases hsel : select key wider list with
    | none =>
        rw [select_eq_none hsel a hmem] at hwide
        cases hwide
    | some found =>
        rw [hsel, Option.map_some] at heq
        obtain ⟨b, hb, hkey⟩ := Option.map_eq_some_iff.mp heq.symm
        obtain ⟨hbmem, hbmatch, _⟩ := select_mem hb
        refine ⟨b, hbmem, hbmatch, ?_⟩
        rw [hkey]
        exact (select_mem hsel).2.2 a hmem hwide
  · intro hcovered
    cases hsel : select key wider list with
    | none =>
        cases hsel' : select key matching list with
        | none => rfl
        | some found =>
            obtain ⟨hmem, hmatch, _⟩ := select_mem hsel'
            have hfalse := select_eq_none hsel found hmem
            rw [hwider found hmatch] at hfalse
            cases hfalse
    | some found =>
        obtain ⟨hmem, hwide, hleast⟩ := select_mem hsel
        have hbetter : ∃ b ∈ list, matching b = true ∧ key b ≤ key found := by
          cases hm : matching found with
          | true => exact ⟨found, hmem, hm, Nat.le_refl _⟩
          | false => exact hcovered found hmem hwide hm
        obtain ⟨b, hbmem, hbmatch, hble⟩ := hbetter
        cases hsel' : select key matching list with
        | none =>
            rw [select_eq_none hsel' b hbmem] at hbmatch
            cases hbmatch
        | some found' =>
            obtain ⟨hmem', hmatch', hleast'⟩ := select_mem hsel'
            have hle := hleast found' hmem' (hwider found' hmatch')
            have hle' := hleast' b hbmem hbmatch
            rw [Option.map_some, Option.map_some]
            apply congrArg some
            omega

/-! ## A last element -/

/-- An element put behind a list is selected from it just when it is better than every match
that stands before it. -/
theorem select_append_eq_iff {list : List α} {a : α} (hmatch : matching a = true)
    (hnew : a ∉ list) :
    select key matching (list ++ [a]) = some a ↔
      ∀ b ∈ list, matching b = true → key a < key b := by
  have hlast : a ∈ list ++ [a] := List.mem_append_right _ List.mem_cons_self
  constructor
  · intro hsel
    obtain ⟨before, after, hsplit, _, hbefore, _⟩ := selects_of_eq hsel
    have hlist : list = before := by
      rcases List.eq_nil_or_concat after with rfl | ⟨after, last, rfl⟩
      · exact (List.append_inj' hsplit rfl).1
      · have hparts : list ++ [a] = (before ++ a :: after) ++ [last] := by
          rw [hsplit, List.concat_eq_append, List.append_assoc, List.cons_append]
        have hlist := (List.append_inj' hparts rfl).1
        rw [hlist] at hnew
        exact absurd (by simp) hnew
    rw [hlist]
    exact hbefore
  · intro hbest
    cases hsel : select key matching (list ++ [a]) with
    | none =>
        rw [select_eq_none hsel a hlast] at hmatch
        cases hmatch
    | some found =>
        obtain ⟨hmem, hm, hleast⟩ := select_mem hsel
        have hle := hleast a hlast hmatch
        rcases List.mem_append.mp hmem with hmem | hmem
        · have := hbest found hmem hm
          omega
        · rw [List.mem_singleton.mp hmem]

section Erase
variable [DecidableEq α]

theorem eraseP_eq_erase {list : List α} {a : α} (h : list.find? matching = some a) :
    list.eraseP matching = list.erase a := by
  induction list with
  | nil => cases h
  | cons b rest ih =>
      cases hb : matching b with
      | true =>
          rw [List.find?_cons_of_pos hb] at h
          injection h with h
          rw [List.eraseP_cons_of_pos hb, h, List.erase_cons_head]
      | false =>
          rw [List.find?_cons_of_neg (by simp [hb])] at h
          have hne : b ≠ a := by
            intro heq
            rw [heq, List.find?_some h] at hb
            cases hb
          rw [List.eraseP_cons_of_neg (by simp [hb]), ih h,
            List.erase_cons_tail (by simpa using hne)]

theorem erase_orderedInsert_comm {a b : α} (hne : b ≠ a) {list : List α}
    (hsorted : list.Pairwise fun x y => key x ≤ key y) :
    (list.orderedInsert (fun x y => key x ≤ key y) b).erase a =
      (list.erase a).orderedInsert (fun x y => key x ≤ key y) b := by
  induction list with
  | nil => rw [List.orderedInsert_nil, List.erase_cons_tail (by simpa using hne)]; rfl
  | cons c rest ih =>
      obtain ⟨hhead, htail⟩ := List.pairwise_cons.mp hsorted
      by_cases hle : key b ≤ key c
      · rw [List.orderedInsert_cons, if_pos hle, List.erase_cons_tail (by simpa using hne)]
        have hfront : ∀ d ∈ (c :: rest).erase a, key b ≤ key d := by
          intro d hd
          rcases List.mem_cons.mp (List.mem_of_mem_erase hd) with rfl | hd
          · exact hle
          · exact Nat.le_trans hle (hhead d hd)
        cases hrest : (c :: rest).erase a with
        | nil => rfl
        | cons d others =>
            rw [hrest] at hfront
            rw [List.orderedInsert_cons, if_pos (hfront d List.mem_cons_self)]
      · rw [List.orderedInsert_cons, if_neg hle]
        by_cases hca : c = a
        · rw [hca, List.erase_cons_head, List.erase_cons_head]
        · rw [List.erase_cons_tail (by simpa using hca), List.erase_cons_tail (by simpa using hca),
            ih htail, List.orderedInsert_cons, if_neg hle]

/-- Sorting with a last element and taking it out again is sorting without it. -/
theorem erase_insertionSort_append {a : α} {list : List α} (hnew : a ∉ list) :
    ((list ++ [a]).insertionSort fun x y => key x ≤ key y).erase a =
      list.insertionSort fun x y => key x ≤ key y := by
  induction list with
  | nil => exact List.erase_cons_head (a := a) (l := [])
  | cons b rest ih =>
      rw [List.mem_cons, not_or] at hnew
      have hsorted : ((rest ++ [a]).insertionSort fun x y => key x ≤ key y).Pairwise
          fun x y => key x ≤ key y := by
        have : Std.Total fun x y : α => key x ≤ key y := ⟨fun x y => Nat.le_total _ _⟩
        have : IsTrans α fun x y : α => key x ≤ key y := ⟨fun _ _ _ => Nat.le_trans⟩
        exact List.pairwise_insertionSort _ _
      rw [List.cons_append, List.insertionSort_cons,
        erase_orderedInsert_comm (Ne.symm hnew.1) hsorted, ih hnew.2, List.insertionSort_cons]

end Erase
end LeastFirst
