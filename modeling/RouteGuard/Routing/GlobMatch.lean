import RouteGuard.Core.BytePositions
import RouteGuard.Lib.Glob
import RouteGuard.Routing.Rules

/-! # The path glob on byte positions

`glob_match` of `app.rs` keeps a byte position in the text and slices the text
at it.  Its slices stay on character boundaries, it answers what `globMatch`
answers on the remaining characters, and that is whether the stars of the
pattern can be filled in. -/
set_option autoImplicit false
namespace RouteGuard

open Glob

/-! ## Byte positions -/

def findPart (part : List Char) : List Char → Option Nat
  | [] => if part.isEmpty then some 0 else none
  | c :: rest =>
      if part.isPrefixOf (c :: rest) then some 0
      else (findPart part rest).map fun idx => c.utf8Size + idx

/-- The loop of `glob_match` from part `i` on, with `last` the index of the last part; `none`
where a slice panics. -/
def globLoop (text : List Char) (last : Nat) : Nat → List (List Char) → Nat → Option Bool
  | _, [], _ => some true
  | i, part :: rest, pos =>
      if part.isEmpty then globLoop text last (i + 1) rest pos
      else if i = 0 then
        if part.isPrefixOf text then globLoop text last (i + 1) rest (utf8Len part) else some false
      else if i = last then
        match sliceFrom text pos with
        | none => none
        | some slice =>
            if part.isSuffixOf slice then globLoop text last (i + 1) rest pos else some false
      else
        match sliceFrom text pos with
        | none => none
        | some slice =>
            match findPart part slice with
            | some idx => globLoop text last (i + 1) rest (pos + (idx + utf8Len part))
            | none => some false

def globMatchBytes (pattern text : String) : Option Bool :=
  let parts := pattern.toList.splitOn '*'
  if parts.isEmpty then some true else globLoop text.toList (parts.length - 1) 0 parts 0

section Positions

/-- The byte index found is that of the occurrence whose remainder `findAfter` returns. -/
theorem findPart_findAfter (part text : List Char) :
    match findAfter part text with
    | none => findPart part text = none
    | some after => ∃ gap, text = gap ++ (part ++ after) ∧
        findPart part text = some (utf8Len gap) := by
  induction text with
  | nil =>
      unfold findAfter findPart
      by_cases hempty : part.isEmpty = true
      · rw [if_pos hempty, if_pos hempty]
        rw [List.isEmpty_iff] at hempty
        exact ⟨[], by rw [hempty]; rfl, rfl⟩
      · rw [if_neg hempty, if_neg hempty]
  | cons c rest ih =>
      unfold findAfter findPart
      by_cases hfront : part.isPrefixOf (c :: rest) = true
      · rw [if_pos hfront, if_pos hfront]
        obtain ⟨after, hafter⟩ := List.isPrefixOf_iff_prefix.mp hfront
        refine ⟨[], ?_, rfl⟩
        rw [← hafter, List.drop_left]
        rfl
      · rw [if_neg hfront, if_neg hfront]
        cases hfind : findAfter part rest with
        | none =>
            rw [hfind] at ih
            simp only [ih, Option.map_none]
        | some after =>
            rw [hfind] at ih
            obtain ⟨gap, htext, hidx⟩ := ih
            refine ⟨c :: gap, by rw [htext, List.cons_append], ?_⟩
            rw [hidx, Option.map_some]
            rfl

theorem findAfter_leftmost (part text : List Char) : Leftmost part text (findAfter part text) := by
  induction text with
  | nil =>
      unfold findAfter
      by_cases hempty : part.isEmpty = true
      · rw [if_pos hempty, List.isEmpty_iff.mp hempty]
        exact leftmost_front [] []
      · rw [if_neg hempty]
        intro gap after htext
        obtain ⟨_, htext⟩ := List.append_eq_nil_iff.mp htext.symm
        exact hempty (List.isEmpty_iff.mpr (List.append_eq_nil_iff.mp htext).1)
  | cons c rest ih =>
      unfold findAfter
      by_cases hfront : part.isPrefixOf (c :: rest) = true
      · rw [if_pos hfront]
        obtain ⟨after, hafter⟩ := List.isPrefixOf_iff_prefix.mp hfront
        rw [← hafter, List.drop_left]
        exact leftmost_front part after
      · rw [if_neg hfront]
        exact ih.cons fun h => hfront (List.isPrefixOf_iff_prefix.mpr h)

end Positions

/-! ## The loop -/

section Loop

theorem globLoop_middle {text before rest : List Char} {last i : Nat} {part : List Char}
    {more : List (List Char)} (htext : text = before ++ rest) (hempty : part.isEmpty = false)
    (hfirst : i ≠ 0) (hlast : i ≠ last) :
    globLoop text last i (part :: more) (utf8Len before) =
      match findPart part rest with
      | some idx => globLoop text last (i + 1) more (utf8Len before + (idx + utf8Len part))
      | none => some false := by
  rw [globLoop, if_neg (by simp [hempty]), if_neg hfirst, if_neg hlast, htext, sliceFrom_append]

/-- From the second part on the position is the length of what was consumed, so the loop
answers for the characters that remain. -/
theorem globLoop_rest (text : List Char) (last : Nat) : ∀ (parts : List (List Char)) (i : Nat)
    (before rest : List Char), i ≠ 0 → i + parts.length = last + 1 → text = before ++ rest →
      globLoop text last i parts (utf8Len before) = some (globRest parts rest) := by
  intro parts
  induction parts with
  | nil => intro i before rest _ _ _; rfl
  | cons part more ih =>
      intro i before rest hfirst hindex htext
      rw [List.length_cons] at hindex
      cases more with
      | nil =>
          rw [List.length_nil] at hindex
          rw [globLoop, globRest]
          by_cases hempty : part.isEmpty = true
          · rw [if_pos hempty, hempty]
            rfl
          · rw [if_neg hempty, if_neg hfirst, if_pos (by omega), htext, sliceFrom_append]
            simp only [Bool.not_eq_true] at hempty
            rw [hempty, Bool.false_or]
            by_cases hends : part.isSuffixOf rest = true
            · simp only [hends, if_true]
              rfl
            · simp only [Bool.not_eq_true] at hends
              simp only [hends, Bool.false_eq_true, if_false]
      | cons next others =>
          rw [List.length_cons] at hindex ih
          rw [globRest]
          cases hempty : part.isEmpty with
          | true =>
              rw [globLoop, if_pos hempty, if_pos rfl]
              exact ih (i + 1) before rest (by omega) (by omega) htext
          | false =>
              rw [globLoop_middle htext hempty hfirst (by omega), if_neg Bool.false_ne_true]
              have hfind := findPart_findAfter part rest
              cases hafter : findAfter part rest with
              | none =>
                  rw [hafter] at hfind
                  rw [hfind]
              | some after =>
                  rw [hafter] at hfind
                  obtain ⟨gap, hrest, hidx⟩ := hfind
                  rw [hidx]
                  have hpos : utf8Len before + (utf8Len gap + utf8Len part) =
                      utf8Len (before ++ (gap ++ part)) := by
                    rw [utf8Len_append, utf8Len_append]
                  simp only [hpos]
                  apply ih (i + 1) _ _ (by omega) (by omega)
                  rw [htext, hrest, List.append_assoc, List.append_assoc]

/-- Every slice `glob_match` takes lies within the text on a character boundary. -/
theorem globMatchBytes_eq (pattern text : String) :
    globMatchBytes pattern text = some (globMatch pattern text) := by
  unfold globMatchBytes globMatch
  obtain ⟨first, more, hsplit⟩ :=
    List.exists_cons_of_ne_nil (List.splitOn_ne_nil '*' pattern.toList)
  simp only [hsplit, List.isEmpty_cons, Bool.false_eq_true, if_false, List.length_cons,
    Nat.add_sub_cancel]
  rw [globLoop]
  by_cases hempty : first.isEmpty = true
  · rw [if_pos hempty]
    rw [List.isEmpty_iff] at hempty
    rw [hempty]
    exact globLoop_rest text.toList more.length more 1 [] text.toList (by omega) (by omega) rfl
  · rw [if_neg hempty, if_pos rfl]
    by_cases hfront : first.isPrefixOf text.toList = true
    · rw [if_pos hfront, if_pos hfront]
      obtain ⟨rest, hrest⟩ := List.isPrefixOf_iff_prefix.mp hfront
      rw [← hrest, List.drop_left]
      exact globLoop_rest _ more.length more 1 first rest (by omega) (by omega) rfl
    · rw [if_neg hfront, if_neg hfront]

end Loop

/-! ## What the answer means -/

section Meaning

theorem globRest_iff : ∀ (parts : List (List Char)) (text : List Char), parts ≠ [] →
    (globRest parts text = true ↔ Follows parts text) := by
  intro parts
  induction parts with
  | nil => intro text h; exact absurd rfl h
  | cons part more ih =>
      intro text _
      cases more with
      | nil =>
          rw [globRest, follows_singleton, Bool.or_eq_true, List.isSuffixOf_iff_suffix,
            List.isEmpty_iff]
          constructor
          · rintro (rfl | h)
            · exact List.nil_suffix
            · exact h
          · exact Or.inr
      | cons next others =>
          rw [globRest]
          cases hempty : part.isEmpty with
          | true =>
              rw [if_pos rfl, List.isEmpty_iff.mp hempty, follows_nil_cons (List.cons_ne_nil _ _)]
              exact ih text (List.cons_ne_nil _ _)
          | false =>
              rw [if_neg Bool.false_ne_true]
              have hleftmost := findAfter_leftmost part text
              cases hafter : findAfter part text with
              | none =>
                  rw [hafter] at hleftmost
                  simp only [Bool.false_eq_true, false_iff]
                  exact hleftmost.not_follows
              | some after =>
                  rw [hafter] at hleftmost
                  rw [hleftmost.follows_iff (List.cons_ne_nil _ _)]
                  exact ih after (List.cons_ne_nil _ _)

theorem globMatch_iff {pattern : String} (hstar : '*' ∈ pattern.toList) (text : String) :
    globMatch pattern text = true ↔ Replaces '*' pattern.toList text.toList := by
  obtain ⟨first, more, hsplit⟩ :=
    List.exists_cons_of_ne_nil (List.splitOn_ne_nil '*' pattern.toList)
  have hmore := splitOn_more_ne_nil hstar hsplit
  rw [replaces_iff pattern.toList first more hsplit]
  unfold globMatch
  simp only [hsplit]
  by_cases hfront : first.isPrefixOf text.toList = true
  · rw [if_pos hfront, globRest_iff more _ hmore]
    obtain ⟨rest, hrest⟩ := List.isPrefixOf_iff_prefix.mp hfront
    rw [← hrest, List.drop_left]
    constructor
    · intro h
      exact ⟨rest, rfl, h⟩
    · rintro ⟨after, hafter, h⟩
      rw [List.append_cancel_left hafter]
      exact h
  · rw [if_neg hfront]
    simp only [Bool.false_eq_true, false_iff]
    rintro ⟨after, hafter, _⟩
    apply hfront
    rw [List.isPrefixOf_iff_prefix, hafter]
    exact List.prefix_append first after

/-- `glob_match` never slices outside the text or inside a character, and answers whether the
stars of the pattern can be filled in to give the text. -/
theorem globMatchBytes_iff_replaces (pattern text : String) (hstar : '*' ∈ pattern.toList) :
    ∃ answer, globMatchBytes pattern text = some answer ∧
      (answer = true ↔ Replaces '*' pattern.toList text.toList) :=
  ⟨globMatch pattern text, globMatchBytes_eq pattern text, globMatch_iff hstar text⟩

theorem globMatchBytes_iff_replaces_example :
    Replaces '*' "c:\\*é*.exe".toList "c:\\é\\éa.exe".toList := by
  obtain ⟨answer, hrun, hiff⟩ :=
    globMatchBytes_iff_replaces "c:\\*é*.exe" "c:\\é\\éa.exe" (by decide)
  have heval : globMatchBytes "c:\\*é*.exe" "c:\\é\\éa.exe" = some true := by decide
  rw [heval] at hrun
  injection hrun with hanswer
  exact hiff.mp hanswer.symm

end Meaning
end RouteGuard
