import Mathlib.Data.List.Infix

/-! # The longest suffix that fits

A bounded log keeps the newest entries that fit.  What is kept of a log that
grows at its end can be found from what was kept before, as long as a list that
fits still fits without its last entry. -/
set_option autoImplicit false
namespace SuffixWindow

variable {A : Type}

structure IsLongest (fits : List A → Prop) (all kept : List A) : Prop where
  suffix : kept <:+ all
  kept_fits : fits kept
  longest : ∀ other, other <:+ all → fits other → other.length ≤ kept.length

section Laws
variable {fits : List A → Prop} {all kept next : List A}

theorem IsLongest.covers (h : IsLongest fits all kept) {other : List A} (hsuffix : other <:+ all)
    (hfits : fits other) : other <:+ kept :=
  List.suffix_of_suffix_length_le hsuffix h.suffix (h.longest other hsuffix hfits)

theorem isLongest_self (h : fits all) : IsLongest fits all all where
  suffix := List.suffix_rfl
  kept_fits := h
  longest := fun _ hsuffix _ => hsuffix.length_le

/-- An entry at the front of a list that does not fit is not kept. -/
theorem IsLongest.cons {a : A} (h : IsLongest fits all kept) (hover : ¬fits (a :: all)) :
    IsLongest fits (a :: all) kept where
  suffix := h.suffix.trans (List.suffix_cons a all)
  kept_fits := h.kept_fits
  longest := by
    intro other hsuffix hfits
    rcases List.suffix_cons_iff.mp hsuffix with rfl | hrest
    · exact absurd hfits hover
    · exact h.longest other hrest hfits

/-- A new entry is weighed against what was kept alone. -/
theorem IsLongest.push (hfront : ∀ front a, fits (front ++ [a]) → fits front) {a : A}
    (h : IsLongest fits all kept) (hnext : IsLongest fits (kept ++ [a]) next) :
    IsLongest fits (all ++ [a]) next where
  suffix := by
    obtain ⟨evicted, rfl⟩ := h.suffix
    refine hnext.suffix.trans ⟨evicted, ?_⟩
    rw [List.append_assoc]
  kept_fits := hnext.kept_fits
  longest := by
    intro other hsuffix hfits
    rcases List.eq_nil_or_concat' other with rfl | ⟨front, b, rfl⟩
    · exact Nat.zero_le _
    · obtain ⟨evicted, heq⟩ := hsuffix
      rw [← List.append_assoc] at heq
      obtain ⟨hall, hlast⟩ := List.append_inj' heq rfl
      have hb : b = a := List.singleton_inj.mp hlast
      subst hb
      have hkept := h.covers ⟨evicted, hall⟩ (hfront front b hfits)
      obtain ⟨dropped, rfl⟩ := hkept
      refine hnext.longest (front ++ [b]) ⟨dropped, ?_⟩ hfits
      rw [List.append_assoc]

end Laws

end SuffixWindow
