import RouteGuard.Lib.SuffixWindow
import RouteGuard.Lib.WhileLoop
import RouteGuard.Service.Diagnostics

/-! # The log ring

`LogRing` of `logs.rs`: a queue of lines with a byte counter beside it.  The two
locks are taken together by `push`, so a push is one step. -/
set_option autoImplicit false
namespace RouteGuard

open GuardedRun WhileLoop SuffixWindow

def maxLines : Nat := 200

def maxBytes : Nat := 4096

structure LogRing where
  lines : List String := []
  bytes : Nat := 0
deriving DecidableEq, Repr

namespace LogRing

def lineSize (line : String) : Nat := line.utf8ByteSize + 1

/-- An iteration of the loop; the subtraction saturates. -/
def evict (ring : LogRing) : Option LogRing :=
  if maxLines < ring.lines.length ∨ maxBytes < ring.bytes then
    match ring.lines with
    | old :: rest => some ⟨rest, ring.bytes - lineSize old⟩
    | [] => none
  else none

def entered (ring : LogRing) (line : String) : LogRing :=
  ⟨ring.lines ++ [line], ring.bytes + lineSize line⟩

/-- An iteration takes a line, so there are at most as many as lines. -/
def push (ring : LogRing) (line : String) : LogRing :=
  iterate evict (ring.entered line).lines.length (ring.entered line)

/-! ## What the ring is for -/

def sizeOf (lines : List String) : Nat := (lines.map lineSize).sum

def Fits (lines : List String) : Prop := lines.length ≤ maxLines ∧ sizeOf lines ≤ maxBytes

def Counted (ring : LogRing) : Prop := ring.bytes = sizeOf ring.lines

section Evict
variable {ring : LogRing}

theorem sizeOf_cons (line : String) (rest : List String) :
    sizeOf (line :: rest) = lineSize line + sizeOf rest := by
  simp [sizeOf]

theorem sizeOf_concat (lines : List String) (line : String) :
    sizeOf (lines ++ [line]) = sizeOf lines + lineSize line := by
  simp [sizeOf]

theorem fits_front (front : List String) (line : String) (h : Fits (front ++ [line])) :
    Fits front := by
  obtain ⟨hlines, hbytes⟩ := h
  rw [List.length_append] at hlines
  rw [sizeOf_concat] at hbytes
  exact ⟨by omega, by omega⟩

theorem evict_cases (h : ring.Counted) :
    (Fits ring.lines ∧ evict ring = none) ∨
      ∃ old rest, ring.lines = old :: rest ∧ ¬Fits ring.lines ∧
        evict ring = some ⟨rest, ring.bytes - lineSize old⟩ := by
  by_cases hfits : Fits ring.lines
  · left
    obtain ⟨hlines, hbytes⟩ := hfits
    have hkeep : ¬(maxLines < ring.lines.length ∨ maxBytes < ring.bytes) := by
      rw [h]
      omega
    exact ⟨⟨hlines, hbytes⟩, by rw [evict, if_neg hkeep]⟩
  · right
    have hover : maxLines < ring.lines.length ∨ maxBytes < ring.bytes := by
      rw [Fits] at hfits
      rw [h]
      omega
    cases hlines : ring.lines with
    | nil =>
        rw [hlines] at hfits
        exact absurd ⟨Nat.zero_le _, Nat.zero_le _⟩ hfits
    | cons old rest =>
        refine ⟨old, rest, rfl, by rwa [← hlines], ?_⟩
        rw [evict, if_pos hover, hlines]

theorem evict_counted (h : ring.Counted) {next : LogRing} (hstep : evict ring = some next) :
    next.Counted := by
  rcases evict_cases h with ⟨_, hnone⟩ | ⟨old, rest, hlines, _, hsome⟩
  · rw [hnone] at hstep
    cases hstep
  · rw [hsome] at hstep
    cases hstep
    show ring.bytes - lineSize old = sizeOf rest
    rw [h, hlines, sizeOf_cons]
    omega

theorem iterate_counted (h : ring.Counted) (fuel : Nat) : (iterate evict fuel ring).Counted :=
  iterate_invariant evict (fun _ _ h hstep => evict_counted h hstep) fuel ring h

/-- The loop leaves the longest suffix that fits. -/
theorem iterate_longest : ∀ (fuel : Nat) (ring : LogRing), ring.Counted →
    ring.lines.length ≤ fuel → IsLongest Fits ring.lines (iterate evict fuel ring).lines := by
  intro fuel
  induction fuel with
  | zero =>
      intro ring _ hfuel
      have hnil : ring.lines = [] := List.length_eq_zero_iff.mp (Nat.le_zero.mp hfuel)
      rw [iterate, hnil]
      exact isLongest_self ⟨Nat.zero_le _, Nat.zero_le _⟩
  | succ fuel ih =>
      intro ring h hfuel
      rcases evict_cases h with ⟨hfits, hnone⟩ | ⟨old, rest, hlines, hover, hsome⟩
      · rw [iterate_of_exits evict hnone]
        exact isLongest_self hfits
      · have hnext := ih ⟨rest, ring.bytes - lineSize old⟩ (evict_counted h hsome) (by
          rw [hlines, List.length_cons] at hfuel
          exact Nat.le_of_succ_le_succ hfuel)
        rw [hlines] at hover ⊢
        rw [iterate, hsome]
        exact hnext.cons hover

end Evict

/-! ## Histories -/

theorem entered_counted {ring : LogRing} (h : ring.Counted) (line : String) :
    (ring.entered line).Counted := by
  show ring.bytes + lineSize line = sizeOf (ring.lines ++ [line])
  rw [h, sizeOf_concat]

structure Holds (pushed : List String) (ring : LogRing) : Prop where
  longest : IsLongest Fits pushed ring.lines
  counted : ring.Counted

theorem Holds.push {pushed : List String} {ring : LogRing} (h : Holds pushed ring)
    (line : String) : Holds (pushed ++ [line]) (ring.push line) where
  longest := h.longest.push fits_front
    (iterate_longest _ (ring.entered line) (entered_counted h.counted line) (Nat.le_refl _))
  counted := iterate_counted (entered_counted h.counted line) _

end LogRing
end RouteGuard
