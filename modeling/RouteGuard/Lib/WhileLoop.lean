import Mathlib.Order.Basic

/-! # While loops

A loop body is a partial function: `none` when the loop is left, the next state
otherwise.  `iterate` runs the body at most `fuel` times; when every iteration
lowers a measure, a fuel of that measure always reaches the exit. -/
set_option autoImplicit false
namespace WhileLoop

variable {S : Type} (body : S → Option S)

def iterate : Nat → S → S
  | 0, s => s
  | fuel + 1, s =>
      match body s with
      | none => s
      | some next => iterate fuel next

def Exits (s : S) : Prop := body s = none

theorem iterate_of_exits {s : S} (h : Exits body s) (fuel : Nat) : iterate body fuel s = s := by
  cases fuel with
  | zero => rfl
  | succ fuel =>
      have hnone : body s = none := h
      simp [iterate, hnone]

theorem iterate_invariant {P : S → Prop}
    (hbody : ∀ s next, P s → body s = some next → P next) :
    ∀ (fuel : Nat) (s : S), P s → P (iterate body fuel s) := by
  intro fuel
  induction fuel with
  | zero => intro s h; exact h
  | succ fuel ih =>
      intro s h
      cases hb : body s with
      | none => simpa [iterate, hb] using h
      | some next => simpa [iterate, hb] using ih next (hbody s next h hb)

/-- Termination rule: the measure bounds the number of iterations. -/
theorem iterate_exits (measure : S → Nat)
    (hbody : ∀ s next, body s = some next → measure next < measure s) :
    ∀ (fuel : Nat) (s : S), measure s ≤ fuel → Exits body (iterate body fuel s) := by
  intro fuel
  induction fuel with
  | zero =>
      intro s h
      cases hb : body s with
      | none => exact hb
      | some next =>
          have hlt := hbody s next hb
          omega
  | succ fuel ih =>
      intro s h
      cases hb : body s with
      | none =>
          rw [iterate_of_exits body hb]
          exact hb
      | some next =>
          have hlt := hbody s next hb
          have hnext : Exits body (iterate body fuel next) := ih next (by omega)
          simpa [iterate, hb] using hnext

end WhileLoop
