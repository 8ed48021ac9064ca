import Mathlib.Data.List.Basic

/-! # Lists run up to the first error

`foldlM` and `mapM` in `Except`: a run that fails fails at one item, behind
items that do not. -/
set_option autoImplicit false
namespace FirstError

variable {A B E S : Type}

theorem map_isOk_iff {g : A → B} (result : Except E A) :
    (∃ b, result.map g = .ok b) ↔ ∃ a, result = .ok a := by
  cases result with
  | error e => simp [Except.map]
  | ok a => simp [Except.map]

theorem map_eq_error_iff {g : A → B} (result : Except E A) (e : E) :
    result.map g = .error e ↔ result = .error e := by
  cases result with
  | error e' => simp [Except.map]
  | ok a => simp [Except.map]

theorem map_ok {g : A → B} {result : Except E A} {b : B} (h : result.map g = .ok b) :
    ∃ a, result = .ok a ∧ g a = b := by
  cases result with
  | error e => cases h
  | ok a =>
      cases h
      exact ⟨a, rfl, rfl⟩

/-! ## Folds -/

section Fold
variable (f : S → A → Except E S)

theorem foldlM_cons_ok {s s' : S} {x : A} (h : f s x = .ok s') (rest : List A) :
    (x :: rest).foldlM f s = rest.foldlM f s' := by
  rw [List.foldlM_cons, h]
  rfl

theorem foldlM_cons_error {s : S} {x : A} {e : E} (h : f s x = .error e) (rest : List A) :
    (x :: rest).foldlM f s = .error e := by
  rw [List.foldlM_cons, h]
  rfl

theorem foldlM_append_ok {s s' : S} {front : List A} (h : front.foldlM f s = .ok s')
    (rest : List A) : (front ++ rest).foldlM f s = rest.foldlM f s' := by
  rw [List.foldlM_append, h]
  rfl

theorem foldlM_append_error {s : S} {front : List A} {e : E} (h : front.foldlM f s = .error e)
    (rest : List A) : (front ++ rest).foldlM f s = .error e := by
  rw [List.foldlM_append, h]
  rfl

end Fold

/-! ## A variable of the state -/

/-- Items of two kinds: some overwrite a variable of the state without looking at it, the others
leave it alone. -/
structure Separates {V : Type} (step : S → A → Except E S) (writes : A → Bool)
    (write : A → Except E V) (var : S → V) (withVar : V → S → S) : Prop where
  var_withVar : ∀ v s, var (withVar v s) = v
  withVar_var : ∀ s, withVar (var s) s = s
  withVar_withVar : ∀ v w s, withVar v (withVar w s) = withVar v s
  step_write : ∀ s x, writes x = true → step s x = (write x).map (withVar · s)
  step_other : ∀ v s x, writes x = false → step (withVar v s) x = (step s x).map (withVar v)

section Variable
variable {V : Type} {step : S → A → Except E S} {writes : A → Bool} {write : A → Except E V}
  {var : S → V} {withVar : V → S → S}

theorem foldlM_map {g : S → S} {items : List A}
    (h : ∀ s, ∀ x ∈ items, step (g s) x = (step s x).map g) (s : S) :
    items.foldlM step (g s) = (items.foldlM step s).map g := by
  induction items generalizing s with
  | nil => rfl
  | cons x rest ih =>
      have hrest := ih fun s y hy => h s y (List.mem_cons_of_mem _ hy)
      have hx := h s x List.mem_cons_self
      cases hstep : step s x with
      | error e =>
          rw [hstep] at hx
          rw [foldlM_cons_error step hstep, foldlM_cons_error step hx]
          rfl
      | ok s' =>
          rw [hstep] at hx
          rw [foldlM_cons_ok step hstep, foldlM_cons_ok step hx, hrest]

theorem Separates.var_step (h : Separates step writes write var withVar) {s s' : S} {x : A}
    (hx : writes x = false) (hstep : step s x = .ok s') : var s' = var s := by
  have hsame := h.step_other (var s) s x hx
  rw [h.withVar_var, hstep] at hsame
  have heq : s' = withVar (var s) s' := Except.ok.inj hsame
  rw [heq, h.var_withVar]

/-- The run on the items that leave the variable alone, and the run of the variable. -/
theorem Separates.foldlM_eq_ok_iff (h : Separates step writes write var withVar)
    {items : List A} {s s' : S} :
    items.foldlM step s = .ok s' ↔ ∃ q v,
      (items.filter fun x => !writes x).foldlM step s = .ok q ∧
      (items.filter writes).foldlM (fun _ x => write x) (var s) = .ok v ∧ s' = withVar v q := by
  induction items generalizing s with
  | nil =>
      constructor
      · intro hrun
        obtain rfl : s = s' := Except.ok.inj hrun
        exact ⟨s, var s, rfl, rfl, (h.withVar_var s).symm⟩
      · rintro ⟨q, v, hq, hv, rfl⟩
        cases hq
        cases hv
        exact congrArg Except.ok (h.withVar_var s).symm
  | cons x rest ih =>
      cases hx : writes x with
      | true =>
          rw [List.filter_cons_of_neg (by simp [hx]), List.filter_cons_of_pos hx]
          have hstep := h.step_write s x hx
          cases hwrite : write x with
          | error e =>
              rw [hwrite] at hstep
              rw [foldlM_cons_error step hstep]
              constructor
              · intro hrun
                cases hrun
              · rintro ⟨q, v, -, hv, -⟩
                rw [foldlM_cons_error _ hwrite] at hv
                cases hv
          | ok w =>
              rw [hwrite] at hstep
              have hothers : ∀ s, ∀ y ∈ rest.filter fun y => !writes y,
                  step (withVar w s) y = (step s y).map (withVar w) := by
                intro s y hy
                exact h.step_other w s y (by simpa using (List.mem_filter.mp hy).2)
              rw [foldlM_cons_ok step hstep, ih, foldlM_map hothers, h.var_withVar,
                foldlM_cons_ok (fun _ x => write x) hwrite]
              constructor
              · rintro ⟨q, v, hq, hv, rfl⟩
                obtain ⟨q', hq', rfl⟩ := map_ok hq
                exact ⟨q', v, hq', hv, h.withVar_withVar v w q'⟩
              · rintro ⟨q, v, hq, hv, rfl⟩
                rw [hq]
                exact ⟨withVar w q, v, rfl, hv, (h.withVar_withVar v w q).symm⟩
      | false =>
          rw [List.filter_cons_of_pos (by simp [hx]), List.filter_cons_of_neg (by simp [hx])]
          cases hstep : step s x with
          | error e =>
              rw [foldlM_cons_error step hstep, foldlM_cons_error step hstep]
              constructor
              · intro hrun
                cases hrun
              · rintro ⟨q, v, hq, -, -⟩
                cases hq
          | ok middle =>
              rw [foldlM_cons_ok step hstep, foldlM_cons_ok step hstep, ih, h.var_step hx hstep]

theorem foldlM_filter {kept : A → Bool} {items : List A}
    (h : ∀ s, ∀ x ∈ items, kept x = false → step s x = .ok s) (s : S) :
    items.foldlM step s = (items.filter kept).foldlM step s := by
  induction items generalizing s with
  | nil => rfl
  | cons x rest ih =>
      have ih := ih fun s y hy => h s y (List.mem_cons_of_mem _ hy)
      cases hx : kept x with
      | true =>
          rw [List.filter_cons_of_pos hx]
          cases hstep : step s x with
          | error e => rw [foldlM_cons_error step hstep, foldlM_cons_error step hstep]
          | ok s' => rw [foldlM_cons_ok step hstep, foldlM_cons_ok step hstep, ih]
      | false => rw [List.filter_cons_of_neg (by simp [hx]),
            foldlM_cons_ok step (h s x List.mem_cons_self hx), ih]

/-- Of two lists with the same items of a kind, others doing nothing, the second leaves the state
as the first does, the variable apart. -/
theorem Separates.foldlM_withVar_iff (h : Separates step writes write var withVar)
    {kept : A → Bool} (hkept : ∀ x, kept x = true → writes x = false)
    (hquiet : ∀ s x, writes x = false → kept x = false → step s x = .ok s)
    {items items' : List A} {s s' : S} (hsame : items'.filter kept = items.filter kept)
    (hrun : items.foldlM step s = .ok s') (v : V) :
    items'.foldlM step s = .ok (withVar v s') ↔
      (items'.filter writes).foldlM (fun _ x => write x) (var s) = .ok v := by
  have hothers : ∀ items : List A,
      (items.filter fun x => !writes x).foldlM step s = (items.filter kept).foldlM step s := by
    intro items
    have hfilter : (items.filter fun x => !writes x).filter kept = items.filter kept := by
      rw [List.filter_filter]
      apply List.filter_congr
      intro x _
      cases hx : kept x with
      | false => rfl
      | true => rw [hkept x hx]; rfl
    rw [@foldlM_filter _ _ _ _ kept _ ?_ s, hfilter]
    intro s x hmem hx
    exact hquiet s x (by simpa using (List.mem_filter.mp hmem).2) hx
  obtain ⟨q, w, hq, -, rfl⟩ := h.foldlM_eq_ok_iff.mp hrun
  rw [hothers] at hq
  rw [h.foldlM_eq_ok_iff, hothers, hsame, hq, h.withVar_withVar]
  constructor
  · rintro ⟨q', v', -, hv', heq⟩
    have hvar := congrArg var heq
    rw [h.var_withVar, h.var_withVar] at hvar
    rw [hvar]
    exact hv'
  · intro hv
    exact ⟨q, v, rfl, hv, rfl⟩

/-- What a variable ends with does not depend on its start once something is written. -/
theorem foldlM_write_start (items : List A) (hne : items ≠ []) (v w : V) :
    items.foldlM (fun _ x => write x) v = items.foldlM (fun _ x => write x) w := by
  cases items with
  | nil => exact absurd rfl hne
  | cons x rest => rw [List.foldlM_cons, List.foldlM_cons]

theorem foldlM_write_same {items : List A} {w : V} (h : ∀ x ∈ items, write x = .ok w)
    (hne : items ≠ []) (v : V) : items.foldlM (fun _ x => write x) v = .ok w := by
  have hfrom : items.foldlM (fun _ x => write x) w = .ok w := by
    clear hne
    induction items with
    | nil => rfl
    | cons x rest ih =>
        rw [foldlM_cons_ok (fun _ x => write x) (h x List.mem_cons_self)]
        exact ih fun y hy => h y (List.mem_cons_of_mem _ hy)
  rw [foldlM_write_start items hne v w, hfrom]

theorem foldlM_write_getLast {items : List A} {v w : V}
    (h : items.foldlM (fun _ x => write x) v = .ok w) :
    (items.getLast? = none ∧ w = v) ∨ ∃ x, items.getLast? = some x ∧ write x = .ok w := by
  cases hlast : items.getLast? with
  | none =>
      rw [List.getLast?_eq_none_iff.mp hlast] at h
      exact Or.inl ⟨rfl, (Except.ok.inj h).symm⟩
  | some x =>
      obtain ⟨front, rfl⟩ := List.getLast?_eq_some_iff.mp hlast
      refine Or.inr ⟨x, rfl, ?_⟩
      cases hfront : front.foldlM (fun _ x => write x) v with
      | error e =>
          rw [foldlM_append_error _ hfront] at h
          cases h
      | ok middle =>
          rw [foldlM_append_ok _ hfront] at h
          cases hx : write x with
          | error e =>
              rw [foldlM_cons_error (fun _ x => write x) hx] at h
              cases h
          | ok w' =>
              rw [foldlM_cons_ok (fun _ x => write x) hx] at h
              exact h

end Variable

/-! ## Maps -/

section Map
variable {f : A → Except E B}

theorem mapM_cons_ok {x : A} {y : B} (h : f x = .ok y) (rest : List A) :
    (x :: rest).mapM f = (rest.mapM f).map (y :: ·) := by
  rw [List.mapM_cons, h]
  rfl

theorem mapM_cons_error {x : A} {e : E} (h : f x = .error e) (rest : List A) :
    (x :: rest).mapM f = .error e := by
  rw [List.mapM_cons, h]
  rfl

theorem mapM_isOk_iff (items : List A) :
    (∃ results, items.mapM f = .ok results) ↔ ∀ x ∈ items, ∃ y, f x = .ok y := by
  induction items with
  | nil => exact ⟨fun _ x hx => absurd hx (by simp), fun _ => ⟨[], rfl⟩⟩
  | cons x rest ih =>
      cases hx : f x with
      | error e =>
          rw [mapM_cons_error hx]
          constructor
          · rintro ⟨results, hresults⟩
            cases hresults
          · intro hall
            obtain ⟨y, hy⟩ := hall x List.mem_cons_self
            rw [hx] at hy
            cases hy
      | ok y =>
          rw [mapM_cons_ok hx, List.forall_mem_cons, ← ih]
          cases rest.mapM f with
          | error e => simp [Except.map]
          | ok results => simp [Except.map, hx]

theorem mapM_error {items : List A} {e : E} (h : items.mapM f = .error e) :
    ∃ x ∈ items, f x = .error e := by
  induction items with
  | nil => cases h
  | cons x rest ih =>
      cases hx : f x with
      | error e' =>
          rw [mapM_cons_error hx] at h
          cases h
          exact ⟨x, List.mem_cons_self, hx⟩
      | ok y =>
          rw [mapM_cons_ok hx] at h
          cases hrest : rest.mapM f with
          | ok results =>
              rw [hrest] at h
              cases h
          | error e' =>
              rw [hrest] at h
              cases h
              obtain ⟨x', hmem, hx'⟩ := ih hrest
              exact ⟨x', List.mem_cons_of_mem _ hmem, hx'⟩

end Map
end FirstError
