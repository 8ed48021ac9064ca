import Mathlib.Data.List.Basic
import RouteGuard.Lib.GuardedRun

/-! # Programs that can fail and keep their state

A program reads and writes a state and may stop with an error; what it wrote
before it stopped stays.  `Succeeds` is total correctness: from every state in
`P` the program returns a value and ends in `Q`. -/
set_option autoImplicit false
namespace Fallible

abbrev Prog (S E A : Type) := ExceptT E (StateM S) A

variable {S E A B : Type}

def exec (m : Prog S E A) (s : S) : Except E A × S := m.run.run s

@[simp]
theorem exec_pure (a : A) (s : S) : exec (pure a : Prog S E A) s = (.ok a, s) := rfl

@[simp]
theorem exec_throw (e : E) (s : S) : exec (throw e : Prog S E A) s = (.error e, s) := rfl

@[simp]
theorem exec_get (s : S) : exec (get : Prog S E S) s = (.ok s, s) := rfl

@[simp]
theorem exec_set (s s' : S) : exec (set s' : Prog S E PUnit) s = (.ok ⟨⟩, s') := rfl

@[simp]
theorem exec_modify (f : S → S) (s : S) : exec (modify f : Prog S E PUnit) s = (.ok ⟨⟩, f s) := rfl

theorem exec_bind (m : Prog S E A) (f : A → Prog S E B) (s : S) :
    exec (m >>= f) s = match exec m s with
      | (.ok a, s') => exec (f a) s'
      | (.error e, s') => (.error e, s') := by
  have hbind : exec (m >>= f) s = exec (ExceptT.mk (m.run >>= ExceptT.bindCont f)) s := rfl
  rw [hbind]
  simp only [exec, ExceptT.run, ExceptT.mk, StateT.run, bind, StateT.bind]
  cases hm : m s with
  | mk result s' =>
      cases result <;> rfl

theorem exec_bind_ok {m : Prog S E A} {s s' : S} {a : A} (h : exec m s = (.ok a, s'))
    (f : A → Prog S E B) : exec (m >>= f) s = exec (f a) s' := by
  rw [exec_bind, h]

theorem exec_bind_error {m : Prog S E A} {s s' : S} {e : E} (h : exec m s = (.error e, s'))
    (f : A → Prog S E B) : exec (m >>= f) s = (.error e, s') := by
  rw [exec_bind, h]

def fromResult (result : Except E A) : Prog S E A := ExceptT.mk fun s => (result, s)

@[simp]
theorem exec_fromResult (result : Except E A) (s : S) :
    exec (fromResult result : Prog S E A) s = (result, s) := rfl

theorem exec_fromResult_ok {result : Except E A} {a : A} (h : result = .ok a)
    (f : A → Prog S E B) (s : S) : exec (fromResult result >>= f) s = exec (f a) s := by
  subst h
  exact exec_bind_ok (exec_fromResult _ s) f

theorem exec_fromResult_error {result : Except E A} {e : E} (h : result = .error e)
    (f : A → Prog S E B) (s : S) : exec (fromResult result >>= f) s = (.error e, s) := by
  subst h
  exact exec_bind_error (exec_fromResult _ s) f

/-- Run a program and hand over its result, whatever it is. -/
def caught {E' : Type} (m : Prog S E A) : Prog S E' (Except E A) :=
  ExceptT.mk fun s => (.ok (exec m s).1, (exec m s).2)

@[simp]
theorem exec_caught {E' : Type} (m : Prog S E A) (s : S) :
    exec (caught m : Prog S E' (Except E A)) s = (.ok (exec m s).1, (exec m s).2) := rfl

def zoom {T : Type} (part : S → T) (put : T → S → S) (m : Prog T E A) : Prog S E A :=
  ExceptT.mk fun s => ((exec m (part s)).1, put (exec m (part s)).2 s)

@[simp]
theorem exec_zoom {T : Type} (part : S → T) (put : T → S → S) (m : Prog T E A) (s : S) :
    exec (zoom part put m) s = ((exec m (part s)).1, put (exec m (part s)).2 s) := rfl

/-- `result.map_err(f)` -/
def mapError {E' : Type} (f : E → E') (m : Prog S E A) : Prog S E' A :=
  ExceptT.mk fun s => ((exec m s).1.mapError f, (exec m s).2)

@[simp]
theorem exec_mapError {E' : Type} (f : E → E') (m : Prog S E A) (s : S) :
    exec (mapError f m) s = ((exec m s).1.mapError f, (exec m s).2) := rfl

theorem ok_of_map {C D : Type*} {f : C → D} {result : Except E C} {d : D}
    (h : result.map f = .ok d) : ∃ c, result = .ok c ∧ f c = d := by
  cases result with
  | error e => cases h
  | ok c => exact ⟨c, rfl, Except.ok.inj h⟩

theorem ok_of_bind {result : Except E A} {f : A → Except E B} {b : B}
    (h : (result >>= f) = .ok b) : ∃ a, result = .ok a ∧ f a = .ok b := by
  cases result with
  | error e => cases h
  | ok a => exact ⟨a, rfl, h⟩

theorem ok_of_mapError {E' : Type} {f : E → E'} {result : Except E A} {a : A}
    (h : result.mapError f = .ok a) : result = .ok a := by
  cases result with
  | error e => cases h
  | ok a' => exact congrArg Except.ok (Except.ok.inj h)

theorem exec_of_mapError {E' : Type} {f : E → E'} {m : Prog S E A} {s s' : S} {a : A}
    (h : exec (mapError f m) s = (.ok a, s')) : exec m s = (.ok a, s') := by
  rw [exec_mapError, Prod.mk.injEq] at h
  exact Prod.ext (ok_of_mapError h.1) h.2

/-! ## Total correctness -/

def Succeeds (P : S → Prop) (m : Prog S E A) (Q : A → S → Prop) : Prop :=
  ∀ s, P s → ∃ a s', exec m s = (.ok a, s') ∧ Q a s'

section Rules
variable {P : S → Prop} {Q : A → S → Prop} {R : B → S → Prop}

theorem succeeds_pure {a : A} (h : ∀ s, P s → Q a s) : Succeeds P (pure a : Prog S E A) Q := by
  intro s hs
  exact ⟨a, s, rfl, h s hs⟩

theorem succeeds_bind {m : Prog S E A} {f : A → Prog S E B} (hm : Succeeds P m Q)
    (hf : ∀ a, Succeeds (Q a) (f a) R) : Succeeds P (m >>= f) R := by
  intro s hs
  obtain ⟨a, s', hexec, hq⟩ := hm s hs
  obtain ⟨b, s'', hexec', hr⟩ := hf a s' hq
  exact ⟨b, s'', by rw [exec_bind_ok hexec, hexec'], hr⟩

theorem succeeds_weaken {P' : S → Prop} {Q' : A → S → Prop} {m : Prog S E A}
    (h : Succeeds P m Q) (hp : ∀ s, P' s → P s) (hq : ∀ a s, Q a s → Q' a s) :
    Succeeds P' m Q' := by
  intro s hs
  obtain ⟨a, s', hexec, hres⟩ := h s (hp s hs)
  exact ⟨a, s', hexec, hq a s' hres⟩

end Rules

/-! ## Invariants of failing programs -/

/-- `P` holds again where the program ends, with a result or with an error. -/
def Keeps (P : S → Prop) (m : Prog S E A) : Prop := ∀ s, P s → P (exec m s).2

section KeepRules
variable {P : S → Prop}

theorem keeps_pure (a : A) : Keeps P (pure a : Prog S E A) := fun _ h => h

theorem keeps_throw (e : E) : Keeps P (throw e : Prog S E A) := fun _ h => h

theorem keeps_modify {f : S → S} (h : ∀ s, P s → P (f s)) : Keeps P (modify f : Prog S E PUnit) := h

theorem keeps_bind {m : Prog S E A} {f : A → Prog S E B} (hm : Keeps P m)
    (hf : ∀ a, Keeps P (f a)) :
    Keeps P (m >>= f) := by
  intro s hs
  have hs' := hm s hs
  rw [exec_bind]
  cases hexec : exec m s with
  | mk result s' =>
      rw [hexec] at hs'
      cases result with
      | error e => exact hs'
      | ok a => exact hf a s' hs'

theorem keeps_get : Keeps P (get : Prog S E S) := fun _ h => h

theorem keeps_fromResult (result : Except E A) : Keeps P (fromResult result : Prog S E A) :=
  fun _ h => h

theorem keeps_caught {E' : Type} {m : Prog S E A} (h : Keeps P m) :
    Keeps P (caught m : Prog S E' (Except E A)) := h

theorem keeps_mapError {E' : Type} {m : Prog S E A} (f : E → E') (h : Keeps P m) :
    Keeps P (mapError f m) := h

/-- A program over a part keeps `P` where it keeps what `P` says of the part. -/
theorem keeps_zoom {T : Type} {part : S → T} {put : T → S → S} {m : Prog T E A} {Q : T → Prop}
    (hm : Keeps Q m) (hpart : ∀ s, P s → Q (part s)) (hput : ∀ t s, P s → Q t → P (put t s)) :
    Keeps P (zoom part put m) := by
  intro s hs
  exact hput _ s hs (hm (part s) (hpart s hs))

end KeepRules

/-! ## Results -/

def EndsIn (m : Prog S E A) (Q : S → Prop) : Prop := ∀ s a s', exec m s = (.ok a, s') → Q s'

section ResultRules
variable {Q : S → Prop}

theorem endsIn_throw (e : E) : EndsIn (throw e : Prog S E A) Q := by
  intro s a s' h
  cases h

theorem endsIn_bind {m : Prog S E A} {f : A → Prog S E B} (hf : ∀ a, EndsIn (f a) Q) :
    EndsIn (m >>= f) Q := by
  intro s b s'' h
  rw [exec_bind] at h
  cases hexec : exec m s with
  | mk result s' =>
      rw [hexec] at h
      cases result with
      | error e => cases h
      | ok a => exact hf a s' b s'' h

theorem endsIn_keeps {m : Prog S E A} {f : A → Prog S E B} (hm : EndsIn m Q)
    (hf : ∀ a, Keeps Q (f a)) : EndsIn (m >>= f) Q := by
  intro s b s'' h
  rw [exec_bind] at h
  cases hexec : exec m s with
  | mk result s' =>
      rw [hexec] at h
      cases result with
      | error e => cases h
      | ok a =>
          have hkept := hf a s' (hm s a s' hexec)
          dsimp only at h
          rw [h] at hkept
          exact hkept

theorem endsIn_mapError {E' : Type} {m : Prog S E A} (f : E → E') (hm : EndsIn m Q) :
    EndsIn (mapError f m) Q :=
  fun s a s' h => hm s a s' (exec_of_mapError h)

/-- A step that is caught and whose error is passed on. -/
theorem endsIn_caught {E' : Type} {m : Prog S E A} {f : Except E A → Prog S E' B} (hm : EndsIn m Q)
    (hthrow : ∀ e, EndsIn (f (.error e)) Q) (hf : ∀ a, Keeps Q (f (.ok a))) :
    EndsIn (caught m >>= f) Q := by
  intro s b s'' h
  rw [exec_bind, exec_caught] at h
  cases hexec : exec m s with
  | mk result s' =>
      rw [hexec] at h
      cases result with
      | error e => exact hthrow e s' b s'' h
      | ok a =>
          have hkept := hf a s' (hm s a s' hexec)
          dsimp only at h
          rw [h] at hkept
          exact hkept

end ResultRules

/-! ## Loops over a list -/

/-- `for x in xs { body(x)?; }` -/
def forEach (body : A → Prog S E PUnit) : List A → Prog S E PUnit
  | [] => pure ⟨⟩
  | a :: rest => do
      body a
      forEach body rest

theorem keeps_forEach {body : A → Prog S E PUnit} {P : S → Prop} (hbody : ∀ a, Keeps P (body a))
    (xs : List A) : Keeps P (forEach body xs) := by
  induction xs with
  | nil => exact keeps_pure _
  | cons a rest ih => exact keeps_bind (hbody a) fun _ => ih

theorem forEach_append (body : A → Prog S E PUnit) (xs ys : List A) :
    forEach body (xs ++ ys) = (do
      forEach body xs
      forEach body ys) := by
  induction xs with
  | nil => simp [forEach]
  | cons a rest ih => simp [forEach, ih]

theorem forEach_map {C : Type} (body : A → Prog S E PUnit) (f : C → A) (xs : List C) :
    forEach body (xs.map f) = forEach (fun c => body (f c)) xs := by
  induction xs with
  | nil => rfl
  | cons c rest ih => simp [forEach, ih]

/-- A loop in a loop is one loop over all the elements. -/
theorem forEach_flatMap {C : Type} (body : A → Prog S E PUnit) (f : C → List A) (xs : List C) :
    forEach body (xs.flatMap f) = forEach (fun c => forEach body (f c)) xs := by
  induction xs with
  | nil => rfl
  | cons c rest ih => rw [List.flatMap_cons, forEach_append, ih, forEach]

/-- `for x in xs { out.push(body(x)?); }` -/
def collect (body : A → Prog S E B) : List A → Prog S E (List B)
  | [] => pure []
  | a :: rest => do
      let b ← body a
      let bs ← collect body rest
      pure (b :: bs)

theorem collect_append (body : A → Prog S E B) (xs ys : List A) :
    collect body (xs ++ ys) = (do
      let front ← collect body xs
      let back ← collect body ys
      pure (front ++ back)) := by
  induction xs with
  | nil => simp [collect]
  | cons a rest ih => simp [collect, ih]

theorem collect_map {C : Type} (body : A → Prog S E B) (f : C → A) (xs : List C) :
    collect body (xs.map f) = collect (fun c => body (f c)) xs := by
  induction xs with
  | nil => rfl
  | cons c rest ih => simp [collect, ih]

/-- Loop rule: `P done` holds after the elements `done`. -/
theorem succeeds_forEach {body : A → Prog S E PUnit} {P : List A → S → Prop} {xs : List A}
    (hbody : ∀ done a rest, xs = done ++ a :: rest →
      Succeeds (P done) (body a) fun _ => P (done ++ [a])) :
    Succeeds (P []) (forEach body xs) fun _ => P xs := by
  have hgen : ∀ rest done, xs = done ++ rest →
      Succeeds (P done) (forEach body rest) fun _ => P xs := by
    intro rest
    induction rest with
    | nil =>
        intro done hsplit
        rw [List.append_nil] at hsplit
        subst hsplit
        exact succeeds_pure fun s hs => hs
    | cons a rest ih =>
        intro done hsplit
        refine succeeds_bind (hbody done a rest hsplit) fun _ => ih (done ++ [a]) ?_
        rw [hsplit, List.append_assoc]
        rfl
  exact hgen xs [] rfl

/-! ## Loops whose steps can be refused -/

section Refusals
open GuardedRun
variable {step : S → A → S} {guard : S → A → Prop} {body : A → Prog S E PUnit}

/-- Where the guard is met the body makes its step, elsewhere it fails. -/
def Guards (step : S → A → S) (guard : S → A → Prop) (body : A → Prog S E PUnit) : Prop :=
  ∀ a s, (guard s a → exec (body a) s = (.ok ⟨⟩, step s a)) ∧
    (¬guard s a → ∃ e, (exec (body a) s).1 = .error e)

theorem forEach_accepted (hbody : Guards step guard body) :
    ∀ (xs : List A) (s : S), Guarded step guard s xs →
      exec (forEach body xs) s = (.ok ⟨⟩, run step s xs) := by
  intro xs
  induction xs with
  | nil => intro s _; rfl
  | cons a rest ih =>
      intro s hguarded
      have hfirst := (hbody a s).1 hguarded.1
      rw [forEach, exec_bind_ok hfirst]
      exact ih (step s a) hguarded.2

theorem forEach_refused (hbody : Guards step guard body) :
    ∀ (xs : List A) (s : S), ¬Guarded step guard s xs →
      ∃ e, (exec (forEach body xs) s).1 = .error e := by
  intro xs
  induction xs with
  | nil => intro s hrefused; exact absurd trivial hrefused
  | cons a rest ih =>
      intro s hrefused
      by_cases hguard : guard s a
      · have hfirst := (hbody a s).1 hguard
        rw [forEach, exec_bind_ok hfirst]
        apply ih
        intro hrest
        exact hrefused ⟨hguard, hrest⟩
      · obtain ⟨e, hfirst⟩ := (hbody a s).2 hguard
        refine ⟨e, ?_⟩
        rw [forEach, exec_bind]
        cases hexec : exec (body a) s with
        | mk result s' =>
            rw [hexec] at hfirst
            cases hfirst
            rfl

end Refusals

end Fallible
