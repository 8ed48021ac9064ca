import RouteGuard.Lib.Fallible
import RouteGuard.Lib.HashTable
import RouteGuard.Wfp.Filters

/-! # The filter engine and its sessions

`WfpEngine` with the operations of `FilterBuilder`, and `WfpSessionInner` of
`engine.rs`.  Any operation may fail; which ones do is part of the engine. -/
set_option autoImplicit false
namespace RouteGuard

open HashTable Fallible

/-! ## Engine -/

/-- The filters present, by identifier; an identifier is given once. -/
structure WfpEngine where
  filters : Table Nat FilterRule := ∅
  nextId : Nat := 1
  /-- the failures of the operations to come, in order; an operation past the end does not fail -/
  faults : List (Option String) := []
  /-- the text of the error for an absent filter -/
  absent : String := ""
  fresh : ∀ id, nextId ≤ id → filters.get id = none := by
    intro id _
    rfl

namespace WfpEngine

def empty : WfpEngine := {}

/-- The failure of the next operation. -/
def nextFault (engine : WfpEngine) : Option String := engine.faults.head?.join

def answered (engine : WfpEngine) : WfpEngine := { engine with faults := engine.faults.tail }

def insert (rule : FilterRule) (engine : WfpEngine) : WfpEngine where
  filters := engine.filters.insert engine.nextId rule
  nextId := engine.nextId + 1
  faults := engine.faults
  absent := engine.absent
  fresh := by
    intro id hid
    rw [get_insert, if_neg (by omega)]
    exact engine.fresh id (by omega)

def remove (id : Nat) (engine : WfpEngine) : WfpEngine where
  filters := engine.filters.remove id
  nextId := engine.nextId
  faults := engine.faults
  absent := engine.absent
  fresh := by
    intro id' hid
    rw [get_remove, engine.fresh id' hid, ite_self]

/-- The rules of the filters present. -/
def rules (engine : WfpEngine) : Set FilterRule :=
  fun rule => ∃ id, engine.filters.get id = some rule

end WfpEngine

def FilterBuilder.addFilter (rule : FilterRule) : Prog WfpEngine String Nat := do
  let engine ← get
  match engine.nextFault with
  | some e => do
      set engine.answered
      throw e
  | none => do
      set (engine.answered.insert rule)
      pure engine.nextId

def FilterBuilder.deleteFilter (id : Nat) : Prog WfpEngine String Unit := do
  let engine ← get
  match engine.nextFault with
  | some e => do
      set engine.answered
      throw e
  | none =>
      match engine.filters.get id with
      | none => do
          set engine.answered
          throw engine.absent
      | some _ => set (engine.answered.remove id)

/-! ## Sessions -/

structure WfpSessionInner where
  engine : WfpEngine
  activeFilters : List Nat := []

abbrev SessionProg (A : Type) := Prog WfpSessionInner RouteGuardError A

def WfpSessionInner.withEngine (engine : WfpEngine) (session : WfpSessionInner) : WfpSessionInner :=
  { session with engine := engine }

/-- An operation of the engine with its error mapped. -/
def onEngine {A : Type} (wrap : String → RouteGuardError) (m : Prog WfpEngine String A) :
    SessionProg A :=
  zoom WfpSessionInner.engine WfpSessionInner.withEngine (mapError wrap m)

def trackFilter (id : Nat) : SessionProg Unit :=
  modify fun session => { session with activeFilters := session.activeFilters ++ [id] }

/-- `session.active_filters.retain(|id| !ids.contains(id))` -/
def untrackFilters (ids : List Nat) : SessionProg Unit :=
  modify fun session =>
    { session with activeFilters := session.activeFilters.filter fun id => id ∉ ids }

/-- A filter to add: its rule, or the error met in building it, and how a failure is reported. -/
structure FilterStep where
  rule : Except RouteGuardError FilterRule
  wrap : String → RouteGuardError

def FilterStep.add (step : FilterStep) : SessionProg Nat := do
  let rule ← fromResult step.rule
  onEngine step.wrap (FilterBuilder.addFilter rule)

def addAll (steps : List FilterStep) : SessionProg (List Nat) := collect FilterStep.add steps

/-! ## What adding filters does -/

section AddSpecs
variable {before middle after : WfpEngine} {rules added : List FilterRule}

@[simp]
theorem answered_get (engine : WfpEngine) (id : Nat) :
    engine.answered.filters.get id = engine.filters.get id := rfl

theorem exec_addFilter_ok (rule : FilterRule) {engine : WfpEngine} (h : engine.nextFault = none) :
    exec (FilterBuilder.addFilter rule) engine =
      (.ok engine.nextId, engine.answered.insert rule) := by
  simp only [FilterBuilder.addFilter, exec_bind, exec_get, h, exec_set, exec_pure]

theorem exec_addFilter_fault (rule : FilterRule) {engine : WfpEngine} {e : String}
    (h : engine.nextFault = some e) :
    exec (FilterBuilder.addFilter rule) engine = (.error e, engine.answered) := by
  simp only [FilterBuilder.addFilter, exec_bind, exec_get, h, exec_set, exec_throw]

/-- The rules stand in the engine under the identifiers from `nextId` on, and the filters that were
there stay. -/
structure FiltersAdded (rules : List FilterRule) (before after : WfpEngine) : Prop where
  nextId : after.nextId = before.nextId + rules.length
  get : ∀ id, after.filters.get id =
    if before.nextId ≤ id then rules[id - before.nextId]? else before.filters.get id

theorem added_nil (h : ∀ id, after.filters.get id = before.filters.get id)
    (hnext : after.nextId = before.nextId) : FiltersAdded [] before after := by
  constructor
  · exact hnext
  · intro id
    rw [h id]
    split
    · rename_i hid
      exact before.fresh id hid
    · rfl

theorem added_single (rule : FilterRule) (engine : WfpEngine) :
    FiltersAdded [rule] engine (engine.answered.insert rule) := by
  constructor
  · rfl
  · intro id
    have hget : (engine.answered.insert rule).filters.get id =
        if id = engine.nextId then some rule else engine.filters.get id :=
      get_insert engine.filters engine.nextId id rule
    rw [hget]
    by_cases hsame : id = engine.nextId
    · simp [hsame]
    · rw [if_neg hsame]
      split
      · rename_i hid
        rw [engine.fresh id hid, List.getElem?_eq_none]
        simp only [List.length_singleton]
        omega
      · rfl

theorem FiltersAdded.append (h : FiltersAdded rules before middle)
    (h' : FiltersAdded added middle after) :
    FiltersAdded (rules ++ added) before after := by
  constructor
  · rw [h'.nextId, h.nextId, List.length_append]
    omega
  · intro id
    rw [h'.get id, h.get id, h.nextId]
    by_cases hold : before.nextId ≤ id
    · rw [if_pos hold, if_pos hold]
      by_cases hlate : before.nextId + rules.length ≤ id
      · rw [if_pos hlate, List.getElem?_append_right (by omega)]
        congr 1
        omega
      · rw [if_neg hlate, List.getElem?_append_left (by omega)]
    · rw [if_neg hold, if_neg hold, if_neg (by omega)]

theorem FiltersAdded.rules_eq (h : FiltersAdded rules before after) :
    after.rules = before.rules ∪ {rule | rule ∈ rules} := by
  ext rule
  constructor
  · intro hafter
    obtain ⟨id, hget⟩ := hafter
    rw [h.get id] at hget
    split at hget
    · exact Or.inr (List.mem_of_getElem? hget)
    · exact Or.inl ⟨id, hget⟩
  · intro hmem
    rcases hmem with hbefore | hadded
    · obtain ⟨id, hget⟩ := hbefore
      refine ⟨id, ?_⟩
      rw [h.get id, if_neg, hget]
      intro hid
      rw [before.fresh id hid] at hget
      cases hget
    · obtain ⟨i, hi⟩ := List.mem_iff_getElem?.mp hadded
      refine ⟨before.nextId + i, ?_⟩
      rw [h.get, if_pos (Nat.le_add_right _ _), Nat.add_sub_cancel_left, hi]

/-! ### Sequences of filters -/

/-- The rules that are added before the first failure. -/
def addedRules : List FilterStep → List (Option String) → List FilterRule
  | [], _ => []
  | step :: rest, faults =>
      match step.rule, faults.head?.join with
      | .ok rule, none => rule :: addedRules rest faults.tail
      | _, _ => []

theorem exec_add_ok {step : FilterStep} {rule : FilterRule} (session : WfpSessionInner)
    (hrule : step.rule = .ok rule) (hfault : session.engine.nextFault = none) :
    exec step.add session = (.ok session.engine.nextId,
      session.withEngine (session.engine.answered.insert rule)) := by
  simp only [FilterStep.add, hrule, exec_bind, exec_fromResult, onEngine, exec_zoom, exec_mapError,
    exec_addFilter_ok rule hfault]
  rfl

theorem exec_add_fails {step : FilterStep} {session : WfpSessionInner}
    (h : addedRules [step] session.engine.faults = []) :
    ∃ e after, exec step.add session = (.error e, session.withEngine after) ∧
      FiltersAdded [] session.engine after := by
  cases hrule : step.rule with
  | error e =>
      refine ⟨e, session.engine, ?_, added_nil (fun _ => rfl) rfl⟩
      simp only [FilterStep.add, hrule, exec_bind, exec_fromResult]
      rfl
  | ok rule =>
      cases hfault : session.engine.nextFault with
      | none =>
          have hjoin : session.engine.faults.head?.join = none := hfault
          simp [addedRules, hrule, hjoin] at h
      | some e =>
          refine ⟨step.wrap e, session.engine.answered, ?_, added_nil (fun _ => rfl) rfl⟩
          simp only [FilterStep.add, hrule, exec_bind, exec_fromResult, onEngine, exec_zoom,
            exec_mapError, exec_addFilter_fault rule hfault]
          rfl

theorem addAll_cons (step : FilterStep) (rest : List FilterStep) :
    addAll (step :: rest) = (do
      let id ← step.add
      let ids ← addAll rest
      pure (id :: ids)) := rfl

theorem exec_addAll : ∀ (steps : List FilterStep) (session : WfpSessionInner),
    ∃ result after, exec (addAll steps) session = (result, session.withEngine after) ∧
      FiltersAdded (addedRules steps session.engine.faults) session.engine after ∧
      ((addedRules steps session.engine.faults).length = steps.length ∧
          result = .ok (List.range' session.engine.nextId steps.length) ∨
        (addedRules steps session.engine.faults).length < steps.length ∧
          ∃ e, result = .error e) := by
  intro steps
  induction steps with
  | nil =>
      intro session
      exact ⟨.ok [], session.engine, rfl, added_nil (fun _ => rfl) rfl, Or.inl ⟨rfl, rfl⟩⟩
  | cons step rest ih =>
      intro session
      by_cases hadd : addedRules [step] session.engine.faults = []
      · obtain ⟨e, after, hexec, hinstalled⟩ := exec_add_fails hadd
        have hnone : addedRules (step :: rest) session.engine.faults = [] := by
          simp only [addedRules] at hadd ⊢
          split at hadd
          · cases hadd
          · rfl
        rw [hnone, addAll_cons]
        exact ⟨.error e, after, exec_bind_error hexec _, hinstalled,
          Or.inr ⟨Nat.succ_pos _, e, rfl⟩⟩
      · simp only [addedRules] at hadd
        split at hadd
        · rename_i rule hrule hjoin
          have hstep := exec_add_ok session hrule hjoin
          obtain ⟨result, after, hexec, hinstalled, hresult⟩ :=
            ih (session.withEngine (session.engine.answered.insert rule))
          have hsome : addedRules (step :: rest) session.engine.faults =
              rule :: addedRules rest session.engine.faults.tail := by
            simp only [addedRules, hrule, hjoin]
          have hall := (added_single rule session.engine).append hinstalled
          rw [hsome, addAll_cons, exec_bind_ok hstep]
          rcases hresult with ⟨hlen, rfl⟩ | ⟨hlen, e, rfl⟩
          · refine ⟨_, after, exec_bind_ok hexec _, hall, Or.inl ⟨?_, rfl⟩⟩
            exact congrArg Nat.succ hlen
          · refine ⟨_, after, exec_bind_error hexec _, hall, Or.inr ⟨?_, e, rfl⟩⟩
            exact Nat.succ_lt_succ hlen
        · exact absurd rfl hadd

/-- Add the filters in order, tracking each in the session. -/
def addTracked (steps : List FilterStep) : SessionProg (List Nat) :=
  collect (fun step => do
    let id ← step.add
    trackFilter id
    pure id) steps

theorem exec_add_engine (step : FilterStep) (engine : WfpEngine) :
    ∃ result after, ∀ active, exec step.add ⟨engine, active⟩ = (result, ⟨after, active⟩) := by
  cases hrule : step.rule with
  | error e =>
      refine ⟨.error e, engine, fun active => ?_⟩
      simp only [FilterStep.add, hrule, exec_bind, exec_fromResult]
  | ok rule =>
      refine ⟨((exec (FilterBuilder.addFilter rule) engine).1.mapError step.wrap),
        (exec (FilterBuilder.addFilter rule) engine).2, fun active => ?_⟩
      simp only [FilterStep.add, hrule, exec_bind, exec_fromResult,
        onEngine, exec_zoom, exec_mapError]
      rfl

/-- Tracking changes neither the result nor the engine. -/
theorem addTracked_same :
    ∀ (steps : List FilterStep) (engine : WfpEngine) (active active' : List Nat),
    (exec (addTracked steps) ⟨engine, active⟩).1 = (exec (addAll steps) ⟨engine, active'⟩).1 ∧
      (exec (addTracked steps) ⟨engine, active⟩).2.engine =
        (exec (addAll steps) ⟨engine, active'⟩).2.engine := by
  intro steps
  induction steps with
  | nil => intro engine active active'; exact ⟨rfl, rfl⟩
  | cons step rest ih =>
      intro engine active active'
      obtain ⟨result, after, hadd⟩ := exec_add_engine step engine
      have htracked : addTracked (step :: rest) = (do
          let id ← step.add
          trackFilter id
          let ids ← addTracked rest
          pure (id :: ids)) := by
        simp [addTracked, collect]
      rw [htracked, addAll_cons, exec_bind, exec_bind, hadd active, hadd active']
      cases result with
      | error e => exact ⟨rfl, rfl⟩
      | ok id =>
          obtain ⟨hresult, hrest⟩ := ih after (active ++ [id]) active'
          simp only [trackFilter, exec_bind, exec_modify]
          cases htrack : exec (addTracked rest) ⟨after, active ++ [id]⟩ with
          | mk result' session =>
              cases hall : exec (addAll rest) ⟨after, active'⟩ with
              | mk result'' session' =>
                  rw [htrack, hall] at hresult hrest
                  cases hresult
                  cases result' with
                  | error e => exact ⟨rfl, hrest⟩
                  | ok ids => exact ⟨rfl, hrest⟩

theorem addTracked_engine (steps : List FilterStep) (engine : WfpEngine)
    (active active' : List Nat) :
    (exec (addTracked steps) ⟨engine, active⟩).2.engine =
      (exec (addAll steps) ⟨engine, active'⟩).2.engine :=
  (addTracked_same steps engine active active').2

/-! ### Patterns of failures -/

def AllClear (faults : List (Option String)) (count : Nat) : Prop :=
  ∀ fault ∈ faults.take count, fault = none

/-- The operation after the next `count` is the first to fail. -/
def FailsAfter (faults : List (Option String)) (count : Nat) : Prop :=
  AllClear faults count ∧ ∃ e, faults[count]? = some (some e)

instance decidableAllClear (faults : List (Option String)) (count : Nat) :
    Decidable (AllClear faults count) :=
  inferInstanceAs (Decidable (∀ fault ∈ faults.take count, fault = none))

theorem allClear_zero (faults : List (Option String)) : AllClear faults 0 := by
  intro fault hmem
  cases hmem

theorem allClear_nil (count : Nat) : AllClear [] count := by
  intro fault hmem
  rw [List.take_nil] at hmem
  cases hmem

theorem allClear_succ (faults : List (Option String)) (count : Nat) :
    AllClear faults (count + 1) ↔ faults.head?.join = none ∧ AllClear faults.tail count := by
  cases faults with
  | nil => simp [AllClear]
  | cons fault rest => simp [AllClear]

theorem failsAfter_succ {faults : List (Option String)} {count : Nat}
    (h : FailsAfter faults (count + 1)) :
    faults.head?.join = none ∧ FailsAfter faults.tail count := by
  obtain ⟨hclear, e, he⟩ := h
  obtain ⟨hhead, htail⟩ := (allClear_succ faults count).mp hclear
  refine ⟨hhead, htail, e, ?_⟩
  rw [List.getElem?_tail]
  exact he

theorem FailsAfter.head {faults : List (Option String)} {e : String}
    (h : faults.head?.join = some e) : FailsAfter faults 0 := by
  refine ⟨allClear_zero faults, e, ?_⟩
  rw [← List.head?_eq_getElem?]
  exact Option.join_eq_some_iff.mp h

theorem FailsAfter.tail {faults : List (Option String)} {count : Nat}
    (hhead : faults.head?.join = none) (h : FailsAfter faults.tail count) :
    FailsAfter faults (count + 1) := by
  obtain ⟨hclear, e, he⟩ := h
  refine ⟨(allClear_succ faults count).mpr ⟨hhead, hclear⟩, e, ?_⟩
  rw [List.getElem?_tail] at he
  exact he

theorem failsAfter_zero {faults : List (Option String)} (h : FailsAfter faults 0) :
    ∃ e, faults.head?.join = some e := by
  obtain ⟨_, e, he⟩ := h
  refine ⟨e, ?_⟩
  rw [List.head?_eq_getElem?, he]
  rfl

theorem clear_or_fails (faults : List (Option String)) (count : Nat) :
    AllClear faults count ∨ ∃ k < count, FailsAfter faults k := by
  induction count generalizing faults with
  | zero => exact Or.inl (allClear_zero faults)
  | succ count ih =>
      cases hhead : faults.head?.join with
      | some e => exact Or.inr ⟨0, Nat.succ_pos count, FailsAfter.head hhead⟩
      | none =>
          rcases ih faults.tail with hclear | ⟨k, hk, hfails⟩
          · exact Or.inl ((allClear_succ faults count).mpr ⟨hhead, hclear⟩)
          · exact Or.inr ⟨k + 1, Nat.succ_lt_succ hk, hfails.tail hhead⟩

theorem AllClear.not_failsAfter {faults : List (Option String)} {count k : Nat}
    (h : AllClear faults count) (hk : k < count) : ¬ FailsAfter faults k := by
  intro hfails
  obtain ⟨_, e, he⟩ := hfails
  have hmem : some e ∈ faults.take count :=
    List.mem_of_getElem? (by rw [List.getElem?_take, if_pos hk, he])
  cases h (some e) hmem

theorem FailsAfter.unique {faults : List (Option String)} {k k' : Nat} (h : FailsAfter faults k)
    (h' : FailsAfter faults k') : k = k' := by
  rcases Nat.lt_trichotomy k k' with hlt | heq | hgt
  · exact absurd h (h'.1.not_failsAfter hlt)
  · exact heq
  · exact absurd h' (h.1.not_failsAfter hgt)

theorem addedRules_of_clear {steps : List FilterStep} :
    ∀ {rules : List FilterRule} {faults : List (Option String)},
      steps.map FilterStep.rule = rules.map Except.ok → AllClear faults rules.length →
        addedRules steps faults = rules := by
  induction steps with
  | nil =>
      intro rules faults hrules _
      cases rules with
      | nil => rfl
      | cons rule rest => cases hrules
  | cons step steps ih =>
      intro rules faults hrules hclear
      cases rules with
      | nil => cases hrules
      | cons rule rest =>
          obtain ⟨hrule, hrest⟩ := List.cons.inj hrules
          obtain ⟨hhead, htail⟩ := (allClear_succ faults rest.length).mp hclear
          simp only [addedRules, hrule, hhead]
          rw [ih hrest htail]

theorem addedRules_of_fails {steps : List FilterStep} :
    ∀ {rules : List FilterRule} {faults : List (Option String)} {count : Nat},
      steps.map FilterStep.rule = rules.map Except.ok → FailsAfter faults count →
        addedRules steps faults = rules.take count := by
  induction steps with
  | nil =>
      intro rules faults count hrules _
      cases rules with
      | nil => simp [addedRules]
      | cons rule rest => cases hrules
  | cons step steps ih =>
      intro rules faults count hrules hfails
      cases rules with
      | nil => cases hrules
      | cons rule rest =>
          obtain ⟨hrule, hrest⟩ := List.cons.inj hrules
          cases count with
          | zero =>
              obtain ⟨e, he⟩ := failsAfter_zero hfails
              simp only [addedRules, hrule, he, List.take_zero]
          | succ count =>
              obtain ⟨hhead, htail⟩ := failsAfter_succ hfails
              simp only [addedRules, hrule, hhead, List.take_succ_cons]
              rw [ih hrest htail]

theorem mem_addedRules {steps : List FilterStep} {rule : FilterRule} :
    ∀ {faults : List (Option String)}, rule ∈ addedRules steps faults →
      ∃ step ∈ steps, step.rule = .ok rule := by
  induction steps with
  | nil => intro faults hmem; cases hmem
  | cons step steps ih =>
      intro faults hmem
      simp only [addedRules] at hmem
      split at hmem
      · rename_i first hfirst _
        rcases List.mem_cons.mp hmem with rfl | hrest
        · exact ⟨step, List.mem_cons_self, hfirst⟩
        · obtain ⟨step', hstep', hrule⟩ := ih hrest
          exact ⟨step', List.mem_cons_of_mem step hstep', hrule⟩
      · cases hmem

theorem addedRules_append (steps rest : List FilterStep) (faults : List (Option String)) :
    addedRules (steps ++ rest) faults =
      if (addedRules steps faults).length = steps.length then
        addedRules steps faults ++ addedRules rest (faults.drop steps.length)
      else addedRules steps faults := by
  induction steps generalizing faults with
  | nil => simp [addedRules]
  | cons step steps ih =>
      have hdrop : faults.drop (steps.length + 1) = faults.tail.drop steps.length :=
        List.drop_tail.symm
      cases hrule : step.rule with
      | error e => simp [addedRules, hrule]
      | ok rule =>
          cases hhead : faults.head?.join with
          | some e => simp [addedRules, hrule, hhead]
          | none =>
              simp only [List.cons_append, addedRules, hrule, hhead, ih faults.tail,
                List.length_cons, Nat.add_right_cancel_iff, hdrop]
              split
              · rfl
              · rfl

section Front
variable {steps rest : List FilterStep} {faults : List (Option String)}
  (hrules : steps.map FilterStep.rule = rules.map Except.ok)
include hrules

theorem length_rules : rules.length = steps.length := by
  have hmap := congrArg List.length hrules
  rw [List.length_map, List.length_map] at hmap
  exact hmap.symm

theorem addedRules_front_of_clear (hclear : AllClear faults rules.length) :
    addedRules (steps ++ rest) faults = rules ++ addedRules rest (faults.drop rules.length) := by
  have hlen : rules.length = steps.length := length_rules hrules
  rw [addedRules_append, addedRules_of_clear hrules hclear, if_pos hlen, hlen]

theorem addedRules_front_of_fails {count : Nat} (hfails : FailsAfter faults count)
    (hcount : count < rules.length) : addedRules (steps ++ rest) faults = rules.take count := by
  have hlen : rules.length = steps.length := length_rules hrules
  rw [addedRules_append, addedRules_of_fails hrules hfails, if_neg]
  rw [List.length_take]
  omega

end Front

end AddSpecs

/-! ## What deleting filters does -/

section DeleteSpecs

/-- The filters are gone, and the others stay. -/
structure FiltersRemoved (ids : List Nat) (before after : WfpEngine) : Prop where
  nextId : after.nextId = before.nextId
  get : ∀ id, after.filters.get id = if id ∈ ids then none else before.filters.get id

theorem get_answered_remove (engine : WfpEngine) (id id' : Nat) :
    (engine.answered.remove id).filters.get id' =
      if id' = id then none else engine.filters.get id' :=
  get_remove engine.filters id id'

theorem FiltersRemoved.cons {id : Nat} {ids : List Nat} {before after : WfpEngine}
    (h : FiltersRemoved ids (before.answered.remove id) after) :
    FiltersRemoved (id :: ids) before after := by
  constructor
  · exact h.nextId
  · intro id'
    rw [h.get id', get_answered_remove]
    by_cases hmem : id' ∈ ids
    · rw [if_pos hmem, if_pos (List.mem_cons_of_mem id hmem)]
    · rw [if_neg hmem]
      simp only [List.mem_cons, hmem, or_false]

theorem exec_deleteFilter_ok {id : Nat} {rule : FilterRule} {engine : WfpEngine}
    (hfault : engine.nextFault = none) (hget : engine.filters.get id = some rule) :
    exec (FilterBuilder.deleteFilter id) engine = (.ok (), engine.answered.remove id) := by
  simp only [FilterBuilder.deleteFilter, exec_bind, exec_get, hfault, hget, exec_set]

theorem exec_deleteFilter_fault {id : Nat} {engine : WfpEngine} {e : String}
    (hfault : engine.nextFault = some e) :
    exec (FilterBuilder.deleteFilter id) engine = (.error e, engine.answered) := by
  simp only [FilterBuilder.deleteFilter, exec_bind, exec_get, hfault, exec_set, exec_throw]

def deleteAll (wrap : Nat → String → RouteGuardError) (ids : List Nat) : SessionProg Unit :=
  forEach (fun id => onEngine (wrap id) (FilterBuilder.deleteFilter id)) ids

variable (wrap : Nat → String → RouteGuardError)

theorem deleteAll_cons (id : Nat) (ids : List Nat) : deleteAll wrap (id :: ids) = (do
    onEngine (wrap id) (FilterBuilder.deleteFilter id)
    deleteAll wrap ids) := rfl

theorem exec_deleteAll : ∀ (ids : List Nat) (session : WfpSessionInner), ids.Nodup →
    (∀ id ∈ ids, session.engine.filters.get id ≠ none) →
      ∃ result after, exec (deleteAll wrap ids) session = (result, session.withEngine after) ∧
        (AllClear session.engine.faults ids.length ∧ result = .ok () ∧
            FiltersRemoved ids session.engine after ∨
          ∃ k < ids.length, FailsAfter session.engine.faults k ∧ (∃ e, result = .error e) ∧
            FiltersRemoved (ids.take k) session.engine after) := by
  intro ids
  induction ids with
  | nil =>
      intro session _ _
      refine ⟨.ok (), session.engine, rfl, Or.inl ⟨allClear_zero _, rfl, rfl, ?_⟩⟩
      intro id
      simp
  | cons id ids ih =>
      intro session hnodup hpresent
      obtain ⟨hid, hnodup⟩ := List.nodup_cons.mp hnodup
      rw [deleteAll_cons]
      cases hfault : session.engine.nextFault with
      | some e =>
          have hstep : exec (onEngine (wrap id) (FilterBuilder.deleteFilter id)) session =
              (.error (wrap id e), session.withEngine session.engine.answered) := by
            simp only [onEngine, exec_zoom, exec_mapError, exec_deleteFilter_fault hfault]
            rfl
          refine ⟨_, _, exec_bind_error hstep _,
            Or.inr ⟨0, Nat.succ_pos _, FailsAfter.head hfault, ⟨_, rfl⟩, rfl, ?_⟩⟩
          intro id'
          simp
      | none =>
          obtain ⟨rule, hrule⟩ := Option.ne_none_iff_exists'.mp (hpresent id List.mem_cons_self)
          have hstep : exec (onEngine (wrap id) (FilterBuilder.deleteFilter id)) session =
              (.ok (), session.withEngine (session.engine.answered.remove id)) := by
            simp only [onEngine, exec_zoom, exec_mapError, exec_deleteFilter_ok hfault hrule]
            rfl
          have hrest : ∀ id' ∈ ids, (session.engine.answered.remove id).filters.get id' ≠ none := by
            intro id' hmem
            have hne : id' ≠ id := fun heq => hid (heq ▸ hmem)
            rw [get_answered_remove, if_neg hne]
            exact hpresent id' (List.mem_cons_of_mem id hmem)
          obtain ⟨result, after, hexec, hcase⟩ :=
            ih (session.withEngine (session.engine.answered.remove id)) hnodup hrest
          refine ⟨result, after, by rw [exec_bind_ok hstep, hexec]; rfl, ?_⟩
          rcases hcase with ⟨hclear, hresult, hremoved⟩ | ⟨k, hk, hfails, hresult, hremoved⟩
          · exact Or.inl ⟨(allClear_succ _ _).mpr ⟨hfault, hclear⟩, hresult, hremoved.cons⟩
          · exact Or.inr ⟨k + 1, Nat.succ_lt_succ hk, FailsAfter.tail hfault hfails, hresult,
              hremoved.cons⟩

end DeleteSpecs

/-! ## Deleting without looking at the result -/

/-- `let _ = FilterBuilder::delete_filter(..)` for each identifier. -/
def deleteIgnored (ids : List Nat) : SessionProg Unit :=
  zoom WfpSessionInner.engine WfpSessionInner.withEngine (forEach (fun id => do
    let _ ← caught (FilterBuilder.deleteFilter id)
    pure ()) ids)

def clearFilters : SessionProg Unit := do
  let session ← get
  modify fun session => { session with activeFilters := [] }
  deleteIgnored session.activeFilters

def deletable : List Nat → List (Option String) → List Nat
  | [], _ => []
  | id :: rest, faults =>
      match faults.head?.join with
      | none => id :: deletable rest faults.tail
      | some _ => deletable rest faults.tail

theorem deletable_sublist (ids : List Nat) (faults : List (Option String)) :
    (deletable ids faults).Sublist ids := by
  induction ids generalizing faults with
  | nil => exact List.Sublist.refl []
  | cons id rest ih =>
      unfold deletable
      split
      · exact (ih faults.tail).cons_cons id
      · exact (ih faults.tail).cons id

theorem mem_of_mem_deletable {id : Nat} {ids : List Nat} {faults : List (Option String)}
    (h : id ∈ deletable ids faults) : id ∈ ids := (deletable_sublist ids faults).subset h

/-- Every deletion has its effect exactly where none of the operations fails. -/
theorem deletable_eq_iff {ids : List Nat} : ∀ {faults : List (Option String)},
    deletable ids faults = ids ↔ AllClear faults ids.length := by
  induction ids with
  | nil => intro faults; exact iff_of_true rfl (allClear_zero faults)
  | cons id rest ih =>
      intro faults
      rw [List.length_cons, allClear_succ]
      cases hhead : faults.head?.join with
      | none =>
          simp only [deletable, hhead, List.cons.injEq, true_and]
          exact ih
      | some e =>
          simp only [deletable, hhead]
          refine iff_of_false (fun h => ?_) (fun h => by cases h.1)
          have hle := (deletable_sublist rest faults.tail).length_le
          rw [h, List.length_cons] at hle
          omega

theorem deletable_all_iff {ids : List Nat} (hnodup : ids.Nodup) {faults : List (Option String)} :
    (∀ id ∈ ids, id ∈ deletable ids faults) ↔ AllClear faults ids.length := by
  rw [← deletable_eq_iff]
  constructor
  · intro hall
    have hle := (List.subperm_of_subset hnodup hall).length_le
    exact (deletable_sublist ids faults).eq_of_length_le hle
  · intro heq id hmem
    rw [heq]
    exact hmem

theorem removed_absent {id : Nat} {ids : List Nat} {before after : WfpEngine}
    (hnone : before.filters.get id = none) (h : FiltersRemoved ids before.answered after) :
    FiltersRemoved (id :: ids) before after := by
  constructor
  · exact h.nextId
  · intro id'
    rw [h.get id', answered_get]
    by_cases hsame : id' = id
    · simp [hsame, hnone]
    · simp [hsame]

theorem exec_deleteIgnored : ∀ (ids : List Nat) (session : WfpSessionInner),
    ∃ after, exec (deleteIgnored ids) session = (.ok (), session.withEngine after) ∧
      FiltersRemoved (deletable ids session.engine.faults) session.engine after ∧
      after.faults = session.engine.faults.drop ids.length := by
  intro ids
  induction ids with
  | nil =>
      intro session
      refine ⟨session.engine, rfl, ⟨rfl, fun id => ?_⟩, rfl⟩
      simp [deletable]
  | cons id ids ih =>
      intro session
      have hstep : ∀ engine, (exec (FilterBuilder.deleteFilter id) session.engine).2 = engine →
          exec (deleteIgnored (id :: ids)) session =
            ((exec (deleteIgnored ids) (session.withEngine engine)).1,
              (exec (deleteIgnored ids) (session.withEngine engine)).2) := by
        intro engine hengine
        simp only [deleteIgnored, exec_zoom, forEach, exec_bind, exec_caught, exec_pure, hengine]
        rfl
      have hdrop : session.engine.faults.drop (ids.length + 1) =
          session.engine.faults.tail.drop ids.length := List.drop_tail.symm
      cases hfault : session.engine.nextFault with
      | some e =>
          have hjoin : session.engine.faults.head?.join = some e := hfault
          obtain ⟨after, hexec, hremoved, hfaults⟩ :=
            ih (session.withEngine session.engine.answered)
          refine ⟨after, ?_, ?_, hfaults.trans hdrop.symm⟩
          · rw [hstep _ (by rw [exec_deleteFilter_fault hfault]), hexec]
            rfl
          · simp only [deletable, hjoin]
            exact ⟨hremoved.nextId, hremoved.get⟩
      | none =>
          have hjoin : session.engine.faults.head?.join = none := hfault
          cases hget : session.engine.filters.get id with
          | some rule =>
              obtain ⟨after, hexec, hremoved, hfaults⟩ :=
                ih (session.withEngine (session.engine.answered.remove id))
              refine ⟨after, ?_, ?_, hfaults.trans hdrop.symm⟩
              · rw [hstep _ (by rw [exec_deleteFilter_ok hfault hget]), hexec]
                rfl
              · simp only [deletable, hjoin]
                exact FiltersRemoved.cons hremoved
          | none =>
              have habsent : (exec (FilterBuilder.deleteFilter id) session.engine).2 =
                  session.engine.answered := by
                simp only [FilterBuilder.deleteFilter, exec_bind, exec_get, hfault, hget, exec_set,
                  exec_throw]
              obtain ⟨after, hexec, hremoved, hfaults⟩ :=
                ih (session.withEngine session.engine.answered)
              refine ⟨after, ?_, ?_, hfaults.trans hdrop.symm⟩
              · rw [hstep _ habsent, hexec]
                rfl
              · simp only [deletable, hjoin]
                exact removed_absent hget hremoved

/-! ## Filters of a kind -/

/-- The identifier is that of a filter present, and the filter is of the kind. -/
def FilterAt (kind : FilterRule → Bool) (engine : WfpEngine) (id : Nat) : Prop :=
  ∃ rule, engine.filters.get id = some rule ∧ kind rule = true

section FilterAt
variable {kind : FilterRule → Bool} {before after : WfpEngine}

theorem FilterAt.lt_nextId {id : Nat} (h : FilterAt kind before id) : id < before.nextId := by
  obtain ⟨rule, hget, _⟩ := h
  by_contra hge
  rw [before.fresh id (Nat.not_lt.mp hge)] at hget
  cases hget

theorem filterAt_added {rules : List FilterRule} (h : FiltersAdded rules before after)
    (hkind : ∀ rule ∈ rules, kind rule = true) (id : Nat) :
    FilterAt kind after id ↔
      FilterAt kind before id ∨ id ∈ List.range' before.nextId rules.length := by
  rw [List.mem_range'_1]
  constructor
  · intro hat
    obtain ⟨rule, hget, hrule⟩ := hat
    rw [h.get id] at hget
    split at hget
    · rename_i hle
      have hlt := (List.getElem?_eq_some_iff.mp hget).1
      omega
    · exact Or.inl ⟨rule, hget, hrule⟩
  · intro hcase
    rcases hcase with hold | hrange
    · obtain ⟨rule, hget, hrule⟩ := hold
      have hlt := FilterAt.lt_nextId ⟨rule, hget, hrule⟩
      refine ⟨rule, ?_, hrule⟩
      rw [h.get id, if_neg (Nat.not_le.mpr hlt), hget]
    · have hlt : id - before.nextId < rules.length := by omega
      have hget : after.filters.get id = some rules[id - before.nextId] := by
        rw [h.get id, if_pos hrange.1]
        exact List.getElem?_eq_getElem hlt
      exact ⟨_, hget, hkind _ (List.getElem_mem hlt)⟩

theorem filterAt_removed {ids : List Nat} (h : FiltersRemoved ids before after) (id : Nat) :
    FilterAt kind after id ↔ FilterAt kind before id ∧ id ∉ ids := by
  rw [FilterAt, h.get id]
  by_cases hmem : id ∈ ids
  · simp [hmem]
  · simp [hmem, FilterAt]

end FilterAt

/-! ## An engine that blocks every flow -/

def blockedSession : WfpSessionInner where
  engine := WfpEngine.empty.insert (FilterRule.block "RouteGuard_KS_BLOCK")

theorem not_permitted_blocked (flow : OutboundFlow) :
    ¬ Permitted blockedSession.engine.rules flow := by
  have honly : ∀ id rule, blockedSession.engine.filters.get id = some rule →
      rule = FilterRule.block "RouteGuard_KS_BLOCK" := by
    intro id rule hget
    have hinsert : blockedSession.engine.filters.get id =
        if id = 1 then some (FilterRule.block "RouteGuard_KS_BLOCK") else none :=
      get_insert ∅ 1 id (FilterRule.block "RouteGuard_KS_BLOCK")
    rw [hinsert] at hget
    split at hget
    · cases hget
      rfl
    · cases hget
  intro hpermitted
  rcases hpermitted with ⟨rule, ⟨id, hid⟩, htier, _⟩ | hnot
  · rw [honly id rule hid] at htier
    cases htier
  · exact hnot ⟨FilterRule.block "RouteGuard_KS_BLOCK", ⟨1, rfl⟩, rfl, FilterRule.applies_block _ _⟩

end RouteGuard
