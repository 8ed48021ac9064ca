import RouteGuard.Service.LockPolicy
import RouteGuard.Wfp.LockRuns
import RouteGuard.Wfp.SplitFilters

/-! # Replacing the split filters

`apply_split_wfp`: the filters of the previous policy are deleted, those of the
new one added, the network lock enabled where the configuration asks for it, and
two state files are written.  Any of these steps can fail. -/
set_option autoImplicit false
namespace RouteGuard

open HashTable Fallible

/-! ## The call -/

/-- The WFP session with its network lock, and `wfp_filter_ids` of the session routes. -/
structure FilterState where
  lock : LockContext
  wfpFilterIds : List Nat := []

/-- What `apply_split_wfp` is called with, and what the two state files answer. -/
structure SplitWfpCall where
  policy : PolicySnapshot
  /-- `cfg.network_lock.enabled` -/
  lockEnabled : Bool
  /-- `save_app_rules_state` -/
  saveAppRules : Except RouteGuardError Unit
  /-- `save_session_snapshot` -/
  saveSnapshot : Except RouteGuardError Unit

abbrev FilterProg (A : Type) := Prog FilterState RouteGuardError A

namespace FilterState

def engine (st : FilterState) : WfpEngine := st.lock.session.engine

def onLock {A : Type} (m : LockProg A) : FilterProg A :=
  zoom FilterState.lock (fun lock st => { st with lock := lock }) m

end FilterState

section Call
variable (fromCidr : String → Except String IpNet)

def applySplitWfp (call : SplitWfpCall) : FilterProg Unit := do
  let previous := (← get).wfpFilterIds
  let ids ← FilterState.onLock (onSession (applySplitTunnel fromCidr call.policy previous))
  modify fun st => { st with wfpFilterIds := ids }
  if call.lockEnabled then
    FilterState.onLock (NetworkLock.enable fromCidr call.policy.networkLockPolicy)
  fromResult call.saveAppRules
  fromResult call.saveSnapshot

end Call

/-! ## Names -/

def FilterRule.isSplit (rule : FilterRule) : Bool := startsWith rule.name "RouteGuard_SPLIT_"

theorem isSplit_splitName {rule : FilterRule} (suffix : String) (h : rule.name = splitName suffix) :
    rule.isSplit = true := by
  rw [FilterRule.isSplit, h]
  exact startsWith_append _ _

theorem not_isSplit_of_isLock {rule : FilterRule} (h : rule.isLock = true) :
    rule.isSplit = false := by
  rw [FilterRule.isLock, startsWith, List.isPrefixOf_iff_prefix] at h
  rw [FilterRule.isSplit, startsWith, Bool.eq_false_iff]
  intro hsplit
  rw [List.isPrefixOf_iff_prefix] at hsplit
  have hshort : "RouteGuard_KS_".toList <+: "RouteGuard_SPLIT_".toList :=
    List.prefix_of_prefix_length_le h hsplit (by decide)
  exact absurd hshort (by decide)

section Split
variable {fromCidr : String → Except String IpNet} {policy : PolicySnapshot}

theorem isSplit_appSteps {permitKind blockKind : String} {row : AppFilterEntry × Nat}
    {step : FilterStep} (hstep : step ∈ appSteps permitKind blockKind row) {rule : FilterRule}
    (hrule : step.rule = .ok rule) : rule.isSplit = true := by
  simp only [appSteps, List.mem_cons, List.not_mem_nil, or_false] at hstep
  rcases hstep with rfl | rfl
  · cases hrule
    exact isSplit_splitName _ rfl
  · cases hrule
    exact isSplit_splitName _ rfl

theorem isSplit_splitSteps {step : FilterStep} (hstep : step ∈ splitSteps fromCidr policy)
    {rule : FilterRule} (hrule : step.rule = .ok rule) : rule.isSplit = true := by
  unfold splitSteps at hstep
  split at hstep
  · exact absurd hstep List.not_mem_nil
  · cases hmode : policy.routingMode with
    | splitInclude =>
        simp only [hmode] at hstep
        obtain ⟨row, _, hmem⟩ := List.mem_flatMap.mp hstep
        exact isSplit_appSteps hmem hrule
    | fullTunnel =>
        simp only [hmode, List.mem_append] at hstep
        rcases hstep with happ | htunnel | hblock
        · obtain ⟨row, _, hmem⟩ := List.mem_flatMap.mp happ
          exact isSplit_appSteps hmem hrule
        · split at htunnel
          · exact absurd htunnel List.not_mem_nil
          · rw [List.mem_singleton.mp htunnel] at hrule
            cases hrule
            exact isSplit_splitName _ rfl
        · obtain ⟨row, _, rfl⟩ := List.mem_map.mp hblock
          simp only [blockCidrStep, splitStep] at hrule
          cases hparse : ipMaskFromStr fromCidr row.1 with
          | error e =>
              rw [hparse] at hrule
              cases hrule
          | ok net =>
              rw [hparse] at hrule
              cases hrule
              exact isSplit_splitName _ rfl

theorem isSplit_addedRules {faults : List (Option String)} {rule : FilterRule}
    (h : rule ∈ addedRules (splitSteps fromCidr policy) faults) : rule.isSplit = true := by
  obtain ⟨step, hstep, hrule⟩ := mem_addedRules h
  exact isSplit_splitSteps hstep hrule

end Split

/-! ## What the filters become -/

theorem exec_addAll_faults (steps : List FilterStep) : ∀ session : WfpSessionInner,
    (addedRules steps session.engine.faults).length = steps.length →
      (exec (addAll steps) session).2.engine.faults = session.engine.faults.drop steps.length := by
  induction steps with
  | nil => intro session _; rfl
  | cons step rest ih =>
      intro session hlen
      simp only [addedRules] at hlen
      split at hlen
      · rename_i rule hrule hjoin
        have hstep := exec_add_ok session hrule hjoin
        have hrest := ih (session.withEngine (session.engine.answered.insert rule))
          (Nat.succ.inj hlen)
        have hdrop : session.engine.faults.drop (rest.length + 1) =
            session.engine.faults.tail.drop rest.length := List.drop_tail.symm
        rw [addAll_cons, exec_bind_ok hstep, List.length_cons, hdrop, exec_bind]
        cases hexec : exec (addAll rest)
            (session.withEngine (session.engine.answered.insert rule)) with
        | mk result after =>
            rw [hexec] at hrest
            cases result <;> exact hrest
      · cases hlen

section Specs
variable {fromCidr : String → Except String IpNet}

def newRules (fromCidr : String → Except String IpNet) (policy : PolicySnapshot)
    (previous : List Nat) (engine : WfpEngine) : List FilterRule :=
  addedRules (splitSteps fromCidr policy) (engine.faults.drop previous.length)

def Completes (fromCidr : String → Except String IpNet) (policy : PolicySnapshot)
    (previous : List Nat) (engine : WfpEngine) : Prop :=
  (newRules fromCidr policy previous engine).length = (splitSteps fromCidr policy).length

instance (policy : PolicySnapshot) (previous : List Nat) (engine : WfpEngine) :
    Decidable (Completes fromCidr policy previous engine) :=
  inferInstanceAs (Decidable ((newRules fromCidr policy previous engine).length =
    (splitSteps fromCidr policy).length))

theorem applySplitTunnel_spec (policy : PolicySnapshot) (previous : List Nat)
    (session : WfpSessionInner) :
    ∃ result removed after active,
      exec (applySplitTunnel fromCidr policy previous) session = (result, ⟨after, active⟩) ∧
      FiltersRemoved (deletable previous session.engine.faults) session.engine removed ∧
      FiltersAdded (newRules fromCidr policy previous session.engine) removed after ∧
      (Completes fromCidr policy previous session.engine ∧
          result = .ok (List.range' session.engine.nextId (splitSteps fromCidr policy).length) ∧
          after.faults =
            session.engine.faults.drop (previous.length + (splitSteps fromCidr policy).length) ∨
        ¬Completes fromCidr policy previous session.engine ∧ ∃ e, result = .error e) := by
  obtain ⟨removed, hdelete, hremoved, hfaults⟩ := exec_deleteIgnored previous session
  obtain ⟨active, hremove⟩ : ∃ active, exec (removeSplitFilters previous) session =
      (.ok (), ⟨removed, active⟩) := ⟨_, by rw [removeSplitFilters, exec_bind_ok hdelete]; rfl⟩
  simp only [newRules, Completes]
  rw [applySplitTunnel, exec_bind_ok hremove, ← hfaults]
  cases htunnel : policy.tunnelIfIndex.isNone with
  | true =>
      have hsteps : splitSteps fromCidr policy = [] := by simp only [splitSteps, htunnel, if_true]
      simp only [hsteps, addedRules, if_true, exec_pure]
      refine ⟨_, removed, removed, active, rfl, hremoved, added_nil (fun _ => rfl) rfl,
        Or.inl ⟨rfl, rfl, ?_⟩⟩
      exact hfaults
  | false =>
      obtain ⟨result, after, hexec, hadded, hresult⟩ :=
        exec_addAll (splitSteps fromCidr policy) ⟨removed, active⟩
      have hafter := exec_addAll_faults (splitSteps fromCidr policy) ⟨removed, active⟩
      rw [hexec] at hafter
      rw [if_neg Bool.false_ne_true, installForMode_eq fromCidr htunnel, exec_bind, hexec]
      rcases hresult with ⟨hlen, rfl⟩ | ⟨hlen, e, rfl⟩
      · simp only [exec_bind, exec_trackAll, exec_pure]
        refine ⟨_, removed, after, _, rfl, hremoved, hadded, Or.inl ⟨hlen, ?_, ?_⟩⟩
        · rw [hremoved.nextId]
        · have hdrop := hafter hlen
          simp only [WfpSessionInner.withEngine, hfaults, List.drop_drop] at hdrop
          exact hdrop
      · exact ⟨_, removed, after, active, rfl, hremoved, hadded, Or.inr ⟨Nat.ne_of_lt hlen, e, rfl⟩⟩

theorem enable_added (hreads : ReadsLockCidrs fromCidr) (policy : NetworkLockPolicy)
    (ctx : LockContext) :
    ∃ result after rules, exec (NetworkLock.enable fromCidr policy) ctx = (result, after) ∧
      (∀ rule ∈ rules, rule.isLock = true) ∧ FiltersAdded rules ctx.engine after.engine ∧
      (result = .ok () ↔ ctx.lock.enabled = true ∨
        AllClear ctx.engine.faults (lockRules policy).length ∧ ctx.saveFault = none) := by
  cases hon : ctx.lock.enabled with
  | true =>
      refine ⟨.ok (), ctx, [], exec_enable_on fromCidr policy hon, ?_,
        added_nil (fun _ => rfl) rfl, ?_⟩
      · intro rule hmem
        exact absurd hmem List.not_mem_nil
      · simp
  | false =>
      obtain ⟨result, after, hexec, hcase⟩ := exec_enable hreads policy hon
      rcases hcase with ⟨hclear, _, hadded, hok⟩ | ⟨k, hk, hfails, _, hadded, e, rfl⟩
      · refine ⟨result, after, lockRules policy, hexec, isLock_lockRules, hadded, ?_⟩
        simp only [hok, hclear, Bool.false_eq_true, true_and, false_or]
      · refine ⟨.error e, after, (lockRules policy).take k, hexec, ?_, hadded, ?_⟩
        · intro rule hmem
          exact isLock_lockRules rule (List.mem_of_mem_take hmem)
        · have hnot : ¬AllClear ctx.engine.faults (lockRules policy).length :=
            fun hclear => hclear.not_failsAfter hk hfails
          simp [hnot]

end Specs

/-! ## Listed and restored filters -/

section Call
variable (fromCidr : String → Except String IpNet) (call : SplitWfpCall) (st : FilterState)

/-- Enabling the lock or writing a state file fails, after the new filters are in place. -/
def FailsLater : Prop :=
  (call.lockEnabled = true ∧ st.lock.lock.enabled = false ∧
    ¬(AllClear (st.engine.faults.drop
        (st.wfpFilterIds.length + (splitSteps fromCidr call.policy).length))
      (lockRules call.policy.networkLockPolicy).length ∧ st.lock.saveFault = none)) ∨
  (∃ e, call.saveAppRules = .error e) ∨ ∃ e, call.saveSnapshot = .error e

/-- Every split filter is listed afterwards; where the call fails, the rules of the filters listed
before are all present. -/
structure FiltersKept : Prop where
  listed : ∀ id rule, (exec (applySplitWfp fromCidr call) st).2.engine.filters.get id = some rule →
    rule.isSplit = true → id ∈ (exec (applySplitWfp fromCidr call) st).2.wfpFilterIds
  restored : (∃ e, (exec (applySplitWfp fromCidr call) st).1 = .error e) →
    ∀ id ∈ st.wfpFilterIds, ∀ rule, st.engine.filters.get id = some rule →
      rule ∈ (exec (applySplitWfp fromCidr call) st).2.engine.rules

/-- The list is that of the split filters present, whose identifiers have been given out. -/
structure FilterState.Listed : Prop where
  split_iff : ∀ id rule, st.engine.filters.get id = some rule →
    (rule.isSplit = true ↔ id ∈ st.wfpFilterIds)
  drawn : ∀ id ∈ st.wfpFilterIds, id < st.engine.nextId

/-- No failure of the call hits what it would have to undo: the additions all succeed and the
previous filters are deleted, to return in the new ones where a later step fails; or the first
addition fails and the deletions have failed as well. -/
def Harmless : Prop :=
  if Completes fromCidr call.policy st.wfpFilterIds st.engine then
    (∀ id ∈ st.wfpFilterIds, st.engine.filters.get id ≠ none →
      id ∈ deletable st.wfpFilterIds st.engine.faults) ∧
    (FailsLater fromCidr call st → ∀ id ∈ st.wfpFilterIds, ∀ rule,
      st.engine.filters.get id = some rule →
        rule ∈ newRules fromCidr call.policy st.wfpFilterIds st.engine)
  else
    newRules fromCidr call.policy st.wfpFilterIds st.engine = [] ∧
    ∀ id ∈ st.wfpFilterIds, ∀ rule, st.engine.filters.get id = some rule →
      ∃ other ∈ st.wfpFilterIds, other ∉ deletable st.wfpFilterIds st.engine.faults ∧
        st.engine.filters.get other = some rule

variable {fromCidr call st}

theorem exec_saves (first second : Except RouteGuardError Unit) (st : FilterState) :
    ∃ result, exec (do
        fromResult first
        fromResult second : FilterProg Unit) st = (result, st) ∧
      ((∃ e, result = .error e) ↔ (∃ e, first = .error e) ∨ ∃ e, second = .error e) := by
  cases first with
  | error e => exact ⟨.error e, rfl, by simp⟩
  | ok _ =>
      refine ⟨second, rfl, ?_⟩
      cases second <;> simp

theorem applySplitWfp_spec (hreads : ReadsLockCidrs fromCidr) (call : SplitWfpCall)
    (st : FilterState) :
    ∃ result after removed middle rules,
      exec (applySplitWfp fromCidr call) st = (result, after) ∧
      FiltersRemoved (deletable st.wfpFilterIds st.engine.faults) st.engine removed ∧
      FiltersAdded (newRules fromCidr call.policy st.wfpFilterIds st.engine) removed middle ∧
      FiltersAdded rules middle after.engine ∧ (∀ rule ∈ rules, rule.isLock = true) ∧
      (Completes fromCidr call.policy st.wfpFilterIds st.engine ∧
          after.wfpFilterIds =
            List.range' st.engine.nextId (splitSteps fromCidr call.policy).length ∧
          ((∃ e, result = .error e) ↔ FailsLater fromCidr call st) ∨
        ¬Completes fromCidr call.policy st.wfpFilterIds st.engine ∧
          after.wfpFilterIds = st.wfpFilterIds ∧ ∃ e, result = .error e) := by
  obtain ⟨result, removed, middle, active, hexec, hremoved, hadded, hcase⟩ :=
    @applySplitTunnel_spec fromCidr call.policy st.wfpFilterIds st.lock.session
  have hsplit : exec (FilterState.onLock (onSession
      (applySplitTunnel fromCidr call.policy st.wfpFilterIds))) st =
      (result, { st with lock := { st.lock with session := ⟨middle, active⟩ } }) := by
    rw [FilterState.onLock, exec_zoom, onSession, exec_zoom, hexec]
  simp only [applySplitWfp, exec_bind, exec_get, hsplit]
  rcases hcase with ⟨hcompletes, rfl, hfaults⟩ | ⟨hstopped, e, rfl⟩
  · simp only [exec_modify]
    obtain ⟨enabled, after, rules, henable, hlock, hrules, hok⟩ := enable_added hreads
      call.policy.networkLockPolicy { st.lock with session := ⟨middle, active⟩ }
    have hfaults' : middle.faults = st.engine.faults.drop
        (st.wfpFilterIds.length + (splitSteps fromCidr call.policy).length) := hfaults
    simp only [LockContext.engine, hfaults'] at hok
    let ids := List.range' st.engine.nextId (splitSteps fromCidr call.policy).length
    let listed : FilterState := ⟨{ st.lock with session := ⟨middle, active⟩ }, ids⟩
    cases hwanted : call.lockEnabled with
    | false =>
        obtain ⟨saved, hsaves, hsaved⟩ := exec_saves call.saveAppRules call.saveSnapshot listed
        simp only [Bool.false_eq_true, if_false]
        refine ⟨saved, listed, removed, middle, [], hsaves, hremoved, hadded,
          added_nil (fun _ => rfl) rfl, ?_, Or.inl ⟨hcompletes, rfl, ?_⟩⟩
        · intro rule hmem
          exact absurd hmem List.not_mem_nil
        · rw [hsaved]
          refine (or_iff_right ?_).symm
          intro hcontra
          rw [hwanted] at hcontra
          exact Bool.false_ne_true hcontra.1
    | true =>
        have hstep : exec (FilterState.onLock
            (NetworkLock.enable fromCidr call.policy.networkLockPolicy)) listed =
            (enabled, ⟨after, ids⟩) := by
          rw [FilterState.onLock, exec_zoom, henable]
        rw [if_pos rfl]
        cases enabled with
        | error e =>
            have hfails : ¬(st.lock.lock.enabled = true ∨
                AllClear (st.engine.faults.drop (st.wfpFilterIds.length +
                  (splitSteps fromCidr call.policy).length))
                  (lockRules call.policy.networkLockPolicy).length ∧
                st.lock.saveFault = none) := by
              rw [← hok]
              exact fun h => by cases h
            rw [not_or, Bool.not_eq_true] at hfails
            refine ⟨.error e, ⟨after, ids⟩, removed, middle, rules, exec_bind_error hstep _,
              hremoved, hadded, hrules, hlock, Or.inl ⟨hcompletes, rfl, ?_⟩⟩
            exact iff_of_true ⟨e, rfl⟩ (Or.inl ⟨hwanted, hfails⟩)
        | ok _ =>
            obtain ⟨saved, hsaves, hsaved⟩ :=
              exec_saves call.saveAppRules call.saveSnapshot ⟨after, ids⟩
            refine ⟨saved, ⟨after, ids⟩, removed, middle, rules,
              (exec_bind_ok hstep _).trans hsaves, hremoved, hadded, hrules, hlock,
              Or.inl ⟨hcompletes, rfl, ?_⟩⟩
            rw [hsaved]
            refine (or_iff_right ?_).symm
            intro hcontra
            rcases hok.mp rfl with hon | hclear
            · exact Bool.false_ne_true (hcontra.2.1.symm.trans hon)
            · exact hcontra.2.2 hclear
  · exact ⟨_, _, removed, middle, [], rfl, hremoved, hadded, added_nil (fun _ => rfl) rfl,
      fun rule hmem => absurd hmem List.not_mem_nil, Or.inr ⟨hstopped, rfl, e, rfl⟩⟩

section Presence
variable {removed middle after : WfpEngine} {rules : List FilterRule}

/-- A split filter that is present afterwards is a new one or a previous one that was not
deleted. -/
theorem split_after_iff
    (hremoved : FiltersRemoved (deletable st.wfpFilterIds st.engine.faults) st.engine removed)
    (hadded : FiltersAdded (newRules fromCidr call.policy st.wfpFilterIds st.engine)
      removed middle)
    (hlock : FiltersAdded rules middle after) (hrules : ∀ rule ∈ rules, rule.isLock = true)
    (id : Nat) {rule : FilterRule} (hsplit : rule.isSplit = true) :
    after.filters.get id = some rule ↔
      st.engine.nextId ≤ id ∧ (newRules fromCidr call.policy st.wfpFilterIds
          st.engine)[id - st.engine.nextId]? = some rule ∨
        id ∉ deletable st.wfpFilterIds st.engine.faults ∧
          st.engine.filters.get id = some rule := by
  have hnext : removed.nextId = st.engine.nextId := hremoved.nextId
  have hnew : middle.filters.get id = some rule ↔
      st.engine.nextId ≤ id ∧ (newRules fromCidr call.policy st.wfpFilterIds
          st.engine)[id - st.engine.nextId]? = some rule ∨
        id ∉ deletable st.wfpFilterIds st.engine.faults ∧
          st.engine.filters.get id = some rule := by
    rw [hadded.get id, hnext, hremoved.get id]
    by_cases hlate : st.engine.nextId ≤ id
    · simp [hlate, st.engine.fresh id hlate]
    · by_cases hdeleted : id ∈ deletable st.wfpFilterIds st.engine.faults
      · simp [hlate, hdeleted]
      · simp [hlate, hdeleted]
  rw [← hnew, hlock.get id]
  by_cases hlate : middle.nextId ≤ id
  · rw [if_pos hlate, middle.fresh id hlate]
    refine iff_of_false ?_ (by simp)
    intro hget
    have hislock := hrules rule (List.mem_of_getElem? hget)
    rw [not_isSplit_of_isLock hislock] at hsplit
    exact Bool.false_ne_true hsplit
  · rw [if_neg hlate]

/-! What that says of each of the two requirements, for an engine where the split filters are as
`split_after_iff` finds them. -/

variable (hlisted : st.Listed)
  (hafter : ∀ id (rule : FilterRule), rule.isSplit = true → (after.filters.get id = some rule ↔
    st.engine.nextId ≤ id ∧ (newRules fromCidr call.policy st.wfpFilterIds
        st.engine)[id - st.engine.nextId]? = some rule ∨
      id ∉ deletable st.wfpFilterIds st.engine.faults ∧ st.engine.filters.get id = some rule))

include hlisted hafter

theorem listed_completes_iff
    (hcompletes : Completes fromCidr call.policy st.wfpFilterIds st.engine) :
    (∀ id rule, after.filters.get id = some rule → rule.isSplit = true →
        id ∈ List.range' st.engine.nextId (splitSteps fromCidr call.policy).length) ↔
      ∀ id ∈ st.wfpFilterIds, st.engine.filters.get id ≠ none →
        id ∈ deletable st.wfpFilterIds st.engine.faults := by
  constructor
  · intro h id hmem hpresent
    by_contra hsurvives
    obtain ⟨rule, hget⟩ := Option.ne_none_iff_exists'.mp hpresent
    have hsplit := (hlisted.split_iff id rule hget).mpr hmem
    have hin := h id rule ((hafter id rule hsplit).mpr (Or.inr ⟨hsurvives, hget⟩)) hsplit
    rw [List.mem_range'_1] at hin
    have hlt := hlisted.drawn id hmem
    omega
  · intro h id rule hget hsplit
    rcases (hafter id rule hsplit).mp hget with ⟨hle, hnew⟩ | ⟨hsurvives, hold⟩
    · have hlt := (List.getElem?_eq_some_iff.mp hnew).1
      have hlen : (newRules fromCidr call.policy st.wfpFilterIds st.engine).length =
          (splitSteps fromCidr call.policy).length := hcompletes
      rw [List.mem_range'_1]
      omega
    · have hmem := (hlisted.split_iff id rule hold).mp hsplit
      exact absurd (h id hmem (by simp [hold])) hsurvives

theorem restored_completes_iff (hdeleted : ∀ id ∈ st.wfpFilterIds,
      st.engine.filters.get id ≠ none → id ∈ deletable st.wfpFilterIds st.engine.faults) :
    (∀ id ∈ st.wfpFilterIds, ∀ rule, st.engine.filters.get id = some rule →
        rule ∈ after.rules) ↔
      ∀ id ∈ st.wfpFilterIds, ∀ rule, st.engine.filters.get id = some rule →
        rule ∈ newRules fromCidr call.policy st.wfpFilterIds st.engine := by
  constructor
  · intro h id hmem rule hget
    obtain ⟨id', hget'⟩ := h id hmem rule hget
    have hsplit := (hlisted.split_iff id rule hget).mpr hmem
    rcases (hafter id' rule hsplit).mp hget' with ⟨_, hnew⟩ | ⟨hsurvives, hold⟩
    · exact List.mem_of_getElem? hnew
    · have hmem' := (hlisted.split_iff id' rule hold).mp hsplit
      exact absurd (hdeleted id' hmem' (by simp [hold])) hsurvives
  · intro h id hmem rule hget
    have hsplit := (hlisted.split_iff id rule hget).mpr hmem
    obtain ⟨i, hi⟩ := List.mem_iff_getElem?.mp (h id hmem rule hget)
    refine ⟨st.engine.nextId + i, (hafter _ rule hsplit).mpr (Or.inl ⟨?_, ?_⟩)⟩
    · exact Nat.le_add_right _ _
    · rw [Nat.add_sub_cancel_left]
      exact hi

theorem listed_stopped_iff :
    (∀ id rule, after.filters.get id = some rule → rule.isSplit = true →
        id ∈ st.wfpFilterIds) ↔
      newRules fromCidr call.policy st.wfpFilterIds st.engine = [] := by
  constructor
  · intro h
    cases hnew : newRules fromCidr call.policy st.wfpFilterIds st.engine with
    | nil => rfl
    | cons rule rest =>
        have hmember : rule ∈ addedRules (splitSteps fromCidr call.policy)
            (st.engine.faults.drop st.wfpFilterIds.length) := by
          rw [← newRules, hnew]
          exact List.mem_cons_self
        have hsplit := isSplit_addedRules hmember
        have hget : after.filters.get st.engine.nextId = some rule := by
          refine (hafter _ rule hsplit).mpr (Or.inl ⟨Nat.le_refl _, ?_⟩)
          rw [hnew, Nat.sub_self]
          rfl
        have hmem := h _ rule hget hsplit
        exact absurd (hlisted.drawn _ hmem) (Nat.lt_irrefl _)
  · intro hnone id rule hget hsplit
    rcases (hafter id rule hsplit).mp hget with ⟨_, hnew⟩ | ⟨_, hold⟩
    · rw [hnone] at hnew
      cases hnew
    · exact (hlisted.split_iff id rule hold).mp hsplit

theorem restored_stopped_iff
    (hnone : newRules fromCidr call.policy st.wfpFilterIds st.engine = []) :
    (∀ id ∈ st.wfpFilterIds, ∀ rule, st.engine.filters.get id = some rule →
        rule ∈ after.rules) ↔
      ∀ id ∈ st.wfpFilterIds, ∀ rule, st.engine.filters.get id = some rule →
        ∃ other ∈ st.wfpFilterIds, other ∉ deletable st.wfpFilterIds st.engine.faults ∧
          st.engine.filters.get other = some rule := by
  constructor
  · intro h id hmem rule hget
    obtain ⟨other, hother⟩ := h id hmem rule hget
    have hsplit := (hlisted.split_iff id rule hget).mpr hmem
    rcases (hafter other rule hsplit).mp hother with ⟨_, hnew⟩ | ⟨hsurvives, hold⟩
    · rw [hnone] at hnew
      cases hnew
    · exact ⟨other, (hlisted.split_iff other rule hold).mp hsplit, hsurvives, hold⟩
  · intro h id hmem rule hget
    obtain ⟨other, _, hsurvives, hold⟩ := h id hmem rule hget
    have hsplit := (hlisted.split_iff id rule hget).mpr hmem
    exact ⟨other, (hafter other rule hsplit).mpr (Or.inr ⟨hsurvives, hold⟩)⟩

end Presence

/-- The call keeps the split filters exactly where no failure hits it at a harmful place. -/
theorem filtersKept_iff (hreads : ReadsLockCidrs fromCidr) (hlisted : st.Listed) :
    FiltersKept fromCidr call st ↔ Harmless fromCidr call st := by
  obtain ⟨result, after, removed, middle, rules, hexec, hremoved, hadded, hlock, hrules, hcase⟩ :=
    applySplitWfp_spec hreads call st
  have hafter := fun id (rule : FilterRule) (hsplit : rule.isSplit = true) =>
    split_after_iff hremoved hadded hlock hrules id hsplit
  have hkept : FiltersKept fromCidr call st ↔
      (∀ id rule, after.engine.filters.get id = some rule → rule.isSplit = true →
        id ∈ after.wfpFilterIds) ∧
      ((∃ e, result = .error e) → ∀ id ∈ st.wfpFilterIds, ∀ rule,
        st.engine.filters.get id = some rule → rule ∈ after.engine.rules) := by
    constructor
    · intro h
      have hl := h.listed
      have hr := h.restored
      rw [hexec] at hl hr
      exact ⟨hl, hr⟩
    · intro h
      constructor
      · rw [hexec]
        exact h.1
      · rw [hexec]
        exact h.2
  rw [hkept, Harmless]
  rcases hcase with ⟨hcompletes, hids, hfails⟩ | ⟨hstopped, hids, hfails⟩
  · rw [if_pos hcompletes, hids, hfails, listed_completes_iff hlisted hafter hcompletes]
    refine and_congr_right fun hdeleted => imp_congr_right fun _ => ?_
    exact restored_completes_iff hlisted hafter hdeleted
  · rw [if_neg hstopped, hids, listed_stopped_iff hlisted hafter]
    refine and_congr_right fun hnone => ?_
    rw [← restored_stopped_iff hlisted hafter hnone]
    exact ⟨fun h => h hfails, fun h _ => h⟩

end Call

/-! ### An addition that fails -/

def browserPermit : FilterRule :=
  (FilterRule.permit (numbered "PERMIT_INC_" 0)).withAppPath "c:\\browser.exe"

def browserBlock : FilterRule :=
  (FilterRule.block (numbered "BLOCK_PHYS_INC_" 0)).withAppPath "c:\\browser.exe"

def includedBrowser : FilterState where
  lock := { session := { engine :=
    { (WfpEngine.empty.insert browserPermit).insert browserBlock with
      faults := [none, none, none, some "no memory"] } } }
  wfpFilterIds := [1, 2]

def includeMail : SplitWfpCall where
  policy :=
    { routingMode := .splitInclude
      tunnelIfIndex := some 42
      tunnelApps := [⟨"c:\\browser.exe", 10, .include⟩, ⟨"c:\\mail.exe", 20, .include⟩] }
  lockEnabled := false
  saveAppRules := .ok ()
  saveSnapshot := .ok ()

theorem includedBrowser_get (id : Nat) : includedBrowser.engine.filters.get id =
    if id = 2 then some browserBlock else if id = 1 then some browserPermit else none := by
  have hinner : (WfpEngine.empty.insert browserPermit).filters.get id =
      if id = 1 then some browserPermit else none := get_insert ∅ 1 id browserPermit
  rw [← hinner]
  exact get_insert (WfpEngine.empty.insert browserPermit).filters 2 id browserBlock

theorem includedBrowser_listed : includedBrowser.Listed := by
  constructor
  · intro id rule hget
    rw [includedBrowser_get] at hget
    have hsplit : browserPermit.isSplit = true ∧ browserBlock.isSplit = true :=
      ⟨isSplit_splitName _ rfl, isSplit_splitName _ rfl⟩
    have hids : id ∈ includedBrowser.wfpFilterIds ↔ id = 1 ∨ id = 2 := by
      simp [includedBrowser]
    rw [hids]
    split at hget
    · rename_i hid
      cases hget
      exact iff_of_true hsplit.2 (Or.inr hid)
    · split at hget
      · rename_i hid
        cases hget
        exact iff_of_true hsplit.1 (Or.inl hid)
      · cases hget
  · decide

theorem filtersKept_iff_mail : FiltersKept readCidr includeMail includedBrowser ↔
    Harmless readCidr includeMail includedBrowser :=
  filtersKept_iff readsLockCidrs_readCidr includedBrowser_listed

/-- One filter of the new set stays behind unlisted, and the previous set is gone. -/
theorem includeMail_not_kept : ¬FiltersKept readCidr includeMail includedBrowser := by
  intro hkept
  have hget : (exec (applySplitWfp readCidr includeMail) includedBrowser).2.engine.filters.get 3 =
      some browserPermit := by decide
  have hlisted := hkept.listed 3 browserPermit hget (isSplit_splitName _ rfl)
  have hids : (exec (applySplitWfp readCidr includeMail) includedBrowser).2.wfpFilterIds =
      [1, 2] := by decide
  rw [hids] at hlisted
  exact absurd hlisted (by decide)

end RouteGuard
