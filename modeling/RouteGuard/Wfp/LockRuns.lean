import RouteGuard.Wfp.NetworkLock

/-! # Runs of the network lock

Sequences of `enable` and `disable` in which any operation of the engine and any
save may fail: when the remembered identifiers are the filters present, and when
the filters present are those of the policy asked for. -/
set_option autoImplicit false
namespace RouteGuard

open HashTable Fallible GuardedRun

/-! ## One call -/

/-- A call, the failures of the engine during it and the failure of its save. -/
inductive LockCall where
  | enable (policy : NetworkLockPolicy) (faults : List (Option String))
      (saveFault : Option RouteGuardError)
  | disable (faults : List (Option String)) (saveFault : Option RouteGuardError)

namespace LockContext

def engine (ctx : LockContext) : WfpEngine := ctx.session.engine

def facing (faults : List (Option String)) (saveFault : Option RouteGuardError)
    (ctx : LockContext) :
    LockContext :=
  { ctx with
    session := ctx.session.withEngine { ctx.engine with faults := faults }
    saveFault := saveFault }

end LockContext

section Calls
variable (fromCidr : String → Except String IpNet)

def LockCall.exec (call : LockCall) (ctx : LockContext) :
    Except RouteGuardError Unit × LockContext :=
  match call with
  | .enable policy faults saveFault =>
      Fallible.exec (NetworkLock.enable fromCidr policy) (ctx.facing faults saveFault)
  | .disable faults saveFault => Fallible.exec NetworkLock.disable (ctx.facing faults saveFault)

def lockStep (ctx : LockContext) (call : LockCall) : LockContext := (call.exec fromCidr ctx).2

end Calls

/-- The identifier is that of a lock filter present. -/
def LockAt (engine : WfpEngine) (id : Nat) : Prop :=
  ∃ rule, engine.filters.get id = some rule ∧ rule.isLock = true

/-- The lock filters present are those of the policy, and no others. -/
def LockedBy (policy : NetworkLockPolicy) (engine : WfpEngine) : Prop :=
  ∃ ids : List Nat, ids.Nodup ∧ (∀ id, LockAt engine id ↔ id ∈ ids) ∧
    ids.map engine.filters.get = (lockRules policy).map some

theorem lockAt_congr {before after : WfpEngine} (h : after.filters.get = before.filters.get)
    (id : Nat) : LockAt after id ↔ LockAt before id := by
  rw [LockAt, LockAt, h]

theorem lockedBy_congr {policy : NetworkLockPolicy} {before after : WfpEngine}
    (h : after.filters.get = before.filters.get) :
    LockedBy policy after ↔ LockedBy policy before := by
  simp only [LockedBy, lockAt_congr h, h]

theorem exec_saveState (ctx : LockContext) :
    ∃ result file, exec saveState ctx = (result, { ctx with file := file }) ∧
      (result = .ok () ↔ ctx.saveFault = none) := by
  obtain ⟨session, lock, file, saveFault⟩ := ctx
  cases saveFault with
  | none => exact ⟨.ok (), some lock, by simp [saveState, exec_bind], by simp⟩
  | some e => exact ⟨.error e, file, by simp [saveState, exec_bind], by simp⟩

section AddedFilters
variable {rules : List FilterRule} {before after : WfpEngine}

theorem lockAt_added (h : FiltersAdded rules before after)
    (hlock : ∀ rule ∈ rules, rule.isLock = true) (hnone : ∀ id, ¬ LockAt before id) (id : Nat) :
    LockAt after id ↔ id ∈ List.range' before.nextId rules.length := by
  have hat := filterAt_added h hlock id
  exact hat.trans (or_iff_right (hnone id))

theorem map_get_added (h : FiltersAdded rules before after) :
    (List.range' before.nextId rules.length).map after.filters.get = rules.map some := by
  apply List.ext_getElem?
  intro i
  rw [List.getElem?_map, List.getElem?_map]
  by_cases hi : i < rules.length
  · rw [List.getElem?_range' hi, Option.map_some, h.get, if_pos (by omega)]
    have hsub : before.nextId + 1 * i - before.nextId = i := by omega
    rw [hsub, List.getElem?_eq_getElem hi]
    rfl
  · rw [List.getElem?_eq_none (by simpa using hi), List.getElem?_eq_none (Nat.not_lt.mp hi)]
    rfl

end AddedFilters

/-- What enabling does to a lock that is off: the complete set, or a front of it. -/
theorem exec_enable {fromCidr : String → Except String IpNet} (hreads : ReadsLockCidrs fromCidr)
    (policy : NetworkLockPolicy) {ctx : LockContext} (hoff : ctx.lock.enabled = false) :
    ∃ result after, exec (NetworkLock.enable fromCidr policy) ctx = (result, after) ∧
      (AllClear ctx.engine.faults (lockRules policy).length ∧
          after.lock = ⟨true, List.range' ctx.engine.nextId (lockRules policy).length⟩ ∧
          FiltersAdded (lockRules policy) ctx.engine after.engine ∧
          (result = .ok () ↔ ctx.saveFault = none) ∨
        ∃ k < (lockRules policy).length, FailsAfter ctx.engine.faults k ∧ after.lock = ctx.lock ∧
          FiltersAdded ((lockRules policy).take k) ctx.engine after.engine ∧
          ∃ e, result = .error e) := by
  have hrules := lockSteps_rules hreads policy
  have hlen : (lockSteps fromCidr policy).length = (lockRules policy).length :=
    (length_rules hrules).symm
  obtain ⟨result, engine, hexec, hadded, hresult⟩ :=
    exec_addAll (lockSteps fromCidr policy) ctx.session
  have hinstall : exec (onSession (installNetworkLock fromCidr policy)) ctx =
      (result, { ctx with session := ctx.session.withEngine engine }) := by
    rw [onSession, exec_zoom, installNetworkLock_eq, hexec]
  have hunfold : exec (NetworkLock.enable fromCidr policy) ctx =
      exec (onSession (installNetworkLock fromCidr policy) >>= fun ids => do
        modify fun ctx => { ctx with lock := ⟨true, ids⟩ }
        saveState) ctx := by
    simp only [NetworkLock.enable, exec_bind, exec_get, hoff, Bool.false_eq_true, if_false]
  rcases clear_or_fails ctx.engine.faults (lockRules policy).length with hclear | ⟨k, hk, hfails⟩
  · have hadd : addedRules (lockSteps fromCidr policy) ctx.session.engine.faults =
        lockRules policy := addedRules_of_clear hrules hclear
    rw [hadd] at hadded hresult
    rcases hresult with ⟨_, rfl⟩ | ⟨hless, _⟩
    · obtain ⟨saved, file, hsave, hok⟩ := exec_saveState
        { ctx with
          session := ctx.session.withEngine engine
          lock := ⟨true, List.range' ctx.engine.nextId (lockRules policy).length⟩ }
      rw [hlen] at hinstall
      refine ⟨saved,
        { ctx with
          session := ctx.session.withEngine engine
          lock := ⟨true, List.range' ctx.engine.nextId (lockRules policy).length⟩
          file := file }, ?_, Or.inl ⟨hclear, rfl, hadded, hok⟩⟩
      rw [hunfold, exec_bind_ok hinstall, exec_bind, exec_modify]
      exact hsave
    · omega
  · have hshort : ((lockRules policy).take k).length = k := by
      rw [List.length_take]
      omega
    have hadd : addedRules (lockSteps fromCidr policy) ctx.session.engine.faults =
        (lockRules policy).take k := addedRules_of_fails hrules hfails
    rw [hadd] at hadded hresult
    rcases hresult with ⟨hall, _⟩ | ⟨_, e, rfl⟩
    · omega
    · refine ⟨.error e, { ctx with session := ctx.session.withEngine engine }, ?_,
        Or.inr ⟨k, hk, hfails, rfl, hadded, e, rfl⟩⟩
      rw [hunfold, exec_bind_error hinstall]

theorem exec_enable_on (fromCidr : String → Except String IpNet) (policy : NetworkLockPolicy)
    {ctx : LockContext} (hon : ctx.lock.enabled = true) :
    exec (NetworkLock.enable fromCidr policy) ctx = (.ok (), ctx) := by
  simp only [NetworkLock.enable, exec_bind, exec_get, hon, if_true, exec_pure]

theorem exec_disable_idle (ctx : LockContext) (hoff : ctx.lock.enabled = false)
    (hids : ctx.lock.activeFilterIds = []) : exec NetworkLock.disable ctx = (.ok (), ctx) := by
  simp only [NetworkLock.disable, exec_bind, exec_get, hoff, hids, List.isEmpty_nil, Bool.not_false,
    Bool.and_self, if_true, exec_pure]

/-- What disabling does to a lock whose filters are present: none is left, or those after the first
failure stay. -/
theorem exec_disable (ctx : LockContext) (hon : ctx.lock.enabled = true)
    (hnodup : ctx.lock.activeFilterIds.Nodup)
    (hpresent : ∀ id ∈ ctx.lock.activeFilterIds, ctx.engine.filters.get id ≠ none) :
    ∃ result after, exec NetworkLock.disable ctx = (result, after) ∧
      (AllClear ctx.engine.faults ctx.lock.activeFilterIds.length ∧ after.lock = ⟨false, []⟩ ∧
          FiltersRemoved ctx.lock.activeFilterIds ctx.engine after.engine ∧
          (result = .ok () ↔ ctx.saveFault = none) ∨
        ∃ k < ctx.lock.activeFilterIds.length, FailsAfter ctx.engine.faults k ∧
          after.lock = ctx.lock ∧
          FiltersRemoved (ctx.lock.activeFilterIds.take k) ctx.engine after.engine) := by
  obtain ⟨result, engine, hexec, hcase⟩ := exec_deleteAll
    (fun id e => .networkLock ("delete filter " ++ ToString.toString id ++ ": " ++ e))
    ctx.lock.activeFilterIds ctx.session hnodup hpresent
  have hunfold : exec NetworkLock.disable ctx =
      exec (onSession (removeFilters ctx.lock.activeFilterIds) >>= fun _ => do
        modify fun ctx => { ctx with lock := ⟨false, []⟩ }
        saveState) ctx := by
    simp only [NetworkLock.disable, exec_bind, exec_get, hon, Bool.not_true, Bool.false_and,
      Bool.false_eq_true, if_false]
  rcases hcase with ⟨hclear, rfl, hremoved⟩ | ⟨k, hk, hfails, ⟨e, rfl⟩, hremoved⟩
  · let session : WfpSessionInner :=
      ⟨engine, ctx.session.activeFilters.filter fun id => id ∉ ctx.lock.activeFilterIds⟩
    have hremove : exec (onSession (removeFilters ctx.lock.activeFilterIds)) ctx =
        (.ok (), { ctx with session := session }) := by
      rw [onSession, exec_zoom, removeFilters, exec_bind_ok hexec]
      rfl
    obtain ⟨saved, file, hsave, hok⟩ :=
      exec_saveState { ctx with session := session, lock := ⟨false, []⟩ }
    refine ⟨saved, { ctx with session := session, lock := ⟨false, []⟩, file := file }, ?_,
      Or.inl ⟨hclear, rfl, hremoved, hok⟩⟩
    rw [hunfold, exec_bind_ok hremove, exec_bind, exec_modify]
    exact hsave
  · have hremove : exec (onSession (removeFilters ctx.lock.activeFilterIds)) ctx =
        (.error e, { ctx with session := ctx.session.withEngine engine }) := by
      rw [onSession, exec_zoom, removeFilters, exec_bind_error hexec]
    refine ⟨.error e, { ctx with session := ctx.session.withEngine engine }, ?_,
      Or.inr ⟨k, hk, hfails, rfl, hremoved⟩⟩
    rw [hunfold, exec_bind_error hremove]

/-! ## The state and the filters present -/

/-- The remembered identifiers are the lock filters present, the lock is on when the filters of some
policy are complete, and disabling it without failures leaves none. -/
structure LockInStep (ctx : LockContext) : Prop where
  listed : ∀ id, id ∈ ctx.lock.activeFilterIds ↔ LockAt ctx.engine id
  enabled_iff : ctx.lock.enabled = true ↔ ∃ policy, LockedBy policy ctx.engine
  disables : ∃ after, exec NetworkLock.disable (ctx.facing [] none) = (.ok (), after) ∧
    ∀ id, ¬ LockAt after.engine id

/-- What holds of the remembered identifiers after any calls. -/
structure LockTidy (ctx : LockContext) : Prop where
  nodup : ctx.lock.activeFilterIds.Nodup
  idle : ctx.lock.enabled = false → ctx.lock.activeFilterIds = []

theorem lockAt_removed {ids : List Nat} {before after : WfpEngine}
    (h : FiltersRemoved ids before after) (id : Nat) :
    LockAt after id ↔ LockAt before id ∧ id ∉ ids :=
  filterAt_removed h id

theorem not_lockedBy {policy : NetworkLockPolicy} {engine : WfpEngine}
    (h : ∀ id, ¬ LockAt engine id) : ¬ LockedBy policy engine := by
  intro hlocked
  obtain ⟨ids, _, hids, hmap⟩ := hlocked
  have hempty : ids = [] :=
    List.eq_nil_iff_forall_not_mem.mpr fun id hmem => h id ((hids id).mpr hmem)
  have hlen := congrArg List.length hmap
  rw [hempty, List.length_map, List.length_map, List.length_nil] at hlen
  have hpos := lockRules_length_pos policy
  omega

theorem lockedBy_added {policy : NetworkLockPolicy} {before after : WfpEngine}
    (h : FiltersAdded (lockRules policy) before after) (hnone : ∀ id, ¬ LockAt before id) :
    LockedBy policy after :=
  ⟨_, List.nodup_range', lockAt_added h isLock_lockRules hnone, map_get_added h⟩

theorem disables_of_listed {ctx : LockContext} (htidy : LockTidy ctx)
    (hlisted : ∀ id, id ∈ ctx.lock.activeFilterIds ↔ LockAt ctx.engine id) :
    ∃ after, exec NetworkLock.disable (ctx.facing [] none) = (.ok (), after) ∧
      ∀ id, ¬ LockAt after.engine id := by
  cases hon : ctx.lock.enabled with
  | false =>
      have hids := htidy.idle hon
      refine ⟨ctx.facing [] none, exec_disable_idle _ hon hids, fun id hat => ?_⟩
      have hmem := (hlisted id).mpr hat
      rw [hids] at hmem
      cases hmem
  | true =>
      obtain ⟨result, after, hexec, hcase⟩ := exec_disable (ctx.facing [] none) hon htidy.nodup
        fun id hmem hnone => by
          obtain ⟨rule, hget, _⟩ := (hlisted id).mp hmem
          have hget' : (ctx.facing [] none).engine.filters.get id = some rule := hget
          rw [hget'] at hnone
          cases hnone
      rcases hcase with ⟨_, _, hremoved, hok⟩ | ⟨k, _, ⟨_, e, he⟩, _⟩
      · refine ⟨after, ?_, fun id hat => ?_⟩
        · rw [hexec, hok.mpr rfl]
        · obtain ⟨hbefore, hnot⟩ := (lockAt_removed hremoved id).mp hat
          exact hnot ((hlisted id).mpr hbefore)
      · cases he

theorem inStep_of_listed {ctx : LockContext} (htidy : LockTidy ctx)
    (hlisted : ∀ id, id ∈ ctx.lock.activeFilterIds ↔ LockAt ctx.engine id)
    (henabled : ctx.lock.enabled = true ↔ ∃ policy, LockedBy policy ctx.engine) : LockInStep ctx :=
  ⟨hlisted, henabled, disables_of_listed htidy hlisted⟩

theorem inStep_of_none {ctx : LockContext} (hoff : ctx.lock.enabled = false)
    (hids : ctx.lock.activeFilterIds = []) (hnone : ∀ id, ¬ LockAt ctx.engine id) :
    LockInStep ctx := by
  apply inStep_of_listed
  · exact ⟨by rw [hids]; exact List.nodup_nil, fun _ => hids⟩
  · intro id
    rw [hids]
    exact iff_of_false (List.not_mem_nil) (hnone id)
  · rw [hoff]
    apply iff_of_false Bool.false_ne_true
    intro hsome
    obtain ⟨policy, hlocked⟩ := hsome
    exact not_lockedBy hnone hlocked

theorem LockInStep.none_of_off {ctx : LockContext} (h : LockInStep ctx) (htidy : LockTidy ctx)
    (hoff : ctx.lock.enabled = false) (id : Nat) : ¬ LockAt ctx.engine id := by
  intro hat
  have hmem := (h.listed id).mpr hat
  rw [htidy.idle hoff] at hmem
  cases hmem

theorem LockInStep.present {ctx : LockContext} (h : LockInStep ctx) :
    ∀ id ∈ ctx.lock.activeFilterIds, ctx.engine.filters.get id ≠ none := by
  intro id hmem hnone
  obtain ⟨rule, hget, _⟩ := (h.listed id).mp hmem
  rw [hget] at hnone
  cases hnone

/-- All of the next operations succeed, or the first one fails. -/
def AllOrNothing (faults : List (Option String)) (count : Nat) : Prop :=
  AllClear faults count ∨ FailsAfter faults 0

theorem AllOrNothing.zero_of_fails {faults : List (Option String)} {count k : Nat}
    (h : AllOrNothing faults count) (hfails : FailsAfter faults k) (hk : k < count) : k = 0 := by
  rcases h with hclear | hzero
  · exact absurd hfails (hclear.not_failsAfter hk)
  · exact hfails.unique hzero

/-- Enabling a lock that is off adds all its filters or none, and disabling deletes all or none. -/
def LockCall.AllOrNone (ctx : LockContext) : LockCall → Prop
  | .enable policy faults _ =>
      ctx.lock.enabled = true ∨ AllOrNothing faults (lockRules policy).length
  | .disable faults _ => AllOrNothing faults ctx.lock.activeFilterIds.length

section Steps
variable {fromCidr : String → Except String IpNet} (hreads : ReadsLockCidrs fromCidr)
include hreads

theorem enable_tidy (ctx : LockContext) (h : LockTidy ctx) (policy : NetworkLockPolicy) :
    LockTidy (exec (NetworkLock.enable fromCidr policy) ctx).2 := by
  cases hon : ctx.lock.enabled with
  | true =>
      rw [exec_enable_on fromCidr policy hon]
      exact h
  | false =>
      obtain ⟨result, after, hexec, hcase⟩ := exec_enable hreads policy hon
      rw [hexec]
      rcases hcase with ⟨_, hlock, _⟩ | ⟨k, _, _, hlock, _⟩
      · constructor
        · simp only [hlock]
          exact List.nodup_range'
        · intro hoff
          rw [hlock] at hoff
          cases hoff
      · exact ⟨by rw [hlock]; exact h.nodup, by rw [hlock]; exact h.idle⟩

omit hreads in
/-- Disabling never lists a filter twice, whatever is present. -/
theorem disable_tidy (ctx : LockContext) (h : LockTidy ctx) :
    LockTidy (exec NetworkLock.disable ctx).2 := by
  have hlock : (exec NetworkLock.disable ctx).2.lock = ctx.lock ∨
      (exec NetworkLock.disable ctx).2.lock = ⟨false, []⟩ := by
    simp only [NetworkLock.disable, exec_bind, exec_get]
    split
    · exact Or.inl rfl
    · rw [exec_bind, onSession, exec_zoom]
      cases exec (removeFilters ctx.lock.activeFilterIds) ctx.session with
      | mk result session =>
          cases result with
          | error e => exact Or.inl rfl
          | ok _ =>
              obtain ⟨saved, file, hsave, _⟩ :=
                exec_saveState { ctx with session := session, lock := ⟨false, []⟩ }
              right
              simp only [exec_bind, exec_modify, hsave]
  rcases hlock with hlock | hlock
  · exact ⟨by rw [hlock]; exact h.nodup, by rw [hlock]; exact h.idle⟩
  · exact ⟨by rw [hlock]; exact List.nodup_nil, by rw [hlock]; exact fun _ => rfl⟩

theorem enable_inStep_iff {ctx : LockContext} (htidy : LockTidy ctx) (h : LockInStep ctx)
    (policy : NetworkLockPolicy) (faults : List (Option String))
    (saveFault : Option RouteGuardError) :
    LockInStep (exec (NetworkLock.enable fromCidr policy) (ctx.facing faults saveFault)).2 ↔
      ctx.lock.enabled = true ∨ AllOrNothing faults (lockRules policy).length := by
  cases hon : ctx.lock.enabled with
  | true =>
      have hon' : (ctx.facing faults saveFault).lock.enabled = true := hon
      rw [exec_enable_on fromCidr policy hon']
      exact ⟨fun _ => Or.inl rfl, fun _ => ⟨h.listed, h.enabled_iff, h.disables⟩⟩
  | false =>
      have hoff : (ctx.facing faults saveFault).lock.enabled = false := hon
      have hids : (ctx.facing faults saveFault).lock.activeFilterIds = [] := htidy.idle hon
      have hnone := h.none_of_off htidy hon
      have htidy' := enable_tidy hreads (ctx.facing faults saveFault)
        ⟨htidy.nodup, htidy.idle⟩ policy
      obtain ⟨result, after, hexec, hcase⟩ := exec_enable hreads policy hoff
      rw [hexec] at htidy' ⊢
      rcases hcase with ⟨hclear, hlock, hadded, _⟩ | ⟨k, hk, hfails, hlock, hadded, _⟩
      · refine ⟨fun _ => Or.inr (Or.inl hclear), fun _ => ?_⟩
        apply inStep_of_listed htidy'
        · intro id
          rw [lockAt_added hadded isLock_lockRules hnone id, hlock]
        · rw [hlock]
          exact iff_of_true rfl ⟨policy, lockedBy_added hadded hnone⟩
      · have hat := lockAt_added hadded
          (fun rule hmem => isLock_lockRules rule (List.mem_of_mem_take hmem)) hnone
        have hlen : ((lockRules policy).take k).length = k := by
          rw [List.length_take]
          omega
        rw [hlen] at hat
        constructor
        · -- a filter that was added is in no list
          intro hinstep
          cases k with
          | zero => exact Or.inr (Or.inr hfails)
          | succ k =>
              have hmem := (hinstep.listed _).mpr
                ((hat _).mpr (List.mem_range'_1.mpr
                  ⟨Nat.le_refl _, Nat.lt_add_of_pos_right (Nat.succ_pos k)⟩))
              rw [hlock, hids] at hmem
              cases hmem
        · intro hguard
          have hzero : k = 0 :=
            (hguard.resolve_left Bool.false_ne_true).zero_of_fails hfails hk
          apply inStep_of_none
          · rw [hlock, hoff]
          · rw [hlock, hids]
          · intro id hlockAt
            rw [hat id, hzero] at hlockAt
            cases hlockAt

omit hreads in
theorem disable_inStep_iff {ctx : LockContext} (htidy : LockTidy ctx) (h : LockInStep ctx)
    (faults : List (Option String)) (saveFault : Option RouteGuardError) :
    LockInStep (exec NetworkLock.disable (ctx.facing faults saveFault)).2 ↔
      AllOrNothing faults ctx.lock.activeFilterIds.length := by
  cases hon : ctx.lock.enabled with
  | false =>
      have hids := htidy.idle hon
      rw [exec_disable_idle (ctx.facing faults saveFault) hon hids, hids]
      exact iff_of_true ⟨h.listed, h.enabled_iff, h.disables⟩ (Or.inl (allClear_zero faults))
  | true =>
      have htidy' := disable_tidy (ctx.facing faults saveFault) ⟨htidy.nodup, htidy.idle⟩
      obtain ⟨result, after, hexec, hcase⟩ :=
        exec_disable (ctx.facing faults saveFault) hon htidy.nodup h.present
      rw [hexec] at htidy' ⊢
      rcases hcase with ⟨hclear, hlock, hremoved, _⟩ | ⟨k, hk, hfails, hlock, hremoved⟩
      · refine iff_of_true ?_ (Or.inl hclear)
        apply inStep_of_none
        · rw [hlock]
        · rw [hlock]
        · intro id hat
          obtain ⟨hbefore, hnot⟩ := (lockAt_removed hremoved id).mp hat
          exact hnot ((h.listed id).mpr hbefore)
      · constructor
        · -- the first identifier is still listed when a later deletion fails
          intro hinstep
          cases k with
          | zero => exact Or.inr hfails
          | succ k =>
              have hlt : 0 < ctx.lock.activeFilterIds.length :=
                Nat.lt_of_lt_of_le (Nat.succ_pos k) (Nat.le_of_lt hk)
              have hfirst :
                  ctx.lock.activeFilterIds[0] ∈ ctx.lock.activeFilterIds.take (k + 1) := by
                apply List.mem_of_getElem? (i := 0)
                rw [List.getElem?_take, if_pos (Nat.succ_pos k), List.getElem?_eq_getElem hlt]
              have hlisted : ctx.lock.activeFilterIds[0] ∈ after.lock.activeFilterIds := by
                rw [hlock]
                exact List.getElem_mem hlt
              have hat := (hinstep.listed _).mp hlisted
              exact absurd hfirst ((lockAt_removed hremoved _).mp hat).2
        · intro hguard
          have hzero : k = 0 := hguard.zero_of_fails hfails hk
          have hget : after.engine.filters.get = ctx.engine.filters.get := by
            funext id
            rw [hremoved.get id, hzero, List.take_zero, if_neg List.not_mem_nil]
            rfl
          apply inStep_of_listed htidy'
          · intro id
            rw [hlock, lockAt_congr hget]
            exact h.listed id
          · simp only [hlock, lockedBy_congr hget]
            exact h.enabled_iff

theorem lockStep_tidy {ctx : LockContext} (call : LockCall) (h : LockTidy ctx) :
    LockTidy (lockStep fromCidr ctx call) := by
  cases call with
  | enable policy faults saveFault =>
      exact enable_tidy hreads (ctx.facing faults saveFault) ⟨h.nodup, h.idle⟩ policy
  | disable faults saveFault => exact disable_tidy (ctx.facing faults saveFault) ⟨h.nodup, h.idle⟩

theorem lockStep_inStep_iff {ctx : LockContext} (call : LockCall) (htidy : LockTidy ctx)
    (h : LockInStep ctx) : LockInStep (lockStep fromCidr ctx call) ↔ call.AllOrNone ctx := by
  cases call with
  | enable policy faults saveFault => exact enable_inStep_iff hreads htidy h policy faults saveFault
  | disable faults saveFault => exact disable_inStep_iff htidy h faults saveFault

/-- In a run from a lock that is off, with no filter of it present, the state remembers exactly the
filters present after every call where each call adds or deletes all its filters or none. -/
theorem lockRun_inStep_iff {start : LockContext} (hoff : start.lock = {})
    (hnone : ∀ id, ¬ LockAt start.engine id) (calls : List LockCall) :
    (∀ first, first <+: calls → LockInStep (run (lockStep fromCidr) start first)) ↔
      Guarded (lockStep fromCidr) (fun ctx call => call.AllOrNone ctx) start calls := by
  have hids : start.lock.activeFilterIds = [] := by rw [hoff]
  have htidy : LockTidy start := ⟨by rw [hids]; exact List.nodup_nil, fun _ => hids⟩
  have hstart : LockInStep start := inStep_of_none (by rw [hoff]) hids hnone
  exact holds_throughout_iff (lockStep fromCidr) (fun ctx call => call.AllOrNone ctx)
    (fun ctx call h => lockStep_tidy hreads call h)
    (fun ctx call htidy h => lockStep_inStep_iff hreads call htidy h) calls start htidy hstart

end Steps

def LockContext.idle : LockContext where
  session := { engine := .empty }

theorem not_lockAt_idle (id : Nat) : ¬ LockAt LockContext.idle.engine id := by
  intro hat
  obtain ⟨rule, hget, _⟩ := hat
  cases hget

theorem lockRun_inStep_iff_on_off :
    (∀ first, first <+: [LockCall.enable {} [] none, .disable [] none] →
      LockInStep (run (lockStep readCidr) .idle first)) ↔
      Guarded (lockStep readCidr) (fun ctx call => call.AllOrNone ctx) .idle
        [.enable {} [] none, .disable [] none] :=
  lockRun_inStep_iff readsLockCidrs_readCidr rfl not_lockAt_idle _

/-- The second filter cannot be added: the blocking filter stays and is in no list. -/
theorem failed_enable_not_inStep :
    ¬ LockInStep (lockStep readCidr .idle (.enable {} [none, some "access denied"] none)) := by
  have hstart : LockInStep .idle := inStep_of_none rfl rfl not_lockAt_idle
  have htidy : LockTidy .idle := ⟨List.nodup_nil, fun _ => rfl⟩
  rw [lockStep_inStep_iff readsLockCidrs_readCidr _ htidy hstart]
  intro hguard
  rcases hguard with hon | hclear | ⟨_, e, he⟩
  · cases hon
  · revert hclear
    decide
  · cases he

/-! ## The policy asked for -/

/-- A lock with the policy of the last call, when it was to enable, and its result. -/
structure LockHistory where
  ctx : LockContext
  last : Option (NetworkLockPolicy × Except RouteGuardError Unit) := none

def LockCall.policy : LockCall → Option NetworkLockPolicy
  | .enable policy _ _ => some policy
  | .disable _ _ => none

def lockRecord (fromCidr : String → Except String IpNet) (history : LockHistory) (call : LockCall) :
    LockHistory where
  ctx := (call.exec fromCidr history.ctx).2
  last := call.policy.map fun policy => (policy, (call.exec fromCidr history.ctx).1)

/-- Where enabling answered `Ok`, the lock filters present are those of its policy. -/
def LockHistory.Applied (history : LockHistory) : Prop :=
  ∀ policy, history.last = some (policy, .ok ()) → LockedBy policy history.ctx.engine

/-- The lock is on with the filters of the very policy, or it is off with no lock filter left over,
unless the call meets a failure. -/
def LockCall.Fits (ctx : LockContext) : LockCall → Prop
  | .enable policy faults saveFault =>
      if ctx.lock.enabled then LockedBy policy ctx.engine
      else (∀ id, ¬ LockAt ctx.engine id) ∨ ¬ AllClear faults (lockRules policy).length ∨
        saveFault ≠ none
  | .disable _ _ => True

theorem lockedBy_added_iff {policy : NetworkLockPolicy} {before after : WfpEngine}
    (h : FiltersAdded (lockRules policy) before after) :
    LockedBy policy after ↔ ∀ id, ¬ LockAt before id := by
  refine ⟨fun hlocked id hat => ?_, fun hnone => lockedBy_added h hnone⟩
  obtain ⟨ids, hnodup, hids, hmap⟩ := hlocked
  obtain ⟨rule, hget, hislock⟩ := hat
  have hold : id < before.nextId := FilterAt.lt_nextId ⟨rule, hget, hislock⟩
  have hstill : after.filters.get id = some rule := by
    rw [h.get id, if_neg (Nat.not_le.mpr hold), hget]
  have hnew : ∀ id' ∈ List.range' before.nextId (lockRules policy).length, LockAt after id' := by
    intro id' hmem
    obtain ⟨hle, hlt⟩ := List.mem_range'_1.mp hmem
    have hlt' : id' - before.nextId < (lockRules policy).length := by omega
    refine ⟨(lockRules policy)[id' - before.nextId], ?_, isLock_lockRules _ (List.getElem_mem hlt')⟩
    rw [h.get id', if_pos hle]
    exact List.getElem?_eq_getElem hlt'
  have hsub : id :: List.range' before.nextId (lockRules policy).length ⊆ ids := by
    intro id' hmem
    rcases List.mem_cons.mp hmem with rfl | hmem
    · exact (hids id').mp ⟨rule, hstill, hislock⟩
    · exact (hids id').mp (hnew id' hmem)
  have hfresh : (id :: List.range' before.nextId (lockRules policy).length).Nodup := by
    refine List.nodup_cons.mpr ⟨fun hmem => ?_, List.nodup_range'⟩
    have hle := (List.mem_range'_1.mp hmem).1
    omega
  have hle := (List.subperm_of_subset hfresh hsub).length_le
  have hlen := congrArg List.length hmap
  simp only [List.length_map] at hlen
  rw [List.length_cons, List.length_range', hlen] at hle
  omega

section Policies
variable {fromCidr : String → Except String IpNet} (hreads : ReadsLockCidrs fromCidr)
include hreads

theorem lockRecord_applied_iff (history : LockHistory) (call : LockCall) :
    (lockRecord fromCidr history call).Applied ↔ call.Fits history.ctx := by
  cases call with
  | disable faults saveFault =>
      refine iff_of_true (fun policy hlast => ?_) trivial
      cases hlast
  | enable policy faults saveFault =>
      have hlast : ∀ policy' result,
          (lockRecord fromCidr history (.enable policy faults saveFault)).last =
            some (policy', result) ↔ policy = policy' ∧ (exec (NetworkLock.enable fromCidr policy)
              (history.ctx.facing faults saveFault)).1 = result := by
        intro policy' result
        simp [lockRecord, LockCall.policy, LockCall.exec]
      have happlied : (lockRecord fromCidr history (.enable policy faults saveFault)).Applied ↔
          ((exec (NetworkLock.enable fromCidr policy) (history.ctx.facing faults saveFault)).1 =
            .ok () → LockedBy policy (exec (NetworkLock.enable fromCidr policy)
              (history.ctx.facing faults saveFault)).2.engine) := by
        constructor
        · intro happlied hresult
          exact happlied policy ((hlast _ _).mpr ⟨rfl, hresult⟩)
        · intro himp policy' hlast'
          obtain ⟨rfl, hresult⟩ := (hlast _ _).mp hlast'
          exact himp hresult
      rw [happlied]
      cases hon : history.ctx.lock.enabled with
      | true =>
          have hon' : (history.ctx.facing faults saveFault).lock.enabled = true := hon
          rw [exec_enable_on fromCidr policy hon']
          simp only [LockCall.Fits, hon, if_true, forall_const]
          rfl
      | false =>
          have hoff : (history.ctx.facing faults saveFault).lock.enabled = false := hon
          obtain ⟨result, after, hexec, hcase⟩ := exec_enable hreads policy hoff
          simp only [hexec, LockCall.Fits, hon, Bool.false_eq_true, if_false]
          rcases hcase with ⟨hclear, _, hadded, hok⟩ | ⟨k, hk, hfails, _, _, e, rfl⟩
          · have hclear' : AllClear faults (lockRules policy).length := hclear
            have hsave : (history.ctx.facing faults saveFault).saveFault = saveFault := rfl
            have hat : ∀ id, LockAt (history.ctx.facing faults saveFault).engine id ↔
                LockAt history.ctx.engine id := fun _ => Iff.rfl
            simp only [hok, hsave, lockedBy_added_iff hadded, hat, hclear', not_true_eq_false,
              false_or]
            by_cases hfault : saveFault = none
            · simp [hfault]
            · simp [hfault]
          · have hnot : ¬ AllClear faults (lockRules policy).length :=
              fun hclear => hclear.not_failsAfter hk hfails
            refine iff_of_true (fun hresult => ?_) (Or.inr (Or.inl hnot))
            cases hresult

/-- In a run of the lock, enabling installs the filters of its policy every time where it finds the
lock off with none of its filters left over, or on with those of the same policy. -/
theorem lockRun_applied_iff (start : LockContext) (calls : List LockCall) :
    (∀ first, first <+: calls → (run (lockRecord fromCidr) ⟨start, none⟩ first).Applied) ↔
      Guarded (lockRecord fromCidr) (fun history call => call.Fits history.ctx) ⟨start, none⟩
        calls := by
  have hstart : LockHistory.Applied ⟨start, none⟩ := by
    intro policy hlast
    cases hlast
  exact holds_throughout_iff (P := LockHistory.Applied) (Q := fun _ => True) (lockRecord fromCidr)
    (fun history call => call.Fits history.ctx) (fun _ _ _ => trivial)
    (fun history call _ _ => lockRecord_applied_iff hreads history call) calls ⟨start, none⟩ trivial
    hstart

theorem enable_of_clear (policy : NetworkLockPolicy) (ctx : LockContext)
    (hoff : ctx.lock.enabled = false)
    (hclear : AllClear ctx.engine.faults (lockRules policy).length)
    (hsave : ctx.saveFault = none) :
    ∃ after, exec (NetworkLock.enable fromCidr policy) ctx = (.ok (), after) ∧
      after.lock.enabled = true ∧ FiltersAdded (lockRules policy) ctx.engine after.engine := by
  obtain ⟨result, after, hexec, hcase⟩ := exec_enable hreads policy hoff
  rcases hcase with ⟨_, hlock, hadded, hok⟩ | ⟨k, hk, hfails, _⟩
  · refine ⟨after, ?_, by rw [hlock], hadded⟩
    rw [hexec, hok.mpr hsave]
  · exact absurd hfails (hclear.not_failsAfter hk)

end Policies

theorem lockedBy_length {policy policy' : NetworkLockPolicy} {engine : WfpEngine}
    (h : LockedBy policy engine) (h' : LockedBy policy' engine) :
    (lockRules policy).length = (lockRules policy').length := by
  obtain ⟨ids, hnodup, hids, hmap⟩ := h
  obtain ⟨ids', hnodup', hids', hmap'⟩ := h'
  have hperm : ids.Perm ids' := (List.perm_ext_iff_of_nodup hnodup hnodup').mpr fun id =>
    (hids id).symm.trans (hids' id)
  have hlen := congrArg List.length hmap
  have hlen' := congrArg List.length hmap'
  rw [List.length_map, List.length_map] at hlen hlen'
  rw [← hlen, ← hlen', hperm.length_eq]

theorem lockRun_applied_iff_on_off :
    (∀ first, first <+: [LockCall.enable {} [] none, .disable [] none] →
      (run (lockRecord readCidr) ⟨.idle, none⟩ first).Applied) ↔
      Guarded (lockRecord readCidr) (fun history call => call.Fits history.ctx) ⟨.idle, none⟩
        [.enable {} [] none, .disable [] none] :=
  lockRun_applied_iff readsLockCidrs_readCidr _ _

/-- Enabled again with an endpoint, the lock keeps the filters it had. -/
theorem second_enable_not_applied :
    ¬ (run (lockRecord readCidr) ⟨.idle, none⟩
      [.enable {} [] none,
        .enable { endpoint := some ⟨ipv4 203 0 113 9, 51820⟩ } [] none]).Applied := by
  obtain ⟨after, hexec, hon, hadded⟩ := enable_of_clear readsLockCidrs_readCidr {}
    (LockContext.idle.facing [] none) rfl (allClear_nil _) rfl
  have hctx : (lockRecord readCidr ⟨.idle, none⟩ (.enable {} [] none)).ctx = after := by
    rw [lockRecord, LockCall.exec, hexec]
  rw [run_cons, run_cons, run_nil, lockRecord_applied_iff readsLockCidrs_readCidr, hctx,
    LockCall.Fits, if_pos hon]
  intro hlocked
  have hfirst : LockedBy {} after.engine := lockedBy_added hadded not_lockAt_idle
  exact absurd (lockedBy_length hfirst hlocked) (by decide)

end RouteGuard
