import RouteGuard.Wfp.LockRuns

/-! # The network lock over a restart

The start of the service: `WfpSession::open` reads `network_lock.json`, then
`cleanup_stale` of `recovery.rs` opens sessions of its own. -/
set_option autoImplicit false
namespace RouteGuard

open HashTable Fallible

/-! ## Start -/

structure DnsRedirectState where
  wfpFilterIds : List Nat := []
  kernelActive : Bool := false
  proxyPort : UInt16 := 0
  appliedAt : Option String := none

/-- What an earlier run left, and what the platform answers: the engine, the two files if they can
be read, whether each session of the cleanup opens, and whether the files can be written. -/
structure ServiceStart where
  engine : WfpEngine
  lockFile : Option NetworkLockState
  dnsFile : Option DnsRedirectState
  firstOpens : Bool := true
  secondOpens : Bool := true
  dnsSaves : Bool := true
  saveFault : Option RouteGuardError := none

structure RecoveryContext where
  wfp : LockContext
  dnsFile : Option DnsRedirectState

abbrev RecoveryProg (A : Type) := Prog RecoveryContext RouteGuardError A

/-- `WfpSession::open`, with `load_state().unwrap_or_default()`. -/
def WfpSession.open (start : ServiceStart) : RecoveryContext where
  wfp :=
    { session := { engine := start.engine }
      lock := start.lockFile.getD {}
      file := start.lockFile
      saveFault := start.saveFault }
  dnsFile := start.dnsFile

/-- A program of a session opened for it, beside the long-lived one. -/
def onFreshSession {A : Type} (m : SessionProg A) : RecoveryProg A :=
  zoom (fun ctx => { engine := ctx.wfp.session.engine })
    (fun session ctx =>
      { ctx with wfp := { ctx.wfp with session := ctx.wfp.session.withEngine session.engine } }) m

/-- The first session of the cleanup, which clears the filters it tracks. -/
def clearTracked (start : ServiceStart) : RecoveryProg Nat :=
  if start.firstOpens then
    onFreshSession (do
      let session ← get
      clearFilters
      pure session.activeFilters.length)
  else pure 0

/-- The second session, for the filters of `dns_redirect.json`. -/
def clearDnsRedirect (start : ServiceStart) : RecoveryProg Unit := do
  let ctx ← get
  match ctx.dnsFile with
  | some dns => do
      if start.secondOpens then
        onFreshSession (deleteIgnored dns.wfpFilterIds)
      modify fun ctx => { ctx with dnsFile := if start.dnsSaves then some {} else ctx.dnsFile }
  | none => pure ()

def saveDefaultState : RecoveryProg Unit := do
  let ctx ← get
  match ctx.wfp.saveFault with
  | some e => throw e
  | none => modify fun ctx => { ctx with wfp := { ctx.wfp with file := some {} } }

def cleanupStale (start : ServiceStart) : RecoveryProg Nat := do
  let removed ← clearTracked start
  clearDnsRedirect start
  saveDefaultState
  pure removed

/-- The start sequence; the result of the cleanup is only logged. -/
def startService (start : ServiceStart) : LockContext :=
  (exec (cleanupStale start) (WfpSession.open start)).2.wfp

/-! ## What is left -/

/-- The filters the cleanup deletes: those of `dns_redirect.json`. -/
def ServiceStart.cleaned (start : ServiceStart) : List Nat :=
  match start.dnsFile with
  | some dns => if start.secondOpens then deletable dns.wfpFilterIds start.engine.faults else []
  | none => []

theorem exec_clearTracked (start : ServiceStart) (ctx : RecoveryContext) :
    exec (clearTracked start) ctx = (.ok 0, ctx) := by
  rw [clearTracked]
  cases start.firstOpens with
  | true => rfl
  | false => rfl

theorem removed_nil (engine : WfpEngine) : FiltersRemoved [] engine engine := by
  constructor
  · rfl
  · intro id
    simp

theorem exec_clearDnsRedirect (start : ServiceStart) :
    ∃ engine dnsFile, exec (clearDnsRedirect start) (WfpSession.open start) =
        (.ok (), ⟨{ (WfpSession.open start).wfp with session := { engine := engine } }, dnsFile⟩) ∧
      FiltersRemoved start.cleaned start.engine engine := by
  have hopen : (WfpSession.open start).dnsFile = start.dnsFile := rfl
  cases hdns : start.dnsFile with
  | none =>
      refine ⟨start.engine, start.dnsFile, ?_, ?_⟩
      · simp only [clearDnsRedirect, exec_bind, exec_get, hopen, hdns, exec_pure]
        rw [← hdns]
        rfl
      · simp only [ServiceStart.cleaned, hdns]
        exact removed_nil start.engine
  | some dns =>
      cases hsecond : start.secondOpens with
      | false =>
          refine ⟨start.engine, if start.dnsSaves then some {} else start.dnsFile, ?_, ?_⟩
          · simp [clearDnsRedirect, exec_bind, hopen, hdns, hsecond]
            rfl
          · simp only [ServiceStart.cleaned, hdns, hsecond, Bool.false_eq_true, if_false]
            exact removed_nil start.engine
      | true =>
          obtain ⟨engine, hexec, hremoved, _⟩ :=
            exec_deleteIgnored dns.wfpFilterIds { engine := start.engine }
          refine ⟨engine, if start.dnsSaves then some {} else start.dnsFile, ?_, ?_⟩
          · have hfresh : exec (onFreshSession (deleteIgnored dns.wfpFilterIds))
                (WfpSession.open start) = (.ok (),
                  ⟨{ (WfpSession.open start).wfp with session := { engine := engine } },
                    start.dnsFile⟩) := by
              have hsession : exec (deleteIgnored dns.wfpFilterIds)
                  { engine := (WfpSession.open start).wfp.session.engine } = _ := hexec
              rw [onFreshSession, exec_zoom, hsession]
              rfl
            simp [clearDnsRedirect, exec_bind, hopen, hdns, hsecond, hfresh]
          · simp only [ServiceStart.cleaned, hdns, hsecond, if_true]
            exact hremoved

theorem exec_saveDefaultState (ctx : RecoveryContext) :
    ∃ result file, exec saveDefaultState ctx =
      (result, { ctx with wfp := { ctx.wfp with file := file } }) := by
  obtain ⟨⟨session, lock, file, saveFault⟩, dnsFile⟩ := ctx
  cases saveFault with
  | some e =>
      exact ⟨.error e, file, by simp only [saveDefaultState, exec_bind, exec_get, exec_throw]⟩
  | none =>
      exact ⟨.ok (), some {}, by simp only [saveDefaultState, exec_bind, exec_get, exec_modify]⟩

/-- The long-lived session keeps the state it read; the engine loses the filters of the DNS file. -/
theorem startService_spec (start : ServiceStart) :
    (startService start).lock = start.lockFile.getD {} ∧
      FiltersRemoved start.cleaned start.engine (startService start).engine := by
  obtain ⟨engine, dnsFile, hdns, hremoved⟩ := exec_clearDnsRedirect start
  obtain ⟨result, file, hsave⟩ := exec_saveDefaultState
    ⟨{ (WfpSession.open start).wfp with session := { engine := engine } }, dnsFile⟩
  have hexec : (exec (cleanupStale start) (WfpSession.open start)).2 =
      ⟨{ (WfpSession.open start).wfp with session := { engine := engine }, file := file },
        dnsFile⟩ := by
    rw [cleanupStale, exec_bind_ok (exec_clearTracked _ _), exec_bind_ok hdns, exec_bind, hsave]
    cases result with
    | error e => rfl
    | ok _ => rfl
  constructor
  · rw [startService, hexec]
    rfl
  · rw [LockContext.engine, startService, hexec]
    exact hremoved

/-! ## When the lock starts well -/

def WfpEngine.removeAll (ids : List Nat) (engine : WfpEngine) : WfpEngine :=
  ids.foldl (fun engine id => engine.remove id) engine

theorem removeAll_get (ids : List Nat) : ∀ (engine : WfpEngine) (id : Nat),
    (engine.removeAll ids).filters.get id = if id ∈ ids then none else engine.filters.get id := by
  have hfilters : ∀ engine : WfpEngine,
      (engine.removeAll ids).filters = engine.filters.removeAll ids := by
    induction ids with
    | nil => intro engine; rfl
    | cons id ids ih => intro engine; exact ih (engine.remove id)
  intro engine id
  rw [hfilters engine, get_removeAll]

namespace ServiceStart
variable (start : ServiceStart)

def saved : NetworkLockState := start.lockFile.getD {}

def left : WfpEngine := start.engine.removeAll start.cleaned

/-- The lock was on and its listed filters, which are those of the policy, are all there; or it was
off and none is there. -/
def Fits (policy : NetworkLockPolicy) : Prop :=
  if start.saved.enabled then
    start.saved.activeFilterIds ≠ [] ∧ (∀ id ∈ start.saved.activeFilterIds, LockAt start.left id) ∧
      LockedBy policy start.left
  else ∀ id, ¬ LockAt start.left id

end ServiceStart

/-- The lock is on exactly with its filters installed, no listed filter is forgotten, and enabling
installs the filters of the policy. -/
structure StartedWell (fromCidr : String → Except String IpNet) (listed : List Nat)
    (policy : NetworkLockPolicy) (ctx : LockContext) : Prop where
  enabled_iff : ctx.lock.enabled = true ↔
    ctx.lock.activeFilterIds ≠ [] ∧ ∀ id ∈ ctx.lock.activeFilterIds, LockAt ctx.engine id
  tracked : ∀ id ∈ listed, LockAt ctx.engine id → id ∈ ctx.lock.activeFilterIds
  enables : ∃ after, exec (NetworkLock.enable fromCidr policy) (ctx.facing [] none) =
    (.ok (), after) ∧ LockedBy policy after.engine

theorem startService_get (start : ServiceStart) :
    (startService start).engine.filters.get = start.left.filters.get := by
  funext id
  rw [(startService_spec start).2.get id, ServiceStart.left, removeAll_get]

/-- Enabling without failures installs the policy where the lock is on with it, or off and bare. -/
theorem enables_iff {fromCidr : String → Except String IpNet} (hreads : ReadsLockCidrs fromCidr)
    (policy : NetworkLockPolicy) (ctx : LockContext) :
    (∃ after, exec (NetworkLock.enable fromCidr policy) (ctx.facing [] none) = (.ok (), after) ∧
        LockedBy policy after.engine) ↔
      if ctx.lock.enabled then LockedBy policy ctx.engine else ∀ id, ¬ LockAt ctx.engine id := by
  cases hon : ctx.lock.enabled with
  | true =>
      have hon' : (ctx.facing [] none).lock.enabled = true := hon
      rw [if_pos rfl, exec_enable_on fromCidr policy hon']
      constructor
      · intro hex
        obtain ⟨after, hexec, hlocked⟩ := hex
        cases hexec
        exact hlocked
      · intro hlocked
        exact ⟨ctx.facing [] none, rfl, hlocked⟩
  | false =>
      have hoff : (ctx.facing [] none).lock.enabled = false := hon
      obtain ⟨after, hexec, _, hadded⟩ := enable_of_clear hreads policy _ hoff (allClear_nil _) rfl
      rw [if_neg Bool.false_ne_true, hexec]
      constructor
      · intro hex
        obtain ⟨after', hsame, hlocked⟩ := hex
        cases hsame
        exact (lockedBy_added_iff hadded).mp hlocked
      · intro hnone
        exact ⟨after, rfl, (lockedBy_added_iff hadded).mpr hnone⟩

/-- After the start sequence the lock is well exactly where the file says what the engine holds. -/
theorem startService_well_iff {fromCidr : String → Except String IpNet}
    (hreads : ReadsLockCidrs fromCidr) (start : ServiceStart) (policy : NetworkLockPolicy) :
    StartedWell fromCidr start.saved.activeFilterIds policy (startService start) ↔
      start.Fits policy := by
  have hlock : (startService start).lock = start.saved := (startService_spec start).1
  have hget := startService_get start
  have henables := enables_iff hreads policy (startService start)
  rw [hlock] at henables
  simp only [lockAt_congr hget, lockedBy_congr hget] at henables
  rw [ServiceStart.Fits]
  cases hon : start.saved.enabled with
  | true =>
      rw [hon, if_pos rfl] at henables
      rw [if_pos rfl]
      constructor
      · intro hwell
        have henabled := hwell.enabled_iff
        simp only [hlock, hon, lockAt_congr hget, true_iff] at henabled
        exact ⟨henabled.1, henabled.2, henables.mp hwell.enables⟩
      · intro hfits
        obtain ⟨hne, hall, hlocked⟩ := hfits
        constructor
        · simp only [hlock, hon, lockAt_congr hget, true_iff]
          exact ⟨hne, hall⟩
        · intro id hmem _
          rw [hlock]
          exact hmem
        · exact henables.mpr hlocked
  | false =>
      rw [hon, if_neg Bool.false_ne_true] at henables
      rw [if_neg Bool.false_ne_true]
      constructor
      · intro hwell
        exact henables.mp hwell.enables
      · intro hnone
        constructor
        · simp only [hlock, hon, lockAt_congr hget, Bool.false_eq_true, false_iff]
          intro hboth
          obtain ⟨hne, hall⟩ := hboth
          obtain ⟨id, hmem⟩ := List.exists_mem_of_ne_nil _ hne
          exact hnone id (hall id hmem)
        · intro id hmem _
          rw [hlock]
          exact hmem
        · exact henables.mpr hnone

def lostFilters : ServiceStart where
  engine := { nextId := 10 }
  lockFile := some ⟨true, [1, 2, 3]⟩
  dnsFile := none

theorem startService_well_iff_lost :
    StartedWell readCidr lostFilters.saved.activeFilterIds {} (startService lostFilters) ↔
      lostFilters.Fits {} :=
  startService_well_iff readsLockCidrs_readCidr lostFilters {}

/-- The service reports a lock that is not there. -/
theorem lostFilters_not_well :
    ¬ StartedWell readCidr lostFilters.saved.activeFilterIds {} (startService lostFilters) := by
  intro hwell
  have hlock : (startService lostFilters).lock = ⟨true, [1, 2, 3]⟩ :=
    (startService_spec lostFilters).1
  have henabled := hwell.enabled_iff
  rw [hlock] at henabled
  obtain ⟨rule, hget, _⟩ := (henabled.mp rfl).2 1 (by decide)
  rw [startService_get lostFilters] at hget
  cases hget

end RouteGuard
