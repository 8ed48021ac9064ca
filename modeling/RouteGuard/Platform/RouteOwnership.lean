import RouteGuard.Platform.RouteRemoval
import RouteGuard.Platform.RouteSpecs

/-! # Which handle stands for a row of the system's table

`created` is kept beside the state for the proofs: every row that an addition of
the session has put into the system's table, with the handle drawn for it.  A
row that still lies in the table needs its handle, in one of the session's three
lists and in the table manager. -/
set_option autoImplicit false
namespace RouteGuard

open HashTable Fallible GuardedRun

/-! ## Operations -/

inductive RouteOp where
  | addDefaultRoute (cidr : IpNet) (ifIndex : Nat)
  | addBypass (cidr : IpNet) (ifIndex : Nat)
  | addEndpointBypass (endpoint : SocketAddr) (tunnelIfIndex : Nat)
  | installSplitRoutes (env : Externals) (policy : PolicySnapshot)
  | installDomainRoute (ip : IpAddr) (target : RouteTarget) (tunnelIf physicalIf expiresAt : Nat)
  | removeDomainRoute (ip : IpAddr)
  | purgeExpiredDomainRoutes (o : Order) (now : Nat)
  | clearDomainRoutes (o : Order)
  | clearSplit
  | clear (o : Order)

structure Addition where
  cidr : IpNet
  ifIndex : Nat
  metric : Nat
deriving DecidableEq, Repr

def Addition.row (addition : Addition) : OsRoute :=
  ⟨osDest addition.cidr, addition.ifIndex, addition.metric⟩

def acceptedAdditions (faults : Nat → Nat) (call : Nat) : List Addition → List Addition
  | [] => []
  | addition :: rest =>
      if faults call = 0 then addition :: acceptedAdditions faults (call + 1) rest else []

def readAdditions : List (Option Addition) → List Addition
  | some addition :: rest => addition :: readAdditions rest
  | _ => []

namespace RouteOp

def apply (st : RouteState) : RouteOp → RouteState
  | addDefaultRoute cidr ifIndex => (exec (SessionRoutes.addDefaultRoute cidr ifIndex) st).2
  | addBypass cidr ifIndex => (exec (SessionRoutes.addBypass cidr ifIndex) st).2
  | addEndpointBypass endpoint tunnelIfIndex =>
      (exec (SessionRoutes.addEndpointBypass endpoint tunnelIfIndex) st).2
  | installSplitRoutes env policy => (exec (SessionRoutes.installSplitRoutes env policy) st).2
  | installDomainRoute ip target tunnelIf physicalIf expiresAt =>
      (exec (SessionRoutes.installDomainRoute ip target tunnelIf physicalIf expiresAt) st).2
  | removeDomainRoute ip => (exec (SessionRoutes.removeDomainRoute ip) st).2
  | purgeExpiredDomainRoutes o now =>
      (exec (SessionRoutes.purgeExpiredDomainRoutes o now) st).2
  | clearDomainRoutes o => (exec (SessionRoutes.clearDomainRoutes o) st).2
  | clearSplit => (exec SessionRoutes.clearSplit st).2
  | clear o => (exec (SessionRoutes.clear o) st).2

/-- `install_domain_route` finds a route that is good enough. -/
def upToDate (st : RouteState) (ip : IpAddr) (target : RouteTarget) (expiresAt : Nat) : Bool :=
  (st.session.domainRoutes.get ip).any fun existing =>
    decide (expiresAt ≤ existing.expiresAt ∧ existing.target = target)

def expiredRows (o : Order) (now : Nat) (st : RouteState) : List (IpAddr × DomainRouteHandle) :=
  (o.items st.session.domainRoutes).filter fun row => row.2.expiresAt ≤ now

/-- The handles an operation removes, as long as the system accepts the deletions. -/
def removes (st : RouteState) : RouteOp → List Nat
  | addDefaultRoute _ _ | addBypass _ _ | addEndpointBypass _ _ => []
  | installSplitRoutes _ _ | clearSplit => st.session.splitHandles
  | installDomainRoute ip target _ _ expiresAt =>
      if upToDate st ip target expiresAt then []
      else (st.session.domainRoutes.get ip).toList.map DomainRouteHandle.routeHandle
  | removeDomainRoute ip =>
      (st.session.domainRoutes.get ip).toList.map DomainRouteHandle.routeHandle
  | purgeExpiredDomainRoutes o now => (expiredRows o now st).map fun row => row.2.routeHandle
  | clearDomainRoutes o =>
      (o.items st.session.domainRoutes).map fun row => row.2.routeHandle
  | clear o => st.session.listed o

def readText (env : Externals) (ifIndex metric : Nat) (text : String) : Option Addition :=
  (env.parseNet text).toOption.map fun cidr => ⟨cidr, ifIndex, metric⟩

/-- The additions of an operation in turn; it stops at a text that does not parse. -/
def adds (st : RouteState) : RouteOp → List (Option Addition)
  | addDefaultRoute cidr ifIndex => [some ⟨cidr, ifIndex, 100⟩]
  | addBypass cidr ifIndex => [some ⟨cidr, ifIndex, 5⟩]
  | addEndpointBypass endpoint tunnelIfIndex =>
      [some ⟨IpNet.host endpoint.ip, tunnelIfIndex, 0⟩]
  | installSplitRoutes env policy =>
      match policy.tunnelIfIndex, policy.physicalIfIndex with
      | some tunnelIf, some physicalIf =>
          [some ⟨SessionRoutes.defaultV4, physicalIf, 1⟩,
            some ⟨SessionRoutes.defaultV4, tunnelIf, 100⟩,
            some ⟨SessionRoutes.defaultV6, physicalIf, 1⟩,
            some ⟨SessionRoutes.defaultV6, tunnelIf, 100⟩] ++
          (policy.bypassCidrs.map (readText env physicalIf 1) ++
            policy.dynamicTunnelHosts.map (readText env tunnelIf 100))
      | _, _ => []
  | installDomainRoute ip target tunnelIf physicalIf expiresAt =>
      if upToDate st ip target expiresAt then []
      else (SessionRoutes.hostRoute target tunnelIf physicalIf).toList.map fun route =>
        some ⟨IpNet.host ip, route.1, route.2⟩
  | removeDomainRoute _ | purgeExpiredDomainRoutes _ _ | clearDomainRoutes _ | clearSplit
  | clear _ => []

end RouteOp

/-! ## Runs -/

structure OwnedRoutes where
  st : RouteState := {}
  created : List (Nat × OsRoute) := []

/-- The system holds one row for each destination and interface. -/
def adopt (created : List (Nat × OsRoute)) (pair : Nat × OsRoute) : List (Nat × OsRoute) :=
  created.filter (fun other => !Os.keyed pair.2.dest pair.2.ifIndex other.2) ++ [pair]

/-- The additions that were accepted: the `n`-th draws the `n`-th handle after `first`, and the
manager holds that handle afterwards. -/
def accepted (first : Nat) (after : RouteTableManager) (adds : List (Option Addition)) :
    List (Nat × OsRoute) :=
  (adds.zipIdx first).filterMap fun slot =>
    match slot.1, after.routes.get slot.2 with
    | some addition, some _ => some (slot.2, addition.row)
    | _, _ => none

namespace OwnedRoutes

def step (w : OwnedRoutes) (op : RouteOp) : OwnedRoutes where
  st := op.apply w.st
  created := (accepted w.st.table.nextHandle (op.apply w.st).table (op.adds w.st)).foldl adopt
    w.created

end OwnedRoutes

/-! ## References -/

def SessionRoutes.References (session : SessionRoutes) (handle : Nat) : Prop :=
  handle ∈ session.wgHandles ∨ handle ∈ session.splitHandles ∨
    ∃ ip entry, session.domainRoutes.get ip = some entry ∧ entry.routeHandle = handle

/-- A handle of the session stands for the row, and the manager knows its network. -/
def RouteState.Referenced (st : RouteState) (pair : Nat × OsRoute) : Prop :=
  st.session.References pair.1 ∧
    ∃ cidr, st.table.routes.get pair.1 = some cidr ∧ osDest cidr = pair.2.dest

/-- The system deletes from now on whatever it is asked to. -/
def RouteState.healed (st : RouteState) : RouteState :=
  { st with table := { st.table with os := { st.table.os with faults := fun _ => 0 } } }

namespace OwnedRoutes

/-- Every row the session created and that is still there is referenced. -/
def Tracked (w : OwnedRoutes) : Prop :=
  ∀ pair ∈ w.created, pair.2 ∈ w.st.table.os.rows → w.st.Referenced pair

/-- A later `clear` without failures removes all of them. -/
def ClearsAll (o : Order) (w : OwnedRoutes) : Prop :=
  ∀ pair ∈ w.created, pair.2 ∉ (exec (SessionRoutes.clear o) w.st.healed).2.table.os.rows

end OwnedRoutes

def RouteTableManager.Answers (table : RouteTableManager) (handle : Nat) : Prop :=
  table.routes.get handle ≠ none → table.os.faults table.os.calls = 0

instance (table : RouteTableManager) (handle : Nat) : Decidable (table.Answers handle) :=
  inferInstanceAs (Decidable (table.routes.get handle ≠ none →
    table.os.faults table.os.calls = 0))

namespace OwnedRoutes

/-- No deletion of the operation fails, and every row it may create lies at interface 0, the one
that `delete_route` names. -/
structure KeepsTracked (w : OwnedRoutes) (op : RouteOp) : Prop where
  answered : Guarded RouteTableManager.forget RouteTableManager.Answers w.st.table
    (op.removes w.st)
  atZero : ∀ addition ∈ acceptedAdditions w.st.table.os.faults
      (run RouteTableManager.forget w.st.table (op.removes w.st)).os.calls
      (readAdditions (op.adds w.st)), addition.ifIndex = 0

structure Sound (w : OwnedRoutes) : Prop where
  drawn : ∀ handle, w.st.table.nextHandle ≤ handle → w.st.table.routes.get handle = none
  older : ∀ pair ∈ w.created, pair.1 < w.st.table.nextHandle
  atZero : ∀ pair ∈ w.created, pair.2.ifIndex = 0
  tracked : w.Tracked

end OwnedRoutes

/-! ## Removals -/

namespace RouteTableManager

theorem guarded_accepted {table : RouteTableManager} {handles : List Nat}
    (h : Guarded forget Answers table handles) : Guarded forget Accepted table handles := by
  induction handles generalizing table with
  | nil => trivial
  | cons handle rest ih => exact ⟨fun hsome => Or.inl (h.1 hsome), ih h.2⟩

/-- Under such answers the destination of every handle is deleted. -/
theorem mem_deleted {table : RouteTableManager} {handles : List Nat}
    (h : Guarded forget Answers table handles) {handle : Nat} {cidr : IpNet}
    (hmem : handle ∈ handles) (hget : table.routes.get handle = some cidr) :
    osDest cidr ∈ table.deleted handles := by
  induction handles generalizing table with
  | nil => exact absurd hmem List.not_mem_nil
  | cons first rest ih =>
      by_cases hfirst : handle = first
      · subst hfirst
        have hanswer : table.os.faults table.os.calls = 0 := h.1 (by simp [hget])
        simp [deleted, hget, hanswer]
      · have hrest : handle ∈ rest := (List.mem_cons.mp hmem).resolve_left hfirst
        have hlater : osDest cidr ∈ (table.forget first).deleted rest := by
          apply ih h.2 hrest
          rw [forget_routes, if_neg hfirst]
          exact hget
        simp only [deleted]
        cases table.routes.get first with
        | none => exact hlater
        | some other =>
            by_cases hanswer : table.os.faults table.os.calls = 0
            · simp only [hanswer, if_true]
              exact List.mem_cons_of_mem _ hlater
            · simp only [hanswer, if_false]
              exact hlater

theorem run_forget_faults (table : RouteTableManager) (handles : List Nat) :
    (run forget table handles).os.faults = table.os.faults := by
  induction handles generalizing table with
  | nil => rfl
  | cons handle rest ih =>
      rw [run_cons, ih]
      unfold forget
      cases table.routes.get handle with
      | none => rfl
      | some cidr => exact delete_faults _ _ _

theorem run_forget_nextHandle (table : RouteTableManager) (handles : List Nat) :
    (run forget table handles).nextHandle = table.nextHandle := by
  induction handles generalizing table with
  | nil => rfl
  | cons handle rest ih =>
      rw [run_cons, ih]
      unfold forget
      cases table.routes.get handle <;> rfl

end RouteTableManager

/-- What the removals of an operation do when the system accepts them. -/
structure Removed (handles : List Nat) (before after : RouteState) : Prop where
  table : after.table = run RouteTableManager.forget before.table handles
  keeps : ∀ handle, before.session.References handle → handle ∉ handles →
    after.session.References handle

theorem removed_none (st : RouteState) : Removed [] st st := ⟨rfl, fun _ h _ => h⟩

section Removal
variable {w : OwnedRoutes} {handles : List Nat} {after : RouteState}

theorem removed_sound (h : w.Sound) (hremoved : Removed handles w.st after)
    (hanswered :
      Guarded RouteTableManager.forget RouteTableManager.Answers w.st.table handles) :
    OwnedRoutes.Sound ⟨after, w.created⟩ := by
  refine ⟨?_, ?_, h.atZero, ?_⟩
  · intro handle hle
    dsimp only at hle ⊢
    rw [hremoved.table, RouteTableManager.run_forget_nextHandle] at hle
    rw [hremoved.table, RouteTableManager.run_forget_routes, h.drawn handle hle, ite_self]
  · intro pair hmem
    have holder := h.older pair hmem
    dsimp only
    rw [hremoved.table, RouteTableManager.run_forget_nextHandle]
    exact holder
  · intro pair hmem hrow
    dsimp only at hrow ⊢
    rw [hremoved.table, RouteTableManager.mem_run_forget_rows] at hrow
    obtain ⟨hbefore, hkept⟩ := hrow
    obtain ⟨hrefs, cidr, hget, hdest⟩ := h.tracked pair hmem hbefore
    have hnot : pair.1 ∉ handles := by
      intro hin
      apply hkept
      refine ⟨h.atZero pair hmem, ?_⟩
      rw [← hdest]
      exact RouteTableManager.mem_deleted hanswered hin hget
    refine ⟨hremoved.keeps pair.1 hrefs hnot, cidr, ?_, hdest⟩
    rw [hremoved.table, RouteTableManager.run_forget_routes, if_neg hnot]
    exact hget

end Removal

/-! ## Additions -/

def RouteTableManager.refused (table : RouteTableManager) : RouteTableManager :=
  { table with
    nextHandle := table.nextHandle + 1
    os := { table.os with calls := table.os.calls + 1 } }

/-- A sequence of additions, each of which hands its handle to the session; it ends at a text
that does not parse and at an addition the system refuses. -/
inductive Adds : List (Option Addition) → RouteState → RouteState → Prop
  | done (st : RouteState) : Adds [] st st
  | unread (rest : List (Option Addition)) (st : RouteState) : Adds (none :: rest) st st
  | refused (addition : Addition) (rest : List (Option Addition)) (st : RouteState) :
      Adds (some addition :: rest) st { st with table := st.table.refused }
  | added {addition : Addition} {rest : List (Option Addition)} {st st' : RouteState}
      (session : SessionRoutes)
      (keeps : ∀ handle, st.session.References handle → session.References handle)
      (pushed : session.References st.table.nextHandle)
      (answered : st.table.os.faults st.table.os.calls = 0)
      (next : Adds rest
        ⟨session, st.table.added addition.cidr addition.ifIndex addition.metric⟩ st') :
      Adds (some addition :: rest) st st'

section Accepted
variable {first : Nat} {after : RouteTableManager} {rest : List (Option Addition)}

theorem accepted_none (h : ∀ handle, first ≤ handle → after.routes.get handle = none)
    (adds : List (Option Addition)) : accepted first after adds = [] := by
  rw [accepted, List.filterMap_eq_nil_iff]
  intro slot hslot
  rw [h slot.2 (List.le_snd_of_mem_zipIdx hslot)]
  cases slot.1 <;> rfl

theorem accepted_cons (addition : Addition) {cidr : IpNet}
    (h : after.routes.get first = some cidr) :
    accepted first after (some addition :: rest) =
      (first, addition.row) :: accepted (first + 1) after rest := by
  simp only [accepted, List.zipIdx_cons, List.filterMap_cons, h]

end Accepted

theorem mem_adopt {created : List (Nat × OsRoute)} {pair other : Nat × OsRoute} :
    other ∈ adopt created pair ↔ other = pair ∨
      other ∈ created ∧ ¬(other.2.dest = pair.2.dest ∧ other.2.ifIndex = pair.2.ifIndex) := by
  simp only [adopt, List.mem_append, List.mem_filter, List.mem_singleton, Os.keyed,
    Bool.not_eq_true', decide_eq_false_iff_not]
  exact or_comm

theorem added_sound {w : OwnedRoutes} (h : w.Sound) (addition : Addition) (session : SessionRoutes)
    (hkeeps : ∀ handle, w.st.session.References handle → session.References handle)
    (hpushed : session.References w.st.table.nextHandle) (hzero : addition.ifIndex = 0) :
    OwnedRoutes.Sound ⟨⟨session, w.st.table.added addition.cidr addition.ifIndex addition.metric⟩,
      adopt w.created (w.st.table.nextHandle, addition.row)⟩ := by
  have hroutes : ∀ handle, (w.st.table.added addition.cidr addition.ifIndex
      addition.metric).routes.get handle =
        if handle = w.st.table.nextHandle then some addition.cidr
        else w.st.table.routes.get handle := fun handle => get_insert _ _ handle _
  refine ⟨?_, ?_, ?_, ?_⟩
  · intro handle hle
    have hlt : w.st.table.nextHandle < handle := hle
    dsimp only
    rw [hroutes, if_neg (by omega)]
    exact h.drawn handle (Nat.le_of_lt hlt)
  · intro pair hmem
    have hnext : (w.st.table.added addition.cidr addition.ifIndex addition.metric).nextHandle =
        w.st.table.nextHandle + 1 := rfl
    dsimp only
    rw [hnext]
    rcases mem_adopt.mp hmem with rfl | ⟨hold, _⟩
    · exact Nat.lt_succ_self _
    · exact Nat.lt_succ_of_lt (h.older pair hold)
  · intro pair hmem
    rcases mem_adopt.mp hmem with rfl | ⟨hold, _⟩
    · exact hzero
    · exact h.atZero pair hold
  · intro pair hmem hrow
    rcases mem_adopt.mp hmem with rfl | ⟨hold, hkey⟩
    · refine ⟨hpushed, addition.cidr, ?_, rfl⟩
      dsimp only
      rw [hroutes, if_pos rfl]
    · have hbefore : pair.2 ∈ w.st.table.os.rows := by
        have hcreate : pair.2 ∈ (w.st.table.os.create addition.row).2.rows := hrow
        simp only [Os.create] at hcreate
        split at hcreate
        · rcases List.mem_append.mp hcreate with hin | hin
          · exact (List.mem_filter.mp hin).1
          · rw [List.mem_singleton.mp hin] at hkey
            exact absurd ⟨rfl, rfl⟩ hkey
        · exact hcreate
      obtain ⟨hrefs, cidr, hget, hdest⟩ := h.tracked pair hold hbefore
      refine ⟨hkeeps pair.1 hrefs, cidr, ?_, hdest⟩
      have holder := h.older pair hold
      dsimp only
      rw [hroutes, if_neg (by omega)]
      exact hget

theorem refused_sound {w : OwnedRoutes} (h : w.Sound) :
    OwnedRoutes.Sound ⟨{ w.st with table := w.st.table.refused }, w.created⟩ := by
  refine ⟨?_, ?_, h.atZero, h.tracked⟩
  · intro handle hle
    have hlt : w.st.table.nextHandle + 1 ≤ handle := hle
    exact h.drawn handle (by omega)
  · intro pair hmem
    exact Nat.lt_succ_of_lt (h.older pair hmem)

namespace Adds

theorem routes_older {adds : List (Option Addition)} {st st' : RouteState} (h : Adds adds st st')
    {handle : Nat} (hlt : handle < st.table.nextHandle) :
    st'.table.routes.get handle = st.table.routes.get handle := by
  induction h with
  | done st => rfl
  | unread rest st => rfl
  | refused addition rest st => rfl
  | added session keeps pushed answered next ih =>
      rw [ih (Nat.lt_succ_of_lt hlt)]
      exact (get_insert _ _ _ _).trans (if_neg (by omega))

theorem sound {adds : List (Option Addition)} {st st' : RouteState} (h : Adds adds st st')
    {created : List (Nat × OsRoute)} (hsound : OwnedRoutes.Sound ⟨st, created⟩)
    (hzero : ∀ addition ∈ acceptedAdditions st.table.os.faults st.table.os.calls
      (readAdditions adds), addition.ifIndex = 0) :
    OwnedRoutes.Sound
      ⟨st', (accepted st.table.nextHandle st'.table adds).foldl adopt created⟩ := by
  induction h generalizing created with
  | done st =>
      rw [accepted_none hsound.drawn]
      exact hsound
  | unread rest st =>
      rw [accepted_none hsound.drawn]
      exact hsound
  | refused addition rest st =>
      have hnone : accepted st.table.nextHandle st.table.refused (some addition :: rest) = [] :=
        accepted_none hsound.drawn _
      rw [hnone]
      exact refused_sound hsound
  | @added addition rest st st' session keeps pushed answered next ih =>
      have hget : st'.table.routes.get st.table.nextHandle = some addition.cidr := by
        rw [next.routes_older (Nat.lt_succ_self _)]
        exact (get_insert _ _ _ _).trans (if_pos rfl)
      rw [readAdditions, acceptedAdditions, if_pos answered] at hzero
      obtain ⟨hfirst, hrest⟩ := List.forall_mem_cons.mp hzero
      rw [accepted_cons addition hget]
      exact ih (added_sound hsound addition session keeps pushed hfirst) hrest

end Adds

/-! ## Operations that only add -/

/-- The program makes these additions; when it fails it has stopped among them. -/
structure Runs {A : Type} (m : RouteProg A) (adds : List (Option Addition)) : Prop where
  ok : ∀ st a st', exec m st = (.ok a, st') → ∀ rest st'', Adds rest st' st'' →
    Adds (adds ++ rest) st st''
  error : ∀ st e st', exec m st = (.error e, st') → ∀ rest, Adds (adds ++ rest) st st'

section Runs
variable {A B : Type}

theorem Runs.adds {m : RouteProg A} {adds : List (Option Addition)} (h : Runs m adds)
    (st : RouteState) : Adds adds st (exec m st).2 := by
  rw [← List.append_nil adds]
  cases hexec : exec m st with
  | mk result st' =>
      cases result with
      | ok a => exact h.ok st a st' hexec [] st' (.done st')
      | error e => exact h.error st e st' hexec []

theorem runs_pure (a : A) : Runs (pure a : RouteProg A) [] := by
  constructor
  · intro st a' st' hexec rest st'' hrest
    cases hexec
    exact hrest
  · intro st e st' hexec
    cases hexec

theorem runs_bind {m : RouteProg A} {f : A → RouteProg B} {xs ys : List (Option Addition)}
    (hm : Runs m xs) (hf : ∀ a, Runs (f a) ys) : Runs (m >>= f) (xs ++ ys) := by
  constructor
  · intro st b st' hexec rest st'' hrest
    rw [exec_bind] at hexec
    cases hfirst : exec m st with
    | mk result middle =>
        rw [hfirst] at hexec
        cases result with
        | error e => cases hexec
        | ok a =>
            rw [List.append_assoc]
            apply hm.ok st a middle hfirst
            exact (hf a).ok middle b st' hexec rest st'' hrest
  · intro st e st' hexec rest
    rw [exec_bind] at hexec
    cases hfirst : exec m st with
    | mk result middle =>
        rw [hfirst] at hexec
        rw [List.append_assoc]
        cases result with
        | error e' =>
            cases hexec
            exact hm.error st e st' hfirst (ys ++ rest)
        | ok a =>
            apply hm.ok st a middle hfirst
            exact (hf a).error middle e st' hexec rest

theorem runs_next {m : RouteProg A} {f : A → RouteProg B} {x : Option Addition}
    {ys : List (Option Addition)} (hm : Runs m [x]) (hf : ∀ a, Runs (f a) ys) :
    Runs (m >>= f) (x :: ys) :=
  runs_bind hm hf

theorem runs_forEach {body : A → RouteProg PUnit} {adds : A → Option Addition}
    (hbody : ∀ a, Runs (body a) [adds a]) (xs : List A) :
    Runs (forEach body xs) (xs.map adds) := by
  induction xs with
  | nil => exact runs_pure _
  | cons a rest ih => exact runs_bind (hbody a) fun _ => ih

end Runs

theorem addRoute_answered {table : RouteTableManager}
    (h : table.os.faults table.os.calls = 0) (cidr : IpNet) (ifIndex metric : Nat) :
    exec (RouteTableManager.addRoute cidr ifIndex metric) table =
      (.ok table.nextHandle, table.added cidr ifIndex metric) := by
  have hstatus : (table.os.create ⟨osDest cidr, ifIndex, metric⟩).1 = 0 := h
  simp only [RouteTableManager.addRoute, RouteTableManager.osAdd, exec_bind, exec_get, exec_modify,
    exec_set, exec_pure, hstatus]
  rfl

theorem addRoute_refused {table : RouteTableManager}
    (h : table.os.faults table.os.calls ≠ 0) (cidr : IpNet) (ifIndex metric : Nat) :
    ∃ e, exec (RouteTableManager.addRoute cidr ifIndex metric) table =
      (.error e, table.refused) := by
  have hstatus : (table.os.create ⟨osDest cidr, ifIndex, metric⟩).1 =
      table.os.faults table.os.calls := rfl
  have hos : (table.os.create ⟨osDest cidr, ifIndex, metric⟩).2 =
      { table.os with calls := table.os.calls + 1 } := by
    simp only [Os.create, h, if_false]
  refine ⟨.platform ("CreateIpForwardEntry2 failed: " ++
    toString (table.os.faults table.os.calls)), ?_⟩
  simp only [RouteTableManager.addRoute, RouteTableManager.osAdd, exec_bind, exec_get, exec_modify,
    exec_set, hstatus, hos, ne_eq, h, not_false_eq_true, if_true, exec_throw]
  rfl

theorem runs_push (cidr : IpNet) (ifIndex metric : Nat)
    (push : Nat → SessionRoutes → SessionRoutes)
    (hkeeps : ∀ new session handle, session.References handle →
      (push new session).References handle)
    (hpushed : ∀ new session, (push new session).References new) :
    Runs (do
      let handle ← SessionRoutes.onTable (RouteTableManager.addRoute cidr ifIndex metric)
      SessionRoutes.modifySession (push handle)) [some ⟨cidr, ifIndex, metric⟩] := by
  constructor
  · intro st a st' hexec rest st'' hrest
    by_cases hanswer : st.table.os.faults st.table.os.calls = 0
    · simp only [exec_bind, SessionRoutes.onTable, exec_zoom, addRoute_answered hanswer,
        SessionRoutes.modifySession, exec_modify, Prod.mk.injEq] at hexec
      obtain ⟨_, rfl⟩ := hexec
      exact .added (push st.table.nextHandle st.session) (hkeeps _ st.session)
        (hpushed _ st.session) hanswer hrest
    · obtain ⟨e, hrefused⟩ := addRoute_refused hanswer cidr ifIndex metric
      simp only [exec_bind, SessionRoutes.onTable, exec_zoom, hrefused, Prod.mk.injEq,
        reduceCtorEq, false_and] at hexec
  · intro st e st' hexec rest
    by_cases hanswer : st.table.os.faults st.table.os.calls = 0
    · simp only [exec_bind, SessionRoutes.onTable, exec_zoom, addRoute_answered hanswer,
        SessionRoutes.modifySession, exec_modify, Prod.mk.injEq, reduceCtorEq,
        false_and] at hexec
    · obtain ⟨e', hrefused⟩ := addRoute_refused hanswer cidr ifIndex metric
      simp only [exec_bind, SessionRoutes.onTable, exec_zoom, hrefused, Prod.mk.injEq] at hexec
      obtain ⟨_, rfl⟩ := hexec
      exact .refused ⟨cidr, ifIndex, metric⟩ rest st

theorem runs_pushWg (cidr : IpNet) (ifIndex metric : Nat) :
    Runs (do
      let handle ← SessionRoutes.onTable (RouteTableManager.addRoute cidr ifIndex metric)
      SessionRoutes.pushWg handle) [some ⟨cidr, ifIndex, metric⟩] := by
  apply runs_push cidr ifIndex metric fun handle session =>
    { session with wgHandles := session.wgHandles ++ [handle] }
  · intro new session handle hrefs
    rcases hrefs with hwg | hsplit | hdomain
    · exact Or.inl (List.mem_append_left [new] hwg)
    · exact Or.inr (Or.inl hsplit)
    · exact Or.inr (Or.inr hdomain)
  · intro new session
    exact Or.inl (List.mem_append_right session.wgHandles (List.mem_singleton.mpr rfl))

theorem runs_addSplit (cidr : IpNet) (ifIndex metric : Nat) :
    Runs (SessionRoutes.addSplit cidr ifIndex metric) [some ⟨cidr, ifIndex, metric⟩] := by
  apply runs_push cidr ifIndex metric fun handle session =>
    { session with splitHandles := session.splitHandles ++ [handle] }
  · intro new session handle hrefs
    rcases hrefs with hwg | hsplit | hdomain
    · exact Or.inl hwg
    · exact Or.inr (Or.inl (List.mem_append_left [new] hsplit))
    · exact Or.inr (Or.inr hdomain)
  · intro new session
    exact Or.inr (Or.inl
      (List.mem_append_right session.splitHandles (List.mem_singleton.mpr rfl)))

theorem runs_addSplitText (env : Externals) (label : String) (ifIndex metric : Nat)
    (text : String) :
    Runs (SessionRoutes.addSplitText env label ifIndex metric text)
      [RouteOp.readText env ifIndex metric text] := by
  unfold SessionRoutes.addSplitText RouteOp.readText
  cases env.parseNet text with
  | ok cidr => exact runs_addSplit cidr ifIndex metric
  | error e =>
      constructor
      · intro st a st' hexec
        cases hexec
      · intro st e' st' hexec rest
        cases hexec
        exact .unread rest st

/-! ## Each operation -/

section Operations
variable {st : RouteState}

theorem clearSplit_removed (h : Guarded RouteTableManager.forget RouteTableManager.Answers st.table
    st.session.splitHandles) :
    ∃ middle, exec SessionRoutes.clearSplit st = (.ok ⟨⟩, middle) ∧
      Removed st.session.splitHandles st middle := by
  have hloop := forEach_accepted RouteTableManager.removeRoute_guards _ _
    (RouteTableManager.guarded_accepted h)
  refine ⟨⟨{ st.session with splitHandles := [] },
    run RouteTableManager.forget st.table st.session.splitHandles⟩, ?_, rfl, ?_⟩
  · simp only [SessionRoutes.clearSplit, exec_bind, exec_get, SessionRoutes.modifySession,
      exec_modify, SessionRoutes.forEach_onTable, hloop]
  · intro handle hrefs hnot
    rcases hrefs with hwg | hsplit | hdomain
    · exact Or.inl hwg
    · exact absurd hsplit hnot
    · exact Or.inr (Or.inr hdomain)

theorem rows_removed {rows : List (IpAddr × DomainRouteHandle)}
    (hrows : SessionRoutes.Rows st.session rows)
    (h : Guarded RouteTableManager.forget RouteTableManager.Answers st.table
      (rows.map fun row => row.2.routeHandle)) :
    ∃ middle, exec (forEach SessionRoutes.removeDomainRoute (rows.map Prod.fst)) st =
        (.ok ⟨⟩, middle) ∧
      Removed (rows.map fun row => row.2.routeHandle) st middle := by
  obtain ⟨hguarded, hrun⟩ := SessionRoutes.guarded_rows rows hrows
  have hloop := forEach_accepted SessionRoutes.removeDomainRoute_guards _ _
    (hguarded.mpr (RouteTableManager.guarded_accepted h))
  refine ⟨_, hloop, by rw [hrun], ?_⟩
  intro handle hrefs hnot
  rw [hrun]
  rcases hrefs with hwg | hsplit | ⟨ip, entry, hget, rfl⟩
  · exact Or.inl hwg
  · exact Or.inr (Or.inl hsplit)
  · refine Or.inr (Or.inr ⟨ip, entry, ?_, rfl⟩)
    have hother : ip ∉ rows.map Prod.fst := by
      intro hmem
      obtain ⟨row, hrow, rfl⟩ := List.mem_map.mp hmem
      have hentry := hrows.mem row hrow
      rw [hget, Option.some.injEq] at hentry
      apply hnot
      rw [hentry]
      exact List.mem_map_of_mem hrow
    dsimp only
    rw [get_removeAll, if_neg hother]
    exact hget

theorem removeDomainRoute_removed {ip : IpAddr}
    (h : Guarded RouteTableManager.forget RouteTableManager.Answers st.table
      ((st.session.domainRoutes.get ip).toList.map DomainRouteHandle.routeHandle)) :
    ∃ middle, exec (SessionRoutes.removeDomainRoute ip) st = (.ok ⟨⟩, middle) ∧
      Removed ((st.session.domainRoutes.get ip).toList.map DomainRouteHandle.routeHandle)
        st middle ∧ middle.session.domainRoutes.get ip = none := by
  cases hget : st.session.domainRoutes.get ip with
  | none =>
      refine ⟨st, ?_, removed_none st, hget⟩
      simp only [SessionRoutes.removeDomainRoute, exec_bind, exec_get, hget, exec_pure]
  | some entry =>
      have hrows : SessionRoutes.Rows st.session [(ip, entry)] := by
        refine ⟨?_, List.nodup_singleton ip⟩
        intro row hrow
        rw [List.mem_singleton.mp hrow]
        exact hget
      rw [hget] at h
      obtain ⟨middle, hloop, hremoved⟩ := rows_removed hrows h
      obtain ⟨hguarded, hrun⟩ := SessionRoutes.guarded_rows _ hrows
      have hfirst := (SessionRoutes.removeDomainRoute_guards ip st).1
        (hguarded.mpr (RouteTableManager.guarded_accepted h)).1
      have hmiddle : middle = SessionRoutes.forgetIp st ip := by
        simp only [List.map_cons, List.map_nil, forEach, exec_bind, hfirst, exec_pure,
          Prod.mk.injEq, true_and] at hloop
        exact hloop.symm
      refine ⟨middle, ?_, hremoved, ?_⟩
      · rw [hmiddle]
        exact hfirst
      · simp only [hmiddle, SessionRoutes.forgetIp, hget]
        rw [get_remove, if_pos rfl]

theorem addDomainRoute_adds {ip : IpAddr} (hnone : st.session.domainRoutes.get ip = none)
    (target : RouteTarget) (tunnelIf physicalIf expiresAt : Nat) :
    Adds ((SessionRoutes.hostRoute target tunnelIf physicalIf).toList.map fun route =>
        some ⟨IpNet.host ip, route.1, route.2⟩) st
      (exec (SessionRoutes.addDomainRoute ip target tunnelIf physicalIf expiresAt) st).2 := by
  unfold SessionRoutes.addDomainRoute
  cases SessionRoutes.hostRoute target tunnelIf physicalIf with
  | none => exact .done st
  | some route =>
      obtain ⟨ifIndex, metric⟩ := route
      by_cases hanswer : st.table.os.faults st.table.os.calls = 0
      · simp only [exec_bind, SessionRoutes.onTable, exec_zoom, addRoute_answered hanswer,
          SessionRoutes.modifySession, exec_modify]
        refine .added _ ?_ ?_ hanswer (.done _)
        · intro handle hrefs
          rcases hrefs with hwg | hsplit | ⟨other, entry, hget, rfl⟩
          · exact Or.inl hwg
          · exact Or.inr (Or.inl hsplit)
          · have hne : other ≠ ip := by
              intro heq
              rw [heq, hnone] at hget
              cases hget
            refine Or.inr (Or.inr ⟨other, entry, ?_, rfl⟩)
            rw [get_insert, if_neg hne]
            exact hget
        · refine Or.inr (Or.inr ⟨ip, ⟨ip, st.table.nextHandle, expiresAt, target⟩, ?_, rfl⟩)
          rw [get_insert, if_pos rfl]
      · obtain ⟨e, hrefused⟩ := addRoute_refused hanswer (IpNet.host ip) ifIndex metric
        simp only [exec_bind, SessionRoutes.onTable, exec_zoom, hrefused]
        exact .refused _ _ st

theorem installDomainRoute_phases {ip : IpAddr} {target : RouteTarget}
    {tunnelIf physicalIf expiresAt : Nat}
    (h : Guarded RouteTableManager.forget RouteTableManager.Answers st.table
      (RouteOp.removes st (.installDomainRoute ip target tunnelIf physicalIf expiresAt))) :
    ∃ middle,
      Removed (RouteOp.removes st (.installDomainRoute ip target tunnelIf physicalIf expiresAt))
        st middle ∧
      Adds (RouteOp.adds st (.installDomainRoute ip target tunnelIf physicalIf expiresAt)) middle
        (RouteOp.apply st (.installDomainRoute ip target tunnelIf physicalIf expiresAt)) := by
  simp only [RouteOp.removes, RouteOp.adds, RouteOp.apply, SessionRoutes.installDomainRoute,
    exec_bind, exec_get] at h ⊢
  cases hget : st.session.domainRoutes.get ip with
  | none =>
      have hstale : RouteOp.upToDate st ip target expiresAt = false := by
        simp [RouteOp.upToDate, hget]
      simp only [hstale, Bool.false_eq_true, if_false, Option.toList_none, List.map_nil]
      exact ⟨st, removed_none st, addDomainRoute_adds hget target tunnelIf physicalIf expiresAt⟩
  | some existing =>
      by_cases hcovers : expiresAt ≤ existing.expiresAt ∧ existing.target = target
      · have hfresh : RouteOp.upToDate st ip target expiresAt = true := by
          simp [RouteOp.upToDate, hget, hcovers]
        simp only [hfresh, if_true, hcovers, and_self, exec_pure]
        exact ⟨st, removed_none st, .done st⟩
      · have hstale : RouteOp.upToDate st ip target expiresAt = false := by
          simp only [RouteOp.upToDate, hget, Option.any_some, decide_eq_false_iff_not]
          exact hcovers
        simp only [hstale, Bool.false_eq_true, if_false] at h ⊢
        obtain ⟨middle, hremove, hremoved, hnone⟩ := removeDomainRoute_removed h
        rw [hget] at hremoved
        simp only [hcovers, if_false, exec_bind, hremove]
        exact ⟨middle, hremoved,
          addDomainRoute_adds hnone target tunnelIf physicalIf expiresAt⟩

theorem installSplitRoutes_phases {env : Externals} {policy : PolicySnapshot}
    (h : Guarded RouteTableManager.forget RouteTableManager.Answers st.table
      st.session.splitHandles) :
    ∃ middle, Removed st.session.splitHandles st middle ∧
      Adds (RouteOp.adds st (.installSplitRoutes env policy)) middle
        (exec (SessionRoutes.installSplitRoutes env policy) st).2 := by
  obtain ⟨middle, hclear, hremoved⟩ := clearSplit_removed h
  refine ⟨middle, hremoved, ?_⟩
  rw [SessionRoutes.installSplitRoutes, exec_bind_ok hclear]
  simp only [RouteOp.adds]
  cases policy.tunnelIfIndex with
  | none => exact .done middle
  | some tunnelIf =>
      cases policy.physicalIfIndex with
      | none => exact .done middle
      | some physicalIf =>
          simp only [List.cons_append, List.nil_append]
          apply Runs.adds
          refine runs_next (runs_addSplit _ _ _) fun _ => ?_
          refine runs_next (runs_addSplit _ _ _) fun _ => ?_
          refine runs_next (runs_addSplit _ _ _) fun _ => ?_
          refine runs_next (runs_addSplit _ _ _) fun _ => ?_
          refine runs_bind (runs_forEach (runs_addSplitText env _ _ _) _) fun _ => ?_
          exact runs_forEach (runs_addSplitText env _ _ _) _

theorem mem_listed_of_references (o : Order) {handle : Nat}
    (hrefs : st.session.References handle) : handle ∈ st.session.listed o := by
  rw [SessionRoutes.listed, List.mem_append, List.mem_append]
  rcases hrefs with hwg | hsplit | ⟨ip, entry, hget, rfl⟩
  · exact Or.inr (Or.inr hwg)
  · exact Or.inr (Or.inl hsplit)
  · exact Or.inl (List.mem_map_of_mem (f := fun row => row.2.routeHandle)
      ((mem_order_items o _ ip entry).mpr hget))

/-- An operation whose deletions are accepted removes its handles, then adds. -/
theorem RouteOp.phases (op : RouteOp)
    (h : Guarded RouteTableManager.forget RouteTableManager.Answers st.table (op.removes st)) :
    ∃ middle, Removed (op.removes st) st middle ∧ Adds (op.adds st) middle (op.apply st) := by
  cases op with
  | addDefaultRoute cidr ifIndex =>
      exact ⟨st, removed_none st, (runs_pushWg cidr ifIndex 100).adds st⟩
  | addBypass cidr ifIndex => exact ⟨st, removed_none st, (runs_pushWg cidr ifIndex 5).adds st⟩
  | addEndpointBypass endpoint tunnelIfIndex =>
      exact ⟨st, removed_none st,
        (runs_pushWg (IpNet.host endpoint.ip) tunnelIfIndex 0).adds st⟩
  | installSplitRoutes env policy => exact installSplitRoutes_phases h
  | installDomainRoute ip target tunnelIf physicalIf expiresAt =>
      exact installDomainRoute_phases h
  | removeDomainRoute ip =>
      obtain ⟨middle, hexec, hremoved, _⟩ := removeDomainRoute_removed h
      refine ⟨middle, hremoved, ?_⟩
      simp only [RouteOp.apply, hexec]
      exact .done middle
  | purgeExpiredDomainRoutes o now =>
      have hrows : SessionRoutes.Rows st.session (RouteOp.expiredRows o now st) := by
        have hall := SessionRoutes.items_rows o st.session
        refine ⟨fun row hrow => hall.mem row (List.mem_filter.mp hrow).1, ?_⟩
        exact hall.nodup.sublist ((List.filter_sublist).map Prod.fst)
      obtain ⟨middle, hloop, hremoved⟩ := rows_removed hrows h
      refine ⟨middle, hremoved, ?_⟩
      simp only [RouteOp.expiredRows] at hloop
      simp only [RouteOp.apply, SessionRoutes.purgeExpiredDomainRoutes, exec_bind, exec_get, hloop,
        exec_pure]
      exact .done middle
  | clearDomainRoutes o =>
      obtain ⟨middle, hloop, hremoved⟩ := rows_removed (SessionRoutes.items_rows o st.session) h
      refine ⟨middle, hremoved, ?_⟩
      simp only [RouteOp.apply, SessionRoutes.clearDomainRoutes, exec_bind, exec_get, Order.keys,
        hloop]
      exact .done middle
  | clearSplit =>
      obtain ⟨middle, hexec, hremoved⟩ := clearSplit_removed h
      refine ⟨middle, hremoved, ?_⟩
      simp only [RouteOp.apply, hexec]
      exact .done middle
  | clear o =>
      obtain ⟨session, _, hexec⟩ :=
        SessionRoutes.clear_accepted o (RouteTableManager.guarded_accepted h)
      refine ⟨⟨session, run RouteTableManager.forget st.table (st.session.listed o)⟩,
        ⟨rfl, ?_⟩, ?_⟩
      · intro handle hrefs hnot
        exact absurd (mem_listed_of_references o hrefs) hnot
      · simp only [RouteOp.apply, hexec]
        exact .done _

end Operations

/-! ## Runs of operations -/

namespace OwnedRoutes

theorem step_sound (w : OwnedRoutes) (op : RouteOp) (h : w.Sound) (hkeeps : w.KeepsTracked op) :
    (w.step op).Sound := by
  obtain ⟨middle, hremoved, hadds⟩ := op.phases hkeeps.answered
  have hmiddle := removed_sound h hremoved hkeeps.answered
  have hnext : middle.table.nextHandle = w.st.table.nextHandle := by
    rw [hremoved.table, RouteTableManager.run_forget_nextHandle]
  have hzero := hkeeps.atZero
  rw [← RouteTableManager.run_forget_faults w.st.table (op.removes w.st), ← hremoved.table] at hzero
  have hafter := hadds.sound hmiddle hzero
  rw [hnext] at hafter
  exact hafter

theorem guarded_healthy {table : RouteTableManager} (h : table.os.Healthy) (handles : List Nat) :
    Guarded RouteTableManager.forget RouteTableManager.Answers table handles := by
  induction handles generalizing table with
  | nil => trivial
  | cons handle rest ih =>
      refine ⟨fun _ => h table.os.calls, ih ?_⟩
      unfold RouteTableManager.forget
      cases table.routes.get handle with
      | none => exact h
      | some cidr => exact RouteTableManager.healthy_delete h (osDest cidr) 0

/-- A later `clear` removes the referenced rows at interface 0. -/
theorem clearsAll_of_atZero {w : OwnedRoutes} (h : w.Tracked)
    (hzero : ∀ pair ∈ w.created, pair.2.ifIndex = 0) (o : Order) : w.ClearsAll o := by
  have hhealthy : w.st.healed.table.os.Healthy := fun _ => rfl
  have hguarded := guarded_healthy hhealthy (w.st.healed.session.listed o)
  obtain ⟨session, _, hexec⟩ :=
    SessionRoutes.clear_accepted o (RouteTableManager.guarded_accepted hguarded)
  intro pair hmem hafter
  rw [hexec, RouteTableManager.mem_run_forget_rows] at hafter
  obtain ⟨hpresent, hkept⟩ := hafter
  obtain ⟨hrefs, cidr, hget, hdest⟩ := h pair hmem hpresent
  have hlisted : pair.1 ∈ w.st.healed.session.listed o := mem_listed_of_references o hrefs
  apply hkept
  refine ⟨hzero pair hmem, ?_⟩
  rw [← hdest]
  exact RouteTableManager.mem_deleted hguarded hlisted hget

def start (table : RouteTableManager) : OwnedRoutes := { st := { table := table } }

theorem run_tracked (table : RouteTableManager)
    (hdrawn : ∀ handle, table.nextHandle ≤ handle → table.routes.get handle = none)
    {ops first : List RouteOp} (hguarded : Guarded step KeepsTracked (start table) ops)
    (hpre : first <+: ops) :
    (run step (start table) first).Tracked ∧
      ∀ o, (run step (start table) first).ClearsAll o := by
  have hnone : ∀ pair, pair ∉ (start table).created := fun _ => List.not_mem_nil
  have hstart : (start table).Sound :=
    ⟨hdrawn, fun pair hmem => absurd hmem (hnone pair), fun pair hmem => absurd hmem (hnone pair),
      fun pair hmem => absurd hmem (hnone pair)⟩
  have hsound := reached_invariant step KeepsTracked step_sound hstart hguarded hpre
  exact ⟨hsound.tracked, clearsAll_of_atZero hsound.tracked hsound.atZero⟩

def acceptedOps : List RouteOp :=
  [.installDomainRoute (ipv4 1 2 3 4) .bypass 42 0 100, .removeDomainRoute (ipv4 1 2 3 4),
    .addBypass (.host (ipv4 9 9 9 9)) 0]

theorem run_tracked_accepted :
    (run step (start {}) acceptedOps).Tracked ∧
      ∀ o, (run step (start {}) acceptedOps).ClearsAll o := by
  have hguarded : Guarded step KeepsTracked (start {}) acceptedOps :=
    ⟨⟨trivial, by decide⟩, ⟨by decide, by decide⟩, ⟨trivial, by decide⟩, trivial⟩
  apply run_tracked {} ?_ hguarded (List.prefix_refl acceptedOps)
  intro handle _
  exact get_empty handle

def refusingTable : RouteTableManager :=
  { os := { faults := fun call => if call = 1 then 5 else 0 } }

def refusedOps : List RouteOp :=
  [.installDomainRoute (ipv4 1 2 3 4) .bypass 42 7 100, .removeDomainRoute (ipv4 1 2 3 4)]

/-- A refused deletion leaves a row without a handle; and a row that has its handle outlives a
`clear` in which nothing fails, because the deletion names interface 0. -/
theorem refused_untracked :
    ¬(run step (start refusingTable) refusedOps).Tracked ∧
    ¬(run step (start {}) (refusedOps.take 1)).ClearsAll .identity := by
  constructor
  · intro htracked
    obtain ⟨_, cidr, hget, _⟩ :=
      htracked (1, ⟨osDest (.host (ipv4 1 2 3 4)), 7, 1⟩) (by decide) (by decide)
    have hnone : (run step (start refusingTable) refusedOps).st.table.routes.get 1 = none := by
      decide
    rw [hnone] at hget
    cases hget
  · intro hclears
    exact hclears (1, ⟨osDest (.host (ipv4 1 2 3 4)), 7, 1⟩) (by decide) (by decide)

end OwnedRoutes
end RouteGuard
