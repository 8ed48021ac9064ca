import RouteGuard.Lib.GuardedRun
import RouteGuard.Platform.RouteSpecs

/-! # What clearing a session leaves when system calls can fail

A handle leaves the bookkeeping before the system is asked to delete its row.
`Accepted` is the answer that lets a loop go on; a loop all of whose deletions
are accepted empties the session. -/
set_option autoImplicit false
namespace RouteGuard

open HashTable Fallible GuardedRun

/-! ## One handle -/

/-- The next call answers success or `ERROR_NOT_FOUND`. -/
def Os.Accepts (os : Os) : Prop := os.faults os.calls = 0 ∨ os.faults os.calls = 1168

namespace RouteTableManager

def forget (table : RouteTableManager) (handle : Nat) : RouteTableManager :=
  match table.routes.get handle with
  | none => table
  | some cidr => { table with
      routes := table.routes.remove handle
      os := (table.os.delete (osDest cidr) 0).2 }

def Accepted (table : RouteTableManager) (handle : Nat) : Prop :=
  table.routes.get handle ≠ none → table.os.Accepts

section OneHandle
variable {table : RouteTableManager}

theorem osDelete_refused (h : ¬table.os.Accepts) (cidr : IpNet) :
    ∃ e, (exec (osDelete cidr) table).1 = .error e := by
  rw [Os.Accepts, not_or] at h
  have hstatus : (table.os.delete (osDest cidr) 0).1 = table.os.faults table.os.calls := by
    simp only [Os.delete, ne_eq, h.1, not_false_eq_true, if_true]
  refine ⟨.platform ("DeleteIpForwardEntry2 failed: " ++
    toString (table.os.faults table.os.calls)), ?_⟩
  simp only [osDelete, exec_bind, exec_get, exec_set, hstatus, ne_eq, h.1, h.2, not_false_eq_true,
    and_self, if_true, exec_throw]

end OneHandle

theorem removeRoute_guards : Guards forget Accepted removeRoute := by
  intro handle table
  cases hget : table.routes.get handle with
  | none =>
      refine ⟨fun _ => ?_, fun hrefused => ?_⟩
      · simp only [removeRoute, forget, exec_bind, exec_get, hget, exec_pure]
      · exact absurd (fun hsome => absurd hget hsome) hrefused
  | some cidr =>
      let rest : RouteTableManager := { table with routes := table.routes.remove handle }
      refine ⟨fun haccepted => ?_, fun hrefused => ?_⟩
      · have hcall : rest.os.Accepts := haccepted (by simp [hget])
        simp only [removeRoute, forget, exec_bind, exec_get, hget, exec_modify]
        exact osDelete_exec rest hcall cidr
      · have hcall : ¬rest.os.Accepts := fun h => hrefused fun _ => h
        simp only [removeRoute, exec_bind, exec_get, hget, exec_modify]
        exact osDelete_refused hcall cidr

/-! ## A list of handles -/

def deleted (table : RouteTableManager) : List Nat → List IpNet
  | [] => []
  | handle :: rest =>
      match table.routes.get handle with
      | none => deleted (table.forget handle) rest
      | some cidr =>
          if table.os.faults table.os.calls = 0 then
            osDest cidr :: deleted (table.forget handle) rest
          else deleted (table.forget handle) rest

section Handles
variable (table : RouteTableManager)

theorem forget_routes (handle n : Nat) :
    (table.forget handle).routes.get n = if n = handle then none else table.routes.get n := by
  unfold forget
  cases hget : table.routes.get handle with
  | none =>
      by_cases hn : n = handle
      · simp [hn, hget]
      · simp [hn]
  | some cidr => exact get_remove table.routes handle n

theorem run_forget_routes (handles : List Nat) (n : Nat) :
    (run forget table handles).routes.get n =
      if n ∈ handles then none else table.routes.get n := by
  induction handles generalizing table with
  | nil => simp
  | cons handle rest ih =>
      rw [run_cons, ih, forget_routes]
      by_cases hrest : n ∈ rest
      · simp [hrest]
      · by_cases hn : n = handle <;> simp [hn, hrest]

theorem mem_delete_rows (os : Os) (dest : IpNet) (row : OsRoute) :
    row ∈ (os.delete dest 0).2.rows ↔
      row ∈ os.rows ∧ ¬(os.faults os.calls = 0 ∧ row.dest = dest ∧ row.ifIndex = 0) := by
  unfold Os.delete
  by_cases hstatus : os.faults os.calls = 0
  · by_cases hany : os.rows.any (Os.keyed dest 0)
    · simp only [hstatus, hany, ne_eq, not_true_eq_false, if_false, if_true, List.mem_filter,
        Os.keyed, Bool.not_eq_true', decide_eq_false_iff_not, true_and]
    · have hnone : ∀ row ∈ os.rows, ¬(row.dest = dest ∧ row.ifIndex = 0) := by
        simpa [Os.keyed] using hany
      simp only [hstatus, ne_eq, not_true_eq_false, if_false, hany, true_and]
      exact ⟨fun hrow => ⟨hrow, hnone row hrow⟩, fun hrow => hrow.1⟩
  · simp [hstatus]

/-- A row stays unless it lies at interface 0 and its deletion reported success. -/
theorem mem_run_forget_rows (handles : List Nat) (row : OsRoute) :
    row ∈ (run forget table handles).os.rows ↔
      row ∈ table.os.rows ∧ ¬(row.ifIndex = 0 ∧ row.dest ∈ table.deleted handles) := by
  induction handles generalizing table with
  | nil => simp [deleted]
  | cons handle rest ih =>
      rw [run_cons, ih]
      cases hget : table.routes.get handle with
      | none =>
          have hforget : table.forget handle = table := by simp only [forget, hget]
          simp only [deleted, hget, hforget]
      | some cidr =>
          have hrows : row ∈ (table.forget handle).os.rows ↔ row ∈ table.os.rows ∧
              ¬(table.os.faults table.os.calls = 0 ∧ row.dest = osDest cidr ∧ row.ifIndex = 0) := by
            simp only [forget, hget]
            exact mem_delete_rows table.os (osDest cidr) row
          rw [hrows]
          simp only [deleted, hget]
          by_cases hstatus : table.os.faults table.os.calls = 0
          · simp only [hstatus, true_and, if_true, List.mem_cons]
            tauto
          · simp only [hstatus, false_and, not_false_eq_true, and_true, if_false]

end Handles

end RouteTableManager

/-! ## The routes of a session -/

namespace SessionRoutes

def listed (o : Order) (session : SessionRoutes) : List Nat :=
  (o.items session.domainRoutes).map (fun row => row.2.routeHandle) ++
    (session.splitHandles ++ session.wgHandles)

structure Cleared (session : SessionRoutes) : Prop where
  domain : ∀ ip, session.domainRoutes.get ip = none
  split : session.splitHandles = []
  wg : session.wgHandles = []

section Clearing

theorem forEach_onTable (handles : List Nat) (st : RouteState) :
    exec (forEach (fun handle => onTable (RouteTableManager.removeRoute handle)) handles) st =
      ((exec (forEach RouteTableManager.removeRoute handles) st.table).1,
        { st with
          table := (exec (forEach RouteTableManager.removeRoute handles) st.table).2 }) := by
  induction handles generalizing st with
  | nil => rfl
  | cons handle rest ih =>
      simp only [forEach, exec_bind, onTable, exec_zoom]
      cases exec (RouteTableManager.removeRoute handle) st.table with
      | mk result table =>
          cases result with
          | error e => rfl
          | ok _ =>
              have hrest := ih { st with table := table }
              simp only [onTable] at hrest
              simp only [hrest]

def forgetIp (st : RouteState) (ip : IpAddr) : RouteState :=
  match st.session.domainRoutes.get ip with
  | none => st
  | some entry =>
      { session := { st.session with domainRoutes := st.session.domainRoutes.remove ip }
        table := st.table.forget entry.routeHandle }

def AcceptedIp (st : RouteState) (ip : IpAddr) : Prop :=
  ∀ entry, st.session.domainRoutes.get ip = some entry → st.table.Accepted entry.routeHandle

theorem removeDomainRoute_guards : Guards forgetIp AcceptedIp removeDomainRoute := by
  intro ip st
  cases hget : st.session.domainRoutes.get ip with
  | none =>
      refine ⟨fun _ => ?_, fun hrefused => ?_⟩
      · simp only [removeDomainRoute, forgetIp, exec_bind, exec_get, hget, exec_pure]
      · apply absurd _ hrefused
        intro entry hentry
        rw [hget] at hentry
        cases hentry
  | some entry =>
      have hremove := RouteTableManager.removeRoute_guards entry.routeHandle st.table
      refine ⟨fun haccepted => ?_, fun hrefused => ?_⟩
      · have hentry := hremove.1 (haccepted entry hget)
        simp only [removeDomainRoute, forgetIp, exec_bind, exec_get, hget, modifySession,
          exec_modify, onTable, exec_zoom, hentry]
      · have hnot : ¬st.table.Accepted entry.routeHandle := by
          intro haccepted
          apply hrefused
          intro other hother
          rw [hget] at hother
          cases hother
          exact haccepted
        obtain ⟨e, hentry⟩ := hremove.2 hnot
        refine ⟨e, ?_⟩
        simp only [removeDomainRoute, exec_bind, exec_get, hget, modifySession,
          exec_modify, onTable, exec_zoom, hentry]

structure Rows (session : SessionRoutes) (rows : List (IpAddr × DomainRouteHandle)) : Prop where
  mem : ∀ row ∈ rows, session.domainRoutes.get row.1 = some row.2
  nodup : (rows.map Prod.fst).Nodup

theorem Rows.rest {session : SessionRoutes} {row : IpAddr × DomainRouteHandle}
    {rest : List (IpAddr × DomainRouteHandle)} (h : Rows session (row :: rest)) :
    Rows { session with domainRoutes := session.domainRoutes.remove row.1 } rest := by
  have hnodup := List.nodup_cons.mp h.nodup
  refine ⟨fun other hother => ?_, hnodup.2⟩
  have hne : other.1 ≠ row.1 := by
    intro heq
    exact hnodup.1 (heq ▸ List.mem_map_of_mem hother)
  rw [get_remove, if_neg hne]
  exact h.mem other (List.mem_cons_of_mem row hother)

theorem guarded_rows (rows : List (IpAddr × DomainRouteHandle)) {st : RouteState}
    (hrows : Rows st.session rows) :
    (Guarded forgetIp AcceptedIp st (rows.map Prod.fst) ↔
      Guarded RouteTableManager.forget RouteTableManager.Accepted st.table
        (rows.map fun row => row.2.routeHandle)) ∧
    run forgetIp st (rows.map Prod.fst) =
      { session := { st.session with
          domainRoutes := st.session.domainRoutes.removeAll (rows.map Prod.fst) }
        table := run RouteTableManager.forget st.table
          (rows.map fun row => row.2.routeHandle) } := by
  induction rows generalizing st with
  | nil => exact ⟨Iff.rfl, rfl⟩
  | cons row rest ih =>
      have hget := hrows.mem row List.mem_cons_self
      have hnext : forgetIp st row.1 =
          { session := { st.session with domainRoutes := st.session.domainRoutes.remove row.1 }
            table := st.table.forget row.2.routeHandle } := by
        simp only [forgetIp, hget]
      have hfirst : AcceptedIp st row.1 ↔ st.table.Accepted row.2.routeHandle := by
        refine ⟨fun h => h row.2 hget, fun h entry hentry => ?_⟩
        rw [hget] at hentry
        cases hentry
        exact h
      have hrest : Rows (forgetIp st row.1).session rest := by
        rw [hnext]
        exact hrows.rest
      obtain ⟨hguarded, hrun⟩ := ih hrest
      rw [hnext] at hguarded hrun
      simp only [List.map_cons, Guarded, run_cons, hfirst, hnext]
      exact ⟨and_congr_right fun _ => hguarded, hrun⟩

theorem items_rows (o : Order) (session : SessionRoutes) :
    Rows session (o.items session.domainRoutes) := by
  refine ⟨fun row hrow => (mem_order_items o _ row.1 row.2).mp hrow, ?_⟩
  exact order_keys_nodup o session.domainRoutes

theorem listed_guarded {st : RouteState} (o : Order) :
    Guarded RouteTableManager.forget RouteTableManager.Accepted st.table (st.session.listed o) ↔
      Guarded forgetIp AcceptedIp st (o.keys st.session.domainRoutes) ∧
      Guarded RouteTableManager.forget RouteTableManager.Accepted
        (run forgetIp st (o.keys st.session.domainRoutes)).table
        (st.session.splitHandles ++ st.session.wgHandles) := by
  obtain ⟨hguarded, hrun⟩ := guarded_rows _ (items_rows o st.session)
  rw [listed, guarded_append, ← hguarded]
  exact and_congr_right fun _ => by rw [Order.keys, hrun]

theorem clear_accepted {st : RouteState} (o : Order)
    (h : Guarded RouteTableManager.forget RouteTableManager.Accepted st.table
      (st.session.listed o)) :
    ∃ session, session.Cleared ∧ exec (clear o) st =
      (.ok ⟨⟩, ⟨session, run RouteTableManager.forget st.table (st.session.listed o)⟩) := by
  obtain ⟨hdomain, hothers⟩ := (listed_guarded o).mp h
  obtain ⟨hsplit, hwg⟩ := (guarded_append _ _ _ _ _).mp hothers
  have hloop := forEach_accepted removeDomainRoute_guards _ st hdomain
  obtain ⟨_, hrun⟩ := guarded_rows _ (items_rows o st.session)
  have hkeys : run forgetIp st (o.keys st.session.domainRoutes) = _ := hrun
  rw [hkeys] at hloop hsplit hwg
  refine ⟨{ domainRoutes := st.session.domainRoutes.removeAll (o.keys st.session.domainRoutes) },
    ⟨?_, rfl, rfl⟩, ?_⟩
  · intro ip
    rw [get_removeAll]
    by_cases hmem : ip ∈ o.keys st.session.domainRoutes
    · rw [if_pos hmem]
    · rw [if_neg hmem]
      rw [mem_order_keys, not_exists] at hmem
      cases hget : st.session.domainRoutes.get ip with
      | none => rfl
      | some entry => exact absurd hget (hmem entry)
  · have hsplitLoop := forEach_accepted RouteTableManager.removeRoute_guards _ _ hsplit
    have hwgLoop := forEach_accepted RouteTableManager.removeRoute_guards _ _ hwg
    simp only [clear, clearDomainRoutes, clearSplit, exec_bind, exec_get, hloop, modifySession,
      exec_modify, forEach_onTable, hsplitLoop, hwgLoop]
    rw [listed, run_append, run_append]
    rfl

theorem clear_refused {st : RouteState} (o : Order)
    (h : ¬Guarded RouteTableManager.forget RouteTableManager.Accepted st.table
      (st.session.listed o)) :
    ∃ e, (exec (clear o) st).1 = .error e := by
  by_cases hdomain : Guarded forgetIp AcceptedIp st (o.keys st.session.domainRoutes)
  · have hloop := forEach_accepted removeDomainRoute_guards _ st hdomain
    obtain ⟨_, hrun⟩ := guarded_rows _ (items_rows o st.session)
    have hkeys : run forgetIp st (o.keys st.session.domainRoutes) = _ := hrun
    have hothers := fun hrest => h ((listed_guarded o).mpr ⟨hdomain, hrest⟩)
    rw [hkeys] at hloop hothers
    rw [guarded_append] at hothers
    by_cases hsplit : Guarded RouteTableManager.forget RouteTableManager.Accepted
        (run RouteTableManager.forget st.table ((o.items st.session.domainRoutes).map
          fun row => row.2.routeHandle)) st.session.splitHandles
    · have hsplitLoop := forEach_accepted RouteTableManager.removeRoute_guards _ _ hsplit
      have hwg := fun hrest => hothers ⟨hsplit, hrest⟩
      obtain ⟨e, hwgLoop⟩ := forEach_refused RouteTableManager.removeRoute_guards _ _ hwg
      refine ⟨e, ?_⟩
      simp only [clear, clearDomainRoutes, clearSplit, exec_bind, exec_get, hloop, modifySession,
        exec_modify, forEach_onTable, hsplitLoop, hwgLoop]
    · obtain ⟨e, hsplitLoop⟩ := forEach_refused RouteTableManager.removeRoute_guards _ _ hsplit
      refine ⟨e, ?_⟩
      simp only [clear, clearDomainRoutes, clearSplit, exec_bind, exec_get, hloop, modifySession,
        exec_modify, forEach_onTable, hsplitLoop]
  · obtain ⟨e, hloop⟩ := forEach_refused removeDomainRoute_guards _ st hdomain
    refine ⟨e, ?_⟩
    rw [clear, exec_bind]
    have hfirst : (exec (clearDomainRoutes o) st).1 = .error e := hloop
    cases hexec : exec (clearDomainRoutes o) st with
    | mk result st' =>
        rw [hexec] at hfirst
        cases hfirst
        rfl

end Clearing

end SessionRoutes
end RouteGuard
