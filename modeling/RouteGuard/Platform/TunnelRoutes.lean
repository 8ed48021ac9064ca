import RouteGuard.Lib.Upsert
import RouteGuard.Platform.RouteOwnership
import RouteGuard.Platform.WgConf

/-! # The routes of a tunnel

`install_routes` of `tunnel.rs` and the rows it leaves in the system's table,
whether it comes to its end or is refused on the way. -/
set_option autoImplicit false
namespace RouteGuard

open Fallible Upsert

/-! ## The additions of a configuration -/

namespace WireGuardNtBackend

def installRoutes (ifIndex : Nat) (conf : ParsedConf) : RouteProg PUnit := do
  match conf.peers.head?.bind ParsedPeer.endpoint with
  | none => pure ⟨⟩
  | some ep => SessionRoutes.addEndpointBypass ep ifIndex
  forEach (fun peer => forEach (fun cidr =>
    if cidr.prefixLen = 0 then SessionRoutes.addDefaultRoute cidr ifIndex
    else SessionRoutes.addBypass cidr ifIndex) peer.allowedIps) conf.peers

def endpointAdditions (ifIndex : Nat) (conf : ParsedConf) : List Addition :=
  (conf.peers.head?.bind ParsedPeer.endpoint).toList.map fun ep => ⟨IpNet.host ep.ip, ifIndex, 0⟩

def allowedAddition (ifIndex : Nat) (cidr : IpNet) : Addition :=
  ⟨cidr, ifIndex, if cidr.prefixLen = 0 then 100 else 5⟩

def plannedAdditions (ifIndex : Nat) (conf : ParsedConf) : List Addition :=
  endpointAdditions ifIndex conf ++
    conf.peers.flatMap fun peer => peer.allowedIps.map (allowedAddition ifIndex)

theorem planned_ifIndex {conf : ParsedConf} {ifIndex : Nat} {row : OsRoute}
    (h : row ∈ (plannedAdditions ifIndex conf).map Addition.row) : row.ifIndex = ifIndex := by
  obtain ⟨addition, hmem, rfl⟩ := List.mem_map.mp h
  simp only [plannedAdditions, endpointAdditions, List.mem_append, List.mem_map,
    List.mem_flatMap] at hmem
  rcases hmem with ⟨ep, _, rfl⟩ | ⟨peer, _, cidr, _, rfl⟩
  · rfl
  · rfl

end WireGuardNtBackend

def SessionRoutes.addWg (addition : Addition) : RouteProg PUnit := do
  pushWg (← onTable (RouteTableManager.addRoute addition.cidr addition.ifIndex addition.metric))

theorem installRoutes_eq (ifIndex : Nat) (conf : ParsedConf) :
    WireGuardNtBackend.installRoutes ifIndex conf =
      forEach SessionRoutes.addWg (WireGuardNtBackend.plannedAdditions ifIndex conf) := by
  have hallowed : ∀ cidr, (if cidr.prefixLen = 0 then SessionRoutes.addDefaultRoute cidr ifIndex
      else SessionRoutes.addBypass cidr ifIndex) =
        SessionRoutes.addWg (WireGuardNtBackend.allowedAddition ifIndex cidr) := by
    intro cidr
    unfold WireGuardNtBackend.allowedAddition
    split
    · rfl
    · rfl
  rw [WireGuardNtBackend.plannedAdditions, forEach_append, forEach_flatMap]
  simp only [WireGuardNtBackend.installRoutes, hallowed, forEach_map]
  unfold WireGuardNtBackend.endpointAdditions
  cases conf.peers.head?.bind ParsedPeer.endpoint with
  | none => rfl
  | some ep =>
      simp only [Option.toList_some, List.map_cons, List.map_nil, forEach, bind_pure_unit]
      rfl

/-! ## What the system accepts of them -/

def OsRoute.key (row : OsRoute) : IpNet × Nat := (row.dest, row.ifIndex)

theorem mem_acceptedAdditions {faults : Nat → Nat} {call : Nat} {additions : List Addition}
    {addition : Addition} (h : addition ∈ acceptedAdditions faults call additions) :
    addition ∈ additions := by
  induction additions generalizing call with
  | nil => exact h
  | cons first rest ih =>
      rw [acceptedAdditions] at h
      split at h
      · rcases List.mem_cons.mp h with rfl | hrest
        · exact List.mem_cons_self
        · exact List.mem_cons_of_mem _ (ih hrest)
      · exact absurd h List.not_mem_nil

theorem create_rows (os : Os) (row : OsRoute) (h : os.faults os.calls = 0) :
    (os.create row).2.rows = upsert OsRoute.key os.rows row := by
  simp only [Os.create, h, if_true, upsert, Os.keyed, OsRoute.key, Prod.mk.injEq]

def RouteState.addedWg (st : RouteState) (addition : Addition) : RouteState where
  session := { st.session with wgHandles := st.session.wgHandles ++ [st.table.nextHandle] }
  table := st.table.added addition.cidr addition.ifIndex addition.metric

section Additions
variable {st : RouteState}

theorem addWg_answered (h : st.table.os.faults st.table.os.calls = 0) (addition : Addition) :
    exec (SessionRoutes.addWg addition) st = (.ok ⟨⟩, st.addedWg addition) := by
  simp only [RouteState.addedWg, SessionRoutes.addWg, SessionRoutes.pushWg,
    SessionRoutes.modifySession, SessionRoutes.onTable, exec_bind, exec_zoom, addRoute_answered h,
    exec_modify]

theorem addWg_refused (h : st.table.os.faults st.table.os.calls ≠ 0) (addition : Addition) :
    ∃ e, exec (SessionRoutes.addWg addition) st =
      (.error e, { st with table := st.table.refused }) := by
  obtain ⟨e, hrefused⟩ := addRoute_refused h addition.cidr addition.ifIndex addition.metric
  refine ⟨e, ?_⟩
  simp only [SessionRoutes.addWg, SessionRoutes.onTable, exec_bind, exec_zoom, hrefused]

/-- What a run of additions leaves, wherever it ends. -/
structure AdditionRun (additions : List Addition) (before after : RouteState)
    (result : Except RouteGuardError PUnit) : Prop where
  rows : after.table.os.rows = upsertAll OsRoute.key before.table.os.rows
    ((acceptedAdditions before.table.os.faults before.table.os.calls additions).map Addition.row)
  ends : result = .ok ⟨⟩ ↔
    acceptedAdditions before.table.os.faults before.table.os.calls additions = additions

theorem forEach_addWg (additions : List Addition) (st : RouteState) :
    AdditionRun additions st (exec (forEach SessionRoutes.addWg additions) st).2
      (exec (forEach SessionRoutes.addWg additions) st).1 := by
  induction additions generalizing st with
  | nil => exact ⟨rfl, by simp [forEach, acceptedAdditions]⟩
  | cons addition rest ih =>
      by_cases hanswer : st.table.os.faults st.table.os.calls = 0
      · rw [forEach, exec_bind_ok (addWg_answered hanswer addition)]
        obtain ⟨hrows, hends⟩ := ih (st.addedWg addition)
        refine ⟨?_, ?_⟩
        · rw [hrows, acceptedAdditions, if_pos hanswer, List.map_cons]
          have hfirst : (st.addedWg addition).table.os.rows =
              upsert OsRoute.key st.table.os.rows addition.row := create_rows _ _ hanswer
          rw [hfirst]
          rfl
        · rw [hends, acceptedAdditions, if_pos hanswer, List.cons_inj_right]
          rfl
      · obtain ⟨e, hrefused⟩ := addWg_refused hanswer addition
        rw [forEach, exec_bind_error hrefused]
        refine ⟨?_, ?_⟩
        · simp only [acceptedAdditions, hanswer, if_false, List.map_nil]
          rfl
        · simp only [acceptedAdditions, hanswer, if_false]
          constructor
          · intro hok
            cases hok
          · intro hnil
            cases hnil

theorem installRoutes_installed (ifIndex : Nat) (conf : ParsedConf) (st : RouteState) :
    AdditionRun (WireGuardNtBackend.plannedAdditions ifIndex conf) st
      (exec (WireGuardNtBackend.installRoutes ifIndex conf) st).2
      (exec (WireGuardNtBackend.installRoutes ifIndex conf) st).1 := by
  rw [installRoutes_eq]
  exact forEach_addWg _ st

end Additions

end RouteGuard
