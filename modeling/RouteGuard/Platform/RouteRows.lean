import RouteGuard.Platform.RouteOwnership

/-! # Rows of the system's table and live handles

The manager keeps the prefix of a handle, and the system keys a row by prefix
and interface.  `made` is kept beside the manager for the proofs: the row of
every addition that returned a handle. -/
set_option autoImplicit false
namespace RouteGuard

open HashTable Fallible GuardedRun

inductive RouteCall where
  | addRoute (cidr : IpNet) (ifIndex metric : Nat)
  | removeRoute (handle : Nat)
deriving DecidableEq, Repr

def Os.Has (os : Os) (dest : IpNet) (ifIndex : Nat) : Prop :=
  ∃ row ∈ os.rows, row.dest = dest ∧ row.ifIndex = ifIndex

instance (os : Os) (dest : IpNet) (ifIndex : Nat) : Decidable (os.Has dest ifIndex) :=
  inferInstanceAs (Decidable (∃ row ∈ os.rows, row.dest = dest ∧ row.ifIndex = ifIndex))

structure RowLog where
  table : RouteTableManager
  made : List (Nat × OsRoute) := []

namespace RowLog

def step (w : RowLog) : RouteCall → RowLog
  | .addRoute cidr ifIndex metric =>
      match exec (RouteTableManager.addRoute cidr ifIndex metric) w.table with
      | (.ok handle, table) => ⟨table, w.made ++ [(handle, ⟨osDest cidr, ifIndex, metric⟩)]⟩
      | (.error _, table) => ⟨table, w.made⟩
  | .removeRoute handle =>
      { w with table := (exec (RouteTableManager.removeRoute handle) w.table).2 }

def Returns (w : RowLog) : RouteCall → Prop
  | .addRoute cidr ifIndex metric =>
      (exec (RouteTableManager.addRoute cidr ifIndex metric) w.table).1.isOk
  | .removeRoute handle => (exec (RouteTableManager.removeRoute handle) w.table).1.isOk

instance (w : RowLog) (call : RouteCall) : Decidable (w.Returns call) := by
  cases call <;> exact inferInstanceAs (Decidable (_ = true))

def new (nextHandle : Nat) (os : Os) : RowLog := ⟨⟨nextHandle, ∅, os⟩, []⟩

/-! ## The promise -/

def Made (w : RowLog) (dest : IpNet) (ifIndex : Nat) : Prop :=
  ∃ pair ∈ w.made, pair.2.dest = dest ∧ pair.2.ifIndex = ifIndex

def Live (w : RowLog) (handle : Nat) : Prop := w.table.routes.get handle ≠ none

/-- A live handle was created for the prefix on the interface. -/
def Owned (w : RowLog) (dest : IpNet) (ifIndex : Nat) : Prop :=
  ∃ pair ∈ w.made, w.Live pair.1 ∧ pair.2.dest = dest ∧ pair.2.ifIndex = ifIndex

/-- Of what the manager created, the system has the rows of the live handles; the rest of its
table is as at the start. -/
structure Mirrors (start : Os) (w : RowLog) : Prop where
  made : ∀ dest ifIndex, w.Made dest ifIndex → (w.table.os.Has dest ifIndex ↔ w.Owned dest ifIndex)
  rest : ∀ dest ifIndex, ¬ w.Made dest ifIndex →
    (w.table.os.Has dest ifIndex ↔ start.Has dest ifIndex)

def Shared (w : RowLog) (pair : Nat × OsRoute) : Prop :=
  ∃ other ∈ w.made, w.Live other.1 ∧ other.1 ≠ pair.1 ∧ other.2.dest = pair.2.dest ∧
    other.2.ifIndex = pair.2.ifIndex

/-- The deletion, which is for interface 0, does what the removal of the handle asks for. -/
def Aimed (w : RowLog) : RouteCall → Prop
  | .addRoute _ _ _ => True
  | .removeRoute handle => ∀ pair ∈ w.made, pair.1 = handle → w.Live handle →
      (pair.2.ifIndex = 0 ∧ ¬ w.Shared pair) ∨
      (pair.2.ifIndex ≠ 0 ∧ w.Shared pair ∧ ¬ w.table.os.Has pair.2.dest 0)

/-! ## What the log keeps -/

structure Recorded (w : RowLog) : Prop where
  answers : ∀ call, w.table.os.faults call ≠ 1168
  known : ∀ handle cidr, w.table.routes.get handle = some cidr →
    ∃ row, (handle, row) ∈ w.made ∧ row.dest = osDest cidr
  unique : ∀ handle row row', (handle, row) ∈ w.made → (handle, row') ∈ w.made → row = row'
  fresh : ∀ pair ∈ w.made, pair.1 < w.table.nextHandle

section Steps
variable {w : RowLog}

theorem step_addRoute {cidr : IpNet} {ifIndex metric : Nat}
    (hok : w.Returns (.addRoute cidr ifIndex metric)) :
    w.table.os.faults w.table.os.calls = 0 ∧
    w.step (.addRoute cidr ifIndex metric) = ⟨w.table.added cidr ifIndex metric,
      w.made ++ [(w.table.nextHandle, ⟨osDest cidr, ifIndex, metric⟩)]⟩ := by
  by_cases hstatus : w.table.os.faults w.table.os.calls = 0
  · exact ⟨hstatus, by simp only [step, addRoute_answered hstatus]⟩
  · obtain ⟨e, hrefused⟩ := addRoute_refused hstatus cidr ifIndex metric
    simp [Returns, hrefused, Except.isOk, Except.toBool] at hok

theorem step_dead {handle : Nat} (hdead : ¬ w.Live handle) : w.step (.removeRoute handle) = w := by
  have hnone : w.table.routes.get handle = none := not_not.mp hdead
  have haccepted : w.table.Accepted handle := fun hsome => absurd hnone hsome
  simp only [step, (RouteTableManager.removeRoute_guards handle w.table).1 haccepted,
    RouteTableManager.forget, hnone]

/-- The status 1168 stands for a missing row only, so an accepted deletion has taken place. -/
theorem step_live (hw : w.Recorded) {handle : Nat} {cidr : IpNet}
    (hget : w.table.routes.get handle = some cidr) (hok : w.Returns (.removeRoute handle)) :
    w.table.os.faults w.table.os.calls = 0 ∧
    w.step (.removeRoute handle) = ⟨{ w.table with
      routes := w.table.routes.remove handle
      os := (w.table.os.delete (osDest cidr) 0).2 }, w.made⟩ := by
  obtain ⟨hdone, hfailed⟩ := RouteTableManager.removeRoute_guards handle w.table
  by_cases haccepted : w.table.Accepted handle
  · have hstatus := (haccepted (by simp [hget])).resolve_right (hw.answers _)
    refine ⟨hstatus, ?_⟩
    simp only [step, hdone haccepted, RouteTableManager.forget, hget]
  · obtain ⟨e, hrefused⟩ := hfailed haccepted
    simp [Returns, hrefused, Except.isOk, Except.toBool] at hok

theorem has_create {os : Os} (hstatus : os.faults os.calls = 0) (row : OsRoute) (dest : IpNet)
    (ifIndex : Nat) : (os.create row).2.Has dest ifIndex ↔
      os.Has dest ifIndex ∨ row.dest = dest ∧ row.ifIndex = ifIndex := by
  simp only [Os.Has, Os.create, hstatus, if_true, List.mem_append, List.mem_filter,
    List.mem_singleton, Os.keyed, Bool.not_eq_true', decide_eq_false_iff_not]
  constructor
  · intro hcase
    obtain ⟨r, ⟨hmem, _⟩ | rfl, hkey⟩ := hcase
    · exact Or.inl ⟨r, hmem, hkey⟩
    · exact Or.inr hkey
  · intro hcase
    by_cases hnew : row.dest = dest ∧ row.ifIndex = ifIndex
    · exact ⟨row, Or.inr rfl, hnew⟩
    · obtain ⟨r, hmem, rfl, rfl⟩ := hcase.resolve_right hnew
      exact ⟨r, Or.inl ⟨hmem, fun hsame => hnew ⟨hsame.1.symm, hsame.2.symm⟩⟩, rfl, rfl⟩

theorem has_delete {os : Os} (hstatus : os.faults os.calls = 0) (target dest : IpNet)
    (ifIndex : Nat) : (os.delete target 0).2.Has dest ifIndex ↔
      os.Has dest ifIndex ∧ ¬ (dest = target ∧ ifIndex = 0) := by
  simp only [Os.Has, RouteTableManager.mem_delete_rows, hstatus, true_and]
  constructor
  · intro hcase
    obtain ⟨row, ⟨hmem, hkept⟩, rfl, rfl⟩ := hcase
    exact ⟨⟨row, hmem, rfl, rfl⟩, hkept⟩
  · intro hcase
    obtain ⟨⟨row, hmem, rfl, rfl⟩, hkept⟩ := hcase
    exact ⟨row, ⟨hmem, hkept⟩, rfl, rfl⟩

end Steps

/-! ## One call -/

section Added
variable {w : RowLog} (hw : w.Recorded) (cidr : IpNet) (ifIndex metric : Nat)
include hw

def afterAdd (w : RowLog) (cidr : IpNet) (ifIndex metric : Nat) : RowLog :=
  ⟨w.table.added cidr ifIndex metric,
    w.made ++ [(w.table.nextHandle, ⟨osDest cidr, ifIndex, metric⟩)]⟩

omit hw in
theorem afterAdd_routes (handle : Nat) :
    (w.afterAdd cidr ifIndex metric).table.routes.get handle =
      if handle = w.table.nextHandle then some cidr else w.table.routes.get handle :=
  get_insert w.table.routes w.table.nextHandle handle cidr

theorem afterAdd_recorded : (w.afterAdd cidr ifIndex metric).Recorded := by
  refine ⟨hw.answers, ?_, ?_, ?_⟩
  · intro handle cidr' hget
    rw [afterAdd_routes] at hget
    split at hget
    · rename_i hnew
      cases hget
      exact ⟨_, List.mem_append_right _ (List.mem_singleton.mpr (by rw [hnew])), rfl⟩
    · obtain ⟨row, hmem, hdest⟩ := hw.known handle cidr' hget
      exact ⟨row, List.mem_append_left _ hmem, hdest⟩
  · intro handle row row' hrow hrow'
    simp only [afterAdd, List.mem_append, List.mem_singleton, Prod.mk.injEq] at hrow hrow'
    rcases hrow with hold | ⟨hhandle, rfl⟩
    · have hlt := hw.fresh _ hold
      rcases hrow' with hold' | ⟨hhandle', _⟩
      · exact hw.unique handle row row' hold hold'
      · simp only at hlt
        omega
    · rcases hrow' with hold' | ⟨_, rfl⟩
      · have hlt := hw.fresh _ hold'
        simp only at hlt
        omega
      · rfl
  · intro pair hmem
    simp only [afterAdd, List.mem_append, List.mem_singleton] at hmem
    show pair.1 < w.table.nextHandle + 1
    rcases hmem with hold | rfl
    · have hlt := hw.fresh pair hold
      omega
    · exact Nat.lt_succ_self _

omit hw in
theorem afterAdd_made (dest : IpNet) (i : Nat) : (w.afterAdd cidr ifIndex metric).Made dest i ↔
    w.Made dest i ∨ osDest cidr = dest ∧ ifIndex = i := by
  simp [Made, afterAdd, or_and_right, exists_or]

theorem afterAdd_owned (dest : IpNet) (i : Nat) : (w.afterAdd cidr ifIndex metric).Owned dest i ↔
    w.Owned dest i ∨ osDest cidr = dest ∧ ifIndex = i := by
  have hlive : ∀ pair ∈ w.made,
      ((w.afterAdd cidr ifIndex metric).Live pair.1 ↔ w.Live pair.1) := by
    intro pair hmem
    have hlt := hw.fresh pair hmem
    rw [Live, afterAdd_routes, if_neg (by omega)]
    rfl
  have hnew : (w.afterAdd cidr ifIndex metric).Live w.table.nextHandle := by
    rw [Live, afterAdd_routes, if_pos rfl]
    exact Option.some_ne_none cidr
  constructor
  · intro hcase
    obtain ⟨pair, hmem, hlivePair, hkey⟩ := hcase
    rcases List.mem_append.mp hmem with hold | hlast
    · exact Or.inl ⟨pair, hold, (hlive pair hold).mp hlivePair, hkey⟩
    · rw [List.mem_singleton] at hlast
      subst hlast
      exact Or.inr hkey
  · intro hcase
    rcases hcase with ⟨pair, hold, hlivePair, hkey⟩ | hkey
    · exact ⟨pair, List.mem_append_left _ hold, (hlive pair hold).mpr hlivePair, hkey⟩
    · exact ⟨_, List.mem_append_right _ (List.mem_singleton_self _), hnew, hkey⟩

theorem afterAdd_mirrors (start : Os) (hstatus : w.table.os.faults w.table.os.calls = 0)
    (hm : Mirrors start w) : Mirrors start (w.afterAdd cidr ifIndex metric) := by
  have hhas : ∀ dest i, (w.afterAdd cidr ifIndex metric).table.os.Has dest i ↔
      w.table.os.Has dest i ∨ osDest cidr = dest ∧ ifIndex = i :=
    has_create hstatus ⟨osDest cidr, ifIndex, metric⟩
  constructor
  · intro dest i hmade
    rw [hhas, afterAdd_owned hw]
    rw [afterAdd_made] at hmade
    by_cases hkey : osDest cidr = dest ∧ ifIndex = i
    · simp [hkey]
    · rw [hm.made dest i (hmade.resolve_right hkey)]
  · intro dest i hnot
    rw [afterAdd_made, not_or] at hnot
    rw [hhas, hm.rest dest i hnot.1]
    simp [hnot.2]

end Added

section Removed
variable {w : RowLog} (hw : w.Recorded) {handle : Nat} {row : OsRoute} {cidr : IpNet}
  (hget : w.table.routes.get handle = some cidr) (hrow : (handle, row) ∈ w.made)

def afterRemove (w : RowLog) (handle : Nat) (dest : IpNet) : RowLog :=
  ⟨{ w.table with
      routes := w.table.routes.remove handle
      os := (w.table.os.delete dest 0).2 }, w.made⟩

theorem afterRemove_live (dest : IpNet) (other : Nat) :
    (w.afterRemove handle dest).Live other ↔ other ≠ handle ∧ w.Live other := by
  rw [Live, show (w.afterRemove handle dest).table.routes = w.table.routes.remove handle from rfl,
    get_remove]
  by_cases hother : other = handle <;> simp [hother, Live]

include hw in
theorem afterRemove_recorded (dest : IpNet) : (w.afterRemove handle dest).Recorded := by
  refine ⟨?_, ?_, hw.unique, hw.fresh⟩
  · show ∀ call, (w.table.os.delete dest 0).2.faults call ≠ 1168
    rw [RouteTableManager.delete_faults]
    exact hw.answers
  · intro other cidr' hother
    refine hw.known other cidr' ?_
    rw [show (w.afterRemove handle dest).table.routes = w.table.routes.remove handle from rfl,
      get_remove] at hother
    split at hother
    · cases hother
    · exact hother

include hw hrow in
/-- The removed handle owned one row; others may own the same. -/
theorem afterRemove_owned (target dest : IpNet) (i : Nat) :
    (w.afterRemove handle target).Owned dest i ↔
      w.Owned dest i ∧ (row.dest = dest ∧ row.ifIndex = i → w.Shared (handle, row)) := by
  have hrest : (w.afterRemove handle target).Owned dest i ↔ ∃ other ∈ w.made,
      (other.1 ≠ handle ∧ w.Live other.1) ∧ other.2.dest = dest ∧ other.2.ifIndex = i := by
    simp only [Owned, afterRemove_live]
    rfl
  rw [hrest]
  constructor
  · intro hcase
    obtain ⟨other, hmem, ⟨hne, hlive⟩, hdest, hif⟩ := hcase
    refine ⟨⟨other, hmem, hlive, hdest, hif⟩, fun hkey => ?_⟩
    exact ⟨other, hmem, hlive, hne, hdest.trans hkey.1.symm, hif.trans hkey.2.symm⟩
  · intro hcase
    obtain ⟨⟨other, hmem, hlive, hdest, hif⟩, hshared⟩ := hcase
    by_cases hne : other.1 = handle
    · have hsame : other.2 = row := hw.unique handle other.2 row (hne ▸ hmem) hrow
      obtain ⟨third, hthird, hliveThird, hneThird, hdestThird, hifThird⟩ :=
        hshared ⟨hsame ▸ hdest, hsame ▸ hif⟩
      exact ⟨third, hthird, ⟨hneThird, hliveThird⟩, hdestThird.trans (hsame ▸ hdest),
        hifThird.trans (hsame ▸ hif)⟩
    · exact ⟨other, hmem, ⟨hne, hlive⟩, hdest, hif⟩

include hw hget hrow in
theorem afterRemove_mirrors_iff {start : Os}
    (hstatus : w.table.os.faults w.table.os.calls = 0) (hm : Mirrors start w) :
    Mirrors start (w.afterRemove handle row.dest) ↔
      (row.ifIndex = 0 ∧ ¬ w.Shared (handle, row)) ∨
      (row.ifIndex ≠ 0 ∧ w.Shared (handle, row) ∧ ¬ w.table.os.Has row.dest 0) := by
  have hhas : ∀ dest i, (w.afterRemove handle row.dest).table.os.Has dest i ↔
      w.table.os.Has dest i ∧ ¬ (dest = row.dest ∧ i = 0) := has_delete hstatus row.dest
  have howned := afterRemove_owned hw hrow row.dest
  have hmade : ∀ dest i, (w.afterRemove handle row.dest).Made dest i ↔ w.Made dest i :=
    fun _ _ => Iff.rfl
  have hmadeRow : w.Made row.dest row.ifIndex := ⟨_, hrow, rfl, rfl⟩
  have hownedRow : w.Owned row.dest row.ifIndex :=
    ⟨_, hrow, by rw [Live, hget]; exact Option.some_ne_none cidr, rfl, rfl⟩
  constructor
  · intro hafter
    have hrowAfter := hafter.made _ _ ((hmade _ _).mpr hmadeRow)
    rw [hhas, howned] at hrowAfter
    by_cases hzero : row.ifIndex = 0
    · refine Or.inl ⟨hzero, fun hshared => ?_⟩
      exact (hrowAfter.mpr ⟨hownedRow, fun _ => hshared⟩).2 ⟨rfl, hzero⟩
    · refine Or.inr ⟨hzero, ?_, fun hother => ?_⟩
      · have hstill := (hm.made _ _ hmadeRow).mpr hownedRow
        exact (hrowAfter.mp ⟨hstill, fun hkey => hzero hkey.2⟩).2 ⟨rfl, rfl⟩
      · -- the row on interface 0 is gone, whoever owned it
        have hgone : ¬ (w.afterRemove handle row.dest).table.os.Has row.dest 0 := by
          rw [hhas]
          exact fun hcase => hcase.2 ⟨rfl, rfl⟩
        by_cases hmadeZero : w.Made row.dest 0
        · refine hgone ((hafter.made _ _ ((hmade _ _).mpr hmadeZero)).mpr ?_)
          rw [howned]
          exact ⟨(hm.made _ _ hmadeZero).mp hother, fun hkey => absurd hkey.2 hzero⟩
        · exact hgone ((hafter.rest _ _ hmadeZero).mpr ((hm.rest _ _ hmadeZero).mp hother))
  · intro haimed
    constructor
    · intro dest i hdest
      rw [hhas, howned, hm.made dest i hdest]
      rcases haimed with ⟨hzero, hnot⟩ | ⟨_, hshared, hnone⟩
      · refine and_congr_right fun _ => ⟨fun hne hkey => ?_, fun himp hkey => ?_⟩
        · exact absurd ⟨hkey.1.symm, hkey.2.symm.trans hzero⟩ hne
        · exact hnot (himp ⟨hkey.1.symm, hzero.trans hkey.2.symm⟩)
      · refine and_congr_right fun hown => ⟨fun _ _ => hshared, fun _ hkey => ?_⟩
        obtain ⟨rfl, rfl⟩ := hkey
        exact hnone ((hm.made _ _ hdest).mpr hown)
    · intro dest i hdest
      rw [hhas, ← hm.rest dest i hdest]
      refine and_iff_left_of_imp fun hother hkey => ?_
      obtain ⟨rfl, rfl⟩ := hkey
      rcases haimed with ⟨hzero, _⟩ | ⟨_, _, hnone⟩
      · exact hdest ⟨_, hrow, rfl, hzero⟩
      · exact hnone hother

end Removed

/-! ## Runs -/

theorem step_recorded (w : RowLog) (call : RouteCall) (hw : w.Recorded) (hok : w.Returns call) :
    (w.step call).Recorded := by
  cases call with
  | addRoute cidr ifIndex metric =>
      rw [(step_addRoute hok).2]
      exact afterAdd_recorded hw cidr ifIndex metric
  | removeRoute handle =>
      cases hget : w.table.routes.get handle with
      | none =>
          rw [step_dead (not_not.mpr hget)]
          exact hw
      | some cidr =>
          rw [(step_live hw hget hok).2]
          exact afterRemove_recorded hw (osDest cidr)

theorem step_mirrors_iff (start : Os) (w : RowLog) (call : RouteCall) (hw : w.Recorded)
    (hm : Mirrors start w) (hok : w.Returns call) :
    Mirrors start (w.step call) ↔ w.Aimed call := by
  cases call with
  | addRoute cidr ifIndex metric =>
      obtain ⟨hstatus, hstep⟩ := step_addRoute hok
      rw [hstep]
      exact iff_of_true (afterAdd_mirrors hw cidr ifIndex metric start hstatus hm) trivial
  | removeRoute handle =>
      cases hget : w.table.routes.get handle with
      | none =>
          rw [step_dead (not_not.mpr hget)]
          exact iff_of_true hm fun _ _ _ hlive => absurd hget hlive
      | some cidr =>
          obtain ⟨hstatus, hstep⟩ := step_live hw hget hok
          obtain ⟨row, hrow, hdest⟩ := hw.known handle cidr hget
          rw [hstep, ← hdest]
          refine (afterRemove_mirrors_iff hw hget hrow hstatus hm).trans ?_
          constructor
          · intro haimed pair hmem hpair _
            obtain ⟨_, row'⟩ := pair
            cases hpair
            cases hw.unique _ row row' hrow hmem
            exact haimed
          · intro haimed
            exact haimed (handle, row) hrow rfl (by rw [Live, hget]; exact Option.some_ne_none cidr)

/-- In a run whose calls all return `Ok` the system's table mirrors the live handles throughout
exactly when the row of every removed handle is the one its removal deletes. -/
theorem run_mirrors_iff (start : Os) (hanswers : ∀ call, start.faults call ≠ 1168) (first : Nat)
    (calls : List RouteCall) (hok : Guarded step Returns (new first start) calls) :
    (∀ front, front <+: calls → Mirrors start (run step (new first start) front)) ↔
      Guarded step Aimed (new first start) calls := by
  refine holds_throughout_iff_of_assumed step Aimed (P := Mirrors start) (Q := Recorded)
    step_recorded (step_mirrors_iff start) calls (new first start) hok ?_ ?_
  · refine ⟨hanswers, ?_, ?_, ?_⟩ <;> simp [new]
  · constructor <;> simp [new, Made]

theorem run_mirrors_iff_zero :
    (∀ front, front <+: [.addRoute SessionRoutes.defaultV4 0 1, .removeRoute 1] →
      Mirrors {} (run step (new 1 {}) front)) ↔
    Guarded step Aimed (new 1 {}) [.addRoute SessionRoutes.defaultV4 0 1, .removeRoute 1] :=
  run_mirrors_iff {} (fun _ => Nat.zero_ne_add_one 1167) 1 _ (by decide)

/-- The two default routes of split tunnelling; removing the first one leaves both rows. -/
theorem dualDefault_kept :
    Guarded step Returns (new 1 {}) [.addRoute SessionRoutes.defaultV4 5 1,
      .addRoute SessionRoutes.defaultV4 7 100, .removeRoute 1] ∧
    ¬ Mirrors {} (run step (new 1 {}) [.addRoute SessionRoutes.defaultV4 5 1,
      .addRoute SessionRoutes.defaultV4 7 100, .removeRoute 1]) := by
  refine ⟨by decide, fun hm => ?_⟩
  have hrow := hm.made (osDest SessionRoutes.defaultV4) 5 (by unfold Made; decide)
  exact absurd (hrow.mp (by decide)) (by unfold Owned Live; decide)

end RowLog
end RouteGuard
