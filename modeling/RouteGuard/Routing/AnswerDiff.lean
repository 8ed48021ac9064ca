import RouteGuard.Routing.StoreHistory

/-! # What an answer reports

`apply_resolved` returns the entries it added and removed.  The entry an address
has afterwards is either reported as added, with the target of the rule, or it
has the target of the entry the address had before. -/
set_option autoImplicit false
namespace RouteGuard

open HashTable

namespace DomainRouteStore

def Lists (entries : List ResolvedIpEntry) (ip : IpAddr) : Prop := ∃ e ∈ entries, e.ip = ip

theorem not_lists_nil (ip : IpAddr) : ¬ Lists [] ip := by
  intro h
  obtain ⟨e, hmem, _⟩ := h
  cases hmem

theorem lists_cons (e : ResolvedIpEntry) (entries : List ResolvedIpEntry) (ip : IpAddr) :
    Lists (e :: entries) ip ↔ e.ip = ip ∨ Lists entries ip := by
  simp [Lists]

theorem lists_concat (entries : List ResolvedIpEntry) (e : ResolvedIpEntry) (ip : IpAddr) :
    Lists (entries ++ [e]) ip ↔ Lists entries ip ∨ e.ip = ip := by
  simp [Lists, or_and_right, exists_or]

section Records
variable (o : Order) (domain : String) (rule : DomainRuleEntry)

/-- Additions carry the rule's target and stand for a record; nothing is reported as removed. -/
structure Reports (records : List Resolved) (first diff : ApplyDiff) : Prop where
  removed : diff.removed = first.removed
  added : ∀ e ∈ diff.added, e ∈ first.added ∨
    e.target = rule.target ∧ ∃ record ∈ records, record.ip = e.ip

def Explained (before : DomainRouteStore) (state : ApplyDiff × DomainRouteStore) : Prop :=
  ∀ ip e, state.2.byIp.get ip = some e →
    Lists state.1.added ip ∧ e.target = rule.target ∨
    ¬ Lists state.1.added ip ∧ ∃ old, before.byIp.get ip = some old ∧ old.target = e.target

theorem applyRecord_reports_added (diff : ApplyDiff) (s : DomainRouteStore) (record : Resolved) :
    Reports rule [record] diff (applyRecord o domain rule (diff, s) record).1 := by
  cases hr : s.refreshable domain rule record.ip with
  | some existing =>
      simp only [applyRecord, hr]
      exact ⟨rfl, fun e he => Or.inl he⟩
  | none =>
      simp only [applyRecord, hr]
      refine ⟨rfl, ?_⟩
      intro e he
      rcases List.mem_append.mp he with hold | hnew
      · exact Or.inl hold
      · rw [List.mem_singleton] at hnew
        subst hnew
        exact Or.inr ⟨rfl, record, List.mem_singleton_self record, rfl⟩

/-- An entry after a record is new, or has the route of the entry that was there. -/
theorem applyRecord_origin (state : ApplyDiff × DomainRouteStore) (record : Resolved) {ip : IpAddr}
    {e : ResolvedIpEntry} (hget : (applyRecord o domain rule state record).2.byIp.get ip = some e) :
    Lists (applyRecord o domain rule state record).1.added ip ∧ e.target = rule.target ∨
    (Lists (applyRecord o domain rule state record).1.added ip ↔ Lists state.1.added ip) ∧
      ∃ old, state.2.byIp.get ip = some old ∧
        e.domain = old.domain ∧ e.pattern = old.pattern ∧ e.target = old.target := by
  obtain ⟨diff, s⟩ := state
  cases hr : s.refreshable domain rule record.ip with
  | some existing =>
      obtain ⟨hexisting, _⟩ := refreshable_some domain rule hr
      simp only [applyRecord, hr, get_insert] at hget ⊢
      refine Or.inr ⟨trivial, ?_⟩
      split at hget
      · rename_i hip
        subst hip
        cases hget
        exact ⟨existing, hexisting, rfl, rfl, rfl⟩
      · exact ⟨e, hget, rfl, rfl, rfl⟩
  | none =>
      simp only [applyRecord, hr, lists_concat] at hget ⊢
      have hindexed := enforceCaps_get o (s.indexEntry (record.entry domain rule)) hget
      rw [indexEntry_get] at hindexed
      split at hindexed
      · rename_i hip
        cases hindexed
        exact Or.inl ⟨Or.inr hip.symm, rfl⟩
      · rename_i hip
        have hne : ¬ (record.entry domain rule).ip = ip := fun heq => hip heq.symm
        exact Or.inr ⟨or_iff_left hne, e, hindexed, rfl, rfl, rfl⟩

theorem applyRecord_explained {before : DomainRouteStore} {state : ApplyDiff × DomainRouteStore}
    (h : Explained rule before state) (record : Resolved) :
    Explained rule before (applyRecord o domain rule state record) := by
  intro ip e hget
  rcases applyRecord_origin o domain rule state record hget with hnew | ⟨hlists, old, hold, hroute⟩
  · exact Or.inl hnew
  · have hbefore := h ip old hold
    rwa [← hroute.2.2, ← hlists] at hbefore

theorem applyRecords_explained (before : DomainRouteStore) (diff : ApplyDiff)
    (hdiff : diff.added = []) (records : List Resolved) :
    Explained rule before (applyRecords o domain rule (diff, before) records) := by
  refine applyRecords_keeps o domain rule (P := Explained rule before)
    (fun state record h => applyRecord_explained o domain rule h record) records (diff, before) ?_
  intro ip e hget
  refine Or.inr ⟨?_, e, hget, rfl⟩
  intro hcase
  obtain ⟨added, hadded, _⟩ := hcase
  rw [hdiff] at hadded
  cases hadded

theorem applyRecords_reports_added : ∀ (records : List Resolved)
    (state : ApplyDiff × DomainRouteStore),
    Reports rule records state.1 (applyRecords o domain rule state records).1 := by
  intro records
  induction records with
  | nil => intro state; exact ⟨rfl, fun e he => Or.inl he⟩
  | cons record rest ih =>
      intro state
      have hfirst := applyRecord_reports_added o domain rule state.1 state.2 record
      have hrest := ih (applyRecord o domain rule state record)
      refine ⟨hrest.removed.trans hfirst.removed, ?_⟩
      intro e he
      rcases hrest.added e he with hmiddle | ⟨htarget, other, hother, hip⟩
      · rcases hfirst.added e hmiddle with hold | ⟨htarget, other, hother, hip⟩
        · exact Or.inl hold
        · rw [List.mem_singleton] at hother
          subst hother
          exact Or.inr ⟨htarget, other, List.mem_cons_self, hip⟩
      · exact Or.inr ⟨htarget, other, List.mem_cons_of_mem _ hother, hip⟩

end Records

/-! ## A whole answer -/

section Answer
variable (o : Order) (now : Nat) {s : DomainRouteStore} (h : s.Indexed) (domain : String)
  {ips : List (IpAddr × Nat)} (rule : DomainRuleEntry) (hips : ips ≠ [])
include h hips

omit h in
theorem applyResolved_added {e : ResolvedIpEntry}
    (he : e ∈ (s.applyResolved o now domain ips rule).1.added) :
    e.target = rule.target ∧ e.ip ∈ ips.map Prod.fst := by
  rw [applyResolved_eq o now s domain ips rule hips] at he
  rcases (applyRecords_reports_added o _ rule _ _).added e he with hnone
    | ⟨htarget, record, hmem, hip⟩
  · cases hnone
  · obtain ⟨source, hsource, rfl⟩ := List.mem_map.mp hmem
    exact ⟨htarget, List.mem_map.mpr ⟨source, hsource, hip⟩⟩

theorem applyResolved_removed (ip : IpAddr) :
    Lists (s.applyResolved o now domain ips rule).1.removed ip ↔
      (∃ e, s.byIp.get ip = some e ∧ e.domain = normalizeDomain domain) ∧
        ip ∉ ips.map Prod.fst := by
  rw [applyResolved_eq o now s domain ips rule hips,
    (applyRecords_reports_added o _ rule _ _).removed, Lists]
  simp only [mem_removeIps, mem_dropped _ _ h]
  constructor
  · intro hcase
    obtain ⟨e, ⟨other, hdropped, hget⟩, hip⟩ := hcase
    have hkey := h.keyed other e hget
    rw [hip] at hkey
    subst hkey
    exact hdropped
  · intro hcase
    obtain ⟨⟨e, hget, hdomain⟩, hnot⟩ := hcase
    exact ⟨e, ⟨ip, ⟨⟨e, hget, hdomain⟩, hnot⟩, hget⟩, h.keyed ip e hget⟩

/-- An entry after the answer is an addition, or the address kept its target. -/
theorem applyResolved_explained {ip : IpAddr} {e : ResolvedIpEntry}
    (hget : (s.applyResolved o now domain ips rule).2.byIp.get ip = some e) :
    Lists (s.applyResolved o now domain ips rule).1.added ip ∧ e.target = rule.target ∨
    ¬ Lists (s.applyResolved o now domain ips rule).1.added ip ∧
      ¬ Lists (s.applyResolved o now domain ips rule).1.removed ip ∧
      ∃ old, s.byIp.get ip = some old ∧ old.target = e.target := by
  have hremoved := applyResolved_removed o now h domain rule hips ip
  rw [applyResolved_eq o now s domain ips rule hips] at hget hremoved ⊢
  rcases applyRecords_explained o (normalizeDomain domain) rule _ _ rfl _ ip e hget with
    hadded | ⟨hnot, old, hold, htarget⟩
  · exact Or.inl hadded
  · rw [removeIps_get] at hold
    split at hold
    · cases hold
    · rename_i hkept
      refine Or.inr ⟨hnot, ?_, old, hold, htarget⟩
      rw [hremoved, ← mem_dropped o _ h]
      exact hkept

end Answer

end DomainRouteStore
end RouteGuard
