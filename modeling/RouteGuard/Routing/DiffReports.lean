import RouteGuard.Routing.AnswerDiff

/-! # Whether the reported diff is the change of the store

The caller of `apply_resolved` installs and removes routes by the diff alone.
The record loop reports every entry it writes; what `enforce_caps` takes in the
middle of the batch is in no list. -/
set_option autoImplicit false
namespace RouteGuard

open HashTable

namespace DomainRouteStore

/-! ## Stores that any answers lead to -/

def Keyed (s : DomainRouteStore) : Prop := ∀ ip e, s.byIp.get ip = some e → e.ip = ip

/-- What the operations lead to, answers without a record included. -/
inductive Served : DomainRouteStore → Prop
  | first {s : DomainRouteStore} (h : Initial s) : Served s
  | step {s : DomainRouteStore} (h : Served s) (call : Call) : Served (s.step call)
  | answer {s : DomainRouteStore} (h : Served s) (o : Order) (now : Nat) (domain : String)
      (ips : List (IpAddr × Nat)) (rule : DomainRuleEntry) :
      Served (s.applyResolved o now domain ips rule).2

section Keys
variable {s t : DomainRouteStore}

theorem Keyed.of_held (h : Keyed s) (ht : ∀ ip e, t.byIp.get ip = some e → s.byIp.get ip = some e) :
    Keyed t := fun ip e hget => h ip e (ht ip e hget)

theorem Keyed.removeIps (h : Keyed s) (ips : List IpAddr) : Keyed (s.removeIps ips).2 := by
  refine h.of_held ?_
  intro ip e hget
  rw [removeIps_get] at hget
  split at hget
  · cases hget
  · exact hget

theorem Keyed.insertEntry (h : Keyed s) (o : Order) (entry : ResolvedIpEntry) :
    Keyed (s.insertEntry o entry) := by
  intro ip e hget
  have hindexed := enforceCaps_get o (s.indexEntry entry) hget
  rw [indexEntry_get] at hindexed
  split at hindexed
  · rename_i hip
    cases hindexed
    exact hip.symm
  · exact h ip e hindexed

end Keys

/-! ## One record -/

section Record
variable (o : Order) (domain : String) (rule : DomainRuleEntry)

/-- The insertion of the record makes `enforce_caps` take the address. -/
def Evicts (s : DomainRouteStore) (record : Resolved) (ip : IpAddr) : Prop :=
  s.refreshable domain rule record.ip = none ∧
  (s.indexEntry (record.entry domain rule)).byIp.get ip ≠ none ∧
  (s.insertEntry o (record.entry domain rule)).byIp.get ip = none

/-- Under `Keyed` a refreshed entry is the entry the record would write. -/
theorem refreshed_entry {s : DomainRouteStore} (h : Keyed s) {record : Resolved}
    {existing : ResolvedIpEntry} (hr : s.refreshable domain rule record.ip = some existing) :
    { existing with ttlSecs := record.ttl, expiresAt := record.expiresAt } =
      record.entry domain rule := by
  obtain ⟨hget, hdomain, hpattern, htarget⟩ := refreshable_some domain rule hr
  have hip := h record.ip existing hget
  rw [Resolved.entry, ← hip, ← hdomain, ← hpattern, ← htarget]

/-- A record writes its entry and touches no other address, evictions apart. -/
theorem applyRecord_unless_evicted {s : DomainRouteStore} (h : Keyed s) (diff : ApplyDiff)
    (record : Resolved) {ip : IpAddr} (hkept : ¬ Evicts o domain rule s record ip) :
    (applyRecord o domain rule (diff, s) record).2.byIp.get ip =
      if ip = record.ip then some (record.entry domain rule) else s.byIp.get ip := by
  cases hr : s.refreshable domain rule record.ip with
  | some existing =>
      simp only [applyRecord, hr, refreshed_entry domain rule h hr]
      exact get_insert s.byIp record.ip ip _
  | none =>
      simp only [applyRecord, hr]
      have hwritten := indexEntry_get s (record.entry domain rule) ip
      rw [show (record.entry domain rule).ip = record.ip from rfl] at hwritten
      rw [← hwritten]
      cases hafter : (s.insertEntry o (record.entry domain rule)).byIp.get ip with
      | some e => exact (enforceCaps_get o _ hafter).symm
      | none =>
          by_contra hne
          exact hkept ⟨hr, fun hnone => hne hnone.symm, hafter⟩

theorem applyRecord_evicted {s : DomainRouteStore} (diff : ApplyDiff) {record : Resolved}
    {ip : IpAddr} (hevicted : Evicts o domain rule s record ip) :
    (applyRecord o domain rule (diff, s) record).2.byIp.get ip = none := by
  obtain ⟨hr, _, hafter⟩ := hevicted
  simp only [applyRecord, hr]
  exact hafter

theorem applyRecord_keyed {s : DomainRouteStore} (h : Keyed s) (diff : ApplyDiff)
    (record : Resolved) : Keyed (applyRecord o domain rule (diff, s) record).2 := by
  cases hr : s.refreshable domain rule record.ip with
  | none =>
      simp only [applyRecord, hr]
      exact h.insertEntry o _
  | some existing =>
      simp only [applyRecord, hr, refreshed_entry domain rule h hr]
      intro ip e hget
      rw [get_insert] at hget
      split at hget
      · rename_i hip
        cases hget
        exact hip.symm
      · exact h ip e hget

theorem applyRecord_reported {s : DomainRouteStore} (h : Keyed s) (diff : ApplyDiff)
    (record : Resolved) (e : ResolvedIpEntry) :
    e ∈ (applyRecord o domain rule (diff, s) record).1.added ++
        (applyRecord o domain rule (diff, s) record).1.refreshed ↔
      e ∈ diff.added ++ diff.refreshed ∨ e = record.entry domain rule := by
  cases hr : s.refreshable domain rule record.ip with
  | none =>
      simp only [applyRecord, hr, List.mem_append, List.mem_singleton]
      tauto
  | some existing =>
      simp only [applyRecord, hr, refreshed_entry domain rule h hr, List.mem_append,
        List.mem_singleton]
      tauto

end Record

/-! ## The record loop -/

section Records
variable (o : Order) (domain : String) (rule : DomainRuleEntry)

/-- Whatever is evicted for a record, a later record lists again. -/
def EvictsListed : ApplyDiff × DomainRouteStore → List Resolved → Prop
  | _, [] => True
  | state, record :: rest =>
      (∀ ip, Evicts o domain rule state.2 record ip → ip ∈ rest.map Resolved.ip) ∧
      EvictsListed (applyRecord o domain rule state record) rest

theorem applyRecords_keyed (records : List Resolved) (diff : ApplyDiff) {s : DomainRouteStore}
    (h : Keyed s) : Keyed (applyRecords o domain rule (diff, s) records).2 :=
  applyRecords_keeps o domain rule (P := fun state => Keyed state.2)
    (fun state record hk => applyRecord_keyed o domain rule hk state.1 record) records (diff, s) h

/-- The loop reports exactly the entries its records write. -/
theorem applyRecords_reported (e : ResolvedIpEntry) : ∀ (records : List Resolved)
    (state : ApplyDiff × DomainRouteStore), Keyed state.2 →
    (e ∈ (applyRecords o domain rule state records).1.added ++
        (applyRecords o domain rule state records).1.refreshed ↔
      e ∈ state.1.added ++ state.1.refreshed ∨
        ∃ record ∈ records, e = record.entry domain rule) := by
  intro records
  induction records with
  | nil => intro state _; simp [applyRecords]
  | cons record rest ih =>
      intro state h
      have hstep : applyRecords o domain rule state (record :: rest) =
          applyRecords o domain rule (applyRecord o domain rule state record) rest := rfl
      rw [hstep, ih _ (applyRecord_keyed o domain rule h state.1 record),
        applyRecord_reported o domain rule h state.1 record]
      simp only [List.mem_cons, exists_eq_or_imp, or_assoc]

theorem applyRecords_unlisted_none {ip : IpAddr} : ∀ (records : List Resolved)
    (state : ApplyDiff × DomainRouteStore), Keyed state.2 → ip ∉ records.map Resolved.ip →
    state.2.byIp.get ip = none →
    (applyRecords o domain rule state records).2.byIp.get ip = none := by
  intro records
  induction records with
  | nil => intro state _ _ hnone; exact hnone
  | cons record rest ih =>
      intro state h hnot hnone
      rw [List.map_cons, List.mem_cons, not_or] at hnot
      refine ih _ (applyRecord_keyed o domain rule h state.1 record) hnot.2 ?_
      by_cases hevicted : Evicts o domain rule state.2 record ip
      · exact applyRecord_evicted o domain rule state.1 hevicted
      · have hget := applyRecord_unless_evicted o domain rule h state.1 record hevicted
        rw [if_neg hnot.1] at hget
        exact hget.trans hnone

theorem applyRecords_unlisted {ip : IpAddr} {e : ResolvedIpEntry} : ∀ (records : List Resolved)
    (state : ApplyDiff × DomainRouteStore), Keyed state.2 →
    EvictsListed o domain rule state records → ip ∉ records.map Resolved.ip →
    state.2.byIp.get ip = some e →
    (applyRecords o domain rule state records).2.byIp.get ip = some e := by
  intro records
  induction records with
  | nil => intro state _ _ _ hget; exact hget
  | cons record rest ih =>
      intro state h hlisted hnot hget
      rw [List.map_cons, List.mem_cons, not_or] at hnot
      refine ih _ (applyRecord_keyed o domain rule h state.1 record) hlisted.2 hnot.2 ?_
      have hkept : ¬ Evicts o domain rule state.2 record ip := fun he => hnot.2 (hlisted.1 ip he)
      have hafter := applyRecord_unless_evicted o domain rule h state.1 record hkept
      rw [if_neg hnot.1] at hafter
      exact hafter.trans hget

/-- Every listed address ends up with the entry of one of its records. -/
theorem applyRecords_listed {ip : IpAddr} : ∀ (records : List Resolved)
    (state : ApplyDiff × DomainRouteStore), Keyed state.2 →
    EvictsListed o domain rule state records → ip ∈ records.map Resolved.ip →
    ∃ record ∈ records, record.ip = ip ∧
      (applyRecords o domain rule state records).2.byIp.get ip =
        some (record.entry domain rule) := by
  intro records
  induction records with
  | nil => intro state _ _ hmem; cases hmem
  | cons record rest ih =>
      intro state h hlisted hmem
      have hkeyed := applyRecord_keyed o domain rule h state.1 record
      by_cases hrest : ip ∈ rest.map Resolved.ip
      · obtain ⟨later, hlater, hip, hget⟩ := ih _ hkeyed hlisted.2 hrest
        exact ⟨later, List.mem_cons_of_mem _ hlater, hip, hget⟩
      · -- the last record of the address
        have hip : ip = record.ip := (List.mem_cons.mp hmem).resolve_right hrest
        have hkept : ¬ Evicts o domain rule state.2 record ip := fun he => hrest (hlisted.1 ip he)
        have hafter := applyRecord_unless_evicted o domain rule h state.1 record hkept
        rw [if_pos hip] at hafter
        exact ⟨record, List.mem_cons_self, hip.symm,
          applyRecords_unlisted o domain rule rest _ hkeyed hlisted.2 hrest hafter⟩

/-- Where nothing that was stored or listed is gone at the end, nothing was evicted for good. -/
theorem evictsListed_of_stored : ∀ (records : List Resolved)
    (state : ApplyDiff × DomainRouteStore), Keyed state.2 →
    (∀ ip, state.2.byIp.get ip ≠ none ∨ ip ∈ records.map Resolved.ip →
      (applyRecords o domain rule state records).2.byIp.get ip ≠ none) →
    EvictsListed o domain rule state records := by
  intro records
  induction records with
  | nil => intro state _ _; trivial
  | cons record rest ih =>
      intro state h hstored
      have hkeyed := applyRecord_keyed o domain rule h state.1 record
      constructor
      · intro ip hevicted
        by_contra hnot
        have hgone := applyRecords_unlisted_none o domain rule rest _ hkeyed hnot
          (applyRecord_evicted o domain rule state.1 hevicted)
        refine hstored ip ?_ hgone
        obtain ⟨_, hwritten, _⟩ := hevicted
        rw [indexEntry_get] at hwritten
        split at hwritten
        · rename_i hip
          exact Or.inr (List.mem_cons.mpr (Or.inl hip))
        · exact Or.inl hwritten
      · refine ih _ hkeyed fun ip hcase => hstored ip ?_
        rcases hcase with hget | hmem
        · by_cases hevicted : Evicts o domain rule state.2 record ip
          · exact absurd (applyRecord_evicted o domain rule state.1 hevicted) hget
          · rw [applyRecord_unless_evicted o domain rule h state.1 record hevicted] at hget
            split at hget
            · rename_i hip
              exact Or.inr (List.mem_cons.mpr (Or.inl hip))
            · exact Or.inl hget
        · exact Or.inr (List.mem_cons_of_mem _ hmem)

end Records

/-! ## Entries that are new or changed -/

/-- The same domain, pattern and target: only the lifetime may differ. -/
def SameRoute (old new : ResolvedIpEntry) : Prop :=
  new.domain = old.domain ∧ new.pattern = old.pattern ∧ new.target = old.target

/-- Every entry is an addition or has the route it had before. -/
def Attributed (before : DomainRouteStore) (state : ApplyDiff × DomainRouteStore) : Prop :=
  ∀ ip e, state.2.byIp.get ip = some e →
    Lists state.1.added ip ∨ ∃ old, before.byIp.get ip = some old ∧ SameRoute old e

section Changes
variable (o : Order) (domain : String) (rule : DomainRuleEntry)

theorem applyRecord_attributed {before : DomainRouteStore} {state : ApplyDiff × DomainRouteStore}
    (h : Attributed before state) (record : Resolved) :
    Attributed before (applyRecord o domain rule state record) := by
  intro ip e hget
  rcases applyRecord_origin o domain rule state record hget with hnew | ⟨hlists, old, hold, hroute⟩
  · exact Or.inl hnew.1
  · obtain ⟨hdomain, hpattern, htarget⟩ := hroute
    rw [hlists]
    refine (h ip old hold).imp_right fun hbefore => ?_
    obtain ⟨first, hfirst, hsame⟩ := hbefore
    exact ⟨first, hfirst, hdomain.trans hsame.1, hpattern.trans hsame.2.1,
      htarget.trans hsame.2.2⟩

theorem applyRecords_attributed (diff : ApplyDiff) (s : DomainRouteStore)
    (records : List Resolved) : Attributed s (applyRecords o domain rule (diff, s) records) :=
  applyRecords_keeps o domain rule (P := Attributed s)
    (fun _ record h => applyRecord_attributed o domain rule h record) records (diff, s)
    fun _ e hget => Or.inr ⟨e, hget, rfl, rfl, rfl⟩

end Changes

/-! ## A whole answer -/

/-- The diff tells the change from `before` to `after`. -/
structure Tells (before after : DomainRouteStore) (diff : ApplyDiff) : Prop where
  added : ∀ ip e, after.byIp.get ip = some e →
    ¬ (∃ old, before.byIp.get ip = some old ∧ SameRoute old e) → Lists diff.added ip
  removed : ∀ ip old, before.byIp.get ip = some old → after.byIp.get ip = none →
    Lists diff.removed ip
  stored : ∀ e ∈ diff.added ++ diff.refreshed, after.byIp.get e.ip = some e

/-- Records of one address have one lifetime. -/
def OneLifetime (config : DomainRouteStoreConfig) (ips : List (IpAddr × Nat)) : Prop :=
  ∀ first ∈ ips, ∀ second ∈ ips, first.1 = second.1 →
    clampTtl first.2 config = clampTtl second.2 config

section Answer
variable (o : Order) (now : Nat)

def withoutDropped (s : DomainRouteStore) (domain : String) (ips : List (IpAddr × Nat)) :
    ApplyDiff × DomainRouteStore :=
  let (removed, s) := s.removeIps (s.dropped o domain (ips.map Prod.fst))
  ({ removed := removed }, s)

/-- Whatever the caps cost while the answer is stored, the rest of the answer lists again. -/
def CapsSpare (s : DomainRouteStore) (domain : String) (ips : List (IpAddr × Nat))
    (rule : DomainRuleEntry) : Prop :=
  EvictsListed o (normalizeDomain domain) rule (s.withoutDropped o (normalizeDomain domain) ips)
    (ips.map (resolve now s.config))

/-- With or without records, the diff and the entries are those of the record loop. -/
theorem applyResolved_loop (s : DomainRouteStore) (domain : String) (ips : List (IpAddr × Nat))
    (rule : DomainRuleEntry) :
    (s.applyResolved o now domain ips rule).1 =
      (applyRecords o (normalizeDomain domain) rule
        (s.withoutDropped o (normalizeDomain domain) ips) (ips.map (resolve now s.config))).1 ∧
    (s.applyResolved o now domain ips rule).2.byIp =
      (applyRecords o (normalizeDomain domain) rule
        (s.withoutDropped o (normalizeDomain domain) ips)
        (ips.map (resolve now s.config))).2.byIp := by
  simp only [applyResolved, withoutDropped]
  split <;> exact ⟨rfl, rfl⟩

theorem applyResolved_keyed {s : DomainRouteStore} (h : Keyed s) (domain : String)
    (ips : List (IpAddr × Nat)) (rule : DomainRuleEntry) :
    Keyed (s.applyResolved o now domain ips rule).2 := by
  have hloop : Keyed (applyRecords o (normalizeDomain domain) rule
      (s.withoutDropped o (normalizeDomain domain) ips) (ips.map (resolve now s.config))).2 :=
    applyRecords_keyed o _ rule _ _ (h.removeIps _)
  refine hloop.of_held ?_
  intro ip e hget
  rw [(applyResolved_loop o now s domain ips rule).2] at hget
  exact hget

theorem Served.keyed {s : DomainRouteStore} (h : Served s) : Keyed s := by
  induction h with
  | first h => exact (initial_indexed h).1.keyed
  | answer hs o now domain ips rule ih => exact applyResolved_keyed o now ih domain ips rule
  | step hs call ih =>
      obtain ⟨op, now, order⟩ := call
      cases op with
      | setRules rules => exact ih
      | applyResolved domain ips rule hips => exact applyResolved_keyed order now ih domain ips rule
      | purgeExpired => exact ih.removeIps _
      | pruneUnmatchedRules => exact ih.removeIps _
      | clear =>
          intro ip e hget
          simp [DomainRouteStore.step, clear, bumpGeneration] at hget

/-- Reported as removed are exactly the entries that are gone when the loop starts. -/
theorem lists_dropped {s : DomainRouteStore} (h : Keyed s) (domain : String)
    (ips : List (IpAddr × Nat)) (ip : IpAddr) :
    Lists (s.withoutDropped o domain ips).1.removed ip ↔
      s.byIp.get ip ≠ none ∧ (s.withoutDropped o domain ips).2.byIp.get ip = none := by
  have hget : (s.withoutDropped o domain ips).2.byIp.get ip =
      if ip ∈ s.dropped o domain (ips.map Prod.fst) then none else s.byIp.get ip :=
    removeIps_get _ ip s
  rw [hget]
  constructor
  · intro hcase
    obtain ⟨e, hmem, hip⟩ := hcase
    obtain ⟨other, hdropped, hother⟩ := (mem_removeIps _ e s).mp hmem
    have hkey := h other e hother
    rw [hip] at hkey
    subst hkey
    rw [if_pos hdropped, hother]
    exact ⟨Option.some_ne_none e, rfl⟩
  · intro hcase
    obtain ⟨hbefore, hafter⟩ := hcase
    obtain ⟨e, he⟩ := Option.ne_none_iff_exists'.mp hbefore
    split at hafter
    · rename_i hdropped
      exact ⟨e, (mem_removeIps _ e s).mpr ⟨ip, hdropped, he⟩, h ip e he⟩
    · exact absurd hafter hbefore

theorem applyResolved_removed_eq (s : DomainRouteStore) (domain : String)
    (ips : List (IpAddr × Nat)) (rule : DomainRuleEntry) :
    (s.applyResolved o now domain ips rule).1.removed =
      (s.withoutDropped o (normalizeDomain domain) ips).1.removed := by
  rw [(applyResolved_loop o now s domain ips rule).1]
  exact (applyRecords_reports_added o _ rule _ _).removed

end Answer

/-! ## When the diff tells the change -/

section Exact
variable (o : Order) (now : Nat) {s : DomainRouteStore} (h : Keyed s) (domain : String)
  (ips : List (IpAddr × Nat)) (rule : DomainRuleEntry)
include h

theorem mem_reported (e : ResolvedIpEntry) :
    e ∈ (s.applyResolved o now domain ips rule).1.added ++
        (s.applyResolved o now domain ips rule).1.refreshed ↔
      ∃ record ∈ ips, e = (resolve now s.config record).entry (normalizeDomain domain) rule := by
  rw [(applyResolved_loop o now s domain ips rule).1,
    applyRecords_reported o _ rule e _ _ (h.removeIps _)]
  simp [withoutDropped]

omit h in
/-- Whatever the batch, an entry that is new or changed is reported as added. -/
theorem applyResolved_tells_added (ip : IpAddr) (e : ResolvedIpEntry)
    (hget : (s.applyResolved o now domain ips rule).2.byIp.get ip = some e)
    (hchanged : ¬ ∃ old, s.byIp.get ip = some old ∧ SameRoute old e) :
    Lists (s.applyResolved o now domain ips rule).1.added ip := by
  obtain ⟨hdiff, hbyIp⟩ := applyResolved_loop o now s domain ips rule
  rw [hbyIp] at hget
  rw [hdiff]
  rcases applyRecords_attributed o _ rule _ _ _ ip e hget with hadded | ⟨old, hold, hsame⟩
  · exact hadded
  · rw [removeIps_get] at hold
    split at hold
    · cases hold
    · exact absurd ⟨old, hold, hsame⟩ hchanged

theorem Tells.oneLifetime (ht : Tells s (s.applyResolved o now domain ips rule).2
    (s.applyResolved o now domain ips rule).1) : OneLifetime s.config ips := by
  intro first hfirst second hsecond hip
  have hentry : ∀ record ∈ ips, (s.applyResolved o now domain ips rule).2.byIp.get record.1 =
      some ((resolve now s.config record).entry (normalizeDomain domain) rule) :=
    fun record hmem =>
      ht.stored _ ((mem_reported o now h domain ips rule _).mpr ⟨record, hmem, rfl⟩)
  have heq := (hentry first hfirst).symm.trans (hip ▸ hentry second hsecond)
  exact congrArg ResolvedIpEntry.ttlSecs (Option.some.inj heq)

theorem Tells.capsSpare (ht : Tells s (s.applyResolved o now domain ips rule).2
    (s.applyResolved o now domain ips rule).1) : CapsSpare o now s domain ips rule := by
  refine evictsListed_of_stored o _ rule _ _ (h.removeIps _) ?_
  intro ip hcase
  rw [← (applyResolved_loop o now s domain ips rule).2]
  rcases hcase with hget | hmem
  · -- still there when the loop starts, so not among the removals
    intro hgone
    have hbefore : s.byIp.get ip ≠ none := by
      intro hnone
      exact hget (by simp [withoutDropped, removeIps_get, hnone])
    obtain ⟨old, hold⟩ := Option.ne_none_iff_exists'.mp hbefore
    have hlisted := ht.removed ip old hold hgone
    rw [applyResolved_removed_eq, lists_dropped o h] at hlisted
    exact hget hlisted.2
  · obtain ⟨resolved, hresolved, rfl⟩ := List.mem_map.mp hmem
    obtain ⟨record, hrecord, rfl⟩ := List.mem_map.mp hresolved
    have hstored := ht.stored _
      ((mem_reported o now h domain ips rule _).mpr ⟨record, hrecord, rfl⟩)
    intro hgone
    rw [show ((resolve now s.config record).entry (normalizeDomain domain) rule).ip =
      (resolve now s.config record).ip from rfl, hgone] at hstored
    cases hstored

theorem tells_of_capsSpare (hone : OneLifetime s.config ips)
    (hspare : CapsSpare o now s domain ips rule) :
    Tells s (s.applyResolved o now domain ips rule).2
      (s.applyResolved o now domain ips rule).1 := by
  have hstart : Keyed (s.withoutDropped o (normalizeDomain domain) ips).2 := h.removeIps _
  refine ⟨applyResolved_tells_added o now domain ips rule, ?_, ?_⟩
  · intro ip old hold hgone
    rw [applyResolved_removed_eq, lists_dropped o h]
    refine ⟨by rw [hold]; exact Option.some_ne_none old, ?_⟩
    rw [(applyResolved_loop o now s domain ips rule).2] at hgone
    by_contra hkept
    obtain ⟨e, he⟩ := Option.ne_none_iff_exists'.mp hkept
    by_cases hmem : ip ∈ (ips.map (resolve now s.config)).map Resolved.ip
    · obtain ⟨record, _, _, hget⟩ := applyRecords_listed o _ rule _ _ hstart hspare hmem
      rw [hgone] at hget
      cases hget
    · rw [applyRecords_unlisted o _ rule _ _ hstart hspare hmem he] at hgone
      cases hgone
  · intro e he
    obtain ⟨record, hrecord, rfl⟩ := (mem_reported o now h domain ips rule e).mp he
    have hmem : record.1 ∈ (ips.map (resolve now s.config)).map Resolved.ip :=
      List.mem_map.mpr ⟨_, List.mem_map.mpr ⟨record, hrecord, rfl⟩, rfl⟩
    obtain ⟨last, hlast, hip, hget⟩ := applyRecords_listed o _ rule _ _ hstart hspare hmem
    obtain ⟨source, hsource, rfl⟩ := List.mem_map.mp hlast
    have hsame : resolve now s.config source = resolve now s.config record := by
      have hip : source.1 = record.1 := hip
      simp only [resolve, hip, hone source hsource record hrecord hip]
    rw [hsame] at hget
    rw [(applyResolved_loop o now s domain ips rule).2]
    exact hget

end Exact

/-- The diff of an answer tells the change of the store exactly when records of one address
agree on the lifetime and the caps cost nothing that the answer does not list again. -/
theorem applyResolved_tells_iff {s : DomainRouteStore} (hs : Served s) (o : Order) (now : Nat)
    (domain : String) (ips : List (IpAddr × Nat)) (rule : DomainRuleEntry) :
    Tells s (s.applyResolved o now domain ips rule).2 (s.applyResolved o now domain ips rule).1 ↔
      OneLifetime s.config ips ∧ CapsSpare o now s domain ips rule := by
  have h := hs.keyed
  constructor
  · intro ht
    exact ⟨ht.oneLifetime o now h domain ips rule, ht.capsSpare o now h domain ips rule⟩
  · intro hcase
    exact tells_of_capsSpare o now h domain ips rule hcase.1 hcase.2

def fullStore : DomainRouteStore :=
  (new ⟨1, 10000, 30, 3600⟩).step
    (Call.single 100 "a.example" (ipv4 1 2 3 4, 60) ⟨10, "*.example", .tunnel⟩)

theorem fullStore_served : Served fullStore := .step (.first (.new _)) _

theorem applyResolved_tells_iff_full :
    Tells fullStore
      (fullStore.applyResolved .identity 110 "a.example" [(ipv4 1 2 3 4, 60)]
        ⟨10, "*.example", .tunnel⟩).2
      (fullStore.applyResolved .identity 110 "a.example" [(ipv4 1 2 3 4, 60)]
        ⟨10, "*.example", .tunnel⟩).1 ↔
      OneLifetime fullStore.config [(ipv4 1 2 3 4, 60)] ∧
      CapsSpare .identity 110 fullStore "a.example" [(ipv4 1 2 3 4, 60)]
        ⟨10, "*.example", .tunnel⟩ :=
  applyResolved_tells_iff fullStore_served .identity 110 "a.example" [(ipv4 1 2 3 4, 60)]
    ⟨10, "*.example", .tunnel⟩

/-- An answer for a second domain evicts the address; no list of the diff has it. -/
theorem evicted_untold : Served fullStore ∧
    ¬ Tells fullStore
      (fullStore.applyResolved .identity 110 "b.example" [(ipv4 5 6 7 8, 60)]
        ⟨10, "*.example", .tunnel⟩).2
      (fullStore.applyResolved .identity 110 "b.example" [(ipv4 5 6 7 8, 60)]
        ⟨10, "*.example", .tunnel⟩).1 := by
  refine ⟨fullStore_served, fun ht => ?_⟩
  have hlisted := ht.removed (ipv4 1 2 3 4)
    ⟨ipv4 1 2 3 4, "a.example", "*.example", .tunnel, 160, 60⟩ (by decide) (by decide)
  revert hlisted
  unfold Lists
  decide

end DomainRouteStore
end RouteGuard
