import RouteGuard.Routing.StoreIndex

/-! # What the history of calls says about a lookup

While the caps are not reached, a lookup depends only on the answers, rule
changes, prunings and clears of the past: the last answer that listed the
address, its lifetime, and whether a later call took the entry away.  The
reference below reads this off the list of calls; `run_lookup_eq_reference`
compares it with the store. -/
set_option autoImplicit false
namespace RouteGuard

open HashTable

namespace DomainRouteStore

/-! ## The reference -/

section Reference
variable (config : DomainRouteStoreConfig)

def lastRecord (ips : List (IpAddr × Nat)) (ip : IpAddr) : Option (IpAddr × Nat) :=
  (ips.filter fun record => record.1 = ip).getLast?

/-- What a call says about `ip` if it is an answer that lists it. -/
def Call.answer (ip : IpAddr) (call : Call) : Option ResolvedIpEntry :=
  match call.op with
  | .applyResolved domain ips rule _ =>
      (lastRecord ips ip).map fun record =>
        (resolve call.now config record).entry (normalizeDomain domain) rule
  | _ => none

/-- The last answer that lists `ip`, with the calls before and after it. -/
def lastAnswer (ip : IpAddr) : List Call → Option (List Call × ResolvedIpEntry × List Call)
  | [] => none
  | call :: rest =>
      match lastAnswer ip rest with
      | some (earlier, e, later) => some (call :: earlier, e, later)
      | none => (call.answer config ip).map fun e => ([], e, rest)

def Call.rulesAfter (rules : List DomainRuleEntry) (call : Call) : List DomainRuleEntry :=
  match call.op with
  | .setRules new => domainRuleEntries new
  | _ => rules

/-- A call leaves the entry of an address that it does not list in place. -/
def Call.spares (rules : List DomainRuleEntry) (e : ResolvedIpEntry) (call : Call) : Bool :=
  match call.op with
  | .applyResolved domain _ _ _ => decide (normalizeDomain domain ≠ e.domain)
  | .pruneUnmatchedRules => ruled rules e.pattern e.target
  | .clear => false
  | _ => true

def survives (e : ResolvedIpEntry) : List DomainRuleEntry → List Call → Bool
  | _, [] => true
  | rules, call :: rest => call.spares rules e && survives e (call.rulesAfter rules) rest

/-- The entry the history leaves for `ip`, whether it has expired or not. -/
def historyEntry (calls : List Call) (ip : IpAddr) : Option ResolvedIpEntry :=
  match lastAnswer config ip calls with
  | none => none
  | some (earlier, e, later) =>
      if survives e (earlier.foldl Call.rulesAfter []) later then some e else none

def reference (calls : List Call) (ip : IpAddr) (t : Nat) : Option RouteTarget :=
  match historyEntry config calls ip with
  | none => none
  | some e => if t < e.expiresAt then some e.target else none

end Reference

/-! ## The reference, one more call -/

section Snoc
variable (config : DomainRouteStoreConfig) (ip : IpAddr)

theorem lastAnswer_concat_some {call : Call} {e : ResolvedIpEntry}
    (h : call.answer config ip = some e) (calls : List Call) :
    lastAnswer config ip (calls ++ [call]) = some (calls, e, []) := by
  induction calls with
  | nil => simp [lastAnswer, h]
  | cons first rest ih => simp [lastAnswer, ih]

theorem lastAnswer_concat_none {call : Call} (h : call.answer config ip = none)
    (calls : List Call) : lastAnswer config ip (calls ++ [call]) =
      (lastAnswer config ip calls).map fun split => (split.1, split.2.1, split.2.2 ++ [call]) := by
  induction calls with
  | nil => simp [lastAnswer, h]
  | cons first rest ih =>
      simp only [List.cons_append, lastAnswer, ih]
      cases lastAnswer config ip rest with
      | none => cases first.answer config ip <;> simp
      | some split => simp

theorem lastAnswer_split {calls earlier later : List Call} {e : ResolvedIpEntry}
    (h : lastAnswer config ip calls = some (earlier, e, later)) :
    ∃ call, calls = earlier ++ call :: later ∧ call.answer config ip = some e := by
  induction calls generalizing earlier with
  | nil => simp [lastAnswer] at h
  | cons first rest ih =>
      simp only [lastAnswer] at h
      cases hrest : lastAnswer config ip rest with
      | none =>
          simp only [hrest, Option.map_eq_some_iff, Prod.mk.injEq] at h
          obtain ⟨e', he', rfl, rfl, rfl⟩ := h
          exact ⟨first, rfl, he'⟩
      | some split =>
          obtain ⟨earlier', e', later'⟩ := split
          simp only [hrest, Option.some.injEq, Prod.mk.injEq] at h
          obtain ⟨rfl, rfl, rfl⟩ := h
          obtain ⟨call, hsplit, hcall⟩ := ih hrest
          exact ⟨call, by rw [hsplit, List.cons_append], hcall⟩

theorem survives_concat (e : ResolvedIpEntry) (call : Call) (calls : List Call) :
    ∀ rules, survives e rules (calls ++ [call]) =
      (survives e rules calls && call.spares (calls.foldl Call.rulesAfter rules) e) := by
  induction calls with
  | nil => intro rules; simp [survives]
  | cons first rest ih =>
      intro rules
      simp only [List.cons_append, survives, ih, List.foldl_cons, Bool.and_assoc]

theorem rulesAfter_answer {call : Call} {e : ResolvedIpEntry}
    (h : call.answer config ip = some e) (rules : List DomainRuleEntry) :
    call.rulesAfter rules = rules := by
  obtain ⟨op, now, order⟩ := call
  cases op <;> simp_all [Call.answer, Call.rulesAfter]

theorem historyEntry_answer {call : Call} {e : ResolvedIpEntry}
    (h : call.answer config ip = some e) (calls : List Call) :
    historyEntry config (calls ++ [call]) ip = some e := by
  simp [historyEntry, lastAnswer_concat_some config ip h, survives]

theorem historyEntry_other {call : Call} (h : call.answer config ip = none) (calls : List Call) :
    historyEntry config (calls ++ [call]) ip =
      (historyEntry config calls ip).filter (call.spares (calls.foldl Call.rulesAfter [])) := by
  simp only [historyEntry, lastAnswer_concat_none config ip h]
  cases hlast : lastAnswer config ip calls with
  | none => rfl
  | some split =>
      obtain ⟨earlier, e, later⟩ := split
      obtain ⟨answer, hsplit, hanswer⟩ := lastAnswer_split config ip hlast
      have hrules : calls.foldl Call.rulesAfter [] =
          later.foldl Call.rulesAfter (earlier.foldl Call.rulesAfter []) := by
        rw [hsplit, List.foldl_append, List.foldl_cons, rulesAfter_answer config ip hanswer]
      simp only [Option.map_some, survives_concat, ← hrules]
      cases survives e (earlier.foldl Call.rulesAfter []) later <;>
        cases hspares : call.spares (calls.foldl Call.rulesAfter []) e <;>
        simp [Option.filter, hspares]

end Snoc

/-! ## Operations within the caps -/

section Fits
variable (o : Order) (domain : String) (rule : DomainRuleEntry)

/-- No record of the list takes the store past a cap. -/
def RecordsFit : ApplyDiff × DomainRouteStore → List Resolved → Prop
  | _, [] => True
  | state, record :: rest =>
      (state.2.refreshable domain rule record.ip = none →
        (state.2.indexEntry (record.entry domain rule)).Capped) ∧
      RecordsFit (applyRecord o domain rule state record) rest

/-- Neither cap is exceeded while the call runs. -/
def CallFits (s : DomainRouteStore) (call : Call) : Prop :=
  match call.op with
  | .applyResolved domain ips rule _ =>
      let removed := s.removeIps (s.dropped call.order (normalizeDomain domain) (ips.map Prod.fst))
      RecordsFit call.order (normalizeDomain domain) rule ({ removed := removed.1 }, removed.2)
        (ips.map (resolve call.now s.config))
  | _ => True

theorem applyRecord_get (diff : ApplyDiff) {s : DomainRouteStore} (h : s.Indexed)
    {record : Resolved} (hfit : s.refreshable domain rule record.ip = none →
      (s.indexEntry (record.entry domain rule)).Capped) (ip : IpAddr) :
    (applyRecord o domain rule (diff, s) record).2.byIp.get ip =
      if ip = record.ip then some (record.entry domain rule) else s.byIp.get ip := by
  cases hr : s.refreshable domain rule record.ip with
  | none =>
      simp only [applyRecord, hr, insertEntry, enforceCaps_eq_self o (hfit hr)]
      exact indexEntry_get s (record.entry domain rule) ip
  | some existing =>
      obtain ⟨hget, hdomain, hpattern, htarget⟩ := refreshable_some domain rule hr
      have hip := h.keyed record.ip existing hget
      have hentry : { existing with ttlSecs := record.ttl, expiresAt := record.expiresAt } =
          record.entry domain rule := by
        rw [Resolved.entry, ← hip, ← hdomain, ← hpattern, ← htarget]
      simp only [applyRecord, hr, hentry]
      exact get_insert s.byIp record.ip ip _

/-- Within the caps the last record of an address decides its entry. -/
theorem applyRecords_get (ip : IpAddr) : ∀ (records : List Resolved)
    (state : ApplyDiff × DomainRouteStore), state.2.Indexed →
    RecordsFit o domain rule state records →
    (applyRecords o domain rule state records).2.byIp.get ip =
      match (records.filter fun record => record.ip = ip).getLast? with
      | some record => some (record.entry domain rule)
      | none => state.2.byIp.get ip := by
  intro records
  induction records with
  | nil => intro state _ _; rfl
  | cons record rest ih =>
      intro state h hfits
      obtain ⟨hfit, hrest⟩ := hfits
      have hstep : applyRecords o domain rule state (record :: rest) =
          applyRecords o domain rule (applyRecord o domain rule state record) rest := rfl
      have hindexed : (applyRecord o domain rule state record).2.Indexed :=
        applyRecord_indexed o domain rule h record
      have hget := applyRecord_get o domain rule state.1 h hfit ip
      rw [hstep, ih _ hindexed hrest, hget]
      by_cases hip : record.ip = ip
      · simp only [hip, List.filter_cons, decide_true, if_true, List.getLast?_cons]
        cases (rest.filter fun record => decide (record.ip = ip)).getLast? <;> simp
      · have hne : ip ≠ record.ip := fun heq => hip heq.symm
        simp [hip, hne]

theorem mem_dropped {s : DomainRouteStore} (h : s.Indexed) (ips : List IpAddr) (ip : IpAddr) :
    ip ∈ s.dropped o domain ips ↔
      (∃ e, s.byIp.get ip = some e ∧ e.domain = domain) ∧ ip ∉ ips := by
  have hkeys : ip ∈ o.keys ((s.byDomain.get domain).getD ∅) ↔ InDomain s.byDomain domain ip :=
    mem_order_keys_domain o s domain ip
  rw [dropped, List.mem_filter, hkeys, h.agree]
  simp

end Fits

/-! ## One call -/

section Step
variable {s : DomainRouteStore} {call : Call} (ip : IpAddr)

theorem removeIps_filter_get (o : Order) (s : DomainRouteStore) (p : ResolvedIpEntry → Bool) :
    (s.removeIps (((o.items s.byIp).filter fun row => !p row.2).map Prod.fst)).2.byIp.get ip =
      (s.byIp.get ip).filter p := by
  have hmem : ip ∈ ((o.items s.byIp).filter fun row => !p row.2).map Prod.fst ↔
      ∃ e, s.byIp.get ip = some e ∧ p e = false := by
    simp only [List.mem_map, List.mem_filter, Prod.exists, exists_and_right, exists_eq_right,
      mem_order_items, Bool.not_eq_eq_eq_not, Bool.not_true]
  rw [removeIps_get]
  cases hget : s.byIp.get ip with
  | none => simp
  | some e =>
      simp only [hmem, hget, Option.some.injEq, exists_eq_left']
      cases hp : p e <;> simp [Option.filter, hp]

theorem purgeExpired_get (hop : call.op = .purgeExpired) :
    (s.step call).byIp.get ip =
      (s.byIp.get ip).filter fun e => decide (call.now < e.expiresAt) := by
  rw [← removeIps_filter_get ip call.order s]
  simp only [step, hop, purgeExpired, ← decide_not, Nat.not_lt]

theorem applyResolved_get (h : s.Indexed) {domain : String} {ips : List (IpAddr × Nat)}
    {rule : DomainRuleEntry} (hips : ips ≠ [])
    (hop : call.op = .applyResolved domain ips rule hips) (hfits : CallFits s call) :
    (s.step call).byIp.get ip =
      match call.answer s.config ip with
      | some e => some e
      | none => (s.byIp.get ip).filter (call.spares s.rules) := by
  have hlast : ((ips.map (resolve call.now s.config)).filter
      fun record => record.ip = ip).getLast? =
        (lastRecord ips ip).map (resolve call.now s.config) := by
    rw [List.filter_map, List.getLast?_map]
    rfl
  simp only [CallFits, hop] at hfits
  simp only [step, hop, Call.answer, Call.spares,
    applyResolved_eq call.order call.now s domain ips rule hips]
  rw [applyRecords_get _ _ _ ip _ _ (removeIps_keeps removeIp_indexed _ s h) hfits, hlast]
  cases hrecord : lastRecord ips ip with
  | some record => rfl
  | none =>
      have hnot : ip ∉ ips.map Prod.fst := by
        intro hmem
        obtain ⟨record, hrec, hip⟩ := List.mem_map.mp hmem
        rw [lastRecord, List.getLast?_eq_none_iff, List.filter_eq_nil_iff] at hrecord
        exact hrecord record hrec (by simpa using hip)
      simp only [Option.map_none, removeIps_get, mem_dropped _ _ h, hnot, not_false_eq_true,
        and_true]
      cases hget : s.byIp.get ip with
      | none => simp
      | some e =>
          by_cases hd : e.domain = normalizeDomain domain
          · simp [hd, Option.filter]
          · have hd' : normalizeDomain domain ≠ e.domain := fun heq => hd heq.symm
            simp [hd, hd', Option.filter]

/-- Every call but a purge does to the store what it does to the reference. -/
theorem step_get (h : s.Indexed) (hfits : CallFits s call) (hop : call.op ≠ .purgeExpired) :
    (s.step call).byIp.get ip =
      match call.answer s.config ip with
      | some e => some e
      | none => (s.byIp.get ip).filter (call.spares s.rules) := by
  cases hcall : call.op with
  | setRules rules =>
      simp only [step, Call.answer, hcall, setRules, bumpGeneration]
      cases hget : s.byIp.get ip with
      | none => rfl
      | some e => simp [Call.spares, hcall, Option.filter]
  | applyResolved domain ips rule hips => exact applyResolved_get ip h hips hcall hfits
  | purgeExpired => exact absurd hcall hop
  | pruneUnmatchedRules =>
      simp only [Call.answer, hcall]
      have hspares : call.spares s.rules = fun e => ruled s.rules e.pattern e.target := by
        funext e
        simp only [Call.spares, hcall]
      rw [hspares, ← removeIps_filter_get ip call.order s]
      simp only [step, hcall, pruneUnmatchedRules]
  | clear =>
      simp only [step, Call.answer, hcall, clear, bumpGeneration, get_empty]
      cases hget : s.byIp.get ip with
      | none => rfl
      | some e => simp [Call.spares, hcall, Option.filter]

theorem step_rules (s : DomainRouteStore) (call : Call) :
    (s.step call).rules = call.rulesAfter s.rules := by
  obtain ⟨op, now, order⟩ := call
  cases op with
  | setRules rules => rfl
  | applyResolved domain ips rule hips =>
      exact (applyResolved_rest order now s domain ips rule hips).1
  | purgeExpired => exact (removeIps_rest s _).1
  | pruneUnmatchedRules => exact (removeIps_rest s _).1
  | clear => rfl

end Step

/-! ## Runs -/

section Run
variable (config : DomainRouteStoreConfig)

/-- The store is what the calls say, except for entries that expired by `clock`: those it
may have purged. -/
structure Tracks (calls : List Call) (clock : Nat) (s : DomainRouteStore) : Prop where
  config_eq : s.config = config
  indexed : s.Indexed
  capped : s.Capped
  rules_eq : s.rules = calls.foldl Call.rulesAfter []
  entry : ∀ ip, s.byIp.get ip = historyEntry config calls ip ∨
    (s.byIp.get ip = none ∧ ∃ e, historyEntry config calls ip = some e ∧ e.expiresAt ≤ clock)

theorem Tracks.later {calls : List Call} {clock now : Nat} {s : DomainRouteStore}
    (h : Tracks config calls clock s) (hle : clock ≤ now) : Tracks config calls now s := by
  refine ⟨h.config_eq, h.indexed, h.capped, h.rules_eq, ?_⟩
  intro ip
  rcases h.entry ip with heq | ⟨hnone, e, he, hexp⟩
  · exact Or.inl heq
  · exact Or.inr ⟨hnone, e, he, hexp.trans hle⟩

theorem tracks_new : Tracks config [] 0 (new config) := by
  obtain ⟨hindexed, hcapped⟩ := new_indexed config
  refine ⟨rfl, hindexed, hcapped, rfl, ?_⟩
  intro ip
  left
  simp [new, historyEntry, lastAnswer]

/-- A purge is invisible to the reference. -/
theorem historyEntry_purge {call : Call} (hop : call.op = .purgeExpired) (calls : List Call)
    (ip : IpAddr) : historyEntry config (calls ++ [call]) ip = historyEntry config calls ip := by
  have hanswer : call.answer config ip = none := by simp only [Call.answer, hop]
  have hspares : call.spares (calls.foldl Call.rulesAfter []) = fun _ => true := by
    funext e
    simp only [Call.spares, hop]
  rw [historyEntry_other config ip hanswer, hspares]
  cases historyEntry config calls ip <;> rfl

theorem Tracks.step_entry {calls : List Call} {s : DomainRouteStore} {call : Call}
    (h : Tracks config calls call.now s) (hfits : CallFits s call) (ip : IpAddr) :
    (s.step call).byIp.get ip = historyEntry config (calls ++ [call]) ip ∨
    ((s.step call).byIp.get ip = none ∧
      ∃ e, historyEntry config (calls ++ [call]) ip = some e ∧ e.expiresAt ≤ call.now) := by
  by_cases hop : call.op = .purgeExpired
  · rw [historyEntry_purge config hop, purgeExpired_get ip hop]
    rcases h.entry ip with heq | ⟨hnone, hgone⟩
    · rw [heq]
      cases hentry : historyEntry config calls ip with
      | none => exact Or.inl rfl
      | some e =>
          by_cases hlive : call.now < e.expiresAt
          · left
            simp [Option.filter, hlive]
          · right
            exact ⟨by simp [Option.filter, hlive], e, rfl, Nat.le_of_not_lt hlive⟩
    · right
      exact ⟨by rw [hnone]; rfl, hgone⟩
  · rw [step_get ip h.indexed hfits hop, h.config_eq, h.rules_eq]
    cases hanswer : call.answer config ip with
    | some e =>
        left
        rw [historyEntry_answer config ip hanswer]
    | none =>
        rw [historyEntry_other config ip hanswer]
        rcases h.entry ip with heq | ⟨hnone, e, he, hexp⟩
        · left
          rw [heq]
        · rw [hnone, he]
          cases hspares : call.spares (calls.foldl Call.rulesAfter []) e with
          | true =>
              right
              exact ⟨rfl, e, by simp [Option.filter, hspares], hexp⟩
          | false =>
              left
              simp [Option.filter, hspares]

/-- A new store tracks its calls when the clock never goes back and no cap is exceeded. -/
theorem run_tracks {calls : List Call} (hclock : calls.Pairwise fun a b => a.now ≤ b.now)
    (hfits : GuardedRun.Guarded step CallFits (new config) calls) {clock : Nat}
    (hnow : ∀ call ∈ calls, call.now ≤ clock) :
    Tracks config calls clock (GuardedRun.run step (new config) calls) := by
  induction calls using List.reverseRecOn generalizing clock with
  | nil => exact (tracks_new config).later config (Nat.zero_le clock)
  | append_singleton calls call ih =>
      obtain ⟨hfitsBefore, hfit, _⟩ :=
        (GuardedRun.guarded_append step CallFits (new config) calls [call]).mp hfits
      obtain ⟨hclockBefore, _, hlast⟩ := List.pairwise_append.mp hclock
      have hbefore : Tracks config calls call.now (GuardedRun.run step (new config) calls) :=
        ih hclockBefore hfitsBefore fun earlier hmem => hlast earlier hmem call List.mem_cons_self
      rw [GuardedRun.run_concat]
      have hafter : Tracks config (calls ++ [call]) call.now
          ((GuardedRun.run step (new config) calls).step call) := by
        obtain ⟨hindexed, hcapped⟩ := step_indexed _ call ⟨hbefore.indexed, hbefore.capped⟩
        refine ⟨?_, hindexed, hcapped, ?_, hbefore.step_entry config hfit⟩
        · rw [step_config, hbefore.config_eq]
        · rw [step_rules, hbefore.rules_eq, List.foldl_append]
          rfl
      exact hafter.later config (hnow call (List.mem_append_right calls List.mem_cons_self))

theorem Tracks.lookup_eq {calls : List Call} {s : DomainRouteStore} {t : Nat}
    (h : Tracks config calls t s) (ip : IpAddr) :
    s.lookupIp t ip = reference config calls ip t := by
  rcases h.entry ip with heq | ⟨hnone, e, he, hexp⟩
  · simp only [lookupIp, entryForIp, heq, reference]
    cases historyEntry config calls ip with
    | none => rfl
    | some e =>
        by_cases hlive : t < e.expiresAt
        · simp [hlive, Nat.not_le.mpr hlive]
        · simp [hlive, Nat.le_of_not_lt hlive]
  · simp [lookupIp, entryForIp, hnone, reference, he, Nat.not_lt.mpr hexp]

def Call.isPurge (call : Call) : Bool :=
  match call.op with
  | .purgeExpired => true
  | _ => false

theorem Call.isPurge_iff (call : Call) : call.isPurge = true ↔ call.op = .purgeExpired := by
  obtain ⟨op, now, order⟩ := call
  cases op <;> simp [Call.isPurge]

def withoutPurges (calls : List Call) : List Call := calls.filter fun call => !call.isPurge

theorem rulesAfter_withoutPurges (calls : List Call) : ∀ rules,
    (withoutPurges calls).foldl Call.rulesAfter rules = calls.foldl Call.rulesAfter rules := by
  induction calls with
  | nil => intro rules; rfl
  | cons call rest ih =>
      intro rules
      cases hpurge : call.isPurge with
      | true =>
          have hop := call.isPurge_iff.mp hpurge
          have hsame : withoutPurges (call :: rest) = withoutPurges rest := by
            simp [withoutPurges, hpurge]
          have hrules : call.rulesAfter rules = rules := by
            simp only [Call.rulesAfter, hop]
          rw [hsame, ih, List.foldl_cons, hrules]
      | false =>
          have hkept : withoutPurges (call :: rest) = call :: withoutPurges rest := by
            simp [withoutPurges, hpurge]
          rw [hkept, List.foldl_cons, List.foldl_cons, ih]

theorem historyEntry_withoutPurges (calls : List Call) (ip : IpAddr) :
    historyEntry config (withoutPurges calls) ip = historyEntry config calls ip := by
  induction calls using List.reverseRecOn with
  | nil => rfl
  | append_singleton calls call ih =>
      cases hpurge : call.isPurge with
      | true =>
          have hsame : withoutPurges (calls ++ [call]) = withoutPurges calls := by
            simp [withoutPurges, hpurge]
          rw [hsame, historyEntry_purge config (call.isPurge_iff.mp hpurge), ih]
      | false =>
          have hkept : withoutPurges (calls ++ [call]) = withoutPurges calls ++ [call] := by
            simp [withoutPurges, hpurge]
          rw [hkept]
          cases hanswer : call.answer config ip with
          | some e =>
              rw [historyEntry_answer config ip hanswer, historyEntry_answer config ip hanswer]
          | none =>
              rw [historyEntry_other config ip hanswer, historyEntry_other config ip hanswer, ih,
                rulesAfter_withoutPurges]

theorem reference_withoutPurges (calls : List Call) (ip : IpAddr) (t : Nat) :
    reference config (withoutPurges calls) ip t = reference config calls ip t := by
  simp only [reference, historyEntry_withoutPurges]

/-- Within the caps and under a non-decreasing clock a lookup is the reference's answer, and
two runs that differ in their purges only answer alike. -/
theorem run_lookup_eq_reference {calls : List Call}
    (hclock : calls.Pairwise fun a b => a.now ≤ b.now)
    (hfits : GuardedRun.Guarded step CallFits (new config) calls) {t : Nat}
    (hnow : ∀ call ∈ calls, call.now ≤ t) (ip : IpAddr) :
    (GuardedRun.run step (new config) calls).lookupIp t ip = reference config calls ip t ∧
    ∀ others : List Call, (others.Pairwise fun a b => a.now ≤ b.now) →
      GuardedRun.Guarded step CallFits (new config) others → (∀ call ∈ others, call.now ≤ t) →
      withoutPurges others = withoutPurges calls →
      (GuardedRun.run step (new config) others).lookupIp t ip =
        (GuardedRun.run step (new config) calls).lookupIp t ip := by
  have hcalls := (run_tracks config hclock hfits hnow).lookup_eq config ip
  refine ⟨hcalls, ?_⟩
  intro others hclock' hfits' hnow' hsame
  have hothers := (run_tracks config hclock' hfits' hnow').lookup_eq config ip
  rw [hothers, hcalls, ← reference_withoutPurges, hsame, reference_withoutPurges]

end Run

def refreshedThenPurged : List Call :=
  [⟨.setRules [⟨10, "*.example", .tunnel⟩], 100, .identity⟩,
    .single 100 "a.example." (ipv4 1 2 3 4, 60) ⟨10, "*.example", .tunnel⟩,
    .single 130 "a.example" (ipv4 1 2 3 4, 120) ⟨10, "*.example", .tunnel⟩,
    ⟨.purgeExpired, 200, .identity⟩]

theorem run_lookup_eq_reference_refreshed :
    (GuardedRun.run step (new {}) refreshedThenPurged).lookupIp 240 (ipv4 1 2 3 4) =
      reference {} refreshedThenPurged (ipv4 1 2 3 4) 240 := by
  have hclock : refreshedThenPurged.Pairwise fun a b => a.now ≤ b.now := by
    simp [refreshedThenPurged, Call.single]
  have hfits : GuardedRun.Guarded step CallFits (new {}) refreshedThenPurged := by
    refine ⟨trivial, ⟨?_, trivial⟩, ⟨?_, trivial⟩, trivial, trivial⟩
    · intro _
      exact ⟨by decide +kernel, by decide +kernel⟩
    · intro _
      exact ⟨by decide +kernel, by decide +kernel⟩
  have hnow : ∀ call ∈ refreshedThenPurged, call.now ≤ 240 := by
    simp [refreshedThenPurged, Call.single]
  exact (run_lookup_eq_reference {} hclock hfits hnow (ipv4 1 2 3 4)).1

end DomainRouteStore
end RouteGuard
