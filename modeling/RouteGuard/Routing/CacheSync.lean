import RouteGuard.Routing.StoreIndex

/-! # The engine's domain cache against the store

`sync_domain_cache` copies the live entries of the store into a cache that keeps
one expiry for each domain, counted in whole seconds from the call.  The two
lookups agree from then on exactly when that loses nothing. -/
set_option autoImplicit false
namespace RouteGuard

open HashTable

/-! ## Filling a cache -/

section Fill
variable (clock : Clock)

def DomainCache.insertEntry (cache : DomainCache) (e : ResolvedIpEntry) : DomainCache :=
  cache.insertResolved clock e.domain e.ip e.target e.expiresAt

def lastOfDomain (entries : List ResolvedIpEntry) (domain : String) : Option ResolvedIpEntry :=
  (entries.filter fun e => normalizeDomain e.domain = domain).getLast?

def lastOfIp (entries : List ResolvedIpEntry) (ip : IpAddr) : Option ResolvedIpEntry :=
  (entries.filter fun e => e.ip = ip).getLast?

/-- The monotonic instant at which a cached domain that was last written for `e` expires. -/
def expiryInstant (e : ResolvedIpEntry) : Nat :=
  clock.mono + (e.expiresAt - clock.nowUnix) * nanosPerSec

/-- What a cache holds after `entries` went into an empty one. -/
structure Filled (entries : List ResolvedIpEntry) (cache : DomainCache) : Prop where
  target : ∀ ip, cache.ipIndex.get ip = (lastOfIp entries ip).map ResolvedIpEntry.target
  expires : ∀ domain, (cache.resolved.get domain).map CachedIp.expires =
    (lastOfDomain entries domain).map (expiryInstant clock)
  lists : ∀ domain ip, (∃ cached, cache.resolved.get domain = some cached ∧ ip ∈ cached.ips) ↔
    ∃ e ∈ entries, normalizeDomain e.domain = domain ∧ e.ip = ip

theorem filled_clearResolved (cache : DomainCache) : Filled clock [] cache.clearResolved := by
  refine ⟨?_, ?_, ?_⟩
  · intro ip
    simp [DomainCache.clearResolved, lastOfIp]
  · intro domain
    simp [DomainCache.clearResolved, lastOfDomain]
  · intro domain ip
    simp [DomainCache.clearResolved]

theorem mem_mergeCached (old : Option CachedIp) (ip : IpAddr) (target : RouteTarget) (expiry : Nat)
    (other : IpAddr) : other ∈ (DomainCache.mergeCached old ip target expiry).ips ↔
      other = ip ∨ ∃ cached, old = some cached ∧ other ∈ cached.ips := by
  cases old with
  | none => simp [DomainCache.mergeCached]
  | some cached =>
      simp only [DomainCache.mergeCached, Option.some.injEq, exists_eq_left']
      split
      · rename_i hmem
        constructor
        · exact Or.inr
        · intro hcase
          rcases hcase with rfl | h
          · exact hmem
          · exact h
      · rw [List.mem_append, List.mem_singleton, or_comm]

theorem expires_mergeCached (old : Option CachedIp) (ip : IpAddr) (target : RouteTarget)
    (expiry : Nat) : (DomainCache.mergeCached old ip target expiry).expires = expiry := by
  cases old <;> rfl

theorem filled_concat {entries : List ResolvedIpEntry} {cache : DomainCache}
    (h : Filled clock entries cache) (e : ResolvedIpEntry) (hlive : clock.nowUnix < e.expiresAt) :
    Filled clock (entries ++ [e]) (cache.insertEntry clock e) := by
  simp only [DomainCache.insertEntry, DomainCache.insertResolved, Nat.not_le.mpr hlive, if_false]
  refine ⟨?_, ?_, ?_⟩
  · intro ip
    simp only [get_insert, h.target, lastOfIp, List.filter_append]
    by_cases hip : e.ip = ip
    · simp [hip]
    · have hne : ip ≠ e.ip := fun heq => hip heq.symm
      simp [hip, hne]
  · intro domain
    simp only [get_insert, lastOfDomain, List.filter_append]
    by_cases hd : normalizeDomain e.domain = domain
    · simp [hd, expires_mergeCached, expiryInstant]
    · have hne : domain ≠ normalizeDomain e.domain := fun heq => hd heq.symm
      have hexpires := h.expires domain
      rw [lastOfDomain] at hexpires
      simp [hd, hne, hexpires]
  · intro domain ip
    simp only [get_insert, List.mem_append, List.mem_singleton]
    by_cases hd : domain = normalizeDomain e.domain
    · subst hd
      simp only [if_true, Option.some.injEq, exists_eq_left', mem_mergeCached, h.lists]
      constructor
      · intro hcase
        rcases hcase with rfl | ⟨e', hmem, hsame, rfl⟩
        · exact ⟨e, Or.inr rfl, rfl, rfl⟩
        · exact ⟨e', Or.inl hmem, hsame, rfl⟩
      · intro hcase
        obtain ⟨e', hmem | rfl, hsame, rfl⟩ := hcase
        · exact Or.inr ⟨e', hmem, hsame, rfl⟩
        · exact Or.inl rfl
    · rw [if_neg hd, h.lists]
      constructor
      · intro hcase
        obtain ⟨e', hmem, hsame, hip⟩ := hcase
        exact ⟨e', Or.inl hmem, hsame, hip⟩
      · intro hcase
        obtain ⟨e', hmem | rfl, hsame, hip⟩ := hcase
        · exact ⟨e', hmem, hsame, hip⟩
        · exact absurd hsame.symm hd

theorem filled_foldl (cache : DomainCache) (entries : List ResolvedIpEntry)
    (hlive : ∀ e ∈ entries, clock.nowUnix < e.expiresAt) :
    Filled clock entries (entries.foldl (DomainCache.insertEntry clock) cache.clearResolved) := by
  induction entries using List.reverseRecOn with
  | nil => exact filled_clearResolved clock cache
  | append_singleton entries e ih =>
      have hbefore := ih fun e' hmem => hlive e' (List.mem_append_left [e] hmem)
      rw [List.foldl_append]
      exact filled_concat clock hbefore e
        (hlive e (List.mem_append_right entries List.mem_cons_self))

end Fill

/-! ## Lookups after a sync -/

namespace DomainRouteStore

section Sync
variable (o : Order) (clock : Clock) (s : DomainRouteStore)

/-- The entries a sync copies, in the order of the walk. -/
def liveEntries : List ResolvedIpEntry :=
  (o.values s.byIp).filter fun e => clock.nowUnix < e.expiresAt

theorem syncDomainCache_filled (cache : DomainCache) :
    Filled clock (s.liveEntries o clock) (s.syncDomainCache o clock cache) := by
  refine filled_foldl clock cache (s.liveEntries o clock) ?_
  intro e hmem
  simpa using (List.mem_filter.mp hmem).2

variable {s}

theorem mem_liveEntries (hs : s.Indexed) (e : ResolvedIpEntry) :
    e ∈ s.liveEntries o clock ↔ s.entryForIp clock.nowUnix e.ip = some e := by
  simp only [liveEntries, List.mem_filter, mem_order_values, entryForIp]
  constructor
  · intro hcase
    obtain ⟨⟨ip, hget⟩, hlive⟩ := hcase
    have hip := hs.keyed ip e hget
    rw [hip, hget]
    simpa using hlive
  · intro h
    cases hget : s.byIp.get e.ip with
    | none => simp [hget] at h
    | some e' =>
        simp only [hget] at h
        split at h
        · cases h
        · rename_i hlive
          cases h
          exact ⟨⟨_, hget⟩, by simpa using hlive⟩

theorem entryForIp_ip (hs : s.Indexed) {now : Nat} {ip : IpAddr} {e : ResolvedIpEntry}
    (h : s.entryForIp now ip = some e) : e.ip = ip := by
  unfold entryForIp at h
  cases hget : s.byIp.get ip with
  | none => simp [hget] at h
  | some e' =>
      simp only [hget] at h
      split at h
      · cases h
      · cases h
        exact hs.keyed ip _ hget

theorem live_of_entry (hs : s.Indexed) {ip : IpAddr} {e : ResolvedIpEntry}
    (h : s.entryForIp clock.nowUnix ip = some e) : e.ip = ip ∧ e ∈ s.liveEntries o clock := by
  have hip := entryForIp_ip hs h
  rw [mem_liveEntries o clock hs, hip]
  exact ⟨rfl, h⟩

theorem entryForIp_none_later {now later : Nat} (hle : now ≤ later) {ip : IpAddr}
    (h : s.entryForIp now ip = none) : s.entryForIp later ip = none := by
  unfold entryForIp at *
  cases hget : s.byIp.get ip with
  | none => rfl
  | some e =>
      simp only [hget] at h ⊢
      by_cases hexp : e.expiresAt ≤ now
      · rw [if_pos (hexp.trans hle)]
      · simp [hexp] at h

theorem lastOfIp_live (hs : s.Indexed) (ip : IpAddr) :
    lastOfIp (s.liveEntries o clock) ip = s.entryForIp clock.nowUnix ip := by
  cases hlast : lastOfIp (s.liveEntries o clock) ip with
  | some e =>
      have hmem := List.mem_of_getLast? hlast
      obtain ⟨hlive, hip⟩ := List.mem_filter.mp hmem
      have hip : e.ip = ip := by simpa using hip
      rw [← hip]
      exact ((mem_liveEntries o clock hs e).mp hlive).symm
  | none =>
      cases hentry : s.entryForIp clock.nowUnix ip with
      | none => rfl
      | some e =>
          have hip := entryForIp_ip hs hentry
          have hmem : e ∈ s.liveEntries o clock := by
            rw [mem_liveEntries o clock hs, hip]
            exact hentry
          rw [lastOfIp, List.getLast?_eq_none_iff, List.filter_eq_nil_iff] at hlast
          exact absurd (by simpa using hip) (hlast e hmem)

theorem liveEntries_distinct (hs : s.Indexed) :
    ((s.liveEntries o clock).map ResolvedIpEntry.ip).Nodup := by
  have hkeys : (o.values s.byIp).map ResolvedIpEntry.ip = o.keys s.byIp := by
    simp only [Order.values, Order.keys, List.map_map]
    refine List.map_congr_left ?_
    intro h hmem
    obtain ⟨ip, e⟩ := h
    exact hs.keyed ip e ((mem_order_items o s.byIp ip e).mp hmem)
  have hall : ((o.values s.byIp).map ResolvedIpEntry.ip).Nodup := by
    rw [hkeys]
    exact order_keys_nodup o s.byIp
  exact hall.sublist (List.filter_sublist.map ResolvedIpEntry.ip)

theorem exists_lastOfDomain {e : ResolvedIpEntry} (he : e ∈ s.liveEntries o clock) :
    ∃ last, lastOfDomain (s.liveEntries o clock) (normalizeDomain e.domain) = some last ∧
      last ∈ s.liveEntries o clock ∧ normalizeDomain last.domain = normalizeDomain e.domain := by
  cases hlast : lastOfDomain (s.liveEntries o clock) (normalizeDomain e.domain) with
  | none =>
      rw [lastOfDomain, List.getLast?_eq_none_iff, List.filter_eq_nil_iff] at hlast
      exact absurd (by simp) (hlast e he)
  | some last =>
      obtain ⟨hmem, hdomain⟩ := List.mem_filter.mp (List.mem_of_getLast? hlast)
      exact ⟨last, rfl, hmem, by simpa using hdomain⟩

/-- A live entry is found in the synced cache until the expiry of its domain's last entry. -/
theorem synced_lookup (hs : s.Indexed) (cache : DomainCache) {e last : ResolvedIpEntry}
    (he : e ∈ s.liveEntries o clock)
    (hlast : lastOfDomain (s.liveEntries o clock) (normalizeDomain e.domain) = some last)
    (nanos : Nat) :
    (s.syncDomainCache o clock cache).lookupIp (clock.advance nanos) e.ip =
      if nanos < (last.expiresAt - clock.nowUnix) * nanosPerSec then some e.target else none := by
  have hfilled := syncDomainCache_filled o clock s cache
  have hentry := (mem_liveEntries o clock hs e).mp he
  have htarget := hfilled.target e.ip
  rw [lastOfIp_live o clock hs, hentry] at htarget
  have hexpires := hfilled.expires (normalizeDomain e.domain)
  rw [hlast] at hexpires
  obtain ⟨cached, hget, hinstant⟩ := Option.map_eq_some_iff.mp hexpires
  have hlisted : (s.syncDomainCache o clock cache).listed (clock.advance nanos) e.ip = true ↔
      nanos < (last.expiresAt - clock.nowUnix) * nanosPerSec := by
    simp only [DomainCache.listed, List.any_eq_true, Prod.exists, mem_items, Bool.and_eq_true,
      decide_eq_true_eq, List.contains_iff_mem]
    constructor
    · intro hcase
      obtain ⟨domain, other, hother, hlive, hip⟩ := hcase
      obtain ⟨e', hmem, rfl, hsame⟩ := (hfilled.lists domain e.ip).mp ⟨other, hother, hip⟩
      have heq : e' = e := by
        have hentry' := (mem_liveEntries o clock hs e').mp hmem
        rw [hsame, hentry] at hentry'
        exact (Option.some.inj hentry').symm
      rw [heq, hget] at hother
      cases hother
      rw [hinstant] at hlive
      simp only [Clock.advance, expiryInstant] at hlive
      omega
    · intro hlt
      obtain ⟨found, hfound, hip⟩ := (hfilled.lists (normalizeDomain e.domain) e.ip).mpr
        ⟨e, he, rfl, rfl⟩
      rw [hget] at hfound
      cases hfound
      refine ⟨_, cached, hget, ?_, hip⟩
      rw [hinstant]
      simp only [Clock.advance, expiryInstant]
      omega
  simp only [DomainCache.lookupIp, htarget, Option.map_some]
  by_cases hlt : nanos < (last.expiresAt - clock.nowUnix) * nanosPerSec
  · rw [if_pos (hlisted.mpr hlt), if_pos hlt]
  · rw [if_neg (fun h => hlt (hlisted.mp h)), if_neg hlt]

theorem synced_lookup_none (hs : s.Indexed) (cache : DomainCache) {ip : IpAddr}
    (h : s.entryForIp clock.nowUnix ip = none) (later : Clock) :
    (s.syncDomainCache o clock cache).lookupIp later ip = none := by
  have htarget := (syncDomainCache_filled o clock s cache).target ip
  rw [lastOfIp_live o clock hs, h] at htarget
  simp [DomainCache.lookupIp, htarget]

theorem lookupIp_advance (hs : s.Indexed) {e : ResolvedIpEntry} (he : e ∈ s.liveEntries o clock)
    (nanos : Nat) : s.lookupIp (clock.advance nanos).nowUnix e.ip =
      if clock.wall + nanos < e.expiresAt * nanosPerSec then some e.target else none := by
  have hentry := (mem_liveEntries o clock hs e).mp he
  have hget : s.byIp.get e.ip = some e := by
    unfold entryForIp at hentry
    cases hget : s.byIp.get e.ip with
    | none => simp [hget] at hentry
    | some e' =>
        simp only [hget] at hentry
        split at hentry <;> cases hentry
        rfl
  have hsecond : e.expiresAt ≤ (clock.wall + nanos) / nanosPerSec ↔
      ¬ clock.wall + nanos < e.expiresAt * nanosPerSec := by
    rw [Nat.le_div_iff_mul_le (by decide), Nat.not_lt]
  simp only [lookupIp, entryForIp, hget, Clock.nowUnix, Clock.advance, hsecond]
  by_cases hlive : clock.wall + nanos < e.expiresAt * nanosPerSec <;> simp [hlive]

/-- At the instant of the sync the cache answers as the store does. -/
theorem synced_lookup_now (hs : s.Reached) (cache : DomainCache) (ip : IpAddr) :
    (s.syncDomainCache o clock cache).lookupIp clock ip = s.lookupIp clock.nowUnix ip := by
  obtain ⟨hindexed, _⟩ := hs.indexed
  cases hentry : s.entryForIp clock.nowUnix ip with
  | none =>
      rw [synced_lookup_none o clock hindexed cache hentry, lookupIp, hentry]
      rfl
  | some e =>
      obtain ⟨hip, he⟩ := live_of_entry o clock hindexed hentry
      obtain ⟨last, hlast, hmem, _⟩ := exists_lastOfDomain o clock he
      have hlive : clock.nowUnix < last.expiresAt := of_decide_eq_true (List.mem_filter.mp hmem).2
      have hpos : 0 < (last.expiresAt - clock.nowUnix) * nanosPerSec :=
        Nat.mul_pos (by omega) (by decide)
      have hlookup := synced_lookup o clock hindexed cache he hlast 0
      rw [if_pos hpos, hip] at hlookup
      rw [lookupIp, hentry]
      exact hlookup

/-- A sync loses nothing: with a live entry in the store it runs at the start of a second,
and the live entries of one domain expire together. -/
def SyncExact (clock : Clock) (s : DomainRouteStore) : Prop :=
  ∀ ip e, s.entryForIp clock.nowUnix ip = some e → clock.wall % nanosPerSec = 0 ∧
    ∀ ip' e', s.entryForIp clock.nowUnix ip' = some e' →
      normalizeDomain e'.domain = normalizeDomain e.domain → e'.expiresAt = e.expiresAt

/-- Two half-open lifetimes, one on each clock, end together at every instant only if they
have the same last nanosecond. -/
theorem lifetimes_agree_iff {wall expiresAt last : Nat} (he : wall / nanosPerSec < expiresAt)
    (hlast : wall / nanosPerSec < last) :
    (∀ nanos, nanos < (last - wall / nanosPerSec) * nanosPerSec ↔
      wall + nanos < expiresAt * nanosPerSec) ↔ wall % nanosPerSec = 0 ∧ last = expiresAt := by
  simp only [nanosPerSec] at *
  constructor
  · intro h
    have hend := h ((last - wall / 1000000000) * 1000000000)
    have hbefore := h ((last - wall / 1000000000) * 1000000000 - 1)
    omega
  · intro hcase nanos
    obtain ⟨hsecond, rfl⟩ := hcase
    omega

/-- The synced cache answers as the store does at every later instant, for every address,
exactly when the sync loses nothing. -/
theorem synced_agrees_iff (hs : s.Reached) (cache : DomainCache) :
    (∀ nanos ip, (s.syncDomainCache o clock cache).lookupIp (clock.advance nanos) ip =
      s.lookupIp (clock.advance nanos).nowUnix ip) ↔ SyncExact clock s := by
  obtain ⟨hindexed, _⟩ := hs.indexed
  have hcase : ∀ e last, e ∈ s.liveEntries o clock →
      lastOfDomain (s.liveEntries o clock) (normalizeDomain e.domain) = some last →
      last ∈ s.liveEntries o clock →
      ((∀ nanos, (s.syncDomainCache o clock cache).lookupIp (clock.advance nanos) e.ip =
        s.lookupIp (clock.advance nanos).nowUnix e.ip) ↔
          clock.wall % nanosPerSec = 0 ∧ last.expiresAt = e.expiresAt) := by
    intro e last he hlast hmem
    have hlive : ∀ e' ∈ s.liveEntries o clock, clock.wall / nanosPerSec < e'.expiresAt := by
      intro e' he'
      exact of_decide_eq_true (List.mem_filter.mp he').2
    rw [← lifetimes_agree_iff (hlive e he) (hlive last hmem)]
    refine forall_congr' fun nanos => ?_
    rw [synced_lookup o clock hindexed cache he hlast, lookupIp_advance o clock hindexed he,
      Clock.nowUnix]
    by_cases h1 : nanos < (last.expiresAt - clock.wall / nanosPerSec) * nanosPerSec <;>
      by_cases h2 : clock.wall + nanos < e.expiresAt * nanosPerSec <;> simp [h1, h2]
  constructor
  · intro hagree ip e hentry
    obtain ⟨hip, he⟩ := live_of_entry o clock hindexed hentry
    obtain ⟨last, hlast, hmem, hdomain⟩ := exists_lastOfDomain o clock he
    obtain ⟨hsecond, hsame⟩ := (hcase e last he hlast hmem).mp fun nanos => hagree nanos e.ip
    refine ⟨hsecond, ?_⟩
    intro ip' e' hentry' hdomain'
    obtain ⟨_, he'⟩ := live_of_entry o clock hindexed hentry'
    have hlast' : lastOfDomain (s.liveEntries o clock) (normalizeDomain e'.domain) = some last := by
      rw [hdomain', hlast]
    obtain ⟨_, hsame'⟩ := (hcase e' last he' hlast' hmem).mp fun nanos => hagree nanos e'.ip
    rw [← hsame', hsame]
  · intro hexact nanos ip
    cases hentry : s.entryForIp clock.nowUnix ip with
    | none =>
        have hlater : s.entryForIp (clock.advance nanos).nowUnix ip = none := by
          have hle : clock.nowUnix ≤ (clock.advance nanos).nowUnix :=
            Nat.div_le_div_right (Nat.le_add_right clock.wall nanos)
          exact entryForIp_none_later hle hentry
        rw [synced_lookup_none o clock hindexed cache hentry, lookupIp, hlater]
        rfl
    | some e =>
        obtain ⟨hip, he⟩ := live_of_entry o clock hindexed hentry
        obtain ⟨last, hlast, hmem, hdomain⟩ := exists_lastOfDomain o clock he
        have hlastEntry := (mem_liveEntries o clock hindexed last).mp hmem
        obtain ⟨hsecond, hsame⟩ := hexact ip e hentry
        rw [← hip]
        exact (hcase e last he hlast hmem).mpr
          ⟨hsecond, hsame last.ip last hlastEntry hdomain⟩ nanos

end Sync

def mixedLifetimes : DomainRouteStore :=
  GuardedRun.run step (new {}) [⟨.applyResolved "cdn.example"
    [(ipv4 1 2 3 4, 60), (ipv4 5 6 7 8, 120)] ⟨10, "*.example", .tunnel⟩ (List.cons_ne_nil _ _),
    100, .identity⟩]

theorem mixedLifetimes_reached : mixedLifetimes.Reached := ⟨_, _, Initial.new {}, rfl⟩

/-- Ninety seconds on, the store has dropped one address and the cache has dropped both. -/
theorem synced_differs :
    (mixedLifetimes.syncDomainCache .identity ⟨100 * nanosPerSec, 0⟩
      (DomainCache.fromRules [])).lookupIp
        (Clock.advance ⟨100 * nanosPerSec, 0⟩ (90 * nanosPerSec)) (ipv4 5 6 7 8) ≠
    mixedLifetimes.lookupIp
      (Clock.advance ⟨100 * nanosPerSec, 0⟩ (90 * nanosPerSec)).nowUnix (ipv4 5 6 7 8) := by
  decide

theorem synced_agrees_iff_mixedLifetimes :
    (∀ nanos ip, (mixedLifetimes.syncDomainCache .identity ⟨100 * nanosPerSec, 0⟩
      (DomainCache.fromRules [])).lookupIp
        (Clock.advance ⟨100 * nanosPerSec, 0⟩ nanos) ip =
      mixedLifetimes.lookupIp (Clock.advance ⟨100 * nanosPerSec, 0⟩ nanos).nowUnix ip) ↔
    SyncExact ⟨100 * nanosPerSec, 0⟩ mixedLifetimes :=
  synced_agrees_iff .identity ⟨100 * nanosPerSec, 0⟩ mixedLifetimes_reached
    (DomainCache.fromRules [])

end DomainRouteStore
end RouteGuard
