import RouteGuard.Routing.StoreIndex

/-! # A store written to its file and read back

Loading inserts the unexpired entries of the file one by one.  At each insertion
the new store holds a part of what the written store held, which was within the
caps, so nothing is evicted. -/
set_option autoImplicit false
namespace RouteGuard

open HashTable

namespace DomainRouteStore

/-! ## A part of a store -/

structure PartOf (s t : DomainRouteStore) : Prop where
  config : t.config = s.config
  indexed : t.Indexed
  held : ∀ ip e, t.byIp.get ip = some e → s.byIp.get ip = some e

section Part
variable {s t : DomainRouteStore}

theorem PartOf.byIp_size (h : PartOf s t) : t.byIp.size ≤ s.byIp.size := by
  refine size_le_of_keys t.byIp s.byIp ?_
  intro ip hmem
  obtain ⟨e, hget⟩ := (mem_iff_get t.byIp ip).mp hmem
  exact (mem_iff_get s.byIp ip).mpr ⟨e, h.held ip e hget⟩

/-- A domain of the part has an address there, whose entry the whole store holds too. -/
theorem PartOf.byDomain_size (h : PartOf s t) (hs : s.Indexed) :
    t.byDomain.size ≤ s.byDomain.size := by
  refine size_le_of_keys t.byDomain s.byDomain ?_
  intro domain hmem
  obtain ⟨ips, hips⟩ := (mem_iff_get t.byDomain domain).mp hmem
  obtain ⟨ip, u, hip⟩ := exists_get_of_size_pos ips (h.indexed.noEmpty domain ips hips)
  have hin : InDomain t.byDomain domain ip := ⟨ips, hips, (mem_iff_get ips ip).mpr ⟨u, hip⟩⟩
  obtain ⟨e, hget, hdomain⟩ := (h.indexed.agree domain ip).mp hin
  obtain ⟨ips', hips', _⟩ := (hs.agree domain ip).mpr ⟨e, h.held ip e hget, hdomain⟩
  exact (mem_iff_get s.byDomain domain).mpr ⟨ips', hips'⟩

theorem PartOf.capped (h : PartOf s t) (hs : s.Indexed) (hc : s.Capped) : t.Capped := by
  constructor
  · rw [h.config]
    exact h.byIp_size.trans hc.byIp_le
  · rw [h.config]
    exact (h.byDomain_size hs).trans hc.byDomain_le

theorem PartOf.indexEntry (h : PartOf s t) {entry : ResolvedIpEntry}
    (hheld : s.byIp.get entry.ip = some entry) : PartOf s (t.indexEntry entry) := by
  refine ⟨h.config, indexEntry_indexed h.indexed entry, ?_⟩
  intro ip e hget
  rw [indexEntry_get] at hget
  split at hget
  · rename_i hip
    cases hget
    rw [hip]
    exact hheld
  · exact h.held ip e hget

/-- Inserting an entry of the whole store into a part evicts nothing. -/
theorem PartOf.insertEntry_eq (h : PartOf s t) (hs : s.Indexed) (hc : s.Capped) (o : Order)
    {entry : ResolvedIpEntry} (hheld : s.byIp.get entry.ip = some entry) :
    t.insertEntry o entry = t.indexEntry entry :=
  enforceCaps_eq_self o ((h.indexEntry hheld).capped hs hc)

end Part

/-! ## Replaying entries -/

section Replay
variable {s : DomainRouteStore} (hs : s.Indexed) (hc : s.Capped) (o : Order)
include hs hc

theorem replay_part : ∀ (entries : List ResolvedIpEntry) (t : DomainRouteStore), PartOf s t →
    (∀ e ∈ entries, s.byIp.get e.ip = some e) → PartOf s (entries.foldl (insertEntry o) t) := by
  intro entries
  induction entries with
  | nil => intro t ht _; exact ht
  | cons entry rest ih =>
      intro t ht hheld
      have hentry := hheld entry List.mem_cons_self
      rw [List.foldl_cons, ht.insertEntry_eq hs hc o hentry]
      exact ih _ (ht.indexEntry hentry) fun e he => hheld e (List.mem_cons_of_mem _ he)

/-- What was there stays, and every replayed entry is stored. -/
theorem replay_get (ip : IpAddr) (e : ResolvedIpEntry) :
    ∀ (entries : List ResolvedIpEntry) (t : DomainRouteStore), PartOf s t →
    (∀ e ∈ entries, s.byIp.get e.ip = some e) →
    ((entries.foldl (insertEntry o) t).byIp.get ip = some e ↔
      t.byIp.get ip = some e ∨ e ∈ entries ∧ e.ip = ip) := by
  intro entries
  induction entries with
  | nil => intro t _ _; simp
  | cons entry rest ih =>
      intro t ht hheld
      have hentry := hheld entry List.mem_cons_self
      have hrest : ∀ e ∈ rest, s.byIp.get e.ip = some e :=
        fun e he => hheld e (List.mem_cons_of_mem _ he)
      rw [List.foldl_cons, ht.insertEntry_eq hs hc o hentry, ih _ (ht.indexEntry hentry) hrest,
        indexEntry_get]
      by_cases hip : ip = entry.ip
      · subst hip
        -- an entry the part already held for the address is this one
        have hsame : t.byIp.get entry.ip = some e → entry = e := by
          intro hget
          have hwhole := ht.held entry.ip e hget
          rw [hentry] at hwhole
          exact Option.some.inj hwhole
        simp only [if_true, Option.some.injEq, List.mem_cons]
        constructor
        · intro hcase
          rcases hcase with heq | hlater
          · exact Or.inr ⟨Or.inl heq.symm, heq ▸ rfl⟩
          · exact Or.inr ⟨Or.inr hlater.1, hlater.2⟩
        · intro hcase
          rcases hcase with hget | ⟨heq | hmem, hip⟩
          · exact Or.inl (hsame hget)
          · exact Or.inl heq.symm
          · exact Or.inr ⟨hmem, hip⟩
      · have hne : ∀ e : ResolvedIpEntry, e.ip = ip → e ≠ entry := by
          intro e he heq
          exact hip (heq ▸ he.symm)
        simp only [if_neg hip, List.mem_cons]
        constructor
        · intro hcase
          exact hcase.imp_right fun h => ⟨Or.inr h.1, h.2⟩
        · intro hcase
          exact hcase.imp_right fun h => ⟨h.1.resolve_left (hne e h.2), h.2⟩

end Replay

/-! ## Reading the file back -/

/-- The result is a store in order that answers lookups as `s` does from `now` on. -/
def Restores (s : DomainRouteStore) (now : Nat) (result : Except String DomainRouteStore) : Prop :=
  ∃ t, result = .ok t ∧ (∀ later, now ≤ later → ∀ ip, t.lookupIp later ip = s.lookupIp later ip) ∧
    t.Indexed ∧ t.Capped

/-- A store that lacks only what has expired answers every later lookup alike. -/
theorem lookupIp_of_filter {s t : DomainRouteStore} {now : Nat}
    (h : ∀ ip e, t.byIp.get ip = some e ↔ s.byIp.get ip = some e ∧ now < e.expiresAt)
    {later : Nat} (hlater : now ≤ later) (ip : IpAddr) :
    t.lookupIp later ip = s.lookupIp later ip := by
  have hentry : t.entryForIp later ip = s.entryForIp later ip := by
    unfold entryForIp
    cases ht : t.byIp.get ip with
    | some e =>
        obtain ⟨hget, _⟩ := (h ip e).mp ht
        rw [hget]
    | none =>
        cases hs : s.byIp.get ip with
        | none => rfl
        | some e =>
            have hexpired : ¬ now < e.expiresAt := by
              intro hlive
              have hget := (h ip e).mpr ⟨hs, hlive⟩
              rw [ht] at hget
              cases hget
            have hle : e.expiresAt ≤ later := by omega
            simp [hle]
  rw [lookupIp, lookupIp, hentry]

/-- Any file with the entries of a store in order and within its caps restores the store. -/
theorem loadPersisted_restores {s : DomainRouteStore} (hs : s.Indexed) (hc : s.Capped)
    (o : Order) (now : Nat) {file : PersistedDomainCache} (hversion : file.version = 1)
    (hentries : ∀ e, e ∈ file.entries ↔ s.byIp.get e.ip = some e) :
    Restores s now (loadPersisted o now (.ok file) s.config) := by
  obtain ⟨hnew, _⟩ := new_indexed s.config
  have hempty : PartOf s { new s.config with generation := file.generation } :=
    ⟨rfl, ⟨hnew.keyed, hnew.agree, hnew.noEmpty⟩, fun ip e hget => by simp [new] at hget⟩
  have hheld : ∀ e ∈ file.entries.filter fun entry => now < entry.expiresAt,
      s.byIp.get e.ip = some e :=
    fun e he => (hentries e).mp (List.mem_of_mem_filter he)
  have hpart := replay_part hs hc o _ _ hempty hheld
  refine ⟨_, by simp only [loadPersisted, hversion, ne_eq, not_true, if_false],
    fun later hlater ip => lookupIp_of_filter ?_ hlater ip, hpart.indexed, hpart.capped hs hc⟩
  intro ip e
  rw [replay_get hs hc o ip e _ _ hempty hheld]
  simp only [new, get_empty, reduceCtorEq, false_or, List.mem_filter, decide_eq_true_eq, hentries]
  constructor
  · intro hcase
    obtain ⟨⟨hget, hlive⟩, rfl⟩ := hcase
    exact ⟨hget, hlive⟩
  · intro hcase
    obtain ⟨hget, hlive⟩ := hcase
    have hip := hs.keyed ip e hget
    exact ⟨⟨by rw [hip]; exact hget, hlive⟩, hip⟩

section File
variable (encode : PersistedDomainCache → Except String String)
  (decode : String → Except String PersistedDomainCache)

/-- The cache can be written, and what is written decodes to it. -/
def Undoes (cache : PersistedDomainCache) : Prop :=
  ∃ json, encode cache = .ok json ∧ decode json = .ok cache

/-- The file `persist_json` writes restores the store, and so does every file that lists the
same entries in another order. -/
theorem persistJson_restores {s : DomainRouteStore} (hs : Reached s) (o o' : Order) (now : Nat)
    {entries : List ResolvedIpEntry} (hperm : entries.Perm (s.toPersisted o).entries)
    (hserde : Undoes encode decode (s.toPersisted o))
    (hserde' : Undoes encode decode { s.toPersisted o with entries := entries }) :
    (∃ json, s.persistJson encode o = .ok json ∧
      Restores s now (loadPersisted o' now (decode json) s.config)) ∧
    (∃ json, encode { s.toPersisted o with entries := entries } = .ok json ∧
      Restores s now (loadPersisted o' now (decode json) s.config)) := by
  obtain ⟨hindexed, hcapped⟩ := hs.indexed
  have hwritten : ∀ e, e ∈ (s.toPersisted o).entries ↔ s.byIp.get e.ip = some e := by
    intro e
    rw [toPersisted, mem_order_values]
    constructor
    · intro hcase
      obtain ⟨ip, hget⟩ := hcase
      rw [hindexed.keyed ip e hget]
      exact hget
    · intro hget
      exact ⟨e.ip, hget⟩
  constructor
  · obtain ⟨json, hencode, hdecode⟩ := hserde
    refine ⟨json, by rw [persistJson, hencode]; rfl, ?_⟩
    rw [hdecode]
    exact loadPersisted_restores hindexed hcapped o' now rfl hwritten
  · obtain ⟨json, hencode, hdecode⟩ := hserde'
    refine ⟨json, hencode, ?_⟩
    rw [hdecode]
    exact loadPersisted_restores hindexed hcapped o' now rfl
      fun e => (hperm.mem_iff).trans (hwritten e)

end File

def answeredJson : String :=
  "\x7b\n  \"version\": 1,\n  \"generation\": 0,\n  \"entries\": [\n    \x7b\n" ++
  "      \"ip\": \"1.2.3.4\",\n      \"domain\": \"a.example\",\n" ++
  "      \"pattern\": \"*.example\",\n      \"target\": \"tunnel\",\n" ++
  "      \"expires_at\": 160,\n      \"ttl_secs\": 60\n    \x7d\n  ]\n\x7d"

def answeredCache : PersistedDomainCache :=
  ⟨1, 0, [⟨ipv4 1 2 3 4, "a.example", "*.example", .tunnel, 160, 60⟩]⟩

def answeredStore : DomainRouteStore :=
  GuardedRun.run step (new {})
    [Call.single 100 "a.example" (ipv4 1 2 3 4, 60) ⟨10, "*.example", .tunnel⟩]

def answeredDecode (json : String) : Except String PersistedDomainCache :=
  if json = answeredJson then .ok answeredCache else .error "expected value at line 1 column 1"

theorem persistJson_restores_answered :
    ∃ json, answeredStore.persistJson (fun _ => .ok answeredJson) .identity = .ok json ∧
      Restores answeredStore 120
        (loadPersisted .identity 120 (answeredDecode json) answeredStore.config) :=
  have hreached : Reached answeredStore := ⟨new {}, _, .new {}, rfl⟩
  have hwritten : answeredStore.toPersisted .identity = answeredCache := by decide
  have hserde : Undoes (fun _ => .ok answeredJson) answeredDecode
      (answeredStore.toPersisted .identity) :=
    ⟨answeredJson, rfl, by rw [hwritten]; exact if_pos rfl⟩
  (persistJson_restores (fun _ => .ok answeredJson) answeredDecode hreached .identity .identity 120
    (List.Perm.refl _) hserde hserde).1

end DomainRouteStore
end RouteGuard
