import RouteGuard.Routing.DomainStore
import RouteGuard.Lib.GuardedRun

/-! # The two indexes of the domain route store

`by_ip` and `by_domain` describe the same set of entries after every operation,
and both stay within their caps.  Each operation is reduced to what it does to
`by_ip` and to membership in `by_domain`. -/
set_option autoImplicit false
namespace RouteGuard

open HashTable

def InDomain (byDomain : Table String (Table IpAddr Unit)) (domain : String) (ip : IpAddr) : Prop :=
  ∃ ips, byDomain.get domain = some ips ∧ ip ∈ ips

def NoEmptySet (byDomain : Table String (Table IpAddr Unit)) : Prop :=
  ∀ domain ips, byDomain.get domain = some ips → 0 < ips.size

namespace DomainRouteStore

structure Indexed (s : DomainRouteStore) : Prop where
  keyed : ∀ ip e, s.byIp.get ip = some e → e.ip = ip
  agree : ∀ domain ip, InDomain s.byDomain domain ip ↔
    ∃ e, s.byIp.get ip = some e ∧ e.domain = domain
  noEmpty : NoEmptySet s.byDomain

structure Capped (s : DomainRouteStore) : Prop where
  byIp_le : s.byIp.size ≤ s.config.maxResolvedIps
  byDomain_le : s.byDomain.size ≤ s.config.maxDomains

/-! ## Set maintenance -/

section Sets
variable (byDomain : Table String (Table IpAddr Unit)) (domain : String) (ip : IpAddr)

theorem mem_insert_unit (ips : Table IpAddr Unit) (other : IpAddr) :
    other ∈ ips.insert ip () ↔ other = ip ∨ other ∈ ips := by
  rw [mem_iff_get, mem_iff_get, get_insert]
  by_cases h : other = ip <;> simp [h]

theorem mem_remove_unit (ips : Table IpAddr Unit) (other : IpAddr) :
    other ∈ ips.remove ip ↔ other ≠ ip ∧ other ∈ ips := by
  rw [mem_iff_get, mem_iff_get, get_remove]
  by_cases h : other = ip <;> simp [h]

theorem inDomain_index (d : String) (other : IpAddr) :
    InDomain (index byDomain domain ip) d other ↔
      InDomain byDomain d other ∨ (d = domain ∧ other = ip) := by
  simp only [InDomain, index, get_insert]
  by_cases hd : d = domain
  · subst hd
    cases hg : byDomain.get d with
    | none =>
        simp only [if_true, Option.getD_none, Option.some.injEq, exists_eq_left', mem_insert_unit]
        simp [AList.notMem_empty]
    | some ips =>
        simp only [if_true, Option.getD_some, Option.some.injEq, exists_eq_left', mem_insert_unit]
        tauto
  · simp [hd]

theorem noEmptySet_index (h : NoEmptySet byDomain) : NoEmptySet (index byDomain domain ip) := by
  intro d ips hget
  simp only [index, get_insert] at hget
  split at hget
  · cases hget
    exact size_pos_of_mem _ ip ((mem_insert_unit ip _ ip).mpr (Or.inl rfl))
  · exact h d ips hget

theorem inDomain_unindex (d : String) (other : IpAddr) :
    InDomain (unindex byDomain domain ip) d other ↔
      InDomain byDomain d other ∧ ¬ (d = domain ∧ other = ip) := by
  cases hg : byDomain.get domain with
  | none =>
      have hnot : ∀ x, ¬ InDomain byDomain domain x := by
        intro x hcase
        obtain ⟨ips, hips, _⟩ := hcase
        rw [hg] at hips
        cases hips
      simp only [unindex, hg]
      constructor
      · intro h
        exact ⟨h, fun hd => hnot other (hd.1 ▸ h)⟩
      · exact And.left
  | some ips =>
      simp only [unindex, hg]
      split
      · rename_i hempty
        have honly : ∀ x ∈ ips, x = ip := by
          intro x hx
          by_contra hne
          have hmem := (mem_remove_unit ip ips x).mpr ⟨hne, hx⟩
          have hpos := size_pos_of_mem _ x hmem
          omega
        simp only [InDomain, get_remove]
        by_cases hd : d = domain
        · subst hd
          simp only [if_true, hg]
          simp only [reduceCtorEq, false_and, exists_false, Option.some.injEq, exists_eq_left',
            true_and, false_iff, not_and, not_not]
          exact honly other
        · simp [hd]
      · simp only [InDomain, get_insert]
        by_cases hd : d = domain
        · subst hd
          simp only [if_true, hg, Option.some.injEq, exists_eq_left', mem_remove_unit, true_and]
          tauto
        · simp [hd]

theorem noEmptySet_unindex (h : NoEmptySet byDomain) : NoEmptySet (unindex byDomain domain ip) := by
  intro d ips hget
  cases hg : byDomain.get domain with
  | none =>
      simp only [unindex, hg] at hget
      exact h d ips hget
  | some old =>
      simp only [unindex, hg] at hget
      split at hget
      · rw [get_remove] at hget
        split at hget
        · cases hget
        · exact h d ips hget
      · rename_i hsize
        rw [get_insert] at hget
        split at hget
        · cases hget
          omega
        · exact h d ips hget

theorem size_unindex_le : (unindex byDomain domain ip).size ≤ byDomain.size := by
  cases hg : byDomain.get domain with
  | none => simp [unindex, hg]
  | some ips =>
      simp only [unindex, hg]
      split
      · exact size_remove_le byDomain domain
      · have hmem : domain ∈ byDomain := (mem_iff_get byDomain domain).mpr ⟨ips, hg⟩
        exact (size_insert_of_mem byDomain domain _ hmem).le

end Sets

/-! ## Removal -/

section Remove
variable (s : DomainRouteStore) (ip : IpAddr)

theorem removeIp_get (other : IpAddr) :
    (s.removeIp ip).2.byIp.get other = if other = ip then none else s.byIp.get other := by
  unfold removeIp
  cases hg : s.byIp.get ip with
  | none =>
      by_cases ho : other = ip
      · subst ho
        simp [hg]
      · simp [ho]
  | some e => exact get_remove s.byIp ip other

theorem removeIp_rest :
    (s.removeIp ip).2.rules = s.rules ∧ (s.removeIp ip).2.config = s.config := by
  unfold removeIp
  cases s.byIp.get ip <;> exact ⟨rfl, rfl⟩

theorem removeIp_fst : (s.removeIp ip).1 = s.byIp.get ip := by
  unfold removeIp
  cases s.byIp.get ip <;> rfl

theorem removeIp_sizes : (s.removeIp ip).2.byIp.size ≤ s.byIp.size ∧
    (s.removeIp ip).2.byDomain.size ≤ s.byDomain.size := by
  unfold removeIp
  cases s.byIp.get ip with
  | none => exact ⟨Nat.le_refl _, Nat.le_refl _⟩
  | some e => exact ⟨size_remove_le s.byIp ip, size_unindex_le s.byDomain e.domain ip⟩

theorem removeIp_indexed (h : s.Indexed) : (s.removeIp ip).2.Indexed := by
  cases hg : s.byIp.get ip with
  | none => simpa [removeIp, hg] using h
  | some e =>
      have hstate : (s.removeIp ip).2 =
          { s with byIp := s.byIp.remove ip, byDomain := unindex s.byDomain e.domain ip } := by
        simp [removeIp, hg]
      refine ⟨?_, ?_, ?_⟩
      · intro other e' hget
        rw [removeIp_get] at hget
        split at hget
        · cases hget
        · exact h.keyed other e' hget
      · intro domain other
        rw [removeIp_get, hstate]
        simp only [inDomain_unindex, h.agree]
        by_cases ho : other = ip
        · subst ho
          simp only [hg, Option.some.injEq, exists_eq_left', if_true, reduceCtorEq, false_and,
            exists_false, iff_false, and_true, not_and, not_not]
          exact fun hd => hd.symm
        · simp [ho]
      · rw [hstate]
        exact noEmptySet_unindex s.byDomain e.domain ip h.noEmpty

theorem removeIp_capped (h : s.Capped) : (s.removeIp ip).2.Capped := by
  obtain ⟨h1, h2⟩ := removeIp_sizes s ip
  obtain ⟨_, hconfig⟩ := removeIp_rest s ip
  constructor
  · rw [hconfig]
    exact h1.trans h.byIp_le
  · rw [hconfig]
    exact h2.trans h.byDomain_le

theorem removeIps_keeps {P : DomainRouteStore → Prop} (hstep : ∀ s ip, P s → P (s.removeIp ip).2) :
    ∀ (ips : List IpAddr) (s : DomainRouteStore), P s → P (s.removeIps ips).2 := by
  intro ips
  induction ips with
  | nil => intro s h; exact h
  | cons ip rest ih => intro s h; exact ih _ (hstep s ip h)

theorem removeIps_get (ips : List IpAddr) (other : IpAddr) : ∀ s : DomainRouteStore,
    (s.removeIps ips).2.byIp.get other = if other ∈ ips then none else s.byIp.get other := by
  induction ips with
  | nil => intro s; simp [removeIps]
  | cons ip rest ih =>
      intro s
      have hstep : (s.removeIps (ip :: rest)).2 = ((s.removeIp ip).2.removeIps rest).2 := rfl
      rw [hstep, ih, removeIp_get]
      by_cases hrest : other ∈ rest
      · simp [hrest]
      · by_cases ho : other = ip <;> simp [ho, hrest]

theorem removeIps_rest (ips : List IpAddr) :
    (s.removeIps ips).2.rules = s.rules ∧ (s.removeIps ips).2.config = s.config := by
  refine removeIps_keeps (P := fun t => t.rules = s.rules ∧ t.config = s.config) ?_ ips s ⟨rfl, rfl⟩
  intro t ip h
  obtain ⟨hr, hc⟩ := removeIp_rest t ip
  exact ⟨hr.trans h.1, hc.trans h.2⟩

theorem mem_removeIps (ips : List IpAddr) (e : ResolvedIpEntry) : ∀ s : DomainRouteStore,
    e ∈ (s.removeIps ips).1 ↔ ∃ ip ∈ ips, s.byIp.get ip = some e := by
  induction ips with
  | nil => intro s; simp [removeIps]
  | cons ip rest ih =>
      intro s
      have hstep : (s.removeIps (ip :: rest)).1 =
          (s.removeIp ip).1.toList ++ ((s.removeIp ip).2.removeIps rest).1 := rfl
      rw [hstep, List.mem_append, Option.mem_toList, removeIp_fst, ih]
      constructor
      · intro hcase
        rcases hcase with h | ⟨other, hmem, hget⟩
        · exact ⟨ip, List.mem_cons_self, h⟩
        · rw [removeIp_get] at hget
          split at hget
          · cases hget
          · exact ⟨other, List.mem_cons_of_mem _ hmem, hget⟩
      · intro hcase
        obtain ⟨other, hmem, hget⟩ := hcase
        by_cases ho : other = ip
        · subst ho
          exact Or.inl hget
        · right
          refine ⟨other, (List.mem_cons.mp hmem).resolve_left ho, ?_⟩
          rw [removeIp_get, if_neg ho]
          exact hget

end Remove

/-! ## Eviction -/

section Evict
variable (o : Order)

theorem evictOldest_cases {s next : DomainRouteStore} (h : s.evictOldest o = some next) :
    ∃ ip ∈ s.byIp, next = (s.removeIp ip).2 := by
  unfold evictOldest at h
  split at h
  · cases hm : (o.items s.byIp).argmin fun row => row.2.expiresAt with
    | none => simp [hm] at h
    | some row =>
        obtain ⟨ip, e⟩ := row
        simp only [hm, Option.some.injEq] at h
        have hmem := (mem_order_items o s.byIp ip e).mp (List.argmin_mem hm)
        exact ⟨ip, (mem_iff_get s.byIp ip).mpr ⟨e, hmem⟩, h.symm⟩
  · cases h

theorem evictOldest_shrinks (s next : DomainRouteStore) (h : s.evictOldest o = some next) :
    next.byIp.size < s.byIp.size := by
  obtain ⟨ip, hmem, rfl⟩ := evictOldest_cases o h
  obtain ⟨e, hget⟩ := (mem_iff_get s.byIp ip).mp hmem
  have hsize := size_remove_of_mem s.byIp ip hmem
  simp only [removeIp, hget]
  omega

theorem evictOldest_exits {s : DomainRouteStore} (h : WhileLoop.Exits (evictOldest o) s) :
    s.byIp.size ≤ s.config.maxResolvedIps := by
  by_contra hlt
  have hlt : s.config.maxResolvedIps < s.byIp.size := Nat.lt_of_not_le hlt
  obtain ⟨ip, e, hget⟩ := exists_get_of_size_pos s.byIp (by omega)
  obtain ⟨row, _, hmin⟩ :=
    argmin_exists_of_mem (fun row : IpAddr × ResolvedIpEntry => row.2.expiresAt)
    (o.items s.byIp) (ip, e) ((mem_order_items o s.byIp ip e).mpr hget)
  simp [WhileLoop.Exits, evictOldest, hlt, hmin] at h

theorem mem_order_keys_domain (s : DomainRouteStore) (domain : String) (ip : IpAddr) :
    ip ∈ o.keys ((s.byDomain.get domain).getD ∅) ↔ InDomain s.byDomain domain ip := by
  rw [mem_order_keys, ← mem_iff_get]
  cases hd : s.byDomain.get domain with
  | none => simp [InDomain, hd, AList.notMem_empty]
  | some ips => simp [InDomain, hd]

def withoutDomain (s : DomainRouteStore) (domain : String) : DomainRouteStore :=
  { s with
    byDomain := s.byDomain.remove domain
    byIp := s.byIp.removeAll (o.keys ((s.byDomain.get domain).getD ∅)) }

theorem evictDomain_cases {s next : DomainRouteStore} (h : s.evictDomain o = some next) :
    ∃ domain ∈ s.byDomain, next = s.withoutDomain o domain := by
  unfold evictDomain at h
  split at h
  · cases hv : s.victimDomain o with
    | none => simp [hv] at h
    | some domain =>
        simp only [hv, Option.some.injEq] at h
        refine ⟨domain, ?_, h.symm⟩
        obtain ⟨⟨name, expiry⟩, hmin, rfl⟩ := Option.map_eq_some_iff.mp hv
        obtain ⟨row, hrow, hexp⟩ := List.mem_filterMap.mp (List.argmin_mem hmin)
        obtain ⟨exp, _, hpair⟩ := Option.map_eq_some_iff.mp hexp
        cases hpair
        exact (mem_iff_get s.byDomain row.1).mpr ⟨row.2, (mem_order_items o _ _ _).mp hrow⟩
  · cases h

theorem evictDomain_shrinks (s next : DomainRouteStore) (h : s.evictDomain o = some next) :
    next.byDomain.size < s.byDomain.size := by
  obtain ⟨domain, hmem, rfl⟩ := evictDomain_cases o h
  have hsize := size_remove_of_mem s.byDomain domain hmem
  simp only [withoutDomain]
  omega

theorem withoutDomain_get {s : DomainRouteStore} (h : s.Indexed) (domain : String) (ip : IpAddr)
    (e : ResolvedIpEntry) : (s.withoutDomain o domain).byIp.get ip = some e ↔
      s.byIp.get ip = some e ∧ e.domain ≠ domain := by
  simp only [withoutDomain, get_removeAll, mem_order_keys_domain, h.agree]
  constructor
  · intro hget
    split at hget
    · cases hget
    · rename_i hnot
      exact ⟨hget, fun hd => hnot ⟨e, hget, hd⟩⟩
  · intro hcase
    obtain ⟨hget, hne⟩ := hcase
    have hnot : ¬ ∃ e', s.byIp.get ip = some e' ∧ e'.domain = domain := by
      intro hcase
      obtain ⟨e', hget', hd⟩ := hcase
      rw [hget] at hget'
      cases hget'
      exact hne hd
    rw [if_neg hnot, hget]

theorem withoutDomain_indexed {s : DomainRouteStore} (h : s.Indexed) (domain : String) :
    (s.withoutDomain o domain).Indexed := by
  refine ⟨?_, ?_, ?_⟩
  · intro ip e hget
    exact h.keyed ip e ((withoutDomain_get o h domain ip e).mp hget).1
  · intro d ip
    simp only [withoutDomain_get o h domain]
    have hin : InDomain (s.withoutDomain o domain).byDomain d ip ↔
        InDomain s.byDomain d ip ∧ d ≠ domain := by
      simp only [InDomain, withoutDomain, get_remove]
      by_cases hd : d = domain <;> simp [hd]
    rw [hin, h.agree]
    constructor
    · intro hcase
      obtain ⟨⟨e, hget, rfl⟩, hne⟩ := hcase
      exact ⟨e, ⟨hget, hne⟩, rfl⟩
    · intro hcase
      obtain ⟨e, ⟨hget, hne⟩, rfl⟩ := hcase
      exact ⟨⟨e, hget, rfl⟩, hne⟩
  · intro d ips hget
    simp only [withoutDomain, get_remove] at hget
    split at hget
    · cases hget
    · exact h.noEmpty d ips hget

theorem evictDomain_exits {s : DomainRouteStore} (hs : s.Indexed)
    (h : WhileLoop.Exits (evictDomain o) s) : s.byDomain.size ≤ s.config.maxDomains := by
  by_contra hlt
  have hlt : s.config.maxDomains < s.byDomain.size := Nat.lt_of_not_le hlt
  -- some domain holds an address, whose entry makes it a candidate
  obtain ⟨domain, ips, hget⟩ := exists_get_of_size_pos s.byDomain (by omega)
  obtain ⟨ip, u, hip⟩ := exists_get_of_size_pos ips (hs.noEmpty domain ips hget)
  have hin : InDomain s.byDomain domain ip := ⟨ips, hget, (mem_iff_get ips ip).mpr ⟨u, hip⟩⟩
  obtain ⟨e, he, _⟩ := (hs.agree domain ip).mp hin
  have hmem : e.expiresAt ∈ ((o.keys ips).filterMap s.byIp.get).map ResolvedIpEntry.expiresAt :=
    List.mem_map_of_mem (List.mem_filterMap.mpr ⟨ip, (mem_order_keys o ips ip).mpr ⟨u, hip⟩, he⟩)
  obtain ⟨least, hleast⟩ : ∃ least, s.domainExpiry o ips = some least := by
    cases hm : s.domainExpiry o ips with
    | none =>
        rw [domainExpiry, List.min?_eq_none_iff] at hm
        rw [hm] at hmem
        cases hmem
    | some least => exact ⟨least, rfl⟩
  have hcand : (domain, least) ∈ (o.items s.byDomain).filterMap fun row =>
      (s.domainExpiry o row.2).map fun expiry => (row.1, expiry) :=
    List.mem_filterMap.mpr ⟨(domain, ips), (mem_order_items o _ _ _).mpr hget, by simp [hleast]⟩
  obtain ⟨victim, _, hmin⟩ := argmin_exists_of_mem Prod.snd _ _ hcand
  simp [WhileLoop.Exits, evictDomain, victimDomain, hlt, hmin] at h

end Evict

/-! ## Caps -/

section Caps
variable (o : Order)

def afterOldest (s : DomainRouteStore) : DomainRouteStore :=
  WhileLoop.iterate (evictOldest o) s.byIp.size s

/-- Both loops of `enforce_caps` stop at their own exits, not for want of fuel. -/
def EvictionEnds (s : DomainRouteStore) : Prop :=
  WhileLoop.Exits (evictOldest o) (s.afterOldest o) ∧
  WhileLoop.Exits (evictDomain o) (s.enforceCaps o)

theorem evictionEnds (s : DomainRouteStore) : EvictionEnds o s :=
  ⟨WhileLoop.iterate_exits _ (fun s => s.byIp.size) (evictOldest_shrinks o) _ s (Nat.le_refl _),
    WhileLoop.iterate_exits _ (fun s => s.byDomain.size) (evictDomain_shrinks o) _ (s.afterOldest o)
      (Nat.le_refl _)⟩

/-- Whatever one removal and the dropping of one domain keep, both loops keep. -/
theorem enforceCaps_keeps {P : DomainRouteStore → Prop}
    (hip : ∀ s ip, P s → P (s.removeIp ip).2)
    (hdomain : ∀ s domain, P s → P (s.withoutDomain o domain)) (s : DomainRouteStore) (h : P s) :
    P (s.enforceCaps o) := by
  refine WhileLoop.iterate_invariant _ ?_ _ _ (WhileLoop.iterate_invariant _ ?_ _ _ h)
  · intro s next hs hnext
    obtain ⟨domain, _, rfl⟩ := evictDomain_cases o hnext
    exact hdomain s domain hs
  · intro s next hs hnext
    obtain ⟨ip, _, rfl⟩ := evictOldest_cases o hnext
    exact hip s ip hs

theorem enforceCaps_rest (s : DomainRouteStore) :
    (s.enforceCaps o).rules = s.rules ∧ (s.enforceCaps o).config = s.config := by
  refine enforceCaps_keeps o (P := fun t => t.rules = s.rules ∧ t.config = s.config) ?_ ?_ s
    ⟨rfl, rfl⟩
  · intro t ip h
    obtain ⟨hr, hc⟩ := removeIp_rest t ip
    exact ⟨hr.trans h.1, hc.trans h.2⟩
  · intro t domain h
    exact h

/-- Eviction invents no entry. -/
theorem enforceCaps_get (s : DomainRouteStore) {ip : IpAddr} {e : ResolvedIpEntry}
    (h : (s.enforceCaps o).byIp.get ip = some e) : s.byIp.get ip = some e := by
  revert ip e
  refine enforceCaps_keeps o
    (P := fun t => ∀ {ip e}, t.byIp.get ip = some e → s.byIp.get ip = some e) ?_ ?_ s (fun h => h)
  · intro t ip' ht ip e hget
    rw [removeIp_get] at hget
    split at hget
    · cases hget
    · exact ht hget
  · intro t domain ht ip e hget
    simp only [withoutDomain, get_removeAll] at hget
    split at hget
    · cases hget
    · exact ht hget

theorem enforceCaps_indexed {s : DomainRouteStore} (h : s.Indexed) : (s.enforceCaps o).Indexed :=
  enforceCaps_keeps o removeIp_indexed (fun _ domain hs => withoutDomain_indexed o hs domain) s h

theorem enforceCaps_capped {s : DomainRouteStore} (h : s.Indexed) : (s.enforceCaps o).Capped := by
  obtain ⟨holdest, hdomain⟩ := evictionEnds o s
  have hsize : (s.afterOldest o).byIp.size ≤ (s.afterOldest o).config.maxResolvedIps :=
    evictOldest_exits o holdest
  constructor
  · refine WhileLoop.iterate_invariant (evictDomain o)
      (P := fun t => t.byIp.size ≤ t.config.maxResolvedIps) ?_ _ (s.afterOldest o) hsize
    intro t next ht hnext
    obtain ⟨domain, _, rfl⟩ := evictDomain_cases o hnext
    exact (size_removeAll_le _ t.byIp).trans ht
  · exact evictDomain_exits o (enforceCaps_indexed o h) hdomain

/-- Inside the caps both loops leave at once. -/
theorem enforceCaps_eq_self {s : DomainRouteStore} (h : s.Capped) : s.enforceCaps o = s := by
  have h1 : WhileLoop.Exits (evictOldest o) s := by
    simp [WhileLoop.Exits, evictOldest, Nat.not_lt.mpr h.byIp_le]
  have h2 : WhileLoop.Exits (evictDomain o) s := by
    simp [WhileLoop.Exits, evictDomain, Nat.not_lt.mpr h.byDomain_le]
  simp only [enforceCaps, WhileLoop.iterate_of_exits _ h1, WhileLoop.iterate_of_exits _ h2]

end Caps

/-! ## Insertion -/

section Insert
variable (o : Order)

theorem indexEntry_get (s : DomainRouteStore) (entry : ResolvedIpEntry) (ip : IpAddr) :
    (s.indexEntry entry).byIp.get ip = if ip = entry.ip then some entry else s.byIp.get ip :=
  get_insert s.byIp entry.ip ip entry

theorem indexEntry_indexed {s : DomainRouteStore} (h : s.Indexed) (entry : ResolvedIpEntry) :
    (s.indexEntry entry).Indexed := by
  refine ⟨?_, ?_, ?_⟩
  · intro ip e hget
    rw [indexEntry_get] at hget
    split at hget
    · rename_i hip
      cases hget
      exact hip.symm
    · exact h.keyed ip e hget
  · intro domain ip
    rw [indexEntry_get]
    cases hold : s.byIp.get entry.ip with
    | none =>
        simp only [indexEntry, hold, inDomain_index, h.agree]
        by_cases hip : ip = entry.ip
        · subst hip
          simp [hold, eq_comm]
        · simp [hip]
    | some old =>
        simp only [indexEntry, hold, inDomain_index, inDomain_unindex, h.agree]
        by_cases hip : ip = entry.ip
        · subst hip
          simp only [hold, Option.some.injEq, exists_eq_left', and_true, if_true]
          constructor
          · intro hcase
            rcases hcase with ⟨hd, hne⟩ | hd
            · exact absurd hd.symm hne
            · exact hd.symm
          · intro hd
            exact Or.inr hd.symm
        · simp [hip]
  · simp only [indexEntry]
    apply noEmptySet_index
    cases hold : s.byIp.get entry.ip with
    | none => exact h.noEmpty
    | some old => exact noEmptySet_unindex s.byDomain old.domain entry.ip h.noEmpty

theorem insertEntry_indexed {s : DomainRouteStore} (h : s.Indexed) (entry : ResolvedIpEntry) :
    (s.insertEntry o entry).Indexed :=
  enforceCaps_indexed o (indexEntry_indexed h entry)

theorem insertEntry_capped {s : DomainRouteStore} (h : s.Indexed) (entry : ResolvedIpEntry) :
    (s.insertEntry o entry).Capped :=
  enforceCaps_capped o (indexEntry_indexed h entry)

theorem insertEntry_rest (s : DomainRouteStore) (entry : ResolvedIpEntry) :
    (s.insertEntry o entry).rules = s.rules ∧ (s.insertEntry o entry).config = s.config :=
  enforceCaps_rest o (s.indexEntry entry)

end Insert

/-! ## One record of an answer -/

section Record
variable (o : Order) (domain : String) (rule : DomainRuleEntry)

theorem refreshable_some {s : DomainRouteStore} {ip : IpAddr} {e : ResolvedIpEntry}
    (h : s.refreshable domain rule ip = some e) :
    s.byIp.get ip = some e ∧ e.domain = domain ∧ e.pattern = rule.pattern ∧
      e.target = rule.target := by
  obtain ⟨hget, hsame⟩ := Option.filter_eq_some_iff.mp h
  exact ⟨hget, by simpa using hsame⟩

theorem refresh_indexed {s : DomainRouteStore} (h : s.Indexed) {ip : IpAddr}
    {old new : ResolvedIpEntry} (hget : s.byIp.get ip = some old) (hip : new.ip = old.ip)
    (hdomain : new.domain = old.domain) : { s with byIp := s.byIp.insert ip new }.Indexed := by
  refine ⟨?_, ?_, h.noEmpty⟩
  · intro other e hother
    simp only [get_insert] at hother
    split at hother
    · rename_i heq
      cases hother
      rw [hip, heq]
      exact h.keyed ip old hget
    · exact h.keyed other e hother
  · intro d other
    simp only [h.agree, get_insert]
    by_cases hother : other = ip
    · subst hother
      simp [hget, hdomain]
    · simp [hother]

theorem applyRecord_indexed {diff : ApplyDiff} {s : DomainRouteStore} (h : s.Indexed)
    (record : Resolved) : (applyRecord o domain rule (diff, s) record).2.Indexed := by
  cases hr : s.refreshable domain rule record.ip with
  | none =>
      simp only [applyRecord, hr]
      exact insertEntry_indexed o h (record.entry domain rule)
  | some existing =>
      obtain ⟨hget, _⟩ := refreshable_some domain rule hr
      simp only [applyRecord, hr]
      exact refresh_indexed h hget rfl rfl

theorem applyRecord_capped {diff : ApplyDiff} {s : DomainRouteStore} (h : s.Indexed)
    (hc : s.Capped) (record : Resolved) :
    (applyRecord o domain rule (diff, s) record).2.Capped := by
  unfold applyRecord
  cases hr : s.refreshable domain rule record.ip with
  | none => simpa [hr] using insertEntry_capped o h (record.entry domain rule)
  | some existing =>
      obtain ⟨hget, _⟩ := refreshable_some domain rule hr
      have hmem : record.ip ∈ s.byIp := (mem_iff_get s.byIp record.ip).mpr ⟨existing, hget⟩
      constructor
      · simpa [hr, size_insert_of_mem s.byIp record.ip _ hmem] using hc.byIp_le
      · simpa [hr] using hc.byDomain_le

theorem applyRecord_rest (diff : ApplyDiff) (s : DomainRouteStore) (record : Resolved) :
    (applyRecord o domain rule (diff, s) record).2.rules = s.rules ∧
    (applyRecord o domain rule (diff, s) record).2.config = s.config := by
  cases hr : s.refreshable domain rule record.ip with
  | none =>
      simp only [applyRecord, hr]
      exact insertEntry_rest o s (record.entry domain rule)
  | some existing =>
      simp only [applyRecord, hr, and_self]

theorem applyRecord_reports (diff : ApplyDiff) (s : DomainRouteStore) (record : Resolved) :
    (applyRecord o domain rule (diff, s) record).1.removed = diff.removed ∧
    (applyRecord o domain rule (diff, s) record).1.added.length +
      (applyRecord o domain rule (diff, s) record).1.refreshed.length =
        diff.added.length + diff.refreshed.length + 1 := by
  cases hr : s.refreshable domain rule record.ip with
  | none =>
      simp only [applyRecord, hr, List.length_append, List.length_singleton]
      exact ⟨trivial, by omega⟩
  | some existing =>
      simp only [applyRecord, hr, List.length_append, List.length_singleton]
      exact ⟨trivial, by omega⟩

theorem applyRecords_keeps {P : ApplyDiff × DomainRouteStore → Prop}
    (hstep : ∀ state record, P state → P (applyRecord o domain rule state record)) :
    ∀ (records : List Resolved) (state : ApplyDiff × DomainRouteStore), P state →
      P (applyRecords o domain rule state records) := by
  intro records
  induction records with
  | nil => intro state h; exact h
  | cons record rest ih => intro state h; exact ih _ (hstep state record h)

theorem applyRecords_reports : ∀ (records : List Resolved) (state : ApplyDiff × DomainRouteStore),
    (applyRecords o domain rule state records).1.added.length +
      (applyRecords o domain rule state records).1.refreshed.length =
        state.1.added.length + state.1.refreshed.length + records.length := by
  intro records
  induction records with
  | nil => intro state; rfl
  | cons record rest ih =>
      intro state
      have hstep : applyRecords o domain rule state (record :: rest) =
          applyRecords o domain rule (applyRecord o domain rule state record) rest := rfl
      obtain ⟨_, hlen⟩ := applyRecord_reports o domain rule state.1 state.2 record
      rw [hstep, ih, hlen, List.length_cons]
      omega

end Record

/-! ## Whole operations -/

section Operations
variable (o : Order) (now : Nat)

/-- With at least one record the domain set is left as the record loop leaves it. -/
theorem applyResolved_eq (s : DomainRouteStore) (domain : String) (ips : List (IpAddr × Nat))
    (rule : DomainRuleEntry) (hips : ips ≠ []) :
    s.applyResolved o now domain ips rule =
      let domain := normalizeDomain domain
      let removed := s.removeIps (s.dropped o domain (ips.map Prod.fst))
      applyRecords o domain rule ({ removed := removed.1 }, removed.2)
        (ips.map (resolve now s.config)) := by
  have hreports :=
    applyRecords_reports o (normalizeDomain domain) rule (ips.map (resolve now s.config))
    ({ removed := (s.removeIps (s.dropped o (normalizeDomain domain) (ips.map Prod.fst))).1 },
      (s.removeIps (s.dropped o (normalizeDomain domain) (ips.map Prod.fst))).2)
  have hpos : 0 < ips.length := List.length_pos_iff.mpr hips
  simp only [List.length_nil, List.length_map] at hreports
  simp only [applyResolved]
  rw [if_neg]
  simp only [Bool.and_eq_true, List.isEmpty_iff, not_and]
  intro h hrefreshed
  obtain ⟨hadded, _⟩ := h
  rw [hadded, hrefreshed] at hreports
  simp only [List.length_nil] at hreports
  omega

theorem indexed_applyResolved {s : DomainRouteStore} (h : s.Indexed) (domain : String)
    (ips : List (IpAddr × Nat)) (rule : DomainRuleEntry) (hips : ips ≠ []) :
    (s.applyResolved o now domain ips rule).2.Indexed := by
  rw [applyResolved_eq o now s domain ips rule hips]
  refine applyRecords_keeps o _ rule (P := fun state => state.2.Indexed) ?_ _ _ ?_
  · intro state record hs
    exact applyRecord_indexed o _ rule hs record
  · exact removeIps_keeps removeIp_indexed _ s h

theorem applyResolved_indexed {s : DomainRouteStore} (h : s.Indexed) (hc : s.Capped)
    (domain : String) (ips : List (IpAddr × Nat)) (rule : DomainRuleEntry) (hips : ips ≠ []) :
    (s.applyResolved o now domain ips rule).2.Indexed ∧
    (s.applyResolved o now domain ips rule).2.Capped := by
  rw [applyResolved_eq o now s domain ips rule hips]
  refine applyRecords_keeps o _ rule (P := fun state => state.2.Indexed ∧ state.2.Capped) ?_ _ _ ?_
  · intro hcase record hgiven
    obtain ⟨diff, t⟩ := hcase
    obtain ⟨ht, htc⟩ := hgiven
    exact ⟨applyRecord_indexed o _ rule ht record, applyRecord_capped o _ rule ht htc record⟩
  · exact ⟨removeIps_keeps removeIp_indexed _ s h, removeIps_keeps removeIp_capped _ s hc⟩

theorem applyRecords_rest (domain : String) (rule : DomainRuleEntry) (records : List Resolved)
    (diff : ApplyDiff) (s : DomainRouteStore) :
    (applyRecords o domain rule (diff, s) records).2.rules = s.rules ∧
    (applyRecords o domain rule (diff, s) records).2.config = s.config := by
  refine applyRecords_keeps o domain rule
    (P := fun state => state.2.rules = s.rules ∧ state.2.config = s.config) ?_ records (diff, s)
    ⟨rfl, rfl⟩
  intro h record hcase
  obtain ⟨diff, t⟩ := h
  obtain ⟨hr, hc⟩ := hcase
  obtain ⟨hr', hc'⟩ := applyRecord_rest o domain rule diff t record
  exact ⟨hr'.trans hr, hc'.trans hc⟩

theorem applyResolved_rest (s : DomainRouteStore) (domain : String) (ips : List (IpAddr × Nat))
    (rule : DomainRuleEntry) (hips : ips ≠ []) :
    (s.applyResolved o now domain ips rule).2.rules = s.rules ∧
    (s.applyResolved o now domain ips rule).2.config = s.config := by
  rw [applyResolved_eq o now s domain ips rule hips]
  obtain ⟨hr, hc⟩ := removeIps_rest s (s.dropped o (normalizeDomain domain) (ips.map Prod.fst))
  obtain ⟨hr', hc'⟩ := applyRecords_rest o (normalizeDomain domain) rule
    (ips.map (resolve now s.config)) _ _
  exact ⟨hr'.trans hr, hc'.trans hc⟩

theorem new_indexed (config : DomainRouteStoreConfig) :
    (new config).Indexed ∧ (new config).Capped := by
  refine ⟨⟨?_, ?_, ?_⟩, ⟨Nat.zero_le _, Nat.zero_le _⟩⟩
  · intro ip e h
    simp [new] at h
  · intro domain ip
    simp [new, InDomain]
  · intro domain ips h
    simp [new] at h

theorem loadPersisted_indexed {parsed : Except String PersistedDomainCache}
    {config : DomainRouteStoreConfig} {s : DomainRouteStore}
    (h : loadPersisted o now parsed config = .ok s) : s.Indexed ∧ s.Capped := by
  cases parsed with
  | error e => simp [loadPersisted] at h
  | ok parsed =>
      simp only [loadPersisted] at h
      split at h
      · cases h
      · cases h
        have hkeep : ∀ (entries : List ResolvedIpEntry) (t : DomainRouteStore),
            t.Indexed ∧ t.Capped → (entries.foldl (insertEntry o) t).Indexed ∧
              (entries.foldl (insertEntry o) t).Capped := by
          intro entries
          induction entries with
          | nil => intro t ht; exact ht
          | cons entry rest ih =>
              intro t ht
              exact ih _ ⟨insertEntry_indexed o ht.1 entry, insertEntry_capped o ht.1 entry⟩
        obtain ⟨hi, hc⟩ := new_indexed config
        exact hkeep _ _ ⟨⟨hi.keyed, hi.agree, hi.noEmpty⟩, ⟨hc.byIp_le, hc.byDomain_le⟩⟩

theorem clear_indexed {s : DomainRouteStore} : s.clear.Indexed ∧ s.clear.Capped := by
  obtain ⟨hi, _⟩ := new_indexed s.config
  exact ⟨⟨hi.keyed, hi.agree, hi.noEmpty⟩, ⟨Nat.zero_le _, Nat.zero_le _⟩⟩

end Operations

/-! ## Runs -/

/-- The operations of the store; an answer has at least one record. -/
inductive Op where
  | setRules (rules : List DomainRule)
  | applyResolved (domain : String) (ips : List (IpAddr × Nat)) (rule : DomainRuleEntry)
      (nonempty : ips ≠ [])
  | purgeExpired
  | pruneUnmatchedRules
  | clear

structure Call where
  op : Op
  now : Nat
  order : Order

def Call.single (now : Nat) (domain : String) (record : IpAddr × Nat) (rule : DomainRuleEntry) :
    Call :=
  ⟨.applyResolved domain [record] rule (List.cons_ne_nil _ _), now, .identity⟩

def step (s : DomainRouteStore) (call : Call) : DomainRouteStore :=
  match call.op with
  | .setRules rules => s.setRules rules
  | .applyResolved domain ips rule _ => (s.applyResolved call.order call.now domain ips rule).2
  | .purgeExpired => (s.purgeExpired call.order call.now).2
  | .pruneUnmatchedRules => (s.pruneUnmatchedRules call.order).2
  | .clear => s.clear

inductive Initial : DomainRouteStore → Prop
  | new (config : DomainRouteStoreConfig) : Initial (new config)
  | loaded (o : Order) (now : Nat) (parsed : Except String PersistedDomainCache)
      (config : DomainRouteStoreConfig) (s : DomainRouteStore)
      (h : loadPersisted o now parsed config = .ok s) : Initial s

theorem initial_indexed {s : DomainRouteStore} (h : Initial s) : s.Indexed ∧ s.Capped := by
  cases h with
  | new config => exact new_indexed config
  | loaded o now parsed config s h => exact loadPersisted_indexed o now h

theorem step_indexed (s : DomainRouteStore) (call : Call) (h : s.Indexed ∧ s.Capped) :
    (s.step call).Indexed ∧ (s.step call).Capped := by
  obtain ⟨op, now, order⟩ := call
  cases op with
  | setRules rules =>
      exact ⟨⟨h.1.keyed, h.1.agree, h.1.noEmpty⟩, ⟨h.2.byIp_le, h.2.byDomain_le⟩⟩
  | applyResolved domain ips rule hips =>
      exact applyResolved_indexed order now h.1 h.2 domain ips rule hips
  | purgeExpired =>
      exact ⟨removeIps_keeps removeIp_indexed _ s h.1, removeIps_keeps removeIp_capped _ s h.2⟩
  | pruneUnmatchedRules =>
      exact ⟨removeIps_keeps removeIp_indexed _ s h.1, removeIps_keeps removeIp_capped _ s h.2⟩
  | clear => exact clear_indexed

theorem step_config (s : DomainRouteStore) (call : Call) : (s.step call).config = s.config := by
  obtain ⟨op, now, order⟩ := call
  cases op with
  | setRules rules => rfl
  | applyResolved domain ips rule hips =>
      exact (applyResolved_rest order now s domain ips rule hips).2
  | purgeExpired => exact (removeIps_rest s _).2
  | pruneUnmatchedRules => exact (removeIps_rest s _).2
  | clear => rfl

theorem run_config (s : DomainRouteStore) (calls : List Call) :
    (GuardedRun.run step s calls).config = s.config :=
  GuardedRun.run_keeps step (P := fun t => t.config = s.config)
    (fun t call ht => (step_config t call).trans ht) calls s rfl

/-- In every reached store the indexes agree and the caps hold, and from any store both
eviction loops come to their exits. -/
theorem run_indexed_capped {s : DomainRouteStore} (h : Initial s) (calls : List Call) :
    (GuardedRun.run step s calls).Indexed ∧ (GuardedRun.run step s calls).Capped ∧
    (GuardedRun.run step s calls).config = s.config ∧
    ∀ (o : Order) (t : DomainRouteStore), EvictionEnds o t := by
  obtain ⟨hindexed, hcapped⟩ :=
    GuardedRun.run_keeps step step_indexed calls s (initial_indexed h)
  exact ⟨hindexed, hcapped, run_config s calls, evictionEnds⟩

/-- The store is what some calls make of a new or loaded store. -/
def Reached (s : DomainRouteStore) : Prop :=
  ∃ (first : DomainRouteStore) (calls : List Call), Initial first ∧
    GuardedRun.run step first calls = s

theorem Reached.indexed {s : DomainRouteStore} (h : Reached s) : s.Indexed ∧ s.Capped := by
  obtain ⟨first, calls, hinitial, rfl⟩ := h
  exact GuardedRun.run_keeps step step_indexed calls first (initial_indexed hinitial)

theorem Reached.step {s : DomainRouteStore} (h : Reached s) (call : Call) :
    Reached (s.step call) := by
  obtain ⟨first, calls, hinitial, rfl⟩ := h
  exact ⟨first, calls ++ [call], hinitial, GuardedRun.run_concat _ first calls call⟩

theorem run_indexed_capped_zero :
    (GuardedRun.run step (new ⟨0, 0, 30, 3600⟩) [⟨.applyResolved "a.example"
      [(ipv4 1 2 3 4, 60)] ⟨10, "*.example", .tunnel⟩ (List.cons_ne_nil _ _),
        100, .identity⟩]).Indexed ∧
    (GuardedRun.run step (new ⟨0, 0, 30, 3600⟩) [⟨.applyResolved "a.example"
      [(ipv4 1 2 3 4, 60)] ⟨10, "*.example", .tunnel⟩ (List.cons_ne_nil _ _),
        100, .identity⟩]).Capped :=
  ⟨(run_indexed_capped (Initial.new ⟨0, 0, 30, 3600⟩) _).1,
    (run_indexed_capped (Initial.new ⟨0, 0, 30, 3600⟩) _).2.1⟩

end DomainRouteStore
end RouteGuard
