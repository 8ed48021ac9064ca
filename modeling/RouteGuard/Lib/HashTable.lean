import Mathlib.Data.List.AList
import Mathlib.Data.List.MinMax

/-! # Hash tables with an unspecified iteration order

A `Table` holds one value for each of finitely many keys.  An `Order` is the
order in which one call walks the tables it iterates over: some permutation of
their rows.  A result proved for every `Order` holds whatever order the hash
function produces. -/
set_option autoImplicit false
namespace HashTable

/-- A hash map; a hash set is a map to `Unit`. -/
abbrev Table (K V : Type) := AList fun _ : K => V

structure Order where
  iter : {α : Type} → List α → List α
  perm : ∀ {α : Type} (rows : List α), (iter rows).Perm rows

def Order.identity : Order := ⟨fun rows => rows, fun rows => List.Perm.refl rows⟩

def Table.size {K V : Type} (t : Table K V) : Nat := t.keys.length

def Table.items {K V : Type} (t : Table K V) : List (K × V) :=
  t.entries.map fun row => (row.1, row.2)

section Lookup
variable {K V : Type} [DecidableEq K]

def Table.get (t : Table K V) (k : K) : Option V := t.lookup k

def Table.insert (t : Table K V) (k : K) (v : V) : Table K V := AList.insert k v t

def Table.remove (t : Table K V) (k : K) : Table K V := AList.erase k t

def Order.items (o : Order) (t : Table K V) : List (K × V) := o.iter t.items

def Order.keys (o : Order) (t : Table K V) : List K := (o.items t).map Prod.fst

def Order.values (o : Order) (t : Table K V) : List V := (o.items t).map Prod.snd

@[simp]
theorem get_empty (k : K) : (∅ : Table K V).get k = none := AList.lookup_empty k

theorem get_insert (t : Table K V) (k k' : K) (v : V) :
    (t.insert k v).get k' = if k' = k then some v else t.get k' := by
  by_cases h : k' = k
  · subst h
    simp [Table.get, Table.insert]
  · rw [if_neg h]
    exact AList.lookup_insert_ne h

theorem get_remove (t : Table K V) (k k' : K) :
    (t.remove k).get k' = if k' = k then none else t.get k' := by
  by_cases h : k' = k
  · subst h
    simp [Table.get, Table.remove]
  · rw [if_neg h]
    exact AList.lookup_erase_ne h

theorem mem_iff_get (t : Table K V) (k : K) : k ∈ t ↔ ∃ v, t.get k = some v := by
  rw [← AList.lookup_isSome, Option.isSome_iff_exists, Table.get]

theorem mem_items (t : Table K V) (k : K) (v : V) : (k, v) ∈ t.items ↔ t.get k = some v := by
  rw [Table.get, ← Option.mem_def, AList.mem_lookup_iff]
  simp only [Table.items, List.mem_map, Prod.mk.injEq]
  constructor
  · intro h
    obtain ⟨⟨k₀, v₀⟩, hmem, rfl, rfl⟩ := h
    exact hmem
  · intro hmem
    exact ⟨⟨k, v⟩, hmem, rfl, rfl⟩

theorem mem_order_items (o : Order) (t : Table K V) (k : K) (v : V) :
    (k, v) ∈ o.items t ↔ t.get k = some v := by
  rw [Order.items, (o.perm _).mem_iff, mem_items]

theorem mem_order_keys (o : Order) (t : Table K V) (k : K) :
    k ∈ o.keys t ↔ ∃ v, t.get k = some v := by
  simp only [Order.keys, List.mem_map]
  constructor
  · intro h
    obtain ⟨⟨k₀, v⟩, hmem, rfl⟩ := h
    exact ⟨v, (mem_order_items o t k₀ v).mp hmem⟩
  · intro h
    obtain ⟨v, hv⟩ := h
    exact ⟨(k, v), (mem_order_items o t k v).mpr hv, rfl⟩

theorem mem_order_values (o : Order) (t : Table K V) (v : V) :
    v ∈ o.values t ↔ ∃ k, t.get k = some v := by
  simp only [Order.values, List.mem_map]
  constructor
  · intro h
    obtain ⟨⟨k, v₀⟩, hmem, rfl⟩ := h
    exact ⟨k, (mem_order_items o t k v₀).mp hmem⟩
  · intro h
    obtain ⟨k, hk⟩ := h
    exact ⟨(k, v), (mem_order_items o t k v).mpr hk, rfl⟩

omit [DecidableEq K] in
theorem items_keys (t : Table K V) : t.items.map Prod.fst = t.keys := by
  simp [Table.items, AList.keys, List.keys]

omit [DecidableEq K] in
theorem order_keys_nodup (o : Order) (t : Table K V) : (o.keys t).Nodup := by
  have hperm : (o.keys t).Perm (t.items.map Prod.fst) := (o.perm t.items).map Prod.fst
  rw [items_keys] at hperm
  exact hperm.nodup_iff.mpr t.keys_nodup

end Lookup

/-! ## Sizes -/

section Size
variable {K V : Type} [DecidableEq K]

theorem size_remove_of_mem (t : Table K V) (k : K) (h : k ∈ t) :
    (t.remove k).size + 1 = t.size := by
  have hk : k ∈ t.keys := AList.mem_keys.mp h
  have hpos : 0 < t.keys.length := List.length_pos_of_mem hk
  simp only [Table.size, Table.remove, AList.keys_erase, List.length_erase_of_mem hk]
  omega

theorem size_remove_le (t : Table K V) (k : K) : (t.remove k).size ≤ t.size := by
  simp only [Table.size, Table.remove, AList.keys_erase]
  exact List.erase_sublist.length_le

theorem size_insert_of_mem (t : Table K V) (k : K) (v : V) (h : k ∈ t) :
    (t.insert k v).size = t.size := by
  have hk : k ∈ t.keys := AList.mem_keys.mp h
  have hpos : 0 < t.keys.length := List.length_pos_of_mem hk
  simp only [Table.size, Table.insert, AList.keys_insert, List.length_cons,
    List.length_erase_of_mem hk]
  omega

omit [DecidableEq K] in
theorem size_pos_of_mem (t : Table K V) (k : K) (h : k ∈ t) : 0 < t.size :=
  List.length_pos_of_mem (AList.mem_keys.mp h)

omit [DecidableEq K] in
theorem size_le_of_keys {W : Type} (t : Table K V) (u : Table K W) (h : ∀ k ∈ t, k ∈ u) :
    t.size ≤ u.size := by
  have hsub : t.keys ⊆ u.keys := fun k hk => AList.mem_keys.mp (h k (AList.mem_keys.mpr hk))
  exact List.Nodup.length_le_of_subset t.keys_nodup hsub

theorem exists_get_of_size_pos (t : Table K V) (h : 0 < t.size) : ∃ k v, t.get k = some v := by
  obtain ⟨k, hk⟩ := List.length_pos_iff_exists_mem.mp h
  exact ⟨k, (mem_iff_get t k).mp (AList.mem_keys.mpr hk)⟩

end Size

/-! ## Removing a list of keys -/

section RemoveAll
variable {K V : Type} [DecidableEq K]

def Table.removeAll (t : Table K V) (ks : List K) : Table K V := ks.foldl Table.remove t

theorem get_removeAll (ks : List K) (k' : K) : ∀ t : Table K V,
    (t.removeAll ks).get k' = if k' ∈ ks then none else t.get k' := by
  induction ks with
  | nil => intro t; simp [Table.removeAll]
  | cons k rest ih =>
      intro t
      have hstep : t.removeAll (k :: rest) = (t.remove k).removeAll rest := rfl
      rw [hstep, ih, get_remove]
      by_cases hrest : k' ∈ rest
      · simp [hrest]
      · by_cases hk : k' = k <;> simp [hk, hrest]

theorem size_removeAll_le (ks : List K) : ∀ t : Table K V, (t.removeAll ks).size ≤ t.size := by
  induction ks with
  | nil => intro t; exact Nat.le_refl _
  | cons k rest ih =>
      intro t
      have hstep : t.removeAll (k :: rest) = (t.remove k).removeAll rest := rfl
      rw [hstep]
      exact (ih _).trans (size_remove_le t k)

end RemoveAll

/-! ## The first row of least weight -/

theorem argmin_exists_of_mem {α : Type} (f : α → Nat) (rows : List α) (a : α) (h : a ∈ rows) :
    ∃ m ∈ rows, rows.argmin f = some m := by
  cases hm : rows.argmin f with
  | none =>
      rw [List.argmin_eq_none] at hm
      rw [hm] at h
      cases h
  | some m => exact ⟨m, List.argmin_mem hm, rfl⟩

end HashTable
