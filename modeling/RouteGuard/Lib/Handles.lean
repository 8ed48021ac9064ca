import RouteGuard.Lib.HashTable

/-! # Objects that go with the handle that created them

A store gives out handles.  Creating an object gives a handle, and the object is
there until that handle is closed; further handles are attached to an object that
is there and change nothing when they are closed.  An object and the handle that
created it have the same number. -/
set_option autoImplicit false
namespace Handles

open HashTable

/-! ## The store -/

structure Handle (P : Type) where
  key : Nat
  created : Bool
  owner : P
deriving DecidableEq, Repr

/-- `attached` lists the handles that were ever attached. -/
structure Object (V : Type) where
  value : V
  attached : List Nat := []
deriving DecidableEq, Repr

structure Store (P V : Type) where
  objects : Table Nat (Object V) := ∅
  handles : Table Nat (Handle P) := ∅
  /-- No handle or object has this number or a later one. -/
  next : Nat := 0

namespace Store
variable {P V : Type}

def object (s : Store P V) (handle : Nat) : Option (Object V) :=
  (s.handles.get handle).bind fun h => s.objects.get h.key

def create (s : Store P V) (owner : P) (value : V) : Nat × Store P V :=
  (s.next,
    { objects := s.objects.insert s.next ⟨value, []⟩
      handles := s.handles.insert s.next ⟨s.next, true, owner⟩
      next := s.next + 1 })

def attach (s : Store P V) (owner : P) (key : Nat) : Option (Nat × Store P V) :=
  (s.objects.get key).map fun o =>
    (s.next,
      { objects := s.objects.insert key { o with attached := o.attached ++ [s.next] }
        handles := s.handles.insert s.next ⟨key, false, owner⟩
        next := s.next + 1 })

/-- A handle whose object is gone changes nothing. -/
def modify (s : Store P V) (handle : Nat) (f : V → V) : Store P V :=
  match s.handles.get handle with
  | none => s
  | some h =>
      match s.objects.get h.key with
      | none => s
      | some o => { s with objects := s.objects.insert h.key { o with value := f o.value } }

def close (s : Store P V) (handle : Nat) : Store P V :=
  match s.handles.get handle with
  | none => s
  | some h =>
      { s with
        objects := if h.created then s.objects.remove h.key else s.objects
        handles := s.handles.remove handle }

structure WellFormed (s : Store P V) : Prop where
  created : ∀ handle h, s.handles.get handle = some h → h.created = true →
    h.key = handle ∧ ∃ o, s.objects.get handle = some o
  present : ∀ key o, s.objects.get key = some o →
    ∃ h, s.handles.get key = some h ∧ h.created = true
  attached : ∀ handle h o, s.handles.get handle = some h → h.created = false →
    s.objects.get h.key = some o → handle ∈ o.attached
  older : ∀ handle h, s.handles.get handle = some h → handle < s.next ∧ h.key < s.next

/-- The object that the handle created holds `Q`, where no handle was attached to it. -/
def Alone (s : Store P V) (handle : Nat) (Q : V → Prop) : Prop :=
  ∀ o, s.objects.get handle = some o → o.attached = [] → Q o.value

def Apart {B : Type} (f : V → B) (s : Store P V) : Prop :=
  ∀ key key' o o', s.objects.get key = some o → s.objects.get key' = some o' →
    f o.value = f o'.value → key = key'

/-! ## What an operation does to each object -/

section Operations
variable {s : Store P V}

@[simp]
theorem create_objects (owner : P) (value : V) (key : Nat) :
    (s.create owner value).2.objects.get key =
      if key = s.next then some ⟨value, []⟩ else s.objects.get key :=
  get_insert ..

@[simp]
theorem create_handles (owner : P) (value : V) (handle : Nat) :
    (s.create owner value).2.handles.get handle =
      if handle = s.next then some ⟨s.next, true, owner⟩ else s.handles.get handle :=
  get_insert ..

theorem attach_some {owner : P} {key handle : Nat} {after : Store P V}
    (h : s.attach owner key = some (handle, after)) :
    ∃ o, s.objects.get key = some o ∧ handle = s.next ∧ after.next = s.next + 1 ∧
      (∀ key', after.objects.get key' =
        if key' = key then some { o with attached := o.attached ++ [s.next] }
        else s.objects.get key') ∧
      ∀ other, after.handles.get other =
        if other = s.next then some ⟨key, false, owner⟩ else s.handles.get other := by
  obtain ⟨o, hget, hafter⟩ := Option.map_eq_some_iff.mp h
  obtain ⟨rfl, rfl⟩ := Prod.mk.inj hafter
  exact ⟨o, hget, rfl, rfl, fun _ => get_insert .., fun _ => get_insert ..⟩

@[simp]
theorem modify_handles (handle : Nat) (f : V → V) : (s.modify handle f).handles = s.handles := by
  unfold modify
  split
  · rfl
  · split <;> rfl

@[simp]
theorem modify_next (handle : Nat) (f : V → V) : (s.modify handle f).next = s.next := by
  unfold modify
  split
  · rfl
  · split <;> rfl

theorem modify_reached {handle : Nat} {h : Handle P} {o : Object V}
    (hhandle : s.handles.get handle = some h) (hobject : s.objects.get h.key = some o)
    (f : V → V) :
    (s.modify handle f).objects.get h.key = some { o with value := f o.value } := by
  simp only [modify, hhandle, hobject, get_insert, if_true]

/-- An object is as it was, or the handle leads to it. -/
theorem modify_objects (handle : Nat) (f : V → V) (key : Nat) :
    (s.modify handle f).objects.get key = s.objects.get key ∨
      ∃ h o, s.handles.get handle = some h ∧ h.key = key ∧ s.objects.get key = some o ∧
        (s.modify handle f).objects.get key = some { o with value := f o.value } := by
  cases hhandle : s.handles.get handle with
  | none => exact Or.inl (by simp only [modify, hhandle])
  | some h =>
      cases hobject : s.objects.get h.key with
      | none => exact Or.inl (by simp only [modify, hhandle, hobject])
      | some o =>
          by_cases hkey : key = h.key
          · subst hkey
            exact Or.inr ⟨h, o, rfl, rfl, hobject, modify_reached hhandle hobject f⟩
          · exact Or.inl (by simp only [modify, hhandle, hobject, get_insert, if_neg hkey])

theorem close_handles (handle other : Nat) :
    (s.close handle).handles.get other = if other = handle then none else s.handles.get other := by
  cases hhandle : s.handles.get handle with
  | some h => simp only [close, hhandle, get_remove]
  | none =>
      simp only [close, hhandle]
      split
      · next heq => rw [heq, hhandle]
      · rfl

theorem close_objects (hs : s.WellFormed) (handle key : Nat) :
    (s.close handle).objects.get key = if key = handle then none else s.objects.get key := by
  cases hhandle : s.handles.get handle with
  | none =>
      simp only [close, hhandle]
      split
      · next heq =>
          -- an object of this number would have its handle open
          subst heq
          by_contra hsome
          obtain ⟨o, hobject⟩ := Option.ne_none_iff_exists'.mp hsome
          obtain ⟨h, hopen, -⟩ := hs.present key o hobject
          rw [hhandle] at hopen
          cases hopen
      · rfl
  | some h =>
      simp only [close, hhandle]
      cases hcreated : h.created with
      | true =>
          rw [(hs.created handle h hhandle hcreated).1]
          exact get_remove ..
      | false =>
          rw [if_neg Bool.false_ne_true]
          split
          · next heq =>
              subst heq
              by_contra hsome
              obtain ⟨o, hobject⟩ := Option.ne_none_iff_exists'.mp hsome
              obtain ⟨h', hopen, hcreated'⟩ := hs.present key o hobject
              rw [hhandle] at hopen
              cases hopen
              rw [hcreated] at hcreated'
              cases hcreated'
          · rfl

theorem close_next (handle : Nat) : (s.close handle).next = s.next := by
  unfold close
  split <;> rfl

end Operations

/-! ## Well-formed stores -/

section Form
variable {s : Store P V}

theorem wellFormed_empty : (⟨∅, ∅, 0⟩ : Store P V).WellFormed := by
  refine ⟨?_, ?_, ?_, ?_⟩
  · intro handle h hget
    simp only [get_empty] at hget
    cases hget
  · intro key o hget
    simp only [get_empty] at hget
    cases hget
  · intro handle h o hget
    simp only [get_empty] at hget
    cases hget
  · intro handle h hget
    simp only [get_empty] at hget
    cases hget

theorem WellFormed.object_older (hs : s.WellFormed) {key : Nat} {o : Object V}
    (hobject : s.objects.get key = some o) : key < s.next := by
  obtain ⟨h, hopen, -⟩ := hs.present key o hobject
  exact (hs.older key h hopen).1

theorem create_wellFormed (hs : s.WellFormed) (owner : P) (value : V) :
    (s.create owner value).2.WellFormed := by
  have hnext : (s.create owner value).2.next = s.next + 1 := rfl
  refine ⟨?_, ?_, ?_, ?_⟩
  · intro handle h hhandle hcreated
    rw [create_handles] at hhandle
    by_cases heq : handle = s.next
    · rw [if_pos heq] at hhandle
      cases hhandle
      exact ⟨heq.symm, _, by rw [create_objects, if_pos heq]⟩
    · rw [if_neg heq] at hhandle
      obtain ⟨hkey, o, hobject⟩ := hs.created handle h hhandle hcreated
      exact ⟨hkey, o, by rw [create_objects, if_neg heq, hobject]⟩
  · intro key o hobject
    rw [create_objects] at hobject
    rw [create_handles]
    by_cases heq : key = s.next
    · exact ⟨_, if_pos heq, rfl⟩
    · rw [if_neg heq] at hobject ⊢
      exact hs.present key o hobject
  · intro handle h o hhandle hcreated hobject
    rw [create_handles] at hhandle
    rw [create_objects] at hobject
    by_cases heq : handle = s.next
    · rw [if_pos heq] at hhandle
      cases hhandle
      cases hcreated
    · rw [if_neg heq] at hhandle
      have hold := (hs.older handle h hhandle).2
      rw [if_neg (Nat.ne_of_lt hold)] at hobject
      exact hs.attached handle h o hhandle hcreated hobject
  · intro handle h hhandle
    rw [create_handles] at hhandle
    rw [hnext]
    by_cases heq : handle = s.next
    · rw [if_pos heq] at hhandle
      cases hhandle
      exact ⟨by omega, Nat.lt_succ_self s.next⟩
    · rw [if_neg heq] at hhandle
      have hold := hs.older handle h hhandle
      omega

theorem attach_wellFormed (hs : s.WellFormed) {owner : P} {key handle : Nat} {after : Store P V}
    (hattach : s.attach owner key = some (handle, after)) : after.WellFormed := by
  obtain ⟨o, hobject, -, hnext, hobjects, hhandles⟩ := attach_some hattach
  refine ⟨?_, ?_, ?_, ?_⟩
  · intro other h hother hcreated
    rw [hhandles] at hother
    by_cases heq : other = s.next
    · rw [if_pos heq] at hother
      cases hother
      cases hcreated
    · rw [if_neg heq] at hother
      obtain ⟨hkey, o', hobject'⟩ := hs.created other h hother hcreated
      refine ⟨hkey, ?_⟩
      rw [hobjects]
      split
      · exact ⟨_, rfl⟩
      · exact ⟨o', hobject'⟩
  · intro key' o' hobject'
    have hold : ∃ o, s.objects.get key' = some o := by
      rw [hobjects] at hobject'
      split at hobject'
      · next heq => exact ⟨o, heq ▸ hobject⟩
      · exact ⟨o', hobject'⟩
    obtain ⟨o₀, ho₀⟩ := hold
    obtain ⟨h, hopen, hcreated⟩ := hs.present key' o₀ ho₀
    have hne := Nat.ne_of_lt (hs.older key' h hopen).1
    exact ⟨h, by rw [hhandles, if_neg hne, hopen], hcreated⟩
  · intro other h o' hother hcreated hobject'
    rw [hhandles] at hother
    rw [hobjects] at hobject'
    by_cases heq : other = s.next
    · rw [if_pos heq] at hother
      cases hother
      rw [if_pos rfl] at hobject'
      cases hobject'
      rw [heq]
      exact List.mem_append_right _ (List.mem_singleton_self _)
    · rw [if_neg heq] at hother
      by_cases hkey : h.key = key
      · rw [if_pos hkey] at hobject'
        cases hobject'
        exact List.mem_append_left _ (hs.attached other h o hother hcreated (hkey ▸ hobject))
      · rw [if_neg hkey] at hobject'
        exact hs.attached other h o' hother hcreated hobject'
  · intro other h hother
    rw [hhandles] at hother
    rw [hnext]
    by_cases heq : other = s.next
    · rw [if_pos heq] at hother
      cases hother
      have hold := hs.object_older hobject
      dsimp only
      omega
    · rw [if_neg heq] at hother
      have hold := hs.older other h hother
      omega

theorem modify_wellFormed (hs : s.WellFormed) (handle : Nat) (f : V → V) :
    (s.modify handle f).WellFormed := by
  refine ⟨?_, ?_, ?_, ?_⟩
  · intro other h hother hcreated
    rw [modify_handles] at hother
    obtain ⟨hkey, o, hobject⟩ := hs.created other h hother hcreated
    rcases modify_objects (s := s) handle f other with hsame | ⟨_, o', -, -, -, hnew⟩
    · exact ⟨hkey, o, hsame.trans hobject⟩
    · exact ⟨hkey, _, hnew⟩
  · intro key o hobject
    rw [modify_handles]
    rcases modify_objects (s := s) handle f key with hsame | ⟨_, o', -, -, hold, -⟩
    · exact hs.present key o (hsame ▸ hobject)
    · exact hs.present key o' hold
  · intro other h o hother hcreated hobject
    rw [modify_handles] at hother
    rcases modify_objects (s := s) handle f h.key with hsame | ⟨_, o', -, -, hold, hnew⟩
    · exact hs.attached other h o hother hcreated (hsame ▸ hobject)
    · rw [hnew] at hobject
      cases hobject
      exact hs.attached other h o' hother hcreated hold
  · intro other h hother
    rw [modify_handles] at hother
    rw [modify_next]
    exact hs.older other h hother

theorem close_wellFormed (hs : s.WellFormed) (handle : Nat) : (s.close handle).WellFormed := by
  refine ⟨?_, ?_, ?_, ?_⟩
  · intro other h hother hcreated
    rw [close_handles] at hother
    split at hother
    · cases hother
    · next hne =>
        rw [close_objects hs, if_neg hne]
        exact hs.created other h hother hcreated
  · intro key o hobject
    rw [close_objects hs] at hobject
    split at hobject
    · cases hobject
    · next hne =>
        rw [close_handles, if_neg hne]
        exact hs.present key o hobject
  · intro other h o hother hcreated hobject
    rw [close_handles] at hother
    rw [close_objects hs] at hobject
    split at hother
    · cases hother
    · split at hobject
      · cases hobject
      · exact hs.attached other h o hother hcreated hobject
  · intro other h hother
    rw [close_handles] at hother
    rw [close_next]
    split at hother
    · cases hother
    · exact hs.older other h hother

end Form

/-! ## Objects that only their creator reaches -/

section Alone
variable {s : Store P V} {handle : Nat} {Q R : V → Prop}

theorem Alone.mono (h : s.Alone handle Q)
    (hmono : ∀ o, s.objects.get handle = some o → o.attached = [] → Q o.value → R o.value) :
    s.Alone handle R :=
  fun o hobject hattached => hmono o hobject hattached (h o hobject hattached)

/-- Another handle does not lead to the object. -/
theorem WellFormed.elsewhere (hs : s.WellFormed) {o : Object V}
    (hobject : s.objects.get handle = some o) (hattached : o.attached = []) {other : Nat}
    {entry : Handle P} (hother : s.handles.get other = some entry) (hne : other ≠ handle) :
    entry.key ≠ handle := by
  intro hkey
  cases hcreated : entry.created with
  | true => exact hne ((hs.created other entry hother hcreated).1.symm.trans hkey)
  | false =>
      have hmem := hs.attached other entry o hother hcreated (hkey ▸ hobject)
      rw [hattached] at hmem
      cases hmem

theorem alone_create (owner : P) {value : V} (h : Q value) :
    (s.create owner value).2.Alone s.next Q := by
  intro o hobject _
  rw [create_objects, if_pos rfl] at hobject
  cases hobject
  exact h

theorem Alone.create_other (h : s.Alone handle Q) (hold : handle < s.next) (owner : P) (value : V) :
    (s.create owner value).2.Alone handle Q := by
  intro o hobject hattached
  rw [create_objects, if_neg (Nat.ne_of_lt hold)] at hobject
  exact h o hobject hattached

theorem Alone.attach {owner : P} {key next : Nat} {after : Store P V} (h : s.Alone handle Q)
    (hattach : s.attach owner key = some (next, after)) : after.Alone handle Q := by
  obtain ⟨o, -, -, -, hobjects, -⟩ := attach_some hattach
  intro o' hobject hattached
  rw [hobjects] at hobject
  split at hobject
  · cases hobject
    exact absurd hattached (List.append_ne_nil_of_right_ne_nil _ (List.cons_ne_nil _ _))
  · exact h o' hobject hattached

theorem Alone.modify_other {other : Nat} (h : s.Alone handle Q) (hs : s.WellFormed)
    (hne : other ≠ handle) (f : V → V) : (s.modify other f).Alone handle Q := by
  intro o hobject hattached
  rcases modify_objects (s := s) other f handle with hsame | ⟨entry, o', hother, hkey, hold, hnew⟩
  · exact h o (hsame ▸ hobject) hattached
  · rw [hnew] at hobject
    cases hobject
    exact absurd hkey (hs.elsewhere hold hattached hother hne)

theorem Alone.modify_self {entry : Handle P} (h : s.Alone handle Q) (hs : s.WellFormed)
    (hhandle : s.handles.get handle = some entry) (hcreated : entry.created = true) {f : V → V}
    (hf : ∀ v, Q v → R (f v)) : (s.modify handle f).Alone handle R := by
  obtain ⟨hkey, o, hobject⟩ := hs.created handle entry hhandle hcreated
  intro o' hobject' hattached
  have hnew := modify_reached hhandle (hkey ▸ hobject) f
  rw [hkey, hobject'] at hnew
  cases hnew
  exact hf o.value (h o hobject hattached)

theorem Alone.close_other {other : Nat} (h : s.Alone handle Q) (hs : s.WellFormed) :
    (s.close other).Alone handle Q := by
  intro o hobject hattached
  rw [close_objects hs] at hobject
  split at hobject
  · cases hobject
  · exact h o hobject hattached

end Alone

/-! ## Attributes that tell objects apart -/

section Apart
variable {B : Type} {f : V → B} {s after : Store P V}

def Older (f : V → B) (s after : Store P V) : Prop :=
  ∀ key o', after.objects.get key = some o' →
    ∃ o, s.objects.get key = some o ∧ f o.value = f o'.value

theorem Apart.older (h : s.Apart f) (holder : Older f s after) : after.Apart f := by
  intro key key' o o' hobject hobject' heq
  obtain ⟨old, hold, hvalue⟩ := holder key o hobject
  obtain ⟨old', hold', hvalue'⟩ := holder key' o' hobject'
  exact h key key' old old' hold hold' (by rw [hvalue, hvalue', heq])

theorem attach_older {owner : P} {key next : Nat}
    (hattach : s.attach owner key = some (next, after)) : Older f s after := by
  obtain ⟨o, hobject, -, -, hobjects, -⟩ := attach_some hattach
  intro key' o' hobject'
  rw [hobjects] at hobject'
  split at hobject'
  · next heq =>
      cases hobject'
      exact ⟨o, heq ▸ hobject, rfl⟩
  · exact ⟨o', hobject', rfl⟩

theorem modify_older {g : V → V} (hg : ∀ v, f (g v) = f v) (handle : Nat) :
    Older f s (s.modify handle g) := by
  intro key o' hobject
  rcases modify_objects (s := s) handle g key with hsame | ⟨_, o, -, -, hold, hnew⟩
  · exact ⟨o', hsame ▸ hobject, rfl⟩
  · rw [hnew] at hobject
    cases hobject
    exact ⟨o, hold, (hg o.value).symm⟩

theorem close_older (hs : s.WellFormed) (handle : Nat) : Older f s (s.close handle) := by
  intro key o' hobject
  rw [close_objects hs] at hobject
  split at hobject
  · cases hobject
  · exact ⟨o', hobject, rfl⟩

theorem Apart.create (h : s.Apart f) (owner : P) {value : V}
    (hnew : ∀ key o, s.objects.get key = some o → f o.value ≠ f value) :
    (s.create owner value).2.Apart f := by
  intro key key' o o' hobject hobject' heq
  rw [create_objects] at hobject hobject'
  split at hobject
  · next hkey =>
      cases hobject
      split at hobject'
      · next hkey' => rw [hkey, hkey']
      · exact absurd heq.symm (hnew key' o' hobject')
  · split at hobject'
    · cases hobject'
      exact absurd heq (hnew key o hobject)
    · exact h key key' o o' hobject hobject' heq

end Apart

/-! ## Handles that are given out -/

/-- A new handle leads to a new object or to one that was there. -/
structure Gives (s : Store P V) (owner : P) (created : Bool) (handle : Nat) (after : Store P V) :
    Prop where
  handle_next : handle = s.next
  handles : ∃ key, ∀ other, after.handles.get other =
    if other = s.next then some ⟨key, created, owner⟩ else s.handles.get other
  objects : ∀ key o, s.objects.get key = some o →
    ∃ o', after.objects.get key = some o' ∧ o'.value = o.value
  alone : ∀ other Q, other < s.next → s.Alone other Q → after.Alone other Q

section Given
variable {s after : Store P V} {owner : P} {created : Bool} {handle : Nat}

theorem create_gives (hs : s.WellFormed) (owner : P) (value : V) :
    s.Gives owner true (s.create owner value).1 (s.create owner value).2 := by
  refine ⟨rfl, ⟨s.next, create_handles owner value⟩, ?_,
    fun other Q hold h => h.create_other hold owner value⟩
  intro key o hobject
  exact ⟨o, by rw [create_objects, if_neg (Nat.ne_of_lt (hs.object_older hobject)), hobject], rfl⟩

theorem attach_gives {key : Nat} (hattach : s.attach owner key = some (handle, after)) :
    s.Gives owner false handle after := by
  obtain ⟨o, hobject, hhandle, -, hobjects, hhandles⟩ := attach_some hattach
  refine ⟨hhandle, ⟨key, hhandles⟩, ?_, fun other Q _ h => h.attach hattach⟩
  intro key' o' hobject'
  rw [hobjects]
  split
  · next heq =>
      subst heq
      rw [hobject] at hobject'
      cases hobject'
      exact ⟨_, rfl, rfl⟩
  · exact ⟨o', hobject', rfl⟩

theorem Gives.given (h : s.Gives owner created handle after) :
    ∃ entry, after.handles.get handle = some entry ∧ entry.owner = owner ∧
      entry.created = created := by
  obtain ⟨key, hhandles⟩ := h.handles
  exact ⟨_, by rw [hhandles, if_pos h.handle_next], rfl, rfl⟩

theorem Gives.kept (h : s.Gives owner created handle after) (hs : s.WellFormed) {other : Nat}
    {entry : Handle P} (hother : s.handles.get other = some entry) :
    after.handles.get other = some entry := by
  obtain ⟨key, hhandles⟩ := h.handles
  rw [hhandles, if_neg (Nat.ne_of_lt (hs.older other entry hother).1), hother]

theorem Gives.older (h : s.Gives owner created handle after) {other : Nat} {entry : Handle P}
    (hother : after.handles.get other = some entry) :
    other = handle ∧ entry.owner = owner ∨ s.handles.get other = some entry := by
  obtain ⟨key, hhandles⟩ := h.handles
  rw [hhandles] at hother
  split at hother
  · next heq =>
      cases hother
      exact Or.inl ⟨heq.trans h.handle_next.symm, rfl⟩
  · exact Or.inr hother

end Given

end Store
end Handles
