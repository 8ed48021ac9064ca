import RouteGuard.Lib.GuardedRun
import Mathlib.Logic.Function.Basic

/-! # Loading and unloading the driver

`DriverEntry` and `RgDriverUnload` with `RgCreateDevice`, `RgDeleteDevice`,
`RgRegisterCallouts` and `RgUnregisterCallouts`, whatever the kernel answers.
The driver does not look at the status of `FwpsCalloutUnregisterById0` and of
`IoDeleteSymbolicLink`. -/
set_option autoImplicit false
namespace RouteGuard

open GuardedRun

/-! ## The kernel -/

def ntSuccess (status : Int) : Bool := 0 ≤ status

/-- What the kernel keeps for the driver.  A callout has a run-time id, handed out from 1 on, and
stands for an entry of `g_RgCallouts`.  For the proofs, `refused` lists the callouts that the kernel
was asked to unregister and did not, and `linkRefused` tells how it last answered about the link. -/
structure KernelObjects where
  device : Bool := false
  symLink : Bool := false
  linkRefused : Bool := false
  callouts : Nat → Option Nat := fun _ => none
  nextId : Nat := 1
  refused : List (Nat × Nat) := []

namespace KernelObjects

def calloutRegister (k : KernelObjects) (i : Nat) : KernelObjects :=
  { k with callouts := Function.update k.callouts k.nextId (some i), nextId := k.nextId + 1 }

def calloutUnregisterById (k : KernelObjects) (status : Int) (id : Nat) : KernelObjects :=
  match k.callouts id with
  | none => k
  | some i =>
      if ntSuccess status then { k with callouts := Function.update k.callouts id none }
      else { k with refused := k.refused ++ [(id, i)] }

def deleteSymbolicLink (k : KernelObjects) (status : Int) : KernelObjects :=
  if ntSuccess status then { k with symLink := false, linkRefused := false }
  else { k with linkRefused := true }

end KernelObjects

/-- `calloutUnregister` answers by id. -/
structure UnloadAnswers where
  calloutUnregister : Nat → Int
  deleteSymbolicLink : Int

/-- `calloutRegister` answers by place in `g_RgCallouts`. -/
structure LoadAnswers extends UnloadAnswers where
  createDevice : Int
  createSymbolicLink : Int
  calloutRegister : Nat → Int

/-! ## The driver -/

/-- Whether `g_RgDeviceObject` is set, and `g_RgCalloutIds`. -/
structure DriverGlobals where
  deviceObject : Bool := false
  calloutIds : Nat → Nat := fun _ => 0

structure DriverImage where
  kernel : KernelObjects
  globals : DriverGlobals := {}

def calloutCount : Nat := 4

namespace DriverImage

def rgCreateDevice (answers : LoadAnswers) (w : DriverImage) : Int × DriverImage :=
  if !ntSuccess answers.createDevice then (answers.createDevice, w)
  else
    let w : DriverImage :=
      ⟨{ w.kernel with device := true }, { w.globals with deviceObject := true }⟩
    if !ntSuccess answers.createSymbolicLink then
      (answers.createSymbolicLink,
        ⟨{ w.kernel with device := false }, { w.globals with deviceObject := false }⟩)
    else (0, ⟨{ w.kernel with symLink := true }, w.globals⟩)

def rgDeleteDevice (answers : UnloadAnswers) (w : DriverImage) : DriverImage :=
  let kernel := w.kernel.deleteSymbolicLink answers.deleteSymbolicLink
  if w.globals.deviceObject then
    ⟨{ kernel with device := false }, { w.globals with deviceObject := false }⟩
  else ⟨kernel, w.globals⟩

def registerAt (w : DriverImage) (i : Nat) : DriverImage :=
  ⟨w.kernel.calloutRegister i,
    { w.globals with calloutIds := Function.update w.globals.calloutIds i w.kernel.nextId }⟩

/-- The id is forgotten in any case. -/
def unregisterAt (answers : Nat → Int) (w : DriverImage) (i : Nat) : DriverImage :=
  let id := w.globals.calloutIds i
  ⟨w.kernel.calloutUnregisterById (answers id) id,
    { w.globals with calloutIds := Function.update w.globals.calloutIds i 0 }⟩

def rollBack (answers : Nat → Int) : Nat → DriverImage → DriverImage
  | 0, w => w
  | i + 1, w => rollBack answers i (w.unregisterAt answers i)

def registerFrom (answers : LoadAnswers) : Nat → Nat → DriverImage → Int × DriverImage
  | 0, _, w => (0, w)
  | n + 1, i, w =>
      if !ntSuccess (answers.calloutRegister i) then
        (answers.calloutRegister i, rollBack answers.calloutUnregister i w)
      else registerFrom answers n (i + 1) (w.registerAt i)

def rgRegisterCallouts (answers : LoadAnswers) (w : DriverImage) : Int × DriverImage :=
  registerFrom answers calloutCount 0 w

def rgUnregisterCallouts (answers : Nat → Int) (w : DriverImage) : DriverImage :=
  (List.range calloutCount).foldl
    (fun w i => if w.globals.calloutIds i ≠ 0 then w.unregisterAt answers i else w) w

end DriverImage

/-- The image is fresh, with its globals at zero. -/
def driverEntry (answers : LoadAnswers) (kernel : KernelObjects) : Int × DriverImage :=
  let (status, w) := DriverImage.rgCreateDevice answers ⟨kernel, {}⟩
  if !ntSuccess status then (status, w)
  else
    let (status, w) := w.rgRegisterCallouts answers
    if !ntSuccess status then (status, w.rgDeleteDevice answers.toUnloadAnswers) else (0, w)

def rgDriverUnload (answers : UnloadAnswers) (w : DriverImage) : DriverImage :=
  (w.rgUnregisterCallouts answers.calloutUnregister).rgDeleteDevice answers

/-! ## Loads and unloads -/

structure DriverWorld where
  kernel : KernelObjects := {}
  loaded : Option DriverGlobals := none

inductive LifeStep where
  | load (answers : LoadAnswers)
  | unload (answers : UnloadAnswers)

namespace DriverWorld

/-- An image whose entry fails is not kept. -/
def step (w : DriverWorld) : LifeStep → DriverWorld
  | .load answers =>
      match w.loaded with
      | some _ => w
      | none =>
          let (status, image) := driverEntry answers w.kernel
          ⟨image.kernel, if ntSuccess status then some image.globals else none⟩
  | .unload answers =>
      match w.loaded with
      | none => w
      | some globals => ⟨(rgDriverUnload answers ⟨w.kernel, globals⟩).kernel, none⟩

/-- The kernel holds the objects of the loaded driver and what it would not take back, and nothing
else. -/
structure Accounted (w : DriverWorld) : Prop where
  device : w.kernel.device = w.loaded.isSome
  symLink : w.kernel.symLink = (w.loaded.isSome || w.kernel.linkRefused)
  callouts : ∀ id i, w.kernel.callouts id = some i ↔ (id, i) ∈ w.kernel.refused ∨
    ∃ globals, w.loaded = some globals ∧ i < calloutCount ∧ globals.calloutIds i = id
  apart : ∀ globals, w.loaded = some globals → ∀ i key, i < calloutCount →
    (globals.calloutIds i, key) ∉ w.kernel.refused

end DriverWorld

/-! ## Ids -/

namespace DriverImage

structure Holds (w : DriverImage) : Prop where
  live : ∀ i, w.globals.calloutIds i ≠ 0 → w.kernel.callouts (w.globals.calloutIds i) = some i
  known : ∀ id i, w.kernel.callouts id = some i →
    (id, i) ∈ w.kernel.refused ∨ w.globals.calloutIds i = id
  refused : ∀ left ∈ w.kernel.refused, w.kernel.callouts left.1 = some left.2
  apart : ∀ i key, w.globals.calloutIds i ≠ 0 → (w.globals.calloutIds i, key) ∉ w.kernel.refused
  fresh : ∀ id, w.kernel.callouts id ≠ none → 0 < id ∧ id < w.kernel.nextId
  next : 0 < w.kernel.nextId

section Ids
variable {w : DriverImage}

theorem Holds.congr {w' : DriverImage} (h : w.Holds)
    (hcallouts : w'.kernel.callouts = w.kernel.callouts)
    (hnext : w'.kernel.nextId = w.kernel.nextId) (hrefused : w'.kernel.refused = w.kernel.refused)
    (hids : w'.globals.calloutIds = w.globals.calloutIds) : w'.Holds where
  live := by rw [hids, hcallouts]; exact h.live
  known := by rw [hids, hcallouts, hrefused]; exact h.known
  refused := by rw [hrefused, hcallouts]; exact h.refused
  apart := by rw [hids, hrefused]; exact h.apart
  fresh := by rw [hcallouts, hnext]; exact h.fresh
  next := by rw [hnext]; exact h.next

theorem Holds.callouts_nextId (h : w.Holds) : w.kernel.callouts w.kernel.nextId = none := by
  by_contra hsome
  exact Nat.lt_irrefl _ (h.fresh _ hsome).2

theorem registerAt_holds (h : w.Holds) (i : Nat) (hfree : w.globals.calloutIds i = 0) :
    (w.registerAt i).Holds := by
  have hnone := h.callouts_nextId
  refine ⟨?_, ?_, ?_, ?_, ?_, Nat.succ_pos _⟩
  · intro j hj
    dsimp only [registerAt, KernelObjects.calloutRegister] at hj ⊢
    by_cases hij : j = i
    · rw [hij, Function.update_self, Function.update_self]
    · rw [Function.update_of_ne hij] at hj ⊢
      have hlive := h.live j hj
      rw [Function.update_of_ne, hlive]
      intro heq
      rw [heq, hnone] at hlive
      cases hlive
  · intro id j hid
    dsimp only [registerAt, KernelObjects.calloutRegister] at hid ⊢
    by_cases hnew : id = w.kernel.nextId
    · rw [hnew, Function.update_self] at hid
      cases hid
      exact Or.inr (by rw [Function.update_self, hnew])
    · rw [Function.update_of_ne hnew] at hid
      rcases h.known id j hid with hleft | hown
      · exact Or.inl hleft
      · refine Or.inr ?_
        rw [Function.update_of_ne, hown]
        intro hij
        rw [hij, hfree] at hown
        have hpos := (h.fresh id (by rw [hid]; exact Option.some_ne_none j)).1
        omega
  · intro left hleft
    have hold := h.refused left hleft
    dsimp only [registerAt, KernelObjects.calloutRegister]
    rw [Function.update_of_ne, hold]
    intro heq
    rw [heq, hnone] at hold
    cases hold
  · intro j key hj hleft
    dsimp only [registerAt, KernelObjects.calloutRegister] at hj hleft
    by_cases hij : j = i
    · rw [hij, Function.update_self] at hleft
      have hold := h.refused _ hleft
      rw [hnone] at hold
      cases hold
    · rw [Function.update_of_ne hij] at hj hleft
      exact h.apart j key hj hleft
  · intro id hid
    dsimp only [registerAt, KernelObjects.calloutRegister] at hid ⊢
    by_cases hnew : id = w.kernel.nextId
    · exact ⟨hnew ▸ h.next, by omega⟩
    · rw [Function.update_of_ne hnew] at hid
      have hold := h.fresh id hid
      exact ⟨hold.1, by omega⟩

theorem unregisterAt_holds (h : w.Holds) (answers : Nat → Int) (i : Nat)
    (hlive : w.globals.calloutIds i ≠ 0) : (w.unregisterAt answers i).Holds := by
  have hcallout := h.live i hlive
  have hother : ∀ j, Function.update w.globals.calloutIds i 0 j ≠ 0 →
      j ≠ i ∧ w.globals.calloutIds j ≠ 0 := by
    intro j hj
    have hij : j ≠ i := by
      rintro rfl
      exact hj (Function.update_self ..)
    rw [Function.update_of_ne hij] at hj
    exact ⟨hij, hj⟩
  have hdistinct : ∀ j, j ≠ i → w.globals.calloutIds j ≠ 0 →
      w.globals.calloutIds j ≠ w.globals.calloutIds i := by
    intro j hij hj heq
    have hboth := h.live j hj
    rw [heq, hcallout] at hboth
    exact hij (Option.some.inj hboth).symm
  rw [unregisterAt]
  dsimp only
  rw [KernelObjects.calloutUnregisterById, hcallout]
  dsimp only
  split
  · refine ⟨?_, ?_, ?_, ?_, ?_, h.next⟩
    · intro j hj
      obtain ⟨hij, hj⟩ := hother j hj
      dsimp only
      rw [Function.update_of_ne hij, Function.update_of_ne (hdistinct j hij hj)]
      exact h.live j hj
    · intro id j hid
      dsimp only at hid ⊢
      by_cases hid' : id = w.globals.calloutIds i
      · rw [hid', Function.update_self] at hid
        cases hid
      · rw [Function.update_of_ne hid'] at hid
        rcases h.known id j hid with hleft | hown
        · exact Or.inl hleft
        · refine Or.inr ?_
          rw [Function.update_of_ne, hown]
          rintro rfl
          exact hid' hown.symm
    · intro left hleft
      dsimp only
      rw [Function.update_of_ne, h.refused left hleft]
      intro heq
      exact h.apart i left.2 hlive (heq ▸ hleft)
    · intro j key hj
      obtain ⟨hij, hj⟩ := hother j hj
      dsimp only
      rw [Function.update_of_ne hij]
      exact h.apart j key hj
    · intro id hid
      dsimp only at hid ⊢
      by_cases hid' : id = w.globals.calloutIds i
      · rw [hid', Function.update_self] at hid
        exact absurd rfl hid
      · rw [Function.update_of_ne hid'] at hid
        exact h.fresh id hid
  · refine ⟨?_, ?_, ?_, ?_, h.fresh, h.next⟩
    · intro j hj
      obtain ⟨hij, hj⟩ := hother j hj
      dsimp only
      rw [Function.update_of_ne hij]
      exact h.live j hj
    · intro id j hid
      dsimp only at hid ⊢
      rcases h.known id j hid with hleft | hown
      · exact Or.inl (List.mem_append_left _ hleft)
      · by_cases hij : j = i
        · subst hij
          exact Or.inl (List.mem_append_right _ (by rw [hown]; exact List.mem_singleton_self _))
        · exact Or.inr (by rw [Function.update_of_ne hij, hown])
    · intro left hleft
      rcases List.mem_append.mp hleft with hold | hnew
      · exact h.refused left hold
      · rw [List.mem_singleton.mp hnew]
        exact hcallout
    · intro j key hj hleft
      obtain ⟨hij, hj⟩ := hother j hj
      dsimp only at hleft
      rw [Function.update_of_ne hij] at hleft
      rcases List.mem_append.mp hleft with hold | hnew
      · exact h.apart j key hj hold
      · exact hdistinct j hij hj (congrArg Prod.fst (List.mem_singleton.mp hnew))

end Ids

/-! ## The loops -/

def Filled (n : Nat) (w : DriverImage) : Prop := ∀ i, w.globals.calloutIds i ≠ 0 ↔ i < n

/-- Nothing of the driver is left but what was refused. -/
def Vacant (k : KernelObjects) : Prop :=
  Holds ⟨k, {}⟩ ∧ k.device = false ∧ k.symLink = k.linkRefused

/-- What the loops over the callouts leave alone. -/
structure SameRest (w' w : DriverImage) : Prop where
  device : w'.kernel.device = w.kernel.device
  deviceObject : w'.globals.deviceObject = w.globals.deviceObject
  symLink : w'.kernel.symLink = w.kernel.symLink
  linkRefused : w'.kernel.linkRefused = w.kernel.linkRefused

theorem SameRest.trans {w₁ w₂ w₃ : DriverImage} (h : SameRest w₁ w₂) (h' : SameRest w₂ w₃) :
    SameRest w₁ w₃ :=
  ⟨h.1.trans h'.1, h.2.trans h'.2, h.3.trans h'.3, h.4.trans h'.4⟩

section Loops
variable {w : DriverImage}

theorem unregisterAt_rest (answers : Nat → Int) (w : DriverImage) (i : Nat) :
    SameRest (w.unregisterAt answers i) w := by
  rw [unregisterAt]
  dsimp only
  rw [KernelObjects.calloutUnregisterById]
  repeat' split
  all_goals exact ⟨rfl, rfl, rfl, rfl⟩

theorem registerAt_filled {i : Nat} (h : w.Holds) (hfilled : w.Filled i) :
    (w.registerAt i).Filled (i + 1) := by
  intro j
  show Function.update w.globals.calloutIds i w.kernel.nextId j ≠ 0 ↔ j < i + 1
  by_cases hij : j = i
  · rw [hij, Function.update_self]
    exact iff_of_true (Nat.pos_iff_ne_zero.mp h.next) (Nat.lt_succ_self i)
  · rw [Function.update_of_ne hij, hfilled j]
    omega

theorem unregisterAt_filled {i : Nat} (answers : Nat → Int) (hfilled : w.Filled (i + 1)) :
    (w.unregisterAt answers i).Filled i := by
  intro j
  show Function.update w.globals.calloutIds i 0 j ≠ 0 ↔ j < i
  by_cases hij : j = i
  · rw [hij, Function.update_self]
    exact iff_of_false (fun h => h rfl) (Nat.lt_irrefl i)
  · rw [Function.update_of_ne hij, hfilled j]
    omega

/-- The way back takes out what the way there has put in. -/
theorem rollBack_holds (answers : Nat → Int) (i : Nat) (w : DriverImage) (h : w.Holds)
    (hfilled : w.Filled i) : (rollBack answers i w).Holds ∧ (rollBack answers i w).Filled 0 ∧
      SameRest (rollBack answers i w) w := by
  induction i generalizing w with
  | zero => exact ⟨h, hfilled, ⟨rfl, rfl, rfl, rfl⟩⟩
  | succ i ih =>
      have hlive := (hfilled i).mpr (Nat.lt_succ_self i)
      obtain ⟨hholds, hempty, hrest⟩ := ih (w.unregisterAt answers i)
        (unregisterAt_holds h answers i hlive) (unregisterAt_filled answers hfilled)
      exact ⟨hholds, hempty, hrest.trans (unregisterAt_rest answers w i)⟩

/-- All callouts or none. -/
theorem registerFrom_holds (answers : LoadAnswers) (n i : Nat) (w : DriverImage) (h : w.Holds)
    (hfilled : w.Filled i) :
    (registerFrom answers n i w).2.Holds ∧ SameRest (registerFrom answers n i w).2 w ∧
      (registerFrom answers n i w).2.Filled
        (if ntSuccess (registerFrom answers n i w).1 then i + n else 0) := by
  induction n generalizing i w with
  | zero => exact ⟨h, ⟨rfl, rfl, rfl, rfl⟩, hfilled⟩
  | succ n ih =>
      rw [registerFrom]
      cases hanswer : ntSuccess (answers.calloutRegister i) with
      | false =>
          obtain ⟨hholds, hempty, hrest⟩ :=
            rollBack_holds answers.calloutUnregister i w h hfilled
          refine ⟨hholds, hrest, ?_⟩
          show Filled (if ntSuccess (answers.calloutRegister i) then i + (n + 1) else 0) _
          rw [hanswer]
          exact hempty
      | true =>
          have hfree : w.globals.calloutIds i = 0 := by
            by_contra hlive
            exact Nat.lt_irrefl i ((hfilled i).mp hlive)
          obtain ⟨hholds, hrest, hfull⟩ := ih (i + 1) (w.registerAt i)
            (registerAt_holds h i hfree) (registerAt_filled h hfilled)
          rw [Nat.add_assoc, Nat.add_comm 1 n] at hfull
          exact ⟨hholds, hrest.trans ⟨rfl, rfl, rfl, rfl⟩, hfull⟩

theorem unregister_holds (answers : Nat → Int) (n : Nat) (h : w.Holds) :
    let w' := (List.range n).foldl
      (fun w i => if w.globals.calloutIds i ≠ 0 then w.unregisterAt answers i else w) w
    w'.Holds ∧ SameRest w' w ∧
      ∀ i, w'.globals.calloutIds i = if i < n then 0 else w.globals.calloutIds i := by
  induction n with
  | zero => exact ⟨h, ⟨rfl, rfl, rfl, rfl⟩, fun _ => rfl⟩
  | succ n ih =>
      obtain ⟨hholds, hrest, hids⟩ := ih
      rw [List.range_succ, List.foldl_append, List.foldl_cons, List.foldl_nil]
      generalize List.foldl _ w (List.range n) = w' at hholds hrest hids ⊢
      have hbelow : ∀ i, i ≠ n → (i < n + 1 ↔ i < n) := fun i hin => by omega
      split
      · rename_i hlive
        refine ⟨unregisterAt_holds hholds answers n hlive,
          (unregisterAt_rest answers w' n).trans hrest, ?_⟩
        intro i
        show Function.update w'.globals.calloutIds n 0 i = _
        by_cases hin : i = n
        · rw [hin, Function.update_self, if_pos (Nat.lt_succ_self n)]
        · rw [Function.update_of_ne hin, hids i]
          simp only [hbelow i hin]
      · rename_i hdead
        refine ⟨hholds, hrest, ?_⟩
        intro i
        by_cases hin : i = n
        · rw [hin, if_pos (Nat.lt_succ_self n)]
          exact not_not.mp hdead
        · rw [hids i]
          simp only [hbelow i hin]

theorem rgUnregisterCallouts_holds (answers : Nat → Int) (h : w.Holds)
    (hfilled : w.Filled calloutCount) : (w.rgUnregisterCallouts answers).Holds ∧
      SameRest (w.rgUnregisterCallouts answers) w ∧
      (w.rgUnregisterCallouts answers).Filled 0 := by
  obtain ⟨hholds, hrest, hids⟩ := unregister_holds answers calloutCount h
  refine ⟨hholds, hrest, fun i => iff_of_false ?_ (Nat.not_lt_zero i)⟩
  rw [not_not]
  refine (hids i).trans ?_
  split
  · rfl
  · rename_i hge
    by_contra hlive
    exact hge ((hfilled i).mp hlive)

/-- The device goes; the link goes with it or is refused. -/
theorem rgDeleteDevice_holds (answers : UnloadAnswers) (h : w.Holds) (hfilled : w.Filled 0)
    (hdevice : w.kernel.device = w.globals.deviceObject) (hlink : w.kernel.symLink = true) :
    Vacant (w.rgDeleteDevice answers).kernel := by
  have hids : w.globals.calloutIds = fun _ => 0 := by
    funext i
    by_contra hlive
    exact Nat.not_lt_zero i ((hfilled i).mp hlive)
  have hkernel : ∀ k : KernelObjects, k.callouts = w.kernel.callouts →
      k.nextId = w.kernel.nextId → k.refused = w.kernel.refused → Holds ⟨k, {}⟩ :=
    fun k hcallouts hnext hrefused => h.congr hcallouts hnext hrefused hids.symm
  rw [rgDeleteDevice, KernelObjects.deleteSymbolicLink]
  cases hobject : w.globals.deviceObject with
  | true =>
      rw [if_pos rfl]
      split
      · exact ⟨hkernel _ rfl rfl rfl, rfl, rfl⟩
      · exact ⟨hkernel _ rfl rfl rfl, rfl, hlink⟩
  | false =>
      rw [hobject] at hdevice
      rw [if_neg Bool.false_ne_true]
      split
      · exact ⟨hkernel _ rfl rfl rfl, hdevice, rfl⟩
      · exact ⟨hkernel _ rfl rfl rfl, hdevice, hlink⟩

end Loops

end DriverImage

/-! ## Any run -/

section Calls
open DriverImage

structure Running (w : DriverImage) : Prop where
  holds : w.Holds
  filled : w.Filled calloutCount
  device : w.kernel.device = true
  deviceObject : w.globals.deviceObject = true
  symLink : w.kernel.symLink = true

theorem driverEntry_result (answers : LoadAnswers) {k : KernelObjects} (h : Vacant k) :
    if ntSuccess (driverEntry answers k).1 then Running (driverEntry answers k).2
    else Vacant (driverEntry answers k).2.kernel := by
  obtain ⟨hholds, hdevice, hlink⟩ := h
  have hnone : ∀ w : DriverImage, w.globals.calloutIds = (fun _ => 0) → w.Filled 0 := by
    intro w hids i
    rw [hids]
    exact iff_of_false (fun hne => hne rfl) (Nat.not_lt_zero i)
  rw [driverEntry, rgCreateDevice]
  cases hcreate : ntSuccess answers.createDevice with
  | false =>
      simp only [hcreate, Bool.not_false, if_true, Bool.false_eq_true, if_false]
      exact ⟨hholds, hdevice, hlink⟩
  | true =>
      cases hsym : ntSuccess answers.createSymbolicLink with
      | false =>
          simp only [hsym, Bool.not_true, Bool.not_false, Bool.false_eq_true, if_true, if_false]
          exact ⟨hholds.congr rfl rfl rfl rfl, rfl, hlink⟩
      | true =>
          have hzero : ntSuccess 0 = true := rfl
          simp only [hzero, Bool.not_true, Bool.false_eq_true, if_false]
          obtain ⟨hregistered, hrest, hfilled⟩ := registerFrom_holds answers calloutCount 0
            ⟨{ k with device := true, symLink := true }, { deviceObject := true }⟩
            (hholds.congr rfl rfl rfl rfl) (hnone _ rfl)
          rw [rgRegisterCallouts]
          cases hstatus : ntSuccess (registerFrom answers calloutCount 0
            ⟨{ k with device := true, symLink := true }, { deviceObject := true }⟩).1 with
          | false =>
              simp only [hstatus, Bool.not_false, if_true, Bool.false_eq_true, if_false]
              rw [hstatus] at hfilled
              exact rgDeleteDevice_holds answers.toUnloadAnswers hregistered hfilled
                (hrest.device.trans hrest.deviceObject.symm) hrest.symLink
          | true =>
              simp only [hzero, Bool.not_true, Bool.false_eq_true, if_true, if_false]
              rw [hstatus] at hfilled
              exact ⟨hregistered, hfilled, hrest.device, hrest.deviceObject, hrest.symLink⟩

theorem rgDriverUnload_result (answers : UnloadAnswers) {w : DriverImage} (h : Running w) :
    Vacant (rgDriverUnload answers w).kernel := by
  obtain ⟨hunregistered, hsame, hempty⟩ :=
    rgUnregisterCallouts_holds answers.calloutUnregister h.holds h.filled
  have hdevice := h.device.trans h.deviceObject.symm
  exact rgDeleteDevice_holds answers hunregistered hempty
    ((hsame.device.trans hdevice).trans hsame.deviceObject.symm) (hsame.symLink.trans h.symLink)

end Calls

namespace DriverWorld

def Settled (w : DriverWorld) : Prop :=
  match w.loaded with
  | none => DriverImage.Vacant w.kernel
  | some globals => Running ⟨w.kernel, globals⟩

theorem step_settled (w : DriverWorld) (event : LifeStep) (h : w.Settled) :
    (w.step event).Settled := by
  cases event with
  | load answers =>
      rw [step]
      cases hloaded : w.loaded with
      | some globals => exact h
      | none =>
          rw [Settled, hloaded] at h
          have hresult := driverEntry_result answers h
          dsimp only
          cases hstatus : ntSuccess (driverEntry answers w.kernel).1 with
          | true =>
              rw [hstatus] at hresult
              exact hresult
          | false =>
              rw [hstatus] at hresult
              exact hresult
  | unload answers =>
      rw [step]
      cases hloaded : w.loaded with
      | none => exact h
      | some globals =>
          rw [Settled, hloaded] at h
          exact rgDriverUnload_result answers h

theorem Settled.accounted {w : DriverWorld} (h : w.Settled) : w.Accounted := by
  rw [Settled] at h
  cases hloaded : w.loaded with
  | none =>
      rw [hloaded] at h
      obtain ⟨hholds, hdevice, hlink⟩ := h
      refine ⟨by rw [hdevice, hloaded]; rfl, ?_, ?_, ?_⟩
      · rw [hlink, hloaded]
        rfl
      · intro id i
        refine ⟨fun hid => ?_, ?_⟩
        · rcases hholds.known id i hid with hleft | hzero
          · exact Or.inl hleft
          · have hpos := (hholds.fresh id (by rw [hid]; exact Option.some_ne_none i)).1
            exact absurd hzero.symm (Nat.pos_iff_ne_zero.mp hpos)
        · rintro (hleft | ⟨globals, hsome, _⟩)
          · exact hholds.refused _ hleft
          · rw [hloaded] at hsome
            cases hsome
      · intro globals hsome
        rw [hloaded] at hsome
        cases hsome
  | some globals =>
      rw [hloaded] at h
      obtain ⟨hholds, hfilled, hdevice, _, hlink⟩ := h
      refine ⟨?_, ?_, ?_, ?_⟩
      · rw [hloaded]
        exact hdevice
      · rw [hloaded]
        exact hlink
      · intro id i
        refine ⟨fun hid => ?_, ?_⟩
        · rcases hholds.known id i hid with hleft | hown
          · exact Or.inl hleft
          · refine Or.inr ⟨globals, hloaded, (hfilled i).mp ?_, hown⟩
            rw [hown]
            exact Nat.pos_iff_ne_zero.mp
              (hholds.fresh id (by rw [hid]; exact Option.some_ne_none i)).1
        · rintro (hleft | ⟨others, hsome, hlt, hown⟩)
          · exact hholds.refused _ hleft
          · rw [hloaded] at hsome
            cases hsome
            rw [← hown]
            exact hholds.live i ((hfilled i).mpr hlt)
      · intro others hsome i key hlt
        rw [hloaded] at hsome
        cases hsome
        exact hholds.apart i key ((hfilled i).mpr hlt)

/-- However often the driver is loaded and unloaded, and whatever the kernel answers. -/
theorem run_accounted (events : List LifeStep) : (run step {} events).Accounted := by
  refine Settled.accounted
    (run_keeps step step_settled events {} ⟨⟨?_, ?_, ?_, ?_, ?_, ?_⟩, rfl, rfl⟩)
  · intro i hlive
    exact absurd rfl hlive
  · intro id i hid
    cases hid
  · intro left hleft
    cases hleft
  · intro i key hlive
    exact absurd rfl hlive
  · intro id hid
    exact absurd rfl hid
  · exact Nat.one_pos

end DriverWorld
end RouteGuard
