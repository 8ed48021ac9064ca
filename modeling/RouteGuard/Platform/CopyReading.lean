import RouteGuard.Core.TransportHints
import RouteGuard.Platform.ConfCopy

/-! # Where the MTU goes

The MTU line is written in place of another, behind the first interface header, or
at the end.  Only in an interface section does the driver read it. -/
set_option autoImplicit false
namespace RouteGuard

open Sections FirstError

/-! ## When a line is inserted -/

/-- No interface header follows one of the MTU lines. -/
def MtuBehind (ps : List (List String)) : Prop :=
  ∃ before part after, ps = before ++ part :: after ∧ part.any isMtuLine = true ∧
    ∀ later ∈ after, isNamed "[interface]" later = false

theorem mtuBehind_cons {part : List String} {rest : List (List String)} :
    MtuBehind (part :: rest) ↔
      MtuBehind rest ∨ part.any isMtuLine = true ∧
        ∀ later ∈ rest, isNamed "[interface]" later = false := by
  constructor
  · rintro ⟨before, line, after, hsplit, hmtu, hafter⟩
    cases before with
    | nil =>
        cases hsplit
        exact Or.inr ⟨hmtu, hafter⟩
    | cons first before =>
        cases hsplit
        exact Or.inl ⟨before, line, after, rfl, hmtu, hafter⟩
  · rintro (⟨before, line, after, rfl, hmtu, hafter⟩ | ⟨hmtu, hafter⟩)
    · exact ⟨part :: before, line, after, rfl, hmtu, hafter⟩
    · exact ⟨[], part, rest, rfl, hmtu, hafter⟩

theorem mtuWritten_plain {part : List String} (h : isNamed "[routeguard]" part = false)
    (wrote : Bool) :
    mtuWritten wrote part =
      ((if isNamed "[interface]" part then false else wrote) || part.any isMtuLine) := by
  rw [mtuWritten, h, if_neg (by decide)]

/-- The rewriter takes the MTU for written if no interface header follows the last of its lines. -/
theorem foldl_mtuWritten {ps : List (List String)}
    (h : ∀ part ∈ ps, isNamed "[routeguard]" part = false) (wrote : Bool) :
    ps.foldl mtuWritten wrote = true ↔
      MtuBehind ps ∨ wrote = true ∧ ∀ part ∈ ps, isNamed "[interface]" part = false := by
  induction ps generalizing wrote with
  | nil =>
      constructor
      · intro hwrote
        exact Or.inr ⟨hwrote, fun part hpart => by cases hpart⟩
      · rintro (⟨before, part, after, hsplit, -⟩ | ⟨hwrote, -⟩)
        · simp at hsplit
        · exact hwrote
  | cons part rest ih =>
      rw [List.foldl_cons, ih (fun other hother => h other (List.mem_cons_of_mem _ hother)),
        mtuWritten_plain (h part List.mem_cons_self), mtuBehind_cons, List.forall_mem_cons,
        or_assoc]
      refine or_congr Iff.rfl ?_
      cases isNamed "[interface]" part <;> cases wrote <;> simp

theorem no_mtuLine {ps : List (List String)} (hbehind : ¬MtuBehind ps)
    (hnone : ∀ part ∈ ps, isNamed "[interface]" part = false) :
    ∀ part ∈ ps, part.any isMtuLine = false := by
  intro part hpart
  rw [← Bool.not_eq_true]
  intro hmtu
  obtain ⟨before, after, rfl⟩ := List.append_of_mem hpart
  refine hbehind ⟨before, part, after, rfl, hmtu, fun later hlater => hnone later ?_⟩
  exact List.mem_append_right _ (List.mem_cons_of_mem _ hlater)

/-! ## The copy keeps the place -/

section Copied
variable {endpoint : ScopedSocketAddr} {mtu : Nat}

theorem isInterface_copyPart {part : List String}
    (htail : ∀ line ∈ part.tail, isHeaderLine line = false)
    (hplain : isNamed "[routeguard]" part = false) (wrote : Bool) :
    isNamed "[interface]" (copyPart endpoint mtu wrote part) = isNamed "[interface]" part := by
  cases part with
  | nil => rfl
  | cons header body =>
      cases hheader : isHeaderLine header with
      | true => exact (nameOf_copyPart ⟨header, body, rfl, hheader, htail⟩ hplain wrote).2 _
      | false =>
          have hall : ∀ line ∈ header :: body, isHeaderLine line = false :=
            List.forall_mem_cons.mpr ⟨hheader, htail⟩
          obtain ⟨-, hpeer, hinterface⟩ := isNamed_of_body hall
          rw [copyPart_other hplain hpeer, (isNamed_of_body (not_header_copyLines hall)).2.2,
            hinterface]

theorem exists_interface_copyParts {ps : List (List String)} (h : Copyable ps) (wrote : Bool) :
    (∃ part ∈ copyParts endpoint mtu wrote ps, isNamed "[interface]" part = true) ↔
      ∃ part ∈ ps, isNamed "[interface]" part = true := by
  induction ps generalizing wrote with
  | nil => exact Iff.rfl
  | cons part rest ih =>
      obtain ⟨htail, hplain⟩ := h.head
      simp only [copyParts, List.exists_mem_cons_iff, isInterface_copyPart htail hplain, ih h.rest]

theorem getLast_copyParts {ps : List (List String)} (h : Copyable ps) (wrote : Bool) :
    (copyParts endpoint mtu wrote ps).getLast?.map nameOf = ps.getLast?.map nameOf := by
  induction ps generalizing wrote with
  | nil => rfl
  | cons part rest ih =>
      obtain ⟨htail, hplain⟩ := h.head
      have hlater := ih h.rest (wrote || isNamed "[peer]" part)
      cases rest with
      | nil => exact congrArg some (nameOf_copy htail hplain wrote)
      | cons other others => exact hlater

theorem lands_copyParts {ps : List (List String)} (h : Copyable ps) (wrote : Bool) :
    Lands (copyParts endpoint mtu wrote ps) ↔ Lands ps := by
  have hlast : ∀ ps : List (List String), (∃ last, ps.getLast? = some last ∧
      nameOf last = "interface") ↔ ps.getLast?.map nameOf = some "interface" := by
    intro ps
    rw [Option.map_eq_some_iff]
  rw [Lands, Lands, hlast, hlast, getLast_copyParts h, exists_interface_copyParts h]

end Copied

/-! ## The MTU that is read -/

section Mtu
variable {mtu : UInt16}

theorem readMtu_run {entries : List (String × String)}
    (h : ∀ entry ∈ entries, entry = ("mtu", toString mtu.toNat)) :
    entries.foldlM (fun _ entry => readMtu entry) none = .ok (some mtu) ↔ entries ≠ [] := by
  constructor
  · rintro hrun rfl
    cases hrun
  · intro hne
    have hsame : ∀ entry ∈ entries, readMtu entry = .ok (some mtu) := by
      intro entry hentry
      rw [h entry hentry, readMtu_written]
    exact foldlM_write_same hsame hne none

end Mtu

/-! ## One entry more -/

section Added
variable {entry : String × String} {ps ps' : List (List String)} {inInterface : Prop}

theorem interfaceEntries_append (front back : List (List String)) :
    interfaceEntries (front ++ back) = interfaceEntries front ++ interfaceEntries back := by
  rw [interfaceEntries, List.filter_append, List.flatMap_append]
  rfl

/-- In an interface section it is one more of the adapter's, elsewhere it is none. -/
theorem EntryAdded.interfaceEntries_eq (h : EntryAdded entry ps ps' inInterface) :
    (inInterface → ∃ front rest, interfaceEntries ps = front ++ rest ∧
      interfaceEntries ps' = front ++ entry :: rest) ∧
    (¬inInterface → interfaceEntries ps' = interfaceEntries ps) := by
  obtain ⟨before, part, part', after, rfl, rfl, hname, hwhere, front, rest, hold, hnew⟩ := h.split
  rw [interfaceEntries_append, interfaceEntries_append, interfaceEntries_cons,
    interfaceEntries_cons, hname, hold, hnew]
  constructor
  · intro hinside
    rw [if_pos (hwhere.mpr hinside), if_pos (hwhere.mpr hinside)]
    refine ⟨interfaceEntries before ++ front, rest ++ interfaceEntries after, ?_, ?_⟩
    · simp only [List.append_assoc]
    · simp only [List.append_assoc, List.cons_append]
  · intro houtside
    rw [if_neg fun hinside => houtside (hwhere.mp hinside),
      if_neg fun hinside => houtside (hwhere.mp hinside)]

/-- No peer is read from an interface section. -/
theorem EntryAdded.peersRead_iff {parseNet : String → Except String IpNet}
    (h : EntryAdded entry ps ps' inInterface) (hinside : inInterface)
    {peers : List ParsedPeer} : PeersRead parseNet ps' peers ↔ PeersRead parseNet ps peers := by
  obtain ⟨before, part, part', after, rfl, rfl, hname, hwhere, -⟩ := h.split
  have hpart := interface_not_block (hwhere.mpr hinside)
  have hpart' := interface_not_block (hname.trans (hwhere.mpr hinside))
  rw [PeersRead, PeersRead, List.filter_append, List.filter_append,
    List.filter_cons_of_neg (by simpa using hpart'), List.filter_cons_of_neg (by simpa using hpart)]

end Added

end RouteGuard
