import RouteGuard.Awg.Params
import RouteGuard.Lib.Sections

/-! # The entries behind the obfuscation parameters

The scan writes one parameter for each entry of the interface sections, so a
parameter is what is read of the last entry of its key. -/
set_option autoImplicit false
namespace RouteGuard

def awgNext (inInterface : Bool) (line : String) : Bool :=
  let line := trim (beforeComment line)
  if line ≠ "" ∧ isSectionLine line then eqIgnoreAsciiCase line "[Interface]" else inInterface

def awgEntry (inInterface : Bool) (line : String) : Option (String × String) :=
  let line := trim (beforeComment line)
  if line = "" ∨ isSectionLine line ∨ !inInterface then none
  else (splitOnce '=' line).map fun (k, v) => (toAsciiLowercase (trim k), trim v)

def awgEntries (text : String) : List (String × String) :=
  Sections.outputs awgNext awgEntry false (lines text)

def AwgParams.setEntries (params : AwgParams) (entries : List (String × String)) : AwgParams :=
  entries.foldl (fun params entry => params.setKey entry.1 entry.2) params

theorem awgLine_eq (params : AwgParams) (inInterface : Bool) (line : String) :
    awgLine (params, inInterface) line =
      (params.setEntries (awgEntry inInterface line).toList, awgNext inInterface line) := by
  rw [awgLine, awgEntry, awgNext]
  generalize trim (beforeComment line) = text
  dsimp only
  by_cases hempty : text = ""
  · simp only [hempty, if_true, true_or, ne_eq, not_true_eq_false, false_and, if_false]
    rfl
  · cases hsection : isSectionLine text with
    | true =>
        simp only [hempty, if_false, if_true, false_or, true_or, ne_eq, not_false_eq_true, and_self]
        rfl
    | false =>
        cases inInterface with
        | false =>
            simp only [hempty, if_false, false_or, Bool.false_eq_true, Bool.not_false, if_true,
              and_false]
            rfl
        | true =>
            simp only [hempty, if_false, false_or, Bool.false_eq_true, Bool.not_true, and_false]
            rcases splitOnce '=' text with _ | ⟨k, v⟩
            · rfl
            · simp only [Option.map_some, Option.toList_some,
                AwgParams.setEntries, List.foldl_cons, List.foldl_nil]

theorem foldl_awgLine (textLines : List String) (params : AwgParams) (inInterface : Bool) :
    (textLines.foldl awgLine (params, inInterface)).1 =
      params.setEntries (Sections.outputs awgNext awgEntry inInterface textLines) := by
  induction textLines generalizing params inInterface with
  | nil => rfl
  | cons line rest ih =>
      rw [List.foldl_cons, awgLine_eq, ih, Sections.outputs, AwgParams.setEntries,
        AwgParams.setEntries, AwgParams.setEntries, List.foldl_append]

theorem parseAwgFromConf_entries (text : String) :
    parseAwgFromConf text = AwgParams.setEntries {} (awgEntries text) :=
  foldl_awgLine (lines text) {} false

def numberFields : List (String × (AwgParams → Option UInt16)) :=
  [("jc", AwgParams.jc), ("jmin", AwgParams.jmin), ("jmax", AwgParams.jmax),
    ("s1", AwgParams.s1), ("s2", AwgParams.s2)]

def headerFields : List (String × (AwgParams → Option String)) :=
  [("h1", AwgParams.h1), ("h2", AwgParams.h2), ("h3", AwgParams.h3), ("h4", AwgParams.h4)]

def lastValue (key : String) (entries : List (String × String)) : Option String :=
  (entries.filterMap fun entry => if entry.1 = key then some entry.2 else none).getLast?

theorem lastValue_cons (key : String) (entry : String × String) (rest : List (String × String)) :
    lastValue key (entry :: rest) =
      (lastValue key rest).or (if entry.1 = key then some entry.2 else none) := by
  rw [lastValue, lastValue]
  by_cases hkey : entry.1 = key
  · simp only [List.filterMap_cons, hkey, if_true, List.getLast?_cons]
    cases (rest.filterMap fun entry => if entry.1 = key then some entry.2 else none).getLast? with
    | none => rfl
    | some last => rfl
  · simp only [List.filterMap_cons, hkey, if_false, Option.or_none]

section Fields
variable {T : Type} {field : AwgParams → T} {read : String → T} {key : String}

/-- A parameter is what is read of the last value of its key. -/
theorem field_setEntries
    (hset : ∀ params k v,
      field (AwgParams.setKey params k v) = if k = key then read v else field params)
    (entries : List (String × String)) (params : AwgParams) :
    field (params.setEntries entries) = (lastValue key entries).elim (field params) read := by
  induction entries generalizing params with
  | nil => rfl
  | cons entry rest ih =>
      have htail := ih (params.setKey entry.1 entry.2)
      rw [AwgParams.setEntries, List.foldl_cons]
      refine htail.trans ?_
      rw [hset, lastValue_cons]
      cases lastValue key rest with
      | some v => rfl
      | none =>
          by_cases hkey : entry.1 = key
          · rw [if_pos hkey, if_pos hkey]
            rfl
          · rw [if_neg hkey, if_neg hkey]
            rfl

end Fields

theorem number_setKey {key : String} {field : AwgParams → Option UInt16}
    (hfield : (key, field) ∈ numberFields) (params : AwgParams) (k v : String) :
    field (params.setKey k v) = if k = key then (parseU16 v).toOption else field params := by
  simp only [numberFields, List.mem_cons, Prod.mk.injEq, List.not_mem_nil, or_false] at hfield
  by_cases hkey : k = key
  · subst hkey
    rcases hfield with ⟨rfl, rfl⟩ | ⟨rfl, rfl⟩ | ⟨rfl, rfl⟩ | ⟨rfl, rfl⟩ | ⟨rfl, rfl⟩ <;>
      simp [AwgParams.setKey]
  · rcases hfield with ⟨rfl, rfl⟩ | ⟨rfl, rfl⟩ | ⟨rfl, rfl⟩ | ⟨rfl, rfl⟩ | ⟨rfl, rfl⟩ <;>
      simp only [AwgParams.setKey, hkey, if_false, apply_ite AwgParams.jc,
        apply_ite AwgParams.jmin, apply_ite AwgParams.jmax, apply_ite AwgParams.s1,
        apply_ite AwgParams.s2, ite_self]

theorem header_setKey {key : String} {field : AwgParams → Option String}
    (hfield : (key, field) ∈ headerFields) (params : AwgParams) (k v : String) :
    field (params.setKey k v) = if k = key then some v else field params := by
  simp only [headerFields, List.mem_cons, Prod.mk.injEq, List.not_mem_nil, or_false] at hfield
  by_cases hkey : k = key
  · subst hkey
    rcases hfield with ⟨rfl, rfl⟩ | ⟨rfl, rfl⟩ | ⟨rfl, rfl⟩ | ⟨rfl, rfl⟩ <;>
      simp [AwgParams.setKey]
  · rcases hfield with ⟨rfl, rfl⟩ | ⟨rfl, rfl⟩ | ⟨rfl, rfl⟩ | ⟨rfl, rfl⟩ <;>
      simp only [AwgParams.setKey, hkey, if_false, apply_ite AwgParams.h1,
        apply_ite AwgParams.h2, apply_ite AwgParams.h3, apply_ite AwgParams.h4, ite_self]

theorem number_parseAwgFromConf {key : String} {field : AwgParams → Option UInt16}
    (hfield : (key, field) ∈ numberFields) (text : String) :
    field (parseAwgFromConf text) =
      (lastValue key (awgEntries text)).bind fun v => (parseU16 v).toOption := by
  rw [parseAwgFromConf_entries, field_setEntries (number_setKey hfield)]
  simp only [numberFields, List.mem_cons, Prod.mk.injEq, List.not_mem_nil, or_false] at hfield
  rcases hfield with ⟨rfl, rfl⟩ | ⟨rfl, rfl⟩ | ⟨rfl, rfl⟩ | ⟨rfl, rfl⟩ | ⟨rfl, rfl⟩ <;>
    cases lastValue _ (awgEntries text) <;> rfl

theorem header_parseAwgFromConf {key : String} {field : AwgParams → Option String}
    (hfield : (key, field) ∈ headerFields) (text : String) :
    field (parseAwgFromConf text) = lastValue key (awgEntries text) := by
  rw [parseAwgFromConf_entries, field_setEntries (header_setKey hfield)]
  simp only [headerFields, List.mem_cons, Prod.mk.injEq, List.not_mem_nil, or_false] at hfield
  rcases hfield with ⟨rfl, rfl⟩ | ⟨rfl, rfl⟩ | ⟨rfl, rfl⟩ | ⟨rfl, rfl⟩ <;>
    cases lastValue _ (awgEntries text) <;> rfl

theorem hasAny_eq (params : AwgParams) :
    params.hasAny = (numberFields.any (fun f => (f.2 params).isSome) ||
      headerFields.any fun f => (filledHeader (f.2 params)).isSome) := by
  simp [AwgParams.hasAny, numberFields, headerFields, Bool.or_assoc]

end RouteGuard
