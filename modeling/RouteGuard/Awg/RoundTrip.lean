import RouteGuard.Awg.Entries
import RouteGuard.Core.AddrRoundTrip
import RouteGuard.Platform.WrittenConf

/-! # Writing and reading the obfuscation parameters

Parameters without issues are read back as they were written, an empty header as
an absent one: the validation leaves no character in a header that the reader
takes for something else. -/
set_option autoImplicit false
namespace RouteGuard

/-! ## Numbers and headers as text -/

section Values

theorem isDigitOf_of_toDigit {c : Char} {digit : Nat} (h : toDigit 10 c = some digit) :
    isDigitOf 16 c = true := by
  have hnumber : '0' ≤ c ∧ c ≤ '9' := by
    by_contra hnot
    unfold toDigit at h
    simp only [hnot, if_false] at h
    split_ifs at h <;> omega
  have hrange : c.toNat - '0'.toNat < 16 := by
    have hlast : c.toNat ≤ '9'.toNat := hnumber.2
    have hnine : '9'.toNat = 57 := by decide
    have hzero : '0'.toNat = 48 := by decide
    omega
  rw [isDigitOf, toDigit]
  simp only [hnumber, and_self, if_true, hrange, Option.isSome_some]

theorem digits_of_foldlM {bound : Nat} {digits : List Char} {start n : Nat}
    (h : digits.foldlM (pushDigit bound) start = .ok n) :
    ∀ c ∈ digits, isDigitOf 16 c = true := by
  induction digits generalizing start with
  | nil =>
      intro c hc
      cases hc
  | cons first rest ih =>
      rw [List.foldlM_cons, pushDigit] at h
      cases hdigit : toDigit 10 first with
      | none =>
          rw [hdigit] at h
          cases h
      | some digit =>
          rw [hdigit] at h
          dsimp only at h
          split_ifs at h
          · exact List.forall_mem_cons.mpr ⟨isDigitOf_of_toDigit hdigit, ih h⟩
          · cases h

theorem parseUnsigned_chars {bound n : Nat} {s : String} (h : parseUnsigned bound s = .ok n) :
    s.toList ≠ [] ∧ ∀ c ∈ s.toList, c = '+' ∨ isDigitOf 16 c = true := by
  rw [parseUnsigned] at h
  split at h
  · cases h
  · cases h
  · rename_i digits _ hs
    rw [hs]
    refine ⟨by simp, List.forall_mem_cons.mpr ⟨Or.inl rfl, fun c hc => Or.inr ?_⟩⟩
    exact digits_of_foldlM h c hc
  · rename_i hne _ _
    refine ⟨hne, fun c hc => Or.inr ?_⟩
    exact digits_of_foldlM h c hc

def HeaderChar (c : Char) : Prop := c = '+' ∨ c = '-' ∨ isDigitOf 16 c = true

theorem headerChars_of_parseU64 {chars : List Char} {n : UInt64}
    (h : parseU64 (String.ofList chars) = .ok n) :
    chars ≠ [] ∧ ∀ c ∈ chars, HeaderChar c := by
  rw [parseU64] at h
  cases hread : parseUnsigned (2 ^ 64) (String.ofList chars) with
  | error e =>
      rw [hread] at h
      cases h
  | ok value =>
      have hchars := parseUnsigned_chars hread
      rw [String.toList_ofList] at hchars
      refine ⟨hchars.1, fun c hc => ?_⟩
      rcases hchars.2 c hc with hplus | hdigit
      · exact Or.inl hplus
      · exact Or.inr (Or.inr hdigit)

theorem headerChars {spec : String} (h : validateMagicHeaderSpec spec = .ok ()) :
    spec.toList ≠ [] ∧ ∀ c ∈ spec.toList, HeaderChar c := by
  have hspec : ['-'].intercalate (spec.toList.splitOn '-') = spec.toList :=
    List.intercalate_splitOn _
  rw [validateMagicHeaderSpec, splitOnChar] at h
  rcases hparts : spec.toList.splitOn '-' with _ | ⟨start, others⟩
  · rw [hparts] at h
    cases h
  · rw [hparts, List.map_cons] at h
    rw [hparts] at hspec
    dsimp only at h
    split_ifs at h with hmany
    cases hstart : parseU64 (String.ofList start) with
    | error e =>
        rw [hstart] at h
        cases h
    | ok first =>
        obtain ⟨hne, hfirst⟩ := headerChars_of_parseU64 hstart
        rw [hstart] at h
        dsimp only at h
        rcases others with _ | ⟨stop, rest⟩
        · rw [List.intercalate_singleton] at hspec
          rw [← hspec]
          exact ⟨hne, hfirst⟩
        · have hrest : rest = [] := by
            cases rest with
            | nil => rfl
            | cons third more =>
                simp at hmany
          rw [hrest] at h hspec
          rw [List.map_cons, List.head?_cons, Option.elim_some] at h
          cases hstop : parseU64 (String.ofList stop) with
          | error e =>
              rw [hstop] at h
              cases h
          | ok last =>
              obtain ⟨-, hlast⟩ := headerChars_of_parseU64 hstop
              rw [List.intercalate_cons_cons, List.intercalate_singleton] at hspec
              rw [← hspec]
              refine ⟨by simp, ?_⟩
              rw [List.append_assoc, List.forall_mem_append, List.forall_mem_append,
                List.forall_mem_singleton]
              exact ⟨hfirst, Or.inr (Or.inl rfl), hlast⟩

/-- What a value must be for its line to be read as it was written. -/
structure PlainValue (value : String) : Prop where
  graphic : Graphic value.toList
  ne_nil : value.toList ≠ []
  no_comment : '#' ∉ value.toList

theorem plainValue_of_chars {value : String} (hne : value.toList ≠ [])
    (h : ∀ c ∈ value.toList, HeaderChar c) : PlainValue value := by
  have hplain : ∀ c, HeaderChar c → isWhitespace c = false ∧ c ≠ '#' := by
    rintro c (rfl | rfl | hdigit)
    · decide
    · decide
    · constructor
      · rw [← Bool.not_eq_true]
        intro hblank
        rw [not_digit_of_isWhitespace hblank] at hdigit
        cases hdigit
      · rintro rfl
        revert hdigit
        decide
  refine ⟨fun c hc => (hplain c (h c hc)).1, hne, fun hc => ?_⟩
  exact (hplain '#' (h '#' hc)).2 rfl

theorem plainValue_number (n : UInt16) : PlainValue (toString n) := by
  obtain ⟨hne, hchars⟩ := parseUnsigned_chars
    (parseUnsigned_of_toDigits n.toNat_lt (s := toString n) Nat.toList_repr)
  apply plainValue_of_chars hne
  intro c hc
  rcases hchars c hc with hplus | hdigit
  · exact Or.inl hplus
  · exact Or.inr (Or.inr hdigit)

end Values

/-! ## The written lines -/

section Lines

def awgFields (params : AwgParams) : List (String × Option String) :=
  [("Jc", params.jc.map toString), ("Jmin", params.jmin.map toString),
    ("Jmax", params.jmax.map toString), ("S1", params.s1.map toString),
    ("S2", params.s2.map toString), ("H1", filledHeader params.h1),
    ("H2", filledHeader params.h2), ("H3", filledHeader params.h3),
    ("H4", filledHeader params.h4)]

def fieldLine (name value : String) : String :=
  String.ofList (name.toList ++ ' ' :: '=' :: ' ' :: value.toList)

def writtenLines (fields : List (String × Option String)) : List String :=
  fields.filterMap fun field => field.2.map (fieldLine field.1)

theorem fieldLine_eq (name value : String) : name ++ " = " ++ value = fieldLine name value := by
  rw [← String.toList_inj, String.toList_append, String.toList_append, List.append_assoc]
  rw [fieldLine, show " = ".toList = [' ', '=', ' '] from rfl]
  exact String.toList_ofList.symm

theorem foldl_pushLine (fields : List (String × Option String)) {out : List String}
    (hout : out ≠ []) :
    fields.foldl (fun text field => pushLine text field.1 field.2) ("\n".intercalate out ++ "\n") =
      "\n".intercalate (out ++ writtenLines fields) ++ "\n" := by
  induction fields generalizing out with
  | nil => rw [List.foldl_nil, writtenLines, List.filterMap_nil, List.append_nil]
  | cons field rest ih =>
      obtain ⟨name, value⟩ := field
      rw [List.foldl_cons]
      cases value with
      | none => exact ih hout
      | some v =>
          have hline : pushLine ("\n".intercalate out ++ "\n") name (some v) =
              "\n".intercalate (out ++ [fieldLine name v]) ++ "\n" := by
            rw [pushLine, fieldLine_eq, String.intercalate_append_of_ne_nil hout (by simp),
              String.intercalate_singleton, String.append_assoc, String.append_assoc,
              String.append_assoc]
          dsimp only
          rw [hline, ih (by simp), List.append_assoc]
          rfl

theorem appendAwgLines_eq (params : AwgParams) :
    appendAwgLines "[Interface]\n" params =
      "\n".intercalate ("[Interface]" :: writtenLines (awgFields params)) ++ "\n" := by
  have hheader : "[Interface]\n" = "\n".intercalate ["[Interface]"] ++ "\n" := by
    rw [String.intercalate_singleton]
    rfl
  rw [← List.singleton_append, ← foldl_pushLine (awgFields params) (by simp), ← hheader]
  rfl

theorem PlainValue.keptLine {name value : String} (hname : PlainKey name.toList)
    (hvalue : PlainValue value) : KeptLine (fieldLine name value) :=
  keptLine_entry hname.graphic hvalue.graphic hvalue.ne_nil

theorem PlainValue.confEvent_eq {name value : String} (hname : PlainKey name.toList)
    (hvalue : PlainValue value) :
    confEvent (fieldLine name value) = some (.entry (toAsciiLowercase name) value) := by
  have hevent := confEvent_entry hname hvalue.graphic hvalue.ne_nil hvalue.no_comment
  rwa [String.ofList_toList, String.ofList_toList] at hevent

theorem awgEntry_event {line key val : String} (hevent : confEvent line = some (.entry key val)) :
    awgEntry true line = some (key, val) ∧ awgNext true line = true := by
  rw [confEvent] at hevent
  rw [awgEntry, awgNext]
  generalize trim (beforeComment line) = text at hevent ⊢
  dsimp only at hevent ⊢
  by_cases hempty : text = ""
  · rw [if_pos hempty] at hevent
    cases hevent
  · by_cases hsection : isSectionLine text = true
    · rw [if_neg hempty, if_pos hsection] at hevent
      cases hevent
    · rw [if_neg hempty, if_neg hsection] at hevent
      rw [if_neg (by simp [hempty, hsection]), if_neg fun h => hsection h.2]
      refine ⟨?_, rfl⟩
      generalize splitOnce '=' text = cut at hevent ⊢
      rcases cut with _ | ⟨k, v⟩
      · cases hevent
      · rw [Option.map_some] at hevent ⊢
        obtain ⟨hkey, hval⟩ := ConfEvent.entry.inj (Option.some.inj hevent)
        rw [← hkey, ← hval]

def writtenEntries (fields : List (String × Option String)) : List (String × String) :=
  fields.filterMap fun field => field.2.map fun value => (toAsciiLowercase field.1, value)

theorem outputs_written {fields : List (String × Option String)}
    (hnames : ∀ field ∈ fields, PlainKey field.1.toList)
    (hvalues : ∀ field ∈ fields, ∀ value ∈ field.2, PlainValue value) :
    Sections.outputs awgNext awgEntry true (writtenLines fields) = writtenEntries fields := by
  induction fields with
  | nil => rfl
  | cons field rest ih =>
      have htail := ih (fun other hother => hnames other (List.mem_cons_of_mem _ hother))
        fun other hother => hvalues other (List.mem_cons_of_mem _ hother)
      have hname := hnames field List.mem_cons_self
      have hvalue := hvalues field List.mem_cons_self
      obtain ⟨name, value⟩ := field
      cases value with
      | none => exact htail
      | some v =>
          obtain ⟨hentry, hnext⟩ := awgEntry_event ((hvalue v rfl).confEvent_eq hname)
          have hlines : writtenLines ((name, some v) :: rest) =
              fieldLine name v :: writtenLines rest := rfl
          rw [hlines, Sections.outputs, hentry, hnext, htail]
          rfl

end Lines

/-! ## The round trip -/

section RoundTrip

theorem validHeader_of_headerIssues {name : String} {header : Option String}
    (h : headerIssues name header = []) :
    ∀ value ∈ filledHeader header, validateMagicHeaderSpec value = .ok () := by
  intro value hvalue
  rw [headerIssues, hvalue] at h
  dsimp only at h
  have hright := (List.append_eq_nil_iff.mp h).2
  cases hspec : validateMagicHeaderSpec value with
  | ok u => rfl
  | error msg =>
      rw [hspec] at hright
      cases hright

theorem plain_filledHeader {name : String} {header : Option String}
    (h : headerIssues name header = []) : ∀ value ∈ filledHeader header, PlainValue value := by
  intro value hvalue
  obtain ⟨hne, hchars⟩ := headerChars (validHeader_of_headerIssues h value hvalue)
  exact plainValue_of_chars hne hchars

theorem plain_number (n : Option UInt16) : ∀ value ∈ n.map toString, PlainValue value := by
  intro value hvalue
  obtain ⟨number, -, rfl⟩ := Option.mem_map.mp hvalue
  exact plainValue_number number

theorem filledHeader_eq_none_of_not_hasAny {params : AwgParams} (h : params.hasAny = false) :
    filledHeader params.h1 = none ∧ filledHeader params.h2 = none ∧
      filledHeader params.h3 = none ∧ filledHeader params.h4 = none := by
  simp only [AwgParams.hasAny, Bool.or_eq_false_iff, Option.isSome_eq_false_iff,
    Option.isNone_iff_eq_none] at h
  obtain ⟨⟨⟨⟨-, h1⟩, h2⟩, h3⟩, h4⟩ := h
  exact ⟨h1, h2, h3, h4⟩

theorem headerIssues_of_valid {params : AwgParams} (h : validateAwgParams params = []) :
    headerIssues "H1" params.h1 = [] ∧ headerIssues "H2" params.h2 = [] ∧
      headerIssues "H3" params.h3 = [] ∧ headerIssues "H4" params.h4 = [] := by
  rw [validateAwgParams] at h
  cases hany : params.hasAny with
  | false =>
      obtain ⟨h1, h2, h3, h4⟩ := filledHeader_eq_none_of_not_hasAny hany
      simp only [headerIssues, h1, h2, h3, h4, and_self]
  | true =>
      rw [hany] at h
      simp only [Bool.not_true, Bool.false_eq_true, if_false, List.append_eq_nil_iff] at h
      obtain ⟨⟨⟨⟨-, h1⟩, h2⟩, h3⟩, h4⟩ := h
      exact ⟨h1, h2, h3, h4⟩

theorem plain_awgFields {params : AwgParams} (h : validateAwgParams params = []) :
    ∀ field ∈ awgFields params, ∀ value ∈ field.2, PlainValue value := by
  obtain ⟨h1, h2, h3, h4⟩ := headerIssues_of_valid h
  simp only [awgFields, List.forall_mem_cons, List.not_mem_nil, false_implies, implies_true,
    and_true]
  exact ⟨plain_number _, plain_number _, plain_number _, plain_number _, plain_number _,
    plain_filledHeader h1, plain_filledHeader h2, plain_filledHeader h3, plain_filledHeader h4⟩

theorem plain_awgNames (params : AwgParams) :
    ∀ field ∈ awgFields params, PlainKey field.1.toList := by
  have hname : ∀ name : String, (name.toList.all fun c => !isWhitespace c) = true →
      name.toList ≠ [] ∧ '#' ∉ name.toList ∧ '=' ∉ name.toList ∧ name.toList.head? ≠ some '[' →
      PlainKey name.toList :=
    fun name hgraphic h => ⟨graphic_of_all hgraphic, h.1, h.2.1, h.2.2.1, h.2.2.2⟩
  simp only [awgFields, List.forall_mem_cons, List.not_mem_nil, false_implies, implies_true,
    and_true]
  refine ⟨?_, ?_, ?_, ?_, ?_, ?_, ?_, ?_, ?_⟩ <;> exact hname _ (by decide) (by decide)

theorem awgEntries_written {params : AwgParams} (h : validateAwgParams params = []) :
    awgEntries (appendAwgLines "[Interface]\n" params) = writtenEntries (awgFields params) := by
  have hheader : KeptLine "[Interface]" ∧ awgEntry false "[Interface]" = none ∧
      awgNext false "[Interface]" = true := by
    unfold KeptLine
    decide
  have hkept : ∀ line ∈ "[Interface]" :: writtenLines (awgFields params), KeptLine line := by
    refine List.forall_mem_cons.mpr ⟨hheader.1, fun line hline => ?_⟩
    obtain ⟨field, hfield, hsome⟩ := List.mem_filterMap.mp hline
    obtain ⟨value, hvalue, rfl⟩ := Option.map_eq_some_iff.mp hsome
    have hplain := plain_awgFields h field hfield value hvalue
    exact hplain.keptLine (plain_awgNames params field hfield)
  have hlines : lines (appendAwgLines "[Interface]\n" params) =
      "[Interface]" :: writtenLines (awgFields params) := by
    rw [appendAwgLines_eq, lines_written _ (by simp) fun line hline => (hkept line hline).1]
    conv_rhs => rw [← List.map_id ("[Interface]" :: writtenLines (awgFields params))]
    exact List.map_congr_left fun line hline => (hkept line hline).2
  rw [awgEntries, hlines, Sections.outputs, hheader.2.1, hheader.2.2,
    outputs_written (plain_awgNames params) (plain_awgFields h)]
  rfl

theorem lastValue_written (key name : String) (value : Option String)
    (rest : List (String × Option String)) :
    lastValue key (writtenEntries ((name, value) :: rest)) =
      (lastValue key (writtenEntries rest)).or
        (if toAsciiLowercase name = key then value else none) := by
  cases value with
  | none =>
      rw [ite_self, Option.or_none]
      rfl
  | some v => exact lastValue_cons key (toAsciiLowercase name, v) (writtenEntries rest)

theorem lowercase_names : toAsciiLowercase "Jc" = "jc" ∧ toAsciiLowercase "Jmin" = "jmin" ∧
    toAsciiLowercase "Jmax" = "jmax" ∧ toAsciiLowercase "S1" = "s1" ∧
    toAsciiLowercase "S2" = "s2" ∧ toAsciiLowercase "H1" = "h1" ∧ toAsciiLowercase "H2" = "h2" ∧
    toAsciiLowercase "H3" = "h3" ∧ toAsciiLowercase "H4" = "h4" := by
  decide

theorem lastValue_number {key : String} {field : AwgParams → Option UInt16}
    (hfield : (key, field) ∈ numberFields) (params : AwgParams) :
    lastValue key (writtenEntries (awgFields params)) = (field params).map toString := by
  obtain ⟨hjc, hjmin, hjmax, hs1, hs2, hh1, hh2, hh3, hh4⟩ := lowercase_names
  have hnil : lastValue key (writtenEntries []) = none := rfl
  simp only [awgFields, lastValue_written, hnil, hjc, hjmin, hjmax, hs1, hs2, hh1, hh2, hh3, hh4]
  simp only [numberFields, List.mem_cons, Prod.mk.injEq, List.not_mem_nil, or_false] at hfield
  rcases hfield with ⟨rfl, rfl⟩ | ⟨rfl, rfl⟩ | ⟨rfl, rfl⟩ | ⟨rfl, rfl⟩ | ⟨rfl, rfl⟩ <;> simp

theorem lastValue_header {key : String} {field : AwgParams → Option String}
    (hfield : (key, field) ∈ headerFields) (params : AwgParams) :
    lastValue key (writtenEntries (awgFields params)) = filledHeader (field params) := by
  obtain ⟨hjc, hjmin, hjmax, hs1, hs2, hh1, hh2, hh3, hh4⟩ := lowercase_names
  have hnil : lastValue key (writtenEntries []) = none := rfl
  simp only [awgFields, lastValue_written, hnil, hjc, hjmin, hjmax, hs1, hs2, hh1, hh2, hh3, hh4]
  simp only [headerFields, List.mem_cons, Prod.mk.injEq, List.not_mem_nil, or_false] at hfield
  rcases hfield with ⟨rfl, rfl⟩ | ⟨rfl, rfl⟩ | ⟨rfl, rfl⟩ | ⟨rfl, rfl⟩ <;> simp

def AwgParams.filled (params : AwgParams) : AwgParams :=
  { params with
    h1 := filledHeader params.h1
    h2 := filledHeader params.h2
    h3 := filledHeader params.h3
    h4 := filledHeader params.h4 }

theorem filledHeader_filled (header : Option String) :
    filledHeader (filledHeader header) = filledHeader header := by
  unfold filledHeader
  rw [Option.filter_filter]
  simp

theorem hasAny_filled (params : AwgParams) : params.filled.hasAny = params.hasAny := by
  simp only [AwgParams.hasAny, AwgParams.filled, filledHeader_filled]

theorem validateAwgParams_filled (params : AwgParams) :
    validateAwgParams params.filled = validateAwgParams params := by
  have hissues : ∀ name header,
      headerIssues name (filledHeader header) = headerIssues name header := by
    intro name header
    rw [headerIssues, headerIssues, filledHeader_filled]
  rw [validateAwgParams, validateAwgParams, hasAny_filled]
  simp only [AwgParams.filled, hissues]
  rfl

theorem AwgParams.eq_of_fields {params others : AwgParams}
    (hnumbers : ∀ field ∈ numberFields, field.2 params = field.2 others)
    (hheaders : ∀ field ∈ headerFields, field.2 params = field.2 others) : params = others := by
  simp only [numberFields, List.forall_mem_cons, List.not_mem_nil, false_implies, implies_true,
    and_true] at hnumbers
  simp only [headerFields, List.forall_mem_cons, List.not_mem_nil, false_implies, implies_true,
    and_true] at hheaders
  obtain ⟨hjc, hjmin, hjmax, hs1, hs2⟩ := hnumbers
  obtain ⟨hh1, hh2, hh3, hh4⟩ := hheaders
  cases params
  cases others
  simp_all

theorem parseAwgFromConf_eq_filled {params : AwgParams} (h : validateAwgParams params = []) :
    parseAwgFromConf (appendAwgLines "[Interface]\n" params) = params.filled := by
  apply AwgParams.eq_of_fields
  · rintro ⟨key, field⟩ hfield
    dsimp only
    rw [number_parseAwgFromConf hfield, awgEntries_written h, lastValue_number hfield]
    have hsame : field params.filled = field params := by
      simp only [numberFields, List.mem_cons, Prod.mk.injEq, List.not_mem_nil, or_false] at hfield
      rcases hfield with ⟨-, rfl⟩ | ⟨-, rfl⟩ | ⟨-, rfl⟩ | ⟨-, rfl⟩ | ⟨-, rfl⟩ <;> rfl
    rw [hsame]
    cases field params with
    | none => rfl
    | some n =>
        rw [Option.map_some, Option.bind_some, parseU16_toString]
        rfl
  · rintro ⟨key, field⟩ hfield
    dsimp only
    rw [header_parseAwgFromConf hfield, awgEntries_written h, lastValue_header hfield]
    simp only [headerFields, List.mem_cons, Prod.mk.injEq, List.not_mem_nil, or_false] at hfield
    rcases hfield with ⟨-, rfl⟩ | ⟨-, rfl⟩ | ⟨-, rfl⟩ | ⟨-, rfl⟩ <;> rfl

/-- Parameters without issues come back from their lines, without issues and as obfuscated as
before. -/
theorem parseAwgFromConf_written (params : AwgParams) (h : validateAwgParams params = []) :
    parseAwgFromConf (appendAwgLines "[Interface]\n" params) = params.filled ∧
      validateAwgParams (parseAwgFromConf (appendAwgLines "[Interface]\n" params)) = [] ∧
      isAwgProfile (appendAwgLines "[Interface]\n" params) = params.hasAny := by
  have hread := parseAwgFromConf_eq_filled h
  refine ⟨hread, ?_, ?_⟩
  · rw [hread, validateAwgParams_filled, h]
  · rw [isAwgProfile, hread, hasAny_filled]

theorem parseAwgFromConf_written_junk :
    parseAwgFromConf (appendAwgLines "[Interface]\n"
      { jc := some 4, jmin := some 50, jmax := some 1000, h1 := some "1-100", h2 := some "" }) =
      { jc := some 4, jmin := some 50, jmax := some 1000, h1 := some "1-100" } := by
  have hvalid : validateAwgParams
      { jc := some 4, jmin := some 50, jmax := some 1000, h1 := some "1-100", h2 := some "" } =
      [] := by
    decide
  exact (parseAwgFromConf_written _ hvalid).1

end RoundTrip

end RouteGuard
