import RouteGuard.Platform.ConfKeys
import RouteGuard.Service.ProfileStore

/-! # Secrets and the sanitized export

Two configurations that differ in their keys alone, and what the filter of
`sanitize_conf` leaves of the difference.  The driver stack trims a line before
it reads it, the filter looks at the line as it stands. -/
set_option autoImplicit false
namespace RouteGuard

open Fallible

/-! ## Texts that differ in their keys -/

/-- `parse_conf_text` takes the private key or the preshared key from the line, in a section of
that name. -/
def ReadsSecret (name line : String) : Prop :=
  (valueOf "interface" "privatekey" name line).isSome = true ∨
    (valueOf "peer" "presharedkey" name line).isSome = true

/-- The lines differ in what stands between the sign and the comment. -/
def SameButValue (line line' : String) : Prop :=
  ∃ before value value' comment : List Char,
    line.toList = before ++ '=' :: (value ++ comment) ∧
    line'.toList = before ++ '=' :: (value' ++ comment) ∧
    '=' ∉ before ∧ '#' ∉ before ∧ '#' ∉ value ∧ '#' ∉ value' ∧
    (comment = [] ∨ comment.head? = some '#')

/-- From a section of the name on, the lines are the same but for the values of secrets. -/
inductive KeysDiffer : String → List String → List String → Prop
  | nil {name : String} : KeysDiffer name [] []
  | same {name line : String} {rest rest' : List String}
      (h : KeysDiffer (nextName name line) rest rest') :
      KeysDiffer name (line :: rest) (line :: rest')
  | secret {name line line' : String} {rest rest' : List String} (hread : ReadsSecret name line)
      (hread' : ReadsSecret name line') (hvalue : SameButValue line line')
      (h : KeysDiffer name rest rest') : KeysDiffer name (line :: rest) (line' :: rest')

def Bare (line : String) : Prop := ∀ c ∈ line.toList.head?, isWhitespace c = false

instance (line : String) : Decidable (Bare line) :=
  decidable_of_iff ((line.toList.head?.all fun c => !isWhitespace c) = true) <| by
    simp only [Bare, Option.all_eq_true, Bool.not_eq_true', Option.mem_def]

instance (name line : String) : Decidable (ReadsSecret name line) :=
  inferInstanceAs (Decidable (_ ∨ _))

section Parser
variable (parseNet : String → Except String IpNet) {scan : ConfScan} {line : String}

theorem confLine_name {scan' : ConfScan} (h : confLine parseNet scan line = .ok scan') :
    toAsciiLowercase scan'.sectionName = nextName (toAsciiLowercase scan.sectionName) line := by
  rw [confLine_event] at h
  rw [nextName]
  cases hevent : confEvent line with
  | none =>
      rw [hevent] at h
      rw [← Except.ok.inj h]
  | some event =>
      rw [hevent] at h
      cases event with
      | header name =>
          rw [← Except.ok.inj h]
      | entry key val =>
          dsimp only [confStep] at h
          split_ifs at h
          · obtain ⟨conf, _, hscan⟩ := ok_of_map h
            rw [← hscan]
          · obtain ⟨peer, _, hscan⟩ := ok_of_map h
            rw [← hscan]
          · rw [← Except.ok.inj h]

theorem entry_of_valueOf {sec key name : String}
    (h : (valueOf sec key name line).isSome = true) :
    ∃ val, confEvent line = some (.entry key val) ∧ name = sec := by
  rw [valueOf] at h
  split at h
  · rename_i k val hevent
    split at h
    · rename_i hkey
      rw [hkey.2] at hevent
      exact ⟨val, hevent, hkey.1⟩
    · cases h
  · cases h

/-- A secret that is read sets a key of the tunnel, or ends the parse. -/
theorem confLine_secret (h : ReadsSecret (toAsciiLowercase scan.sectionName) line) :
    ∃ val, confLine parseNet scan line = (decodeKey val).map (fun key =>
        { scan with conf := { scan.conf with privateKey := some key } }) ∨
      confLine parseNet scan line = (decodeKey val).map fun key =>
        { scan with curPeer := some { scan.curPeer.getD {} with presharedKey := some key } } := by
  rw [confLine_event]
  rcases h with hprivate | hpreshared
  · obtain ⟨val, hevent, hname⟩ := entry_of_valueOf hprivate
    refine ⟨val, Or.inl ?_⟩
    rw [hevent]
    dsimp only [confStep]
    rw [if_pos hname, ParsedConf.setKey, if_pos rfl]
    cases decodeKey val <;> rfl
  · obtain ⟨val, hevent, hname⟩ := entry_of_valueOf hpreshared
    have hother : ¬toAsciiLowercase scan.sectionName = "interface" := by
      rw [hname]
      decide
    refine ⟨val, Or.inr ?_⟩
    rw [hevent]
    dsimp only [confStep]
    rw [if_neg hother, if_pos hname, ParsedPeer.setKey, if_neg (by decide), if_pos rfl]
    cases decodeKey val <;> rfl

end Parser

/-! ## Lines that the filter removes -/

/-- The filter of `sanitize_conf`. -/
def keptLine (line : String) : Bool :=
  !startsWith (toAsciiLowercase line) "privatekey" &&
    !startsWith (toAsciiLowercase line) "presharedkey"

section Removed
variable {name line line' : String}

theorem sanitizeConf_eq (text : String) :
    sanitizeConf text = "\n".intercalate ((lines text).filter keptLine) ++ "\n" := rfl

theorem ReadsSecret.entry (h : ReadsSecret name line) : ∃ key val,
    confEvent line = some (.entry key val) ∧ (key = "privatekey" ∨ key = "presharedkey") := by
  rcases h with hprivate | hpreshared
  · obtain ⟨val, hevent, _⟩ := entry_of_valueOf hprivate
    exact ⟨_, val, hevent, Or.inl rfl⟩
  · obtain ⟨val, hevent, _⟩ := entry_of_valueOf hpreshared
    exact ⟨_, val, hevent, Or.inr rfl⟩

theorem startsWith_lower_iff {start : String} (s : String) :
    startsWith (toAsciiLowercase s) start = true ↔ start.toList <+: s.toList.map Char.toLower := by
  rw [startsWith, toAsciiLowercase, String.toList_ofList, List.isPrefixOf_iff_prefix]

theorem startsWith_bare_entry {key val : String} (h : confEvent line = some (.entry key val))
    (hbare : Bare line) : startsWith (toAsciiLowercase line) key = true := by
  obtain ⟨text, c, rest, rfl, _, hline⟩ := key_of_entry h
  rw [dropWhile_of_head hbare] at hline
  rw [startsWith_lower_iff, hline, toAsciiLowercase, String.toList_ofList, String.toList_ofList,
    List.map_append]
  exact List.prefix_append _ _

theorem not_startsWith_of_blank {key : String} {c : Char} {others : List Char}
    (hkey : key.toList = c :: others) (hc : isWhitespace c = false) (hblank : ¬Bare line) :
    ¬startsWith (toAsciiLowercase line) key = true := by
  rw [startsWith_lower_iff, hkey]
  intro hstart
  apply hblank
  intro d hd
  obtain ⟨rest, hline⟩ := List.head?_eq_some_iff.mp hd
  rw [hline, List.map_cons] at hstart
  have hsame : c = d.toLower := (List.cons_prefix_cons.mp hstart).1
  cases hd' : isWhitespace d with
  | false => rfl
  | true =>
      rw [toLower_of_isWhitespace hd'] at hsame
      rw [hsame, hd'] at hc
      cases hc

/-- The filter removes a secret exactly where no blank stands before it. -/
theorem keptLine_secret (h : ReadsSecret name line) : keptLine line = false ↔ Bare line := by
  obtain ⟨key, val, hevent, hkey⟩ := h.entry
  constructor
  · intro hremoved
    by_contra hblank
    have hprivate : startsWith (toAsciiLowercase line) "privatekey" = false :=
      Bool.eq_false_iff.mpr (not_startsWith_of_blank rfl (by decide) hblank)
    have hpreshared : startsWith (toAsciiLowercase line) "presharedkey" = false :=
      Bool.eq_false_iff.mpr (not_startsWith_of_blank rfl (by decide) hblank)
    rw [keptLine, hprivate, hpreshared] at hremoved
    cases hremoved
  · intro hbare
    have hstart := startsWith_bare_entry hevent hbare
    rcases hkey with rfl | rfl
    · rw [keptLine, hstart]
      rfl
    · rw [keptLine, hstart, Bool.not_true, Bool.and_false]

theorem SameButValue.bare_iff (h : SameButValue line line') : Bare line ↔ Bare line' := by
  obtain ⟨before, value, value', comment, hline, hline', _⟩ := h
  rw [Bare, Bare, hline, hline']
  cases before with
  | nil => rfl
  | cons c rest => rfl

end Removed

/-! ## What is left of the difference -/

/-- Lines that differ have no blank before them. -/
def BareWhereDifferent (left right : List String) : Prop :=
  ∀ pair ∈ left.zip right, pair.1 ≠ pair.2 → Bare pair.1

section Difference
variable {name : String} {left right : List String}

theorem KeysDiffer.length_kept (h : KeysDiffer name left right) :
    (left.filter keptLine).length = (right.filter keptLine).length := by
  induction h with
  | nil => rfl
  | @same name line rest rest' _ ih =>
      rw [List.filter_cons, List.filter_cons]
      split
      · rw [List.length_cons, List.length_cons, ih]
      · exact ih
  | @secret name line line' rest rest' hread hread' hvalue _ ih =>
      have hsame : keptLine line = keptLine line' := by
        rw [Bool.eq_iff_iff, ← not_iff_not, Bool.not_eq_true, Bool.not_eq_true,
          keptLine_secret hread, keptLine_secret hread', hvalue.bare_iff]
      rw [List.filter_cons, List.filter_cons, hsame]
      split
      · rw [List.length_cons, List.length_cons, ih]
      · exact ih

theorem bareWhereDifferent_cons (line line' : String) :
    BareWhereDifferent (line :: left) (line' :: right) ↔
      (line ≠ line' → Bare line) ∧ BareWhereDifferent left right := by
  rw [BareWhereDifferent, List.zip_cons_cons, List.forall_mem_cons]
  rfl

/-- The filter removes the difference exactly where it stands in bare lines. -/
theorem KeysDiffer.kept_eq_iff (h : KeysDiffer name left right) :
    left.filter keptLine = right.filter keptLine ↔ BareWhereDifferent left right := by
  induction h with
  | nil => exact iff_of_true rfl fun pair hmem => by cases hmem
  | @same name line rest rest' h ih =>
      rw [bareWhereDifferent_cons, ← ih, List.filter_cons, List.filter_cons]
      have hline : line ≠ line → Bare line := fun hne => absurd rfl hne
      split
      · rw [List.cons.injEq]
        exact ⟨fun heq => ⟨hline, heq.2⟩, fun heq => ⟨rfl, heq.2⟩⟩
      · exact ⟨fun heq => ⟨hline, heq⟩, fun heq => heq.2⟩
  | @secret name line line' rest rest' hread hread' hvalue h ih =>
      rw [bareWhereDifferent_cons, ← ih]
      by_cases hbare : Bare line
      · have hkept := (keptLine_secret hread).mpr hbare
        have hkept' := (keptLine_secret hread').mpr (hvalue.bare_iff.mp hbare)
        rw [List.filter_cons_of_neg (by rw [hkept]; exact Bool.false_ne_true),
          List.filter_cons_of_neg (by rw [hkept']; exact Bool.false_ne_true)]
        exact ⟨fun heq => ⟨fun _ => hbare, heq⟩, fun heq => heq.2⟩
      · have hkept : keptLine line = true := by
          rw [← Bool.not_eq_false, keptLine_secret hread]
          exact hbare
        have hkept' : keptLine line' = true := by
          rw [← Bool.not_eq_false, keptLine_secret hread', ← hvalue.bare_iff]
          exact hbare
        rw [List.filter_cons_of_pos hkept, List.filter_cons_of_pos hkept', List.cons.injEq]
        constructor
        · intro heq
          exact ⟨fun hne => absurd heq.1 hne, heq.2⟩
        · intro heq
          refine ⟨?_, heq.2⟩
          by_contra hne
          exact hbare (heq.1 hne)

/-- The written text tells which lines were kept. -/
theorem sanitizeConf_eq_iff {left right : String} (h : KeysDiffer name (lines left) (lines right)) :
    sanitizeConf left = sanitizeConf right ↔ BareWhereDifferent (lines left) (lines right) := by
  rw [← h.kept_eq_iff, sanitizeConf_eq, sanitizeConf_eq]
  constructor
  · intro heq
    have hplain (text : String) :
        ∀ piece ∈ ((lines text).filter keptLine).map String.toList, '\n' ∉ piece := by
      intro piece hmem
      obtain ⟨line, hline, rfl⟩ := List.mem_map.mp hmem
      exact not_newline_of_lines (List.mem_of_mem_filter hline)
    have hchars := congrArg String.toList heq
    rw [String.toList_append, String.toList_append, List.append_left_inj, String.toList_intercalate,
      String.toList_intercalate] at hchars
    have hlen : (((lines left).filter keptLine).map String.toList).length =
        (((lines right).filter keptLine).map String.toList).length := by
      rw [List.length_map, List.length_map]
      exact h.length_kept
    have hpieces := Segments.intercalate_inj (hplain left) (hplain right) hlen hchars
    exact List.map_injective_iff.mpr (fun _ _ => String.toList_inj.mp) hpieces
  · intro heq
    rw [heq]

end Difference

/-! ## The export -/

section Export
variable {F : Type} {fileOf : String → F} {fs : FsAnswers} {vault w : Vault F}
  {name text : String}

theorem exportProfile_sanitized
    (h : exec (exportProfile fileOf fs ⟨name, "full"⟩) vault = (.ok text, w)) :
    exec (exportProfile fileOf fs ⟨name, "sanitized"⟩) vault = (.ok (sanitizeConf text), w) := by
  simp only [exportProfile, exec_bind, exec_getProfile] at h ⊢
  cases hloaded : vault.loaded fs with
  | error e =>
      rw [hloaded] at h
      cases h
  | ok index =>
      rw [hloaded] at h
      simp only [Except.map] at h ⊢
      cases hfind : index.find? fun p => decide (p.name = name) with
      | none =>
          rw [hfind] at h
          cases h
      | some profile =>
          rw [hfind] at h
          simp only [exec_bind, exec_fsCall, exec_get] at h ⊢
          cases hread : fs.readConf with
          | some e =>
              rw [hread] at h
              cases h
          | none =>
              rw [hread] at h
              simp only [Option.elim_none] at h ⊢
              cases hfile : (vault.files (fileOf profile.configPath)).join with
              | none =>
                  rw [hfile] at h
                  cases h
              | some found =>
                  rw [hfile] at h
                  cases h
                  rfl

/-- Two profiles that differ in their keys have the same sanitized export exactly where no line
that differs begins with a blank. -/
theorem sanitizedExport_eq_iff {vault' w' : Vault F} {left right : String}
    (hleft : exec (exportProfile fileOf fs ⟨name, "full"⟩) vault = (.ok left, w))
    (hright : exec (exportProfile fileOf fs ⟨name, "full"⟩) vault' = (.ok right, w'))
    (h : KeysDiffer "" (lines left) (lines right)) :
    (exec (exportProfile fileOf fs ⟨name, "sanitized"⟩) vault).1 =
        (exec (exportProfile fileOf fs ⟨name, "sanitized"⟩) vault').1 ↔
      BareWhereDifferent (lines left) (lines right) := by
  rw [exportProfile_sanitized hleft, exportProfile_sanitized hright, Except.ok.injEq]
  exact sanitizeConf_eq_iff h

end Export

/-! ## A key behind blanks -/

def officeVault (text : String) : Vault String where
  index := .profiles [⟨"office", .auto, "office.conf", none⟩]
  files path := if path = "office.conf" then some (some text) else none

def bareText (key : String) : String := "[Interface]\nPrivateKey = " ++ key ++ "\n"

def indentedText (key : String) : String := "[Interface]\n  PrivateKey = " ++ key ++ "\n"

theorem keysDiffer_bare : KeysDiffer "" (lines (bareText "YQ==")) (lines (bareText "Yg==")) := by
  have hleft : lines (bareText "YQ==") = ["[Interface]", "PrivateKey = YQ=="] := by decide
  have hright : lines (bareText "Yg==") = ["[Interface]", "PrivateKey = Yg=="] := by decide
  rw [hleft, hright]
  refine .same (.secret (by decide) (by decide) ?_ .nil)
  exact ⟨"PrivateKey ".toList, " YQ==".toList, " Yg==".toList, [], by decide, by decide, by decide,
    by decide, by decide, by decide, Or.inl rfl⟩

theorem sanitizedExport_eq_iff_bare :
    (exec (exportProfile id {} ⟨"office", "sanitized"⟩) (officeVault (bareText "YQ=="))).1 =
        (exec (exportProfile id {} ⟨"office", "sanitized"⟩) (officeVault (bareText "Yg=="))).1 ↔
      BareWhereDifferent (lines (bareText "YQ==")) (lines (bareText "Yg==")) :=
  sanitizedExport_eq_iff rfl rfl keysDiffer_bare

/-- An indented key is read by the tunnel and stays in the sanitized export. -/
theorem indentedKey_survives : ¬∀ (fileOf : String → String) (fs : FsAnswers)
    (vault vault' w w' : Vault String) (name left right : String),
    exec (exportProfile fileOf fs ⟨name, "full"⟩) vault = (.ok left, w) →
    exec (exportProfile fileOf fs ⟨name, "full"⟩) vault' = (.ok right, w') →
    KeysDiffer "" (lines left) (lines right) →
      (exec (exportProfile fileOf fs ⟨name, "sanitized"⟩) vault).1 =
        (exec (exportProfile fileOf fs ⟨name, "sanitized"⟩) vault').1 := by
  intro hall
  have hleft : lines (indentedText "YQ==") = ["[Interface]", "  PrivateKey = YQ=="] := by decide
  have hright : lines (indentedText "Yg==") = ["[Interface]", "  PrivateKey = Yg=="] := by decide
  have hdiffer : KeysDiffer "" (lines (indentedText "YQ==")) (lines (indentedText "Yg==")) := by
    rw [hleft, hright]
    refine .same (.secret (by decide) (by decide) ?_ .nil)
    exact ⟨"  PrivateKey ".toList, " YQ==".toList, " Yg==".toList, [], by decide, by decide,
      by decide, by decide, by decide, by decide, Or.inl rfl⟩
  have hsame := hall id {} (officeVault (indentedText "YQ==")) (officeVault (indentedText "Yg=="))
    _ _ "office" _ _ rfl rfl hdiffer
  have hsanitized : sanitizeConf (indentedText "YQ==") = sanitizeConf (indentedText "Yg==") := by
    have hexport (text : String) : (exec (exportProfile id {} ⟨"office", "sanitized"⟩)
        (officeVault text)).1 = .ok (sanitizeConf text) := rfl
    rw [hexport, hexport, Except.ok.injEq] at hsame
    exact hsame
  have hbare := (sanitizeConf_eq_iff hdiffer).mp hsanitized
  rw [hleft, hright] at hbare
  have hblank := hbare ("  PrivateKey = YQ==", "  PrivateKey = Yg==") (by decide) (by decide)
  exact absurd hblank (by decide)

end RouteGuard
